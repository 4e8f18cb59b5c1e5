import ArchLint.Proofs.Recency
import ArchLint.Proofs.Trees

namespace ArchLint

section Kinds

theorem UnitKind.text_ofText (s : String) : (UnitKind.ofText s).text = s := by
  rw [ofText]
  split
  next kind hkind => simpa using List.find?_some hkind
  next => rfl

/-- A unit whose kind is the one that its word names. Every word names one such
kind. -/
def UnitSpec.IsProper (u : UnitSpec) : Prop :=
  UnitKind.ofText u.kind.text = u.kind

theorem UnitSpec.isProper_of_decode? {fields : List String} {u : UnitSpec}
    (h : UnitSpec.codec.decode? fields = some u) : u.IsProper := by
  simp only [codec] at h
  split at h
  next scope name short file kind abstractness visibility references =>
    obtain ⟨isAbstract, -, rfl⟩ := Option.map_eq_some_iff.mp h
    exact congrArg UnitKind.ofText (UnitKind.text_ofText kind)
  next => cases h

theorem exists_of_mem_mapM_some {α β : Type} {f : α → Option β} {xs : List α} {ys : List β}
    (h : xs.mapM f = some ys) {y : β} (hy : y ∈ ys) : ∃ x ∈ xs, f x = some y := by
  induction xs generalizing ys with
  | nil =>
      obtain rfl : [] = ys := by simpa using h
      cases hy
  | cons x xs ih =>
      rw [List.mapM_cons] at h
      obtain ⟨first, hfirst, h⟩ := Option.bind_eq_some_iff.mp h
      obtain ⟨rest, hrest, h⟩ := Option.bind_eq_some_iff.mp h
      cases h
      rcases List.mem_cons.mp hy with rfl | hy
      · exact ⟨x, List.mem_cons_self, hfirst⟩
      · obtain ⟨x', hx', hy'⟩ := ih hrest hy
        exact ⟨x', List.mem_cons_of_mem x hx', hy'⟩

theorem ScanCache.isProper_of_decode? {fields : List String} {e : String × List UnitSpec}
    (h : ScanCache.codec.decode? fields = some e) : ∀ u ∈ e.2, u.IsProper := by
  simp only [codec] at h
  split at h
  next key texts =>
    obtain ⟨units, hunits, rfl⟩ := Option.map_eq_some_iff.mp h
    intro u hu
    obtain ⟨text, -, htext⟩ := exists_of_mem_mapM_some hunits hu
    obtain ⟨fields, -, hfields⟩ := Option.bind_eq_some_iff.mp htext
    exact UnitSpec.isProper_of_decode? hfields
  next => cases h

end Kinds

namespace Disk

variable {d d' d'' : Disk} {place p : Place} {path : String}

/-- A disk that differs from another one by a file at a place at most. -/
structure DiffersInFile (d d' : Disk) (place : Place) : Prop where
  same : ∀ q, q ≠ place → d'.find? q = d.find? q
  before : d.find? place ≠ some .directory
  after : d'.find? place ≠ some .directory
  working : d'.workingDirectory = d.workingDirectory

theorem DiffersInFile.refl (h : d.find? place ≠ some .directory) : DiffersInFile d d place :=
  ⟨fun _ _ => rfl, h, h, rfl⟩

theorem DiffersInFile.trans (h : DiffersInFile d d' place) (h' : DiffersInFile d' d'' place) :
    DiffersInFile d d'' place :=
  ⟨fun q hq => (h'.same q hq).trans (h.same q hq), h.before, h'.after,
    h'.working.trans h.working⟩

theorem DiffersInFile.put (h : d.find? place ≠ some .directory) (content : ByteArray) :
    DiffersInFile d (d.put place (.file content)) place where
  same q hq := find?_put_of_ne hq
  before := h
  after := by
    rw [find?_put_self (ne_nil_of_find?_ne h)]
    simp
  working := rfl

theorem DiffersInFile.locate (h : DiffersInFile d d' place) (hlocate : d.locate path = .ok p) :
    d'.locate path = .ok p := by
  refine locate_of_isOpen (fun q hopen => ?_) h.working hlocate
  have hq := hopen q List.prefix_rfl
  rw [h.same q fun heq => h.before (heq ▸ hq), hq]

theorem nodeAt_of_read {content : ByteArray} (h : d.read path = .ok content) :
    ∃ place, d.nodeAt path = .ok (place, .file content) := by
  unfold read at h
  split at h
  next => cases h
  next => cases h
  next place found hnode =>
    cases h
    exact ⟨place, hnode⟩

theorem getLast?_of_locate (hname : SlashPath.IsName (SlashPath.lastSegment path))
    (hlocate : d.locate path = .ok place) :
    place.getLast? = some (SlashPath.lastSegment path) := by
  obtain ⟨parent, hparent, hfollow⟩ := locate_dir hlocate
  rw [follow_name (nodeAt_eq_ok hparent).2 hname.isElement.1 hname.ne_dot hname.ne_up] at hfollow
  cases hfollow
  simp

end Disk

namespace Spill

variable {α : Type} {codec : Text.Codec α} {s s' : Spill} {d d' : Disk} {place : Place}
  {content : ByteArray}

theorem create_cases {path : String} {result : Except SpillFault Spill}
    (h : create d path = (result, d')) : ∃ made, d.Grown made ∧
      ((∃ fault, result = .error fault ∧ d' = made) ∨
        ∃ s, result = .ok s ∧ s.path = path ∧ made.write path ByteArray.empty = .ok d') := by
  unfold create at h
  split at h
  next fault hfault =>
    cases h
    exact ⟨_, .afterMaking d _, Or.inl ⟨_, rfl, rfl⟩⟩
  next made hmade =>
    refine ⟨made, .makeDirectories hmade, ?_⟩
    split at h
    next =>
      cases h
      exact Or.inl ⟨_, rfl, rfl⟩
    next written hwrite =>
      cases h
      exact Or.inr ⟨_, rfl, rfl, hwrite⟩

theorem append_differsInFile {item : α} (hnode : d.nodeAt s.path = .ok (place, .file content))
    (h : s.append codec d item = .ok (s', d')) :
    s'.path = s.path ∧ d.DiffersInFile d' place ∧
      ∃ content', d'.nodeAt s.path = .ok (place, .file content') := by
  obtain ⟨hlocate, hfind⟩ := Disk.nodeAt_eq_ok hnode
  have hfile : d.find? place ≠ some .directory := by simp [hfind]
  rw [append] at h
  split at h
  next => cases h
  next => cases h
  next =>
    simp only [hnode] at h
    cases h
    exact ⟨rfl, .put hfile _, _, Disk.nodeAt_put hlocate hfile⟩

theorem appendAll_differsInFile {items : List α} {result : Except SpillFault Unit}
    (hnode : d.nodeAt s.path = .ok (place, .file content))
    (h : s.appendAll codec d items = (result, s', d')) : d.DiffersInFile d' place := by
  induction items generalizing s d content with
  | nil =>
      cases h
      exact .refl (by simp [(Disk.nodeAt_eq_ok hnode).2])
  | cons item items ih =>
      rw [appendAll] at h
      split at h
      next =>
        cases h
        exact .refl (by simp [(Disk.nodeAt_eq_ok hnode).2])
      next t e happend =>
        obtain ⟨hpath, hfirst, content', hnode'⟩ := append_differsInFile hnode happend
        exact hfirst.trans (ih (hpath ▸ hnode') h)

end Spill

namespace ScanCache

/-- The calls on a cache. Every load and every save finds a disk of its own. -/
inductive Call where
  | get (key : String)
  | put (key : String) (units : List UnitSpec)
  | load (disk : Disk) (directory : String)
  | save (disk : Disk) (directory : String)

def perform (c : ScanCache) : Call → ScanCache
  | .get key => (c.get key).2
  | .put key units => c.put key units
  | .load disk directory =>
      match c.load disk directory with
      | .ok loaded => loaded
      | .error _ => c
  | .save _ _ => c

def run (size : Int) (calls : List Call) : ScanCache :=
  calls.foldl perform (ofSize size)

/-- A key was stored, or looked up and found, by one of the calls on a new
cache. -/
def WasUsed (size : Int) (calls : List Call) (key : String) : Prop :=
  ∃ before call after, calls = before ++ call :: after ∧
    ((∃ units, call = .put key units) ∨
      call = .get key ∧ ((run size before).get key).1.isSome = true)

/-- The units that a call stores have proper kinds. -/
def Call.IsProper : Call → Prop
  | .put _ units => ∀ u ∈ units, u.IsProper
  | _ => True

/-- What every call preserves: the cache is on and has room, it holds entries
with different keys, and their units have proper kinds. -/
structure IsSound (c : ScanCache) : Prop where
  enabled : c.enabled = true
  room : 0 < c.units.capacity
  units : c.units.IsSound
  used : c.used.Nodup
  proper : ∀ e ∈ c.units.entries, ∀ u ∈ e.2, u.IsProper

section Calls

variable {c loaded : ScanCache} {d d' : Disk} {directory key : String} {size : Int}
  {calls : List Call}

theorem run_concat (size : Int) (calls : List Call) (call : Call) :
    run size (calls ++ [call]) = (run size calls).perform call := by
  rw [run, List.foldl_append, List.foldl_cons, List.foldl_nil, run]

theorem isSound_ofSize (size : Int) : (ofSize size).IsSound where
  enabled := rfl
  room := by
    rw [ofSize]
    dsimp only
    split_ifs with h
    · decide
    · omega
  units := ⟨List.nodup_nil, Nat.zero_le _⟩
  used := List.nodup_nil
  proper := by simp [ofSize]

theorem mem_used_markUsed {other : String} :
    other ∈ (c.markUsed key).used ↔ other = key ∨ other ∈ c.used := by
  rw [markUsed]
  split_ifs with h
  · have hkey : key ∈ c.used := by simpa using h
    constructor
    · exact Or.inr
    · rintro (rfl | hother)
      · exact hkey
      · exact hother
  · exact List.mem_cons

theorem get_fst (c : ScanCache) (key : String) : (c.get key).1 = c.units.peek? key := by
  rw [get]
  split
  next units hunits => exact hunits.symm
  next hnone => exact hnone.symm

theorem nodup_markUsed (h : c.used.Nodup) : (c.markUsed key).used.Nodup := by
  rw [markUsed]
  split_ifs with hkey
  · exact h
  · exact List.nodup_cons.mpr ⟨by simpa using hkey, h⟩

theorem units_markUsed (c : ScanCache) (key : String) : (c.markUsed key).units = c.units := by
  rw [markUsed]
  split_ifs <;> rfl

theorem enabled_markUsed (c : ScanCache) (key : String) :
    (c.markUsed key).enabled = c.enabled := by
  rw [markUsed]
  split_ifs <;> rfl

/-- What a load does: entries that can be read are put one after the other. -/
theorem load_eq_ok (henabled : c.enabled = true) (h : c.load d directory = .ok loaded) :
    ∃ entries : List (String × List UnitSpec),
      (∀ e ∈ entries, ∀ u ∈ e.2, u.IsProper) ∧
      loaded = { c with units := entries.foldl (fun units e => units.put e.1 e.2) c.units } := by
  rw [load, if_neg (by simp [henabled])] at h
  split at h
  next fault hfault =>
    split_ifs at h
    cases h
    exact ⟨[], by simp, rfl⟩
  next entries clean hread =>
    cases h
    refine ⟨entries, fun e he => ?_, rfl⟩
    unfold Spill.readable at hread
    split at hread
    next => cases hread
    next =>
      cases hread
      cases he
    next =>
      simp only [Except.ok.injEq, Prod.mk.injEq] at hread
      obtain ⟨rfl, -⟩ := hread
      obtain ⟨decoded, hdecoded, rfl⟩ := List.mem_filterMap.mp he
      have hitem := (List.takeWhile_prefix _).subset hdecoded
      obtain ⟨fields, -, hfields⟩ := List.mem_map.mp hitem
      exact isProper_of_decode? hfields

theorem IsSound.get (h : c.IsSound) (key : String) : (c.get key).2.IsSound := by
  rw [ScanCache.get]
  split
  next units hunits =>
    refine ⟨?_, ?_, ?_, nodup_markUsed h.used, ?_⟩
    · rw [enabled_markUsed]
      exact h.enabled
    · rw [units_markUsed, RecentCache.capacity_touch]
      exact h.room
    · rw [units_markUsed]
      exact h.units.touch key
    · rw [units_markUsed]
      exact fun e he => h.proper e (RecentCache.touch_subset he)
  next => exact h

theorem IsSound.put (h : c.IsSound) {units : List UnitSpec} (hunits : ∀ u ∈ units, u.IsProper) :
    (c.put key units).IsSound := by
  rw [ScanCache.put, if_pos h.enabled]
  refine ⟨?_, ?_, ?_, nodup_markUsed h.used, ?_⟩
  · rw [enabled_markUsed]
    exact h.enabled
  · rw [units_markUsed]
    exact h.room
  · rw [units_markUsed]
    exact h.units.put key units
  · rw [units_markUsed]
    intro e he
    rcases List.mem_cons.mp (RecentCache.put_subset units he) with rfl | he
    · exact hunits
    · exact h.proper e he

theorem IsSound.load (h : c.IsSound) (hload : c.load d directory = .ok loaded) :
    loaded.IsSound := by
  obtain ⟨entries, hproper, rfl⟩ := load_eq_ok h.enabled hload
  refine ⟨h.enabled, ?_, h.units.foldl_put entries, h.used, fun e he => ?_⟩
  · rw [RecentCache.foldl_put h.units]
    exact h.room
  · rcases List.mem_append.mp (RecentCache.foldl_put_subset entries he) with he | he
    · exact hproper e he
    · exact h.proper e he

theorem IsSound.perform (h : c.IsSound) {call : Call} (hcall : call.IsProper) :
    (c.perform call).IsSound := by
  cases call with
  | get key => exact h.get key
  | put key units => exact h.put hcall
  | load disk directory =>
      rw [ScanCache.perform]
      split
      next loaded hload => exact h.load hload
      next => exact h
  | save disk directory => exact h

theorem isSound_run (hcalls : ∀ call ∈ calls, call.IsProper) : (run size calls).IsSound := by
  induction calls using List.reverseRecOn with
  | nil => exact isSound_ofSize size
  | append_singleton calls call ih =>
      rw [List.forall_mem_append] at hcalls
      rw [run_concat]
      exact (ih hcalls.1).perform (hcalls.2 call (List.mem_singleton_self call))

theorem mem_used_get {other : String} :
    key ∈ (c.get other).2.used ↔
      key ∈ c.used ∨ other = key ∧ (c.get key).1.isSome = true := by
  rw [get_fst, get]
  split
  next units hunits =>
    rw [mem_used_markUsed]
    constructor
    · rintro (rfl | hkey)
      · exact Or.inr ⟨rfl, by rw [hunits, Option.isSome_some]⟩
      · exact Or.inl hkey
    · rintro (hkey | ⟨rfl, -⟩)
      · exact Or.inr hkey
      · exact Or.inl rfl
  next hnone =>
    refine ⟨Or.inl, ?_⟩
    rintro (hkey | ⟨rfl, hsome⟩)
    · exact hkey
    · rw [hnone] at hsome
      cases hsome

theorem mem_used_put (henabled : c.enabled = true) {other : String} {units : List UnitSpec} :
    key ∈ (c.put other units).used ↔ key ∈ c.used ∨ other = key := by
  rw [put, if_pos henabled, mem_used_markUsed, or_comm, eq_comm]

theorem mem_used_perform (henabled : c.enabled = true) {call : Call} :
    key ∈ (c.perform call).used ↔ key ∈ c.used ∨
      ((∃ units, call = .put key units) ∨ call = .get key ∧ (c.get key).1.isSome = true) := by
  cases call with
  | get other =>
      rw [perform, mem_used_get]
      simp
  | put other units =>
      rw [perform, mem_used_put henabled]
      simp
  | load disk directory =>
      rw [perform]
      split
      next loaded hload =>
        obtain ⟨entries, -, rfl⟩ := load_eq_ok henabled hload
        simp
      next => simp
  | save disk directory => simp [perform]

theorem wasUsed_concat {call : Call} : WasUsed size (calls ++ [call]) key ↔
    WasUsed size calls key ∨ ((∃ units, call = .put key units) ∨
      call = .get key ∧ ((run size calls).get key).1.isSome = true) := by
  constructor
  · rintro ⟨before, used, after, heq, huse⟩
    rcases List.eq_nil_or_concat after with rfl | ⟨after, last, rfl⟩
    · obtain ⟨rfl, hlast⟩ := List.append_inj' heq rfl
      obtain rfl : call = used := by simpa using hlast
      exact Or.inr huse
    · rw [List.concat_eq_append, ← List.cons_append, ← List.append_assoc] at heq
      exact Or.inl ⟨before, used, after, (List.append_inj' heq rfl).1, huse⟩
  · rintro (⟨before, used, after, rfl, huse⟩ | huse)
    · exact ⟨before, used, after ++ [call], by simp, huse⟩
    · exact ⟨calls, call, [], rfl, huse⟩

theorem mem_used_run (hcalls : ∀ call ∈ calls, call.IsProper) :
    key ∈ (run size calls).used ↔ WasUsed size calls key := by
  induction calls using List.reverseRecOn with
  | nil =>
      constructor
      · rintro ⟨⟩
      · rintro ⟨before, call, after, heq, -⟩
        simp at heq
  | append_singleton calls call ih =>
      have hbefore := fun other hother => hcalls other (List.mem_append_left [call] hother)
      rw [run_concat, mem_used_perform (isSound_run hbefore).enabled, ih hbefore, wasUsed_concat]

end Calls

section Saving

variable {c : ScanCache} {d d' : Disk} {directory key : String}

theorem mem_usedEntries {units : List UnitSpec} :
    (key, units) ∈ c.usedEntries ↔ key ∈ c.used ∧ c.units.peek? key = some units := by
  simp only [usedEntries, List.mem_filterMap, List.mem_mergeSort, Option.map_eq_some_iff,
    Prod.mk.injEq]
  constructor
  · rintro ⟨other, hused, found, hfound, rfl, rfl⟩
    exact ⟨hused, hfound⟩
  · rintro ⟨hused, hfound⟩
    exact ⟨key, hused, units, hfound, rfl, rfl⟩

theorem nodup_usedEntries (h : c.used.Nodup) : (RecentCache.keysOf c.usedEntries).Nodup := by
  have hkeys : RecentCache.keysOf c.usedEntries =
      (c.used.mergeSort Text.byteLe).filter fun key => (c.units.peek? key).isSome := by
    rw [RecentCache.keysOf, usedEntries]
    induction c.used.mergeSort Text.byteLe with
    | nil => rfl
    | cons key keys ih => cases hkey : c.units.peek? key <;> simp [hkey, ih]
  rw [hkeys]
  exact ((List.mergeSort_perm _ _).nodup_iff.mpr h).filter _

theorem load_save (h : c.IsSound) (hsave : c.save d directory = (.ok (), d')) {size : Int}
    (hsize : c.usedEntries.length ≤ (ofSize size).units.capacity) :
    ∃ loaded, (ofSize size).load d' directory = .ok loaded ∧ ∀ key units,
      (loaded.get key).1 = some units ↔ key ∈ c.used ∧ c.units.peek? key = some units := by
  have hcodec : ∀ e ∈ c.usedEntries, codec.decode? (codec.encode e) = some e :=
    fun e he => decode?_encode (h.proper e (c.usedEntries_subset he))
  obtain ⟨place, hnode⟩ := Disk.nodeAt_of_read (read_save h.enabled hsave)
  obtain ⟨clean, hread⟩ := Spill.readable_bytesOf hnode hcodec
  have hload : (ofSize size).load d' directory = .ok { ofSize size with
      units := c.usedEntries.foldl (fun units e => units.put e.1 e.2) (ofSize size).units } := by
    rw [load, if_neg (by simp [ofSize]), hread]
  refine ⟨_, hload, fun key units => ?_⟩
  have hlength := RecentCache.length_stack_le (ofSize size).units.entries c.usedEntries
  have hall : (RecentCache.stack (ofSize size).units.entries c.usedEntries).length ≤
      (ofSize size).units.capacity := hlength.trans (by simpa [ofSize] using hsize)
  have hdistinct := nodup_usedEntries h.used
  rw [get_fst, ← mem_usedEntries, ← lookup_eq_some_iff_mem hdistinct]
  simp only [RecentCache.foldl_put (isSound_ofSize size).units, List.take_of_length_le hall,
    RecentCache.peek?, RecentCache.lookup_stack hdistinct]
  simp [ofSize]

theorem isName_cacheFile : SlashPath.IsName "scan-cache.gob" :=
  ⟨⟨by decide, by decide⟩, by decide, by decide, by decide⟩

theorem lastSegment_fileIn (directory : String) :
    SlashPath.lastSegment (fileIn directory) = "scan-cache.gob" := by
  by_cases hempty : directory = ""
  · subst hempty
    decide
  · exact SlashPath.lastSegment_join hempty isName_cacheFile

/-- The name of the file that a cache is written to at first. -/
def temporaryName : String :=
  "scan-cache.gob.tmp"

theorem getLast?_temporary {place : Place}
    (hlocate : d.locate (fileIn directory ++ ".tmp") = .ok place) :
    place.getLast? = some temporaryName := by
  have hlast : SlashPath.lastSegment (fileIn directory ++ ".tmp") = temporaryName := by
    rw [SlashPath.lastSegment_append _ (by decide), lastSegment_fileIn]
    decide
  have hname : SlashPath.IsName temporaryName :=
    ⟨⟨by decide, by decide⟩, by decide, by decide, by decide⟩
  rw [← hlast]
  exact Disk.getLast?_of_locate (hlast ▸ hname) hlocate

/-- What a save that fails leaves: new directories, and the file that was to
take the place of the old one. -/
theorem save_eq_error {fault : ScanCacheFault} (h : c.save d directory = (.error fault, d')) :
    ∃ made, d.Grown made ∧ (d' = made ∨
      ∃ place, place.getLast? = some temporaryName ∧ made.DiffersInFile d' place) := by
  rw [save] at h
  split_ifs at h
  · cases h
  dsimp only at h
  split at h
  next fault created hcreate =>
    obtain ⟨made, hmade, ⟨_, -, rfl⟩ | ⟨s, hs, -⟩⟩ := Spill.create_cases hcreate
    · cases h
      exact ⟨d', hmade, Or.inl rfl⟩
    · cases hs
  next spill created hcreate =>
    obtain ⟨made, hmade, ⟨_, hfault, -⟩ | ⟨s, hs, hpath, hwrite⟩⟩ := Spill.create_cases hcreate
    · cases hfault
    cases hs
    obtain ⟨file, hlocate, hfree, rfl⟩ := Disk.write_eq_ok hwrite
    have hcreated := Disk.DiffersInFile.put hfree ByteArray.empty
    have hnode : (made.put file (.file ByteArray.empty)).nodeAt spill.path =
        .ok (file, .file ByteArray.empty) := hpath ▸ Disk.nodeAt_put hlocate hfree
    refine ⟨made, hmade, Or.inr ⟨file, getLast?_temporary hlocate, ?_⟩⟩
    split at h
    next happend =>
      cases h
      exact hcreated.trans (Spill.appendAll_differsInFile hnode happend)
    next happend =>
      split at h
      next =>
        cases h
        exact hcreated.trans (Spill.appendAll_differsInFile hnode happend)
      next => cases h

theorem files_of_save_error {fault : ScanCacheFault}
    (h : c.save d directory = (.error fault, d')) :
    (∀ place content, place.getLast? ≠ some temporaryName →
      (d'.find? place = some (.file content) ↔ d.find? place = some (.file content))) ∧
    ∀ content, d.read (fileIn directory) = .ok content →
      d'.read (fileIn directory) = .ok content := by
  obtain ⟨made, hmade, hrest⟩ := save_eq_error h
  have hfiles : ∀ place content, place.getLast? ≠ some temporaryName →
      (d'.find? place = some (.file content) ↔ d.find? place = some (.file content)) := by
    intro place content hplace
    rw [← hmade.find?_file]
    rcases hrest with rfl | ⟨temporary, hlast, hdiffers⟩
    · rfl
    · rw [hdiffers.same place]
      rintro rfl
      exact hplace hlast
  refine ⟨hfiles, fun content hread => ?_⟩
  obtain ⟨place, hnode⟩ := Disk.nodeAt_of_read hread
  obtain ⟨hlocate, hfind⟩ := Disk.nodeAt_eq_ok hnode
  have hlast : place.getLast? ≠ some temporaryName := by
    have hname := (lastSegment_fileIn directory).symm ▸ isName_cacheFile
    rw [Disk.getLast?_of_locate hname hlocate, lastSegment_fileIn]
    decide
  have hlocate' : d'.locate (fileIn directory) = .ok place := by
    rcases hrest with rfl | ⟨temporary, -, hdiffers⟩
    · exact hmade.locate hlocate
    · exact hdiffers.locate (hmade.locate hlocate)
  exact Disk.read_of_nodeAt
    (Disk.nodeAt_of_locate hlocate' ((hfiles place content hlast).mpr hfind))

end Saving

/-- Whatever was called on a new cache: what is saved are the entries that were
stored or found and are still there, a save that fails leaves the cache file as
it was, and a load uses no key and takes no entry away while there is room. -/
theorem run_persistent {size : Int} {calls : List Call}
    (hcalls : ∀ call ∈ calls, call.IsProper) :
    (∀ disk directory disk', (run size calls).save disk directory = (.ok (), disk') →
      ∀ fresh, (run size calls).usedEntries.length ≤ (ofSize fresh).units.capacity →
        ∃ loaded, (ofSize fresh).load disk' directory = .ok loaded ∧
          ∀ key units, (loaded.get key).1 = some units ↔
            WasUsed size calls key ∧ (run size calls).units.peek? key = some units) ∧
    (∀ disk directory fault disk', (run size calls).save disk directory = (.error fault, disk') →
      (∀ place content, place.getLast? ≠ some temporaryName →
        (disk'.find? place = some (.file content) ↔ disk.find? place = some (.file content))) ∧
      ∀ content, disk.read (fileIn directory) = .ok content →
        disk'.read (fileIn directory) = .ok content) ∧
    ∀ disk directory loaded, (run size calls).load disk directory = .ok loaded →
      (∀ key, WasUsed size (calls ++ [.load disk directory]) key ↔ WasUsed size calls key) ∧
      loaded.used = (run size calls).used ∧
      ∀ key, (run size calls).units.peek? key ≠ none → loaded.units.peek? key = none →
        loaded.units.entries.length = (run size calls).units.capacity := by
  have hsound : (run size calls).IsSound := isSound_run hcalls
  refine ⟨fun disk directory disk' hsave fresh hfresh => ?_,
    fun disk directory fault disk' hsave => files_of_save_error hsave,
    fun disk directory loaded hload => ?_⟩
  · obtain ⟨loaded, hload, hfinds⟩ := load_save hsound hsave hfresh
    refine ⟨loaded, hload, fun key units => ?_⟩
    rw [hfinds, mem_used_run hcalls]
  · obtain ⟨entries, -, rfl⟩ := load_eq_ok hsound.enabled hload
    refine ⟨fun key => ?_, rfl, fun key hbefore hgone => ?_⟩
    · rw [wasUsed_concat]
      simp
    · exact RecentCache.full_of_foldl_put hsound.units entries hbefore hgone

/-- Calls that load the units of a file and store those of another one. -/
def loadedAndStored : List Call :=
  [.load ((run 2 [.put "a@m" [{ name := "m.A", kind := .func }]]).save {} "out").2 "out",
    .put "b@m" [{ name := "m.B", kind := .struct, isAbstract := some false }]]

theorem run_persistent_loaded :
    (∀ call ∈ loadedAndStored, call.IsProper) ∧
    ((run 2 loadedAndStored).get "a@m").1 = some [{ name := "m.A", kind := .func }] ∧
    ∃ disk loaded, (run 2 loadedAndStored).save {} "out" = (.ok (), disk) ∧
      (ofSize 2).load disk "out" = .ok loaded ∧ (loaded.get "a@m").1 = none ∧
      (loaded.get "b@m").1 =
        some [{ name := "m.B", kind := .struct, isAbstract := some false }] := by
  have hproper : ∀ call ∈ loadedAndStored, call.IsProper := by
    simp only [loadedAndStored, List.forall_mem_cons, List.not_mem_nil, false_implies,
      implies_true, Call.IsProper, UnitSpec.IsProper, and_true, true_and]
    decide
  obtain ⟨hsave, hroom, hfirst, hunused, hsecond⟩ :
      ((run 2 loadedAndStored).save {} "out").1 = .ok () ∧
        (run 2 loadedAndStored).usedEntries.length ≤ (ofSize 2).units.capacity ∧
        ((run 2 loadedAndStored).get "a@m").1 = some [{ name := "m.A", kind := .func }] ∧
        "a@m" ∉ (run 2 loadedAndStored).used ∧
        (run 2 loadedAndStored).units.peek? "b@m" =
          some [{ name := "m.B", kind := .struct, isAbstract := some false }] := by
    decide +kernel
  obtain ⟨loaded, hload, hfinds⟩ :=
    (run_persistent hproper).1 {} "out" _ (Prod.ext hsave rfl) 2 hroom
  refine ⟨hproper, hfirst, _, loaded, Prod.ext hsave rfl, hload, ?_, ?_⟩
  · rw [← Option.not_isSome_iff_eq_none, Option.isSome_iff_exists]
    rintro ⟨units, hunits⟩
    exact hunused ((mem_used_run hproper).mpr ((hfinds _ _).mp hunits).1)
  · exact (hfinds _ _).mpr ⟨⟨_ :: [], _, [], rfl, Or.inl ⟨_, rfl⟩⟩, hsecond⟩

end ScanCache

end ArchLint
