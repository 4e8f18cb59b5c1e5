import ArchLint.Proofs.Records
import ArchLint.ScanCache
import Mathlib.Data.List.TakeWhile

namespace ArchLint

theorem lookup_filter_key {α β : Type} [BEq α] [LawfulBEq α] {f : α → Bool} {key : α}
    (hkey : f key = true) (entries : List (α × β)) :
    (entries.filter fun e => f e.1).lookup key = entries.lookup key := by
  induction entries with
  | nil => rfl
  | cons e entries ih =>
      obtain ⟨k, value⟩ := e
      by_cases hk : f k = true
      · simp only [List.filter_cons, hk, if_true, List.lookup_cons, ih]
      · have hne : (key == k) = false := beq_false_of_ne fun h => hk (h ▸ hkey)
        simp only [List.filter_cons, hk, Bool.false_eq_true, if_false, ih, List.lookup_cons, hne]

theorem lookup_eq_some_iff_mem {α β : Type} [BEq α] [LawfulBEq α] {entries : List (α × β)}
    (hdistinct : (entries.map (·.1)).Nodup) {key : α} {value : β} :
    entries.lookup key = some value ↔ (key, value) ∈ entries := by
  induction entries with
  | nil => simp
  | cons e entries ih =>
      obtain ⟨hnew, hdistinct⟩ := List.nodup_cons.mp hdistinct
      rw [List.lookup_cons, List.mem_cons]
      cases hkey : key == e.1 with
      | true =>
          obtain rfl := beq_iff_eq.mp hkey
          have hout : (e.1, value) ∉ entries := fun h => hnew (List.mem_map.mpr ⟨_, h, rfl⟩)
          simp [hout, Prod.ext_iff, eq_comm]
      | false =>
          have hne : (key, value) ≠ e := by
            rintro rfl
            simp at hkey
          simp [ih hdistinct, hne]

namespace Disk

variable {d d' : Disk} {place old new q : Place} {node : DiskNode}

theorem find?_put_self (hplace : place ≠ []) : (d.put place node).find? place = some node := by
  simp [find?, put, hplace]

theorem find?_put_of_ne (hq : q ≠ place) : (d.put place node).find? q = d.find? q := by
  have hkey : (q != place) = true := bne_iff_ne.mpr hq
  have hne : (q == place) = false := beq_false_of_ne hq
  simp only [find?, put, List.lookup_cons, hne, lookup_filter_key (f := (· != place)) hkey]

theorem find?_eraseTree (hq : ¬old <+: q) : (d.eraseTree old).find? q = d.find? q := by
  have hkey : (!old.isPrefixOf q) = true := by
    rw [Bool.not_eq_true', ← Bool.not_eq_true, List.isPrefixOf_iff_prefix]
    exact hq
  simp only [find?, eraseTree, lookup_filter_key (f := fun p => !old.isPrefixOf p) hkey]

/-- A directory that stands in directories. -/
def IsOpen (d : Disk) (place : Place) : Prop :=
  ∀ p, p <+: place → d.find? p = some .directory

theorem follow_of_isOpen (hopen : ∀ q, d.IsOpen q → d'.find? q = some .directory)
    {names : List String} (habove : ∀ p, p <+: place → p ≠ place → d.find? p = some .directory)
    (hfollow : d.follow place names = .ok q) : d'.follow place names = .ok q := by
  induction names generalizing place with
  | nil => exact hfollow
  | cons name rest ih =>
      rw [follow] at hfollow
      split at hfollow
      next => cases hfollow
      next => cases hfollow
      next hdirectory =>
        have hplace : d.IsOpen place := by
          intro p hp
          by_cases h : p = place
          · rw [h, hdirectory]
          · exact habove p hp h
        rw [follow, hopen place hplace]
        simp only
        split_ifs at hfollow ⊢ with hstay hup
        · exact ih habove hfollow
        · exact ih (fun p hp _ => hplace p (hp.trans (List.dropLast_prefix place))) hfollow
        · refine ih (fun p hp hne => ?_) hfollow
          rcases List.prefix_concat_iff.mp hp with h | h
          · exact absurd h hne
          · exact hplace p h

theorem locate_of_isOpen (hopen : ∀ q, d.IsOpen q → d'.find? q = some .directory)
    (hworking : d'.workingDirectory = d.workingDirectory) {path : String}
    (hlocate : d.locate path = .ok q) : d'.locate path = .ok q := by
  have hnames : d'.namesOf path = d.namesOf path := by rw [namesOf, namesOf, hworking]
  rw [locate] at hlocate ⊢
  split_ifs at hlocate ⊢
  rw [hnames]
  refine follow_of_isOpen hopen (fun p hp hne => absurd (List.prefix_nil.mp hp) hne) hlocate

theorem ne_nil_of_find?_ne (h : d.find? place ≠ some .directory) : place ≠ [] := by
  rintro rfl
  exact h rfl

theorem nodeAt_of_locate {path : String} (hlocate : d.locate path = .ok place)
    (hfind : d.find? place = some node) : d.nodeAt path = .ok (place, node) := by
  simp only [nodeAt, hlocate, bind, Except.bind, hfind]

theorem nodeAt_eq_ok {path : String} (h : d.nodeAt path = .ok (place, node)) :
    d.locate path = .ok place ∧ d.find? place = some node := by
  simp only [nodeAt, bind, Except.bind] at h
  split at h
  next => cases h
  next p hp =>
    split at h
    next n hn =>
      cases h
      exact ⟨hp, hn⟩
    next => cases h

theorem locate_put {path : String} (hlocate : d.locate path = .ok q)
    (hfind : d.find? place ≠ some .directory) : (d.put place node).locate path = .ok q := by
  have hworking : (d.put place node).workingDirectory = d.workingDirectory := rfl
  refine locate_of_isOpen (fun p hopen => ?_) hworking hlocate
  have hp := hopen p List.prefix_rfl
  have hne : p ≠ place := fun h => hfind (h ▸ hp)
  rw [find?_put_of_ne hne, hp]

theorem nodeAt_put {path : String} (hlocate : d.locate path = .ok place)
    (hfind : d.find? place ≠ some .directory) :
    (d.put place node).nodeAt path = .ok (place, node) :=
  nodeAt_of_locate (locate_put hlocate hfind) (find?_put_self (ne_nil_of_find?_ne hfind))

theorem nodeAt_put_eraseTree {content : ByteArray} {path : String}
    (hold : d.find? old = some (.file content)) (hlocate : d.locate path = .ok new)
    (hfind : d.find? new ≠ some .directory) :
    ((d.eraseTree old).put new node).nodeAt path = .ok (new, node) := by
  have hsame : ((d.eraseTree old).put new node).locate path = .ok new := by
    have hworking : ((d.eraseTree old).put new node).workingDirectory = d.workingDirectory := rfl
    refine locate_of_isOpen (fun q hopen => ?_) hworking hlocate
    have hout : ¬old <+: q := by
      intro h
      have hdirectory := hopen old h
      rw [hold] at hdirectory
      cases hdirectory
    have hq := hopen q List.prefix_rfl
    have hne : q ≠ new := fun h => hfind (h ▸ hq)
    rw [find?_put_of_ne hne, find?_eraseTree hout, hq]
  exact nodeAt_of_locate hsame (find?_put_self (ne_nil_of_find?_ne hfind))

theorem read_of_nodeAt {content : ByteArray} {path : String}
    (h : d.nodeAt path = .ok (place, .file content)) : d.read path = .ok content := by
  simp only [read, h]

theorem nodeAt_write {path : String} {content : ByteArray} (h : d.write path content = .ok d') :
    ∃ place, d'.nodeAt path = .ok (place, .file content) := by
  simp only [write, during, bind, Except.bind] at h
  split at h
  next => cases h
  next place hlocate =>
    split at h
    next => cases h
    next hfind =>
      cases h
      exact ⟨place, nodeAt_put hlocate hfind⟩

theorem nodeAt_rename {source target : String} {content : ByteArray}
    (hsource : d.nodeAt source = .ok (old, .file content))
    (h : d.rename source target = .ok d') :
    ∃ new, d'.nodeAt target = .ok (new, .file content) := by
  simp only [rename, during, bind, Except.bind, hsource] at h
  split at h
  next => cases h
  next new hlocate =>
    split at h
    next => cases h
    next hfind =>
      cases h
      exact ⟨new, nodeAt_put_eraseTree (nodeAt_eq_ok hsource).2 hlocate hfind⟩

end Disk

namespace Spill

open Text (Codec)

variable {α : Type} {codec : Codec α}

def bytesOf (codec : Codec α) (items : List α) : ByteArray :=
  Text.toBytes (String.ofList ((items.map codec.encode).flatMap Text.writeItem))

theorem toList_bytesOf_append (before after : List α) :
    (bytesOf codec (before ++ after)).toList =
      (bytesOf codec before).toList ++ (bytesOf codec after).toList := by
  simp [bytesOf, Text.toList_toBytes]

theorem bytesOf_nil : bytesOf codec [] = ByteArray.empty :=
  rfl

theorem patch_at_end (content bytes : List UInt8) :
    patch content content.length bytes = content ++ bytes := by
  simp [patch]

theorem append_content {s s' : Spill} {d d' : Disk} {place : Place} {before : List α} {item : α}
    (hnode : d.nodeAt s.path = .ok (place, .file (bytesOf codec before)))
    (hwritten : s.written = some (bytesOf codec before).toList.length)
    (h : s.append codec d item = .ok (s', d')) :
    s'.path = s.path ∧ s'.length = s.length + 1 ∧
      s'.written = some (bytesOf codec (before ++ [item])).toList.length ∧
      d'.nodeAt s.path = .ok (place, .file (bytesOf codec (before ++ [item]))) := by
  have hitem : Text.toBytes (String.ofList (Text.writeItem (codec.encode item))) =
      bytesOf codec [item] := by
    simp [bytesOf]
  obtain ⟨hlocate, hfind⟩ := Disk.nodeAt_eq_ok hnode
  have haccepted : codec.refusal? item = none := by
    cases hrefusal : codec.refusal? item with
    | none => rfl
    | some reason => simp [append, hwritten, hrefusal] at h
  simp only [append, hwritten, haccepted, hnode, hitem, patch_at_end, Except.ok.injEq,
    Prod.mk.injEq] at h
  obtain ⟨rfl, rfl⟩ := h
  refine ⟨rfl, rfl, by simp [toList_bytesOf_append], ?_⟩
  have hcontent : ((bytesOf codec before).toList ++ (bytesOf codec [item]).toList).toByteArray =
      bytesOf codec (before ++ [item]) :=
    Text.ext_toList (by rw [Text.toList_toByteArray, toList_bytesOf_append])
  rw [hcontent]
  exact Disk.nodeAt_put hlocate (by simp [hfind])

theorem appendAll_content {s s' : Spill} {d d' : Disk} {place : Place} {before items : List α}
    (hnode : d.nodeAt s.path = .ok (place, .file (bytesOf codec before)))
    (hwritten : s.written = some (bytesOf codec before).toList.length)
    (h : s.appendAll codec d items = (.ok (), s', d')) :
    d'.nodeAt s.path = .ok (place, .file (bytesOf codec (before ++ items))) := by
  induction items generalizing s d before with
  | nil =>
      cases h
      simpa using hnode
  | cons item items ih =>
      rw [appendAll] at h
      split at h
      next => cases h
      next t e happend =>
        obtain ⟨hpath, -, hwritten', hnode'⟩ := append_content hnode hwritten happend
        rw [← hpath] at hnode' ⊢
        simpa using ih hnode' hwritten' h

theorem nodeAt_create {path : String} {s : Spill} {d d' : Disk} (h : create d path = (.ok s, d')) :
    s.path = path ∧ s.written = some 0 ∧
      ∃ place, d'.nodeAt path = .ok (place, .file ByteArray.empty) := by
  unfold create at h
  split at h
  next => cases h
  next made hmade =>
    split at h
    next => cases h
    next written hwrite =>
      cases h
      exact ⟨rfl, rfl, Disk.nodeAt_write hwrite⟩

theorem readable_of_readItems {d : Disk} {path : String} {place : Place} {content : ByteArray}
    {items : List α} (hnode : d.nodeAt path = .ok (place, .file content))
    (hread : (Text.readItems (Text.ofBytes content).toList.length
      (Text.ofBytes content).toList).1 = items.map codec.encode)
    (hcodec : ∀ item ∈ items, codec.decode? (codec.encode item) = some item) :
    ∃ clean, readable codec d path = .ok (items, clean) := by
  have hdecoded : (items.map codec.encode).map codec.decode? = items.map some := by
    rw [List.map_map]
    exact List.map_congr_left hcodec
  have hintact : ((items.map some).takeWhile Option.isSome).filterMap id = items := by
    have hall : (items.map some).takeWhile Option.isSome = items.map some := by
      simp [List.takeWhile_eq_self_iff]
    simp [hall, List.filterMap_map]
  simp only [readable, hnode, hread, hdecoded, hintact]
  exact ⟨_, rfl⟩

theorem readable_bytesOf {d : Disk} {path : String} {place : Place} {items : List α}
    (hnode : d.nodeAt path = .ok (place, .file (bytesOf codec items)))
    (hcodec : ∀ item ∈ items, codec.decode? (codec.encode item) = some item) :
    ∃ clean, readable codec d path = .ok (items, clean) := by
  refine readable_of_readItems hnode ?_ hcodec
  rw [bytesOf, Text.ofBytes_toBytes, String.toList_ofList, ← List.append_nil (List.flatMap _ _)]
  exact Text.readItems_items List.not_mem_nil le_rfl

theorem readable_cut {d : Disk} {path : String} {place : Place} {content : ByteArray}
    {items : List α} (hnode : d.nodeAt path = .ok (place, .file content))
    (hcut : content.toList <+: (bytesOf codec items).toList)
    (hcodec : ∀ item ∈ items, codec.decode? (codec.encode item) = some item) :
    ∃ before clean, before <+: items ∧ readable codec d path = .ok (before, clean) := by
  obtain ⟨before, hbefore, hread⟩ := List.prefix_map_iff.mp (Text.readItems_cut hcut)
  obtain ⟨clean, hclean⟩ := readable_of_readItems hnode hread
    fun item hitem => hcodec item (hbefore.subset hitem)
  exact ⟨before, clean, hbefore, hclean⟩

end Spill

theorem UnitSpec.decode?_encode {u : UnitSpec} (hkind : UnitKind.ofText u.kind.text = u.kind) :
    UnitSpec.codec.decode? (UnitSpec.codec.encode u) = some u := by
  have habstract : ofAbstractWord? (abstractWord u.isAbstract) = some u.isAbstract := by
    rcases u.isAbstract with _ | _ | _ <;> decide
  have hexported : ((if u.exported then "exported" else "hidden") == "exported") = u.exported := by
    cases u.exported <;> decide
  simp only [UnitSpec.codec, List.cons_append, List.nil_append, habstract, Option.map_some, hkind,
    hexported]

namespace RecentCache

variable {α : Type} {c : RecentCache α} {key : String}

theorem mem_of_peek? {value : α} (h : c.peek? key = some value) : (key, value) ∈ c.entries := by
  obtain ⟨before, after, hentries, -⟩ := List.lookup_eq_some_iff.mp h
  rw [hentries]
  exact List.mem_append_right _ (List.mem_cons_self ..)

theorem touch_subset : (c.touch key).entries ⊆ c.entries := by
  rw [touch]
  split
  next value hvalue =>
    exact List.cons_subset.mpr ⟨mem_of_peek? hvalue, List.filter_sublist.subset⟩
  next => exact List.Subset.refl _

theorem put_subset (value : α) : (c.put key value).entries ⊆ (key, value) :: c.entries :=
  List.Subset.trans (List.take_subset _ _) (List.cons_subset_cons _ List.filter_sublist.subset)

theorem foldl_put_subset (entries : List (String × α)) :
    (entries.foldl (fun units e => units.put e.1 e.2) c).entries ⊆ entries ++ c.entries := by
  induction entries generalizing c with
  | nil => exact List.Subset.refl _
  | cons e entries ih =>
      refine List.Subset.trans ih ?_
      intro x hx
      rcases List.mem_append.mp hx with hx | hx
      · exact List.mem_cons_of_mem _ (List.mem_append_left _ hx)
      · rcases List.mem_cons.mp (put_subset _ hx) with rfl | hx
        · exact List.mem_cons_self ..
        · exact List.mem_cons_of_mem _ (List.mem_append_right _ hx)

end RecentCache

namespace ScanCache

theorem decode?_encode {e : String × List UnitSpec}
    (hkind : ∀ u ∈ e.2, UnitKind.ofText u.kind.text = u.kind) :
    codec.decode? (codec.encode e) = some e := by
  have hunits : ∀ units : List UnitSpec, (∀ u ∈ units, UnitKind.ofText u.kind.text = u.kind) →
      (units.map fun u => Text.joinFields (UnitSpec.codec.encode u)).mapM
        (fun u => (Text.readFields? u).bind UnitSpec.codec.decode?) = some units := by
    intro units hunits
    induction units with
    | nil => rfl
    | cons u units ih =>
        obtain ⟨hu, hunits⟩ := List.forall_mem_cons.mp hunits
        rw [List.map_cons, List.mapM_cons, ih hunits, Text.readFields?_joinFields]
        simp [UnitSpec.decode?_encode hu]
  simp only [codec, hunits e.2 hkind, Option.map_some]

theorem usedEntries_subset (c : ScanCache) : c.usedEntries ⊆ c.units.entries := by
  intro e he
  obtain ⟨key, -, hkey⟩ := List.mem_filterMap.mp he
  obtain ⟨units, hunits, rfl⟩ := Option.map_eq_some_iff.mp hkey
  exact RecentCache.mem_of_peek? hunits

/-- What is loaded from a cut file is among what was in it. -/
theorem load_subset {c c' : ScanCache} {d : Disk} {directory : String}
    {entries : List (String × List UnitSpec)} (h : c.load d directory = .ok c')
    (hcodec : ∀ e ∈ entries, codec.decode? (codec.encode e) = some e)
    (hcut : ∀ content, d.read (fileIn directory) = .ok content →
      content.toList <+: (Spill.bytesOf codec entries).toList) :
    c'.enabled = c.enabled ∧ c'.units.entries ⊆ entries ++ c.units.entries := by
  simp only [load] at h
  split at h
  next =>
    cases h
    exact ⟨rfl, List.subset_append_right _ _⟩
  next =>
    cases hnode : d.nodeAt (fileIn directory) with
    | error cause =>
        simp only [Spill.readable, hnode] at h
        split at h
        next =>
          cases h
          exact ⟨rfl, List.subset_append_right _ _⟩
        next => cases h
    | ok found =>
        obtain ⟨place, _ | content⟩ := found
        · simp only [Spill.readable, hnode] at h
          cases h
          exact ⟨rfl, List.subset_append_right _ _⟩
        · obtain ⟨before, clean, hbefore, hread⟩ :=
            Spill.readable_cut hnode (hcut content (Disk.read_of_nodeAt hnode)) hcodec
          simp only [hread] at h
          cases h
          refine ⟨rfl, List.Subset.trans (RecentCache.foldl_put_subset before) ?_⟩
          exact List.append_subset.mpr ⟨List.subset_append_of_subset_left _ hbefore.subset,
            List.subset_append_right _ _⟩

theorem read_save {c : ScanCache} {d d' : Disk} {directory : String} (henabled : c.enabled = true)
    (h : c.save d directory = (.ok (), d')) :
    d'.read (fileIn directory) = .ok (Spill.bytesOf codec c.usedEntries) := by
  simp only [save, henabled, Bool.not_true, Bool.false_eq_true, if_false] at h
  split at h
  next => cases h
  next spill created hcreate =>
    obtain ⟨hpath, hwritten, place, hempty⟩ := Spill.nodeAt_create hcreate
    split at h
    next => cases h
    next s filled happend =>
      have hstart : created.nodeAt spill.path = .ok (place, .file (Spill.bytesOf codec [])) := by
        rw [hpath, Spill.bytesOf_nil, hempty]
      have hnone : spill.written = some (Spill.bytesOf codec []).toList.length := by
        rw [hwritten, Spill.bytesOf_nil, Text.toList_eq_data]
        rfl
      have hfull := Spill.appendAll_content hstart hnone happend
      rw [hpath, List.nil_append] at hfull
      split at h
      next => cases h
      next moved hrename =>
        cases h
        obtain ⟨new, hnew⟩ := Disk.nodeAt_rename hfull hrename
        exact Disk.read_of_nodeAt hnew

end ScanCache

end ArchLint
