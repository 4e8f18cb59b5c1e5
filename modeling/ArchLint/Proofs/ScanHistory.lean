import ArchLint.Proofs.Listing
import ArchLint.Proofs.SavedCache
import ArchLint.Report
import Mathlib.Data.Set.Function

/-!
A scan with a cache finds what it finds without one. Every entry of a cache
stays what reading a file with its key would give, whatever scans were made
before, however their tasks took turns, and whatever was saved and loaded in
between.
-/

namespace ArchLint

section Relocation

theorem Source.Declaration.units_relocate (s : Source.Scope) (tags : List DocTag) {path : String}
    (hpath : path ≠ "") (target : String) (declaration : Source.Declaration) :
    declaration.units s tags target = Scan.relocate target (declaration.units s tags path) := by
  cases declaration with
  | type name parameters t doc => simp [units, Scan.relocate, hpath]
  | values isConstant names ts vs doc => simp [units, Scan.relocate, hpath]
  | function receiver name signature body doc =>
      cases receiver with
      | nil => simp [units, Scan.relocate, hpath]
      | cons field rest =>
          cases hname : receiverName? (fieldType field) <;>
            simp [units, Scan.relocate, hname, Scope.unit]

theorem Source.unitsOfBytes?_relocate (tags : List DocTag) {path : String} (hpath : path ≠ "")
    (target package : String) (content : ByteArray) :
    unitsOfBytes? tags target package content =
      (unitsOfBytes? tags path package content).map (Scan.relocate target) := by
  have hunits : File.units tags target package =
      Scan.relocate target ∘ File.units tags path package := by
    funext file
    simp only [Function.comp_apply, File.units, Scan.relocate, List.map_flatMap]
    congr 1
    funext declaration
    exact declaration.units_relocate _ tags hpath target
  simp only [unitsOfBytes?, Option.map_bind]
  congr 1
  funext text
  rw [Function.comp_apply, unitsOfText?, unitsOfText?, Option.map_map, hunits]

theorem Source.kind_of_units (s : Source.Scope) (tags : List DocTag) (path : String)
    (declaration : Source.Declaration) :
    ∀ u ∈ declaration.units s tags path, UnitKind.ofText u.kind.text = u.kind := by
  cases declaration with
  | type name parameters t doc =>
      have hkind : UnitKind.ofText (kindOf t).1.text = (kindOf t).1 := by
        unfold kindOf
        split <;> decide
      simpa [Declaration.units] using hkind
  | values isConstant names ts vs doc =>
      simp only [Declaration.units, List.forall_mem_map]
      intro name hname
      cases isConstant <;> decide
  | function receiver name signature body doc =>
      cases receiver with
      | nil =>
          simp only [Declaration.units, List.mem_singleton, forall_eq]
          decide
      | cons field rest =>
          simp only [Declaration.units, Option.mem_toList, Option.map_eq_some_iff]
          rintro u ⟨owner, -, rfl⟩
          simp only [Scope.unit]
          decide

theorem Source.kind_of_unitsOfBytes? {tags : List DocTag} {path package : String}
    {content : ByteArray} {units : List UnitSpec}
    (h : unitsOfBytes? tags path package content = some units) :
    ∀ u ∈ units, UnitKind.ofText u.kind.text = u.kind := by
  simp only [unitsOfBytes?, unitsOfText?, Option.bind_eq_some_iff, Option.map_eq_some_iff] at h
  obtain ⟨text, -, file, -, rfl⟩ := h
  intro u hu
  obtain ⟨declaration, -, hu⟩ := List.mem_flatMap.mp hu
  exact kind_of_units _ tags path declaration u hu

end Relocation

theorem Text.length_digest (bytes : ByteArray) : (Text.digest bytes).toList.length = 64 := by
  simp [Text.digest, Text.wordBytes, Text.byteText]

namespace ScanCache

theorem keyOf_inj {a b : ByteArray} {package package' : String}
    (h : keyOf (Text.digest a) package = keyOf (Text.digest b) package') :
    Text.digest a = Text.digest b ∧ package = package' := by
  have hlist := congrArg String.toList h
  simp only [keyOf, String.toList_append, List.append_assoc] at hlist
  obtain ⟨hdigest, hpackage⟩ :=
    List.append_inj hlist ((Text.length_digest a).trans (Text.length_digest b).symm)
  exact ⟨String.toList_injective hdigest,
    String.toList_injective (List.append_cancel_left hpackage)⟩

/-- An entry that some file with its key has given. The contents of the files
that are scanned at all are the involved ones. -/
def IsGenuine (tags : List DocTag) (involved : Set ByteArray) (e : String × List UnitSpec) : Prop :=
  ∃ path package content, path ≠ "" ∧ content ∈ involved ∧
    e.1 = keyOf (Text.digest content) package ∧
    Source.unitsOfBytes? tags path package content = some e.2

variable {tags : List DocTag} {involved : Set ByteArray}

theorem IsGenuine.decode?_encode {e : String × List UnitSpec} (h : IsGenuine tags involved e) :
    codec.decode? (codec.encode e) = some e := by
  obtain ⟨path, package, content, -, -, -, hunits⟩ := h
  exact ScanCache.decode?_encode (Source.kind_of_unitsOfBytes? hunits)

theorem IsGenuine.units_eq (hdigest : Set.InjOn Text.digest involved) {content : ByteArray}
    (hcontent : content ∈ involved) {package : String} {units : List UnitSpec}
    (h : IsGenuine tags involved (keyOf (Text.digest content) package, units)) (path : String) :
    Source.unitsOfBytes? tags path package content = some (Scan.relocate path units) := by
  obtain ⟨origin, package', content', horigin, hcontent', hkey, hunits⟩ := h
  obtain ⟨hhash, rfl⟩ := keyOf_inj hkey
  obtain rfl := hdigest hcontent hcontent' hhash
  rw [Source.unitsOfBytes?_relocate tags horigin, hunits, Option.map_some]

/-- A cache that has genuine entries only. -/
structure IsFaithful (tags : List DocTag) (involved : Set ByteArray) (c : ScanCache) : Prop where
  enabled : c.enabled = true
  genuine : ∀ e ∈ c.units.entries, IsGenuine tags involved e

theorem isFaithful_ofSize (size : Int) : IsFaithful tags involved (ofSize size) :=
  ⟨rfl, by simp [ofSize]⟩

variable {c : ScanCache}

theorem isFaithful_markUsed (h : IsFaithful tags involved c) (key : String) :
    IsFaithful tags involved (c.markUsed key) := by
  rw [markUsed]
  split_ifs
  · exact h
  · exact ⟨h.enabled, h.genuine⟩

theorem isFaithful_get (h : IsFaithful tags involved c) (key : String) :
    IsFaithful tags involved (c.get key).2 ∧
      ∀ units, (c.get key).1 = some units → IsGenuine tags involved (key, units) := by
  rw [get]
  split
  next units hpeek =>
    have htouch : IsFaithful tags involved { c with units := c.units.touch key } :=
      ⟨h.enabled, fun e he => h.genuine e (RecentCache.touch_subset he)⟩
    refine ⟨isFaithful_markUsed htouch key, ?_⟩
    intro _ hfound
    cases hfound
    exact h.genuine _ (RecentCache.mem_of_peek? hpeek)
  next => exact ⟨h, nofun⟩

theorem isFaithful_put (h : IsFaithful tags involved c) {key : String} {units : List UnitSpec}
    (hunits : IsGenuine tags involved (key, units)) :
    IsFaithful tags involved (c.put key units) := by
  rw [put, if_pos h.enabled]
  have hput : IsFaithful tags involved { c with units := c.units.put key units } := by
    refine ⟨h.enabled, fun e he => ?_⟩
    rcases List.mem_cons.mp (RecentCache.put_subset _ he) with rfl | hmem
    · exact hunits
    · exact h.genuine e hmem
  exact isFaithful_markUsed hput key

end ScanCache

namespace Scan

/-- How far the scan of a file is: its units have to be looked up, or they are
not in the cache and have to be read, or there is an outcome. -/
inductive Progress where
  | waiting
  | missed
  | finished (outcome : Option (ScannedSource × Bool))

structure Task where
  file : SourceFile
  progress : Progress

def Task.ofFile (file : SourceFile) : Task :=
  ⟨file, .waiting⟩

section Tasks

variable (disk : Disk) (tags : List DocTag) (modulePath : String)

/-- A turn of a task: it looks its units up, or it reads them and stores
them. -/
def Task.step (cache : ScanCache) (t : Task) : Task × ScanCache :=
  let package := ImportPath.ofFile modulePath t.file.shortPath
  let key := ScanCache.keyOf t.file.hash package
  match t.progress with
  | .waiting =>
      match cache.get key with
      | (some units, cache) =>
          let source := ⟨t.file, package, relocate t.file.shortPath units⟩
          (⟨t.file, .finished (some (source, true))⟩, cache)
      | (none, cache) => (⟨t.file, .missed⟩, cache)
  | .missed =>
      match Source.unitsOfBytes? tags t.file.shortPath package (contentOf disk t.file) with
      | some units =>
          (⟨t.file, .finished (some (⟨t.file, package, units⟩, false))⟩, cache.put key units)
      | none => (⟨t.file, .finished none⟩, cache)
  | .finished _ => (t, cache)

/-- Tasks that take turns. The schedule has the places of those whose turn it
is. -/
def interleave : List Task → ScanCache → List Nat → List Task × ScanCache
  | tasks, cache, [] => (tasks, cache)
  | tasks, cache, i :: rest =>
      match tasks[i]? with
      | none => interleave tasks cache rest
      | some t =>
          let turn := t.step disk tags modulePath cache
          interleave (tasks.set i turn.1) turn.2 rest

theorem step_step (cache : ScanCache) (file : SourceFile) :
    let first := (Task.ofFile file).step disk tags modulePath cache
    first.1.step disk tags modulePath first.2 =
      (⟨file, .finished (scanFile disk tags modulePath cache file).1⟩,
        (scanFile disk tags modulePath cache file).2) := by
  rcases hget : cache.get (ScanCache.keyOf file.hash (ImportPath.ofFile modulePath file.shortPath))
    with ⟨_ | units, c⟩
  · simp only [Task.step, Task.ofFile, scanFile, hget, contentOf]
    cases Source.unitsOfBytes? tags file.shortPath (ImportPath.ofFile modulePath file.shortPath)
      ((disk.read file.fullPath).toOption.getD ByteArray.empty) <;> rfl
  · simp only [Task.step, Task.ofFile, scanFile, hget]

/-- Every place from one on, twice in a row. -/
def inOrder : Nat → Nat → List Nat
  | _, 0 => []
  | first, n + 1 => first :: first :: inOrder (first + 1) n

/-- To scan files one after the other is one way to take turns. -/
theorem interleave_inOrder (cache : ScanCache) (files : List SourceFile) :
    let done := interleave disk tags modulePath (files.map Task.ofFile) cache
      (inOrder 0 files.length)
    let scanned := scanFiles disk tags modulePath cache files
    done.1.map (·.progress) = scanned.1.map .finished ∧ done.2 = scanned.2 := by
  -- the files that are left, with the tasks of the others in front of them
  have hrest : ∀ (before : List Task) (cache : ScanCache),
      let done := interleave disk tags modulePath (before ++ files.map Task.ofFile) cache
        (inOrder before.length files.length)
      let scanned := scanFiles disk tags modulePath cache files
      done.1.map (·.progress) = before.map (·.progress) ++ scanned.1.map .finished ∧
        done.2 = scanned.2 := by
    induction files with
    | nil =>
        intro before cache
        simp [inOrder, interleave, scanFiles]
    | cons file files ih =>
        intro before cache
        have hget : ∀ (t : Task) (after : List Task),
            (before ++ t :: after)[before.length]? = some t := by
          simp
        have hset : ∀ (t t' : Task) (after : List Task),
            (before ++ t :: after).set before.length t' = before ++ t' :: after := by
          simp
        simp only [List.map_cons, List.length_cons, inOrder, interleave, hget, hset, step_step,
          scanFiles]
        have hnext := ih
          (before ++ [⟨file, .finished (scanFile disk tags modulePath cache file).1⟩])
          (scanFile disk tags modulePath cache file).2
        simpa using hnext
  simpa using hrest [] cache

/-- What a scan finds in a file that no cache knows. -/
def readSource? (file : SourceFile) : Option ScannedSource :=
  let package := ImportPath.ofFile modulePath file.shortPath
  (Source.unitsOfBytes? tags file.shortPath package (contentOf disk file)).map (⟨file, package, ·⟩)

/-- An outcome of a task, if there is one, is what is found in its file. -/
def Task.IsSound (t : Task) : Prop :=
  ∀ outcome, t.progress = .finished outcome →
    outcome.map (·.1) = readSource? disk tags modulePath t.file

end Tasks

section Soundness

variable {disk : Disk} {tags : List DocTag} {modulePath : String} {involved : Set ByteArray}
  {cache : ScanCache}

/-- A file of a listing, one with an involved content. -/
structure IsListed (disk : Disk) (involved : Set ByteArray) (file : SourceFile) : Prop where
  hash : file.hash = Text.digest (contentOf disk file)
  path : file.shortPath ≠ ""
  content : contentOf disk file ∈ involved

theorem step_sound (modulePath : String) (hdigest : Set.InjOn Text.digest involved)
    (hcache : cache.IsFaithful tags involved) {t : Task} (hfile : IsListed disk involved t.file)
    (ht : t.IsSound disk tags modulePath) :
    let turn := t.step disk tags modulePath cache
    turn.1.file = t.file ∧ turn.1.IsSound disk tags modulePath ∧
      turn.2.IsFaithful tags involved := by
  obtain ⟨file, progress⟩ := t
  cases progress with
  | waiting =>
      obtain ⟨hfaithful, hfound⟩ := ScanCache.isFaithful_get hcache
        (ScanCache.keyOf file.hash (ImportPath.ofFile modulePath file.shortPath))
      rcases hget : cache.get
        (ScanCache.keyOf file.hash (ImportPath.ofFile modulePath file.shortPath))
        with ⟨_ | units, c⟩
      · rw [hget] at hfaithful
        simp only [Task.step, hget]
        exact ⟨trivial, nofun, hfaithful⟩
      · rw [hget] at hfaithful hfound
        simp only [Task.step, hget]
        refine ⟨trivial, ?_, hfaithful⟩
        intro outcome houtcome
        cases houtcome
        have hgenuine := hfound units rfl
        rw [hfile.hash] at hgenuine
        simp only [readSource?, hgenuine.units_eq hdigest hfile.content, Option.map_some]
  | missed =>
      cases hunits : Source.unitsOfBytes? tags file.shortPath
        (ImportPath.ofFile modulePath file.shortPath) (contentOf disk file) with
      | none =>
          simp only [Task.step, hunits]
          refine ⟨trivial, ?_, hcache⟩
          intro outcome houtcome
          cases houtcome
          simp only [readSource?, hunits, Option.map_none]
      | some units =>
          simp only [Task.step, hunits]
          refine ⟨trivial, ?_, ScanCache.isFaithful_put hcache ?_⟩
          · intro outcome houtcome
            cases houtcome
            simp only [readSource?, hunits, Option.map_some]
          · exact ⟨file.shortPath, _, contentOf disk file, hfile.path, hfile.content,
              by rw [hfile.hash], hunits⟩
  | finished outcome => exact ⟨rfl, ht, hcache⟩

theorem interleave_sound (hdigest : Set.InjOn Text.digest involved)
    (hcache : cache.IsFaithful tags involved) {tasks : List Task}
    (hfiles : ∀ t ∈ tasks, IsListed disk involved t.file)
    (hsound : ∀ t ∈ tasks, t.IsSound disk tags modulePath) (schedule : List Nat) :
    let done := interleave disk tags modulePath tasks cache schedule
    done.1.map (·.file) = tasks.map (·.file) ∧ (∀ t ∈ done.1, t.IsSound disk tags modulePath) ∧
      done.2.IsFaithful tags involved := by
  induction schedule generalizing tasks cache with
  | nil => exact ⟨rfl, hsound, hcache⟩
  | cons i schedule ih =>
      rw [interleave]
      cases hi : tasks[i]? with
      | none => exact ih hcache hfiles hsound
      | some t =>
          have hmem := List.mem_of_getElem? hi
          obtain ⟨hfile, hstep, hfaithful⟩ :=
            step_sound modulePath hdigest hcache (hfiles t hmem) (hsound t hmem)
          have hset : (tasks.set i (t.step disk tags modulePath cache).1).map (·.file) =
              tasks.map (·.file) := by
            have hself : (tasks.map (·.file))[i]? = some t.file := by simp [hi]
            obtain ⟨hlt, hself⟩ := List.getElem?_eq_some_iff.mp hself
            rw [List.map_set, hfile, ← hself, List.set_getElem_self]
          have hnext : ∀ t' ∈ tasks.set i (t.step disk tags modulePath cache).1,
              IsListed disk involved t'.file ∧ t'.IsSound disk tags modulePath := by
            intro t' ht'
            rcases List.mem_or_eq_of_mem_set ht' with ht' | rfl
            · exact ⟨hfiles t' ht', hsound t' ht'⟩
            · exact ⟨hfile ▸ hfiles t hmem, hstep⟩
          obtain ⟨hmap, hrest⟩ :=
            ih hfaithful (fun t' ht' => (hnext t' ht').1) (fun t' ht' => (hnext t' ht').2)
          exact ⟨hmap.trans hset, hrest⟩

theorem interleave_ofFile (hdigest : Set.InjOn Text.digest involved)
    (hcache : cache.IsFaithful tags involved) (modulePath : String) {files : List SourceFile}
    (hfiles : ∀ file ∈ files, IsListed disk involved file) (schedule : List Nat) :
    let done := interleave disk tags modulePath (files.map Task.ofFile) cache schedule
    done.1.map (·.file) = files ∧ (∀ t ∈ done.1, t.IsSound disk tags modulePath) ∧
      done.2.IsFaithful tags involved := by
  have hlisted : ∀ t ∈ files.map Task.ofFile, IsListed disk involved t.file := by
    simpa [Task.ofFile] using hfiles
  have hsound : ∀ t ∈ files.map Task.ofFile, t.IsSound disk tags modulePath := by
    simp [Task.ofFile, Task.IsSound]
  have hsame : (files.map Task.ofFile).map (·.file) = files := by
    simp [Task.ofFile, Function.comp_def]
  obtain ⟨hmap, hrest⟩ := interleave_sound hdigest hcache hlisted hsound schedule
  exact ⟨hmap.trans hsame, hrest⟩

end Soundness

section Reports

variable {disk : Disk} {tags : List DocTag} {start root modulePath : String}
  {selection : Selection} {cancelled : Bool} {files : List SourceFile}

theorem scanFiles_off (disk : Disk) (tags : List DocTag) (modulePath : String)
    (files : List SourceFile) :
    (scanFiles disk tags modulePath ScanCache.off files).1.map (·.map (·.1)) =
      files.map (readSource? disk tags modulePath) := by
  have hfile : ∀ file, scanFile disk tags modulePath ScanCache.off file =
      ((readSource? disk tags modulePath file).map (·, false), ScanCache.off) := by
    intro file
    have hget : ∀ key, ScanCache.off.get key = (none, ScanCache.off) := fun _ => rfl
    have hput : ∀ key units, ScanCache.off.put key units = ScanCache.off := fun _ _ => rfl
    simp only [scanFile, hget, hput, readSource?, contentOf]
    cases Source.unitsOfBytes? tags file.shortPath (ImportPath.ofFile modulePath file.shortPath)
      ((disk.read file.fullPath).toOption.getD ByteArray.empty) <;> rfl
  induction files with
  | nil => rfl
  | cons file files ih => simp [scanFiles, hfile, ih, Function.comp_def]

/-- What a scan reports about the outcomes of its files. -/
def collect (root modulePath : String) (outcomes : List (Option (ScannedSource × Bool))) :
    ScanResult :=
  let found := outcomes.filterMap id
  { root, modulePath
    sources := found.map (·.1)
    cached := (found.filter (·.2)).length
    skipped := outcomes.length - found.length }

theorem run_of_select (cache : ScanCache)
    (hselect : select disk start selection cancelled = .ok (root, modulePath, files)) :
    let scanned := scanFiles disk tags modulePath cache files
    run disk tags cache start selection cancelled =
      (.ok (collect root modulePath scanned.1), scanned.2) := by
  unfold run
  simp only [hselect, collect]

theorem sources_collect (outcomes : List (Option (ScannedSource × Bool))) :
    (collect root modulePath outcomes).sources = (outcomes.map (·.map (·.1))).filterMap id := by
  rw [List.filterMap_map]
  simp only [collect, List.map_filterMap]
  rfl

theorem skipped_collect (outcomes : List (Option (ScannedSource × Bool))) :
    (collect root modulePath outcomes).skipped =
      (outcomes.map (·.map (·.1))).length - (collect root modulePath outcomes).sources.length := by
  simp [collect]

theorem collect_congr (root modulePath : String)
    {outcomes outcomes' : List (Option (ScannedSource × Bool))}
    (h : outcomes.map (·.map (·.1)) = outcomes'.map (·.map (·.1))) :
    collect root modulePath outcomes =
      { collect root modulePath outcomes' with
        cached := (collect root modulePath outcomes).cached } := by
  have hsources : (collect root modulePath outcomes).sources =
      (collect root modulePath outcomes').sources := by
    rw [sources_collect, sources_collect, h]
  have hskipped : (collect root modulePath outcomes).skipped =
      (collect root modulePath outcomes').skipped := by
    rw [skipped_collect, skipped_collect, hsources, h]
  dsimp only
  rw [← hsources, ← hskipped]
  rfl

end Reports

/-- The past of a cache that is used for scans: the contents of the files that it
was saved to and the cache as it is. A scan may stop at any point, a saved file
may be cut off before it is loaded, and a new cache may take the place of the
old one. -/
inductive History (tags : List DocTag) (involved : Set ByteArray) :
    List ByteArray → ScanCache → Prop
  | start (size : Int) : History tags involved [] (ScanCache.ofSize size)
  | renew {saved : List ByteArray} {cache : ScanCache} (h : History tags involved saved cache)
      (size : Int) : History tags involved saved (ScanCache.ofSize size)
  | scan {saved : List ByteArray} {cache : ScanCache} (h : History tags involved saved cache)
      {disk : Disk} {start root modulePath : String} {selection : Selection} {cancelled : Bool}
      {files : List SourceFile}
      (hselect : select disk start selection cancelled = .ok (root, modulePath, files))
      (hinvolved : ∀ file ∈ files, contentOf disk file ∈ involved) (schedule : List Nat) :
      History tags involved saved
        (interleave disk tags modulePath (files.map Task.ofFile) cache schedule).2
  | save {saved : List ByteArray} {cache : ScanCache} (h : History tags involved saved cache)
      {disk disk' : Disk} {directory : String} {content : ByteArray}
      (hsave : cache.save disk directory = (.ok (), disk'))
      (hcontent : disk'.read (ScanCache.fileIn directory) = .ok content) :
      History tags involved (content :: saved) cache
  | load {saved : List ByteArray} {cache cache' : ScanCache}
      (h : History tags involved saved cache) {disk : Disk} {directory : String}
      (hfile : ∀ content, disk.read (ScanCache.fileIn directory) = .ok content →
        ∃ whole ∈ saved, content.toList <+: whole.toList)
      (hload : cache.load disk directory = .ok cache') : History tags involved saved cache'

section Transparency

variable {tags : List DocTag} {involved : Set ByteArray} {saved : List ByteArray}
  {cache : ScanCache} {disk : Disk} {start root modulePath : String} {selection : Selection}
  {cancelled : Bool} {files : List SourceFile}

theorem isListed_of_select
    (hselect : select disk start selection cancelled = .ok (root, modulePath, files))
    (hinvolved : ∀ file ∈ files, contentOf disk file ∈ involved) :
    ∀ file ∈ files, IsListed disk involved file := by
  intro file hfile
  obtain ⟨hhash, hpath⟩ := listed_of_select hselect file hfile
  exact ⟨hhash, hpath, hinvolved file hfile⟩

theorem History.run (h : History tags involved saved cache)
    (hselect : select disk start selection cancelled = .ok (root, modulePath, files))
    (hinvolved : ∀ file ∈ files, contentOf disk file ∈ involved) :
    History tags involved saved (Scan.run disk tags cache start selection cancelled).2 := by
  rw [run_of_select cache hselect, ← (interleave_inOrder disk tags modulePath cache files).2]
  exact h.scan hselect hinvolved _

/-- Whatever happened to a cache, its entries are genuine, and so are those of
the files that it was saved to. -/
theorem History.isFaithful (hdigest : Set.InjOn Text.digest involved)
    (h : History tags involved saved cache) :
    cache.IsFaithful tags involved ∧
      ∀ content ∈ saved, ∃ entries, content = Spill.bytesOf ScanCache.codec entries ∧
        ∀ e ∈ entries, ScanCache.IsGenuine tags involved e := by
  induction h with
  | start size => exact ⟨ScanCache.isFaithful_ofSize size, by simp⟩
  | renew _ size ih => exact ⟨ScanCache.isFaithful_ofSize size, ih.2⟩
  | scan _ hselect hinvolved schedule ih =>
      have hlisted := isListed_of_select hselect hinvolved
      exact ⟨(interleave_ofFile hdigest ih.1 _ hlisted schedule).2.2, ih.2⟩
  | @save saved cache _ disk disk' directory content hsave hcontent ih =>
      refine ⟨ih.1, List.forall_mem_cons.mpr ⟨⟨cache.usedEntries, ?_, ?_⟩, ih.2⟩⟩
      · rw [ScanCache.read_save ih.1.enabled hsave] at hcontent
        exact (Except.ok.inj hcontent).symm
      · exact fun e he => ih.1.genuine e (cache.usedEntries_subset he)
  | @load saved cache cache' _ disk directory hfile hload ih =>
      refine ⟨?_, ih.2⟩
      obtain ⟨entries, hcut, hgenuine⟩ : ∃ entries,
          (∀ content, disk.read (ScanCache.fileIn directory) = .ok content →
            content.toList <+: (Spill.bytesOf ScanCache.codec entries).toList) ∧
          ∀ e ∈ entries, ScanCache.IsGenuine tags involved e := by
        cases hread : disk.read (ScanCache.fileIn directory) with
        | error fault => exact ⟨[], nofun, by simp⟩
        | ok content =>
            obtain ⟨whole, hwhole, hprefix⟩ := hfile content hread
            obtain ⟨entries, rfl, hgenuine⟩ := ih.2 whole hwhole
            refine ⟨entries, ?_, hgenuine⟩
            intro content' hcontent'
            cases hcontent'
            exact hprefix
      obtain ⟨henabled, hsubset⟩ := ScanCache.load_subset hload
        (fun e he => (hgenuine e he).decode?_encode) hcut
      refine ⟨henabled.trans ih.1.enabled, fun e he => ?_⟩
      rcases List.mem_append.mp (hsubset he) with hmem | hmem
      · exact hgenuine e hmem
      · exact ih.1.genuine e hmem

theorem outcomes_of_isSound {done : List Task} {outcomes : List (Option (ScannedSource × Bool))}
    (hsound : ∀ t ∈ done, t.IsSound disk tags modulePath)
    (hdone : done.map (·.progress) = outcomes.map .finished) :
    outcomes.map (·.map (·.1)) = (done.map (·.file)).map (readSource? disk tags modulePath) := by
  induction done generalizing outcomes with
  | nil => simp_all
  | cons t done ih =>
      cases outcomes with
      | nil => simp at hdone
      | cons outcome outcomes =>
          obtain ⟨ht, hsound⟩ := List.forall_mem_cons.mp hsound
          obtain ⟨hprogress, hdone⟩ := List.cons.inj hdone
          simp only [List.map_cons, ht outcome hprogress, ih hsound hdone]

theorem sources_sublist (files : List SourceFile) :
    ((files.filterMap (readSource? disk tags modulePath)).map (·.file)).Sublist files := by
  induction files with
  | nil => exact .slnil
  | cons file files ih =>
      cases hread : readSource? disk tags modulePath file with
      | none =>
          rw [List.filterMap_cons_none hread]
          exact ih.cons _
      | some source =>
          obtain ⟨units, -, rfl⟩ := Option.map_eq_some_iff.mp hread
          rw [List.filterMap_cons_some hread]
          exact ih.cons_cons _

/-- What a check reports about the files that a scan found. -/
def reportOf [Matching] (result : ScanResult) (config : Config) (now : Timestamp) :
    Except (List ConfigFault) Report :=
  (Analysis.build config (result.sources.map (·.forAnalysis))).map fun graph =>
    Report.build graph result.root now

/-- As long as the fingerprints of the involved contents tell them apart, a scan
finds the same with a cache of any past as without one, in whatever order its
tasks take turns. -/
theorem cache_transparent [Matching] (hdigest : Set.InjOn Text.digest involved)
    (hhistory : History tags involved saved cache)
    (hselect : select disk start selection cancelled = .ok (root, modulePath, files))
    (hinvolved : ∀ file ∈ files, contentOf disk file ∈ involved) :
    ∃ plain, (Scan.run disk tags ScanCache.off start selection cancelled).1 = .ok plain ∧
      plain.sources.length + plain.skipped = files.length ∧
      (plain.sources.map (·.file)).Sublist files ∧
      (∃ result, (Scan.run disk tags cache start selection cancelled).1 = .ok result ∧
        result = { plain with cached := result.cached } ∧
        ∀ config now, reportOf result config now = reportOf plain config now) ∧
      ∀ schedule outcomes,
        (interleave disk tags modulePath (files.map Task.ofFile) cache schedule).1.map
            (·.progress) = outcomes.map .finished →
          let result := collect root modulePath outcomes
          result = { plain with cached := result.cached } ∧
            ∀ config now, reportOf result config now = reportOf plain config now := by
  have hlisted := isListed_of_select hselect hinvolved
  have hfaithful := (hhistory.isFaithful hdigest).1
  have hoff := scanFiles_off disk tags modulePath files
  obtain ⟨plain, hplain⟩ : ∃ plain, plain =
      collect root modulePath (scanFiles disk tags modulePath ScanCache.off files).1 := ⟨_, rfl⟩
  have hsources : plain.sources = files.filterMap (readSource? disk tags modulePath) := by
    rw [hplain, sources_collect, hoff, List.filterMap_map, Function.id_comp]
  have hreport : ∀ schedule outcomes,
      (interleave disk tags modulePath (files.map Task.ofFile) cache schedule).1.map
          (·.progress) = outcomes.map .finished →
        let result := collect root modulePath outcomes
        result = { plain with cached := result.cached } ∧
          ∀ config now, reportOf result config now = reportOf plain config now := by
    intro schedule outcomes hdone
    obtain ⟨hfiles, hsound, -⟩ := interleave_ofFile hdigest hfaithful modulePath hlisted schedule
    have hresult : collect root modulePath outcomes =
        { plain with cached := (collect root modulePath outcomes).cached } := by
      rw [hplain]
      apply collect_congr root modulePath
      rw [outcomes_of_isSound hsound hdone, hfiles, hoff]
    refine ⟨hresult, fun config now => ?_⟩
    rw [hresult]
    rfl
  refine ⟨plain, by rw [run_of_select _ hselect, hplain], ?_, ?_, ?_, hreport⟩
  · rw [hplain, skipped_collect, ← hplain, hoff, hsources, List.length_map]
    exact Nat.add_sub_cancel' (List.length_filterMap_le _ _)
  · rw [hsources]
    exact sources_sublist files
  · exact ⟨_, by rw [run_of_select _ hselect],
      hreport _ _ (interleave_inOrder disk tags modulePath cache files).1⟩

end Transparency

/-- Whether files are selected, and all of them have one content. -/
def selectsOnly (disk : Disk) (start : String) (selection : Selection) (content : ByteArray) :
    Bool :=
  match select disk start selection false with
  | .ok (_, _, files) => files.all fun file => decide ((contentOf disk file).data = content.data)
  | .error _ => false

theorem select_of_selectsOnly {disk : Disk} {start : String} {selection : Selection}
    {content : ByteArray} (h : selectsOnly disk start selection content = true) :
    ∃ root modulePath files,
      select disk start selection false = .ok (root, modulePath, files) ∧
        ∀ file ∈ files, contentOf disk file ∈ ({content} : Set ByteArray) := by
  unfold selectsOnly at h
  split at h
  next root modulePath files hselect =>
    exact ⟨root, modulePath, files, hselect,
      fun file hfile => ByteArray.ext (of_decide_eq_true (List.all_eq_true.mp h file hfile))⟩
  next => cases h

def declaringT : ByteArray :=
  Text.toBytes "package p\n\ntype T int\n"

/-- A project that has the source text in a file of a name. -/
def projectWith (name : String) : Disk :=
  { nodes := [(["p"], .directory), (["p", "go.mod"], .file (Text.toBytes "module m\n")),
      (["p", name], .file declaringT)] }

theorem cache_transparent_renamed :
    let cache :=
      (run (projectWith "a.go") DocTag.all (ScanCache.ofSize 2) "/p" { paths := ["a.go"] } false).2
    ∃ plain result,
      (run (projectWith "b.go") DocTag.all ScanCache.off "/p" { paths := ["b.go"] } false).1 =
        .ok plain ∧
      (run (projectWith "b.go") DocTag.all cache "/p" { paths := ["b.go"] } false).1 =
        .ok result ∧
      result = { plain with cached := result.cached } := by
  have hboth : selectsOnly (projectWith "a.go") "/p" { paths := ["a.go"] } declaringT = true ∧
      selectsOnly (projectWith "b.go") "/p" { paths := ["b.go"] } declaringT = true := by
    decide +kernel
  obtain ⟨_, _, _, hfirst, hinvolved⟩ := select_of_selectsOnly hboth.1
  obtain ⟨_, _, _, hsecond, hinvolved'⟩ := select_of_selectsOnly hboth.2
  have hstart : History DocTag.all {declaringT} [] (ScanCache.ofSize 2) := .start 2
  have hhistory := hstart.run hfirst hinvolved
  obtain ⟨plain, hplain, -, -, ⟨result, hresult, heq, -⟩, -⟩ :=
    cache_transparent (Set.injOn_singleton _ _) hhistory hsecond hinvolved'
  exact ⟨plain, result, hplain, hresult, heq⟩

end Scan

end ArchLint
