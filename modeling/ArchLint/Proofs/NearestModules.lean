import ArchLint.Proofs.ScanHistory
import ArchLint.Proofs.SelectedFiles

/-!
Which module a file belongs to. The search for a module file goes up and ends at
the closest one; a walk goes down and stays out of directories that have one.
Both find the same files for a module.
-/

namespace ArchLint

namespace SlashPath

variable {names dirs root : List String} {name : String}

theorem dir_append (front : String) (hname : '/' ∉ name.toList) :
    dir (front ++ "/" ++ name) = clean (front ++ "/") := by
  have hfront : ((front ++ "/" ++ name).toList.reverse.dropWhile (· != '/')).reverse =
      (front ++ "/").toList := by
    rw [String.toList_append, String.toList_append]
    exact (Text.isCutAfter_concat front.toList hname).reverse_eq.1
  rw [dir, hfront, String.ofList_toList]

theorem dir_name (hname : '/' ∉ name.toList) : dir name = "." := by
  have hnone : (name.toList.reverse.dropWhile (· != '/')).reverse = [] :=
    (Text.isCutAfter_nil hname).reverse_eq.1
  rw [dir, hnone]
  decide

theorem pathOf_concat (names : List String) (name : String) :
    pathOf (names ++ [name]) = (if names = [] then "" else pathOf names) ++ "/" ++ name := by
  split_ifs with hnames
  · subst hnames
    simp [pathOf, Text.joinWith]
  · rw [pathOf, joinWith_concat hnames, pathOf]
    simp only [String.append_assoc]

theorem clean_slash {path : String} (hpath : path ≠ "") : clean (path ++ "/") = clean path := by
  have hsegments : segments (path ++ "/") = segments path ++ [""] :=
    segments_slashes path 1
  have hfold : (segments (path ++ "/")).foldl (cleanStep (isAbsolute path)) [] =
      (segments path).foldl (cleanStep (isAbsolute path)) [] := by
    rw [hsegments, List.foldl_append, List.foldl_cons, List.foldl_nil, cleanStep.eq_def,
      if_pos (Or.inl rfl)]
  simp only [clean, isAbsolute_append hpath, hfold]

theorem dir_pathOf (hnames : ∀ s ∈ names ++ [name], IsPlain s) :
    dir (pathOf (names ++ [name])) = pathOf names := by
  obtain ⟨hnames, hname⟩ := List.forall_mem_append.mp hnames
  have hslash := (hname name (List.mem_singleton_self name)).isElement.2
  rw [pathOf_concat, dir_append _ hslash]
  split_ifs with hnil
  · subst hnil
    decide
  · rw [clean_slash (by simp [pathOf]), clean_pathOf hnames]

theorem length_le_pathOf (names : List String) : names.length ≤ (pathOf names).length := by
  induction names using List.reverseRecOn with
  | nil => simp
  | append_singleton names name ih =>
      have hslash : "/".length = 1 := rfl
      rw [pathOf_concat, List.length_append, List.length_singleton]
      split_ifs with hnames
      · simp [hnames, hslash]
      · simp only [String.length_append]
        omega

theorem dropCommon_append (root names : List String) :
    dropCommon root (root ++ names) = ([], names, false) := by
  induction root with
  | nil => cases names <;> rfl
  | cons name root ih => rw [List.cons_append, dropCommon, if_pos rfl, ih]

theorem relative?_below (hnames : ∀ s ∈ root ++ names, IsPlain s) (hne : names ≠ []) :
    relative? (pathOf root) (pathOf (root ++ names)) = some (Text.joinWith "/" names) := by
  have hroot : ∀ s ∈ root, IsPlain s := fun s hs => hnames s (List.mem_append_left names hs)
  have hdifferent : pathOf root ≠ pathOf (root ++ names) := by
    intro h
    exact hne (by simpa using pathOf_injective hroot hnames h)
  rw [relative?_pathOf hroot hnames hdifferent, dropCommon_append]
  rfl

theorem cleaned_joinWith (hdirs : ∀ s ∈ dirs, IsPlain s) (hne : dirs ≠ []) :
    cleaned (Text.joinWith "/" dirs) = dirs.reverse := by
  have hslash : ∀ s ∈ dirs, '/' ∉ s.toList := fun s hs => (hdirs s hs).isElement.2
  rw [cleaned, segments_joinWith hslash hne, foldl_cleanStep_plain hdirs, List.append_nil]

theorem dir_joinWith (hdirs : ∀ s ∈ dirs, IsPlain s) (hname : '/' ∉ name.toList) :
    dir (Text.joinWith "/" (dirs ++ [name])) =
      if dirs = [] then "." else Text.joinWith "/" dirs := by
  split_ifs with hnil
  · subst hnil
    simpa [Text.joinWith] using dir_name hname
  · obtain ⟨first, rest, rfl⟩ := List.exists_cons_of_ne_nil hnil
    obtain ⟨hfirst, hrest⟩ := List.forall_mem_cons.mp hdirs
    have hwhole := joinWith_ne_empty hfirst.isElement.1 rest
    rw [joinWith_concat hnil, dir_append _ hname, clean_slash hwhole]
    have hcleaned := cleaned_joinWith hdirs hnil
    rw [clean_of_cleaned_ne_nil (by simp [hcleaned]), hcleaned,
      isAbsolute_joinWith hfirst.isElement, List.reverse_reverse]
    simp

end SlashPath

theorem ImportPath.ofFile_joinWith {dirs : List String} {name : String} (modulePath : String)
    (hdirs : ∀ s ∈ dirs, SlashPath.IsPlain s) (hname : '/' ∉ name.toList) :
    ofFile modulePath (Text.joinWith "/" (dirs ++ [name])) =
      Text.joinWith "/" (modulePath :: dirs) := by
  rw [ofFile, SlashPath.dir_joinWith hdirs hname]
  cases dirs with
  | nil => simp [Text.joinWith]
  | cons first rest =>
      obtain ⟨hfirst, -⟩ := List.forall_mem_cons.mp hdirs
      have hdot : Text.joinWith "/" (first :: rest) ≠ "." := by
        intro h
        have hcleaned := SlashPath.cleaned_joinWith hdirs (List.cons_ne_nil first rest)
        rw [h, show SlashPath.cleaned "." = [] by decide] at hcleaned
        simp at hcleaned
      rw [if_neg (List.cons_ne_nil first rest), if_neg hdot, Text.joinWith, Text.joinWith,
        String.intercalate_cons_cons]

namespace Disk

open SlashPath (IsPlain pathOf)

variable {d : Disk} {place root q : Place} {name : String}

/-- A directory with a module file. -/
def HoldsModule (d : Disk) (place : Place) : Prop :=
  d.find? place = some .directory ∧ d.find? (place ++ ["go.mod"]) ≠ none

/-- The closest directory with a module file, at a place or above it. -/
structure IsNearest (d : Disk) (place root : Place) : Prop where
  above : root <+: place
  holds : d.HoldsModule root
  closest : ∀ q, root <+: q → q <+: place → q ≠ root → ¬d.HoldsModule q

/-- Where the search for a module file begins: for a file, in its directory. -/
def searchPlace (d : Disk) (place : Place) : Place :=
  match d.find? place with
  | some (.file _) => place.dropLast
  | _ => place

/-- The search as a loop that comes to an end: at a directory with a module
file, or at one that is its own parent. -/
inductive Climbs (d : Disk) : String → Option String → Prop
  | found {directory : String}
      (hhere : d.exists? (SlashPath.join [directory, "go.mod"]) = true) :
      Climbs d directory (some directory)
  | top {directory : String}
      (hhere : d.exists? (SlashPath.join [directory, "go.mod"]) = false)
      (htop : SlashPath.dir directory = directory) : Climbs d directory none
  | up {directory : String} {result : Option String}
      (hhere : d.exists? (SlashPath.join [directory, "go.mod"]) = false)
      (hbelow : SlashPath.dir directory ≠ directory)
      (hrest : Climbs d (SlashPath.dir directory) result) : Climbs d directory result

section Search

theorem IsTree.stat_pathOf (htree : d.IsTree) (hplace : ∀ s ∈ place, IsPlain s)
    {node : DiskNode} : d.stat (pathOf place) = .ok node ↔ d.find? place = some node := by
  constructor
  · intro h
    have hsome : (d.stat (pathOf place)).toOption = some node := by rw [h, Except.toOption]
    obtain ⟨p, hnode⟩ := nodeAt_of_stat hsome
    obtain ⟨hlocate, hfind⟩ := nodeAt_eq_ok hnode
    obtain ⟨hp, -⟩ := clean_of_locate (SlashPath.isAbsolute_pathOf place) hlocate
    rw [SlashPath.cleaned_pathOf hplace, List.reverse_reverse] at hp
    rw [← hp, hfind]
  · intro h
    exact stat_of_nodeAt (nodeAt_of_locate (htree.locate_pathOf h) h)

theorem IsTree.exists?_pathOf (htree : d.IsTree) (hplace : ∀ s ∈ place, IsPlain s) :
    d.exists? (pathOf place) = true ↔ d.find? place ≠ none := by
  rw [exists?, Option.ne_none_iff_exists']
  constructor
  · intro h
    cases hstat : d.stat (pathOf place) with
    | error fault =>
        rw [hstat] at h
        cases h
    | ok node => exact ⟨node, (htree.stat_pathOf hplace).mp hstat⟩
  · rintro ⟨node, h⟩
    rw [(htree.stat_pathOf hplace).mpr h]
    rfl

theorem isPlain_module : IsPlain "go.mod" :=
  ⟨⟨by decide, by decide⟩, by decide, by decide⟩

theorem IsTree.holdsModule_iff (htree : d.IsTree) (hplace : ∀ s ∈ place, IsPlain s) :
    d.HoldsModule place ↔ d.exists? (SlashPath.join [pathOf place, "go.mod"]) = true := by
  have hmodule : ∀ s ∈ ["go.mod"], IsPlain s := by simp [isPlain_module]
  have hjoin : SlashPath.join [pathOf place, "go.mod"] = pathOf (place ++ ["go.mod"]) := by
    rw [SlashPath.join_plain (SlashPath.isAbsolute_pathOf place) hmodule,
      SlashPath.cleaned_pathOf hplace, List.reverse_reverse]
  rw [hjoin, htree.exists?_pathOf (List.forall_mem_append.mpr ⟨hplace, hmodule⟩)]
  constructor
  · exact fun h => h.2
  · intro h
    obtain ⟨node, hnode⟩ := Option.ne_none_iff_exists'.mp h
    exact ⟨htree.find?_above hnode (List.prefix_append place _) (by simp), h⟩

theorem isNearest_self (h : d.HoldsModule place) : d.IsNearest place place where
  above := List.prefix_rfl
  holds := h
  closest _ hbelow habove hne := absurd (habove.eq_of_length_le hbelow.length_le) hne

theorem isNearest_concat_iff (habove : root <+: place) :
    d.IsNearest (place ++ [name]) root ↔
      d.IsNearest place root ∧ ¬d.HoldsModule (place ++ [name]) := by
  constructor
  · intro h
    refine ⟨⟨habove, h.holds, fun q hq hplace => ?_⟩, ?_⟩
    · exact h.closest q hq (hplace.trans (List.prefix_append place [name]))
    · refine h.closest _ h.above List.prefix_rfl ?_
      rintro rfl
      exact not_below_itself place name habove
  · rintro ⟨h, hlast⟩
    refine ⟨habove.trans (List.prefix_append place [name]), h.holds, fun q hq hplace hne => ?_⟩
    rcases List.prefix_concat_iff.mp hplace with rfl | hplace
    · exact hlast
    · exact h.closest q hq hplace hne

theorem IsNearest.unique {root' : Place} (h : d.IsNearest place root)
    (h' : d.IsNearest place root') : root = root' := by
  by_contra hne
  rcases List.prefix_or_prefix_of_prefix h.above h'.above with hbelow | hbelow
  · exact h.closest root' hbelow h'.above (Ne.symm hne) h'.holds
  · exact h'.closest root hbelow h.above hne h.holds

theorem dir_root : SlashPath.dir (pathOf []) = pathOf [] := by
  decide

theorem climbs_projectRootFrom {n : Nat} (hplace : ∀ s ∈ place, IsPlain s)
    (hn : place.length < n) :
    d.Climbs (pathOf place) (d.projectRootFrom n (pathOf place)) := by
  induction n generalizing place with
  | zero => omega
  | succ n ih =>
      rw [projectRootFrom, moduleFileName]
      cases hhere : d.exists? (SlashPath.join [pathOf place, "go.mod"]) with
      | true => exact .found hhere
      | false =>
          rcases List.eq_nil_or_concat place with rfl | ⟨front, name, rfl⟩
          · simpa [dir_root] using Climbs.top hhere dir_root
          · rw [List.concat_eq_append] at hplace hn hhere ⊢
            have hdir := SlashPath.dir_pathOf hplace
            have hfront : ∀ s ∈ front, IsPlain s := fun s hs =>
              hplace s (List.mem_append_left [name] hs)
            have hne : pathOf front ≠ pathOf (front ++ [name]) := by
              intro h
              simpa using SlashPath.pathOf_injective hfront hplace h
            have hrest := ih hfront (by simpa using hn)
            simp only [hdir, hne, Bool.false_eq_true, if_false]
            refine .up hhere ?_ ?_
            · rwa [hdir]
            · rwa [hdir]

/-- The search ends at the closest directory with a module file, if there is
one. -/
theorem Climbs.nearest (htree : d.IsTree) (hplace : ∀ s ∈ place, IsPlain s)
    {result : Option String} (h : d.Climbs (pathOf place) result) :
    (∃ root, d.IsNearest place root ∧ result = some (pathOf root)) ∨
      (∀ q, q <+: place → ¬d.HoldsModule q) ∧ result = none := by
  induction place using List.reverseRecOn generalizing result with
  | nil =>
      cases h with
      | found hhere =>
          exact Or.inl ⟨[], isNearest_self ((htree.holdsModule_iff hplace).mpr hhere), rfl⟩
      | top hhere _ =>
          refine Or.inr ⟨fun q hq => ?_, rfl⟩
          rw [List.prefix_nil.mp hq, htree.holdsModule_iff hplace, hhere]
          exact Bool.false_ne_true
      | up _ hbelow _ => exact absurd dir_root hbelow
  | append_singleton place name ih =>
      have hdir := SlashPath.dir_pathOf hplace
      have hfront : ∀ s ∈ place, IsPlain s := fun s hs => hplace s (List.mem_append_left [name] hs)
      have hholds := htree.holdsModule_iff hplace
      cases h with
      | found hhere => exact Or.inl ⟨_, isNearest_self (hholds.mpr hhere), rfl⟩
      | top _ htop =>
          rw [hdir] at htop
          simpa using SlashPath.pathOf_injective hfront hplace htop
      | up hhere _ hrest =>
          have hnone : ¬d.HoldsModule (place ++ [name]) := by
            rw [hholds, hhere]
            exact Bool.false_ne_true
          rw [hdir] at hrest
          rcases ih hfront hrest with ⟨root, hroot, rfl⟩ | ⟨hall, rfl⟩
          · exact Or.inl ⟨root, (isNearest_concat_iff hroot.above).mpr ⟨hroot, hnone⟩, rfl⟩
          · refine Or.inr ⟨fun q hq => ?_, rfl⟩
            rcases List.prefix_concat_iff.mp hq with rfl | hq
            · exact hnone
            · exact hall q hq

theorem isPlain_searchPlace (hplace : ∀ s ∈ place, IsPlain s) :
    ∀ s ∈ d.searchPlace place, IsPlain s := by
  rw [searchPlace]
  split
  · exact fun s hs => hplace s (List.mem_of_mem_dropLast hs)
  · exact hplace

theorem IsTree.projectRoot?_eq (htree : d.IsTree) {start : String}
    (hstart : d.absolute start = pathOf place) (hplace : ∀ s ∈ place, IsPlain s) :
    d.projectRoot? start = d.projectRootFrom ((pathOf (d.searchPlace place)).length + 1)
      (pathOf (d.searchPlace place)) := by
  rw [projectRoot?, hstart, searchPlace]
  cases hfind : d.find? place with
  | none =>
      cases hstat : d.stat (pathOf place) with
      | error fault => rfl
      | ok node =>
          rw [htree.stat_pathOf hplace, hfind] at hstat
          cases hstat
  | some node =>
      rw [(htree.stat_pathOf hplace).mpr hfind]
      cases node with
      | directory => rfl
      | file content =>
          rcases List.eq_nil_or_concat place with rfl | ⟨front, name, rfl⟩
          · cases hfind
          · rw [List.concat_eq_append] at hplace ⊢
            simp only [List.dropLast_concat, SlashPath.dir_pathOf hplace]

theorem IsTree.climbs_projectRoot? (htree : d.IsTree) {start : String}
    (hstart : d.absolute start = pathOf place) (hplace : ∀ s ∈ place, IsPlain s) :
    d.Climbs (pathOf (d.searchPlace place)) (d.projectRoot? start) := by
  rw [htree.projectRoot?_eq hstart hplace]
  refine climbs_projectRootFrom (isPlain_searchPlace hplace) ?_
  have hlength := SlashPath.length_le_pathOf (d.searchPlace place)
  omega

theorem IsTree.projectRoot?_eq_some_iff (htree : d.IsTree) {start path : String}
    (hstart : d.absolute start = pathOf place) (hplace : ∀ s ∈ place, IsPlain s) :
    d.projectRoot? start = some path ↔
      ∃ root, d.IsNearest (d.searchPlace place) root ∧ path = pathOf root := by
  rcases (htree.climbs_projectRoot? hstart hplace).nearest htree (isPlain_searchPlace hplace)
    with ⟨root, hroot, hresult⟩ | ⟨hnone, hresult⟩
  · rw [hresult]
    constructor
    · rintro ⟨⟩
      exact ⟨root, hroot, rfl⟩
    · rintro ⟨root', hroot', rfl⟩
      rw [hroot.unique hroot']
  · rw [hresult]
    constructor
    · exact nofun
    · rintro ⟨root, hroot, -⟩
      exact absurd hroot.holds (hnone root hroot.above)

theorem IsTree.projectRoot?_eq_none_iff (htree : d.IsTree) {start : String}
    (hstart : d.absolute start = pathOf place) (hplace : ∀ s ∈ place, IsPlain s) :
    d.projectRoot? start = none ↔ ∀ q, q <+: d.searchPlace place → ¬d.HoldsModule q := by
  rcases (htree.climbs_projectRoot? hstart hplace).nearest htree (isPlain_searchPlace hplace)
    with ⟨root, hroot, hresult⟩ | ⟨hnone, hresult⟩
  · rw [hresult]
    constructor
    · exact nofun
    · exact fun h => absurd hroot.holds (h root hroot.above)
  · exact ⟨fun _ => hnone, fun _ => hresult⟩

end Search

end Disk

namespace SourceFiles

open SlashPath (IsPlain pathOf)

variable {disk : Disk} {root pattern : String} {selection : Selection} {files : List SourceFile}
  {start owner dir place : Place} {dirs : List String} {name : String}

/-- Directories of these names belong to no package. -/
def IsIgnored (name : String) : Prop :=
  name = "vendor" ∨ name = "testdata" ∨ ".".toList <+: name.toList ∨ "_".toList <+: name.toList

/-- A source file below a directory for which the search finds this directory,
and on the way to which nothing is ignored. -/
def IsOwned (disk : Disk) (owner place : Place) : Prop :=
  ∃ dirs name content, place = owner ++ dirs ++ [name] ∧
    disk.find? place = some (.file content) ∧ SlashPath.extension name = ".go" ∧
    disk.projectRoot? (pathOf place) = some (pathOf owner) ∧ ∀ d ∈ dirs, ¬IsIgnored d

section Walk

theorem isClosed_iff (hdirectory : disk.find? (place ++ [name]) = some .directory) :
    IsClosed disk place name ↔ IsIgnored name ∨ disk.HoldsModule (place ++ [name]) := by
  simp [IsClosed, IsIgnored, Disk.HoldsModule, hdirectory, or_assoc]

theorem entered_concat_iff (hstart : start <+: place)
    (hdirectory : disk.find? (place ++ [name]) = some .directory) :
    Entered disk start (place ++ [name]) ↔
      Entered disk start place ∧ ¬IsClosed disk place name := by
  constructor
  · intro h
    generalize hq : place ++ [name] = q at h
    cases h with
    | start =>
        rw [← hq] at hstart
        exact absurd hstart (Disk.not_below_itself place name)
    | down h _ hopen =>
        obtain ⟨rfl, hname⟩ := List.append_inj' hq rfl
        cases hname
        exact ⟨h, hopen⟩
  · rintro ⟨h, hopen⟩
    exact .down h hdirectory hopen

theorem Entered.isNearest (h : Entered disk start dir) (hstart : disk.IsNearest start owner) :
    disk.IsNearest dir owner := by
  induction h with
  | start => exact hstart
  | down h hdirectory hopen ih =>
      rw [isClosed_iff hdirectory, not_or] at hopen
      exact (Disk.isNearest_concat_iff ih.above).mpr ⟨ih, hopen.2⟩

theorem entered_iff_isNearest (hholds : disk.HoldsModule owner)
    (hopen : disk.IsOpen (owner ++ dirs)) :
    Entered disk owner (owner ++ dirs) ↔
      disk.IsNearest (owner ++ dirs) owner ∧ ∀ d ∈ dirs, ¬IsIgnored d := by
  induction dirs using List.reverseRecOn with
  | nil =>
      rw [List.append_nil]
      constructor
      · exact fun _ => ⟨Disk.isNearest_self hholds, by simp⟩
      · exact fun _ => .start
  | append_singleton dirs d ih =>
      rw [← List.append_assoc] at hopen ⊢
      have habove := List.prefix_append owner dirs
      have hdirectory := hopen _ List.prefix_rfl
      rw [entered_concat_iff habove hdirectory, isClosed_iff hdirectory,
        Disk.isNearest_concat_iff habove, List.forall_mem_append, List.forall_mem_singleton,
        ih fun q hq => hopen q (hq.trans (List.prefix_append _ [d]))]
      tauto

end Walk

section Whole

theorem startOf_dot (hroot : disk.absolute root = pathOf owner) (howner : ∀ s ∈ owner, IsPlain s) :
    startOf disk root "." = pathOf owner := by
  have hdot : SlashPath.segments "." = ["."] := by decide
  have hrelative : SlashPath.isAbsolute "." = false := by decide
  rw [startOf, hrelative, hroot]
  refine SlashPath.join_pathOf howner (by decide) ?_
  rw [hdot, List.foldl_cons, List.foldl_nil, SlashPath.cleanStep.eq_def, if_pos (Or.inr rfl)]

theorem asks_all : Asks "./..." "." true :=
  asks_iff.mpr (by decide +kernel)

theorem isValid_all (htree : disk.IsTree) (hroot : disk.absolute root = pathOf owner)
    (hdirectory : disk.find? owner = some .directory) (tests : Bool) :
    IsValid Pattern.test disk root { includeTests := tests } := by
  refine ⟨fun pattern hpattern => ?_, by simp⟩
  rw [List.mem_singleton.mp hpattern]
  refine ⟨".", true, owner, .directory, asks_all, ?_, hdirectory⟩
  rw [startOf_dot hroot (htree.isPlain hdirectory)]
  exact htree.locate_pathOf hdirectory

theorem isChosen_all_iff (htree : disk.IsTree) (hroot : disk.absolute root = pathOf owner)
    (hdirectory : disk.find? owner = some .directory) {tests : Bool} :
    IsChosen disk root { includeTests := tests } place ↔
      ∃ dirs name content, place = owner ++ dirs ++ [name] ∧
        Entered disk owner (owner ++ dirs) ∧ disk.find? place = some (.file content) ∧
        IsWanted tests name := by
  have hlocate : disk.locate (startOf disk root ".") = .ok owner := by
    rw [startOf_dot hroot (htree.isPlain hdirectory)]
    exact htree.locate_pathOf hdirectory
  constructor
  · rintro ⟨pattern, hpattern, hselects⟩
    rw [List.mem_singleton.mp hpattern] at hselects
    cases hselects with
    | file hasks hlocate' hfile =>
        cases (asks_iff.mp asks_all).symm.trans (asks_iff.mp hasks)
        cases hlocate.symm.trans hlocate'
        rw [hdirectory] at hfile
        cases hfile
    | @inside _ name _ _ dir content hasks hlocate' _ hdir hfile hwanted =>
        cases (asks_iff.mp asks_all).symm.trans (asks_iff.mp hasks)
        cases hlocate.symm.trans hlocate'
        have hopen := htree.find?_above hfile (List.prefix_append dir [name]) (by simp)
        obtain ⟨dirs, rfl⟩ := ((entered_iff (htree.isOpen hopen)).mp hdir).1
        exact ⟨dirs, name, content, rfl, hdir, hfile, hwanted⟩
  · rintro ⟨dirs, name, content, rfl, hentered, hfile, hwanted⟩
    exact ⟨"./...", List.mem_singleton_self _,
      .inside asks_all hlocate hdirectory hentered hfile hwanted⟩

theorem searchPlace_file {content : ByteArray}
    (hfile : disk.find? (dir ++ [name]) = some (.file content)) :
    disk.searchPlace (dir ++ [name]) = dir := by
  rw [Disk.searchPlace, hfile]
  exact List.dropLast_concat

theorem projectRoot?_file_iff (htree : disk.IsTree) {content : ByteArray}
    (hfile : disk.find? (dir ++ [name]) = some (.file content))
    (howner : ∀ s ∈ owner, IsPlain s) :
    disk.projectRoot? (pathOf (dir ++ [name])) = some (pathOf owner) ↔
      disk.IsNearest dir owner := by
  have hplain := htree.isPlain hfile
  have habsolute : disk.absolute (pathOf (dir ++ [name])) = pathOf (dir ++ [name]) := by
    rw [Disk.absolute, if_pos (SlashPath.isAbsolute_pathOf _), SlashPath.clean_pathOf hplain]
  rw [htree.projectRoot?_eq_some_iff habsolute hplain, searchPlace_file hfile]
  constructor
  · rintro ⟨root, hroot, hpath⟩
    obtain rfl := SlashPath.pathOf_injective howner (htree.isPlain hroot.holds.1) hpath
    exact hroot
  · exact fun h => ⟨owner, h, rfl⟩

theorem isChosen_all_iff_isOwned (htree : disk.IsTree)
    (hroot : disk.absolute root = pathOf owner) (hholds : disk.HoldsModule owner) :
    IsChosen disk root { includeTests := true } place ↔ IsOwned disk owner place := by
  rw [isChosen_all_iff htree hroot hholds.1]
  refine exists_congr fun dirs => exists_congr fun name => exists_congr fun content =>
    and_congr_right ?_
  rintro rfl
  rw [and_left_comm]
  refine and_congr_right fun hfile => ?_
  have hname := (htree.isPlain hfile name (by simp)).isElement.2
  have hopen := htree.find?_above hfile (List.prefix_append (owner ++ dirs) [name]) (by simp)
  rw [entered_iff_isNearest hholds (htree.isOpen hopen), extension_eq_go_iff hname,
    projectRoot?_file_iff htree hfile (htree.isPlain hholds.1), IsWanted]
  tauto

end Whole

section Inside

/-- A pattern that leads into the module of a root. -/
def LeadsInside (disk : Disk) (root pattern : String) : Prop :=
  ∀ path recursive, Asks pattern path recursive →
    disk.projectRoot? (startOf disk root path) = some root

theorem absolute_of_locate {path : String} (hpath : SlashPath.isAbsolute path = true)
    (hlocate : disk.locate path = .ok place) : disk.absolute path = pathOf place := by
  rw [Disk.absolute, if_pos hpath]
  exact (Disk.clean_of_locate hpath hlocate).2

theorem isNearest_of_leadsInside (htree : disk.IsTree) {path : String} {recursive : Bool}
    {node : DiskNode} (howner : ∀ s ∈ owner, IsPlain s)
    (hinside : LeadsInside disk (pathOf owner) pattern) (hasks : Asks pattern path recursive)
    (hlocate : disk.locate (startOf disk (pathOf owner) path) = .ok place)
    (hfind : disk.find? place = some node) : disk.IsNearest (disk.searchPlace place) owner := by
  have hrooted := isAbsolute_startOf htree (pathOf owner) path
  have hroot := hinside path recursive hasks
  rw [htree.projectRoot?_eq_some_iff (absolute_of_locate hrooted hlocate)
    (htree.isPlain hfind)] at hroot
  obtain ⟨nearest, hnearest, hpath⟩ := hroot
  obtain rfl := SlashPath.pathOf_injective howner (htree.isPlain hnearest.holds.1) hpath
  exact hnearest

theorem isNearest_of_isChosen (htree : disk.IsTree) (hholds : disk.HoldsModule owner)
    (hinside : ∀ pattern ∈ selection.paths, LeadsInside disk (pathOf owner) pattern)
    (hchosen : IsChosen disk (pathOf owner) selection place) :
    ∃ dirs name, place = owner ++ dirs ++ [name] ∧ disk.IsNearest (owner ++ dirs) owner := by
  have howner := htree.isPlain hholds.1
  have habsolute : disk.absolute (pathOf owner) = pathOf owner := by
    rw [Disk.absolute, if_pos (SlashPath.isAbsolute_pathOf owner), SlashPath.clean_pathOf howner]
  obtain ⟨pattern, hpattern, hselects⟩ := hchosen
  have hpattern : LeadsInside disk (pathOf owner) pattern := by
    rw [patternsOf] at hpattern
    split_ifs at hpattern with hempty
    · intro path recursive hasks
      rw [List.mem_singleton.mp hpattern] at hasks
      cases (asks_iff.mp asks_all).symm.trans (asks_iff.mp hasks)
      rw [startOf_dot habsolute howner, htree.projectRoot?_eq_some_iff habsolute howner]
      refine ⟨owner, ?_, rfl⟩
      rw [Disk.searchPlace, hholds.1]
      exact Disk.isNearest_self hholds
    · exact hinside pattern hpattern
  have hdirectory : ∃ dir name, place = dir ++ [name] ∧ disk.IsNearest dir owner := by
    cases hselects with
    | file hasks hlocate hfile =>
        have hnearest := isNearest_of_leadsInside htree howner hpattern hasks hlocate hfile
        rcases List.eq_nil_or_concat place with rfl | ⟨dir, name, rfl⟩
        · cases hfile
        · rw [List.concat_eq_append] at hfile hnearest ⊢
          rw [searchPlace_file hfile] at hnearest
          exact ⟨dir, name, rfl, hnearest⟩
    | @inside _ name recursive start dir _ hasks hlocate hstart hdir _ _ =>
        have hnearest := isNearest_of_leadsInside htree howner hpattern hasks hlocate hstart
        rw [Disk.searchPlace, hstart] at hnearest
        refine ⟨dir, name, rfl, ?_⟩
        cases recursive with
        | true => exact Entered.isNearest hdir hnearest
        | false =>
            obtain rfl : dir = start := hdir
            exact hnearest
  obtain ⟨dir, name, rfl, hnearest⟩ := hdirectory
  obtain ⟨dirs, rfl⟩ := hnearest.above
  exact ⟨dirs, name, rfl, hnearest⟩

theorem forall_mem_of_mapM {α β ε : Type} {f : α → Except ε β} {xs : List α} {ys : List β}
    (h : xs.mapM f = .ok ys) : ∀ x ∈ xs, ∃ y, f x = .ok y := by
  induction xs generalizing ys with
  | nil => simp
  | cons x xs ih =>
      simp only [List.mapM_cons, bind, Except.bind] at h
      split at h
      next => cases h
      next y hy =>
        split at h
        next => cases h
        next zs hzs => exact List.forall_mem_cons.mpr ⟨⟨y, hy⟩, ih hzs⟩

theorem isValid_of_list {cancelled : Bool} (h : list disk root selection cancelled = .ok files) :
    cancelled = false ∧ IsValid Pattern.test disk root selection := by
  have hpatterns : (if selection.paths.isEmpty then ["./..."] else selection.paths) =
      patternsOf selection := rfl
  simp only [list, listWith, bind, Except.bind, hpatterns] at h
  split at h
  next => cases h
  next excludes hexcludes =>
    split_ifs at h with hcancelled
    split at h
    next => cases h
    next groups hgroups =>
      refine ⟨by simpa using hcancelled, fun pattern hpattern => ?_, fun text htext hblank => ?_⟩
      · obtain ⟨paths, hpaths⟩ := forall_mem_of_mapM hgroups pattern hpattern
        simp only [pathsOf, bind, Except.bind] at hpaths
        split at hpaths
        next => cases hpaths
        next found hfound =>
          obtain ⟨hlocate, hfind⟩ :=
            Disk.nodeAt_eq_ok (eq_ok_of_mapError (eq_ok_of_mapError hfound))
          exact ⟨_, _, found.1, found.2, asks_iff.mpr rfl, hlocate, hfind⟩
      · have hkept : text ∈ selection.exclude.filter fun p => !(Text.trimBlank p).isEmpty :=
          List.mem_filter.mpr ⟨htext, by simpa using hblank⟩
        obtain ⟨expression, hexpression⟩ := forall_mem_of_mapM hexcludes text hkept
        exact ⟨expression, eq_ok_of_mapError hexpression⟩

end Inside

end SourceFiles

namespace Scan

open SlashPath (IsPlain pathOf)

variable {disk : Disk} {tags : List DocTag} {cache : ScanCache} {start : String}
  {selection : Selection} {cancelled : Bool} {result : ScanResult}

theorem package_of_scanFile {modulePath : String} {file : SourceFile} {source : ScannedSource}
    {known : Bool} (h : (scanFile disk tags modulePath cache file).1 = some (source, known)) :
    source.file = file ∧ source.package = ImportPath.ofFile modulePath file.shortPath := by
  rcases hget : cache.get (ScanCache.keyOf file.hash (ImportPath.ofFile modulePath file.shortPath))
    with ⟨_ | units, c⟩
  · simp only [scanFile, hget] at h
    cases hunits : Source.unitsOfBytes? tags file.shortPath
        (ImportPath.ofFile modulePath file.shortPath)
        ((disk.read file.fullPath).toOption.getD ByteArray.empty) with
    | none => simp [hunits] at h
    | some units =>
        simp only [hunits, Option.some.injEq, Prod.mk.injEq] at h
        simp [← h.1]
  · simp only [scanFile, hget, Option.some.injEq, Prod.mk.injEq] at h
    simp [← h.1]

theorem package_of_mem_scanFiles {modulePath : String} {files : List SourceFile}
    {source : ScannedSource} {known : Bool}
    (h : some (source, known) ∈ (scanFiles disk tags modulePath cache files).1) :
    source.file ∈ files ∧ source.package = ImportPath.ofFile modulePath source.file.shortPath := by
  induction files generalizing cache with
  | nil => simp [scanFiles] at h
  | cons file files ih =>
      have hstep : (scanFiles disk tags modulePath cache (file :: files)).1 =
          (scanFile disk tags modulePath cache file).1 ::
            (scanFiles disk tags modulePath (scanFile disk tags modulePath cache file).2 files).1 :=
        rfl
      rw [hstep] at h
      rcases List.mem_cons.mp h with hfirst | hrest
      · obtain ⟨rfl, hpackage⟩ := package_of_scanFile hfirst.symm
        exact ⟨List.mem_cons_self, hpackage⟩
      · obtain ⟨hfile, hpackage⟩ := ih hrest
        exact ⟨List.mem_cons_of_mem file hfile, hpackage⟩

theorem root_of_select {root modulePath : String} {files : List SourceFile}
    (h : select disk start selection cancelled = .ok (root, modulePath, files)) :
    disk.projectRoot? start = some root ∧ disk.modulePath root = .ok modulePath := by
  unfold select at h
  simp only [bind, Except.bind] at h
  split at h
  next => cases h
  next found hfound =>
    split at h
    next => cases h
    next path hpath =>
      split at h
      next => cases h
      next =>
        split_ifs at h
        cases h
        exact ⟨hfound, SourceFiles.eq_ok_of_mapError hpath⟩

theorem selected_of_run (h : (run disk tags cache start selection cancelled).1 = .ok result) :
    disk.projectRoot? start = some result.root ∧
      disk.modulePath result.root = .ok result.modulePath ∧
      ∃ files, SourceFiles.list disk result.root selection cancelled = .ok files ∧
        ∀ source ∈ result.sources, source.file ∈ files ∧
          source.package = ImportPath.ofFile result.modulePath source.file.shortPath := by
  unfold run at h
  split at h
  next => cases h
  next root modulePath files hselect =>
    obtain ⟨hroot, hpath⟩ := root_of_select hselect
    cases h
    refine ⟨hroot, hpath, files, list_of_select hselect, fun source hsource => ?_⟩
    obtain ⟨⟨_, known⟩, hfound, rfl⟩ := List.mem_map.mp hsource
    obtain ⟨outcome, houtcome, hsome⟩ := List.mem_filterMap.mp hfound
    cases hsome
    exact package_of_mem_scanFiles houtcome

/-- Patterns that lead into the project of a scan find files of its module
only, and their packages are named after it. -/
theorem package_of_run (htree : disk.IsTree)
    (h : (run disk tags cache start selection cancelled).1 = .ok result)
    (hinside : ∀ pattern ∈ selection.paths, SourceFiles.LeadsInside disk result.root pattern) :
    ∀ source ∈ result.sources, ∃ owner dirs name modulePath,
      disk.locate source.file.fullPath = .ok (owner ++ dirs ++ [name]) ∧
      disk.projectRoot? source.file.fullPath = some (pathOf owner) ∧
      disk.modulePath (pathOf owner) = .ok modulePath ∧
      source.package = Text.joinWith "/" (modulePath :: dirs) := by
  intro source hsource
  obtain ⟨hroot, hmodule, files, hlist, hpackages⟩ := selected_of_run h
  obtain ⟨hfile, hpackage⟩ := hpackages source hsource
  obtain ⟨place, hplace, hstart⟩ := htree.exists_absolute_eq start
  obtain ⟨owner, hnearest, hpath⟩ := (htree.projectRoot?_eq_some_iff hstart hplace).mp hroot
  have howner := htree.isPlain hnearest.holds.1
  rw [hpath] at hmodule hlist hinside
  obtain ⟨rfl, hvalid⟩ := SourceFiles.isValid_of_list hlist
  obtain ⟨_, hlist', -, hsound, -⟩ := SourceFiles.list_eq_ok htree hvalid
  cases hlist.symm.trans hlist'
  obtain ⟨place, hchosen, -, hat⟩ := hsound source.file hfile
  obtain ⟨content, hcontent, -⟩ := hat.content
  obtain ⟨dirs, name, rfl, hdir⟩ :=
    SourceFiles.isNearest_of_isChosen htree hnearest.holds hinside hchosen
  have hplain := htree.isPlain hcontent
  have habsolute : disk.absolute source.file.fullPath =
      disk.absolute (pathOf (owner ++ dirs ++ [name])) := by
    have hrooted := SlashPath.isAbsolute_clean source.file.fullPath
    rw [hat.cleaned, SlashPath.isAbsolute_pathOf] at hrooted
    rw [Disk.absolute, if_pos hrooted.symm, hat.cleaned, Disk.absolute,
      if_pos (SlashPath.isAbsolute_pathOf _), SlashPath.clean_pathOf hplain]
  have hfound : disk.projectRoot? source.file.fullPath = some (pathOf owner) := by
    rw [Disk.projectRoot?, habsolute]
    exact (SourceFiles.projectRoot?_file_iff htree hcontent howner).mpr hdir
  have hshort : source.file.shortPath = Text.joinWith "/" (dirs ++ [name]) := by
    rw [hat.shortPath, SourceFiles.shortOf, Disk.absolute,
      if_pos (SlashPath.isAbsolute_pathOf owner), SlashPath.clean_pathOf howner,
      List.append_assoc, SlashPath.relative?_below (by rwa [← List.append_assoc]) (by simp)]
    rfl
  refine ⟨owner, dirs, name, result.modulePath, hat.fullPath, hfound, hmodule, ?_⟩
  rw [hpackage, hshort]
  refine ImportPath.ofFile_joinWith _ (fun s hs => hplain s ?_) (hplain name ?_).isElement.2
  · simp [hs]
  · simp

/-- The search for the module of a path ends at the closest directory with a
module file, at the path or above it, and fails only if there is none. A walk
from a directory with a module file lists the source files for which the search
finds that directory, those below ignored directories apart. So the package of
every file of a scan lies in the module that the file belongs to. -/
theorem search_agrees_with_walk {disk : Disk} (htree : disk.IsTree) :
    (∀ start, ∃ place, (∀ s ∈ place, IsPlain s) ∧ disk.absolute start = pathOf place ∧
      disk.Climbs (pathOf (disk.searchPlace place)) (disk.projectRoot? start) ∧
      (∀ path, disk.projectRoot? start = some path ↔
        ∃ root, disk.IsNearest (disk.searchPlace place) root ∧ path = pathOf root) ∧
      (disk.projectRoot? start = none ↔
        ∀ q, q <+: disk.searchPlace place → ¬disk.HoldsModule q)) ∧
    (∀ root owner, disk.absolute root = pathOf owner → disk.HoldsModule owner →
      ∃ files, SourceFiles.list disk root { includeTests := true } false = .ok files ∧
        (files.map (·.shortPath)).Pairwise (· < ·) ∧
        (∀ file ∈ files, ∃ place, SourceFiles.IsOwned disk owner place ∧
          SourceFiles.IsFileAt disk root file place) ∧
        ∀ place, SourceFiles.IsOwned disk owner place →
          ∃ file ∈ files, SourceFiles.IsFileAt disk root file place) ∧
    ∀ tags cache start selection cancelled result,
      (run disk tags cache start selection cancelled).1 = .ok result →
      (∀ pattern ∈ selection.paths, SourceFiles.LeadsInside disk result.root pattern) →
      ∀ source ∈ result.sources, ∃ owner dirs name modulePath,
        disk.locate source.file.fullPath = .ok (owner ++ dirs ++ [name]) ∧
        disk.projectRoot? source.file.fullPath = some (pathOf owner) ∧
        disk.modulePath (pathOf owner) = .ok modulePath ∧
        source.package = Text.joinWith "/" (modulePath :: dirs) := by
  refine ⟨fun start => ?_, fun root owner hroot hholds => ?_,
    fun tags cache start selection cancelled result => package_of_run htree⟩
  · obtain ⟨place, hplace, hstart⟩ := htree.exists_absolute_eq start
    exact ⟨place, hplace, hstart, htree.climbs_projectRoot? hstart hplace,
      fun path => htree.projectRoot?_eq_some_iff hstart hplace,
      htree.projectRoot?_eq_none_iff hstart hplace⟩
  · have hvalid := SourceFiles.isValid_all htree hroot hholds.1 true
    obtain ⟨files, hlist, hsorted, hsound, hcomplete⟩ := SourceFiles.list_eq_ok htree hvalid
    have hnone : ∀ short, ¬SourceFiles.Excludes Pattern.test { includeTests := true } short := by
      rintro short ⟨text, htext, -⟩
      cases htext
    refine ⟨files, hlist, List.pairwise_map.mpr hsorted, fun file hfile => ?_,
      fun place hplace => ?_⟩
    · obtain ⟨place, hchosen, -, hat⟩ := hsound file hfile
      exact ⟨place, (SourceFiles.isChosen_all_iff_isOwned htree hroot hholds).mp hchosen, hat⟩
    · exact hcomplete place
        ((SourceFiles.isChosen_all_iff_isOwned htree hroot hholds).mpr hplace) (hnone _)

/-- A project with a package of its own and a directory that has an entry named
like a module file, which is a directory itself. -/
def nestedProject : Disk :=
  { nodes := [(["p"], .directory), (["p", "go.mod"], .file (Text.toBytes "module m\n")),
      (["p", "a"], .directory), (["p", "a", "a.go"], .file (Text.toBytes "package a\n")),
      (["p", "b"], .directory), (["p", "b", "go.mod"], .directory),
      (["p", "b", "b.go"], .file (Text.toBytes "package b\n"))] }

/-- A cache that knows the source file of the project. -/
def knownFile : ScanCache :=
  (ScanCache.ofSize 1).put (ScanCache.keyOf (Text.digest (Text.toBytes "package a\n")) "m/a") []

def onlyFile : Selection :=
  { paths := ["a/a.go"] }

theorem search_agrees_with_walk_nested :
    nestedProject.IsTree ∧ nestedProject.HoldsModule ["p"] ∧
      (∃ files, SourceFiles.list nestedProject "/p" { includeTests := true } false = .ok files ∧
        (∃ file ∈ files, SourceFiles.IsFileAt nestedProject "/p" file ["p", "a", "a.go"]) ∧
        ∀ file ∈ files, ¬SourceFiles.IsFileAt nestedProject "/p" file ["p", "b", "b.go"]) ∧
      ∃ result, (run nestedProject [] knownFile "/p/a" onlyFile false).1 = .ok result ∧
        result.sources.map (·.package) = ["m/a"] ∧
        ∀ source ∈ result.sources, ∃ owner modulePath,
          nestedProject.projectRoot? source.file.fullPath = some (pathOf owner) ∧
          nestedProject.modulePath (pathOf owner) = .ok modulePath := by
  have htree : nestedProject.IsTree := by decide +kernel
  have hholds : nestedProject.HoldsModule ["p"] := ⟨by decide, by decide⟩
  have hroot : nestedProject.absolute "/p" = pathOf ["p"] := by decide +kernel
  have hinside : SourceFiles.LeadsInside nestedProject "/p" "a/a.go" := by
    intro path recursive hasks
    have hplain : SourceFiles.splitRecursive "a/a.go" = ("a/a.go", false) := by decide +kernel
    cases hplain.symm.trans (SourceFiles.asks_iff.mp hasks)
    decide +kernel
  have hrun : (run nestedProject [] knownFile "/p/a" onlyFile false).1.toOption.map
      (·.sources.map (·.package)) = some ["m/a"] := by decide +kernel
  obtain ⟨-, hwalk, hpackages⟩ := search_agrees_with_walk htree
  obtain ⟨files, hlist, -, hsound, hcomplete⟩ := hwalk "/p" ["p"] hroot hholds
  refine ⟨htree, hholds, ⟨files, hlist, hcomplete _ ?_, fun file hfile hat => ?_⟩, ?_⟩
  · refine ⟨["a"], "a.go", Text.toBytes "package a\n", rfl, by decide, by decide +kernel,
      by decide +kernel, ?_⟩
    rw [List.forall_mem_singleton, SourceFiles.IsIgnored]
    decide
  · obtain ⟨place, ⟨_, _, _, -, -, -, howner, -⟩, hat'⟩ := hsound file hfile
    cases hat.fullPath.symm.trans hat'.fullPath
    have hother : nestedProject.projectRoot? (pathOf ["p", "b", "b.go"]) = some "/p/b" := by
      decide +kernel
    rw [hother] at howner
    exact absurd howner (by decide)
  · cases hresult : (run nestedProject [] knownFile "/p/a" onlyFile false).1 with
    | error fault =>
        rw [hresult] at hrun
        cases hrun
    | ok result =>
        rw [hresult] at hrun
        have hproject : nestedProject.projectRoot? "/p/a" = some "/p" := by decide +kernel
        have hroot : result.root = "/p" := by
          exact Option.some.inj ((selected_of_run hresult).1.symm.trans hproject)
        refine ⟨result, rfl, Option.some.inj hrun, fun source hsource => ?_⟩
        obtain ⟨owner, -, -, modulePath, -, hfound, hpath, -⟩ :=
          hpackages [] knownFile "/p/a" onlyFile false result hresult
            (by rw [hroot]; exact List.forall_mem_singleton.mpr hinside) source hsource
        exact ⟨owner, modulePath, hfound, hpath⟩

end Scan

end ArchLint
