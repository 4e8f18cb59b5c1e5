import ArchLint.Proofs.AbsolutePaths
import ArchLint.Proofs.Distinct

/-!
Which files a selection lists: those that a pattern leads to or that are found
on a walk from a directory, without the excluded ones, each under one path from
the root and in the order of these paths.
-/

namespace ArchLint

namespace SourceFiles

open SlashPath (IsPlain IsName pathOf)

variable {disk : Disk} {root pattern path : String} {tests recursive : Bool}
  {start place dir p q : Place} {name : String}

section Walk

/-- The name of a file that is asked for. -/
def IsWanted (tests : Bool) (name : String) : Prop :=
  ".go".toList <:+ name.toList ∧ (tests = true ∨ ¬"_test.go".toList <:+ name.toList)

/-- A directory that a walk does not enter: one of other sources, for tests or
hidden, or with a module of its own. -/
def IsClosed (disk : Disk) (place : Place) (name : String) : Prop :=
  name = "vendor" ∨ name = "testdata" ∨ ".".toList <+: name.toList ∨ "_".toList <+: name.toList ∨
    disk.find? (place ++ [name, "go.mod"]) ≠ none

/-- The directories that a walk comes to. It starts in any directory. -/
inductive Entered (disk : Disk) (start : Place) : Place → Prop
  | start : Entered disk start start
  | down {place : Place} {name : String} (h : Entered disk start place)
      (hdirectory : disk.find? (place ++ [name]) = some .directory)
      (hopen : ¬IsClosed disk place name) : Entered disk start (place ++ [name])

theorem extension_eq_go_iff (hname : '/' ∉ name.toList) :
    SlashPath.extension name = ".go" ↔ ".go".toList <:+ name.toList := by
  have hlast : SlashPath.lastSegment name = name := by
    have happend := SlashPath.lastSegment_append "" hname
    rwa [String.empty_append, show SlashPath.lastSegment "" = "" by decide,
      String.empty_append] at happend
  obtain ⟨front, last, hparts, hcut⟩ := Text.exists_isCutAfter (· == '.') name.toList
  have htail : (name.toList.reverse.takeWhile (· != '.')).reverse = last := by
    rw [hparts]
    exact hcut.reverse_eq.2
  have hextension : SlashPath.extension name =
      if name.toList.elem '.' then String.ofList ('.' :: last) else "" := by
    simp only [SlashPath.extension, hlast, htail]
  rw [hextension]
  constructor
  · intro hgo
    split_ifs at hgo with hdot
    · obtain rfl : last = ['g', 'o'] := by
        have hchars := congrArg String.toList hgo
        simpa using hchars
      rcases List.eq_nil_or_concat' front with rfl | ⟨before, c, rfl⟩
      · rw [hparts] at hdot
        exact absurd hdot (by decide)
      · obtain rfl : c = '.' := by simpa using hcut.mark c (by simp)
        exact ⟨before, by simp [hparts]⟩
    · exact absurd hgo (by decide)
  · rintro ⟨before, hbefore⟩
    have hgo : (name.toList.reverse.takeWhile (· != '.')).reverse = ['g', 'o'] := by
      simp [← hbefore]
    rw [← htail, hgo, ← hbefore, if_pos (by simp)]

theorem isWanted_iff (hname : '/' ∉ name.toList) :
    isWanted tests name = true ↔ IsWanted tests name := by
  rw [isWanted, Bool.and_eq_true, beq_iff_eq, extension_eq_go_iff hname, IsWanted, Text.endsWith,
    Bool.or_eq_true, Bool.not_eq_true', ← Bool.not_eq_true, List.isSuffixOf_iff_suffix]

theorem isLeftOut_iff :
    isLeftOut disk (place ++ [name]) = true ↔ IsClosed disk place name := by
  simp [isLeftOut, IsClosed, Text.startsWith, Disk.moduleFileName, Option.isSome_iff_ne_none,
    or_assoc]

theorem mem_directoriesBetween (hstart : start <+: dir) :
    q ∈ directoriesBetween start (dir ++ [name]) ↔ start <+: q ∧ q ≠ start ∧ q <+: dir := by
  have hlength := hstart.length_le
  rw [directoriesBetween, List.mem_map]
  constructor
  · rintro ⟨i, hi, rfl⟩
    have hbound : start.length + i + 1 ≤ dir.length := by
      simp at hi
      omega
    have htake : (dir ++ [name]).take (start.length + i + 1) =
        dir.take (start.length + i + 1) := List.take_append_of_le_length hbound
    rw [htake]
    refine ⟨?_, fun heq => ?_, List.take_prefix _ _⟩
    · exact List.prefix_take_iff.mpr ⟨hstart, by omega⟩
    · have hlengths := congrArg List.length heq
      rw [List.length_take, Nat.min_eq_left hbound] at hlengths
      omega
  · rintro ⟨hq, hne, hdir⟩
    have hlonger : start.length < q.length := by
      refine Nat.lt_of_le_of_ne hq.length_le fun heq => hne ?_
      exact (hq.eq_of_length heq).symm
    have hshorter := hdir.length_le
    refine ⟨q.length - start.length - 1, ?_, ?_⟩
    · simp
      omega
    · have hindex : start.length + (q.length - start.length - 1) + 1 = q.length := by omega
      rw [hindex]
      exact (List.prefix_iff_eq_take.mp (hdir.trans (List.prefix_append dir [name]))).symm

theorem entered_iff (hopen : disk.IsOpen dir) :
    Entered disk start dir ↔ start <+: dir ∧
      ∀ q, start <+: q → q ≠ start → q <+: dir → isLeftOut disk q = false := by
  constructor
  · intro h
    induction h with
    | start =>
        refine ⟨List.prefix_rfl, fun q hq hne hq' => ?_⟩
        exact absurd (hq'.eq_of_length_le hq.length_le) hne
    | @down place name h hdirectory hinside ih =>
        have hplace : disk.IsOpen place := fun q hq => hopen q (hq.trans (List.prefix_append _ _))
        obtain ⟨hstart, hall⟩ := ih hplace
        refine ⟨hstart.trans (List.prefix_append _ _), fun q hq hne hq' => ?_⟩
        rcases List.prefix_concat_iff.mp hq' with rfl | hq'
        · rw [← Bool.not_eq_true, isLeftOut_iff]
          exact hinside
        · exact hall q hq hne hq'
  · rintro ⟨⟨names, rfl⟩, hall⟩
    induction names using List.reverseRecOn with
    | nil =>
        rw [List.append_nil]
        exact .start
    | append_singleton names name ih =>
        rw [← List.append_assoc] at hopen hall ⊢
        have hbelow := List.prefix_append (start ++ names) [name]
        refine .down (ih (fun q hq => hopen q (hq.trans hbelow))
          (fun q hq hne hq' => hall q hq hne (hq'.trans hbelow))) (hopen _ List.prefix_rfl) ?_
        rw [← isLeftOut_iff, Bool.not_eq_true]
        refine hall _ ?_ (by simp) List.prefix_rfl
        exact (List.prefix_append start names).trans hbelow

theorem isSelected_iff (htree : disk.IsTree) {content : ByteArray} (hstart : start <+: dir)
    (hfile : disk.find? (dir ++ [name]) = some (.file content)) :
    isSelected disk tests recursive start (dir ++ [name]) = true ↔
      IsWanted tests name ∧ if recursive then Entered disk start dir else dir = start := by
  have hname : '/' ∉ name.toList := (htree.isPlain hfile name (by simp)).isElement.2
  have hdirectory := htree.find?_above hfile (List.prefix_append dir [name]) (by simp)
  have hbetween : directoriesBetween start (dir ++ [name]) = [] ↔ dir = start := by
    rw [List.eq_nil_iff_forall_not_mem]
    constructor
    · intro hnone
      by_contra hne
      exact hnone dir ((mem_directoriesBetween hstart).mpr ⟨hstart, hne, List.prefix_rfl⟩)
    · rintro rfl q hq
      obtain ⟨hbelow, hne, habove⟩ := (mem_directoriesBetween hstart).mp hq
      exact hne (habove.eq_of_length_le hbelow.length_le)
  have hentered : (directoriesBetween start (dir ++ [name])).any (isLeftOut disk) = false ↔
      Entered disk start dir := by
    rw [entered_iff (htree.isOpen hdirectory), List.any_eq_false]
    simp only [mem_directoriesBetween hstart, Bool.not_eq_true, and_imp, hstart, true_and]
  have hlast : (dir ++ [name]).getLast?.getD "" = name := by simp
  simp only [isSelected, Bool.and_eq_true, hlast, isWanted_iff hname, Bool.not_eq_true',
    hentered, Bool.or_eq_true, List.isEmpty_iff, hbetween]
  cases recursive with
  | true => simp
  | false =>
      simp only [Bool.false_eq_true, false_or, if_false, and_assoc]
      constructor
      · exact fun ⟨hwanted, hself, _⟩ => ⟨hwanted, hself⟩
      · rintro ⟨hwanted, rfl⟩
        exact ⟨hwanted, rfl, .start⟩

end Walk

section Patterns

/-- The path before three dots: slashes at its end do not count, of either kind,
and without a path the root is meant. -/
def beforeDots (front : String) : String :=
  let trimmed := String.ofList (front.toList.rdropWhile fun c => c == '/' || c == '\\')
  if trimmed = "" then "." else trimmed

/-- What a pattern asks for: a path, and whether the directories below it are
meant as well. -/
inductive Asks : String → String → Bool → Prop
  | plain {pattern : String} (h : ¬"...".toList <:+ pattern.toList) : Asks pattern pattern false
  | dots (front : String) : Asks (front ++ "...") (beforeDots front) true

/-- The path that a pattern starts from, below the root unless it is absolute. -/
def startOf (disk : Disk) (root path : String) : String :=
  if SlashPath.isAbsolute path then path else SlashPath.join [disk.absolute root, path]

/-- The files that a pattern selects: the one it leads to, or those that are
asked for in the directory it leads to, or in those that a walk comes to. -/
inductive Selects (disk : Disk) (root : String) (tests : Bool) (pattern : String) : Place → Prop
  | file {path : String} {recursive : Bool} {place : Place} {content : ByteArray}
      (hasks : Asks pattern path recursive)
      (hlocate : disk.locate (startOf disk root path) = .ok place)
      (hfile : disk.find? place = some (.file content)) : Selects disk root tests pattern place
  | inside {path name : String} {recursive : Bool} {start dir : Place} {content : ByteArray}
      (hasks : Asks pattern path recursive)
      (hlocate : disk.locate (startOf disk root path) = .ok start)
      (hdirectory : disk.find? start = some .directory)
      (hdir : if recursive then Entered disk start dir else dir = start)
      (hfile : disk.find? (dir ++ [name]) = some (.file content))
      (hwanted : IsWanted tests name) : Selects disk root tests pattern (dir ++ [name])

/-- A pattern that leads to something. -/
def Leads (disk : Disk) (root pattern : String) : Prop :=
  ∃ path recursive place node, Asks pattern path recursive ∧
    disk.locate (startOf disk root path) = .ok place ∧ disk.find? place = some node

theorem splitRecursive_dots (front : String) :
    splitRecursive (front ++ "...") = (beforeDots front, true) := by
  have hafter : Text.afterPrefix? ['.', '.', '.'] (front ++ "...").toList.reverse =
      some front.toList.reverse := by
    rw [Text.afterPrefix?_eq_some_iff, String.toList_append, List.reverse_append]
    rfl
  obtain ⟨trimmed, htrimmed⟩ : ∃ trimmed, trimmed = String.ofList
      (front.toList.rdropWhile fun c => c == '/' || c == '\\') := ⟨_, rfl⟩
  have hsplit : splitRecursive (front ++ "...") =
      (if trimmed.isEmpty then "." else trimmed, true) := by
    simp only [splitRecursive, hafter, htrimmed]
    rfl
  have hbefore : beforeDots front = if trimmed = "" then "." else trimmed := by
    rw [htrimmed]
    rfl
  rw [hsplit, hbefore]
  by_cases hempty : trimmed = ""
  · simp [hempty]
  · simp [hempty]

theorem splitRecursive_plain (h : ¬"...".toList <:+ pattern.toList) :
    splitRecursive pattern = (pattern, false) := by
  rw [splitRecursive]
  split
  next => rfl
  next rest hrest =>
    rw [Text.afterPrefix?_eq_some_iff] at hrest
    refine absurd ⟨rest.reverse, ?_⟩ h
    rw [← List.reverse_reverse pattern.toList, hrest, List.reverse_append]
    rfl

theorem asks_iff : Asks pattern path recursive ↔ splitRecursive pattern = (path, recursive) := by
  constructor
  · rintro (h | front)
    · exact splitRecursive_plain h
    · exact splitRecursive_dots front
  · intro h
    by_cases hend : "...".toList <:+ pattern.toList
    · obtain ⟨front, hfront⟩ := hend
      obtain rfl : pattern = String.ofList front ++ "..." := by
        apply String.toList_injective
        rw [String.toList_append, String.toList_ofList, hfront]
      rw [splitRecursive_dots] at h
      cases h
      exact .dots _
    · rw [splitRecursive_plain hend] at h
      cases h
      exact .plain hend

theorem isAbsolute_startOf (htree : disk.IsTree) (root path : String) :
    SlashPath.isAbsolute (startOf disk root path) = true := by
  obtain ⟨names, -, hroot⟩ := htree.exists_absolute_eq root
  rw [startOf]
  split_ifs with hpath
  · exact hpath
  · obtain ⟨names', -, hjoin⟩ := SlashPath.exists_join_eq_pathOf
      (hroot ▸ SlashPath.isAbsolute_pathOf names) path
    rw [hjoin]
    exact SlashPath.isAbsolute_pathOf names'

theorem mem_below (htree : disk.IsTree) {node : DiskNode} :
    (p, node) ∈ disk.below place ↔ disk.find? p = some node ∧ place <+: p ∧ p ≠ place := by
  have hbelow : (p, node) ∈ disk.below place ↔
      (p, node) ∈ disk.nodes ∧ place <+: p ∧ p ≠ place := by
    rw [Disk.below, List.mem_mergeSort, List.mem_filter, Bool.and_eq_true,
      List.isPrefixOf_iff_prefix, bne_iff_ne]
  rw [hbelow]
  constructor
  · rintro ⟨hmem, hplace⟩
    have hne := (htree.named _ hmem).1
    refine ⟨?_, hplace⟩
    rw [Disk.find?, if_neg (by simpa using hne), lookup_eq_some_iff_mem htree.distinct]
    exact hmem
  · rintro ⟨hfind, hplace, hne⟩
    refine ⟨Disk.mem_nodes_of_find? ?_ hfind, hplace, hne⟩
    rintro rfl
    exact hne (List.prefix_nil.mp hplace).symm

theorem join_drop (htree : disk.IsTree) {node : DiskNode}
    (hpath : SlashPath.isAbsolute path = true) (hlocate : disk.locate path = .ok start)
    (hstart : start <+: p) (hfind : disk.find? p = some node) :
    SlashPath.join (path :: p.drop start.length) = pathOf p := by
  obtain ⟨names, rfl⟩ := hstart
  have hnames : ∀ s ∈ names, IsPlain s :=
    fun s hs => htree.isPlain hfind s (List.mem_append_right start hs)
  rw [List.drop_left, SlashPath.join_plain hpath hnames, ← (Disk.clean_of_locate hpath hlocate).1]

/-- What is selected in a directory is what a walk finds there. -/
theorem selects_iff_of_directory (htree : disk.IsTree) (hasks : Asks pattern path recursive)
    (hlocate : disk.locate (startOf disk root path) = .ok start)
    (hdirectory : disk.find? start = some .directory) :
    Selects disk root tests pattern p ↔ ∃ content, (p, .file content) ∈ disk.below start ∧
      isSelected disk tests recursive start p = true := by
  constructor
  · intro h
    cases h with
    | file hasks' hlocate' hfile =>
        cases (asks_iff.mp hasks).symm.trans (asks_iff.mp hasks')
        cases hlocate.symm.trans hlocate'
        rw [hdirectory] at hfile
        cases hfile
    | @inside _ name _ _ dir content hasks' hlocate' hdirectory' hdir hfile hwanted =>
        cases (asks_iff.mp hasks).symm.trans (asks_iff.mp hasks')
        cases hlocate.symm.trans hlocate'
        have hbelow : start <+: dir := by
          cases recursive with
          | true =>
              have hopen := htree.find?_above hfile (List.prefix_append dir [name]) (by simp)
              exact ((entered_iff (htree.isOpen hopen)).mp hdir).1
          | false => rw [show dir = start from hdir]
        refine ⟨content, (mem_below htree).mpr ⟨hfile, ?_, ?_⟩,
          (isSelected_iff htree hbelow hfile).mpr ⟨hwanted, hdir⟩⟩
        · exact hbelow.trans (List.prefix_append dir [name])
        · rintro rfl
          exact Disk.not_below_itself dir name hbelow
  · rintro ⟨content, hmem, hselected⟩
    obtain ⟨hfile, ⟨names, rfl⟩, hne⟩ := (mem_below htree).mp hmem
    rcases List.eq_nil_or_concat names with rfl | ⟨names, name, rfl⟩
    · exact absurd (List.append_nil start) hne
    · rw [List.concat_eq_append, ← List.append_assoc] at hfile hselected ⊢
      obtain ⟨hwanted, hdir⟩ :=
        (isSelected_iff htree (List.prefix_append start names) hfile).mp hselected
      exact .inside hasks hlocate hdirectory hdir hfile hwanted

theorem stat_start {node : DiskNode} (hlocate : disk.locate (startOf disk root path) = .ok start)
    (hfind : disk.find? start = some node) :
    (Disk.during "stat" (startOf disk root path)
      (disk.nodeAt (startOf disk root path))).mapError (ListingFault.stat path) =
        .ok (start, node) := by
  rw [Disk.nodeAt_of_locate hlocate hfind]
  rfl

theorem pathsOf_of_directory (tests : Bool) (htree : disk.IsTree)
    (hasks : Asks pattern path recursive)
    (hlocate : disk.locate (startOf disk root path) = .ok start)
    (hdirectory : disk.find? start = some .directory) :
    ∃ paths, pathsOf disk (disk.absolute root) tests pattern = .ok paths ∧
      ∀ other, other ∈ paths ↔ ∃ place, Selects disk root tests pattern place ∧
        other = pathOf place := by
  have hrooted := isAbsolute_startOf htree root path
  have hstart : (if SlashPath.isAbsolute path then path
      else SlashPath.join [disk.absolute root, path]) = startOf disk root path := rfl
  simp only [pathsOf, asks_iff.mp hasks, hstart, stat_start hlocate hdirectory]
  refine ⟨_, rfl, fun other => ?_⟩
  rw [List.mem_filterMap]
  constructor
  · rintro ⟨⟨p, _ | content⟩, hmem, hsome⟩
    · cases hsome
    · dsimp only at hsome
      split_ifs at hsome with hselected
      cases hsome
      obtain ⟨hfile, hbelow, -⟩ := (mem_below htree).mp hmem
      exact ⟨p, (selects_iff_of_directory htree hasks hlocate hdirectory).mpr
        ⟨content, hmem, hselected⟩, join_drop htree hrooted hlocate hbelow hfile⟩
  · rintro ⟨p, hselects, rfl⟩
    obtain ⟨content, hmem, hselected⟩ :=
      (selects_iff_of_directory htree hasks hlocate hdirectory).mp hselects
    obtain ⟨hfile, hbelow, -⟩ := (mem_below htree).mp hmem
    refine ⟨(p, .file content), hmem, ?_⟩
    rw [← join_drop htree hrooted hlocate hbelow hfile]
    exact if_pos hselected

theorem selects_iff_of_file {content : ByteArray} (hasks : Asks pattern path recursive)
    (hlocate : disk.locate (startOf disk root path) = .ok start)
    (hfile : disk.find? start = some (.file content)) :
    Selects disk root tests pattern p ↔ p = start := by
  constructor
  · intro h
    cases h with
    | file hasks' hlocate' _ =>
        cases (asks_iff.mp hasks).symm.trans (asks_iff.mp hasks')
        exact Except.ok.inj (hlocate'.symm.trans hlocate)
    | inside hasks' hlocate' hdirectory _ _ _ =>
        cases (asks_iff.mp hasks).symm.trans (asks_iff.mp hasks')
        cases hlocate.symm.trans hlocate'
        rw [hfile] at hdirectory
        cases hdirectory
  · rintro rfl
    exact .file hasks hlocate hfile

theorem Selects.exists_file (h : Selects disk root tests pattern p) :
    ∃ content, disk.find? p = some (.file content) := by
  cases h with
  | file _ _ hfile => exact ⟨_, hfile⟩
  | inside _ _ _ _ hfile _ => exact ⟨_, hfile⟩

theorem pathsOf_eq_ok (tests : Bool) (htree : disk.IsTree) (hleads : Leads disk root pattern) :
    ∃ paths, pathsOf disk (disk.absolute root) tests pattern = .ok paths ∧
      (∀ path ∈ paths, SlashPath.isAbsolute path = true ∧
        ∃ place, Selects disk root tests pattern place ∧ disk.locate path = .ok place) ∧
      ∀ place, Selects disk root tests pattern place →
        ∃ path ∈ paths, disk.locate path = .ok place := by
  obtain ⟨path, recursive, start, node, hasks, hlocate, hfind⟩ := hleads
  cases node with
  | file content =>
      have hstart : (if SlashPath.isAbsolute path then path
          else SlashPath.join [disk.absolute root, path]) = startOf disk root path := rfl
      have hselects : ∀ p, Selects disk root tests pattern p ↔ p = start :=
        fun p => selects_iff_of_file hasks hlocate hfind
      refine ⟨[startOf disk root path], ?_, ?_, ?_⟩
      · simp only [pathsOf, asks_iff.mp hasks, hstart, stat_start hlocate hfind]
        rfl
      · intro other hother
        rw [List.mem_singleton.mp hother]
        exact ⟨isAbsolute_startOf htree root path, start, (hselects start).mpr rfl, hlocate⟩
      · intro place hplace
        obtain rfl := (hselects place).mp hplace
        exact ⟨_, List.mem_singleton_self _, hlocate⟩
  | directory =>
      obtain ⟨paths, hpaths, hmem⟩ := pathsOf_of_directory tests htree hasks hlocate hfind
      have hlocated : ∀ place, Selects disk root tests pattern place →
          disk.locate (pathOf place) = .ok place := by
        intro place hplace
        obtain ⟨content, hfile⟩ := hplace.exists_file
        exact htree.locate_pathOf hfile
      refine ⟨paths, hpaths, fun other hother => ?_, fun place hplace => ?_⟩
      · obtain ⟨place, hplace, rfl⟩ := (hmem other).mp hother
        exact ⟨SlashPath.isAbsolute_pathOf place, place, hplace, hlocated place hplace⟩
      · exact ⟨_, (hmem _).mpr ⟨place, hplace, rfl⟩, hlocated place hplace⟩

end Patterns

section ShortPaths

variable {disk : Disk} {root path : String} {place p q : Place}

/-- The path of a place from a root. -/
def shortOf (disk : Disk) (root : String) (place : Place) : String :=
  (SlashPath.relative? (disk.absolute root) (pathOf place)).getD (pathOf place)

theorem relative?_absolute (root : String) (htree : disk.IsTree)
    (hplace : ∀ s ∈ place, IsPlain s) :
    SlashPath.relative? (disk.absolute root) (pathOf place) = some (shortOf disk root place) ∧
      SlashPath.join [disk.absolute root, shortOf disk root place] = pathOf place := by
  obtain ⟨names, hnames, hroot⟩ := htree.exists_absolute_eq root
  obtain ⟨short, hshort, hjoin⟩ := SlashPath.join_relative? hnames hplace
  rw [← hroot] at hshort hjoin
  rw [shortOf, hshort]
  exact ⟨rfl, hjoin⟩

theorem shortOf_injective (htree : disk.IsTree) (hp : ∀ s ∈ p, IsPlain s)
    (hq : ∀ s ∈ q, IsPlain s) (h : shortOf disk root p = shortOf disk root q) : p = q := by
  have hjoin := (relative?_absolute root htree hp).2
  rw [h, (relative?_absolute root htree hq).2] at hjoin
  exact (SlashPath.pathOf_injective hq hp hjoin).symm

theorem shortPath_of_locate (root : String) (htree : disk.IsTree)
    (hpath : SlashPath.isAbsolute path = true)
    (hlocate : disk.locate path = .ok place) :
    (SlashPath.relative? (disk.absolute root) path).getD path = shortOf disk root place := by
  obtain ⟨hplace, hclean⟩ := Disk.clean_of_locate hpath hlocate
  have hplain : ∀ s ∈ place, IsPlain s := fun s hs =>
    SlashPath.isPlain_cleaned hpath s (List.mem_reverse.mp (hplace ▸ hs))
  have hsame : SlashPath.relative? (disk.absolute root) path =
      SlashPath.relative? (disk.absolute root) (pathOf place) :=
    SlashPath.relative?_congr rfl (hclean.trans (SlashPath.clean_pathOf hplain).symm)
  rw [hsame, (relative?_absolute root htree hplain).1, Option.getD_some]

end ShortPaths

section Listing

variable {read : ExcludeReader} {disk : Disk} {root : String} {selection selection' : Selection}
  {place : Place}

/-- The patterns of a selection; without any all files below the root are
meant. -/
def patternsOf (selection : Selection) : List String :=
  if selection.paths.isEmpty then ["./..."] else selection.paths

/-- A file that is selected, whether it is excluded or not. -/
def IsChosen (disk : Disk) (root : String) (selection : Selection) (place : Place) : Prop :=
  ∃ pattern ∈ patternsOf selection, Selects disk root selection.includeTests pattern place

/-- A path passes the test of an exclude pattern that is not blank. -/
def Excludes (read : ExcludeReader) (selection : Selection) (short : String) : Prop :=
  ∃ text ∈ selection.exclude, Text.trimBlank text ≠ "" ∧
    ∃ test, read text = .ok test ∧ test short = true

/-- What a selection needs to be listed: every pattern leads to something, and
the exclude patterns that are not blank can be read. -/
structure IsValid (read : ExcludeReader) (disk : Disk) (root : String) (selection : Selection) :
    Prop where
  leads : ∀ pattern ∈ patternsOf selection, Leads disk root pattern
  expressions : ∀ text ∈ selection.exclude, Text.trimBlank text ≠ "" →
    ∃ test, read text = .ok test

theorem mapM_eq_ok {α β ε : Type} {f : α → Except ε β} {xs : List α}
    (h : ∀ x ∈ xs, ∃ y, f x = .ok y) :
    ∃ ys, xs.mapM f = .ok ys ∧ ∀ y, y ∈ ys ↔ ∃ x ∈ xs, f x = .ok y := by
  induction xs with
  | nil => exact ⟨[], rfl, by simp⟩
  | cons x xs ih =>
      obtain ⟨⟨y, hy⟩, hxs⟩ := List.forall_mem_cons.mp h
      obtain ⟨ys, hys, hmem⟩ := ih hxs
      refine ⟨y :: ys, ?_, fun z => ?_⟩
      · rw [List.mapM_cons, hy, hys]
        rfl
      · rw [List.mem_cons, hmem, List.exists_mem_cons_iff, hy, Except.ok.injEq, eq_comm]

theorem compileExcludes_eq_ok (h : IsValid read disk root selection) :
    ∃ excludes, compileExcludes read selection.exclude = .ok excludes ∧
      ∀ short, isExcluded excludes short = true ↔ Excludes read selection short := by
  have hcompiled : ∀ text ∈ selection.exclude.filter fun p => !(Text.trimBlank p).isEmpty,
      ∃ test, (read text).mapError (ListingFault.badExclude text) = .ok test := by
    intro text htext
    obtain ⟨hmem, hblank⟩ := List.mem_filter.mp htext
    obtain ⟨test, htest⟩ := h.expressions text hmem (by simpa using hblank)
    exact ⟨test, by rw [htest, Except.mapError]⟩
  obtain ⟨excludes, hexcludes, hmem⟩ := mapM_eq_ok hcompiled
  refine ⟨excludes, hexcludes, fun short => ?_⟩
  rw [isExcluded, List.any_eq_true]
  constructor
  · rintro ⟨test, htest, hpasses⟩
    obtain ⟨text, htext, hread⟩ := (hmem test).mp htest
    obtain ⟨htext, hblank⟩ := List.mem_filter.mp htext
    exact ⟨text, htext, by simpa using hblank, test, eq_ok_of_mapError hread, hpasses⟩
  · rintro ⟨text, htext, hblank, test, hread, hpasses⟩
    refine ⟨test, (hmem test).mpr ⟨text, ?_, ?_⟩, hpasses⟩
    · exact List.mem_filter.mpr ⟨htext, by simpa using hblank⟩
    · rw [hread, Except.mapError]

theorem map_firstPaths (paths : List (String × String)) :
    (firstPaths paths).map (·.2) = Text.distinct (paths.map (·.2)) := by
  have hfold : ∀ (rest seen : List (String × String)),
      (rest.foldl (fun (seen : List (String × String)) p =>
        if seen.any (·.2 == p.2) then seen else p :: seen) seen).map (·.2) =
      (rest.map (·.2)).foldl (fun seen x => if seen.elem x then seen else x :: seen)
        (seen.map (·.2)) := by
    intro rest
    induction rest with
    | nil => exact fun seen => rfl
    | cons p rest ih =>
        intro seen
        have hseen : seen.any (·.2 == p.2) = (seen.map (·.2)).elem p.2 := by
          rw [Bool.eq_iff_iff, List.elem_iff]
          simp
        rw [List.foldl_cons, List.map_cons, List.foldl_cons, ih, ← hseen]
        split_ifs <;> rfl
  rw [firstPaths, List.map_reverse, hfold, Text.distinct, List.map_nil]

/-- A listed file stands at a place. Its path leads there, from the root as
well, and it has the fingerprint of the content. -/
structure IsFileAt (disk : Disk) (root : String) (file : SourceFile) (place : Place) : Prop where
  shortPath : file.shortPath = shortOf disk root place
  joined : SlashPath.join [disk.absolute root, file.shortPath] = pathOf place
  fullPath : disk.locate file.fullPath = .ok place
  cleaned : SlashPath.clean file.fullPath = pathOf place
  content : ∃ content, disk.find? place = some (.file content) ∧ file.hash = Text.digest content

theorem isFileAt_fileAt (htree : disk.IsTree) {path : String}
    (hpath : SlashPath.isAbsolute path = true) (hlocate : disk.locate path = .ok place)
    (hchosen : IsChosen disk root selection place) :
    IsFileAt disk root (fileAt disk (disk.absolute root) path) place := by
  obtain ⟨pattern, -, hselects⟩ := hchosen
  obtain ⟨content, hfile⟩ := hselects.exists_file
  have hshort := shortPath_of_locate root htree hpath hlocate
  have hread := Disk.read_of_nodeAt (Disk.nodeAt_of_locate hlocate hfile)
  refine ⟨hshort, ?_, hlocate, (Disk.clean_of_locate hpath hlocate).2, content, hfile, ?_⟩
  · rw [fileAt]
    dsimp only
    rw [hshort]
    exact (relative?_absolute root htree (htree.isPlain hfile)).2
  · rw [fileAt, hread, Except.toOption, Option.getD_some]

theorem exists_paths (htree : disk.IsTree) (h : IsValid read disk root selection) :
    ∃ groups, (patternsOf selection).mapM
        (pathsOf disk (disk.absolute root) selection.includeTests) = .ok groups ∧
      (∀ path ∈ groups.flatten, SlashPath.isAbsolute path = true ∧
        ∃ place, IsChosen disk root selection place ∧ disk.locate path = .ok place) ∧
      ∀ place, IsChosen disk root selection place →
        ∃ path ∈ groups.flatten, disk.locate path = .ok place := by
  have hpaths := fun pattern hpattern =>
    pathsOf_eq_ok selection.includeTests htree (h.leads pattern hpattern)
  obtain ⟨groups, hgroups, hmem⟩ := mapM_eq_ok fun pattern hpattern =>
    (hpaths pattern hpattern).imp fun _ hok => hok.1
  refine ⟨groups, hgroups, fun path hpath => ?_, fun place hplace => ?_⟩
  · obtain ⟨group, hgroup, hpath⟩ := List.mem_flatten.mp hpath
    obtain ⟨pattern, hpattern, hok⟩ := (hmem group).mp hgroup
    obtain ⟨paths, hok', hsound, -⟩ := hpaths pattern hpattern
    cases hok.symm.trans hok'
    obtain ⟨hrooted, place, hselects, hlocate⟩ := hsound path hpath
    exact ⟨hrooted, place, ⟨pattern, hpattern, hselects⟩, hlocate⟩
  · obtain ⟨pattern, hpattern, hselects⟩ := hplace
    obtain ⟨paths, hok, -, hcomplete⟩ := hpaths pattern hpattern
    obtain ⟨path, hpath, hlocate⟩ := hcomplete place hselects
    exact ⟨path, List.mem_flatten.mpr ⟨paths, (hmem paths).mpr ⟨pattern, hpattern, hok⟩, hpath⟩,
      hlocate⟩

theorem exists_first {base path : String} {paths : List String} (hpath : path ∈ paths) :
    ∃ p ∈ firstPaths (paths.map (withShortPath base)), p.2 = (withShortPath base path).2 := by
  have hmem : (withShortPath base path).2 ∈
      (firstPaths (paths.map (withShortPath base))).map (·.2) := by
    rw [map_firstPaths, Text.mem_distinct, List.map_map, List.mem_map]
    exact ⟨path, hpath, rfl⟩
  exact List.mem_map.mp hmem

theorem nodup_shortPaths (disk : Disk) (base : String) (paths : List String)
    (keep : String × String → Bool) :
    ((((firstPaths (paths.map (withShortPath base))).filter keep).map
      fun p => fileAt disk base p.1).map (·.shortPath)).Nodup := by
  have hshort : (((firstPaths (paths.map (withShortPath base))).filter keep).map
      fun p => fileAt disk base p.1).map (·.shortPath) =
        ((firstPaths (paths.map (withShortPath base))).filter keep).map (·.2) := by
    rw [List.map_map]
    refine List.map_congr_left fun p hp => ?_
    obtain ⟨path, -, rfl⟩ := List.mem_map.mp (firstPaths_subset _ (List.mem_filter.mp hp).1)
    rfl
  have hdistinct := Text.nodup_distinct ((paths.map (withShortPath base)).map (·.2))
  rw [← map_firstPaths] at hdistinct
  rw [hshort]
  exact hdistinct.sublist (List.filter_sublist.map _)

theorem list_eq_ok (htree : disk.IsTree) (h : IsValid read disk root selection) :
    ∃ files, listWith read disk root selection false = .ok files ∧
      files.Pairwise (fun a b => a.shortPath < b.shortPath) ∧
      (∀ file ∈ files, ∃ place, IsChosen disk root selection place ∧
        ¬Excludes read selection file.shortPath ∧ IsFileAt disk root file place) ∧
      ∀ place, IsChosen disk root selection place →
        ¬Excludes read selection (shortOf disk root place) →
        ∃ file ∈ files, IsFileAt disk root file place := by
  obtain ⟨excludes, hexcludes, hexcluded⟩ := compileExcludes_eq_ok h
  obtain ⟨groups, hgroups, hsound, hcomplete⟩ := exists_paths htree h
  have hlist : listWith read disk root selection false =
      .ok ((((firstPaths (groups.flatten.map (withShortPath (disk.absolute root)))).filter
        fun p => !isExcluded excludes p.2).map
          fun p => fileAt disk (disk.absolute root) p.1).mergeSort fun a b =>
            Text.byteLe a.shortPath b.shortPath) := by
    rw [patternsOf] at hgroups
    simp only [listWith, hexcludes, hgroups, bind, Except.bind, Bool.false_eq_true, if_false]
  have hmem : ∀ p ∈ firstPaths (groups.flatten.map (withShortPath (disk.absolute root))),
      ∃ place, IsChosen disk root selection place ∧ p.2 = shortOf disk root place ∧
        IsFileAt disk root (fileAt disk (disk.absolute root) p.1) place := by
    intro p hp
    obtain ⟨path, hpath, rfl⟩ := List.mem_map.mp (firstPaths_subset _ hp)
    obtain ⟨hrooted, place, hchosen, hlocate⟩ := hsound path hpath
    have hfile := isFileAt_fileAt htree hrooted hlocate hchosen
    exact ⟨place, hchosen, hfile.shortPath, hfile⟩
  refine ⟨_, hlist, Text.strictly_mergeSort_byteLe (nodup_shortPaths disk _ _ _),
    fun file hfile => ?_, fun place hchosen hnot => ?_⟩
  · rw [List.mem_mergeSort] at hfile
    obtain ⟨p, hp, rfl⟩ := List.mem_map.mp hfile
    obtain ⟨hp, hkeep⟩ := List.mem_filter.mp hp
    obtain ⟨place, hchosen, hshort, hfile⟩ := hmem p hp
    refine ⟨place, hchosen, ?_, hfile⟩
    rw [← hexcluded, hfile.shortPath, ← hshort]
    simpa using hkeep
  · obtain ⟨path, hpath, hlocate⟩ := hcomplete place hchosen
    obtain ⟨hrooted, -⟩ := hsound path hpath
    obtain ⟨p, hp, hfirst⟩ := exists_first hpath
    have hsecond : p.2 = shortOf disk root place :=
      hfirst.trans (shortPath_of_locate root htree hrooted hlocate)
    obtain ⟨place', hchosen', hshort', hfile⟩ := hmem p hp
    obtain rfl : place' = place := by
      obtain ⟨_, -, hselects⟩ := hchosen
      obtain ⟨_, -, hselects'⟩ := hchosen'
      obtain ⟨_, hplace⟩ := hselects.exists_file
      obtain ⟨_, hplace'⟩ := hselects'.exists_file
      exact shortOf_injective htree (htree.isPlain hplace') (htree.isPlain hplace)
        (hshort'.symm.trans hsecond)
    refine ⟨_, List.mem_mergeSort.mpr (List.mem_map.mpr ⟨p, ?_, rfl⟩), hfile⟩
    rw [List.mem_filter]
    refine ⟨hp, ?_⟩
    rw [Bool.not_eq_true', ← Bool.not_eq_true, hexcluded, hsecond]
    exact hnot

/-- What a listing tells about a file, apart from the spelling of its path. -/
def summaryOf (file : SourceFile) : String × String × String :=
  (file.shortPath, file.hash, SlashPath.clean file.fullPath)

theorem IsFileAt.summaryOf_eq {file file' : SourceFile} (h : IsFileAt disk root file place)
    (h' : IsFileAt disk root file' place) : summaryOf file = summaryOf file' := by
  obtain ⟨content, hfind, hhash⟩ := h.content
  obtain ⟨content', hfind', hhash'⟩ := h'.content
  cases Option.some.inj (hfind.symm.trans hfind')
  rw [summaryOf, summaryOf, h.shortPath, h'.shortPath, hhash, hhash', h.cleaned, h'.cleaned]

/-- Selections that choose and exclude the same. -/
structure Agrees (read : ExcludeReader) (disk : Disk) (root : String)
    (selection selection' : Selection) : Prop where
  chosen : ∀ place, IsChosen disk root selection place ↔ IsChosen disk root selection' place
  excluded : ∀ short, Excludes read selection short ↔ Excludes read selection' short

theorem agrees_of_mem (hpaths : ∀ pattern, pattern ∈ selection'.paths ↔ pattern ∈ selection.paths)
    (hexclude : ∀ text, text ∈ selection'.exclude ↔ text ∈ selection.exclude)
    (htests : selection'.includeTests = selection.includeTests)
    (h : IsValid read disk root selection) :
    IsValid read disk root selection' ∧ Agrees read disk root selection selection' := by
  have hpatterns : ∀ pattern, pattern ∈ patternsOf selection' ↔ pattern ∈ patternsOf selection := by
    have hempty : selection'.paths.isEmpty = selection.paths.isEmpty := by
      rw [Bool.eq_iff_iff, List.isEmpty_iff, List.isEmpty_iff, List.eq_nil_iff_forall_not_mem,
        List.eq_nil_iff_forall_not_mem]
      simp only [hpaths]
    intro pattern
    rw [patternsOf, patternsOf, hempty]
    split_ifs
    · rfl
    · exact hpaths pattern
  refine ⟨⟨fun pattern hpattern => h.leads pattern ((hpatterns pattern).mp hpattern),
    fun text htext => h.expressions text ((hexclude text).mp htext)⟩, fun place => ?_,
    fun short => ?_⟩
  · simp only [IsChosen, hpatterns, htests]
  · simp only [Excludes, hexclude]

/-- Selections that agree are listed alike. -/
theorem list_congr (htree : disk.IsTree) (h : IsValid read disk root selection)
    (h' : IsValid read disk root selection') (hagrees : Agrees read disk root selection selection')
    {files : List SourceFile} (hlist : listWith read disk root selection false = .ok files) :
    ∃ files', listWith read disk root selection' false = .ok files' ∧
      files'.map summaryOf = files.map summaryOf := by
  obtain ⟨_, hok, hsorted, hsound, hcomplete⟩ := list_eq_ok htree h
  obtain ⟨files', hok', hsorted', hsound', hcomplete'⟩ := list_eq_ok htree h'
  cases hlist.symm.trans hok
  have hfirst : ∀ {all : List SourceFile}, all.Pairwise (fun a b => a.shortPath < b.shortPath) →
      (all.map summaryOf).Pairwise (fun a b => a.1 < b.1) := fun hall => List.pairwise_map.mpr hall
  have hnodup : ∀ {all : List SourceFile}, all.Pairwise (fun a b => a.shortPath < b.shortPath) →
      (all.map summaryOf).Nodup := by
    intro all hall
    refine (hfirst hall).imp ?_
    rintro a b hlt rfl
    exact String.lt_irrefl _ hlt
  refine ⟨files', hok', List.Perm.eq_of_pairwise ?_ (hfirst hsorted') (hfirst hsorted) ?_⟩
  · intro a b _ _ hlt hgt
    exact absurd hgt (String.lt_asymm hlt)
  · rw [List.perm_ext_iff_of_nodup (hnodup hsorted') (hnodup hsorted)]
    intro summary
    rw [List.mem_map, List.mem_map]
    constructor
    · rintro ⟨file', hfile', rfl⟩
      obtain ⟨place, hchosen, hnot, hat'⟩ := hsound' file' hfile'
      rw [hat'.shortPath, ← hagrees.excluded] at hnot
      obtain ⟨file, hfile, hat⟩ := hcomplete place ((hagrees.chosen place).mpr hchosen) hnot
      exact ⟨file, hfile, hat.summaryOf_eq hat'⟩
    · rintro ⟨file, hfile, rfl⟩
      obtain ⟨place, hchosen, hnot, hat⟩ := hsound file hfile
      rw [hat.shortPath, hagrees.excluded] at hnot
      obtain ⟨file', hfile', hat'⟩ := hcomplete' place ((hagrees.chosen place).mp hchosen) hnot
      exact ⟨file', hfile', hat'.summaryOf_eq hat⟩

end Listing

/-- A selection whose patterns lead to something lists exactly the files that
are chosen and not excluded, in the order of their paths from the root, no two
of which are the same; and how the patterns are written does not matter. Any
test of paths can be what an exclude pattern says. -/
theorem list_exact (read : ExcludeReader) {disk : Disk} (htree : disk.IsTree) {root : String}
    {selection : Selection} (hvalid : IsValid read disk root selection) :
    ∃ files, listWith read disk root selection false = .ok files ∧
      (files.map (·.shortPath)).Pairwise (· < ·) ∧
      (∀ file ∈ files, ∃ place, IsChosen disk root selection place ∧
        ¬Excludes read selection file.shortPath ∧ IsFileAt disk root file place) ∧
      (∀ place, IsChosen disk root selection place →
        ¬Excludes read selection (shortOf disk root place) →
        ∃ file ∈ files, IsFileAt disk root file place) ∧
      (∀ selection', IsValid read disk root selection' → Agrees read disk root selection selection' →
        ∃ files', listWith read disk root selection' false = .ok files' ∧
          files'.map summaryOf = files.map summaryOf) ∧
      ∀ selection' : Selection,
        (∀ pattern, pattern ∈ selection'.paths ↔ pattern ∈ selection.paths) →
        (∀ text, text ∈ selection'.exclude ↔ text ∈ selection.exclude) →
        selection'.includeTests = selection.includeTests →
        ∃ files', listWith read disk root selection' false = .ok files' ∧
          files'.map summaryOf = files.map summaryOf := by
  obtain ⟨files, hlist, hsorted, hsound, hcomplete⟩ := list_eq_ok htree hvalid
  refine ⟨files, hlist, List.pairwise_map.mpr hsorted, hsound, hcomplete,
    fun selection' hvalid' hagrees => list_congr htree hvalid hvalid' hagrees hlist,
    fun selection' hpaths hexclude htests => ?_⟩
  obtain ⟨hvalid', hagrees⟩ := agrees_of_mem hpaths hexclude htests hvalid
  exact list_congr htree hvalid hvalid' hagrees hlist

/-- A project with three files of its own, a generated one among them, and one
of other sources. -/
def vendoring : Disk :=
  { nodes := [(["p"], .directory), (["p", "a.go"], .file (Text.toBytes "package p\n")),
      (["p", "a.pb.go"], .file (Text.toBytes "package p\n")),
      (["p", "vendor"], .directory), (["p", "vendor", "b.go"], .file ByteArray.empty)] }

/-- A selection without generated files. -/
def written : Selection :=
  { paths := ["./..."], exclude := ["\\.(pb|gen)\\.go$", " "] }

theorem asks_written : Asks "./..." "." true :=
  asks_iff.mpr (by decide +kernel)

theorem locate_written : vendoring.locate (startOf vendoring "/p" ".") = .ok ["p"] := by
  decide +kernel

theorem isChosen_written {name : String} (hwanted : IsWanted false name)
    (hfile : vendoring.find? (["p"] ++ [name]) = some (.file (Text.toBytes "package p\n"))) :
    IsChosen vendoring "/p" written (["p"] ++ [name]) :=
  ⟨"./...", List.mem_singleton_self _,
    .inside asks_written locate_written (by decide) .start hfile hwanted⟩

theorem exists_test_generated : ∃ test, Pattern.test "\\.(pb|gen)\\.go$" = .ok test ∧
    test "a.go" = false ∧ test "a.pb.go" = true := by
  have hgenerated : (Pattern.test "\\.(pb|gen)\\.go$").toOption.map
      (fun test => (test "a.go", test "a.pb.go")) = some (false, true) := by
    decide +kernel
  obtain ⟨test, htest⟩ : ∃ test, Pattern.test "\\.(pb|gen)\\.go$" = .ok test := ⟨_, rfl⟩
  exact ⟨test, htest, by simpa [htest, Except.toOption] using hgenerated⟩

theorem isValid_written : IsValid Pattern.test vendoring "/p" written := by
  refine ⟨fun pattern hpattern => ?_, fun text htext hnotBlank => ?_⟩
  · rw [List.mem_singleton.mp hpattern]
    exact ⟨".", true, ["p"], .directory, asks_written, locate_written, by decide⟩
  · rcases List.mem_pair.mp htext with rfl | rfl
    · obtain ⟨test, htest, -⟩ := exists_test_generated
      exact ⟨test, htest⟩
    · exact absurd (by decide) hnotBlank

theorem not_excludes_written : ¬Excludes Pattern.test written "a.go" := by
  rintro ⟨text, htext, hnotBlank, test, htest, hpasses⟩
  rcases List.mem_pair.mp htext with rfl | rfl
  · obtain ⟨test', htest', hkept, -⟩ := exists_test_generated
    cases htest.symm.trans htest'
    exact absurd (hkept.symm.trans hpasses) (by decide)
  · exact absurd (by decide) hnotBlank

theorem list_exact_vendoring :
    vendoring.IsTree ∧ IsValid Pattern.test vendoring "/p" written ∧
      IsChosen vendoring "/p" written ["p", "a.pb.go"] ∧
      ∃ files, list vendoring "/p" written false = .ok files ∧
        (files.map (·.shortPath)).Pairwise (· < ·) ∧
        (∃ file ∈ files, IsFileAt vendoring "/p" file ["p", "a.go"]) ∧
        (∀ file ∈ files, ¬IsFileAt vendoring "/p" file ["p", "a.pb.go"]) ∧
        ∃ files', list vendoring "/p"
            { written with paths := ["./...", "./..."], exclude := written.exclude.reverse } false =
              .ok files' ∧ files'.map summaryOf = files.map summaryOf := by
  have htree : vendoring.IsTree := by decide +kernel
  have hshort : shortOf vendoring "/p" ["p", "a.go"] = "a.go" ∧
      shortOf vendoring "/p" ["p", "a.pb.go"] = "a.pb.go" := by
    decide +kernel
  have hfirst : IsChosen vendoring "/p" written (["p"] ++ ["a.go"]) :=
    isChosen_written ⟨by decide, Or.inr (by decide)⟩ (by decide)
  obtain ⟨files, hlist, hsorted, hsound, hcomplete, -, hpermuted⟩ :=
    list_exact Pattern.test htree isValid_written
  refine ⟨htree, isValid_written, isChosen_written ⟨by decide, Or.inr (by decide)⟩ (by decide),
    files, hlist, hsorted, hcomplete _ hfirst ?_, fun file hfile hat => ?_,
    hpermuted _ (by simp [written]) (by simp) rfl⟩
  · exact hshort.1 ▸ not_excludes_written
  · obtain ⟨test, htest, -, hleft⟩ := exists_test_generated
    obtain ⟨_, -, hnot, -⟩ := hsound file hfile
    rw [hat.shortPath, hshort.2] at hnot
    exact hnot ⟨_, List.mem_cons_self, by decide, test, htest, hleft⟩

/-- A blank exclude pattern is an expression that would be found, but excludes
nothing; without patterns the files below the root are listed; and a pattern
with three dots at its end does not lead to a file of that name. -/
theorem list_conventions :
    let spaced : Disk := { nodes := [(["a b.go"], .file ByteArray.empty)] }
    let dotted : Disk := { nodes := [(["m..."], .file ByteArray.empty)] }
    (Pattern.ofText " ").toOption.map (·.isFoundIn "a b.go") = some true ∧
      (list spaced "/" { paths := ["./..."], exclude := [" "] } false).toOption.map
        (·.map (·.shortPath)) = some ["a b.go"] ∧
      (list spaced "/" {} false).toOption.map (·.map (·.shortPath)) = some ["a b.go"] ∧
      list dotted "/" { paths := ["m..."] } false =
        .error (.stat "m" ⟨"stat", "/m", .notExist⟩) := by
  decide +kernel

end SourceFiles

end ArchLint
