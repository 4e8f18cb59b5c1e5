import ArchLint.Scan
import Mathlib.Data.List.Infix

namespace ArchLint

namespace SlashPath

theorem toList_joinWith (parts : List String) :
    (Text.joinWith "/" parts).toList = List.intercalate ['/'] (parts.map String.toList) := by
  rw [Text.joinWith, String.toList_intercalate]
  rfl

theorem joinWith_concat {parts : List String} (hparts : parts ≠ []) (last : String) :
    Text.joinWith "/" (parts ++ [last]) = Text.joinWith "/" parts ++ "/" ++ last := by
  rw [Text.joinWith, String.intercalate_append_of_ne_nil hparts (List.cons_ne_nil _ _),
    String.intercalate_singleton]
  rfl

theorem joinWith_segments (path : String) : Text.joinWith "/" (segments path) = path := by
  apply String.toList_injective
  have htoList : (segments path).map String.toList = path.toList.splitOn '/' := by
    simp [segments, Text.splitAt, Function.comp_def]
  rw [toList_joinWith, htoList, List.intercalate_splitOn]

theorem notMem_of_mem_splitOn {α : Type} [BEq α] [LawfulBEq α] {mark : α} (xs : List α) :
    ∀ piece ∈ xs.splitOn mark, mark ∉ piece := by
  induction xs with
  | nil => simp
  | cons x xs ih =>
      rw [List.splitOn_cons_eq_if_modifyHead]
      split_ifs with hx
      · exact List.forall_mem_cons.mpr ⟨List.not_mem_nil, ih⟩
      · cases hpieces : xs.splitOn mark with
        | nil => simp
        | cons piece pieces =>
            rw [hpieces] at ih
            obtain ⟨hpiece, hpieces⟩ := List.forall_mem_cons.mp ih
            have hne : mark ≠ x := fun h => hx (by simp [h])
            refine List.forall_mem_cons.mpr ⟨?_, hpieces⟩
            simp [hne, hpiece]

/-- An element of a cleaned path. -/
def IsElement (s : String) : Prop :=
  s ≠ "" ∧ '/' ∉ s.toList

theorem isElement_cleanStep {rooted : Bool} {done : List String} {segment : String}
    (hdone : ∀ s ∈ done, IsElement s) (hsegment : '/' ∉ segment.toList) :
    ∀ s ∈ cleanStep rooted done segment, IsElement s := by
  have hup : IsElement ".." := ⟨by decide, by decide⟩
  rw [cleanStep.eq_def]
  split
  next => exact hdone
  next hskip =>
    split
    next =>
      cases done with
      | nil => cases rooted <;> simp [hup]
      | cons last rest =>
          simp only
          split_ifs
          · exact List.forall_mem_cons.mpr ⟨hup, hdone⟩
          · exact (List.forall_mem_cons.mp hdone).2
    next => exact List.forall_mem_cons.mpr ⟨⟨fun h => hskip (.inl h), hsegment⟩, hdone⟩

theorem isElement_clean (rooted : Bool) (path : String) :
    ∀ s ∈ ((segments path).foldl (cleanStep rooted) []).reverse, IsElement s := by
  have hfold : ∀ (names done : List String), (∀ s ∈ names, '/' ∉ s.toList) →
      (∀ s ∈ done, IsElement s) → ∀ s ∈ names.foldl (cleanStep rooted) done, IsElement s := by
    intro names
    induction names with
    | nil => exact fun _ _ hdone => hdone
    | cons name names ih =>
        intro done hnames hdone
        obtain ⟨hname, hnames⟩ := List.forall_mem_cons.mp hnames
        exact ih _ hnames (isElement_cleanStep hdone hname)
  have hsegments : ∀ s ∈ segments path, '/' ∉ s.toList := by
    intro s hs
    obtain ⟨piece, hpiece, rfl⟩ := List.mem_map.mp hs
    rw [String.toList_ofList]
    exact notMem_of_mem_splitOn _ piece hpiece
  intro s hs
  exact hfold _ [] hsegments (by simp) s (List.mem_reverse.mp hs)

theorem getLast?_joinWith {parts : List String} (hparts : ∀ s ∈ parts, IsElement s) :
    (Text.joinWith "/" parts).toList.getLast? ≠ some '/' := by
  rcases List.eq_nil_or_concat parts with rfl | ⟨front, last, rfl⟩
  · simp [Text.joinWith]
  · obtain ⟨hne, hslash⟩ := hparts last (by simp)
    have hlast : last.toList ≠ [] := fun h => hne (String.toList_eq_nil_iff.mp h)
    have hend : ∀ before : List Char, (before ++ last.toList).getLast? ≠ some '/' := by
      intro before h
      rw [List.getLast?_append_of_ne_nil _ hlast] at h
      exact hslash (List.mem_of_getLast? h)
    rw [List.concat_eq_append]
    by_cases hfront : front = []
    · subst hfront
      simpa [Text.joinWith] using hend []
    · rw [joinWith_concat hfront, String.toList_append]
      exact hend _

theorem clean_ne_empty (path : String) : clean path ≠ "" := by
  simp only [clean]
  split_ifs with hrooted hbody
  · simp
  · decide
  · simpa using hbody

theorem getLast?_clean {path : String} (h : clean path ≠ "/") :
    (clean path).toList.getLast? ≠ some '/' := by
  have hbody := getLast?_joinWith (isElement_clean (isAbsolute path) path)
  simp only [clean] at h ⊢
  split_ifs at h ⊢
  · have hne : (Text.joinWith "/"
        ((segments path).foldl (cleanStep (isAbsolute path)) []).reverse).toList ≠ [] := by
      intro hnil
      exact h (by rw [String.toList_eq_nil_iff.mp hnil]; rfl)
    rw [String.toList_append, List.getLast?_append_of_ne_nil _ hne]
    exact hbody
  · decide
  · exact hbody

theorem joinWith_eq_empty {parts : List String} (h : Text.joinWith "/" parts = "") :
    parts = [] ∨ parts = [""] := by
  rcases List.eq_nil_or_concat parts with rfl | ⟨front, last, rfl⟩
  · exact .inl rfl
  · rw [List.concat_eq_append] at h ⊢
    by_cases hfront : front = []
    · subst hfront
      rw [List.nil_append, Text.joinWith, String.intercalate_singleton] at h
      simp [h]
    · rw [joinWith_concat hfront] at h
      simp at h

theorem elements_of_ne {path : String} (hempty : path ≠ "") (hroot : path ≠ "/") :
    elements path = segments path := by
  simp [elements, hempty, hroot]

theorem elements_injective {a b : String} (h : elements a = elements b) : a = b := by
  have hpath : ∀ path, path =
      if elements path = [""] then "/" else Text.joinWith "/" (elements path) := by
    intro path
    by_cases hempty : path = ""
    · subst hempty
      decide
    by_cases hroot : path = "/"
    · subst hroot
      decide
    have hsegments := joinWith_segments path
    rw [elements_of_ne hempty hroot, if_neg, hsegments]
    intro hsingle
    rw [hsingle, Text.joinWith, String.intercalate_singleton] at hsegments
    exact hempty hsegments.symm
  rw [hpath a, hpath b, h]

theorem getLast?_of_elements {path : String} {front : List String}
    (h : elements path = front ++ [""]) : path.toList.getLast? = some '/' := by
  by_cases hempty : path = ""
  · subst hempty
    simp [elements] at h
  by_cases hroot : path = "/"
  · subst hroot
    decide
  have hsegments := joinWith_segments path
  rw [elements_of_ne hempty hroot] at h
  by_cases hfront : front = []
  · rw [h, hfront, List.nil_append, Text.joinWith, String.intercalate_singleton] at hsegments
    exact absurd hsegments.symm hempty
  · rw [h, joinWith_concat hfront] at hsegments
    rw [← hsegments]
    simp

theorem dropCommon_spec (bs ts : List String) :
    ∃ common, bs = common ++ (dropCommon bs ts).1 ∧ ts = common ++ (dropCommon bs ts).2.1 := by
  fun_induction dropCommon bs ts with
  | case1 bs t ts ih =>
      obtain ⟨common, hbs, hts⟩ := ih
      exact ⟨t :: common, by rw [List.cons_append, ← hbs], by rw [List.cons_append, ← hts]⟩
  | case2 b bs t ts h => exact ⟨[], rfl, rfl⟩
  | case3 bs ts h => exact ⟨[], rfl, rfl⟩

theorem joinWith_dropCommon_ne {b t : String} (hne : b ≠ t)
    (habsolute : isAbsolute b = isAbsolute t) (hroot : t.toList.getLast? = some '/' → t = "/") :
    Text.joinWith "/" ((dropCommon (elements b) (elements t)).1.map (fun _ => "..") ++
      (dropCommon (elements b) (elements t)).2.1) ≠ "" := by
  obtain ⟨common, hbs, hts⟩ := dropCommon_spec (elements b) (elements t)
  generalize dropCommon (elements b) (elements t) = rest at hbs hts ⊢
  obtain ⟨bs, ts, apart⟩ := rest
  intro hempty
  rcases joinWith_eq_empty hempty with hnil | hsingle
  · obtain ⟨rfl, rfl⟩ : bs = [] ∧ ts = [] := by simpa using hnil
    exact hne (elements_injective (hbs.trans hts.symm))
  · obtain ⟨rfl, rfl⟩ : bs = [] ∧ ts = [""] := by
      cases bs with
      | nil => exact ⟨rfl, hsingle⟩
      | cons x xs => simp at hsingle
    obtain rfl : t = "/" := hroot (getLast?_of_elements hts)
    obtain rfl : common = [] := by simpa [elements] using hts
    obtain rfl : b = "" := elements_injective hbs
    simp [isAbsolute] at habsolute

theorem relative?_ne_empty (base target : String) : relative? base target ≠ some "" := by
  have hbase := clean_ne_empty base
  have htarget := clean_ne_empty target
  have hslash : clean target ≠ "/" → (clean target).toList.getLast? ≠ some '/' := getLast?_clean
  simp only [relative?]
  generalize clean base = b at hbase ⊢
  generalize clean target = t at htarget hslash ⊢
  by_cases heq : b = t
  · simp [heq]
  rw [if_neg heq]
  have hne : (if b = "." then "" else b) ≠ if t = "." then "" else t := by
    split_ifs with h1 h2
    · exact absurd (h1.trans h2.symm) heq
    · exact htarget.symm
    · exact hbase
    · exact heq
  have hroot : (if t = "." then "" else t).toList.getLast? = some '/' →
      (if t = "." then "" else t) = "/" := by
    split_ifs
    · simp
    · exact fun h => by_contra fun hne => hslash hne h
  generalize (if b = "." then "" else b) = b' at hne ⊢
  generalize (if t = "." then "" else t) = t' at hne hroot ⊢
  split_ifs with habsolute hup
  · exact nofun
  · exact nofun
  · exact fun h =>
      joinWith_dropCommon_ne hne (not_not.mp habsolute) hroot (Option.some.inj h)

end SlashPath

namespace SourceFiles

theorem exists_of_mem_mapM {α β ε : Type} {f : α → Except ε β} {xs : List α} {ys : List β}
    (h : xs.mapM f = .ok ys) {y : β} (hy : y ∈ ys) : ∃ x ∈ xs, f x = .ok y := by
  induction xs generalizing ys with
  | nil =>
      cases h
      cases hy
  | cons x xs ih =>
      simp only [List.mapM_cons, bind, Except.bind] at h
      split at h
      next => cases h
      next z hz =>
        split at h
        next => cases h
        next zs hzs =>
          cases h
          rcases List.mem_cons.mp hy with rfl | hmem
          · exact ⟨x, List.mem_cons_self .., hz⟩
          · obtain ⟨x', hx', hfx'⟩ := ih hzs hmem
            exact ⟨x', List.mem_cons_of_mem _ hx', hfx'⟩

theorem eq_ok_of_mapError {α ε ε' : Type} {f : ε → ε'} {r : Except ε α} {a : α}
    (h : r.mapError f = .ok a) : r = .ok a := by
  cases r with
  | error e => cases h
  | ok b =>
      cases h
      rfl

theorem ne_empty_of_nodeAt {disk : Disk} {path : String} {found : Place × DiskNode}
    (h : disk.nodeAt path = .ok found) : path ≠ "" := by
  rintro rfl
  simp [Disk.nodeAt, Disk.locate, bind, Except.bind] at h

theorem join_ne_empty {first : String} (hfirst : first ≠ "") (rest : List String) :
    SlashPath.join (first :: rest) ≠ "" := by
  simp only [SlashPath.join]
  split
  next hnone => simp [hfirst] at hnone
  next => exact SlashPath.clean_ne_empty _

theorem path_ne_empty {disk : Disk} {root pattern : String} {includeTests : Bool}
    {paths : List String} (h : pathsOf disk root includeTests pattern = .ok paths) :
    ∀ path ∈ paths, path ≠ "" := by
  simp only [pathsOf, bind, Except.bind] at h
  split at h
  next => cases h
  next found hfound =>
    have hstart := ne_empty_of_nodeAt (eq_ok_of_mapError (eq_ok_of_mapError hfound))
    split at h
    next =>
      cases h
      intro path hpath
      rw [List.mem_singleton.mp hpath]
      exact hstart
    next =>
      cases h
      intro path hpath
      obtain ⟨⟨place, node⟩, -, hsome⟩ := List.mem_filterMap.mp hpath
      cases node with
      | directory => cases hsome
      | file content =>
          simp only [Option.ite_none_right_eq_some, Option.some.injEq] at hsome
          rw [← hsome.2]
          exact join_ne_empty hstart _

theorem firstPaths_subset (paths : List (String × String)) : firstPaths paths ⊆ paths := by
  have hfold : ∀ (rest seen : List (String × String)), seen ⊆ paths → rest ⊆ paths →
      rest.foldl (fun (seen : List (String × String)) p =>
        if seen.any (·.2 == p.2) then seen else p :: seen) seen ⊆ paths := by
    intro rest
    induction rest with
    | nil => exact fun _ hseen _ => hseen
    | cons p rest ih =>
        intro seen hseen hrest
        obtain ⟨hp, hrest⟩ := List.cons_subset.mp hrest
        refine ih _ ?_ hrest
        beta_reduce
        split_ifs
        · exact hseen
        · exact List.cons_subset.mpr ⟨hp, hseen⟩
  intro p hp
  exact hfold paths [] (List.nil_subset _) (List.Subset.refl _) (List.mem_reverse.mp hp)

theorem exists_path_of_mem_list {disk : Disk} {root : String} {selection : Selection}
    {cancelled : Bool} {files : List SourceFile}
    (h : list disk root selection cancelled = .ok files) :
    ∀ file ∈ files, ∃ root path, path ≠ "" ∧ file = fileAt disk root path := by
  simp only [list, listWith, bind, Except.bind] at h
  split at h
  next => cases h
  next excludes hexcludes =>
    split at h
    next => cases h
    next =>
      split at h
      next => cases h
      next paths hpaths =>
        cases h
        intro file hfile
        obtain ⟨p, hp, rfl⟩ := List.mem_map.mp (List.mem_mergeSort.mp hfile)
        obtain ⟨path, hpath, rfl⟩ :=
          List.mem_map.mp (firstPaths_subset _ (List.mem_filter.mp hp).1)
        obtain ⟨group, hgroup, hpath⟩ := List.mem_flatten.mp hpath
        obtain ⟨pattern, -, hpattern⟩ := exists_of_mem_mapM hpaths hgroup
        exact ⟨_, path, path_ne_empty hpattern path hpath, rfl⟩

end SourceFiles

namespace Scan

/-- What a scan reads from a listed file. -/
def contentOf (disk : Disk) (file : SourceFile) : ByteArray :=
  (disk.read file.fullPath).toOption.getD ByteArray.empty

section

variable {disk : Disk} {start root modulePath : String} {selection : Selection} {cancelled : Bool}
  {files : List SourceFile}

theorem list_of_select
    (h : select disk start selection cancelled = .ok (root, modulePath, files)) :
    SourceFiles.list disk root selection cancelled = .ok files := by
  unfold select at h
  simp only [bind, Except.bind] at h
  split at h
  next => cases h
  next =>
    split at h
    next => cases h
    next =>
      split at h
      next => cases h
      next hlist =>
        split at h
        next => cases h
        next =>
          cases h
          exact SourceFiles.eq_ok_of_mapError hlist

theorem listed_of_select
    (h : select disk start selection cancelled = .ok (root, modulePath, files)) :
    ∀ file ∈ files, file.hash = Text.digest (contentOf disk file) ∧ file.shortPath ≠ "" := by
  intro file hfile
  obtain ⟨base, path, hpath, rfl⟩ :=
    SourceFiles.exists_path_of_mem_list (list_of_select h) file hfile
  simp only [SourceFiles.fileAt, contentOf, true_and]
  cases hrelative : SlashPath.relative? base path with
  | none => exact hpath
  | some short =>
      rintro rfl
      exact SlashPath.relative?_ne_empty base path hrelative

end

end Scan

end ArchLint
