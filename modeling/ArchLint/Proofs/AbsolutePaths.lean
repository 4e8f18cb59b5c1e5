import ArchLint.Proofs.Trees

namespace ArchLint

namespace SlashPath

/-- An element that leads one step down. -/
structure IsPlain (s : String) : Prop where
  isElement : IsElement s
  ne_dot : s ≠ "."
  ne_up : s ≠ ".."

theorem IsName.isPlain {s : String} (h : IsName s) : IsPlain s :=
  ⟨h.isElement, h.ne_dot, h.ne_up⟩

/-- The absolute path of plain elements. -/
def pathOf (names : List String) : String :=
  "/" ++ Text.joinWith "/" names

variable {path start : String} {names root target done : List String}

section Cleaning

theorem cleanStep_plain {rooted : Bool} {s : String} (hs : IsPlain s) (done : List String) :
    cleanStep rooted done s = s :: done := by
  rw [cleanStep.eq_def, if_neg (by simp [hs.isElement.1, hs.ne_dot]), if_neg hs.ne_up]

theorem foldl_cleanStep_plain {rooted : Bool} (hnames : ∀ s ∈ names, IsPlain s)
    (done : List String) : names.foldl (cleanStep rooted) done = names.reverse ++ done := by
  induction names generalizing done with
  | nil => rfl
  | cons name names ih =>
      obtain ⟨hname, hnames⟩ := List.forall_mem_cons.mp hnames
      rw [List.foldl_cons, cleanStep_plain hname, ih hnames, List.reverse_cons,
        List.append_assoc, List.singleton_append]

theorem foldl_cleanStep_ups {rooted : Bool} (hdone : ∀ s ∈ done, s ≠ "..") (rest : List String) :
    (done.map fun _ => "..").foldl (cleanStep rooted) (done ++ rest) = rest := by
  induction done with
  | nil => rfl
  | cons last done ih =>
      obtain ⟨hlast, hdone⟩ := List.forall_mem_cons.mp hdone
      have hstep : cleanStep rooted (last :: done ++ rest) ".." = done ++ rest := by
        rw [cleanStep.eq_def, if_neg (by decide), if_pos rfl]
        simp [hlast]
      rw [List.map_cons, List.foldl_cons, hstep, ih hdone]

theorem isPlain_cleaned (hpath : isAbsolute path = true) : ∀ s ∈ cleaned path, IsPlain s := by
  have hfold : ∀ names done : List String, (∀ s ∈ done, s ≠ "." ∧ s ≠ "..") →
      ∀ s ∈ names.foldl (cleanStep true) done, s ≠ "." ∧ s ≠ ".." := by
    intro names
    induction names with
    | nil => exact fun done hdone => hdone
    | cons name names ih =>
        intro done hdone
        refine ih _ ?_
        rw [cleanStep.eq_def]
        by_cases hstay : name = "" ∨ name = "."
        · rw [if_pos hstay]
          exact hdone
        by_cases hup : name = ".."
        · rw [if_neg hstay, if_pos hup]
          cases done with
          | nil => simp
          | cons last rest =>
              obtain ⟨hlast, hrest⟩ := List.forall_mem_cons.mp hdone
              simpa [hlast.2] using hrest
        · rw [if_neg hstay, if_neg hup]
          exact List.forall_mem_cons.mpr ⟨⟨fun h => hstay (Or.inr h), hup⟩, hdone⟩
  intro s hs
  have helement := isElement_cleaned path s hs
  rw [cleaned, hpath] at hs
  obtain ⟨hdot, hup⟩ := hfold _ [] (by simp) s hs
  exact ⟨helement, hdot, hup⟩

theorem clean_eq_pathOf (hpath : isAbsolute path = true) :
    clean path = pathOf (cleaned path).reverse := by
  by_cases hnil : cleaned path = []
  · rw [clean_of_cleaned_eq_nil hnil, hpath, hnil]
    decide
  · rw [clean_of_cleaned_ne_nil hnil, hpath, if_pos rfl, pathOf]

end Cleaning

section PathOf

theorem isAbsolute_pathOf (names : List String) : isAbsolute (pathOf names) = true := by
  simp [isAbsolute, pathOf]

theorem segments_pathOf (hnames : ∀ s ∈ names, IsPlain s) (hne : names ≠ []) :
    segments (pathOf names) = "" :: names := by
  have hslash : ∀ s ∈ names, '/' ∉ s.toList := fun s hs => (hnames s hs).isElement.2
  have hblank : segments "" = [""] := by decide
  have hroot : pathOf names = "" ++ "/" ++ Text.joinWith "/" names := rfl
  rw [hroot, segments_append, segments_joinWith hslash hne, hblank, List.singleton_append]

theorem cleaned_pathOf (hnames : ∀ s ∈ names, IsPlain s) :
    cleaned (pathOf names) = names.reverse := by
  rw [cleaned, isAbsolute_pathOf]
  by_cases hne : names = []
  · rw [hne]
    decide
  · rw [segments_pathOf hnames hne, List.foldl_cons, cleanStep.eq_def, if_pos (Or.inl rfl),
      foldl_cleanStep_plain hnames, List.append_nil]

theorem clean_pathOf (hnames : ∀ s ∈ names, IsPlain s) : clean (pathOf names) = pathOf names := by
  rw [clean_eq_pathOf (isAbsolute_pathOf names), cleaned_pathOf hnames, List.reverse_reverse]

theorem pathOf_injective (hroot : ∀ s ∈ root, IsPlain s) (htarget : ∀ s ∈ target, IsPlain s)
    (h : pathOf root = pathOf target) : root = target := by
  have hcleaned := congrArg cleaned h
  rw [cleaned_pathOf hroot, cleaned_pathOf htarget] at hcleaned
  exact List.reverse_injective hcleaned

theorem elements_pathOf (hnames : ∀ s ∈ names, IsPlain s) :
    elements (pathOf names) = "" :: names := by
  by_cases hne : names = []
  · rw [hne]
    decide
  · have hsegments := segments_pathOf hnames hne
    rw [elements_of_ne (by simp [pathOf]), hsegments]
    intro hslash
    rw [hslash] at hsegments
    have hroot : segments "/" = ["", ""] := by decide
    rw [hroot] at hsegments
    cases hsegments
    exact (hnames "" List.mem_cons_self).isElement.1 rfl

end PathOf

section Joining

theorem joinWith_ne_empty (hstart : start ≠ "") (names : List String) :
    Text.joinWith "/" (start :: names) ≠ "" := by
  intro h
  rcases joinWith_eq_empty h with hnil | hsingle
  · cases hnil
  · exact hstart (List.cons.inj hsingle).1

theorem isAbsolute_joinWith_cons (hstart : start ≠ "") (names : List String) :
    isAbsolute (Text.joinWith "/" (start :: names)) = isAbsolute start := by
  induction names using List.reverseRecOn with
  | nil => simp [Text.joinWith]
  | append_singleton names name ih =>
      rw [← List.cons_append, joinWith_concat (List.cons_ne_nil _ _), String.append_assoc,
        isAbsolute_append (joinWith_ne_empty hstart names), ih]

theorem cleaned_joinWith_cons (hstart : start ≠ "") (hnames : ∀ s ∈ names, IsPlain s) :
    cleaned (Text.joinWith "/" (start :: names)) = names.reverse ++ cleaned start := by
  have hsegments : segments (Text.joinWith "/" (start :: names)) = segments start ++ names := by
    induction names using List.reverseRecOn with
    | nil => simp [Text.joinWith]
    | append_singleton names name ih =>
        obtain ⟨hnames, hname⟩ := List.forall_mem_append.mp hnames
        have hslash := (hname name (List.mem_singleton_self name)).isElement.2
        rw [← List.cons_append, joinWith_concat (List.cons_ne_nil _ _), segments_append,
          ih hnames, segments_name hslash, List.append_assoc]
  rw [cleaned, cleaned, hsegments, isAbsolute_joinWith_cons hstart, List.foldl_append,
    foldl_cleanStep_plain hnames]

theorem join_plain (hstart : isAbsolute start = true) (hnames : ∀ s ∈ names, IsPlain s) :
    join (start :: names) = pathOf ((cleaned start).reverse ++ names) := by
  have hne : start ≠ "" := by
    rintro rfl
    simp [isAbsolute] at hstart
  have hparts : (start :: names).filter (fun p => !p.isEmpty) = start :: names := by
    rw [List.filter_eq_self]
    refine List.forall_mem_cons.mpr ⟨by simpa using hne, fun s hs => ?_⟩
    simpa using (hnames s hs).isElement.1
  have habsolute : isAbsolute (Text.joinWith "/" (start :: names)) = true := by
    rw [isAbsolute_joinWith_cons hne, hstart]
  simp only [join, hparts]
  rw [clean_eq_pathOf habsolute, cleaned_joinWith_cons hne hnames, List.reverse_append,
    List.reverse_reverse]

theorem exists_join_eq_pathOf (hstart : isAbsolute start = true) (path : String) :
    ∃ names, (∀ s ∈ names, IsPlain s) ∧ join [start, path] = pathOf names := by
  have hne : start ≠ "" := by
    rintro rfl
    simp [isAbsolute] at hstart
  have hclean : ∀ whole, isAbsolute whole = true →
      ∃ names, (∀ s ∈ names, IsPlain s) ∧ clean whole = pathOf names := fun whole hwhole =>
    ⟨_, fun s hs => isPlain_cleaned hwhole s (List.mem_reverse.mp hs), clean_eq_pathOf hwhole⟩
  by_cases hpath : path = ""
  · have hparts : [start, path].filter (fun p => !p.isEmpty) = [start] := by simp [hne, hpath]
    simp only [join, hparts]
    exact hclean _ (by rw [isAbsolute_joinWith_cons hne, hstart])
  · rw [join_two hne hpath]
    exact hclean _ (by rw [String.append_assoc, isAbsolute_append hne, hstart])

end Joining

section Relative

theorem relative?_congr {base base' target target' : String} (hbase : clean base = clean base')
    (htarget : clean target = clean target') : relative? base target = relative? base' target' := by
  simp only [relative?, hbase, htarget]

theorem cleaned_append (hstart : start ≠ "") (path : String) :
    cleaned (start ++ "/" ++ path) =
      (segments path).foldl (cleanStep (isAbsolute start)) (cleaned start) := by
  rw [cleaned, cleaned, segments_append, String.append_assoc, isAbsolute_append hstart,
    List.foldl_append]

theorem join_pathOf {short : String} (hroot : ∀ s ∈ root, IsPlain s) (hshort : short ≠ "")
    (hsteps : (segments short).foldl (cleanStep true) root.reverse = target.reverse) :
    join [pathOf root, short] = pathOf target := by
  have hne : pathOf root ≠ "" := by simp [pathOf]
  have habsolute : isAbsolute (pathOf root ++ "/" ++ short) = true := by
    rw [String.append_assoc, isAbsolute_append hne, isAbsolute_pathOf]
  rw [join_two hne hshort, clean_eq_pathOf habsolute, cleaned_append hne, isAbsolute_pathOf,
    cleaned_pathOf hroot, hsteps, List.reverse_reverse]

theorem relative?_pathOf (hroot : ∀ s ∈ root, IsPlain s) (htarget : ∀ s ∈ target, IsPlain s)
    (hne : pathOf root ≠ pathOf target) :
    relative? (pathOf root) (pathOf target) =
      some (Text.joinWith "/" ((dropCommon root target).1.map (fun _ => "..") ++
        (dropCommon root target).2.1)) := by
  have hdot : ∀ names, pathOf names ≠ "." := by
    intro names h
    have habsolute := isAbsolute_pathOf names
    rw [h] at habsolute
    exact absurd habsolute (by decide)
  have hdrop : dropCommon ("" :: root) ("" :: target) = dropCommon root target := by
    rw [dropCommon, if_pos rfl]
  obtain ⟨common, hbs, -⟩ := dropCommon_spec root target
  have hup : ((dropCommon root target).2.2 &&
      (dropCommon root target).1.head? == some "..") = false := by
    cases hhead : (dropCommon root target).1.head? with
    | none => simp
    | some s =>
        have hs : s ∈ root := by
          rw [hbs]
          exact List.mem_append_right _ (List.mem_of_mem_head? hhead)
        simp [(hroot s hs).ne_up]
  simp only [relative?, clean_pathOf hroot, clean_pathOf htarget, hne, hdot, if_false,
    isAbsolute_pathOf, ne_eq, not_true_eq_false, elements_pathOf hroot, elements_pathOf htarget,
    hdrop, hup, Bool.false_eq_true]

theorem foldl_cleanStep_across {common bs ts : List String} (hbs : ∀ s ∈ bs, IsPlain s)
    (hts : ∀ s ∈ ts, IsPlain s) (hparts : bs.map (fun _ => "..") ++ ts ≠ []) :
    (segments (Text.joinWith "/" (bs.map (fun _ => "..") ++ ts))).foldl (cleanStep true)
      (common ++ bs).reverse = (common ++ ts).reverse := by
  have hslash : ∀ s ∈ bs.map (fun _ => "..") ++ ts, '/' ∉ s.toList := by
    rw [List.forall_mem_append]
    exact ⟨by simp, fun s hs => (hts s hs).isElement.2⟩
  have hups : bs.map (fun _ => "..") = bs.reverse.map fun _ => ".." := by simp
  have hplain : ∀ s ∈ bs.reverse, s ≠ ".." := fun s hs => (hbs s (List.mem_reverse.mp hs)).ne_up
  rw [segments_joinWith hslash hparts, List.foldl_append, hups, List.reverse_append,
    foldl_cleanStep_ups hplain, foldl_cleanStep_plain hts, List.reverse_append]

/-- From one place to another there is a path, and joined to the first place it
leads to the other. -/
theorem join_relative? (hroot : ∀ s ∈ root, IsPlain s) (htarget : ∀ s ∈ target, IsPlain s) :
    ∃ short, relative? (pathOf root) (pathOf target) = some short ∧
      join [pathOf root, short] = pathOf target := by
  by_cases hsame : pathOf root = pathOf target
  · refine ⟨".", by simp [relative?, hsame], ?_⟩
    obtain rfl := pathOf_injective hroot htarget hsame
    have hdot : segments "." = ["."] := by decide
    refine join_pathOf hroot (by decide) ?_
    rw [hdot, List.foldl_cons, List.foldl_nil, cleanStep.eq_def, if_pos (Or.inr rfl)]
  · have hrelative := relative?_pathOf hroot htarget hsame
    have hshort := relative?_ne_empty (pathOf root) (pathOf target)
    rw [hrelative] at hshort
    refine ⟨_, hrelative, join_pathOf hroot (fun h => hshort (congrArg some h)) ?_⟩
    obtain ⟨common, hbs, hts⟩ := dropCommon_spec root target
    generalize dropCommon root target = rest at hbs hts hshort
    have hparts : rest.1.map (fun _ => "..") ++ rest.2.1 ≠ [] := by
      intro hnil
      rw [hnil] at hshort
      exact hshort rfl
    rw [hbs] at hroot ⊢
    rw [hts] at htarget ⊢
    exact foldl_cleanStep_across (List.forall_mem_append.mp hroot).2
      (List.forall_mem_append.mp htarget).2 hparts

end Relative

end SlashPath

namespace Disk

open SlashPath (IsName IsPlain pathOf cleaned)

variable {d : Disk} {place p : Place} {path : String} {names : List String}

theorem follow_plain (hnames : ∀ s ∈ names, IsPlain s) (h : d.follow place names = .ok p) :
    p = place ++ names := by
  induction names generalizing place with
  | nil =>
      cases h
      rw [List.append_nil]
  | cons name names ih =>
      obtain ⟨hname, hnames⟩ := List.forall_mem_cons.mp hnames
      rw [follow, find?_of_follow_cons h] at h
      dsimp only at h
      rw [if_neg (by simp [hname.isElement.1, hname.ne_dot]), if_neg hname.ne_up] at h
      rw [ih hnames h, List.append_assoc, List.singleton_append]

theorem follow_of_directories (hnames : ∀ s ∈ names, IsPlain s)
    (habove : ∀ q, q <+: place ++ names → q ≠ place ++ names → d.find? q = some .directory) :
    d.follow place names = .ok (place ++ names) := by
  induction names generalizing place with
  | nil => rw [List.append_nil, follow]
  | cons name names ih =>
      obtain ⟨hname, hnames⟩ := List.forall_mem_cons.mp hnames
      have hplace := habove place (List.prefix_append _ _) (by simp)
      rw [← List.singleton_append, ← List.append_assoc] at habove ⊢
      rw [List.singleton_append, follow, hplace]
      dsimp only
      rw [if_neg (by simp [hname.isElement.1, hname.ne_dot]), if_neg hname.ne_up]
      exact ih hnames habove

theorem clean_of_locate (hpath : SlashPath.isAbsolute path = true)
    (h : d.locate path = .ok place) :
    place = (cleaned path).reverse ∧ SlashPath.clean path = pathOf place := by
  obtain ⟨-, -, hfollow⟩ := locate_eq_ok h
  rw [namesOf, if_pos hpath] at hfollow
  have hcleaned : d.follow [] (cleaned path).reverse = .ok place := by
    rw [cleaned, hpath]
    exact follow_cleaned (fun _ => rfl) (by simp) rfl hfollow
  have hplace : place = (cleaned path).reverse := follow_plain
    (fun s hs => SlashPath.isPlain_cleaned hpath s (List.mem_reverse.mp hs)) hcleaned
  exact ⟨hplace, hplace ▸ SlashPath.clean_eq_pathOf hpath⟩

theorem IsTree.isName (htree : d.IsTree) {node : DiskNode} (h : d.find? place = some node) :
    ∀ s ∈ place, IsName s := by
  by_cases hplace : place = []
  · simp [hplace]
  · exact (htree.named _ (mem_nodes_of_find? hplace h)).2

theorem IsTree.isPlain (htree : d.IsTree) {node : DiskNode} (h : d.find? place = some node) :
    ∀ s ∈ place, IsPlain s :=
  fun s hs => (htree.isName h s hs).isPlain

/-- The path of a place leads there. -/
theorem IsTree.locate_pathOf (htree : d.IsTree) {node : DiskNode}
    (h : d.find? place = some node) : d.locate (pathOf place) = .ok place := by
  have hnul : '\x00' ∉ (pathOf place).toList := by
    rw [pathOf, String.toList_append, List.mem_append, SlashPath.mem_joinWith (by decide)]
    rintro (hmem | ⟨s, hs, hmem⟩)
    · exact absurd hmem (by decide)
    · exact (htree.isName h s hs).printable hmem
  refine locate_of_follow (by simp [pathOf]) hnul ?_
  have hdown : d.follow [] place = .ok place := follow_of_directories (htree.isPlain h)
    fun q hq hne => htree.find?_above h hq hne
  have hroot : d.find? [] = some .directory := rfl
  rw [namesOf, if_pos (SlashPath.isAbsolute_pathOf place)]
  by_cases hplace : place = []
  · subst hplace
    have hslash : SlashPath.segments (pathOf []) = ["", ""] := by decide
    rw [hslash]
    exact follow_blanks hroot 2
  · rw [SlashPath.segments_pathOf (htree.isPlain h) hplace, follow, hroot]
    exact hdown

theorem IsTree.exists_absolute_eq (htree : d.IsTree) (path : String) :
    ∃ names, (∀ s ∈ names, IsPlain s) ∧ d.absolute path = pathOf names := by
  rw [absolute]
  split_ifs with hpath
  · exact ⟨_, fun s hs => SlashPath.isPlain_cleaned hpath s (List.mem_reverse.mp hs),
      SlashPath.clean_eq_pathOf hpath⟩
  · exact SlashPath.exists_join_eq_pathOf htree.rooted path

end Disk

end ArchLint
