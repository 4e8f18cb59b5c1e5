import ArchLint.Proofs.Listing
import ArchLint.Proofs.SavedCache
import ArchLint.Proofs.Trimming

namespace ArchLint

namespace SlashPath

theorem segments_append (a b : String) : segments (a ++ "/" ++ b) = segments a ++ segments b := by
  simp [segments, Text.splitAt, List.append_assoc, List.splitOn_append_cons_self]

theorem segments_joinWith {parts : List String} (hparts : ∀ s ∈ parts, '/' ∉ s.toList)
    (hne : parts ≠ []) : segments (Text.joinWith "/" parts) = parts := by
  have hsplit : (List.intercalate ['/'] (parts.map String.toList)).splitOn '/' =
      parts.map String.toList := by
    apply List.splitOn_intercalate
    · intro piece hpiece
      obtain ⟨s, hs, rfl⟩ := List.mem_map.mp hpiece
      exact hparts s hs
    · simpa using hne
  rw [segments, Text.splitAt, toList_joinWith, hsplit, List.map_map]
  simp [Function.comp_def]

theorem segments_slashes (path : String) (n : Nat) :
    segments (path ++ String.ofList (List.replicate n '/')) =
      segments path ++ List.replicate n "" := by
  induction n with
  | zero => simp
  | succ n ih =>
      have hlast : path ++ String.ofList (List.replicate (n + 1) '/') =
          path ++ String.ofList (List.replicate n '/') ++ "/" ++ "" := by
        apply String.toList_injective
        simp [List.replicate_succ']
      have hblank : segments "" = [""] := by decide
      rw [hlast, segments_append, ih, hblank, List.replicate_succ', List.append_assoc]

theorem exists_slashes (path : String) :
    ∃ n, path = String.ofList (Text.trimRightWhile (· == '/') path.toList) ++
      String.ofList (List.replicate n '/') := by
  refine ⟨(path.toList.rtakeWhile (· == '/')).length, String.toList_injective ?_⟩
  have hslashes : path.toList.rtakeWhile (· == '/') =
      List.replicate (path.toList.rtakeWhile (· == '/')).length '/' := by
    rw [List.eq_replicate_iff]
    exact ⟨rfl, fun c hc => by simpa using List.mem_rtakeWhile_imp hc⟩
  simp only [String.toList_append, String.toList_ofList, Text.trimRightWhile_eq_rdropWhile]
  rw [← hslashes, List.rdropWhile_append_rtakeWhile]

theorem exists_front (path : String) :
    ∃ front last, lastSegment path = last ∧ '/' ∉ last.toList ∧
      (path = last ∧ dir path = "." ∨
        path = front ++ "/" ++ last ∧ dir path = clean (front ++ "/")) := by
  obtain ⟨front, last, hparts, hcut⟩ := Text.exists_isCutAfter (· == '/') path.toList
  have hlast : lastSegment path = String.ofList last := by
    rw [lastSegment, hparts]
    exact congrArg String.ofList hcut.reverse_eq.2
  have hdir : dir path = clean (String.ofList front) := by
    rw [dir, hparts]
    exact congrArg (fun cs => clean (String.ofList cs)) hcut.reverse_eq.1
  have hslash : '/' ∉ (String.ofList last).toList := by
    rw [String.toList_ofList]
    exact fun hmem => absurd (hcut.rest _ hmem) (by decide)
  rcases List.eq_nil_or_concat' front with rfl | ⟨before, c, rfl⟩
  · refine ⟨"", String.ofList last, hlast, hslash, .inl ⟨?_, ?_⟩⟩
    · apply String.toList_injective
      rw [hparts, String.toList_ofList, List.nil_append]
    · rw [hdir]
      decide
  · obtain rfl : c = '/' := by simpa using hcut.mark c (by simp)
    refine ⟨String.ofList before, String.ofList last, hlast, hslash, .inr ⟨?_, ?_⟩⟩
    · apply String.toList_injective
      simpa using hparts
    · rw [hdir, String.ofList_append]

/-- A name that leads one step down. -/
structure IsName (name : String) : Prop where
  isElement : IsElement name
  ne_dot : name ≠ "."
  ne_up : name ≠ ".."
  printable : '\x00' ∉ name.toList

/-- The elements of a path after cleaning, the latest first. -/
def cleaned (path : String) : List String :=
  (segments path).foldl (cleanStep (isAbsolute path)) []

theorem isAbsolute_append {a : String} (ha : a ≠ "") (b : String) :
    isAbsolute (a ++ b) = isAbsolute a := by
  obtain ⟨c, cs, hcs⟩ := List.exists_cons_of_ne_nil (mt String.toList_eq_nil_iff.mp ha)
  simp [isAbsolute, hcs]

theorem segments_name {name : String} (hname : '/' ∉ name.toList) : segments name = [name] := by
  simp [segments, Text.splitAt, List.splitOn_eq_singleton hname]

theorem join_two {path name : String} (hpath : path ≠ "") (hname : name ≠ "") :
    join [path, name] = clean (path ++ "/" ++ name) := by
  have hparts : [path, name].filter (fun p => !p.isEmpty) = [path, name] := by
    simp [hpath, hname]
  simp only [join, hparts]
  exact congrArg clean (joinWith_concat (List.cons_ne_nil path []) name)

theorem isElement_cleaned (path : String) : ∀ s ∈ cleaned path, IsElement s := by
  intro s hs
  exact isElement_clean (isAbsolute path) path s (List.mem_reverse.mpr hs)

theorem clean_of_cleaned_eq_nil {path : String} (h : cleaned path = []) :
    clean path = if isAbsolute path then "/" else "." := by
  rw [cleaned] at h
  simp only [clean, h]
  cases isAbsolute path <;> rfl

theorem clean_of_cleaned_ne_nil {path : String} (h : cleaned path ≠ []) :
    clean path = (if isAbsolute path then "/" else "") ++
      Text.joinWith "/" (cleaned path).reverse := by
  have hbody : Text.joinWith "/" (cleaned path).reverse ≠ "" := by
    intro hempty
    rcases joinWith_eq_empty hempty with hnil | hsingle
    · exact h (by simpa using hnil)
    · have hmem : "" ∈ cleaned path := by
        rw [List.reverse_eq_iff.mp hsingle]
        exact List.mem_singleton_self _
      exact (isElement_cleaned path "" hmem).1 rfl
  rw [cleaned] at hbody ⊢
  rw [clean]
  cases hrooted : isAbsolute path with
  | true => rfl
  | false =>
      rw [hrooted] at hbody
      simp [hbody]

theorem isAbsolute_joinWith {first : String} (hfirst : IsElement first) (rest : List String) :
    isAbsolute (Text.joinWith "/" (first :: rest)) = false := by
  obtain ⟨hempty, hslash⟩ := hfirst
  obtain ⟨c, cs, hcs⟩ := List.exists_cons_of_ne_nil (mt String.toList_eq_nil_iff.mp hempty)
  have hc : c ≠ '/' := by
    rintro rfl
    simp [hcs] at hslash
  rw [isAbsolute, toList_joinWith]
  cases rest with
  | nil => simp [hcs, hc]
  | cons next rest => simp [List.intercalate_cons_cons, hcs, hc]

theorem isAbsolute_clean (path : String) : isAbsolute (clean path) = isAbsolute path := by
  by_cases h : cleaned path = []
  · rw [clean_of_cleaned_eq_nil h]
    cases isAbsolute path <;> decide
  rw [clean_of_cleaned_ne_nil h]
  cases isAbsolute path with
  | true => simp [isAbsolute]
  | false =>
      obtain ⟨first, rest, hparts⟩ :=
        List.exists_cons_of_ne_nil (mt List.reverse_eq_nil_iff.mp h)
      have hfirst : first ∈ cleaned path :=
        List.mem_reverse.mp (hparts ▸ List.mem_cons_self)
      rw [hparts]
      simpa using isAbsolute_joinWith (isElement_cleaned path first hfirst) rest

theorem segments_clean {path : String} (h : cleaned path ≠ []) :
    segments (clean path) = (if isAbsolute path then [""] else []) ++ (cleaned path).reverse := by
  have hslash : ∀ s ∈ (cleaned path).reverse, '/' ∉ s.toList :=
    fun s hs => (isElement_cleaned path s (List.mem_reverse.mp hs)).2
  have hbody := segments_joinWith hslash (mt List.reverse_eq_nil_iff.mp h)
  rw [clean_of_cleaned_ne_nil h]
  cases isAbsolute path with
  | true =>
      have hroot := segments_append "" (Text.joinWith "/" (cleaned path).reverse)
      rw [hbody] at hroot
      exact hroot
  | false => simpa using hbody

theorem mem_joinWith {parts : List String} {c : Char} (hc : c ≠ '/') :
    c ∈ (Text.joinWith "/" parts).toList ↔ ∃ s ∈ parts, c ∈ s.toList := by
  rw [toList_joinWith]
  induction parts with
  | nil => simp
  | cons first rest ih =>
      cases rest with
      | nil => simp
      | cons next rest =>
          rw [List.map_cons] at ih
          rw [List.map_cons, List.map_cons, List.intercalate_cons_cons, List.mem_append,
            List.mem_append, ih, List.mem_singleton, or_iff_left hc]
          simp

theorem mem_foldl_cleanStep {rooted : Bool} {names done : List String} {s : String}
    (hs : s ∈ names.foldl (cleanStep rooted) done) : s = ".." ∨ s ∈ names ∨ s ∈ done := by
  induction names generalizing done with
  | nil => exact Or.inr (Or.inr hs)
  | cons name names ih =>
      have hstep : ∀ t ∈ cleanStep rooted done name, t = ".." ∨ t = name ∨ t ∈ done := by
        intro t ht
        rw [cleanStep.eq_def] at ht
        grind
      rcases ih hs with h | h | h
      · exact Or.inl h
      · exact Or.inr (Or.inl (List.mem_cons_of_mem name h))
      · rcases hstep s h with h | rfl | h
        · exact Or.inl h
        · exact Or.inr (Or.inl List.mem_cons_self)
        · exact Or.inr (Or.inr h)

theorem mem_of_mem_clean {path : String} {c : Char} (hslash : c ≠ '/') (hdot : c ≠ '.')
    (hc : c ∈ (clean path).toList) : c ∈ path.toList := by
  by_cases h : cleaned path = []
  · rw [clean_of_cleaned_eq_nil h] at hc
    cases hrooted : isAbsolute path <;> simp [hrooted, hslash, hdot] at hc
  have hbody : c ∈ (Text.joinWith "/" (cleaned path).reverse).toList := by
    rw [clean_of_cleaned_ne_nil h, String.toList_append, List.mem_append] at hc
    refine hc.resolve_left fun hroot => ?_
    cases hrooted : isAbsolute path <;> simp [hrooted, hslash] at hroot
  obtain ⟨s, hs, hcs⟩ := (mem_joinWith hslash).mp hbody
  rcases mem_foldl_cleanStep (List.mem_reverse.mp hs) with rfl | hmem | hmem
  · exact absurd hcs (by simp [hdot])
  · rw [← joinWith_segments path]
    exact (mem_joinWith hslash).mpr ⟨s, hmem, hcs⟩
  · cases hmem

theorem cleaned_name {path name : String} (hpath : path ≠ "") (hname : IsName name) :
    cleaned (path ++ "/" ++ name) = name :: cleaned path := by
  obtain ⟨⟨hempty, hslash⟩, hdot, hup, -⟩ := hname
  have hsegments : segments (path ++ "/" ++ name) = segments path ++ [name] := by
    rw [segments_append, segments_name hslash]
  rw [cleaned, cleaned, hsegments, String.append_assoc, isAbsolute_append hpath,
    List.foldl_append, List.foldl_cons, List.foldl_nil, cleanStep.eq_def,
    if_neg (by simp [hempty, hdot]), if_neg hup]

theorem toList_join_name {path name : String} (hpath : path ≠ "") (hname : IsName name) :
    ∃ front, (join [path, name]).toList = front ++ name.toList ∧
      front.getLast?.all (· == '/') = true := by
  have hcleaned := cleaned_name hpath hname
  have hjoin : join [path, name] = (if isAbsolute path then "/" else "") ++
      Text.joinWith "/" ((cleaned path).reverse ++ [name]) := by
    rw [join_two hpath hname.isElement.1, clean_of_cleaned_ne_nil (by simp [hcleaned]), hcleaned,
      String.append_assoc, isAbsolute_append hpath, List.reverse_cons]
  rw [hjoin]
  by_cases hnil : (cleaned path).reverse = []
  · refine ⟨(if isAbsolute path then "/" else "").toList, ?_, ?_⟩
    · simp [hnil, Text.joinWith]
    · cases isAbsolute path <;> decide
  · refine ⟨((if isAbsolute path then "/" else "") ++
      Text.joinWith "/" (cleaned path).reverse ++ "/").toList, ?_, ?_⟩
    · rw [joinWith_concat hnil]
      simp [List.append_assoc]
    · simp

theorem lastSegment_append (path : String) {name : String} (hname : '/' ∉ name.toList) :
    lastSegment (path ++ name) = lastSegment path ++ name := by
  have hall : ∀ c ∈ name.toList.reverse, (c != '/') = true := by
    intro c hc
    rw [bne_iff_ne]
    rintro rfl
    exact hname (List.mem_reverse.mp hc)
  rw [lastSegment, lastSegment, String.toList_append, List.reverse_append,
    List.takeWhile_append_of_pos hall, List.reverse_append, List.reverse_reverse,
    String.ofList_append, String.ofList_toList]

theorem lastSegment_join {path name : String} (hpath : path ≠ "") (hname : IsName name) :
    lastSegment (join [path, name]) = name := by
  obtain ⟨front, hjoin, hfront⟩ := toList_join_name hpath hname
  have hwhole : join [path, name] = String.ofList front ++ name := by
    apply String.toList_injective
    rw [hjoin, String.toList_append, String.toList_ofList]
  have hnone : front.reverse.takeWhile (· != '/') = [] := by
    rw [← List.head?_reverse] at hfront
    cases hrev : front.reverse with
    | nil => rfl
    | cons c cs => simpa [hrev] using hfront
  rw [hwhole, lastSegment_append _ hname.isElement.2, lastSegment, String.toList_ofList, hnone]
  exact String.empty_append

end SlashPath

namespace Disk

open SlashPath (cleaned cleanStep IsName)

variable {d : Disk} {place p : Place}

theorem follow_append (d : Disk) (place : Place) (names more : List String) :
    d.follow place (names ++ more) = (d.follow place names).bind fun p => d.follow p more := by
  induction names generalizing place with
  | nil => rfl
  | cons name names ih =>
      rw [List.cons_append, follow, follow]
      cases d.find? place with
      | none => rfl
      | some node =>
          cases node with
          | file content => rfl
          | directory =>
              dsimp only
              split_ifs
              · exact ih place
              · exact ih place.dropLast
              · exact ih (place ++ [name])

theorem find?_of_follow_cons {name : String} {names : List String}
    (h : d.follow place (name :: names) = .ok p) : d.find? place = some .directory := by
  rw [follow] at h
  split at h
  next => cases h
  next => cases h
  next hdirectory => exact hdirectory

theorem find?_of_follow_segments {path : String}
    (h : d.follow place (SlashPath.segments path) = .ok p) :
    d.find? place = some .directory := by
  cases hsegments : SlashPath.segments path with
  | nil => exact absurd hsegments (by simp [SlashPath.segments, Text.splitAt])
  | cons name names =>
      rw [hsegments] at h
      exact find?_of_follow_cons h

theorem follow_name (hdirectory : d.find? place = some .directory) {name : String}
    (hempty : name ≠ "") (hdot : name ≠ ".") (hup : name ≠ "..") :
    d.follow place [name] = .ok (place ++ [name]) := by
  rw [follow, hdirectory]
  simp [hempty, hdot, hup, follow]

/-- Going down and up again leads back, so that one more name leads on from
cleaned names as it does from the names. -/
theorem follow_cleanStep {rooted : Bool} {start current next : Place} {done : List String}
    {name : String} (hroot : rooted = true → start = [])
    (hdone : ∀ s ∈ done, s ≠ "" ∧ s ≠ ".")
    (hcurrent : d.follow start done.reverse = .ok current)
    (hnext : d.follow current [name] = .ok next) :
    d.follow start (cleanStep rooted done name).reverse = .ok next := by
  have hdirectory := find?_of_follow_cons hnext
  rw [follow, hdirectory] at hnext
  dsimp only at hnext
  rw [SlashPath.cleanStep.eq_def]
  by_cases hstay : name = "" ∨ name = "."
  · rw [if_pos hstay] at hnext ⊢
    cases hnext
    exact hcurrent
  by_cases hup : name = ".."
  · rw [if_neg hstay, if_pos hup] at hnext ⊢
    cases hnext
    have hback : d.follow current [".."] = .ok current.dropLast := by
      rw [follow, hdirectory]
      simp [follow]
    cases done with
    | nil =>
        obtain rfl : start = current := Except.ok.inj hcurrent
        cases rooted with
        | true =>
            obtain rfl := hroot rfl
            rfl
        | false => exact hback
    | cons last rest =>
        dsimp only
        obtain ⟨⟨hempty, hdot⟩, -⟩ := List.forall_mem_cons.mp hdone
        by_cases hlast : last = ".."
        · rw [if_pos hlast, List.reverse_cons, follow_append, hcurrent]
          exact hback
        · rw [if_neg hlast]
          rw [List.reverse_cons, follow_append] at hcurrent
          cases hbefore : d.follow start rest.reverse with
          | error cause => simp [hbefore, Except.bind] at hcurrent
          | ok before =>
              simp only [hbefore, Except.bind] at hcurrent
              rw [follow_name (find?_of_follow_cons hcurrent) hempty hdot hlast] at hcurrent
              cases hcurrent
              rw [List.dropLast_concat]
  · rw [if_neg hstay, if_neg hup] at hnext ⊢
    cases hnext
    obtain ⟨hempty, hdot⟩ := not_or.mp hstay
    rw [List.reverse_cons, follow_append, hcurrent]
    exact follow_name hdirectory hempty hdot hup

theorem ne_of_mem_cleanStep {rooted : Bool} {done : List String} {name : String}
    (hdone : ∀ s ∈ done, s ≠ "" ∧ s ≠ ".") :
    ∀ s ∈ cleanStep rooted done name, s ≠ "" ∧ s ≠ "." := by
  have hup : ".." ≠ "" ∧ ".." ≠ "." := by decide
  rw [SlashPath.cleanStep.eq_def]
  by_cases hstay : name = "" ∨ name = "."
  · rw [if_pos hstay]
    exact hdone
  rw [if_neg hstay]
  by_cases hname : name = ".."
  · rw [if_pos hname]
    cases done with
    | nil => cases rooted <;> simp
    | cons last rest =>
        dsimp only
        split_ifs
        · exact List.forall_mem_cons.mpr ⟨hup, hdone⟩
        · exact (List.forall_mem_cons.mp hdone).2
  · rw [if_neg hname]
    intro s hs
    rcases List.mem_cons.mp hs with rfl | hs
    · exact not_or.mp hstay
    · exact hdone s hs

theorem follow_cleaned {rooted : Bool} {start current : Place} {names done : List String}
    (hroot : rooted = true → start = []) (hdone : ∀ s ∈ done, s ≠ "" ∧ s ≠ ".")
    (hcurrent : d.follow start done.reverse = .ok current)
    (hfollow : d.follow current names = .ok p) :
    d.follow start (names.foldl (cleanStep rooted) done).reverse = .ok p := by
  induction names generalizing done current with
  | nil =>
      cases hfollow
      exact hcurrent
  | cons name names ih =>
      rw [← List.singleton_append, follow_append] at hfollow
      cases hnext : d.follow current [name] with
      | error cause => simp [hnext, Except.bind] at hfollow
      | ok next =>
          rw [hnext] at hfollow
          exact ih (ne_of_mem_cleanStep hdone) (follow_cleanStep hroot hdone hcurrent hnext)
            hfollow

theorem locate_eq_ok {path : String} (h : d.locate path = .ok p) :
    path ≠ "" ∧ '\x00' ∉ path.toList ∧ d.follow [] (d.namesOf path) = .ok p := by
  rw [locate] at h
  split_ifs at h with hempty hnul
  exact ⟨by simpa using hempty, by simpa using hnul, h⟩

theorem locate_of_follow {path : String} (hempty : path ≠ "") (hnul : '\x00' ∉ path.toList)
    (hfollow : d.follow [] (d.namesOf path) = .ok p) : d.locate path = .ok p := by
  rw [locate, if_neg (by simpa using hempty), if_neg (by simpa using hnul), hfollow]

theorem namesOf_relative {path : String} (hpath : SlashPath.isAbsolute path = false) :
    d.namesOf path = SlashPath.segments d.workingDirectory ++ SlashPath.segments path := by
  rw [namesOf, hpath]
  exact SlashPath.segments_append d.workingDirectory path

theorem exists_start_of_locate {path : String} (h : d.locate path = .ok p) :
    ∃ start, (SlashPath.isAbsolute path = true → start = []) ∧
      d.follow start (SlashPath.segments path) = .ok p ∧
      ∀ other, SlashPath.isAbsolute other = SlashPath.isAbsolute path →
        d.follow [] (d.namesOf other) = d.follow start (SlashPath.segments other) := by
  obtain ⟨-, -, hfollow⟩ := locate_eq_ok h
  cases hpath : SlashPath.isAbsolute path with
  | true =>
      refine ⟨[], fun _ => rfl, ?_, fun other hother => ?_⟩
      · simpa [namesOf, hpath] using hfollow
      · simp [namesOf, hother]
  | false =>
      rw [namesOf_relative hpath, follow_append] at hfollow
      cases hstart : d.follow [] (SlashPath.segments d.workingDirectory) with
      | error cause => simp [hstart, Except.bind] at hfollow
      | ok start =>
          rw [hstart] at hfollow
          refine ⟨start, fun h => Bool.noConfusion h, hfollow, fun other hother => ?_⟩
          rw [namesOf_relative hother, follow_append, hstart]
          rfl

theorem locate_clean {path : String} (h : d.locate path = .ok p) :
    d.locate (SlashPath.clean path) = .ok p := by
  obtain ⟨start, hroot, hfollow, hnames⟩ := exists_start_of_locate h
  have hnul : '\x00' ∉ (SlashPath.clean path).toList := fun hmem =>
    (locate_eq_ok h).2.1 (SlashPath.mem_of_mem_clean (by decide) (by decide) hmem)
  refine locate_of_follow (SlashPath.clean_ne_empty path) hnul ?_
  rw [hnames _ (SlashPath.isAbsolute_clean path)]
  have hclean : d.follow start (cleaned path).reverse = .ok p :=
    follow_cleaned hroot (by simp) rfl hfollow
  have hstart := find?_of_follow_segments hfollow
  have hstay : ∀ name names, name = "" ∨ name = "." →
      d.follow start (name :: names) = d.follow start names := by
    intro name names hname
    rw [follow, hstart]
    simp only [if_pos hname]
  by_cases hnil : cleaned path = []
  · rw [hnil] at hclean
    rw [SlashPath.clean_of_cleaned_eq_nil hnil]
    cases SlashPath.isAbsolute path with
    | true =>
        have hslash : SlashPath.segments "/" = ["", ""] := by decide
        rw [if_pos rfl, hslash, hstay _ _ (Or.inl rfl), hstay _ _ (Or.inl rfl)]
        exact hclean
    | false =>
        have hdot : SlashPath.segments "." = ["."] := by decide
        rw [if_neg Bool.false_ne_true, hdot, hstay _ _ (Or.inr rfl)]
        exact hclean
  · rw [SlashPath.segments_clean hnil]
    cases SlashPath.isAbsolute path with
    | true => rw [if_pos rfl, List.singleton_append, hstay _ _ (Or.inl rfl), hclean]
    | false => exact hclean

theorem locate_join {path name : String} (hlocate : d.locate path = .ok place)
    (hdirectory : d.find? place = some .directory) (hname : IsName name) :
    d.locate (SlashPath.join [path, name]) = .ok (place ++ [name]) := by
  obtain ⟨hempty, hnul, -⟩ := locate_eq_ok hlocate
  obtain ⟨start, -, hfollow, hnames⟩ := exists_start_of_locate hlocate
  rw [SlashPath.join_two hempty hname.isElement.1]
  apply locate_clean
  refine locate_of_follow (by simp) (by simp [hnul, hname.printable]) ?_
  rw [hnames _ (by rw [String.append_assoc, SlashPath.isAbsolute_append hempty]),
    SlashPath.segments_append, SlashPath.segments_name hname.isElement.2, follow_append, hfollow]
  exact follow_name hdirectory hname.isElement.1 hname.ne_dot hname.ne_up

theorem follow_blanks (hdirectory : d.find? place = some .directory) (n : Nat) :
    d.follow place (List.replicate n "") = .ok place := by
  induction n with
  | zero => rfl
  | succ n ih =>
      rw [List.replicate_succ, follow, hdirectory]
      simpa using ih

theorem nodeAt_slashes {path : String} {n : Nat} (h : d.nodeAt path = .ok (place, .directory)) :
    d.nodeAt (path ++ String.ofList (List.replicate n '/')) = .ok (place, .directory) := by
  obtain ⟨hlocate, hdirectory⟩ := nodeAt_eq_ok h
  obtain ⟨hempty, hnul, -⟩ := locate_eq_ok hlocate
  obtain ⟨start, -, hfollow, hnames⟩ := exists_start_of_locate hlocate
  refine nodeAt_of_locate (locate_of_follow (by simp [hempty]) (by simp [hnul]) ?_) hdirectory
  rw [hnames _ (SlashPath.isAbsolute_append hempty _), SlashPath.segments_slashes, follow_append,
    hfollow]
  exact follow_blanks hdirectory n

theorem makeDirectory_eq_ok {d' : Disk} {path : String} (h : d.makeDirectory path = .ok d') :
    ∃ place, d.locate (String.ofList (Text.trimRightWhile (· == '/') path.toList)) = .ok place ∧
      d.find? place = none ∧ d' = d.put place .directory := by
  simp only [makeDirectory, during, bind, Except.bind] at h
  split at h
  next => cases h
  next place hlocate =>
    split at h
    next => cases h
    next hfind =>
      cases h
      exact ⟨place, hlocate, hfind, rfl⟩

theorem nodeAt_makeDirectory {d' : Disk} {path : String} (h : d.makeDirectory path = .ok d') :
    ∃ place, d'.nodeAt path = .ok (place, .directory) := by
  obtain ⟨place, hlocate, hfind, rfl⟩ := makeDirectory_eq_ok h
  obtain ⟨n, hn⟩ := SlashPath.exists_slashes path
  refine ⟨place, ?_⟩
  rw [hn]
  exact nodeAt_slashes (nodeAt_put hlocate (by simp [hfind]))

theorem nodeAt_of_stat {path : String} {node : DiskNode}
    (h : (d.stat path).toOption = some node) : ∃ place, d.nodeAt path = .ok (place, node) := by
  rw [stat, during] at h
  cases hnode : d.nodeAt path with
  | error cause => simp [hnode, Except.map, Except.mapError, Except.toOption] at h
  | ok found =>
      simp only [hnode, Except.map, Except.mapError, Except.toOption, Option.some.injEq] at h
      exact ⟨found.1, by rw [← h]⟩

theorem nodeAt_ensureDirectory {d' : Disk} {path : String}
    (h : d.ensureDirectory path = (.ok (), d')) :
    ∃ place, d'.nodeAt path = .ok (place, .directory) := by
  rw [ensureDirectory] at h
  split at h
  next hmake =>
    cases h
    exact nodeAt_makeDirectory hmake
  next =>
    split_ifs at h with hstat
    · cases h
      exact nodeAt_of_stat hstat
    · cases h

theorem makeDirectoriesFrom_of_ok {d' : Disk} {path : String}
    (h : d.makeDirectories path = .ok d') :
    d.makeDirectoriesFrom path.length path = (.ok (), d') := by
  rw [makeDirectories] at h
  split at h
  next result made hresult =>
    cases result with
    | error fault => cases h
    | ok _ =>
        cases h
        exact hresult

theorem nodeAt_makeDirectories {d' : Disk} {path : String} (h : d.makeDirectories path = .ok d') :
    ∃ place, d'.nodeAt path = .ok (place, .directory) := by
  have hfrom : ∀ n, d.makeDirectoriesFrom n path = (.ok (), d') →
      ∃ place, d'.nodeAt path = .ok (place, .directory) := by
    intro n hn
    cases n with
    | zero => exact nodeAt_ensureDirectory hn
    | succ n =>
        rw [makeDirectoriesFrom] at hn
        split at hn
        next hstat =>
          cases hn
          exact nodeAt_of_stat (by rw [hstat, Except.toOption])
        next => cases hn
        next =>
          dsimp only at hn
          split at hn
          next => cases hn
          next => exact nodeAt_ensureDirectory hn
  exact hfrom _ (makeDirectoriesFrom_of_ok h)

theorem makeDirectories_of_nodeAt {path : String} (h : d.nodeAt path = .ok (place, .directory)) :
    d.makeDirectories path = .ok d := by
  have hpath : path ≠ "" := (locate_eq_ok (nodeAt_eq_ok h).1).1
  obtain ⟨n, hn⟩ := Nat.exists_eq_succ_of_ne_zero (mt String.length_eq_zero_iff.mp hpath)
  have hstat : d.stat path = .ok .directory := by
    simp [stat, during, h, Except.map, Except.mapError]
  rw [makeDirectories, hn, makeDirectoriesFrom, hstat]
  rfl

/-- A path leads to a place by its last name, from a directory that the front
of the path leads to. -/
theorem locate_dir {path : String} (hlocate : d.locate path = .ok place) :
    ∃ parent, d.nodeAt (SlashPath.dir path) = .ok (parent, .directory) ∧
      d.follow parent [SlashPath.lastSegment path] = .ok place := by
  obtain ⟨-, hnul, -⟩ := locate_eq_ok hlocate
  obtain ⟨start, -, hfollow, hnames⟩ := exists_start_of_locate hlocate
  obtain ⟨front, last, hsegment, hlast, ⟨rfl, hdir⟩ | ⟨hpath, hdir⟩⟩ :=
    SlashPath.exists_front path
  · rw [SlashPath.segments_name hlast] at hfollow
    have hdirectory := find?_of_follow_cons hfollow
    have hdot : SlashPath.segments "." = ["."] := by decide
    refine ⟨start, nodeAt_of_locate ?_ hdirectory, by rw [hsegment, hfollow]⟩
    rw [hdir]
    refine locate_of_follow (by decide) (by decide) ?_
    have hrelative : SlashPath.isAbsolute "." = SlashPath.isAbsolute path := by
      cases habsolute : SlashPath.isAbsolute path with
      | false => decide
      | true =>
          rw [SlashPath.isAbsolute, beq_iff_eq] at habsolute
          exact absurd (List.mem_of_mem_head? habsolute) hlast
    rw [hnames _ hrelative, hdot, follow, hdirectory]
    rfl
  · rw [hpath, SlashPath.segments_append, SlashPath.segments_name hlast, follow_append] at hfollow
    cases hfront : d.follow start (SlashPath.segments front) with
    | error cause => simp [hfront, Except.bind] at hfollow
    | ok parent =>
        rw [hfront] at hfollow
        have hdirectory := find?_of_follow_cons hfollow
        refine ⟨parent, nodeAt_of_locate ?_ hdirectory, by rw [hsegment]; exact hfollow⟩
        rw [hdir]
        apply locate_clean
        refine locate_of_follow (by simp) ?_ ?_
        · simp only [hpath, String.toList_append, List.mem_append, not_or] at hnul
          simp [hnul.1.1]
        · have hblank : SlashPath.segments "" = [""] := by decide
          have hslash : front ++ "/" = front ++ "/" ++ "" := by simp
          have habsolute : SlashPath.isAbsolute (front ++ "/") = SlashPath.isAbsolute path := by
            have hempty : front ++ "/" ≠ "" := by simp
            rw [hpath, SlashPath.isAbsolute_append hempty]
          rw [hnames _ habsolute, hslash, SlashPath.segments_append, hblank, follow_append, hfront]
          exact follow_blanks hdirectory 1

end Disk

end ArchLint
