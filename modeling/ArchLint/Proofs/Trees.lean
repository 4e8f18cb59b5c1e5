import ArchLint.Proofs.Removal

namespace ArchLint

namespace Disk

variable {d d' d'' : Disk} {place p q : Place} {path : String}

/-- A disk with more directories than another one, and nothing else. -/
structure Grown (d d' : Disk) : Prop where
  keeps : ∀ q node, d.find? q = some node → d'.find? q = some node
  made : ∀ q node, d.find? q = none → d'.find? q = some node → node = .directory
  working : d'.workingDirectory = d.workingDirectory

theorem Grown.refl (d : Disk) : Grown d d where
  keeps _ _ h := h
  made q node hnone h := by rw [hnone] at h; cases h
  working := rfl

theorem Grown.trans (h : Grown d d') (h' : Grown d' d'') : Grown d d'' where
  keeps q node hq := h'.keeps q node (h.keeps q node hq)
  made q node hnone hq := by
    cases hbetween : d'.find? q with
    | none => exact h'.made q node hbetween hq
    | some between =>
        obtain rfl := h.made q between hnone hbetween
        rw [h'.keeps q _ hbetween] at hq
        exact (Option.some.inj hq).symm
  working := h'.working.trans h.working

theorem Grown.put_directory (hplace : d.find? place = none) :
    Grown d (d.put place .directory) where
  keeps q node hq := by
    rw [find?_put_of_ne, hq]
    rintro rfl
    rw [hplace] at hq
    cases hq
  made q node hnone hq := by
    by_cases hself : q = place
    · subst hself
      have hfree : d.find? q ≠ some .directory := by simp [hplace]
      rw [find?_put_self (ne_nil_of_find?_ne hfree)] at hq
      exact (Option.some.inj hq).symm
    · rw [find?_put_of_ne hself, hnone] at hq
      cases hq
  working := rfl

theorem Grown.ensureDirectory (d : Disk) (path : String) :
    Grown d (d.ensureDirectory path).2 := by
  rw [Disk.ensureDirectory]
  split
  next made hmake =>
    obtain ⟨place, -, hfind, rfl⟩ := makeDirectory_eq_ok hmake
    exact .put_directory hfind
  next => split_ifs <;> exact .refl d

theorem makeDirectoriesFrom_cases (d : Disk) (n : Nat) (path : String) :
    ∃ between : Disk,
      (between = d ∨
        parentPath path ≠ "" ∧ between = (d.makeDirectoriesFrom n (parentPath path)).2) ∧
      ((d.makeDirectoriesFrom (n + 1) path).2 = between ∨
        (d.makeDirectoriesFrom (n + 1) path).2 = (between.ensureDirectory path).2) := by
  rw [makeDirectoriesFrom]
  split
  next => exact ⟨d, Or.inl rfl, Or.inl rfl⟩
  next => exact ⟨d, Or.inl rfl, Or.inl rfl⟩
  next =>
    dsimp only
    split_ifs with hparent
    · exact ⟨d, Or.inl rfl, Or.inr rfl⟩
    · refine ⟨_, Or.inr ⟨by simpa using hparent, rfl⟩, ?_⟩
      split
      next hmade =>
        rw [hmade]
        exact Or.inl rfl
      next hmade =>
        rw [hmade]
        exact Or.inr rfl

theorem Grown.makeDirectoriesFrom (d : Disk) (n : Nat) (path : String) :
    Grown d (d.makeDirectoriesFrom n path).2 := by
  induction n generalizing path with
  | zero => exact .ensureDirectory d path
  | succ n ih =>
      obtain ⟨between, hbetween, hend⟩ := d.makeDirectoriesFrom_cases n path
      have hgrown : Grown d between := by
        rcases hbetween with rfl | ⟨-, rfl⟩
        · exact .refl _
        · exact ih (parentPath path)
      rcases hend with hend | hend
      · rwa [hend]
      · rw [hend]
        exact hgrown.trans (.ensureDirectory between path)

theorem Grown.afterMaking (d : Disk) (path : String) : Grown d (d.afterMaking path) :=
  .makeDirectoriesFrom d _ path

theorem makeDirectoriesFrom_of_error {fault : DiskFault}
    (h : d.makeDirectories path = .error fault) :
    d.makeDirectoriesFrom path.length path = (.error fault, d.afterMaking path) := by
  rw [makeDirectories] at h
  rw [afterMaking]
  split at h
  next result made hresult =>
    cases result with
    | error _ =>
        cases h
        rw [hresult]
    | ok _ => cases h

theorem Grown.makeDirectories (h : d.makeDirectories path = .ok d') : Grown d d' := by
  have hmade := Grown.makeDirectoriesFrom d path.length path
  rw [makeDirectoriesFrom_of_ok h] at hmade
  exact hmade

theorem Grown.find?_file (h : Grown d d') {content : ByteArray} :
    d'.find? q = some (.file content) ↔ d.find? q = some (.file content) := by
  constructor
  · intro hq
    cases hbefore : d.find? q with
    | none => cases h.made q _ hbefore hq
    | some node =>
        rw [h.keeps q node hbefore] at hq
        rw [hq]
  · exact h.keeps q _

theorem Grown.locate (h : Grown d d') (hlocate : d.locate path = .ok place) :
    d'.locate path = .ok place := by
  refine locate_of_isOpen (fun q hopen => ?_) h.working hlocate
  exact h.keeps q _ (hopen q List.prefix_rfl)

/-- A disk on which everything has a place of its own in a directory, and the
working directory is there. -/
structure IsTree (d : Disk) : Prop where
  distinct : (d.nodes.map (·.1)).Nodup
  named : ∀ n ∈ d.nodes, n.1 ≠ [] ∧ ∀ name ∈ n.1, SlashPath.IsName name
  inside : ∀ n ∈ d.nodes, d.find? n.1.dropLast = some .directory
  rooted : SlashPath.isAbsolute d.workingDirectory = true
  working : d.stat "." = .ok .directory

instance (name : String) : Decidable (SlashPath.IsName name) :=
  decidable_of_iff
    ((name ≠ "" ∧ '/' ∉ name.toList) ∧ name ≠ "." ∧ name ≠ ".." ∧ '\x00' ∉ name.toList)
    ⟨fun ⟨h, hdot, hup, hnul⟩ => ⟨h, hdot, hup, hnul⟩,
      fun h => ⟨h.isElement, h.ne_dot, h.ne_up, h.printable⟩⟩

instance (d : Disk) : Decidable d.IsTree :=
  decidable_of_iff
    ((d.nodes.map (·.1)).Nodup ∧
      (∀ n ∈ d.nodes, n.1 ≠ [] ∧ ∀ name ∈ n.1, SlashPath.IsName name) ∧
      (∀ n ∈ d.nodes, d.find? n.1.dropLast = some .directory) ∧
      SlashPath.isAbsolute d.workingDirectory = true ∧ d.stat "." = .ok .directory)
    ⟨fun ⟨hdistinct, hnamed, hinside, hrooted, hworking⟩ =>
        ⟨hdistinct, hnamed, hinside, hrooted, hworking⟩,
      fun h => ⟨h.distinct, h.named, h.inside, h.rooted, h.working⟩⟩

theorem mem_nodes_of_find? {node : DiskNode} (hplace : place ≠ [])
    (h : d.find? place = some node) : (place, node) ∈ d.nodes := by
  rw [find?, if_neg (by simpa using hplace)] at h
  obtain ⟨before, after, hnodes, -⟩ := List.lookup_eq_some_iff.mp h
  simp [hnodes]

theorem IsTree.find?_above (htree : d.IsTree) {node : DiskNode} (h : d.find? place = some node)
    (hp : p <+: place) (hne : p ≠ place) : d.find? p = some .directory := by
  induction place using List.reverseRecOn generalizing node with
  | nil => exact absurd (List.prefix_nil.mp hp) hne
  | append_singleton place name ih =>
      have hparent : d.find? place = some .directory := by
        simpa using htree.inside _ (mem_nodes_of_find? (by simp) h)
      have hup := (List.prefix_concat_iff.mp hp).resolve_left hne
      by_cases hself : p = place
      · rw [hself, hparent]
      · exact ih hparent hup hself

theorem IsTree.find?_below (htree : d.IsTree) (h : d.find? place = none) (hq : place <+: q) :
    d.find? q = none := by
  by_contra hne
  obtain ⟨node, hnode⟩ := Option.ne_none_iff_exists'.mp hne
  by_cases hself : place = q
  · rw [hself, hnode] at h
    cases h
  · rw [htree.find?_above hnode hq hself] at h
    cases h

theorem IsTree.isOpen (htree : d.IsTree) (h : d.find? place = some .directory) :
    d.IsOpen place := by
  intro p hp
  by_cases hself : p = place
  · rw [hself, h]
  · exact htree.find?_above h hp hself

section Reach

/-- What stands where names lead from a place. -/
def reach (d : Disk) (place : Place) (names : List String) :
    Except DiskCause (Place × DiskNode) :=
  (d.follow place names).bind fun p =>
    match d.find? p with
    | some node => .ok (p, node)
    | none => .error .notExist

theorem reach_append (d : Disk) (place : Place) (names more : List String) :
    d.reach place (names ++ more) = (d.follow place names).bind fun p => d.reach p more := by
  rw [reach, follow_append]
  cases d.follow place names <;> rfl

theorem nodeAt_eq_reach (hempty : path ≠ "") (hnul : '\x00' ∉ path.toList) :
    d.nodeAt path = d.reach [] (d.namesOf path) := by
  rw [nodeAt, locate, if_neg (by simpa using hempty), if_neg (by simpa using hnul)]
  rfl

/-- A name among names that goes down, and after which they go up. -/
def Returns (names : List String) : Prop :=
  ∃ name, name ≠ "" ∧ name ≠ "." ∧ name ≠ ".." ∧ [name, ".."].Sublist names

variable {name : String} {names : List String}

theorem not_returns_tail (h : ¬Returns (name :: names)) : ¬Returns names :=
  fun ⟨other, hempty, hdot, hup, hsub⟩ => h ⟨other, hempty, hdot, hup, hsub.cons name⟩

theorem down_of_not_returns (h : ¬Returns (name :: names)) (hstay : ¬(name = "" ∨ name = "."))
    (hup : name ≠ "..") : ".." ∉ names := by
  intro hmem
  obtain ⟨hempty, hdot⟩ := not_or.mp hstay
  exact h ⟨name, hempty, hdot, hup,
    List.cons_sublist_cons.mpr (List.singleton_sublist.mpr hmem)⟩

theorem reach_of_none (h : d.find? place = none) (names : List String) :
    d.reach place names = .error .notExist := by
  cases names with
  | nil => simp [reach, follow, h, Except.bind]
  | cons name names => simp [reach, follow, h, Except.bind]

theorem reach_of_file {content : ByteArray} (h : d.find? place = some (.file content))
    (name : String) (names : List String) :
    d.reach place (name :: names) = .error .notDirectory := by
  simp [reach, follow, h, Except.bind]

theorem reach_cons (h : d.find? place = some .directory) (name : String) (names : List String) :
    d.reach place (name :: names) =
      if name = "" ∨ name = "." then d.reach place names
      else if name = ".." then d.reach place.dropLast names
      else d.reach (place ++ [name]) names := by
  rw [reach, follow, h]
  dsimp only
  split_ifs <;> rfl

theorem reach_directories (hfiles : ∀ q, place <+: q → ∀ content, d.find? q ≠ some (.file content))
    (hdown : ".." ∉ names) :
    (∃ p, d.reach place names = .ok (p, .directory)) ∨
      d.reach place names = .error .notExist := by
  induction names generalizing place with
  | nil =>
      cases hfind : d.find? place with
      | none => exact Or.inr (reach_of_none hfind [])
      | some node =>
          cases node with
          | directory => exact Or.inl ⟨place, by simp [reach, follow, hfind, Except.bind]⟩
          | file content => exact absurd hfind (hfiles place List.prefix_rfl content)
  | cons name names ih =>
      obtain ⟨hup, hrest⟩ := not_or.mp (mt List.mem_cons.mpr hdown)
      cases hfind : d.find? place with
      | none => exact Or.inr (reach_of_none hfind _)
      | some node =>
          cases node with
          | directory =>
              rw [reach_cons hfind, if_neg (Ne.symm hup)]
              split_ifs
              · exact ih hfiles hrest
              · exact ih (fun q hq => hfiles q ((List.prefix_append _ _).trans hq)) hrest
          | file content => exact absurd hfind (hfiles place List.prefix_rfl content)

theorem Grown.reach_missing (htree : d.IsTree) (h : Grown d d') (hdown : ".." ∉ names)
    (hnone : d.find? place = none) :
    (∃ p, d'.reach place names = .ok (p, .directory)) ∨
      d'.reach place names = d.reach place names := by
  rw [reach_of_none hnone]
  refine reach_directories (fun q hq content hfile => ?_) hdown
  rw [h.find?_file, htree.find?_below hnone hq] at hfile
  cases hfile

/-- Names that go down lead to the same after directories were added, or to a
directory. -/
theorem Grown.reach_down (htree : d.IsTree) (h : Grown d d') (hdown : ".." ∉ names) :
    (∃ p, d'.reach place names = .ok (p, .directory)) ∨
      d'.reach place names = d.reach place names := by
  induction names generalizing place with
  | nil =>
      cases hfind : d.find? place with
      | none => exact h.reach_missing htree hdown hfind
      | some node =>
          right
          simp [reach, follow, hfind, h.keeps place node hfind, Except.bind]
  | cons name names ih =>
      obtain ⟨hup, hrest⟩ := not_or.mp (mt List.mem_cons.mpr hdown)
      cases hfind : d.find? place with
      | none => exact h.reach_missing htree hdown hfind
      | some node =>
          have hkept := h.keeps place node hfind
          cases node with
          | directory =>
              rw [reach_cons hfind, reach_cons hkept, if_neg (Ne.symm hup), if_neg (Ne.symm hup)]
              split_ifs
              · exact ih hrest
              · exact ih hrest
          | file content =>
              right
              rw [reach_of_file hfind, reach_of_file hkept]

theorem Grown.reach_open (htree : d.IsTree) (h : Grown d d') (hopen : d.IsOpen place)
    (hnames : ¬Returns names) :
    (∃ p, d'.reach place names = .ok (p, .directory)) ∨
      d'.reach place names = d.reach place names := by
  induction names generalizing place with
  | nil => exact h.reach_down htree List.not_mem_nil
  | cons name names ih =>
      have hdirectory := hopen place List.prefix_rfl
      have hrest := not_returns_tail hnames
      rw [reach_cons hdirectory, reach_cons (h.keeps place _ hdirectory)]
      split_ifs with hstay hup
      · exact ih hopen hrest
      · exact ih (fun p hp => hopen p (hp.trans (List.dropLast_prefix place))) hrest
      · exact h.reach_down htree (down_of_not_returns hnames hstay hup)

end Reach

section Working

theorem namesOf_congr (hworking : d'.workingDirectory = d.workingDirectory) (path : String) :
    d'.namesOf path = d.namesOf path := by
  rw [namesOf, namesOf, hworking]

theorem IsTree.exists_working (htree : d.IsTree) :
    ∃ start, d.follow [] (SlashPath.segments d.workingDirectory) = .ok start ∧
      d.IsOpen start := by
  have hstat : (d.stat ".").toOption = some .directory := by rw [htree.working, Except.toOption]
  obtain ⟨place, hnode⟩ := nodeAt_of_stat hstat
  obtain ⟨-, -, hfollow⟩ := locate_eq_ok (nodeAt_eq_ok hnode).1
  have hrelative : SlashPath.isAbsolute "." = false := by decide
  rw [namesOf_relative hrelative, follow_append] at hfollow
  cases hstart : d.follow [] (SlashPath.segments d.workingDirectory) with
  | error cause => simp [hstart, Except.bind] at hfollow
  | ok start =>
      rw [hstart] at hfollow
      exact ⟨start, rfl, htree.isOpen (find?_of_follow_segments hfollow)⟩

theorem IsTree.exists_start (htree : d.IsTree) (path : String) :
    ∃ start, d.IsOpen start ∧ ∃ front, d.namesOf path = front ++ SlashPath.segments path ∧
      d.follow [] front = .ok start := by
  cases hrooted : SlashPath.isAbsolute path with
  | true =>
      refine ⟨[], fun p hp => ?_, [], ?_, rfl⟩
      · rw [List.prefix_nil.mp hp]
        rfl
      · rw [namesOf, if_pos hrooted, List.nil_append]
  | false =>
      obtain ⟨start, hstart, hopen⟩ := htree.exists_working
      exact ⟨start, hopen, _, namesOf_relative hrooted, hstart⟩

theorem Grown.follow (h : Grown d d') {names : List String} (hfollow : d.follow [] names = .ok p) :
    d'.follow [] names = .ok p := by
  refine follow_of_isOpen (fun q hopen => h.keeps q _ (hopen q List.prefix_rfl)) ?_ hfollow
  exact fun q hq hne => absurd (List.prefix_nil.mp hq) hne

theorem Grown.nodeAt (htree : d.IsTree) (h : Grown d d')
    (hpath : ¬Returns (SlashPath.segments path)) :
    (∃ p, d'.nodeAt path = .ok (p, .directory)) ∨ d'.nodeAt path = d.nodeAt path := by
  by_cases hempty : path = ""
  · subst hempty
    exact Or.inr rfl
  by_cases hnul : '\x00' ∈ path.toList
  · right
    simp [Disk.nodeAt, Disk.locate, hempty, hnul, bind, Except.bind]
  · obtain ⟨start, hopen, front, hfront, hstart⟩ := htree.exists_start path
    rw [nodeAt_eq_reach hempty hnul, nodeAt_eq_reach hempty hnul, namesOf_congr h.working, hfront,
      reach_append, reach_append, hstart, h.follow hstart]
    exact h.reach_open htree hopen hpath

theorem follow_of_not_returns {names : List String} (hopen : d.IsOpen place)
    (hnames : ¬Returns names) (hp : d.IsOpen p) (h : d'.follow place names = .ok p) :
    d.follow place names = .ok p := by
  induction names generalizing place with
  | nil => exact h
  | cons name names ih =>
      rw [Disk.follow, find?_of_follow_cons h] at h
      rw [Disk.follow, hopen place List.prefix_rfl]
      dsimp only at h ⊢
      have hrest := not_returns_tail hnames
      split_ifs at h ⊢ with hstay hup
      · exact ih hopen hrest h
      · exact ih (fun q hq => hopen q (hq.trans (List.dropLast_prefix place))) hrest h
      · have hbelow := prefix_of_follow (down_of_not_returns hnames hstay hup) h
        exact ih (fun q hq => hp q (hq.trans hbelow)) hrest h

theorem prefix_of_missing {front rest : List String} (hopen : d.IsOpen place)
    (hnames : ¬Returns (front ++ rest)) (hq : d.find? q = none)
    (hfront : d'.follow place front = .ok q) (hrest : d'.follow q rest = .ok p) : q <+: p := by
  induction front generalizing place with
  | nil =>
      cases hfront
      rw [hopen _ List.prefix_rfl] at hq
      cases hq
  | cons name front ih =>
      rw [Disk.follow, find?_of_follow_cons hfront] at hfront
      dsimp only at hfront
      have htail := not_returns_tail hnames
      split_ifs at hfront with hstay hup
      · exact ih hopen htail hfront
      · exact ih (fun q hq => hopen q (hq.trans (List.dropLast_prefix place))) htail hfront
      · have hdown := down_of_not_returns hnames hstay hup
        exact prefix_of_follow (fun hmem => hdown (List.mem_append_right _ hmem)) hrest

end Working

section Making

theorem exists_after_parent (h : parentPath path ≠ "") :
    ∃ k rest, path = parentPath path ++ String.ofList (List.replicate k '/') ++ "/" ++ rest := by
  obtain ⟨chars, hchars⟩ : ∃ chars, chars = path.toList.rdropWhile (· == '/') := ⟨_, rfl⟩
  have hparent : parentPath path =
      String.ofList ((chars.rdropWhile (· != '/')).rdropWhile (· == '/')) := by
    simp only [parentPath, hchars, List.rdropWhile, List.reverse_reverse]
  have hsplit : chars.rdropWhile (· != '/') ++ chars.rtakeWhile (· != '/') = chars :=
    List.rdropWhile_append_rtakeWhile
  rcases List.eq_nil_or_concat (chars.rdropWhile (· != '/')) with hfront | ⟨cs, c, hfront⟩
  · rw [hparent, hfront] at h
    exact absurd rfl h
  obtain rfl : c = '/' := by
    have hlast := List.rdropWhile_last_not (· != '/') chars (by simp [hfront])
    simpa [hfront] using hlast
  rw [hfront, List.concat_eq_append] at hparent hsplit
  rw [List.rdropWhile_concat_pos _ _ _ (by simp)] at hparent
  obtain ⟨n, hn⟩ := SlashPath.exists_slashes path
  obtain ⟨k, hk⟩ := SlashPath.exists_slashes (String.ofList cs)
  rw [String.toList_ofList, Text.trimRightWhile_eq_rdropWhile, ← hparent] at hk
  rw [Text.trimRightWhile_eq_rdropWhile, ← hchars, ← hsplit, String.ofList_append,
    String.ofList_append, hk] at hn
  exact ⟨k, _, by simpa [String.append_assoc] using hn⟩

theorem exists_parent (h : parentPath path ≠ "") :
    ∃ more, more ≠ [] ∧ d.namesOf path = d.namesOf (parentPath path) ++ more := by
  obtain ⟨k, rest, hpath⟩ := exists_after_parent h
  have hsegments : SlashPath.segments path = SlashPath.segments (parentPath path) ++
      (List.replicate k "" ++ SlashPath.segments rest) := by
    rw [← List.append_assoc, ← SlashPath.segments_slashes, ← SlashPath.segments_append, ← hpath]
  have hrooted : SlashPath.isAbsolute path = SlashPath.isAbsolute (parentPath path) := by
    rw [← SlashPath.isAbsolute_append h, ← String.append_assoc, ← String.append_assoc, ← hpath]
  refine ⟨List.replicate k "" ++ SlashPath.segments rest, ?_, ?_⟩
  · simp [SlashPath.segments, Text.splitAt]
  · cases habsolute : SlashPath.isAbsolute path with
    | true => rw [namesOf, namesOf, ← hrooted, habsolute, if_pos rfl, if_pos rfl, hsegments]
    | false =>
        rw [namesOf_relative habsolute, namesOf_relative (hrooted ▸ habsolute), hsegments,
          List.append_assoc]

theorem nodeAt_parent (h : parentPath path ≠ "") (hnode : d.nodeAt path = .ok (place, .directory)) :
    ∃ p, d.nodeAt (parentPath path) = .ok (p, .directory) := by
  obtain ⟨-, hnul, hfollow⟩ := locate_eq_ok (nodeAt_eq_ok hnode).1
  obtain ⟨more, hmore, hnames⟩ := exists_parent (d := d) h
  rw [hnames, follow_append] at hfollow
  cases hparent : d.follow [] (d.namesOf (parentPath path)) with
  | error cause => simp [hparent, Except.bind] at hfollow
  | ok p =>
      rw [hparent] at hfollow
      have hdirectory : d.find? p = some .directory := by
        cases more with
        | nil => exact absurd rfl hmore
        | cons name more => exact find?_of_follow_cons hfollow
      refine ⟨p, nodeAt_of_locate (locate_of_follow h (fun hmem => hnul ?_) hparent) hdirectory⟩
      obtain ⟨k, rest, hpath⟩ := exists_after_parent h
      rw [hpath]
      simp [hmem]

theorem ensureDirectory_eq_error {fault : DiskFault}
    (h : d.ensureDirectory path = (.error fault, d')) :
    d' = d ∧ ∀ place, d'.nodeAt path ≠ .ok (place, .directory) := by
  rw [ensureDirectory] at h
  split at h
  next => cases h
  next =>
    split_ifs at h with hstat
    · cases h
    · cases h
      refine ⟨rfl, fun place hnode => hstat ?_⟩
      rw [stat_of_nodeAt hnode, Except.toOption]

/-- After a failed attempt to make a directory the directory is not there. -/
theorem not_directory_of_failed {fault : DiskFault} {n : Nat}
    (h : d.makeDirectoriesFrom n path = (.error fault, d')) :
    ∀ place, d'.nodeAt path ≠ .ok (place, .directory) := by
  induction n generalizing path with
  | zero => exact (ensureDirectory_eq_error h).2
  | succ n ih =>
      rw [makeDirectoriesFrom] at h
      split at h
      next => cases h
      next content hstat =>
        cases h
        intro place hnode
        rw [stat_of_nodeAt hnode] at hstat
        cases hstat
      next =>
        dsimp only at h
        split at h
        next fault' made hparent =>
          cases h
          split_ifs at hparent with hempty
          · cases hparent
          · intro place hnode
            obtain ⟨p, hp⟩ := nodeAt_parent (by simpa using hempty) hnode
            exact ih hparent p hp
        next => exact (ensureDirectory_eq_error h).2

theorem namesOf_slashes (hpath : path ≠ "") (k : Nat) :
    d.namesOf (path ++ String.ofList (List.replicate k '/')) =
      d.namesOf path ++ List.replicate k "" := by
  have hrooted := SlashPath.isAbsolute_append hpath (String.ofList (List.replicate k '/'))
  cases habsolute : SlashPath.isAbsolute path with
  | true => rw [namesOf, namesOf, hrooted, habsolute, if_pos rfl, if_pos rfl,
      SlashPath.segments_slashes]
  | false =>
      rw [namesOf_relative habsolute, namesOf_relative (hrooted.trans habsolute),
        SlashPath.segments_slashes, List.append_assoc]

theorem front_of_ensureDirectory (hnone : d.find? q = none)
    (h : (d.ensureDirectory path).2.find? q ≠ none) :
    ∃ front, front <+: d.namesOf path ∧ d.follow [] front = .ok q := by
  rw [ensureDirectory] at h
  split at h
  next new hnew =>
    obtain ⟨place, hlocate, -, rfl⟩ := makeDirectory_eq_ok hnew
    obtain rfl : q = place := by
      by_contra hne
      rw [find?_put_of_ne hne] at h
      exact h hnone
    obtain ⟨hempty, -, hfollow⟩ := locate_eq_ok hlocate
    obtain ⟨k, hk⟩ := SlashPath.exists_slashes path
    refine ⟨_, ?_, hfollow⟩
    nth_rewrite 2 [hk]
    rw [namesOf_slashes hempty]
    exact List.prefix_append _ _
  next => split_ifs at h <;> exact absurd hnone h

theorem exists_front_of_made {n : Nat} (hnone : d.find? q = none)
    (h : (d.makeDirectoriesFrom n path).2.find? q ≠ none) :
    ∃ front e, front <+: d.namesOf path ∧ follow e [] front = .ok q := by
  induction n generalizing path with
  | zero =>
      obtain ⟨front, hfront, hfollow⟩ := front_of_ensureDirectory hnone h
      exact ⟨front, d, hfront, hfollow⟩
  | succ n ih =>
      obtain ⟨between, hbetween, hend⟩ := d.makeDirectoriesFrom_cases n path
      by_cases hmade : between.find? q = none
      · -- it was made last
        have hworking : between.workingDirectory = d.workingDirectory := by
          rcases hbetween with rfl | ⟨-, rfl⟩
          · rfl
          · exact (Grown.makeDirectoriesFrom d n _).working
        rcases hend with hend | hend
        · exact absurd hmade (hend ▸ h)
        · obtain ⟨front, hfront, hfollow⟩ := front_of_ensureDirectory hmade (hend ▸ h)
          exact ⟨front, between, namesOf_congr hworking path ▸ hfront, hfollow⟩
      · rcases hbetween with rfl | ⟨hparent, rfl⟩
        · exact absurd hnone hmade
        · obtain ⟨front, e, hfront, hfollow⟩ := ih hmade
          obtain ⟨more, -, hnames⟩ := exists_parent (d := d) hparent
          exact ⟨front, e, hnames ▸ hfront.trans (List.prefix_append _ more), hfollow⟩

theorem IsTree.free_of_missing {name : String} (htree : d.IsTree) (h : Grown d d')
    (hpath : ¬Returns (SlashPath.segments path))
    (hmissing : ∀ p, d.nodeAt path ≠ .ok (p, .directory)) (hlocate : d'.locate path = .ok place) :
    d.find? (place ++ [name]) = none := by
  obtain ⟨hempty, hnul, hfollow⟩ := locate_eq_ok hlocate
  obtain ⟨start, hopen, above, hnames, hstart⟩ := htree.exists_start path
  rw [namesOf_congr h.working, hnames, follow_append, h.follow hstart] at hfollow
  by_contra hne
  obtain ⟨node, hnode⟩ := Option.ne_none_iff_exists'.mp hne
  have hdirectory := htree.find?_above hnode (List.prefix_append place [name]) (by simp)
  have hthere := follow_of_not_returns hopen hpath (htree.isOpen hdirectory) hfollow
  refine hmissing place (nodeAt_of_locate (locate_of_follow hempty hnul ?_) hdirectory)
  rw [hnames, follow_append, hstart]
  exact hthere

theorem find?_of_front {front more : List String} (hopen : d.IsOpen p)
    (hfollow : d.follow [] (front ++ more) = .ok p) (hfront : d'.follow [] front = .ok q) :
    d.find? q = some .directory := by
  rw [follow_append] at hfollow
  cases hthere : d.follow [] front with
  | error cause => simp [hthere, Except.bind] at hfollow
  | ok r =>
      rw [hthere] at hfollow
      obtain rfl := follow_unique hfront hthere
      cases more with
      | nil =>
          cases hfollow
          exact hopen _ List.prefix_rfl
      | cons _ _ => exact find?_of_follow_cons hfollow

theorem free_of_made {name : String} (htree : d.IsTree)
    (hpath : ¬Returns (SlashPath.segments path))
    (hmissing : ∀ p, d.nodeAt path ≠ .ok (p, .directory)) (h : d.makeDirectories path = .ok d')
    (hlocate : d'.locate path = .ok place) : d'.find? (place ++ [name]) = none := by
  have hgrown := Grown.makeDirectories h
  have hbefore : d.find? (place ++ [name]) = none :=
    htree.free_of_missing hgrown hpath hmissing hlocate
  by_contra hmade
  have hafter : (d.makeDirectoriesFrom path.length path).2.find? (place ++ [name]) ≠ none := by
    rw [makeDirectoriesFrom_of_ok h]
    exact hmade
  obtain ⟨front, e, ⟨rest, hfront⟩, hreach⟩ := exists_front_of_made hbefore hafter
  obtain ⟨-, -, hfollow⟩ := locate_eq_ok hlocate
  rw [namesOf_congr hgrown.working, ← hfront, follow_append] at hfollow
  cases hnew : d'.follow [] front with
  | error cause => simp [hnew, Except.bind] at hfollow
  | ok q =>
      rw [hnew] at hfollow
      obtain rfl := follow_unique hreach hnew
      obtain ⟨start, hopen, above, hnames, hstart⟩ := htree.exists_start path
      rw [hnames] at hfront
      rcases List.append_eq_append_iff.mp hfront with ⟨more, habove, -⟩ | ⟨more, hmore, hsegs⟩
      · -- not on the way to where the path starts, where all was there before
        rw [find?_of_front hopen (habove ▸ hstart) hnew] at hbefore
        cases hbefore
      · -- and on the rest of the way it is not below the directory
        rw [hmore, follow_append, hgrown.follow hstart] at hnew
        rw [hsegs] at hpath
        exact not_below_itself place name (prefix_of_missing hopen hpath hbefore hnew hfollow)

end Making

end Disk

end ArchLint
