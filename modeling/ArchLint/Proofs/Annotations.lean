import ArchLint.DocTag
import ArchLint.Proofs.Distinct
import Mathlib.Data.List.Infix
import Mathlib.Data.List.TakeWhile
import Mathlib.Tactic.Choose

namespace ArchLint

namespace Text

section FirstAppearances

variable {α : Type} [BEq α] [LawfulBEq α]

/-- `merged` has the elements of `names`, without repetition and in the order of
their first appearance. -/
structure FirstAppearances (names merged : List α) : Prop where
  nodup : merged.Nodup
  mem_iff : ∀ a, a ∈ merged ↔ a ∈ names
  ordered : merged.Pairwise fun a b => names.idxOf a < names.idxOf b

theorem distinct_concat_of_mem {xs : List α} {x : α} (hx : x ∈ xs) :
    distinct (xs ++ [x]) = distinct xs := by
  rw [← mem_distinct, distinct, List.mem_reverse] at hx
  rw [distinct, List.foldl_append, List.foldl_cons, List.foldl_nil,
    if_pos (List.elem_iff.mpr hx), distinct]

theorem distinct_concat_of_notMem {xs : List α} {x : α} (hx : x ∉ xs) :
    distinct (xs ++ [x]) = distinct xs ++ [x] := by
  rw [← mem_distinct, distinct, List.mem_reverse] at hx
  rw [distinct, List.foldl_append, List.foldl_cons, List.foldl_nil,
    if_neg (List.elem_iff.not.mpr hx), distinct, List.reverse_cons]

theorem firstAppearances_distinct (names : List α) : FirstAppearances names (distinct names) := by
  refine ⟨nodup_distinct names, fun a => mem_distinct, ?_⟩
  induction names using List.reverseRecOn with
  | nil => exact .nil
  | append_singleton names x ih =>
      have hold : ∀ a ∈ distinct names, (names ++ [x]).idxOf a = names.idxOf a := fun a ha =>
        List.idxOf_append_of_mem (mem_distinct.mp ha)
      have hkept : (distinct names).Pairwise
          fun a b => (names ++ [x]).idxOf a < (names ++ [x]).idxOf b :=
        ih.imp_of_mem fun ha hb hab => by rwa [hold _ ha, hold _ hb]
      by_cases hx : x ∈ names
      · rwa [distinct_concat_of_mem hx]
      · rw [distinct_concat_of_notMem hx, List.pairwise_append]
        refine ⟨hkept, List.pairwise_singleton _ _, ?_⟩
        intro a ha b hb
        rw [List.mem_singleton.mp hb, hold a ha, List.idxOf_append_of_notMem hx]
        exact Nat.lt_add_right _ (List.idxOf_lt_length_iff.mpr (mem_distinct.mp ha))

theorem distinct_append_of_subset {xs ys : List α} (hsub : ∀ y ∈ ys, y ∈ xs) (zs : List α) :
    distinct (xs ++ ys ++ zs) = distinct (xs ++ zs) := by
  induction zs using List.reverseRecOn with
  | nil =>
      simp only [List.append_nil]
      induction ys using List.reverseRecOn with
      | nil => rw [List.append_nil]
      | append_singleton ys y ih =>
          rw [List.forall_mem_append, List.forall_mem_singleton] at hsub
          rw [← List.append_assoc, distinct_concat_of_mem (List.mem_append_left _ hsub.2),
            ih hsub.1]
  | append_singleton zs z ih =>
      have hmem : z ∈ xs ++ ys ++ zs ↔ z ∈ xs ++ zs := by
        simp only [List.mem_append]
        have := hsub z
        tauto
      rw [← List.append_assoc, ← List.append_assoc]
      by_cases hz : z ∈ xs ++ zs
      · rw [distinct_concat_of_mem (hmem.mpr hz), distinct_concat_of_mem hz, ih]
      · rw [distinct_concat_of_notMem (hmem.not.mpr hz), distinct_concat_of_notMem hz, ih]

end FirstAppearances

end Text

namespace DocTag

section Boundaries

variable {p : Char → Bool} {body body' rest rest' : List Char}

/-- Characters of a class do not go on into this text. -/
def IsBoundary (p : Char → Bool) (s : List Char) : Prop :=
  ∀ c ∈ s.head?, p c = false

theorem isBoundary_cons {c : Char} {s : List Char} : IsBoundary p (c :: s) ↔ p c = false := by
  simp [IsBoundary]

theorem isBoundary_dropWhile (p : Char → Bool) (s : List Char) : IsBoundary p (s.dropWhile p) := by
  intro c hc
  have := List.head?_dropWhile_not p s
  rw [Option.mem_def.mp hc] at this
  simpa using this

theorem takeWhile_append_of_boundary (hbody : ∀ c ∈ body, p c = true) (hrest : IsBoundary p rest) :
    (body ++ rest).takeWhile p = body := by
  rw [List.takeWhile_append_of_pos hbody]
  cases rest with
  | nil => simp
  | cons c rest => simp [isBoundary_cons.mp hrest]

theorem dropWhile_append_of_boundary (hbody : ∀ c ∈ body, p c = true) (hrest : IsBoundary p rest) :
    (body ++ rest).dropWhile p = rest := by
  rw [List.dropWhile_append_of_pos hbody]
  cases rest with
  | nil => rfl
  | cons c rest => simp [isBoundary_cons.mp hrest]

theorem append_eq_of_boundary (hbody : ∀ c ∈ body, p c = true) (hbody' : ∀ c ∈ body', p c = true)
    (hrest : IsBoundary p rest) (hrest' : IsBoundary p rest') (h : body ++ rest = body' ++ rest') :
    body = body' ∧ rest = rest' := by
  constructor
  · rw [← takeWhile_append_of_boundary hbody hrest, h, takeWhile_append_of_boundary hbody' hrest']
  · rw [← dropWhile_append_of_boundary hbody hrest, h, dropWhile_append_of_boundary hbody' hrest']

end Boundaries

section Chains

/-- One or more type characters. -/
def IsRun (s : List Char) : Prop :=
  s ≠ [] ∧ ∀ c ∈ s, isTypeChar c = true

/-- White space, or nothing. -/
def IsGap (s : List Char) : Prop :=
  ∀ c ∈ s, isSpace c = true

/-- Runs of type characters joined by bars with gaps around them. -/
inductive IsChain : List Char → Prop
  | run {run : List Char} (hrun : IsRun run) : IsChain run
  | bar {run before after chain : List Char} (hrun : IsRun run) (hbefore : IsGap before)
      (hafter : IsGap after) (hchain : IsChain chain) :
      IsChain (run ++ (before ++ '|' :: (after ++ chain)))

/-- A chain at the start of a text, such that there is no longer one. -/
structure IsLongestChain (s chain : List Char) : Prop where
  isChain : IsChain chain
  front : chain <+: s
  longest : ∀ other, IsChain other → other <+: s → other.length ≤ chain.length

variable {run before after chain rest s : List Char}

theorem isTypeChar_of_isSpace {c : Char} (h : isSpace c = true) : isTypeChar c = false := by
  simp only [isSpace, Bool.or_eq_true, beq_iff_eq] at h
  rcases h with (((rfl | rfl) | rfl) | rfl) | rfl <;> decide

theorem isSpace_of_isTypeChar {c : Char} (h : isTypeChar c = true) : isSpace c = false := by
  by_contra hspace
  rw [isTypeChar_of_isSpace (by simpa using hspace)] at h
  cases h

theorem isBoundary_gap_bar (hbefore : IsGap before) (s : List Char) :
    IsBoundary isTypeChar (before ++ '|' :: s) := by
  cases before with
  | nil => exact isBoundary_cons.mpr (by decide)
  | cons c before =>
      exact isBoundary_cons.mpr (isTypeChar_of_isSpace (hbefore c List.mem_cons_self))

theorem isBoundary_bar (s : List Char) : IsBoundary isSpace ('|' :: s) :=
  isBoundary_cons.mpr (by decide)

theorem IsRun.isBoundary (hrun : IsRun run) (s : List Char) : IsBoundary isSpace (run ++ s) := by
  obtain ⟨c, run, rfl⟩ := List.exists_cons_of_ne_nil hrun.1
  exact isBoundary_cons.mpr (isSpace_of_isTypeChar (hrun.2 c List.mem_cons_self))

theorem IsChain.exists_run (h : IsChain chain) : ∃ run rest, IsRun run ∧ chain = run ++ rest := by
  cases h with
  | run hrun => exact ⟨chain, [], hrun, (List.append_nil chain).symm⟩
  | bar hrun => exact ⟨_, _, hrun, rfl⟩

theorem IsChain.isBoundary (h : IsChain chain) (s : List Char) :
    IsBoundary isSpace (chain ++ s) := by
  obtain ⟨run, rest, hrun, rfl⟩ := h.exists_run
  rw [List.append_assoc]
  exact hrun.isBoundary _

theorem exists_afterBar? {next : List Char} (h : afterBar? s = some next) :
    ∃ before after, IsGap before ∧ IsGap after ∧ s = before ++ '|' :: (after ++ next) ∧
      ∃ c ∈ next.head?, isTypeChar c = true := by
  rw [afterBar?] at h
  split at h
  · rename_i rest hbar
    split at h
    · rename_i c cs hnext
      split at h
      · rename_i hc
        cases h
        refine ⟨s.takeWhile isSpace, rest.takeWhile isSpace, fun _ => List.mem_takeWhile_imp,
          fun _ => List.mem_takeWhile_imp, ?_, c, rfl, hc⟩
        rw [← hnext, List.takeWhile_append_dropWhile, ← hbar, List.takeWhile_append_dropWhile]
      · cases h
    · cases h
  · cases h

theorem afterBar?_eq_some (hbefore : IsGap before) (hafter : IsGap after)
    (hchain : IsChain chain) (t : List Char) :
    afterBar? (before ++ '|' :: (after ++ (chain ++ t))) = some (chain ++ t) := by
  obtain ⟨run, rest, hrun, rfl⟩ := hchain.exists_run
  obtain ⟨c, run, rfl⟩ := List.exists_cons_of_ne_nil hrun.1
  have hnext := dropWhile_append_of_boundary hafter (hchain.isBoundary t)
  rw [afterBar?, dropWhile_append_of_boundary hbefore (isBoundary_bar _)]
  simp only [List.cons_append] at hnext ⊢
  rw [hnext]
  exact if_pos (hrun.2 c List.mem_cons_self)

theorem IsRun.length_le {other t : List Char} (hother : IsRun other) (hrun : IsRun run)
    (hrest : IsBoundary isTypeChar rest) (h : other ++ t = run ++ rest) :
    other.length ≤ run.length := by
  have htake := congrArg (List.takeWhile isTypeChar) h
  rw [takeWhile_append_of_boundary hrun.2 hrest, List.takeWhile_append_of_pos hother.2] at htake
  rw [← htake, List.length_append]
  exact Nat.le_add_right _ _

theorem IsRun.isLongestChain (hrun : IsRun run) (hrest : IsBoundary isTypeChar rest)
    (hbar : afterBar? rest = none) : IsLongestChain (run ++ rest) run := by
  refine ⟨.run hrun, List.prefix_append _ _, ?_⟩
  rintro other hother ⟨t, ht⟩
  cases hother with
  | run hother => exact hother.length_le hrun hrest ht
  | bar hother hbefore hafter hchain =>
      rw [List.append_assoc] at ht
      obtain ⟨-, hrest'⟩ := append_eq_of_boundary hother.2 hrun.2
        (by simpa using isBoundary_gap_bar hbefore _) hrest ht
      rw [← hrest', List.append_assoc, List.cons_append, List.append_assoc,
        afterBar?_eq_some hbefore hafter hchain] at hbar
      cases hbar

theorem IsLongestChain.isBoundary (h : IsLongestChain s chain) : IsBoundary isSpace s := by
  obtain ⟨t, rfl⟩ := h.front
  exact h.isChain.isBoundary t

theorem IsLongestChain.bar (hrun : IsRun run) (hbefore : IsGap before) (hafter : IsGap after)
    (h : IsLongestChain s chain) :
    IsLongestChain (run ++ (before ++ '|' :: (after ++ s)))
      (run ++ (before ++ '|' :: (after ++ chain))) := by
  refine ⟨.bar hrun hbefore hafter h.isChain, ?_, ?_⟩
  · obtain ⟨t, ht⟩ := h.front
    exact ⟨t, by simp [← ht]⟩
  · rintro other hother ⟨t, ht⟩
    cases hother with
    | run hother =>
        have hlength := hother.length_le hrun (isBoundary_gap_bar hbefore _) ht
        rw [List.length_append]
        omega
    | bar hother hbefore' hafter' hchain =>
        rw [List.append_assoc, List.append_assoc, List.cons_append, List.append_assoc] at ht
        obtain ⟨rfl, hbar⟩ := append_eq_of_boundary hother.2 hrun.2
          (isBoundary_gap_bar hbefore' _) (isBoundary_gap_bar hbefore _) ht
        obtain ⟨rfl, hnext⟩ := append_eq_of_boundary hbefore' hbefore
          (isBoundary_bar _) (isBoundary_bar _) hbar
        obtain ⟨rfl, htail⟩ := append_eq_of_boundary hafter' hafter (hchain.isBoundary t)
          h.isBoundary (List.cons.inj hnext).2
        have hlength := h.longest _ hchain ⟨t, htail⟩
        simp only [List.length_append, List.length_cons]
        omega

theorem IsLongestChain.unique {chain' : List Char} (h : IsLongestChain s chain)
    (h' : IsLongestChain s chain') : chain = chain' := by
  have hlength := Nat.le_antisymm (h'.longest chain h.isChain h.front)
    (h.longest chain' h'.isChain h'.front)
  exact (List.prefix_of_prefix_length_le h.front h'.front hlength.le).eq_of_length hlength

/-- The runs of a chain are what is left between its bars when white space is
deleted. -/
structure HasRuns (chain : List Char) (runs : List (List Char)) : Prop where
  ne_nil : runs ≠ []
  isRun : ∀ run ∈ runs, IsRun run
  filter : chain.filter (fun c => !isSpace c) = List.intercalate ['|'] runs

theorem IsRun.filter (hrun : IsRun run) : run.filter (fun c => !isSpace c) = run :=
  List.filter_eq_self.mpr fun c hc => by simp [isSpace_of_isTypeChar (hrun.2 c hc)]

theorem IsGap.filter (hgap : IsGap before) : before.filter (fun c => !isSpace c) = [] :=
  List.filter_eq_nil_iff.mpr fun c hc => by simp [hgap c hc]

theorem IsRun.hasRuns (hrun : IsRun run) : HasRuns run [run] := by
  refine ⟨List.cons_ne_nil _ _, ?_, ?_⟩
  · rwa [List.forall_mem_singleton]
  · rw [hrun.filter, List.intercalate_singleton]

theorem HasRuns.bar {runs : List (List Char)} (hrun : IsRun run) (hbefore : IsGap before)
    (hafter : IsGap after) (h : HasRuns chain runs) :
    HasRuns (run ++ (before ++ '|' :: (after ++ chain))) (run :: runs) := by
  refine ⟨List.cons_ne_nil _ _, List.forall_mem_cons.mpr ⟨hrun, h.isRun⟩, ?_⟩
  obtain ⟨next, runs, rfl⟩ := List.exists_cons_of_ne_nil h.ne_nil
  have hbar : (!isSpace '|') = true := by decide
  simp only [List.filter_append, List.filter_cons, hbar, if_true, hrun.filter, hbefore.filter,
    hafter.filter, h.filter, List.intercalate_cons_cons, List.nil_append, List.append_assoc,
    List.cons_append]

/-- The search for bars finds the longest chain. -/
theorem exists_isLongestChain (n : Nat) {s : List Char} (hn : s.length ≤ n)
    (hs : ∃ c ∈ s.head?, isTypeChar c = true) :
    ∃ chain, IsLongestChain s chain ∧ HasRuns chain (typeChain n s).1 ∧
      s = chain ++ (typeChain n s).2 := by
  induction n generalizing s with
  | zero =>
      rw [List.length_eq_zero_iff.mp (Nat.le_zero.mp hn)] at hs
      simp at hs
  | succ n ih =>
      have hrun : IsRun (s.takeWhile isTypeChar) := by
        refine ⟨?_, fun _ => List.mem_takeWhile_imp⟩
        obtain ⟨c, hc, htype⟩ := hs
        obtain ⟨cs, rfl⟩ := List.head?_eq_some_iff.mp hc
        simp [htype]
      have hsplit := List.takeWhile_append_dropWhile (p := isTypeChar) (l := s)
      rw [typeChain]
      dsimp only
      split
      · rename_i next hnext
        obtain ⟨before, after, hbefore, hafter, hrest, htype⟩ := exists_afterBar? hnext
        have hlength : next.length ≤ n := by
          have := congrArg List.length hsplit
          simp only [hrest, List.length_append, List.length_cons] at this
          omega
        obtain ⟨chain, hlongest, hruns, heq⟩ := ih hlength htype
        refine ⟨_, ?_, hruns.bar hrun hbefore hafter, ?_⟩
        · have := hlongest.bar hrun hbefore hafter
          rwa [← hrest, hsplit] at this
        · rw [List.append_assoc, List.append_assoc, List.cons_append, List.append_assoc, ← heq,
            ← hrest, hsplit]
      · rename_i hnone
        refine ⟨_, ?_, hrun.hasRuns, hsplit.symm⟩
        have := hrun.isLongestChain (isBoundary_dropWhile isTypeChar s) hnone
        rwa [hsplit] at this

end Chains

section Search

variable {tag s rest : List Char} {runs : List (List Char)}

/-- An annotation at the start of a text, with the longest chain of types behind
the tag and white space. -/
def IsAnnotationAt (tag s chain : List Char) : Prop :=
  ∃ word gap rest, s = '@' :: (word ++ (gap ++ rest)) ∧
    List.Forall₂ (fun w c => Text.sameUpToCase w c = true) tag word ∧
    gap ≠ [] ∧ IsGap gap ∧ IsLongestChain rest chain

theorem afterWord?_eq_some_iff : afterWord? tag s = some rest ↔
    ∃ word, s = word ++ rest ∧ List.Forall₂ (fun w c => Text.sameUpToCase w c = true) tag word := by
  induction tag generalizing s with
  | nil => simp only [afterWord?, Option.some.injEq, List.forall₂_nil_left_iff, exists_eq_right,
      List.nil_append]
  | cons w ws ih =>
      cases s with
      | nil => simp [afterWord?, List.forall₂_cons_left_iff]
      | cons c cs =>
          simp only [List.forall₂_cons_left_iff]
          rw [afterWord?]
          split
          · rename_i hsame
            rw [ih]
            constructor
            · rintro ⟨word, rfl, hword⟩
              exact ⟨c :: word, rfl, c, word, hsame, hword, rfl⟩
            · rintro ⟨_, hs, c', word, -, hword, rfl⟩
              exact ⟨word, (List.cons.inj hs).2, hword⟩
          · rename_i hdifferent
            refine ⟨fun h => (Option.some_ne_none _ h.symm).elim, ?_⟩
            rintro ⟨_, hs, c', word, hsame, -, rfl⟩
            rw [(List.cons.inj hs).1] at hdifferent
            exact absurd hsame hdifferent

theorem exists_atStart? {found : List (List Char) × List Char} (h : atStart? tag s = some found) :
    ∃ word gap rest, s = '@' :: (word ++ (gap ++ rest)) ∧
      List.Forall₂ (fun w c => Text.sameUpToCase w c = true) tag word ∧ gap ≠ [] ∧ IsGap gap ∧
      (∃ c ∈ rest.head?, isTypeChar c = true) ∧ found = typeChain rest.length rest := by
  rw [atStart?.eq_def] at h
  split at h
  · rename_i s
    rw [Option.bind_eq_bind, Option.bind_eq_some_iff] at h
    obtain ⟨t, hafter, h⟩ := h
    obtain ⟨word, rfl, hword⟩ := afterWord?_eq_some_iff.mp hafter
    dsimp only at h
    split at h
    · cases h
    · rename_i hlength
      split at h
      · rename_i c cs hrest
        split at h
        · rename_i htype
          cases h
          refine ⟨word, t.takeWhile isSpace, c :: cs, ?_, hword, ?_,
            fun _ => List.mem_takeWhile_imp, ⟨c, rfl, htype⟩, rfl⟩
          · rw [← hrest, List.takeWhile_append_dropWhile]
          · intro hnil
            apply hlength
            have := congrArg List.length (List.takeWhile_append_dropWhile (p := isSpace) (l := t))
            rwa [hnil, List.nil_append] at this
        · cases h
      · cases h
  · cases h

theorem atStart?_eq_some {word gap : List Char}
    (hword : List.Forall₂ (fun w c => Text.sameUpToCase w c = true) tag word) (hne : gap ≠ [])
    (hgap : IsGap gap) (hrest : ∃ c ∈ rest.head?, isTypeChar c = true) :
    atStart? tag ('@' :: (word ++ (gap ++ rest))) = some (typeChain rest.length rest) := by
  obtain ⟨c, hc, htype⟩ := hrest
  obtain ⟨cs, rfl⟩ := List.head?_eq_some_iff.mp hc
  have hdrop : (gap ++ c :: cs).dropWhile isSpace = c :: cs :=
    dropWhile_append_of_boundary hgap (isBoundary_cons.mpr (isSpace_of_isTypeChar htype))
  have hlength : cs.length + 1 ≠ (gap ++ c :: cs).length := by
    have := List.length_pos_iff.mpr hne
    rw [List.length_append, List.length_cons]
    omega
  rw [atStart?, afterWord?_eq_some_iff.mpr ⟨word, rfl, hword⟩]
  simp only [Option.bind_eq_bind, Option.bind_some, hdrop, List.length_cons, if_neg hlength, htype,
    if_true]

variable {chain chain' : List Char} {found : List (List Char) × List Char}

theorem IsLongestChain.exists_head (h : IsLongestChain s chain) :
    ∃ c ∈ s.head?, isTypeChar c = true := by
  obtain ⟨t, rfl⟩ := h.front
  obtain ⟨run, rest, hrun, rfl⟩ := h.isChain.exists_run
  obtain ⟨c, run, rfl⟩ := List.exists_cons_of_ne_nil hrun.1
  exact ⟨c, rfl, hrun.2 c List.mem_cons_self⟩

theorem IsAnnotationAt.unique (h : IsAnnotationAt tag s chain) (h' : IsAnnotationAt tag s chain') :
    chain = chain' := by
  obtain ⟨word, gap, rest, rfl, hword, -, hgap, hlongest⟩ := h
  obtain ⟨word', gap', rest', heq, hword', -, hgap', hlongest'⟩ := h'
  obtain ⟨rfl, hgaps⟩ := List.append_inj (List.cons.inj heq).2
    (hword.length_eq.symm.trans hword'.length_eq)
  obtain ⟨-, rfl⟩ :=
    append_eq_of_boundary hgap hgap' hlongest.isBoundary hlongest'.isBoundary hgaps
  exact hlongest.unique hlongest'

theorem IsAnnotationAt.exists_atStart? (h : IsAnnotationAt tag s chain) :
    ∃ found, atStart? tag s = some found := by
  obtain ⟨word, gap, rest, rfl, hword, hne, hgap, hlongest⟩ := h
  exact ⟨_, atStart?_eq_some hword hne hgap hlongest.exists_head⟩

theorem exists_isAnnotationAt (h : atStart? tag s = some found) :
    ∃ word gap chain, s = '@' :: (word ++ (gap ++ (chain ++ found.2))) ∧
      List.Forall₂ (fun w c => Text.sameUpToCase w c = true) tag word ∧ IsGap gap ∧
      IsChain chain ∧ IsAnnotationAt tag s chain ∧ HasRuns chain found.1 := by
  obtain ⟨word, gap, rest, rfl, hword, hne, hgap, hrest, rfl⟩ := DocTag.exists_atStart? h
  obtain ⟨chain, hlongest, hruns, heq⟩ := exists_isLongestChain rest.length le_rfl hrest
  exact ⟨word, gap, chain, by rw [← heq], hword, hgap, hlongest.isChain,
    ⟨word, gap, rest, rfl, hword, hne, hgap, hlongest⟩, hruns⟩

theorem IsChain.notMem_at (h : IsChain chain) : '@' ∉ chain := by
  have hrun : ∀ {run}, IsRun run → '@' ∉ run := fun hrun hmem =>
    absurd (hrun.2 '@' hmem) (by decide)
  have hgap : ∀ {gap}, IsGap gap → '@' ∉ gap := fun hgap hmem =>
    absurd (hgap '@' hmem) (by decide)
  induction h with
  | run h => exact hrun h
  | bar h hbefore hafter _ ih =>
      simp [hrun h, hgap hbefore, hgap hafter, ih]

/-- No annotation starts inside another one. -/
theorem exists_consumed (hmark : ∀ w ∈ tag, Text.sameUpToCase w '@' = false)
    (h : atStart? tag s = some found) :
    ∃ consumed, s = '@' :: (consumed ++ found.2) ∧ '@' ∉ consumed := by
  obtain ⟨word, gap, chain, rfl, hword, hgap, hchain, -, -⟩ := exists_isAnnotationAt h
  refine ⟨word ++ (gap ++ chain), by simp, ?_⟩
  · have hword' : '@' ∉ word := by
      intro hmem
      obtain ⟨i, hi, hc⟩ := List.mem_iff_getElem.mp hmem
      have hlt : i < tag.length := hword.length_eq ▸ hi
      have hsame := List.forall₂_iff_get.mp hword |>.2 i hlt hi
      simp only [List.get_eq_getElem, hc] at hsame
      rw [hmark _ (List.getElem_mem hlt)] at hsame
      cases hsame
    have hgap' : '@' ∉ gap := fun hmem => absurd (hgap '@' hmem) (by decide)
    simp [hword', hgap', hchain.notMem_at]

/-- The runs of the annotation at the start of a text, if there is one. -/
def runsAt (tag s : List Char) : List (List Char) :=
  (atStart? tag s).elim [] Prod.fst

theorem flatMap_tails_append {consumed : List Char} (h : '@' ∉ consumed) (s : List Char) :
    (consumed ++ s).tails.flatMap (runsAt tag) = s.tails.flatMap (runsAt tag) := by
  induction consumed with
  | nil => rfl
  | cons c consumed ih =>
      rw [List.mem_cons, not_or] at h
      obtain ⟨hc, hconsumed⟩ := h
      have hnone : runsAt tag (c :: (consumed ++ s)) = [] := by
        simp [runsAt, atStart?.eq_def, Ne.symm hc]
      rw [List.cons_append, List.tails_cons, List.flatMap_cons, hnone, List.nil_append,
        ih hconsumed]

theorem runs_eq (hmark : ∀ w ∈ tag, Text.sameUpToCase w '@' = false) (n : Nat)
    (hn : s.length ≤ n) : DocTag.runs tag n s = s.tails.flatMap (runsAt tag) := by
  induction n generalizing s with
  | zero =>
      rw [List.length_eq_zero_iff.mp (Nat.le_zero.mp hn)]
      rfl
  | succ n ih =>
      cases s with
      | nil => rfl
      | cons c cs =>
          rw [DocTag.runs, List.tails_cons, List.flatMap_cons, runsAt]
          cases hfound : atStart? tag (c :: cs) with
          | none => exact ih (by simpa using hn)
          | some found =>
              obtain ⟨consumed, heq, hconsumed⟩ := exists_consumed hmark hfound
              obtain ⟨-, rfl⟩ := List.cons.inj heq
              rw [flatMap_tails_append hconsumed]
              dsimp only [Option.elim]
              rw [ih (by simp only [List.length_cons, List.length_append] at hn; omega)]

end Search

section Names

variable {chain : List Char} {runs : List (List Char)}

/-- The text without the pairs of brackets with nothing between them, taken from
left to right. -/
def withoutBrackets : List Char → List Char
  | '[' :: ']' :: s => withoutBrackets s
  | c :: s => c :: withoutBrackets s
  | [] => []

/-- The types that a chain names: the nonempty pieces between its bars, when
first white space and then empty brackets are deleted. -/
def pieces (chain : List Char) : List String :=
  (((withoutBrackets (chain.filter fun c => !isSpace c)).splitOn '|').map String.ofList).filter
    fun name => !name.isEmpty

theorem withoutBrackets_cons {c : Char} {s : List Char} (h : c = '[' → s.head? ≠ some ']') :
    withoutBrackets (c :: s) = c :: withoutBrackets s := by
  refine withoutBrackets.eq_2 c s ?_
  rintro t hc rfl
  exact h hc rfl

theorem replaceLoop_brackets (n : Nat) {s : List Char} (hn : s.length ≤ n) :
    Text.replaceLoop ['[', ']'] [] n s = withoutBrackets s := by
  induction n generalizing s with
  | zero =>
      rw [List.length_eq_zero_iff.mp (Nat.le_zero.mp hn)]
      rfl
  | succ n ih =>
      rcases s with _ | ⟨c, s⟩
      · rfl
      · by_cases hpair : c = '[' ∧ s.head? = some ']'
        · obtain ⟨rfl, hs⟩ := hpair
          obtain ⟨s, rfl⟩ := List.head?_eq_some_iff.mp hs
          have hlength : s.length ≤ n := by
            simp only [List.length_cons] at hn
            omega
          simp [Text.replaceLoop, Text.afterPrefix?, withoutBrackets, ih hlength]
        · have hnone : Text.afterPrefix? ['[', ']'] (c :: s) = none := by
            cases s with
            | nil => simp [Text.afterPrefix?]
            | cons d s =>
                simp only [List.head?_cons, Option.some.injEq, not_and] at hpair
                simp only [Text.afterPrefix?]
                split
                · rename_i hc
                  rw [if_neg fun hd => hpair hc.symm hd.symm]
                · rfl
          rw [withoutBrackets_cons (not_and.mp hpair), Text.replaceLoop, hnone]
          simp only [ih (Nat.le_of_succ_le_succ hn)]

theorem withoutBrackets_append_bar (s t : List Char) :
    withoutBrackets (s ++ '|' :: t) = withoutBrackets s ++ '|' :: withoutBrackets t := by
  fun_induction withoutBrackets s with
  | case1 s ih => exact ih
  | case2 c s hpair ih =>
      rw [List.cons_append, withoutBrackets_cons, ih, List.cons_append]
      intro hc
      cases s with
      | nil => simp
      | cons d s => exact fun hd => hpair s hc (by simpa using hd)
  | case3 => rfl

theorem mem_of_mem_withoutBrackets {c : Char} {s : List Char} (h : c ∈ withoutBrackets s) :
    c ∈ s := by
  fun_induction withoutBrackets s with
  | case1 s ih => exact List.mem_cons_of_mem _ (List.mem_cons_of_mem _ (ih h))
  | case2 d s _ ih =>
      rcases List.mem_cons.mp h with rfl | h
      · exact List.mem_cons_self
      · exact List.mem_cons_of_mem _ (ih h)
  | case3 => exact h

theorem withoutBrackets_intercalate (runs : List (List Char)) :
    withoutBrackets (List.intercalate ['|'] runs) =
      List.intercalate ['|'] (runs.map withoutBrackets) := by
  induction runs with
  | nil => rfl
  | cons run runs ih =>
      cases runs with
      | nil => simp
      | cons next runs =>
          rw [List.intercalate_cons_cons, List.append_assoc, List.singleton_append,
            withoutBrackets_append_bar, ih]
          simp [List.intercalate_cons_cons]

theorem HasRuns.pieces_eq (h : HasRuns chain runs) : pieces chain =
    (runs.map fun run => String.ofList (Text.replaceLoop ['[', ']'] [] run.length run)).filter
      fun name => !name.isEmpty := by
  have hbar : ∀ piece ∈ runs.map withoutBrackets, '|' ∉ piece := by
    rw [List.forall_mem_map]
    intro run hrun hmem
    exact absurd ((h.isRun run hrun).2 '|' (mem_of_mem_withoutBrackets hmem)) (by decide)
  have hnames : ∀ run : List Char,
      Text.replaceLoop ['[', ']'] [] run.length run = withoutBrackets run :=
    fun run => replaceLoop_brackets run.length le_rfl
  rw [pieces, h.filter, withoutBrackets_intercalate,
    List.splitOn_intercalate _ hbar (by simpa using h.ne_nil), List.map_map]
  simp only [hnames, Function.comp_def]

end Names

theorem notSame_at (tag : DocTag) : ∀ w ∈ tag.word.toList, Text.sameUpToCase w '@' = false := by
  have hall : tag.word.toList.all (fun w => !Text.sameUpToCase w '@') = true := by
    cases tag <;> decide
  exact fun w hw => by simpa using List.all_eq_true.mp hall w hw

/-- What annotations of a tag name is read off the longest chains of types behind
all places where the tag is marked. Results of several strategies are merged in
the same way, so that repeating a strategy changes nothing. -/
theorem types_of_annotations :
    (∀ tag : DocTag, ∃ chainAt : List Char → Option (List Char),
      (∀ s chain, chainAt s = some chain ↔ IsAnnotationAt tag.word.toList s chain) ∧
      ∀ text : String, Text.FirstAppearances
        (text.toList.tails.flatMap fun s => (chainAt s).elim [] pieces) (types tag text)) ∧
    (∀ strategies text, Text.FirstAppearances (strategies.flatMap fun parse => parse text)
      (merge strategies text)) ∧
    (∀ tags text, union tags text = merge (tags.map types) text) ∧
    ∀ front parse back text, parse ∈ front →
      merge (front ++ parse :: back) text = merge (front ++ back) text := by
  refine ⟨?_, fun _ _ => Text.firstAppearances_distinct _, fun _ _ => rfl, ?_⟩
  · intro tag
    have hchain : ∀ s, ∃ chain?, (∀ chain, chain? = some chain ↔
        IsAnnotationAt tag.word.toList s chain) ∧ chain?.elim [] pieces =
          ((runsAt tag.word.toList s).map fun run =>
            String.ofList (Text.replaceLoop ['[', ']'] [] run.length run)).filter
              fun name => !name.isEmpty := by
      intro s
      cases hfound : atStart? tag.word.toList s with
      | none =>
          refine ⟨none, fun chain => ⟨fun h => (Option.some_ne_none _ h.symm).elim, fun h => ?_⟩,
            by simp [runsAt, hfound]⟩
          obtain ⟨found, hsome⟩ := h.exists_atStart?
          rw [hfound] at hsome
          cases hsome
      | some found =>
          obtain ⟨-, -, chain, -, -, -, -, hmarked, hruns⟩ := exists_isAnnotationAt hfound
          refine ⟨some chain, fun chain' => ⟨?_, ?_⟩, ?_⟩
          · rintro ⟨⟩
            exact hmarked
          · exact fun h => congrArg some (hmarked.unique h)
          · simp only [runsAt, hfound, Option.elim_some, hruns.pieces_eq]
    choose chainAt hspec hpieces using hchain
    refine ⟨chainAt, hspec, fun text => ?_⟩
    have htypes : types tag text =
        Text.distinct (text.toList.tails.flatMap fun s => (chainAt s).elim [] pieces) := by
      rw [types]
      simp only [runs_eq (notSame_at tag) _ le_rfl, hpieces, List.map_flatMap, List.filter_flatMap]
    rw [htypes]
    exact Text.firstAppearances_distinct _
  · intro front parse back text hparse
    rw [merge, merge, List.flatMap_append, List.flatMap_append, List.flatMap_cons,
      ← List.append_assoc]
    refine Text.distinct_append_of_subset (fun name hname => ?_) _
    exact List.mem_flatMap.mpr ⟨parse, hparse, hname⟩

/-- A text with two annotations that share a type. -/
def returns : String :=
  "@Return B |\nA[]\n@return A|C"

theorem types_of_annotations_repeated :
    (∃ chainAt : List Char → Option (List Char),
      (∀ s chain, chainAt s = some chain ↔ IsAnnotationAt DocTag.return.word.toList s chain) ∧
      (∃ chain, chainAt returns.toList = some chain ∧ pieces chain = ["B", "A"]) ∧
      Text.FirstAppearances (returns.toList.tails.flatMap fun s => (chainAt s).elim [] pieces)
        ["B", "A", "C"]) ∧
      merge [types .return, types .return] returns = ["B", "A", "C"] := by
  obtain ⟨hchains, -, -, hrepeated⟩ := types_of_annotations
  obtain ⟨chainAt, hspec, happearances⟩ := hchains .return
  have htypes : types .return returns = ["B", "A", "C"] := by decide +kernel
  have honce : merge [types .return] returns = ["B", "A", "C"] := by decide +kernel
  have hfound : atStart? DocTag.return.word.toList returns.toList =
      some (["B".toList, "A[]".toList], "\n@return A|C".toList) := by
    decide +kernel
  obtain ⟨-, -, chain, -, -, -, -, hmarked, hruns⟩ := exists_isAnnotationAt hfound
  have hpieces : pieces chain = ["B", "A"] := by
    rw [hruns.pieces_eq]
    decide +kernel
  exact ⟨⟨chainAt, hspec, ⟨chain, (hspec _ chain).mpr hmarked, hpieces⟩,
    htypes ▸ happearances returns⟩,
    (hrepeated [types .return] _ [] _ (List.mem_singleton_self _)).trans honce⟩

end DocTag

end ArchLint
