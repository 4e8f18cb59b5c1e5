import ArchLint.Proofs.ScannedUnits
import Mathlib.Data.List.Induction
import Mathlib.Data.List.Infix
import Mathlib.Data.List.TakeWhile

namespace ArchLint

theorem CodeUnit.declaredScope_eq_split (u : CodeUnit) (hscope : u.scope = "") :
    u.declaredScope = (Name.split u.name).1 := by
  have hempty : u.scope.isEmpty = true := by simp [hscope]
  simp only [declaredScope, splitName, hempty, if_true]
  split <;> rfl

namespace Name

open ArchLint.Text (IsCutAfter exists_isCutAfter)

theorem splitLastSlash_eq {front back : List Char} (h : IsCutAfter isSlash front back) :
    splitLastSlash (front ++ back) = (front, back) :=
  Prod.ext h.reverse_eq.1 h.reverse_eq.2

section Segments

variable {tail path : List Char} {scope middle symbol : List (List Char)}

/-- A major version such as `v3`. -/
def IsVersion (segment : List Char) : Prop :=
  ∃ d digits, segment = 'v' :: d :: digits ∧ ∀ c ∈ d :: digits, c.isDigit = true

theorem isVersionSuffix_iff {segment : List Char} :
    isVersionSuffix segment = true ↔ IsVersion segment := by
  unfold isVersionSuffix
  split
  next d digits =>
    rw [List.all_eq_true]
    constructor
    · intro h
      exact ⟨d, digits, rfl, h⟩
    · rintro ⟨_, _, heq, h⟩
      cases heq
      exact h
  next hother =>
    constructor
    · intro h
      cases h
    · rintro ⟨d, digits, rfl, -⟩
      exact absurd rfl (hother d digits)

instance (segment : List Char) : Decidable (IsVersion segment) :=
  decidable_of_iff _ isVersionSuffix_iff

theorem joinDots_append (hscope : scope ≠ []) (hsymbol : symbol ≠ []) :
    joinDots (scope ++ symbol) = joinDots scope ++ '.' :: joinDots symbol := by
  induction scope with
  | nil => exact absurd rfl hscope
  | cons s scope ih =>
      cases scope with
      | nil => simp [joinDots, List.intercalate_cons_of_ne_nil hsymbol]
      | cons s' scope =>
          have hrest := ih (List.cons_ne_nil _ _)
          simp only [joinDots, List.cons_append, List.intercalate_cons_cons] at hrest ⊢
          rw [hrest]
          simp

/-- The segments of a scope: one, or several of which the last is a version. -/
def IsScope (segments : List (List Char)) : Prop :=
  segments.length = 1 ∨ ∃ s stem v, segments = s :: stem ++ [v] ∧ isVersionSuffix v = true

theorem IsScope.ne_nil (h : IsScope scope) : scope ≠ [] := by
  rcases h with hone | ⟨s, stem, v, rfl, -⟩
  · apply List.ne_nil_of_length_pos
    omega
  · simp

theorem scopeSegments_append (hscope : IsScope scope)
    (hmiddle : ∀ s ∈ middle, isVersionSuffix s = false) (rest : List (List Char)) :
    scopeSegments (scope ++ middle ++ rest) (scope ++ middle).length = scope.length := by
  induction middle using List.reverseRecOn generalizing rest with
  | nil =>
      rw [List.append_nil]
      rcases hscope with hone | ⟨s, stem, v, rfl, hv⟩
      · rw [hone, scopeSegments]
      · have hlast : (s :: stem ++ [v] ++ rest)[stem.length + 1]? = some v := by simp
        have hlength : (s :: stem ++ [v]).length = stem.length + 2 := by simp
        rw [hlength, scopeSegments, hlast]
        simp [hv]
  | append_singleton middle s ih =>
      rw [List.forall_mem_append, List.forall_mem_singleton] at hmiddle
      have hpos := List.length_pos_iff.mpr hscope.ne_nil
      obtain ⟨n, hn⟩ : ∃ n, (scope ++ middle).length = n + 1 :=
        ⟨_, (Nat.succ_pred_eq_of_pos (by simp; omega)).symm⟩
      have hlast : (scope ++ (middle ++ [s]) ++ rest)[n + 1]? = some s := by
        rw [← List.append_assoc scope, List.append_assoc _ [s], ← hn, List.getElem?_append_right]
        · simp
        · exact Nat.le_refl _
      have hlength : (scope ++ (middle ++ [s])).length = n + 2 := by
        rw [← List.append_assoc, List.length_append, hn]
        rfl
      rw [hlength, scopeSegments, hlast, Option.getD_some, hmiddle.2, if_neg (by simp), ← hn,
        ← List.append_assoc scope, List.append_assoc _ [s]]
      exact ih hmiddle.1 _

/-- What stands behind the last slash of a name, as the dotted segments of its
scope and of its symbol. -/
structure IsDivided (tail : List Char) (scope symbol : List (List Char)) : Prop where
  segments : tail.splitOn '.' = scope ++ symbol
  isScope : IsScope scope
  nonempty : symbol ≠ []
  unversioned : ∀ s ∈ symbol.dropLast, isVersionSuffix s = false

namespace IsDivided

theorem tail_eq (h : IsDivided tail scope symbol) :
    tail = joinDots scope ++ '.' :: joinDots symbol := by
  rw [← joinDots_append h.isScope.ne_nil h.nonempty, ← h.segments]
  exact (List.intercalate_splitOn '.').symm

theorem scopeSegments_eq (h : IsDivided tail scope symbol) :
    scopeSegments (tail.splitOn '.') ((tail.splitOn '.').length - 1) = scope.length := by
  obtain ⟨middle, s, rfl⟩ := (List.eq_nil_or_concat' symbol).resolve_left h.nonempty
  have hmiddle : ∀ s ∈ middle, isVersionSuffix s = false := by
    intro s' hs'
    exact h.unversioned s' (by rwa [List.dropLast_concat])
  rw [h.segments, ← List.append_assoc, List.length_append]
  exact scopeSegments_append h.isScope hmiddle [s]

theorem one_lt_length (h : IsDivided tail scope symbol) : 1 < (tail.splitOn '.').length := by
  rw [h.segments, List.length_append]
  have hscope := List.length_pos_iff.mpr h.isScope.ne_nil
  have hsymbol := List.length_pos_iff.mpr h.nonempty
  omega

theorem splitTrimmed_eq (h : IsDivided tail scope symbol) (hcut : IsCutAfter isSlash path tail) :
    splitTrimmed (path ++ tail) = (path ++ joinDots scope, joinDots symbol) := by
  have hlength := h.one_lt_length
  simp only [splitTrimmed, splitLastSlash_eq hcut, if_neg (by omega : ¬(tail.splitOn '.').length = 1),
    h.scopeSegments_eq]
  rw [h.segments, List.take_left, List.drop_left]

end IsDivided

theorem exists_isScope {segments : List (List Char)} (hne : segments ≠ []) :
    ∃ scope middle, segments = scope ++ middle ∧ IsScope scope ∧
      ∀ s ∈ middle, isVersionSuffix s = false := by
  induction segments using List.reverseRecOn with
  | nil => exact absurd rfl hne
  | append_singleton segments v ih =>
      cases segments with
      | nil => exact ⟨[v], [], rfl, .inl rfl, by simp⟩
      | cons s stem =>
          cases hv : isVersionSuffix v with
          | true => exact ⟨s :: stem ++ [v], [], by simp, .inr ⟨s, stem, v, rfl, hv⟩, by simp⟩
          | false =>
              obtain ⟨scope, middle, hsegments, hscope, hmiddle⟩ := ih (List.cons_ne_nil _ _)
              refine ⟨scope, middle ++ [v], ?_, hscope, ?_⟩
              · rw [hsegments, List.append_assoc]
              · rw [List.forall_mem_append, List.forall_mem_singleton]
                exact ⟨hmiddle, hv⟩

theorem exists_isDivided (hdot : '.' ∈ tail) : ∃ scope symbol, IsDivided tail scope symbol := by
  obtain ⟨front, back, rfl⟩ := List.append_of_mem hdot
  have hsplit := List.splitOn_append_cons_self (a := '.') front back
  obtain ⟨middle, last, hback⟩ :=
    (List.eq_nil_or_concat' (back.splitOn '.')).resolve_left (List.splitOn_ne_nil _ _)
  obtain ⟨scope, rest, hsegments, hscope, hrest⟩ :=
    exists_isScope (List.append_ne_nil_of_left_ne_nil (List.splitOn_ne_nil '.' front) middle)
  refine ⟨scope, rest ++ [last], ?_, hscope, by simp, ?_⟩
  · rw [hsplit, hback, ← List.append_assoc, hsegments, List.append_assoc]
  · rwa [List.dropLast_concat]

theorem splitTrimmed_plain (hcut : IsCutAfter isSlash path tail) (hdot : '.' ∉ tail) :
    splitTrimmed (path ++ tail) = (path.dropLast, tail) := by
  simp only [splitTrimmed, splitLastSlash_eq hcut, List.splitOn_eq_singleton hdot,
    List.length_singleton, if_true]

end Segments

section Positions

variable {p : Char → Bool} {before back : List Char} {c : Char}

/-- The elements from one position up to another, if the list reaches that
far. -/
def slice? {α : Type} (xs : List α) (start stop : Nat) : Option (List α) :=
  if start ≤ stop ∧ stop ≤ xs.length then some ((xs.take stop).drop start) else none

theorem slice?_front {α : Type} (xs ys : List α) : slice? (xs ++ ys) 0 xs.length = some xs := by
  simp [slice?]

theorem slice?_back {α : Type} (xs ys : List α) :
    slice? (xs ++ ys) xs.length (xs ++ ys).length = some ys := by
  rw [slice?, if_pos ⟨by simp, Nat.le_refl _⟩, List.take_length, List.drop_left]

/-- The position of the last character of a class. -/
def lastPosition? (p : Char → Bool) : List Char → Option Nat
  | [] => none
  | c :: cs => ((lastPosition? p cs).map (· + 1)).or (if p c then some 0 else none)

theorem lastPosition?_eq_none (hback : ∀ c ∈ back, p c = false) : lastPosition? p back = none := by
  induction back with
  | nil => rfl
  | cons c back ih =>
      rw [List.forall_mem_cons] at hback
      simp [lastPosition?, ih hback.2, hback.1]

theorem lastPosition?_append_cons (hc : p c = true) (hback : ∀ c ∈ back, p c = false) :
    lastPosition? p (before ++ c :: back) = some before.length := by
  induction before with
  | nil => simp [lastPosition?, lastPosition?_eq_none hback, hc]
  | cons c' before ih => simp [lastPosition?, ih]

/-- The search for the end of the scope, which fails at a segment that does not
exist. -/
def scopeSegments? (segments : List (List Char)) : Nat → Option Nat
  | 0 => some 1
  | 1 => some 1
  | n + 2 => do
      let segment ← segments[n + 1]?
      if isVersionSuffix segment then some (n + 2) else scopeSegments? segments (n + 1)

theorem scopeSegments?_eq {segments : List (List Char)} {n : Nat} (hn : n ≤ segments.length) :
    scopeSegments? segments n = some (scopeSegments segments n) := by
  induction n with
  | zero => rfl
  | succ n ih =>
      cases n with
      | zero => rfl
      | succ n =>
          have hsegment := List.getElem?_eq_getElem (l := segments) (i := n + 1) (by omega)
          rw [scopeSegments?, scopeSegments, hsegment, ih (by omega)]
          simp only [Option.bind_eq_bind, Option.bind_some, Option.getD_some]
          split_ifs <;> rfl

/-- Cuts scope and symbol out of a name by positions, and fails at a position
outside of it. -/
def splitByPositions? (name : List Char) : Option (List Char × List Char) := do
  let slash := lastPosition? isSlash name
  let start := slash.elim 0 (· + 1)
  let segments := (← slice? name start name.length).splitOn '.'
  if segments.length = 1 then
    match slash with
    | none => return ([], name)
    | some i => return (← slice? name 0 i, ← slice? name (i + 1) name.length)
  else
    let count ← scopeSegments? segments (segments.length - 1)
    let cut := start + (joinDots (← slice? segments 0 count)).length
    return (← slice? name 0 cut, ← slice? name (cut + 1) name.length)

theorem slice?_around (before back : List Char) (c : Char) :
    slice? (before ++ c :: back) 0 before.length = some before ∧
      slice? (before ++ c :: back) (before.length + 1) (before ++ c :: back).length = some back := by
  refine ⟨slice?_front _ _, ?_⟩
  have hback := slice?_back (before ++ [c]) back
  rwa [List.append_assoc, List.length_append] at hback

theorem splitByPositions?_eq (t : List Char) : splitByPositions? t = some (splitTrimmed t) := by
  obtain ⟨path, tail, rfl, hcut⟩ := exists_isCutAfter isSlash t
  have hstart : (lastPosition? isSlash (path ++ tail)).elim 0 (· + 1) = path.length := by
    rcases List.eq_nil_or_concat' path with rfl | ⟨before, c, rfl⟩
    · rw [List.nil_append, lastPosition?_eq_none hcut.rest]
      rfl
    · rw [List.append_assoc, List.singleton_append,
        lastPosition?_append_cons (hcut.mark c (by simp)) hcut.rest]
      simp
  by_cases hdot : '.' ∈ tail
  · obtain ⟨scope, symbol, h⟩ := exists_isDivided hdot
    have hmany : ¬(tail.splitOn '.').length = 1 := by
      have := h.one_lt_length
      omega
    have hcount := (scopeSegments?_eq (Nat.sub_le _ 1)).trans (congrArg some h.scopeSegments_eq)
    have hscope : slice? (tail.splitOn '.') 0 scope.length = some scope := by
      rw [h.segments]
      exact slice?_front _ _
    obtain ⟨hfront, hback⟩ := slice?_around (path ++ joinDots scope) (joinDots symbol) '.'
    rw [List.append_assoc, ← h.tail_eq, List.length_append] at hfront hback
    rw [h.splitTrimmed_eq hcut]
    simp only [splitByPositions?, hstart, slice?_back, Option.bind_eq_bind, Option.bind_some,
      if_neg hmany, hcount, hscope, hfront, hback, Option.pure_def]
  · rw [splitTrimmed_plain hcut hdot]
    simp only [splitByPositions?, hstart, slice?_back, Option.bind_eq_bind, Option.bind_some,
      List.splitOn_eq_singleton hdot, List.length_singleton, if_true]
    rcases List.eq_nil_or_concat' path with rfl | ⟨before, c, rfl⟩
    · rw [List.nil_append, lastPosition?_eq_none hcut.rest]
      rfl
    · obtain ⟨hfront, hback⟩ := slice?_around before tail c
      rw [List.append_assoc, List.singleton_append,
        lastPosition?_append_cons (hcut.mark c (by simp)) hcut.rest]
      simp only [hfront, hback, Option.bind_some, Option.pure_def, List.dropLast_concat]

end Positions

section Separators

variable {name t : List Char}

theorem isSeparator_of_isSlash {c : Char} (h : isSlash c = true) : isSeparator c = true := by
  rw [isSlash, Bool.or_eq_true] at h
  rw [isSeparator]
  rcases h with h | h <;> simp [h]

theorem isSeparator_eq_false_iff {c : Char} :
    isSeparator c = false ↔ isSlash c = false ∧ c ≠ '.' := by
  simp only [isSeparator, isSlash, Bool.or_eq_false_iff, beq_eq_false_iff_ne]
  tauto

/-- What is left of a name without the separators at its ends. -/
structure IsStripped (name t : List Char) : Prop where
  around : ∃ front back, name = front ++ t ++ back ∧ (∀ c ∈ front, isSeparator c = true) ∧
    ∀ c ∈ back, isSeparator c = true
  head : ∀ c ∈ t.head?, isSeparator c = false
  last : ∀ c ∈ t.getLast?, isSeparator c = false

/-- A separator stands between other characters of the name. -/
def HasInnerSeparator (name : List Char) : Prop :=
  ∃ front c back, name = front ++ c :: back ∧ isSeparator c = true ∧
    (∃ a ∈ front, isSeparator a = false) ∧ ∃ b ∈ back, isSeparator b = false

theorem isStripped_trim (name : List Char) : IsStripped name (trim name) := by
  constructor
  · refine ⟨name.takeWhile isSeparator, (name.dropWhile isSeparator).rtakeWhile isSeparator, ?_,
      fun c hc => List.mem_takeWhile_imp hc, fun c hc => List.mem_rtakeWhile_imp hc⟩
    rw [List.append_assoc, trim, Text.trimWhile, Text.trimRightWhile_eq_rdropWhile,
      List.rdropWhile_append_rtakeWhile, List.takeWhile_append_dropWhile]
  · intro c hc
    have hhead := List.head?_dropWhile_not isSeparator (trim name)
    rw [trim, Text.dropWhile_trimWhile, ← trim, Option.mem_def.mp hc] at hhead
    exact hhead
  · intro c hc
    obtain ⟨hne, rfl⟩ := List.mem_getLast?_eq_getLast hc
    rw [← Bool.not_eq_true]
    exact List.rdropWhile_last_not isSeparator (name.dropWhile isSeparator) hne

theorem IsStripped.ne_nil {before after : List Char} {c : Char}
    (h : IsStripped name (before ++ c :: after)) (hc : isSeparator c = true) :
    before ≠ [] ∧ after ≠ [] := by
  constructor
  · rintro rfl
    exact Bool.false_ne_true ((h.head c (by simp)).symm.trans hc)
  · rintro rfl
    exact Bool.false_ne_true ((h.last c (by simp)).symm.trans hc)

theorem IsStripped.hasInnerSeparator_iff (h : IsStripped name t) :
    HasInnerSeparator name ↔ ∃ c ∈ t, isSeparator c = true := by
  obtain ⟨front, back, rfl, hfront, hback⟩ := h.around
  constructor
  · rintro ⟨before, c, after, heq, hc, ⟨a, ha, hane⟩, b, hb, hbne⟩
    have hnotBack : ∀ s, back ≠ s ++ c :: after := by
      rintro s rfl
      exact Bool.false_ne_true (hbne.symm.trans (hback b (by simp [hb])))
    have hnotFront : ∀ s, front ≠ before ++ s := by
      rintro s rfl
      exact Bool.false_ne_true (hane.symm.trans (hfront a (by simp [ha])))
    rcases List.append_eq_append_iff.mp heq with ⟨s, -, hs⟩ | ⟨s, hs, hafter⟩
    · exact absurd hs (hnotBack s)
    · cases s with
      | nil => exact absurd hafter.symm (hnotBack [])
      | cons d s =>
          obtain ⟨rfl, -⟩ := List.cons_eq_cons.mp hafter
          rcases List.append_eq_append_iff.mp hs with ⟨r, -, rfl⟩ | ⟨r, hr, -⟩
          · exact ⟨c, by simp, hc⟩
          · exact absurd hr (hnotFront r)
  · rintro ⟨c, hmem, hc⟩
    obtain ⟨before, after, rfl⟩ := List.append_of_mem hmem
    obtain ⟨hbefore, hafter⟩ := h.ne_nil hc
    obtain ⟨a, before, rfl⟩ := List.exists_cons_of_ne_nil hbefore
    obtain ⟨after, b, rfl⟩ := (List.eq_nil_or_concat' after).resolve_left hafter
    exact ⟨front ++ a :: before, c, after ++ [b] ++ back, by simp, hc,
      ⟨a, by simp, h.head a (by simp)⟩, b, by simp, h.last b (by simp [List.getLast?_cons])⟩

/-- A name without separators at its ends has a symbol only, or comes apart at
one separator. -/
theorem IsStripped.splitTrimmed_cases (h : IsStripped name t) :
    ((∀ c ∈ t, isSeparator c = false) ∧ splitTrimmed t = ([], t)) ∨
      ∃ scope mark symbol, splitTrimmed t = (scope, symbol) ∧ t = scope ++ mark :: symbol ∧
        isSeparator mark = true ∧ scope ≠ [] ∧ symbol ≠ [] ∧ ∀ c ∈ symbol, isSlash c = false := by
  obtain ⟨path, tail, ht, hcut⟩ := exists_isCutAfter isSlash t
  by_cases hdot : '.' ∈ tail
  · right
    obtain ⟨scope, symbol, hdivided⟩ := exists_isDivided hdot
    have hparts : t = path ++ joinDots scope ++ '.' :: joinDots symbol := by
      rw [List.append_assoc, ← hdivided.tail_eq, ht]
    obtain ⟨hscope, hsymbol⟩ := (hparts ▸ h).ne_nil rfl
    refine ⟨_, '.', _, ht ▸ hdivided.splitTrimmed_eq hcut, hparts, rfl, hscope, hsymbol, ?_⟩
    intro c hc
    apply hcut.rest
    rw [hdivided.tail_eq]
    exact List.mem_append_right _ (List.mem_cons_of_mem _ hc)
  · have hplain := splitTrimmed_plain hcut hdot
    rw [← ht] at hplain
    rcases List.eq_nil_or_concat' path with rfl | ⟨before, mark, rfl⟩
    · left
      rw [List.nil_append] at ht
      subst ht
      refine ⟨fun c hc => isSeparator_eq_false_iff.mpr ⟨hcut.rest c hc, ?_⟩, hplain⟩
      rintro rfl
      exact hdot hc
    · right
      have hmark := isSeparator_of_isSlash (hcut.mark mark (by simp))
      have hparts : t = before ++ mark :: tail := by
        rw [ht, List.append_assoc, List.singleton_append]
      obtain ⟨hscope, hsymbol⟩ := (hparts ▸ h).ne_nil hmark
      rw [List.dropLast_concat] at hplain
      exact ⟨before, mark, tail, hplain, hparts, hmark, hscope, hsymbol, hcut.rest⟩

theorem splitChars_toList (name : String) :
    splitChars name.toList = ((split name).1.toList, (split name).2.toList) := by
  simp only [split, String.toList_ofList]

theorem split_cases (name : String) :
    ((∀ c ∈ trim name.toList, isSeparator c = false) ∧
        split name = ("", String.ofList (trim name.toList))) ∨
      ∃ mark, trim name.toList = (split name).1.toList ++ mark :: (split name).2.toList ∧
        isSeparator mark = true ∧ (split name).1 ≠ "" ∧ (split name).2 ≠ "" ∧
        ∀ c ∈ (split name).2.toList, isSlash c = false := by
  rcases (isStripped_trim name.toList).splitTrimmed_cases with
    ⟨hplain, hsplit⟩ | ⟨scope, mark, symbol, hsplit, hparts, hmark, hscope, hsymbol, hslash⟩
  · left
    refine ⟨hplain, ?_⟩
    rw [split, splitChars, hsplit]
  · right
    rw [← splitChars, splitChars_toList, Prod.mk.injEq] at hsplit
    rw [← hsplit.1] at hparts hscope
    rw [← hsplit.2] at hparts hsymbol hslash
    exact ⟨mark, hparts, hmark, by simpa using hscope, by simpa using hsymbol, hslash⟩

theorem exists_short (name : String) : ∃ front, trim name.toList = front ++ (short name).toList ∧
    IsCutAfter isSeparator front (short name).toList := by
  obtain ⟨front, last, hsymbol, hcut⟩ := exists_isCutAfter (· == '.') (split name).2.toList
  have hshort : (short name).toList = last := by
    rw [short, String.toList_ofList, splitChars_toList, hsymbol]
    exact hcut.reverse_eq.2
  have hmarks : ∀ c ∈ front.getLast?, isSeparator c = true := by
    intro c hc
    rw [isSeparator, hcut.mark c hc, Bool.or_true]
  rw [hshort]
  rcases split_cases name with ⟨hplain, hsplit⟩ | ⟨mark, hparts, hmark, -, -, hslash⟩
  · -- without separators the whole name is its last segment
    have hname : trim name.toList = front ++ last := by
      rw [← hsymbol, hsplit, String.toList_ofList]
    rw [hname, List.forall_mem_append] at hplain
    exact ⟨front, hname, hmarks, hplain.2⟩
  · rw [hsymbol] at hparts hslash
    refine ⟨(split name).1.toList ++ mark :: front, by rw [hparts]; simp, ?_, ?_⟩
    · intro c hc
      rw [List.getLast?_append_cons, List.getLast?_cons] at hc
      cases hfront : front.getLast? with
      | none =>
          rw [hfront] at hc
          exact Option.some.inj hc ▸ hmark
      | some d =>
          rw [hfront] at hc
          exact hmarks c (hfront.trans hc)
    · intro c hc
      exact isSeparator_eq_false_iff.mpr
        ⟨hslash c (List.mem_append_right _ hc), by simpa using hcut.rest c hc⟩

theorem split_fst_eq_empty_iff (name : String) :
    (split name).1 = "" ↔ ∀ c ∈ trim name.toList, isSeparator c = false := by
  rcases split_cases name with ⟨hplain, hsplit⟩ | ⟨mark, hparts, hmark, hscope, -⟩
  · rw [hsplit]
    exact iff_of_true rfl hplain
  · refine iff_of_false hscope fun hplain => ?_
    exact Bool.false_ne_true ((hplain mark (by simp [hparts])).symm.trans hmark)

end Separators

/-- A name comes apart at a separator between its parts, if there is one, and
nothing but the separators at its ends is lost. No position is outside of the
name. -/
theorem split_exact (name : String) :
    IsStripped name.toList (trim name.toList) ∧
      splitByPositions? (trim name.toList) =
        some ((split name).1.toList, (split name).2.toList) ∧
      ((∀ c ∈ trim name.toList, isSeparator c = false) →
        split name = ("", String.ofList (trim name.toList))) ∧
      ((∃ c ∈ trim name.toList, isSeparator c = true) →
        (split name).1 ≠ "" ∧ (split name).2 ≠ "" ∧
          (∃ mark, isSeparator mark = true ∧
            trim name.toList = (split name).1.toList ++ mark :: (split name).2.toList) ∧
          ∀ c ∈ (split name).2.toList, isSlash c = false) ∧
      (∃ front, trim name.toList = front ++ (short name).toList ∧
        IsCutAfter isSeparator front (short name).toList) ∧
      ∀ u : CodeUnit, u.name = name → u.scope = "" → u.isPrimitive = false →
        (u.isGlobal = true ↔ ¬HasInnerSeparator name.toList) := by
  have hstripped := isStripped_trim name.toList
  refine ⟨hstripped, ?_, ?_, ?_, exists_short name, ?_⟩
  · rw [splitByPositions?_eq, ← splitChars, splitChars_toList]
  · intro hplain
    rcases split_cases name with ⟨-, hsplit⟩ | ⟨mark, hparts, hmark, -⟩
    · exact hsplit
    · exact absurd (hplain mark (by simp [hparts])) (by simp [hmark])
  · rintro ⟨c, hc, hseparator⟩
    rcases split_cases name with ⟨hplain, -⟩ | ⟨mark, hparts, hmark, hscope, hsymbol, hslash⟩
    · exact absurd (hplain c hc) (by simp [hseparator])
    · exact ⟨hscope, hsymbol, ⟨mark, hmark, hparts⟩, hslash⟩
  · rintro u rfl hscope hprimitive
    have hglobal : u.isGlobal = true ↔ (split u.name).1 = "" := by
      simp [CodeUnit.isGlobal, hprimitive, u.declaredScope_eq_split hscope]
    rw [hglobal, split_fst_eq_empty_iff, hstripped.hasInnerSeparator_iff]
    simp

/-- Mixed and repeated separators, with an empty segment behind a version. -/
theorem split_exact_repeated :
    (∃ c ∈ trim "\\app//core.v2..Service.Run.".toList, isSeparator c = true) ∧
      split "\\app//core.v2..Service.Run." = ("app//core.v2", ".Service.Run") ∧
      (∃ front, "app//core.v2..Service.Run".toList = front ++ "Run".toList ∧
        IsCutAfter isSeparator front "Run".toList) ∧
      ∀ u : CodeUnit, u.name = "\\app//core.v2..Service.Run." → u.scope = "" →
        u.isPrimitive = false → u.isGlobal = false := by
  have htrim : trim "\\app//core.v2..Service.Run.".toList = "app//core.v2..Service.Run".toList := by
    decide
  have hshort : short "\\app//core.v2..Service.Run." = "Run" := by decide
  have hseparator : ∃ c ∈ trim "\\app//core.v2..Service.Run.".toList, isSeparator c = true :=
    ⟨'/', by decide, by decide⟩
  obtain ⟨hstripped, -, -, -, hlast, hglobal⟩ := split_exact "\\app//core.v2..Service.Run."
  rw [htrim, hshort] at hlast
  refine ⟨hseparator, by decide, hlast, ?_⟩
  intro u hname hscope hprimitive
  rw [← Bool.not_eq_true, hglobal u hname hscope hprimitive, not_not]
  exact hstripped.hasInnerSeparator_iff.mpr hseparator

section Joined

variable {p s element : List Char}

/-- The path of a package that shows in a qualified name: its last element has
no dot, or ends in a version. -/
structure IsRecoverablePath (p : List Char) : Prop where
  nonempty : p ≠ []
  head : ∀ c ∈ p.head?, isSeparator c = false
  last : ∀ c ∈ p.getLast?, isSeparator c = false
  element : ∃ path element, p = path ++ element ∧ IsCutAfter isSlash path element ∧
    ('.' ∉ element ∨ ∃ stem v, element = stem ++ '.' :: v ∧ IsVersion v)

/-- A symbol of which no segment but the last can be taken for a version of its
package. -/
structure IsRecoverableSymbol (s : List Char) : Prop where
  nonempty : s ≠ []
  no_slash : ∀ c ∈ s, isSlash c = false
  last : '.' ∉ s.getLast?
  unversioned : ∀ segment ∈ (s.splitOn '.').dropLast, ¬IsVersion segment

theorem isScope_splitOn (h : '.' ∉ element ∨ ∃ stem v, element = stem ++ '.' :: v ∧ IsVersion v) :
    IsScope (element.splitOn '.') := by
  rcases h with hdot | ⟨stem, v, rfl, hv⟩
  · left
    rw [List.splitOn_eq_singleton hdot, List.length_singleton]
  · right
    have hdot : '.' ∉ v := by
      obtain ⟨d, digits, rfl, hdigits⟩ := hv
      intro hmem
      rcases List.mem_cons.mp hmem with hmem | hmem
      · exact absurd hmem (by decide)
      · exact absurd (hdigits '.' hmem) (by decide)
    obtain ⟨first, others, hstem⟩ :=
      List.exists_cons_of_ne_nil (List.splitOn_ne_nil '.' stem)
    refine ⟨first, others, v, ?_, isVersionSuffix_iff.mpr hv⟩
    rw [List.splitOn_append_cons_self, hstem, List.splitOn_eq_singleton hdot]

theorem IsRecoverableSymbol.isDivided (hs : IsRecoverableSymbol s)
    (hscope : IsScope (element.splitOn '.')) :
    IsDivided (element ++ '.' :: s) (element.splitOn '.') (s.splitOn '.') where
  segments := List.splitOn_append_cons_self _ _
  isScope := hscope
  nonempty := List.splitOn_ne_nil _ _
  unversioned segment hsegment := by
    rw [← Bool.not_eq_true, isVersionSuffix_iff]
    exact hs.unversioned segment hsegment

theorem trim_joined (hp : IsRecoverablePath p) (hs : IsRecoverableSymbol s) :
    trim (p ++ '.' :: s) = p ++ '.' :: s := by
  apply Text.trimWhile_eq_self
  · intro c hc
    rw [List.head?_append_of_ne_nil _ hp.nonempty] at hc
    exact hp.head c hc
  · intro c hc
    obtain ⟨front, d, rfl⟩ := (List.eq_nil_or_concat' s).resolve_left hs.nonempty
    obtain rfl : d = c := by simpa [List.getLast?_cons] using hc
    refine isSeparator_eq_false_iff.mpr ⟨hs.no_slash d (by simp), ?_⟩
    rintro rfl
    exact hs.last (by simp)

theorem splitChars_joined (hp : IsRecoverablePath p) (hs : IsRecoverableSymbol s) :
    splitChars (p ++ '.' :: s) = (p, s) := by
  obtain ⟨path, element, hparts, hcut, helement⟩ := hp.element
  have hdivided := hs.isDivided (isScope_splitOn helement)
  have hjoined : IsCutAfter isSlash path (element ++ '.' :: s) := by
    refine ⟨hcut.mark, ?_⟩
    rw [List.forall_mem_append, List.forall_mem_cons]
    exact ⟨hcut.rest, rfl, hs.no_slash⟩
  have hsplit := hdivided.splitTrimmed_eq hjoined
  rw [splitChars, trim_joined hp hs, hparts, List.append_assoc, hsplit]
  simp only [joinDots, List.intercalate_splitOn]

end Joined

/-- A qualified name comes apart where it was joined. Hence every unit that is
declared with such a name in this package suggests the package by its name, and
its name is foreign to exactly the other packages. -/
theorem split_joined {p s : String} (hp : IsRecoverablePath p.toList)
    (hs : IsRecoverableSymbol s.toList) :
    split (p ++ "." ++ s) = (p, s) ∧
      (∀ (before after : List Graph.Operation) (spec : UnitSpec), spec.scope = p →
        Text.trimBlank spec.name = p ++ "." ++ s →
        (∀ other, .declare other ∈ after → Text.trimBlank other.name = p ++ "." ++ s →
          other.scope = p) →
        ∃ u, (Graph.run (before ++ .declare spec :: after)).unit? (p ++ "." ++ s) = some u ∧
          u.scope = p ∧ u.declaredScope = p ∧ (split u.name).1 = p) ∧
      ∀ (g : Graph) (scope : String), Analysis.isLinkable g scope (p ++ "." ++ s) = true ↔
        (g.unitId? (p ++ "." ++ s)).isSome = true ∨ scope ≠ p := by
  have hsplit : split (p ++ "." ++ s) = (p, s) := by
    have hchars : (p ++ "." ++ s).toList = p.toList ++ '.' :: s.toList := by
      simp [String.toList_append]
    rw [split, hchars, splitChars_joined hp hs]
    simp
  refine ⟨hsplit, ?_, ?_⟩
  · rintro before after spec rfl hname hafter
    have hne : spec.scope ≠ "" := by
      have := hp.nonempty
      simpa using this
    have hsame : ∀ other, .declare other ∈ after →
        Text.trimBlank other.name = Text.trimBlank spec.name → other.scope = spec.scope := by
      intro other hother hothername
      exact hafter other hother (hothername.trans hname)
    obtain ⟨u, hu, huname, hscope⟩ := Graph.run_records before hne hsame
    rw [hname] at huname
    refine ⟨u, ?_, hscope, ?_, ?_⟩
    · exact (Graph.wellFormed_run _).units.lookup_eq_some_iff.mpr ⟨hu, huname⟩
    · exact (CodeUnit.declaredScope_eq (hscope ▸ hne) (hscope ▸ huname)).trans hscope
    · rw [huname, hsplit]
  · intro g scope
    rw [Analysis.isLinkable, hsplit, Bool.or_eq_true, bne_iff_ne, ne_comm]

/-- The path ends in a version, and so does the symbol. -/
theorem split_joined_versions :
    split "gopkg.in/yaml.v3.Client.v2" = ("gopkg.in/yaml.v3", "Client.v2") ∧
      (∃ u, (Graph.run [.declare { scope := "gopkg.in/yaml.v3", name := "gopkg.in/yaml.v3.Client.v2" },
          .link 0 "gopkg.in/yaml.v3.Client.v2"]).unit? "gopkg.in/yaml.v3.Client.v2" = some u ∧
        u.declaredScope = (split u.name).1) ∧
      Analysis.isLinkable Graph.empty "app" "gopkg.in/yaml.v3.Client.v2" = true := by
  have hp : IsRecoverablePath "gopkg.in/yaml.v3".toList :=
    ⟨by decide, by simp [isSeparator], by simp [isSeparator], "gopkg.in/".toList,
      "yaml.v3".toList, by decide, ⟨by simp [isSlash], by simp [isSlash]⟩,
      .inr ⟨"yaml".toList, "v3".toList, by decide, by decide⟩⟩
  have hs : IsRecoverableSymbol "Client.v2".toList :=
    ⟨by decide, by simp [isSlash], by simp, by decide⟩
  obtain ⟨hsplit, hunits, hlinkable⟩ := split_joined hp hs
  refine ⟨hsplit, ?_, (hlinkable _ _).mpr (.inr (by decide))⟩
  obtain ⟨u, hu, -, hscope, hname⟩ := hunits []
    [.link 0 "gopkg.in/yaml.v3.Client.v2"]
    { scope := "gopkg.in/yaml.v3", name := "gopkg.in/yaml.v3.Client.v2" } rfl (by decide) (by simp)
  exact ⟨u, hu, hscope.trans hname.symm⟩

end Name

end ArchLint
