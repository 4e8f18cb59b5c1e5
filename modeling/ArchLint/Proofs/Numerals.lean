import ArchLint.ReportStore
import Mathlib.Data.List.Basic
import Mathlib.Data.List.TakeWhile

namespace ArchLint

namespace Number

theorem natOfDigits_toDigits (n : Nat) : natOfDigits (Nat.toDigits 10 n) = n :=
  Nat.ofDigitChars_ten_toDigits

theorem isDigit_of_mem_digits {n : Nat} {c : Char} (hc : c ∈ Nat.toDigits 10 n) :
    c.isDigit = true :=
  Nat.isDigit_of_mem_toDigits (by decide) (by decide) hc

theorem head?_digits {n : Nat} (hn : 0 < n) : (Nat.toDigits 10 n).head? ≠ some '0' := by
  induction n using Nat.strongRecOn with
  | ind n ih =>
      by_cases hsmall : n < 10
      · rw [Nat.toDigits_of_lt_base hsmall]
        simp
        omega
      · rw [Nat.toDigits_of_base_le (by decide) (by omega)]
        have hhead := ih (n / 10) (by omega) (by omega)
        rw [List.head?_append_of_ne_nil]
        · exact hhead
        · exact Nat.toDigits_ne_nil

theorem toList_toString (n : Int) :
    (toString n).toList = (if n < 0 then ['-'] else []) ++ Nat.toDigits 10 n.natAbs := by
  rw [Int.toString_eq_repr, Int.repr_eq_if]
  by_cases hn : n < 0
  · have habs : (-n).toNat = n.natAbs := by omega
    rw [if_neg (by omega), if_pos hn, habs, String.toList_append, Nat.toList_repr]
    rfl
  · have habs : n.toNat = n.natAbs := by omega
    rw [if_pos (by omega), if_neg hn, habs, Nat.toList_repr, List.nil_append]

theorem splitSign_toString (plus : Bool) (n : Int) :
    splitSign plus (toString n).toList = (decide (n < 0), Nat.toDigits 10 n.natAbs) := by
  rw [toList_toString]
  by_cases hn : n < 0
  · simp [hn, splitSign]
  · obtain ⟨c, cs, hcs⟩ := List.exists_cons_of_ne_nil (Nat.toDigits_ne_nil (n := n.natAbs) (b := 10))
    have hc : c.isDigit = true := isDigit_of_mem_digits (hcs ▸ List.mem_cons_self)
    have hminus : c ≠ '-' := by
      rintro rfl
      exact absurd hc (by decide)
    have hplus : c ≠ '+' := by
      rintro rfl
      exact absurd hc (by decide)
    simp [hn, hcs, splitSign, hminus, hplus]

theorem signed_natAbs (n : Int) : (if n < 0 then -(n.natAbs : Int) else n.natAbs) = n := by
  split_ifs <;> omega

end Number

namespace Json

theorem updateInt_ofInt {n : Int} (hn : Number.isInt64 n = true) (old : Int) :
    updateInt old (.ofInt n) = some n := by
  have hempty : (Nat.toDigits 10 n.natAbs).isEmpty = false := by
    simp
  have hdigits : (Nat.toDigits 10 n.natAbs).all Char.isDigit = true :=
    List.all_eq_true.mpr fun c hc => Number.isDigit_of_mem_digits hc
  simp only [ofInt, updateInt, intOfText?, Number.splitSign_toString, hempty, hdigits,
    Number.natOfDigits_toDigits, decide_eq_true_eq, Number.signed_natAbs, hn, Bool.not_true,
    Bool.or_self, Bool.false_eq_true, if_false, if_true]

end Json

namespace Yaml

open Number (isDigit_of_mem_digits)

theorem digits?_toDigits (n : Nat) : digits? 10 (Nat.toDigits 10 n) = some n := by
  have hdigit : ∀ c : Char, c.isDigit = true →
      Text.hexDigit? c = some (c.toNat - '0'.toNat) ∧ c.toNat - '0'.toNat < 10 := by
    intro c hc
    have hbounds : 48 ≤ c.toNat ∧ c.toNat ≤ 57 := by
      simpa [Char.isDigit, UInt32.le_iff_toNat_le] using hc
    have hzero : '0'.toNat = 48 := rfl
    exact ⟨if_pos hbounds, by omega⟩
  have hfold : ∀ (ds : List Char) (k : Nat), (∀ c ∈ ds, c.isDigit = true) →
      ds.foldlM (fun n d => (Text.hexDigit? d).bind fun k =>
        if k < 10 then some (10 * n + k) else none) k = some (Nat.ofDigitChars 10 ds k) := by
    intro ds
    induction ds with
    | nil => exact fun k _ => rfl
    | cons c ds ih =>
        intro k hds
        obtain ⟨hc, hds⟩ := List.forall_mem_cons.mp hds
        obtain ⟨hvalue, hlt⟩ := hdigit c hc
        rw [List.foldlM_cons, hvalue, Option.bind_some, if_pos hlt, Nat.ofDigitChars_cons]
        exact ih _ hds
  have hempty : (Nat.toDigits 10 n).isEmpty = false := by
    simp
  rw [digits?, hempty, if_neg Bool.false_ne_true, hfold _ 0 fun c hc => isDigit_of_mem_digits hc,
    Nat.ofDigitChars_ten_toDigits]

theorem magnitude?_toDigits (n : Nat) : magnitude? (Nat.toDigits 10 n) = some n := by
  rw [← digits?_toDigits n]
  rcases Nat.eq_zero_or_pos n with rfl | hn
  · rfl
  · have hhead := Number.head?_digits hn
    unfold magnitude?
    split
    next heq => simp [heq] at hhead
    next => rfl

theorem int?_toString {n : Int} (hn : Number.isInt64 n = true) :
    int? (toString n).toList = some n := by
  simp only [int?, Number.splitSign_toString, magnitude?_toDigits, Option.bind_some,
    decide_eq_true_eq, Number.signed_natAbs, hn, true_or, if_true]

theorem ofLooseText?_toString (n : Int) : Timestamp.ofLooseText? (toString n) = none := by
  rw [Timestamp.ofLooseText?, Number.toList_toString]
  by_cases hn : n < 0
  · simp [hn]
  · have hdigits : ∀ c ∈ Nat.toDigits 10 n.natAbs, c.isDigit = true :=
      fun c hc => isDigit_of_mem_digits hc
    have hall : (Nat.toDigits 10 n.natAbs).takeWhile Char.isDigit = Nat.toDigits 10 n.natAbs :=
      List.takeWhile_eq_self_iff.mpr hdigits
    simp only [hn, if_false, List.nil_append, hall]
    generalize Nat.toDigits 10 n.natAbs = ds at *
    split_ifs with hlength
    · rfl
    · -- nothing is left for the dash after the year
      have hdate : Timestamp.readDate true ds = none := by
        have hdrop : ds.drop 4 = [] := List.drop_eq_nil_of_le (by omega)
        simp [Timestamp.readDate, Timestamp.readDigits, hdrop, Timestamp.readChar]
      simp [Timestamp.readInstant, hdate, Timestamp.complete]

/-- A text that starts like a number is the number or time that it can be
read as. -/
theorem valueOf_of_numeric {text : String} {value : Value} {c : Char}
    (hnumeric : numeric? true text = some value) (hhead : text.toList.head? = some c)
    (hc : (c.isDigit || c == '+' || c == '-') = true) : valueOf true text = value := by
  have hwords : words.find? (·.1 == text) = none := by
    have hnone : ∀ w ∈ words, numeric? true w.1 = none := by decide
    rw [List.find?_eq_none]
    intro w hw hequal
    rw [← beq_iff_eq.mp hequal, hnone w hw] at hnumeric
    cases hnumeric
  have hdot : c ≠ '.' := by
    rintro rfl
    exact absurd hc (by decide)
  obtain ⟨cs, hcs⟩ := List.head?_eq_some_iff.mp hhead
  rw [valueOf, hwords, hcs]
  simp only [if_neg hdot, if_pos hc, hnumeric, Option.getD_some]

theorem valueOf_toString {n : Int} (hn : Number.isInt64 n = true) :
    valueOf true (toString n) = .int n := by
  have hchars : ∀ c ∈ (toString n).toList, c.isDigit = true ∨ c = '-' := by
    intro c hc
    rw [Number.toList_toString, List.mem_append] at hc
    rcases hc with hsign | hdigit
    · right
      split_ifs at hsign
      · exact List.mem_singleton.mp hsign
      · cases hsign
    · exact Or.inl (isDigit_of_mem_digits hdigit)
  have hplain : (toString n).toList.filter (· != '_') = (toString n).toList := by
    rw [List.filter_eq_self]
    intro c hc
    rw [bne_iff_ne]
    rintro rfl
    exact absurd (hchars '_' hc) (by decide)
  have hnumeric : numeric? true (toString n) = some (.int n) := by
    simp only [numeric?, ofLooseText?_toString, hplain, int?_toString hn, if_true, Option.map_none,
      Option.map_some, Option.none_or, Option.some_or]
  have hne : (toString n).toList ≠ [] := by
    rw [Number.toList_toString]
    exact List.append_ne_nil_of_right_ne_nil _ Nat.toDigits_ne_nil
  obtain ⟨c, cs, hcs⟩ := List.exists_cons_of_ne_nil hne
  refine valueOf_of_numeric hnumeric (by rw [hcs, List.head?_cons]) ?_
  rcases hchars c (hcs ▸ List.mem_cons_self) with h | h <;> simp [h]

theorem updateInt_ofInt {n : Int} (hn : Number.isInt64 n = true) (old : Int) :
    updateInt old (.ofInt n) = some n := by
  simp only [Node.ofInt, Node.ofWord, updateInt, updateScalar, Node.target?, Scalar.value?,
    if_true, valueOf_toString hn, hn]

end Yaml

/-- The whole numbers of a summary. -/
def Summary.integers (s : Summary) : List Int :=
  [s.modules, s.units, s.illegalModules, s.forbidden, s.leaks, s.cycles, s.distanceOverages]

/-- The whole numbers of a report. -/
def Report.integers (r : Report) : List Int :=
  r.version :: r.entries.map (·.units) ++ r.summary.integers

end ArchLint
