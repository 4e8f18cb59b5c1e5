import ArchLint.Proofs.Numerals
import Mathlib.Data.List.DropRight

namespace ArchLint

namespace Timestamp

/-- A date and time that exists, in universal time and with a year of four
digits. -/
structure IsUniversal (t : Timestamp) : Prop where
  valid : t.isValid = true
  offset : t.offset = 0
  year : t.year ≤ 9999
  nanosecond : t.nanosecond < Nat.pow 10 9

theorem toList_padded (width n : Nat) :
    (padded width n).toList =
      List.replicate (width - (Nat.toDigits 10 n).length) '0' ++ Nat.toDigits 10 n := by
  simp [padded]

theorem isDigit_padded {width n : Nat} : ∀ c ∈ (padded width n).toList, c.isDigit = true := by
  intro c hc
  rw [toList_padded, List.mem_append] at hc
  rcases hc with hzero | hdigit
  · rw [List.eq_of_mem_replicate hzero]
    decide
  · exact Number.isDigit_of_mem_digits hdigit

theorem length_padded {width n : Nat} (hwidth : 0 < width) (hn : n < Nat.pow 10 width) :
    (padded width n).toList.length = width := by
  have hlength := (Nat.length_toDigits_le_iff (by decide) hwidth).mpr hn
  rw [toList_padded, List.length_append, List.length_replicate]
  omega

theorem ofDigitChars_padded (width n : Nat) :
    Nat.ofDigitChars 10 (padded width n).toList 0 = n := by
  rw [toList_padded, Nat.ofDigitChars_append, Nat.ofDigitChars_replicate_zero, Nat.mul_zero,
    Nat.ofDigitChars_ten_toDigits]

theorem readDigits_padded {width n : Nat} (hwidth : 0 < width) (hn : n < Nat.pow 10 width)
    (rest : List Char) : readDigits width ((padded width n).toList ++ rest) = some (n, rest) := by
  have hlength := length_padded hwidth hn
  have htake : ((padded width n).toList ++ rest).take width = (padded width n).toList :=
    List.take_left' hlength
  have hdrop : ((padded width n).toList ++ rest).drop width = rest := List.drop_left' hlength
  have hall : (padded width n).toList.all Char.isDigit = true :=
    List.all_eq_true.mpr isDigit_padded
  rw [readDigits, htake, hdrop]
  simp only [hlength, hall, true_and, if_true]
  rw [← Nat.ofDigitChars_eq_foldl, ofDigitChars_padded]

theorem readField_padded {n : Nat} (short : Bool) (hn : n < 100) (rest : List Char) :
    readField short ((padded 2 n).toList ++ rest) = some (n, rest) := by
  rw [readField, readDigits_padded (by decide) hn]

theorem readChar_self (c : Char) (rest : List Char) : readChar c (c :: rest) = some ((), rest) := by
  simp [readChar]

/-- The digits of a fraction are those of the padded number less its last
zeros. -/
theorem exists_zeros {n : Nat} (hn : n < Nat.pow 10 9) :
    ∃ ds k, Text.trimRightWhile (· == '0') (padded 9 n).toList = ds ∧ ds.length + k = 9 ∧
      (∀ c ∈ ds, c.isDigit = true) ∧ Nat.pow 10 k * Nat.ofDigitChars 10 ds 0 = n := by
  have hparts : (padded 9 n).toList.rdropWhile (· == '0') ++
      (padded 9 n).toList.rtakeWhile (· == '0') = (padded 9 n).toList :=
    List.rdropWhile_append_rtakeWhile
  obtain ⟨k, hzeros⟩ : ∃ k, (padded 9 n).toList.rtakeWhile (· == '0') = List.replicate k '0' :=
    ⟨_, List.eq_replicate_of_mem fun c hc => by simpa using List.mem_rtakeWhile_imp hc⟩
  rw [hzeros] at hparts
  refine ⟨_, k, rfl, ?_, ?_, ?_⟩
  · have hlength := congrArg List.length hparts
    rwa [List.length_append, List.length_replicate, length_padded (by decide) hn] at hlength
  · intro c hc
    exact isDigit_padded c (hparts ▸ List.mem_append_left _ hc)
  · have hvalue := ofDigitChars_padded 9 n
    rwa [← hparts, Nat.ofDigitChars_append, Nat.ofDigitChars_replicate_zero] at hvalue

theorem readFraction_fractionText {n : Nat} (hn : n < Nat.pow 10 9) :
    readFraction ((fractionText n).toList ++ ['Z']) = some (n, ['Z']) := by
  rw [fractionText]
  by_cases hzero : n = 0
  · subst hzero
    rfl
  obtain ⟨ds, k, hds, hlength, hdigits, hvalue⟩ := exists_zeros hn
  rw [if_neg hzero, hds]
  simp only [String.toList_append, String.toList_ofList]
  have htake : (ds ++ ['Z']).takeWhile Char.isDigit = ds := by
    rw [List.takeWhile_append_of_pos hdigits]
    simp
  have hdrop : (ds ++ ['Z']).dropWhile Char.isDigit = ['Z'] := by
    rw [List.dropWhile_append_of_pos hdigits]
    rfl
  cases ds with
  | nil =>
      rw [Nat.ofDigitChars_nil, Nat.mul_zero] at hvalue
      exact absurd hvalue.symm hzero
  | cons d ds =>
      have hd := hdigits d List.mem_cons_self
      have hk : 9 - (d :: ds).length = k := by omega
      have hshort : (d :: ds).take 9 = d :: ds := List.take_of_length_le (by omega)
      rw [List.cons_append] at htake hdrop
      change readFraction ('.' :: d :: (ds ++ ['Z'])) = _
      simp only [readFraction, hd, true_or, and_self, if_true, htake, hdrop, hk, hshort]
      rw [← Nat.ofDigitChars_eq_foldl, Nat.mul_comm]
      exact congrArg (fun n => some (n, ['Z'])) hvalue

theorem readDate_text {t : Timestamp} (hyear : t.year ≤ 9999) (hmonth : t.month < 100)
    (hday : t.day < 100) (short : Bool) (rest : List Char) :
    readDate short ((padded 4 t.year).toList ++ '-' :: ((padded 2 t.month).toList ++
      '-' :: ((padded 2 t.day).toList ++ rest))) =
    some ({ year := t.year, month := t.month, day := t.day }, rest) := by
  simp [readDate, readDigits_padded, readField_padded, readChar_self, hmonth, hday,
    Nat.lt_succ_of_le hyear]

theorem bounds_of_isValid {t : Timestamp} (h : t.isValid = true) :
    t.month < 100 ∧ t.day < 100 ∧ t.hour < 100 ∧ t.minute < 100 ∧ t.second < 100 := by
  have hdays : daysIn t.year t.month ≤ 31 := by
    rw [daysIn]
    split_ifs <;> decide
  simp only [isValid, Bool.and_eq_true, decide_eq_true_eq] at h
  omega

theorem toList_text {t : Timestamp} (hoffset : t.offset = 0) :
    t.text.toList = (padded 4 t.year).toList ++ '-' :: ((padded 2 t.month).toList ++
      '-' :: ((padded 2 t.day).toList ++ 'T' :: ((padded 2 t.hour).toList ++
      ':' :: ((padded 2 t.minute).toList ++ ':' :: ((padded 2 t.second).toList ++
      ((fractionText t.nanosecond).toList ++ ['Z'])))))) := by
  have hmark : offsetText t.offset = "Z" := by
    rw [hoffset]
    rfl
  simp [text, hmark]

theorem readInstant_text {t : Timestamp} (h : t.IsUniversal) (short : Bool) :
    readInstant short 'T' t.text.toList = some (t, []) := by
  obtain ⟨hmonth, hday, hhour, hminute, hsecond⟩ := bounds_of_isValid h.valid
  rw [toList_text h.offset, readInstant, readDate_text h.year hmonth hday]
  simp [readTime, readField_padded, readChar_self, hhour, hminute, hsecond,
    readFraction_fractionText h.nanosecond, readOffset, ← h.offset]

theorem ofText?_text {t : Timestamp} (h : t.IsUniversal) : ofText? t.text = some t := by
  simp [ofText?, readInstant_text h, complete, h.valid]

theorem ofLooseText?_text {t : Timestamp} (h : t.IsUniversal) : ofLooseText? t.text = some t := by
  have hyear : t.text.toList.takeWhile Char.isDigit = (padded 4 t.year).toList := by
    rw [toList_text h.offset, List.takeWhile_append_of_pos isDigit_padded]
    simp
  have hlength : (padded 4 t.year).toList.length = 4 :=
    length_padded (by decide) (Nat.lt_succ_of_le h.year)
  simp only [ofLooseText?, hyear, hlength, readInstant_text h, complete, h.valid, if_true,
    Option.some_or, ne_eq, not_true_eq_false, if_false]

end Timestamp

theorem Json.updateTime_text {t : Timestamp} (h : t.IsUniversal) (old : Timestamp) :
    updateTime old (.string t.text) = some t :=
  Timestamp.ofText?_text h

theorem Yaml.valueOf_text {t : Timestamp} (h : t.IsUniversal) : valueOf true t.text = .time t := by
  have hyear : (Timestamp.padded 4 t.year).toList ≠ [] := by
    simp [Timestamp.toList_padded]
  obtain ⟨c, cs, hcs⟩ := List.exists_cons_of_ne_nil hyear
  have hc : c.isDigit = true := Timestamp.isDigit_padded c (hcs ▸ List.mem_cons_self)
  have hhead : t.text.toList.head? = some c := by simp [Timestamp.toList_text h.offset, hcs]
  refine valueOf_of_numeric ?_ hhead (by simp [hc])
  simp [numeric?, Timestamp.ofLooseText?_text h]

theorem Yaml.updateTime_text {t : Timestamp} (h : t.IsUniversal) (old : Timestamp) :
    updateTime old (.ofWord t.text) = some t := by
  simp [updateTime, Node.ofWord, Node.target?, updateScalar, Scalar.value?, valueOf_text h]

end ArchLint
