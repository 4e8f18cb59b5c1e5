import ArchLint.Graph.Metrics
import Mathlib.Algebra.Order.Round
import Mathlib.Algebra.Order.Floor.Ring
import Mathlib.Data.Nat.Log
import Mathlib.Data.Rat.Floor
import Mathlib.Tactic.FieldSimp
import Mathlib.Tactic.Linarith
import Mathlib.Tactic.NormNum
import Mathlib.Tactic.Positivity
import Mathlib.Tactic.Ring

/-!
Metrics in exact arithmetic. Every rate is a whole number of thousandths from
zero to one, and rounding the distance loses nothing, so that the overage is
positive as soon as the distance exceeds the limit.
-/

namespace ArchLint

namespace Number

theorem abs_divNearestEven_sub_le (num : Nat) {den : Nat} (hden : 0 < den) :
    |(divNearestEven num den : Rat) - num / den| ≤ 1 / 2 := by
  have hpos : (0 : Rat) < den := by exact_mod_cast hden
  have hmod := Nat.div_add_mod num den
  have hclose : 2 * num ≤ 2 * divNearestEven num den * den + den ∧
      2 * divNearestEven num den * den ≤ 2 * num + den := by
    have hfloor : 2 * (num / den) * den = 2 * (den * (num / den)) := by ring
    have hceiling : 2 * (num / den + 1) * den = 2 * (den * (num / den)) + 2 * den := by ring
    have hlt := Nat.mod_lt num hden
    simp only [divNearestEven]
    split_ifs <;> simp only [hfloor, hceiling] <;> omega
  have hlower : (2 * num : Rat) ≤ 2 * divNearestEven num den * den + den := by
    exact_mod_cast hclose.1
  have hupper : (2 * divNearestEven num den * den : Rat) ≤ 2 * num + den := by
    exact_mod_cast hclose.2
  rw [abs_le]
  constructor
  · rw [neg_le_sub_iff_le_add, div_le_iff₀ hpos]
    linarith
  · rw [sub_le_iff_le_add, ← sub_le_iff_le_add', le_div_iff₀ hpos]
    linarith

namespace Binary64

theorem toRat_zero (e : Int) : (finite false 0 e).toRat = 0 := by
  simp [toRat]

theorem toRat_finite_neg (m : Nat) {e : Nat} (he : 0 < e) :
    (finite false m (-(e : Int))).toRat = m / 2 ^ e := by
  have hneg : ¬(0 : Int) ≤ -(e : Int) := by omega
  simp only [toRat, if_neg hneg, neg_neg, Int.toNat_natCast, Rat.mkRat_eq_div, Nat.pow_eq,
    Bool.false_eq_true, if_false]
  rw [Int.cast_natCast, Nat.cast_pow, Nat.cast_ofNat]

theorem scaled_neg (num den : Nat) {e : Nat} (he : 0 < e) :
    scaled num den (-(e : Int)) = (num * 2 ^ e, den) := by
  have hneg : ¬(0 : Int) ≤ -(e : Int) := by omega
  rw [scaled, if_neg hneg, neg_neg, Int.toNat_natCast, Nat.pow_eq]

theorem nearest_zero (negative : Bool) (den : Nat) :
    nearest negative 0 den = .finite negative 0 (-1074) := by
  unfold nearest
  exact if_pos rfl

/-- The exponent of a number up to one leaves at least 51 bits behind the
point. -/
theorem nearest_of_le {num den : Nat} (hnum : num ≠ 0) (hle : num ≤ den) :
    (nearest false num den).isFinite = true ∧ ∃ e : Nat, 51 ≤ e ∧
      (nearest false num den).toRat = divNearestEven (num * 2 ^ e) den / 2 ^ e := by
  have hlog : num.log2 ≤ den.log2 := by
    rw [Nat.log2_eq_log_two, Nat.log2_eq_log_two]
    exact Nat.log_mono_right hle
  rw [nearest, if_neg hnum]
  extract_lets guess fits least exponent
  have hleast : least ≤ -51 := by
    simp only [least, guess]
    split_ifs <;> omega
  obtain ⟨e, he, hexponent⟩ : ∃ e : Nat, 51 ≤ e ∧ exponent = -(e : Int) :=
    ⟨(-exponent).toNat, by omega, by omega⟩
  clear_value exponent
  subst hexponent
  rw [scaled_neg _ _ (by omega)]
  dsimp only
  by_cases hcarry : divNearestEven (num * 2 ^ e) den = Nat.pow 2 53
  · have hshift : -(e : Int) + 1 = -((e - 1 : Nat) : Int) := by omega
    have hsmall : ¬(-((e - 1 : Nat) : Int) > 971) := by omega
    have hpow : (2 : Rat) ^ e = 2 ^ (e - 1) * 2 := by
      rw [← pow_succ, Nat.sub_add_cancel (by omega)]
    rw [if_pos hcarry]
    dsimp only
    rw [hshift, if_neg hsmall]
    refine ⟨rfl, e, he, ?_⟩
    have hmantissa : ((Nat.pow 2 53 : Nat) : Rat) = (Nat.pow 2 52 : Nat) * 2 := by norm_num
    rw [toRat_finite_neg _ (by omega), hcarry, hpow, hmantissa,
      mul_div_mul_right _ _ two_ne_zero]
  · have hsmall : ¬(-(e : Int) > 971) := by omega
    rw [if_neg hcarry]
    dsimp only
    rw [if_neg hsmall]
    exact ⟨rfl, e, he, toRat_finite_neg _ (by omega)⟩

theorem abs_toRat_ofRat_sub_le {q : Rat} (hnonneg : 0 ≤ q) (hle : q ≤ 1) :
    (ofRat q).isFinite = true ∧ |(ofRat q).toRat - q| ≤ 1 / 2 ^ 52 := by
  have hsign : decide (q < 0) = false := by simpa using hnonneg
  have hnum : (q.num.natAbs : Rat) / q.den = q := by
    have hcast : ((q.num.natAbs : Int) : Rat) = q.num := by
      rw [Int.natAbs_of_nonneg (Rat.num_nonneg.mpr hnonneg)]
    rw [← Int.cast_natCast, hcast, Rat.num_div_den]
  rw [ofRat, hsign]
  by_cases hzero : q.num.natAbs = 0
  · rw [hzero, Nat.cast_zero, zero_div] at hnum
    rw [hzero, nearest_zero, toRat_zero, ← hnum, sub_zero, abs_zero]
    exact ⟨rfl, by positivity⟩
  · have hden : (0 : Rat) < q.den := by exact_mod_cast q.den_pos
    have hdenominator : q.num.natAbs ≤ q.den := by
      rw [← hnum, div_le_one hden] at hle
      exact_mod_cast hle
    obtain ⟨hfinite, e, he, hvalue⟩ := nearest_of_le hzero hdenominator
    refine ⟨hfinite, ?_⟩
    have hround := abs_divNearestEven_sub_le (q.num.natAbs * 2 ^ e) q.den_pos
    have hscaled : (divNearestEven (q.num.natAbs * 2 ^ e) q.den : Rat) / 2 ^ e - q =
        (divNearestEven (q.num.natAbs * 2 ^ e) q.den -
          ((q.num.natAbs * 2 ^ e : Nat) : Rat) / q.den) / 2 ^ e := by
      rw [Nat.cast_mul, mul_div_right_comm, hnum, sub_div, Nat.cast_pow, Nat.cast_ofNat,
        mul_div_cancel_right₀ q (by positivity)]
    have hpow : (2 : Rat) ^ 51 ≤ 2 ^ e := pow_le_pow_right₀ (by norm_num) he
    rw [hvalue, hscaled, abs_div, abs_of_pos (by positivity : (0 : Rat) < 2 ^ e),
      div_le_iff₀ (by positivity)]
    refine hround.trans ?_
    rw [div_mul_eq_mul_div, one_mul, le_div_iff₀ (by positivity)]
    linarith

end Binary64

end Number

section Rounding

variable {q : Rat} {k : Int}

theorem roundHalfAway_eq (q : Rat) : roundHalfAway q = if q < 0 then -round (-q) else round q := by
  simp only [roundHalfAway, round_eq, one_div]
  rfl

theorem abs_roundHalfAway_sub_le (q : Rat) : |(roundHalfAway q : Rat) - q| ≤ 1 / 2 := by
  rw [roundHalfAway_eq]
  split_ifs with h
  · have hnegated : ((-round (-q) : Int) : Rat) - q = -q - round (-q) := by
      push_cast
      ring
    rw [hnegated]
    exact abs_sub_round (-q)
  · rw [abs_sub_comm]
    exact abs_sub_round q

theorem roundHalfAway_eq_of_abs_lt (h : |q - k| < 1 / 2) : roundHalfAway q = k := by
  have hround := abs_roundHalfAway_sub_le q
  have hdifference : |((roundHalfAway q - k : Int) : Rat)| < 1 := by
    have htriangle := abs_add_le ((roundHalfAway q : Rat) - q) (q - k)
    rw [sub_add_sub_cancel] at htriangle
    push_cast
    linarith
  rw [← Int.cast_abs, ← Int.cast_one, Int.cast_lt, Int.abs_lt_one_iff] at hdifference
  omega

theorem ite_neg_eq_abs (q : Rat) : (if q < 0 then -q else q) = |q| := by
  split_ifs with h
  · rw [abs_of_neg h]
  · rw [abs_of_nonneg (not_lt.mp h)]

/-- A whole number of thousandths from zero to one. -/
def IsThousandths (q : Rat) : Prop :=
  ∃ k : Nat, k ≤ 1000 ∧ q = k / 1000

theorem isThousandths_zero : IsThousandths 0 :=
  ⟨0, by omega, by simp⟩

theorem IsThousandths.bounds (h : IsThousandths q) : 0 ≤ q ∧ q ≤ 1 := by
  obtain ⟨k, hk, rfl⟩ := h
  have hcast : (k : Rat) ≤ 1000 := by exact_mod_cast hk
  constructor
  · positivity
  · linarith

theorem roundThousandths_eq_of_abs_lt (h : |q - k / 1000| < 1 / 2000) :
    roundThousandths id q = k / 1000 := by
  have hscaled : |q * 1000 - k| < 1 / 2 := by
    have hfactor : q * 1000 - k = (q - k / 1000) * 1000 := by ring
    rw [hfactor, abs_mul, abs_of_pos (by norm_num : (0 : Rat) < 1000)]
    linarith
  simp only [roundThousandths, id, roundHalfAway_eq_of_abs_lt hscaled]

theorem isThousandths_roundThousandths (hnonneg : 0 ≤ q) (hle : q ≤ 1) :
    IsThousandths (roundThousandths id q) := by
  have hround := abs_le.mp (abs_roundHalfAway_sub_le (q * 1000))
  have hlower : (-1 : Rat) < roundHalfAway (q * 1000) := by linarith
  have hupper : (roundHalfAway (q * 1000) : Rat) < 1001 := by linarith
  have hlower' : -1 < roundHalfAway (q * 1000) := by exact_mod_cast hlower
  have hupper' : roundHalfAway (q * 1000) < 1001 := by exact_mod_cast hupper
  refine ⟨(roundHalfAway (q * 1000)).toNat, by omega, ?_⟩
  have hnat : (((roundHalfAway (q * 1000)).toNat : Int) : Rat) = roundHalfAway (q * 1000) := by
    rw [Int.toNat_of_nonneg (by omega)]
  rw [← Int.cast_natCast, hnat]
  rfl

theorem isThousandths_share {part total : Nat} (h : part ≤ total) :
    IsThousandths (share id part total) := by
  rw [share]
  split_ifs with hzero
  · exact isThousandths_zero
  · have hpos : (0 : Rat) < total := by exact_mod_cast Nat.pos_of_ne_zero hzero
    have hcast : (part : Rat) ≤ total := by exact_mod_cast h
    refine isThousandths_roundThousandths (by simp only [id]; positivity) ?_
    rw [id, div_le_one hpos]
    exact hcast

theorem IsThousandths.roundThousandths_sub {d t : Rat} (hd : IsThousandths d)
    (ht : IsThousandths t) (hq : |q - t| < 1 / 2000) : roundThousandths id (d - q) = d - t := by
  obtain ⟨a, -, rfl⟩ := hd
  obtain ⟨b, -, rfl⟩ := ht
  have hdifference : (a / 1000 - b / 1000 : Rat) = ((a - b : Int) : Rat) / 1000 := by
    push_cast
    ring
  have hclose : |(a / 1000 - q : Rat) - ((a - b : Int) : Rat) / 1000| < 1 / 2000 := by
    rw [← hdifference, sub_sub_sub_cancel_left, abs_sub_comm]
    exact hq
  rw [roundThousandths_eq_of_abs_lt hclose, hdifference]

theorem IsThousandths.overage_eq {d t : Rat} (hd : IsThousandths d) (ht : IsThousandths t)
    (hq : |q - t| < 1 / 2000) : overage id d q = max 0 (d - t) := by
  simp only [overage, id, hd.roundThousandths_sub ht hq]
  split_ifs with hle
  · rw [max_eq_left hle]
  · rw [max_eq_right (not_le.mp hle).le]

theorem IsThousandths.abs_toRat_ofRat_sub_lt (h : IsThousandths q) :
    (Number.Binary64.ofRat q).isFinite = true ∧
      |(Number.Binary64.ofRat q).toRat - q| < 1 / 2000 := by
  obtain ⟨hfinite, hclose⟩ := Number.Binary64.abs_toRat_ofRat_sub_le h.bounds.1 h.bounds.2
  exact ⟨hfinite, hclose.trans_lt (by norm_num)⟩

end Rounding

/-!
Division that fails at zero, and the metrics computed with it. They never
fail, so no rate is the quotient that a division by zero is declared to have.
-/

/-- The quotient, unless the divisor is zero. -/
def quotient? (a b : Rat) : Option Rat :=
  if b = 0 then none else some (a / b)

def roundThousandths? (q : Rat) : Option Rat :=
  quotient? (roundHalfAway (q * 1000)) 1000

def share? (part total : Nat) : Option Rat :=
  if total = 0 then some 0 else (quotient? part total).bind roundThousandths?

theorem quotient?_eq_some {a b : Rat} (h : b ≠ 0) : quotient? a b = some (a / b) :=
  if_neg h

theorem roundThousandths?_eq_some (q : Rat) :
    roundThousandths? q = some (roundThousandths id q) :=
  quotient?_eq_some (by norm_num)

theorem share?_eq_some (part total : Nat) : share? part total = some (share id part total) := by
  rw [share?, share]
  split_ifs with hzero
  · rfl
  · rw [quotient?_eq_some (Nat.cast_ne_zero.mpr hzero), Option.bind_some,
      roundThousandths?_eq_some]
    rfl

namespace Graph

variable (g : Graph) (m : Module) (u : CodeUnit)

theorem length_unitsOf_le (ids : List Nat) : (g.unitsOf ids).length ≤ ids.length :=
  List.length_filterMap_le _ ids

theorem isThousandths_primitivenessOf : IsThousandths (g.primitivenessOf id u) :=
  isThousandths_share (List.countP_le_length.trans (g.length_unitsOf_le u.dependencies.toList))

theorem isThousandths_abstractness : IsThousandths (g.abstractness id m) :=
  isThousandths_share List.countP_le_length

theorem isThousandths_instability : IsThousandths (g.instability id m) :=
  isThousandths_share (Nat.le_add_left _ _)

/-- Rounding loses nothing, because abstractness and instability are whole
numbers of thousandths already. -/
theorem distance_eq : g.distance id m = |g.abstractness id m + g.instability id m - 1| := by
  obtain ⟨a, -, ha⟩ := g.isThousandths_abstractness m
  obtain ⟨i, -, hi⟩ := g.isThousandths_instability m
  have hwhole : |(a : Rat) / 1000 + i / 1000 - 1| = (|(a : Int) + i - 1000| : Int) / 1000 := by
    have hfactor : (a : Rat) / 1000 + i / 1000 - 1 = ((a : Int) + i - 1000 : Int) / 1000 := by
      push_cast
      ring
    rw [hfactor, abs_div, abs_of_pos (by norm_num : (0 : Rat) < 1000), Int.cast_abs]
  simp only [distance, id, ite_neg_eq_abs, ha, hi, hwhole]
  exact roundThousandths_eq_of_abs_lt (by simp)

theorem isThousandths_distance : IsThousandths (g.distance id m) := by
  obtain ⟨ha, ha'⟩ := (g.isThousandths_abstractness m).bounds
  obtain ⟨hi, hi'⟩ := (g.isThousandths_instability m).bounds
  simp only [distance, id, ite_neg_eq_abs]
  exact isThousandths_roundThousandths (abs_nonneg _) (abs_le.mpr ⟨by linarith, by linarith⟩)

theorem foldl_primitivenessOf_bounds (units : List CodeUnit) (sum : Rat) :
    sum ≤ units.foldl (fun sum u => sum + g.primitivenessOf id u) sum ∧
      units.foldl (fun sum u => sum + g.primitivenessOf id u) sum ≤ sum + units.length := by
  induction units generalizing sum with
  | nil => simp
  | cons u units ih =>
      obtain ⟨hlower, hupper⟩ := ih (sum + g.primitivenessOf id u)
      obtain ⟨hnonneg, hle⟩ := (g.isThousandths_primitivenessOf u).bounds
      simp only [List.foldl_cons, List.length_cons, Nat.cast_add, Nat.cast_one]
      constructor <;> linarith

theorem isThousandths_primitiveness : IsThousandths (g.primitiveness id m) := by
  simp only [primitiveness, id]
  split_ifs with hempty
  · exact isThousandths_zero
  · obtain ⟨hlower, hupper⟩ := g.foldl_primitivenessOf_bounds (g.members m) 0
    have hpos : (0 : Rat) < (g.members m).length := by
      exact_mod_cast List.length_pos_iff.mpr (by simpa using hempty)
    refine isThousandths_roundThousandths (div_nonneg hlower hpos.le) ?_
    rw [div_le_one hpos]
    linarith

section Checked

def primitivenessOf? (g : Graph) (u : CodeUnit) : Option Rat :=
  share? ((g.unitsOf u.dependencies.toList).countP (·.isPrimitive)) u.dependencies.size

def abstractness? (g : Graph) (m : Module) : Option Rat :=
  let known := (g.members m).filterMap (·.isAbstract)
  share? (known.countP id) known.length

def instability? (g : Graph) (m : Module) : Option Rat :=
  share? (g.fanOut m).length ((g.fanIn m).length + (g.fanOut m).length)

def distance? (g : Graph) (m : Module) : Option Rat := do
  let a ← g.abstractness? m
  let i ← g.instability? m
  roundThousandths? |a + i - 1|

def primitiveness? (g : Graph) (m : Module) : Option Rat :=
  if (g.members m).isEmpty then some 0
  else do
    let sum ← (g.members m).foldlM (fun sum u => (sum + ·) <$> g.primitivenessOf? u) 0
    let mean ← quotient? sum (g.members m).length
    roundThousandths? mean

def distanceOverage? (g : Graph) (m : Module) : Option Rat :=
  match m.policy.maxDistance with
  | none => some 0
  | some limit =>
      if limit.isFinite then do
        let excess ← roundThousandths? ((← g.distance? m) - limit.toRat)
        return if excess ≤ 0 then 0 else excess
      else some 0

theorem primitivenessOf?_eq_some : g.primitivenessOf? u = some (g.primitivenessOf id u) :=
  share?_eq_some _ _

theorem abstractness?_eq_some : g.abstractness? m = some (g.abstractness id m) :=
  share?_eq_some _ _

theorem instability?_eq_some : g.instability? m = some (g.instability id m) :=
  share?_eq_some _ _

theorem distance?_eq_some : g.distance? m = some (g.distance id m) := by
  simp only [distance?, abstractness?_eq_some, instability?_eq_some, Option.bind_eq_bind,
    Option.bind_some, roundThousandths?_eq_some, distance, ite_neg_eq_abs, id]

theorem foldlM_primitivenessOf? (units : List CodeUnit) (sum : Rat) :
    units.foldlM (fun sum u => (sum + ·) <$> g.primitivenessOf? u) sum =
      some (units.foldl (fun sum u => sum + g.primitivenessOf id u) sum) := by
  induction units generalizing sum with
  | nil => rfl
  | cons u units ih =>
      rw [List.foldlM_cons, primitivenessOf?_eq_some]
      exact ih _

theorem primitiveness?_eq_some : g.primitiveness? m = some (g.primitiveness id m) := by
  simp only [primitiveness?, primitiveness, id]
  split_ifs with hempty
  · rfl
  · have hlength : ((g.members m).length : Rat) ≠ 0 := by
      rw [Nat.cast_ne_zero, Ne, List.length_eq_zero_iff]
      simpa using hempty
    simp only [foldlM_primitivenessOf?, Option.bind_eq_bind, Option.bind_some,
      quotient?_eq_some hlength, roundThousandths?_eq_some]

theorem distanceOverage?_eq_some : g.distanceOverage? m = some (g.distanceOverage id m) := by
  rw [distanceOverage?, distanceOverage]
  cases m.policy.maxDistance with
  | none => rfl
  | some limit =>
      dsimp only
      split_ifs
      · simp only [distance?_eq_some, Option.bind_eq_bind, Option.bind_some,
          roundThousandths?_eq_some, overage, id, Option.pure_def]
      · rfl

end Checked

/-- In exact arithmetic no metric divides by zero, every rate is a whole number
of thousandths from zero to one, and rounding takes nothing from the distance.
The overage over a limit of whole thousandths is the exact one, also if the
limit is stored as the nearest double precision number or as any other that is
about as close. -/
theorem rates_exact (g : Graph) (m : Module) :
    (∀ u, g.primitivenessOf? u = some (g.primitivenessOf id u) ∧
      IsThousandths (g.primitivenessOf id u)) ∧
    (g.abstractness? m = some (g.abstractness id m) ∧ IsThousandths (g.abstractness id m)) ∧
    (g.instability? m = some (g.instability id m) ∧ IsThousandths (g.instability id m)) ∧
    (g.primitiveness? m = some (g.primitiveness id m) ∧ IsThousandths (g.primitiveness id m)) ∧
    (g.distance? m = some (g.distance id m) ∧ IsThousandths (g.distance id m) ∧
      g.distance id m = |g.abstractness id m + g.instability id m - 1|) ∧
    g.distanceOverage? m = some (g.distanceOverage id m) ∧
    (m.policy.maxDistance = none → g.distanceOverage id m = 0) ∧
    ∀ t, IsThousandths t →
      overage id (g.distance id m) t = max 0 (g.distance id m - t) ∧
      ((Number.Binary64.ofRat t).isFinite = true ∧
        |(Number.Binary64.ofRat t).toRat - t| < 1 / 2000) ∧
      ∀ limit, m.policy.maxDistance = some limit → limit.isFinite = true →
        |limit.toRat - t| < 1 / 2000 →
          g.distanceOverage id m = max 0 (g.distance id m - t) ∧
          (0 < g.distanceOverage id m ↔ t < g.distance id m) := by
  refine ⟨fun u => ⟨g.primitivenessOf?_eq_some u, g.isThousandths_primitivenessOf u⟩,
    ⟨g.abstractness?_eq_some m, g.isThousandths_abstractness m⟩,
    ⟨g.instability?_eq_some m, g.isThousandths_instability m⟩,
    ⟨g.primitiveness?_eq_some m, g.isThousandths_primitiveness m⟩,
    ⟨g.distance?_eq_some m, g.isThousandths_distance m, g.distance_eq m⟩,
    g.distanceOverage?_eq_some m, ?_, ?_⟩
  · intro hnone
    rw [distanceOverage, hnone]
  · intro t ht
    have hdistance := g.isThousandths_distance m
    refine ⟨hdistance.overage_eq ht (by simp), ht.abs_toRat_ofRat_sub_lt, ?_⟩
    intro limit hlimit hfinite hclose
    have hoverage : g.distanceOverage id m = max 0 (g.distance id m - t) := by
      simp only [distanceOverage, hlimit, hfinite, if_true, hdistance.overage_eq ht hclose]
    refine ⟨hoverage, ?_⟩
    rw [hoverage, lt_max_iff, sub_pos]
    simp

/-- A graph of one module with a concrete unit that nothing else uses. -/
def oneService : Graph where
  units := #[{ id := 0, scope := "x/concrete", name := "x/concrete.Service", kind := .struct,
               isAbstract := some false, owner := some "concrete" }]
  unitIndex := .ofList [("x/concrete.Service", 0)]
  modules := #[{ order := 0, name := "concrete", roots := [⟨"x/concrete", ""⟩],
                 policy := { maxDistance := some (.ofRat (3 / 10)) }, units := .ofList [0] }]
  moduleIndex := .ofList [("concrete", 0)]

theorem rates_exact_oneService :
    IsThousandths (3 / 10) ∧ oneService.distance id oneService.modules[0] = 1 ∧
      oneService.distanceOverage id oneService.modules[0] = 7 / 10 := by
  have hlimit : IsThousandths (3 / 10) := ⟨300, by decide, by norm_num⟩
  have hdistance : oneService.distance id oneService.modules[0] = 1 := by decide +kernel
  obtain ⟨-, -, -, -, -, -, -, hover⟩ := rates_exact oneService oneService.modules[0]
  obtain ⟨-, ⟨hfinite, hclose⟩, hstored⟩ := hover (3 / 10) hlimit
  obtain ⟨hoverage, -⟩ := hstored _ rfl hfinite hclose
  refine ⟨hlimit, hdistance, ?_⟩
  rw [hoverage, hdistance]
  norm_num

end Graph

end ArchLint
