import ArchLint.Proofs.Disabling
import Mathlib.Algebra.Field.Rat
import Mathlib.Algebra.Order.Ring.Rat
import Mathlib.Tactic.Positivity

/-!
Registering the modules of a configuration. Every entry is checked before the
first one is registered, so that a faulty configuration leaves the graph alone.
Entries of one name are merged: their regions are collected, the last policy
stays, and one entry is enough to disable the module.
-/

namespace ArchLint

namespace Number.Binary64

/-- The number lies between zero and one. -/
def IsRate (x : Binary64) : Prop :=
  x.isFinite = true ∧ 0 ≤ x.toRat ∧ x.toRat ≤ 1

theorem isNegative_iff {x : Binary64} (hx : x.isFinite = true) :
    x.isNegative = true ↔ x.toRat < 0 := by
  cases x with
  | infinite _ => cases hx
  | notANumber => cases hx
  | finite negative m e =>
      obtain ⟨k, hk, hvalue⟩ : ∃ k : Rat, 0 < k ∧
          (finite negative m e).toRat = if negative then -(m * k) else m * k := by
        by_cases he : 0 ≤ e
        · exact ⟨2 ^ e.toNat, by positivity, by simp [toRat, he]⟩
        · refine ⟨(2 ^ (-e).toNat)⁻¹, by positivity, ?_⟩
          simp [toRat, he, Rat.mkRat_eq_div, div_eq_mul_inv]
      have hpositive : 0 < (m : Rat) * k ↔ m ≠ 0 := by
        rw [mul_pos_iff_of_pos_right hk, Nat.cast_pos, Nat.pos_iff_ne_zero]
      rw [hvalue]
      cases negative with
      | true => simp [isNegative, hpositive]
      | false =>
          have hnonneg : 0 ≤ (m : Rat) * k := by positivity
          simp [isNegative, hnonneg]

theorem isOutside_iff {x : Binary64} :
    (x.isNegative || x.exceedsOne) = true ↔ x ≠ .notANumber ∧ ¬x.IsRate := by
  cases x with
  | infinite negative => cases negative <;> simp [isNegative, exceedsOne, IsRate, isFinite]
  | notANumber => simp [isNegative, exceedsOne]
  | finite negative m e =>
      rw [Bool.or_eq_true, isNegative_iff rfl]
      simp only [exceedsOne, IsRate, isFinite, decide_eq_true_eq, ne_eq, reduceCtorEq,
        not_false_eq_true, true_and, not_and_or, not_le]

end Number.Binary64

namespace Text

/-- A text spells a word if it consists of its letters, in either case, with
blanks around them. -/
def Spells (word s : String) : Prop :=
  List.Forall₂ (fun w c => c = w ∨ c = w.toUpper) word.toList (trimBlank s).toList

theorem lowered_eq_iff {w : Char} (hw : w ∈ "adelnowy".toList) (c : Char) :
    (if c = '\u0130' then 'i' else if c = '\u212a' then 'k' else lowerAscii c) = w ↔
      c = w ∨ c = w.toUpper := by
  by_cases hascii : c.toNat < 128
  · have htable : ("adelnowy".toList.all fun w => (List.range 128).all fun n =>
        decide ((if Char.ofNat n = '\u0130' then 'i' else if Char.ofNat n = '\u212a' then 'k'
          else lowerAscii (Char.ofNat n)) = w ↔ Char.ofNat n = w ∨ Char.ofNat n = w.toUpper)) =
        true := by
      decide
    have hrow := List.all_eq_true.mp (List.all_eq_true.mp htable w hw) c.toNat
      (List.mem_range.mpr hascii)
    simpa only [Char.ofNat_toNat] using of_decide_eq_true hrow
  · -- no other character is an ASCII letter, nor becomes one of these
    have hletter : ("adelnowy".toList.all fun w => decide (w ≠ 'i' ∧ w ≠ 'k' ∧ w.toNat < 128 ∧
        w.toUpper.toNat < 128)) = true := by
      decide
    obtain ⟨hi, hk, hlower, hupper⟩ := of_decide_eq_true (List.all_eq_true.mp hletter w hw)
    have hw : c ≠ w := by
      rintro rfl
      exact hascii hlower
    have hu : c ≠ w.toUpper := by
      rintro rfl
      exact hascii hupper
    have hcapital : ¬('A' ≤ c ∧ c ≤ 'Z') := by
      rintro ⟨-, hc⟩
      have hc : c.toNat ≤ 90 := hc
      omega
    rw [lowerAscii, if_neg hcapital]
    split_ifs <;> simp [hw, hu, Ne.symm hi, Ne.symm hk]

theorem lowerForAscii_eq_iff {word s : String} (hword : word.toList ⊆ "adelnowy".toList) :
    lowerForAscii (trimBlank s) = word ↔ Spells word s := by
  rw [← String.toList_inj, lowerForAscii, String.toList_ofList, Spells]
  generalize (trimBlank s).toList = chars
  generalize word.toList = letters at hword ⊢
  induction letters generalizing chars with
  | nil => simp
  | cons w letters ih =>
      obtain ⟨hw, hletters⟩ := List.cons_subset.mp hword
      cases chars with
      | nil => simp
      | cons c chars =>
          rw [List.map_cons, List.cons_eq_cons, lowered_eq_iff hw, ih chars hletters,
            List.forall₂_cons]

theorem isEmpty_trimBlank_iff {s : String} :
    (trimBlank s).isEmpty = true ↔ ∀ c ∈ s.toList, isBlank c = true := by
  rw [String.isEmpty_iff, ← String.toList_eq_nil_iff, trimBlank, String.toList_ofList, trimWhile,
    trimRightWhile_eq_rdropWhile, List.rdropWhile_eq_nil_iff]
  constructor
  · intro hblank
    rw [← List.dropWhile_eq_nil_iff]
    cases hrest : s.toList.dropWhile isBlank with
    | nil => rfl
    | cons c rest =>
        have hc := List.head?_dropWhile_not isBlank s.toList
        rw [hrest] at hc hblank
        have hcblank := hblank c List.mem_cons_self
        simp [hcblank] at hc
  · intro hall c hc
    exact hall c ((List.dropWhile_suffix _).subset hc)

theorem startsWith_star_iff {s : String} :
    startsWith s "*" = true ↔ s.toList.head? = some '*' := by
  have hstar : "*".toList = ['*'] := rfl
  rw [startsWith, List.isPrefixOf_iff_prefix, hstar]
  cases s.toList with
  | nil => simp
  | cons c cs => rw [List.cons_prefix_cons, List.head?_cons, Option.some_inj]; simp [eq_comm]

theorem endsWith_star_iff {s : String} :
    endsWith s "*" = true ↔ s.toList.getLast? = some '*' := by
  have hstar : "*".toList = ['*'] := rfl
  rw [endsWith, List.isSuffixOf_iff_suffix, hstar, List.getLast?_eq_some_iff]
  exact ⟨fun ⟨front, h⟩ => ⟨front, h.symm⟩, fun ⟨front, h⟩ => ⟨front, h.symm⟩⟩

end Text

/-- A rule as written gives one pattern, and thereby its effect. -/
inductive RuleEntry.Describes : RuleEntry → DependencyRule → Prop
  | allow {pattern : String} (hpattern : pattern ≠ "") :
      Describes { allow := pattern } ⟨.allow, pattern⟩
  | deny {pattern : String} (hpattern : pattern ≠ "") :
      Describes { deny := pattern } ⟨.deny, pattern⟩

/-- A word as written names an effect; no word stands for permission. -/
def Effect.IsNamed (effect : Effect) (word : String) : Prop :=
  effect = .deny ∧ Text.Spells "deny" word ∨
    effect = .allow ∧ (Text.Spells "" word ∨ Text.Spells "allow" word)

namespace PolicyEntry

/-- A policy as written describes a policy: each rule and the fallback by their
words, and all other fields as they stand. -/
structure Describes (entry : PolicyEntry) (p : Policy) : Prop where
  rules : List.Forall₂ RuleEntry.Describes entry.rules p.rules
  fallback : p.fallback.IsNamed entry.fallback
  visible : p.visible = entry.visible
  hidden : p.hidden = entry.hidden
  exportedOnly : p.exportedOnly = entry.exportedOnly
  maxDistance : p.maxDistance = entry.maxDistance

/-- What is wrong with a policy as written: a fallback that is neither blank nor
an effect, a rule with both patterns or none, or a limit that is a number but
not between zero and one. -/
inductive HasFault (entry : PolicyEntry) : Prop
  | fallback (hword : ∀ word ∈ ["", "allow", "deny"], ¬Text.Spells word entry.fallback)
  | rule {r : RuleEntry} (hr : r ∈ entry.rules) (hpatterns : r.allow = "" ↔ r.deny = "")
  | distance {x : Number.Binary64} (hx : entry.maxDistance = some x) (hnumber : x ≠ .notANumber)
      (houtside : ¬x.IsRate)

theorem effect?_cases (word : String) :
    (∃ effect, effect? word = some effect ∧ effect.IsNamed word) ∨
      effect? word = none ∧ ∀ known ∈ ["", "allow", "deny"], ¬Text.Spells known word := by
  have hblank := @Text.lowerForAscii_eq_iff "" word (by simp)
  have hallow := @Text.lowerForAscii_eq_iff "allow" word (by decide)
  have hdeny := @Text.lowerForAscii_eq_iff "deny" word (by decide)
  unfold effect?
  dsimp only
  split
  · rename_i hword
    exact .inl ⟨.allow, rfl, .inr ⟨rfl, hword.imp hblank.mp hallow.mp⟩⟩
  · rename_i hnot
    split
    · rename_i hword
      exact .inl ⟨.deny, rfl, .inl ⟨rfl, hdeny.mp hword⟩⟩
    · rename_i hnotDeny
      rw [hblank, hallow, not_or] at hnot
      rw [hdeny] at hnotDeny
      exact .inr ⟨rfl, by simp [hnot, hnotDeny]⟩

theorem exists_known_of_isNamed {effect : Effect} {word : String} (h : effect.IsNamed word) :
    ∃ known ∈ ["", "allow", "deny"], Text.Spells known word := by
  rcases h with ⟨-, hdeny⟩ | ⟨-, hblank | hallow⟩
  · exact ⟨"deny", by simp, hdeny⟩
  · exact ⟨"", by simp, hblank⟩
  · exact ⟨"allow", by simp, hallow⟩

theorem rule_cases (index : Nat) (entry : RuleEntry) :
    (∃ r, rule index entry = .ok r ∧ entry.Describes r ∧ ¬(entry.allow = "" ↔ entry.deny = "")) ∨
      (∃ fault, rule index entry = .error fault) ∧ (entry.allow = "" ↔ entry.deny = "") := by
  obtain ⟨allow, deny⟩ := entry
  by_cases hallow : allow = ""
  · by_cases hdeny : deny = ""
    · exact .inr ⟨⟨.noEffect index, by simp [rule, hallow, hdeny]⟩, by simp [hallow, hdeny]⟩
    · subst hallow
      exact .inl ⟨⟨.deny, deny⟩, by simp [rule, hdeny], .deny hdeny, by simp [hdeny]⟩
  · by_cases hdeny : deny = ""
    · subst hdeny
      exact .inl ⟨⟨.allow, allow⟩, by simp [rule, hallow], .allow hallow, by simp [hallow]⟩
    · exact .inr ⟨⟨.bothEffects index, by simp [rule, hallow, hdeny]⟩, by simp [hallow, hdeny]⟩

theorem rulesFrom_cases (index : Nat) (entries : List RuleEntry) :
    (∃ rules, rulesFrom index entries = .ok rules ∧
      List.Forall₂ RuleEntry.Describes entries rules ∧
      ∀ r ∈ entries, ¬(r.allow = "" ↔ r.deny = "")) ∨
    (∃ fault, rulesFrom index entries = .error fault) ∧
      ∃ r ∈ entries, (r.allow = "" ↔ r.deny = "") := by
  induction entries generalizing index with
  | nil => exact .inl ⟨[], rfl, .nil, by simp⟩
  | cons entry entries ih =>
      simp only [rulesFrom]
      rcases rule_cases index entry with ⟨r, hrule, hdescribes, hone⟩ | ⟨⟨fault, hrule⟩, hpatterns⟩
      · rcases ih (index + 1) with ⟨rules, hrest, hrules, hall⟩ | ⟨⟨fault, hrest⟩, r, hr, hpatterns⟩
        · refine .inl ⟨r :: rules, by simp only [hrule, hrest], .cons hdescribes hrules, ?_⟩
          exact List.forall_mem_cons.mpr ⟨hone, hall⟩
        · exact .inr ⟨⟨fault, by simp only [hrule, hrest]⟩, r, List.mem_cons_of_mem _ hr, hpatterns⟩
      · exact .inr ⟨⟨fault, by simp only [hrule]⟩, entry, List.mem_cons_self, hpatterns⟩

/-- A policy as written is either without faults and describes a policy, or it
is refused. -/
theorem build_cases (entry : PolicyEntry) :
    (∃ p, entry.build = .ok p ∧ entry.Describes p ∧ ¬entry.HasFault) ∨
      (∃ fault, entry.build = .error fault) ∧ entry.HasFault := by
  unfold build
  rcases effect?_cases entry.fallback with ⟨effect, heffect, hnamed⟩ | ⟨heffect, hword⟩
  case inr =>
    rw [heffect]
    exact .inr ⟨⟨_, rfl⟩, .fallback hword⟩
  rcases rulesFrom_cases 0 entry.rules with
    ⟨rules, hrules, hdescribes, hone⟩ | ⟨⟨fault, hrules⟩, r, hr, hpatterns⟩
  case inr =>
    rw [heffect, hrules]
    exact .inr ⟨⟨fault, rfl⟩, .rule hr hpatterns⟩
  rw [heffect, hrules]
  cases hlimit : entry.maxDistance.filter (fun d => d.isNegative || d.exceedsOne) with
  | some x =>
      obtain ⟨hx, houtside⟩ := Option.filter_eq_some_iff.mp hlimit
      obtain ⟨hnumber, hrate⟩ := Number.Binary64.isOutside_iff.mp houtside
      exact .inr ⟨⟨.distanceOutOfRange x, rfl⟩, .distance hx hnumber hrate⟩
  | none =>
      refine .inl ⟨_, rfl, ⟨hdescribes, hnamed, rfl, rfl, rfl, rfl⟩, ?_⟩
      rintro (hword | ⟨hr, hpatterns⟩ | ⟨hx, hnumber, hrate⟩)
      · obtain ⟨known, hknown, hspells⟩ := exists_known_of_isNamed hnamed
        exact hword known hknown hspells
      · exact hone _ hr hpatterns
      · have houtside := Number.Binary64.isOutside_iff.mpr ⟨hnumber, hrate⟩
        rw [hx, Option.filter_some, if_pos houtside] at hlimit
        cases hlimit

end PolicyEntry

/-- What is wrong with an entry: a blank or a reserved name, a root without any
prefix, or a faulty policy. -/
inductive ModuleEntry.HasFault (entry : ModuleEntry) : Prop
  | blankName (hname : ∀ c ∈ entry.name.toList, Text.isBlank c = true)
  | reservedName (hfirst : entry.name.toList.head? = some '*')
      (hlast : entry.name.toList.getLast? = some '*')
  | emptyRoot {r : Region} (hr : r ∈ entry.roots) (hscope : r.scope = "")
      (hdirectory : r.directory = "")
  | policy (hpolicy : entry.policy.HasFault)

theorem ModuleEntry.faults_eq_nil_iff {entry : ModuleEntry} {index : Nat} :
    entry.faults index = [] ↔ ¬entry.HasFault := by
  have hroots : (entry.roots.zipIdx.filter (fun r => r.1.isEmpty)) = [] ↔
      ∀ r ∈ entry.roots, ¬(r.scope = "" ∧ r.directory = "") := by
    rw [List.filter_eq_nil_iff]
    constructor
    · rintro hall r hr ⟨hscope, hdirectory⟩
      obtain ⟨j, hj⟩ := List.mem_iff_getElem?.mp hr
      exact hall (r, j) (List.mk_mem_zipIdx_iff_getElem?.mpr hj) (by
        simp [Region.isEmpty, hscope, hdirectory])
    · rintro hall ⟨r, j⟩ hr hempty
      refine hall r (List.mem_of_getElem? (List.mk_mem_zipIdx_iff_getElem?.mp hr)) ?_
      simpa [Region.isEmpty] using hempty
  simp only [faults, List.append_eq_nil_iff, List.map_eq_nil_iff, hroots, ite_eq_right_iff,
    List.cons_ne_nil, imp_false, Text.isEmpty_trimBlank_iff, Bool.and_eq_true,
    Text.startsWith_star_iff, Text.endsWith_star_iff]
  rcases entry.policy.build_cases with ⟨p, hbuild, -, hfree⟩ | ⟨⟨fault, hbuild⟩, hfault⟩
  · rw [hbuild]
    constructor
    · rintro ⟨⟨⟨hname, hreserved⟩, hroot⟩, -⟩
        (hblank | ⟨hfirst, hlast⟩ | ⟨hr, hscope, hdir⟩ | hpolicy)
      · exact hname hblank
      · exact hreserved ⟨hfirst, hlast⟩
      · exact hroot _ hr ⟨hscope, hdir⟩
      · exact hfree hpolicy
    · intro hnot
      refine ⟨⟨⟨fun h => hnot (.blankName h), fun h => hnot (.reservedName h.1 h.2)⟩, ?_⟩, rfl⟩
      exact fun r hr h => hnot (.emptyRoot hr h.1 h.2)
  · rw [hbuild]
    constructor
    · rintro ⟨-, hnone⟩
      cases hnone
    · intro hnot
      exact absurd (.policy hfault) hnot

namespace Config

theorem faults_eq_nil_iff {c : Config} :
    c.faults = [] ↔ ∀ entry ∈ c.modules, ¬entry.HasFault := by
  rw [faults, List.flatMap_eq_nil_iff]
  constructor
  · intro hall entry hentry
    obtain ⟨index, hindex⟩ := List.mem_iff_getElem?.mp hentry
    exact ModuleEntry.faults_eq_nil_iff.mp
      (hall (entry, index) (List.mk_mem_zipIdx_iff_getElem?.mpr hindex))
  · rintro hall ⟨entry, index⟩ hentry
    exact ModuleEntry.faults_eq_nil_iff.mpr
      (hall entry (List.mem_of_getElem? (List.mk_mem_zipIdx_iff_getElem?.mp hentry)))

theorem apply_eq_error_iff (c : Config) (g : Graph) :
    (∃ faults, c.apply g = .error faults) ↔ ∃ entry ∈ c.modules, entry.HasFault := by
  have hfaults := c.faults_eq_nil_iff
  unfold apply
  split
  · rename_i hnone
    rw [hnone] at hfaults
    simpa using hfaults
  · rename_i hsome
    have hexists : ¬∀ entry ∈ c.modules, ¬entry.HasFault := fun hall => hsome (hfaults.mpr hall)
    simpa using hexists

/-- Registration as an action on a graph, which stays behind as it is when the
action fails. -/
def register (c : Config) : EStateM (List ConfigFault) Graph Unit := do
  match c.faults with
  | [] => c.modules.forM fun entry => modify fun g => registerEntry g entry
  | faults => throw faults

theorem forM_registerEntry (entries : List ModuleEntry) (g : Graph) :
    (entries.forM (m := EStateM (List ConfigFault) Graph)
      fun entry => modify fun g => registerEntry g entry).run g =
      .ok () (entries.foldl registerEntry g) := by
  induction entries generalizing g with
  | nil => rfl
  | cons entry entries ih => exact ih (registerEntry g entry)

theorem register_run (c : Config) (g : Graph) :
    c.register.run g = match c.apply g with
      | .ok after => .ok () after
      | .error faults => .error faults g := by
  unfold register apply
  cases c.faults with
  | nil => exact forM_registerEntry c.modules g
  | cons fault faults => rfl

end Config

section Merging

theorem eraseDups_concat {α : Type} [BEq α] [LawfulBEq α] (xs : List α) (x : α) :
    (xs ++ [x]).eraseDups = if xs.elem x then xs.eraseDups else xs.eraseDups ++ [x] := by
  rw [List.eraseDups_append, List.removeAll]
  by_cases hx : x ∈ xs <;> simp [List.eraseDups_cons, hx]

theorem Graph.mergeRegions_eraseDups (old new : List Region) :
    mergeRegions old.eraseDups new = (old ++ new).eraseDups := by
  unfold mergeRegions
  induction new generalizing old with
  | nil => simp
  | cons r new ih =>
      have hstep : (if old.eraseDups.elem r then old.eraseDups else old.eraseDups ++ [r]) =
          (old ++ [r]).eraseDups := by
        rw [eraseDups_concat]
        simp
      rw [List.foldl_cons, hstep, ih, List.append_assoc, List.singleton_append]

theorem eraseDups_append_self {α : Type} [BEq α] [LawfulBEq α] (xs : List α) :
    (xs ++ xs).eraseDups = xs.eraseDups := by
  have hnone : xs.removeAll xs = [] := by
    rw [List.removeAll, List.filter_eq_nil_iff]
    simp
  rw [List.eraseDups_append, hnone, List.eraseDups_nil, List.append_nil]

/-- A module without members that is merged from entries of its name. -/
structure Module.IsMerged (entries : List ModuleEntry) (m : Module) : Prop where
  roots : m.roots = (entries.flatMap (·.roots)).eraseDups
  excluded : m.excluded = (entries.flatMap (·.excluded)).eraseDups
  policy : ∀ entry, entries.getLast? = some entry → entry.policy.build = .ok m.policy
  enabled : m.enabled = true ↔ ∀ entry ∈ entries, entry.enabled ≠ some false
  units : m.units = .empty

/-- The module after one more entry of its name. -/
def ModuleEntry.extend (entry : ModuleEntry) (policy : Policy) (m : Module) : Module :=
  { m with
    roots := Graph.mergeRegions m.roots entry.roots
    excluded := Graph.mergeRegions m.excluded entry.excluded
    policy := policy
    enabled := m.enabled && entry.enabled != some false }

theorem Module.IsMerged.extend {entries : List ModuleEntry} {m : Module}
    (h : m.IsMerged entries) {entry : ModuleEntry} {policy : Policy}
    (hpolicy : entry.policy.build = .ok policy) :
    (entry.extend policy m).IsMerged (entries ++ [entry]) where
  roots := by
    rw [List.flatMap_append, List.flatMap_singleton, ← Graph.mergeRegions_eraseDups, ← h.roots]
    rfl
  excluded := by
    rw [List.flatMap_append, List.flatMap_singleton, ← Graph.mergeRegions_eraseDups, ← h.excluded]
    rfl
  policy last hlast := by
    rw [List.getLast?_concat] at hlast
    cases hlast
    exact hpolicy
  enabled := by
    simp only [ModuleEntry.extend, Bool.and_eq_true, h.enabled, bne_iff_ne, List.forall_mem_append,
      List.forall_mem_singleton]
  units := h.units

theorem Module.IsMerged.eq_of_twice {entries : List ModuleEntry} {m m' : Module}
    (h : m.IsMerged entries) (h' : m'.IsMerged (entries ++ entries)) (hentries : entries ≠ [])
    (horder : m'.order = m.order) (hname : m'.name = m.name) : m' = m := by
  have hroots : m'.roots = m.roots := by
    rw [h'.roots, h.roots, List.flatMap_append, eraseDups_append_self]
  have hexcluded : m'.excluded = m.excluded := by
    rw [h'.excluded, h.excluded, List.flatMap_append, eraseDups_append_self]
  have hpolicy : m'.policy = m.policy := by
    have hlast := List.getLast?_eq_some_getLast hentries
    have htwice := h'.policy (entries.getLast hentries) (by simp [List.getLast?_append, hlast])
    rw [h.policy _ hlast] at htwice
    exact (Except.ok.inj htwice).symm
  have henabled : m'.enabled = m.enabled := by
    rw [Bool.eq_iff_iff, h'.enabled, h.enabled]
    simp
  have hunits : m'.units = m.units := by
    rw [h'.units, h.units]
  cases m
  cases m'
  simp_all

end Merging

namespace Config

section Steps

variable {g : Graph} {entry : ModuleEntry} {policy : Policy}

theorem registerEntry_known (hpolicy : entry.policy.build = .ok policy) {order : Nat}
    (hname : g.moduleIndex[entry.name]? = some order) :
    registerEntry g entry = g.updateModule order (entry.extend policy) := by
  have hcompose : ∀ f f' : Module → Module,
      (g.modules.modify order f).modify order f' = g.modules.modify order (f' ∘ f) := by
    intro f f'
    apply Array.ext_getElem?
    intro i
    simp only [Array.getElem?_modify]
    split <;> simp
  by_cases hdisabled : entry.enabled = some false
  · have hextend : (fun m : Module => { m with enabled := false }) ∘ (fun m : Module =>
        { m with
          roots := Graph.mergeRegions m.roots entry.roots
          excluded := Graph.mergeRegions m.excluded entry.excluded
          policy := (some policy).getD m.policy }) = entry.extend policy := by
      funext m
      simp [ModuleEntry.extend, hdisabled]
    simp only [registerEntry, Graph.register, hpolicy, hname, if_pos hdisabled, Graph.disable,
      Graph.updateNamed, Graph.updateModule, hcompose, hextend]
  · have hextend : (fun m : Module =>
        { m with
          roots := Graph.mergeRegions m.roots entry.roots
          excluded := Graph.mergeRegions m.excluded entry.excluded
          policy := (some policy).getD m.policy }) = entry.extend policy := by
      have henabled : (entry.enabled != some false) = true := bne_iff_ne.mpr hdisabled
      funext m
      simp only [ModuleEntry.extend, henabled, Bool.and_true, Option.getD_some]
    simp only [registerEntry, Graph.register, hpolicy, hname, if_neg hdisabled, hextend]

theorem registerEntry_new (hpolicy : entry.policy.build = .ok policy)
    (hname : g.moduleIndex[entry.name]? = none) :
    registerEntry g entry =
      { g with
        modules := g.modules.push
          (entry.extend policy { order := g.modules.size, name := entry.name })
        moduleIndex := g.moduleIndex.insert entry.name g.modules.size } := by
  have hadded : (g.addModule entry.name).moduleIndex[entry.name]? = some g.modules.size := by
    simp [Graph.addModule]
  have hsame : registerEntry g entry = registerEntry (g.addModule entry.name) entry := by
    simp only [registerEntry, Graph.register, hname, hadded]
  have hmodules : (g.addModule entry.name).modules.modify g.modules.size (entry.extend policy) =
      g.modules.push (entry.extend policy { order := g.modules.size, name := entry.name }) := by
    apply Array.ext_getElem?
    intro i
    simp only [Graph.addModule, Array.getElem?_modify, Array.getElem?_push]
    by_cases hi : i = g.modules.size
    · simp [hi]
    · simp [hi, Ne.symm hi]
  rw [hsame, registerEntry_known hpolicy hadded, Graph.updateModule, hmodules]
  rfl

end Steps

/-- What the graph looks like once some entries are registered in the empty
one. -/
structure Registered (done : List ModuleEntry) (g : Graph) : Prop where
  wellFormed : g.WellFormed
  names : g.modules.toList.map (·.name) = (done.map (·.name)).eraseDups
  merged : ∀ m ∈ g.modules, m.IsMerged (done.filter fun entry => entry.name == m.name)

namespace Registered

variable {done : List ModuleEntry} {g : Graph}

theorem empty : Registered [] Graph.empty where
  wellFormed := .empty
  names := rfl
  merged m hm := by simp [Graph.empty] at hm

theorem exists_entry_iff (h : Registered done g) {name : String} :
    (∃ order, g.moduleIndex[name]? = some order) ↔ ∃ entry ∈ done, entry.name = name := by
  have hlisted : name ∈ g.modules.toList.map (·.name) ↔ name ∈ done.map (·.name) := by
    rw [h.names, List.mem_eraseDups]
  simp only [List.mem_map, Array.mem_toList_iff] at hlisted
  rw [← hlisted]
  constructor
  · rintro ⟨order, horder⟩
    obtain ⟨m, hm, hname⟩ := (h.wellFormed.modules.indexed _ _).mp horder
    exact ⟨m, Array.mem_of_getElem? hm, hname⟩
  · rintro ⟨m, hm, rfl⟩
    exact ⟨m.order, h.wellFormed.modules.index_of_mem hm⟩

theorem filter_concat_of_ne {entry : ModuleEntry} {name : String} (hne : entry.name ≠ name) :
    (done ++ [entry]).filter (fun entry => entry.name == name) =
      done.filter fun entry => entry.name == name := by
  simp [hne]

theorem filter_concat_of_eq {entry : ModuleEntry} {name : String} (hname : entry.name = name) :
    (done ++ [entry]).filter (fun entry => entry.name == name) =
      (done.filter fun entry => entry.name == name) ++ [entry] := by
  simp [hname]

theorem step_known (h : Registered done g) {entry : ModuleEntry} {policy : Policy}
    (hpolicy : entry.policy.build = .ok policy) {order : Nat}
    (hname : g.moduleIndex[entry.name]? = some order) :
    Registered (done ++ [entry]) (registerEntry g entry) where
  wellFormed := wellFormed_registerEntry h.wellFormed entry
  names := by
    have hkept : (g.modules.modify order (entry.extend policy)).toList.map (·.name) =
        g.modules.toList.map (·.name) := by
      apply List.ext_getElem?
      intro i
      simp only [List.getElem?_map, Array.getElem?_toList, Array.getElem?_modify]
      split
      · cases g.modules[i]? <;> rfl
      · rfl
    obtain ⟨known, hknown, hsame⟩ := h.exists_entry_iff.mp ⟨order, hname⟩
    have hmem : entry.name ∈ done.map (·.name) := hsame ▸ List.mem_map_of_mem hknown
    rw [registerEntry_known hpolicy hname, Graph.updateModule, hkept, h.names, List.map_append,
      List.map_singleton, eraseDups_concat, if_pos (List.elem_iff.mpr hmem)]
  merged m hm := by
    rw [registerEntry_known hpolicy hname, Graph.updateModule] at hm
    obtain ⟨i, hi⟩ := Array.mem_iff_getElem?.mp hm
    obtain ⟨owner, howner, hnamed⟩ := (h.wellFormed.modules.indexed _ _).mp hname
    rw [Array.getElem?_modify] at hi
    split at hi
    · rename_i horder
      rw [← horder, howner, Option.map_some] at hi
      cases hi
      have hmerged := (h.merged owner (Array.mem_of_getElem? howner)).extend hpolicy
      rwa [← filter_concat_of_eq hnamed.symm] at hmerged
    · rename_i horder
      have hne : entry.name ≠ m.name := by
        intro heq
        exact horder (h.wellFormed.modules.indexed.place_unique howner hi (hnamed.trans heq))
      rw [filter_concat_of_ne hne]
      exact h.merged m (Array.mem_of_getElem? hi)

theorem step_new (h : Registered done g) {entry : ModuleEntry} {policy : Policy}
    (hpolicy : entry.policy.build = .ok policy) (hname : g.moduleIndex[entry.name]? = none) :
    Registered (done ++ [entry]) (registerEntry g entry) := by
  have hfresh : ∀ known ∈ done, known.name ≠ entry.name := by
    intro known hknown hsame
    obtain ⟨order, horder⟩ := h.exists_entry_iff.mpr ⟨known, hknown, hsame⟩
    rw [hname] at horder
    cases horder
  refine ⟨wellFormed_registerEntry h.wellFormed entry, ?_, ?_⟩
  · have hnot : ¬(done.map (·.name)).elem entry.name = true := by
      simpa [eq_comm] using hfresh
    rw [registerEntry_new hpolicy hname, Array.toList_push, List.map_append, h.names,
      List.map_append, List.map_singleton, List.map_singleton, eraseDups_concat, if_neg hnot]
    rfl
  · intro m hm
    rw [registerEntry_new hpolicy hname] at hm
    rcases Array.mem_push.mp hm with hm | rfl
    · have hne : entry.name ≠ m.name := by
        intro heq
        obtain ⟨i, hi⟩ := Array.mem_iff_getElem?.mp hm
        exact h.wellFormed.modules.indexed.name_ne hname hi heq.symm
      rw [filter_concat_of_ne hne]
      exact h.merged m hm
    · have hnone : done.filter (fun known => known.name == entry.name) = [] := by
        simpa using hfresh
      have hstart : Module.IsMerged [] { order := g.modules.size, name := entry.name } :=
        ⟨rfl, rfl, by simp, by simp, rfl⟩
      show Module.IsMerged ((done ++ [entry]).filter fun known => known.name == entry.name) _
      rw [filter_concat_of_eq rfl, hnone]
      exact hstart.extend hpolicy

theorem foldl_registerEntry (h : Registered done g) (entries : List ModuleEntry)
    (hpolicies : ∀ entry ∈ entries, ∃ policy, entry.policy.build = .ok policy) :
    Registered (done ++ entries) (entries.foldl registerEntry g) := by
  induction entries generalizing done g with
  | nil => simpa using h
  | cons entry entries ih =>
      obtain ⟨⟨policy, hpolicy⟩, hrest⟩ := List.forall_mem_cons.mp hpolicies
      rw [List.foldl_cons, List.append_cons]
      apply ih _ hrest
      cases hname : g.moduleIndex[entry.name]? with
      | some order => exact h.step_known hpolicy hname
      | none => exact h.step_new hpolicy hname

/-- Modules are settled by the entries of their names, so that reading all
entries a second time changes nothing. -/
theorem eq_of_twice {after : Graph} (h : Registered done g) (h' : Registered (done ++ done) after) :
    after.modules = g.modules := by
  have hnames : after.modules.toList.map (·.name) = g.modules.toList.map (·.name) := by
    rw [h'.names, h.names, List.map_append, eraseDups_append_self]
  apply Array.ext_getElem?
  intro i
  have hname := congrArg (·[i]?) hnames
  simp only [List.getElem?_map, Array.getElem?_toList] at hname
  cases hm : g.modules[i]? with
  | none =>
      rw [hm, Option.map_none, Option.map_eq_none_iff] at hname
      exact hname
  | some m =>
      rw [hm, Option.map_some, Option.map_eq_some_iff] at hname
      obtain ⟨m', hm', hsame⟩ := hname
      have hmem := Array.mem_of_getElem? hm
      have hmerged' := h'.merged m' (Array.mem_of_getElem? hm')
      rw [hsame, List.filter_append] at hmerged'
      obtain ⟨entry, hentry, hentryName⟩ :=
        h.exists_entry_iff.mp ⟨m.order, h.wellFormed.modules.index_of_mem hmem⟩
      have hentries : done.filter (fun entry => entry.name == m.name) ≠ [] :=
        List.ne_nil_of_mem (List.mem_filter.mpr ⟨hentry, by simpa using hentryName⟩)
      have horder : m'.order = m.order := by
        rw [h'.wellFormed.modules.numbered hm', h.wellFormed.modules.numbered hm]
      rw [hm', (h.merged m hmem).eq_of_twice hmerged' hentries horder hsame]

end Registered

theorem foldl_registerEntry_known {g : Graph} {entries : List ModuleEntry}
    (hknown : ∀ entry ∈ entries, (∃ policy, entry.policy.build = .ok policy) ∧
      ∃ order, g.moduleIndex[entry.name]? = some order) :
    entries.foldl registerEntry g =
      { g with modules := (entries.foldl registerEntry g).modules } := by
  induction entries generalizing g with
  | nil => rfl
  | cons entry entries ih =>
      obtain ⟨⟨⟨policy, hpolicy⟩, order, hname⟩, hrest⟩ := List.forall_mem_cons.mp hknown
      rw [List.foldl_cons, registerEntry_known hpolicy hname]
      exact ih hrest

/-- A configuration is refused for the faults of its entries and for nothing
else, and the graph stays behind unchanged. Otherwise the modules that it gives
the empty graph are those of its distinct names, each merged from its entries,
and a second registration changes nothing. -/
theorem apply_merges (c : Config) (g : Graph) :
    ((∃ faults, c.apply g = .error faults) ↔ ∃ entry ∈ c.modules, entry.HasFault) ∧
      (c.register.run g = match c.apply g with
        | .ok after => .ok () after
        | .error faults => .error faults g) ∧
      ((∀ entry ∈ c.modules, ¬entry.HasFault) →
        ∃ start, c.apply Graph.empty = .ok start ∧
          start.modules.toList.map (·.name) = (c.modules.map (·.name)).eraseDups ∧
          (∀ m ∈ start.modules,
            let entries := c.modules.filter fun entry => entry.name == m.name
            m.roots = (entries.flatMap (·.roots)).eraseDups ∧
              m.excluded = (entries.flatMap (·.excluded)).eraseDups ∧
              (∃ last, entries.getLast? = some last ∧ last.policy.build = .ok m.policy ∧
                last.policy.Describes m.policy) ∧
              (m.enabled = true ↔ ∀ entry ∈ entries, entry.enabled ≠ some false)) ∧
          c.apply start = .ok start) := by
  refine ⟨c.apply_eq_error_iff g, c.register_run g, ?_⟩
  intro hfree
  have hfaults : c.faults = [] := faults_eq_nil_iff.mpr hfree
  have hpolicies : ∀ entry ∈ c.modules, ∃ policy, entry.policy.build = .ok policy ∧
      entry.policy.Describes policy := by
    intro entry hentry
    rcases entry.policy.build_cases with ⟨policy, hbuild, hdescribes, -⟩ | ⟨-, hfault⟩
    · exact ⟨policy, hbuild, hdescribes⟩
    · exact absurd (.policy hfault) (hfree entry hentry)
  have hbuilds : ∀ entry ∈ c.modules, ∃ policy, entry.policy.build = .ok policy :=
    fun entry hentry => (hpolicies entry hentry).imp fun _ h => h.1
  have happly : ∀ g, c.apply g = .ok (c.modules.foldl registerEntry g) := by
    intro g
    simp only [apply, hfaults]
  have hregistered : Registered c.modules (c.modules.foldl registerEntry Graph.empty) := by
    simpa using Registered.empty.foldl_registerEntry c.modules hbuilds
  generalize hstart : c.modules.foldl registerEntry Graph.empty = start at hregistered
  refine ⟨start, by rw [happly, hstart], hregistered.names, ?_, ?_⟩
  · intro m hm
    have hmerged := hregistered.merged m hm
    obtain ⟨entry, hentry, hname⟩ :=
      hregistered.exists_entry_iff.mp ⟨m.order, hregistered.wellFormed.modules.index_of_mem hm⟩
    have hentries : c.modules.filter (fun entry => entry.name == m.name) ≠ [] :=
      List.ne_nil_of_mem (List.mem_filter.mpr ⟨hentry, by simpa using hname⟩)
    have hlast := List.getLast?_eq_some_getLast hentries
    have hbuild := hmerged.policy _ hlast
    refine ⟨hmerged.roots, hmerged.excluded, ⟨_, hlast, hbuild, ?_⟩, hmerged.enabled⟩
    obtain ⟨policy, hpolicy, hdescribes⟩ :=
      hpolicies _ (List.mem_of_mem_filter (List.getLast_mem hentries))
    rw [hpolicy] at hbuild
    exact Except.ok.inj hbuild ▸ hdescribes
  · have htwice := hregistered.foldl_registerEntry c.modules hbuilds
    rw [happly, foldl_registerEntry_known, hregistered.eq_of_twice htwice]
    intro entry hentry
    exact ⟨hbuilds entry hentry, hregistered.exists_entry_iff.mpr ⟨entry, hentry, rfl⟩⟩

/-- Two entries of one name with another one between them. -/
def layered : Config where
  modules :=
    [{ name := "core"
       roots := [{ scope := "app/core" }, { directory := "core" }]
       policy := { rules := [{ deny := "*" }] } },
     { name := "api", roots := [{ scope := "app/api" }] },
     { name := "core"
       roots := [{ directory := "core" }, { scope := "app/kernel" }]
       enabled := some false
       policy := { fallback := " Deny\n" } }]

theorem apply_merges_layered :
    (∀ entry ∈ layered.modules, ¬entry.HasFault) ∧
      ∃ start, layered.apply Graph.empty = .ok start ∧
        start.modules.toList.map (·.name) = ["core", "api"] ∧
        (∀ m ∈ start.modules, m.name = "core" →
          m.roots = [{ scope := "app/core" }, { directory := "core" }, { scope := "app/kernel" }] ∧
            m.policy = { fallback := .deny } ∧ m.enabled = false) ∧
        layered.apply start = .ok start := by
  have hfree : ∀ entry ∈ layered.modules, ¬entry.HasFault :=
    faults_eq_nil_iff.mp (by decide)
  obtain ⟨start, happly, hnames, hmerged, htwice⟩ :=
    (apply_merges layered Graph.empty).2.2 hfree
  refine ⟨hfree, start, happly, hnames.trans (by decide), ?_, htwice⟩
  intro m hm hname
  obtain ⟨hroots, -, ⟨last, hlast, hbuild, -⟩, henabled⟩ := hmerged m hm
  rw [hname] at hroots hlast henabled
  refine ⟨hroots.trans (by decide), ?_, ?_⟩
  · cases hlast
    exact (Except.ok.inj hbuild).symm.trans (by decide)
  · rw [Bool.eq_false_iff, Ne, henabled]
    decide

/-- A limit that is not a number lies in no range, and yet it is accepted. -/
theorem apply_accepts_notANumber :
    ¬Number.Binary64.notANumber.IsRate ∧
      ∃ start, (⟨[{ name := "core", policy := { maxDistance := some .notANumber } }]⟩ :
        Config).apply Graph.empty = .ok start := by
  constructor
  · rintro ⟨hfinite, -⟩
    cases hfinite
  · exact ⟨_, rfl⟩

end Config

end ArchLint
