import ArchLint.Report
import ArchLint.Proofs.Aggregation
import ArchLint.Proofs.Analysis
import Mathlib.Data.Prod.Lex

namespace ArchLint

section Order

variable {α β κ ν : Type}

theorem pairwise_flatMap_toLex [LT κ] [LT ν] {as : List α} {f : α → List β} {key : α → κ}
    {first : β → κ} {second : β → ν} (has : as.Pairwise (fun a b => key a < key b))
    (hf : ∀ a ∈ as, (f a).Pairwise (fun x y => second x < second y))
    (hfirst : ∀ a ∈ as, ∀ x ∈ f a, first x = key a) :
    (as.flatMap f).Pairwise
      (fun x y => toLex (first x, second x) < toLex (first y, second y)) := by
  rw [List.pairwise_flatMap]
  constructor
  · intro a ha
    refine (hf a ha).imp_of_mem ?_
    intro x y hx hy hxy
    rw [hfirst a ha x hx, hfirst a ha y hy]
    exact Prod.Lex.toLex_lt_toLex.mpr (.inr ⟨rfl, hxy⟩)
  · refine has.imp_of_mem ?_
    intro a b ha hb hab x hx y hy
    refine Prod.Lex.toLex_lt_toLex.mpr (.inl ?_)
    change first x < first y
    rw [hfirst a ha x hx, hfirst b hb y hy]
    exact hab

theorem eq_of_increasing (key : α → Nat) {as bs : List α}
    (has : as.Pairwise (fun a b => key a < key b)) (hbs : bs.Pairwise (fun a b => key a < key b))
    (hmem : ∀ a, a ∈ as ↔ a ∈ bs) : as = bs := by
  have hnodup : ∀ {cs : List α}, cs.Pairwise (fun a b => key a < key b) → cs.Nodup := by
    intro cs hcs
    refine hcs.imp ?_
    rintro a b hab rfl
    exact Nat.lt_irrefl _ hab
  have hperm := (List.perm_ext_iff_of_nodup (hnodup has) (hnodup hbs)).mpr hmem
  refine hperm.eq_of_pairwise ?_ has hbs
  intro a b _ _ hab hba
  exact absurd hab (Nat.lt_asymm hba)

theorem pairwise_eraseDups [BEq α] [LawfulBEq α] {R : α → α → Prop} {as : List α}
    (has : as.Pairwise R) : as.eraseDups.Pairwise (fun a b => R a b ∧ a ≠ b) := by
  induction hlength : as.length using Nat.strongRecOn generalizing as with
  | ind n ih =>
      cases as with
      | nil => exact .nil
      | cons a as =>
          obtain ⟨ha, has⟩ := List.pairwise_cons.mp has
          have hshorter : (as.filter fun b => !b == a).length < n := by
            have := as.length_filter_le fun b => !b == a
            simp only [List.length_cons] at hlength
            omega
          rw [List.eraseDups_cons]
          refine List.pairwise_cons.mpr ⟨?_, ih _ hshorter (has.filter _) rfl⟩
          intro b hb
          obtain ⟨hb, hne⟩ := List.mem_filter.mp (List.mem_eraseDups.mp hb)
          refine ⟨ha b hb, ?_⟩
          rintro rfl
          simp at hne

end Order

namespace Graph

section Specification

variable [Matching] (g : Graph) (m : Module) (u t : CodeUnit)

/-- A member of `m` depends on a unit of a module that the policy of `m` does
not allow. -/
def IsForbidden : Prop :=
  ∃ d, g.Crossing m d u t ∧ m.policy.allows m.name d.name = false

/-- A member of `m` depends on a unit of a module that the policy of `m`
allows, and that module does not expose the unit. -/
def IsLeak : Prop :=
  ∃ d, g.Crossing m d u t ∧ m.policy.allows m.name d.name = true ∧
    d.policy.exposes d.name t = false

end Specification

/-- Units come in the order of their modules and then of their numbers. -/
def targetKey (g : Graph) (t : CodeUnit) : Nat ×ₗ Nat :=
  toLex ((g.ownerOf? t).elim 0 (·.order), t.id)

/-- Pairs of units come in the order of the targets and then of the sources. -/
def violationKey (g : Graph) (pair : CodeUnit × CodeUnit) : (Nat ×ₗ Nat) ×ₗ Nat :=
  toLex (g.targetKey pair.2, pair.1.id)

/-- A list of violations that has the pairs of a relation, each once and in
their order. -/
def Enumerates (g : Graph) (violations : List UnitViolation) (R : CodeUnit → CodeUnit → Prop) :
    Prop :=
  ∃ pairs : List (CodeUnit × CodeUnit),
    violations = pairs.map (fun p => ⟨Report.unitRef p.1, Report.unitRef p.2⟩) ∧
      pairs.Pairwise (fun p q => g.violationKey p < g.violationKey q) ∧
      ∀ u t, (u, t) ∈ pairs ↔ R u t

section Units

variable {g : Graph} {m d : Module} {u t : CodeUnit}

theorem IsArchitecture.crossing (h : g.IsArchitecture) {u' t' : CodeUnit}
    (hc : g.Crossing m d u t) (hu' : u' ∈ g.units) (hmember : m.contains u' = true)
    (ht' : t' ∈ g.units) (hedge : t'.id ∈ u'.dependencies) (howner : g.ownerOf? t' = some d) :
    g.Crossing m d u' t' := by
  have hname := ((h.ownerOf?_eq_some_iff hc.target).mp hc.owner).2
  have hname' := ((h.ownerOf?_eq_some_iff ht').mp howner).2
  have hprimitive : t'.isPrimitive = false := by
    rw [Bool.eq_false_iff, Ne, ← h.primitives t' ht', hname', ← hname, h.primitives t hc.target]
    simp [hc.not_primitive]
  refine ⟨hu', hmember, ht', hedge, hprimitive, ?_, howner, hc.other⟩
  intro hscope
  have hglobal := (h.global t' ht').mpr ⟨hprimitive, hscope⟩
  rw [hname', ← hname, h.global t hc.target] at hglobal
  exact hc.has_scope hglobal.2

theorem Crossing.of_edge {u' : CodeUnit} (hc : g.Crossing m d u' t) (hu : u ∈ g.units)
    (hmember : m.contains u = true) (hedge : t.id ∈ u.dependencies) : g.Crossing m d u t :=
  { hc with source := hu, member := hmember, edge := hedge }

theorem IsArchitecture.mem_dependencyUnits_iff (h : g.IsArchitecture) (hm : m ∈ g.modules) :
    d ∈ g.dependencyModules m ∧ t ∈ g.dependencyUnits m d ↔ ∃ u, g.Crossing m d u t := by
  rw [h.mem_dependencyModules hm]
  constructor
  · rintro ⟨⟨u', t', hc⟩, ht⟩
    have hd := WellFormed.ownerOf?_mem hc.owner
    obtain ⟨ht, howner, u, hu, hmember, hedge⟩ := (h.mem_dependencyUnits hm hd).mp ht
    exact ⟨u, h.crossing hc hu hmember ht hedge howner⟩
  · rintro ⟨u, hc⟩
    refine ⟨⟨u, t, hc⟩, (h.mem_dependencyUnits hm (WellFormed.ownerOf?_mem hc.owner)).mpr ?_⟩
    exact ⟨hc.target, hc.owner, u, hc.source, hc.member, hc.edge⟩

variable [Matching]

theorem IsArchitecture.mem_illegalUnits (h : g.IsArchitecture) (hm : m ∈ g.modules)
    {onlyAllowed : Bool} :
    t ∈ g.illegalUnits m onlyAllowed ↔
      ∃ u, (g.IsForbidden m u t ∧ onlyAllowed = false) ∨ g.IsLeak m u t := by
  simp only [illegalUnits, List.mem_flatMap]
  constructor
  · rintro ⟨d, hd, ht⟩
    cases hallowed : m.policy.allows m.name d.name with
    | false =>
        cases onlyAllowed with
        | true => simp [hallowed] at ht
        | false =>
            have ht : t ∈ g.dependencyUnits m d := by simpa [hallowed] using ht
            obtain ⟨u, hc⟩ := (h.mem_dependencyUnits_iff hm).mp ⟨hd, ht⟩
            exact ⟨u, .inl ⟨⟨d, hc, hallowed⟩, rfl⟩⟩
    | true =>
        have ht : t ∈ g.dependencyUnits m d ∧ d.policy.exposes d.name t = false := by
          simpa [hallowed] using ht
        obtain ⟨u, hc⟩ := (h.mem_dependencyUnits_iff hm).mp ⟨hd, ht.1⟩
        exact ⟨u, .inr ⟨d, hc, hallowed, ht.2⟩⟩
  · rintro ⟨u, ⟨⟨d, hc, hallowed⟩, rfl⟩ | ⟨d, hc, hallowed, hexposes⟩⟩
    · obtain ⟨hd, ht⟩ := (h.mem_dependencyUnits_iff hm).mpr ⟨u, hc⟩
      exact ⟨d, hd, by simpa [hallowed] using ht⟩
    · obtain ⟨hd, ht⟩ := (h.mem_dependencyUnits_iff hm).mpr ⟨u, hc⟩
      exact ⟨d, hd, by simpa [hallowed, hexposes] using ht⟩

theorem IsSealed.increasing_illegalUnits (h : g.IsSealed) (hm : m ∈ g.modules)
    (onlyAllowed : Bool) :
    (g.illegalUnits m onlyAllowed).Pairwise (fun s t => g.targetKey s < g.targetKey t) := by
  have hsub : ∀ d, List.Sublist
      (let allowed := m.policy.allows m.name d.name
        if !allowed && onlyAllowed then []
        else (g.dependencyUnits m d).filter fun u => !allowed || !d.policy.exposes d.name u)
      (g.dependencyUnits m d) := by
    intro d
    dsimp only
    split
    · exact List.nil_sublist _
    · exact List.filter_sublist
  refine pairwise_flatMap_toLex (h.wellFormed.increasing_ownersOf _) ?_ ?_
  · intro d _
    exact (h.wellFormed.increasing_unitsOf _).sublist (hsub d)
  · intro d hd t ht
    obtain ⟨u, t', hc⟩ := (h.mem_dependencyModules hm).mp hd
    have hmem := (h.mem_dependencyUnits hm (WellFormed.ownerOf?_mem hc.owner)).mp
      ((hsub d).subset ht)
    rw [hmem.2.1]
    rfl

end Units

namespace Enumerates

variable {g : Graph} {violations violations' : List UnitViolation}
  {R R' : CodeUnit → CodeUnit → Prop}

theorem congr (h : g.Enumerates violations R) (hR : ∀ u t, R u t ↔ R' u t) :
    g.Enumerates violations R' := by
  obtain ⟨pairs, hmap, hordered, hmem⟩ := h
  exact ⟨pairs, hmap, hordered, fun u t => (hmem u t).trans (hR u t)⟩

theorem flatMap_violationsOn (h : g.IsSealed) {m : Module} {targets : List CodeUnit}
    (hordered : targets.Pairwise (fun s t => g.targetKey s < g.targetKey t))
    (htargets : ∀ t ∈ targets, t ∈ g.units) :
    g.Enumerates (targets.flatMap (Report.violationsOn g m)) fun u t =>
      t ∈ targets ∧ u ∈ g.units ∧ m.contains u = true ∧ t.id ∈ u.dependencies := by
  refine ⟨targets.flatMap fun t =>
    ((g.unitsOf t.dependents.toList).filter m.contains).map fun u => (u, t), ?_, ?_, ?_⟩
  · simp only [List.map_flatMap, List.map_map]
    rfl
  · refine pairwise_flatMap_toLex hordered ?_ ?_
    · intro t _
      rw [List.pairwise_map]
      exact (h.wellFormed.increasing_unitsOf t.dependents).filter _
    · intro t _ pair hpair
      obtain ⟨u, -, rfl⟩ := List.mem_map.mp hpair
      rfl
  · intro u t
    simp only [List.mem_flatMap, List.mem_map, List.mem_filter, Prod.mk.injEq,
      h.wellFormed.mem_unitsOf, IdSet.mem_toList]
    constructor
    · rintro ⟨t', ht, u', ⟨⟨hu, hdependent⟩, hmember⟩, rfl, rfl⟩
      exact ⟨ht, hu, hmember, (h.wellFormed.mem_dependents_iff hu (htargets _ ht)).mp hdependent⟩
    · rintro ⟨ht, hu, hmember, hedge⟩
      have hdependent := (h.wellFormed.mem_dependents_iff hu (htargets t ht)).mpr hedge
      exact ⟨t, ht, u, ⟨⟨hu, hdependent⟩, hmember⟩, rfl, rfl⟩

theorem eq_of_violation_eq (hg : g.WellFormed) {u u' t t' : CodeUnit} (hu : u ∈ g.units)
    (hu' : u' ∈ g.units) (ht : t ∈ g.units) (ht' : t' ∈ g.units)
    (heq : UnitViolation.mk (Report.unitRef u) (Report.unitRef t) =
      ⟨Report.unitRef u', Report.unitRef t'⟩) : u = u' ∧ t = t' := by
  injection heq with hsource htarget
  exact ⟨hg.units.eq_of_name hu hu' (congrArg UnitRef.name hsource),
    hg.units.eq_of_name ht ht' (congrArg UnitRef.name htarget)⟩

theorem nodup (h : g.Enumerates violations R) (hg : g.WellFormed)
    (hR : ∀ u t, R u t → u ∈ g.units ∧ t ∈ g.units) : violations.Nodup := by
  obtain ⟨pairs, rfl, hordered, hmem⟩ := h
  rw [List.Nodup, List.pairwise_map]
  refine hordered.imp_of_mem ?_
  rintro ⟨u, t⟩ ⟨u', t'⟩ hpair hpair' hlt heq
  obtain ⟨hu, ht⟩ := hR u t ((hmem u t).mp hpair)
  obtain ⟨hu', ht'⟩ := hR u' t' ((hmem u' t').mp hpair')
  obtain ⟨rfl, rfl⟩ := eq_of_violation_eq hg hu hu' ht ht' heq
  exact lt_irrefl _ hlt

theorem disjoint (h : g.Enumerates violations R) (h' : g.Enumerates violations' R')
    (hg : g.WellFormed) (hR : ∀ u t, R u t → u ∈ g.units ∧ t ∈ g.units)
    (hR' : ∀ u t, R' u t → u ∈ g.units ∧ t ∈ g.units) (hne : ∀ u t, R u t → ¬R' u t) :
    violations.Disjoint violations' := by
  obtain ⟨pairs, rfl, -, hmem⟩ := h
  obtain ⟨pairs', rfl, -, hmem'⟩ := h'
  intro v hv hv'
  obtain ⟨⟨u, t⟩, hpair, rfl⟩ := List.mem_map.mp hv
  obtain ⟨⟨u', t'⟩, hpair', heq⟩ := List.mem_map.mp hv'
  have hut := (hmem u t).mp hpair
  have hut' := (hmem' u' t').mp hpair'
  obtain ⟨rfl, rfl⟩ := eq_of_violation_eq hg (hR' u' t' hut').1 (hR u t hut).1
    (hR' u' t' hut').2 (hR u t hut).2 heq
  exact hne _ _ hut hut'

end Enumerates

section Entries

variable [Matching] {g : Graph} {m : Module} {u t : CodeUnit}

theorem IsForbidden.mem_units (h : g.IsForbidden m u t) : u ∈ g.units ∧ t ∈ g.units := by
  obtain ⟨d, hc, -⟩ := h
  exact ⟨hc.source, hc.target⟩

theorem IsLeak.mem_units (h : g.IsLeak m u t) : u ∈ g.units ∧ t ∈ g.units := by
  obtain ⟨d, hc, -⟩ := h
  exact ⟨hc.source, hc.target⟩

theorem IsForbidden.not_isLeak {u' : CodeUnit} (h : g.IsForbidden m u t) :
    ¬g.IsLeak m u' t := by
  obtain ⟨d, hc, hdenied⟩ := h
  rintro ⟨d', hc', hallowed, -⟩
  obtain rfl : d = d' := Option.some.inj (hc.owner.symm.trans hc'.owner)
  rw [hdenied] at hallowed
  cases hallowed

theorem IsArchitecture.mem_leaked (h : g.IsArchitecture) (hm : m ∈ g.modules)
    (ht : t ∈ g.units) :
    ((g.illegalUnits m true).map (·.id)).elem t.id = true ↔ ∃ u, g.IsLeak m u t := by
  have hmem : t ∈ g.illegalUnits m true ↔ ∃ u, g.IsLeak m u t := by
    simp [h.mem_illegalUnits hm]
  rw [List.elem_iff, List.mem_map, ← hmem]
  constructor
  · rintro ⟨t', ht', hid⟩
    obtain ⟨u, hu⟩ := (h.mem_illegalUnits hm).mp ht'
    have hunits : t' ∈ g.units := hu.elim (fun hu => hu.1.mem_units.2) fun hu => hu.mem_units.2
    rwa [h.wellFormed.units.eq_of_number hunits ht hid] at ht'
  · intro ht
    exact ⟨t, ht, rfl⟩

theorem IsArchitecture.mem_illegalUnits_false (h : g.IsArchitecture) (hm : m ∈ g.modules) :
    t ∈ g.illegalUnits m false ↔ ∃ u, g.IsForbidden m u t ∨ g.IsLeak m u t := by
  simp [h.mem_illegalUnits hm]

theorem IsArchitecture.mem_units_of_illegal (h : g.IsArchitecture) (hm : m ∈ g.modules)
    (ht : t ∈ g.illegalUnits m false) : t ∈ g.units := by
  obtain ⟨u, hu | hu⟩ := (h.mem_illegalUnits_false hm).mp ht
  · exact hu.mem_units.2
  · exact hu.mem_units.2

theorem IsArchitecture.enumerates_forbidden (h : g.IsArchitecture) (hm : m ∈ g.modules)
    (henabled : m.enabled = true) :
    g.Enumerates (Report.entryOf g m).forbidden (g.IsForbidden m) := by
  simp only [Report.entryOf, henabled, if_true, List.partition_eq_filter_filter]
  have hordered := (h.increasing_illegalUnits hm false).filter
    (not ∘ fun t => ((g.illegalUnits m true).map (·.id)).elem t.id)
  refine (Enumerates.flatMap_violationsOn h.toIsSealed hordered ?_).congr ?_
  · intro t ht
    exact h.mem_units_of_illegal hm (List.mem_filter.mp ht).1
  · intro u t
    rw [List.mem_filter]
    constructor
    · rintro ⟨⟨ht, hnot⟩, hu, hmember, hedge⟩
      have hleak := (h.mem_leaked hm (h.mem_units_of_illegal hm ht)).not.mp (by simpa using hnot)
      -- the target may be illegal because of another member than `u`
      obtain ⟨u', ⟨d, hc, hdenied⟩ | hu'⟩ := (h.mem_illegalUnits_false hm).mp ht
      · exact ⟨d, hc.of_edge hu hmember hedge, hdenied⟩
      · exact absurd ⟨u', hu'⟩ hleak
    · intro hforbidden
      have ⟨d, hc, hdenied⟩ := hforbidden
      have hleak : ¬∃ u', g.IsLeak m u' t := fun ⟨u', hu'⟩ => hforbidden.not_isLeak hu'
      rw [← h.mem_leaked hm hc.target] at hleak
      refine ⟨⟨(h.mem_illegalUnits_false hm).mpr ⟨u, .inl hforbidden⟩, ?_⟩, hc.source, hc.member,
        hc.edge⟩
      simpa using hleak

theorem IsArchitecture.enumerates_leaks (h : g.IsArchitecture) (hm : m ∈ g.modules)
    (henabled : m.enabled = true) :
    g.Enumerates (Report.entryOf g m).leaks (g.IsLeak m) := by
  simp only [Report.entryOf, henabled, if_true, List.partition_eq_filter_filter]
  have hordered := (h.increasing_illegalUnits hm false).filter
    (fun t => ((g.illegalUnits m true).map (·.id)).elem t.id)
  refine (Enumerates.flatMap_violationsOn h.toIsSealed hordered ?_).congr ?_
  · intro t ht
    exact h.mem_units_of_illegal hm (List.mem_filter.mp ht).1
  · intro u t
    rw [List.mem_filter]
    constructor
    · rintro ⟨⟨ht, hleaked⟩, hu, hmember, hedge⟩
      obtain ⟨u', d, hc, hallowed, hhidden⟩ :=
        (h.mem_leaked hm (h.mem_units_of_illegal hm ht)).mp hleaked
      exact ⟨d, hc.of_edge hu hmember hedge, hallowed, hhidden⟩
    · intro hleak
      have ⟨d, hc, hallowed, hhidden⟩ := hleak
      exact ⟨⟨(h.mem_illegalUnits_false hm).mpr ⟨u, .inr hleak⟩,
        (h.mem_leaked hm hc.target).mpr ⟨u, hleak⟩⟩, hc.source, hc.member, hc.edge⟩

end Entries

section Owners

/-- The place of the module of a name. -/
def placeOf (g : Graph) (name : String) : Nat :=
  (g.moduleIndex[name]?).getD 0

theorem WellFormed.placeOf_name {g : Graph} {m : Module} (h : g.WellFormed) (hm : m ∈ g.modules) :
    g.placeOf m.name = m.order := by
  simp [placeOf, h.modules.index_of_mem hm]

theorem place_le_of_violationKey_lt {g : Graph} {p q : CodeUnit × CodeUnit}
    (h : g.violationKey p < g.violationKey q) :
    (g.ownerOf? p.2).elim 0 (·.order) ≤ (g.ownerOf? q.2).elim 0 (·.order) := by
  rcases Prod.Lex.toLex_lt_toLex.mp h with hlt | ⟨heq, -⟩
  · rcases Prod.Lex.toLex_lt_toLex.mp hlt with hlt | ⟨heq, -⟩
    · exact Nat.le_of_lt hlt
    · exact Nat.le_of_eq heq
  · have hpair := congrArg ofLex heq
    exact Nat.le_of_eq (congrArg Prod.fst hpair)

variable {g : Graph} {m : Module}

theorem IsSealed.unitRef_owner (h : g.IsSealed) {u t : CodeUnit} {d : Module}
    (hc : g.Crossing m d u t) : (Report.unitRef t).owner = d.name := by
  simp [Report.unitRef, ((h.ownerOf?_eq_some_iff hc.target).mp hc.owner).2]

variable [Matching] {violations : List UnitViolation}

theorem IsSealed.mem_illegalModules (h : g.IsSealed) (hm : m ∈ g.modules) {d : Module} :
    d ∈ g.illegalModules m ↔
      ∃ u t, g.Crossing m d u t ∧ m.policy.allows m.name d.name = false := by
  simp [illegalModules, h.mem_dependencyModules hm]

theorem IsSealed.mem_modules_of_illegal (h : g.IsSealed) (hm : m ∈ g.modules) {d : Module}
    (hd : d ∈ g.illegalModules m) : d ∈ g.modules := by
  obtain ⟨u, t, hc, -⟩ := (h.mem_illegalModules hm).mp hd
  exact WellFormed.ownerOf?_mem hc.owner

theorem IsSealed.mem_targetOwners (h : g.IsSealed) (hm : m ∈ g.modules)
    (hv : g.Enumerates violations (g.IsForbidden m)) {name : String} :
    name ∈ violations.map (·.target.owner) ↔ ∃ d ∈ g.illegalModules m, d.name = name := by
  obtain ⟨pairs, rfl, -, hmem⟩ := hv
  rw [List.map_map, List.mem_map]
  constructor
  · rintro ⟨⟨u, t⟩, hpair, rfl⟩
    obtain ⟨d, hc, hdenied⟩ := (hmem u t).mp hpair
    exact ⟨d, (h.mem_illegalModules hm).mpr ⟨u, t, hc, hdenied⟩, (h.unitRef_owner hc).symm⟩
  · rintro ⟨d, hd, rfl⟩
    obtain ⟨u, t, hc, hdenied⟩ := (h.mem_illegalModules hm).mp hd
    exact ⟨(u, t), (hmem u t).mpr ⟨d, hc, hdenied⟩, h.unitRef_owner hc⟩

theorem IsSealed.ordered_targetOwners (h : g.IsSealed)
    (hv : g.Enumerates violations (g.IsForbidden m)) :
    (violations.map (·.target.owner)).Pairwise (fun a b => g.placeOf a ≤ g.placeOf b) := by
  obtain ⟨pairs, rfl, hordered, hmem⟩ := hv
  have hplace : ∀ p ∈ pairs,
      g.placeOf (Report.unitRef p.2).owner = (g.ownerOf? p.2).elim 0 (·.order) := by
    rintro ⟨u, t⟩ hpair
    obtain ⟨d, hc, -⟩ := (hmem u t).mp hpair
    rw [h.unitRef_owner hc, hc.owner, h.wellFormed.placeOf_name (WellFormed.ownerOf?_mem hc.owner)]
    rfl
  rw [List.map_map, List.pairwise_map]
  refine hordered.imp_of_mem ?_
  intro p q hp hq hlt
  change g.placeOf (Report.unitRef p.2).owner ≤ g.placeOf (Report.unitRef q.2).owner
  rw [hplace p hp, hplace q hq]
  exact place_le_of_violationKey_lt hlt

/-- The forbidden modules are the owners of the targets, each listed where it
appears first. -/
theorem IsSealed.illegalModules_eq_eraseDups (h : g.IsSealed) (hm : m ∈ g.modules)
    (hv : g.Enumerates violations (g.IsForbidden m)) :
    (g.illegalModules m).map (·.name) = (violations.map (·.target.owner)).eraseDups := by
  have hplace : ∀ d ∈ g.illegalModules m, g.placeOf d.name = d.order := fun d hd =>
    h.wellFormed.placeOf_name (h.mem_modules_of_illegal hm hd)
  refine eq_of_increasing g.placeOf ?_ ?_ ?_
  · rw [List.pairwise_map]
    refine ((h.wellFormed.increasing_ownersOf _).filter _).imp_of_mem ?_
    intro d d' hd hd' hlt
    rwa [hplace d hd, hplace d' hd']
  · refine (pairwise_eraseDups (h.ordered_targetOwners hv)).imp_of_mem ?_
    rintro a b ha hb ⟨hab, hne⟩
    obtain ⟨d, hd, rfl⟩ := (h.mem_targetOwners hm hv).mp (List.mem_eraseDups.mp ha)
    obtain ⟨d', hd', rfl⟩ := (h.mem_targetOwners hm hv).mp (List.mem_eraseDups.mp hb)
    refine Nat.lt_of_le_of_ne hab ?_
    intro heq
    rw [hplace d hd, hplace d' hd'] at heq
    have hmodules := h.wellFormed.modules.eq_of_number (h.mem_modules_of_illegal hm hd)
      (h.mem_modules_of_illegal hm hd') heq
    exact hne (congrArg Module.name hmodules)
  · intro name
    rw [List.mem_eraseDups, h.mem_targetOwners hm hv, List.mem_map]

end Owners

end Graph

namespace Report

section Exactness

variable [Matching]

theorem entryOf_name (g : Graph) (m : Module) : (entryOf g m).name = m.name := by
  unfold entryOf
  dsimp only
  split <;> rfl

theorem entries_build (g : Graph) (root : String) (generatedAt : Timestamp) :
    (build g root generatedAt).entries =
      (g.modules.toList.filter (·.isReportable)).map (entryOf g) := by
  simp only [entries, build]
  split
  · rename_i hempty
    rw [List.isEmpty_iff.mp hempty]
    rfl
  · rfl

theorem mem_entries {g : Graph} {entry : ModuleReport} {root : String} {generatedAt : Timestamp} :
    entry ∈ (build g root generatedAt).entries ↔
      ∃ m ∈ g.modules, m.isReportable = true ∧ entryOf g m = entry := by
  rw [entries_build, List.mem_map]
  simp only [List.mem_filter, Array.mem_toList_iff, and_assoc]

/-- For a configuration without faults and any files, the report lists exactly
the forbidden dependencies and the leaks of every enabled module, each once, by
the module of the target, the target and the source. -/
theorem build_violations (c : Config) (hc : c.faults = []) (files : List ScannedFile)
    (root : String) (generatedAt : Timestamp) :
    ∃ g, Analysis.build c files = .ok g ∧
      ∀ m ∈ g.modules, m.enabled = true → m.isReportable = true →
        ∃ entry ∈ (build g root generatedAt).entries,
          entry.name = m.name ∧
          (∀ other ∈ (build g root generatedAt).entries, other.name = m.name → other = entry) ∧
          g.Enumerates entry.forbidden (g.IsForbidden m) ∧
          g.Enumerates entry.leaks (g.IsLeak m) ∧
          entry.forbidden.Nodup ∧ entry.leaks.Nodup ∧
          entry.forbidden.Disjoint entry.leaks ∧
          entry.illegalModules = (entry.forbidden.map (·.target.owner)).eraseDups := by
  obtain ⟨g, hbuild, hg⟩ := Analysis.build_isArchitecture hc files
  refine ⟨g, hbuild, ?_⟩
  intro m hm henabled hreportable
  have hforbidden := hg.enumerates_forbidden hm henabled
  have hleaks := hg.enumerates_leaks hm henabled
  refine ⟨entryOf g m, mem_entries.mpr ⟨m, hm, hreportable, rfl⟩, entryOf_name g m, ?_,
    hforbidden, hleaks, hforbidden.nodup hg.wellFormed fun _ _ h => h.mem_units,
    hleaks.nodup hg.wellFormed fun _ _ h => h.mem_units, ?_, ?_⟩
  · intro other hother hname
    obtain ⟨m', hm', -, rfl⟩ := mem_entries.mp hother
    rw [entryOf_name] at hname
    rw [hg.wellFormed.modules.eq_of_name hm' hm hname]
  · exact hforbidden.disjoint hleaks hg.wellFormed (fun _ _ h => h.mem_units)
      (fun _ _ h => h.mem_units) fun _ _ h => h.not_isLeak
  · rw [← hg.illegalModules_eq_eraseDups hm hforbidden]
    simp only [entryOf, henabled, if_true]

end Exactness

/-- A module with a rule against another one, and a third that keeps its
unexported units to itself. -/
def guardedConfig : Config where
  modules :=
    [{ name := "a", roots := [{ scope := "a" }], policy := { rules := [{ deny := "b" }] } },
     { name := "b", roots := [{ scope := "b" }] },
     { name := "c", roots := [{ scope := "c" }], policy := { exportedOnly := true } }]

/-- A unit that breaks both policies. -/
def guardedFiles : List ScannedFile :=
  [{ units :=
      [{ scope := "a", name := "a.f", references := ["b.g", "c.h"] },
       { scope := "b", name := "b.g" }, { scope := "c", name := "c.h" }] }]

def guardedGraph : Graph where
  units := #[
    { id := 0, scope := "a", name := "a.f", short := "f", dependencies := .ofList [1, 2],
      owner := some "a" },
    { id := 1, scope := "b", name := "b.g", short := "g", dependents := .ofList [0],
      owner := some "b" },
    { id := 2, scope := "c", name := "c.h", short := "h", dependents := .ofList [0],
      owner := some "c" }]
  unitIndex := ((∅ : Std.HashMap String Nat).insert "a.f" 0).insert "b.g" 1 |>.insert "c.h" 2
  modules := #[
    { order := 0, name := "a", roots := [{ scope := "a" }],
      policy := { rules := [⟨.deny, "b"⟩] }, units := .ofList [0] },
    { order := 1, name := "b", roots := [{ scope := "b" }], units := .ofList [1] },
    { order := 2, name := "c", roots := [{ scope := "c" }], policy := { exportedOnly := true },
      units := .ofList [2] }]
  moduleIndex := ((∅ : Std.HashMap String Nat).insert "a" 0).insert "b" 1 |>.insert "c" 2

theorem guarded_apply : guardedConfig.apply Graph.empty = .ok
    { modules := #[
        { order := 0, name := "a", roots := [{ scope := "a" }],
          policy := { rules := [⟨.deny, "b"⟩] } },
        { order := 1, name := "b", roots := [{ scope := "b" }] },
        { order := 2, name := "c", roots := [{ scope := "c" }],
          policy := { exportedOnly := true } }]
      moduleIndex := guardedGraph.moduleIndex } := by
  have hfaults : guardedConfig.faults = [] := by decide
  have hpolicies : PolicyEntry.build { rules := [{ deny := "b" }] } =
        .ok { rules := [⟨.deny, "b"⟩] } ∧
      PolicyEntry.build {} = .ok {} ∧
      PolicyEntry.build { exportedOnly := true } = .ok { exportedOnly := true } := by
    decide
  simp only [Config.apply, hfaults]
  simp [guardedConfig, guardedGraph, Config.registerEntry, Graph.register, Graph.empty,
    Graph.addModule, Graph.updateModule, Graph.mergeRegions, hpolicies]

theorem guarded_build : Analysis.build guardedConfig guardedFiles = .ok guardedGraph := by
  have htrim : Text.trimBlank "a.f" = "a.f" ∧ Text.trimBlank "b.g" = "b.g" ∧
      Text.trimBlank "c.h" = "c.h" := by
    decide
  have hshort : Name.short "a.f" = "f" ∧ Name.short "b.g" = "g" ∧ Name.short "c.h" = "h" := by
    decide
  have hsplit : Text.afterPrefix? ['a', '.'] ['a', '.', 'f'] = some ['f'] ∧
      Text.afterPrefix? ['b', '.'] ['b', '.', 'g'] = some ['g'] ∧
      Text.afterPrefix? ['c', '.'] ['c', '.', 'h'] = some ['h'] := by
    decide
  have hregions : Region.contains { scope := "a" } "a.f" "" = true ∧
      Region.contains { scope := "a" } "b.g" "" = false ∧
      Region.contains { scope := "b" } "b.g" "" = true ∧
      Region.contains { scope := "a" } "c.h" "" = false ∧
      Region.contains { scope := "b" } "c.h" "" = false ∧
      Region.contains { scope := "c" } "c.h" "" = true := by
    decide
  simp only [Analysis.build, guarded_apply, Except.map]
  simp [guardedFiles, guardedGraph, Analysis.buildFrom, Analysis.declareAll, Analysis.inOrder,
    Analysis.declareSpec, Analysis.linkPending, Analysis.isLinkable, Graph.declare, Graph.unitId?,
    Graph.newUnit, Graph.link, Graph.refer, Graph.addEdge, Graph.Linked.graph, Graph.sealed,
    List.range, List.range.loop, Graph.place, Graph.resolve, Graph.resolution, Graph.register,
    Graph.updateModule, Graph.mergeRegions, Graph.setOwner, Graph.addMember, Graph.updateNamed,
    Module.claims, Module.addUnit, CodeUnit.declaredScope, CodeUnit.splitName,
    CodeUnit.isPrimitive, CodeUnit.isGlobal, CodeUnit.addDependency, CodeUnit.addDependent,
    Std.HashMap.getElem_insert, IdSet.ofList, htrim, hshort, hsplit, hregions]

theorem guarded_crossing {d : Module} {t : CodeUnit} (i : Nat) (hi : i = 1 ∨ i = 2)
    (hd : guardedGraph.modules[i]? = some d) (ht : guardedGraph.units[i]? = some t) :
    guardedGraph.Crossing guardedGraph.modules[0] d guardedGraph.units[0] t := by
  have hsource : 0 < guardedGraph.units.size := by decide
  rcases hi with rfl | rfl
  all_goals
    cases hd
    cases ht
    refine ⟨Array.getElem_mem hsource, by decide, by simp [guardedGraph], ?_, by decide, by decide,
      ?_, by decide⟩
    · exact IdSet.contains_iff_mem.mp (by decide)
    · simp [Graph.ownerOf?, Graph.module?, guardedGraph, Std.HashMap.getElem_insert]

theorem build_violations_guarded :
    guardedConfig.faults = [] ∧
      ∃ g, Analysis.build guardedConfig guardedFiles = .ok g ∧
        ∃ m ∈ g.modules, m.enabled = true ∧ m.isReportable = true ∧
          (∃ u t, g.IsForbidden m u t) ∧ (∃ u t, g.IsLeak m u t) ∧
          ∃ entry ∈ (build g "" {}).entries,
            g.Enumerates entry.forbidden (g.IsForbidden m) ∧
            g.Enumerates entry.leaks (g.IsLeak m) ∧
            entry.illegalModules = (entry.forbidden.map (·.target.owner)).eraseDups := by
  have hfaults : guardedConfig.faults = [] := by decide
  obtain ⟨g, hbuild, hg⟩ := build_violations guardedConfig hfaults guardedFiles "" {}
  obtain rfl : guardedGraph = g := Except.ok.inj (guarded_build.symm.trans hbuild)
  have hm : guardedGraph.modules[0] ∈ guardedGraph.modules := Array.getElem_mem _
  obtain ⟨entry, hentry, -, -, hforbidden, hleaks, -, -, -, hmodules⟩ := hg _ hm rfl rfl
  refine ⟨hfaults, guardedGraph, hbuild, _, hm, rfl, rfl, ?_, ?_, entry, hentry, hforbidden,
    hleaks, hmodules⟩
  · exact ⟨_, _, _, guarded_crossing 1 (.inl rfl) rfl rfl, by decide⟩
  · exact ⟨_, _, _, guarded_crossing 2 (.inr rfl) rfl rfl, by decide, by decide⟩

end Report

end ArchLint
