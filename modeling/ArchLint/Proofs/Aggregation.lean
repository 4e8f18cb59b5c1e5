import ArchLint.Graph.Dependencies
import ArchLint.Proofs.Sealing

namespace ArchLint.Graph

/-- A dependency of a member of `m` on a unit of another module `d`, where the
unit is neither predeclared nor without a scope. -/
structure Crossing (g : Graph) (m d : Module) (u t : CodeUnit) : Prop where
  source : u ∈ g.units
  member : m.contains u = true
  target : t ∈ g.units
  edge : t.id ∈ u.dependencies
  not_primitive : t.isPrimitive = false
  has_scope : t.declaredScope ≠ ""
  owner : g.ownerOf? t = some d
  other : d ≠ m

namespace WellFormed

variable {g : Graph} {u t : CodeUnit}

theorem mem_unitsOf (h : g.WellFormed) {ids : List Nat} :
    u ∈ g.unitsOf ids ↔ u ∈ g.units ∧ u.id ∈ ids :=
  h.units.mem_filterMap

theorem increasing_unitsOf (h : g.WellFormed) (ids : IdSet Nat) :
    (g.unitsOf ids.toList).Pairwise (fun u t => u.id < t.id) :=
  h.units.increasing_filterMap ids.increasing

theorem mem_modulesAt (h : g.WellFormed) {places : List Nat} {m : Module} :
    m ∈ g.modulesAt places ↔ m ∈ g.modules ∧ m.order ∈ places :=
  h.modules.mem_filterMap

theorem mem_dependents_iff (h : g.WellFormed) (hu : u ∈ g.units) (ht : t ∈ g.units) :
    u.id ∈ t.dependents ↔ t.id ∈ u.dependencies := by
  have hedge := h.edges_symmetric u.id t.id
  rw [mem_dependenciesOf, mem_dependentsOf, h.units.getElem?_of_mem hu,
    h.units.getElem?_of_mem ht] at hedge
  simpa using hedge.symm

theorem ownerOf?_mem {m : Module} (howner : g.ownerOf? u = some m) : m ∈ g.modules := by
  obtain ⟨name, -, hm⟩ := Option.bind_eq_some_iff.mp howner
  obtain ⟨order, -, hm⟩ := Option.bind_eq_some_iff.mp hm
  exact Array.mem_of_getElem? hm

theorem mem_ownersOf (h : g.WellFormed) {us : List CodeUnit} {d : Module} :
    d ∈ g.ownersOf us ↔ ∃ u ∈ us, g.ownerOf? u = some d := by
  simp only [ownersOf, h.mem_modulesAt, IdSet.mem_toList, IdSet.mem_ofList, List.mem_map,
    List.mem_filterMap]
  constructor
  · rintro ⟨hd, d', ⟨u, hu, howner⟩, horder⟩
    rw [h.modules.eq_of_number (ownerOf?_mem howner) hd horder] at howner
    exact ⟨u, hu, howner⟩
  · rintro ⟨u, hu, howner⟩
    exact ⟨ownerOf?_mem howner, d, ⟨u, hu, howner⟩, rfl⟩

theorem increasing_ownersOf (h : g.WellFormed) (us : List CodeUnit) :
    (g.ownersOf us).Pairwise (fun d d' => d.order < d'.order) :=
  h.modules.increasing_filterMap (IdSet.ofList _).increasing

end WellFormed

namespace IsSealed

variable {g : Graph} {m d : Module} {u t : CodeUnit}

theorem crossing_iff (h : g.IsSealed) (hm : m ∈ g.modules) :
    g.Crossing m d u t ↔ u ∈ g.members m ∧ t ∈ g.unitsOf u.dependencies.toList ∧
      isArchitectural m t = true ∧ g.ownerOf? t = some d := by
  rw [h.mem_members hm, h.wellFormed.mem_unitsOf]
  simp only [isArchitectural, CodeUnit.belongsTo, CodeUnit.isGlobal, Bool.and_eq_true,
    Bool.not_eq_true', decide_eq_false_iff_not]
  constructor
  · intro hc
    obtain ⟨hd, howner⟩ := (h.ownerOf?_eq_some_iff hc.target).mp hc.owner
    refine ⟨⟨hc.source, (h.contains_iff hm hc.source).mp hc.member⟩, ⟨hc.target, hc.edge⟩,
      ⟨⟨?_, ?_⟩, hc.not_primitive⟩, hc.owner⟩
    · intro hself
      rw [howner] at hself
      exact hc.other (h.wellFormed.modules.eq_of_name hd hm (Option.some.inj hself))
    · simpa [hc.not_primitive] using hc.has_scope
  · rintro ⟨⟨hu, hmember⟩, ⟨ht, hedge⟩, ⟨⟨hself, hglobal⟩, hprimitive⟩, howner⟩
    refine ⟨hu, (h.contains_iff hm hu).mpr hmember, ht, hedge, hprimitive, ?_, howner, ?_⟩
    · simpa [hprimitive] using hglobal
    · rintro rfl
      exact hself ((h.ownerOf?_eq_some_iff ht).mp howner).2

/-- A module depends on the modules that edges from its members lead to. -/
theorem mem_dependencyModules (h : g.IsSealed) (hm : m ∈ g.modules) :
    d ∈ g.dependencyModules m ↔ ∃ u t, g.Crossing m d u t := by
  simp only [dependencyModules, h.wellFormed.mem_ownersOf, externalDependencies, List.mem_flatMap,
    List.mem_filter, h.crossing_iff hm]
  constructor
  · rintro ⟨t, ⟨u, hu, ht, harchitectural⟩, howner⟩
    exact ⟨u, t, hu, ht, harchitectural, howner⟩
  · rintro ⟨u, t, hu, ht, harchitectural, howner⟩
    exact ⟨t, ⟨u, hu, ht, harchitectural⟩, howner⟩

theorem mem_dependencyUnits (h : g.IsSealed) (hm : m ∈ g.modules) (hd : d ∈ g.modules) :
    t ∈ g.dependencyUnits m d ↔ t ∈ g.units ∧ g.ownerOf? t = some d ∧
      ∃ u ∈ g.units, m.contains u = true ∧ t.id ∈ u.dependencies := by
  simp only [dependencyUnits, h.wellFormed.mem_unitsOf, IdSet.mem_toList, IdSet.mem_ofList,
    List.mem_flatMap, List.mem_map, List.mem_filter, CodeUnit.belongsTo, decide_eq_true_eq]
  constructor
  · rintro ⟨ht, u, hu, t', ⟨⟨ht', hedge⟩, howner⟩, hid⟩
    obtain rfl := h.wellFormed.units.eq_of_number ht' ht hid
    have hu := (h.mem_members hm).mp hu
    exact ⟨ht, (h.ownerOf?_eq_some_iff ht).mpr ⟨hd, howner⟩, u, hu.1,
      (h.contains_iff hm hu.1).mpr hu.2, hedge⟩
  · rintro ⟨ht, howner, u, hu, hmember, hedge⟩
    exact ⟨ht, u, (h.mem_members hm).mpr ⟨hu, (h.contains_iff hm hu).mp hmember⟩, t,
      ⟨⟨ht, hedge⟩, ((h.ownerOf?_eq_some_iff ht).mp howner).2⟩, rfl⟩

end IsSealed

end ArchLint.Graph
