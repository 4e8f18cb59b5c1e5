import ArchLint.Proofs.Violations
import Mathlib.Tactic.TFAE

namespace ArchLint

theorem Module.isReportable_iff {m : Module} :
    m.isReportable = true ↔ m.name ≠ globalName ∧ m.name ≠ primitivesName := by
  simp [isReportable, isGlobal, isPrimitives]

namespace Graph

/-- A member of `m` depends on a member of `d`. -/
structure Reaches (g : Graph) (m d : Module) (u t : CodeUnit) : Prop where
  source : u ∈ g.members m
  target : t ∈ g.members d
  edge : t.id ∈ u.dependencies

namespace IsSealed

variable {g : Graph} {m d : Module} {u t : CodeUnit}

theorem crossing_iff_reaches (h : g.IsSealed) (hm : m ∈ g.modules) (hd : d ∈ g.modules) :
    g.Crossing m d u t ↔
      d ≠ m ∧ g.Reaches m d u t ∧ t.isPrimitive = false ∧ t.isGlobal = false := by
  constructor
  · intro hc
    have hglobal : t.isGlobal = false := by
      simpa [CodeUnit.isGlobal, hc.not_primitive] using hc.has_scope
    refine ⟨hc.other, ⟨?_, ?_, hc.edge⟩, hc.not_primitive, hglobal⟩
    · exact (h.mem_members hm).mpr ⟨hc.source, (h.contains_iff hm hc.source).mp hc.member⟩
    · exact (h.mem_members hd).mpr
        ⟨hc.target, ((h.ownerOf?_eq_some_iff hc.target).mp hc.owner).2⟩
  · rintro ⟨hne, hreaches, hprimitive, hglobal⟩
    obtain ⟨hu, howner⟩ := (h.mem_members hm).mp hreaches.source
    obtain ⟨ht, howner'⟩ := (h.mem_members hd).mp hreaches.target
    refine ⟨hu, (h.contains_iff hm hu).mpr howner, ht, hreaches.edge, hprimitive, ?_,
      (h.ownerOf?_eq_some_iff ht).mpr ⟨hd, howner'⟩, hne⟩
    simpa [CodeUnit.isGlobal, hprimitive] using hglobal

theorem mem_externalDependents (h : g.IsSealed) (hm : m ∈ g.modules) (hd : d ∈ g.modules) :
    u ∈ g.externalDependents m ∧ g.ownerOf? u = some d ↔ d ≠ m ∧ ∃ t, g.Reaches d m u t := by
  simp only [externalDependents, List.mem_flatMap, List.mem_filter, h.wellFormed.mem_unitsOf,
    IdSet.mem_toList, CodeUnit.belongsTo, Bool.not_eq_true', decide_eq_false_iff_not]
  constructor
  · rintro ⟨⟨t, ht, ⟨hu, hedge⟩, hother⟩, howner⟩
    obtain ⟨-, howner⟩ := (h.ownerOf?_eq_some_iff hu).mp howner
    have htarget := ((h.mem_members hm).mp ht).1
    refine ⟨?_, t, (h.mem_members hd).mpr ⟨hu, howner⟩, ht, ?_⟩
    · rintro rfl
      exact hother howner
    · exact (h.wellFormed.mem_dependents_iff hu htarget).mp hedge
  · rintro ⟨hne, t, hreaches⟩
    obtain ⟨hu, howner⟩ := (h.mem_members hd).mp hreaches.source
    have htarget := ((h.mem_members hm).mp hreaches.target).1
    refine ⟨⟨t, hreaches.target, ⟨hu, ?_⟩, ?_⟩, (h.ownerOf?_eq_some_iff hu).mpr ⟨hd, howner⟩⟩
    · exact (h.wellFormed.mem_dependents_iff hu htarget).mpr hreaches.edge
    · intro hself
      rw [howner] at hself
      exact hne (h.wellFormed.modules.eq_of_name hd hm (Option.some.inj hself))

theorem mem_dependentModules (h : g.IsSealed) (hm : m ∈ g.modules) (hd : d ∈ g.modules) :
    d ∈ g.dependentModules m ↔ d ≠ m ∧ ∃ u t, g.Reaches d m u t := by
  simp only [dependentModules, h.wellFormed.mem_ownersOf, h.mem_externalDependents hm hd]
  constructor
  · rintro ⟨u, hne, t, hreaches⟩
    exact ⟨hne, u, t, hreaches⟩
  · rintro ⟨hne, u, t, hreaches⟩
    exact ⟨u, hne, t, hreaches⟩

theorem mem_dependentUnits (h : g.IsSealed) (hd : d ∈ g.modules) :
    u ∈ g.dependentUnits m d ↔ ∃ t, g.Reaches m d u t := by
  simp only [dependentUnits, List.mem_filter, List.any_eq_true, h.wellFormed.mem_unitsOf,
    IdSet.mem_toList, CodeUnit.belongsTo, decide_eq_true_eq]
  constructor
  · rintro ⟨hu, t, ⟨ht, hedge⟩, howner⟩
    exact ⟨t, hu, (h.mem_members hd).mpr ⟨ht, howner⟩, hedge⟩
  · rintro ⟨t, hreaches⟩
    obtain ⟨ht, howner⟩ := (h.mem_members hd).mp hreaches.target
    exact ⟨hreaches.source, t, ⟨ht, hreaches.edge⟩, howner⟩

theorem mem_dependencyUnits_iff_reaches (h : g.IsSealed) (hm : m ∈ g.modules)
    (hd : d ∈ g.modules) : t ∈ g.dependencyUnits m d ↔ ∃ u, g.Reaches m d u t := by
  rw [h.mem_dependencyUnits hm hd]
  constructor
  · rintro ⟨ht, howner, u, hu, hmember, hedge⟩
    exact ⟨u, (h.mem_members hm).mpr ⟨hu, (h.contains_iff hm hu).mp hmember⟩,
      (h.mem_members hd).mpr ⟨ht, ((h.ownerOf?_eq_some_iff ht).mp howner).2⟩, hedge⟩
  · rintro ⟨u, hreaches⟩
    obtain ⟨hu, howner⟩ := (h.mem_members hm).mp hreaches.source
    obtain ⟨ht, howner'⟩ := (h.mem_members hd).mp hreaches.target
    exact ⟨ht, (h.ownerOf?_eq_some_iff ht).mpr ⟨hd, howner'⟩, u, hu,
      (h.contains_iff hm hu).mpr howner, hreaches.edge⟩

theorem increasing_dependentUnits (h : g.IsSealed) :
    (g.dependentUnits m d).Pairwise (fun u t => u.id < t.id) :=
  (h.wellFormed.increasing_unitsOf m.units).filter _

theorem ownersOf_subset (h : g.IsSealed) (us : List CodeUnit) (hd : d ∈ g.ownersOf us) :
    d ∈ g.modules := by
  obtain ⟨u, -, howner⟩ := h.wellFormed.mem_ownersOf.mp hd
  exact WellFormed.ownerOf?_mem howner

end IsSealed

namespace IsArchitecture

variable {g : Graph} {m d : Module} {t : CodeUnit}

theorem isReportable_iff (h : g.IsArchitecture) (hd : d ∈ g.modules) (ht : t ∈ g.members d) :
    d.isReportable = true ↔ t.isPrimitive = false ∧ t.isGlobal = false := by
  obtain ⟨ht, howner⟩ := (h.mem_members hd).mp ht
  have hprimitives := h.primitives t ht
  have hglobal := h.global t ht
  rw [howner, Option.some.injEq] at hprimitives hglobal
  rw [Module.isReportable_iff, ne_eq, ne_eq, hprimitives, hglobal]
  cases hprimitive : t.isPrimitive <;> simp [CodeUnit.isGlobal, hprimitive]

theorem mem_dependencyModules_iff_reaches (h : g.IsArchitecture) (hm : m ∈ g.modules)
    (hd : d ∈ g.modules) :
    d ∈ g.dependencyModules m ↔ d ≠ m ∧ d.isReportable = true ∧ ∃ u t, g.Reaches m d u t := by
  simp only [h.mem_dependencyModules hm, h.crossing_iff_reaches hm hd]
  constructor
  · rintro ⟨u, t, hne, hreaches, harchitectural⟩
    exact ⟨hne, (h.isReportable_iff hd hreaches.target).mpr harchitectural, u, t, hreaches⟩
  · rintro ⟨hne, hreportable, u, t, hreaches⟩
    exact ⟨u, t, hne, hreaches, (h.isReportable_iff hd hreaches.target).mp hreportable⟩

/-- Both ends of a dependency between modules and the units on either side of
it tell the same. -/
theorem tfae_dependency (h : g.IsArchitecture) (hm : m ∈ g.modules) (hd : d ∈ g.modules)
    (hne : m ≠ d) (hreportable : d.isReportable = true) :
    [d ∈ g.dependencyModules m, m ∈ g.dependentModules d, g.dependentUnits m d ≠ [],
      g.dependencyUnits m d ≠ []].TFAE := by
  have hdependents : g.dependentUnits m d ≠ [] ↔ ∃ u t, g.Reaches m d u t := by
    simp only [ne_eq, List.eq_nil_iff_forall_not_mem, not_forall, not_not, h.mem_dependentUnits hd]
  have hdependencies : g.dependencyUnits m d ≠ [] ↔ ∃ t u, g.Reaches m d u t := by
    simp only [ne_eq, List.eq_nil_iff_forall_not_mem, not_forall, not_not,
      h.mem_dependencyUnits_iff_reaches hm hd]
  rw [h.mem_dependencyModules_iff_reaches hm hd, h.mem_dependentModules hd hm, hdependents,
    hdependencies]
  tfae_have 1 ↔ 2 := by
    constructor
    · rintro ⟨-, -, hreaches⟩
      exact ⟨hne, hreaches⟩
    · rintro ⟨-, hreaches⟩
      exact ⟨hne.symm, hreportable, hreaches⟩
  tfae_have 2 ↔ 3 := by
    constructor
    · rintro ⟨-, hreaches⟩
      exact hreaches
    · intro hreaches
      exact ⟨hne, hreaches⟩
  tfae_have 3 ↔ 4 := exists_comm
  tfae_finish

end IsArchitecture

end Graph

namespace Analysis

theorem isArchitecture_of_build {c : Config} {files : List ScannedFile} {g : Graph}
    (hg : build c files = .ok g) : g.IsArchitecture := by
  have hc : c.faults = [] := by
    cases hfaults : c.faults with
    | nil => rfl
    | cons fault faults => simp [build, Config.apply, hfaults, Except.map] at hg
  obtain ⟨g', hg', harchitecture⟩ := build_isArchitecture hc files
  rw [hg] at hg'
  cases hg'
  exact harchitecture

/-- In every graph that is built, the modules that a module depends on and those
that depend on it are the owners of the other ends of the edges of its members,
in their order. The dependencies of one module on another one can be seen from
either of them and from the units on either side, and these are exactly the
ends of the edges between the two. -/
theorem build_aggregation {c : Config} {files : List ScannedFile} {g : Graph}
    (hg : build c files = .ok g) {m d : Module} (hm : m ∈ g.modules) (hd : d ∈ g.modules) :
    ((g.dependencyModules m).Pairwise (fun x y => x.order < y.order) ∧
      (∀ x ∈ g.dependencyModules m, x ∈ g.modules ∧ x.name ≠ Module.globalName ∧
        x.name ≠ Module.primitivesName) ∧
      (d ∈ g.dependencyModules m ↔
        d ≠ m ∧ ∃ u t, g.Reaches m d u t ∧ t.isPrimitive = false ∧ t.isGlobal = false)) ∧
    ((g.dependentModules m).Pairwise (fun x y => x.order < y.order) ∧
      (∀ x ∈ g.dependentModules m, x ∈ g.modules) ∧
      (d ∈ g.dependentModules m ↔ d ≠ m ∧ ∃ u t, g.Reaches d m u t)) ∧
    (m ≠ d → d.name ≠ Module.globalName → d.name ≠ Module.primitivesName →
      [d ∈ g.dependencyModules m, m ∈ g.dependentModules d, g.dependentUnits m d ≠ [],
        g.dependencyUnits m d ≠ []].TFAE) ∧
    ((g.dependentUnits m d).Pairwise (fun u t => u.id < t.id) ∧
      ∀ u, u ∈ g.dependentUnits m d ↔ ∃ t, g.Reaches m d u t) ∧
    (g.dependencyUnits m d).Pairwise (fun u t => u.id < t.id) ∧
      ∀ t, t ∈ g.dependencyUnits m d ↔ ∃ u, g.Reaches m d u t := by
  have h := isArchitecture_of_build hg
  have hwell := h.wellFormed
  refine ⟨⟨hwell.increasing_ownersOf _, ?_, ?_⟩, ⟨hwell.increasing_ownersOf _, ?_, ?_⟩, ?_,
    ⟨h.increasing_dependentUnits, fun u => h.mem_dependentUnits hd⟩,
    hwell.increasing_unitsOf _, fun t => h.mem_dependencyUnits_iff_reaches hm hd⟩
  · intro x hx
    have hmem := h.ownersOf_subset _ hx
    obtain ⟨-, hreportable, -⟩ := (h.mem_dependencyModules_iff_reaches hm hmem).mp hx
    exact ⟨hmem, Module.isReportable_iff.mp hreportable⟩
  · simp only [h.mem_dependencyModules hm, h.crossing_iff_reaches hm hd, exists_and_left]
  · exact fun x hx => h.ownersOf_subset _ hx
  · exact h.mem_dependentModules hm hd
  · intro hne hglobal hprimitives
    exact h.tfae_dependency hm hd hne (Module.isReportable_iff.mpr ⟨hglobal, hprimitives⟩)

theorem build_aggregation_guarded :
    ∃ a b, build Report.guardedConfig Report.guardedFiles = .ok Report.guardedGraph ∧
      a ∈ Report.guardedGraph.modules ∧ b ∈ Report.guardedGraph.modules ∧
      b ∈ Report.guardedGraph.dependencyModules a ∧
      a ∈ Report.guardedGraph.dependentModules b ∧
      Report.guardedGraph.dependentUnits a b ≠ [] := by
  have ha : Report.guardedGraph.modules[0] ∈ Report.guardedGraph.modules := Array.getElem_mem _
  have hb : Report.guardedGraph.modules[1] ∈ Report.guardedGraph.modules := Array.getElem_mem _
  obtain ⟨⟨-, -, hdepends⟩, -, htfae, -⟩ := build_aggregation Report.guarded_build ha hb
  have hsealed := (isArchitecture_of_build Report.guarded_build).toIsSealed
  have hcrossing := Report.guarded_crossing 1 (.inl rfl) rfl rfl
  have hreaches := (hsealed.crossing_iff_reaches ha hb).mp hcrossing
  have hdependency := hdepends.mpr ⟨hreaches.1, _, _, hreaches.2⟩
  have htfae := htfae (by decide) (by decide) (by decide)
  exact ⟨_, _, Report.guarded_build, ha, hb, hdependency, (htfae.out 0 1).mp hdependency,
    (htfae.out 0 2).mp hdependency⟩

end Analysis

end ArchLint
