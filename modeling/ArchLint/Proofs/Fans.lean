import ArchLint.Graph.Metrics
import ArchLint.Proofs.Distinct
import ArchLint.Proofs.Duality

namespace ArchLint

namespace Graph

variable {g : Graph} {m : Module} {u t : CodeUnit}

/-- Since names are unique, distinct names are counted like distinct units. -/
theorem WellFormed.distinct_names_perm (h : g.WellFormed) {us vs : List CodeUnit}
    (hus : ∀ u ∈ us, u ∈ g.units) (hvs : vs.Nodup) (hmem : ∀ u, u ∈ us ↔ u ∈ vs) :
    (Text.distinct (us.map (·.name))).Perm (vs.map (·.name)) := by
  have hnames : (vs.map (·.name)).Nodup := by
    refine hvs.map_on ?_
    intro u hu t ht hname
    exact h.units.eq_of_name (hus u ((hmem u).mpr hu)) (hus t ((hmem t).mpr ht)) hname
  refine (List.perm_ext_iff_of_nodup (Text.nodup_distinct _) hnames).mpr ?_
  intro name
  simp only [Text.mem_distinct, List.mem_map, hmem]

theorem WellFormed.nodup_flatMap_owned {ms : List Module} {f : Module → List CodeUnit}
    (hms : ms.Pairwise (fun d d' => d.order < d'.order))
    (hf : ∀ d ∈ ms, (f d).Pairwise (fun u t => u.id < t.id))
    (howned : ∀ d ∈ ms, ∀ u ∈ f d, g.ownerOf? u = some d) : (ms.flatMap f).Nodup := by
  rw [List.nodup_flatMap]
  constructor
  · intro d hd
    refine (hf d hd).imp ?_
    rintro u t hlt rfl
    exact Nat.lt_irrefl _ hlt
  · refine hms.imp_of_mem ?_
    intro d d' hd hd' hlt u hu hu'
    have howner := howned d hd u hu
    rw [howned d' hd' u hu', Option.some.injEq] at howner
    rw [howner] at hlt
    exact Nat.lt_irrefl _ hlt

namespace IsArchitecture

theorem mem_externalDependencies (h : g.IsArchitecture) (hm : m ∈ g.modules) :
    t ∈ g.externalDependencies m ↔
      t ∈ (g.dependencyModules m).flatMap (g.dependencyUnits m) := by
  simp only [List.mem_flatMap, h.mem_dependencyUnits_iff hm, h.crossing_iff hm,
    externalDependencies, List.mem_filter]
  constructor
  · rintro ⟨u, hu, ht, harchitectural⟩
    have htarget := (h.wellFormed.mem_unitsOf.mp ht).1
    obtain ⟨d, hd, howner⟩ := h.owners (h.wellFormed.units.getElem?_of_mem htarget)
    exact ⟨d, u, hu, ht, harchitectural, (h.ownerOf?_eq_some_iff htarget).mpr ⟨hd, howner⟩⟩
  · rintro ⟨d, u, hu, ht, harchitectural, -⟩
    exact ⟨u, hu, ht, harchitectural⟩

theorem nodup_dependencyUnits (h : g.IsArchitecture) (hm : m ∈ g.modules) :
    ((g.dependencyModules m).flatMap (g.dependencyUnits m)).Nodup := by
  refine WellFormed.nodup_flatMap_owned (g := g) (h.wellFormed.increasing_ownersOf _)
    (fun d _ => h.wellFormed.increasing_unitsOf _) ?_
  intro d hd t ht
  obtain ⟨u, hc⟩ := (h.mem_dependencyUnits_iff hm).mp ⟨hd, ht⟩
  exact hc.owner

theorem fanOut_perm (h : g.IsArchitecture) (hm : m ∈ g.modules) :
    (g.fanOut m).Perm
      (((g.dependencyModules m).flatMap (g.dependencyUnits m)).map (·.name)) := by
  refine h.wellFormed.distinct_names_perm ?_ (h.nodup_dependencyUnits hm)
    fun t => h.mem_externalDependencies hm
  intro t ht
  obtain ⟨u, -, ht⟩ := List.mem_flatMap.mp ht
  exact (h.wellFormed.mem_unitsOf.mp (List.mem_of_mem_filter ht)).1

end IsArchitecture

namespace IsSealed

theorem mem_externalDependents_iff (h : g.IsSealed) (hm : m ∈ g.modules) :
    u ∈ g.externalDependents m ↔
      u ∈ (g.dependentModules m).flatMap fun d => g.dependentUnits d m := by
  simp only [List.mem_flatMap, h.mem_dependentUnits hm]
  constructor
  · intro hu
    obtain ⟨t, -, hmem⟩ := List.mem_flatMap.mp hu
    have hsource := (h.wellFormed.mem_unitsOf.mp (List.mem_of_mem_filter hmem)).1
    obtain ⟨d, hd, howner⟩ := h.owners (h.wellFormed.units.getElem?_of_mem hsource)
    have howner := (h.ownerOf?_eq_some_iff hsource).mpr ⟨hd, howner⟩
    obtain ⟨hne, t, hreaches⟩ := (h.mem_externalDependents hm hd).mp ⟨hu, howner⟩
    exact ⟨d, (h.mem_dependentModules hm hd).mpr ⟨hne, u, t, hreaches⟩, t, hreaches⟩
  · rintro ⟨d, hmem, t, hreaches⟩
    have hd := h.ownersOf_subset _ hmem
    obtain ⟨hne, -⟩ := (h.mem_dependentModules hm hd).mp hmem
    exact ((h.mem_externalDependents hm hd).mpr ⟨hne, t, hreaches⟩).1

theorem nodup_dependentUnits (h : g.IsSealed) (hm : m ∈ g.modules) :
    ((g.dependentModules m).flatMap fun d => g.dependentUnits d m).Nodup := by
  refine WellFormed.nodup_flatMap_owned (g := g) (h.wellFormed.increasing_ownersOf _)
    (fun d _ => h.increasing_dependentUnits) ?_
  intro d hmem u hu
  have hd := h.ownersOf_subset _ hmem
  obtain ⟨t, hreaches⟩ := (h.mem_dependentUnits hm).mp hu
  obtain ⟨hsource, howner⟩ := (h.mem_members hd).mp hreaches.source
  exact (h.ownerOf?_eq_some_iff hsource).mpr ⟨hd, howner⟩

theorem fanIn_perm (h : g.IsSealed) (hm : m ∈ g.modules) :
    (g.fanIn m).Perm
      (((g.dependentModules m).flatMap fun d => g.dependentUnits d m).map (·.name)) := by
  refine h.wellFormed.distinct_names_perm ?_ (h.nodup_dependentUnits hm)
    fun u => h.mem_externalDependents_iff hm
  intro u hu
  obtain ⟨t, -, hu⟩ := List.mem_flatMap.mp hu
  exact (h.wellFormed.mem_unitsOf.mp (List.mem_of_mem_filter hu)).1

end IsSealed

end Graph

namespace Analysis

/-- In every graph that is built, the units that instability counts on either
side of a module are those that the queries list for each other module. None is
counted twice. -/
theorem build_fans {c : Config} {files : List ScannedFile} {g : Graph}
    (hg : build c files = .ok g) {m : Module} (hm : m ∈ g.modules) :
    let outward := (g.dependencyModules m).flatMap (g.dependencyUnits m)
    let inward := (g.dependentModules m).flatMap fun d => g.dependentUnits d m
    let fanOut := ((g.dependencyModules m).map fun d => (g.dependencyUnits m d).length).sum
    let fanIn := ((g.dependentModules m).map fun d => (g.dependentUnits d m).length).sum
    (g.fanOut m).length = fanOut ∧ (g.fanIn m).length = fanIn ∧
      (∀ fl, g.instability fl m = share fl fanOut (fanIn + fanOut)) ∧
      outward.Nodup ∧ (g.fanOut m).Nodup ∧ (g.fanOut m).Perm (outward.map (·.name)) ∧
      inward.Nodup ∧ (g.fanIn m).Nodup ∧ (g.fanIn m).Perm (inward.map (·.name)) := by
  intro outward inward fanOut fanIn
  have h := isArchitecture_of_build hg
  have hout := h.fanOut_perm hm
  have hin := h.fanIn_perm hm
  have hfanOut : (g.fanOut m).length = fanOut := by
    rw [hout.length_eq, List.length_map, List.length_flatMap]
  have hfanIn : (g.fanIn m).length = fanIn := by
    rw [hin.length_eq, List.length_map, List.length_flatMap]
  refine ⟨hfanOut, hfanIn, ?_, h.nodup_dependencyUnits hm, Text.nodup_distinct _, hout,
    h.nodup_dependentUnits hm, Text.nodup_distinct _, hin⟩
  intro fl
  rw [Graph.instability, hfanOut, hfanIn]

theorem build_fans_guarded :
    ∃ a, build Report.guardedConfig Report.guardedFiles = .ok Report.guardedGraph ∧
      a ∈ Report.guardedGraph.modules ∧ (Report.guardedGraph.fanOut a).length = 2 ∧
      ((Report.guardedGraph.dependencyModules a).map fun d =>
        (Report.guardedGraph.dependencyUnits a d).length).sum = 2 := by
  have ha : Report.guardedGraph.modules[0] ∈ Report.guardedGraph.modules := Array.getElem_mem _
  have hfans := build_fans Report.guarded_build ha
  have hcount : (Report.guardedGraph.fanOut Report.guardedGraph.modules[0]).length = 2 := by
    decide
  exact ⟨_, Report.guarded_build, ha, hcount, hfans.1.symm.trans hcount⟩

end Analysis

end ArchLint
