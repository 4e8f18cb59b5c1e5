import ArchLint.Proofs.Analysis
import ArchLint.Proofs.CycleClasses
import ArchLint.Proofs.Muting

namespace ArchLint.Graph

section Rings

variable {g : Graph} {p : Module → Prop} {cs cs' : List (List Module)} {name : String}

/-- A list with one cycle of every ring that has a module of some kind. -/
structure RepresentsRings (g : Graph) (p : Module → Prop) (cs : List (List Module)) : Prop where
  sound : ∀ c ∈ cs, (∃ m, g.IsCycleFrom m c) ∧ ∃ m ∈ c, p m
  complete : ∀ m c, g.IsCycleFrom m c → (∃ m' ∈ c, p m') → ∃ c' ∈ cs, SameRing c' c
  distinct : cs.Pairwise fun c c' => ¬SameRing c c'

theorem sameRing_iff {c c' : List Module} :
    SameRing c c' ↔ (c.dropLast : Cycle Module) = (c'.dropLast : Cycle Module) :=
  Cycle.coe_eq_coe.symm

/-- How many rings there are does not depend on the list. -/
theorem RepresentsRings.length_eq (h : g.RepresentsRings p cs) (h' : g.RepresentsRings p cs') :
    cs.length = cs'.length := by
  have hnodup : ∀ {cs}, g.RepresentsRings p cs →
      (cs.map fun c => (c.dropLast : Cycle Module)).Nodup := by
    intro cs h
    rw [List.Nodup, List.pairwise_map]
    exact h.distinct.imp fun hne heq => hne (sameRing_iff.mpr heq)
  have hsubset : ∀ {cs cs'}, g.RepresentsRings p cs → g.RepresentsRings p cs' →
      ∀ ring ∈ cs.map fun c => (c.dropLast : Cycle Module),
        ring ∈ cs'.map fun c => (c.dropLast : Cycle Module) := by
    intro cs cs' h h' ring hring
    obtain ⟨c, hc, rfl⟩ := List.mem_map.mp hring
    obtain ⟨⟨m, hm⟩, hp⟩ := h.sound c hc
    obtain ⟨c', hc', hsame⟩ := h'.complete m c hm hp
    exact List.mem_map.mpr ⟨c', hc', sameRing_iff.mp hsame⟩
  have hperm := (List.perm_ext_iff_of_nodup (hnodup h) (hnodup h')).mpr fun ring =>
    ⟨hsubset h h' ring, hsubset h' h ring⟩
  simpa using hperm.length_eq

theorem IsArchitecture.isReported_iff (h : g.IsArchitecture) {m x : Module} {c : List Module}
    (hc : g.IsCycleFrom m c) (hx : x ∈ c) : IsReported x ↔ x.enabled = true := by
  obtain ⟨c', hturned, -⟩ := hc.turn h.wellFormed hx
  obtain ⟨y, hy, hdepends⟩ : ∃ y ∈ g.modules, x ∈ g.dependencyModules y := by
    have hmem : ∀ y ∈ c', y ∈ g.modules := fun y => hturned.mem_modules h.wellFormed
    obtain ⟨-, ms, -, rfl, -, hchain⟩ := hturned
    rw [← List.cons_append] at hchain hmem
    have hlast := (List.isChain_append.mp hchain).2.2 _
      (List.getLast?_eq_some_getLast (by simp)) x rfl
    exact ⟨_, hmem _ (List.mem_append_left _ (List.getLast_mem _)), hlast⟩
  obtain ⟨u, t, hcrossing⟩ := (h.mem_dependencyModules hy).mp hdepends
  have howner := ((h.ownerOf?_eq_some_iff hcrossing.target).mp hcrossing.owner).2
  have hprimitives : x.name ≠ Module.primitivesName := by
    intro hname
    rw [hname] at howner
    have hprimitive := (h.primitives t hcrossing.target).mp howner
    rw [hcrossing.not_primitive] at hprimitive
    cases hprimitive
  have hglobal : x.name ≠ Module.globalName := by
    intro hname
    rw [hname] at howner
    exact hcrossing.has_scope ((h.global t hcrossing.target).mp howner).2
  exact ⟨fun hreported => hreported.1, fun henabled => ⟨henabled, hglobal, hprimitives⟩⟩

theorem IsArchitecture.representsRings_cycles (h : g.IsArchitecture)
    (hmarks : ∀ m ∈ g.modules, '\x00' ∉ m.name.toList) :
    g.RepresentsRings (fun m => m.enabled = true) g.cycles where
  sound c hc := by
    obtain ⟨m, hm, hreported, -⟩ := h.isCycleFrom_of_mem_cycles hc
    exact ⟨⟨m, hm⟩, m, List.mem_of_mem_head? hm.head?_eq, hreported.1⟩
  complete m c hc := by
    rintro ⟨x, hx, henabled⟩
    exact h.exists_mem_cycles hmarks hc ⟨x, hx, (h.isReported_iff hc hx).mpr henabled⟩
  distinct := h.pairwise_cycles

section Muted

variable {m : Module} {c c' : List Module}

theorem IsSealed.isCycleFrom_mute (h : g.IsSealed) (h' : (g.mute name).IsSealed)
    (hc : g.IsCycleFrom m c) :
    (g.mute name).IsCycleFrom (m.mute name) (c.map (Module.mute name)) := by
  obtain ⟨hm, hthrough⟩ := h.isCycleFrom_iff.mp hc
  refine h'.isCycleFrom_iff.mpr ⟨Array.mem_map.mpr ⟨m, hm, rfl⟩, ?_⟩
  rw [cyclesThrough_mute]
  exact List.mem_map_of_mem hthrough

theorem IsSealed.exists_isCycleFrom_of_mute (h : g.IsSealed) (h' : (g.mute name).IsSealed)
    {m' : Module} (hc : (g.mute name).IsCycleFrom m' c') :
    ∃ m c, g.IsCycleFrom m c ∧ c.map (Module.mute name) = c' := by
  obtain ⟨hm', hthrough⟩ := h'.isCycleFrom_iff.mp hc
  obtain ⟨m, hm, rfl⟩ := Array.mem_map.mp hm'
  rw [cyclesThrough_mute] at hthrough
  obtain ⟨c, hfound, rfl⟩ := List.mem_map.mp hthrough
  exact ⟨m, c, h.isCycleFrom_iff.mpr ⟨hm, hfound⟩, rfl⟩

theorem sameRing_map_mute (name : String) (hring : SameRing c c') :
    SameRing (c.map (Module.mute name)) (c'.map (Module.mute name)) := by
  unfold SameRing
  rw [← List.map_dropLast, ← List.map_dropLast]
  exact hring.map _

theorem WellFormed.sameRing_of_map_mute (h : g.WellFormed) (hc : ∀ x ∈ c, x ∈ g.modules)
    (hc' : ∀ x ∈ c', x ∈ g.modules)
    (hring : SameRing (c.map (Module.mute name)) (c'.map (Module.mute name))) : SameRing c c' := by
  unfold SameRing at hring ⊢
  rw [← List.map_dropLast, ← List.map_dropLast] at hring
  obtain ⟨n, hn⟩ := hring
  refine ⟨n, ?_⟩
  have horders := congrArg (List.map Module.order) hn
  rw [← List.map_rotate, List.map_map, List.map_map] at horders
  have hplaces : ((c.dropLast.rotate n).map Module.order) = c'.dropLast.map Module.order := horders
  have hmem : ∀ x ∈ c.dropLast.rotate n, x ∈ g.modules := fun x hx =>
    hc x (List.mem_of_mem_dropLast (List.mem_rotate.mp hx))
  have hmem' : ∀ x ∈ c'.dropLast, x ∈ g.modules := fun x hx =>
    hc' x (List.mem_of_mem_dropLast hx)
  rw [← h.modulesAt_map_order hmem, hplaces, h.modulesAt_map_order hmem']

/-- Once a module is disabled, the rings that count are those that have another
enabled module. -/
theorem RepresentsRings.map_mute (h : g.IsSealed) (h' : (g.mute name).IsSealed)
    (hcs : g.RepresentsRings (fun m => m.enabled = true) cs) :
    (g.mute name).RepresentsRings (fun m => m.enabled = true)
      ((cs.filter fun c => c.any fun m => m.enabled && m.name != name).map
        (List.map (Module.mute name))) where
  sound c' hc' := by
    obtain ⟨c, hfilter, rfl⟩ := List.mem_map.mp hc'
    obtain ⟨hc, hother⟩ := List.mem_filter.mp hfilter
    obtain ⟨⟨m, hm⟩, -⟩ := hcs.sound c hc
    obtain ⟨x, hx, henabled⟩ := List.any_eq_true.mp hother
    exact ⟨⟨_, h.isCycleFrom_mute h' hm⟩, x.mute name, List.mem_map_of_mem hx, henabled⟩
  complete m' c' hm' := by
    rintro ⟨x', hx', henabled⟩
    obtain ⟨m, c, hm, rfl⟩ := h.exists_isCycleFrom_of_mute h' hm'
    obtain ⟨x, hx, rfl⟩ := List.mem_map.mp hx'
    have hother : (x.enabled && x.name != name) = true := henabled
    obtain ⟨d, hd, hring⟩ := hcs.complete m c hm ⟨x, hx, (Bool.and_eq_true_iff.mp hother).1⟩
    obtain ⟨⟨m₀, hm₀⟩, -⟩ := hcs.sound d hd
    have hxd : x ∈ d := by
      rw [← hm₀.mem_dropLast_iff]
      exact hring.mem_iff.mpr (hm.mem_dropLast_iff.mpr hx)
    refine ⟨d.map (Module.mute name), List.mem_map_of_mem (List.mem_filter.mpr ⟨hd, ?_⟩),
      sameRing_map_mute name hring⟩
    exact List.any_eq_true.mpr ⟨x, hxd, hother⟩
  distinct := by
    rw [List.pairwise_map]
    refine (hcs.distinct.filter _).imp_of_mem ?_
    intro c c' hc hc' hne hring
    obtain ⟨⟨m, hm⟩, -⟩ := hcs.sound c (List.mem_filter.mp hc).1
    obtain ⟨⟨m', hm'⟩, -⟩ := hcs.sound c' (List.mem_filter.mp hc').1
    exact hne (h.wellFormed.sameRing_of_map_mute (fun x => hm.mem_modules h.wellFormed)
      (fun x => hm'.mem_modules h.wellFormed) hring)

end Muted

end Rings

end ArchLint.Graph
