import ArchLint.Graph.Building
import ArchLint.Proofs.IdSet
import ArchLint.Proofs.NamedEntries
import ArchLint.Proofs.Trimming

namespace ArchLint.Graph

/-- The numbers of the units that the unit of a number depends on; none if
there is no such unit. -/
def dependenciesOf (g : Graph) (id : Nat) : IdSet Nat :=
  (g.units[id]?).elim .empty (·.dependencies)

/-- The numbers of the units that depend on the unit of a number; none if
there is no such unit. -/
def dependentsOf (g : Graph) (id : Nat) : IdSet Nat :=
  (g.units[id]?).elim .empty (·.dependents)

/-- What every graph that is built up satisfies. -/
structure WellFormed (g : Graph) : Prop where
  units : Catalogued CodeUnit.id CodeUnit.name g.units g.unitIndex
  names_trimmed : Everywhere (fun _ u => Text.trimBlank u.name = u.name) g.units
  modules : Catalogued Module.order Module.name g.modules g.moduleIndex
  regions_nodup : Everywhere (fun _ m => m.roots.Nodup ∧ m.excluded.Nodup) g.modules
  edges_symmetric : ∀ a b, b ∈ g.dependenciesOf a ↔ a ∈ g.dependentsOf b
  edges_irreflexive : ∀ a, a ∉ g.dependenciesOf a

section Edges

variable {g : Graph} {a b : Nat}

theorem mem_dependenciesOf : b ∈ g.dependenciesOf a ↔
    ∃ u, g.units[a]? = some u ∧ b ∈ u.dependencies := by
  unfold dependenciesOf
  cases g.units[a]? <;> simp

theorem mem_dependentsOf : b ∈ g.dependentsOf a ↔
    ∃ u, g.units[a]? = some u ∧ b ∈ u.dependents := by
  unfold dependentsOf
  cases g.units[a]? <;> simp

theorem lt_size_of_mem_dependenciesOf (h : b ∈ g.dependenciesOf a) : a < g.units.size := by
  obtain ⟨u, hu, -⟩ := mem_dependenciesOf.mp h
  exact (Array.getElem?_eq_some_iff.mp hu).1

theorem lt_size_of_mem_dependentsOf (h : b ∈ g.dependentsOf a) : a < g.units.size := by
  obtain ⟨u, hu, -⟩ := mem_dependentsOf.mp h
  exact (Array.getElem?_eq_some_iff.mp hu).1

theorem mem_dependenciesOf_addEdge {x y : Nat} (ha : a < g.units.size) :
    y ∈ (g.addEdge a b).dependenciesOf x ↔ x = a ∧ y = b ∨ y ∈ g.dependenciesOf x := by
  have hframe : (g.addEdge a b).dependenciesOf x =
      ((g.units.modify a fun u => u.addDependency b)[x]?).elim .empty (·.dependencies) :=
    elim_getElem?_modify CodeUnit.dependencies (f := fun u => u.addDependent a) (fun _ => rfl) b x
  rw [hframe, Array.getElem?_modify]
  split
  · rename_i hx
    subst hx
    simp [dependenciesOf, Array.getElem?_eq_getElem ha, CodeUnit.addDependency]
  · rename_i hx
    simp [dependenciesOf, Ne.symm hx]

theorem mem_dependentsOf_addEdge {x y : Nat} (hb : b < g.units.size) :
    x ∈ (g.addEdge a b).dependentsOf y ↔ x = a ∧ y = b ∨ x ∈ g.dependentsOf y := by
  have hframe : ((g.units.modify a fun u => u.addDependency b)[y]?).elim .empty (·.dependents) =
      g.dependentsOf y :=
    elim_getElem?_modify CodeUnit.dependents (f := fun u => u.addDependency b) (fun _ => rfl) a y
  rw [← hframe, dependentsOf, addEdge, Array.getElem?_modify]
  split
  · rename_i hy
    subst hy
    have hsize : b < (g.units.modify a fun u => u.addDependency b).size := by simpa using hb
    simp [Array.getElem?_eq_getElem hsize, CodeUnit.addDependent]
  · rename_i hy
    simp [Ne.symm hy]

end Edges

namespace WellFormed

variable {g : Graph}

theorem empty : Graph.empty.WellFormed where
  units := .empty
  names_trimmed := .empty
  modules := .empty
  regions_nodup := .empty
  edges_symmetric a b := by simp [mem_dependenciesOf, mem_dependentsOf, Graph.empty]
  edges_irreflexive a := by simp [mem_dependenciesOf, Graph.empty]

theorem edge_lt_size (h : g.WellFormed) {a b : Nat} (hab : b ∈ g.dependenciesOf a) :
    a < g.units.size ∧ b < g.units.size :=
  ⟨lt_size_of_mem_dependenciesOf hab,
    lt_size_of_mem_dependentsOf ((h.edges_symmetric a b).mp hab)⟩

theorem addModule (h : g.WellFormed) {name : String} (hname : g.moduleIndex[name]? = none) :
    (g.addModule name).WellFormed where
  units := h.units
  names_trimmed := h.names_trimmed
  modules := h.modules.push { order := g.modules.size, name := name } rfl hname
  regions_nodup := h.regions_nodup.push ⟨List.nodup_nil, List.nodup_nil⟩
  edges_symmetric := h.edges_symmetric
  edges_irreflexive := h.edges_irreflexive

theorem updateModule (h : g.WellFormed) (order : Nat) (f : Module → Module)
    (horder : ∀ m, (f m).order = m.order) (hname : ∀ m, (f m).name = m.name)
    (hregions : ∀ m, m.roots.Nodup ∧ m.excluded.Nodup →
      (f m).roots.Nodup ∧ (f m).excluded.Nodup) :
    (g.updateModule order f).WellFormed where
  units := h.units
  names_trimmed := h.names_trimmed
  modules := h.modules.modify order f horder hname
  regions_nodup := h.regions_nodup.modify order f fun _ m hm => hregions m hm
  edges_symmetric := h.edges_symmetric
  edges_irreflexive := h.edges_irreflexive

theorem addUnit (h : g.WellFormed) (u : CodeUnit) (hid : u.id = g.units.size)
    (htrim : Text.trimBlank u.name = u.name) (hname : g.unitIndex[u.name]? = none)
    (hdependencies : u.dependencies = .empty) (hdependents : u.dependents = .empty) :
    { g with units := g.units.push u
             unitIndex := g.unitIndex.insert u.name g.units.size }.WellFormed where
  units := h.units.push u hid hname
  names_trimmed := h.names_trimmed.push htrim
  modules := h.modules
  regions_nodup := h.regions_nodup
  edges_symmetric a b := by
    simp only [dependenciesOf, dependentsOf, elim_getElem?_push _ hdependencies,
      elim_getElem?_push _ hdependents]
    exact h.edges_symmetric a b
  edges_irreflexive a := by
    simp only [dependenciesOf, elim_getElem?_push _ hdependencies]
    exact h.edges_irreflexive a

theorem updateUnit (h : g.WellFormed) (id : Nat) (f : CodeUnit → CodeUnit)
    (hid : ∀ u, (f u).id = u.id) (hname : ∀ u, (f u).name = u.name)
    (hdependencies : ∀ u, (f u).dependencies = u.dependencies)
    (hdependents : ∀ u, (f u).dependents = u.dependents) :
    { g with units := g.units.modify id f }.WellFormed where
  units := h.units.modify id f hid hname
  names_trimmed := h.names_trimmed.modify id f fun _ u hu => by rw [hname]; exact hu
  modules := h.modules
  regions_nodup := h.regions_nodup
  edges_symmetric a b := by
    simp only [dependenciesOf, dependentsOf, elim_getElem?_modify _ hdependencies,
      elim_getElem?_modify _ hdependents]
    exact h.edges_symmetric a b
  edges_irreflexive a := by
    simp only [dependenciesOf, elim_getElem?_modify _ hdependencies]
    exact h.edges_irreflexive a

theorem addEdge (h : g.WellFormed) {a b : Nat} (hab : a ≠ b) (ha : a < g.units.size)
    (hb : b < g.units.size) : (g.addEdge a b).WellFormed where
  units := (h.units.modify a (·.addDependency b) (fun _ => rfl) fun _ => rfl).modify b
    (·.addDependent a) (fun _ => rfl) fun _ => rfl
  names_trimmed := (h.names_trimmed.modify a (·.addDependency b) fun _ _ hu => hu).modify b
    (·.addDependent a) fun _ _ hu => hu
  modules := h.modules
  regions_nodup := h.regions_nodup
  edges_symmetric x y := by
    rw [mem_dependenciesOf_addEdge ha, mem_dependentsOf_addEdge hb, h.edges_symmetric]
  edges_irreflexive x := by
    rw [mem_dependenciesOf_addEdge ha]
    rintro (⟨rfl, rfl⟩ | hx)
    · exact hab rfl
    · exact h.edges_irreflexive x hx

end WellFormed

end ArchLint.Graph
