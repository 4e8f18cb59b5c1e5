import ArchLint.Report
import ArchLint.Proofs.Edges

/-!
Taking one module out of reports. Whether a module is enabled makes no
difference to building a graph, nor to any question about units and modules of
a sealed one, so that the switch can be thrown before or after.
-/

namespace ArchLint

namespace Module

/-- The module, out of reports if it has the name. -/
def mute (name : String) (m : Module) : Module :=
  { m with enabled := m.enabled && m.name != name }

variable {name : String} {m : Module}

theorem mute_of_ne (h : m.name ≠ name) : m.mute name = m := by
  have hname : (m.name != name) = true := bne_iff_ne.mpr h
  simp only [mute, hname, Bool.and_true]

theorem mute_of_eq (h : m.name = name) : m.mute name = { m with enabled := false } := by
  simp [mute, h]

theorem mute_mute (name : String) (m : Module) : (m.mute name).mute name = m.mute name := by
  simp only [mute, Bool.and_assoc, Bool.and_self]

end Module

namespace Graph

/-- The graph with the module of a name out of reports. -/
def mute (g : Graph) (name : String) : Graph :=
  { g with modules := g.modules.map (Module.mute name) }

/-- The units of a graph with other modules. -/
def withModules (g : Graph) (modules : Array Module) (index : Std.HashMap String Nat) : Graph :=
  { g with modules := modules, moduleIndex := index }

section Units

variable (g : Graph) (modules : Array Module) (index : Std.HashMap String Nat)

theorem declare_withModules (spec : UnitSpec) :
    (g.withModules modules index).declare spec =
      ((g.declare spec).1.withModules modules index, (g.declare spec).2) := by
  have hid : (g.withModules modules index).unitId? (Text.trimBlank spec.name) =
      g.unitId? (Text.trimBlank spec.name) := rfl
  cases hknown : g.unitId? (Text.trimBlank spec.name) with
  | some id =>
      rw [declare_known hknown, declare_known (hid.trans hknown)]
      rfl
  | none =>
      rw [declare_new hknown, declare_new (hid.trans hknown)]
      rfl

theorem refer_withModules (name : String) :
    (g.withModules modules index).refer name =
      ((g.refer name).1.withModules modules index, (g.refer name).2) := by
  have hid : (g.withModules modules index).unitId? name = g.unitId? name := rfl
  unfold refer
  rw [hid]
  cases g.unitId? name with
  | some id => rfl
  | none => exact declare_withModules g modules index _

theorem link_withModules (source : Int) (name : String) :
    ((g.withModules modules index).link source name).graph =
      (g.link source name).graph.withModules modules index := by
  have hunits : ∀ g : Graph, (g.withModules modules index).units = g.units := fun _ => rfl
  unfold link
  simp only [refer_withModules, hunits]
  split_ifs <;> rfl

end Units

section Building

variable {g : Graph} {name : String}

theorem mute_eq (g : Graph) (name : String) :
    g.mute name = g.withModules (g.modules.map (Module.mute name)) g.moduleIndex :=
  rfl

theorem mute_mute (g : Graph) (name : String) : (g.mute name).mute name = g.mute name := by
  simp only [mute, Array.map_map, Function.comp_def, Module.mute_mute]

theorem updateModule_eq_mute {order : Nat} {f : Module → Module}
    (hf : ∀ i m, g.modules[i]? = some m → m.mute name = if order = i then f m else m) :
    g.updateModule order f = g.mute name := by
  have hmodules : g.modules.modify order f = g.modules.map (Module.mute name) := by
    apply Array.ext_getElem?
    intro i
    rw [Array.getElem?_modify, Array.getElem?_map]
    cases hm : g.modules[i]? with
    | none => simp
    | some m =>
        rw [Option.map_some, Option.map_some, hf i m hm]
        split <;> rfl
  rw [updateModule, hmodules, mute]

/-- Disabling the only module of a name is muting the name. -/
theorem WellFormed.disable_eq_mute (h : g.WellFormed) (name : String) :
    g.disable name = g.mute name := by
  unfold disable updateNamed
  cases hname : g.moduleIndex[name]? with
  | none =>
      have hmodules : g.modules.map (Module.mute name) = g.modules := by
        apply Array.ext_getElem?
        intro i
        rw [Array.getElem?_map]
        cases hm : g.modules[i]? with
        | none => rfl
        | some m => rw [Option.map_some, Module.mute_of_ne (h.modules.indexed.name_ne hname hm)]
      simp only [mute, hmodules]
  | some order =>
      refine updateModule_eq_mute ?_
      intro i m hm
      obtain ⟨owner, howner, hnamed⟩ := (h.modules.indexed _ _).mp hname
      split
      · rename_i hi
        subst hi
        rw [hm] at howner
        cases howner
        exact Module.mute_of_eq hnamed
      · rename_i hi
        refine Module.mute_of_ne fun hm' => hi ?_
        exact h.modules.indexed.place_unique howner hm (hnamed.trans hm'.symm)

theorem updateModule_mute (g : Graph) (name : String) (order : Nat) {f : Module → Module}
    (hf : ∀ m, f (m.mute name) = (f m).mute name) :
    (g.mute name).updateModule order f = (g.updateModule order f).mute name := by
  have hmodules : (g.modules.map (Module.mute name)).modify order f =
      (g.modules.modify order f).map (Module.mute name) := by
    apply Array.ext_getElem?
    intro i
    simp only [Array.getElem?_modify, Array.getElem?_map]
    split
    · cases g.modules[i]? <;> simp [hf]
    · rfl
  simp only [updateModule, mute, hmodules]

theorem addModule_mute {other : String} (hne : other ≠ name) :
    (g.mute name).addModule other = (g.addModule other).mute name := by
  have hnew : Module.mute name { order := g.modules.size, name := other } =
      { order := g.modules.size, name := other } :=
    Module.mute_of_ne hne
  simp only [addModule, mute, Array.map_push, Array.size_map, hnew]

theorem register_mute (hname : (g.moduleIndex[name]?).isSome = true) (other : String)
    (roots excluded : List Region) (policy : Option Policy) :
    ((g.mute name).register other roots excluded policy).1 =
      (g.register other roots excluded policy).1.mute name := by
  have hindex : (g.mute name).moduleIndex = g.moduleIndex := rfl
  unfold register
  rw [hindex]
  cases hother : g.moduleIndex[other]? with
  | some order => exact updateModule_mute g name order fun _ => rfl
  | none =>
      have hne : other ≠ name := by
        rintro rfl
        simp [hother] at hname
      have hsize : (g.mute name).modules.size = g.modules.size := Array.size_map
      simp only [addModule_mute hne, hsize]
      exact updateModule_mute _ name _ fun _ => rfl

theorem isSome_register {other : String} (roots excluded : List Region) (policy : Option Policy)
    (hname : (g.moduleIndex[name]?).isSome = true ∨ other = name) :
    ((g.register other roots excluded policy).1.moduleIndex[name]?).isSome = true := by
  by_cases hne : other = name
  · subst hne
    unfold register
    cases hother : g.moduleIndex[other]? with
    | some order => simp [updateModule, hother]
    | none => simp [updateModule, addModule]
  · rw [register_moduleIndex g roots excluded policy hne]
    exact hname.resolve_right hne

theorem disable_mute (g : Graph) (name other : String) :
    (g.mute name).disable other = (g.disable other).mute name := by
  have hindex : (g.mute name).moduleIndex = g.moduleIndex := rfl
  unfold disable updateNamed
  rw [hindex]
  split
  · exact updateModule_mute g name _ fun _ => rfl
  · rfl

theorem resolution_mute (g : Graph) (name : String) (u : CodeUnit) :
    (g.mute name).resolution u = g.resolution u := by
  apply resolution_eq_of_find?
  rw [mute, Array.toList_map, List.find?_map, Option.map_map]
  rfl

theorem isSome_place (hname : (g.moduleIndex[name]?).isSome = true) (id : Nat) :
    ((g.place id).moduleIndex[name]?).isSome = true := by
  unfold place
  split
  · exact hname
  · split
    · exact hname
    · have hindex : ∀ (g : Graph) (other : String) (f : Module → Module),
          (g.updateNamed other f).moduleIndex = g.moduleIndex := by
        intro g other f
        unfold updateNamed
        split <;> rfl
      simp only [addMember, hindex]
      exact isSome_register [] [] none (.inl hname)

theorem place_mute (hname : (g.moduleIndex[name]?).isSome = true) (id : Nat) :
    (g.mute name).place id = (g.place id).mute name := by
  have hadd : ∀ (g : Graph) (owner : String), (g.mute name).addMember owner id =
      (g.addMember owner id).mute name := by
    intro g owner
    have hindex : (g.mute name).moduleIndex = g.moduleIndex := rfl
    unfold addMember updateNamed
    rw [hindex]
    split
    · exact updateModule_mute g name _ fun _ => rfl
    · rfl
  have hunits : (g.mute name).units = g.units := rfl
  unfold place
  rw [hunits]
  cases hu : g.units[id]? with
  | none => rfl
  | some u =>
      cases howner : u.owner with
      | some owner => simp only [howner]
      | none =>
          simp only [howner, resolve, resolution_mute, register_mute hname]
          exact hadd (setOwner _ id _) _

theorem foldl_place_mute (ids : List Nat) (hname : (g.moduleIndex[name]?).isSome = true) :
    ids.foldl place (g.mute name) = (ids.foldl place g).mute name := by
  induction ids generalizing g with
  | nil => rfl
  | cons id ids ih =>
      rw [List.foldl_cons, List.foldl_cons, place_mute hname, ih (isSome_place hname id)]

end Building

section Questions

variable (g : Graph) (name : String)

theorem module?_mute (other : String) :
    (g.mute name).module? other = (g.module? other).map (Module.mute name) := by
  simp only [module?, mute, Array.getElem?_map, Option.map_bind]
  rfl

theorem ownerOf?_mute (u : CodeUnit) :
    (g.mute name).ownerOf? u = (g.ownerOf? u).map (Module.mute name) := by
  cases howner : u.owner with
  | none => simp [ownerOf?, howner]
  | some owner => simp [ownerOf?, howner, module?_mute]

theorem modulesAt_mute (places : List Nat) :
    (g.mute name).modulesAt places = (g.modulesAt places).map (Module.mute name) := by
  simp only [modulesAt, mute, Array.getElem?_map, List.map_filterMap]

theorem ownersOf_mute (us : List CodeUnit) :
    (g.mute name).ownersOf us = (g.ownersOf us).map (Module.mute name) := by
  have horders : (us.filterMap (g.mute name).ownerOf?).map (·.order) =
      (us.filterMap g.ownerOf?).map (·.order) := by
    simp only [List.map_filterMap, ownerOf?_mute, Option.map_map]
    rfl
  rw [ownersOf, horders, modulesAt_mute, ownersOf]

variable (m d : Module)

theorem dependencyModules_mute :
    (g.mute name).dependencyModules (m.mute name) =
      (g.dependencyModules m).map (Module.mute name) :=
  ownersOf_mute g name _

theorem dependentModules_mute :
    (g.mute name).dependentModules (m.mute name) =
      (g.dependentModules m).map (Module.mute name) :=
  ownersOf_mute g name _

theorem illegalModules_mute [Matching] :
    (g.mute name).illegalModules (m.mute name) =
      (g.illegalModules m).map (Module.mute name) := by
  rw [illegalModules, dependencyModules_mute, List.filter_map]
  rfl

theorem illegalUnits_mute [Matching] (onlyAllowed : Bool) :
    (g.mute name).illegalUnits (m.mute name) onlyAllowed = g.illegalUnits m onlyAllowed := by
  rw [illegalUnits, dependencyModules_mute, List.flatMap_map]
  rfl

theorem dependencyTable_mute : (g.mute name).dependencyTable = g.dependencyTable := by
  simp only [dependencyTable, mute, Array.map_map]
  refine Array.map_congr_left fun m _ => ?_
  have horders := congrArg (List.map Module.order) (dependencyModules_mute g name m)
  rw [List.map_map] at horders
  exact horders

theorem cyclesThrough_mute :
    (g.mute name).cyclesThrough (m.mute name) =
      (g.cyclesThrough m).map (List.map (Module.mute name)) := by
  have hplaces : (g.mute name).cyclesAt (m.mute name).order = g.cyclesAt m.order := by
    have hsize : (g.mute name).modules.size = g.modules.size := Array.size_map
    simp only [cyclesAt, dependencyTable_mute, hsize]
    rfl
  rw [cyclesThrough, hplaces, cyclesThrough, List.map_map]
  exact List.map_congr_left fun places _ => modulesAt_mute g name places

end Questions

end Graph

namespace Analysis

variable {g : Graph} {name : String}

section Units

variable (g : Graph) (modules : Array Module) (index : Std.HashMap String Nat)

theorem declared_withModules (specs : List UnitSpec) :
    declared (g.withModules modules index) specs =
      (declared g specs).withModules modules index := by
  refine List.foldl_hom (Graph.withModules · modules index) ?_
  intro g spec
  rw [Graph.declare_withModules]

theorem references_withModules (specs : List UnitSpec) :
    references (g.withModules modules index) specs = references g specs := by
  induction specs generalizing g with
  | nil => rfl
  | cons spec specs ih =>
      simp only [references, scopeOf, Graph.declare_withModules, ih]
      rfl

theorem linkReference_withModules (r : Reference) :
    linkReference (g.withModules modules index) r =
      (linkReference g r).withModules modules index := by
  have hlinkable : isLinkable (g.withModules modules index) r.scope r.name =
      isLinkable g r.scope r.name := rfl
  unfold linkReference
  rw [hlinkable, Graph.link_withModules]
  split <;> rfl

theorem linked_withModules (files : List ScannedFile) :
    linked (g.withModules modules index) files =
      (linked g files).withModules modules index := by
  rw [linked, references_withModules, declared_withModules]
  exact List.foldl_hom (Graph.withModules · modules index)
    fun g r => linkReference_withModules g modules index r

theorem linked_modules (files : List ScannedFile) : (linked g files).modules = g.modules := by
  have hsame := congrArg Graph.modules (linked_withModules g g.modules g.moduleIndex files)
  exact hsame

theorem linked_moduleIndex (files : List ScannedFile) :
    (linked g files).moduleIndex = g.moduleIndex := by
  have hsame := congrArg Graph.moduleIndex (linked_withModules g g.modules g.moduleIndex files)
  exact hsame

end Units

section Registered

variable (hname : (g.moduleIndex[name]?).isSome = true)

include hname

theorem isSome_linked (files : List ScannedFile) :
    ((linked g files).moduleIndex[name]?).isSome = true := by
  rwa [linked_moduleIndex]

theorem isSome_buildFrom (files : List ScannedFile) :
    ((buildFrom g files).moduleIndex[name]?).isSome = true := by
  rw [buildFrom_eq]
  exact List.foldlRecOn (motive := fun after : Graph => (after.moduleIndex[name]?).isSome = true)
    _ _ (isSome_linked hname files) fun _ hafter id _ => Graph.isSome_place hafter id

theorem buildFrom_mute (files : List ScannedFile) :
    buildFrom (g.mute name) files = (buildFrom g files).mute name := by
  have hlinked : linked (g.mute name) files = (linked g files).mute name := by
    rw [Graph.mute_eq, linked_withModules, Graph.mute_eq, linked_modules, linked_moduleIndex]
  rw [buildFrom_eq, buildFrom_eq, hlinked]
  exact Graph.foldl_place_mute _ (isSome_linked hname files)

end Registered

end Analysis

namespace Report

variable [Matching] {g : Graph} {name : String} {m : Module}

theorem entryOf_mute_of_ne (h : m.name ≠ name) : entryOf (g.mute name) m = entryOf g m := by
  have hm : m.mute name = m := Module.mute_of_ne h
  have hillegalUnits : ∀ onlyAllowed,
      (g.mute name).illegalUnits m onlyAllowed = g.illegalUnits m onlyAllowed := by
    intro onlyAllowed
    simpa only [hm] using g.illegalUnits_mute name m onlyAllowed
  have hdependencies := g.dependencyModules_mute name m
  have hdependents := g.dependentModules_mute name m
  have hillegal := g.illegalModules_mute name m
  have hcycles := g.cyclesThrough_mute name m
  rw [hm] at hdependencies hdependents hillegal hcycles
  simp only [entryOf, hillegalUnits, hdependencies, hdependents, hillegal, hcycles, List.map_map]
  simp only [Function.comp_def, List.map_map]
  rfl

end Report

end ArchLint
