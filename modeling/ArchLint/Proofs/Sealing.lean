import ArchLint.Proofs.Resolution
import ArchLint.Proofs.Runs
import Mathlib.Algebra.GroupWithZero.Nat

/-!
Sealing places every unit in the module it belongs to. The modules that
sealing registers on the way have no regions, and therefore it does not matter
in which order the units are placed.
-/

namespace ArchLint.Graph

section Placing

variable {g : Graph}

theorem register_nothing_known {name : String} {order : Nat}
    (hname : g.moduleIndex[name]? = some order) :
    g.register name [] [] none = (g, order) := by
  have hmodules : (g.modules.modify order fun m =>
      { m with
        roots := mergeRegions m.roots []
        excluded := mergeRegions m.excluded []
        policy := Option.getD none m.policy }) = g.modules := by
    apply Array.ext_getElem?
    intro i
    rw [Array.getElem?_modify]
    split
    · cases g.modules[i]? <;> rfl
    · rfl
  simp only [register, hname, updateModule, hmodules]

theorem register_nothing_new {name : String} (hname : g.moduleIndex[name]? = none) :
    g.register name [] [] none = (g.addModule name, g.modules.size) := by
  have hindex : (g.addModule name).moduleIndex[name]? = some g.modules.size := by
    simp [addModule]
  have hknown := register_nothing_known hindex
  simp only [register, hindex] at hknown
  simp only [register, hname]
  exact hknown

/-- What sealing has done once the units of the numbers in `done` are placed in
the graph `before`. -/
structure Placing (before : Graph) (done : List Nat) (g : Graph) : Prop where
  wellFormed : g.WellFormed
  unitIndex : g.unitIndex = before.unitIndex
  units : ∀ id, g.units[id]? = (before.units[id]?).map fun u =>
    if id ∈ done then { u with owner := some (before.resolution u).owner } else u
  resolution : ∀ u, g.resolution u = before.resolution u
  members : Everywhere (fun _ m => ∀ id, id ∈ m.units ↔
    id ∈ done ∧ ∃ u, before.units[id]? = some u ∧ m.name = (before.resolution u).owner) g.modules
  owners : ∀ id ∈ done, ∀ u, before.units[id]? = some u →
    ∃ order, g.moduleIndex[(before.resolution u).owner]? = some order

/-- No unit has been placed. -/
structure Unplaced (g : Graph) : Prop where
  owners : Everywhere (fun _ u => u.owner = none) g.units
  members : Everywhere (fun _ m => m.units = .empty) g.modules

theorem Change.unplaced {g' : Graph} (hchange : Change g g') (h : g.Unplaced) : g'.Unplaced := by
  cases hchange with
  | addModule _ => exact ⟨h.owners, h.members.push rfl⟩
  | updateModule order f _ _ hunits _ =>
      exact ⟨h.owners, h.members.modify order f fun _ m hm => (hunits m).trans hm⟩
  | addUnit u _ _ _ _ _ howner => exact ⟨h.owners.push howner, h.members⟩
  | updateUnit id f _ _ _ _ howner =>
      exact ⟨h.owners.modify id f fun _ u hu => (howner u).trans hu, h.members⟩
  | @addEdge a b _ _ _ =>
      exact ⟨(h.owners.modify a (·.addDependency b) fun _ _ hu => hu).modify b
        (·.addDependent a) fun _ _ hu => hu, h.members⟩

theorem unplaced_run (operations : List Operation) : (run operations).Unplaced :=
  (run_induction ⟨.empty, .empty⟩ (fun _ _ _ hchange h => hchange.unplaced h) operations).2

namespace Placing

variable {before : Graph} {done : List Nat}

theorem start (hwellFormed : before.WellFormed) (hunplaced : before.Unplaced) :
    Placing before [] before where
  wellFormed := hwellFormed
  unitIndex := rfl
  units id := by simp
  resolution _ := rfl
  members := by
    intro order m hm id
    simp [hunplaced.members hm]
  owners := by simp

theorem resolve (h : Placing before done g) (u : CodeUnit) :
    Placing before done (g.resolve u).1 ∧
      ∃ order, (g.resolve u).1.moduleIndex[(before.resolution u).owner]? = some order := by
  have howner : (g.resolution u).owner = (before.resolution u).owner :=
    congrArg Resolution.owner (h.resolution u)
  simp only [Graph.resolve, howner]
  cases hname : g.moduleIndex[(before.resolution u).owner]? with
  | some order =>
      rw [register_nothing_known hname]
      exact ⟨h, order, hname⟩
  | none =>
      rw [register_nothing_new hname]
      refine ⟨?_, g.modules.size, by simp [addModule]⟩
      constructor
      · exact h.wellFormed.addModule hname
      · exact h.unitIndex
      · exact h.units
      · intro u'
        rw [resolution_addModule]
        exact h.resolution u'
      · refine h.members.push ?_
        intro id
        -- nothing that is placed belongs to a module that was not there
        constructor
        · intro hid
          exact absurd hid (IdSet.not_mem_empty id)
        · rintro ⟨hid, u', hu', hu'name⟩
          obtain ⟨order, horder⟩ := h.owners id hid u' hu'
          rw [← hu'name, hname] at horder
          cases horder
      · intro id hid u' hu'
        obtain ⟨order, horder⟩ := h.owners id hid u' hu'
        refine ⟨order, ?_⟩
        have hne : (before.resolution u).owner ≠ (before.resolution u').owner := by
          intro heq
          rw [← heq, hname] at horder
          cases horder
        simpa [addModule, Std.HashMap.getElem?_insert, hne] using horder

theorem assign (h : Placing before done g) {id : Nat} {u : CodeUnit}
    (hu : before.units[id]? = some u) {order : Nat}
    (horder : g.moduleIndex[(before.resolution u).owner]? = some order) :
    Placing before (id :: done)
      ((g.setOwner id (before.resolution u).owner).addMember (before.resolution u).owner id) := by
  have hadd : (g.setOwner id (before.resolution u).owner).addMember (before.resolution u).owner id =
      (g.setOwner id (before.resolution u).owner).updateModule order fun m => m.addUnit id := by
    simp only [addMember, updateNamed, setOwner, horder]
  rw [hadd]
  have hset : (g.setOwner id (before.resolution u).owner).WellFormed :=
    h.wellFormed.updateUnit id _ (fun _ => rfl) (fun _ => rfl) (fun _ => rfl) fun _ => rfl
  constructor
  · exact hset.updateModule order _ (fun _ => rfl) (fun _ => rfl) fun _ hm => hm
  · exact h.unitIndex
  · intro i
    simp only [updateModule, setOwner, Array.getElem?_modify, h.units i, List.mem_cons]
    by_cases hi : id = i
    · subst hi
      simp only [if_true, hu, Option.map_some, true_or]
      split <;> rfl
    · simp only [hi, if_false, Ne.symm hi, false_or]
  · intro u'
    rw [resolution_updateModule _ _ (fun m => m.addUnit id) _ (fun _ => rfl) fun _ => rfl]
    exact h.resolution u'
  · intro i m hm
    simp only [updateModule, setOwner, Array.getElem?_modify] at hm
    obtain ⟨owner, howner, hname⟩ := (h.wellFormed.modules.indexed _ _).mp horder
    by_cases hi : order = i
    · subst hi
      rw [if_pos rfl, howner] at hm
      cases hm
      intro id'
      simp only [Module.addUnit, IdSet.mem_insert, h.members howner id', List.mem_cons, hname]
      constructor
      · rintro (rfl | ⟨hdone, hplaced⟩)
        · exact ⟨.inl rfl, u, hu, rfl⟩
        · exact ⟨.inr hdone, hplaced⟩
      · rintro ⟨rfl | hdone, hplaced⟩
        · exact .inl rfl
        · exact .inr ⟨hdone, hplaced⟩
    · rw [if_neg hi] at hm
      intro id'
      rw [h.members hm id', List.mem_cons]
      constructor
      · rintro ⟨hdone, hplaced⟩
        exact ⟨.inr hdone, hplaced⟩
      · rintro ⟨rfl | hdone, hplaced⟩
        · obtain ⟨u', hu', hu'name⟩ := hplaced
          rw [hu] at hu'
          cases hu'
          exact absurd (h.wellFormed.modules.indexed.place_unique howner hm
            (hname.trans hu'name.symm)) hi
        · exact ⟨hdone, hplaced⟩
  · intro id' hid' u' hu'
    rcases List.mem_cons.mp hid' with rfl | hid'
    · rw [hu] at hu'
      cases hu'
      exact ⟨order, horder⟩
    · exact h.owners id' hid' u' hu'

theorem congr (h : Placing before done g) {done' : List Nat}
    (hdone : ∀ id u, before.units[id]? = some u → (id ∈ done ↔ id ∈ done')) :
    Placing before done' g where
  wellFormed := h.wellFormed
  unitIndex := h.unitIndex
  units id := by
    rw [h.units id]
    cases hu : before.units[id]? with
    | none => rfl
    | some u => simp only [Option.map_some, hdone id u hu]
  resolution := h.resolution
  members := by
    intro order m hm id
    rw [h.members hm id]
    constructor
    · rintro ⟨hid, u, hu, hname⟩
      exact ⟨(hdone id u hu).mp hid, u, hu, hname⟩
    · rintro ⟨hid, u, hu, hname⟩
      exact ⟨(hdone id u hu).mpr hid, u, hu, hname⟩
  owners := by
    intro id hid u hu
    exact h.owners id ((hdone id u hu).mpr hid) u hu

theorem place (h : Placing before done g) (hunplaced : before.Unplaced) (id : Nat) :
    Placing before (id :: done) (g.place id) := by
  have hunit := h.units id
  unfold Graph.place
  cases hu : before.units[id]? with
  | none =>
      rw [hu, Option.map_none] at hunit
      rw [hunit]
      refine h.congr ?_
      intro id' u' hu'
      have hne : id' ≠ id := by
        rintro rfl
        rw [hu] at hu'
        cases hu'
      simp [hne]
  | some u =>
      rw [hu, Option.map_some] at hunit
      by_cases hid : id ∈ done
      · rw [if_pos hid] at hunit
        rw [hunit]
        refine h.congr ?_
        intro id' _ _
        simp only [List.mem_cons]
        constructor
        · exact fun h => .inr h
        · rintro (rfl | hid')
          · exact hid
          · exact hid'
      · rw [if_neg hid] at hunit
        rw [hunit]
        have hnone : u.owner = none := hunplaced.owners hu
        obtain ⟨hresolved, order, horder⟩ := h.resolve u
        have howner : (g.resolve u).2.owner = (before.resolution u).owner :=
          congrArg Resolution.owner (h.resolution u)
        simp only [hnone, howner]
        exact hresolved.assign hu horder

theorem foldl_place (h : Placing before done g) (hunplaced : before.Unplaced) (ids : List Nat) :
    Placing before (ids.reverse ++ done) (ids.foldl Graph.place g) := by
  induction ids generalizing done g with
  | nil => exact h
  | cons id ids ih =>
      rw [List.foldl_cons, List.reverse_cons, List.append_assoc]
      exact ih (h.place hunplaced id)

end Placing

/-- A graph in which every unit has a place: the modules are the owners of
their members, and every unit has an owner. -/
structure IsSealed (g : Graph) : Prop where
  wellFormed : g.WellFormed
  members : Everywhere (fun _ m => ∀ id, id ∈ m.units ↔
    ∃ u, g.units[id]? = some u ∧ u.owner = some m.name) g.modules
  owners : Everywhere (fun _ u => ∃ m ∈ g.modules, u.owner = some m.name) g.units

/-- Any order of placing the units of a run, as long as no unit is left out,
gives each the module that it belonged to before. -/
theorem placing_run (operations : List Operation) (ids : List Nat) :
    Placing (run operations) ids.reverse (ids.foldl place (run operations)) := by
  have hunplaced := unplaced_run operations
  have hstart := Placing.start (wellFormed_run operations) hunplaced
  simpa using hstart.foldl_place hunplaced ids

theorem sealed_getElem? (operations : List Operation) (id : Nat) :
    (run operations).sealed.units[id]? = ((run operations).units[id]?).map fun u =>
      { u with owner := some ((run operations).resolution u).owner } := by
  have hplacing := placing_run operations (List.range (run operations).units.size)
  rw [sealed, hplacing.units id]
  cases hu : (run operations).units[id]? with
  | none => rfl
  | some u =>
      have hid : id < (run operations).units.size := (Array.getElem?_eq_some_iff.mp hu).1
      simp [hid]

theorem isSealed_sealed_run (operations : List Operation) : (run operations).sealed.IsSealed := by
  have hplacing := placing_run operations (List.range (run operations).units.size)
  have hunits := sealed_getElem? operations
  have hdone : ∀ id u, (run operations).units[id]? = some u →
      id ∈ (List.range (run operations).units.size).reverse := by
    intro id u hu
    simpa using (Array.getElem?_eq_some_iff.mp hu).1
  refine ⟨hplacing.wellFormed, ?_, ?_⟩
  · intro order m hm id
    rw [hplacing.members hm id, hunits id]
    constructor
    · rintro ⟨-, u, hu, hname⟩
      exact ⟨_, by rw [hu]; rfl, congrArg some hname.symm⟩
    · rintro ⟨v, hv, hname⟩
      obtain ⟨u, hu, rfl⟩ := Option.map_eq_some_iff.mp hv
      exact ⟨hdone id u hu, u, hu, (Option.some.inj hname).symm⟩
  · intro id v hv
    rw [hunits id] at hv
    obtain ⟨u, hu, rfl⟩ := Option.map_eq_some_iff.mp hv
    obtain ⟨order, horder⟩ := hplacing.owners id (hdone id u hu) u hu
    obtain ⟨m, hm, hname⟩ := (hplacing.wellFormed.modules.indexed _ _).mp horder
    exact ⟨m, Array.mem_of_getElem? hm, congrArg some hname.symm⟩

end Placing

namespace IsSealed

variable {g : Graph} {m : Module} {u : CodeUnit}

theorem module? (h : g.IsSealed) (hm : m ∈ g.modules) : g.module? m.name = some m := by
  simp only [Graph.module?, h.wellFormed.modules.index_of_mem hm, Option.bind_some,
    h.wellFormed.modules.getElem?_of_mem hm]

theorem contains_iff (h : g.IsSealed) (hm : m ∈ g.modules) (hu : u ∈ g.units) :
    m.contains u = true ↔ u.owner = some m.name := by
  rw [Module.contains, IdSet.contains_iff_mem,
    h.members (h.wellFormed.modules.getElem?_of_mem hm) u.id,
    h.wellFormed.units.getElem?_of_mem hu]
  simp

theorem mem_members (h : g.IsSealed) (hm : m ∈ g.modules) :
    u ∈ g.members m ↔ u ∈ g.units ∧ u.owner = some m.name := by
  simp only [Graph.members, unitsOf, List.mem_filterMap, IdSet.mem_toList,
    h.members (h.wellFormed.modules.getElem?_of_mem hm)]
  constructor
  · rintro ⟨id, ⟨v, hv, howner⟩, hu⟩
    rw [hv] at hu
    cases hu
    exact ⟨Array.mem_of_getElem? hv, howner⟩
  · rintro ⟨hu, howner⟩
    have hget := h.wellFormed.units.getElem?_of_mem hu
    exact ⟨u.id, ⟨u, hget, howner⟩, hget⟩

theorem ownerOf?_eq_some_iff (h : g.IsSealed) (hu : u ∈ g.units) :
    g.ownerOf? u = some m ↔ m ∈ g.modules ∧ u.owner = some m.name := by
  obtain ⟨owner, howner, hname⟩ := h.owners (h.wellFormed.units.getElem?_of_mem hu)
  have hof : g.ownerOf? u = some owner := by
    simp only [ownerOf?, hname, Option.bind_some, h.module? howner]
  rw [hof, Option.some.injEq]
  constructor
  · rintro rfl
    exact ⟨howner, hname⟩
  · rintro ⟨hm, hmname⟩
    rw [hname] at hmname
    exact h.wellFormed.modules.eq_of_name howner hm (Option.some.inj hmname)

theorem flatMap_units_perm (h : g.IsSealed) :
    (g.modules.toList.flatMap fun m => m.units.toList).Perm (List.range g.units.size) := by
  have hmem : ∀ m ∈ g.modules.toList, ∀ id, id ∈ m.units.toList ↔
      ∃ u, g.units[id]? = some u ∧ u.owner = some m.name := by
    intro m hm id
    exact h.members (h.wellFormed.modules.getElem?_of_mem (by simpa using hm)) id
  apply (List.perm_ext_iff_of_nodup ?_ List.nodup_range).mpr
  · intro id
    simp only [List.mem_flatMap, List.mem_range]
    constructor
    · rintro ⟨m, hm, hid⟩
      obtain ⟨u, hu, -⟩ := (hmem m hm id).mp hid
      exact (Array.getElem?_eq_some_iff.mp hu).1
    · intro hid
      have hu := Array.getElem?_eq_getElem hid
      obtain ⟨m, hm, howner⟩ := h.owners hu
      have hm : m ∈ g.modules.toList := by simpa using hm
      exact ⟨m, hm, (hmem m hm id).mpr ⟨_, hu, howner⟩⟩
  · rw [List.nodup_flatMap]
    refine ⟨fun m _ => m.units.nodup_toList, ?_⟩
    have hnames := h.wellFormed.modules.indexed.names_nodup
    rw [List.Nodup, List.pairwise_map] at hnames
    refine hnames.imp_of_mem ?_
    intro m m' hm hm' hne id hid hid'
    obtain ⟨u, hu, howner⟩ := (hmem m hm id).mp hid
    obtain ⟨u', hu', howner'⟩ := (hmem m' hm' id).mp hid'
    rw [hu] at hu'
    cases hu'
    rw [howner] at howner'
    exact hne (Option.some.inj howner')

theorem sum_sizes (h : g.IsSealed) : (g.modules.toList.map Module.size).sum = g.units.size := by
  have hlength := h.flatMap_units_perm.length_eq
  rwa [List.length_flatMap, List.length_range] at hlength

end IsSealed

/-- Sealing the graph of any run partitions its units. Each is a member of one
module, which is the module it belonged to before, and nothing but the owner of
a unit changes. Neither other units nor the order of placing matter. -/
theorem sealed_partition (operations : List Operation) :
    let r := run operations
    let g := r.sealed
    (∀ u ∈ g.units, ∃ m ∈ g.modules, u.owner = some m.name ∧ g.ownerOf? u = some m ∧
        ∀ m' ∈ g.modules, m'.contains u = true ↔ m' = m) ∧
      (g.modules.toList.map Module.size).sum = g.units.size ∧
      g.unitIndex = r.unitIndex ∧
      (∀ id : Nat, g.units[id]? = (r.units[id]?).map fun u =>
        { u with owner := some (r.resolve u).2.owner }) ∧
      (∀ u name, r.Belongs u name ↔ name = (r.resolve u).2.owner) ∧
      (∀ ids : List Nat, (∀ u, ((ids.foldl place r).resolve u).2 = (r.resolve u).2) ∧
        ∀ id ∈ ids, (ids.foldl place r).units[id]? = g.units[id]?) ∧
      ∀ (operations' : List Operation) (id id' : Nat) (u u' : CodeUnit),
        (run operations').modules = r.modules →
        r.units[id]? = some u → (run operations').units[id']? = some u' →
        u'.name = u.name → u'.scope = u.scope → u'.file = u.file → u'.kind = u.kind →
        ((run operations').sealed.units[id']?).map (·.owner) = (g.units[id]?).map (·.owner) := by
  intro r g
  have hsealed : g.IsSealed := isSealed_sealed_run operations
  have hunits := sealed_getElem? operations
  refine ⟨?_, hsealed.sum_sizes, (placing_run operations _).unitIndex, hunits,
    fun u name => belongs_iff, ?_, ?_⟩
  · intro u hu
    obtain ⟨m, hm, howner⟩ := hsealed.owners (hsealed.wellFormed.units.getElem?_of_mem hu)
    refine ⟨m, hm, howner, (hsealed.ownerOf?_eq_some_iff hu).mpr ⟨hm, howner⟩, ?_⟩
    intro m' hm'
    rw [hsealed.contains_iff hm' hu, howner]
    constructor
    · intro hname
      exact hsealed.wellFormed.modules.eq_of_name hm' hm (Option.some.inj hname).symm
    · rintro rfl
      rfl
  · intro ids
    have hplacing := placing_run operations ids
    refine ⟨hplacing.resolution, ?_⟩
    intro id hid
    rw [hplacing.units id, hunits id]
    simp [hid]
  · intro operations' id id' u u' hmodules hu hu' hname hscope hfile hkind
    have howner := resolution_congr hmodules hname hscope hfile hkind
    rw [sealed_getElem? operations', hunits id, hu, hu']
    simp only [Option.map_some, howner]
    rfl

end ArchLint.Graph
