import ArchLint.Proofs.WellFormed
import Mathlib.Logic.Relation

/-!
Runs of the operations that build a graph up. Every operation is a sequence of
elementary changes, and from what these preserve follows what any run
preserves.
-/

namespace ArchLint.Graph

/-- The operations on a graph that is not sealed yet. -/
inductive Operation where
  | register (name : String) (roots excluded : List Region) (policy : Option Policy)
  | declare (spec : UnitSpec)
  | link (source : Int) (name : String)
  | resolve (u : CodeUnit)
  | find (name : String)
  | disable (name : String)

/-- The graph after an operation. A link that fails leaves what it has
declared. -/
def perform (g : Graph) : Operation → Graph
  | .register name roots excluded policy => (g.register name roots excluded policy).1
  | .declare spec => (g.declare spec).1
  | .link source name => (g.link source name).graph
  | .resolve u => (g.resolve u).1
  | .find _ => g
  | .disable name => g.disable name

/-- The graph after a sequence of operations on the empty one. -/
def run (operations : List Operation) : Graph :=
  operations.foldl perform Graph.empty

/-- The elementary changes that operations consist of. -/
inductive Change (g : Graph) : Graph → Prop
  | addModule {name : String} (hname : g.moduleIndex[name]? = none) :
      Change g (g.addModule name)
  | updateModule (order : Nat) (f : Module → Module)
      (horder : ∀ m, (f m).order = m.order) (hname : ∀ m, (f m).name = m.name)
      (hunits : ∀ m, (f m).units = m.units)
      (hregions : ∀ m, m.roots.Nodup ∧ m.excluded.Nodup →
        (f m).roots.Nodup ∧ (f m).excluded.Nodup) :
      Change g (g.updateModule order f)
  | addUnit (u : CodeUnit) (hid : u.id = g.units.size)
      (htrim : Text.trimBlank u.name = u.name) (hname : g.unitIndex[u.name]? = none)
      (hdependencies : u.dependencies = .empty) (hdependents : u.dependents = .empty)
      (howner : u.owner = none) :
      Change g { g with units := g.units.push u
                        unitIndex := g.unitIndex.insert u.name g.units.size }
  | updateUnit (id : Nat) (f : CodeUnit → CodeUnit)
      (hid : ∀ u, (f u).id = u.id) (hname : ∀ u, (f u).name = u.name)
      (hdependencies : ∀ u, (f u).dependencies = u.dependencies)
      (hdependents : ∀ u, (f u).dependents = u.dependents)
      (howner : ∀ u, (f u).owner = u.owner) :
      Change g { g with units := g.units.modify id f }
  | addEdge {a b : Nat} (hab : a ≠ b) (ha : a < g.units.size) (hb : b < g.units.size) :
      Change g (g.addEdge a b)

/-- Any number of elementary changes. -/
abbrev Changes : Graph → Graph → Prop :=
  Relation.ReflTransGen Change

theorem Change.wellFormed {g g' : Graph} (hchange : Change g g') (h : g.WellFormed) :
    g'.WellFormed := by
  cases hchange with
  | addModule hname => exact h.addModule hname
  | updateModule order f horder hname _ hregions =>
      exact h.updateModule order f horder hname hregions
  | addUnit u hid htrim hname hdependencies hdependents _ =>
      exact h.addUnit u hid htrim hname hdependencies hdependents
  | updateUnit id f hid hname hdependencies hdependents _ =>
      exact h.updateUnit id f hid hname hdependencies hdependents
  | addEdge hab ha hb => exact h.addEdge hab ha hb

theorem Changes.preserve {P : Graph → Prop}
    (hstep : ∀ g g', g.WellFormed → Change g g' → P g → P g') {g g' : Graph}
    (hchanges : Changes g g') (h : g.WellFormed) (hP : P g) : g'.WellFormed ∧ P g' := by
  induction hchanges with
  | refl => exact ⟨h, hP⟩
  | tail _ hchange ih => exact ⟨hchange.wellFormed ih.1, hstep _ _ ih.1 hchange ih.2⟩

theorem Changes.wellFormed {g g' : Graph} (hchanges : Changes g g') (h : g.WellFormed) :
    g'.WellFormed :=
  (Changes.preserve (P := fun _ => True) (fun _ _ _ _ _ => trivial) hchanges h trivial).1

section Operations

variable {g : Graph}

theorem nodup_mergeRegions {old : List Region} (new : List Region) (hold : old.Nodup) :
    (mergeRegions old new).Nodup := by
  unfold mergeRegions
  induction new generalizing old with
  | nil => exact hold
  | cons r new ih =>
      rw [List.foldl_cons]
      apply ih
      split
      · exact hold
      · rename_i hr
        have hnot : r ∉ old := by simpa using hr
        exact List.nodup_append'.mpr ⟨hold, List.nodup_singleton r, by simpa using hnot⟩

theorem register_changes (g : Graph) (name : String) (roots excluded : List Region)
    (policy : Option Policy) : Changes g (g.register name roots excluded policy).1 := by
  have hupdate : ∀ (g : Graph) (order : Nat), Change g (g.updateModule order fun m =>
      { m with
        roots := mergeRegions m.roots roots
        excluded := mergeRegions m.excluded excluded
        policy := policy.getD m.policy }) := by
    intro g order
    refine .updateModule order _ (fun _ => rfl) (fun _ => rfl) (fun _ => rfl) ?_
    intro m hm
    exact ⟨nodup_mergeRegions roots hm.1, nodup_mergeRegions excluded hm.2⟩
  unfold register
  cases hname : g.moduleIndex[name]? with
  | some order => exact .single (hupdate g order)
  | none => exact .head (.addModule hname) (.single (hupdate _ _))

theorem disable_changes (g : Graph) (name : String) : Changes g (g.disable name) := by
  unfold disable updateNamed
  split
  · exact .single (.updateModule _ _ (fun _ => rfl) (fun _ => rfl) (fun _ => rfl) fun _ h => h)
  · exact .refl

theorem register_units (g : Graph) (module : String) (roots excluded : List Region)
    (policy : Option Policy) :
    (g.register module roots excluded policy).1.units = g.units ∧
      (g.register module roots excluded policy).1.unitIndex = g.unitIndex := by
  unfold register
  cases g.moduleIndex[module]? <;> exact ⟨rfl, rfl⟩

theorem disable_units (g : Graph) (module : String) :
    (g.disable module).units = g.units ∧ (g.disable module).unitIndex = g.unitIndex := by
  unfold disable updateNamed
  split <;> exact ⟨rfl, rfl⟩

theorem merge_frame (u : CodeUnit) (spec : UnitSpec) :
    (merge u spec).id = u.id ∧ (merge u spec).name = u.name ∧
      (merge u spec).dependencies = u.dependencies ∧
      (merge u spec).dependents = u.dependents ∧ (merge u spec).owner = u.owner := by
  unfold merge
  split_ifs <;> exact ⟨rfl, rfl, rfl, rfl, rfl⟩

theorem declare_known {spec : UnitSpec} {id : Nat}
    (hid : g.unitId? (Text.trimBlank spec.name) = some id) :
    g.declare spec = ({ g with units := g.units.modify id fun u => merge u spec }, id) := by
  simp only [declare, hid]

theorem declare_new {spec : UnitSpec} (hid : g.unitId? (Text.trimBlank spec.name) = none) :
    g.declare spec =
      ({ g with
        units := g.units.push (newUnit g.units.size (Text.trimBlank spec.name) spec)
        unitIndex := g.unitIndex.insert (Text.trimBlank spec.name) g.units.size },
      g.units.size) := by
  simp only [declare, hid]

theorem declare_changes (g : Graph) (spec : UnitSpec) : Changes g (g.declare spec).1 := by
  cases hid : g.unitId? (Text.trimBlank spec.name) with
  | some id =>
      rw [declare_known hid]
      exact .single (.updateUnit id (fun u => merge u spec)
        (fun u => (merge_frame u spec).1) (fun u => (merge_frame u spec).2.1)
        (fun u => (merge_frame u spec).2.2.1) (fun u => (merge_frame u spec).2.2.2.1)
        fun u => (merge_frame u spec).2.2.2.2)
  | none =>
      rw [declare_new hid]
      exact .single (.addUnit (newUnit g.units.size (Text.trimBlank spec.name) spec) rfl
        (Text.trimBlank_trimBlank spec.name) hid rfl rfl rfl)

theorem refer_cases (g : Graph) {name : String} (hname : Text.trimBlank name = name) :
    (∃ id, g.unitId? name = some id ∧ g.refer name = (g, id)) ∨
      g.unitId? name = none ∧ g.refer name =
        ({ g with
          units := g.units.push (newUnit g.units.size name (referenceSpec name))
          unitIndex := g.unitIndex.insert name g.units.size }, g.units.size) := by
  unfold refer
  cases hid : g.unitId? name with
  | some id => exact .inl ⟨id, rfl, rfl⟩
  | none =>
      have hspec : Text.trimBlank (referenceSpec name).name = name := hname
      refine .inr ⟨rfl, ?_⟩
      change g.declare (referenceSpec name) = _
      rw [declare_new (by rw [hspec]; exact hid), hspec]

theorem refer_changes (g : Graph) (name : String) : Changes g (g.refer name).1 := by
  unfold refer
  split
  · exact .refl
  · exact declare_changes g _

theorem refer_lt_size (h : g.WellFormed) {name : String} (hname : Text.trimBlank name = name) :
    (g.refer name).2 < (g.refer name).1.units.size := by
  rcases g.refer_cases hname with ⟨id, hid, hrefer⟩ | ⟨-, hrefer⟩
  · obtain ⟨u, hu, -⟩ := (h.units.indexed name id).mp hid
    rw [hrefer]
    exact (Array.getElem?_eq_some_iff.mp hu).1
  · rw [hrefer]
    simp

/-- What a link does: nothing for a blank name; otherwise the name is referred
to, and an edge is added if the source is another unit of the graph. -/
theorem link_cases (g : Graph) (source : Int) (name : String) :
    (Text.trimBlank name = "" ∧ g.link source name = .done g) ∨
    ∃ g' target, g.refer (Text.trimBlank name) = (g', target) ∧
      (source = target ∧ g.link source name = .done g' ∨
      (∃ id : Nat, source = id ∧ id ≠ target ∧ id < g'.units.size ∧
        g.link source name = .done (g'.addEdge id target)) ∨
      (source ≠ target ∧ ¬(0 ≤ source ∧ source < g'.units.size) ∧
        g.link source name = .unknownSource g')) := by
  unfold link
  by_cases hname : Text.trimBlank name = ""
  · exact .inl ⟨hname, by simp [hname]⟩
  · have hblank : (Text.trimBlank name).isEmpty = false := by simpa using hname
    simp only [hblank, Bool.false_eq_true, if_false]
    obtain ⟨g', target⟩ := g.refer (Text.trimBlank name)
    refine .inr ⟨g', target, rfl, ?_⟩
    by_cases htarget : (target : Int) = source
    · exact .inl ⟨htarget.symm, if_pos htarget⟩
    · rw [if_neg htarget]
      by_cases hsource : 0 ≤ source ∧ source < g'.units.size
      · exact .inr (.inl ⟨source.toNat, by omega, by omega, by omega, if_pos hsource⟩)
      · exact .inr (.inr ⟨Ne.symm htarget, hsource, if_neg hsource⟩)

theorem link_changes (h : g.WellFormed) (source : Int) (name : String) :
    Changes g (g.link source name).graph := by
  have hrefer := g.refer_changes (Text.trimBlank name)
  have htarget := refer_lt_size h (Text.trimBlank_trimBlank name)
  rcases g.link_cases source name with ⟨-, hlink⟩ | ⟨g', target, hg', hcases⟩
  · rw [hlink]
    exact .refl
  · rw [hg'] at hrefer htarget
    rcases hcases with ⟨-, hlink⟩ | ⟨id, -, hne, hid, hlink⟩ | ⟨-, -, hlink⟩
    · rw [hlink]
      exact hrefer
    · rw [hlink]
      exact hrefer.tail (.addEdge hne hid htarget)
    · rw [hlink]
      exact hrefer

theorem perform_changes (h : g.WellFormed) (operation : Operation) :
    Changes g (g.perform operation) := by
  cases operation with
  | register name roots excluded policy => exact g.register_changes name roots excluded policy
  | declare spec => exact g.declare_changes spec
  | link source name => exact link_changes h source name
  | resolve u => exact g.register_changes _ [] [] none
  | find name => exact .refl
  | disable name => exact g.disable_changes name

end Operations

theorem run_induction {P : Graph → Prop} (hempty : P Graph.empty)
    (hstep : ∀ g g', g.WellFormed → Change g g' → P g → P g') (operations : List Operation) :
    (run operations).WellFormed ∧ P (run operations) := by
  have hall : ∀ g : Graph, g.WellFormed → P g → (operations.foldl perform g).WellFormed ∧
      P (operations.foldl perform g) := by
    induction operations with
    | nil => exact fun g hg hP => ⟨hg, hP⟩
    | cons operation operations ih =>
        intro g hg hP
        obtain ⟨hg', hP'⟩ := (perform_changes hg operation).preserve hstep hg hP
        exact ih _ hg' hP'
  exact hall _ .empty hempty

theorem wellFormed_run (operations : List Operation) : (run operations).WellFormed :=
  (run_induction (P := fun _ => True) trivial (fun _ _ _ _ _ => trivial) operations).1

/-- In addition to the first graph the second has at most the unit of a name,
without edges. -/
structure OnlyDeclares (g after : Graph) (name : String) : Prop where
  units : after.units = g.units ∨
    ∃ u, u.name = Text.trimBlank name ∧ after.units = g.units.push u
  dependencies : ∀ id, after.dependenciesOf id = g.dependenciesOf id
  dependents : ∀ id, after.dependentsOf id = g.dependentsOf id
  modules : after.modules = g.modules
  moduleIndex : after.moduleIndex = g.moduleIndex

theorem refer_onlyDeclares (g : Graph) (name : String) :
    g.OnlyDeclares (g.refer (Text.trimBlank name)).1 name := by
  rcases g.refer_cases (Text.trimBlank_trimBlank name) with ⟨id, -, hrefer⟩ | ⟨-, hrefer⟩
  · rw [hrefer]
    exact ⟨.inl rfl, fun _ => rfl, fun _ => rfl, rfl, rfl⟩
  · rw [hrefer]
    refine ⟨.inr ⟨_, rfl, rfl⟩, fun id => ?_, fun id => ?_, rfl, rfl⟩
    · exact elim_getElem?_push CodeUnit.dependencies rfl id
    · exact elim_getElem?_push CodeUnit.dependents rfl id

theorem link_unknownSource {g after : Graph} {source : Int} {name : String}
    (hlink : g.link source name = .unknownSource after) :
    (∀ id : Nat, (id : Int) = source → after.units[id]? = none) ∧ g.OnlyDeclares after name := by
  have hrefer := g.refer_onlyDeclares name
  rcases g.link_cases source name with ⟨-, hdone⟩ | ⟨g', target, hg', hcases⟩
  · rw [hdone] at hlink
    cases hlink
  · rw [hg'] at hrefer
    rcases hcases with ⟨-, hdone⟩ | ⟨id, -, -, -, hdone⟩ | ⟨-, hsource, hunknown⟩
    · rw [hdone] at hlink
      cases hlink
    · rw [hdone] at hlink
      cases hlink
    · rw [hunknown] at hlink
      cases hlink
      refine ⟨?_, hrefer⟩
      intro id hid
      exact Array.getElem?_eq_none (by omega)

/-- After any run the graph is well formed, and a link that fails in it changes
neither edges nor modules. -/
theorem run_representation (operations : List Operation) :
    let g := run operations
    g.WellFormed ∧
      (g.units.toList.map (·.name)).Nodup ∧ (g.modules.toList.map (·.name)).Nodup ∧
      (∀ a b, b ∈ g.dependenciesOf a ∨ b ∈ g.dependentsOf a → b < g.units.size) ∧
      (∀ a, a ∉ g.dependenciesOf a ∧ a ∉ g.dependentsOf a) ∧
      ∀ source name after, g.link source name = .unknownSource after →
        (∀ id : Nat, (id : Int) = source → after.units[id]? = none) ∧
          g.OnlyDeclares after name := by
  intro g
  have h : g.WellFormed := wellFormed_run operations
  refine ⟨h, h.units.indexed.names_nodup, h.modules.indexed.names_nodup, ?_, ?_, ?_⟩
  · rintro a b (hab | hab)
    · exact (h.edge_lt_size hab).2
    · exact (h.edge_lt_size ((h.edges_symmetric b a).mpr hab)).1
  · intro a
    exact ⟨h.edges_irreflexive a, fun ha => h.edges_irreflexive a ((h.edges_symmetric a a).mpr ha)⟩
  · intro source name after hlink
    exact link_unknownSource hlink

end ArchLint.Graph
