import ArchLint.Proofs.Aggregation
import ArchLint.Proofs.Analysis
import ArchLint.Proofs.Linking

namespace ArchLint

namespace Graph

/-- The unit of one name depends on the unit of the other. -/
def DependsOn (g : Graph) (a b : String) : Prop :=
  ∃ u ∈ g.units, ∃ v ∈ g.units, u.name = a ∧ v.name = b ∧ v.id ∈ u.dependencies

section Names

variable {g : Graph} {a b : String}

theorem WellFormed.name_unique (h : g.WellFormed) {id : Nat} (ha : g.unitId? a = some id)
    (hb : g.unitId? b = some id) : a = b := by
  obtain ⟨u, hu, rfl⟩ := (h.units.indexed a id).mp ha
  obtain ⟨v, hv, rfl⟩ := (h.units.indexed b id).mp hb
  obtain rfl : u = v := Option.some.inj (hu.symm.trans hv)
  rfl

theorem WellFormed.exists_unit_iff (h : g.WellFormed) :
    (∃ u ∈ g.units, u.name = a) ↔ (g.unitId? a).isSome = true := by
  rw [Option.isSome_iff_exists]
  constructor
  · rintro ⟨u, hu, rfl⟩
    exact ⟨u.id, h.units.index_of_mem hu⟩
  · rintro ⟨id, hid⟩
    obtain ⟨u, hu, hname⟩ := (h.units.indexed a id).mp hid
    exact ⟨u, Array.mem_of_getElem? hu, hname⟩

theorem WellFormed.dependsOn_iff (h : g.WellFormed) : g.DependsOn a b ↔
    ∃ i j, g.unitId? a = some i ∧ g.unitId? b = some j ∧ j ∈ g.dependenciesOf i := by
  constructor
  · rintro ⟨u, hu, v, hv, rfl, rfl, hedge⟩
    exact ⟨u.id, v.id, h.units.index_of_mem hu, h.units.index_of_mem hv,
      mem_dependenciesOf.mpr ⟨u, h.units.getElem?_of_mem hu, hedge⟩⟩
  · rintro ⟨i, j, hi, hj, hedge⟩
    obtain ⟨u, hu, huname⟩ := (h.units.indexed a i).mp hi
    obtain ⟨v, hv, hvname⟩ := (h.units.indexed b j).mp hj
    obtain ⟨u', hu', hdependency⟩ := mem_dependenciesOf.mp hedge
    obtain rfl : u = u' := Option.some.inj (hu.symm.trans hu')
    refine ⟨u, Array.mem_of_getElem? hu, v, Array.mem_of_getElem? hv, huname, hvname, ?_⟩
    rwa [h.units.numbered hv]

end Names

section Sealed

variable {operations : List Operation} {a b : String}

theorem mem_sealed_units {u : CodeUnit} : u ∈ (run operations).sealed.units ↔
    ∃ v ∈ (run operations).units,
      { v with owner := some ((run operations).resolution v).owner } = u := by
  simp only [Array.mem_iff_getElem?, sealed_getElem?, Option.map_eq_some_iff]
  constructor
  · rintro ⟨id, v, hv, rfl⟩
    exact ⟨v, ⟨id, hv⟩, rfl⟩
  · rintro ⟨v, ⟨id, hv⟩, rfl⟩
    exact ⟨id, v, hv, rfl⟩

theorem sealed_dependsOn_iff :
    (run operations).sealed.DependsOn a b ↔ (run operations).DependsOn a b := by
  simp only [DependsOn, mem_sealed_units]
  constructor
  · rintro ⟨_, ⟨u, hu, rfl⟩, _, ⟨v, hv, rfl⟩, hedge⟩
    exact ⟨u, hu, v, hv, hedge⟩
  · rintro ⟨u, hu, v, hv, hedge⟩
    exact ⟨_, ⟨u, hu, rfl⟩, _, ⟨v, hv, rfl⟩, hedge⟩

theorem exists_sealed_unit_iff :
    (∃ u ∈ (run operations).sealed.units, u.name = a) ↔
      ((run operations).unitId? a).isSome = true := by
  rw [← (wellFormed_run operations).exists_unit_iff]
  simp only [mem_sealed_units]
  constructor
  · rintro ⟨_, ⟨v, hv, rfl⟩, hname⟩
    exact ⟨v, hv, hname⟩
  · rintro ⟨v, hv, hname⟩
    exact ⟨_, ⟨v, hv, rfl⟩, hname⟩

end Sealed

end Graph

namespace Config

theorem apply_unitId? {c : Config} {g : Graph} (happly : c.apply Graph.empty = .ok g)
    (name : String) : g.unitId? name = none := by
  have hregister : ∀ (g : Graph) (entry : ModuleEntry),
      (registerEntry g entry).unitIndex = g.unitIndex := by
    intro g entry
    unfold registerEntry
    dsimp only
    split_ifs
    · exact (Graph.disable_units _ _).2.trans (g.register_units _ _ _ _).2
    · exact (g.register_units _ _ _ _).2
  unfold apply at happly
  split at happly
  · cases happly
    have hempty : (c.modules.foldl registerEntry Graph.empty).unitIndex = ∅ :=
      List.foldlRecOn (motive := fun g => g.unitIndex = ∅) c.modules registerEntry rfl
        fun g hg entry _ => (hregister g entry).trans hg
    rw [Graph.unitId?, hempty]
    simp
  · cases happly

end Config

namespace Analysis

open ArchLint.Graph

/-- The specs of all files, in the order in which they are declared. -/
def specsOf (files : List ScannedFile) : List UnitSpec :=
  (inOrder files).flatMap (·.units)

/-- The graph with the units of further specs. -/
def declared (g : Graph) (specs : List UnitSpec) : Graph :=
  specs.foldl (fun g spec => (g.declare spec).1) g

/-- The scope of the unit of a spec right after its declaration. -/
def scopeOf (g : Graph) (spec : UnitSpec) : String :=
  ((g.declare spec).1.units[(g.declare spec).2]?).elim "" (·.declaredScope)

/-- The references of specs that are declared one after the other. -/
def references (g : Graph) : List UnitSpec → List Reference
  | [] => []
  | spec :: specs =>
      spec.references.map (fun name => ⟨⟨spec, name⟩, (g.declare spec).2, scopeOf g spec⟩) ++
        references (g.declare spec).1 specs

/-- The graph with the units of files and their edges, which is to be sealed. -/
def linked (g : Graph) (files : List ScannedFile) : Graph :=
  (references g (specsOf files)).foldl linkReference (declared g (specsOf files))

section Declaring

variable {g : Graph}

theorem references_append (g : Graph) (specs specs' : List UnitSpec) :
    references g (specs ++ specs') =
      references g specs ++ references (declared g specs) specs' := by
  induction specs generalizing g with
  | nil => rfl
  | cons spec specs ih =>
      rw [List.cons_append, references, references, ih, List.append_assoc]
      rfl

theorem declareSpec_fst (g : Graph) (pending : List PendingLinks) (spec : UnitSpec) :
    (declareSpec (g, pending) spec).1 = (g.declare spec).1 := by
  unfold declareSpec
  dsimp only
  split <;> rfl

theorem foldl_declareSpec_snd (g g' : Graph) (pending : List PendingLinks) (spec : UnitSpec) :
    (declareSpec (g, pending) spec).2.foldl linkPending g' =
      (references g [spec]).foldl linkReference (pending.foldl linkPending g') := by
  unfold declareSpec
  simp only [references, List.append_nil, List.foldl_map]
  split
  · rename_i hempty
    rw [List.isEmpty_iff.mp hempty]
    rfl
  · rw [List.foldl_append]
    rfl

theorem foldl_declareSpec (g : Graph) (pending : List PendingLinks) (specs : List UnitSpec) :
    (specs.foldl declareSpec (g, pending)).1 = declared g specs ∧
      ∀ g', (specs.foldl declareSpec (g, pending)).2.foldl linkPending g' =
        (references g specs).foldl linkReference (pending.foldl linkPending g') := by
  induction specs generalizing g pending with
  | nil => exact ⟨rfl, fun _ => rfl⟩
  | cons spec specs ih =>
      obtain ⟨hgraph, hlinks⟩ := ih (g.declare spec).1 (declareSpec (g, pending) spec).2
      have hstate : declareSpec (g, pending) spec =
          ((g.declare spec).1, (declareSpec (g, pending) spec).2) :=
        Prod.ext (declareSpec_fst g pending spec) rfl
      rw [List.foldl_cons, hstate]
      refine ⟨hgraph, ?_⟩
      intro g'
      rw [hlinks, foldl_declareSpec_snd, ← List.foldl_append]
      simp [references]

theorem declareAll_concat (g : Graph) (specs : List UnitSpec) (spec : UnitSpec) :
    (declareAll g (specs ++ [spec])).1 = ((declared g specs).declare spec).1 := by
  rw [declareAll, (foldl_declareSpec g [] _).1, declared, List.foldl_append]
  rfl

theorem buildFrom_eq (g : Graph) (files : List ScannedFile) :
    buildFrom g files = (linked g files).sealed := by
  obtain ⟨hgraph, hlinks⟩ := foldl_declareSpec g [] (specsOf files)
  change ((declareAll g (specsOf files)).2.foldl linkPending
    (declareAll g (specsOf files)).1).sealed = _
  rw [declareAll, hlinks, hgraph]
  rfl

theorem declared_extends (h : g.WellFormed) (specs : List UnitSpec) :
    g.Extends (specs.map fun spec => Text.trimBlank spec.name) (declared g specs) ∧
      ∀ a, (declared g specs).dependenciesOf a = g.dependenciesOf a := by
  induction specs generalizing g with
  | nil => exact ⟨.refl h, fun _ => rfl⟩
  | cons spec specs ih =>
      obtain ⟨hextends, -, hedges⟩ := declare_extends h spec
      obtain ⟨hextends', hedges'⟩ := ih hextends.wellFormed
      exact ⟨hextends.trans hextends', fun a => (hedges' a).trans (hedges a)⟩

theorem declared_source (h : g.WellFormed) (specs : List UnitSpec) :
    ∀ r ∈ references g specs, r.spec ∈ specs ∧ r.name ∈ r.spec.references ∧
      (declared g specs).unitId? (Text.trimBlank r.spec.name) = some r.source := by
  induction specs generalizing g with
  | nil => simp [references]
  | cons spec specs ih =>
      obtain ⟨hextends, hfound, -⟩ := declare_extends h spec
      intro r hr
      rcases List.mem_append.mp hr with hr | hr
      · obtain ⟨name, hname, rfl⟩ := List.mem_map.mp hr
        have hkept := (declared_extends hextends.wellFormed specs).1.kept
        exact ⟨by simp, hname, hkept _ _ hfound⟩
      · obtain ⟨hspec, hname, hsource⟩ := ih hextends.wellFormed r hr
        exact ⟨by simp [hspec], hname, hsource⟩

theorem mem_references (g : Graph) {specs before after : List UnitSpec} {spec : UnitSpec}
    (hspecs : specs = before ++ spec :: after) {name : String} (hname : name ∈ spec.references) :
    (⟨⟨spec, name⟩, ((declared g before).declare spec).2, scopeOf (declared g before) spec⟩ :
      Reference) ∈ references g specs := by
  rw [hspecs, references_append]
  refine List.mem_append_right _ (List.mem_append_left _ ?_)
  exact List.mem_map_of_mem hname

theorem scopeOf_eq (h : g.WellFormed) {spec : UnitSpec} {u : CodeUnit}
    (hu : (g.declare spec).1.unit? (Text.trimBlank spec.name) = some u) :
    scopeOf g spec = u.declaredScope := by
  rw [unit?, (declare_extends h spec).2.1, Option.bind_some] at hu
  rw [scopeOf, hu]
  rfl

end Declaring

theorem unreserved_linkReference {g : Graph} (h : g.Unreserved) (r : Reference) :
    (linkReference g r).Unreserved := by
  unfold linkReference
  split
  · exact h.link r.source r.name
  · exact h

theorem unreserved_linked {g : Graph} (h : g.Unreserved) (files : List ScannedFile) :
    (linked g files).Unreserved := by
  have hdeclared : (declared g (specsOf files)).Unreserved :=
    List.foldlRecOn _ _ h fun g hg spec _ => hg.declare spec
  exact List.foldlRecOn (references g (specsOf files)) linkReference hdeclared
    fun g hg r _ => unreserved_linkReference hg r

/-- How the graph `g` of files comes about from a graph `start` without units:
their specs are declared and then the references are linked. -/
structure IsLinked (files : List ScannedFile) (start g : Graph) : Prop where
  wellFormed : start.WellFormed
  unitless : ∀ name, start.unitId? name = none
  reachable : ∃ operations, g = run operations
  linking : Linking (declared start (specsOf files)) (references start (specsOf files)) g

theorem build_isLinked {c : Config} (hc : c.faults = []) (files : List ScannedFile) :
    ∃ start g, c.apply Graph.empty = .ok start ∧ build c files = .ok g.sealed ∧
      IsLinked files start g := by
  obtain ⟨start, happly, hstart⟩ := c.unreserved_apply hc
  have hwellFormed : start.WellFormed := by
    obtain ⟨operations, rfl⟩ := hstart.reachable
    exact wellFormed_run operations
  have hunitless := Config.apply_unitId? happly
  have hedgeless : ∀ a, start.dependenciesOf a = .empty := by
    intro a
    cases hu : start.units[a]? with
    | none => rw [dependenciesOf, hu]; rfl
    | some u =>
        have hid := (hwellFormed.units.indexed u.name a).mpr ⟨u, hu, rfl⟩
        exact absurd (hid.symm.trans (hunitless u.name)) (by simp)
  obtain ⟨hextends, hedges⟩ := declared_extends hwellFormed (specsOf files)
  refine ⟨start, linked start files, happly, ?_, hwellFormed, hunitless,
    (unreserved_linked hstart files).reachable, ?_⟩
  · rw [← buildFrom_eq]
    simp only [build, happly]
    rfl
  · refine (Linking.start hextends.wellFormed fun a => ?_).foldl_linkReference _ fun r hr => ?_
    · rw [hedges, hedgeless]
    · exact ⟨_, (declared_source hwellFormed _ r hr).2.2⟩

namespace IsLinked

variable {files : List ScannedFile} {start g : Graph} {a b name : String}

theorem declared_iff (h : IsLinked files start g) :
    ((declared start (specsOf files)).unitId? name).isSome = true ↔
      ∃ spec ∈ specsOf files, Text.trimBlank spec.name = name := by
  rw [(declared_extends h.wellFormed _).1.known, h.unitless]
  simp

theorem exists_unit_iff (h : IsLinked files start g) : (∃ u ∈ g.sealed.units, u.name = name) ↔
    Known (declared start (specsOf files)) (references start (specsOf files)) name := by
  rw [← h.linking.known]
  obtain ⟨operations, rfl⟩ := h.reachable
  exact exists_sealed_unit_iff

/-- The edges are those of the references that link. -/
theorem dependsOn_iff (h : IsLinked files start g) : g.sealed.DependsOn a b ↔ a ≠ b ∧
    ∃ earlier r, earlier ++ [r] <+: references start (specsOf files) ∧
      Links (declared start (specsOf files)) earlier r ∧
      Text.trimBlank r.spec.name = a ∧ r.target = b := by
  have hedges : g.sealed.DependsOn a b ↔ g.DependsOn a b := by
    obtain ⟨operations, rfl⟩ := h.reachable
    exact sealed_dependsOn_iff
  have hsource : ∀ earlier r, earlier ++ [r] <+: references start (specsOf files) →
      g.unitId? (Text.trimBlank r.spec.name) = some r.source := by
    intro earlier r hinitial
    have hr := mem_of_prefix_concat hinitial
    exact h.linking.kept _ _ (declared_source h.wellFormed _ r hr).2.2
  rw [hedges, h.linking.wellFormed.dependsOn_iff]
  simp only [h.linking.edges]
  constructor
  · rintro ⟨i, j, hi, hj, earlier, r, hinitial, hlinks, rfl, hne, hb⟩
    obtain rfl := h.linking.wellFormed.name_unique (hsource earlier r hinitial) hi
    obtain rfl := h.linking.wellFormed.name_unique hb hj
    refine ⟨?_, earlier, r, hinitial, hlinks, rfl, rfl⟩
    intro heq
    rw [heq, hj] at hi
    exact hne (Option.some.inj hi).symm
  · rintro ⟨hne, earlier, r, hinitial, hlinks, rfl, rfl⟩
    have hknown := (h.linking.known _).mpr (h.linking.known_target hinitial hlinks)
    obtain ⟨j, hj⟩ := Option.isSome_iff_exists.mp hknown
    refine ⟨r.source, j, hsource earlier r hinitial, hj, earlier, r, hinitial, hlinks, rfl, ?_, hj⟩
    rintro rfl
    exact hne (h.linking.wellFormed.name_unique (hsource earlier r hinitial) hj)

theorem dependsOn_of_mem (h : IsLinked files start g) {r : Reference}
    (hr : r ∈ references start (specsOf files)) (hblank : r.target ≠ "")
    (hself : r.target ≠ Text.trimBlank r.spec.name)
    (hlinks : (∃ spec ∈ specsOf files, Text.trimBlank spec.name = r.name) ∨ r.IsForeign) :
    g.sealed.DependsOn (Text.trimBlank r.spec.name) r.target := by
  obtain ⟨earlier, later, hsplit⟩ := List.append_of_mem hr
  refine h.dependsOn_iff.mpr ⟨hself.symm, earlier, r, ?_, ⟨hblank, ?_⟩, rfl, rfl⟩
  · exact ⟨later, by rw [hsplit, ← List.append_cons]⟩
  · rcases hlinks with hdeclared | hforeign
    · exact .inr (.inl (h.declared_iff.mpr hdeclared))
    · exact .inl hforeign

/-- A unit that no spec declares has been brought in by an edge. -/
theorem exists_dependent (h : IsLinked files start g) {u : CodeUnit} (hu : u ∈ g.sealed.units)
    (hundeclared : ∀ spec ∈ specsOf files, Text.trimBlank spec.name ≠ u.name) :
    ∃ v ∈ g.sealed.units, v.id ∈ u.dependents ∧ u.id ∈ v.dependencies := by
  have hwellFormed : g.sealed.WellFormed := by
    obtain ⟨operations, rfl⟩ := h.reachable
    exact (isSealed_sealed_run operations).wellFormed
  rcases h.exists_unit_iff.mp ⟨u, hu, rfl⟩ with hdeclared | ⟨hblank, r, hr, hforeign, htarget⟩
  · obtain ⟨spec, hspec, hname⟩ := h.declared_iff.mp hdeclared
    exact absurd hname (hundeclared spec hspec)
  · have hself : r.target ≠ Text.trimBlank r.spec.name := by
      rw [htarget]
      exact (hundeclared r.spec (declared_source h.wellFormed _ r hr).1).symm
    have hedge := h.dependsOn_of_mem hr (htarget ▸ hblank) hself (.inr hforeign)
    obtain ⟨v, hv, u', hu', -, hname, hdependency⟩ := hedge
    obtain rfl : u' = u := hwellFormed.units.eq_of_name hu' hu (hname.trans htarget)
    exact ⟨v, hv, (hwellFormed.mem_dependents_iff hv hu).mpr hdependency, hdependency⟩

theorem kind_eq (h : IsLinked files start g) {u : CodeUnit} (hu : u ∈ g.sealed.units)
    (hundeclared : ∀ spec ∈ specsOf files, Text.trimBlank spec.name ≠ u.name) :
    u.kind = if Name.isPredeclared u.name then .primitive else .unknown := by
  have hunit : ∃ v ∈ g.units, v.name = u.name ∧ v.kind = u.kind := by
    obtain ⟨operations, rfl⟩ := h.reachable
    obtain ⟨v, hv, rfl⟩ := mem_sealed_units.mp hu
    exact ⟨v, hv, rfl, rfl⟩
  obtain ⟨v, hv, hname, hkind⟩ := hunit
  rw [← hname, ← hkind]
  refine (h.linking.kinds v hv).resolve_left ?_
  rw [h.declared_iff, hname]
  rintro ⟨spec, hspec, hspecName⟩
  exact hundeclared spec hspec hspecName

end IsLinked

/-- The architecture of files neither invents nor loses a dependency. Every
edge comes from a mention; a mention gives an edge if its name is declared or
suggests another scope than its unit had when it was declared; and units that
no spec declares are there only as targets. -/
theorem build_dependencies {c : Config} (hc : c.faults = []) (files : List ScannedFile) :
    ∃ start g, c.apply Graph.empty = .ok start ∧ build c files = .ok g ∧
      (∀ a b, g.DependsOn a b → a ≠ b ∧ ∃ spec ∈ specsOf files,
        Text.trimBlank spec.name = a ∧ ∃ d ∈ spec.references, Text.trimBlank d = b) ∧
      (∀ before spec after d, specsOf files = before ++ spec :: after → d ∈ spec.references →
        Text.trimBlank d ≠ "" → Text.trimBlank d ≠ Text.trimBlank spec.name →
        ((∃ spec' ∈ specsOf files, Text.trimBlank spec'.name = d) ∨
          ∃ u, (declareAll start (before ++ [spec])).1.unit? (Text.trimBlank spec.name) = some u ∧
            (Name.split d).1 ≠ u.declaredScope) →
        g.DependsOn (Text.trimBlank spec.name) (Text.trimBlank d)) ∧
      (∀ u ∈ g.units, (∀ spec ∈ specsOf files, Text.trimBlank spec.name ≠ u.name) →
        (∃ v ∈ g.units, v.id ∈ u.dependents ∧ u.id ∈ v.dependencies) ∧
          u.kind = if Name.isPredeclared u.name then .primitive else .unknown) ∧
      ∀ spec ∈ specsOf files, ∃ u ∈ g.units, u.name = Text.trimBlank spec.name := by
  obtain ⟨start, g, happly, hbuild, h⟩ := build_isLinked hc files
  refine ⟨start, g.sealed, happly, hbuild, ?_, ?_, ?_, ?_⟩
  · intro a b hedge
    obtain ⟨hne, earlier, r, hinitial, -, hsource, htarget⟩ := h.dependsOn_iff.mp hedge
    obtain ⟨hspec, hname, -⟩ := declared_source h.wellFormed _ r (mem_of_prefix_concat hinitial)
    exact ⟨hne, r.spec, hspec, hsource, r.name, hname, htarget⟩
  · intro before spec after d hspecs hd hblank hself hlinks
    have hforeign : (∃ u, (declareAll start (before ++ [spec])).1.unit?
        (Text.trimBlank spec.name) = some u ∧ (Name.split d).1 ≠ u.declaredScope) →
        (Name.split d).1 ≠ scopeOf (declared start before) spec := by
      rintro ⟨u, hu, hscope⟩
      rw [declareAll_concat] at hu
      rwa [scopeOf_eq (declared_extends h.wellFormed before).1.wellFormed hu]
    have hmem := mem_references start hspecs hd
    have hedge := h.dependsOn_of_mem hmem hblank hself (hlinks.imp_right hforeign)
    exact hedge
  · intro u hu hundeclared
    exact ⟨h.exists_dependent hu hundeclared, h.kind_eq hu hundeclared⟩
  · intro spec hspec
    exact h.exists_unit_iff.mpr (.inl (h.declared_iff.mpr ⟨spec, hspec, rfl⟩))

/-- A unit that mentions a declared name of its scope and a predeclared one. -/
def serviceSpec : UnitSpec :=
  { scope := "core", name := "core.Service", references := ["core.Port", "int"] }

/-- Its name is written with blanks around it. -/
def portSpec : UnitSpec :=
  { scope := "core", name := " core.Port ", kind := .interface }

theorem build_dependencies_service :
    (⟨[]⟩ : Config).faults = [] ∧
      ∃ g, build ⟨[]⟩ [{ units := [serviceSpec, portSpec] }] = .ok g ∧
        g.DependsOn "core.Service" "core.Port" ∧ g.DependsOn "core.Service" "int" ∧
        (∀ b, ¬g.DependsOn "core.Port" b) ∧
        ∃ u ∈ g.units, u.name = "int" ∧ u.kind = .primitive := by
  have hspecs : specsOf [{ units := [serviceSpec, portSpec] }] = [serviceSpec, portSpec] := by
    simp [specsOf, inOrder]
  have htrim : Text.trimBlank "core.Service" = "core.Service" ∧
      Text.trimBlank " core.Port " = "core.Port" := by
    decide
  obtain ⟨start, g, happly, hbuild, hsound, hcomplete, horphans, -⟩ :=
    build_dependencies (c := ⟨[]⟩) rfl [{ units := [serviceSpec, portSpec] }]
  obtain rfl : Graph.empty = start := Except.ok.inj happly
  have hport : g.DependsOn "core.Service" "core.Port" :=
    hcomplete [] serviceSpec [portSpec] "core.Port" hspecs (by decide) (by decide) (by decide)
      (.inl ⟨portSpec, by simp [hspecs], by decide⟩)
  have hint : g.DependsOn "core.Service" "int" := by
    refine hcomplete [] serviceSpec [portSpec] "int" hspecs (by decide) (by decide) (by decide)
      (.inr ⟨newUnit 0 "core.Service" serviceSpec, ?_, by decide⟩)
    rw [declareAll_concat]
    simp [declared, Graph.empty, declare, unitId?, unit?, serviceSpec, htrim]
  refine ⟨rfl, g, hbuild, hport, hint, ?_, ?_⟩
  · intro b hedge
    obtain ⟨-, spec, hspec, hname, d, hd, -⟩ := hsound _ _ hedge
    rw [hspecs, List.mem_pair] at hspec
    rcases hspec with rfl | rfl
    · exact absurd hname (by decide)
    · simp [portSpec] at hd
  · obtain ⟨-, -, v, hv, -, hname, -⟩ := hint
    refine ⟨v, hv, hname, ?_⟩
    have hundeclared : ∀ spec ∈ specsOf [{ units := [serviceSpec, portSpec] }],
        Text.trimBlank spec.name ≠ v.name := by
      rw [hspecs, hname]
      decide
    rw [(horphans v hv hundeclared).2, hname]
    decide

end Analysis

end ArchLint
