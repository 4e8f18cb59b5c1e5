import ArchLint.Proofs.Runs

namespace ArchLint

def CodeUnit.facts (u : CodeUnit) : CodeUnit :=
  { u with dependents := .empty, dependencies := .empty }

namespace Graph

/-- What an operation declares under a name. -/
def Operation.declared? (name : String) : Operation → Option UnitSpec
  | .declare spec => if Text.trimBlank spec.name = name then some spec else none
  | _ => none

/-- An operation brings a name in: it declares the name or links to it. -/
def Operation.Mentions (name : String) : Operation → Prop
  | .declare spec => Text.trimBlank spec.name = name
  | .link _ target => Text.trimBlank target = name ∧ name ≠ ""
  | _ => False

section Facts

variable {g after : Graph} {name : String} {u v : CodeUnit}

theorem mem_declared_iff {operations : List Operation} {spec : UnitSpec} :
    spec ∈ operations.filterMap (·.declared? name) ↔
      .declare spec ∈ operations ∧ Text.trimBlank spec.name = name := by
  rw [List.mem_filterMap]
  constructor
  · rintro ⟨operation, hoperation, hdeclares⟩
    cases operation with
    | declare other =>
        rw [Operation.declared?, Option.ite_none_right_eq_some, Option.some.injEq] at hdeclares
        obtain ⟨hname, rfl⟩ := hdeclares
        exact ⟨hoperation, hname⟩
    | _ => cases hdeclares
  · rintro ⟨hoperation, hname⟩
    exact ⟨_, hoperation, if_pos hname⟩

theorem facts_merge (u : CodeUnit) (spec : UnitSpec) :
    (merge u spec).facts = merge u.facts spec := by
  unfold merge
  split_ifs <;> rfl

theorem unit?_congr (hunits : after.units = g.units) (hindex : after.unitIndex = g.unitIndex) :
    after.unit? name = g.unit? name := by
  rw [unit?, unit?, unitId?, unitId?, hunits, hindex]

theorem unit?_modify (g : Graph) (id : Nat) (f : CodeUnit → CodeUnit) (name : String) :
    ({ g with units := g.units.modify id f } : Graph).unit? name =
      (g.unit? name).map fun u => if g.unitId? name = some id then f u else u := by
  unfold unit? unitId?
  cases hid : g.unitIndex[name]? with
  | none => rfl
  | some place =>
      simp only [Option.bind_some, Array.getElem?_modify, Option.some.injEq]
      by_cases h : id = place
      · simp [h]
      · simp [h, Ne.symm h]

theorem exists_unit?_modify (id : Nat) {f : CodeUnit → CodeUnit}
    (hf : ∀ u, (f u).facts = u.facts) (hu : g.unit? name = some u) :
    ∃ u', ({ g with units := g.units.modify id f } : Graph).unit? name = some u' ∧
      u'.facts = u.facts := by
  refine ⟨_, (unit?_modify g id f name).trans (congrArg _ hu), ?_⟩
  dsimp only
  split_ifs
  · exact hf u
  · rfl

theorem unit?_push (hv : g.unitIndex[v.name]? = none) (hu : g.unit? name = some u) :
    ({ g with units := g.units.push v
              unitIndex := g.unitIndex.insert v.name g.units.size } : Graph).unit? name =
      some u := by
  obtain ⟨id, hid, hplace⟩ := Option.bind_eq_some_iff.mp hu
  rw [unitId?] at hid
  have hne : v.name ≠ name := by
    rintro rfl
    rw [hv] at hid
    cases hid
  have hlt : id < g.units.size := (Array.getElem?_eq_some_iff.mp hplace).1
  have hkept : (g.unitIndex.insert v.name g.units.size)[name]? = some id := by
    simpa [Std.HashMap.getElem?_insert, hne] using hid
  rw [unit?, unitId?, hkept, Option.bind_some, Array.getElem?_push, if_neg hlt.ne, hplace]

theorem exists_unit?_addEdge (hu : g.unit? name = some u) (source target : Nat) :
    ∃ u', (g.addEdge source target).unit? name = some u' ∧ u'.facts = u.facts := by
  obtain ⟨v, hv, hsource⟩ := exists_unit?_modify source (f := (·.addDependency target))
    (fun _ => rfl) hu
  obtain ⟨w, hw, htarget⟩ := exists_unit?_modify target (f := (·.addDependent source))
    (fun _ => rfl) hv
  exact ⟨w, hw, htarget.trans hsource⟩

theorem unit?_refer (hu : g.unit? name = some u) (other : String) :
    (g.refer (Text.trimBlank other)).1.unit? name = some u := by
  rcases g.refer_cases (Text.trimBlank_trimBlank other) with ⟨id, -, hrefer⟩ | ⟨hnew, hrefer⟩
  · rwa [hrefer]
  · rw [hrefer]
    exact unit?_push (v := newUnit g.units.size (Text.trimBlank other) _) hnew hu

theorem exists_unit?_link (hu : g.unit? name = some u) (source : Int) (other : String) :
    ∃ u', (g.link source other).graph.unit? name = some u' ∧ u'.facts = u.facts := by
  have hrefer := unit?_refer hu other
  rcases g.link_cases source other with ⟨-, hlink⟩ | ⟨g', target, hg', hcases⟩
  · rw [hlink]
    exact ⟨u, hu, rfl⟩
  · rw [hg'] at hrefer
    rcases hcases with ⟨-, hlink⟩ | ⟨id, -, -, -, hlink⟩ | ⟨-, -, hlink⟩
    · rw [hlink]
      exact ⟨u, hrefer, rfl⟩
    · rw [hlink]
      exact exists_unit?_addEdge hrefer id target
    · rw [hlink]
      exact ⟨u, hrefer, rfl⟩

/-- A declaration of the name is merged into the unit, and one of another name
leaves it alone. -/
theorem unit?_declare (hg : g.WellFormed) (hu : g.unit? name = some u) (spec : UnitSpec) :
    (g.declare spec).1.unit? name =
      some (if Text.trimBlank spec.name = name then merge u spec else u) := by
  cases hid : g.unitId? (Text.trimBlank spec.name) with
  | none =>
      rw [declare_new hid, if_neg]
      · exact unit?_push (v := newUnit g.units.size (Text.trimBlank spec.name) spec) hid hu
      · rintro rfl
        rw [unit?, hid] at hu
        cases hu
  | some id =>
      rw [declare_known hid, unit?_modify, hu, Option.map_some]
      refine congrArg some ?_
      by_cases hname : Text.trimBlank spec.name = name
      · rw [if_pos hname, if_pos (hname ▸ hid)]
      · -- two names never have one number
        rw [if_neg hname, if_neg]
        intro hother
        obtain ⟨v, hv, hvname⟩ := (hg.units.indexed _ _).mp hid
        obtain ⟨w, hw, hwname⟩ := (hg.units.indexed _ _).mp hother
        obtain rfl : v = w := Option.some.inj (hv.symm.trans hw)
        exact hname (hvname.symm.trans hwname)

theorem exists_unit?_perform (hg : g.WellFormed) (hu : g.unit? name = some u)
    (operation : Operation) :
    ∃ u', (g.perform operation).unit? name = some u' ∧
      u'.facts = ((operation.declared? name).elim u (merge u)).facts := by
  cases operation with
  | register module roots excluded policy =>
      obtain ⟨hunits, hindex⟩ := g.register_units module roots excluded policy
      exact ⟨u, (unit?_congr hunits hindex).trans hu, rfl⟩
  | declare spec =>
      refine ⟨_, unit?_declare hg hu spec, ?_⟩
      rw [Operation.declared?]
      split_ifs <;> rfl
  | link source target => exact exists_unit?_link hu source target
  | resolve v =>
      obtain ⟨hunits, hindex⟩ := g.register_units (g.resolution v).owner [] [] none
      exact ⟨u, (unit?_congr hunits hindex).trans hu, rfl⟩
  | find other => exact ⟨u, hu, rfl⟩
  | disable module =>
      obtain ⟨hunits, hindex⟩ := g.disable_units module
      exact ⟨u, (unit?_congr hunits hindex).trans hu, rfl⟩

theorem exists_unit?_foldl_perform (hg : g.WellFormed) (hu : g.unit? name = some u)
    (operations : List Operation) :
    ∃ u', (operations.foldl perform g).unit? name = some u' ∧
      u'.facts = ((operations.filterMap (·.declared? name)).foldl merge u).facts := by
  induction operations generalizing g u with
  | nil => exact ⟨u, hu, rfl⟩
  | cons operation operations ih =>
      obtain ⟨v, hv, hstep⟩ := exists_unit?_perform hg hu operation
      obtain ⟨w, hw, hrest⟩ := ih ((perform_changes hg operation).wellFormed hg) hv
      refine ⟨w, hw, hrest.trans ?_⟩
      have hmerges : ∀ (specs : List UnitSpec) (a b : CodeUnit), a.facts = b.facts →
          (specs.foldl merge a).facts = (specs.foldl merge b).facts := by
        intro specs
        induction specs with
        | nil => exact fun _ _ h => h
        | cons spec specs ih =>
            intro a b h
            exact ih _ _ (by rw [facts_merge, facts_merge, h])
      rw [List.filterMap_cons]
      cases hdeclared : operation.declared? name with
      | none => exact hmerges _ _ _ (by rw [hstep, hdeclared]; rfl)
      | some spec => exact hmerges _ _ _ (by rw [hstep, hdeclared]; rfl)

theorem unitId?_perform_new (hnew : g.unitId? name = none) {operation : Operation}
    (hmentions : operation.Mentions name) :
    (g.perform operation).unitId? name = some g.units.size := by
  cases operation with
  | declare spec =>
      obtain rfl : Text.trimBlank spec.name = name := hmentions
      rw [perform, declare_new hnew, unitId?, Std.HashMap.getElem?_insert_self]
  | link source target =>
      obtain ⟨rfl, hblank⟩ := hmentions
      have hrefer : (g.refer (Text.trimBlank target)).1.unitId? (Text.trimBlank target) =
          some g.units.size := by
        rcases g.refer_cases (Text.trimBlank_trimBlank target) with ⟨id, hid, -⟩ | ⟨-, hrefer⟩
        · rw [hnew] at hid
          cases hid
        · rw [hrefer, unitId?, Std.HashMap.getElem?_insert_self]
      rw [perform]
      rcases g.link_cases source target with ⟨hnone, -⟩ | ⟨g', id, hg', hcases⟩
      · exact absurd hnone hblank
      · rw [hg'] at hrefer
        rcases hcases with ⟨-, hlink⟩ | ⟨id, -, -, -, hlink⟩ | ⟨-, -, hlink⟩
        · rw [hlink]
          exact hrefer
        · rw [hlink]
          exact hrefer
        · rw [hlink]
          exact hrefer
  | _ => exact hmentions.elim

end Facts

end Graph

/-- Category, abstractness, visibility and file of a unit are those of a
spec. -/
structure CodeUnit.IsDescribedBy (u : CodeUnit) (spec : UnitSpec) : Prop where
  kind : u.kind = spec.kind
  isAbstract : u.isAbstract = spec.isAbstract
  exported : u.exported = spec.exported
  file : u.file = spec.file

/-- A spec that tells the category of a unit and its file. -/
structure UnitSpec.IsDecisive (spec : UnitSpec) : Prop where
  specified : spec.kind ≠ .unspecified
  known : spec.kind ≠ .unknown
  file : spec.file ≠ ""

/-- A spec that tells neither the category of a unit nor its file. -/
structure UnitSpec.IsIndecisive (spec : UnitSpec) : Prop where
  kind : spec.kind = .unspecified ∨ spec.kind = .unknown
  file : spec.file = ""

namespace Graph

variable {u : CodeUnit} {spec other : UnitSpec} {name : String}

theorem isDescribedBy_newUnit (hspec : spec.IsDecisive) (id : Nat) (name : String) :
    (newUnit id name spec).IsDescribedBy spec :=
  ⟨if_neg hspec.specified, rfl, rfl, rfl⟩

theorem isDescribedBy_merge (hspec : spec.IsDecisive) (u : CodeUnit) :
    (merge u spec).IsDescribedBy spec := by
  have hkind : ¬(spec.kind = .unspecified ∨ spec.kind = .unknown) :=
    not_or.mpr ⟨hspec.specified, hspec.known⟩
  have hfile : spec.file.isEmpty = false := by simpa using hspec.file
  unfold merge
  simp only [hkind, hfile, if_false, Bool.false_eq_true]
  exact ⟨rfl, rfl, rfl, by split_ifs <;> rfl⟩

theorem isDescribedBy_merge_indecisive (h : u.IsDescribedBy spec) (hother : other.IsIndecisive) :
    (merge u other).IsDescribedBy spec := by
  have hfile : other.file.isEmpty = true := by simp [hother.file]
  unfold merge
  simp only [hother.kind, hfile, if_true]
  split_ifs <;> exact ⟨h.kind, h.isAbstract, h.exported, h.file⟩

theorem isDescribedBy_foldl_merge {specs : List UnitSpec} (h : u.IsDescribedBy spec)
    (hspecs : ∀ other ∈ specs, other.IsIndecisive) :
    (specs.foldl merge u).IsDescribedBy spec := by
  induction specs generalizing u with
  | nil => exact h
  | cons other specs ih =>
      obtain ⟨hother, hspecs⟩ := List.forall_mem_cons.mp hspecs
      exact ih (isDescribedBy_merge_indecisive h hother) hspecs

theorem scope_foldl_merge {specs : List UnitSpec} (h : ∀ other ∈ specs, other.scope = u.scope) :
    (specs.foldl merge u).scope = u.scope := by
  induction specs generalizing u with
  | nil => rfl
  | cons other specs ih =>
      obtain ⟨hother, hspecs⟩ := List.forall_mem_cons.mp h
      have hmerge : (merge u other).scope = u.scope := by
        unfold merge
        split_ifs <;> first | rfl | exact hother
      exact (ih fun s hs => (hspecs s hs).trans hmerge.symm).trans hmerge

theorem id_foldl_merge (u : CodeUnit) (specs : List UnitSpec) :
    (specs.foldl merge u).id = u.id := by
  induction specs generalizing u with
  | nil => rfl
  | cons spec specs ih => rw [List.foldl_cons, ih, (merge_frame u spec).1]

theorem isDescribedBy_of_facts {v : CodeUnit} (hfacts : u.facts = v.facts)
    (h : v.IsDescribedBy spec) : u.IsDescribedBy spec :=
  ⟨(congrArg CodeUnit.kind hfacts).trans h.kind,
    (congrArg CodeUnit.isAbstract hfacts).trans h.isAbstract,
    (congrArg CodeUnit.exported hfacts).trans h.exported,
    (congrArg CodeUnit.file hfacts).trans h.file⟩

theorem exists_unit?_declare {g : Graph} (hg : g.WellFormed) (hspec : spec.IsDecisive) :
    ∃ u, (g.declare spec).1.unit? (Text.trimBlank spec.name) = some u ∧
      u.IsDescribedBy spec := by
  cases hid : g.unitId? (Text.trimBlank spec.name) with
  | some id =>
      obtain ⟨u, hu, -⟩ := (hg.units.indexed _ _).mp hid
      have hunit : g.unit? (Text.trimBlank spec.name) = some u := by
        rw [unit?, hid, Option.bind_some, hu]
      refine ⟨_, unit?_declare hg hunit spec, ?_⟩
      rw [if_pos rfl]
      exact isDescribedBy_merge hspec u
  | none =>
      refine ⟨_, ?_, isDescribedBy_newUnit hspec g.units.size (Text.trimBlank spec.name)⟩
      rw [declare_new hid, unit?, unitId?, Std.HashMap.getElem?_insert_self, Option.bind_some,
        Array.getElem?_push_size]

theorem unit?_id {g : Graph} (hg : g.WellFormed) {id : Nat} (hid : g.unitId? name = some id) :
    ∃ u, g.unit? name = some u ∧ u.id = id := by
  obtain ⟨u, hu, -⟩ := (hg.units.indexed _ _).mp hid
  exact ⟨u, by rw [unit?, hid, Option.bind_some, hu], hg.units.numbered hu⟩

theorem id_of_run_append {first rest : List Operation} {id : Nat}
    (hid : (run first).unitId? name = some id)
    (hu : (run (first ++ rest)).unit? name = some u) : u.id = id := by
  obtain ⟨v, hv, rfl⟩ := unit?_id (wellFormed_run first) hid
  obtain ⟨w, hw, hfacts⟩ := exists_unit?_foldl_perform (wellFormed_run first) hv rest
  rw [run, List.foldl_append, ← run, hw, Option.some.injEq] at hu
  subst hu
  exact (congrArg CodeUnit.id hfacts).trans (id_foldl_merge v _)

/-- If no later declaration of its name is decisive, a decisive declaration
determines what is recorded of its unit, whatever was declared and linked
before and is declared and linked afterwards. The number of the unit is the one
that its name got when it came up first. -/
theorem run_metadata {before after : List Operation} (hspec : spec.IsDecisive)
    (hafter : ∀ other, .declare other ∈ after →
      Text.trimBlank other.name = Text.trimBlank spec.name → other.IsIndecisive) :
    ∃ u, (run (before ++ .declare spec :: after)).unit? (Text.trimBlank spec.name) = some u ∧
      u.IsDescribedBy spec ∧
      (∀ first rest, first ++ rest = before ++ .declare spec :: after →
        ∀ id, (run first).unitId? (Text.trimBlank spec.name) = some id → u.id = id) ∧
      ∀ first operation rest, first ++ operation :: rest = before ++ .declare spec :: after →
        (run first).unitId? (Text.trimBlank spec.name) = none →
        operation.Mentions (Text.trimBlank spec.name) → u.id = (run first).units.size := by
  have hdeclared := (declare_changes (run before) spec).wellFormed (wellFormed_run before)
  obtain ⟨v, hv, hdescribed⟩ := exists_unit?_declare (wellFormed_run before) hspec
  obtain ⟨u, hu, hfacts⟩ := exists_unit?_foldl_perform hdeclared hv after
  have hunit : (run (before ++ .declare spec :: after)).unit? (Text.trimBlank spec.name) =
      some u := by
    rwa [run, List.foldl_append, List.foldl_cons]
  refine ⟨u, hunit, isDescribedBy_of_facts hfacts (isDescribedBy_foldl_merge hdescribed ?_), ?_, ?_⟩
  · intro other hother
    obtain ⟨hoperation, hname⟩ := mem_declared_iff.mp hother
    exact hafter other hoperation hname
  · intro first rest hsplit id hid
    exact id_of_run_append hid (hsplit ▸ hunit)
  · intro first operation rest hsplit hnew hmentions
    have hid : (run (first ++ [operation])).unitId? (Text.trimBlank spec.name) =
        some (run first).units.size := by
      rw [run, List.foldl_append]
      exact unitId?_perform_new hnew hmentions
    have hall : (run ((first ++ [operation]) ++ rest)).unit? (Text.trimBlank spec.name) =
        some u := by
      rw [List.append_assoc, List.singleton_append, hsplit]
      exact hunit
    exact id_of_run_append hid hall

/-- A function that refers to a type. -/
def mainSpec : UnitSpec :=
  { name := "app.Main", kind := .func, file := "main.go" }

def objectMethod : UnitSpec :=
  { name := "object", references := ["app.Main"] }

def objectType : UnitSpec :=
  { name := " object", kind := .struct, file := "object.go", isAbstract := some false }

theorem run_mainSpec :
    (run [.declare mainSpec]).units.size = 1 ∧
      (run [.declare mainSpec]).unitId? "object" = none := by
  have hname : Text.trimBlank mainSpec.name ≠ "object" := by decide
  have hnew : Graph.empty.unitId? (Text.trimBlank mainSpec.name) = none := by simp [unitId?, empty]
  show (Graph.empty.declare mainSpec).1.units.size = 1 ∧
    (Graph.empty.declare mainSpec).1.unitId? "object" = none
  rw [declare_new hnew]
  simp [unitId?, empty, hname]

/-- The type comes after one of its methods, and its name was taken for a
predeclared one. -/
theorem run_metadata_method :
    Name.isPredeclared "object" = true ∧ objectType.IsDecisive ∧ objectMethod.IsIndecisive ∧
      ∃ u, (run [.declare mainSpec, .link 0 "object", .declare objectMethod, .declare objectType,
          .declare objectMethod, .link 0 "object"]).unit? "object" = some u ∧
        u.IsDescribedBy objectType ∧ u.id = 1 := by
  have htype : objectType.IsDecisive := ⟨by decide, by decide, by decide⟩
  have hmethod : objectMethod.IsIndecisive := ⟨by decide, by decide⟩
  have hname : Text.trimBlank objectType.name = "object" := by decide
  have hobject : Text.trimBlank "object" = "object" := by decide
  have hafter : ∀ other, Operation.declare other ∈
      ([.declare objectMethod, .link 0 "object"] : List Operation) →
      Text.trimBlank other.name = Text.trimBlank objectType.name → other.IsIndecisive := by
    intro other hother _
    simp only [List.mem_cons, reduceCtorEq, Operation.declare.injEq, List.not_mem_nil,
      or_false] at hother
    rwa [hother]
  obtain ⟨u, hu, hdescribed, -, hfirst⟩ := @run_metadata objectType
    [.declare mainSpec, .link 0 "object", .declare objectMethod]
    [.declare objectMethod, .link 0 "object"] htype hafter
  rw [hname] at hu hfirst
  refine ⟨by decide, htype, hmethod, u, hu, hdescribed, ?_⟩
  exact (hfirst [.declare mainSpec] (.link 0 "object") _ rfl run_mainSpec.2
    ⟨hobject, by decide⟩).trans run_mainSpec.1

end Graph

end ArchLint
