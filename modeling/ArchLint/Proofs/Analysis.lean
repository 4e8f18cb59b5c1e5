import ArchLint.Analysis
import ArchLint.Proofs.Sealing

namespace ArchLint

namespace Graph

/-- A graph that operations build up, without a module under one of the names
that are kept for predeclared names and for names without a scope. -/
structure Unreserved (g : Graph) : Prop where
  reachable : ∃ operations, g = run operations
  primitives : g.moduleIndex[Module.primitivesName]? = none
  global : g.moduleIndex[Module.globalName]? = none

/-- A sealed graph whose modules of predeclared names and of names without a
scope have no other members. -/
structure IsArchitecture (g : Graph) : Prop extends IsSealed g where
  primitives : ∀ u ∈ g.units, u.owner = some Module.primitivesName ↔ u.isPrimitive = true
  global : ∀ u ∈ g.units, u.owner = some Module.globalName ↔
    u.isPrimitive = false ∧ u.declaredScope = ""

theorem declare_moduleIndex (g : Graph) (spec : UnitSpec) :
    (g.declare spec).1.moduleIndex = g.moduleIndex := by
  cases hid : g.unitId? (Text.trimBlank spec.name) with
  | some id => rw [declare_known hid]
  | none => rw [declare_new hid]

theorem link_moduleIndex (g : Graph) (source : Int) (name : String) :
    (g.link source name).graph.moduleIndex = g.moduleIndex := by
  have hrefer := (g.refer_onlyDeclares name).moduleIndex
  rcases g.link_cases source name with ⟨-, hlink⟩ | ⟨g', target, hg', hcases⟩
  · rw [hlink]
    rfl
  · rw [hg'] at hrefer
    rcases hcases with ⟨-, hlink⟩ | ⟨id, -, -, -, hlink⟩ | ⟨-, -, hlink⟩
    all_goals
      rw [hlink]
      exact hrefer

theorem disable_moduleIndex (g : Graph) (name : String) :
    (g.disable name).moduleIndex = g.moduleIndex := by
  unfold disable updateNamed
  split <;> rfl

theorem register_moduleIndex (g : Graph) {name name' : String} (roots excluded : List Region)
    (policy : Option Policy) (hne : name ≠ name') :
    (g.register name roots excluded policy).1.moduleIndex[name']? = g.moduleIndex[name']? := by
  unfold register
  cases hname : g.moduleIndex[name]? with
  | some order => rfl
  | none => simp [addModule, updateModule, Std.HashMap.getElem?_insert, hne]

theorem run_concat (operations : List Operation) (operation : Operation) :
    run (operations ++ [operation]) = (run operations).perform operation := by
  simp [run]

namespace Unreserved

variable {g : Graph}

theorem empty : Graph.empty.Unreserved :=
  ⟨⟨[], rfl⟩, by simp [Graph.empty], by simp [Graph.empty]⟩

theorem perform (h : g.Unreserved) (operation : Operation)
    (hindex : ∀ name ∈ [Module.primitivesName, Module.globalName],
      (g.perform operation).moduleIndex[name]? = g.moduleIndex[name]?) :
    (g.perform operation).Unreserved := by
  obtain ⟨operations, hg⟩ := h.reachable
  refine ⟨⟨operations ++ [operation], ?_⟩, ?_, ?_⟩
  · rw [run_concat, hg]
  · exact (hindex _ (by simp)).trans h.primitives
  · exact (hindex _ (by simp)).trans h.global

theorem declare (h : g.Unreserved) (spec : UnitSpec) : (g.declare spec).1.Unreserved :=
  h.perform (.declare spec) fun name _ =>
    congrArg (fun index => index[name]?) (g.declare_moduleIndex spec)

theorem link (h : g.Unreserved) (source : Int) (name : String) :
    (g.link source name).graph.Unreserved :=
  h.perform (.link source name) fun name' _ =>
    congrArg (fun index => index[name']?) (g.link_moduleIndex source name)

theorem disable (h : g.Unreserved) (name : String) : (g.disable name).Unreserved :=
  h.perform (.disable name) fun name' _ =>
    congrArg (fun index => index[name']?) (g.disable_moduleIndex name)

theorem register (h : g.Unreserved) {name : String} (roots excluded : List Region)
    (policy : Option Policy) (hprimitives : name ≠ Module.primitivesName)
    (hglobal : name ≠ Module.globalName) :
    (g.register name roots excluded policy).1.Unreserved := by
  refine h.perform (.register name roots excluded policy) ?_
  intro name' hname'
  apply register_moduleIndex
  simp only [List.mem_cons, List.not_mem_nil, or_false] at hname'
  rcases hname' with rfl | rfl
  · exact hprimitives
  · exact hglobal

theorem isArchitecture_sealed (h : g.Unreserved) : g.sealed.IsArchitecture := by
  obtain ⟨operations, rfl⟩ := h.reachable
  have hindexed := (wellFormed_run operations).modules.indexed
  have hsealed : ∀ u ∈ (run operations).sealed.units, ∃ v : CodeUnit,
      u = { v with owner := some ((run operations).resolution v).owner } := by
    intro u hu
    obtain ⟨id, hid⟩ := Array.mem_iff_getElem?.mp hu
    rw [sealed_getElem?] at hid
    obtain ⟨v, -, rfl⟩ := Option.map_eq_some_iff.mp hid
    exact ⟨v, rfl⟩
  refine ⟨isSealed_sealed_run operations, ?_, ?_⟩
  · intro u hu
    obtain ⟨v, rfl⟩ := hsealed u hu
    constructor
    · intro howner
      have hbelongs := belongs_resolution (run operations) v
      generalize ((run operations).resolution v).owner = name at howner hbelongs
      cases hbelongs with
      | primitive hprimitive => exact hprimitive
      | global => simp [Module.primitivesName, Module.globalName] at howner
      | claimed _ _ hm =>
          exact absurd (Option.some.inj howner) (hindexed.name_ne h.primitives hm)
      | unclaimed => simp [Module.primitivesName, Module.undefinedName] at howner
    · intro hprimitive
      exact congrArg some (resolution_primitive hprimitive)
  · intro u hu
    obtain ⟨v, rfl⟩ := hsealed u hu
    constructor
    · intro howner
      have hbelongs := belongs_resolution (run operations) v
      generalize ((run operations).resolution v).owner = name at howner hbelongs
      cases hbelongs with
      | primitive => simp [Module.primitivesName, Module.globalName] at howner
      | global hprimitive hscope => exact ⟨hprimitive, hscope⟩
      | claimed _ _ hm => exact absurd (Option.some.inj howner) (hindexed.name_ne h.global hm)
      | unclaimed => simp [Module.globalName, Module.undefinedName] at howner
    · rintro ⟨hprimitive, hscope⟩
      exact congrArg some (resolution_global hprimitive hscope)

end Unreserved

end Graph

namespace Config

theorem entry_name_ne {c : Config} (hc : c.faults = []) {entry : ModuleEntry}
    (hentry : entry ∈ c.modules) :
    entry.name ≠ Module.primitivesName ∧ entry.name ≠ Module.globalName := by
  obtain ⟨index, hindex⟩ := List.mem_iff_getElem?.mp hentry
  have hfaults : entry.faults index = [] :=
    List.flatMap_eq_nil_iff.mp hc (entry, index) (List.mk_mem_zipIdx_iff_getElem?.mpr hindex)
  have hreserved :
      ¬(Text.startsWith entry.name "*" && Text.endsWith entry.name "*") = true := by
    intro hstars
    simp [ModuleEntry.faults, hstars] at hfaults
  constructor
  · intro hname
    rw [hname] at hreserved
    exact hreserved (by decide)
  · intro hname
    rw [hname] at hreserved
    exact hreserved (by decide)

theorem unreserved_registerEntry {g : Graph} {entry : ModuleEntry} (h : g.Unreserved)
    (hname : entry.name ≠ Module.primitivesName ∧ entry.name ≠ Module.globalName) :
    (registerEntry g entry).Unreserved := by
  have hregister := fun policy => h.register entry.roots entry.excluded policy hname.1 hname.2
  unfold registerEntry
  by_cases henabled : entry.enabled = some false
  · simp only [if_pos henabled]
    exact (hregister _).disable entry.name
  · simp only [if_neg henabled]
    exact hregister _

theorem unreserved_apply {c : Config} (hc : c.faults = []) :
    ∃ g, c.apply Graph.empty = .ok g ∧ g.Unreserved := by
  refine ⟨c.modules.foldl registerEntry Graph.empty, ?_, ?_⟩
  · simp only [apply, hc]
  · refine List.foldlRecOn c.modules registerEntry Graph.Unreserved.empty ?_
    intro g hg entry hentry
    exact unreserved_registerEntry hg (entry_name_ne hc hentry)

end Config

namespace Analysis

theorem unreserved_declareAll {g : Graph} (h : g.Unreserved) (specs : List UnitSpec) :
    (declareAll g specs).1.Unreserved := by
  refine List.foldlRecOn (motive := fun state => state.1.Unreserved) specs declareSpec
    (b := (g, [])) h ?_
  rintro ⟨g, pending⟩ hg spec -
  unfold declareSpec
  dsimp only
  split
  · exact hg.declare spec
  · exact hg.declare spec

theorem unreserved_linkPending {g : Graph} (h : g.Unreserved) (links : PendingLinks) :
    (linkPending g links).Unreserved := by
  refine List.foldlRecOn links.names _ h ?_
  intro g hg name _
  split
  · exact hg.link links.source name
  · exact hg

/-- A configuration without faults gives an architecture for any files. -/
theorem build_isArchitecture {c : Config} (hc : c.faults = []) (files : List ScannedFile) :
    ∃ g, build c files = .ok g ∧ g.IsArchitecture := by
  obtain ⟨g, happly, hg⟩ := c.unreserved_apply hc
  refine ⟨buildFrom g files, ?_, ?_⟩
  · simp only [build, happly]
    rfl
  · refine Graph.Unreserved.isArchitecture_sealed ?_
    refine List.foldlRecOn _ linkPending (unreserved_declareAll hg _) ?_
    intro g hg links _
    exact unreserved_linkPending hg links

end Analysis

end ArchLint
