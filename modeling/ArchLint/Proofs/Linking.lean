import ArchLint.Analysis
import ArchLint.Proofs.Runs

namespace ArchLint

namespace Graph

variable {g : Graph}

/-- In addition to the first graph the second knows some names. -/
structure Extends (g : Graph) (names : List String) (after : Graph) : Prop where
  wellFormed : after.WellFormed
  kept : ∀ n id, g.unitId? n = some id → after.unitId? n = some id
  known : ∀ n, (after.unitId? n).isSome = true ↔ (g.unitId? n).isSome = true ∨ n ∈ names

theorem Extends.refl (h : g.WellFormed) : g.Extends [] g :=
  ⟨h, fun _ _ hn => hn, fun n => by simp⟩

theorem Extends.trans {names names' : List String} {after after' : Graph}
    (h : g.Extends names after) (h' : after.Extends names' after') :
    g.Extends (names ++ names') after' where
  wellFormed := h'.wellFormed
  kept n id hn := h'.kept n id (h.kept n id hn)
  known n := by rw [h'.known, h.known, List.mem_append, or_assoc]

theorem isSome_or_mem_iff {index : Std.HashMap String Nat} {n name : String} {id : Nat}
    (hname : index[name]? = some id) :
    (index[n]?).isSome = true ↔ (index[n]?).isSome = true ∨ n ∈ [name] := by
  rw [List.mem_singleton]
  constructor
  · exact .inl
  · rintro (hn | rfl)
    · exact hn
    · rw [hname]
      rfl

theorem isSome_insert_iff {index : Std.HashMap String Nat} {n name : String} {id : Nat} :
    ((index.insert name id)[n]?).isSome = true ↔ (index[n]?).isSome = true ∨ n ∈ [name] := by
  rw [Std.HashMap.getElem?_insert, List.mem_singleton]
  by_cases hn : name = n
  · simp [hn]
  · simp [hn, Ne.symm hn]

theorem declare_extends (h : g.WellFormed) (spec : UnitSpec) :
    g.Extends [Text.trimBlank spec.name] (g.declare spec).1 ∧
      (g.declare spec).1.unitId? (Text.trimBlank spec.name) = some (g.declare spec).2 ∧
      ∀ a, (g.declare spec).1.dependenciesOf a = g.dependenciesOf a := by
  have hwellFormed := (g.declare_changes spec).wellFormed h
  cases hid : g.unitId? (Text.trimBlank spec.name) with
  | some id =>
      rw [declare_known hid] at hwellFormed ⊢
      refine ⟨⟨hwellFormed, fun _ _ hn => hn, fun n => isSome_or_mem_iff hid⟩, hid, ?_⟩
      exact elim_getElem?_modify CodeUnit.dependencies (fun u => (merge_frame u spec).2.2.1) id
  | none =>
      rw [declare_new hid] at hwellFormed ⊢
      refine ⟨⟨hwellFormed, ?_, fun n => isSome_insert_iff⟩, ?_, ?_⟩
      · intro n id hn
        have hne : Text.trimBlank spec.name ≠ n := by
          rintro rfl
          rw [hid] at hn
          cases hn
        simpa [unitId?, Std.HashMap.getElem?_insert, hne] using hn
      · simp [unitId?]
      · exact elim_getElem?_push CodeUnit.dependencies rfl

/-- A unit that was there under its name and with its category, or one that is
only referred to. -/
def IsKeptOrReferred (g : Graph) (u : CodeUnit) : Prop :=
  (∃ v ∈ g.units, v.name = u.name ∧ v.kind = u.kind) ∨ u.kind = (referenceSpec u.name).kind

theorem refer_extends (h : g.WellFormed) {name : String} (hname : Text.trimBlank name = name) :
    g.Extends [name] (g.refer name).1 ∧ (g.refer name).1.unitId? name = some (g.refer name).2 ∧
      (∀ a, (g.refer name).1.dependenciesOf a = g.dependenciesOf a) ∧
      ∀ u ∈ (g.refer name).1.units, g.IsKeptOrReferred u := by
  rcases g.refer_cases hname with ⟨id, hid, hrefer⟩ | ⟨hid, hrefer⟩
  · rw [hrefer]
    exact ⟨⟨h, fun _ _ hn => hn, fun n => isSome_or_mem_iff hid⟩, hid, fun _ => rfl,
      fun u hu => .inl ⟨u, hu, rfl, rfl⟩⟩
  · have hdeclare : g.refer name = g.declare (referenceSpec name) := by
      simp only [refer, hid]
    have hspec : Text.trimBlank (referenceSpec name).name = name := hname
    obtain ⟨hextends, hfound, hedges⟩ := declare_extends h (referenceSpec name)
    rw [hspec] at hextends hfound
    rw [hdeclare]
    refine ⟨hextends, hfound, hedges, ?_⟩
    rw [← hdeclare, hrefer]
    intro u hu
    rcases Array.mem_push.mp hu with hu | rfl
    · exact .inl ⟨u, hu, rfl, rfl⟩
    · right
      by_cases hpredeclared : Name.isPredeclared name = true <;>
        simp [newUnit, referenceSpec, hpredeclared]

theorem isKeptOrReferred_addEdge {a b : Nat} {u : CodeUnit} (hu : u ∈ (g.addEdge a b).units) :
    ∃ v ∈ g.units, v.name = u.name ∧ v.kind = u.kind := by
  have heverywhere : Everywhere (fun _ u => ∃ v ∈ g.units, v.name = u.name ∧ v.kind = u.kind)
      g.units := fun _ v hv => ⟨v, Array.mem_of_getElem? hv, rfl, rfl⟩
  obtain ⟨id, hid⟩ := Array.mem_iff_getElem?.mp hu
  exact ((heverywhere.modify a (·.addDependency b) fun _ _ hv => hv).modify b
    (·.addDependent a) fun _ _ hv => hv) hid

/-- Linking a known unit to a name makes the name known and adds one edge, but
none from a unit to itself. -/
theorem link_extends (h : g.WellFormed) {owner name : String} {source : Nat}
    (hsource : g.unitId? owner = some source) (hname : Text.trimBlank name ≠ "") :
    g.Extends [Text.trimBlank name] (g.link source name).graph ∧
      (∀ a b, b ∈ (g.link source name).graph.dependenciesOf a ↔ b ∈ g.dependenciesOf a ∨
        a = source ∧ a ≠ b ∧
          (g.link source name).graph.unitId? (Text.trimBlank name) = some b) ∧
      ∀ u ∈ (g.link source name).graph.units, g.IsKeptOrReferred u := by
  obtain ⟨hextends, hfound, hedges, hunits⟩ :=
    refer_extends h (Text.trimBlank_trimBlank name)
  rcases g.link_cases source name with ⟨hblank, -⟩ | ⟨g', target, hrefer, hcases⟩
  · exact absurd hblank hname
  · rw [hrefer] at hextends hfound hedges hunits
    rcases hcases with ⟨heq, hlink⟩ | ⟨id, heq, hne, hid, hlink⟩ | ⟨-, hunknown, -⟩
    · obtain rfl : source = target := Int.ofNat.inj heq
      rw [hlink]
      refine ⟨hextends, ?_, hunits⟩
      intro a b
      rw [Linked.graph, hedges a]
      constructor
      · exact .inl
      · rintro (hb | ⟨rfl, hne, hb⟩)
        · exact hb
        · exact absurd (Option.some.inj (hfound.symm.trans hb)) hne
    · obtain rfl : source = id := Int.ofNat.inj heq
      obtain ⟨u, hu, -⟩ := (hextends.wellFormed.units.indexed _ _).mp hfound
      have htarget : target < g'.units.size := (Array.getElem?_eq_some_iff.mp hu).1
      rw [hlink]
      refine ⟨⟨hextends.wellFormed.addEdge hne hid htarget, hextends.kept, hextends.known⟩, ?_, ?_⟩
      · intro a b
        have hindex : (g'.addEdge source target).unitId? (Text.trimBlank name) = some target :=
          hfound
        rw [Linked.graph, mem_dependenciesOf_addEdge hid, hedges a, hindex]
        constructor
        · rintro (⟨rfl, rfl⟩ | hb)
          · exact .inr ⟨rfl, hne, rfl⟩
          · exact .inl hb
        · rintro (hb | ⟨rfl, -, hb⟩)
          · exact .inr hb
          · exact .inl ⟨rfl, (Option.some.inj hb).symm⟩
      · intro u hu
        obtain ⟨v, hv, hname, hkind⟩ := isKeptOrReferred_addEdge hu
        have hcases := hunits v hv
        rwa [IsKeptOrReferred, hname, hkind] at hcases
    · obtain ⟨u, hu, -⟩ :=
        (hextends.wellFormed.units.indexed _ _).mp (hextends.kept _ _ hsource)
      have hlt : source < g'.units.size := (Array.getElem?_eq_some_iff.mp hu).1
      exact absurd ⟨Int.natCast_nonneg source, Int.ofNat_lt.mpr hlt⟩ hunknown

end Graph

namespace Analysis

structure Mention where
  spec : UnitSpec
  name : String

/-- The name of the unit that is meant. -/
def Mention.target (m : Mention) : String :=
  Text.trimBlank m.name

/-- A mention with the number of the unit of its spec and the scope that this
unit had when it was declared. -/
structure Reference extends Mention where
  source : Nat
  scope : String

/-- The name suggests another scope than that of the referring unit. -/
def Reference.IsForeign (r : Reference) : Prop :=
  (Name.split r.name).1 ≠ r.scope

/-- Adds the edge of one reference. -/
def linkReference (g : Graph) (r : Reference) : Graph :=
  if isLinkable g r.scope r.name then (g.link r.source r.name).graph else g

/-- The names with a unit once some references have been dealt with. Only
foreign references bring in new ones. -/
def Known (before : Graph) (done : List Reference) (name : String) : Prop :=
  (before.unitId? name).isSome = true ∨ name ≠ "" ∧ ∃ r ∈ done, r.IsForeign ∧ r.target = name

/-- What a reference has to satisfy, after earlier ones, to become an edge. -/
def Links (before : Graph) (earlier : List Reference) (r : Reference) : Prop :=
  r.target ≠ "" ∧ (r.IsForeign ∨ Known before earlier r.name)

/-- What linking has done to a graph without edges once some references have
been dealt with. -/
structure Linking (before : Graph) (done : List Reference) (g : Graph) : Prop where
  wellFormed : g.WellFormed
  kept : ∀ n id, before.unitId? n = some id → g.unitId? n = some id
  known : ∀ n, (g.unitId? n).isSome = true ↔ Known before done n
  kinds : ∀ u ∈ g.units, (before.unitId? u.name).isSome = true ∨
    u.kind = (Graph.referenceSpec u.name).kind
  edges : ∀ a b, b ∈ g.dependenciesOf a ↔ ∃ earlier r, earlier ++ [r] <+: done ∧
    Links before earlier r ∧ r.source = a ∧ a ≠ b ∧ g.unitId? r.target = some b

section Runs

variable {before g : Graph} {done : List Reference} {r : Reference} {name : String}

theorem known_concat_iff : Known before (done ++ [r]) name ↔
    Known before done name ∨ name ≠ "" ∧ r.IsForeign ∧ r.target = name := by
  simp only [Known, List.mem_append, List.mem_singleton]
  grind

theorem mem_of_prefix_concat {α : Type} {xs earlier : List α} {x : α}
    (hinitial : earlier ++ [x] <+: xs) : x ∈ xs :=
  hinitial.subset (List.mem_append_right _ (List.mem_singleton_self x))

theorem exists_prefix_concat_iff {α : Type} {P : List α → α → Prop} {xs : List α} {x : α} :
    (∃ earlier y, earlier ++ [y] <+: xs ++ [x] ∧ P earlier y) ↔
      (∃ earlier y, earlier ++ [y] <+: xs ∧ P earlier y) ∨ P xs x := by
  constructor
  · rintro ⟨earlier, y, hinitial, hP⟩
    rcases List.prefix_concat_iff.mp hinitial with heq | hinitial
    · obtain ⟨rfl, hlast⟩ := List.append_inj' heq rfl
      obtain rfl : y = x := List.singleton_inj.mp hlast
      exact .inr hP
    · exact .inl ⟨earlier, y, hinitial, hP⟩
  · rintro (⟨earlier, y, hinitial, hP⟩ | hP)
    · exact ⟨earlier, y, hinitial.trans (List.prefix_append _ _), hP⟩
    · exact ⟨xs, x, List.prefix_rfl, hP⟩

theorem isLinkable_iff (h : Linking before done g) :
    isLinkable g r.scope r.name = true ↔ r.IsForeign ∨ Known before done r.name := by
  rw [isLinkable, Bool.or_eq_true, h.known, bne_iff_ne, or_comm]
  rfl

namespace Linking

theorem start (h : before.WellFormed) (hedgeless : ∀ a, before.dependenciesOf a = .empty) :
    Linking before [] before where
  wellFormed := h
  kept _ _ hn := hn
  known n := by simp [Known]
  kinds u hu := .inl (by rw [Graph.unitId?, h.units.index_of_mem hu]; rfl)
  edges a b := by simp [hedgeless a]

theorem trimBlank_of_known (h : Linking before done g) (hname : Known before done name) :
    Text.trimBlank name = name := by
  obtain ⟨id, hid⟩ := Option.isSome_iff_exists.mp ((h.known name).mpr hname)
  obtain ⟨u, hu, rfl⟩ := (h.wellFormed.units.indexed name id).mp hid
  exact h.wellFormed.names_trimmed hu

theorem known_target (h : Linking before done g) {earlier : List Reference}
    (hinitial : earlier ++ [r] <+: done) (hlinks : Links before earlier r) :
    Known before done r.target := by
  obtain ⟨hblank, hforeign | hknown⟩ := hlinks
  · exact .inr ⟨hblank, r, mem_of_prefix_concat hinitial, hforeign, rfl⟩
  · have hdone : Known before done r.name := by
      refine hknown.imp_right ?_
      rintro ⟨hname, r', hr', hr'foreign, hr'target⟩
      exact ⟨hname, r', hinitial.subset (List.mem_append_left _ hr'), hr'foreign, hr'target⟩
    rwa [Mention.target, h.trimBlank_of_known hdone]

theorem skip (h : Linking before done g) (hlinks : ¬Links before done r) :
    Linking before (done ++ [r]) g where
  wellFormed := h.wellFormed
  kept := h.kept
  known n := by
    rw [h.known, known_concat_iff]
    constructor
    · exact .inl
    · rintro (hn | ⟨hn, hforeign, rfl⟩)
      · exact hn
      · exact absurd ⟨hn, .inl hforeign⟩ hlinks
  kinds := h.kinds
  edges a b := by
    rw [h.edges, exists_prefix_concat_iff]
    constructor
    · exact .inl
    · rintro (hedge | ⟨hr, -⟩)
      · exact hedge
      · exact absurd hr hlinks

/-- A reference that links adds its edge, and makes its target known. -/
theorem advance (h : Linking before done g) {owner : String}
    (hsource : before.unitId? owner = some r.source) (hlinks : Links before done r) :
    Linking before (done ++ [r]) (g.link r.source r.name).graph := by
  obtain ⟨hextends, hedges, hunits⟩ :=
    Graph.link_extends h.wellFormed (h.kept _ _ hsource) hlinks.1
  constructor
  · exact hextends.wellFormed
  · intro n id hn
    exact hextends.kept n id (h.kept n id hn)
  · intro n
    rw [hextends.known, h.known, known_concat_iff, List.mem_singleton]
    refine or_congr_right' fun hn => ?_
    -- a known name of the own scope is its own target, so it is not new
    constructor
    · rintro rfl
      refine ⟨hlinks.1, hlinks.2.resolve_right fun hknown => hn ?_, rfl⟩
      rwa [h.trimBlank_of_known hknown]
    · rintro ⟨-, -, rfl⟩
      rfl
  · intro u hu
    rcases hunits u hu with ⟨v, hv, hname, hkind⟩ | hkind
    · rw [← hname, ← hkind]
      exact h.kinds v hv
    · exact .inr hkind
  · intro a b
    rw [hedges, h.edges, exists_prefix_concat_iff]
    refine or_congr ?_ ?_
    · constructor
      · rintro ⟨earlier, r', hinitial, hr', rfl, hne, hb⟩
        exact ⟨earlier, r', hinitial, hr', rfl, hne, hextends.kept _ _ hb⟩
      · rintro ⟨earlier, r', hinitial, hr', rfl, hne, hb⟩
        obtain ⟨id, hid⟩ :=
          Option.isSome_iff_exists.mp ((h.known _).mpr (h.known_target hinitial hr'))
        obtain rfl : id = b := Option.some.inj ((hextends.kept _ _ hid).symm.trans hb)
        exact ⟨earlier, r', hinitial, hr', rfl, hne, hid⟩
    · constructor
      · rintro ⟨rfl, hne, hb⟩
        exact ⟨hlinks, rfl, hne, hb⟩
      · rintro ⟨-, rfl, hne, hb⟩
        exact ⟨rfl, hne, hb⟩

theorem step (h : Linking before done g) {owner : String}
    (hsource : before.unitId? owner = some r.source) :
    Linking before (done ++ [r]) (linkReference g r) := by
  unfold linkReference
  by_cases hlinkable : isLinkable g r.scope r.name = true
  · rw [if_pos hlinkable]
    by_cases hblank : r.target = ""
    · have hlink : g.link r.source r.name = .done g := by
        rw [Mention.target] at hblank
        simp [Graph.link, hblank]
      rw [hlink]
      exact h.skip fun hlinks => hlinks.1 hblank
    · exact h.advance hsource ⟨hblank, (isLinkable_iff h).mp hlinkable⟩
  · rw [if_neg hlinkable]
    exact h.skip fun hlinks => hlinkable ((isLinkable_iff h).mpr hlinks.2)

theorem foldl_linkReference (h : Linking before done g) (rs : List Reference)
    (hsources : ∀ r ∈ rs, ∃ owner, before.unitId? owner = some r.source) :
    Linking before (done ++ rs) (rs.foldl linkReference g) := by
  induction rs generalizing done g with
  | nil => simpa using h
  | cons r rs ih =>
      obtain ⟨owner, hsource⟩ := hsources r (by simp)
      rw [List.foldl_cons, List.append_cons]
      exact ih (h.step hsource) fun r' hr' => hsources r' (by simp [hr'])

end Linking

end Runs

end Analysis

end ArchLint
