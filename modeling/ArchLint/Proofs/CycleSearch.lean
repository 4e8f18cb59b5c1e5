import ArchLint.Graph.Cycles
import ArchLint.Proofs.Aggregation
import Mathlib.Data.List.Chain
import Mathlib.Data.List.Perm.Subperm

/-!
The search for dependency cycles. It is described twice: as a relation that
needs no bound on the depth, which the bounded search of a sealed graph is
shown to satisfy, and by the walks that any search of this kind returns.
-/

namespace ArchLint

section Search

variable {α : Type}

/-- Searching for closed walks from the head of a path, which is latest first,
by looking at some elements after it. An element on the path closes a walk if
it is the start and is passed over otherwise; any other one is searched from
in turn. -/
inductive Explores (next : α → List α) (start : α) : List α → List α → List (List α) → Prop
  | done {path : List α} : Explores next start path [] []
  | close {path pending : List α} {results : List (List α)} (hpath : start ∈ path)
      (hrest : Explores next start path pending results) :
      Explores next start path (start :: pending) ((start :: path).reverse :: results)
  | skip {path pending : List α} {d : α} {results : List (List α)} (hpath : d ∈ path)
      (hstart : d ≠ start) (hrest : Explores next start path pending results) :
      Explores next start path (d :: pending) results
  | descend {path pending : List α} {d : α} {inner results : List (List α)} (hpath : d ∉ path)
      (hinner : Explores next start (d :: path) (next d) inner)
      (hrest : Explores next start path pending results) :
      Explores next start path (d :: pending) (inner ++ results)

/-- A way from `d` to the start that repeats nothing, over elements `ms` off a
path. -/
structure Returns (next : α → List α) (start : α) (path : List α) (d : α) (ms : List α) :
    Prop where
  first : (ms ++ [start]).head? = some d
  nodup : ms.Nodup
  fresh : ms.Disjoint path
  chain : (ms ++ [start]).IsChain (fun x y => y ∈ next x)

variable {next : α → List α} {start d : α} {path pending ms : List α}
  {results : List (List α)}

theorem exists_head?_concat (ms : List α) (a : α) : ∃ e, (ms ++ [a]).head? = some e := by
  cases ms with
  | nil => exact ⟨a, rfl⟩
  | cons x ms => exact ⟨x, rfl⟩

theorem returns_of_mem (hd : d ∈ path) :
    Returns next start path d ms ↔ d = start ∧ ms = [] := by
  constructor
  · rintro ⟨hfirst, -, hfresh, -⟩
    cases ms with
    | nil => exact ⟨(Option.some.inj hfirst).symm, rfl⟩
    | cons x ms =>
        obtain rfl : x = d := Option.some.inj hfirst
        exact absurd hd (hfresh (List.mem_cons_self ..))
  · rintro ⟨rfl, rfl⟩
    exact ⟨rfl, .nil, List.disjoint_nil_left _, List.isChain_singleton _⟩

theorem returns_of_not_mem (hd : d ∉ path) (hstart : start ∈ path) :
    Returns next start path d ms ↔
      ∃ e ∈ next d, ∃ ms', ms = d :: ms' ∧ Returns next start (d :: path) e ms' := by
  constructor
  · rintro ⟨hfirst, hnodup, hfresh, hchain⟩
    cases ms with
    | nil =>
        obtain rfl : start = d := Option.some.inj hfirst
        exact absurd hstart hd
    | cons x ms =>
        obtain rfl : x = d := Option.some.inj hfirst
        obtain ⟨hnot, hnodup⟩ := List.nodup_cons.mp hnodup
        obtain ⟨hfresh, hfresh'⟩ := List.disjoint_cons_left.mp hfresh
        obtain ⟨hnext, hchain⟩ := List.isChain_cons.mp hchain
        obtain ⟨e, he⟩ := exists_head?_concat ms start
        refine ⟨e, hnext e he, ms, rfl, he, hnodup, ?_, hchain⟩
        exact List.disjoint_cons_right.mpr ⟨hnot, hfresh'⟩
  · rintro ⟨e, he, ms', rfl, hfirst, hnodup, hfresh, hchain⟩
    obtain ⟨hnot, hfresh⟩ := List.disjoint_cons_right.mp hfresh
    refine ⟨rfl, List.nodup_cons.mpr ⟨hnot, hnodup⟩, List.disjoint_cons_left.mpr ⟨hd, hfresh⟩, ?_⟩
    refine List.isChain_cons.mpr ⟨?_, hchain⟩
    intro y hy
    obtain rfl : e = y := Option.some.inj (hfirst.symm.trans hy)
    exact he

namespace Explores

theorem mem_iff (h : Explores next start path pending results) (hstart : start ∈ path)
    {w : List α} :
    w ∈ results ↔ ∃ d ∈ pending, ∃ ms, Returns next start path d ms ∧
      w = path.reverse ++ (ms ++ [start]) := by
  induction h with
  | done => simp
  | close hpath hrest ih =>
      rw [List.mem_cons, ih hstart, List.exists_mem_cons_iff]
      refine or_congr ?_ Iff.rfl
      simp [returns_of_mem hpath]
  | skip hpath hne hrest ih =>
      simp [ih hstart, returns_of_mem hpath, hne]
  | @descend path pending d inner results hpath hinner hrest ihinner ihrest =>
      rw [List.mem_append, ihinner (List.mem_cons_of_mem _ hstart), ihrest hstart,
        List.exists_mem_cons_iff]
      refine or_congr ?_ Iff.rfl
      constructor
      · rintro ⟨e, he, ms, hreturns, rfl⟩
        exact ⟨d :: ms, (returns_of_not_mem hpath hstart).mpr ⟨e, he, ms, rfl, hreturns⟩,
          by simp⟩
      · rintro ⟨ms, hreturns, rfl⟩
        obtain ⟨e, he, ms', rfl, hafter⟩ := (returns_of_not_mem hpath hstart).mp hreturns
        exact ⟨e, he, ms', hafter, by simp⟩

theorem continues (h : Explores next start path pending results) (hstart : start ∈ path)
    {w : List α} (hw : w ∈ results) :
    ∃ d ∈ pending, ∃ rest, w = path.reverse ++ d :: rest := by
  obtain ⟨d, hd, ms, hreturns, rfl⟩ := (h.mem_iff hstart).mp hw
  obtain ⟨rest, hrest⟩ := List.head?_eq_some_iff.mp hreturns.first
  exact ⟨d, hd, rest, by rw [hrest]⟩

/-- If elements are looked at in the order of a key, walks are found in the
lexicographic order of their keys. -/
theorem increasing {key : α → Nat} (hnext : ∀ d, (next d).Pairwise (fun x y => key x < key y))
    (h : Explores next start path pending results) (hstart : start ∈ path)
    (hpending : pending.Pairwise (fun x y => key x < key y)) :
    results.Pairwise (fun w w' => w.map key < w'.map key) := by
  have hlt : ∀ {path rest rest' : List α} {d d' : α}, key d < key d' →
      (path.reverse ++ d :: rest).map key < (path.reverse ++ d' :: rest').map key := by
    intro path rest rest' d d' hkey
    rw [List.map_append, List.map_append]
    exact List.append_left_lt (List.cons_lt_cons_iff.mpr (.inl hkey))
  induction h with
  | done => exact .nil
  | close hpath hrest ih =>
      obtain ⟨hfirst, hpending⟩ := List.pairwise_cons.mp hpending
      refine List.pairwise_cons.mpr ⟨?_, ih hstart hpending⟩
      intro w hw
      obtain ⟨d, hd, rest, rfl⟩ := hrest.continues hstart hw
      rw [List.reverse_cons]
      exact hlt (hfirst d hd)
  | skip hpath hne hrest ih =>
      exact ih hstart (List.pairwise_cons.mp hpending).2
  | @descend path _ d _ _ hpath hinner hrest ihinner ihrest =>
      obtain ⟨hfirst, hpending⟩ := List.pairwise_cons.mp hpending
      have hstart' : start ∈ d :: path := List.mem_cons_of_mem d hstart
      refine List.pairwise_append.mpr ⟨ihinner hstart' (hnext _), ihrest hstart hpending, ?_⟩
      intro w hw w' hw'
      obtain ⟨e, -, rest, rfl⟩ := hinner.continues hstart' hw
      obtain ⟨d', hd', rest', rfl⟩ := hrest.continues hstart hw'
      rw [List.reverse_cons, List.append_assoc]
      exact hlt (hfirst d' hd')

end Explores

end Search

namespace Graph

variable {g : Graph}

theorem WellFormed.modulesAt_map_order (h : g.WellFormed) {ms : List Module}
    (hms : ∀ m ∈ ms, m ∈ g.modules) : g.modulesAt (ms.map (·.order)) = ms := by
  induction ms with
  | nil => rfl
  | cons m ms ih =>
      have hm := h.modules.getElem?_of_mem (hms m (List.mem_cons_self ..))
      have hrest := ih fun x hx => hms x (List.mem_cons_of_mem m hx)
      simp only [modulesAt, List.map_cons, List.filterMap_cons, hm] at hrest ⊢
      rw [hrest]

theorem WellFormed.dependencyTable_order (h : g.WellFormed) {m : Module} (hm : m ∈ g.modules) :
    (g.dependencyTable[m.order]?).getD [] = (g.dependencyModules m).map (·.order) := by
  simp [dependencyTable, h.modules.getElem?_of_mem hm]

theorem IsSealed.dependencyModules_mem (h : g.IsSealed) {m d : Module} (hm : m ∈ g.modules)
    (hd : d ∈ g.dependencyModules m) : d ∈ g.modules := by
  obtain ⟨u, t, hc⟩ := (h.mem_dependencyModules hm).mp hd
  exact WellFormed.ownerOf?_mem hc.owner

theorem WellFormed.elem_map_order (h : g.WellFormed) {d : Module} (hd : d ∈ g.modules)
    {path : List Module} (hpath : ∀ x ∈ path, x ∈ g.modules) :
    (path.map (·.order)).elem d.order = true ↔ d ∈ path := by
  rw [List.elem_iff, List.mem_map]
  constructor
  · rintro ⟨x, hx, horder⟩
    rwa [← h.modules.eq_of_number (hpath x hx) hd horder]
  · intro hd
    exact ⟨d, hd, rfl⟩

theorem IsSealed.explores_pending (h : g.IsSealed) {start : Module} (hstart : start ∈ g.modules)
    {path : List Module} (hpath : ∀ x ∈ path, x ∈ g.modules) {walks : Nat → List (List Nat)}
    (hwalks : ∀ d ∈ g.modules, d ∉ path →
      Explores g.dependencyModules start (d :: path) (g.dependencyModules d)
        ((walks d.order).map g.modulesAt))
    {pending : List Module} (hpending : ∀ d ∈ pending, d ∈ g.modules) :
    Explores g.dependencyModules start path pending
      (((pending.map (·.order)).flatMap fun i =>
        if (path.map (·.order)).elem i then
          if i = start.order then [(i :: path.map (·.order)).reverse] else []
        else walks i).map g.modulesAt) := by
  induction pending with
  | nil => exact .done
  | cons d pending ih =>
      obtain ⟨hd, hpending⟩ := List.forall_mem_cons.mp hpending
      have hrest := ih hpending
      have helem := h.wellFormed.elem_map_order hd hpath
      rw [List.map_cons, List.flatMap_cons, List.map_append]
      by_cases hmem : d ∈ path
      · rw [if_pos (helem.mpr hmem)]
        by_cases heq : d = start
        · subst heq
          have hwalk : g.modulesAt (d.order :: path.map (·.order)).reverse =
              (d :: path).reverse := by
            rw [← List.map_cons, ← List.map_reverse, h.wellFormed.modulesAt_map_order]
            intro x hx
            exact List.forall_mem_cons.mpr ⟨hd, hpath⟩ x (List.mem_reverse.mp hx)
          rw [if_pos rfl, List.map_singleton, hwalk]
          exact .close hmem hrest
        · have horder : d.order ≠ start.order := fun horder =>
            heq (h.wellFormed.modules.eq_of_number hd hstart horder)
          rw [if_neg horder]
          exact .skip hmem heq hrest
      · rw [if_neg (helem.not.mpr hmem)]
        exact .descend hmem (hwalks d hd hmem) hrest

/-- A bound on the depth that no path can reach is no bound: the modules of a
path are distinct. -/
theorem IsSealed.explores_closedWalks (h : g.IsSealed) {start : Module}
    (hstart : start ∈ g.modules) {fuel : Nat} {path : List Module} {m : Module}
    (hpath : ∀ x ∈ m :: path, x ∈ g.modules) (hnodup : (m :: path).Nodup)
    (hfuel : g.modules.size ≤ fuel + path.length) :
    Explores g.dependencyModules start (m :: path) (g.dependencyModules m)
      ((closedWalks (fun i => (g.dependencyTable[i]?).getD []) start.order fuel
        (path.map (·.order)) m.order).map g.modulesAt) := by
  induction fuel generalizing path m with
  | zero =>
      -- there are more modules on the path than in the graph
      have hsub : (m :: path) ⊆ g.modules.toList := fun x hx => by simpa using hpath x hx
      have hlength := (hnodup.subperm hsub).length_le
      simp only [List.length_cons, Array.length_toList] at hlength
      omega
  | succ fuel ih =>
      have hm := hpath m (List.mem_cons_self ..)
      rw [closedWalks, h.wellFormed.dependencyTable_order hm]
      refine h.explores_pending hstart hpath ?_ fun d => h.dependencyModules_mem hm
      intro d hd hnot
      refine ih (List.forall_mem_cons.mpr ⟨hd, hpath⟩) (List.nodup_cons.mpr ⟨hnot, hnodup⟩) ?_
      rw [List.length_cons]
      omega

theorem IsSealed.explores_cyclesThrough (h : g.IsSealed) {m : Module} (hm : m ∈ g.modules) :
    Explores g.dependencyModules m [m] (g.dependencyModules m) (g.cyclesThrough m) :=
  h.explores_closedWalks hm (fun _ hx => List.mem_singleton.mp hx ▸ hm) (List.nodup_singleton m)
    (Nat.le_refl _)

theorem IsSealed.mem_cyclesThrough (h : g.IsSealed) {m : Module} (hm : m ∈ g.modules)
    {c : List Module} :
    c ∈ g.cyclesThrough m ↔ ∃ ms, ms ≠ [] ∧ c = m :: (ms ++ [m]) ∧ (m :: ms).Nodup ∧
      c.IsChain (fun x y => y ∈ g.dependencyModules x) := by
  rw [(h.explores_cyclesThrough hm).mem_iff (List.mem_singleton_self m)]
  constructor
  · rintro ⟨d, hd, ms, ⟨hfirst, hnodup, hfresh, hchain⟩, rfl⟩
    refine ⟨ms, ?_, rfl, List.nodup_cons.mpr ⟨List.disjoint_singleton.mp hfresh, hnodup⟩, ?_⟩
    · -- no module depends on itself
      rintro rfl
      obtain rfl : m = d := Option.some.inj hfirst
      obtain ⟨u, t, hc⟩ := (h.mem_dependencyModules hm).mp hd
      exact hc.other rfl
    · refine List.isChain_cons.mpr ⟨?_, hchain⟩
      intro y hy
      obtain rfl : d = y := Option.some.inj (hfirst.symm.trans hy)
      exact hd
  · rintro ⟨ms, -, rfl, hnodup, hchain⟩
    obtain ⟨hnot, hnodup⟩ := List.nodup_cons.mp hnodup
    obtain ⟨hnext, hchain⟩ := List.isChain_cons.mp hchain
    obtain ⟨d, hd⟩ := exists_head?_concat ms m
    exact ⟨d, hnext d hd, ms, ⟨hd, hnodup, List.disjoint_singleton.mpr hnot, hchain⟩, rfl⟩

/-- In a sealed graph of any run, the search from a module ends and returns the
elementary cycles through it, each once, in the lexicographic order of their
places. -/
theorem cyclesThrough_exact (operations : List Operation) (m : Module)
    (hm : m ∈ (run operations).sealed.modules) :
    let g := (run operations).sealed
    Explores g.dependencyModules m [m] (g.dependencyModules m) (g.cyclesThrough m) ∧
      (∀ c, c ∈ g.cyclesThrough m ↔ ∃ ms, ms ≠ [] ∧ c = m :: (ms ++ [m]) ∧ (m :: ms).Nodup ∧
        c.IsChain (fun x y => y ∈ g.dependencyModules x)) ∧
      (g.cyclesThrough m).Nodup ∧
      (g.cyclesThrough m).Pairwise (fun c c' => c.map (·.order) < c'.map (·.order)) := by
  intro g
  have h : g.IsSealed := isSealed_sealed_run operations
  have hsearch := h.explores_cyclesThrough hm
  have hordered := hsearch.increasing (fun d => h.wellFormed.increasing_ownersOf _)
    (List.mem_singleton_self m) (h.wellFormed.increasing_ownersOf _)
  refine ⟨hsearch, fun c => h.mem_cyclesThrough hm, ?_, hordered⟩
  refine hordered.imp ?_
  rintro c c' hlt rfl
  exact List.lt_irrefl _ hlt

/-- Two modules with a unit each that refer to each other. -/
def mutualOperations : List Operation :=
  [.register "a" [{ scope := "a" }] [] none, .register "b" [{ scope := "b" }] [] none,
   .declare { scope := "a", name := "a.f" }, .declare { scope := "b", name := "b.g" },
   .link 0 "b.g", .link 1 "a.f"]

def mutualGraph : Graph where
  units := #[
    { id := 0, scope := "a", name := "a.f", short := "f", dependents := .ofList [1],
      dependencies := .ofList [1], owner := some "a" },
    { id := 1, scope := "b", name := "b.g", short := "g", dependents := .ofList [0],
      dependencies := .ofList [0], owner := some "b" }]
  unitIndex := ((∅ : Std.HashMap String Nat).insert "a.f" 0).insert "b.g" 1
  modules := #[
    { order := 0, name := "a", roots := [{ scope := "a" }], units := .ofList [0] },
    { order := 1, name := "b", roots := [{ scope := "b" }], units := .ofList [1] }]
  moduleIndex := ((∅ : Std.HashMap String Nat).insert "a" 0).insert "b" 1

theorem mutual_sealed : (run mutualOperations).sealed = mutualGraph := by
  have htrim : Text.trimBlank "a.f" = "a.f" ∧ Text.trimBlank "b.g" = "b.g" := by decide
  have hshort : Name.short "a.f" = "f" ∧ Name.short "b.g" = "g" := by decide
  have hsplit : Text.afterPrefix? ['a', '.'] ['a', '.', 'f'] = some ['f'] ∧
      Text.afterPrefix? ['b', '.'] ['b', '.', 'g'] = some ['g'] := by
    decide
  have hregions : Region.contains { scope := "a" } "a.f" "" = true ∧
      Region.contains { scope := "a" } "b.g" "" = false ∧
      Region.contains { scope := "b" } "b.g" "" = true := by
    decide
  simp [mutualOperations, mutualGraph, run, perform, Graph.empty, addModule, declare, unitId?,
    newUnit, link, refer, addEdge, Linked.graph, sealed, List.range, List.range.loop, place,
    resolve, resolution, register, updateModule, mergeRegions, setOwner, addMember, updateNamed,
    Module.claims, Module.addUnit, CodeUnit.declaredScope, CodeUnit.splitName,
    CodeUnit.isPrimitive, CodeUnit.isGlobal, CodeUnit.addDependency, CodeUnit.addDependent,
    Std.HashMap.getElem_insert, IdSet.ofList, htrim, hshort, hsplit, hregions]

theorem mutual_crossing {i j : Nat} {m d : Module} {u t : CodeUnit}
    (hij : i = 0 ∧ j = 1 ∨ i = 1 ∧ j = 0) (hm : mutualGraph.modules[i]? = some m)
    (hd : mutualGraph.modules[j]? = some d) (hu : mutualGraph.units[i]? = some u)
    (ht : mutualGraph.units[j]? = some t) : mutualGraph.Crossing m d u t := by
  rcases hij with ⟨rfl, rfl⟩ | ⟨rfl, rfl⟩
  all_goals
    cases hm
    cases hd
    cases hu
    cases ht
    refine ⟨by simp [mutualGraph], by decide, by simp [mutualGraph], ?_, by decide, by decide,
      ?_, by decide⟩
    · exact IdSet.contains_iff_mem.mp (by decide)
    · simp [ownerOf?, module?, mutualGraph, Std.HashMap.getElem_insert]

theorem cyclesThrough_exact_mutual :
    ∃ a b, a ∈ (run mutualOperations).sealed.modules ∧ a ≠ b ∧
      [a, b, a] ∈ (run mutualOperations).sealed.cyclesThrough a := by
  have hsealed := isSealed_sealed_run mutualOperations
  have hexact := cyclesThrough_exact mutualOperations mutualGraph.modules[0]
  rw [mutual_sealed] at hsealed hexact ⊢
  have ha : mutualGraph.modules[0] ∈ mutualGraph.modules := Array.getElem_mem _
  have hb : mutualGraph.modules[1] ∈ mutualGraph.modules := Array.getElem_mem _
  refine ⟨mutualGraph.modules[0], mutualGraph.modules[1], ha, by decide, ?_⟩
  refine ((hexact ha).2.1 _).mpr ⟨[mutualGraph.modules[1]], by simp, rfl, by decide, ?_⟩
  simp only [List.isChain_cons_cons, List.isChain_singleton, and_true]
  exact ⟨(hsealed.mem_dependencyModules ha).mpr
      ⟨_, _, mutual_crossing (.inl ⟨rfl, rfl⟩) rfl rfl rfl rfl⟩,
    (hsealed.mem_dependencyModules hb).mpr
      ⟨_, _, mutual_crossing (.inr ⟨rfl, rfl⟩) rfl rfl rfl rfl⟩⟩

end Graph

end ArchLint
