import ArchLint.Proofs.CycleClasses
import ArchLint.Proofs.Violations
import Mathlib.Algebra.BigOperators.Ring.Finset
import Mathlib.Algebra.Order.BigOperators.Group.List
import Mathlib.Algebra.Order.Group.Nat

namespace ArchLint

namespace Report

section Counting

variable {entries : List ModuleReport} {entry : ModuleReport}

theorem hasViolations_eq_false_iff : entry.hasViolations = false ↔
    entry.illegalModules = [] ∧ entry.forbidden = [] ∧ entry.leaks = [] ∧ entry.cycles = [] ∧
      entry.isTooDistant = false := by
  simp [ModuleReport.hasViolations, and_assoc]

theorem countEntry_eq (s : Summary) (h : entry.enabled = false → entry.hasViolations = false) :
    countEntry s entry =
      { s with
        modules := s.modules + 1
        units := s.units + entry.units
        illegalModules := s.illegalModules + entry.illegalModules.length
        forbidden := s.forbidden + entry.forbidden.length
        leaks := s.leaks + entry.leaks.length
        distanceOverages := s.distanceOverages + if entry.isTooDistant then 1 else 0 } := by
  cases henabled : entry.enabled with
  | true => simp only [countEntry, henabled, if_true]
  | false =>
      obtain ⟨hmodules, hforbidden, hleaks, -, hdistance⟩ :=
        hasViolations_eq_false_iff.mp (h henabled)
      simp [countEntry, henabled, hmodules, hforbidden, hleaks, hdistance]

theorem foldl_countEntry
    (h : ∀ entry ∈ entries, entry.enabled = false → entry.hasViolations = false) (s : Summary) :
    entries.foldl countEntry s =
      { s with
        modules := s.modules + entries.length
        units := s.units + (entries.map (·.units)).sum
        illegalModules := s.illegalModules + (entries.map (·.illegalModules.length)).sum
        forbidden := s.forbidden + (entries.map (·.forbidden.length)).sum
        leaks := s.leaks + (entries.map (·.leaks.length)).sum
        distanceOverages := s.distanceOverages + entries.countP (·.isTooDistant) } := by
  induction entries generalizing s with
  | nil => simp
  | cons entry entries ih =>
      obtain ⟨hentry, hentries⟩ := List.forall_mem_cons.mp h
      rw [List.foldl_cons, countEntry_eq s hentry, ih hentries]
      simp only [List.length_cons, List.map_cons, List.sum_cons, List.countP_cons,
        Summary.mk.injEq]
      cases entry.isTooDistant <;> simp <;> omega

end Counting

section Entries

variable [Matching] (g : Graph) (m : Module)

theorem entryOf_disabled (h : m.enabled = false) :
    entryOf g m = { name := m.name, enabled := m.enabled, units := m.size } := by
  simp [entryOf, h]

theorem entryOf_outline :
    ((entryOf g m).name, (entryOf g m).enabled, (entryOf g m).units) =
      (m.name, m.enabled, (m.size : Int)) := by
  unfold entryOf
  dsimp only
  split <;> rfl

theorem hasViolations_entryOf_disabled (h : (entryOf g m).enabled = false) :
    (entryOf g m).hasViolations = false := by
  have henabled : m.enabled = false := by
    have houtline := entryOf_outline g m
    simp only [Prod.mk.injEq] at houtline
    rw [← houtline.2.1, h]
  rw [entryOf_disabled g m henabled]
  rfl

theorem length_cycles_entryOf :
    (entryOf g m).cycles.length = if m.enabled then (g.cyclesThrough m).length else 0 := by
  cases henabled : m.enabled <;> simp [entryOf, henabled]

theorem sum_cycles_entries (root : String) (generatedAt : Timestamp) :
    ((build g root generatedAt).entries.map (·.cycles.length)).sum =
      (g.enabledModules.flatMap g.cyclesThrough).length := by
  rw [entries_build, List.map_map, List.length_flatMap, Graph.enabledModules]
  simp only [Function.comp_def, length_cycles_entryOf]
  rw [List.sum_map_ite]
  simp [List.filter_filter]

end Entries

end Report

namespace Graph

variable {g : Graph}

/-- The list of all cycles is empty only if the searches find nothing, and it
has no more cycles than they find. -/
theorem length_cycles (g : Graph) :
    (g.cycles.length = 0 ↔ (g.enabledModules.flatMap g.cyclesThrough).length = 0) ∧
      g.cycles.length ≤ (g.enabledModules.flatMap g.cyclesThrough).length := by
  have hsub : g.cycles.Sublist (g.enabledModules.flatMap g.cyclesThrough) :=
    distinctCycles_sublist _ _
  refine ⟨?_, hsub.length_le⟩
  constructor
  · intro hzero
    rw [List.length_eq_zero_iff, List.eq_nil_iff_forall_not_mem]
    intro c hc
    obtain ⟨c', hc', -⟩ := exists_mem_distinctCycles hc (List.not_mem_nil (a := cycleKey c))
    rw [← cycles, List.length_eq_zero_iff.mp hzero] at hc'
    cases hc'
  · intro hzero
    exact Nat.le_zero.mp (hzero ▸ hsub.length_le)

/-- The number of members of the module of a name, which may be missing. -/
def memberCount (g : Graph) (name : String) : Nat :=
  (g.module? name).elim 0 Module.size

theorem WellFormed.sum_sizes_named (h : g.WellFormed) (name : String) :
    ((g.modules.toList.filter (·.name = name)).map Module.size).sum = g.memberCount name := by
  have hnamed : ∀ m, m ∈ g.modules.toList.filter (·.name = name) ↔ g.module? name = some m := by
    intro m
    rw [module?, h.modules.lookup_eq_some_iff]
    simp
  rw [memberCount]
  cases hname : g.module? name with
  | none =>
      have hnil : g.modules.toList.filter (·.name = name) = [] := by
        rw [List.eq_nil_iff_forall_not_mem]
        intro m hm
        rw [hnamed, hname] at hm
        cases hm
      rw [hnil]
      rfl
  | some m =>
      have hsingle : g.modules.toList.filter (·.name = name) = [m] := by
        refine eq_of_increasing Module.order (h.modules.increasing_toList.filter _)
          (List.pairwise_singleton _ _) ?_
        intro m'
        rw [hnamed, hname, List.mem_singleton, Option.some.injEq]
        exact eq_comm
      rw [hsingle]
      simp

theorem IsSealed.sum_sizes_reportable (h : g.IsSealed) :
    ((g.modules.toList.filter (·.isReportable)).map Module.size).sum +
      g.memberCount Module.globalName + g.memberCount Module.primitivesName = g.units.size := by
  have hglobal := List.sum_map_filter_add_sum_map_filter_not (fun m => m.name = Module.globalName)
    Module.size g.modules.toList
  have hprimitives := List.sum_map_filter_add_sum_map_filter_not
    (fun m => m.name = Module.primitivesName) Module.size
    (g.modules.toList.filter fun m => ¬m.name = Module.globalName)
  have hreported : (g.modules.toList.filter fun m => ¬m.name = Module.globalName).filter
      (fun m => ¬m.name = Module.primitivesName) = g.modules.toList.filter (·.isReportable) := by
    rw [List.filter_filter]
    refine List.filter_congr fun m _ => ?_
    simp [Module.isReportable, Module.isGlobal, Module.isPrimitives, Bool.and_comm]
  have hnamed : (g.modules.toList.filter fun m => ¬m.name = Module.globalName).filter
      (fun m => m.name = Module.primitivesName) =
        g.modules.toList.filter (·.name = Module.primitivesName) := by
    rw [List.filter_filter]
    refine List.filter_congr fun m _ => ?_
    by_cases hm : m.name = Module.primitivesName
    · simp [hm, Module.primitivesName, Module.globalName]
    · simp [hm]
  rw [hreported, hnamed, h.wellFormed.sum_sizes_named] at hprimitives
  rw [← hprimitives, h.wellFormed.sum_sizes_named, h.sum_sizes] at hglobal
  omega

end Graph

namespace Report

section Consistency

variable [Matching] (g : Graph) (root : String) (generatedAt : Timestamp)

theorem summary_build :
    (build g root generatedAt).summary =
      let entries := (build g root generatedAt).entries
      { modules := entries.length
        units := (entries.map (·.units)).sum
        illegalModules := ((entries.map (·.illegalModules.length)).sum : Nat)
        forbidden := ((entries.map (·.forbidden.length)).sum : Nat)
        leaks := ((entries.map (·.leaks.length)).sum : Nat)
        cycles := g.cycles.length
        distanceOverages := entries.countP (·.isTooDistant) } := by
  have hquiet : ∀ entry ∈ (build g root generatedAt).entries,
      entry.enabled = false → entry.hasViolations = false := by
    intro entry hentry hdisabled
    obtain ⟨m, -, -, rfl⟩ := mem_entries.mp hentry
    exact hasViolations_entryOf_disabled g m hdisabled
  rw [entries_build] at hquiet ⊢
  simp only [build, summaryOf, foldl_countEntry hquiet, zero_add]

theorem outlines_build :
    (build g root generatedAt).entries.map (fun entry => (entry.name, entry.enabled, entry.units)) =
      (g.modules.toList.filter (·.isReportable)).map
        fun m => (m.name, m.enabled, (m.size : Int)) := by
  rw [entries_build, List.map_map]
  exact List.map_congr_left fun m _ => entryOf_outline g m

theorem sum_units_entries :
    ((build g root generatedAt).entries.map (·.units)).sum =
      (((g.modules.toList.filter (·.isReportable)).map Module.size).sum : Nat) := by
  have hunits := congrArg (List.map fun outline => outline.2.2) (outlines_build g root generatedAt)
  simp only [List.map_map, Function.comp_def] at hunits
  rw [hunits, Nat.cast_list_sum, List.map_map]
  rfl

theorem length_cycles_eq_zero_iff :
    g.cycles.length = 0 ↔ ∀ entry ∈ (build g root generatedAt).entries, entry.cycles = [] := by
  rw [g.length_cycles.1, ← sum_cycles_entries g root generatedAt, List.sum_eq_zero_iff]
  simp

theorem violations_eq_zero_iff :
    (build g root generatedAt).summary.violations = 0 ↔
      ∀ entry ∈ (build g root generatedAt).entries, entry.hasViolations = false := by
  have hcycles := length_cycles_eq_zero_iff g root generatedAt
  simp only [summary_build, Summary.violations, hasViolations_eq_false_iff]
  generalize (build g root generatedAt).entries = entries at hcycles ⊢
  have hlists : ∀ {α : Type} (findings : ModuleReport → List α),
      (entries.map fun entry => (findings entry).length).sum = 0 ↔
        ∀ entry ∈ entries, findings entry = [] := by
    intro α findings
    simp [List.sum_eq_zero_iff]
  have hdistances : entries.countP (·.isTooDistant) = 0 ↔
      ∀ entry ∈ entries, entry.isTooDistant = false := by
    simp [List.countP_eq_zero]
  rw [← hlists] at hcycles
  simp only [forall_and, ← hlists, ← hdistances]
  omega

theorem failed_iff : (build g root generatedAt).failed = true ↔
    ∃ entry ∈ (build g root generatedAt).entries, entry.hasViolations = true := by
  have hquiet := violations_eq_zero_iff g root generatedAt
  have hnonneg : 0 ≤ (build g root generatedAt).summary.violations := by
    simp only [summary_build, Summary.violations]
    omega
  have hpositive : (build g root generatedAt).failed = true ↔
      (build g root generatedAt).summary.violations ≠ 0 := by
    rw [failed, decide_eq_true_eq]
    omega
  rw [hpositive, Ne, hquiet]
  simp

/-- The report about a sealed graph of any run is consistent. The check fails
exactly if some entry has a violation; the counters are sums over the entries,
but for the cycles, of which there are none only if the entries have none;
every unit is counted, in an entry or in one of the two modules without one;
and the listing shows the modules of the report. -/
theorem build_consistent (operations : List Graph.Operation) :
    let g := (Graph.run operations).sealed
    let r := build g root generatedAt
    (r.failed = true ↔ ∃ entry ∈ r.entries, entry.hasViolations = true) ∧
      r.summary.illegalModules = ((r.entries.map (·.illegalModules.length)).sum : Nat) ∧
      r.summary.forbidden = ((r.entries.map (·.forbidden.length)).sum : Nat) ∧
      r.summary.leaks = ((r.entries.map (·.leaks.length)).sum : Nat) ∧
      r.summary.distanceOverages = r.entries.countP (·.isTooDistant) ∧
      (r.summary.cycles = 0 ↔ ∀ entry ∈ r.entries, entry.cycles = []) ∧
      r.summary.cycles ≤ ((r.entries.map (·.cycles.length)).sum : Nat) ∧
      r.summary.modules = r.entries.length ∧
      r.summary.units + g.memberCount Module.globalName + g.memberCount Module.primitivesName =
        g.units.size ∧
      (listing g).map (fun s => (s.name, s.enabled, s.units)) =
        r.entries.map fun entry => (entry.name, entry.enabled, entry.units) := by
  intro g r
  have hsealed : g.IsSealed := Graph.isSealed_sealed_run operations
  have hsummary := summary_build g root generatedAt
  have hcycles : r.summary.cycles = g.cycles.length := congrArg Summary.cycles hsummary
  have hunits : r.summary.units = (r.entries.map (·.units)).sum :=
    congrArg Summary.units hsummary
  refine ⟨failed_iff g root generatedAt, congrArg Summary.illegalModules hsummary,
    congrArg Summary.forbidden hsummary, congrArg Summary.leaks hsummary,
    congrArg Summary.distanceOverages hsummary, ?_, ?_, congrArg Summary.modules hsummary, ?_, ?_⟩
  · rw [hcycles, ← length_cycles_eq_zero_iff g root generatedAt]
    omega
  · rw [hcycles, sum_cycles_entries g root generatedAt]
    exact Int.ofNat_le.mpr g.length_cycles.2
  · have hsizes := hsealed.sum_sizes_reportable
    rw [hunits, sum_units_entries]
    omega
  · rw [outlines_build, listing, List.map_map]
    rfl

end Consistency

end Report

end ArchLint
