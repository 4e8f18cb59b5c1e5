import ArchLint.Proofs.Instants

namespace ArchLint

open Number (Binary64)

namespace Text

/-- Small letters and low lines. -/
def isSmall (c : Char) : Bool :=
  decide ('a' ≤ c ∧ c ≤ 'z') || c == '_'

theorem foldSimple_of_isSmall {c : Char} (hc : isSmall c = true) : foldSimple c = c := by
  rcases Bool.or_eq_true _ _ ▸ hc with hlower | hline
  · have hbounds : 97 ≤ c.toNat ∧ c.toNat ≤ 122 := of_decide_eq_true hlower
    have hcapital : ¬('A' ≤ c ∧ c ≤ 'Z') := by
      rintro ⟨-, hle⟩
      have hle : c.toNat ≤ 90 := hle
      omega
    rw [foldSimple, if_pos (by omega), lowerAscii, if_neg hcapital]
  · rw [beq_iff_eq.mp hline]
    decide

theorem equalUpToCase_iff {s t : String} (hs : s.toList.all isSmall = true)
    (ht : t.toList.all isSmall = true) : equalUpToCase s t = true ↔ s = t := by
  have hfold : ∀ cs : List Char, cs.all isSmall = true → cs.map foldSimple = cs := by
    intro cs hcs
    rw [List.all_eq_true] at hcs
    conv_rhs => rw [← List.map_id cs]
    exact List.map_congr_left fun c hc => foldSimple_of_isSmall (hcs c hc)
  rw [equalUpToCase, hfold _ hs, hfold _ ht, beq_iff_eq, String.toList_inj]

end Text

namespace Json

theorem knownName?_of_mem {known : List String} {name : String} (hname : name ∈ known)
    (hknown : (known.all fun k => k.toList.all Text.isSmall) = true) :
    knownName? known name = some name := by
  rw [List.all_eq_true] at hknown
  induction known with
  | nil => cases hname
  | cons k known ih =>
      have hequal := Text.equalUpToCase_iff (hknown k List.mem_cons_self) (hknown name hname)
      by_cases hk : k = name
      · rw [knownName?, List.find?_cons, hequal.mpr hk, hk]
      · have hne : Text.equalUpToCase k name = false := by
          rw [← Bool.not_eq_true, hequal]
          exact hk
        rw [knownName?, List.find?_cons, hne]
        exact ih ((List.mem_cons.mp hname).resolve_left (Ne.symm hk))
          fun k hk => hknown k (List.mem_cons_of_mem _ hk)

section Members

variable {α β : Type} {member : String → Update α} {a b c : α}

theorem updateMembers_append {ms ns : List (String × Json)}
    (hms : updateMembers member a (.object ms) = some b)
    (hns : updateMembers member b (.object ns) = some c) :
    updateMembers member a (.object (ms ++ ns)) = some c := by
  rw [updateMembers] at hms hns ⊢
  rw [List.foldlM_append, hms]
  exact hns

theorem updateMembers_listMember {name : String} {encode : β → Json} {xs : List β}
    (set : List β → α) (hempty : set [] = a)
    (hread : member name a (.array (xs.map encode)) = some (set xs)) :
    updateMembers member a (.object (listMember name encode xs)) = some (set xs) := by
  cases xs with
  | nil => simp [listMember, updateMembers, hempty]
  | cons x xs => simpa [listMember, updateMembers] using hread

end Members

section Lists

variable {α β : Type} [Inhabited α] {item : Update α} {encode : α → Json} {xs : List α}

theorem updateItems_map (hitem : ∀ x ∈ xs, item default (encode x) = some x) :
    updateItems item [] (xs.map encode) = some xs := by
  rw [updateItems]
  induction xs with
  | nil => rfl
  | cons x xs ih =>
      obtain ⟨hx, hxs⟩ := List.forall_mem_cons.mp hitem
      simp only [List.map_cons, List.mapIdx_cons, List.mapM_cons, List.getD_nil, id, hx]
      simp only [List.getD_nil] at ih
      rw [ih hxs]
      rfl

theorem updateList?_map (hitem : ∀ x ∈ xs, item default (encode x) = some x) :
    updateList? item none (.array (xs.map encode)) = some (some xs) := by
  simp [updateList?, updateItems_map hitem]

theorem updateList_map (hitem : ∀ x ∈ xs, item default (encode x) = some x) :
    updateList item [] (.array (xs.map encode)) = some xs := by
  simp [updateList, updateList?, updateItems_map hitem]

theorem updateList_strings (xs : List String) :
    updateList updateString [] (.array (xs.map .string)) = some xs :=
  updateList_map fun _ _ => rfl

end Lists

theorem ofText?_of_readValue {cs rest : List Char} {value : Json}
    (hvalue : readValue (2 * cs.length + 2) cs = some (value, rest))
    (hrest : (skipBlanks rest).isEmpty = true) : ofText? (String.ofList cs) = some value := by
  simp only [ofText?, String.length_ofList, String.toList_ofList, hvalue, hrest, if_true]

end Json

open Json

theorem Metrics.updateMembers_toJson {m : Metrics}
    (hnumbers : ∀ x ∈ [m.abstractness, m.instability, m.distance, m.distanceOverage,
      m.primitiveness], updateFloat .zero (.ofBinary64 x) = some x) :
    updateMembers Metrics.updateMember {} m.toJson = some m := by
  simp +decide [updateMembers, Metrics.toJson, Metrics.updateMember, knownName?_of_mem, hnumbers]

theorem UnitRef.updateMembers_toJson (u : UnitRef) :
    updateMembers UnitRef.updateMember {} u.toJson = some u := by
  obtain ⟨name, path, owner⟩ := u
  by_cases hpath : path = "" <;>
    simp +decide [updateMembers, UnitRef.toJson, UnitRef.updateMember, knownName?_of_mem,
      updateString, hpath]

theorem UnitViolation.updateMembers_toJson (v : UnitViolation) :
    updateMembers UnitViolation.updateMember {} v.toJson = some v := by
  rw [UnitViolation.toJson, updateMembers]
  simp +decide [UnitViolation.updateMember, knownName?_of_mem, UnitRef.updateMembers_toJson]

theorem Summary.updateMembers_toJson {s : Summary}
    (hintegers : ∀ n ∈ s.integers, Number.isInt64 n = true) :
    updateMembers Summary.updateMember {} s.toJson = some s := by
  have hread : ∀ n ∈ s.integers, ∀ old, updateInt old (.ofInt n) = some n :=
    fun n hn => updateInt_ofInt (hintegers n hn)
  simp only [Summary.integers] at hread
  simp +decide [updateMembers, Summary.toJson, Summary.updateMember, knownName?_of_mem, hread]

theorem updateCycle_toJson (c : Option (List String)) :
    updateList? updateString default (c.elim .null .ofStrings) = some c := by
  cases c with
  | none => rfl
  | some names => exact updateList?_map fun _ _ => rfl

theorem updateFloat?_ofBinary64 {x : Binary64} (hx : updateFloat .zero (.ofBinary64 x) = some x)
    (old : Option Binary64) : updateFloat? old (.ofBinary64 x) = some (some x) := by
  rw [Json.ofBinary64] at hx ⊢
  rw [updateFloat?, hx]
  · rfl
  · simp

theorem ModuleReport.updateMembers_toJson {m : ModuleReport}
    (hunits : Number.isInt64 m.units = true)
    (hnumbers : ∀ x ∈ ReportStore.numbersOf m, updateFloat .zero (.ofBinary64 x) = some x) :
    updateMembers ModuleReport.updateMember {} m.toJson = some m := by
  obtain ⟨hmetrics, hlimit⟩ := List.forall_mem_append.mp hnumbers
  let fixed : ModuleReport :=
    { name := m.name, enabled := m.enabled, units := m.units, metrics := m.metrics }
  let limited : ModuleReport := { fixed with maxDistance := m.maxDistance }
  have hfixed : updateMembers ModuleReport.updateMember {}
      (.object [("name", .string m.name), ("enabled", .bool m.enabled), ("units", .ofInt m.units),
        ("metrics", m.metrics.toJson)]) = some fixed := by
    rw [updateMembers]
    simp +decide [ModuleReport.updateMember, knownName?_of_mem, updateString, updateBool,
      updateInt_ofInt hunits, Metrics.updateMembers_toJson hmetrics, fixed]
  have hlimited : updateMembers ModuleReport.updateMember fixed
      (.object (m.maxDistance.map fun x => ("max_allowable_distance", Json.ofBinary64 x)).toList) =
      some limited := by
    rw [updateMembers]
    cases hdistance : m.maxDistance with
    | none => simp [limited, fixed, hdistance]
    | some x =>
        have hx := hlimit x (by simp [hdistance])
        simp +decide [ModuleReport.updateMember, knownName?_of_mem, updateFloat?_ofBinary64 hx,
          limited, hdistance]
  have hviolations : ∀ xs : List UnitViolation,
      UnitViolation.updateAll [] (.array (xs.map UnitViolation.toJson)) = some xs :=
    fun xs => updateList_map fun v _ => UnitViolation.updateMembers_toJson v
  have hcycles : updateList (updateList? updateString) []
      (.array (m.cycles.map fun c => c.elim .null .ofStrings)) = some m.cycles :=
    updateList_map fun c _ => updateCycle_toJson c
  -- every list is set on an entry that has the lists before it
  refine updateMembers_append (updateMembers_append (updateMembers_append (updateMembers_append
    (updateMembers_append (updateMembers_append (updateMembers_append hfixed hlimited)
      (updateMembers_listMember (fun xs => { limited with dependencyModules := xs }) rfl ?_))
      (updateMembers_listMember (fun xs => { limited with
        dependencyModules := m.dependencyModules, dependentModules := xs }) rfl ?_))
      (updateMembers_listMember (fun xs => { m with
        illegalModules := xs, forbidden := [], leaks := [], cycles := [] }) rfl ?_))
      (updateMembers_listMember (fun xs => { m with
        forbidden := xs, leaks := [], cycles := [] }) rfl ?_))
      (updateMembers_listMember (fun xs => { m with leaks := xs, cycles := [] }) rfl ?_))
      (updateMembers_listMember (fun xs => { m with cycles := xs }) rfl ?_)
  all_goals
    simp +decide [ModuleReport.updateMember, knownName?_of_mem, updateList_strings, hviolations,
      hcycles, limited, fixed]

/-- A limit of zero is written, an absent one is not. -/
theorem ModuleReport.get?_toJson_maxDistance (m : ModuleReport) :
    m.toJson.get? "max_allowable_distance" = m.maxDistance.map .ofBinary64 := by
  have hlist : ∀ {α : Type} {name : String} (encode : α → Json) (xs : List α),
      name ≠ "max_allowable_distance" → (listMember name encode xs).reverse.find?
        (fun member => member.1 == "max_allowable_distance") = none := by
    intro α name encode xs hname
    rw [listMember]
    split_ifs <;> simp [hname]
  simp +decide only [toJson, get?, List.reverse_append, List.find?_append, hlist, Option.none_or,
    ne_eq]
  cases m.maxDistance <;> simp

/-- A report is read back from its tree. -/
theorem Report.ofJson?_toJson {r : Report} (htime : r.generatedAt.IsUniversal)
    (hintegers : ∀ n ∈ r.integers, Number.isInt64 n = true)
    (hnumbers : ∀ x ∈ r.entries.flatMap ReportStore.numbersOf,
      updateFloat .zero (.ofBinary64 x) = some x) :
    Report.ofJson? r.toJson = some r := by
  rw [Report.integers, List.forall_mem_append, List.forall_mem_cons, List.forall_mem_map]
    at hintegers
  obtain ⟨⟨hversion, hunits⟩, hsummary⟩ := hintegers
  rw [List.forall_mem_flatMap] at hnumbers
  have hmodules : updateList? (updateMembers ModuleReport.updateMember) none
      (r.modules.elim .null fun ms => .array (ms.map (·.toJson))) = some r.modules := by
    cases hmodules : r.modules with
    | none => rfl
    | some ms =>
        have hentries : r.entries = ms := by rw [Report.entries, hmodules, Option.getD_some]
        rw [hentries] at hunits hnumbers
        exact updateList?_map fun m hm =>
          ModuleReport.updateMembers_toJson (hunits m hm) (hnumbers m hm)
  rw [Report.ofJson?, Report.toJson, updateMembers]
  simp +decide [Report.updateMember, knownName?_of_mem, updateString, updateInt_ofInt hversion,
    updateTime_text htime, hmodules, Summary.updateMembers_toJson hsummary]

end ArchLint
