import ArchLint.Graph.Building

namespace ArchLint.Graph

/-- Whether a unit lies in one of the regions of a module and in none of the
excluded ones. -/
def LiesIn (m : Module) (u : CodeUnit) : Prop :=
  (∃ r ∈ m.roots, r.contains u.name u.file = true) ∧
    ∀ r ∈ m.excluded, r.contains u.name u.file = false

/-- Where a unit belongs: predeclared names and names without a scope to
modules of their own, and any other unit to the first module it lies in. -/
inductive Belongs (g : Graph) (u : CodeUnit) : String → Prop
  | primitive (hprimitive : u.isPrimitive = true) : Belongs g u Module.primitivesName
  | global (hprimitive : u.isPrimitive = false) (hscope : u.declaredScope = "") :
      Belongs g u Module.globalName
  | claimed {order : Nat} {m : Module} (hprimitive : u.isPrimitive = false)
      (hscope : u.declaredScope ≠ "") (hm : g.modules[order]? = some m) (hlies : LiesIn m u)
      (hfirst : ∀ earlier m', earlier < order → g.modules[earlier]? = some m' → ¬LiesIn m' u) :
      Belongs g u m.name
  | unclaimed (hprimitive : u.isPrimitive = false) (hscope : u.declaredScope ≠ "")
      (hnone : ∀ m ∈ g.modules, ¬LiesIn m u) : Belongs g u Module.undefinedName

section Resolution

variable {g : Graph} {u : CodeUnit}

theorem claims_iff_liesIn {m : Module} : m.claims u = true ↔ LiesIn m u := by
  simp [Module.claims, LiesIn]

theorem not_liesIn_of_excludesPath {m : Module} (h : m.excludesPath u.file = true) :
    ¬LiesIn m u := by
  rintro ⟨-, hnone⟩
  obtain ⟨r, hr, hcontains⟩ := List.any_eq_true.mp h
  simpa [Region.contains, hcontains] using hnone r hr

theorem resolution_primitive (h : u.isPrimitive = true) :
    (g.resolution u).owner = Module.primitivesName := by
  simp [resolution, h]

theorem resolution_global (h : u.isPrimitive = false) (hscope : u.declaredScope = "") :
    (g.resolution u).owner = Module.globalName := by
  simp [resolution, CodeUnit.isGlobal, h, hscope]

theorem resolution_ordinary (h : u.isPrimitive = false) (hscope : u.declaredScope ≠ "") :
    (g.resolution u).owner =
      ((g.modules.toList.find? (·.claims u)).map Module.name).getD Module.undefinedName := by
  simp only [resolution, CodeUnit.isGlobal, h, Bool.not_false, Bool.true_and,
    Bool.false_eq_true, if_false, String.isEmpty_iff, hscope]
  cases g.modules.toList.find? (·.claims u) <;> rfl

theorem resolution_congr {g' : Graph} {u' : CodeUnit} (hmodules : g'.modules = g.modules)
    (hname : u'.name = u.name) (hscope : u'.scope = u.scope) (hfile : u'.file = u.file)
    (hkind : u'.kind = u.kind) : g'.resolution u' = g.resolution u := by
  cases u
  cases u'
  subst hname hscope hfile hkind
  simp only [resolution, hmodules]
  rfl

theorem belongs_resolution (g : Graph) (u : CodeUnit) : g.Belongs u (g.resolution u).owner := by
  cases hprimitive : u.isPrimitive with
  | true =>
      rw [resolution_primitive hprimitive]
      exact .primitive hprimitive
  | false =>
      by_cases hscope : u.declaredScope = ""
      · rw [resolution_global hprimitive hscope]
        exact .global hprimitive hscope
      · rw [resolution_ordinary hprimitive hscope]
        cases hfind : g.modules.toList.find? (·.claims u) with
        | none =>
            refine .unclaimed hprimitive hscope ?_
            intro m hm hlies
            have hnot := List.find?_eq_none.mp hfind m (by simpa using hm)
            exact hnot (claims_iff_liesIn.mpr hlies)
        | some m =>
            obtain ⟨hclaims, order, horder, hget, hfirst⟩ :=
              List.find?_eq_some_iff_getElem.mp hfind
            have hm : g.modules[order]? = some m := by
              rw [← Array.getElem?_toList, List.getElem?_eq_getElem horder, hget]
            refine .claimed hprimitive hscope hm (claims_iff_liesIn.mp hclaims) ?_
            intro earlier m' hearlier hm' hlies
            have hget' : g.modules.toList[earlier]? = some m' := by simpa using hm'
            obtain ⟨hlt, hm'⟩ := List.getElem?_eq_some_iff.mp hget'
            have hnot := hfirst earlier hearlier
            rw [hm'] at hnot
            simp [claims_iff_liesIn.mpr hlies] at hnot

theorem Belongs.unique {name name' : String} (h : g.Belongs u name) (h' : g.Belongs u name') :
    name = name' := by
  cases h with
  | primitive hprimitive =>
      cases h' with
      | primitive => rfl
      | global h _ => simp [hprimitive] at h
      | claimed h _ _ _ _ => simp [hprimitive] at h
      | unclaimed h _ _ => simp [hprimitive] at h
  | global hprimitive hscope =>
      cases h' with
      | primitive h => simp [hprimitive] at h
      | global => rfl
      | claimed _ h _ _ _ => exact absurd hscope h
      | unclaimed _ h _ => exact absurd hscope h
  | @claimed order m hprimitive hscope hm hlies hfirst =>
      cases h' with
      | primitive h => simp [hprimitive] at h
      | global _ h => exact absurd h hscope
      | @claimed order' m' _ _ hm' hlies' hfirst' =>
          rcases Nat.lt_trichotomy order order' with hlt | heq | hlt
          · exact absurd hlies (hfirst' order m hlt hm)
          · rw [heq, hm'] at hm
            cases hm
            rfl
          · exact absurd hlies' (hfirst order' m' hlt hm')
      | unclaimed _ _ hnone => exact absurd hlies (hnone m (Array.mem_of_getElem? hm))
  | unclaimed hprimitive hscope hnone =>
      cases h' with
      | primitive h => simp [hprimitive] at h
      | global _ h => exact absurd h hscope
      | @claimed _ m _ _ hm hlies _ => exact absurd hlies (hnone m (Array.mem_of_getElem? hm))
      | unclaimed => rfl

/-- As long as the fallback module has no regions, it is the module of the units
that no module claims. -/
theorem Belongs.isUndefined_iff {m : Module} (h : g.Belongs u m.name)
    (hfallback : ∀ m' ∈ g.modules, m'.isUndefined = true → m'.roots = []) :
    m.isUndefined = true ↔
      u.isPrimitive = false ∧ u.declaredScope ≠ "" ∧ ∀ m' ∈ g.modules, ¬LiesIn m' u := by
  rw [Module.isUndefined, decide_eq_true_iff]
  generalize m.name = name at h
  constructor
  · intro hname
    cases h with
    | primitive => exact absurd hname (by decide)
    | global => exact absurd hname (by decide)
    | claimed _ _ hm hlies =>
        have hroots := hfallback _ (Array.mem_of_getElem? hm) (decide_eq_true hname)
        obtain ⟨⟨r, hr, -⟩, -⟩ := hlies
        simp [hroots] at hr
    | unclaimed hprimitive hscope hnone => exact ⟨hprimitive, hscope, hnone⟩
  · rintro ⟨hprimitive, hscope, hnone⟩
    exact h.unique (.unclaimed hprimitive hscope hnone)

theorem belongs_iff {name : String} : g.Belongs u name ↔ name = (g.resolution u).owner := by
  constructor
  · intro h
    exact h.unique (belongs_resolution g u)
  · rintro rfl
    exact belongs_resolution g u

/-- Of the modules, resolution sees only the name of the first that claims the
unit. -/
theorem resolution_eq_of_find? {g' : Graph}
    (h : (g'.modules.toList.find? (·.claims u)).map Module.name =
      (g.modules.toList.find? (·.claims u)).map Module.name) :
    g'.resolution u = g.resolution u := by
  unfold resolution
  cases hfind : g.modules.toList.find? (·.claims u) with
  | none =>
      rw [hfind, Option.map_none, Option.map_eq_none_iff] at h
      rw [h]
  | some m =>
      rw [hfind, Option.map_some] at h
      obtain ⟨m', hfind', hname⟩ := Option.map_eq_some_iff.mp h
      rw [hfind']
      simp only [hname]

theorem resolution_addModule (g : Graph) (name : String) (u : CodeUnit) :
    (g.addModule name).resolution u = g.resolution u := by
  apply resolution_eq_of_find?
  simp [addModule, Module.claims]

theorem resolution_updateModule (g : Graph) (order : Nat) (f : Module → Module) (u : CodeUnit)
    (hname : ∀ m, (f m).name = m.name) (hclaims : ∀ m, (f m).claims u = m.claims u) :
    (g.updateModule order f).resolution u = g.resolution u := by
  have hfind : ∀ (ms : List Module) (order : Nat),
      ((ms.modify order f).find? (·.claims u)).map Module.name =
        (ms.find? (·.claims u)).map Module.name := by
    intro ms
    induction ms with
    | nil => simp
    | cons m ms ih =>
        intro order
        cases order with
        | zero => cases hm : m.claims u <;> simp [hclaims, hname, hm]
        | succ order => cases hm : m.claims u <;> simp [hm, ih]
  apply resolution_eq_of_find?
  simpa only [updateModule, Array.toList_modify] using hfind g.modules.toList order

end Resolution

end ArchLint.Graph
