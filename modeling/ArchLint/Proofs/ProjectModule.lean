import ArchLint.Proofs.Registration

namespace ArchLint

/-- The modules are the same up to their numbers and their members. -/
structure Module.Resembles (m' m : Module) : Prop where
  name : m'.name = m.name
  enabled : m'.enabled = m.enabled
  roots : m'.roots = m.roots
  excluded : m'.excluded = m.excluded
  policy : m'.policy = m.policy

theorem Module.Resembles.refl (m : Module) : m.Resembles m :=
  ⟨rfl, rfl, rfl, rfl, rfl⟩

theorem Module.Resembles.symm {m m' : Module} (h : m'.Resembles m) : m.Resembles m' :=
  ⟨h.name.symm, h.enabled.symm, h.roots.symm, h.excluded.symm, h.policy.symm⟩

theorem Module.Resembles.trans {m m' m'' : Module} (h : m''.Resembles m') (h' : m'.Resembles m) :
    m''.Resembles m :=
  ⟨h.name.trans h'.name, h.enabled.trans h'.enabled, h.roots.trans h'.roots,
    h.excluded.trans h'.excluded, h.policy.trans h'.policy⟩

namespace Graph

section Places

variable {before g : Graph}

/-- Placing units gives modules members, and registers modules without regions
and policies behind those that are there. -/
structure OnlyPlaces (before g : Graph) : Prop where
  size : before.modules.size ≤ g.modules.size
  modules : Everywhere (fun i m =>
    m.Resembles ((before.modules[i]?).getD { order := i, name := m.name })) g.modules

theorem OnlyPlaces.refl (g : Graph) : OnlyPlaces g g := by
  refine ⟨le_rfl, ?_⟩
  intro i m hm
  rw [hm]
  exact .refl m

theorem OnlyPlaces.resolve (h : OnlyPlaces before g) (u : CodeUnit) :
    OnlyPlaces before (g.resolve u).1 := by
  rw [Graph.resolve]
  cases hname : g.moduleIndex[(g.resolution u).owner]? with
  | some order =>
      rw [register_nothing_known hname]
      exact h
  | none =>
      rw [register_nothing_new hname]
      have hfree : before.modules[g.modules.size]? = none := Array.getElem?_eq_none h.size
      refine ⟨?_, h.modules.push (by rw [hfree]; exact .refl _)⟩
      rw [addModule, Array.size_push]
      exact Nat.le_succ_of_le h.size

theorem OnlyPlaces.addMember (h : OnlyPlaces before g) (name : String) (id : Nat) :
    OnlyPlaces before (g.addMember name id) := by
  unfold Graph.addMember updateNamed
  split
  · refine ⟨by simpa [updateModule] using h.size, h.modules.modify _ _ fun _ _ hm => ?_⟩
    exact ⟨hm.name, hm.enabled, hm.roots, hm.excluded, hm.policy⟩
  · exact h

theorem OnlyPlaces.place (h : OnlyPlaces before g) (id : Nat) :
    OnlyPlaces before (g.place id) := by
  unfold Graph.place
  split
  · exact h
  · split
    · exact h
    · rename_i u _ _ _
      have hresolved := h.resolve u
      have hset : OnlyPlaces before ((g.resolve u).1.setOwner id (g.resolve u).2.owner) :=
        ⟨hresolved.size, hresolved.modules⟩
      exact hset.addMember _ id

theorem OnlyPlaces.resembles (h : OnlyPlaces before g) {m m₀ : Module} {i : Nat}
    (hm : g.modules[i]? = some m) (hm₀ : before.modules[i]? = some m₀) : m.Resembles m₀ := by
  simpa only [hm₀, Option.getD_some] using h.modules hm

theorem OnlyPlaces.exists_resembling (h : OnlyPlaces before g) {m₀ : Module} {i : Nat}
    (hm₀ : before.modules[i]? = some m₀) : ∃ m, g.modules[i]? = some m ∧ m.Resembles m₀ := by
  have hi := (Array.getElem?_eq_some_iff.mp hm₀).1
  have hm := Array.getElem?_eq_getElem (Nat.lt_of_lt_of_le hi h.size)
  exact ⟨_, hm, h.resembles hm hm₀⟩

theorem OnlyPlaces.resembles_of_name (h : OnlyPlaces before g) (hg : g.WellFormed)
    {m m₀ : Module} {i : Nat} (hm : m ∈ g.modules) (hm₀ : before.modules[i]? = some m₀)
    (hname : m₀.name = m.name) : m.order = i ∧ m.Resembles m₀ := by
  obtain ⟨kept, hkept, hlike⟩ := h.exists_resembling hm₀
  obtain rfl : kept = m :=
    hg.modules.eq_of_name (Array.mem_of_getElem? hkept) hm (hlike.name.trans hname)
  exact ⟨hg.modules.numbered hkept, hlike⟩

theorem OnlyPlaces.resembles_new (h : OnlyPlaces before g) {m : Module} {i : Nat}
    (hm : g.modules[i]? = some m) (hnone : before.modules[i]? = none) :
    m.Resembles { order := i, name := m.name } := by
  simpa only [hnone, Option.getD_none] using h.modules hm

theorem onlyPlaces_sealed (g : Graph) : OnlyPlaces g g.sealed :=
  List.foldlRecOn _ _ (.refl g) fun _ h id _ => h.place id

end Places

theorem Belongs.ne_of_names {g : Graph} {u : CodeUnit} {owner name : String}
    (h : g.Belongs u owner) (hmodules : ∀ m ∈ g.modules, m.name ≠ name)
    (hprimitives : Module.primitivesName ≠ name) (hglobal : Module.globalName ≠ name)
    (hundefined : Module.undefinedName ≠ name) : owner ≠ name := by
  cases h with
  | primitive => exact hprimitives
  | global => exact hglobal
  | claimed _ _ hm => exact hmodules _ (Array.mem_of_getElem? hm)
  | unclaimed => exact hundefined

/-- The graphs differ in the module at one place, which the second has under a
name and which has not become smaller. -/
structure Widened (name : String) (place : Nat) (before after : Graph) : Prop where
  elsewhere : ∀ i, i ≠ place → after.modules[i]? = before.modules[i]?
  there : ∃ m', after.modules[place]? = some m' ∧ m'.name = name ∧
    ∀ m, before.modules[place]? = some m → m.name = name ∧ ∀ u, LiesIn m u → LiesIn m' u

namespace Widened

variable {name : String} {place : Nat} {before after : Graph}

theorem belongs_of_unclaimed (h : Widened name place before after) {u : CodeUnit} {m' : Module}
    (hm' : after.modules[place]? = some m') (hprimitive : u.isPrimitive = false)
    (hscope : u.declaredScope ≠ "") (hnone : ∀ m ∈ before.modules, ¬LiesIn m u) :
    (LiesIn m' u → after.Belongs u m'.name) ∧
      (¬LiesIn m' u → after.Belongs u Module.undefinedName) := by
  have hothers : ∀ i m₀, i ≠ place → after.modules[i]? = some m₀ → ¬LiesIn m₀ u := by
    intro i m₀ hi hm₀
    rw [h.elsewhere i hi] at hm₀
    exact hnone m₀ (Array.mem_of_getElem? hm₀)
  constructor
  · intro htaken
    exact .claimed hprimitive hscope hm' htaken fun i m₀ hi => hothers i m₀ (by omega)
  · intro hleft
    refine .unclaimed hprimitive hscope ?_
    intro m₀ hm₀
    obtain ⟨i, hi⟩ := Array.mem_iff_getElem?.mp hm₀
    by_cases hplace : i = place
    · rw [hplace, hm'] at hi
      cases hi
      exact hleft
    · exact hothers i m₀ hplace hi

/-- A unit that moves is taken over from the units that nobody claims, or from
a module that comes later. -/
theorem owner_cases (h : Widened name place before after) {u : CodeUnit} {a b : String}
    (ha : before.Belongs u a) (hb : after.Belongs u b) :
    b = a ∨ b = name ∧ (a = Module.undefinedName ∨
      ∃ i m, place < i ∧ before.modules[i]? = some m ∧ m.name = a) := by
  obtain ⟨m', hm', rfl, hgrown⟩ := h.there
  cases ha with
  | primitive hprimitive => exact .inl (hb.unique (.primitive hprimitive))
  | global hprimitive hscope => exact .inl (hb.unique (.global hprimitive hscope))
  | @claimed order m hprimitive hscope hm hlies hfirst =>
      -- before the place nothing has changed, so what came first still does
      have hsame : ∀ limit, limit ≤ place → limit ≤ order → ∀ earlier m₀, earlier < limit →
          after.modules[earlier]? = some m₀ → ¬LiesIn m₀ u := by
        intro limit hplace horder earlier m₀ hearlier hm₀
        rw [h.elsewhere earlier (by omega)] at hm₀
        exact hfirst earlier m₀ (by omega) hm₀
      rcases Nat.lt_trichotomy order place with hlt | rfl | hgt
      · have hkept : after.modules[order]? = some m := (h.elsewhere order (by omega)).trans hm
        exact .inl (hb.unique (.claimed hprimitive hscope hkept hlies
          (hsame order (by omega) le_rfl)))
      · obtain ⟨hname, hwider⟩ := hgrown m hm
        have howner := hb.unique (.claimed hprimitive hscope hm' (hwider u hlies)
          (hsame order le_rfl le_rfl))
        exact .inl (howner.trans hname.symm)
      · by_cases htaken : LiesIn m' u
        · refine .inr ⟨?_, .inr ⟨order, m, hgt, hm, rfl⟩⟩
          exact hb.unique (.claimed hprimitive hscope hm' htaken (hsame place le_rfl (by omega)))
        · have hkept : after.modules[order]? = some m := (h.elsewhere order (by omega)).trans hm
          refine .inl (hb.unique (.claimed hprimitive hscope hkept hlies ?_))
          intro earlier m₀ hearlier hm₀
          by_cases hplace : earlier = place
          · rw [hplace, hm'] at hm₀
            cases hm₀
            exact htaken
          · rw [h.elsewhere earlier hplace] at hm₀
            exact hfirst earlier m₀ hearlier hm₀
  | unclaimed hprimitive hscope hnone =>
      obtain ⟨htaken, hleft⟩ := h.belongs_of_unclaimed hm' hprimitive hscope hnone
      by_cases hlies : LiesIn m' u
      · exact .inr ⟨hb.unique (htaken hlies), .inl rfl⟩
      · exact .inl (hb.unique (hleft hlies))

theorem resembles (h : Widened name place before after) {g g' : Graph}
    (hg : OnlyPlaces before g) (hg' : OnlyPlaces after g') (hwellFormed : g.WellFormed)
    (hwellFormed' : g'.WellFormed) {m m' : Module} (hm : m ∈ g.modules) (hm' : m' ∈ g'.modules)
    (hsame : m'.name = m.name) (hother : m.name ≠ name) : m'.Resembles m := by
  obtain ⟨widened, hwidened, hnamed, hgrown⟩ := h.there
  have hget := hwellFormed.modules.getElem?_of_mem hm
  have hget' := hwellFormed'.modules.getElem?_of_mem hm'
  cases hm₀ : before.modules[m.order]? with
  | some m₀ =>
      have hlike := hg.resembles hget hm₀
      have hplace : m.order ≠ place := by
        intro hplace
        rw [hplace] at hm₀
        exact hother (hlike.name.trans (hgrown m₀ hm₀).1)
      have hm₀' : after.modules[m.order]? = some m₀ := (h.elsewhere _ hplace).trans hm₀
      have hlike' := hg'.resembles_of_name hwellFormed' hm' hm₀' (hsame.trans hlike.name).symm
      exact hlike'.2.trans hlike.symm
  | none =>
      cases hm₀' : after.modules[m'.order]? with
      | some m₀ =>
          have hname : m₀.name = m.name := (hg'.resembles hget' hm₀').name.symm.trans hsame
          have hplace : m'.order ≠ place := by
            intro hplace
            rw [hplace, hwidened] at hm₀'
            cases hm₀'
            exact hother (hname.symm.trans hnamed)
          rw [h.elsewhere _ hplace] at hm₀'
          have horder := (hg.resembles_of_name hwellFormed hm hm₀' hname).1
          rw [horder, hm₀'] at hm₀
          cases hm₀
      | none =>
          have hlike := hg.resembles_new hget hm₀
          have hlike' := hg'.resembles_new hget' hm₀'
          exact ⟨hsame, hlike'.enabled.trans hlike.enabled.symm,
            hlike'.roots.trans hlike.roots.symm, hlike'.excluded.trans hlike.excluded.symm,
            hlike'.policy.trans hlike.policy.symm⟩

end Widened

theorem Unreserved.map_sealed_units {g : Graph} (h : g.Unreserved) :
    g.sealed.units.map (fun u => { u with owner := none }) =
      g.units.map fun u => { u with owner := none } := by
  obtain ⟨operations, rfl⟩ := h.reachable
  apply Array.ext_getElem?
  intro id
  rw [Array.getElem?_map, Array.getElem?_map, sealed_getElem?, Option.map_map]
  rfl

theorem Unreserved.exists_owner {g : Graph} (h : g.Unreserved) {id : Nat} {v : CodeUnit}
    (hv : g.units[id]? = some v) :
    ∃ m ∈ g.sealed.modules, g.Belongs v m.name ∧
      g.sealed.units[id]? = some { v with owner := some m.name } ∧
      g.sealed.ownerOf? { v with owner := some m.name } = some m := by
  have hsealed := h.isArchitecture_sealed.toIsSealed
  obtain ⟨operations, rfl⟩ := h.reachable
  have hu := sealed_getElem? operations id
  rw [hv, Option.map_some] at hu
  obtain ⟨m, hm, howner⟩ := hsealed.owners hu
  obtain hname : ((run operations).resolution v).owner = m.name := Option.some.inj howner
  rw [hname] at hu
  refine ⟨m, hm, belongs_iff.mpr hname.symm, hu, ?_⟩
  exact (hsealed.ownerOf?_eq_some_iff (Array.mem_of_getElem? hu)).mpr ⟨hm, rfl⟩

end Graph

namespace Config

variable {c : Config} {scope : String}

/-- The entry that stands for the rest of a project. -/
def projectEntry (scope : String) : ModuleEntry :=
  { name := projectName, roots := [{ scope := scope }] }

theorem withProject_modules (hscope : scope ≠ "") :
    (c.withProject scope).modules = c.modules ++ [projectEntry scope] := by
  have hgiven : scope.isEmpty = false := by simpa using hscope
  simp only [withProject, hgiven, Bool.false_eq_true, if_false]
  rfl

theorem build_projectEntry (scope : String) : (projectEntry scope).policy.build = .ok {} := by
  have hfallback : PolicyEntry.effect? "" = some .allow := by decide +kernel
  simp [projectEntry, PolicyEntry.build, hfallback, PolicyEntry.rulesFrom]

theorem projectEntry_faultless (hscope : scope ≠ "") : ¬(projectEntry scope).HasFault := by
  have hname : (projectEntry scope).name = projectName := rfl
  rintro (hblank | ⟨hfirst, -⟩ | ⟨hr, hempty, -⟩ | hpolicy)
  · rw [hname] at hblank
    exact absurd (hblank 'p' (by decide)) (by decide)
  · rw [hname] at hfirst
    exact absurd hfirst (by decide)
  · rw [List.mem_singleton.mp hr] at hempty
    exact hscope hempty
  · rcases (projectEntry scope).policy.build_cases with ⟨_, -, -, hfree⟩ | ⟨⟨_, hbuild⟩, -⟩
    · exact hfree hpolicy
    · rw [build_projectEntry] at hbuild
      cases hbuild

theorem faults_withProject (hc : c.faults = []) (hscope : scope ≠ "") :
    (c.withProject scope).faults = [] := by
  rw [faults_eq_nil_iff] at hc ⊢
  intro entry hentry
  rw [withProject_modules hscope, List.mem_append, List.mem_singleton] at hentry
  rcases hentry with hentry | rfl
  · exact hc entry hentry
  · exact projectEntry_faultless hscope

/-- A module of the name grows where it stands, and any other graph gets a new
one at the end. -/
theorem widened_projectEntry {g : Graph} (hg : g.WellFormed) (scope : String) :
    ∃ place, Graph.Widened projectName place g (registerEntry g (projectEntry scope)) ∧
      ((∀ m ∈ g.modules, m.name ≠ projectName) → place = g.modules.size ∧
        ∀ u m', (registerEntry g (projectEntry scope)).modules[place]? = some m' →
          (Graph.LiesIn m' u ↔ ({ scope := scope } : Region).contains u.name u.file = true)) := by
  have hpolicy := build_projectEntry scope
  cases hname : g.moduleIndex[projectName]? with
  | some order =>
      obtain ⟨m, hm, hnamed⟩ := (hg.modules.indexed _ _).mp hname
      have hsteps := registerEntry_known hpolicy (g := g) hname
      refine ⟨order, ⟨?_, ?_⟩, fun hnone => absurd hnamed (hnone m (Array.mem_of_getElem? hm))⟩
      · intro i hi
        rw [hsteps, Graph.updateModule, Array.getElem?_modify, if_neg (Ne.symm hi)]
      · refine ⟨(projectEntry scope).extend {} m, ?_, hnamed, ?_⟩
        · rw [hsteps, Graph.updateModule, Array.getElem?_modify, if_pos rfl, hm, Option.map_some]
        · intro m₀ hm₀
          obtain rfl : m = m₀ := Option.some.inj (hm.symm.trans hm₀)
          refine ⟨hnamed, ?_⟩
          rintro u ⟨⟨r, hr, hcontains⟩, hexcluded⟩
          refine ⟨⟨r, ?_, hcontains⟩, hexcluded⟩
          change r ∈ if m.roots.elem { scope := scope } then m.roots
            else m.roots ++ [{ scope := scope }]
          split
          · exact hr
          · exact List.mem_append_left _ hr
  | none =>
      have hsteps := registerEntry_new hpolicy (g := g) hname
      have hget : (registerEntry g (projectEntry scope)).modules[g.modules.size]? = some
          ((projectEntry scope).extend {} { order := g.modules.size, name := projectName }) := by
        rw [hsteps, Array.getElem?_push_size]
        rfl
      refine ⟨g.modules.size, ⟨?_, _, hget, rfl, ?_⟩, fun _ => ⟨rfl, ?_⟩⟩
      · intro i hi
        rw [hsteps, Array.getElem?_push, if_neg hi]
      · intro m hm
        simp at hm
      · intro u m' hm'
        rw [hget] at hm'
        cases hm'
        simp [Graph.LiesIn, projectEntry, ModuleEntry.extend, Graph.mergeRegions]

theorem registerEntry_eq_withModules {g : Graph} {entry : ModuleEntry} {policy : Policy}
    (hpolicy : entry.policy.build = .ok policy) :
    registerEntry g entry =
      g.withModules (registerEntry g entry).modules (registerEntry g entry).moduleIndex := by
  cases hname : g.moduleIndex[entry.name]? with
  | some order => rw [registerEntry_known hpolicy hname]; rfl
  | none => rw [registerEntry_new hpolicy hname]; rfl

theorem apply_withProject (hc : c.faults = []) (hscope : scope ≠ "") {start : Graph}
    (hstart : c.apply Graph.empty = .ok start) :
    (c.withProject scope).apply Graph.empty = .ok (registerEntry start (projectEntry scope)) := by
  simp only [apply, hc] at hstart
  cases hstart
  simp only [apply, faults_withProject hc hscope, withProject_modules hscope, List.foldl_append]
  rfl

theorem exists_entry_of_mem {start : Graph} (hstart : c.apply Graph.empty = .ok start) {m : Module}
    (hm : m ∈ start.modules) : ∃ entry ∈ c.modules, entry.name = m.name := by
  have hnames : start.ModuleOutlines fun name _ => ∃ entry ∈ c.modules, entry.name = name :=
    c.outlines_apply hstart fun entry hentry =>
      ⟨⟨entry, hentry, rfl⟩, fun _ => ⟨entry, hentry, rfl⟩⟩
  obtain ⟨i, hi⟩ := Array.mem_iff_getElem?.mp hm
  exact hnames hi

theorem name_ne_undefinedName (hc : c.faults = []) {entry : ModuleEntry}
    (hentry : entry ∈ c.modules) : entry.name ≠ Module.undefinedName := by
  intro hname
  refine faults_eq_nil_iff.mp hc entry hentry (.reservedName ?_ ?_)
  · rw [hname]
    decide
  · rw [hname]
    decide

end Config

namespace Analysis

open ArchLint.Graph Config

variable {c : Config} {scope : String}

theorem exists_linked (hc : c.faults = []) (hscope : scope ≠ "") (files : List ScannedFile) :
    ∃ before after place, build c files = .ok before.sealed ∧
      build (c.withProject scope) files = .ok after.sealed ∧
      before.Unreserved ∧ after.Unreserved ∧ after.units = before.units ∧
      Widened projectName place before after ∧
      (∀ m ∈ before.modules, ∃ entry ∈ c.modules, entry.name = m.name) ∧
      ((∀ m ∈ before.modules, m.name ≠ projectName) → place = before.modules.size ∧
        ∀ u m', after.modules[place]? = some m' →
          (LiesIn m' u ↔ ({ scope := scope } : Region).contains u.name u.file = true)) := by
  obtain ⟨start, hstart, hunreserved⟩ := c.unreserved_apply hc
  have hstart' := apply_withProject hc hscope hstart
  have hunreserved' : (registerEntry start (projectEntry scope)).Unreserved := by
    obtain ⟨_, happly, hunreserved'⟩ := unreserved_apply (faults_withProject hc hscope)
    exact Except.ok.inj (happly.symm.trans hstart') ▸ hunreserved'
  have hwellFormed : start.WellFormed := by
    obtain ⟨operations, rfl⟩ := hunreserved.reachable
    exact wellFormed_run operations
  obtain ⟨place, hwidened, hnew⟩ := widened_projectEntry hwellFormed scope
  have hunits : (linked (registerEntry start (projectEntry scope)) files).units =
      (linked start files).units := by
    rw [registerEntry_eq_withModules (build_projectEntry scope), linked_withModules]
    rfl
  refine ⟨linked start files, linked (registerEntry start (projectEntry scope)) files, place,
    ?_, ?_, unreserved_linked hunreserved files, unreserved_linked hunreserved' files, hunits,
    ⟨?_, ?_⟩, ?_, ?_⟩
  · simp only [build, hstart, ← buildFrom_eq]
    rfl
  · simp only [build, hstart', ← buildFrom_eq]
    rfl
  all_goals simp only [linked_modules]
  · exact hwidened.elsewhere
  · exact hwidened.there
  · exact fun m hm => exists_entry_of_mem hstart hm
  · exact hnew

theorem belongs_project_iff {before after : Graph} {place : Nat}
    (h : Widened projectName place before after)
    (hnamed : ∀ m ∈ before.modules, m.name ≠ Module.undefinedName) {m' : Module}
    (hm' : after.modules[place]? = some m') {u : CodeUnit} {owner owner' : String}
    (hbefore : before.Belongs u owner) (hundefined : owner = Module.undefinedName)
    (hafter : after.Belongs u owner') : owner' = projectName ↔ LiesIn m' u := by
  cases hbefore with
  | primitive => simp [Module.undefinedName, Module.primitivesName] at hundefined
  | global => simp [Module.undefinedName, Module.globalName] at hundefined
  | claimed _ _ hm => exact absurd hundefined (hnamed _ (Array.mem_of_getElem? hm))
  | unclaimed hprimitive hscope hnone =>
      obtain ⟨_, hwidened, hname, -⟩ := h.there
      obtain rfl := Option.some.inj (hwidened.symm.trans hm')
      obtain ⟨htaken, hleft⟩ := h.belongs_of_unclaimed hm' hprimitive hscope hnone
      constructor
      · intro howner
        by_contra hnot
        have hother := hafter.unique (hleft hnot)
        rw [howner] at hother
        exact absurd hother (by decide)
      · intro hlies
        exact (hafter.unique (htaken hlies)).trans hname

/-- The graphs with and without a module for the rest of a project. They have
the same units, each of them in its module, and a unit moves into the project's
module or not at all. It comes from a module that stands behind the project's,
or from nowhere. If the configuration has no module of that name, the project's
module takes from nobody but *undefined*, there it takes all units of its scope,
and everything else stays as it is. -/
theorem build_withProject (hc : c.faults = []) (hscope : scope ≠ "") (files : List ScannedFile) :
    ∃ g g' : Graph, build c files = .ok g ∧ build (c.withProject scope) files = .ok g' ∧
      g'.units.map (fun u => { u with owner := none }) =
        g.units.map (fun u => { u with owner := none }) ∧
      ∀ (id : Nat) (u : CodeUnit), g.units[id]? = some u → ∃ m u' m', g.ownerOf? u = some m ∧
        g'.units[id]? = some u' ∧ g'.ownerOf? u' = some m' ∧
        (m'.name ≠ m.name → m'.name = projectName ∧ (m.name = Module.undefinedName ∨
          ∃ p ∈ g.modules, p.name = projectName ∧ p.order < m.order)) ∧
        (m'.name = m.name → m.name ≠ projectName → m'.Resembles m) ∧
        ((∀ entry ∈ c.modules, entry.name ≠ projectName) →
          (m.name ≠ Module.undefinedName → m'.Resembles m) ∧
          (m'.name ≠ m.name → m.name = Module.undefinedName ∧ m'.name = projectName) ∧
          (m.name = Module.undefinedName →
            (m'.name = projectName ↔
              ({ scope := scope } : Region).contains u.name u.file = true))) := by
  obtain ⟨before, after, place, hbuild, hbuild', hbefore, hafter, hunits, hwidened, hentries,
    hnew⟩ := exists_linked hc hscope files
  have hg := hbefore.isArchitecture_sealed.wellFormed
  have hg' := hafter.isArchitecture_sealed.wellFormed
  have hplaces := onlyPlaces_sealed before
  refine ⟨before.sealed, after.sealed, hbuild, hbuild', ?_, ?_⟩
  · rw [hafter.map_sealed_units, hbefore.map_sealed_units, hunits]
  · intro id u hu
    obtain ⟨v, hv⟩ : ∃ v, before.units[id]? = some v := by
      have hsize := congrArg Array.size hbefore.map_sealed_units
      rw [Array.size_map, Array.size_map] at hsize
      exact ⟨_, Array.getElem?_eq_getElem (hsize ▸ (Array.getElem?_eq_some_iff.mp hu).1)⟩
    obtain ⟨m, hm, hbelongs, hget, howner⟩ := hbefore.exists_owner hv
    obtain ⟨m', hm', hbelongs', hget', howner'⟩ := hafter.exists_owner (hunits ▸ hv)
    obtain rfl := Option.some.inj (hget.symm.trans hu)
    have hmoved := hwidened.owner_cases hbelongs hbelongs'
    have hkept : m'.name = m.name → m.name ≠ projectName → m'.Resembles m :=
      hwidened.resembles hplaces (onlyPlaces_sealed after) hg hg' hm hm'
    refine ⟨m, _, m', howner, hget', howner', ?_, hkept, ?_⟩
    · intro hne
      obtain ⟨hproject, horigin⟩ := hmoved.resolve_left hne
      refine ⟨hproject, horigin.imp_right ?_⟩
      rintro ⟨i, m₀, hlater, hm₀, hname⟩
      have hi := (Array.getElem?_eq_some_iff.mp hm₀).1
      have hp₀ := Array.getElem?_eq_getElem (Nat.lt_trans hlater hi)
      obtain ⟨p, hp, hlike⟩ := hplaces.exists_resembling hp₀
      obtain ⟨_, -, -, hgrown⟩ := hwidened.there
      refine ⟨p, Array.mem_of_getElem? hp, hlike.name.trans (hgrown _ hp₀).1, ?_⟩
      rw [hg.modules.numbered hp, (hplaces.resembles_of_name hg hm hm₀ hname).1]
      exact hlater
    · intro hfresh
      have hnames : ∀ m ∈ before.modules, m.name ≠ projectName ∧ m.name ≠ Module.undefinedName := by
        intro m₀ hm₀
        obtain ⟨entry, hentry, hname⟩ := hentries m₀ hm₀
        rw [← hname]
        exact ⟨hfresh entry hentry, name_ne_undefinedName hc hentry⟩
      obtain ⟨rfl, hlies⟩ := hnew fun m₀ hm₀ => (hnames m₀ hm₀).1
      have horigin : m'.name ≠ m.name → m.name = Module.undefinedName ∧ m'.name = projectName := by
        intro hne
        obtain ⟨hproject, hundefined | ⟨i, m₀, hlater, hm₀, -⟩⟩ := hmoved.resolve_left hne
        · exact ⟨hundefined, hproject⟩
        · -- nothing was registered behind the last module
          have hi := (Array.getElem?_eq_some_iff.mp hm₀).1
          omega
      refine ⟨?_, horigin, ?_⟩
      · intro hdefined
        have hsame : m'.name = m.name := by
          by_contra hne
          exact hdefined (horigin hne).1
        refine hkept hsame ?_
        exact hbelongs.ne_of_names (fun m₀ hm₀ => (hnames m₀ hm₀).1) (by decide) (by decide)
          (by decide)
      · intro hundefined
        obtain ⟨p, hp, -⟩ := hwidened.there
        rw [belongs_project_iff hwidened (fun m₀ hm₀ => (hnames m₀ hm₀).2) hp hbelongs hundefined
          hbelongs', hlies v p hp]

/-- A configuration that says nothing about the rest of its project. -/
def coreConfig : Config where
  modules := [{ name := "core", roots := [{ scope := "app/core" }] }]

/-- A configuration with a module of its own under the project's name. -/
def toolsConfig : Config where
  modules :=
    [{ name := projectName
       roots := [{ scope := "app/tools" }]
       policy := { rules := [{ deny := "*" }] } },
     { name := "core", roots := [{ scope := "app/core" }] }]

def coreFiles : List ScannedFile :=
  [{ units := [{ scope := "app/core", name := "app/core.Run", short := "Run" }] }]

theorem build_withProject_core :
    coreConfig.faults = [] ∧ (∀ entry ∈ coreConfig.modules, entry.name ≠ projectName) ∧
      ∃ g g' : Graph, build coreConfig coreFiles = .ok g ∧
        build (coreConfig.withProject "app") coreFiles = .ok g' ∧
        ∀ (id : Nat) (u : CodeUnit), g.units[id]? = some u → ∃ m u' m', g.ownerOf? u = some m ∧
          g'.units[id]? = some u' ∧ g'.ownerOf? u' = some m' ∧
          (m.name ≠ Module.undefinedName → m'.Resembles m) := by
  have hfaults : coreConfig.faults = [] := by decide
  have hfresh : ∀ entry ∈ coreConfig.modules, entry.name ≠ projectName := by decide
  obtain ⟨g, g', hbuild, hbuild', -, hunits⟩ :=
    build_withProject hfaults (by decide : "app" ≠ "") coreFiles
  refine ⟨hfaults, hfresh, g, g', hbuild, hbuild', ?_⟩
  intro id u hu
  obtain ⟨m, u', m', howner, hu', howner', -, -, hclaim⟩ := hunits id u hu
  exact ⟨m, u', m', howner, hu', howner', (hclaim hfresh).1⟩

theorem withProject_takes_claimed :
    toolsConfig.faults = [] ∧
      (build toolsConfig coreFiles).map (fun g => g.units.toList.map (·.owner)) =
        .ok [some "core"] ∧
      (build (toolsConfig.withProject "app") coreFiles).map
        (fun g => g.units.toList.map (·.owner)) = .ok [some projectName] := by
  have hfaults : toolsConfig.faults = [] := by decide
  have hfaults' := faults_withProject hfaults (by decide : "app" ≠ "")
  have htrim : Text.trimBlank "app/core.Run" = "app/core.Run" := by decide
  have hscope : ({ id := 0, scope := "app/core", name := "app/core.Run", short := "Run" } :
      CodeUnit).declaredScope = "app/core" := by
    decide
  have hregions : Region.contains { scope := "app/tools" } "app/core.Run" "" = false ∧
      Region.contains { scope := "app/core" } "app/core.Run" "" = true ∧
      Region.contains { scope := "app" } "app/core.Run" "" = true := by
    decide
  have hmodules : (toolsConfig.withProject "app").modules =
      toolsConfig.modules ++ [projectEntry "app"] :=
    withProject_modules (by decide)
  refine ⟨hfaults, ?_⟩
  rw [build, build, apply, apply, hfaults, hfaults', hmodules]
  simp [toolsConfig, coreFiles, registerEntry, projectName, projectEntry, Except.map, buildFrom,
    inOrder, declareAll, declareSpec, declare, unitId?, newUnit, Graph.empty, addModule, sealed,
    List.range, List.range.loop, place, resolve, resolution, Graph.register, updateModule,
    mergeRegions, setOwner, addMember, updateNamed, Module.claims, CodeUnit.isPrimitive,
    CodeUnit.isGlobal, Std.HashMap.getElem_insert, htrim, hscope, hregions]

end Analysis

end ArchLint
