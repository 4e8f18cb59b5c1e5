import ArchLint.Proofs.MutedRings
import ArchLint.Proofs.Verdict

namespace ArchLint

/-- Entries that differ at most in whether they are enabled, and only if they
have the given name. -/
structure ModuleEntry.Alike (name : String) (entry entry' : ModuleEntry) : Prop where
  same : entry' = { entry with enabled := entry'.enabled }
  other : entry.name ≠ name → entry' = entry

theorem ModuleEntry.Alike.faults_eq {name : String} {entry entry' : ModuleEntry}
    (h : entry.Alike name entry') (index : Nat) : entry'.faults index = entry.faults index := by
  rw [h.same]
  simp only [ModuleEntry.faults, ModuleEntry.label]

namespace Config

/-- Two configurations that differ in whether the entries of one name are
enabled and in nothing else: in the first they are, in the second some is
not. -/
structure Disables (c c' : Config) (name : String) : Prop where
  alike : List.Forall₂ (ModuleEntry.Alike name) c.modules c'.modules
  enabled : ∀ entry ∈ c.modules, entry.name = name → entry.enabled ≠ some false
  disabled : ∃ entry' ∈ c'.modules, entry'.name = name ∧ entry'.enabled = some false

section Registering

variable {g g' : Graph} {name : String} {entry entry' : ModuleEntry}

theorem wellFormed_registerEntry (h : g.WellFormed) (entry : ModuleEntry) :
    (registerEntry g entry).WellFormed := by
  have hregister := fun policy =>
    (g.register_changes entry.name entry.roots entry.excluded policy).wellFormed h
  unfold registerEntry
  by_cases henabled : entry.enabled = some false
  · simp only [if_pos henabled]
    exact (Graph.disable_changes _ entry.name).wellFormed (hregister _)
  · simp only [if_neg henabled]
    exact hregister _

theorem isSome_registerEntry (entry : ModuleEntry)
    (hname : (g.moduleIndex[name]?).isSome = true ∨ entry.name = name) :
    ((registerEntry g entry).moduleIndex[name]?).isSome = true := by
  have hregister := fun policy =>
    g.isSome_register entry.roots entry.excluded policy hname
  unfold registerEntry
  by_cases henabled : entry.enabled = some false
  · simp only [if_pos henabled, Graph.disable_moduleIndex]
    exact hregister _
  · simp only [if_neg henabled]
    exact hregister _

theorem registerEntry_mute (hname : (g.moduleIndex[name]?).isSome = true) (entry : ModuleEntry) :
    registerEntry (g.mute name) entry = (registerEntry g entry).mute name := by
  simp only [registerEntry, Graph.register_mute hname, Graph.disable_mute]
  split <;> rfl

theorem registerEntry_eq (h : g.WellFormed) (hname : entry.name = name)
    (henabled : entry.enabled ≠ some false)
    (halike : entry.Alike name entry') :
    registerEntry g entry' = if entry'.enabled = some false then (registerEntry g entry).mute name
      else registerEntry g entry := by
  have hregister := fun policy =>
    (g.register_changes entry.name entry.roots entry.excluded policy).wellFormed h
  subst hname
  rw [halike.same]
  simp only [registerEntry, if_neg henabled]
  split
  · exact (hregister _).disable_eq_mute entry.name
  · rfl

theorem isSome_foldl_registerEntry {entries : List ModuleEntry}
    (hname : (g.moduleIndex[name]?).isSome = true ∨ ∃ entry ∈ entries, entry.name = name) :
    ((entries.foldl registerEntry g).moduleIndex[name]?).isSome = true := by
  induction entries generalizing g with
  | nil => simpa using hname
  | cons entry entries ih =>
      rw [List.foldl_cons]
      apply ih
      rcases hname with hname | ⟨entry', hentry', hname⟩
      · exact .inl (isSome_registerEntry entry (.inl hname))
      · rcases List.mem_cons.mp hentry' with rfl | hentries
        · exact .inl (isSome_registerEntry entry' (.inr hname))
        · exact .inr ⟨entry', hentries, hname⟩

/-- Once a name is muted it stays so, and a disabled entry of it mutes it. -/
theorem foldl_registerEntry_mute {entries entries' : List ModuleEntry} (h : g.WellFormed)
    (halike : List.Forall₂ (ModuleEntry.Alike name) entries entries')
    (henabled : ∀ entry ∈ entries, entry.name = name → entry.enabled ≠ some false) :
    ((g.moduleIndex[name]?).isSome = true →
      entries'.foldl registerEntry (g.mute name) = (entries.foldl registerEntry g).mute name) ∧
    ((∃ entry' ∈ entries', entry'.name = name ∧ entry'.enabled = some false) →
      entries'.foldl registerEntry g = (entries.foldl registerEntry g).mute name) := by
  induction halike generalizing g with
  | nil => exact ⟨fun _ => rfl, by simp⟩
  | @cons entry entry' entries entries' hentry _ ih =>
      obtain ⟨henabled, hrest⟩ := List.forall_mem_cons.mp henabled
      obtain ⟨hmuted, hdisabled⟩ := ih (wellFormed_registerEntry h entry) hrest
      have hindex := fun hname => hmuted (isSome_registerEntry entry hname)
      simp only [List.foldl_cons, List.exists_mem_cons_iff]
      by_cases hname : entry.name = name
      · have hstep := registerEntry_eq h hname (henabled hname) hentry
        by_cases hentry' : entry'.enabled = some false
        · rw [if_pos hentry'] at hstep
          constructor
          · intro hknown
            rw [registerEntry_mute hknown, hstep, Graph.mute_mute, hindex (.inr hname)]
          · intro _
            rw [hstep, hindex (.inr hname)]
        · rw [if_neg hentry'] at hstep
          constructor
          · intro hknown
            rw [registerEntry_mute hknown, hstep, hindex (.inr hname)]
          · rintro (⟨-, hcontra⟩ | hlater)
            · exact absurd hcontra hentry'
            · rw [hstep, hdisabled hlater]
      · obtain rfl := hentry.other hname
        constructor
        · intro hknown
          rw [registerEntry_mute hknown, hindex (.inl hknown)]
        · rintro (⟨hcontra, -⟩ | hlater)
          · exact absurd hcontra hname
          · exact hdisabled hlater

end Registering

namespace Disables

variable {c c' : Config} {name : String}

theorem faults_eq (h : c.Disables c' name) : c'.faults = c.faults := by
  have hfaults : ∀ {entries entries' : List ModuleEntry} (k : Nat),
      List.Forall₂ (ModuleEntry.Alike name) entries entries' →
      (entries'.zipIdx k).flatMap (fun e => e.1.faults e.2) =
        (entries.zipIdx k).flatMap fun e => e.1.faults e.2 := by
    intro entries entries' k halike
    induction halike generalizing k with
    | nil => rfl
    | cons hentry _ ih =>
        simp only [List.zipIdx_cons, List.flatMap_cons, ih, hentry.faults_eq]
  exact hfaults 0 h.alike

theorem names_eq (h : c.Disables c' name) :
    c'.modules.map (·.name) = c.modules.map (·.name) := by
  have hnames := h.alike
  generalize c.modules = entries, c'.modules = entries' at hnames ⊢
  induction hnames with
  | nil => rfl
  | cons hentry _ ih => rw [List.map_cons, List.map_cons, ih, hentry.same]

theorem exists_entry (h : c.Disables c' name) : ∃ entry ∈ c.modules, entry.name = name := by
  obtain ⟨entry', hentry', hname, -⟩ := h.disabled
  have hmem := List.mem_map_of_mem (f := ModuleEntry.name) hentry'
  rw [h.names_eq, hname] at hmem
  exact List.mem_map.mp hmem

theorem apply_eq (h : c.Disables c' name) (hc : c.faults = []) :
    ∃ start, c.apply Graph.empty = .ok start ∧ c'.apply Graph.empty = .ok (start.mute name) ∧
      (start.moduleIndex[name]?).isSome = true := by
  refine ⟨c.modules.foldl registerEntry Graph.empty, ?_, ?_, ?_⟩
  · simp only [apply, hc]
  · have hmute := (foldl_registerEntry_mute .empty h.alike h.enabled).2 h.disabled
    simp only [apply, h.faults_eq, hc, hmute]
  · exact isSome_foldl_registerEntry (.inr h.exists_entry)

/-- Throwing the switch before or after the files are built makes no
difference. -/
theorem build_eq (h : c.Disables c' name) (hc : c.faults = []) (files : List ScannedFile) :
    ∃ g, Analysis.build c files = .ok g ∧ Analysis.build c' files = .ok (g.mute name) ∧
      (g.moduleIndex[name]?).isSome = true := by
  obtain ⟨start, happly, happly', hname⟩ := h.apply_eq hc
  refine ⟨Analysis.buildFrom start files, ?_, ?_, Analysis.isSome_buildFrom hname files⟩
  · simp only [Analysis.build, happly]
    rfl
  · simp only [Analysis.build, happly', ← Analysis.buildFrom_mute hname]
    rfl

end Disables

end Config

namespace Graph

section Outlines

variable {P : String → Bool → Prop} {g : Graph}

/-- A property of the names of all modules and of whether they are enabled. -/
def ModuleOutlines (P : String → Bool → Prop) (g : Graph) : Prop :=
  Everywhere (fun _ m => P m.name m.enabled) g.modules

namespace ModuleOutlines

theorem updateModule (h : g.ModuleOutlines P) (order : Nat) (f : Module → Module)
    (hname : ∀ m, (f m).name = m.name) (henabled : ∀ m, (f m).enabled = m.enabled) :
    (g.updateModule order f).ModuleOutlines P :=
  Everywhere.modify h order f fun _ m hm => by rw [hname, henabled]; exact hm

theorem register (h : g.ModuleOutlines P) {name : String} (hname : P name true)
    (roots excluded : List Region) (policy : Option Policy) :
    (g.register name roots excluded policy).1.ModuleOutlines P := by
  unfold Graph.register
  cases g.moduleIndex[name]? with
  | some order => exact h.updateModule order _ (fun _ => rfl) fun _ => rfl
  | none =>
      have hadded : (g.addModule name).ModuleOutlines P := by
        unfold ModuleOutlines addModule
        exact Everywhere.push h hname
      exact hadded.updateModule _ _ (fun _ => rfl) fun _ => rfl

theorem disable (h : g.ModuleOutlines P) (hg : g.WellFormed) {name : String}
    (hname : P name false) : (g.disable name).ModuleOutlines P := by
  rw [hg.disable_eq_mute]
  intro i m' hm'
  rw [mute, Array.getElem?_map] at hm'
  obtain ⟨m, hm, rfl⟩ := Option.map_eq_some_iff.mp hm'
  by_cases hnamed : m.name = name
  · rw [Module.mute_of_eq hnamed]
    exact hnamed ▸ hname
  · rw [Module.mute_of_ne hnamed]
    exact h hm

theorem place (h : g.ModuleOutlines P) (henable : ∀ name enabled, P name enabled → P name true)
    (hprimitives : P Module.primitivesName true) (hglobal : P Module.globalName true)
    (hundefined : P Module.undefinedName true) (id : Nat) : (g.place id).ModuleOutlines P := by
  have howner : ∀ u, P (g.resolution u).owner true := by
    intro u
    have hbelongs := belongs_resolution g u
    generalize (g.resolution u).owner = name at hbelongs
    cases hbelongs with
    | primitive => exact hprimitives
    | global => exact hglobal
    | claimed _ _ hm => exact henable _ _ (h hm)
    | unclaimed => exact hundefined
  unfold Graph.place
  split
  · exact h
  · split
    · exact h
    · rename_i u _ _ _
      have hregistered : ((g.resolve u).1.setOwner id (g.resolve u).2.owner).ModuleOutlines P :=
        h.register (howner u) [] [] none
      dsimp only
      unfold addMember updateNamed
      split
      · exact hregistered.updateModule _ _ (fun _ => rfl) fun _ => rfl
      · exact hregistered

end ModuleOutlines

end Outlines

end Graph

namespace Config

theorem outlines_apply {P : String → Bool → Prop} {c : Config} {start : Graph}
    (happly : c.apply Graph.empty = .ok start)
    (hentries : ∀ entry ∈ c.modules, P entry.name true ∧
      (entry.enabled = some false → P entry.name false)) : start.ModuleOutlines P := by
  unfold apply at happly
  split at happly
  · cases happly
    have hboth : (c.modules.foldl registerEntry Graph.empty).WellFormed ∧
        (c.modules.foldl registerEntry Graph.empty).ModuleOutlines P := by
      refine List.foldlRecOn (motive := fun g : Graph => g.WellFormed ∧ g.ModuleOutlines P)
        c.modules registerEntry ⟨.empty, Everywhere.empty⟩ ?_
      rintro g ⟨hg, hP⟩ entry hentry
      refine ⟨wellFormed_registerEntry hg entry, ?_⟩
      have hregister := fun policy =>
        hP.register (hentries entry hentry).1 entry.roots entry.excluded policy
      have hwellFormed := fun policy =>
        (g.register_changes entry.name entry.roots entry.excluded policy).wellFormed hg
      unfold registerEntry
      by_cases hdisabled : entry.enabled = some false
      · simp only [if_pos hdisabled]
        exact (hregister _).disable (hwellFormed _) ((hentries entry hentry).2 hdisabled)
      · simp only [if_neg hdisabled]
        exact hregister _
    exact hboth.2
  · cases happly

end Config

namespace Analysis

theorem outlines_build {P : String → Bool → Prop} {c : Config} {files : List ScannedFile}
    {g : Graph} (hbuild : build c files = .ok g)
    (hentries : ∀ entry ∈ c.modules, P entry.name true ∧
      (entry.enabled = some false → P entry.name false))
    (henable : ∀ name enabled, P name enabled → P name true)
    (hprimitives : P Module.primitivesName true) (hglobal : P Module.globalName true)
    (hundefined : P Module.undefinedName true) : ∀ m ∈ g.modules, P m.name m.enabled := by
  obtain ⟨start, happly, rfl⟩ : ∃ start, c.apply Graph.empty = .ok start ∧
      buildFrom start files = g := by
    unfold build at hbuild
    cases happly : c.apply Graph.empty with
    | error faults => rw [happly] at hbuild; cases hbuild
    | ok start => rw [happly] at hbuild; exact ⟨start, rfl, Except.ok.inj hbuild⟩
  have hstart : start.ModuleOutlines P := c.outlines_apply happly hentries
  have hlinked : (linked start files).ModuleOutlines P := by
    rw [Graph.ModuleOutlines, linked_modules]
    exact hstart
  have hsealed : (buildFrom start files).ModuleOutlines P := by
    rw [buildFrom_eq]
    exact List.foldlRecOn _ _ hlinked fun g hg id _ =>
      hg.place henable hprimitives hglobal hundefined id
  intro m hm
  obtain ⟨i, hi⟩ := Array.mem_iff_getElem?.mp hm
  exact hsealed hi

end Analysis

namespace Report

/-- What is left of the entry of a module that is out of reports. -/
def hidden (entry : ModuleReport) : ModuleReport :=
  { name := entry.name, units := entry.units }

section Hiding

variable {entries : List ModuleReport} {entry : ModuleReport}

theorem exists_perm_cons (hnames : (entries.map (·.name)).Nodup) (hentry : entry ∈ entries) :
    ∃ others, entries.Perm (entry :: others) ∧ ∀ other ∈ others, other.name ≠ entry.name := by
  refine ⟨entries.erase entry, List.perm_cons_erase hentry, ?_⟩
  have hdistinct := ((List.perm_cons_erase hentry).map (·.name)).nodup_iff.mp hnames
  rw [List.map_cons, List.nodup_cons] at hdistinct
  intro other hother hname
  exact hdistinct.1 (hname ▸ List.mem_map_of_mem hother)

theorem map_hidden_perm {others : List ModuleReport} (hperm : entries.Perm (entry :: others))
    (hothers : ∀ other ∈ others, other.name ≠ entry.name) :
    (entries.map fun e => if e.name = entry.name then hidden e else e).Perm
      (hidden entry :: others) := by
  refine (hperm.map _).trans ?_
  rw [List.map_cons, if_pos rfl]
  have hsame : (others.map fun e => if e.name = entry.name then hidden e else e) = others :=
    (List.map_congr_left fun other hother => if_neg (hothers other hother)).trans (List.map_id _)
  rw [hsame]

end Hiding

section Disabled

variable [Matching] {g : Graph} {name : String} {m : Module}

theorem entryOf_mute_of_eq (h : m.name = name) :
    entryOf (g.mute name) (m.mute name) = hidden (entryOf g m) := by
  have houtline := entryOf_outline g m
  simp only [Prod.mk.injEq] at houtline
  rw [Module.mute_of_eq h, entryOf_disabled _ _ rfl, hidden, houtline.1, houtline.2.2]
  rfl

theorem entries_build_mute (g : Graph) (name : String) (root : String) (generatedAt : Timestamp) :
    (build (g.mute name) root generatedAt).entries = (build g root generatedAt).entries.map
      fun e => if e.name = name then hidden e else e := by
  have hmodules : (g.mute name).modules.toList.filter (·.isReportable) =
      (g.modules.toList.filter (·.isReportable)).map (Module.mute name) := by
    rw [Graph.mute, Array.toList_map, List.filter_map]
    rfl
  rw [entries_build, entries_build, hmodules, List.map_map, List.map_map]
  refine List.map_congr_left fun m _ => ?_
  simp only [Function.comp_apply, entryOf_name]
  split
  · rename_i hname
    exact entryOf_mute_of_eq hname
  · rename_i hname
    rw [Module.mute_of_ne hname, entryOf_mute_of_ne hname]

theorem names_nodup_entries (h : g.WellFormed) (root : String) (generatedAt : Timestamp) :
    ((build g root generatedAt).entries.map (·.name)).Nodup := by
  rw [entries_build, List.map_map]
  simp only [Function.comp_def, entryOf_name]
  exact h.modules.indexed.names_nodup.sublist (List.filter_sublist.map _)

theorem exists_entry_of_isSome (h : g.WellFormed)
    (hknown : (g.moduleIndex[name]?).isSome = true)
    (hname : name ≠ Module.primitivesName ∧ name ≠ Module.globalName) (root : String)
    (generatedAt : Timestamp) :
    ∃ entry ∈ (build g root generatedAt).entries, entry.name = name := by
  obtain ⟨order, horder⟩ := Option.isSome_iff_exists.mp hknown
  obtain ⟨m, hm, rfl⟩ := (h.modules.indexed _ _).mp horder
  refine ⟨entryOf g m, mem_entries.mpr ⟨m, Array.mem_of_getElem? hm, ?_, rfl⟩, entryOf_name g m⟩
  simp [Module.isReportable, Module.isGlobal, Module.isPrimitives, hname]

theorem counters_hidden {g' : Graph} {entry : ModuleReport} {others : List ModuleReport}
    {root : String} {generatedAt : Timestamp}
    (hperm : (build g root generatedAt).entries.Perm (entry :: others))
    (hperm' : (build g' root generatedAt).entries.Perm (hidden entry :: others)) :
    let s := (build g root generatedAt).summary
    let s' := (build g' root generatedAt).summary
    s'.modules = s.modules ∧ s'.units = s.units ∧
      s'.illegalModules = s.illegalModules - entry.illegalModules.length ∧
      s'.forbidden = s.forbidden - entry.forbidden.length ∧
      s'.leaks = s.leaks - entry.leaks.length ∧
      s'.distanceOverages = s.distanceOverages - if entry.isTooDistant then 1 else 0 := by
  have hquiet : (hidden entry).isTooDistant = false := rfl
  simp only [summary_build, hperm.length_eq, hperm'.length_eq, (hperm.map _).sum_eq,
    (hperm'.map _).sum_eq, hperm.countP_eq, hperm'.countP_eq, List.map_cons, List.sum_cons,
    List.countP_cons, List.length_cons, hquiet]
  refine ⟨trivial, rfl, ?_, ?_, ?_, ?_⟩
  · simp [hidden]
  · simp [hidden]
  · simp [hidden]
  · cases entry.isTooDistant <;> simp

end Disabled

/-- Disabling a module hides its own findings and nothing else. The entries of
all other modules stay as they are, its own keeps its name and its size, the
counters lose what it contributed, and of the rings of modules those still
count that have another enabled module. -/
theorem build_disabled [Matching] {c c' : Config} {name : String} (hc : c.faults = [])
    (hmarks : ∀ entry ∈ c.modules, '\x00' ∉ entry.name.toList) (h : c.Disables c' name)
    (files : List ScannedFile) (root : String) (generatedAt : Timestamp) :
    ∃ g g', Analysis.build c files = .ok g ∧ Analysis.build c' files = .ok g' ∧
      let r := build g root generatedAt
      let r' := build g' root generatedAt
      r'.entries = r.entries.map (fun e => if e.name = name then hidden e else e) ∧
      (r.entries.map (·.name)).Nodup ∧
      (∃ entry ∈ r.entries, entry.name = name ∧ entry.enabled = true ∧
        r'.summary.modules = r.summary.modules ∧
        r'.summary.units = r.summary.units ∧
        r'.summary.illegalModules = r.summary.illegalModules - entry.illegalModules.length ∧
        r'.summary.forbidden = r.summary.forbidden - entry.forbidden.length ∧
        r'.summary.leaks = r.summary.leaks - entry.leaks.length ∧
        r'.summary.distanceOverages =
          r.summary.distanceOverages - if entry.isTooDistant then 1 else 0) ∧
      ∃ rings, g.RepresentsRings (fun m => m.enabled = true) rings ∧
        r.summary.cycles = rings.length ∧
        r'.summary.cycles =
          (rings.filter fun ring => ring.any fun m => m.enabled && m.name != name).length := by
  obtain ⟨g, hbuild, hbuild', hknown⟩ := h.build_eq hc files
  have hg : g.IsArchitecture := by
    obtain ⟨_, hbuilt, hg⟩ := Analysis.build_isArchitecture hc files
    exact Except.ok.inj (hbuilt.symm.trans hbuild) ▸ hg
  have hg' : (g.mute name).IsArchitecture := by
    obtain ⟨_, hbuilt, hg'⟩ := Analysis.build_isArchitecture (h.faults_eq.trans hc) files
    exact Except.ok.inj (hbuilt.symm.trans hbuild') ▸ hg'
  have hnames := names_nodup_entries hg.wellFormed root generatedAt
  have hentries := entries_build_mute g name root generatedAt
  refine ⟨g, g.mute name, hbuild, hbuild', hentries, hnames, ?_, ?_⟩
  · have hunreserved : name ≠ Module.primitivesName ∧ name ≠ Module.globalName := by
      obtain ⟨written, hwritten, rfl⟩ := h.exists_entry
      exact c.entry_name_ne hc hwritten
    obtain ⟨entry, hentry, rfl⟩ :=
      exists_entry_of_isSome hg.wellFormed hknown hunreserved root generatedAt
    obtain ⟨others, hperm, hothers⟩ := exists_perm_cons hnames hentry
    have hperm' := hentries ▸ map_hidden_perm hperm hothers
    refine ⟨entry, hentry, rfl, ?_, counters_hidden hperm hperm'⟩
    obtain ⟨m, hm, -, rfl⟩ := mem_entries.mp hentry
    have houtline := entryOf_outline g m
    simp only [Prod.mk.injEq] at houtline
    rw [houtline.2.1]
    refine Analysis.outlines_build (P := fun n enabled => n = (entryOf g m).name → enabled = true)
      hbuild ?_ (fun _ _ _ _ => rfl) (fun _ => rfl) (fun _ => rfl) (fun _ => rfl) m hm
      (entryOf_name g m).symm
    exact fun entry hentry => ⟨fun _ => rfl, fun hdisabled hname =>
      absurd hdisabled (h.enabled entry hentry hname)⟩
  · have hmarked : ∀ m ∈ g.modules, '\x00' ∉ m.name.toList :=
      Analysis.outlines_build (P := fun n _ => '\x00' ∉ n.toList) hbuild
        (fun entry hentry => ⟨hmarks entry hentry, fun _ => hmarks entry hentry⟩)
        (fun _ _ hn => hn) (by decide) (by decide) (by decide)
    have hmarked' : ∀ m ∈ (g.mute name).modules, '\x00' ∉ m.name.toList := by
      intro m' hm'
      obtain ⟨m, hm, rfl⟩ := Array.mem_map.mp hm'
      exact hmarked m hm
    have hrings := hg.representsRings_cycles hmarked
    have hrings' := hg'.representsRings_cycles hmarked'
    have hcount := hrings'.length_eq (hrings.map_mute hg.toIsSealed hg'.toIsSealed)
    refine ⟨g.cycles, hrings, ?_, ?_⟩
    · rw [summary_build]
    · rw [summary_build]
      simp only [hcount, List.length_map]

/-- Two modules, of which the first must not use the second. -/
def ringConfig : Config where
  modules :=
    [{ name := "a", roots := [{ scope := "a" }], policy := { rules := [{ deny := "b" }] } },
     { name := "b", roots := [{ scope := "b" }] }]

/-- The same modules, with the first disabled. -/
def quietConfig : Config where
  modules :=
    [{ name := "a", roots := [{ scope := "a" }], enabled := some false,
       policy := { rules := [{ deny := "b" }] } },
     { name := "b", roots := [{ scope := "b" }] }]

/-- Units of the modules that depend on each other. -/
def ringFiles : List ScannedFile :=
  [{ units :=
      [{ scope := "a", name := "a.f", references := ["b.g"] },
       { scope := "b", name := "b.g", references := ["a.f"] }] }]

theorem build_disabled_ring :
    ringConfig.faults = [] ∧ (∀ entry ∈ ringConfig.modules, '\x00' ∉ entry.name.toList) ∧
      ringConfig.Disables quietConfig "a" ∧
      ∃ g g', Analysis.build ringConfig ringFiles = .ok g ∧
        Analysis.build quietConfig ringFiles = .ok g' ∧
        (build g' "" {}).entries.map (·.name) = (build g "" {}).entries.map (·.name) ∧
        (build g' "" {}).summary.units = (build g "" {}).summary.units ∧
        ∃ entry ∈ (build g' "" {}).entries, entry.name = "a" ∧ entry.hasViolations = false := by
  have hfaults : ringConfig.faults = [] := by decide
  have hmarks : ∀ entry ∈ ringConfig.modules, '\x00' ∉ entry.name.toList := by decide
  have hdisables : ringConfig.Disables quietConfig "a" := by
    refine ⟨.cons ⟨rfl, ?_⟩ (.cons ⟨rfl, fun _ => rfl⟩ .nil), by decide, by decide⟩
    intro hname
    exact absurd rfl hname
  obtain ⟨g, g', hbuild, hbuild', hentries, -, ⟨entry, hentry, hname, -, -, hunits, -⟩, -⟩ :=
    build_disabled hfaults hmarks hdisables ringFiles "" {}
  refine ⟨hfaults, hmarks, hdisables, g, g', hbuild, hbuild', ?_, hunits, hidden entry, ?_, hname,
    rfl⟩
  · rw [hentries, List.map_map]
    refine List.map_congr_left fun e _ => ?_
    simp only [Function.comp_apply]
    split <;> rfl
  · rw [hentries, List.mem_map]
    exact ⟨entry, hentry, if_pos hname⟩

end Report

end ArchLint
