import ArchLint.Proofs.Edges
import ArchLint.Proofs.Trimming

namespace ArchLint

/-- The name of a spec is written as a symbol of the scope that it records. -/
structure UnitSpec.IsQualified (spec : UnitSpec) : Prop where
  scope_ne : spec.scope ≠ ""
  named : ∃ symbol, spec.name = spec.scope ++ "." ++ symbol
  trimmed : Text.trimBlank spec.name = spec.name

theorem CodeUnit.splitName_eq {u : CodeUnit} {symbol : String} (hscope : u.scope ≠ "")
    (hname : u.name = u.scope ++ "." ++ symbol) : u.splitName = (u.scope, symbol) := by
  have hchars : u.name.toList = (u.scope ++ ".").toList ++ symbol.toList := by
    rw [hname]
    exact String.toList_append
  simp only [splitName, hchars, Text.afterPrefix?_append, String.isEmpty_iff, hscope, if_false,
    String.ofList_toList]

theorem CodeUnit.declaredScope_eq {u : CodeUnit} {symbol : String} (hscope : u.scope ≠ "")
    (hname : u.name = u.scope ++ "." ++ symbol) : u.declaredScope = u.scope := by
  rw [declaredScope, splitName_eq hscope hname]

namespace Analysis

open ArchLint.Graph

/-- The name suggests another scope than the one its spec records. -/
def Mention.IsForeign (m : Mention) : Prop :=
  (Name.split m.name).1 ≠ m.spec.scope

/-- All that specs mention, in their order. -/
def mentions (specs : List UnitSpec) : List Mention :=
  specs.flatMap fun spec => spec.references.map fun name => ⟨spec, name⟩

section Qualified

variable {g : Graph}

theorem map_references (g : Graph) (specs : List UnitSpec) :
    (references g specs).map (·.toMention) = mentions specs := by
  induction specs generalizing g with
  | nil => rfl
  | cons spec specs ih =>
      rw [references, List.map_append, ih, List.map_map]
      rfl

theorem declare_scope (h : g.WellFormed) {spec : UnitSpec} (hscope : spec.scope ≠ "") :
    ∃ u, (g.declare spec).1.units[(g.declare spec).2]? = some u ∧ u.scope = spec.scope ∧
      u.name = Text.trimBlank spec.name := by
  cases hid : g.unitId? (Text.trimBlank spec.name) with
  | some id =>
      obtain ⟨u, hu, hname⟩ := (h.units.indexed _ _).mp hid
      rw [declare_known hid]
      refine ⟨merge u spec, ?_, ?_, (merge_frame u spec).2.1.trans hname⟩
      · simp [Array.getElem?_modify, hu]
      · have hempty : spec.scope.isEmpty = false := by simpa using hscope
        simp only [merge, hempty, Bool.false_eq_true, if_false]
        split_ifs <;> rfl
  | none =>
      rw [declare_new hid]
      exact ⟨newUnit g.units.size (Text.trimBlank spec.name) spec, by simp, rfl, rfl⟩

theorem scopeOf_qualified (h : g.WellFormed) {spec : UnitSpec} (hspec : spec.IsQualified) :
    scopeOf g spec = spec.scope := by
  obtain ⟨u, hu, hscope, hname⟩ := declare_scope h hspec.scope_ne
  obtain ⟨symbol, hsymbol⟩ := hspec.named
  have hqualified : u.name = u.scope ++ "." ++ symbol := by
    rw [hname, hspec.trimmed, hsymbol, hscope]
  rw [scopeOf, hu, ← hscope]
  exact CodeUnit.declaredScope_eq (hscope ▸ hspec.scope_ne) hqualified

theorem isForeign_iff (h : g.WellFormed) {specs : List UnitSpec}
    (hspecs : ∀ spec ∈ specs, spec.IsQualified) :
    ∀ r ∈ references g specs, r.IsForeign ↔ r.toMention.IsForeign := by
  induction specs generalizing g with
  | nil => simp [references]
  | cons spec specs ih =>
      intro r hr
      rcases List.mem_append.mp hr with hr | hr
      · obtain ⟨name, -, rfl⟩ := List.mem_map.mp hr
        rw [Reference.IsForeign, Mention.IsForeign, scopeOf_qualified h (hspecs spec (by simp))]
      · exact ih (declare_extends h spec).1.wellFormed
          (fun spec' hspec' => hspecs spec' (by simp [hspec'])) r hr

end Qualified

theorem prefix_concat_map_iff {α β : Type} {f : α → β} {xs : List α} {ys : List β} {y : β} :
    ys ++ [y] <+: xs.map f ↔ ∃ xs' x, xs' ++ [x] <+: xs ∧ xs'.map f = ys ∧ f x = y := by
  rw [List.prefix_map_iff]
  constructor
  · rintro ⟨l, hl, hmap⟩
    obtain ⟨xs', last, rfl, rfl, hlast⟩ := List.map_eq_append_iff.mp hmap.symm
    obtain ⟨x, rfl, rfl⟩ := List.map_eq_singleton_iff.mp hlast
    exact ⟨xs', x, hl, rfl, rfl⟩
  · rintro ⟨xs', x, hinitial, rfl, rfl⟩
    exact ⟨xs' ++ [x], hinitial, by simp⟩

namespace IsLinked

variable {files : List ScannedFile} {start g : Graph} {name : String}

theorem exists_foreign_iff (h : IsLinked files start g)
    (hspecs : ∀ spec ∈ specsOf files, spec.IsQualified) {done : List Reference}
    (hdone : done ⊆ references start (specsOf files)) :
    (∃ r ∈ done, r.IsForeign ∧ r.target = name) ↔
      ∃ m ∈ done.map (·.toMention), m.IsForeign ∧ m.target = name := by
  have hforeign := isForeign_iff h.wellFormed hspecs
  constructor
  · rintro ⟨r, hr, hr', htarget⟩
    exact ⟨r.toMention, List.mem_map_of_mem hr, (hforeign r (hdone hr)).mp hr', htarget⟩
  · rintro ⟨m, hm, hm', htarget⟩
    obtain ⟨r, hr, rfl⟩ := List.mem_map.mp hm
    exact ⟨r, hr, (hforeign r (hdone hr)).mpr hm', htarget⟩

theorem exists_undeclared_iff (h : IsLinked files start g)
    (hspecs : ∀ spec ∈ specsOf files, spec.IsQualified) (hname : name ≠ "")
    (hundeclared : ∀ spec ∈ specsOf files, spec.name ≠ name) :
    (∃ u ∈ g.sealed.units, u.name = name) ↔
      ∃ m ∈ mentions (specsOf files), m.IsForeign ∧ m.target = name := by
  rw [h.exists_unit_iff, ← map_references start, ← h.exists_foreign_iff hspecs (List.Subset.refl _),
    Known, h.declared_iff]
  constructor
  · rintro (⟨spec, hspec, hdeclared⟩ | ⟨-, hforeign⟩)
    · rw [(hspecs spec hspec).trimmed] at hdeclared
      exact absurd hdeclared (hundeclared spec hspec)
    · exact hforeign
  · exact fun hforeign => .inr ⟨hname, hforeign⟩

theorem known_undeclared_iff (h : IsLinked files start g)
    (hspecs : ∀ spec ∈ specsOf files, spec.IsQualified)
    (hundeclared : ∀ spec ∈ specsOf files, spec.name ≠ name) {earlier : List Reference}
    {r : Reference} (hblank : r.target ≠ "") (htarget : r.target = name) :
    Known (declared start (specsOf files)) earlier r.name ↔
      r.name = name ∧ ∃ r' ∈ earlier, r'.IsForeign ∧ r'.target = name := by
  rw [Known, h.declared_iff]
  constructor
  · rintro (⟨spec, hspec, hdeclared⟩ | ⟨-, r', hr', hforeign, hname⟩)
    · have hself : r.target = spec.name := by
        rw [Mention.target, ← hdeclared, Text.trimBlank_trimBlank, (hspecs spec hspec).trimmed]
      exact absurd (hself.symm.trans htarget) (hundeclared spec hspec)
    · -- a target is trimmed, so a name that is one is its own target
      have hself : r.target = r.name := by
        rw [Mention.target, ← hname, Mention.target, Text.trimBlank_trimBlank]
      exact ⟨hself.symm.trans htarget, r', hr', hforeign, hname.trans (hself.symm.trans htarget)⟩
  · rintro ⟨hname, r', hr', hforeign, hr'target⟩
    rw [hname]
    exact .inr ⟨htarget ▸ hblank, r', hr', hforeign, hr'target⟩

/-- A mention of an undeclared name is linked if it is foreign, or if a foreign
one before it has brought the name in. -/
theorem dependsOn_undeclared_iff (h : IsLinked files start g)
    (hspecs : ∀ spec ∈ specsOf files, spec.IsQualified) (hname : name ≠ "")
    (hundeclared : ∀ spec ∈ specsOf files, spec.name ≠ name) (a : String) :
    g.sealed.DependsOn a name ↔ ∃ earlier m, earlier ++ [m] <+: mentions (specsOf files) ∧
      m.spec.name = a ∧ m.target = name ∧
      (m.IsForeign ∨ m.name = name ∧ ∃ m' ∈ earlier, m'.IsForeign ∧ m'.target = name) := by
  have hreference : ∀ earlier r, earlier ++ [r] <+: references start (specsOf files) →
      r.target = name →
      (Text.trimBlank r.spec.name = r.spec.name ∧ r.spec.name ≠ name) ∧
      (Links (declared start (specsOf files)) earlier r ↔ r.toMention.IsForeign ∨
        r.name = name ∧ ∃ m' ∈ earlier.map (·.toMention), m'.IsForeign ∧ m'.target = name) := by
    intro earlier r hinitial htarget
    have hr := mem_of_prefix_concat hinitial
    have hspec := (declared_source h.wellFormed _ r hr).1
    have hblank : r.target ≠ "" := htarget ▸ hname
    refine ⟨⟨(hspecs _ hspec).trimmed, hundeclared _ hspec⟩, ?_⟩
    rw [Links, isForeign_iff h.wellFormed hspecs r hr,
      h.known_undeclared_iff hspecs hundeclared hblank htarget,
      h.exists_foreign_iff hspecs fun r' hr' => hinitial.subset (List.mem_append_left _ hr')]
    exact and_iff_right hblank
  rw [h.dependsOn_iff, ← map_references start]
  simp only [prefix_concat_map_iff]
  constructor
  · rintro ⟨-, earlier, r, hinitial, hlinks, hsource, htarget⟩
    obtain ⟨⟨htrimmed, -⟩, hiff⟩ := hreference earlier r hinitial htarget
    exact ⟨_, _, ⟨earlier, r, hinitial, rfl, rfl⟩, htrimmed.symm.trans hsource, htarget,
      hiff.mp hlinks⟩
  · rintro ⟨_, _, ⟨earlier, r, hinitial, rfl, rfl⟩, hsource, htarget, hlinks⟩
    obtain ⟨⟨htrimmed, hne⟩, hiff⟩ := hreference earlier r hinitial htarget
    exact ⟨hsource ▸ hne, earlier, r, hinitial, hiff.mpr hlinks, htrimmed.trans hsource, htarget⟩

end IsLinked

/-- A name of the own scope that no spec declares gets a unit only through
foreign mentions, and only these and the mentions after them are linked to it.
If the name suggests the scope it is in and is mentioned nowhere else, it is
not linked. -/
theorem build_own_names {c : Config} (hc : c.faults = []) {files : List ScannedFile}
    (hspecs : ∀ spec ∈ specsOf files, spec.IsQualified) :
    ∃ g, build c files = .ok g ∧ ∀ spec ∈ specsOf files, ∀ name symbol,
      name = spec.scope ++ "." ++ symbol → (∀ spec' ∈ specsOf files, spec'.name ≠ name) →
      ((∃ u ∈ g.units, u.name = name) ↔
        ∃ m ∈ mentions (specsOf files), m.IsForeign ∧ m.target = name) ∧
      (g.DependsOn spec.name name ↔ ∃ earlier m, earlier ++ [m] <+: mentions (specsOf files) ∧
        m.spec.name = spec.name ∧ m.target = name ∧
        (m.IsForeign ∨ m.name = name ∧ ∃ m' ∈ earlier, m'.IsForeign ∧ m'.target = name)) ∧
      ((Name.split name).1 = spec.scope →
        (∀ m ∈ mentions (specsOf files), m.target = name →
          m.name = name ∧ m.spec.scope = spec.scope) →
        (∀ u ∈ g.units, u.name ≠ name) ∧ ¬g.DependsOn spec.name name) := by
  obtain ⟨start, g, -, hbuild, h⟩ := build_isLinked hc files
  refine ⟨g.sealed, hbuild, ?_⟩
  intro spec hspec name symbol hname hundeclared
  have hblank : name ≠ "" := by
    intro hempty
    have hlength := congrArg String.length (hname.symm.trans hempty)
    simp [String.length_append] at hlength
  have hunit := h.exists_undeclared_iff hspecs hblank hundeclared
  refine ⟨hunit, h.dependsOn_undeclared_iff hspecs hblank hundeclared spec.name, ?_⟩
  intro hscope hown
  have hnone : ∀ u ∈ g.sealed.units, u.name ≠ name := by
    intro u hu huname
    obtain ⟨m, hm, hforeign, htarget⟩ := hunit.mp ⟨u, hu, huname⟩
    obtain ⟨hmname, hmscope⟩ := hown m hm htarget
    rw [Mention.IsForeign, hmname, hmscope] at hforeign
    exact hforeign hscope
  refine ⟨hnone, ?_⟩
  rintro ⟨-, -, v, hv, -, hvname, -⟩
  exact hnone v hv hvname

/-- A unit that mentions a name of its own scope that no spec declares. -/
def mapSpec : UnitSpec :=
  { scope := "app/core", name := "app/core.Map", references := ["app/core.T"] }

/-- A unit of another scope that mentions the same name. -/
def runSpec (scope : String) : UnitSpec :=
  { scope := scope, name := scope ++ ".Run", references := ["app/core.T"] }

def coreFirst : List ScannedFile :=
  [{ path := some "core/core.go", units := [mapSpec] },
   { path := some "web/web.go", units := [runSpec "app/web"] }]

def coreLast : List ScannedFile :=
  [{ path := some "api/api.go", units := [runSpec "app/api"] },
   { path := some "core/core.go", units := [mapSpec] }]

theorem specsOf_coreFirst : specsOf coreFirst = [mapSpec, runSpec "app/web"] := by
  have hsorted : inOrder coreFirst = coreFirst := List.mergeSort_of_pairwise (by decide)
  rw [specsOf, hsorted]
  rfl

theorem specsOf_coreLast : specsOf coreLast = [runSpec "app/api", mapSpec] := by
  have hsorted : inOrder coreLast = coreLast := List.mergeSort_of_pairwise (by decide)
  rw [specsOf, hsorted]
  rfl

theorem isQualified_mapSpec : mapSpec.IsQualified :=
  ⟨by decide, ⟨"Map", rfl⟩, by decide⟩

theorem isQualified_runSpec {scope : String} (hscope : scope ≠ "")
    (htrimmed : Text.trimBlank (scope ++ ".Run") = scope ++ ".Run") :
    (runSpec scope).IsQualified :=
  ⟨hscope, ⟨"Run", by rw [String.append_assoc]; rfl⟩, htrimmed⟩

theorem build_own_names_coreFirst :
    (⟨[]⟩ : Config).faults = [] ∧ (∀ spec ∈ specsOf coreFirst, spec.IsQualified) ∧
      ∃ g, build ⟨[]⟩ coreFirst = .ok g ∧ (∃ u ∈ g.units, u.name = "app/core.T") ∧
        ¬g.DependsOn "app/core.Map" "app/core.T" := by
  have hspecs : ∀ spec ∈ specsOf coreFirst, spec.IsQualified := by
    intro spec hspec
    rw [specsOf_coreFirst, List.mem_pair] at hspec
    rcases hspec with rfl | rfl
    · exact isQualified_mapSpec
    · exact isQualified_runSpec (by decide) (by decide)
  have hundeclared : ∀ spec ∈ specsOf coreFirst, spec.name ≠ "app/core.T" := by
    rw [specsOf_coreFirst]
    decide
  obtain ⟨g, hbuild, hg⟩ := build_own_names (c := ⟨[]⟩) rfl hspecs
  obtain ⟨hunit, hedge, -⟩ :=
    hg mapSpec (by simp [specsOf_coreFirst]) "app/core.T" "T" rfl hundeclared
  have hmentions : mentions (specsOf coreFirst) =
      [] ++ [⟨mapSpec, "app/core.T"⟩] ++ [⟨runSpec "app/web", "app/core.T"⟩] := by
    rw [specsOf_coreFirst]
    rfl
  have hforeign : ¬(⟨mapSpec, "app/core.T"⟩ : Mention).IsForeign := by
    unfold Mention.IsForeign
    decide
  refine ⟨rfl, hspecs, g, hbuild, ?_, ?_⟩
  · refine hunit.mpr ⟨⟨runSpec "app/web", "app/core.T"⟩, by simp [hmentions], ?_, by decide⟩
    unfold Mention.IsForeign
    decide
  · change ¬g.DependsOn mapSpec.name "app/core.T"
    rw [hedge, hmentions, exists_prefix_concat_iff, exists_prefix_concat_iff]
    rintro ((⟨_, _, hinitial, -⟩ | ⟨-, -, hlinks | ⟨-, _, hm', -⟩⟩) | ⟨hname, -⟩)
    · simp at hinitial
    · exact hforeign hlinks
    · simp at hm'
    · exact absurd hname (by decide)

/-- Files that come first can bring in a name that a unit of its scope is then
linked to, although no spec declares it. -/
theorem build_links_own_name :
    (∀ spec ∈ specsOf coreLast, spec.IsQualified ∧ spec.name ≠ "app/core.T") ∧
      mapSpec ∈ specsOf coreLast ∧ mapSpec.scope ++ ".T" ∈ mapSpec.references ∧
      ∃ g, build ⟨[]⟩ coreLast = .ok g ∧ g.DependsOn mapSpec.name (mapSpec.scope ++ ".T") := by
  have hspecs : ∀ spec ∈ specsOf coreLast, spec.IsQualified := by
    intro spec hspec
    rw [specsOf_coreLast, List.mem_pair] at hspec
    rcases hspec with rfl | rfl
    · exact isQualified_runSpec (by decide) (by decide)
    · exact isQualified_mapSpec
  have hundeclared : ∀ spec ∈ specsOf coreLast, spec.name ≠ "app/core.T" := by
    rw [specsOf_coreLast]
    decide
  have hmentions : mentions (specsOf coreLast) =
      [⟨runSpec "app/api", "app/core.T"⟩] ++ [⟨mapSpec, "app/core.T"⟩] := by
    rw [specsOf_coreLast]
    rfl
  have hforeign : (⟨runSpec "app/api", "app/core.T"⟩ : Mention).IsForeign := by
    unfold Mention.IsForeign
    decide
  obtain ⟨start, g, -, hbuild, h⟩ := build_isLinked (c := ⟨[]⟩) rfl coreLast
  refine ⟨fun spec hspec => ⟨hspecs spec hspec, hundeclared spec hspec⟩,
    by simp [specsOf_coreLast], by decide, g.sealed, hbuild, ?_⟩
  refine (h.dependsOn_undeclared_iff hspecs (by decide) hundeclared _).mpr
    ⟨[⟨runSpec "app/api", "app/core.T"⟩], ⟨mapSpec, "app/core.T"⟩, ?_, rfl, by decide, .inr ?_⟩
  · exact hmentions.symm ▸ List.prefix_rfl
  · exact ⟨rfl, _, List.mem_singleton_self _, hforeign, by decide⟩

end Analysis

end ArchLint
