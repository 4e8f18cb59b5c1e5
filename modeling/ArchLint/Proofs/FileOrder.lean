import ArchLint.Report
import ArchLint.Proofs.Distinct
import ArchLint.Proofs.Edges

namespace ArchLint

/-- The path that a file is ordered by; it is empty for a file without one. -/
def ScannedFile.orderPath (f : ScannedFile) : String :=
  f.path.getD ""

def UnitSpec.declaredName (spec : UnitSpec) : String :=
  Text.trimBlank spec.name

namespace Graph

def unitNames (g : Graph) : List String :=
  g.units.toList.map (·.name)

section Names

variable {g : Graph} {name : String}

theorem getElem?_unitNames (i : Nat) : g.unitNames[i]? = (g.units[i]?).map (·.name) := by
  rw [unitNames, List.getElem?_map, Array.getElem?_toList]

theorem WellFormed.mem_unitNames (h : g.WellFormed) :
    name ∈ g.unitNames ↔ (g.unitId? name).isSome = true := by
  rw [← h.exists_unit_iff, unitNames, List.mem_map]
  simp only [Array.mem_toList_iff]

theorem WellFormed.unitNames_declare (h : g.WellFormed) (spec : UnitSpec) :
    (g.declare spec).1.unitNames =
      if spec.declaredName ∈ g.unitNames then g.unitNames
      else g.unitNames ++ [spec.declaredName] := by
  cases hid : g.unitId? (Text.trimBlank spec.name) with
  | some id =>
      have hmem : spec.declaredName ∈ g.unitNames :=
        h.mem_unitNames.mpr (by rw [UnitSpec.declaredName, hid]; rfl)
      rw [if_pos hmem, declare_known hid]
      apply List.ext_getElem?
      intro i
      simp only [getElem?_unitNames, Array.getElem?_modify]
      split
      · cases g.units[i]? <;> simp [(merge_frame _ spec).2.1]
      · rfl
  | none =>
      have hnot : spec.declaredName ∉ g.unitNames := by
        rw [h.mem_unitNames, UnitSpec.declaredName, hid]
        simp
      rw [if_neg hnot, declare_new hid]
      simp [unitNames, newUnit, UnitSpec.declaredName]

theorem unitNames_sealed_run (operations : List Operation) :
    (run operations).sealed.unitNames = (run operations).unitNames := by
  apply List.ext_getElem?
  intro i
  rw [getElem?_unitNames, getElem?_unitNames, sealed_getElem?, Option.map_map]
  rfl

end Names

end Graph

namespace Analysis

open ArchLint.Graph

section Sorting

theorem pairwise_inOrder (files : List ScannedFile) :
    (inOrder files).Pairwise (fun f f' => f.orderPath ≤ f'.orderPath) :=
  Text.pairwise_mergeSort_byteLe ScannedFile.orderPath files

variable {files : List ScannedFile}

theorem inOrder_eq_of_perm (hpaths : (files.map ScannedFile.orderPath).Nodup)
    {files' : List ScannedFile} (hperm : files'.Perm files) : inOrder files' = inOrder files := by
  have hall : (inOrder files').Perm (inOrder files) :=
    ((List.mergeSort_perm files' _).trans hperm).trans (List.mergeSort_perm files _).symm
  refine hall.eq_of_pairwise ?_ (pairwise_inOrder files') (pairwise_inOrder files)
  intro f f' hf hf' hle hge
  have hmem : ∀ x ∈ inOrder files, x ∈ files := fun x => (List.mergeSort_perm files _).mem_iff.mp
  exact List.inj_on_of_nodup_map hpaths (hmem f (hall.mem_iff.mp hf)) (hmem f' hf')
    (String.le_antisymm hle hge)

theorem strictly_inOrder (hpaths : (files.map ScannedFile.orderPath).Nodup) :
    (inOrder files).Pairwise (fun f f' => f.orderPath < f'.orderPath) :=
  Text.strictly_mergeSort_byteLe hpaths

end Sorting

theorem unitNames_declared {g : Graph} (h : g.WellFormed) (specs : List UnitSpec) :
    (declared g specs).unitNames = g.unitNames ++
      ((specs.map UnitSpec.declaredName).filter fun name => name ∉ g.unitNames).eraseDups := by
  induction specs generalizing g with
  | nil => simp [declared]
  | cons spec specs ih =>
      have hstep := ih (declare_extends h spec).1.wellFormed
      rw [declared, List.foldl_cons, ← declared, hstep, h.unitNames_declare spec, List.map_cons]
      by_cases hknown : spec.declaredName ∈ g.unitNames
      · rw [if_pos hknown, List.filter_cons_of_neg (by simpa using hknown)]
      · rw [if_neg hknown, List.filter_cons_of_pos (by simpa using hknown), List.eraseDups_cons,
          List.filter_filter, List.append_assoc, List.singleton_append]
        have hrest : ∀ name ∈ specs.map UnitSpec.declaredName,
            decide (name ∉ g.unitNames ++ [spec.declaredName]) =
              (!name == spec.declaredName && decide (name ∉ g.unitNames)) := by
          intro name _
          by_cases hname : name = spec.declaredName <;> simp [hname]
        rw [List.filter_congr hrest]

/-- Linking leaves the numbers of declared units alone. -/
theorem IsLinked.exists_unitNames_eq {files : List ScannedFile} {start g : Graph}
    (h : IsLinked files start g) :
    ∃ linked, g.sealed.unitNames =
      ((specsOf files).map UnitSpec.declaredName).eraseDups ++ linked := by
  have hsealed : g.sealed.unitNames = g.unitNames := by
    obtain ⟨operations, rfl⟩ := h.reachable
    exact unitNames_sealed_run operations
  have hnone : start.unitNames = [] := by
    rw [List.eq_nil_iff_forall_not_mem]
    intro name hname
    rw [h.wellFormed.mem_unitNames, h.unitless] at hname
    simp at hname
  have hdeclared := unitNames_declared h.wellFormed (specsOf files)
  simp only [hnone, List.nil_append, List.not_mem_nil, not_false_eq_true, decide_true,
    List.filter_true] at hdeclared
  have hkept : (declared start (specsOf files)).unitNames <+: g.unitNames := by
    rw [List.prefix_iff_getElem?]
    intro i hi
    have hname := List.getElem?_eq_getElem hi
    rw [getElem?_unitNames, Option.map_eq_some_iff] at hname
    obtain ⟨u, hu, hname⟩ := hname
    have hwellFormed := (declared_extends h.wellFormed (specsOf files)).1.wellFormed
    have hid := h.linking.kept _ _ ((hwellFormed.units.indexed _ i).mpr ⟨u, hu, hname⟩)
    obtain ⟨v, hv, hvname⟩ := (h.linking.wellFormed.units.indexed _ _).mp hid
    rw [getElem?_unitNames, hv, Option.map_some, hvname]
  obtain ⟨linked, hlinked⟩ := hkept
  exact ⟨linked, by rw [hsealed, ← hlinked, hdeclared]⟩

/-- If files have distinct paths, neither their architecture nor its report
depends on the order in which they are given. The units that they declare come
before those that are only referred to, in the order of their first declaration
along the files sorted by path. -/
theorem build_order_independent [Matching] {c : Config} (hc : c.faults = [])
    {files : List ScannedFile} (hpaths : (files.map ScannedFile.orderPath).Nodup) :
    ∃ (g : Graph) (sorted : List ScannedFile) (linked : List String), build c files = .ok g ∧
      (∀ files', files'.Perm files → build c files' = .ok g) ∧
      (∀ files' root generatedAt, files'.Perm files →
        (build c files').map (Report.build · root generatedAt) =
          .ok (Report.build g root generatedAt)) ∧
      sorted.Perm files ∧ sorted.Pairwise (fun f f' => f.orderPath < f'.orderPath) ∧
      g.units.toList.map (·.name) =
        ((sorted.flatMap (·.units)).map UnitSpec.declaredName).eraseDups ++ linked ∧
      (∀ name ∈ linked, ∀ file ∈ files, ∀ spec ∈ file.units, spec.declaredName ≠ name) ∧
      ∀ (i : Nat) (u : CodeUnit), g.units[i]? = some u → u.id = i := by
  obtain ⟨start, g, happly, hbuild, h⟩ := build_isLinked hc files
  obtain ⟨linked, hnames⟩ := h.exists_unitNames_eq
  have hwellFormed : g.sealed.WellFormed := by
    obtain ⟨operations, rfl⟩ := h.reachable
    exact (isSealed_sealed_run operations).wellFormed
  have hperm : ∀ files', files'.Perm files → build c files' = .ok g.sealed := by
    intro files' hfiles'
    rw [← hbuild, build, build, happly]
    simp only [Except.map, buildFrom, inOrder_eq_of_perm hpaths hfiles']
  refine ⟨g.sealed, inOrder files, linked, hbuild, hperm, ?_, List.mergeSort_perm files _,
    strictly_inOrder hpaths, hnames, ?_, ?_⟩
  · intro files' root generatedAt hfiles'
    rw [hperm files' hfiles']
    rfl
  · intro name hname file hfile spec hspec hdeclared
    have hdistinct : g.sealed.unitNames.Nodup := hwellFormed.units.indexed.names_nodup
    rw [hnames] at hdistinct
    refine (List.nodup_append'.mp hdistinct).2.2 (List.mem_eraseDups.mpr ?_) hname
    have hspecs : spec ∈ specsOf files :=
      List.mem_flatMap.mpr ⟨file, (List.mergeSort_perm files _).mem_iff.mpr hfile, hspec⟩
    exact hdeclared ▸ List.mem_map_of_mem hspecs
  · intro i u hu
    exact hwellFormed.units.numbered hu

/-- A file that is given before one whose path comes first, and that refers to
a unit of it and to an unknown one. -/
def unsortedFiles : List ScannedFile :=
  [{ path := some "b.go"
     units := [{ scope := "app", name := "app.B", references := ["app.A", "fmt.Print"] }] },
   { path := some "a.go", units := [{ scope := "app", name := "app.A" }] }]

theorem build_order_independent_unsorted :
    (⟨[]⟩ : Config).faults = [] ∧ (unsortedFiles.map ScannedFile.orderPath).Nodup ∧
      ∃ g linked, build ⟨[]⟩ unsortedFiles = .ok g ∧ build ⟨[]⟩ unsortedFiles.reverse = .ok g ∧
        g.units.toList.map (·.name) = ["app.A", "app.B"] ++ linked := by
  have hpaths : (unsortedFiles.map ScannedFile.orderPath).Nodup := by decide
  obtain ⟨g, sorted, linked, hbuild, hperm, -, hsorted, hordered, hnames, -⟩ :=
    build_order_independent (c := ⟨[]⟩) rfl hpaths
  refine ⟨rfl, hpaths, g, linked, hbuild, hperm _ (List.reverse_perm _), ?_⟩
  have hreverse : sorted = unsortedFiles.reverse := by
    refine (hsorted.trans (List.reverse_perm _).symm).eq_of_pairwise ?_ hordered (by decide)
    intro f f' _ _ hlt hgt
    exact absurd hgt (String.lt_asymm hlt)
  have hdeclared : ((unsortedFiles.reverse.flatMap (·.units)).map
      UnitSpec.declaredName).eraseDups = ["app.A", "app.B"] := by
    decide
  rw [hnames, hreverse, hdeclared]

end Analysis

end ArchLint
