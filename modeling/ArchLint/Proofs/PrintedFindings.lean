import ArchLint.Proofs.Numerals
import ArchLint.Proofs.Rates
import ArchLint.Proofs.Verdict
import ArchLint.Rendering
import Mathlib.Data.List.Forall2
import Mathlib.Data.List.Infix

namespace ArchLint

namespace Text

def ofLines (lines : List String) : String :=
  String.join (lines.map (· ++ "\n"))

/-- A text without line feeds. -/
def IsLine (s : String) : Prop :=
  '\n' ∉ s.toList

instance (s : String) : Decidable (IsLine s) :=
  inferInstanceAs (Decidable ('\n' ∉ s.toList))

section Lines

variable {s t : String} {ls : List String}

theorem ofLines_append (ls ls' : List String) :
    ofLines (ls ++ ls') = ofLines ls ++ ofLines ls' := by
  rw [ofLines, List.map_append, String.join_append, ofLines, ofLines]

theorem ofLines_cons (l : String) (ls : List String) :
    ofLines (l :: ls) = l ++ "\n" ++ ofLines ls := by
  rw [ofLines, List.map_cons, String.join_cons, ofLines]

theorem lines_ofLines (h : ∀ l ∈ ls, IsLine l) : lines (ofLines ls) = ls ++ [""] := by
  induction ls with
  | nil => rfl
  | cons l ls ih =>
      obtain ⟨hl, hls⟩ := List.forall_mem_cons.mp h
      have hline : (l ++ "\n" ++ ofLines ls).toList = l.toList ++ '\n' :: (ofLines ls).toList := by
        simp [String.toList_append]
      rw [ofLines_cons, lines, splitAt, hline, List.splitOn_append_cons_self_of_not_mem hl,
        List.map_cons, String.ofList_toList, List.cons_append, ← ih hls]
      rfl

theorem IsLine.append (hs : IsLine s) (ht : IsLine t) : IsLine (s ++ t) := by
  rw [IsLine, String.toList_append, List.mem_append]
  exact not_or.mpr ⟨hs, ht⟩

theorem IsLine.joinWith (hs : IsLine s) (h : ∀ l ∈ ls, IsLine l) : IsLine (joinWith s ls) := by
  induction ls with
  | nil => exact List.not_mem_nil
  | cons l ls ih =>
      obtain ⟨hl, hls⟩ := List.forall_mem_cons.mp h
      cases ls with
      | nil => simpa [Text.joinWith] using hl
      | cons l' ls =>
          rw [Text.joinWith, String.intercalate_cons_cons]
          exact (hl.append hs).append (ih hls)

theorem isLine_toString (n : Int) : IsLine (toString n) := by
  rw [IsLine, Number.toList_toString, List.mem_append, not_or]
  constructor
  · split <;> simp
  · intro hmem
    exact absurd (Number.isDigit_of_mem_digits hmem) (by decide)

theorem isLine_digitText (ds : List Nat) : IsLine (Number.digitText ds) := by
  rw [IsLine, Number.digitText, String.toList_ofList, List.mem_map]
  rintro ⟨d, -, hd⟩
  simp [Nat.digitChar, ite_eq_iff] at hd

theorem isLine_fixed (places : Nat) (x : Number.Binary64) : IsLine (Number.fixed places x) := by
  cases x with
  | infinite negative => cases negative <;> simp [Number.fixed, IsLine]
  | notANumber => simp [Number.fixed, IsLine]
  | finite negative m e =>
      simp only [Number.fixed]
      refine .append (.append ?_ (isLine_digitText _)) ?_
      · split <;> decide
      · split
        · decide
        · exact .append (by decide) (isLine_digitText _)

theorem flatten_clustersFrom (state : ClusterState) (current s : List Char) :
    (clustersFrom state current s).flatten = current.reverse ++ s := by
  induction s generalizing state current with
  | nil => simp [clustersFrom]
  | cons c cs ih =>
      simp only [clustersFrom]
      split
      · simp [ih]
      · simp [ih]

theorem flatten_clusters (s : List Char) : (clusters s).flatten = s := by
  cases s with
  | nil => rfl
  | cons c cs => rw [clusters, flatten_clustersFrom]; rfl

theorem fitting_front (room : Nat) (pieces : List (List Char)) :
    fitting room pieces <+: pieces := by
  induction pieces generalizing room with
  | nil => exact List.prefix_rfl
  | cons piece pieces ih =>
      rw [fitting]
      split
      · exact List.prefix_cons_inj piece |>.mpr (ih _)
      · exact List.nil_prefix

theorem IsLine.truncate (hs : IsLine s) (ht : IsLine t) (columns : Nat) :
    IsLine (truncate columns t s) := by
  rw [Text.truncate]
  split
  · exact hs
  · refine .append ?_ ht
    rw [IsLine, String.toList_ofList]
    intro hmem
    apply hs
    rw [← flatten_clusters s.toList]
    exact ((fitting_front _ _).flatten).subset hmem

end Lines

end Text

namespace ModuleReport

variable (m : ModuleReport)

/-- The number in the last cell of the row of a module; a dash is none. -/
def cellCount? (m : ModuleReport) : Option Nat :=
  m.metricsRow.getLast?.bind fun cell =>
    if cell.toList.all Char.isDigit then some (Number.natOfDigits cell.toList) else none

/-- What a report shows below its table about a module with a number of
findings. -/
def block (m : ModuleReport) (count : Nat) : List String :=
  if count = 0 then [] else "" :: m.name :: m.findings.map ("  " ++ ·)

theorem cellCount?_eq : m.cellCount? = if m.enabled then some m.violationCount else none := by
  have hdash : "-".toList.all Char.isDigit = false := by decide
  rw [cellCount?, metricsRow]
  cases m.enabled with
  | false =>
      simp only [Bool.false_eq_true, if_false, List.replicate_succ, List.replicate_zero,
        List.getLast?_cons_cons, List.getLast?_singleton, Option.bind_some, hdash]
  | true =>
      have hall : (Nat.toDigits 10 m.violationCount).all Char.isDigit = true :=
        List.all_eq_true.mpr fun c hc => Number.isDigit_of_mem_digits hc
      simp only [if_true, List.getLast?_cons_cons, List.getLast?_singleton, Option.bind_some,
        Nat.toString_eq_repr, Nat.toList_repr, hall, Number.natOfDigits_toDigits]

theorem hasViolations_iff : m.hasViolations = true ↔ m.violationCount ≠ 0 := by
  rw [← Bool.not_eq_false, Ne, Report.hasViolations_eq_false_iff, not_iff_not, violationCount]
  simp only [Nat.add_eq_zero_iff, List.length_eq_zero_iff, and_assoc]
  cases m.isTooDistant <;> simp

theorem findingsText_eq : m.findingsText = Text.ofLines (m.block (m.cellCount?.getD 0)) := by
  rw [findingsText, cellCount?_eq]
  cases m.enabled with
  | false => rfl
  | true =>
      by_cases hcount : m.violationCount = 0
      · have hquiet : m.hasViolations = false := by
          rw [← Bool.not_eq_true, hasViolations_iff, not_not, hcount]
        simp [hquiet, block, hcount, Text.ofLines]
      · have hfound : m.hasViolations = true := m.hasViolations_iff.mpr hcount
        simp only [hfound, block, hcount, Bool.and_self, if_true, if_false, Option.getD_some,
          Text.ofLines_cons, String.empty_append]
        rw [Text.ofLines, List.map_map]
        simp only [Function.comp_def, String.append_assoc]

/-- The line about the distance needs a limit besides the excess. -/
theorem length_findings (h : m.isTooDistant = true → m.maxDistance ≠ none) :
    m.findings.length = m.violationCount := by
  have hdistance : m.distanceFinding.length = if m.isTooDistant then 1 else 0 := by
    rw [distanceFinding]
    cases hlimit : m.maxDistance with
    | some limit => cases m.isTooDistant <;> rfl
    | none =>
        have hnear : m.isTooDistant = false := by
          by_contra hfar
          exact h (by simpa using hfar) hlimit
        simp [hnear]
  simp only [findings, violationCount, List.length_append, List.length_map, hdistance]

end ModuleReport

namespace Report

section Excess

variable [Matching] (g : Graph) (m : Module)

omit [Matching] in
theorem isPositive_overageOf (h : (overageOf g m).isPositive = true) :
    m.policy.maxDistance ≠ none := by
  intro hnone
  simp only [overageOf, hnone] at h
  exact absurd h (by decide)

theorem isTooDistant_entryOf (h : (entryOf g m).isTooDistant = true) :
    (entryOf g m).maxDistance ≠ none := by
  cases henabled : m.enabled with
  | false =>
      rw [entryOf_disabled g m henabled] at h
      cases h
  | true =>
      simp only [entryOf, henabled, if_true] at h ⊢
      exact isPositive_overageOf g m h

theorem cellCount?_entryOf : (entryOf g m).cellCount? =
    if (entryOf g m).enabled then some (entryOf g m).findings.length else none := by
  rw [ModuleReport.cellCount?_eq,
    ModuleReport.length_findings _ (isTooDistant_entryOf g m)]

theorem cellCount?_getD_entryOf :
    (entryOf g m).cellCount?.getD 0 = (entryOf g m).violationCount := by
  rw [ModuleReport.cellCount?_eq]
  cases henabled : (entryOf g m).enabled with
  | true => rfl
  | false =>
      have hquiet := hasViolations_entryOf_disabled g m henabled
      rw [← Bool.not_eq_true, ModuleReport.hasViolations_iff, not_not] at hquiet
      exact hquiet.symm

end Excess

section Totals

variable [Matching] (g : Graph) (root : String) (generatedAt : Timestamp)

theorem violations_build :
    (build g root generatedAt).summary.violations =
      (((build g root generatedAt).entries.map (·.violationCount)).sum : Nat) -
        (((build g root generatedAt).entries.map (·.cycles.length)).sum : Nat) +
        g.cycles.length := by
  simp only [summary_build, Summary.violations]
  generalize (build g root generatedAt).entries = entries
  have hsum : (entries.map (·.violationCount)).sum =
      (entries.map (·.illegalModules.length)).sum + (entries.map (·.forbidden.length)).sum +
        (entries.map (·.leaks.length)).sum + (entries.map (·.cycles.length)).sum +
        entries.countP (·.isTooDistant) := by
    induction entries with
    | nil => rfl
    | cons entry entries ih =>
        rw [List.map_cons, List.sum_cons, ih]
        simp only [List.map_cons, List.sum_cons, List.countP_cons, ModuleReport.violationCount]
        omega
  omega

end Totals

end Report

namespace Graph

/-- Neither the names of modules and units nor the paths of files have line
feeds. -/
structure HasPlainNames (g : Graph) : Prop where
  modules : ∀ m ∈ g.modules, Text.IsLine m.name
  units : ∀ u ∈ g.units, Text.IsLine u.name ∧ Text.IsLine u.file

section PlainNames

variable {g : Graph}

theorem mem_units_of_mem_unitsOf {ids : List Nat} {u : CodeUnit} (h : u ∈ g.unitsOf ids) :
    u ∈ g.units := by
  obtain ⟨id, -, hid⟩ := List.mem_filterMap.mp h
  exact Array.mem_of_getElem? hid

theorem mem_modules_of_mem_modulesAt {places : List Nat} {m : Module} (h : m ∈ g.modulesAt places) :
    m ∈ g.modules := by
  obtain ⟨i, -, hi⟩ := List.mem_filterMap.mp h
  exact Array.mem_of_getElem? hi

theorem mem_units_of_mem_illegalUnits [Matching] {m : Module} {onlyAllowed : Bool} {t : CodeUnit}
    (h : t ∈ g.illegalUnits m onlyAllowed) : t ∈ g.units := by
  obtain ⟨d, -, ht⟩ := List.mem_flatMap.mp h
  dsimp only at ht
  split at ht
  · cases ht
  · exact mem_units_of_mem_unitsOf (List.mem_filter.mp ht).1

end PlainNames

end Graph

namespace Report

section PlainNames

variable {g : Graph} (hg : g.HasPlainNames)

include hg

theorem isLine_violationText {m : Module} {targets : List CodeUnit}
    (htargets : ∀ t ∈ targets, t ∈ g.units) :
    ∀ v ∈ targets.flatMap (violationsOn g m), Text.IsLine (ModuleReport.violationText v) := by
  intro v hv
  obtain ⟨t, ht, hv⟩ := List.mem_flatMap.mp hv
  obtain ⟨u, hu, rfl⟩ := List.mem_map.mp hv
  have hsource := (hg.units u (Graph.mem_units_of_mem_unitsOf (List.mem_filter.mp hu).1)).1
  obtain ⟨htarget, hfile⟩ := hg.units t (htargets t ht)
  refine .append (.append (.append hsource (by decide)) htarget) ?_
  split
  · decide
  · exact .append (.append (by decide) hfile) (by decide)

theorem isLine_findings [Matching] (m : Module) :
    ∀ line ∈ (entryOf g m).findings, Text.IsLine line := by
  cases henabled : m.enabled with
  | false =>
      rw [entryOf_disabled g m henabled]
      exact fun _ hline => absurd hline List.not_mem_nil
  | true =>
      have htargets : ∀ (p : CodeUnit → Bool), ∀ t ∈ (g.illegalUnits m false).filter p,
          t ∈ g.units :=
        fun p t ht => Graph.mem_units_of_mem_illegalUnits (List.mem_filter.mp ht).1
      simp only [entryOf, henabled, if_true, ModuleReport.findings, List.mem_append, List.mem_map,
        List.partition_eq_filter_filter]
      rintro line ((((⟨name, ⟨d, hd, rfl⟩, rfl⟩ | ⟨v, hv, rfl⟩) | ⟨v, hv, rfl⟩) |
        ⟨names, ⟨c, hc, rfl⟩, rfl⟩) | hline)
      · refine .append (by decide) (hg.modules d ?_)
        exact Graph.mem_modules_of_mem_modulesAt (List.mem_filter.mp hd).1
      · exact .append (by decide) (isLine_violationText hg (htargets _) v hv)
      · exact .append (by decide) (isLine_violationText hg (htargets _) v hv)
      · refine .append (by decide) (.joinWith (by decide) ?_)
        rw [Option.getD_some, List.forall_mem_map]
        intro d hd
        obtain ⟨places, -, rfl⟩ := List.mem_map.mp hc
        exact hg.modules d (Graph.mem_modules_of_mem_modulesAt hd)
      · rw [ModuleReport.distanceFinding] at hline
        split at hline
        · split at hline
          · rw [List.mem_singleton.mp hline]
            refine .append (.append (.append (.append (.append ?_ ?_) ?_) ?_) ?_) ?_
            all_goals first | decide | exact Text.isLine_fixed _ _
          · cases hline
        · cases hline

theorem isLine_block [Matching] (m : Module) (hm : m ∈ g.modules) (count : Nat) :
    ∀ line ∈ (entryOf g m).block count, Text.IsLine line := by
  rw [ModuleReport.block]
  split
  · exact fun _ hline => absurd hline List.not_mem_nil
  · simp only [List.forall_mem_cons, List.forall_mem_map, entryOf_name]
    refine ⟨by decide, hg.modules m hm, fun line hline => ?_⟩
    exact .append (by decide) (isLine_findings hg m line hline)

end PlainNames

end Report

namespace Table

theorem foldl_max_ones (n k : Nat) : (List.replicate n 1).foldl max (k + 1) = k + 1 := by
  induction n with
  | zero => rfl
  | succ n ih => simpa [List.replicate_succ] using ih

theorem bodyRow_of_isLine {widths : List Nat} {alignments : List Alignment} {cells : List String}
    (hne : cells ≠ []) (hcells : ∀ cell ∈ cells, Text.IsLine cell) :
    bodyRow widths alignments cells =
      row ((widths.zip (alignments.zip cells)).map fun (w, a, cell) => aligned a w cell) := by
  have hlines : ∀ cell ∈ cells, Text.lines cell = [cell] := by
    intro cell hcell
    rw [Text.lines, Text.splitAt, List.splitOn_eq_singleton (hcells cell hcell), List.map_singleton,
      String.ofList_toList]
  have hheights : cells.map (fun cell => (Text.lines cell).length) =
      List.replicate cells.length 1 := by
    rw [List.eq_replicate_iff]
    refine ⟨List.length_map _, ?_⟩
    rw [List.forall_mem_map]
    intro cell hcell
    rw [hlines cell hcell, List.length_singleton]
  have hheight : (cells.map fun cell => (Text.lines cell).length).foldl max 0 = 1 := by
    obtain ⟨cell, rest, rfl⟩ := List.exists_cons_of_ne_nil hne
    rw [hheights]
    exact foldl_max_ones rest.length 0
  have hcolumns : (widths.zip (alignments.zip cells)).map (fun (w, a, cell) =>
      (filled 1 cell).map (aligned a w)) =
        (widths.zip (alignments.zip cells)).map fun (w, a, cell) => [aligned a w cell] := by
    refine List.map_congr_left ?_
    rintro ⟨w, a, cell⟩ hmem
    have hcell := (List.of_mem_zip (List.of_mem_zip hmem).2).2
    simp [filled, hlines cell hcell]
  rw [bodyRow]
  simp only [hheight]
  rw [hcolumns]
  simp [List.filterMap_map, String.join]

theorem row_ends (first last : String) {middle : List String} (hmiddle : middle ≠ []) :
    row (first :: (middle ++ [last])) =
      "  " ++ first ++ (" | " ++ Text.joinWith " | " middle ++ " |") ++ (" " ++ last) ++ "  " ++
        "\n" := by
  obtain ⟨next, rest, rfl⟩ := List.exists_cons_of_ne_nil hmiddle
  have hlast : Text.joinWith " | " (next :: rest ++ [last]) =
      Text.joinWith " | " (next :: rest) ++ " |" ++ (" " ++ last) := by
    rw [Text.joinWith, String.intercalate_append_of_ne_nil (List.cons_ne_nil _ _)
      (List.cons_ne_nil _ _), String.intercalate_singleton]
    simp only [String.append_assoc]
    rfl
  rw [row, List.cons_append, Text.joinWith, String.intercalate_cons_cons, ← List.cons_append,
    ← Text.joinWith, hlast]
  simp only [String.append_assoc]
  rfl

theorem suffix_aligned_right (columns : Nat) (cell : String) :
    (" " ++ cell).toList <:+ (" " ++ aligned .right columns cell).toList := by
  have hblank : [' '] <:+ ' ' :: List.replicate (columns - lineWidth cell) ' ' := by
    rw [← List.replicate_succ, List.replicate_succ']
    exact List.suffix_append _ _
  simpa [aligned, Text.blanks] using List.suffix_append_self_iff.mpr hblank

theorem isLine_aligned {cell : String} (h : Text.IsLine cell) (a : Alignment) (columns : Nat) :
    Text.IsLine (aligned a columns cell) := by
  have hblanks : ∀ n, Text.IsLine (Text.blanks n) := by
    intro n
    simp [Text.IsLine, Text.blanks]
  cases a with
  | left => exact h.append (hblanks _)
  | center => exact ((hblanks _).append h).append (hblanks _)
  | right => exact (hblanks _).append h

end Table

namespace ModuleReport

variable {m : ModuleReport}

theorem metricsRow_eq (m : ModuleReport) : ∃ middle : List String, middle.length = 6 ∧
    (∀ cell ∈ middle, Text.IsLine cell) ∧
    m.metricsRow = cellText m.name :: (middle ++ [m.cellCount?.elim "-" toString]) := by
  rw [metricsRow, cellCount?_eq]
  cases m.enabled with
  | false =>
      refine ⟨toString m.units :: List.replicate 5 "-", rfl, ?_, rfl⟩
      rw [List.forall_mem_cons]
      exact ⟨Text.isLine_toString _, by decide⟩
  | true =>
      refine ⟨_ :: ([_, _, _, _, _].map rateText), rfl, ?_, rfl⟩
      rw [List.forall_mem_cons, List.forall_mem_map]
      exact ⟨Text.isLine_toString _, fun x _ => Text.isLine_fixed 3 x⟩

/-- A line of a table that starts with the name of a module and ends with its
number of findings. -/
structure IsShownIn (m : ModuleReport) (line : String) : Prop where
  isLine : Text.IsLine line
  name : ("  " ++ cellText m.name).toList <+: line.toList
  count : (" " ++ m.cellCount?.elim "-" toString ++ "  ").toList <:+ line.toList

theorem exists_isShownIn {widths : List Nat} (hwidths : widths.length = 8)
    (hname : Text.IsLine m.name) : ∃ line, m.IsShownIn line ∧
      Table.bodyRow widths (.left :: List.replicate 7 .right) m.metricsRow = line ++ "\n" := by
  obtain ⟨middle, hlength, hmiddle, hrow⟩ := m.metricsRow_eq
  obtain ⟨first, ws, last, hws, rfl⟩ : ∃ first ws last, ws.length = 6 ∧
      widths = first :: (ws ++ [last]) := by
    obtain ⟨first, rest, rfl⟩ := List.exists_cons_of_length_eq_add_one hwidths
    have hrest : rest.length = 7 := by simpa using hwidths
    have hne : rest ≠ [] := List.ne_nil_of_length_eq_add_one hrest
    refine ⟨first, rest.dropLast, rest.getLast hne, ?_, by rw [List.dropLast_append_getLast]⟩
    rw [List.length_dropLast, hrest]
  have hcut : Text.IsLine (cellText m.name) := hname.truncate (by decide) _
  have hcount : Text.IsLine (m.cellCount?.elim "-" toString) := by
    cases m.cellCount? with
    | none => decide
    | some n => exact Text.isLine_toString n
  have hcells : ∀ cell ∈ m.metricsRow, Text.IsLine cell := by
    rw [hrow, List.forall_mem_cons, List.forall_mem_append, List.forall_mem_singleton]
    exact ⟨hcut, hmiddle, hcount⟩
  have hne : (ws.zip ((List.replicate 6 Alignment.right).zip middle)).map
      (fun (w, a, cell) => Table.aligned a w cell) ≠ [] := by
    simp [← List.length_pos_iff, hws, hlength]
  rw [Table.bodyRow_of_isLine (by simp [hrow]) hcells, hrow, List.replicate_succ',
    List.zip_cons_cons, List.zip_append (by simp [hlength]), List.zip_cons_cons,
    List.zip_append (by simp [hws, hlength]), List.map_cons, List.map_append]
  simp only [List.zip_cons_cons, List.zip_nil_right, List.map_cons, List.map_nil]
  rw [Table.row_ends _ _ hne]
  have hparts : ∀ l ∈ (ws.zip ((List.replicate 6 Alignment.right).zip middle)).map
      (fun (w, a, cell) => Table.aligned a w cell), Text.IsLine l := by
    rw [List.forall_mem_map]
    rintro ⟨w, a, cell⟩ hmem
    exact Table.isLine_aligned (hmiddle cell (List.of_mem_zip (List.of_mem_zip hmem).2).2) a w
  have hinner := (Text.IsLine.append (s := " | ") (by decide)
    (Text.IsLine.joinWith (s := " | ") (by decide) hparts)).append (t := " |") (by decide)
  have hstart := Text.IsLine.append (s := "  ") (by decide) (Table.isLine_aligned hcut .left first)
  have hfinish := Text.IsLine.append (s := " ") (by decide)
    (Table.isLine_aligned hcount .right last)
  refine ⟨_, ⟨((hstart.append hinner).append hfinish).append (by decide), ?_, ?_⟩, rfl⟩
  · simp only [Table.aligned, String.toList_append, List.append_assoc]
    exact (List.prefix_append_right_inj _).mpr (List.prefix_append _ _)
  · simp only [String.toList_append (s := " " ++ _), String.toList_append (t := "  ")]
    refine List.suffix_append_self_iff.mpr ((Table.suffix_aligned_right last _).trans ?_)
    rw [String.toList_append (t := " " ++ _)]
    exact List.suffix_append _ _

end ModuleReport

namespace Report

theorem selected_eq (r : Report) (only : List String) :
    r.selected only = r.entries.filter fun m => only.isEmpty || only.elem m.name := by
  rw [selected]
  cases only with
  | nil => simp
  | cons name only => simp

theorem join_findingsText (entries : List ModuleReport) :
    String.join (entries.map (·.findingsText)) =
      Text.ofLines (entries.flatMap fun m => m.block (m.cellCount?.getD 0)) := by
  induction entries with
  | nil => rfl
  | cons m entries ih =>
      rw [List.map_cons, String.join_cons, m.findingsText_eq, ih, List.flatMap_cons,
        Text.ofLines_append]

/-- The closing line starts with the total, unless there is none. -/
theorem exists_closing (s : Summary) : ∃ closing, Text.IsLine closing ∧
    s.text = Text.ofLines ["", closing] ∧
    (s.violations = 0 → ∃ sizes, closing = "No violations in " ++ sizes) ∧
    (s.violations ≠ 0 →
      ∃ counters, closing = toString s.violations ++ " violation(s): " ++ counters) := by
  have hlines : ∀ closing, Text.ofLines ["", closing] = "\n" ++ closing ++ "\n" := by
    intro closing
    simp only [Text.ofLines_cons, String.empty_append, String.append_assoc]
    rfl
  have hfront : "\nNo violations in " = "\n" ++ "No violations in " := by decide
  have hback : " unit(s)\n" = " unit(s)" ++ "\n" := by decide
  have hback' : " distance overages\n" = " distance overages" ++ "\n" := by decide
  simp only [hlines, Summary.text, hfront, hback, hback']
  split_ifs with hzero
  · refine ⟨"No violations in " ++ (toString s.modules ++ " module(s), " ++ toString s.units ++
      " unit(s)"), ?_, by simp only [String.append_assoc], fun _ => ⟨_, rfl⟩,
      fun hne => absurd hzero hne⟩
    refine .append (by decide) (.append (.append (.append ?_ ?_) ?_) ?_)
    all_goals first | decide | exact Text.isLine_toString _
  · refine ⟨toString s.violations ++ " violation(s): " ++
      (toString s.illegalModules ++ " illegal module dependencies, " ++ toString s.forbidden ++
        " forbidden units, " ++ toString s.leaks ++ " private leaks, " ++ toString s.cycles ++
        " cycles, " ++ toString s.distanceOverages ++ " distance overages"),
      ?_, by simp only [String.append_assoc], fun heq => absurd heq hzero, fun _ => ⟨_, rfl⟩⟩
    refine .append (.append ?_ ?_) (.append (.append (.append (.append (.append (.append (.append
      (.append (.append ?_ ?_) ?_) ?_) ?_) ?_) ?_) ?_) ?_) ?_)
    all_goals first | decide | exact Text.isLine_toString _

section Printing

variable [Matching]

theorem exists_rows {g : Graph} (hg : g.HasPlainNames) {chosen : List ModuleReport}
    (hchosen : ∀ entry ∈ chosen, ∃ m ∈ g.modules, entryOf g m = entry) {widths : List Nat}
    (hwidths : widths.length = 8) :
    ∃ rows, List.Forall₂ ModuleReport.IsShownIn chosen rows ∧
      String.join ((chosen.map (·.metricsRow)).map
        (Table.bodyRow widths (.left :: List.replicate 7 .right))) = Text.ofLines rows := by
  induction chosen with
  | nil => exact ⟨[], .nil, rfl⟩
  | cons entry chosen ih =>
      obtain ⟨⟨m, hm, rfl⟩, hrest⟩ := List.forall_mem_cons.mp hchosen
      obtain ⟨rows, hrows, htext⟩ := ih hrest
      have hname : Text.IsLine (entryOf g m).name := (entryOf_name g m).symm ▸ hg.modules m hm
      obtain ⟨row, hrow, htext'⟩ := ModuleReport.exists_isShownIn hwidths hname
      refine ⟨row :: rows, .cons hrow hrows, ?_⟩
      rw [List.map_cons, List.map_cons, String.join_cons, htext, htext', Text.ofLines_cons]

/-- What is printed below the table agrees with the last column of it. The
chosen modules are shown in the order of the report; a module has a heading
only if there is something to put under it, and then as many lines as the cell
says. The total adds up the cells of all modules, with every cycle taken once.
If no name has line feeds, all this can be read off the printed lines. -/
theorem render_agrees_with_cells (g : Graph) (root : String) (generatedAt : Timestamp)
    (only : List String) :
    let r := build g root generatedAt
    let chosen := r.entries.filter fun m => only.isEmpty || only.elem m.name
    let t := metricsTable chosen
    let below := chosen.flatMap fun m => m.block (m.cellCount?.getD 0)
    let total : Int := ((r.entries.map fun m => m.cellCount?.getD 0).sum : Nat) -
      ((r.entries.map (·.cycles.length)).sum : Nat) + g.cycles.length
    ∃ closing,
      r.render only = (if root.isEmpty then "" else "Architecture of " ++ root ++ "\n\n") ++
        t.render ++ Text.ofLines (below ++ ["", closing]) ∧
      t.rows = chosen.map (·.metricsRow) ∧
      (∀ m ∈ chosen, m.cellCount? = if m.enabled then some m.findings.length else none) ∧
      (total = 0 → ∃ sizes, closing = "No violations in " ++ sizes) ∧
      (total ≠ 0 → ∃ counters, closing = toString total ++ " violation(s): " ++ counters) ∧
      (g.HasPlainNames →
        Text.lines (Text.ofLines (below ++ ["", closing])) = below ++ ["", closing, ""] ∧
        ∃ rows, List.Forall₂ ModuleReport.IsShownIn chosen rows ∧
          t.render = Table.headingLine t.columnWidths t.heading ++ Table.rule t.columnWidths ++
            Text.ofLines rows ++ Table.rule t.columnWidths ++
            Table.footingLine t.columnWidths t.footing ++ Table.rule t.columnWidths) := by
  intro r chosen t below total
  have hentry : ∀ entry ∈ r.entries, ∃ m ∈ g.modules, entryOf g m = entry := by
    intro entry hentry
    obtain ⟨m, hm, -, hentry⟩ := mem_entries.mp hentry
    exact ⟨m, hm, hentry⟩
  have hchosen : ∀ entry ∈ chosen, ∃ m ∈ g.modules, entryOf g m = entry :=
    fun entry hmem => hentry entry (List.mem_filter.mp hmem).1
  have hcells : r.entries.map (fun m => m.cellCount?.getD 0) =
      r.entries.map (·.violationCount) := by
    refine List.map_congr_left fun entry hmem => ?_
    obtain ⟨m, -, rfl⟩ := hentry entry hmem
    exact cellCount?_getD_entryOf g m
  have htotal : r.summary.violations = total := by
    rw [violations_build]
    simp only [total, hcells, r]
  obtain ⟨closing, hclosing, htext, hnone, hsome⟩ := exists_closing r.summary
  rw [htotal] at hnone hsome
  refine ⟨closing, ?_, rfl, ?_, hnone, hsome, ?_⟩
  · rw [Text.ofLines_append, ← htext, ← join_findingsText, render, selected_eq]
    simp only [String.append_assoc]
    rfl
  · intro entry hmem
    obtain ⟨m, -, rfl⟩ := hchosen entry hmem
    exact cellCount?_entryOf g m
  · intro hg
    have hbelow : ∀ line ∈ below, Text.IsLine line := by
      intro line hline
      obtain ⟨entry, hmem, hline⟩ := List.mem_flatMap.mp hline
      obtain ⟨m, hm, rfl⟩ := hchosen entry hmem
      exact isLine_block hg m hm _ line hline
    refine ⟨?_, ?_⟩
    · rw [Text.lines_ofLines]
      · simp
      · rw [List.forall_mem_append]
        exact ⟨hbelow, by simpa [Text.IsLine] using hclosing⟩
    · have hwidths : t.columnWidths.length = 8 := rfl
      obtain ⟨rows, hrows, hjoin⟩ := exists_rows hg hchosen hwidths
      refine ⟨rows, hrows, ?_⟩
      rw [← hjoin]
      rfl

end Printing

theorem render_agrees_with_cells_oneService :
    Graph.oneService.HasPlainNames ∧ ∃ closing counters,
      closing = "1 violation(s): " ++ counters ∧
      Text.lines (Text.ofLines
        ["", "concrete", "  distance 1.000 exceeds 0.300 by 0.700", "", closing]) =
          ["", "concrete", "  distance 1.000 exceeds 0.300 by 0.700", "", closing, ""] := by
  have hplain : Graph.oneService.HasPlainNames := ⟨by decide +kernel, by decide +kernel⟩
  have hbelow : ((build Graph.oneService "" {}).entries.filter fun _ => true).flatMap
      (fun m => m.block (m.cellCount?.getD 0)) =
        ["", "concrete", "  distance 1.000 exceeds 0.300 by 0.700"] := by decide +kernel
  have htotal : ((((build Graph.oneService "" {}).entries.map fun m => m.cellCount?.getD 0).sum :
      Nat) : Int) - (((build Graph.oneService "" {}).entries.map (·.cycles.length)).sum : Nat) +
        Graph.oneService.cycles.length = 1 := by decide +kernel
  obtain ⟨closing, -, -, -, -, hsome, hlines⟩ :=
    render_agrees_with_cells Graph.oneService "" {} []
  obtain ⟨counters, hclosing⟩ := hsome (by rw [htotal]; decide)
  rw [htotal] at hclosing
  obtain ⟨hlines, -⟩ := hlines hplain
  refine ⟨hplain, closing, counters, hclosing, ?_⟩
  simp only [List.isEmpty_nil, Bool.true_or, hbelow] at hlines
  exact hlines

end Report

end ArchLint
