import ArchLint.Proofs.Removal
import ArchLint.Proofs.ReportJson
import ArchLint.Proofs.ReportYaml
import ArchLint.Rendering

/-!
A directory of reports holds the report that was saved last. The file in the
other format is taken away, so that the path of the file and the path of the
directory load the same report.
-/

namespace ArchLint

theorem ModuleReport.metricsRow_present (m : ModuleReport) :
    m.present.metricsRow = m.metricsRow := by
  have hcount : m.present.violationCount = m.violationCount := by
    rw [violationCount, violationCount, present, List.length_map]
    rfl
  rw [metricsRow, metricsRow, hcount]
  rfl

theorem ModuleReport.findingsText_present (m : ModuleReport) :
    m.present.findingsText = m.findingsText := by
  have hfindings : m.present.findings = m.findings := by
    simp only [findings, present, List.map_map, Function.comp_def, Option.getD_some]
    rfl
  have hviolations : m.present.hasViolations = m.hasViolations := by
    simp only [hasViolations, present, List.isEmpty_map]
    rfl
  rw [findingsText, findingsText, hfindings, hviolations]
  rfl

theorem Report.entries_present (r : Report) :
    r.present.entries = r.entries.map ModuleReport.present :=
  rfl

theorem Report.present_present (r : Report) : r.present.present = r.present := by
  have hentry : ∀ m : ModuleReport, m.present.present = m.present := by
    intro m
    simp [ModuleReport.present, Function.comp_def]
  simp [Report.present, Report.entries, Function.comp_def, hentry]

theorem Report.render_present (r : Report) (only : List String) :
    r.present.render only = r.render only := by
  have hselected : r.present.selected only = (r.selected only).map ModuleReport.present := by
    rw [selected, selected, entries_present]
    split_ifs
    · rfl
    · rw [List.filter_map]
      rfl
  have htable : ∀ entries : List ModuleReport,
      metricsTable (entries.map ModuleReport.present) = metricsTable entries := by
    intro entries
    simp only [metricsTable, total, List.map_map, List.length_map, Function.comp_def,
      ModuleReport.metricsRow_present]
    rfl
  simp only [render, hselected, htable, List.map_map, Function.comp_def,
    ModuleReport.findingsText_present]
  rfl

def ReportFormat.fileName (format : ReportFormat) : String :=
  "report." ++ format.extension

theorem ReportFormat.isName_fileName (format : ReportFormat) :
    SlashPath.IsName format.fileName := by
  cases format <;> exact ⟨⟨by decide, by decide⟩, by decide, by decide, by decide⟩

theorem ReportFormat.fileName_other_ne (format : ReportFormat) :
    format.other.fileName ≠ format.fileName := by
  cases format <;> decide

def ReportFormat.read? : ReportFormat → String → Option Report
  | .yaml => Report.ofYamlText?
  | .json => Report.ofJsonText?

/-- The counters of a report fit into a word, and its time is universal. -/
structure Report.IsInRange (r : Report) : Prop where
  time : r.generatedAt.IsUniversal
  integers : ∀ n ∈ r.integers, Number.isInt64 n = true

/-- What is asked of the codec of a format: it reads the tree of a report from
the text of the tree, and finite numbers from their texts. -/
def ReportFormat.Restores (format : ReportFormat) (r : Report) : Prop :=
  match format with
  | .yaml =>
      (∃ n, Yaml.Node.ofText? r.yamlText = some (some n) ∧ r.toYaml.agrees n = true) ∧
        ∀ x ∈ r.entries.flatMap ReportStore.numbersOf, x.isFinite = true →
          Yaml.updateFloat .zero (.ofBinary64 x) = some x
  | .json =>
      Json.ofText? r.jsonText = some r.toJson ∧
        ∀ x ∈ r.entries.flatMap ReportStore.numbersOf, x.isFinite = true →
          Json.updateFloat .zero (.ofBinary64 x) = some x

namespace ReportStore

variable {d d' : Disk} {place : Place} {directory path text : String} {format : ReportFormat}

/-- A directory with a report in one format, and none in the other. -/
structure Holds (d : Disk) (place : Place) (format : ReportFormat) (text : String) : Prop where
  directory : d.find? place = some .directory
  report : d.find? (place ++ [format.fileName]) = some (.file (Text.toBytes text))
  alone : d.find? (place ++ [format.other.fileName]) = none

theorem locate_fileIn (hnode : d.nodeAt directory = .ok (place, .directory))
    (format : ReportFormat) :
    d.locate (fileIn directory format) = .ok (place ++ [format.fileName]) := by
  obtain ⟨hlocate, hdirectory⟩ := Disk.nodeAt_eq_ok hnode
  exact Disk.locate_join hlocate hdirectory format.isName_fileName

theorem removeStale_eq_ok (hnode : d.nodeAt directory = .ok (place, .directory))
    (h : removeStale d directory format = .ok d') :
    d'.find? (place ++ [format.other.fileName]) = none ∧
      (∀ q, ¬place ++ [format.other.fileName] <+: q → d'.find? q = d.find? q) ∧
      d'.workingDirectory = d.workingDirectory := by
  unfold removeStale at h
  rcases Disk.remove_cases (locate_fileIn hnode format.other) (by simp) with
    ⟨cleared, hremove, hgone, hsame, hworking⟩ | ⟨fault, hremove, hgone⟩
  · rw [hremove] at h
    cases h
    exact ⟨hgone, hsame, hworking⟩
  · rw [hremove] at h
    dsimp only at h
    split_ifs at h with hcause
    cases h
    exact ⟨hgone hcause, fun q _ => rfl, rfl⟩

theorem place_eq_ok (hnode : d.nodeAt directory = .ok (place, .directory))
    (h : ReportStore.place d directory text format = (.ok path, d')) :
    path = fileIn directory format ∧ Holds d' place format text ∧
      d'.locate path = .ok (place ++ [format.fileName]) ∧
      d'.exists? (fileIn directory format.other) = false ∧
      (¬[format.other.fileName, ".."].Sublist (SlashPath.segments directory) →
        d'.locate directory = .ok place) := by
  obtain ⟨hlocate, hdirectory⟩ := Disk.nodeAt_eq_ok hnode
  have hjoin := locate_fileIn hnode
  unfold ReportStore.place at h
  split at h
  next => cases h
  next cleared hcleared =>
    obtain ⟨hgone, hsame, hworking⟩ := removeStale_eq_ok hnode hcleared
    dsimp only at h
    split at h
    next => cases h
    next written hwrite =>
      cases h
      obtain ⟨file, hfile, hfree, rfl⟩ := Disk.write_eq_ok hwrite
      obtain rfl := Disk.locate_unique hworking (hjoin format) hfile
      have hworking' : (cleared.put (place ++ [format.fileName])
          (.file (Text.toBytes text))).workingDirectory = d.workingDirectory := hworking
      have hholds : Holds (cleared.put (place ++ [format.fileName]) (.file (Text.toBytes text)))
          place format text :=
        { directory := by
            rw [Disk.find?_put_of_ne (by simp), hsame place (Disk.not_below_itself _ _),
              hdirectory]
          report := Disk.find?_put_self (by simp)
          alone := by
            rw [Disk.find?_put_of_ne (by simpa using format.fileName_other_ne), hgone] }
      refine ⟨rfl, hholds, Disk.locate_put hfile hfree, ?_, fun hpath => ?_⟩
      · refine Disk.exists?_eq_false fun q hq => ?_
        rw [← Disk.locate_unique hworking' (hjoin format.other) hq]
        exact hholds.alone
      · have hempty := (Disk.locate_eq_ok hlocate).1
        have hrooted : SlashPath.isAbsolute (fileIn directory format) =
            SlashPath.isAbsolute directory := by
          rw [fileIn, SlashPath.join_two hempty (by simp), SlashPath.isAbsolute_clean,
            String.append_assoc, SlashPath.isAbsolute_append hempty]
        exact Disk.locate_put
          (Disk.locate_without hlocate hgone hsame hworking hpath hfile hrooted) hfree

theorem save_eq_ok {r : Report} {formatName : String}
    (h : save d directory r formatName = (.ok path, d')) :
    ∃ format text place, ReportFormat.ofName? formatName = some format ∧
      encode r format = .ok text ∧ directory ≠ "" ∧ path = fileIn directory format ∧
      Holds d' place format text ∧ d'.locate path = .ok (place ++ [format.fileName]) ∧
      d'.exists? (fileIn directory format.other) = false ∧
      (¬[format.other.fileName, ".."].Sublist (SlashPath.segments directory) →
        d'.locate directory = .ok place) := by
  unfold save at h
  split at h
  next => cases h
  next format hformat =>
    split at h
    next => cases h
    next => cases h
    next text made hencode hmade =>
      obtain ⟨place, hnode⟩ := Disk.nodeAt_makeDirectories hmade
      have hempty := (Disk.locate_eq_ok (Disk.nodeAt_eq_ok hnode).1).1
      exact ⟨format, text, place, hformat, hencode, hempty, place_eq_ok hnode h⟩

theorem decode?_fileIn (hdirectory : directory ≠ "") (format : ReportFormat) (text : String) :
    decode? (fileIn directory format) (Text.toBytes text) = format.read? text := by
  have hlast : SlashPath.lastSegment (fileIn directory format) = format.fileName :=
    SlashPath.lastSegment_join hdirectory format.isName_fileName
  rw [decode?, SlashPath.extension, hlast]
  cases format with
  | yaml =>
      rw [if_neg (by decide)]
      simp [ReportFormat.read?]
  | json =>
      rw [if_pos (by decide)]
      simp [ReportFormat.read?]

theorem load_of_fileOf {r : Report} {q : String} (hdirectory : directory ≠ "")
    (hfile : fileOf d q = .ok (fileIn directory format))
    (hnode : d.nodeAt (fileIn directory format) = .ok (place, .file (Text.toBytes text)))
    (hread : format.read? text = some r) : load d q = .ok r := by
  simp only [load, hfile, bind, Except.bind, Disk.read_of_nodeAt hnode, Except.mapError,
    decode?_fileIn hdirectory, hread]

theorem Holds.load_file {r : Report} (h : Holds d place format text) (hdirectory : directory ≠ "")
    (hlocate : d.locate (fileIn directory format) = .ok (place ++ [format.fileName]))
    (hread : format.read? text = some r) : load d (fileIn directory format) = .ok r := by
  have hnode := Disk.nodeAt_of_locate hlocate h.report
  refine load_of_fileOf hdirectory ?_ hnode hread
  simp only [fileOf, Disk.stat_of_nodeAt hnode]

theorem Holds.load_directory {r : Report} (h : Holds d place format text)
    (hlocate : d.locate path = .ok place) (hread : format.read? text = some r) :
    load d path = .ok r := by
  have hjoin := locate_fileIn (Disk.nodeAt_of_locate hlocate h.directory)
  have hnode := Disk.nodeAt_of_locate (hjoin format) h.report
  have hother : d.exists? (fileIn path format.other) = false := by
    refine Disk.exists?_eq_false fun q hq => ?_
    rw [← Disk.locate_unique rfl (hjoin format.other) hq]
    exact h.alone
  refine load_of_fileOf (Disk.locate_eq_ok hlocate).1 ?_ hnode hread
  have hstat := Disk.stat_of_nodeAt (Disk.nodeAt_of_locate hlocate h.directory)
  have hexists := Disk.exists?_of_nodeAt hnode
  cases format with
  | yaml => simp only [fileOf, hstat, List.find?_cons, hexists]
  | json =>
      rw [ReportFormat.other] at hother
      simp only [fileOf, hstat, List.find?_cons, hexists, hother]

/-- The text of a report that is saved gives the report back, up to lists that
are absent instead of empty. -/
theorem exists_read?_of_encode {r : Report} (hrange : r.IsInRange) (hcodec : format.Restores r)
    (hencode : encode r format = .ok text) :
    ∃ loaded, format.read? text = some loaded ∧ loaded.present = r.present := by
  cases format with
  | yaml =>
      obtain rfl : r.yamlText = text := Except.ok.inj hencode
      obtain ⟨⟨n, htree, hagrees⟩, hfinite⟩ := hcodec
      have hnumbers : ∀ x ∈ r.entries.flatMap numbersOf,
          Yaml.updateFloat .zero (.ofBinary64 x) = some x := by
        intro x hx
        cases x with
        | finite negative mantissa exponent => exact hfinite _ hx rfl
        | infinite negative => cases negative <;> decide
        | notANumber => decide
      refine ⟨r.present, ?_, r.present_present⟩
      simp only [ReportFormat.read?, Report.ofYamlText?, htree, Option.bind_some,
        Report.updateFields_of_agrees hrange.time hrange.integers hnumbers hagrees]
  | json =>
      obtain ⟨htree, hfinite⟩ := hcodec
      rw [encode] at hencode
      split at hencode
      next => cases hencode
      next hnone =>
        cases hencode
        have hnumbers : ∀ x ∈ r.entries.flatMap numbersOf,
            Json.updateFloat .zero (.ofBinary64 x) = some x := by
          intro x hx
          exact hfinite x hx (by simpa using List.find?_eq_none.mp hnone x hx)
        refine ⟨r, ?_, rfl⟩
        simp only [ReportFormat.read?, Report.ofJsonText?, htree, Option.bind_some,
          Report.ofJson?_toJson hrange.time hrange.integers hnumbers]

/-- A path loads a report, up to lists that are absent instead of empty. The
switches, metrics and limits of its modules are the same, and so is the text of
every choice of modules. -/
def Loads (d : Disk) (path : String) (r : Report) : Prop :=
  ∃ loaded, load d path = .ok loaded ∧ loaded.present = r.present ∧
    (loaded.entries.map fun m => (m.enabled, m.metrics, m.maxDistance)) =
      (r.entries.map fun m => (m.enabled, m.metrics, m.maxDistance)) ∧
    ∀ only, loaded.render only = r.render only

theorem loads_of_present {r loaded : Report} (hload : load d path = .ok loaded)
    (hpresent : loaded.present = r.present) : Loads d path r := by
  refine ⟨loaded, hload, hpresent, ?_, fun only => ?_⟩
  · have hentries := congrArg Report.entries hpresent
    rw [Report.entries_present, Report.entries_present] at hentries
    have hsame := congrArg (List.map fun m : ModuleReport => (m.enabled, m.metrics, m.maxDistance))
      hentries
    rw [List.map_map, List.map_map] at hsame
    exact hsame
  · rw [← loaded.render_present, hpresent, r.render_present]

/-- A save that succeeds leaves one report, which the path of its file and the
paths of its directory load. -/
theorem loads_of_save {r : Report} {formatName : String} (hrange : r.IsInRange)
    (hcodec : ∀ f ∈ ReportFormat.ofName? formatName, f.Restores r)
    (h : save d directory r formatName = (.ok path, d')) :
    ∃ format ∈ ReportFormat.ofName? formatName, path = fileIn directory format ∧
      d'.exists? path = true ∧ d'.exists? (fileIn directory format.other) = false ∧
      Loads d' path r ∧ Loads d' (SlashPath.dir path) r ∧
      (¬[format.other.fileName, ".."].Sublist (SlashPath.segments directory) →
        Loads d' directory r) := by
  obtain ⟨format, text, place, hformat, hencode, hempty, rfl, hholds, hlocate, hother, hpath⟩ :=
    save_eq_ok h
  obtain ⟨loaded, hread, hpresent⟩ :=
    exists_read?_of_encode hrange (hcodec format hformat) hencode
  have hparent : d'.locate (SlashPath.dir (fileIn directory format)) = .ok place := by
    obtain ⟨parent, hnode, hfollow⟩ := Disk.locate_dir hlocate
    obtain ⟨hdir, hdirectory⟩ := Disk.nodeAt_eq_ok hnode
    have hname := format.isName_fileName
    have hlast : SlashPath.lastSegment (fileIn directory format) = format.fileName :=
      SlashPath.lastSegment_join hempty hname
    rw [hlast, Disk.follow_name hdirectory hname.isElement.1 hname.ne_dot hname.ne_up] at hfollow
    obtain rfl := List.append_cancel_right (Except.ok.inj hfollow)
    exact hdir
  exact ⟨format, hformat, rfl, Disk.exists?_of_nodeAt (Disk.nodeAt_of_locate hlocate hholds.report),
    hother, loads_of_present (hholds.load_file hempty hlocate hread) hpresent,
    loads_of_present (hholds.load_directory hparent hread) hpresent,
    fun hdown => loads_of_present (hholds.load_directory (hpath hdown) hread) hpresent⟩

/-- Saves reports into a directory, one after the other. A call is a report and
the name of a format, and a result has the disk afterwards. -/
def saveAll (directory : String) : Disk → List (Report × String) →
    List (Except SaveFault String × Disk)
  | _, [] => []
  | d, call :: calls =>
      let result := save d directory call.1 call.2
      result :: saveAll directory result.2 calls

/-- A directory holds the report that was saved last, in one format. The path of
its file loads it, and so does the path of the directory, unless that goes
through a directory named like a report in the other format and up again. -/
theorem saveAll_holds_last {directory path formatName : String} {d after : Disk} {r : Report}
    {calls : List (Report × String)}
    (hcall : ((r, formatName), (.ok path, after)) ∈ calls.zip (saveAll directory d calls))
    (hrange : r.IsInRange) (hcodec : ∀ f ∈ ReportFormat.ofName? formatName, f.Restores r) :
    ∃ format ∈ ReportFormat.ofName? formatName, path = fileIn directory format ∧
      after.exists? path = true ∧ after.exists? (fileIn directory format.other) = false ∧
      Loads after path r ∧ Loads after (SlashPath.dir path) r ∧
      (¬[format.other.fileName, ".."].Sublist (SlashPath.segments directory) →
        Loads after directory r) := by
  induction calls generalizing d with
  | nil => cases hcall
  | cons call calls ih =>
      rw [saveAll, List.zip_cons_cons, List.mem_cons] at hcall
      rcases hcall with hcall | hcall
      · obtain ⟨rfl, hsave⟩ := Prod.mk.inj hcall
        exact loads_of_save hrange hcodec hsave.symm
      · exact ih hcall

/-- A module with a limit of zero, which it does not exceed. -/
def limited : Report :=
  { version := 1, root := "/p"
    modules := some [{ name := "core", enabled := true, units := 2, maxDistance := some .zero }]
    summary := { modules := 1, units := 2 } }

/-- A module that is disabled and has no limit. -/
def unlimited : Report :=
  { version := 1, root := "/p", modules := some [{ name := "core" }], summary := { modules := 1 } }

theorem restores_limited : ReportFormat.yaml.Restores limited := by
  constructor
  · have hread : ((Yaml.Node.ofText? limited.yamlText).join.any
        fun n => limited.toYaml.agrees n) = true := by
      rw [Yaml.Node.ofText?, Report.yamlText, Yaml.Node.document, String.toList_ofList]
      decide +kernel
    obtain ⟨n, hn, hagrees⟩ := (Option.any_eq_true _ _).mp hread
    exact ⟨n, Option.join_eq_some_iff.mp hn, hagrees⟩
  · decide

theorem jsonText_unlimited : unlimited.jsonText = "\x7b
  \"version\": 1,
  \"root\": \"/p\",
  \"generated_at\": \"0001-01-01T00:00:00Z\",
  \"modules\": [
    \x7b
      \"name\": \"core\",
      \"enabled\": false,
      \"units\": 0,
      \"metrics\": \x7b
        \"abstractness\": 0,
        \"instability\": 0,
        \"distance\": 0,
        \"distance_overage\": 0,
        \"primitiveness\": 0
      \x7d
    \x7d
  ],
  \"summary\": \x7b
    \"modules\": 1,
    \"units\": 0,
    \"illegal_modules\": 0,
    \"forbidden_dependencies\": 0,
    \"private_leaks\": 0,
    \"cycles\": 0,
    \"distance_overages\": 0
  \x7d
\x7d
" := by
  decide +kernel

set_option maxRecDepth 4000 in
theorem restores_unlimited : ReportFormat.json.Restores unlimited := by
  constructor
  · rw [jsonText_unlimited]
    exact Json.ofText?_of_readValue rfl rfl
  · decide

theorem saveAll_holds_last_mixed :
    let first := save {} "out" limited " YML "
    let second := save first.2 "out" unlimited "JSON"
    first.1 = .ok "out/report.yaml" ∧ Loads first.2 "out" limited ∧
      second.1 = .ok "out/report.json" ∧ second.2.exists? "out/report.yaml" = false ∧
      Loads second.2 "out" unlimited := by
  intro first second
  have hfirst : first = (.ok "out/report.yaml", first.2) := Prod.ext (by decide +kernel) rfl
  have hsecond : second = (.ok "out/report.json", second.2) := Prod.ext (by decide +kernel) rfl
  have hzip : [(limited, " YML "), (unlimited, "JSON")].zip
      (saveAll "out" {} [(limited, " YML "), (unlimited, "JSON")]) =
        [((limited, " YML "), (.ok "out/report.yaml", first.2)),
          ((unlimited, "JSON"), (.ok "out/report.json", second.2))] := by
    rw [← hfirst, ← hsecond]
    rfl
  have hyaml : ReportFormat.ofName? " YML " = some .yaml := by decide
  have hjson : ReportFormat.ofName? "JSON" = some .json := by decide
  obtain ⟨format, hformat, -, -, -, -, -, hload⟩ :=
    saveAll_holds_last (hzip ▸ List.mem_cons_self)
      ⟨⟨by decide, by decide, by decide, by decide⟩, by decide⟩ (by
        rw [hyaml]
        rintro f ⟨⟩
        exact restores_limited)
  rw [hyaml] at hformat
  cases hformat
  obtain ⟨format, hformat, -, -, hother, -, -, hload'⟩ :=
    saveAll_holds_last (hzip ▸ List.mem_cons_of_mem _ List.mem_cons_self)
      ⟨⟨by decide, by decide, by decide, by decide⟩, by decide⟩ (by
        rw [hjson]
        rintro f ⟨⟩
        exact restores_unlimited)
  rw [hjson] at hformat
  cases hformat
  exact ⟨congrArg Prod.fst hfirst, hload (by decide), congrArg Prod.fst hsecond, hother,
    hload' (by decide)⟩

/-- A path through a directory that is named like a report in the other format
leads nowhere after a save, because the directory is taken away as well. -/
theorem save_takes_directory_away :
    let saved := save {} "a/report.json/.." {} "yaml"
    saved.1 = .ok "a/report.yaml" ∧
      load saved.2 "a/report.json/.." = .error (.notFound "a/report.json/..") := by
  decide +kernel

end ReportStore

end ArchLint
