import ArchLint.Proofs.SavedReports
import ArchLint.Proofs.Trees

namespace ArchLint

namespace ReportStore

variable {d d' : Disk} {place : Place} {directory path text : String} {format : ReportFormat}

theorem load_congr (hnode : d'.nodeAt path = d.nodeAt path)
    (hfile : ∀ place, d.nodeAt path ≠ .ok (place, .directory)) : load d' path = load d path := by
  have hstat : d'.stat path = d.stat path := by rw [Disk.stat, Disk.stat, hnode]
  have hread : d'.read path = d.read path := by rw [Disk.read, Disk.read, hnode]
  have hself : ∀ file, fileOf d path = .ok file → file = path := by
    intro file hof
    rw [fileOf] at hof
    split at hof
    next => cases hof
    next =>
      cases hof
      rfl
    next hdirectory =>
      obtain ⟨place, hplace⟩ := Disk.nodeAt_of_stat (by rw [hdirectory, Except.toOption])
      exact absurd hplace (hfile place)
  have hof : fileOf d' path = fileOf d path := by
    rw [fileOf, fileOf, hstat]
    split
    next => rfl
    next => rfl
    next hdirectory =>
      obtain ⟨place, hplace⟩ := Disk.nodeAt_of_stat (by rw [hdirectory, Except.toOption])
      exact absurd hplace (hfile place)
  rw [load, load, hof]
  cases hpath : fileOf d path with
  | error fault => rfl
  | ok file =>
      obtain rfl := hself file hpath
      simp only [bind, Except.bind, hread]

theorem load_of_directory (hfile : fileOf d directory = .ok path)
    (hnode : d.nodeAt path = .ok (place, .directory)) :
    load d directory = .error (.read ⟨"read", path, .isDirectory⟩) := by
  simp only [load, hfile, bind, Except.bind, Disk.read, hnode, Except.mapError]

theorem fileOf_directory (hnode : d.nodeAt directory = .ok (place, .directory)) :
    (d.find? (place ++ [ReportFormat.yaml.fileName]) ≠ none →
      fileOf d directory = .ok (fileIn directory .yaml)) ∧
    (d.find? (place ++ [ReportFormat.yaml.fileName]) = none →
      d.find? (place ++ [ReportFormat.json.fileName]) ≠ none →
      fileOf d directory = .ok (fileIn directory .json)) := by
  have hjoin := locate_fileIn hnode
  have hexists : ∀ f : ReportFormat, d.find? (place ++ [f.fileName]) ≠ none →
      d.exists? (fileIn directory f) = true := by
    intro f hf
    obtain ⟨node, hfind⟩ := Option.ne_none_iff_exists'.mp hf
    exact Disk.exists?_of_nodeAt (Disk.nodeAt_of_locate (hjoin f) hfind)
  have hstat := Disk.stat_of_nodeAt hnode
  refine ⟨fun hyaml => ?_, fun hyaml hjson => ?_⟩
  · simp only [fileOf, hstat, List.find?_cons, hexists .yaml hyaml]
  · have hnone : d.exists? (fileIn directory .yaml) = false := by
      refine Disk.exists?_eq_false fun q hq => ?_
      rw [hjoin] at hq
      cases hq
      exact hyaml
    simp only [fileOf, hstat, List.find?_cons, hnone, hexists .json hjson]

theorem write_eq_error {content : ByteArray} {fault : DiskFault}
    (hlocate : d.locate path = .ok place) (h : d.write path content = .error fault) :
    d.find? place = some .directory ∧ fault = ⟨"open", path, .isDirectory⟩ := by
  simp only [Disk.write, Disk.during, hlocate, bind, Except.bind] at h
  split at h
  next hdirectory =>
    cases h
    exact ⟨hdirectory, rfl⟩
  next => cases h

/-- A directory in which a report as YAML can be taken away, and none can be
written as JSON. -/
structure Blocked (d : Disk) (directory : String) (place : Place) : Prop where
  here : d.nodeAt directory = .ok (place, .directory)
  json : d.find? (place ++ [ReportFormat.json.fileName]) = some .directory
  yaml : ∃ cleared, d.remove (fileIn directory .yaml) = .ok cleared

theorem removeStale_cases (hlocate : d.locate (fileIn directory format.other) = .ok place)
    (hplace : place ≠ []) (h : removeStale d directory format = .ok d') :
    (d.find? place = none ∧ d' = d) ∨ d.remove (fileIn directory format.other) = .ok d' := by
  unfold removeStale at h
  rcases Disk.remove_cases hlocate hplace with ⟨cleared, hremove, -⟩ | ⟨fault, hremove, hgone⟩
  · rw [hremove] at h
    cases h
    exact Or.inr hremove
  · rw [hremove] at h
    dsimp only at h
    split_ifs at h with hcause
    cases h
    exact Or.inl ⟨hgone hcause, rfl⟩

theorem kept_of_removeStale (hnode : d.nodeAt directory = .ok (place, .directory))
    (hnames : ¬[format.other.fileName, ".."].Sublist (d.namesOf directory))
    (h : removeStale d directory format = .ok d') :
    d'.nodeAt directory = .ok (place, .directory) ∧
      d'.find? (place ++ [format.fileName]) = d.find? (place ++ [format.fileName]) := by
  obtain ⟨hlocate, hdirectory⟩ := Disk.nodeAt_eq_ok hnode
  obtain ⟨-, hsame, hworking⟩ := removeStale_eq_ok hnode h
  constructor
  · obtain ⟨hempty, hnul, hfollow⟩ := Disk.locate_eq_ok hlocate
    have hfollow' := Disk.follow_without hsame hnames (by simp) hfollow
    rw [← Disk.namesOf_congr hworking] at hfollow'
    refine Disk.nodeAt_of_locate (Disk.locate_of_follow hempty hnul hfollow') ?_
    rw [hsame place (Disk.not_below_itself _ _), hdirectory]
  · refine hsame _ fun hbelow => format.fileName_other_ne ?_
    rw [List.prefix_append_right_inj, List.cons_prefix_cons] at hbelow
    exact hbelow.1

/-- What a save leaves that fails in a directory which was there. -/
theorem place_eq_error {fault : SaveFault}
    (hnode : d.nodeAt directory = .ok (place, .directory))
    (hnames : ∀ f : ReportFormat, ¬[f.fileName, ".."].Sublist (d.namesOf directory))
    (h : ReportStore.place d directory text format = (.error fault, d')) :
    load d' directory = load d directory ∨
      format = .json ∧ Blocked d directory place ∧
        fault = .writeReport ⟨"open", fileIn directory .json, .isDirectory⟩ ∧
        load d' directory = .error (.read ⟨"read", fileIn directory .json, .isDirectory⟩) := by
  unfold ReportStore.place at h
  split at h
  next =>
    cases h
    exact Or.inl rfl
  next cleared hcleared =>
    obtain ⟨hgone, -, -⟩ := removeStale_eq_ok hnode hcleared
    obtain ⟨hnode', hkept⟩ := kept_of_removeStale hnode (hnames format.other) hcleared
    dsimp only at h
    split at h
    next writing hwrite =>
      cases h
      obtain ⟨hblocked, rfl⟩ := write_eq_error (locate_fileIn hnode' format) hwrite
      rw [hblocked] at hkept
      rcases removeStale_cases (locate_fileIn hnode format.other) (by simp) hcleared with
        ⟨-, rfl⟩ | hremove
      · exact Or.inl rfl
      cases format with
      | yaml =>
          left
          have hbefore := (fileOf_directory hnode).1 (by simp [← hkept])
          have hafter := (fileOf_directory hnode').1 (by simp [hblocked])
          rw [load_of_directory hbefore (Disk.nodeAt_of_locate (locate_fileIn hnode _) hkept.symm),
            load_of_directory hafter (Disk.nodeAt_of_locate (locate_fileIn hnode' _) hblocked)]
      | json =>
          have hafter := (fileOf_directory hnode').2 hgone (by simp [hblocked])
          exact Or.inr ⟨rfl, ⟨hnode, hkept.symm, _, hremove⟩, rfl,
            load_of_directory hafter (Disk.nodeAt_of_locate (locate_fileIn hnode' _) hblocked)⟩
    next => cases h

theorem place_of_made (format : ReportFormat) (text : String)
    (hnode : d.nodeAt directory = .ok (place, .directory))
    (hfree : ∀ f : ReportFormat, d.find? (place ++ [f.fileName]) = none) :
    ∃ written,
      ReportStore.place d directory text format = (.ok (fileIn directory format), written) := by
  have hjoin := locate_fileIn hnode
  have hcleared : removeStale d directory format = .ok d := by
    have hnone : d.nodeAt (fileIn directory format.other) = .error .notExist := by
      simp only [Disk.nodeAt, hjoin, bind, Except.bind, hfree]
    simp [removeStale, Disk.remove, Disk.during, hnone, bind, Except.bind, Except.mapError]
  have hwrite : d.write (fileIn directory format) (Text.toBytes text) =
      .ok (d.put (place ++ [format.fileName]) (.file (Text.toBytes text))) := by
    simp [Disk.write, Disk.during, hjoin, hfree, bind, Except.bind, Except.mapError]
  simp only [ReportStore.place, hcleared, hwrite]
  exact ⟨_, rfl⟩

/-- After a save that fails the directory loads what it loaded before, unless a
report as YAML was taken away for one as JSON that cannot be written. -/
theorem load_of_save_error {r : Report} {formatName : String} {fault : SaveFault}
    (htree : d.IsTree) (hpath : ¬Disk.Returns (SlashPath.segments directory))
    (hnames : ∀ f : ReportFormat, ¬[f.fileName, ".."].Sublist (d.namesOf directory))
    (h : save d directory r formatName = (.error fault, d')) :
    load d' directory = load d directory ∨
      ∃ place, ReportFormat.ofName? formatName = some .json ∧ Blocked d directory place ∧
        fault = .writeReport ⟨"open", fileIn directory .json, .isDirectory⟩ ∧
        load d' directory = .error (.read ⟨"read", fileIn directory .json, .isDirectory⟩) := by
  unfold save at h
  split at h
  next =>
    cases h
    exact Or.inl rfl
  next format hformat =>
    split at h
    next =>
      cases h
      exact Or.inl rfl
    next making hencode hmade =>
      cases h
      left
      have hfailed := Disk.makeDirectoriesFrom_of_error hmade
      have hnot := Disk.not_directory_of_failed hfailed
      have hgrown := Disk.Grown.afterMaking d directory
      refine load_congr ?_ fun place hplace => ?_
      · exact (hgrown.nodeAt htree hpath).resolve_left fun ⟨p, hp⟩ => hnot p hp
      · obtain ⟨hlocate, hfind⟩ := Disk.nodeAt_eq_ok hplace
        exact hnot place
          (Disk.nodeAt_of_locate (hgrown.locate hlocate) (hgrown.keeps _ _ hfind))
    next text made hencode hmade =>
      by_cases hthere : ∃ place, d.nodeAt directory = .ok (place, .directory)
      · obtain ⟨place, hnode⟩ := hthere
        rw [Disk.makeDirectories_of_nodeAt hnode] at hmade
        cases hmade
        rcases place_eq_error hnode hnames h with hsame | ⟨rfl, hblocked, hfault, hload⟩
        · exact Or.inl hsame
        · exact Or.inr ⟨place, hformat, hblocked, hfault, hload⟩
      · obtain ⟨place, hnode⟩ := Disk.nodeAt_makeDirectories hmade
        have hmissing := not_exists.mp hthere
        have hfree : ∀ f : ReportFormat, made.find? (place ++ [f.fileName]) = none := fun f =>
          Disk.free_of_made htree hpath hmissing hmade (Disk.nodeAt_eq_ok hnode).1
        obtain ⟨written, hplaced⟩ := place_of_made format text hnode hfree
        rw [hplaced] at h
        cases h

/-- A directory with a report as YAML, and a directory in the place of one as
JSON. -/
def reportBesideDirectory : Disk :=
  { nodes := [(["out"], .directory),
      (["out", "report.yaml"], .file (Text.toBytes "version: 1\nroot: r\n")),
      (["out", "report.json"], .directory),
      (["out", "report.json", "x"], .file ByteArray.empty)] }

theorem load_of_save_error_stale :
    let result := save reportBesideDirectory "out" {} "yaml"
    result.1 = .error (.removeStale ⟨"remove", "out/report.json", .notEmpty⟩) ∧
      reportBesideDirectory.IsTree ∧
      load result.2 "out" = load reportBesideDirectory "out" := by
  intro result
  have htree : reportBesideDirectory.IsTree := by decide +kernel
  have hfault : result.1 = .error (.removeStale ⟨"remove", "out/report.json", .notEmpty⟩) := by
    decide +kernel
  have hpath : ¬Disk.Returns (SlashPath.segments "out") := by
    rintro ⟨name, -, -, -, hsub⟩
    have hlength : 2 ≤ 1 := hsub.length_le
    omega
  have hnames : ∀ f : ReportFormat,
      ¬[f.fileName, ".."].Sublist (reportBesideDirectory.namesOf "out") := by
    intro f
    cases f <;> decide
  refine ⟨hfault, htree, ?_⟩
  rcases load_of_save_error htree hpath hnames (Prod.ext hfault rfl) with hsame | ⟨_, hformat, -⟩
  · exact hsame
  · exact absurd hformat (by decide)

/-- The report that a directory had is lost in a save that fails. -/
theorem failed_save_loses_report :
    let result := save reportBesideDirectory "out" {} "json"
    result.1 = .error (.writeReport ⟨"open", "out/report.json", .isDirectory⟩) ∧
      load reportBesideDirectory "out" = .ok { version := 1, root := "r" } ∧
      load result.2 "out" = .error (.read ⟨"read", "out/report.json", .isDirectory⟩) := by
  decide +kernel

end ReportStore

end ArchLint
