namespace ArchLint

/-- Information recorded when a program is built. -/
structure BuildInfo where
  version : String := ""
  settings : List (String × String) := []

namespace BuildInfo

/-- The version of an unlabelled build. -/
def unknownVersion : String :=
  "unknown"

/-- The version and the revision of the sources; of several revisions the last
one counts. Without information or version nothing is known. -/
def versionAndRevision : Option BuildInfo → String × String
  | none => (unknownVersion, "")
  | some info =>
      if info.version.isEmpty then (unknownVersion, "")
      else
        let revisions := info.settings.filter fun s => s.1 == "vcs.revision"
        (info.version, (revisions.getLast?).elim "" (·.2))

end BuildInfo

end ArchLint
