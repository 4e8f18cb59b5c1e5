import ArchLint.Config
import ArchLint.Yaml.Writer

namespace ArchLint

open Yaml (Node)

/-- An entry that is left out when its text is empty. -/
def Yaml.textEntry (name text : String) : List (String × Node) :=
  if text.isEmpty then [] else [(name, .ofText text)]

open Yaml (textEntry)

def Region.toYaml (r : Region) : Node :=
  .ofEntries (textEntry "namespace" r.scope ++ textEntry "path" r.directory)

def RuleEntry.toYaml (r : RuleEntry) : Node :=
  .ofEntries (textEntry "allow" r.allow ++ textEntry "deny" r.deny)

/-- The entries of the restrictions of a module. -/
def PolicyEntry.yamlEntries (p : PolicyEntry) : List (String × Node) :=
  (if p.rules.isEmpty then []
    else [("dependencies", .sequence (p.rules.map RuleEntry.toYaml))]) ++
    textEntry "default" p.fallback ++
    (if p.visible.isEmpty then [] else [("public", .ofTexts p.visible)]) ++
    (if p.hidden.isEmpty then [] else [("private", .ofTexts p.hidden)]) ++
    (if p.exportedOnly then [("exported_only", .ofBool true)] else []) ++
    (p.maxDistance.map fun x => ("max_allowable_distance", Node.ofBinary64 x)).toList

def ModuleEntry.toYaml (m : ModuleEntry) : Node :=
  let restrictions := m.policy.yamlEntries
  .ofEntries
    ([("name", .ofText m.name), ("roots", .sequence (m.roots.map Region.toYaml))] ++
      (if m.excluded.isEmpty then []
        else [("excluded", .sequence (m.excluded.map Region.toYaml))]) ++
      (m.enabled.map fun b => ("enabled", Node.ofBool b)).toList ++
      (if restrictions.isEmpty then [] else [("restrictions", .ofEntries restrictions)]))

def Config.toYaml (c : Config) : Node :=
  .ofEntries [("modules", .sequence (c.modules.map ModuleEntry.toYaml))]

end ArchLint
