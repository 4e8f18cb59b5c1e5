import ArchLint.Yaml.Value

namespace ArchLint.Yaml

open Number (Binary64)

/-- A reading that updates a value. -/
abbrev Update (α : Type) := α → Node → Option α

/-- The node that an alias stands for, or the node itself. -/
def Node.target? : Node → Option Node
  | .alias _ target => target
  | node => some node

/-- Whether a node stands for the absence of a value. -/
def Node.isNull (node : Node) : Bool :=
  match node.target? with
  | some (.scalar s) => s.value? == some .null
  | _ => false

/-- Reads a scalar that has a value. -/
def updateScalar {α : Type} (read : Scalar → Value → Option α) : Update α := fun old node =>
  match node.target? with
  | some (.scalar s) =>
      match s.value? with
      | none => none
      | some .null => some old
      | some value => read s value
  | _ => none

/-- Reads a text. Every scalar is one. -/
def updateString : Update String :=
  updateScalar fun s _ => s.string?

/-- Reads a truth value, which may also be one of the older words. -/
def updateBool : Update Bool :=
  updateScalar fun _ value =>
    match value with
    | .bool b => some b
    | .text t =>
        if ["y", "Y", "yes", "on"].elem t then some true
        else if ["n", "N", "no", "off"].elem t then some false
        else none
    | _ => none

/-- The whole number of 64 bits that a number is cut to. Numbers below all of
them, and the bound above them, become the least one. -/
def cutToInt? : Binary64 → Option Int
  | .notANumber => none
  | .infinite negative => if negative then some (-(Int.pow 2 63)) else none
  | x =>
      let q := x.toRat
      if q < -(Int.pow 2 63) then some (-(Int.pow 2 63))
      else if q < Int.pow 2 63 then some (q.num.tdiv q.den)
      else if q = Int.pow 2 63 then some (-(Int.pow 2 63))
      else none

/-- Reads a whole number of 64 bits. -/
def updateInt : Update Int :=
  updateScalar fun _ value =>
    match value with
    | .int n => if Number.isInt64 n then some n else none
    | .float x => cutToInt? x
    | _ => none

/-- Reads a floating point number. -/
def updateFloat : Update Binary64 :=
  updateScalar fun _ value =>
    match value with
    | .int n => some (.nearest (decide (n < 0)) n.natAbs 1)
    | .float x => some x
    | _ => none

/-- Reads a floating point number that may be absent. -/
def updateFloat? : Update (Option Binary64) := fun _ node =>
  if node.isNull then some none else (updateFloat .zero node).map some

/-- Reads a point in time. A mapping holds nothing that could change it. -/
def updateTime : Update Timestamp := fun old node =>
  match node.target? with
  | some (.mapping _) => some old
  | _ =>
      updateScalar (fun s value =>
        match value with
        | .time t => some t
        | _ => s.string?.bind Timestamp.ofText?) old node

/-- Reads a list that may be absent. Items that are absent are left out. -/
def updateList? {α : Type} (item : Node → Option α) : Update (Option (List α)) := fun _ node =>
  match node.target? with
  | some (.sequence items) => ((items.filter fun i => !i.isNull).mapM item).map some
  | _ => if node.isNull then some none else none

/-- Reads a list; an absent one is empty. -/
def updateList {α : Type} (item : Node → Option α) : Update (List α) := fun _ node =>
  (updateList? item none node).map (·.getD [])

/-- Reads a list of lists, which may be absent. -/
def updateLists {α : Type} (item : Node → Option α) : Update (List (Option (List α))) :=
  fun _ node =>
    match node.target? with
    | some (.sequence items) => items.mapM (updateList? item none)
    | _ => if node.isNull then some [] else none

/-- Whether a key brings in the entries of other mappings. -/
def Node.isMergeKey : Node → Bool
  | .scalar s =>
      s.text == "<<" && (s.tag == some "!!merge" || (s.tag == none && s.isPlain))
  | _ => false

mutual

/-- A mapping that is brought in, and those that it brings in itself. -/
def mergedMappings : Node → Option (List (List (Node × Node)))
  | .mapping entries => (mappingsMergedInto entries).map (entries :: ·)
  | .alias _ (some target) => mergedMappings target
  | _ => none

/-- The mappings that are brought into one with given entries. -/
def mappingsMergedInto : List (Node × Node) → Option (List (List (Node × Node)))
  | [] => some []
  | (key, value) :: rest =>
      if key.isMergeKey then
        match value with
        | .sequence items => mergedItems items
        | value => mergedMappings value
      else mappingsMergedInto rest

def mergedItems : List Node → Option (List (List (Node × Node)))
  | [] => some []
  | item :: rest => do
      let first ← mergedMappings item
      let more ← mergedItems rest
      some (first ++ more)

end

/-- Whether two keys are the same: two scalars or aliases with one text, or two
collections of one kind. -/
def sameKey : Node → Node → Bool
  | .scalar a, .scalar b => a.text == b.text
  | .alias a _, .alias b _ => a == b
  | .sequence _, .sequence _ => true
  | .mapping _, .mapping _ => true
  | _, _ => false

def keysDiffer : List (Node × Node) → Bool
  | [] => true
  | (key, _) :: rest => !rest.any (fun e => sameKey key e.1) && keysDiffer rest

/-- The names of keys with their values. A key that is absent has no name. -/
def namedEntries : List (Node × Node) → Option (List (String × Node))
  | [] => some []
  | (key, value) :: rest =>
      if key.isMergeKey || key.isNull then namedEntries rest
      else do
        let name ← updateString "" key
        let more ← namedEntries rest
        some ((name, value) :: more)

/-- Reads the entries of one mapping, those with some names apart. No field is
set twice. -/
def updateEntries {α : Type} (fields : List (String × Update α)) (except : List String) (a : α)
    (entries : List (Node × Node)) : Option (α × List String) := do
  if !keysDiffer entries then none
  else
    let named ← namedEntries entries
    let known := named.filter fun e => fields.any (·.1 == e.1) && !except.elem e.1
    if !(known.map (·.1)).Nodup then none
    else
      let updated ← known.foldlM (fun a (name, value) =>
        match fields.lookup name with
        | some update => update a value
        | none => some a) a
      some (updated, except ++ named.map (·.1))

/-- Reads the fields of a value from a mapping. Entries of its own go before
those that are brought in. -/
def updateFields {α : Type} (fields : List (String × Update α)) : Update α := fun a node =>
  match node.target? with
  | some (.mapping entries) => do
      let merged ← mappingsMergedInto entries
      let (a, _) ← (entries :: merged).foldlM
        (fun (a, names) entries => updateEntries fields names a entries) (a, [])
      some a
  | _ => if node.isNull then some a else none

end ArchLint.Yaml
