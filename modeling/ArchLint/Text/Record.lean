import ArchLint.Text.Basic

/-!
Records: items that are lists of texts, written one after the other. Every
field and every item has a mark at its end, and a mark inside a field is
written as two characters, so that damage to an item never spreads to those
before it.
-/

namespace ArchLint.Text

def itemEnd : Char :=
  '\x00'

def fieldEnd : Char :=
  '\x01'

/-- The mark in front of a mark that is part of a field. -/
def fieldEscape : Char :=
  '\x02'

def escapeFieldChar (c : Char) : List Char :=
  if c = itemEnd then [fieldEscape, '0']
  else if c = fieldEnd then [fieldEscape, '1']
  else if c = fieldEscape then [fieldEscape, '2']
  else [c]

/-- The mark that an escape stands for. -/
def unescapeFieldChar? (c : Char) : Option Char :=
  if c = '0' then some itemEnd
  else if c = '1' then some fieldEnd
  else if c = '2' then some fieldEscape
  else none

def writeField (field : String) : List Char :=
  field.toList.flatMap escapeFieldChar ++ [fieldEnd]

def writeFields (fields : List String) : List Char :=
  fields.flatMap writeField

def writeItem (fields : List String) : List Char :=
  writeFields fields ++ [itemEnd]

/-- Reads fields up to the end of an item: the characters of the current field
and the complete fields come latest first. -/
def readItem : List Char → List String → List Char → Option (List String × List Char)
  | _, _, [] => none
  | field, fields, c :: rest =>
      if c = itemEnd then
        if field.isEmpty then some (fields.reverse, rest) else none
      else if c = fieldEnd then readItem [] (String.ofList field.reverse :: fields) rest
      else if c = fieldEscape then
        match rest with
        | [] => none
        | d :: rest =>
            match unescapeFieldChar? d with
            | some mark => readItem (mark :: field) fields rest
            | none => none
      else readItem (c :: field) fields rest

/-- Reads items up to the end of the text or the first damaged one. The flag
tells that the text is read to its end. The fuel is the length of the text. -/
def readItems : Nat → List Char → List (List String) × Bool
  | 0, s => ([], s.isEmpty)
  | _, [] => ([], true)
  | n + 1, s =>
      match readItem [] [] s with
      | none => ([], false)
      | some (fields, rest) =>
          let (items, clean) := readItems n rest
          (fields :: items, clean)

/-- The fields of a text that holds nothing else. -/
def readFields? (s : String) : Option (List String) :=
  match readItem [] [] (s.toList ++ [itemEnd]) with
  | some (fields, []) => some fields
  | _ => none

def joinFields (fields : List String) : String :=
  String.ofList (writeFields fields)

/-- How values of a type are kept as fields. A value may be refused for a
reason. -/
structure Codec (α : Type) where
  encode : α → List String
  decode? : List String → Option α
  refusal? : α → Option String := fun _ => none

end ArchLint.Text
