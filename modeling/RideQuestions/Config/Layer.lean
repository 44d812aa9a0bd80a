import RideQuestions.Config.Environment
import RideQuestions.Json.Encoding
import RideQuestions.Text.Search

/-! Layers of a configuration. Variables give single fields and, through names such as
`SECTION__FIELD`, fields of sections; a higher layer wins field by field.
-/

namespace RideQuestions.Config

open RideQuestions.Text

/-- Values by field, sections as maps. -/
abbrev Layer := List (String × Value)

mutual

/-- Lays a map over another: maps in both are merged, anything else is replaced. -/
def overlay : List (String × Value) → List (String × Value) → List (String × Value)
  | lower, [] => lower
  | lower, (key, value) :: rest => overlay (overlayEntry key value lower) rest

def overlayEntry (key : String) (value : Value)
    : List (String × Value) → List (String × Value)
  | [] => [(key, value)]
  | (k, old) :: rest =>
      if k = key then
        match old, value with
        | .map lower, .map upper => (k, .map (overlay lower upper)) :: rest
        | _, _ => (k, value) :: rest
      else (k, old) :: overlayEntry key value rest

end

/-- The text of a section is no JSON. -/
structure SectionError where
  name : String

/-- What a path into a section leads to. -/
inductive Target where
  | field (type : FieldType)
  /-- An entry of a map. -/
  | entry
  | unknown

/-- One step further along a path. -/
def Target.next (target : Target) (key : String) : Target :=
  match target with
  | field (.nested fields) =>
      match fields.find? (·.name = key) with
      | some f => field f.type
      | none => unknown
  | field .textMap => entry
  | _ => unknown

/-- Whether the text of a field is JSON rather than the value itself. -/
def takesJson : FieldType → Bool
  | .nested _ => true
  | .texts => true
  | .textMap => true
  | _ => false

/-- The value that a text stands for at the end of a path. -/
def valueAt (target : Target) (name text : String) : Except SectionError Value :=
  if text.isEmpty then .ok (.text text)
  else
    match target with
    | .field type =>
        if takesJson type then
          match Json.readText? text with
          | some value => .ok value
          | none => .error ⟨name⟩
        else .ok (.text text)
    | .entry => .ok ((Json.readText? text).getD (.text text))
    | .unknown => .ok (.text text)

/-- Puts a value at the end of a path, making maps on the way. A path that leads through anything
but a map is not followed. -/
def putAt : List String → Value → List (String × Value) → List (String × Value)
  | [], _, entries => entries
  | [key], value, entries => Value.put key value entries
  | key :: path, value, entries =>
      match Value.lookup? key entries with
      | none => Value.put key (.map (putAt path value [])) entries
      | some (.map inner) => Value.put key (.map (putAt path value inner)) entries
      | some _ => entries

/-- The fields of a section that are given by variables of their own, in the order of these. -/
def sectionFields (name : String) (type : FieldType) (vars : Variables)
    : Except SectionError Layer :=
  let opening := (name ++ "__").toList
  vars.foldlM
    (fun layer (full, text) =>
      match afterPrefix? opening full.toList with
      | none => return layer
      | some rest => do
          let path := splitOn "__" (String.ofList rest)
          let target := path.foldl Target.next (.field type)
          let value ← valueAt target (path.getLast?.getD "") text
          return putAt path value layer)
    []

/-- Entries by key, the last value of a key in the place of the first. -/
def withoutRepeats (entries : List (String × Value)) : List (String × Value) :=
  entries.foldl (fun kept (key, value) => Value.put key value kept) []

mutual

/-- Writes the keys of a map like the fields that they name, letter case aside. -/
def likeFields (fields : List Field) : List (String × Value) → List (String × Value)
  | [] => []
  | (key, value) :: rest =>
      match fields.find? fun f => lower f.name = lower key with
      | some f => (f.name, likeType f.type value) :: likeFields fields rest
      | none => (key, value) :: likeFields fields rest

def likeType (type : FieldType) (value : Value) : Value :=
  match value, type with
  | .map entries, .nested fields => .map (withoutRepeats (likeFields fields entries))
  | value, _ => value

end

/-- A section of a configuration. Its own variable holds JSON, and the variables of its fields are
laid over that. A section that may be left out keeps a text that is no JSON. -/
def readSection (name : String) (fields : List Field) (optional : Bool) (vars : Variables)
    : Except SectionError (Option Value) := do
  let type := FieldType.nested fields
  let name := lower name
  match vars.lookup name with
  | none =>
      let layer ← sectionFields name type vars
      return if layer.isEmpty then none else some (likeType type (.map layer))
  | some text =>
      match Json.readText? text with
      | none => if optional then return some (.text text) else .error ⟨name⟩
      | some .null => return none
      | some (.map given) =>
          let layer ← sectionFields name type vars
          return some (likeType type (.map (overlay given layer)))
      | some value => return some value

/-- Names in lower case, the last value of a name in the place of the first. -/
def lowerNames (vars : Variables) : Variables :=
  vars.foldl (fun kept (name, text) => Value.put (lower name) text kept) []

end RideQuestions.Config
