import RideQuestions.Config.Scalar

/-! Forms: named fields with their types, bounds and defaults. Values are checked against a form
field by field, in the order of its fields, and all issues are reported together.
-/

namespace RideQuestions.Config

open Number

mutual

/-- What a field holds. -/
inductive FieldType where
  | text
  /-- A text that is not shown in messages. -/
  | secret
  | int (bounds : Option (Int × Int))
  | float (low high : Binary64)
  | bool
  | texts
  | textMap
  | nested (fields : List Field)

/-- A field of a form; one without a default must be given. -/
inductive Field where
  | mk (name : String) (type : FieldType) (default : Option Value)

end

def Field.name : Field → String
  | mk name _ _ => name

def Field.type : Field → FieldType
  | mk _ type _ => type

def Field.default : Field → Option Value
  | mk _ _ default => default

/-- The values of a form by field, in the order of its fields. -/
abbrev Record := List (String × Value)

private def bounded {α : Type} (value : α) (wrap : α → Value) (belowHigh aboveLow : Bool)
    : Except (List Issue) Value :=
  if !belowHigh then .error [.here .lessThanEqual]
  else if !aboveLow then .error [.here .greaterThanEqual]
  else .ok (wrap value)

private def single {α : Type} (result : Except IssueKind α) : Except (List Issue) α :=
  result.mapError fun kind => [.here kind]

/-- Checks a text, which is trimmed when the form says so. -/
def checkText (trims : Bool) (value : Value) : Except (List Issue) Value := do
  let s ← single (text value)
  return .text (if trims then Text.trimSpace s else s)

/-- Checks members that must all be texts, keeping the issues of each under its step. -/
def checkTexts {α : Type} (trims : Bool) (members : List (Step × α × Value))
    : Except (List Issue) (List (α × Value)) :=
  let checked := members.map fun (step, a, value) => (step, a, checkText trims value)
  let issues := checked.flatMap fun (step, _, result) =>
    match result with
    | .error issues => issues.map (Issue.under step)
    | .ok _ => []
  if issues.isEmpty then
    .ok (checked.filterMap fun (_, a, result) => result.toOption.map (a, ·))
  else .error issues

/-- Checks a value of any type but a nested form. -/
def checkPlain (trims : Bool) (type : FieldType) (value : Value) : Except (List Issue) Value :=
  match type with
  | .text => checkText trims value
  | .secret => checkText trims value
  | .int none => do return .int (← single (int value))
  | .int (some (low, high)) => do
      let n ← single (int value)
      bounded n .int (decide (n ≤ high)) (decide (low ≤ n))
  | .float low high => do
      let x ← single (float value)
      bounded x .float (x.le high) (low.le x)
  | .bool => do return .bool (← single (bool value))
  | .texts =>
      match value with
      | .list items => do
          let members := items.zipIdx.map fun (item, i) => (Step.index i, (), item)
          return .list ((← checkTexts trims members).map (·.2))
      | _ => .error [.here .listType]
  | .textMap =>
      match value with
      | .map entries => do
          let members := entries.map fun (key, item) => (Step.key key, key, item)
          return .map (← checkTexts trims members)
      | _ => .error [.here .mapType]
  | .nested _ => .error [.here .formType]

/-- Issues of the keys that belong to no field. -/
def unknownKeys (fields : List Field) (given : List (String × Value)) : List Issue :=
  (given.filter fun (key, _) => !fields.any (·.name = key)).map fun (key, _) =>
    ⟨[.key key], .extraForbidden⟩

/-- Puts the outcome of one field before those of the fields behind it. -/
def combine (name : String) (first : Except (List Issue) Value)
    (rest : Except (List Issue) Record) : Except (List Issue) Record :=
  match first, rest with
  | .ok value, .ok record => .ok ((name, value) :: record)
  | .ok _, .error issues => .error issues
  | .error issues, .ok _ => .error (issues.map (Issue.under (.key name)))
  | .error issues, .error more => .error (issues.map (Issue.under (.key name)) ++ more)

mutual

def check (trims : Bool) (type : FieldType) (value : Value) : Except (List Issue) Value :=
  match type with
  | .nested fields =>
      match value with
      | .map given =>
          match checkFields trims fields given, unknownKeys fields given with
          | .ok record, [] => .ok (.map record)
          | .ok _, unknown => .error unknown
          | .error issues, unknown => .error (issues ++ unknown)
      | _ => .error [.here .formType]
  | type => checkPlain trims type value

/-- Checks given values against fields, filling in defaults. -/
def checkFields (trims : Bool) (fields : List Field) (given : List (String × Value))
    : Except (List Issue) Record :=
  match fields with
  | [] => .ok []
  | .mk name type default :: rest =>
      let first :=
        match Value.lookup? name given with
        | some value => check trims type value
        | none =>
            match default with
            | some value => .ok value
            | none => .error [.here .missing]
      combine name first (checkFields trims rest given)

end

/-- How fields may be changed once a form is filled in. -/
inductive Assignment where
  | unchecked
  | checked
  | frozen

structure Form where
  name : String
  fields : List Field
  trims : Bool := false
  assignment : Assignment := .unchecked

/-- A change that was refused. -/
inductive AssignError where
  | invalid (issues : List Issue)
  | noField (form name : String)

def AssignError.message : AssignError → String
  | invalid issues => s!"{issues.length} validation errors"
  | noField form name => s!"\"{form}\" object has no field \"{name}\""

namespace Form

/-- Fills a form in. -/
def fill (form : Form) (given : List (String × Value)) : Except (List Issue) Record :=
  match checkFields form.trims form.fields given, unknownKeys form.fields given with
  | .ok record, [] => .ok record
  | .ok _, unknown => .error unknown
  | .error issues, unknown => .error (issues ++ unknown)

/-- Changes one field of a filled form. Only a form that checks changes looks at the value. -/
def assign (form : Form) (record : Record) (name : String) (value : Value)
    : Except AssignError Record :=
  let field? := form.fields.find? (·.name = name)
  match form.assignment, field? with
  | .frozen, _ => .error (.invalid [⟨[.key name], .frozenInstance⟩])
  | .checked, none => .error (.invalid [⟨[.key name], .noSuchAttribute⟩])
  | .unchecked, none => .error (.noField form.name name)
  | .unchecked, some _ => .ok (Value.put name value record)
  | .checked, some field =>
      match check form.trims field.type value with
      | .ok value => .ok (Value.put name value record)
      | .error issues => .error (.invalid (issues.map (Issue.under (.key name))))

/-- The values of a form whose fields all have defaults. -/
def defaults (form : Form) : Record :=
  form.fields.filterMap fun field => field.default.map (field.name, ·)

end Form

namespace Record

def text (record : Record) (name : String) (default : String) : String :=
  match Value.lookup? name record with
  | some (.text s) => s
  | _ => default

def int (record : Record) (name : String) (default : Int) : Int :=
  match Value.lookup? name record with
  | some (.int n) => n
  | _ => default

def float (record : Record) (name : String) (default : Binary64) : Binary64 :=
  match Value.lookup? name record with
  | some (.float x) => x
  | _ => default

def bool (record : Record) (name : String) (default : Bool) : Bool :=
  match Value.lookup? name record with
  | some (.bool b) => b
  | _ => default

def nested? (record : Record) (name : String) : Option Record :=
  match Value.lookup? name record with
  | some (.map entries) => some entries
  | _ => none

/-- The texts of a list field. -/
def texts (record : Record) (name : String) : List String :=
  match Value.lookup? name record with
  | some (.list items) => items.filterMap Value.text?
  | _ => []

/-- The texts of a map field by key. -/
def textMap (record : Record) (name : String) : List (String × String) :=
  match Value.lookup? name record with
  | some (.map entries) => entries.filterMap fun (key, value) => value.text?.map (key, ·)
  | _ => []

end Record

end RideQuestions.Config
