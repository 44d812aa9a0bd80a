import RideQuestions.Query.Placeholder
import RideQuestions.Sql.Lexeme
import RideQuestions.Sql.Pairing
import RideQuestions.Text.Blank

/-! The guard in front of the store: a text is let through only if it is one statement that reads
rows, and only if its placeholders fit the bound values.
-/

namespace RideQuestions.Sql

open RideQuestions.Query

/-- The words that a reading query must not have as keywords. -/
def dangerousWords : List String :=
  ["DROP", "DELETE", "TRUNCATE", "ALTER", "CREATE", "INSERT", "UPDATE", "GRANT", "REVOKE", "EXEC",
   "EXECUTE", "MERGE", "COPY"]

/-- A reason to refuse a text. -/
inductive Complaint where
  | nothing
  | noStatement
  | severalStatements
  | notReading (type : String)
  | dangerous (words : List String)
  | placeholderCount (placeholders parameters : Nat)
  | placeholderOrder
  deriving DecidableEq

def Complaint.message : Complaint → String
  | nothing => "SQL query is required"
  | noStatement => "Could not parse SQL query"
  | severalStatements => "Multiple statements are not allowed"
  | notReading type => s!"Only SELECT statements are allowed, got {type}"
  | dangerous words =>
      "Dangerous SQL operations not allowed: " ++ String.intercalate ", " words
  | placeholderCount placeholders parameters =>
      s!"Placeholder count {placeholders} does not match parameter count {parameters}"
  | placeholderOrder => "Placeholders must be numbered $1..$n in order"

/-- What the guard says about a text. -/
structure Verdict where
  complaints : List Complaint
  /-- A separator stands somewhere before the end of the text. -/
  separatorInside : Bool := false
  /-- The type of the first statement, if there is one. -/
  type? : Option String := none

namespace Verdict

def isValid (v : Verdict) : Bool :=
  v.complaints.isEmpty

def errors (v : Verdict) : List String :=
  v.complaints.map Complaint.message

def warnings (v : Verdict) : List String :=
  if v.separatorInside then ["Statement separator found inside query"] else []

end Verdict

/-- Why a text is not looked at. -/
inductive InspectionError where
  /-- A statement of it is not grouped. -/
  | grouping (error : GroupingError)
  /-- The number of a placeholder is not read. -/
  | placeholder (error : NumberError)

def InspectionError.message : InspectionError → String
  | grouping error => error.message
  | placeholder error => error.message

/-- The dangerous keywords of some statements, each once, in alphabetical order. -/
def dangerousIn (statements : List Statement) : List String :=
  let words := (statements.flatten.filter Token.isKeyword).map Token.upper
  (dangerousWords.filter words.contains).mergeSort (fun a b => decide (a ≤ b))

/-- What is wrong with the placeholders of a text for a number of bound values. Only where they are
as many are their numbers read. -/
def placeholderComplaints (text : String) (parameters : Nat)
    : Except NumberError (List Complaint) :=
  let count := placeholderCount text
  if count ≠ parameters then .ok [.placeholderCount count parameters]
  else
    match (placeholders text).find? fun digits => Text.digitLimit < digits.length with
    | some digits => .error (.unreadable digits.length)
    | none => .ok (if ordinals text ≠ List.range' 1 count then [.placeholderOrder] else [])

/-- Whether a separator stands before the last significant part of a text. -/
def separatorInside (text : String) : Bool :=
  (Text.dropEndWhile (· = ';') (Text.trimWhile Text.isBlank text.toList)).contains ';'

/-- What is wrong with the placeholders of a text when the number of bound values is given. -/
def bindingComplaints (text : String) (parameters : Option Nat)
    : Except InspectionError (List Complaint) :=
  match parameters with
  | none => .ok []
  | some count => (placeholderComplaints text count).mapError .placeholder

/-- Why a text is not looked at as statements: what the first of them is refused for that is. -/
def refusal? (grouping : Grouping) (text : String) : Option GroupingError :=
  (statements (tokens (Text.trim text))).findSome? grouping.refusal?

/-- What is said about a text by its statements that say something. The number of bound values is
compared only when it is given, and only a reading query has to be a reading statement. -/
def verdictOn (text : String) (parameters : Option Nat) (readOnly : Bool)
    : List Statement → Except InspectionError Verdict
  | [] => .ok { complaints := [.noStatement] }
  | first :: rest => do
      let several := if rest.isEmpty then [] else [Complaint.severalStatements]
      let type := first.type
      let found := dangerousIn (first :: rest)
      let policy :=
        if readOnly then
          (if type = "SELECT" then [] else [.notReading type])
            ++ (if found.isEmpty then [] else [.dangerous found])
        else []
      let binding ← bindingComplaints text parameters
      return {
        complaints := several ++ policy ++ binding,
        separatorInside := separatorInside text,
        type? := some type
      }

/-- Looks at a text, whose statements are grouped in some way. -/
def inspect (text : String) (parameters : Option Nat) (readOnly : Bool)
    (grouping : Grouping := .pairs) : Except InspectionError Verdict :=
  if Text.isBlankText text then .ok { complaints := [.nothing] }
  else
    match refusal? grouping text with
    | some error => .error (.grouping error)
    | none =>
        verdictOn text parameters readOnly
          ((statements (tokens (Text.trim text))).filter fun s => !s.significant.isEmpty)

end RideQuestions.Sql
