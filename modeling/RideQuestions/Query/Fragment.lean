import RideQuestions.Query.Placeholder

/-! Pieces of query text with their bound values and the tables they refer to. A fragment has as
many markers as values.
-/

namespace RideQuestions.Query

structure Fragment where
  text : String
  parameters : List Value
  /-- The tables that the text refers to, in no particular order. -/
  tables : List String
  balanced : markerCount text = parameters.length

/-- A text whose markers do not fit its values. -/
structure Unbalanced where
  markers : Nat
  parameters : Nat

def Unbalanced.message (e : Unbalanced) : String :=
  s!"Fragment has {e.markers} markers but {e.parameters} parameters"

namespace Fragment

def of (text : String) (parameters : List Value) (tables : List String)
    : Except Unbalanced Fragment :=
  if h : markerCount text = parameters.length then .ok ⟨text, parameters, tables, h⟩
  else .error ⟨markerCount text, parameters.length⟩

def empty : Fragment :=
  ⟨"", [], [], rfl⟩

def isEmpty (f : Fragment) : Bool :=
  f.text.isEmpty

end Fragment

end RideQuestions.Query
