import RideQuestions.Proofs.Query.Binding
import RideQuestions.Sql.Guard

/-! Placeholders that the guard accepts, and the names that they get. A placeholder gets the value
of its own number if that number is written plainly, and no value at all if it has a leading zero
or digits of another row.
-/

namespace RideQuestions.Query

open RideQuestions.Text

-----------------------------------------------------------------------------------------
-- Pieces
-----------------------------------------------------------------------------------------

/-- A piece as it stands in the text that it was cut from. -/
def Piece.spelled : Piece → List Char
  | plain c => [c]
  | placeholder digits => '$' :: digits

theorem Piece.spelled_ofDollar (digits : List Char)
    : (Piece.ofDollar digits).spelled = '$' :: digits := by
  cases digits <;> rfl

/-- Cutting a text into pieces loses nothing, by induction: an open dollar sign stands for itself
and the digits gathered behind it. -/
theorem flatMap_spelled_piecesFrom (gathered : Option (List Char)) (text : List Char)
    : (piecesFrom gathered text).flatMap Piece.spelled
      = (gathered.map fun digits => '$' :: digits).getD [] ++ text := by
  induction text generalizing gathered with
  | nil =>
      cases gathered with
      | none => rfl
      | some digits => simp [piecesFrom, Piece.spelled_ofDollar]
  | cons c rest ih =>
      cases gathered with
      | none =>
          rw [piecesFrom]
          split
          · next dollar => simp [ih, dollar]
          · simp [ih, Piece.spelled]
      | some digits =>
          rw [piecesFrom]
          split
          · simp [ih]
          · split
            · next dollar => simp [ih, dollar, Piece.spelled_ofDollar]
            · rw [List.flatMap_cons, List.flatMap_cons, ih, Piece.spelled_ofDollar]
              simp [Piece.spelled]

theorem flatMap_spelled_pieces (text : String)
    : (pieces text).flatMap Piece.spelled = text.toList :=
  flatMap_spelled_piecesFrom none text.toList

-----------------------------------------------------------------------------------------
-- Names and binds
-----------------------------------------------------------------------------------------

/-- The name that a placeholder with some digits gets. -/
def placeholderName (digits : List Char) : String :=
  "p" ++ String.ofList digits

/-- In the named statement a placeholder becomes its name behind a colon, and all else stays. -/
theorem Piece.named_eq (piece : Piece)
    : piece.named
      = (piece.digits?.map fun digits => ':' :: (placeholderName digits).toList).getD
          piece.spelled := by
  cases piece with
  | plain c => rfl
  | placeholder digits => simp [Piece.named, Piece.digits?, placeholderName]

theorem placeholderName_injective : Function.Injective placeholderName := by
  intro first second same
  have texts := congrArg String.toList same
  simpa [placeholderName] using texts

theorem placeholderName_toDigits (n : Nat)
    : placeholderName (Nat.toDigits 10 n) = bindName n := by
  rw [placeholderName, bindName, Nat.toString_eq_repr, Nat.repr_eq_ofList_toDigits]

theorem bindName_injective : Function.Injective bindName := by
  intro m n same
  rw [← placeholderName_toDigits, ← placeholderName_toDigits] at same
  have digits := congrArg (digitsValue digit?) (placeholderName_injective same)
  rwa [digitsValue_toDigits, digitsValue_toDigits] at digits

/-- The names of some values are p1, p2 and so on, each once. -/
theorem keys_binds (text : String) (values : List Value)
    : (toNamedBinds text values).binds.map Prod.fst
      = (List.range' 1 values.length).map bindName := by
  rw [binds_eq_zip, List.map_fst_zip (by simp)]

/-- The name with a number finds the value with that number, by induction over the values. -/
theorem lookup_bindName (values : List Value) (start k : Nat)
    : (((List.range' start values.length).map bindName).zip values).lookup (bindName (start + k))
      = values[k]? := by
  induction values generalizing start k with
  | nil => rfl
  | cons value rest ih =>
      rw [List.length_cons, List.range'_succ, List.map_cons, List.zip_cons_cons,
        Value.lookup_cons_ite]
      cases k with
      | zero => simp
      | succ k =>
          have other : bindName (start + (k + 1)) ≠ bindName start := by
            intro same
            have := bindName_injective same
            omega
          have next := ih (start + 1) k
          rw [if_neg other, List.getElem?_cons_succ, ← next]
          congr 2
          omega

-----------------------------------------------------------------------------------------
-- Placeholders that fit their values
-----------------------------------------------------------------------------------------

/-- The guard accepts placeholders exactly when they are numbered one after another, one for each
value, and none has too many digits to be read. -/
theorem placeholderComplaints_eq_nil_iff {text : String} {count : Nat}
    : Sql.placeholderComplaints text count = .ok []
      ↔ ordinals text = List.range' 1 count
        ∧ ∀ digits ∈ placeholders text, digits.length ≤ digitLimit := by
  have length : (ordinals text).length = placeholderCount text := List.length_map _
  unfold Sql.placeholderComplaints
  dsimp only
  constructor
  · intro accepted
    split at accepted
    · exact absurd (Except.ok.inj accepted) (by simp)
    · next fits =>
        split at accepted
        · exact absurd accepted (by simp)
        · next short =>
            have ordered := Except.ok.inj accepted
            rw [ite_eq_right_iff] at ordered
            refine ⟨?_, by simpa using List.find?_eq_none.mp short⟩
            rw [← not_not.mp fits]
            by_contra other
            exact absurd (ordered other) (by simp)
  · rintro ⟨ordered, short⟩
    have fits : placeholderCount text = count := by rw [← length, ordered, List.length_range']
    have readable : (placeholders text).find? (fun digits => digitLimit < digits.length) = none :=
      List.find?_eq_none.mpr (by simpa using short)
    rw [if_neg (not_not.mpr fits), readable]
    simp [fits, ordered]

/-- Digits with a positive value are a plain numeral exactly when they give the name of the value
with their number. -/
theorem plainNumeral_iff_name {digits : List Char} (positive : 0 < digitsValue digit? digits)
    : PlainNumeral digits ↔ placeholderName digits = bindName (digitsValue digit? digits) := by
  rw [← placeholderName_toDigits]
  constructor
  · intro plain
    have some_digit : digits ≠ [] := by
      rintro rfl
      exact absurd positive (by decide)
    rw [toDigits_digitsValue plain some_digit]
  · intro same
    rw [placeholderName_injective same]
    exact plainNumeral_toDigits positive

section Accepted

variable {text : String} {values : List Value} {k : Nat} {digits : List Char}

/-- Each accepted placeholder has the number of its place. -/
theorem digitsValue_of_accepted (accepted : Sql.placeholderComplaints text values.length = .ok [])
    (found : (placeholders text)[k]? = some digits)
    : digitsValue digit? digits = k + 1 := by
  have ordered := (placeholderComplaints_eq_nil_iff.mp accepted).1
  have number : (ordinals text)[k]? = some (digitsValue digit? digits) := by
    rw [ordinals, List.getElem?_map, found, Option.map_some]
  rw [ordered] at number
  obtain ⟨_, same⟩ := List.getElem?_eq_some_iff.mp number
  rw [← same, List.getElem_range']
  omega

/-- An accepted placeholder gets the value of its place if it is plain, and otherwise none: its
name is the name of no value. -/
theorem lookup_placeholderName (accepted : Sql.placeholderComplaints text values.length = .ok [])
    (found : (placeholders text)[k]? = some digits)
    : (toNamedBinds text values).binds.lookup (placeholderName digits)
      = if PlainNumeral digits then values[k]? else none := by
  have number := digitsValue_of_accepted accepted found
  have positive : 0 < digitsValue digit? digits := by omega
  rw [binds_eq_zip]
  split
  · next plain =>
      rw [(plainNumeral_iff_name positive).mp plain, number, Nat.add_comm k 1]
      exact lookup_bindName values 1 k
  · next unusual =>
      refine List.lookup_eq_none_iff.mpr ?_
      rintro ⟨name, _⟩ member
      refine bne_iff_ne.mpr ?_
      rintro rfl
      obtain ⟨n, counted, same⟩ := List.mem_map.mp (List.of_mem_zip member).1
      have least : 0 < n := (List.mem_range'_1.mp counted).1
      rw [← placeholderName_toDigits] at same
      exact unusual (placeholderName_injective same ▸ plainNumeral_toDigits least)

end Accepted

/-- Placeholders that the guard accepts stand in the named statement where they stand in the text,
each with the number of its place. A placeholder written plainly finds the value of its place under
its name, any other finds none; so the names in the statement are those of the values, each once
and in order, exactly when every placeholder is written plainly. -/
theorem accepted_placeholders (text : String) (values : List Value)
    (accepted : Sql.placeholderComplaints text values.length = .ok [])
    : text.toList = (pieces text).flatMap Piece.spelled
      ∧ (toNamedBinds text values).text.toList
        = (pieces text).flatMap (fun piece =>
            (piece.digits?.map fun digits => ':' :: (placeholderName digits).toList).getD
              piece.spelled)
      ∧ (placeholders text).length = values.length
      ∧ (∀ k digits, (placeholders text)[k]? = some digits →
        digitsValue digit? digits = k + 1
        ∧ (toNamedBinds text values).binds.lookup (placeholderName digits)
          = if PlainNumeral digits then values[k]? else none)
      ∧ ((toNamedBinds text values).binds.map Prod.fst).Nodup
      ∧ ((placeholders text).map placeholderName = (toNamedBinds text values).binds.map Prod.fst
        ↔ ∀ digits ∈ placeholders text, PlainNumeral digits) := by
  have ordered := (placeholderComplaints_eq_nil_iff.mp accepted).1
  refine ⟨(flatMap_spelled_pieces text).symm, ?_, ?_, ?_, ?_, ?_⟩
  · rw [toNamedBinds, String.toList_ofList, funext Piece.named_eq]
  · have counted := congrArg List.length ordered
    rwa [ordinals, List.length_map, List.length_range'] at counted
  · intro k digits found
    exact ⟨digitsValue_of_accepted accepted found, lookup_placeholderName accepted found⟩
  · rw [keys_binds]
    exact (List.nodup_range' 1).map bindName_injective
  · rw [keys_binds, ← ordered, ordinals, List.map_map, List.map_inj_left]
    refine forall₂_congr fun digits member => ?_
    have counted : digitsValue digit? digits ∈ List.range' 1 values.length :=
      ordered ▸ List.mem_map_of_mem member
    exact (plainNumeral_iff_name (List.mem_range'_1.mp counted).1).symm

/-- A numeral of another row is accepted in its place, and finds no value there. -/
theorem accepted_placeholders_otherRow
    : Sql.placeholderComplaints "trips.km > $1 AND trips.km < $٢" 2 = .ok []
      ∧ (toNamedBinds "trips.km > $1 AND trips.km < $٢" [.int 3, .int 9]).binds.lookup "p٢"
        = none := by
  have accepted : Sql.placeholderComplaints "trips.km > $1 AND trips.km < $٢" 2 = .ok [] := by
    decide +kernel
  obtain ⟨_, _, _, each, _, _⟩ :=
    accepted_placeholders "trips.km > $1 AND trips.km < $٢" [.int 3, .int 9] accepted
  have second : (placeholders "trips.km > $1 AND trips.km < $٢")[1]? = some ['٢'] := by
    decide +kernel
  have unusual : ¬PlainNumeral ['٢'] := by decide +kernel
  have found := (each 1 ['٢'] second).2
  rw [if_neg unusual] at found
  exact ⟨accepted, found⟩

/-- A leading zero is accepted, and leaves the placeholder with a name that no value has. -/
theorem placeholder_leadingZero_unbound
    : Sql.placeholderComplaints "SELECT $01" 1 = .ok []
      ∧ (placeholders "SELECT $01").map placeholderName = ["p01"]
      ∧ (toNamedBinds "SELECT $01" [.int 5]).text = "SELECT :p01"
      ∧ (toNamedBinds "SELECT $01" [.int 5]).binds.map Prod.fst = ["p1"] := by
  decide +kernel

end RideQuestions.Query
