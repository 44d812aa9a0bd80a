import RideQuestions.Proofs.Number.Decimals
import RideQuestions.Proofs.Outcome
import RideQuestions.Service.Answer

/-! What rows are collapsed to. Forms of single values are told by their exact values, and the shape
of the whole by how many rows and cells there are and by what comes first. No decimal is left in it.
-/

namespace RideQuestions.Answer

open Number

-----------------------------------------------------------------------------------------
-- Forms of single values
-----------------------------------------------------------------------------------------

/-- Truth values are no numbers. -/
def isNumber : Value → Bool
  | .int _ => true
  | .float _ => true
  | .decimal _ => true
  | _ => false

/-- The exact value of a number that has one. -/
def exactValue? : Value → Option ℚ
  | .int n => some n
  | .float x => if x.isFinite then some x.toRat else none
  | .decimal (.finite negative coefficient exponent) =>
      some (Decimal.toRat negative coefficient exponent)
  | _ => none

/-- A value is no number, or one that has an exact value. -/
def IsFinite (value : Value) : Prop :=
  isNumber value = true → (exactValue? value).isSome = true

/-- A whole decimal becomes the equal whole number and any other one its nearest double; nothing
else changes. -/
inductive PlainForm : Value → Value → Prop where
  | whole {negative : Bool} {coefficient : ℕ} {exponent n : ℤ}
      (equal : Decimal.toRat negative coefficient exponent = n)
      : PlainForm (.decimal (.finite negative coefficient exponent)) (.int n)
  | part {negative : Bool} {coefficient : ℕ} {exponent : ℤ} {x : Binary64}
      (part : ∀ n : ℤ, Decimal.toRat negative coefficient exponent ≠ n)
      (nearest : Binary64.Nearest (Decimal.toRat negative coefficient exponent) x)
      : PlainForm (.decimal (.finite negative coefficient exponent)) (.float x)
  | same {value : Value} (other : ∀ d, value ≠ .decimal d) : PlainForm value value

/-- A number becomes the nearest whole one. -/
inductive WholeForm : Value → Value → Prop where
  | nearest {value : Value} {q : ℚ} {n : ℤ} (exact : exactValue? value = some q)
      (nearest : NearestInt q n) : WholeForm value (.int n)
  | same {value : Value} (other : isNumber value = false) : WholeForm value value

/-- A number becomes its nearest double, and this the double nearest to the nearest number of tenths
unless it is infinite. -/
inductive TenthsForm : Value → Value → Prop where
  | rounded {value : Value} {q : ℚ} {double x : Binary64} {tenths : ℤ}
      (exact : exactValue? value = some q) (nearest : Binary64.Nearest q double)
      (finite : double.isFinite = true) (rounded : NearestInt (double.toRat * 10) tenths)
      (written : Binary64.Nearest (tenths / 10) x) : TenthsForm value (.float x)
  | infinite {value : Value} {q : ℚ} {double : Binary64} (exact : exactValue? value = some q)
      (nearest : Binary64.Nearest q double) (beyond : double.isInfinite = true)
      : TenthsForm value (.float double)
  | same {value : Value} (other : isNumber value = false) : TenthsForm value value

/-- The form of the only cell of a result, by the intent of the question. -/
def CellForm : Intent → Value → Value → Prop
  | .average => WholeForm
  | .total => TenthsForm
  | _ => PlainForm

variable {value result : Value} {intent : Intent}

theorem isFinite_of_float {x : Binary64} (finite : IsFinite (.float x))
    : x.isFinite = true := by
  by_contra outside
  have exact := finite rfl
  rw [exactValue?, if_neg outside] at exact
  exact absurd exact (by decide)

theorem exists_plainForm (finite : IsFinite value)
    : ∃ form, plainValue value = .ok form ∧ PlainForm value form := by
  cases value with
  | decimal d =>
      cases d with
      | finite negative coefficient exponent =>
          rw [plainValue]
          split
          · next whole =>
              exact ⟨_, rfl, .whole (Decimal.toRat_eq_roundFinite _ _ _ whole)⟩
          · next part =>
              refine ⟨_, rfl, .part (fun n equal => part ?_) (Decimal.nearest_nearestBinary _ _ _)⟩
              exact (Decimal.isWhole_iff negative coefficient exponent).mpr ⟨n, equal⟩
      | infinity | nan => exact absurd (finite rfl) nofun
  | _ => exact ⟨_, rfl, .same nofun⟩

theorem exists_wholeForm (finite : IsFinite value)
    : ∃ form, rounded value = .ok form ∧ WholeForm value form := by
  cases value with
  | int n => exact ⟨_, rfl, .nearest rfl (nearestInt_self n)⟩
  | float x =>
      have inside := isFinite_of_float finite
      obtain ⟨number, bounded⟩ := Binary64.isFinite_iff.mp inside
      refine ⟨.int x.round, ?_, .nearest (if_pos inside) (Binary64.nearestInt_round x)⟩
      rw [rounded, number, bounded]
      rfl
  | decimal d =>
      cases d with
      | finite negative coefficient exponent =>
          exact ⟨_, rfl, .nearest rfl (Decimal.nearestInt_roundFinite _ _ _)⟩
      | infinity | nan => exact absurd (finite rfl) nofun
  | _ => exact ⟨_, rfl, .same rfl⟩

/-- Rounding the nearest double of a number to tenths gives its form in tenths. -/
theorem tenthsForm_roundTo {q : ℚ} {double : Binary64} (exact : exactValue? value = some q)
    (nearest : Binary64.Nearest q double)
    : TenthsForm value (.float (double.roundTo 1)) := by
  by_cases finite : double.isFinite = true
  · obtain ⟨tenths, rounded, written⟩ := Binary64.exists_roundTo finite 1
    rw [pow_one] at rounded written
    exact .rounded exact nearest finite rounded written
  · have beyond : double.isInfinite = true := by
      by_contra bounded
      exact finite (Binary64.isFinite_iff.mpr ⟨nearest.number, by simpa using bounded⟩)
    rw [Binary64.roundTo, if_neg finite]
    exact .infinite exact nearest beyond

theorem exists_tenthsForm (finite : IsFinite value)
    (inRange : ∀ n, value = .int n → |(n : ℚ)| < Binary64.overflow)
    : ∃ form, tenths value = .ok form ∧ TenthsForm value form := by
  cases value with
  | int n =>
      have nearest := Binary64.nearest_ofInt n
      have bounded : (Binary64.ofInt n).isInfinite = false := by
        by_contra beyond
        exact absurd (nearest.infinite.mp (by simpa using beyond)) (not_le.mpr (inRange n rfl))
      refine ⟨_, ?_, tenthsForm_roundTo rfl nearest⟩
      rw [tenths, bounded]
      rfl
  | float x =>
      have inside := isFinite_of_float finite
      exact ⟨_, rfl, tenthsForm_roundTo (if_pos inside) (Binary64.nearest_toRat inside)⟩
  | decimal d =>
      cases d with
      | finite negative coefficient exponent =>
          exact ⟨_, rfl, tenthsForm_roundTo rfl (Decimal.nearest_nearestBinary _ _ _)⟩
      | infinity | nan => exact absurd (finite rfl) nofun
  | _ => exact ⟨_, rfl, .same rfl⟩

theorem exists_cellForm (finite : IsFinite value)
    (inRange : intent = .total → ∀ n, value = .int n → |(n : ℚ)| < Binary64.overflow)
    : ∃ form, scalar intent value = .ok form ∧ CellForm intent value form := by
  cases intent with
  | average => exact exists_wholeForm finite
  | total => exact exists_tenthsForm finite (inRange rfl)
  | _ => exact exists_plainForm finite

-----------------------------------------------------------------------------------------
-- Shapes of whole results
-----------------------------------------------------------------------------------------

/-- Rows with the same names in the same order, and cells in their plain forms. -/
def PlainRows (rows plain : List Row) : Prop :=
  List.Forall₂
    (List.Forall₂ fun cell form => form.1 = cell.1 ∧ PlainForm cell.2 form.2) rows plain

/-- What rows are collapsed to: nothing, the form of the only cell, the text that leads the only row
of several cells, or all the rows. -/
inductive Collapsed (intent : Intent) : List Row → Value → Prop where
  | nothing : Collapsed intent [] .null
  | cell {name : String} {value result : Value} (form : CellForm intent value result)
      : Collapsed intent [[(name, value)]] result
  | text {name text : String} {next : String × Value} {rest : Row}
      : Collapsed intent [(name, .text text) :: next :: rest] (.text text)
  | rows {rows plain : List Row} (filled : rows ≠ []) (noCell : ∀ cell, rows ≠ [[cell]])
      (noText : ∀ name text rest, rows ≠ [(name, .text text) :: rest])
      (forms : PlainRows rows plain)
      : Collapsed intent rows (.list (plain.map .map))

theorem exists_plainRow {row : Row} (finite : ∀ cell ∈ row, IsFinite cell.2)
    : ∃ plain : Row, plainRow row = .ok (.map plain)
        ∧ List.Forall₂ (fun cell form => form.1 = cell.1 ∧ PlainForm cell.2 form.2) row plain := by
  have each : ∀ cell ∈ row, ∃ form : String × Value,
      (do return (cell.1, ← plainValue cell.2) : Except NumberError (String × Value)) = .ok form
        ∧ form.1 = cell.1 ∧ PlainForm cell.2 form.2 := by
    intro cell member
    obtain ⟨form, made, plain⟩ := exists_plainForm (finite cell member)
    refine ⟨(cell.1, form), ?_, rfl, plain⟩
    rw [made]
    rfl
  obtain ⟨plain, made, forms⟩ := exists_mapM_eq_ok each
  refine ⟨plain, ?_, forms⟩
  rw [plainRow, made]
  rfl

/-- All rows are collapsed to the list of their plain forms. -/
theorem exists_plainRows {rows : List Row} (finite : ∀ row ∈ rows, ∀ cell ∈ row, IsFinite cell.2)
    : ∃ plain : List Row, rows.mapM plainRow = .ok (plain.map .map) ∧ PlainRows rows plain := by
  induction rows with
  | nil => exact ⟨[], rfl, .nil⟩
  | cons row rest ih =>
      obtain ⟨first, others⟩ := List.forall_mem_cons.mp finite
      obtain ⟨plain, made, form⟩ := exists_plainRow first
      obtain ⟨more, made', forms⟩ := ih others
      refine ⟨plain :: more, ?_, .cons form forms⟩
      rw [List.mapM_cons, made, made']
      rfl

/-- Rows that have neither one cell only nor a text in front are kept as rows. -/
theorem ofRows_of_plainRows {rows plain : List Row} (filled : rows ≠ [])
    (noCell : ∀ cell, rows ≠ [[cell]])
    (noText : ∀ name text rest, rows ≠ [(name, .text text) :: rest])
    (made : rows.mapM plainRow = .ok (plain.map .map)) (intent : Intent)
    : ofRows rows intent = .ok (.list (plain.map .map)) := by
  have kept : ofRows rows intent = rows.mapM plainRow >>= fun rows => pure (.list rows) := by
    match rows, filled, noCell, noText with
    | [[]], _, _, _ => rfl
    | [[cell]], _, noCell, _ => exact absurd rfl (noCell cell)
    | [(name, value) :: next :: rest], _, _, noText =>
        have untexted : leadingText? ((name, value) :: next :: rest) = none := by
          cases value with
          | text text => exact absurd rfl (noText name text (next :: rest))
          | _ => rfl
        rw [ofRows, untexted, List.mapM_cons, List.mapM_nil]
        · cases plainRow ((name, value) :: next :: rest) <;> rfl
        · exact nofun
    | first :: second :: rest, _, _, _ => rw [ofRows] <;> simp
  rw [kept, made]
  rfl

/-- A plain form is no decimal. -/
theorem PlainForm.not_decimal (h : PlainForm value result) (d : Decimal)
    : result ≠ .decimal d := by
  cases h with
  | whole | part => exact nofun
  | same other => exact other d

theorem CellForm.not_decimal (h : CellForm intent value result) (d : Decimal)
    : result ≠ .decimal d := by
  cases intent with
  | average =>
      rcases h with _ | other
      · exact nofun
      · rintro rfl
        exact absurd other (by simp [isNumber])
  | total =>
      rcases h with _ | _ | other
      · exact nofun
      · exact nofun
      · rintro rfl
        exact absurd other (by simp [isNumber])
  | _ => exact PlainForm.not_decimal h d

theorem PlainRows.not_decimal {rows plain : List Row} (h : PlainRows rows plain)
    : ∀ row ∈ plain, ∀ cell ∈ row, ∀ d, cell.2 ≠ .decimal d := by
  refine forall_of_forall₂ h fun _ _ forms => ?_
  exact forall_of_forall₂ forms fun _ _ form => form.2.not_decimal

/-- Rows whose numbers are finite are collapsed for every intent, with a total of one whole number
as long as this is in the range of doubles. What comes of them is nothing for no rows, the form of
the only cell that the intent asks for, the text that leads the only row of several cells, and
otherwise the plain forms of all rows, in their order and under their names. It is no decimal, and
neither is any cell of the rows in it. -/
theorem ofRows_collapsed (rows : List Row) (intent : Intent)
    (finite : ∀ row ∈ rows, ∀ cell ∈ row, IsFinite cell.2)
    (inRange : intent = .total → ∀ name n, rows = [[(name, .int n)]] →
      |(n : ℚ)| < Binary64.overflow)
    : ∃ result, ofRows rows intent = .ok result ∧ Collapsed intent rows result
        ∧ (∀ d, result ≠ .decimal d)
        ∧ ((∀ cell, rows ≠ [[cell]]) → ∀ items, result = .list items →
            ∀ item ∈ items, ∃ row, item = .map row ∧ ∀ cell ∈ row, ∀ d, cell.2 ≠ .decimal d) := by
  by_cases filled : rows = []
  · subst filled
    exact ⟨.null, rfl, .nothing, nofun, fun _ _ => nofun⟩
  by_cases single : ∃ cell, rows = [[cell]]
  · obtain ⟨⟨name, value⟩, rfl⟩ := single
    have inside : IsFinite value := finite _ List.mem_cons_self (name, value) List.mem_cons_self
    obtain ⟨form, made, formed⟩ := exists_cellForm inside
      fun total n same => inRange total name n (by rw [same])
    exact ⟨form, made, .cell formed, formed.not_decimal, fun other => absurd rfl (other _)⟩
  by_cases leading : ∃ name text rest, rows = [(name, .text text) :: rest]
  · obtain ⟨name, text, rest, rfl⟩ := leading
    cases rest with
    | nil => exact absurd ⟨_, rfl⟩ single
    | cons next rest => exact ⟨.text text, rfl, .text, nofun, fun _ _ => nofun⟩
  · have noCell : ∀ cell, rows ≠ [[cell]] := by simpa using single
    have noText : ∀ name text rest, rows ≠ [(name, .text text) :: rest] := by simpa using leading
    obtain ⟨plain, made, forms⟩ := exists_plainRows finite
    refine ⟨_, ofRows_of_plainRows filled noCell noText made intent,
      .rows filled noCell noText forms, nofun, fun _ items same item member => ?_⟩
    obtain rfl := Value.list.inj same
    obtain ⟨row, kept, rfl⟩ := List.mem_map.mp member
    exact ⟨row, rfl, forms.not_decimal row kept⟩

/-- Two and a half lies between two whole numbers, and as an average it becomes the even one. -/
theorem ofRows_collapsed_half
    : ofRows [[("average", .decimal (.finite false 25 (-1)))]] .average = .ok (.int 2)
        ∧ NearestInt (Decimal.toRat false 25 (-1)) 2 := by
  obtain ⟨result, made, collapsed, _⟩ := ofRows_collapsed
    [[("average", .decimal (.finite false 25 (-1)))]] .average
    (by simp [IsFinite, exactValue?]) (by simp)
  obtain rfl : Value.int 2 = result := Except.ok.inj made
  refine ⟨made, ?_⟩
  cases collapsed with
  | cell form =>
      cases form with
      | nearest exact nearest =>
          obtain rfl := Option.some.inj exact
          exact nearest

end RideQuestions.Answer
