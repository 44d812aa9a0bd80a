import Mathlib.Data.List.Basic
import RideQuestions.Service.Answer

/-! Which results can be collapsed. All can but those with one of a few numbers: an infinite decimal
wherever its plain form is needed, what has no nearest whole number as an average, and what is too
great for a double as a total.
-/

namespace RideQuestions

open Number

namespace Answer

-----------------------------------------------------------------------------------------
-- Outcomes that are a success
-----------------------------------------------------------------------------------------

section Outcomes

variable {ε α β : Type}

@[simp] theorem isOk_ok (a : α)
    : (.ok a : Except ε α).isOk = true :=
  rfl

@[simp] theorem isOk_error (e : ε)
    : (.error e : Except ε α).isOk = false :=
  rfl

@[simp] theorem isOk_bind_pure (x : Except ε α) (f : α → β)
    : (x >>= fun a => pure (f a)).isOk = x.isOk := by
  cases x <;> rfl

/-- A list is mapped with success exactly when each item is, by induction. -/
theorem isOk_mapM (f : α → Except ε β) (items : List α)
    : (items.mapM f).isOk = items.all fun item => (f item).isOk := by
  induction items with
  | nil => rfl
  | cons item rest ih =>
      rw [List.mapM_cons, List.all_cons, ← ih]
      cases f item with
      | error e => rfl
      | ok b => exact isOk_bind_pure (rest.mapM f) (b :: ·)

end Outcomes

-----------------------------------------------------------------------------------------
-- Numbers with a form of another kind
-----------------------------------------------------------------------------------------

/-- Whether a value has a form without decimals. -/
def hasPlainForm : Value → Bool
  | .decimal (.infinity _) => false
  | _ => true

/-- Whether a value has a nearest whole number, or is no number. -/
def hasWholeForm : Value → Bool
  | .float x => x.isFinite
  | .decimal (.finite _ _ _) => true
  | .decimal _ => false
  | _ => true

/-- Whether a value has a form as a double, or is no number. -/
def hasDoubleForm : Value → Bool
  | .int n => !(Binary64.ofInt n).isInfinite
  | _ => true

/-- Whether the only cell of a result has the form that the intent of its question asks for. -/
def hasForm : Intent → Value → Bool
  | .average => hasWholeForm
  | .total => hasDoubleForm
  | _ => hasPlainForm

/-- Whether rows can be collapsed: the only cell has the form that is asked for, a single row leads
with a text, or all cells have a plain form. -/
def collapsible (intent : Intent) : List Row → Bool
  | [[(_, value)]] => hasForm intent value
  | [(_, .text _) :: _] => true
  | rows => rows.all fun row => row.all fun cell => hasPlainForm cell.2

theorem isOk_plainValue (value : Value)
    : (plainValue value).isOk = hasPlainForm value := by
  cases value with
  | decimal d =>
      cases d with
      | finite negative coefficient exponent =>
          rw [plainValue]
          split <;> rfl
      | infinity | nan => rfl
  | _ => rfl

theorem isOk_rounded (value : Value)
    : (rounded value).isOk = hasWholeForm value := by
  cases value with
  | float x =>
      have trichotomy : (!x.isNaN && !x.isInfinite) = x.isFinite := by
        rw [Bool.eq_iff_iff]
        simp only [Binary64.isNaN, Binary64.isInfinite, Binary64.isFinite, Bool.and_eq_true,
          Bool.not_eq_true', decide_eq_false_iff_not, decide_eq_true_eq]
        omega
      rw [rounded, hasWholeForm, ← trichotomy]
      cases x.isNaN <;> cases x.isInfinite <;> rfl
  | decimal d => cases d <;> rfl
  | _ => rfl

theorem isOk_tenths (value : Value)
    : (tenths value).isOk = hasDoubleForm value := by
  cases value with
  | int n =>
      rw [tenths, hasDoubleForm]
      cases (Binary64.ofInt n).isInfinite <;> rfl
  | _ => rfl

theorem isOk_scalar (intent : Intent) (value : Value)
    : (scalar intent value).isOk = hasForm intent value := by
  cases intent with
  | average => exact isOk_rounded value
  | total => exact isOk_tenths value
  | _ => exact isOk_plainValue value

theorem isOk_plainRow (row : Row)
    : (plainRow row).isOk = row.all fun cell => hasPlainForm cell.2 := by
  rw [plainRow, isOk_bind_pure, isOk_mapM]
  simp only [isOk_bind_pure, isOk_plainValue]

/-- Collapsing succeeds exactly for rows that can be collapsed. The cases are those in which rows
are told apart: by their number, by the number of cells, and by what leads the only row. -/
theorem isOk_ofRows (rows : List Row) (intent : Intent)
    : (ofRows rows intent).isOk = collapsible intent rows := by
  match rows with
  | [] => rfl
  | [[]] => rfl
  | [[(_, value)]] => exact isOk_scalar intent value
  | [(name, value) :: cell :: rest] =>
      cases value with
      | text _ => rfl
      | _ =>
          refine (isOk_bind_pure _ _).trans ?_
          rw [isOk_plainRow]
          exact (Bool.and_true _).symm
  | first :: second :: rest =>
      have kept : ofRows (first :: second :: rest) intent
          = (first :: second :: rest).mapM plainRow >>= fun rows => pure (.list rows) := by
        rw [ofRows] <;> simp
      rw [kept, isOk_bind_pure, isOk_mapM]
      simp only [isOk_plainRow, collapsible]

end Answer

end RideQuestions
