import RideQuestions.Config.Settings
import RideQuestions.Proofs.Outcome
import RideQuestions.Proofs.Value.Entries

/-! What variables give to the settings. No key stands twice in the layer of some variables, so that
nothing is lost when it is laid over nothing, and a variable that names the environment gives the
field of the environment and no other.
-/

namespace RideQuestions.Config

open RideQuestions.Text

-----------------------------------------------------------------------------------------
-- Names without their letter case
-----------------------------------------------------------------------------------------

/-- Names can be selected before they are written in lower case or after, by induction. -/
theorem lowerNames_filter (p : String → Bool) (vars : Variables)
    : lowerNames (vars.filter fun v => p (lower v.1)) = (lowerNames vars).filter (p ·.1) := by
  suffices h : ∀ kept : Variables,
      (vars.filter fun v => p (lower v.1)).foldl
          (fun kept v => Value.put (lower v.1) v.2 kept) (kept.filter (p ·.1))
        = (vars.foldl (fun kept v => Value.put (lower v.1) v.2 kept) kept).filter (p ·.1) from
    h []
  induction vars with
  | nil => exact fun _ => rfl
  | cons v rest ih =>
      intro kept
      rw [List.foldl_cons, ← ih, List.filter_cons]
      split
      · next selected => rw [List.foldl_cons, Value.filter_put_of_pos selected]
      · next unselected => rw [Value.filter_put_of_not (by simpa using unselected)]

-----------------------------------------------------------------------------------------
-- Layers over nothing
-----------------------------------------------------------------------------------------

theorem overlayEntry_of_new {key : String} {value : Value} {entries : Layer}
    (new : key ∉ entries.map Prod.fst)
    : overlayEntry key value entries = entries ++ [(key, value)] := by
  induction entries with
  | nil => rw [overlayEntry, List.nil_append]
  | cons e rest ih =>
      rw [List.map_cons, List.mem_cons, not_or] at new
      unfold overlayEntry
      rw [if_neg (Ne.symm new.1), ih new.2, List.cons_append]

/-- Nothing is merged or replaced where no key stands twice, by induction. -/
theorem overlay_of_nodup {lower upper : Layer} (distinct : ((lower ++ upper).map Prod.fst).Nodup)
    : overlay lower upper = lower ++ upper := by
  induction upper generalizing lower with
  | nil => rw [overlay, List.append_nil]
  | cons e rest ih =>
      obtain ⟨key, value⟩ := e
      have new : key ∉ lower.map Prod.fst := by
        rw [List.map_append, List.nodup_append] at distinct
        exact fun stands => distinct.2.2 key stands key List.mem_cons_self rfl
      rw [overlay, overlayEntry_of_new new, ih (by simpa using distinct)]
      simp

-----------------------------------------------------------------------------------------
-- The layer of some variables
-----------------------------------------------------------------------------------------

section Selection

variable {p : String → Bool}

/-- Variables that do not begin like a section's give none of its fields, by induction. -/
theorem sectionFields_filter {name : String}
    (outside : ∀ full, p full = false → afterPrefix? (name ++ "__").toList full.toList = none)
    (type : FieldType) (vars : Variables)
    : sectionFields name type (vars.filter (p ·.1)) = sectionFields name type vars := by
  unfold sectionFields
  dsimp only
  generalize ([] : Layer) = layer
  induction vars generalizing layer with
  | nil => rfl
  | cons v rest ih =>
      rw [List.filter_cons, List.foldlM_cons]
      split
      · rw [List.foldlM_cons]
        exact bind_congr ih
      · next unselected =>
          rw [outside v.1 (by simpa using unselected), ih]
          rfl

theorem readSection_filter {name : String} (selected : p (lower name) = true)
    (outside : ∀ full, p full = false →
      afterPrefix? (lower name ++ "__").toList full.toList = none)
    (fields : List Field) (optional : Bool) (vars : Variables)
    : readSection name fields optional (vars.filter (p ·.1))
      = readSection name fields optional vars := by
  unfold readSection
  dsimp only
  rw [Value.lookup_filter_of_pos selected, sectionFields_filter outside]

end Selection

/-- The entry that a section gives to a layer, if it is given. -/
def sectionEntry (vars : Variables) (s : Section) : Except SectionError Layer := do
  let value? ← readSection s.name s.form.fields s.optional (lowerNames vars)
  return (value?.map fun value => (s.name, value)).toList

/-- The entry that a single field gives to a layer, if it is given. -/
def plainEntry (vars : Variables) (name : String) : Option (String × Value) :=
  ((lowerNames vars).lookup (lower name)).map fun text => (name, .text text)

/-- The entries of a layer without the environment. -/
def otherEntries (vars : Variables) : Except SectionError Layer :=
  (sections.mapM (sectionEntry vars)).map fun found =>
    (plainFields.map Field.name).filterMap (plainEntry vars) ++ found.flatten

/-- What the variables that name the environment say, in whatever letter case; the last one
counts. -/
def spelled? (vars : Variables) : Option String :=
  (lowerNames vars).lookup environmentField

/-- The entry that the environment gives to a layer, if it is given. -/
def environmentEntry (vars : Variables) : Layer :=
  ((spelled? vars).map fun text => (environmentField, Value.text text)).toList

/-- The variables that do not name the environment, in whatever letter case. -/
def others (vars : Variables) : Variables :=
  vars.filter fun v => lower v.1 ≠ environmentField

/-- A layer is made of the environment and the other entries. -/
theorem layerOf_eq (vars : Variables)
    : layerOf vars = (otherEntries vars).map (environmentEntry vars ++ ·) := by
  have same : lower environmentField = environmentField := by decide +kernel
  have single : (environmentField :: plainFields.map Field.name).filterMap (plainEntry vars)
      = environmentEntry vars ++ (plainFields.map Field.name).filterMap (plainEntry vars) := by
    rw [List.filterMap_cons, plainEntry, same, environmentEntry, spelled?]
    cases (lowerNames vars).lookup environmentField <;> rfl
  change (do
    let found ← sections.mapM (sectionEntry vars)
    return (environmentField :: plainFields.map Field.name).filterMap (plainEntry vars)
      ++ found.flatten) = _
  rw [single, otherEntries]
  cases sections.mapM (sectionEntry vars) with
  | error _ => rfl
  | ok found => exact congrArg Except.ok (List.append_assoc _ _ _)

-----------------------------------------------------------------------------------------
-- Leaving out the environment
-----------------------------------------------------------------------------------------

theorem lowerNames_others (vars : Variables)
    : lowerNames (others vars) = (lowerNames vars).filter (·.1 ≠ environmentField) :=
  lowerNames_filter (fun name => name ≠ environmentField) vars

theorem spelled?_others (vars : Variables)
    : spelled? (others vars) = none := by
  rw [spelled?, lowerNames_others, Value.lookup_filter_ne, if_pos rfl]

theorem environmentEntry_others (vars : Variables)
    : environmentEntry (others vars) = [] := by
  rw [environmentEntry, spelled?_others]
  rfl

/-- What names the environment gives no section. -/
theorem sectionEntry_others {s : Section} (member : s ∈ sections) (vars : Variables)
    : sectionEntry (others vars) s = sectionEntry vars s := by
  have apart : ∀ s ∈ sections, lower s.name ≠ environmentField
      ∧ afterPrefix? (lower s.name ++ "__").toList environmentField.toList = none := by
    decide +kernel
  have outside : ∀ full, decide (full ≠ environmentField) = false →
      afterPrefix? (lower s.name ++ "__").toList full.toList = none := by
    intro full same
    obtain rfl : full = environmentField := by simpa using same
    exact (apart s member).2
  unfold sectionEntry
  rw [lowerNames_others, readSection_filter (decide_eq_true (apart s member).1) outside]

/-- What names the environment gives no single field but its own. -/
theorem plainEntry_others {name : String} (member : name ∈ plainFields.map Field.name)
    (vars : Variables)
    : plainEntry (others vars) name = plainEntry vars name := by
  have apart : ∀ name ∈ plainFields.map Field.name, lower name ≠ environmentField := by
    decide +kernel
  unfold plainEntry
  rw [lowerNames_others, Value.lookup_filter_ne, if_neg (apart name member)]

theorem otherEntries_others (vars : Variables)
    : otherEntries (others vars) = otherEntries vars := by
  rw [otherEntries, mapM_congr fun s member => sectionEntry_others member vars,
    List.filterMap_congr fun name member => plainEntry_others member vars, otherEntries]

-----------------------------------------------------------------------------------------
-- Keys
-----------------------------------------------------------------------------------------

theorem keys_plainEntries (vars : Variables) (names : List String)
    : ((names.filterMap (plainEntry vars)).map Prod.fst).Sublist names := by
  induction names with
  | nil => exact List.nil_sublist _
  | cons name rest ih =>
      rw [List.filterMap_cons]
      unfold plainEntry
      cases (lowerNames vars).lookup (lower name) with
      | none => exact ih.cons name
      | some text => exact ih.cons_cons name

theorem keys_sectionEntry {vars : Variables} {s : Section} {entries : Layer}
    (read : sectionEntry vars s = .ok entries)
    : (entries.map Prod.fst).Sublist [s.name] := by
  obtain ⟨value?, _, same⟩ := bind_eq_ok_iff.mp read
  obtain rfl := Except.ok.inj same
  cases value? with
  | none => exact List.nil_sublist _
  | some value => exact List.Sublist.refl _

/-- The entries of sections have the names of these, by induction. -/
theorem keys_sectionEntries {vars : Variables} {sections : List Section} {found : List Layer}
    (read : sections.mapM (sectionEntry vars) = .ok found)
    : (found.flatten.map Prod.fst).Sublist (sections.map Section.name) := by
  have each := mapM_eq_ok_iff.mp read
  clear read
  induction each with
  | nil => exact List.nil_sublist _
  | cons first _ ih =>
      rw [List.flatten_cons, List.map_append]
      exact (keys_sectionEntry first).append ih

/-- The other entries have the names of single fields and of sections, in their order. -/
theorem keys_otherEntries {vars : Variables} {rest : Layer} (given : otherEntries vars = .ok rest)
    : (rest.map Prod.fst).Sublist (plainFields.map Field.name ++ sections.map Section.name) := by
  unfold otherEntries at given
  cases read : sections.mapM (sectionEntry vars) with
  | error error =>
      rw [read] at given
      exact absurd given (by simp [Except.map])
  | ok found =>
      rw [read] at given
      obtain rfl := Except.ok.inj given
      rw [List.map_append]
      exact (keys_plainEntries vars _).append (keys_sectionEntries read)

/-- Variables alone make the layer that they give. -/
theorem layer_vars (vars : Variables)
    : Sources.layer { vars } = layerOf vars := by
  have nothing : layerOf [] = .ok [] := rfl
  unfold Sources.layer
  dsimp only [Option.map_none, Option.getD_none]
  rw [nothing, layerOf_eq]
  cases given : otherEntries vars with
  | error error => rfl
  | ok rest =>
      have first : ((environmentEntry vars).map Prod.fst).Sublist [environmentField] := by
        unfold environmentEntry
        cases spelled? vars with
        | none => exact List.nil_sublist _
        | some text => exact List.Sublist.refl _
      have distinct : ((environmentEntry vars ++ rest).map Prod.fst).Nodup := by
        rw [List.map_append]
        exact (first.append (keys_otherEntries given)).nodup (by decide)
      have whole : overlay [] (environmentEntry vars ++ rest)
          = [] ++ (environmentEntry vars ++ rest) := overlay_of_nodup distinct
      change Except.ok (overlay (overlay [] (environmentEntry vars ++ rest)) []) = _
      rw [overlay, whole]
      rfl

end RideQuestions.Config
