import RideQuestions.Proofs.Config.Layers
import RideQuestions.Proofs.Text.Trimming

/-! The database of the settings. It is the one of its own section where one is given, and otherwise
the one that single fields describe, which are looked at before the white space around them is left
out.
-/

namespace RideQuestions.Config

open RideQuestions.Text

-----------------------------------------------------------------------------------------
-- Records
-----------------------------------------------------------------------------------------

/-- What a field is read as from given values. -/
def Field.read (trims : Bool) (field : Field) (given : List (String × Value))
    : Except (List Issue) Value :=
  match Value.lookup? field.name given with
  | some value => check trims field.type value
  | none =>
      match field.default with
      | some value => .ok value
      | none => .error [.here .missing]

theorem combine_eq_ok_iff {name : String} {first : Except (List Issue) Value}
    {rest : Except (List Issue) Record} {record : Record}
    : combine name first rest = .ok record
      ↔ ∃ value more, first = .ok value ∧ rest = .ok more ∧ record = (name, value) :: more := by
  cases first <;> cases rest <;> simp [combine, eq_comm]

/-- Fields are checked one by one. -/
theorem checkFields_cons (trims : Bool) (field : Field) (rest : List Field)
    (given : List (String × Value))
    : checkFields trims (field :: rest) given
      = combine field.name (field.read trims given) (checkFields trims rest given) := by
  obtain ⟨name, type, default⟩ := field
  conv_lhs => unfold checkFields
  rfl

/-- A record holds what each of its fields is read as under the name of the field, by induction. -/
theorem lookup?_of_checkFields {trims : Bool} {fields : List Field} {given : List (String × Value)}
    {record : Record} (checked : checkFields trims fields given = .ok record)
    (distinct : (fields.map Field.name).Nodup) {field : Field} (member : field ∈ fields)
    : ∃ value, field.read trims given = .ok value
        ∧ Value.lookup? field.name record = some value := by
  induction fields generalizing record with
  | nil => exact absurd member List.not_mem_nil
  | cons first rest ih =>
      rw [checkFields_cons] at checked
      obtain ⟨value, more, read, others, rfl⟩ := combine_eq_ok_iff.mp checked
      obtain ⟨new, distinct⟩ := List.nodup_cons.mp distinct
      rcases List.mem_cons.mp member with rfl | member
      · exact ⟨value, read, by simp [Value.lookup?]⟩
      · have other : first.name ≠ field.name := by
          intro same
          exact new (same ▸ List.mem_map_of_mem member)
        obtain ⟨found, read, stands⟩ := ih others distinct member
        refine ⟨found, read, ?_⟩
        rw [← stands]
        simp [Value.lookup?, other]

/-- The value of a field for a text, secret or not, is a text. -/
theorem exists_text_of_read {trims : Bool} {name default : String} {type : FieldType}
    (textual : type = .text ∨ type = .secret) {given : List (String × Value)} {value : Value}
    (read : (Field.mk name type (some (.text default))).read trims given = .ok value)
    : ∃ text, value = .text text := by
  unfold Field.read at read
  split at read
  · next found _ =>
      rcases textual with rfl | rfl
      all_goals
        cases found <;> cases read
        exact ⟨_, rfl⟩
  · obtain rfl := Except.ok.inj read
    exact ⟨default, rfl⟩

/-- The single fields of loaded settings hold texts where they are texts, secret or not. -/
theorem lookup?_plain {layer : Layer} {plain : Record}
    (checked : checkFields false plainFields layer = .ok plain) {name default : String}
    {type : FieldType} (textual : type = .text ∨ type = .secret)
    (member : Field.mk name type (some (.text default)) ∈ plainFields)
    : Value.lookup? name plain = some (.text (Record.text plain name "")) := by
  have distinct : (plainFields.map Field.name).Nodup := by decide
  obtain ⟨value, read, stands⟩ := lookup?_of_checkFields checked distinct member
  obtain ⟨text, rfl⟩ := exists_text_of_read textual read
  have stands : Value.lookup? name plain = some (.text text) := stands
  rw [Record.text, stands]

/-- A text is read from a record as before when another field is written. -/
theorem Record.text_put_of_ne {name other : String} (apart : name ≠ other) (value : Value)
    (record : Record) (default : String)
    : Record.text (Value.put other value record) name default
      = Record.text record name default := by
  rw [Record.text, Value.lookup?_eq_lookup, Value.lookup_put, if_neg apart,
    ← Value.lookup?_eq_lookup, ← Record.text]

-----------------------------------------------------------------------------------------
-- The database section
-----------------------------------------------------------------------------------------

/-- Holds when a layer gives a database section that is not null. -/
def Layer.GivesDatabase (layer : Layer) : Prop :=
  ∃ value, Value.lookup? databaseSection.name layer = some value ∧ value ≠ .null

/-- A nested form is filled with a map. -/
theorem exists_map_of_check {trims : Bool} {fields : List Field} {value checked : Value}
    (valid : check trims (.nested fields) value = .ok checked)
    : ∃ record, checked = .map record := by
  unfold check at valid
  split at valid
  · split at valid
    · exact ⟨_, (Except.ok.inj valid).symm⟩
    all_goals exact absurd valid (by simp)
  · exact absurd valid (by simp)

/-- The database section of a layer is there exactly when the layer gives one. -/
theorem sectionOf_database {layer : Layer} {given : Option Record}
    (valid : sectionOf databaseSection layer none = .ok given)
    : given = none ↔ ¬Layer.GivesDatabase layer := by
  unfold sectionOf at valid
  unfold Layer.GivesDatabase
  cases found : Value.lookup? databaseSection.name layer with
  | none =>
      rw [found] at valid
      obtain rfl := Except.ok.inj valid
      simp
  | some value =>
      rw [found] at valid
      dsimp only at valid
      by_cases null : value = .null
      · obtain rfl := null
        obtain rfl := Except.ok.inj valid
        simp
      · refine iff_of_false ?_ (by simp [null])
        unfold checkSection at valid
        split at valid
        · exact absurd rfl null
        · split at valid
          · obtain rfl := Except.ok.inj valid
            simp
          · next unmapped filled =>
              obtain ⟨record, rfl⟩ := exists_map_of_check filled
              exact absurd rfl (unmapped record)
          · exact absurd valid (by simp)

-----------------------------------------------------------------------------------------
-- The database of loaded settings
-----------------------------------------------------------------------------------------

/-- The fields that describe a database which is not given by a section. -/
def describingFields : List String :=
  ["PGHOST", "PGDATABASE", "PGUSER"]

/-- A database is the one that single fields describe, without the white space around them; the
password stays as it is. -/
structure DerivedFrom (plain : Record) (config : DatabaseConfig) : Prop where
  host : config.host = trimSpace (Record.text plain "PGHOST" "")
  database : config.database = trimSpace (Record.text plain "PGDATABASE" "")
  username : config.username = trimSpace (Record.text plain "PGUSER" "")
  password : config.password = Record.text plain "PGPASSWORD" ""

/-- Each part of a derived database is empty where its field is all white space. -/
theorem DerivedFrom.filled_iff {plain : Record} {config : DatabaseConfig}
    (h : DerivedFrom plain config)
    : config.host ≠ "" ∧ config.database ≠ "" ∧ config.username ≠ ""
      ↔ ∀ name ∈ describingFields, ∃ c ∈ (Record.text plain name "").toList, isSpace c = false := by
  have filled {part text : String} (trimmed : part = trimSpace text)
      : part ≠ "" ↔ ∃ c ∈ text.toList, isSpace c = false := by
    rw [trimmed, ne_eq, trimSpace_eq_empty_iff]
    simp
  rw [filled h.host, filled h.database, filled h.username]
  simp [describingFields]

theorem checkFields_of_fill {form : Form} {given : List (String × Value)} {record : Record}
    (filled : form.fill given = .ok record)
    : checkFields form.trims form.fields given = .ok record := by
  unfold Form.fill at filled
  split at filled
  · next checked _ => exact Except.ok.inj filled ▸ checked
  all_goals exact absurd filled (by simp)

/-- A text that a database needs is the given one without the white space around it. -/
theorem text_of_fill {given : List (String × Value)} {record : Record}
    (filled : databaseForm.fill given = .ok record) {name text : String}
    (member : Field.mk name .text none ∈ databaseForm.fields)
    (stands : Value.lookup? name given = some (.text text))
    : Record.text record name "" = trimSpace text := by
  have distinct : (databaseForm.fields.map Field.name).Nodup := by decide
  obtain ⟨value, read, held⟩ :=
    lookup?_of_checkFields (checkFields_of_fill filled) distinct member
  have read : (Field.mk name .text none).read true given = .ok value := read
  have held : Value.lookup? name record = some value := held
  unfold Field.read Field.name at read
  rw [stands] at read
  obtain rfl : value = .text (trimSpace text) := (Except.ok.inj read).symm
  rw [Record.text, held]

/-- What single fields describe is a database derived from them. -/
theorem derivedFrom_of_derivedDatabase {layer : Layer} {plain : Record}
    (checked : checkFields false plainFields layer = .ok plain) {record : Record}
    (derived : derivedDatabase plain = .ok (some record))
    : DerivedFrom plain (.ofRecord record) := by
  unfold derivedDatabase at derived
  split at derived
  · obtain ⟨filled, made, same⟩ := map_eq_ok_iff.mp derived
    obtain rfl := Option.some.inj same
    have held (name default : String)
        (member : Field.mk name .text (some (.text default)) ∈ plainFields)
        : (Value.lookup? name plain).getD .null = .text (Record.text plain name "") := by
      rw [lookup?_plain checked (.inl rfl) member, Option.getD_some]
    have password : Field.mk "PGPASSWORD" .secret (some (.text "")) ∈ plainFields := by
      simp [plainFields]
    dsimp only at made
    rw [held "PGHOST" "" (by simp [plainFields]), held "PGDATABASE" "" (by simp [plainFields]),
      held "PGUSER" "" (by simp [plainFields])] at made
    have kept {name : String} (apart : name ≠ "password") (secret : Value)
        : Record.text (Value.put "password" secret filled) name "" = Record.text filled name "" :=
      Record.text_put_of_ne apart secret filled ""
    refine ⟨(kept (by decide) _).trans (text_of_fill made (by simp [databaseForm]) rfl),
      (kept (by decide) _).trans (text_of_fill made (by simp [databaseForm]) rfl),
      (kept (by decide) _).trans (text_of_fill made (by simp [databaseForm]) rfl), ?_⟩
    dsimp only [DatabaseConfig.ofRecord]
    rw [lookup?_plain checked (.inr rfl) password, Option.getD_some, Record.text,
      Value.lookup?_eq_lookup, Value.lookup_put, if_pos rfl]
  · exact absurd derived (by simp)

/-- Settings that are made from a layer have its single fields and a database and a server that are
given or derived from these, and all sections of the layer are valid. -/
theorem Settings.ofLayer_parts {layer : Layer} {detected : Environment} {settings : Settings}
    (made : Settings.ofLayer layer detected = .ok settings)
    : checkFields false plainFields layer = .ok settings.plain
      ∧ (∃ given, sectionOf databaseSection layer none = .ok given
        ∧ databaseOf given settings.plain = .ok settings.database)
      ∧ (∃ record, sectionOf compilerSection layer (some compilerForm.defaults) = .ok record)
      ∧ (∃ given, sectionOf serverSection layer none = .ok given
        ∧ serverOf given settings.plain = .ok settings.server)
      ∧ ∃ record, sectionOf loggingSection layer (some (loggingDefaults detected)) = .ok record := by
  unfold Settings.ofLayer at made
  dsimp only at made
  split at made
  · next _ plain database compiler server logging _ hp hd hc hs hl =>
      obtain ⟨_, madeDatabase, made⟩ := bind_eq_ok_iff.mp made
      obtain ⟨_, madeServer, made⟩ := bind_eq_ok_iff.mp made
      obtain rfl := Except.ok.inj made
      exact ⟨hp, ⟨database, hd, madeDatabase⟩, ⟨compiler, hc⟩, ⟨server, hs, madeServer⟩,
        ⟨logging, hl⟩⟩
  · exact absurd made (by simp)

/-- Single fields describe no database exactly when one that is needed is empty. -/
theorem derivedDatabase_eq_none_iff {plain : Record} {database : Option Record}
    (derived : derivedDatabase plain = .ok database)
    : database = none ↔ Settings.missingIn plain ≠ [] := by
  unfold derivedDatabase at derived
  split at derived
  · next complete =>
      obtain ⟨record, _, rfl⟩ := map_eq_ok_iff.mp derived
      exact iff_of_false (by simp) (by simpa using complete)
  · next incomplete =>
      obtain rfl := Except.ok.inj derived
      exact iff_of_true rfl (by simpa using incomplete)

namespace Settings

variable {layer : Layer} {detected : Environment} {settings : Settings}

/-- There is no database exactly when no section gives one and a needed single field is empty. -/
theorem database_eq_none_iff (made : ofLayer layer detected = .ok settings)
    : settings.database = none ↔ ¬Layer.GivesDatabase layer ∧ settings.missing ≠ [] := by
  obtain ⟨_, ⟨given, valid, derived⟩, _⟩ := ofLayer_parts made
  rw [← sectionOf_database valid]
  cases given with
  | none =>
      rw [derivedDatabase_eq_none_iff derived]
      exact (and_iff_right rfl).symm
  | some record =>
      rw [← Except.ok.inj derived]
      simp

/-- A database that no section gives is derived from the single fields. -/
theorem derivedFrom_plain (made : ofLayer layer detected = .ok settings)
    (ungiven : ¬Layer.GivesDatabase layer) {config : DatabaseConfig}
    (there : settings.databaseConfig? = some config)
    : DerivedFrom settings.plain config := by
  obtain ⟨checked, ⟨given, valid, derived⟩, _⟩ := ofLayer_parts made
  obtain rfl := (sectionOf_database valid).mpr ungiven
  obtain ⟨record, same, rfl⟩ := Option.map_eq_some_iff.mp there
  exact derivedFrom_of_derivedDatabase checked (derived.trans (congrArg Except.ok same))

/-- Loaded settings are made from the layer of their sources. -/
theorem exists_layer_of_load {sources : Sources} {memory : Memory}
    (loaded : (load sources memory).1 = .ok settings)
    : ∃ layer, sources.layer = .ok layer ∧ ∃ detected, ofLayer layer detected = .ok settings := by
  unfold load at loaded
  cases read : sources.layer with
  | error error =>
      rw [read] at loaded
      exact absurd loaded (by simp)
  | ok layer =>
      rw [read] at loaded
      exact ⟨layer, rfl, _, mapError_eq_ok_iff.mp loaded⟩

end Settings

/-- Holds when some sources give a database section that is not null. -/
def Sources.GivesDatabase (sources : Sources) : Prop :=
  ∃ layer, sources.layer = .ok layer ∧ Layer.GivesDatabase layer

end RideQuestions.Config
