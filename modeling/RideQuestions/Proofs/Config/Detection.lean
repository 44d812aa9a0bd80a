import RideQuestions.Proofs.Config.Database

/-! The environment of the settings against the one that is detected. Both read the same variables,
but settings take the text of a variable as it stands, and in whatever letter case its name is.
-/

namespace RideQuestions.Config

open RideQuestions.Text

-----------------------------------------------------------------------------------------
-- Layers that differ in the environment
-----------------------------------------------------------------------------------------

/-- Fields depend on what is given under their names and on nothing else, by induction. -/
theorem checkFields_congr {trims : Bool} {fields : List Field} {layer rest : Layer}
    (same : ∀ name ∈ fields.map Field.name, Value.lookup? name layer = Value.lookup? name rest)
    : checkFields trims fields layer = checkFields trims fields rest := by
  induction fields with
  | nil => rw [checkFields, checkFields]
  | cons field more ih =>
      obtain ⟨name, type, default⟩ := field
      obtain ⟨first, others⟩ := List.forall_mem_cons.mp same
      have first : Value.lookup? name layer = Value.lookup? name rest := first
      unfold checkFields
      rw [first, ih others]

theorem sectionOf_congr {s : Section} {layer rest : Layer}
    (same : Value.lookup? s.name layer = Value.lookup? s.name rest) (default : Option Record)
    : sectionOf s layer default = sectionOf s rest default := by
  rw [sectionOf, same, sectionOf]

/-- A section is valid whatever its default is. -/
theorem sectionOf_ok {s : Section} {layer : Layer} {default record : Option Record}
    (valid : sectionOf s layer default = .ok record) (other : Option Record)
    : ∃ record, sectionOf s layer other = .ok record := by
  unfold sectionOf at valid ⊢
  cases given : Value.lookup? s.name layer with
  | none => exact ⟨other, rfl⟩
  | some value =>
      rw [given] at valid
      exact ⟨record, valid⟩

/-- All parts of a layer but its environment are valid. -/
structure ValidBesides (layer : Layer) (plain : Record) : Prop where
  fields : checkFields false plainFields layer = .ok plain
  database : ∃ given made, sectionOf databaseSection layer none = .ok given
    ∧ databaseOf given plain = .ok made
  compiler : ∃ record, sectionOf compilerSection layer (some compilerForm.defaults) = .ok record
  server : ∃ given made, sectionOf serverSection layer none = .ok given
    ∧ serverOf given plain = .ok made
  logging : ∀ default, ∃ record, sectionOf loggingSection layer default = .ok record

theorem validBesides_of_ok {layer : Layer} {detected : Environment} {settings : Settings}
    (loaded : Settings.ofLayer layer detected = .ok settings)
    : ∃ plain, ValidBesides layer plain := by
  obtain ⟨fields, ⟨database, hd, madeDatabase⟩, compiler, ⟨server, hs, madeServer⟩, _, hl⟩ :=
    Settings.ofLayer_parts loaded
  exact ⟨_, fields, ⟨database, _, hd, madeDatabase⟩, compiler, ⟨server, _, hs, madeServer⟩,
    sectionOf_ok hl⟩

/-- Where all other parts are valid, a layer makes settings with the environment that it names, and
what is wrong with that is all that is wrong. -/
theorem ValidBesides.ofLayer {layer : Layer} {plain : Record} (valid : ValidBesides layer plain)
    (detected : Environment)
    : (∀ environment, environmentOf layer detected = .ok environment →
        ∃ settings, Settings.ofLayer layer detected = .ok settings
          ∧ settings.environment = environment)
      ∧ ∀ issues, environmentOf layer detected = .error issues →
        Settings.ofLayer layer detected = .error issues := by
  obtain ⟨hp, ⟨database, _, hd, madeDatabase⟩, ⟨compiler, hc⟩, ⟨server, _, hs, madeServer⟩, logs⟩ :=
    valid
  obtain ⟨logging, hl⟩ := logs (some (loggingDefaults detected))
  unfold Settings.ofLayer
  rw [hp, hd, hc, hs, hl]
  constructor
  · intro environment named
    rw [named]
    dsimp only
    rw [madeDatabase, madeServer]
    exact ⟨_, rfl, rfl⟩
  · intro issues unnamed
    rw [unnamed]
    exact congrArg Except.error (by simp [issuesOf])

/-- Layers that differ in the environment alone have the same other parts. -/
theorem ValidBesides.congr {layer rest : Layer} {plain : Record} (valid : ValidBesides rest plain)
    (same : ∀ name, name ≠ environmentField →
      Value.lookup? name layer = Value.lookup? name rest)
    : ValidBesides layer plain := by
  have fields : checkFields false plainFields layer = checkFields false plainFields rest := by
    refine checkFields_congr fun name member => same name ?_
    rintro rfl
    exact absurd member (by decide)
  have database := sectionOf_congr (same databaseSection.name (by decide))
  have compiler := sectionOf_congr (same compilerSection.name (by decide))
  have server := sectionOf_congr (same serverSection.name (by decide))
  have logging := sectionOf_congr (same loggingSection.name (by decide))
  exact ⟨fields.trans valid.fields, database none ▸ valid.database, compiler _ ▸ valid.compiler,
    server none ▸ valid.server, fun default => logging default ▸ valid.logging default⟩

-----------------------------------------------------------------------------------------
-- Detection
-----------------------------------------------------------------------------------------

theorem Environment.name_of_ofName? {text : String} {e : Environment}
    (named : ofName? text = some e)
    : e.name = text := by
  simpa using List.find?_some named

/-- What names an environment but for its letter case has no blanks around it. -/
theorem Environment.ofName?_trim {text : String} {e : Environment}
    (named : ofName? (lower text) = some e)
    : ofName? (lower (trim text)) = some e := by
  have solid : ∀ e : Environment, ∀ c ∈ e.name.toList, isBlank c = false := by
    intro e
    cases e <;> decide
  rw [trim_of_lower, named]
  rw [← name_of_ofName? named]
  exact solid e

/-- The first variable that names an environment is the one that is detected. -/
theorem Environment.detect_of_named {vars : Variables} {text : String} {e : Environment}
    (said : vars.lookup "ENVIRONMENT" = some text) (named : ofName? (lower text) = some e)
    : detect vars = e := by
  unfold detect variableNames
  rw [List.filterMap_cons, said, Option.bind_some, ofName?_trim named]
  rfl

-----------------------------------------------------------------------------------------
-- Loading
-----------------------------------------------------------------------------------------

theorem load_of_entries {vars : Variables} {rest : Layer} (given : otherEntries vars = .ok rest)
    : (Settings.load { vars } {}).1
      = (Settings.ofLayer (environmentEntry vars ++ rest) (Environment.detect vars)).mapError
          .invalid := by
  unfold Settings.load
  rw [layer_vars, layerOf_eq, given]
  rfl

/-- Whatever comes of loading, the environment stays the detected one. -/
theorem load_memory (vars : Variables)
    : (Settings.load { vars } {}).2.environmentOf vars = Environment.detect vars := by
  unfold Settings.load
  cases Sources.layer { vars } with
  | error error => rfl
  | ok layer =>
      dsimp only
      split <;> rfl

theorem lookup?_environmentEntry {vars : Variables} {name : String}
    (other : name ≠ environmentField) (rest : Layer)
    : Value.lookup? name (environmentEntry vars ++ rest) = Value.lookup? name rest := by
  unfold environmentEntry
  cases spelled? vars with
  | none => rfl
  | some text => simp [Value.lookup?, Ne.symm other]

/-- The other entries do not name the environment. -/
theorem lookup?_otherEntries {vars : Variables} {rest : Layer}
    (given : otherEntries vars = .ok rest)
    : Value.lookup? environmentField rest = none := by
  unfold Value.lookup?
  rw [Option.map_eq_none_iff, List.find?_eq_none]
  intro e member same
  have stands := (keys_otherEntries given).subset (List.mem_map_of_mem member)
  rw [show e.1 = environmentField by simpa using same] at stands
  exact absurd stands (by decide)

/-- The environment of a layer is what the variables say, or else the detected one. -/
theorem environmentOf_entries {vars : Variables} {rest : Layer}
    (given : otherEntries vars = .ok rest) (detected : Environment)
    : environmentOf (environmentEntry vars ++ rest) detected
      = match spelled? vars with
        | none => .ok detected
        | some text =>
            match Environment.ofName? (lower text) with
            | some e => .ok e
            | none => .error [⟨[.key environmentField], .valueError⟩] := by
  unfold environmentOf environmentEntry
  cases spelled? vars with
  | none =>
      rw [show (Option.map _ none).toList ++ rest = rest from rfl, lookup?_otherEntries given]
  | some text => rfl

/-- Where everything but the environment is valid, the entries that variables give are so too. -/
theorem exists_entries {vars : Variables}
    (valid : ∃ settings, (Settings.load { vars := others vars } {}).1 = .ok settings)
    : ∃ rest plain, otherEntries vars = .ok rest
      ∧ ValidBesides (environmentEntry vars ++ rest) plain := by
  obtain ⟨settings, loaded⟩ := valid
  cases given : otherEntries vars with
  | error error =>
      unfold Settings.load at loaded
      rw [layer_vars, layerOf_eq, otherEntries_others, given] at loaded
      exact absurd loaded (by simp [Except.map])
  | ok rest =>
      rw [load_of_entries ((otherEntries_others vars).trans given), environmentEntry_others,
        List.nil_append] at loaded
      cases checked : Settings.ofLayer rest (Environment.detect (others vars)) with
      | error issues =>
          rw [checked] at loaded
          exact absurd loaded (by simp [Except.mapError])
      | ok _ =>
          obtain ⟨plain, parts⟩ := validBesides_of_ok checked
          exact ⟨rest, plain, rfl,
            parts.congr fun name other => lookup?_environmentEntry other rest⟩

/-- What loading gives where all other variables are valid, by what the variables say. -/
theorem load_cases {vars : Variables}
    (valid : ∃ settings, (Settings.load { vars := others vars } {}).1 = .ok settings)
    : (∃ settings, (Settings.load { vars } {}).1 = .ok settings
        ∧ (spelled? vars = none ∧ settings.environment = Environment.detect vars
          ∨ ∃ text, spelled? vars = some text
            ∧ Environment.ofName? (lower text) = some settings.environment))
      ∨ (Settings.load { vars } {}).1 = .error (.invalid [⟨[.key environmentField], .valueError⟩])
        ∧ ∃ text, spelled? vars = some text ∧ Environment.ofName? (lower text) = none := by
  obtain ⟨rest, plain, given, parts⟩ := exists_entries valid
  have named := environmentOf_entries given (Environment.detect vars)
  obtain ⟨accepts, refuses⟩ := parts.ofLayer (Environment.detect vars)
  rw [load_of_entries given]
  cases said : spelled? vars with
  | none =>
      rw [said] at named
      obtain ⟨settings, made, environment⟩ := accepts _ named
      rw [made]
      exact .inl ⟨settings, rfl, .inl ⟨rfl, environment⟩⟩
  | some text =>
      rw [said] at named
      dsimp only at named
      cases known : Environment.ofName? (lower text) with
      | none =>
          rw [known] at named
          rw [refuses _ named]
          exact .inr ⟨rfl, text, rfl, known⟩
      | some e =>
          rw [known] at named
          obtain ⟨settings, made, rfl⟩ := accepts _ named
          rw [made]
          exact .inl ⟨settings, rfl, .inr ⟨text, rfl, known⟩⟩

/-- Where all other variables are valid, settings are loaded unless what the variables say is no
name of an environment, letter case aside, and then this is the single issue. The environment that
is loaded is the detected one exactly when the variables say no other: blanks around a name, an
empty or unknown name and a variable that is not spelled in capitals keep the two apart. Settings
that are loaded from a variable in capitals agree with what is detected. -/
theorem load_environment (vars : Variables)
    (valid : ∃ settings, (Settings.load { vars := others vars } {}).1 = .ok settings)
    : (Settings.load { vars } {}).2.environmentOf vars = Environment.detect vars
      ∧ ((∃ settings, (Settings.load { vars } {}).1 = .ok settings)
          ↔ ∀ text, spelled? vars = some text → Environment.ofName? (lower text) ≠ none)
      ∧ ((∃ settings, (Settings.load { vars } {}).1 = .ok settings
            ∧ settings.environment = Environment.detect vars)
          ↔ ∀ text, spelled? vars = some text →
            Environment.ofName? (lower text) = some (Environment.detect vars))
      ∧ ((∀ settings, (Settings.load { vars } {}).1 ≠ .ok settings) →
          (Settings.load { vars } {}).1
            = .error (.invalid [⟨[.key environmentField], .valueError⟩]))
      ∧ (vars.lookup "ENVIRONMENT" = spelled? vars →
          ∀ settings, (Settings.load { vars } {}).1 = .ok settings →
            settings.environment = Environment.detect vars) := by
  refine ⟨load_memory vars, ?_⟩
  rcases load_cases valid with ⟨settings, loaded, ⟨silent, same⟩ | ⟨text, said, named⟩⟩
    | ⟨refused, text, said, unnamed⟩
  · simp [loaded, silent, same]
  · rw [loaded, said]
    refine ⟨?_, ?_, ?_, ?_⟩
    · simp [named]
    · simp [named]
    · simp
    · rintro capitals _ ⟨⟩
      exact (Environment.detect_of_named capitals named).symm
  · simp [refused, said, unnamed]

/-- Without any variables settings are loaded. -/
theorem load_nothing
    : ∃ settings, (Settings.load { vars := [] } {}).1 = .ok settings := by
  have given : otherEntries [] = .ok [] := rfl
  rw [load_of_entries given]
  exact ⟨_, rfl⟩

/-- The letter case of a name does not matter. -/
theorem load_environment_staging
    : ∃ settings, (Settings.load { vars := [("ENVIRONMENT", "Staging")] } {}).1 = .ok settings
      ∧ settings.environment = .staging := by
  have detected : Environment.detect [("ENVIRONMENT", "Staging")] = .staging := by decide +kernel
  have said : spelled? [("ENVIRONMENT", "Staging")] = some "Staging" := by decide +kernel
  rw [← detected]
  refine (load_environment [("ENVIRONMENT", "Staging")] load_nothing).2.2.1.mpr fun text given => ?_
  obtain rfl := Option.some.inj (said.symm.trans given)
  rw [detected]
  decide +kernel

/-- A blank in front of its name keeps an environment that is detected from being loaded. -/
theorem load_environment_padded
    : Environment.detect [("ENVIRONMENT", " production")] = .production
      ∧ (∃ settings,
          (Settings.load { vars := others [("ENVIRONMENT", " production")] } {}).1 = .ok settings)
      ∧ (Settings.load { vars := [("ENVIRONMENT", " production")] } {}).1
        = .error (.invalid [⟨[.key environmentField], .valueError⟩]) := by
  refine ⟨by decide +kernel, load_nothing, ?_⟩
  have given : otherEntries [("ENVIRONMENT", " production")] = .ok [] := rfl
  rw [load_of_entries given]
  rfl

end RideQuestions.Config
