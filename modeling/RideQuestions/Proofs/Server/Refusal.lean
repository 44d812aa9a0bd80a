import RideQuestions.CommandLine.Command
import RideQuestions.Proofs.Config.Database
import RideQuestions.Proofs.Query.Vocabulary
import RideQuestions.Proofs.Server.Pooling
import RideQuestions.Proofs.Value.Sameness

/-! Refusals for want of a database. A server asks the single fields whether there is one, and
compiling asks the settings, so a database that its own section gives is there for compiling and not
for a server unless the single fields describe one as well.
-/

namespace RideQuestions

open Config

variable {W : Type}

-----------------------------------------------------------------------------------------
-- A server that is not started
-----------------------------------------------------------------------------------------

namespace Server

/-- Starting a server is refused since settings are missing, and leaves it as it was. -/
def StartRefused (db : Database W) (s : Server W) : Prop :=
  ∃ names, names ≠ [] ∧ s.startup db
    = (.error (.service (.saying .schemaUnavailable (missingMessage names))), s)

/-- Loading is done with a pool. -/
theorem load_pool (db : Database W) (service : Service) (s : Server W)
    : (s.load db service).2.pool ≠ none := by
  unfold load
  dsimp only [acting]
  split
  · simp
  · unfold shutdown
    dsimp only
    split <;> simp

/-- A server with all settings has made a pool when its first startup is over. -/
theorem startup_pool_ne_none (db : Database W) {s : Server W} (unbuilt : s.service = none)
    (complete : s.settings.missing = []) (given : s.settings.databaseConfig? ≠ none)
    : (s.startup db).2.pool ≠ none := by
  obtain ⟨config, given⟩ := Option.ne_none_iff_exists'.mp given
  have holds := (build_holds db complete given).1
  unfold startup
  rw [unbuilt]
  dsimp only
  generalize s.build db = built at holds
  obtain ⟨result, s'⟩ := built
  cases result with
  | error fault =>
      have kept : s'.pool = _ := holds.pool
      rw [kept]
      exact Option.some_ne_none _
  | ok service => exact load_pool db service s'

/-- The first startup of a server is refused exactly when a needed single field is empty. -/
theorem startRefused_iff (db : Database W) {settings : Settings}
    (described : settings.missing = [] → settings.databaseConfig? ≠ none) (metrics : Metrics)
    (w : W)
    : (new settings metrics w).StartRefused db ↔ settings.missing ≠ [] := by
  constructor
  · rintro ⟨names, _, refused⟩ complete
    -- A refused server is still as it was, without the pool that it would have by then.
    refine startup_pool_ne_none db (s := new settings metrics w) rfl complete
      (described complete) ?_
    rw [refused]
    rfl
  · intro incomplete
    have there : (new settings metrics w).settings.missing.isEmpty = false :=
      List.isEmpty_eq_false_iff.mpr incomplete
    refine ⟨settings.missing, incomplete, ?_⟩
    rw [startup, build, there]
    rfl

end Server

-----------------------------------------------------------------------------------------
-- A question that is not compiled
-----------------------------------------------------------------------------------------

namespace CommandLine

/-- Surroundings in which what is done to the store is written down. -/
def Surroundings.recorded (s : Surroundings W) : Surroundings (W × List Deed) where
  sources := s.sources
  fileText := s.fileText
  database := s.database.recorded
  now := s.now

/-- Compiling is refused for want of a schema, and nothing is done to the store. -/
def CompileRequest.Refused (r : CompileRequest) (s : Surroundings W) (settings : Settings) (w : W)
    : Prop :=
  r.run s.recorded settings (w, [])
    = (.error (.fault (.service (.saying .schemaUnavailable noSchemaMessage))), (w, []))

/-- Compiling without a file opens a pool for the database of the settings and closes it again. -/
theorem CompileRequest.run_log {r : CompileRequest} (unfiled : r.file? = none)
    {settings : Settings} {config : DatabaseConfig} (given : settings.databaseConfig? = some config)
    (s : Surroundings W) (w : W)
    : ∃ outcome, (r.run s.recorded settings (w, [])).2.2
        = [.opened config, .ran (Store.catalogQuery config.schemaName) outcome, .closed] := by
  have looked := Store.readSnapshot_snd s.recorded.database config.schemaName
    { config := some config } (w, [])
  rw [Pool.run_of_closed] at looked
  unfold run snapshot
  rw [unfiled, given]
  dsimp only
  generalize Store.readSnapshot s.recorded.database config.schemaName
    { config := some config } (w, []) = read at looked
  obtain ⟨result, pool, world⟩ := read
  obtain ⟨rfl, rfl⟩ := Prod.mk.inj looked
  exact ⟨_, rfl⟩

/-- Compiling without a file is refused exactly when the settings have no database. -/
theorem CompileRequest.refused_iff {r : CompileRequest} (unfiled : r.file? = none)
    (s : Surroundings W) (settings : Settings) (w : W)
    : r.Refused s settings w ↔ settings.database = none := by
  constructor
  · intro refused
    by_contra there
    -- Nothing was done to the store, which compiling with a database would have opened a pool for.
    obtain ⟨record, there⟩ := Option.ne_none_iff_exists'.mp there
    have given : settings.databaseConfig? = some (.ofRecord record) := by
      rw [Settings.databaseConfig?, there, Option.map_some]
    obtain ⟨outcome, log⟩ := run_log unfiled given s w
    rw [Refused.eq_def] at refused
    rw [refused] at log
    exact absurd log (by simp)
  · intro missing
    have absent : settings.databaseConfig? = none := by
      rw [Settings.databaseConfig?, missing, Option.map_none]
    unfold Refused run snapshot
    rw [unfiled, absent]
    rfl

end CommandLine

-----------------------------------------------------------------------------------------
-- The two refusals
-----------------------------------------------------------------------------------------

/-- Of loaded settings, a first startup is refused exactly when a needed single field is empty, and
compiling without a schema file exactly when the settings have no database, which is when in
addition no section gives one. So both are refused alike unless a section gives a database and a
needed field is empty. A database that no section gives has the host, the name and the user of the
single fields without the white space around them, and these are not empty exactly when none of the
fields is all white space. -/
theorem Config.Settings.load_refusals {sources : Sources} {memory : Memory} {settings : Settings}
    (loaded : (Settings.load sources memory).1 = .ok settings) (db : Database W) (metrics : Metrics)
    (s : CommandLine.Surroundings W) {r : CommandLine.CompileRequest} (unfiled : r.file? = none)
    (w : W)
    : ((Server.new settings metrics w).StartRefused db ↔ settings.missing ≠ [])
      ∧ (r.Refused s settings w ↔ settings.database = none)
      ∧ (settings.database = none ↔ ¬sources.GivesDatabase ∧ settings.missing ≠ [])
      ∧ (((Server.new settings metrics w).StartRefused db ↔ r.Refused s settings w)
          ↔ (sources.GivesDatabase → settings.missing = []))
      ∧ (¬sources.GivesDatabase → ∀ config, settings.databaseConfig? = some config →
          DerivedFrom settings.plain config
            ∧ (config.host ≠ "" ∧ config.database ≠ "" ∧ config.username ≠ ""
              ↔ ∀ name ∈ describingFields,
                  ∃ c ∈ (Record.text settings.plain name "").toList, Text.isSpace c = false)) := by
  obtain ⟨layer, read, detected, made⟩ := exists_layer_of_load loaded
  have gives : sources.GivesDatabase ↔ Layer.GivesDatabase layer := by
    constructor
    · rintro ⟨other, read', given⟩
      exact Except.ok.inj (read'.symm.trans read) ▸ given
    · exact fun given => ⟨layer, read, given⟩
  have without := database_eq_none_iff made
  rw [← gives] at without
  have described : settings.missing = [] → settings.databaseConfig? ≠ none := by
    intro complete absent
    have missing : settings.database = none := Option.map_eq_none_iff.mp absent
    exact (without.mp missing).2 complete
  have start := Server.startRefused_iff db described metrics w
  have compile := CommandLine.CompileRequest.refused_iff unfiled s settings w
  refine ⟨start, compile, without, ?_, fun ungiven config there => ?_⟩
  · rw [start, compile, without]
    constructor
    · intro alike given
      by_contra incomplete
      exact (alike.mp incomplete).1 given
    · intro complete
      exact ⟨fun incomplete => ⟨fun given => incomplete (complete given), incomplete⟩, And.right⟩
  · have derived := derivedFrom_plain made (ungiven ∘ gives.mpr) there
    exact ⟨derived, derived.filled_iff⟩

section Cases

open CommandLine

/-- Variables of single fields, with a blank for the host. -/
def blankHost : Variables :=
  [("PGHOST", " "), ("PGDATABASE", "rides"), ("PGUSER", "reporting"), ("PGPASSWORD", "s3cret")]

/-- Variables that give a database section. -/
def ownSection : Variables :=
  [("DATABASE__HOST", "db.internal"), ("DATABASE__DATABASE", "rides"),
   ("DATABASE__USERNAME", "reporting"), ("DATABASE__PASSWORD", "s3cret")]

theorem layerOf_blankHost
    : layerOf blankHost
      = .ok [("PGHOST", .text " "), ("PGDATABASE", .text "rides"), ("PGUSER", .text "reporting"),
          ("PGPASSWORD", .text "s3cret")] :=
  rfl

theorem layerOf_ownSection
    : layerOf ownSection
      = .ok [("database", .map
          [("host", .text "db.internal"), ("database", .text "rides"),
           ("username", .text "reporting"), ("password", .text "s3cret")])] :=
  toOption_eq_some_iff.mp (by decide +kernel)

/-- A store without tables, asked about nothing. -/
def bareSurroundings : Surroundings Unit where
  fileText _ := .error .missing
  database := .failing "no tables"
  now := Query.Compiler.midyear

/-- A question without a schema file. -/
def bareRequest : CompileRequest where
  question := "how many rides"
  schemaFile := none
  referenceYear := none

/-- A blank for a host is enough to start and to compile, with a host that is empty. -/
theorem Config.Settings.load_refusals_blankHost
    : ∃ settings config, (Settings.load { vars := blankHost } {}).1 = .ok settings
        ∧ settings.databaseConfig? = some config ∧ config.host = ""
        ∧ ¬(Server.new settings {} ()).StartRefused bareSurroundings.database
        ∧ ¬bareRequest.Refused bareSurroundings settings () := by
  obtain ⟨settings, loaded, complete, blank⟩
      : ∃ settings, (Settings.load { vars := blankHost } {}).1 = .ok settings
        ∧ settings.missing = [] ∧ Record.text settings.plain "PGHOST" "" = " " := by
    unfold Settings.load
    rw [layer_vars, layerOf_blankHost]
    exact ⟨_, rfl, by decide +kernel, rfl⟩
  have ungiven : ¬Sources.GivesDatabase { vars := blankHost } := by
    rintro ⟨layer, read, value, found, _⟩
    rw [layer_vars, layerOf_blankHost] at read
    obtain rfl := Except.ok.inj read
    exact absurd found (by simp [Value.lookup?, databaseSection])
  obtain ⟨start, compile, without, _, derived⟩ :=
    load_refusals loaded bareSurroundings.database {} bareSurroundings (r := bareRequest) rfl ()
  have there : settings.database ≠ none := fun absent => (without.mp absent).2 complete
  obtain ⟨record, held⟩ := Option.ne_none_iff_exists'.mp there
  have given : settings.databaseConfig? = some (.ofRecord record) := by
    rw [databaseConfig?, held, Option.map_some]
  refine ⟨settings, .ofRecord record, loaded, given, ?_, ?_, ?_⟩
  · rw [(derived ungiven _ given).1.host, blank]
    decide +kernel
  · exact fun refused => start.mp refused complete
  · exact fun refused => there (compile.mp refused)

/-- With a database that a section gives a server is not started, though compiling asks the
store. -/
theorem Config.Settings.load_refusals_ownSection
    : ∃ settings, (Settings.load { vars := ownSection } {}).1 = .ok settings
        ∧ settings.database ≠ none
        ∧ (∀ db : Database Unit, (Server.new settings {} ()).StartRefused db)
        ∧ ¬bareRequest.Refused bareSurroundings settings () := by
  obtain ⟨settings, loaded, there, incomplete⟩
      : ∃ settings, (Settings.load { vars := ownSection } {}).1 = .ok settings
        ∧ settings.database.isSome = true ∧ settings.missing ≠ [] := by
    unfold Settings.load
    rw [layer_vars, layerOf_ownSection]
    exact ⟨_, rfl, rfl, by decide +kernel⟩
  have there : settings.database ≠ none := Option.isSome_iff_ne_none.mp there
  refine ⟨settings, loaded, there, fun db => ?_, fun refused => ?_⟩
  · exact (Server.startRefused_iff db (fun complete => absurd complete incomplete) {} ()).mpr
      incomplete
  · exact there ((CompileRequest.refused_iff rfl bareSurroundings settings ()).mp refused)

end Cases

end RideQuestions
