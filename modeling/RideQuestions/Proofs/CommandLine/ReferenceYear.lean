import RideQuestions.CommandLine.Command
import RideQuestions.Proofs.Config.Layers
import RideQuestions.Proofs.Query.Vocabulary
import RideQuestions.Proofs.Question.Undated
import RideQuestions.Proofs.Service.Standing
import RideQuestions.Proofs.Store.Ledger
import RideQuestions.Proofs.Text.Signed

/-! Years on the command line. Whatever whole number is given for a year, unless it has too many
digits to be read, is put into the configuration unchecked, and a question that leaves its first
week undated is then compiled for this year or, where the calendar has no such year, breaks the
command off.
-/

namespace RideQuestions.CommandLine

/-- Behind its name and an equals sign, a switch has its value in the same word. -/
theorem classifyAll_attached {switches : List Switch} {s : Switch} {rest : List Char}
    (plain : ∀ t ∈ switches, '=' ∉ t.name.toList) (dashed : s.name.toList = '-' :: '-' :: rest)
    (named : switches.find? (fun t => t.name.toList = '-' :: '-' :: rest) = some s)
    (value : String) (words : List String)
    : classifyAll switches ((s.name ++ "=" ++ value) :: words)
      = (classifyAll switches words).map (.switch s (some value) :: ·) := by
  have word : (s.name ++ "=" ++ value).toList = '-' :: '-' :: (rest ++ '=' :: value.toList) := by
    simp [dashed]
  have other : ∀ c ∈ '-' :: '-' :: rest, (c != '=') = true := by
    intro c hc
    rw [← dashed] at hc
    simpa using fun same : c = '=' => plain s (List.mem_of_find?_eq_some named) (same ▸ hc)
  have split : splitValue (('-' :: '-' :: rest) ++ '=' :: value.toList)
      = ('-' :: '-' :: rest, some value) := by
    rw [splitValue, List.dropWhile_append_of_pos other, List.takeWhile_append_of_pos other]
    simp
  have unnamed
      : switches.find? (fun t => t.name.toList = '-' :: '-' :: (rest ++ '=' :: value.toList))
        = none := by
    refine List.find?_eq_none.mpr fun t ht same => plain t ht ?_
    rw [of_decide_eq_true same]
    simp
  have divides : s.name ++ "=" ++ value ≠ "--" := by
    intro same
    have : '=' ∈ "--".toList := same ▸ word ▸ by simp
    exact absurd this (by decide)
  have formed : classify switches (s.name ++ "=" ++ value) = .ok (.switch s (some value)) := by
    unfold classify
    rw [word]
    dsimp only
    rw [unnamed, ← List.cons_append, ← List.cons_append, split]
    dsimp only [Option.bind_some]
    rw [named]
    rfl
  rw [classifyAll, formed]
  · cases classifyAll switches words <;> rfl
  · exact divides

/-- The words of a command that compiles a question against a file for a year. -/
def yearWords (path year question : String) : List String :=
  ["compile", "--schema-file" ++ "=" ++ path, "--reference-year" ++ "=" ++ year, "--", question]

/-- What is given for a year on the command line is read, or else not understood. -/
theorem ofWords_yearWords (path year question : String)
    : Invocation.ofWords (yearWords path year question)
      = match Text.readInt? year with
        | some n => .ok (.compile { question, schemaFile := some path, referenceYear := some n })
        | none => .error (.notANumber "--reference-year" year) := by
  have words : classifyAll Invocation.compileSwitches
      ["--schema-file" ++ "=" ++ path, "--reference-year" ++ "=" ++ year, "--", question]
      = .ok
          [.switch ⟨"--schema-file", .text⟩ (some path),
            .switch ⟨"--reference-year", .number⟩ (some year), .divider, .value question] := by
    rw [classifyAll_attached (s := ⟨"--schema-file", .text⟩) (by decide) rfl rfl path,
      classifyAll_attached (s := ⟨"--reference-year", .number⟩) (by decide) rfl rfl year]
    rfl
  have given : Invocation.readCommand Invocation.compileSwitches true
      ["--schema-file" ++ "=" ++ path, "--reference-year" ++ "=" ++ year, "--", question]
      = match Text.readInt? year with
        | some _ =>
            .ok
              {
                values := [("--reference-year", year), ("--schema-file", path)],
                word := some question
              }
        | none => .error (.usage (.notANumber "--reference-year" year)) := by
    rw [Invocation.readCommand, words]
    cases read : Text.readInt? year <;>
      simp [Except.mapError, readWords, Given.take, read, bind, Except.bind]
  have asked : Invocation.invocationOf "compile"
      ["--schema-file" ++ "=" ++ path, "--reference-year" ++ "=" ++ year, "--", question]
      = match Text.readInt? year with
        | some n =>
            .ok (.compile { question, schemaFile := some path, referenceYear := some n }, [])
        | none => .error (.usage (.notANumber "--reference-year" year)) := by
    rw [Invocation.invocationOf, if_neg (by decide), if_pos rfl, given]
    cases read : Text.readInt? year <;>
      simp [bind, Except.bind, Given.text?, Given.number?, List.lookup_cons, read, pure,
        Except.pure]
  have command : classify helpSwitches "compile" = .ok (.value "compile") := rfl
  rw [yearWords, Invocation.ofWords, Invocation.readFrom, command]
  · dsimp only [Except.mapError, bind, Except.bind]
    rw [asked]
    cases Text.readInt? year <;> rfl
  · decide

-----------------------------------------------------------------------------------------
-- Compiling against a schema file
-----------------------------------------------------------------------------------------

open Calendar Config Query

variable {W : Type}

/-- A file lists a schema that has some column, all of whose columns have texts for names and types,
and neither its names nor those of the conventions have an open mark. -/
structure Surroundings.PlainSchema (s : Surroundings W) (path : String) (snapshot : Snapshot Value)
    (conventions : Conventions) : Prop where
  named : path.isEmpty = false
  listed : snapshotOfText s.room (s.fileText path) = .ok snapshot
  filled : (Schema.ofSnapshot snapshot).columns ≠ []
  texts : ∀ c ∈ snapshot.columns, c.name.text?.isSome = true ∧ c.declaredType.text?.isSome = true
  plain : ∀ name ∈ vocabulary (Schema.ofSnapshot snapshot) conventions, marker ∉ name.toList

namespace CompileRequest

/-- Against a schema of texts, a question is compiled as by a compiler that has just published
it. -/
theorem compileAgainst_eq {snapshot : Snapshot Value}
    (filled : (Schema.ofSnapshot snapshot).columns ≠ [])
    (texts : ∀ c ∈ snapshot.columns,
      c.name.text?.isSome = true ∧ c.declaredType.text?.isSome = true)
    (config : CompilerConfig) (question : String) (now : Instant)
    : compileAgainst config snapshot question now
      = (((Compiler.new config).publish (Schema.ofSnapshot snapshot)).compile
          question now).1.mapError .compile := by
  have named : Schema.hasNamelessColumn snapshot = false := by
    refine List.any_eq_false.mpr fun c hc => ?_
    change ¬(!c.name.text?.isSome) = true
    simp [(texts c hc).1]
  have typed : Schema.untypedColumns snapshot = [] := by
    rw [Schema.untypedColumns, List.map_eq_nil_iff]
    refine List.filter_eq_nil_iff.mpr fun c hc => ?_
    change ¬(!c.declaredType.text?.isSome) = true
    simp [(texts c hc).2]
  have usable : Scene.usable? (.ok (some (Schema.ofSnapshot snapshot)))
      = some (Schema.ofSnapshot snapshot) :=
    Scene.usable?_eq_some_iff.mpr ⟨rfl, filled⟩
  have stands := (Compiler.standsAt_new config).publish (Schema.ofSnapshot snapshot)
  have same := stands.compile_fst question now
  unfold compileAgainst
  dsimp only
  rw [Scene.accept_of_usable usable, named]
  dsimp only [Except.mapError, bind, Except.bind]
  rw [Bool.false_and, if_neg Bool.false_ne_true]
  generalize accepted : Scene.count _ _ = scene
  have result : (scene.compile question now).1
      = (((Compiler.new config).publish (Schema.ofSnapshot snapshot)).compile question now).1 := by
    rw [(Scene.compile_spec question now scene).1, ← accepted]
    rfl
  rw [result]
  cases compiled : (((Compiler.new config).publish (Schema.ofSnapshot snapshot)).compile question
    now).1 with
  | error e => rfl
  | ok q =>
      -- What was compiled has its dates, so that it is read again, and no type of it is no text.
      rw [compiled] at same
      obtain ⟨_, read, _⟩ := bind_eq_ok_iff.mp same.symm
      obtain ⟨span, dated, _⟩ := Compiler.reading_ok_iff.mp read
      obtain ⟨r, again⟩ : ∃ r, Compiler.reading config question q.candidates now = .ok r :=
        ⟨_, Compiler.reading_ok_iff.mpr ⟨span, dated, rfl⟩⟩
      have untyped : consultsUntyped snapshot r = false := by
        simp [consultsUntyped, typed]
      dsimp only
      rw [again]
      dsimp only
      rw [untyped]
      rfl

end CompileRequest

section File

variable {s : Surroundings W} {settings : Settings} {path : String} {snapshot : Snapshot Value}

/-- Compiling against the file of a plain schema ends as its compiler does, and does nothing. -/
theorem run_eq (loaded : (Settings.load s.sources {}).1 = .ok settings)
    (file : s.PlainSchema path snapshot settings.compilerConfig.conventions) (year : Int)
    (question : String) (w : W)
    : run s (.compile { question, schemaFile := some path, referenceYear := some year }) w
      = (((((Compiler.new { settings.compilerConfig with referenceYear := year }).publish
            (Schema.ofSnapshot snapshot)).compile question s.now).1.mapError .compile).map
              fun query => .printed (CompileRequest.printed query), w) := by
  have filed
      : CompileRequest.file? { question, schemaFile := some path, referenceYear := some year }
        = some path := by
    simp [CompileRequest.file?, file.named]
  unfold run
  rw [loaded]
  dsimp only [CompileRequest.run, CompileRequest.snapshot]
  rw [filed]
  dsimp only
  rw [file.listed]
  dsimp only [Except.bind, CompileRequest.config]
  rw [CompileRequest.compileAgainst_eq file.filled file.texts]
  generalize (((Compiler.new { settings.compilerConfig with referenceYear := year }).publish
    (Schema.ofSnapshot snapshot)).compile question s.now).1 = compiled
  cases compiled <;> rfl

/-- A plain schema leaves a date phrase without a date as the one thing that breaks compiling
off. -/
theorem run_cases (loaded : (Settings.load s.sources {}).1 = .ok settings)
    (file : s.PlainSchema path snapshot settings.compilerConfig.conventions) (year : Int)
    (question : String) (w : W)
    : (∃ reason, Question.span? question s.now year = .error reason
          ∧ run s (.compile { question, schemaFile := some path, referenceYear := some year }) w
            = (.error (.compile (.calendar reason)), w))
        ∨ (∃ span, Question.span? question s.now year = .ok span)
          ∧ ∃ query, (((Compiler.new { settings.compilerConfig with referenceYear := year }).publish
                (Schema.ofSnapshot snapshot)).compile question s.now).1 = .ok query
              ∧ run s (.compile { question, schemaFile := some path, referenceYear := some year }) w
                = (.ok (.printed (CompileRequest.printed query)), w) := by
  rw [run_eq loaded file]
  cases dated : Question.span? question s.now year with
  | error reason =>
      refine .inl ⟨reason, rfl, ?_⟩
      have stands := (Compiler.standsAt_new { settings.compilerConfig with referenceYear := year })
        |>.publish (Schema.ofSnapshot snapshot)
      rw [stands.compile_fst, Compiler.reading, dated]
      rfl
  | ok span =>
      obtain ⟨query, compiled⟩ := (Compiler.exists_compiled_iff
        { settings.compilerConfig with referenceYear := year }
        [.publish (Schema.ofSnapshot snapshot)] question s.now file.plain).mpr ⟨span, dated⟩
      refine .inr ⟨⟨span, rfl⟩, query, compiled, ?_⟩
      have compiled
          : (((Compiler.new { settings.compilerConfig with referenceYear := year }).publish
              (Schema.ofSnapshot snapshot)).compile question s.now).1 = .ok query := compiled
      rw [compiled]
      rfl

/-- No year is refused that can be read. A whole number of more than 4300 digits is not understood.
Any other can be given for a year, and a question is compiled for it under the configuration of the
settings with this year in the place of its own, inside its bounds or not. Compiling breaks off for
want of a date exactly when the time of the question is a first week for which no year is written
and the calendar has no such year, or when last month is asked for in the very first month; the
compiled query is printed for every other question and year. A year that is none of the calendar is
out of range if 32 bits hold it, and else too wide to be looked at. -/
theorem referenceYear_unchecked (loaded : (Settings.load s.sources {}).1 = .ok settings)
    (file : s.PlainSchema path snapshot settings.compilerConfig.conventions) (year : Int)
    (question : String) (w : W)
    : (Text.digitLimit < (Nat.toDigits 10 year.natAbs).length →
        Invocation.ofWords (yearWords path (toString year) question)
          = .error (.notANumber "--reference-year" (toString year)))
      ∧ ((Nat.toDigits 10 year.natAbs).length ≤ Text.digitLimit → ∃ request,
        Invocation.ofWords (yearWords path (toString year) question) = .ok (.compile request)
        ∧ request.config settings = { settings.compilerConfig with referenceYear := year }
        ∧ (Question.UndatedWeek (Question.textOf question) → ¬(1 ≤ year ∧ year ≤ 9999) →
            run s (.compile request) w
              = (.error (.compile (.calendar
                  (if -2147483648 ≤ year ∧ year < 2147483648 then .yearOutOfRange year
                    else .yearTooWide year))), w))
        ∧ (¬Question.Absent Question.LastMonthSaid (Question.textOf question) →
            s.now.date.year = 1 ∧ s.now.date.month = 1 →
            run s (.compile request) w
              = (.error (.compile (.calendar (.yearOutOfRange 0))), w))
        ∧ ((Question.UndatedWeek (Question.textOf question) → 1 ≤ year ∧ year ≤ 9999) →
            (¬Question.Absent Question.LastMonthSaid (Question.textOf question) →
              ¬(s.now.date.year = 1 ∧ s.now.date.month = 1)) →
            ∃ query, (((Compiler.new (request.config settings)).publish
                  (Schema.ofSnapshot snapshot)).compile question s.now).1 = .ok query
                ∧ run s (.compile request) w
                  = (.ok (.printed (CompileRequest.printed query)), w))) := by
  have outcome := run_cases loaded file year question w
  have broken {reason : CalendarError} (failed : Question.span? question s.now year = .error reason)
      : run s (.compile { question, schemaFile := some path, referenceYear := some year }) w
        = (.error (.compile (.calendar reason)), w) := by
    obtain ⟨other, failed', ended⟩ | ⟨⟨span, dated⟩, _⟩ := outcome
    · obtain rfl := Except.error.inj (failed.symm.trans failed')
      exact ended
    · exact absurd (failed.symm.trans dated) (by simp)
  have words := ofWords_yearWords path (toString year) question
  rw [Text.readInt?_toString, Text.isWritable] at words
  refine ⟨fun long => ?_, fun short => ?_⟩
  · rwa [if_neg (by simpa using long)] at words
  rw [if_pos (by simpa using short)] at words
  refine ⟨_, words, rfl, ?_, ?_, ?_⟩
  · intro undated outside
    have wide : CalendarError.ofYear year
        = if -2147483648 ≤ year ∧ year < 2147483648 then .yearOutOfRange year
          else .yearTooWide year := by
      have range : Int.ofNat (Nat.pow 2 (32 - 1)) = 2147483648 := rfl
      simp only [CalendarError.ofYear, fitsBits, range, Bool.and_eq_true, decide_eq_true_eq,
        and_comm]
    rw [← wide]
    exact broken <| (Question.span?_eq_error_iff question).mpr (.inr ⟨undated, outside, rfl⟩)
  · exact fun asked first => broken <|
      (Question.span?_eq_error_iff question).mpr (.inl ⟨asked, first, rfl⟩)
  · intro inside later
    obtain ⟨reason, failed, _⟩ | ⟨_, printed⟩ := outcome
    · rcases (Question.span?_eq_error_iff question).mp failed with
        ⟨asked, first, _⟩ | ⟨undated, outside, _⟩
      · exact absurd first (later asked)
      · exact absurd (inside undated) outside
    · exact printed

end File

section Cases

/-- The text of a schema file with one table. -/
def tripListing : String :=
  "\x7b\"trips\": [[\"trip_id\", \"integer\"], [\"started_at\", \"timestamp\"]]\x7d"

/-- Surroundings without variables, in which every file lists one table. -/
def filedSurroundings : Surroundings Unit where
  fileText _ := .ok tripListing
  database := .failing "no tables"
  now := Compiler.midyear

theorem filedSurroundings_plain
    : ∃ settings snapshot, (Settings.load filedSurroundings.sources {}).1 = .ok settings
        ∧ filedSurroundings.PlainSchema "schema.json" snapshot
          settings.compilerConfig.conventions := by
  have loaded : ∃ settings, (Settings.load filedSurroundings.sources {}).1 = .ok settings
      ∧ settings.compilerConfig.conventions = {} := by
    have nothing : filedSurroundings.sources.layer = .ok [] := layer_vars []
    unfold Settings.load
    rw [nothing]
    exact ⟨_, rfl, rfl⟩
  have read : Json.readText Value.usualRoom tripListing
      = .ok (.map
          [("trips", .list
            [.list [.text "trip_id", .text "integer"],
             .list [.text "started_at", .text "timestamp"]])]) := by
    simp only [Json.readText, tripListing, String.reduceToList]
    rfl
  obtain ⟨settings, loaded, usual⟩ := loaded
  have listed : snapshotOfText Value.usualRoom (filedSurroundings.fileText "schema.json")
      = .ok (.ofListing
          [(.text "trips", [(.text "trip_id", .text "integer"),
            (.text "started_at", .text "timestamp")])]) := by
    have text : filedSurroundings.fileText "schema.json" = .ok tripListing := rfl
    rw [text, snapshotOfText]
    dsimp only [Except.mapError, bind, Except.bind]
    rw [read]
    rfl
  have schema : Schema.ofSnapshot
      (.ofListing
        [(.text "trips", [(.text "trip_id", .text "integer"),
          (.text "started_at", .text "timestamp")])])
      = Snapshot.ofListing [("trips", [("trip_id", "integer"), ("started_at", "timestamp")])] :=
    rfl
  refine ⟨settings, _, loaded, by decide, listed, ?_, ?_, ?_⟩
  · rw [schema]
    simp [Snapshot.ofListing, Snapshot.columns]
  · simp [Snapshot.ofListing, Snapshot.columns, Value.text?]
  · rw [usual, schema]
    decide

/-- Behind the last year that the configuration admits, a first week is compiled all the same. -/
theorem referenceYear_unchecked_year3000
    : ∃ request query,
        Invocation.ofWords
            (yearWords "schema.json" (toString (3000 : Int)) "rides in the first week of june")
          = .ok (.compile request)
        ∧ run filedSurroundings (.compile request) ()
          = (.ok (.printed (CompileRequest.printed query)), ()) := by
  obtain ⟨settings, snapshot, loaded, file⟩ := filedSurroundings_plain
  obtain ⟨request, given, _, _, _, compiles⟩ :=
    (referenceYear_unchecked loaded file 3000 "rides in the first week of june" ()).2 (by decide)
  obtain ⟨query, _, ended⟩ := compiles (fun _ => by decide) (fun _ => by decide)
  exact ⟨request, query, given, ended⟩

/-- The year zero is not refused, and the date that it lacks breaks compiling off. -/
theorem referenceYear_unchecked_yearZero
    : ∃ request,
        Invocation.ofWords
            ["compile", "How many trips in the first week of June?", "--schema-file", "schema.json",
              "--reference-year", "0"]
          = .ok (.compile request)
        ∧ run filedSurroundings (.compile request) ()
          = (.error (.compile (.calendar (.yearOutOfRange 0))), ()) := by
  obtain ⟨settings, snapshot, loaded, file⟩ := filedSurroundings_plain
  refine ⟨_, rfl, ?_⟩
  obtain ⟨reason, failed, ended⟩ | ⟨⟨_, dated⟩, _⟩ :=
    run_cases loaded file 0 "How many trips in the first week of June?" ()
  · obtain rfl : CalendarError.yearOutOfRange 0 = reason := Except.error.inj failed
    exact ended
  · exact absurd dated nofun

end Cases

end RideQuestions.CommandLine
