import RideQuestions.Logging.Layout
import RideQuestions.Proofs.Outcome
import RideQuestions.Proofs.Value.Entries
import RideQuestions.Proofs.Value.Writing

/-! The JSON object of a log record. Fields that were put on a record are entries of it under their
own names, and what the record itself tells is an entry unless a field of the same name takes its
place. Of the names that a record tells something under, only `message` and `module` are kept for
the record, so that nothing stops a field with one of the others.
-/

namespace RideQuestions.Logging

open RideQuestions.Calendar

namespace LogRecord

-----------------------------------------------------------------------------------------
-- What a record tells
-----------------------------------------------------------------------------------------

/-- What a record itself tells under a name of the JSON object. -/
inductive Tells (r : LogRecord) (zone : Zone) (room : Nat) : String → Value → Prop where
  | timestamp {made : Instant} (dated : r.instant zone = .ok made) :
      Tells r zone room "timestamp" (.text made.iso)
  | level : Tells r zone room "level" (r.field "levelname")
  | logger : Tells r zone room "logger" (r.field "name")
  | message {text : String} (filled : r.message room = .ok text) :
      Tells r zone room "message" (.text text)
  | module : Tells r zone room "module" (r.field "module")
  | function : Tells r zone room "function" (r.field "funcName")
  | line : Tells r zone room "line" (r.field "lineno")
  | exception {report : String} (reported : r.report = some report) :
      Tells r zone room "exception" (.text report)

variable {r : LogRecord} {zone : Zone} {room : Nat} {own entries : List (String × Value)}
  {name : String} {value : Value}

/-- A record has entries of its own when it has a date and a message. -/
theorem exists_ownEntries_iff
    : (∃ own, r.ownEntries zone room = .ok own)
      ↔ (∃ made, r.instant zone = .ok made) ∧ ∃ text, r.message room = .ok text := by
  simp only [ownEntries, bind_eq_ok_iff, mapError_eq_ok_iff]
  constructor
  · rintro ⟨own, made, dated, text, filled, _⟩
    exact ⟨⟨made, dated⟩, text, filled⟩
  · rintro ⟨⟨made, dated⟩, text, filled⟩
    exact ⟨_, made, dated, text, filled, rfl⟩

/-- The own entries of a record are what it tells. -/
theorem mem_ownEntries (found : r.ownEntries zone room = .ok own)
    : (name, value) ∈ own ↔ r.Tells zone room name value := by
  obtain ⟨made, dated, more⟩ := bind_eq_ok_iff.mp found
  obtain ⟨text, filled, same⟩ := bind_eq_ok_iff.mp more
  rw [mapError_eq_ok_iff] at filled
  obtain rfl := Except.ok.inj same
  constructor
  · intro member
    rcases List.mem_append.mp member with plain | added
    · simp only [List.mem_cons, Prod.mk.injEq, List.not_mem_nil, or_false] at plain
      rcases plain with ⟨rfl, rfl⟩ | ⟨rfl, rfl⟩ | ⟨rfl, rfl⟩ | ⟨rfl, rfl⟩ | ⟨rfl, rfl⟩ | ⟨rfl, rfl⟩
        | ⟨rfl, rfl⟩
      · exact .timestamp dated
      · exact .level
      · exact .logger
      · exact .message filled
      · exact .module
      · exact .function
      · exact .line
    · obtain ⟨report, reported, same⟩ := Option.map_eq_some_iff.mp (Option.mem_toList.mp added)
      obtain ⟨rfl, rfl⟩ := Prod.mk.inj same
      exact .exception reported
  · intro told
    cases told with
    | timestamp again =>
        obtain rfl := Except.ok.inj (dated.symm.trans again)
        simp
    | message again =>
        obtain rfl := Except.ok.inj (filled.symm.trans again)
        simp
    | exception reported => simp [reported]
    | level | logger | module | function | line => simp

theorem nodup_ownEntries (found : r.ownEntries zone room = .ok own)
    : (own.map Prod.fst).Nodup := by
  obtain ⟨made, _, more⟩ := bind_eq_ok_iff.mp found
  obtain ⟨text, _, same⟩ := bind_eq_ok_iff.mp more
  obtain rfl := Except.ok.inj same
  cases r.report with
  | none => simp
  | some report => simp

-----------------------------------------------------------------------------------------
-- The object
-----------------------------------------------------------------------------------------

/-- The extra fields are neither the record's own nor do they begin with an underscore. -/
theorem mem_extras
    : (name, value) ∈ r.extras ↔ (name, value) ∈ r.fields ∧ isExtra name = true := by
  rw [extras, List.mem_filter]

theorem nodup_extras (distinct : (r.fields.map Prod.fst).Nodup)
    : (r.extras.map Prod.fst).Nodup :=
  distinct.sublist (List.filter_sublist.map Prod.fst)

/-- An object is written in two steps: the entries of the record, and over them the extra fields. -/
theorem entries_eq_ok_iff
    : r.entries zone room = .ok entries
      ↔ ∃ own, r.ownEntries zone room = .ok own
        ∧ r.extras.foldl (fun kept e => Value.put e.1 e.2 kept) own = entries := by
  rw [LogRecord.entries, bind_eq_ok_iff]
  exact exists_congr fun own => and_congr_right fun _ => ⟨Except.ok.inj, congrArg Except.ok⟩

/-- A line is the text of an object that can be written. -/
theorem write_json_eq_ok_iff {line : String}
    : Layout.json.write r zone room = .ok line
      ↔ ∃ entries, r.entries zone room = .ok entries ∧ (Value.map entries).Writable room
        ∧ Json.write (.map entries) = line := by
  rw [Layout.write, bind_eq_ok_iff]
  simp only [mapError_eq_ok_iff, Value.written_eq_ok_iff]

/-- An object has under a name what an extra field of the name holds, and otherwise what the record
tells. -/
theorem lookup_entries (distinct : (r.fields.map Prod.fst).Nodup)
    (found : r.ownEntries zone room = .ok own) (made : r.entries zone room = .ok entries)
    : entries.lookup name = (r.extras.lookup name).or (own.lookup name) := by
  obtain ⟨again, same, rfl⟩ := entries_eq_ok_iff.mp made
  obtain rfl := Except.ok.inj (found.symm.trans same)
  exact Value.lookup_foldl_put (nodup_extras distinct)

/-- Every extra field is an entry with its own value. -/
theorem lookup_entries_of_extra (distinct : (r.fields.map Prod.fst).Nodup)
    (made : r.entries zone room = .ok entries) (member : (name, value) ∈ r.fields)
    (extra : isExtra name = true)
    : entries.lookup name = some value := by
  obtain ⟨own, found, _⟩ := entries_eq_ok_iff.mp made
  rw [lookup_entries distinct found made,
    Value.lookup_of_mem (nodup_extras distinct) (mem_extras.mpr ⟨member, extra⟩), Option.some_or]

/-- What a record tells is an entry exactly when no extra field of its name holds anything else. -/
theorem lookup_entries_iff (distinct : (r.fields.map Prod.fst).Nodup)
    (made : r.entries zone room = .ok entries) (told : r.Tells zone room name value)
    : entries.lookup name = some value
      ↔ ∀ other, (name, other) ∈ r.fields → isExtra name = true → other = value := by
  constructor
  · intro stands other member extra
    rw [lookup_entries_of_extra distinct made member extra] at stands
    exact Option.some.inj stands
  · intro same
    obtain ⟨own, found, _⟩ := entries_eq_ok_iff.mp made
    have said : own.lookup name = some value :=
      Value.lookup_of_mem (nodup_ownEntries found) ((mem_ownEntries found).mpr told)
    rw [lookup_entries distinct found made]
    cases added : r.extras.lookup name with
    | none => rw [said, Option.none_or]
    | some other =>
        obtain ⟨member, extra⟩ := mem_extras.mp (Value.mem_of_lookup added)
        rw [same other member extra, Option.some_or]

/-- An entry is what the record tells or an extra field. -/
theorem tells_or_extra (distinct : (r.fields.map Prod.fst).Nodup)
    (made : r.entries zone room = .ok entries) (stands : entries.lookup name = some value)
    : r.Tells zone room name value ∨ (name, value) ∈ r.fields ∧ isExtra name = true := by
  obtain ⟨own, found, _⟩ := entries_eq_ok_iff.mp made
  rw [lookup_entries distinct found made, Option.or_eq_some_iff] at stands
  rcases stands with added | ⟨_, said⟩
  · exact .inr (mem_extras.mp (Value.mem_of_lookup added))
  · exact .inl ((mem_ownEntries found).mp (Value.mem_of_lookup said))

theorem exists_entries_iff
    : (∃ entries, r.entries zone room = .ok entries)
      ↔ (∃ made, r.instant zone = .ok made) ∧ ∃ text, r.message room = .ok text := by
  rw [← exists_ownEntries_iff]
  simp only [entries_eq_ok_iff]
  constructor
  · rintro ⟨_, own, found, _⟩
    exact ⟨own, found⟩
  · rintro ⟨own, found⟩
    exact ⟨_, own, found, rfl⟩

theorem nodup_entries (made : r.entries zone room = .ok entries)
    : (entries.map Prod.fst).Nodup := by
  obtain ⟨own, found, rfl⟩ := entries_eq_ok_iff.mp made
  exact Value.nodup_foldl_put (nodup_ownEntries found)

/-- A record has a line as JSON exactly when it has a date and a message and its object can be
written, and the line is the text of an object without repeated names. Every extra field of the
record is in it with its own value; what the record tells under a name is in it exactly when no
extra field of that name holds anything else, and so always its message and its module; and nothing
else is in it. -/
theorem emitted_entries (r : LogRecord) (zone : Zone) (room : Nat)
    (distinct : (r.fields.map Prod.fst).Nodup)
    : ((∃ line, Layout.json.write r zone room = .ok line)
        ↔ (∃ made, r.instant zone = .ok made) ∧ (∃ text, r.message room = .ok text)
          ∧ ∀ entries, r.entries zone room = .ok entries → (Value.map entries).Writable room)
      ∧ ∀ line, Layout.json.write r zone room = .ok line →
        ∃ entries, r.entries zone room = .ok entries ∧ Json.write (.map entries) = line
          ∧ (entries.map Prod.fst).Nodup
          ∧ (∀ name value, (name, value) ∈ r.fields → isExtra name = true →
            entries.lookup name = some value)
          ∧ (∀ name value, r.Tells zone room name value →
            (entries.lookup name = some value
              ↔ ∀ other, (name, other) ∈ r.fields → isExtra name = true → other = value))
          ∧ (∀ name value, r.Tells zone room name value → name = "message" ∨ name = "module" →
            entries.lookup name = some value)
          ∧ ∀ name value, entries.lookup name = some value →
            r.Tells zone room name value ∨ (name, value) ∈ r.fields ∧ isExtra name = true := by
  constructor
  · rw [← and_assoc, ← exists_entries_iff]
    simp only [write_json_eq_ok_iff]
    constructor
    · rintro ⟨_, entries, made, writable, _⟩
      refine ⟨⟨entries, made⟩, fun others again => ?_⟩
      obtain rfl := Except.ok.inj (made.symm.trans again)
      exact writable
    · rintro ⟨⟨entries, made⟩, writable⟩
      exact ⟨_, entries, made, writable entries made, rfl⟩
  · intro line written
    obtain ⟨entries, made, _, text⟩ := write_json_eq_ok_iff.mp written
    refine ⟨entries, made, text, nodup_entries made, ?_, ?_, ?_, ?_⟩
    · exact fun _ _ => lookup_entries_of_extra distinct made
    · exact fun _ _ => lookup_entries_iff distinct made
    · intro name value told kept
      refine (lookup_entries_iff distinct made told).mpr fun other _ extra => ?_
      rcases kept with rfl | rfl
      · exact absurd extra (by decide)
      · exact absurd extra (by decide)
    · exact fun _ _ => tells_or_extra distinct made

/-- A record with a field that is called like an entry of the object. -/
def overridden : LogRecord :=
  {
    fields :=
      [
        ("name", .text "QueryService"), ("msg", .text "Question received"),
        ("levelname", .text "INFO"), ("levelno", .int 20), ("created", .int 1750000000),
        ("msecs", .int 0), ("module", .text "query_service"), ("funcName", .text "answer"),
        ("lineno", .int 10), ("level", .text "OVERRIDE"), ("request_id", .text "abc123")
      ]
  }

/-- What is written for it. -/
def overriddenLine : String :=
  "\x7b\"timestamp\": \"2025-06-15T15:06:40\", \"level\": \"OVERRIDE\", "
    ++ "\"logger\": \"QueryService\", \"message\": \"Question received\", "
    ++ "\"module\": \"query_service\", \"function\": \"answer\", \"line\": 10, "
    ++ "\"request_id\": \"abc123\"\x7d"

/-- The field stands where the level of the record should be, which is nowhere then. -/
theorem overridden_level
    : (overridden.fields.map Prod.fst).Nodup
      ∧ overridden.Tells .utc Value.usualRoom "level" (.text "INFO")
      ∧ Layout.json.write overridden = .ok overriddenLine
      ∧ ∃ entries, overridden.entries = .ok entries ∧ Json.write (.map entries) = overriddenLine
        ∧ entries.lookup "level" = some (.text "OVERRIDE")
        ∧ ("level", .text "INFO") ∉ entries := by
  have distinct : (overridden.fields.map Prod.fst).Nodup := by decide
  have line : Layout.json.write overridden = .ok overriddenLine :=
    toOption_eq_some_iff.mp (by decide +kernel)
  obtain ⟨entries, made, _, text⟩ := write_json_eq_ok_iff.mp line
  have stands : entries.lookup "level" = some (.text "OVERRIDE") :=
    lookup_entries_of_extra distinct made (by simp [overridden]) (by decide)
  refine ⟨distinct, .level, line, entries, made, text, stands, fun member => ?_⟩
  rw [Value.lookup_of_mem (nodup_entries made) member] at stands
  simp at stands

/-- The same record, made where something went wrong. -/
def failed : LogRecord :=
  { overridden with report := some "ValueError: bad value" }

/-- The line of a failure has its message, what went wrong and the number of the request. -/
theorem emitted_entries_failed
    : (failed.fields.map Prod.fst).Nodup
      ∧ ∃ line entries, Layout.json.write failed = .ok line ∧ failed.entries = .ok entries
        ∧ entries.lookup "message" = some (.text "Question received")
        ∧ entries.lookup "exception" = some (.text "ValueError: bad value")
        ∧ entries.lookup "request_id" = some (.text "abc123")
        ∧ entries.lookup "level" = some (.text "OVERRIDE") := by
  have distinct : (failed.fields.map Prod.fst).Nodup := by decide
  have text : failed.message = .ok "Question received" :=
    toOption_eq_some_iff.mp (by decide +kernel)
  have emitted : ((Layout.json.write failed).toOption).isSome = true := by decide +kernel
  obtain ⟨line, written⟩ := Option.isSome_iff_exists.mp emitted
  rw [toOption_eq_some_iff] at written
  obtain ⟨entries, found, _, _, extra, told, kept, _⟩ :=
    (emitted_entries failed .utc Value.usualRoom distinct).2 line written
  refine ⟨distinct, line, entries, written, found, ?_, ?_, ?_, ?_⟩
  · exact kept _ _ (.message text) (.inl rfl)
  · refine (told _ _ (.exception rfl)).mpr fun other member _ => ?_
    exact absurd member (by simp [failed, overridden])
  · exact extra _ _ (by simp [failed, overridden]) (by decide)
  · exact extra _ _ (by simp [failed, overridden]) (by decide)

end LogRecord

end RideQuestions.Logging
