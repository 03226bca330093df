import RideQuery.Answer.Process
import RideQuery.Proofs.Log.Event
import RideQuery.Proofs.Query.Execution
import RideQuery.Proofs.Question.Relevance
import RideQuery.Proofs.Value.Levels

/-!
# Records of a question's events

Every event that answering a question comes to has a record.  Events of the channel are
recorded with plain payloads, so that the message of the record names the event; the ranking
and the alarm are recorded outside the channel.
-/

namespace RideQuery

open RideQuery.Number RideQuery.Json RideQuery.Schema RideQuery.Calendar RideQuery.Question
open RideQuery.Query RideQuery.Log

/-! ## Intents -/

/-- Filters whose value is plain and has no brackets. -/
def Filter.IsPlain (filter : Filter) : Prop :=
  Json.IsPlain 0 filter.value.toValue

theorem Filter.IsPlain.toValue {filter : Filter} (plain : filter.IsPlain) :
    Json.IsPlain 1 filter.toValue := by
  refine Json.IsPlain.record [("column", _), ("operator", _), ("value", _),
    ("is_parameterized", _)] (by simp) ?_
  simpa using ⟨.text _, .text _, plain, .bool _⟩

theorem DateRange.isPlain_toValue (range : DateRange) : Json.IsPlain 1 range.toValue := by
  refine Json.IsPlain.record [("start_date", _), ("end_date", _), ("relative_date", _),
    ("specific_month", _), ("specific_year", _)] (by simp) ?_
  simpa using ⟨isPlain_ofOption 0 range.startDate, isPlain_ofOption 0 range.endDate,
    isPlain_ofOption 0 (range.relativeDate.map Worded.wording),
    isPlain_ofOption 0 range.specificMonth, isPlain_ofOption 0 range.specificYear⟩

theorem Intent.isPlain_entries {intent : Intent}
    (plain : ∀ filter ∈ intent.filters, filter.IsPlain) :
    Json.IsPlain 3 (.dict intent.entries) := by
  have filters : Json.IsPlain 2 (.list (intent.filters.map Filter.toValue)) :=
    .list (List.forall_mem_map.mpr fun filter member => (plain filter member).toValue)
  have range : Json.IsPlain 2 ((intent.dateRange.map DateRange.toValue).getD .null) := by
    cases intent.dateRange with
    | none => exact .null
    | some range => exact range.isPlain_toValue.mono (by decide)
  have groups : Json.IsPlain 2 (.list (intent.groupBy.map .text)) :=
    .list (List.forall_mem_map.mpr fun name _ => .text name)
  refine Json.IsPlain.record [("type", _), ("aggregation_type", _), ("filter_conditions", _),
    ("date_range", _), ("group_by", _)] (by simp) ?_
  simpa using ⟨.text _, .text _, filters, range, groups⟩

namespace Question

variable {columns : List Column} {ranked : List Scored} {asked : Asked}

theorem Detector.isPlain_of_detect {detector : Detector} {filter : Filter}
    (found : detector.detect asked ranked = some filter) : filter.IsPlain := by
  obtain ⟨column, _, ⟨place, rfl⟩ | ⟨gender, rfl⟩ | rfl⟩ := detector.detect_cases found
  · exact .text _
  · exact .text _
  · exact .int (by decide)

/-- The filters of an intent that is made from a question are plain. -/
theorem isPlain_of_mem_filters {today : Date} {intent : Intent}
    (analysed : analyze asked columns today = .ok intent) :
    ∀ filter ∈ intent.filters, filter.IsPlain := by
  intro filter member
  rw [(exists_of_analyze analysed).2.1] at member
  obtain ⟨detector, _, found⟩ := List.mem_filterMap.mp member
  exact detector.isPlain_of_detect found

end Question

/-! ## Records of the channel -/

/-- The name of the event that the message of a record tells of, if it tells of one. -/
def Log.Record.event? (record : Record) : Option Value :=
  match Json.read? record.message with
  | some (.dict entries) => Value.lookup? entries eventKey
  | _ => none

namespace Answer.Event

/-- Records of the channel that tell of an event by its name. -/
structure IsMark (name : String) (record : Record) : Prop where
  level : record.level = .info
  logger : record.logger = processorLogger
  channel : record.channel = some channel
  event : record.event? = some (.text name)

/-- The name that an event has on the channel, if it is one of the channel's. -/
def name? : Event → Option String
  | .received _ => some "query.receive"
  | .analysed _ => some "query.intent"
  | .built _ => some "query.sql"
  | .done .. => some "query.done"
  | .rejected .. => some "query.rejected"
  | .failed .. => some "query.failed"
  | .ranked _ | .unexpected _ => none

/-- Whether everything in an event can be written down. -/
def IsWritable : Event → Prop
  | .ranked columns => ∀ scored ∈ columns, scored.score ≤ greatestScore
  | .analysed intent => ∀ filter ∈ intent.filters, filter.IsPlain
  | .built request => ∀ parameter ∈ request.parameters, IsPlain 0 parameter
  | .done rows milliseconds =>
    digitCount rows ≤ maxDigits ∧ digitCount milliseconds.natAbs ≤ maxDigits
  | .rejected _ milliseconds | .failed _ milliseconds =>
    digitCount milliseconds.natAbs ≤ maxDigits
  | .received _ | .unexpected _ => True

/-- What the record of an event has to be. -/
inductive IsRecordedAs : Event → Record → Prop
  | mark {event : Event} {name : String} {record : Record} (named : event.name? = some name)
      (marks : IsMark name record) : IsRecordedAs event record
  | ranking {columns : List Scored} {record : Record} (logger : record.logger ≠ processorLogger)
      (silent : record.channel = none) : IsRecordedAs (.ranked columns) record
  | alarm {asked : Asked} {record : Record} (level : record.level = .error)
      (logger : record.logger = processorLogger) (silent : record.channel = none) :
      IsRecordedAs (.unexpected asked) record

/-- A plain payload without a name of its own is recorded under the name of its event. -/
theorem exists_record_of_name {event : Event} {nesting : Nat} {name : String} {payload : Dict}
    (named : event.name? = some name) (onIt : event.record = onChannel name payload)
    (plain : IsPlain nesting (.dict payload)) (fits : nesting ≤ room.writing)
    (unnamed : Value.lookup? payload eventKey = none) :
    ∃ record, event.record = .ok record ∧ IsRecordedAs event record := by
  obtain ⟨text, worded, read⟩ := exists_eventText_of_isPlain name plain fits
  have message : Json.read? text = some (.dict (merged name payload)) := read.read?
  refine ⟨_, by rw [onIt, onChannel, worded]; rfl, .mark named ⟨rfl, rfl, rfl, ?_⟩⟩
  rw [Record.event?, message, merged, unnamed]
  simp [Value.lookup?, Value.sameKey_text]

theorem isPlain_failurePayload (failure : Failure) {milliseconds : Int}
    (short : digitCount milliseconds.natAbs ≤ maxDigits) :
    IsPlain 1 (.dict (failurePayload failure milliseconds)) := by
  refine IsPlain.record [("error", _), ("kind", _), ("ms", _)] (by simp) ?_
  simpa using ⟨.text _, .text _, .int short⟩

theorem digitCount_score_le {scored : Scored} (bound : scored.score ≤ greatestScore) :
    digitCount scored.score ≤ maxDigits :=
  digitCount_le_of_lt (Nat.lt_of_le_of_lt bound (by decide +kernel))

/-- The ranking has three levels: its list, its pairs, and what they hold. -/
theorem exists_plainWithin_rankedValue {columns : List Scored}
    (bounds : ∀ scored ∈ columns, scored.score ≤ greatestScore) :
    ∃ text, (rankedValue columns).plainWithin room.showing = .ok text := by
  change ∃ text, (rankedValue columns).inspectWithin 3 = .ok text
  rw [Value.exists_inspectWithin_iff, rankedValue, Value.fits_list_iff, List.forall_mem_map]
  intro scored member
  rw [Value.fits_tuple_iff, List.forall_mem_cons, List.forall_mem_singleton, Value.fits_int_iff]
  exact ⟨Value.fits_text .., digitCount_score_le (bounds scored (List.mem_of_mem_take member))⟩

/-- Every event that can be written down has a record. -/
theorem exists_record {event : Event} (writable : event.IsWritable) :
    ∃ record, event.record = .ok record ∧ IsRecordedAs event record := by
  cases event with
  | received asked =>
      have plain : IsPlain 1 (.dict [(.text "question", .ofOption asked)]) :=
        IsPlain.record [("question", _)] (by simp)
          (List.forall_mem_singleton.mpr (isPlain_ofOption 0 asked))
      exact exists_record_of_name rfl rfl plain (by decide)
        (by simp [Value.lookup?, Value.sameKey_text, eventKey])
  | ranked columns =>
      obtain ⟨text, shown⟩ := exists_plainWithin_rankedValue writable
      have apart : analysisLogger ≠ processorLogger := by decide
      exact ⟨_, by rw [Event.record, shown]; rfl, .ranking apart rfl⟩
  | analysed intent =>
      exact exists_record_of_name rfl rfl (Intent.isPlain_entries writable) (by decide)
        (by simp [Intent.entries, Value.lookup?, Value.sameKey_text, eventKey])
  | built request =>
      have plain : IsPlain 2 (.dict
          [(.text "sql", .text request.sql), (.text "parameters", .list request.parameters)]) :=
        IsPlain.record [("sql", _), ("parameters", _)] (by simp)
          (by simpa using ⟨.text _, .list writable⟩)
      exact exists_record_of_name rfl rfl plain (by decide)
        (by simp [Value.lookup?, Value.sameKey_text, eventKey])
  | done rows milliseconds =>
      have plain : IsPlain 1 (.dict
          [(.text "rows", .int rows), (.text "ms", .int milliseconds)]) :=
        IsPlain.record [("rows", _), ("ms", _)] (by simp)
          (by simpa using ⟨.int writable.1, .int writable.2⟩)
      exact exists_record_of_name rfl rfl plain (by decide)
        (by simp [Value.lookup?, Value.sameKey_text, eventKey])
  | rejected failure milliseconds =>
      exact exists_record_of_name rfl rfl (isPlain_failurePayload failure writable) (by decide)
        (by simp [failurePayload, Value.lookup?, Value.sameKey_text, eventKey])
  | failed failure milliseconds =>
      exact exists_record_of_name rfl rfl (isPlain_failurePayload failure writable) (by decide)
        (by simp [failurePayload, Value.lookup?, Value.sameKey_text, eventKey])
  | unexpected asked =>
      obtain ⟨text, shown⟩ := Value.exists_inspectWithin_ofOption asked (by decide : 0 < room.showing)
      exact ⟨_, by rw [Event.record, shown]; rfl, .alarm rfl rfl rfl⟩

end Answer.Event

end RideQuery
