import Statechart.Document.Fields
import Statechart.History
import Statechart.Options
import Statechart.Snapshot
import Statechart.Event
import Statechart.Time.Timestamp

/-!
# Documents of histories, snapshots and options

Every structure is written with all of its fields in order of declaration; an absent limit is null.
States are written by their names.
-/
namespace Statechart

open Statechart.Time (Timestamp Span)

variable {S C : Type}

/-! ## Constants and options -/

/-- A state or any other constant, written by its name. -/
def Document.ofConstant (name : S → String) (value : S) : Document := .ofString (name value)

/-- Reads a constant by its name. -/
def Document.constantOf? (ofName? : String → Option S) (document : Document) : Option S :=
  document.constant?.bind ofName?

def Status.toDocument (status : Status) : Document := .ofConstant Status.name status

def Status.ofDocument? (document : Document) : Option Status :=
  document.constantOf? Status.ofName?

def Generation.toDocument (generation : Generation) : Document := .ofUInt64 generation.value

def Generation.ofDocument? (document : Document) : Option Generation :=
  document.natural?.map Generation.mk

def Options.toDocument (options : Options) : Document :=
  .ofFields [("max_microsteps", .ofUInt64 options.maxMicrosteps),
    ("history_limit", .ofUInt64 options.historyLimit)]

/-- The options of a document; what it lacks is as usual. -/
def Options.ofDocument? (document : Document) : Option Options := do
  let usual : Options := {}
  let fields ← document.fields? ["max_microsteps", "history_limit"]
  let maxMicrosteps ← fields.defaulted "max_microsteps" usual.maxMicrosteps Document.natural?
  let historyLimit ← fields.defaulted "history_limit" usual.historyLimit Document.natural?
  return { maxMicrosteps, historyLimit }

/-! ## Snapshots -/

def Snapshot.toDocument (state : S → Document) (context : C → Document)
    (snapshot : Snapshot S C) : Document :=
  .ofFields [("state", state snapshot.state), ("context", context snapshot.context),
    ("status", snapshot.status.toDocument)]

def Snapshot.ofDocument? (state : Document → Option S) (context : Document → Option C)
    (document : Document) : Option (Snapshot S C) := do
  let fields ← document.fields? ["state", "context", "status"]
  let state ← fields.required "state" state
  let context ← fields.required "context" context
  let status ← fields.required "status" Status.ofDocument?
  return { state, context, status }

/-! ## Histories -/

def Time.Timestamp.toDocument (time : Timestamp) : Document := .ofString time.render

def Time.Timestamp.ofDocument? (document : Document) : Option Timestamp :=
  document.string?.bind Timestamp.read?

def Record.toDocument (state : S → Document) (entry : Record S Timestamp) : Document :=
  .ofFields [("from", state entry.source), ("to", state entry.target),
    ("trigger", .ofString entry.trigger), ("timestamp", entry.time.toDocument)]

def Record.ofDocument? (state : Document → Option S) (document : Document) :
    Option (Record S Timestamp) := do
  let fields ← document.fields? ["from", "to", "trigger", "timestamp"]
  let source ← fields.required "from" state
  let target ← fields.required "to" state
  let trigger ← fields.required "trigger" Document.string?
  let time ← fields.required "timestamp" Timestamp.ofDocument?
  return { source, target, trigger, time }

namespace History

def toDocument (state : S → Document) (history : History S Timestamp) : Document :=
  .ofFields [("transitions", .list (history.records.map (Record.toDocument state))),
    ("limit", .ofOption .ofUInt64 history.limit)]

/-- The history of a document, with all of its records even beyond its limit. -/
def ofDocument? (state : Document → Option S) (document : Document) :
    Option (History S Timestamp) := do
  let fields ← document.fields? ["transitions", "limit"]
  let records ← fields.required "transitions" (Document.list? (Record.ofDocument? state))
  let limit ← fields.optional "limit" Document.natural?
  return { records, limit }

/-- The time from the oldest record to the newest, if that is not before it. -/
def duration (history : History S Timestamp) : Option Span :=
  match history.records.head?, history.records.getLast? with
  | some first, some last => last.time.since? first.time
  | _, _ => none

end History

end Statechart
