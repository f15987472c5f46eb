import Statechart.Bench.Vocabulary
import Statechart.Document.Encodings
import Statechart.Proofs.Fields

/-!
# Archives: histories kept as texts

A history is read back from the text that is written of it, with its limit, its records and the texts of their triggers
(`History.survives`). States are written by their names, so it takes states with different names and times that are
read back as they are written.
-/
namespace Statechart

open Statechart.Time (Timestamp)

/-! ## States that are listed -/

/-- All states of a machine, and a different name for each. -/
structure Listing (S : Type) where
  all : List S
  name : S → String
  complete : ∀ state, state ∈ all
  distinct : ∀ state other, name state = name other → state = other

namespace Listing

variable {S : Type} (states : Listing S)

def ofName? (text : String) : Option S := states.all.find? fun state => states.name state == text

/-- How a state is written. -/
def write (state : S) : Document := .ofConstant states.name state

/-- How a state is read. -/
def read? (document : Document) : Option S := document.constantOf? states.ofName?

theorem ofName?_name (state : S) : states.ofName? (states.name state) = some state := by
  cases found : states.ofName? (states.name state) with
  | none => exact absurd (List.find?_eq_none.mp found state (states.complete state)) (by simp)
  | some other =>
    have same := List.find?_some found
    rw [states.distinct other state (eq_of_beq same)]

theorem read?_write (state : S) : states.read? (states.write state) = some state := states.ofName?_name state

end Listing

/-! ## Records -/

variable {S : Type}

/-- A time that is read back as it is written. -/
def Time.Timestamp.Legible (time : Timestamp) : Prop := read? time.render = some time

theorem Time.Timestamp.Legible.ofDocument? {time : Timestamp} (legible : time.Legible) :
    Timestamp.ofDocument? time.toDocument = some time := by
  rw [Timestamp.ofDocument?,toDocument,Document.string?_ofString,Option.bind_some,legible]

theorem Record.ofDocument?_toDocument (states : Listing S) {entry : Record S Timestamp} (legible : entry.time.Legible) :
    ofDocument? states.read? (entry.toDocument states.write) = some entry := by
  obtain ⟨found,fields,shows⟩ := (Document.Revises.all [("from",states.write entry.source),
    ("to",states.write entry.target),("trigger",.ofString entry.trigger),("timestamp",entry.time.toDocument)]).fields?
      (by simp)
  have names : (entry.toDocument states.write).fields? ["from","to","trigger","timestamp"] = some ⟨false,found⟩ :=
    fields
  have source : Document.Fields.required ⟨false,found⟩ "from" states.read? = some entry.source :=
    Document.Fields.required_eq (shows "from" (by simp)) (states.read?_write _)
  have target : Document.Fields.required ⟨false,found⟩ "to" states.read? = some entry.target :=
    Document.Fields.required_eq (shows "to" (by simp)) (states.read?_write _)
  have trigger : Document.Fields.required ⟨false,found⟩ "trigger" Document.string? = some entry.trigger :=
    Document.Fields.required_eq (shows "trigger" (by simp)) rfl
  have time : Document.Fields.required ⟨false,found⟩ "timestamp" Timestamp.ofDocument? = some entry.time :=
    Document.Fields.required_eq (shows "timestamp" (by simp)) legible.ofDocument?
  simp [ofDocument?,names,source,target,trigger,time]

theorem Record.toDocument_proper (states : Listing S) (entry : Record S Timestamp) :
    (entry.toDocument states.write).Proper := by
  rw [toDocument,Document.proper_ofFields]
  simp [Listing.write,Document.ofConstant,Document.ofString,Timestamp.toDocument,Document.Proper]

/-! ## Histories -/

namespace History

theorem ofDocument?_toDocument (states : Listing S) {history : History S Timestamp}
    (legible : ∀ entry ∈ history.records, entry.time.Legible) :
    ofDocument? states.read? (history.toDocument states.write) = some history := by
  obtain ⟨found,fields,shows⟩ := (Document.Revises.all [
    ("transitions",.list (history.records.map (Record.toDocument states.write))),
    ("limit",.ofOption .ofUInt64 history.limit)]).fields? (by simp)
  have names : (history.toDocument states.write).fields? ["transitions","limit"] = some ⟨false,found⟩ := fields
  have records : Document.Fields.required ⟨false,found⟩ "transitions"
      (Document.list? (Record.ofDocument? states.read?)) = some history.records :=
    Document.Fields.required_eq (shows "transitions" (by simp))
      (Document.list?_map fun entry member => Record.ofDocument?_toDocument states (legible entry member))
  have limit : Document.Fields.optional ⟨false,found⟩ "limit" Document.natural? = some history.limit :=
    Document.Fields.optional_eq (shows "limit" (by simp)) Document.natural?_ofUInt64 Document.ofUInt64_ne_null
  simp [ofDocument?,names,records,limit]

theorem toDocument_proper (states : Listing S) (history : History S Timestamp) :
    (history.toDocument states.write).Proper := by
  rw [toDocument,Document.proper_ofFields]
  have records : (Document.list (history.records.map (Record.toDocument states.write))).Proper := by
    rw [Document.Proper,Document.properItems_iff]
    intro item member
    obtain ⟨entry,_,rfl⟩ := List.mem_map.mp member
    exact entry.toDocument_proper states
  have limit := Document.proper_ofOption Document.proper_ofUInt64 history.limit
  simp [records,limit]

/-- The history that a text is the written form of. -/
def read? (states : Listing S) (text : String) : Option (History S Timestamp) :=
  (Document.read? text).bind (ofDocument? states.read?)

/-- Two histories answer every question alike. -/
structure Alike [DecidableEq S] (history other : History S Timestamp) : Prop where
  size : history.size = other.size
  records : history.records = other.records
  path : history.path = other.path
  entries : ∀ state, history.entries state = other.entries state
  duration : history.duration = other.duration

/-- From the text that is written of a history, a history is read that has its limit and its records, and that goes on
to answer alike whatever is recorded in both of them. -/
theorem survives [DecidableEq S] (states : Listing S) (history : History S Timestamp)
    (legible : ∀ entry ∈ history.records, entry.time.Legible) :
    ∃ decoded, read? states (history.toDocument states.write).render = some decoded ∧
      decoded.limit = history.limit ∧ decoded.records = history.records ∧
      ∀ further : List (Record S Timestamp), (further.foldl record decoded).Alike (further.foldl record history) := by
  refine ⟨history,?_,rfl,rfl,fun further => ⟨rfl,rfl,rfl,fun _ => rfl,rfl⟩⟩
  rw [read?,Document.read?_render (history.toDocument_proper states)]
  exact ofDocument?_toDocument states legible

/-- The states of the bench. -/
def benchStates : Listing Bench.State where
  all := Bench.State.all
  name := Bench.State.name
  complete := by intro state; cases state <;> decide
  distinct := by intro state other; cases state <;> cases other <;> decide

/-- Two records with the greatest limit: one was made in a leap second by a trigger full of characters that have to be
escaped, the other one before the year zero. -/
def ledger : History Bench.State Timestamp where
  records := [⟨.a,.b,"Say \"𝄞\" \\ \t \x01",⟨1483228799,1500000000⟩⟩,⟨.b,.b,"",⟨-62200000000,1⟩⟩]
  limit := some 18446744073709551615

theorem ledger_survives :
    (∀ entry ∈ ledger.records, entry.time.Legible) ∧
    ∃ decoded, read? benchStates (ledger.toDocument benchStates.write).render = some decoded ∧
      decoded.limit = some 18446744073709551615 ∧ decoded.records = ledger.records := by
  have legible : ∀ entry ∈ ledger.records, entry.time.Legible := by
    intro entry member
    simp only [ledger,List.mem_cons,List.not_mem_nil,or_false] at member
    rcases member with rfl | rfl <;> rfl
  obtain ⟨decoded,reads,limit,records,_⟩ := survives benchStates ledger legible
  exact ⟨legible,decoded,reads,limit,records⟩

end History

end Statechart
