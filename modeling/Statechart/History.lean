/-!
# History: the newest transitions taken

A history keeps its records oldest first and, when it has a limit, forgets the oldest ones beyond
it as soon as a record is added. A history that was made with more records than its limit keeps
them all until then.
-/
namespace Statechart

/-- One transition taken: where from, where to, why, and a time if the keeper has a clock. -/
structure Record (S T : Type) where
  source : S
  target : S
  trigger : String
  time : T
  deriving DecidableEq, Repr

/-- Transitions taken, oldest first, with the number of them to keep. -/
structure History (S T : Type) where
  records : List (Record S T)
  limit : Option UInt64
  deriving DecidableEq, Repr

namespace History

variable {S T : Type}

/-- An empty history that forgets nothing. -/
def unbounded : History S T := ⟨[], none⟩

/-- An empty history that keeps the given number of records. -/
def bounded (limit : UInt64) : History S T := ⟨[], some limit⟩

/-- The last records of a list, at most as many as the limit says. -/
def newest (limit : Option UInt64) (records : List (Record S T)) : List (Record S T) :=
  match limit with
  | none => records
  | some limit => records.drop (records.length - limit.toNat)

/-- Adds a record and forgets the oldest ones beyond the limit. -/
def record (history : History S T) (entry : Record S T) : History S T :=
  { history with records := newest history.limit (history.records ++ [entry]) }

def size (history : History S T) : Nat := history.records.length

def isEmpty (history : History S T) : Bool := history.records.isEmpty

/-- The states passed through: where the oldest record starts, then where each one leads. -/
def path (history : History S T) : List S :=
  match history.records with
  | [] => []
  | first :: rest => first.source :: (first :: rest).map Record.target

/-- How often a state was entered within the records kept. -/
def entries [DecidableEq S] (history : History S T) (state : S) : Nat :=
  history.records.countP fun entry => entry.target = state

end History

end Statechart
