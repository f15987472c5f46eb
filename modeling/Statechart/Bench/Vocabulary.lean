import Statechart.Activity
import Statechart.Snapshot
import Statechart.Text.Quoted

/-!
# The bench: charts whose callbacks are written in a small language

On the bench, guards, actions, services and listeners are data: expressions over a context of two
numbers, a text and a log, and commands on the interpreter that runs them. Numbers are signed, have
sixty-four bits and wrap.
-/
namespace Statechart.Bench

/-! ## States, signals and contexts -/

/-- The states of a bench chart; the last two are final. -/
inductive State where
  | a | b | c | d | e | f | g | h | x | y
  deriving DecidableEq, Repr

namespace State

def name : State → String
  | .a => "A"
  | .b => "B"
  | .c => "C"
  | .d => "D"
  | .e => "E"
  | .f => "F"
  | .g => "G"
  | .h => "H"
  | .x => "X"
  | .y => "Y"

def all : List State := [.a, .b, .c, .d, .e, .f, .g, .h, .x, .y]

def ofName? (text : String) : Option State := all.find? fun state => state.name == text

def isFinal : State → Bool
  | .x => true
  | .y => true
  | _ => false

end State

/-- The kinds of signals. -/
inductive Kind where
  | go | back | tick | add | halt
  deriving DecidableEq, Repr

namespace Kind

def name : Kind → String
  | .go => "Go"
  | .back => "Back"
  | .tick => "Tick"
  | .add => "Add"
  | .halt => "Halt"

def all : List Kind := [.go, .back, .tick, .add, .halt]

def ofName? (text : String) : Option Kind := all.find? fun kind => kind.name == text

end Kind

/-- A signal: its kind and a number. -/
structure Signal where
  kind : Kind
  value : Int64
  deriving DecidableEq, Repr

structure Context where
  n : Int64 := 0
  m : Int64 := 0
  text : String := ""
  log : List String := []
  deriving DecidableEq, Repr

/-! ## Expressions and conditions -/

/-- A number computed from a context and an event. -/
inductive Expr where
  | constant (value : Int64)
  | n
  | m
  | signalValue
  /-- What a service resolved with. -/
  | output
  /-- The generation of an outcome. -/
  | generation
  | logSize
  | add (left right : Expr)
  | sub (left right : Expr)
  | mul (left right : Expr)
  deriving Repr, Inhabited

/-- How two numbers are compared. -/
inductive Comparison where
  | lt | le | eq | ne | gt | ge
  deriving DecidableEq, Repr

/-- What a guard asks. -/
inductive Condition where
  | constant (value : Bool)
  | compare (left : Expr) (comparison : Comparison) (right : Expr)
  | label (text : String)
  | kind (kind : Kind)
  /-- What a service was rejected with. -/
  | error (text : String)
  | text (value : String)
  | negation (of : Condition)
  | conjunction (of : List Condition)
  | disjunction (of : List Condition)
  /-- A condition whose evaluation leaves a mark. -/
  | traced (id : String) (of : Condition)
  deriving Inhabited

/-- A guard: a condition, which may be shown the first event instead of the one at hand. -/
structure Guard where
  condition : Condition
  contextOnly : Bool

/-! ## Commands -/

/-- The snapshots that a listener reacts to: those that agree in every field given. -/
structure Filter where
  state : Option State := none
  status : Option Status := none
  n : Option Int64 := none
  deriving DecidableEq, Repr

/-- What can be done with an interpreter. -/
inductive Command where
  | start
  | send (signal : Signal)
  | stop
  | snapshot
  | isIn (state : State)
  | status
  | fault
  | options
  | history
  | entries (state : State)
  | subscribe (name : String) (filter : Filter) (reaction : List Command) (limit : Nat)
  | unsubscribe (name : String)
  deriving Inhabited

def Command.name : Command → String
  | .start => "start"
  | .send _ => "send"
  | .stop => "stop"
  | .snapshot => "snapshot"
  | .isIn _ => "matches"
  | .status => "status"
  | .fault => "fault"
  | .options => "options"
  | .history => "history"
  | .entries _ => "entries"
  | .subscribe _ _ _ _ => "subscribe"
  | .unsubscribe _ => "unsubscribe"

/-- A listener, and the number under which its reactions are counted. -/
structure Listener where
  counter : Nat
  name : String
  filter : Filter
  reaction : List Command
  limit : Nat

/-! ## Actions and services -/

inductive Update where
  | setN (value : Expr)
  | setM (value : Expr)
  | log (text : String)
  | logLabel
  | logEvent
  /-- Takes over what a service was rejected with, or nothing, as the text. -/
  | takeError

inductive Effect where
  | fail (message : String)
  /-- Writes the first number into a cell. -/
  | put (key : String)
  | plain
  /-- Carries out commands, a limited number of times. -/
  | act (counter : Nat) (commands : List Command) (limit : Nat)
  /-- Waits for others, if it is to. -/
  | gate

/-- The bodies of actions: a load reads a cell. -/
def Work : Role → Type
  | .assign => Update
  | .effect => Effect
  | .load => String

/-- How a service ends. -/
inductive Ending where
  | failure (error : String)
  /-- With what the cell holds by then. -/
  | cell (key : String)
  | value (output : Int64)
  deriving DecidableEq, Repr

/-- What a service is made from. -/
structure ServiceForm where
  id : String
  latency : Option Nat
  ok : Option Expr
  error : Option String
  cell : Option String

/-- A service at one of its stages. -/
inductive Task where
  /-- Over as soon as it begins. -/
  | instant (outcome : Except String Int64)
  /-- Not yet begun. -/
  | waiting (id : String) (latency : Option Nat) (ending : Ending)
  /-- Asleep, and over after that. -/
  | ending (id : String) (ending : Ending)

abbrev machine : Machine where
  State := State
  Context := Context
  Signal := Signal
  Kind := Kind
  Output := Int64
  Error := String
  Guard := Guard
  Work := Work
  Factory := ServiceForm
  Task := Task
  Listener := Listener
  kind := Signal.kind
  kindName := Kind.name
  stateName := State.name
  isFinal := State.isFinal
  stateEq := inferInstance
  kindEq := inferInstance

/-- A signal with its fields spelled out. -/
def Signal.describe (signal : Signal) : String :=
  "Ev \x7b kind: " ++ signal.kind.name ++ ", value: " ++ toString signal.value.toInt ++ " \x7d"

/-- An event with its fields spelled out. -/
def describe (event : Event machine) : String :=
  event.describe Signal.describe (fun output => toString (Int64.toInt output)) Text.quoted

end Statechart.Bench
