import Statechart.Bench.Meaning
import Statechart.Site

/-!
# The stage: what bench charts act on, and what they leave behind

Everything that callbacks do leaves marks on the stage, in order. The stage also holds named cells,
the actions that are to fail, the handles of subscriptions, and a gate: steps that are to be carried
out while an action waits for them.
-/
namespace Statechart.Bench

/-- A failure of a bench interpreter. -/
abbrev Fault : Type := Failure State

/-- A snapshot of a bench interpreter. -/
abbrev View : Type := Snapshot State Context

/-- What a command comes to. -/
inductive Result where
  /-- There is no interpreter. -/
  | dropped
  | nothing
  | started (result : Except Fault View)
  | sent (result : Except Fault Unit)
  | snapshot (view : View)
  | flag (value : Bool)
  | status (status : Status)
  | fault (fault : Option Fault)
  | options (machineId : String) (options : Options)
  | history (history : History State Unit)
  | count (value : Nat)

/-- A trace of something that happened. -/
inductive Mark where
  | guarded (id : String) (value : Bool)
  | effected (name : String) (n : Int64)
  | acted (command : String) (result : Result)
  /-- An action came to the gate, and waited there or not. -/
  | gate (waited : Bool)
  | created (service event : String) (n : Int64)
  | ran (service : String)
  | finished (service : String)
  | heard (listener : String) (view : View)

/-- One step of a performance. -/
inductive Step where
  | command (command : Command)
  /-- A command from a caller without a clock. -/
  | outside (command : Command)
  | advance (span : Nat)
  /-- Steps between which nothing settles. -/
  | batch (steps : List Step)
  /-- A command from a second caller, and the steps carried out while it waits at the gate. -/
  | gated (command : Command) (steps : List Step)
  /-- Sets a cell or removes it. -/
  | cell (key : String) (value : Option Int64)
  /-- Makes the effects of a name fail, or mends them. -/
  | spoil (name : String) (message : Option String)
  /-- Replaces the interpreter by a new one. -/
  | renew
  | drop

mutual

/-- What a step comes to. -/
inductive Outcome where
  | single (result : Result)
  | several (answers : List Answer)
  | passed (answers : List Answer) (sent : Result)

/-- What a step comes to, the marks since the step before, and where the interpreter is now. -/
inductive Answer where
  | mk (outcome : Outcome) (marks : List Mark) (view : Option View)

end

/-- What bench charts act on. -/
structure Stage where
  marks : Array Mark := #[]
  cells : List (String × Int64) := []
  /-- The effects that fail, with their messages. -/
  spoiled : List (String × String) := []
  /-- How often counted actions and listeners have acted. -/
  counts : List (Nat × Nat) := []
  /-- The next number for a listener's count. -/
  nextCounter : Nat := 0
  handles : List (String × Subscription) := []
  /-- The steps that an action is to wait for. -/
  gate : Option (List Step) := none
  /-- What came of the steps that an action waited for. -/
  passed : List Answer := []

/-! ## Tables -/

def find? {κ α : Type} [BEq κ] (table : List (κ × α)) (key : κ) : Option α :=
  (table.find? fun entry => entry.1 == key).map Prod.snd

def erase {κ α : Type} [BEq κ] (table : List (κ × α)) (key : κ) : List (κ × α) :=
  table.filter fun entry => !(entry.1 == key)

def insert {κ α : Type} [BEq κ] (table : List (κ × α)) (key : κ) (value : α) : List (κ × α) :=
  erase table key ++ [(key, value)]

/-- The table with a value for a key, or without one. -/
def assignKey {κ α : Type} [BEq κ] (table : List (κ × α)) (key : κ) : Option α → List (κ × α)
  | none => erase table key
  | some value => insert table key value

namespace Stage

def mark (stage : Stage) (mark : Mark) : Stage := { stage with marks := stage.marks.push mark }

def put (stage : Stage) (key : String) (value : Int64) : Stage :=
  { stage with cells := insert stage.cells key value }

/-- How often a counted action or listener has acted. -/
def count (stage : Stage) (counter : Nat) : Nat := (find? stage.counts counter).getD 0

def countUp (stage : Stage) (counter : Nat) : Stage :=
  { stage with counts := insert stage.counts counter (stage.count counter + 1) }

/-- The value of a cell, or the message that there is none. -/
def read (stage : Stage) (key : String) : Except String Int64 :=
  match find? stage.cells key with
  | some value => .ok value
  | none => .error ("no cell " ++ key)

end Stage

/-- What callers and callbacks do on the bench. -/
abbrev Act : Type → Type := Plan machine Stage

def look : Act Stage := .ask .read .done

def change (f : Stage → Stage) : Act Unit := look >>= fun stage => .ask (.write (f stage)) .done

def leave (mark : Mark) : Act Unit := change fun stage => stage.mark mark

def current : Act (Option (Interpreter machine)) := .ask .look .done

/-! ## Commands -/

/-- What a question about the current interpreter comes to. -/
def ask (answer : Interpreter machine → Result) : Act Result := do
  match ← current with
  | none => return .dropped
  | some interpreter => return answer interpreter

/-- What a call on the current interpreter comes to. -/
def place (clocked : Bool) (call : Call machine) : Act Result :=
  .ask (.call clocked call) fun reply =>
    .done <| match reply with
      | none => .dropped
      | some (.started result) => .started result
      | some (.posted result) => .sent result
      | some .stopped => .nothing

/-- Subscribes a listener and keeps its handle under its name. -/
def subscribe (name : String) (filter : Filter) (reaction : List Command) (limit : Nat) :
    Act Result := do
  let stage ← look
  change fun stage => { stage with nextCounter := stage.nextCounter + 1 }
  .ask (.subscribe ⟨stage.nextCounter, name, filter, reaction, limit⟩) fun
    | none => return .dropped
    | some handle => do
      change fun stage => { stage with handles := insert stage.handles name handle }
      return .nothing

/-- Uses up the handle of a name. -/
def unsubscribe (name : String) : Act Result := do
  let stage ← look
  match find? stage.handles name with
  | none => return .nothing
  | some handle =>
    change fun stage => { stage with handles := erase stage.handles name }
    .ask (.unsubscribe handle) fun removed => .done (.flag removed)

/-- Carries out a command for a caller that has a clock or not. -/
def Command.perform (clocked : Bool) : Command → Act Result
  | .start => place clocked (.start clocked)
  | .send signal => place clocked (.post (.signal signal))
  | .stop => place clocked .stop
  | .snapshot => ask fun interpreter => .snapshot interpreter.snapshot
  | .isIn state => ask fun interpreter => .flag (interpreter.snapshot.isIn state)
  | .status => ask fun interpreter => .status interpreter.core.status
  | .fault => ask fun interpreter => .fault interpreter.core.fault
  | .options => ask fun interpreter => .options interpreter.graph.id interpreter.options
  | .history => ask fun interpreter => .history interpreter.core.history
  | .entries state => ask fun interpreter => .count (interpreter.core.history.entries state)
  | .subscribe name filter reaction limit => Bench.subscribe name filter reaction limit
  | .unsubscribe name => Bench.unsubscribe name

/-- Carries out commands, each leaving a mark. -/
def performMarked (clocked : Bool) : List Command → Act Unit
  | [] => return ()
  | command :: rest => do
    let result ← command.perform clocked
    leave (.acted command.name result)
    performMarked clocked rest

/-- Carries out commands unless this has been done often enough. -/
def performCounted (clocked : Bool) (counter limit : Nat) (commands : List Command) :
    Act Unit := do
  let stage ← look
  if stage.count counter < limit then
    change fun stage => stage.countUp counter
    performMarked clocked commands

/-! ## Steps -/

/-- The marks left since this was asked last. -/
def takeMarks : Act (List Mark) := do
  let stage ← look
  change fun stage => { stage with marks := #[] }
  return stage.marks.toList

/-- What a step came to, with the marks and the view of this moment. -/
def answer (outcome : Outcome) : Act Answer := do
  let marks ← takeMarks
  let interpreter ← current
  return .mk outcome marks (interpreter.map Interpreter.snapshot)

mutual

/-- Carries out a step; new interpreters are made like the one given. -/
def Step.perform (fresh : Interpreter machine) : Step → Act Outcome
  | .command command => return .single (← command.perform true)
  | .outside command => return .single (← command.perform false)
  | .advance span => .ask (.elapse span) fun _ => .done (.single .nothing)
  | .batch steps => return .several (← performBatch fresh steps)
  | .gated command steps => do
    change fun stage => { stage with gate := some steps, passed := [] }
    let sent ← command.perform false
    let stage ← look
    change fun stage => { stage with gate := none, passed := [] }
    return .passed stage.passed sent
  | .cell key value => do
    change fun stage => { stage with cells := assignKey stage.cells key value }
    return .single .nothing
  | .spoil name message => do
    change fun stage => { stage with spoiled := assignKey stage.spoiled name message }
    return .single .nothing
  | .renew => .ask (.replace (some fresh)) fun _ => .done (.single .nothing)
  | .drop => .ask (.replace none) fun _ => .done (.single .nothing)

/-- Carries out steps between which nothing settles. -/
def performBatch (fresh : Interpreter machine) : List Step → Act (List Answer)
  | [] => return []
  | step :: rest => do
    let outcome ← step.perform fresh
    let first ← answer outcome
    return first :: (← performBatch fresh rest)

end

/-- Carries out steps, letting everything settle after each. -/
def performAll (fresh : Interpreter machine) : List Step → Act (List Answer)
  | [] => return []
  | step :: rest => do
    let outcome ← step.perform fresh
    .ask .settle fun _ => do
      let first ← answer outcome
      return first :: (← performAll fresh rest)

/-! ## Callbacks -/

/-- Comes to the gate: if it is armed, it is disarmed and its steps are carried out. -/
def passGate (fresh : Interpreter machine) : Act Unit := do
  match (← look).gate with
  | none => leave (.gate false)
  | some steps =>
    change fun stage => { stage with gate := none }
    leave (.gate true)
    let answers ← performAll fresh steps
    change fun stage => { stage with passed := answers }

/-- Ends an effect: it leaves its mark and fails if it is to. -/
def concludeEffect (name : String) (context : Context) : Act (Except ActionError Unit) := do
  leave (.effected name context.n)
  match find? (← look).spoiled name with
  | none => return .ok ()
  | some message => return .error ⟨message⟩

/-- What an effect does. -/
def Effect.perform (fresh : Interpreter machine) (clocked : Bool) (name : String)
    (context : Context) : Effect → Act (Except ActionError Unit)
  | .fail message => return .error ⟨message⟩
  | .put key => do
    change fun stage => stage.put key context.n
    concludeEffect name context
  | .plain => concludeEffect name context
  | .act counter commands limit => do
    performCounted clocked counter limit commands
    concludeEffect name context
  | .gate => do
    passGate fresh
    concludeEffect name context

/-- Reads a cell into the first number. -/
def loadCell (key : String) (context : Context) : Act (Except ActionError Context) := do
  match (← look).read key with
  | .ok value => return .ok { context with n := value }
  | .error message => return .error ⟨message⟩

def performWork (fresh : Interpreter machine) (clocked : Bool) (name : String)
    (context : Context) (event : Event machine) :
    (role : Role) → Work role → Act (role.Answer machine)
  | .assign, update => .done (Update.apply context event update)
  | .effect, effect => Effect.perform fresh clocked name context effect
  | .load, key => loadCell key context

def answerQuery (fresh : Interpreter machine) (clocked : Bool) :
    (query : Query machine) → Act query.Answer
  | .check guard context event => do
    let (value, marks) := guard.eval context event
    marks.forM fun mark => leave (.guarded mark.1 mark.2)
    .done value
  | .perform action context event =>
    performWork fresh clocked action.name context event action.role action.work
  | .create form context event => do
    leave (.created form.id event.label context.n)
    .done (form.make context event)

/-- Whether a snapshot agrees with a filter in every field given. -/
def Filter.admits (filter : Filter) (view : View) : Bool :=
  filter.state.all (fun state => view.state = state) &&
    filter.status.all (fun status => view.status = status) &&
    filter.n.all (fun n => view.context.n = n)

/-- What a listener does with a snapshot. -/
def hear (clocked : Bool) (listener : Listener) (view : View) : Act Unit := do
  leave (.heard listener.name view)
  if listener.filter.admits view then
    performCounted clocked listener.counter listener.limit listener.reaction

/-- The outcome of a service that has come to its end. -/
def Ending.resolve (stage : Stage) : Ending → Except String Int64
  | .failure error => .error error
  | .cell key => stage.read key
  | .value output => .ok output

/-- How a service goes on. -/
def proceed (task : Task) (stage : Stage) : Progress machine × Stage :=
  match task with
  | .instant outcome => (.resolved outcome, stage)
  | .waiting id (some latency) ending =>
    (.sleeping latency (.ending id ending), stage.mark (.ran id))
  | .waiting id none ending =>
    (.resolved (ending.resolve stage), (stage.mark (.ran id)).mark (.finished id))
  | .ending id ending => (.resolved (ending.resolve stage), stage.mark (.finished id))

/-- The host of bench interpreters. -/
def host (fresh : Interpreter machine) : Host machine Stage where
  answer := answerQuery fresh
  notify := hear
  proceed := proceed

end Statechart.Bench
