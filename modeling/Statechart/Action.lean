import Statechart.Dialogue
import Statechart.Event

/-!
# Actions: the steps a transition is made of

Running a machine asks three kinds of questions: does a guard pass, what does the body of an action
answer, and which service does a factory make. A script is a program made of such questions. A list
of actions is a script that hands the context from one to the next and ends at the first failure.
-/
namespace Statechart

variable {M : Machine}

/-- Why an effect or a load failed. -/
structure ActionError where
  message : String
  deriving DecidableEq, Repr

/-- What the body of an action answers. -/
def Role.Answer (M : Machine) : Role → Type
  | .assign => M.Context
  | .effect => Except ActionError Unit
  | .load => Except ActionError M.Context

/-- The context after an action, from the one before and the body's answer. -/
def Role.next : (role : Role) → M.Context → role.Answer M → Except ActionError M.Context
  | .assign, _, context => .ok context
  | .effect, context, answer => answer.map fun _ => context
  | .load, _, answer => answer

/-- A named step; the name is only for people. -/
structure Action (M : Machine) where
  name : String
  role : Role
  work : M.Work role

/-- Whether an action only computes the next context. -/
def Action.isAssign (action : Action M) : Bool := action.role = .assign

/-! ## Questions to the host -/

/-- A callback of the machine, with the context and the event it is shown. -/
inductive Query (M : Machine) where
  | check (guard : M.Guard) (context : M.Context) (event : Event M)
  | perform (action : Action M) (context : M.Context) (event : Event M)
  | create (factory : M.Factory) (context : M.Context) (event : Event M)

/-- What a callback returns. -/
def Query.Answer : Query M → Type
  | .check _ _ _ => Bool
  | .perform action _ _ => action.role.Answer M
  | .create _ _ _ => M.Task

/-- A program made of callbacks. -/
abbrev Script (M : Machine) : Type → Type := Dialogue (Query M) Query.Answer

/-! ## Running actions -/

/-- Runs one action: the context that the next one sees, or why it failed. -/
def Action.execute (action : Action M) (context : M.Context) (event : Event M) :
    Script M (Except ActionError M.Context) :=
  .ask (.perform action context event) fun answer => .done (action.role.next context answer)

/-- Runs actions in order, up to the first that fails, which is named with its error. -/
def runActions (actions : List (Action M)) (context : M.Context) (event : Event M) :
    Script M (Except (String × ActionError) M.Context) :=
  match actions with
  | [] => return .ok context
  | action :: rest => do
    match ← action.execute context event with
    | .error error => return .error (action.name, error)
    | .ok context => runActions rest context event

end Statechart
