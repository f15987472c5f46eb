import Statechart.Action

/-!
# Transitions and the choice among them
-/
namespace Statechart

variable {M : Machine}

/-- An edge of the graph. With a target it leaves the source and enters the target, even when both
are the same state; without one it only runs its actions. -/
structure Transition (M : Machine) where
  guard : Option M.Guard
  actions : List (Action M)
  target : Option M.State

namespace Transition

/-- Whether a transition stays inside its state. -/
def isInternal (transition : Transition M) : Bool := transition.target.isNone

/-- Whether a transition may be taken: its guard passes, or it has none. -/
def isEnabled (transition : Transition M) (context : M.Context) (event : Event M) :
    Script M Bool :=
  match transition.guard with
  | none => return true
  | some guard => .ask (.check guard context event) fun passes => .done passes

end Transition

/-- The first entry whose transition may be taken; guards after it are not evaluated. -/
def findEnabled {α : Type} (transition : α → Transition M) (entries : List α)
    (context : M.Context) (event : Event M) : Script M (Option α) :=
  match entries with
  | [] => return none
  | entry :: rest => do
    if ← (transition entry).isEnabled context event then
      return some entry
    else
      findEnabled transition rest context event

/-- The first transition that may be taken. -/
def select (candidates : List (Transition M)) (context : M.Context) (event : Event M) :
    Script M (Option (Transition M)) :=
  findEnabled id candidates context event

/-- The place of the first transition that may be taken. -/
def selectIndex (candidates : List (Transition M)) (context : M.Context) (event : Event M) :
    Script M (Option Nat) :=
  return (← findEnabled Prod.fst candidates.zipIdx context event).map Prod.snd

end Statechart
