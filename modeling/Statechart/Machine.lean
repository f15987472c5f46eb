/-!
# Machines: the types a statechart is built from

A machine names its states, the context it carries, the signals it is sent and what its services
report. Guards, action bodies, service factories and listeners are named too, but only named: what
they compute, and whom they call while computing it, is the business of the host that runs them.
-/
namespace Statechart

/-- How the body of an action relates to the context. -/
inductive Role where
  /-- Computes the next context and cannot fail. -/
  | assign
  /-- Leaves the context alone and may fail. -/
  | effect
  /-- Reads the next context from outside and may fail. -/
  | load
  deriving DecidableEq, Repr

/-- The vocabulary of one kind of statechart. -/
structure Machine where
  State : Type
  /-- Extended state, replaced by actions. -/
  Context : Type
  /-- What callers send. -/
  Signal : Type
  /-- What transitions are keyed by: a signal without its payload. -/
  Kind : Type
  /-- What a service resolves with. -/
  Output : Type
  /-- What a service is rejected with. -/
  Error : Type
  Guard : Type
  /-- Names of action bodies, by role. -/
  Work : Role → Type
  /-- Names of the factories that make services. -/
  Factory : Type
  /-- Services as made by a factory, at any point of their work. -/
  Task : Type
  Listener : Type
  kind : Signal → Kind
  kindName : Kind → String
  stateName : State → String
  /-- Whether settling in a state ends the machine. -/
  isFinal : State → Bool
  stateEq : DecidableEq State
  kindEq : DecidableEq Kind

attribute [instance] Machine.stateEq Machine.kindEq

end Statechart
