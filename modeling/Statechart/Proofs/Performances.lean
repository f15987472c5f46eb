import Statechart.Bench.Performance
import Statechart.Proofs.Sites

/-!
# Performances: whatever is done on the bench is a run

Everything that callers and callbacks do on the bench is honest, so every interpreter of a performance is
at a moment of a run (`performance_runs`).
-/
namespace Statechart.Bench

variable {fresh : Interpreter machine}

/-! ## Commands -/

theorem look_honest : Honest look := ⟨trivial,fun _ => trivial⟩

theorem current_honest : Honest current := ⟨trivial,fun _ => trivial⟩

theorem change_honest (f : Stage → Stage) : Honest (change f) :=
  look_honest.bind fun _ => ⟨trivial,fun _ => trivial⟩

theorem leave_honest (mark : Mark) : Honest (leave mark) := change_honest _

theorem ask_honest (answer : Interpreter machine → Result) : Honest (ask answer) := by
  apply current_honest.bind
  intro found
  cases found with
  | none => trivial
  | some interpreter => trivial

theorem subscribe_honest (name : String) (filter : Filter) (reaction : List Command) (limit : Nat) :
    Honest (subscribe name filter reaction limit) := by
  apply look_honest.bind
  intro stage
  apply (change_honest _).bind
  intro _
  refine ⟨trivial,?_⟩
  intro handle
  cases handle with
  | none => trivial
  | some handle => exact (change_honest _).bind fun _ => trivial

theorem unsubscribe_honest (name : String) : Honest (unsubscribe name) := by
  apply look_honest.bind
  intro stage
  cases find? stage.handles name with
  | none => trivial
  | some handle => exact (change_honest _).bind fun _ => ⟨trivial,fun _ => trivial⟩

theorem Command.perform_honest (clocked : Bool) (command : Command) : Honest (command.perform clocked) := by
  cases command with
  | start => exact ⟨trivial,fun _ => trivial⟩
  | send signal => exact ⟨⟨signal,rfl⟩,fun _ => trivial⟩
  | stop => exact ⟨trivial,fun _ => trivial⟩
  | subscribe name filter reaction limit => exact subscribe_honest _ _ _ _
  | unsubscribe name => exact unsubscribe_honest _
  | _ => exact ask_honest _

theorem performMarked_honest (clocked : Bool) (commands : List Command) :
    Honest (performMarked clocked commands) := by
  induction commands with
  | nil => trivial
  | cons command rest ih =>
    apply (command.perform_honest clocked).bind
    intro result
    exact (leave_honest _).bind fun _ => ih

theorem performCounted_honest (clocked : Bool) (counter limit : Nat) (commands : List Command) :
    Honest (performCounted clocked counter limit commands) := by
  apply look_honest.bind
  intro stage
  split
  · exact (change_honest _).bind fun _ => performMarked_honest _ _
  · trivial

/-! ## Steps -/

theorem answer_honest (outcome : Outcome) : Honest (answer outcome) := by
  apply Honest.bind
  · apply look_honest.bind
    intro stage
    exact (change_honest _).bind fun _ => trivial
  · intro marks
    exact current_honest.bind fun _ => trivial

mutual

theorem Step.perform_honest (arises : fresh.Arises) (step : Step) : Honest (step.perform fresh) := by
  cases step with
  | command command => exact (command.perform_honest true).bind fun _ => trivial
  | outside command => exact (command.perform_honest false).bind fun _ => trivial
  | advance span => exact ⟨trivial,fun _ => trivial⟩
  | batch steps => exact (performBatch_honest arises steps).bind fun _ => trivial
  | gated command steps =>
    apply (change_honest _).bind
    intro _
    apply (command.perform_honest false).bind
    intro sent
    apply look_honest.bind
    intro stage
    exact (change_honest _).bind fun _ => trivial
  | cell key value => exact (change_honest _).bind fun _ => trivial
  | spoil name message => exact (change_honest _).bind fun _ => trivial
  | renew => exact ⟨arises,fun _ => trivial⟩
  | drop => exact ⟨trivial,fun _ => trivial⟩

theorem performBatch_honest (arises : fresh.Arises) (steps : List Step) : Honest (performBatch fresh steps) := by
  cases steps with
  | nil => trivial
  | cons step rest =>
    apply (step.perform_honest arises).bind
    intro outcome
    apply (answer_honest outcome).bind
    intro first
    exact (performBatch_honest arises rest).bind fun _ => trivial

end

theorem performAll_honest (arises : fresh.Arises) (steps : List Step) : Honest (performAll fresh steps) := by
  induction steps with
  | nil => trivial
  | cons step rest ih =>
    apply (step.perform_honest arises).bind
    intro outcome
    refine ⟨trivial,?_⟩
    intro _
    apply (answer_honest outcome).bind
    intro first
    exact ih.bind fun _ => trivial

/-! ## Callbacks -/

theorem concludeEffect_honest (name : String) (context : Context) : Honest (concludeEffect name context) := by
  apply (leave_honest _).bind
  intro _
  apply look_honest.bind
  intro stage
  cases find? stage.spoiled name with
  | none => trivial
  | some message => trivial

theorem passGate_honest (arises : fresh.Arises) : Honest (passGate fresh) := by
  apply look_honest.bind
  intro stage
  cases stage.gate with
  | none => exact leave_honest _
  | some steps =>
    apply (change_honest _).bind
    intro _
    apply (leave_honest _).bind
    intro _
    apply (performAll_honest arises steps).bind
    intro answers
    exact change_honest _

theorem Effect.perform_honest (arises : fresh.Arises) (clocked : Bool) (name : String) (context : Context)
    (effect : Effect) : Honest (effect.perform fresh clocked name context) := by
  cases effect with
  | fail message => trivial
  | put key => exact (change_honest _).bind fun _ => concludeEffect_honest _ _
  | plain => exact concludeEffect_honest _ _
  | act counter commands limit => exact (performCounted_honest _ _ _ _).bind fun _ => concludeEffect_honest _ _
  | gate => exact (passGate_honest arises).bind fun _ => concludeEffect_honest _ _

theorem loadCell_honest (key : String) (context : Context) : Honest (loadCell key context) := by
  apply look_honest.bind
  intro stage
  cases stage.read key with
  | ok value => trivial
  | error message => trivial

theorem leaveAll_honest (marks : List (String × Bool)) :
    Honest (marks.forM fun mark => leave (.guarded mark.1 mark.2)) := by
  induction marks with
  | nil => trivial
  | cons mark rest ih => exact (leave_honest _).bind fun _ => ih

theorem answerQuery_honest (arises : fresh.Arises) (clocked : Bool) (query : Query machine) :
    Honest (answerQuery fresh clocked query) := by
  cases query with
  | check guard context event => exact (leaveAll_honest _).bind fun _ => trivial
  | perform action context event =>
    obtain ⟨name,role,work⟩ := action
    cases role with
    | assign => trivial
    | effect => exact Effect.perform_honest arises clocked name context work
    | load => exact loadCell_honest _ _
  | create form context event => exact (leave_honest _).bind fun _ => trivial

theorem hear_honest (clocked : Bool) (listener : Listener) (view : View) : Honest (hear clocked listener view) := by
  apply (leave_honest _).bind
  intro _
  split
  · exact performCounted_honest _ _ _ _
  · trivial

theorem host_honest (arises : fresh.Arises) : (host fresh).Honest :=
  ⟨answerQuery_honest arises,hear_honest⟩

/-- However a performance goes, every interpreter that is left of it is at a moment of a run. -/
theorem performance_runs (graph : Graph machine) (options : Options) (stage : Stage) (steps : List Step) {fuel : Nat}
    {answers : List Answer} {site : Site machine Stage}
    (performed : Site.follow (host (.fresh graph options)) fuel (performance (.fresh graph options) steps)
      { env := stage } = some (answers,site)) :
    ∀ entry ∈ site.interpreters, Gathering.Reachable entry.2.graph entry.2.options ⟨entry.2,[]⟩ := by
  have arises := Interpreter.arises_fresh graph options
  have empty : Site.Lawful (M := machine) { env := stage } := by
    refine ⟨?_,List.nodup_nil,?_⟩
    · intro entry member
      cases member
    · intro entry member
      cases member
  have plain : Honest (performance (.fresh graph options) steps) := ⟨arises,fun _ => performAll_honest arises steps⟩
  exact (Site.follow_runs (host_honest arises) plain empty performed).1

end Statechart.Bench
