import Statechart.Macrostep

/-!
# Macrosteps: paths of transitions

What a macrostep comes to, told without the way it is computed. An event takes the first of its
transitions that may be taken, and from there a path goes on with the first eventless transition of
every state it comes to. Everything on the path is done in order, as one list: guards are looked at,
actions are run and services are made, up to the first action that fails (`macrostep_semantics`).
-/
namespace Statechart

variable {M : Machine} {Env : Type}

/-- What a macrostep depends on. Callbacks answer from an environment that they share and may change. -/
structure Setting (M : Machine) (Env : Type) where
  graph : Graph M
  limit : UInt64
  event : Event M
  answer : (query : Query M) → Env → query.Answer × Env

/-- What is worked on along a path. -/
structure Situation (M : Machine) (Env : Type) where
  context : M.Context
  env : Env
  entry : Option (Entry M)

/-- What is to be done along a path. -/
inductive Chore (M : Machine) where
  /-- The guard of a transition is looked at. -/
  | look (transition : Transition M)
  /-- An action is run on behalf of a state. -/
  | act (state : M.State) (action : Action M)
  /-- The service of a state that is entered is made. -/
  | arrive (state : M.State)

/-- One transition on a path, and those before it that may not be taken. -/
structure Leg (M : Machine) where
  passed : List (Transition M)
  taken : Transition M

/-! ## What is done along a path -/

namespace Graph

def entryActions (graph : Graph M) (state : M.State) : List (Action M) :=
  match graph.node? state with
  | none => []
  | some node => node.entry

def eventless (graph : Graph M) (state : M.State) : List (Transition M) :=
  match graph.node? state with
  | none => []
  | some node => node.always

def arrival (graph : Graph M) (state : M.State) : List (Chore M) :=
  (graph.entryActions state).map (.act state) ++ [.arrive state]

/-- What taking a transition consists of: without a target, its own actions, and otherwise the exit
actions of the source, its own and the arrival at the target. -/
def work (graph : Graph M) (source : M.State) (transition : Transition M) : List (Chore M) :=
  match transition.target with
  | none => transition.actions.map (.act source)
  | some target =>
    (graph.exitActions source).map (.act source) ++ transition.actions.map (.act source) ++ graph.arrival target

end Graph

namespace Leg

def chores (graph : Graph M) (source : M.State) (leg : Leg M) : List (Chore M) :=
  (leg.passed ++ [leg.taken]).map .look ++ graph.work source leg.taken

def destination (source : M.State) (leg : Leg M) : M.State := leg.taken.target.getD source

def records (source : M.State) (trigger : String) (leg : Leg M) : List (Record M.State Unit) :=
  leg.taken.target.toList.map fun target => ⟨source,target,trigger,()⟩

end Leg

/-- Where a path leads. -/
def destination : M.State → List (Leg M) → M.State
  | state, [] => state
  | state, leg :: rest => destination (leg.destination state) rest

/-- The records of a path of eventless transitions. -/
def eventlessRecords : M.State → List (Leg M) → List (Record M.State Unit)
  | _, [] => []
  | state, leg :: rest => leg.records state alwaysTrigger ++ eventlessRecords (leg.destination state) rest

@[simp] theorem destination_nil (state : M.State) : destination state [] = state := rfl

@[simp] theorem eventlessRecords_nil (state : M.State) : eventlessRecords state [] = [] := rfl

theorem eventlessRecords_cons (state : M.State) (leg : Leg M) (rest : List (Leg M)) :
    eventlessRecords state (leg :: rest) =
      leg.records state alwaysTrigger ++ eventlessRecords (leg.destination state) rest := rfl

/-- Everything that is to be done along a path, in order. -/
def Graph.itinerary (graph : Graph M) : M.State → List (Leg M) → List (Chore M)
  | _, [] => []
  | state, leg :: rest => leg.chores graph state ++ graph.itinerary (leg.destination state) rest

/-! ## What comes of it -/

namespace Setting

variable (setting : Setting M Env)

/-- Whether a transition may be taken, and the environment once its guard has been looked at. A guard
sees the context so far and the event that set off the macrostep. -/
def passes (now : Situation M Env) (transition : Transition M) : Bool × Env :=
  match transition.guard with
  | none => (true,now.env)
  | some guard => setting.answer (.check guard now.context setting.event) now.env

def seen (now : Situation M Env) (transition : Transition M) : Situation M Env :=
  { now with env := (setting.passes now transition).2 }

/-- None of the transitions may be taken. -/
inductive Refuses : Situation M Env → List (Transition M) → Prop where
  | nil (now : Situation M Env) : Refuses now []
  | cons {now : Situation M Env} {transition : Transition M} {rest : List (Transition M)} :
      (setting.passes now transition).1 = false → Refuses (setting.seen now transition) rest →
        Refuses now (transition :: rest)

/-- The first of the transitions that may be taken. -/
inductive First : Situation M Env → List (Transition M) → Leg M → Prop where
  | here {now : Situation M Env} {transition : Transition M} {rest : List (Transition M)} :
      (setting.passes now transition).1 = true → First now (transition :: rest) ⟨[],transition⟩
  | there {now : Situation M Env} {transition : Transition M} {rest : List (Transition M)} {leg : Leg M} :
      (setting.passes now transition).1 = false → First (setting.seen now transition) rest leg →
        First now (transition :: rest) ⟨transition :: leg.passed,leg.taken⟩

/-- What the body of an action answers, and the environment after that. -/
def reply (now : Situation M Env) (action : Action M) : action.role.Answer M × Env :=
  setting.answer (.perform action now.context setting.event) now.env

/-- A chore leaves another situation behind, or an action fails. -/
def perform (now : Situation M Env) : Chore M → Except (Failure M.State × Env) (Situation M Env)
  | .look transition => .ok (setting.seen now transition)
  | .act state action =>
    match action.role.next now.context (setting.reply now action).1 with
    | .ok context => .ok { now with context, env := (setting.reply now action).2 }
    | .error cause => .error (.effectFailed state action.name cause,(setting.reply now action).2)
  | .arrive state =>
    let delay := (setting.graph.node? state).bind fun node => node.delay.map Delay.span
    match (setting.graph.node? state).bind Node.service with
    | none => .ok { now with entry := some ⟨none,delay⟩ }
    | some service =>
      let made := setting.answer (.create service.factory now.context setting.event) now.env
      .ok { now with env := made.2, entry := some ⟨some made.1,delay⟩ }

def performAll (now : Situation M Env) (chores : List (Chore M)) : Except (Failure M.State × Env) (Situation M Env) :=
  chores.foldlM setting.perform now

/-- Everything up to an action is done, and that action fails. Nothing after it is done. -/
inductive Fails (start : Situation M Env) (chores : List (Chore M)) : Failure M.State → Env → Prop where
  | at_action (before : List (Chore M)) {after : List (Chore M)} {state : M.State} {action : Action M} {now : Situation M Env}
      {cause : ActionError} (split : chores = before ++ .act state action :: after)
      (runs : setting.performAll start before = .ok now)
      (fails : action.role.next now.context (setting.reply now action).1 = .error cause) :
      Fails start chores (.effectFailed state action.name cause) (setting.reply now action).2

/-- After the opening, each leg of a path takes the first eventless transition that may be taken where
the legs before it have led. -/
def Follows (opening : List (Chore M)) (state : M.State) (start : Situation M Env) (path : List (Leg M)) : Prop :=
  ∀ before leg after, path = before ++ leg :: after → ∃ now,
    setting.performAll start (opening ++ setting.graph.itinerary state before) = .ok now ∧
      setting.First now (setting.graph.eventless (destination state before)) leg

/-- What comes of a path of eventless transitions, of which so many are allowed, after an opening that
leads to a state. -/
inductive Settles (allowed : Nat) (opening : List (Chore M)) (earlier : List (Record M.State Unit))
    (state : M.State) (start : Situation M Env) : Except (Failure M.State) (Step M) → Env → Prop where
  | settled (path : List (Leg M)) {now : Situation M Env} {last : M.State} (few : path.length ≤ allowed)
      (follows : setting.Follows opening state start path) (leads : destination state path = last)
      (runs : setting.performAll start (opening ++ setting.graph.itinerary state path) = .ok now)
      (still : setting.Refuses now (setting.graph.eventless last)) :
      Settles allowed opening earlier state start
        (.ok ⟨last,now.context,now.entry,earlier ++ eventlessRecords state path,true⟩)
        ((setting.graph.eventless last).foldl setting.seen now).env
  | failed (path : List (Leg M)) {failure : Failure M.State} {env : Env} (few : path.length ≤ allowed)
      (follows : setting.Follows opening state start path)
      (fails : setting.Fails start (opening ++ setting.graph.itinerary state path) failure env) :
      Settles allowed opening earlier state start (.error failure) env
  | unsettled (path : List (Leg M)) {now : Situation M Env} {last : M.State} {leg : Leg M}
      (all : path.length = allowed) (follows : setting.Follows opening state start path)
      (leads : destination state path = last)
      (runs : setting.performAll start (opening ++ setting.graph.itinerary state path) = .ok now)
      (first : setting.First now (setting.graph.eventless last) leg) :
      Settles allowed opening earlier state start (.error (.microstepLimit last setting.limit))
        ((leg.passed ++ [leg.taken]).foldl setting.seen now).env

/-- What comes of an event: nothing, or what comes of the path that begins with the first transition for
the event that may be taken. -/
inductive Reacts (state : M.State) (start : Situation M Env) : Except (Failure M.State) (Step M) → Env → Prop where
  | untaken (refuses : setting.Refuses start (setting.graph.candidates state setting.event)) :
      Reacts state start (.ok (.unchanged state start.context))
        ((setting.graph.candidates state setting.event).foldl setting.seen start).env
  | taken {leg : Leg M} {result : Except (Failure M.State) (Step M)} {env : Env}
      (first : setting.First start (setting.graph.candidates state setting.event) leg)
      (settles : setting.Settles setting.limit.toNat (leg.chores setting.graph state)
        (leg.records state setting.event.label) (leg.destination state) start result env) :
      Reacts state start result env

end Setting

/-! ## Guards -/

namespace Setting

variable {setting : Setting M Env} {now start : Situation M Env} {candidates : List (Transition M)}

theorem refuses_or_first (setting : Setting M Env) (now : Situation M Env) (candidates : List (Transition M)) :
    setting.Refuses now candidates ∨ ∃ leg, setting.First now candidates leg := by
  induction candidates generalizing now with
  | nil => exact .inl (.nil now)
  | cons transition rest ih =>
    cases verdict : (setting.passes now transition).1 with
    | true => exact .inr ⟨_,.here verdict⟩
    | false =>
      rcases ih (setting.seen now transition) with refuses | ⟨leg,first⟩
      · exact .inl (.cons verdict refuses)
      · exact .inr ⟨_,.there verdict first⟩

theorem First.not_refuses {leg : Leg M} (first : setting.First now candidates leg) :
    ¬ setting.Refuses now candidates := by
  induction first with
  | here passes =>
    intro refuses
    cases refuses with
    | cons verdict _ => rw [passes] at verdict; cases verdict
  | there _ _ ih =>
    intro refuses
    cases refuses with
    | cons _ further => exact ih further

theorem First.unique {leg other : Leg M} (first : setting.First now candidates leg)
    (also : setting.First now candidates other) : leg = other := by
  induction first generalizing other with
  | here passes =>
    cases also with
    | here _ => rfl
    | there verdict _ => rw [passes] at verdict; cases verdict
  | there verdict _ ih =>
    cases also with
    | here passes => rw [verdict] at passes; cases passes
    | there _ further => rw [ih further]

theorem isEnabled_run (setting : Setting M Env) (now : Situation M Env) (transition : Transition M) :
    (transition.isEnabled now.context setting.event).run setting.answer now.env = setting.passes now transition := by
  rw [Transition.isEnabled,passes]
  cases transition.guard with
  | none => rfl
  | some guard => rfl

theorem select_of_refuses (refuses : setting.Refuses now candidates) :
    (select candidates now.context setting.event).run setting.answer now.env =
      (none,(candidates.foldl setting.seen now).env) := by
  induction refuses with
  | nil now => rfl
  | @cons now transition rest verdict _ ih =>
    rw [select,findEnabled,Dialogue.run_bind,id,setting.isEnabled_run,verdict]
    exact ih

theorem select_of_first {leg : Leg M} (first : setting.First now candidates leg) :
    (select candidates now.context setting.event).run setting.answer now.env =
      (some leg.taken,((leg.passed ++ [leg.taken]).foldl setting.seen now).env) := by
  induction first with
  | @here now transition rest passes =>
    rw [select,findEnabled,Dialogue.run_bind,id,setting.isEnabled_run,passes]
    rfl
  | @there now transition rest leg verdict _ ih =>
    rw [select,findEnabled,Dialogue.run_bind,id,setting.isEnabled_run,verdict]
    exact ih

/-! ## Doing chores -/

theorem performAll_append (setting : Setting M Env) (now : Situation M Env) (chores more : List (Chore M)) :
    setting.performAll now (chores ++ more) = (setting.performAll now chores).bind fun later => setting.performAll later more :=
  List.foldlM_append

theorem performAll_cons (setting : Setting M Env) (now : Situation M Env) (chore : Chore M) (rest : List (Chore M)) :
    setting.performAll now (chore :: rest) = (setting.perform now chore).bind fun later => setting.performAll later rest :=
  List.foldlM_cons

theorem performAll_looks (setting : Setting M Env) (now : Situation M Env) (transitions : List (Transition M)) :
    setting.performAll now (transitions.map .look) = .ok (transitions.foldl setting.seen now) := by
  induction transitions generalizing now with
  | nil => rfl
  | cons transition rest ih => exact ih (setting.seen now transition)

theorem fails_iff {chores : List (Chore M)} {failure : Failure M.State} {env : Env} :
    setting.Fails start chores failure env ↔ setting.performAll start chores = .error (failure,env) := by
  constructor
  · intro fails
    cases fails with
    | at_action before split runs fails =>
      rw [split,performAll_append,runs,Except.bind,performAll_cons,perform,fails]
      rfl
  · intro fails
    induction chores generalizing start with
    | nil => cases fails
    | cons chore rest ih =>
      rw [performAll_cons] at fails
      cases done : setting.perform start chore with
      | ok now =>
        rw [done] at fails
        cases ih fails with
        | at_action before split runs answered =>
          refine .at_action (chore :: before) (congrArg (List.cons chore) split) ?_ answered
          rw [performAll_cons,done]
          exact runs
      | error failed =>
        rw [done] at fails
        cases fails
        cases chore with
        | look transition => cases done
        | arrive state =>
          simp only [perform] at done
          split at done <;> cases done
        | act state action =>
          simp only [perform] at done
          split at done
          · cases done
          · rename_i cause answered
            cases done
            exact .at_action [] rfl rfl answered

/-! ## What the parts of a macrostep do -/

/-- What a move reports of a situation that it has led to, or of a failure. -/
def report {α : Type} (result : Situation M Env → α) :
    Except (Failure M.State × Env) (Situation M Env) → Except (Failure M.State) α × Env
  | .ok now => (.ok (result now),now.env)
  | .error (failure,env) => (.error failure,env)

theorem run_then {α β : Type} (answer : (query : Query M) → Env → query.Answer × Env) (move : Move M α)
    (sequel : α → Move M β) (env : Env) :
    (move >>= sequel).run.run answer env =
      match move.run.run answer env with
      | (.ok value,env) => (sequel value).run.run answer env
      | (.error failure,env) => (.error failure,env) := by
  rw [ExceptT.run_bind,Dialogue.run_bind]
  rcases move.run.run answer env with ⟨value | failure,env⟩ <;> rfl

theorem run_lift {α β : Type} (answer : (query : Query M) → Env → query.Answer × Env) (script : Script M α)
    (sequel : α → Move M β) (env : Env) :
    (ExceptT.lift script >>= sequel).run.run answer env =
      (sequel (script.run answer env).1).run.run answer (script.run answer env).2 := by
  rw [run_then]
  have lifted : (ExceptT.lift script : Move M α).run.run answer env =
      (.ok (script.run answer env).1,(script.run answer env).2) := Dialogue.run_bind _ _ _ _
  rw [lifted]

theorem runActions_cons_run (setting : Setting M Env) (now : Situation M Env) (action : Action M)
    (rest : List (Action M)) :
    (runActions (action :: rest) now.context setting.event).run setting.answer now.env =
      match action.role.next now.context (setting.reply now action).1 with
      | .ok context => (runActions rest context setting.event).run setting.answer (setting.reply now action).2
      | .error cause => (.error (action.name,cause),(setting.reply now action).2) := by
  rw [runActions,Action.execute,Dialogue.ask_bind,Dialogue.run]
  simp only [Dialogue.done_bind,reply]
  cases action.role.next now.context (setting.answer (.perform action now.context setting.event) now.env).1 <;> rfl

theorem runIn_run (setting : Setting M Env) (state : M.State) (actions : List (Action M)) (context : M.Context) (env : Env) :
    (Graph.runIn state actions context setting.event).run.run setting.answer env =
      match (runActions actions context setting.event).run setting.answer env with
      | (.ok context,env) => (.ok context,env)
      | (.error (action,cause),env) => (.error (.effectFailed state action cause),env) := by
  rw [Graph.runIn]
  refine (Dialogue.run_bind _ _ _ _).trans ?_
  rcases (runActions actions context setting.event).run setting.answer env with ⟨_ | _,env⟩ <;> rfl

/-- Running actions on behalf of a state does them one after another. -/
theorem performAll_acts (setting : Setting M Env) (now : Situation M Env) (state : M.State) (actions : List (Action M)) :
    setting.performAll now (actions.map (.act state)) =
      match (Graph.runIn state actions now.context setting.event).run.run setting.answer now.env with
      | (.ok context,env) => .ok { now with context, env }
      | (.error failure,env) => .error (failure,env) := by
  induction actions generalizing now with
  | nil => rfl
  | cons action rest ih =>
    rw [List.map_cons,performAll_cons,runIn_run,runActions_cons_run,perform]
    cases action.role.next now.context (setting.reply now action).1 with
    | error cause => rfl
    | ok context =>
      simp only [Except.bind]
      rw [ih,runIn_run]

theorem enter_run (setting : Setting M Env) (step : Step M) (target : M.State) (env : Env) :
    (setting.graph.enter step target setting.event).run.run setting.answer env =
      report (fun later => { step with state := target, context := later.context, entry := later.entry })
        (setting.performAll ⟨step.context,env,step.entry⟩ (setting.graph.arrival target)) := by
  rw [Graph.arrival,performAll_append,Graph.enter,Graph.entryActions]
  cases found : setting.graph.node? target with
  | none =>
    rw [List.map_nil]
    simp only [performAll,List.foldlM_nil,List.foldlM_cons,perform,found]
    rfl
  | some node =>
    rw [performAll_acts,run_then]
    rcases (Graph.runIn target node.entry step.context setting.event).run.run setting.answer env with ⟨failure | context,left⟩
    · rfl
    · simp only
      rw [run_lift,Graph.makeService]
      simp only [Except.bind,performAll,List.foldlM_nil,List.foldlM_cons,perform,found,Option.bind_some]
      cases node.service with
      | none => rfl
      | some service => rfl

theorem take_run (setting : Setting M Env) (step : Step M) (transition : Transition M) (trigger : String) (env : Env) :
    (setting.graph.take step transition setting.event trigger).run.run setting.answer env =
      report (fun later => ⟨transition.target.getD step.state,later.context,later.entry,
          step.records ++ (Leg.mk [] transition).records step.state trigger,true⟩)
        (setting.performAll ⟨step.context,env,step.entry⟩ (setting.graph.work step.state transition)) := by
  rw [Graph.work,Graph.take,Leg.records]
  cases transition.target with
  | none =>
    rw [performAll_acts,run_then]
    rcases (Graph.runIn step.state transition.actions step.context setting.event).run.run setting.answer env with
      ⟨failure | context,left⟩
    · rfl
    · simp [report]
  | some target =>
    simp only
    rw [performAll_append,performAll_append,performAll_acts,run_then]
    rcases (Graph.runIn step.state (setting.graph.exitActions step.state) step.context setting.event).run.run
      setting.answer env with ⟨failure | context,left⟩
    · rfl
    · simp only [Except.bind]
      rw [performAll_acts,run_then]
      rcases (Graph.runIn step.state transition.actions context setting.event).run.run setting.answer left with
        ⟨failure | passed,worked⟩
      · rfl
      · simp only
        rw [enter_run]
        rfl

/-! ## Paths from where an opening leads -/

variable {opening opening' : List (Chore M)} {start' : Situation M Env} {earlier : List (Record M.State Unit)}
  {state : M.State} {path : List (Leg M)} {allowed : Nat} {result : Except (Failure M.State) (Step M)} {env : Env}

/-- Two openings that lead to the same make no difference. -/
theorem Settles.congr (settles : setting.Settles allowed opening earlier state start result env)
    (same : ∀ chores, setting.performAll start (opening ++ chores) = setting.performAll start' (opening' ++ chores)) :
    setting.Settles allowed opening' earlier state start' result env := by
  have follows : ∀ {path}, setting.Follows opening state start path → setting.Follows opening' state start' path := by
    intro path follows before leg after split
    rw [← same]
    exact follows before leg after split
  cases settles with
  | settled path few route leads runs still => exact .settled path few (follows route) leads (by rw [← same,runs]) still
  | failed path few route fails =>
    exact .failed path few (follows route) (by rw [fails_iff,← same,← fails_iff]; exact fails)
  | unsettled path all route leads runs first =>
    exact .unsettled path all (follows route) leads (by rw [← same,runs]) first

theorem settles_of_ok (runs : setting.performAll start opening = .ok now) :
    setting.Settles allowed opening earlier state start result env ↔
      setting.Settles allowed [] earlier state now result env := by
  have same : ∀ chores, setting.performAll start (opening ++ chores) = setting.performAll now ([] ++ chores) := by
    intro chores
    rw [performAll_append,runs]
    rfl
  exact ⟨fun settles => settles.congr same,fun settles => settles.congr fun chores => (same chores).symm⟩

theorem follows_nil (setting : Setting M Env) (opening : List (Chore M)) (state : M.State) (start : Situation M Env) :
    setting.Follows opening state start [] := by
  intro before leg after split
  simp at split

theorem settles_of_error {failure : Failure M.State} {left : Env}
    (fails : setting.performAll start opening = .error (failure,left)) :
    setting.Settles allowed opening earlier state start result env ↔ (result,env) = (.error failure,left) := by
  have whole : ∀ chores, setting.performAll start (opening ++ chores) = .error (failure,left) := by
    intro chores
    rw [performAll_append,fails]
    rfl
  constructor
  · intro settles
    cases settles with
    | settled _ _ _ _ runs _ => rw [whole] at runs; cases runs
    | failed _ _ _ fails =>
      rw [fails_iff,whole] at fails
      cases fails
      rfl
    | unsettled _ _ _ _ runs _ => rw [whole] at runs; cases runs
  · intro same
    cases same
    exact .failed [] (Nat.zero_le _) (setting.follows_nil _ _ _) (fails_iff.mpr (whole _))

/-- After a first leg, a path goes on from where that has led. -/
theorem follows_cons {leg : Leg M} :
    setting.Follows [] state now (leg :: path) ↔
      setting.First now (setting.graph.eventless state) leg ∧
        setting.Follows (leg.chores setting.graph state) (leg.destination state) now path := by
  constructor
  · intro follows
    constructor
    · obtain ⟨_,runs,first⟩ := follows [] leg path rfl
      cases runs
      exact first
    · intro before next after split
      obtain ⟨later,runs,first⟩ := follows (leg :: before) next after (by rw [split]; rfl)
      exact ⟨later,runs,first⟩
  · rintro ⟨first,follows⟩ before next after split
    cases before with
    | nil =>
      cases split
      exact ⟨now,rfl,first⟩
    | cons head before =>
      cases split
      exact follows before next after rfl

/-- Where no eventless transition may be taken, the path ends. -/
theorem settles_of_refuses (refuses : setting.Refuses now (setting.graph.eventless state)) :
    setting.Settles allowed [] earlier state now result env ↔
      (result,env) = (.ok ⟨state,now.context,now.entry,earlier,true⟩,
        ((setting.graph.eventless state).foldl setting.seen now).env) := by
  have ends : ∀ {path}, setting.Follows [] state now path → path = [] := by
    intro path follows
    cases path with
    | nil => rfl
    | cons leg rest => exact absurd refuses (follows_cons.mp follows).1.not_refuses
  constructor
  · intro settles
    cases settles with
    | settled _ _ follows leads runs _ =>
      cases ends follows
      cases leads
      cases runs
      simp
    | failed _ _ follows fails =>
      cases ends follows
      cases fails_iff.mp fails
    | unsettled _ _ follows leads runs first =>
      cases ends follows
      cases leads
      cases runs
      exact absurd refuses first.not_refuses
  · intro same
    cases same
    simpa using Settles.settled [] (Nat.zero_le allowed) (setting.follows_nil [] state now) rfl rfl refuses

/-- Where an eventless transition may be taken and none is allowed, the path has been too long. -/
theorem settles_of_first {leg : Leg M} (first : setting.First now (setting.graph.eventless state) leg) :
    setting.Settles 0 [] earlier state now result env ↔
      (result,env) = (.error (.microstepLimit state setting.limit),
        ((leg.passed ++ [leg.taken]).foldl setting.seen now).env) := by
  constructor
  · intro settles
    cases settles with
    | settled _ few _ leads runs still =>
      cases List.length_eq_zero_iff.mp (Nat.le_zero.mp few)
      cases leads
      cases runs
      exact absurd still first.not_refuses
    | failed _ few _ fails =>
      cases List.length_eq_zero_iff.mp (Nat.le_zero.mp few)
      cases fails_iff.mp fails
    | unsettled _ all _ leads runs also =>
      cases List.length_eq_zero_iff.mp all
      cases leads
      cases runs
      cases first.unique also
      rfl
  · intro same
    cases same
    exact .unsettled [] rfl (setting.follows_nil [] state now) rfl rfl first

/-- Otherwise the path goes on with the first one that may be taken. -/
theorem settles_succ {leg : Leg M} (first : setting.First now (setting.graph.eventless state) leg) :
    setting.Settles (allowed + 1) [] earlier state now result env ↔
      setting.Settles allowed (leg.chores setting.graph state) (earlier ++ leg.records state alwaysTrigger)
        (leg.destination state) now result env := by
  constructor
  · intro settles
    cases settles with
    | settled path few follows leads runs still =>
      cases path with
      | nil =>
        cases leads
        cases runs
        exact absurd still first.not_refuses
      | cons head rest =>
        obtain ⟨also,further⟩ := follows_cons.mp follows
        cases first.unique also
        rw [eventlessRecords_cons,← List.append_assoc]
        exact .settled rest (Nat.le_of_succ_le_succ few) further leads runs still
    | failed path few follows fails =>
      cases path with
      | nil => cases fails_iff.mp fails
      | cons head rest =>
        obtain ⟨also,further⟩ := follows_cons.mp follows
        cases first.unique also
        exact .failed rest (Nat.le_of_succ_le_succ few) further fails
    | unsettled path all follows leads runs more =>
      cases path with
      | nil => cases all
      | cons head rest =>
        obtain ⟨also,further⟩ := follows_cons.mp follows
        cases first.unique also
        exact .unsettled rest (Nat.succ.inj all) further leads runs more
  · intro settles
    cases settles with
    | settled rest few follows leads runs still =>
      rw [List.append_assoc,← eventlessRecords_cons]
      exact .settled (leg :: rest) (Nat.succ_le_succ few) (follows_cons.mpr ⟨first,follows⟩) leads runs still
    | failed rest few follows fails =>
      exact .failed (leg :: rest) (Nat.succ_le_succ few) (follows_cons.mpr ⟨first,follows⟩) fails
    | unsettled rest all follows leads runs more =>
      exact .unsettled (leg :: rest) (congrArg Nat.succ all) (follows_cons.mpr ⟨first,follows⟩) leads runs more

/-! ## Whole macrosteps -/

/-- Guards change nothing but the environment. -/
theorem foldl_seen (setting : Setting M Env) (now : Situation M Env) (transitions : List (Transition M)) :
    transitions.foldl setting.seen now = ⟨now.context,(transitions.foldl setting.seen now).env,now.entry⟩ := by
  induction transitions generalizing now with
  | nil => rfl
  | cons transition rest ih => exact ih (setting.seen now transition)

theorem selectAlways_run (setting : Setting M Env) (step : Step M) (env : Env) :
    (setting.graph.selectAlways step setting.event).run setting.answer env =
      (select (setting.graph.eventless step.state) step.context setting.event).run setting.answer env := by
  rw [Graph.selectAlways,Graph.eventless]
  cases setting.graph.node? step.state <;> rfl

/-- Taking a leg and settling after it, when settling is what it should be. -/
theorem leg_run (setting : Setting M Env) (step : Step M) (leg : Leg M) (trigger : String) (remaining : Nat) (before : Env)
    (onward : ∀ (later : Step M) (env' : Env), later.taken = true →
      ((setting.graph.settle setting.limit setting.event remaining later).run.run setting.answer env' = (result,env) ↔
        setting.Settles remaining [] later.records later.state ⟨later.context,env',later.entry⟩ result env)) :
    (setting.graph.take step leg.taken setting.event trigger >>=
        setting.graph.settle setting.limit setting.event remaining).run.run setting.answer
          ((leg.passed ++ [leg.taken]).foldl setting.seen ⟨step.context,before,step.entry⟩).env = (result,env) ↔
      setting.Settles remaining (leg.chores setting.graph step.state) (step.records ++ leg.records step.state trigger)
        (leg.destination step.state) ⟨step.context,before,step.entry⟩ result env := by
  -- the guards have been looked at already, and what is left of the leg is its work
  have chores : setting.performAll ⟨step.context,before,step.entry⟩ (leg.chores setting.graph step.state) =
      setting.performAll ⟨step.context,
        ((leg.passed ++ [leg.taken]).foldl setting.seen ⟨step.context,before,step.entry⟩).env,step.entry⟩
        (setting.graph.work step.state leg.taken) := by
    rw [Leg.chores,performAll_append,performAll_looks,foldl_seen]
    rfl
  rw [run_then,take_run,← chores]
  cases done : setting.performAll ⟨step.context,before,step.entry⟩ (leg.chores setting.graph step.state) with
  | ok later =>
    rw [settles_of_ok done]
    exact onward _ _ rfl
  | error failed =>
    rw [settles_of_error done]
    exact eq_comm

theorem settle_run (setting : Setting M Env) (remaining : Nat) (step : Step M) (before : Env) (taken : step.taken = true) :
    (setting.graph.settle setting.limit setting.event remaining step).run.run setting.answer before = (result,env) ↔
      setting.Settles remaining [] step.records step.state ⟨step.context,before,step.entry⟩ result env := by
  -- a path that ends at once leaves the step as it is
  have unchanged : ∀ {step : Step M}, step.taken = true →
      step = ⟨step.state,step.context,step.entry,step.records,true⟩ := fun taken => by rw [← taken]
  induction remaining generalizing step before with
  | zero =>
    rw [Graph.settle,run_lift,selectAlways_run]
    rcases setting.refuses_or_first ⟨step.context,before,step.entry⟩ (setting.graph.eventless step.state) with
      refuses | ⟨leg,first⟩
    · rw [settles_of_refuses refuses,select_of_refuses refuses,← unchanged taken]
      exact eq_comm
    · rw [settles_of_first first,select_of_first first]
      exact eq_comm
  | succ remaining ih =>
    rw [Graph.settle,run_lift,selectAlways_run]
    rcases setting.refuses_or_first ⟨step.context,before,step.entry⟩ (setting.graph.eventless step.state) with
      refuses | ⟨leg,first⟩
    · rw [settles_of_refuses refuses,select_of_refuses refuses,← unchanged taken]
      exact eq_comm
    · rw [settles_succ first,select_of_first first]
      exact setting.leg_run step leg alwaysTrigger remaining before ih

theorem react_run (setting : Setting M Env) (state : M.State) (context : M.Context) (before : Env) :
    (setting.graph.react setting.limit state context setting.event).run.run setting.answer before = (result,env) ↔
      setting.Reacts state ⟨context,before,none⟩ result env := by
  rw [Graph.react,run_lift]
  rcases setting.refuses_or_first ⟨context,before,none⟩ (setting.graph.candidates state setting.event) with
    refuses | ⟨leg,first⟩
  · rw [select_of_refuses refuses]
    constructor
    · intro same
      cases same
      exact .untaken refuses
    · intro reacts
      cases reacts with
      | untaken _ => rfl
      | taken first _ => exact absurd refuses first.not_refuses
  · rw [select_of_first first]
    refine (setting.leg_run (.unchanged state context) leg setting.event.label setting.limit.toNat before
      (setting.settle_run setting.limit.toNat)).trans ?_
    constructor
    · exact .taken first
    · intro reacts
      cases reacts with
      | untaken refuses => exact absurd refuses first.not_refuses
      | taken also settles =>
        cases first.unique also
        exact settles

theorem begin_run (setting : Setting M Env) (initial : setting.event = .init) (before : Env) :
    (setting.graph.begin setting.limit).run.run setting.answer before = (result,env) ↔
      setting.Settles setting.limit.toNat (setting.graph.arrival setting.graph.initial) [] setting.graph.initial
        ⟨setting.graph.context,before,none⟩ result env := by
  rw [Graph.begin,← initial,run_then,enter_run]
  simp only [Step.unchanged]
  cases done : setting.performAll ⟨setting.graph.context,before,none⟩ (setting.graph.arrival setting.graph.initial) with
  | ok later =>
    rw [settles_of_ok done]
    exact setting.settle_run _ _ _ rfl
  | error failed =>
    rw [settles_of_error done]
    exact eq_comm

/-- A path does not come to a step that takes nothing. -/
theorem Settles.taken {step : Step M} (settles : setting.Settles allowed opening earlier state start (.ok step) env) :
    step.taken = true := by
  cases settles with
  | settled _ _ _ _ _ _ => rfl

/-- Where guards leave the environment alone, a path comes to just what its actions and services come to,
one after another. -/
theorem performAll_of_quiet (setting : Setting M Env) (quiet : ∀ now transition, (setting.passes now transition).2 = now.env)
    (now : Situation M Env) (chores : List (Chore M)) :
    setting.performAll now (chores.filter fun chore => chore matches .act _ _ | .arrive _) = setting.performAll now chores := by
  induction chores generalizing now with
  | nil => rfl
  | cons chore rest ih =>
    cases chore with
    | look transition =>
      have still : setting.seen now transition = now := by rw [seen,quiet]
      rw [performAll_cons,perform,still]
      exact ih now
    | _ =>
      rw [List.filter_cons_of_pos rfl,performAll_cons,performAll_cons]
      exact congrArg _ (funext ih)

/-- The macrostep of an event takes nothing and runs no action just where none of the transitions for
the event may be taken, and otherwise it comes to what its path comes to. So does the macrostep of a
start, with the arrival at the initial state before its path. -/
theorem macrostep_semantics (setting : Setting M Env) :
    (∀ state context before result env,
      (setting.graph.react setting.limit state context setting.event).run.run setting.answer before = (result,env) ↔
        setting.Reacts state ⟨context,before,none⟩ result env) ∧
    (∀ state context before,
      (∃ step env, (setting.graph.react setting.limit state context setting.event).run.run setting.answer before =
          (.ok step,env) ∧ step.taken = false) ↔
        setting.Refuses ⟨context,before,none⟩ (setting.graph.candidates state setting.event)) ∧
    ∀ before result env,
      (setting.graph.begin setting.limit).run.run setting.answer before = (result,env) ↔
        Settles { setting with event := .init } setting.limit.toNat (setting.graph.arrival setting.graph.initial) []
          setting.graph.initial ⟨setting.graph.context,before,none⟩ result env := by
  refine ⟨fun state context before result env => setting.react_run state context before,?_,?_⟩
  · intro state context before
    constructor
    · rintro ⟨step,env,runs,untaken⟩
      cases (setting.react_run state context before).mp runs with
      | untaken refuses => exact refuses
      | taken _ settles =>
        rw [settles.taken] at untaken
        cases untaken
    · intro refuses
      exact ⟨_,_,(setting.react_run state context before).mpr (.untaken refuses),rfl⟩
  · intro before result env
    exact begin_run { setting with event := .init } rfl before

end Setting

end Statechart
