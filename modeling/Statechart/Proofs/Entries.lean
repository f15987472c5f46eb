import Statechart.Proofs.RunToCompletion

/-!
# Entries: what a macrostep asks and what it comes to

Whatever the callbacks of a macrostep answer, all of them are shown its own event, and its result is
either still in the state where it began or has entered the state that it stands in, with that
state's activities (`Graph.react_faithful`). So much holds of every step that is committed in a run.
-/
namespace Statechart

variable {M : Machine} {graph : Graph M} {options : Options}

/-! ## Conversations in which nothing unexpected is said -/

namespace Dialogue

variable {Q : Type} {A : Q → Type} {α β : Type} {asks : Q → Prop}

/-- Whatever it is answered, the dialogue asks only such questions and comes only to such a result. -/
def Meets (asks : Q → Prop) (ends : α → Prop) : Dialogue Q A α → Prop
  | .done result => ends result
  | .ask question next => asks question ∧ ∀ answer, (next answer).Meets asks ends

theorem Meets.bind {ends : α → Prop} {last : β → Prop} {dialogue : Dialogue Q A α} {sequel : α → Dialogue Q A β}
    (meets : dialogue.Meets asks ends) (beyond : ∀ result, ends result → (sequel result).Meets asks last) :
    (dialogue >>= sequel).Meets asks last := by
  induction dialogue with
  | done result => exact beyond result meets
  | ask question next ih => exact ⟨meets.1,fun answer => ih answer (meets.2 answer)⟩

theorem Meets.mono {ends last : α → Prop} {dialogue : Dialogue Q A α} (meets : dialogue.Meets asks ends)
    (weaker : ∀ result, ends result → last result) : dialogue.Meets asks last := by
  induction dialogue with
  | done result => exact weaker result meets
  | ask question next ih => exact ⟨meets.1,fun answer => ih answer (meets.2 answer)⟩

/-- What follows upon a dialogue matters only for the results that it may come to. -/
theorem Meets.bind_congr {ends : α → Prop} {dialogue : Dialogue Q A α} (meets : dialogue.Meets asks ends)
    {sequel other : α → Dialogue Q A β} (same : ∀ result, ends result → sequel result = other result) :
    (dialogue >>= sequel) = (dialogue >>= other) := by
  induction dialogue with
  | done result => exact same result meets
  | ask question next ih => exact congrArg (Dialogue.ask question) (funext fun answer => ih answer (meets.2 answer))

/-- What is left of such a dialogue, after some answers, is such a dialogue, too. -/
theorem Meets.leads {ends : α → Prop} {dialogue rest : Dialogue Q A α} {given : List (Sigma A)}
    (meets : dialogue.Meets asks ends) (leads : dialogue.Leads given rest) : rest.Meets asks ends := by
  induction leads with
  | here => exact meets
  | answer _ ih => exact ih (meets.2 _)

end Dialogue

/-- The event that a callback is shown. -/
def Query.event : Query M → Event M
  | .check _ _ event => event
  | .perform _ _ event => event
  | .create _ _ event => event

/-- Every callback of a move is shown the same event, and unless it fails it comes to such a result. -/
def Faithful {α : Type} (event : Event M) (ends : α → Prop) (move : Move M α) : Prop :=
  move.run.Meets (fun query => query.event = event) fun result => ∀ value, result = .ok value → ends value

namespace Faithful

variable {α β : Type} {event : Event M} {ends : α → Prop} {last : β → Prop}

theorem pure {value : α} (fits : ends value) : Faithful event ends (pure value : Move M α) := by
  intro other same
  cases same
  exact fits

theorem throw (failure : Failure M.State) : Faithful event ends (throw failure : Move M α) := by
  intro other same
  cases same

theorem bind {move : Move M α} {sequel : α → Move M β} (faithful : Faithful event ends move)
    (beyond : ∀ value, ends value → Faithful event last (sequel value)) : Faithful event last (move >>= sequel) := by
  rw [Faithful,ExceptT.run_bind]
  refine Dialogue.Meets.bind faithful ?_
  intro result fits
  cases result with
  | ok value => exact beyond value (fits value rfl)
  | error failure => exact fun _ same => by cases same

theorem of_meets {script : Script M α} (meets : script.Meets (fun query => query.event = event) ends) :
    Faithful event ends (ExceptT.lift script) := by
  refine Dialogue.Meets.bind meets ?_
  intro value fits other same
  cases same
  exact fits

theorem lift {script : Script M α} {sequel : α → Move M β}
    (meets : script.Meets (fun query => query.event = event) ends)
    (beyond : ∀ value, ends value → Faithful event last (sequel value)) :
    Faithful event last (ExceptT.lift script >>= sequel) :=
  (of_meets meets).bind beyond

theorem mono {other : α → Prop} {move : Move M α} (faithful : Faithful event ends move)
    (weaker : ∀ value, ends value → other value) : Faithful event other move :=
  Dialogue.Meets.mono faithful fun _ fits value same => weaker value (fits value same)

theorem bind_congr {move : Move M α} (faithful : Faithful event ends move) {sequel other : α → Move M β}
    (same : ∀ value, ends value → sequel value = other value) : (move >>= sequel) = (move >>= other) := by
  refine Dialogue.Meets.bind_congr faithful ?_
  intro result fits
  cases result with
  | ok value => exact same value (fits value rfl)
  | error failure => rfl

end Faithful

theorem Transition.isEnabled_meets (transition : Transition M) (context : M.Context) (event : Event M) :
    (transition.isEnabled context event).Meets (fun query => query.event = event) fun _ => True := by
  unfold isEnabled
  cases transition.guard with
  | none => exact trivial
  | some guard => exact ⟨rfl,fun _ => trivial⟩

/-- Only a candidate is chosen. -/
theorem select_among (candidates : List (Transition M)) (context : M.Context) (event : Event M) :
    (select candidates context event).Meets (fun query => query.event = event)
      fun chosen => ∀ transition, chosen = some transition → transition ∈ candidates := by
  rw [select]
  induction candidates with
  | nil => exact nofun
  | cons candidate rest ih =>
    refine (candidate.isEnabled_meets context event).bind ?_
    intro passes _
    cases passes with
    | true => intro transition same; cases same; exact List.mem_cons_self
    | false => exact ih.mono fun chosen among transition same => List.mem_cons_of_mem _ (among transition same)

theorem runActions_meets (actions : List (Action M)) (context : M.Context) (event : Event M) :
    (runActions actions context event).Meets (fun query => query.event = event) fun _ => True := by
  induction actions generalizing context with
  | nil => exact trivial
  | cons action rest ih =>
    refine ⟨rfl,?_⟩
    intro answer
    simp only
    cases action.role.next context answer with
    | error cause => exact trivial
    | ok next => exact ih next

/-! ## What a macrostep has entered -/

/-- The activities of an entry are those that the node of a state declares. -/
structure Entry.Fits (entry : Entry M) (graph : Graph M) (state : M.State) : Prop where
  service : entry.service.isSome = ((graph.node? state).bind Node.service).isSome
  delay : entry.delay = (graph.node? state).bind fun node => node.delay.map Delay.span

/-- How a step stands to where its macrostep began: it has not entered any state and is there still, or
it has entered the state that it is in. The macrostep of a start begins nowhere. -/
inductive Step.Stems (step : Step M) (graph : Graph M) (source : Option M.State) : Prop where
  | stayed (none : step.entry = none) (here : source = some step.state)
  | entered {entry : Entry M} (some : step.entry = some entry) (taken : step.taken = true)
      (fits : entry.Fits graph step.state)

namespace Graph

variable {step : Step M} {source : Option M.State}

theorem runIn_faithful (state : M.State) (actions : List (Action M)) (context : M.Context) (event : Event M) :
    Faithful event (fun _ => True) (runIn state actions context event) := by
  refine Dialogue.Meets.bind (runActions_meets actions context event) ?_
  intro result _
  cases result with
  | ok context => exact fun _ _ => trivial
  | error failed => exact fun _ _ => trivial

theorem makeService_meets (node : Node M) (context : M.Context) (event : Event M) :
    (makeService node context event).Meets (fun query => query.event = event) fun service =>
      service.isSome = node.service.isSome := by
  unfold makeService
  cases node.service with
  | none => exact rfl
  | some service => exact ⟨rfl,fun _ => rfl⟩

theorem enter_faithful (graph : Graph M) (taken : step.taken = true) (target : M.State) (event : Event M) :
    Faithful event (fun later => later.Stems graph source) (graph.enter step target event) := by
  unfold enter
  cases found : graph.node? target with
  | none => exact .pure (.entered rfl taken ⟨by simp [found],by simp [found]⟩)
  | some node =>
    refine (runIn_faithful _ _ _ _).bind ?_
    intro context _
    refine .lift (makeService_meets node context event) ?_
    intro service made
    exact .pure (.entered rfl taken ⟨by simp [found,made],by simp [found]⟩)

theorem take_faithful (graph : Graph M) (stems : step.Stems graph source) (transition : Transition M)
    (event : Event M) (trigger : String) :
    Faithful event (fun later => later.Stems graph source) (graph.take step transition event trigger) := by
  unfold take
  cases transition.target with
  | none =>
    refine (runIn_faithful _ _ _ _).bind ?_
    intro context _
    apply Faithful.pure
    -- an internal transition keeps both the state and the entry
    cases stems with
    | stayed none here => exact .stayed none here
    | entered some _ fits => exact .entered some rfl fits
  | some target =>
    refine (runIn_faithful _ _ _ _).bind ?_
    intro left _
    refine (runIn_faithful _ _ _ _).bind ?_
    intro passed _
    exact graph.enter_faithful rfl target event

theorem selectAlways_meets (graph : Graph M) (step : Step M) (event : Event M) :
    (graph.selectAlways step event).Meets (fun query => query.event = event) fun _ => True := by
  unfold selectAlways
  cases graph.node? step.state with
  | none => exact trivial
  | some node => exact (select_among _ _ _).mono fun _ _ => trivial

theorem settle_faithful (graph : Graph M) (limit : UInt64) (event : Event M) (remaining : Nat)
    (stems : step.Stems graph source) :
    Faithful event (fun later => later.Stems graph source) (graph.settle limit event remaining step) := by
  induction remaining generalizing step with
  | zero =>
    unfold settle
    refine .lift (graph.selectAlways_meets step event) ?_
    intro chosen _
    cases chosen with
    | none => exact .pure stems
    | some transition => exact .throw _
  | succ remaining ih =>
    unfold settle
    refine .lift (graph.selectAlways_meets step event) ?_
    intro chosen _
    cases chosen with
    | none => exact .pure stems
    | some transition => exact (graph.take_faithful stems transition event _).bind fun _ stems => ih stems

theorem begin_faithful (graph : Graph M) (limit : UInt64) :
    Faithful .init (fun step => step.Stems graph none) (graph.begin limit) :=
  (graph.enter_faithful rfl graph.initial .init).bind fun _ stems => graph.settle_faithful limit _ _ stems

theorem react_faithful (graph : Graph M) (limit : UInt64) (state : M.State) (context : M.Context)
    (event : Event M) :
    Faithful event (fun step => step.Stems graph (some state)) (graph.react limit state context event) := by
  unfold react
  refine .lift (select_among _ context event) ?_
  intro chosen _
  cases chosen with
  | none => exact .pure (.stayed rfl rfl)
  | some transition =>
    have unmoved : (Step.unchanged state context).Stems graph (some state) := .stayed rfl rfl
    exact (graph.take_faithful unmoved transition event _).bind fun _ stems => graph.settle_faithful limit _ _ stems

end Graph

/-! ## Macrosteps of a run -/

/-- The event that a macrostep is computed for. -/
def Frame.event? : Frame M → Option (Event M)
  | .starting _ => some .init
  | .reacting _ _ event _ => some event
  | _ => none

namespace Gathering

variable {here : Gathering M}

/-- Callbacks are asked on behalf of the macrostep in progress, and shown its event. -/
theorem Reachable.asks (reachable : here.Reachable graph options) {query : Query M} {next : query.Answer → Pending M}
    (asked : here.self.prompt = some (.query query next)) :
    ∃ frame ∈ here.macrosteps, frame.event? = some query.event := by
  obtain ⟨last,run⟩ := reachable.run
  rcases Interpreter.resume_cases asked with ⟨below,top,_⟩ | ⟨drainer,firstError,event,below,top,_⟩
  · have member : Frame.starting (.ask query next) ∈ here.macrosteps := by
      simp [macrosteps,frames,top,Frame.isMacrostep]
    obtain ⟨_,_,_,_,_,_,_,leads⟩ := run.computed _ member
    have meets := Dialogue.Meets.leads (graph.begin_faithful _) leads
    exact ⟨_,member,congrArg some meets.1.symm⟩
  · have member : Frame.reacting drainer firstError event (.ask query next) ∈ here.macrosteps := by
      simp [macrosteps,frames,top,Frame.isMacrostep]
    obtain ⟨_,_,_,_,_,_,_,leads⟩ := run.computed _ member
    have meets := Dialogue.Meets.leads (graph.react_faithful _ _ _ _) leads
    exact ⟨_,member,congrArg some meets.1.symm⟩

/-- The outcome of an activity is processed only for the live instance. -/
theorem Reachable.event_origin (reachable : here.Reachable graph options) {frame : Frame M}
    (member : frame ∈ here.macrosteps) {event : Event M} {origin : Origin M} (shown : frame.event? = some event)
    (carried : event.origin = some origin) : origin = here.self.core.origin := by
  obtain ⟨last,run⟩ := reachable.run
  obtain ⟨_,_,_,_,_,_,computed⟩ := run.computed frame member
  match frame, shown with
  | .starting _, rfl => cases carried
  | .reacting _ _ _ _, rfl =>
    rw [computed.1 origin carried,← run.committed]
    rfl

/-- What a committed step has entered. -/
theorem Reachable.stems (reachable : here.Reachable graph options) {step : Step M}
    (commits : here.self.Commits step) :
    (step.Stems graph none ∧ ∃ pending, .starting pending ∈ here.macrosteps) ∨
      step.Stems graph (some here.self.core.state) ∧
        ∃ drainer firstError event pending, .reacting drainer firstError event pending ∈ here.macrosteps := by
  obtain ⟨last,run⟩ := reachable.run
  obtain ⟨frame,one,result⟩ := run.result commits
  have member : frame ∈ here.macrosteps := by rw [one]; exact List.mem_singleton_self frame
  obtain ⟨_,_,_,_,_,_,computed⟩ := run.computed frame member
  match frame, result with
  | .starting (.done (.ok _)), rfl =>
    have meets := Dialogue.Meets.leads (graph.begin_faithful _) computed.2
    exact .inl ⟨meets _ rfl,_,member⟩
  | .reacting drainer firstError event (.done (.ok _)), rfl =>
    have meets := Dialogue.Meets.leads (graph.react_faithful _ _ _ _) computed.2
    have state : here.self.core.state = last.state := congrArg Committed.state run.committed
    rw [state]
    exact .inr ⟨meets _ rfl,_,_,_,_,member⟩

theorem Reachable.fits (reachable : here.Reachable graph options) {step : Step M} (commits : here.self.Commits step)
    {entry : Entry M} (entered : step.entry = some entry) : entry.Fits graph step.state := by
  rcases reachable.stems commits with ⟨stems,_⟩ | ⟨stems,_⟩ <;> cases stems with
  | stayed none _ => rw [entered] at none; cases none
  | entered some _ fits => rw [entered] at some; cases some; exact fits

end Gathering

end Statechart
