import Statechart.Proofs.Activities

/-!
# Promises: what macrosteps come to when callbacks keep to what they may answer

A host does not answer just anything. Given what its callbacks may answer, and what their answers do to
something that they work on, a script promises what it comes to (`Dialogue.Ensures`). As long as a
macrostep is in progress, what is left of it keeps the promise that was made when it began.
-/
namespace Statechart

variable {M : Machine} {graph : Graph M} {options : Options} {σ : Type}

/-! ## Scripts -/

namespace Dialogue

variable {Q : Type} {A : Q → Type} {α : Type} {may : (question : Q) → σ → A question → σ → Prop}
  {ends : α → σ → Prop} {now later : σ}

/-- Whatever the dialogue is answered, as long as each answer may be given where things stand, its end
is as promised. -/
def Ensures (may : (question : Q) → σ → A question → σ → Prop) (ends : α → σ → Prop) : Dialogue Q A α → σ → Prop
  | .done result, now => ends result now
  | .ask question next, now => ∀ given later, may question now given later → (next given).Ensures may ends later

/-- Answers that may be given one after another, and where they lead. -/
inductive Answered (may : (question : Q) → σ → A question → σ → Prop) : σ → List (Sigma A) → σ → Prop where
  | nil (now : σ) : Answered may now [] now
  | cons {now between later : σ} {question : Q} {given : A question} {rest : List (Sigma A)} :
      may question now given between → Answered may between rest later → Answered may now (⟨question,given⟩ :: rest) later

theorem Answered.append {may : (question : Q) → σ → A question → σ → Prop} {now between later : σ}
    {given more : List (Sigma A)} (answered : Answered may now given between) (further : Answered may between more later) :
    Answered may now (given ++ more) later := by
  induction answered with
  | nil => exact further
  | cons allowed _ ih => exact .cons allowed (ih further)

/-- A promise may be weakened. -/
theorem Ensures.mono {last : α → σ → Prop} {dialogue : Dialogue Q A α} (ensures : dialogue.Ensures may ends now)
    (weaker : ∀ result later, ends result later → last result later) : dialogue.Ensures may last now := by
  induction dialogue generalizing now with
  | done result => exact weaker result now ensures
  | ask question next ih => exact fun given later allowed => ih given (ensures given later allowed)

/-- What is left of a script after such answers keeps the promise. -/
theorem Ensures.leads {dialogue rest : Dialogue Q A α} {given : List (Sigma A)} (ensures : dialogue.Ensures may ends now)
    (leads : dialogue.Leads given rest) (answered : Answered may now given later) : rest.Ensures may ends later := by
  induction leads generalizing now with
  | here => cases answered; exact ensures
  | answer _ ih =>
    cases answered with
    | cons allowed further => exact ih (ensures _ _ allowed) further

end Dialogue

/-- Answers that may be given are noted down, one after another. -/
def Noted (may : (query : Query M) → query.Answer → Prop) (query : Query M)
    (noted : List ((query : Query M) × query.Answer)) (given : query.Answer)
    (later : List ((query : Query M) × query.Answer)) : Prop :=
  may query given ∧ later = noted ++ [⟨query,given⟩]

theorem Core.shows_commit (core : Core M) (step : Step M) :
    (core.commit step).state = step.state ∧ (core.commit step).context = step.context :=
  ⟨congrArg Committed.state (core.committed_commit step),congrArg Committed.context (core.committed_commit step)⟩

/-! ## Macrosteps in progress -/

/-- What is left of a macrostep. -/
def Frame.pending? : Frame M → Option (Pending M)
  | .starting pending => some pending
  | .reacting _ _ _ pending => some pending
  | _ => none

/-- What is left of a macrostep keeps a promise. -/
def Frame.Ensures (may : (query : Query M) → σ → query.Answer → σ → Prop)
    (ends : Except (Failure M.State) (Step M) → σ → Prop) (frame : Frame M) (now : σ) : Prop :=
  ∀ pending, frame.pending? = some pending → Dialogue.Ensures may ends pending now

theorem Frame.result?_cases {frame : Frame M} {step : Step M} (result : frame.result? = some step) :
    frame = .starting (.done (.ok step)) ∨
      ∃ drainer firstError event, frame = .reacting drainer firstError event (.done (.ok step)) := by
  match frame, result with
  | .starting (.done (.ok _)), rfl => exact .inl rfl
  | .reacting _ _ _ (.done (.ok _)), rfl => exact .inr ⟨_,_,_,rfl⟩

theorem Frame.Ensures.advances {may : (query : Query M) → σ → query.Answer → σ → Prop}
    {ends : Except (Failure M.State) (Step M) → σ → Prop} {frame later : Frame M} {now next : σ}
    {given : List ((query : Query M) × query.Answer)} (ensures : frame.Ensures may ends now)
    (advances : frame.Advances given later) (answered : Dialogue.Answered may now given next) :
    later.Ensures may ends next := by
  intro pending left
  cases advances with
  | starting leads => cases left; exact (ensures _ rfl).leads leads answered
  | reacting leads => cases left; exact (ensures _ rfl).leads leads answered

/-- The result that the macrostep on top of the stack has come to is as promised. -/
theorem Frame.Ensures.result {may : (query : Query M) → σ → query.Answer → σ → Prop}
    {ends : Except (Failure M.State) (Step M) → σ → Prop} {frame : Frame M} {step : Step M} {now : σ}
    (ensures : frame.Ensures may ends now) (result : frame.result? = some step) : ends (.ok step) now := by
  rcases Frame.result?_cases result with rfl | ⟨_,_,_,rfl⟩
  · exact ensures _ rfl
  · exact ensures _ rfl

namespace Gathering

variable {here next : Gathering M} {deed : Deed M} {trail : List (Moment M)}

/-- What is committed is the result of a macrostep in progress. -/
theorem committing {step : Step M} (commits : here.self.Commits step) :
    ∃ frame ∈ here.macrosteps, frame.result? = some step := by
  obtain ⟨_,frame,below,top,result⟩ := commits
  refine ⟨frame,List.mem_filter.mpr ⟨?_,?_⟩,result⟩
  · exact List.mem_append_left _ (by rw [top]; exact List.mem_cons_self)
  · rcases Frame.result?_cases result with rfl | ⟨_,_,_,rfl⟩ <;> rfl

theorem taken_of_commits {step : Step M} (commits : here.self.Commits step) : step.taken = true := by
  have admitted := commits.1
  simp only [Core.admits,Bool.and_eq_true] at admitted
  exact admitted.2

/-- State and context are those of the step that has just been committed. -/
theorem Moves.shows (moves : here.Moves deed next) {step : Step M} (now : (⟨here,deed⟩ : Moment M).step? = some step) :
    next.self.core.state = step.state ∧ next.self.core.context = step.context := by
  rw [moves.core_of_commit now]
  exact here.self.core.shows_commit step

/-- Callbacks answer on behalf of a macrostep only, which goes on then. -/
theorem Moves.answers_eq_nil (moves : here.Moves deed next) (idle : here.macrosteps = [] ∨ next.macrosteps = []) :
    answers [deed] = [] := by
  cases moves with
  | turn turn =>
    cases turn with
    | answer asked given =>
      rcases Interpreter.resume_cases asked with ⟨below,top,resumed⟩ | ⟨_,_,_,below,top,resumed⟩ <;>
        simp [macrosteps,frames,top,resumed,Frame.isMacrostep] at idle
    | _ => rfl
  | _ => rfl

/-- Where nothing is committed, neither what has been committed nor the context changes. -/
theorem Moves.uncommitted (trail : List (Moment M)) (moves : here.Moves deed next)
    (now : (⟨here,deed⟩ : Moment M).step? = none) :
    commits (trail ++ [⟨here,deed⟩]) = commits trail ∧ next.self.core.context = here.self.core.context := by
  constructor
  · rw [commits_append,commits_singleton,now,Option.toList_none,List.append_nil]
  · exact congrArg Committed.context (moves.committed_of_none now)

/-- A macrostep in progress has just begun, or it has been in progress before and goes on. -/
theorem Moves.each_macrostep (moves : here.Moves deed next)
    (sound : Sound graph options here.self here.waiting.flatten) {before after : Frame M → Prop}
    (each : ∀ frame ∈ here.macrosteps, before frame)
    (begins : here.macrosteps = [] → ∀ frame, here.self.Begins deed frame → after frame)
    (goes : ∀ frame later, before frame → frame.Advances (answers [deed]) later → after later) :
    ∀ frame ∈ next.macrosteps, after frame := by
  intro frame member
  rcases moves.course sound with ⟨_,none⟩ | ⟨idle,begun,starts,one⟩ | ⟨old,later,first,then_,advances⟩ | ⟨_,_,none,_⟩
  · rw [none] at member
    cases member
  · rw [one,List.mem_singleton] at member
    subst member
    exact begins idle _ starts
  · rw [then_,List.mem_singleton] at member
    subst member
    exact goes old _ (each old (by rw [first]; exact List.mem_singleton_self old)) advances
  · rw [none] at member
    cases member

/-- From one moment to the next a macrostep is in progress, and nobody stops the interpreter: only the
clock does anything to the core then. -/
theorem Moves.core_in_step (moves : here.Moves deed next) (sound : Sound graph options here.self here.waiting.flatten)
    (busy : here.macrosteps ≠ []) (still : next.macrosteps ≠ []) (unstopped : deed ≠ .stop) :
    next.self.core = { here.self.core with activities := deed.tend here.self.core.activities } := by
  have held : here.self.draining = true := by
    cases released : here.self.draining with
    | true => rfl
    | false => exact absurd (sound.no_macrostep released) busy
  have started : here.self.core.status ≠ .notStarted := by
    intro unstarted
    rw [(sound.unstarted unstarted).1] at held
    cases held
  have kept : ∀ {core : Core M} {deed : Deed M}, core = here.self.core → (∀ activities : List (Activity M),
      deed.tend activities = activities) → core = { here.self.core with activities := deed.tend here.self.core.activities } := by
    intro core deed same untended
    rw [same,untended]
  cases moves with
  | @turn self next deed waiting turn =>
    cases turn with
    | start clocked =>
      rcases self.start_cases clocked with ⟨_,result⟩ | ⟨unstarted,_⟩ | ⟨unstarted,_⟩
      · rw [result]; exact kept rfl fun _ => rfl
      · exact absurd unstarted started
      · exact absurd unstarted started
    | send signal => exact kept (self.core_post _) fun _ => rfl
    | stop => exact absurd rfl unstopped
    | subscribe listener => exact kept rfl fun _ => rfl
    | unsubscribe number => exact kept rfl fun _ => rfl
    | answer asked given =>
      rcases Interpreter.resume_cases asked with ⟨_,_,resumed⟩ | ⟨_,_,_,_,_,resumed⟩ <;> rw [resumed] <;>
        exact kept rfl fun _ => rfl
    | told top => rw [Interpreter.notified_eq top]; exact kept rfl fun _ => rfl
    | go _ =>
      have ended : ∀ {frame : Frame M} {below : List (Frame M)}, self.stack = frame :: below → frame.holdsFlag = true →
          ((below ++ waiting.flatten).filter Frame.isMacrostep ≠ []) → False := fun top holds more =>
        more (sound.no_other top holds)
      have ticks := self.ticks
      simp only [macrosteps,frames] at still
      generalize self.tick.1 = next at ticks still ⊢
      -- a tick that changes the core leaves no macrostep behind
      cases ticks with
      | startCommitted top _ => exact (ended top rfl still).elim
      | startFailed top => exact (ended top rfl still).elim
      | stepCommitted top _ => exact (ended top rfl still).elim
      | faulted top _ _ => exact (ended top rfl still).elim
      | _ => exact kept rfl fun _ => rfl
    | sleep found _ => rfl
    | deliver found _ => exact self.setActivity _ none |>.core_post _
  | back => exact kept rfl fun _ => rfl
  | join => exact kept rfl fun _ => rfl

end Gathering

end Statechart
