import Statechart.Proofs.Login.Conversations
import Statechart.Proofs.Mail
import Statechart.Proofs.Reactions

/-!
# Attempts: no login attempt is stuck

While a session waits for the authenticator, the attempt that it has made is in progress, or its outcome
waits in the mailbox. Nothing but that outcome moves the session on, and the outcome always does, unless
somebody stops the session (`attempt_ends`). A session that is stopped while the outcome is processed stays
where it waited (`stopped_attempt_unconcluded`).
-/
namespace Statechart.Login

/-- The outcome of the attempt that a state instance has made. -/
def IsOutcomeOf (origin : Origin machine) : Event machine → Prop
  | .done sender _ => sender = origin
  | .failed sender _ => sender = origin
  | _ => False

theorem IsOutcomeOf.sender {origin : Origin machine} {event : Event machine} (outcome : IsOutcomeOf origin event) :
    event.origin = some origin := by
  cases event with
  | done sender user => exact congrArg some outcome
  | failed sender rejection => exact congrArg some outcome
  | _ => cases outcome

/-- The live instance accepts the outcome of its attempt. -/
theorem IsOutcomeOf.accepted {core : Core machine} {event : Event machine} (outcome : IsOutcomeOf core.origin event) :
    core.accepts event = true := by
  simp [Core.accepts,outcome.sender]

/-! ## What a waiting session does with an event -/

/-- What a session that waits does with an event: the outcome of an attempt leads away, unless its step
fails, and nothing else is taken. -/
structure Waits (event : Event machine) (result : Except Fault (Statechart.Step machine)) : Prop where
  away : ∀ origin, IsOutcomeOf origin event → ∀ step, result = .ok step →
    step.taken = true ∧ step.state ≠ .processAuthentication
  still : (∀ origin, ¬ IsOutcomeOf origin event) → ∃ step, result = .ok step ∧ step.taken = false

section

variable {id : String} {renewInterval : Option Nat} {limit : UInt64} {account : Account} {event : Event machine}
  {origin : Origin machine}

theorem waits_error (outcome : IsOutcomeOf origin event) (failure : Fault) : Waits event (.error failure) := by
  constructor
  · intro _ _ _ same
    cases same
  · intro other
    exact absurd outcome (other origin)

theorem waits_arrival (outcome : IsOutcomeOf origin event) {target : State} (other : target ≠ .processAuthentication)
    (trigger : String) : Waits event
      (.ok (arrival renewInterval .processAuthentication trigger none target account none)) := by
  constructor
  · intro _ _ _ same
    cases same
    exact ⟨rfl,other⟩
  · intro other
    exact absurd outcome (other origin)

theorem react_waits (event : Event machine) :
    ((chart id renewInterval).react limit .processAuthentication account event).run.Meets (fun _ => True)
      (Waits event) := by
  rcases provokes_or_idles id renewInterval limit .processAuthentication account event with provokes | idles
  · cases provokes with
    | done origin user =>
      have outcome : IsOutcomeOf origin (.done origin user) := rfl
      rw [react_done]
      refine ⟨trivial,fun signedIn => ⟨trivial,fun noted => ?_⟩⟩
      cases noted with
      | error cause => exact waits_error outcome _
      | ok =>
        refine ⟨trivial,fun saved => ?_⟩
        cases saved with
        | error cause => exact waits_error outcome _
        | ok => exact waits_arrival outcome (by decide) _
    | failed origin rejection =>
      have outcome : IsOutcomeOf origin (.failed origin rejection) := rfl
      rw [react_failed]
      refine ⟨trivial,fun required => ?_⟩
      cases required with
      | true => exact ⟨trivial,fun rejected => waits_arrival outcome (by decide) _⟩
      | false =>
        refine ⟨trivial,fun noted => ?_⟩
        cases noted with
        | error cause => exact waits_error outcome _
        | ok => exact ⟨trivial,fun rejected => waits_arrival outcome (by decide) _⟩
  · rw [idles]
    constructor
    · intro origin outcome
      cases event with
      | done _ _ => rw [react_done] at idles; cases idles
      | failed _ _ => rw [react_failed] at idles; cases idles
      | _ => cases outcome
    · intro _
      exact ⟨_,rfl,rfl⟩

end

variable {id : String} {renewInterval : Option Nat} {options : Options} {trail : List (Moment machine)}
  {here next : Gathering machine} {deed : Statechart.Deed machine} {deeds : List (Statechart.Deed machine)}
  {drainer : Drainer machine} {firstError : Option Fault} {event : Event machine} {pending : Pending machine}

/-- So it is with what is left of a macrostep in progress, and its event is for the live instance. -/
theorem waits_of_reachable (reachable : here.Reachable (chart id renewInterval) options)
    (waiting : here.self.core.state = .processAuthentication)
    (among : .reacting drainer firstError event pending ∈ here.macrosteps) :
    Dialogue.Meets (fun _ => True) (Waits event) pending ∧
      ∀ origin, event.origin = some origin → origin = here.self.core.origin := by
  obtain ⟨last,run⟩ := reachable.run
  obtain ⟨_,_,_,_,_,_,own,leads⟩ := run.computed _ among
  rw [← run.committed] at own leads
  have state : here.self.core.committed.state = .processAuthentication := waiting
  rw [state] at leads
  exact ⟨Dialogue.Meets.leads (react_waits event) leads,own⟩

/-- The macrostep of the outcome is over, and the call goes on. -/
def Resolves (here : Gathering machine) (deed : Statechart.Deed machine) : Prop :=
  deed = .go ∧ ∃ drainer firstError event result below,
    here.self.stack = .reacting drainer firstError event (.done result) :: below ∧
      IsOutcomeOf here.self.core.origin event

/-- A session that waits is not being started. -/
theorem not_starting (reachable : here.Reachable (chart id renewInterval) options)
    (waiting : here.self.core.state = .processAuthentication) (pending : Pending machine) :
    .starting pending ∉ here.self.stack ++ here.waiting.flatten := by
  intro among
  obtain ⟨_,_,_,core⟩ := reachable.sound.starting pending among
  rw [core] at waiting
  cases waiting

/-- What is over is the macrostep of the outcome, or it has taken nothing. -/
theorem resolves_or_untaken (reachable : here.Reachable (chart id renewInterval) options)
    (waiting : here.self.core.state = .processAuthentication)
    {result : Except Fault (Statechart.Step machine)} {below : List (Frame machine)}
    (top : here.self.stack = .reacting drainer firstError event (.done result) :: below) :
    Resolves here .go ∨ ∃ step, result = .ok step ∧ step.taken = false := by
  have among : .reacting drainer firstError event (.done result) ∈ here.macrosteps := by
    simp [Gathering.macrosteps,Gathering.frames,top,Frame.isMacrostep]
  obtain ⟨waits,own⟩ := waits_of_reachable reachable waiting among
  by_cases outcome : ∃ origin, IsOutcomeOf origin event
  · obtain ⟨origin,outcome⟩ := outcome
    rw [own origin outcome.sender] at outcome
    exact .inl ⟨rfl,_,_,_,_,_,top,outcome⟩
  · exact .inr (Waits.still waits fun origin now => outcome ⟨origin,now⟩)

/-- While a session waits, nothing but the clock does anything to its core, until somebody stops it or the
outcome has been processed. -/
theorem core_while_waiting (reachable : here.Reachable (chart id renewInterval) options) (moves : here.Moves deed next)
    (running : here.self.core.status = .running) (waiting : here.self.core.state = .processAuthentication)
    (unstopped : deed ≠ .stop) (unresolved : ¬ Resolves here deed) :
    next.self.core = { here.self.core with activities := deed.tend here.self.core.activities } := by
  have unstarting : ∀ {pending below}, here.self.stack ≠ .starting pending :: below := by
    intro pending below top
    exact not_starting reachable waiting pending (by simp [top])
  by_cases goes : deed = .go
  · subst goes
    rw [moves.of_go]
    have ticks := here.self.ticks
    generalize here.self.tick.1 = next at ticks ⊢
    cases ticks with
    | startCommitted top _ => exact absurd top unstarting
    | startFailed top => exact absurd top unstarting
    | stepCommitted top admitted =>
      rcases resolves_or_untaken reachable waiting top with resolves | ⟨step,same,untaken⟩
      · exact absurd resolves unresolved
      · cases same
        simp [Core.admits,untaken] at admitted
    | faulted top _ _ =>
      rcases resolves_or_untaken reachable waiting top with resolves | ⟨step,same,_⟩
      · exact absurd resolves unresolved
      · cases same
    | _ => rfl
  · exact moves.core_tended running goes unstopped

/-! ## The attempt, or its outcome -/

/-- What a session waits for: its attempt is in progress, its outcome waits in the mailbox, or the outcome
is being processed. -/
inductive Awaits (here : Gathering machine) : Prop where
  | attempt {activity : Activity machine} (one : here.self.core.activities = [activity])
      (service : activity.duty = (.service,none))
  | mail {event : Event machine} (none : here.self.core.activities = []) (waits : event ∈ here.self.mailbox)
      (outcome : IsOutcomeOf here.self.core.origin event)
  | step {drainer : Drainer machine} {firstError : Option Fault} {event : Event machine} {pending : Pending machine}
      (none : here.self.core.activities = []) (one : here.macrosteps = [.reacting drainer firstError event pending])
      (outcome : IsOutcomeOf here.self.core.origin event)

/-- The state is entered with an attempt. -/
theorem awaits_of_birth (reachable : here.Reachable (chart id renewInterval) options) (moves : here.Moves deed next)
    (running : next.self.core.status = .running) (waiting : next.self.core.state = .processAuthentication)
    {origin : Origin machine} (born : (⟨here,deed⟩ : Moment machine).birth? = some origin) : Awaits next := by
  have spawned := moves.activities reachable running
  rw [born] at spawned
  obtain ⟨_,duties,_⟩ := spawned
  rw [waiting] at duties
  obtain ⟨activity,one,service⟩ := List.map_eq_singleton_iff.mp duties
  exact .attempt one service

/-- While the attempt is in progress, the clock lets it go on, or it comes to its outcome. -/
theorem awaits_of_attempt (moves : here.Moves deed next)
    (running : here.self.core.status = .running)
    (kept : next.self.core = { here.self.core with activities := deed.tend here.self.core.activities })
    {activity : Activity machine} (own : activity.origin = here.self.core.origin) (one : here.self.core.activities = [activity])
    (service : activity.duty = (.service,none)) : Awaits next := by
  have alone : ∀ {place : Nat} {other : Activity machine}, here.self.core.activities[place]? = some other →
      place = 0 ∧ other = activity := by
    intro place other found
    rw [one] at found
    cases place with
    | zero => exact ⟨rfl,(Option.some.inj found).symm⟩
    | succ place => cases found
  cases deed with
  | sleep place later =>
    cases moves with
    | turn turn =>
      cases turn with
      | sleep found continues =>
        obtain ⟨rfl,rfl⟩ := alone found
        refine .attempt ?_ (continues.same.2.trans service)
        rw [kept,one]
        rfl
  | deliver place event =>
    cases moves with
    | @turn self _ _ _ turn =>
      cases turn with
      | deliver found ends =>
        obtain ⟨rfl,rfl⟩ := alone found
        cases ends with
        | timer _ _ _ => cases service
        | service origin task phase outcome =>
          have running : (self.setActivity 0 none).core.status = .running := running
          have posted : Event.ofOutcome origin outcome ∈
              ((self.setActivity 0 none).post (.ofOutcome origin outcome)).1.mailbox := by
            rw [Interpreter.mailbox_post,if_pos running]
            simp
          refine .mail ?_ posted ?_
          · rw [kept,one]
            rfl
          · rw [kept]
            cases outcome <;> exact own
  | _ =>
    refine .attempt ?_ service
    rw [kept]
    exact one

/-- While the outcome waits, others may come before it. -/
theorem awaits_of_mail (reachable : here.Reachable (chart id renewInterval) options) (moves : here.Moves deed next)
    (running : here.self.core.status = .running) (waiting : here.self.core.state = .processAuthentication)
    (kept : next.self.core = { here.self.core with activities := deed.tend here.self.core.activities })
    (none : here.self.core.activities = []) (waits : event ∈ here.self.mailbox)
    (outcome : IsOutcomeOf here.self.core.origin event) : Awaits next := by
  have idle : next.self.core.activities = [] := by
    rw [kept,none]
    cases deed <;> rfl
  have same : next.self.core.origin = here.self.core.origin := by
    rw [kept]
    rfl
  have alive : next.self.core.status = .running := by
    rw [kept]
    exact running
  have lies : event ∈ next.self.mailbox → Awaits next := fun lies => .mail idle lies (by rw [same]; exact outcome)
  have leaves := moves.leaves
  generalize after : next.self.mailbox = mailbox at leaves lies
  cases leaves with
  | accepted _ _ => exact lies (List.mem_append_left _ waits)
  | still _ _ => exact lies waits
  | @handed first rest _ goes mail =>
    rw [mail] at waits
    rcases List.mem_cons.mp waits with now | later
    · subst now
      obtain ⟨go,drainer,firstError,below,_,top,_⟩ := Moment.handed?_eq_some_iff.mp goes
      simp only at go top
      subst go
      have takes : here.Takes drainer firstError event := ⟨⟨_,top⟩,⟨_,mail⟩,running,outcome.accepted⟩
      exact .step idle (takes.begins reachable.sound moves).1 (by rw [same]; exact outcome)
    · exact lies later
  | cleared _ _ clears =>
    cases clears with
    | stopped stop _ _ =>
      simp only at stop
      subst stop
      rw [moves.stops (.inl running)] at alive
      cases alive
    | faulted go top sent _ =>
      simp only at go top
      subst go
      rw [moves.core_of_reaction top] at alive
      simp [sent,running,Core.close] at alive
    | @startFailed failure below _ top =>
      simp only at top
      exact absurd (by simp [top]) (not_starting reachable waiting (.done (.error failure)))

/-- While the outcome is processed, its macrostep goes on. -/
theorem awaits_of_step (reachable : here.Reachable (chart id renewInterval) options) (moves : here.Moves deed next)
    (unresolved : ¬ Resolves here deed)
    (kept : next.self.core = { here.self.core with activities := deed.tend here.self.core.activities })
    (none : here.self.core.activities = []) (one : here.macrosteps = [.reacting drainer firstError event pending])
    (outcome : IsOutcomeOf here.self.core.origin event) : Awaits next := by
  rcases moves.course reachable.sound with ⟨empty,_⟩ | ⟨empty,_⟩ | ⟨frame,later,now,then_,advances⟩ | ⟨frame,now,_,finishes⟩
  · rw [one] at empty
    cases empty
  · rw [one] at empty
    cases empty
  · rw [one] at now
    cases now
    cases advances with
    | reacting _ =>
      refine .step ?_ then_ (by rw [kept]; exact outcome)
      rw [kept,none]
      cases deed <;> rfl
  · rw [one] at now
    cases now
    cases finishes with
    | react top => exact absurd ⟨rfl,_,_,_,_,_,top,outcome⟩ unresolved

/-- Once the outcome has been processed, the session does not wait any more. -/
theorem Resolves.leaves (resolves : Resolves here deed) (reachable : here.Reachable (chart id renewInterval) options)
    (moves : here.Moves deed next) (running : here.self.core.status = .running)
    (waiting : here.self.core.state = .processAuthentication) (alive : next.self.core.status = .running) :
    next.self.core.state ≠ .processAuthentication := by
  obtain ⟨rfl,drainer,firstError,event,result,below,top,outcome⟩ := resolves
  have after := moves.core_of_reaction top
  cases result with
  | error failure =>
    rw [after] at alive
    simp [outcome.sender,running,Core.close] at alive
  | ok step =>
    have among : .reacting drainer firstError event (.done (.ok step)) ∈ here.macrosteps := by
      simp [Gathering.macrosteps,Gathering.frames,top,Frame.isMacrostep]
    obtain ⟨taken,away⟩ := Waits.away (waits_of_reachable reachable waiting among).1 _ outcome step rfl
    have admitted : here.self.core.admits step = true := by simp [Core.admits,running,taken]
    rw [show next.self.core = here.self.core.commit step by simpa [admitted] using after]
    rw [(here.self.core.shows_commit step).1]
    exact away

theorem awaits_onward (run : (Gathering.fresh (chart id renewInterval) options).Trail trail here)
    (awaits : here.self.core.status = .running → here.self.core.state = .processAuthentication → Awaits here)
    (moves : here.Moves deed next) (alive : next.self.core.status = .running)
    (waiting : next.self.core.state = .processAuthentication) : Awaits next := by
  have reachable := run.reachable
  cases born : (⟨here,deed⟩ : Moment machine).birth? with
  | some origin => exact awaits_of_birth reachable moves alive waiting born
  | none =>
    have origin := moves.origin reachable
    rw [born,Option.getD_none] at origin
    have state : here.self.core.state = .processAuthentication := (congrArg Origin.state origin).symm.trans waiting
    have running : here.self.core.status = .running := by
      by_cases running : here.self.core.status = .running
      · exact running
      · have unstarted := (moves.changes.revives running alive).1
        rw [(reachable.sound.unstarted unstarted).2.2] at state
        cases state
    have unstopped : deed ≠ .stop := by
      rintro rfl
      rw [moves.stops (.inl running)] at alive
      cases alive
    by_cases resolves : Resolves here deed
    · exact absurd waiting (resolves.leaves reachable moves running state alive)
    · have kept := core_while_waiting reachable moves running state unstopped resolves
      cases awaits running state with
      | attempt one service =>
        have own := run.tended.own _ (by rw [one]; exact List.mem_cons_self)
        exact awaits_of_attempt moves running kept own one service
      | mail none waits outcome => exact awaits_of_mail reachable moves running state kept none waits outcome
      | step none one outcome => exact awaits_of_step reachable moves resolves kept none one outcome

theorem awaits_of_trail (run : (Gathering.fresh (chart id renewInterval) options).Trail trail here)
    (running : here.self.core.status = .running) (waiting : here.self.core.state = .processAuthentication) :
    Awaits here := by
  induction run with
  | here => cases waiting
  | onward run moves ih => exact awaits_onward run ih moves running waiting

/-! ## What becomes of the attempt -/

/-- The store's answer to saving the user of an account. -/
def saving (account : Account) (event : Event machine) (given : Except ActionError Unit) :
    (query : Query machine) × query.Answer := ⟨.perform persistIdentity account event,given⟩

/-- The account after an attempt that was rejected. A second factor that is asked for is remembered. -/
def Account.rejected (account : Account) (rejection : Rejection) : Account :=
  { account with isLoading := false, error := if rejection.isMfaRequired then some rejection else none }

/-- What the macrostep of an outcome comes to, given the answers of its callbacks. -/
def Concludes (account : Account) (event : Event machine) (result : Except Fault (Statechart.Step machine))
    (given : List ((query : Query machine) × query.Answer)) : Prop :=
  match event with
  | .done _ user =>
    (∃ step, result = .ok step ∧ step.taken = true ∧ step.state = .authenticated ∧
      step.context = account.signedIn (some user) ∧ saving (account.signedIn (some user)) event (.ok ()) ∈ given) ∨
    ∃ cause, result = .error (.effectFailed .authenticated "persistIdentity" cause) ∧
      saving (account.signedIn (some user)) event (.error cause) ∈ given
  | .failed _ rejection =>
    ∃ step, result = .ok step ∧ step.taken = true ∧ step.state = .unauthenticated ∧
      step.context = account.rejected rejection
  | _ => True

theorem react_concludes {limit : UInt64} {account : Account} {origin : Origin machine} (outcome : IsOutcomeOf origin event)
    {noted : List ((query : Query machine) × query.Answer)} :
    ((chart id renewInterval).react limit .processAuthentication account event).run.Ensures (Noted Credible)
      (Concludes account event) noted := by
  cases event with
  | done origin user =>
    rw [react_done]
    rintro signedIn _ ⟨answered,rfl⟩
    have same : signedIn = account.signedIn (some user) := answered (.holding none)
    subst same
    rintro reported _ ⟨answered,rfl⟩
    have fine : reported = .ok () := answered (.holding none)
    subst fine
    rintro saved _ ⟨_,rfl⟩
    cases saved with
    | ok => exact .inl ⟨_,rfl,rfl,rfl,rfl,by simp [saving]⟩
    | error cause => exact .inr ⟨cause,rfl,by simp [saving]⟩
  | failed origin rejection =>
    rw [react_failed]
    rintro required _ ⟨passes,rfl⟩
    have passes : required = rejection.isMfaRequired := passes
    subst passes
    cases asked : rejection.isMfaRequired with
    | true =>
      rintro rejected _ ⟨answered,rfl⟩
      have same : rejected = { account with isLoading := false, error := some rejection } := answered (.holding none)
      subst same
      exact ⟨_,rfl,rfl,rfl,by simp [Account.rejected,asked,arrival]⟩
    | false =>
      rintro reported _ ⟨answered,rfl⟩
      have fine : reported = .ok () := answered (.holding none)
      subst fine
      rintro rejected _ ⟨answered,rfl⟩
      have same : rejected = { account with isLoading := false, error := none } := answered (.holding none)
      subst same
      exact ⟨_,rfl,rfl,rfl,by simp [Account.rejected,asked,arrival]⟩
  | _ => cases outcome

/-- How a session goes on after an attempt with the given outcome, given the answers of its callbacks. -/
def Concluded (account : Account) (event : Event machine) (given : List ((query : Query machine) × query.Answer))
    (core : Core machine) : Prop :=
  match event with
  | .done _ user =>
    (core.status = .running ∧ core.state = .authenticated ∧ core.context = account.signedIn (some user) ∧
      saving (account.signedIn (some user)) event (.ok ()) ∈ given) ∨
    core.status = .failed ∧ ∃ cause, core.fault = some (.effectFailed .authenticated "persistIdentity" cause) ∧
      saving (account.signedIn (some user)) event (.error cause) ∈ given
  | .failed _ rejection =>
    core.status = .running ∧ core.state = .unauthenticated ∧ core.context = account.rejected rejection
  | _ => False

/-- The machine has no final state. -/
theorem status_commit (core : Core machine) (step : Statechart.Step machine) : (core.commit step).status = core.status := by
  cases entered : step.entry with
  | none => simp [Core.commit,entered]
  | some entry =>
    cases clocked : core.clocked <;> simp [Core.commit,entered,clocked]

/-- An outcome that has been taken ends the attempt, unless somebody stops the session meanwhile. -/
theorem outcome_concluded (reachable : here.Reachable (chart id renewInterval) options)
    (waiting : here.self.core.state = .processAuthentication) (takes : here.Takes drainer firstError event)
    (outcome : IsOutcomeOf here.self.core.origin event) {log : List (Note machine)}
    (episode : here.Episode .go deeds log next) (credible : ∀ deed ∈ deeds, IsCredible deed) :
    .stop ∈ deeds ∧ next.self.core.status = .stopped ∨
      Concluded here.self.core.context event (answers deeds) next.self.core := by
  obtain ⟨before,later,result,below,whole,top,moves,leads,same,alive⟩ := episode.reacted reachable takes
  have given : answers deeds = answers before := by
    rw [whole,answers_append]
    exact List.append_nil _
  have concludes : Concludes here.self.core.context event result (answers before) := by
    rw [waiting] at leads
    have early : ∀ deed ∈ before, IsCredible deed := fun deed member => credible deed (by simp [whole,member])
    have answered := credible_answered early []
    exact (react_concludes outcome).leads leads answered
  have after := moves.core_of_reaction top
  rcases alive with running | ⟨stops,stopped⟩
  · refine .inr ?_
    rw [given]
    have committed : ∀ {step : Statechart.Step machine}, result = .ok step → step.taken = true →
        next.self.core.status = .running ∧ next.self.core.state = step.state ∧ next.self.core.context = step.context := by
      rintro step rfl taken
      have core : next.self.core = later.self.core.commit step := by simpa [Core.admits,running,taken] using after
      rw [core]
      exact ⟨(status_commit _ _).trans running,later.self.core.shows_commit step⟩
    cases event with
    | done origin user =>
      rcases concludes with ⟨step,same,taken,state,context,saved⟩ | ⟨cause,same,refused⟩
      · obtain ⟨alive,arrived,shown⟩ := committed same taken
        exact .inl ⟨alive,arrived.trans state,shown.trans context,saved⟩
      · subst same
        have core : next.self.core = later.self.core.close .failed
            (some (.effectFailed .authenticated "persistIdentity" cause)) := by
          simpa [Event.origin,running] using after
        rw [core]
        exact .inr ⟨rfl,cause,rfl,refused⟩
    | failed origin rejection =>
      obtain ⟨step,same,taken,state,context⟩ := concludes
      obtain ⟨alive,arrived,shown⟩ := committed same taken
      exact ⟨alive,arrived.trans state,shown.trans context⟩
    | _ => cases outcome
  · refine .inl ⟨stops,?_⟩
    have refused : next.self.core = later.self.core := by
      rw [after]
      cases result <;> simp [Core.admits,stopped]
    rw [refused]
    exact stopped

/-- A running session that waits has its attempt in progress, or the outcome waits in the mailbox, which
somebody is emptying. Nothing but the clock does anything to its core until it is stopped or the outcome
has been processed. Processing the outcome can be carried out whatever the callbacks answer, and unless
the session is stopped meanwhile it signs the user in, with the user saved, or rejects the attempt, or
makes the session fail because the user could not be saved. -/
theorem attempt_ends {built : Graph machine} (builds : graph id renewInterval = .ok built)
    (reachable : here.Reachable built options) (running : here.self.core.status = .running)
    (waiting : here.self.core.state = .processAuthentication) :
    (here.macrosteps = [] →
      (∃ task phase, here.self.core.activities = [⟨here.self.core.origin,.service task,phase⟩]) ∨
      here.self.core.activities = [] ∧ here.self.draining = true ∧
        ∃ event ∈ here.self.mailbox, IsOutcomeOf here.self.core.origin event) ∧
    (∀ deed next, here.Moves deed next → deed ≠ .stop → ¬ Resolves here deed →
      next.self.core = { here.self.core with activities := deed.tend here.self.core.activities }) ∧
    ∀ drainer firstError event, here.Takes drainer firstError event → IsOutcomeOf here.self.core.origin event →
      (∀ host : (query : Query machine) → query.Answer, ∃ deeds log next, here.Episode .go deeds log next ∧
        ∀ deed ∈ deeds, deed = .go ∨ ∃ query, deed = .answer query (host query)) ∧
      ∀ deeds log next, here.Episode .go deeds log next → (∀ deed ∈ deeds, IsCredible deed) →
        .stop ∈ deeds ∧ next.self.core.status = .stopped ∨
          Concluded here.self.core.context event (answers deeds) next.self.core := by
  rw [eq_chart builds] at reachable
  obtain ⟨trail,run⟩ := reachable.trail
  refine ⟨?_,fun deed next moves => core_while_waiting reachable moves running waiting,?_⟩
  · intro idle
    cases awaits_of_trail run running waiting with
    | @attempt activity one service =>
      have own := run.tended.own activity (by simp [one])
      obtain ⟨origin,job,phase⟩ := activity
      cases job with
      | timer span => cases service
      | service task =>
        subst own
        exact .inl ⟨task,phase,one⟩
    | @mail event none waits outcome =>
      refine .inr ⟨none,?_,event,waits,outcome⟩
      cases held : here.self.draining with
      | true => rfl
      | false =>
        rw [run.attended held] at waits
        cases waits
    | step _ one _ =>
      rw [idle] at one
      cases one
  · intro drainer firstError event takes outcome
    have idle : here.macrosteps = [] := by
      obtain ⟨below,top⟩ := takes.top
      have none := reachable.sound.no_other top rfl
      rw [Gathering.macrosteps,Gathering.frames,top]
      exact none
    exact ⟨takes.carried_out reachable idle,
      fun _ _ _ episode => outcome_concluded reachable waiting takes outcome episode⟩

/-- The outcome that waits for its session. -/
def arrived : Event machine := .done ⟨.processAuthentication,⟨2⟩⟩ ⟨"me"⟩

theorem awaited_takes : awaited.Takes .poster none arrived := ⟨⟨_,rfl⟩,⟨_,rfl⟩,rfl,rfl⟩

/-- The outcome is processed, and the user is saved. -/
def signingIn : List (Statechart.Deed machine) := [
  .answer (.perform setAuthentication { isLoading := true } arrived) (({} : Account).signedIn (some ⟨"me"⟩)),
  .answer (.perform handleIsAuthenticated (({} : Account).signedIn (some ⟨"me"⟩)) arrived) (.ok ()),
  .answer (.perform persistIdentity (({} : Account).signedIn (some ⟨"me"⟩)) arrived) (.ok ()),
  .go]

theorem awaited_signs_in : ∃ log next, awaited.Episode .go signingIn log next := by
  have taken : Gathering.Underway awaited .go [] _ _ := .begun rfl (.turn (.go rfl)) (List.cons_ne_nil _ _)
  have signed := taken.onward (.turn (.answer rfl (by exact ({} : Account).signedIn (some ⟨"me"⟩)))) (List.cons_ne_nil _ _)
  have noted := signed.onward (.turn (.answer rfl (by exact Except.ok ()))) (List.cons_ne_nil _ _)
  have saved := noted.onward (.turn (.answer rfl (by exact Except.ok ()))) (List.cons_ne_nil _ _)
  have past := Gathering.Episode.later saved (.turn (.go rfl)) rfl
  exact ⟨_,_,past⟩

theorem awaited_attempt_ends :
    awaited.Reachable (chart "authentication" none) {} ∧ awaited.Takes .poster none arrived ∧
      ∃ log next, awaited.Episode .go signingIn log next ∧
        Concluded { isLoading := true } arrived (answers signingIn) next.self.core := by
  obtain ⟨trail,attended,_⟩ := awaited_attended
  obtain ⟨log,next,episode⟩ := awaited_signs_in
  have reachable := attended.run.reachable
  have credible : ∀ deed ∈ signingIn, IsCredible deed := by
    simp only [signingIn,List.forall_mem_cons]
    exact ⟨fun _ => rfl,fun _ => rfl,fun _ => rfl,trivial,fun _ member => by cases member⟩
  have ends := ((attempt_ends (graph_eq _ _) reachable rfl rfl).2.2 _ _ _ awaited_takes rfl).2 _ _ _ episode credible
  rcases ends with ⟨stops,_⟩ | concluded
  · simp [signingIn] at stops
  · exact ⟨reachable,awaited_takes,log,next,episode,concluded⟩

/-- The outcome is processed, and the store stops the session that saves the user. -/
def stoppedSigningIn : List (Statechart.Deed machine) := [
  .answer (.perform setAuthentication { isLoading := true } arrived) (({} : Account).signedIn (some ⟨"me"⟩)),
  .answer (.perform handleIsAuthenticated (({} : Account).signedIn (some ⟨"me"⟩)) arrived) (.ok ()),
  .stop,
  .go,
  .answer (.perform persistIdentity (({} : Account).signedIn (some ⟨"me"⟩)) arrived) (.ok ()),
  .go]

/-- The outcome of the attempt has been processed, but the session neither is signed in nor has it rejected the
attempt or failed. -/
theorem stopped_attempt_unconcluded :
    awaited.Reachable (chart "authentication" none) {} ∧ awaited.self.core.status = .running ∧
    awaited.self.core.state = .processAuthentication ∧ awaited.Takes .poster none arrived ∧
      ∃ log next, awaited.Episode .go stoppedSigningIn log next ∧ (∀ deed ∈ stoppedSigningIn, IsCredible deed) ∧
        next.self.core.status = .stopped ∧ next.self.core.state = .processAuthentication ∧
        ¬ Concluded { isLoading := true } arrived (answers stoppedSigningIn) next.self.core := by
  obtain ⟨trail,attended,_⟩ := awaited_attended
  have taken : Gathering.Underway awaited .go [] _ _ := .begun rfl (.turn (.go rfl)) (List.cons_ne_nil _ _)
  have signed := taken.onward (.turn (.answer rfl (by exact ({} : Account).signedIn (some ⟨"me"⟩)))) (List.cons_ne_nil _ _)
  have noted := signed.onward (.turn (.answer rfl (by exact Except.ok ()))) (List.cons_ne_nil _ _)
  have stopped := noted.onward (.turn .stop) (List.cons_ne_nil _ _)
  have released := stopped.onward (.turn (.go rfl)) (List.cons_ne_nil _ _)
  have saved := released.onward (.turn (.answer rfl (by exact Except.ok ()))) (List.cons_ne_nil _ _)
  have episode : Gathering.Episode _ _ stoppedSigningIn _ _ := .later saved (.turn (.go rfl)) rfl
  have credible : ∀ deed ∈ stoppedSigningIn, IsCredible deed := by
    simp only [stoppedSigningIn,List.forall_mem_cons]
    exact ⟨fun _ => rfl,fun _ => rfl,trivial,trivial,fun _ => rfl,trivial,fun _ member => by cases member⟩
  refine ⟨attended.run.reachable,rfl,rfl,awaited_takes,_,_,episode,credible,rfl,rfl,?_⟩
  rintro (⟨running,_⟩ | ⟨failed,_⟩)
  · cases running
  · cases failed

end Statechart.Login
