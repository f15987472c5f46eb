import Statechart.Interpreter

/-!
# Runs: what happens to an interpreter from one moment to the next

A deed is one thing that a caller, a callback, a listener, the host or the clock does to an
interpreter. Whoever calls may be kept waiting in the middle of a callback while somebody else calls
in, so the callers of an interpreter form a gathering: the calls of the one whose turn it is are on
the stack, and the calls of the others are kept until they have their turn.

Deeds are taken to be indivisible, as the calls and the ticks of an interpreter are: the turn passes
on between two deeds and never within one. Runs in which two threads meet within a deed, one of which
has reset the core, say, and not yet given up the flag, are not described.
-/
namespace Statechart

variable {M : Machine}

/-! ## Answering a dialogue -/

namespace Dialogue

variable {Q : Type} {A : Q → Type} {α β : Type}

/-- The answers, given one after another, lead from a dialogue to what is left of it. -/
inductive Leads : Dialogue Q A α → List (Sigma A) → Dialogue Q A α → Prop where
  | here (dialogue : Dialogue Q A α) : Leads dialogue [] dialogue
  | answer {question : Q} {next : A question → Dialogue Q A α} {given : A question}
      {answers : List (Sigma A)} {rest : Dialogue Q A α} :
      Leads (next given) answers rest → Leads (.ask question next) (⟨question,given⟩ :: answers) rest

theorem Leads.trans {first second third : Dialogue Q A α} {given more : List (Sigma A)}
    (leads : first.Leads given second) (further : second.Leads more third) :
    first.Leads (given ++ more) third := by
  induction leads with
  | here => exact further
  | answer _ ih => exact .answer (ih further)

/-- The same answers lead to the same end. -/
theorem Leads.unique {dialogue rest : Dialogue Q A α} {given : List (Sigma A)} {result : α}
    (ends : dialogue.Leads given (.done result)) (leads : dialogue.Leads given rest) : rest = .done result := by
  generalize reached : Dialogue.done result = last at ends
  induction ends with
  | here => cases leads; rfl
  | answer _ ih =>
    cases leads with
    | answer further => exact ih further reached

end Dialogue

/-! ## Deeds -/

/-- One thing that somebody does to an interpreter. -/
inductive Deed (M : Machine) where
  | start (clocked : Bool)
  | send (signal : M.Signal)
  | stop
  | subscribe (listener : M.Listener)
  | unsubscribe (number : Nat)
  /-- The host answers the callback that a macrostep has come to. -/
  | answer (query : Query M) (given : query.Answer)
  /-- A listener that was called with a snapshot returns. -/
  | told (number : Nat) (snapshot : Snapshot M.State M.Context)
  /-- The call on top of the stack goes on by itself. -/
  | go
  /-- The clock lets the activity at a place go on to its next sleep. -/
  | sleep (place : Nat) (later : Activity M)
  /-- The clock lets the activity at a place end, and its outcome is delivered. -/
  | deliver (place : Nat) (event : Event M)
  /-- Another caller has its turn. -/
  | yield

/-- What may become of an activity that goes to sleep. -/
inductive Activity.Continues : Activity M → Activity M → Prop where
  | timer (origin : Origin M) (span due : Nat) :
      Continues ⟨origin,.timer span,.queued⟩ ⟨origin,.timer span,.asleep due⟩
  | service (origin : Origin M) (task rest : M.Task) (phase : Phase) (due : Nat) :
      Continues ⟨origin,.service task,phase⟩ ⟨origin,.service rest,.asleep due⟩

/-- The events that an activity may end with. -/
inductive Activity.EndsWith : Activity M → Event M → Prop where
  | timer (origin : Origin M) (span due : Nat) :
      EndsWith ⟨origin,.timer span,.asleep due⟩ (.elapsed origin)
  | service (origin : Origin M) (task : M.Task) (phase : Phase) (outcome : Except M.Error M.Output) :
      EndsWith ⟨origin,.service task,phase⟩ (.ofOutcome origin outcome)

/-- A deed of the caller whose turn it is, of its host or of the clock. -/
inductive Turn (self : Interpreter M) : Deed M → Interpreter M → Prop where
  | start (clocked : Bool) : Turn self (.start clocked) (self.start clocked).1
  | send (signal : M.Signal) : Turn self (.send signal) (self.post (.signal signal)).1
  | stop : Turn self .stop self.stop.1
  | subscribe (listener : M.Listener) : Turn self (.subscribe listener) (self.subscribe listener).2
  | unsubscribe (number : Nat) : Turn self (.unsubscribe number) (self.unsubscribe number).2
  | answer {query : Query M} {next : query.Answer → Pending M}
      (asked : self.prompt = some (.query query next)) (given : query.Answer) :
      Turn self (.answer query given) (self.resume (next given))
  | told {snapshot : Snapshot M.State M.Context} {entry : Nat × M.Listener}
      {unheard : List (Nat × M.Listener)} {sequel : Sequel} {below : List (Frame M)}
      (top : self.stack = .publishing snapshot (entry :: unheard) sequel :: below) :
      Turn self (.told entry.1 snapshot) self.notified
  | go (free : self.prompt = none) : Turn self .go self.tick.1
  | sleep {place : Nat} {activity later : Activity M}
      (found : self.core.activities[place]? = some activity) (continues : activity.Continues later) :
      Turn self (.sleep place later) (self.setActivity place (some later))
  | deliver {place : Nat} {activity : Activity M} {event : Event M}
      (found : self.core.activities[place]? = some activity) (ends : activity.EndsWith event) :
      Turn self (.deliver place event) ((self.setActivity place none).post event).1

/-! ## Several callers -/

/-- An interpreter and its callers: the calls of the one whose turn it is are on the stack of the
interpreter, those of the others wait. -/
structure Gathering (M : Machine) where
  self : Interpreter M
  waiting : List (List (Frame M))

/-- What a deed leads to. Only yielding concerns the callers that wait: one of them, or a caller that
has no call in progress yet, has its turn. So the turn passes on between two deeds, never within one. -/
inductive Gathering.Moves : Gathering M → Deed M → Gathering M → Prop where
  | turn {self next : Interpreter M} {deed : Deed M} {waiting : List (List (Frame M))} :
      Turn self deed next → Moves ⟨self,waiting⟩ deed ⟨next,waiting⟩
  | back {self : Interpreter M} {stack : List (Frame M)} {before after : List (List (Frame M))} :
      Moves ⟨self,before ++ stack :: after⟩ .yield ⟨{ self with stack },before ++ self.stack :: after⟩
  | join {self : Interpreter M} {waiting : List (List (Frame M))} :
      Moves ⟨self,waiting⟩ .yield ⟨{ self with stack := [] },self.stack :: waiting⟩

theorem Gathering.Moves.of_go {here next : Gathering M} (moves : here.Moves .go next) :
    next = ⟨here.self.tick.1,here.waiting⟩ := by
  cases moves with
  | turn turn => cases turn with | go _ => rfl

/-- A macrostep that is being computed. -/
def Frame.isMacrostep : Frame M → Bool
  | .starting _ => true
  | .reacting _ _ _ _ => true
  | _ => false

/-- A part of a start or of a drain, for whose sake the flag is held. -/
def Frame.holdsFlag : Frame M → Bool
  | .publishing _ _ _ => false
  | _ => true

theorem Frame.holdsFlag_of_isMacrostep {frame : Frame M} (macrostep : frame.isMacrostep = true) :
    frame.holdsFlag = true := by
  cases frame with
  | publishing _ _ _ => cases macrostep
  | _ => rfl

namespace Gathering

/-- The calls in progress of all callers. -/
def frames (gathering : Gathering M) : List (Frame M) :=
  gathering.self.stack ++ gathering.waiting.flatten

/-- The macrosteps in progress, of whichever caller. -/
def macrosteps (gathering : Gathering M) : List (Frame M) :=
  gathering.frames.filter Frame.isMacrostep

/-- An interpreter that nobody has called yet. -/
def fresh (graph : Graph M) (options : Options) : Gathering M := ⟨.fresh graph options,[]⟩

end Gathering

/-! ## Notes -/

/-- What an onlooker notes down. -/
inductive Note (M : Machine) where
  /-- A snapshot was produced, when the listeners of these numbers were registered. -/
  | produced (snapshot : Snapshot M.State M.Context) (numbers : List Nat)
  /-- The listener of a number was called with a snapshot. -/
  | heard (number : Nat) (snapshot : Snapshot M.State M.Context)

/-- The first of the listeners that are still to hear of a snapshot is called at once. -/
def calls (snapshot : Snapshot M.State M.Context) : List (Nat × M.Listener) → List (Note M)
  | [] => []
  | entry :: _ => [.heard entry.1 snapshot]

/-- The notes on a deed. A snapshot has been produced when there is one more delivery on the stack
than before. -/
def Interpreter.notes (self next : Interpreter M) : Deed M → List (Note M)
  | .yield => []
  | .told _ _ =>
    match next.stack with
    | .publishing snapshot unheard _ :: _ => calls snapshot unheard
    | _ => []
  | _ =>
    match next.stack with
    | .publishing snapshot unheard _ :: below =>
      if below.length = self.stack.length then
        .produced snapshot self.registry.numbers :: calls snapshot unheard
      else []
    | _ => []

/-- The snapshots that have been produced according to the notes. -/
def produced (log : List (Note M)) : List (Snapshot M.State M.Context) :=
  log.filterMap fun
    | .produced snapshot _ => some snapshot
    | .heard _ _ => none

@[simp] theorem produced_cons (snapshot : Snapshot M.State M.Context) (numbers : List Nat) (log : List (Note M)) :
    produced (.produced snapshot numbers :: log) = snapshot :: produced log := rfl

@[simp] theorem produced_calls (snapshot : Snapshot M.State M.Context) (unheard : List (Nat × M.Listener)) :
    produced (calls snapshot unheard) = [] := by
  cases unheard <;> rfl

theorem produced_append (log more : List (Note M)) : produced (log ++ more) = produced log ++ produced more :=
  List.filterMap_append

/-- Where the stack does not grow, nothing is noted down, unless a listener returns. -/
theorem Interpreter.notes_eq_nil {self next : Interpreter M} {deed : Deed M}
    (shrinks : next.stack.length ≤ self.stack.length) (untold : ∀ number snapshot, deed ≠ .told number snapshot) :
    self.notes next deed = [] := by
  unfold notes
  split
  · rfl
  · rename_i number snapshot
    exact absurd rfl (untold number snapshot)
  · split
    · rename_i below grown
      rw [grown,List.length_cons] at shrinks
      exact if_neg (by omega)
    · rfl

theorem Interpreter.produced_notes {self next : Interpreter M} {deed : Deed M}
    (shrinks : next.stack.length ≤ self.stack.length) : produced (self.notes next deed) = [] := by
  cases deed with
  | told number snapshot =>
    simp only [notes]
    split
    · exact produced_calls _ _
    · rfl
  | _ => rw [notes_eq_nil shrinks (by simp)]; rfl

/-! ## Runs -/

namespace Gathering

/-- Deeds one after another, with the notes on them. -/
inductive Path (first : Gathering M) :
    List (Deed M) → List (Note M) → Gathering M → Prop where
  | here : Path first [] [] first
  | onward {deeds : List (Deed M)} {log : List (Note M)} {deed : Deed M} {here next : Gathering M} :
      Path first deeds log here → here.Moves deed next →
        Path first (deeds ++ [deed]) (log ++ here.self.notes next.self deed) next

/-- A moment in the life of an interpreter that began with nobody having called it. -/
def Reachable (graph : Graph M) (options : Options) (gathering : Gathering M) : Prop :=
  ∃ deeds log, (fresh graph options).Path deeds log gathering

/-- A deed, done where no macrostep is in progress, begins one that has been in progress ever since. -/
inductive Underway (first : Gathering M) (beginning : Deed M) :
    List (Deed M) → List (Note M) → Gathering M → Prop where
  | begun {next : Gathering M} :
      first.macrosteps = [] → first.Moves beginning next → next.macrosteps ≠ [] →
        Underway first beginning [] (first.self.notes next.self beginning) next
  | onward {deeds : List (Deed M)} {log : List (Note M)} {deed : Deed M} {here next : Gathering M} :
      Underway first beginning deeds log here → here.Moves deed next → next.macrosteps ≠ [] →
        Underway first beginning (deeds ++ [deed]) (log ++ here.self.notes next.self deed) next

/-- A deed and what follows it, up to the first moment at which no macrostep is in progress. -/
inductive Episode (first : Gathering M) (beginning : Deed M) :
    List (Deed M) → List (Note M) → Gathering M → Prop where
  | atOnce {next : Gathering M} :
      first.macrosteps = [] → first.Moves beginning next → next.macrosteps = [] →
        Episode first beginning [] (first.self.notes next.self beginning) next
  | later {deeds : List (Deed M)} {log : List (Note M)} {deed : Deed M} {here next : Gathering M} :
      Underway first beginning deeds log here → here.Moves deed next → next.macrosteps = [] →
        Episode first beginning (deeds ++ [deed]) (log ++ here.self.notes next.self deed) next

theorem Underway.path {first here : Gathering M} {beginning : Deed M} {deeds : List (Deed M)}
    {log : List (Note M)} (underway : first.Underway beginning deeds log here) :
    first.Path (beginning :: deeds) log here := by
  induction underway with
  | begun _ moves _ => exact Path.here.onward moves
  | onward _ moves _ ih => exact ih.onward moves

theorem Episode.path {first next : Gathering M} {beginning : Deed M} {deeds : List (Deed M)}
    {log : List (Note M)} (episode : first.Episode beginning deeds log next) :
    first.Path (beginning :: deeds) log next := by
  cases episode with
  | atOnce _ moves _ => exact Path.here.onward moves
  | later underway moves _ => exact underway.path.onward moves

theorem Episode.no_macrostep {first next : Gathering M} {beginning : Deed M} {deeds : List (Deed M)}
    {log : List (Note M)} (episode : first.Episode beginning deeds log next) : next.macrosteps = [] := by
  cases episode with
  | atOnce _ _ past => exact past
  | later _ _ past => exact past

end Gathering

/-- The answers that a host gave. -/
def answers (deeds : List (Deed M)) : List ((query : Query M) × query.Answer) :=
  deeds.filterMap fun
    | .answer query given => some ⟨query,given⟩
    | _ => none

theorem answers_append (deeds more : List (Deed M)) : answers (deeds ++ more) = answers deeds ++ answers more :=
  List.filterMap_append

/-- The events that callers sent. -/
def sent (deeds : List (Deed M)) : List (Event M) :=
  deeds.filterMap fun
    | .send signal => some (.signal signal)
    | _ => none

/-- The registry after a deed that subscribes or unsubscribes a listener. -/
def Deed.enrol (registry : Registry M.Listener) : Deed M → Registry M.Listener
  | .subscribe listener => (registry.add listener).2
  | .unsubscribe number => registry.remove number
  | _ => registry

/-! ## What single operations do -/

namespace Interpreter

theorem start_cases (self : Interpreter M) (clocked : Bool) :
    (self.core.status ≠ .notStarted ∧ self.start clocked = (self,some (.started (.error .alreadyStarted)))) ∨
    (self.core.status = .notStarted ∧ self.start clocked = (self,some (.started (.error .noClock)))) ∨
    (self.core.status = .notStarted ∧ self.start clocked =
      ({ self with
          core := { self.core with status := .running, clocked }
          draining := true
          stack := .starting (self.graph.begin self.options.maxMicrosteps).run :: self.stack },none)) := by
  rw [start]
  by_cases unstarted : self.core.status = .notStarted
  · by_cases clockless : (!clocked && self.graph.requiresClock) = true
    · exact .inr (.inl ⟨unstarted,by simp [unstarted,clockless]⟩)
    · exact .inr (.inr ⟨unstarted,by simp [unstarted,clockless,push]⟩)
  · exact .inl ⟨unstarted,by simp [unstarted]⟩

theorem post_cases (self : Interpreter M) (event : Event M) :
    (self.core.status = .notStarted ∧ self.post event = (self,some (.posted (.error .notStarted)))) ∨
    (self.core.status ≠ .running ∧ self.post event = (self,some (.posted (.ok ())))) ∨
    (self.core.status = .running ∧ self.draining = true ∧ self.post event =
      ({ self with mailbox := self.mailbox ++ [event] },some (.posted (.ok ())))) ∨
    (self.core.status = .running ∧ self.draining = false ∧ self.post event =
      ({ self with
          mailbox := self.mailbox ++ [event]
          draining := true
          stack := .draining .poster none :: self.stack },none)) := by
  rw [post]
  cases status : self.core.status with
  | notStarted => exact .inl ⟨rfl,rfl⟩
  | running =>
    cases held : self.draining with
    | true => exact .inr (.inr (.inl ⟨rfl,rfl,by simp⟩))
    | false => exact .inr (.inr (.inr ⟨rfl,rfl,by simp [push]⟩))
  | done => exact .inr (.inl ⟨by simp,rfl⟩)
  | stopped => exact .inr (.inl ⟨by simp,rfl⟩)
  | failed => exact .inr (.inl ⟨by simp,rfl⟩)

theorem stop_cases (self : Interpreter M) :
    ((self.core.status = .stopped ∨ self.core.status = .failed) ∧ self.stop = (self,some .stopped)) ∨
    (self.core.status ≠ .stopped ∧ self.core.status ≠ .failed ∧
      self.stop = (self.close .stopped self.core.fault .stopped,none)) := by
  rw [stop]
  cases status : self.core.status with
  | stopped => exact .inl ⟨.inl rfl,rfl⟩
  | failed => exact .inl ⟨.inr rfl,rfl⟩
  | notStarted => exact .inr ⟨by simp,by simp,rfl⟩
  | running => exact .inr ⟨by simp,by simp,rfl⟩
  | done => exact .inr ⟨by simp,by simp,rfl⟩

/-- A callback of a macrostep is that of the macrostep on top of the stack. -/
theorem resume_cases {self : Interpreter M} {query : Query M} {next : query.Answer → Pending M}
    (asked : self.prompt = some (.query query next)) :
    (∃ below, self.stack = .starting (.ask query next) :: below ∧
      ∀ pending, self.resume pending = { self with stack := .starting pending :: below }) ∨
    (∃ drainer firstError event below, self.stack = .reacting drainer firstError event (.ask query next) :: below ∧
      ∀ pending, self.resume pending =
        { self with stack := .reacting drainer firstError event pending :: below }) := by
  rw [prompt] at asked
  split at asked
  · rename_i query' next' below top
    cases asked
    exact .inl ⟨below,top,fun pending => by rw [resume,top]⟩
  · rename_i drainer firstError event query' next' below top
    cases asked
    exact .inr ⟨drainer,firstError,event,below,top,fun pending => by rw [resume,top]⟩
  · cases asked
  · cases asked

theorem notified_eq {self : Interpreter M} {snapshot : Snapshot M.State M.Context}
    {entry : Nat × M.Listener} {unheard : List (Nat × M.Listener)} {sequel : Sequel}
    {below : List (Frame M)} (top : self.stack = .publishing snapshot (entry :: unheard) sequel :: below) :
    self.notified = { self with stack := .publishing snapshot unheard sequel :: below } := by
  rw [notified,top]

/-- The ways in which the call on top of the stack goes on. -/
inductive Ticks (self : Interpreter M) : Interpreter M → Prop where
  | startCommitted {step : Statechart.Step M} {below : List (Frame M)}
      (top : self.stack = .starting (.done (.ok step)) :: below) (admitted : self.core.admits step = true) :
      Ticks self { self with
        core := self.core.commit step
        stack := .publishing (self.core.commit step).snapshot self.registry.entries .startCommitted ::
          .draining (.start (self.core.commit step).snapshot) none :: below }
  | startOverruled {step : Statechart.Step M} {below : List (Frame M)}
      (top : self.stack = .starting (.done (.ok step)) :: below) (refused : self.core.admits step = false) :
      Ticks self { self with stack := .draining (.start self.core.snapshot) none :: below }
  | startFailed {failure : Failure M.State} {below : List (Frame M)}
      (top : self.stack = .starting (.done (.error failure)) :: below) :
      Ticks self { self with
        core := { self.core with status := .notStarted, clocked := false }
        mailbox := []
        draining := false
        stack := below }
  | drained {drainer : Drainer M} {firstError : Option (Failure M.State)} {below : List (Frame M)}
      (top : self.stack = .draining drainer firstError :: below) (empty : self.mailbox = []) :
      Ticks self { self with draining := false, stack := below }
  | taken {drainer : Drainer M} {firstError : Option (Failure M.State)} {event : Event M}
      {rest : List (Event M)} {below : List (Frame M)}
      (top : self.stack = .draining drainer firstError :: below) (mail : self.mailbox = event :: rest)
      (running : self.core.status = .running) (accepted : self.core.accepts event = true) :
      Ticks self { self with
        mailbox := rest
        stack := .reacting drainer firstError event
          (self.graph.react self.options.maxMicrosteps self.core.state self.core.context event).run ::
          below }
  | dropped {drainer : Drainer M} {firstError : Option (Failure M.State)} {event : Event M}
      {rest : List (Event M)} {below : List (Frame M)}
      (top : self.stack = .draining drainer firstError :: below) (mail : self.mailbox = event :: rest)
      (refused : ¬ (self.core.status = .running ∧ self.core.accepts event = true)) :
      Ticks self { self with mailbox := rest }
  | stepCommitted {drainer : Drainer M} {firstError : Option (Failure M.State)} {event : Event M}
      {step : Statechart.Step M} {below : List (Frame M)}
      (top : self.stack = .reacting drainer firstError event (.done (.ok step)) :: below)
      (admitted : self.core.admits step = true) :
      Ticks self { self with
        core := self.core.commit step
        stack := .publishing (self.core.commit step).snapshot self.registry.entries .stepCommitted ::
          .draining drainer firstError :: below }
  | stepOverruled {drainer : Drainer M} {firstError : Option (Failure M.State)} {event : Event M}
      {step : Statechart.Step M} {below : List (Frame M)}
      (top : self.stack = .reacting drainer firstError event (.done (.ok step)) :: below)
      (refused : self.core.admits step = false) :
      Ticks self { self with stack := .draining drainer firstError :: below }
  | faulted {drainer : Drainer M} {firstError : Option (Failure M.State)} {event : Event M}
      {failure : Failure M.State} {below : List (Frame M)}
      (top : self.stack = .reacting drainer firstError event (.done (.error failure)) :: below)
      (outcome : event.origin.isSome = true) (running : self.core.status = .running) :
      Ticks self { self with
        core := self.core.close .failed (some failure)
        mailbox := []
        stack := .publishing (self.core.close .failed (some failure)).snapshot self.registry.entries
          .faulted :: .draining drainer (some (firstError.getD failure)) :: below }
  | stepFailed {drainer : Drainer M} {firstError : Option (Failure M.State)} {event : Event M}
      {failure : Failure M.State} {below : List (Frame M)}
      (top : self.stack = .reacting drainer firstError event (.done (.error failure)) :: below)
      (spared : ¬ (event.origin.isSome = true ∧ self.core.status = .running)) :
      Ticks self { self with stack := .draining drainer (some (firstError.getD failure)) :: below }
  | released {snapshot : Snapshot M.State M.Context} {sequel : Sequel} {below : List (Frame M)}
      (top : self.stack = .publishing snapshot [] sequel :: below)
      (last : sequel = .stopped ∨ sequel = .faulted) :
      Ticks self { self with registry := self.registry.clear, stack := below }
  | heard {snapshot : Snapshot M.State M.Context} {sequel : Sequel} {below : List (Frame M)}
      (top : self.stack = .publishing snapshot [] sequel :: below)
      (more : sequel = .startCommitted ∨ sequel = .stepCommitted) :
      Ticks self { self with stack := below }
  | idle (still : self.stack = [] ∨ self.prompt ≠ none) : Ticks self self

theorem ticks (self : Interpreter M) : self.Ticks self.tick.1 := by
  rw [tick]
  split
  · rename_i step below top
    cases admitted : self.core.admits step with
    | true => simpa [finishStart,admitted,publish,push] using Ticks.startCommitted top admitted
    | false => simpa [finishStart,admitted] using Ticks.startOverruled top admitted
  · rename_i failure below top
    exact .startFailed top
  · rename_i drainer firstError below top
    split
    · rename_i empty
      exact .drained top empty
    · rename_i event rest mail
      by_cases handled : self.core.status = .running ∧ self.core.accepts event = true
      · simpa [processNext,handled] using Ticks.taken top mail handled.1 handled.2
      · have dropped : (decide (self.core.status = .running) && self.core.accepts event) = false := by
          simpa using handled
        simpa [processNext,dropped] using Ticks.dropped top mail handled
  · rename_i drainer firstError event step below top
    cases admitted : self.core.admits step with
    | true => simpa [finishStep,admitted,publish,push] using Ticks.stepCommitted top admitted
    | false => simpa [finishStep,admitted] using Ticks.stepOverruled top admitted
  · rename_i drainer firstError event failure below top
    by_cases ends : event.origin.isSome = true ∧ self.core.status = .running
    · simpa [abandonStep,ends,close,publish,push] using Ticks.faulted top ends.1 ends.2
    · have spared : (event.origin.isSome && decide (self.core.status = .running)) = false := by
        simpa using ends
      simpa [abandonStep,spared] using Ticks.stepFailed top ends
  · rename_i snapshot below top
    exact .released top (.inl rfl)
  · rename_i snapshot below top
    exact .released top (.inr rfl)
  · rename_i snapshot sequel below notStopped notFaulted top
    cases sequel with
    | startCommitted => exact .heard top (.inl rfl)
    | stepCommitted => exact .heard top (.inr rfl)
    | stopped => exact absurd rfl notStopped
    | faulted => exact absurd rfl notFaulted
  · rename_i notEntered notFailed notDraining notReacted notSpoilt notReleased notFaulted notHeard
    apply Ticks.idle
    rw [prompt]
    match stack : self.stack with
    | [] => exact .inl rfl
    | .starting (.ask _ _) :: _ => exact .inr (by simp)
    | .starting (.done (.ok _)) :: _ => exact absurd stack (notEntered _ _)
    | .starting (.done (.error _)) :: _ => exact absurd stack (notFailed _ _)
    | .draining _ _ :: _ => exact absurd stack (notDraining _ _ _)
    | .reacting _ _ _ (.ask _ _) :: _ => exact .inr (by simp)
    | .reacting _ _ _ (.done (.ok _)) :: _ => exact absurd stack (notReacted _ _ _ _ _)
    | .reacting _ _ _ (.done (.error _)) :: _ => exact absurd stack (notSpoilt _ _ _ _ _)
    | .publishing _ [] _ :: _ => exact absurd stack (notHeard _ _ _)
    | .publishing _ (_ :: _) _ :: _ => exact .inr (by simp)

end Interpreter

end Statechart
