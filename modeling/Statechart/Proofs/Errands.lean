import Statechart.Proofs.Drains
import Statechart.Proofs.Reactions

/-!
# Errands: what a send has to show for itself

What a drain returns as a failure is the failure of an event that somebody has processed (`Trail.first_error`). If a
send finds nobody at work, and nothing else comes in until it returns, it has processed its own event and nothing
else: what it returns is what came of that one macrostep (`undisturbed_send`), and it can always be carried to its
end (`Idle.send_completes`).
-/
namespace Statechart

variable {M : Machine} {graph : Graph M} {options : Options}

/-! ## Failures that have been noted -/

/-- The failure that a drain has met first. -/
def Frame.firstError? (frame : Frame M) : Option (Failure M.State) := frame.drain?.bind Prod.snd

section
variable {self next : Interpreter M} {failure : Failure M.State}

/-- Some call in progress bears this failure. -/
def Bears (stack : List (Frame M)) (failure : Failure M.State) : Prop :=
  ∃ frame ∈ stack, frame.firstError? = some failure

theorem Bears.of_pushed {call : Frame M} {below : List (Frame M)} (bears : Bears (call :: below) failure)
    (clean : call.firstError? = none) : Bears below failure := by
  obtain ⟨frame,member,noted⟩ := bears
  rcases List.mem_cons.mp member with rfl | old
  · rw [clean] at noted
    cases noted
  · exact ⟨frame,old,noted⟩

theorem Bears.of_replaced {top other : Frame M} {below : List (Frame M)} (bears : Bears (other :: below) failure)
    (same : other.firstError? = none ∨ other.firstError? = top.firstError?) : Bears (top :: below) failure := by
  obtain ⟨frame,member,noted⟩ := bears
  rcases List.mem_cons.mp member with rfl | deeper
  · rcases same with clean | same
    · rw [clean] at noted
      cases noted
    · exact ⟨top,List.mem_cons_self,same.symm.trans noted⟩
  · exact ⟨frame,List.mem_cons_of_mem _ deeper,noted⟩

theorem Bears.deeper {top : Frame M} {below : List (Frame M)} (bears : Bears below failure) :
    Bears (top :: below) failure := by
  obtain ⟨frame,member,noted⟩ := bears
  exact ⟨frame,List.mem_cons_of_mem _ member,noted⟩

/-- Whoever calls in adds no failure. -/
theorem Turn.bears {deed : Deed M} (turn : Turn self deed next) (still : deed ≠ .go) (bears : Bears next.stack failure) :
    Bears self.stack failure := by
  have posted : ∀ {self : Interpreter M} (event : Event M), Bears (self.post event).1.stack failure →
      Bears self.stack failure := by
    intro self event bears
    rcases self.post_cases event with ⟨_,result⟩ | ⟨_,result⟩ | ⟨_,_,result⟩ | ⟨_,_,result⟩ <;> rw [result] at bears
    · exact bears
    · exact bears
    · exact bears
    · exact bears.of_pushed rfl
  cases turn with
  | start clocked =>
    rcases self.start_cases clocked with ⟨_,result⟩ | ⟨_,result⟩ | ⟨_,result⟩ <;> rw [result] at bears
    · exact bears
    · exact bears
    · exact bears.of_pushed rfl
  | send signal => exact posted _ bears
  | stop =>
    rcases self.stop_cases with ⟨_,result⟩ | ⟨_,_,result⟩ <;> rw [result] at bears
    · exact bears
    · exact bears.of_pushed rfl
  | subscribe listener => exact bears
  | unsubscribe number => exact bears
  | answer asked given =>
    rcases Interpreter.resume_cases asked with ⟨_,top,resumed⟩ | ⟨_,_,_,_,top,resumed⟩ <;> rw [resumed] at bears <;>
      rw [top] <;> exact bears.of_replaced (.inr rfl)
  | told top =>
    rw [Interpreter.notified_eq top] at bears
    rw [top]
    exact bears.of_replaced (.inr rfl)
  | go _ => exact absurd rfl still
  | sleep _ _ => exact bears
  | @deliver place _ event _ _ => exact @posted (self.setActivity place none) event bears

/-- When the call on top goes on, a failure is noted if a macrostep has come to it, unless another one has been
noted before. -/
theorem Interpreter.tick_bears (self : Interpreter M) (waiting : List (List (Frame M)))
    (bears : Bears self.tick.1.stack failure) :
    Bears self.stack failure ∨ (⟨⟨self,waiting⟩,.go⟩ : Moment M).failure? = some failure := by
  have noted : ∀ {drainer firstError event other below},
      self.stack = .reacting drainer firstError event (.done (.error other)) :: below →
      Bears (.draining drainer (some (firstError.getD other)) :: below) failure →
      Bears self.stack failure ∨ (⟨⟨self,waiting⟩,.go⟩ : Moment M).failure? = some failure := by
    intro drainer firstError event other below top bears
    have fails : (⟨⟨self,waiting⟩,.go⟩ : Moment M).failure? = some other :=
      Moment.failure?_eq_some_iff.mpr ⟨event,Moment.concluded?_eq_some_iff.mpr ⟨rfl,_,_,_,top⟩⟩
    rw [top]
    cases firstError with
    | some first => exact .inl (bears.of_replaced (.inr rfl))
    | none =>
      obtain ⟨frame,member,met⟩ := bears
      rcases List.mem_cons.mp member with rfl | deeper
      · cases met
        exact .inr fails
      · exact .inl ⟨frame,List.mem_cons_of_mem _ deeper,met⟩
  have ticks := self.ticks
  generalize self.tick.1 = next at ticks bears
  cases ticks with
  | startCommitted top _ =>
    rw [top]
    exact .inl ((bears.of_pushed rfl).of_pushed rfl).deeper
  | startOverruled top _ =>
    rw [top]
    exact .inl (bears.of_replaced (.inl rfl))
  | startFailed top =>
    rw [top]
    exact .inl bears.deeper
  | drained top _ =>
    rw [top]
    exact .inl bears.deeper
  | taken top _ _ _ =>
    rw [top]
    exact .inl (bears.of_replaced (.inr rfl))
  | dropped _ _ _ => exact .inl bears
  | stepCommitted top _ =>
    rw [top]
    exact .inl ((bears.of_pushed rfl).of_replaced (.inr rfl))
  | stepOverruled top _ =>
    rw [top]
    exact .inl (bears.of_replaced (.inr rfl))
  | faulted top _ _ => exact noted top (bears.of_pushed rfl)
  | stepFailed top _ => exact noted top bears
  | released top _ =>
    rw [top]
    exact .inl bears.deeper
  | heard top _ =>
    rw [top]
    exact .inl bears.deeper
  | idle _ => exact .inl bears

end

namespace Gathering

variable {first here next last : Gathering M} {deed : Deed M} {trail more : List (Moment M)}

theorem Moves.bears (moves : here.Moves deed next) {failure : Failure M.State} (bears : Bears next.frames failure) :
    Bears here.frames failure ∨ (⟨here,deed⟩ : Moment M).failure? = some failure := by
  have lift : ∀ {frames : List (Frame M)}, (∀ frame ∈ next.frames, frame ∈ frames) → Bears frames failure :=
    fun within => bears.imp fun frame found => ⟨within frame found.1,found.2⟩
  cases moves with
  | @turn self next deed waiting turn =>
    obtain ⟨frame,member,noted⟩ := bears
    rcases List.mem_append.mp member with own | waits
    · have before : Bears self.stack failure ∨ (⟨⟨self,waiting⟩,deed⟩ : Moment M).failure? = some failure := by
        by_cases go : deed = .go
        · subst go
          cases turn with
          | go _ => exact self.tick_bears waiting ⟨frame,own,noted⟩
        · exact .inl (turn.bears go ⟨frame,own,noted⟩)
      exact before.imp_left fun ⟨earlier,among,met⟩ => ⟨earlier,List.mem_append_left _ among,met⟩
    · exact .inl ⟨frame,List.mem_append_right _ waits,noted⟩
  | back =>
    refine .inl (lift fun frame member => ?_)
    simp only [frames,List.flatten_append,List.flatten_cons,List.mem_append] at member ⊢
    tauto
  | join =>
    refine .inl (lift fun frame member => ?_)
    simpa [frames] using member

/-- A failure that a drain has met is that of an event that has been processed. -/
theorem Trail.first_error (run : (fresh graph options).Trail trail here) {failure : Failure M.State}
    (bears : Bears here.frames failure) : failure ∈ failures trail := by
  induction run with
  | here =>
    obtain ⟨_,member,_⟩ := bears
    cases member
  | @onward trail deed here next _ moves ih =>
    rw [failures,List.filterMap_append,List.mem_append]
    rcases moves.bears bears with before | now
    · exact .inl (ih before)
    · exact .inr (List.mem_filterMap.mpr ⟨_,List.mem_singleton_self _,now⟩)

end Gathering

/-! ## Failures that are reported -/

/-- The failure that a reply tells of. -/
def Reply.failure? : Reply M → Option (Failure M.State)
  | .started (.error failure) => some failure
  | .posted (.error failure) => some failure
  | _ => none

/-- A failure that an interpreter reports: a call returns it, at once or when it has come to its end, or the
interpreter has faulted with it. -/
inductive Interpreter.Reports (self : Interpreter M) (failure : Failure M.State) : Prop where
  | atOnce {call : Call M} {reply : Reply M} (enters : (self.enter call).2 = some reply)
      (fails : reply.failure? = some failure)
  | later {reply : Reply M} (returns : self.tick.2 = some reply) (fails : reply.failure? = some failure)
  | fault (faulted : self.core.fault = some failure)

namespace Interpreter

variable {self : Interpreter M} {call : Call M} {reply : Reply M} {failure : Failure M.State}

/-- An event is turned down only by an interpreter that has not been started. -/
theorem post_fails {event : Event M} (returns : (self.post event).2 = some reply) (fails : reply.failure? = some failure) :
    failure = .notStarted ∧ self.core.status = .notStarted := by
  rcases self.post_cases event with ⟨unstarted,result⟩ | ⟨_,result⟩ | ⟨_,_,result⟩ | ⟨_,_,result⟩ <;>
    rw [result] at returns
  · cases returns; cases fails; exact ⟨rfl,unstarted⟩
  · cases returns; cases fails
  · cases returns; cases fails
  · cases returns

/-- What fails at once is a start of an interpreter that has been started, a start without a clock, or a call to an
interpreter that has not been started. -/
theorem enter_fails (enters : (self.enter call).2 = some reply) (fails : reply.failure? = some failure) :
    failure = .alreadyStarted ∨ failure = .noClock ∨ failure = .notStarted ∧ self.core.status = .notStarted := by
  cases call with
  | start clocked =>
    rw [enter] at enters
    rcases self.start_cases clocked with ⟨_,result⟩ | ⟨_,result⟩ | ⟨_,result⟩ <;> rw [result] at enters
    · cases enters; cases fails; exact .inl rfl
    · cases enters; cases fails; exact .inr (.inl rfl)
    · cases enters
  | post event => exact .inr (.inr (post_fails enters fails))
  | stop =>
    rw [enter] at enters
    rcases self.stop_cases with ⟨_,result⟩ | ⟨_,_,result⟩ <;> rw [result] at enters
    · cases enters; cases fails
    · cases enters

/-- What fails later is a start whose macrostep has failed, or a drain that has met a failure. -/
theorem tick_fails (returns : self.tick.2 = some reply) (fails : reply.failure? = some failure) :
    (∃ below, self.stack = .starting (.done (.error failure)) :: below) ∨
      ∃ below, self.stack = .draining .poster (some failure) :: below := by
  rw [tick] at returns
  split at returns
  case h_2 other below top =>
    cases returns
    cases fails
    exact .inl ⟨below,top⟩
  case h_3 drainer firstError below top =>
    split at returns
    · cases drainer with
      | start _ => cases returns; cases fails
      | poster =>
        cases firstError with
        | none => cases returns; cases fails
        | some first => cases returns; cases fails; exact .inr ⟨below,top⟩
    · cases returns
  all_goals cases returns
  all_goals cases fails

end Interpreter

/-- A start has returned with success. -/
def HasStarted (trail : List (Moment M)) : Prop :=
  ∃ moment ∈ trail, ∃ snapshot, moment.reply? = some (.started (.ok snapshot))

namespace Gathering

variable {here next : Gathering M} {deed : Deed M} {trail : List (Moment M)}

/-- An interpreter that has been started, and is not being started any more, stays one. -/
theorem Moves.past_start (moves : here.Moves deed next) (sound : Sound graph options here.self here.waiting.flatten)
    (started : here.self.core.status ≠ .notStarted) (past : ∀ pending, .starting pending ∉ here.macrosteps) :
    next.self.core.status ≠ .notStarted ∧ ∀ pending, .starting pending ∉ next.macrosteps := by
  constructor
  · have changes := moves.changes
    generalize next.self.core = core at changes ⊢
    cases changes with
    | kept _ => exact started
    | begun unstarted _ => exact absurd unstarted started
    | committed commits => rcases Core.status_commit commits.1 with status | status <;> simp [status]
    | undone top =>
      exact absurd (List.mem_filter.mpr ⟨List.mem_append_left _ (by rw [top]; exact List.mem_cons_self),rfl⟩) (past _)
    | closed _ ended => exact (Status.past_of_ended ended).2
    | slept _ _ => exact started
    | ended _ _ => exact started
  · intro pending member
    rcases moves.course sound with ⟨_,none⟩ | ⟨_,frame,begins,one⟩ | ⟨frame,later,before,one,advances⟩ | ⟨_,_,none,_⟩
    · rw [none] at member; cases member
    · rw [one,List.mem_singleton] at member
      subst member
      cases begins with
      | start _ unstarted => exact started unstarted
    · rw [one,List.mem_singleton] at member
      subst member
      cases advances with
      | starting _ => exact past _ (by rw [before]; exact List.mem_singleton_self _)
    · rw [none] at member; cases member

/-- Once a start has succeeded, the interpreter is one that has been started. -/
theorem Trail.stays_started (run : (fresh graph options).Trail trail here) (has : HasStarted trail) :
    here.self.core.status ≠ .notStarted ∧ ∀ pending, .starting pending ∉ here.macrosteps := by
  induction run with
  | here =>
    obtain ⟨_,member,_⟩ := has
    cases member
  | @onward trail deed here next run moves ih =>
    have sound := run.reachable.sound
    obtain ⟨moment,member,snapshot,returns⟩ := has
    rcases List.mem_append.mp member with earlier | now
    · obtain ⟨started,past⟩ := ih ⟨moment,earlier,snapshot,returns⟩
      exact moves.past_start sound started past
    · rw [List.mem_singleton] at now
      subst now
      obtain ⟨_,_,_,_,_,replies⟩ := Moment.reply?_eq_some_iff.mp returns
      obtain ⟨firstError,below,top⟩ := Interpreter.top_of_started replies
      simp only at top
      refine moves.past_start sound ?_ ?_
      · intro unstarted
        have free := sound.free (sound.unstarted unstarted).1 (.draining (.start snapshot) firstError) (by rw [top]; simp)
        cases free
      · have none := sound.no_other top rfl
        intro pending member
        rw [macrosteps,frames,top,List.cons_append,List.filter_cons_of_neg (by simp [Frame.isMacrostep]),none] at member
        cases member

end Gathering

/-! ## Sends that nobody disturbs -/

/-- Nothing comes in at a moment, and nobody stops the interpreter. -/
def Moment.IsUneventful (moment : Moment M) : Prop := moment.accepted? = none ∧ moment.deed ≠ .stop

namespace Gathering

variable {first here next last : Gathering M} {deed : Deed M} {trail more : List (Moment M)} {base : List (Frame M)}
  {drainer : Drainer M} {firstError : Option (Failure M.State)} {core : Core M} {event : Event M} {script : Pending M}

/-- While no macrostep is in progress, only a first start, a stop and the clock do anything to the core. -/
theorem Moves.core_of_idle (moves : here.Moves deed next) (idle : here.macrosteps = [])
    (started : here.self.core.status ≠ .notStarted) (unstopped : deed ≠ .stop) :
    next.self.core = { here.self.core with activities := deed.tend here.self.core.activities } := by
  cases moves with
  | @turn self next deed waiting turn =>
    have elsewhere : ∀ {frame : Frame M} {below : List (Frame M)}, self.stack = frame :: below →
        frame.isMacrostep = true → False := by
      intro frame below top macrostep
      rw [macrosteps,List.filter_eq_nil_iff] at idle
      exact idle frame (List.mem_append_left _ (by rw [top]; exact List.mem_cons_self)) macrostep
    cases turn with
    | start clocked =>
      rcases self.start_cases clocked with ⟨_,result⟩ | ⟨unstarted,_⟩ | ⟨unstarted,_⟩
      · rw [result]; rfl
      · exact absurd unstarted started
      · exact absurd unstarted started
    | send signal => exact self.core_post _
    | stop => exact absurd rfl unstopped
    | subscribe listener => rfl
    | unsubscribe number => rfl
    | answer asked given =>
      rcases Interpreter.resume_cases asked with ⟨_,_,resumed⟩ | ⟨_,_,_,_,_,resumed⟩ <;> rw [resumed] <;> rfl
    | told top => rw [Interpreter.notified_eq top]; rfl
    | go _ =>
      have ticks := self.ticks
      generalize self.tick.1 = next at ticks ⊢
      cases ticks with
      | startCommitted top _ => exact (elsewhere top rfl).elim
      | startFailed top => exact (elsewhere top rfl).elim
      | stepCommitted top _ => exact (elsewhere top rfl).elim
      | faulted top _ _ => exact (elsewhere top rfl).elim
      | _ => rfl
    | sleep found _ => rfl
    | deliver found _ => exact self.setActivity _ none |>.core_post _
  | back => rfl
  | join => rfl

/-- How far a send has come that found nobody at work: its event waits, or its macrostep is in progress, or it is over.
Up to then, and after a failure, the core is the one that was found, but for what the clock does to activities. -/
inductive Stage (core : Core M) (event : Event M) (script : Pending M) (more : List (Moment M)) (here : Gathering M) :
    Prop where
  | sent (waits : here.self.mailbox = [event]) (idle : here.macrosteps = [])
      (unanswered : answers (more.map Moment.deed) = []) (unconcluded : concluded more = [])
      (kept : here.self.core = { core with activities := here.self.core.activities })
  | underway {drainer : Drainer M} {firstError : Option (Failure M.State)} {pending : Pending M}
      (empty : here.self.mailbox = []) (one : here.macrosteps = [.reacting drainer firstError event pending])
      (leads : script.Leads (answers (more.map Moment.deed)) pending) (unconcluded : concluded more = [])
      (kept : here.self.core = { core with activities := here.self.core.activities })
  | settled {result : Except (Failure M.State) (Step M)} (empty : here.self.mailbox = []) (idle : here.macrosteps = [])
      (leads : script.Leads (answers (more.map Moment.deed)) (.done result)) (one : concluded more = [(event,result)])
      (kept : ∀ failure, result = .error failure →
        here.self.core = { core with activities := here.self.core.activities })

theorem answers_snoc (more : List (Moment M)) (moment : Moment M) :
    answers ((more ++ [moment]).map Moment.deed) = answers (more.map Moment.deed) ++ answers [moment.deed] := by
  rw [List.map_append,answers_append]
  rfl

/-- Where no macrostep is in progress, none is over. -/
theorem concluded?_of_idle (idle : here.macrosteps = []) : (⟨here,deed⟩ : Moment M).concluded? = none := by
  rw [Option.eq_none_iff_forall_ne_some]
  rintro ⟨event,result⟩ concludes
  obtain ⟨_,drainer,firstError,below,top⟩ := Moment.concluded?_eq_some_iff.mp concludes
  simp only at top
  simp [macrosteps,frames,top,Frame.isMacrostep] at idle

/-- The mailbox stays empty while nothing comes in. -/
theorem Moves.mailbox_empty (moves : here.Moves deed next) (uneventful : (⟨here,deed⟩ : Moment M).IsUneventful)
    (empty : here.self.mailbox = []) : next.self.mailbox = [] := by
  have leaves := moves.leaves
  generalize next.self.mailbox = mailbox at leaves
  cases leaves with
  | accepted comes _ => rw [uneventful.1] at comes; cases comes
  | handed _ _ mail => rw [empty] at mail; cases mail
  | cleared _ _ _ => rfl
  | still _ _ => exact empty

theorem Stage.of_sent (moves : here.Moves deed next) (reachable : here.Reachable graph options)
    (uneventful : (⟨here,deed⟩ : Moment M).IsUneventful) (running : core.status = .running)
    (accepted : ∀ core : Core M, core.accepts event = true)
    (begun : script = (graph.react options.maxMicrosteps core.state core.context event).run)
    (waits : here.self.mailbox = [event]) (idle : here.macrosteps = [])
    (unanswered : answers (more.map Moment.deed) = []) (unconcluded : concluded more = [])
    (kept : here.self.core = { core with activities := here.self.core.activities }) :
    Stage core event script (more ++ [⟨here,deed⟩]) next := by
  have sound := reachable.sound
  have alive : here.self.core.status = .running := by rw [kept]; exact running
  have after := moves.core_of_idle idle (by simp [alive]) uneventful.2
  have same : next.self.core = { core with activities := next.self.core.activities } := by rw [after,kept]
  have silent : answers ((more ++ [(⟨here,deed⟩ : Moment M)]).map Moment.deed) = [] := by
    rw [answers_snoc,unanswered,moves.answers_eq_nil (.inl idle)]
    rfl
  have none : concluded (more ++ [⟨here,deed⟩]) = [] := by
    rw [concluded_snoc,unconcluded,concluded?_of_idle idle]
    rfl
  cases hands : (⟨here,deed⟩ : Moment M).handed? with
  | none =>
    have untaken : (⟨here,deed⟩ : Moment M).taken? = Option.none := by rw [Moment.taken?,hands]; rfl
    have leaves := moves.leaves
    generalize box : next.self.mailbox = mailbox at leaves
    have lies : mailbox = [event] := by
      cases leaves with
      | accepted comes _ => rw [uneventful.1] at comes; cases comes
      | handed _ goes _ => rw [hands] at goes; cases goes
      | still _ _ => exact waits
      | cleared _ _ clears =>
        cases clears with
        | stopped stop _ _ => exact absurd stop uneventful.2
        | faulted _ top _ _ => simp only at top; simp [macrosteps,frames,top,Frame.isMacrostep] at idle
        | startFailed _ top => simp only at top; simp [macrosteps,frames,top,Frame.isMacrostep] at idle
    refine .sent (box.trans lies) ?_ silent none same
    rcases moves.course sound with ⟨_,still⟩ | ⟨_,frame,begins,_⟩ | ⟨_,_,before,_,_⟩ | ⟨_,before,_,_⟩
    · exact still
    · cases begins with
      | start clocked unstarted => rw [alive] at unstarted; cases unstarted
      | take top mail _ _ =>
        have goes : (⟨here,.go⟩ : Moment M).handed? = some _ := Moment.handed?_eq_some_iff.mpr ⟨rfl,_,_,_,_,top,mail⟩
        rw [hands] at goes
        cases goes
    · rw [idle] at before; cases before
    · rw [idle] at before; cases before
  | some other =>
    obtain ⟨go,drainer,firstError,below,rest,top,mail⟩ := Moment.handed?_eq_some_iff.mp hands
    simp only at go top mail
    subst go
    rw [waits] at mail
    cases mail
    have takes : here.Takes drainer firstError event := ⟨⟨_,top⟩,⟨_,waits⟩,alive,accepted _⟩
    obtain ⟨one,_⟩ := takes.begins sound moves
    have leaves := moves.leaves
    generalize box : next.self.mailbox = mailbox at leaves
    have gone : mailbox = [] := by
      cases leaves with
      | accepted comes _ => rw [uneventful.1] at comes; cases comes
      | handed _ _ mail => rw [waits] at mail; cases mail; rfl
      | cleared _ _ _ => rfl
      | still _ untaken => rw [hands] at untaken; cases untaken
    refine .underway (box.trans gone) one ?_ none same
    rw [silent,begun]
    have state : here.self.core.state = core.state := by rw [kept]
    have context : here.self.core.context = core.context := by rw [kept]
    rw [state,context]
    exact .here _

theorem Stage.onward (stage : Stage core event script more here) (moves : here.Moves deed next)
    (reachable : here.Reachable graph options) (uneventful : (⟨here,deed⟩ : Moment M).IsUneventful)
    (held : here.self.draining = true) (running : core.status = .running)
    (own : event.origin = none) (begun : script = (graph.react options.maxMicrosteps core.state core.context event).run) :
    Stage core event script (more ++ [⟨here,deed⟩]) next := by
  have sound := reachable.sound
  have started : here.self.core.status ≠ .notStarted := by
    intro unstarted
    rw [(sound.unstarted unstarted).1] at held
    cases held
  cases stage with
  | sent waits idle unanswered unconcluded kept =>
    have accepted : ∀ core : Core M, core.accepts event = true := fun core => by simp [Core.accepts,own]
    exact .of_sent moves reachable uneventful running accepted begun waits idle unanswered unconcluded kept
  | @underway drainer firstError pending empty one leads unconcluded kept =>
    have gone := moves.mailbox_empty uneventful empty
    have busy : here.macrosteps ≠ [] := by rw [one]; exact List.cons_ne_nil _ _
    rcases moves.course sound with ⟨none,_⟩ | ⟨none,_⟩ | ⟨frame,later,now,then_,advances⟩ | ⟨frame,now,none,finishes⟩
    · exact absurd none busy
    · exact absurd none busy
    · rw [one] at now
      cases now
      have still : next.macrosteps ≠ [] := by rw [then_]; exact List.cons_ne_nil _ _
      have core := moves.core_in_step sound busy still uneventful.2
      have unconcluded' : (⟨here,deed⟩ : Moment M).concluded? = none := by
        rw [Option.eq_none_iff_forall_ne_some]
        rintro ⟨other,result⟩ concludes
        obtain ⟨go,_,_,_,top⟩ := Moment.concluded?_eq_some_iff.mp concludes
        simp only at go top
        subst go
        exact still (moves.over sound top)
      cases advances with
      | reacting goes =>
        refine .underway gone then_ ?_ (by rw [concluded_snoc,unconcluded,unconcluded']; rfl) (by rw [core,kept])
        rw [answers_snoc]
        exact leads.trans goes
    · rw [one] at now
      cases now
      cases finishes with
      | @react _ _ _ result below top =>
        have concludes : (⟨here,.go⟩ : Moment M).concluded? = some (event,result) :=
          Moment.concluded?_eq_some_iff.mpr ⟨rfl,_,_,_,top⟩
        refine .settled gone none ?_ (by rw [concluded_snoc,unconcluded,concludes]; rfl) ?_
        · rw [answers_snoc]
          exact leads.trans (.here _)
        · rintro failure rfl
          have core := moves.core_of_reaction top
          rw [own] at core
          simp only [Option.isSome_none,Bool.false_and,Bool.false_eq_true,if_false] at core
          rw [core]
          exact kept
  | @settled result empty idle leads one kept =>
    have after := moves.core_of_idle idle started uneventful.2
    have further : script.Leads (answers ((more ++ [(⟨here,deed⟩ : Moment M)]).map Moment.deed)) (.done result) := by
      rw [answers_snoc,moves.answers_eq_nil (.inl idle),List.append_nil]
      exact leads
    have still : next.macrosteps = [] := by
      rcases moves.course sound with ⟨_,still⟩ | ⟨_,frame,begins,_⟩ | ⟨_,_,before,_,_⟩ | ⟨_,before,_,_⟩
      · exact still
      · cases begins with
        | start clocked unstarted => exact absurd unstarted started
        | take _ mail _ _ => rw [empty] at mail; cases mail
      · rw [idle] at before; cases before
      · rw [idle] at before; cases before
    refine .settled (moves.mailbox_empty uneventful empty) still further ?_ fun failure failed => by
      rw [after,kept failure failed]
    rw [concluded_snoc,one,concluded?_of_idle idle]
    rfl

theorem Drains.held (drains : here.Drains base drainer firstError)
    (sound : Sound graph options here.self here.waiting.flatten) : here.self.draining = true := by
  obtain ⟨stack,member,above,frame,split,drains⟩ := drains
  cases held : here.self.draining with
  | true => rfl
  | false =>
    have among : frame ∈ here.self.stack ++ here.waiting.flatten := by
      have own : frame ∈ stack := by rw [split]; simp
      rcases List.mem_cons.mp member with rfl | waits
      · exact List.mem_append_left _ own
      · exact List.mem_append_right _ (List.mem_flatten.mpr ⟨stack,waits,own⟩)
    have free := sound.free held frame among
    rw [Frame.holdsFlag_of_drain? drains] at free
    cases free

theorem Trail.stage {past : List (Moment M)} (before : (fresh graph options).Trail past first) (run : first.Trail more here)
    (drains : first.Drains base drainer firstError) (unreturned : ∀ moment ∈ more, moment.reply? = none)
    (uneventful : ∀ moment ∈ more, moment.IsUneventful) (running : core.status = .running) (own : event.origin = none)
    (begun : script = (graph.react options.maxMicrosteps core.state core.context event).run)
    (stage : Stage core event script [] first) : Stage core event script more here := by
  induction run with
  | here => exact stage
  | @onward trail deed here next run moves ih =>
    have silent : ∀ moment ∈ trail, moment.reply? = none := fun moment member =>
      unreturned moment (List.mem_append_left _ member)
    have earlier := ih silent fun moment member => uneventful moment (List.mem_append_left _ member)
    have reachable := (before.append run).reachable
    have held := (run.drains before.reachable.sound drains silent).held reachable.sound
    exact earlier.onward moves reachable (uneventful _ (List.mem_append_right _ (List.mem_singleton_self _))) held running
      own begun

/-- A send that finds nobody at work, and is not disturbed until it returns, computes the macrostep of its signal from
what it has found, and returns what has come of it. If the macrostep fails, the core is left as it was found, but for
what the clock does to activities. -/
theorem Reachable.undisturbed_send (reachable : here.Reachable graph options) (idle : here.Idle)
    (running : here.self.core.status = .running) {signal : M.Signal} {reply : Reply M}
    (sends : here.Moves (.send signal) first) (run : first.Trail more last)
    (unreturned : ∀ moment ∈ more, moment.reply? = none) (uneventful : ∀ moment ∈ more, moment.IsUneventful)
    (returns : (⟨last,.go⟩ : Moment M).reply? = some reply) :
    ∃ result, (graph.react options.maxMicrosteps here.self.core.state here.self.core.context (.signal signal)).run.Leads
        (answers (more.map Moment.deed)) (.done result) ∧
      reply = .posted (result.map fun _ => ()) ∧
      ∀ failure, result = .error failure →
        last.self.tick.1.core = { here.self.core with activities := last.self.tick.1.core.activities } := by
  have released := reachable.idle_iff.mpr idle
  obtain ⟨past,before⟩ := reachable.trail
  have since := before.onward sends
  have drains := sends.send_drains running released
  obtain ⟨replies,_,_⟩ := reachable.send_returns idle running sends run unreturned returns
  have sent : Stage here.self.core (.signal signal)
      (graph.react options.maxMicrosteps here.self.core.state here.self.core.context (.signal signal)).run [] first := by
    cases sends with
    | @turn self _ _ waiting turn =>
      cases turn with
      | send _ =>
        rw [Interpreter.post_idle running released]
        have empty : self.mailbox = [] := before.attended released
        exact .sent (by simp [empty]) idle.no_macrostep rfl rfl rfl
  have stage := Trail.stage since run drains unreturned uneventful running rfl rfl sent
  have sound := (since.append run).reachable.sound
  obtain ⟨top,empty,_⟩ := (run.drains since.reachable.sound drains unreturned).returns sound returns
  have core : last.self.tick.1.core = last.self.core := by rw [Interpreter.tick,top,empty]
  cases stage with
  | sent waits _ _ _ _ => rw [waits] at empty; cases empty
  | underway _ one _ _ _ =>
    have none := sound.no_other top rfl
    rw [macrosteps,frames,top,List.cons_append,List.filter_cons_of_neg (by simp [Frame.isMacrostep]),none] at one
    cases one
  | @settled result _ _ leads one kept =>
    refine ⟨result,leads,?_,?_⟩
    · rw [replies,one]
      cases result <;> rfl
    · rw [core]
      exact kept

end Gathering

/-! ## Carrying a send out -/

/-- A deed that is due: the call on top goes on, the host answers it, or a listener that has been told returns. -/
def Deed.IsDue (host : (query : Query M) → query.Answer) (deed : Deed M) : Prop :=
  deed = .go ∨ (∃ query, deed = .answer query (host query)) ∨ ∃ number snapshot, deed = .told number snapshot

namespace Gathering

variable {host : (query : Query M) → query.Answer} {here next : Gathering M} {deed : Deed M} {self : Interpreter M}
  {waiting : List (List (Frame M))} {below : List (Frame M)} {drainer : Drainer M} {firstError : Option (Failure M.State)}

/-- If only what is due is done, the start or drain in progress returns. -/
def Completes (host : (query : Query M) → query.Answer) (here : Gathering M) : Prop :=
  ∃ more last reply, here.Trail more last ∧ (∀ moment ∈ more, moment.reply? = none ∧ moment.deed.IsDue host) ∧
    (⟨last,.go⟩ : Moment M).reply? = some reply

theorem Completes.after (completes : Completes host next) (moves : here.Moves deed next)
    (silent : (⟨here,deed⟩ : Moment M).reply? = none) (due : deed.IsDue host) : Completes host here := by
  obtain ⟨more,last,reply,run,plain,returns⟩ := completes
  exact ⟨_,last,reply,(Trail.here.onward moves).append run,List.forall_mem_cons.mpr ⟨⟨silent,due⟩,plain⟩,returns⟩

theorem Completes.go (completes : Completes host ⟨self.tick.1,waiting⟩) (free : self.prompt = none)
    (silent : self.tick.2 = none) : Completes host ⟨self,waiting⟩ := by
  refine completes.after (.turn (.go free)) ?_ (.inl rfl)
  rw [Option.eq_none_iff_forall_ne_some]
  intro reply returns
  obtain ⟨_,_,_,_,_,replies⟩ := Moment.reply?_eq_some_iff.mp returns
  simp only at replies
  rw [silent] at replies
  cases replies

theorem completes_drained (top : self.stack = .draining drainer firstError :: below) (empty : self.mailbox = []) :
    Completes host ⟨self,waiting⟩ :=
  ⟨[],_,_,.here,fun _ none => (List.not_mem_nil none).elim,
    Moment.reply?_eq_some_iff.mpr ⟨rfl,_,_,top,rfl,by simp only [Interpreter.tick,top,empty]; rfl⟩⟩

/-- Listeners are told one after another, and then the drain goes on. -/
theorem completes_publishing {mail : List (Event M)} {snapshot : Snapshot M.State M.Context}
    {unheard : List (Nat × M.Listener)} {sequel : Sequel}
    (further : ∀ self : Interpreter M, self.stack = .draining drainer firstError :: below → self.mailbox = mail →
      Completes host ⟨self,waiting⟩)
    (other : sequel ≠ .stopped)
    (top : self.stack = .publishing snapshot unheard sequel :: .draining drainer firstError :: below)
    (box : self.mailbox = mail) : Completes host ⟨self,waiting⟩ := by
  induction unheard generalizing self with
  | nil =>
    refine Completes.go ?_ (by simp [Interpreter.prompt,top]) ?_
    · refine further _ ?_ ?_
      · cases sequel with
        | stopped => exact absurd rfl other
        | _ => rw [Interpreter.tick,top]
      · cases sequel with
        | stopped => exact absurd rfl other
        | _ => rw [Interpreter.tick,top]; exact box
    · cases sequel with
      | stopped => exact absurd rfl other
      | _ => rw [Interpreter.tick,top]
  | cons entry unheard ih =>
    have goes := Interpreter.notified_eq top
    have told : Completes host ⟨self.notified,waiting⟩ := ih (by rw [goes]) (by rw [goes]; exact box)
    exact told.after (.turn (.told top)) rfl (.inr (.inr ⟨_,_,rfl⟩))

/-- A macrostep that has come to its end is seen to, listeners are told of it, and then the drain goes on. -/
theorem completes_concluded {event : Event M} {result : Except (Failure M.State) (Step M)} {mail : List (Event M)}
    (further : ∀ (self : Interpreter M) firstError, self.stack = .draining drainer firstError :: below →
      self.mailbox = mail ∨ self.mailbox = [] → Completes host ⟨self,waiting⟩)
    (top : self.stack = .reacting drainer firstError event (.done result) :: below) (box : self.mailbox = mail) :
    Completes host ⟨self,waiting⟩ := by
  refine Completes.go ?_ (by simp [Interpreter.prompt,top]) (by cases result <;> rw [Interpreter.tick,top])
  cases result with
  | ok step =>
    rw [Interpreter.tick,top]
    simp only [Interpreter.finishStep]
    split
    · exact completes_publishing (fun self top box => further self _ top (.inl box)) (by simp) rfl box
    · exact further _ _ rfl (.inl box)
  | error failure =>
    rw [Interpreter.tick,top]
    simp only [Interpreter.abandonStep]
    split
    · exact completes_publishing (fun self top box => further self _ top (.inr box)) (by simp) rfl rfl
    · exact further _ _ rfl (.inl box)

/-- The host answers the callbacks of a macrostep one after another. -/
theorem completes_reacting {event : Event M} {pending : Pending M} {mail : List (Event M)}
    (further : ∀ (self : Interpreter M) firstError, self.stack = .draining drainer firstError :: below →
      self.mailbox = mail ∨ self.mailbox = [] → Completes host ⟨self,waiting⟩)
    (top : self.stack = .reacting drainer firstError event pending :: below) (box : self.mailbox = mail) :
    Completes host ⟨self,waiting⟩ := by
  induction pending generalizing self with
  | done result => exact completes_concluded further top box
  | ask query next ih =>
    have asked : self.prompt = some (.query query next) := by simp [Interpreter.prompt,top]
    have answered : Completes host ⟨self.resume (next (host query)),waiting⟩ :=
      ih (host query) (by simp [Interpreter.resume,top]) (by simpa [Interpreter.resume,top] using box)
    exact answered.after (.turn (.answer asked (host query))) rfl (.inr (.inl ⟨query,rfl⟩))

/-- A drain comes to its end, whatever waits in the mailbox. -/
theorem completes_draining (mail : List (Event M)) (top : self.stack = .draining drainer firstError :: below)
    (box : self.mailbox = mail) : Completes host ⟨self,waiting⟩ := by
  induction mail generalizing self firstError with
  | nil => exact completes_drained top box
  | cons event rest ih =>
    have further : ∀ (self : Interpreter M) firstError, self.stack = .draining drainer firstError :: below →
        self.mailbox = rest ∨ self.mailbox = [] → Completes host ⟨self,waiting⟩ := by
      intro self firstError top box
      rcases box with box | box
      · exact ih top box
      · exact completes_drained top box
    refine Completes.go ?_ (by simp [Interpreter.prompt,top]) (by rw [Interpreter.tick,top,box])
    rw [Interpreter.tick,top,box]
    simp only [Interpreter.processNext]
    split
    · exact completes_reacting further rfl rfl
    · exact further _ _ top (.inl rfl)

/-- A send that finds nobody at work returns, if the host answers and nobody else does anything. -/
theorem Reachable.send_completes (reachable : here.Reachable graph options) (idle : here.Idle)
    (running : here.self.core.status = .running) (signal : M.Signal) (host : (query : Query M) → query.Answer) :
    ∃ first, here.Moves (.send signal) first ∧ Completes host first := by
  refine ⟨_,.turn (.send signal),?_⟩
  rw [Interpreter.post_idle running (reachable.idle_iff.mpr idle)]
  exact completes_draining _ rfl rfl

end Gathering

end Statechart
