import Statechart.Bench.Vocabulary
import Statechart.Proofs.Mail
import Statechart.Proofs.StopDuringStart

/-!
# Failed starts: as if nothing had happened

A start that fails, while nobody stops the interpreter, takes back everything it has done: what is left is
an interpreter that has never been started, with the listeners that callbacks and others have registered
meanwhile (`failed_start`). Nobody can tell it from a new one, unless a stop from before the start is still
telling its listeners: those it releases, whoever starts the interpreter again (`tripwire_releases_listener`).
-/
namespace Statechart

variable {M : Machine} {graph : Graph M} {options : Options}

/-! ## Released listeners -/

/-- What is left of a registry some of whose listeners have been released. -/
structure Registry.LeftOf {α : Type} (left whole : Registry α) : Prop where
  next : left.next = whole.next
  entries : left.entries.Sublist whole.entries

namespace Registry.LeftOf

variable {α : Type} {left whole : Registry α}

theorem refl (registry : Registry α) : registry.LeftOf registry := ⟨rfl,List.Sublist.refl _⟩

theorem cleared (leftOf : left.LeftOf whole) : left.clear.LeftOf whole := ⟨leftOf.next,List.nil_sublist _⟩

theorem enrolled {left whole : Registry M.Listener} (leftOf : left.LeftOf whole) (deed : Deed M) :
    (deed.enrol left).LeftOf (deed.enrol whole) := by
  obtain ⟨next,entries⟩ := leftOf
  cases deed with
  | subscribe listener =>
    refine ⟨congrArg Nat.succ next,?_⟩
    simp only [Deed.enrol,Registry.add,next]
    exact entries.append_right _
  | unsubscribe number => exact ⟨next,entries.filter _⟩
  | _ => exact ⟨next,entries⟩

end Registry.LeftOf

namespace Gathering

/-- Whatever happens, nobody is registered but those who were so before and those who have subscribed since. -/
theorem Path.registry_leftOf {first last : Gathering M} {deeds : List (Deed M)} {log : List (Note M)}
    (path : first.Path deeds log last) : last.self.registry.LeftOf (deeds.foldl Deed.enrol first.self.registry) := by
  induction path with
  | here => exact .refl _
  | onward _ moves ih =>
    rw [List.foldl_append]
    rcases moves.registry with enrolled | ⟨rfl,cleared,_⟩
    · rw [enrolled]
      exact ih.enrolled _
    · rw [cleared]
      exact ih.cleared

/-! ## Callers without calls -/

/-- The callers that have a call in progress, among those who wait. -/
def occupied (waiting : List (List (Frame M))) : List (List (Frame M)) :=
  waiting.filter fun stack => !stack.isEmpty

theorem occupied_middle (stack : List (Frame M)) (before after : List (List (Frame M))) :
    (occupied (before ++ stack :: after)).Perm (occupied (stack :: (before ++ after))) :=
  List.perm_middle.filter _

theorem occupied_cons (stack : List (Frame M)) {waiting waiting' : List (List (Frame M))}
    (same : (occupied waiting).Perm (occupied waiting')) :
    (occupied (stack :: waiting)).Perm (occupied (stack :: waiting')) := by
  cases stack with
  | nil => exact same
  | cons frame below => exact same.cons _

/-- Two gatherings that nobody can tell apart: their interpreters are the same, and so are the callers that
wait with a call in progress. -/
structure Alike (one other : Gathering M) : Prop where
  same : one.self = other.self
  waiting : (occupied one.waiting).Perm (occupied other.waiting)

namespace Alike

variable {one other next last : Gathering M} {deed : Deed M} {deeds : List (Deed M)} {log : List (Note M)}

theorem symm (alike : one.Alike other) : other.Alike one := ⟨alike.same.symm,alike.waiting.symm⟩

/-- Whoever has the next turn in one of them has it in the other, but for callers that have no call in
progress: one of those is as good as another. -/
theorem moves (alike : one.Alike other) (moves : one.Moves deed next) :
    ∃ next', other.Moves deed next' ∧ next.Alike next' := by
  obtain ⟨self',waiting'⟩ := other
  obtain ⟨same,waiting⟩ := alike
  simp only at same waiting
  subst same
  cases moves with
  | turn turn => exact ⟨_,.turn turn,rfl,waiting⟩
  | @back self stack before after =>
    have rest := (occupied_middle stack before after).symm.trans waiting
    match stack with
    | [] => exact ⟨_,.join,rfl,(occupied_middle _ _ _).trans (occupied_cons _ rest)⟩
    | frame :: below =>
      have member : frame :: below ∈ waiting' := (List.mem_filter.mp (rest.mem_iff.mp List.mem_cons_self)).1
      obtain ⟨before',after',split⟩ := List.append_of_mem member
      subst split
      have others := List.Perm.cons_inv (rest.trans (occupied_middle _ before' after'))
      refine ⟨_,.back,rfl,?_⟩
      exact (occupied_middle _ _ _).trans ((occupied_cons _ others).trans (occupied_middle _ _ _).symm)
  | join => exact ⟨_,.join,rfl,occupied_cons _ waiting⟩

/-- Whatever can happen in one of them can happen in the other. -/
theorem path (alike : one.Alike other) (path : one.Path deeds log last) :
    ∃ last', other.Path deeds log last' ∧ last.Alike last' := by
  induction path with
  | here => exact ⟨other,.here,alike⟩
  | onward _ moves ih =>
    obtain ⟨between,path,alike⟩ := ih
    obtain ⟨next,goes,still⟩ := alike.moves moves
    refine ⟨next,?_,still⟩
    have onward := path.onward goes
    rwa [← alike.same,← still.same] at onward

end Alike

/-- Somebody is still being told of a stop. -/
def Stopping (gathering : Gathering M) : Prop :=
  ∃ snapshot unheard, .publishing snapshot unheard .stopped ∈ gathering.frames

variable {first here next : Gathering M} {deed : Deed M} {deeds : List (Deed M)} {log : List (Note M)} {clocked : Bool}
  {failure : Failure M.State}

/-- Unless somebody is still being told of a stop, no call is in progress before a start. -/
theorem Reachable.untouched (reachable : here.Reachable graph options) (unstarted : here.self.core.status = .notStarted)
    (parted : ¬ here.Stopping) : here.frames = [] := by
  obtain ⟨trail,run⟩ := reachable.trail
  have free := reachable.sound.free (reachable.sound.unstarted unstarted).1
  rw [List.eq_nil_iff_forall_not_mem]
  intro frame member
  cases frame with
  | publishing snapshot unheard sequel =>
    by_cases stopped : sequel = .stopped
    · subst stopped
      exact parted ⟨snapshot,unheard,member⟩
    · obtain ⟨stack,among,inStack⟩ : ∃ stack ∈ here.self.stack :: here.waiting, .publishing snapshot unheard sequel ∈ stack := by
        rcases List.mem_append.mp member with mine | waits
        · exact ⟨_,List.mem_cons_self,mine⟩
        · obtain ⟨stack,waiting,inStack⟩ := List.mem_flatten.mp waits
          exact ⟨stack,List.mem_cons_of_mem _ waiting,inStack⟩
      -- the delivery would lie upon a drain, which holds the flag
      obtain ⟨above,drainer,firstError,below,same⟩ := (run.stacked stack among).split inStack stopped
      have drains : .draining drainer firstError ∈ here.frames := by
        have inIt : .draining drainer firstError ∈ stack := by rw [same]; simp
        rcases List.mem_cons.mp among with mine | waits
        · exact List.mem_append_left _ (mine ▸ inIt)
        · exact List.mem_append_right _ (List.mem_flatten.mpr ⟨stack,waits,inIt⟩)
      cases free _ drains
  | _ => cases free _ member

/-- As long as a start is the only call in progress, and its macrostep goes on, no other call begins that
lasts, unless somebody stops the interpreter. -/
theorem Moves.in_start {pending : Pending M} (moves : here.Moves deed next)
    (sound : Sound graph options here.self here.waiting.flatten) (alone : here.frames = [.starting pending])
    (unstopped : deed ≠ .stop) (busy : next.macrosteps ≠ []) : ∃ later, next.frames = [.starting later] := by
  have member : .starting pending ∈ here.self.stack ++ here.waiting.flatten := by
    rw [show here.self.stack ++ here.waiting.flatten = _ from alone]
    exact List.mem_singleton_self _
  obtain ⟨status,_,alive,core⟩ := sound.starting pending member
  have started : here.self.core.status ≠ .notStarted := by rcases alive with alive | alive <;> simp [core,alive]
  have idle : here.self.core.activities = [] := by rw [core]; rfl
  have held : here.self.draining ≠ false := fun released => by cases sound.free released _ member
  -- whatever is on top is the start
  have sole : ∀ {frame below}, here.self.stack = frame :: below →
      frame = .starting pending ∧ below ++ here.waiting.flatten = [] := by
    intro frame below top
    rw [frames,top] at alone
    exact List.cons.inj alone
  cases moves with
  | @turn self next deed waiting turn =>
    have closes : ∀ {frame below}, self.stack = frame :: below → frame.holdsFlag = true →
        (below ++ waiting.flatten).filter Frame.isMacrostep ≠ [] → False :=
      fun top holds more => more (sound.no_other top holds)
    cases turn with
    | start clocked =>
      rcases self.start_cases clocked with ⟨_,result⟩ | ⟨unstarted,_⟩ | ⟨unstarted,_⟩
      · rw [result]; exact ⟨pending,alone⟩
      · exact absurd unstarted started
      · exact absurd unstarted started
    | send signal =>
      rcases self.post_cases (.signal signal) with ⟨_,result⟩ | ⟨_,result⟩ | ⟨_,_,result⟩ | ⟨_,released,_⟩
      · rw [result]; exact ⟨pending,alone⟩
      · rw [result]; exact ⟨pending,alone⟩
      · rw [result]; exact ⟨pending,alone⟩
      · exact absurd released held
    | stop => exact absurd rfl unstopped
    | subscribe listener => exact ⟨pending,alone⟩
    | unsubscribe number => exact ⟨pending,alone⟩
    | answer asked given =>
      rcases Interpreter.resume_cases asked with ⟨below,top,resumed⟩ | ⟨_,_,_,below,top,_⟩
      · rw [resumed]
        exact ⟨_,congrArg (List.cons _) (sole top).2⟩
      · cases (sole top).1
    | told top => cases (sole top).1
    | go _ =>
      have ticks := self.ticks
      simp only [macrosteps,frames] at busy ⊢
      generalize self.tick.1 = next at ticks busy ⊢
      cases ticks with
      | startCommitted top _ => exact (closes top rfl busy).elim
      | startOverruled top _ => exact (closes top rfl busy).elim
      | startFailed top => exact (closes top rfl busy).elim
      | drained top _ => cases (sole top).1
      | taken top _ _ _ => cases (sole top).1
      | dropped top _ _ => cases (sole top).1
      | stepCommitted top _ => cases (sole top).1
      | stepOverruled top _ => cases (sole top).1
      | faulted top _ _ => cases (sole top).1
      | stepFailed top _ => cases (sole top).1
      | released top _ => cases (sole top).1
      | heard top _ => cases (sole top).1
      | idle _ => exact ⟨pending,alone⟩
    | sleep found _ => simp only at idle; rw [idle] at found; cases found
    | deliver found _ => simp only at idle; rw [idle] at found; cases found
  | back =>
    refine ⟨pending,eq_of_perm_of_length_le_one ?_ (Nat.le_refl _)⟩
    rw [← alone]
    exact back_perm _ _ _ _
  | join => exact ⟨pending,by simpa [frames] using alone⟩

/-- While a start is computed, callbacks and others change the listeners only by subscribing and
unsubscribing, unless somebody stops the interpreter. -/
theorem Underway.in_start (underway : first.Underway (.start clocked) deeds log here)
    (reachable : first.Reachable graph options) (parted : ¬ first.Stopping) (unstopped : .stop ∉ deeds) :
    (∃ pending, here.frames = [.starting pending]) ∧
      here.self.registry = deeds.foldl Deed.enrol first.self.registry := by
  have enrolled : ∀ {here next : Gathering M} {deed : Deed M} {pending : Pending M}, here.Moves deed next →
      here.frames = [.starting pending] → next.self.registry = deed.enrol here.self.registry := by
    intro here next deed pending moves alone
    rcases moves.registry with enrolled | ⟨_,_,_,_,_,top,_⟩
    · exact enrolled
    · rw [frames,top] at alone
      cases (List.cons.inj alone).1
  induction underway with
  | begun idle moves busy =>
    cases moves with
    | @turn self _ _ waiting turn =>
      cases turn with
      | start clocked =>
        rcases self.start_cases clocked with ⟨_,result⟩ | ⟨_,result⟩ | ⟨unstarted,result⟩
        · rw [result] at busy; exact absurd idle busy
        · rw [result] at busy; exact absurd idle busy
        · rw [result]
          exact ⟨⟨_,congrArg (List.cons _) (reachable.untouched unstarted parted)⟩,rfl⟩
  | @onward deeds log deed here next underway moves busy ih =>
    obtain ⟨⟨pending,alone⟩,registry⟩ := ih fun earlier => unstopped (List.mem_append_left _ earlier)
    have other : deed ≠ .stop := fun stops => unstopped (by simp [stops])
    refine ⟨moves.in_start (underway.path.sound reachable.sound) alone other busy,?_⟩
    rw [enrolled moves alone,registry,List.foldl_append]
    rfl

end Gathering

/-- A start comes back with the failure that its macrostep has come to. -/
theorem Interpreter.top_of_unstarted {self : Interpreter M} {failure : Failure M.State}
    (returns : self.tick.2 = some (.started (.error failure))) :
    ∃ below, self.stack = .starting (.done (.error failure)) :: below := by
  rw [tick] at returns
  split at returns
  case h_2 failure below top => cases returns; exact ⟨below,top⟩
  case h_3 drainer firstError below top =>
    split at returns
    · cases drainer with
      | start _ => cases returns
      | poster => cases firstError <;> cases returns
    · cases returns
  all_goals cases returns

namespace Gathering

variable {first here next : Gathering M} {deeds : List (Deed M)} {log : List (Note M)} {clocked : Bool}
  {failure : Failure M.State}

/-- A start comes back with a failure: at once, or when its macrostep has come to one. The deeds are those
that were done while it ran. -/
inductive FailsToStart (first : Gathering M) (clocked : Bool) (failure : Failure M.State) :
    List (Deed M) → List (Note M) → Gathering M → Prop where
  | refused {next : Gathering M} (moves : first.Moves (.start clocked) next)
      (returns : (first.self.start clocked).2 = some (.started (.error failure))) :
      FailsToStart first clocked failure [] (first.self.notes next.self (.start clocked)) next
  | abandoned {deeds : List (Deed M)} {log : List (Note M)} {here next : Gathering M}
      (underway : first.Underway (.start clocked) deeds log here) (moves : here.Moves .go next)
      (returns : here.self.tick.2 = some (.started (.error failure))) :
      FailsToStart first clocked failure deeds (log ++ here.self.notes next.self .go) next

/-- A start that is refused, though the interpreter has not been started before, leaves it alone. -/
theorem Moves.refused (moves : first.Moves (.start clocked) next)
    (returns : (first.self.start clocked).2 = some (.started (.error failure))) (anew : failure ≠ .alreadyStarted) :
    next = first ∧ first.self.core.status = .notStarted := by
  cases moves with
  | @turn self _ _ waiting turn =>
    cases turn with
    | start clocked =>
      simp only at returns
      rcases self.start_cases clocked with ⟨_,result⟩ | ⟨unstarted,result⟩ | ⟨_,result⟩ <;> rw [result] at returns ⊢
      · cases returns
        exact absurd rfl anew
      · exact ⟨rfl,unstarted⟩
      · cases returns

/-- A start that fails has undone what it had set, and nothing has been told to anybody. -/
theorem FailsToStart.undone (fails : first.FailsToStart clocked failure deeds log next)
    (reachable : first.Reachable graph options) (anew : failure ≠ .alreadyStarted) (unstopped : .stop ∉ deeds) :
    next.self.core = .fresh graph options ∧ next.self.mailbox = [] ∧ next.self.draining = false ∧ produced log = [] := by
  have sound := reachable.sound
  cases fails with
  | refused moves returns =>
    obtain ⟨same,unstarted⟩ := moves.refused returns anew
    subst same
    obtain ⟨released,empty,untouched⟩ := sound.unstarted unstarted
    exact ⟨untouched,empty,released,Interpreter.produced_notes (Nat.le_refl _)⟩
  | @abandoned _ log here _ underway moves returns =>
    obtain ⟨below,top⟩ := Interpreter.top_of_unstarted returns
    obtain ⟨_,_,_,⟨_,core,silent⟩ | ⟨stopped,_⟩⟩ := underway.during_start sound
    · have goes : next.self = { here.self with
          core := .fresh graph options, mailbox := [], draining := false, stack := below } := by
        rw [moves.of_go,Interpreter.tick_of_failed_start top,core]
        rfl
      rw [goes]
      refine ⟨rfl,rfl,rfl,?_⟩
      rw [produced_append,silent,List.nil_append]
      exact Interpreter.produced_notes (by rw [top]; exact Nat.le_succ _)
    · exact absurd stopped unstopped

/-- The listeners after a start that has failed are among those from before and those who have subscribed
meanwhile. -/
theorem FailsToStart.registry_leftOf (fails : first.FailsToStart clocked failure deeds log next)
    (anew : failure ≠ .alreadyStarted) : next.self.registry.LeftOf (deeds.foldl Deed.enrol first.self.registry) := by
  cases fails with
  | refused moves returns =>
    obtain ⟨same,_⟩ := moves.refused returns anew
    rw [same]
    exact .refl _
  | @abandoned _ log here _ underway moves returns =>
    obtain ⟨below,top⟩ := Interpreter.top_of_unstarted returns
    have kept : next.self.registry = here.self.registry := by
      rw [moves.of_go,Interpreter.tick_of_failed_start top]
    rw [kept]
    exact underway.path.registry_leftOf

/-- No call is in progress after a start that has failed, and the listeners are those from before with what
callbacks and others have changed meanwhile, unless somebody is still being told of a stop. -/
theorem FailsToStart.alone (fails : first.FailsToStart clocked failure deeds log next)
    (reachable : first.Reachable graph options) (anew : failure ≠ .alreadyStarted) (unstopped : .stop ∉ deeds)
    (parted : ¬ first.Stopping) :
    next.frames = [] ∧ next.self.registry = deeds.foldl Deed.enrol first.self.registry := by
  cases fails with
  | refused moves returns =>
    obtain ⟨same,unstarted⟩ := moves.refused returns anew
    subst same
    exact ⟨reachable.untouched unstarted parted,rfl⟩
  | @abandoned _ log here _ underway moves returns =>
    obtain ⟨below,top⟩ := Interpreter.top_of_unstarted returns
    obtain ⟨⟨pending,alone⟩,registry⟩ := underway.in_start reachable parted unstopped
    rw [frames,top] at alone
    have none : below ++ here.waiting.flatten = [] := (List.cons.inj alone).2
    rw [moves.of_go,frames,Interpreter.tick_of_failed_start top]
    exact ⟨none,registry⟩

/-- A start that fails, while nobody calls stop, leaves an interpreter behind that has never been started: its
core is a new one, the mailbox is empty, the flag is free, nothing was published, and the listeners differ only
by what was subscribed and unsubscribed meanwhile. Whatever may happen to it afterwards, a start among others,
may happen in just the same way to a new interpreter with these listeners, and the other way round. A stop that
is still telling its listeners when the start begins releases them in its own time: then some of the listeners may
be missing. -/
theorem failed_start (reachable : first.Reachable graph options)
    (fails : first.FailsToStart clocked failure deeds log next) (anew : failure ≠ .alreadyStarted)
    (unstopped : .stop ∉ deeds) :
    next.self.core = .fresh graph options ∧ next.self.mailbox = [] ∧ next.self.draining = false ∧ produced log = [] ∧
    next.self.registry.LeftOf (deeds.foldl Deed.enrol first.self.registry) ∧
    (¬ first.Stopping →
      let unused : Interpreter M :=
        { Interpreter.fresh graph options with registry := deeds.foldl Deed.enrol first.self.registry }
      next.self = unused ∧
      (∀ later log last, next.Path later log last →
        ∃ last', Path ⟨unused,[]⟩ later log last' ∧ last'.self = last.self) ∧
      ∀ later log last', Path ⟨unused,[]⟩ later log last' →
        ∃ last, next.Path later log last ∧ last.self = last'.self) := by
  obtain ⟨core,empty,released,silent⟩ := fails.undone reachable anew unstopped
  refine ⟨core,empty,released,silent,fails.registry_leftOf anew,?_⟩
  intro parted unused
  obtain ⟨none,registry⟩ := fails.alone reachable anew unstopped parted
  obtain ⟨idle,waiting⟩ := List.append_eq_nil_iff.mp none
  have sound : Sound graph options next.self next.waiting.flatten := by
    cases fails with
    | refused moves _ => exact moves.sound reachable.sound
    | abandoned underway moves _ => exact moves.sound (underway.path.sound reachable.sound)
  have same : next.self = unused := by
    obtain ⟨self,callers⟩ := next
    obtain ⟨_,_,_,_,_,_,_⟩ := self
    simp only at core empty released registry idle
    have graphs := sound.graph_eq
    have limits := sound.options_eq
    simp only at graphs limits
    subst core empty released registry idle graphs limits
    rfl
  have alike : next.Alike ⟨unused,[]⟩ := by
    refine ⟨same,?_⟩
    have vacant : occupied next.waiting = [] := by
      rw [occupied,List.filter_eq_nil_iff]
      intro stack member
      simp [List.flatten_eq_nil_iff.mp waiting stack member]
    rw [vacant]
    exact List.Perm.refl _
  refine ⟨same,?_,?_⟩
  · intro later log last path
    obtain ⟨last',path',alike⟩ := alike.path path
    exact ⟨last',path',alike.same.symm⟩
  · intro later log last' path
    obtain ⟨last,path',alike⟩ := alike.symm.path path
    exact ⟨last,path',alike.same.symm⟩

/-- A chart that waits for others before its last action fails. -/
def tripwire : Graph Bench.machine where
  id := "tripwire"
  initial := .a
  context := {}
  nodes := [
    { Node.empty (M := Bench.machine) .a with entry := [⟨"wait",.effect,.gate⟩,⟨"last",.effect,.fail "broken"⟩] }]

/-- While it waits somebody subscribes and somebody sends a signal. -/
def tripwireDeeds : List (Deed Bench.machine) := [
  .subscribe (Bench.Listener.mk 0 "p" {} [] 1),
  .send (Bench.Signal.mk .go 0),
  .answer (.perform ⟨"wait",.effect,.gate⟩ {} .init) (.ok ()),
  .answer (.perform ⟨"last",.effect,.fail "broken"⟩ {} .init) (.error ⟨"broken"⟩)]

theorem tripwire_breaks :
    ∃ log next, FailsToStart (.fresh tripwire {}) true (.effectFailed .a "last" ⟨"broken"⟩) tripwireDeeds log next := by
  have begun : Underway (.fresh tripwire {}) (.start true) [] _ _ :=
    .begun rfl (.turn (.start true)) (List.cons_ne_nil _ _)
  have subscribed := begun.onward (.turn (.subscribe (Bench.Listener.mk 0 "p" {} [] 1))) (List.cons_ne_nil _ _)
  have sent := subscribed.onward (.turn (.send (Bench.Signal.mk .go 0))) (List.cons_ne_nil _ _)
  have waited := sent.onward (.turn (.answer rfl (by exact Except.ok ()))) (List.cons_ne_nil _ _)
  have broken := waited.onward (.turn (.answer rfl (by exact Except.error (ActionError.mk "broken"))))
    (List.cons_ne_nil _ _)
  exact ⟨_,_,.abandoned broken (.turn (.go rfl)) rfl⟩

theorem tripwire_failed_start :
    ∃ log next, FailsToStart (.fresh tripwire {}) true (.effectFailed .a "last" ⟨"broken"⟩) tripwireDeeds log next ∧
      produced log = [] ∧
      next.self = { Interpreter.fresh tripwire {} with
        registry := ⟨1,[(0,Bench.Listener.mk 0 "p" {} [] 1)]⟩ } := by
  obtain ⟨log,next,fails⟩ := tripwire_breaks
  have parted : ¬ Stopping (.fresh tripwire {}) := by
    rintro ⟨_,_,member⟩
    cases member
  obtain ⟨_,_,_,silent,_,unused⟩ := failed_start ⟨[],[],.here⟩ fails (by decide) (by simp [tripwireDeeds])
  exact ⟨log,next,fails,silent,(unused parted).1⟩

/-- A start has failed, and somebody else is still telling the only listener that the interpreter was stopped
while that start was computed. -/
def tripwireStopping : Gathering Bench.machine where
  self := { Interpreter.fresh tripwire {} with registry := ⟨1,[(0,Bench.Listener.mk 0 "p" {} [] 1)]⟩ }
  waiting := [[.publishing tripwire.stopped [(0,Bench.Listener.mk 0 "p" {} [] 1)] .stopped]]

theorem tripwireStopping_reachable : tripwireStopping.Reachable tripwire {} := by
  have made : Path (.fresh tripwire {}) [] _ _ := .here
  have subscribed := made.onward (.turn (.subscribe (Bench.Listener.mk 0 "p" {} [] 1)))
  have started := subscribed.onward (.turn (.start true))
  have joined := started.onward .join
  have stopped := joined.onward (.turn .stop)
  have back := stopped.onward (@Moves.back _ _ _ [] _)
  have waited := back.onward (.turn (.answer rfl (by exact Except.ok ())))
  have broken := waited.onward (.turn (.answer rfl (by exact Except.error (ActionError.mk "broken"))))
  have failed := broken.onward (.turn (.go rfl))
  exact ⟨_,_,failed⟩

/-- While the interpreter is started once more, the listener has been told and is released, and whoever has
stopped the interpreter subscribes another one. -/
def tripwireStoppingDeeds : List (Deed Bench.machine) := [
  .yield,
  .told 0 tripwire.stopped,
  .go,
  .subscribe (Bench.Listener.mk 0 "q" {} [] 1),
  .yield,
  .answer (.perform ⟨"wait",.effect,.gate⟩ {} .init) (.ok ()),
  .answer (.perform ⟨"last",.effect,.fail "broken"⟩ {} .init) (.error ⟨"broken"⟩)]

/-- The listeners have changed, though no callback of the start that fails has subscribed or unsubscribed any and
nobody has called stop while it ran. -/
theorem tripwire_releases_listener :
    ∃ log next, tripwireStopping.Reachable tripwire {} ∧
      FailsToStart tripwireStopping true (.effectFailed .a "last" ⟨"broken"⟩) tripwireStoppingDeeds log next ∧
      .stop ∉ tripwireStoppingDeeds ∧
      tripwireStopping.self.registry.entries = [(0,Bench.Listener.mk 0 "p" {} [] 1)] ∧
      next.self.registry.entries = [(1,Bench.Listener.mk 0 "q" {} [] 1)] := by
  have begun : Underway tripwireStopping (.start true) [] _ _ :=
    .begun rfl (.turn (.start true)) (List.cons_ne_nil _ _)
  have other := begun.onward (@Moves.back _ _ _ [] _) (List.cons_ne_nil _ _)
  have told := other.onward (.turn (.told rfl)) (List.cons_ne_nil _ _)
  have released := told.onward (.turn (.go rfl)) (List.cons_ne_nil _ _)
  have subscribed := released.onward (.turn (.subscribe (Bench.Listener.mk 0 "q" {} [] 1))) (List.cons_ne_nil _ _)
  have back := subscribed.onward (@Moves.back _ _ _ [] _) (List.cons_ne_nil _ _)
  have waited := back.onward (.turn (.answer rfl (by exact Except.ok ()))) (List.cons_ne_nil _ _)
  have broken := waited.onward (.turn (.answer rfl (by exact Except.error (ActionError.mk "broken"))))
    (List.cons_ne_nil _ _)
  have fails : FailsToStart _ true _ tripwireStoppingDeeds _ _ := .abandoned broken (.turn (.go rfl)) rfl
  exact ⟨_,_,tripwireStopping_reachable,fails,by simp [tripwireStoppingDeeds],rfl,rfl⟩

end Gathering

end Statechart
