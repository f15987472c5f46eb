import Statechart.Proofs.Publications
import Statechart.Proofs.Quiescence

/-!
# Drains: what a send returns

A send that finds nobody at work empties the mailbox, and whatever is sent meanwhile is left to it. Its drain
is in progress until the mailbox is empty (`Trail.drains`); whatever came in up to then has been processed,
also after a failure, unless it has been thrown away (`Emptied`). What the send returns is the first failure
that its drain has met, whosever event it was; a start returns its snapshot all the same (`what_send_returns`).
-/
namespace Statechart

variable {M : Machine} {graph : Graph M} {options : Options}

/-! ## What is over, and what returns -/

/-- For whom a drain empties the mailbox, and the first failure that it has met. -/
def Frame.drain? : Frame M → Option (Drainer M × Option (Failure M.State))
  | .draining drainer firstError => some (drainer,firstError)
  | .reacting drainer firstError _ _ => some (drainer,firstError)
  | _ => none

/-- The event whose macrostep is computed. -/
def Frame.reaction? : Frame M → Option (Event M)
  | .reacting _ _ event _ => some event
  | _ => none

namespace Moment

/-- The event for which a macrostep begins: one that is taken out of the mailbox, is not too late, and finds the
interpreter running. -/
def taken? (moment : Moment M) : Option (Event M) :=
  moment.handed?.filter fun event => moment.here.self.core.status = .running && moment.here.self.core.accepts event

/-- The event whose macrostep is over at a moment, and what the macrostep has come to. -/
def concluded? (moment : Moment M) : Option (Event M × Except (Failure M.State) (Step M)) :=
  match moment.deed, moment.here.self.stack with
  | .go, .reacting _ _ event (.done result) :: _ => some (event,result)
  | _, _ => none

/-- The failure of an event to be processed. -/
def failure? (moment : Moment M) : Option (Failure M.State) :=
  moment.concluded?.bind fun concluded =>
    match concluded.2 with
    | .ok _ => none
    | .error failure => some failure

/-- What the start or the drain on top of the stack returns, if it does so at a moment. -/
def reply? (moment : Moment M) : Option (Reply M) :=
  match moment.deed, moment.here.self.stack with
  | .go, frame :: _ => if frame.holdsFlag then moment.here.self.tick.2 else none
  | _, _ => none

theorem reply?_eq_some_iff {moment : Moment M} {reply : Reply M} :
    moment.reply? = some reply ↔ moment.deed = .go ∧ ∃ frame below,
      moment.here.self.stack = frame :: below ∧ frame.holdsFlag = true ∧ moment.here.self.tick.2 = some reply := by
  obtain ⟨here,deed⟩ := moment
  rw [reply?]
  constructor
  · intro returns
    split at returns
    · rename_i frame below go top
      split at returns
      · rename_i holds
        exact ⟨go,frame,below,top,holds,returns⟩
      · cases returns
    · cases returns
  · rintro ⟨go,frame,below,top,holds,replies⟩
    simp only at go top replies
    simp [go,top,holds,replies]

theorem taken?_eq_some_iff {moment : Moment M} {event : Event M} :
    moment.taken? = some event ↔
      moment.handed? = some event ∧ moment.here.self.core.status = .running ∧
        moment.here.self.core.accepts event = true := by
  simp [taken?,Option.filter_eq_some_iff]

theorem concluded?_eq_some_iff {moment : Moment M} {event : Event M} {result : Except (Failure M.State) (Step M)} :
    moment.concluded? = some (event,result) ↔ moment.deed = .go ∧ ∃ drainer firstError below,
      moment.here.self.stack = .reacting drainer firstError event (.done result) :: below := by
  obtain ⟨here,deed⟩ := moment
  rw [concluded?]
  constructor
  · intro concludes
    split at concludes
    · rename_i drainer firstError event result below go top
      cases concludes
      exact ⟨go,drainer,firstError,below,top⟩
    · cases concludes
  · rintro ⟨go,drainer,firstError,below,top⟩
    simp only at go top
    simp [go,top]

theorem failure?_eq_some_iff {moment : Moment M} {failure : Failure M.State} :
    moment.failure? = some failure ↔ ∃ event, moment.concluded? = some (event,.error failure) := by
  rw [failure?,Option.bind_eq_some_iff]
  constructor
  · rintro ⟨⟨event,result⟩,concludes,fails⟩
    cases result with
    | ok step => cases fails
    | error failure => cases fails; exact ⟨event,concludes⟩
  · rintro ⟨event,concludes⟩
    exact ⟨_,concludes,rfl⟩

/-- Where no macrostep of an event has come to its end on top of the stack, none fails. -/
theorem failure?_eq_none {moment : Moment M}
    (elsewhere : ∀ drainer firstError event failure below,
      moment.deed = .go →
        moment.here.self.stack ≠ .reacting drainer firstError event (.done (.error failure)) :: below) :
    moment.failure? = none := by
  rw [Option.eq_none_iff_forall_ne_some]
  intro failure fails
  obtain ⟨event,concludes⟩ := failure?_eq_some_iff.mp fails
  obtain ⟨go,drainer,firstError,below,top⟩ := concluded?_eq_some_iff.mp concludes
  exact elsewhere drainer firstError event failure below go top

end Moment

/-- The events for which macrosteps have begun, in that order. -/
def undertaken (trail : List (Moment M)) : List (Event M) := trail.filterMap Moment.taken?

/-- The events whose macrosteps are over, in that order, each with what its macrostep has come to. -/
def concluded (trail : List (Moment M)) : List (Event M × Except (Failure M.State) (Step M)) :=
  trail.filterMap Moment.concluded?

/-- The failures of events to be processed, in that order. -/
def failures (trail : List (Moment M)) : List (Failure M.State) := trail.filterMap Moment.failure?

/-- The failures are those of the macrosteps that are over, in the same order. -/
theorem failures_eq (trail : List (Moment M)) : failures trail = (concluded trail).filterMap fun concluded =>
    match concluded.2 with
    | .ok _ => none
    | .error failure => some failure := by
  rw [failures,concluded,List.filterMap_filterMap]
  rfl

theorem undertaken_snoc (trail : List (Moment M)) (moment : Moment M) :
    undertaken (trail ++ [moment]) = undertaken trail ++ moment.taken?.toList := by
  rw [undertaken,List.filterMap_append]
  cases takes : moment.taken? <;> simp [takes,undertaken]

theorem concluded_snoc (trail : List (Moment M)) (moment : Moment M) :
    concluded (trail ++ [moment]) = concluded trail ++ moment.concluded?.toList := by
  rw [concluded,List.filterMap_append]
  cases concludes : moment.concluded? <;> simp [concludes,concluded]

theorem failures_snoc (trail : List (Moment M)) (moment : Moment M) :
    (failures (trail ++ [moment])).head? = (failures trail).head?.or moment.failure? := by
  rw [failures,List.filterMap_append,List.head?_append]
  cases fails : moment.failure? <;> simp [fails,failures]

/-! ## The drain in progress -/

theorem Frame.holdsFlag_of_drain? {frame : Frame M} {drain : Drainer M × Option (Failure M.State)}
    (drains : frame.drain? = some drain) : frame.holdsFlag = true := by
  cases frame with
  | draining _ _ => rfl
  | reacting _ _ _ _ => rfl
  | _ => cases drains

/-- On a stack, right upon the calls that its caller had in progress before, lies a drain that has met this
failure first. -/
def Carries (stack base : List (Frame M)) (drainer : Drainer M) (firstError : Option (Failure M.State)) : Prop :=
  ∃ above frame, stack = above ++ frame :: base ∧ frame.drain? = some (drainer,firstError)

namespace Carries

variable {stack base below : List (Frame M)} {top frame : Frame M} {drainer : Drainer M}
  {firstError : Option (Failure M.State)}

theorem onTop (drains : frame.drain? = some (drainer,firstError)) : Carries (frame :: base) base drainer firstError :=
  ⟨[],frame,rfl,drains⟩

theorem push (calls : List (Frame M)) (carries : Carries stack base drainer firstError) :
    Carries (calls ++ stack) base drainer firstError := by
  obtain ⟨above,frame,rfl,drains⟩ := carries
  exact ⟨calls ++ above,frame,(List.append_assoc _ _ _).symm,drains⟩

/-- The call on top is the drain, or the drain lies below it. -/
theorem cases (carries : Carries (top :: below) base drainer firstError) :
    (top.drain? = some (drainer,firstError) ∧ below = base) ∨
      ((∃ other ∈ below, other.holdsFlag = true) ∧ Carries below base drainer firstError) := by
  obtain ⟨above,frame,split,drains⟩ := carries
  rcases List.cons_eq_append_iff.mp split with ⟨_,same⟩ | ⟨between,_,rest⟩
  · cases same
    exact .inl ⟨drains,rfl⟩
  · exact .inr ⟨⟨frame,by rw [rest]; simp,Frame.holdsFlag_of_drain? drains⟩,between,frame,rest,drains⟩

/-- Other calls take the place of the one on top. If that is the drain, they are its parts. -/
theorem replaced (calls : List (Frame M)) (carries : Carries (top :: below) base drainer firstError)
    (own : top.drain? = some (drainer,firstError) → Carries (calls ++ base) base drainer firstError) :
    Carries (calls ++ below) base drainer firstError := by
  rcases carries.cases with ⟨drains,rfl⟩ | ⟨_,lower⟩
  · exact own drains
  · exact lower.push calls

/-- A part of a start or a drain is on top: it is the drain itself. -/
theorem own {self : Interpreter M} {others : List (Frame M)} (carries : Carries self.stack base drainer firstError)
    (sound : Sound graph options self others) (first : self.stack = top :: below) (holds : top.holdsFlag = true) :
    top.drain? = some (drainer,firstError) ∧ below = base := by
  rw [first] at carries
  rcases carries.cases with own | ⟨⟨other,member,too⟩,_⟩
  · exact own
  · rw [sound.alone first holds other (List.mem_append_left _ member)] at too
    cases too

end Carries

section
variable {self next : Interpreter M} {waiting : List (List (Frame M))} {base : List (Frame M)} {drainer : Drainer M}
  {firstError : Option (Failure M.State)}

/-- Whoever calls in, the drain stays where it lies. -/
theorem Turn.carries {deed : Deed M} (turn : Turn self deed next) (still : deed ≠ .go)
    (carries : Carries self.stack base drainer firstError) : Carries next.stack base drainer firstError := by
  have posted : ∀ {self : Interpreter M} (event : Event M), Carries self.stack base drainer firstError →
      Carries (self.post event).1.stack base drainer firstError := by
    intro self event carries
    rcases self.post_cases event with ⟨_,result⟩ | ⟨_,result⟩ | ⟨_,_,result⟩ | ⟨_,_,result⟩ <;> rw [result]
    · exact carries
    · exact carries
    · exact carries
    · exact carries.push [_]
  cases turn with
  | start clocked =>
    rcases self.start_cases clocked with ⟨_,result⟩ | ⟨_,result⟩ | ⟨_,result⟩ <;> rw [result]
    · exact carries
    · exact carries
    · exact carries.push [_]
  | send signal => exact posted _ carries
  | stop =>
    rcases self.stop_cases with ⟨_,result⟩ | ⟨_,_,result⟩ <;> rw [result]
    · exact carries
    · exact carries.push [_]
  | subscribe listener => exact carries
  | unsubscribe number => exact carries
  | answer asked given =>
    rcases Interpreter.resume_cases asked with ⟨_,top,resumed⟩ | ⟨_,_,_,_,top,resumed⟩ <;>
      rw [resumed] <;> rw [top] at carries
    · exact carries.replaced [_] nofun
    · exact carries.replaced [_] fun own => .onTop own
  | told top =>
    rw [Interpreter.notified_eq top]
    rw [top] at carries
    exact carries.replaced [_] nofun
  | go _ => exact absurd rfl still
  | sleep _ _ => exact carries
  | @deliver place _ event _ _ =>
    have same : Carries (self.setActivity place none).stack base drainer firstError := carries
    exact posted event same

/-- When the call on top goes on, the drain notes a failure of its own unless it has met one before, and it returns
when the mailbox is empty. -/
theorem Interpreter.tick_carries (sound : Sound graph options self waiting.flatten)
    (carries : Carries self.stack base drainer firstError) :
    ((⟨⟨self,waiting⟩,.go⟩ : Moment M).reply? = some (drainer.reply firstError) ∧ self.mailbox = [] ∧
      self.tick.1.stack = base) ∨
    Carries self.tick.1.stack base drainer (firstError.or (⟨⟨self,waiting⟩,.go⟩ : Moment M).failure?) := by
  -- unless a macrostep has failed, the same failure is noted as before
  have fine : ∀ {stack}, Carries stack base drainer firstError →
      (∀ drainer firstError event failure below,
        self.stack ≠ .reacting drainer firstError event (.done (.error failure)) :: below) →
      Carries stack base drainer (firstError.or (⟨⟨self,waiting⟩,.go⟩ : Moment M).failure?) := by
    intro stack carries other
    rwa [Moment.failure?_eq_none fun drainer firstError event failure below _ =>
      other drainer firstError event failure below,Option.or_none]
  have noted : ∀ calls {by_ met event failure below},
      self.stack = .reacting by_ met event (.done (.error failure)) :: below →
      Carries (calls ++ .draining by_ (some (met.getD failure)) :: below) base drainer
        (firstError.or (⟨⟨self,waiting⟩,.go⟩ : Moment M).failure?) := by
    intro calls by_ met event failure below top
    obtain ⟨drains,same⟩ := carries.own sound top rfl
    cases drains
    subst same
    have fails : (⟨⟨self,waiting⟩,.go⟩ : Moment M).failure? = some failure :=
      Moment.failure?_eq_some_iff.mpr ⟨event,Moment.concluded?_eq_some_iff.mpr ⟨rfl,_,_,_,top⟩⟩
    rw [fails]
    exact (Carries.onTop (by cases firstError <;> rfl)).push calls
  have ticks := self.ticks
  have replies : ∀ {by_ met below}, self.stack = .draining by_ met :: below → self.mailbox = [] →
      (⟨⟨self,waiting⟩,.go⟩ : Moment M).reply? = some (by_.reply met) := by
    intro by_ met below top empty
    simp [Moment.reply?,top,Frame.holdsFlag,Interpreter.tick,empty]
  generalize self.tick.1 = next at ticks ⊢
  cases ticks with
  | startCommitted top _ =>
    have drains := (carries.own sound top rfl).1
    cases drains
  | startOverruled top _ =>
    have drains := (carries.own sound top rfl).1
    cases drains
  | startFailed top =>
    have drains := (carries.own sound top rfl).1
    cases drains
  | drained top empty =>
    obtain ⟨drains,same⟩ := carries.own sound top rfl
    cases drains
    exact .inl ⟨replies top empty,empty,same⟩
  | taken top _ _ _ =>
    obtain ⟨drains,same⟩ := carries.own sound top rfl
    exact .inr (fine (same ▸ .onTop drains) (by simp [top]))
  | dropped top _ _ => exact .inr (fine carries (by simp [top]))
  | stepCommitted top _ =>
    obtain ⟨drains,same⟩ := carries.own sound top rfl
    exact .inr (fine (same ▸ Carries.push [_] (.onTop (by exact drains))) (by simp [top]))
  | stepOverruled top _ =>
    obtain ⟨drains,same⟩ := carries.own sound top rfl
    exact .inr (fine (same ▸ .onTop drains) (by simp [top]))
  | faulted top _ _ => exact .inr (noted [_] top)
  | stepFailed top _ => exact .inr (noted [] top)
  | released top _ =>
    have lower := (top ▸ carries).replaced [] fun drains => by cases drains
    exact .inr (fine lower (by simp [top]))
  | heard top _ =>
    have lower := (top ▸ carries).replaced [] fun drains => by cases drains
    exact .inr (fine lower (by simp [top]))
  | idle still =>
    refine .inr (fine carries ?_)
    intro drainer firstError event failure below top
    rcases still with empty | waits
    · rw [empty] at top
      cases top
    · exact waits (by simp [Interpreter.prompt,top])

end

namespace Gathering

variable {first here next : Gathering M} {deed : Deed M} {trail : List (Moment M)} {base : List (Frame M)}
  {drainer : Drainer M} {firstError : Option (Failure M.State)}

/-- A drain is in progress, of whichever caller: it lies upon the calls that this caller had in progress before, and
has met this failure first. -/
def Drains (here : Gathering M) (base : List (Frame M)) (drainer : Drainer M)
    (firstError : Option (Failure M.State)) : Prop :=
  ∃ stack ∈ here.self.stack :: here.waiting, Carries stack base drainer firstError

/-- A part of a start or a drain is on top: it is that drain. -/
theorem Drains.onTop (drains : here.Drains base drainer firstError)
    (sound : Sound graph options here.self here.waiting.flatten) {top : Frame M} {below : List (Frame M)}
    (first : here.self.stack = top :: below) (holds : top.holdsFlag = true) :
    top.drain? = some (drainer,firstError) ∧ below = base := by
  obtain ⟨stack,member,carries⟩ := drains
  rcases List.mem_cons.mp member with rfl | waits
  · exact carries.own sound first holds
  · obtain ⟨above,frame,split,drains⟩ := carries
    have free := sound.alone first holds frame
      (List.mem_append_right _ (List.mem_flatten.mpr ⟨stack,waits,by rw [split]; simp⟩))
    rw [Frame.holdsFlag_of_drain? drains] at free
    cases free

/-- When the start or the drain on top returns, it is that drain. The mailbox is empty then, and the failure that the
drain has met is what it returns. -/
theorem Drains.returns (drains : here.Drains base drainer firstError)
    (sound : Sound graph options here.self here.waiting.flatten) {reply : Reply M}
    (returns : (⟨here,.go⟩ : Moment M).reply? = some reply) :
    here.self.stack = .draining drainer firstError :: base ∧ here.self.mailbox = [] ∧
      reply = drainer.reply firstError := by
  obtain ⟨frame,below,top,holds,replies⟩ := Moment.reply?_eq_some_iff.mp returns |>.2
  simp only at top replies
  obtain ⟨own,same⟩ := drains.onTop sound top holds
  match frame, own with
  | .draining _ _, rfl =>
    cases mail : here.self.mailbox with
    | nil =>
      rw [Interpreter.tick,top,mail] at replies
      cases replies
      exact ⟨by rw [top,same],rfl,rfl⟩
    | cons event rest => rw [Interpreter.tick,top,mail] at replies; cases replies
  | .reacting _ _ _ (.ask _ _), _ => rw [Interpreter.tick,top] at replies; cases replies
  | .reacting _ _ _ (.done (.ok _)), _ => rw [Interpreter.tick,top] at replies; cases replies
  | .reacting _ _ _ (.done (.error _)), _ => rw [Interpreter.tick,top] at replies; cases replies

theorem Moves.drains (moves : here.Moves deed next) (sound : Sound graph options here.self here.waiting.flatten)
    (drains : here.Drains base drainer firstError) :
    (∃ reply, (⟨here,deed⟩ : Moment M).reply? = some reply) ∨
      next.Drains base drainer (firstError.or (⟨here,deed⟩ : Moment M).failure?) := by
  obtain ⟨stack,member,carries⟩ := drains
  have silent : deed ≠ .go → (⟨here,deed⟩ : Moment M).failure? = none :=
    fun still => Moment.failure?_eq_none fun _ _ _ _ _ go => absurd go still
  cases moves with
  | @turn self next deed waiting turn =>
    rcases List.mem_cons.mp member with rfl | waits
    · by_cases go : deed = .go
      · subst go
        cases turn with
        | go _ =>
          rcases Interpreter.tick_carries sound carries with ⟨replies,_⟩ | carries
          · exact .inl ⟨_,replies⟩
          · exact .inr ⟨_,List.mem_cons_self,carries⟩
      · rw [silent go,Option.or_none]
        exact .inr ⟨_,List.mem_cons_self,turn.carries go carries⟩
    · -- while the caller of the drain waits, nobody else computes a macrostep
      have none : (⟨⟨self,waiting⟩,deed⟩ : Moment M).failure? = none := by
        refine Moment.failure?_eq_none fun _ _ _ _ _ _ top => ?_
        obtain ⟨above,frame,split,drains⟩ := carries
        have free := sound.alone top rfl frame
          (List.mem_append_right _ (List.mem_flatten.mpr ⟨stack,waits,by rw [split]; simp⟩))
        rw [Frame.holdsFlag_of_drain? drains] at free
        cases free
      rw [none,Option.or_none]
      exact .inr ⟨stack,List.mem_cons_of_mem _ waits,carries⟩
  | back =>
    rw [silent nofun,Option.or_none]
    refine .inr ⟨stack,?_,carries⟩
    simp only [List.mem_cons,List.mem_append] at member ⊢
    rcases member with own | before | other | after
    · exact .inr (.inr (.inl own))
    · exact .inr (.inl before)
    · exact .inl other
    · exact .inr (.inr (.inr after))
  | join =>
    rw [silent nofun,Option.or_none]
    exact .inr ⟨stack,List.mem_cons_of_mem _ member,carries⟩

/-- A drain is in progress until it returns, and has met the failures that there have been meanwhile. -/
theorem Trail.drains (run : first.Trail trail here) (sound : Sound graph options first.self first.waiting.flatten)
    (drains : first.Drains base drainer firstError) (unreturned : ∀ moment ∈ trail, moment.reply? = none) :
    here.Drains base drainer (firstError.or (failures trail).head?) := by
  induction run with
  | here => rwa [failures,List.filterMap_nil,List.head?_nil,Option.or_none]
  | @onward trail deed here next run moves ih =>
    have before := ih fun moment member => unreturned moment (List.mem_append_left _ member)
    obtain ⟨_,path⟩ := run.path
    rcases moves.drains (path.sound sound) before with ⟨reply,returns⟩ | further
    · rw [unreturned _ (List.mem_append_right _ (List.mem_singleton_self _))] at returns
      cases returns
    · rw [failures_snoc,← Option.or_assoc]
      exact further

end Gathering

/-! ## What has begun is brought to an end -/

namespace Sound

variable {self : Interpreter M} {others below : List (Frame M)} {drainer : Drainer M}
  {firstError : Option (Failure M.State)} {event : Event M}

/-- When the end of a macrostep has been seen to, no macrostep is in progress. -/
theorem none_left {result : Except (Failure M.State) (Step M)} (sound : Sound graph options self others)
    (top : self.stack = .reacting drainer firstError event (.done result) :: below) :
    (self.tick.1.stack ++ others).filter Frame.isMacrostep = [] := by
  have none := sound.no_other top rfl
  rw [Interpreter.tick,top]
  cases result with
  | ok step => simp only [Interpreter.finishStep]; split <;> exact none
  | error failure => simp only [Interpreter.abandonStep]; split <;> exact none

/-- When an event has been taken, its macrostep is in progress. -/
theorem taken {rest : List (Event M)} (sound : Sound graph options self others)
    (top : self.stack = .draining drainer firstError :: below) (mail : self.mailbox = event :: rest)
    (running : self.core.status = .running) (accepted : self.core.accepts event = true) :
    ((self.tick.1.stack ++ others).filter Frame.isMacrostep).filterMap Frame.reaction? = [event] := by
  have none := sound.no_other top rfl
  simp only [Interpreter.tick,top,mail,Interpreter.processNext,running,accepted,decide_true,Bool.and_self,if_true,
    List.cons_append]
  rw [List.filter_cons_of_pos rfl,none]
  rfl

end Sound

namespace Gathering

variable {first here next last : Gathering M} {deed : Deed M} {trail more : List (Moment M)}

/-- The events whose macrosteps are in progress. -/
def reactions (here : Gathering M) : List (Event M) := here.macrosteps.filterMap Frame.reaction?

/-- The macrostep of an event begins when the event is taken, and is in progress until it is over. -/
theorem Moves.reactions (moves : here.Moves deed next) (sound : Sound graph options here.self here.waiting.flatten) :
    here.reactions ++ (⟨here,deed⟩ : Moment M).taken?.toList =
      (⟨here,deed⟩ : Moment M).concluded?.toList.map Prod.fst ++ next.reactions := by
  cases concludes : (⟨here,deed⟩ : Moment M).concluded? with
  | some outcome =>
    obtain ⟨event,result⟩ := outcome
    obtain ⟨go,drainer,firstError,below,top⟩ := Moment.concluded?_eq_some_iff.mp concludes
    simp only at go top
    subst go
    have untaken : (⟨here,.go⟩ : Moment M).taken? = none := by simp [Moment.taken?,Moment.handed?,top]
    have mine : here.macrosteps = [.reacting drainer firstError event (.done result)] := sound.only_macrostep top rfl
    have cleared : next.macrosteps = [] := by
      rw [moves.of_go]
      exact sound.none_left top
    rw [untaken,Gathering.reactions,Gathering.reactions,mine,cleared]
    rfl
  | none =>
    cases takes : (⟨here,deed⟩ : Moment M).taken? with
    | some event =>
      obtain ⟨hands,running,accepted⟩ := Moment.taken?_eq_some_iff.mp takes
      obtain ⟨go,drainer,firstError,below,rest,top,mail⟩ := Moment.handed?_eq_some_iff.mp hands
      simp only at go top mail running accepted
      subst go
      have idle : here.macrosteps = [] := by
        rw [macrosteps,frames,top,List.cons_append,List.filter_cons_of_neg (by simp [Frame.isMacrostep])]
        exact sound.no_other top rfl
      have begun : next.reactions = [event] := by
        rw [moves.of_go]
        exact sound.taken top mail running accepted
      rw [begun,Gathering.reactions,idle]
      rfl
    | none =>
      rw [Option.toList_none,Option.toList_none,List.append_nil,List.map_nil,List.nil_append,Gathering.reactions,
        Gathering.reactions]
      rcases moves.course sound with ⟨before,after⟩ | ⟨before,frame,begins,after⟩ |
        ⟨frame,later,before,after,advances⟩ | ⟨frame,before,after,finishes⟩
      · rw [before,after]
      · cases begins with
        | start clocked unstarted => rw [before,after]; rfl
        | take top mail running accepted =>
          have hands : (⟨here,.go⟩ : Moment M).handed? = some _ :=
            Moment.handed?_eq_some_iff.mpr ⟨rfl,_,_,_,_,top,mail⟩
          rw [Moment.taken?_eq_some_iff.mpr ⟨hands,running,accepted⟩] at takes
          cases takes
      · rw [before,after]
        cases advances with
        | starting _ => rfl
        | reacting _ => rfl
      · cases finishes with
        | start top => rw [before,after]; rfl
        | react top =>
          have ends : (⟨here,.go⟩ : Moment M).concluded? = some _ :=
            Moment.concluded?_eq_some_iff.mpr ⟨rfl,_,_,_,top⟩
          rw [concludes] at ends
          cases ends

/-- Only a call that goes on takes an event or is done with one. -/
theorem Moves.reactions_kept (moves : here.Moves deed next) (sound : Sound graph options here.self here.waiting.flatten)
    (still : deed ≠ .go) : next.reactions = here.reactions := by
  have goes := moves.reactions sound
  have untaken : (⟨here,deed⟩ : Moment M).taken? = none := by
    rw [Moment.taken?,Moment.handed?_eq_none still]
    rfl
  have unconcluded : (⟨here,deed⟩ : Moment M).concluded? = none := by
    rw [Option.eq_none_iff_forall_ne_some]
    rintro ⟨event,result⟩ concludes
    exact still (Moment.concluded?_eq_some_iff.mp concludes).1
  rw [untaken,unconcluded] at goes
  simpa using goes.symm

/-- The macrosteps that have begun are over or in progress. -/
theorem Trail.undertaken (run : first.Trail trail here) (sound : Sound graph options first.self first.waiting.flatten)
    (idle : first.macrosteps = []) :
    undertaken trail = (concluded trail).map Prod.fst ++ here.reactions := by
  induction run with
  | here => rw [reactions,idle]; rfl
  | @onward trail deed here next run moves ih =>
    obtain ⟨_,path⟩ := run.path
    have goes := moves.reactions (path.sound sound)
    calc Statechart.undertaken (trail ++ [⟨here,deed⟩])
        = Statechart.undertaken trail ++ (⟨here,deed⟩ : Moment M).taken?.toList := undertaken_snoc _ _
      _ = (concluded trail).map Prod.fst ++ (here.reactions ++ (⟨here,deed⟩ : Moment M).taken?.toList) := by
          rw [ih,List.append_assoc]
      _ = (concluded trail).map Prod.fst ++ (⟨here,deed⟩ : Moment M).concluded?.toList.map Prod.fst ++
            next.reactions := by
          rw [goes,List.append_assoc]
      _ = (concluded (trail ++ [⟨here,deed⟩])).map Prod.fst ++ next.reactions := by
          rw [concluded_snoc,List.map_append]

end Gathering

/-! ## What a send returns -/

/-- What comes of macrosteps that have been computed one after another: the failure of the first one that has failed,
if any. -/
def verdict : List (Event M × Except (Failure M.State) (Step M)) → Except (Failure M.State) Unit
  | [] => .ok ()
  | (_,.ok _) :: later => verdict later
  | (_,.error failure) :: _ => .error failure

theorem verdict_eq (trail : List (Moment M)) :
    .posted (verdict (concluded trail)) = Drainer.poster.reply (failures trail).head? := by
  rw [failures_eq]
  induction concluded trail with
  | nil => rfl
  | cons outcome later ih =>
    obtain ⟨event,result⟩ := outcome
    cases result with
    | ok step => exact ih
    | error failure => rfl

/-- All that came in has been seen to: nothing waits any more. -/
structure Emptied (trail : List (Moment M)) : Prop where
  /-- Whatever was accepted has been handed on in its turn, unless it was thrown away while it waited, with a stop or
  with a background fault. -/
  mail : ∃ letters, Posted trail letters [] ∧ ∀ letter ∈ letters, ∀ moment, letter.lost = some moment →
    moment.deed = .stop ∨ moment.fault?.isSome
  /-- Whatever was handed on has been taken, unless it came from an instance that did not live any more, or the machine
  was done. -/
  handed : ∀ moment ∈ trail, ∀ event, moment.handed? = some event →
    moment.taken? = some event ∨ moment.here.self.core.accepts event = false ∨ moment.here.self.core.status = .done
  /-- The macrostep of whatever was taken is over, in the same order. -/
  undertaken : undertaken trail = (concluded trail).map Prod.fst

theorem Interpreter.post_idle {self : Interpreter M} {event : Event M} (running : self.core.status = .running)
    (released : self.draining = false) :
    self.post event = ({ self with
      mailbox := self.mailbox ++ [event]
      draining := true
      stack := .draining .poster none :: self.stack },none) := by
  simp [Interpreter.post,running,released,Interpreter.push]

namespace Gathering

variable {first here next last : Gathering M} {deed : Deed M} {trail more : List (Moment M)}

/-- What has been handed on is processed, unless it comes too late. -/
theorem Reachable.handed (reachable : here.Reachable graph options) {event : Event M}
    (hands : (⟨here,deed⟩ : Moment M).handed? = some event) :
    (⟨here,deed⟩ : Moment M).taken? = some event ∨ here.self.core.accepts event = false ∨
      here.self.core.status = .done := by
  obtain ⟨_,_,_,_,rest,_,mail⟩ := Moment.handed?_eq_some_iff.mp hands
  simp only at mail
  have waits : here.self.mailbox ≠ [] := by rw [mail]; exact List.cons_ne_nil _ _
  have sound := reachable.sound
  cases accepted : here.self.core.accepts event with
  | false => exact .inr (.inl rfl)
  | true =>
    cases status : here.self.core.status with
    | notStarted => exact absurd (sound.unstarted status).2.1 waits
    | running => exact .inl (Moment.taken?_eq_some_iff.mpr ⟨hands,status,accepted⟩)
    | done => exact .inr (.inr rfl)
    | stopped => exact absurd (sound.ended (.inl status)).1 waits
    | failed => exact absurd (sound.ended (.inr status)).1 waits

/-- The mail is not thrown away with a failed start as long as another drain is in progress. -/
theorem Drains.clears {base : List (Frame M)} {drainer : Drainer M} {firstError : Option (Failure M.State)}
    (drains : here.Drains base drainer firstError) (sound : Sound graph options here.self here.waiting.flatten)
    (clears : (⟨here,deed⟩ : Moment M).Clears) : deed = .stop ∨ (⟨here,deed⟩ : Moment M).fault?.isSome := by
  cases clears with
  | stopped stop _ _ => exact .inl stop
  | faulted go top outcome running =>
    exact .inr (Option.isSome_iff_exists.mpr ⟨_,Moment.fault?_eq_some_iff.mpr ⟨go,_,_,_,_,top,outcome,running⟩⟩)
  | startFailed go top => exact absurd (drains.onTop sound top rfl).1 nofun

/-- Where neither a macrostep is in progress nor mail waits, all that comes in has been seen to when that is so again,
unless a start fails meanwhile. -/
theorem Trail.emptied {past : List (Moment M)} (before : (fresh graph options).Trail past first)
    (run : first.Trail trail here) (idle : first.macrosteps = []) (empty : first.self.mailbox = [])
    (finished : here.macrosteps = []) (emptied : here.self.mailbox = [])
    (clears : ∀ moment ∈ trail, moment.Clears → moment.deed = .stop ∨ moment.fault?.isSome) : Emptied trail := by
  refine ⟨?_,?_,?_⟩
  · obtain ⟨letters,posted⟩ := run.posted_since empty
    rw [emptied] at posted
    refine ⟨letters,posted,?_⟩
    intro letter member moment gone
    obtain ⟨among,cleared,_⟩ := posted.lost letter member moment gone
    exact clears moment among cleared
  · intro moment member event hands
    obtain ⟨earlier,later,split⟩ := List.append_of_mem member
    subst split
    obtain ⟨_,till,_,_⟩ := run.split
    exact (before.append till).reachable.handed hands
  · rw [run.undertaken before.reachable.sound idle,reactions,finished]
    exact List.append_nil _

/-- A send that finds nobody at work does not return at once, but begins to empty the mailbox. -/
theorem Moves.send_drains {signal : M.Signal} (sends : here.Moves (.send signal) first)
    (running : here.self.core.status = .running) (released : here.self.draining = false) :
    first.Drains here.self.stack .poster none := by
  cases sends with
  | turn turn =>
    cases turn with
    | send _ =>
      rw [Interpreter.post_idle running released]
      exact ⟨_,List.mem_cons_self,.onTop rfl⟩

/-- A send that is made while the interpreter is running and nobody is at work on it returns what has come of the first
event that has failed since, and it returns when everything has been seen to. -/
theorem Reachable.send_returns (reachable : here.Reachable graph options) (idle : here.Idle)
    (running : here.self.core.status = .running) {signal : M.Signal} {reply : Reply M}
    (sends : here.Moves (.send signal) first) (run : first.Trail more last)
    (unreturned : ∀ moment ∈ more, moment.reply? = none) (returns : (⟨last,.go⟩ : Moment M).reply? = some reply) :
    reply = .posted (verdict (concluded more)) ∧ last.self.tick.1.stack = here.self.stack ∧
      Emptied (⟨here,.send signal⟩ :: more) := by
  have released := reachable.idle_iff.mpr idle
  obtain ⟨past,before⟩ := reachable.trail
  have since := before.onward sends
  have drains := sends.send_drains running released
  have whole : here.Trail (⟨here,.send signal⟩ :: more) last := (Trail.here.onward sends).append run
  have sound := since.reachable.sound
  have lastSound := (since.append run).reachable.sound
  obtain ⟨top,emptied,replies⟩ := (run.drains sound drains unreturned).returns lastSound returns
  refine ⟨?_,?_,?_⟩
  · rw [replies,verdict_eq,Option.none_or]
  · rw [Interpreter.tick,top,emptied]
  · have finished : last.macrosteps = [] := by
      rw [macrosteps,frames,top,List.cons_append,List.filter_cons_of_neg (by simp [Frame.isMacrostep])]
      exact lastSound.no_other top rfl
    refine Trail.emptied before whole idle.no_macrostep (before.attended released) finished emptied ?_
    intro moment member clears
    rcases List.mem_cons.mp member with rfl | later
    · cases clears with
      | stopped stop _ _ => exact .inl stop
      | faulted go _ _ _ => cases go
      | startFailed go _ => cases go
    · obtain ⟨earlier,after,split⟩ := List.append_of_mem later
      subst split
      obtain ⟨_,till,_,_⟩ := run.split
      have still := till.drains sound drains fun moment member => unreturned moment (List.mem_append_left _ member)
      exact still.clears (since.append till).reachable.sound clears

/-- A send that finds somebody at work leaves its event in the mailbox, if the interpreter is running, and returns at
once. -/
theorem Reachable.post_busy (reachable : here.Reachable graph options) (busy : ¬ here.Idle) (event : Event M) :
    ∃ mailbox, here.self.post event = ({ here.self with mailbox },some (.posted (.ok ()))) := by
  rcases here.self.post_cases event with ⟨unstarted,_⟩ | ⟨_,result⟩ | ⟨_,_,result⟩ | ⟨_,released,_⟩
  · exact absurd (reachable.idle_iff.mp (reachable.sound.unstarted unstarted).1) busy
  · exact ⟨here.self.mailbox,result⟩
  · exact ⟨_,result⟩
  · exact absurd (reachable.idle_iff.mp released) busy

/-- A start that has committed its step goes on to empty the mailbox. -/
theorem Moves.start_drains {pending : Pending M} {base : List (Frame M)} {step : Step M} (moves : here.Moves .go first)
    (top : here.self.stack = .starting pending :: base) (now : (⟨here,.go⟩ : Moment M).step? = some step) :
    first.Drains base (.start (here.self.core.commit step).snapshot) none := by
  obtain ⟨_,admitted,frame,below,first,result⟩ := Moment.step?_eq_some_iff.mp now
  simp only at admitted first
  rw [top] at first
  cases first
  match pending, result with
  | .done (.ok _), rfl =>
    rw [moves.of_go,Interpreter.tick,top]
    simp only [Interpreter.finishStart,admitted,if_true]
    exact ⟨_,List.mem_cons_self,Carries.push [_] (.onTop rfl)⟩

/-- A send that is made while the interpreter is running and nobody is at work on it does not return at once. By the
time it returns, whatever has come in since has been seen to, and it returns the failure of the first event that has
failed meanwhile, if any. A send that is made while somebody is at work leaves its event in the mailbox and returns
at once. A start returns the snapshot of the step that it has committed, whatever fails afterwards. -/
theorem what_send_returns (reachable : here.Reachable graph options) :
    (here.Idle → here.self.core.status = .running → ∀ signal, (here.self.post (.signal signal)).2 = none ∧
      ∀ first more last reply, here.Moves (.send signal) first → first.Trail more last →
        (∀ moment ∈ more, moment.reply? = none) → (⟨last,.go⟩ : Moment M).reply? = some reply →
          reply = .posted (verdict (concluded more)) ∧ last.self.tick.1.stack = here.self.stack ∧
            Emptied (⟨here,.send signal⟩ :: more)) ∧
    (¬ here.Idle → ∀ signal, ∃ mailbox,
      here.self.post (.signal signal) = ({ here.self with mailbox },some (.posted (.ok ())))) ∧
    ∀ pending base step, here.self.stack = .starting pending :: base → (⟨here,.go⟩ : Moment M).step? = some step →
      ∀ first more last reply, here.Moves .go first → first.Trail more last →
        (∀ moment ∈ more, moment.reply? = none) → (⟨last,.go⟩ : Moment M).reply? = some reply →
          reply = .started (.ok (here.self.core.commit step).snapshot) ∧ last.self.tick.1.stack = base := by
  refine ⟨?_,?_,?_⟩
  · intro idle running signal
    refine ⟨by rw [Interpreter.post_idle running (reachable.idle_iff.mpr idle)],?_⟩
    intro first more last reply sends run unreturned returns
    exact reachable.send_returns idle running sends run unreturned returns
  · intro busy signal
    exact reachable.post_busy busy _
  · intro pending base step top now first more last reply moves run unreturned returns
    obtain ⟨past,before⟩ := reachable.trail
    have since := before.onward moves
    have drains := run.drains since.reachable.sound (moves.start_drains top now) unreturned
    obtain ⟨top',emptied,replies⟩ := drains.returns (since.append run).reachable.sound returns
    exact ⟨replies,by rw [Interpreter.tick,top',emptied]⟩

/-- A chart that fails when it is told to go, and can be told to go back afterwards. -/
def lantern : Graph Bench.machine where
  id := "lantern"
  initial := .a
  context := {}
  nodes := [
    { Node.empty (M := Bench.machine) .a with
      on := [(.go,[⟨none,[⟨"light",.effect,.fail "dark"⟩],none⟩]),(.back,[⟨none,[],some .b⟩])] },
    .empty .b]

/-- Somebody sends a signal while the lantern is being started. The start has committed its step, the signal has failed,
and the start is about to return. -/
theorem lantern_started :
    ∃ before here pending step more last, (fresh lantern {}).Trail (before ++ ⟨here,.go⟩ :: more) last ∧
      here.self.stack = [.starting pending] ∧ (⟨here,.go⟩ : Moment Bench.machine).step? = some step ∧
      more.filterMap Moment.reply? = [] ∧ (∃ reply, (⟨last,.go⟩ : Moment Bench.machine).reply? = some reply) ∧
      (here.self.core.commit step).snapshot = ⟨.a,{},.running⟩ ∧
      failures more = [.effectFailed Bench.State.a "light" ⟨"dark"⟩] := by
  have made : Trail (fresh lantern {}) [] _ := .here
  have started := made.onward (.turn (.start true))
  have queued := started.onward (.turn (.send (Bench.Signal.mk .go 0)))
  have committed := queued.onward (.turn (.go rfl))
  have told := committed.onward (.turn (.go rfl))
  have taken := told.onward (.turn (.go rfl))
  have broken := taken.onward (.turn (.answer rfl (by exact Except.error (ActionError.mk "dark"))))
  have failed := broken.onward (.turn (.go rfl))
  exact ⟨[_,_],_,_,_,[_,_,_,_],_,failed,rfl,rfl,rfl,⟨_,rfl⟩,rfl,rfl⟩

/-- The lantern has been started. Somebody sends a signal that fails, and while it is processed somebody else sends one
that does not fail. -/
theorem lantern_goes_out :
    ∃ before here more last,
      (fresh lantern {}).Trail (before ++ ⟨here,.send (Bench.Signal.mk .go 1)⟩ :: more) last ∧
      here.self.draining = false ∧ here.self.core.status = .running ∧ more.filterMap Moment.reply? = [] ∧
      (∃ reply, (⟨last,.go⟩ : Moment Bench.machine).reply? = some reply) ∧
      (concluded more).map Prod.fst = [.signal (Bench.Signal.mk .go 1),.signal (Bench.Signal.mk .back 2)] ∧
      verdict (concluded more) = .error (.effectFailed Bench.State.a "light" ⟨"dark"⟩) ∧ last.self.core.state = .b ∧
      ∃ moment ∈ more, moment.deed = .send (Bench.Signal.mk .back 2) ∧ moment.here.self.draining = true := by
  have made : Trail (fresh lantern {}) [] _ := .here
  have started := made.onward (.turn (.start true))
  have committed := started.onward (.turn (.go rfl))
  have told := committed.onward (.turn (.go rfl))
  have drained := told.onward (.turn (.go rfl))
  have sent := drained.onward (.turn (.send (Bench.Signal.mk .go 1)))
  have taken := sent.onward (.turn (.go rfl))
  have joined := taken.onward .join
  have queued := joined.onward (.turn (.send (Bench.Signal.mk .back 2)))
  have back := queued.onward (@Moves.back _ _ _ [] _)
  have broken := back.onward (.turn (.answer rfl (by exact Except.error (ActionError.mk "dark"))))
  have failed := broken.onward (.turn (.go rfl))
  have further := failed.onward (.turn (.go rfl))
  have passed := further.onward (.turn (.go rfl))
  have heard := passed.onward (.turn (.go rfl))
  exact ⟨[_,_,_,_],_,[_,_,_,_,_,_,_,_,_],_,heard,rfl,rfl,rfl,⟨_,rfl⟩,rfl,rfl,rfl,_,
    List.mem_cons_of_mem _ (List.mem_cons_of_mem _ List.mem_cons_self),rfl,rfl⟩

theorem lantern_what_send_returns :
    (∃ here more last, here.Reachable lantern {} ∧
      (⟨last,.go⟩ : Moment Bench.machine).reply? = some (.posted (.error (.effectFailed .a "light" ⟨"dark"⟩))) ∧
      (concluded more).map Prod.fst = [.signal (Bench.Signal.mk .go 1),.signal (Bench.Signal.mk .back 2)] ∧
      Emptied (⟨here,.send (Bench.Signal.mk .go 1)⟩ :: more) ∧
      ∃ moment ∈ more, moment.deed = .send (Bench.Signal.mk .back 2) ∧
        (moment.here.self.post (.signal (Bench.Signal.mk .back 2))).2 = some (.posted (.ok ()))) ∧
    ∃ (more : List (Moment Bench.machine)) (last : Gathering Bench.machine),
      failures more = [.effectFailed Bench.State.a "light" ⟨"dark"⟩] ∧
      (⟨last,.go⟩ : Moment Bench.machine).reply? = some (.started (.ok ⟨.a,{},.running⟩)) := by
  constructor
  · obtain ⟨before,here,more,last,run,released,running,silent,⟨reply,returns⟩,order,fails,_,moment,member,sends,held⟩ :=
      lantern_goes_out
    obtain ⟨first,earlier,moves,further⟩ := run.split
    have unreturned := List.filterMap_eq_nil_iff.mp silent
    obtain ⟨idle,_⟩ := what_send_returns earlier.reachable
    obtain ⟨_,drains⟩ := idle (earlier.reachable.idle_iff.mp released) running (Bench.Signal.mk .go 1)
    obtain ⟨replies,_,emptied⟩ := drains first more last reply moves further unreturned returns
    refine ⟨here,more,last,earlier.reachable,?_,order,emptied,moment,member,sends,?_⟩
    · rw [returns,replies,fails]
    · obtain ⟨begun,rest,split⟩ := List.append_of_mem member
      subst split
      obtain ⟨_,till,_,_⟩ := further.split
      have reachable := ((earlier.onward moves).append till).reachable
      obtain ⟨_,busy,_⟩ := what_send_returns reachable
      obtain ⟨mailbox,result⟩ := busy (fun idle => by rw [reachable.idle_iff.mpr idle] at held; cases held)
        (Bench.Signal.mk .back 2)
      rw [result]
  · obtain ⟨before,here,pending,step,more,last,run,top,now,silent,⟨reply,returns⟩,snapshot,fails⟩ := lantern_started
    obtain ⟨first,earlier,moves,further⟩ := run.split
    obtain ⟨_,_,starts⟩ := what_send_returns earlier.reachable
    obtain ⟨replies,_⟩ := starts pending [] step top now first more last reply moves further
      (List.filterMap_eq_nil_iff.mp silent) returns
    exact ⟨more,last,fails,by rw [returns,replies,snapshot]⟩

end Gathering

end Statechart
