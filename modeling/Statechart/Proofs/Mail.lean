import Statechart.Bench.Vocabulary
import Statechart.Proofs.Sites
import Statechart.Proofs.Trails

/-!
# Mail: first in, first out

Events are handed on in the order in which they were accepted, and none of them is lost unless the
mailbox is cleared while it waits (`first_in_first_out`). The next event is taken only when no macrostep
is in progress and every listener has been told of every step that was committed before.
-/
namespace Statechart

variable {M : Machine} {graph : Graph M} {options : Options}

/-! ## What a deed does to the mailbox -/

/-- What a moment leaves in the mailbox. -/
inductive Moment.Leaves (moment : Moment M) : List (Event M) → Prop where
  | accepted {event : Event M} (comes : moment.accepted? = some event) (untaken : moment.handed? = none) :
      Leaves moment (moment.here.self.mailbox ++ [event])
  | handed {event : Event M} {rest : List (Event M)} (closed : moment.accepted? = none)
      (goes : moment.handed? = some event) (mail : moment.here.self.mailbox = event :: rest) : Leaves moment rest
  | cleared (closed : moment.accepted? = none) (untaken : moment.handed? = none) (clears : moment.Clears) :
      Leaves moment []
  | still (closed : moment.accepted? = none) (untaken : moment.handed? = none) :
      Leaves moment moment.here.self.mailbox

theorem Interpreter.mailbox_post (self : Interpreter M) (event : Event M) :
    (self.post event).1.mailbox =
      if self.core.status = .running then self.mailbox ++ [event] else self.mailbox := by
  rcases self.post_cases event with ⟨idle,result⟩ | ⟨idle,result⟩ | ⟨running,_,result⟩ | ⟨running,_,result⟩
  · simp [result,idle]
  · simp [result,idle]
  · simp [result,running]
  · simp [result,running]

namespace Gathering

variable {here next : Gathering M}

/-- Whatever comes in is accepted while the interpreter is running, and refused otherwise. -/
theorem leaves_post {deed : Deed M} {event : Event M} {mailbox : List (Event M)}
    (comes : (⟨here,deed⟩ : Moment M).accepted? = if here.self.core.status = .running then some event else none)
    (untaken : (⟨here,deed⟩ : Moment M).handed? = none)
    (posted : mailbox = if here.self.core.status = .running then here.self.mailbox ++ [event] else here.self.mailbox) :
    (⟨here,deed⟩ : Moment M).Leaves mailbox := by
  by_cases running : here.self.core.status = .running
  · rw [if_pos running] at comes posted
    rw [posted]
    exact .accepted comes untaken
  · rw [if_neg running] at comes posted
    rw [posted]
    exact .still comes untaken

theorem leaves_tick {waiting : List (List (Frame M))} (self : Interpreter M) :
    (⟨⟨self,waiting⟩,.go⟩ : Moment M).Leaves self.tick.1.mailbox := by
  have closed : (⟨⟨self,waiting⟩,.go⟩ : Moment M).accepted? = none := by simp [Moment.accepted?]
  have taken : ∀ event, (⟨⟨self,waiting⟩,.go⟩ : Moment M).handed? = some event →
      ∃ drainer firstError below rest, self.stack = .draining drainer firstError :: below ∧ self.mailbox = event :: rest :=
    fun event goes => (Moment.handed?_eq_some_iff.mp goes).2
  have untaken : ∀ {frame below}, self.stack = frame :: below → (∀ drainer firstError, frame ≠ .draining drainer firstError) →
      (⟨⟨self,waiting⟩,.go⟩ : Moment M).handed? = none := by
    intro frame below top other
    rw [Option.eq_none_iff_forall_ne_some]
    intro event goes
    obtain ⟨drainer,firstError,_,_,drains,_⟩ := taken event goes
    rw [top] at drains
    exact other drainer firstError (List.cons.inj drains).1
  have ticks := self.ticks
  generalize self.tick.1 = next at ticks ⊢
  cases ticks with
  | startCommitted top _ => exact .still closed (untaken top (by simp))
  | startOverruled top _ => exact .still closed (untaken top (by simp))
  | startFailed top => exact .cleared closed (untaken top (by simp)) (.startFailed rfl top)
  | drained top empty =>
    refine .still closed ?_
    simp [Moment.handed?,top,empty]
  | taken top mail _ _ => exact .handed closed (Moment.handed?_eq_some_iff.mpr ⟨rfl,_,_,_,_,top,mail⟩) mail
  | dropped top mail _ => exact .handed closed (Moment.handed?_eq_some_iff.mpr ⟨rfl,_,_,_,_,top,mail⟩) mail
  | stepCommitted top _ => exact .still closed (untaken top (by simp))
  | stepOverruled top _ => exact .still closed (untaken top (by simp))
  | faulted top outcome running => exact .cleared closed (untaken top (by simp)) (.faulted rfl top outcome running)
  | stepFailed top _ => exact .still closed (untaken top (by simp))
  | released top _ => exact .still closed (untaken top (by simp))
  | heard top _ => exact .still closed (untaken top (by simp))
  | idle still =>
    refine .still closed ?_
    rw [Option.eq_none_iff_forall_ne_some]
    intro event goes
    obtain ⟨drainer,firstError,below,_,top,_⟩ := taken event goes
    rcases still with empty | waits
    · rw [empty] at top
      cases top
    · exact waits (by simp [Interpreter.prompt,top])

theorem Moves.leaves {deed : Deed M} (moves : here.Moves deed next) :
    (⟨here,deed⟩ : Moment M).Leaves next.self.mailbox := by
  have silent : ∀ {deed : Deed M}, (∀ signal, deed ≠ .send signal) → (∀ place event, deed ≠ .deliver place event) →
      (⟨here,deed⟩ : Moment M).accepted? = none := by
    intro deed unsent undelivered
    cases deed with
    | send signal => exact absurd rfl (unsent signal)
    | deliver place event => exact absurd rfl (undelivered place event)
    | _ => simp [Moment.accepted?]
  have untaken : ∀ {deed : Deed M}, deed ≠ .go → (⟨here,deed⟩ : Moment M).handed? = none :=
    fun other => Moment.handed?_eq_none other
  cases moves with
  | @turn self next deed waiting turn =>
    cases turn with
    | start clocked =>
      rcases self.start_cases clocked with ⟨_,result⟩ | ⟨_,result⟩ | ⟨_,result⟩ <;> rw [result] <;>
        exact .still (silent (by simp) (by simp)) (untaken (by simp))
    | send signal => exact leaves_post rfl (untaken (by simp)) (self.mailbox_post _)
    | stop =>
      rcases self.stop_cases with ⟨_,result⟩ | ⟨unstopped,unfailed,result⟩
      · rw [result]
        exact .still (silent (by simp) (by simp)) (untaken (by simp))
      · rw [result]
        exact .cleared (silent (by simp) (by simp)) (untaken (by simp)) (.stopped rfl unstopped unfailed)
    | subscribe listener => exact .still (silent (by simp) (by simp)) (untaken (by simp))
    | unsubscribe number => exact .still (silent (by simp) (by simp)) (untaken (by simp))
    | answer asked given =>
      rcases Interpreter.resume_cases asked with ⟨_,_,resumed⟩ | ⟨_,_,_,_,_,resumed⟩ <;> rw [resumed] <;>
        exact .still (silent (by simp) (by simp)) (untaken (by simp))
    | told top =>
      rw [Interpreter.notified_eq top]
      exact .still (silent (by simp) (by simp)) (untaken (by simp))
    | go _ => exact leaves_tick self
    | sleep _ _ => exact .still (silent (by simp) (by simp)) (untaken (by simp))
    | @deliver place _ event _ _ =>
      exact leaves_post rfl (untaken (by simp)) ((self.setActivity place none).mailbox_post event)
  | back => exact .still (silent (by simp) (by simp)) (untaken (by simp))
  | join => exact .still (silent (by simp) (by simp)) (untaken (by simp))

end Gathering

/-! ## What becomes of every event -/

/-- An event that does not wait any more: it has been handed on, or the moment is known at which it was
lost. -/
structure Letter (M : Machine) where
  event : Event M
  lost : Option (Moment M)

/-- Those of some letters that were handed on. -/
def Letter.arrived (letters : List (Letter M)) : List (Event M) :=
  (letters.filter fun letter => letter.lost.isNone).map Letter.event

/-- What has become of the events that were accepted during a trail. -/
structure Posted (trail : List (Moment M)) (letters : List (Letter M)) (mailbox : List (Event M)) : Prop where
  /-- The oldest are not waiting any more, and the mailbox holds the others. -/
  accepted : accepted trail = letters.map Letter.event ++ mailbox
  /-- They are handed on in the order in which they were accepted, each once. -/
  handed : handed trail = Letter.arrived letters
  /-- Whatever was lost waited in the mailbox when it was cleared. -/
  lost : ∀ letter ∈ letters, ∀ moment, letter.lost = some moment →
    moment ∈ trail ∧ moment.Clears ∧ letter.event ∈ moment.here.self.mailbox

theorem Posted.onward {trail : List (Moment M)} {letters : List (Letter M)} {moment : Moment M}
    {mailbox : List (Event M)} (posted : Posted trail letters moment.here.self.mailbox)
    (leaves : moment.Leaves mailbox) : ∃ more, Posted (trail ++ [moment]) (letters ++ more) mailbox := by
  obtain ⟨accepted_eq,handed_eq,lost⟩ := posted
  have older : ∀ letter ∈ letters, ∀ cleared, letter.lost = some cleared →
      cleared ∈ trail ++ [moment] ∧ cleared.Clears ∧ letter.event ∈ cleared.here.self.mailbox := by
    intro letter member cleared gone
    obtain ⟨among,clears,waited⟩ := lost letter member cleared gone
    exact ⟨List.mem_append_left _ among,clears,waited⟩
  cases leaves with
  | accepted comes untaken =>
    refine ⟨[],?_,?_,?_⟩
    · rw [accepted_append,accepted_singleton,comes,accepted_eq]
      simp
    · rw [handed_append,handed_singleton,untaken,handed_eq]
      simp
    · simpa using older
  | @handed event rest closed goes mail =>
    refine ⟨[⟨event,none⟩],?_,?_,?_⟩
    · rw [accepted_append,accepted_singleton,closed,accepted_eq,mail]
      simp
    · rw [handed_append,handed_singleton,goes,handed_eq]
      simp [Letter.arrived]
    · intro letter member cleared gone
      rcases List.mem_append.mp member with old | new
      · exact older letter old cleared gone
      · rw [List.mem_singleton.mp new] at gone
        cases gone
  | cleared closed untaken clears =>
    refine ⟨moment.here.self.mailbox.map fun event => ⟨event,some moment⟩,?_,?_,?_⟩
    · rw [accepted_append,accepted_singleton,closed,accepted_eq]
      simp [Function.comp_def]
    · rw [handed_append,handed_singleton,untaken,handed_eq]
      simp [Letter.arrived,List.filter_map,Function.comp_def]
    · intro letter member cleared gone
      rcases List.mem_append.mp member with old | new
      · exact older letter old cleared gone
      · obtain ⟨event,waited,same⟩ := List.mem_map.mp new
        subst same
        cases gone
        exact ⟨by simp,clears,waited⟩
  | still closed untaken =>
    refine ⟨[],?_,?_,?_⟩
    · rw [accepted_append,accepted_singleton,closed,accepted_eq]
      simp
    · rw [handed_append,handed_singleton,untaken,handed_eq]
      simp
    · simpa using older

namespace Gathering

/-- Where no mail waits at first, whatever is accepted afterwards has been handed on, has been lost or waits still. -/
theorem Trail.posted_since {first here : Gathering M} {trail : List (Moment M)} (run : first.Trail trail here)
    (empty : first.self.mailbox = []) : ∃ letters, Posted trail letters here.self.mailbox := by
  induction run with
  | here =>
    rw [empty]
    refine ⟨[],rfl,rfl,?_⟩
    intro letter member
    cases member
  | onward _ moves ih =>
    obtain ⟨letters,posted⟩ := ih
    obtain ⟨more,posted⟩ := posted.onward moves.leaves
    exact ⟨_,posted⟩

theorem Trail.posted {here : Gathering M} {trail : List (Moment M)} (run : (fresh graph options).Trail trail here) :
    ∃ letters, Posted trail letters here.self.mailbox := run.posted_since rfl

/-- As long as the mailbox is not cleared, whatever waited or has been accepted has been handed on or is
waiting still, in the same order. -/
theorem Trail.conserves {first here : Gathering M} {trail : List (Moment M)} (run : first.Trail trail here)
    (kept : ∀ moment ∈ trail, ¬ moment.Clears) :
    first.self.mailbox ++ accepted trail = handed trail ++ here.self.mailbox := by
  induction run with
  | here => simp [accepted,handed]
  | @onward trail deed here next _ moves ih =>
    have before := ih fun moment member => kept moment (List.mem_append_left _ member)
    have leaves := moves.leaves
    generalize next.self.mailbox = mailbox at leaves
    rw [accepted_append,handed_append,accepted_singleton,handed_singleton,← List.append_assoc,before]
    cases leaves with
    | accepted comes untaken => simp [comes,untaken]
    | handed closed goes mail =>
      simp only at mail
      simp [closed,goes,mail]
    | cleared _ _ clears => exact absurd clears (kept _ (by simp))
    | still closed untaken => simp [closed,untaken]

/-- What was handed on is a part of what was accepted. -/
theorem Trail.handed_sublist {here : Gathering M} {trail : List (Moment M)}
    (run : (fresh graph options).Trail trail here) : (handed trail).Sublist (accepted trail) := by
  obtain ⟨letters,posted⟩ := run.posted
  rw [posted.handed,posted.accepted]
  exact (List.filter_sublist.map _).trans (List.sublist_append_left _ _)

end Gathering

/-! ## Mail does not wait for nobody -/

/-- Where mail waits, somebody holds the flag. -/
theorem Turn.attended {self next : Interpreter M} {deed : Deed M} (turn : Turn self deed next)
    (attended : self.draining = false → self.mailbox = []) : next.draining = false → next.mailbox = [] := by
  have post : ∀ (self : Interpreter M) event, (self.draining = false → self.mailbox = []) →
      (self.post event).1.draining = false → (self.post event).1.mailbox = [] := by
    intro self event attended
    rcases self.post_cases event with ⟨_,result⟩ | ⟨_,result⟩ | ⟨_,held,result⟩ | ⟨_,_,result⟩
    · rw [result]; exact attended
    · rw [result]; exact attended
    · rw [result]; simp [held]
    · rw [result]; simp
  cases turn with
  | start clocked =>
    rcases self.start_cases clocked with ⟨_,result⟩ | ⟨_,result⟩ | ⟨_,result⟩
    · rw [result]; exact attended
    · rw [result]; exact attended
    · rw [result]; simp
  | send signal => exact post self _ attended
  | stop =>
    rcases self.stop_cases with ⟨_,result⟩ | ⟨_,_,result⟩
    · rw [result]; exact attended
    · rw [result]; exact fun _ => rfl
  | subscribe listener => exact attended
  | unsubscribe number => exact attended
  | answer asked given =>
    rcases Interpreter.resume_cases asked with ⟨_,_,resumed⟩ | ⟨_,_,_,_,_,resumed⟩ <;> rw [resumed] <;> exact attended
  | told top => rw [Interpreter.notified_eq top]; exact attended
  | go _ =>
    have ticks := self.ticks
    generalize self.tick.1 = next at ticks ⊢
    cases ticks with
    | startFailed _ => exact fun _ => rfl
    | drained _ empty => exact fun _ => empty
    | taken _ mail _ _ => intro released; simp [mail] at attended; simp [attended] at released
    | dropped _ mail _ => intro released; simp [mail] at attended; simp [attended] at released
    | faulted _ _ _ => exact fun _ => rfl
    | _ => exact attended
  | sleep _ _ => exact attended
  | deliver _ _ => exact post _ _ attended

theorem Gathering.Trail.attended {here : Gathering M} {trail : List (Moment M)}
    (run : (fresh graph options).Trail trail here) : here.self.draining = false → here.self.mailbox = [] := by
  induction run with
  | here => exact fun _ => rfl
  | onward _ moves ih =>
    cases moves with
    | turn turn => exact turn.attended ih
    | back => exact ih
    | join => exact ih

/-! ## Whole calls -/

/-- A stack of whole calls. -/
inductive Stacked : List (Frame M) → Prop where
  | nil : Stacked []
  | cons {calls base : List (Frame M)} : Segment calls → Stacked base → Stacked (calls ++ base)

theorem Interpreter.stacked_enter {self : Interpreter M} (stacked : Stacked self.stack) (call : Call M) :
    Stacked (self.enter call).1.stack := by
  rcases self.enter_cases call with ⟨_,same⟩ | ⟨_,calls,segment,stack⟩
  · rwa [same]
  · rw [stack]
    exact .cons segment stacked

theorem Turn.stacked {self next : Interpreter M} {deed : Deed M} (turn : Turn self deed next)
    (stacked : Stacked self.stack) : Stacked next.stack := by
  cases turn with
  | start clocked => exact Interpreter.stacked_enter stacked (.start clocked)
  | send signal => exact Interpreter.stacked_enter stacked (.post (.signal signal))
  | stop => exact Interpreter.stacked_enter stacked .stop
  | subscribe listener => exact stacked
  | unsubscribe number => exact stacked
  | @answer query continued asked given =>
    generalize same : self.stack = stack at stacked
    cases stacked with
    | nil => simp [Interpreter.prompt,same] at asked
    | cons segment base =>
      obtain ⟨later,goes,stack⟩ := Interpreter.resume_segment segment same asked (continued given)
      rw [stack]
      exact .cons goes base
  | @told snapshot entry _ _ _ top =>
    have asked : self.prompt = some (.notify entry.2 snapshot) := by simp [Interpreter.prompt,top]
    generalize same : self.stack = stack at stacked
    cases stacked with
    | nil => simp [Interpreter.prompt,same] at asked
    | cons segment base =>
      obtain ⟨_,later,_,goes,stack⟩ := Interpreter.notified_segment segment same asked
      rw [stack]
      exact .cons goes base
  | go free =>
    generalize same : self.stack = stack at stacked
    cases stacked with
    | nil => simp [Interpreter.tick,same,Stacked.nil]
    | cons segment base =>
      rcases Interpreter.tick_segment segment same free with ⟨_,stack⟩ | ⟨_,later,goes,stack⟩
      · rwa [stack]
      · rw [stack]
        exact .cons goes base
  | sleep _ _ => exact stacked
  | @deliver place _ event _ _ =>
    have before : Stacked (self.setActivity place none).stack := stacked
    exact Interpreter.stacked_enter before (.post event)

theorem Gathering.Trail.stacked {here : Gathering M} {trail : List (Moment M)}
    (run : (fresh graph options).Trail trail here) : ∀ stack ∈ here.self.stack :: here.waiting, Stacked stack := by
  induction run with
  | here =>
    intro stack member
    rw [List.mem_singleton.mp member]
    exact .nil
  | onward _ moves ih =>
    intro stack member
    cases moves with
    | turn turn =>
      rcases List.mem_cons.mp member with same | waits
      · rw [same]
        exact turn.stacked (ih _ List.mem_cons_self)
      · exact ih stack (List.mem_cons_of_mem _ waits)
    | back =>
      simp only [List.mem_cons,List.mem_append] at member ih
      rcases member with same | before | own | after
      · exact ih stack (.inr (.inr (.inl same)))
      · exact ih stack (.inr (.inl before))
      · exact ih stack (.inl own)
      · exact ih stack (.inr (.inr (.inr after)))
    | join =>
      rcases List.mem_cons.mp member with same | old
      · rw [same]
        exact .nil
      · exact ih stack old

/-- The delivery of a step lies upon the drain that it belongs to. -/
theorem Stacked.split {stack : List (Frame M)} {snapshot : Snapshot M.State M.Context}
    {unheard : List (Nat × M.Listener)} {sequel : Sequel} (stacked : Stacked stack)
    (member : .publishing snapshot unheard sequel ∈ stack) (other : sequel ≠ .stopped) :
    ∃ above drainer firstError below,
      stack = above ++ .publishing snapshot unheard sequel :: .draining drainer firstError :: below := by
  induction stacked with
  | nil => cases member
  | @cons calls base segment _ ih =>
    rcases List.mem_append.mp member with mine | deeper
    · cases segment with
      | telling told rest drainer firstError more =>
        rcases List.mem_cons.mp mine with same | drains
        · cases same
          exact ⟨[],drainer,firstError,base,rfl⟩
        · cases List.mem_singleton.mp drains
      | stopping told rest =>
        cases List.mem_singleton.mp mine
        exact absurd rfl other
      | _ => cases List.mem_singleton.mp mine
    · obtain ⟨above,drainer,firstError,below,same⟩ := ih deeper
      exact ⟨calls ++ above,drainer,firstError,below,by rw [same,List.append_assoc]⟩

/-! ## Telling everybody of a step -/

/-- A listener is still to hear of a step, or is hearing of it. -/
def Gathering.Owes (gathering : Gathering M) (snapshot : Snapshot M.State M.Context) (number : Nat) : Prop :=
  ∃ unheard sequel, .publishing snapshot unheard sequel ∈ gathering.frames ∧ sequel ≠ .stopped ∧
    number ∈ unheard.map Prod.fst

/-- A delivery stays where it is, unless it is the one on top and the listener that was called returns, or
everybody has been told. -/
theorem Turn.keeps_publishing {self next : Interpreter M} {deed : Deed M} {snapshot : Snapshot M.State M.Context}
    {unheard : List (Nat × M.Listener)} {sequel : Sequel} (turn : Turn self deed next)
    (member : .publishing snapshot unheard sequel ∈ self.stack) :
    .publishing snapshot unheard sequel ∈ next.stack ∨
    (∃ entry later, unheard = entry :: later ∧ deed = .told entry.1 snapshot ∧
      .publishing snapshot later sequel ∈ next.stack) ∨
    unheard = [] ∧ deed = .go ∧ ∃ below, self.stack = .publishing snapshot [] sequel :: below := by
  have post : ∀ self : Interpreter M, .publishing snapshot unheard sequel ∈ self.stack → ∀ event,
      .publishing snapshot unheard sequel ∈ (self.post event).1.stack := by
    intro self member event
    rcases self.post_cases event with ⟨_,result⟩ | ⟨_,result⟩ | ⟨_,_,result⟩ | ⟨_,_,result⟩
    · rw [result]; exact member
    · rw [result]; exact member
    · rw [result]; exact member
    · rw [result]; exact List.mem_cons_of_mem _ member
  -- a part of a start or drain is no delivery, so the delivery lies below it
  have lower : ∀ {frame below}, self.stack = frame :: below → frame.holdsFlag = true →
      .publishing snapshot unheard sequel ∈ below := by
    intro frame below top holds
    rw [top] at member
    rcases List.mem_cons.mp member with same | deeper
    · rw [← same] at holds
      cases holds
    · exact deeper
  cases turn with
  | start clocked =>
    rcases self.start_cases clocked with ⟨_,result⟩ | ⟨_,result⟩ | ⟨_,result⟩
    · rw [result]; exact .inl member
    · rw [result]; exact .inl member
    · rw [result]; exact .inl (List.mem_cons_of_mem _ member)
  | send signal => exact .inl (post self member _)
  | stop =>
    rcases self.stop_cases with ⟨_,result⟩ | ⟨_,_,result⟩
    · rw [result]; exact .inl member
    · rw [result]; exact .inl (List.mem_cons_of_mem _ member)
  | subscribe listener => exact .inl member
  | unsubscribe other => exact .inl member
  | answer asked given =>
    rcases Interpreter.resume_cases asked with ⟨_,top,resumed⟩ | ⟨_,_,_,_,top,resumed⟩
    · rw [resumed]; exact .inl (List.mem_cons_of_mem _ (lower top rfl))
    · rw [resumed]; exact .inl (List.mem_cons_of_mem _ (lower top rfl))
  | @told told entry rest final below top =>
    rw [Interpreter.notified_eq top]
    rw [top] at member
    rcases List.mem_cons.mp member with same | deeper
    · cases same
      exact .inr (.inl ⟨entry,rest,rfl,rfl,List.mem_cons_self⟩)
    · exact .inl (List.mem_cons_of_mem _ deeper)
  | go _ =>
    have passed : ∀ {told final below}, self.stack = .publishing told [] final :: below →
        .publishing snapshot unheard sequel ∈ below ∨
        unheard = [] ∧ ∃ below, self.stack = .publishing snapshot [] sequel :: below := by
      intro told final below top
      rw [top] at member
      rcases List.mem_cons.mp member with same | deeper
      · cases same
        exact .inr ⟨rfl,below,top⟩
      · exact .inl deeper
    have ticks := self.ticks
    generalize self.tick.1 = next at ticks ⊢
    cases ticks with
    | startCommitted top _ => exact .inl (List.mem_cons_of_mem _ (List.mem_cons_of_mem _ (lower top rfl)))
    | startOverruled top _ => exact .inl (List.mem_cons_of_mem _ (lower top rfl))
    | startFailed top => exact .inl (lower top rfl)
    | drained top _ => exact .inl (lower top rfl)
    | taken top _ _ _ => exact .inl (List.mem_cons_of_mem _ (lower top rfl))
    | dropped _ _ _ => exact .inl member
    | stepCommitted top _ => exact .inl (List.mem_cons_of_mem _ (List.mem_cons_of_mem _ (lower top rfl)))
    | stepOverruled top _ => exact .inl (List.mem_cons_of_mem _ (lower top rfl))
    | faulted top _ _ => exact .inl (List.mem_cons_of_mem _ (List.mem_cons_of_mem _ (lower top rfl)))
    | stepFailed top _ => exact .inl (List.mem_cons_of_mem _ (lower top rfl))
    | released top _ =>
      rcases passed top with deeper | ⟨none,now⟩
      · exact .inl deeper
      · exact .inr (.inr ⟨none,rfl,now⟩)
    | heard top _ =>
      rcases passed top with deeper | ⟨none,now⟩
      · exact .inl deeper
      · exact .inr (.inr ⟨none,rfl,now⟩)
    | idle _ => exact .inl member
  | sleep _ _ => exact .inl member
  | @deliver place _ event _ _ => exact .inl (post (self.setActivity place none) member event)

namespace Gathering

variable {here next : Gathering M}

/-- A delivery goes on, whoever's it is, until everybody has been told. -/
theorem Moves.keeps_publishing {deed : Deed M} {snapshot : Snapshot M.State M.Context}
    {unheard : List (Nat × M.Listener)} {sequel : Sequel} (moves : here.Moves deed next)
    (member : .publishing snapshot unheard sequel ∈ here.frames) :
    .publishing snapshot unheard sequel ∈ next.frames ∨
    (∃ entry later, unheard = entry :: later ∧ deed = .told entry.1 snapshot ∧
      .publishing snapshot later sequel ∈ next.frames) ∨
    unheard = [] ∧ deed = .go ∧ ∃ below, here.self.stack = .publishing snapshot [] sequel :: below := by
  cases moves with
  | turn turn =>
    rcases List.mem_append.mp member with mine | waits
    · rcases turn.keeps_publishing mine with still | ⟨entry,later,first,told,still⟩ | ended
      · exact .inl (List.mem_append_left _ still)
      · exact .inr (.inl ⟨entry,later,first,told,List.mem_append_left _ still⟩)
      · exact .inr (.inr ended)
    · exact .inl (List.mem_append_right _ waits)
  | back => exact .inl ((back_perm _ _ _ _).mem_iff.mpr member)
  | join => exact .inl (by simpa [frames] using member)

theorem Moves.owes {deed : Deed M} {snapshot : Snapshot M.State M.Context} {number : Nat}
    (moves : here.Moves deed next) (owes : here.Owes snapshot number) :
    deed = .told number snapshot ∨ next.Owes snapshot number := by
  obtain ⟨unheard,sequel,member,other,owed⟩ := owes
  rcases moves.keeps_publishing member with still | ⟨entry,later,first,told,still⟩ | ⟨none,_,_⟩
  · exact .inr ⟨unheard,sequel,still,other,owed⟩
  · subst first
    rcases List.mem_cons.mp owed with called | further
    · exact .inl (by rw [called]; exact told)
    · exact .inr ⟨later,sequel,still,other,further⟩
  · subst none
    cases owed

theorem Trail.owes {trail : List (Moment M)} {snapshot : Snapshot M.State M.Context} {number : Nat}
    (run : here.Trail trail next) (owes : here.Owes snapshot number) :
    (∃ moment ∈ trail, moment.deed = .told number snapshot) ∨ next.Owes snapshot number := by
  induction run with
  | here => exact .inr owes
  | onward _ moves ih =>
    rcases ih with ⟨moment,member,told⟩ | owes
    · exact .inl ⟨moment,List.mem_append_left _ member,told⟩
    · rcases moves.owes owes with told | owes
      · exact .inl ⟨_,List.mem_append_right _ (List.mem_singleton_self _),told⟩
      · exact .inr owes

/-- With a commit all listeners that are registered are to hear of it. -/
theorem Moves.owes_of_commit {deed : Deed M} {step : Step M} {number : Nat} (moves : here.Moves deed next)
    (commits : (⟨here,deed⟩ : Moment M).step? = some step) (registered : number ∈ here.self.registry.numbers) :
    next.Owes (here.self.core.commit step).snapshot number := by
  obtain ⟨go,admitted,frame,below,top,result⟩ := Moment.step?_eq_some_iff.mp commits
  simp only at go admitted top
  subst go
  rw [moves.of_go]
  match frame, result with
  | .starting (.done (.ok _)), rfl =>
    refine ⟨here.self.registry.entries,.startCommitted,?_,by simp,registered⟩
    simp [frames,Interpreter.tick,top,Interpreter.finishStart,admitted,Interpreter.publish,Interpreter.push]
  | .reacting drainer firstError _ (.done (.ok _)), rfl =>
    refine ⟨here.self.registry.entries,.stepCommitted,?_,by simp,registered⟩
    simp [frames,Interpreter.tick,top,Interpreter.finishStep,admitted,Interpreter.publish,Interpreter.push]

/-- Where a drain takes the next event, nobody is still to hear of a step. -/
theorem Trail.owes_nobody {trail : List (Moment M)} {event : Event M} (run : (fresh graph options).Trail trail here)
    (taken : (⟨here,.go⟩ : Moment M).handed? = some event) (snapshot : Snapshot M.State M.Context) (number : Nat) :
    ¬ here.Owes snapshot number := by
  rintro ⟨unheard,sequel,member,other,_⟩
  obtain ⟨_,drainer,firstError,below,rest,top,_⟩ := Moment.handed?_eq_some_iff.mp taken
  simp only at top
  have free := run.reachable.sound.alone top rfl
  rcases List.mem_append.mp member with mine | waits
  · obtain ⟨above,drainer',firstError',deeper,same⟩ := (run.stacked _ List.mem_cons_self).split mine other
    rw [top] at same
    cases above with
    | nil => cases (List.cons.inj same).1
    | cons frame above =>
      -- the drain below the delivery would be a second one
      have second : .draining drainer' firstError' ∈ below := by
        rw [(List.cons.inj same).2]
        simp
      cases free _ (List.mem_append_left _ second)
  · obtain ⟨stack,among,inStack⟩ := List.mem_flatten.mp waits
    obtain ⟨above,drainer',firstError',deeper,same⟩ := (run.stacked _ (List.mem_cons_of_mem _ among)).split inStack other
    have second : .draining drainer' firstError' ∈ here.waiting.flatten :=
      List.mem_flatten.mpr ⟨stack,among,by rw [same]; simp⟩
    cases free _ (List.mem_append_right _ second)

/-- Events are handed on in the order in which they were accepted, each at most once, and one of them is
lost only when the mailbox is cleared while it waits. An event is taken only when no macrostep is in
progress and all listeners have been told of all steps, and none is left behind when nobody is at work. -/
theorem first_in_first_out {trail : List (Moment M)} (run : (fresh graph options).Trail trail here) :
    (∃ letters, Posted trail letters here.self.mailbox) ∧
    (∀ (middle : Gathering M) later, middle.Trail later here → (∀ moment ∈ later, ¬ moment.Clears) →
      middle.self.mailbox ++ accepted later = handed later ++ here.self.mailbox) ∧
    (here.frames = [] → here.self.mailbox = []) ∧
    ∀ event, (⟨here,.go⟩ : Moment M).handed? = some event →
      here.macrosteps = [] ∧
      ∀ before moment after step, trail = before ++ moment :: after → moment.step? = some step →
        ∀ number ∈ moment.here.self.registry.numbers,
          ∃ later ∈ after, later.deed = .told number (moment.here.self.core.commit step).snapshot := by
  refine ⟨run.posted,?_,?_,?_⟩
  · intro middle later further kept
    exact further.conserves kept
  · intro idle
    apply run.attended
    have flag := run.reachable.sound.flag
    rw [show here.self.stack ++ here.waiting.flatten = [] from idle] at flag
    cases held : here.self.draining with
    | false => rfl
    | true => rw [held] at flag; cases flag
  · intro event taken
    obtain ⟨_,drainer,firstError,below,rest,top,_⟩ := Moment.handed?_eq_some_iff.mp taken
    simp only at top
    constructor
    · rw [macrosteps,frames,top,List.cons_append,List.filter_cons_of_neg (by simp [Frame.isMacrostep])]
      exact run.reachable.sound.no_other top rfl
    · intro before moment after step whole commits number registered
      subst whole
      obtain ⟨next,_,moves,further⟩ := run.split
      rcases further.owes (moves.owes_of_commit commits registered) with told | owes
      · exact told
      · exact absurd owes (run.owes_nobody taken _ _)

/-- A chart that ignores whatever it is sent. -/
def bell : Graph Bench.machine := ⟨"bell",.a,{},[.empty .a]⟩

/-- A listener sends a signal when it hears of the start, and another caller sends one while that signal
is processed. -/
theorem bell_rings :
    ∃ trail here, (fresh bell {}).Trail trail here ∧
      accepted trail = [.signal ⟨.go,1⟩,.signal ⟨.back,2⟩] ∧ handed trail = [.signal ⟨.go,1⟩] ∧
      (⟨here,.go⟩ : Moment Bench.machine).handed? = some (.signal ⟨.back,2⟩) ∧
      ∃ before after moment step, trail = before ++ moment :: after ∧ moment.step? = some step ∧
        moment.here.self.registry.numbers = [0] := by
  have made : Trail (fresh bell {}) [] _ := .here
  have subscribed := made.onward (.turn (.subscribe (Bench.Listener.mk 0 "p" {} [] 1)))
  have started := subscribed.onward (.turn (.start true))
  have committed := started.onward (.turn (.go rfl))
  have sent := committed.onward (.turn (.send (Bench.Signal.mk .go 1)))
  have told := sent.onward (.turn (.told rfl))
  have heard := told.onward (.turn (.go rfl))
  have taken := heard.onward (.turn (.go rfl))
  have joined := taken.onward .join
  have queued := joined.onward (.turn (.send (Bench.Signal.mk .back 2)))
  have back := queued.onward (@Moves.back _ _ _ [] _)
  have ignored := back.onward (.turn (.go rfl))
  refine ⟨_,_,ignored,rfl,rfl,rfl,[_,_],_,_,_,rfl,rfl,rfl⟩

theorem bell_first_in_first_out :
    ∃ trail here letters, (fresh bell {}).Trail trail here ∧ Posted trail letters here.self.mailbox ∧
      Letter.arrived letters = [.signal ⟨.go,1⟩] ∧ here.macrosteps = [] ∧
      ∃ moment ∈ trail, ∃ snapshot, moment.deed = .told 0 snapshot := by
  obtain ⟨trail,here,run,_,first,taken,before,after,moment,step,whole,commits,numbers⟩ := bell_rings
  obtain ⟨⟨letters,posted⟩,_,_,hand⟩ := first_in_first_out run
  obtain ⟨idle,told⟩ := hand _ taken
  obtain ⟨later,among,tells⟩ := told before moment after step whole commits 0 (by rw [numbers]; simp)
  refine ⟨trail,here,letters,run,posted,?_,idle,later,?_,_,tells⟩
  · rw [← posted.handed,first]
  · rw [whole]
    exact List.mem_append_right _ (List.mem_cons_of_mem _ among)

end Gathering

end Statechart
