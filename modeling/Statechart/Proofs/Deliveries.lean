import Statechart.Proofs.RunToCompletion

/-!
# Deliveries: snapshots on their way to the listeners

A delivery calls the listeners that were registered when its snapshot was produced, one after another,
and whoever is called may call in meanwhile. Of what an interpreter does, the listeners meet only with
their registry and with the deliveries in progress (`Turn.circulates`).
-/
namespace Statechart

variable {M : Machine} {graph : Graph M} {options : Options}

/-- A snapshot that is being told to listeners; the first of those named has been called with it. -/
structure Delivery (M : Machine) where
  snapshot : Snapshot M.State M.Context
  unheard : List (Nat × M.Listener)
  sequel : Sequel

/-- After a farewell the listeners are released. -/
def Sequel.isFarewell : Sequel → Bool
  | .stopped => true
  | .faulted => true
  | _ => false

def Frame.delivery? : Frame M → Option (Delivery M)
  | .publishing snapshot unheard sequel => some ⟨snapshot,unheard,sequel⟩
  | _ => none

/-- The deliveries among calls in progress, the latest call of each caller first. -/
def deliveries (frames : List (Frame M)) : List (Delivery M) := frames.filterMap Frame.delivery?

/-- What concerns the listeners. -/
structure Circulation (M : Machine) where
  registry : Registry M.Listener
  deliveries : List (Delivery M)

namespace Circulation

/-- What may happen to listeners and deliveries, with the notes on it, as long as no snapshot is
produced. -/
inductive Step : Circulation M → List (Note M) → Circulation M → Prop where
  | still {circulation : Circulation M} : Step circulation [] circulation
  | subscribe {registry : Registry M.Listener} {rest : List (Delivery M)} (listener : M.Listener) :
      Step ⟨registry,rest⟩ [] ⟨(registry.add listener).2,rest⟩
  | unsubscribe {registry : Registry M.Listener} {rest : List (Delivery M)} (number : Nat) :
      Step ⟨registry,rest⟩ [] ⟨registry.remove number,rest⟩
  | told {registry : Registry M.Listener} {snapshot : Snapshot M.State M.Context} {entry : Nat × M.Listener}
      {unheard : List (Nat × M.Listener)} {sequel : Sequel} {rest : List (Delivery M)} :
      Step ⟨registry,⟨snapshot,entry :: unheard,sequel⟩ :: rest⟩ (calls snapshot unheard)
        ⟨registry,⟨snapshot,unheard,sequel⟩ :: rest⟩
  | done {registry : Registry M.Listener} {snapshot : Snapshot M.State M.Context} {sequel : Sequel}
      {rest : List (Delivery M)} (more : sequel.isFarewell = false) :
      Step ⟨registry,⟨snapshot,[],sequel⟩ :: rest⟩ [] ⟨registry,rest⟩
  | released {registry : Registry M.Listener} {snapshot : Snapshot M.State M.Context} {sequel : Sequel}
      {rest : List (Delivery M)} (farewell : sequel.isFarewell = true) :
      Step ⟨registry,⟨snapshot,[],sequel⟩ :: rest⟩ [] ⟨registry.clear,rest⟩

theorem Step.unproduced {before after : Circulation M} {notes : List (Note M)} (step : before.Step notes after) :
    produced notes = [] := by
  cases step with
  | told => exact produced_calls _ _
  | _ => rfl

/-- A snapshot is produced: its delivery to all registered listeners begins. -/
def publish (circulation : Circulation M) (snapshot : Snapshot M.State M.Context) (sequel : Sequel) :
    Circulation M :=
  { circulation with deliveries := ⟨snapshot,circulation.registry.entries,sequel⟩ :: circulation.deliveries }

/-- Every listener has a number of its own and is called at most once in a delivery. -/
structure Orderly (circulation : Circulation M) : Prop where
  distinct : circulation.registry.numbers.Nodup
  known : ∀ number ∈ circulation.registry.numbers, number < circulation.registry.next
  once : ∀ delivery ∈ circulation.deliveries, (delivery.unheard.map Prod.fst).Nodup

theorem Step.orderly {before after : Circulation M} {notes : List (Note M)} (step : before.Step notes after)
    (orderly : before.Orderly) : after.Orderly := by
  obtain ⟨distinct,known,once⟩ := orderly
  cases step with
  | still => exact ⟨distinct,known,once⟩
  | @subscribe registry rest listener =>
    have numbers : (registry.add listener).2.numbers = registry.numbers ++ [registry.next] := by
      simp [Registry.add,Registry.numbers]
    refine ⟨?_,?_,once⟩
    · simp only [numbers]
      rw [List.nodup_append]
      refine ⟨distinct,by simp,?_⟩
      intro number member other same
      rw [List.mem_singleton.mp same]
      exact Nat.ne_of_lt (known number member)
    · intro number member
      simp only [numbers,List.mem_append,List.mem_singleton] at member
      rcases member with old | new
      · exact Nat.lt_succ_of_lt (known number old)
      · rw [new]; exact Nat.lt_succ_self _
  | @unsubscribe registry _ number =>
    have fewer : (registry.remove number).numbers.Sublist registry.numbers := List.filter_sublist.map _
    refine ⟨distinct.sublist fewer,?_,once⟩
    intro other member
    exact known other (fewer.subset member)
  | told =>
    refine ⟨distinct,known,?_⟩
    intro delivery member
    rcases List.mem_cons.mp member with same | other
    · subst same
      exact (once _ List.mem_cons_self).of_cons
    · exact once _ (List.mem_cons_of_mem _ other)
  | done _ => exact ⟨distinct,known,fun delivery member => once _ (List.mem_cons_of_mem _ member)⟩
  | released _ =>
    refine ⟨List.nodup_nil,?_,fun delivery member => once _ (List.mem_cons_of_mem _ member)⟩
    intro number member
    cases member

theorem Orderly.publish {circulation : Circulation M} (orderly : circulation.Orderly)
    (snapshot : Snapshot M.State M.Context) (sequel : Sequel) : (circulation.publish snapshot sequel).Orderly := by
  refine ⟨orderly.distinct,orderly.known,?_⟩
  intro delivery member
  rcases List.mem_cons.mp member with same | other
  · subst same
    exact orderly.distinct
  · exact orderly.once _ other

/-- A farewell that is in progress has been so before, unless it has just been produced. -/
theorem Step.farewell {before after : Circulation M} {notes : List (Note M)} (step : before.Step notes after)
    {delivery : Delivery M} (member : delivery ∈ after.deliveries) (farewell : delivery.sequel.isFarewell = true) :
    ∃ earlier ∈ before.deliveries, earlier.sequel.isFarewell = true := by
  cases step with
  | still => exact ⟨delivery,member,farewell⟩
  | subscribe _ => exact ⟨delivery,member,farewell⟩
  | unsubscribe _ => exact ⟨delivery,member,farewell⟩
  | told =>
    rcases List.mem_cons.mp member with same | other
    · subst same
      exact ⟨_,List.mem_cons_self,farewell⟩
    · exact ⟨delivery,List.mem_cons_of_mem _ other,farewell⟩
  | done _ => exact ⟨delivery,List.mem_cons_of_mem _ member,farewell⟩
  | released _ => exact ⟨delivery,List.mem_cons_of_mem _ member,farewell⟩

end Circulation

/-- What concerns the listeners of an interpreter, given the calls in progress of the callers that
wait. -/
def Interpreter.circulation (self : Interpreter M) (others : List (Frame M)) : Circulation M :=
  ⟨self.registry,deliveries (self.stack ++ others)⟩

/-- How an interpreter comes to produce a snapshot. -/
inductive Interpreter.Produces (self : Interpreter M) : Deed M → Snapshot M.State M.Context → Sequel → Prop where
  | commit {frame : Frame M} {below : List (Frame M)} {snapshot : Snapshot M.State M.Context} {sequel : Sequel}
      (top : self.stack = frame :: below) (macrostep : frame.isMacrostep = true)
      (running : self.core.status = .running) (alive : snapshot.status = .running ∨ snapshot.status = .done)
      (more : sequel.isFarewell = false) : Produces self .go snapshot sequel
  | fault {frame : Frame M} {below : List (Frame M)} {snapshot : Snapshot M.State M.Context}
      (top : self.stack = frame :: below) (macrostep : frame.isMacrostep = true)
      (running : self.core.status = .running) (failed : snapshot.status = .failed) :
      Produces self .go snapshot .faulted
  | stop {snapshot : Snapshot M.State M.Context} (unstopped : self.core.status ≠ .stopped)
      (unfailed : self.core.status ≠ .failed) (stopped : snapshot.status = .stopped) :
      Produces self .stop snapshot .stopped

/-- Nobody produces anything once the interpreter has ended. -/
theorem Interpreter.Produces.unended {self : Interpreter M} {deed : Deed M} {snapshot : Snapshot M.State M.Context}
    {sequel : Sequel} (produces : self.Produces deed snapshot sequel) :
    ¬ (self.core.status = .stopped ∨ self.core.status = .failed) := by
  cases produces with
  | commit _ _ running _ _ => simp [running]
  | fault _ _ running _ => simp [running]
  | stop unstopped unfailed _ => simp [unstopped,unfailed]

theorem Interpreter.notes_of_silent {self next : Interpreter M} {frame : Frame M} {below : List (Frame M)}
    (top : next.stack = frame :: below) (silent : frame.delivery? = none) (deed : Deed M) :
    self.notes next deed = [] := by
  unfold notes
  rw [top]
  cases frame with
  | publishing _ _ _ => cases silent
  | _ => split <;> rfl

/-- Where neither the registry nor the deliveries change, nothing happens to the listeners. -/
theorem Interpreter.circulates_still {self next : Interpreter M} {others : List (Frame M)} {deed : Deed M}
    (unnoted : self.notes next deed = []) (registry : next.registry = self.registry)
    (same : deliveries (next.stack ++ others) = deliveries (self.stack ++ others)) :
    (self.circulation others).Step (self.notes next deed) (next.circulation others) := by
  rw [unnoted,circulation,circulation,registry,same]
  exact .still

/-- An event that comes in means nothing to the listeners. -/
theorem Interpreter.post_circulates (self : Interpreter M) (event : Event M) (others : List (Frame M))
    {deed : Deed M} (untold : ∀ number snapshot, deed ≠ .told number snapshot) :
    (self.circulation others).Step (self.notes (self.post event).1 deed) ((self.post event).1.circulation others) := by
  rcases self.post_cases event with ⟨_,result⟩ | ⟨_,result⟩ | ⟨_,_,result⟩ | ⟨_,_,result⟩
  · rw [result]; exact circulates_still (notes_eq_nil (Nat.le_refl _) untold) rfl rfl
  · rw [result]; exact circulates_still (notes_eq_nil (Nat.le_refl _) untold) rfl rfl
  · rw [result]; exact circulates_still (notes_eq_nil (Nat.le_refl _) untold) rfl rfl
  · rw [result]; exact circulates_still (notes_of_silent rfl rfl _) rfl rfl

/-- When the call on top of the stack goes on, it produces a snapshot, or a delivery is over, or nothing
happens to the listeners. -/
theorem Interpreter.tick_circulates (self : Interpreter M) (others : List (Frame M)) :
    (self.circulation others).Step (self.notes self.tick.1 .go) (self.tick.1.circulation others) ∨
    ∃ snapshot sequel, self.Produces .go snapshot sequel ∧
      self.tick.1.circulation others = (self.circulation others).publish snapshot sequel ∧
      self.notes self.tick.1 .go = .produced snapshot self.registry.numbers :: calls snapshot self.registry.entries ∧
      (sequel.isFarewell = true → self.tick.1.core.status = .stopped ∨ self.tick.1.core.status = .failed) := by
  have ticks := self.ticks
  generalize self.tick.1 = next at ticks ⊢
  have quiet : next.stack.length ≤ self.stack.length → self.notes next .go = [] := fun shrinks =>
    notes_eq_nil shrinks (by simp)
  cases ticks with
  | @startCommitted step _ top admitted =>
    refine .inr ⟨(self.core.commit step).snapshot,.startCommitted,.commit top rfl (Core.running_of_admits admitted)
      (Core.status_commit admitted) rfl,?_,?_,by simp [Sequel.isFarewell]⟩
    · simp only [circulation,top]; rfl
    · simp [notes,top]
  | startOverruled top _ => exact .inl (circulates_still (quiet (by simp [top])) rfl (by rw [top]; rfl))
  | startFailed top => exact .inl (circulates_still (quiet (by simp [top])) rfl (by rw [top]; rfl))
  | drained top _ => exact .inl (circulates_still (quiet (by simp [top])) rfl (by rw [top]; rfl))
  | taken top _ _ _ => exact .inl (circulates_still (quiet (by simp [top])) rfl (by rw [top]; rfl))
  | dropped _ _ _ => exact .inl (circulates_still (quiet (Nat.le_refl _)) rfl rfl)
  | @stepCommitted _ _ _ step _ top admitted =>
    refine .inr ⟨(self.core.commit step).snapshot,.stepCommitted,.commit top rfl (Core.running_of_admits admitted)
      (Core.status_commit admitted) rfl,?_,?_,by simp [Sequel.isFarewell]⟩
    · simp only [circulation,top]; rfl
    · simp [notes,top]
  | stepOverruled top _ => exact .inl (circulates_still (quiet (by simp [top])) rfl (by rw [top]; rfl))
  | @faulted _ _ _ failure _ top _ running =>
    refine .inr ⟨(self.core.close .failed (some failure)).snapshot,.faulted,.fault top rfl running rfl,?_,?_,fun _ => .inr rfl⟩
    · simp only [circulation,top]; rfl
    · simp [notes,top]
  | stepFailed top _ => exact .inl (circulates_still (quiet (by simp [top])) rfl (by rw [top]; rfl))
  | released top last =>
    rw [quiet (by simp [top])]
    simp only [circulation,top]
    refine .inl (.released ?_)
    rcases last with last | last <;> rw [last] <;> rfl
  | heard top more =>
    rw [quiet (by simp [top])]
    simp only [circulation,top]
    refine .inl (.done ?_)
    rcases more with more | more <;> rw [more] <;> rfl
  | idle _ => exact .inl (circulates_still (quiet (Nat.le_refl _)) rfl rfl)

/-- What a deed means to the listeners. -/
theorem Turn.circulates {self next : Interpreter M} {deed : Deed M} (turn : Turn self deed next)
    (others : List (Frame M)) :
    (self.circulation others).Step (self.notes next deed) (next.circulation others) ∨
    ∃ snapshot sequel, self.Produces deed snapshot sequel ∧
      next.circulation others = (self.circulation others).publish snapshot sequel ∧
      self.notes next deed = .produced snapshot self.registry.numbers :: calls snapshot self.registry.entries ∧
      (sequel.isFarewell = true → next.core.status = .stopped ∨ next.core.status = .failed) := by
  have quiet : next.stack.length ≤ self.stack.length → (∀ number snapshot, deed ≠ .told number snapshot) →
      self.notes next deed = [] := Interpreter.notes_eq_nil
  cases turn with
  | start clocked =>
    left
    rcases self.start_cases clocked with ⟨_,result⟩ | ⟨_,result⟩ | ⟨_,result⟩
    · rw [result] at quiet ⊢; exact Interpreter.circulates_still (quiet (Nat.le_refl _) (by simp)) rfl rfl
    · rw [result] at quiet ⊢; exact Interpreter.circulates_still (quiet (Nat.le_refl _) (by simp)) rfl rfl
    · rw [result]; exact Interpreter.circulates_still (Interpreter.notes_of_silent rfl rfl _) rfl rfl
  | send signal => exact .inl (self.post_circulates _ _ (by simp))
  | stop =>
    rcases self.stop_cases with ⟨_,result⟩ | ⟨unstopped,unfailed,result⟩
    · rw [result] at quiet ⊢; exact .inl (Interpreter.circulates_still (quiet (Nat.le_refl _) (by simp)) rfl rfl)
    · rw [result]
      refine .inr ⟨_,_,.stop unstopped unfailed rfl,rfl,?_,fun _ => .inl rfl⟩
      simp [Interpreter.notes,Interpreter.close,Interpreter.publish,Interpreter.push]
  | subscribe listener =>
    rw [quiet (Nat.le_refl _) (by simp)]
    exact .inl (.subscribe listener)
  | unsubscribe number =>
    rw [quiet (Nat.le_refl _) (by simp)]
    exact .inl (.unsubscribe number)
  | answer asked given =>
    left
    rcases Interpreter.resume_cases asked with ⟨below,top,resumed⟩ | ⟨_,_,_,below,top,resumed⟩
    · rw [resumed] at quiet ⊢
      exact Interpreter.circulates_still (quiet (by simp [top]) (by simp)) rfl (by rw [top]; rfl)
    · rw [resumed] at quiet ⊢
      exact Interpreter.circulates_still (quiet (by simp [top]) (by simp)) rfl (by rw [top]; rfl)
  | told top =>
    left
    rw [Interpreter.notified_eq top]
    simp only [Interpreter.circulation,top]
    exact .told
  | go _ => exact self.tick_circulates others
  | sleep _ _ => exact .inl (Interpreter.circulates_still (quiet (Nat.le_refl _) (by simp)) rfl rfl)
  | @deliver place _ event _ _ =>
    have posted : Circulation.Step _ ((self.setActivity place none).notes _ (.deliver place event)) _ :=
      (self.setActivity place none).post_circulates event others (by simp)
    exact .inl posted

/-- The registry changes when somebody subscribes or unsubscribes, and all listeners are released at the end
of a farewell. -/
theorem Turn.registry {self next : Interpreter M} {deed : Deed M} (turn : Turn self deed next) :
    next.registry = deed.enrol self.registry ∨
      (deed = .go ∧ next.registry = self.registry.clear ∧
        ∃ snapshot sequel below, self.stack = .publishing snapshot [] sequel :: below ∧ sequel.isFarewell = true) := by
  have post : ∀ (self : Interpreter M) event, (self.post event).1.registry = self.registry := by
    intro self event
    rcases self.post_cases event with ⟨_,result⟩ | ⟨_,result⟩ | ⟨_,_,result⟩ | ⟨_,_,result⟩ <;> rw [result]
  cases turn with
  | start clocked =>
    rcases self.start_cases clocked with ⟨_,result⟩ | ⟨_,result⟩ | ⟨_,result⟩ <;> rw [result] <;> exact .inl rfl
  | send signal => exact .inl (post _ _)
  | stop => rcases self.stop_cases with ⟨_,result⟩ | ⟨_,_,result⟩ <;> rw [result] <;> exact .inl rfl
  | subscribe listener => exact .inl rfl
  | unsubscribe number => exact .inl rfl
  | answer asked given =>
    rcases Interpreter.resume_cases asked with ⟨_,_,resumed⟩ | ⟨_,_,_,_,_,resumed⟩ <;> rw [resumed] <;> exact .inl rfl
  | told top => rw [Interpreter.notified_eq top]; exact .inl rfl
  | go _ =>
    have ticks := self.ticks
    generalize self.tick.1 = next at ticks ⊢
    cases ticks with
    | released top last =>
      refine .inr ⟨rfl,rfl,_,_,_,top,?_⟩
      rcases last with last | last <;> rw [last] <;> rfl
    | _ => exact .inl rfl
  | sleep _ _ => exact .inl rfl
  | deliver _ _ => exact .inl (post _ _)

theorem Gathering.Moves.registry {here next : Gathering M} {deed : Deed M} (moves : here.Moves deed next) :
    next.self.registry = deed.enrol here.self.registry ∨
      (deed = .go ∧ next.self.registry = here.self.registry.clear ∧
        ∃ snapshot sequel below, here.self.stack = .publishing snapshot [] sequel :: below ∧
          sequel.isFarewell = true) := by
  cases moves with
  | turn turn => exact turn.registry
  | back => exact .inl rfl
  | join => exact .inl rfl

/-! ## Where deliveries stand -/

/-- What a call in progress stands upon in the stack of its caller: a start upon nothing, and the
delivery of a step or of a fault upon the drain that it belongs to. -/
def Frame.StandsOn : Frame M → List (Frame M) → Prop
  | .starting _, below => below = []
  | .publishing _ _ sequel, below =>
    sequel = .stopped ∨ ∃ drainer firstError rest, below = .draining drainer firstError :: rest
  | _, _ => True

def Nested : List (Frame M) → Prop
  | [] => True
  | frame :: below => frame.StandsOn below ∧ Nested below

theorem Nested.drain {stack : List (Frame M)} {snapshot : Snapshot M.State M.Context}
    {unheard : List (Nat × M.Listener)} {sequel : Sequel} (nested : Nested stack)
    (member : .publishing snapshot unheard sequel ∈ stack) (other : sequel ≠ .stopped) :
    ∃ drainer firstError, .draining drainer firstError ∈ stack := by
  induction stack with
  | nil => cases member
  | cons frame below ih =>
    obtain ⟨stands,deeper⟩ := nested
    rcases List.mem_cons.mp member with same | further
    · subst same
      rcases stands with stopped | ⟨drainer,firstError,rest,drains⟩
      · exact absurd stopped other
      · exact ⟨drainer,firstError,by simp [drains]⟩
    · obtain ⟨drainer,firstError,drains⟩ := ih deeper further
      exact ⟨drainer,firstError,List.mem_cons_of_mem _ drains⟩

theorem Interpreter.post_nested {self : Interpreter M} (nested : Nested self.stack) (event : Event M) :
    Nested (self.post event).1.stack := by
  rcases self.post_cases event with ⟨_,result⟩ | ⟨_,result⟩ | ⟨_,_,result⟩ | ⟨_,_,result⟩
  · rw [result]; exact nested
  · rw [result]; exact nested
  · rw [result]; exact nested
  · rw [result]; exact ⟨trivial,nested⟩

theorem Turn.nested {self next : Interpreter M} {deed : Deed M} (turn : Turn self deed next)
    (nested : Nested self.stack) (unstarted : self.core.status = .notStarted → self.stack = []) :
    Nested next.stack := by
  cases turn with
  | start clocked =>
    rcases self.start_cases clocked with ⟨_,result⟩ | ⟨_,result⟩ | ⟨fresh,result⟩
    · rw [result]; exact nested
    · rw [result]; exact nested
    · rw [result]; exact ⟨unstarted fresh,nested⟩
  | send signal => exact Interpreter.post_nested nested _
  | stop =>
    rcases self.stop_cases with ⟨_,result⟩ | ⟨_,_,result⟩
    · rw [result]; exact nested
    · rw [result]; exact ⟨.inl rfl,nested⟩
  | subscribe listener => exact nested
  | unsubscribe number => exact nested
  | answer asked given =>
    rcases Interpreter.resume_cases asked with ⟨below,top,resumed⟩ | ⟨_,_,_,below,top,resumed⟩
    · rw [top] at nested; rw [resumed]; exact nested
    · rw [top] at nested; rw [resumed]; exact nested
  | told top => rw [top] at nested; rw [Interpreter.notified_eq top]; exact nested
  | go _ =>
    have ticks := self.ticks
    generalize self.tick.1 = next at ticks ⊢
    cases ticks with
    | startCommitted top _ => rw [top] at nested; exact ⟨.inr ⟨_,_,_,rfl⟩,trivial,nested.2⟩
    | startOverruled top _ => rw [top] at nested; exact ⟨trivial,nested.2⟩
    | startFailed top => rw [top] at nested; exact nested.2
    | drained top _ => rw [top] at nested; exact nested.2
    | taken top _ _ _ => rw [top] at nested; exact ⟨trivial,nested.2⟩
    | dropped _ _ _ => exact nested
    | stepCommitted top _ => rw [top] at nested; exact ⟨.inr ⟨_,_,_,rfl⟩,trivial,nested.2⟩
    | stepOverruled top _ => rw [top] at nested; exact ⟨trivial,nested.2⟩
    | faulted top _ _ => rw [top] at nested; exact ⟨.inr ⟨_,_,_,rfl⟩,trivial,nested.2⟩
    | stepFailed top _ => rw [top] at nested; exact ⟨trivial,nested.2⟩
    | released top _ => rw [top] at nested; exact nested.2
    | heard top _ => rw [top] at nested; exact nested.2
    | idle _ => exact nested
  | sleep _ _ => exact nested
  | @deliver place _ event _ _ =>
    exact Interpreter.post_nested (show Nested (self.setActivity place none).stack from nested) event

/-- An end is final, except that a start which fails takes it back. -/
theorem Turn.ends_for_good {self next : Interpreter M} {others : List (Frame M)} {deed : Deed M}
    (turn : Turn self deed next) (sound : Sound graph options self others)
    (past : self.core.status = .stopped ∨ self.core.status = .failed) :
    next.core = self.core ∨ next.core.status = .notStarted ∧ ∃ pending, self.stack = .starting pending :: next.stack := by
  have started : self.core.status ≠ .notStarted := by rcases past with past | past <;> simp [past]
  have still : self.core.status ≠ .running := by rcases past with past | past <;> simp [past]
  have spent := (sound.ended past).2
  cases turn with
  | start clocked =>
    rcases self.start_cases clocked with ⟨_,result⟩ | ⟨unstarted,_⟩ | ⟨unstarted,_⟩
    · rw [result]; exact .inl rfl
    · exact absurd unstarted started
    · exact absurd unstarted started
  | send signal => exact .inl (self.core_post _)
  | stop =>
    rcases self.stop_cases with ⟨_,result⟩ | ⟨unstopped,unfailed,_⟩
    · rw [result]; exact .inl rfl
    · rcases past with past | past
      · exact absurd past unstopped
      · exact absurd past unfailed
  | subscribe listener => exact .inl rfl
  | unsubscribe number => exact .inl rfl
  | answer asked given =>
    rcases Interpreter.resume_cases asked with ⟨_,_,resumed⟩ | ⟨_,_,_,_,_,resumed⟩
    · rw [resumed]; exact .inl rfl
    · rw [resumed]; exact .inl rfl
  | told top => rw [Interpreter.notified_eq top]; exact .inl rfl
  | go _ =>
    have ticks := self.ticks
    generalize self.tick.1 = next at ticks ⊢
    cases ticks with
    | startCommitted _ admitted => exact absurd (Core.running_of_admits admitted) still
    | startFailed top => exact .inr ⟨rfl,_,top⟩
    | stepCommitted _ admitted => exact absurd (Core.running_of_admits admitted) still
    | faulted _ _ running => exact absurd running still
    | _ => exact .inl rfl
  | sleep found _ => rw [spent] at found; cases found
  | deliver found _ => rw [spent] at found; cases found

/-! ## All callers together -/

/-- What concerns the listeners, whoever the callers are. -/
def Gathering.circulation (gathering : Gathering M) : Circulation M :=
  gathering.self.circulation gathering.waiting.flatten

/-- What holds of the deliveries at every moment, as long as no start fails while somebody is still
told of a stop. -/
structure Tidy (graph : Graph M) (options : Options) (gathering : Gathering M) : Prop where
  sound : Sound graph options gathering.self gathering.waiting.flatten
  nested : ∀ stack ∈ gathering.self.stack :: gathering.waiting, Nested stack
  farewell : ∀ delivery ∈ gathering.circulation.deliveries, delivery.sequel.isFarewell = true →
    gathering.self.core.status = .stopped ∨ gathering.self.core.status = .failed
  orderly : gathering.circulation.Orderly

namespace Tidy

variable {here next : Gathering M}

theorem fresh (graph : Graph M) (options : Options) : Tidy graph options (.fresh graph options) := by
  refine ⟨Sound.fresh graph options,?_,?_,List.nodup_nil,?_,?_⟩
  · intro stack member
    rw [List.mem_singleton.mp member]
    trivial
  · intro delivery member
    cases member
  · intro number member
    cases member
  · intro delivery member
    cases member

theorem delivery_mem {delivery : Delivery M} (member : delivery ∈ here.circulation.deliveries) :
    ∃ stack ∈ here.self.stack :: here.waiting,
      .publishing delivery.snapshot delivery.unheard delivery.sequel ∈ stack := by
  obtain ⟨frame,inFrames,same⟩ := List.mem_filterMap.mp member
  have publishes : frame = .publishing delivery.snapshot delivery.unheard delivery.sequel := by
    cases frame with
    | publishing _ _ _ => cases same; rfl
    | _ => cases same
  subst publishes
  rcases List.mem_append.mp inFrames with mine | waits
  · exact ⟨_,List.mem_cons_self,mine⟩
  · obtain ⟨stack,waiting,inStack⟩ := List.mem_flatten.mp waits
    exact ⟨stack,List.mem_cons_of_mem _ waiting,inStack⟩

/-- A delivery that is no farewell belongs to a drain, which holds the flag. -/
theorem drain (tidy : Tidy graph options here) {delivery : Delivery M}
    (member : delivery ∈ here.circulation.deliveries) (more : delivery.sequel.isFarewell = false) :
    ∃ drainer firstError, .draining drainer firstError ∈ here.self.stack ++ here.waiting.flatten := by
  obtain ⟨stack,among,inStack⟩ := delivery_mem member
  have other : delivery.sequel ≠ .stopped := by
    intro stopped
    rw [stopped] at more
    cases more
  obtain ⟨drainer,firstError,drains⟩ := (tidy.nested stack among).drain inStack other
  refine ⟨drainer,firstError,?_⟩
  rcases List.mem_cons.mp among with same | waits
  · rw [← same]
    exact List.mem_append_left _ drains
  · exact List.mem_append_right _ (List.mem_flatten.mpr ⟨stack,waits,drains⟩)

/-- While a macrostep is computed and nobody has ended the interpreter, nobody is told of anything. -/
theorem silent (tidy : Tidy graph options here) {frame : Frame M} {below : List (Frame M)}
    (top : here.self.stack = frame :: below) (macrostep : frame.isMacrostep = true)
    (running : here.self.core.status = .running) : here.circulation.deliveries = [] := by
  rw [List.eq_nil_iff_forall_not_mem]
  intro delivery member
  cases farewell : delivery.sequel.isFarewell with
  | true =>
    have past := tidy.farewell delivery member farewell
    rw [running] at past
    simp at past
  | false =>
    obtain ⟨drainer,firstError,drains⟩ := tidy.drain member farewell
    rw [top,List.cons_append] at drains
    rcases List.mem_cons.mp drains with same | other
    · rw [← same] at macrostep
      cases macrostep
    · have free := tidy.sound.alone top (Frame.holdsFlag_of_isMacrostep macrostep) _ other
      cases free

/-- Before a start no call is in progress. -/
theorem untouched (tidy : Tidy graph options here) (unstarted : here.self.core.status = .notStarted) :
    here.self.stack ++ here.waiting.flatten = [] := by
  have free := tidy.sound.free (tidy.sound.unstarted unstarted).1
  rw [List.eq_nil_iff_forall_not_mem]
  intro frame member
  cases frame with
  | publishing snapshot unheard sequel =>
    have delivered : ⟨snapshot,unheard,sequel⟩ ∈ here.circulation.deliveries :=
      List.mem_filterMap.mpr ⟨_,member,rfl⟩
    cases farewell : sequel.isFarewell with
    | true =>
      have past := tidy.farewell _ delivered farewell
      rw [unstarted] at past
      simp at past
    | false =>
      obtain ⟨drainer,firstError,drains⟩ := tidy.drain delivered farewell
      cases free _ drains
  | _ => cases free _ member

/-- Nobody produces anything while a farewell is in progress. -/
theorem no_farewell (tidy : Tidy graph options here) {deed : Deed M} {snapshot : Snapshot M.State M.Context}
    {sequel : Sequel} (produces : here.self.Produces deed snapshot sequel) :
    ∀ delivery ∈ here.circulation.deliveries, delivery.sequel.isFarewell = false := by
  intro delivery member
  cases farewell : delivery.sequel.isFarewell with
  | false => rfl
  | true => exact absurd (tidy.farewell delivery member farewell) produces.unended

theorem turn (tidy : Tidy graph options here) {deed : Deed M} {self : Interpreter M}
    (turn : Turn here.self deed self)
    (patient : self.core.status = .notStarted → here.waiting ≠ [] →
      ∀ delivery ∈ (self.circulation here.waiting.flatten).deliveries, delivery.sequel.isFarewell = false) :
    Tidy graph options ⟨self,here.waiting⟩ := by
  have unstarted : here.self.core.status = .notStarted → here.self.stack = [] := fun unstarted =>
    (List.append_eq_nil_iff.mp (tidy.untouched unstarted)).1
  have mine : Nested here.self.stack := tidy.nested _ List.mem_cons_self
  refine ⟨tidy.sound.turn turn,?_,?_,?_⟩
  · intro stack member
    rcases List.mem_cons.mp member with same | waits
    · rw [same]
      exact turn.nested mine unstarted
    · exact tidy.nested _ (List.mem_cons_of_mem _ waits)
  · intro delivery member farewell
    rcases turn.circulates here.waiting.flatten with step | ⟨snapshot,sequel,produces,same,_,ended⟩
    · obtain ⟨earlier,before,parting⟩ := step.farewell member farewell
      have past := tidy.farewell earlier before parting
      rcases turn.ends_for_good tidy.sound past with kept | ⟨anew,pending,top⟩
      · simp only [kept]
        exact past
      · -- a start that fails is the only call of its caller
        have nothing : self.stack = [] := by
          rw [top] at mine
          exact mine.1
        by_cases single : here.waiting = []
        · rw [Gathering.circulation,Interpreter.circulation,nothing,single] at member
          cases member
        · rw [patient anew single delivery member] at farewell
          cases farewell
    · have old := tidy.no_farewell produces
      simp only [Gathering.circulation] at member old
      rw [same] at member
      rcases List.mem_cons.mp member with new | other
      · rw [new] at farewell
        exact ended farewell
      · rw [old delivery other] at farewell
        cases farewell
  · rcases turn.circulates here.waiting.flatten with step | ⟨snapshot,sequel,_,same,_,_⟩
    · exact step.orderly tidy.orderly
    · rw [Gathering.circulation,same]
      exact Circulation.Orderly.publish tidy.orderly snapshot sequel

/-- It does not matter which of the callers has its turn. -/
theorem rearranged (tidy : Tidy graph options here) {stack : List (Frame M)} {waiting : List (List (Frame M))}
    (same : (stack ++ waiting.flatten).Perm (here.self.stack ++ here.waiting.flatten))
    (among : ∀ other ∈ stack :: waiting, other ∈ here.self.stack :: here.waiting ∨ other = []) :
    Tidy graph options ⟨{ here.self with stack },waiting⟩ := by
  have shuffled : (deliveries (stack ++ waiting.flatten)).Perm here.circulation.deliveries := same.filterMap _
  refine ⟨tidy.sound.rearranged same,?_,?_,tidy.orderly.distinct,tidy.orderly.known,?_⟩
  · intro other member
    rcases among other member with old | empty
    · exact tidy.nested other old
    · rw [empty]
      trivial
  · intro delivery member
    exact tidy.farewell delivery (shuffled.mem_iff.mp member)
  · intro delivery member
    exact tidy.orderly.once delivery (shuffled.mem_iff.mp member)

end Tidy

theorem Gathering.Moves.tidy {here next : Gathering M} {deed : Deed M} (moves : here.Moves deed next)
    (tidy : Tidy graph options here)
    (patient : next.self.core.status = .notStarted → next.waiting ≠ [] →
      ∀ delivery ∈ next.circulation.deliveries, delivery.sequel.isFarewell = false) :
    Tidy graph options next := by
  cases moves with
  | turn turn => exact tidy.turn turn patient
  | back =>
    apply tidy.rearranged (back_perm _ _ _ _)
    intro other member
    left
    simp only [List.mem_cons,List.mem_append] at member ⊢
    rcases member with first | before | own | after
    · exact .inr (.inr (.inl first))
    · exact .inr (.inl before)
    · exact .inl own
    · exact .inr (.inr (.inr after))
  | join =>
    apply tidy.rearranged (by simp)
    intro other member
    rcases List.mem_cons.mp member with empty | old
    · exact .inr empty
    · exact .inl old

end Statechart
