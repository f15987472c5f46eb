import Statechart.Proofs.Runs

/-!
# Ownership: one flag, at most one start or drain

The flag of an interpreter is held exactly while a start or a drain is in progress, of whichever
caller, and there is at most one of them (`Sound.flag`). So no two macrosteps are ever computed at
the same time, and while a start computes its macrostep nothing has been committed yet.
-/
namespace Statechart

variable {M : Machine} {graph : Graph M} {options : Options}

/-- What holds of an interpreter at every moment, given the calls in progress of the callers that
wait. -/
structure Sound (graph : Graph M) (options : Options) (interpreter : Interpreter M)
    (others : List (Frame M)) : Prop where
  graph_eq : interpreter.graph = graph
  options_eq : interpreter.options = options
  flag : (interpreter.stack ++ others).countP Frame.holdsFlag = interpreter.draining.toNat
  unstarted : interpreter.core.status = .notStarted →
    interpreter.draining = false ∧ interpreter.mailbox = [] ∧ interpreter.core = .fresh graph options
  starting : ∀ pending, .starting pending ∈ interpreter.stack ++ others →
    ∃ status clocked, (status = .running ∨ status = .stopped) ∧
      interpreter.core = { Core.fresh graph options with status, clocked }
  ended : interpreter.core.status = .stopped ∨ interpreter.core.status = .failed →
    interpreter.mailbox = [] ∧ interpreter.core.activities = []

namespace Sound

variable {self : Interpreter M} {others : List (Frame M)}

theorem fresh (graph : Graph M) (options : Options) : Sound graph options (.fresh graph options) [] := by
  refine ⟨rfl,rfl,rfl,?_,?_,?_⟩
  · intro _; exact ⟨rfl,rfl,rfl⟩
  · simp [Interpreter.fresh]
  · simp [Interpreter.fresh,Core.fresh]

/-- Besides a start or drain on top there is no other one, of whichever caller. -/
theorem alone (sound : Sound graph options self others) {frame : Frame M} {below : List (Frame M)}
    (top : self.stack = frame :: below) (holds : frame.holdsFlag = true) :
    ∀ other ∈ below ++ others, other.holdsFlag = false := by
  have flag := sound.flag
  have bounded := self.draining.toNat_le
  rw [top,List.cons_append,List.countP_cons_of_pos holds] at flag
  have none : (below ++ others).countP Frame.holdsFlag = 0 := by omega
  intro other member
  simpa using List.countP_eq_zero.mp none other member

/-- Nobody holds the flag when it is free. -/
theorem free (sound : Sound graph options self others) (released : self.draining = false) :
    ∀ frame ∈ self.stack ++ others, frame.holdsFlag = false := by
  have flag := sound.flag
  rw [released,Bool.toNat_false,List.countP_eq_zero] at flag
  intro frame member
  simpa using flag frame member

theorem not_starting (sound : Sound graph options self others) {frame : Frame M}
    {below : List (Frame M)} (top : self.stack = frame :: below) (holds : frame.holdsFlag = true) :
    ∀ pending, .starting pending ∉ below ++ others := by
  intro pending member
  have free := sound.alone top holds _ member
  cases free

/-- The flag is held while a start or a drain is on top. -/
theorem held (sound : Sound graph options self others) {frame : Frame M} {below : List (Frame M)}
    (top : self.stack = frame :: below) (holds : frame.holdsFlag = true) : self.draining = true := by
  have flag := sound.flag
  rw [top,List.cons_append,List.countP_cons_of_pos holds] at flag
  cases held : self.draining with
  | true => rfl
  | false => rw [held] at flag; simp at flag

theorem started (sound : Sound graph options self others) {frame : Frame M} {below : List (Frame M)}
    (top : self.stack = frame :: below) (holds : frame.holdsFlag = true) :
    self.core.status ≠ .notStarted := by
  intro unstarted
  have released := (sound.unstarted unstarted).1
  rw [sound.held top holds] at released
  exact absurd released (by simp)

/-! ## What the operations keep -/

theorem start (sound : Sound graph options self others) (clocked : Bool) :
    Sound graph options (self.start clocked).1 others := by
  rcases self.start_cases clocked with ⟨_,refused⟩ | ⟨_,refused⟩ | ⟨unstarted,begun⟩
  · rw [refused]; exact sound
  · rw [refused]; exact sound
  · obtain ⟨released,empty,untouched⟩ := sound.unstarted unstarted
    have flag := sound.flag
    rw [begun]
    refine ⟨sound.graph_eq,sound.options_eq,?_,?_,?_,?_⟩
    · rw [released] at flag
      rw [List.cons_append,List.countP_cons_of_pos rfl,flag]
      rfl
    · simp
    · intro _ _
      exact ⟨.running,clocked,.inl rfl,by rw [untouched]⟩
    · simp

theorem post (sound : Sound graph options self others) (event : Event M) :
    Sound graph options (self.post event).1 others := by
  rcases self.post_cases event with ⟨_,refused⟩ | ⟨_,refused⟩ | ⟨running,_,queued⟩ | ⟨running,released,begun⟩
  · rw [refused]; exact sound
  · rw [refused]; exact sound
  · rw [queued]
    refine ⟨sound.graph_eq,sound.options_eq,sound.flag,?_,sound.starting,?_⟩
    · simp [running]
    · simp [running]
  · have flag := sound.flag
    rw [begun]
    refine ⟨sound.graph_eq,sound.options_eq,?_,?_,?_,?_⟩
    · rw [released] at flag
      rw [List.cons_append,List.countP_cons_of_pos rfl,flag]
      rfl
    · simp [running]
    · intro pending member
      exact sound.starting pending (by simpa using member)
    · simp [running]

/-- Closing an interpreter that a start is computed for leaves the rest of the core alone. -/
theorem close (sound : Sound graph options self others) (fault : Option (Failure M.State))
    (sequel : Sequel) (kept : fault = self.core.fault) :
    Sound graph options (self.close .stopped fault sequel) others := by
  refine ⟨sound.graph_eq,sound.options_eq,?_,?_,?_,?_⟩
  · simpa [Interpreter.close,Interpreter.publish,Interpreter.push,Frame.holdsFlag] using sound.flag
  · simp [Interpreter.close,Interpreter.publish,Interpreter.push,Core.close]
  · intro pending member
    obtain ⟨status,clocked,_,core⟩ := sound.starting pending
      (by simpa [Interpreter.close,Interpreter.publish,Interpreter.push] using member)
    refine ⟨.stopped,clocked,.inr rfl,?_⟩
    simp [Interpreter.close,Interpreter.publish,Interpreter.push,Core.close,kept,core,Core.fresh]
  · simp [Interpreter.close,Interpreter.publish,Interpreter.push,Core.close]

theorem stop (sound : Sound graph options self others) : Sound graph options self.stop.1 others := by
  rcases self.stop_cases with ⟨_,refused⟩ | ⟨_,_,closed⟩
  · rw [refused]; exact sound
  · rw [closed]; exact sound.close _ _ rfl

theorem resume (sound : Sound graph options self others) {query : Query M}
    {next : query.Answer → Pending M} (asked : self.prompt = some (.query query next)) (given : query.Answer) :
    Sound graph options (self.resume (next given)) others := by
  have flag := sound.flag
  rcases Interpreter.resume_cases asked with ⟨below,top,resumed⟩ | ⟨drainer,firstError,event,below,top,resumed⟩
  · rw [resumed]
    rw [top] at flag
    refine ⟨sound.graph_eq,sound.options_eq,flag,sound.unstarted,?_,sound.ended⟩
    intro _ _
    exact sound.starting (.ask query next) (by simp [top])
  · rw [resumed]
    rw [top] at flag
    refine ⟨sound.graph_eq,sound.options_eq,flag,sound.unstarted,?_,sound.ended⟩
    intro pending member
    exact sound.starting pending (by simpa [top] using member)

theorem notified (sound : Sound graph options self others) {snapshot : Snapshot M.State M.Context}
    {entry : Nat × M.Listener} {unheard : List (Nat × M.Listener)} {sequel : Sequel} {below : List (Frame M)}
    (top : self.stack = .publishing snapshot (entry :: unheard) sequel :: below) :
    Sound graph options self.notified others := by
  have flag := sound.flag
  rw [Interpreter.notified_eq top]
  rw [top] at flag
  refine ⟨sound.graph_eq,sound.options_eq,flag,sound.unstarted,?_,sound.ended⟩
  intro pending member
  exact sound.starting pending (by simpa [top] using member)

/-- An activity goes on or ends only where there is one, so neither before a start nor during it. -/
theorem setActivity (sound : Sound graph options self others) {place : Nat} {activity : Activity M}
    (found : self.core.activities[place]? = some activity) (later : Option (Activity M)) :
    Sound graph options (self.setActivity place later) others := by
  have idle : self.core.activities ≠ [] := by
    intro none
    rw [none] at found
    cases found
  refine ⟨sound.graph_eq,sound.options_eq,sound.flag,?_,?_,?_⟩
  · intro unstarted
    have core := (sound.unstarted unstarted).2.2
    exact absurd (by rw [core]; rfl) idle
  · intro pending member
    obtain ⟨status,clocked,_,core⟩ := sound.starting pending member
    exact absurd (by rw [core]; rfl) idle
  · intro past
    exact absurd (sound.ended past).2 idle

/-- Parts of a start or drain are replaced by others of the same one. -/
theorem flag_replaced (sound : Sound graph options self others) (parts : List (Frame M)) {frame : Frame M}
    {below : List (Frame M)} (top : self.stack = frame :: below) (holds : frame.holdsFlag = true)
    (one : parts.countP Frame.holdsFlag = 1) :
    (parts ++ below ++ others).countP Frame.holdsFlag = self.draining.toNat := by
  have flag := sound.flag
  rw [top,List.cons_append,List.countP_cons_of_pos holds] at flag
  rw [List.append_assoc,List.countP_append,one]
  omega

end Sound

theorem Core.running_of_admits {core : Core M} {step : Step M} (admitted : core.admits step = true) :
    core.status = .running := by
  simp only [Core.admits,Bool.and_eq_true,decide_eq_true_eq] at admitted
  exact admitted.1

theorem Core.status_commit {core : Core M} {step : Step M} (admitted : core.admits step = true) :
    (core.commit step).status = .running ∨ (core.commit step).status = .done := by
  have running := Core.running_of_admits admitted
  cases entry : step.entry with
  | none => exact .inl (by simp [Core.commit,entry,running])
  | some entered =>
    by_cases final : M.isFinal step.state = true
    · exact .inr (by simp [Core.commit,entry,final])
    · by_cases clocked : core.clocked = true
      · exact .inl (by simp [Core.commit,entry,final,clocked,running])
      · exact .inl (by simp [Core.commit,entry,final,clocked,running])

namespace Sound

variable {self : Interpreter M} {others : List (Frame M)}

/-- A commit ends the macrostep that held the flag and goes on with its drain. -/
theorem committed (sound : Sound graph options self others) {frame : Frame M} {below : List (Frame M)}
    {step : Step M} (top : self.stack = frame :: below) (holds : frame.holdsFlag = true)
    (admitted : self.core.admits step = true) (sequel : Sequel) (drainer : Drainer M)
    (firstError : Option (Failure M.State)) :
    Sound graph options { self with
      core := self.core.commit step
      stack := .publishing (self.core.commit step).snapshot self.registry.entries sequel ::
        .draining drainer firstError :: below } others := by
  have status := Core.status_commit admitted
  refine ⟨sound.graph_eq,sound.options_eq,?_,?_,?_,?_⟩
  · exact sound.flag_replaced [_,_] top holds rfl
  · intro unstarted
    rw [unstarted] at status
    simp at status
  · intro pending member
    exact absurd (by simpa using member) (sound.not_starting top holds pending)
  · intro past
    rcases status with status | status <;> simp [status] at past

/-- A macrostep that is over without a commit leaves the core alone. -/
theorem passed (sound : Sound graph options self others) {frame : Frame M} {below : List (Frame M)}
    (top : self.stack = frame :: below) (holds : frame.holdsFlag = true) (drainer : Drainer M)
    (firstError : Option (Failure M.State)) :
    Sound graph options { self with stack := .draining drainer firstError :: below } others := by
  refine ⟨sound.graph_eq,sound.options_eq,?_,sound.unstarted,?_,sound.ended⟩
  · exact sound.flag_replaced [_] top holds rfl
  · intro pending member
    exact absurd (by simpa using member) (sound.not_starting top holds pending)

/-- A delivery that is over makes way for what is below it. -/
theorem popped (sound : Sound graph options self others) {snapshot : Snapshot M.State M.Context}
    {unheard : List (Nat × M.Listener)} {sequel : Sequel} {below : List (Frame M)}
    (top : self.stack = .publishing snapshot unheard sequel :: below) (registry : Registry M.Listener) :
    Sound graph options { self with registry, stack := below } others := by
  have flag := sound.flag
  rw [top,List.cons_append,List.countP_cons_of_neg (by simp [Frame.holdsFlag])] at flag
  refine ⟨sound.graph_eq,sound.options_eq,flag,sound.unstarted,?_,sound.ended⟩
  intro pending member
  exact sound.starting pending (by rw [top]; exact List.mem_cons_of_mem _ member)

theorem tick (sound : Sound graph options self others) : Sound graph options self.tick.1 others := by
  have ticks := self.ticks
  generalize self.tick.1 = next at ticks ⊢
  cases ticks with
  | startCommitted top admitted => exact sound.committed top rfl admitted _ _ _
  | startOverruled top _ => exact sound.passed top rfl _ _
  | startFailed top =>
    have flag := sound.flag
    rw [top,List.cons_append,List.countP_cons_of_pos rfl,sound.held top rfl] at flag
    obtain ⟨status,clocked,_,core⟩ := sound.starting _ (by rw [top]; exact List.mem_cons_self)
    refine ⟨sound.graph_eq,sound.options_eq,?_,?_,?_,?_⟩
    · exact Nat.succ.inj flag
    · intro _
      exact ⟨rfl,rfl,by rw [core]; rfl⟩
    · intro pending member
      exact absurd member (sound.not_starting top rfl pending)
    · simp
  | drained top _ =>
    have flag := sound.flag
    rw [top,List.cons_append,List.countP_cons_of_pos rfl,sound.held top rfl] at flag
    refine ⟨sound.graph_eq,sound.options_eq,Nat.succ.inj flag,?_,?_,sound.ended⟩
    · intro unstarted
      exact absurd unstarted (sound.started top rfl)
    · intro pending member
      exact absurd member (sound.not_starting top rfl pending)
  | taken top mail running _ =>
    refine ⟨sound.graph_eq,sound.options_eq,?_,?_,?_,?_⟩
    · exact sound.flag_replaced [_] top rfl rfl
    · simp [running]
    · intro pending member
      exact absurd (by simpa using member) (sound.not_starting top rfl pending)
    · simp [running]
  | dropped top mail _ =>
    refine ⟨sound.graph_eq,sound.options_eq,sound.flag,?_,sound.starting,?_⟩
    · intro unstarted
      exact absurd unstarted (sound.started top rfl)
    · intro past
      exact absurd (sound.ended past).1 (by simp [mail])
  | stepCommitted top admitted => exact sound.committed top rfl admitted _ _ _
  | stepOverruled top _ => exact sound.passed top rfl _ _
  | faulted top _ _ =>
    refine ⟨sound.graph_eq,sound.options_eq,?_,?_,?_,?_⟩
    · exact sound.flag_replaced [_,_] top rfl rfl
    · simp [Core.close]
    · intro pending member
      exact absurd (by simpa using member) (sound.not_starting top rfl pending)
    · simp [Core.close]
  | stepFailed top _ => exact sound.passed top rfl _ _
  | released top _ => exact sound.popped top _
  | heard top _ => exact sound.popped top self.registry
  | idle => exact sound

theorem turn (sound : Sound graph options self others) {deed : Deed M} {next : Interpreter M}
    (turn : Turn self deed next) : Sound graph options next others := by
  cases turn with
  | start clocked => exact sound.start clocked
  | send signal => exact sound.post _
  | stop => exact sound.stop
  | subscribe listener => exact ⟨sound.graph_eq,sound.options_eq,sound.flag,sound.unstarted,sound.starting,sound.ended⟩
  | unsubscribe number => exact ⟨sound.graph_eq,sound.options_eq,sound.flag,sound.unstarted,sound.starting,sound.ended⟩
  | answer asked given => exact sound.resume asked given
  | told top => exact sound.notified top
  | go _ => exact sound.tick
  | sleep found _ => exact sound.setActivity found _
  | deliver found _ => exact (sound.setActivity found none).post _

/-- It does not matter which of the callers has its turn. -/
theorem rearranged (sound : Sound graph options self others) {stack others' : List (Frame M)}
    (same : (stack ++ others').Perm (self.stack ++ others)) :
    Sound graph options { self with stack } others' := by
  refine ⟨sound.graph_eq,sound.options_eq,?_,sound.unstarted,?_,sound.ended⟩
  · rw [same.countP_eq]
    exact sound.flag
  · intro pending member
    exact sound.starting pending (same.mem_iff.mp member)

end Sound

namespace Gathering

theorem back_perm (stack other : List (Frame M)) (before after : List (List (Frame M))) :
    (other ++ (before ++ stack :: after).flatten).Perm (stack ++ (before ++ other :: after).flatten) := by
  simp only [List.flatten_append,List.flatten_cons]
  have commute : ∀ left right : List (Frame M), (left ++ right).Perm (right ++ left) :=
    fun _ _ => List.perm_append_comm
  have front := (commute other before.flatten).append_right (stack ++ after.flatten)
  have back := (commute before.flatten stack).append_right (other ++ after.flatten)
  have swap := (commute other stack).append_right after.flatten
  simp only [List.append_assoc] at front back swap ⊢
  exact front.trans ((swap.append_left before.flatten).trans back)

theorem Moves.sound {gathering next : Gathering M} {deed : Deed M} (moves : gathering.Moves deed next)
    (sound : Sound graph options gathering.self gathering.waiting.flatten) :
    Sound graph options next.self next.waiting.flatten := by
  cases moves with
  | turn turn => exact sound.turn turn
  | back => exact sound.rearranged (back_perm _ _ _ _)
  | join => exact sound.rearranged (by simp)

theorem Path.sound {first gathering : Gathering M} {deeds : List (Deed M)} {log : List (Note M)}
    (path : first.Path deeds log gathering) (sound : Sound graph options first.self first.waiting.flatten) :
    Sound graph options gathering.self gathering.waiting.flatten := by
  induction path with
  | here => exact sound
  | onward _ moves ih => exact moves.sound ih

theorem Reachable.sound {gathering : Gathering M} (reachable : gathering.Reachable graph options) :
    Sound graph options gathering.self gathering.waiting.flatten := by
  obtain ⟨deeds,log,path⟩ := reachable
  exact path.sound (Sound.fresh graph options)

end Gathering

end Statechart
