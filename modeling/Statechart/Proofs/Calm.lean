import Statechart.Proofs.Deliveries
import Statechart.Proofs.Promises

/-!
# Calm runs: nobody stops the interpreter in the middle of a macrostep

Then the interpreter is running as long as a macrostep is in progress, and no listener is called before
the macrostep is over (`Calm.silent`).
-/
namespace Statechart

variable {M : Machine} {graph : Graph M} {options : Options}

/-- There is one start or drain at most. -/
theorem Sound.sole {self : Interpreter M} {others : List (Frame M)} (sound : Sound graph options self others)
    {frame other : Frame M} (among : frame ∈ self.stack ++ others) (also : other ∈ self.stack ++ others)
    (holds : frame.holdsFlag = true) (too : other.holdsFlag = true) : frame = other := by
  have flag := sound.flag
  have held := self.draining.toNat_le
  have few : ((self.stack ++ others).filter Frame.holdsFlag).length ≤ 1 := by
    rw [← List.countP_eq_length_filter]
    omega
  obtain ⟨first,one⟩ := List.length_eq_one_iff.mp (Nat.le_antisymm few
    (List.length_pos_of_mem (List.mem_filter.mpr ⟨among,holds⟩)))
  have same := one ▸ List.mem_filter.mpr ⟨among,holds⟩
  have likewise := one ▸ List.mem_filter.mpr ⟨also,too⟩
  rw [List.mem_singleton.mp same,List.mem_singleton.mp likewise]

/-- While a macrostep is in progress and the interpreter is running, nobody is told of anything. -/
theorem Tidy.hushed {here : Gathering M} (tidy : Tidy graph options here) (running : here.self.core.status = .running)
    (busy : here.macrosteps ≠ []) : here.circulation.deliveries = [] := by
  obtain ⟨frame,rest,one⟩ := List.exists_cons_of_ne_nil busy
  obtain ⟨among,macrostep⟩ := List.mem_filter.mp (one ▸ List.mem_cons_self : frame ∈ here.macrosteps)
  rw [List.eq_nil_iff_forall_not_mem]
  intro delivery member
  cases farewell : delivery.sequel.isFarewell with
  | true =>
    have past := tidy.farewell delivery member farewell
    rw [running] at past
    simp at past
  | false =>
    obtain ⟨drainer,firstError,drains⟩ := tidy.drain member farewell
    rw [tidy.sound.sole among drains (Frame.holdsFlag_of_isMacrostep macrostep) rfl] at macrostep
    cases macrostep

/-- Where there is no delivery, none goes on. -/
theorem Circulation.Step.none {before after : Circulation M} {notes : List (Note M)} (step : before.Step notes after)
    (quiet : before.deliveries = []) : after.deliveries = [] := by
  cases step with
  | told => cases quiet
  | done _ => cases quiet
  | released _ => cases quiet
  | _ => exact quiet

namespace Gathering

variable {here next : Gathering M} {deed : Deed M}

/-- What holds at each moment, as long as nobody stops the interpreter while a macrostep is in progress. -/
structure Calm (graph : Graph M) (options : Options) (here : Gathering M) : Prop where
  tidy : Tidy graph options here
  running : here.macrosteps ≠ [] → here.self.core.status = .running

namespace Calm

theorem fresh (graph : Graph M) (options : Options) : Calm graph options (.fresh graph options) :=
  ⟨.fresh graph options,fun busy => absurd rfl busy⟩

/-- No start fails while somebody is told of anything. -/
theorem patient (calm : Calm graph options here) (moves : here.Moves deed next)
    (unstarted : next.self.core.status = .notStarted) :
    ∀ delivery ∈ next.circulation.deliveries, delivery.sequel.isFarewell = false := by
  have quiet : here.circulation.deliveries = [] := by
    rcases moves.changes.takes_back unstarted with before | ⟨failure,below,top⟩
    · exact congrArg deliveries (calm.tidy.untouched before)
    · have busy : here.macrosteps ≠ [] := by simp [macrosteps,frames,top,Frame.isMacrostep]
      exact calm.tidy.hushed (calm.running busy) busy
  intro delivery member
  cases moves with
  | @turn self _ _ waiting turn =>
    rcases turn.circulates waiting.flatten with step | ⟨snapshot,sequel,_,same,_,ends⟩
    · have none := step.none quiet
      simp only [circulation] at member
      rw [none] at member
      cases member
    · simp only [circulation] at member quiet
      rw [same,Circulation.publish,quiet,List.mem_singleton] at member
      subst member
      cases farewell : sequel.isFarewell with
      | false => rfl
      | true =>
        have past := ends farewell
        rw [unstarted] at past
        simp at past
  | back =>
    have same := ((back_perm _ _ _ _).filterMap Frame.delivery?).mem_iff.mp member
    rw [show List.filterMap _ _ = [] from quiet] at same
    cases same
  | join =>
    simp only [circulation,Interpreter.circulation,List.flatten_cons,List.nil_append] at member quiet
    rw [quiet] at member
    cases member

theorem onward (calm : Calm graph options here) (moves : here.Moves deed next)
    (awaits : deed = .stop → here.macrosteps = []) : Calm graph options next := by
  have sound := calm.tidy.sound
  have tidy := moves.tidy calm.tidy fun unstarted _ => calm.patient moves unstarted
  refine ⟨tidy,?_⟩
  intro busy
  rcases moves.course sound with ⟨_,none⟩ | ⟨_,frame,begins,one⟩ | ⟨frame,_,first,_,_⟩ | ⟨_,_,none,_⟩
  · exact absurd none busy
  · cases begins with
    | start clocked unstarted =>
      have changed : next.self.core = here.self.core ∨ next.self.core.status = .running := by
        have changes := moves.changes
        generalize next.self.core = core at changes
        cases changes with
        | kept _ => exact .inl rfl
        | begun _ _ => exact .inr rfl
        | closed stops _ => rcases stops with stops | stops <;> cases stops
      rcases changed with same | running
      · rw [← same] at unstarted
        exact absurd (tidy.sound.no_macrostep (tidy.sound.unstarted unstarted).1) busy
      · exact running
    | take top mail running accepted =>
      rw [moves.of_go]
      simp [Interpreter.tick,Interpreter.processNext,top,mail,running,accepted]
  · have still : here.macrosteps ≠ [] := by simp [first]
    rw [moves.core_in_step sound still busy fun stops => still (awaits stops)]
    exact calm.running still
  · exact absurd none busy

end Calm

end Gathering

/-- Where a listener is called, its delivery is on top of the stack. -/
theorem Interpreter.heard_on_top {self next : Interpreter M} {deed : Deed M} {number : Nat}
    {snapshot : Snapshot M.State M.Context} (called : .heard number snapshot ∈ self.notes next deed) :
    ∃ told unheard sequel below, next.stack = .publishing told unheard sequel :: below := by
  unfold notes at called
  split at called
  · cases called
  · split at called
    · exact ⟨_,_,_,_,‹_›⟩
    · cases called
  · split at called
    · exact ⟨_,_,_,_,‹_›⟩
    · cases called

/-- Nobody is called with a snapshot while a macrostep is in progress. -/
theorem Gathering.Calm.silent {here next : Gathering M} {deed : Deed M} (calm : here.Calm graph options)
    (moves : here.Moves deed next) (awaits : deed = .stop → here.macrosteps = []) {number : Nat}
    {snapshot : Snapshot M.State M.Context} (called : .heard number snapshot ∈ here.self.notes next.self deed) :
    next.macrosteps = [] := by
  refine Classical.byContradiction fun busy => ?_
  have after := calm.onward moves awaits
  have quiet := after.tidy.hushed (after.running busy) busy
  obtain ⟨_,_,_,_,top⟩ := Interpreter.heard_on_top called
  simp [Gathering.circulation,Interpreter.circulation,deliveries,top,Frame.delivery?] at quiet

end Statechart
