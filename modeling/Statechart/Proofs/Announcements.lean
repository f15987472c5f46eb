import Statechart.Proofs.Deliveries

/-!
# Announcements: what is published and what a start returns

Whoever is told of a snapshot, or gets one back from a start, learns of the core as it was at one moment:
when the snapshot was produced (`Moves.produced_eq`), or when the macrostep of the start was over
(`Moves.returned`).
-/
namespace Statechart

variable {M : Machine} {graph : Graph M} {options : Options}

/-- A snapshot that is produced shows the core as it is from then on. -/
theorem Turn.produced_eq {self next : Interpreter M} {deed : Deed M} (turn : Turn self deed next)
    {snapshot : Snapshot M.State M.Context} (member : snapshot ∈ produced (self.notes next deed)) :
    snapshot = next.snapshot := by
  have silent : ∀ {next : Interpreter M} {deed : Deed M}, next.stack.length ≤ self.stack.length →
      snapshot ∉ produced (self.notes next deed) := by
    intro next deed shrinks
    rw [Interpreter.produced_notes shrinks]
    exact List.not_mem_nil
  have unpublished : ∀ {next : Interpreter M} {deed : Deed M} {frame : Frame M} {below : List (Frame M)},
      next.stack = frame :: below → frame.delivery? = none → snapshot ∉ produced (self.notes next deed) := by
    intro next deed frame below top quiet
    rw [Interpreter.notes_of_silent top quiet]
    exact List.not_mem_nil
  have published : ∀ {next : Interpreter M} {deed : Deed M} {told : Snapshot M.State M.Context}
      {unheard : List (Nat × M.Listener)} {sequel : Sequel} {below : List (Frame M)},
      next.stack = .publishing told unheard sequel :: below → (∀ number snapshot, deed ≠ .told number snapshot) →
        snapshot ∈ produced (self.notes next deed) → snapshot = told := by
    intro next deed told unheard sequel below top untold member
    unfold Interpreter.notes at member
    split at member
    · cases member
    · exact absurd rfl (untold _ _)
    · rw [top] at member
      simp only at member
      split at member
      · simpa using member
      · cases member
  cases turn with
  | start clocked =>
    rcases self.start_cases clocked with ⟨_,result⟩ | ⟨_,result⟩ | ⟨_,result⟩ <;> rw [result] at member
    · exact absurd member (silent (Nat.le_refl _))
    · exact absurd member (silent (Nat.le_refl _))
    · exact absurd member (unpublished rfl rfl)
  | send signal =>
    rcases self.post_cases (.signal signal) with ⟨_,result⟩ | ⟨_,result⟩ | ⟨_,_,result⟩ | ⟨_,_,result⟩ <;>
      rw [result] at member
    · exact absurd member (silent (Nat.le_refl _))
    · exact absurd member (silent (Nat.le_refl _))
    · exact absurd member (silent (Nat.le_refl _))
    · exact absurd member (unpublished rfl rfl)
  | stop =>
    rcases self.stop_cases with ⟨_,result⟩ | ⟨_,_,result⟩ <;> rw [result] at member ⊢
    · exact absurd member (silent (Nat.le_refl _))
    · exact published rfl (by simp) member
  | subscribe listener => exact absurd member (silent (Nat.le_refl _))
  | unsubscribe number => exact absurd member (silent (Nat.le_refl _))
  | answer asked given =>
    rcases Interpreter.resume_cases asked with ⟨below,top,resumed⟩ | ⟨_,_,_,below,top,resumed⟩ <;> rw [resumed] at member
    · exact absurd member (silent (by rw [top]; exact Nat.le_refl _))
    · exact absurd member (silent (by rw [top]; exact Nat.le_refl _))
  | told top =>
    rw [Interpreter.notified_eq top] at member
    exact absurd member (silent (by rw [top]; exact Nat.le_refl _))
  | go _ =>
    have ticks := self.ticks
    generalize self.tick.1 = next at ticks member ⊢
    cases ticks with
    | startCommitted _ _ => exact published rfl (by simp) member
    | stepCommitted _ _ => exact published rfl (by simp) member
    | faulted _ _ _ => exact published rfl (by simp) member
    | startOverruled top _ => exact absurd member (unpublished rfl rfl)
    | startFailed top => exact absurd member (silent (by rw [top]; exact Nat.le_succ _))
    | drained top _ => exact absurd member (silent (by rw [top]; exact Nat.le_succ _))
    | taken _ _ _ _ => exact absurd member (unpublished rfl rfl)
    | dropped _ _ _ => exact absurd member (silent (Nat.le_refl _))
    | stepOverruled _ _ => exact absurd member (unpublished rfl rfl)
    | stepFailed _ _ => exact absurd member (unpublished rfl rfl)
    | released top _ => exact absurd member (silent (by rw [top]; exact Nat.le_succ _))
    | heard top _ => exact absurd member (silent (by rw [top]; exact Nat.le_succ _))
    | idle _ => exact absurd member (silent (Nat.le_refl _))
  | sleep _ _ => exact absurd member (silent (Nat.le_refl _))
  | @deliver place activity event _ _ =>
    rcases (self.setActivity place none).post_cases event with ⟨_,result⟩ | ⟨_,result⟩ | ⟨_,_,result⟩ | ⟨_,_,result⟩ <;>
      rw [result] at member
    · exact absurd member (silent (Nat.le_refl _))
    · exact absurd member (silent (Nat.le_refl _))
    · exact absurd member (silent (Nat.le_refl _))
    · exact absurd member (unpublished rfl rfl)

theorem Gathering.Moves.produced_eq {here next : Gathering M} {deed : Deed M} (moves : here.Moves deed next)
    {snapshot : Snapshot M.State M.Context} (member : snapshot ∈ produced (here.self.notes next.self deed)) :
    snapshot = next.self.snapshot := by
  cases moves with
  | turn turn => exact turn.produced_eq member
  | back => cases member
  | join => cases member

/-- The snapshot that a start returns once its drain is over. -/
def Frame.returned? : Frame M → Option (Snapshot M.State M.Context)
  | .draining (.start snapshot) _ => some snapshot
  | .reacting (.start snapshot) _ _ _ => some snapshot
  | _ => none

theorem Frame.holdsFlag_of_returned {frame : Frame M} {snapshot : Snapshot M.State M.Context}
    (returns : frame.returned? = some snapshot) : frame.holdsFlag = true := by
  cases frame with
  | publishing _ _ _ => cases returns
  | _ => rfl

/-- What the starts in progress are going to return. -/
def Gathering.returned (gathering : Gathering M) : List (Snapshot M.State M.Context) :=
  gathering.frames.filterMap Frame.returned?

/-- The macrostep of a start that is on top has come to a result and goes on. -/
def Interpreter.EndsStart (self : Interpreter M) (deed : Deed M) : Prop :=
  deed = .go ∧ ∃ step below, self.stack = .starting (.done (.ok step)) :: below

/-- What a start is going to return shows the core as it is when its macrostep is over. -/
theorem Turn.returned {self next : Interpreter M} {deed : Deed M} (turn : Turn self deed next)
    {snapshot : Snapshot M.State M.Context} (member : snapshot ∈ next.stack.filterMap Frame.returned?) :
    snapshot ∈ self.stack.filterMap Frame.returned? ∨ self.EndsStart deed ∧ snapshot = next.snapshot := by
  have posted : ∀ {self : Interpreter M} {event : Event M},
      (self.post event).1.stack.filterMap Frame.returned? = self.stack.filterMap Frame.returned? := by
    intro self event
    rcases self.post_cases event with ⟨_,result⟩ | ⟨_,result⟩ | ⟨_,_,result⟩ | ⟨_,_,result⟩
    · rw [result]
    · rw [result]
    · rw [result]
    · rw [result]
      rfl
  cases turn with
  | start clocked =>
    rcases self.start_cases clocked with ⟨_,result⟩ | ⟨_,result⟩ | ⟨_,result⟩ <;> rw [result] at member <;> exact .inl member
  | send signal => rw [posted] at member; exact .inl member
  | stop =>
    rcases self.stop_cases with ⟨_,result⟩ | ⟨_,_,result⟩ <;> rw [result] at member <;> exact .inl member
  | subscribe _ => exact .inl member
  | unsubscribe _ => exact .inl member
  | answer asked given =>
    rcases Interpreter.resume_cases asked with ⟨below,top,resumed⟩ | ⟨drainer,firstError,event,below,top,resumed⟩
    · rw [resumed] at member
      rw [top]
      exact .inl member
    · rw [resumed] at member
      rw [top]
      cases drainer <;> exact .inl member
  | told top =>
    rw [Interpreter.notified_eq top] at member
    rw [top]
    exact .inl member
  | go _ =>
    have ticks := self.ticks
    generalize self.tick.1 = next at ticks member ⊢
    cases ticks with
    | startCommitted top _ =>
      rcases List.mem_cons.mp member with now | earlier
      · exact .inr ⟨⟨rfl,_,_,top⟩,now⟩
      · exact .inl (by rw [top]; exact earlier)
    | startOverruled top _ =>
      rcases List.mem_cons.mp member with now | earlier
      · exact .inr ⟨⟨rfl,_,_,top⟩,now⟩
      · exact .inl (by rw [top]; exact earlier)
    | startFailed top => exact .inl (by rw [top]; exact member)
    | @drained drainer _ _ top _ => exact .inl (by rw [top]; cases drainer <;> simp_all [Frame.returned?])
    | @taken drainer _ _ _ _ top _ _ _ => exact .inl (by rw [top]; cases drainer <;> exact member)
    | dropped _ _ _ => exact .inl member
    | @stepCommitted drainer _ _ _ _ top _ => exact .inl (by rw [top]; cases drainer <;> exact member)
    | @stepOverruled drainer _ _ _ _ top _ => exact .inl (by rw [top]; cases drainer <;> exact member)
    | @faulted drainer _ _ _ _ top _ _ => exact .inl (by rw [top]; cases drainer <;> exact member)
    | @stepFailed drainer _ _ _ _ top _ => exact .inl (by rw [top]; cases drainer <;> exact member)
    | released top _ => exact .inl (by rw [top]; exact member)
    | heard top _ => exact .inl (by rw [top]; exact member)
    | idle _ => exact .inl member
  | sleep _ _ => exact .inl member
  | deliver _ _ => rw [posted] at member; exact .inl member

theorem Gathering.Moves.returned {here next : Gathering M} {deed : Deed M} (moves : here.Moves deed next)
    {snapshot : Snapshot M.State M.Context} (member : snapshot ∈ next.returned) :
    snapshot ∈ here.returned ∨ here.self.EndsStart deed ∧ snapshot = next.self.snapshot := by
  cases moves with
  | turn turn =>
    simp only [Gathering.returned,Gathering.frames,List.filterMap_append,List.mem_append] at member ⊢
    rcases member with here | elsewhere
    · rcases turn.returned here with earlier | now
      · exact .inl (.inl earlier)
      · exact .inr now
    · exact .inl (.inr elsewhere)
  | back => exact .inl (((back_perm _ _ _ _).filterMap _).mem_iff.mp member)
  | join => exact .inl (by simpa [Gathering.returned,Gathering.frames] using member)

/-- What a start returns is what it was going to return. -/
theorem Interpreter.top_of_started {self : Interpreter M} {snapshot : Snapshot M.State M.Context}
    (returns : self.tick.2 = some (.started (.ok snapshot))) :
    ∃ firstError below, self.stack = .draining (.start snapshot) firstError :: below := by
  rw [tick] at returns
  split at returns
  case h_3 drainer firstError below top =>
    split at returns
    · cases drainer with
      | start _ => cases returns; exact ⟨_,_,top⟩
      | poster => cases firstError <;> cases returns
    · cases returns
  all_goals cases returns

/-- An interpreter that has been stopped stays so as long as a start is about to return. -/
theorem Gathering.Moves.stays_stopped {here next : Gathering M} {deed : Deed M} (moves : here.Moves deed next)
    (sound : Sound graph options here.self here.waiting.flatten) (stopped : here.self.core.status = .stopped)
    {snapshot : Snapshot M.State M.Context} (returns : snapshot ∈ here.returned) : next.self.core = here.self.core := by
  cases moves with
  | turn turn =>
    rcases turn.ends_for_good sound (.inl stopped) with kept | ⟨_,pending,top⟩
    · exact kept
    · -- a start that fails would take it back, but there is no other one
      obtain ⟨frame,among,returned⟩ := List.mem_filterMap.mp returns
      simp only [Gathering.frames,top,List.cons_append,List.mem_cons] at among
      rcases among with rfl | below
      · cases returned
      · have released := sound.alone top rfl frame below
        rw [Frame.holdsFlag_of_returned returned] at released
        cases released
  | back => rfl
  | join => rfl

end Statechart
