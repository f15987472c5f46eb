import Statechart.Proofs.Login.Arrivals

/-!
# Reminders: the error of an account is what is left of the last attempt

An account has an error just if a second factor was asked for when an attempt was last concluded. Only the commit
of an attempt's outcome changes that (`Attended.error_onward`), so at each moment of a run the error can be read off
the last outcome that has been committed (`error_tells_last_outcome`).
-/
namespace Statechart.Login

/-! ## Outcomes -/

/-- The outcome of an attempt that an event tells of. -/
def verdictOf? : Event machine → Option Verdict
  | .done _ user => some (.ok user)
  | .failed _ rejection => some (.error rejection)
  | _ => none

/-- What an account keeps of an outcome: the rejection, if it asks for a second factor. -/
def reminderOf : Verdict → Option Rejection
  | .ok _ => none
  | .error rejection => if rejection.isMfaRequired then some rejection else none

theorem reminderOf_eq_some_iff {verdict : Verdict} {rejection : Rejection} :
    reminderOf verdict = some rejection ↔ verdict = .error rejection ∧ rejection.isMfaRequired = true := by
  cases verdict with
  | ok user => simp [reminderOf]
  | error other =>
    rw [reminderOf]
    constructor
    · intro kept
      split at kept
      · rename_i required
        cases kept
        exact ⟨rfl,required⟩
      · cases kept
    · rintro ⟨same,required⟩
      cases same
      exact if_pos required

/-- The outcome that is committed at a moment: the step of its event is. -/
def verdict? (moment : Moment machine) : Option Verdict :=
  moment.step?.bind fun _ => match moment.here.self.stack with
    | .reacting _ _ event _ :: _ => verdictOf? event
    | _ => none

/-- The outcomes that have been committed, one after another. -/
def verdicts (trail : List (Moment machine)) : List Verdict := trail.filterMap verdict?

/-- The last outcome is the one that has just been committed, or it is the same as before. -/
theorem verdicts_getLast? (trail : List (Moment machine)) (moment : Moment machine) :
    (verdicts (trail ++ [moment])).getLast? = (verdict? moment).or (verdicts trail).getLast? := by
  rw [verdicts,List.filterMap_append]
  cases tells : verdict? moment <;> simp [tells,verdicts]

/-- An outcome sets or clears the error of an account, and whatever else an event may lead to leaves it. -/
theorem Attains.error {renewInterval : Option Nat} {account : Account} {state : State} {event : Event machine}
    {step : Statechart.Step machine} (attains : Attains renewInterval account state event step) (taken : step.taken = true) :
    step.context.error = ((verdictOf? event).map reminderOf).getD account.error := by
  cases attains with
  | nothing => cases taken
  | _ => rfl

/-! ## Runs -/

variable {id : String} {renewInterval : Option Nat} {options : Options} {trail : List (Moment machine)}
  {here next : Gathering machine} {deed : Statechart.Deed machine}

/-- The commit of an outcome sets or clears the error, and nothing else that may happen changes it. -/
theorem Attended.error_onward (attended : Attended (chart id renewInterval) options trail here)
    (moves : here.Moves deed next) : next.self.core.context.error =
      ((verdict? ⟨here,deed⟩).map reminderOf).getD here.self.core.context.error := by
  cases now : (⟨here,deed⟩ : Moment machine).step? with
  | none =>
    rw [(moves.uncommitted trail now).2,verdict?,now]
    rfl
  | some step =>
    obtain ⟨_,commits⟩ := Moment.step?_eq_some_iff.mp now
    rw [(moves.shows now).2,verdict?,now,Option.bind_some]
    rcases attended.committed_cases commits with ⟨kept,below,top,rfl,initial⟩ | ⟨drainer,firstError,event,below,top,attains⟩
    · have context : here.self.core.context = {} := congrArg Committed.context initial
      rw [top,context]
      cases kept <;> rfl
    · rw [top]
      exact attains.error (Gathering.taken_of_commits commits)

theorem Attended.error_eq (attended : Attended (chart id renewInterval) options trail here) :
    here.self.core.context.error = (verdicts trail).getLast?.bind reminderOf := by
  induction attended with
  | fresh => rfl
  | onward earlier moves _ ih =>
    rw [earlier.error_onward moves,ih,verdicts_getLast?]
    cases verdict? _ <;> rfl

/-- Whatever happens to a session, its account has an error just if an outcome has been committed and the last one
was a rejection that asks for a second factor, and so it is with everything that is published. The outcome that is
committed decides about the error; whatever else is done, by anybody, leaves the error as it was. -/
theorem error_tells_last_outcome {built : Graph machine} (builds : graph id renewInterval = .ok built)
    (attended : Attended built options trail here) :
    (∀ rejection, here.self.snapshot.context.error = some rejection ↔
      (verdicts trail).getLast? = some (.error rejection) ∧ rejection.isMfaRequired = true) ∧
    ∀ deed next, here.Moves deed next → IsCredible deed →
      next.self.snapshot.context.error =
        ((verdict? ⟨here,deed⟩).map reminderOf).getD here.self.snapshot.context.error ∧
      ∀ snapshot ∈ produced (here.self.notes next.self deed), ∀ rejection, snapshot.context.error = some rejection ↔
        (verdicts (trail ++ [⟨here,deed⟩])).getLast? = some (.error rejection) ∧ rejection.isMfaRequired = true := by
  rw [eq_chart builds] at attended
  have told : ∀ {trail : List (Moment machine)} {here : Gathering machine},
      Attended (chart id renewInterval) options trail here → ∀ rejection,
        here.self.snapshot.context.error = some rejection ↔
          (verdicts trail).getLast? = some (.error rejection) ∧ rejection.isMfaRequired = true := by
    intro trail here attended rejection
    have error : here.self.snapshot.context.error = _ := attended.error_eq
    rw [error,Option.bind_eq_some_iff]
    constructor
    · rintro ⟨verdict,last,kept⟩
      obtain ⟨rfl,required⟩ := reminderOf_eq_some_iff.mp kept
      exact ⟨last,required⟩
    · rintro ⟨last,required⟩
      exact ⟨_,last,reminderOf_eq_some_iff.mpr ⟨rfl,required⟩⟩
  refine ⟨told attended,fun deed next moves credible => ⟨attended.error_onward moves,?_⟩⟩
  intro snapshot member
  rw [moves.produced_eq member]
  exact told (attended.onward moves credible)

/-- Somebody has been asked for a second factor, and has begun another attempt. -/
theorem retried : ∃ trail here, Attended (chart "authentication" none) {} trail here ∧
    here.self.core.state = .processAuthentication ∧ verdicts trail = [.error (.mfaRequired "code")] := by
  have made : Attended (chart "authentication" none) {} [] _ := .fresh
  have started := made.onward (.turn (.start true)) trivial
  have loaded := started.onward (.turn (.answer rfl (by exact Except.ok (Account.restored none)))) (by exact ⟨none,rfl⟩)
  have checked := loaded.onward (.turn (.answer rfl (by exact false))) (by rfl)
  have committed := checked.onward (.turn (.go rfl)) trivial
  have told := committed.onward (.turn (.go rfl)) trivial
  have idle := told.onward (.turn (.go rfl)) trivial
  have asked := idle.onward (.turn (.send (Command.login {}))) trivial
  have taken := asked.onward (.turn (.go rfl)) trivial
  have loading := taken.onward (.turn (.answer rfl (by exact ({ isLoading := true } : Account)))) (by exact fun _ => rfl)
  have begun := loading.onward (.turn (.answer rfl (by exact Attempt.fresh {}))) (by rfl)
  have waits := begun.onward (.turn (.go rfl)) trivial
  have heard := waits.onward (.turn (.go rfl)) trivial
  have rests := heard.onward (.turn (.go rfl)) trivial
  have rejected := rests.onward
    (.turn (@Turn.deliver machine _ 0 _ _ rfl (.service _ _ _ (.error (Rejection.mfaRequired "code"))))) trivial
  have handed := rejected.onward (.turn (.go rfl)) trivial
  have required := handed.onward (.turn (.answer rfl (by exact true))) (by rfl)
  have kept := required.onward (.turn (.answer rfl (by exact ({ error := some (.mfaRequired "code") } : Account))))
    (by exact fun _ => rfl)
  have concluded := kept.onward (.turn (.go rfl)) trivial
  have shown := concluded.onward (.turn (.go rfl)) trivial
  have closed := shown.onward (.turn (.go rfl)) trivial
  have again := closed.onward (.turn (.send (Command.login { password := "code" }))) trivial
  have retaken := again.onward (.turn (.go rfl)) trivial
  have reloading := retaken.onward
    (.turn (.answer rfl (by exact ({ isLoading := true, error := some (.mfaRequired "code") } : Account)))) (by exact fun _ => rfl)
  have rebegun := reloading.onward (.turn (.answer rfl (by exact Attempt.fresh { password := "code" }))) (by rfl)
  have retries := rebegun.onward (.turn (.go rfl)) trivial
  exact ⟨_,_,retries,rfl,rfl⟩

theorem retried_error_tells_last_outcome : ∃ trail here, Attended (chart "authentication" none) {} trail here ∧
    here.self.core.state = .processAuthentication ∧
    here.self.snapshot.context.error = some (.mfaRequired "code") := by
  obtain ⟨trail,here,attended,state,told⟩ := retried
  refine ⟨trail,here,attended,state,?_⟩
  exact ((error_tells_last_outcome (graph_eq _ _) attended).1 _).mpr ⟨by rw [told]; rfl,rfl⟩

end Statechart.Login
