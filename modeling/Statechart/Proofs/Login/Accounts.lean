import Statechart.Proofs.Login.Arrivals

/-!
# Accounts: what a session shows once it has been started

Every step that a session commits leads from an account that fits its state to one that fits its own, and
the step of a start leads to such an account from nothing. So whatever is shown after that fits
(`authentication_invariant`). Before that a start may return what does not fit: it does so if somebody has
stopped the session meanwhile (`stopped_start_unsettled`).
-/
namespace Statechart.Login

/-- The account goes with the state: the session sits in one of the states that are not left at once,
somebody is signed in just in the authenticated one, and just an attempt in progress makes it wait. -/
structure Account.Fits (account : Account) (state : State) : Prop where
  stable : state.IsStable
  standing : account.standing = .authenticated ↔ state = .authenticated
  user : account.user.isSome = true ↔ state = .authenticated
  loading : account.isLoading = true ↔ state = .processAuthentication

namespace Account

variable {account : Account}

theorem fits_restored (user : Identity) : (restored (some user)).Fits .authenticated :=
  ⟨trivial,by simp [restored],by simp [restored],by simp [restored]⟩

theorem fits_nobody : (restored none).Fits .unauthenticated :=
  ⟨trivial,by simp [restored],by simp [restored],by simp [restored]⟩

theorem fits_signedIn (account : Account) (user : Identity) : (account.signedIn (some user)).Fits .authenticated :=
  ⟨trivial,by simp [signedIn],by simp [signedIn],by simp [signedIn]⟩

theorem Fits.waits (fits : account.Fits .unauthenticated) :
    { account with isLoading := true }.Fits .processAuthentication :=
  ⟨trivial,by simpa using fits.standing,by simpa using fits.user,by simp⟩

theorem Fits.refused (fits : account.Fits .processAuthentication) (error : Option Rejection) :
    { account with isLoading := false, error }.Fits .unauthenticated :=
  ⟨trivial,by simpa using fits.standing,by simpa using fits.user,by simp⟩

theorem Fits.leaves (fits : account.Fits .authenticated) :
    { account with standing := .unauthenticated, user := none }.Fits .unauthenticated :=
  ⟨trivial,by simp,by simp,by simpa using fits.loading⟩

end Account

/-- What is promised of a macrostep: the step that it comes to, if it takes anything, leads to an account
that fits. -/
def Fitting (result : Except Fault (Statechart.Step machine))
    (_ : List ((query : Query machine) × query.Answer)) : Prop :=
  ∀ step, result = .ok step → step.taken = true → step.context.Fits step.state

section

variable {id : String} {renewInterval : Option Nat} {limit : UInt64} {account : Account} {state : State}
  {event : Event machine} {step : Statechart.Step machine} {noted : List ((query : Query machine) × query.Answer)}

theorem opening_fits (kept : Option Identity) : (opening renewInterval kept).context.Fits (opening renewInterval kept).state := by
  cases kept with
  | some user => exact Account.fits_restored user
  | none => exact Account.fits_nobody

/-- An account that fits is followed by one that fits. -/
theorem Attains.fits (attains : Attains renewInterval account state event step) (taken : step.taken = true)
    (fits : account.Fits state) : step.context.Fits step.state := by
  cases attains with
  | login credentials => exact fits.waits
  | done origin user => exact account.fits_signedIn user
  | failed origin rejection => exact fits.refused _
  | logout => exact fits.leaves
  | elapsed interval origin renews => exact fits
  | nothing state event => cases taken

theorem begin_fitting : ((chart id renewInterval).begin limit).run.Ensures (Noted Credible) Fitting noted :=
  begin_opens.mono fun _ _ opens step result _ => by
    obtain ⟨kept,rfl⟩ := opens step result
    exact opening_fits kept

theorem react_fitting (fits : account.Fits state) :
    ((chart id renewInterval).react limit state account event).run.Ensures (Noted Credible) Fitting noted :=
  react_attains.mono fun _ _ attains step result taken => (attains step result).fits taken fits

end

/-! ## The invariant -/

variable {id : String} {renewInterval : Option Nat} {options : Options} {trail : List (Moment machine)}
  {here next : Gathering machine} {deed : Statechart.Deed machine}

/-- The session has been stopped before a start could commit anything, and this is what the start returns. -/
structure Overruled (trail : List (Moment machine)) (here : Gathering machine) (snapshot : Snapshot State Account) :
    Prop where
  stopped : here.self.core.status = .stopped
  uncommitted : commits trail = []
  state : snapshot.state = .init
  status : snapshot.status = .stopped

theorem Overruled.onward {snapshot : Snapshot State Account} (overruled : Overruled trail here snapshot)
    (run : (Gathering.fresh (chart id renewInterval) options).Trail trail here) (moves : here.Moves deed next)
    (returns : snapshot ∈ here.returned) : Overruled (trail ++ [⟨here,deed⟩]) next snapshot := by
  have kept := moves.stays_stopped run.reachable.sound overruled.stopped returns
  refine ⟨by rw [kept]; exact overruled.stopped,?_,overruled.state,overruled.status⟩
  cases now : (⟨here,deed⟩ : Moment machine).step? with
  | none => rw [commits_append,commits_singleton,now,overruled.uncommitted]; rfl
  | some step =>
    have running := Core.running_of_admits (Moment.step?_eq_some_iff.mp now).2.1
    rw [overruled.stopped] at running
    cases running

/-- A start that comes to a step without committing it has been stopped in the meantime. -/
theorem overruled_of_start (run : (Gathering.fresh (chart id renewInterval) options).Trail trail here)
    (moves : here.Moves .go next) {step : Statechart.Step machine} {below : List (Frame machine)}
    (top : here.self.stack = .starting (.done (.ok step)) :: below)
    (now : (⟨here,.go⟩ : Moment machine).step? = none) : Overruled (trail ++ [⟨here,.go⟩]) next next.self.snapshot := by
  have sound := run.reachable.sound
  obtain ⟨_,_,either,core⟩ := sound.starting (.done (.ok step)) (by simp [top])
  have ended := moves.start_over run.reachable top now
  have kept : next.self.core = here.self.core := by
    rw [moves.of_go]
    cases admitted : here.self.core.admits step with
    | true =>
      rw [Moment.step?_eq_some_iff.mpr ⟨rfl,admitted,_,_,top,rfl⟩] at now
      cases now
    | false => simp [Interpreter.tick,Interpreter.finishStart,top,admitted]
  have one : here.macrosteps = [.starting (.done (.ok step))] := sound.only_macrostep top rfl
  have uncommitted : commits trail = [] :=
    Classical.not_not.mp fun committed => (run.commenced.after committed).2 _ one
  rw [kept,core] at ended
  rcases either with running | stopped
  · exact absurd running ended
  · refine ⟨by rw [kept,core]; exact stopped,?_,by rw [Interpreter.snapshot,kept,core]; rfl,
      by rw [Interpreter.snapshot,kept,core]; exact stopped⟩
    rw [commits_append,commits_singleton,now,uncommitted]
    rfl

/-- What holds at each moment of a session whose callbacks have answered as they may. -/
structure Settled (trail : List (Moment machine)) (here : Gathering machine) : Prop where
  account : commits trail ≠ [] → here.self.core.context.Fits here.self.core.state
  promised : ∀ frame ∈ here.macrosteps, ∃ noted, frame.Ensures (Noted Credible) Fitting noted
  returned : ∀ snapshot ∈ here.returned,
    commits trail ≠ [] ∧ snapshot.context.Fits snapshot.state ∨ Overruled trail here snapshot

/-- A step that is committed leads to an account that fits. -/
theorem Settled.committed (settled : Settled trail here) (moves : here.Moves deed next) {step : Statechart.Step machine}
    (committed : (⟨here,deed⟩ : Moment machine).step? = some step) : next.self.core.context.Fits next.self.core.state := by
  obtain ⟨_,commits⟩ := Moment.step?_eq_some_iff.mp committed
  obtain ⟨frame,member,result⟩ := Gathering.committing commits
  obtain ⟨noted,ensures⟩ := settled.promised frame member
  obtain ⟨state,context⟩ := moves.shows committed
  rw [state,context]
  exact ensures.result result step rfl (Gathering.taken_of_commits commits)

theorem Settled.onward (settled : Settled trail here) (run : (Gathering.fresh (chart id renewInterval) options).Trail trail here)
    (moves : here.Moves deed next) (credible : IsCredible deed) : Settled (trail ++ [⟨here,deed⟩]) next := by
  have sound := run.reachable.sound
  constructor
  · intro committed
    cases now : (⟨here,deed⟩ : Moment machine).step? with
    | some step => exact settled.committed moves now
    | none =>
      rw [commits_append,commits_singleton,now,Option.toList_none,List.append_nil] at committed
      have same := moves.committed_of_none now
      have context : next.self.core.context = here.self.core.context := congrArg Committed.context same
      have state : next.self.core.state = here.self.core.state := congrArg Committed.state same
      rw [context,state]
      exact settled.account committed
  · refine moves.each_macrostep sound settled.promised ?_ ?_
    · intro idle frame begins
      refine ⟨[],?_⟩
      rintro pending left
      cases begins with
      | start _ _ =>
        cases left
        rw [sound.graph_eq]
        exact begin_fitting
      | take top mail running _ =>
        cases left
        rw [sound.graph_eq]
        exact react_fitting (settled.account (run.commenced.resting running idle))
    · rintro frame later ⟨noted,ensures⟩ advances
      exact ⟨_,ensures.advances advances (credible.answered noted)⟩
  · intro snapshot member
    rw [commits_append]
    rcases moves.returned member with earlier | ⟨⟨go,step,below,top⟩,shows⟩
    · rcases settled.returned snapshot earlier with ⟨committed,fits⟩ | overruled
      · exact .inl ⟨List.append_ne_nil_of_left_ne_nil committed _,fits⟩
      · exact .inr (overruled.onward run moves earlier)
    · subst go shows
      cases now : (⟨here,.go⟩ : Moment machine).step? with
      | some step =>
        refine .inl ⟨?_,settled.committed moves now⟩
        rw [commits_singleton,now]
        exact List.append_ne_nil_of_right_ne_nil _ (List.cons_ne_nil _ _)
      | none => exact .inr (overruled_of_start run moves top now)

theorem Attended.settled (attended : Attended (chart id renewInterval) options trail here) : Settled trail here := by
  induction attended with
  | fresh =>
    constructor
    · intro committed
      exact absurd rfl committed
    · intro _ member
      cases member
    · intro _ member
      cases member
  | onward earlier moves credible ih => exact ih.onward earlier.run moves credible

/-- A start returns what it has committed, unless it was stopped before it could commit anything. -/
theorem Settled.start_returns (settled : Settled trail here) {snapshot : Snapshot State Account}
    (returns : here.self.tick.2 = some (.started (.ok snapshot))) :
    commits trail ≠ [] ∧ snapshot.context.Fits snapshot.state ∨ Overruled trail here snapshot := by
  refine settled.returned snapshot ?_
  obtain ⟨_,_,top⟩ := Interpreter.top_of_started returns
  simp [Gathering.returned,Gathering.frames,top,Frame.returned?]

/-- Whatever is seen of a session, published by it or returned by its start, once the start has been committed,
shows an account that fits the state, whatever the store and the authenticator answer and whoever calls in the
meantime. A start that succeeds has been committed, unless the session was stopped before it could be. -/
theorem authentication_invariant {built : Graph machine} (builds : graph id renewInterval = .ok built)
    (attended : Attended built options trail here) :
    (commits trail ≠ [] → here.self.snapshot.context.Fits here.self.snapshot.state) ∧
    (∀ deed next, here.Moves deed next → IsCredible deed → commits (trail ++ [⟨here,deed⟩]) ≠ [] →
      ∀ snapshot ∈ produced (here.self.notes next.self deed), snapshot.context.Fits snapshot.state) ∧
    ∀ snapshot, here.self.tick.2 = some (.started (.ok snapshot)) →
      commits trail ≠ [] ∧ snapshot.context.Fits snapshot.state ∨ Overruled trail here snapshot := by
  rw [eq_chart builds] at attended
  have settled := attended.settled
  refine ⟨settled.account,?_,fun _ => settled.start_returns⟩
  intro deed next moves credible committed snapshot member
  rw [moves.produced_eq member]
  exact (attended.onward moves credible).settled.account committed

/-- Somebody has logged in, and the session is about to find out that the user could not be saved. -/
theorem unsaved :
    ∃ trail here next, Attended (chart "authentication" none) {} trail here ∧ here.Moves .go next ∧
      commits (trail ++ [⟨here,.go⟩]) ≠ [] ∧
      produced (here.self.notes next.self .go) = [⟨.processAuthentication,{ isLoading := true },.failed⟩] := by
  obtain ⟨trail,delivered,committed⟩ := awaited_attended
  have answered := delivered.onward (.turn (.go rfl)) trivial
  have signed := answered.onward (.turn (.answer rfl (by exact ({} : Account).signedIn (some ⟨"me"⟩)))) (by exact fun _ => rfl)
  have noted := signed.onward (.turn (.answer rfl (by exact Except.ok ()))) (by exact fun _ => rfl)
  have refused := noted.onward (.turn (.answer rfl (by exact Except.error ⟨"read-only"⟩))) (by exact nofun)
  refine ⟨_,_,_,refused,.turn (.go rfl),?_,rfl⟩
  simp [commits_append,committed]

theorem unsaved_authentication_invariant :
    ∃ trail here next, Attended (chart "authentication" none) {} trail here ∧ here.Moves .go next ∧
      (⟨.processAuthentication,{ isLoading := true },.failed⟩ : Snapshot State Account) ∈
        produced (here.self.notes next.self .go) ∧
      Account.Fits { isLoading := true } .processAuthentication := by
  obtain ⟨trail,here,next,attended,moves,committed,published⟩ := unsaved
  have fits := (authentication_invariant (graph_eq _ _) attended).2.1 _ _ moves trivial committed
  rw [published] at fits
  refine ⟨trail,here,next,attended,moves,?_,fits _ (List.mem_singleton_self _)⟩
  rw [published]
  exact List.mem_singleton_self _

/-- The store stops the session that asks it for the user: the start succeeds nonetheless, and what it returns, and
whoever looks at the session afterwards sees, is in the first state of the chart. -/
theorem stopped_start_unsettled :
    ∃ trail here next, Attended (chart "authentication" none) {} trail here ∧ here.Moves .go next ∧
      here.self.tick.2 = some (.started (.ok ⟨.init,{},.stopped⟩)) ∧ next.self.snapshot = ⟨.init,{},.stopped⟩ ∧
      ¬ Account.Fits {} .init := by
  have made : Attended (chart "authentication" none) {} [] _ := .fresh
  have started := made.onward (.turn (.start true)) trivial
  have stopped := started.onward (.turn .stop) trivial
  have released := stopped.onward (.turn (.go rfl)) trivial
  have loaded := released.onward (.turn (.answer rfl (by exact Except.ok (Account.restored none)))) (by exact ⟨none,rfl⟩)
  have checked := loaded.onward (.turn (.answer rfl (by exact false))) (by rfl)
  have overruled := checked.onward (.turn (.go rfl)) trivial
  exact ⟨_,_,_,overruled,.turn (.go rfl),rfl,rfl,fun fits => fits.stable⟩

end Statechart.Login
