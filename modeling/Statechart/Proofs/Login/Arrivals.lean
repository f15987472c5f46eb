import Statechart.Proofs.Login.Attempts
import Statechart.Proofs.Publications

/-!
# Arrivals: what the macrosteps of the login chart come to

Whatever the store answers, a macrostep that does not fail comes to a step which is settled by what it began with: the
state, the account and the event (`react_attains`, `begin_opens`). So it is with all that is committed in a run
(`Attended.committed_cases`).
-/
namespace Statechart.Login

variable {id : String} {renewInterval : Option Nat}

/-- The step that a start may come to: whoever has been kept is signed in. -/
def opening (renewInterval : Option Nat) (kept : Option Identity) : Statechart.Step machine :=
  arrival renewInterval .init alwaysTrigger none (if kept.isSome then .authenticated else .unauthenticated)
    (.restored kept) none

/-- The steps that the macrostep of an event may come to. -/
inductive Attains (renewInterval : Option Nat) (account : Account) : State → Event machine → Statechart.Step machine → Prop
    where
  | login (credentials : Credentials) : Attains renewInterval account .unauthenticated (.signal (.login credentials))
      (arrival renewInterval .unauthenticated "Login" none .processAuthentication { account with isLoading := true }
        (some (.fresh credentials)))
  | done (origin : Origin machine) (user : Identity) : Attains renewInterval account .processAuthentication (.done origin user)
      (arrival renewInterval .processAuthentication "done" none .authenticated (account.signedIn (some user)) none)
  | failed (origin : Origin machine) (rejection : Rejection) :
      Attains renewInterval account .processAuthentication (.failed origin rejection)
        (arrival renewInterval .processAuthentication "error" none .unauthenticated (account.rejected rejection) none)
  | logout : Attains renewInterval account .authenticated (.signal .logout)
      (arrival renewInterval .authenticated "Logout" (some .processUnAuthentication) .unauthenticated
        { account with standing := .unauthenticated, user := none } none)
  | elapsed (interval : Nat) (origin : Origin machine) (renews : renewInterval = some interval) :
      Attains renewInterval account .authenticated (.elapsed origin)
        (arrival renewInterval .authenticated "after" (some .processRenewToken) .authenticated account none)
  | nothing (state : State) (event : Event machine) : Attains renewInterval account state event (.unchanged state account)

/-- A result is a failure or a step of the given kind. -/
def Succeeds (kind : Statechart.Step machine → Prop) (result : Except Fault (Statechart.Step machine))
    (_ : List ((query : Query machine) × query.Answer)) : Prop :=
  ∀ step, result = .ok step → kind step

section

variable {limit : UInt64} {account : Account} {state : State} {event : Event machine} {step : Statechart.Step machine}
  {rest : Pending machine} {kind : Statechart.Step machine → Prop} {noted : List ((query : Query machine) × query.Answer)}

theorem succeeds_error (failure : Fault) : Succeeds kind (.error failure) noted := by
  intro step result
  cases result

theorem succeeds_ok (such : kind step) : Succeeds kind (.ok step) noted := by
  intro other result
  cases result
  exact such

theorem afterEffect_succeeds {action : Action machine} {answer : Except ActionError Unit}
    (succeeds : rest.Ensures (Noted Credible) (Succeeds kind) noted) :
    (afterEffect state action answer rest).Ensures (Noted Credible) (Succeeds kind) noted := by
  cases answer with
  | ok => exact succeeds
  | error cause => exact succeeds_error _

theorem passing_succeeds (succeeds : rest.Ensures (Noted Credible) (Succeeds kind) noted) :
    (passing limit state rest).Ensures (Noted Credible) (Succeeds kind) noted := by
  rw [passing]
  split
  · exact succeeds_error _
  · exact succeeds

theorem persisting_succeeds (such : kind step) :
    (persisting account event step).Ensures (Noted Credible) (Succeeds kind) noted :=
  fun _ _ _ => afterEffect_succeeds (succeeds_ok such)

theorem begin_opens : ((chart id renewInterval).begin limit).run.Ensures (Noted Credible)
    (Succeeds fun step => ∃ kept, step = opening renewInterval kept) noted := by
  rw [begin_eq]
  rintro loaded _ ⟨⟨user,found⟩,rfl⟩
  subst found
  rintro known _ ⟨passes,rfl⟩
  have passes : known = user.isSome := passes
  subst passes
  apply passing_succeeds
  cases user with
  | some user => exact persisting_succeeds ⟨some user,rfl⟩
  | none => exact succeeds_ok ⟨none,rfl⟩

theorem react_attains : ((chart id renewInterval).react limit state account event).run.Ensures (Noted Credible)
    (Succeeds (Attains renewInterval account state event)) noted := by
  rcases provokes_or_idles id renewInterval limit state account event with provokes | idles
  · cases provokes with
    | login credentials =>
      rw [react_login]
      rintro loading _ ⟨answered,rfl⟩
      have same : loading = { account with isLoading := true } := answered (.holding none)
      subst same
      rintro attempt _ ⟨own,rfl⟩
      have own : attempt = .fresh credentials := own
      subst own
      exact succeeds_ok (.login credentials)
    | done origin user =>
      rw [react_done]
      rintro signedIn _ ⟨answered,rfl⟩
      have same : signedIn = account.signedIn (some user) := answered (.holding none)
      subst same
      intro _ _ _
      exact afterEffect_succeeds (persisting_succeeds (.done origin user))
    | failed origin rejection =>
      rw [react_failed]
      rintro required _ ⟨passes,rfl⟩
      have passes : required = rejection.isMfaRequired := passes
      subst passes
      have attains : Attains renewInterval account _ _ _ := .failed origin rejection
      rw [Account.rejected] at attains
      cases asked : rejection.isMfaRequired with
      | true =>
        rintro rejected _ ⟨answered,rfl⟩
        have same : rejected = { account with isLoading := false, error := some rejection } := answered (.holding none)
        subst same
        rw [if_pos asked] at attains
        exact succeeds_ok attains
      | false =>
        intro _ _ _
        apply afterEffect_succeeds
        rintro rejected _ ⟨answered,rfl⟩
        have same : rejected = { account with isLoading := false, error := none } := answered (.holding none)
        subst same
        rw [if_neg (by simp [asked])] at attains
        exact succeeds_ok attains
    | logout =>
      rw [react_logout]
      rintro cleared _ ⟨answered,rfl⟩
      have same : cleared = { account with standing := .unauthenticated, user := none } := answered (.holding none)
      subst same
      intro _ _ _
      exact afterEffect_succeeds (passing_succeeds (succeeds_ok .logout))
    | elapsed interval origin renews =>
      subst renews
      rw [react_elapsed]
      intro _ _ _
      exact afterEffect_succeeds (passing_succeeds (persisting_succeeds (.elapsed interval origin rfl)))
  · rw [idles]
    exact succeeds_ok (.nothing state event)

end

/-! ## Runs -/

variable {options : Options} {trail : List (Moment machine)} {here : Gathering machine}

theorem Attended.credible {graph : Graph machine} (attended : Attended graph options trail here) :
    ∀ moment ∈ trail, IsCredible moment.deed := by
  induction attended with
  | fresh =>
    intro _ member
    cases member
  | onward _ _ credible ih => exact List.forall_mem_append.mpr ⟨ih,List.forall_mem_singleton.mpr credible⟩

/-- A macrostep in progress is computed from what has been committed last, and its callbacks have answered what
they may ever since it began. -/
theorem Attended.macrostep {graph : Graph machine} (attended : Attended graph options trail here)
    {frame : Frame machine} {below : List (Frame machine)} (top : here.self.stack = frame :: below)
    (macrostep : frame.isMacrostep = true) :
    ∃ before start during log, trail = before ++ start :: during ∧
      start.here.Underway start.deed (during.map Moment.deed) log here ∧ frame.BegunWith start.deed ∧
      frame.ComputedFrom graph options here.self.core.committed (answers (during.map Moment.deed)) ∧
      Dialogue.Answered (Noted Credible) [] (answers (during.map Moment.deed)) (answers (during.map Moment.deed)) := by
  obtain ⟨before,start,during,log,whole,underway,begun,computed,same⟩ := attended.run.macrostep top macrostep
  refine ⟨before,start,during,log,whole,underway,begun,by rw [same]; exact computed,?_⟩
  have credible : ∀ deed ∈ during.map Moment.deed, IsCredible deed := by
    intro deed member
    obtain ⟨moment,among,rfl⟩ := List.mem_map.mp member
    exact attended.credible moment (by simp [whole,among])
  exact credible_answered credible []

/-- What a session commits is the step of its start, or that of an event that it has reacted to. -/
theorem Attended.committed_cases (attended : Attended (chart id renewInterval) options trail here)
    {step : Statechart.Step machine} (commits : here.self.Commits step) :
    (∃ kept below, here.self.stack = .starting (.done (.ok step)) :: below ∧ step = opening renewInterval kept ∧
      here.self.core.committed = .initial (chart id renewInterval) options) ∨
    ∃ drainer firstError event below, here.self.stack = .reacting drainer firstError event (.done (.ok step)) :: below ∧
      Attains renewInterval here.self.core.context here.self.core.state event step := by
  obtain ⟨_,frame,below,top,result⟩ := commits
  rcases Frame.result?_cases result with rfl | ⟨drainer,firstError,event,rfl⟩
  · obtain ⟨_,_,_,_,_,_,_,⟨initial,leads⟩,answered⟩ := attended.macrostep top rfl
    obtain ⟨kept,opens⟩ := begin_opens.leads leads answered step rfl
    exact .inl ⟨kept,below,top,opens,initial⟩
  · obtain ⟨_,_,_,_,_,_,_,⟨_,leads⟩,answered⟩ := attended.macrostep top rfl
    exact .inr ⟨drainer,firstError,event,below,top,react_attains.leads leads answered step rfl⟩

end Statechart.Login
