import Statechart.Proofs.Errands
import Statechart.Proofs.Faults
import Statechart.Proofs.Login.Arrivals
import Statechart.Proofs.Login.Outlines

/-!
# Refusals: a session fails only when its store does

Every eventless transition of the chart leads to a state that is not left without an event, so one at a time is
enough, and what else can fail in a macrostep is a write to the store. The failure reports what the store answered
last (`react_blames`). Whatever a session reports later, as an error of a command or as a fault, is such a failure
(`session_errors`).
-/
namespace Statechart.Login

/-! ## What the store refuses -/

/-- The store's answer to being cleared. -/
def clearing (account : Account) (event : Event machine) (given : Except ActionError Unit) :
    (query : Query machine) × query.Answer := ⟨.perform deleteAuthentication account event,given⟩

/-- A failure that reports an answer of the store: it has refused to save a user, or to be cleared. -/
inductive Refusal : Fault → (query : Query machine) × query.Answer → Prop where
  | save {account : Account} {event : Event machine} {user : Identity} {cause : ActionError}
      (signedIn : account.user = some user) :
      Refusal (.effectFailed .authenticated "persistIdentity" cause) (saving account event (.error cause))
  | clear {account : Account} {event : Event machine} {cause : ActionError} :
      Refusal (.effectFailed .processUnAuthentication "deleteAuthentication" cause) (clearing account event (.error cause))

/-- What a store that refuses a write says is the cause of such a failure. -/
inductive Store.Refuses (store : Store) : Fault → Prop where
  | save {user : Identity} {error : StoreError} (refused : (store.save user).1 = .error error) :
      Refuses store (.effectFailed .authenticated "persistIdentity" ⟨error.message⟩)
  | clear {error : StoreError} (refused : store.clear.1 = .error error) :
      Refuses store (.effectFailed .processUnAuthentication "deleteAuthentication" ⟨error.message⟩)

theorem storeAnswer_eq_error {given : Except StoreError Unit} {cause : ActionError}
    (failed : storeAnswer given = .error cause) :
    ∃ error, given = .error error ∧ cause = ⟨error.message⟩ := by
  cases given with
  | ok => cases failed
  | error error => cases failed; exact ⟨error,rfl,rfl⟩

/-- A store to which the answer belongs has refused the write. -/
theorem Refusal.refuses {failure : Fault} {query : Query machine} {backend : Backend}
    (refusal : Refusal failure ⟨query,(answer query backend).1⟩) : backend.store.Refuses failure := by
  generalize same : (⟨query,(answer query backend).1⟩ : (query : Query machine) × query.Answer) = entry at refusal
  cases refusal with
  | @save account event user cause signedIn =>
    obtain ⟨rfl,given⟩ := Sigma.mk.inj same
    have failed : storeAnswer (backend.store.save user).1 = .error cause := by
      have given := eq_of_heq given
      simp only [answer,persistIdentity,effect,Work.perform,signedIn] at given
      exact given
    obtain ⟨error,refused,rfl⟩ := storeAnswer_eq_error failed
    exact .save refused
  | @clear account event cause =>
    obtain ⟨rfl,given⟩ := Sigma.mk.inj same
    have failed : storeAnswer backend.store.clear.1 = .error cause := by
      exact eq_of_heq given
    obtain ⟨error,refused,rfl⟩ := storeAnswer_eq_error failed
    exact .clear refused

/-! ## Macrosteps -/

/-- If a macrostep fails, it reports what the store has answered last. -/
def Blames (result : Except Fault (Statechart.Step machine)) (noted : List ((query : Query machine) × query.Answer)) :
    Prop :=
  ∀ failure, result = .error failure → ∃ given, noted.getLast? = some given ∧ Refusal failure given

section

variable {id : String} {renewInterval : Option Nat} {limit : UInt64} {account : Account} {state : State}
  {event : Event machine} {step : Statechart.Step machine} {rest : Pending machine}
  {noted : List ((query : Query machine) × query.Answer)}

theorem blames_ok : Blames (.ok step) noted := by
  intro failure failed
  cases failed

theorem passing_blames (allowed : limit ≠ 0) (blames : rest.Ensures (Noted Credible) Blames noted) :
    (passing limit state rest).Ensures (Noted Credible) Blames noted := by
  rwa [passing,if_neg allowed]

/-- An effect that does nothing that matters does not fail. -/
theorem note_blames {name : String} {source : State} (blames : ∀ noted, rest.Ensures (Noted Credible) Blames noted) :
    Dialogue.Ensures (Noted Credible) Blames (.ask (.perform (effect name .note) account event) fun given =>
      afterEffect source (effect name .note) given rest) noted := by
  rintro given _ ⟨answered,rfl⟩
  have fine : given = .ok () := answered (.holding none)
  subst fine
  exact blames _

theorem persisting_blames : (persisting account event step).Ensures (Noted Credible) Blames noted := by
  rintro saved _ ⟨answered,rfl⟩
  cases saved with
  | ok => exact blames_ok
  | error cause =>
    have somebody : account.user ≠ none := fun nobody => by cases answered nobody
    obtain ⟨user,signedIn⟩ := Option.ne_none_iff_exists'.mp somebody
    rintro failure failed
    cases failed
    exact ⟨_,List.getLast?_concat,.save signedIn⟩

theorem begin_blames (allowed : limit ≠ 0) :
    ((chart id renewInterval).begin limit).run.Ensures (Noted Credible) Blames noted := by
  rw [begin_eq]
  rintro loaded _ ⟨⟨user,found⟩,rfl⟩
  subst found
  rintro known _ ⟨_,rfl⟩
  apply passing_blames allowed
  cases known with
  | true => exact persisting_blames
  | false => exact blames_ok

theorem react_blames (allowed : limit ≠ 0) :
    ((chart id renewInterval).react limit state account event).run.Ensures (Noted Credible) Blames noted := by
  rcases provokes_or_idles id renewInterval limit state account event with provokes | idles
  · cases provokes with
    | login credentials =>
      rw [react_login]
      intro _ _ _ _ _ _
      exact blames_ok
    | done origin user =>
      rw [react_done]
      intro _ _ _
      exact note_blames fun _ => persisting_blames
    | failed origin rejection =>
      rw [react_failed]
      rintro required _ _
      cases required with
      | true =>
        intro _ _ _
        exact blames_ok
      | false =>
        refine note_blames fun _ => ?_
        intro _ _ _
        exact blames_ok
    | logout =>
      rw [react_logout]
      intro cleared _ _
      rintro deleted _ ⟨_,rfl⟩
      cases deleted with
      | ok => exact passing_blames allowed blames_ok
      | error cause =>
        rintro failure failed
        cases failed
        exact ⟨_,List.getLast?_concat,.clear⟩
    | elapsed interval origin renews =>
      subst renews
      rw [react_elapsed]
      exact note_blames fun _ => passing_blames allowed persisting_blames
  · rw [idles]
    exact blames_ok

/-- A logout fails just if somebody is signed in and the store refuses to be cleared. -/
def LogsOut (state : State) (result : Except Fault (Statechart.Step machine))
    (noted : List ((query : Query machine) × query.Answer)) : Prop :=
  (∃ failure, result = .error failure) ↔
    state = .authenticated ∧ ∃ account event cause, clearing account event (.error cause) ∈ noted

theorem react_logs_out (allowed : limit ≠ 0) :
    ((chart id renewInterval).react limit state account (.signal .logout)).run.Ensures (Noted Credible)
      (LogsOut state) [] := by
  rcases provokes_or_idles id renewInterval limit state account (.signal .logout) with provokes | idles
  · cases provokes with
    | logout =>
      rw [react_logout]
      rintro cleared _ ⟨_,rfl⟩
      rintro deleted _ ⟨_,rfl⟩
      cases deleted with
      | ok =>
        change Dialogue.Ensures (Noted Credible) (LogsOut .authenticated) (passing limit _ _) _
        rw [passing,if_neg allowed]
        constructor
        · rintro ⟨failure,failed⟩
          cases failed
        · rintro ⟨_,other,event,cause,member⟩
          simp only [List.nil_append,List.cons_append,List.mem_cons,List.not_mem_nil,or_false] at member
          rcases member with same | same
          · have names := congrArg Sigma.fst same
            simp [clearing,clearAuthentication,deleteAuthentication,assign,effect] at names
          · cases same
      | error cause =>
        exact ⟨fun _ => ⟨rfl,cleared,_,cause,List.mem_append_right _ (List.mem_singleton_self _)⟩,fun _ => ⟨_,rfl⟩⟩
  · rw [idles]
    constructor
    · rintro ⟨failure,failed⟩
      cases failed
    · rintro ⟨_,_,_,_,member⟩
      cases member

end

/-! ## Runs -/

variable {id : String} {renewInterval : Option Nat} {options : Options} {trail : List (Moment machine)}
  {here first next last : Gathering machine} {deed : Statechart.Deed machine} {failure : Fault}

/-- In the macrostep that is in progress at the end of a run, the store has answered last, with the refusal that a
failure reports. -/
def RefusedLast (trail : List (Moment machine)) (here : Gathering machine) (failure : Fault) : Prop :=
  ∃ before start during log given, trail = before ++ start :: during ∧
    start.here.Underway start.deed (during.map Moment.deed) log here ∧
    (answers (during.map Moment.deed)).getLast? = some given ∧ Refusal failure given

/-- At some moment of a run the macrostep of an event has failed because the store had refused a write in it. -/
def Refused (trail : List (Moment machine)) (failure : Fault) : Prop :=
  ∃ before ending after, trail = before ++ ending :: after ∧ ending.failure? = some failure ∧
    RefusedLast before ending.here failure

theorem Attended.refused_last (allowed : options.maxMicrosteps ≠ 0)
    (attended : Attended (chart id renewInterval) options trail here) {frame : Frame machine} {below : List (Frame machine)}
    (top : here.self.stack = frame :: below) (ended : frame.pending? = some (.done (.error failure))) :
    RefusedLast trail here failure := by
  cases frame with
  | starting pending =>
    cases ended
    obtain ⟨before,start,during,log,whole,underway,_,⟨_,leads⟩,answered⟩ := attended.macrostep top rfl
    obtain ⟨given,last,refusal⟩ := (begin_blames allowed).leads leads answered failure rfl
    exact ⟨before,start,during,log,given,whole,underway,last,refusal⟩
  | reacting drainer firstError event pending =>
    cases ended
    obtain ⟨before,start,during,log,whole,underway,_,⟨_,leads⟩,answered⟩ := attended.macrostep top rfl
    obtain ⟨given,last,refusal⟩ := (react_blames allowed).leads leads answered failure rfl
    exact ⟨before,start,during,log,given,whole,underway,last,refusal⟩
  | draining _ _ => cases ended
  | publishing _ _ _ => cases ended

/-- Whatever could not be processed could not be processed because of the store. -/
theorem Attended.refused (allowed : options.maxMicrosteps ≠ 0)
    (attended : Attended (chart id renewInterval) options trail here) :
    ∀ failure ∈ failures trail, Refused trail failure := by
  induction attended with
  | fresh =>
    intro _ member
    cases member
  | @onward trail deed here next earlier _ _ ih =>
    intro failure member
    rw [failures,List.filterMap_append,List.mem_append] at member
    rcases member with before | now
    · obtain ⟨before,ending,after,whole,fails,refused⟩ := ih failure before
      exact ⟨before,ending,after ++ [⟨here,deed⟩],by simp [whole],fails,refused⟩
    · obtain ⟨moment,same,fails⟩ := List.mem_filterMap.mp now
      rw [List.mem_singleton] at same
      subst same
      obtain ⟨event,concludes⟩ := Moment.failure?_eq_some_iff.mp fails
      obtain ⟨_,_,_,_,top⟩ := Moment.concluded?_eq_some_iff.mp concludes
      exact ⟨trail,_,[],rfl,fails,earlier.refused_last allowed top rfl⟩

/-- Whatever a session reports that goes by settings that make sense, whatever its store and its authenticator answer
and whoever calls in the meantime, no macrostep is too long. Once a start has succeeded, commands are not turned down
at once, and whatever error a command returns, and whatever the session faults with, is the failure to save a user
or to clear the store, in a macrostep in which the store has refused just that.

A logout that finds nobody at work can be brought to its end, and if no event comes in and nobody stops the session
until it returns, it returns an error just if somebody is signed in and clearing the store fails. The session is left
as it was then. -/
theorem session_errors {settings : Settings} (valid : settings.problem? = none) {built : Graph machine}
    (builds : graph settings.machineId (settings.renewInterval.map UInt64.toNat) = .ok built)
    (attended : Attended built settings.interpreter trail here) :
    (∀ failure, here.self.Reports failure → ∀ state limit, failure ≠ .microstepLimit state limit) ∧
    (HasStarted trail → ∀ command failure, (here.self.post (.signal command)).2 ≠ some (.posted (.error failure))) ∧
    (∀ failure, here.self.tick.2 = some (.posted (.error failure)) ∨ here.self.core.fault = some failure →
      Refused trail failure) ∧
    (∀ failure query backend, Refusal failure ⟨query,(answer query backend).1⟩ → backend.store.Refuses failure) ∧
    (here.Idle → here.self.core.status = .running →
      (∀ host, ∃ first, here.Moves (.send .logout) first ∧ first.Completes host) ∧
      ∀ first more last reply, here.Moves (.send .logout) first → first.Trail more last →
        (∀ moment ∈ more, moment.reply? = none ∧ moment.IsUneventful ∧ IsCredible moment.deed) →
        (⟨last,.go⟩ : Moment machine).reply? = some reply →
          ((∃ failure, reply = .posted (.error failure)) ↔ here.self.core.state = .authenticated ∧
            ∃ account event cause, clearing account event (.error cause) ∈ answers (more.map Moment.deed)) ∧
          ((∃ failure, reply = .posted (.error failure)) → last.self.tick.1.core.status = .running ∧
            last.self.tick.1.core.state = .authenticated ∧ last.self.tick.1.core.context = here.self.core.context)) := by
  have allowed := maxMicrosteps_ne_zero valid
  rw [eq_chart builds] at attended
  have reachable := attended.run.reachable
  have refused : ∀ failure, here.self.tick.2 = some (.posted (.error failure)) ∨ here.self.core.fault = some failure →
      Refused trail failure := by
    rintro failure (returns | faulted)
    · refine attended.refused allowed failure (attended.run.first_error ?_)
      rcases Interpreter.tick_fails returns rfl with ⟨below,top⟩ | ⟨below,top⟩
      · rw [Interpreter.tick,top] at returns
        cases returns
      · exact ⟨.draining .poster (some failure),List.mem_append_left _ (by rw [top]; exact List.mem_cons_self),rfl⟩
    · have once := attended.run.faulted.once
      rw [faulted] at once
      have member : failure ∈ faults trail := by rw [once]; exact List.mem_singleton_self _
      obtain ⟨moment,among,faults⟩ := List.mem_filterMap.mp member
      refine attended.refused allowed failure (List.mem_filterMap.mpr ⟨moment,among,?_⟩)
      obtain ⟨go,_,_,event,_,top,_⟩ := Moment.fault?_eq_some_iff.mp faults
      exact Moment.failure?_eq_some_iff.mpr ⟨event,Moment.concluded?_eq_some_iff.mpr ⟨go,_,_,_,top⟩⟩
  have limitless : ∀ {failure given state limit}, Refusal failure given → failure ≠ .microstepLimit state limit := by
    intro failure given state limit refusal
    cases refusal <;> simp
  have unlimited : ∀ {failure}, Refused trail failure → ∀ state limit, failure ≠ .microstepLimit state limit := by
    rintro failure ⟨_,_,_,_,_,_,_,_,_,_,_,_,_,refusal⟩ state limit
    exact limitless refusal
  refine ⟨?_,?_,refused,fun failure query backend refusal => refusal.refuses,?_⟩
  · intro failure reports state limit
    cases reports with
    | atOnce enters fails =>
      rcases Interpreter.enter_fails enters fails with rfl | rfl | ⟨rfl,_⟩ <;> simp
    | @later reply returns fails =>
      rcases Interpreter.tick_fails returns fails with ⟨below,top⟩ | ⟨below,top⟩
      · obtain ⟨_,_,_,_,_,_,_,_,refusal⟩ := attended.refused_last allowed top rfl
        exact limitless refusal
      · have bears : Bears here.frames failure :=
          ⟨.draining .poster (some failure),List.mem_append_left _ (by rw [top]; exact List.mem_cons_self),rfl⟩
        exact unlimited (attended.refused allowed failure (attended.run.first_error bears)) state limit
    | fault faulted => exact unlimited (refused failure (.inr faulted)) state limit
  · intro started command failure returns
    exact (attended.run.stays_started started).1 (Interpreter.post_fails returns rfl).2
  · intro idle running
    refine ⟨fun host => reachable.send_completes idle running .logout host,?_⟩
    intro first more last reply sends run plain returns
    obtain ⟨result,leads,replies,kept⟩ := reachable.undisturbed_send idle running sends run
      (fun moment member => (plain moment member).1) (fun moment member => (plain moment member).2.1) returns
    have credible : ∀ deed ∈ more.map Moment.deed, IsCredible deed := by
      intro deed member
      obtain ⟨moment,among,rfl⟩ := List.mem_map.mp member
      exact (plain moment among).2.2
    have logsOut : LogsOut here.self.core.state result (answers (more.map Moment.deed)) :=
      (react_logs_out allowed).leads leads (credible_answered credible [])
    have fails : (∃ failure, reply = .posted (.error failure)) ↔ ∃ failure, result = .error failure := by
      rw [replies]
      cases result <;> simp [Except.map]
    refine ⟨fails.trans logsOut,fun failed => ?_⟩
    obtain ⟨failure,same⟩ := fails.mp failed
    have left := kept failure same
    rw [left]
    exact ⟨running,(logsOut.mp ⟨failure,same⟩).1,rfl⟩

/-- The store cannot be written any more. -/
def readOnly : Fault := .effectFailed .processUnAuthentication "deleteAuthentication" ⟨"read-only"⟩

/-- A user has been restored. Somebody logs out while nobody else is at work, but the store refuses to be cleared. -/
theorem refused_logout :
    ∃ trail here more last, Attended (chart "authentication" none) {} trail here ∧
      Attended (chart "authentication" none) {} (trail ++ ⟨here,.send .logout⟩ :: more) last ∧ HasStarted trail ∧
      here.Idle ∧ here.self.core.status = .running ∧
      (∀ moment ∈ more, moment.reply? = none ∧ moment.IsUneventful ∧ IsCredible moment.deed) ∧
      last.self.tick.2 = some (.posted (.error readOnly)) ∧
      (⟨last,.go⟩ : Moment machine).reply? = some (.posted (.error readOnly)) := by
  have made : Attended (chart "authentication" none) {} [] _ := .fresh
  have started := made.onward (.turn (.start true)) trivial
  have loaded := started.onward (.turn (.answer rfl (by exact Except.ok (Account.restored (some ⟨"me"⟩))))) (by exact ⟨_,rfl⟩)
  have checked := loaded.onward (.turn (.answer rfl (by exact true))) (by rfl)
  have saved := checked.onward (.turn (.answer rfl (by exact Except.ok ()))) (by exact fun _ => rfl)
  have committed := saved.onward (.turn (.go rfl)) trivial
  have told := committed.onward (.turn (.go rfl)) trivial
  have idle := told.onward (.turn (.go rfl)) trivial
  have asked := idle.onward (.turn (.send Command.logout)) trivial
  have taken := asked.onward (.turn (.go rfl)) trivial
  have cleared := taken.onward
    (.turn (.answer rfl (by exact ({ Account.restored (some ⟨"me"⟩) with standing := .unauthenticated, user := none } : Account))))
    (by exact fun _ => rfl)
  have refused := cleared.onward (.turn (.answer rfl (by exact Except.error ⟨"read-only"⟩))) (by exact trivial)
  have thwarted := refused.onward (.turn (.go rfl)) trivial
  refine ⟨_,_,[_,_,_,_],_,idle,thwarted,?_,?_,rfl,?_,rfl,rfl⟩
  · exact ⟨_,List.mem_append_right _ (List.mem_singleton_self _),_,rfl⟩
  · intro _ member
    cases member
  · simp only [List.forall_mem_cons]
    exact ⟨⟨rfl,⟨rfl,by simp⟩,trivial⟩,⟨rfl,⟨rfl,by simp⟩,fun _ => rfl⟩,⟨rfl,⟨rfl,by simp⟩,trivial⟩,
      ⟨rfl,⟨rfl,by simp⟩,trivial⟩,fun _ member => by cases member⟩

theorem refused_logout_session_errors :
    ∃ trail, ∃ here last : Gathering machine, Attended (chart "authentication" none) {} trail last ∧ Refused trail readOnly ∧
      last.self.tick.2 = some (.posted (.error readOnly)) ∧
      here.self.core.state = .authenticated ∧ last.self.tick.1.core.status = .running ∧
      last.self.tick.1.core.state = .authenticated ∧ last.self.tick.1.core.context = here.self.core.context := by
  obtain ⟨trail,here,more,last,attended,further,_,idle,running,plain,fails,returns⟩ := refused_logout
  have valid : ({} : Settings).problem? = none := by decide
  obtain ⟨_,_,refused,_,_⟩ := session_errors valid (graph_eq _ _) further
  obtain ⟨_,_,_,_,resting⟩ := session_errors valid (graph_eq _ _) attended
  obtain ⟨first,_,sends,run⟩ := further.run.split
  obtain ⟨fails_iff,kept⟩ := (resting idle running).2 first more last _ sends run plain returns
  exact ⟨_,here,last,further,refused _ (.inl fails),fails,(fails_iff.mp ⟨_,rfl⟩).1,kept ⟨_,rfl⟩⟩

end Statechart.Login
