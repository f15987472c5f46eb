import Statechart.Proofs.Drains
import Statechart.Proofs.Login.Arrivals

/-!
# Calls: each attempt uses its own credentials

An attempt is made with the credentials of the login whose macrostep enters the state where it is made. It begins,
with a call to the authenticator, when the clock lets its activity go on for the first time, or it is cancelled before
that. So the logins that a session reacts to are accounted for, one after another: by a call, by an attempt that has
been forgone, or by one that has not begun yet (`calls_follow_logins`).
-/
namespace Statechart.Login

/-! ## What happens to the backend -/

/-- The credentials of an attempt that has not begun. -/
def Attempt.fresh? : Attempt → Option Credentials
  | .fresh credentials => some credentials
  | .awaiting _ => none

/-- The attempt that an activity makes. -/
def attemptIn? (activity : Activity machine) : Option Attempt :=
  match activity.job with
  | .service attempt => some attempt
  | .timer _ => none

/-- The credentials of an activity that is yet to begin its attempt. -/
def unbegun? (activity : Activity machine) : Option Credentials := (attemptIn? activity).bind Attempt.fresh?

/-- The attempt that the clock lets go on at a moment. -/
def resumed? (moment : Moment machine) : Option Attempt :=
  match moment.deed with
  | .sleep place _ => moment.here.self.core.activities[place]?.bind attemptIn?
  | .deliver place _ => moment.here.self.core.activities[place]?.bind attemptIn?
  | _ => none

/-- The credentials that the authenticator is called with at a moment: those of an attempt that begins. -/
def called? (moment : Moment machine) : Option Credentials := (resumed? moment).bind Attempt.fresh?

/-- The credentials that the authenticator has been called with, one after another. -/
def called (trail : List (Moment machine)) : List Credentials := trail.filterMap called?

/-- What a deed makes of the backend: callbacks answer over it, and attempts go on with it. -/
inductive Works (here : Gathering machine) : Statechart.Deed machine → Backend → Backend → Prop where
  | answers (query : Query machine) (backend : Backend) :
      Works here (.answer query (answer query backend).1) backend (answer query backend).2
  | sleeps {place due latency : Nat} {origin : Origin machine} {attempt rest : Attempt} {phase : Phase}
      {backend after : Backend} (found : here.self.core.activities[place]? = some ⟨origin,.service attempt,phase⟩)
      (goes : proceed attempt backend = (.sleeping latency rest,after)) :
      Works here (.sleep place ⟨origin,.service rest,.asleep due⟩) backend after
  | resolves {place : Nat} {origin : Origin machine} {attempt : Attempt} {phase : Phase} {verdict : Verdict}
      {backend after : Backend} (found : here.self.core.activities[place]? = some ⟨origin,.service attempt,phase⟩)
      (goes : proceed attempt backend = (.resolved verdict,after)) :
      Works here (.deliver place (.ofOutcome origin verdict)) backend after
  | rests {deed : Statechart.Deed machine} (backend : Backend) (silent : ∀ query given, deed ≠ .answer query given)
      (idle : resumed? ⟨here,deed⟩ = none) : Works here deed backend backend

/-- A run of a session, with all its moments, that works with an authenticator of its own. Others may write to its
store whenever they like. -/
inductive Conducted (graph : Graph machine) (options : Options) (first : Backend) :
    List (Moment machine) → Gathering machine → Backend → Prop where
  | fresh : Conducted graph options first [] (.fresh graph options) first
  | onward {trail : List (Moment machine)} {here next : Gathering machine} {deed : Statechart.Deed machine}
      {backend after : Backend} (store : Store) : Conducted graph options first trail here backend →
        here.Moves deed next → Works here deed { backend with store } after →
        Conducted graph options first (trail ++ [⟨here,deed⟩]) next after

section
variable {here : Gathering machine} {deed : Statechart.Deed machine} {backend after : Backend}

theorem Works.credible (works : Works here deed backend after) : IsCredible deed := by
  cases works with
  | answers query backend => exact answer_credible query backend
  | sleeps _ _ => trivial
  | resolves _ _ => trivial
  | rests _ silent _ =>
    cases deed with
    | answer query given => exact absurd rfl (silent query given)
    | _ => trivial

/-- No callback touches the authenticator. -/
theorem answer_authenticator (query : Query machine) (backend : Backend) :
    (answer query backend).2.authenticator = backend.authenticator := by
  cases query <;> rfl

/-- The authenticator is called when an attempt begins, and not again. -/
theorem proceed_authenticator (attempt : Attempt) (backend : Backend) :
    (proceed attempt backend).2.authenticator =
      attempt.fresh?.elim backend.authenticator fun credentials => (backend.authenticator.call credentials).2 := by
  cases attempt with
  | awaiting verdict => rfl
  | fresh credentials =>
    simp only [proceed,Attempt.fresh?,Option.elim_some]
    split <;> rename_i same <;> rw [same]

/-- An attempt that sleeps has begun. -/
theorem proceed_begun {attempt rest : Attempt} {latency : Nat}
    (goes : proceed attempt backend = (.sleeping latency rest,after)) : rest.fresh? = none := by
  cases attempt with
  | awaiting verdict => cases goes
  | fresh credentials =>
    simp only [proceed] at goes
    split at goes <;> cases goes
    rfl

/-- The authenticator is called just with what the moment says. -/
theorem Works.authenticator (works : Works here deed backend after) :
    after.authenticator = (called? ⟨here,deed⟩).elim backend.authenticator fun credentials =>
      (backend.authenticator.call credentials).2 := by
  cases works with
  | answers query backend => exact answer_authenticator query backend
  | @sleeps place due _ origin attempt rest _ _ _ found goes =>
    have calls : called? ⟨here,.sleep place ⟨origin,.service rest,.asleep due⟩⟩ = attempt.fresh? := by
      simp [called?,resumed?,found,attemptIn?]
    rw [calls,← proceed_authenticator,goes]
  | @resolves place origin attempt _ verdict _ _ found goes =>
    have calls : called? ⟨here,.deliver place (.ofOutcome origin verdict)⟩ = attempt.fresh? := by
      simp [called?,resumed?,found,attemptIn?]
    rw [calls,← proceed_authenticator,goes]
  | rests _ _ idle => rw [called?,idle]; rfl

end

variable {id : String} {renewInterval : Option Nat} {options : Options} {trail : List (Moment machine)}
  {here next : Gathering machine} {deed : Statechart.Deed machine} {first backend after : Backend}

theorem Conducted.attended {graph : Graph machine} (conducted : Conducted graph options first trail here backend) :
    Attended graph options trail here := by
  induction conducted with
  | fresh => exact .fresh
  | onward _ _ moves works ih => exact ih.onward moves works.credible

/-- An authenticator after calls with credentials, one after another. -/
def Authenticator.callAll (authenticator : Authenticator) (calls : List Credentials) : Authenticator :=
  calls.foldl (fun now credentials => (now.call credentials).2) authenticator

theorem Authenticator.callAll_append (authenticator : Authenticator) (calls more : List Credentials) :
    authenticator.callAll (calls ++ more) = (authenticator.callAll calls).callAll more := List.foldl_append

theorem Conducted.authenticator {graph : Graph machine} (conducted : Conducted graph options first trail here backend) :
    backend.authenticator = first.authenticator.callAll (called trail) := by
  induction conducted with
  | fresh => rfl
  | @onward trail here _ deed _ _ _ _ _ works ih =>
    rw [works.authenticator,called,List.filterMap_append,Authenticator.callAll_append,← called,← ih]
    cases calls : called? ⟨here,deed⟩ <;> simp [calls,Authenticator.callAll]

/-- A scripted authenticator remembers what it has been called with. -/
theorem callAll_scripted (answers : List (Nat × Verdict)) (seen calls : List Credentials) :
    ∃ left, (Authenticator.scripted answers seen).callAll calls = .scripted left (seen ++ calls) := by
  induction calls generalizing answers seen with
  | nil => exact ⟨answers,by simp [Authenticator.callAll]⟩
  | cons credentials rest ih =>
    cases answers with
    | nil =>
      obtain ⟨left,same⟩ := ih [] (seen ++ [credentials])
      exact ⟨left,by simpa [Authenticator.callAll,Authenticator.call] using same⟩
    | cons answer later =>
      obtain ⟨left,same⟩ := ih later (seen ++ [credentials])
      exact ⟨left,by simpa [Authenticator.callAll,Authenticator.call] using same⟩

/-! ## What becomes of a login -/

/-- The credentials that a session goes by when it takes an event in a state: those of a login, in the state that a
login leads out of. -/
def loginOf? : State → Event machine → Option Credentials
  | .unauthenticated, .signal (.login credentials) => some credentials
  | _, _ => none

theorem loginOf?_eq_some_iff {state : State} {event : Event machine} {credentials : Credentials} :
    loginOf? state event = some credentials ↔ state = .unauthenticated ∧ event = .signal (.login credentials) := by
  constructor
  · intro goes
    unfold loginOf? at goes
    split at goes
    · cases goes
      exact ⟨rfl,rfl⟩
    · cases goes
  · rintro ⟨rfl,rfl⟩
    rfl

/-- The credentials of the login that a running session begins to process in the unauthenticated state. -/
def login? (moment : Moment machine) : Option Credentials :=
  moment.taken?.bind (loginOf? moment.here.self.core.state)

def logins (trail : List (Moment machine)) : List Credentials := trail.filterMap login?

theorem logins_snoc (trail : List (Moment machine)) (moment : Moment machine) :
    logins (trail ++ [moment]) = logins trail ++ (login? moment).toList := by
  rw [logins,List.filterMap_append]
  cases takes : login? moment <;> simp [takes,logins]

/-- The credentials of the attempts that a running session is about to make: an activity is yet to begin, or the login
is still being processed. -/
def unbegun (here : Gathering machine) : List Credentials :=
  if here.self.core.status = .running then
    here.self.core.activities.filterMap unbegun? ++ here.reactions.filterMap (loginOf? here.self.core.state)
  else []

/-- What becomes of an attempt. -/
inductive Fate where
  /-- The authenticator has been called. -/
  | begun (credentials : Credentials)
  /-- It was cancelled before that. -/
  | forgone (credentials : Credentials)

def Fate.credentials : Fate → Credentials
  | .begun credentials => credentials
  | .forgone credentials => credentials

def Fate.begun? : Fate → Option Credentials
  | .begun credentials => some credentials
  | .forgone _ => none

/-- The credentials of the attempts that are cancelled at a moment before they have begun: the session is stopped, or
its activities end with a fault or with the instance that they belong to. -/
def cancelled (moment : Moment machine) : List Credentials :=
  match moment.deed with
  | .stop => unbegun moment.here
  | .go =>
    if moment.birth?.isSome ∨ moment.fault?.isSome then moment.here.self.core.activities.filterMap unbegun? else []
  | _ => []

def fatesAt (moment : Moment machine) : List Fate :=
  (called? moment).toList.map .begun ++ (cancelled moment).map .forgone

/-- What has become of attempts, one after another. -/
def fates (trail : List (Moment machine)) : List Fate := trail.flatMap fatesAt

theorem fates_snoc (trail : List (Moment machine)) (moment : Moment machine) :
    fates (trail ++ [moment]) = fates trail ++ fatesAt moment := by
  rw [fates,List.flatMap_append,List.flatMap_singleton,fates]

theorem fatesAt_credentials (moment : Moment machine) :
    (fatesAt moment).map Fate.credentials = (called? moment).toList ++ cancelled moment := by
  simp [fatesAt,Function.comp_def,Fate.credentials]

theorem fatesAt_begun? (moment : Moment machine) :
    (fatesAt moment).filterMap Fate.begun? = (called? moment).toList := by
  cases calls : called? moment <;> simp [fatesAt,calls,Fate.begun?,Function.comp_def]

/-- The calls are the attempts that have begun. -/
theorem called_eq (trail : List (Moment machine)) : called trail = (fates trail).filterMap Fate.begun? := by
  induction trail with
  | nil => rfl
  | cons moment rest ih =>
    rw [fates,List.flatMap_cons,List.filterMap_append,fatesAt_begun?,← fates,← ih,called,called]
    cases calls : called? moment <;> simp [calls]

/-! ## What a macrostep makes of its event -/

section

variable {limit : UInt64} {account : Account} {state source : State} {event : Event machine}
  {step : Statechart.Step machine} {rest : Pending machine}

/-- A step that has taken something enters a state, with an attempt if it is that of a login. -/
theorem Attains.enters (attains : Attains renewInterval account state event step) (taken : step.taken = true) :
    ∃ entry, step.entry = some entry ∧ entry.service = (loginOf? state event).map .fresh := by
  cases attains with
  | nothing => cases taken
  | _ => exact ⟨_,rfl,rfl⟩

/-- The macrostep of a login does not fail. -/
theorem react_succeeds {credentials : Credentials} (made : loginOf? state event = some credentials) :
    ((chart id renewInterval).react limit state account event).run.Meets (fun _ => True) fun result =>
      ∃ step, result = .ok step ∧ step.taken = true := by
  obtain ⟨rfl,rfl⟩ := loginOf?_eq_some_iff.mp made
  rw [react_login]
  exact ⟨trivial,fun _ => ⟨trivial,fun _ => ⟨_,rfl,rfl⟩⟩⟩

/-- An attempt is made up for the login that is being processed, and for nothing else. -/
def AsksFor (state : State) (event : Event machine) : Query machine → Prop
  | .create _ _ shown => shown = event ∧ (loginOf? state event).isSome = true
  | _ => True

theorem afterEffect_asks {action : Action machine} {answer : Except ActionError Unit}
    (asks : rest.Meets (AsksFor state event) fun _ => True) :
    (afterEffect source action answer rest).Meets (AsksFor state event) fun _ => True := by
  cases answer with
  | ok => exact asks
  | error cause => trivial

theorem passing_asks (asks : rest.Meets (AsksFor state event) fun _ => True) :
    (passing limit source rest).Meets (AsksFor state event) fun _ => True := by
  rw [passing]
  split
  · trivial
  · exact asks

theorem persisting_asks : (persisting account event step).Meets (AsksFor state event) fun _ => True :=
  ⟨trivial,fun _ => afterEffect_asks trivial⟩

theorem begin_asks : ((chart id renewInterval).begin limit).run.Meets (AsksFor .init .init) fun _ => True := by
  rw [begin_eq]
  refine ⟨trivial,fun loaded => ?_⟩
  cases loaded with
  | error cause => trivial
  | ok restored =>
    refine ⟨trivial,fun known => passing_asks ?_⟩
    cases known with
    | true => exact persisting_asks
    | false => trivial

theorem react_asks :
    ((chart id renewInterval).react limit state account event).run.Meets (AsksFor state event) fun _ => True := by
  rcases provokes_or_idles id renewInterval limit state account event with provokes | idles
  · cases provokes with
    | login credentials =>
      rw [react_login]
      exact ⟨trivial,fun _ => ⟨⟨rfl,rfl⟩,fun _ => trivial⟩⟩
    | done origin user =>
      rw [react_done]
      exact ⟨trivial,fun _ => ⟨trivial,fun _ => afterEffect_asks persisting_asks⟩⟩
    | failed origin rejection =>
      rw [react_failed]
      refine ⟨trivial,fun required => ?_⟩
      cases required with
      | true => exact ⟨trivial,fun _ => trivial⟩
      | false => exact ⟨trivial,fun _ => afterEffect_asks ⟨trivial,fun _ => trivial⟩⟩
    | logout =>
      rw [react_logout]
      exact ⟨trivial,fun _ => ⟨trivial,fun _ => afterEffect_asks (passing_asks trivial)⟩⟩
    | elapsed interval origin renews =>
      subst renews
      rw [react_elapsed]
      exact ⟨trivial,fun _ => afterEffect_asks (passing_asks persisting_asks)⟩
  · rw [idles]
    trivial

end

/-! ## Activities -/

/-- A state of the chart declares at most one activity. -/
theorem duties_length (state : State) : ((chart id renewInterval).duties state).length ≤ 1 := by
  cases renewInterval <;> cases state <;> exact Nat.le_of_ble_eq_true rfl

/-- So the activity that the clock attends to is the only one. -/
theorem activities_eq {core : Core machine} (tended : core.Tended (chart id renewInterval)) {place : Nat}
    {activity : Activity machine} (found : core.activities[place]? = some activity) :
    place = 0 ∧ core.activities = [activity] := by
  have few : core.activities.length ≤ 1 := by
    have declared := tended.declared.length_le
    rw [List.length_map] at declared
    exact Nat.le_trans declared (duties_length core.state)
  match activities : core.activities, few with
  | [], _ => rw [activities] at found; cases found
  | [other], _ =>
    rw [activities] at found
    cases place with
    | zero => cases found; exact ⟨rfl,rfl⟩
    | succ place => cases found

/-- Of the activities that are spawned with a state only the service makes an attempt. -/
theorem filterMap_activities (entry : Entry machine) (origin : Origin machine) :
    (entry.activities origin).filterMap unbegun? = (entry.service.bind Attempt.fresh?).toList := by
  obtain ⟨service,delay⟩ := entry
  have timers :
      (delay.toList.map fun span => (⟨origin,.timer span,.queued⟩ : Activity machine)).filterMap unbegun? = [] := by
    cases delay <;> rfl
  rw [Entry.activities,List.filterMap_append,timers,List.append_nil]
  cases service with
  | none => rfl
  | some attempt => cases attempt <;> rfl

theorem filterMap_unbegun (activity : Activity machine) :
    [activity].filterMap unbegun? = ((attemptIn? activity).bind Attempt.fresh?).toList := by
  cases fresh : unbegun? activity <;> rw [unbegun?] at fresh <;> simp [unbegun?,fresh]

/-- The clock lets the attempt begin, or something that is no attempt or has begun before. -/
theorem Works.activities (works : Works here deed backend after) (moves : here.Moves deed next)
    (tended : here.self.core.Tended (chart id renewInterval)) :
    here.self.core.activities.filterMap unbegun? =
      (called? ⟨here,deed⟩).toList ++ (deed.tend here.self.core.activities).filterMap unbegun? := by
  cases works with
  | answers query backend => rfl
  | sleeps found goes =>
    obtain ⟨rfl,one⟩ := activities_eq tended found
    simp only [called?,resumed?,Deed.tend,one,List.set_cons_zero,filterMap_unbegun]
    simp [attemptIn?,proceed_begun goes]
  | resolves found goes =>
    obtain ⟨rfl,one⟩ := activities_eq tended found
    simp only [called?,resumed?,Deed.tend,one,List.eraseIdx_cons_zero,filterMap_unbegun]
    simp [attemptIn?]
  | rests _ silent idle =>
    rw [called?,idle]
    cases deed with
    | sleep place later =>
      cases moves with
      | turn turn =>
        cases turn with
        | sleep found continues =>
          obtain ⟨rfl,one⟩ := activities_eq tended found
          cases continues with
          | timer origin span due => rw [one]; rfl
          | service origin task rest phase due => simp [resumed?,found,attemptIn?] at idle
    | deliver place event =>
      cases moves with
      | turn turn =>
        cases turn with
        | deliver found ends =>
          obtain ⟨rfl,one⟩ := activities_eq tended found
          cases ends with
          | timer origin span due => rw [one]; rfl
          | service origin task phase outcome => simp [resumed?,found,attemptIn?] at idle
    | _ => rfl

/-! ## Every login is accounted for -/

/-- Whatever becomes of the attempts that a session is about to make, and of the login that it begins to process, they
are begun, or cancelled, or still to be made. -/
def Accounts (here : Gathering machine) (deed : Statechart.Deed machine) (next : Gathering machine) : Prop :=
  unbegun here ++ (login? ⟨here,deed⟩).toList =
    (called? ⟨here,deed⟩).toList ++ cancelled ⟨here,deed⟩ ++ unbegun next

theorem login?_eq_none (still : deed ≠ .go) : login? ⟨here,deed⟩ = none := by
  rw [login?,Moment.taken?,Moment.handed?_eq_none still]
  rfl

/-- While a macrostep is on top of the stack, no event is taken. -/
theorem login?_of_macrostep {frame : Frame machine} {below : List (Frame machine)}
    (top : here.self.stack = frame :: below) (macrostep : frame.isMacrostep = true) : login? ⟨here,deed⟩ = none := by
  have unhanded : (⟨here,deed⟩ : Moment machine).handed? = none := by
    rw [Option.eq_none_iff_forall_ne_some]
    intro event hands
    obtain ⟨_,_,_,_,_,first,_⟩ := Moment.handed?_eq_some_iff.mp hands
    cases top.symm.trans first
    cases macrostep
  rw [login?,Moment.taken?,unhanded]
  rfl

/-- A session that is not running makes no attempts. -/
theorem accounts_of_idle (run : (Gathering.fresh (chart id renewInterval) options).Trail trail here)
    (moves : here.Moves deed next) (idle : here.self.core.status ≠ .running) : Accounts here deed next := by
  have reachable := run.reachable
  have none : here.self.core.activities = [] := run.tended.idle idle
  have nothing : unbegun here = [] := if_neg idle
  have untaken : login? ⟨here,deed⟩ = Option.none := by simp [login?,Moment.taken?,idle]
  have uncalled : called? ⟨here,deed⟩ = Option.none := by
    cases deed <;> simp [called?,resumed?,none]
  have uncancelled : cancelled ⟨here,deed⟩ = [] := by
    cases deed <;> simp [cancelled,none,nothing]
  have later : unbegun next = [] := by
    by_cases running : next.self.core.status = .running
    · -- the session is being started
      obtain ⟨unstarted,clocked,rfl⟩ := moves.changes.revives idle running
      obtain ⟨pending,one⟩ := moves.starts reachable.sound unstarted running
      have kept := moves.activities reachable running
      rw [Moment.birth?_eq_none (Moment.step?_eq_none (by simp))] at kept
      have empty : next.self.core.activities = [] := kept.trans none
      rw [unbegun,if_pos running,empty,Gathering.reactions,one]
      rfl
    · exact if_neg running
  rw [Accounts,nothing,untaken,uncalled,uncancelled,later]
  rfl

/-- A stop cancels whatever a session is about to attempt. -/
theorem accounts_of_stop (moves : here.Moves .stop next) (running : here.self.core.status = .running) :
    Accounts here .stop next := by
  have stopped : next.self.core.status ≠ .running := by simp [moves.stops (.inl running)]
  rw [Accounts,login?_eq_none (by simp),unbegun,unbegun,if_neg stopped]
  simp [called?,resumed?,cancelled,unbegun]

/-- What others do, and the clock, concerns only the activity that the clock lets go on. -/
theorem accounts_of_turn (run : (Gathering.fresh (chart id renewInterval) options).Trail trail here)
    (moves : here.Moves deed next) (works : Works here deed backend after) (running : here.self.core.status = .running)
    (still : deed ≠ .go) (unstopped : deed ≠ .stop) : Accounts here deed next := by
  have core := moves.core_tended running still unstopped
  have uncancelled : cancelled ⟨here,deed⟩ = [] := by
    cases deed with
    | go => exact absurd rfl still
    | stop => exact absurd rfl unstopped
    | _ => rfl
  have alive : next.self.core.status = .running := by rw [core]; exact running
  rw [Accounts,login?_eq_none still,uncancelled,unbegun,unbegun,if_pos running,if_pos alive,
    moves.reactions_kept run.reachable.sound still,works.activities moves run.tended,core]
  simp

/-- A step that is committed enters a state, with an attempt if it is that of a login. -/
theorem Attended.entered (attended : Attended (chart id renewInterval) options trail here)
    {step : Statechart.Step machine} (commits : here.self.Commits step) :
    ∃ entry, step.entry = some entry ∧
      (entry.service.bind Attempt.fresh?).toList = here.reactions.filterMap (loginOf? here.self.core.state) := by
  have sound := attended.run.reachable.sound
  rcases attended.committed_cases commits with ⟨kept,below,top,rfl,_⟩ | ⟨drainer,firstError,event,below,top,attains⟩
  · have one : here.macrosteps = _ := sound.only_macrostep top rfl
    rw [Gathering.reactions,one]
    exact ⟨_,rfl,by cases kept <;> rfl⟩
  · have one : here.macrosteps = _ := sound.only_macrostep top rfl
    obtain ⟨entry,entered,service⟩ := attains.enters (Gathering.taken_of_commits commits)
    refine ⟨entry,entered,?_⟩
    rw [Gathering.reactions,one,service]
    cases made : loginOf? here.self.core.state event <;> simp [made,Frame.reaction?,Attempt.fresh?]

theorem accounts_of_commit (attended : Attended (chart id renewInterval) options trail here)
    (moves : here.Moves .go next) {step : Statechart.Step machine}
    (now : (⟨here,.go⟩ : Moment machine).step? = some step) : Accounts here .go next := by
  have reachable := attended.run.reachable
  obtain ⟨_,commits⟩ := Moment.step?_eq_some_iff.mp now
  have running := Core.running_of_admits commits.1
  obtain ⟨entry,entered,service⟩ := attended.entered commits
  have core := moves.core_of_commit now
  have alive : next.self.core.status = .running := by
    rw [core,Core.status_commit_eq,if_neg (fun final => by cases final.2)]
    exact running
  have spawned : next.self.core.activities.filterMap unbegun? = (entry.service.bind Attempt.fresh?).toList := by
    rcases Core.activities_commit entered (attended.run.tended.able running) (reachable.fits commits entered) with
      ⟨done,_⟩ | ⟨_,spawned⟩
    · rw [← core,alive] at done
      cases done
    · rw [core,spawned,filterMap_activities]
  have cleared : next.reactions = [] := by
    rw [Gathering.reactions,(moves.commit commits reachable.sound).2]
    rfl
  have born : (⟨here,.go⟩ : Moment machine).birth?.isSome = true := by simp [Moment.birth?,now,entered]
  have untaken : login? ⟨here,.go⟩ = none := by
    obtain ⟨_,_,_,top,result⟩ := commits
    exact login?_of_macrostep top (by rcases Frame.result?_cases result with rfl | ⟨_,_,_,rfl⟩ <;> rfl)
  rw [Accounts,untaken,unbegun,unbegun,if_pos running,if_pos alive,cleared,spawned,service]
  simp [called?,resumed?,cancelled,born]

/-- A fault cancels the attempt in progress; it comes of no login. -/
theorem accounts_of_fault (attended : Attended (chart id renewInterval) options trail here) (moves : here.Moves .go next)
    {failure : Fault} (faults : (⟨here,.go⟩ : Moment machine).fault? = some failure) : Accounts here .go next := by
  obtain ⟨_,drainer,firstError,event,below,top,outcome,running⟩ := Moment.fault?_eq_some_iff.mp faults
  simp only at top running
  have ended : next.self.core.status ≠ .running := by
    rw [moves.core_of_reaction top]
    simp [outcome,running,Core.close]
  have one : here.macrosteps = [.reacting drainer firstError event (.done (.error failure))] :=
    attended.run.reachable.sound.only_macrostep top rfl
  have other : loginOf? here.self.core.state event = none := by
    rw [Option.eq_none_iff_forall_ne_some]
    intro credentials made
    rw [(loginOf?_eq_some_iff.mp made).2] at outcome
    cases outcome
  have untaken : login? ⟨here,.go⟩ = none := login?_of_macrostep top rfl
  rw [Accounts,untaken,unbegun,unbegun,if_pos running,if_neg ended,Gathering.reactions,one]
  simp [called?,resumed?,cancelled,faults,Frame.reaction?,other]

/-- While a session is running, the macrostep of a login is over with a commit. -/
theorem Attended.concluded_uncommitted (attended : Attended (chart id renewInterval) options trail here)
    (running : here.self.core.status = .running) (uncommitted : (⟨here,.go⟩ : Moment machine).step? = none) :
    ((⟨here,.go⟩ : Moment machine).concluded?.toList.map Prod.fst).filterMap (loginOf? here.self.core.state) = [] := by
  cases concludes : (⟨here,.go⟩ : Moment machine).concluded? with
  | none => rfl
  | some outcome =>
    obtain ⟨event,result⟩ := outcome
    obtain ⟨_,drainer,firstError,below,top⟩ := Moment.concluded?_eq_some_iff.mp concludes
    have other : loginOf? here.self.core.state event = none := by
      by_contra made
      obtain ⟨credentials,made⟩ := Option.ne_none_iff_exists'.mp made
      obtain ⟨_,_,_,_,_,_,_,⟨_,leads⟩,_⟩ := attended.macrostep top rfl
      obtain ⟨step,rfl,taken⟩ := Dialogue.Meets.leads (react_succeeds made) leads
      rw [Moment.step?_eq_some_iff.mpr ⟨rfl,by simp [Core.admits,running,taken],_,below,top,rfl⟩] at uncommitted
      cases uncommitted
    simp [other]

/-- Otherwise an event may be taken, or one is done with that nothing has come of. -/
theorem accounts_of_go (attended : Attended (chart id renewInterval) options trail here) (moves : here.Moves .go next)
    (running : here.self.core.status = .running) (uncommitted : (⟨here,.go⟩ : Moment machine).step? = none)
    (spared : (⟨here,.go⟩ : Moment machine).fault? = none) : Accounts here .go next := by
  have sound := attended.run.reachable.sound
  have uncancelled : cancelled ⟨here,.go⟩ = [] := by simp [cancelled,Moment.birth?_eq_none uncommitted,spared]
  rcases moves.core_unannounced uncommitted spared with same | ⟨⟨failure,below,top⟩,unstarted⟩
  · have goes := congrArg (List.filterMap (loginOf? here.self.core.state)) (moves.reactions sound)
    have taken : (⟨here,.go⟩ : Moment machine).taken?.toList.filterMap (loginOf? here.self.core.state) =
        (login? ⟨here,.go⟩).toList := by
      cases takes : (⟨here,.go⟩ : Moment machine).taken? with
      | none => simp [login?,takes]
      | some event => cases made : loginOf? here.self.core.state event <;> simp [login?,takes,made]
    rw [List.filterMap_append,List.filterMap_append,attended.concluded_uncommitted running uncommitted,taken,
      List.nil_append] at goes
    rw [Accounts,uncancelled,unbegun,unbegun,if_pos running,if_pos (by rw [same]; exact running),same,← goes]
    simp [called?,resumed?]
  · have untaken : login? ⟨here,.go⟩ = none := by simp [login?,Moment.taken?,Moment.handed?,top]
    obtain ⟨_,_,_,core⟩ := sound.starting _ (by rw [top]; exact List.mem_cons_self)
    have one : here.macrosteps = [.starting (.done (.error failure))] := sound.only_macrostep top rfl
    have nothing : unbegun here = [] := by
      rw [unbegun,if_pos running,Gathering.reactions,one,core]
      rfl
    rw [Accounts,untaken,uncancelled,nothing,unbegun,if_neg (by simp [unstarted])]
    rfl

theorem Conducted.accounts (conducted : Conducted (chart id renewInterval) options first trail here backend)
    (moves : here.Moves deed next) {store : Store} (works : Works here deed { backend with store } after) :
    Accounts here deed next := by
  have attended := conducted.attended
  by_cases running : here.self.core.status = .running
  · by_cases go : deed = .go
    · subst go
      cases now : (⟨here,.go⟩ : Moment machine).step? with
      | some step => exact accounts_of_commit attended moves now
      | none =>
        cases faults : (⟨here,.go⟩ : Moment machine).fault? with
        | some failure => exact accounts_of_fault attended moves faults
        | none => exact accounts_of_go attended moves running now faults
    · by_cases stop : deed = .stop
      · subst stop
        exact accounts_of_stop moves running
      · exact accounts_of_turn attended.run moves works running go stop
  · exact accounts_of_idle attended.run moves running

theorem Conducted.logins_eq (conducted : Conducted (chart id renewInterval) options first trail here backend) :
    logins trail = (fates trail).map Fate.credentials ++ unbegun here := by
  induction conducted with
  | fresh => rfl
  | @onward trail here next deed _ _ store earlier moves works ih =>
    have accounts := earlier.accounts moves works
    calc logins (trail ++ [⟨here,deed⟩])
        = (fates trail).map Fate.credentials ++ (unbegun here ++ (login? ⟨here,deed⟩).toList) := by
          rw [logins_snoc,ih,List.append_assoc]
      _ = (fates trail).map Fate.credentials ++ ((fatesAt ⟨here,deed⟩).map Fate.credentials ++ unbegun next) := by
          rw [accounts,fatesAt_credentials]
      _ = (fates (trail ++ [⟨here,deed⟩])).map Fate.credentials ++ unbegun next := by
          rw [fates_snoc,List.map_append,List.append_assoc]

/-- An attempt is only ever made up for the login that is being processed. -/
theorem creates (reachable : here.Reachable (chart id renewInterval) options) {factory : Unit} {account : Account}
    {event : Event machine} {resume : Attempt → Pending machine}
    (asked : here.self.prompt = some (.query (.create factory account event) resume)) :
    ∃ credentials, event = .signal (.login credentials) ∧ here.reactions = [event] ∧
      here.self.core.state = .unauthenticated := by
  obtain ⟨last,run⟩ := reachable.run
  rcases Interpreter.resume_cases asked with ⟨below,top,_⟩ | ⟨drainer,firstError,taken,below,top,_⟩
  · have one : here.macrosteps = _ := reachable.sound.only_macrostep top rfl
    obtain ⟨_,_,_,_,_,_,_,leads⟩ := run.computed _ (by rw [one]; exact List.mem_singleton_self _)
    have asks := Dialogue.Meets.leads begin_asks leads
    cases asks.1.2
  · have one : here.macrosteps = _ := reachable.sound.only_macrostep top rfl
    obtain ⟨_,_,_,_,_,_,_,leads⟩ := run.computed _ (by rw [one]; exact List.mem_singleton_self _)
    rw [← run.committed] at leads
    have asks := Dialogue.Meets.leads react_asks leads
    obtain ⟨shown,made⟩ := asks.1
    obtain ⟨credentials,made⟩ := Option.isSome_iff_exists.mp made
    obtain ⟨state,login⟩ := loginOf?_eq_some_iff.mp made
    refine ⟨credentials,shown.trans login,?_,state⟩
    rw [Gathering.reactions,one,shown]
    rfl

/-- A login that is taken in another state is over at once, and nothing comes of it. -/
theorem ignores_login (reachable : here.Reachable (chart id renewInterval) options) {credentials : Credentials}
    (takes : (⟨here,.go⟩ : Moment machine).taken? = some (.signal (.login credentials)))
    (elsewhere : here.self.core.state ≠ .unauthenticated) (moves : here.Moves .go next) :
    ∃ drainer firstError, next.macrosteps = [.reacting drainer firstError (.signal (.login credentials))
      (.done (.ok (.unchanged here.self.core.state here.self.core.context)))] := by
  obtain ⟨hands,running,accepted⟩ := Moment.taken?_eq_some_iff.mp takes
  obtain ⟨_,drainer,firstError,below,rest,top,mail⟩ := Moment.handed?_eq_some_iff.mp hands
  have about : here.Takes drainer firstError (.signal (.login credentials)) :=
    ⟨⟨below,top⟩,⟨rest,mail⟩,running,accepted⟩
  refine ⟨drainer,firstError,?_⟩
  rw [(about.begins reachable.sound moves).1]
  rcases provokes_or_idles id renewInterval options.maxMicrosteps here.self.core.state here.self.core.context
    (.signal (.login credentials)) with provokes | idles
  · generalize here.self.core.state = state at provokes elsewhere
    cases provokes
    exact absurd rfl elsewhere
  · rw [idles]

/-- Of the logins that a session has begun to process while it was running in the unauthenticated state, each has led,
in that order, to a call of the authenticator with its own credentials, unless the attempt was cancelled before it
began, or has not begun yet. There are no other calls: a login in another state is over at once. The credentials of an
attempt are those of the login that is being processed, so that none are made up, and an order to log in carries the
session's own unless others are given. -/
theorem calls_follow_logins {built : Graph machine} (builds : graph id renewInterval = .ok built)
    (conducted : Conducted built options first trail here backend) :
    logins trail = (fates trail).map Fate.credentials ++ unbegun here ∧
    called trail = (fates trail).filterMap Fate.begun? ∧
    backend.authenticator = first.authenticator.callAll (called trail) ∧
    (∀ answers seen, first.authenticator = .scripted answers seen →
      ∃ left, backend.authenticator = .scripted left (seen ++ called trail)) ∧
    (∀ credentials next, (⟨here,.go⟩ : Moment machine).taken? = some (.signal (.login credentials)) →
      here.self.core.state ≠ .unauthenticated → here.Moves .go next →
        ∃ drainer firstError, next.macrosteps = [.reacting drainer firstError (.signal (.login credentials))
          (.done (.ok (.unchanged here.self.core.state here.self.core.context)))]) ∧
    (∀ factory account event resume, here.self.prompt = some (.query (.create factory account event) resume) →
      ∃ credentials, event = .signal (.login credentials) ∧ here.reactions = [event] ∧
        here.self.core.state = .unauthenticated ∧ attemptOf event = .fresh credentials) ∧
    ∀ given, (Order.login given).perform = desk >>= fun known =>
      .ask (.call true (.post (.signal (.login (given.getD known.credentials))))) fun reply => .done (.ofReply reply) := by
  rw [eq_chart builds] at conducted
  have reachable := conducted.attended.run.reachable
  refine ⟨conducted.logins_eq,called_eq trail,conducted.authenticator,?_,?_,?_,fun _ => rfl⟩
  · intro answers seen scripted
    rw [conducted.authenticator,scripted]
    exact callAll_scripted answers seen _
  · intro credentials next takes elsewhere moves
    exact ignores_login reachable takes elsewhere moves
  · intro factory account event resume asked
    obtain ⟨credentials,rfl,own,state⟩ := creates reachable asked
    exact ⟨credentials,rfl,own,state,rfl⟩

/-- The password is not the right one. -/
def mistaken : Verdict := .error (.rejected "mistaken")

/-- Somebody who has mistaken a password tries another one while the attempt is in progress, which is ignored, and once
more after the rejection, but the session is stopped before the authenticator is called again. -/
theorem retried_late : ∃ trail here backend,
    Conducted (chart "authentication" none) {} ⟨.holding none,.scripted [(1000,mistaken)] []⟩
      trail here backend ∧
    fates trail = [.begun { password := "first" },.forgone { password := "third" }] ∧ unbegun here = [] := by
  have made : Conducted (chart "authentication" none) {}
    ⟨.holding none,.scripted [(1000,mistaken)] []⟩ [] _ _ := .fresh
  have started := made.onward (.holding none) (.turn (.start true)) (.rests _ (by simp) rfl)
  have loaded := started.onward (.holding none) (.turn (.answer rfl _)) (.answers _ _)
  have checked := loaded.onward (.holding none) (.turn (.answer rfl _)) (.answers _ _)
  have committed := checked.onward (.holding none) (.turn (.go rfl)) (.rests _ (by simp) rfl)
  have told := committed.onward (.holding none) (.turn (.go rfl)) (.rests _ (by simp) rfl)
  have idle := told.onward (.holding none) (.turn (.go rfl)) (.rests _ (by simp) rfl)
  have asked := idle.onward (.holding none) (.turn (.send (Command.login { password := "first" })))
    (.rests _ (by simp) rfl)
  have taken := asked.onward (.holding none) (.turn (.go rfl)) (.rests _ (by simp) rfl)
  have loading := taken.onward (.holding none) (.turn (.answer rfl _)) (.answers _ _)
  have queued := loading.onward (.holding none) (.turn (.send (Command.login { password := "second" })))
    (.rests _ (by simp) rfl)
  have created := queued.onward (.holding none) (.turn (.answer rfl _)) (.answers _ _)
  have waits := created.onward (.holding none) (.turn (.go rfl)) (.rests _ (by simp) rfl)
  have begun := waits.onward (.holding none) 
    (.turn (@Turn.sleep machine _ 0 _ _ rfl (.service _ _ (Attempt.awaiting mistaken) _ 1000)))
    (.sleeps (by rfl) (by rfl))
  have heard := begun.onward (.holding none) (.turn (.go rfl)) (.rests _ (by simp) rfl)
  have ignored := heard.onward (.holding none) (.turn (.go rfl)) (.rests _ (by simp) rfl)
  have dismissed := ignored.onward (.holding none) (.turn (.go rfl)) (.rests _ (by simp) rfl)
  have rests := dismissed.onward (.holding none) (.turn (.go rfl)) (.rests _ (by simp) rfl)
  have rejected := rests.onward (.holding none)
    (.turn (@Turn.deliver machine _ 0 _ _ rfl (.service _ _ _ mistaken))) (.resolves (by rfl) (by rfl))
  have handed := rejected.onward (.holding none) (.turn (.go rfl)) (.rests _ (by simp) rfl)
  have unmoved := handed.onward (.holding none) (.turn (.answer rfl _)) (.answers _ _)
  have noted := unmoved.onward (.holding none) (.turn (.answer rfl _)) (.answers _ _)
  have reset := noted.onward (.holding none) (.turn (.answer rfl _)) (.answers _ _)
  have concluded := reset.onward (.holding none) (.turn (.go rfl)) (.rests _ (by simp) rfl)
  have shown := concluded.onward (.holding none) (.turn (.go rfl)) (.rests _ (by simp) rfl)
  have closed := shown.onward (.holding none) (.turn (.go rfl)) (.rests _ (by simp) rfl)
  have again := closed.onward (.holding none) (.turn (.send (Command.login { password := "third" })))
    (.rests _ (by simp) rfl)
  have retaken := again.onward (.holding none) (.turn (.go rfl)) (.rests _ (by simp) rfl)
  have reloading := retaken.onward (.holding none) (.turn (.answer rfl _)) (.answers _ _)
  have recreated := reloading.onward (.holding none) (.turn (.answer rfl _)) (.answers _ _)
  have retries := recreated.onward (.holding none) (.turn (.go rfl)) (.rests _ (by simp) rfl)
  have stopped := retries.onward (.holding none) (.turn .stop) (.rests _ (by simp) rfl)
  exact ⟨_,_,_,stopped,rfl,rfl⟩

theorem retried_late_calls_follow_logins : ∃ trail here backend,
    Conducted (chart "authentication" none) {} ⟨.holding none,.scripted [(1000,mistaken)] []⟩
      trail here backend ∧
    logins trail = [{ password := "first" },{ password := "third" }] ∧ called trail = [{ password := "first" }] ∧
    ∃ left, backend.authenticator = .scripted left [{ password := "first" }] := by
  obtain ⟨trail,here,backend,conducted,fated,nothing⟩ := retried_late
  obtain ⟨logins,called,_,seen,_⟩ := calls_follow_logins (graph_eq _ _) conducted
  rw [fated] at logins called
  rw [nothing] at logins
  refine ⟨trail,here,backend,conducted,logins,called,?_⟩
  obtain ⟨left,same⟩ := seen _ _ rfl
  exact ⟨left,by rw [same,called]; rfl⟩

end Statechart.Login
