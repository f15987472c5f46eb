import Statechart.Proofs.Login.Attempts
import Statechart.Proofs.Solitude

/-!
# Outlines: a session as its user sees it

What a session over a memory store does can be told without its renewals: where it stands, what it answers
to an order, and what comes with time. An outline knows that much. A site shows an outline if all that the
outline leaves out is what renewals change: the number of saves, the generation, the history, the timer
itself, and how often a snapshot has been told. An order leads from a session that shows an outline to one
that shows the next (`shows_obey`).
-/
namespace Statechart.Login

/-- Where a session stands. -/
inductive Stage where
  /-- With the user that the store keeps. -/
  | unstarted (kept : Option Identity)
  | signedOut (account : Account)
  /-- An attempt is to be made. -/
  | asking (account : Account) (credentials : Credentials)
  /-- An attempt has been made, and its verdict is to come. -/
  | awaiting (account : Account) (verdict : Verdict) (due : Nat)
  | signedIn (account : Account)
  /-- Stopped, in a state, with the user that the store keeps. -/
  | ended (state : State) (account : Account) (kept : Option Identity) (started : Bool)

namespace Stage

def view : Stage → View
  | .unstarted _ => ⟨.init,{},.notStarted⟩
  | .signedOut account => ⟨.unauthenticated,account,.running⟩
  | .asking account _ => ⟨.processAuthentication,account,.running⟩
  | .awaiting account _ _ => ⟨.processAuthentication,account,.running⟩
  | .signedIn account => ⟨.authenticated,account,.running⟩
  | .ended state account _ _ => ⟨state,account,.stopped⟩

/-- Whom the store keeps. -/
def kept : Stage → Option Identity
  | .unstarted kept => kept
  | .ended _ _ kept _ => kept
  | stage => stage.view.context.user

def isStarted : Stage → Bool
  | .unstarted _ => false
  | .ended _ _ _ started => started
  | _ => true

/-- Where a restored session stands. -/
def restored (kept : Option Identity) : Stage :=
  if kept.isSome then .signedIn (Account.restored kept) else .signedOut (Account.restored kept)

/-- Where a session stands once its attempt has been answered. -/
def concluded (account : Account) : Verdict → Stage
  | .ok user => .signedIn (account.signedIn (some user))
  | .error rejection => .signedOut (account.rejected rejection)

/-- Where a session stands once it has been stopped. -/
def stopped (stage : Stage) : Stage := .ended stage.view.state stage.view.context stage.kept stage.isStarted

end Stage

/-- The snapshots told so far, without those that repeat the one before, once one more has been heard. -/
def retell (told : List View) : Heard → List View
  | .view view => if told.getLast? = some view then told else told ++ [view]
  | .reacted _ _ => told

/-- What there is to say of a session, but for its renewals. -/
structure Outline where
  stage : Stage
  authenticator : Authenticator
  now : Nat
  /-- How often the session has read its store. -/
  loads : Nat
  /-- How often the session has cleared its store. -/
  clears : Nat
  told : List View

namespace Outline

/-- Comes to another stage and tells of it. -/
def become (outline : Outline) (stage : Stage) : Outline :=
  { outline with stage, told := retell outline.told (.view stage.view) }

/-- What an order comes to, in a session with credentials of its own. -/
def obey (own : Credentials) (outline : Outline) : Order → OrderResult × Outline
  | .start =>
    match outline.stage with
    | .unstarted kept =>
      (.started (.ok (Stage.restored kept).view),
        { outline with loads := outline.loads + 1 }.become (.restored kept))
    | _ => (.started (.error .alreadyStarted),outline)
  | .login credentials =>
    match outline.stage with
    | .unstarted _ => (.obeyed (.error .notStarted),outline)
    | .signedOut account =>
      (.obeyed (.ok ()),outline.become (.asking { account with isLoading := true } (credentials.getD own)))
    | _ => (.obeyed (.ok ()),outline)
  | .logout =>
    match outline.stage with
    | .unstarted _ => (.obeyed (.error .notStarted),outline)
    | .signedIn account =>
      (.obeyed (.ok ()),{ outline with clears := outline.clears + 1 }.become
        (.signedOut { account with standing := .unauthenticated, user := none }))
    | _ => (.obeyed (.ok ()),outline)
  | .stop =>
    match outline.stage with
    | .ended _ _ _ _ => (.nothing,outline)
    | stage => (.nothing,outline.become stage.stopped)

/-- A verdict comes when it is due. -/
def ripen (outline : Outline) : Outline :=
  match outline.stage with
  | .awaiting account verdict due => if due ≤ outline.now then outline.become (.concluded account verdict) else outline
  | _ => outline

/-- An attempt is made, and a verdict comes when it is due. -/
def settle (outline : Outline) : Outline :=
  match outline.stage with
  | .asking account credentials =>
    match outline.authenticator.call credentials with
    | ((none,verdict),authenticator) => { outline with authenticator }.become (.concluded account verdict)
    | ((some latency,verdict),authenticator) =>
      ripen { outline with authenticator, stage := .awaiting account verdict (outline.now + latency) }
  | _ => outline.ripen

/-- Time passes, up to the given time. -/
def elapse (outline : Outline) (target : Nat) : Outline := ripen { outline.settle with now := target }

end Outline

/-! ## Sessions that show an outline -/

namespace Settings

def interval (settings : Settings) : Option Nat := settings.renewInterval.map UInt64.toNat

/-- The graph of a session. -/
def chart (settings : Settings) : Graph machine := Login.chart settings.machineId settings.interval

/-- The macrostep of an event in a session. -/
def react (settings : Settings) (state : State) (account : Account) (event : Event machine) : Pending machine :=
  (settings.chart.react settings.interpreter.maxMicrosteps state account event).run

end Settings

/-- The settings of a session, and how often its store had been read and cleared before. -/
structure Setup extends Settings where
  loads : Nat
  clears : Nat

/-- What renewals change in a session. -/
structure Hidden where
  saves : Nat
  generation : Generation
  history : History State Unit
  /-- How far the renewal timer has come. -/
  phase : Phase
  heard : List Heard

/-- The activities at a stage. -/
def Stage.activities (interval : Option Nat) (hidden : Hidden) : Stage → List (Activity machine)
  | .asking _ credentials => [⟨⟨.processAuthentication,hidden.generation⟩,.service (.fresh credentials),.queued⟩]
  | .awaiting _ verdict due => [⟨⟨.processAuthentication,hidden.generation⟩,.service (.awaiting verdict),.asleep due⟩]
  | .signedIn _ => interval.toList.map fun span => ⟨⟨.authenticated,hidden.generation⟩,.timer span,hidden.phase⟩
  | _ => []

def Stage.core (interval : Option Nat) (hidden : Hidden) (stage : Stage) : Core machine where
  status := stage.view.status
  state := stage.view.state
  context := stage.view.context
  generation := hidden.generation
  history := hidden.history
  clocked := stage.isStarted
  fault := none
  activities := stage.activities interval hidden

/-- The listeners at a stage: the observer, until the session has been stopped. -/
def Stage.registry : Stage → Registry Nat
  | .ended _ _ _ _ => ⟨1,[]⟩
  | _ => ⟨1,[(0,observer)]⟩

namespace Outline

def desk (setup : Setup) (hidden : Hidden) (outline : Outline) : Desk where
  backend :=
    ⟨.memory outline.stage.kept (setup.loads + outline.loads) hidden.saves (setup.clears + outline.clears) false,
      outline.authenticator⟩
  credentials := setup.credentials
  reactions := []
  heard := hidden.heard

/-- The site of a session with an outline. -/
def site (setup : Setup) (hidden : Hidden) (outline : Outline) : Site machine Desk :=
  .alone (outline.desk setup hidden) outline.now
    (.resting setup.chart setup.interpreter (outline.stage.core setup.interval hidden) outline.stage.registry)

end Outline

/-- The observer of a session has heard what an outline tells, most of it before it was asked last. -/
structure Tells (earlier : List Heard) (hidden : Hidden) (outline : Outline) : Prop where
  heard : (earlier ++ hidden.heard).foldl retell [] = outline.told
  /-- While the session runs, it has told where it stands. -/
  current : outline.stage.view.status = .running → outline.told.getLast? = some outline.stage.view

/-- A site shows an outline. -/
def Shows (setup : Setup) (earlier : List Heard) (site : Site machine Desk) (outline : Outline) : Prop :=
  ∃ hidden, site = outline.site setup hidden ∧ Tells earlier hidden outline

/-! ## The callbacks -/

/-- What a callback answers, and the desk after it. -/
def answerAt (query : Query machine) (desk : Desk) : query.Answer × Desk :=
  ((answer query desk.backend).1,{ desk with backend := (answer query desk.backend).2 })

/-- The desk once its observer has heard of a snapshot. -/
def hearAt (_ : Nat) (view : View) (desk : Desk) : Desk := { desk with heard := desk.heard ++ [.view view] }

/-- Without reactions nobody calls back. -/
theorem quiet : host.Quiet (fun desk => desk.reactions = []) answerAt hearAt where
  answer := fun clocked query site peace => .ask .read (.ask .read (.ask .write .done))
  notify := by
    intro clocked listener view site peace
    obtain ⟨⟨backend,credentials,reactions,heard⟩,now,interpreters,current,next⟩ := site
    subst peace
    exact .ask .read (.ask .write (.ask .read .done))
  calm_answers := fun _ _ peace => peace
  calm_hears := fun _ _ _ peace => peace

/-! ## Macrosteps over a memory store that can be written -/

section

variable {settings : Settings} {account : Account} {kept : Option Identity} {loads saves clears : Nat}
  {authenticator : Authenticator} {credentials : Credentials} {reactions : List Reaction} {heard : List Heard}

theorem maxMicrosteps_ne_zero (valid : settings.problem? = none) : settings.interpreter.maxMicrosteps ≠ 0 := by
  intro zero
  simp only [Settings.problem?,zero,if_true] at valid
  split at valid
  · cases valid
  · split at valid <;> cases valid

theorem interval_pos (valid : settings.problem? = none) {span : Nat} (renews : settings.interval = some span) :
    0 < span := by
  obtain ⟨milliseconds,given,rfl⟩ := Option.map_eq_some_iff.mp renews
  refine Nat.pos_of_ne_zero fun zero => ?_
  have never : milliseconds = 0 := UInt64.toNat_inj.mp zero
  subst never
  simp only [Settings.problem?,given,if_true] at valid
  split at valid <;> cases valid

/-- The number of saves after an entry into the authenticated state. -/
def saved (user : Option Identity) (saves : Nat) : Nat := if user.isSome then saves + 1 else saves

theorem run_begin (valid : settings.problem? = none) :
    (settings.chart.begin settings.interpreter.maxMicrosteps).run.run answerAt
      ⟨⟨.memory kept loads saves clears false,authenticator⟩,credentials,reactions,heard⟩ =
        (.ok (arrival settings.interval .init alwaysTrigger none (Stage.restored kept).view.state
            (Account.restored kept) none),
          ⟨⟨.memory kept (loads + 1) (saved kept saves) clears false,authenticator⟩,credentials,reactions,heard⟩) := by
  rw [Settings.chart,begin_eq]
  simp only [passing,if_neg (maxMicrosteps_ne_zero valid)]
  cases kept <;> rfl

theorem run_login (given : Credentials) (desk : Desk) :
    (settings.react .unauthenticated account (.signal (.login given))).run answerAt desk =
      (.ok (arrival settings.interval .unauthenticated "Login" none .processAuthentication
        { account with isLoading := true } (some (.fresh given))),desk) := by
  rw [Settings.react,Settings.chart,react_login]
  rfl

theorem run_done (origin : Origin machine) (user : Identity) :
    (settings.react .processAuthentication account (.done origin user)).run answerAt
      ⟨⟨.memory kept loads saves clears false,authenticator⟩,credentials,reactions,heard⟩ =
        (.ok (arrival settings.interval .processAuthentication "done" none .authenticated
            (account.signedIn (some user)) none),
          ⟨⟨.memory (some user) loads (saves + 1) clears false,authenticator⟩,credentials,reactions,heard⟩) := by
  rw [Settings.react,Settings.chart,react_done]
  rfl

theorem run_failed (origin : Origin machine) (rejection : Rejection) (desk : Desk) :
    (settings.react .processAuthentication account (.failed origin rejection)).run answerAt desk =
      (.ok (arrival settings.interval .processAuthentication "error" none .unauthenticated (account.rejected rejection)
        none),desk) := by
  rw [Settings.react,Settings.chart,react_failed]
  cases rejection <;> rfl

theorem run_logout (valid : settings.problem? = none) :
    (settings.react .authenticated account (.signal .logout)).run answerAt
      ⟨⟨.memory kept loads saves clears false,authenticator⟩,credentials,reactions,heard⟩ =
        (.ok (arrival settings.interval .authenticated "Logout" (some .processUnAuthentication) .unauthenticated
            { account with standing := .unauthenticated, user := none } none),
          ⟨⟨.memory none loads saves (clears + 1) false,authenticator⟩,credentials,reactions,heard⟩) := by
  rw [Settings.react,Settings.chart,react_logout]
  simp only [passing,if_neg (maxMicrosteps_ne_zero valid)]
  rfl

/-- A renewal saves the user once more, and nothing else. -/
theorem run_elapsed (valid : settings.problem? = none) {span : Nat} (renews : settings.interval = some span)
    (origin : Origin machine) :
    (settings.react .authenticated account (.elapsed origin)).run answerAt
      ⟨⟨.memory account.user loads saves clears false,authenticator⟩,credentials,reactions,heard⟩ =
        (.ok (arrival settings.interval .authenticated "after" (some .processRenewToken) .authenticated account none),
          ⟨⟨.memory account.user loads (saved account.user saves) clears false,authenticator⟩,credentials,reactions,
            heard⟩) := by
  rw [Settings.react,Settings.chart,renews,react_elapsed]
  simp only [passing,if_neg (maxMicrosteps_ne_zero valid)]
  obtain ⟨standing,isLoading,user,error⟩ := account
  cases user <;> rfl

end

/-! ## Orders -/

section

variable {setup : Setup} {earlier : List Heard} {site : Site machine Desk} {outline : Outline}

@[simp] theorem getLast?_retell (told : List View) (view : View) : (retell told (.view view)).getLast? = some view := by
  rw [retell]
  split <;> simp [*]

/-- Whoever comes to a stage tells of it. -/
theorem Tells.become {hidden hidden' : Hidden} (tells : Tells earlier hidden outline) (stage : Stage)
    (heard : hidden'.heard = hidden.heard ++ [.view stage.view]) {next : Outline} (same : next.told = outline.told) :
    Tells earlier hidden' (next.become stage) := by
  refine ⟨?_,fun _ => getLast?_retell _ _⟩
  rw [heard,← List.append_assoc,List.foldl_append,tells.heard,← same]
  rfl

/-- Whoever tells again where it stands has told nothing new. -/
theorem Tells.again {hidden hidden' : Hidden} (tells : Tells earlier hidden outline)
    (running : outline.stage.view.status = .running)
    (heard : hidden'.heard = hidden.heard ++ [.view outline.stage.view]) : Tells earlier hidden' outline := by
  refine ⟨?_,tells.current⟩
  rw [heard,← List.append_assoc,List.foldl_append,tells.heard]
  exact if_pos (tells.current running)

/-- An event on which a session takes a transition. -/
theorem posts (setup : Setup) (hidden : Hidden) (outline : Outline) {event : Event machine}
    {step : Statechart.Step machine} {later : Desk} (running : outline.stage.view.status = .running)
    (accepted : (outline.stage.core setup.interval hidden).accepts event = true)
    (computed : (setup.react outline.stage.view.state outline.stage.view.context event).run answerAt
      (outline.desk setup hidden) = (.ok step,later))
    (taken : step.taken = true) :
    Site.Places host true (.post event) 0 (outline.site setup hidden) (.posted (.ok ()))
      (.alone
        (everyoneHears hearAt ((outline.stage.core setup.interval hidden).commit step).snapshot
          outline.stage.registry.entries later)
        outline.now
        (.resting setup.chart setup.interpreter ((outline.stage.core setup.interval hidden).commit step)
          outline.stage.registry)) :=
  quiet.reacts rfl running accepted computed taken

/-- An event to which a session does not react. -/
theorem ignores (setup : Setup) (hidden : Hidden) (outline : Outline) {event : Event machine}
    (running : outline.stage.view.status = .running)
    (accepted : (outline.stage.core setup.interval hidden).accepts event = true)
    (ignored : setup.react outline.stage.view.state outline.stage.view.context event =
      .done (.ok (.unchanged outline.stage.view.state outline.stage.view.context))) :
    Site.Places host true (.post event) 0 (outline.site setup hidden) (.posted (.ok ())) (outline.site setup hidden) := by
  have computed := congrArg (Dialogue.run answerAt · (outline.desk setup hidden)) ignored
  exact quiet.idles rfl running accepted computed rfl

/-- The start of a session that has not been started. -/
theorem starts (valid : setup.problem? = none) (hidden : Hidden) (kept : Option Identity)
    (authenticator : Authenticator) (now loads clears : Nat) (told : List View) :
    ∃ hidden',
      Site.Places host true (.start true) 0
        (Outline.site setup hidden ⟨.unstarted kept,authenticator,now,loads,clears,told⟩)
        (.started (.ok (Stage.restored kept).view))
        (Outline.site setup hidden' ⟨.restored kept,authenticator,now,loads + 1,clears,told⟩) ∧
      hidden'.heard = hidden.heard ++ [.view (Stage.restored kept).view] := by
  have placed : Site.Places host true (.start true) 0
      (Outline.site setup hidden ⟨.unstarted kept,authenticator,now,loads,clears,told⟩) _ _ :=
    quiet.begins rfl rfl (run_begin valid) rfl
  cases kept with
  | none => exact ⟨⟨_,_,_,.queued,_⟩,placed,rfl⟩
  | some user => exact ⟨⟨_,_,_,.queued,_⟩,placed,rfl⟩

/-- The stop of a session that has not been stopped. -/
theorem stops (hidden : Hidden) (outline : Outline) (before : outline.stage.view.status ≠ .stopped) :
    Site.Places host true .stop 0 (outline.site setup hidden) .stopped
      (Outline.site setup { hidden with heard := hidden.heard ++ [.view outline.stage.stopped.view] }
        { outline with stage := outline.stage.stopped }) := by
  obtain ⟨stage,authenticator,now,loads,clears,told⟩ := outline
  cases stage with
  | ended _ _ _ _ => exact absurd rfl before
  | _ => exact quiet.stops rfl nofun nofun

/-- An order leads to what shows the next outline, and to the answer that the outline gives. -/
theorem shows_obey (valid : setup.problem? = none) (shows : Shows setup earlier site outline) (order : Order) :
    ∃ reply after, Site.Places host true (order.call setup.credentials) 0 site reply after ∧
      .ofReply (some reply) = (outline.obey setup.credentials order).1 ∧
      Shows setup earlier after (outline.obey setup.credentials order).2 := by
  obtain ⟨hidden,rfl,tells⟩ := shows
  obtain ⟨stage,authenticator,now,loads,clears,told⟩ := outline
  cases order with
  | start =>
    cases stage with
    | unstarted kept =>
      obtain ⟨hidden',placed,heard⟩ := starts valid hidden kept authenticator now loads clears told
      exact ⟨_,_,placed,rfl,hidden',rfl,tells.become _ heard rfl⟩
    | _ => exact ⟨_,_,.alone_at_once rfl,rfl,hidden,rfl,tells⟩
  | login given =>
    cases stage with
    | unstarted kept => exact ⟨_,_,.alone_at_once rfl,rfl,hidden,rfl,tells⟩
    | signedOut account =>
      have placed := posts setup hidden ⟨.signedOut account,authenticator,now,loads,clears,told⟩ rfl rfl
        (run_login (given.getD setup.credentials) _) rfl
      exact ⟨_,_,placed,rfl,⟨_,_,_,.queued,_⟩,rfl,tells.become _ rfl rfl⟩
    | ended _ _ _ _ => exact ⟨_,_,.alone_at_once rfl,rfl,hidden,rfl,tells⟩
    | _ => exact ⟨_,_,ignores setup hidden _ rfl rfl rfl,rfl,hidden,rfl,tells⟩
  | logout =>
    cases stage with
    | unstarted kept => exact ⟨_,_,.alone_at_once rfl,rfl,hidden,rfl,tells⟩
    | signedIn account =>
      have placed := posts setup hidden ⟨.signedIn account,authenticator,now,loads,clears,told⟩ rfl rfl
        (run_logout valid) rfl
      exact ⟨_,_,placed,rfl,⟨_,_,_,.queued,_⟩,rfl,tells.become _ rfl rfl⟩
    | ended _ _ _ _ => exact ⟨_,_,.alone_at_once rfl,rfl,hidden,rfl,tells⟩
    | _ => exact ⟨_,_,ignores setup hidden _ rfl rfl rfl,rfl,hidden,rfl,tells⟩
  | stop =>
    cases stage with
    | ended _ _ _ _ => exact ⟨_,_,.alone_at_once rfl,rfl,hidden,rfl,tells⟩
    | _ => exact ⟨_,_,stops hidden _ nofun,rfl,_,rfl,tells.become _ rfl rfl⟩

end

end Statechart.Login
