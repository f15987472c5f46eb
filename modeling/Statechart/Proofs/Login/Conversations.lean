import Statechart.Login.Session
import Statechart.Proofs.Promises

/-!
# Conversations: the macrosteps of the login chart, question by question

The login chart is built without a problem (`graph_eq`), and each of its macrosteps is a short script:
which callbacks it comes to, one after another, and what it ends with, depending on their answers. To
all other events the chart does not react (`reacts_or_idles`).
-/
namespace Statechart.Login

/-! ## The graph -/

def restoreAuthentication : Action machine := ⟨"restoreAuthentication",.load,.restore⟩

def setIsLoading : Action machine := assign "setIsLoading" .setLoading

def setAuthentication : Action machine := assign "setAuthentication" .setAuthentication

def handleIsAuthenticated : Action machine := effect "handleIsAuthenticated" .note

def setError : Action machine := assign "setError" .setError

def handleError : Action machine := effect "handleError" .note

def resetLoading : Action machine := assign "resetLoading" .resetLoading

def persistIdentity : Action machine := effect "persistIdentity" .persist

def renewToken : Action machine := effect "renewToken" .note

def clearAuthentication : Action machine := assign "clearAuthentication" .clearAuthentication

def deleteAuthentication : Action machine := effect "deleteAuthentication" .delete

/-- The graph of the chart, node by node. -/
def chart (id : String) (renewInterval : Option Nat) : Graph machine where
  id := id
  initial := .init
  context := {}
  nodes := [
    { Node.empty (M := machine) .init with
      entry := [restoreAuthentication]
      always := [edge .authenticated [] (some .hasUser),edge .unauthenticated [] none] },
    { Node.empty (M := machine) .unauthenticated with
      on := [(.login,[edge .processAuthentication [] none])] },
    { Node.empty (M := machine) .processAuthentication with
      entry := [setIsLoading]
      service := some authenticate },
    { Node.empty (M := machine) .authenticated with
      entry := [persistIdentity]
      on := [(.logout,[edge .processUnAuthentication [] none])]
      delay := renewInterval.map fun interval => ⟨interval,[edge .processRenewToken [] none]⟩ },
    { Node.empty (M := machine) .processRenewToken with
      entry := [renewToken]
      always := [edge .authenticated [] none] },
    { Node.empty (M := machine) .processUnAuthentication with
      entry := [clearAuthentication,deleteAuthentication]
      always := [edge .unauthenticated [] none] }]

theorem graph_eq (id : String) (renewInterval : Option Nat) : graph id renewInterval = .ok (chart id renewInterval) := by
  have nodes : collectNodes (declaration id renewInterval).states [] = ((chart id renewInterval).nodes,[]) := by
    cases renewInterval <;> rfl
  have targets : unknownTargets (chart id renewInterval).nodes = [] := by
    cases renewInterval <;> rfl
  have problems : (declaration id renewInterval).problems = [] := by
    simp only [Declaration.problems,nodes,targets,List.mergeSort_nil]
    rfl
  rw [graph,Declaration.build,problems,nodes]
  rfl

/-- Whoever has a graph of the chart has this one. -/
theorem eq_chart {id : String} {renewInterval : Option Nat} {built : Graph machine}
    (builds : graph id renewInterval = .ok built) : built = chart id renewInterval := by
  rw [graph_eq] at builds
  exact (Except.ok.inj builds).symm

/-! ## Its macrosteps -/

/-- What a session enters with a state: the attempt that is made there, or the delay until a renewal. -/
def entryOf (renewInterval : Option Nat) (attempt : Option Attempt) : State → Entry machine
  | .authenticated => ⟨attempt,renewInterval⟩
  | _ => ⟨attempt,none⟩

/-- The end of a macrostep that leads from one state to another, maybe by way of a third. -/
def arrival (renewInterval : Option Nat) (source : State) (trigger : String) (way : Option State) (target : State)
    (account : Account) (attempt : Option Attempt) : Statechart.Step machine where
  state := target
  context := account
  entry := some (entryOf renewInterval attempt target)
  records :=
    match way with
    | none => [⟨source,target,trigger,()⟩]
    | some between => [⟨source,between,trigger,()⟩,⟨between,target,alwaysTrigger,()⟩]
  taken := true

/-- What follows once an effect has answered on behalf of a state. -/
def afterEffect (state : State) (action : Action machine) (answer : Except ActionError Unit) (rest : Pending machine) :
    Pending machine :=
  match answer with
  | .ok () => rest
  | .error cause => .done (.error (.effectFailed state action.name cause))

/-- What follows in a state that is left again at once, provided that one eventless transition is allowed. -/
def passing (limit : UInt64) (state : State) (rest : Pending machine) : Pending machine :=
  if limit = 0 then .done (.error (.microstepLimit state limit)) else rest

/-- What follows on arrival in the authenticated state. -/
def persisting (account : Account) (event : Event machine) (step : Statechart.Step machine) : Pending machine :=
  .ask (.perform persistIdentity account event) fun saved =>
    afterEffect .authenticated persistIdentity saved (.done (.ok step))

/-- States that are not left without an event. -/
def State.IsStable : State → Prop
  | .unauthenticated => True
  | .processAuthentication => True
  | .authenticated => True
  | _ => False

section

variable (id : String) (renewInterval : Option Nat) (limit : UInt64) (account : Account)

/-- In such a state a macrostep has settled. -/
theorem settle_stable {step : Statechart.Step machine} (event : Event machine) (remaining : Nat) (stable : step.state.IsStable) :
    ((chart id renewInterval).settle limit event remaining step).run = .done (.ok step) := by
  obtain ⟨state,context,entry,records,taken⟩ := step
  cases state with
  | unauthenticated => cases remaining <;> rfl
  | processAuthentication => cases remaining <;> rfl
  | authenticated => cases remaining <;> rfl
  | _ => cases stable

theorem toNat_eq_zero_iff {limit : UInt64} : limit.toNat = 0 ↔ limit = 0 := by
  rw [← UInt64.toNat_inj]
  rfl

/-- Where an eventless transition may be taken, it is taken if any is allowed. -/
theorem settle_eq (event : Event machine) (step : Statechart.Step machine) :
    ((chart id renewInterval).settle limit event limit.toNat step).run =
      (chart id renewInterval).selectAlways step event >>= fun
        | none => .done (.ok step)
        | some transition => passing limit step.state ((chart id renewInterval).take step transition event alwaysTrigger >>=
            (chart id renewInterval).settle limit event (limit.toNat - 1)).run := by
  cases allowed : limit.toNat with
  | zero =>
    have none : limit = 0 := toNat_eq_zero_iff.mp allowed
    simp only [Graph.settle,ExceptT.run_bind_lift,passing,if_pos none]
    refine congrArg (_ >>= ·) (funext fun chosen => ?_)
    cases chosen <;> rfl
  | succ remaining =>
    have some : limit ≠ 0 := fun none => by rw [toNat_eq_zero_iff.mpr none] at allowed; cases allowed
    simp only [Graph.settle,ExceptT.run_bind_lift,passing,if_neg some]
    refine congrArg (_ >>= ·) (funext fun chosen => ?_)
    cases chosen <;> rfl

theorem ask_congr {Q : Type} {A : Q → Type} {α : Type} {question : Q} {next next' : A question → Dialogue Q A α}
    (same : ∀ given, next given = next' given) : Dialogue.ask question next = .ask question next' :=
  congrArg (Dialogue.ask question) (funext same)

theorem react_login (credentials : Credentials) :
    ((chart id renewInterval).react limit .unauthenticated account (.signal (.login credentials))).run =
      .ask (.perform setIsLoading account (.signal (.login credentials))) fun (loading : Account) =>
        .ask (.create () loading (.signal (.login credentials))) fun (attempt : Attempt) =>
          .done (.ok (arrival renewInterval .unauthenticated "Login" none .processAuthentication loading (some attempt))) := by
  refine ask_congr fun loading => ask_congr fun attempt => ?_
  exact settle_stable _ _ _ _ _ (by trivial)

theorem react_done (origin : Origin machine) (user : Identity) :
    ((chart id renewInterval).react limit .processAuthentication account (.done origin user)).run =
      .ask (.perform setAuthentication account (.done origin user)) fun (signedIn : Account) =>
        .ask (.perform handleIsAuthenticated signedIn (.done origin user)) fun noted =>
          afterEffect .processAuthentication handleIsAuthenticated noted
            (persisting signedIn (.done origin user)
              (arrival renewInterval .processAuthentication "done" none .authenticated signedIn none)) := by
  refine ask_congr fun signedIn => ask_congr fun noted => ?_
  rcases noted with cause | ⟨⟩
  · rfl
  · refine ask_congr fun saved => ?_
    rcases saved with cause | ⟨⟩
    · rfl
    · cases renewInterval <;> exact settle_stable _ _ _ _ _ (by trivial)

theorem react_failed (origin : Origin machine) (rejection : Rejection) :
    ((chart id renewInterval).react limit .processAuthentication account (.failed origin rejection)).run =
      .ask (.check .mfaRequired account (.failed origin rejection)) fun (required : Bool) =>
        if required then
          .ask (.perform setError account (.failed origin rejection)) fun (rejected : Account) =>
            .done (.ok (arrival renewInterval .processAuthentication "error" none .unauthenticated rejected none))
        else
          .ask (.perform handleError account (.failed origin rejection)) fun noted =>
            afterEffect .processAuthentication handleError noted
              (.ask (.perform resetLoading account (.failed origin rejection)) fun (rejected : Account) =>
                .done (.ok (arrival renewInterval .processAuthentication "error" none .unauthenticated rejected none))) := by
  refine ask_congr fun required => ?_
  cases required with
  | true =>
    refine ask_congr fun rejected => ?_
    exact settle_stable _ _ _ _ _ (by trivial)
  | false =>
    refine ask_congr fun noted => ?_
    rcases noted with cause | ⟨⟩
    · rfl
    · refine ask_congr fun rejected => ?_
      exact settle_stable _ _ _ _ _ (by trivial)

theorem react_logout :
    ((chart id renewInterval).react limit .authenticated account (.signal .logout)).run =
      .ask (.perform clearAuthentication account (.signal .logout)) fun (cleared : Account) =>
        .ask (.perform deleteAuthentication cleared (.signal .logout)) fun deleted =>
          afterEffect .processUnAuthentication deleteAuthentication deleted
            (passing limit .processUnAuthentication
              (.done (.ok (arrival renewInterval .authenticated "Logout" (some .processUnAuthentication) .unauthenticated
                cleared none)))) := by
  refine ask_congr fun cleared => ask_congr fun deleted => ?_
  rcases deleted with cause | ⟨⟩
  · rfl
  · refine (settle_eq _ _ _ _ _).trans ?_
    exact congrArg (passing limit .processUnAuthentication) (settle_stable _ _ _ _ _ (by trivial))

theorem react_elapsed (interval : Nat) (origin : Origin machine) :
    ((chart id (some interval)).react limit .authenticated account (.elapsed origin)).run =
      .ask (.perform renewToken account (.elapsed origin)) fun noted =>
        afterEffect .processRenewToken renewToken noted
          (passing limit .processRenewToken
            (persisting account (.elapsed origin)
              (arrival (some interval) .authenticated "after" (some .processRenewToken) .authenticated account none))) := by
  refine ask_congr fun noted => ?_
  rcases noted with cause | ⟨⟩
  · rfl
  · refine (settle_eq _ _ _ _ _).trans ?_
    refine congrArg (passing limit .processRenewToken) (ask_congr fun saved => ?_)
    rcases saved with cause | ⟨⟩
    · rfl
    · exact settle_stable _ _ _ _ _ (by trivial)

theorem begin_eq :
    ((chart id renewInterval).begin limit).run =
      .ask (.perform restoreAuthentication {} .init) fun loaded =>
        match (loaded : Except ActionError Account) with
        | .error cause => .done (.error (.effectFailed .init "restoreAuthentication" cause))
        | .ok restored =>
          .ask (.check .hasUser restored .init) fun (known : Bool) =>
            passing limit .init
              (if known then
                persisting restored .init
                  (arrival renewInterval .init alwaysTrigger none .authenticated restored none)
              else
                .done (.ok (arrival renewInterval .init alwaysTrigger none .unauthenticated restored none))) := by
  refine ask_congr fun loaded => ?_
  rcases loaded with cause | restored
  · rfl
  · refine (settle_eq _ _ _ _ _).trans (ask_congr fun known => ?_)
    cases known with
    | true =>
      refine congrArg (passing limit .init) (ask_congr fun saved => ?_)
      rcases saved with cause | ⟨⟩
      · rfl
      · cases renewInterval <;> exact settle_stable _ _ _ _ _ (by trivial)
    | false => exact congrArg (passing limit .init) (settle_stable _ _ _ _ _ (by trivial))

end

/-- The events that the chart reacts to, state by state. -/
inductive Provokes (renewInterval : Option Nat) : State → Event machine → Prop where
  | login (credentials : Credentials) : Provokes renewInterval .unauthenticated (.signal (.login credentials))
  | done (origin : Origin machine) (user : Identity) : Provokes renewInterval .processAuthentication (.done origin user)
  | failed (origin : Origin machine) (rejection : Rejection) :
      Provokes renewInterval .processAuthentication (.failed origin rejection)
  | logout : Provokes renewInterval .authenticated (.signal .logout)
  | elapsed (interval : Nat) (origin : Origin machine) (renews : renewInterval = some interval) :
      Provokes renewInterval .authenticated (.elapsed origin)

theorem provokes_or_idles (id : String) (renewInterval : Option Nat) (limit : UInt64) (state : State) (account : Account)
    (event : Event machine) :
    Provokes renewInterval state event ∨
      ((chart id renewInterval).react limit state account event).run = .done (.ok (.unchanged state account)) := by
  cases state with
  | unauthenticated =>
    match event with
    | .signal (.login credentials) => exact .inl (.login credentials)
    | .signal .logout => exact .inr rfl
    | .init => exact .inr rfl
    | .done _ _ => exact .inr rfl
    | .failed _ _ => exact .inr rfl
    | .elapsed _ => exact .inr rfl
  | processAuthentication =>
    match event with
    | .done origin user => exact .inl (.done origin user)
    | .failed origin rejection => exact .inl (.failed origin rejection)
    | .signal (.login _) => exact .inr rfl
    | .signal .logout => exact .inr rfl
    | .init => exact .inr rfl
    | .elapsed _ => exact .inr rfl
  | authenticated =>
    match event with
    | .signal .logout => exact .inl .logout
    | .elapsed origin =>
      cases renewInterval with
      | none => exact .inr rfl
      | some interval => exact .inl (.elapsed interval origin rfl)
    | .signal (.login _) => exact .inr rfl
    | .init => exact .inr rfl
    | .done _ _ => exact .inr rfl
    | .failed _ _ => exact .inr rfl
  | _ => match event with
    | .signal (.login _) => exact .inr rfl
    | .signal .logout => exact .inr rfl
    | .init => exact .inr rfl
    | .done _ _ => exact .inr rfl
    | .failed _ _ => exact .inr rfl
    | .elapsed _ => exact .inr rfl

/-! ## What callbacks may answer -/

/-- What the body of an action may answer, whatever the store. Anybody may be found there, and whatever
is written may be refused; bodies that do not write or read answer the same with every store. -/
def Work.MayAnswer : {role : Role} → Work role → Account → Event machine → role.Answer machine → Prop
  | _, .persist, account, _, given => account.user = none → given = .ok ()
  | _, .delete, _, _, _ => True
  | _, .restore, _, _, given => ∃ user, given = .ok (Account.restored user)
  | _, work, account, event, given => ∀ store, given = (work.perform account event store).1

/-- What a callback may answer, whatever the store. -/
def Credible : (query : Query machine) → query.Answer → Prop
  | .check guard account event, given => given = guard.passes account event
  | .perform action account event, given => action.work.MayAnswer account event given
  | .create _ _ event, given => given = attemptOf event

/-- So it does, with every store of its own. -/
theorem answer_credible (query : Query machine) (backend : Backend) : Credible query (answer query backend).1 := by
  cases query with
  | check guard account event => rfl
  | perform action account event =>
    obtain ⟨name,role,work⟩ := action
    cases work with
    | persist =>
      intro nobody
      simp only [answer,Work.perform]
      rw [nobody]
    | delete => trivial
    | restore => exact ⟨_,rfl⟩
    | _ => exact fun _ => rfl
  | create factory account event => rfl

/-- The host of a session answers what it may. -/
def IsCredible : Statechart.Deed machine → Prop
  | .answer query given => Credible query given
  | _ => True

/-- What a credible deed answers may be noted down behind what has been answered before. -/
theorem IsCredible.answered {deed : Statechart.Deed machine} (credible : IsCredible deed)
    (noted : List ((query : Query machine) × query.Answer)) :
    Dialogue.Answered (Noted Credible) noted (answers [deed]) (noted ++ answers [deed]) := by
  cases deed with
  | answer query given => exact .cons ⟨credible,rfl⟩ (.nil _)
  | _ => exact (List.append_nil noted).symm ▸ .nil noted

theorem credible_answered {deeds : List (Statechart.Deed machine)} (credible : ∀ deed ∈ deeds, IsCredible deed)
    (noted : List ((query : Query machine) × query.Answer)) :
    Dialogue.Answered (Noted Credible) noted (answers deeds) (noted ++ answers deeds) := by
  induction deeds generalizing noted with
  | nil => exact (List.append_nil noted).symm ▸ .nil noted
  | cons deed rest ih =>
    have first := (credible deed List.mem_cons_self).answered noted
    have later := ih (fun other member => credible other (List.mem_cons_of_mem _ member)) (noted ++ answers [deed])
    rw [List.append_assoc,← answers_append] at later
    have whole := first.append later
    rwa [← answers_append] at whole

/-- A run of a session, with all its moments, during which the callbacks answer what they may. -/
inductive Attended (graph : Graph machine) (options : Options) : List (Moment machine) → Gathering machine → Prop where
  | fresh : Attended graph options [] (.fresh graph options)
  | onward {trail : List (Moment machine)} {deed : Statechart.Deed machine} {here next : Gathering machine} :
      Attended graph options trail here → here.Moves deed next → IsCredible deed →
        Attended graph options (trail ++ [⟨here,deed⟩]) next

theorem Attended.run {graph : Graph machine} {options : Options} {trail : List (Moment machine)} {here : Gathering machine}
    (attended : Attended graph options trail here) : (Gathering.fresh graph options).Trail trail here := by
  induction attended with
  | fresh => exact .here
  | onward _ moves _ ih => exact ih.onward moves

/-- Somebody has logged in, and the outcome of the attempt has just been delivered. -/
def awaited : Gathering machine where
  self := {
    graph := chart "authentication" none
    options := {}
    core := {
      status := .running, state := .processAuthentication, context := { isLoading := true }, generation := ⟨2⟩
      history := ⟨[⟨.init,.unauthenticated,alwaysTrigger,()⟩,⟨.unauthenticated,.processAuthentication,"Login",()⟩],some 128⟩
      clocked := true, fault := none, activities := [] }
    mailbox := [.done ⟨.processAuthentication,⟨2⟩⟩ ⟨"me"⟩]
    draining := true
    registry := {}
    stack := [.draining .poster none] }
  waiting := []

theorem awaited_attended : ∃ trail, Attended (chart "authentication" none) {} trail awaited ∧ commits trail ≠ [] := by
  have made : Attended (chart "authentication" none) {} [] _ := .fresh
  have started := made.onward (.turn (.start true)) trivial
  have loaded := started.onward (.turn (.answer rfl (by exact Except.ok (Account.restored none)))) (by exact ⟨none,rfl⟩)
  have checked := loaded.onward (.turn (.answer rfl (by exact false))) (by rfl)
  have committed := checked.onward (.turn (.go rfl)) trivial
  have told := committed.onward (.turn (.go rfl)) trivial
  have idle := told.onward (.turn (.go rfl)) trivial
  have asked := idle.onward (.turn (.send (Command.login {}))) trivial
  have taken := asked.onward (.turn (.go rfl)) trivial
  have loading := taken.onward (.turn (.answer rfl (by exact ({ isLoading := true } : Account)))) (by exact fun _ => rfl)
  have begun := loading.onward (.turn (.answer rfl (by exact Attempt.fresh {}))) (by rfl)
  have waits := begun.onward (.turn (.go rfl)) trivial
  have heard := waits.onward (.turn (.go rfl)) trivial
  have rests := heard.onward (.turn (.go rfl)) trivial
  have delivered := rests.onward
    (.turn (@Turn.deliver machine _ 0 _ _ rfl (.service _ _ _ (.ok (Identity.mk "me"))))) trivial
  exact ⟨_,delivered,List.cons_ne_nil _ _⟩

end Statechart.Login
