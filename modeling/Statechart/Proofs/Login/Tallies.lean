import Statechart.Proofs.Histories
import Statechart.Proofs.Undisturbed
import Statechart.Proofs.Login.Accounts
import Statechart.Proofs.Login.Keeping

/-!
# Tallies: how often a memory store is written

The authenticated state is entered by way of a save, and the state of a logout by way of a clearing. A
macrostep that is abandoned has entered nothing, and the write that it was abandoned for has been refused.
So whenever no macrostep is in progress, a memory store that only one session writes has been written as
often as its history, if nothing has been forgotten there, says that these states were entered
(`writes_follow_entries`).
-/
namespace Statechart.Login

/-- How often a memory store has been written. -/
structure Tally where
  saves : Nat
  clears : Nat
  deriving DecidableEq, Repr

namespace Tally

instance : Zero Tally := ⟨⟨0,0⟩⟩

instance : Add Tally := ⟨fun tally more => ⟨tally.saves + more.saves,tally.clears + more.clears⟩⟩

/-- The writes that the states entered in given records account for. -/
def of (records : List (Record State Unit)) : Tally where
  saves := records.countP fun record => record.target = .authenticated
  clears := records.countP fun record => record.target = .processUnAuthentication

theorem of_append (records more : List (Record State Unit)) : of (records ++ more) = of records + of more :=
  congrArg₂ Tally.mk List.countP_append List.countP_append

end Tally

def Store.tally? : Store → Option Tally
  | .memory _ _ saves clears _ => some ⟨saves,clears⟩
  | .file _ _ => none

theorem Store.tally?_setUnavailable (store : Store) (unavailable : Bool) :
    (store.setUnavailable unavailable).tally? = store.tally? := by
  cases store <;> rfl

/-! ## What callbacks write -/

/-- The writes behind an answer. There is nothing to save without a user. -/
def Work.writes : {role : Role} → Work role → Account → role.Answer machine → Tally
  | _, .persist, ⟨_,_,some _,_⟩, .ok () => ⟨1,0⟩
  | _, .delete, _, .ok () => ⟨0,1⟩
  | _, _, _, _ => 0

def writesOf : (query : Query machine) → query.Answer → Tally
  | .perform action account _, given => action.work.writes account given
  | _, _ => 0

/-- What a callback may answer, and how often the store has been written afterwards. -/
def Tallied (query : Query machine) (now : Tally) (given : query.Answer) (later : Tally) : Prop :=
  Credible query given ∧ later = now + writesOf query given

/-- A memory store counts what is written to it. -/
theorem answer_tallied {store : Store} {now : Tally} (counted : store.tally? = some now) (query : Query machine)
    (authenticator : Authenticator) :
    ∃ later, (answer query ⟨store,authenticator⟩).2.store.tally? = some later ∧
      Tallied query now (answer query ⟨store,authenticator⟩).1 later := by
  refine ⟨_,?_,answer_credible query _,rfl⟩
  cases store with
  | file path slot => cases counted
  | memory user loads saves clears unavailable =>
    cases counted
    cases query with
    | check guard account event => rfl
    | create factory account event => rfl
    | perform action account event =>
      obtain ⟨name,role,work⟩ := action
      cases work with
      | persist =>
        obtain ⟨standing,isLoading,signedIn,error⟩ := account
        cases signedIn with
        | none => rfl
        | some signedIn => cases unavailable <;> rfl
      | delete => cases unavailable <;> rfl
      | _ => rfl

/-! ## What macrosteps write -/

/-- The writes are those that committed steps account for, and there are such steps only where eventless
transitions are allowed. -/
structure Recorded (limit : UInt64) (steps : List (Statechart.Step machine)) (tally : Tally) : Prop where
  allowed : steps ≠ [] → limit ≠ 0
  counted : tally = .of (steps.flatMap Step.records)

section

variable {id : String} {renewInterval : Option Nat} {limit : UInt64} {account : Account} {state : State}
  {event : Event machine} {steps : List (Statechart.Step machine)} {step : Statechart.Step machine} {now : Tally}

theorem Recorded.nothing : Recorded limit [] 0 := ⟨fun some => absurd rfl some,rfl⟩

/-- A step that has written what its records account for. -/
theorem Recorded.arrives (recorded : Recorded limit steps now) (allowed : limit ≠ 0) (taken : step.taken = true) :
    Statechart.Outcome (Recorded limit) steps (.ok step) (now + .of step.records) := by
  simp only [Statechart.Outcome,if_pos taken]
  refine ⟨fun _ => allowed,?_⟩
  rw [recorded.counted,List.flatMap_append,List.flatMap_singleton,Tally.of_append]

/-- In the authenticated state a user is saved, or the store stays as it was. -/
theorem persisting_recorded (recorded : Recorded limit steps now) (allowed : limit ≠ 0) (signedIn : account.user.isSome = true)
    (taken : step.taken = true) (once : Tally.of step.records = ⟨1,0⟩) :
    (persisting account event step).Ensures Tallied (Statechart.Outcome (Recorded limit) steps) now := by
  obtain ⟨standing,isLoading,_ | user,error⟩ := account
  · cases signedIn
  rintro saved _ ⟨_,rfl⟩
  cases saved with
  | error cause => exact recorded
  | ok =>
    have arrived := recorded.arrives allowed taken
    rw [once] at arrived
    exact arrived

theorem begin_recorded :
    ((chart id renewInterval).begin limit).run.Ensures Tallied (Statechart.Outcome (Recorded limit) []) 0 := by
  have recorded : Recorded limit [] 0 := .nothing
  rw [begin_eq]
  rintro loaded _ ⟨⟨user,found⟩,rfl⟩
  subst found
  rintro known _ ⟨passes,rfl⟩
  have passes : known = user.isSome := passes
  subst passes
  by_cases allowed : limit = 0
  · simp only [passing,if_pos allowed]
    exact recorded
  · simp only [passing,if_neg allowed]
    cases user with
    | some user => exact persisting_recorded recorded allowed rfl rfl rfl
    | none => exact recorded.arrives allowed rfl

theorem react_recorded (recorded : Recorded limit steps now) (allowed : limit ≠ 0) (fits : account.Fits state) :
    ((chart id renewInterval).react limit state account event).run.Ensures Tallied
      (Statechart.Outcome (Recorded limit) steps) now := by
  rcases provokes_or_idles id renewInterval limit state account event with provokes | idles
  · cases provokes with
    | login credentials =>
      rw [react_login]
      rintro loading _ ⟨_,rfl⟩ attempt _ ⟨_,rfl⟩
      exact recorded.arrives allowed rfl
    | done origin user =>
      rw [react_done]
      rintro signedIn _ ⟨answered,rfl⟩
      have same : signedIn = account.signedIn (some user) := answered (.holding none)
      subst same
      rintro noted _ ⟨_,rfl⟩
      cases noted with
      | error cause => exact recorded
      | ok => exact persisting_recorded recorded allowed rfl rfl rfl
    | failed origin rejection =>
      rw [react_failed]
      rintro required _ ⟨_,rfl⟩
      cases required with
      | true =>
        rintro rejected _ ⟨_,rfl⟩
        exact recorded.arrives allowed rfl
      | false =>
        rintro noted _ ⟨_,rfl⟩
        cases noted with
        | error cause => exact recorded
        | ok =>
          rintro rejected _ ⟨_,rfl⟩
          exact recorded.arrives allowed rfl
    | logout =>
      rw [react_logout]
      rintro cleared _ ⟨_,rfl⟩ deleted _ ⟨_,rfl⟩
      cases deleted with
      | error cause => exact recorded
      | ok =>
        simp only [afterEffect,passing,if_neg allowed]
        exact recorded.arrives allowed rfl
    | elapsed interval origin renews =>
      subst renews
      rw [react_elapsed]
      rintro noted _ ⟨_,rfl⟩
      cases noted with
      | error cause => exact recorded
      | ok =>
        simp only [afterEffect,passing,if_neg allowed]
        exact persisting_recorded recorded allowed (fits.user.mpr rfl) rfl rfl
  · rw [idles]
    exact recorded

end

/-! ## The invariant -/

variable {id : String} {renewInterval : Option Nat} {options : Options} {trail : List (Moment machine)}
  {here : Gathering machine} {first store : Store}

theorem Considerate.credible {here : Gathering machine} {deed : Statechart.Deed machine} (considerate : Considerate here deed) :
    IsCredible deed := by
  cases deed with
  | answer _ _ => cases considerate
  | _ => trivial

/-- Over whatever store, the callbacks answer what they may. -/
theorem Backed.attended {graph : Graph machine} (backed : Backed graph options first trail here store) :
    Attended graph options trail here := by
  induction backed with
  | fresh => exact .fresh
  | asks authenticator _ moves ih => exact ih.onward moves (answer_credible _ _)
  | acts _ moves considerate ih => exact ih.onward moves considerate.credible
  | switches _ _ ih => exact ih

/-- Every macrostep that begins writes what it will have recorded. -/
theorem Backed.begins_recorded (backed : Backed (chart id renewInterval) options first trail here store)
    {deed : Statechart.Deed machine} {frame : Frame machine} {now : Tally} (idle : here.macrosteps = [])
    (begins : here.self.Begins deed frame) (recorded : Recorded options.maxMicrosteps (commits trail) now) :
    frame.Ensures Tallied (Statechart.Outcome (Recorded options.maxMicrosteps) (commits trail)) now := by
  have sound := backed.run.reachable.sound
  have commenced := backed.run.commenced
  rintro pending left
  cases begins with
  | start _ unstarted =>
    rw [commenced.unstarted unstarted] at recorded ⊢
    cases left
    rw [sound.graph_eq,sound.options_eq,recorded.counted]
    exact begin_recorded
  | take _ _ running _ =>
    have committed := commenced.resting running idle
    cases left
    rw [sound.graph_eq,sound.options_eq]
    exact react_recorded recorded (recorded.allowed committed) (backed.attended.settled.account committed)

theorem Backed.onward_tallied (backed : Backed (chart id renewInterval) options first trail here store)
    {next : Gathering machine} {deed : Statechart.Deed machine} {now later : Tally} (moves : here.Moves deed next)
    (resting : Gathering.Resting Tallied (Recorded options.maxMicrosteps) trail here now)
    (answered : Dialogue.Answered Tallied now (answers [deed]) later) :
    Gathering.Resting Tallied (Recorded options.maxMicrosteps) (trail ++ [⟨here,deed⟩]) next later :=
  resting.onward backed.run.reachable.sound backed.calm moves answered fun _ idle begins recorded =>
    backed.begins_recorded idle begins recorded

/-- The store has been written as often as the committed steps account for, whenever no macrostep is in
progress. -/
theorem Backed.tallied (unwritten : first.tally? = some 0)
    (backed : Backed (chart id renewInterval) options first trail here store) :
    ∃ now, store.tally? = some now ∧ Gathering.Resting Tallied (Recorded options.maxMicrosteps) trail here now := by
  induction backed with
  | fresh =>
    refine ⟨0,unwritten,fun _ => .nothing,?_⟩
    intro _ member
    cases member
  | @asks trail here next store query authenticator backed moves ih =>
    obtain ⟨now,counted,resting⟩ := ih
    obtain ⟨later,after,tallied⟩ := answer_tallied counted query authenticator
    exact ⟨later,after,backed.onward_tallied moves resting (.cons tallied (.nil later))⟩
  | acts backed moves considerate ih =>
    obtain ⟨now,counted,resting⟩ := ih
    refine ⟨now,counted,backed.onward_tallied moves resting ?_⟩
    rw [considerate.silent]
    exact .nil now
  | @switches _ _ store unavailable _ ih =>
    rw [Store.tally?_setUnavailable]
    exact ih

/-- Whenever no macrostep is in progress in a session that alone writes a new memory store, the store has been
saved to as often as the authenticated state has been entered, and cleared as often as the state of a
logout, whatever was refused in the meantime. So says the history, if it is long enough for the whole run. -/
theorem writes_follow_entries {built : Graph machine} (builds : graph id renewInterval = .ok built)
    (unwritten : first.tally? = some 0) (backed : Backed built options first trail here store)
    (few : (walked trail).length ≤ options.historyLimit.toNat) (idle : here.macrosteps = []) :
    store.tally? = some ⟨here.self.core.history.entries .authenticated,
      here.self.core.history.entries .processUnAuthentication⟩ := by
  rw [eq_chart builds] at backed
  obtain ⟨now,counted,resting⟩ := backed.tallied unwritten
  have recorded := resting.resting idle
  rw [counted,recorded.counted,backed.run.entries few,backed.run.entries few]
  rfl

/-- Somebody has logged out in vain while the store was switched off, and once more after that. -/
theorem signed_out :
    ∃ trail here, Backed (chart "authentication" none) {} (.holding (some ⟨"me"⟩)) trail here (.memory none 1 1 1 false) ∧
      (walked trail).length ≤ (128 : UInt64).toNat ∧ here.macrosteps = [] := by
  have made : Backed (chart "authentication" none) {} (.holding (some ⟨"me"⟩)) [] _ _ := .fresh
  have started := made.acts (.turn (.start true)) trivial
  have loaded := started.asks .usual (.turn (.answer rfl _))
  have checked := loaded.asks .usual (.turn (.answer rfl _))
  have saved := checked.asks .usual (.turn (.answer rfl _))
  have committed := saved.acts (.turn (.go rfl)) trivial
  have told := committed.acts (.turn (.go rfl)) trivial
  have idle := told.acts (.turn (.go rfl)) trivial
  have off := idle.switches true
  have asked := off.acts (.turn (.send Command.logout)) trivial
  have taken := asked.acts (.turn (.go rfl)) trivial
  have cleared := taken.asks .usual (.turn (.answer rfl _))
  have refused := cleared.asks .usual (.turn (.answer rfl _))
  have abandoned := refused.acts (.turn (.go rfl)) trivial
  have spent := abandoned.acts (.turn (.go rfl)) trivial
  have on := spent.switches false
  have again := on.acts (.turn (.send Command.logout)) trivial
  have resumed := again.acts (.turn (.go rfl)) trivial
  have nobody := resumed.asks .usual (.turn (.answer rfl _))
  have deleted := nobody.asks .usual (.turn (.answer rfl _))
  have left := deleted.acts (.turn (.go rfl)) trivial
  exact ⟨_,_,left,by decide,rfl⟩

theorem signed_out_writes_follow_entries :
    ∃ trail here, Backed (chart "authentication" none) {} (.holding (some ⟨"me"⟩)) trail here (.memory none 1 1 1 false) ∧
      here.self.core.history.entries .authenticated = 1 ∧ here.self.core.history.entries .processUnAuthentication = 1 := by
  obtain ⟨trail,here,backed,few,idle⟩ := signed_out
  have follows := writes_follow_entries (graph_eq _ _) rfl backed few idle
  simp only [Store.tally?,Option.some.injEq,Tally.mk.injEq] at follows
  exact ⟨trail,here,backed,follows.1.symm,follows.2.symm⟩

end Statechart.Login
