import Statechart.Proofs.Login.Conversations
import Statechart.Proofs.Calm

/-!
# Keeping: the store and the account name the same user

A macrostep that writes the store either is committed or has written nothing. So whenever no macrostep
is in progress, a memory store that only one session writes keeps the user of its account
(`store_agrees`).
-/
namespace Statechart.Login

/-- A memory store that keeps a user, or nobody. -/
def Store.Keeps (store : Store) (user : Option Identity) : Prop :=
  ∃ loads saves clears unavailable, store = .memory user loads saves clears unavailable

theorem Store.Keeps.setUnavailable {store : Store} {user : Option Identity} (keeps : store.Keeps user)
    (unavailable : Bool) : (store.setUnavailable unavailable).Keeps user := by
  obtain ⟨loads,saves,clears,_,rfl⟩ := keeps
  exact ⟨loads,saves,clears,unavailable,rfl⟩

/-- A deed of anybody but the callbacks. Whoever stops the session awaits the end of a macrostep. -/
def Considerate (here : Gathering machine) : Statechart.Deed machine → Prop
  | .answer _ _ => False
  | .stop => here.macrosteps = []
  | _ => True

/-- A run of a session, with all its moments, over a store that only its callbacks write. A memory store
is switched off and on from time to time, and nobody stops the session in the middle of a macrostep. -/
inductive Backed (graph : Graph machine) (options : Options) (first : Store) :
    List (Moment machine) → Gathering machine → Store → Prop where
  | fresh : Backed graph options first [] (.fresh graph options) first
  | asks {trail : List (Moment machine)} {here next : Gathering machine} {store : Store} {query : Query machine}
      (authenticator : Authenticator) : Backed graph options first trail here store →
        here.Moves (.answer query (answer query ⟨store,authenticator⟩).1) next →
        Backed graph options first (trail ++ [⟨here,.answer query (answer query ⟨store,authenticator⟩).1⟩]) next
          (answer query ⟨store,authenticator⟩).2.store
  | acts {trail : List (Moment machine)} {here next : Gathering machine} {store : Store} {deed : Statechart.Deed machine} :
      Backed graph options first trail here store → here.Moves deed next → Considerate here deed →
        Backed graph options first (trail ++ [⟨here,deed⟩]) next store
  | switches {trail : List (Moment machine)} {here : Gathering machine} {store : Store} (unavailable : Bool) :
      Backed graph options first trail here store → Backed graph options first trail here (store.setUnavailable unavailable)

theorem Considerate.silent {here : Gathering machine} {deed : Statechart.Deed machine} (considerate : Considerate here deed) :
    answers [deed] = [] := by
  cases deed with
  | answer _ _ => cases considerate
  | _ => rfl

theorem Considerate.awaits {here : Gathering machine} {deed : Statechart.Deed machine} (considerate : Considerate here deed)
    (stops : deed = .stop) : here.macrosteps = [] := by
  subst stops
  exact considerate

theorem Backed.run {graph : Graph machine} {options : Options} {first store : Store} {trail : List (Moment machine)}
    {here : Gathering machine} (backed : Backed graph options first trail here store) :
    (Gathering.fresh graph options).Trail trail here := by
  induction backed with
  | fresh => exact .here
  | asks _ _ moves ih => exact ih.onward moves
  | acts _ moves _ ih => exact ih.onward moves
  | switches _ _ ih => exact ih

theorem Backed.calm {graph : Graph machine} {options : Options} {first store : Store} {trail : List (Moment machine)}
    {here : Gathering machine} (backed : Backed graph options first trail here store) : here.Calm graph options := by
  induction backed with
  | fresh => exact .fresh graph options
  | asks _ _ moves ih => exact ih.onward moves fun stops => by cases stops
  | acts _ moves considerate ih => exact ih.onward moves considerate.awaits
  | switches _ _ ih => exact ih

/-! ## What callbacks do to a memory store -/

/-- What a callback answers over a memory store that keeps a user, and whom it keeps afterwards. -/
def Served (query : Query machine) (kept : Option Identity) (given : query.Answer) (later : Option Identity) : Prop :=
  ∃ store authenticator, store.Keeps kept ∧ given = (answer query ⟨store,authenticator⟩).1 ∧
    (answer query ⟨store,authenticator⟩).2.store.Keeps later

theorem Store.Keeps.unique {store : Store} {user other : Option Identity} (keeps : store.Keeps user)
    (too : store.Keeps other) : user = other := by
  obtain ⟨_,_,_,_,rfl⟩ := keeps
  obtain ⟨_,_,_,_,same⟩ := too
  cases same
  rfl

/-- Whatever a callback does to it, it stays a memory store. -/
theorem Store.Keeps.answer {store : Store} {kept : Option Identity} (keeps : store.Keeps kept) (query : Query machine)
    (authenticator : Authenticator) : ∃ later, (answer query ⟨store,authenticator⟩).2.store.Keeps later := by
  obtain ⟨loads,saves,clears,unavailable,rfl⟩ := keeps
  cases query with
  | check guard account event => exact ⟨kept,_,_,_,_,rfl⟩
  | create factory account event => exact ⟨kept,_,_,_,_,rfl⟩
  | perform action account event =>
    obtain ⟨name,role,work⟩ := action
    cases work with
    | persist =>
      simp only [Login.answer,Work.perform]
      cases account.user with
      | none => exact ⟨kept,_,_,_,_,rfl⟩
      | some user => cases unavailable <;> exact ⟨_,_,_,_,_,rfl⟩
    | delete => cases unavailable <;> exact ⟨_,_,_,_,_,rfl⟩
    | restore => exact ⟨kept,_,_,_,_,rfl⟩
    | _ => exact ⟨kept,_,_,_,_,rfl⟩

section

variable {account : Account} {event : Event machine} {kept later : Option Identity}

theorem served_check {guard : Guard} {given : Bool} (served : Served (.check guard account event) kept given later) :
    given = guard.passes account event ∧ kept = later := by
  obtain ⟨store,_,keeps,same,after⟩ := served
  exact ⟨same,keeps.unique after⟩

theorem served_create {factory : Unit} {given : Attempt} (served : Served (.create factory account event) kept given later) :
    kept = later := by
  obtain ⟨store,_,keeps,_,after⟩ := served
  exact keeps.unique after

theorem served_assign {name : String} {work : Work .assign} {given : Account}
    (served : Served (.perform (assign name work) account event) kept given later) :
    given = (work.perform account event (.holding none)).1 ∧ kept = later := by
  obtain ⟨store,_,keeps,same,after⟩ := served
  cases work <;> exact ⟨same,keeps.unique after⟩

theorem served_note {name : String} {given : Except ActionError Unit}
    (served : Served (.perform (effect name .note) account event) kept given later) : given = .ok () ∧ kept = later := by
  obtain ⟨store,_,keeps,same,after⟩ := served
  exact ⟨same,keeps.unique after⟩

theorem served_restore {given : Except ActionError Account}
    (served : Served (.perform restoreAuthentication account event) kept given later) :
    given = .ok (Account.restored kept) ∧ kept = later := by
  obtain ⟨store,_,⟨loads,saves,clears,unavailable,rfl⟩,same,after⟩ := served
  exact ⟨same,Store.Keeps.unique ⟨loads + 1,saves,clears,unavailable,rfl⟩ after⟩

/-- A user is saved, or the store stays as it was. -/
theorem served_persist {given : Except ActionError Unit}
    (served : Served (.perform persistIdentity account event) kept given later) :
    given = .ok () ∧ later = (account.user <|> kept) ∨ (∃ cause, given = .error cause) ∧ kept = later := by
  obtain ⟨store,_,⟨loads,saves,clears,unavailable,rfl⟩,same,after⟩ := served
  simp only [answer,persistIdentity,effect,Work.perform] at same after
  cases found : account.user with
  | none =>
    rw [found] at same after
    exact .inl ⟨same,(Store.Keeps.unique ⟨loads,saves,clears,unavailable,rfl⟩ after).symm⟩
  | some user =>
    rw [found] at same after
    cases unavailable with
    | true => exact .inr ⟨⟨_,same⟩,Store.Keeps.unique ⟨loads,saves,clears,true,rfl⟩ after⟩
    | false => exact .inl ⟨same,(Store.Keeps.unique ⟨loads,saves + 1,clears,false,rfl⟩ after).symm⟩

/-- Nobody is kept any more, or the store stays as it was. -/
theorem served_delete {given : Except ActionError Unit}
    (served : Served (.perform deleteAuthentication account event) kept given later) :
    given = .ok () ∧ later = none ∨ (∃ cause, given = .error cause) ∧ kept = later := by
  obtain ⟨store,_,⟨loads,saves,clears,unavailable,rfl⟩,same,after⟩ := served
  cases unavailable with
  | true => exact .inr ⟨⟨_,same⟩,Store.Keeps.unique ⟨loads,saves,clears,true,rfl⟩ after⟩
  | false => exact .inl ⟨same,(Store.Keeps.unique ⟨loads,saves,clears + 1,false,rfl⟩ after).symm⟩

end

/-! ## What macrosteps do to it -/

/-- What is promised of the macrostep of a start: if it comes to a step, the user of the step is kept, and
eventless transitions are allowed. -/
def Opening (limit : UInt64) (result : Except Fault (Statechart.Step machine)) (kept : Option Identity) : Prop :=
  ∀ step, result = .ok step → limit ≠ 0 ∧ kept = step.context.user

/-- What is promised of the macrostep of an event, given whom the account named before: the user of the
step that it comes to is kept, and if that takes nothing or fails, nothing has been written. -/
def Reacting (before : Option Identity) (result : Except Fault (Statechart.Step machine)) (kept : Option Identity) : Prop :=
  match result with
  | .ok step => kept = if step.taken then step.context.user else before
  | .error _ => kept = before

section

variable {id : String} {renewInterval : Option Nat} {limit : UInt64} {account : Account} {state : State}
  {event : Event machine} {kept : Option Identity}

theorem begin_opening : ((chart id renewInterval).begin limit).run.Ensures Served (Opening limit) kept := by
  have failing : ∀ {failure : Fault} {kept : Option Identity}, Opening limit (.error failure) kept := by
    intro _ _ _ same
    cases same
  rw [begin_eq]
  intro loaded _ served
  obtain ⟨rfl,rfl⟩ := served_restore served
  intro known _ served
  obtain ⟨rfl,rfl⟩ := served_check served
  by_cases allowed : limit = 0
  · simp only [passing,if_pos allowed]
    exact failing
  · simp only [passing,if_neg allowed]
    cases kept with
    | none =>
      rintro step same
      cases same
      exact ⟨allowed,rfl⟩
    | some user =>
      intro saved _ served
      rcases served_persist served with ⟨rfl,rfl⟩ | ⟨⟨cause,rfl⟩,rfl⟩
      · rintro step same
        cases same
        exact ⟨allowed,rfl⟩
      · exact failing

theorem react_reacting (allowed : limit ≠ 0) :
    ((chart id renewInterval).react limit state account event).run.Ensures Served (Reacting account.user) account.user := by
  rcases provokes_or_idles id renewInterval limit state account event with provokes | idles
  · cases provokes with
    | login credentials =>
      rw [react_login]
      intro loading _ served
      obtain ⟨rfl,rfl⟩ := served_assign served
      intro attempt _ served
      cases served_create served
      rfl
    | done origin user =>
      rw [react_done]
      intro signedIn _ served
      obtain ⟨rfl,rfl⟩ := served_assign served
      intro noted _ served
      obtain ⟨rfl,rfl⟩ := served_note served
      intro saved _ served
      rcases served_persist served with ⟨rfl,rfl⟩ | ⟨⟨cause,rfl⟩,rfl⟩
      · rfl
      · rfl
    | failed origin rejection =>
      rw [react_failed]
      intro required _ served
      obtain ⟨_,rfl⟩ := served_check served
      cases required with
      | true =>
        intro rejected _ served
        obtain ⟨rfl,rfl⟩ := served_assign served
        rfl
      | false =>
        intro noted _ served
        obtain ⟨rfl,rfl⟩ := served_note served
        intro rejected _ served
        obtain ⟨rfl,rfl⟩ := served_assign served
        rfl
    | logout =>
      rw [react_logout]
      intro cleared _ served
      obtain ⟨rfl,rfl⟩ := served_assign served
      intro deleted _ served
      rcases served_delete served with ⟨rfl,rfl⟩ | ⟨⟨cause,rfl⟩,rfl⟩
      · simp only [afterEffect,passing,if_neg allowed]
        rfl
      · rfl
    | elapsed interval origin renews =>
      subst renews
      rw [react_elapsed]
      intro noted _ served
      obtain ⟨rfl,rfl⟩ := served_note served
      simp only [afterEffect,passing,if_neg allowed]
      intro saved _ served
      rcases served_persist served with ⟨rfl,rfl⟩ | ⟨⟨cause,rfl⟩,rfl⟩
      · show (account.user <|> account.user) = account.user
        cases account.user <;> rfl
      · rfl
  · rw [idles]
    rfl

end

/-! ## The invariant -/

variable {id : String} {renewInterval : Option Nat} {options : Options} {trail : List (Moment machine)}
  {here next : Gathering machine} {deed : Statechart.Deed machine} {first store : Store} {kept later : Option Identity}

/-- What is left of a macrostep keeps what is promised of it, given whom the account names. -/
def Promises (limit : UInt64) (user kept : Option Identity) : Frame machine → Prop
  | .starting pending => Dialogue.Ensures Served (Opening limit) pending kept
  | .reacting _ _ _ pending => Dialogue.Ensures Served (Reacting user) pending kept
  | _ => True

theorem Promises.advances {limit : UInt64} {user : Option Identity} {frame after : Frame machine}
    {given : List ((query : Query machine) × query.Answer)} (promises : Promises limit user kept frame)
    (advances : frame.Advances given after) (answered : Dialogue.Answered Served kept given later) :
    Promises limit user later after := by
  cases advances with
  | starting leads => exact Dialogue.Ensures.leads promises leads answered
  | reacting leads => exact Dialogue.Ensures.leads promises leads answered

/-- The user of a step that was taken is kept, and a start comes to one only where eventless transitions
are allowed. -/
theorem Promises.result {limit : UInt64} {user : Option Identity} {frame : Frame machine} {step : Statechart.Step machine}
    (promises : Promises limit user kept frame) (result : frame.result? = some step) (taken : step.taken = true) :
    kept = step.context.user ∧
      (limit ≠ 0 ∨ ∃ drainer firstError event pending, frame = .reacting drainer firstError event pending) := by
  rcases Frame.result?_cases result with rfl | ⟨_,_,_,rfl⟩
  · obtain ⟨allowed,same⟩ := promises step rfl
    exact ⟨same,.inl allowed⟩
  · have same : kept = if step.taken then step.context.user else user := promises
    rw [if_pos taken] at same
    exact ⟨same,.inr ⟨_,_,_,_,rfl⟩⟩

/-- What holds at each moment of an undisturbed session over a store that only it writes. -/
structure Agreeing (options : Options) (trail : List (Moment machine)) (here : Gathering machine)
    (kept : Option Identity) : Prop where
  allowed : commits trail ≠ [] → options.maxMicrosteps ≠ 0
  resting : commits trail ≠ [] → here.macrosteps = [] → kept = here.self.core.context.user
  stepping : ∀ frame ∈ here.macrosteps, Promises options.maxMicrosteps here.self.core.context.user kept frame

/-- A reaction is computed only after something has been committed. -/
theorem begun_of_reacting (calm : here.Calm (chart id renewInterval) options) (commenced : Gathering.Commenced trail here)
    {drainer : Drainer machine} {firstError : Option Fault} {event : Event machine} {pending : Pending machine}
    (among : .reacting drainer firstError event pending ∈ here.macrosteps) : commits trail ≠ [] := by
  intro none
  obtain ⟨_,starting⟩ := commenced.before none (calm.running (List.ne_nil_of_mem among))
  rw [starting] at among
  simp at among

/-- The user of a step that is committed is kept. -/
theorem Agreeing.committed (agreeing : Agreeing options trail here kept)
    (run : (Gathering.fresh (chart id renewInterval) options).Trail trail here)
    (calm : here.Calm (chart id renewInterval) options) (moves : here.Moves .go next) {step : Statechart.Step machine}
    (now : (⟨here,.go⟩ : Moment machine).step? = some step) : Agreeing options (trail ++ [⟨here,.go⟩]) next kept := by
  have commits := (Moment.step?_eq_some_iff.mp now).2
  have ended := (moves.commit commits run.reachable.sound).2
  obtain ⟨frame,among,result⟩ := Gathering.committing commits
  obtain ⟨same,allowed⟩ := (agreeing.stepping frame among).result result (Gathering.taken_of_commits commits)
  constructor
  · intro _
    rcases allowed with allowed | ⟨_,_,_,_,reacting⟩
    · exact allowed
    · subst reacting
      exact agreeing.allowed (begun_of_reacting calm run.commenced among)
  · intro _ _
    rw [(moves.shows now).2]
    exact same
  · intro _ none
    rw [ended] at none
    cases none

/-- A macrostep that is over without a commit has written nothing. -/
theorem Agreeing.given_up (agreeing : Agreeing options trail here kept) (commenced : Gathering.Commenced trail here)
    (calm : here.Calm (chart id renewInterval) options) (committed : commits trail ≠ []) {frame : Frame machine}
    (one : here.macrosteps = [frame]) (finishes : here.self.Finishes deed frame)
    (uncommitted : (⟨here,deed⟩ : Moment machine).step? = none) : kept = here.self.core.context.user := by
  have promises := agreeing.stepping frame (by rw [one]; exact List.mem_singleton_self frame)
  cases finishes with
  | start _ => exact absurd one ((commenced.after committed).2 _)
  | @react drainer firstError event result below top =>
    cases result with
    | error failure => exact promises
    | ok step =>
      have same : kept = if step.taken then step.context.user else here.self.core.context.user := promises
      cases taken : step.taken with
      | false => simpa [taken] using same
      | true =>
        have admitted : here.self.core.admits step = true := by
          simp [Core.admits,taken,calm.running (by simp [one])]
        rw [Moment.step?_eq_some_iff.mpr ⟨rfl,admitted,_,_,top,rfl⟩] at uncommitted
        cases uncommitted

theorem Agreeing.uncommitted (agreeing : Agreeing options trail here kept)
    (run : (Gathering.fresh (chart id renewInterval) options).Trail trail here)
    (calm : here.Calm (chart id renewInterval) options) (moves : here.Moves deed next)
    (answered : Dialogue.Answered Served kept (answers [deed]) later)
    (now : (⟨here,deed⟩ : Moment machine).step? = none) : Agreeing options (trail ++ [⟨here,deed⟩]) next later := by
  have sound := run.reachable.sound
  have unwritten : answers [deed] = [] → later = kept := by
    intro silent
    rw [silent] at answered
    cases answered
    rfl
  obtain ⟨same,context⟩ := moves.uncommitted trail now
  constructor
  · rw [same]
    exact agreeing.allowed
  · intro committed none
    rw [same] at committed
    rw [context]
    rcases moves.course sound with ⟨idle,_⟩ | ⟨_,_,_,one⟩ | ⟨_,_,_,one,_⟩ | ⟨frame,one,_,finishes⟩
    · rw [unwritten (moves.answers_eq_nil (.inl idle))]
      exact agreeing.resting committed idle
    · rw [none] at one
      cases one
    · rw [none] at one
      cases one
    · have silent : answers [deed] = [] := by cases finishes <;> rfl
      rw [unwritten silent]
      exact agreeing.given_up run.commenced calm committed one finishes now
  · rw [context]
    refine moves.each_macrostep sound agreeing.stepping ?_ ?_
    · intro idle frame begins
      rw [unwritten (moves.answers_eq_nil (.inl idle))]
      cases begins with
      | start _ _ =>
        rw [sound.graph_eq,sound.options_eq]
        exact begin_opening
      | take _ _ running _ =>
        have committed := run.commenced.resting running idle
        rw [sound.graph_eq,sound.options_eq,agreeing.resting committed idle]
        exact react_reacting (agreeing.allowed committed)
    · intro frame after promises advances
      exact promises.advances advances answered

theorem Agreeing.onward (agreeing : Agreeing options trail here kept)
    (run : (Gathering.fresh (chart id renewInterval) options).Trail trail here)
    (calm : here.Calm (chart id renewInterval) options) (moves : here.Moves deed next)
    (answered : Dialogue.Answered Served kept (answers [deed]) later) :
    Agreeing options (trail ++ [⟨here,deed⟩]) next later := by
  cases now : (⟨here,deed⟩ : Moment machine).step? with
  | none => exact agreeing.uncommitted run calm moves answered now
  | some step =>
    obtain ⟨go,_⟩ := Moment.step?_eq_some_iff.mp now
    simp only at go
    subst go
    cases answered
    exact agreeing.committed run calm moves now

theorem Backed.agreeing {user : Option Identity} (keeps : first.Keeps user)
    (backed : Backed (chart id renewInterval) options first trail here store) :
    ∃ kept, store.Keeps kept ∧ Agreeing options trail here kept := by
  induction backed with
  | fresh =>
    refine ⟨user,keeps,fun committed => absurd rfl committed,fun committed => absurd rfl committed,?_⟩
    intro _ member
    cases member
  | @asks trail here next store query authenticator backed moves ih =>
    obtain ⟨kept,keeping,agreeing⟩ := ih
    obtain ⟨later,after⟩ := keeping.answer query authenticator
    refine ⟨later,after,agreeing.onward backed.run backed.calm moves ?_⟩
    exact .cons ⟨store,authenticator,keeping,rfl,after⟩ (.nil later)
  | acts backed moves considerate ih =>
    obtain ⟨kept,keeping,agreeing⟩ := ih
    refine ⟨kept,keeping,agreeing.onward backed.run backed.calm moves ?_⟩
    rw [considerate.silent]
    exact .nil kept
  | switches unavailable _ ih =>
    obtain ⟨kept,keeping,agreeing⟩ := ih
    exact ⟨kept,keeping.setUnavailable unavailable,agreeing⟩

/-- Whenever no macrostep is in progress in a session that has been started, the store keeps the user that
the session shows. So it is when a listener is called: no macrostep is in progress then. -/
theorem store_agrees {built : Graph machine} (builds : graph id renewInterval = .ok built) {user : Option Identity}
    (keeps : first.Keeps user) (backed : Backed built options first trail here store) :
    (commits trail ≠ [] → here.macrosteps = [] → store.Keeps here.self.snapshot.context.user) ∧
    ∀ deed next, here.Moves deed next → Considerate here deed → ∀ number snapshot,
      .heard number snapshot ∈ here.self.notes next.self deed → next.macrosteps = [] ∧
        (commits (trail ++ [⟨here,deed⟩]) ≠ [] → store.Keeps next.self.snapshot.context.user) := by
  rw [eq_chart builds] at backed
  have agrees : ∀ {trail : List (Moment machine)} {here : Gathering machine},
      Backed (chart id renewInterval) options first trail here store → commits trail ≠ [] → here.macrosteps = [] →
        store.Keeps here.self.snapshot.context.user := by
    intro trail here backed committed idle
    obtain ⟨kept,keeping,agreeing⟩ := backed.agreeing keeps
    rw [agreeing.resting committed idle] at keeping
    exact keeping
  refine ⟨agrees backed,?_⟩
  intro deed next moves considerate number snapshot called
  have idle := backed.calm.silent moves considerate.awaits called
  exact ⟨idle,fun committed => agrees (backed.acts moves considerate) committed idle⟩

/-- The store is switched off, and somebody has tried to log out in vain. -/
theorem kept_signed_in :
    ∃ trail here, Backed (chart "authentication" none) {} (.holding (some ⟨"me"⟩)) trail here
        (.memory (some ⟨"me"⟩) 1 1 0 true) ∧
      commits trail ≠ [] ∧ here.macrosteps = [] ∧ here.self.snapshot.context.user = some ⟨"me"⟩ := by
  have made : Backed (chart "authentication" none) {} (.holding (some ⟨"me"⟩)) [] _ _ := .fresh
  have started := made.acts (.turn (.start true)) trivial
  have loaded := started.asks .usual (.turn (.answer rfl _))
  have checked := loaded.asks .usual (.turn (.answer rfl _))
  have saved := checked.asks .usual (.turn (.answer rfl _))
  have committed := saved.acts (.turn (.go rfl)) trivial
  have told := committed.acts (.turn (.go rfl)) trivial
  have idle := told.acts (.turn (.go rfl)) trivial
  have off := idle.switches true
  have asked := off.acts (.turn (.send Command.logout)) trivial
  have taken := asked.acts (.turn (.go rfl)) trivial
  have cleared := taken.asks .usual (.turn (.answer rfl _))
  have refused := cleared.asks .usual (.turn (.answer rfl _))
  have abandoned := refused.acts (.turn (.go rfl)) trivial
  exact ⟨_,_,abandoned,List.cons_ne_nil _ _,rfl,rfl⟩

theorem kept_signed_in_store_agrees :
    ∃ trail here, Backed (chart "authentication" none) {} (.holding (some ⟨"me"⟩)) trail here
        (.memory (some ⟨"me"⟩) 1 1 0 true) ∧
      (.memory (some ⟨"me"⟩) 1 1 0 true : Store).Keeps here.self.snapshot.context.user := by
  obtain ⟨trail,here,backed,committed,idle,_⟩ := kept_signed_in
  have agrees := (store_agrees (graph_eq _ _) ⟨0,0,0,false,rfl⟩ backed).1 committed idle
  exact ⟨trail,here,backed,agrees⟩

end Statechart.Login
