import Statechart.Proofs.RunToCompletion

/-!
# Trails: runs with all their moments

A trail lists the moments of a run, one after another, each with the deed that was done then. From a
moment one reads which step is committed, which state instance begins to live, and what becomes of the
mail.
-/
namespace Statechart

variable {M : Machine} {graph : Graph M} {options : Options}

/-- A moment of a run, and what was done then. -/
structure Moment (M : Machine) where
  here : Gathering M
  deed : Deed M

/-- The moments that have led from one gathering to another, oldest first. -/
inductive Gathering.Trail (first : Gathering M) : List (Moment M) → Gathering M → Prop where
  | here : Trail first [] first
  | onward {trail : List (Moment M)} {deed : Deed M} {here next : Gathering M} :
      Trail first trail here → here.Moves deed next → Trail first (trail ++ [⟨here,deed⟩]) next

namespace Gathering

theorem Trail.path {first here : Gathering M} {trail : List (Moment M)} (run : first.Trail trail here) :
    ∃ log, first.Path (trail.map Moment.deed) log here := by
  induction run with
  | here => exact ⟨[],.here⟩
  | onward _ moves ih =>
    obtain ⟨log,path⟩ := ih
    rw [List.map_append]
    exact ⟨_,path.onward moves⟩

theorem Trail.reachable {here : Gathering M} {trail : List (Moment M)}
    (run : (fresh graph options).Trail trail here) : here.Reachable graph options := by
  obtain ⟨log,path⟩ := run.path
  exact ⟨_,log,path⟩

theorem Reachable.trail {here : Gathering M} (reachable : here.Reachable graph options) :
    ∃ trail, (fresh graph options).Trail trail here := by
  obtain ⟨deeds,log,path⟩ := reachable
  induction path with
  | here => exact ⟨[],.here⟩
  | onward _ moves ih =>
    obtain ⟨trail,run⟩ := ih
    exact ⟨_,run.onward moves⟩

theorem Trail.append {first middle last : Gathering M} {trail more : List (Moment M)}
    (run : first.Trail trail middle) (further : middle.Trail more last) : first.Trail (trail ++ more) last := by
  induction further with
  | here => rwa [List.append_nil]
  | onward _ moves ih => rw [← List.append_assoc]; exact ih.onward moves

/-- Whatever lies between two moments of a trail is a trail, too. -/
theorem Trail.split {first last : Gathering M} {before after : List (Moment M)} {moment : Moment M}
    (run : first.Trail (before ++ moment :: after) last) :
    ∃ next, first.Trail before moment.here ∧ moment.here.Moves moment.deed next ∧ next.Trail after last := by
  generalize whole : before ++ moment :: after = trail at run
  induction run generalizing after with
  | here => simp at whole
  | @onward trail deed here next run moves ih =>
    rcases List.eq_nil_or_concat after with none | ⟨earlier,final,some⟩
    · rw [none] at whole
      obtain ⟨same,now⟩ := List.append_inj' whole rfl
      cases (List.cons.inj now).1
      subst same none
      exact ⟨next,run,moves,.here⟩
    · have longer : (before ++ moment :: earlier) ++ [final] = trail ++ [⟨here,deed⟩] := by simpa [some] using whole
      obtain ⟨same,now⟩ := List.append_inj' longer rfl
      obtain ⟨between,first,goes,further⟩ := ih same
      cases (List.cons.inj now).1
      rw [some,List.concat_eq_append]
      exact ⟨between,first,goes,further.onward moves⟩

end Gathering

/-! ## Commits and instances -/

namespace Moment

/-- The step that is committed at a moment. -/
def step? (moment : Moment M) : Option (Step M) :=
  match moment.deed, moment.here.self.stack with
  | .go, frame :: _ => frame.result?.filter moment.here.self.core.admits
  | _, _ => none

/-- The instance that begins to live with a committed step, if the step has entered a state. -/
def birth? (moment : Moment M) : Option (Origin M) :=
  moment.step?.bind fun step => step.entry.map fun _ => ⟨step.state,moment.here.self.core.generation.next⟩

theorem step?_eq_some_iff {moment : Moment M} {step : Step M} :
    moment.step? = some step ↔ moment.deed = .go ∧ moment.here.self.Commits step := by
  obtain ⟨here,deed⟩ := moment
  rw [step?]
  constructor
  · intro commits
    split at commits
    · rename_i frame below go top
      obtain ⟨result,admitted⟩ := Option.filter_eq_some_iff.mp commits
      exact ⟨go,admitted,frame,below,top,result⟩
    · cases commits
  · rintro ⟨go,admitted,frame,below,top,result⟩
    simp only at go admitted top
    simp [go,top,result,admitted]

theorem step?_eq_none {moment : Moment M} (other : moment.deed ≠ .go) : moment.step? = none := by
  rw [Option.eq_none_iff_forall_ne_some]
  intro step commits
  exact other (step?_eq_some_iff.mp commits).1

theorem birth?_eq_some_iff {moment : Moment M} {origin : Origin M} :
    moment.birth? = some origin ↔ ∃ step entry, moment.step? = some step ∧ step.entry = some entry ∧
      origin = ⟨step.state,moment.here.self.core.generation.next⟩ := by
  simp only [birth?,Option.bind_eq_some_iff,Option.map_eq_some_iff]
  constructor
  · rintro ⟨step,commits,entry,entered,same⟩
    exact ⟨step,entry,commits,entered,same.symm⟩
  · rintro ⟨step,entry,commits,entered,same⟩
    exact ⟨step,commits,entry,entered,same.symm⟩

theorem birth?_eq_none {moment : Moment M} (uncommitted : moment.step? = none) : moment.birth? = none := by
  rw [birth?,uncommitted]
  rfl

end Moment

/-- The steps that were committed. -/
def commits (trail : List (Moment M)) : List (Step M) := trail.filterMap Moment.step?

/-- The instances that have begun to live, one after another. -/
def births (trail : List (Moment M)) : List (Origin M) := trail.filterMap Moment.birth?

theorem commits_append (trail more : List (Moment M)) : commits (trail ++ more) = commits trail ++ commits more :=
  List.filterMap_append

theorem births_append (trail more : List (Moment M)) : births (trail ++ more) = births trail ++ births more :=
  List.filterMap_append

theorem commits_singleton (moment : Moment M) : commits [moment] = moment.step?.toList := by
  cases committed : moment.step? <;> simp [commits,committed]

theorem births_singleton (moment : Moment M) : births [moment] = moment.birth?.toList := by
  cases birth : moment.birth? <;> simp [births,birth]

/-- Instances begin to live with commits only. -/
theorem births_le_commits (trail : List (Moment M)) : (births trail).length ≤ (commits trail).length := by
  induction trail with
  | nil => exact Nat.le_refl _
  | cons moment rest ih =>
    rw [births,commits] at *
    cases commits : moment.step? with
    | none =>
      rw [List.filterMap_cons_none (Moment.birth?_eq_none commits),List.filterMap_cons_none commits]
      exact ih
    | some step =>
      rw [List.filterMap_cons_some commits,List.length_cons]
      cases birth : moment.birth? with
      | none => rw [List.filterMap_cons_none birth]; omega
      | some origin => rw [List.filterMap_cons_some birth,List.length_cons]; omega

namespace Gathering

variable {here next : Gathering M} {deed : Deed M}

/-- A commit replaces the whole core. -/
theorem Moves.core_of_commit (moves : here.Moves deed next) {step : Step M}
    (commits : (⟨here,deed⟩ : Moment M).step? = some step) : next.self.core = here.self.core.commit step := by
  obtain ⟨go,commits⟩ := Moment.step?_eq_some_iff.mp commits
  simp only at go commits
  rw [go] at moves
  rw [moves.of_go]
  exact commits.tick.1

/-- Without a commit nothing changes of what has been committed. -/
theorem Moves.committed_of_none (moves : here.Moves deed next)
    (uncommitted : (⟨here,deed⟩ : Moment M).step? = none) : next.self.core.committed = here.self.core.committed := by
  rcases moves.committed with same | ⟨step,go,commits⟩
  · exact same
  · rw [Moment.step?_eq_some_iff.mpr ⟨go,commits⟩] at uncommitted
    cases uncommitted

/-- The generation is that of the instance that has just begun to live, or it stays as it was. -/
theorem Moves.generation (moves : here.Moves deed next) :
    next.self.core.generation =
      match (⟨here,deed⟩ : Moment M).birth? with
      | some _ => here.self.core.generation.next
      | none => here.self.core.generation := by
  cases committed : (⟨here,deed⟩ : Moment M).step? with
  | none =>
    rw [Moment.birth?_eq_none committed]
    exact congrArg Committed.generation (moves.committed_of_none committed)
  | some step =>
    have follows := here.self.core.committed_commit step
    rw [← moves.core_of_commit committed] at follows
    have generation := congrArg Committed.generation follows
    simp only [Committed.after] at generation
    cases entered : step.entry with
    | none => simpa [Moment.birth?,committed,entered,Core.committed] using generation
    | some entry => simpa [Moment.birth?,committed,entered,Core.committed] using generation

end Gathering

/-! ## Mail -/

namespace Moment

/-- The event that is accepted into the mailbox at a moment: one that comes in while the interpreter is
running. -/
def accepted? (moment : Moment M) : Option (Event M) :=
  if moment.here.self.core.status = .running then
    match moment.deed with
    | .send signal => some (.signal signal)
    | .deliver _ event => some event
    | _ => none
  else none

/-- What is accepted is a signal that somebody sends, or the outcome of an activity. -/
theorem accepted?_cases {moment : Moment M} {event : Event M} (comes : moment.accepted? = some event) :
    (∃ signal, moment.deed = .send signal ∧ event = .signal signal) ∨ ∃ place, moment.deed = .deliver place event := by
  obtain ⟨here,deed⟩ := moment
  rw [accepted?] at comes
  split at comes
  · cases deed with
    | send signal => cases comes; exact .inl ⟨signal,rfl,rfl⟩
    | deliver place event => cases comes; exact .inr ⟨place,rfl⟩
    | _ => cases comes
  · cases comes

/-- The event that a drain takes out of the mailbox, to process it. -/
def handed? (moment : Moment M) : Option (Event M) :=
  match moment.deed, moment.here.self.stack with
  | .go, .draining _ _ :: _ => moment.here.self.mailbox.head?
  | _, _ => none

/-- The mail is thrown away: the interpreter is stopped, the outcome of an activity could not be
processed, or a start has failed. -/
inductive Clears (moment : Moment M) : Prop where
  | stopped (stop : moment.deed = .stop) (unstopped : moment.here.self.core.status ≠ .stopped)
      (unfailed : moment.here.self.core.status ≠ .failed)
  | faulted {drainer : Drainer M} {firstError : Option (Failure M.State)} {event : Event M}
      {failure : Failure M.State} {below : List (Frame M)} (go : moment.deed = .go)
      (top : moment.here.self.stack = .reacting drainer firstError event (.done (.error failure)) :: below)
      (outcome : event.origin.isSome = true) (running : moment.here.self.core.status = .running)
  | startFailed {failure : Failure M.State} {below : List (Frame M)} (go : moment.deed = .go)
      (top : moment.here.self.stack = .starting (.done (.error failure)) :: below)

theorem handed?_eq_some_iff {moment : Moment M} {event : Event M} :
    moment.handed? = some event ↔ moment.deed = .go ∧ ∃ drainer firstError below rest,
      moment.here.self.stack = .draining drainer firstError :: below ∧ moment.here.self.mailbox = event :: rest := by
  obtain ⟨here,deed⟩ := moment
  rw [handed?]
  constructor
  · intro taken
    split at taken
    · rename_i drainer firstError below go top
      obtain ⟨rest,mail⟩ := List.head?_eq_some_iff.mp taken
      exact ⟨go,drainer,firstError,below,rest,top,mail⟩
    · cases taken
  · rintro ⟨go,drainer,firstError,below,rest,top,mail⟩
    simp only at go top mail
    simp [go,top,mail]

theorem handed?_eq_none {moment : Moment M} (other : moment.deed ≠ .go) : moment.handed? = none := by
  rw [Option.eq_none_iff_forall_ne_some]
  intro event taken
  exact other (handed?_eq_some_iff.mp taken).1

end Moment

/-- The events that were accepted into the mailbox, in that order. -/
def accepted (trail : List (Moment M)) : List (Event M) := trail.filterMap Moment.accepted?

/-- The events that were taken out of the mailbox to be processed, in that order. -/
def handed (trail : List (Moment M)) : List (Event M) := trail.filterMap Moment.handed?

theorem accepted_append (trail more : List (Moment M)) :
    accepted (trail ++ more) = accepted trail ++ accepted more := List.filterMap_append

theorem handed_append (trail more : List (Moment M)) : handed (trail ++ more) = handed trail ++ handed more :=
  List.filterMap_append

theorem accepted_singleton (moment : Moment M) : accepted [moment] = moment.accepted?.toList := by
  cases taken : moment.accepted? <;> simp [accepted,taken]

theorem handed_singleton (moment : Moment M) : handed [moment] = moment.handed?.toList := by
  cases taken : moment.handed? <;> simp [handed,taken]

end Statechart
