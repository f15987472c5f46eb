import Statechart.Proofs.Calm

/-!
# Undisturbed runs: what holds whenever no macrostep is in progress

Callbacks work on something outside of the interpreter. As long as nobody stops the interpreter in the
middle of a macrostep, a macrostep is committed, unless it fails or takes nothing. So what its script
promises of either case holds at the next moment at which no macrostep is in progress
(`Resting.onward`).
-/
namespace Statechart

variable {M : Machine} {graph : Graph M} {options : Options} {σ : Type}
  {may : (query : Query M) → σ → query.Answer → σ → Prop} {rests : List (Step M) → σ → Prop} {now later : σ}

/-- What is promised of a macrostep, given the steps that were committed before and what is to hold after
the steps of a run: this holds with the step that it comes to, or without a step if it fails or takes
nothing. -/
def Outcome (rests : List (Step M) → σ → Prop) (steps : List (Step M)) (result : Except (Failure M.State) (Step M))
    (now : σ) : Prop :=
  match result with
  | .ok step => rests (if step.taken then steps ++ [step] else steps) now
  | .error _ => rests steps now

namespace Gathering

variable {here next : Gathering M} {deed : Deed M} {trail : List (Moment M)}

/-- What holds, at each moment of an undisturbed run, of the thing that callbacks work on. -/
structure Resting (may : (query : Query M) → σ → query.Answer → σ → Prop) (rests : List (Step M) → σ → Prop)
    (trail : List (Moment M)) (here : Gathering M) (now : σ) : Prop where
  resting : here.macrosteps = [] → rests (commits trail) now
  stepping : ∀ frame ∈ here.macrosteps, frame.Ensures may (Outcome rests (commits trail)) now

/-- The promise of a macrostep that is over has been kept. -/
theorem Resting.over (resting : Resting may rests trail here now) (calm : here.Calm graph options) {frame : Frame M}
    (one : here.macrosteps = [frame]) (finishes : here.self.Finishes deed frame) :
    rests (commits (trail ++ [⟨here,deed⟩])) now := by
  have ensures := resting.stepping frame (by rw [one]; exact List.mem_singleton_self frame)
  have running := calm.running (by rw [one]; exact List.cons_ne_nil _ _)
  have kept : ∀ {result : Except (Failure M.State) (Step M)} {below : List (Frame M)},
      here.self.stack = frame :: below → frame.pending? = some (.done result) → deed = .go →
      rests (commits (trail ++ [⟨here,deed⟩])) now := by
    intro result below top ended go
    have outcome : Outcome rests (commits trail) result now := ensures _ ended
    rw [commits_append,commits_singleton]
    cases result with
    | error failure =>
      have none : (⟨here,deed⟩ : Moment M).step? = none := by
        cases frame <;> cases ended <;> simp [Moment.step?,go,top,Frame.result?]
      rw [none,Option.toList_none,List.append_nil]
      exact outcome
    | ok step =>
      have commits : (⟨here,deed⟩ : Moment M).step? = if step.taken then some step else none := by
        cases frame <;> cases ended <;>
          simp [Moment.step?,go,top,Frame.result?,Core.admits,running,Option.filter]
      rw [commits]
      cases taken : step.taken with
      | true => simpa [Outcome,taken] using outcome
      | false => simpa [Outcome,taken] using outcome
  cases finishes with
  | start top => exact kept top rfl rfl
  | react top => exact kept top rfl rfl

/-- Only the end of a macrostep commits anything. -/
theorem Moves.commits_kept (moves : here.Moves deed next) (sound : Sound graph options here.self here.waiting.flatten)
    (midway : here.macrosteps = [] ∨ next.macrosteps ≠ []) : commits (trail ++ [⟨here,deed⟩]) = commits trail := by
  have uncommitted : (⟨here,deed⟩ : Moment M).step? = none := by
    rw [Option.eq_none_iff_forall_ne_some]
    intro step now
    obtain ⟨go,commits⟩ := Moment.step?_eq_some_iff.mp now
    simp only at go commits
    subst go
    rcases midway with idle | busy
    · obtain ⟨frame,among,_⟩ := committing commits
      rw [idle] at among
      cases among
    · exact busy (moves.commit commits sound).2
  rw [commits_append,commits_singleton,uncommitted,Option.toList_none,List.append_nil]

/-- If every macrostep that begins is promised to keep it up, it holds from then on. -/
theorem Resting.onward (resting : Resting may rests trail here now)
    (sound : Sound graph options here.self here.waiting.flatten) (calm : here.Calm graph options)
    (moves : here.Moves deed next) (answered : Dialogue.Answered may now (answers [deed]) later)
    (begins : ∀ frame, here.macrosteps = [] → here.self.Begins deed frame → rests (commits trail) now →
      frame.Ensures may (Outcome rests (commits trail)) now) :
    Resting may rests (trail ++ [⟨here,deed⟩]) next later := by
  have unanswered : here.macrosteps = [] ∨ next.macrosteps = [] → later = now := by
    intro idle
    rw [moves.answers_eq_nil idle] at answered
    cases answered
    rfl
  constructor
  · intro idle
    rw [unanswered (.inr idle)]
    rcases moves.course sound with ⟨before,_⟩ | ⟨_,_,_,one⟩ | ⟨_,_,_,one,_⟩ | ⟨frame,one,_,finishes⟩
    · rw [moves.commits_kept sound (.inl before)]
      exact resting.resting before
    · rw [idle] at one
      cases one
    · rw [idle] at one
      cases one
    · exact resting.over calm one finishes
  · intro frame among
    have busy : next.macrosteps ≠ [] := List.ne_nil_of_mem among
    rw [moves.commits_kept sound (.inr busy)]
    revert frame
    refine moves.each_macrostep sound resting.stepping ?_ ?_
    · intro idle frame starts
      rw [unanswered (.inl idle)]
      exact begins frame idle starts (resting.resting idle)
    · intro frame after ensures advances
      exact ensures.advances advances answered

end Gathering

end Statechart
