import Mathlib.Algebra.Group.Nat.Defs
import Mathlib.Data.List.Induction
import Statechart.Proofs.Macrosteps

/-!
# Limits: how long a chain of eventless transitions may be

Where a macrostep has been opened, by the arrival at the initial state or by the transition that its event takes,
a chain of eventless transitions follows, and the limit has no say in it. Nor has it when the chain ends within
the limit; otherwise the macrostep fails where exactly as many transitions as are allowed have led
(`Settles.bounded`). A higher limit leaves every macrostep as it is that does not fail so (`react_extends`).
-/
namespace Statechart

variable {M : Machine} {Env : Type}

/-! ## Chains -/

namespace Setting

/-- The same setting under another limit. -/
def limited (setting : Setting M Env) (limit : UInt64) : Setting M Env := { setting with limit }

/-- After an opening, the chain leads over these legs, and everything on them is done. -/
structure Reaches (setting : Setting M Env) (opening : List (Chore M)) (state : M.State) (start : Situation M Env)
    (path : List (Leg M)) (now : Situation M Env) : Prop where
  follows : setting.Follows opening state start path
  runs : setting.performAll start (opening ++ setting.graph.itinerary state path) = .ok now

/-- The chain ends there: none of the transitions that could be taken next may be taken. -/
structure Ends (setting : Setting M Env) (opening : List (Chore M)) (state : M.State) (start : Situation M Env)
    (path : List (Leg M)) (now : Situation M Env) : Prop extends setting.Reaches opening state start path now where
  still : setting.Refuses now (setting.graph.eventless (destination state path))

/-- No action fails within the opening and so many legs of the chain. -/
def Unfailing (setting : Setting M Env) (allowed : Nat) (opening : List (Chore M)) (state : M.State)
    (start : Situation M Env) : Prop :=
  ∀ path, path.length ≤ allowed → setting.Follows opening state start path →
    ∃ now, setting.performAll start (opening ++ setting.graph.itinerary state path) = .ok now

variable {setting : Setting M Env} {now start : Situation M Env} {candidates : List (Transition M)}
  {opening : List (Chore M)} {earlier : List (Record M.State Unit)} {state : M.State} {path longer : List (Leg M)}
  {leg : Leg M} {allowed : Nat} {result : Except (Failure M.State) (Step M)} {env : Env}

theorem Refuses.limited (refuses : setting.Refuses now candidates) (limit : UInt64) :
    (setting.limited limit).Refuses now candidates := by
  induction refuses with
  | nil => exact .nil _
  | cons verdict _ ih => exact .cons verdict ih

theorem First.limited (first : setting.First now candidates leg) (limit : UInt64) :
    (setting.limited limit).First now candidates leg := by
  induction first with
  | here passes => exact .here passes
  | there verdict _ ih => exact .there verdict ih

/-- The limit has no say in the chain. -/
theorem Follows.limited (follows : setting.Follows opening state start path) (limit : UInt64) :
    (setting.limited limit).Follows opening state start path := by
  intro before leg after split
  obtain ⟨now,runs,first⟩ := follows before leg after split
  exact ⟨now,runs,first.limited limit⟩

theorem Follows.initial {more : List (Leg M)} (follows : setting.Follows opening state start (path ++ more)) :
    setting.Follows opening state start path := by
  intro before leg after split
  exact follows before leg (after ++ more) (by rw [split]; simp)

/-- There is but one chain: a shorter stretch of it is the beginning of a longer one. -/
theorem Follows.beginning (follows : setting.Follows opening state start path)
    (further : setting.Follows opening state start longer) (shorter : path.length ≤ longer.length) :
    path <+: longer := by
  induction path using List.reverseRecOn with
  | nil => exact List.nil_prefix
  | append_singleton path leg ih =>
    rw [List.length_append,List.length_singleton] at shorter
    obtain ⟨rest,same⟩ := ih follows.initial (Nat.le_of_succ_le shorter)
    subst same
    cases rest with
    | nil => rw [List.append_nil] at shorter; omega
    | cons next rest =>
      obtain ⟨now,runs,first⟩ := follows path leg [] rfl
      obtain ⟨also,reruns,second⟩ := further path next rest rfl
      rw [runs] at reruns
      cases reruns
      cases first.unique second
      exact ⟨rest,by simp⟩

/-- Where the chain ends, it goes on no further. -/
theorem Ends.longest (ends : setting.Ends opening state start path now)
    (further : setting.Follows opening state start longer) : longer <+: path := by
  rcases Nat.le_total longer.length path.length with shorter | beyond
  · exact further.beginning ends.follows shorter
  · obtain ⟨rest,same⟩ := ends.follows.beginning further beyond
    subst same
    cases rest with
    | nil => exact (List.append_nil path).symm ▸ List.prefix_rfl
    | cons leg rest =>
      obtain ⟨also,runs,first⟩ := further path leg rest rfl
      rw [ends.runs] at runs
      cases runs
      exact absurd ends.still first.not_refuses

theorem Ends.unique {other : List (Leg M)} {also : Situation M Env} (ends : setting.Ends opening state start path now)
    (too : setting.Ends opening state start other also) : path = other ∧ now = also := by
  have same : path = other :=
    (too.longest ends.follows).eq_of_length_le (ends.longest too.follows).length_le
  subst same
  have runs := too.runs
  rw [ends.runs] at runs
  cases runs
  exact ⟨rfl,rfl⟩

/-! ## What the limit makes of a chain -/

theorem First.looked (first : setting.First now candidates leg) : leg.passed ++ [leg.taken] <+: candidates := by
  induction first with
  | here _ => exact ⟨_,rfl⟩
  | there _ _ ih => exact (List.prefix_cons_inj _).mpr ih

/-- What comes of a chain no action of which fails as long as the limit lasts. -/
structure Bounded (setting : Setting M Env) (opening : List (Chore M)) (earlier : List (Record M.State Unit))
    (state : M.State) (start : Situation M Env) (result : Except (Failure M.State) (Step M)) (env : Env) : Prop where
  /-- There is a step if the chain ends after at most as many transitions as are allowed, and only then. -/
  settles_iff : (∃ step, result = .ok step) ↔
    ∃ path now, path.length ≤ setting.limit.toNat ∧ setting.Ends opening state start path now
  /-- The step is where the chain ends, once the guards there have been looked at. -/
  settled : ∀ path now, path.length ≤ setting.limit.toNat → setting.Ends opening state start path now →
    result = .ok ⟨destination state path,now.context,now.entry,earlier ++ eventlessRecords state path,true⟩ ∧
      env = ((setting.graph.eventless (destination state path)).foldl setting.seen now).env
  /-- Otherwise the failure names the state that just as many transitions as are allowed have led to; these have been
  taken, and a further one that may be taken has been found. -/
  exceeded : (∀ step, result ≠ .ok step) → ∃ path now leg, path.length = setting.limit.toNat ∧
    setting.Reaches opening state start path now ∧
    setting.First now (setting.graph.eventless (destination state path)) leg ∧
    result = .error (.microstepLimit (destination state path) setting.limit) ∧
      env = ((leg.passed ++ [leg.taken]).foldl setting.seen now).env
  /-- Guards are looked at in one round before each transition that is taken, and in a last one where the chain has
  led. -/
  rounds : ∃ path now looked, path.length ≤ setting.limit.toNat ∧ setting.Reaches opening state start path now ∧
    looked <+: setting.graph.eventless (destination state path) ∧ env = (looked.foldl setting.seen now).env

theorem Settles.bounded (settles : setting.Settles setting.limit.toNat opening earlier state start result env)
    (unfailing : setting.Unfailing setting.limit.toNat opening state start) :
    setting.Bounded opening earlier state start result env := by
  cases settles with
  | @settled path now last few follows leads runs still =>
    subst leads
    have ends : setting.Ends opening state start path now := ⟨⟨follows,runs⟩,still⟩
    refine ⟨⟨fun _ => ⟨path,now,few,ends⟩,fun _ => ⟨_,rfl⟩⟩,?_,fun fails => absurd rfl (fails _),
      path,now,_,few,⟨follows,runs⟩,List.prefix_rfl,rfl⟩
    intro other also _ too
    obtain ⟨rfl,rfl⟩ := ends.unique too
    exact ⟨rfl,rfl⟩
  | failed path few follows fails =>
    obtain ⟨now,runs⟩ := unfailing path few follows
    rw [fails_iff,runs] at fails
    cases fails
  | @unsettled path now last leg all follows leads runs first =>
    subst leads
    -- the chain does not end within the limit, for it goes on where that is reached
    have beyond : ∀ other also, other.length ≤ setting.limit.toNat → ¬ setting.Ends opening state start other also := by
      intro other also few ends
      have same : path = other := (ends.longest follows).eq_of_length_le (by rw [all]; exact few)
      subst same
      have reruns := ends.runs
      rw [runs] at reruns
      cases reruns
      exact first.not_refuses ends.still
    refine ⟨⟨?_,?_⟩,?_,?_,path,now,_,Nat.le_of_eq all,⟨follows,runs⟩,first.looked,rfl⟩
    · rintro ⟨step,settles⟩
      cases settles
    · rintro ⟨other,also,few,ends⟩
      exact absurd ends (beyond other also few)
    · intro other also few ends
      exact absurd ends (beyond other also few)
    · intro _
      exact ⟨path,now,leg,all,⟨follows,runs⟩,first,rfl,rfl⟩

theorem reaches_limited (setting : Setting M Env) (limit : UInt64) :
    (setting.limited limit).Reaches opening state start path now ↔ setting.Reaches opening state start path now := by
  constructor
  · intro reaches
    exact ⟨reaches.follows.limited setting.limit,reaches.runs⟩
  · intro reaches
    exact ⟨reaches.follows.limited limit,reaches.runs⟩

end Setting

/-! ## Counting -/

namespace Graph

/-- Settles with a counter of 64 bits that goes up to the limit; nothing comes of it if the counter overflows. -/
def settleCounting (graph : Graph M) (limit : UInt64) (event : Event M) (counter : UInt64) (step : Step M) :
    Move M (Option (Step M)) := do
  match ← ExceptT.lift (graph.selectAlways step event) with
  | none => return some step
  | some transition =>
    if counter = limit then throw (.microstepLimit step.state limit)
    else if counter.toNat + 1 = 2^64 then return none
    else
      let step ← graph.take step transition event alwaysTrigger
      graph.settleCounting limit event (counter + 1) step
termination_by 2^64 - counter.toNat
decreasing_by
  have bounded := counter.toNat_lt
  have next : (counter + 1).toNat = counter.toNat + 1 := by
    rw [UInt64.toNat_add]
    exact Nat.mod_eq_of_lt (by simp; omega)
  omega

/-- The counter never overflows: counting up to the limit is the same as counting down from it. -/
theorem settleCounting_eq (graph : Graph M) (limit : UInt64) (event : Event M) (remaining : Nat) (counter : UInt64)
    (step : Step M) (left : counter.toNat + remaining = limit.toNat) :
    graph.settleCounting limit event counter step = some <$> graph.settle limit event remaining step := by
  induction remaining generalizing counter step with
  | zero =>
    have reached : counter = limit := UInt64.toNat_inj.mp left
    rw [settleCounting,settle,map_bind]
    refine bind_congr fun chosen => ?_
    cases chosen with
    | none => rfl
    | some transition => simp only [if_pos reached]; rfl
  | succ remaining ih =>
    have bounded := limit.toNat_lt
    have further : counter ≠ limit := by
      rintro rfl
      omega
    have fits : counter.toNat + 1 ≠ 2^64 := by omega
    have next : (counter + 1).toNat = counter.toNat + 1 := by
      rw [UInt64.toNat_add]
      exact Nat.mod_eq_of_lt (by simp; omega)
    rw [settleCounting,settle,map_bind]
    refine bind_congr fun chosen => ?_
    cases chosen with
    | none => rfl
    | some transition =>
      simp only [if_neg further,if_neg fits,map_bind]
      exact bind_congr fun later => ih (counter + 1) later (by omega)

end Graph

/-! ## Higher limits -/

/-- A macrostep, or a part of it, has failed because it did not settle within the limit. -/
def Unsettled {α : Type} : Except (Failure M.State) α → Prop
  | .error (.microstepLimit _ _) => True
  | _ => False

namespace Dialogue

variable {Q : Type} {A : Q → Type} {α β : Type}

/-- One dialogue goes on like another until that one gives up. -/
inductive Extends (givesUp : α → Prop) : Dialogue Q A α → Dialogue Q A α → Prop where
  | done (result : α) : Extends givesUp (.done result) (.done result)
  | ask {question : Q} {next further : A question → Dialogue Q A α}
      (onward : ∀ given, Extends givesUp (next given) (further given)) :
      Extends givesUp (.ask question next) (.ask question further)
  | beyond {result : α} (ended : givesUp result) (further : Dialogue Q A α) : Extends givesUp (.done result) further

variable {givesUp : α → Prop} {dialogue further : Dialogue Q A α} {result : α}

theorem Extends.refl (givesUp : α → Prop) (dialogue : Dialogue Q A α) : Extends givesUp dialogue dialogue := by
  induction dialogue with
  | done result => exact .done result
  | ask question next ih => exact .ask ih

/-- The same opening is followed by one thing and by another. -/
theorem Extends.bind (dialogue : Dialogue Q A β) {sequel other : β → Dialogue Q A α}
    (onward : ∀ value, Extends givesUp (sequel value) (other value)) :
    Extends givesUp (dialogue >>= sequel) (dialogue >>= other) := by
  induction dialogue with
  | done value => exact onward value
  | ask question next ih => exact .ask ih

/-- Unless the first one gives up, both come to the same. -/
theorem Extends.run {σ : Type} {answer : (question : Q) → σ → A question × σ} {before after : σ}
    (related : Extends givesUp dialogue further) (runs : dialogue.run answer before = (result,after))
    (lasts : ¬ givesUp result) : further.run answer before = (result,after) := by
  induction related generalizing before with
  | done => exact runs
  | ask _ ih => exact ih _ runs
  | beyond ended further =>
    cases runs
    exact absurd ended lasts

end Dialogue

/-- A move goes on like another one until that one does not settle within the limit. -/
def Move.Extends {α : Type} (move further : Move M α) : Prop := Dialogue.Extends Unsettled move.run further.run

theorem Move.Extends.refl {α : Type} (move : Move M α) : move.Extends move := Dialogue.Extends.refl _ _

theorem Move.Extends.bind {α β : Type} (move : Move M β) {sequel other : β → Move M α}
    (onward : ∀ value, (sequel value).Extends (other value)) : Move.Extends (move >>= sequel) (move >>= other) := by
  rw [Move.Extends,ExceptT.run_bind,ExceptT.run_bind]
  refine Dialogue.Extends.bind _ fun result => ?_
  cases result with
  | ok value => exact onward value
  | error failure => exact .done _

namespace Graph

variable (graph : Graph M) {limit larger : UInt64}

/-- Where more transitions are allowed, a chain goes on as it does otherwise. -/
theorem settle_extends (limit larger : UInt64) (event : Event M) {remaining more : Nat} (higher : remaining ≤ more)
    (step : Step M) : (graph.settle limit event remaining step).Extends (graph.settle larger event more step) := by
  induction remaining generalizing more step with
  | zero =>
    cases more with
    | zero =>
      rw [settle,settle]
      refine .bind _ fun chosen => ?_
      cases chosen with
      | none => exact .refl _
      | some transition => exact .beyond trivial _
    | succ more =>
      rw [settle,settle]
      refine .bind _ fun chosen => ?_
      cases chosen with
      | none => exact .refl _
      | some transition => exact .beyond trivial _
  | succ remaining ih =>
    obtain ⟨more,rfl⟩ : ∃ rest, more = rest + 1 := ⟨more - 1,by omega⟩
    rw [settle,settle]
    refine .bind _ fun chosen => ?_
    cases chosen with
    | none => exact .refl _
    | some transition => exact .bind _ fun later => ih (Nat.le_of_succ_le_succ higher) later

theorem begin_extends (higher : limit ≤ larger) : (graph.begin limit).Extends (graph.begin larger) :=
  .bind _ fun step => graph.settle_extends limit larger .init higher step

theorem react_extends (higher : limit ≤ larger) (state : M.State) (context : M.Context) (event : Event M) :
    (graph.react limit state context event).Extends (graph.react larger state context event) := by
  refine .bind _ fun chosen => ?_
  cases chosen with
  | none => exact .refl _
  | some transition => exact .bind _ fun step => graph.settle_extends limit larger event higher step

end Graph

end Statechart
