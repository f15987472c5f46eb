import Mathlib.Algebra.Group.Nat.Defs
import Mathlib.Data.List.Nodup
import Mathlib.Data.List.Perm.Basic
import Statechart.Proofs.Activities
import Statechart.Proofs.Mail

/-!
# Outcomes: those of an instance that has been left never act

Generations count the instances of a run, so that no two instances share an origin, as long as the
counter does not wrap around. An outcome carries the origin of its instance, and unless that instance is
live when the outcome is taken out of the mailbox, nothing comes of it (`stale_outcomes`).
-/
namespace Statechart

variable {M : Machine} {graph : Graph M} {options : Options}

/-- The activity that an outcome is from: its instance, and which one of the two it is. -/
def Event.sender? : Event M → Option (Origin M × Source)
  | .init => none
  | .signal _ => none
  | .done origin _ => some (origin,.service)
  | .failed origin _ => some (origin,.service)
  | .elapsed origin => some (origin,.timer)

def Activity.sender (activity : Activity M) : Origin M × Source := (activity.origin,activity.source)

theorem Activity.EndsWith.sender {activity : Activity M} {event : Event M} (ends : activity.EndsWith event) :
    event.sender? = some activity.sender := by
  cases ends with
  | timer origin span due => rfl
  | service origin task phase outcome => cases outcome <;> rfl

/-! ## Generations count instances -/

theorem Generation.toNat_next (generation : Generation) (room : generation.value.toNat + 1 < 2^64) :
    generation.next.value.toNat = generation.value.toNat + 1 := by
  rw [next,UInt64.toNat_add]
  exact Nat.mod_eq_of_lt room

namespace Gathering

variable {here next : Gathering M} {deed : Deed M} {trail : List (Moment M)}

/-- The generations of the instances that have begun to live, in that order, are one, two, three and so
on, and the last of them is the present one. -/
theorem Trail.generations (run : (fresh graph options).Trail trail here) (few : (births trail).length < 2^64) :
    here.self.core.generation.value.toNat = (births trail).length ∧
      (births trail).map (fun origin => origin.generation.value.toNat) = List.range' 1 (births trail).length := by
  induction run with
  | here => exact ⟨rfl,rfl⟩
  | @onward trail deed here next run moves ih =>
    rw [births_append,births_singleton] at few ⊢
    have generation := moves.generation
    cases born : (⟨here,deed⟩ : Moment M).birth? with
    | none =>
      rw [born] at few generation
      simp only [Option.toList_none,List.append_nil] at few ⊢
      rw [generation]
      exact ih few
    | some origin =>
      rw [born] at few generation
      simp only [Option.toList_some,List.length_append,List.length_singleton] at few ⊢
      obtain ⟨present,earlier⟩ := ih (by omega)
      obtain ⟨step,entry,_,_,same⟩ := Moment.birth?_eq_some_iff.mp born
      have advances := here.self.core.generation.toNat_next (by omega)
      rw [generation]
      refine ⟨by rw [advances,present],?_⟩
      rw [List.map_append,earlier,List.range'_concat,same]
      simp [advances,present,Nat.add_comm]

theorem births_nodup (counted : (births trail).map (fun origin => origin.generation.value.toNat) =
    List.range' 1 (births trail).length) : (births trail).Nodup := by
  have distinct : ((births trail).map fun origin => origin.generation.value.toNat).Nodup := by
    rw [counted]
    exact List.nodup_range'
  exact distinct.of_map

/-- The live instance is the one that has begun to live last. -/
theorem Trail.origin (run : (fresh graph options).Trail trail here) :
    here.self.core.origin = (births trail).getLast?.getD ⟨graph.initial,.first⟩ := by
  induction run with
  | here => rfl
  | @onward trail deed here next run moves ih =>
    rw [moves.origin run.reachable,births_append,births_singleton,ih]
    cases (⟨here,deed⟩ : Moment M).birth? with
    | none => simp
    | some origin => simp

/-- An instance that has been left does not live again. -/
theorem Trail.left {before after : List (Moment M)} {moment : Moment M}
    (run : (fresh graph options).Trail (before ++ moment :: after) here)
    (few : (births (before ++ moment :: after)).length < 2^64) (left : births (moment :: after) ≠ []) :
    moment.here.self.core.origin ≠ here.self.core.origin := by
  intro same
  obtain ⟨_,earlier,_,_⟩ := run.split
  have now := (run.generations few).1
  rw [births_append,List.length_append] at few now
  have then_ := (earlier.generations (by omega)).1
  have some := List.length_pos_iff.mpr left
  have still : moment.here.self.core.generation = here.self.core.generation := congrArg Origin.generation same
  rw [← still] at now
  omega

/-! ## Every activity reports once -/

/-- The activities that have reported an outcome which was accepted, and those that still may. -/
def reporters (trail : List (Moment M)) (here : Gathering M) : List (Origin M × Source) :=
  (accepted trail).filterMap Event.sender? ++ here.self.core.activities.map Activity.sender

/-- Whoever reports does so once, and belongs to an instance that has begun to live. -/
structure Unspent (trail : List (Moment M)) (here : Gathering M) : Prop where
  once : (reporters trail here).Nodup
  born : ∀ reporter ∈ reporters trail here, reporter.1 ∈ births trail

/-- Only a delivery brings an outcome into the mailbox. -/
theorem reporters_undelivered (undelivered : ∀ place event, deed ≠ .deliver place event) :
    reporters (trail ++ [⟨here,deed⟩]) next =
      (accepted trail).filterMap Event.sender? ++ next.self.core.activities.map Activity.sender := by
  have silent : (accepted [(⟨here,deed⟩ : Moment M)]).filterMap Event.sender? = [] := by
    rw [accepted_singleton,Moment.accepted?]
    split
    · cases deed with
      | send signal => rfl
      | deliver place event => exact absurd rfl (undelivered place event)
      | _ => rfl
    · rfl
  rw [reporters,accepted_append,List.filterMap_append,silent,List.append_nil]

/-- With its delivery an activity moves over to those that have reported. -/
theorem Moves.reporters_delivered {place : Nat} {event : Event M} (moves : here.Moves (.deliver place event) next)
    (tended : here.self.core.Tended graph) (trail : List (Moment M)) :
    (reporters (trail ++ [⟨here,.deliver place event⟩]) next).Perm (reporters trail here) := by
  cases moves with
  | @turn self _ _ waiting turn =>
    cases turn with
    | @deliver _ activity _ found ends =>
      have running : self.core.status = .running := tended.running found
      obtain ⟨inside,there⟩ := List.getElem?_eq_some_iff.mp found
      have taken := (List.getElem_cons_eraseIdx_perm inside).map Activity.sender
      rw [there,List.map_cons] at taken
      rw [reporters,accepted_append,accepted_singleton,Moment.accepted?,if_pos running,List.filterMap_append,
        Interpreter.core_post]
      simpa [reporters,Interpreter.setActivity,ends.sender] using taken.append_left ((accepted trail).filterMap Event.sender?)

/-- Without a delivery and without a new instance nobody is added. -/
theorem Moves.reporters_unborn (moves : here.Moves deed next) (reachable : here.Reachable graph options)
    (tended : next.self.core.Tended graph) (unborn : (⟨here,deed⟩ : Moment M).birth? = none)
    (undelivered : ∀ place event, deed ≠ .deliver place event) (trail : List (Moment M)) :
    (reporters (trail ++ [⟨here,deed⟩]) next).Sublist (reporters trail here) := by
  rw [reporters_undelivered undelivered]
  apply List.Sublist.append_left
  by_cases running : next.self.core.status = .running
  · have same := moves.activities reachable running
    rw [unborn] at same
    rw [same]
    cases moves with
    | back => exact List.Sublist.refl _
    | join => exact List.Sublist.refl _
    | turn turn =>
      cases turn with
      | deliver _ _ => exact absurd rfl (undelivered _ _)
      | @sleep _ activity later found continues =>
        obtain ⟨origin,duty⟩ := continues.same
        have sender : later.sender = activity.sender := by
          simp only [Activity.sender,Activity.source,origin,duty]
        rw [Deed.tend,map_set_of_same found sender]
      | _ => exact List.Sublist.refl _
  · rw [tended.idle running]
    exact List.nil_sublist _

theorem Unspent.onward (unspent : Unspent trail here) (run : (fresh graph options).Trail trail here)
    (moves : here.Moves deed next) (few : (births (trail ++ [⟨here,deed⟩])).length < 2^64) :
    Unspent (trail ++ [⟨here,deed⟩]) next := by
  have tended := (run.onward moves).tended
  obtain ⟨once,before⟩ := unspent
  have older : ∀ origin ∈ births trail, origin ∈ births (trail ++ [⟨here,deed⟩]) := by
    intro origin member
    rw [births_append]
    exact List.mem_append_left _ member
  by_cases delivered : ∃ place event, deed = .deliver place event
  · obtain ⟨place,event,delivers⟩ := delivered
    subst delivers
    have moved := moves.reporters_delivered run.tended trail
    exact ⟨moved.nodup_iff.mpr once,fun reporter member => older _ (before reporter (moved.mem_iff.mp member))⟩
  · have undelivered : ∀ place event, deed ≠ .deliver place event := fun place event same => delivered ⟨place,event,same⟩
    cases born : (⟨here,deed⟩ : Moment M).birth? with
    | none =>
      have fewer := moves.reporters_unborn run.reachable tended born undelivered trail
      exact ⟨once.sublist fewer,fun reporter member => older _ (before reporter (fewer.subset member))⟩
    | some origin =>
      have live : ∀ reporter ∈ next.self.core.activities.map Activity.sender, reporter.1 = origin := by
        intro reporter member
        obtain ⟨activity,among,same⟩ := List.mem_map.mp member
        rw [← same,Activity.sender,tended.own activity among,moves.origin run.reachable,born,Option.getD_some]
      have reported : ∀ reporter ∈ (accepted trail).filterMap Event.sender?, reporter.1 ∈ births trail :=
        fun reporter member => before reporter (List.mem_append_left _ member)
      have whole : births (trail ++ [⟨here,deed⟩]) = births trail ++ [origin] := by
        rw [births_append,births_singleton,born,Option.toList_some]
      -- the new instance is none of those that were there before
      have new : origin ∉ births trail := by
        have distinct := births_nodup ((run.onward moves).generations few).2
        rw [whole] at distinct
        exact fun old => (List.nodup_append.mp distinct).2.2 origin old origin (by simp) rfl
      have senders : (next.self.core.activities.map Activity.sender).Nodup := by
        apply List.Nodup.of_map Prod.snd
        rw [List.map_map]
        exact tended.sources_nodup
      constructor
      · rw [reporters_undelivered undelivered]
        refine List.nodup_append.mpr ⟨(List.nodup_append.mp once).1,senders,?_⟩
        intro past among young active same
        subst same
        exact new (live past active ▸ reported past among)
      · intro reporter member
        rw [reporters_undelivered undelivered] at member
        rcases List.mem_append.mp member with old | young
        · exact older _ (reported reporter old)
        · rw [whole,live reporter young]
          exact List.mem_append_right _ (List.mem_singleton_self origin)

theorem Trail.unspent (run : (fresh graph options).Trail trail here) (few : (births trail).length < 2^64) :
    Unspent trail here := by
  induction run with
  | here =>
    refine ⟨List.nodup_nil,?_⟩
    intro reporter member
    cases member
  | onward run moves ih =>
    have fewer := few
    rw [births_append,List.length_append] at fewer
    exact (ih (by omega)).onward run moves few

/-- Every instance has at most one outcome of its service and at most one of its timer processed. -/
theorem Trail.handed_once (run : (fresh graph options).Trail trail here) (few : (births trail).length < 2^64) :
    ((handed trail).filterMap Event.sender?).Nodup := by
  have once := (List.nodup_append.mp (run.unspent few).once).1
  exact once.sublist (run.handed_sublist.filterMap _)

/-! ## Outcomes that come too late -/

/-- An outcome that comes too late is thrown away, and nobody notices. -/
theorem Moves.dropped (moves : here.Moves .go next) {event : Event M} {origin : Origin M}
    (taken : (⟨here,.go⟩ : Moment M).handed? = some event) (carried : event.origin = some origin)
    (left : origin ≠ here.self.core.origin) :
    next = ⟨{ here.self with mailbox := here.self.mailbox.tail },here.waiting⟩ ∧
      here.self.notes next.self .go = [] := by
  obtain ⟨_,drainer,firstError,below,rest,top,mail⟩ := Moment.handed?_eq_some_iff.mp taken
  simp only at top mail
  have refused : here.self.core.accepts event = false := by simpa [Core.accepts,carried] using left
  have goes : here.self.tick.1 = { here.self with mailbox := rest } := by
    simp [Interpreter.tick,Interpreter.processNext,top,mail,refused]
  rw [moves.of_go,goes,mail]
  exact ⟨rfl,by simp [Interpreter.notes,top]⟩

/-- As long as there are fewer commits than generations, generations count the instances: no two
instances are the same, and one that has been left does not live again. Whatever a macrostep in
progress, or a callback of it, is shown of the outcome of an activity, comes from the live instance. An
outcome of any other instance is thrown away when it is taken out of the mailbox, and every activity
has at most one outcome taken out. -/
theorem stale_outcomes (run : (fresh graph options).Trail trail here) (few : (commits trail).length < 2^64) :
    here.self.core.generation.value.toNat = (births trail).length ∧
    (births trail).map (fun origin => origin.generation.value.toNat) = List.range' 1 (births trail).length ∧
    (births trail).Nodup ∧
    here.self.core.origin = (births trail).getLast?.getD ⟨graph.initial,.first⟩ ∧
    (∀ before moment after, trail = before ++ moment :: after → births (moment :: after) ≠ [] →
      moment.here.self.core.origin ≠ here.self.core.origin) ∧
    (∀ frame ∈ here.macrosteps, ∀ event origin, frame.event? = some event → event.origin = some origin →
      origin = here.self.core.origin) ∧
    (∀ query resume origin, here.self.prompt = some (.query query resume) → query.event.origin = some origin →
      origin = here.self.core.origin) ∧
    (∀ event origin next, (⟨here,.go⟩ : Moment M).handed? = some event → event.origin = some origin →
      origin ≠ here.self.core.origin → here.Moves .go next →
        next = ⟨{ here.self with mailbox := here.self.mailbox.tail },here.waiting⟩ ∧
          here.self.notes next.self .go = []) ∧
    ((handed trail).filterMap Event.sender?).Nodup := by
  have fewer : (births trail).length < 2^64 := Nat.lt_of_le_of_lt (births_le_commits trail) few
  obtain ⟨present,counted⟩ := run.generations fewer
  refine ⟨present,counted,births_nodup counted,run.origin,?_,?_,?_,?_,run.handed_once fewer⟩
  · intro before moment after whole left
    subst whole
    exact run.left fewer left
  · intro frame member event origin shown carried
    exact run.reachable.event_origin member shown carried
  · intro query resume origin asked carried
    obtain ⟨frame,member,shown⟩ := run.reachable.asks asked
    exact run.reachable.event_origin member shown carried
  · intro event origin next taken carried left moves
    exact moves.dropped taken carried left

/-- The kettle is told to begin anew, and while it does so its delay is over. -/
theorem kettle_cools :
    ∃ trail here next, (fresh kettle {}).Trail trail here ∧ here.Moves .go next ∧ (commits trail).length = 2 ∧
      (⟨here,.go⟩ : Moment Bench.machine).handed? = some (.elapsed ⟨.a,⟨1⟩⟩) ∧
      here.self.core.origin = ⟨.a,⟨2⟩⟩ := by
  have made : Trail (fresh kettle {}) [] _ := .here
  have started := made.onward (.turn (.start true))
  have filled := started.onward (.turn (.answer rfl (by exact Bench.Task.instant (.ok 1))))
  have committed := filled.onward (.turn (.go rfl))
  have told := committed.onward (.turn (.go rfl))
  have drained := told.onward (.turn (.go rfl))
  have slept := drained.onward (.turn (@Turn.sleep _ _ 1 _ _ rfl (.timer _ _ 5)))
  have renewed := slept.onward (.turn (.send (Bench.Signal.mk .go 0)))
  have taken := renewed.onward (.turn (.go rfl))
  have whistled := taken.onward (.turn (@Turn.deliver _ _ 1 _ _ rfl (.timer _ _ 5)))
  have refilled := whistled.onward (.turn (.answer rfl (by exact Bench.Task.instant (.ok 2))))
  have again := refilled.onward (.turn (.go rfl))
  have heard := again.onward (.turn (.go rfl))
  exact ⟨_,_,_,heard,.turn (.go rfl),rfl,rfl,rfl⟩

theorem kettle_stale_outcomes :
    ∃ trail here next, (fresh kettle {}).Trail trail here ∧ (commits trail).length < 2^64 ∧ here.Moves .go next ∧
      (⟨here,.go⟩ : Moment Bench.machine).handed? = some (.elapsed ⟨.a,⟨1⟩⟩) ∧
      births trail ≠ [] ∧ here.self.core.generation.value.toNat = (births trail).length ∧
      next.self.core = here.self.core ∧ here.self.notes next.self .go = [] := by
  obtain ⟨trail,here,next,run,moves,two,taken,live⟩ := kettle_cools
  have few : (commits trail).length < 2^64 := by rw [two]; decide
  obtain ⟨present,_,_,origin,_,_,_,dropped,_⟩ := stale_outcomes run few
  have left : (⟨.a,⟨1⟩⟩ : Origin Bench.machine) ≠ here.self.core.origin := by rw [live]; decide
  obtain ⟨goes,silent⟩ := dropped _ _ _ taken rfl left moves
  refine ⟨trail,here,next,run,few,moves,taken,?_,present,?_,silent⟩
  · intro none
    rw [none,live] at origin
    exact absurd origin (by decide)
  · rw [goes]

end Gathering

end Statechart
