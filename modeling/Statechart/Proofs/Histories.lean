import Mathlib.Data.List.Induction
import Statechart.Proofs.Trails

/-!
# Histories: the newest records of all steps

What an interpreter remembers of its way are the newest records of the steps that it has committed
(`Trail.history`). With a limit that they do not exceed, nothing is forgotten, and states can be counted in
the steps as well as in the history (`Trail.entries`).
-/
namespace Statechart

/-! ## Adding records one after another -/

namespace History

variable {S T : Type}

theorem limit_foldl (history : History S T) (records : List (Record S T)) :
    (records.foldl record history).limit = history.limit := by
  induction records generalizing history with
  | nil => rfl
  | cons entry rest ih => exact (ih _).trans rfl

/-- What has been forgotten once makes no difference any more. -/
theorem newest_append (limit : Option UInt64) (records : List (Record S T)) (entry : Record S T) :
    newest limit (newest limit records ++ [entry]) = newest limit (records ++ [entry]) := by
  cases limit with
  | none => rfl
  | some limit =>
    simp only [newest,List.length_append,List.length_drop,List.length_singleton]
    rw [← List.drop_append_of_le_length (Nat.sub_le _ _),List.drop_drop]
    congr 1
    omega

/-- However many records are added, the newest of all are kept. -/
theorem records_foldl (history : History S T) (records : List (Record S T)) (some : records ≠ []) :
    (records.foldl record history).records = newest history.limit (history.records ++ records) := by
  induction records using List.reverseRecOn with
  | nil => exact absurd rfl some
  | append_singleton earlier entry ih =>
    rw [List.foldl_append,← List.append_assoc]
    have limit := limit_foldl history earlier
    by_cases none : earlier = []
    · subst none
      simp [record]
    · simp only [List.foldl_cons,List.foldl_nil,record,limit,ih none]
      exact newest_append _ _ _

theorem mem_of_newest {limit : Option UInt64} {records : List (Record S T)} {entry : Record S T}
    (member : entry ∈ newest limit records) : entry ∈ records := by
  cases limit with
  | none => exact member
  | some limit => exact List.mem_of_mem_drop member

/-- What is remembered has been remembered before, or it has been added. -/
theorem mem_of_foldl {history : History S T} {records : List (Record S T)} {entry : Record S T}
    (member : entry ∈ (records.foldl record history).records) :
    entry ∈ history.records ∨ entry ∈ records := by
  by_cases none : records = []
  · rw [none] at member
    exact .inl member
  · rw [records_foldl history records none] at member
    exact List.mem_append.mp (mem_of_newest member)

/-- Of all the records that are added to an empty history, the newest are kept. -/
theorem foldl_bounded (limit : UInt64) (records : List (Record S T)) :
    records.foldl record (bounded limit) = ⟨newest (some limit) records,some limit⟩ := by
  by_cases none : records = []
  · simp [none,newest,bounded]
  · have kept := records_foldl (bounded limit) records none
    have bound := limit_foldl (bounded limit) records
    generalize records.foldl record (bounded limit) = history at kept bound ⊢
    cases history
    simp_all [bounded]

/-- As many records as the limit allows are all kept. -/
theorem records_bounded {limit : UInt64} {records : List (Record S T)} (few : records.length ≤ limit.toNat) :
    (records.foldl record (bounded limit)).records = records := by
  by_cases none : records = []
  · subst none
    rfl
  · rw [records_foldl _ _ none]
    simp [newest,bounded,Nat.sub_eq_zero_of_le few]

end History

/-! ## The history of a run -/

variable {M : Machine} {graph : Graph M} {options : Options}

/-- The records of the steps that were committed, oldest first. -/
def walked (trail : List (Moment M)) : List (Record M.State Unit) := (commits trail).flatMap Step.records

theorem walked_append (trail more : List (Moment M)) : walked (trail ++ more) = walked trail ++ walked more := by
  simp [walked,commits_append]

namespace Gathering

variable {here next : Gathering M} {deed : Deed M} {trail : List (Moment M)}

theorem Trail.history (run : (fresh graph options).Trail trail here) :
    here.self.core.history = (walked trail).foldl History.record (.bounded options.historyLimit) := by
  induction run with
  | here => rfl
  | @onward trail deed here next _ moves ih =>
    rw [walked_append,List.foldl_append,← ih]
    cases now : (⟨here,deed⟩ : Moment M).step? with
    | none =>
      simp only [walked,commits_singleton,now]
      exact congrArg Committed.history (moves.committed_of_none now)
    | some step =>
      have follows := here.self.core.committed_commit step
      rw [← moves.core_of_commit now] at follows
      simp only [walked,commits_singleton,now,Option.toList_some,List.flatMap_singleton]
      exact congrArg Committed.history follows

/-- If nothing has been forgotten, a state has been entered as often as the history says. -/
theorem Trail.entries (run : (fresh graph options).Trail trail here)
    (few : (walked trail).length ≤ options.historyLimit.toNat) (state : M.State) :
    here.self.core.history.entries state = (walked trail).countP fun record => record.target = state := by
  rw [History.entries,run.history,History.records_bounded few]

end Gathering

end Statechart
