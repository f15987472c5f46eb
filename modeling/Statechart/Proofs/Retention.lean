import Statechart.Proofs.Histories

/-!
# What a history retains

Whoever adds a record gets a history that has given up its oldest records one by one until the limit is met
(`History.record_eq_evicted`). Over any number of records this leaves the newest of all, however many there were at the
beginning and even if the limit is zero, and every history that was made on the way stays what it was
(`History.keeps_newest`).
-/
namespace Statechart

variable {S T : Type}

/-- Gives up the oldest records, one after another, as long as there are more than allowed. -/
def evict (allowed : Nat) : List (Record S T) → List (Record S T)
  | [] => []
  | oldest :: newer => if allowed < (oldest :: newer).length then evict allowed newer else oldest :: newer

/-- Gives up what is beyond the limit, if there is one. -/
def evicted : Option UInt64 → List (Record S T) → List (Record S T)
  | none, records => records
  | some limit, records => evict limit.toNat records

/-- Of all records the last ones are kept: every one if there is no limit, else as many as the limit allows. -/
structure Retains (limit : Option UInt64) (all kept : List (Record S T)) : Prop where
  last : kept <:+ all
  size : kept.length =
    match limit with
    | none => all.length
    | some limit => min limit.toNat all.length

theorem evict_eq_drop (allowed : Nat) (records : List (Record S T)) :
    evict allowed records = records.drop (records.length - allowed) := by
  induction records with
  | nil => rw [evict,List.drop_nil]
  | cons oldest newer ih =>
    rw [evict]
    split
    · rename_i beyond
      have one : (oldest :: newer).length - allowed = newer.length - allowed + 1 := by
        rw [List.length_cons] at beyond ⊢
        omega
      rw [ih,one,List.drop_succ_cons]
    · rename_i within
      rw [Nat.sub_eq_zero_of_le (Nat.not_lt.mp within),List.drop_zero]

namespace History

theorem newest_eq_evicted (limit : Option UInt64) (records : List (Record S T)) :
    newest limit records = evicted limit records := by
  cases limit with
  | none => rfl
  | some limit => exact (evict_eq_drop limit.toNat records).symm

/-- A record is added at the end, and the oldest ones go one by one. -/
theorem record_eq_evicted (history : History S T) (entry : Record S T) :
    history.record entry = ⟨evicted history.limit (history.records ++ [entry]),history.limit⟩ := by
  rw [record,newest_eq_evicted]

theorem retains_newest (limit : Option UInt64) (records : List (Record S T)) :
    Retains limit records (newest limit records) := by
  cases limit with
  | none => exact ⟨List.suffix_refl _,rfl⟩
  | some limit =>
    refine ⟨List.drop_suffix _ _,?_⟩
    simp only [newest,List.length_drop]
    omega

theorem retains_foldl (history : History S T) {records : List (Record S T)} (some : records ≠ []) :
    Retains history.limit (history.records ++ records) (records.foldl record history).records := by
  rw [records_foldl history records some]
  exact retains_newest _ _

theorem path_eq_nil_iff (history : History S T) : history.path = [] ↔ history.records = [] := by
  rw [path]
  cases history.records <;> simp

theorem path_of_cons {history : History S T} {oldest : Record S T} {newer : List (Record S T)}
    (kept : history.records = oldest :: newer) : history.path = oldest.source :: history.records.map Record.target := by
  rw [path,kept]

/-- Behind its first element, a path shows the state that each record leads to. -/
theorem tail_path (history : History S T) : history.path.tail = history.records.map Record.target := by
  cases kept : history.records with
  | nil => rw [(path_eq_nil_iff history).mpr kept]; rfl
  | cons oldest newer => rw [path_of_cons kept,kept,List.tail_cons]

theorem entries_eq_count [DecidableEq S] (history : History S T) (state : S) :
    history.entries state = history.path.tail.count state := by
  rw [tail_path,List.count,List.countP_map,entries]
  congr 1

/-- However many records are added to whatever history, the newest of all are kept, each history on the way retains
the newest so far, and the path of the result and the entries into each state are those of the records kept. -/
theorem keeps_newest [DecidableEq S] (history : History S T) (first : Record S T) (rest : List (Record S T)) :
    let records := first :: rest
    let after := records.foldl record history
    after.limit = history.limit ∧
    Retains history.limit (history.records ++ records) after.records ∧
    (∀ made between, (records.scanl record history)[made]? = some between →
      between.limit = history.limit ∧
      (made = 0 → between = history) ∧
      (made ≠ 0 → Retains history.limit (history.records ++ records.take made) between.records)) ∧
    (after.path = [] ↔ after.records = []) ∧
    (∀ oldest newer, after.records = oldest :: newer → after.path = oldest.source :: after.records.map Record.target) ∧
    ∀ state, after.entries state = after.path.tail.count state := by
  intro records after
  refine ⟨limit_foldl _ _,retains_foldl history (List.cons_ne_nil _ _),?_,path_eq_nil_iff _,?_,entries_eq_count _⟩
  · intro made between found
    rw [List.getElem?_scanl] at found
    split at found
    · cases found
      refine ⟨limit_foldl _ _,?_,?_⟩
      · rintro rfl
        rfl
      · intro some
        exact retains_foldl history (by simp [records,some])
    · cases found
  · intro oldest newer kept
    exact path_of_cons kept

/-- A limit of zero keeps nothing, and a history that holds more than its limit is cut as soon as a record comes. -/
example (entry : Record S T) : (bounded 0 |>.record entry).records = [] ∧
    ((⟨[entry,entry,entry],some 1⟩ : History S T).record entry).records = [entry] := ⟨rfl,rfl⟩

end History

end Statechart
