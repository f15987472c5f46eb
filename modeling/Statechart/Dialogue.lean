/-!
# Dialogues: programs that ask questions

A dialogue is a finite or endless conversation written as a tree: it is either over, with a
result, or it asks one question and goes on with the answer. The steps of a machine and the
callbacks of a host are both dialogues, so who answers, and what happens between a question and
its answer, is decided outside of them.
-/
namespace Statechart

/-- A program that is over with a result, or asks a question and goes on with its answer. -/
inductive Dialogue (Q : Type) (A : Q → Type) (α : Type) where
  | done (result : α)
  | ask (question : Q) (next : A question → Dialogue Q A α)

namespace Dialogue

variable {Q : Type} {A : Q → Type} {α β γ σ : Type}

/-- Goes on with `f` once the first dialogue is over. -/
def bind : Dialogue Q A α → (α → Dialogue Q A β) → Dialogue Q A β
  | .done result, f => f result
  | .ask question next, f => .ask question fun answer => (next answer).bind f

instance : Monad (Dialogue Q A) where
  pure := .done
  bind := bind

/-! ## Laws -/

@[simp] theorem pure_eq (result : α) : (pure result : Dialogue Q A α) = .done result := rfl

@[simp] theorem done_bind (result : α) (f : α → Dialogue Q A β) :
    ((.done result : Dialogue Q A α) >>= f) = f result := rfl

@[simp] theorem ask_bind (question : Q) (next : A question → Dialogue Q A α)
    (f : α → Dialogue Q A β) :
    ((.ask question next : Dialogue Q A α) >>= f) = .ask question fun answer => next answer >>= f :=
  rfl

theorem bind_done (dialogue : Dialogue Q A α) : dialogue >>= .done = dialogue := by
  induction dialogue with
  | done result => rfl
  | ask question next ih => rw [ask_bind]; congr 1; funext answer; exact ih answer

theorem bind_bind (dialogue : Dialogue Q A α) (f : α → Dialogue Q A β) (g : β → Dialogue Q A γ) :
    dialogue >>= f >>= g = dialogue >>= fun result => f result >>= g := by
  induction dialogue with
  | done result => rfl
  | ask question next ih =>
    simp only [ask_bind]; congr 1; funext answer; exact ih answer

instance : LawfulMonad (Dialogue Q A) :=
  .mk' _ (fun dialogue => bind_done dialogue) (fun _ _ => rfl)
    fun dialogue f g => bind_bind dialogue f g

/-! ## Answering from a state -/

/-- Holds the whole conversation with an answerer that keeps a state of its own. -/
def run (answer : (question : Q) → σ → A question × σ) : Dialogue Q A α → σ → α × σ
  | .done result, state => (result, state)
  | .ask question next, state =>
    let reply := answer question state
    (next reply.1).run answer reply.2

@[simp] theorem run_done (answer : (question : Q) → σ → A question × σ) (result : α) (state : σ) :
    (Dialogue.done result : Dialogue Q A α).run answer state = (result, state) := rfl

theorem run_bind (answer : (question : Q) → σ → A question × σ) (dialogue : Dialogue Q A α)
    (f : α → Dialogue Q A β) (state : σ) :
    (dialogue >>= f).run answer state =
      (f (dialogue.run answer state).1).run answer (dialogue.run answer state).2 := by
  induction dialogue generalizing state with
  | done result => rfl
  | ask question next ih => exact ih _ _

end Dialogue

end Statechart
