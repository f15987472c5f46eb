/-!
# Registries: who is told about snapshots

Listeners are kept in the order they registered, each under a number that no other one gets.
-/
namespace Statechart

/-- Registered listeners with their numbers, and the next number to give away. -/
structure Registry (α : Type) where
  next : Nat := 0
  entries : List (Nat × α) := []
  deriving Repr

namespace Registry

variable {α : Type}

/-- Registers a listener behind all others. -/
def add (registry : Registry α) (listener : α) : Nat × Registry α :=
  (registry.next, ⟨registry.next + 1, registry.entries ++ [(registry.next, listener)]⟩)

/-- Whether a number is that of a registered listener. -/
def holds (registry : Registry α) (number : Nat) : Bool :=
  registry.entries.any fun entry => entry.1 = number

/-- Removes the listener of a number. -/
def remove (registry : Registry α) (number : Nat) : Registry α :=
  { registry with entries := registry.entries.filter fun entry => entry.1 ≠ number }

/-- Removes every listener; numbers given away stay given away. -/
def clear (registry : Registry α) : Registry α := { registry with entries := [] }

/-- The numbers of the registered listeners, oldest first. -/
def numbers (registry : Registry α) : List Nat := registry.entries.map Prod.fst

end Registry

end Statechart
