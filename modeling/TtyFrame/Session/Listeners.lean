/-!
# Listeners

Who is told of changes. A round of telling reaches those who were registered when it
began, whatever they do to the register while it lasts.
-/

set_option autoImplicit false

namespace TtyFrame

structure ListenerId where
  number : Nat
deriving DecidableEq, Repr

structure Listeners (τ : Type) where
  next : Nat := 0
  /-- The listeners in the order in which they came. -/
  entries : List (ListenerId × τ) := []

namespace Listeners

variable {τ : Type}

/-- Registers a listener under an id of its own. -/
def add (listeners : Listeners τ) (listener : τ) : Listeners τ × ListenerId :=
  let id : ListenerId := ⟨listeners.next⟩
  ({ next := listeners.next + 1, entries := listeners.entries ++ [(id, listener)] }, id)

def remove (listeners : Listeners τ) (id : ListenerId) : Listeners τ × Bool :=
  let kept := listeners.entries.filter (·.1 ≠ id)
  ({ listeners with entries := kept }, kept.length ≠ listeners.entries.length)

/-- The listeners that a round of telling reaches, in order. -/
def registered (listeners : Listeners τ) : List τ := listeners.entries.map (·.2)

/-- Tells all registered listeners in order. A call may change anything, the register
included, and the round goes on as it began. -/
def notify {σ : Type} (listeners : Listeners τ) (call : σ → τ → σ) (state : σ) : σ :=
  listeners.registered.foldl call state

end Listeners

end TtyFrame
