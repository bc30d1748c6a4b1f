import CodeGate.Json.Value
import CodeGate.Log

/-!
# What an operation asks of a store

An operation writes through this interface alone, so what holds for every store is said of it. A store
has a state of its own; it answers each write, may log while doing so, and may break down.

Follows `Store`; sections 5 and 9 of the specification.
-/

namespace CodeGate.Store

open CodeGate.Json

/-- A write, with its path as it was given. -/
inductive Write where
  | update (path : String) (fields : Members)
  | set (path : String) (value : Value)
  deriving DecidableEq

/-- How a store answers a write: it did it, it refused, or it broke down. -/
inductive Answer where
  | done
  | refused (message : String)
  | broke
  deriving DecidableEq, Repr

/-- What a write comes to: the answer, what was logged meanwhile, and the state afterwards. -/
structure Effect (σ : Type) where
  answer : Answer
  log : List Log.Entry := []
  state : σ

/-- A store with states of a type. -/
structure Interface (σ : Type) where
  write : Write → σ → Effect σ

/-- The store whose state is the row of all writes asked of it, and that answers all of them alike. -/
def recorder (answer : Answer) : Interface (List Write) where
  write call calls := { answer, state := calls ++ [call] }

end CodeGate.Store
