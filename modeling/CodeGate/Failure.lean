import CodeGate.Gate
import CodeGate.Text.Quoted

/-!
# Why an operation fails

Only a text that is too long is the client's fault. The client is told of it, and of every other
failure only that there was one.

Follows `CoreError` and `is_client_error`; sections 7 and 10.3 of the specification.
-/

namespace CodeGate

/-- What made an operation fail. -/
inductive Failure where
  | tooLong (refusal : Gate.TooLong)
  | missingContext (what : String)
  | invalidUser (id : String)
  | malformedData (reason : String)
  | store (reason : String)
  | internal (reason : String)
  deriving DecidableEq, Repr

namespace Failure

/-- The failure in words; an identifier is quoted. -/
def message : Failure → String
  | tooLong refusal => "validation error: " ++ refusal.message
  | missingContext what => "missing request context: " ++ what
  | invalidUser id => "invalid user id: " ++ Text.quoted id
  | malformedData reason => "malformed data: " ++ reason
  | store reason => "store error: " ++ reason
  | internal reason => "internal error: " ++ reason

/-- Whether the client sent something that is refused. -/
def isClientError : Failure → Bool
  | tooLong _ => true
  | _ => false

end Failure

end CodeGate
