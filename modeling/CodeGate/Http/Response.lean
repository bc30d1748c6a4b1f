import CodeGate.Wire.Records

/-!
# HTTP responses

A response has a status, the headers that matter here, and a body. A failure of an operation becomes a
response that tells the client about its own mistakes only.

Follows `ApiError`; section 7 of the specification.
-/

namespace CodeGate.Http

/-- A response. -/
structure Response where
  status : Nat
  contentType : Option String := none
  location : Option String := none
  allow : Option String := none
  body : String := ""
  deriving DecidableEq, Repr

namespace Response

/-- The content type of JSON bodies. -/
def jsonType : String := "application/json"

/-- The content type of bodies in words. -/
def textType : String := "text/plain; charset=utf-8"

/-- A response with JSON text. -/
def json (status : Nat) (body : String) : Response :=
  { status, contentType := some jsonType, body }

/-- A response in words. -/
def words (status : Nat) (body : String) : Response :=
  { status, contentType := some textType, body }

/-- The response to a request for the headers alone: the same without its body. -/
def withoutBody (r : Response) : Response := { r with body := "" }

end Response

/-- The code in the body of a response to a client's mistake. -/
def errorCodeValidation : String := "E_VALIDATION"

/-- The code in the body of a response to any other failure. -/
def errorCodeInternal : String := "E_INTERNAL"

/-- The words for any failure that is not the client's. -/
def internalMessage : String := "Internal error"

/-- The status of the response to a failure. -/
def failureStatus (failure : Failure) : Nat :=
  if failure.isClientError then 400 else 500

/-- The response to a failure. -/
def ofFailure (failure : Failure) : Response :=
  let body : Wire.ErrorBody :=
    if failure.isClientError then ⟨errorCodeValidation, failure.message⟩
    else ⟨errorCodeInternal, internalMessage⟩
  .json (failureStatus failure) body.write

end CodeGate.Http
