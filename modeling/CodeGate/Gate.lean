/-!
# The input gate

Text from a client is sanitized and then measured. Sanitizing writes the two angle brackets as their
entities and changes nothing else; since that makes a text longer, the length is that of the sanitized
text, counted in characters.

Follows `sanitize_input`, `validate_code_length` and `ValidatedInput`; sections 3, 4.1 and 8 of the
specification.
-/

namespace CodeGate.Gate

/-- The characters of a text with one character written as an entity. -/
def replaceChar (c : Char) (entity : List Char) (cs : List Char) : List Char :=
  cs.flatMap fun x => if x = c then entity else [x]

/-- The characters of a sanitized text: first each `<`, then each `>` becomes its entity. -/
def sanitizeChars (cs : List Char) : List Char :=
  replaceChar '>' "&gt;".toList (replaceChar '<' "&lt;".toList cs)

/-- The text with its angle brackets written as entities. -/
def sanitize (raw : String) : String :=
  String.ofList (sanitizeChars raw.toList)

/-- The greatest length that is let through, in characters. -/
def lengthLimit : Nat := 10000

/-- The refusal of a text that is too long, with its length. -/
structure TooLong where
  length : Nat
  deriving DecidableEq, Repr

/-- The words for the refusal, whatever the length. -/
def TooLong.message (_ : TooLong) : String :=
  "Code length exceeds 10,000 characters"

/-- Refuses a text that is too long. A text has no more characters than bytes, so one with few bytes
is not counted. -/
def checkLength (text : String) : Except TooLong Unit :=
  if text.utf8ByteSize ≤ lengthLimit then .ok ()
  else if lengthLimit < text.length then .error ⟨text.length⟩
  else .ok ()

/-- A text that went through the gate. -/
structure Admitted where
  text : String
  deriving DecidableEq, Repr

/-- Sanitizes a text and lets it through if it is not too long then. -/
def pass (raw : String) : Except TooLong Admitted := do
  let text := sanitize raw
  checkLength text
  pure ⟨text⟩

end CodeGate.Gate
