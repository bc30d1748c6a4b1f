import CodeGate.Failure
import CodeGate.Text.Blank

/-!
# User identifiers

An identifier names exactly one key of the store. So it may not be blank, and it may hold neither a
control character nor one of the characters that separate keys, that the realtime database reserves
or that delimit a URL.

Follows `check_user_id` and `require_user`; section 11 of the specification.
-/

namespace CodeGate.UserId

/-- The characters that an identifier may not hold besides the control characters. -/
def reserved : List Char := ['/', '.', '#', '$', '[', ']', '?', '%']

/-- Whether an identifier may hold the character. -/
def allowed (c : Char) : Bool :=
  !Text.isControl c && !reserved.contains c

/-- The identifier in a text, without the white space around it. -/
def check (text : String) : Except Failure String :=
  let id := Text.trim text
  if id = "" then .error (.missingContext "user_id")
  else if id.toList.all allowed then .ok id
  else .error (.invalidUser id)

/-- The identifier of a request that has to have one. -/
def require (given : Option String) : Except Failure String :=
  match given with
  | none => .error (.missingContext "user_id")
  | some text => check text

end CodeGate.UserId
