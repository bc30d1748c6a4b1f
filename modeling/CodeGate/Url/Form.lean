import CodeGate.Url.Percent

/-!
# Form encoding

Pairs of a name and a value in a query: a space is written as a plus sign, and everything but letters,
digits and four marks is percent-encoded, so that neither part can end a pair or start another one.

Follows the query that `with_auth` adds.
-/

namespace CodeGate.Url.Form

/-- What form encoding keeps. -/
def kept (c : Char) : Bool :=
  c.isAlphanum || c == '*' || c == '-' || c == '.' || c == '_'

/-- A name or a value. -/
def encode (cs : List Char) : List Char :=
  cs.flatMap fun c => if c = ' ' then ['+'] else if kept c then [c] else percentChar c

/-- A pair. -/
def pair (name value : String) : List Char :=
  encode name.toList ++ '=' :: encode value.toList

/-- The query with a pair behind what it has. -/
def append (query : Option String) (name value : String) : String :=
  let before := match query with
    | none => []
    | some q => if q = "" then [] else q.toList ++ ['&']
  String.ofList (before ++ pair name value)

end CodeGate.Url.Form
