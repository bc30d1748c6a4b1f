import CodeGate.Text.Blank
import CodeGate.Text.Glyph

/-!
# HTTP requests

The values of headers and the body of a request are rows of bytes, which need not be text.

Follows the request that the handlers `execute` and `graphql` are given; section 11 of the specification.
-/

namespace CodeGate.Http

/-- A method, as far as methods are told apart. -/
inductive Method where
  | get
  | head
  | post
  | other (name : String)
  deriving DecidableEq, Repr

/-- The method with a name. -/
def Method.ofName (name : String) : Method :=
  if name = "GET" then get else if name = "HEAD" then head else if name = "POST" then post else other name

/-- A request. Its target is the path with the query, if there is one, or a whole address with them. -/
structure Request where
  method : Method
  target : String
  headers : List (String × List UInt8) := []
  body : List UInt8 := []
  deriving DecidableEq, Repr

namespace Request

/-- Whether the scheme of an address may have the character. -/
def isSchemeChar (c : Char) : Bool :=
  c.isAlphanum || c = '+' || c = '-' || c = '.'

/-- What stands behind the scheme of an address, if the text is one. -/
def behindScheme? (target : List Char) : Option (List Char) :=
  match target.dropWhile isSchemeChar with
  | ':' :: '/' :: '/' :: rest => some rest
  | _ => none

/-- Whether a character ends the path of a target. -/
def endsPath (c : Char) : Bool := c = '?' || c = '#'

/-- The path of a request: its target up to the query. The path of an address is behind its host, and it
is the root if nothing is there; a host alone has no path. -/
def path (r : Request) : String :=
  let cs := r.target.toList
  if cs.head? = some '/' then String.ofList (cs.takeWhile (!endsPath ·))
  else
    match behindScheme? cs with
    | none => ""
    | some rest =>
      let path := (rest.dropWhile fun c => c ≠ '/' && !endsPath c).takeWhile (!endsPath ·)
      if path = [] then "/" else String.ofList path

/-- The value of the first header with a name, which is written in lower case. -/
def header? (r : Request) (name : String) : Option (List UInt8) :=
  (r.headers.find? fun h => Text.lowerAscii h.1 = name).map Prod.snd

/-- A row of bytes as text, if all of them are tabs or visible ASCII characters. -/
def visible? (bytes : List UInt8) : Option String :=
  if bytes.all fun b => b = 9 || (0x20 ≤ b && b < 0x7F) then
    some (String.ofList (bytes.map fun b => Char.ofNat b.toNat))
  else none

/-- A row of bytes as text in lower case, if it is UTF-8. -/
def lowerText? (bytes : List UInt8) : Option String :=
  let glyphs := Text.Glyph.ofBytes bytes
  if glyphs.all fun | .char _ => true | .stray _ => false then
    some (Text.lowerAscii (Text.Glyph.toStringLossy glyphs))
  else none

/-- Whether a row of characters stands somewhere in another. -/
def occursIn (piece : List Char) : List Char → Bool
  | [] => piece.isEmpty
  | c :: cs => piece.isPrefixOf (c :: cs) || occursIn piece cs

/-- Whether the first header with a name contains a word, which is written in lower case. -/
def headerContains (r : Request) (name word : String) : Bool :=
  ((r.header? name).bind lowerText?).any fun text => occursIn word.toList text.toList

/-- Whether the first header with a name is a word, which is written in lower case. -/
def headerIs (r : Request) (name word : String) : Bool :=
  (r.header? name).bind lowerText? = some word

end Request

end CodeGate.Http
