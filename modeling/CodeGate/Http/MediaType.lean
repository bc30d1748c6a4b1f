import CodeGate.Text.Blank

/-!
# Media types

A media type is a type and a subtype with a slash between them, and parameters behind it. What matters
here is whether the text is one, and whether it says that a body is JSON: `json` is the subtype, or the
part of it before or behind its last plus sign.

Follows what `axum` takes for a JSON body.
-/

namespace CodeGate.Http

/-- A media type without its parameters, in lower case: the type, the subtype up to its last plus sign,
and what is behind that. -/
structure MediaType where
  type : List Char
  subtype : List Char
  suffix : Option (List Char)
  deriving DecidableEq, Repr

namespace MediaType

/-- The characters that names and plain values of parameters are made of. -/
def isToken (c : Char) : Bool :=
  c.isAlphanum || ['!', '#', '$', '%', '&', '\'', '*', '+', '-', '.', '^', '_', '`', '|', '~'].contains c

/-- How far the parameters have been read. -/
inductive Stage where
  | beforeName
  | inName
  | beforeValue
  | inValue
  | firstQuoted
  | quoted
  | behindQuoted

/-- The stage behind one more character, if parameters may go on with it. A quoted value has at least
one character, whatever it is. -/
def Stage.next? (c : Char) : Stage → Option Stage
  | beforeName => if c = ' ' then some beforeName else if isToken c then some inName else none
  | inName => if c = '=' then some beforeValue else if isToken c then some inName else none
  | beforeValue => if c = '"' then some firstQuoted else if isToken c then some inValue else none
  | inValue => if c = ';' then some beforeName else if isToken c then some inValue else none
  | firstQuoted => if 0x20 ≤ c.toNat ∧ c.toNat ≠ 0x7F then some quoted else none
  | quoted =>
    if c = '"' then some behindQuoted
    else if 0x20 ≤ c.toNat ∧ c.toNat ≠ 0x7F then some quoted
    else none
  | behindQuoted => if c = ';' then some beforeName else if c = ' ' then some behindQuoted else none

/-- Whether parameters may end at a stage. -/
def Stage.isEnd : Stage → Bool
  | beforeName | beforeValue | inValue | behindQuoted => true
  | _ => false

/-- Whether a text is made of parameters, none included, from a stage on. -/
def isParameters : Stage → List Char → Bool
  | stage, [] => stage.isEnd
  | stage, c :: cs =>
    match stage.next? c with
    | none => false
    | some stage => isParameters stage cs

/-- A name cut at its last plus sign, which may not be its first character. -/
def cutSuffix (name : List Char) : List Char × Option (List Char) :=
  let suffix := name.reverse.takeWhile (· ≠ '+')
  let front := (name.reverse.drop (suffix.length + 1)).reverse
  if front = [] then (name, none) else (front, some suffix.reverse)

/-- The media type that a text stands for. -/
def ofText? (text : String) : Option MediaType :=
  let cs := text.toList
  let type := cs.takeWhile isToken
  match cs.dropWhile isToken with
  | '/' :: r =>
    let name := r.takeWhile isToken
    let sound : Bool :=
      match r.dropWhile isToken with
      | [] => true
      | ';' :: parameters => name ≠ [] && isParameters .beforeName parameters
      | _ => false
    if type ≠ [] ∧ sound then
      let (subtype, suffix) := cutSuffix (name.map Char.toLower)
      some ⟨type.map Char.toLower, subtype, suffix⟩
    else none
  | _ => none

/-- Whether a body of the type is JSON. -/
def isJson (m : MediaType) : Bool :=
  m.type = "application".toList && (m.subtype = "json".toList || m.suffix = some "json".toList)

end MediaType

end CodeGate.Http
