import CodeGate.Url.Host.Domain
import CodeGate.Url.Host.Numeric

/-!
# Web addresses

A web address in its parts, each as it is written: the path is the row of its segments, of which there is
at least one. Segments are put in place one at a time, and a segment of dots moves in the path instead
of being put there.

Follows the addresses that `url_for` builds with `url`.
-/

namespace CodeGate.Url

/-- A host: a domain name, or a numeric address. -/
inductive Host where
  | domain (name : List Char)
  | ipv4 (address : Nat)
  | ipv6 (groups : List Nat)
  deriving DecidableEq, Repr

/-- A host as it is written. -/
def Host.chars : Host → List Char
  | domain name => name
  | ipv4 address => Numeric.ipv4Text address
  | ipv6 groups => '[' :: Numeric.ipv6Text groups ++ [']']

/-- What is wrong with an address. -/
inductive Fault where
  | relative
  | emptyHost
  | badPort
  | badIpv4
  | badIpv6
  | badDomain
  | badHostCharacter
  deriving DecidableEq, Repr

/-- What is wrong, in words. -/
def Fault.message : Fault → String
  | relative => "relative URL without a base"
  | emptyHost => "empty host"
  | badPort => "invalid port number"
  | badIpv4 => "invalid IPv4 address"
  | badIpv6 => "invalid IPv6 address"
  | badDomain => "invalid international domain name"
  | badHostCharacter => "invalid domain character"

/-- A web address. -/
structure Address where
  secure : Bool
  username : List Char
  password : List Char
  host : Host
  port : Option Nat
  path : List (List Char)
  query : Option (List Char)
  fragment : Option (List Char)
  deriving DecidableEq, Repr

/-- What a segment does to the path before it: it is put there, it stays where the path is (one dot, in
any of its spellings), or it goes up and takes the segment before it away (two dots). -/
inductive Move where
  | put
  | stay
  | up
  deriving DecidableEq, Repr

/-- The characters of a segment with each encoded full stop read as one. -/
def plainDots : List Char → List Char
  | '%' :: '2' :: 'e' :: rest => '.' :: plainDots rest
  | '%' :: '2' :: 'E' :: rest => '.' :: plainDots rest
  | c :: rest => c :: plainDots rest
  | [] => []

/-- What a segment does to a path. -/
def Move.of (segment : List Char) : Move :=
  if plainDots segment = ['.'] then stay
  else if plainDots segment = ['.', '.'] then up
  else put

/-- A drive letter: a letter with a colon or a bar. -/
def isDriveLetter : List Char → Bool
  | [letter, mark] => letter.isAlpha && (mark = ':' || mark = '|')
  | _ => false

/-- The path one segment up. A drive letter is never left. -/
def goUp (path : List (List Char)) : List (List Char) :=
  if path.getLast?.any isDriveLetter then path else path.dropLast

/-- The path with a last segment behind complete ones; one of dots leaves an empty segment at the place
it leads to. -/
def place (done : List (List Char)) (segment : List Char) : List (List Char) :=
  match Move.of segment with
  | .put => done ++ [segment]
  | .stay => done ++ [[]]
  | .up => goUp done ++ [[]]

/-- The path as it is written. -/
def pathChars (path : List (List Char)) : List Char :=
  path.flatMap ('/' :: ·)

namespace Address

/-- The user name and password in front of the host, if there is either. -/
def userInfo (u : Address) : List Char :=
  if u.username = [] ∧ u.password = [] then []
  else u.username ++ (if u.password = [] then [] else ':' :: u.password) ++ ['@']

/-- The address up to its path. -/
def origin (u : Address) : List Char :=
  (if u.secure then "https" else "http").toList ++ "://".toList ++ u.userInfo ++ u.host.chars ++
    (match u.port with
    | none => []
    | some p => ':' :: Nat.toDigits 10 p)

/-- A part behind a mark, if there is one. -/
def behind (mark : Char) : Option (List Char) → List Char
  | none => []
  | some cs => mark :: cs

/-- The address as it is written. -/
def text (u : Address) : String :=
  String.ofList (u.origin ++ pathChars u.path ++ behind '?' u.query ++ behind '#' u.fragment)

/-- The segments that a segment is added to: an empty one at the end is where the next segment goes. -/
def openEnd (path : List (List Char)) : List (List Char) :=
  if 1 < path.length ∧ path.getLast? = some [] then path.dropLast else path

/-- The characters that are not written in an address at all. -/
def isDropped (c : Char) : Bool :=
  c = '\t' || c = '\n' || c = '\r'

/-- The path with a segment put behind it; a path of one empty segment is the root, and the segment goes
right there. -/
def addSegment (path : List (List Char)) (segment : String) : List (List Char) :=
  let encoded := percentEncode keptInSegment (segment.toList.filter (!isDropped ·))
  place (if path = [[]] then [] else path) encoded

/-- The address with segments put behind its path. -/
def addSegments (u : Address) (segments : List String) : Address :=
  { u with path := segments.foldl addSegment (openEnd u.path) }

end Address

end CodeGate.Url
