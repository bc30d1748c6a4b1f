import CodeGate.Url.Basic

/-!
# Reading web addresses

A text is an address if it starts with a scheme and a colon. What follows is read as the scheme asks:
after `http` and `https` there is always a host, however many slashes stand before it, and a backslash
is as good as a slash. Addresses of other schemes are checked only, since nothing is done with them.

Follows the addresses that `url` reads.
-/

namespace CodeGate.Url

/-- A control character below U+0020 or a space. -/
def isLowOrSpace (c : Char) : Bool := c.toNat ≤ 0x20

/-- The characters of a text that count: none of those dropped everywhere, and no control character or
space at the ends. -/
def significant (text : String) : List Char :=
  let cs := text.toList.dropWhile isLowOrSpace
  (cs.reverse.dropWhile isLowOrSpace).reverse.filter (!Address.isDropped ·)

/-- Whether a scheme may have the character behind its first. -/
def isSchemeChar (c : Char) : Bool :=
  c.isAlphanum || c = '+' || c = '-' || c = '.'

/-- The scheme in small letters and what follows its colon. -/
def cutScheme? (cs : List Char) : Option (String × List Char) :=
  match cs with
  | [] => none
  | c :: _ =>
    if c.isAlpha then
      match cs.dropWhile isSchemeChar with
      | ':' :: rest => some (String.ofList ((cs.takeWhile isSchemeChar).map Char.toLower), rest)
      | _ => none
    else none

/-- What kind of scheme an address has. -/
inductive Kind where
  | special
  | file
  | opaqueHost
  deriving DecidableEq, Repr

/-- The kind of a scheme. -/
def Kind.of (scheme : String) : Kind :=
  if scheme ∈ ["http", "https", "ws", "wss", "ftp"] then special
  else if scheme = "file" then file
  else opaqueHost

/-- The port that a scheme has without being told. -/
def defaultPort (scheme : String) : Option Nat :=
  if scheme = "http" ∨ scheme = "ws" then some 80
  else if scheme = "https" ∨ scheme = "wss" then some 443
  else if scheme = "ftp" then some 21
  else none

/-- Whether a character ends the part with user, host and port. -/
def endsAuthority (backslash : Bool) (c : Char) : Bool :=
  c = '/' || c = '?' || c = '#' || (backslash && c = '\\')

/-- The characters before the last of a character and those behind it, if it occurs. -/
def cutAtLast (mark : Char) (cs : List Char) : Option (List Char × List Char) :=
  let back := cs.reverse
  match back.dropWhile (· ≠ mark) with
  | [] => none
  | _ :: front => some (front.reverse, (back.takeWhile (· ≠ mark)).reverse)

/-- The characters before the first colon outside brackets, and the rest. -/
def cutPort (bracket : Bool) : List Char → List Char × List Char
  | [] => ([], [])
  | c :: cs =>
    if c = ':' ∧ !bracket then ([], c :: cs)
    else
      let (host, rest) := cutPort (if c = '[' then true else if c = ']' then false else bracket) cs
      (c :: host, rest)

/-- A host between brackets. -/
def bracketed (cs : List Char) : Except Fault Host :=
  match cs with
  | '[' :: rest =>
    if rest.getLast? = some ']' then
      match Numeric.ipv6? rest.dropLast with
      | some groups => .ok (.ipv6 groups)
      | none => .error .badIpv6
    else .error .badIpv6
  | _ => .error .badIpv6

/-- The host of an address whose hosts are domain names or numeric. -/
def host (cs : List Char) : Except Fault Host :=
  if cs.head? = some '[' then bracketed cs
  else
    match Domain.ascii? cs with
    | none => .error .badDomain
    | some [] => .error .emptyHost
    | some name =>
      if Numeric.endsInNumber name then
        match Numeric.ipv4? name with
        | some n => .ok (.ipv4 n)
        | none => .error .badIpv4
      else .ok (.domain name)

/-- The characters that no host may have. -/
def forbiddenInHost : List Char :=
  ['\x00', '\t', '\n', '\r', ' ', '#', '/', ':', '<', '>', '?', '@', '[', '\\', ']', '^', '|']

/-- The check of a host that means something to its scheme only. -/
def checkOpaqueHost (cs : List Char) : Except Fault Unit :=
  if cs.head? = some '[' then (bracketed cs).map fun _ => ()
  else if cs.any forbiddenInHost.contains then .error .badHostCharacter
  else .ok ()

/-- The value of a port, of which the zeros in front do not count. -/
def portValue (cs : List Char) : Except Fault Nat :=
  if cs.all Char.isDigit ∧ Numeric.ofDigits 10 cs < 65536 then .ok (Numeric.ofDigits 10 cs)
  else .error .badPort

/-- The port behind a host: nothing if it is empty or the one that goes without saying. -/
def port (usual : Option Nat) : List Char → Except Fault (Option Nat)
  | [] => .ok none
  | [_] => .ok none
  | _ :: digits => do
    let p ← portValue digits
    pure (if some p = usual then none else some p)

/-- The user name and the password. -/
def cutUserInfo (cs : List Char) : List Char × List Char :=
  let encode := percentEncode keptInUserInfo
  match cs.dropWhile (· ≠ ':') with
  | [] => (encode cs, [])
  | _ :: password => (encode (cs.takeWhile (· ≠ ':')), encode password)

/-- The segments of a path that is read: `done` are those complete so far, and each piece goes behind
them; the last one stays open. -/
def readPath (done : List (List Char)) : List (List Char) → List (List Char)
  | [] => done
  | [last] => place done last
  | piece :: more =>
    readPath (match Move.of piece with
      | .put => done ++ [piece]
      | .stay => done
      | .up => goUp done) more

/-- The text cut at slashes and backslashes. -/
def pathPieces (cs : List Char) : List (List Char) :=
  (cs.map fun c => if c = '\\' then '/' else c).splitOn '/'

/-- The path of an address. A slash in front of it says nothing. -/
def path (cs : List Char) : List (List Char) :=
  let cs := match cs with
    | '/' :: rest => rest
    | '\\' :: rest => rest
    | cs => cs
  readPath [] ((pathPieces cs).map (percentEncode keptInPath))

/-- The query and the fragment at the end of an address. -/
def tail (cs : List Char) : Option (List Char) × Option (List Char) :=
  let fragment (cs : List Char) := match cs with
    | '#' :: rest => some (percentEncode keptInFragment rest)
    | _ => none
  match cs with
  | '?' :: rest =>
    (some (percentEncode keptInQuery (rest.takeWhile (· ≠ '#'))), fragment (rest.dropWhile (· ≠ '#')))
  | cs => (none, fragment cs)

/-- Reads the rest of an address with a host from the host on. -/
def withHost (scheme : String) (cs : List Char) : Except Fault Address := do
  let authority := cs.takeWhile (!endsAuthority true ·)
  let rest := cs.dropWhile (!endsAuthority true ·)
  let (user, hostAndPort) := (cutAtLast '@' authority).getD ([], authority)
  let (name, portText) := cutPort false hostAndPort
  if name = [] then throw .emptyHost
  let host ← host name
  let port ← port (defaultPort scheme) portText
  let pathText := rest.takeWhile fun c => c ≠ '?' && c ≠ '#'
  let (query, fragment) := tail (rest.dropWhile fun c => c ≠ '?' && c ≠ '#')
  let (username, password) := cutUserInfo user
  pure { secure := scheme = "https", username, password, host, port, path := path pathText, query, fragment }

/-- Checks an address whose scheme gives its hosts their meaning. -/
def checkOpaque (cs : List Char) : Except Fault Unit := do
  match cs with
  | '/' :: '/' :: cs =>
    let authority := cs.takeWhile (!endsAuthority false ·)
    let (user, hostAndPort) := (cutAtLast '@' authority).getD ([], authority)
    let (name, portText) := cutPort false hostAndPort
    checkOpaqueHost name
    if name = [] ∧ (portText ≠ [] ∨ user ≠ [] ∨ authority.contains '@') then throw .emptyHost
    discard (port none (portText.takeWhile (· ≠ '\\')))
  | _ => pure ()

/-- Checks an address of a file. -/
def checkFile (cs : List Char) : Except Fault Unit := do
  match (cs.map fun c => if c = '\\' then '/' else c) with
  | '/' :: '/' :: _ =>
    let name := (cs.drop 2).takeWhile (!endsAuthority true ·)
    if name = [] ∨ isDriveLetter name then pure ()
    else discard (host name)
  | _ => pure ()

/-- What a text is: a web address, or an address of another scheme. -/
inductive Reading where
  | web (address : Address)
  | other
  deriving DecidableEq, Repr

/-- The address that a text stands for. -/
def read (text : String) : Except Fault Reading :=
  match cutScheme? (significant text) with
  | none => .error .relative
  | some (scheme, rest) =>
    match Kind.of scheme with
    | .special => do
      let address ← withHost scheme (rest.dropWhile fun c => c = '/' || c = '\\')
      pure (if scheme = "http" ∨ scheme = "https" then .web address else .other)
    | .file => (checkFile rest).map fun _ => .other
    | .opaqueHost => (checkOpaque rest).map fun _ => .other

end CodeGate.Url
