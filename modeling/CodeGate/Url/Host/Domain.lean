import CodeGate.Url.Host.Label
import CodeGate.Url.Host.Mapping
import CodeGate.Url.Host.Punycode
import CodeGate.Url.Percent

/-!
# Domain names

A domain name is compared in one form: percent-encoded bytes are decoded, every character is replaced by
what it stands for, and a label with characters outside ASCII is written in Punycode behind `xn--`. A text
whose labels cannot be told apart from others is no domain name.

Follows the hosts that `url` reads.
-/

namespace CodeGate.Url.Domain

/-- The characters that a domain name may not have besides control characters and the space. -/
def forbidden : List Char :=
  ['#', '%', '/', ':', '<', '>', '?', '@', '[', '\\', ']', '^', '|']

/-- Whether a domain name may have the ASCII character. -/
def allowedAscii (c : Char) : Bool :=
  0x20 < c.toNat && c.toNat ≠ 0x7F && !forbidden.contains c

/-- The pieces of a text between its full stops. -/
def labels (cs : List Char) : List (List Char) :=
  cs.splitOn '.'

/-- The labels with full stops between them. -/
def join (ls : List (List Char)) : List Char :=
  List.intercalate ['.'] ls

/-- Whether a text is in ASCII. -/
def isAscii (cs : List Char) : Bool :=
  cs.all (·.toNat < 0x80)

/-- What stands in front of a label in Punycode. -/
def punycodeMark : List Char := "xn--".toList

/-- The greatest length of a text that is read as Punycode. -/
def longestDecoded : Nat := 2000

/-- The greatest length of a label that is written in Punycode. -/
def longestEncoded : Nat := 1000

/-- A label as it is read and as it is written in ASCII. -/
structure Label where
  read : List Char
  written : List Char
  deriving DecidableEq, Repr

/-- The label that a text in Punycode stands for: one that needs it, in the characters that names are made
of. -/
def Label.ofPunycode? (code : List Char) : Option Label := do
  if code.getLast? = some '-' ∨ longestDecoded < code.length then none
  let read ← Punycode.decode? code
  if isAscii read ∨ plain? read ≠ some read then none
  some ⟨read, punycodeMark ++ code⟩

/-- The label that a text is, if it is one. -/
def Label.of? (cs : List Char) : Option Label :=
  if punycodeMark.isPrefixOf cs then
    if isAscii cs then ofPunycode? (cs.drop punycodeMark.length) else none
  else if isAscii cs then some ⟨cs, cs⟩
  else if longestEncoded < cs.length then none
  else some ⟨cs, punycodeMark ++ Punycode.encode cs⟩

/-- Whether labels can be told apart from all others. -/
def areClear (ls : List Label) : Bool :=
  (ls.all fun l => Label.isClear l.read) &&
    (!(ls.any fun l => l.read.any Label.turns) || ls.all fun l => Label.hasOneDirection l.read)

/-- The one form of a domain name, if the text is one. -/
def ascii? (cs : List Char) : Option (List Char) := do
  let decoded ← textOfBytes? (percentDecode cs)
  let ls ← (labels (← plain? decoded)).mapM Label.of?
  let name := join (ls.map Label.written)
  if areClear ls && name.all allowedAscii then some name else none

end CodeGate.Url.Domain
