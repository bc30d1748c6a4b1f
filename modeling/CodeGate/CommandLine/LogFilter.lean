import CodeGate.CommandLine.Pattern
import CodeGate.Log
import CodeGate.Settings.Number
import CodeGate.Text.Alphanumeric
import CodeGate.Text.Blank

/-!
# Which log entries are shown

A filter is a row of directives with commas between them. A directive names a level, and perhaps what the
level is for: a part of the program, entries with a field, or entries inside a span of time. No entry is
inside a span, so those directives show nothing. Of the directives that are for an entry the one for the
smallest part counts, and of those for one part the one that names a field; without any, nothing is shown.

Follows `init_tracing` and the `EnvFilter` it builds; section 10.2 of the specification.
-/

namespace CodeGate.CommandLine

/-- A directive: the part and the field it is for, unless it is for all, whether it is for spans only, and
the rank of the last level it shows. -/
structure Directive where
  part : Option String := none
  field : Option String := none
  inSpan : Bool := false
  rank : Nat := Log.Level.trace.rank
  deriving DecidableEq, Repr

/-- The rank of a level that is written as a word or as a number. -/
def rankOf? (text : String) : Option Nat :=
  let digits := match text.toList with
    | '+' :: cs => cs
    | cs => cs
  if digits ≠ [] ∧ digits.all Char.isDigit then
    some (digits.foldl (fun n c => n * 10 + (c.toNat - 48)) 0) |>.filter (· ≤ 5)
  else if text = "" then some Log.Level.error.rank
  else if Text.lowerAscii text = "off" then some 0
  else
    ([Log.Level.error, .warn, .info, .debug, .trace].find? fun level =>
      Text.lowerAscii level.name = Text.lowerAscii text).map (·.rank)

/-- What part of a directive is being read, and where it starts. -/
inductive DirectivePart where
  | nothing
  | levelOrTarget (start : Nat)
  | span (start : Nat)
  | field (start : Nat)
  | fieldEnd
  | spanEnd
  | level (start : Nat)
  deriving DecidableEq, Repr

/-- Whether a field can be held against a text: a number, or else a pattern. -/
def isFieldValue (cs : List Char) : Bool :=
  (Settings.fractional? cs).isSome || Pattern.isPattern cs

/-- What is told between braces about the field of a directive: its name, and perhaps a value between one
equals sign and the next, which only spans can have. -/
def Directive.withField? (d : Directive) (said : List Char) : Option Directive :=
  let name := said.takeWhile (· ≠ '=')
  let value := (said.drop (name.length + 1)).takeWhile (· ≠ '=')
  if said = [] ∨ !isFieldValue value then none
  else some { d with field := some (String.ofList name), inSpan := d.inSpan || name.length < said.length }

/-- Reads the character at a place of a directive; `cut` gives what is written from one place to
before another. -/
def Directive.step? (cut : Nat → Nat → List Char) (place : Nat) (c : Char) (part : DirectivePart) (d : Directive) :
    Option (DirectivePart × Directive) :=
  let target (start : Nat) : Directive := { d with part := some (String.ofList (cut start place)) }
  match part with
  | .nothing =>
    if c = '[' then some (.span (place + 1), d)
    else if Text.isAlphanumeric c || c = '-' || c = ':' || c = '_' then some (.levelOrTarget place, d)
    else none
  | .levelOrTarget start =>
    if c = '=' then some (.level (place + 1), target start)
    else if c = '[' then some (.span (place + 1), target start)
    else some (part, d)
  | .span start =>
    if c = ']' then some (.spanEnd, { d with inSpan := true })
    else if c = '\x7b' then some (.field (place + 1), { d with inSpan := cut start place ≠ [] })
    else some (part, d)
  | .field start =>
    if c = '\x7d' then (d.withField? (cut start place)).map (.fieldEnd, ·) else some (part, d)
  | .fieldEnd => if c = ']' then some (.spanEnd, d) else none
  | .spanEnd => if c = '=' then some (.level (place + 1), d) else none
  | .level _ => some (part, d)

/-- The directive that has been read when the text ends; a part without a level shows everything. -/
def Directive.finish? (cut : Nat → Nat → List Char) (last : Nat) (part : DirectivePart) (d : Directive) :
    Option Directive :=
  match part with
  | .levelOrTarget start =>
    let word := String.ofList (cut start last)
    match rankOf? word with
    | some rank => some { d with rank }
    | none => some { d with part := some word }
  | .level start =>
    let word := cut start last
    if word = [] then some d else (rankOf? (String.ofList word)).map fun rank => { d with rank }
  | .spanEnd => some d
  | _ => none

/-- Reads a directive from a place on. -/
def Directive.scan (cut : Nat → Nat → List Char) (last place : Nat) (part : DirectivePart) (d : Directive) :
    List Char → Option Directive
  | [] => d.finish? cut last part
  | c :: cs =>
    match d.step? cut place c part with
    | none => none
    | some (part, d) => scan cut last (place + 1) part d cs

/-- The directive in a text. Blanks in front of it are passed over when places are counted, but what is
written is cut from the text with them. -/
def Directive.ofText? (text : String) : Option Directive :=
  let cs := text.toList
  let cut (start stop : Nat) : List Char := (cs.drop start).take (stop - start)
  scan cut cs.length 0 .nothing {} (Text.trim text).toList

/-- The name of the part of the program that all its entries belong to. -/
def programPart : String := "codeviz"

/-- Whether a directive is for an entry. -/
def Directive.isFor (d : Directive) (e : Log.Entry) : Bool :=
  !d.inSpan && (d.part.all fun part => part.toList.isPrefixOf programPart.toList) &&
    (d.field.all fun name => name = "message" || e.fields.any fun f => f.1 = name)

/-- Whether a directive gives way to a later one that is for the same entry. -/
def Directive.yields (d other : Directive) : Bool :=
  let size (d : Directive) : Nat := (d.part.map (·.length + 1)).getD 0
  if size d ≠ size other then size d < size other
  else
    match d.field, other.field with
    | none, _ => true
    | some _, none => false
    | some a, some b => a ≤ b

/-- The rank that directives show up to, of entries like the given one. -/
def shownRank (ds : List Directive) (e : Log.Entry) : Nat :=
  let chosen := (ds.filter (·.isFor e)).foldl (fun (best : Option Directive) d =>
    if best.all (·.yields d) then some d else best) none
  (chosen.map Directive.rank).getD 0

/-- The directives of a filter; a text that is no filter stands for `info`. -/
def directivesOf (text : String) : List Directive :=
  let pieces := (text.toList.splitOn ',').filter (· ≠ [])
  match pieces.mapM fun piece => Directive.ofText? (String.ofList piece) with
  | some ds => ds
  | none => [{ rank := Log.Level.info.rank }]

/-- The entries that a filter shows. -/
def shown (filter : String) (entries : List Log.Entry) : List Log.Entry :=
  let ds := directivesOf filter
  entries.filter fun e => e.level.rank ≤ shownRank ds e

end CodeGate.CommandLine
