import CodeGate.Url.Host.Numeric

/-!
# Addresses to listen at

An IPv4 address in four decimal numbers, or an IPv6 address between brackets that may name its scope, and
behind a colon the port in decimal digits.

Follows what `run_http` binds to.
-/

namespace CodeGate.CommandLine

open CodeGate.Url.Numeric

/-- Whether decimal digits stand for a number up to a greatest one. -/
def isDecimalUpTo (greatest : Nat) (cs : List Char) : Bool :=
  cs ≠ [] && cs.all Char.isDigit && ofDigits 10 cs ≤ greatest

/-- Whether a text is a colon and a port. -/
def isPortPart : List Char → Bool
  | ':' :: port => isDecimalUpTo 65535 port
  | _ => false

/-- Whether a text is an IPv6 address, perhaps with a scope. -/
def isScopedIpv6 (cs : List Char) : Bool :=
  let address := cs.takeWhile (· ≠ '%')
  (ipv6? address).isSome &&
    match cs.drop address.length with
    | [] => true
    | _ :: scope => isDecimalUpTo 0xFFFFFFFF scope

/-- Whether a text is an address to listen at. -/
def isSocketAddress (text : String) : Bool :=
  match text.toList with
  | '[' :: cs =>
    let inner := cs.takeWhile (· ≠ ']')
    isScopedIpv6 inner && isPortPart ((cs.drop inner.length).drop 1)
  | cs =>
    let host := cs.takeWhile (· ≠ ':')
    (tailGroups? host).isSome && isPortPart (cs.drop host.length)

end CodeGate.CommandLine
