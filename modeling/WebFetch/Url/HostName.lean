import WebFetch.Url.InternationalName
import WebFetch.Url.NumericHost

/-!
Hosts: names, which may be empty, and addresses.
-/

set_option autoImplicit false

namespace WebFetch

inductive HostName where
  | name (text : String)
  | ipv4 (address : UInt32)
  | ipv6 (pieces : List Nat)
  deriving DecidableEq

namespace HostName

def empty : HostName := .name ""

def render : HostName → String
  | .name text => text
  | .ipv4 address => Ipv4.render address
  | .ipv6 pieces => "[" ++ Ipv6.render pieces ++ "]"

/-- Reads `[…]`; `cs` starts with the bracket. -/
def parseBracketed (cs : List Char) : Except UrlError HostName :=
  if cs.getLast? = some ']' then HostName.ipv6 <$> Ipv6.parse (cs.drop 1).dropLast
  else .error .ipv6

/-- The host of a special URL: a name in its ASCII form, unless its last part is a number. -/
def parse (cs : List Char) : Except UrlError HostName :=
  if cs.head? = some '[' then parseBracketed cs
  else
    let name := Utf8.decodeChars? (Percent.decode (Utf8.encodeChars cs))
    match name.bind InternationalName.toAscii? with
    | none => .error .internationalName
    | some [] => .error .emptyHost
    | some ascii =>
      if Ipv4.endsInNumber ascii then HostName.ipv4 <$> Ipv4.parse ascii
      else .ok (.name (String.ofList ascii))

/-- Characters that the host of any other URL may not hold. -/
def isForbidden (c : Char) : Bool :=
  ['\x00', '\t', '\n', '\r', ' '].contains c ||
    ['#', '/', ':', '<', '>', '?', '@', '[', '\\', ']', '^', '|'].contains c

/-- The host of a URL that is not special, which has no structure but for addresses in brackets. -/
def parseOpaque (cs : List Char) : Except UrlError HostName :=
  if cs.head? = some '[' then parseBracketed cs
  else if cs.any isForbidden then .error .domainCharacter
  else .ok (.name (String.ofList (Percent.encode Percent.controls cs)))

end HostName

end WebFetch
