import BlogConsole.Text.Blank
import BlogConsole.Text.Digit
import BlogConsole.Url.Percent

/-!
Hosts of URLs that are addresses, of IPv4 or of IPv6.
-/

namespace BlogConsole.Url

/-- A host of four groups of digits with dots between them. Such a host has to be an IPv4 address.
-/
def looksIPv4 (cs : List Char) : Bool :=
  let parts := Text.splitWhere (· = '.') cs
  parts.length = 4 && parts.all fun part => !part.isEmpty && part.all Char.isDigit

/-- A number of an IPv4 address: at most three digits, no needless zero, at most 255. -/
def isOctet (cs : List Char) : Bool :=
  !cs.isEmpty && cs.all Char.isDigit && cs.length ≤ 3 && (cs.length = 1 || cs.head? ≠ some '0') &&
    Text.ofDigits (cs.filterMap Text.asciiDigit?) ≤ 255

/-- An IPv4 address: four numbers with points between them. -/
def isIPv4 (cs : List Char) : Bool :=
  let parts := Text.splitWhere (· = '.') cs
  parts.length = 4 && parts.all isOctet

/-- A group of an IPv6 address: one to four digits in base sixteen. -/
def isGroup (cs : List Char) : Bool := !cs.isEmpty && cs.length ≤ 4 && cs.all isHexDigit

/-- The groups of an IPv6 address, in which an IPv4 address at the end counts as two groups. -/
def groups? (cs : List Char) : Option (List (List Char)) :=
  let parts := Text.splitWhere (· = ':') cs
  match parts.getLast? with
  | some last =>
    if last.contains '.' then
      if isIPv4 last then some (parts.dropLast ++ [['0'], ['0']]) else none
    else some parts
  | none => none

/-- The groups around a gap of zeros, which is an empty group: an address may begin or end with the
gap, and then one more empty group stands there. -/
def isGapped (before after : List (List Char)) : Bool :=
  let before := if before = [[]] then [] else before
  let after := if after = [[]] then [] else after
  before.all isGroup && after.all isGroup && before.length + after.length < 8

/-- An IPv6 address, perhaps with a zone after a percent sign. -/
def isIPv6 (cs : List Char) : Bool :=
  let zone := cs.dropWhile (· ≠ '%')
  let address := cs.takeWhile (· ≠ '%')
  let zoneFits := zone = [] || (zone.length > 1 && !(zone.drop 1).contains '%')
  zoneFits && !cs.contains '/' &&
    match groups? address with
    | none => false
    | some gs =>
      let inner := (gs.drop 1).dropLast
      2 < gs.length &&
        match inner.findIdx? List.isEmpty with
        | none => gs.length = 8 && gs.all isGroup
        | some i => isGapped (gs.take (i + 1)) (gs.drop (i + 2))

end BlogConsole.Url
