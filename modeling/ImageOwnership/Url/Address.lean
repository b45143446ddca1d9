import ImageOwnership.Url.Percent

/-!
Numeric host addresses: four decimal octets, or eight hexadecimal groups of which one run may be left
out and the last two may be written as octets.
-/

namespace ImageOwnership.Address

def number (digits : List Char) : Nat :=
  digits.foldl (fun number digit => 10 * number + (digit.toNat - '0'.toNat)) 0

/-- A decimal octet: up to three digits, no zero before another digit, at most 255. -/
def isOctet (text : List Char) : Bool :=
  !text.isEmpty && text.all Char.isDigit && text.length ≤ 3 &&
    (text = ['0'] || text.head? ≠ some '0') && number text ≤ 255

def isIpv4 (text : List Char) : Bool :=
  let octets := text.splitOn '.'
  octets.length = 4 && octets.all isOctet

/-- Whether a host is written as four numbers with dots between them, so that it has to be an
address. A number alone and numbers with other marks between them, such as `1-2-3-4`, are names. -/
def looksLikeIpv4 (text : List Char) : Bool :=
  let numbers := text.splitOn '.'
  numbers.length = 4 && numbers.all fun number => !number.isEmpty && number.all Char.isDigit

def isGroup (text : List Char) : Bool :=
  !text.isEmpty && text.length ≤ 4 && text.all fun char => (Percent.hexValue? char).isSome

/-- The groups with octets at the end replaced by the two groups that they stand for. -/
def widened? (groups : List (List Char)) : Option (List (List Char)) :=
  match groups.getLast? with
  | some last =>
      if last.contains '.' then
        if isIpv4 last then some (groups.dropLast ++ [['0'], ['0']]) else none
      else
        some groups
  | none => none

/-- Groups around a run that is left out: at either end of the address the run has an empty group of
its own beside it, and at least one group must be left out. -/
def shortened (before after : List (List Char)) : Bool :=
  let first := if before = [[]] then [] else before
  let second := if after = [[]] then [] else after
  first.all isGroup && second.all isGroup && first.length + second.length < 8

def isIpv6Groups (groups : List (List Char)) : Bool :=
  match (groups.drop 1).dropLast.count [], groups with
  | 0, _ => groups.length = 8 && groups.all isGroup
  | 1, first :: rest =>
      let before := first :: rest.takeWhile (· ≠ [])
      let after := (rest.dropWhile (· ≠ [])).drop 1
      groups.length ≤ 9 && shortened before after
  | _, _ => false

/-- An address, perhaps with a zone after a percent sign. -/
def isIpv6 (text : List Char) : Bool :=
  let address := text.takeWhile (· ≠ '%')
  let zone := text.dropWhile (· ≠ '%')
  let groups := address.splitOn ':'
  !text.contains '/' && zone ≠ ['%'] && !(zone.drop 1).contains '%' && 3 ≤ groups.length &&
    (widened? groups).any isIpv6Groups

end ImageOwnership.Address
