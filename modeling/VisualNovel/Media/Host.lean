import VisualNovel.Text.Hexadecimal
import VisualNovel.Text.Quoted
import VisualNovel.Text.Split

/-!
# Hosts in brackets

The part of a locator that names a host may hold an address of the sixth version
in brackets: up to eight groups of hexadecimal digits with colons between them, of
which one run may be left out, the last two perhaps written as an address of the
fourth version. Addresses of later versions are marked by a letter. Characters
that turn into separators when they are normalised are refused.
-/

set_option autoImplicit false

namespace VisualNovel.Media.Host

open VisualNovel.Text

inductive Error where
  | brackets
  | futureAddress
  | noAddress (host : String)
  | bracketedOld
  | disguisedSeparator (authority : String)
  deriving DecidableEq, Repr

def Error.message : Error → String
  | .brackets => "Invalid IPv6 URL"
  | .futureAddress => "IPvFuture address is invalid"
  | .noAddress host => quoted host ++ " does not appear to be an IPv4 or IPv6 address"
  | .bracketedOld => "An IPv4 address cannot be in brackets"
  | .disguisedSeparator authority =>
      s!"netloc '{authority}' contains invalid characters under NFKC normalization"

/-- Whether a text is a decimal number up to 255 without leading zeros. -/
def isOctet (characters : List Char) : Bool :=
  !characters.isEmpty && characters.all Char.isDigit && decide (characters.length ≤ 3) &&
    (characters == ['0'] || characters.head? != some '0') &&
    decide (characters.foldl (fun value digit => value * 10 + (digit.toNat - '0'.toNat)) 0 ≤ 255)

/-- Whether a text is an address of the fourth version. -/
def isOldAddress (characters : List Char) : Bool :=
  let octets := pieces '.' characters
  octets.length == 4 && octets.all isOctet

def isGroup (characters : List Char) : Bool :=
  !characters.isEmpty && decide (characters.length ≤ 4) &&
    characters.all fun character => (hexValue? character).isSome

/-- Whether groups are those of an address in which the given number of groups is missing at
least. One empty group, not at an end, stands for those left out; if they are at an end, the group
there is empty as well. -/
def areGroups (groups : List (List Char)) : Bool :=
  let inner := groups.drop 1 |>.dropLast
  match inner.filter List.isEmpty with
  | [] => groups.length == 8 && groups.all isGroup
  | [_] =>
      let before := groups.take ((inner.findIdx List.isEmpty) + 1)
      let after := groups.drop ((inner.findIdx List.isEmpty) + 2)
      let before := if before == [[]] then [] else before
      let after := if after == [[]] then [] else after
      decide (before.length + after.length ≤ 7) && before.all isGroup && after.all isGroup
  | _ => false

/-- Whether a text is an address of the sixth version, with or without a scope. -/
def isAddress (characters : List Char) : Bool :=
  let address := characters.takeWhile (· ≠ '%')
  let scope := characters.dropWhile (· ≠ '%')
  let scopeAllowed := scope.isEmpty || (scope.length ≠ 1 && !(scope.drop 1).contains '%')
  let groups := pieces ':' address
  let last := groups.getLast?.getD []
  let groups :=
    if last.contains '.' && isOldAddress last then groups.dropLast ++ [['0'], ['0']] else groups
  scopeAllowed && decide (3 ≤ (pieces ':' address).length) && areGroups groups

/-- Whether a text that begins with the letter for later versions is an address. -/
def isFutureAddress (characters : List Char) : Bool :=
  let version := (characters.drop 1).takeWhile fun character => (hexValue? character).isSome
  let rest := (characters.drop 1).dropWhile fun character => (hexValue? character).isSome
  !version.isEmpty && rest.head? == some '.' && decide (2 ≤ rest.length)

def checkAddress (characters : List Char) : Except Error Unit :=
  if characters.head? = some 'v' then
    if isFutureAddress characters then .ok () else .error .futureAddress
  else if isOldAddress characters then .error .bracketedOld
  else if isAddress characters then .ok ()
  else .error (.noAddress (String.ofList characters))

/-- The characters that contain a separator of locators in their normal form. -/
def disguisedSeparators : List Nat :=
  [0x2047, 0x2048, 0x2049, 0x2100, 0x2101, 0x2105, 0x2106, 0x2a74, 0xfe13, 0xfe16, 0xfe55, 0xfe56,
    0xfe5f, 0xfe6b, 0xff03, 0xff0f, 0xff1a, 0xff1f, 0xff20]

/-- What is taken for the address in an authority with brackets, where a user may come first. A
bracket that opens has nothing before it, and the one that closes only a colon behind it. This is
the stricter of two rules for splitting locators: an older one lets text stand before the brackets,
as in `a[::1]`, and behind them. -/
def bracketedAddress (authority : List Char) : Except Error (List Char) :=
  let place := afterLast '@' authority
  match splitAtFirst? '[' place with
  | none => .ok (beforeFirst ':' place)
  | some (before, inside) =>
      let rest := (inside.dropWhile (· ≠ ']')).drop 1
      if before.isEmpty && (rest.isEmpty || rest.head? == some ':') then
        .ok (beforeFirst ']' inside)
      else .error .brackets

def check (authority : List Char) : Except Error Unit := do
  if authority.contains '[' != authority.contains ']' then .error .brackets
  if authority.contains '[' then checkAddress (← bracketedAddress authority)
  if authority.any fun character => disguisedSeparators.contains character.toNat then
    .error (.disguisedSeparator (String.ofList authority))

end VisualNovel.Media.Host
