/-
Addresses in brackets, where a location may name its host by number.

* `isIpv4`: four decimal numbers between dots;
* `isIpv6`: eight groups of hexadecimal digits, one run of zeros left
  out, the last two groups possibly written as four numbers;
* `isFutureAddress`: the form kept for later versions.
-/
import ApiBook.Number.Decimal
import ApiBook.Text.Digit
import ApiBook.Text.Pieces

namespace ApiBook.HostLiteral

/-- A number below 256 in decimal, without a zero in front. -/
def isOctet (cs : List Char) : Bool :=
  !cs.isEmpty && cs.all Char.isDigit && cs.length ≤ 3
    && (cs = ['0'] || cs.head? != some '0') && Decimal.toNat cs ≤ 255

/-- Four numbers between dots. -/
def isIpv4 (cs : List Char) : Bool :=
  let octets := Text.split '.' cs
  octets.length = 4 && octets.all isOctet

/-- A group of one to four hexadecimal digits. -/
def isGroup (cs : List Char) : Bool :=
  !cs.isEmpty && cs.length ≤ 4 && cs.all fun c => (Text.hexValue? c).isSome

/-- The groups between colons, an address of four numbers at the end
counted as two groups. -/
def groups? (cs : List Char) : Option (List (List Char)) :=
  let pieces := Text.split ':' cs
  let last := pieces.getLastD []
  if pieces.length < 3 then none
  else if last.contains '.' then
    if isIpv4 last then some (pieces.dropLast ++ [['0'], ['0']]) else none
  else some pieces

/-- The places of empty groups other than the first and the last. -/
def gaps (pieces : List (List Char)) : List Nat :=
  (List.range pieces.length).filter fun i =>
    0 < i && i + 1 < pieces.length && (pieces.getD i []).isEmpty

/-- The groups before or after the gap: an empty one is allowed at the
outer end, when it stands alone. -/
def isSide (outer : Option (List Char)) (side : List (List Char)) :
    Bool :=
  if outer = some [] then side.length = 1 else side.all isGroup

/-- The number of groups that a side of the gap holds. -/
def sideLength (side : List (List Char)) : Nat :=
  (side.filter (!·.isEmpty)).length

/-- Whether groups make an address: eight of them, or fewer around one
gap. -/
def isAddress (pieces : List (List Char)) : Bool :=
  pieces.length ≤ 9 &&
    match gaps pieces with
    | [] => pieces.length = 8 && pieces.all isGroup
    | [gap] =>
      let before := pieces.take gap
      let after := pieces.drop (gap + 1)
      isSide before.head? before && isSide after.getLast? after
        && sideLength before + sideLength after ≤ 7
    | _ => false

/-- An address of eight groups. -/
def isBareIpv6 (cs : List Char) : Bool :=
  match groups? cs with
  | some pieces => isAddress pieces
  | none => false

/-- An address of eight groups, with an optional zone after a percent
sign. Anything may be in the zone but another one, and slashes. -/
def isIpv6 (cs : List Code) : Bool :=
  let (address, zoneFits) := match Text.breakAt? (.char '%') cs with
    | some (address, zone) =>
      (address, !zone.isEmpty && !zone.contains (.char '%'))
    | none => (cs, true)
  zoneFits && !cs.contains (.char '/')
    && (address.mapM Code.char?).any isBareIpv6

/-- A version in hexadecimal digits after a `v`, a dot, and something
that holds no line feed. -/
def isFutureAddress (cs : List Code) : Bool :=
  match cs with
  | .char 'v' :: rest =>
    match Text.breakAt? (.char '.') rest with
    | some (version, address) =>
      !version.isEmpty
        && version.all (·.meets fun c => (Text.hexValue? c).isSome)
        && !address.isEmpty && !address.contains (.char '\n')
    | none => false
  | _ => false

end ApiBook.HostLiteral
