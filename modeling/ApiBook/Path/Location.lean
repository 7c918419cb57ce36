/-
Locations: `file` addresses of places on the local machine.

* `Location.Parts`: scheme, host and path of an address;
* `Location.Fault`: why an address names no local path, either because
  it is no address at all or because it points elsewhere;
* `Location.toPath`: the path that an address names, in normal form.
-/
import ApiBook.Path.Basic
import ApiBook.Path.HostLiteral
import ApiBook.Text.Utf8
import ApiBook.Text.Quoted

namespace ApiBook.Location

/-! ### Faults -/

/-- Why a text is not an address. -/
inductive Malformation where
  | brackets
  | compatibility (host : Text)
  | futureAddress
  | bracketedIpv4
  | notAddress (host : Text)
  deriving DecidableEq, Repr

/-- Why an address names no path of this machine. -/
inductive Rejection where
  | scheme
  | remoteHost (host : Text)
  | notAbsolute
  deriving DecidableEq, Repr

/-- What can be wrong with a location. -/
inductive Fault where
  | malformed (m : Malformation)
  | rejected (uri : Text) (r : Rejection)
  deriving DecidableEq, Repr

/-- The wording of a malformation. -/
def Malformation.message : Malformation → Text
  | brackets => "Invalid IPv6 URL"
  | compatibility host =>
    "netloc '" ++ host
      ++ "' contains invalid characters under NFKC normalization"
  | futureAddress => "IPvFuture address is invalid"
  | bracketedIpv4 => "An IPv4 address cannot be in brackets"
  | notAddress host =>
    Text.quote host ++ " does not appear to be an IPv4 or IPv6 address"

/-- The reason given for a rejection. -/
def Rejection.reason : Rejection → String
  | scheme => "scheme is not file://"
  | remoteHost host => "remote host " ++ Text.quote host
  | notAbsolute => "path is not absolute"

/-- The wording of a fault. -/
def Fault.message : Fault → Text
  | malformed m => m.message
  | rejected uri r =>
    "Invalid location " ++ Text.quote uri ++ ": " ++ r.reason

/-! ### The parts of an address -/

/-- Scheme, host and path of an address, the query and the fragment left
out. -/
structure Parts where
  scheme : List Code
  host : List Code
  path : List Code
  deriving DecidableEq, Repr

/-- An address without control characters and spaces at its head, and
without tabs and line ends anywhere. -/
def cleaned (cs : List Code) : List Code :=
  (cs.dropWhile (·.toNat ≤ 0x20)).filter fun c =>
    c ≠ .char '\t' && c ≠ .char '\r' && c ≠ .char '\n'

/-- Whether a character may stand in a scheme. -/
def isSchemeChar (c : Char) : Bool :=
  c.isAlphanum || c = '+' || c = '-' || c = '.'

/-- A code point in lower case, if it is a letter of ASCII. -/
def lowerCode : Code → Code
  | .char c => .char c.toLower
  | c => c

/-- The scheme in lower case and what follows its colon; no scheme if
what is before the colon does not have the form of one. -/
def splitScheme (cs : List Code) : List Code × List Code :=
  match Text.breakAt? (.char ':') cs with
  | some (c :: before, after) =>
    if c.meets Char.isAlpha && before.all (·.meets isSchemeChar) then
      ((c :: before).map lowerCode, after)
    else ([], cs)
  | _ => ([], cs)

/-- Whether a code point ends the host. -/
def endsHost (c : Code) : Bool :=
  c = .char '/' || c = .char '?' || c = .char '#'

/-- The host after two slashes, and the rest of the address. -/
def splitHost : List Code → List Code × List Code
  | .char '/' :: .char '/' :: cs =>
    (cs.takeWhile (!endsHost ·), cs.dropWhile (!endsHost ·))
  | cs => ([], cs)

/-- Characters whose compatibility form holds one of the marks that
separate the parts of an address. -/
def compatibilityMarks : List Nat := [
  0x2047, 0x2048, 0x2049, 0x2100, 0x2101, 0x2105, 0x2106, 0x2A74, 0xFE13,
  0xFE16, 0xFE55, 0xFE56, 0xFE5F, 0xFE6B, 0xFF03, 0xFF0F, 0xFF1A, 0xFF1F,
  0xFF20]

/-- The host without a user before it. -/
def afterUser (host : List Code) : List Code :=
  match Text.breakAtLast? (.char '@') host with
  | some (_, after) => after
  | none => host

/-- What is checked of a host with brackets: nothing before them, only a
port after them, and an address inside. This is the check of release
3.11.12 of the library and later ones; before it, only what stands
between the brackets was looked at. -/
def checkBracketed (host : List Code) : Except Malformation Unit :=
  let place := afterUser host
  match Text.breakAt? (.char '[') place with
  | some (before, inner) =>
    let (address, port) := (Text.breakAt? (.char ']') inner).getD (inner, [])
    if !before.isEmpty then .error .brackets
    else if !port.isEmpty && port.head? != some (.char ':') then
      .error .brackets
    else checkAddress address
  | none =>
    checkAddress (((Text.breakAt? (.char ':') place).map (·.1)).getD place)
where
  /-- What is checked of an address in brackets. -/
  checkAddress (address : List Code) : Except Malformation Unit :=
    if address.head? = some (.char 'v') then
      if HostLiteral.isFutureAddress address then .ok ()
      else .error .futureAddress
    else if (address.mapM Code.char?).any HostLiteral.isIpv4 then
      .error .bracketedIpv4
    else if HostLiteral.isIpv6 address then .ok ()
    else .error (.notAddress (.ofList address))

/-- What is checked of the host of any address. -/
def checkHost (host : List Code) : Except Malformation Unit := do
  let opened := host.contains (.char '[')
  let closed := host.contains (.char ']')
  if opened != closed then throw .brackets
  if opened && closed then checkBracketed host
  if host.any fun c => compatibilityMarks.contains c.toNat then
    throw (.compatibility (.ofList host))

/-- The parts of an address. -/
def parts (cs : List Code) : Except Malformation Parts := do
  let (scheme, rest) := splitScheme (cleaned cs)
  let (host, rest) := splitHost rest
  checkHost host
  let path := (rest.takeWhile (· ≠ .char '#')).takeWhile (· ≠ .char '?')
  return ⟨scheme, host, path⟩

/-! ### Paths -/

/-- The scheme of the addresses of files. -/
def fileScheme : Text := "file"

/-- The name of this machine. -/
def localName : Text := "localhost"

/-- The hosts that stand for this machine. -/
def isLocal (host : List Code) : Bool :=
  host.isEmpty || host = localName.toList

/-- The path that an address names: escapes read, dots carried out. -/
def toPath (uri : Text) : Except Fault Path :=
  match parts uri.toList with
  | .error m => .error (.malformed m)
  | .ok p =>
    if p.scheme ≠ fileScheme.toList then .error (.rejected uri .scheme)
    else if !isLocal p.host then
      .error (.rejected uri (.remoteHost (.ofList p.host)))
    else
      let path := (Path.ofCodes (Text.percentDecode p.path)).normalized
      if path.isAbsolute then .ok path
      else .error (.rejected uri .notAbsolute)

end ApiBook.Location
