import HttpTest.Http.Domain.Name
import HttpTest.Text.Utf8
import HttpTest.Number.Text

/-!
# Absolute addresses

What keeps a text from being an absolute URL: it needs a scheme, and where the scheme is followed by
an authority the host and the port must be well formed. What comes after the authority is never at
fault. `hasScheme` is the weaker test by which a request decides whether to use the base address.
-/

namespace HttpTest.Url

inductive Fault where
  | relative
  | emptyHost
  | port
  | ipv4
  | ipv6
  | domainCharacter
  | domainName
  deriving DecidableEq

def Fault.message : Fault → String
  | .relative => "relative URL without a base"
  | .emptyHost => "empty host"
  | .port => "invalid port number"
  | .ipv4 => "invalid IPv4 address"
  | .ipv6 => "invalid IPv6 address"
  | .domainCharacter => "invalid domain character"
  | .domainName => "invalid international domain name"

def isSchemeChar (c : Char) : Bool := c.isAlphanum || c == '+' || c == '-' || c == '.'

def isScheme : List Char → Bool
  | [] => false
  | c :: rest => c.isAlpha && (c :: rest).all isSchemeChar

/-- Whether what stands before the first `://` of an address is a scheme. -/
def hasScheme (url : String) : Bool :=
  match Text.splitOnce? [':', '/', '/'] url.toList with
  | some (scheme, _) => isScheme scheme
  | none => false

/-! ### Hosts -/

def readBase? (base : Nat) (digits : List Char) : Option Nat :=
  digits.foldl (fun n c => n.bind fun n =>
    (Text.hexDigit? c).bind fun d => if d < base then some (n * base + d) else none) (some 0)

/-- A part of an IPv4 address: hexadecimal after `0x`, octal after a zero, or else decimal. -/
def ipv4Number? : List Char → Option Nat
  | [] => none
  | '0' :: 'x' :: rest => readBase? 16 rest
  | '0' :: 'X' :: rest => readBase? 16 rest
  | '0' :: c :: rest => readBase? 8 (c :: rest)
  | text => readBase? 10 text

/-- The parts of a host between its dots; a dot at the end has nothing after it. -/
def hostParts (host : List Char) : List (List Char) :=
  let parts := Text.splitAtChar '.' host
  if 1 < parts.length && parts.getLast? == some [] then parts.dropLast else parts

/-- Whether the last part of a host is a number, so that the host must be an IPv4 address. -/
def endsInNumber (host : List Char) : Bool :=
  match (hostParts host).getLast? with
  | none => false
  | some last => (!last.isEmpty && last.all Char.isDigit) || (ipv4Number? last).isSome

/-- An IPv4 address: at most four numbers, all but the last one of a byte, the last one filling the
bytes that are left. -/
def isIpv4 (host : List Char) : Bool :=
  let parts := hostParts host
  match parts.mapM ipv4Number? with
  | none => false
  | some numbers =>
    parts.length ≤ 4 && numbers.dropLast.all (· < 256) &&
      numbers.getLast?.all fun last => last < 256 ^ (5 - numbers.length)

def isDottedQuad (text : List Char) : Bool :=
  let parts := Text.splitAtChar '.' text
  parts.length == 4 && parts.all fun part =>
    part.all Char.isDigit && !part.isEmpty && part.length ≤ 3 &&
      (part.length == 1 || part.head? != some '0') && Number.digitsValue part < 256

def isIpv6Group (text : List Char) : Bool :=
  !text.isEmpty && text.length ≤ 4 && text.all fun c => (Text.hexDigit? c).isSome

/-- The number of groups in a run of groups between colons, where the last one may be a dotted quad
and counts for two. -/
def ipv6Groups? (quad : Bool) (text : List Char) : Option Nat :=
  if text.isEmpty then some 0
  else
    let parts := Text.splitAtChar ':' text
    let last := parts.getLast?.getD []
    if parts.all isIpv6Group then some parts.length
    else if quad && parts.dropLast.all isIpv6Group && isDottedQuad last then some (parts.length + 1)
    else none

/-- An IPv6 address: eight groups, or fewer around one double colon. -/
def isIpv6 (text : List Char) : Bool :=
  match Text.splitOnce? [':', ':'] text with
  | none => ipv6Groups? true text == some 8
  | some (before, after) =>
    match ipv6Groups? false before, ipv6Groups? true after with
    | some m, some n => m + n ≤ 7
    | _, _ => false

def percentDecode : List UInt8 → List UInt8
  | 0x25 :: a :: b :: rest =>
    match Text.hexDigit? (Char.ofNat a.toNat), Text.hexDigit? (Char.ofNat b.toNat) with
    | some x, some y => UInt8.ofNat (x * 16 + y) :: percentDecode rest
    | _, _ => 0x25 :: percentDecode (a :: b :: rest)
  | byte :: rest => byte :: percentDecode rest
  | [] => []

def isForbiddenInHost (c : Char) : Bool :=
  c.toNat == 0 || "\t\n\r #/:<>?@[\\]^|".toList.contains c

def bracketedFault? (host : List Char) : Option Fault :=
  if host.getLast? == some ']' && isIpv6 (host.drop 1).dropLast then none else some .ipv6

def domainFault? (host : List Char) : Option Fault :=
  if host.head? == some '[' then bracketedFault? host
  else
    let bytes := percentDecode (String.ofList host).toUTF8.toList
    match Domain.read? (Text.decodeLossy ⟨bytes.toArray⟩).toList with
    | none => some .domainName
    | some domain =>
      if domain.isEmpty then some .emptyHost
      else if endsInNumber domain && !isIpv4 domain then some .ipv4
      else none

def opaqueFault? (host : List Char) : Option Fault :=
  if host.head? == some '[' then bracketedFault? host
  else if host.any isForbiddenInHost then some .domainCharacter
  else none

/-! ### Authorities -/

def endsAuthority (special : Bool) (c : Char) : Bool :=
  c == '/' || c == '?' || c == '#' || (special && c == '\\')

/-- The host of an authority without user information, and what follows it. A colon in brackets does
not end the host. -/
def takeHost (special : Bool) : (inBrackets : Bool) → List Char → List Char × List Char
  | _, [] => ([], [])
  | inBrackets, c :: rest =>
    if (c == ':' && !inBrackets) || endsAuthority special c then ([], c :: rest)
    else
      let inBrackets := if c == '[' then true else if c == ']' then false else inBrackets
      let (host, after) := takeHost special inBrackets rest
      (c :: host, after)

/-- What is wrong with a port: it is a number of 16 bits up to the end of the authority. -/
def portFault? (text : List Char) : Option Fault :=
  let digits := text.takeWhile Char.isDigit
  if 65535 < Number.digitsValue digits then some .port
  else match text.dropWhile Char.isDigit with
    | [] => none
    | c :: _ => if endsAuthority true c then none else some .port

/-- The user information of an authority, without the last at sign, and what follows it. -/
def splitUserInfo (special : Bool) (text : List Char) : Option (List Char) × List Char :=
  let authority := text.takeWhile (!endsAuthority special ·)
  let host := (authority.reverse.takeWhile (· != '@')).reverse
  if host.length == authority.length then (none, text)
  else (some (authority.take (authority.length - host.length - 1)),
    text.drop (authority.length - host.length))

def namesUser (user : List Char) : Bool := !user.isEmpty && user != [':']

def authorityFault? (special : Bool) (text : List Char) : Option Fault :=
  let (user, rest) := splitUserInfo special text
  if user == some [] && rest.head?.any (endsAuthority special) then some .emptyHost
  else
    let (host, after) := takeHost special false rest
    let hostFault :=
      if special then (if host.isEmpty then some .emptyHost else domainFault? host)
      else opaqueFault? host
    match hostFault with
    | some fault => some fault
    | none =>
      if host.isEmpty && (after.head? == some ':' || user.any namesUser) then some .emptyHost
      else if after.head? == some ':' then portFault? (after.drop 1)
      else none

/-- What is wrong with an address of a file, after its scheme: it may name a host after two slashes,
unless that is the letter of a drive. -/
def fileFault? : List Char → Option Fault
  | a :: b :: rest =>
    if (a == '/' || a == '\\') && (b == '/' || b == '\\') then
      let host := rest.takeWhile (!endsAuthority true ·)
      let isDrive := match host with
        | [letter, mark] => letter.isAlpha && (mark == ':' || mark == '|')
        | _ => false
      if host.isEmpty || isDrive then none else domainFault? host
    else none
  | _ => none

/-- The schemes whose addresses always have an authority that starts with a domain name. -/
def specialSchemes : List String := ["http", "https", "ws", "wss", "ftp"]

def isTrimmed (c : Char) : Bool := c.toNat ≤ 0x20

/-- What keeps a text from being an absolute address. Tabs and line breaks in it do not count. -/
def fault? (url : String) : Option Fault :=
  let text := ((url.toList.dropWhile isTrimmed).reverse.dropWhile isTrimmed).reverse
  let text := text.filter fun c => c != '\t' && c != '\n' && c != '\r'
  let scheme := text.takeWhile (· != ':')
  if !isScheme scheme || scheme.length == text.length then some .relative
  else
    let rest := text.drop (scheme.length + 1)
    let scheme := String.ofList (scheme.map Char.toLower)
    if scheme == "file" then fileFault? rest
    else if specialSchemes.contains scheme then
      authorityFault? true (rest.dropWhile fun c => c == '/' || c == '\\')
    else match rest with
      | '/' :: '/' :: rest => authorityFault? false rest
      | _ => none

end HttpTest.Url
