import ContentBlocker.Error
import ContentBlocker.Text.Basic
import ContentBlocker.Url.Domain
import ContentBlocker.Url.Ipv4
import ContentBlocker.Url.Ipv6

/-!
# URLs

Whether a text is an absolute URL, and why it is none. After the scheme only the host and the port
can be wrong. Some schemes are special: their URLs need a host, which is a domain name or an address,
and a backslash counts as a slash in them. Other schemes take nearly any text as a host, or none.

White space and control characters around a URL do not count, nor do tabs and line breaks in it.

URLs are checked by a library. What holds of sources whatever URLs are accepted is said for any
checker (`UrlChecker`).
-/

namespace ContentBlocker

namespace Url

/-- Three kinds of schemes. -/
inductive SchemeKind where
  | file
  | special
  | other
  deriving DecidableEq, Repr

/-- The kind of the scheme with a name in lower case. -/
def SchemeKind.ofName (name : String) : SchemeKind :=
  if name = "file" then .file
  else if name ∈ ["http", "https", "ws", "wss", "ftp"] then .special
  else .other

/-- The characters of a text that count as part of a URL. -/
def significant (s : List Char) : List Char :=
  let isBlank (c : Char) : Bool := c.toNat ≤ 0x20
  let s := ((s.dropWhile isBlank).reverse.dropWhile isBlank).reverse
  s.filter fun c => c ≠ '\t' && c ≠ '\n' && c ≠ '\r'

/-- Whether a character may stand in a scheme behind its first letter. -/
def isSchemeChar (c : Char) : Bool :=
  c.isAlphanum || c = '+' || c = '-' || c = '.'

/-- The scheme in front of the first colon in lower case, and what follows the colon. -/
def scheme? (s : List Char) : Option (String × List Char) :=
  match s.takeWhile isSchemeChar, s.dropWhile isSchemeChar with
  | c :: cs, ':' :: rest =>
    if c.isAlpha then some (String.ofList (Text.lower (c :: cs)), rest) else none
  | _, _ => none

/-! ### Hosts -/

/-- What stands between brackets at the start and the end of a host that starts with one. -/
def bracketed? : List Char → Option (Option (List Char))
  | '[' :: s => some (if s.getLast? = some ']' then some s.dropLast else none)
  | _ => none

/-- Checks an address in brackets. -/
def checkIpv6 (address : Option (List Char)) : Except UrlError Unit :=
  if address.any Ipv6.isAddress then .ok () else .error .invalidIpv6

/-- Checks a host that is a domain name or an address. -/
def checkHost (host : List Char) : Except UrlError Unit :=
  match bracketed? host with
  | some address => checkIpv6 address
  | none =>
    match Domain.labels? host with
    | none => .error .invalidDomainName
    | some labels =>
      if labels = [[]] then .error .emptyHost
      else if Ipv4.endsInNumber labels && !Ipv4.isAddress labels then .error .invalidIpv4
      else .ok ()

/-- The characters that no host may hold. -/
def refusedInHosts : List Char :=
  [Char.ofNat 0, '\t', '\n', '\r', ' ', '#', '/', ':', '<', '>', '?', '@', '[', '\\', ']', '^', '|']

/-- Checks a host of a scheme that is not special. -/
def checkOpaqueHost (host : List Char) : Except UrlError Unit :=
  match bracketed? host with
  | some address => checkIpv6 address
  | none => if host.any refusedInHosts.contains then .error .invalidHostCharacter else .ok ()

/-- Cuts a host from what follows it, which starts at the first colon outside brackets. -/
def cutHost (inBrackets : Bool) : List Char → List Char × List Char
  | [] => ([], [])
  | c :: s =>
    if c = ':' && !inBrackets then ([], c :: s)
    else
      let (host, rest) := cutHost (c = '[' || (inBrackets && c ≠ ']')) s
      (c :: host, rest)

/-! ### Authorities -/

/-- Whether a character ends an authority. -/
def endsAuthority (isSpecial : Bool) (c : Char) : Bool :=
  c = '/' || c = '?' || c = '#' || (isSpecial && c = '\\')

/-- Checks what follows the host of a URL: nothing, or a colon and a port. -/
def checkPort : List Char → Except UrlError Unit
  | ':' :: s =>
    let port := s.takeWhile Char.isDigit
    let isClosed := match s.dropWhile Char.isDigit with
      | [] => true
      -- Where a backslash is no slash, it may still follow a port.
      | c :: _ => c = '\\'
    if isClosed && (digits? 10 port).any (· < 1 <<< 16) then .ok () else .error .invalidPort
  | _ => .ok ()

/-- Checks a host with its port, behind a name and a password that may have been given. -/
def checkHostAndPort (isSpecial hasCredentials : Bool) (s : List Char) : Except UrlError Unit := do
  let (host, port) := cutHost false s
  if host.isEmpty then
    if isSpecial || !port.isEmpty || hasCredentials then .error .emptyHost else .ok ()
  else
    if isSpecial then checkHost host else checkOpaqueHost host
    checkPort port

/-- Checks what follows the slashes behind a scheme. -/
def checkAuthority (isSpecial : Bool) (s : List Char) : Except UrlError Unit :=
  let authority := s.takeWhile (!endsAuthority isSpecial ·)
  match Text.cutLast? '@' authority with
  | none => checkHostAndPort isSpecial false authority
  | some (credentials, host) =>
    -- A lone `@` stands for no host at all at the very end of a URL only.
    if credentials.isEmpty && host.isEmpty && authority.length < s.length then .error .emptyHost
    else checkHostAndPort isSpecial (!credentials.isEmpty && credentials ≠ [':']) host

/-- Whether a text is a letter of a drive. -/
def isDriveLetter : List Char → Bool
  | [c, mark] => c.isAlpha && (mark = ':' || mark = '|')
  | _ => false

/-- Checks what follows the scheme of a file. -/
def checkFile (s : List Char) : Except UrlError Unit :=
  match s with
  | a :: b :: rest =>
    let isSlash (c : Char) : Bool := c = '/' || c = '\\'
    let host := rest.takeWhile (!endsAuthority true ·)
    -- The letter of a drive starts the path of a file that has no host.
    if !isSlash a || !isSlash b || host.isEmpty || isDriveLetter host then .ok ()
    else checkHost host
  | _ => .ok ()

/-! ### URLs -/

/-- Checks that a text is an absolute URL. -/
def check (url : String) : Except UrlError Unit :=
  match scheme? (significant url.toList) with
  | none => .error .noScheme
  | some (name, rest) =>
    match SchemeKind.ofName name with
    | .file => checkFile rest
    | .special => checkAuthority true (rest.dropWhile fun c => c = '/' || c = '\\')
    | .other =>
      match rest with
      | '/' :: '/' :: rest => checkAuthority false rest
      | _ => .ok ()

end Url

/-- A library that checks URLs. -/
class UrlChecker where
  /-- Checks that a text is an absolute URL. -/
  check : (url : String) → Except UrlError Unit

/-- The checker that the program uses. -/
instance : UrlChecker where
  check := Url.check

end ContentBlocker
