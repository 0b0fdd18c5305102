import ContentBlocker.Url.Digits

/-!
# IPv6 addresses in URLs

An address has eight pieces of up to four hexadecimal digits, with colons between them. A double
colon, once at most, stands for the pieces that are missing; the last two pieces may be written as
four decimal numbers with dots between them.
-/

namespace ContentBlocker.Url.Ipv6

/-- Whether a text is a number from 0 to 255 without superfluous zeros. -/
def isByte (s : List Char) : Bool :=
  match s with
  | [] => false
  | '0' :: _ :: _ => false
  | s => s.length ≤ 3 && (digits? 10 s).any (· < 256)

/-- Whether a text is four bytes with dots between them. -/
def isDotted (s : List Char) : Bool :=
  let parts := s.splitOn '.'
  parts.length == 4 && parts.all isByte

/-- How many of the first four characters, up to the first other one, are hexadecimal digits. -/
def pieceLength (s : List Char) : Nat :=
  ((s.take 4).takeWhile fun c => (digit? 16 c).isSome).length

/-- Whether a text ends an address that has some pieces so far, and a double colon or not. -/
def endsAddress (pieces : Nat) (isCompressed : Bool) : Nat → List Char → Bool
  | _, [] => isCompressed || pieces == 8
  | 0, _ => false
  | rounds + 1, c :: s =>
    if pieces = 8 then false
    else if c = ':' then !isCompressed && endsAddress (pieces + 1) true rounds s
    else
      let n := pieceLength (c :: s)
      match (c :: s).drop n with
      | [] => endsAddress (pieces + 1) isCompressed rounds []
      | ':' :: rest => !rest.isEmpty && endsAddress (pieces + 1) isCompressed rounds rest
      | '.' :: _ =>
        0 < n && pieces ≤ 6 && isDotted (c :: s) && (isCompressed || pieces == 6)
      | _ => false

/-- Whether a text is an address. -/
def isAddress (s : List Char) : Bool :=
  match s with
  | ':' :: ':' :: rest => endsAddress 1 true s.length rest
  | ':' :: _ => false
  | _ :: _ :: _ => endsAddress 0 false s.length s
  | _ => false

end ContentBlocker.Url.Ipv6
