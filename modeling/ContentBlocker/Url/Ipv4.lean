import ContentBlocker.Url.Digits

/-!
# IPv4 addresses in URLs

An address has up to four numbers with dots between them, and perhaps a dot at the end. A number may
be decimal, octal behind a `0`, or hexadecimal behind a `0x`. All but the last stand for one byte;
the last one fills what is left of the four bytes.
-/

namespace ContentBlocker.Url.Ipv4

/-- The value of a number, however large, or `none` where the text is no number. -/
def number? : List Char → Option Nat
  | [] => none
  | '0' :: 'x' :: s => digits? 16 s
  | '0' :: 'X' :: s => digits? 16 s
  | '0' :: c :: s => digits? 8 (c :: s)
  | s => digits? 10 s

/-- Whether a host ends in a number: its last part that is not empty is one, or has digits only. -/
def endsInNumber (labels : List (List Char)) : Bool :=
  let last := match labels.reverse with
    | [] :: label :: _ => label
    | label :: _ => label
    | [] => []
  (!last.isEmpty && last.all Char.isDigit) || (number? last).isSome

/-- Whether the parts of a host are those of an address. -/
def isAddress (labels : List (List Char)) : Bool :=
  let parts := match labels.reverse with
    | [] :: rest => rest.reverse
    | _ => labels
  match parts.mapM number? with
  | none => false
  | some numbers =>
    match numbers.reverse with
    | [] => false
    | last :: others =>
      others.length ≤ 3 && last < 1 <<< (32 - 8 * others.length) && others.all (· < 256)

end ContentBlocker.Url.Ipv4
