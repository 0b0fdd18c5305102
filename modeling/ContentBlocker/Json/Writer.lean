import ContentBlocker.Json.Basic

/-!
# Writing JSON

The compact form: no blanks, members in the order given, and in a string only the quote, the
backslash and the control characters are escaped. The five control characters with a letter of
their own take it, the others are written with four lower-case hexadecimal digits.
-/

namespace ContentBlocker.Json

/-- The lower-case hexadecimal digit of a number below sixteen. -/
def hexDigit (n : Nat) : Char :=
  if n < 10 then Char.ofNat ('0'.toNat + n) else Char.ofNat ('a'.toNat + (n - 10))

/-- A character as it stands inside a string. -/
def escape (c : Char) : List Char :=
  match c with
  | '"' => ['\\', '"']
  | '\\' => ['\\', '\\']
  | '\x08' => ['\\', 'b']
  | '\x0c' => ['\\', 'f']
  | '\n' => ['\\', 'n']
  | '\r' => ['\\', 'r']
  | '\t' => ['\\', 't']
  | c =>
    if c.toNat < 0x20 then ['\\', 'u', '0', '0', hexDigit (c.toNat / 16), hexDigit (c.toNat % 16)]
    else [c]

/-- A text between quotes. -/
def quote (s : String) : List Char :=
  '"' :: (s.toList.flatMap escape ++ ['"'])

/-- A number from its parts. -/
def Number.write (x : Number) : List Char :=
  let sign := if x.negative then ['-'] else []
  let fraction := if x.fraction.isEmpty then [] else '.' :: x.fraction
  let exponent := match x.exponent with
    | none => []
    | some (negative, digits) => 'e' :: (if negative then '-' :: digits else digits)
  sign ++ x.whole ++ fraction ++ exponent

mutual

/-- The compact text of a value. A string that no text can hold is written empty. -/
def write : Json → List Char
  | .null => "null".toList
  | .bool true => "true".toList
  | .bool false => "false".toList
  | .number x => x.write
  | .string s => quote (s.getD "")
  | .array items => '[' :: writeItems items
  | .object members => '{' :: writeMembers members

/-- Items separated by commas, and the closing bracket. -/
def writeItems : List Json → List Char
  | [] => [']']
  | [item] => write item ++ [']']
  | item :: items => write item ++ ',' :: writeItems items

/-- Members separated by commas, and the closing brace. -/
def writeMembers : List (Option String × Json) → List Char
  | [] => ['}']
  | [(name, value)] => quote (name.getD "") ++ ':' :: write value ++ ['}']
  | (name, value) :: members =>
    quote (name.getD "") ++ ':' :: write value ++ ',' :: writeMembers members

end

end ContentBlocker.Json
