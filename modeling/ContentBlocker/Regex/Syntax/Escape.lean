import ContentBlocker.Regex.Basic
import ContentBlocker.Regex.Syntax.Flags

/-!
# Escapes

What may follow a backslash: a character that would otherwise have a meaning of its own, a letter
for a control character, a number of a character, a named class or an assertion. Letters and digits
without a meaning are refused, so that they can be given one.
-/

namespace ContentBlocker.Regex.Syntax

/-- The three classes with a letter of their own. -/
inductive NamedClass where
  | decimal
  | space
  | word
  deriving DecidableEq, Repr

/-- What an escape stands for. -/
inductive Escape where
  | literal (c : Char)
  /-- A character given by two hexadecimal digits, which is a byte where classes are of bytes. -/
  | byte (c : Char)
  | named (cls : NamedClass) (negated : Bool)
  | assertion (make : Regex.CharSet → Regex.Assertion)

namespace Escape

/-- The value of a hexadecimal digit. -/
def hexValue? (c : Char) : Option Nat :=
  if '0' ≤ c ∧ c ≤ '9' then some (c.toNat - '0'.toNat)
  else if 'a' ≤ c ∧ c ≤ 'f' then some (c.toNat - 'a'.toNat + 10)
  else if 'A' ≤ c ∧ c ≤ 'F' then some (c.toNat - 'A'.toNat + 10)
  else none

/-- The character with a number, if the number is one of a character. -/
def charOf? (n : Nat) : Option Char :=
  if n < 0xD800 ∨ (0xDFFF < n ∧ n < 0x110000) then some (Char.ofNat n) else none

/-- Exactly `count` more hexadecimal digits behind the number read so far. -/
def hexDigits? (f : Flags) (n : Nat) : Nat → List Char → Option (Nat × List Char)
  | 0, s => some (n, s)
  | count + 1, c :: s => (hexValue? c).bind fun d => hexDigits? f (16 * n + d) count (f.skip s)
  | _ + 1, [] => none

/-- Hexadecimal digits up to a closing brace, at least one. The number may not need more than 32
bits. -/
def hexBraced? (f : Flags) : Nat → Option Nat → List Char → Option (Nat × List Char)
  | 0, _, _ => none
  | rounds + 1, n, s =>
    match f.skip s with
    | [] => none
    | '}' :: rest => n.bind fun n => if n < 1 <<< 32 then some (n, f.skip rest) else none
    | c :: rest => (hexValue? c).bind fun d => hexBraced? f rounds (some (16 * n.getD 0 + d)) rest

/-- The character whose number follows `x`, `u` or `U`, as many digits as the letter asks for or any
number of them between braces. -/
def hexChar? (f : Flags) (digits : Nat) (s : List Char) : Option (Char × Bool × List Char) :=
  match f.skip s with
  | [] => none
  | '{' :: rest => do
    let (n, rest) ← hexBraced? f (rest.length + 1) none rest
    let c ← charOf? n
    some (c, false, rest)
  | c :: rest => do
    let (n, rest) ← hexDigits? f 0 digits (c :: rest)
    let c ← charOf? n
    some (c, digits = 2, rest)

/-- The characters with a meaning somewhere in an expression. -/
def isMeta (c : Char) : Bool :=
  c ∈ ['\\', '.', '+', '*', '?', '(', ')', '|', '[', ']', '{', '}', '^', '$', '#', '&', '-', '~']

/-- Whether a backslash in front of a character changes nothing: those with a meaning, and the rest
of ASCII but for letters, digits and the two angles. -/
def isPlain (c : Char) : Bool :=
  isMeta c || (Text.isAscii c && !c.isAlphanum && c ≠ '<' && c ≠ '>')

/-- The letters and hyphens at the start of a text. -/
def takeName (f : Flags) : Nat → List Char → List Char × List Char
  | 0, s => ([], s)
  | _ + 1, [] => ([], [])
  | rounds + 1, c :: s =>
    if c.isAlpha || c = '-' then
      let (name, rest) := takeName f rounds (f.skip s)
      (c :: name, rest)
    else ([], c :: s)

/-- What `\b` stands for. In braces behind it, a name tells which side of a word is meant; braces
that do not start with a name belong to a repetition. -/
def boundary? (f : Flags) (s : List Char) : Option (Escape × List Char) :=
  match s with
  | '{' :: rest =>
    match f.skip rest with
    | [] => none
    | c :: body =>
      if c.isAlpha || c = '-' then
        match takeName f (body.length + 1) (c :: body) with
        | (name, '}' :: rest) =>
          match String.ofList name with
          | "start" => some (.assertion .wordStart, rest)
          | "end" => some (.assertion .wordEnd, rest)
          | "start-half" => some (.assertion .wordStartHalf, rest)
          | "end-half" => some (.assertion .wordEndHalf, rest)
          | _ => none
        | _ => none
      else some (.assertion .wordBoundary, s)
  | _ => some (.assertion .wordBoundary, s)

/-- What the text behind a backslash stands for, and what follows it. -/
def read? (f : Flags) : List Char → Option (Escape × List Char)
  | [] => none
  | c :: s =>
    match c with
    | 'x' => (hexChar? f 2 s).map fun (c, isByte, rest) =>
        (if isByte then .byte c else .literal c, rest)
    | 'u' => (hexChar? f 4 s).map fun (c, _, rest) => (.literal c, rest)
    | 'U' => (hexChar? f 8 s).map fun (c, _, rest) => (.literal c, rest)
    | 'd' => some (.named .decimal false, s)
    | 'D' => some (.named .decimal true, s)
    | 's' => some (.named .space false, s)
    | 'S' => some (.named .space true, s)
    | 'w' => some (.named .word false, s)
    | 'W' => some (.named .word true, s)
    | 'a' => some (.literal '\x07', s)
    | 'f' => some (.literal '\x0c', s)
    | 't' => some (.literal '\t', s)
    | 'n' => some (.literal '\n', s)
    | 'r' => some (.literal '\r', s)
    | 'v' => some (.literal '\x0b', s)
    | 'A' => some (.assertion fun _ => .textStart, s)
    | 'z' => some (.assertion fun _ => .textEnd, s)
    | 'b' => boundary? f s
    | 'B' => some (.assertion .notWordBoundary, s)
    | '<' => some (.assertion .wordStart, s)
    | '>' => some (.assertion .wordEnd, s)
    | c => if isPlain c then some (.literal c, s) else none

end Escape

/-- The set that a named class stands for. -/
def NamedClass.set (unicode : Bool) : NamedClass → Regex.CharSet
  | .decimal => if unicode then .decimal else Regex.CharSet.asciiDigit
  | .space => if unicode then .space else Regex.CharSet.asciiSpace
  | .word => if unicode then .word else Regex.CharSet.asciiWord

end ContentBlocker.Regex.Syntax
