import ContentBlocker.Text.Basic

/-!
# Flags

Flags change how the expression behind them is read, up to the end of their group. With `x`, white
space and comments between the parts of an expression do not count.
-/

namespace ContentBlocker.Regex.Syntax

/-- The flags in force at a place of an expression. -/
structure Flags where
  /-- `i`: case does not count. -/
  caseless : Bool := false
  /-- `m`: `^` and `$` stand for the ends of lines. -/
  multiLine : Bool := false
  /-- `s`: the dot stands for line feeds too. -/
  dotAll : Bool := false
  /-- `R`: a carriage return ends lines too. -/
  crlf : Bool := false
  /-- `u`: classes and case reach beyond ASCII. -/
  unicode : Bool := true
  /-- `U`: repetitions are reluctant unless marked, which no match depends on. -/
  swapGreed : Bool := false
  /-- `x`: white space and comments do not count. -/
  spaced : Bool := false
  deriving DecidableEq, Repr

namespace Flags

/-- The flags with the one named by a letter turned on or off. -/
def set? (f : Flags) (letter : Char) (on : Bool) : Option Flags :=
  match letter with
  | 'i' => some { f with caseless := on }
  | 'm' => some { f with multiLine := on }
  | 's' => some { f with dotAll := on }
  | 'R' => some { f with crlf := on }
  | 'u' => some { f with unicode := on }
  | 'U' => some { f with swapGreed := on }
  | 'x' => some { f with spaced := on }
  | _ => none

/-- Reads the letters of a flag group up to its `:` or `)`. No letter may stand twice, and letters
behind a `-` are turned off. Gives the flags, whether there were any letters, the character at the
end and what follows it. -/
def read? (on : Bool) (seen : List Char) (f : Flags) :
    List Char → Option (Flags × Bool × Char × List Char)
  | [] => none
  | c :: s =>
    if c = ':' || c = ')' then
      if seen.head? = some '-' then none else some (f, !seen.isEmpty, c, s)
    else if seen.contains c then none
    else if c = '-' then read? false (c :: seen) f s
    else (f.set? c on).bind fun f => read? on (c :: seen) f s

/-- A text without the white space and comments at its start. A comment runs from `#` to the end of
its line. -/
def dropSpaced (inComment : Bool) : List Char → List Char
  | [] => []
  | c :: s =>
    if inComment then dropSpaced (c ≠ '\n') s
    else if Text.isSpace c then dropSpaced false s
    else if c = '#' then dropSpaced true s
    else c :: s

/-- A text without what does not count at its start. -/
def skip (f : Flags) (s : List Char) : List Char :=
  if f.spaced then dropSpaced false s else s

end Flags

end ContentBlocker.Regex.Syntax
