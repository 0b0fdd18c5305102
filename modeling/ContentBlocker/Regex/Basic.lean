import ContentBlocker.Regex.CharSet

/-!
# Regular expressions

An expression is built from sets of characters and assertions about a position by sequence, choice
and repetition. Groups, names and greediness leave no trace: they tell where a match lies, and here
it only matters whether there is one.
-/

namespace ContentBlocker

namespace Regex

/-- A statement about a position in a text, made from the characters on its two sides. -/
inductive Assertion where
  | textStart
  | textEnd
  | lineStart
  | lineEnd
  /-- The start of a line where a carriage return also ends lines. -/
  | crlfLineStart
  /-- The end of a line where a carriage return also ends lines. -/
  | crlfLineEnd
  | wordBoundary (inWord : CharSet)
  | notWordBoundary (inWord : CharSet)
  | wordStart (inWord : CharSet)
  | wordEnd (inWord : CharSet)
  /-- No word character comes before. -/
  | wordStartHalf (inWord : CharSet)
  /-- No word character comes next. -/
  | wordEndHalf (inWord : CharSet)
  deriving DecidableEq, Repr

/-- Whether an assertion holds between two characters; `none` stands for an end of the text. -/
def Assertion.holds (before after : Option Char) : Assertion → Bool
  | .textStart => before.isNone
  | .textEnd => after.isNone
  | .lineStart => before.all (· = '\n')
  | .lineEnd => after.all (· = '\n')
  | .crlfLineStart => before.all fun c => c = '\n' || (c = '\r' && after != some '\n')
  | .crlfLineEnd => after.all fun c => c = '\r' || (c = '\n' && before != some '\r')
  | .wordBoundary inWord => before.any inWord.contains != after.any inWord.contains
  | .notWordBoundary inWord => before.any inWord.contains == after.any inWord.contains
  | .wordStart inWord => !before.any inWord.contains && after.any inWord.contains
  | .wordEnd inWord => before.any inWord.contains && !after.any inWord.contains
  | .wordStartHalf inWord => !before.any inWord.contains
  | .wordEndHalf inWord => !after.any inWord.contains

end Regex

/-- A regular expression. -/
inductive Regex where
  | empty
  | set (chars : Regex.CharSet)
  | assert (assertion : Regex.Assertion)
  | seq (a b : Regex)
  | alt (a b : Regex)
  /-- At least `min` and at most `max` times, or any number of times from `min` on. -/
  | rep (a : Regex) (min : Nat) (max : Option Nat)
  deriving DecidableEq, Repr

namespace Regex

/-- One expression after the other. -/
def seqs : List Regex → Regex
  | [] => .empty
  | [a] => a
  | a :: as => .seq a (seqs as)

/-- One of several expressions. -/
def alts : List Regex → Regex
  | [] => .empty
  | [a] => a
  | a :: as => .alt a (alts as)

end Regex

end ContentBlocker
