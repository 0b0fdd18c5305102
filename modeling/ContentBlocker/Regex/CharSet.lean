import ContentBlocker.Text.Basic
import ContentBlocker.Unicode.CaseFold
import ContentBlocker.Unicode.Word

/-!
# Sets of characters

The classes of a regular expression, kept as they are built: single characters, ranges, the three
named sets and the operations on sets. `CharSet.contains` says what is in a set; everything else
asks it.
-/

namespace ContentBlocker.Regex

/-- A set of characters. -/
inductive CharSet where
  | nothing
  | char (c : Char)
  | range (first last : Char)
  /-- The decimal digits of all scripts. -/
  | decimal
  /-- White space. -/
  | space
  /-- The characters of words. -/
  | word
  | union (a b : CharSet)
  | inter (a b : CharSet)
  | compl (a : CharSet)
  /-- All characters that differ from one of the set only in case. -/
  | caseless (a : CharSet)
  /-- The same, where only the letters of ASCII have case. -/
  | asciiCaseless (a : CharSet)
  deriving DecidableEq, Repr

namespace CharSet

/-- The letter of ASCII that differs from `c` in case, or `c` itself. -/
def swapAsciiCase (c : Char) : Char :=
  if c.isUpper then c.toLower else c.toUpper

/-- Whether a character is in the set. -/
def contains : CharSet → Char → Bool
  | .nothing, _ => false
  | .char x, c => c = x
  | .range first last, c => first ≤ c && c ≤ last
  | .decimal, c => Unicode.isDecimal c
  | .space, c => Text.isSpace c
  | .word, c => Unicode.isWord c
  | .union a b, c => a.contains c || b.contains c
  | .inter a b, c => a.contains c && b.contains c
  | .compl a, c => !a.contains c
  | .caseless a, c => (Unicode.caseVariants c).any a.contains
  | .asciiCaseless a, c => a.contains c || a.contains (swapAsciiCase c)

/-- The set of the characters in a list. -/
def ofList (cs : List Char) : CharSet :=
  cs.foldr (fun c set => .union (.char c) set) .nothing

/-- What is in the first set only. -/
def diff (a b : CharSet) : CharSet :=
  .inter a (.compl b)

/-- What is in exactly one of the sets. -/
def symmDiff (a b : CharSet) : CharSet :=
  .union (diff a b) (diff b a)

/-- All characters. -/
def all : CharSet := .compl .nothing

/-- The characters of ASCII. -/
def ascii : CharSet := .range (Char.ofNat 0) (Char.ofNat 127)

/-- The digits of ASCII. -/
def asciiDigit : CharSet := .range '0' '9'

/-- The capital letters of ASCII. -/
def asciiUpper : CharSet := .range 'A' 'Z'

/-- The small letters of ASCII. -/
def asciiLower : CharSet := .range 'a' 'z'

/-- The letters of ASCII. -/
def asciiAlpha : CharSet := .union asciiUpper asciiLower

/-- The white space of ASCII. -/
def asciiSpace : CharSet := .union (.range '\t' '\r') (.char ' ')

/-- The word characters of ASCII. -/
def asciiWord : CharSet := .union (.union asciiDigit asciiAlpha) (.char '_')

end CharSet

end ContentBlocker.Regex
