import ContentBlocker.Regex.Basic

/-!
# The size of an expression

Expressions that grow too large when their repetitions are written out are refused. The size is an
estimate in bytes of the automaton that an expression stands for: a state for every byte of a
character, many for the sets that reach through all of Unicode, and each repetition counted as often
as it may be made. It is meant to tell small from huge.
-/

namespace ContentBlocker.Regex

/-- The bytes of one state. -/
def stateSize : Nat := 32

/-- The largest size that is accepted, 1 MiB. -/
def sizeLimit : Nat := 1 <<< 20

/-- The size of a set of characters. -/
def CharSet.size : CharSet → Nat
  | .nothing => stateSize
  | .char c => c.utf8Size * stateSize
  | .range first last => (first.utf8Size + last.utf8Size) * stateSize
  | .decimal => 200 * stateSize
  | .space => 30 * stateSize
  | .word => 2000 * stateSize
  | .union a b => a.size + b.size
  | .inter a b => a.size + b.size
  | .compl a => a.size + 12 * stateSize
  | .caseless a => 2 * a.size
  | .asciiCaseless a => 2 * a.size

/-- Whether an expression matches the empty text only. -/
def isEmptyOnly : Regex → Bool
  | .empty => true
  | .set _ => false
  | .assert _ => true
  | .seq a b => a.isEmptyOnly && b.isEmptyOnly
  | .alt a b => a.isEmptyOnly && b.isEmptyOnly
  | .rep a _ max => a.isEmptyOnly || max == some 0

/-- How often the states of a repeated expression are written out. -/
def copies (min : Nat) : Option Nat → Nat
  | some max => max
  | none => if min = 0 then 1 else min

/-- The size of an expression. Repeating what is empty does not make it larger. -/
def size : Regex → Nat
  | .empty => stateSize
  | .set chars => chars.size
  | .assert _ => stateSize
  | .seq a b => a.size + b.size
  | .alt a b => a.size + b.size + stateSize
  | .rep a min max =>
    if a.isEmptyOnly then a.size else copies min max * (a.size + stateSize) + stateSize

end ContentBlocker.Regex
