import ContentBlocker.Text.Basic

/-!
# Punycode

Punycode writes a label of a domain name in ASCII. The characters of ASCII come first, a hyphen
closes them, and every other character is inserted by a number in variable length that tells by how
far code point and place move on from the insertion before it. The digits have base 36; where a
number ends depends on a bias that follows the size of the numbers so far.
-/

namespace ContentBlocker.Url.Punycode

/-- The value of a digit: letters first, then the digits of ASCII. -/
def digit? (c : Char) : Option Nat :=
  if 'a' ≤ c ∧ c ≤ 'z' then some (c.toNat - 'a'.toNat)
  else if 'A' ≤ c ∧ c ≤ 'Z' then some (c.toNat - 'A'.toNat)
  else if '0' ≤ c ∧ c ≤ '9' then some (c.toNat - '0'.toNat + 26)
  else none

/-- The digits below this one end a number. `place` counts digits in steps of 36. -/
def threshold (bias place : Nat) : Nat :=
  if place ≤ bias then 1 else min 26 (place - bias)

/-- Divides by 35 until the number is small, and counts 36 for every division. -/
def scale : Nat → Nat → Nat → Nat
  | 0, count, delta => count + 36 * delta / (delta + 38)
  | rounds + 1, count, delta =>
    if 455 < delta then scale rounds (count + 36) (delta / 35)
    else count + 36 * delta / (delta + 38)

/-- The bias behind a number, in a text that now has `size` characters. -/
def adapt (isFirst : Bool) (delta size : Nat) : Nat :=
  let delta := if isFirst then delta / 700 else delta / 2
  scale delta 0 (delta + delta / size)

/-- A number in variable length, and what follows it. -/
def number? (bias : Nat) (place weight sum : Nat) : List Char → Option (Nat × List Char)
  | [] => none
  | c :: s => do
    let digit ← digit? c
    let sum := sum + digit * weight
    let t := threshold bias place
    if 1 <<< 32 ≤ sum then none
    else if digit < t then some (sum, s)
    else number? bias (place + 36) (weight * (36 - t)) sum s

/-- Inserts the characters that the numbers in a text tell. `point` and `place` say where the
insertion before has led. -/
def insertAll (bias point place : Nat) (text : List Char) : Nat → List Char → Option (List Char)
  | _, [] => some text
  | 0, _ => none
  | rounds + 1, s => do
    let (delta, rest) ← number? bias 36 1 0 s
    let size := text.length + 1
    let next := point + (place + delta) / size
    let spot := (place + delta) % size
    if (0xD800 ≤ next && next < 0xE000) || 0x110000 ≤ next then none
    else
      insertAll (adapt (place == 0) delta size) next (spot + 1)
        (text.take spot ++ Char.ofNat next :: text.drop spot) rounds rest

/-- What stands before the last hyphen, and what stands behind it or is the whole text where there is
none. -/
def parts (s : List Char) : List Char × List Char :=
  match Text.cutLast? '-' s with
  | none => ([], s)
  -- A hyphen at the start closes nothing, so the digits are read from there and it is refused.
  | some ([], _) => ([], s)
  | some (plain, numbers) => (plain, numbers)

/-- The text that Punycode writes as `s`. -/
def decode? (s : List Char) : Option (List Char) :=
  let (plain, numbers) := parts s
  insertAll 72 128 0 plain numbers.length numbers

end ContentBlocker.Url.Punycode
