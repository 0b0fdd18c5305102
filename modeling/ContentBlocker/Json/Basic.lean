/-!
# JSON values

`Json` is the syntax of a JSON text, not the data that some program makes of it: an object keeps
every member in the order written, repeated names included, a number keeps its digits, and a string
that no text can hold (an escape names half of a surrogate pair) is kept as `none`.

Whether such a value is also acceptable as data is a second question. A reader that takes up every
value it meets refuses lone surrogates, numbers beyond the doubles and deep nesting
(`Json.isData`); a reader that skips what it does not know never looks.
-/

namespace ContentBlocker

/-- A number as it is written: sign, digits before and behind the point, and the exponent with
its sign. -/
structure Json.Number where
  negative : Bool
  whole : List Char
  fraction : List Char
  exponent : Option (Bool × List Char)
  deriving DecidableEq, Repr

/-- The syntax of a JSON text. -/
inductive Json where
  | null
  | bool (value : Bool)
  | number (value : Json.Number)
  /-- A string; `none` when its escapes name a surrogate without its partner. -/
  | string (value : Option String)
  | array (items : List Json)
  | object (members : List (Option String × Json))
  deriving Repr, Inhabited

namespace Json

/-! ### Numbers as doubles -/

namespace Number

/-- The value of a decimal digit. -/
def digit (c : Char) : Nat :=
  c.toNat - '0'.toNat

/-- The number that a run of digits stands for. -/
def ofDigits (digits : List Char) : Nat :=
  digits.foldl (fun n c => 10 * n + digit c) 0

/-- Appends digits to a number while it stays below `2 ^ 64`; the digits that no longer fit are left
over. -/
def absorb (n : Nat) : List Char → Nat × List Char
  | [] => (n, [])
  | c :: rest =>
    if 10 * n + digit c < 1 <<< 64 then absorb (10 * n + digit c) rest else (n, c :: rest)

/-- The number as `significand * 10 ^ scale`: the digits that fit below `2 ^ 64`, the others
replaced by zeros before the point and left out behind it. -/
def parts (x : Number) : Nat × Int :=
  let (n, zeros) := absorb 0 x.whole
  let (significand, dropped) := absorb n x.fraction
  let written : Int := match x.exponent with
    | none => 0
    | some (true, digits) => -(ofDigits digits : Int)
    | some (false, digits) => ofDigits digits
  (significand, zeros.length - (x.fraction.length - dropped.length : Nat) + written)

/-- The nearest number with 53 significant bits; a tie goes to the even one. -/
def nearestDouble (n : Nat) : Nat :=
  let shift := n.log2 + 1 - 53
  let unit := 1 <<< shift
  let low := n % unit
  let high := n / unit
  let up := 2 * low > unit || (2 * low == unit && 0 < shift && high % 2 == 1)
  (if up then high + 1 else high) * unit

/-- Whether the number is not beyond the doubles: the nearest double of its significand times the
nearest double of its power of ten rounds to a finite double. Small numbers round to zero. -/
def fitsDouble (x : Number) : Bool :=
  let (significand, scale) := x.parts
  significand == 0 || scale < 0
    || (scale ≤ 308
        && nearestDouble significand * nearestDouble (Nat.pow 10 scale.toNat) <
          (1 <<< 1024) - (1 <<< 970))

end Number

/-! ### Values as data -/

mutual

/-- How deep arrays and objects are nested. -/
def depth : Json → Nat
  | .array items => depthOfItems items + 1
  | .object members => depthOfMembers members + 1
  | _ => 0

/-- The depth of the deepest item. -/
def depthOfItems : List Json → Nat
  | [] => 0
  | item :: items => max (depth item) (depthOfItems items)

/-- The depth of the deepest member. -/
def depthOfMembers : List (Option String × Json) → Nat
  | [] => 0
  | (_, value) :: members => max (depth value) (depthOfMembers members)

end

mutual

/-- Whether every string is a text and every number fits a double. -/
def isExact : Json → Bool
  | .null => true
  | .bool _ => true
  | .number x => x.fitsDouble
  | .string s => s.isSome
  | .array items => areItemsExact items
  | .object members => areMembersExact members

/-- Whether all items are exact. -/
def areItemsExact : List Json → Bool
  | [] => true
  | item :: items => isExact item && areItemsExact items

/-- Whether all members are exact, their names included. -/
def areMembersExact : List (Option String × Json) → Bool
  | [] => true
  | (name, value) :: members => name.isSome && isExact value && areMembersExact members

end

/-- How deep arrays and objects may be nested in a value that is taken up as data. -/
def depthLimit : Nat := 127

/-- Whether a reader that takes up every value accepts this one. -/
def isData (j : Json) : Bool :=
  j.isExact && j.depth ≤ depthLimit

end Json

end ContentBlocker
