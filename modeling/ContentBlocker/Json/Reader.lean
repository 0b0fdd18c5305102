import ContentBlocker.Json.Basic

/-!
# Reading JSON

The text is cut into tokens one at a time (`Token.next?`), and each token moves a `State` that
keeps the arrays and objects still open as a list of frames, so nesting costs no recursion. Every
state names what may come next, and a token that may not is refused: a comma is only taken after a
complete value, and after it a value or a name must follow.

`Json.read?` reads a whole text: one value with blanks around it and nothing else.
-/

namespace ContentBlocker.Json

/-! ### Tokens -/

/-- The smallest pieces of a JSON text. -/
inductive Token where
  | openArray
  | closeArray
  | openObject
  | closeObject
  | comma
  | colon
  | null
  | bool (value : Bool)
  | number (value : Number)
  | string (value : Option String)
  deriving DecidableEq, Repr

/-- Blanks between tokens: space, tab, line feed and carriage return. -/
def isBlank (c : Char) : Bool :=
  c = ' ' || c = '\t' || c = '\n' || c = '\r'

/-- The value of a hexadecimal digit. -/
def hexDigit? (c : Char) : Option Nat :=
  if '0' ≤ c ∧ c ≤ '9' then some (c.toNat - '0'.toNat)
  else if 'a' ≤ c ∧ c ≤ 'f' then some (c.toNat - 'a'.toNat + 10)
  else if 'A' ≤ c ∧ c ≤ 'F' then some (c.toNat - 'A'.toNat + 10)
  else none

/-- The number that four hexadecimal digits stand for. -/
def hex4? (a b c d : Char) : Option Nat := do
  let a ← hexDigit? a
  let b ← hexDigit? b
  let c ← hexDigit? c
  let d ← hexDigit? d
  some (((a * 16 + b) * 16 + c) * 16 + d)

/-- The character that a one-letter escape stands for. -/
def escaped? : Char → Option Char
  | '"' => some '"'
  | '\\' => some '\\'
  | '/' => some '/'
  | 'b' => some '\x08'
  | 'f' => some '\x0c'
  | 'n' => some '\n'
  | 'r' => some '\r'
  | 't' => some '\t'
  | _ => none

/-- The code units of a string body up to its closing quote, and the text behind the quote. A
character stands for its code point, an escape for its 16-bit unit. Control characters must be
escaped. -/
def scanString : List Char → List Nat → Option (List Nat × List Char)
  | [], _ => none
  | '"' :: s, units => some (units.reverse, s)
  | '\\' :: 'u' :: a :: b :: c :: d :: s, units =>
    (hex4? a b c d).bind fun unit => scanString s (unit :: units)
  | '\\' :: c :: s, units => (escaped? c).bind fun x => scanString s (x.toNat :: units)
  | c :: s, units => if c.toNat < 0x20 then none else scanString s (c.toNat :: units)

/-- The text that code units spell: a high surrogate joins with the low one right behind it, and a
surrogate on its own spells nothing. -/
def spell? : List Nat → Option (List Char)
  | [] => some []
  | [unit] => if 0xD800 ≤ unit ∧ unit < 0xE000 then none else some [Char.ofNat unit]
  | unit :: next :: units =>
    if 0xD800 ≤ unit ∧ unit < 0xDC00 then
      -- a high surrogate
      if 0xDC00 ≤ next ∧ next < 0xE000 then
        (spell? units).map (Char.ofNat ((unit - 0xD800) * 0x400 + (next - 0xDC00) + 0x10000) :: ·)
      else none
    else if 0xDC00 ≤ unit ∧ unit < 0xE000 then none
    else (spell? (next :: units)).map (Char.ofNat unit :: ·)

/-- A run of at least one digit, and the text behind it. -/
def scanDigits? (s : List Char) : Option (List Char × List Char) :=
  let (digits, rest) := s.span Char.isDigit
  if digits.isEmpty then none else some (digits, rest)

/-- The digits before the point: a zero alone, or digits that start with another one. -/
def scanWhole? : List Char → Option (List Char × List Char)
  | '0' :: s => if (s.head?.any Char.isDigit) then none else some (['0'], s)
  | s => scanDigits? s

/-- The digits behind the point, if there is one. -/
def scanFraction? : List Char → Option (List Char × List Char)
  | '.' :: s => scanDigits? s
  | s => some ([], s)

/-- The exponent, if there is one. -/
def scanExponent? : List Char → Option (Option (Bool × List Char) × List Char)
  | c :: s =>
    if c = 'e' ∨ c = 'E' then
      let (negative, s) := match s with
        | '-' :: s => (true, s)
        | '+' :: s => (false, s)
        | s => (false, s)
      (scanDigits? s).map fun (digits, rest) => (some (negative, digits), rest)
    else some (none, c :: s)
  | [] => some (none, [])

/-- A number without its sign, and the text behind it. -/
def scanNumber? (negative : Bool) (s : List Char) : Option (Token × List Char) := do
  let (whole, s) ← scanWhole? s
  let (fraction, s) ← scanFraction? s
  let (exponent, s) ← scanExponent? s
  some (.number { negative, whole, fraction, exponent }, s)

/-- The token that starts with the character `c`, followed by the text `s`, and the text behind
it. -/
def Token.next? (c : Char) (s : List Char) : Option (Token × List Char) :=
  match c with
  | '[' => some (.openArray, s)
  | ']' => some (.closeArray, s)
  | '{' => some (.openObject, s)
  | '}' => some (.closeObject, s)
  | ',' => some (.comma, s)
  | ':' => some (.colon, s)
  | '"' => (scanString s []).map fun (units, rest) =>
      (.string ((spell? units).map String.ofList), rest)
  | 'n' => ("ull".toList.isPrefixOf? s).map (.null, ·)
  | 't' => ("rue".toList.isPrefixOf? s).map (.bool true, ·)
  | 'f' => ("alse".toList.isPrefixOf? s).map (.bool false, ·)
  | '-' => scanNumber? true s
  | c => if c.isDigit then scanNumber? false (c :: s) else none

/-! ### States -/

/-- An array or object that is still open: what it holds already, last first. -/
inductive Frame where
  | items (done : List Json)
  | members (done : List (Option String × Json)) (name : Option String)
  deriving Repr

/-- Where the reader stands: what must come next, inside which open frames. -/
inductive State where
  /-- A value must follow. -/
  | value (frames : List Frame)
  /-- An array has just been opened: a value or the closing bracket. -/
  | firstItem (frames : List Frame)
  /-- An object has just been opened: a name or the closing brace. -/
  | firstName (frames : List Frame)
  /-- A name must follow. -/
  | name (done : List (Option String × Json)) (frames : List Frame)
  /-- A colon must follow. -/
  | colon (done : List (Option String × Json)) (name : Option String) (frames : List Frame)
  /-- A value is complete. -/
  | complete (value : Json) (frames : List Frame)
  deriving Repr

/-- The state after the first token of a value. -/
def State.begin? (frames : List Frame) : Token → Option State
  | .openArray => some (.firstItem frames)
  | .openObject => some (.firstName frames)
  | .null => some (.complete .null frames)
  | .bool b => some (.complete (.bool b) frames)
  | .number x => some (.complete (.number x) frames)
  | .string s => some (.complete (.string s) frames)
  | _ => none

/-- The state after one more token. -/
def State.step? : State → Token → Option State
  | .value frames, t => begin? frames t
  | .firstItem frames, .closeArray => some (.complete (.array []) frames)
  | .firstItem frames, t => begin? (.items [] :: frames) t
  | .firstName frames, .closeObject => some (.complete (.object []) frames)
  | .firstName frames, .string s => some (.colon [] s frames)
  | .name done frames, .string s => some (.colon done s frames)
  | .colon done key frames, .colon => some (.value (.members done key :: frames))
  | .complete v (.items done :: frames), .comma => some (.value (.items (v :: done) :: frames))
  | .complete v (.items done :: frames), .closeArray =>
    some (.complete (.array (v :: done).reverse) frames)
  | .complete v (.members done key :: frames), .comma => some (.name ((key, v) :: done) frames)
  | .complete v (.members done key :: frames), .closeObject =>
    some (.complete (.object ((key, v) :: done).reverse) frames)
  | _, _ => none

/-- Reads tokens to the end of the text. Each round takes up at least one character, so as many
rounds as there are characters, and one more to see the end, are enough. -/
def readFrom : Nat → State → List Char → Option State
  | 0, _, _ => none
  | _ + 1, state, [] => some state
  | rounds + 1, state, c :: s =>
    if isBlank c then readFrom rounds state s
    else match Token.next? c s with
      | none => none
      | some (token, rest) =>
        match state.step? token with
        | none => none
        | some state => readFrom rounds state rest

/-- The value that a whole text holds, if it is one JSON value with nothing but blanks around it. -/
def read? (text : String) : Option Json :=
  let s := text.toList
  match readFrom (s.length + 1) (.value []) s with
  | some (.complete value []) => some value
  | _ => none

end ContentBlocker.Json
