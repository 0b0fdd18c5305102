import ContentBlocker.Regex.Syntax.Escape

/-!
# Bracketed classes

A class in brackets is a list of items: characters, ranges, escapes, named sets of ASCII and classes
in brackets of their own. `&&`, `--` and `~~` between two lists intersect, subtract and take the
symmetric difference; all three bind alike and from the left. A `^` behind the opening bracket
stands for everything else.

Case is dropped item by item: a set without case stays one under all of these operations.
-/

namespace ContentBlocker.Regex.Syntax

open Regex (CharSet)

/-- What a part of a class stands for, and how deep its brackets and operators nest. -/
structure ClassPart where
  set : CharSet
  depth : Nat
  deriving DecidableEq, Repr

/-- An operator between two lists of items. -/
inductive ClassOperator where
  | intersection
  | difference
  | symmetricDifference
  deriving DecidableEq, Repr

/-- A class whose closing bracket has not been read. -/
structure OpenClass where
  negated : Bool
  /-- What stands before the last operator, and that operator. -/
  pending : Option (ClassPart × ClassOperator) := none
  /-- The items read since then, last one first. -/
  items : List ClassPart := []
  deriving DecidableEq, Repr

/-- The set that an operator makes of two. -/
def ClassOperator.apply : ClassOperator → CharSet → CharSet → CharSet
  | .intersection, a, b => .inter a b
  | .difference, a, b => a.diff b
  | .symmetricDifference, a, b => a.symmDiff b

/-- The set with all characters that differ from one of it in case, where case does not count. -/
def Flags.fold (f : Flags) (set : CharSet) : CharSet :=
  if f.caseless then if f.unicode then .caseless set else .asciiCaseless set else set

/-- The set of one character. -/
def Flags.single (f : Flags) (c : Char) : CharSet :=
  if f.caseless && f.unicode then .ofList (Unicode.caseVariants c) else f.fold (.char c)

/-- Everything else, where `negated`. Classes of bytes have no such sets, since these would hold
parts of characters. -/
def Flags.negate? (f : Flags) (negated : Bool) (set : CharSet) : Option CharSet :=
  if !negated then some set else if f.unicode then some (.compl set) else none

/-- The set of a named class. -/
def Flags.named? (f : Flags) (cls : NamedClass) (negated : Bool) : Option CharSet :=
  f.negate? negated (cls.set f.unicode)

namespace OpenClass

/-- The class with one more item. -/
def push (cls : OpenClass) (part : ClassPart) : OpenClass :=
  { cls with items := part :: cls.items }

/-- The items read since the last operator as one part. -/
def union (cls : OpenClass) : ClassPart :=
  match cls.items with
  | [] => ⟨.nothing, 0⟩
  | [part] => part
  | parts =>
    { set := parts.foldl (fun set part => .union part.set set) .nothing
      depth := 1 + (parts.map (·.depth)).foldl max 0 }

/-- All that has been read as one part. -/
def whole (cls : OpenClass) : ClassPart :=
  match cls.pending with
  | none => cls.union
  | some (left, operator) =>
    { set := operator.apply left.set cls.union.set
      depth := 1 + max left.depth cls.union.depth }

/-- The class behind an operator. -/
def operate (cls : OpenClass) (operator : ClassOperator) : OpenClass :=
  { cls with pending := some (cls.whole, operator), items := [] }

/-- The class as a part, once its closing bracket has been read. -/
def close? (f : Flags) (cls : OpenClass) : Option ClassPart :=
  (f.negate? cls.negated cls.whole.set).map fun set => ⟨set, 1 + cls.whole.depth⟩

end OpenClass

namespace Bracket

/-! ### Items -/

/-- The sets of ASCII that have a name. -/
def asciiClass? (name : String) : Option CharSet :=
  match name with
  | "alnum" => some (.union .asciiDigit .asciiAlpha)
  | "alpha" => some .asciiAlpha
  | "ascii" => some .ascii
  | "blank" => some (.ofList ['\t', ' '])
  | "cntrl" => some (.union (.range (Char.ofNat 0) (Char.ofNat 31)) (.char (Char.ofNat 127)))
  | "digit" => some .asciiDigit
  | "graph" => some (.range '!' '~')
  | "lower" => some .asciiLower
  | "print" => some (.range ' ' '~')
  | "punct" => some (.diff (.range '!' '~') (.union .asciiDigit .asciiAlpha))
  | "space" => some .asciiSpace
  | "upper" => some .asciiUpper
  | "word" => some .asciiWord
  | "xdigit" => some (.union .asciiDigit (.union (.range 'A' 'F') (.range 'a' 'f')))
  | _ => none

/-- The named set of ASCII that stands behind an opening bracket, as `:name:]` or `:^name:]`, with
whether it is negated and what follows it. -/
def asciiName? : List Char → Option (CharSet × Bool × List Char)
  | ':' :: s =>
    let (negated, s) := match s with
      | '^' :: rest => (true, rest)
      | _ => (false, s)
    match s.dropWhile (· ≠ ':') with
    | ':' :: ']' :: rest =>
      (asciiClass? (String.ofList (s.takeWhile (· ≠ ':')))).map fun set => (set, negated, rest)
    | _ => none
  | _ => none

/-- An item is an escape or a character that stands for itself. -/
def item? (f : Flags) : List Char → Option (Escape × List Char)
  | [] => none
  | '\\' :: s => Escape.read? f s
  | c :: s => some (.literal c, s)

/-- The character that an item is. Classes of bytes hold ASCII only. -/
def charOf? (f : Flags) : Escape → Option Char
  | .literal c => if f.unicode || Text.isAscii c then some c else none
  | .byte c => if f.unicode || Text.isAscii c then some c else none
  | .named _ _ => none
  | .assertion _ => none

/-- The set that an item stands for by itself. Assertions stand for none. -/
def setOf? (f : Flags) : Escape → Option CharSet
  | .named cls negated => (f.named? cls negated).map f.fold
  | escape => (charOf? f escape).map f.single

/-- The set of the characters from one item to another. -/
def rangeOf? (f : Flags) (first last : Escape) : Option CharSet := do
  let first ← charOf? f first
  let last ← charOf? f last
  if first ≤ last then some (f.fold (.range first last)) else none

/-- An item or a range, and what follows it. A hyphen makes no range where a hyphen or a closing
bracket follows. -/
def range? (f : Flags) (s : List Char) : Option (ClassPart × List Char) := do
  let (first, rest) ← item? f s
  let rest := f.skip rest
  let range? : Option (List Char) := match rest with
    | '-' :: behind =>
      match f.skip behind with
      | ']' :: _ => none
      | '-' :: _ => none
      | behind => some behind
    | _ => none
  match range? with
  -- A hyphen that makes no range is left for the next item.
  | none => (setOf? f first).map fun set => (⟨set, 0⟩, rest)
  | some behind => do
    let (last, rest) ← item? f behind
    let set ← rangeOf? f first last
    some (⟨set, 0⟩, rest)

/-! ### Brackets -/

/-- The hyphens at the start of a class, which stand for themselves. -/
def openHyphens (f : Flags) (cls : OpenClass) : Nat → List Char → OpenClass × List Char
  | rounds + 1, '-' :: s => openHyphens f (cls.push ⟨f.single '-', 0⟩) rounds (f.skip s)
  | _, s => (cls, s)

/-- Starts a class behind its opening bracket. A closing bracket right there stands for itself. -/
def start (f : Flags) (s : List Char) : OpenClass × List Char :=
  let (negated, s) := match f.skip s with
    | '^' :: rest => (true, f.skip rest)
    | s => (false, s)
  match openHyphens f { negated } s.length s with
  | (cls, ']' :: rest) =>
    if cls.items.isEmpty then (cls.push ⟨f.single ']', 0⟩, f.skip rest) else (cls, ']' :: rest)
  | opened => opened

/-- Reads on in a class, with the classes around it. -/
def parseFrom (f : Flags) (outer : List OpenClass) (cls : OpenClass) :
    Nat → List Char → Option (ClassPart × List Char)
  | 0, _ => none
  | rounds + 1, s =>
    match f.skip s with
    | [] => none
    | '[' :: rest =>
      match asciiName? rest with
      | some (chars, negated, rest) => do
        let chars ← f.negate? negated (f.fold chars)
        parseFrom f outer (cls.push ⟨chars, 0⟩) rounds rest
      | none =>
        -- What is no named set of ASCII is a class within this one.
        let (inner, rest) := start f rest
        parseFrom f (cls :: outer) inner rounds rest
    | ']' :: rest => do
      let part ← cls.close? f
      match outer with
      | [] => some (part, rest)
      | around :: outer => parseFrom f outer (around.push part) rounds rest
    | '&' :: '&' :: rest => parseFrom f outer (cls.operate .intersection) rounds rest
    | '-' :: '-' :: rest => parseFrom f outer (cls.operate .difference) rounds rest
    | '~' :: '~' :: rest => parseFrom f outer (cls.operate .symmetricDifference) rounds rest
    | s => do
      let (part, rest) ← range? f s
      parseFrom f outer (cls.push part) rounds rest

/-- Reads a class behind its opening bracket: what it stands for, and what follows it. -/
def parse? (f : Flags) (s : List Char) : Option (ClassPart × List Char) :=
  let (cls, rest) := start f s
  parseFrom f [] cls (rest.length + 1) rest

end Bracket

end ContentBlocker.Regex.Syntax
