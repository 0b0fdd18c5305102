import ContentBlocker.Regex.Syntax.Bracket
import ContentBlocker.Unicode.Word

/-!
# The syntax of expressions

An expression is read from left to right. The reader keeps the parts of the sequence that it is in,
the finished branches of the choice around it and the groups around that (`Parser`); one step reads
one part (`Parser.step?`), and at the end of the text the sequences and choices that are still open
are closed.

A part may be a single character, a class, an assertion, a group, or the repetition of the part
before it. Flags in parentheses are a part too: they match the empty text, cannot be repeated, and
hold up to the end of their group.

How deep the parts nest is counted while they are made (`Part.depth`), because expressions that nest
too deep are refused.
-/

namespace ContentBlocker.Regex.Syntax

open Regex (CharSet Assertion)

/-- A part of an expression. -/
structure Part where
  regex : Regex
  /-- How deep sequences, choices, groups, repetitions and classes nest in it. -/
  depth : Nat := 0
  repeatable : Bool := true

/-- A group whose closing parenthesis has not been read. -/
structure OpenGroup where
  /-- The finished branches around the group, last one first. -/
  branches : List Part
  /-- The parts before the group, last one first. -/
  parts : List Part
  /-- The flags in force around the group. -/
  flags : Flags

/-- What has been read of an expression. -/
structure Parser where
  flags : Flags
  /-- The open groups, innermost first. -/
  groups : List OpenGroup := []
  /-- The finished branches of the innermost choice, last one first. -/
  branches : List Part := []
  /-- The parts of the sequence that is being read, last one first. -/
  parts : List Part := []
  /-- The names of groups. -/
  names : List (List Char) := []

/-- The largest depth of some parts. -/
def Part.maxDepth (parts : List Part) : Nat :=
  (parts.map (·.depth)).foldl max 0

/-- Parts one after the other, given last one first. -/
def Part.sequence : List Part → Part
  | [] => { regex := .empty }
  | [part] => part
  | parts => { regex := seqs (parts.reverse.map (·.regex)), depth := 1 + maxDepth parts }

/-- A choice between parts, given last one first. -/
def Part.choice : List Part → Part
  | [] => { regex := .empty }
  | [part] => part
  | parts => { regex := alts (parts.reverse.map (·.regex)), depth := 1 + maxDepth parts }

namespace Parser

/-! ### Single parts -/

/-- The reader with one more part. -/
def push (p : Parser) (part : Part) : Parser :=
  { p with parts := part :: p.parts }

/-- The expression of a single character. -/
def literal (f : Flags) (c : Char) : Regex :=
  .set (f.single c)

/-- The expression of the dot: every character but those that end lines. -/
def dot? (f : Flags) : Option Regex :=
  if !f.unicode then none
  else if f.dotAll then some (.set .all)
  else if f.crlf then some (.set (.compl (.ofList ['\r', '\n'])))
  else some (.set (.compl (.char '\n')))

/-- What `^` asserts. -/
def caret (f : Flags) : Assertion :=
  if f.multiLine then if f.crlf then .crlfLineStart else .lineStart else .textStart

/-- What `$` asserts. -/
def dollar (f : Flags) : Assertion :=
  if f.multiLine then if f.crlf then .crlfLineEnd else .lineEnd else .textEnd

/-- The expression of an escape. A byte that is no character of ASCII is part of a character. -/
def escaped? (f : Flags) : Escape → Option Regex
  | .literal c => some (literal f c)
  | .byte c => if f.unicode || Text.isAscii c then some (literal f c) else none
  | .named cls negated => (f.named? cls negated).map .set
  | .assertion make => some (.assert (make (NamedClass.word.set f.unicode)))

/-! ### Repetitions -/

/-- The reader with its last part repeated. -/
def repeat? (p : Parser) (min : Nat) (max : Option Nat) : Option Parser :=
  match p.parts with
  | [] => none
  | part :: parts =>
    if part.repeatable then
      some { p with parts := { regex := .rep part.regex min max, depth := 1 + part.depth } :: parts }
    else none

/-- A text without the question mark behind a repetition, which makes it reluctant. -/
def dropReluctant : List Char → List Char
  | '?' :: s => s
  | s => s

/-- The digits at the start of a text, with what does not count between them left out. -/
def digits (f : Flags) : Nat → List Char → List Char × List Char
  | rounds + 1, c :: s =>
    if c.isDigit then
      let (more, rest) := digits f rounds (f.skip s)
      (c :: more, rest)
    else ([], c :: s)
  | _, s => ([], s)

/-- A text without the white space at its start and what does not count behind it. -/
def dropBlanks (f : Flags) : Nat → List Char → List Char
  | rounds + 1, c :: s => if Text.isSpace c then dropBlanks f rounds (f.skip s) else c :: s
  | _, s => s

/-- A number of 32 bits with white space around it, and what follows. -/
def number? (f : Flags) (s : List Char) : Option (Nat × List Char) :=
  let s := s.dropWhile Text.isSpace
  let (ds, rest) := digits f s.length s
  let n := ds.foldl (fun n d => 10 * n + (d.toNat - '0'.toNat)) 0
  if ds.isEmpty || 1 <<< 32 ≤ n then none else some (n, dropBlanks f rest.length rest)

/-- The bounds of a repetition behind its opening brace, and what follows the closing one. -/
def bounds? (f : Flags) (s : List Char) : Option (Nat × Option Nat × List Char) := do
  let (min, rest) ← number? f (f.skip s)
  match rest with
  | '}' :: rest => some (min, some min, rest)
  | ',' :: rest =>
    match f.skip rest with
    | '}' :: rest => some (min, none, rest)
    | rest => do
      let (max, rest) ← number? f rest
      match rest with
      | '}' :: rest => if min ≤ max then some (min, some max, rest) else none
      | _ => none
  | _ => none

/-! ### Groups -/

/-- Whether a character may stand in the name of a group. -/
def isNameChar (isFirst : Bool) (c : Char) : Bool :=
  c = '_' || if isFirst then Unicode.isAlphabetic c
    else c = '.' || c = '[' || c = ']' || Unicode.isAlphanumeric c

/-- The name of a group up to its `>`, and what follows. -/
def name? (s : List Char) : Option (List Char × List Char) :=
  match s.takeWhile (· ≠ '>'), s.dropWhile (· ≠ '>') with
  | c :: cs, _ :: rest =>
    if isNameChar true c && cs.all (isNameChar false) then some (c :: cs, rest) else none
  | _, _ => none

/-- The reader inside a new group, where the given flags are in force. -/
def enter (p : Parser) (flags : Flags) : Parser :=
  { p with
    flags
    groups := ⟨p.branches, p.parts, p.flags⟩ :: p.groups
    branches := []
    parts := [] }

/-- The reader inside a new group with a name, which no other group may have. -/
def enterNamed? (p : Parser) (s : List Char) : Option (Parser × List Char) := do
  let (name, rest) ← name? s
  if p.names.contains name then none
  else some ({ p.enter p.flags with names := name :: p.names }, rest)

/-- Reads on behind an opening parenthesis. Looking around is refused. -/
def openGroup? (p : Parser) (s : List Char) : Option (Parser × List Char) :=
  match p.flags.skip s with
  | '?' :: '=' :: _ => none
  | '?' :: '!' :: _ => none
  | '?' :: '<' :: '=' :: _ => none
  | '?' :: '<' :: '!' :: _ => none
  | '?' :: 'P' :: '<' :: rest => p.enterNamed? rest
  | '?' :: '<' :: rest => p.enterNamed? rest
  | '?' :: rest => do
    let (flags, isGiven, last, rest) ← Flags.read? true [] p.flags rest
    if last = ':' then some (p.enter flags, rest)
    -- Flags without a group hold from here on; `(?)` gives none and is refused.
    else if isGiven then
      some ({ p with flags }.push { regex := .empty, repeatable := false }, rest)
    else none
  | rest => some (p.enter p.flags, rest)

/-- Everything read since the group was opened, as one part. -/
def body (p : Parser) : Part :=
  Part.choice (Part.sequence p.parts :: p.branches)

/-- The reader behind a closing parenthesis. -/
def closeGroup? (p : Parser) : Option Parser :=
  match p.groups with
  | [] => none
  | group :: groups =>
    let part : Part := { regex := p.body.regex, depth := 1 + p.body.depth }
    some { p with
      flags := group.flags
      groups
      branches := group.branches
      parts := part :: group.parts }

/-! ### The whole -/

/-- Reads one part. -/
def step? (p : Parser) : List Char → Option (Parser × List Char)
  | [] => none
  | c :: s =>
    match c with
    | '(' => p.openGroup? s
    | ')' => p.closeGroup?.map fun p => (p, s)
    | '|' => some ({ p with branches := Part.sequence p.parts :: p.branches, parts := [] }, s)
    | '[' => (Bracket.parse? p.flags s).map fun (part, rest) =>
        (p.push { regex := .set part.set, depth := part.depth }, rest)
    | '?' => (p.repeat? 0 (some 1)).map fun p => (p, dropReluctant s)
    | '*' => (p.repeat? 0 none).map fun p => (p, dropReluctant s)
    | '+' => (p.repeat? 1 none).map fun p => (p, dropReluctant s)
    | '{' => do
      let (min, max, rest) ← bounds? p.flags s
      let p ← p.repeat? min max
      some (p, dropReluctant (p.flags.skip rest))
    | '\\' => do
      let (escape, rest) ← Escape.read? p.flags s
      let regex ← escaped? p.flags escape
      some (p.push { regex }, rest)
    | '.' => (dot? p.flags).map fun regex => (p.push { regex }, s)
    | '^' => some (p.push { regex := .assert (caret p.flags) }, s)
    | '$' => some (p.push { regex := .assert (dollar p.flags) }, s)
    | c => some (p.push { regex := literal p.flags c }, s)

/-- Reads parts up to the end of the text. Every part takes a character, so there are no more rounds
than characters. -/
def run? : Nat → Parser → List Char → Option Parser
  | 0, _, _ => none
  | rounds + 1, p, s =>
    match p.flags.skip s with
    | [] => some p
    | s => (p.step? s).bind fun (p, rest) => run? rounds p rest

/-- The expression that a text stands for under some flags, as a part. -/
def parse? (flags : Flags) (s : List Char) : Option Part := do
  let p ← run? (s.length + 1) { flags } s
  if p.groups.isEmpty then some p.body else none

end Parser

end ContentBlocker.Regex.Syntax
