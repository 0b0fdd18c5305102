import ContentBlocker.Text.Basic
import ContentBlocker.Rule.Basic

/-!
# Network patterns

A pattern says which URLs a network rule is about. It starts anywhere, at the start of the URL
(`|`) or at a domain name or a parent of it (`||`), may have to end with the URL (`|`), and is a row
of pieces between: any run of characters (`*`), a separator (`^`), or a character for itself. A
separator that is the last piece may also be missing, since a URL may end there.

`Pattern.parse` reads a pattern and `Pattern.urlFilter` writes it as a regular expression.
-/

namespace ContentBlocker.Filter

/-- Where a pattern starts to match. -/
inductive Pattern.Start where
  | anywhere
  | url
  | domain
  deriving DecidableEq, Repr

/-- One piece of a pattern. -/
inductive Pattern.Piece where
  | anyRun
  | separator
  | optionalSeparator
  | literal (c : Char)
  deriving DecidableEq, Repr

/-- A network pattern. -/
structure Pattern where
  start : Pattern.Start
  pieces : List Pattern.Piece
  endsUrl : Bool
  deriving DecidableEq, Repr

namespace Pattern

/-! ### Reading -/

/-- The pieces that characters stand for. -/
def Piece.ofChars : List Char → List Piece
  | [] => []
  | ['^'] => [.optionalSeparator]
  | '^' :: s => .separator :: ofChars s
  | '*' :: s => .anyRun :: ofChars s
  | c :: s => .literal c :: ofChars s

/-- The anchor at the start of a pattern, and what follows it. -/
def Start.take : List Char → Start × List Char
  | '|' :: '|' :: s => (.domain, s)
  | '|' :: s => (.url, s)
  | s => (.anywhere, s)

/-- What stands before the anchor at the end of a pattern, and whether there is one. -/
def takeEnd (s : List Char) : List Char × Bool :=
  if s.getLast? = some '|' then (s.dropLast, true) else (s, false)

/-- The pattern that a text stands for; every text stands for one. -/
def parse (s : List Char) : Pattern :=
  let (start, rest) := Start.take s
  let (body, endsUrl) := takeEnd rest
  { start, pieces := Piece.ofChars body, endsUrl }

/-! ### Writing as a regular expression -/

/-- The characters with a meaning of their own in a regular expression, `^` and `*` aside. -/
def isSpecial (c : Char) : Bool :=
  c ∈ ['.', '+', '?', '$', '{', '}', '(', ')', '[', ']', '\\', '|']

/-- The expression for one separator. -/
def separatorFilter : List Char := "[/:&?=]".toList

/-- The expression for a scheme, and any labels of a host name in front of a domain. -/
def domainFilter : List Char := "^[^:]+://+([^:/]+\\.)?".toList

/-- The expression for a piece. -/
def Piece.filter : Piece → List Char
  | .anyRun => ['.', '*']
  | .separator => separatorFilter
  | .optionalSeparator => separatorFilter ++ ['?']
  | .literal c => if isSpecial c then ['\\', c] else [c]

/-- The expression for the start of a pattern. -/
def Start.filter : Start → List Char
  | .anywhere => []
  | .url => ['^']
  | .domain => domainFilter

/-- A pattern that holds nothing and is tied at most to the start of the URL. -/
def isBlank (p : Pattern) : Bool :=
  p.start ≠ .domain && p.pieces.isEmpty && !p.endsUrl

/-- The regular expression that finds a pattern in a URL. -/
def urlFilter (p : Pattern) : String :=
  if p.isBlank then Trigger.anyUrl
  else String.ofList
    (p.start.filter ++ p.pieces.flatMap Piece.filter ++ if p.endsUrl then ['$'] else [])

end Pattern

end ContentBlocker.Filter
