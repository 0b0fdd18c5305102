import ContentBlocker.Text.Basic
import ContentBlocker.Unicode.DomainName
import ContentBlocker.Url.Digits
import ContentBlocker.Url.Punycode

/-!
# Domain names

A domain name in a URL is read in three steps: percent signs with two hexadecimal digits become
bytes, the bytes are read as UTF-8, and every character is mapped. What comes out is cut into labels
at its full stops; a label that starts with `xn--` is written in Punycode and has to be the writing
of a label that needs it.
-/

namespace ContentBlocker.Url.Domain

/-- The bytes of a character. -/
def bytes (c : Char) : List UInt8 :=
  (String.singleton c).toUTF8.data.toList

/-- The byte that two hexadecimal digits stand for. -/
def byte? (high low : Char) : Option UInt8 := do
  let high ← digit? 16 high
  let low ← digit? 16 low
  some (16 * high + low).toUInt8

/-- The bytes that a host stands for. -/
def percentDecode : List Char → List UInt8
  | '%' :: a :: b :: rest =>
    match byte? a b with
    | some byte => byte :: percentDecode rest
    | none => bytes '%' ++ percentDecode (a :: b :: rest)
  | c :: s => bytes c ++ percentDecode s
  | [] => []

/-- The text that bytes are in UTF-8. -/
def text? (bytes : List UInt8) : Option (List Char) :=
  (String.fromUTF8? ⟨bytes.toArray⟩).map String.toList

/-- The characters of ASCII that no domain name may hold, controls and the space apart. -/
def refusedMarks : List Char :=
  ['%', '#', '/', ':', '<', '>', '?', '@', '[', '\\', ']', '^', '|']

/-- What a character of ASCII becomes. -/
def asciiMapping? (c : Char) : Option Char :=
  if c.toNat ≤ 0x20 || c.toNat = 0x7F || refusedMarks.contains c then none else some c.toLower

/-- What a character becomes. -/
def mapping? (c : Char) : Option (List Char) :=
  if Text.isAscii c then (asciiMapping? c).map ([·])
  else (Unicode.domainMapping? c).bind (·.mapM fun c =>
    if Text.isAscii c then asciiMapping? c else some c)

/-- Whether a label written without Punycode is one. -/
def isPlainLabel (label : List Char) : Bool :=
  !label.head?.any Unicode.isMark

/-- Whether what Punycode stands for is a label that needs it, in its final form. -/
def isDecodedLabel (label : List Char) : Bool :=
  label.any (!Text.isAscii ·) && isPlainLabel label
    && label.all fun c => mapping? c == some [c]

/-- Whether a label is one. -/
def isLabel (label : List Char) : Bool :=
  match label with
  | 'x' :: 'n' :: '-' :: '-' :: code =>
    code.all Text.isAscii && (Punycode.decode? code).any isDecodedLabel
  | label => isPlainLabel label

/-- The labels of the domain name that a host stands for. -/
def labels? (host : List Char) : Option (List (List Char)) := do
  let text ← text? (percentDecode host)
  let labels := ((← text.mapM mapping?).flatten).splitOn '.'
  if labels.all isLabel then some labels else none

end ContentBlocker.Url.Domain
