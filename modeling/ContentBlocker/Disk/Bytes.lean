/-!
# Bytes

Names and files on a disk are sequences of bytes. One that is UTF-8 is kept as the text that it
stands for, any other as it is, so two are equal exactly when their bytes are.
-/

namespace ContentBlocker

/-- A sequence of bytes: the UTF-8 of a text, or bytes that are no UTF-8. -/
inductive Bytes where
  | text (s : String)
  | raw (bytes : List UInt8)
  deriving DecidableEq, Repr

namespace Bytes

/-- The bytes in a list. -/
def ofList (bytes : List UInt8) : Bytes :=
  match String.fromUTF8? ⟨bytes.toArray⟩ with
  | some s => .text s
  | none => .raw bytes

/-- How many bytes there are. -/
def size : Bytes → Nat
  | .text s => s.utf8ByteSize
  | .raw bytes => bytes.length

/-- The text that the bytes are. -/
def text? : Bytes → Option String
  | .text s => some s
  | .raw _ => none

/-- Whether one of the bytes is zero. -/
def holdsZero : Bytes → Bool
  | .text s => s.toList.contains (Char.ofNat 0)
  | .raw bytes => bytes.contains 0

/-- Whether the first byte is a slash. -/
def startsWithSlash : Bytes → Bool
  | .text s => s.toList.head? == some '/'
  | .raw bytes => bytes.head? == some 47

/-- Whether the last byte is a slash. -/
def endsWithSlash : Bytes → Bool
  | .text s => s.toList.getLast? == some '/'
  | .raw bytes => bytes.getLast? == some 47

/-- The sequences between the slashes, without those that are empty. -/
def splitAtSlashes : Bytes → List Bytes
  | .text s => ((s.toList.splitOn '/').filter (!·.isEmpty)).map fun part => .text (String.ofList part)
  | .raw bytes => ((bytes.splitOn 47).filter (!·.isEmpty)).map ofList

end Bytes

end ContentBlocker
