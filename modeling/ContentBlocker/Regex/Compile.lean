import ContentBlocker.Error
import ContentBlocker.Regex.Size
import ContentBlocker.Regex.Syntax.Parser

/-!
# Reading an expression

Expressions are read by a library. Everything that holds of compiled lists whatever is accepted as an
expression is said for any reader (`FilterReader`). The reader that the program uses accepts an
expression when its text can be read, its parts do not nest too deep and it does not grow too large.
-/

namespace ContentBlocker

/-- A library that reads the expressions of URL filters. -/
class FilterReader where
  /-- The expression that a text stands for; where `caseless`, case does not count unless the text
  says otherwise. -/
  read : (filter : String) → (caseless : Bool) → Except FilterError Regex

namespace Regex

/-- The largest depth that is accepted. -/
def depthLimit : Nat := 250

/-- The expression that a text stands for, as the program reads it. -/
def compile (filter : String) (caseless : Bool) : Except FilterError Regex :=
  match Syntax.Parser.parse? { caseless } filter.toList with
  | none => .error .syntaxRefused
  | some part =>
    if depthLimit < part.depth then .error .syntaxRefused
    else if sizeLimit < part.regex.size then .error .tooLarge
    else .ok part.regex

/-- The reader that the program uses. -/
instance : FilterReader where
  read := compile

@[simp]
theorem read_eq_compile (filter : String) (caseless : Bool) :
    FilterReader.read filter caseless = compile filter caseless :=
  rfl

end Regex

end ContentBlocker
