import ContentBlocker.Error
import ContentBlocker.Text.Basic

/-!
# Filter lists

A filter list is a text with one rule to a line. Blank lines, comments (`!`) and the header, a line
in brackets that names Adblock, are no rules. White space around a line does not count, so a
carriage return before the line feed goes with it.
-/

namespace ContentBlocker.Filter

/-- Whether a line is the header of a list. -/
def isHeader (line : List Char) : Bool :=
  line.head? == some '[' && line.getLast? == some ']'
    && Text.holds "adblock".toList (Text.lower line)

/-- Whether a line without white space around it may be a rule. -/
def isRuleLine (line : List Char) : Bool :=
  !line.isEmpty && line.head? != some '!' && !isHeader line

/-- The rule lines of a list, without white space around them. -/
def ruleLines (body : String) : List String :=
  (((body.toList.splitOn '\n').map Text.trim).filter isRuleLine).map String.ofList

/-- Fetches a list from a location and gives its rule lines. -/
def fetch (get : String → Except Error String) (location : String) : Except Error (List String) := do
  let body ← get location
  match ruleLines body with
  | [] => .error (.noRules location)
  | lines => .ok lines

end ContentBlocker.Filter
