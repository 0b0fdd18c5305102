import Std.Data.HashSet
import ContentBlocker.Error
import ContentBlocker.Filter.Line
import ContentBlocker.Rule.Encoding

/-!
# Translating filter lines

The lines of a list become an encoded rule list: first the blocking rules, then the hiding ones,
then the exceptions, each kind in the order of its lines. Tidying drops repeated rules of a kind and
gathers the selectors of hiding rules that name no domain into groups, which come first among the
hiding rules. The list is cut at the limit, and a list without rules is an error.
-/

namespace ContentBlocker.Filter

/-! ### Tidying -/

/-- The first occurrences among `xs` of what has not been `seen`. -/
def firstsFrom {α : Type} [BEq α] [Hashable α] (seen : Std.HashSet α) : List α → List α
  | [] => []
  | x :: xs => if seen.contains x then firstsFrom seen xs else x :: firstsFrom (seen.insert x) xs

/-- The first occurrence of each element, in order. -/
def firsts {α : Type} [BEq α] [Hashable α] (xs : List α) : List α :=
  firstsFrom ∅ xs

/-- The trigger of a hiding rule that names no domain. -/
def genericTrigger : Trigger := { urlFilter := Trigger.anyUrl }

/-- Whether a rule hides elements on every site. -/
def isGenericHiding (r : Rule) : Bool :=
  r.trigger = genericTrigger && r.action.type = .cssDisplayNone

/-- How many selectors a gathered rule holds at most. -/
def groupSize : Nat := 250

/-- Consecutive groups of `n + 1` elements; only the last one may be smaller, and none is empty. -/
def chunks {α : Type} (n : Nat) : List α → List (List α)
  | [] => []
  | x :: xs => (x :: xs.take n) :: chunks n (xs.drop n)
  termination_by xs => xs.length
  decreasing_by
    simp only [List.length_drop, List.length_cons]
    omega

/-- The rules that hide what the selectors name on every site, one for each group. -/
def gathered (selectors : List String) : List Rule :=
  (chunks (groupSize - 1) selectors).map fun group =>
    { trigger := genericTrigger, action := Action.hide (", ".intercalate group) }

/-- The hiding rules with the selectors of the generic ones gathered, in front of the others. -/
def gatherGeneric (rules : List Rule) : List Rule :=
  gathered ((rules.filter isGenericHiding).filterMap (·.action.selector))
    ++ rules.filter (!isGenericHiding ·)

/-! ### Translation -/

/-- The rules of one kind, in order. -/
def ofKind (kind : Kind) (converted : List (Kind × Rule)) : List Rule :=
  (converted.filter (·.1 = kind)).map (·.2)

/-- The rules of converted lines in the order of a list. -/
def arrange (optimize : Bool) (converted : List (Kind × Rule)) : List Rule :=
  let blocking := ofKind .blocking converted
  let cosmetic := ofKind .cosmetic converted
  let exceptions := ofKind .exception converted
  if optimize then firsts blocking ++ gatherGeneric (firsts cosmetic) ++ firsts exceptions
  else blocking ++ cosmetic ++ exceptions

/-- The rules that lines become, at most `limit` of them. -/
def rulesOf (lines : List String) (limit : Nat) (optimize : Bool) : List Rule :=
  (arrange optimize (lines.filterMap (convert? ·.toList))).take limit

/-- The encoded list that lines become. -/
def translate (lines : List String) (limit : Nat) (optimize : Bool) : Except Error String :=
  match rulesOf lines limit optimize with
  | [] => .error (.translation (.noConvertibleRules lines.length))
  | rules => .ok (Rule.encodeList rules)

end ContentBlocker.Filter
