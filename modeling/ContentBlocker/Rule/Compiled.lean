import ContentBlocker.Regex.Compile
import ContentBlocker.Regex.Match
import ContentBlocker.Rule.Encoding

/-!
# Compiled lists

A list is compiled from its encoded text: every rule is checked and its URL filter read. One bad
rule spoils the whole list, and the error names the first of them. A rule is checked for its domain
lists first, then for its selector, then for its filter.
-/

namespace ContentBlocker

/-- A URL filter that has been read: its text, and the expression that it stands for. -/
structure UrlFilter where
  text : String
  regex : Regex
  deriving DecidableEq, Repr

/-- A rule whose URL filter has been read. -/
structure CompiledRule where
  urlFilter : UrlFilter
  ifDomain : Option (List String)
  unlessDomain : Option (List String)
  resourceTypes : Option (List ResourceType)
  loadTypes : Option (List LoadType)
  action : Action
  deriving DecidableEq, Repr

/-- A list of compiled rules. -/
structure CompiledList where
  identifier : String
  rules : List CompiledRule
  /-- The length of the encoded text in UTF-8. -/
  encodedSize : Nat
  deriving DecidableEq, Repr

/-- Whether the filter of a rule is found in a URL. -/
def CompiledRule.isFoundIn (r : CompiledRule) (url : String) : Bool :=
  r.urlFilter.regex.isFoundIn url.toList

variable [FilterReader]

/-- Compiles the rule at an index of a list. -/
def CompiledRule.ofRule (identifier : String) (index : Nat) (rule : Rule) :
    Except RegistryError CompiledRule :=
  let trigger := rule.trigger
  if trigger.ifDomain.isSome && trigger.unlessDomain.isSome then
    .error (.conflictingDomains identifier index)
  else if rule.action.type = .cssDisplayNone && rule.action.selector.isNone then
    .error (.missingSelector identifier index)
  else
    match FilterReader.read trigger.urlFilter (!trigger.caseSensitive) with
    | .error cause => .error (.invalidFilter identifier index trigger.urlFilter cause)
    | .ok regex =>
      .ok {
        urlFilter := { text := trigger.urlFilter, regex }
        ifDomain := trigger.ifDomain
        unlessDomain := trigger.unlessDomain
        resourceTypes := trigger.resourceTypes
        loadTypes := trigger.loadTypes
        action := rule.action }

namespace CompiledList

/-- Compiles rules, the first of which stands at an index of a list. -/
def compileRules (identifier : String) : Nat → List Rule → Except RegistryError (List CompiledRule)
  | _, [] => .ok []
  | index, rule :: rules => do
    let first ← CompiledRule.ofRule identifier index rule
    let others ← compileRules identifier (index + 1) rules
    return first :: others

/-- Compiles an encoded list. -/
def compile (identifier encoded : String) : Except RegistryError CompiledList :=
  match Rule.decodeList? encoded with
  | none => .error (.malformedList identifier)
  | some [] => .error (.emptyList identifier)
  | some rules => do
    let rules ← compileRules identifier 0 rules
    return { identifier, rules, encodedSize := encoded.utf8ByteSize }

/-- How many rules of a list have an action of one type. -/
def count (list : CompiledList) (type : ActionType) : Nat :=
  list.rules.countP (·.action.type = type)

end CompiledList

end ContentBlocker
