import ContentBlocker.Filter.Options
import ContentBlocker.Filter.Pattern

/-!
# Filter lines

A line becomes at most one rule. A line that hides elements has `##` between its domains and a
selector; a line of a hosts file blocks the domain it names; every other line is a network pattern
with options behind its last `$`, and takes back earlier rules if it starts with `@@`.

What cannot be said as a content-blocker rule becomes none: text outside ASCII, extended ways of
hiding, patterns that are regular expressions themselves, unsupported options, and a rule that
would name every request.
-/

namespace ContentBlocker.Filter

/-- The three kinds of rules that lines become. -/
inductive Kind where
  | blocking
  | cosmetic
  | exception
  deriving DecidableEq, Repr

/-! ### Hiding elements -/

/-- The marks of lines that hide elements, run scripts or change pages in ways that a rule cannot
say. -/
def unsupportedMarks : List (List Char) :=
  ["#@#".toList, "#?#".toList, "#$#".toList, "#%#".toList, "$$".toList]

/-- The rule that hides what a selector names on the listed domains. A script call in place of a
selector makes no rule. -/
def hidingRule? (domains selector : List Char) : Option Rule :=
  let selector := Text.trim selector
  if selector.isEmpty || "+js(".toList.isPrefixOf selector then none
  else some {
    trigger := (Domains.parse ',' domains).narrow { urlFilter := Trigger.anyUrl }
    action := Action.hide (String.ofList selector) }

/-! ### Network rules -/

/-- Whether a pattern is written as a regular expression, between two slashes. -/
def isExpression (s : List Char) : Bool :=
  1 < s.length && s.head? == some '/' && s.getLast? == some '/'

/-- The pattern of a network line and its options, which stand behind the last `$`. -/
def splitOptions (s : List Char) : List Char × Option (List Char) :=
  match Text.cutLast? '$' s with
  | some (pattern, options) => (pattern, some options)
  | none => (s, none)

/-- The trigger of a network line. -/
def networkTrigger? (s : List Char) : Option Trigger :=
  let (pattern, options) := splitOptions s
  if isExpression s || isExpression pattern then none
  else do
    let options ← RuleOption.parseList? (options.getD [])
    let trigger := RuleOption.narrowAll options
      { urlFilter := (Pattern.parse (Text.trim pattern)).urlFilter }
    if trigger.urlFilter = Trigger.anyUrl && !trigger.isRestricted then none else some trigger

/-- The network rule that a line makes with the given action. -/
def networkRule? (s : List Char) (action : Action) : Option Rule :=
  (networkTrigger? s).map fun trigger => { trigger, action }

/-! ### Hosts files -/

/-- The addresses by which a hosts file sends a name nowhere. -/
def nowhere : List (List Char) :=
  ["0.0.0.0".toList, "127.0.0.1".toList]

/-- Whether a line is an entry of a hosts file. -/
def isHostsEntry (s : List Char) : Bool :=
  match Text.words s with
  | address :: _ => nowhere.contains address
  | [] => false

/-- The domain that an entry of a hosts file sends nowhere. -/
def hostsDomain? (s : List Char) : Option (List Char) :=
  match Text.words s with
  | _ :: name :: _ => if name = "localhost".toList || !name.contains '.' then none else some name
  | _ => none

/-! ### Lines -/

/-- The rule that a line becomes, and its kind. -/
def convert? (line : List Char) : Option (Kind × Rule) :=
  let s := Text.trim line
  if s.isEmpty || !s.all Text.isAscii || unsupportedMarks.any (Text.holds · s) then none
  else match Text.cut? "##".toList s with
    | some (domains, selector) => (hidingRule? domains selector).map (.cosmetic, ·)
    | none =>
      if isHostsEntry s then do
        let name ← hostsDomain? s
        let rule ← networkRule? ("||".toList ++ name ++ ['^']) Action.block
        some (.blocking, rule)
      else match "@@".toList.isPrefixOf? s with
        | some rest => (networkRule? rest Action.ignorePrevious).map (.exception, ·)
        | none => (networkRule? s Action.block).map (.blocking, ·)

end ContentBlocker.Filter
