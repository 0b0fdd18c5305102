import ContentBlocker.Rule.Basic
import ContentBlocker.Json.Reader
import ContentBlocker.Json.Writer

/-!
# The encoding of rules

A list of rules is encoded as a JSON array of objects. Writing leaves out what has its default: a
filter that ignores case, and lists and selectors that are absent.

Reading is more generous than writing. A record may be an object, whose unknown members are skipped
and whose known ones may each stand once, or an array of its fields in declaration order, where the
optional ones at the end may be missing. A name may also be an object with that name as its only
member and null as its value. An absent list may be written as null, but a missing flag may not.
-/

namespace ContentBlocker

/-! ### Writing -/

namespace Json

/-- A string value. -/
def text (s : String) : Json := .string (some s)

/-- An array of strings. -/
def texts (ss : List String) : Json := .array (ss.map text)

/-- An object; the members that are absent are left out. -/
def record (members : List (String × Option Json)) : Json :=
  .object (members.filterMap fun (name, value) => value.map fun v => (some name, v))

end Json

open Json (text texts record)

/-- A trigger as a JSON value. -/
def Trigger.toJson (t : Trigger) : Json :=
  record [
    ("url-filter", some (text t.urlFilter)),
    ("url-filter-is-case-sensitive", if t.caseSensitive then some (.bool true) else none),
    ("if-domain", t.ifDomain.map texts),
    ("unless-domain", t.unlessDomain.map texts),
    ("resource-type", t.resourceTypes.map fun types => texts (types.map ResourceType.name)),
    ("load-type", t.loadTypes.map fun types => texts (types.map LoadType.name))]

/-- An action as a JSON value. -/
def Action.toJson (a : Action) : Json :=
  record [("type", some (text a.type.name)), ("selector", a.selector.map text)]

/-- A rule as a JSON value. -/
def Rule.toJson (r : Rule) : Json :=
  record [("trigger", some r.trigger.toJson), ("action", some r.action.toJson)]

/-- The encoded text of an action. -/
def Action.encode (a : Action) : String :=
  String.ofList a.toJson.write

/-- The encoded text of a list of rules. -/
def Rule.encodeList (rules : List Rule) : String :=
  String.ofList (Json.write (.array (rules.map Rule.toJson)))

/-! ### Reading -/

namespace Json

/-- The value of the only member with this name, `none` when there is no such member, and failure
when there are several. -/
def member? (members : List (Option String × Json)) (name : String) : Option (Option Json) :=
  match members.filter fun m => m.1 == some name with
  | [] => some none
  | [(_, value)] => some (some value)
  | _ => none

/-- What a record gives to each of its fields: by name in an object, by position in an array. -/
def fields? (names : List String) : Json → Option (List (Option Json))
  | .object members =>
    if members.all fun m => m.1.isSome then names.mapM (member? members) else none
  | .array items =>
    if items.length ≤ names.length then
      some (items.map some ++ List.replicate (names.length - items.length) none)
    else none
  | _ => none

/-- A string. -/
def text? : Json → Option String
  | .string s => s
  | _ => none

/-- An array with items of one kind. -/
def list? {α : Type} (item? : Json → Option α) : Json → Option (List α)
  | .array items => items.mapM item?
  | _ => none

/-- A value that may be missing or null. -/
def optional? {α : Type} (value? : Json → Option α) : Option Json → Option (Option α)
  | none => some none
  | some .null => some none
  | some j => (value? j).map some

/-- A flag that may be missing. -/
def flag? : Option Json → Option Bool
  | none => some false
  | some (.bool b) => some b
  | some _ => none

/-- One of several named values. -/
def named? {α : Type} (all : List α) (name : α → String) : Json → Option α
  | .string (some s) => all.find? (name · == s)
  | .object [(some s, .null)] => all.find? (name · == s)
  | _ => none

end Json

open Json (fields? text? list? optional? flag? named?)

/-- The trigger that a JSON value encodes. -/
def Trigger.ofJson? (j : Json) : Option Trigger := do
  let fields ← fields?
    ["url-filter", "url-filter-is-case-sensitive", "if-domain", "unless-domain", "resource-type",
      "load-type"] j
  match fields with
  | [some filter, sensitive, ifDomain, unlessDomain, resources, loads] =>
    let urlFilter ← text? filter
    let caseSensitive ← flag? sensitive
    let ifDomain ← optional? (list? text?) ifDomain
    let unlessDomain ← optional? (list? text?) unlessDomain
    let resourceTypes ← optional? (list? (named? ResourceType.all ResourceType.name)) resources
    let loadTypes ← optional? (list? (named? LoadType.all LoadType.name)) loads
    some { urlFilter, caseSensitive, ifDomain, unlessDomain, resourceTypes, loadTypes }
  | _ => none

/-- The action that a JSON value encodes. -/
def Action.ofJson? (j : Json) : Option Action := do
  let fields ← fields? ["type", "selector"] j
  match fields with
  | [some type, selector] =>
    let type ← named? ActionType.all ActionType.name type
    let selector ← optional? text? selector
    some { type, selector }
  | _ => none

/-- The rule that a JSON value encodes. -/
def Rule.ofJson? (j : Json) : Option Rule := do
  let fields ← fields? ["trigger", "action"] j
  match fields with
  | [some trigger, some action] =>
    let trigger ← Trigger.ofJson? trigger
    let action ← Action.ofJson? action
    some { trigger, action }
  | _ => none

/-- The rules that an encoded list holds. -/
def Rule.decodeList? (encoded : String) : Option (List Rule) :=
  (Json.read? encoded).bind (list? Rule.ofJson?)

/-! ### Rule arrays -/

/-- Whether a text is a JSON array with at least one element, taken up as data. -/
def Json.isRuleArray (encoded : String) : Bool :=
  match Json.read? encoded with
  | some (.array (item :: items)) => Json.isData (.array (item :: items))
  | _ => false

end ContentBlocker
