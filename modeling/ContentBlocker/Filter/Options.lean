import ContentBlocker.Filter.Domains

/-!
# Rule options

Behind the last `$` of a network line stand its options, separated by commas. Each is read on its
own (`RuleOption.parse?`); one that is not supported spoils the line. Together they narrow a
trigger: of several options on parties the last one counts, the resource types form a sorted list
without repetitions, and every list of domains is applied in turn.
-/

namespace ContentBlocker.Filter

/-- An option of a network line. -/
inductive RuleOption where
  | party (type : LoadType)
  | matchCase
  /-- Accepted, and without effect. -/
  | important
  | domains (list : Domains)
  | resource (type : ResourceType)
  deriving DecidableEq, Repr

namespace RuleOption

/-- The option that a text in lower case names. -/
def ofLower? (s : List Char) : Option RuleOption :=
  let name := String.ofList s
  if name = "third-party" ∨ name = "3p" then some (.party .thirdParty)
  else if name = "~third-party" ∨ name = "first-party" ∨ name = "1p" then some (.party .firstParty)
  else if name = "match-case" then some .matchCase
  else if name = "important" then some .important
  else match "domain=".toList.isPrefixOf? s with
    | some list => some (.domains (Domains.parse '|' list))
    | none => (ResourceType.ofOption? name).map .resource

/-- The option that a text names, in any case. -/
def parse? (s : List Char) : Option RuleOption :=
  ofLower? (Text.lower s)

/-- The options in a text, `none` when one of them is not supported. Blank items are no options. -/
def parseList? (s : List Char) : Option (List RuleOption) :=
  (((s.splitOn ',').map Text.trim).filter (!·.isEmpty)).mapM parse?

/-- What an option does to a trigger on its own. -/
def narrow (t : Trigger) : RuleOption → Trigger
  | .party type => { t with loadTypes := some [type] }
  | .matchCase => { t with caseSensitive := true }
  | .important => t
  | .domains list => list.narrow t
  | .resource _ => t

/-- The resource type that an option asks for. -/
def resource? : RuleOption → Option ResourceType
  | .resource type => some type
  | _ => none

/-- The resource types that options ask for, each once, in declaration order. -/
def resourceTypes (options : List RuleOption) : List ResourceType :=
  let asked := options.filterMap resource?
  ResourceType.all.filter (asked.contains ·)

/-- What options do to a trigger together. -/
def narrowAll (options : List RuleOption) (t : Trigger) : Trigger :=
  let t := options.foldl narrow t
  match resourceTypes options with
  | [] => t
  | types => { t with resourceTypes := some types }

end RuleOption

end ContentBlocker.Filter
