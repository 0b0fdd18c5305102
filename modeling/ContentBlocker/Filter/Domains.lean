import ContentBlocker.Text.Basic
import ContentBlocker.Rule.Basic

/-!
# Domain lists

A filter line may name the sites it acts on and, with a `~` in front, sites it leaves alone. A rule
can carry only one of the two lists; where a line names both, the sites to act on win.
-/

namespace ContentBlocker.Filter

/-- The sites that a list names: those to act on and those to leave alone. -/
structure Domains where
  included : List String
  excluded : List String
  deriving DecidableEq, Repr

namespace Domains

/-- A domain as a rule names it: the domain and everything under it, in lower case. -/
def ofName (name : List Char) : String :=
  String.ofList ('*' :: Text.lower name)

/-- The domain that an item leaves alone, if the item starts with `~`. -/
def excluded? : List Char → Option String
  | '~' :: name => some (ofName name)
  | _ => none

/-- The domain that an item acts on, if the item does not start with `~`. -/
def included? : List Char → Option String
  | '~' :: _ => none
  | name => some (ofName name)

/-- The sites that a list names whose items stand between separators; blank items name nothing. -/
def parse (separator : Char) (s : List Char) : Domains :=
  let items := ((s.splitOn separator).map Text.trim).filter (!·.isEmpty)
  { included := items.filterMap included?, excluded := items.filterMap excluded? }

/-- The trigger narrowed to the sites that a list names. A list that names none changes nothing. -/
def narrow (d : Domains) (t : Trigger) : Trigger :=
  if !d.included.isEmpty then { t with ifDomain := some d.included }
  else if !d.excluded.isEmpty then { t with unlessDomain := some d.excluded }
  else t

end Domains

end ContentBlocker.Filter
