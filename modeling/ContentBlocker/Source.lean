import ContentBlocker.Registry.Key
import ContentBlocker.Url.Basic

/-!
# Sources

A source is a filter list somewhere on the network, under an identifier of its own. The identifier is
shown as it is; lists are registered under its key, so the keys of several sources must differ.
-/

namespace ContentBlocker

/-- A filter list on the network. -/
structure Source where
  identifier : String
  location : String
  deriving DecidableEq, Repr

namespace Source

/-- The key under which the list is registered. -/
def key (s : Source) : String :=
  Key.ofIdentifier s.identifier

/-- The source with an identifier and a location, if the identifier is not blank and holds no
separator of paths and the location is a URL. -/
def make [UrlChecker] (identifier location : String) : Except Error Source :=
  if identifier.toList.all Text.isSpace then .error (.invalidInput .emptyIdentifier)
  else if identifier.toList.any Key.isSeparator then
    .error (.invalidInput (.separatorInIdentifier identifier))
  else
    match UrlChecker.check location with
    | .error e => .error (.url e)
    | .ok () => .ok { identifier, location }

/-- The first source whose key is one of those given or that of an earlier source. -/
def firstRepeated? (seen : List String) : List Source → Option Source
  | [] => none
  | s :: rest => if seen.contains s.key then some s else firstRepeated? (s.key :: seen) rest

/-- Checks that no two sources have the same key. -/
def checkAll (sources : List Source) : Except Error Unit :=
  match firstRepeated? [] sources with
  | some s => .error (.invalidInput (.duplicateIdentifier s.identifier))
  | none => .ok ()

/-- The sources that are used unless others are given. -/
def defaults : List Source :=
  [⟨"EasyList", "https://easylist.to/easylist/easylist.txt"⟩,
    ⟨"EasyPrivacy", "https://easylist.to/easylist/easyprivacy.txt"⟩,
    ⟨"Fanboy Annoyances", "https://secure.fanboy.co.nz/fanboy-annoyance.txt"⟩,
    ⟨"Fanboy Social", "https://easylist.to/easylist/fanboy-social.txt"⟩,
    ⟨"Peter Lowe Ad Servers",
      "https://pgl.yoyo.org/adservers/serverlist.php?hostformat=adblockplus&showintro=0&mimetype=plaintext"⟩]

end Source

end ContentBlocker
