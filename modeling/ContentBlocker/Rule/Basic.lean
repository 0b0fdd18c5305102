/-!
# Content-blocker rules

A rule has a trigger, which says what requests it is about, and an action, which says what happens
to them. The URL filter of a trigger is the text of a regular expression; the lists narrow the
requests further, and a list that is absent (`none`) narrows nothing.
-/

namespace ContentBlocker

/-- What a rule does. -/
inductive ActionType where
  | block
  | blockCookies
  /-- Hides the elements that a selector names. -/
  | cssDisplayNone
  /-- Takes back what earlier rules did. -/
  | ignorePreviousRules
  deriving DecidableEq, Repr, Hashable

namespace ActionType

/-- All action types, in declaration order. -/
def all : List ActionType := [.block, .blockCookies, .cssDisplayNone, .ignorePreviousRules]

/-- The name of an action type in an encoded list. -/
def name : ActionType → String
  | .block => "block"
  | .blockCookies => "block-cookies"
  | .cssDisplayNone => "css-display-none"
  | .ignorePreviousRules => "ignore-previous-rules"

end ActionType

/-- What kind of resource a request asks for. -/
inductive ResourceType where
  | document
  | image
  | styleSheet
  | script
  | font
  | raw
  | svgDocument
  | media
  | popup
  deriving DecidableEq, Repr, Hashable

namespace ResourceType

/-- All resource types, in declaration order, which is also the order of a sorted list. -/
def all : List ResourceType :=
  [.document, .image, .styleSheet, .script, .font, .raw, .svgDocument, .media, .popup]

/-- The name of a resource type in an encoded list. -/
def name : ResourceType → String
  | .document => "document"
  | .image => "image"
  | .styleSheet => "style-sheet"
  | .script => "script"
  | .font => "font"
  | .raw => "raw"
  | .svgDocument => "svg-document"
  | .media => "media"
  | .popup => "popup"

/-- The resource type that an option of a filter line asks for. Several options share a type, and
some types have no option. -/
def ofOption? (option : String) : Option ResourceType :=
  if option = "document" ∨ option = "subdocument" then some .document
  else if option = "image" then some .image
  else if option = "stylesheet" then some .styleSheet
  else if option = "script" then some .script
  else if option = "font" then some .font
  else if option = "media" ∨ option = "object" then some .media
  else if option = "popup" then some .popup
  else if option = "xmlhttprequest" ∨ option = "websocket" ∨ option = "ping" ∨ option = "other" then
    some .raw
  else none

end ResourceType

/-- Whether a request stays with the site that makes it. -/
inductive LoadType where
  | firstParty
  | thirdParty
  deriving DecidableEq, Repr, Hashable

namespace LoadType

/-- All load types, in declaration order. -/
def all : List LoadType := [.firstParty, .thirdParty]

/-- The name of a load type in an encoded list. -/
def name : LoadType → String
  | .firstParty => "first-party"
  | .thirdParty => "third-party"

end LoadType

/-- What requests a rule is about. -/
structure Trigger where
  urlFilter : String
  caseSensitive : Bool := false
  ifDomain : Option (List String) := none
  unlessDomain : Option (List String) := none
  resourceTypes : Option (List ResourceType) := none
  loadTypes : Option (List LoadType) := none
  deriving DecidableEq, Repr, Hashable

/-- Whether a trigger narrows requests by anything but their URL. -/
def Trigger.isRestricted (t : Trigger) : Bool :=
  t.ifDomain.isSome || t.unlessDomain.isSome || t.resourceTypes.isSome || t.loadTypes.isSome

/-- What happens to the requests that a trigger names. -/
structure Action where
  type : ActionType
  selector : Option String := none
  deriving DecidableEq, Repr, Hashable

namespace Action

/-- Blocks the request. -/
def block : Action := ⟨.block, none⟩

/-- Takes back what earlier rules did to the request. -/
def ignorePrevious : Action := ⟨.ignorePreviousRules, none⟩

/-- Hides the elements that the selector names. -/
def hide (selector : String) : Action := ⟨.cssDisplayNone, some selector⟩

end Action

/-- A content-blocker rule. -/
structure Rule where
  trigger : Trigger
  action : Action
  deriving DecidableEq, Repr, Hashable

/-- A URL filter that every text without line breaks matches as a whole. -/
def Trigger.anyUrl : String := ".*"

end ContentBlocker
