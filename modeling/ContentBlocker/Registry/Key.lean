import ContentBlocker.Text.Basic

/-!
# Keys

Lists are registered under keys. The key of an identifier is the identifier without its white space;
a key is never empty and holds neither white space nor a separator of paths.
-/

namespace ContentBlocker.Key

/-- Whether a character separates the parts of a path. -/
def isSeparator (c : Char) : Bool :=
  c = '/' || c = '\\'

/-- The key of an identifier. -/
def ofIdentifier (identifier : String) : String :=
  String.ofList (Text.dropSpaces identifier.toList)

/-- Whether a list may be registered under a text. -/
def isValid (key : String) : Bool :=
  !key.isEmpty && key.toList.all fun c => !Text.isSpace c && !isSeparator c

end ContentBlocker.Key
