/-!
# Errors

Every failure is a cause; its wording is in the `message` functions and nowhere else. An error of a
part that an outer part reports as its own (`TranslationError.wrapped`, `RegistryError.wrapped`)
keeps the wording that it had.
-/

namespace ContentBlocker

/-! ### Causes -/

/-- Why rule lines were not turned into an encoded list. -/
inductive TranslationError where
  /-- None of that many lines became a rule within the limit. -/
  | noConvertibleRules (lines : Nat)
  /-- The translator stopped without an answer. -/
  | crashed
  /-- The translator's text is no JSON array with an element. -/
  | notARuleArray
  /-- Any other cause, in words. -/
  | wrapped (text : String)
  deriving DecidableEq, Repr

/-- Why a URL filter is no usable expression. -/
inductive FilterError where
  | syntaxRefused
  | tooLarge
  deriving DecidableEq, Repr

/-- Why the registry refused a request. -/
inductive RegistryError where
  | invalidIdentifier (identifier : String)
  | malformedList (identifier : String)
  | emptyList (identifier : String)
  /-- A rule that names both domains to act on and domains to leave alone. -/
  | conflictingDomains (identifier : String) (index : Nat)
  /-- A rule that hides elements and names none. -/
  | missingSelector (identifier : String) (index : Nat)
  | invalidFilter (identifier : String) (index : Nat) (filter : String) (cause : FilterError)
  /-- There is no registry. -/
  | unavailable
  /-- Any other cause, in words. -/
  | wrapped (text : String)
  deriving DecidableEq, Repr

/-- Why an operation on the disk failed. -/
inductive DiskError where
  | notFound
  | exists
  | notADirectory
  | isADirectory
  | nameTooLong
  | tooManyLinks
  | nulInName
  | notText
  | notARegularFile
  /-- Any other cause, in words. -/
  | other (text : String)
  deriving DecidableEq, Repr

/-- Why a text is no URL. -/
inductive UrlError where
  | noScheme
  | emptyHost
  | invalidPort
  | invalidIpv4
  | invalidIpv6
  | invalidHostCharacter
  | invalidDomainName
  /-- A text that is to be read from a URL which has no directories. -/
  | baseWithoutPath
  /-- A host for a URL which has none. -/
  | noPlaceForHost
  | tooLong
  deriving DecidableEq, Repr

/-- Why an input was refused. -/
inductive InputError where
  | emptyIdentifier
  | separatorInIdentifier (identifier : String)
  | duplicateIdentifier (identifier : String)
  /-- Any other cause, in words. -/
  | other (text : String)
  deriving DecidableEq, Repr

/-- What can go wrong. -/
inductive Error where
  | requestFailed (request : String)
  | noRules (location : String)
  | translation (cause : TranslationError)
  | registry (cause : RegistryError)
  /-- Some list could not be loaded. -/
  | notFound
  | http (text : String)
  | json (text : String)
  | disk (cause : DiskError)
  | url (cause : UrlError)
  | invalidInput (cause : InputError)
  deriving DecidableEq, Repr

/-! ### Wording -/

/-- The wording of a translation error. -/
def TranslationError.message : TranslationError → String
  | .noConvertibleRules lines => s!"no convertible rules among {lines} lines"
  | .crashed => "translation task failed"
  | .notARuleArray => "translator did not produce a rule array"
  | .wrapped text => text

/-- The wording of a filter error. -/
def FilterError.message : FilterError → String
  | .syntaxRefused => "regex parse error"
  | .tooLarge => "Compiled regex exceeds size limit of 1048576 bytes."

/-- The wording of a registry error. -/
def RegistryError.message : RegistryError → String
  | .invalidIdentifier identifier => s!"invalid rule list identifier [{identifier}]"
  | .malformedList identifier => s!"[{identifier}] malformed rule list"
  | .emptyList identifier => s!"[{identifier}] rule list is empty"
  | .conflictingDomains identifier index =>
    s!"[{identifier}] rule {index}: if-domain and unless-domain are mutually exclusive"
  | .missingSelector identifier index =>
    s!"[{identifier}] rule {index}: css-display-none requires a selector"
  | .invalidFilter identifier index filter cause =>
    s!"[{identifier}] rule {index}: invalid url-filter {filter}: {cause.message}"
  | .unavailable => "rule list registry unavailable"
  | .wrapped text => text

/-- The wording of a disk error. -/
def DiskError.message : DiskError → String
  | .notFound => "No such file or directory (os error 2)"
  | .exists => "File exists (os error 17)"
  | .notADirectory => "Not a directory (os error 20)"
  | .isADirectory => "Is a directory (os error 21)"
  | .nameTooLong => "File name too long (os error 36)"
  | .tooManyLinks => "Too many levels of symbolic links (os error 40)"
  | .nulInName => "file name contained an unexpected NUL byte"
  | .notText => "stream did not contain valid UTF-8"
  | .notARegularFile => "not a regular file"
  | .other text => text

/-- The wording of a URL error. -/
def UrlError.message : UrlError → String
  | .noScheme => "relative URL without a base"
  | .emptyHost => "empty host"
  | .invalidPort => "invalid port number"
  | .invalidIpv4 => "invalid IPv4 address"
  | .invalidIpv6 => "invalid IPv6 address"
  | .invalidHostCharacter => "invalid domain character"
  | .invalidDomainName => "invalid international domain name"
  | .baseWithoutPath => "relative URL with a cannot-be-a-base base"
  | .noPlaceForHost => "a cannot-be-a-base URL doesn’t have a host to set"
  | .tooLong => "URLs more than 4 GB are not supported"

/-- The wording of an input error. -/
def InputError.message : InputError → String
  | .emptyIdentifier => "source identifier must not be empty"
  | .separatorInIdentifier identifier =>
    s!"source identifier [{identifier}] must not contain path separators"
  | .duplicateIdentifier identifier => s!"duplicate source identifier [{identifier}]"
  | .other text => text

/-- The wording of an error. -/
def Error.message : Error → String
  | .requestFailed request => "request failed: " ++ request
  | .noRules location => "no rules in list: " ++ location
  | .translation cause => "rule translation failed: " ++ cause.message
  | .registry cause => "rule list registry failed: " ++ cause.message
  | .notFound => "filter lists not found"
  | .http text => "http client error: " ++ text
  | .json text => "json error: " ++ text
  | .disk cause => "io error: " ++ cause.message
  | .url cause => "invalid url: " ++ cause.message
  | .invalidInput cause => "invalid input: " ++ cause.message

end ContentBlocker
