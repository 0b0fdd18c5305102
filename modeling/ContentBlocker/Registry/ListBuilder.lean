import ContentBlocker.Filter.Translation
import ContentBlocker.Registry.Service

/-!
# Translating and registering lists

A list builder brings a translator and a registry together and fixes how rules are translated. Any
identifier may be given to it: it turns identifiers into keys. Whatever goes wrong inside the
translator comes out as a translation error, and whatever goes wrong inside the registry, or for want
of one, as a registry error; an error of another kind is wrapped once and keeps its wording.
-/

namespace ContentBlocker

/-- What comes out of a translator. -/
inductive TranslatorAnswer where
  | text (encoded : String)
  | failure (e : Error)
  /-- It stopped without an answer. -/
  | crash
  deriving DecidableEq, Repr

/-- Turns rule lines into an encoded list, given how many rules there may be at most and whether to
tidy them. -/
abbrev Translator := (lines : List String) → (limit : Nat) → (optimize : Bool) → TranslatorAnswer

/-- The translator of filter lines into content-blocker rules. -/
def Filter.translator : Translator := fun lines limit optimize =>
  match translate lines limit optimize with
  | .ok encoded => .text encoded
  | .error e => .failure e

namespace Error

/-- An error as a translation error. -/
def asTranslation : Error → Error
  | .translation cause => .translation cause
  | e => .translation (.wrapped e.message)

/-- An error as a registry error. -/
def asRegistry : Error → Error
  | .registry cause => .registry cause
  | e => .registry (.wrapped e.message)

end Error

/-- A translator and a registry, with the settings of the translation. -/
structure ListBuilder (σ : Type) where
  translator : Translator
  registry : Option (RegistryService σ)
  limit : Nat
  optimize : Bool

namespace ListBuilder

variable {σ : Type}

/-- Translates rule lines. The outcome has to be a JSON array with an element. -/
def translate (c : ListBuilder σ) (lines : List String) : Except Error String :=
  match c.translator lines c.limit c.optimize with
  | .text encoded =>
    if Json.isRuleArray encoded then .ok encoded else .error (.translation .notARuleArray)
  | .failure e => .error e.asTranslation
  | .crash => .error (.translation .crashed)

/-- Puts a request to the registry. -/
def ask {α : Type} (c : ListBuilder σ)
    (request : RegistryService σ → σ → Except Error α × σ) (s : σ) : Except Error α × σ :=
  match c.registry with
  | none => (.error (.registry .unavailable), s)
  | some service =>
    let (answer, s) := request service s
    (answer.mapError Error.asRegistry, s)

/-- Looks up the list with an identifier. -/
def lookup (c : ListBuilder σ) (identifier : String) (s : σ) :
    Except Error (Option RegisteredList) × σ :=
  c.ask (fun service => service.lookup (Key.ofIdentifier identifier)) s

/-- Compiles an encoded list and registers it under an identifier. -/
def compile (c : ListBuilder σ) (identifier encoded : String) (s : σ) :
    Except Error RegisteredList × σ :=
  c.ask (fun service => service.compile (Key.ofIdentifier identifier) encoded) s

/-- Takes the list with an identifier out of the registry. Tells whether there was one. -/
def remove (c : ListBuilder σ) (identifier : String) (s : σ) : Except Error Bool × σ :=
  c.ask (fun service => service.remove (Key.ofIdentifier identifier)) s

end ListBuilder

end ContentBlocker
