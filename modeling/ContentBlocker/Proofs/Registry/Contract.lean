import ContentBlocker.Proofs.Registry.Keys
import ContentBlocker.Proofs.Registry.Memory
import ContentBlocker.Proofs.Rule.Compiling

/-!
# What a list builder promises

Whatever its translator and its registry do, a list builder fails with translation errors where it
translates (`ListBuilder.Translates`) and with registry errors where it asks the registry
(`ListBuilder.HandsOn`). An error of the right kind comes out as it went in, any other is wrapped
once.

With the registry in memory it keeps lists by the keys of their identifiers
(`ListBuilder.KeepsByKey`): two identifiers that are not refused stand for the same list exactly if
they have the same key, and what is done under one key is not seen under another. One call is
followed through the registry in `get?_perform_of_ne`, any number of calls by induction in
`get?_after_of_ne`.
-/

namespace ContentBlocker

/-! ### Errors -/

namespace Error

/-- Whether an error is about a translation. -/
def IsTranslation (e : Error) : Prop :=
  ∃ cause, e = .translation cause

/-- Whether an error is about the registry. -/
def IsRegistry (e : Error) : Prop :=
  ∃ cause, e = .registry cause

/-- Whether an error comes out as another one of a kind: as itself if it is of that kind, and
otherwise as its wording, wrapped once. -/
structure ComesOut (IsKind : Error → Prop) (wrap : String → Error) (e out : Error) : Prop where
  kind : IsKind out
  same : IsKind e → out = e
  wrapped : ¬IsKind e → out = wrap e.message

theorem comesOut_asTranslation (e : Error) :
    ComesOut IsTranslation (fun text => .translation (.wrapped text)) e e.asTranslation := by
  cases e with
  | translation cause => exact ⟨⟨cause, rfl⟩, fun _ => rfl, fun h => absurd ⟨cause, rfl⟩ h⟩
  | _ => exact ⟨⟨_, rfl⟩, fun ⟨_, h⟩ => (nomatch h), fun _ => rfl⟩

theorem comesOut_asRegistry (e : Error) :
    ComesOut IsRegistry (fun text => .registry (.wrapped text)) e e.asRegistry := by
  cases e with
  | registry cause => exact ⟨⟨cause, rfl⟩, fun _ => rfl, fun h => absurd ⟨cause, rfl⟩ h⟩
  | _ => exact ⟨⟨_, rfl⟩, fun ⟨_, h⟩ => (nomatch h), fun _ => rfl⟩

end Error

/-- Whether a text is read as a JSON array with an element, and can be taken up as data. -/
def Json.IsArrayWithElement (encoded : String) : Prop :=
  ∃ item items, Json.read? encoded = some (.array (item :: items)) ∧
    (Json.array (item :: items)).isData = true

theorem Json.isRuleArray_iff {encoded : String} :
    isRuleArray encoded = true ↔ IsArrayWithElement encoded := by
  unfold isRuleArray IsArrayWithElement
  constructor
  · intro h
    split at h
    · rename_i item items hread
      exact ⟨item, items, hread, h⟩
    · cases h
  · rintro ⟨item, items, hread, hdata⟩
    rw [hread]
    exact hdata

namespace ListBuilder

/-! ### Translating -/

section Translating

variable {σ : Type}

/-- What a list builder answers when it translates, by what its translator answers. -/
structure Translates (b : ListBuilder σ) (lines : List String) : Prop where
  /-- The translator's text is given as it is, exactly if it is an array with an element. -/
  text : ∀ encoded, b.translate lines = .ok encoded ↔
    b.translator lines b.limit b.optimize = .text encoded ∧ Json.IsArrayWithElement encoded
  /-- Every failure is about the translation. -/
  kind : ∀ e, b.translate lines = .error e → e.IsTranslation
  /-- An error of the translator comes out as one about the translation. -/
  failure : ∀ e, b.translator lines b.limit b.optimize = .failure e →
    ∃ out, b.translate lines = .error out ∧
      Error.ComesOut Error.IsTranslation (fun text => .translation (.wrapped text)) e out
  crash : b.translator lines b.limit b.optimize = .crash →
    b.translate lines = .error (.translation .crashed)
  other : ∀ encoded, b.translator lines b.limit b.optimize = .text encoded →
    ¬Json.IsArrayWithElement encoded → b.translate lines = .error (.translation .notARuleArray)

section

variable {b : ListBuilder σ} {lines : List String}

theorem translate_of_text {encoded : String}
    (h : b.translator lines b.limit b.optimize = .text encoded) :
    b.translate lines =
      if Json.isRuleArray encoded then .ok encoded else .error (.translation .notARuleArray) := by
  rw [translate, h]

theorem translate_of_failure {e : Error}
    (h : b.translator lines b.limit b.optimize = .failure e) :
    b.translate lines = .error e.asTranslation := by
  rw [translate, h]

theorem translate_of_crash (h : b.translator lines b.limit b.optimize = .crash) :
    b.translate lines = .error (.translation .crashed) := by
  rw [translate, h]

/-- A list builder gives its translator's text, or fails with an error about the translation. -/
theorem translate_cases (b : ListBuilder σ) (lines : List String) :
    (∃ encoded, b.translator lines b.limit b.optimize = .text encoded ∧
      Json.IsArrayWithElement encoded ∧ b.translate lines = .ok encoded) ∨
    ((∀ encoded, b.translator lines b.limit b.optimize = .text encoded →
      ¬Json.IsArrayWithElement encoded) ∧
      ∃ e, e.IsTranslation ∧ b.translate lines = .error e) := by
  cases hanswer : b.translator lines b.limit b.optimize with
  | text encoded =>
    by_cases harray : Json.IsArrayWithElement encoded
    · refine .inl ⟨encoded, rfl, harray, ?_⟩
      rw [translate_of_text hanswer, if_pos (Json.isRuleArray_iff.mpr harray)]
    · refine .inr ⟨fun other hother => ?_, .translation .notARuleArray, ⟨_, rfl⟩, ?_⟩
      · obtain rfl := TranslatorAnswer.text.inj hother
        exact harray
      · rw [translate_of_text hanswer, if_neg (harray ∘ Json.isRuleArray_iff.mp)]
  | failure e =>
    have hkind := (Error.comesOut_asTranslation e).kind
    exact .inr ⟨fun _ hother => (nomatch hother), _, hkind, translate_of_failure hanswer⟩
  | crash =>
    exact .inr ⟨fun _ hother => (nomatch hother), _, ⟨_, rfl⟩, translate_of_crash hanswer⟩

end

/-- Every list builder translates so. -/
theorem translates (b : ListBuilder σ) (lines : List String) : b.Translates lines where
  text encoded := by
    rcases translate_cases b lines with ⟨given, hanswer, harray, htranslate⟩ |
      ⟨hnone, e, _, htranslate⟩
    · rw [htranslate, hanswer]
      constructor
      · intro h
        obtain rfl := Except.ok.inj h
        exact ⟨rfl, harray⟩
      · rintro ⟨h, _⟩
        rw [TranslatorAnswer.text.inj h]
    · rw [htranslate]
      exact iff_of_false (by simp) fun ⟨hanswer, harray⟩ => hnone encoded hanswer harray
  kind e herror := by
    rcases translate_cases b lines with ⟨_, _, _, htranslate⟩ | ⟨_, e', hkind, htranslate⟩
    · rw [htranslate] at herror
      cases herror
    · rw [htranslate] at herror
      obtain rfl := Except.error.inj herror
      exact hkind
  failure e hanswer :=
    ⟨e.asTranslation, translate_of_failure hanswer, Error.comesOut_asTranslation e⟩
  crash := translate_of_crash
  other encoded hanswer harray := by
    rw [translate_of_text hanswer, if_neg (harray ∘ Json.isRuleArray_iff.mp)]

end Translating

/-! ### Asking the registry -/

section Asking

variable {σ α : Type}

/-- How a list builder hands a request on to its registry. -/
structure HandsOn (b : ListBuilder σ) (request : RegistryService σ → σ → Except Error α × σ)
    (call : σ → Except Error α × σ) : Prop where
  /-- Every failure is about the registry. -/
  kind : ∀ s e, (call s).1 = .error e → e.IsRegistry
  unavailable : b.registry = none → ∀ s, call s = (.error (.registry .unavailable), s)
  /-- The registry changes as it does on the request. -/
  state : ∀ service, b.registry = some service → ∀ s, (call s).2 = (request service s).2
  /-- An answer of the registry is given as it is. -/
  answer : ∀ service, b.registry = some service → ∀ s a,
    (call s).1 = .ok a ↔ (request service s).1 = .ok a
  /-- An error of the registry comes out as one about the registry. -/
  failure : ∀ service, b.registry = some service → ∀ s e, (request service s).1 = .error e →
    ∃ out, (call s).1 = .error out ∧
      Error.ComesOut Error.IsRegistry (fun text => .registry (.wrapped text)) e out

theorem ask_of_none {b : ListBuilder σ} (hb : b.registry = none)
    (request : RegistryService σ → σ → Except Error α × σ) (s : σ) :
    b.ask request s = (.error (.registry .unavailable), s) := by
  rw [ask, hb]

theorem ask_of_some {b : ListBuilder σ} {service : RegistryService σ}
    (hb : b.registry = some service) (request : RegistryService σ → σ → Except Error α × σ)
    (s : σ) :
    b.ask request s =
      ((request service s).1.mapError Error.asRegistry, (request service s).2) := by
  rw [ask, hb]

/-- Whatever is asked of the registry is handed on. -/
theorem handsOn_ask (b : ListBuilder σ) (request : RegistryService σ → σ → Except Error α × σ) :
    b.HandsOn request (b.ask request) where
  kind s e herror := by
    cases hb : b.registry with
    | none =>
      rw [ask_of_none hb] at herror
      exact ⟨_, (Except.error.inj herror).symm⟩
    | some service =>
      rw [ask_of_some hb] at herror
      cases hanswer : (request service s).1 with
      | ok a =>
        rw [hanswer] at herror
        cases herror
      | error cause =>
        rw [hanswer] at herror
        obtain rfl := Except.error.inj herror
        exact (Error.comesOut_asRegistry cause).kind
  unavailable hb s := ask_of_none hb request s
  state service hb s := by rw [ask_of_some hb]
  answer service hb s a := by
    rw [ask_of_some hb]
    cases (request service s).1 with
    | ok answer => exact Iff.rfl
    | error e => exact iff_of_false (fun h => (nomatch h)) fun h => (nomatch h)
  failure service hb s e herror := by
    rw [ask_of_some hb, herror]
    exact ⟨e.asRegistry, rfl, Error.comesOut_asRegistry e⟩

end Asking

/-! ### Lists by key -/

section Keys

/-- A call of a list builder that is about its registry. -/
inductive Call where
  | compile (identifier encoded : String)
  | lookup (identifier : String)
  | remove (identifier : String)
  deriving DecidableEq, Repr

/-- The identifier that a call is about. -/
def Call.identifier : Call → String
  | .compile identifier _ => identifier
  | .lookup identifier => identifier
  | .remove identifier => identifier

/-- What the registry remembers after a call. -/
def perform {σ : Type} (b : ListBuilder σ) (s : σ) : Call → σ
  | .compile identifier encoded => (b.compile identifier encoded s).2
  | .lookup identifier => (b.lookup identifier s).2
  | .remove identifier => (b.remove identifier s).2

/-- What the registry remembers after several calls. -/
def after {σ : Type} (b : ListBuilder σ) (s : σ) (calls : List Call) : σ :=
  calls.foldl b.perform s

/-- That the key of an identifier is no key. -/
def invalid (identifier : String) : Error :=
  .registry (.invalidIdentifier (Key.ofIdentifier identifier))

/-- Whether two identifiers stand for the same list: whatever calls have been made, the same one is
found under both. -/
def FindsSame (b : ListBuilder Registry) (identifier other : String) : Prop :=
  ∀ calls, (b.lookup identifier (b.after {} calls)).1 = (b.lookup other (b.after {} calls)).1

/-- What a list builder does that keeps lists by the keys of their identifiers. -/
structure KeepsByKey (b : ListBuilder Registry) : Prop where
  /-- Calls with an unusable identifier are refused and change nothing. -/
  refuses : ∀ identifier, Key.IsUnusable identifier → ∀ r,
    (∀ encoded, b.compile identifier encoded r = (.error (invalid identifier), r)) ∧
    b.lookup identifier r = (.error (invalid identifier), r) ∧
    b.remove identifier r = (.error (invalid identifier), r)
  /-- A list that has been compiled is found. -/
  compiles : ∀ identifier encoded r entry, (b.compile identifier encoded r).1 = .ok entry →
    (b.lookup identifier (b.compile identifier encoded r).2).1 = .ok (some entry)
  /-- Where nothing is compiled, nothing changes. -/
  keeps : ∀ identifier encoded r e, (b.compile identifier encoded r).1 = .error e →
    (b.compile identifier encoded r).2 = r
  /-- Looking up changes nothing. -/
  looksUp : ∀ identifier r, (b.lookup identifier r).2 = r
  /-- What has been removed is no longer found. -/
  removes : ∀ identifier, ¬Key.IsUnusable identifier → ∀ r, ∃ found,
    (b.remove identifier r).1 = .ok found ∧
    (found = true ↔ ∃ entry, (b.lookup identifier r).1 = .ok (some entry)) ∧
    (b.lookup identifier (b.remove identifier r).2).1 = .ok none
  /-- Identifiers stand for the same list exactly if they have the same key. -/
  same : ∀ identifier other, ¬Key.IsUnusable identifier → ¬Key.IsUnusable other →
    (b.FindsSame identifier other ↔
      Text.dropSpaces identifier.toList = Text.dropSpaces other.toList)
  /-- A call does the same for all identifiers with one key. -/
  exchanges : ∀ identifier other,
    Text.dropSpaces identifier.toList = Text.dropSpaces other.toList → ∀ r,
    (∀ encoded, b.compile identifier encoded r = b.compile other encoded r) ∧
    b.lookup identifier r = b.lookup other r ∧ b.remove identifier r = b.remove other r
  /-- Calls under other keys do not change what is found. -/
  apart : ∀ identifier calls r,
    (∀ call ∈ calls,
      Text.dropSpaces call.identifier.toList ≠ Text.dropSpaces identifier.toList) →
    (b.lookup identifier (b.after r calls)).1 = (b.lookup identifier r).1

section Memory

variable {b : ListBuilder Registry} (hb : b.registry = some .memory)

include hb

/-- With an unusable identifier nothing can be done. -/
theorem refused_memory {identifier : String} (h : Key.IsUnusable identifier) (r : Registry) :
    (∀ encoded, b.compile identifier encoded r = (.error (invalid identifier), r)) ∧
    b.lookup identifier r = (.error (invalid identifier), r) ∧
    b.remove identifier r = (.error (invalid identifier), r) := by
  have hkey : Key.isValid (Key.ofIdentifier identifier) = false := by
    rw [← Bool.not_eq_true, Key.isValid_ofIdentifier_iff]
    exact not_not_intro h
  unfold compile lookup remove
  simp only [ask_of_some hb, RegistryService.memory, Registry.compile, Registry.lookup,
    Registry.remove, Registry.withKey, hkey]
  exact ⟨fun _ => rfl, rfl, rfl⟩

theorem lookup_leaves (identifier : String) (r : Registry) : (b.lookup identifier r).2 = r := by
  unfold lookup
  rw [ask_of_some hb]
  rfl

theorem perform_of_unusable {call : Call} (h : Key.IsUnusable call.identifier) (r : Registry) :
    b.perform r call = r := by
  cases call with
  | compile identifier encoded =>
    have hcompile := (refused_memory hb h r).1 encoded
    exact congrArg Prod.snd hcompile
  | lookup identifier => exact lookup_leaves hb identifier r
  | remove identifier =>
    have hremove := (refused_memory hb h r).2.2
    exact congrArg Prod.snd hremove

/-- A call under another key leaves what stands under a key. -/
theorem get?_perform_of_ne {key : String} {call : Call}
    (hne : key ≠ Key.ofIdentifier call.identifier) (r : Registry) :
    (b.perform r call).get? key = r.get? key := by
  by_cases h : Key.IsUnusable call.identifier
  · rw [perform_of_unusable hb h]
  · have hkey := Key.isValid_ofIdentifier_iff.mpr h
    cases call with
    | compile identifier encoded => exact get?_compile_of_ne hb hkey hne encoded r
    | lookup identifier => rw [perform, lookup_leaves hb]
    | remove identifier =>
      have hremove := remove_memory hb hkey r
      rw [perform, show b.remove identifier r = _ from hremove, Registry.get?_erase]
      exact if_neg hne

/-- Calls under other keys leave what stands under a key. -/
theorem get?_after_of_ne {key : String} {calls : List Call}
    (hne : ∀ call ∈ calls, key ≠ Key.ofIdentifier call.identifier) (r : Registry) :
    (b.after r calls).get? key = r.get? key := by
  induction calls generalizing r with
  | nil => rfl
  | cons call calls ih =>
    have hfirst := get?_perform_of_ne hb (hne call (List.mem_cons_self ..)) r
    have hothers := ih (fun other hother => hne other (List.mem_cons_of_mem _ hother))
      (b.perform r call)
    exact hothers.trans hfirst

/-- Some list can be compiled under every key. -/
theorem exists_compile {identifier : String}
    (hkey : Key.isValid (Key.ofIdentifier identifier) = true) (r : Registry) :
    ∃ encoded entry, (b.compile identifier encoded r).1 = .ok entry := by
  have hcomplete : ∀ rule ∈ [Rule.mk { urlFilter := "" } Action.block], rule.IsComplete := by
    intro rule hrule
    obtain rfl := List.mem_singleton.mp hrule
    exact ⟨fun htype => (nomatch htype), _, rfl⟩
  obtain ⟨list, hlist, _⟩ := CompiledList.compile_encodeList_of_complete
    (List.cons_ne_nil _ _) hcomplete (by decide) (Key.ofIdentifier identifier)
  refine ⟨Rule.encodeList [Rule.mk { urlFilter := "" } Action.block], ⟨r.next, list⟩, ?_⟩
  rcases compile_memory hb hkey _ r with ⟨other, hother, hcompile⟩ | ⟨e, herror, _⟩
  · obtain rfl := Except.ok.inj (hlist.symm.trans hother)
    rw [hcompile]
  · rw [hlist] at herror
    cases herror

/-- A list builder with the registry in memory keeps lists by the keys of their identifiers. -/
theorem keepsByKey : b.KeepsByKey where
  refuses identifier h r := refused_memory hb h r
  compiles identifier encoded r entry hentry := by
    by_cases h : Key.IsUnusable identifier
    · rw [(refused_memory hb h r).1] at hentry
      cases hentry
    · have hkey := Key.isValid_ofIdentifier_iff.mpr h
      rw [lookup_memory hb hkey, get?_compile_self hb hkey hentry]
  keeps identifier encoded r e herror := by
    by_cases h : Key.IsUnusable identifier
    · rw [(refused_memory hb h r).1]
    · rcases compile_memory hb (Key.isValid_ofIdentifier_iff.mpr h) encoded r with
        ⟨list, _, hcompile⟩ | ⟨_, _, hcompile⟩
      · rw [hcompile] at herror
        cases herror
      · rw [hcompile]
  looksUp := lookup_leaves hb
  removes identifier h r := by
    have hkey := Key.isValid_ofIdentifier_iff.mpr h
    rw [remove_memory hb hkey, lookup_memory hb hkey, lookup_memory hb hkey, Registry.get?_erase,
      if_pos rfl]
    refine ⟨_, rfl, ?_, rfl⟩
    rw [Option.isSome_iff_exists]
    simp
  same identifier other h hother := by
    have hkey := Key.isValid_ofIdentifier_iff.mpr h
    have hkey' := Key.isValid_ofIdentifier_iff.mpr hother
    constructor
    · intro hfinds
      refine Decidable.byContradiction fun hdistinct => ?_
      have hne : Key.ofIdentifier other ≠ Key.ofIdentifier identifier :=
        fun hsame => hdistinct (Key.ofIdentifier_eq_iff.mp hsame.symm)
      obtain ⟨encoded, entry, hentry⟩ := exists_compile hb hkey {}
      -- the list compiled under one key is found there and not under the other one
      have hfound := hfinds [.compile identifier encoded]
      have hself : (b.after {} [.compile identifier encoded]).get? (Key.ofIdentifier identifier) =
          some entry := get?_compile_self hb hkey hentry
      have hnone : (b.after {} [.compile identifier encoded]).get? (Key.ofIdentifier other) =
          none := get?_compile_of_ne hb hkey hne encoded {}
      rw [lookup_memory hb hkey, lookup_memory hb hkey', hself, hnone] at hfound
      cases hfound
    · intro hsame calls
      rw [lookup_memory hb hkey, lookup_memory hb hkey', Key.ofIdentifier_eq_iff.mpr hsame]
  exchanges identifier other hsame r := by
    have hkey := Key.ofIdentifier_eq_iff.mpr hsame
    unfold compile lookup remove
    rw [hkey]
    exact ⟨fun _ => rfl, rfl, rfl⟩
  apart identifier calls r hapart := by
    by_cases h : Key.IsUnusable identifier
    · rw [(refused_memory hb h _).2.1, (refused_memory hb h _).2.1]
    · have hkey := Key.isValid_ofIdentifier_iff.mpr h
      rw [lookup_memory hb hkey, lookup_memory hb hkey, get?_after_of_ne hb]
      intro call hcall hkey
      exact hapart call hcall (Key.ofIdentifier_eq_iff.mp hkey.symm)

end Memory

end Keys

/-! ### The contract -/

/-- Whatever its translator and its registry do, a list builder keeps to its contract, and with the
registry in memory it keeps lists by the keys of their identifiers. -/
theorem keeps_contract {σ : Type} (b : ListBuilder σ) :
    (∀ lines, b.Translates lines) ∧
    (∀ identifier encoded, b.HandsOn (·.compile (Key.ofIdentifier identifier) encoded)
      (b.compile identifier encoded)) ∧
    (∀ identifier, b.HandsOn (·.lookup (Key.ofIdentifier identifier)) (b.lookup identifier)) ∧
    (∀ identifier, b.HandsOn (·.remove (Key.ofIdentifier identifier)) (b.remove identifier)) ∧
    ∀ c : ListBuilder Registry, c.registry = some .memory → c.KeepsByKey :=
  ⟨b.translates, fun _ _ => b.handsOn_ask _, fun _ => b.handsOn_ask _, fun _ => b.handsOn_ask _,
    fun _ hc => keepsByKey hc⟩

end ListBuilder

end ContentBlocker
