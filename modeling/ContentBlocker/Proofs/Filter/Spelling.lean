import Mathlib.Logic.Relation
import ContentBlocker.Proofs.Filter.OptionNames

/-!
# Ways to write options

Options may be written in several ways: in another order, with blank pieces between them, with white
space around them, in capitals, and some of them more than once. A change of this kind (`Respells`)
keeps the names that occur, and how often a party or a list of domains is named (`SameNames`). What
the options make of a trigger hangs on no more than that if there is at most one party and at most
one list of domains (`narrowed_of_rewords`).
-/

namespace ContentBlocker.Filter.RuleOption

/-! ### Changes -/

/-- One change in the way that the pieces between the commas are written. -/
inductive Respells : List (List Char) → List (List Char) → Prop
  | reorder {pieces pieces' : List (List Char)} (h : pieces.Perm pieces') : Respells pieces pieces'
  | blank {piece : List Char} (h : ∀ c ∈ piece, Text.isSpace c = true)
    (pieces : List (List Char)) : Respells pieces (piece :: pieces)
  | pad {front behind : List Char} (hfront : ∀ c ∈ front, Text.isSpace c = true)
    (hbehind : ∀ c ∈ behind, Text.isSpace c = true) (piece : List Char)
    (pieces : List (List Char)) : Respells (piece :: pieces) ((front ++ piece ++ behind) :: pieces)
  | recase {piece piece' : List Char} (h : Text.lower piece = Text.lower piece')
    (pieces : List (List Char)) : Respells (piece :: pieces) (piece' :: pieces)
  | again {piece : List Char} (h : IsRepeatable (Text.lower (Text.trim piece)))
    (pieces : List (List Char)) : Respells (piece :: pieces) (piece :: piece :: pieces)

/-- Whether two texts of options differ by such changes only. -/
def Rewords (s t : List Char) : Prop := Relation.EqvGen Respells (s.splitOn ',') (t.splitOn ',')

/-! ### What the changes keep -/

/-- Whether two lists of names hold the same names, and those of parties and lists of domains as
often. -/
structure SameNames (names names' : List (List Char)) : Prop where
  mem_iff : ∀ name, name ∈ names ↔ name ∈ names'
  parties : (names.filter (IsParty ·)).Perm (names'.filter (IsParty ·))
  domains : (names.filter (HoldsDomains ·)).Perm (names'.filter (HoldsDomains ·))

namespace SameNames

theorem refl (names : List (List Char)) : SameNames names names :=
  ⟨fun _ => Iff.rfl, .refl _, .refl _⟩

theorem symm {names names' : List (List Char)} (h : SameNames names names') :
    SameNames names' names :=
  ⟨fun name => (h.mem_iff name).symm, h.parties.symm, h.domains.symm⟩

theorem trans {names names' names'' : List (List Char)} (h : SameNames names names')
    (h' : SameNames names' names'') : SameNames names names'' :=
  ⟨fun name => (h.mem_iff name).trans (h'.mem_iff name), h.parties.trans h'.parties,
    h.domains.trans h'.domains⟩

theorem of_perm {names names' : List (List Char)} (h : names.Perm names') : SameNames names names' :=
  ⟨fun _ => h.mem_iff, h.filter _, h.filter _⟩

/-- A name that may be repeated is neither a party nor a list of domains. -/
theorem repeated {name : List Char} (h : IsRepeatable name) (names : List (List Char)) :
    SameNames (name :: names) (name :: name :: names) := by
  refine ⟨fun other => by simp, ?_, ?_⟩
  · simp only [List.filter_cons, decide_eq_false h.not_isParty, Bool.false_eq_true, if_false,
      List.Perm.refl]
  · simp only [List.filter_cons, decide_eq_false h.not_holdsDomains, Bool.false_eq_true, if_false,
      List.Perm.refl]

end SameNames

theorem namesOf_eq (pieces : List (List Char)) :
    namesOf pieces =
      (pieces.map fun piece => Text.lower (Text.trim piece)).filter (!·.isEmpty) := by
  have hblank : ((!·.isEmpty) ∘ fun piece => Text.lower (Text.trim piece)) =
      (!·.isEmpty) ∘ Text.trim := by
    funext piece
    simp [Text.lower]
  rw [namesOf, Text.nonblank, List.filter_map, List.filter_map, hblank, List.map_map]
  rfl

/-- One change keeps the names. -/
theorem sameNames_of_respells {pieces pieces' : List (List Char)} (h : Respells pieces pieces') :
    SameNames (namesOf pieces) (namesOf pieces') := by
  rw [namesOf_eq, namesOf_eq]
  cases h with
  | reorder h => exact .of_perm ((h.map _).filter _)
  | blank h =>
    rw [List.map_cons, Text.trim_eq_nil h]
    exact .refl _
  | pad hfront hbehind piece pieces =>
    rw [List.map_cons, List.map_cons, Text.trim_append hfront hbehind]
    exact .refl _
  | recase h pieces =>
    rw [List.map_cons, List.map_cons, ← Text.trim_lower, h, Text.trim_lower]
    exact .refl _
  | @again piece h pieces =>
    have hne : Text.lower (Text.trim piece) ≠ [] := by
      intro hnil
      rw [hnil] at h
      exact absurd h (by decide)
    have hkeep : (!(Text.lower (Text.trim piece)).isEmpty) = true := by simpa using hne
    simp only [List.map_cons, List.filter_cons, hkeep, if_true]
    exact .repeated h _

/-- So does any number of changes. -/
theorem sameNames_of_eqvGen {pieces pieces' : List (List Char)}
    (h : Relation.EqvGen Respells pieces pieces') :
    SameNames (namesOf pieces) (namesOf pieces') := by
  induction h with
  | rel _ _ h => exact sameNames_of_respells h
  | refl _ => exact .refl _
  | symm _ _ _ ih => exact ih.symm
  | trans _ _ _ _ _ ih ih' => exact ih.trans ih'

/-! ### What names make of a trigger -/

theorem resourceTypes_congr {options options' : List RuleOption}
    (h : ∀ option, option ∈ options ↔ option ∈ options') :
    resourceTypes options = resourceTypes options' := by
  unfold resourceTypes
  dsimp only
  congr 1
  funext type
  rw [Bool.eq_iff_iff]
  simp only [List.contains_iff_mem, List.mem_filterMap, h]

section

variable {names names' : List (List Char)} (h : SameNames names names')

include h

theorem SameNames.mem_options_iff (option : RuleOption) :
    option ∈ names'.filterMap ofLower? ↔ option ∈ names.filterMap ofLower? := by
  simp only [List.mem_filterMap, h.mem_iff]

theorem SameNames.last?_parties? (hone : names.countP (IsParty ·) ≤ 1) :
    last? parties? (names'.filterMap ofLower?) = last? parties? (names.filterMap ofLower?) := by
  rw [last?_filterMap, last?_filterMap]
  exact (last?_eq_of_perm (fun name types htypes =>
    decide_eq_true (isParty_of_parties? htypes)) hone h.parties).symm

theorem SameNames.last?_domains? (hone : names.countP (HoldsDomains ·) ≤ 1)
    (f : Domains → Option (List String)) :
    last? (domains? · >>= f) (names'.filterMap ofLower?) =
      last? (domains? · >>= f) (names.filterMap ofLower?) := by
  rw [last?_filterMap, last?_filterMap]
  refine (last?_eq_of_perm (fun name sites hsites => ?_) hone h.domains).symm
  obtain ⟨option, hread, hlist⟩ := Option.bind_eq_some_iff.mp hsites
  obtain ⟨list, hlist, _⟩ := Option.bind_eq_some_iff.mp hlist
  exact decide_eq_true (holdsDomains_of_domains? (by rw [hread]; exact hlist))

end

/-- Names make the same of a trigger where there is at most one party and one list of domains. -/
theorem narrowed_of_sameNames {s t : List Char} (h : SameNames (names s) (names t))
    (hparty : (names s).countP (IsParty ·) ≤ 1) (hdomains : (names s).countP (HoldsDomains ·) ≤ 1)
    (urlFilter : String) :
    (parseList? t).map (narrowAll · { urlFilter }) =
      (parseList? s).map (narrowAll · { urlFilter }) := by
  have hunsupported : parseList? t = none ↔ parseList? s = none := by
    simp only [parseList?_eq_none_iff, h.mem_iff]
  cases hs : parseList? s with
  | none => rw [hunsupported.mpr hs]
  | some options =>
    cases ht : parseList? t with
    | none =>
      rw [hunsupported.mp ht] at hs
      cases hs
    | some options' =>
      obtain ⟨_, rfl⟩ := parseList?_eq_some_iff.mp hs
      obtain ⟨_, rfl⟩ := parseList?_eq_some_iff.mp ht
      have hcase : ((names t).filterMap ofLower?).contains .matchCase =
          ((names s).filterMap ofLower?).contains .matchCase := by
        rw [Bool.eq_iff_iff]
        simp only [List.contains_iff_mem, h.mem_options_iff]
      rw [Option.map_some, Option.map_some, narrowAll_eq, narrowAll_eq,
        resourceTypes_congr h.mem_options_iff, hcase, h.last?_parties? hparty,
        h.last?_domains? hdomains, h.last?_domains? hdomains]

/-- The resource types of options stand in the order of their declaration, each at most once. -/
theorem pairwise_resourceTypes (options : List RuleOption) :
    (resourceTypes options).Pairwise (·.ctorIdx < ·.ctorIdx) := by
  have hall : ResourceType.all.Pairwise (·.ctorIdx < ·.ctorIdx) := by decide
  exact hall.sublist List.filter_sublist

/-- What options make of a trigger with a filter and nothing else. Rewording them changes nothing if
there is at most one party and at most one list of domains. They make nothing exactly if one of
them, wherever it stands, is not supported. The resource types are not an empty list, and stand in
the order of their declaration. -/
theorem narrowed_of_rewords (s : List Char) (urlFilter : String) :
    ((names s).countP (IsParty ·) ≤ 1 → (names s).countP (HoldsDomains ·) ≤ 1 →
        ∀ t, Rewords s t → (parseList? t).map (narrowAll · { urlFilter }) =
          (parseList? s).map (narrowAll · { urlFilter })) ∧
      ((parseList? s).map (narrowAll · { urlFilter }) = none ↔
        ∃ piece ∈ s.splitOn ',', Text.trim piece ≠ [] ∧
          ¬IsSupported (Text.lower (Text.trim piece))) ∧
      ∀ trigger types, (parseList? s).map (narrowAll · { urlFilter }) = some trigger →
        trigger.resourceTypes = some types →
          types ≠ [] ∧ types.Pairwise (·.ctorIdx < ·.ctorIdx) := by
  refine ⟨?_, ?_, ?_⟩
  · intro hparty hdomains t hrewords
    exact narrowed_of_sameNames (sameNames_of_eqvGen hrewords) hparty hdomains urlFilter
  · rw [Option.map_eq_none_iff, parseList?_eq_none_iff, names, namesOf_eq]
    simp [Text.lower, and_assoc]
  · intro trigger types htrigger htypes
    obtain ⟨options, _, rfl⟩ := Option.map_eq_some_iff.mp htrigger
    rw [narrowAll_eq] at htypes
    dsimp only at htypes
    split at htypes
    · cases htypes
    · rename_i hne
      obtain rfl := Option.some.inj htypes
      exact ⟨hne, pairwise_resourceTypes options⟩

/-- Two ways to write the same two options, by one change of each kind. -/
theorem narrowed_of_rewords_two_options :
    Rewords "script,third-party".toList " Third-Party ,,SCRIPT,script".toList ∧
      (parseList? " Third-Party ,,SCRIPT,script".toList).map (narrowAll · { urlFilter := "x" }) =
        some { urlFilter := "x", resourceTypes := some [.script],
               loadTypes := some [.thirdParty] } := by
  have hagain : Respells ["script".toList, "third-party".toList]
      ["script".toList, "script".toList, "third-party".toList] :=
    .again (by decide) _
  have hrecase : Respells ["script".toList, "script".toList, "third-party".toList]
      ["SCRIPT".toList, "script".toList, "third-party".toList] :=
    .recase (by decide) _
  have hblank : Respells ["SCRIPT".toList, "script".toList, "third-party".toList]
      [[], "SCRIPT".toList, "script".toList, "third-party".toList] :=
    .blank (by simp) _
  have hreorder : Respells [[], "SCRIPT".toList, "script".toList, "third-party".toList]
      ["third-party".toList, [], "SCRIPT".toList, "script".toList] :=
    .reorder (by decide)
  have hrecase' : Respells ["third-party".toList, [], "SCRIPT".toList, "script".toList]
      ["Third-Party".toList, [], "SCRIPT".toList, "script".toList] :=
    .recase (by decide) _
  have hspace : ∀ c ∈ [' '], Text.isSpace c = true := List.forall_mem_singleton.mpr rfl
  have hpad : Respells ["Third-Party".toList, [], "SCRIPT".toList, "script".toList]
      [[' '] ++ "Third-Party".toList ++ [' '], [], "SCRIPT".toList, "script".toList] :=
    .pad hspace hspace _ _
  have hrewords : Rewords "script,third-party".toList " Third-Party ,,SCRIPT,script".toList := by
    show Relation.EqvGen Respells ["script".toList, "third-party".toList]
      [[' '] ++ "Third-Party".toList ++ [' '], [], "SCRIPT".toList, "script".toList]
    exact .trans _ _ _ (.rel _ _ hagain) <| .trans _ _ _ (.rel _ _ hrecase) <|
      .trans _ _ _ (.rel _ _ hblank) <| .trans _ _ _ (.rel _ _ hreorder) <|
      .trans _ _ _ (.rel _ _ hrecase') (.rel _ _ hpad)
  refine ⟨hrewords, ?_⟩
  rw [(narrowed_of_rewords "script,third-party".toList "x").1 (by decide) (by decide) _ hrewords]
  decide

end ContentBlocker.Filter.RuleOption
