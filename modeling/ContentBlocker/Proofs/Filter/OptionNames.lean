import ContentBlocker.Proofs.Filter.Narrowing
import ContentBlocker.Proofs.Text.Trimming

/-!
# The names of options

An option is one of four things, told apart by its text in lower case: a name of a party, a name
that may be repeated, a list of domains, or nothing that is supported (`means_ofLower?`). So the
options of a text are read exactly if each of its items is supported (`parseList?_eq_some_iff`,
`parseList?_eq_none_iff`).
-/

namespace ContentBlocker.Filter.RuleOption

/-! ### Names -/

/-- The names of the options on parties. -/
def partyNames : List String := ["third-party", "3p", "~third-party", "first-party", "1p"]

/-- The names of the options on resource types. -/
def resourceNames : List String :=
  ["document", "subdocument", "image", "stylesheet", "script", "font", "media", "object", "popup",
    "xmlhttprequest", "websocket", "ping", "other"]

/-- The names of the options that say the same when they are repeated. -/
def repeatableNames : List String := "match-case" :: "important" :: resourceNames

/-- What a list of domains starts with. -/
def domainsMark : List Char := "domain=".toList

/-- Whether a text in lower case is the name of a party. -/
def IsParty (name : List Char) : Prop := String.ofList name ∈ partyNames

/-- Whether a text in lower case is a name that may be repeated. -/
def IsRepeatable (name : List Char) : Prop := String.ofList name ∈ repeatableNames

/-- Whether a text in lower case is a list of domains. -/
def HoldsDomains (name : List Char) : Prop := domainsMark <+: name

/-- Whether a text in lower case is an option that is supported. -/
def IsSupported (name : List Char) : Prop := IsParty name ∨ IsRepeatable name ∨ HoldsDomains name

instance : DecidablePred IsParty := fun name =>
  inferInstanceAs (Decidable (String.ofList name ∈ partyNames))

instance : DecidablePred IsRepeatable := fun name =>
  inferInstanceAs (Decidable (String.ofList name ∈ repeatableNames))

instance : DecidablePred HoldsDomains := fun name =>
  inferInstanceAs (Decidable (domainsMark <+: name))

instance : DecidablePred IsSupported := fun name =>
  inferInstanceAs (Decidable (IsParty name ∨ IsRepeatable name ∨ HoldsDomains name))

theorem isPrefixOf?_domainsMark_eq_none_iff {name : List Char} :
    domainsMark.isPrefixOf? name = none ↔ ¬HoldsDomains name := by
  rw [HoldsDomains, ← List.isPrefixOf_iff_prefix, ← List.isSome_isPrefixOf?_eq_isPrefixOf,
    Option.not_isSome_iff_eq_none]

theorem IsParty.not_holdsDomains {name : List Char} (h : IsParty name) : ¬HoldsDomains name := by
  have hall : ∀ n ∈ partyNames, ¬HoldsDomains n.toList := by decide
  simpa using hall _ h

theorem IsRepeatable.not_holdsDomains {name : List Char} (h : IsRepeatable name) :
    ¬HoldsDomains name := by
  have hall : ∀ n ∈ repeatableNames, ¬HoldsDomains n.toList := by decide
  simpa using hall _ h

theorem IsRepeatable.not_isParty {name : List Char} (h : IsRepeatable name) : ¬IsParty name := by
  have hall : ∀ n ∈ repeatableNames, n ∉ partyNames := by decide
  exact hall _ h

theorem ofOption?_isSome_iff {name : String} :
    (ResourceType.ofOption? name).isSome = true ↔ name ∈ resourceNames := by
  constructor
  · intro hsome
    by_contra hnot
    simp only [resourceNames, List.mem_cons, List.not_mem_nil, or_false, not_or] at hnot
    simp [ResourceType.ofOption?, hnot] at hsome
  · have hall : ∀ n ∈ resourceNames, (ResourceType.ofOption? n).isSome = true := by decide
    exact hall name

/-! ### What a name stands for -/

/-- What a text in lower case stands for. -/
inductive Means : List Char → Option RuleOption → Prop
  | party {name : List Char} (h : IsParty name) (type : LoadType) : Means name (some (.party type))
  | repeatable {name : List Char} (h : IsRepeatable name) {option : RuleOption}
    (hparties : parties? option = none) (hdomains : domains? option = none) :
    Means name (some option)
  | domains (list : List Char) :
    Means (domainsMark ++ list) (some (.domains (Domains.parse '|' list)))
  | unsupported {name : List Char} (h : ¬IsSupported name) : Means name none

theorem means_ofLower? (name : List Char) : Means name (ofLower? name) := by
  unfold ofLower?
  dsimp only
  split
  · rename_i hname
    refine .party ?_ _
    rcases hname with h | h <;> simp [IsParty, h, partyNames]
  split
  · rename_i hname
    refine .party ?_ _
    rcases hname with h | h | h <;> simp [IsParty, h, partyNames]
  split
  · rename_i hname
    exact .repeatable (by simp [IsRepeatable, hname, repeatableNames]) rfl rfl
  split
  · rename_i hname
    exact .repeatable (by simp [IsRepeatable, hname, repeatableNames]) rfl rfl
  rename_i hthird hfirst hmatch himportant
  split
  · rename_i list hlist
    rw [Text.eq_append_of_isPrefixOf? hlist]
    exact .domains list
  rename_i hlist
  have hdomains : ¬HoldsDomains name := isPrefixOf?_domainsMark_eq_none_iff.mp hlist
  cases htype : ResourceType.ofOption? (String.ofList name) with
  | some type =>
    have hname := ofOption?_isSome_iff.mp (Option.isSome_of_eq_some htype)
    exact .repeatable (List.mem_cons_of_mem _ (List.mem_cons_of_mem _ hname)) rfl rfl
  | none =>
    have hname : String.ofList name ∉ resourceNames := by
      rw [← ofOption?_isSome_iff, htype]
      simp
    refine .unsupported ?_
    simp only [IsSupported, IsParty, IsRepeatable, partyNames, repeatableNames, List.mem_cons,
      List.not_mem_nil, or_false]
    tauto

/-- A name is read exactly if it is supported. -/
theorem ofLower?_isSome_iff {name : List Char} :
    (ofLower? name).isSome = true ↔ IsSupported name := by
  have hmeans := means_ofLower? name
  cases hread : ofLower? name with
  | none =>
    rw [hread] at hmeans
    cases hmeans with
    | unsupported h => exact iff_of_false (by simp) h
  | some option =>
    rw [hread] at hmeans
    refine iff_of_true rfl ?_
    cases hmeans with
    | party h => exact .inl h
    | repeatable h => exact .inr (.inl h)
    | domains list => exact .inr (.inr (List.prefix_append domainsMark list))

/-- Only the name of a party asks for one. -/
theorem isParty_of_parties? {name : List Char} {types : List LoadType}
    (h : (ofLower? name).bind parties? = some types) : IsParty name := by
  obtain ⟨option, hread, htypes⟩ := Option.bind_eq_some_iff.mp h
  have hmeans := means_ofLower? name
  rw [hread] at hmeans
  cases hmeans with
  | party hname => exact hname
  | repeatable _ hparties => simp [hparties] at htypes
  | domains list => simp [parties?] at htypes

/-- The domains that a name lists stand behind the mark. -/
theorem domains?_ofLower? (name : List Char) :
    (ofLower? name).bind domains? = (domainsMark.isPrefixOf? name).map (Domains.parse '|') := by
  have hmeans := means_ofLower? name
  generalize ofLower? name = read at hmeans
  cases hmeans with
  | party h =>
    rw [isPrefixOf?_domainsMark_eq_none_iff.mpr h.not_holdsDomains]
    rfl
  | repeatable h _ hdomains =>
    rw [isPrefixOf?_domainsMark_eq_none_iff.mpr h.not_holdsDomains, Option.bind_some, hdomains]
    rfl
  | domains list =>
    rw [List.isPrefixOf?_eq_some_iff_append_eq.mpr rfl]
    rfl
  | unsupported h =>
    rw [isPrefixOf?_domainsMark_eq_none_iff.mpr fun hdomains => h (.inr (.inr hdomains))]
    rfl

theorem holdsDomains_of_domains? {name : List Char} {list : Domains}
    (h : (ofLower? name).bind domains? = some list) : HoldsDomains name := by
  rw [domains?_ofLower?] at h
  by_contra hnot
  rw [isPrefixOf?_domainsMark_eq_none_iff.mpr hnot] at h
  cases h

/-! ### Lists of options -/

/-- A reader of single values that succeeds on all of them reads what it gives where it succeeds. -/
theorem mapM_eq_some_iff {α β : Type} {f : α → Option β} {xs : List α} {ys : List β} :
    xs.mapM f = some ys ↔ (∀ x ∈ xs, (f x).isSome = true) ∧ xs.filterMap f = ys := by
  induction xs generalizing ys with
  | nil => simp
  | cons x xs ih =>
    rw [List.mapM_cons, List.forall_mem_cons]
    cases hx : f x with
    | none => simp
    | some y =>
      rw [List.filterMap_cons_some hx]
      simp only [Option.bind_eq_bind, Option.bind_some, Option.bind_eq_some_iff, ih,
        Option.isSome_some, true_and, Option.pure_def, Option.some.injEq]
      constructor
      · rintro ⟨ys, ⟨hall, rfl⟩, rfl⟩
        exact ⟨hall, rfl⟩
      · rintro ⟨hall, rfl⟩
        exact ⟨_, ⟨hall, rfl⟩, rfl⟩

theorem mapM_eq_none_iff {α β : Type} {f : α → Option β} {xs : List α} :
    xs.mapM f = none ↔ ∃ x ∈ xs, f x = none := by
  constructor
  · intro hnone
    by_contra hall
    have hsome : ∀ x ∈ xs, (f x).isSome = true := by
      simpa [Option.isSome_iff_ne_none] using hall
    have heq := mapM_eq_some_iff.mpr ⟨hsome, rfl⟩
    rw [hnone] at heq
    cases heq
  · rintro ⟨x, hx, hnone⟩
    cases hread : xs.mapM f with
    | none => rfl
    | some ys =>
      have hsome := (mapM_eq_some_iff.mp hread).1 x hx
      rw [hnone] at hsome
      cases hsome

/-- The names that pieces of a text spell, in lower case; blank pieces spell none. -/
def namesOf (pieces : List (List Char)) : List (List Char) :=
  (Text.nonblank pieces).map Text.lower

/-- The names in a text of options. -/
def names (s : List Char) : List (List Char) := namesOf (s.splitOn ',')

theorem parseList?_eq (s : List Char) : parseList? s = (names s).mapM ofLower? := by
  rw [names, namesOf, List.mapM_map]
  rfl

theorem parseList?_eq_some_iff {s : List Char} {options : List RuleOption} :
    parseList? s = some options ↔
      (∀ name ∈ names s, IsSupported name) ∧ (names s).filterMap ofLower? = options := by
  rw [parseList?_eq, mapM_eq_some_iff]
  simp only [ofLower?_isSome_iff]

theorem parseList?_eq_none_iff {s : List Char} :
    parseList? s = none ↔ ∃ name ∈ names s, ¬IsSupported name := by
  rw [parseList?_eq, mapM_eq_none_iff]
  simp only [← ofLower?_isSome_iff, Option.not_isSome_iff_eq_none]

end ContentBlocker.Filter.RuleOption
