import ContentBlocker.Proofs.Filter.Lines
import ContentBlocker.Registry.ListBuilder

/-!
# Translated lists compile

What the translator writes is read back and compiled rule by rule, whatever the lines are
(`compile_translate_iff`). One kind of line spoils a list: one that names sites to act on in one
list of domains and only sites to leave alone in another. Its rule names both, and compiling refuses
it and every other rule with it.
-/

namespace ContentBlocker.Filter

/-! ### The rules of a list -/

theorem mem_of_mem_firstsFrom {α : Type} [BEq α] [Hashable α] {seen : Std.HashSet α} {x : α}
    {xs : List α} (h : x ∈ firstsFrom seen xs) : x ∈ xs := by
  fun_induction firstsFrom seen xs with
  | case1 => exact h
  | case2 seen y xs _ ih => exact List.mem_cons_of_mem y (ih h)
  | case3 seen y xs _ ih =>
    rcases List.mem_cons.mp h with rfl | h
    · exact List.mem_cons_self ..
    · exact List.mem_cons_of_mem y (ih h)

/-- A gathered rule hides elements on every site. -/
theorem mem_gatherGeneric {rules : List Rule} {r : Rule} (h : r ∈ gatherGeneric rules) :
    r ∈ rules ∨ ∃ selector, r = { trigger := genericTrigger, action := Action.hide selector } := by
  rcases List.mem_append.mp h with h | h
  · obtain ⟨group, _, rfl⟩ := List.mem_map.mp h
    exact .inr ⟨_, rfl⟩
  · exact .inl (List.mem_filter.mp h).1

theorem mem_ofKind {kind : Kind} {converted : List (Kind × Rule)} {r : Rule}
    (h : r ∈ ofKind kind converted) : (kind, r) ∈ converted := by
  obtain ⟨⟨kind', r'⟩, hmem, rfl⟩ := List.mem_map.mp h
  obtain ⟨hconverted, hkind⟩ := List.mem_filter.mp hmem
  obtain rfl : kind' = kind := by simpa using hkind
  exact hconverted

/-- A rule of a translated list comes from a line, or gathers the selectors of such rules. -/
theorem mem_rulesOf {lines : List String} {limit : Nat} {optimize : Bool} {r : Rule}
    (h : r ∈ rulesOf lines limit optimize) :
    (∃ line ∈ lines, ∃ kind, convert? line.toList = some (kind, r)) ∨
      ∃ selector, r = { trigger := genericTrigger, action := Action.hide selector } := by
  have hline : ∀ {kind : Kind} {r : Rule},
      r ∈ ofKind kind (lines.filterMap (convert? ·.toList)) →
      ∃ line ∈ lines, ∃ kind, convert? line.toList = some (kind, r) := by
    intro kind r hr
    obtain ⟨line, hmem, hconvert⟩ := List.mem_filterMap.mp (mem_ofKind hr)
    exact ⟨line, hmem, kind, hconvert⟩
  have hmem := List.mem_of_mem_take h
  unfold arrange at hmem
  dsimp only at hmem
  split at hmem
  · rcases List.mem_append.mp hmem with hmem | hmem
    · rcases List.mem_append.mp hmem with hmem | hmem
      · exact .inl (hline (mem_of_mem_firstsFrom hmem))
      · rcases mem_gatherGeneric hmem with hmem | hgathered
        · exact .inl (hline (mem_of_mem_firstsFrom hmem))
        · exact .inr hgathered
    · exact .inl (hline (mem_of_mem_firstsFrom hmem))
  · rcases List.mem_append.mp hmem with hmem | hmem
    · rcases List.mem_append.mp hmem with hmem | hmem <;> exact .inl (hline hmem)
    · exact .inl (hline hmem)

variable {lines : List String} {limit : Nat} {optimize : Bool}

theorem isLineRule_of_mem_rulesOf {r : Rule} (h : r ∈ rulesOf lines limit optimize) :
    IsLineRule r := by
  rcases mem_rulesOf h with ⟨line, _, kind, hconvert⟩ | ⟨selector, rfl⟩
  · exact isLineRule_of_convert? hconvert
  · exact ⟨⟨[], rfl⟩, fun _ => rfl⟩

/-- The contradictory rules of a list are those of the lines that restrict both ways. -/
theorem exists_contradictory_iff :
    (∃ r ∈ rulesOf lines limit optimize, r.isContradictory = true) ↔
      ∃ line ∈ lines, RestrictsBothWays line.toList ∧ ∃ kind r,
        convert? line.toList = some (kind, r) ∧ r ∈ rulesOf lines limit optimize := by
  constructor
  · rintro ⟨r, hr, hboth⟩
    rcases mem_rulesOf hr with ⟨line, hline, kind, hconvert⟩ | ⟨selector, rfl⟩
    · have hrestricts := (isContradictory_iff_of_convert? hconvert).mp hboth
      exact ⟨line, hline, hrestricts, kind, r, hconvert, hr⟩
    · exact absurd hboth (by simp [Rule.isContradictory, genericTrigger])
  · rintro ⟨line, _, hline, kind, r, hconvert, hr⟩
    exact ⟨r, hr, (isContradictory_iff_of_convert? hconvert).mpr hline⟩

/-! ### Compiling a list -/

theorem translate_eq_ok_iff {encoded : String} :
    translate lines limit optimize = .ok encoded ↔ rulesOf lines limit optimize ≠ [] ∧
      encoded = Rule.encodeList (rulesOf lines limit optimize) := by
  cases hrules : rulesOf lines limit optimize with
  | nil => simp [translate, hrules]
  | cons r rules => simp [translate, hrules, eq_comm]

/-- What the translator writes is accepted as a list of rules. -/
theorem translate_of_translator {σ : Type} {b : ListBuilder σ} (hb : b.translator = translator)
    (lines : List String) :
    b.translate lines = (translate lines b.limit b.optimize).mapError Error.asTranslation := by
  unfold ListBuilder.translate
  rw [hb, translator]
  cases htranslate : translate lines b.limit b.optimize with
  | error e => rfl
  | ok encoded =>
    obtain ⟨hne, rfl⟩ := translate_eq_ok_iff.mp htranslate
    dsimp only
    rw [if_pos (Rule.isRuleArray_encodeList hne)]
    rfl

/-- Whether no rule of a translated list has a filter that is too large. -/
def FiltersFit (lines : List String) (limit : Nat) (optimize : Bool) : Prop :=
  ∀ r ∈ rulesOf lines limit optimize,
    Regex.compile r.trigger.urlFilter (!r.trigger.caseSensitive) ≠ .error .tooLarge

theorem isComplete_of_mem_rulesOf (hfit : FiltersFit lines limit optimize) :
    ∀ r ∈ rulesOf lines limit optimize, r.IsComplete :=
  fun r hr => (isLineRule_of_mem_rulesOf hr).isComplete (hfit r hr)

/-- What the translator writes holds at most `limit` rules and compiles to exactly these, unless one
of them comes from a line that restricts both ways; then it is refused as contradictory. -/
theorem compile_translate_iff {encoded : String}
    (htranslate : translate lines limit optimize = .ok encoded)
    (hfit : FiltersFit lines limit optimize) (identifier : String) :
    Rule.decodeList? encoded = some (rulesOf lines limit optimize) ∧
      (rulesOf lines limit optimize).length ≤ limit ∧
      ((∃ list, CompiledList.compile identifier encoded = .ok list ∧
          List.Forall₂ CompiledRule.IsOf (rulesOf lines limit optimize) list.rules) ↔
        ¬∃ line ∈ lines, RestrictsBothWays line.toList ∧ ∃ kind r,
          convert? line.toList = some (kind, r) ∧ r ∈ rulesOf lines limit optimize) ∧
      ∀ e, CompiledList.compile identifier encoded = .error e →
        ∃ index, e = .conflictingDomains identifier index := by
  obtain ⟨hne, rfl⟩ := translate_eq_ok_iff.mp htranslate
  have hcomplete := isComplete_of_mem_rulesOf hfit
  refine ⟨Rule.decodeList?_encodeList _, List.length_take_le _ _, ?_⟩
  rw [← exists_contradictory_iff]
  by_cases hsome : ∃ r ∈ rulesOf lines limit optimize, r.isContradictory = true
  · have herror := CompiledList.compile_encodeList_of_contradictory hne hcomplete hsome identifier
    rw [herror]
    refine ⟨iff_of_false (fun ⟨_, hlist, _⟩ => by simp at hlist) (not_not_intro hsome), ?_⟩
    exact fun e he => ⟨_, (Except.error.inj he).symm⟩
  · have hnone : ∀ r ∈ rulesOf lines limit optimize, r.isContradictory = false := by
      simpa using hsome
    obtain ⟨list, hlist, hrules⟩ :=
      CompiledList.compile_encodeList_of_complete hne hcomplete hnone identifier
    rw [hlist]
    exact ⟨iff_of_true ⟨list, rfl, hrules⟩ hsome, fun e he => by simp at he⟩

/-- A list without such a line compiles. -/
theorem compile_translate_iff_one_site :
    translate ["||x.com^$domain=a.com"] 10 false =
        .ok (Rule.encodeList (rulesOf ["||x.com^$domain=a.com"] 10 false)) ∧
      FiltersFit ["||x.com^$domain=a.com"] 10 false ∧
      ∃ list, CompiledList.compile "a" (Rule.encodeList
          (rulesOf ["||x.com^$domain=a.com"] 10 false)) = .ok list ∧
        List.Forall₂ CompiledRule.IsOf (rulesOf ["||x.com^$domain=a.com"] 10 false)
          list.rules := by
  have htranslate : translate ["||x.com^$domain=a.com"] 10 false =
      .ok (Rule.encodeList (rulesOf ["||x.com^$domain=a.com"] 10 false)) :=
    translate_eq_ok_iff.mpr ⟨by decide +kernel, rfl⟩
  have hfit : FiltersFit ["||x.com^$domain=a.com"] 10 false := by
    unfold FiltersFit
    decide +kernel
  have hnone : ¬∃ r ∈ rulesOf ["||x.com^$domain=a.com"] 10 false, r.isContradictory = true := by
    decide +kernel
  rw [exists_contradictory_iff] at hnone
  exact ⟨htranslate, hfit, (compile_translate_iff htranslate hfit "a").2.2.1.mpr hnone⟩

/-- One line with two lists of domains spoils its list: the translator writes it, and compiling
refuses what has been written under every identifier. -/
theorem two_domain_lists_spoil_a_list :
    translate ["||x.com^$domain=a.com,domain=~b.com"] 10 false =
        .ok (Rule.encodeList (rulesOf ["||x.com^$domain=a.com,domain=~b.com"] 10 false)) ∧
      FiltersFit ["||x.com^$domain=a.com,domain=~b.com"] 10 false ∧
      ∀ identifier, CompiledList.compile identifier (Rule.encodeList
          (rulesOf ["||x.com^$domain=a.com,domain=~b.com"] 10 false)) =
        .error (.conflictingDomains identifier 0) := by
  have hne : rulesOf ["||x.com^$domain=a.com,domain=~b.com"] 10 false ≠ [] := by
    decide +kernel
  have hfit : FiltersFit ["||x.com^$domain=a.com,domain=~b.com"] 10 false := by
    unfold FiltersFit
    decide +kernel
  have hsome : ∃ r ∈ rulesOf ["||x.com^$domain=a.com,domain=~b.com"] 10 false,
      r.isContradictory = true := by
    decide +kernel
  have hfirst : (rulesOf ["||x.com^$domain=a.com,domain=~b.com"] 10 false).findIdx
      (·.isContradictory) = 0 := by
    decide +kernel
  refine ⟨translate_eq_ok_iff.mpr ⟨hne, rfl⟩, hfit, fun identifier => ?_⟩
  rw [CompiledList.compile_encodeList_of_contradictory hne (isComplete_of_mem_rulesOf hfit) hsome,
    hfirst]

end ContentBlocker.Filter
