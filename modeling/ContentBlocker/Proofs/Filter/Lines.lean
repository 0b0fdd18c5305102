import ContentBlocker.Filter.Line
import ContentBlocker.Proofs.Filter.Meaning
import ContentBlocker.Proofs.Filter.Narrowing
import ContentBlocker.Proofs.Rule.Compiling

/-!
# The rules that lines become

Every rule that a line becomes is complete but for the size of its filter
(`isLineRule_of_convert?`, `IsLineRule.isComplete`). It names both sites to act on and sites to leave
alone exactly when the line does so in two lists of domains (`isContradictory_iff_of_convert?`):
within one list the sites to act on win, but a second list does not take back what the first one did.
-/

namespace ContentBlocker.Filter

/-! ### Options -/

namespace RuleOption

/-- Whether an option names sites to act on. -/
def includesSites : RuleOption → Bool
  | .domains list => !list.included.isEmpty
  | _ => false

/-- Whether an option names sites to leave alone and none to act on. -/
def excludesSites : RuleOption → Bool
  | .domains list => list.included.isEmpty && !list.excluded.isEmpty
  | _ => false

theorem includesSites_eq (option : RuleOption) :
    option.includesSites = (option.domains? >>= Domains.acting?).isSome := by
  cases option with
  | domains list => exact list.isSome_acting?.symm
  | _ => rfl

theorem excludesSites_eq (option : RuleOption) :
    option.excludesSites = (option.domains? >>= Domains.sparing?).isSome := by
  cases option with
  | domains list => exact list.isSome_sparing?.symm
  | _ => rfl

/-- What options do to the filter and the sites of a trigger together. -/
theorem narrowAll_spec (options : List RuleOption) (t : Trigger) :
    (narrowAll options t).urlFilter = t.urlFilter ∧
      (narrowAll options t).ifDomain.isSome =
        (t.ifDomain.isSome || options.any includesSites) ∧
      (narrowAll options t).unlessDomain.isSome =
        (t.unlessDomain.isSome || options.any excludesSites) := by
  have hfold : (options.foldl narrow t).urlFilter = t.urlFilter ∧
      (options.foldl narrow t).ifDomain.isSome =
        (t.ifDomain.isSome || options.any includesSites) ∧
      (options.foldl narrow t).unlessDomain.isSome =
        (t.unlessDomain.isSome || options.any excludesSites) := by
    simp only [foldl_narrow_eq, Option.isSome_or, isSome_last?, ← includesSites_eq,
      ← excludesSites_eq, Bool.or_comm, and_self]
  unfold narrowAll
  dsimp only
  split <;> exact hfold

/-- Whether one option names sites to act on and another one only sites to leave alone. -/
def restrictBothWays (options : List RuleOption) : Bool :=
  options.any includesSites && options.any excludesSites

end RuleOption

/-! ### Lines -/

/-- The text that a line is read from as a network rule, `none` where it is not read as one. -/
def networkText? (line : List Char) : Option (List Char) :=
  let s := Text.trim line
  if (Text.cut? "##".toList s).isSome then none
  else if isHostsEntry s then (hostsDomain? s).map fun name => "||".toList ++ name ++ ['^']
  else some (("@@".toList.isPrefixOf? s).getD s)

/-- Whether a line names sites to act on in one list of domains, and only sites to leave alone in
another. -/
def RestrictsBothWays (line : List Char) : Prop :=
  ∃ text options, networkText? line = some text ∧
    RuleOption.parseList? ((splitOptions text).2.getD []) = some options ∧
    RuleOption.restrictBothWays options = true

/-- The action of the network rules of a kind. -/
def Kind.networkAction? : Kind → Option Action
  | .blocking => some Action.block
  | .cosmetic => none
  | .exception => some Action.ignorePrevious

theorem Kind.type_networkAction?_ne {kind : Kind} {action : Action}
    (h : kind.networkAction? = some action) : action.type ≠ .cssDisplayNone := by
  cases kind with
  | blocking =>
    obtain rfl := Option.some.inj h
    decide
  | cosmetic => simp [networkAction?] at h
  | exception =>
    obtain rfl := Option.some.inj h
    decide

/-- A line that becomes a rule is read as a hiding rule or as a network rule, as its kind says. -/
theorem convert?_cases {line : List Char} {kind : Kind} {r : Rule}
    (h : convert? line = some (kind, r)) :
    (kind = .cosmetic ∧ networkText? line = none ∧
      ∃ domains selector, Text.cut? "##".toList (Text.trim line) = some (domains, selector) ∧
        hidingRule? domains selector = some r) ∨
    ∃ text action, kind.networkAction? = some action ∧ networkText? line = some text ∧
      networkRule? text action = some r := by
  unfold convert? at h
  dsimp only at h
  unfold networkText?
  dsimp only
  split at h
  · simp at h
  · split at h
    -- a hiding rule
    · rename_i domains selector hcut
      rw [hcut]
      obtain ⟨r', hr, heq⟩ := Option.map_eq_some_iff.mp h
      obtain ⟨rfl, rfl⟩ := Prod.mk.inj heq
      exact .inl ⟨rfl, rfl, domains, selector, rfl, hr⟩
    · rename_i hcut
      rw [hcut]
      refine .inr ?_
      split at h
      -- an entry of a hosts file
      · rename_i hhosts
        rw [if_neg (by simp), if_pos hhosts]
        simp only [Option.bind_eq_bind, Option.bind_eq_some_iff] at h
        obtain ⟨name, hname, r', hr, heq⟩ := h
        obtain ⟨rfl, rfl⟩ := Prod.mk.inj (Option.some.inj heq)
        exact ⟨_, Action.block, rfl, by rw [hname]; rfl, hr⟩
      · rename_i hhosts
        rw [if_neg (by simp), if_neg hhosts]
        split at h
        -- an exception
        · rename_i rest hrest
          rw [hrest]
          obtain ⟨r', hr, heq⟩ := Option.map_eq_some_iff.mp h
          obtain ⟨rfl, rfl⟩ := Prod.mk.inj heq
          exact ⟨rest, Action.ignorePrevious, rfl, rfl, hr⟩
        -- a blocking rule
        · rename_i hrest
          rw [hrest]
          obtain ⟨r', hr, heq⟩ := Option.map_eq_some_iff.mp h
          obtain ⟨rfl, rfl⟩ := Prod.mk.inj heq
          exact ⟨_, Action.block, rfl, rfl, hr⟩

/-! ### Rules -/

/-- What every rule is like that comes from a filter line. -/
structure IsLineRule (r : Rule) : Prop where
  filter : ∃ pattern, r.trigger.urlFilter = (Pattern.parse pattern).urlFilter
  selector : r.action.type = .cssDisplayNone → r.action.selector.isSome = true

/-- The filter of such a rule is refused only where it is too large. -/
theorem IsLineRule.isComplete {r : Rule} (hr : IsLineRule r)
    (hsize : Regex.compile r.trigger.urlFilter (!r.trigger.caseSensitive) ≠ .error .tooLarge) :
    r.IsComplete := by
  refine ⟨hr.selector, ?_⟩
  obtain ⟨pattern, hfilter⟩ := hr.filter
  rw [Rule.readFilter, Regex.read_eq_compile]
  rw [hfilter, Pattern.compile_urlFilter (Pattern.isProper_of_mem_parse pattern)] at hsize ⊢
  split at hsize
  · exact absurd rfl hsize
  · rename_i hfits
    exact ⟨_, if_neg hfits⟩

theorem hidingRule?_spec {domains selector : List Char} {r : Rule}
    (h : hidingRule? domains selector = some r) : IsLineRule r ∧ r.isContradictory = false := by
  unfold hidingRule? at h
  dsimp only at h
  split at h
  · simp at h
  · obtain rfl := Option.some.inj h
    rw [Domains.narrow_eq]
    refine ⟨⟨⟨[], rfl⟩, fun _ => rfl⟩, ?_⟩
    show (((Domains.acting? _).or none).isSome && ((Domains.sparing? _).or none).isSome) = false
    rw [Option.or_none, Option.or_none, Domains.isSome_acting?, Domains.isSome_sparing?]
    cases (Domains.parse ',' domains).included <;> simp

/-- A network rule has the trigger that its options make of its pattern. Where it is not restricted,
its filter is not the one for every URL. -/
theorem exists_options_of_networkRule? {text : List Char} {action : Action} {r : Rule}
    (h : networkRule? text action = some r) :
    ∃ options, RuleOption.parseList? ((splitOptions text).2.getD []) = some options ∧
      r = {
        trigger := RuleOption.narrowAll options
          { urlFilter := (Pattern.parse (Text.trim (splitOptions text).1)).urlFilter }
        action } ∧
      (r.trigger.isRestricted = false → r.trigger.urlFilter ≠ Trigger.anyUrl) := by
  obtain ⟨trigger, htrigger, rfl⟩ := Option.map_eq_some_iff.mp h
  unfold networkTrigger? at htrigger
  dsimp only at htrigger
  split at htrigger
  · simp at htrigger
  · simp only [Option.bind_eq_bind, Option.bind_eq_some_iff] at htrigger
    obtain ⟨options, hoptions, htrigger⟩ := htrigger
    split at htrigger
    · simp at htrigger
    · rename_i hguard
      obtain rfl := Option.some.inj htrigger
      refine ⟨options, hoptions, rfl, fun hfree hany => ?_⟩
      exact hguard (by rw [decide_eq_true hany, hfree]; rfl)

/-- A network rule has the filter of its pattern, and the sites that its options name. Where it is
not restricted, the filter is not the one for every URL. -/
theorem networkRule?_spec {text : List Char} {action : Action} {r : Rule}
    (h : networkRule? text action = some r) :
    r.action = action ∧
      r.trigger.urlFilter = (Pattern.parse (Text.trim (splitOptions text).1)).urlFilter ∧
      (r.trigger.isRestricted = false → r.trigger.urlFilter ≠ Trigger.anyUrl) ∧
      ∃ options, RuleOption.parseList? ((splitOptions text).2.getD []) = some options ∧
        r.isContradictory = RuleOption.restrictBothWays options := by
  obtain ⟨options, hoptions, rfl, hguard⟩ := exists_options_of_networkRule? h
  obtain ⟨hfilter, hif, hunless⟩ := RuleOption.narrowAll_spec options
    { urlFilter := (Pattern.parse (Text.trim (splitOptions text).1)).urlFilter }
  refine ⟨rfl, hfilter, hguard, options, hoptions, ?_⟩
  rw [Rule.isContradictory, hif, hunless]
  rfl

theorem isLineRule_of_convert? {line : List Char} {kind : Kind} {r : Rule}
    (h : convert? line = some (kind, r)) : IsLineRule r := by
  rcases convert?_cases h with ⟨_, _, domains, selector, _, hr⟩ | ⟨text, action, haction, _, hr⟩
  · exact (hidingRule?_spec hr).1
  · obtain ⟨rfl, hfilter, _⟩ := networkRule?_spec hr
    have htype := Kind.type_networkAction?_ne haction
    exact ⟨⟨_, hfilter⟩, fun hhide => absurd hhide htype⟩

/-- The rule of a line is contradictory exactly when the line restricts both ways. -/
theorem isContradictory_iff_of_convert? {line : List Char} {kind : Kind} {r : Rule}
    (h : convert? line = some (kind, r)) :
    r.isContradictory = true ↔ RestrictsBothWays line := by
  rcases convert?_cases h with ⟨_, htext, domains, selector, _, hr⟩ | ⟨text, action, _, htext, hr⟩
  · rw [(hidingRule?_spec hr).2]
    refine iff_of_false Bool.false_ne_true ?_
    rintro ⟨text, _, htext', _⟩
    rw [htext] at htext'
    exact absurd htext' (by simp)
  · obtain ⟨_, _, _, options, hoptions, heq⟩ := networkRule?_spec hr
    rw [heq]
    constructor
    · exact fun hboth => ⟨text, options, htext, hoptions, hboth⟩
    · rintro ⟨text', options', htext', hoptions', hboth⟩
      obtain rfl := Option.some.inj (htext.symm.trans htext')
      obtain rfl := Option.some.inj (hoptions.symm.trans hoptions')
      exact hboth

/-! ### What rules are found in -/

/-- The pattern of a line that is read as a network rule. -/
def linePattern? (line : List Char) : Option (List Char) :=
  (networkText? line).map fun text => Text.trim (splitOptions text).1

/-- The filter of a network rule is that of its line's pattern, and not the one for every URL where
the rule is not restricted. -/
theorem exists_linePattern?_of_convert? {line : List Char} {kind : Kind} {r : Rule}
    (h : convert? line = some (kind, r)) (hkind : kind ≠ .cosmetic) :
    ∃ pattern, linePattern? line = some pattern ∧
      r.trigger.urlFilter = (Pattern.parse pattern).urlFilter ∧
      (r.trigger.isRestricted = false → r.trigger.urlFilter ≠ Trigger.anyUrl) := by
  rcases convert?_cases h with ⟨hcosmetic, _⟩ | ⟨text, action, _, htext, hr⟩
  · exact absurd hcosmetic hkind
  · obtain ⟨_, hfilter, hguard, _⟩ := networkRule?_spec hr
    exact ⟨_, by rw [linePattern?, htext]; rfl, hfilter, hguard⟩

/-- A compiled rule is found in the URLs that its pattern is in. -/
theorem isFoundIn_iff_isIn {r : Rule} {c : CompiledRule} (hc : CompiledRule.IsOf r c)
    {pattern : List Char} (hfilter : r.trigger.urlFilter = (Pattern.parse pattern).urlFilter)
    (url : String) :
    c.isFoundIn url = true ↔ Pattern.IsIn r.trigger.caseSensitive pattern url.toList := by
  have hregex := hc.regex
  rw [Rule.readFilter, Regex.read_eq_compile, hfilter,
    Pattern.compile_urlFilter (Pattern.isProper_of_mem_parse pattern)] at hregex
  split at hregex
  · cases hregex
  · have hsame := Except.ok.inj hregex
    rw [CompiledRule.isFoundIn, ← hsame, Pattern.isFoundIn_regex]

end ContentBlocker.Filter
