import ContentBlocker.Proofs.Filter.OptionNames
import ContentBlocker.Proofs.Filter.Translation

/-!
# The sites that rules name

A rule names a site by a star and the name (`Domains.NamesSite`). The sites that a rule acts on are
always named so. Those that it leaves alone come from the items of a list that start with `~`, and
there blank items are looked for before the `~` is taken away: an item that has nothing behind its
`~`, or white space, leaves an entry without a name. That is the only way to such an entry
(`translated_sites_iff`); the single item `~` becomes the entry `*`, by which a rule leaves every
site alone (`blank_exclusion_covers_every_site`).
-/

namespace ContentBlocker.Filter

/-! ### Names -/

namespace Domains

/-- Whether an entry names a site: a star, and a name in lower case that is not empty and has no
white space at its ends. -/
def NamesSite (entry : String) : Prop :=
  ∃ name, entry.toList = '*' :: name ∧ name ≠ [] ∧ Text.IsTrimmed name ∧
    ∀ c ∈ name, c.isUpper = false

theorem namesSite_ofName_iff {name : List Char} :
    NamesSite (ofName name) ↔ name ≠ [] ∧ Text.IsTrimmed name := by
  have hlist : (ofName name).toList = '*' :: Text.lower name := String.toList_ofList
  constructor
  · rintro ⟨name', heq, hne, htrimmed, _⟩
    obtain rfl : Text.lower name = name' := List.tail_eq_of_cons_eq (hlist.symm.trans heq)
    exact ⟨fun hnil => hne (by rw [hnil]; rfl), Text.isTrimmed_lower_iff.mp htrimmed⟩
  · rintro ⟨hne, htrimmed⟩
    refine ⟨_, hlist, mt Text.lower_eq_nil_iff.mp hne, Text.isTrimmed_lower_iff.mpr htrimmed, ?_⟩
    intro c hc
    obtain ⟨d, _, rfl⟩ := List.mem_map.mp hc
    exact Text.isUpper_toLower d

/-- Whether an item has nothing behind its `~`, or white space. -/
def isStray : List Char → Bool
  | '~' :: name => name.head?.all Text.isSpace
  | _ => false

/-- An item to act on names a site. -/
theorem namesSite_of_included? {item : List Char} (hne : item ≠ []) (htrimmed : Text.IsTrimmed item)
    {entry : String} (h : included? item = some entry) : NamesSite entry := by
  unfold included? at h
  split at h
  · cases h
  · obtain rfl := Option.some.inj h
    exact namesSite_ofName_iff.mpr ⟨hne, htrimmed⟩

/-- An item to leave alone names a site unless it is stray. -/
theorem namesSite_iff_of_excluded? {item : List Char} (htrimmed : Text.IsTrimmed item)
    {entry : String} (h : excluded? item = some entry) :
    NamesSite entry ↔ isStray item = false := by
  unfold excluded? at h
  split at h
  · rename_i name
    obtain rfl := Option.some.inj h
    rw [namesSite_ofName_iff]
    cases name with
    | nil => simp [isStray]
    | cons c rest =>
      have hlast : ∀ d, (c :: rest).getLast? = some d → Text.isSpace d = false :=
        fun d hd => htrimmed.2 d (by rw [List.getLast?_cons_cons, hd])
      simp only [isStray, List.head?_cons, Option.all_some]
      constructor
      · exact fun h => h.2.1 c rfl
      · refine fun hc => ⟨List.cons_ne_nil c rest, ?_, hlast⟩
        exact fun d hd => Option.some.inj hd ▸ hc
  · cases h

/-- The sites that the items of a list name. -/
def ofItems (items : List (List Char)) : Domains :=
  { included := items.filterMap included?, excluded := items.filterMap excluded? }

theorem parse_eq (separator : Char) (s : List Char) :
    parse separator s = ofItems (Text.items separator s) := rfl

/-- Whether a list of items names sites to leave alone and none to act on. -/
def onlySpares (items : List (List Char)) : Bool :=
  !items.isEmpty && items.all (·.head? == some '~')

theorem sparing?_ofItems (items : List (List Char)) :
    (ofItems items).sparing? =
      if onlySpares items then some (items.filterMap excluded?) else none := by
  have hincluded : ∀ item, included? item = none ↔ item.head? = some '~' := by
    intro item
    unfold included?
    split
    · simp
    · rename_i hitem
      refine iff_of_false (by simp) fun hhead => ?_
      obtain ⟨name, rfl⟩ := List.head?_eq_some_iff.mp hhead
      exact hitem name rfl
  have hacting : (ofItems items).included.isEmpty = items.all (·.head? == some '~') := by
    rw [Bool.eq_iff_iff, List.isEmpty_iff, List.all_eq_true]
    simp only [ofItems, List.filterMap_eq_nil_iff, hincluded, beq_iff_eq]
  unfold sparing? onlySpares
  rw [hacting]
  cases items with
  | nil => rfl
  | cons item items =>
    by_cases hall : (item :: items).all (·.head? == some '~') = true
    · have hhead := List.all_eq_true.mp hall item (List.mem_cons_self ..)
      obtain ⟨name, rfl⟩ := List.head?_eq_some_iff.mp (beq_iff_eq.mp hhead)
      simp only [hall]
      rfl
    · simp [Bool.eq_false_iff.mpr hall]

end Domains

/-! ### Lines -/

/-- The lists of domains that stand in a line, each as its items. -/
def siteLists (line : List Char) : List (List (List Char)) :=
  match Text.cut? "##".toList (Text.trim line) with
  | some (domains, _) => [Text.items ',' domains]
  | none =>
    match networkText? line with
    | some text => (RuleOption.names ((splitOptions text).2.getD [])).filterMap fun name =>
        (RuleOption.domainsMark.isPrefixOf? name).map (Text.items '|')
    | none => []

/-- What the lists of domains among options say, read from their items. -/
theorem last?_domains {α : Type} (f : Domains → Option α) (s : List Char) :
    last? (RuleOption.domains? · >>= f) ((RuleOption.names s).filterMap RuleOption.ofLower?) =
      last? (fun items => f (Domains.ofItems items)) ((RuleOption.names s).filterMap fun name =>
        (RuleOption.domainsMark.isPrefixOf? name).map (Text.items '|')) := by
  rw [last?_filterMap, last?_filterMap]
  congr 1
  funext name
  show (RuleOption.ofLower? name).bind (fun option => option.domains?.bind f) = _
  rw [← Option.bind_assoc, RuleOption.domains?_ofLower?, Option.bind_map, Option.bind_map]
  rfl

/-- The sites of a rule are those of the last list in its line that names some to act on, and those
of the last list that only names some to leave alone. -/
theorem sites_of_convert? {line : List Char} {kind : Kind} {r : Rule}
    (h : convert? line = some (kind, r)) :
    r.trigger.ifDomain = last? (fun items => (Domains.ofItems items).acting?) (siteLists line) ∧
      r.trigger.unlessDomain = last? (fun items => (Domains.ofItems items).sparing?) (siteLists line) := by
  unfold siteLists
  rcases convert?_cases h with
    ⟨_, _, domains, selector, hcut, hr⟩ | ⟨text, action, _, htext, hr⟩
  · rw [hcut]
    dsimp only
    unfold hidingRule? at hr
    dsimp only at hr
    split at hr
    · cases hr
    · obtain rfl := Option.some.inj hr
      rw [last?_singleton, last?_singleton, Domains.narrow_eq, Domains.parse_eq]
      exact ⟨Option.or_none, Option.or_none⟩
  · have hcut : Text.cut? "##".toList (Text.trim line) = none := by
      unfold networkText? at htext
      dsimp only at htext
      split at htext
      · cases htext
      · rename_i hcut
        exact Option.not_isSome_iff_eq_none.mp hcut
    obtain ⟨options, hoptions, rfl, _⟩ := exists_options_of_networkRule? hr
    obtain ⟨_, rfl⟩ := RuleOption.parseList?_eq_some_iff.mp hoptions
    rw [hcut, htext, RuleOption.narrowAll_eq]
    exact ⟨last?_domains Domains.acting? _, last?_domains Domains.sparing? _⟩

theorem exists_of_mem_siteLists {line : List Char} {items : List (List Char)}
    (h : items ∈ siteLists line) : ∃ separator s, items = Text.items separator s := by
  unfold siteLists at h
  split at h
  · exact ⟨_, _, List.mem_singleton.mp h⟩
  · split at h
    · obtain ⟨name, _, hitems⟩ := List.mem_filterMap.mp h
      obtain ⟨list, _, rfl⟩ := Option.map_eq_some_iff.mp hitems
      exact ⟨_, _, rfl⟩
    · simp at h

/-- The items of the list by which a line leaves sites alone. -/
def exclusions? (line : List Char) : Option (List (List Char)) :=
  ((siteLists line).filter Domains.onlySpares).getLast?

/-- Whether a line leaves sites alone by a list that has a stray item. -/
def LeavesStray (line : List Char) : Prop :=
  ∃ items, exclusions? line = some items ∧ ∃ item ∈ items, Domains.isStray item = true

theorem namesSite_of_ifDomain {line : List Char} {kind : Kind} {r : Rule}
    (h : convert? line = some (kind, r)) {sites : List String}
    (hsites : r.trigger.ifDomain = some sites) : ∀ entry ∈ sites, Domains.NamesSite entry := by
  rw [(sites_of_convert? h).1] at hsites
  obtain ⟨items, hitems, hacting⟩ := exists_of_last? hsites
  obtain ⟨separator, s, rfl⟩ := exists_of_mem_siteLists hitems
  unfold Domains.acting? at hacting
  split at hacting
  · cases hacting
  · obtain rfl := Option.some.inj hacting
    intro entry hentry
    obtain ⟨item, hitem, hincluded⟩ := List.mem_filterMap.mp hentry
    exact Domains.namesSite_of_included? (Text.ne_nil_of_mem_items hitem)
      (Text.isTrimmed_of_mem_items hitem) hincluded

theorem unlessDomain_of_convert? {line : List Char} {kind : Kind} {r : Rule}
    (h : convert? line = some (kind, r)) :
    r.trigger.unlessDomain = (exclusions? line).map (·.filterMap Domains.excluded?) := by
  rw [(sites_of_convert? h).2, exclusions?, ← last?_ite]
  simp only [Domains.sparing?_ofItems]

/-- A rule leaves only named sites alone, unless its line leaves a stray item. -/
theorem namesSite_of_unlessDomain_iff {line : List Char} {kind : Kind} {r : Rule}
    (h : convert? line = some (kind, r)) :
    (∀ sites, r.trigger.unlessDomain = some sites → ∀ entry ∈ sites, Domains.NamesSite entry) ↔
      ¬LeavesStray line := by
  rw [unlessDomain_of_convert? h]
  unfold LeavesStray
  cases hitems : exclusions? line with
  | none => simp
  | some items =>
    have hmem := List.mem_of_getLast? hitems
    have hspares := (List.mem_filter.mp hmem).2
    obtain ⟨separator, s, rfl⟩ := exists_of_mem_siteLists (List.mem_filter.mp hmem).1
    simp only [Option.map_some, Option.some.injEq, forall_eq', exists_eq_left', not_exists, not_and,
      Bool.not_eq_true]
    have hiff : ∀ item ∈ Text.items separator s, ∀ entry, Domains.excluded? item = some entry →
        (Domains.NamesSite entry ↔ Domains.isStray item = false) :=
      fun item hitem entry hentry =>
        Domains.namesSite_iff_of_excluded? (Text.isTrimmed_of_mem_items hitem) hentry
    constructor
    · intro hnames item hitem
      -- every item of the list starts with `~`
      have hhead := List.all_eq_true.mp (Bool.and_eq_true_iff.mp hspares).2 item hitem
      obtain ⟨name, rfl⟩ := List.head?_eq_some_iff.mp (beq_iff_eq.mp hhead)
      exact (hiff _ hitem _ rfl).mp (hnames _ (List.mem_filterMap.mpr ⟨_, hitem, rfl⟩))
    · intro hnone entry hentry
      obtain ⟨item, hitem, hexcluded⟩ := List.mem_filterMap.mp hentry
      exact (hiff item hitem entry hexcluded).mpr (hnone item hitem)

/-! ### Lists -/

/-- Whether every entry of a list of sites names one, in every rule that has such a list. -/
def AllNamed (sites : Trigger → Option (List String)) (rules : List Rule) : Prop :=
  ∀ r ∈ rules, ∀ entries, sites r.trigger = some entries →
    ∀ entry ∈ entries, Domains.NamesSite entry

/-- The sites that the rules of a translated list act on are all named. Those that they leave alone
are all named exactly if no rule of the list comes from a line that leaves a stray item. -/
theorem translated_sites_iff {lines : List String} {limit : Nat} {optimize : Bool} {encoded : String}
    (h : translate lines limit optimize = .ok encoded) :
    ∃ rules, Rule.decodeList? encoded = some rules ∧ AllNamed (·.ifDomain) rules ∧
      (AllNamed (·.unlessDomain) rules ↔
        ¬∃ line ∈ lines, LeavesStray line.toList ∧
          ∃ kind, ∃ r ∈ rules, convert? line.toList = some (kind, r)) := by
  obtain ⟨_, rfl⟩ := translate_eq_ok_iff.mp h
  refine ⟨_, Rule.decodeList?_encodeList _, ?_, ?_, ?_⟩
  · intro r hr sites hsites
    rcases mem_rulesOf hr with ⟨line, _, kind, hconvert⟩ | ⟨selector, rfl⟩
    · exact namesSite_of_ifDomain hconvert hsites
    · cases hsites
  · rintro hnames ⟨line, _, hstray, kind, r, hr, hconvert⟩
    exact (namesSite_of_unlessDomain_iff hconvert).mp (hnames r hr) hstray
  · intro hnone r hr sites hsites
    rcases mem_rulesOf hr with ⟨line, hline, kind, hconvert⟩ | ⟨selector, rfl⟩
    · have hstray : ¬LeavesStray line.toList :=
        fun hstray => hnone ⟨line, hline, hstray, kind, r, hr, hconvert⟩
      exact (namesSite_of_unlessDomain_iff hconvert).mpr hstray sites hsites
    · cases hsites

/-- A blank behind a `~` is kept, so that the first line leaves an entry without a proper name. A
limit that cuts its rule off leaves the rule of the second line, whose capital letter is made small. -/
theorem translated_sites_iff_cut_off :
    translate ["~ a.com##.ad", "||x.com^$domain=~B.com"] 2 false =
        .ok (Rule.encodeList (rulesOf ["~ a.com##.ad", "||x.com^$domain=~B.com"] 2 false)) ∧
      ¬AllNamed (·.unlessDomain)
        (rulesOf ["~ a.com##.ad", "||x.com^$domain=~B.com"] 2 false) ∧
      translate ["~ a.com##.ad", "||x.com^$domain=~B.com"] 1 false =
        .ok (Rule.encodeList (rulesOf ["~ a.com##.ad", "||x.com^$domain=~B.com"] 1 false)) ∧
      AllNamed (·.unlessDomain)
        (rulesOf ["~ a.com##.ad", "||x.com^$domain=~B.com"] 1 false) := by
  have hboth : translate ["~ a.com##.ad", "||x.com^$domain=~B.com"] 2 false =
      .ok (Rule.encodeList (rulesOf ["~ a.com##.ad", "||x.com^$domain=~B.com"] 2 false)) :=
    translate_eq_ok_iff.mpr ⟨by decide +kernel, rfl⟩
  have hfirst : translate ["~ a.com##.ad", "||x.com^$domain=~B.com"] 1 false =
      .ok (Rule.encodeList (rulesOf ["~ a.com##.ad", "||x.com^$domain=~B.com"] 1 false)) :=
    translate_eq_ok_iff.mpr ⟨by decide +kernel, rfl⟩
  have hstray : LeavesStray "~ a.com##.ad".toList :=
    ⟨["~ a.com".toList], by decide, "~ a.com".toList, by decide, by decide⟩
  have hnamed : ¬LeavesStray "||x.com^$domain=~B.com".toList := by
    rintro ⟨items, hitems, item, hitem, hstray⟩
    obtain rfl : ["~b.com".toList] = items :=
      Option.some.inj ((by decide : some ["~b.com".toList] = exclusions? _).trans hitems)
    rw [List.mem_singleton.mp hitem] at hstray
    exact absurd hstray (by decide)
  refine ⟨hboth, ?_, hfirst, ?_⟩
  · obtain ⟨rules, hrules, _, hiff⟩ := translated_sites_iff hboth
    rw [Rule.decodeList?_encodeList] at hrules
    obtain rfl := Option.some.inj hrules
    rw [hiff, not_not]
    refine ⟨_, List.mem_cons_self .., hstray, .cosmetic, ?_⟩
    exact ⟨{ trigger := { urlFilter := Trigger.anyUrl, unlessDomain := some ["* a.com"] }
             action := Action.hide ".ad" }, by decide +kernel, by decide⟩
  · obtain ⟨rules, hrules, _, hiff⟩ := translated_sites_iff hfirst
    rw [Rule.decodeList?_encodeList] at hrules
    obtain rfl := Option.some.inj hrules
    rw [hiff]
    rintro ⟨line, hline, hleaves, kind, r, hr, hconvert⟩
    rcases List.mem_cons.mp hline with rfl | hline
    -- the rule of the first line is not among the rules
    · have hcut : ∀ r ∈ rulesOf ["~ a.com##.ad", "||x.com^$domain=~B.com"] 1 false,
          r.action.type ≠ .cssDisplayNone := by
        decide +kernel
      have hhides : ((convert? "~ a.com##.ad".toList).map (·.2.action.type)) =
          some .cssDisplayNone := by
        decide
      rw [hconvert] at hhides
      exact hcut r hr (Option.some.inj hhides)
    · rw [List.mem_singleton.mp hline] at hleaves
      exact hnamed hleaves

/-- An item that is `~` alone makes a rule leave every site alone. -/
theorem blank_exclusion_covers_every_site :
    rulesOf ["~##.ad"] 1 false =
        [{ trigger := { urlFilter := Trigger.anyUrl, unlessDomain := some ["*"] }
           action := Action.hide ".ad" }] ∧
      translate ["~##.ad"] 1 false = .ok (Rule.encodeList (rulesOf ["~##.ad"] 1 false)) ∧
      ¬Domains.NamesSite "*" := by
  refine ⟨by decide +kernel, translate_eq_ok_iff.mpr ⟨by decide +kernel, rfl⟩, ?_⟩
  rintro ⟨name, hname, hne, _⟩
  exact hne (List.tail_eq_of_cons_eq hname).symm

end ContentBlocker.Filter
