import ContentBlocker.Rule.Compiled
import Mathlib.Algebra.GroupWithZero.Nat
import Mathlib.Data.List.Forall2

/-!
# Checking rules

A list compiles exactly if it can be read, has a rule, and all its rules are well-formed
(`CompiledList.compile_accepts_well_formed`), whatever the reader of filters accepts. What comes out
has for each rule, in the same order, what the rule compiles to (`CompiledRule.IsOf`). A list that is
refused is refused for the first of its rules that is not well-formed, and for the first check which
that rule fails: domain lists, selector, filter (`Rule.Fails`).

A single rule is compiled or fails a check (`CompiledRule.ofRule_eq_ok_iff`,
`CompiledRule.ofRule_eq_error_iff`). Rules are compiled one after the other, so what holds of a row
of rules is shown by induction on the row, at any index.
-/

namespace ContentBlocker

/-! ### Rules -/

namespace Rule

/-- Whether a rule names both sites to act on and sites to leave alone. -/
def isContradictory (r : Rule) : Bool :=
  r.trigger.ifDomain.isSome && r.trigger.unlessDomain.isSome

variable [FilterReader]

/-- What the URL filter of a rule is read as. -/
def readFilter (r : Rule) : Except FilterError Regex :=
  FilterReader.read r.trigger.urlFilter (!r.trigger.caseSensitive)

/-- A rule that can be compiled unless it is contradictory. -/
structure IsComplete (r : Rule) : Prop where
  selector : r.action.type = .cssDisplayNone → r.action.selector.isSome = true
  filter : ∃ regex, r.readFilter = .ok regex

/-- A rule that can be compiled. -/
structure IsWellFormed (r : Rule) : Prop extends r.IsComplete where
  domains : r.isContradictory = false

/-- The first check that a rule at an index of a list fails, by the error that tells of it. -/
inductive Fails (identifier : String) (index : Nat) (r : Rule) : RegistryError → Prop
  | domains (hdomains : r.isContradictory = true) :
    Fails identifier index r (.conflictingDomains identifier index)
  | selector (hdomains : r.isContradictory = false) (htype : r.action.type = .cssDisplayNone)
      (hselector : r.action.selector = none) :
    Fails identifier index r (.missingSelector identifier index)
  | filter (cause : FilterError) (hdomains : r.isContradictory = false)
      (hselector : r.action.type = .cssDisplayNone → r.action.selector.isSome = true)
      (hfilter : r.readFilter = .error cause) :
    Fails identifier index r (.invalidFilter identifier index r.trigger.urlFilter cause)

variable {identifier : String} {index : Nat} {r : Rule} {e : RegistryError}

/-- A rule that fails a check is not well-formed. -/
theorem Fails.not_isWellFormed (h : r.Fails identifier index e) : ¬r.IsWellFormed := by
  intro hr
  cases h with
  | domains hdomains =>
    rw [hr.domains] at hdomains
    exact Bool.false_ne_true hdomains
  | selector _ htype hselector =>
    have hsome := hr.selector htype
    rw [hselector] at hsome
    exact Bool.false_ne_true hsome
  | filter cause _ _ hfilter =>
    obtain ⟨regex, hregex⟩ := hr.filter
    rw [hregex] at hfilter
    cases hfilter

/-- A rule fails one check first. -/
theorem Fails.unique {e' : RegistryError} (h : r.Fails identifier index e)
    (h' : r.Fails identifier index e') : e = e' := by
  cases h <;> cases h' <;> simp_all

end Rule

namespace CompiledRule

variable [FilterReader] {identifier : String} {index : Nat} {r : Rule}

/-- Whether a compiled rule is what a rule compiles to: the rule is well-formed, its filter has been
read, and everything else is as it is in the rule. -/
structure IsOf (r : Rule) (c : CompiledRule) : Prop where
  isWellFormed : r.IsWellFormed
  text : c.urlFilter.text = r.trigger.urlFilter
  regex : r.readFilter = .ok c.urlFilter.regex
  ifDomain : c.ifDomain = r.trigger.ifDomain
  unlessDomain : c.unlessDomain = r.trigger.unlessDomain
  resourceTypes : c.resourceTypes = r.trigger.resourceTypes
  loadTypes : c.loadTypes = r.trigger.loadTypes
  action : c.action = r.action

/-- A rule is compiled or fails a check. -/
theorem ofRule_cases (identifier : String) (index : Nat) (r : Rule) :
    (∃ c, IsOf r c ∧ ofRule identifier index r = .ok c) ∨
      ∃ e, r.Fails identifier index e ∧ ofRule identifier index r = .error e := by
  unfold ofRule
  dsimp only
  split
  · rename_i hdomains
    exact .inr ⟨_, .domains hdomains, rfl⟩
  · rename_i hdomains
    have hdomains : r.isContradictory = false := Bool.eq_false_iff.mpr hdomains
    split
    · rename_i hselector
      rw [Bool.and_eq_true, decide_eq_true_eq, Option.isNone_iff_eq_none] at hselector
      exact .inr ⟨_, .selector hdomains hselector.1 hselector.2, rfl⟩
    · rename_i hselector
      have hselector : r.action.type = .cssDisplayNone → r.action.selector.isSome = true := by
        intro htype
        rw [htype] at hselector
        simpa [Option.isSome_iff_ne_none] using hselector
      split
      · rename_i cause hfilter
        exact .inr ⟨_, .filter cause hdomains hselector hfilter, rfl⟩
      · rename_i regex hfilter
        have hr : r.IsWellFormed := ⟨⟨hselector, regex, hfilter⟩, hdomains⟩
        refine .inl ⟨_, ?_, rfl⟩
        exact ⟨hr, rfl, hfilter, rfl, rfl, rfl, rfl, rfl⟩

/-- A rule compiles to one thing only. -/
theorem IsOf.unique {c c' : CompiledRule} (h : IsOf r c) (h' : IsOf r c') : c = c' := by
  obtain ⟨⟨text, regex⟩, _, _, _, _, _⟩ := c
  obtain ⟨⟨text', regex'⟩, _, _, _, _, _⟩ := c'
  obtain ⟨_, rfl, hregex, rfl, rfl, rfl, rfl, rfl⟩ := h
  obtain ⟨_, rfl, hregex', rfl, rfl, rfl, rfl, rfl⟩ := h'
  obtain rfl : regex = regex' := Except.ok.inj (hregex.symm.trans hregex')
  rfl

theorem ofRule_eq_ok_iff {c : CompiledRule} :
    ofRule identifier index r = .ok c ↔ IsOf r c := by
  rcases ofRule_cases identifier index r with ⟨c', hc', hrule⟩ | ⟨e, hfails, hrule⟩
  · rw [hrule]
    constructor
    · intro h
      obtain rfl := Except.ok.inj h
      exact hc'
    · exact fun h => congrArg Except.ok (hc'.unique h)
  · rw [hrule]
    exact iff_of_false (by simp) fun h => hfails.not_isWellFormed h.isWellFormed

/-- A well-formed rule is compiled. -/
theorem exists_ofRule (h : r.IsWellFormed) (identifier : String) (index : Nat) :
    ∃ c, ofRule identifier index r = .ok c := by
  rcases ofRule_cases identifier index r with ⟨c, _, hrule⟩ | ⟨e, hfails, _⟩
  · exact ⟨c, hrule⟩
  · exact absurd h hfails.not_isWellFormed

theorem ofRule_eq_error_iff {e : RegistryError} :
    ofRule identifier index r = .error e ↔ r.Fails identifier index e := by
  rcases ofRule_cases identifier index r with ⟨c, hc, hrule⟩ | ⟨e', hfails, hrule⟩
  · rw [hrule]
    exact iff_of_false (by simp) fun h => h.not_isWellFormed hc.isWellFormed
  · rw [hrule]
    constructor
    · intro h
      obtain rfl := Except.error.inj h
      exact hfails
    · exact fun h => congrArg Except.error (hfails.unique h)

end CompiledRule

/-! ### Rows of rules -/

namespace CompiledList

variable [FilterReader] {identifier : String} {index : Nat} {r : Rule} {rules : List Rule}

theorem compileRules_cons_of_ok {c : CompiledRule}
    (h : CompiledRule.ofRule identifier index r = .ok c) :
    compileRules identifier index (r :: rules) =
      (compileRules identifier (index + 1) rules).map (c :: ·) := by
  rw [compileRules, h]
  cases compileRules identifier (index + 1) rules <;> rfl

theorem compileRules_cons_of_error {e : RegistryError}
    (h : CompiledRule.ofRule identifier index r = .error e) :
    compileRules identifier index (r :: rules) = .error e := by
  rw [compileRules, h]
  rfl

/-- A row of rules is refused for the first rule that fails a check. -/
theorem compileRules_eq_error_iff {e : RegistryError} :
    compileRules identifier index rules = .error e ↔
      ∃ before r after, rules = before ++ r :: after ∧ (∀ x ∈ before, x.IsWellFormed) ∧
        r.Fails identifier (index + before.length) e := by
  induction rules generalizing index with
  | nil => simp [compileRules]
  | cons r rules ih =>
    rcases CompiledRule.ofRule_cases identifier index r with ⟨c, hc, hrule⟩ | ⟨e', hfails, hrule⟩
    -- the first rule is compiled, so that the error comes from the others
    · have hothers : compileRules identifier index (r :: rules) = .error e ↔
          compileRules identifier (index + 1) rules = .error e := by
        rw [compileRules_cons_of_ok hrule]
        cases compileRules identifier (index + 1) rules <;> simp [Except.map]
      rw [hothers, ih]
      constructor
      · rintro ⟨before, x, after, rfl, hbefore, hx⟩
        have hindex : index + (r :: before).length = index + 1 + before.length := by
          rw [List.length_cons]
          omega
        refine ⟨r :: before, x, after, rfl, ?_, ?_⟩
        · exact List.forall_mem_cons.mpr ⟨hc.isWellFormed, hbefore⟩
        · rw [hindex]
          exact hx
      · rintro ⟨before, x, after, hrules, hbefore, hx⟩
        cases before with
        | nil =>
          obtain ⟨rfl, rfl⟩ := List.cons.inj hrules
          exact absurd hc.isWellFormed hx.not_isWellFormed
        | cons first before =>
          obtain ⟨rfl, rfl⟩ := List.cons.inj hrules
          have hindex : index + 1 + before.length = index + (r :: before).length := by
            rw [List.length_cons]
            omega
          refine ⟨before, x, after, rfl, (List.forall_mem_cons.mp hbefore).2, ?_⟩
          rw [hindex]
          exact hx
    -- the first rule fails
    · rw [compileRules_cons_of_error hrule]
      constructor
      · intro h
        obtain rfl := Except.error.inj h
        exact ⟨[], r, rules, rfl, by simp, hfails⟩
      · rintro ⟨before, x, after, hrules, hbefore, hx⟩
        cases before with
        | nil =>
          obtain ⟨rfl, rfl⟩ := List.cons.inj hrules
          exact congrArg Except.error (hfails.unique hx)
        | cons first before =>
          obtain ⟨rfl, _⟩ := List.cons.inj hrules
          exact absurd (hbefore r (List.mem_cons_self ..)) hfails.not_isWellFormed

/-- A row of rules is compiled rule by rule. -/
theorem isOf_of_compileRules {compiled : List CompiledRule}
    (h : compileRules identifier index rules = .ok compiled) :
    List.Forall₂ CompiledRule.IsOf rules compiled := by
  induction rules generalizing index compiled with
  | nil =>
    obtain rfl := Except.ok.inj h
    exact .nil
  | cons r rules ih =>
    rcases CompiledRule.ofRule_cases identifier index r with ⟨c, hc, hrule⟩ | ⟨e, _, hrule⟩
    · rw [compileRules_cons_of_ok hrule] at h
      cases hothers : compileRules identifier (index + 1) rules with
      | error e =>
        rw [hothers] at h
        cases h
      | ok others =>
        rw [hothers] at h
        obtain rfl := Except.ok.inj h
        exact .cons hc (ih hothers)
    · rw [compileRules_cons_of_error hrule] at h
      cases h

/-- Rules that something is compiled of are well-formed. -/
theorem isWellFormed_of_isOf {compiled : List CompiledRule}
    (h : List.Forall₂ CompiledRule.IsOf rules compiled) : ∀ r ∈ rules, r.IsWellFormed :=
  ((List.forall₂_and_left _ _).mp (h.imp fun _ _ hc => ⟨hc.isWellFormed, hc⟩)).1

/-- A row of well-formed rules is compiled. -/
theorem exists_compileRules (h : ∀ r ∈ rules, r.IsWellFormed) (identifier : String) (index : Nat) :
    ∃ compiled, compileRules identifier index rules = .ok compiled := by
  cases hcompile : compileRules identifier index rules with
  | ok compiled => exact ⟨compiled, rfl⟩
  | error e =>
    obtain ⟨before, r, after, rfl, _, hfails⟩ := compileRules_eq_error_iff.mp hcompile
    exact absurd (h r (by simp)) hfails.not_isWellFormed

/-! ### Lists -/

variable {encoded : String}

/-- A list that is read and has a rule compiles as its rules do. -/
theorem compile_of_decodeList? (hsome : Rule.decodeList? encoded = some rules) (hne : rules ≠ [])
    (identifier : String) :
    compile identifier encoded = (compileRules identifier 0 rules).map
      fun compiled => ⟨identifier, compiled, encoded.utf8ByteSize⟩ := by
  rw [compile, hsome]
  cases rules with
  | nil => exact absurd rfl hne
  | cons r rules => rfl

/-- A list that compiles has a rule, and holds what its rules compile to. -/
theorem isOf_of_compile {list : CompiledList} (h : compile identifier encoded = .ok list) :
    list.identifier = identifier ∧ list.encodedSize = encoded.utf8ByteSize ∧
      ∃ rules, Rule.decodeList? encoded = some rules ∧ rules ≠ [] ∧
        List.Forall₂ CompiledRule.IsOf rules list.rules := by
  cases hread : Rule.decodeList? encoded with
  | none =>
    rw [compile, hread] at h
    cases h
  | some rules =>
    by_cases hne : rules = []
    · rw [compile, hread, hne] at h
      cases h
    · rw [compile_of_decodeList? hread hne] at h
      cases hcompiled : compileRules identifier 0 rules with
      | error e =>
        rw [hcompiled] at h
        cases h
      | ok compiled =>
        rw [hcompiled] at h
        obtain rfl := Except.ok.inj h
        exact ⟨rfl, rfl, rules, rfl, hne, isOf_of_compileRules hcompiled⟩

omit [FilterReader] in
/-- Every rule of a list has an action of one of the four types. -/
theorem sum_count (list : CompiledList) :
    (ActionType.all.map list.count).sum = list.rules.length := by
  simp only [ActionType.all, List.map_cons, List.map_nil, List.sum_cons, List.sum_nil, count]
  induction list.rules with
  | nil => rfl
  | cons c rules ih =>
    simp only [List.countP_cons, List.length_cons]
    cases htype : c.action.type <;> simp <;> omega

/-- A list compiles exactly if it is read as rules, at least one, that are all well-formed. Then what
comes out has what each rule compiles to, in the same order. Otherwise the first rule that is not
well-formed is told, and the first check which it fails. -/
theorem compile_accepts_well_formed (identifier encoded : String) :
    ((∃ list, compile identifier encoded = .ok list) ↔
      ∃ rules, Rule.decodeList? encoded = some rules ∧ rules ≠ [] ∧ ∀ r ∈ rules, r.IsWellFormed) ∧
    (∀ list, compile identifier encoded = .ok list →
      list.identifier = identifier ∧ list.encodedSize = encoded.utf8ByteSize ∧
      (∃ rules, Rule.decodeList? encoded = some rules ∧
        List.Forall₂ CompiledRule.IsOf rules list.rules) ∧
      (ActionType.all.map list.count).sum = list.rules.length) ∧
    ∀ rules, Rule.decodeList? encoded = some rules → rules ≠ [] →
      ∀ e, compile identifier encoded = .error e ↔
        ∃ before r after, rules = before ++ r :: after ∧ (∀ x ∈ before, x.IsWellFormed) ∧
          r.Fails identifier before.length e := by
  refine ⟨⟨?_, ?_⟩, ?_, ?_⟩
  · rintro ⟨list, hlist⟩
    obtain ⟨_, _, rules, hread, hne, hall⟩ := isOf_of_compile hlist
    exact ⟨rules, hread, hne, isWellFormed_of_isOf hall⟩
  · rintro ⟨rules, hread, hne, hall⟩
    obtain ⟨compiled, hcompiled⟩ := exists_compileRules hall identifier 0
    rw [compile_of_decodeList? hread hne, hcompiled]
    exact ⟨_, rfl⟩
  · intro list hlist
    obtain ⟨hidentifier, hsize, rules, hread, _, hall⟩ := isOf_of_compile hlist
    exact ⟨hidentifier, hsize, ⟨rules, hread, hall⟩, sum_count list⟩
  · intro rules hread hne e
    have hsame : compile identifier encoded = .error e ↔
        compileRules identifier 0 rules = .error e := by
      rw [compile_of_decodeList? hread hne]
      cases compileRules identifier 0 rules <;> simp [Except.map]
    rw [hsame, compileRules_eq_error_iff]
    simp only [Nat.zero_add]

end CompiledList

end ContentBlocker
