import ContentBlocker.Proofs.Filter.Tidying

/-!
# The order and the length of a list

What the translator writes depends on three sequences of lines: those that become blocking rules,
those that become hiding rules, and those that become exceptions. How the three are mixed, and what
stands between them that becomes no rule, is not seen (`arrange_congr`).

The rules come in three runs, one for each kind (`exists_areKinds_rulesOf`), so an exception stands
behind every rule that it is to take back. A limit cuts the list and changes nothing before the cut
(`rulesOf_of_le`). As tidying leaves some rule if there is one, there is a list exactly when the
limit lets one rule pass and some line becomes one (`rulesOf_ne_nil_iff`).
-/

namespace ContentBlocker.Filter

variable {lines lines' : List String} {limit : Nat} {optimize : Bool}

/-! ### Lines of one kind -/

/-- Whether a line becomes a rule of a kind. -/
def isOfKind (kind : Kind) (line : String) : Bool :=
  (convert? line.toList).any (·.1 = kind)

/-- The rules of a kind come from the lines of that kind. -/
theorem ofKind_filterMap (kind : Kind) (lines : List String) :
    ofKind kind (lines.filterMap (convert? ·.toList)) =
      (lines.filter (isOfKind kind)).filterMap fun line => (convert? line.toList).map (·.2) := by
  unfold ofKind
  rw [List.filter_filterMap, List.map_filterMap, List.filterMap_filter]
  refine List.filterMap_congr fun line _ => ?_
  unfold isOfKind
  cases convert? line.toList with
  | none => rfl
  | some converted =>
    obtain ⟨other, r⟩ := converted
    by_cases h : other = kind <;> simp [h]

/-- How lines of different kinds are mixed does not matter. -/
theorem arrange_congr (h : ∀ kind, lines.filter (isOfKind kind) = lines'.filter (isOfKind kind))
    (optimize : Bool) :
    arrange optimize (lines.filterMap (convert? ·.toList)) =
      arrange optimize (lines'.filterMap (convert? ·.toList)) := by
  have hkind : ∀ kind, ofKind kind (lines.filterMap (convert? ·.toList)) =
      ofKind kind (lines'.filterMap (convert? ·.toList)) := by
    intro kind
    rw [ofKind_filterMap, ofKind_filterMap, h]
  unfold arrange
  rw [hkind .blocking, hkind .cosmetic, hkind .exception]

/-! ### Three runs of rules -/

theorem exists_areKinds_arrange (lines : List String) (optimize : Bool) :
    ∃ blocking cosmetic exceptions, AreKinds blocking cosmetic exceptions ∧
      arrange optimize (lines.filterMap (convert? ·.toList)) =
        blocking ++ cosmetic ++ exceptions := by
  have hkinds := areKinds_ofKind lines
  cases optimize with
  | false => exact ⟨_, _, _, hkinds, rfl⟩
  | true => exact ⟨_, _, _, hkinds.tidied, rfl⟩

/-- The rules of a list come in three runs: blocking rules, hiding rules, exceptions. -/
theorem exists_areKinds_rulesOf (lines : List String) (limit : Nat) (optimize : Bool) :
    ∃ blocking cosmetic exceptions, AreKinds blocking cosmetic exceptions ∧
      rulesOf lines limit optimize = blocking ++ cosmetic ++ exceptions := by
  obtain ⟨blocking, cosmetic, exceptions, hkinds, harrange⟩ :=
    exists_areKinds_arrange lines optimize
  unfold rulesOf
  rw [harrange, List.take_append, List.take_append]
  exact ⟨_, _, _, hkinds.mono (List.take_subset _ _) (List.take_subset _ _) (List.take_subset _ _),
    rfl⟩

/-! ### Limits -/

/-- The rules within a limit are the first ones of those within a larger limit. -/
theorem rulesOf_of_le {m n : Nat} (h : m ≤ n) (lines : List String) (optimize : Bool) :
    rulesOf lines m optimize =
      (rulesOf lines n optimize).take (min m (rulesOf lines n optimize).length) := by
  have htake : rulesOf lines m optimize = (rulesOf lines n optimize).take m := by
    unfold rulesOf
    rw [List.take_take, Nat.min_eq_left h]
  rw [htake, List.take_eq_take_iff]
  omega

theorem arrange_eq_nil_iff :
    arrange optimize (lines.filterMap (convert? ·.toList)) = [] ↔
      lines.filterMap (convert? ·.toList) = [] := by
  have hplain : arrange false (lines.filterMap (convert? ·.toList)) = [] ↔
      lines.filterMap (convert? ·.toList) = [] := by
    have hlength := length_ofKind (lines.filterMap (convert? ·.toList))
    show (_ ++ _ ++ _ : List Rule) = [] ↔ _
    rw [← List.length_eq_zero_iff, ← List.length_eq_zero_iff, List.length_append,
      List.length_append, hlength]
  cases optimize with
  | false => exact hplain
  | true => exact (areKinds_ofKind lines).isTidied.eq_nil_iff.trans hplain

/-- There are rules if the limit lets one pass and some line becomes a rule. -/
theorem rulesOf_ne_nil_iff :
    rulesOf lines limit optimize ≠ [] ↔
      1 ≤ limit ∧ ∃ line ∈ lines, ∃ converted, convert? line.toList = some converted := by
  have hlines : lines.filterMap (convert? ·.toList) = [] ↔
      ¬∃ line ∈ lines, ∃ converted, convert? line.toList = some converted := by
    rw [List.filterMap_eq_nil_iff]
    simp [Option.eq_none_iff_forall_ne_some]
  unfold rulesOf
  rw [Ne, List.take_eq_nil_iff, arrange_eq_nil_iff, hlines, not_or, not_not]
  exact and_congr_left fun _ => Nat.one_le_iff_ne_zero.symm

/-! ### Translated lists -/

/-- What is written depends only on the lines of each kind, in their order: lists with the same
lines of each kind are written alike, or neither can be written. What is read back are blocking
rules, then hiding rules, then exceptions; with a smaller limit, the first ones of these. A list can
be written exactly when the limit is at least one and some line becomes a rule. -/
theorem translate_by_kinds (lines : List String) (limit : Nat) (optimize : Bool) :
    (∀ lines', (∀ kind, lines.filter (isOfKind kind) = lines'.filter (isOfKind kind)) →
      (translate lines limit optimize = .error (.translation (.noConvertibleRules lines.length)) ∧
        translate lines' limit optimize =
          .error (.translation (.noConvertibleRules lines'.length))) ∨
      ∃ encoded, translate lines limit optimize = .ok encoded ∧
        translate lines' limit optimize = .ok encoded) ∧
    (∀ encoded, translate lines limit optimize = .ok encoded →
      ∃ blocking cosmetic exceptions,
        Rule.decodeList? encoded = some (blocking ++ cosmetic ++ exceptions) ∧
        (∀ r ∈ blocking, r.action.type = .block) ∧
        (∀ r ∈ cosmetic, r.action.type = .cssDisplayNone) ∧
        ∀ r ∈ exceptions, r.action.type = .ignorePreviousRules) ∧
    (∀ m encoded, 1 ≤ m → m ≤ limit → translate lines limit optimize = .ok encoded →
      ∃ rules encoded', Rule.decodeList? encoded = some rules ∧
        translate lines m optimize = .ok encoded' ∧
        Rule.decodeList? encoded' = some (rules.take (min m rules.length))) ∧
    ((∃ encoded, translate lines limit optimize = .ok encoded) ↔
      1 ≤ limit ∧ ∃ line ∈ lines, ∃ converted, convert? line.toList = some converted) := by
  refine ⟨fun lines' h => ?_, fun encoded htranslate => ?_, fun m encoded hm hle htranslate => ?_,
    ?_⟩
  · have hrules : rulesOf lines limit optimize = rulesOf lines' limit optimize := by
      unfold rulesOf
      rw [arrange_congr h]
    unfold translate
    rw [← hrules]
    cases rulesOf lines limit optimize with
    | nil => exact .inl ⟨rfl, rfl⟩
    | cons r rules => exact .inr ⟨_, rfl, rfl⟩
  · obtain ⟨_, rfl⟩ := translate_eq_ok_iff.mp htranslate
    obtain ⟨blocking, cosmetic, exceptions, hkinds, hrules⟩ :=
      exists_areKinds_rulesOf lines limit optimize
    refine ⟨blocking, cosmetic, exceptions, ?_, hkinds.blocks, hkinds.hides, hkinds.ignores⟩
    rw [Rule.decodeList?_encodeList, hrules]
  · obtain ⟨hne, rfl⟩ := translate_eq_ok_iff.mp htranslate
    have hsome := (rulesOf_ne_nil_iff.mp hne).2
    refine ⟨_, _, Rule.decodeList?_encodeList _,
      translate_eq_ok_iff.mpr ⟨rulesOf_ne_nil_iff.mpr ⟨hm, hsome⟩, rfl⟩, ?_⟩
    rw [Rule.decodeList?_encodeList, rulesOf_of_le hle]
  · rw [← @rulesOf_ne_nil_iff lines limit optimize]
    simp only [translate_eq_ok_iff, exists_and_left, exists_eq, and_true]

/-- Lines of all kinds, and some that become no rule. -/
def mixed : List String :=
  ["@@||good.com^", "x.com##.promo", "", "||bad.com^", "x.com#@#.promo", "##.ad", "0.0.0.0 bad.net"]

/-- The lines that become rules, kind by kind. -/
def unmixed : List String :=
  ["||bad.com^", "0.0.0.0 bad.net", "x.com##.promo", "##.ad", "@@||good.com^"]

/-- Both are written as the same five rules. With room for four, the exception is cut off. -/
theorem translate_by_kinds_of_mixed :
    (∀ kind, mixed.filter (isOfKind kind) = unmixed.filter (isOfKind kind)) ∧
      ∃ encoded rules encoded', translate mixed 5 false = .ok encoded ∧
        translate unmixed 5 false = .ok encoded ∧ Rule.decodeList? encoded = some rules ∧
        rules.map (·.action.type) =
          [.block, .block, .cssDisplayNone, .cssDisplayNone, .ignorePreviousRules] ∧
        translate mixed 4 false = .ok encoded' ∧
        Rule.decodeList? encoded' = some (rules.take 4) := by
  have hkinds : ∀ kind, mixed.filter (isOfKind kind) = unmixed.filter (isOfKind kind) := by
    intro kind
    cases kind <;> decide +kernel
  have htypes : (rulesOf mixed 5 false).map (·.action.type) =
      [.block, .block, .cssDisplayNone, .cssDisplayNone, .ignorePreviousRules] := by
    decide +kernel
  have hlength : (rulesOf mixed 5 false).length = 5 := by
    rw [← List.length_map, htypes]
    rfl
  obtain ⟨halike, _, hlimits, hwritten⟩ := translate_by_kinds mixed 5 false
  obtain ⟨encoded, hencoded⟩ := hwritten.mpr ⟨by decide, "##.ad", by decide, _, rfl⟩
  obtain ⟨rules, encoded', hrules, hencoded', hfirst⟩ :=
    hlimits 4 encoded (by decide) (by decide) hencoded
  have heq : rules = rulesOf mixed 5 false := by
    obtain ⟨_, rfl⟩ := translate_eq_ok_iff.mp hencoded
    rw [Rule.decodeList?_encodeList] at hrules
    exact (Option.some.inj hrules).symm
  rw [heq, hlength, ← heq] at hfirst
  rw [← heq] at htypes
  refine ⟨hkinds, encoded, rules, encoded', hencoded, ?_, hrules, htypes, hencoded', hfirst⟩
  rcases halike unmixed hkinds with ⟨herror, _⟩ | ⟨other, hother, hsame⟩
  · rw [hencoded] at herror
    cases herror
  · rw [hencoded] at hother
    rwa [← Except.ok.inj hother] at hsame

end ContentBlocker.Filter
