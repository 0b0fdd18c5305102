import ContentBlocker.Proofs.Filter.Translation
import ContentBlocker.Proofs.Registry.Contract
import ContentBlocker.Proofs.Text.Offsets

/-!
# Lines cut at byte offsets

A line is cut where a search has found a mark: in front of the byte offset that the search gives,
and behind it by as many bytes as the mark is wide. Such a cut may fail in a text that is not in
ASCII alone. Here lines are read by these cuts (`convertAt`), and a translator that makes them
(`translatorAt`) crashes where one fails. None does, and every line becomes what it becomes by cuts
at characters (`convertAt_eq`). So a list builder gives the translator's own answer, a list that is
taken up as data or the one error that the translator makes (`translate_of_translatorAt`).
-/

namespace ContentBlocker.Filter

open Text (BadOffset)

/-! ### Network rules -/

/-- The trigger of a network line that has been cut into its pattern and its options. -/
def triggerOf? (s pattern : List Char) (options : Option (List Char)) : Option Trigger :=
  if isExpression s || isExpression pattern then none
  else do
    let options ← RuleOption.parseList? (options.getD [])
    let trigger := RuleOption.narrowAll options
      { urlFilter := (Pattern.parse (Text.trim pattern)).urlFilter }
    if trigger.urlFilter = Trigger.anyUrl && !trigger.isRestricted then none else some trigger

/-- The network rule of a line that is cut at the offset of its last `$`. -/
def networkRuleAt (s : List Char) (action : Action) : Except BadOffset (Option Rule) := do
  let trigger? ← match ← Text.cutFound s 1 (Text.findLast? '$' s) with
    | some (pattern, options) => pure (triggerOf? s pattern (some options))
    | none => pure (triggerOf? s s none)
  return trigger?.map fun trigger => { trigger, action }

theorem networkRuleAt_eq (s : List Char) (action : Action) :
    networkRuleAt s action = .ok (networkRule? s action) := by
  have hcut : Text.cutFound s 1 (Text.findLast? '$' s) = .ok (Text.cutLast? '$' s) :=
    Text.cutFound_findLast? '$' s
  have htrigger : networkTrigger? s = triggerOf? s (splitOptions s).1 (splitOptions s).2 := rfl
  rw [networkRuleAt, hcut, networkRule?, htrigger, splitOptions]
  cases Text.cutLast? '$' s <;> rfl

/-! ### Lines -/

/-- The rule that a line becomes, and its kind, when it is cut at the offset of its first `##`. -/
def convertAt (line : List Char) : Except BadOffset (Option (Kind × Rule)) := do
  let s := Text.trim line
  if s.isEmpty || !s.all Text.isAscii || unsupportedMarks.any (Text.holds · s) then return none
  else match ← Text.cutFound s 2 (Text.find? "##".toList s) with
    | some (domains, selector) => return (hidingRule? domains selector).map (.cosmetic, ·)
    | none =>
      if isHostsEntry s then
        match hostsDomain? s with
        | none => return none
        | some name =>
          let rule? ← networkRuleAt ("||".toList ++ name ++ ['^']) Action.block
          return rule?.map (.blocking, ·)
      else match "@@".toList.isPrefixOf? s with
        | some rest =>
          let rule? ← networkRuleAt rest Action.ignorePrevious
          return rule?.map (.exception, ·)
        | none =>
          let rule? ← networkRuleAt s Action.block
          return rule?.map (.blocking, ·)

theorem convertAt_eq (line : List Char) : convertAt line = .ok (convert? line) := by
  have hcut : Text.cutFound (Text.trim line) 2 (Text.find? "##".toList (Text.trim line)) =
      .ok (Text.cut? "##".toList (Text.trim line)) :=
    Text.cutFound_find? "##".toList (Text.trim line)
  unfold convertAt convert?
  dsimp only
  split
  · rfl
  · rw [hcut]
    cases Text.cut? "##".toList (Text.trim line) with
    | some parts => rfl
    | none =>
      dsimp only [bind, Except.bind]
      split
      · cases hostsDomain? (Text.trim line) with
        | none => rfl
        | some name =>
          dsimp only
          rw [networkRuleAt_eq, Option.bind_some]
          cases networkRule? ("||".toList ++ name ++ ['^']) Action.block <;> rfl
      · cases "@@".toList.isPrefixOf? (Text.trim line) with
        | some rest =>
          dsimp only
          rw [networkRuleAt_eq]
          rfl
        | none =>
          dsimp only
          rw [networkRuleAt_eq]
          rfl

/-! ### Lists -/

/-- The translator that reads lines by cuts at byte offsets. -/
def translatorAt : Translator := fun lines limit optimize =>
  match lines.mapM (convertAt ·.toList) with
  | .error _ => .crash
  | .ok converted =>
    match (arrange optimize (converted.filterMap id)).take limit with
    | [] => .failure (.translation (.noConvertibleRules lines.length))
    | rules => .text (Rule.encodeList rules)

theorem translatorAt_eq : translatorAt = translator := by
  funext lines limit optimize
  have hlines : lines.mapM (convertAt ·.toList) =
      (.ok (lines.map (convert? ·.toList)) : Except BadOffset _) := by
    simp only [convertAt_eq]
    exact List.mapM_pure
  have hrules : (arrange optimize ((lines.map (convert? ·.toList)).filterMap id)).take limit =
      rulesOf lines limit optimize := by
    rw [List.filterMap_map]
    rfl
  unfold translatorAt translator translate
  rw [hlines]
  dsimp only
  rw [hrules]
  cases rulesOf lines limit optimize <;> rfl

/-- A list builder gives what the translator itself gives: a list that is read as an array with an
element, or the error that none of the lines became a rule. The translator does not crash, and what
it writes is not refused. -/
theorem translate_of_translatorAt {σ : Type} (registry : Option (RegistryService σ)) (limit : Nat)
    (optimize : Bool) (lines : List String) :
    let b : ListBuilder σ := { translator := translatorAt, registry, limit, optimize }
    translatorAt = translator ∧
      ((∃ encoded, translatorAt lines limit optimize = .text encoded ∧
          b.translate lines = .ok encoded ∧ Json.IsArrayWithElement encoded) ∨
        ∃ e, translatorAt lines limit optimize = .failure e ∧ b.translate lines = .error e ∧
          e = .translation (.noConvertibleRules lines.length) ∧
          e.message =
            s!"rule translation failed: no convertible rules among {lines.length} lines") ∧
      b.translate lines ≠ .error (.translation .crashed) ∧
      b.translate lines ≠ .error (.translation .notARuleArray) := by
  intro b
  have hb : b.translator lines b.limit b.optimize = translator lines limit optimize :=
    congrFun (congrFun (congrFun translatorAt_eq lines) limit) optimize
  refine ⟨translatorAt_eq, ?_⟩
  cases hrules : rulesOf lines limit optimize with
  | nil =>
    have hanswer : translator lines limit optimize =
        .failure (.translation (.noConvertibleRules lines.length)) := by
      rw [translator, translate, hrules]
    have htranslate : b.translate lines =
        .error (.translation (.noConvertibleRules lines.length)) :=
      ListBuilder.translate_of_failure (hb.trans hanswer)
    rw [htranslate, translatorAt_eq, hanswer]
    exact ⟨.inr ⟨_, rfl, rfl, rfl, rfl⟩, by simp, by simp⟩
  | cons r rules =>
    have hne : r :: rules ≠ [] := List.cons_ne_nil r rules
    have hanswer : translator lines limit optimize = .text (Rule.encodeList (r :: rules)) := by
      rw [translator, translate, hrules]
    have harray := Rule.isRuleArray_encodeList hne
    have htranslate : b.translate lines = .ok (Rule.encodeList (r :: rules)) := by
      rw [ListBuilder.translate_of_text (hb.trans hanswer), if_pos harray]
    rw [htranslate, translatorAt_eq, hanswer]
    exact ⟨.inl ⟨_, rfl, rfl, Json.isRuleArray_iff.mp harray⟩, by simp, by simp⟩

end ContentBlocker.Filter
