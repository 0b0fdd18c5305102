import ContentBlocker.Proofs.Filter.Lines
import ContentBlocker.Proofs.Text.Trimming

/-!
# Patterns written as expressions

A pattern between two slashes is a regular expression, which no rule can say. Its line is to make no
rule. But the slashes are looked for at the ends of the pattern as it stands in the line, and the
filter is written from the pattern without the white space around it. So a line with such a pattern
makes a rule exactly if white space stands around the pattern (`makesRule_of_slashes_iff`), that is,
in front of the options or behind the mark of an exception: the rule of `/ads/ $script` blocks the
addresses that hold the text `/ads/` (`blank_behind_expression_makes_rule`).
-/

namespace ContentBlocker.Filter

/-! ### Slashes -/

/-- Whether a text stands between two slashes. -/
def IsBetweenSlashes (s : List Char) : Prop :=
  ∃ body, s = '/' :: (body ++ ['/'])

theorem isExpression_iff {s : List Char} : isExpression s = true ↔ IsBetweenSlashes s := by
  unfold isExpression IsBetweenSlashes
  simp only [Bool.and_eq_true, decide_eq_true_eq, beq_iff_eq]
  constructor
  · rintro ⟨⟨hlength, hhead⟩, hlast⟩
    obtain ⟨rest, rfl⟩ := List.head?_eq_some_iff.mp hhead
    rcases List.eq_nil_or_concat rest with rfl | ⟨body, c, rfl⟩
    · exact absurd hlength (by simp)
    · rw [List.concat_eq_append] at hlast ⊢
      rw [← List.cons_append, List.getLast?_concat, Option.some.injEq] at hlast
      exact ⟨body, by rw [hlast]⟩
  · rintro ⟨body, rfl⟩
    refine ⟨⟨by simp, rfl⟩, ?_⟩
    rw [← List.cons_append, List.getLast?_concat]

theorem isExpression_eq_false_iff {s : List Char} :
    isExpression s = false ↔ ¬IsBetweenSlashes s := by
  rw [← isExpression_iff, Bool.not_eq_true]

/-- The filter of such a pattern starts with its first slash, so that it is not the one for every
URL. -/
theorem urlFilter_ne_anyUrl_of_slashes {s : List Char} (h : IsBetweenSlashes s) :
    (Pattern.parse s).urlFilter ≠ Trigger.anyUrl := by
  obtain ⟨body, rfl⟩ := h
  have hstart : Pattern.Start.take ('/' :: (body ++ ['/'])) = (.anywhere, '/' :: (body ++ ['/'])) :=
    rfl
  have hend : Pattern.takeEnd ('/' :: (body ++ ['/'])) = ('/' :: (body ++ ['/']), false) := by
    rw [Pattern.takeEnd, ← List.cons_append, List.getLast?_concat, if_neg (by decide)]
  have hparse : Pattern.parse ('/' :: (body ++ ['/'])) =
      ⟨.anywhere, .literal '/' :: Pattern.Piece.ofChars (body ++ ['/']), false⟩ := by
    simp [Pattern.parse, hstart, hend, Pattern.Piece.ofChars]
  intro hany
  have hhead := congrArg (fun t : String => t.toList.head?) hany
  rw [hparse] at hhead
  simp [Pattern.urlFilter, Pattern.isBlank, Pattern.Start.filter, Pattern.Piece.filter,
    Pattern.isSpecial, Trigger.anyUrl] at hhead

/-! ### Network rules -/

/-- What makes a network rule out of a text: no slashes around it nor around its pattern, options
that are all supported, and something that not every URL has. -/
theorem networkRule?_isSome_iff {text : List Char} {action : Action} :
    (networkRule? text action).isSome = true ↔
      ¬IsBetweenSlashes text ∧ ¬IsBetweenSlashes (splitOptions text).1 ∧
        ∃ options, RuleOption.parseList? ((splitOptions text).2.getD []) = some options ∧
          ¬((Pattern.parse (Text.trim (splitOptions text).1)).urlFilter = Trigger.anyUrl ∧
            (RuleOption.narrowAll options { urlFilter := Trigger.anyUrl }).isRestricted = false) := by
  rw [networkRule?, Option.isSome_map, ← isExpression_eq_false_iff, ← isExpression_eq_false_iff]
  unfold networkTrigger?
  dsimp only
  split
  · rename_i hexpression
    rw [Bool.or_eq_true] at hexpression
    refine iff_of_false (by simp) ?_
    rintro ⟨htext, hpattern, _⟩
    rcases hexpression with h | h
    · exact Bool.eq_false_iff.mp htext h
    · exact Bool.eq_false_iff.mp hpattern h
  · rename_i hexpression
    rw [Bool.not_eq_true, Bool.or_eq_false_iff] at hexpression
    rw [and_iff_right hexpression.1, and_iff_right hexpression.2]
    cases hoptions : RuleOption.parseList? ((splitOptions text).2.getD []) with
    | none => simp
    | some options =>
      have hfilter := (RuleOption.narrowAll_spec options
        { urlFilter := (Pattern.parse (Text.trim (splitOptions text).1)).urlFilter }).1
      simp only [Option.bind_eq_bind, Option.bind_some, hfilter, Option.some.injEq,
        exists_eq_left']
      by_cases hany : (Pattern.parse (Text.trim (splitOptions text).1)).urlFilter = Trigger.anyUrl
      · rw [hany]
        simp
      · simp [hany]

/-! ### Lines -/

/-- Whether a line may become a rule: it is not blank, in ASCII, and without the marks of what no
rule can say. -/
structure IsReadable (line : List Char) : Prop where
  ne_nil : Text.trim line ≠ []
  isAscii : ∀ c ∈ Text.trim line, Text.isAscii c = true
  unmarked : ∀ mark ∈ unsupportedMarks, Text.holds mark (Text.trim line) = false

theorem isReadable_iff {line : List Char} :
    ((Text.trim line).isEmpty || !(Text.trim line).all Text.isAscii ||
        unsupportedMarks.any (Text.holds · (Text.trim line))) = false ↔ IsReadable line := by
  simp only [Bool.or_eq_false_iff, List.isEmpty_eq_false_iff, Bool.not_eq_false', List.all_eq_true,
    List.any_eq_false, Bool.not_eq_true]
  exact ⟨fun ⟨⟨h₁, h₂⟩, h₃⟩ => ⟨h₁, h₂, h₃⟩, fun ⟨h₁, h₂, h₃⟩ => ⟨⟨h₁, h₂⟩, h₃⟩⟩

theorem isReadable_of_convert? {line : List Char} {kind : Kind} {r : Rule}
    (h : convert? line = some (kind, r)) : IsReadable line := by
  rw [← isReadable_iff, ← Bool.not_eq_true]
  intro hunreadable
  unfold convert? at h
  dsimp only at h
  rw [if_pos hunreadable] at h
  cases h

/-- A readable line that is read as a network rule becomes the rule of its text. -/
theorem convert?_of_networkText? {line text : List Char} (hline : IsReadable line)
    (htext : networkText? line = some text) :
    ∃ kind action, kind.networkAction? = some action ∧
      convert? line = (networkRule? text action).map (kind, ·) := by
  unfold networkText? at htext
  unfold convert?
  dsimp only at htext ⊢
  rw [if_neg (by rw [isReadable_iff.mpr hline]; exact Bool.false_ne_true)]
  cases hcut : Text.cut? "##".toList (Text.trim line) with
  | some parts =>
    rw [hcut, if_pos (Option.isSome_some ..)] at htext
    cases htext
  | none =>
    rw [hcut, if_neg (by simp)] at htext
    dsimp only
    split at htext
    -- an entry of a hosts file
    · rename_i hhosts
      obtain ⟨name, hname, rfl⟩ := Option.map_eq_some_iff.mp htext
      rw [if_pos hhosts, hname]
      refine ⟨.blocking, Action.block, rfl, ?_⟩
      rw [Option.bind_eq_bind, Option.bind_some]
      cases networkRule? ("||".toList ++ name ++ ['^']) Action.block <;> rfl
    · rename_i hhosts
      obtain rfl := Option.some.inj htext
      rw [if_neg hhosts]
      cases "@@".toList.isPrefixOf? (Text.trim line) with
      | some rest => exact ⟨.exception, Action.ignorePrevious, rfl, rfl⟩
      | none => exact ⟨.blocking, Action.block, rfl, rfl⟩

/-- A line whose pattern stands between slashes makes a rule exactly if white space stands around
the pattern, apart from what keeps any line from making one. The rule takes the pattern by the
letter. -/
theorem makesRule_of_slashes_iff {line text : List Char} (htext : networkText? line = some text)
    (hslashes : IsBetweenSlashes (Text.trim (splitOptions text).1)) :
    (∃ kind r, convert? line = some (kind, r) ∧
        r.trigger.urlFilter = (Pattern.parse (Text.trim (splitOptions text).1)).urlFilter) ↔
      ¬Text.IsTrimmed (splitOptions text).1 ∧ IsReadable line ∧ ¬IsBetweenSlashes text ∧
        ∃ options, RuleOption.parseList? ((splitOptions text).2.getD []) = some options := by
  constructor
  · rintro ⟨kind, r, hconvert, _⟩
    have hread := isReadable_of_convert? hconvert
    obtain ⟨kind', action, _, heq⟩ := convert?_of_networkText? hread htext
    rw [hconvert] at heq
    obtain ⟨r', hr, _⟩ := Option.map_eq_some_iff.mp heq.symm
    obtain ⟨hwhole, hpattern, options, hoptions, _⟩ :=
      networkRule?_isSome_iff.mp (Option.isSome_of_eq_some hr)
    refine ⟨fun htrimmed => hpattern ?_, hread, hwhole, options, hoptions⟩
    rwa [Text.trim_eq_self_iff.mpr htrimmed] at hslashes
  · rintro ⟨hblank, hread, hwhole, options, hoptions⟩
    obtain ⟨kind, action, _, heq⟩ := convert?_of_networkText? hread htext
    -- slashes at the ends of a text leave no room for white space there
    have hpattern : ¬IsBetweenSlashes (splitOptions text).1 := by
      rintro ⟨body, hbody⟩
      refine hblank ⟨fun c hc => ?_, fun c hc => ?_⟩
      · rw [hbody, List.head?_cons, Option.some.injEq] at hc
        exact hc ▸ rfl
      · rw [hbody, ← List.cons_append, List.getLast?_concat, Option.some.injEq] at hc
        exact hc ▸ rfl
    have hsome : (networkRule? text action).isSome = true :=
      networkRule?_isSome_iff.mpr ⟨hwhole, hpattern, options, hoptions,
        fun h => urlFilter_ne_anyUrl_of_slashes hslashes h.1⟩
    obtain ⟨r, hr⟩ := Option.isSome_iff_exists.mp hsome
    refine ⟨kind, r, by rw [heq, hr]; rfl, (networkRule?_spec hr).2.1⟩

/-- White space behind the mark of an exception hides the slashes, white space between them does
not. -/
theorem makesRule_of_slashes_iff_exception :
    networkText? "@@ /ads/".toList = some " /ads/".toList ∧
      (∃ kind r, convert? "@@ /ads/".toList = some (kind, r) ∧
        r.trigger.urlFilter = (Pattern.parse "/ads/".toList).urlFilter) ∧
      networkText? "@@/a s/$script".toList = some "/a s/$script".toList ∧
      ¬∃ kind r, convert? "@@/a s/$script".toList = some (kind, r) ∧
        r.trigger.urlFilter = (Pattern.parse "/a s/".toList).urlFilter := by
  have hblank : networkText? "@@ /ads/".toList = some " /ads/".toList := by decide
  have hwithin : networkText? "@@/a s/$script".toList = some "/a s/$script".toList := by decide
  refine ⟨hblank, ?_, hwithin, ?_⟩
  · refine (makesRule_of_slashes_iff hblank ⟨"ads".toList, by decide⟩).mpr
      ⟨by decide, isReadable_iff.mp (by decide), ?_, [], by decide⟩
    rw [← isExpression_eq_false_iff]
    decide
  · intro hrule
    exact ((makesRule_of_slashes_iff hwithin ⟨"a s".toList, by decide⟩).mp hrule).1 (by decide)

/-- A blank in front of the options turns a line that is to make no rule into one that blocks what
its pattern says by the letter. -/
theorem blank_behind_expression_makes_rule :
    linePattern? "/ads/ $script".toList = some "/ads/".toList ∧
      IsBetweenSlashes "/ads/".toList ∧
      convert? "/ads/ $script".toList = some (.blocking,
        { trigger := { urlFilter := "/ads/", resourceTypes := some [.script] }
          action := Action.block }) :=
  ⟨by decide, ⟨"ads".toList, by decide⟩, by decide⟩

end ContentBlocker.Filter
