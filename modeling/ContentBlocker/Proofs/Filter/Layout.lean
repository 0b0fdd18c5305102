import Mathlib.Logic.Relation
import ContentBlocker.Filter.List
import ContentBlocker.Filter.Translation
import ContentBlocker.Proofs.Text.Lines

/-!
# The layout of a list

A list is read line by line (`ruleLines_append`, `ruleLines_intercalate`), and a line is idle if it
is blank, a comment or a header, whatever white space stands around it (`isIdle_iff`). So the same
rules may be laid out in many ways: with idle lines between the others, with white space around the
lines, with carriage returns in front of the line feeds. A change of this kind (`Reformats`) keeps
the rule lines (`ruleLines_of_reformats`). No other change does: a list is brought by such changes
into the form in which its rule lines are joined by line feeds and there is nothing else
(`eqvGen_joined`), so that lists with the same rule lines differ in their layout only (`eqvGen_iff`).
-/

namespace ContentBlocker

theorem Text.holds_iff_infix {mark s : List Char} : holds mark s = true ↔ mark <:+: s := by
  constructor
  · intro h
    obtain ⟨⟨before, behind⟩, hcut⟩ := Option.isSome_iff_exists.mp h
    exact ⟨before, behind, (eq_append_of_cut? hcut).symm⟩
  · intro h
    have hprefix : ∀ t, mark <+: t → (mark.isPrefixOf? t).isSome = true := by
      intro t ht
      rw [List.isSome_isPrefixOf?_eq_isPrefixOf, List.isPrefixOf_iff_prefix]
      exact ht
    unfold holds
    fun_induction cut? mark s with
    | case1 =>
      rw [Option.isSome_map]
      exact hprefix [] (by simp [List.infix_nil.mp h])
    | case2 => rfl
    | case3 c s hnone ih =>
      rw [Option.isSome_map]
      rcases List.infix_cons_iff.mp h with hstart | hlater
      · have hsome := hprefix (c :: s) hstart
        rw [hnone] at hsome
        cases hsome
      · exact ih hlater

namespace Filter

/-! ### Idle lines -/

/-- A header stands in brackets and names Adblock, in any case. -/
theorem isHeader_iff {line : List Char} :
    isHeader line = true ↔
      ∃ title, line = '[' :: (title ++ [']']) ∧ "adblock".toList <:+: Text.lower title := by
  have hinner : ∀ title, "adblock".toList <:+: Text.lower ('[' :: (title ++ [']'])) ↔
      "adblock".toList <:+: Text.lower title := by
    intro title
    have hlower : Text.lower ('[' :: (title ++ [']'])) = '[' :: (Text.lower title ++ [']']) := by
      rw [Text.lower, List.map_cons, List.map_append]
      rfl
    have hstart : ¬"adblock".toList <+: '[' :: (Text.lower title ++ [']']) := by
      simp
    have hend : ¬"adblock".toList <:+ Text.lower title ++ [']'] := by
      rw [List.suffix_concat_iff]
      rintro (hnil | ⟨t, ht, _⟩)
      · cases hnil
      · exact absurd (congrArg List.getLast? ht) (by simp)
    rw [hlower, List.infix_cons_iff, List.infix_concat_iff, or_iff_right hstart, or_iff_right hend]
  unfold isHeader
  simp only [Bool.and_eq_true, beq_iff_eq, Text.holds_iff_infix]
  constructor
  · rintro ⟨⟨hhead, hlast⟩, hname⟩
    obtain ⟨rest, rfl⟩ := List.head?_eq_some_iff.mp hhead
    rcases List.eq_nil_or_concat rest with rfl | ⟨title, c, rfl⟩
    · exact absurd hlast (by simp)
    · rw [List.concat_eq_append] at hlast hname ⊢
      rw [← List.cons_append, List.getLast?_concat, Option.some.injEq] at hlast
      obtain rfl := hlast
      exact ⟨title, rfl, (hinner title).mp hname⟩
  · rintro ⟨title, rfl, hname⟩
    refine ⟨⟨rfl, ?_⟩, (hinner title).mpr hname⟩
    rw [← List.cons_append, List.getLast?_concat]

/-- Whether a line is no rule, whatever white space stands around it: it is blank, a comment, or a
header. -/
inductive IsIdle : List Char → Prop
  | blank {line : List Char} (h : ∀ c ∈ line, Text.isSpace c = true) : IsIdle line
  | comment {front : List Char} (hfront : ∀ c ∈ front, Text.isSpace c = true) (text : List Char) :
    IsIdle (front ++ '!' :: text)
  | header {front behind : List Char} (hfront : ∀ c ∈ front, Text.isSpace c = true)
    (hbehind : ∀ c ∈ behind, Text.isSpace c = true) {title : List Char}
    (h : "adblock".toList <:+: Text.lower title) :
    IsIdle (front ++ '[' :: (title ++ [']']) ++ behind)

theorem isRuleLine_eq_false_iff {line : List Char} :
    isRuleLine line = false ↔ line = [] ∨ line.head? = some '!' ∨ isHeader line = true := by
  simp only [isRuleLine, Bool.and_eq_false_iff, Bool.not_eq_false', List.isEmpty_iff,
    bne_eq_false_iff_eq, or_assoc]

/-- The idle lines are those that make no rule line. -/
theorem isIdle_iff {line : List Char} :
    IsIdle line ↔ isRuleLine (Text.trim line) = false := by
  constructor
  · intro h
    rw [isRuleLine_eq_false_iff]
    cases h with
    | blank h => exact .inl (Text.trim_eq_nil h)
    | comment hfront text =>
      rw [Text.trim_append_left hfront]
      exact .inr (.inl (Text.head?_trim_cons (by decide) text))
    | @header front behind hfront hbehind title h =>
      have hends : Text.trim ('[' :: (title ++ [']'])) = '[' :: (title ++ [']']) := by
        refine Text.trim_eq_self_of_ends (fun c hc => ?_) fun c hc => ?_
        · obtain rfl := Option.some.inj hc
          decide
        · rw [← List.cons_append, List.getLast?_concat] at hc
          obtain rfl := Option.some.inj hc
          decide
      rw [Text.trim_append hfront hbehind, hends]
      exact .inr (.inr (isHeader_iff.mpr ⟨title, rfl, h⟩))
  · intro h
    obtain ⟨front, behind, hfront, hbehind, heq⟩ := Text.exists_eq_append_trim line
    rcases isRuleLine_eq_false_iff.mp h with hnil | hcomment | hheader
    · refine .blank fun c hc => ?_
      rw [heq, hnil, List.append_nil, List.mem_append] at hc
      exact hc.elim (hfront c) (hbehind c)
    · obtain ⟨text, htext⟩ := List.head?_eq_some_iff.mp hcomment
      rw [heq, htext, List.append_assoc, List.cons_append]
      exact .comment hfront (text ++ behind)
    · obtain ⟨title, htitle, hname⟩ := isHeader_iff.mp hheader
      rw [heq, htitle]
      exact .header hfront hbehind hname

instance (line : List Char) : Decidable (IsIdle line) :=
  decidable_of_iff _ isIdle_iff.symm

/-! ### Line by line -/

/-- A blank line is idle anyway. -/
theorem filter_isRuleLine_nonblank (pieces : List (List Char)) :
    (Text.nonblank pieces).filter isRuleLine = (pieces.map Text.trim).filter isRuleLine := by
  have hblank : ∀ line, (isRuleLine line && !line.isEmpty) = isRuleLine line := by
    intro line
    cases line with
    | nil => rfl
    | cons c line => exact Bool.and_true _
  rw [Text.nonblank, List.filter_filter]
  simp only [hblank]

theorem ruleLines_eq_items (body : String) :
    ruleLines body = ((Text.items '\n' body.toList).filter isRuleLine).map String.ofList := by
  rw [ruleLines, Text.items, filter_isRuleLine_nonblank]

/-- The rule lines of a list are those of its lines that are not idle, trimmed. -/
theorem ruleLines_eq_lines (body : String) :
    ruleLines body =
      (((Text.lines body.toList).map Text.trim).filter isRuleLine).map String.ofList := by
  rw [ruleLines_eq_items, ← Text.nonblank_lines, filter_isRuleLine_nonblank]

theorem ruleLines_append (a b : String) :
    ruleLines (a ++ "\n" ++ b) = ruleLines a ++ ruleLines b := by
  have htext : (a ++ "\n" ++ b).toList = a.toList ++ '\n' :: b.toList := by simp
  simp only [ruleLines_eq_items, htext, Text.items_append, List.filter_append, List.map_append]

theorem ruleLines_intercalate (pieces : List String) :
    ruleLines ("\n".intercalate pieces) = pieces.flatMap ruleLines := by
  induction pieces with
  | nil => rfl
  | cons piece pieces ih =>
    cases pieces with
    | nil => rw [String.intercalate_singleton, List.flatMap_singleton]
    | cons next pieces =>
      rw [String.intercalate_cons_cons, ruleLines_append, ih]
      exact List.flatMap_cons.symm

/-- One line makes one rule line, or none if it is idle. -/
theorem ruleLines_of_not_mem {line : String} (h : '\n' ∉ line.toList) :
    ruleLines line = ([Text.trim line.toList].filter isRuleLine).map String.ofList := by
  rw [ruleLines, List.splitOn_eq_singleton h, List.map_singleton]

theorem ruleLines_of_isIdle {line : String} (h : '\n' ∉ line.toList) (hidle : IsIdle line.toList) :
    ruleLines line = [] := by
  rw [ruleLines_of_not_mem h, List.filter_cons_of_neg (by simp [isIdle_iff.mp hidle])]
  rfl

/-- A rule line that is taken for a list is its own only rule line. -/
theorem ruleLines_of_mem {body line : String} (h : line ∈ ruleLines body) :
    ruleLines line = [line] := by
  rw [ruleLines_eq_items] at h
  obtain ⟨text, htext, rfl⟩ := List.mem_map.mp h
  obtain ⟨hitem, hrule⟩ := List.mem_filter.mp htext
  have hline : '\n' ∉ (String.ofList text).toList := by
    rw [String.toList_ofList]
    exact Text.not_mem_of_mem_items hitem
  rw [ruleLines_of_not_mem hline, String.toList_ofList,
    Text.trim_eq_self_iff.mpr (Text.isTrimmed_of_mem_items hitem), List.filter_cons_of_pos hrule]
  rfl

/-- Rule lines that are joined and split again are the same. -/
theorem ruleLines_intercalate_ruleLines (body : String) :
    ruleLines ("\n".intercalate (ruleLines body)) = ruleLines body := by
  rw [ruleLines_intercalate, List.flatMap_congr fun line h => ruleLines_of_mem h]
  exact List.flatMap_singleton' _

/-! ### Changes in the layout -/

/-- One change in the layout of a list. -/
inductive Reformats : String → String → Prop
  | returns (body : String) : Reformats body (String.ofList (Text.withReturns body.toList))
  | insert (before behind : List String) {line : String} (hline : '\n' ∉ line.toList)
    (hidle : IsIdle line.toList) :
    Reformats ("\n".intercalate (before ++ behind)) ("\n".intercalate (before ++ line :: behind))
  | pad (before behind : List String) {front back : String}
    (hfront : ∀ c ∈ front.toList, Text.isSpace c = true)
    (hback : ∀ c ∈ back.toList, Text.isSpace c = true) (line : String) :
    Reformats ("\n".intercalate (before ++ line :: behind))
      ("\n".intercalate (before ++ (front ++ line ++ back) :: behind))

/-- One change in the layout keeps the rule lines. -/
theorem ruleLines_of_reformats {body body' : String} (h : Reformats body body') :
    ruleLines body' = ruleLines body := by
  cases h with
  | returns =>
    rw [ruleLines_eq_items, String.toList_ofList, Text.items_withReturns, ← ruleLines_eq_items]
  | insert before behind hline hidle =>
    rw [ruleLines_intercalate, ruleLines_intercalate, List.flatMap_append, List.flatMap_append,
      List.flatMap_cons, ruleLines_of_isIdle hline hidle, List.nil_append]
  | @pad before behind front back hfront hback line =>
    have hpad : ruleLines (front ++ line ++ back) = ruleLines line := by
      rw [ruleLines_eq_items, String.toList_append, String.toList_append,
        Text.items_pad '\n' hfront hback, ← ruleLines_eq_items]
    rw [ruleLines_intercalate, ruleLines_intercalate, List.flatMap_append, List.flatMap_append,
      List.flatMap_cons, List.flatMap_cons, hpad]

/-- A list differs from its rule lines, joined by line feeds, in its layout only. The lines in front
of the others are in that form already. -/
theorem eqvGen_joined_lines {lines : List String} (h : ∀ line ∈ lines, '\n' ∉ line.toList)
    (before : List String) :
    Relation.EqvGen Reformats ("\n".intercalate (before ++ lines))
      ("\n".intercalate (before ++ lines.flatMap ruleLines)) := by
  induction lines generalizing before with
  | nil => exact .refl _
  | cons line lines ih =>
    rw [List.forall_mem_cons] at h
    obtain ⟨hline, hlines⟩ := h
    rw [List.flatMap_cons, ruleLines_of_not_mem hline]
    by_cases hrule : isRuleLine (Text.trim line.toList) = true
    -- the white space around a rule line goes
    · obtain ⟨front, back, hfront, hback, heq⟩ := Text.exists_eq_append_trim line.toList
      have hpad : Reformats
          ("\n".intercalate (before ++ String.ofList (Text.trim line.toList) :: lines))
          ("\n".intercalate (before ++ (String.ofList front ++
            String.ofList (Text.trim line.toList) ++ String.ofList back) :: lines)) :=
        .pad before lines (by rwa [String.toList_ofList]) (by rwa [String.toList_ofList]) _
      rw [← String.ofList_append, ← String.ofList_append, ← heq, String.ofList_toList] at hpad
      have hrest := ih hlines (before ++ [String.ofList (Text.trim line.toList)])
      rw [List.append_assoc, List.append_assoc] at hrest
      rw [List.filter_cons_of_pos hrule]
      exact .trans _ _ _ (.symm _ _ (.rel _ _ hpad)) hrest
    -- an idle line goes as a whole
    · have hidle : IsIdle line.toList := isIdle_iff.mpr (Bool.not_eq_true _ ▸ hrule)
      rw [List.filter_cons_of_neg hrule]
      exact .trans _ _ _ (.symm _ _ (.rel _ _ (.insert before lines hline hidle))) (ih hlines before)

theorem eqvGen_joined (body : String) :
    Relation.EqvGen Reformats body ("\n".intercalate (ruleLines body)) := by
  have hlines : ∀ line ∈ (body.toList.splitOn '\n').map String.ofList, '\n' ∉ line.toList := by
    intro line hline
    obtain ⟨piece, hpiece, rfl⟩ := List.mem_map.mp hline
    rw [String.toList_ofList]
    exact Text.not_mem_of_mem_splitOn hpiece
  have hjoin : "\n".intercalate ((body.toList.splitOn '\n').map String.ofList) = body := by
    refine String.toList_injective ?_
    rw [String.toList_intercalate, List.map_map, String.toList_comp_ofList, List.map_id]
    exact List.intercalate_splitOn '\n'
  have h := eqvGen_joined_lines hlines []
  rw [List.nil_append, List.nil_append, ← ruleLines_intercalate, hjoin] at h
  exact h

/-- Lists differ in their layout only if they have the same rule lines, and only then. -/
theorem eqvGen_iff {body body' : String} :
    Relation.EqvGen Reformats body body' ↔ ruleLines body' = ruleLines body := by
  constructor
  · intro h
    induction h with
    | rel _ _ h => exact ruleLines_of_reformats h
    | refl _ => rfl
    | symm _ _ _ ih => exact ih.symm
    | trans _ _ _ _ _ ih ih' => exact ih'.trans ih
  · intro h
    have hbody' := eqvGen_joined body'
    rw [h] at hbody'
    exact .trans _ _ _ (eqvGen_joined body) (.symm _ _ hbody')

/-! ### Fetched lists -/

/-- What is fetched of a list hangs on its rule lines only. -/
theorem fetch_congr {get get' : String → Except Error String} {location body body' : String}
    (hbody : get location = .ok body) (hbody' : get' location = .ok body')
    (h : ruleLines body' = ruleLines body) : fetch get' location = fetch get location := by
  unfold fetch
  rw [hbody, hbody']
  simp only [bind, Except.bind, h]

/-- The rule lines of two lists with a line feed between them are those of the one, then those of the
other. Lists that differ in their layout only, and no other ones, have the same rule lines, and what
comes of fetching such lists from a location and translating them is the same, be it an encoded list
or an error. Rule lines that are joined and split again are the same. -/
theorem ruleLines_in_any_layout :
    (∀ a b : String, ruleLines (a ++ "\n" ++ b) = ruleLines a ++ ruleLines b) ∧
      (∀ body body', Relation.EqvGen Reformats body body' ↔ ruleLines body' = ruleLines body) ∧
      (∀ body body', Relation.EqvGen Reformats body body' →
        ∀ (get get' : String → Except Error String) (location : String),
          get location = .ok body → get' location = .ok body' →
            ∀ limit optimize,
              (fetch get' location >>= (translate · limit optimize)) =
                (fetch get location >>= (translate · limit optimize))) ∧
      ∀ body, ruleLines ("\n".intercalate (ruleLines body)) = ruleLines body := by
  refine ⟨ruleLines_append, fun body body' => eqvGen_iff, ?_, ruleLines_intercalate_ruleLines⟩
  intro body body' h get get' location hbody hbody' limit optimize
  rw [fetch_congr hbody hbody' (eqvGen_iff.mp h)]

/-- Two rules and nothing else. -/
def bare : String := "||ads.example.com^\n##.banner"

/-- The same rules with a header, a comment, a blank line, white space and carriage returns. -/
def adorned : String :=
  "[Adblock Plus 2.0]\r\n||ads.example.com^ \u00a0\r\n ! Title\r\n\r\n##.banner"

/-- Both are translated alike. -/
theorem ruleLines_in_any_layout_of_adorned :
    Relation.EqvGen Reformats bare adorned ∧
      ruleLines adorned = ["||ads.example.com^", "##.banner"] ∧
      (fetch (fun _ => .ok adorned) "https://lists.test/l.txt" >>= (translate · 10 false)) =
        .ok (Rule.encodeList [
          { trigger := { urlFilter := "^[^:]+://+([^:/]+\\.)?ads\\.example\\.com[/:&?=]?" }
            action := Action.block },
          { trigger := genericTrigger, action := Action.hide ".banner" }]) := by
  let header := "[Adblock Plus 2.0]"
  let rule := "||ads.example.com^"
  have hheader : Reformats ("\n".intercalate [rule, "##.banner"])
      ("\n".intercalate [header, rule, "##.banner"]) :=
    .insert [] _ (by decide) (by decide)
  have hpad : Reformats ("\n".intercalate [header, rule, "##.banner"])
      ("\n".intercalate [header, "" ++ rule ++ " \u00a0", "##.banner"]) :=
    .pad [header] _ (List.all_eq_true.mp rfl) (List.all_eq_true.mp rfl) rule
  have hblank : Reformats ("\n".intercalate [header, "" ++ rule ++ " \u00a0", "##.banner"])
      ("\n".intercalate [header, "" ++ rule ++ " \u00a0", "", "##.banner"]) :=
    .insert [header, "" ++ rule ++ " \u00a0"] _ (by decide) (by decide)
  have hcomment : Reformats
      ("\n".intercalate [header, "" ++ rule ++ " \u00a0", "", "##.banner"])
      ("\n".intercalate [header, "" ++ rule ++ " \u00a0", " ! Title", "", "##.banner"]) :=
    .insert [header, "" ++ rule ++ " \u00a0"] _ (by decide) (by decide)
  have hreturns := Reformats.returns
    ("\n".intercalate [header, "" ++ rule ++ " \u00a0", " ! Title", "", "##.banner"])
  have hbare : "\n".intercalate [rule, "##.banner"] = bare := by decide +kernel
  have hadorned : String.ofList (Text.withReturns ("\n".intercalate
      [header, "" ++ rule ++ " \u00a0", " ! Title", "", "##.banner"]).toList) = adorned := by
    decide +kernel
  rw [hbare] at hheader
  rw [hadorned] at hreturns
  have hlayout : Relation.EqvGen Reformats bare adorned :=
    .trans _ _ _ (.rel _ _ hheader) <| .trans _ _ _ (.rel _ _ hpad) <|
      .trans _ _ _ (.rel _ _ hblank) <| .trans _ _ _ (.rel _ _ hcomment) (.rel _ _ hreturns)
  have hlines : ruleLines bare = [rule, "##.banner"] := by decide +kernel
  have hrules : rulesOf [rule, "##.banner"] 10 false = [
      { trigger := { urlFilter := "^[^:]+://+([^:/]+\\.)?ads\\.example\\.com[/:&?=]?" }
        action := Action.block },
      { trigger := genericTrigger, action := Action.hide ".banner" }] := by
    decide +kernel
  obtain ⟨_, hsame, hfetch, _⟩ := ruleLines_in_any_layout
  refine ⟨hlayout, ((hsame _ _).mp hlayout).trans hlines, ?_⟩
  rw [hfetch bare adorned hlayout (fun _ => .ok bare) (fun _ => .ok adorned) _ rfl rfl]
  simp only [fetch, bind, Except.bind, hlines, translate, hrules]

end Filter

end ContentBlocker
