import ContentBlocker.Filter.Pattern
import ContentBlocker.Proofs.Regex.Reading
import ContentBlocker.Regex.Compile

/-!
# The expression of a pattern

The URL filter of a pattern is always read, and as the row of parts that its pieces stand for
(`parse?_urlFilter`): nothing that is written for one piece runs into what is written for the next.
Hence no filter is refused for its syntax (`compile_urlFilter`); one that is refused is too large.
-/

namespace ContentBlocker.Filter.Pattern

open Regex (CharSet Assertion)
open Regex.Syntax Regex.Syntax.Parser

/-- The characters that a separator stands for. -/
def separators : List Char := ['/', ':', '&', '?', '=']

/-! ### Parts -/

/-- The part that a piece is read as. -/
def Piece.part (f : Flags) : Piece → Part
  | .anyRun => { regex := .rep (.set (.compl (.char '\n'))) 0 none, depth := 1 }
  | .separator => { regex := .set (f.listed separators), depth := 2 }
  | .optionalSeparator => { regex := .rep (.set (f.listed separators)) 0 (some 1), depth := 3 }
  | .literal c => { regex := .set (f.single c) }

/-- The expression of the labels in front of a domain, and the dot behind them. -/
def labelsRegex (f : Flags) : Regex :=
  .seq (.rep (.set (.compl (f.listed [':', '/']))) 1 none) (.set (f.single '.'))

/-- The parts that the start of a pattern is read as. -/
def Start.parts (f : Flags) : Start → List Part
  | .anywhere => []
  | .url => [{ regex := .assert .textStart }]
  | .domain => [
      { regex := .assert .textStart },
      { regex := .rep (.set (.compl (f.single ':'))) 1 none, depth := 2 },
      { regex := .set (f.single ':') },
      { regex := .set (f.single '/') },
      { regex := .rep (.set (f.single '/')) 1 none, depth := 1 },
      { regex := .rep (labelsRegex f) 0 (some 1), depth := 6 }]

/-- The parts that the end of a pattern is read as. -/
def endParts (endsUrl : Bool) : List Part :=
  if endsUrl then [{ regex := .assert .textEnd }] else []

/-- The parts that a pattern is read as. A blank one is written as any run of characters. -/
def parts (f : Flags) (p : Pattern) : List Part :=
  if p.isBlank then [Piece.anyRun.part f]
  else p.start.parts f ++ p.pieces.map (Piece.part f) ++ endParts p.endsUrl

/-- The expression of a pattern. -/
def regex (f : Flags) (p : Pattern) : Regex :=
  (Part.sequence (p.parts f).reverse).regex

/-- No literal is a character that stands for something else in a pattern. -/
def Piece.isProper : Piece → Bool
  | .literal c => c ≠ '*' && c ≠ '^'
  | _ => true

/-! ### Reading the pieces -/

/-- The reader with more parts. -/
def addParts (p : Parser) (parts : List Part) : Parser :=
  { p with parts := parts.reverse ++ p.parts }

theorem addParts_addParts (p : Parser) (a b : List Part) :
    addParts (addParts p a) b = addParts p (a ++ b) := by
  simp [addParts]

theorem separatorFilter_eq : separatorFilter = '[' :: (separators ++ [']']) := by
  decide

theorem domainFilter_eq : domainFilter =
    ['^'] ++ (['[', '^', ':', ']', '+'] ++ ([':'] ++ (['/'] ++ (['/', '+'] ++
      ['(', '[', '^', ':', '/', ']', '+', '\\', '.', ')', '?'])))) := by
  decide

theorem unmarked_filter (piece : Piece) (rest : List Char) :
    Unmarked (piece.filter ++ rest) := by
  unfold Unmarked
  cases piece with
  | anyRun => simp [Piece.filter]
  | separator => simp [Piece.filter, separatorFilter_eq]
  | optionalSeparator => simp [Piece.filter, separatorFilter_eq]
  | literal c =>
    rw [Piece.filter]
    split
    · simp
    · rename_i hspecial
      rw [List.singleton_append, List.head?_cons]
      rintro hc
      obtain rfl := Option.some.inj hc
      exact hspecial (by decide)

theorem unmarked_flatMap_filter (pieces : List Piece) {rest : List Char} (hrest : Unmarked rest) :
    Unmarked (pieces.flatMap Piece.filter ++ rest) := by
  cases pieces with
  | nil => exact hrest
  | cons piece pieces =>
    rw [List.flatMap_cons, List.append_assoc]
    exact unmarked_filter piece _

variable {caseless : Bool}

section

variable {p : Parser} (hp : p.flags = Flags.plain caseless)

include hp

theorem takes_separator :
    Takes Anything p separatorFilter (p.push
      { regex := .set ((Flags.plain caseless).listed separators), depth := 2 }) := by
  rw [separatorFilter_eq]
  exact takes_listing hp [] separators { negated := false }
    ⟨(Flags.plain caseless).listed separators, 2⟩ (fun _ => rfl) (by simp [separators]) (by decide)
    rfl

/-- Whatever piece is read, what follows may be anything that does not begin with a question
mark. -/
theorem takes_piece {piece : Piece} (hproper : piece.isProper = true) :
    Takes Unmarked p piece.filter (addParts p [piece.part (Flags.plain caseless)]) := by
  cases piece with
  | anyRun =>
    exact (takes_dot hp).trans (takes_star (p := p.push _) hp rfl rfl)
      fun _ _ => trivial
  | separator => exact (takes_separator hp).mono fun _ _ => trivial
  | optionalSeparator =>
    exact (takes_separator hp).trans (takes_question (p := p.push _) hp rfl rfl)
      fun _ _ => trivial
  | literal c =>
    simp only [Piece.isProper, Bool.and_eq_true, decide_eq_true_eq] at hproper
    rw [Piece.filter]
    split
    · rename_i hspecial
      refine (takes_escaped hp ?_).mono fun _ _ => trivial
      simpa [isSpecial] using hspecial
    · rename_i hspecial
      refine (takes_literal hp fun hc => ?_).mono fun _ _ => trivial
      simp only [List.mem_cons, List.not_mem_nil, or_false] at hc
      rcases hc with rfl | rfl | rfl | rfl | rfl | rfl | rfl | rfl | rfl | rfl | rfl | rfl
      all_goals first
        | exact hspecial (by decide)
        | exact hproper.1 rfl
        | exact hproper.2 rfl

theorem takes_pieces {pieces : List Piece} (hproper : ∀ piece ∈ pieces, piece.isProper = true) :
    Takes Unmarked p (pieces.flatMap Piece.filter)
      (addParts p (pieces.map (Piece.part (Flags.plain caseless)))) := by
  induction pieces generalizing p with
  | nil => exact Takes.refl _ _
  | cons piece pieces ih =>
    have hfirst := takes_piece hp (hproper piece (by simp))
    have hothers := ih (p := addParts p [piece.part (Flags.plain caseless)]) hp
      (fun x hx => hproper x (by simp [hx]))
    rw [addParts_addParts] at hothers
    exact hfirst.trans hothers fun rest hrest => unmarked_flatMap_filter pieces hrest

/-! ### Reading the anchors -/

/-- The group of labels in front of a domain. -/
theorem takes_labels :
    Takes Unmarked p ['(', '[', '^', ':', '/', ']', '+', '\\', '.', ')', '?'] (p.push
      { regex := .rep (labelsRegex (Flags.plain caseless)) 0 (some 1), depth := 6 }) := by
  have hinner : (p.enter p.flags).flags = Flags.plain caseless := hp
  have hlabel : Takes Unmarked (p.enter p.flags) ['[', '^', ':', '/', ']', '+']
      ((p.enter p.flags).push {
        regex := .rep (.set (.compl ((Flags.plain caseless).listed [':', '/']))) 1 none
        depth := 3 }) :=
    (takes_listing hinner ['^'] [':', '/'] { negated := true }
      ⟨.compl ((Flags.plain caseless).listed [':', '/']), 2⟩ (fun _ => rfl) (by simp) (by decide)
      rfl).trans (takes_plus (p := (p.enter p.flags).push _) hinner rfl rfl) fun _ _ => trivial
  have hinside := hlabel.trans
    (takes_escaped (p := (p.enter p.flags).push _) (c := '.') hinner (by decide))
    fun _ _ => by simp [Unmarked]
  have hgroup : Takes Anything (p.enter p.flags) ['[', '^', ':', '/', ']', '+', '\\', '.', ')']
      (p.push { regex := labelsRegex (Flags.plain caseless), depth := 5 }) :=
    hinside.trans (takes_close (p := ((p.enter p.flags).push _).push _) hinner rfl)
      fun _ _ => trivial
  have hmarked := hgroup.trans (takes_question (p := p.push _) hp rfl rfl) fun _ _ => trivial
  exact (takes_open hp).trans hmarked fun _ _ => by simp [Unmarked]

theorem takes_domain :
    Takes Unmarked p domainFilter (addParts p (Start.domain.parts (Flags.plain caseless))) := by
  have hscheme : Takes Unmarked (p.push { regex := .assert .textStart })
      ['[', '^', ':', ']', '+'] (addParts p ((Start.domain.parts (Flags.plain caseless)).take 2)) :=
    (takes_listing (p := p.push _) hp ['^'] [':'] { negated := true }
      ⟨.compl ((Flags.plain caseless).single ':'), 1⟩ (fun _ => rfl) (by simp) (by decide)
      rfl).trans (takes_plus (p := (p.push _).push _) hp rfl rfl) fun _ _ => trivial
  have hslashes : Takes Unmarked (addParts p ((Start.domain.parts (Flags.plain caseless)).take 4))
      ['/', '+'] (addParts p ((Start.domain.parts (Flags.plain caseless)).take 5)) :=
    (takes_literal (p := addParts p _) (c := '/') hp (by decide)).trans
      (takes_plus (p := (addParts p _).push _) hp rfl rfl) fun _ _ => trivial
  have hcolon : Takes Anything (addParts p ((Start.domain.parts (Flags.plain caseless)).take 2))
      [':'] (addParts p ((Start.domain.parts (Flags.plain caseless)).take 3)) :=
    takes_literal (p := addParts p _) hp (by decide)
  have hslash : Takes Anything (addParts p ((Start.domain.parts (Flags.plain caseless)).take 3))
      ['/'] (addParts p ((Start.domain.parts (Flags.plain caseless)).take 4)) :=
    takes_literal (p := addParts p _) hp (by decide)
  have hlabels : Takes Unmarked (addParts p ((Start.domain.parts (Flags.plain caseless)).take 5))
      ['(', '[', '^', ':', '/', ']', '+', '\\', '.', ')', '?']
      (addParts p (Start.domain.parts (Flags.plain caseless))) :=
    takes_labels hp
  rw [domainFilter_eq]
  refine (takes_caret hp).trans ?_ fun _ _ => trivial
  refine hscheme.trans ?_ fun _ _ => by simp [Unmarked]
  refine hcolon.trans ?_ fun _ _ => trivial
  refine hslash.trans ?_ fun _ _ => trivial
  exact hslashes.trans hlabels fun _ _ => by simp [Unmarked]

theorem takes_start (start : Start) :
    Takes Unmarked p start.filter (addParts p (start.parts (Flags.plain caseless))) := by
  cases start with
  | anywhere => exact Takes.refl _ _
  | url => exact (takes_caret hp).mono fun _ _ => trivial
  | domain => exact takes_domain hp

theorem takes_end (endsUrl : Bool) :
    Takes Unmarked p (if endsUrl then ['$'] else []) (addParts p (endParts endsUrl)) := by
  cases endsUrl with
  | false => exact Takes.refl _ _
  | true => exact (takes_dollar hp).mono fun _ _ => trivial

/-! ### Reading the whole -/

theorem takes_urlFilter {pattern : Pattern}
    (hproper : ∀ piece ∈ pattern.pieces, piece.isProper = true) :
    Takes Unmarked p pattern.urlFilter.toList
      (addParts p (pattern.parts (Flags.plain caseless))) := by
  have hend : ∀ rest, Unmarked rest →
      Unmarked ((if pattern.endsUrl then ['$'] else []) ++ rest) := by
    intro rest hrest
    split
    · simp [Unmarked]
    · exact hrest
  unfold urlFilter parts
  split
  · have hproper : Piece.anyRun.isProper = true := rfl
    exact takes_piece hp hproper
  · rw [String.toList_ofList, ← addParts_addParts, ← addParts_addParts]
    have hpieces := (takes_start hp pattern.start).trans
      (takes_pieces (p := addParts p _) hp hproper)
      fun rest hrest => unmarked_flatMap_filter pattern.pieces hrest
    exact hpieces.trans (takes_end (p := addParts (addParts p _) _) hp _) hend

end

/-- The URL filter of a pattern is read as the row of its parts. -/
theorem parse?_urlFilter {pattern : Pattern}
    (hproper : ∀ piece ∈ pattern.pieces, piece.isProper = true) :
    Parser.parse? (Flags.plain caseless) pattern.urlFilter.toList =
      some (Part.sequence (pattern.parts (Flags.plain caseless)).reverse) := by
  have htakes := takes_urlFilter (p := { flags := Flags.plain caseless }) rfl hproper
  rw [parse?, htakes.run (by simp [Unmarked]) rfl]
  simp [addParts, body, Part.choice]

theorem depth_parts_le (f : Flags) (pattern : Pattern) :
    ∀ part ∈ pattern.parts f, part.depth ≤ 6 := by
  have hpiece : ∀ piece : Piece, (piece.part f).depth ≤ 6 := by
    intro piece
    cases piece <;> simp [Piece.part]
  intro part hpart
  unfold parts at hpart
  split at hpart
  · obtain rfl := List.mem_singleton.mp hpart
    exact hpiece _
  · simp only [List.mem_append, List.mem_map] at hpart
    rcases hpart with (hstart | ⟨piece, _, rfl⟩) | hend
    · revert part
      cases pattern.start <;> simp [Start.parts]
    · exact hpiece piece
    · revert part
      cases pattern.endsUrl <;> simp [endParts]

/-- The URL filter of a pattern is refused only where its expression is too large. -/
theorem compile_urlFilter {pattern : Pattern}
    (hproper : ∀ piece ∈ pattern.pieces, piece.isProper = true) (caseless : Bool) :
    Regex.compile pattern.urlFilter caseless =
      if Regex.sizeLimit < (pattern.regex (Flags.plain caseless)).size then .error .tooLarge
      else .ok (pattern.regex (Flags.plain caseless)) := by
  have hdepth : (Part.sequence (pattern.parts (Flags.plain caseless)).reverse).depth ≤ 7 :=
    Part.depth_sequence_le fun part hpart =>
      depth_parts_le _ _ part (List.mem_reverse.mp hpart)
  have hread : Parser.parse? (Flags.plain caseless) pattern.urlFilter.toList =
      some (Part.sequence (pattern.parts (Flags.plain caseless)).reverse) :=
    parse?_urlFilter hproper
  unfold Regex.compile
  rw [show ({ caseless } : Flags) = Flags.plain caseless from rfl, hread]
  dsimp only
  rw [if_neg (by unfold Regex.depthLimit; omega)]
  rfl

/-! ### Patterns that have been read -/

theorem isProper_of_mem_ofChars {s : List Char} {piece : Piece} (h : piece ∈ Piece.ofChars s) :
    piece.isProper = true := by
  fun_induction Piece.ofChars s with
  | case1 => simp at h
  | case2 =>
    obtain rfl := List.mem_singleton.mp h
    rfl
  | case3 s _ ih =>
    rcases List.mem_cons.mp h with rfl | h
    · rfl
    · exact ih h
  | case4 s ih =>
    rcases List.mem_cons.mp h with rfl | h
    · rfl
    · exact ih h
  | case5 c s hsep hrun _ ih =>
    rcases List.mem_cons.mp h with rfl | h
    · simp_all [Piece.isProper]
    · exact ih h

theorem isProper_of_mem_parse (s : List Char) :
    ∀ piece ∈ (parse s).pieces, piece.isProper = true :=
  fun _ h => isProper_of_mem_ofChars h

end ContentBlocker.Filter.Pattern
