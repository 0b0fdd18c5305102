import ContentBlocker.Proofs.Filter.UrlFilter
import ContentBlocker.Proofs.Regex.Words
import ContentBlocker.Proofs.Unicode.CaseFold

/-!
# What a pattern means

A pattern is read here straight from its characters, without an expression and without pieces
(`Pattern.IsIn`): the anchors come off, and what stands between them is read from left to right.
The expression of a pattern is found in exactly the URLs that the pattern is in by that reading
(`isFoundIn_regex`).

The proof goes through the words that an expression covers, first for the pieces of a pattern, then
for its start; only the last step puts the two and the end together.
-/

namespace ContentBlocker.Filter.Pattern

open Regex.Syntax

/-! ### The meaning -/

/-- Whether a character of a pattern stands for a character of a URL. -/
def Same (matchCase : Bool) (a b : Char) : Prop :=
  a = b ∨ (matchCase = false ∧ Unicode.foldCode a.toNat = Unicode.foldCode b.toNat)

/-- Whether the characters between the anchors of a pattern stand for a word. -/
def StandsFor (matchCase : Bool) : List Char → List Char → Prop
  | [], word => word = []
  | ['^'], word => word = [] ∨ ∃ c ∈ separators, word = [c]
  | '^' :: s, word => ∃ c ∈ separators, ∃ rest, word = c :: rest ∧ StandsFor matchCase s rest
  | '*' :: s, word => ∃ run rest, word = run ++ rest ∧ '\n' ∉ run ∧ StandsFor matchCase s rest
  | a :: s, word => ∃ c rest, word = c :: rest ∧ Same matchCase a c ∧ StandsFor matchCase s rest

/-- Whether a text ends where a domain name or a parent of it may start: it is a scheme, a colon and
two slashes or more, with or without labels and the dot behind them. -/
def EndsBeforeDomain (s : List Char) : Prop :=
  ∃ scheme slashes labels, s = scheme ++ ':' :: slashes ++ labels ∧
    scheme ≠ [] ∧ ':' ∉ scheme ∧ 2 ≤ slashes.length ∧ (∀ c ∈ slashes, c = '/') ∧
    (labels = [] ∨ ∃ name, labels = name ++ ['.'] ∧ name ≠ [] ∧ ':' ∉ name ∧ '/' ∉ name)

/-- Whether a pattern may start to match behind a text. -/
def MayStartBehind (p before : List Char) : Prop :=
  if ['|', '|'] <+: p then EndsBeforeDomain before
  else if ['|'] <+: p then before = []
  else True

/-- A pattern without the anchor at its start. -/
def afterStart (p : List Char) : List Char :=
  if ['|', '|'] <+: p then p.drop 2 else if ['|'] <+: p then p.drop 1 else p

/-- Whether a pattern has an anchor at its end. -/
def IsTiedToEnd (p : List Char) : Prop :=
  (afterStart p).getLast? = some '|'

instance (p : List Char) : Decidable (IsTiedToEnd p) :=
  inferInstanceAs (Decidable (_ = _))

/-- A pattern without its anchors. -/
def between (p : List Char) : List Char :=
  if IsTiedToEnd p then (afterStart p).dropLast else afterStart p

/-- Whether a URL holds a word that a pattern stands for, where its anchors let it be. -/
def IsIn (matchCase : Bool) (p url : List Char) : Prop :=
  ∃ before word behind, url = before ++ word ++ behind ∧ MayStartBehind p before ∧
    StandsFor matchCase (between p) word ∧ (IsTiedToEnd p → behind = [])

/-! ### Characters -/

section Characters

variable {matchCase : Bool}

theorem Same.foldCode_eq {a b : Char} (h : Same matchCase a b) :
    Unicode.foldCode a.toNat = Unicode.foldCode b.toNat := by
  rcases h with rfl | ⟨_, h⟩
  · rfl
  · exact h

theorem contains_ofList (cs : List Char) (d : Char) :
    (Regex.CharSet.ofList cs).contains d = true ↔ d ∈ cs := by
  induction cs with
  | nil => simp [Regex.CharSet.ofList, Regex.CharSet.contains]
  | cons c cs ih =>
    have hcons : Regex.CharSet.ofList (c :: cs) = .union (.char c) (.ofList cs) := rfl
    rw [hcons, Regex.CharSet.contains, Bool.or_eq_true, ih, List.mem_cons]
    simp [Regex.CharSet.contains]

/-- The set of one character holds those that it stands for. -/
theorem contains_single (c d : Char) :
    ((Flags.plain !matchCase).single c).contains d = true ↔ Same matchCase c d := by
  unfold Same
  cases matchCase with
  | true => simp [Flags.single, Flags.plain, Flags.fold, Regex.CharSet.contains, eq_comm]
  | false =>
    have hset : (Flags.plain !false).single c = .ofList (Unicode.caseVariants c) := rfl
    rw [hset, contains_ofList, Unicode.mem_caseVariants_iff]
    constructor
    · exact fun h => .inr ⟨rfl, h.symm⟩
    · rintro (rfl | ⟨_, h⟩)
      · rfl
      · exact h.symm

theorem contains_listed (cs : List Char) (d : Char) :
    ((Flags.plain !matchCase).listed cs).contains d = true ↔ ∃ c ∈ cs, Same matchCase c d := by
  induction cs with
  | nil => simp [Flags.listed, Regex.CharSet.contains]
  | cons c cs ih =>
    rw [Flags.listed, Regex.CharSet.contains, Bool.or_eq_true, contains_single, ih]
    simp

/-- A character without another case stands for itself only. -/
theorem same_iff_eq {c d : Char} (hc : Unicode.caseVariants c = [c]) :
    Same matchCase c d ↔ c = d := by
  constructor
  · rintro (h | ⟨_, h⟩)
    · exact h
    · have hd := (Unicode.mem_caseVariants_iff c d).mpr h.symm
      rw [hc] at hd
      exact (List.mem_singleton.mp hd).symm
  · exact .inl

/-- The characters of an expression that are no characters of the pattern have no other case. -/
theorem caseVariants_of_mem {c : Char} (hc : c ∈ '.' :: separators) :
    Unicode.caseVariants c = [c] := by
  have hall : ('.' :: separators).all (fun d => Unicode.caseVariants d = [d]) = true := by
    decide +kernel
  simpa using List.all_eq_true.mp hall c hc

theorem contains_single_iff_eq {c d : Char} (hc : c ∈ '.' :: separators) :
    ((Flags.plain !matchCase).single c).contains d = true ↔ c = d := by
  rw [contains_single, same_iff_eq (caseVariants_of_mem hc)]

theorem contains_listed_iff_mem {cs : List Char} (hcs : cs ⊆ '.' :: separators) (d : Char) :
    ((Flags.plain !matchCase).listed cs).contains d = true ↔ d ∈ cs := by
  rw [contains_listed]
  constructor
  · rintro ⟨c, hc, hsame⟩
    obtain rfl := (same_iff_eq (caseVariants_of_mem (hcs hc))).mp hsame
    exact hc
  · exact fun hd => ⟨d, hd, .inl rfl⟩

end Characters

/-! ### Pieces -/

/-- The expressions of a row of parts. -/
def regexes (parts : List Part) : List Regex :=
  parts.map (·.regex)

section Pieces

variable (matchCase : Bool) (before word behind : List Char)

theorem covers_separator :
    (Piece.separator.part (Flags.plain !matchCase)).regex.Covers before word behind ↔
      ∃ c ∈ separators, word = [c] := by
  rw [Piece.part, Regex.covers_set]
  simp only [contains_listed_iff_mem (List.subset_cons_self _ _)]
  constructor
  · rintro ⟨c, hword, hc⟩
    exact ⟨c, hc, hword⟩
  · rintro ⟨c, hc, hword⟩
    exact ⟨c, hword, hc⟩

theorem covers_optionalSeparator :
    (Piece.optionalSeparator.part (Flags.plain !matchCase)).regex.Covers before word behind ↔
      word = [] ∨ ∃ c ∈ separators, word = [c] := by
  rw [← covers_separator matchCase before word behind]
  exact Regex.covers_optional before word behind _

theorem covers_anyRun :
    (Piece.anyRun.part (Flags.plain !matchCase)).regex.Covers before word behind ↔
      '\n' ∉ word := by
  rw [Piece.part, Regex.covers_rep_set]
  simp only [Regex.CharSet.contains]
  constructor
  · rintro ⟨_, _, hall⟩ hmem
    simpa using hall '\n' hmem
  · intro hnot
    refine ⟨Nat.zero_le _, by simp, fun c hc => ?_⟩
    have hne : c ≠ '\n' := fun h => hnot (h ▸ hc)
    simpa using hne

theorem covers_literal (a : Char) :
    ((Piece.literal a).part (Flags.plain !matchCase)).regex.Covers before word behind ↔
      ∃ c, word = [c] ∧ Same matchCase a c := by
  rw [Piece.part, Regex.covers_set]
  simp only [contains_single]

/-- The pieces of a text cover the words that the text stands for, wherever these are. -/
theorem covers_pieces (s : List Char) :
    (Regex.seqs (regexes ((Piece.ofChars s).map (Piece.part (Flags.plain !matchCase))))).Covers
      before word behind ↔ StandsFor matchCase s word := by
  unfold regexes
  fun_induction Piece.ofChars s generalizing before word with
  | case1 => simp [Regex.covers_seqs_nil, StandsFor]
  | case2 =>
    rw [List.map_cons, List.map_cons, List.map_nil, List.map_nil, Regex.seqs, StandsFor]
    exact covers_optionalSeparator matchCase before word behind
  | case3 s hlast ih =>
    rw [List.map_cons, List.map_cons, Regex.covers_seqs_cons, StandsFor]
    simp only [covers_separator, ih]
    constructor
    · rintro ⟨_, rest, rfl, ⟨c, hc, rfl⟩, hrest⟩
      exact ⟨c, hc, rest, rfl, hrest⟩
    · rintro ⟨c, hc, rest, rfl, hrest⟩
      exact ⟨[c], rest, rfl, ⟨c, hc, rfl⟩, hrest⟩
    · exact hlast
  | case4 s ih =>
    rw [List.map_cons, List.map_cons, Regex.covers_seqs_cons, StandsFor]
    simp only [covers_anyRun, ih]
  | case5 a s hlast hsep hrun ih =>
    rw [List.map_cons, List.map_cons, Regex.covers_seqs_cons, StandsFor]
    simp only [covers_literal, ih]
    constructor
    · rintro ⟨_, rest, rfl, ⟨c, rfl, hc⟩, hrest⟩
      exact ⟨c, rest, rfl, hc, hrest⟩
    · rintro ⟨c, rest, rfl, hc, hrest⟩
      exact ⟨[c], rest, rfl, ⟨c, rfl, hc⟩, hrest⟩
    all_goals assumption

/-! ### Anchors -/

/-- Some characters of a set, at least one. -/
theorem covers_some (chars : Regex.CharSet) :
    (Regex.rep (.set chars) 1 none).Covers before word behind ↔
      word ≠ [] ∧ ∀ c ∈ word, chars.contains c = true := by
  rw [Regex.covers_rep_set, Nat.one_le_iff_ne_zero, Ne, List.length_eq_zero_iff]
  simp

theorem covers_others {chars : Regex.CharSet} {cs : List Char}
    (hchars : ∀ c, chars.contains c = true ↔ c ∈ cs) :
    (Regex.rep (.set (.compl chars)) 1 none).Covers before word behind ↔
      word ≠ [] ∧ ∀ c ∈ cs, c ∉ word := by
  rw [covers_some, and_congr_right_iff]
  intro _
  simp only [Regex.CharSet.contains, Bool.not_eq_true', ← Bool.not_eq_true, hchars]
  exact ⟨fun h c hc hw => h c hw hc, fun h c hw hc => h c hc hw⟩

theorem covers_labels :
    (labelsRegex (Flags.plain !matchCase)).Covers before word behind ↔
      ∃ name, word = name ++ ['.'] ∧ name ≠ [] ∧ ':' ∉ name ∧ '/' ∉ name := by
  have hchars : ∀ c, ((Flags.plain !matchCase).listed [':', '/']).contains c = true ↔
      c ∈ [':', '/'] := contains_listed_iff_mem (by decide)
  rw [labelsRegex, Regex.covers_seq]
  simp only [covers_others _ _ _ hchars, Regex.covers_set,
    contains_single_iff_eq (c := '.') (by decide), List.forall_mem_cons]
  constructor
  · rintro ⟨name, _, rfl, ⟨hname, hcolon, hslash, _⟩, _, rfl, rfl⟩
    exact ⟨name, rfl, hname, hcolon, hslash⟩
  · rintro ⟨name, rfl, hname, hcolon, hslash⟩
    exact ⟨name, ['.'], rfl, ⟨hname, hcolon, hslash, by simp⟩, '.', rfl, rfl⟩

/-- The expression for a domain reaches from the start of a URL to where a domain may start. -/
theorem covers_domain :
    (Regex.seqs (regexes (Start.domain.parts (Flags.plain !matchCase)))).Covers
      before word behind ↔ before = [] ∧ EndsBeforeDomain word := by
  have hcolon : ∀ c, ((Flags.plain !matchCase).single ':').contains c = true ↔ c ∈ [':'] := by
    simp [contains_single_iff_eq (c := ':') (by decide), eq_comm]
  rw [Start.parts, regexes]
  simp only [List.map_cons, List.map_nil, Regex.covers_seqs_cons, Regex.covers_textStart,
    covers_others _ _ _ hcolon, Regex.covers_set, covers_some, Regex.covers_optional, covers_labels,
    contains_single_iff_eq (c := ':') (by decide), contains_single_iff_eq (c := '/') (by decide),
    Regex.covers_seqs_nil]
  -- part by part: the start, the scheme, the colon, a slash, more slashes, the labels
  constructor
  · rintro ⟨_, _, rfl, ⟨rfl, rfl⟩, scheme, _, rfl, ⟨hscheme, hnot⟩, _, _, rfl, ⟨_, rfl, rfl⟩,
      _, _, rfl, ⟨_, rfl, rfl⟩, slashes, _, rfl, ⟨hslashes, hall⟩, labels, _, rfl, hlabels, rfl⟩
    refine ⟨rfl, scheme, '/' :: slashes, labels, by simp, hscheme, hnot ':' (by simp), ?_, ?_,
      hlabels⟩
    · have hpos := List.length_pos_iff.mpr hslashes
      rw [List.length_cons]
      omega
    · simpa [eq_comm] using hall
  · rintro ⟨rfl, scheme, slashes, labels, rfl, hscheme, hnot, htwo, hall, hlabels⟩
    obtain ⟨slash, slashes, rfl⟩ := List.exists_cons_of_length_pos (by omega : 0 < slashes.length)
    obtain rfl : slash = '/' := hall slash (by simp)
    refine ⟨[], _, rfl, ⟨rfl, rfl⟩, scheme, ':' :: '/' :: (slashes ++ labels), by simp,
      ⟨hscheme, by simpa using hnot⟩, [':'], _, rfl, ⟨':', rfl, rfl⟩, ['/'], _, rfl,
      ⟨'/', rfl, rfl⟩, slashes, labels, rfl, ⟨?_, ?_⟩, labels, [], by simp, hlabels, rfl⟩
    · rintro rfl
      simp at htwo
    · exact fun c hc => (hall c (by simp [hc])).symm

end Pieces

/-! ### Patterns -/

/-- Where a text ties a pattern to. -/
def startOf (p : List Char) : Start :=
  if ['|', '|'] <+: p then .domain else if ['|'] <+: p then .url else .anywhere

theorem take_eq (p : List Char) : Start.take p = (startOf p, afterStart p) := by
  unfold Start.take startOf afterStart
  split
  · rename_i s
    have hdomain : ['|', '|'] <+: '|' :: '|' :: s := ⟨s, rfl⟩
    rw [if_pos hdomain, if_pos hdomain]
    rfl
  · rename_i s hdouble
    have hdomain : ¬['|', '|'] <+: '|' :: s := by
      rintro ⟨t, ht⟩
      exact hdouble t (by simpa using ht.symm)
    have hurl : ['|'] <+: '|' :: s := ⟨s, rfl⟩
    rw [if_neg hdomain, if_neg hdomain, if_pos hurl, if_pos hurl]
    rfl
  · rename_i hdouble hsingle
    have hdomain : ¬['|', '|'] <+: p := by
      rintro ⟨t, rfl⟩
      exact hdouble t rfl
    have hurl : ¬['|'] <+: p := by
      rintro ⟨t, rfl⟩
      exact hsingle t rfl
    rw [if_neg hdomain, if_neg hdomain, if_neg hurl, if_neg hurl]

/-- A text is read as a pattern by taking the anchors off. -/
theorem parse_eq (p : List Char) : parse p = {
    start := startOf p
    pieces := Piece.ofChars (between p)
    endsUrl := decide (IsTiedToEnd p) } := by
  rw [parse, take_eq]
  unfold takeEnd between IsTiedToEnd
  dsimp only
  split
  · rename_i htied
    simp [htied]
  · rename_i htied
    simp [htied]

/-- The expression for the start of a pattern reaches from some place to where it may start. -/
theorem covers_start (matchCase : Bool) (p reached behind : List Char) :
    (∃ before word, before ++ word = reached ∧
      (Regex.seqs (regexes ((startOf p).parts (Flags.plain !matchCase)))).Covers
        before word behind) ↔ MayStartBehind p reached := by
  unfold startOf MayStartBehind
  split
  · simp only [covers_domain]
    constructor
    · rintro ⟨before, word, rfl, rfl, h⟩
      exact h
    · exact fun h => ⟨[], reached, rfl, rfl, h⟩
  · split
    · simp only [Start.parts, regexes, List.map_cons, List.map_nil, Regex.covers_seqs_cons,
        Regex.covers_textStart, Regex.covers_seqs_nil]
      constructor
      · rintro ⟨before, word, rfl, _, _, rfl, ⟨rfl, rfl⟩, rfl⟩
        rfl
      · rintro rfl
        exact ⟨[], [], rfl, [], [], rfl, ⟨rfl, rfl⟩, rfl⟩
    · simp only [Start.parts, regexes, List.map_nil, Regex.covers_seqs_nil, iff_true]
      exact ⟨reached, [], List.append_nil _, rfl⟩

theorem covers_end (p before word behind : List Char) :
    (Regex.seqs (regexes (endParts (decide (IsTiedToEnd p))))).Covers before word behind ↔
      word = [] ∧ (IsTiedToEnd p → behind = []) := by
  unfold endParts
  split
  · rename_i htied
    rw [decide_eq_true_eq] at htied
    simp [regexes, Regex.seqs, Regex.covers_textEnd, htied]
  · rename_i htied
    rw [decide_eq_true_eq] at htied
    simp [regexes, Regex.covers_seqs_nil, htied]

/-- A blank pattern is in every URL. -/
theorem isIn_of_isBlank (matchCase : Bool) {p : List Char} (hblank : (parse p).isBlank = true)
    (url : List Char) : IsIn matchCase p url := by
  rw [parse_eq, isBlank] at hblank
  simp only [Bool.and_eq_true, decide_eq_true_eq, Bool.not_eq_true', decide_eq_false_iff_not,
    List.isEmpty_iff] at hblank
  obtain ⟨⟨hstart, hpieces⟩, htied⟩ := hblank
  refine ⟨[], [], url, rfl, ?_, ?_, fun h => absurd h htied⟩
  · unfold startOf at hstart
    unfold MayStartBehind
    split
    · simp_all
    · split <;> trivial
  · have h := covers_pieces matchCase [] [] url (between p)
    rw [hpieces] at h
    exact h.mp (Regex.covers_seqs_nil _ _ _ |>.mpr rfl)

/-- The expression of a pattern is found in the URLs that the pattern is in. -/
theorem isFoundIn_regex (matchCase : Bool) (p url : List Char) :
    ((parse p).regex (Flags.plain !matchCase)).isFoundIn url = true ↔ IsIn matchCase p url := by
  rw [Regex.isFoundIn_iff_covers, regex, Part.sequence_regex, List.reverse_reverse]
  by_cases hblank : (parse p).isBlank = true
  · rw [parts, if_pos hblank]
    -- a blank pattern is written as any run of characters, which the empty one is
    refine iff_of_true ⟨[], [], url, rfl, ?_⟩ (isIn_of_isBlank matchCase hblank url)
    exact (covers_anyRun matchCase [] [] url).mpr (by simp)
  · have hregexes : regexes ((parse p).parts (Flags.plain !matchCase)) =
        regexes ((startOf p).parts (Flags.plain !matchCase)) ++
          (regexes ((Piece.ofChars (between p)).map (Piece.part (Flags.plain !matchCase))) ++
            regexes (endParts (decide (IsTiedToEnd p)))) := by
      rw [parts, if_neg hblank, parse_eq]
      simp [regexes]
    show (∃ before word behind, url = before ++ word ++ behind ∧
      (Regex.seqs (regexes ((parse p).parts (Flags.plain !matchCase)))).Covers
        before word behind) ↔ _
    rw [hregexes]
    -- the start, the pieces and the end each cover a word of their own
    simp only [Regex.covers_seqs_append, covers_pieces, covers_end]
    constructor
    · rintro ⟨before, _, behind, rfl, first, _, rfl, hfirst, word, _, rfl, hword, rfl, hend⟩
      refine ⟨before ++ first, word, behind, by simp, ?_, hword, hend⟩
      exact (covers_start matchCase p _ _).mp ⟨before, first, rfl, hfirst⟩
    · rintro ⟨reached, word, behind, rfl, hstart, hword, hend⟩
      obtain ⟨before, first, rfl, hfirst⟩ :=
        (covers_start matchCase p reached (word ++ behind)).mpr hstart
      exact ⟨before, first ++ word, behind, by simp, first, word, rfl, hfirst, word, [], by simp,
        hword, rfl, hend⟩

/-- The URL filter of a pattern is accepted, unless it is too large, and says what the pattern says:
it is found in exactly the URLs that the pattern is in. -/
theorem urlFilter_says_pattern (p : String) (matchCase : Bool) :
    ∃ part, Parser.parse? { caseless := !matchCase } (parse p.toList).urlFilter.toList = some part ∧
      Regex.compile (parse p.toList).urlFilter (!matchCase) =
        (if Regex.sizeLimit < part.regex.size then .error .tooLarge else .ok part.regex) ∧
      ∀ url : String,
        part.regex.isFoundIn url.toList = true ↔ IsIn matchCase p.toList url.toList := by
  have hproper := isProper_of_mem_parse p.toList
  refine ⟨_, parse?_urlFilter hproper, compile_urlFilter hproper _, fun url => ?_⟩
  exact isFoundIn_regex matchCase p.toList url.toList

end ContentBlocker.Filter.Pattern
