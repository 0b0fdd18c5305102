import ContentBlocker.Proofs.Filter.Layout
import ContentBlocker.Proofs.Filter.Translation

/-!
# Plain lines

A line that is a pattern and nothing else, without any mark that a line may hold around its pattern
(`IsPlain`), is kept as it is and blocks what the pattern says (`convert?_of_isPlain`).

Among these are rows of wildcards, each of which makes the expression larger. Every row of two or
more is translated (`translate_stars`), but what comes out compiles only up to a length
(`compile_stars_iff`).
-/

namespace ContentBlocker

theorem Text.cut?_eq_none {mark s : List Char} {c : Char} (hmark : c ∈ mark) (hs : c ∉ s) :
    cut? mark s = none := by
  cases hcut : cut? mark s with
  | none => rfl
  | some parts =>
    obtain ⟨before, behind⟩ := parts
    have heq := eq_append_of_cut? hcut
    exact absurd (by simp [heq, hmark]) hs

/-! ### Sizes -/

/-- The size of the same expression several times in a row. -/
theorem Regex.size_seqs_replicate (r : Regex) (n : Nat) :
    (seqs (List.replicate (n + 1) r)).size = (n + 1) * r.size := by
  induction n with
  | zero => simp [seqs]
  | succ n ih =>
    have hseqs : seqs (List.replicate (n + 2) r) = .seq r (seqs (List.replicate (n + 1) r)) := rfl
    rw [hseqs, size, ih, Nat.succ_mul (n + 1), Nat.add_comm]

theorem Regex.size_seqs_le (rs : List Regex) :
    (seqs rs).size ≤ stateSize + (rs.map size).sum := by
  induction rs with
  | nil => exact Nat.le_refl stateSize
  | cons r rs ih =>
    cases rs with
    | nil =>
      rw [seqs, List.map_singleton, List.sum_singleton]
      omega
    | cons r' rs =>
      rw [seqs, size, List.map_cons, List.sum_cons]
      · omega
      · exact List.cons_ne_nil r' rs

namespace Filter

open Regex.Syntax (Flags Part)

/-! ### Plain lines -/

/-- Whether a character may stand in a plain line. -/
def isPlainChar (c : Char) : Bool :=
  Text.isAscii c && !Text.isSpace c && c ∉ ['#', '$', '@', '!', '[', '/']

/-- Whether a line is a pattern with nothing around it. -/
structure IsPlain (s : List Char) : Prop where
  ne_nil : s ≠ []
  chars : ∀ c ∈ s, isPlainChar c = true
  not_hosts : s ∉ nowhere

variable {s : List Char}

/-- The unsupported marks are found in no text without `#` and `$`. -/
theorem any_holds_eq_false (hhash : '#' ∉ s) (hdollar : '$' ∉ s) :
    unsupportedMarks.any (Text.holds · s) = false := by
  rw [List.any_eq_false]
  intro mark hmark
  have hchar : '#' ∈ mark ∨ '$' ∈ mark := by
    have hall : ∀ m ∈ unsupportedMarks, '#' ∈ m ∨ '$' ∈ m := by decide
    exact hall mark hmark
  have hnone : Text.cut? mark s = none := by
    rcases hchar with hchar | hchar
    · exact Text.cut?_eq_none hchar hhash
    · exact Text.cut?_eq_none hchar hdollar
  simp [Text.holds, hnone]

namespace IsPlain

theorem not_mem (h : IsPlain s) {c : Char} (hc : c ∈ ['#', '$', '@', '!', '[', '/']) : c ∉ s := by
  intro hmem
  have hplain := h.chars c hmem
  unfold isPlainChar at hplain
  rw [Bool.and_eq_true, decide_eq_true_eq] at hplain
  exact hplain.2 hc

theorem isSpace_eq_false (h : IsPlain s) : ∀ c ∈ s, Text.isSpace c = false := by
  intro c hc
  have hplain := h.chars c hc
  unfold isPlainChar at hplain
  simp only [Bool.and_eq_true, Bool.not_eq_true'] at hplain
  exact hplain.1.2

theorem isAscii (h : IsPlain s) : s.all Text.isAscii = true := by
  rw [List.all_eq_true]
  intro c hc
  have hplain := h.chars c hc
  unfold isPlainChar at hplain
  simp only [Bool.and_eq_true] at hplain
  exact hplain.1.1

theorem head?_ne (h : IsPlain s) {c : Char} (hc : c ∈ ['#', '$', '@', '!', '[', '/']) :
    s.head? ≠ some c :=
  fun hhead => h.not_mem hc (List.mem_of_head? hhead)

end IsPlain

/-- The rule lines of a text that is one plain line. -/
theorem ruleLines_of_isPlain (h : IsPlain s) :
    ruleLines (String.ofList s) = [String.ofList s] := by
  have hnewline : '\n' ∉ (String.ofList s).toList := by
    rw [String.toList_ofList]
    exact fun hmem => absurd (h.isSpace_eq_false '\n' hmem) (by decide)
  have hhead : (s.head? == some '[') = false := by
    simpa using h.head?_ne (c := '[') (by simp)
  have hcomment : (s.head? != some '!') = true := by
    simpa using h.head?_ne (c := '!') (by simp)
  have hrule : isRuleLine s = true := by
    simp [isRuleLine, isHeader, hhead, hcomment, h.ne_nil]
  rw [ruleLines_of_not_mem hnewline, String.toList_ofList, Text.trim_eq_self h.isSpace_eq_false,
    List.filter_cons_of_pos hrule]
  rfl

/-- A plain line is a pattern without options. -/
theorem networkRule?_of_isPlain (h : IsPlain s)
    (hany : (Pattern.parse s).urlFilter ≠ Trigger.anyUrl) (action : Action) :
    networkRule? s action =
      some { trigger := { urlFilter := (Pattern.parse s).urlFilter }, action } := by
  have htrim := Text.trim_eq_self h.isSpace_eq_false
  have hoptions : splitOptions s = (s, none) := by
    unfold splitOptions
    rw [Text.cutLast?_eq_none_iff.mpr (h.not_mem (by simp))]
  have hexpression : isExpression s = false := by
    have hhead : (s.head? == some '/') = false := by
      simpa using h.head?_ne (c := '/') (by simp)
    simp [isExpression, hhead]
  have hnone : RuleOption.parseList? [] = some [] := rfl
  simp [networkRule?, networkTrigger?, hoptions, hexpression, hnone, htrim, hany,
    RuleOption.narrowAll, RuleOption.resourceTypes]

/-- A plain line blocks what its pattern says, unless that is every request. -/
theorem convert?_of_isPlain (h : IsPlain s) (hany : (Pattern.parse s).urlFilter ≠ Trigger.anyUrl) :
    convert? s = some (.blocking,
      { trigger := { urlFilter := (Pattern.parse s).urlFilter }, action := Action.block }) := by
  have htrim := Text.trim_eq_self h.isSpace_eq_false
  have hmarks : unsupportedMarks.any (Text.holds · s) = false :=
    any_holds_eq_false (h.not_mem (by simp)) (h.not_mem (by simp))
  have hhiding : Text.cut? "##".toList s = none :=
    Text.cut?_eq_none (c := '#') (by decide) (h.not_mem (by simp))
  have hhosts : isHostsEntry s = false := by
    unfold isHostsEntry
    rw [Text.words_eq_singleton h.isSpace_eq_false h.ne_nil]
    simpa using h.not_hosts
  have hexception : "@@".toList.isPrefixOf? s = none := by
    cases hprefix : "@@".toList.isPrefixOf? s with
    | none => rfl
    | some rest =>
      have heq := Text.eq_append_of_isPrefixOf? hprefix
      exact absurd (by simp [heq]) (h.not_mem (c := '@') (by simp))
  have hkept : (s.isEmpty || !s.all Text.isAscii ||
      unsupportedMarks.any (Text.holds · s)) = false := by
    simp [h.ne_nil, h.isAscii, hmarks]
  -- what is left is the last branch
  unfold convert?
  dsimp only
  rw [htrim, hkept, hhiding]
  dsimp only
  rw [hhosts, hexception, networkRule?_of_isPlain h hany]
  rfl

/-- The rule that blocks what a pattern says. -/
def blockingRule (pattern : List Char) : Rule :=
  { trigger := { urlFilter := (Pattern.parse pattern).urlFilter }, action := Action.block }

/-- A rule that blocks what a pattern says compiles unless it is too large. -/
theorem exists_ofRule_blockingRule {pattern : List Char}
    (hsize : ((Pattern.parse pattern).regex (Flags.plain true)).size ≤ Regex.sizeLimit)
    (identifier : String) (index : Nat) :
    ∃ c, CompiledRule.ofRule identifier index (blockingRule pattern) = .ok c := by
  have hfilter : (blockingRule pattern).readFilter =
      .ok ((Pattern.parse pattern).regex (Flags.plain true)) := by
    have hcompile := Pattern.compile_urlFilter (Pattern.isProper_of_mem_parse pattern) true
    rw [if_neg (Nat.not_lt.mpr hsize)] at hcompile
    exact hcompile
  have htype : (blockingRule pattern).action.type ≠ .cssDisplayNone := ActionType.noConfusion
  have hcomplete : (blockingRule pattern).IsComplete :=
    ⟨fun hhide => absurd hhide htype, _, hfilter⟩
  exact CompiledRule.exists_ofRule ⟨hcomplete, rfl⟩ identifier index

/-! ### Rows of wildcards -/

/-- A row of wildcards. -/
def stars (n : Nat) : List Char :=
  List.replicate n '*'

theorem isPlain_stars {n : Nat} (hn : n ≠ 0) : IsPlain (stars n) := by
  have hchars : ∀ c ∈ stars n, c = '*' := fun c hc => List.eq_of_mem_replicate hc
  refine ⟨by simpa [stars] using hn, fun c hc => ?_, fun hmem => ?_⟩
  · rw [hchars c hc]
    decide
  · have hzero : ∀ address ∈ nowhere, '0' ∈ address := by decide
    exact absurd (hchars '0' (hzero _ hmem)) (by decide)

/-- The pattern of a row of wildcards is as many pieces that match any run of characters. -/
theorem parse_stars (n : Nat) :
    Pattern.parse (stars n) = ⟨.anywhere, List.replicate n .anyRun, false⟩ := by
  have hpieces : Pattern.Piece.ofChars (stars n) = List.replicate n .anyRun := by
    induction n with
    | zero => rfl
    | succ n ih => simpa [stars, List.replicate_succ, Pattern.Piece.ofChars] using ih
  have hstart : Pattern.Start.take (stars n) = (.anywhere, stars n) := by
    cases n <;> simp [stars, List.replicate_succ, Pattern.Start.take]
  have hend : Pattern.takeEnd (stars n) = (stars n, false) := by
    simp [stars, Pattern.takeEnd, List.getLast?_replicate]
  simp [Pattern.parse, hstart, hend, hpieces]

theorem urlFilter_stars_ne_anyUrl {n : Nat} (hn : 1 < n) :
    (Pattern.parse (stars n)).urlFilter ≠ Trigger.anyUrl := by
  obtain ⟨n, rfl⟩ := Nat.exists_eq_add_of_le' hn
  rw [parse_stars]
  simp [Pattern.urlFilter, Pattern.isBlank, Pattern.Start.filter, Pattern.Piece.filter,
    List.replicate_succ, Trigger.anyUrl, String.ext_iff]

/-- Every wildcard of a row makes the expression larger. -/
theorem size_stars {n : Nat} (hn : n ≠ 0) (caseless : Bool) :
    ((Pattern.parse (stars n)).regex (Flags.plain caseless)).size = n * 480 := by
  have hparts : (Pattern.parse (stars n)).parts (Flags.plain caseless) =
      List.replicate n (Pattern.Piece.anyRun.part (Flags.plain caseless)) := by
    rw [parse_stars]
    simp [Pattern.parts, Pattern.isBlank, Pattern.Start.parts, Pattern.endParts, hn]
  have hpiece :
      (Pattern.Piece.anyRun.part (Flags.plain caseless)).regex.size = 480 := rfl
  obtain ⟨n, rfl⟩ := Nat.exists_eq_succ_of_ne_zero hn
  rw [Pattern.regex, hparts, Part.sequence_regex, List.reverse_reverse, List.map_replicate,
    Regex.size_seqs_replicate, hpiece]

/-- The rule of a row of wildcards. -/
def starsRule (n : Nat) : Rule :=
  { trigger := { urlFilter := (Pattern.parse (stars n)).urlFilter }, action := Action.block }

/-- A list that is one row of wildcards is translated, however long the row is. -/
theorem translate_stars {n limit : Nat} (hn : 1 < n) (hlimit : limit ≠ 0) (optimize : Bool) :
    translate [String.ofList (stars n)] limit optimize = .ok (Rule.encodeList [starsRule n]) := by
  have hconvert := convert?_of_isPlain (isPlain_stars (by omega)) (urlFilter_stars_ne_anyUrl hn)
  have hrules : rulesOf [String.ofList (stars n)] limit optimize = [starsRule n] := by
    obtain ⟨limit, rfl⟩ := Nat.exists_eq_succ_of_ne_zero hlimit
    cases optimize <;>
      simp [rulesOf, arrange, ofKind, firsts, firstsFrom, gatherGeneric, gathered, chunks, hconvert,
        starsRule]
  exact translate_eq_ok_iff.mpr ⟨by simp [hrules], by rw [hrules]⟩

/-- What a row of wildcards is translated to compiles exactly if the row is not too large. -/
theorem compile_stars_iff {n : Nat} (hn : n ≠ 0) (identifier : String) :
    (∃ list, CompiledList.compile identifier (Rule.encodeList [starsRule n]) = .ok list) ↔
      n * 480 ≤ Regex.sizeLimit := by
  rw [CompiledList.compile_encodeList (by simp), CompiledList.compileRules]
  by_cases hlarge : Regex.sizeLimit < n * 480
  · have hfilter := Pattern.compile_urlFilter (Pattern.isProper_of_mem_parse (stars n)) true
    rw [size_stars hn, if_pos hlarge] at hfilter
    have hrule : CompiledRule.ofRule identifier 0 (starsRule n) =
        .error (.invalidFilter identifier 0 (starsRule n).trigger.urlFilter .tooLarge) := by
      simp [CompiledRule.ofRule, starsRule, Action.block, hfilter]
    rw [hrule]
    refine iff_of_false ?_ (by omega)
    rintro ⟨_, hlist⟩
    cases hlist
  · have hsize : ((Pattern.parse (stars n)).regex (Flags.plain true)).size ≤ Regex.sizeLimit := by
      rw [size_stars hn]
      omega
    obtain ⟨c, hrule⟩ := exists_ofRule_blockingRule hsize identifier 0
    change CompiledRule.ofRule identifier 0 (starsRule n) = .ok c at hrule
    rw [hrule]
    exact iff_of_true ⟨_, rfl⟩ (by omega)

end Filter

end ContentBlocker
