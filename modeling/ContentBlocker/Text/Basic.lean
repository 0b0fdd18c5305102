/-!
# Text

The few operations on text that filter lists and identifiers need, on lists of characters:
trimming, splitting into words, looking for the first or the last occurrence of a mark.

White space is the Unicode property White_Space, not the ASCII blanks alone, so a no-break space at
the end of a line is trimmed and one inside an identifier is dropped; a zero width space or a byte
order mark is an ordinary character.
-/

namespace ContentBlocker.Text

/-! ### White space -/

/-- The characters with the Unicode property White_Space. -/
def isSpace (c : Char) : Bool :=
  let n := c.toNat
  (9 ≤ n && n ≤ 13) || n == 0x20 || n == 0x85 || n == 0xA0 || n == 0x1680
    || (0x2000 ≤ n && n ≤ 0x200A) || n == 0x2028 || n == 0x2029 || n == 0x202F || n == 0x205F
    || n == 0x3000

/-- Core's white space is part of it. -/
theorem isSpace_of_isWhitespace {c : Char} (h : c.isWhitespace = true) : isSpace c = true := by
  simp only [Char.isWhitespace, Bool.or_eq_true, decide_eq_true_eq] at h
  rcases h with ((h | h) | h) | h <;> subst h <;> decide

/-- The text without white space at its start. -/
def trimStart (s : List Char) : List Char :=
  s.dropWhile isSpace

/-- The text without white space at its end. -/
def trimEnd (s : List Char) : List Char :=
  (s.reverse.dropWhile isSpace).reverse

/-- The text without white space at either end. -/
def trim (s : List Char) : List Char :=
  trimEnd (trimStart s)

/-- The runs of characters that are not white space, in order. -/
def words (s : List Char) : List (List Char) :=
  (s.splitOnP isSpace).filter (!·.isEmpty)

/-- The text with all its white space left out. -/
def dropSpaces (s : List Char) : List Char :=
  s.filter (!isSpace ·)

/-! ### ASCII -/

/-- Whether a character is one of the 128 of ASCII. -/
def isAscii (c : Char) : Bool :=
  c.toNat < 128

/-- The text with the letters `A` to `Z` in lower case and every other character kept. -/
def lower (s : List Char) : List Char :=
  s.map Char.toLower

/-! ### Looking for marks -/

/-- What stands before and behind the first occurrence of a mark. -/
def cut? (mark : List Char) : List Char → Option (List Char × List Char)
  | [] => (mark.isPrefixOf? []).map ([], ·)
  | c :: s =>
    match mark.isPrefixOf? (c :: s) with
    | some rest => some ([], rest)
    | none => (cut? mark s).map fun (before, behind) => (c :: before, behind)

/-- Whether a mark occurs in the text. -/
def holds (mark s : List Char) : Bool :=
  (cut? mark s).isSome

/-- What stands before and behind the last occurrence of a character. -/
def cutLast? (mark : Char) : List Char → Option (List Char × List Char)
  | [] => none
  | c :: s =>
    match cutLast? mark s with
    | some (before, behind) => some (c :: before, behind)
    | none => if c = mark then some ([], s) else none

/-! Nothing is lost in a cut, and a mark is found wherever there is one. -/

theorem eq_append_of_isPrefixOf? {mark s rest : List Char} (h : mark.isPrefixOf? s = some rest) :
    s = mark ++ rest := by
  induction mark generalizing s with
  | nil => exact Option.some.inj h
  | cons m mark ih =>
    cases s with
    | nil => cases h
    | cons c s =>
      change (if m == c then mark.isPrefixOf? s else none) = some rest at h
      split at h
      · rename_i hsame
        rw [ih h, beq_iff_eq.mp hsame]
        rfl
      · cases h

theorem eq_append_of_cut? {mark s before behind : List Char}
    (h : cut? mark s = some (before, behind)) : s = before ++ mark ++ behind := by
  fun_induction cut? mark s generalizing before behind with
  | case1 =>
    obtain ⟨rest, hrest, heq⟩ := Option.map_eq_some_iff.mp h
    obtain ⟨rfl, rfl⟩ := Prod.mk.inj heq
    simpa using eq_append_of_isPrefixOf? hrest
  | case2 c s rest hrest =>
    simp only [Option.some.injEq, Prod.mk.injEq] at h
    obtain ⟨rfl, rfl⟩ := h
    simpa using eq_append_of_isPrefixOf? hrest
  | case3 c s _ ih =>
    simp only [Option.map_eq_some_iff, Prod.mk.injEq] at h
    obtain ⟨⟨first, last⟩, hs, rfl, rfl⟩ := h
    simp [ih hs]

theorem cutLast?_eq_none_iff {mark : Char} {s : List Char} :
    cutLast? mark s = none ↔ mark ∉ s := by
  fun_induction cutLast? mark s with
  | case1 => simp
  | case2 => simp_all
  | case3 => simp_all
  | case4 => simp_all [eq_comm]

theorem eq_append_of_cutLast? {mark : Char} {s before behind : List Char}
    (h : cutLast? mark s = some (before, behind)) :
    s = before ++ mark :: behind ∧ mark ∉ behind := by
  fun_induction cutLast? mark s generalizing before behind with
  | case1 => simp at h
  | case2 c s first last hs ih =>
    simp only [Option.some.injEq, Prod.mk.injEq] at h
    obtain ⟨rfl, rfl⟩ := h
    simpa using ih hs
  | case3 s hs =>
    simp only [Option.some.injEq, Prod.mk.injEq] at h
    obtain ⟨rfl, rfl⟩ := h
    exact ⟨rfl, cutLast?_eq_none_iff.1 hs⟩
  | case4 => simp at h

/-! ### Order -/

/-- What is sorted by texts that are different has them in strict order. -/
theorem pairwise_mergeSort {α : Type} (key : α → String) {xs : List α} (h : (xs.map key).Nodup) :
    ((xs.mergeSort fun a b => decide (key a ≤ key b)).map key).Pairwise (· < ·) := by
  have hsorted : (xs.mergeSort fun a b => decide (key a ≤ key b)).Pairwise
      fun a b => decide (key a ≤ key b) = true :=
    List.pairwise_mergeSort
      (fun a b c hab hbc => by
        rw [decide_eq_true_iff] at hab hbc ⊢
        exact String.le_trans hab hbc)
      (fun a b => by simpa using String.le_total (key a) (key b)) xs
  have hdistinct : ((xs.mergeSort fun a b => decide (key a ≤ key b)).map key).Nodup :=
    ((List.mergeSort_perm _ _).map key).nodup_iff.mpr h
  rw [List.pairwise_map]
  refine hsorted.imp₂ (fun a b hle hne => ?_) (List.pairwise_map.mp hdistinct)
  exact Decidable.byContradiction fun hlt =>
    hne (String.le_antisymm (of_decide_eq_true hle) (String.not_lt.mp hlt))

end ContentBlocker.Text
