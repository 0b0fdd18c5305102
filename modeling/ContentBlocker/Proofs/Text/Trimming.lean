import Mathlib.Data.List.DropRight
import Mathlib.Data.List.TakeWhile
import ContentBlocker.Text.Basic

/-!
# Trimmed text

A text is trimmed if no white space stands at its ends (`IsTrimmed`). Trimming gives such a text
(`isTrimmed_trim`), changes no other one (`trim_eq_self_iff`), and takes away whatever white space
has been put around a text (`trim_append`) and nothing else (`exists_eq_append_trim`). Case does not
matter to it (`trim_lower`).

The items of a list stand between separators and are trimmed. White space around the list does not
count either, even where the separator itself is white space (`items_pad`).
-/

namespace ContentBlocker.Text

/-! ### White space at the ends -/

/-- Whether a text neither starts nor ends with white space. -/
def IsTrimmed (s : List Char) : Prop :=
  (∀ c, s.head? = some c → isSpace c = false) ∧ ∀ c, s.getLast? = some c → isSpace c = false

instance (s : List Char) : Decidable (IsTrimmed s) :=
  decidable_of_iff (s.head?.all (!isSpace ·) = true ∧ s.getLast?.all (!isSpace ·) = true) <| by
    simp [IsTrimmed, Option.all_eq_true]

/-- A text without white space at its ends is not trimmed. -/
theorem trim_eq_self_of_ends {s : List Char} (hhead : ∀ c, s.head? = some c → isSpace c = false)
    (hlast : ∀ c, s.getLast? = some c → isSpace c = false) : trim s = s := by
  have hdrop : ∀ t : List Char, (∀ c, t.head? = some c → isSpace c = false) →
      t.dropWhile isSpace = t := by
    intro t ht
    cases t with
    | nil => rfl
    | cons c t => rw [List.dropWhile_cons_of_neg (by simp [ht c rfl])]
  have hreverse : ∀ c, s.reverse.head? = some c → isSpace c = false := by
    simpa [List.head?_reverse] using hlast
  rw [trim, trimStart, trimEnd, hdrop s hhead, hdrop s.reverse hreverse, List.reverse_reverse]

theorem trimEnd_eq_rdropWhile (s : List Char) : trimEnd s = s.rdropWhile isSpace := rfl

theorem isTrimmed_trim (s : List Char) : IsTrimmed (trim s) := by
  constructor
  · intro c hc
    have hprefix : trim s <+: trimStart s := List.rdropWhile_prefix ..
    have hhead : (trimStart s).head? = some c := by
      obtain ⟨rest, hrest⟩ := hprefix
      rw [← hrest, List.head?_append, hc]
      rfl
    have hnot := List.head?_dropWhile_not isSpace s
    rw [show (s.dropWhile isSpace).head? = some c from hhead] at hnot
    exact hnot
  · intro c hc
    have hne : (trimStart s).rdropWhile isSpace ≠ [] := by
      intro hnil
      rw [trim, trimEnd_eq_rdropWhile, hnil] at hc
      exact absurd hc (by simp)
    rw [trim, trimEnd_eq_rdropWhile, List.getLast?_eq_some_getLast hne] at hc
    obtain rfl := Option.some.inj hc
    simpa using List.rdropWhile_last_not isSpace (trimStart s) hne

theorem trim_eq_self_iff {s : List Char} : trim s = s ↔ IsTrimmed s :=
  ⟨fun h => h ▸ isTrimmed_trim s, fun h => trim_eq_self_of_ends h.1 h.2⟩

/-- White space around a text is taken away. -/
theorem trim_append {front behind : List Char} (hfront : ∀ c ∈ front, isSpace c = true)
    (hbehind : ∀ c ∈ behind, isSpace c = true) (s : List Char) :
    trim (front ++ s ++ behind) = trim s := by
  have hend : ∀ t : List Char, trimEnd (t ++ behind) = trimEnd t := by
    intro t
    rw [trimEnd, List.reverse_append, List.dropWhile_append_of_pos (by simpa using hbehind)]
    rfl
  rw [trim, trimStart, List.append_assoc, List.dropWhile_append_of_pos hfront,
    List.dropWhile_append]
  split
  · rename_i hnil
    have hspaces : behind.dropWhile isSpace = [] := List.dropWhile_eq_nil_iff.mpr hbehind
    rw [trim, trimStart, hspaces, List.isEmpty_iff.mp hnil]
  · exact hend _

theorem trim_append_left {front : List Char} (hfront : ∀ c ∈ front, isSpace c = true)
    (s : List Char) : trim (front ++ s) = trim s := by
  have htrim := trim_append hfront (List.forall_mem_nil _) s
  rwa [List.append_nil] at htrim

theorem trim_append_right {behind : List Char} (hbehind : ∀ c ∈ behind, isSpace c = true)
    (s : List Char) : trim (s ++ behind) = trim s :=
  trim_append (List.forall_mem_nil _) hbehind s

/-- A text is what trimming leaves of it, with white space around. -/
theorem exists_eq_append_trim (s : List Char) :
    ∃ front behind, (∀ c ∈ front, isSpace c = true) ∧ (∀ c ∈ behind, isSpace c = true) ∧
      s = front ++ trim s ++ behind := by
  refine ⟨s.takeWhile isSpace, (trimStart s).rtakeWhile isSpace,
    fun c hc => List.mem_takeWhile_imp hc, fun c hc => List.mem_rtakeWhile_imp hc, ?_⟩
  rw [trim, trimEnd_eq_rdropWhile, List.append_assoc, List.rdropWhile_append_rtakeWhile, trimStart,
    List.takeWhile_append_dropWhile]

theorem mem_of_mem_trim {c : Char} {s : List Char} (h : c ∈ trim s) : c ∈ s := by
  obtain ⟨front, behind, _, _, heq⟩ := exists_eq_append_trim s
  rw [heq]
  simp [h]

/-- A text that does not start with white space keeps its first character. -/
theorem head?_trim_cons {c : Char} (hc : isSpace c = false) (s : List Char) :
    (trim (c :: s)).head? = some c := by
  obtain ⟨front, behind, hfront, hbehind, heq⟩ := exists_eq_append_trim (c :: s)
  have hnot : ∀ t : List Char, (∀ d ∈ t, isSpace d = true) → c ∉ t := by
    intro t ht hmem
    rw [ht c hmem] at hc
    cases hc
  cases front with
  | cons d front =>
    obtain rfl : c = d := (List.cons.inj heq).1
    exact absurd List.mem_cons_self (hnot _ hfront)
  | nil =>
    cases htrim : trim (c :: s) with
    | nil =>
      rw [htrim, List.append_nil, List.nil_append] at heq
      exact absurd (heq ▸ List.mem_cons_self) (hnot _ hbehind)
    | cons d rest =>
      rw [htrim] at heq
      rw [(List.cons.inj heq).1]
      rfl

/-- A text of white space only is trimmed to nothing. -/
theorem trim_eq_nil {s : List Char} (h : ∀ c ∈ s, isSpace c = true) : trim s = [] := by
  have htrim := trim_append_left h []
  rw [List.append_nil] at htrim
  exact htrim.trans rfl

/-! ### Case -/

/-- Lower case moves the capital letters and keeps all else. -/
theorem toLower_cases (c : Char) :
    (c.isUpper = false ∧ c.toLower = c) ∨
      (65 ≤ c.toNat ∧ c.toNat ≤ 90 ∧ c.toLower.toNat = c.toNat + 32) := by
  unfold Char.toLower
  split
  · rename_i hupper
    have hlow : 65 ≤ c.val.toNat := UInt32.le_iff_toNat_le.mp hupper.1
    have hhigh : c.val.toNat ≤ 90 := UInt32.le_iff_toNat_le.mp hupper.2
    have hoffset : ('a'.val - 'A'.val).toNat = 32 := by decide
    refine .inr ⟨hlow, hhigh, ?_⟩
    show (c.val + ('a'.val - 'A'.val)).toNat = c.val.toNat + 32
    rw [UInt32.toNat_add, hoffset]
    omega
  · rename_i hupper
    exact .inl ⟨decide_eq_false hupper, rfl⟩

theorem isUpper_toLower (c : Char) : c.toLower.isUpper = false := by
  rcases toLower_cases c with ⟨hupper, heq⟩ | ⟨hlow, _, heq⟩
  · rw [heq, hupper]
  · refine decide_eq_false fun h => ?_
    have hle : c.toLower.toNat ≤ 90 := UInt32.le_iff_toNat_le.mp h.2
    omega

/-- No letter is white space. -/
theorem isSpace_toLower (c : Char) : isSpace c.toLower = isSpace c := by
  have hletter : ∀ d : Char, 65 ≤ d.toNat → d.toNat ≤ 122 → isSpace d = false := by
    intro d hlow hhigh
    simp only [isSpace, Bool.or_eq_false_iff, Bool.and_eq_false_iff, decide_eq_false_iff_not,
      beq_eq_false_iff_ne]
    omega
  rcases toLower_cases c with ⟨_, heq⟩ | ⟨hlow, hhigh, heq⟩
  · rw [heq]
  · rw [hletter c hlow (by omega), hletter c.toLower (by omega) (by omega)]

theorem lower_eq_nil_iff {s : List Char} : lower s = [] ↔ s = [] :=
  List.map_eq_nil_iff

theorem trim_lower (s : List Char) : trim (lower s) = lower (trim s) := by
  have hspace : isSpace ∘ Char.toLower = isSpace := funext isSpace_toLower
  simp only [trim, trimStart, trimEnd, lower, List.dropWhile_map, ← List.map_reverse, hspace]

theorem isTrimmed_lower_iff {s : List Char} : IsTrimmed (lower s) ↔ IsTrimmed s := by
  rw [← trim_eq_self_iff, ← trim_eq_self_iff, trim_lower]
  constructor
  · intro h
    have hlength : (trim s).length = s.length := by
      simpa [lower] using congrArg List.length h
    have hsub : (trim s).Sublist s :=
      (List.rdropWhile_prefix isSpace (trimStart s)).sublist.trans (List.dropWhile_sublist isSpace)
    exact hsub.eq_of_length hlength
  · exact fun h => by rw [h]

/-! ### Items of a list -/

/-- The pieces that are not blank, trimmed. -/
def nonblank (pieces : List (List Char)) : List (List Char) :=
  (pieces.map trim).filter (!·.isEmpty)

/-- The items of a list, trimmed; blank ones are none. -/
def items (separator : Char) (s : List Char) : List (List Char) :=
  nonblank (s.splitOn separator)

theorem items_append (separator : Char) (s t : List Char) :
    items separator (s ++ separator :: t) = items separator s ++ items separator t := by
  rw [items, List.splitOn_append_cons_self, nonblank, List.map_append, List.filter_append]
  rfl

theorem items_of_not_mem {separator : Char} {s : List Char} (h : separator ∉ s) :
    items separator s = nonblank [s] := by
  rw [items, List.splitOn_eq_singleton h]

/-- White space in front of a list makes no item and is no part of one, even where it separates. -/
theorem items_cons_of_isSpace (separator : Char) {c : Char} (hc : isSpace c = true) (s : List Char) :
    items separator (c :: s) = items separator s := by
  rw [items, List.splitOn_cons_eq_if_modifyHead]
  split
  · rfl
  · obtain ⟨piece, pieces, hpieces⟩ := List.exists_cons_of_ne_nil (List.splitOn_ne_nil separator s)
    have htrim : trim (c :: piece) = trim piece :=
      trim_append_left (List.forall_mem_singleton.mpr hc) piece
    rw [items, hpieces, List.modifyHead_cons, nonblank, nonblank, List.map_cons, List.map_cons,
      htrim]

theorem items_concat_of_isSpace (separator : Char) {c : Char} (hc : isSpace c = true)
    (s : List Char) : items separator (s ++ [c]) = items separator s := by
  have hlast : ∀ t : List Char, separator ∉ t → items separator (t ++ [c]) = items separator t := by
    intro t ht
    by_cases hsame : c = separator
    · rw [hsame, items_append]
      exact List.append_nil _
    · have hnot : separator ∉ t ++ [c] := by simp [ht, Ne.symm hsame]
      have htrim : trim (t ++ [c]) = trim t :=
        trim_append_right (List.forall_mem_singleton.mpr hc) t
      rw [items_of_not_mem hnot, items_of_not_mem ht, nonblank, nonblank, List.map_singleton,
        List.map_singleton, htrim]
  cases hcut : cutLast? separator s with
  | none => exact hlast s (cutLast?_eq_none_iff.mp hcut)
  | some parts =>
    obtain ⟨before, behind⟩ := parts
    obtain ⟨rfl, hbehind⟩ := eq_append_of_cutLast? hcut
    rw [List.append_assoc, List.cons_append, items_append, items_append, hlast behind hbehind]

/-- The items of a list do not hang on the white space around it. -/
theorem items_pad (separator : Char) {front behind : List Char}
    (hfront : ∀ c ∈ front, isSpace c = true) (hbehind : ∀ c ∈ behind, isSpace c = true)
    (s : List Char) : items separator (front ++ s ++ behind) = items separator s := by
  rw [List.append_assoc]
  induction front with
  | cons c front ih =>
    rw [List.forall_mem_cons] at hfront
    rw [List.cons_append, items_cons_of_isSpace separator hfront.1, ih hfront.2]
  | nil =>
    rw [List.nil_append]
    induction behind generalizing s with
    | nil => rw [List.append_nil]
    | cons c behind ih =>
      rw [List.forall_mem_cons] at hbehind
      rw [← List.singleton_append, ← List.append_assoc, ih hbehind.2,
        items_concat_of_isSpace separator hbehind.1]

theorem not_mem_of_mem_splitOn {α : Type} [BEq α] [LawfulBEq α] {separator : α} {xs piece : List α}
    (h : piece ∈ xs.splitOn separator) : separator ∉ piece := by
  unfold List.splitOn at h
  induction xs generalizing piece with
  | nil =>
    obtain rfl : piece = [] := by simpa using h
    exact List.not_mem_nil
  | cons x xs ih =>
    rw [List.splitOnP_cons_eq_if_modifyHead] at h
    split at h
    · rcases List.mem_cons.mp h with rfl | h
      · exact List.not_mem_nil
      · exact ih h
    · rename_i hx
      cases hsplit : xs.splitOnP (· == separator) with
      | nil => exact absurd hsplit (List.splitOnP_ne_nil _ xs)
      | cons first pieces =>
        rw [hsplit, List.modifyHead_cons] at h
        rcases List.mem_cons.mp h with rfl | h
        · rintro (_ | ⟨_, hmem⟩)
          · exact hx (beq_self_eq_true separator)
          · exact ih (by rw [hsplit]; exact List.mem_cons_self) hmem
        · exact ih (by rw [hsplit]; exact List.mem_cons_of_mem first h)

theorem not_mem_of_mem_items {separator : Char} {s item : List Char}
    (h : item ∈ items separator s) : separator ∉ item := by
  obtain ⟨piece, hpiece, rfl⟩ := List.mem_map.mp (List.mem_filter.mp h).1
  exact fun hmem => not_mem_of_mem_splitOn hpiece (mem_of_mem_trim hmem)

theorem ne_nil_of_mem_items {separator : Char} {s item : List Char} (h : item ∈ items separator s) :
    item ≠ [] := by
  simpa using (List.mem_filter.mp h).2

theorem isTrimmed_of_mem_items {separator : Char} {s item : List Char}
    (h : item ∈ items separator s) : IsTrimmed item := by
  obtain ⟨piece, _, rfl⟩ := List.mem_map.mp (List.mem_filter.mp h).1
  exact isTrimmed_trim piece

/-! ### Words -/

variable {s : List Char} (hspace : ∀ c ∈ s, isSpace c = false)

include hspace

theorem trim_eq_self : trim s = s :=
  trim_eq_self_of_ends (fun c hc => hspace c (List.mem_of_head? hc))
    fun c hc => hspace c (List.mem_of_getLast? hc)

theorem words_eq_singleton (hne : s ≠ []) : words s = [s] := by
  have hsplit : s.splitOnP isSpace = [s] := List.splitOnP_eq_singleton hspace
  rw [words, hsplit]
  simp [hne]

theorem words_eq_pair (hne : s ≠ []) {other : List Char}
    (hspace' : ∀ c ∈ other, isSpace c = false) (hne' : other ≠ []) :
    words (s ++ ' ' :: other) = [s, other] := by
  have hsplit : (s ++ ' ' :: other).splitOnP isSpace = [s, other] := by
    rw [List.splitOnP_append_cons s other (by decide), List.splitOnP_eq_singleton hspace,
      List.splitOnP_eq_singleton hspace']
    rfl
  rw [words, hsplit]
  simp [hne, hne']

end ContentBlocker.Text
