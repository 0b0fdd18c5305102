import ContentBlocker.Proofs.Regex.Spans

/-!
# The words that an expression covers

Where an expression matches may also be said without positions: it covers a word that stands between
two texts (`Regex.Covers`). An expression is found in a text exactly when it covers a word of it
(`isFoundIn_iff_covers`), and what a sequence covers is cut into what its parts cover
(`covers_seq`). The other lemmas say what the few expressions cover that URL filters are made of.
-/

namespace ContentBlocker.Regex

/-- Whether an expression matches the word that stands between two texts. -/
def Covers (r : Regex) (before word behind : List Char) : Prop :=
  r.Spans (before ++ word ++ behind) before.length (before.length + word.length)

/-! ### Words of a text -/

theorem times_le {text : List Char} {R : Nat → Nat → Prop} {n i j : Nat}
    (hR : ∀ i j, R i j → i ≤ text.length → i ≤ j ∧ j ≤ text.length) (h : Times R n i j)
    (hi : i ≤ text.length) : i ≤ j ∧ j ≤ text.length := by
  induction n generalizing i with
  | zero =>
    obtain rfl : i = j := h
    exact ⟨Nat.le_refl i, hi⟩
  | succ n ih =>
    obtain ⟨k, hik, hkj⟩ := h
    obtain ⟨hle, hk⟩ := hR i k hik hi
    obtain ⟨hle', hj⟩ := ih hkj hk
    exact ⟨Nat.le_trans hle hle', hj⟩

/-- A match that starts within a text ends within it, and not before its start. -/
theorem spans_le {text : List Char} {r : Regex} {i j : Nat} (h : r.Spans text i j)
    (hi : i ≤ text.length) : i ≤ j ∧ j ≤ text.length := by
  induction r generalizing i j with
  | empty =>
    obtain rfl : i = j := h
    exact ⟨Nat.le_refl i, hi⟩
  | set chars =>
    obtain ⟨rfl, c, hc, _⟩ := h
    obtain ⟨hlt, _⟩ := List.getElem?_eq_some_iff.mp hc
    exact ⟨Nat.le_succ i, hlt⟩
  | assert a =>
    obtain ⟨rfl, _, _⟩ := h
    exact ⟨Nat.le_refl i, hi⟩
  | seq a b iha ihb =>
    obtain ⟨k, hik, hkj⟩ := h
    obtain ⟨hle, hk⟩ := iha hik hi
    obtain ⟨hle', hj⟩ := ihb hkj hk
    exact ⟨Nat.le_trans hle hle', hj⟩
  | alt a b iha ihb =>
    rcases h with h | h
    · exact iha h hi
    · exact ihb h hi
  | rep a min max ih =>
    obtain ⟨n, _, _, hn⟩ := h
    exact times_le (fun _ _ h hi => ih h hi) hn hi

theorem exists_word {text : List Char} {i j : Nat} (hij : i ≤ j) (hj : j ≤ text.length) :
    ∃ before word behind, text = before ++ word ++ behind ∧ before.length = i ∧
      before.length + word.length = j := by
  refine ⟨text.take i, (text.drop i).take (j - i), text.drop j, ?_, ?_, ?_⟩
  · have hrest : text.drop j = (text.drop i).drop (j - i) := by
      rw [List.drop_drop, Nat.add_sub_cancel' hij]
    rw [hrest, List.append_assoc, List.take_append_drop, List.take_append_drop]
  · rw [List.length_take]
    omega
  · rw [List.length_take, List.length_take, List.length_drop]
    omega

/-- An expression is found in a text if it covers a word of it. -/
theorem isFoundIn_iff_covers (r : Regex) (text : List Char) :
    r.isFoundIn text = true ↔
      ∃ before word behind, text = before ++ word ++ behind ∧ r.Covers before word behind := by
  rw [isFoundIn_iff]
  constructor
  · rintro ⟨i, j, hi, hspans⟩
    obtain ⟨hij, hj⟩ := spans_le hspans hi
    obtain ⟨before, word, behind, rfl, rfl, rfl⟩ := exists_word hij hj
    exact ⟨before, word, behind, rfl, hspans⟩
  · rintro ⟨before, word, behind, rfl, hcovers⟩
    refine ⟨before.length, before.length + word.length, ?_, hcovers⟩
    simp

/-! ### Expressions -/

section Expressions

variable (before word behind : List Char)

theorem covers_empty : Regex.empty.Covers before word behind ↔ word = [] := by
  simp [Covers, Spans]

theorem covers_set (chars : CharSet) :
    (Regex.set chars).Covers before word behind ↔ ∃ c, word = [c] ∧ chars.contains c = true := by
  rw [Covers, Spans, List.append_assoc]
  constructor
  · rintro ⟨hlen, c, hc, hin⟩
    obtain ⟨d, rfl⟩ := List.length_eq_one_iff.mp (Nat.add_left_cancel hlen)
    rw [List.getElem?_append_right (Nat.le_refl _), Nat.sub_self] at hc
    obtain rfl : d = c := by simpa using hc
    exact ⟨d, rfl, hin⟩
  · rintro ⟨c, rfl, hin⟩
    exact ⟨rfl, c, by simp, hin⟩

theorem covers_textStart :
    (Regex.assert .textStart).Covers before word behind ↔ word = [] ∧ before = [] := by
  rw [Covers, Spans]
  constructor
  · rintro ⟨hlen, _, hholds⟩
    have hword : word = [] := List.length_eq_zero_iff.mp (by omega)
    refine ⟨hword, ?_⟩
    cases before with
    | nil => rfl
    | cons c before =>
      have hnone : (c :: before ++ word ++ behind)[before.length]? = none :=
        Option.isNone_iff_eq_none.mp hholds
      have hle := List.getElem?_eq_none_iff.mp hnone
      simp only [List.length_append, List.length_cons] at hle
      omega
  · rintro ⟨rfl, rfl⟩
    exact ⟨rfl, Nat.zero_le _, rfl⟩

theorem covers_textEnd :
    (Regex.assert .textEnd).Covers before word behind ↔ word = [] ∧ behind = [] := by
  rw [Covers, Spans]
  constructor
  · rintro ⟨hlen, _, hholds⟩
    obtain rfl : word = [] := List.length_eq_zero_iff.mp (by omega)
    refine ⟨rfl, ?_⟩
    simpa [Assertion.holds] using hholds
  · rintro ⟨rfl, rfl⟩
    exact ⟨rfl, by simp, by simp [Assertion.holds]⟩

/-- A word that a sequence covers is cut into a word for each of its parts. -/
theorem covers_seq (a b : Regex) :
    (Regex.seq a b).Covers before word behind ↔
      ∃ first second, word = first ++ second ∧ a.Covers before first (second ++ behind) ∧
        b.Covers (before ++ first) second behind := by
  simp only [Covers, Spans]
  constructor
  · rintro ⟨k, ha, hb⟩
    obtain ⟨hle, hk⟩ := spans_le ha (by simp)
    have hle' := (spans_le hb hk).1
    obtain ⟨first, second, rfl, hfirst⟩ : ∃ first second, word = first ++ second ∧
        first.length = k - before.length :=
      ⟨word.take (k - before.length), word.drop (k - before.length),
        (List.take_append_drop _ _).symm, by rw [List.length_take]; omega⟩
    obtain rfl : before.length + first.length = k := by omega
    refine ⟨first, second, rfl, ?_, ?_⟩
    · simpa using ha
    · simpa [Nat.add_assoc] using hb
  · rintro ⟨first, second, rfl, ha, hb⟩
    refine ⟨before.length + first.length, ?_, ?_⟩
    · simpa using ha
    · simpa [Nat.add_assoc] using hb

theorem covers_seqs_nil : (seqs []).Covers before word behind ↔ word = [] :=
  covers_empty before word behind

theorem covers_seqs_cons (r : Regex) (rs : List Regex) :
    (seqs (r :: rs)).Covers before word behind ↔
      ∃ first second, word = first ++ second ∧ r.Covers before first (second ++ behind) ∧
        (seqs rs).Covers (before ++ first) second behind := by
  cases rs with
  | nil =>
    simp only [seqs, covers_empty]
    constructor
    · intro h
      exact ⟨word, [], by simp, by simpa using h, rfl⟩
    · rintro ⟨first, second, rfl, h, rfl⟩
      simpa using h
  | cons s rs => exact covers_seq before word behind r (seqs (s :: rs))

/-- A row of expressions may be taken apart anywhere. -/
theorem covers_seqs_append (rs ss : List Regex) :
    (seqs (rs ++ ss)).Covers before word behind ↔
      ∃ first second, word = first ++ second ∧ (seqs rs).Covers before first (second ++ behind) ∧
        (seqs ss).Covers (before ++ first) second behind := by
  induction rs generalizing before word with
  | nil =>
    rw [List.nil_append]
    constructor
    · intro h
      exact ⟨[], word, rfl, by simp [covers_seqs_nil], by simpa using h⟩
    · rintro ⟨first, second, rfl, hnil, h⟩
      obtain rfl : first = [] := by simpa [covers_seqs_nil] using hnil
      simpa using h
  | cons r rs ih =>
    simp only [List.cons_append, covers_seqs_cons, ih]
    constructor
    · rintro ⟨first, _, rfl, hr, second, third, rfl, hrs, hss⟩
      refine ⟨first ++ second, third, by simp, ⟨first, second, rfl, by simpa using hr, hrs⟩, ?_⟩
      simpa using hss
    · rintro ⟨_, third, rfl, ⟨first, second, rfl, hr, hrs⟩, hss⟩
      refine ⟨first, second ++ third, by simp, by simpa using hr, second, third, rfl, hrs, ?_⟩
      simpa using hss

/-- Characters of a set one after the other. -/
theorem times_set {text before word behind : List Char} (htext : text = before ++ word ++ behind)
    (chars : CharSet) (n : Nat) :
    Times ((Regex.set chars).Spans text) n before.length (before.length + word.length) ↔
      n = word.length ∧ ∀ c ∈ word, chars.contains c = true := by
  induction n generalizing before word with
  | zero =>
    constructor
    · intro hlen
      obtain rfl : word = [] := List.length_eq_zero_iff.mp (Nat.add_eq_left.mp hlen.symm)
      exact ⟨rfl, by simp⟩
    · rintro ⟨hlen, _⟩
      rw [← hlen]
      rfl
  | succ n ih =>
    cases word with
    | nil =>
      constructor
      · rintro ⟨k, ⟨rfl, c, hc, _⟩, hrest⟩
        obtain ⟨hlt, _⟩ := List.getElem?_eq_some_iff.mp hc
        have hle := (times_le (fun _ _ h hi => spans_le h hi) hrest hlt).1
        exact absurd hle (Nat.not_succ_le_self _)
      · rintro ⟨hn, _⟩
        simp at hn
    | cons c word =>
      have hmoved : text = (before ++ [c]) ++ word ++ behind := by simp [htext]
      have htail := ih hmoved
      have hmid : (before ++ [c]).length = before.length + 1 := by simp
      have hend : before.length + 1 + word.length = before.length + (c :: word).length := by
        rw [List.length_cons]
        omega
      have hc : text[before.length]? = some c := by simp [htext]
      rw [hmid, hend] at htail
      -- the first round reads `c`, the others read `word` from the next position on
      constructor
      · rintro ⟨k, ⟨rfl, d, hd, hin⟩, hrest⟩
        obtain rfl := Option.some.inj (hc.symm.trans hd)
        obtain ⟨hn, hall⟩ := htail.mp hrest
        exact ⟨by simp [hn], by simpa [hin] using hall⟩
      · rintro ⟨hn, hall⟩
        refine ⟨before.length + 1, ⟨rfl, c, hc, hall c (by simp)⟩, htail.mpr ⟨?_, ?_⟩⟩
        · simpa using hn
        · exact fun d hd => hall d (by simp [hd])

/-- A repeated set covers the words of its characters, as long as the repetition allows. -/
theorem covers_rep_set (chars : CharSet) (min : Nat) (max : Option Nat) :
    (Regex.rep (.set chars) min max).Covers before word behind ↔
      min ≤ word.length ∧ (∀ m, max = some m → word.length ≤ min ∨ word.length ≤ m) ∧
        ∀ c ∈ word, chars.contains c = true := by
  rw [Covers, Spans]
  constructor
  · rintro ⟨n, hmin, hmax, hn⟩
    obtain ⟨rfl, hall⟩ := (times_set rfl chars n).mp hn
    exact ⟨hmin, hmax, hall⟩
  · rintro ⟨hmin, hmax, hall⟩
    exact ⟨word.length, hmin, hmax, (times_set rfl chars _).mpr ⟨rfl, hall⟩⟩

/-- What is optional covers the empty word too. -/
theorem covers_optional (r : Regex) :
    (Regex.rep r 0 (some 1)).Covers before word behind ↔
      word = [] ∨ r.Covers before word behind := by
  simp only [Covers, Spans]
  constructor
  · rintro ⟨n, _, hmax, hn⟩
    have hle := hmax 1 rfl
    obtain rfl | rfl : n = 0 ∨ n = 1 := by omega
    · refine .inl (List.length_eq_zero_iff.mp ?_)
      simpa [Times] using hn
    · obtain ⟨k, hk, hkj⟩ := hn
      obtain rfl : k = _ := hkj
      exact .inr hk
  · rintro (rfl | hr)
    · exact ⟨0, Nat.zero_le _, fun _ _ => .inl (Nat.zero_le _), by simp [Times]⟩
    · refine ⟨1, Nat.zero_le _, fun m hm => .inr ?_, _, hr, rfl⟩
      obtain rfl := Option.some.inj hm
      exact Nat.le_refl _

end Expressions

end ContentBlocker.Regex
