import ContentBlocker.Regex.Match

/-!
# What an expression matches

`Regex.Spans text r i j` says that the expression `r` matches `text` from position `i` to position
`j`, constructor by constructor and without any marks. Moving marks computes it
(`Regex.advance_carries`), so an expression is found in a text exactly when it spans some part of
it (`Regex.isFoundIn_iff`).

The one step that is not plain is a repetition without an upper bound: the marks are moved as often
as there are positions, which is enough because every round that is not the last adds a mark.
-/

namespace ContentBlocker.Regex

/-- `n` steps one after the other. -/
def Times (R : Nat → Nat → Prop) : Nat → Nat → Nat → Prop
  | 0, i, j => i = j
  | n + 1, i, j => ∃ k, R i k ∧ Times R n k j

/-- The character in front of a position. -/
def charBefore (text : List Char) : Nat → Option Char
  | 0 => none
  | i + 1 => text[i]?

/-- Whether an expression matches a text from one position to another. A repetition is made at least
`min` times, also where `max` is smaller. -/
def Spans (text : List Char) : Regex → Nat → Nat → Prop
  | .empty, i, j => i = j
  | .set chars, i, j => j = i + 1 ∧ ∃ c, text[i]? = some c ∧ chars.contains c = true
  | .assert a, i, j => i = j ∧ i ≤ text.length ∧ a.holds (charBefore text i) text[i]? = true
  | .seq a b, i, j => ∃ k, a.Spans text i k ∧ b.Spans text k j
  | .alt a b, i, j => a.Spans text i j ∨ b.Spans text i j
  | .rep a min max, i, j =>
    ∃ n, min ≤ n ∧ (∀ m, max = some m → n ≤ min ∨ n ≤ m) ∧ Times (a.Spans text) n i j

theorem Times.trans {R : Nat → Nat → Prop} {m n i j k : Nat} (hm : Times R m i k)
    (hn : Times R n k j) : Times R (m + n) i j := by
  induction m generalizing i with
  | zero =>
    obtain rfl : i = k := hm
    rwa [Nat.zero_add]
  | succ m ih =>
    obtain ⟨l, hl, hrest⟩ := hm
    rw [Nat.succ_add]
    exact ⟨l, hl, ih hrest⟩

theorem Times.split {R : Nat → Nat → Prop} {m n i j : Nat} (h : Times R (m + n) i j) :
    ∃ k, Times R m i k ∧ Times R n k j := by
  induction m generalizing i with
  | zero =>
    rw [Nat.zero_add] at h
    exact ⟨i, rfl, h⟩
  | succ m ih =>
    rw [Nat.succ_add] at h
    obtain ⟨l, hl, hrest⟩ := h
    obtain ⟨k, hk, hkj⟩ := ih hrest
    exact ⟨k, ⟨l, hl, hk⟩, hkj⟩

/-! ### Marks -/

namespace Marks

theorem any_iff (marks : Marks) : marks.any id = true ↔ ∃ i : Nat, marks[i]? = some true := by
  rw [List.any_eq_true]
  constructor
  · rintro ⟨mark, hmem, hmark⟩
    obtain ⟨i, hi⟩ := List.getElem?_of_mem hmem
    obtain rfl : mark = true := hmark
    exact ⟨i, hi⟩
  · rintro ⟨i, hi⟩
    exact ⟨true, List.mem_of_getElem? hi, rfl⟩

theorem length_join {a b : Marks} (h : a.length = b.length) : (a.join b).length = a.length := by
  rw [join, List.length_zipWith, h, Nat.min_self]

theorem join_iff {a b : Marks} (h : a.length = b.length) (i : Nat) :
    (a.join b)[i]? = some true ↔ a[i]? = some true ∨ b[i]? = some true := by
  induction a generalizing b i with
  | nil =>
    obtain rfl : b = [] := List.length_eq_zero_iff.mp h.symm
    simp [join]
  | cons x a ih =>
    cases b with
    | nil => simp at h
    | cons y b =>
      have htail : a.length = b.length := by simpa using h
      cases i with
      | zero => simp [join]
      | succ i => simpa [join] using ih htail i

/-- Joining marks that are not all there already adds one. -/
theorem count_lt_count_join {a b : Marks} (h : a.length = b.length) (hne : Marks.join a b ≠ a) :
    a.count true < (Marks.join a b).count true := by
  induction a generalizing b with
  | nil => exact absurd rfl hne
  | cons x a ih =>
    cases b with
    | nil => simp at h
    | cons y b =>
      have htail : a.length = b.length := by simpa using h
      have hle : a.count true ≤ (Marks.join a b).count true := by
        by_cases heq : Marks.join a b = a
        · exact Nat.le_of_eq (congrArg _ heq.symm)
        · exact Nat.le_of_lt (ih htail heq)
      have hjoin : join (x :: a) (y :: b) = (x || y) :: join a b := rfl
      rw [hjoin] at hne ⊢
      cases x with
      | true =>
        have hrest : join a b ≠ a := fun heq => hne (by simp [heq])
        simpa using ih htail hrest
      | false =>
        cases y with
        -- the mark that is added is this one
        | true => simpa using Nat.lt_succ_of_le hle
        | false =>
          have hrest : join a b ≠ a := fun heq => hne (by simp [heq])
          simpa using ih htail hrest

end Marks

/-! ### Moves of marks -/

/-- A move of `size` marks that takes each mark along every step of a relation. -/
def Carries (size : Nat) (move : Marks → Marks) (R : Nat → Nat → Prop) : Prop :=
  ∀ marks : Marks, marks.length = size → (move marks).length = size ∧
    ∀ j, (move marks)[j]? = some true ↔ ∃ i, marks[i]? = some true ∧ R i j

namespace Carries

variable {size : Nat} {move other : Marks → Marks} {R S : Nat → Nat → Prop}

theorem congr (h : Carries size move R) (hRS : ∀ i j, R i j ↔ S i j) : Carries size move S := by
  intro marks hsize
  obtain ⟨hlen, hiff⟩ := h marks hsize
  refine ⟨hlen, fun j => ?_⟩
  rw [hiff]
  simp only [hRS]

theorem comp (h : Carries size move R) (h' : Carries size other S) :
    Carries size (fun marks => other (move marks)) (fun i j => ∃ k, R i k ∧ S k j) := by
  intro marks hsize
  obtain ⟨hlen, hiff⟩ := h marks hsize
  obtain ⟨hlen', hiff'⟩ := h' (move marks) hlen
  refine ⟨hlen', fun j => ?_⟩
  rw [hiff']
  constructor
  · rintro ⟨k, hk, hkj⟩
    obtain ⟨i, hi, hik⟩ := (hiff k).mp hk
    exact ⟨i, hi, k, hik, hkj⟩
  · rintro ⟨i, hi, k, hik, hkj⟩
    exact ⟨k, (hiff k).mpr ⟨i, hi, hik⟩, hkj⟩

theorem join (h : Carries size move R) (h' : Carries size other S) :
    Carries size (fun marks => (move marks).join (other marks)) (fun i j => R i j ∨ S i j) := by
  intro marks hsize
  obtain ⟨hlen, hiff⟩ := h marks hsize
  obtain ⟨hlen', hiff'⟩ := h' marks hsize
  have hsame := hlen.trans hlen'.symm
  refine ⟨(Marks.length_join hsame).trans hlen, fun j => ?_⟩
  rw [Marks.join_iff hsame, hiff, hiff']
  constructor
  · rintro (⟨i, hi, hij⟩ | ⟨i, hi, hij⟩)
    · exact ⟨i, hi, .inl hij⟩
    · exact ⟨i, hi, .inr hij⟩
  · rintro ⟨i, hi, hij | hij⟩
    · exact .inl ⟨i, hi, hij⟩
    · exact .inr ⟨i, hi, hij⟩

theorem after (h : Carries size move R) (n : Nat) :
    Carries size (Marks.after move n) (Times R n) := by
  intro marks hsize
  induction n generalizing marks with
  | zero => exact ⟨hsize, fun j => by simp [Marks.after, Times]⟩
  | succ n ih =>
    rw [Marks.after]
    split
    -- some mark is left to be taken along
    · obtain ⟨hlen, hiff⟩ := h marks hsize
      obtain ⟨hlen', hiff'⟩ := ih (move marks) hlen
      refine ⟨hlen', fun j => ?_⟩
      rw [hiff']
      constructor
      · rintro ⟨k, hk, hkj⟩
        obtain ⟨i, hi, hik⟩ := (hiff k).mp hk
        exact ⟨i, hi, k, hik, hkj⟩
      · rintro ⟨i, hi, k, hik, hkj⟩
        exact ⟨k, (hiff k).mpr ⟨i, hi, hik⟩, hkj⟩
    -- no mark is left, and the move stops early
    · rename_i hnone
      rw [Marks.any_iff] at hnone
      refine ⟨hsize, fun j => ?_⟩
      constructor
      · intro hj
        exact absurd ⟨j, hj⟩ hnone
      · rintro ⟨i, hi, _⟩
        exact absurd ⟨i, hi⟩ hnone

/-- Marks that a move adds nothing to are closed under the steps that it takes. -/
theorem closed (h : Carries size move R) {marks : Marks} (hsize : marks.length = size)
    (hstop : marks.join (move marks) = marks) {i j : Nat} (hi : marks[i]? = some true)
    (hij : R i j) : marks[j]? = some true := by
  obtain ⟨hlen, hiff⟩ := h marks hsize
  rw [← hstop, Marks.join_iff (hsize.trans hlen.symm)]
  exact .inr ((hiff j).mpr ⟨i, hi, hij⟩)

theorem times_closed {marks : Marks}
    (hclosed : ∀ i j, marks[i]? = some true → R i j → marks[j]? = some true) {n i j : Nat}
    (hi : marks[i]? = some true) (hij : Times R n i j) : marks[j]? = some true := by
  induction n generalizing i with
  | zero =>
    obtain rfl : i = j := hij
    exact hi
  | succ n ih =>
    obtain ⟨k, hik, hkj⟩ := hij
    exact ih (hclosed i k hi hik) hkj

theorem upTo (h : Carries size move R) (n : Nat) :
    Carries size (Marks.upTo move n) (fun i j => ∃ m ≤ n, Times R m i j) := by
  intro marks hsize
  induction n generalizing marks with
  | zero => exact ⟨hsize, fun j => by simp [Marks.upTo, Times]⟩
  | succ n ih =>
    rw [Marks.upTo]
    dsimp only
    obtain ⟨hlen, hiff⟩ := h marks hsize
    have hsame := hsize.trans hlen.symm
    split
    -- the round adds nothing, so whatever can be reached has a mark already
    · rename_i hstop
      refine ⟨hsize, fun j => ⟨fun hj => ⟨j, hj, 0, Nat.zero_le _, rfl⟩, ?_⟩⟩
      rintro ⟨i, hi, m, _, hm⟩
      exact times_closed (fun i j => h.closed hsize hstop) hi hm
    · obtain ⟨hlen', hiff'⟩ := ih _ ((Marks.length_join hsame).trans hsize)
      refine ⟨hlen', fun j => ?_⟩
      rw [hiff']
      constructor
      · rintro ⟨k, hk, m, hm, hkj⟩
        rcases (Marks.join_iff hsame k).mp hk with hk | hk
        · exact ⟨k, hk, m, Nat.le_succ_of_le hm, hkj⟩
        · obtain ⟨i, hi, hik⟩ := (hiff k).mp hk
          exact ⟨i, hi, m + 1, Nat.succ_le_succ hm, k, hik, hkj⟩
      · rintro ⟨i, hi, m, hm, hij⟩
        match m with
        | 0 =>
          obtain rfl : i = j := hij
          exact ⟨i, (Marks.join_iff hsame i).mpr (.inl hi), 0, Nat.zero_le _, rfl⟩
        | m + 1 =>
          -- this round makes the first of the steps
          obtain ⟨k, hik, hkj⟩ := hij
          have hk : (move marks)[k]? = some true := (hiff k).mpr ⟨i, hi, hik⟩
          exact ⟨k, (Marks.join_iff hsame k).mpr (.inr hk), m, Nat.le_of_succ_le_succ hm, hkj⟩

/-- Once there have been as many rounds as there are positions without a mark, the marks are
closed: each round before the last one has added a mark. -/
theorem closed_upTo (h : Carries size move R) (n : Nat) {marks : Marks}
    (hsize : marks.length = size) (hn : size ≤ marks.count true + n) (i j : Nat)
    (hi : (Marks.upTo move n marks)[i]? = some true) (hij : R i j) :
    (Marks.upTo move n marks)[j]? = some true := by
  induction n generalizing marks with
  | zero =>
    -- every position has a mark already
    have hall : ∀ mark ∈ marks, true = mark := by
      rw [← List.count_eq_length]
      have hle := List.count_le_length (a := true) (l := marks)
      omega
    obtain ⟨hlen, hiff⟩ := h marks hsize
    have hj : (move marks)[j]? = some true := (hiff j).mpr ⟨i, hi, hij⟩
    obtain ⟨hjlt, _⟩ := List.getElem?_eq_some_iff.mp hj
    have hjlt' : j < marks.length := by omega
    show marks[j]? = some true
    rw [List.getElem?_eq_getElem hjlt', ← hall _ (List.getElem_mem hjlt')]
  | succ n ih =>
    simp only [Marks.upTo] at hi ⊢
    have hsame := hsize.trans (h marks hsize).1.symm
    split at hi
    · rename_i hstop
      rw [if_pos hstop]
      exact h.closed hsize hstop hi hij
    -- the round adds a mark, so one round less is enough for the rest
    · rename_i hgrow
      rw [if_neg hgrow]
      have hmore := Marks.count_lt_count_join hsame hgrow
      exact ih ((Marks.length_join hsame).trans hsize) (by omega) hi

/-- As many rounds as there are positions reach whatever any number of steps reaches. -/
theorem upTo_size (h : Carries size move R) :
    Carries size (Marks.upTo move size) (fun i j => ∃ m, Times R m i j) := by
  intro marks hsize
  obtain ⟨hlen, hiff⟩ := h.upTo size marks hsize
  refine ⟨hlen, fun j => ⟨fun hj => ?_, ?_⟩⟩
  · obtain ⟨i, hi, m, _, hm⟩ := (hiff j).mp hj
    exact ⟨i, hi, m, hm⟩
  · rintro ⟨i, hi, m, hm⟩
    have hstart : (Marks.upTo move size marks)[i]? = some true :=
      (hiff i).mpr ⟨i, hi, 0, Nat.zero_le _, rfl⟩
    exact times_closed (h.closed_upTo size hsize (Nat.le_add_left _ _)) hstart hm

end Carries

/-! ### Expressions -/

theorem getElem?_neighbours {text : List Char} {i : Nat} (hi : i ≤ text.length) :
    (neighbours text)[i]? = some (charBefore text i, text[i]?) := by
  rw [neighbours, List.getElem?_zip_eq_some]
  constructor
  · cases i with
    | zero => rfl
    | succ i =>
      rw [List.getElem?_cons_succ, List.getElem?_map, charBefore,
        List.getElem?_eq_getElem (by omega)]
      rfl
  · rcases Nat.lt_or_eq_of_le hi with hlt | rfl
    · rw [List.getElem?_append_left (by simpa using hlt), List.getElem?_map,
        List.getElem?_eq_getElem hlt]
      rfl
    · simp

theorem length_neighbours (text : List Char) : (neighbours text).length = text.length + 1 := by
  simp [neighbours]

theorem carries_set (text : List Char) (chars : CharSet) :
    Carries (text.length + 1) ((Regex.set chars).advance text) ((Regex.set chars).Spans text) := by
  intro marks hsize
  refine ⟨by simp [advance, hsize], fun j => ?_⟩
  cases j with
  | zero => simp [advance, Spans]
  | succ j =>
    rw [advance, List.getElem?_cons_succ, List.getElem?_zipWith_eq_some]
    constructor
    · rintro ⟨mark, c, hmark, hc, hboth⟩
      rw [Bool.and_eq_true] at hboth
      obtain ⟨rfl, hin⟩ := hboth
      exact ⟨j, hmark, rfl, c, hc, hin⟩
    · rintro ⟨i, hi, hij, c, hc, hin⟩
      obtain rfl : j = i := Nat.succ.inj hij
      exact ⟨true, c, hi, hc, by rw [hin]; rfl⟩

theorem carries_assert (text : List Char) (a : Assertion) :
    Carries (text.length + 1) ((Regex.assert a).advance text)
      ((Regex.assert a).Spans text) := by
  intro marks hsize
  refine ⟨by simp [advance, length_neighbours, hsize], fun j => ?_⟩
  rw [advance, List.getElem?_zipWith_eq_some]
  constructor
  · rintro ⟨mark, ⟨before, after⟩, hmark, hnear, hboth⟩
    rw [Bool.and_eq_true] at hboth
    obtain ⟨rfl, hholds⟩ := hboth
    obtain ⟨hjlt, _⟩ := List.getElem?_eq_some_iff.mp hmark
    have hj : j ≤ text.length := by omega
    rw [getElem?_neighbours hj, Option.some.injEq, Prod.mk.injEq] at hnear
    obtain ⟨rfl, rfl⟩ := hnear
    exact ⟨j, hmark, rfl, hj, hholds⟩
  · rintro ⟨i, hi, rfl, hile, hholds⟩
    exact ⟨true, _, hi, getElem?_neighbours hile, hholds⟩

/-- A repetition first makes the steps that it has to make, then those that it may make. -/
theorem carries_rep {text : List Char} {a : Regex} (min : Nat) (max : Option Nat)
    (ha : Carries (text.length + 1) (a.advance text) (a.Spans text)) :
    Carries (text.length + 1) ((Regex.rep a min max).advance text)
      ((Regex.rep a min max).Spans text) := by
  cases max with
  | some max =>
    refine ((ha.after min).comp (ha.upTo (max - min))).congr fun i j => ?_
    constructor
    · rintro ⟨k, hik, m, hm, hkj⟩
      refine ⟨min + m, Nat.le_add_right _ _, fun m' hm' => ?_, hik.trans hkj⟩
      obtain rfl := Option.some.inj hm'
      omega
    · rintro ⟨n, hmin, hmax, hij⟩
      have hbound := hmax max rfl
      obtain ⟨m, rfl⟩ := Nat.exists_eq_add_of_le hmin
      obtain ⟨k, hik, hkj⟩ := hij.split
      exact ⟨k, hik, m, by omega, hkj⟩
  | none =>
    refine ((ha.after min).comp ha.upTo_size).congr fun i j => ?_
    constructor
    · rintro ⟨k, hik, m, hkj⟩
      exact ⟨min + m, Nat.le_add_right _ _, fun m' hm' => by simp at hm', hik.trans hkj⟩
    · rintro ⟨n, hmin, _, hij⟩
      obtain ⟨m, rfl⟩ := Nat.exists_eq_add_of_le hmin
      obtain ⟨k, hik, hkj⟩ := hij.split
      exact ⟨k, hik, m, hkj⟩

/-- Moving marks takes each mark to wherever the expression matches from there. -/
theorem advance_carries (text : List Char) (r : Regex) :
    Carries (text.length + 1) (r.advance text) (r.Spans text) := by
  induction r with
  | empty => exact fun marks hsize => ⟨hsize, fun j => by simp [advance, Spans]⟩
  | set chars => exact carries_set text chars
  | assert a => exact carries_assert text a
  | seq a b iha ihb => exact iha.comp ihb
  | alt a b iha ihb => exact iha.join ihb
  | rep a min max ih => exact carries_rep min max ih

/-- An expression is found in a text if it matches from one position of it to another. -/
theorem isFoundIn_iff (r : Regex) (text : List Char) :
    r.isFoundIn text = true ↔ ∃ i j, i ≤ text.length ∧ r.Spans text i j := by
  have hstart : ∀ i : Nat,
      (List.replicate (text.length + 1) true)[i]? = some true ↔ i ≤ text.length := by
    intro i
    rw [List.getElem?_replicate]
    split <;> simp <;> omega
  obtain ⟨_, hiff⟩ := advance_carries text r (List.replicate (text.length + 1) true) (by simp)
  rw [isFoundIn, Marks.any_iff]
  simp only [hiff, hstart]
  exact ⟨fun ⟨j, i, hi, hij⟩ => ⟨i, j, hi, hij⟩, fun ⟨i, j, hi, hij⟩ => ⟨j, i, hi, hij⟩⟩

end ContentBlocker.Regex
