import ContentBlocker.Unicode.CaseFold

/-!
# Case variants

The variants of a character are exactly the characters that fold to the same code point
(`mem_caseVariants_iff`), so the list that an expression is built from says what folding says.

This rests on three facts about the table of rows, each checked on pairs of rows and not on code
points: rows that share a code point fold it alike, no row covers what another one folds to, and no
row leaves the code points of characters.
-/

namespace ContentBlocker.Unicode

/-! ### The table -/

namespace FoldRow

/-- Whether two rows fold the code points that they share alike. -/
def agrees (row other : FoldRow) : Bool :=
  row.last.blt other.first || other.last.blt row.first || row.shift == other.shift

/-- The lowest code point that a row folds to. -/
def target (row : FoldRow) : Nat :=
  (row.first + row.shift).toNat

/-- Whether a row covers nothing that another one folds to: it ends before, starts behind, or has
only every second code point, the others being those that are folded to. -/
def avoids (other row : FoldRow) : Bool :=
  other.last.blt row.target || (row.target + (row.last - row.first)).blt other.first
    || (other.step == 2 && (row.step == 2 || row.first == row.last)
      && (row.target + other.first) % 2 == 1)

/-- Whether a row folds code points of characters to code points of characters, and leaves zero
alone. -/
def staysValid (row : FoldRow) : Bool :=
  0 < row.first && row.first ≤ row.last && 0 ≤ row.first + row.shift
    && (row.last < 0xD800 || (0xE000 ≤ row.first && row.last < 0x110000))
    && (row.target + (row.last - row.first) < 0xD800
      || (0xE000 ≤ row.target && row.target + (row.last - row.first) < 0x110000))

end FoldRow

theorem foldRows_agree : (foldRows.all fun row => foldRows.all row.agrees) = true := by
  decide +kernel

theorem foldRows_avoid : (foldRows.all fun row => foldRows.all row.avoids) = true := by
  decide +kernel

theorem foldRows_stayValid : foldRows.all FoldRow.staysValid = true := by
  decide +kernel

/-! ### Folding -/

theorem FoldRow.covers_iff (row : FoldRow) (n : Nat) :
    row.covers n = true ↔ row.first ≤ n ∧ n ≤ row.last ∧ (n - row.first) % row.step = 0 := by
  simp [FoldRow.covers, and_assoc]

/-- A code point that a row covers stays the code point of a character when it is folded. -/
theorem FoldRow.valid_of_covers {row : FoldRow} (hrow : row ∈ foldRows) {n : Nat}
    (hn : row.covers n = true) :
    n.isValidChar ∧ (n + row.shift).toNat.isValidChar ∧ 0 ≤ n + row.shift ∧ 0 < n := by
  have hvalid := List.all_eq_true.mp foldRows_stayValid row hrow
  simp only [FoldRow.staysValid, Bool.and_eq_true, Bool.or_eq_true, decide_eq_true_eq] at hvalid
  unfold FoldRow.target at hvalid
  obtain ⟨hfirst, hlast, _⟩ := (row.covers_iff n).mp hn
  unfold Nat.isValidChar
  omega

/-- Every row that covers a code point says how it folds. -/
theorem foldCode_of_covers {row : FoldRow} (hrow : row ∈ foldRows) {n : Nat}
    (hn : row.covers n = true) : foldCode n = (n + row.shift).toNat := by
  unfold foldCode
  split
  -- the first row that covers `n` need not be this one, but it shifts `n` alike
  · rename_i other hfind
    have hother := List.mem_of_find?_eq_some hfind
    have hcovers := List.find?_some hfind
    have hagree := List.all_eq_true.mp (List.all_eq_true.mp foldRows_agree row hrow) other hother
    simp only [FoldRow.agrees, Bool.or_eq_true, Nat.blt_eq, beq_iff_eq] at hagree
    obtain ⟨hfirst, hlast, _⟩ := (row.covers_iff n).mp hn
    obtain ⟨hfirst', hlast', _⟩ := (other.covers_iff n).mp hcovers
    have hshift : row.shift = other.shift := by omega
    rw [hshift]
  · rename_i hfind
    exact absurd hn (List.find?_eq_none.mp hfind row hrow)

/-- A code point is in a row or in none. -/
theorem covered_or_not (n : Nat) :
    (∃ row ∈ foldRows, row.covers n = true) ∨ ∀ row ∈ foldRows, row.covers n = false := by
  by_cases h : ∃ row ∈ foldRows, row.covers n = true
  · exact .inl h
  · refine .inr fun row hrow => ?_
    rw [← Bool.not_eq_true]
    exact fun hcovers => h ⟨row, hrow, hcovers⟩

theorem foldCode_of_not_covers {n : Nat} (hn : ∀ row ∈ foldRows, row.covers n = false) :
    foldCode n = n := by
  have hfind : foldRows.find? (·.covers n) = none := by
    rw [List.find?_eq_none]
    intro row hrow
    simp [hn row hrow]
  rw [foldCode, hfind]

/-- No row covers what another one folds to. -/
theorem FoldRow.not_covers_fold {row other : FoldRow} (hrow : row ∈ foldRows)
    (hother : other ∈ foldRows) {n : Nat} (hn : row.covers n = true) :
    other.covers (n + row.shift).toNat = false := by
  have havoid := List.all_eq_true.mp (List.all_eq_true.mp foldRows_avoid other hother) row hrow
  have hvalid := List.all_eq_true.mp foldRows_stayValid row hrow
  simp only [FoldRow.avoids, FoldRow.staysValid, Bool.or_eq_true, Bool.and_eq_true, Nat.blt_eq,
    beq_iff_eq, decide_eq_true_eq] at havoid hvalid
  unfold FoldRow.target at havoid hvalid
  obtain ⟨hfirst, hlast, hstep⟩ := (row.covers_iff n).mp hn
  rw [← Bool.not_eq_true, FoldRow.covers_iff]
  rintro ⟨hfirst', hlast', hstep'⟩
  rcases havoid with (hbefore | hbehind) | ⟨⟨htwo, hrowtwo⟩, hodd⟩
  · omega
  · omega
  -- both rows have every second code point, one the even ones and one the odd ones
  · rw [htwo] at hstep'
    rcases hrowtwo with hrowtwo | hsingle
    · rw [hrowtwo] at hstep
      omega
    · omega

/-- What has been folded folds to itself. -/
theorem foldCode_foldCode (n : Nat) : foldCode (foldCode n) = foldCode n := by
  rcases covered_or_not n with ⟨row, hrow, hn⟩ | hn
  · rw [foldCode_of_covers hrow hn]
    exact foldCode_of_not_covers fun other hother => FoldRow.not_covers_fold hrow hother hn
  · rw [foldCode_of_not_covers hn, foldCode_of_not_covers hn]

theorem isValidChar_foldCode (c : Char) : (foldCode c.toNat).isValidChar := by
  rcases covered_or_not c.toNat with ⟨row, hrow, hn⟩ | hn
  · rw [foldCode_of_covers hrow hn]
    exact (FoldRow.valid_of_covers hrow hn).2.1
  · rw [foldCode_of_not_covers hn]
    exact c.valid

/-! ### Variants -/

theorem toNat_ofNat {n : Nat} (h : n.isValidChar) : (Char.ofNat n).toNat = n := by
  rw [Char.ofNat, dif_pos h]
  rfl

theorem FoldRow.mem_sources (row : FoldRow) (n code : Nat) :
    code ∈ row.sources n ↔ code = (n - row.shift).toNat ∧ row.covers code = true := by
  unfold FoldRow.sources
  dsimp only
  split
  · rename_i h
    constructor
    · intro hmem
      obtain rfl := List.mem_singleton.mp hmem
      exact ⟨rfl, h⟩
    · rintro ⟨rfl, _⟩
      exact List.mem_singleton.mpr rfl
  · rename_i h
    constructor
    · intro hmem
      simp at hmem
    · rintro ⟨rfl, hcovers⟩
      exact absurd hcovers h

/-- The variants of a character are the characters that fold to the same code point. -/
theorem mem_caseVariants_iff (c d : Char) :
    d ∈ caseVariants c ↔ foldCode d.toNat = foldCode c.toNat := by
  have hvalid := isValidChar_foldCode c
  have hfixed := foldCode_foldCode c.toNat
  unfold caseVariants
  dsimp only
  rw [List.mem_map]
  constructor
  · rintro ⟨code, hcode, rfl⟩
    rcases List.mem_cons.mp hcode with rfl | hsource
    · rw [toNat_ofNat hvalid, hfixed]
    · obtain ⟨row, hrow, hmem⟩ := List.mem_flatMap.mp hsource
      obtain ⟨hcode, hcovers⟩ := (row.mem_sources _ _).mp hmem
      obtain ⟨hcodeValid, _, hnonneg, hpos⟩ := FoldRow.valid_of_covers hrow hcovers
      rw [toNat_ofNat hcodeValid, foldCode_of_covers hrow hcovers]
      -- a code point above zero is no difference that has been cut off at zero
      omega
  · intro h
    refine ⟨d.toNat, ?_, Char.ofNat_toNat d⟩
    rcases covered_or_not d.toNat with ⟨row, hrow, hcovers⟩ | hnot
    · obtain ⟨_, _, hnonneg, _⟩ := FoldRow.valid_of_covers hrow hcovers
      have hfold := foldCode_of_covers hrow hcovers
      apply List.mem_cons_of_mem
      rw [List.mem_flatMap]
      refine ⟨row, hrow, (row.mem_sources _ _).mpr ⟨?_, hcovers⟩⟩
      omega
    · rw [← h, foldCode_of_not_covers hnot]
      exact List.mem_cons_self ..

/-! ### ASCII -/

/-- Of the code points of ASCII only those of capital letters are folded. -/
theorem foldCode_of_lt {n : Nat} (hn : n < 128) :
    foldCode n = if 65 ≤ n ∧ n ≤ 90 then n + 32 else n := by
  have hfirst : (⟨65, 90, 1, 32⟩ : FoldRow) ∈ foldRows := List.mem_cons_self ..
  have hothers : foldRows.tail.all (fun row => 128 ≤ row.first) = true := by decide +kernel
  split
  · rename_i hcapital
    have hcovers := (FoldRow.covers_iff ⟨65, 90, 1, 32⟩ n).mpr
      ⟨hcapital.1, hcapital.2, Nat.mod_one _⟩
    rw [foldCode_of_covers hfirst hcovers]
    rfl
  · rename_i hcapital
    refine foldCode_of_not_covers fun row hrow => ?_
    rw [← Bool.not_eq_true, FoldRow.covers_iff]
    rintro ⟨hle, hge, _⟩
    rcases List.mem_cons.mp hrow with rfl | hrow
    · exact hcapital ⟨hle, hge⟩
    · have hlarge := List.all_eq_true.mp hothers row hrow
      rw [decide_eq_true_eq] at hlarge
      omega

/-- A code point has a source in a row only if it is not before all that the row folds to. -/
theorem FoldRow.length_sources_le {row : FoldRow} (hrow : row ∈ foldRows) (n : Nat) :
    (row.sources n).length ≤ if row.first + row.shift ≤ n then 1 else 0 := by
  unfold FoldRow.sources
  dsimp only
  split
  · rename_i hcovers
    obtain ⟨_, _, hnonneg, hpos⟩ := FoldRow.valid_of_covers hrow hcovers
    obtain ⟨hfirst, _⟩ := (row.covers_iff _).mp hcovers
    rw [if_pos (by omega)]
    exact Nat.le_refl 1
  · exact Nat.zero_le _

theorem length_sources_le {rows : List FoldRow} (hrows : ∀ row ∈ rows, row ∈ foldRows) (n : Nat) :
    (rows.flatMap (·.sources n)).length ≤
      rows.countP fun row : FoldRow => (row.first : Int) + row.shift ≤ n := by
  induction rows with
  | nil => exact Nat.le_refl 0
  | cons row rows ih =>
    obtain ⟨hrow, hrows⟩ := List.forall_mem_cons.mp hrows
    have hfirst := FoldRow.length_sources_le hrow n
    have hothers := ih hrows
    rw [List.flatMap_cons, List.length_append, List.countP_cons]
    simp only [decide_eq_true_eq]
    omega

/-- A character of ASCII has few variants: itself, a capital letter, the long s and the Kelvin
sign. -/
theorem length_caseVariants_le {c : Char} (hc : c.toNat < 128) : (caseVariants c).length ≤ 4 := by
  have hfolded : foldCode c.toNat ≤ 127 := by
    rw [foldCode_of_lt hc]
    split <;> omega
  have hsources := length_sources_le (fun _ hrow => hrow) (foldCode c.toNat)
  have hmono : (foldRows.countP fun row => (row.first : Int) + row.shift ≤ foldCode c.toNat) ≤
      foldRows.countP fun row => (row.first : Int) + row.shift ≤ 127 := by
    refine List.countP_mono_left fun row _ hle => ?_
    rw [decide_eq_true_eq] at hle ⊢
    omega
  have hfew : (foldRows.countP fun row => (row.first : Int) + row.shift ≤ 127) = 3 := by
    decide +kernel
  unfold caseVariants
  dsimp only
  rw [List.length_map, List.length_cons]
  omega

end ContentBlocker.Unicode
