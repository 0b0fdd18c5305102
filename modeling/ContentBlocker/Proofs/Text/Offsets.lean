import Mathlib.Data.List.Basic
import ContentBlocker.Text.Basic

/-!
# Byte offsets

A place in a text may be given as a byte offset. A character takes one to four bytes in UTF-8, so
only some offsets are places between characters (`isSome_split?_iff`), and a cut at another one fails
(`takeTo`, `dropTo`). The offset where a search finds a mark can be cut at, and so can the one behind
the mark, whatever characters the text holds. The pieces are those that stand before and behind the
mark (`cutFound_find?`, `cutFound_findLast?`).
-/

namespace ContentBlocker.Text

/-! ### Sizes -/

/-- How many bytes a text takes in UTF-8. -/
def byteSize : List Char → Nat
  | [] => 0
  | c :: s => c.utf8Size + byteSize s

theorem byteSize_append (s t : List Char) : byteSize (s ++ t) = byteSize s + byteSize t := by
  induction s with
  | nil => simp [byteSize]
  | cons c s ih => rw [List.cons_append, byteSize, byteSize, ih, Nat.add_assoc]

theorem utf8ByteSize_ofList (s : List Char) : (String.ofList s).utf8ByteSize = byteSize s := by
  induction s with
  | nil => rfl
  | cons c s ih =>
    rw [← List.singleton_append, String.ofList_append, String.utf8ByteSize_append, ih,
      ← String.singleton_eq_ofList, String.utf8ByteSize_singleton]
    rfl

/-! ### Cutting -/

/-- What stands before and behind a byte offset, `none` where the offset is beyond the end or within
a character. -/
def split? : List Char → Nat → Option (List Char × List Char)
  | [], offset => if offset = 0 then some ([], []) else none
  | c :: s, offset =>
    if offset = 0 then some ([], c :: s)
    else if c.utf8Size ≤ offset then
      (split? s (offset - c.utf8Size)).map fun (before, behind) => (c :: before, behind)
    else none

theorem split?_append (before behind : List Char) :
    split? (before ++ behind) (byteSize before) = some (before, behind) := by
  induction before with
  | nil => cases behind <;> rfl
  | cons c before ih =>
    have hpos : c.utf8Size + byteSize before ≠ 0 := by
      have := c.utf8Size_pos
      omega
    rw [List.cons_append, byteSize, split?, if_neg hpos, if_pos (Nat.le_add_right ..),
      Nat.add_sub_cancel_left, ih]
    rfl

theorem split?_eq_some_iff {s before behind : List Char} {offset : Nat} :
    split? s offset = some (before, behind) ↔ s = before ++ behind ∧ byteSize before = offset := by
  constructor
  · intro h
    fun_induction split? s offset generalizing before with
    | case1 =>
      obtain ⟨rfl, rfl⟩ := Prod.mk.inj (Option.some.inj h)
      exact ⟨rfl, rfl⟩
    | case2 => cases h
    | case3 c s =>
      obtain ⟨rfl, rfl⟩ := Prod.mk.inj (Option.some.inj h)
      exact ⟨rfl, rfl⟩
    | case4 c s offset _ hle ih =>
      obtain ⟨⟨first, rest⟩, hs, heq⟩ := Option.map_eq_some_iff.mp h
      obtain ⟨rfl, rfl⟩ := Prod.mk.inj heq
      obtain ⟨rfl, hsize⟩ := ih hs
      refine ⟨rfl, ?_⟩
      rw [byteSize, hsize]
      omega
    | case5 => cases h
  · rintro ⟨rfl, rfl⟩
    exact split?_append before behind

/-- A text can be cut at its positions and nowhere else. -/
theorem isSome_split?_iff {s : List Char} {offset : Nat} :
    (split? s offset).isSome = true ↔ String.Pos.Raw.IsValid (String.ofList s) ⟨offset⟩ := by
  rw [String.Pos.Raw.isValid_iff_exists_append, Option.isSome_iff_exists]
  constructor
  · rintro ⟨⟨before, behind⟩, h⟩
    obtain ⟨rfl, rfl⟩ := split?_eq_some_iff.mp h
    refine ⟨String.ofList before, String.ofList behind, String.ofList_append, ?_⟩
    rw [← utf8ByteSize_ofList]
    rfl
  · rintro ⟨before, behind, heq, hoffset⟩
    refine ⟨(before.toList, behind.toList), split?_eq_some_iff.mpr ⟨?_, ?_⟩⟩
    · rw [← String.toList_append, ← heq, String.toList_ofList]
    · rw [← utf8ByteSize_ofList, String.ofList_toList]
      exact (congrArg String.Pos.Raw.byteIdx hoffset).symm

/-- The character `é` takes two bytes. -/
example : split? ['é', '$'] 1 = none ∧ split? ['é', '$'] 2 = some (['é'], ['$']) := by decide

/-- An offset at which a text cannot be cut. -/
structure BadOffset where
  text : List Char
  offset : Nat
  deriving DecidableEq, Repr

/-- The text before an offset. -/
def takeTo (s : List Char) (offset : Nat) : Except BadOffset (List Char) :=
  match split? s offset with
  | some (before, _) => .ok before
  | none => .error ⟨s, offset⟩

/-- The text behind an offset. -/
def dropTo (s : List Char) (offset : Nat) : Except BadOffset (List Char) :=
  match split? s offset with
  | some (_, behind) => .ok behind
  | none => .error ⟨s, offset⟩

theorem takeTo_append (before rest : List Char) :
    takeTo (before ++ rest) (byteSize before) = .ok before := by
  rw [takeTo, split?_append]

theorem dropTo_append (before rest : List Char) :
    dropTo (before ++ rest) (byteSize before) = .ok rest := by
  rw [dropTo, split?_append]

/-! ### Searching -/

/-- The offset of the first occurrence of a mark. -/
def find? (mark : List Char) : List Char → Option Nat
  | [] => if mark.isPrefixOf [] then some 0 else none
  | c :: s =>
    if mark.isPrefixOf (c :: s) then some 0 else (find? mark s).map (c.utf8Size + ·)

/-- The offset of the last occurrence of a character. -/
def findLast? (mark : Char) : List Char → Option Nat
  | [] => none
  | c :: s =>
    match findLast? mark s with
    | some offset => some (c.utf8Size + offset)
    | none => if c = mark then some 0 else none

theorem find?_eq (mark s : List Char) :
    find? mark s = (cut? mark s).map fun parts => byteSize parts.1 := by
  have hprefix : ∀ t, mark.isPrefixOf t = (mark.isPrefixOf? t).isSome :=
    fun t => (List.isSome_isPrefixOf?_eq_isPrefixOf mark t).symm
  fun_induction cut? mark s with
  | case1 =>
    rw [find?, hprefix]
    cases mark.isPrefixOf? [] <;> rfl
  | case2 c s rest hrest =>
    rw [find?, hprefix, hrest]
    rfl
  | case3 c s hrest ih =>
    rw [find?, hprefix, hrest, if_neg (by simp), ih, Option.map_map, Option.map_map]
    rfl

theorem findLast?_eq (mark : Char) (s : List Char) :
    findLast? mark s = (cutLast? mark s).map fun parts => byteSize parts.1 := by
  fun_induction cutLast? mark s with
  | case1 => rfl
  | case2 c s before behind hs ih =>
    rw [hs] at ih
    rw [findLast?, ih]
    rfl
  | case3 s hs ih =>
    rw [hs] at ih
    rw [findLast?, ih]
    exact if_pos rfl
  | case4 c s hs hne ih =>
    rw [hs] at ih
    rw [findLast?, ih]
    exact if_neg hne

/-- What stands before a mark that has been found, and behind it when it is as wide as said. -/
def cutFound (s : List Char) (width : Nat) :
    Option Nat → Except BadOffset (Option (List Char × List Char))
  | none => .ok none
  | some offset => do
    let before ← takeTo s offset
    let rest ← dropTo s (offset + width)
    return some (before, rest)

/-- A mark that stands between two pieces is found at an offset that can be cut at, and so is the
offset behind it. -/
theorem cutFound_eq {s : List Char} {width : Nat} {parts? : Option (List Char × List Char)}
    (h : ∀ before rest, parts? = some (before, rest) →
      ∃ mark, byteSize mark = width ∧ s = before ++ mark ++ rest) :
    cutFound s width (parts?.map fun parts => byteSize parts.1) = .ok parts? := by
  cases parts? with
  | none => rfl
  | some parts =>
    obtain ⟨before, rest⟩ := parts
    obtain ⟨mark, rfl, rfl⟩ := h before rest rfl
    have hbefore : takeTo (before ++ mark ++ rest) (byteSize before) = .ok before := by
      rw [List.append_assoc, takeTo_append]
    have hbehind : dropTo (before ++ mark ++ rest) (byteSize before + byteSize mark) = .ok rest := by
      rw [← byteSize_append, dropTo_append]
    rw [Option.map_some, cutFound]
    dsimp only
    rw [hbefore, hbehind]
    rfl

theorem cutFound_find? (mark s : List Char) :
    cutFound s (byteSize mark) (find? mark s) = .ok (cut? mark s) := by
  rw [find?_eq]
  exact cutFound_eq fun before rest h => ⟨mark, rfl, eq_append_of_cut? h⟩

theorem cutFound_findLast? (mark : Char) (s : List Char) :
    cutFound s mark.utf8Size (findLast? mark s) = .ok (cutLast? mark s) := by
  rw [findLast?_eq]
  exact cutFound_eq fun before rest h =>
    ⟨[mark], rfl, by simpa using (eq_append_of_cutLast? h).1⟩

end ContentBlocker.Text
