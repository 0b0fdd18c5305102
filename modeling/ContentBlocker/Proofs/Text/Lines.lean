import ContentBlocker.Proofs.Text.Trimming

/-!
# Lines

A line feed ends a line, and a carriage return in front of it goes with it (`lines`). For lines that
are trimmed, and of which the blank ones do not count, it is the same to split the text at its line
feeds (`nonblank_lines`): a carriage return is white space, wherever it stands. So it does not matter
either whether there is one in front of every line feed (`items_withReturns`).
-/

namespace ContentBlocker.Text

/-- A line without the carriage return at its end. -/
def withoutReturn (line : List Char) : List Char :=
  if line.getLast? = some '\r' then line.dropLast else line

/-- The lines of a text. What stands behind the last line feed is a line if it is not empty, and
keeps its carriage return. -/
def lines (s : List Char) : List (List Char) :=
  let pieces := s.splitOn '\n'
  pieces.dropLast.map withoutReturn ++ pieces.getLast?.toList.filter (!·.isEmpty)

theorem trim_withoutReturn (line : List Char) : trim (withoutReturn line) = trim line := by
  unfold withoutReturn
  split
  · rename_i hlast
    have hreturn : ∀ c ∈ ['\r'], isSpace c = true := List.forall_mem_singleton.mpr rfl
    obtain ⟨body, rfl⟩ := List.getLast?_eq_some_iff.mp hlast
    rw [List.dropLast_concat, trim_append_right hreturn]
  · rfl

/-- The lines that are not blank, trimmed, are the items between line feeds. -/
theorem nonblank_lines (s : List Char) : nonblank (lines s) = items '\n' s := by
  rcases List.eq_nil_or_concat (s.splitOn '\n') with hnil | ⟨pieces, last, hpieces⟩
  · exact absurd hnil (List.splitOn_ne_nil '\n' s)
  · have hreturns : (pieces.map withoutReturn).map trim = pieces.map trim := by
      rw [List.map_map]
      exact List.map_congr_left fun line _ => trim_withoutReturn line
    have hlast : nonblank ([last].filter (!·.isEmpty)) = nonblank [last] := by
      cases last <;> rfl
    rw [List.concat_eq_append] at hpieces
    rw [lines, items, hpieces, List.dropLast_concat, List.getLast?_concat, Option.toList_some,
      nonblank, nonblank, List.map_append, List.map_append, List.filter_append, List.filter_append,
      hreturns]
    exact congrArg _ hlast

/-- Two line ends, a carriage return within a line, and a last line without an end. -/
example : lines "a\r\n\nb\rc\r".toList = ["a".toList, [], "b\rc\r".toList] := by decide

/-- The text with a carriage return in front of every line feed. -/
def withReturns (s : List Char) : List Char :=
  s.flatMap fun c => if c = '\n' then ['\r', '\n'] else [c]

theorem items_withReturns (s : List Char) : items '\n' (withReturns s) = items '\n' s := by
  -- what has been read so far is carried along, as the line it ends with is not complete yet
  have hread : ∀ front, items '\n' (front ++ withReturns s) = items '\n' (front ++ s) := by
    induction s with
    | nil => exact fun front => rfl
    | cons c s ih =>
      intro front
      by_cases hc : c = '\n'
      · have hreturns : withReturns (c :: s) = '\r' :: '\n' :: withReturns s := by
          rw [withReturns, List.flatMap_cons, if_pos hc]
          rfl
        rw [hreturns, hc, ← List.singleton_append, ← List.append_assoc, items_append, items_append,
          items_concat_of_isSpace '\n' (by decide)]
        exact congrArg _ (ih [])
      · have hkept : withReturns (c :: s) = c :: withReturns s := by
          rw [withReturns, List.flatMap_cons, if_neg hc]
          rfl
        rw [hkept, ← List.singleton_append, ← List.append_assoc, ih (front ++ [c]),
          List.append_assoc, List.singleton_append]
  exact hread []

end ContentBlocker.Text
