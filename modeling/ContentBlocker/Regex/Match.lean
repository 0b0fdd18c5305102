import ContentBlocker.Regex.Basic

/-!
# Matching

A text with `n` characters has `n + 1` positions. A set of positions is kept as marks, one for each
position in order, and an expression moves marks: from the positions where it may start to those
where it may then end (`Regex.advance`). A choice or a repetition never has to be undone, so the
work is bounded whatever the expression is.

An expression is found in a text when it ends anywhere after starting anywhere.
-/

namespace ContentBlocker.Regex

/-- Marks on the positions of a text, first position first. -/
abbrev Marks := List Bool

namespace Marks

/-- The marks of both sets. -/
def join (a b : Marks) : Marks :=
  a.zipWith or b

/-- The marks after a move has been made `n` times. -/
def after (move : Marks → Marks) : Nat → Marks → Marks
  | 0, marks => marks
  | n + 1, marks => if marks.any id then after move n (move marks) else marks

/-- The marks after a move has been made at most `n` times. It stops when a move adds none. -/
def upTo (move : Marks → Marks) : Nat → Marks → Marks
  | 0, marks => marks
  | n + 1, marks =>
    let next := marks.join (move marks)
    if next = marks then marks else upTo move n next

end Marks

/-- The characters on the two sides of each position. -/
def neighbours (text : List Char) : List (Option Char × Option Char) :=
  (none :: text.map some).zip (text.map some ++ [none])

/-- Where an expression may end when it starts at the marked positions of a text. -/
def advance (text : List Char) : Regex → Marks → Marks
  | .empty, marks => marks
  | .set chars, marks => false :: marks.zipWith (fun mark c => mark && chars.contains c) text
  | .assert a, marks =>
    marks.zipWith (fun mark (before, after) => mark && a.holds before after) (neighbours text)
  | .seq a b, marks => b.advance text (a.advance text marks)
  | .alt a b, marks => (a.advance text marks).join (b.advance text marks)
  | .rep a min max, marks =>
    let more := match max with
      | some max => max - min
      -- There are no more positions than this, so no further move can add a mark.
      | none => text.length + 1
    Marks.upTo (a.advance text) more (Marks.after (a.advance text) min marks)

/-- Whether an expression is found anywhere in a text. -/
def isFoundIn (r : Regex) (text : List Char) : Bool :=
  (r.advance text (List.replicate (text.length + 1) true)).any id

end ContentBlocker.Regex
