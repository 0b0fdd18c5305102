import ContentBlocker.Regex.Syntax.Parser
import Mathlib.Data.List.Chain

/-!
# Reading an expression part by part

How the reader of expressions takes up the few forms that URL filters are written in: characters,
escaped characters, the dot, classes that list characters, repetitions, and a group. Each form adds
one part to the reader (`Parser.Takes`), whatever follows it, except that a question mark behind a
repetition would be taken for a part of it.
-/

namespace ContentBlocker.Regex.Syntax

/-! ### Rows of parts -/

/-- The parts of a row, last one first, make up the sequence of their expressions. -/
theorem Part.sequence_regex (parts : List Part) :
    (Part.sequence parts).regex = seqs (parts.reverse.map (·.regex)) := by
  unfold Part.sequence
  split <;> rfl

theorem Part.maxDepth_le {parts : List Part} {bound : Nat} (h : ∀ p ∈ parts, p.depth ≤ bound) :
    Part.maxDepth parts ≤ bound := by
  have hfold : ∀ (ns : List Nat) (start : Nat), start ≤ bound → (∀ n ∈ ns, n ≤ bound) →
      ns.foldl max start ≤ bound := by
    intro ns
    induction ns with
    | nil => exact fun start hstart _ => hstart
    | cons n ns ih =>
      intro start hstart hns
      exact ih _ (by have := hns n (by simp); omega) (fun m hm => hns m (by simp [hm]))
  apply hfold _ _ (Nat.zero_le _)
  intro n hn
  obtain ⟨p, hp, rfl⟩ := List.mem_map.mp hn
  exact h p hp

/-- A row is at most one level deeper than its parts. -/
theorem Part.depth_sequence_le {parts : List Part} {bound : Nat}
    (h : ∀ p ∈ parts, p.depth ≤ bound) : (Part.sequence parts).depth ≤ bound + 1 := by
  unfold Part.sequence
  split
  · exact Nat.zero_le _
  · have := h _ (List.mem_singleton.mpr rfl)
    omega
  · have := Part.maxDepth_le h
    show 1 + _ ≤ _
    omega

/-- The flags with nothing on, except that case may not count. -/
def Flags.plain (caseless : Bool) : Flags := { caseless }

variable {caseless : Bool}

theorem skip_plain (s : List Char) : (Flags.plain caseless).skip s = s := rfl

/-! ### Classes that list characters -/

namespace Bracket

theorem range?_char {c : Char} {s : List Char} (hc : c ≠ '\\') (hhyphen : s.head? ≠ some '-') :
    range? (Flags.plain caseless) (c :: s) = some (⟨(Flags.plain caseless).single c, 0⟩, s) := by
  have hread : item? (Flags.plain caseless) (c :: s) = some (.literal c, s) := by
    unfold item?
    split <;> simp_all
  unfold range?
  rw [hread]
  simp only [Option.bind_eq_bind, Option.bind_some, skip_plain]
  split
  · rfl
  · rename_i heq
    cases s with
    | nil => simp at heq
    | cons d s =>
      have hd : d ≠ '-' := by simpa using hhyphen
      simp [hd] at heq

/-- A character that stands for itself in a class: it is no bracket, no backslash and no hyphen, has
no hyphen behind it and is not doubled. -/
theorem parseFrom_char {outer : List OpenClass} {cls : OpenClass} {rounds : Nat} {c : Char}
    {s : List Char} (hc : c ∉ ['[', ']', '\\', '-']) (hhyphen : s.head? ≠ some '-')
    (hdouble : s.head? ≠ some c) :
    parseFrom (Flags.plain caseless) outer cls (rounds + 1) (c :: s) =
      parseFrom (Flags.plain caseless) outer (cls.push ⟨(Flags.plain caseless).single c, 0⟩)
        rounds s := by
  have hitem : range? (Flags.plain caseless) (c :: s) =
      some (⟨(Flags.plain caseless).single c, 0⟩, s) :=
    range?_char (by simp_all) hhyphen
  rw [parseFrom, skip_plain]
  split
  case h_7 =>
    rw [hitem]
    rfl
  all_goals simp_all

/-- A class that lists characters, none of them twice in a row. -/
theorem parseFrom_chars {cs : List Char} (hcs : ∀ c ∈ cs, c ∉ ['[', ']', '\\', '-'])
    (hchain : cs.IsChain (· ≠ ·)) (cls : OpenClass) (rounds : Nat) (rest : List Char) :
    parseFrom (Flags.plain caseless) [] cls (cs.length + 1 + rounds) (cs ++ ']' :: rest) =
      ((cs.foldl (fun cls c => cls.push ⟨(Flags.plain caseless).single c, 0⟩) cls).close?
        (Flags.plain caseless)).map fun part => (part, rest) := by
  induction cs generalizing cls with
  | nil =>
    rw [List.nil_append, List.length_nil, Nat.zero_add, Nat.add_comm]
    show (do
      let part ← cls.close? (Flags.plain caseless)
      some (part, rest)) = (cls.close? (Flags.plain caseless)).map fun part => (part, rest)
    cases cls.close? (Flags.plain caseless) <;> rfl
  | cons c cs ih =>
    have hrounds : (c :: cs).length + 1 + rounds = cs.length + 1 + rounds + 1 := by
      rw [List.length_cons]
      omega
    rw [List.cons_append, hrounds, parseFrom_char (hcs c (by simp)), List.foldl_cons]
    · exact ih (fun d hd => hcs d (by simp [hd])) hchain.tail _
    · cases cs with
      | nil => simp
      | cons d cs =>
        have hd := hcs d (by simp)
        simp_all
    · cases cs with
      | nil =>
        have hc := hcs c (by simp)
        simp_all [eq_comm]
      | cons d cs =>
        have hne := (List.isChain_cons_cons.mp hchain).1
        simpa using Ne.symm hne

end Bracket

/-- The set of the characters in a list, each of them in either case where case does not count. -/
def Flags.listed (f : Flags) : List Char → CharSet
  | [] => .nothing
  | c :: cs => .union (f.single c) (f.listed cs)

/-! ### Parts -/

namespace Parser

/-- Reading `s` leads from one reader to another, whatever follows `s` as long as it is fit to.
Rounds are counted only as far as there are enough of them for the rest. -/
def Takes (fit : List Char → Prop) (p : Parser) (s : List Char) (q : Parser) : Prop :=
  ∀ (rest : List Char) (rounds : Nat), fit rest → (s ++ rest).length < rounds →
    ∃ left, rest.length < left ∧ run? rounds p (s ++ rest) = run? left q rest

/-- Anything may follow. -/
def Anything : List Char → Prop := fun _ => True

/-- A text that does not begin with a question mark, which a repetition would take for its own. -/
def Unmarked (rest : List Char) : Prop := rest.head? ≠ some '?'

theorem Takes.refl (fit : List Char → Prop) (p : Parser) : Takes fit p [] p :=
  fun _ rounds _ hrounds => ⟨rounds, hrounds, rfl⟩

theorem Takes.trans {fit fit' : List Char → Prop} {p q r : Parser} {s t : List Char}
    (first : Takes fit p s q) (second : Takes fit' q t r)
    (hfit : ∀ rest, fit' rest → fit (t ++ rest)) : Takes fit' p (s ++ t) r := by
  intro rest rounds hrest hrounds
  rw [List.append_assoc] at hrounds ⊢
  obtain ⟨left, hleft, hfirst⟩ := first (t ++ rest) rounds (hfit rest hrest) hrounds
  obtain ⟨left', hleft', hsecond⟩ := second rest left hrest hleft
  exact ⟨left', hleft', hfirst.trans hsecond⟩

theorem Takes.mono {fit fit' : List Char → Prop} {p q : Parser} {s : List Char}
    (h : Takes fit p s q) (hfit : ∀ rest, fit' rest → fit rest) : Takes fit' p s q :=
  fun rest rounds hrest hrounds => h rest rounds (hfit rest hrest) hrounds

/-- What has been read up to the end of the text. -/
theorem Takes.run {fit : List Char → Prop} {p q : Parser} {s : List Char} (h : Takes fit p s q)
    (hfit : fit []) (hq : q.flags = Flags.plain caseless) : run? (s.length + 1) p s = some q := by
  obtain ⟨left, hleft, hrun⟩ := h [] (s.length + 1) hfit (by simp)
  rw [List.append_nil] at hrun
  rw [hrun]
  match left with
  | left + 1 => rw [run?, hq, skip_plain]

/-- One step of the reader. -/
theorem Takes.step {fit : List Char → Prop} {p q : Parser} {c : Char} {s : List Char}
    (hp : p.flags = Flags.plain caseless)
    (h : ∀ rest : List Char, fit rest → p.step? (c :: (s ++ rest)) = some (q, rest)) :
    Takes fit p (c :: s) q := by
  intro rest rounds hrest hrounds
  match rounds with
  | 0 => omega
  | rounds + 1 =>
    refine ⟨rounds, ?_, ?_⟩
    · simp only [List.cons_append, List.length_cons, List.length_append] at hrounds
      omega
    · rw [List.cons_append, run?, hp, skip_plain]
      simp [h rest hrest]

variable {p : Parser} (hp : p.flags = Flags.plain caseless)

include hp

/-- A character without a meaning of its own. -/
theorem takes_literal {c : Char}
    (hc : c ∉ ['(', ')', '|', '[', '?', '*', '+', '{', '\\', '.', '^', '$']) :
    Takes Anything p [c] (p.push { regex := .set ((Flags.plain caseless).single c) }) := by
  refine Takes.step hp fun rest _ => ?_
  rw [List.nil_append, ← hp, step?]
  · rfl
  all_goals
    rintro rfl
    exact absurd hc (by decide)

/-- A character with a meaning of its own, behind a backslash. -/
theorem takes_escaped {c : Char}
    (hc : c ∈ ['.', '+', '?', '$', '{', '}', '(', ')', '[', ']', '\\', '|']) :
    Takes Anything p ['\\', c] (p.push { regex := .set ((Flags.plain caseless).single c) }) := by
  refine Takes.step hp fun rest _ => ?_
  have hread : Escape.read? (Flags.plain caseless) (c :: rest) = some (.literal c, rest) := by
    simp only [List.mem_cons, List.not_mem_nil, or_false] at hc
    rcases hc with rfl | rfl | rfl | rfl | rfl | rfl | rfl | rfl | rfl | rfl | rfl | rfl <;> rfl
  show ((Escape.read? p.flags (c :: rest)).bind fun x =>
    (escaped? p.flags x.1).bind fun regex => some (p.push { regex }, x.2)) = _
  rw [hp, hread]
  rfl

/-- A dot. -/
theorem takes_dot : Takes Anything p ['.'] (p.push { regex := .set (.compl (.char '\n')) }) := by
  refine Takes.step hp fun rest _ => ?_
  show (dot? p.flags).map (fun regex => (p.push { regex }, rest)) = _
  rw [hp]
  rfl

/-- An assertion that a match starts with the text. -/
theorem takes_caret : Takes Anything p ['^'] (p.push { regex := .assert .textStart }) := by
  refine Takes.step hp fun rest _ => ?_
  show some (p.push { regex := .assert (caret p.flags) }, rest) = _
  rw [hp]
  rfl

/-- An assertion that a match ends with the text. -/
theorem takes_dollar : Takes Anything p ['$'] (p.push { regex := .assert .textEnd }) := by
  refine Takes.step hp fun rest _ => ?_
  show some (p.push { regex := .assert (dollar p.flags) }, rest) = _
  rw [hp]
  rfl

/-- A class that lists characters, none of them twice in a row, behind what opens it. -/
theorem takes_listing (opening cs : List Char) (cls : OpenClass) (part : ClassPart)
    (hstart : ∀ rest, Bracket.start (Flags.plain caseless) (opening ++ (cs ++ ']' :: rest)) =
      (cls, cs ++ ']' :: rest))
    (hcs : ∀ c ∈ cs, c ∉ ['[', ']', '\\', '-']) (hchain : cs.IsChain (· ≠ ·))
    (hclose : (cs.foldl (fun cls c => cls.push ⟨(Flags.plain caseless).single c, 0⟩) cls).close?
      (Flags.plain caseless) = some part) :
    Takes Anything p ('[' :: (opening ++ (cs ++ [']'])))
      (p.push { regex := .set part.set, depth := part.depth }) := by
  refine Takes.step hp fun rest _ => ?_
  have hread : Bracket.parse? (Flags.plain caseless) (opening ++ (cs ++ ']' :: rest)) =
      some (part, rest) := by
    have hrounds : (cs ++ ']' :: rest).length + 1 = cs.length + 1 + (rest.length + 1) := by
      simp
      omega
    unfold Bracket.parse?
    rw [hstart]
    dsimp only
    rw [hrounds, Bracket.parseFrom_chars hcs hchain, hclose]
    rfl
  have hjoin : opening ++ (cs ++ [']']) ++ rest = opening ++ (cs ++ ']' :: rest) := by simp
  show (Bracket.parse? p.flags (opening ++ (cs ++ [']']) ++ rest)).map (fun x =>
    (p.push { regex := .set x.1.set, depth := x.1.depth }, x.2)) = _
  rw [hp, hjoin, hread]
  rfl

omit hp in
/-- What stands in the way of a repetition is a question mark only. -/
theorem dropReluctant_of_unmarked {s : List Char} (h : Unmarked s) : dropReluctant s = s := by
  unfold Unmarked at h
  unfold dropReluctant
  split <;> simp_all

/-- A repetition of the part before it. -/
theorem takes_repeat {c : Char} {min : Nat} {max : Option Nat} {part : Part} {parts : List Part}
    (hc : (c, min, max) ∈ [('?', 0, some 1), ('*', 0, none), ('+', 1, none)])
    (hparts : p.parts = part :: parts) (hpart : part.repeatable = true) :
    Takes Unmarked p [c] { p with
      parts := { regex := .rep part.regex min max, depth := 1 + part.depth } :: parts } := by
  refine Takes.step hp fun rest hrest => ?_
  have hdrop := dropReluctant_of_unmarked hrest
  have hrepeat : p.repeat? min max = some { p with
      parts := { regex := .rep part.regex min max, depth := 1 + part.depth } :: parts } := by
    unfold repeat?
    rw [hparts]
    exact if_pos hpart
  have hstep : p.step? (c :: rest) = (p.repeat? min max).map fun q => (q, dropReluctant rest) := by
    simp only [List.mem_cons, Prod.mk.injEq, List.not_mem_nil, or_false] at hc
    rcases hc with ⟨rfl, rfl, rfl⟩ | ⟨rfl, rfl, rfl⟩ | ⟨rfl, rfl, rfl⟩ <;> rfl
  rw [List.nil_append, hstep, hrepeat, hdrop]
  rfl

section Repetitions

variable {part : Part} {parts : List Part} (hparts : p.parts = part :: parts)
  (hpart : part.repeatable = true)

include hparts hpart

theorem takes_question : Takes Unmarked p ['?'] { p with
    parts := { regex := .rep part.regex 0 (some 1), depth := 1 + part.depth } :: parts } :=
  takes_repeat hp (by decide) hparts hpart

theorem takes_star : Takes Unmarked p ['*'] { p with
    parts := { regex := .rep part.regex 0 none, depth := 1 + part.depth } :: parts } :=
  takes_repeat hp (by decide) hparts hpart

theorem takes_plus : Takes Unmarked p ['+'] { p with
    parts := { regex := .rep part.regex 1 none, depth := 1 + part.depth } :: parts } :=
  takes_repeat hp (by decide) hparts hpart

end Repetitions

/-- The opening parenthesis of a group without flags or name. -/
theorem takes_open : Takes Unmarked p ['('] (p.enter p.flags) := by
  refine Takes.step hp fun rest hrest => ?_
  have hopen : p.openGroup? rest = some (p.enter p.flags, rest) := by
    unfold Unmarked at hrest
    rw [openGroup?, hp, skip_plain]
    split <;> simp_all
  show p.openGroup? rest = _
  rw [hopen]

/-- The closing parenthesis of a group. -/
theorem takes_close {q : Parser} (hq : p.closeGroup? = some q) : Takes Anything p [')'] q := by
  refine Takes.step hp fun rest _ => ?_
  show p.closeGroup?.map (fun q => (q, rest)) = _
  rw [hq]
  rfl

end Parser

end ContentBlocker.Regex.Syntax
