import ContentBlocker.Json.Reader
import ContentBlocker.Json.Writer

/-!
# Reading back compact JSON

The compact text of a value is read as that value (`read?_write`), for values without numbers whose
strings are all texts. Such values are closed under arrays and objects, so the fact is kept as a
predicate (`ReadsBack`) with one lemma for each way to build a value.

The reader is a machine over characters that is bounded by a number of rounds. `Moves a t b` says
that taking up the text `t` leads from one state to another whatever follows `t`; the rounds are
dealt with there once, and moves are put together by `Moves.trans`.
-/

namespace ContentBlocker.Json

/-! ### Strings -/

theorem hexDigit?_hexDigit : ∀ n < 16, hexDigit? (hexDigit n) = some n := by
  decide

/-- A written character is taken up as one unit, whatever its escape. -/
theorem scanString_escape (c : Char) (s : List Char) (units : List Nat) :
    scanString (escape c ++ s) units = scanString s (c.toNat :: units) := by
  unfold escape
  split
  -- the characters without a short escape: four hexadecimal digits, or the character itself
  case h_8 hquote hslash _ _ _ _ _ =>
    split
    · rename_i hlow
      have high := hexDigit?_hexDigit (c.toNat / 16) (by omega)
      have low := hexDigit?_hexDigit (c.toNat % 16) (by omega)
      have zero : hexDigit? '0' = some 0 := by decide
      have back : c.toNat / 16 * 16 + c.toNat % 16 = c.toNat := by omega
      simp [scanString, hex4?, high, low, zero, back]
    · rename_i hlow
      rw [List.singleton_append, scanString.eq_5 _ _ _ hquote (by simp_all) (by simp_all)]
      simp [hlow]
  all_goals simp [scanString, escaped?]

theorem scanString_quoted (s rest : List Char) (units : List Nat) :
    scanString (s.flatMap escape ++ '"' :: rest) units
      = some (units.reverse ++ s.map Char.toNat, rest) := by
  induction s generalizing units with
  | nil => simp [scanString]
  | cons c s ih =>
    rw [List.flatMap_cons, List.append_assoc, scanString_escape, ih]
    simp

/-- No character is a surrogate. -/
theorem not_surrogate (c : Char) : c.toNat < 0xD800 ∨ 0xE000 ≤ c.toNat := by
  have h := c.valid
  simp only [UInt32.isValidChar, Nat.isValidChar] at h
  show c.val.toNat < 0xD800 ∨ 0xE000 ≤ c.val.toNat
  omega

theorem spell?_map_toNat (s : List Char) : spell? (s.map Char.toNat) = some s := by
  match s with
  | [] => rfl
  | [c] =>
    have h := not_surrogate c
    rw [List.map_singleton, spell?, if_neg (by omega), Char.ofNat_toNat]
  | c :: d :: s =>
    have h := not_surrogate c
    have ih := spell?_map_toNat (d :: s)
    rw [List.map_cons] at ih
    rw [List.map_cons, List.map_cons, spell?, if_neg (by omega), if_neg (by omega), ih]
    simp [Char.ofNat_toNat]

theorem next?_quote (s : String) (rest : List Char) :
    Token.next? '"' (s.toList.flatMap escape ++ '"' :: rest) = some (.string (some s), rest) := by
  simp [Token.next?, scanString_quoted, spell?_map_toNat, String.ofList_toList]

/-! ### Moves of the reader -/

/-- Taking up a text moves the reader from one state to another, whatever follows the text. Rounds
are counted only as far as there are enough of them for the rest. -/
def Moves (a : State) (text : List Char) (b : State) : Prop :=
  ∀ (rest : List Char) (rounds : Nat), (text ++ rest).length < rounds →
    ∃ left, rest.length < left ∧ readFrom rounds a (text ++ rest) = readFrom left b rest

theorem Moves.trans {a b c : State} {s t : List Char} (first : Moves a s b)
    (second : Moves b t c) : Moves a (s ++ t) c := by
  intro rest rounds hrounds
  rw [List.append_assoc] at hrounds ⊢
  obtain ⟨left, hleft, hfirst⟩ := first (t ++ rest) rounds hrounds
  obtain ⟨left', hleft', hsecond⟩ := second rest left hleft
  exact ⟨left', hleft', hfirst.trans hsecond⟩

/-- A token that a state accepts is one move. -/
theorem Moves.token {a b : State} {c : Char} {t : List Char} {token : Token}
    (hblank : isBlank c = false)
    (hnext : ∀ rest, Token.next? c (t ++ rest) = some (token, rest))
    (hstep : a.step? token = some b) : Moves a (c :: t) b := by
  intro rest rounds hrounds
  match rounds with
  | 0 => omega
  | rounds + 1 =>
    refine ⟨rounds, ?_, ?_⟩
    · simp only [List.cons_append, List.length_cons, List.length_append] at hrounds
      omega
    · simp [readFrom, hblank, hnext, hstep]

/-- A text between quotes is one move. -/
theorem Moves.quote {a b : State} {s : String} (hstep : a.step? (.string (some s)) = some b) :
    Moves a (quote s) b := by
  refine Moves.token (by decide) (fun rest => ?_) hstep
  rw [List.append_assoc, List.singleton_append, next?_quote]

/-- A state in which every token but a closing bracket begins a value inside the frames. -/
def State.Opens (a : State) (frames : List Frame) : Prop :=
  ∀ token, token ≠ .closeArray → a.step? token = begin? frames token

theorem opens_value (frames : List Frame) : (State.value frames).Opens frames := by
  intro token _
  rfl

theorem opens_firstItem (frames : List Frame) :
    (State.firstItem frames).Opens (.items [] :: frames) := by
  intro token htoken
  cases token <;> first | rfl | exact absurd rfl htoken

/-! ### Values that are read back -/

/-- Wherever a value may begin, its compact text is read as that value. -/
def ReadsBack (j : Json) : Prop :=
  ∀ (a : State) (frames : List Frame), a.Opens frames → Moves a (write j) (.complete j frames)

theorem readsBack_bool (b : Bool) : ReadsBack (.bool b) := by
  intro a frames ha
  cases b with
  | true =>
    have hword : write (.bool true) = 't' :: "rue".toList := by decide
    rw [hword]
    exact Moves.token (by decide) (fun rest => rfl) (ha (.bool true) (by simp))
  | false =>
    have hword : write (.bool false) = 'f' :: "alse".toList := by decide
    rw [hword]
    exact Moves.token (by decide) (fun rest => rfl) (ha (.bool false) (by simp))

theorem readsBack_string (s : String) : ReadsBack (.string (some s)) := by
  intro a frames ha
  exact Moves.quote (ha _ (by simp))

/-- The items that are left, behind those that are done. -/
theorem moves_writeItems {items : List Json} (hne : items ≠ [])
    (hitems : ∀ item ∈ items, ReadsBack item) (a : State) (done : List Json)
    (frames : List Frame) (ha : a.Opens (.items done :: frames)) :
    Moves a (writeItems items) (.complete (.array (done.reverse ++ items)) frames) := by
  -- the state changes after the first item, hence the general one that opens values
  induction items generalizing a done with
  | nil => exact absurd rfl hne
  | cons item items ih =>
    have hitem := hitems item (by simp) a _ ha
    cases items with
    | nil =>
      have hclose : Moves (.complete item (.items done :: frames)) [']']
          (.complete (.array (done.reverse ++ [item])) frames) :=
        Moves.token (t := []) (by decide) (fun rest => rfl) (by simp [State.step?])
      exact hitem.trans hclose
    | cons next items =>
      have hcomma : Moves (.complete item (.items done :: frames)) [',']
          (.value (.items (item :: done) :: frames)) :=
        Moves.token (t := []) (by decide) (fun rest => rfl) rfl
      have hrest := ih (by simp) (fun x hx => hitems x (by simp_all)) _ (item :: done)
        (opens_value _)
      have hall := (hitem.trans hcomma).trans hrest
      simpa [writeItems] using hall

theorem readsBack_array {items : List Json} (hitems : ∀ item ∈ items, ReadsBack item) :
    ReadsBack (.array items) := by
  intro a frames ha
  have hopen : Moves a ['['] (.firstItem frames) :=
    Moves.token (t := []) (by decide) (fun rest => rfl) (ha .openArray (by simp))
  cases items with
  | nil =>
    have hclose : Moves (.firstItem frames) [']'] (.complete (.array []) frames) :=
      Moves.token (t := []) (by decide) (fun rest => rfl) rfl
    exact hopen.trans hclose
  | cons item items =>
    have hrest := moves_writeItems (by simp) hitems _ [] frames (opens_firstItem frames)
    exact hopen.trans hrest

/-- A name and its value, from a state that takes a name. -/
theorem moves_member {name : String} {value : Json} (hvalue : ReadsBack value) {a : State}
    {done : List (Option String × Json)} {frames : List Frame}
    (ha : a.step? (.string (some name)) = some (.colon done (some name) frames)) :
    Moves a (quote name ++ ':' :: write value)
      (.complete value (.members done (some name) :: frames)) := by
  have hcolon : Moves (.colon done (some name) frames) [':']
      (.value (.members done (some name) :: frames)) :=
    Moves.token (t := []) (by decide) (fun rest => rfl) rfl
  exact (Moves.quote ha).trans (hcolon.trans (hvalue _ _ (opens_value _)))

/-- The members that are left, behind those that are done. -/
theorem moves_writeMembers {members : List (String × Json)} (hne : members ≠ [])
    (hmembers : ∀ m ∈ members, ReadsBack m.2) (a : State)
    (done : List (Option String × Json)) (frames : List Frame)
    (ha : ∀ name, a.step? (.string (some name)) = some (.colon done (some name) frames)) :
    Moves a (writeMembers (members.map fun m => (some m.1, m.2)))
      (.complete (.object (done.reverse ++ members.map fun m => (some m.1, m.2))) frames) := by
  induction members generalizing a done with
  | nil => exact absurd rfl hne
  | cons m members ih =>
    obtain ⟨name, value⟩ := m
    have hmember := moves_member (hmembers _ (List.mem_cons_self ..)) (ha name)
    cases members with
    | nil =>
      have hclose : Moves (.complete value (.members done (some name) :: frames)) ['}']
          (.complete (.object (done.reverse ++ [(some name, value)])) frames) :=
        Moves.token (t := []) (by decide) (fun rest => rfl) (by simp [State.step?])
      have hall := hmember.trans hclose
      simpa [writeMembers] using hall
    | cons next members =>
      have hcomma : Moves (.complete value (.members done (some name) :: frames)) [',']
          (.name ((some name, value) :: done) frames) :=
        Moves.token (t := []) (by decide) (fun rest => rfl) rfl
      have hrest := ih (by simp) (fun x hx => hmembers x (by simp_all))
        (.name ((some name, value) :: done) frames) ((some name, value) :: done) (fun _ => rfl)
      have hall := (hmember.trans hcomma).trans hrest
      simpa [writeMembers] using hall

theorem readsBack_object {members : List (String × Json)}
    (hmembers : ∀ m ∈ members, ReadsBack m.2) :
    ReadsBack (.object (members.map fun m => (some m.1, m.2))) := by
  intro a frames ha
  have hopen : Moves a ['{'] (.firstName frames) :=
    Moves.token (t := []) (by decide) (fun rest => rfl) (ha .openObject (by simp))
  cases members with
  | nil =>
    have hclose : Moves (.firstName frames) ['}'] (.complete (.object []) frames) :=
      Moves.token (t := []) (by decide) (fun rest => rfl) rfl
    exact hopen.trans hclose
  | cons m members =>
    have hrest := moves_writeMembers (by simp) hmembers (.firstName frames) [] frames
      (fun _ => rfl)
    exact hopen.trans hrest

/-- The compact text of such a value holds the value and nothing else. -/
theorem read?_write {j : Json} (hj : ReadsBack j) : read? (String.ofList (write j)) = some j := by
  obtain ⟨left, hleft, hread⟩ := hj (.value []) [] (opens_value []) [] ((write j).length + 1)
    (by simp)
  rw [List.append_nil] at hread
  match left with
  | 0 => omega
  | left + 1 => simp [read?, hread, readFrom]

end ContentBlocker.Json
