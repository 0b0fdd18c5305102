import ContentBlocker.Proofs.Filter.PlainLines
import ContentBlocker.Proofs.Unicode.CaseFold

/-!
# Host names

A host name is a row of labels with dots between them (`IsHostName`). Its characters are few, all of
ASCII, and none of them means anything in a line, a pattern or a URL; what holds of each of them is
checked one by one (`forall_isHostChar`). Two texts of such characters that fold to the same are the
same but for the case of their letters (`folded_eq_iff`).
-/

namespace ContentBlocker.Filter

/-! ### Host names -/

/-- Whether a character may stand in a label of a host name. -/
def isLabelChar (c : Char) : Bool :=
  c.isAlphanum || c == '-'

/-- Whether a text is a host name: at least two labels with dots between them, none of which is
empty. -/
def IsHostName (s : List Char) : Prop :=
  ∃ labels : List (List Char), s = ['.'].intercalate labels ∧ 2 ≤ labels.length ∧
    ∀ label ∈ labels, label ≠ [] ∧ label.all isLabelChar = true

/-- Whether a host is a domain or a name under it; the case of letters does not count. -/
def StandsUnder (domain host : List Char) : Prop :=
  Text.lower host = Text.lower domain ∨ '.' :: Text.lower domain <:+ Text.lower host

instance (domain host : List Char) : Decidable (StandsUnder domain host) :=
  inferInstanceAs (Decidable (_ ∨ _))

/-! ### Their characters -/

/-- Whether a character may stand in a host name. -/
def isHostChar (c : Char) : Bool :=
  isLabelChar c || c == '.'

/-- What holds of the characters of ASCII one by one. -/
theorem forall_ascii {p : Char → Bool} (h : ((List.range 128).map Char.ofNat).all p = true)
    {c : Char} (hc : Text.isAscii c = true) : p c = true := by
  have hlt : c.toNat < 128 := by simpa [Text.isAscii] using hc
  rw [List.all_eq_true] at h
  exact h c (List.mem_map.mpr ⟨c.toNat, List.mem_range.mpr hlt, Char.ofNat_toNat c⟩)

/-- The letter `z` is the last of the letters and digits. -/
theorem toNat_le_of_isAlphanum {c : Char} (h : c.isAlphanum = true) : c.toNat ≤ 122 := by
  have hcases : (c.isUpper || c.isLower || c.isDigit) = true := h
  rw [Bool.or_eq_true, Bool.or_eq_true] at hcases
  rcases hcases with (h | h) | h
  · have hle : c.toNat ≤ 90 := UInt32.le_iff_toNat_le.mp (of_decide_eq_true h).2
    omega
  · exact UInt32.le_iff_toNat_le.mp (of_decide_eq_true (Bool.and_eq_true_iff.mp h).2)
  · have hle : c.toNat ≤ 57 :=
      UInt32.le_iff_toNat_le.mp (of_decide_eq_true (Bool.and_eq_true_iff.mp h).2)
    omega

theorem isAscii_of_isHostChar {c : Char} (h : isHostChar c = true) : Text.isAscii c = true := by
  unfold isHostChar isLabelChar at h
  rw [Bool.or_eq_true, Bool.or_eq_true, beq_iff_eq, beq_iff_eq] at h
  rcases h with (h | rfl) | rfl
  · have hle := toNat_le_of_isAlphanum h
    exact decide_eq_true (by omega)
  · decide
  · decide

/-- What holds of the characters of host names one by one. -/
theorem forall_isHostChar {p : Char → Bool}
    (h : (((List.range 128).map Char.ofNat).filter isHostChar).all p = true) {c : Char}
    (hc : isHostChar c = true) : p c = true := by
  have hall : ((List.range 128).map Char.ofNat).all (fun c => !isHostChar c || p c) = true := by
    simpa [List.all_filter] using h
  have himp := forall_ascii hall (isAscii_of_isHostChar hc)
  simpa [hc] using himp

/-- The characters of host names are plain. -/
theorem isPlainChar_of_isHostChar {c : Char} (hc : isHostChar c = true) : isPlainChar c = true :=
  forall_isHostChar (by decide +kernel) hc

theorem isSpace_eq_false_of_isHostChar {s : List Char} (h : ∀ c ∈ s, isHostChar c = true) :
    ∀ c ∈ s, Text.isSpace c = false := by
  intro c hc
  have hnone := forall_isHostChar (p := fun c => !Text.isSpace c) (by decide +kernel) (h c hc)
  simpa using hnone

/-- No character of a host name means anything in a pattern or in a URL. -/
theorem isHostChar_eq_false {c : Char} (hc : c ∈ ['*', '^', '|', '/', ':', '#', '$']) :
    isHostChar c = false := by
  have hall : ['*', '^', '|', '/', ':', '#', '$'].all (!isHostChar ·) = true := by decide
  simpa using List.all_eq_true.mp hall c hc

theorem mem_intercalate_dot {labels : List (List Char)} {c : Char}
    (h : c ∈ ['.'].intercalate labels) : c = '.' ∨ ∃ label ∈ labels, c ∈ label := by
  induction labels with
  | nil => simp at h
  | cons label labels ih =>
    cases labels with
    | nil =>
      rw [List.intercalate_singleton] at h
      exact .inr ⟨label, List.mem_cons_self .., h⟩
    | cons next labels =>
      rw [List.intercalate_cons_cons, List.mem_append, List.mem_append, List.mem_singleton] at h
      rcases h with (h | h) | h
      · exact .inr ⟨label, List.mem_cons_self .., h⟩
      · exact .inl h
      · rcases ih h with h | ⟨other, hother, h⟩
        · exact .inl h
        · exact .inr ⟨other, List.mem_cons_of_mem _ hother, h⟩

namespace IsHostName

variable {s : List Char} (h : IsHostName s)

include h

theorem isHostChar : ∀ c ∈ s, isHostChar c = true := by
  intro c hc
  obtain ⟨labels, rfl, _, hlabels⟩ := h
  unfold Filter.isHostChar
  rcases mem_intercalate_dot hc with rfl | ⟨label, hlabel, hc⟩
  · decide
  · rw [List.all_eq_true.mp (hlabels label hlabel).2 c hc]
    rfl

theorem not_mem {c : Char} (hc : c ∈ ['*', '^', '|', '/', ':', '#', '$']) : c ∉ s := by
  intro hmem
  have htrue := h.isHostChar c hmem
  rw [isHostChar_eq_false hc] at htrue
  exact Bool.false_ne_true htrue

/-- A host name starts with a character of a label, and holds a dot. -/
theorem exists_cons : ∃ c rest, s = c :: rest ∧ isLabelChar c = true ∧ '.' ∈ s := by
  obtain ⟨labels, rfl, htwo, hlabels⟩ := h
  match labels, htwo with
  | label :: next :: labels, _ =>
    obtain ⟨hne, hchars⟩ := hlabels label (List.mem_cons_self ..)
    obtain ⟨c, label, rfl⟩ := List.exists_cons_of_ne_nil hne
    refine ⟨c, label ++ '.' :: ['.'].intercalate (next :: labels), ?_,
      List.all_eq_true.mp hchars c (List.mem_cons_self ..), ?_⟩
    · rw [List.intercalate_cons_cons, List.append_assoc]
      rfl
    · simp [List.intercalate_cons_cons]

theorem ne_nil : s ≠ [] := by
  obtain ⟨c, rest, rfl, _⟩ := h.exists_cons
  exact List.cons_ne_nil c rest

theorem head?_ne_dot : s.head? ≠ some '.' := by
  obtain ⟨c, rest, rfl, hc, _⟩ := h.exists_cons
  intro hdot
  obtain rfl : c = '.' := by simpa using hdot
  exact absurd hc (by decide)

theorem dot_mem : '.' ∈ s := by
  obtain ⟨_, _, _, _, hdot⟩ := h.exists_cons
  exact hdot

end IsHostName

/-! ### Names but for case -/

/-- A text with the case of its letters left out. -/
def folded (s : List Char) : List Nat :=
  s.map fun c => Unicode.foldCode c.toNat

/-- Among the characters of ASCII, case is that of ASCII. -/
theorem foldCode_toNat {c : Char} (hc : Text.isAscii c = true) :
    Unicode.foldCode c.toNat = c.toLower.toNat := by
  have hlt : c.toNat < 128 := by simpa [Text.isAscii] using hc
  have heq := forall_ascii
    (p := fun c => (if 65 ≤ c.toNat ∧ c.toNat ≤ 90 then c.toNat + 32 else c.toNat) ==
      c.toLower.toNat) (by decide +kernel) hc
  rw [Unicode.foldCode_of_lt hlt]
  exact beq_iff_eq.mp heq

theorem folded_eq_iff {s t : List Char} (hs : ∀ c ∈ s, isHostChar c = true)
    (ht : ∀ c ∈ t, isHostChar c = true) : folded s = folded t ↔ Text.lower s = Text.lower t := by
  have hfold : ∀ r : List Char, (∀ c ∈ r, isHostChar c = true) →
      folded r = (Text.lower r).map Char.toNat := by
    intro r hr
    rw [folded, Text.lower, List.map_map]
    exact List.map_congr_left fun c hc => foldCode_toNat (isAscii_of_isHostChar (hr c hc))
  have hinj : Function.Injective Char.toNat := fun a b h => by
    rw [← Char.ofNat_toNat a, h, Char.ofNat_toNat]
  rw [hfold s hs, hfold t ht]
  exact (List.map_injective_iff.mpr hinj).eq_iff

/-- What is a text of host characters but for case holds no slash. -/
theorem slash_not_mem_of_folded_eq {s t : List Char} (ht : ∀ c ∈ t, isHostChar c = true)
    (h : folded s = folded t) : '/' ∉ s := by
  intro hmem
  have hfolded : Unicode.foldCode '/'.toNat ∈ folded t := by
    rw [← h]
    exact List.mem_map.mpr ⟨'/', hmem, rfl⟩
  obtain ⟨c, hc, heq⟩ := List.mem_map.mp hfolded
  have hlower := forall_isHostChar (p := fun c => c.toLower.toNat != '/'.toLower.toNat)
    (by decide +kernel) (ht c hc)
  rw [foldCode_toNat (isAscii_of_isHostChar (ht c hc)), foldCode_toNat (by decide)] at heq
  exact bne_iff_ne.mp hlower heq

end ContentBlocker.Filter
