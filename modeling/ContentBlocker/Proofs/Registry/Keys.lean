import ContentBlocker.Registry.Key

/-!
# Keys of identifiers

The key of an identifier is its text without white space, so identifiers share a key exactly if they
differ in white space only (`Key.ofIdentifier_eq_iff`). The key can be registered under unless the
identifier is blank or holds a separator of paths (`Key.isValid_ofIdentifier_iff`).
-/

namespace ContentBlocker.Key

/-- Whether no list can be registered under an identifier: it is blank, or holds a separator of
paths. -/
def IsUnusable (identifier : String) : Prop :=
  (∀ c ∈ identifier.toList, Text.isSpace c = true) ∨ ∃ c ∈ identifier.toList, c = '/' ∨ c = '\\'

theorem isSeparator_eq_true_iff {c : Char} : isSeparator c = true ↔ c = '/' ∨ c = '\\' := by
  simp [isSeparator]

theorem isSpace_of_isSeparator {c : Char} (h : isSeparator c = true) : Text.isSpace c = false := by
  rcases isSeparator_eq_true_iff.mp h with rfl | rfl <;> decide

theorem ofIdentifier_eq_iff {identifier other : String} :
    ofIdentifier identifier = ofIdentifier other ↔
      Text.dropSpaces identifier.toList = Text.dropSpaces other.toList :=
  String.ofList_inj

theorem isValid_ofIdentifier_iff {identifier : String} :
    isValid (ofIdentifier identifier) = true ↔ ¬IsUnusable identifier := by
  have hblank : (ofIdentifier identifier).isEmpty = false ↔
      ¬∀ c ∈ identifier.toList, Text.isSpace c = true := by
    rw [← Bool.not_eq_true, String.isEmpty_iff, ofIdentifier, Text.dropSpaces,
      String.ofList_eq_empty_iff, List.filter_eq_nil_iff]
    simp
  have hseparator : ((ofIdentifier identifier).toList.all fun c =>
        !Text.isSpace c && !isSeparator c) = true ↔
      ¬∃ c ∈ identifier.toList, c = '/' ∨ c = '\\' := by
    rw [ofIdentifier, String.toList_ofList, Text.dropSpaces, List.all_eq_true]
    constructor
    · rintro h ⟨c, hc, hseparator⟩
      have hseparator := isSeparator_eq_true_iff.mpr hseparator
      have hkept := h c (List.mem_filter.mpr ⟨hc, by simp [isSpace_of_isSeparator hseparator]⟩)
      simp [hseparator] at hkept
    · intro h c hc
      obtain ⟨hmem, hkept⟩ := List.mem_filter.mp hc
      have hnone : isSeparator c = false := by
        rw [← Bool.not_eq_true, isSeparator_eq_true_iff]
        exact fun hseparator => h ⟨c, hmem, hseparator⟩
      rw [hkept, hnone]
      rfl
  unfold isValid IsUnusable
  rw [Bool.and_eq_true, Bool.not_eq_true', hblank, hseparator, not_or]

end ContentBlocker.Key
