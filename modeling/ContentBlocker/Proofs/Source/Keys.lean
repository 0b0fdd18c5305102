import ContentBlocker.Proofs.Registry.Keys
import ContentBlocker.Source
import Mathlib.Data.List.Nodup

/-!
# Keys of sources

Sources pass the check exactly when their keys differ (`Source.checkAll_eq_ok_iff`); otherwise it
names the first source with the key of an earlier one (`Source.exists_of_not_nodup_keys`). The key
of a source that has been made is one that the registry accepts, so its identifier holds no slash.
-/

namespace ContentBlocker

namespace Source

/-! ### Keys that are repeated -/

/-- The source that is found has the key of one before it, and up to there all keys differ. -/
theorem exists_of_firstRepeated? {sources : List Source} {seen : List String} {s : Source}
    (h : firstRepeated? seen sources = some s) :
    ∃ earlier later, sources = earlier ++ s :: later ∧ (earlier.map key).Nodup ∧
      (∀ other ∈ earlier, other.key ∉ seen) ∧ (s.key ∈ seen ∨ s.key ∈ earlier.map key) := by
  induction sources generalizing seen with
  | nil => cases h
  | cons first sources ih =>
    rw [firstRepeated?] at h
    split at h
    · rename_i hseen
      obtain rfl := Option.some.inj h
      exact ⟨[], sources, rfl, .nil, by simp, .inl (by simpa using hseen)⟩
    · rename_i hseen
      obtain ⟨earlier, later, rfl, hnodup, hfresh, hrepeated⟩ := ih h
      refine ⟨first :: earlier, later, rfl, ?_, ?_, ?_⟩
      · refine List.nodup_cons.mpr ⟨fun hmem => ?_, hnodup⟩
        obtain ⟨other, hother, hkey⟩ := List.mem_map.mp hmem
        exact hfresh other hother (hkey ▸ List.mem_cons_self ..)
      · intro other hother
        rcases List.mem_cons.mp hother with rfl | hother
        · simpa using hseen
        · exact fun hmem => hfresh other hother (List.mem_cons_of_mem _ hmem)
      · rw [List.map_cons, List.mem_cons]
        rcases hrepeated with hmem | hmem
        · rcases List.mem_cons.mp hmem with heq | hmem
          · exact .inr (.inl heq)
          · exact .inl hmem
        · exact .inr (.inr hmem)

theorem firstRepeated?_eq_none {sources : List Source} {seen : List String}
    (hnodup : (sources.map key).Nodup) (hfresh : ∀ s ∈ sources, s.key ∉ seen) :
    firstRepeated? seen sources = none := by
  cases h : firstRepeated? seen sources with
  | none => rfl
  | some s =>
    obtain ⟨earlier, later, rfl, _, _, hseen | hmem⟩ := exists_of_firstRepeated? h
    · exact absurd hseen (hfresh s (by simp))
    · rw [List.map_append, List.map_cons] at hnodup
      exact absurd (List.mem_cons_self ..) (List.disjoint_of_nodup_append hnodup hmem)

theorem nodup_keys_of_firstRepeated? {sources : List Source} {seen : List String}
    (h : firstRepeated? seen sources = none) :
    (sources.map key).Nodup ∧ ∀ s ∈ sources, s.key ∉ seen := by
  induction sources generalizing seen with
  | nil => exact ⟨.nil, by simp⟩
  | cons s sources ih =>
    rw [firstRepeated?] at h
    split at h
    · simp at h
    · rename_i hseen
      obtain ⟨hnodup, hfresh⟩ := ih h
      have hs : s.key ∉ seen := by simpa using hseen
      have hnew : s.key ∉ sources.map key := by
        intro hmem
        obtain ⟨other, hother, hkey⟩ := List.mem_map.mp hmem
        exact hfresh other hother (by simp [hkey])
      refine ⟨List.nodup_cons.mpr ⟨hnew, hnodup⟩, fun other hother => ?_⟩
      rcases List.mem_cons.mp hother with rfl | hother
      · exact hs
      · exact fun hmem => hfresh other hother (List.mem_cons_of_mem _ hmem)

theorem checkAll_eq_ok_iff {sources : List Source} :
    checkAll sources = .ok () ↔ (sources.map key).Nodup := by
  unfold checkAll
  constructor
  · intro h
    split at h
    · cases h
    · rename_i hnone
      exact (nodup_keys_of_firstRepeated? hnone).1
  · intro h
    rw [firstRepeated?_eq_none h (by simp)]

theorem nodup_keys_of_checkAll {sources : List Source} (h : checkAll sources = .ok ()) :
    (sources.map key).Nodup :=
  checkAll_eq_ok_iff.mp h

/-- Where keys are repeated, the first source is named whose key an earlier one has. -/
theorem exists_of_not_nodup_keys {sources : List Source} (h : ¬(sources.map key).Nodup) :
    ∃ earlier s later, sources = earlier ++ s :: later ∧ (earlier.map key).Nodup ∧
      s.key ∈ earlier.map key ∧
      checkAll sources = .error (.invalidInput (.duplicateIdentifier s.identifier)) := by
  cases hrepeated : firstRepeated? [] sources with
  | none => exact absurd (nodup_keys_of_firstRepeated? hrepeated).1 h
  | some s =>
    obtain ⟨earlier, later, hsources, hnodup, _, hseen | hmem⟩ := exists_of_firstRepeated? hrepeated
    · cases hseen
    · refine ⟨earlier, s, later, hsources, hnodup, hmem, ?_⟩
      unfold checkAll
      rw [hrepeated]

/-! ### Keys that are valid -/

theorem eq_of_make [UrlChecker] {identifier location : String} {s : Source}
    (h : make identifier location = .ok s) : s = { identifier, location } := by
  unfold make at h
  split at h
  · cases h
  · split at h
    · cases h
    · split at h
      · cases h
      · exact (Except.ok.inj h).symm

/-- A list can be registered under the key of a source that has been made. -/
theorem isValid_key_of_make [UrlChecker] {identifier location : String} {s : Source}
    (h : make identifier location = .ok s) : Key.isValid s.key = true := by
  unfold make at h
  split at h
  · simp at h
  · rename_i hblank
    split at h
    · simp at h
    · rename_i hseparator
      split at h
      · simp at h
      · obtain rfl := Except.ok.inj h
        refine Key.isValid_ofIdentifier_iff.mpr ?_
        rintro (hspace | ⟨c, hc, hslash⟩)
        · exact hblank (List.all_eq_true.mpr hspace)
        · exact hseparator (List.any_eq_true.mpr ⟨c, hc, Key.isSeparator_eq_true_iff.mpr hslash⟩)

end Source

/-- An identifier with a valid key holds no slash. -/
theorem slash_not_mem_of_isValid {s : Source} (h : Key.isValid s.key = true) :
    '/' ∉ s.identifier.toList := by
  intro hmem
  exact Key.isValid_ofIdentifier_iff.mp h (.inr ⟨'/', hmem, .inl rfl⟩)

end ContentBlocker
