import ContentBlocker.Proofs.Rule.Checking
import ContentBlocker.Proofs.Rule.RoundTrip

/-!
# Compiling encoded rules

Rules that have all they need (`Rule.IsComplete`) are compiled one by one, unless one of them names
both sites to act on and sites to leave alone. Then the whole list is refused, and the error tells
where the first such rule stands (`compile_encodeList_of_contradictory`).
-/

namespace ContentBlocker

namespace CompiledList

variable [FilterReader]

theorem compile_encodeList {rules : List Rule} (hne : rules ≠ []) (identifier : String) :
    compile identifier (Rule.encodeList rules) = (compileRules identifier 0 rules).map
      fun rules' => ⟨identifier, rules', (Rule.encodeList rules).utf8ByteSize⟩ :=
  compile_of_decodeList? (Rule.decodeList?_encodeList rules) hne identifier

/-- The first contradictory rule is the one that the error tells about. -/
theorem compileRules_of_contradictory {rules : List Rule} (hcomplete : ∀ r ∈ rules, r.IsComplete)
    (hsome : ∃ r ∈ rules, r.isContradictory = true) (identifier : String) (index : Nat) :
    compileRules identifier index rules =
      .error (.conflictingDomains identifier (index + rules.findIdx (·.isContradictory))) := by
  have hlt : rules.findIdx (·.isContradictory) < rules.length := List.findIdx_lt_length.mpr hsome
  have hrules : rules = rules.take (rules.findIdx (·.isContradictory)) ++
      rules[rules.findIdx (·.isContradictory)] ::
        rules.drop (rules.findIdx (·.isContradictory) + 1) := by
    rw [← List.drop_eq_getElem_cons hlt, List.take_append_drop]
  refine compileRules_eq_error_iff.mpr ⟨_, _, _, hrules, fun x hx => ?_, ?_⟩
  · obtain ⟨i, hi, rfl⟩ := List.mem_iff_getElem.mp hx
    rw [List.length_take, Nat.lt_min] at hi
    rw [List.getElem_take]
    exact ⟨hcomplete _ (List.getElem_mem hi.2),
      Bool.eq_false_iff.mpr (by simpa using List.not_of_lt_findIdx hi.1)⟩
  · rw [List.length_take, Nat.min_eq_left (Nat.le_of_lt hlt)]
    exact .domains (List.findIdx_getElem (w := hlt))

variable {rules : List Rule} (hne : rules ≠ []) (hcomplete : ∀ r ∈ rules, r.IsComplete)

include hne hcomplete

theorem compile_encodeList_of_complete (hnone : ∀ r ∈ rules, r.isContradictory = false)
    (identifier : String) :
    ∃ list, compile identifier (Rule.encodeList rules) = .ok list ∧
      List.Forall₂ CompiledRule.IsOf rules list.rules := by
  obtain ⟨compiled, hcompiled⟩ :=
    exists_compileRules (fun r hr => ⟨hcomplete r hr, hnone r hr⟩) identifier 0
  rw [compile_encodeList hne, hcompiled]
  exact ⟨_, rfl, isOf_of_compileRules hcompiled⟩

theorem compile_encodeList_of_contradictory (hsome : ∃ r ∈ rules, r.isContradictory = true)
    (identifier : String) :
    compile identifier (Rule.encodeList rules) =
      .error (.conflictingDomains identifier (rules.findIdx (·.isContradictory))) := by
  rw [compile_encodeList hne, compileRules_of_contradictory hcomplete hsome, Nat.zero_add]
  rfl

end CompiledList

end ContentBlocker
