import ContentBlocker.Proofs.Filter.Translation

/-!
# What tidying does to a list

Tidying changes the form of a list and not what it says (`tidying_keeps_contents`). Take a limit that
no line can exceed. The rules that do not hide elements on every site are, in their order, the first
occurrences of those in the plain list. The distinct selectors of the others are cut into runs of
250, and each run is hidden by one rule.

Each of the three kinds of rules is tidied on its own. That this drops the repetitions in the whole
list is because rules of different kinds do different things (`type_of_convert?`).
-/

namespace ContentBlocker.Filter

/-! ### First occurrences -/

section FirstOccurrences

variable {α : Type} [BEq α] [LawfulBEq α]

/-- What has been seen is left out, and of the rest first occurrences are kept. -/
theorem firstsFrom_eq_eraseDups [Hashable α] (seen : Std.HashSet α) (xs : List α) :
    firstsFrom seen xs = (xs.filter (!seen.contains ·)).eraseDups := by
  fun_induction firstsFrom seen xs with
  | case1 => rfl
  | case2 seen x xs hseen ih =>
    have hdrop : (x :: xs).filter (!seen.contains ·) = xs.filter (!seen.contains ·) := by
      rw [List.filter_cons_of_neg (by simp [hseen])]
    rw [hdrop, ih]
  | case3 seen x xs hseen ih =>
    have hkeep : (x :: xs).filter (!seen.contains ·) = x :: xs.filter (!seen.contains ·) := by
      rw [List.filter_cons_of_pos (by simpa using hseen)]
    have hrest : (xs.filter (!seen.contains ·)).filter (!· == x) =
        xs.filter (!(seen.insert x).contains ·) := by
      rw [List.filter_filter]
      congr 1
      funext y
      rw [Std.HashSet.contains_insert, Bool.not_or, BEq.comm]
    rw [hkeep, List.eraseDups_cons, hrest, ih]

theorem firsts_eq_eraseDups [Hashable α] (xs : List α) : firsts xs = xs.eraseDups := by
  have hall : xs.filter (!(∅ : Std.HashSet α).contains ·) = xs := by
    rw [List.filter_eq_self]
    intro x _
    simp
  rw [firsts, firstsFrom_eq_eraseDups, hall]

/-- A last element is kept if it has not occurred before. -/
theorem eraseDups_concat (xs : List α) (x : α) :
    (xs ++ [x]).eraseDups = if x ∈ xs then xs.eraseDups else xs.eraseDups ++ [x] := by
  rw [List.eraseDups_append, List.removeAll]
  by_cases hx : x ∈ xs
  · simp [hx]
  · simp [hx, List.eraseDups_cons]

/-- Leaving elements out and keeping first occurrences may be done in either order. -/
theorem filter_eraseDups (p : α → Bool) (xs : List α) :
    (xs.filter p).eraseDups = xs.eraseDups.filter p := by
  induction xs using List.reverseRecOn with
  | nil => rfl
  | append_singleton xs x ih =>
    rw [List.filter_append, eraseDups_concat]
    by_cases hp : p x = true
    · rw [List.filter_cons_of_pos hp, List.filter_nil, eraseDups_concat, ih]
      by_cases hx : x ∈ xs
      · rw [if_pos hx, if_pos (List.mem_filter.mpr ⟨hx, hp⟩)]
      · rw [if_neg hx, if_neg fun h => hx (List.mem_of_mem_filter h), List.filter_append,
          List.filter_cons_of_pos hp, List.filter_nil]
    · rw [List.filter_cons_of_neg hp, List.filter_nil, List.append_nil, ih]
      split
      · rfl
      · rw [List.filter_append, List.filter_cons_of_neg hp, List.filter_nil, List.append_nil]

/-- First occurrences stay first occurrences where a function keeps elements apart. -/
theorem map_eraseDups {β : Type} [BEq β] [LawfulBEq β] {f : α → β} {xs : List α}
    (hf : ∀ x ∈ xs, ∀ y ∈ xs, f x = f y → x = y) :
    (xs.map f).eraseDups = xs.eraseDups.map f := by
  induction xs using List.reverseRecOn with
  | nil => rfl
  | append_singleton xs x ih =>
    have hmem : f x ∈ xs.map f ↔ x ∈ xs := by
      constructor
      · intro h
        obtain ⟨y, hy, heq⟩ := List.mem_map.mp h
        rwa [← hf y (List.mem_append_left _ hy) x (by simp) heq]
      · exact List.mem_map_of_mem
    have hrest := ih fun y hy z hz => hf y (List.mem_append_left _ hy) z (List.mem_append_left _ hz)
    rw [List.map_append, List.map_singleton, eraseDups_concat, eraseDups_concat, hrest]
    by_cases hx : x ∈ xs
    · rw [if_pos hx, if_pos (hmem.mpr hx)]
    · rw [if_neg hx, if_neg (mt hmem.mp hx), List.map_append, List.map_singleton]

/-- Where two lists have nothing in common, each keeps its own first occurrences. -/
theorem eraseDups_append_of_disjoint {xs ys : List α} (h : ∀ y ∈ ys, y ∉ xs) :
    (xs ++ ys).eraseDups = xs.eraseDups ++ ys.eraseDups := by
  have hall : ys.removeAll xs = ys := by
    unfold List.removeAll
    rw [List.filter_eq_self]
    intro y hy
    simpa using h y hy
  rw [List.eraseDups_append, hall]

theorem length_eraseDups_le (xs : List α) : xs.eraseDups.length ≤ xs.length := by
  induction xs using List.reverseRecOn with
  | nil => exact le_rfl
  | append_singleton xs x ih =>
    rw [eraseDups_concat, List.length_append]
    split
    · omega
    · rw [List.length_append]
      omega

end FirstOccurrences

/-! ### Groups -/

/-- Whether groups are consecutive runs of a list, none of them empty, and all of the same size but
for the last one, which may be smaller. -/
structure AreGroups {α : Type} (size : Nat) (xs : List α) (groups : List (List α)) : Prop where
  flatten : groups.flatten = xs
  bounds : ∀ group ∈ groups, 0 < group.length ∧ group.length ≤ size
  full : ∀ group ∈ groups.dropLast, group.length = size

theorem areGroups_chunks {α : Type} (n : Nat) (xs : List α) :
    AreGroups (n + 1) xs (chunks n xs) := by
  fun_induction chunks n xs with
  | case1 => exact ⟨rfl, by simp, by simp⟩
  | case2 x xs ih =>
    refine ⟨?_, ?_, ?_⟩
    · rw [List.flatten_cons, ih.flatten, List.cons_append, List.take_append_drop]
    · intro group hgroup
      rcases List.mem_cons.mp hgroup with rfl | hgroup
      · rw [List.length_cons, List.length_take]
        omega
      · exact ih.bounds group hgroup
    · intro group hgroup
      -- the first group is only full if another one follows it
      cases hrest : chunks n (xs.drop n) with
      | nil => simp [hrest] at hgroup
      | cons next groups =>
        rw [hrest, List.dropLast_cons_of_ne_nil (by simp)] at hgroup
        rcases List.mem_cons.mp hgroup with rfl | hgroup
        · have hmore : 0 < (xs.drop n).length := by
            have hnext := ih.bounds next (by rw [hrest]; exact List.mem_cons_self ..)
            rw [← ih.flatten, hrest, List.flatten_cons, List.length_append]
            omega
          rw [List.length_drop] at hmore
          rw [List.length_cons, List.length_take]
          omega
        · exact ih.full group (by rw [hrest]; exact hgroup)

theorem AreGroups.length_le {α : Type} {size : Nat} {xs : List α} {groups : List (List α)}
    (h : AreGroups size xs groups) : groups.length ≤ xs.length := by
  obtain ⟨rfl, hbounds, hfull⟩ := h
  clear hfull
  induction groups with
  | nil => exact le_rfl
  | cons group groups ih =>
    have hfirst := (hbounds group (List.mem_cons_self ..)).1
    have hrest : groups.length ≤ groups.flatten.length :=
      ih (fun g hg => hbounds g (List.mem_cons_of_mem _ hg))
    rw [List.flatten_cons, List.length_append, List.length_cons]
    omega

/-! ### Rules by kind -/

/-- What the rules of a kind do. -/
def Kind.actionType : Kind → ActionType
  | .blocking => .block
  | .cosmetic => .cssDisplayNone
  | .exception => .ignorePreviousRules

theorem type_of_hidingRule? {domains selector : List Char} {r : Rule}
    (h : hidingRule? domains selector = some r) : r.action.type = .cssDisplayNone := by
  unfold hidingRule? at h
  dsimp only at h
  split at h
  · simp at h
  · obtain rfl := Option.some.inj h
    rfl

/-- The kind of a line says what its rule does. -/
theorem type_of_convert? {line : List Char} {kind : Kind} {r : Rule}
    (h : convert? line = some (kind, r)) : r.action.type = kind.actionType := by
  rcases convert?_cases h with ⟨rfl, _, domains, selector, _, hr⟩ | ⟨text, action, haction, _, hr⟩
  · exact type_of_hidingRule? hr
  · obtain ⟨rfl, _, _⟩ := networkRule?_spec hr
    cases kind with
    | blocking => rw [← Option.some.inj haction]; rfl
    | cosmetic => simp [Kind.networkAction?] at haction
    | exception => rw [← Option.some.inj haction]; rfl

theorem type_of_mem_ofKind {lines : List String} {kind : Kind} {r : Rule}
    (h : r ∈ ofKind kind (lines.filterMap (convert? ·.toList))) :
    r.action.type = kind.actionType := by
  obtain ⟨line, _, hconvert⟩ := List.mem_filterMap.mp (mem_ofKind h)
  exact type_of_convert? hconvert

theorem length_ofKind (rules : List (Kind × Rule)) :
    (ofKind .blocking rules).length + (ofKind .cosmetic rules).length +
      (ofKind .exception rules).length = rules.length := by
  induction rules with
  | nil => rfl
  | cons x rules ih =>
    obtain ⟨kind, r⟩ := x
    simp only [ofKind, List.length_map] at ih ⊢
    cases kind with
    | blocking => simp; omega
    | cosmetic => simp; omega
    | exception => simp; omega

/-! ### Generic hiding rules -/

theorem isGenericHiding_eq_false {r : Rule} (h : r.action.type ≠ .cssDisplayNone) :
    isGenericHiding r = false := by
  simp [isGenericHiding, h]

/-- Generic hiding rules differ in their selectors only. -/
theorem eq_of_selector_eq {r r' : Rule} (h : isGenericHiding r = true)
    (h' : isGenericHiding r' = true) (hselector : r.action.selector = r'.action.selector) :
    r = r' := by
  obtain ⟨trigger, type, selector⟩ := r
  obtain ⟨trigger', type', selector'⟩ := r'
  simp only [isGenericHiding, Bool.and_eq_true, decide_eq_true_eq] at h h'
  obtain ⟨rfl, rfl⟩ := h
  obtain ⟨rfl, rfl⟩ := h'
  obtain rfl : selector = selector' := hselector
  rfl

theorem isGenericHiding_of_mem_gathered {selectors : List String} {r : Rule}
    (h : r ∈ gathered selectors) : isGenericHiding r = true := by
  obtain ⟨group, _, rfl⟩ := List.mem_map.mp h
  rfl

theorem map_eq_map_some_filterMap {α β : Type} {f : α → Option β} {xs : List α}
    (h : ∀ x ∈ xs, (f x).isSome = true) : xs.map f = (xs.filterMap f).map some := by
  induction xs with
  | nil => rfl
  | cons x xs ih =>
    obtain ⟨y, hy⟩ := Option.isSome_iff_exists.mp (h x (List.mem_cons_self ..))
    rw [List.map_cons, List.filterMap_cons_some hy, List.map_cons, hy,
      ih fun z hz => h z (List.mem_cons_of_mem x hz)]

/-! ### Lists by kind -/

/-- Whether three lists hold blocking rules, hiding rules with their selectors, and exceptions. -/
structure AreKinds (blocking cosmetic exceptions : List Rule) : Prop where
  blocks : ∀ r ∈ blocking, r.action.type = .block
  hides : ∀ r ∈ cosmetic, r.action.type = .cssDisplayNone
  ignores : ∀ r ∈ exceptions, r.action.type = .ignorePreviousRules
  selects : ∀ r ∈ cosmetic, r.action.selector.isSome = true

/-- The rules that lines become are of three kinds. -/
theorem areKinds_ofKind (lines : List String) :
    AreKinds (ofKind .blocking (lines.filterMap (convert? ·.toList)))
      (ofKind .cosmetic (lines.filterMap (convert? ·.toList)))
      (ofKind .exception (lines.filterMap (convert? ·.toList))) := by
  refine ⟨fun r hr => type_of_mem_ofKind hr, fun r hr => type_of_mem_ofKind hr,
    fun r hr => type_of_mem_ofKind hr, fun r hr => ?_⟩
  obtain ⟨line, _, hconvert⟩ := List.mem_filterMap.mp (mem_ofKind hr)
  exact (isLineRule_of_convert? hconvert).selector (type_of_mem_ofKind hr)

namespace AreKinds

variable {blocking cosmetic exceptions : List Rule} (h : AreKinds blocking cosmetic exceptions)

include h

/-- Part of the rules of each kind are of that kind. -/
theorem mono {blocking' cosmetic' exceptions' : List Rule} (hblocking : blocking' ⊆ blocking)
    (hcosmetic : cosmetic' ⊆ cosmetic) (hexceptions : exceptions' ⊆ exceptions) :
    AreKinds blocking' cosmetic' exceptions' :=
  ⟨fun r hr => h.blocks r (hblocking hr), fun r hr => h.hides r (hcosmetic hr),
    fun r hr => h.ignores r (hexceptions hr), fun r hr => h.selects r (hcosmetic hr)⟩

/-- Only hiding rules are generic. -/
theorem isGenericHiding_eq_false {r : Rule} (hr : r ∈ blocking ∨ r ∈ exceptions) :
    isGenericHiding r = false := by
  have htype : r.action.type ≠ .cssDisplayNone := by
    rcases hr with hr | hr
    · rw [h.blocks r hr]
      decide
    · rw [h.ignores r hr]
      decide
  simp [isGenericHiding, htype]

theorem filter_generic : (blocking ++ cosmetic ++ exceptions).filter isGenericHiding =
    cosmetic.filter isGenericHiding := by
  have hblocking : blocking.filter isGenericHiding = [] := by
    rw [List.filter_eq_nil_iff]
    intro r hr
    rw [h.isGenericHiding_eq_false (.inl hr)]
    decide
  have hexceptions : exceptions.filter isGenericHiding = [] := by
    rw [List.filter_eq_nil_iff]
    intro r hr
    rw [h.isGenericHiding_eq_false (.inr hr)]
    decide
  rw [List.filter_append, List.filter_append, hblocking, hexceptions, List.nil_append,
    List.append_nil]

theorem filter_others : (blocking ++ cosmetic ++ exceptions).filter (!isGenericHiding ·) =
    blocking ++ cosmetic.filter (!isGenericHiding ·) ++ exceptions := by
  have hblocking : blocking.filter (!isGenericHiding ·) = blocking := by
    rw [List.filter_eq_self]
    intro r hr
    rw [h.isGenericHiding_eq_false (.inl hr)]
    rfl
  have hexceptions : exceptions.filter (!isGenericHiding ·) = exceptions := by
    rw [List.filter_eq_self]
    intro r hr
    rw [h.isGenericHiding_eq_false (.inr hr)]
    rfl
  rw [List.filter_append, List.filter_append, hblocking, hexceptions]

/-- Rules of different kinds have nothing in common, so repetitions are within one kind. -/
theorem eraseDups_eq : (blocking ++ cosmetic ++ exceptions).eraseDups =
    blocking.eraseDups ++ cosmetic.eraseDups ++ exceptions.eraseDups := by
  have hhide : ∀ r ∈ cosmetic, r ∉ blocking := by
    intro r hr hblock
    have htype := (h.hides r hr).symm.trans (h.blocks r hblock)
    exact absurd htype (by decide)
  have hignore : ∀ r ∈ exceptions, r ∉ blocking ++ cosmetic := by
    intro r hr hmem
    rcases List.mem_append.mp hmem with hblock | hhide
    · have htype := (h.ignores r hr).symm.trans (h.blocks r hblock)
      exact absurd htype (by decide)
    · have htype := (h.ignores r hr).symm.trans (h.hides r hhide)
      exact absurd htype (by decide)
  rw [eraseDups_append_of_disjoint hignore, eraseDups_append_of_disjoint hhide]

end AreKinds

/-! ### Tidying -/

/-- The part of a tidied list that a rule belongs to: the blocking rules, the generic hiding rules,
the other hiding rules, and the exceptions. -/
def partOf (r : Rule) : Nat :=
  match r.action.type with
  | .block => 0
  | .cssDisplayNone => if isGenericHiding r then 1 else 2
  | _ => 3

/-- What a tidied list has of the plain one. -/
structure IsTidied (plain tidied : List Rule) : Prop where
  length_le : tidied.length ≤ plain.length
  /-- The rules that are not generic are kept, each at its first occurrence. -/
  others : tidied.filter (!isGenericHiding ·) = (plain.filter (!isGenericHiding ·)).eraseDups
  /-- The distinct selectors of the generic rules are cut into groups of 250, one for each rule. -/
  selectors : ∃ distinct groups,
    ((plain.filter isGenericHiding).map (·.action.selector)).eraseDups = distinct.map some ∧
    AreGroups 250 distinct groups ∧
    (tidied.filter isGenericHiding).map (·.action.selector) =
      groups.map fun group => some (", ".intercalate group)
  placed : tidied.Pairwise fun r r' => partOf r ≤ partOf r'

theorem IsTidied.eq_nil_iff {plain tidied : List Rule} (h : IsTidied plain tidied) :
    tidied = [] ↔ plain = [] := by
  constructor
  · rintro rfl
    obtain ⟨_, hothers, ⟨distinct, groups, hdistinct, hgroups, hselectors⟩, _⟩ := h
    obtain rfl : groups = [] := by simpa using hselectors.symm
    obtain rfl : distinct = [] := by simpa using hgroups.flatten.symm
    rw [List.eq_nil_iff_forall_not_mem]
    intro r hr
    cases hgeneric : isGenericHiding r with
    | true =>
      have hmem : r.action.selector ∈ (plain.filter isGenericHiding).map (·.action.selector) :=
        List.mem_map_of_mem (List.mem_filter.mpr ⟨hr, hgeneric⟩)
      rw [← List.mem_eraseDups, hdistinct] at hmem
      simp at hmem
    | false =>
      have hmem : r ∈ plain.filter (!isGenericHiding ·) :=
        List.mem_filter.mpr ⟨hr, by rw [hgeneric]; rfl⟩
      rw [← List.mem_eraseDups, ← hothers] at hmem
      simp at hmem
  · rintro rfl
    exact List.eq_nil_of_length_eq_zero (Nat.le_zero.mp h.length_le)

/-- The selectors that are gathered from hiding rules. -/
def genericSelectors (cosmetic : List Rule) : List String :=
  ((firsts cosmetic).filter isGenericHiding).filterMap (·.action.selector)

namespace AreKinds

variable {blocking cosmetic exceptions : List Rule} (h : AreKinds blocking cosmetic exceptions)

include h

/-- Tidying leaves three kinds of rules. -/
theorem tidied : AreKinds (firsts blocking) (gatherGeneric (firsts cosmetic)) (firsts exceptions) := by
  refine ⟨fun r hr => h.blocks r (mem_of_mem_firstsFrom hr), fun r hr => ?_,
    fun r hr => h.ignores r (mem_of_mem_firstsFrom hr), fun r hr => ?_⟩
  · rcases mem_gatherGeneric hr with hr | ⟨selector, rfl⟩
    · exact h.hides r (mem_of_mem_firstsFrom hr)
    · rfl
  · rcases mem_gatherGeneric hr with hr | ⟨selector, rfl⟩
    · exact h.selects r (mem_of_mem_firstsFrom hr)
    · rfl

omit h in
/-- The generic rules of a tidied list are those that have been gathered. -/
theorem filter_generic_gatherGeneric :
    (gatherGeneric (firsts cosmetic)).filter isGenericHiding =
      gathered (genericSelectors cosmetic) := by
  have hgathered : (gathered (genericSelectors cosmetic)).filter isGenericHiding =
      gathered (genericSelectors cosmetic) :=
    List.filter_eq_self.mpr fun r hr => isGenericHiding_of_mem_gathered hr
  have hothers : ((firsts cosmetic).filter (!isGenericHiding ·)).filter isGenericHiding = [] := by
    rw [List.filter_eq_nil_iff]
    intro r hr
    simpa using (List.mem_filter.mp hr).2
  show (gathered (genericSelectors cosmetic) ++ _).filter isGenericHiding = _
  rw [List.filter_append, hgathered, hothers, List.append_nil]

omit h in
theorem filter_others_gatherGeneric :
    (gatherGeneric (firsts cosmetic)).filter (!isGenericHiding ·) =
      (cosmetic.filter (!isGenericHiding ·)).eraseDups := by
  have hgathered : (gathered (genericSelectors cosmetic)).filter (!isGenericHiding ·) = [] := by
    rw [List.filter_eq_nil_iff]
    intro r hr
    rw [isGenericHiding_of_mem_gathered hr]
    decide
  show (gathered (genericSelectors cosmetic) ++ _).filter (!isGenericHiding ·) = _
  rw [List.filter_append, hgathered, List.nil_append, List.filter_filter, firsts_eq_eraseDups,
    filter_eraseDups]
  simp only [Bool.and_self]

/-- The generic selectors that are gathered are those of the plain list, each once. -/
theorem eraseDups_selectors :
    ((cosmetic.filter isGenericHiding).map (·.action.selector)).eraseDups =
      (genericSelectors cosmetic).map some := by
  have hinjective : ∀ r ∈ cosmetic.filter isGenericHiding,
      ∀ r' ∈ cosmetic.filter isGenericHiding, r.action.selector = r'.action.selector → r = r' := by
    intro r hr r' hr' hselector
    exact eq_of_selector_eq (List.mem_filter.mp hr).2 (List.mem_filter.mp hr').2 hselector
  have hselects : ∀ r ∈ (firsts cosmetic).filter isGenericHiding,
      r.action.selector.isSome = true :=
    fun r hr => h.selects r (mem_of_mem_firstsFrom (List.mem_of_mem_filter hr))
  rw [genericSelectors, ← map_eq_map_some_filterMap hselects, map_eraseDups hinjective,
    firsts_eq_eraseDups, filter_eraseDups]

omit h in
theorem length_gatherGeneric_le : (gatherGeneric (firsts cosmetic)).length ≤ cosmetic.length := by
  have hfirsts := length_eraseDups_le cosmetic
  have hsplit := List.length_eq_length_filter_add isGenericHiding (l := firsts cosmetic)
  have hselectors := List.length_filterMap_le (fun r : Rule => r.action.selector)
    ((firsts cosmetic).filter isGenericHiding)
  have hgroups := (areGroups_chunks (groupSize - 1) (genericSelectors cosmetic)).length_le
  show (gathered (genericSelectors cosmetic) ++ _).length ≤ _
  rw [← firsts_eq_eraseDups] at hfirsts
  rw [List.length_append, gathered, List.length_map]
  unfold genericSelectors at hgroups ⊢
  omega

/-- The parts of a tidied list follow each other. -/
theorem pairwise_partOf :
    (firsts blocking ++ gatherGeneric (firsts cosmetic) ++ firsts exceptions).Pairwise
      fun r r' => partOf r ≤ partOf r' := by
  have hblocking : ∀ r ∈ firsts blocking, partOf r = 0 := by
    intro r hr
    rw [partOf, h.tidied.blocks r hr]
  have hgathered : ∀ r ∈ gathered (genericSelectors cosmetic), partOf r = 1 := by
    intro r hr
    obtain ⟨group, _, rfl⟩ := List.mem_map.mp hr
    rfl
  have hothers : ∀ r ∈ (firsts cosmetic).filter (!isGenericHiding ·), partOf r = 2 := by
    intro r hr
    obtain ⟨hmem, hnot⟩ := List.mem_filter.mp hr
    have hfalse : isGenericHiding r = false := by simpa using hnot
    rw [partOf, h.hides r (mem_of_mem_firstsFrom hmem), hfalse]
    rfl
  have hexceptions : ∀ r ∈ firsts exceptions, partOf r = 3 := by
    intro r hr
    rw [partOf, h.tidied.ignores r hr]
  have hconstant : ∀ (rules : List Rule) (n : Nat), (∀ r ∈ rules, partOf r = n) →
      rules.Pairwise fun r r' => partOf r ≤ partOf r' := by
    intro rules n hrules
    apply List.pairwise_of_forall_mem_list
    intro r hr r' hr'
    rw [hrules r hr, hrules r' hr']
  have hcosmetic : ∀ r ∈ gatherGeneric (firsts cosmetic), 1 ≤ partOf r ∧ partOf r ≤ 2 := by
    intro r hr
    rcases List.mem_append.mp hr with hr | hr
    · rw [hgathered r hr]
      decide
    · rw [hothers r hr]
      decide
  rw [List.pairwise_append, List.pairwise_append]
  refine ⟨⟨hconstant _ 0 hblocking, ?_, ?_⟩, hconstant _ 3 hexceptions, ?_⟩
  · show (gathered (genericSelectors cosmetic) ++ _).Pairwise _
    rw [List.pairwise_append]
    refine ⟨hconstant _ 1 hgathered, hconstant _ 2 hothers, fun r hr r' hr' => ?_⟩
    rw [hgathered r hr, hothers r' hr']
    decide
  · intro r hr r' hr'
    rw [hblocking r hr]
    exact Nat.zero_le _
  · intro r hr r' hr'
    rw [hexceptions r' hr']
    rcases List.mem_append.mp hr with hr | hr
    · rw [hblocking r hr]
      decide
    · exact (hcosmetic r hr).2.trans (by decide)

/-- Tidying the rules of each kind tidies the list. -/
theorem isTidied : IsTidied (blocking ++ cosmetic ++ exceptions)
    (firsts blocking ++ gatherGeneric (firsts cosmetic) ++ firsts exceptions) := by
  refine ⟨?_, ?_, ⟨genericSelectors cosmetic, chunks 249 (genericSelectors cosmetic), ?_,
    areGroups_chunks 249 _, ?_⟩, h.pairwise_partOf⟩
  · have hblocking := length_eraseDups_le blocking
    have hcosmetic : (gatherGeneric (firsts cosmetic)).length ≤ cosmetic.length :=
      length_gatherGeneric_le
    have hexceptions := length_eraseDups_le exceptions
    rw [← firsts_eq_eraseDups] at hblocking hexceptions
    simp only [List.length_append]
    omega
  · have hkept : AreKinds blocking (cosmetic.filter (!isGenericHiding ·)) exceptions :=
      h.mono (fun r hr => hr) (fun r hr => List.mem_of_mem_filter hr) (fun r hr => hr)
    rw [h.tidied.filter_others, h.filter_others, hkept.eraseDups_eq, filter_others_gatherGeneric,
      firsts_eq_eraseDups, firsts_eq_eraseDups]
  · rw [h.filter_generic, h.eraseDups_selectors]
  · rw [h.tidied.filter_generic, filter_generic_gatherGeneric, gathered, List.map_map]
    rfl

end AreKinds

/-! ### Translated lists -/

/-- With a limit that the lines cannot exceed, all their rules are kept. -/
theorem rulesOf_spec {lines : List String} {limit : Nat} (hlimit : lines.length ≤ limit) :
    IsTidied (rulesOf lines limit false) (rulesOf lines limit true) := by
  have htidied := (areKinds_ofKind lines).isTidied
  have hall := length_ofKind (lines.filterMap (convert? ·.toList))
  have hlines := List.length_filterMap_le (fun line : String => convert? line.toList) lines
  have hplain := htidied.length_le
  simp only [List.length_append] at hplain
  have hfalse : rulesOf lines limit false = arrange false (lines.filterMap (convert? ·.toList)) := by
    apply List.take_of_length_le
    show (_ ++ _ ++ _ : List Rule).length ≤ limit
    simp only [List.length_append]
    omega
  have htrue : rulesOf lines limit true = arrange true (lines.filterMap (convert? ·.toList)) := by
    apply List.take_of_length_le
    show (_ ++ _ ++ _ : List Rule).length ≤ limit
    simp only [List.length_append]
    omega
  rw [hfalse, htrue]
  exact htidied

/-- Within a limit that the lines cannot exceed, a list can be written tidied exactly when it can be
written plain, and what is read back is then the tidied form of what is read back without tidying. -/
theorem tidying_keeps_contents {lines : List String} {limit : Nat}
    (hlimit : lines.length ≤ limit) :
    ((∃ encoded, translate lines limit false = .ok encoded) ↔
      ∃ encoded, translate lines limit true = .ok encoded) ∧
    ∀ encoded encoded', translate lines limit false = .ok encoded →
      translate lines limit true = .ok encoded' →
      ∃ plain tidied, Rule.decodeList? encoded = some plain ∧
        Rule.decodeList? encoded' = some tidied ∧ IsTidied plain tidied := by
  have htidied := rulesOf_spec hlimit
  constructor
  · simp only [translate_eq_ok_iff, exists_and_left, exists_eq, and_true]
    exact not_congr htidied.eq_nil_iff.symm
  · intro encoded encoded' hplain htidy
    obtain ⟨_, rfl⟩ := translate_eq_ok_iff.mp hplain
    obtain ⟨_, rfl⟩ := translate_eq_ok_iff.mp htidy
    exact ⟨_, _, Rule.decodeList?_encodeList _, Rule.decodeList?_encodeList _, htidied⟩

/-- Lines with a repeated rule, two generic selectors and one for a single site. -/
def fiveLines : List String :=
  ["||a.com^", "||a.com^", "##.ad", "x.com##.promo", "##.banner"]

/-- Five lines become five rules, three of them not generic; tidied, two of these are left. -/
theorem tidying_keeps_contents_of_five_lines :
    fiveLines.length ≤ 5 ∧
      ∃ encoded encoded', translate fiveLines 5 false = .ok encoded ∧
        translate fiveLines 5 true = .ok encoded' ∧
        ∃ plain tidied, Rule.decodeList? encoded = some plain ∧
          Rule.decodeList? encoded' = some tidied ∧ IsTidied plain tidied ∧
          plain.length = 5 ∧ (tidied.filter (!isGenericHiding ·)).length = 2 := by
  have hlimit : fiveLines.length ≤ 5 := by decide
  have hlength : (rulesOf fiveLines 5 false).length = 5 := by decide +kernel
  have hothers : ((rulesOf fiveLines 5 false).filter (!isGenericHiding ·)).eraseDups.length = 2 := by
    decide +kernel
  have hne : rulesOf fiveLines 5 false ≠ [] := List.ne_nil_of_length_pos (by omega)
  have hencoded := translate_eq_ok_iff.mpr ⟨hne, rfl⟩
  obtain ⟨encoded', hencoded'⟩ := (tidying_keeps_contents hlimit).1.mp ⟨_, hencoded⟩
  obtain ⟨plain, tidied, hdecoded, hdecoded', h⟩ :=
    (tidying_keeps_contents hlimit).2 _ _ hencoded hencoded'
  refine ⟨hlimit, _, _, hencoded, hencoded', plain, tidied, hdecoded, hdecoded', h, ?_⟩
  rw [Rule.decodeList?_encodeList] at hdecoded
  obtain rfl := Option.some.inj hdecoded
  rw [h.others]
  exact ⟨hlength, hothers⟩

end ContentBlocker.Filter
