import Mathlib.Data.List.Basic
import ContentBlocker.Filter.Options

/-!
# What options make of a trigger

Options narrow a trigger one after the other. What comes out is said field by field in
`RuleOption.narrowAll_eq`: of the options that set a field the last one counts, and the resource
types are gathered from all of them.
-/

namespace ContentBlocker.Filter

/-! ### The last value -/

section

variable {α β γ : Type}

/-- The last of the values that a function gives. -/
def last? (f : α → Option β) (xs : List α) : Option β :=
  (xs.filterMap f).getLast?

theorem last?_cons (f : α → Option β) (x : α) (xs : List α) :
    last? f (x :: xs) = (last? f xs).or (f x) := by
  unfold last?
  cases hx : f x with
  | none => rw [List.filterMap_cons_none hx, Option.or_none]
  | some y =>
    rw [List.filterMap_cons_some hx, List.getLast?_cons]
    cases (xs.filterMap f).getLast? <;> rfl

theorem last?_singleton (f : α → Option β) (x : α) : last? f [x] = f x :=
  last?_cons f x []

theorem last?_filterMap (f : β → Option γ) (g : α → Option β) (xs : List α) :
    last? f (xs.filterMap g) = last? (fun x => (g x).bind f) xs := by
  unfold last?
  rw [List.filterMap_filterMap]

theorem last?_ite (p : α → Bool) (f : α → β) (xs : List α) :
    last? (fun x => if p x then some (f x) else none) xs = (xs.filter p).getLast?.map f := by
  unfold last?
  rw [← List.getLast?_map, ← List.filterMap_eq_map, List.filterMap_filter]
  rfl

theorem exists_of_last? {f : α → Option β} {xs : List α} {y : β} (h : last? f xs = some y) :
    ∃ x ∈ xs, f x = some y :=
  List.mem_filterMap.mp (List.mem_of_getLast? h)

theorem isSome_last? (f : α → Option β) (xs : List α) :
    (last? f xs).isSome = xs.any fun x => (f x).isSome := by
  induction xs with
  | nil => rfl
  | cons x xs ih => rw [last?_cons, Option.isSome_or, ih, List.any_cons, Bool.or_comm]

/-- The last value of a function is that among the elements where it has one. -/
theorem last?_filter {f : α → Option β} {p : α → Bool}
    (h : ∀ x y, f x = some y → p x = true) (xs : List α) : last? f (xs.filter p) = last? f xs := by
  unfold last?
  rw [List.filterMap_filter]
  congr 2
  funext x
  cases hx : f x with
  | none => simp
  | some y => simp [h x y hx]

/-- Where at most one element has a value, the order does not matter. -/
theorem last?_eq_of_perm {f : α → Option β} {p : α → Bool}
    (h : ∀ x y, f x = some y → p x = true) {xs ys : List α} (hone : xs.countP p ≤ 1)
    (hperm : (xs.filter p).Perm (ys.filter p)) : last? f xs = last? f ys := by
  rw [List.countP_eq_length_filter] at hone
  have heq : xs.filter p = ys.filter p := by
    match hfilter : xs.filter p with
    | [] => rw [hfilter] at hperm; exact hperm.nil_eq
    | [x] => rw [hfilter] at hperm; exact hperm.singleton_eq
    | _ :: _ :: _ =>
      rw [hfilter] at hone
      exact absurd hone (by simp)
  rw [← last?_filter h xs, heq, last?_filter h ys]

end

/-! ### Domains -/

namespace Domains

/-- The sites to act on, if a list of domains names any. -/
def acting? (d : Domains) : Option (List String) :=
  if d.included.isEmpty then none else some d.included

/-- The sites to leave alone, if a list of domains names any and none to act on. -/
def sparing? (d : Domains) : Option (List String) :=
  if d.included.isEmpty && !d.excluded.isEmpty then some d.excluded else none

theorem isSome_acting? (d : Domains) : d.acting?.isSome = !d.included.isEmpty := by
  unfold acting?
  cases d.included.isEmpty <;> rfl

theorem isSome_sparing? (d : Domains) :
    d.sparing?.isSome = (d.included.isEmpty && !d.excluded.isEmpty) := by
  unfold sparing?
  cases d.included.isEmpty && !d.excluded.isEmpty <;> rfl

theorem narrow_eq (d : Domains) (t : Trigger) :
    d.narrow t = { t with
      ifDomain := d.acting?.or t.ifDomain
      unlessDomain := d.sparing?.or t.unlessDomain } := by
  obtain ⟨included, excluded⟩ := d
  cases included with
  | cons => simp [narrow, acting?, sparing?]
  | nil => cases excluded <;> simp [narrow, acting?, sparing?]

end Domains

/-! ### Options -/

namespace RuleOption

/-- The parties that an option asks for. -/
def parties? : RuleOption → Option (List LoadType)
  | .party type => some [type]
  | _ => none

/-- The list of domains that an option holds. -/
def domains? : RuleOption → Option Domains
  | .domains list => some list
  | _ => none

theorem foldl_narrow_eq (options : List RuleOption) (t : Trigger) :
    options.foldl narrow t =
      { t with
        caseSensitive := t.caseSensitive || options.contains .matchCase
        ifDomain := (last? (domains? · >>= Domains.acting?) options).or t.ifDomain
        unlessDomain := (last? (domains? · >>= Domains.sparing?) options).or t.unlessDomain
        loadTypes := (last? parties? options).or t.loadTypes } := by
  induction options generalizing t with
  | nil => simp [last?]
  | cons option options ih =>
    rw [List.foldl_cons, ih, last?_cons, last?_cons, last?_cons]
    cases option with
    | domains list => simp [narrow, Domains.narrow_eq, domains?, parties?, Option.or_assoc]
    | party type => simp [narrow, domains?, parties?]
    | matchCase => simp [narrow, domains?, parties?]
    | important => simp [narrow, domains?, parties?]
    | resource type => simp [narrow, domains?, parties?]

/-- What options make of a trigger that has a filter and nothing else. -/
theorem narrowAll_eq (options : List RuleOption) (urlFilter : String) :
    narrowAll options { urlFilter } =
      { urlFilter
        caseSensitive := options.contains .matchCase
        ifDomain := last? (domains? · >>= Domains.acting?) options
        unlessDomain := last? (domains? · >>= Domains.sparing?) options
        resourceTypes := if resourceTypes options = [] then none else some (resourceTypes options)
        loadTypes := last? parties? options } := by
  unfold narrowAll
  dsimp only
  rw [foldl_narrow_eq]
  cases hresources : resourceTypes options with
  | nil => simp
  | cons type types => simp

end RuleOption

end ContentBlocker.Filter
