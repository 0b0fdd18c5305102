import ContentBlocker.Proofs.Json.ReadBack
import ContentBlocker.Rule.Encoding

/-!
# Rules survive their encoding

Decoding the encoded text of a list of rules gives the list back (`Rule.decodeList?_encodeList`),
whatever the texts in it and whatever is absent.

A record is written without its absent members and read member by member (`Json.fields?_record`);
what an absent member is read as is its default. That is all that rules, triggers and actions
need, apart from the names of their types.
-/

namespace ContentBlocker

namespace Json

/-! ### Records -/

/-- The members of a record that are there. -/
def present (fields : List (String × Option Json)) : List (String × Json) :=
  fields.filterMap fun f => f.2.map fun v => (f.1, v)

theorem record_eq_object (fields : List (String × Option Json)) :
    record fields = .object ((present fields).map fun m => (some m.1, m.2)) := by
  unfold record present
  rw [List.map_filterMap]
  congr 2
  funext f
  simp [Function.comp_def]

theorem readsBack_record {fields : List (String × Option Json)}
    (h : ∀ f ∈ fields, ∀ v ∈ f.2, ReadsBack v) : ReadsBack (record fields) := by
  rw [record_eq_object]
  apply readsBack_object
  intro m hm
  obtain ⟨f, hf, hv⟩ := List.mem_filterMap.mp hm
  obtain ⟨v, hfv, rfl⟩ := Option.map_eq_some_iff.mp hv
  exact h f hf v hfv

theorem readsBack_text (s : String) : ReadsBack (text s) :=
  readsBack_string s

theorem readsBack_texts (ss : List String) : ReadsBack (texts ss) := by
  apply readsBack_array
  intro item hitem
  obtain ⟨s, _, rfl⟩ := List.mem_map.mp hitem
  exact readsBack_text s

/-- The members of a record that have a name. -/
def named (fields : List (String × Option Json)) (name : String) : List (Option String × Json) :=
  ((present fields).map fun m => (some m.1, m.2)).filter fun m => m.1 == some name

theorem named_cons (name : String) (value : Option Json) (fields : List (String × Option Json))
    (wanted : String) :
    named ((name, value) :: fields) wanted =
      (if name = wanted then (value.map fun v => (some name, v)).toList else [])
        ++ named fields wanted := by
  unfold named present
  cases value with
  | none => simp
  | some v => by_cases h : name = wanted <;> simp [h]

theorem named_eq_nil {fields : List (String × Option Json)} {name : String}
    (h : name ∉ fields.map (·.1)) : named fields name = [] := by
  induction fields with
  | nil => rfl
  | cons f fields ih =>
    obtain ⟨other, value⟩ := f
    rw [List.map_cons, List.mem_cons, not_or] at h
    rw [named_cons, if_neg (Ne.symm h.1), ih h.2]
    rfl

theorem named_eq {fields : List (String × Option Json)} (hnames : (fields.map (·.1)).Nodup)
    {name : String} {value : Option Json} (h : (name, value) ∈ fields) :
    named fields name = (value.map fun v => (some name, v)).toList := by
  induction fields with
  | nil => simp at h
  | cons f fields ih =>
    obtain ⟨other, v⟩ := f
    rw [List.map_cons, List.nodup_cons] at hnames
    rw [named_cons]
    rcases List.mem_cons.mp h with heq | hmem
    · obtain ⟨rfl, rfl⟩ := Prod.mk.inj heq
      rw [if_pos rfl, named_eq_nil hnames.1, List.append_nil]
    · have hne : other ≠ name := by
        rintro rfl
        exact hnames.1 (List.mem_map.mpr ⟨_, hmem, rfl⟩)
      rw [if_neg hne, ih hnames.2 hmem, List.nil_append]

/-- Each name of a record gives what the record has under it. -/
theorem member?_record {fields : List (String × Option Json)}
    (hnames : (fields.map (·.1)).Nodup) {name : String} {value : Option Json}
    (h : (name, value) ∈ fields) :
    member? ((present fields).map fun m => (some m.1, m.2)) name = some value := by
  have hnamed := named_eq hnames h
  unfold named at hnamed
  unfold member?
  rw [hnamed]
  cases value <;> rfl

/-- A record gives its fields back, those that are absent included. -/
theorem fields?_record (fields : List (String × Option Json))
    (hnames : (fields.map (·.1)).Nodup) :
    fields? (fields.map (·.1)) (record fields) = some (fields.map (·.2)) := by
  have hmembers : ∀ part : List (String × Option Json), (∀ f ∈ part, f ∈ fields) →
      (part.map (·.1)).mapM (member? ((present fields).map fun m => (some m.1, m.2)))
        = some (part.map (·.2)) := by
    intro part
    induction part with
    | nil => intro _; rfl
    | cons f part ih =>
      intro hpart
      have hf := member?_record hnames (hpart f (by simp))
      rw [List.map_cons, List.mapM_cons, hf, ih (fun x hx => hpart x (by simp [hx]))]
      rfl
  rw [record_eq_object, fields?, if_pos (by simp)]
  exact hmembers fields (fun _ h => h)

/-! ### Values of fields -/

theorem list?_map {α : Type} {item? : Json → Option α} {toJson : α → Json}
    (h : ∀ a, item? (toJson a) = some a) (as : List α) :
    list? item? (.array (as.map toJson)) = some as := by
  show (as.map toJson).mapM item? = _
  induction as with
  | nil => rfl
  | cons a as ih =>
    rw [List.map_cons, List.mapM_cons, h, ih]
    rfl

theorem text?_text (s : String) : text? (text s) = some s := rfl

theorem list?_texts (ss : List String) : list? text? (texts ss) = some ss :=
  list?_map text?_text ss

theorem list?_names {α : Type} {all : List α} {name : α → String}
    (h : ∀ a, named? all name (text (name a)) = some a) (as : List α) :
    list? (named? all name) (texts (as.map name)) = some as := by
  rw [texts, List.map_map]
  exact list?_map h as

/-- A list that may be absent is read back, and so is that it is absent. -/
theorem optional?_map {α : Type} {value? : Json → Option α} {toJson : α → Json}
    (h : ∀ a, value? (toJson a) = some a) (hnull : ∀ a, toJson a ≠ .null) (a : Option α) :
    optional? value? (a.map toJson) = some a := by
  cases a with
  | none => rfl
  | some a =>
    rw [Option.map_some, optional?, h a]
    · rfl
    · exact hnull a

theorem named?_name_resourceType (t : ResourceType) :
    named? ResourceType.all ResourceType.name (text t.name) = some t := by
  cases t <;> decide

theorem named?_name_loadType (t : LoadType) :
    named? LoadType.all LoadType.name (text t.name) = some t := by
  cases t <;> decide

theorem named?_name_actionType (t : ActionType) :
    named? ActionType.all ActionType.name (text t.name) = some t := by
  cases t <;> decide

end Json

open Json

/-! ### Triggers, actions and rules -/

theorem Trigger.ofJson?_toJson (t : Trigger) : Trigger.ofJson? t.toJson = some t := by
  have hflag : flag? (if t.caseSensitive then some (.bool true) else none)
      = some t.caseSensitive := by
    cases t.caseSensitive <;> rfl
  have hif := optional?_map list?_texts (fun _ => by simp [texts]) t.ifDomain
  have hunless := optional?_map list?_texts (fun _ => by simp [texts]) t.unlessDomain
  have hresources : optional? (list? (named? ResourceType.all ResourceType.name))
      (t.resourceTypes.map fun types => texts (types.map ResourceType.name)) =
      some t.resourceTypes :=
    optional?_map (list?_names named?_name_resourceType) (fun _ => by simp [texts]) _
  have hloads : optional? (list? (named? LoadType.all LoadType.name))
      (t.loadTypes.map fun types => texts (types.map LoadType.name)) = some t.loadTypes :=
    optional?_map (list?_names named?_name_loadType) (fun _ => by simp [texts]) _
  have hfields := fields?_record [
    ("url-filter", some (text t.urlFilter)),
    ("url-filter-is-case-sensitive", if t.caseSensitive then some (.bool true) else none),
    ("if-domain", t.ifDomain.map texts),
    ("unless-domain", t.unlessDomain.map texts),
    ("resource-type", t.resourceTypes.map fun types => texts (types.map ResourceType.name)),
    ("load-type", t.loadTypes.map fun types => texts (types.map LoadType.name))]
    (by simp)
  simp only [List.map_cons, List.map_nil] at hfields
  rw [Trigger.ofJson?, Trigger.toJson, hfields]
  simp only [Option.bind_eq_bind, Option.bind_some, hflag, hif, hunless, hresources, hloads]
  rfl

theorem Action.ofJson?_toJson (a : Action) : Action.ofJson? a.toJson = some a := by
  have hselector : optional? text? (a.selector.map text) = some a.selector :=
    optional?_map text?_text (fun _ => by simp [text]) _
  have hfields := fields?_record [
    ("type", some (text a.type.name)), ("selector", a.selector.map text)] (by simp)
  simp only [List.map_cons, List.map_nil] at hfields
  rw [Action.ofJson?, Action.toJson, hfields]
  simp only [Option.bind_eq_bind, Option.bind_some, named?_name_actionType, hselector]

theorem Rule.ofJson?_toJson (r : Rule) : Rule.ofJson? r.toJson = some r := by
  have hfields := fields?_record [
    ("trigger", some r.trigger.toJson), ("action", some r.action.toJson)] (by simp)
  simp only [List.map_cons, List.map_nil] at hfields
  rw [Rule.ofJson?, Rule.toJson, hfields]
  simp only [Option.bind_eq_bind, Option.bind_some, Trigger.ofJson?_toJson,
    Action.ofJson?_toJson]

theorem Trigger.readsBack_toJson (t : Trigger) : ReadsBack t.toJson := by
  apply readsBack_record
  simp only [List.forall_mem_cons, Option.mem_def, Option.map_eq_some_iff, Option.some.injEq]
  refine ⟨?_, ?_, ?_, ?_, ?_, ?_, by simp⟩
  · rintro _ rfl
    exact readsBack_text _
  · intro v hv
    split at hv
    · obtain rfl := Option.some.inj hv
      exact readsBack_bool true
    · simp at hv
  all_goals
    rintro _ ⟨_, _, rfl⟩
    exact readsBack_texts _

theorem Action.readsBack_toJson (a : Action) : ReadsBack a.toJson := by
  apply readsBack_record
  simp only [List.forall_mem_cons, Option.mem_def, Option.map_eq_some_iff, Option.some.injEq]
  refine ⟨?_, ?_, by simp⟩
  · rintro _ rfl
    exact readsBack_text _
  · rintro _ ⟨_, _, rfl⟩
    exact readsBack_text _

theorem Rule.readsBack_toJson (r : Rule) : ReadsBack r.toJson := by
  apply readsBack_record
  simp only [List.forall_mem_cons, Option.mem_def, Option.some.injEq]
  refine ⟨?_, ?_, by simp⟩
  · rintro _ rfl
    exact r.trigger.readsBack_toJson
  · rintro _ rfl
    exact r.action.readsBack_toJson

/-! ### Lists of rules -/

/-- What is read from the encoded text of a list of rules. -/
theorem Rule.read?_encodeList (rules : List Rule) :
    read? (Rule.encodeList rules) = some (.array (rules.map Rule.toJson)) := by
  apply read?_write
  apply readsBack_array
  intro item hitem
  obtain ⟨r, _, rfl⟩ := List.mem_map.mp hitem
  exact r.readsBack_toJson

/-- The encoded text of a list of rules holds exactly these rules. -/
theorem Rule.decodeList?_encodeList (rules : List Rule) :
    Rule.decodeList? (Rule.encodeList rules) = some rules := by
  rw [Rule.decodeList?, Rule.read?_encodeList, Option.bind_some,
    list?_map Rule.ofJson?_toJson rules]

/-- Nothing is lost in the encoding: the text of a list is a JSON array of its rules, reading it gives
the list back and writing that gives the text back, and no other list has the same text. -/
theorem Rule.encodeList_loses_nothing (rules : List Rule) :
    read? (Rule.encodeList rules) = some (.array (rules.map Rule.toJson)) ∧
      Rule.decodeList? (Rule.encodeList rules) = some rules ∧
      (Rule.decodeList? (Rule.encodeList rules)).map Rule.encodeList =
        some (Rule.encodeList rules) ∧
      ∀ other, Rule.encodeList other = Rule.encodeList rules ↔ other = rules := by
  have hdecode := Rule.decodeList?_encodeList rules
  refine ⟨Rule.read?_encodeList rules, hdecode, ?_, fun other => ⟨fun heq => ?_, fun h => h ▸ rfl⟩⟩
  · rw [hdecode, Option.map_some]
  · have hother := Rule.decodeList?_encodeList other
    rw [heq, hdecode] at hother
    exact (Option.some.inj hother).symm

/-! ### Encoded lists as data -/

namespace Json

/-- Whether a value is exact and nested at most so deep. -/
def IsWithin (bound : Nat) (j : Json) : Prop :=
  j.isExact = true ∧ j.depth ≤ bound

theorem isWithin_text (s : String) (bound : Nat) : IsWithin bound (text s) :=
  ⟨rfl, Nat.zero_le _⟩

theorem isWithin_bool (b : Bool) (bound : Nat) : IsWithin bound (.bool b) :=
  ⟨rfl, Nat.zero_le _⟩

theorem isWithin_array {items : List Json} {bound : Nat}
    (h : ∀ item ∈ items, IsWithin bound item) : IsWithin (bound + 1) (.array items) := by
  unfold IsWithin
  rw [isExact, depth]
  induction items with
  | nil => exact ⟨rfl, by simp [depthOfItems]⟩
  | cons item items ih =>
    obtain ⟨hexact, hdepth⟩ := h item (by simp)
    obtain ⟨hexacts, hdepths⟩ := ih fun other hother => h other (by simp [hother])
    rw [areItemsExact, depthOfItems, hexact, hexacts]
    exact ⟨rfl, by omega⟩

theorem isWithin_texts (ss : List String) (bound : Nat) : IsWithin (bound + 1) (texts ss) := by
  apply isWithin_array
  intro item hitem
  obtain ⟨s, _, rfl⟩ := List.mem_map.mp hitem
  exact isWithin_text s bound

theorem isWithin_object {members : List (Option String × Json)} {bound : Nat}
    (h : ∀ m ∈ members, m.1.isSome = true ∧ IsWithin bound m.2) :
    IsWithin (bound + 1) (.object members) := by
  unfold IsWithin
  rw [isExact, depth]
  induction members with
  | nil => exact ⟨rfl, by simp [depthOfMembers]⟩
  | cons m members ih =>
    obtain ⟨name, value⟩ := m
    obtain ⟨hname, hexact, hdepth⟩ := h (name, value) (by simp)
    obtain ⟨hexacts, hdepths⟩ := ih fun other hother => h other (by simp [hother])
    rw [areMembersExact, depthOfMembers, hname, hexact, hexacts]
    exact ⟨rfl, by dsimp only at hdepth; omega⟩

theorem isWithin_record {members : List (String × Option Json)} {bound : Nat}
    (h : ∀ m ∈ members, ∀ v ∈ m.2, IsWithin bound v) :
    IsWithin (bound + 1) (record members) := by
  apply isWithin_object
  intro m hm
  obtain ⟨⟨name, value⟩, hmem, heq⟩ := List.mem_filterMap.mp hm
  obtain ⟨v, rfl, rfl⟩ := Option.map_eq_some_iff.mp heq
  exact ⟨rfl, h _ hmem v rfl⟩

end Json

theorem Trigger.isWithin_toJson (t : Trigger) : IsWithin 2 t.toJson := by
  apply isWithin_record
  simp only [List.forall_mem_cons, Option.mem_def, Option.map_eq_some_iff, Option.some.injEq]
  refine ⟨?_, ?_, ?_, ?_, ?_, ?_, by simp⟩
  · rintro _ rfl
    exact isWithin_text _ 1
  · intro v hv
    split at hv
    · obtain rfl := Option.some.inj hv
      exact isWithin_bool true 1
    · simp at hv
  all_goals
    rintro _ ⟨_, _, rfl⟩
    exact isWithin_texts _ 0

theorem Action.isWithin_toJson (a : Action) : IsWithin 2 a.toJson := by
  apply isWithin_record
  simp only [List.forall_mem_cons, Option.mem_def, Option.map_eq_some_iff, Option.some.injEq]
  refine ⟨?_, ?_, by simp⟩
  · rintro _ rfl
    exact isWithin_text _ 1
  · rintro _ ⟨_, _, rfl⟩
    exact isWithin_text _ 1

theorem Rule.isWithin_toJson (r : Rule) : IsWithin 3 r.toJson := by
  apply isWithin_record
  simp only [List.forall_mem_cons, Option.mem_def, Option.some.injEq]
  refine ⟨?_, ?_, by simp⟩
  · rintro _ rfl
    exact r.trigger.isWithin_toJson
  · rintro _ rfl
    exact r.action.isWithin_toJson

/-- The encoded text of a list of rules that is not empty is an array of rules. -/
theorem Rule.isRuleArray_encodeList {rules : List Rule} (hne : rules ≠ []) :
    Json.isRuleArray (Rule.encodeList rules) = true := by
  have hwithin : IsWithin 4 (.array (rules.map Rule.toJson)) := by
    apply isWithin_array
    intro item hitem
    obtain ⟨r, _, rfl⟩ := List.mem_map.mp hitem
    exact r.isWithin_toJson
  have hdata : Json.isData (.array (rules.map Rule.toJson)) = true := by
    have hdepth := hwithin.2
    rw [Json.isData, hwithin.1, Bool.true_and, decide_eq_true_eq]
    unfold Json.depthLimit
    omega
  unfold Json.isRuleArray
  rw [Rule.read?_encodeList]
  cases rules with
  | nil => exact absurd rfl hne
  | cons r rules => exact hdata

end ContentBlocker
