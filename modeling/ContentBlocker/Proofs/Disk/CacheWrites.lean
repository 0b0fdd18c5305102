import ContentBlocker.Proofs.Disk.CachePlaces

/-!
# Writing lists in any order

The directory of the cache may be reached through links, as long as the file of no list is one
(`Cache.IsPlain`). Then the place that writing a list changes (`Cache.target?`) is the same before
and after any lists have been written, and differs from list to list. So what is on the disk after
lists have been written is what the last of each identifier brings (`Cache.get?_writeEach_of_latest`);
with different identifiers, in any order (`Cache.get?_writes_congr`). The file of a list that is not
among them is kept (`Cache.keepsFile_writes`).
-/

namespace ContentBlocker

/-- Whether the file that a path leads to is kept from one disk to another: what stood there stands
there still, and what stands there, if it is no directory, did so before. -/
def Disk.KeepsFile (before after : Disk) (path : Bytes) : Prop :=
  ∀ place item,
    (before.item true path = .ok (place, item) → after.item true path = .ok (place, item)) ∧
    (after.item true path = .ok (place, item) → item ≠ .directory →
      before.get? place = some item)

namespace Cache

variable (c : Cache) {d e : Disk} {identifier : String} {place : Place}

/-! ### What writing a list changes -/

/-- The disk after the directory of a cache has been made, as far as it can be. -/
def made (d : Disk) : Disk :=
  (d.makeDirectories (.text c.directory)).2

/-- Whether the file of a list is no link, once the directory has been made. -/
def IsPlain (d : Disk) (identifier : String) : Prop :=
  ∀ place target, (c.made d).item false (.text (c.path identifier)) ≠ .ok (place, .link target)

/-- The place of the file that writing a list makes or changes, if the list can be written. -/
def target? (d : Disk) (identifier : String) : Option Place :=
  match d.makeDirectories (.text c.directory) with
  | (.error _, _) => none
  | (.ok (), made) =>
    match made.find true (.text (c.path identifier)) with
    | .error _ => none
    | .ok (.free place) => some place
    | .ok (.item place) =>
      match made.get? place with
      | some (.file _ _) => some place
      | _ => none

variable {c} {now : Int} {encoded : String}

theorem adds_made : d.Adds (c.made d) :=
  d.makeDirectories_adds _

/-- Writing a list changes what stands at its target, and succeeds if it has one. -/
theorem write_of_target (h : c.target? d identifier = some place) (now : Int) (encoded : String) :
    c.write d now identifier encoded =
      (.ok (c.path identifier), (c.made d).put place (.file (.bytes (.text encoded)) now)) := by
  unfold target? at h
  unfold write made Disk.writeFile
  rcases hmake : d.makeDirectories (.text c.directory) with ⟨cause | _, made⟩
  · rw [hmake] at h
    cases h
  · rw [hmake] at h
    dsimp only at h ⊢
    cases hfind : made.find true (.text (c.path identifier)) with
    | error cause =>
      rw [hfind] at h
      cases h
    | ok target =>
      rw [hfind] at h
      cases target with
      | free free =>
        obtain rfl := Option.some.inj h
        rfl
      | item stands =>
        dsimp only at h
        simp only [bind, Except.bind]
        cases hitem : made.get? stands with
        | none =>
          rw [hitem] at h
          cases h
        | some item =>
          rw [hitem] at h
          cases item with
          | file content modified =>
            obtain rfl := Option.some.inj h
            rfl
          | closed | directory | link => cases h

theorem write_of_no_target (h : c.target? d identifier = none) (now : Int) (encoded : String) :
    ∃ cause, c.write d now identifier encoded = (.error cause, c.made d) := by
  unfold target? at h
  unfold write made Disk.writeFile
  rcases hmake : d.makeDirectories (.text c.directory) with ⟨cause | _, made⟩
  · exact ⟨cause, rfl⟩
  · rw [hmake] at h
    dsimp only at h ⊢
    cases hfind : made.find true (.text (c.path identifier)) with
    | error cause => exact ⟨cause, rfl⟩
    | ok target =>
      rw [hfind] at h
      cases target with
      | free free => cases h
      | item stands =>
        simp only [bind, Except.bind]
        cases hitem : made.get? stands with
        | none => exact ⟨_, rfl⟩
        | some item =>
          cases item with
          | file content modified =>
            dsimp only at h
            rw [hitem] at h
            cases h
          | closed | directory | link => exact ⟨_, rfl⟩

theorem exists_target_of_write {path : String}
    (h : (c.write d now identifier encoded).1 = .ok path) :
    ∃ place, c.target? d identifier = some place := by
  cases htarget : c.target? d identifier with
  | none =>
    obtain ⟨cause, hwrite⟩ := write_of_no_target htarget now encoded
    rw [hwrite] at h
    cases h
  | some place => exact ⟨place, rfl⟩

/-- On a disk without links all files are plain. -/
theorem isPlain_of_noLinks (h : d.NoLinks) (identifier : String) : c.IsPlain d identifier := by
  intro place target hitem
  have hmade : (c.made d).NoLinks := adds_made.within.noLinks h
  exact hmade place target (Disk.item_spec hmade hitem).2

theorem isPlain_iff (hid : '/' ∉ identifier.toList) :
    c.IsPlain d identifier ↔ ∀ place, c.BelongsAt (c.made d) identifier place →
      ∀ target, (c.made d).get? place ≠ some (.link target) := by
  constructor
  · intro h place hbelongs target hlink
    exact h place target (hbelongs.item_eq_of_link hid hlink)
  · intro h place target hitem
    obtain ⟨hfind, hlink⟩ := Disk.item_eq_ok_iff.mp hitem
    obtain ⟨stands, hbelongs⟩ := exists_belongsAt_of_find hid hfind
    rw [hbelongs.find_eq hid (h stands hbelongs)] at hfind
    split at hfind
    · cases hfind
      exact h _ hbelongs target hlink
    · cases hfind

theorem IsPlain.ne_link (hid : '/' ∉ identifier.toList) (h : c.IsPlain d identifier)
    (place : Place) (hbelongs : c.BelongsAt d identifier place) (target : Bytes) :
    d.get? place ≠ some (.link target) := by
  intro hlink
  have hadds : d.Adds (c.made d) := adds_made
  exact (isPlain_iff hid).mp h place (hbelongs.extend hadds.extends) target
    (hadds.kept place _ hlink)

/-- The target of a list is where its file belongs, unless something stands there that is no
file. -/
theorem target?_eq_some_iff (hid : '/' ∉ identifier.toList) (hplain : c.IsPlain d identifier) :
    c.target? d identifier = some place ↔
      (d.makeDirectories (.text c.directory)).1 = .ok () ∧
      c.BelongsAt (c.made d) identifier place ∧
      ∀ item, (c.made d).get? place = some item →
        ∃ content modified, item = .file content modified := by
  rw [isPlain_iff hid] at hplain
  unfold made at hplain ⊢
  unfold target?
  rcases hmake : d.makeDirectories (.text c.directory) with ⟨cause | ⟨⟨⟩⟩, made⟩
  · simp
  · rw [hmake] at hplain
    dsimp only at hplain ⊢
    constructor
    · intro h
      cases hfind : made.find true (.text (c.path identifier)) with
      | error cause =>
        rw [hfind] at h
        cases h
      | ok target =>
        obtain ⟨stands, hbelongs⟩ := exists_belongsAt_of_find hid hfind
        rw [hbelongs.find_eq hid (hplain stands hbelongs)] at h
        cases hitem : made.get? stands with
        | none =>
          rw [hitem] at h
          obtain rfl := Option.some.inj h
          exact ⟨rfl, hbelongs, fun item h => by rw [hitem] at h; cases h⟩
        | some item =>
          rw [hitem] at h
          cases item with
          | file content modified =>
            simp only [Option.isSome_some, if_true, hitem] at h
            obtain rfl := Option.some.inj h
            exact ⟨rfl, hbelongs, fun item h => ⟨content, modified, by
              rw [hitem] at h
              exact (Option.some.inj h).symm⟩⟩
          | closed | directory | link => simp [hitem] at h
    · rintro ⟨-, hbelongs, hfile⟩
      rw [hbelongs.find_eq hid (hplain place hbelongs)]
      cases hitem : made.get? place with
      | none => rfl
      | some item =>
        obtain ⟨content, modified, rfl⟩ := hfile item hitem
        simp [hitem]

/-- Lists with different identifiers have different targets. -/
theorem identifier_eq_of_target? {other : String} (hid : '/' ∉ identifier.toList)
    (hother : '/' ∉ other.toList) (hplain : c.IsPlain d identifier) (hplain' : c.IsPlain d other)
    (h : c.target? d identifier = some place) (h' : c.target? d other = some place) :
    identifier = other :=
  ((target?_eq_some_iff hid hplain).mp h).2.1.identifier_eq
    ((target?_eq_some_iff hother hplain').mp h').2.1

/-- What stands on the disk after a list has been written, if it could be. -/
theorem get?_write (hid : '/' ∉ identifier.toList) (hplain : c.IsPlain d identifier) (now : Int)
    (encoded : String) (place : Place) :
    (c.write d now identifier encoded).2.get? place =
      if c.target? d identifier = some place then some (.file (.bytes (.text encoded)) now)
      else (c.made d).get? place := by
  cases htarget : c.target? d identifier with
  | none =>
    obtain ⟨cause, hwrite⟩ := write_of_no_target htarget now encoded
    rw [hwrite, if_neg (by simp)]
  | some target =>
    have hroot := ((target?_eq_some_iff hid hplain).mp htarget).2.1.ne_root
    rw [write_of_target htarget, Disk.get?_put _ hroot]
    by_cases hplace : place = target
    · rw [if_pos hplace, if_pos (by rw [hplace])]
    · rw [if_neg hplace, if_neg fun h => hplace (Option.some.inj h).symm]

/-! ### Disks with lists that have been written -/

variable (c) in
/-- Whether a disk may come from another one by writing lists: the directory of the cache has been
made, and all that decides where files are written is as it was. -/
structure Written (d e : Disk) : Prop where
  made_eq : c.made e = e
  extends_made : (c.made d).Extends e
  isPlain : ∀ identifier, '/' ∉ identifier.toList → c.IsPlain d identifier → c.IsPlain e identifier
  target?_eq : ∀ identifier, '/' ∉ identifier.toList → c.IsPlain d identifier →
    c.target? e identifier = c.target? d identifier

theorem Written.trans {f : Disk} (h : c.Written d e) (h' : c.Written e f) : c.Written d f where
  made_eq := h'.made_eq
  extends_made := by
    have hextends := h'.extends_made
    rw [h.made_eq] at hextends
    exact h.extends_made.trans hextends
  isPlain identifier hid hplain := h'.isPlain identifier hid (h.isPlain identifier hid hplain)
  target?_eq identifier hid hplain :=
    (h'.target?_eq identifier hid (h.isPlain identifier hid hplain)).trans
      (h.target?_eq identifier hid hplain)

theorem makeDirectories_made (d : Disk) : c.made (c.made d) = c.made d ∧
    ∀ identifier, c.target? (c.made d) identifier = c.target? d identifier := by
  unfold made target?
  rcases hmake : d.makeDirectories (.text c.directory) with ⟨cause | ⟨⟨⟩⟩, made⟩
  · obtain ⟨cause', hstuck⟩ := Disk.makeDirectories_stuck hmake
    dsimp only
    rw [hstuck]
    exact ⟨rfl, fun _ => rfl⟩
  · dsimp only
    rw [Disk.makeDirectories_settled hmake (.refl made)]
    exact ⟨rfl, fun _ => rfl⟩

theorem written_made (d : Disk) : c.Written d (c.made d) := by
  obtain ⟨hmade, htarget⟩ := c.makeDirectories_made d
  refine ⟨hmade, .refl _, fun identifier _ hplain => ?_, fun identifier _ _ => htarget identifier⟩
  unfold IsPlain
  rw [hmade]
  exact hplain

/-- Making or changing a file keeps directories and links. -/
theorem extends_put_file (hplace : place ≠ []) (content : Bytes) (now : Int)
    (hfile : ∀ item, d.get? place = some item → ∃ content modified, item = .file content modified) :
    d.Extends (d.put place (.file (.bytes content) now)) := by
  have hkept : ∀ other item, d.get? other = some item → item = .directory ∨ (∃ target,
      item = .link target) → (d.put place (.file (.bytes content) now)).get? other = some item := by
    intro other item hitem hkind
    have hother : other ≠ place := by
      rintro rfl
      obtain ⟨_, _, rfl⟩ := hfile item hitem
      rcases hkind with hkind | ⟨_, hkind⟩ <;> cases hkind
    rw [Disk.get?_put d hplace, if_neg hother, hitem]
  exact ⟨rfl, fun other h => hkept other _ h (.inl rfl),
    fun other target h => hkept other _ h (.inr ⟨target, rfl⟩)⟩

section Put

variable {target : Place} {content : Bytes} (hbelongs : c.BelongsAt (c.made d) identifier target)
  (hmake : e.makeDirectories (.text c.directory) = (.ok (), e)) (hextends : (c.made d).Extends e)
  (hget : ∀ place, e.get? place =
    if some target = some place then some (.file (.bytes content) now) else (c.made d).get? place)

include hbelongs hmake hextends hget

/-- A file that is put where it belongs is no link. -/
theorem isPlain_of_put {other : String} (hother : '/' ∉ other.toList) (h : c.IsPlain d other) :
    c.IsPlain e other := by
  have hmade : c.made e = e := by
    unfold made
    rw [hmake]
  rw [isPlain_iff hother] at h ⊢
  rw [hmade]
  intro place hplace path hlink
  rw [hget] at hlink
  split at hlink
  · cases hlink
  · exact h place (hbelongs.of_extends hextends hplace) path hlink

/-- A file that is put where it belongs can be put there again, and hinders no other. -/
theorem target?_of_put (hok : (d.makeDirectories (.text c.directory)).1 = .ok ())
    (hfile : ∀ item, (c.made d).get? target = some item →
      ∃ content modified, item = .file content modified)
    {other : String} (hother : '/' ∉ other.toList) (h : c.IsPlain d other) :
    c.target? e other = c.target? d other := by
  have hmade : c.made e = e := by
    unfold made
    rw [hmake]
  ext place
  rw [target?_eq_some_iff hother (isPlain_of_put hbelongs hmake hextends hget hother h),
    target?_eq_some_iff hother h, hmade, hmake]
  have hiff : c.BelongsAt e other place ↔ c.BelongsAt (c.made d) other place :=
    ⟨hbelongs.of_extends hextends, fun h => h.extend hextends⟩
  rw [hiff, hget]
  by_cases hplace : target = place
  · subst hplace
    rw [if_pos rfl]
    constructor
    · rintro ⟨_, hthere, _⟩
      exact ⟨hok, hthere, hfile⟩
    · rintro ⟨_, hthere, _⟩
      exact ⟨rfl, hthere, fun item hitem => ⟨_, _, (Option.some.inj hitem).symm⟩⟩
  · rw [if_neg fun h => hplace (Option.some.inj h)]
    simp [hok]

end Put

/-- Writing a list leaves everything as it was that decides where files are written. -/
theorem written_write (hid : '/' ∉ identifier.toList) (hplain : c.IsPlain d identifier) (now : Int)
    (encoded : String) : c.Written d (c.write d now identifier encoded).2 := by
  cases htarget : c.target? d identifier with
  | none =>
    obtain ⟨cause, hwrite⟩ := write_of_no_target htarget now encoded
    rw [hwrite]
    exact written_made d
  | some target =>
    obtain ⟨hok, hbelongs, hfile⟩ := (target?_eq_some_iff hid hplain).mp htarget
    have hextends := extends_put_file hbelongs.ne_root (.text encoded) now hfile
    have hget := get?_write hid hplain now encoded
    rw [htarget] at hget
    rw [write_of_target htarget] at hget ⊢
    dsimp only at hget ⊢
    generalize (c.made d).put target (.file (.bytes (.text encoded)) now) = e at hextends hget
    have hmake : e.makeDirectories (.text c.directory) = (.ok (), e) := by
      refine Disk.makeDirectories_settled (d := d) ?_ hextends
      rw [← hok]
      rfl
    refine ⟨?_, hextends, fun other hother => isPlain_of_put hbelongs hmake hextends hget hother,
      fun other hother => target?_of_put hbelongs hmake hextends hget hok hfile hother⟩
    unfold made
    rw [hmake]

/-! ### Writing several lists -/

/-- A list that is written at some time, in nanoseconds. -/
structure Write where
  time : Int
  identifier : String
  encoded : String

variable (c) in
/-- The disk after lists have been written one after the other, as far as they can be. -/
def writeEach (d : Disk) (lists : List Write) : Disk :=
  lists.foldl (fun d x => (c.write d x.time x.identifier x.encoded).2) d

/-- The list that was written last under an identifier. -/
def latest? (lists : List Write) (identifier : String) : Option Write :=
  lists.reverse.find? (·.identifier == identifier)

theorem latest?_cons (x : Write) (lists : List Write) (identifier : String) :
    latest? (x :: lists) identifier =
      (latest? lists identifier).or (if x.identifier = identifier then some x else none) := by
  unfold latest?
  rw [List.reverse_cons, List.find?_append, List.find?_singleton]
  simp

theorem latest?_eq_none_iff {lists : List Write} :
    latest? lists identifier = none ↔ ∀ x ∈ lists, x.identifier ≠ identifier := by
  simp [latest?]

theorem mem_of_latest? {lists : List Write} {x : Write} (h : latest? lists identifier = some x) :
    x ∈ lists ∧ x.identifier = identifier :=
  ⟨List.mem_reverse.mp (List.mem_of_find?_eq_some h), by simpa using List.find?_some h⟩

variable (c) in
/-- Whether all identifiers are such that no file leaves the directory or is a link. -/
def ArePlain (d : Disk) (identifiers : List String) : Prop :=
  ∀ identifier ∈ identifiers, '/' ∉ identifier.toList ∧ c.IsPlain d identifier

theorem ArePlain.mono (h : c.Written d e) {identifiers identifiers' : List String}
    (hplain : c.ArePlain d identifiers) (hsub : identifiers' ⊆ identifiers) :
    c.ArePlain e identifiers' := fun identifier hmem =>
  have hidentifier := hplain identifier (hsub hmem)
  ⟨hidentifier.1, h.isPlain identifier hidentifier.1 hidentifier.2⟩

section WriteEach

variable {lists : List Write}

theorem written_writeEach (hplain : c.ArePlain d (lists.map (·.identifier))) (hne : lists ≠ []) :
    c.Written d (c.writeEach d lists) := by
  induction lists generalizing d with
  | nil => exact absurd rfl hne
  | cons x lists ih =>
    obtain ⟨hid, hplain'⟩ := hplain x.identifier (List.mem_cons_self ..)
    have hwritten := written_write hid hplain' x.time x.encoded
    by_cases hrest : lists = []
    · subst hrest
      exact hwritten
    · exact hwritten.trans (ih (hplain.mono hwritten (List.subset_cons_self ..)) hrest)

theorem start_writeEach (d : Disk) (lists : List Write) : (c.writeEach d lists).start = d.start := by
  induction lists generalizing d with
  | nil => rfl
  | cons x lists ih =>
    have hmade : (c.made d).start = d.start := adds_made.within.1
    have hfirst : (c.write d x.time x.identifier x.encoded).2.start = d.start := by
      cases htarget : c.target? d x.identifier with
      | none =>
        obtain ⟨cause, hwrite⟩ := write_of_no_target htarget x.time x.encoded
        rw [hwrite, hmade]
      | some place =>
        rw [write_of_target htarget]
        exact hmade
    exact (ih _).trans hfirst

/-- What stands at no target is left. -/
theorem get?_writeEach_of_forall_ne (hplain : c.ArePlain d (lists.map (·.identifier)))
    (h : ∀ x ∈ lists, c.target? d x.identifier ≠ some place) :
    (c.made (c.writeEach d lists)).get? place = (c.made d).get? place := by
  induction lists generalizing d with
  | nil => rfl
  | cons x lists ih =>
    obtain ⟨hid, hplain'⟩ := hplain x.identifier (List.mem_cons_self ..)
    have hwritten := written_write hid hplain' x.time x.encoded
    have hrest := ih (hplain.mono hwritten (List.subset_cons_self ..)) fun y hy => by
      obtain ⟨hid', hother⟩ :=
        hplain y.identifier (List.mem_map_of_mem (List.mem_cons_of_mem _ hy))
      rw [hwritten.target?_eq y.identifier hid' hother]
      exact h y (List.mem_cons_of_mem _ hy)
    have hfirst := get?_write hid hplain' x.time x.encoded place
    rw [if_neg (h x (List.mem_cons_self ..)), ← hwritten.made_eq] at hfirst
    exact hrest.trans hfirst

/-- At the target of each identifier stands what was written last under it. -/
theorem get?_writeEach_of_latest (hplain : c.ArePlain d (lists.map (·.identifier))) {x : Write}
    (hlatest : latest? lists identifier = some x) (h : c.target? d identifier = some place) :
    (c.writeEach d lists).get? place = some (.file (.bytes (.text x.encoded)) x.time) := by
  induction lists generalizing d with
  | nil => cases hlatest
  | cons y lists ih =>
    obtain ⟨hid, hplain'⟩ := hplain y.identifier (List.mem_cons_self ..)
    have hwritten := written_write hid hplain' y.time y.encoded
    have hplains : c.ArePlain _ (lists.map (·.identifier)) :=
      hplain.mono hwritten (List.subset_cons_self ..)
    rw [latest?_cons] at hlatest
    cases hlater : latest? lists identifier with
    | some z =>
      rw [hlater] at hlatest
      obtain ⟨hmem, rfl⟩ := mem_of_latest? (hlater.trans hlatest)
      obtain ⟨hid', hplain''⟩ :=
        hplain x.identifier (List.mem_cons_of_mem _ (List.mem_map_of_mem hmem))
      exact ih hplains (hlater.trans hlatest) ((hwritten.target?_eq _ hid' hplain'').trans h)
    | none =>
      rw [hlater, Option.none_or] at hlatest
      split at hlatest
      · rename_i hsame
        obtain rfl := Option.some.inj hlatest
        subst hsame
        -- no list that comes later has the same target
        have hlast : ∀ z ∈ lists,
            c.target? (c.write d y.time y.identifier y.encoded).2 z.identifier ≠ some place := by
          intro z hz htarget
          obtain ⟨hid', hother⟩ :=
            hplain z.identifier (List.mem_cons_of_mem _ (List.mem_map_of_mem hz))
          rw [hwritten.target?_eq z.identifier hid' hother] at htarget
          exact latest?_eq_none_iff.mp hlater z hz
            (identifier_eq_of_target? hid' hid hother hplain' htarget h)
        have hkept := get?_writeEach_of_forall_ne hplains hlast
        rw [hwritten.made_eq, get?_write hid hplain', if_pos h] at hkept
        have hmade := (written_writeEach hplain (List.cons_ne_nil y lists)).made_eq
        rw [← hmade]
        exact hkept
      · cases hlatest

end WriteEach

/-! ### Writing several lists at one time -/

variable (c) in
/-- The disk after lists have been written one after the other, each given by its identifier and its
encoded text. -/
def writes (now : Int) (d : Disk) (texts : List (String × String)) : Disk :=
  texts.foldl (fun d (identifier, encoded) => (c.write d now identifier encoded).2) d

/-- A list to be written at a time. -/
def Write.ofText (now : Int) (text : String × String) : Write :=
  ⟨now, text.1, text.2⟩

theorem writes_eq_writeEach (now : Int) (d : Disk) (texts : List (String × String)) :
    c.writes now d texts = c.writeEach d (texts.map (Write.ofText now)) := by
  rw [writes, writeEach, List.foldl_map]
  rfl

theorem map_identifier_ofText (now : Int) (texts : List (String × String)) :
    (texts.map (Write.ofText now)).map (·.identifier) = texts.map (·.1) := by
  rw [List.map_map]
  rfl

theorem writes_concat (now : Int) (d : Disk) (texts : List (String × String)) (identifier : String)
    (encoded : String) : c.writes now d (texts ++ [(identifier, encoded)]) =
      (c.write (c.writes now d texts) now identifier encoded).2 :=
  List.foldl_append

variable {texts : List (String × String)}

theorem written_writes (hplain : c.ArePlain d (texts.map (·.1))) (hne : texts ≠ []) (now : Int) :
    c.Written d (c.writes now d texts) := by
  rw [← map_identifier_ofText now] at hplain
  rw [writes_eq_writeEach]
  exact written_writeEach hplain (by simpa using hne)

/-- Writing lists changes no target. -/
theorem target?_writes (hplain : c.ArePlain d (identifier :: texts.map (·.1))) (now : Int) :
    c.target? (c.writes now d texts) identifier = c.target? d identifier := by
  by_cases hempty : texts = []
  · rw [hempty]
    rfl
  · obtain ⟨hid, hplain'⟩ := hplain identifier (List.mem_cons_self ..)
    have hplains : c.ArePlain d (texts.map (·.1)) :=
      fun other hother => hplain other (List.mem_cons_of_mem _ hother)
    exact (written_writes hplains hempty now).target?_eq identifier hid hplain'

theorem start_writes (now : Int) (d : Disk) (texts : List (String × String)) :
    (c.writes now d texts).start = d.start := by
  rw [writes_eq_writeEach, start_writeEach]

theorem get?_writes_of_forall_ne (hplain : c.ArePlain d (texts.map (·.1)))
    (h : ∀ text ∈ texts, c.target? d text.1 ≠ some place) (now : Int) :
    (c.made (c.writes now d texts)).get? place = (c.made d).get? place := by
  rw [← map_identifier_ofText now] at hplain
  rw [writes_eq_writeEach]
  exact get?_writeEach_of_forall_ne hplain (List.forall_mem_map.mpr h)

/-- At the target of each list stands the list. -/
theorem get?_writes_of_mem (hplain : c.ArePlain d (texts.map (·.1)))
    (hnodup : (texts.map (·.1)).Nodup) {text : String × String} (hmem : text ∈ texts)
    (h : c.target? d text.1 = some place) (now : Int) :
    (c.writes now d texts).get? place = some (.file (.bytes (.text text.2)) now) := by
  have hlatest : latest? (texts.map (Write.ofText now)) text.1 = some (.ofText now text) := by
    cases hlatest : latest? (texts.map (Write.ofText now)) text.1 with
    | none =>
      exact absurd rfl (latest?_eq_none_iff.mp hlatest (.ofText now text) (List.mem_map_of_mem hmem))
    | some x =>
      obtain ⟨hx, hsame⟩ := mem_of_latest? hlatest
      obtain ⟨other, hother, rfl⟩ := List.mem_map.mp hx
      rw [List.inj_on_of_nodup_map hnodup hother hmem hsame]
  rw [← map_identifier_ofText now] at hplain
  rw [writes_eq_writeEach]
  exact get?_writeEach_of_latest hplain hlatest h

/-- The order in which lists are written does not matter. -/
theorem get?_writes_congr {texts' : List (String × String)}
    (hplain : c.ArePlain d (texts.map (·.1))) (hnodup : (texts.map (·.1)).Nodup)
    (hnodup' : (texts'.map (·.1)).Nodup) (h : ∀ text, text ∈ texts ↔ text ∈ texts') (now : Int)
    (place : Place) : (c.writes now d texts).get? place = (c.writes now d texts').get? place := by
  have hplain' : c.ArePlain d (texts'.map (·.1)) := by
    intro identifier hmem
    obtain ⟨text, htext, rfl⟩ := List.mem_map.mp hmem
    exact hplain text.1 (List.mem_map_of_mem ((h text).mpr htext))
  by_cases hempty : texts = []
  · subst hempty
    have hempty' : texts' = [] := List.eq_nil_iff_forall_not_mem.mpr fun text htext => by
      simpa using (h text).mpr htext
    rw [hempty']
  · have hempty' : texts' ≠ [] := by
      obtain ⟨text, htext⟩ := List.exists_mem_of_ne_nil texts hempty
      exact List.ne_nil_of_mem ((h text).mp htext)
    by_cases htarget : ∃ text ∈ texts, c.target? d text.1 = some place
    · obtain ⟨text, hmem, htarget⟩ := htarget
      rw [get?_writes_of_mem hplain hnodup hmem htarget,
        get?_writes_of_mem hplain' hnodup' ((h text).mp hmem) htarget]
    · have hnone : ∀ text ∈ texts, c.target? d text.1 ≠ some place :=
        fun text hmem heq => htarget ⟨text, hmem, heq⟩
      have hkept := get?_writes_of_forall_ne hplain hnone now
      have hkept' := get?_writes_of_forall_ne hplain'
        (fun text hmem => hnone text ((h text).mpr hmem)) now
      rw [(written_writes hplain hempty now).made_eq] at hkept
      rw [(written_writes hplain' hempty' now).made_eq] at hkept'
      rw [hkept, hkept']

/-! ### Files -/

/-- A list that has been written can be read from its file. -/
theorem readFile_writes (hplain : c.ArePlain d (texts.map (·.1)))
    (hnodup : (texts.map (·.1)).Nodup) {text : String × String} (hmem : text ∈ texts)
    (h : c.target? d text.1 = some place) (now : Int) :
    (c.writes now d texts).readFile (.text (c.path text.1)) = .ok (.text text.2, now) := by
  obtain ⟨hid, hplain'⟩ := hplain text.1 (List.mem_map_of_mem hmem)
  have hwritten := written_writes hplain (List.ne_nil_of_mem hmem) now
  have hlink := (hwritten.isPlain text.1 hid hplain').ne_link hid
  have hbelongs := ((target?_eq_some_iff hid hplain').mp h).2.1.extend hwritten.extends_made
  exact (readFile_eq_ok_iff hid hlink).mpr
    ⟨place, hbelongs, get?_writes_of_mem hplain hnodup hmem h now⟩

/-- Where the file of a list belongs that is not among those written, nothing changes once the
directory has been made. -/
theorem get?_writes_of_belongsAt (hplain : c.ArePlain d (texts.map (·.1))) (hne : texts ≠ [])
    (hfresh : identifier ∉ texts.map (·.1))
    (hbelongs : c.BelongsAt (c.writes now d texts) identifier place) :
    (c.writes now d texts).get? place = (c.made d).get? place := by
  have hwritten := written_writes hplain hne now
  have hnone : ∀ text ∈ texts, c.target? d text.1 ≠ some place := by
    intro text htext htarget
    obtain ⟨hid, htextplain⟩ := hplain text.1 (List.mem_map_of_mem htext)
    have hother := ((target?_eq_some_iff hid htextplain).mp htarget).2.1
    have hsame := hbelongs.identifier_eq (hother.extend hwritten.extends_made)
    rw [hsame] at hfresh
    exact hfresh (List.mem_map_of_mem htext)
  have hleft := get?_writes_of_forall_ne hplain hnone now
  rwa [hwritten.made_eq] at hleft

/-- The file of a list that is not among those written is kept. -/
theorem keepsFile_writes (hplain : c.ArePlain d (identifier :: texts.map (·.1)))
    (hfresh : identifier ∉ texts.map (·.1)) (now : Int) :
    d.KeepsFile (c.writes now d texts) (.text (c.path identifier)) := by
  by_cases hempty : texts = []
  · subst hempty
    exact fun place item => ⟨fun h => h, fun h _ => (Disk.item_eq_ok_iff.mp h).2⟩
  · obtain ⟨hid, hplain'⟩ := hplain identifier (List.mem_cons_self ..)
    have hplains : c.ArePlain d (texts.map (·.1)) :=
      fun other hother => hplain other (List.mem_cons_of_mem _ hother)
    have hadds : d.Adds (c.made d) := adds_made
    have hwritten := written_writes hplains hempty now
    have hlink := (hwritten.isPlain identifier hid hplain').ne_link hid
    intro place item
    constructor
    · intro h
      obtain ⟨hbelongs, hitem⟩ := (item_eq_ok_iff hid (hplain'.ne_link hid)).mp h
      have hthere := hbelongs.extend (hadds.extends.trans hwritten.extends_made)
      refine (item_eq_ok_iff hid hlink).mpr ⟨hthere, ?_⟩
      rw [get?_writes_of_belongsAt hplains hempty hfresh hthere]
      exact hadds.kept place _ hitem
    · intro h hne
      obtain ⟨hbelongs, hitem⟩ := (item_eq_ok_iff hid hlink).mp h
      rw [get?_writes_of_belongsAt hplains hempty hfresh hbelongs] at hitem
      -- what has been added to make the directory is a directory
      exact (hadds.within.2 place item hitem).resolve_left hne

end Cache

end ContentBlocker
