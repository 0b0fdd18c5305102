import ContentBlocker.Proofs.Disk.WithoutLinks

/-!
# Paths through links

On a disk with links it depends on what stands on the way where a path leads. That names lead from
one place to another through links (`Disk.Leads`) is a relation of its own, which goes through more
names in two parts (`Leads.append`) and which following a path agrees with (`Leads.follow_eq`,
`leads_of_follow`).

A way to a directory stays open as long as directories are kept, and the links that lead to them
(`Disk.KeepsWays`), any way as long as everything is kept (`Disk.Keeps`).
-/

namespace ContentBlocker.Disk

variable {d e : Disk} {followLast : Bool} {links left more : Nat} {place middle goal : Place}
  {name : Bytes} {names first rest : List Bytes} {target : Target}

/-! ### One name at a time -/

/-- How following goes on behind a link, if some number of links may still be followed. -/
def beyond (d : Disk) (followLast : Bool) :
    Nat → Place → Bytes → List Bytes → Except DiskError Target
  | 0, _, _, _ => .error .tooManyLinks
  | links + 1, place, target, rest => do
    let path ← Path.parse target
    d.follow followLast links (if path.isAbsolute then [] else place) (path.steps ++ rest)

theorem follow_eq (links : Nat) :
    d.follow followLast links = d.walk followLast (d.beyond followLast links) := by
  cases links <;> rfl

theorem follow_nil : d.follow followLast links place [] = .ok (.item place) := by
  rw [follow_eq, walk]

theorem follow_cons :
    d.follow followLast links place (name :: rest) =
      if d.get? place ≠ some .directory then .error .notADirectory
      else if name = Path.self then d.follow followLast links place rest
      else if name = Path.parent then d.follow followLast links place.dropLast rest
      else if Path.nameSizeLimit < name.size then .error .nameTooLong
      else
        match d.get? (place ++ [name]) with
        | none => if rest.isEmpty then .ok (.free (place ++ [name])) else .error .notFound
        | some (.link target) =>
          if rest.isEmpty && !followLast then .ok (.item (place ++ [name]))
          else d.beyond followLast links place target rest
        | some _ => d.follow followLast links (place ++ [name]) rest := by
  rw [follow_eq]
  rfl

/-- Whether a name is one that something in a directory can have. -/
structure IsName (name : Bytes) : Prop where
  ne_self : name ≠ Path.self
  ne_parent : name ≠ Path.parent
  size_le : name.size ≤ Path.nameSizeLimit

theorem follow_self (h : d.get? place = some .directory) :
    d.follow followLast links place (Path.self :: rest) = d.follow followLast links place rest := by
  rw [follow_cons, if_neg (not_not_intro h), if_pos rfl]

theorem follow_parent (h : d.get? place = some .directory) :
    d.follow followLast links place (Path.parent :: rest) =
      d.follow followLast links place.dropLast rest := by
  have hself : Path.parent ≠ Path.self := by decide
  rw [follow_cons, if_neg (not_not_intro h), if_neg hself, if_pos rfl]

theorem follow_name (h : d.get? place = some .directory) (hname : IsName name) :
    d.follow followLast links place (name :: rest) =
      match d.get? (place ++ [name]) with
      | none => if rest.isEmpty then .ok (.free (place ++ [name])) else .error .notFound
      | some (.link target) =>
        if rest.isEmpty && !followLast then .ok (.item (place ++ [name]))
        else d.beyond followLast links place target rest
      | some _ => d.follow followLast links (place ++ [name]) rest := by
  rw [follow_cons, if_neg (not_not_intro h), if_neg hname.ne_self, if_neg hname.ne_parent,
    if_neg (Nat.not_lt.mpr hname.size_le)]

/-- A name leads on to its own place, if something stands there that is no link. -/
theorem follow_name_of_ne_link (h : d.get? place = some .directory) (hname : IsName name)
    {item : Item} (hitem : d.get? (place ++ [name]) = some item)
    (hlink : ∀ target, item ≠ .link target) :
    d.follow followLast links place (name :: rest) =
      d.follow followLast links (place ++ [name]) rest := by
  rw [follow_name h hname, hitem]
  cases item with
  | link target => exact absurd rfl (hlink target)
  | file | closed | directory => rfl

/-- A last name leads to its own place, if no link stands there. -/
theorem follow_last (h : d.get? place = some .directory) (hname : IsName name)
    (hlink : ∀ path, d.get? (place ++ [name]) ≠ some (.link path)) :
    d.follow followLast links place [name] =
      .ok (if (d.get? (place ++ [name])).isSome then .item (place ++ [name])
        else .free (place ++ [name])) := by
  cases hitem : d.get? (place ++ [name]) with
  | none =>
    rw [follow_name h hname, hitem]
    rfl
  | some item =>
    rw [follow_name_of_ne_link h hname hitem fun path hpath => hlink path (hpath ▸ hitem)]
    exact follow_nil

theorem follow_last_of_link (h : d.get? place = some .directory) (hname : IsName name)
    {path : Bytes} (hlink : d.get? (place ++ [name]) = some (.link path)) :
    d.follow false links place [name] = .ok (.item (place ++ [name])) := by
  rw [follow_name h hname, hlink]
  rfl

/-- The first of some names leads on from a directory only, and it is a short one or a proper one. -/
theorem directory_of_follow (h : d.follow followLast links place (name :: rest) = .ok target) :
    d.get? place = some .directory ∧ (name = Path.self ∨ name = Path.parent ∨ IsName name) := by
  rw [follow_cons] at h
  by_cases hplace : d.get? place = some .directory
  · refine ⟨hplace, ?_⟩
    by_cases hself : name = Path.self
    · exact .inl hself
    · by_cases hparent : name = Path.parent
      · exact .inr (.inl hparent)
      · refine .inr (.inr ⟨hself, hparent, ?_⟩)
        rcases Nat.lt_or_ge Path.nameSizeLimit name.size with hsize | hsize
        · rw [if_neg (not_not_intro hplace), if_neg hself, if_neg hparent, if_pos hsize] at h
          cases h
        · exact hsize
  · rw [if_pos hplace] at h
    cases h

/-! ### Ways -/

/-- Names lead from a place to another, all links being followed: if so many links may be followed
at first, then so many may be followed at the end. -/
inductive Leads (d : Disk) : Nat → Place → List Bytes → Nat → Place → Prop
  | nil {links : Nat} {place : Place} : Leads d links place [] links place
  | self {links left : Nat} {place goal : Place} {rest : List Bytes}
      (hplace : d.get? place = some .directory) (hrest : Leads d links place rest left goal) :
      Leads d links place (Path.self :: rest) left goal
  | parent {links left : Nat} {place goal : Place} {rest : List Bytes}
      (hplace : d.get? place = some .directory)
      (hrest : Leads d links place.dropLast rest left goal) :
      Leads d links place (Path.parent :: rest) left goal
  | enter {links left : Nat} {place goal : Place} {name : Bytes} {rest : List Bytes} {item : Item}
      (hplace : d.get? place = some .directory) (hname : IsName name)
      (hitem : d.get? (place ++ [name]) = some item) (hlink : ∀ target, item ≠ .link target)
      (hrest : Leads d links (place ++ [name]) rest left goal) :
      Leads d links place (name :: rest) left goal
  | link {links left : Nat} {place goal : Place} {name : Bytes} {rest : List Bytes}
      {target : Bytes} {path : Path}
      (hplace : d.get? place = some .directory) (hname : IsName name)
      (hlink : d.get? (place ++ [name]) = some (.link target))
      (hpath : Path.parse target = .ok path)
      (hrest : Leads d links (if path.isAbsolute then [] else place) (path.steps ++ rest)
        left goal) :
      Leads d (links + 1) place (name :: rest) left goal

theorem Leads.append (h : d.Leads links place first left middle)
    (h' : d.Leads left middle rest more goal) : d.Leads links place (first ++ rest) more goal := by
  induction h with
  | nil => exact h'
  | self hplace _ ih => exact .self hplace (ih h')
  | parent hplace _ ih => exact .parent hplace (ih h')
  | enter hplace hname hitem hlink _ ih => exact .enter hplace hname hitem hlink (ih h')
  | link hplace hname hlink hpath _ ih =>
    have hrest := ih h'
    rw [List.append_assoc] at hrest
    exact .link hplace hname hlink hpath hrest

theorem Leads.split (h : d.Leads links place (first ++ rest) left goal) :
    ∃ more middle, d.Leads links place first more middle ∧
      d.Leads more middle rest left goal := by
  -- behind a link the names of its path come before those of the first part that are left
  generalize hnames : first ++ rest = names at h
  induction h generalizing first with
  | nil =>
    obtain ⟨rfl, rfl⟩ := List.append_eq_nil_iff.mp hnames
    exact ⟨_, _, .nil, .nil⟩
  | @self links left place goal names hplace hrest ih =>
    rcases List.append_eq_cons_iff.mp hnames with ⟨rfl, rfl⟩ | ⟨first, rfl, rfl⟩
    · exact ⟨_, _, .nil, .self hplace hrest⟩
    · obtain ⟨more, middle, hfirst, hlast⟩ := ih rfl
      exact ⟨more, middle, .self hplace hfirst, hlast⟩
  | @parent links left place goal names hplace hrest ih =>
    rcases List.append_eq_cons_iff.mp hnames with ⟨rfl, rfl⟩ | ⟨first, rfl, rfl⟩
    · exact ⟨_, _, .nil, .parent hplace hrest⟩
    · obtain ⟨more, middle, hfirst, hlast⟩ := ih rfl
      exact ⟨more, middle, .parent hplace hfirst, hlast⟩
  | @enter links left place goal name names item hplace hname hitem hlink hrest ih =>
    rcases List.append_eq_cons_iff.mp hnames with ⟨rfl, rfl⟩ | ⟨first, rfl, rfl⟩
    · exact ⟨_, _, .nil, .enter hplace hname hitem hlink hrest⟩
    · obtain ⟨more, middle, hfirst, hlast⟩ := ih rfl
      exact ⟨more, middle, .enter hplace hname hitem hlink hfirst, hlast⟩
  | @link links left place goal name names target path hplace hname hlink hpath hrest ih =>
    rcases List.append_eq_cons_iff.mp hnames with ⟨rfl, rfl⟩ | ⟨first, rfl, rfl⟩
    · exact ⟨_, _, .nil, .link hplace hname hlink hpath hrest⟩
    · obtain ⟨more, middle, hfirst, hlast⟩ :=
        ih (List.append_assoc path.steps first rest)
      exact ⟨more, middle, .link hplace hname hlink hpath hfirst, hlast⟩

/-- A way to a directory starts in one. -/
theorem Leads.directory (h : d.Leads links place names left goal)
    (hgoal : d.get? goal = some .directory) : d.get? place = some .directory := by
  cases h with
  | nil => exact hgoal
  | self hplace => exact hplace
  | parent hplace => exact hplace
  | enter hplace => exact hplace
  | link hplace => exact hplace

/-- Steps from a directory to itself may be left out. -/
theorem Leads.filter_self (h : d.Leads links place names left goal) :
    d.Leads links place (names.filter (· ≠ Path.self)) left goal := by
  -- the names of a link's path are kept, so only those from some point on are filtered
  suffices hrest : ∀ first rest, names = first ++ rest →
      d.Leads links place (first ++ rest.filter (· ≠ Path.self)) left goal from hrest [] names rfl
  induction h with
  | nil =>
    intro first rest hnames
    obtain ⟨rfl, rfl⟩ := List.append_eq_nil_iff.mp hnames.symm
    exact .nil
  | self hplace _ ih =>
    intro first rest hnames
    rcases List.append_eq_cons_iff.mp hnames.symm with ⟨rfl, rfl⟩ | ⟨first, rfl, rfl⟩
    · simpa using ih [] _ rfl
    · exact .self hplace (ih first rest rfl)
  | parent hplace _ ih =>
    intro first rest hnames
    rcases List.append_eq_cons_iff.mp hnames.symm with ⟨rfl, rfl⟩ | ⟨first, rfl, rfl⟩
    · exact .parent hplace (ih [] _ rfl)
    · exact .parent hplace (ih first rest rfl)
  | enter hplace hname hitem hlink _ ih =>
    intro first rest hnames
    rcases List.append_eq_cons_iff.mp hnames.symm with ⟨rfl, rfl⟩ | ⟨first, rfl, rfl⟩
    · simpa [hname.ne_self] using Leads.enter hplace hname hitem hlink (ih [] _ rfl)
    · exact .enter hplace hname hitem hlink (ih first rest rfl)
  | @link _ _ _ _ _ _ _ path hplace hname hlink hpath _ ih =>
    intro first rest hnames
    rcases List.append_eq_cons_iff.mp hnames.symm with ⟨rfl, rfl⟩ | ⟨first, rfl, rfl⟩
    · simpa [hname.ne_self] using Leads.link hplace hname hlink hpath (ih path.steps _ rfl)
    · have hrest := ih (path.steps ++ first) rest (List.append_assoc ..).symm
      rw [List.append_assoc] at hrest
      exact .link hplace hname hlink hpath hrest

/-! ### Following a way -/

/-- Names are followed along a way, but for a link in the last place. -/
theorem Leads.follow_append (h : d.Leads links place first left middle)
    (hrest : rest ≠ [] ∨ followLast = true) :
    d.follow followLast links place (first ++ rest) = d.follow followLast left middle rest := by
  induction h with
  | nil => rfl
  | self hplace _ ih => rw [List.cons_append, follow_self hplace, ih]
  | parent hplace _ ih => rw [List.cons_append, follow_parent hplace, ih]
  | @enter _ _ _ _ _ _ item hplace hname hitem hlink _ ih =>
    rw [List.cons_append, follow_name_of_ne_link hplace hname hitem hlink, ih]
  | @link links _ place _ _ names target _ hplace hname hlink hpath _ ih =>
    have hgoes : ¬((names ++ rest).isEmpty && !followLast) = true := by
      rcases hrest with hrest | rfl <;> simp_all
    rw [List.append_assoc] at ih
    rw [List.cons_append, follow_name hplace hname, hlink]
    dsimp only
    rw [if_neg hgoes, beyond, hpath]
    exact ih

theorem Leads.follow_eq (h : d.Leads links place names left goal) :
    d.follow true links place names = .ok (.item goal) := by
  have hfollow : d.follow true links place (names ++ []) = d.follow true left goal [] :=
    h.follow_append (.inr rfl)
  rwa [List.append_nil, follow_nil] at hfollow

/-- A way leads to something also where a link in the last place is not followed. -/
theorem Leads.exists_follow (h : d.Leads links place names left goal) :
    ∃ other, d.follow false links place names = .ok (.item other) := by
  induction h with
  | nil => exact ⟨_, follow_nil⟩
  | self hplace _ ih => rwa [follow_self hplace]
  | parent hplace _ ih => rwa [follow_parent hplace]
  | @enter _ _ _ _ _ _ item hplace hname hitem hlink _ ih =>
    rwa [follow_name_of_ne_link hplace hname hitem hlink]
  | @link links _ place _ _ names target _ hplace hname hlink hpath _ ih =>
    rw [follow_name hplace hname, hlink]
    dsimp only
    split
    · exact ⟨_, rfl⟩
    · rw [beyond, hpath]
      exact ih

/-- Where names are followed, there is a way through the first of them. -/
theorem leads_of_follow
    (h : d.follow followLast links place (first ++ rest) = .ok target)
    (hrest : rest = [] → followLast = true ∧ ∃ goal, target = .item goal) :
    ∃ left middle, d.Leads links place first left middle ∧
      d.follow followLast left middle rest = .ok target := by
  induction links using Nat.strongRecOn generalizing place first with
  | _ links jump =>
  induction first generalizing place with
  | nil => exact ⟨links, place, .nil, h⟩
  | cons name first ih =>
    rw [List.cons_append] at h
    obtain ⟨hplace, rfl | rfl | hname⟩ := directory_of_follow h
    · rw [follow_self hplace] at h
      obtain ⟨left, middle, hfirst, hlast⟩ := ih h
      exact ⟨left, middle, .self hplace hfirst, hlast⟩
    · rw [follow_parent hplace] at h
      obtain ⟨left, middle, hfirst, hlast⟩ := ih h
      exact ⟨left, middle, .parent hplace hfirst, hlast⟩
    · rw [follow_name hplace hname] at h
      cases hitem : d.get? (place ++ [name]) with
      | none =>
        rw [hitem] at h
        dsimp only at h
        -- nothing can be missing on the way, and at its end only if more is to come
        split at h
        · rename_i hempty
          obtain ⟨_, rfl⟩ := List.append_eq_nil_iff.mp (List.isEmpty_iff.mp hempty)
          obtain ⟨_, goal, rfl⟩ := hrest rfl
          cases h
        · cases h
      | some item =>
        rw [hitem] at h
        cases item with
        | link path =>
          dsimp only at h
          split at h
          · rename_i hempty
            rw [Bool.and_eq_true, List.isEmpty_iff, List.append_eq_nil_iff] at hempty
            rw [(hrest hempty.1.2).1] at hempty
            exact absurd hempty.2 (by decide)
          · cases links with
            | zero => cases h
            | succ links =>
              rw [beyond] at h
              cases hpath : Path.parse path with
              | error e =>
                rw [hpath] at h
                cases h
              | ok parsed =>
                have hbehind : d.follow followLast links (if parsed.isAbsolute then [] else place)
                    ((parsed.steps ++ first) ++ rest) = .ok target := by
                  rw [hpath] at h
                  rw [List.append_assoc]
                  exact h
                obtain ⟨left, middle, hfirst, hlast⟩ := jump links (Nat.lt_succ_self links) hbehind
                exact ⟨left, middle, .link hplace hname hitem hpath hfirst, hlast⟩
        | file | closed | directory =>
          obtain ⟨left, middle, hfirst, hlast⟩ := ih h
          exact ⟨left, middle, .enter hplace hname hitem (by simp) hfirst, hlast⟩

theorem leads_of_follow_item (h : d.follow true links place names = .ok (.item goal)) :
    ∃ left, d.Leads links place names left goal := by
  rw [← List.append_nil names] at h
  obtain ⟨left, middle, hnames, hlast⟩ := leads_of_follow h fun _ => ⟨rfl, goal, rfl⟩
  rw [follow_nil] at hlast
  cases hlast
  exact ⟨left, hnames⟩

theorem follow_eq_item_iff :
    d.follow true links place names = .ok (.item goal) ↔ ∃ left, d.Leads links place names left goal :=
  ⟨leads_of_follow_item, fun ⟨_, hleads⟩ => hleads.follow_eq⟩

theorem find_eq_item_iff {path : Bytes} :
    d.find true path = .ok (.item goal) ↔ ∃ p, Path.parse path = .ok p ∧ p.isEmpty = false ∧
      ∃ left, d.Leads linkLimit (d.startOf p) p.steps left goal := by
  unfold find
  cases Path.parse path with
  | error cause => simp [bind, Except.bind]
  | ok p => cases hempty : p.isEmpty <;> simp [bind, Except.bind, hempty, follow_eq_item_iff]

theorem Leads.add_links (h : d.Leads links place names left goal) (extra : Nat) :
    d.Leads (links + extra) place names (left + extra) goal := by
  induction h with
  | nil => exact .nil
  | self hplace _ ih => exact .self hplace ih
  | parent hplace _ ih => exact .parent hplace ih
  | enter hplace hname hitem hlink _ ih => exact .enter hplace hname hitem hlink ih
  | link hplace hname hlink hpath _ ih =>
    rw [Nat.add_right_comm]
    exact .link hplace hname hlink hpath ih

/-- How many links may be followed does not decide where names lead. -/
theorem Leads.unique {links' left' : Nat} {goal' : Place} (h : d.Leads links place names left goal)
    (h' : d.Leads links' place names left' goal') : goal = goal' := by
  have hfollow := (h.add_links links').follow_eq
  rw [Nat.add_comm, (h'.add_links links).follow_eq] at hfollow
  cases hfollow
  rfl

/-- Where nothing stands yet, the last name is a proper one and the others lead to a directory. -/
theorem leads_of_follow_free (h : d.follow false links place names = .ok (.free goal)) :
    ∃ above name left middle, names = above ++ [name] ∧ IsName name ∧
      d.Leads links place above left middle ∧ d.get? middle = some .directory ∧
      goal = middle ++ [name] ∧ d.get? goal = none := by
  rcases List.eq_nil_or_concat names with rfl | ⟨above, name, rfl⟩
  · rw [follow_nil] at h
    cases h
  · rw [List.concat_eq_append] at h ⊢
    obtain ⟨left, middle, habove, hlast⟩ := leads_of_follow h (by simp)
    obtain ⟨hmiddle, rfl | rfl | hname⟩ := directory_of_follow hlast
    · rw [follow_self hmiddle, follow_nil] at hlast
      cases hlast
    · rw [follow_parent hmiddle, follow_nil] at hlast
      cases hlast
    · refine ⟨above, name, left, middle, rfl, hname, habove, hmiddle, ?_⟩
      rw [follow_name hmiddle hname] at hlast
      cases hitem : d.get? (middle ++ [name]) with
      | none =>
        rw [hitem] at hlast
        cases hlast
        exact ⟨rfl, hitem⟩
      | some item =>
        rw [hitem] at hlast
        cases item with
        | link target => cases hlast
        | file | closed | directory =>
          dsimp only at hlast
          rw [follow_nil] at hlast
          cases hlast

/-! ### Changes that keep ways open -/

/-- Whether a disk still has the directories and links of another one. -/
structure Extends (d e : Disk) : Prop where
  start : e.start = d.start
  directory : ∀ place, d.get? place = some .directory → e.get? place = some .directory
  link : ∀ place target, d.get? place = some (.link target) → e.get? place = some (.link target)

/-- Whether a disk has what another one has, and nothing else but directories. -/
structure Adds (d e : Disk) : Prop where
  within : e.Within d
  kept : ∀ place item, d.get? place = some item → e.get? place = some item

/-- Whether a disk has what another one has. -/
structure Keeps (d e : Disk) : Prop where
  start : e.start = d.start
  kept : ∀ place item, d.get? place = some item → e.get? place = some item

/-- Whether a disk still has the directories of another one, and the links to directories. -/
structure KeepsWays (d e : Disk) : Prop where
  start : e.start = d.start
  directory : ∀ place, d.get? place = some .directory → e.get? place = some .directory
  link : ∀ links left place name goal target, d.get? (place ++ [name]) = some (.link target) →
    d.Leads links place [name] left goal → d.get? goal = some .directory →
    e.get? (place ++ [name]) = some (.link target)

theorem Extends.refl (d : Disk) : d.Extends d :=
  ⟨rfl, fun _ h => h, fun _ _ h => h⟩

theorem Extends.trans {f : Disk} (h : d.Extends e) (h' : e.Extends f) : d.Extends f :=
  ⟨h'.start.trans h.start, fun place hplace => h'.directory place (h.directory place hplace),
    fun place target hlink => h'.link place target (h.link place target hlink)⟩

theorem Adds.refl (d : Disk) : d.Adds d :=
  ⟨Within.refl d, fun _ _ h => h⟩

theorem Adds.trans {f : Disk} (h : d.Adds e) (h' : e.Adds f) : d.Adds f :=
  ⟨h'.within.trans h.within, fun place item hitem => h'.kept place item (h.kept place item hitem)⟩

theorem Adds.extends (h : d.Adds e) : d.Extends e :=
  ⟨h.within.1, fun place => h.kept place _, fun place target => h.kept place (.link target)⟩

theorem Adds.keeps (h : d.Adds e) : d.Keeps e :=
  ⟨h.within.1, h.kept⟩

theorem Extends.keepsWays (h : d.Extends e) : d.KeepsWays e :=
  ⟨h.start, h.directory, fun _ _ place name _ target hlink _ _ => h.link (place ++ [name]) target hlink⟩

/-- A way to a directory stays open while directories and the links to them are kept. -/
theorem Leads.keep (h : d.Leads links place names left goal)
    (hgoal : d.get? goal = some .directory) (he : d.KeepsWays e) :
    e.Leads links place names left goal := by
  induction h with
  | nil => exact .nil
  | self hplace _ ih => exact .self (he.directory _ hplace) (ih hgoal)
  | parent hplace _ ih => exact .parent (he.directory _ hplace) (ih hgoal)
  | enter hplace hname _ _ hrest ih =>
    -- what is entered on the way to a directory is one
    have hentered := he.directory _ (hrest.directory hgoal)
    exact .enter (he.directory _ hplace) hname hentered (by simp) (ih hgoal)
  | @link links left place goal name rest target path hplace hname hlink hpath hrest ih =>
    -- and so is what a link leads to
    have hwhole : d.Leads (links + 1) place ([name] ++ rest) left goal :=
      .link hplace hname hlink hpath hrest
    obtain ⟨more, middle, hfirst, hlast⟩ := hwhole.split
    have hkept := he.link _ _ _ _ _ _ hlink hfirst (hlast.directory hgoal)
    exact .link (he.directory _ hplace) hname hkept hpath (ih hgoal)

theorem Leads.mono (h : d.Leads links place names left goal) (he : d.Keeps e) :
    e.Leads links place names left goal := by
  induction h with
  | nil => exact .nil
  | self hplace _ ih => exact .self (he.kept _ _ hplace) ih
  | parent hplace _ ih => exact .parent (he.kept _ _ hplace) ih
  | enter hplace hname hitem hlink _ ih =>
    exact .enter (he.kept _ _ hplace) hname (he.kept _ _ hitem) hlink ih
  | link hplace hname hlink hpath _ ih =>
    exact .link (he.kept _ _ hplace) hname (he.kept _ _ hlink) hpath ih

theorem startOf_congr (h : e.start = d.start) (path : Path) : e.startOf path = d.startOf path := by
  unfold startOf
  rw [h]

/-- A path leads to where it led, if everything is kept. -/
theorem find_mono {path : Bytes} {goal : Place} (h : d.find true path = .ok (.item goal))
    (he : d.Keeps e) : e.find true path = .ok (.item goal) := by
  obtain ⟨p, hparse, hempty, left, hleads⟩ := find_eq_item_iff.mp h
  refine find_eq_item_iff.mpr ⟨p, hparse, hempty, left, ?_⟩
  rw [startOf_congr he.start]
  exact hleads.mono he

/-- What can be opened can be opened where everything is kept. -/
theorem modified_mono {path : Bytes} {modified : Int} (h : d.modified path = .ok modified)
    (he : d.Keeps e) : e.modified path = .ok modified := by
  obtain ⟨goal, content, hfind, hfile⟩ := modified_iff.mp h
  exact modified_iff.mpr ⟨goal, content, find_mono hfind he, he.kept goal _ hfile⟩

end ContentBlocker.Disk
