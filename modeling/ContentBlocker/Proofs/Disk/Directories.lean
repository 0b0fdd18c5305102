import ContentBlocker.Proofs.Disk.Following
import Mathlib.Data.List.Induction

/-!
# Making directories again

Making a directory and those on the way to it adds directories and nothing else
(`makeDirectories_adds`), and is done once and for all: where it has succeeded, doing it again changes
nothing as long as directories and links are kept (`makeDirectories_settled`), and where it has failed,
doing it again fails and changes nothing (`makeDirectories_stuck`).

If the path takes no step to the directory above, it leads to a new directory then, or nothing had to
be made (`eq_or_get?_eq_none_of_makeDirectories`). With such steps it may not: `x/../lists` leads to
an old directory once `x` has been made.

All of it is proved for one directory from the same about the one above (`Makes.ensureDirectory`).
What else holds of a disk is kept if it is kept by one new directory (`makeDirectories_preserves`).
-/

namespace ContentBlocker

/-- Whether one of the bytes is a slash. -/
def Bytes.holdsSlash : Bytes → Bool
  | .text s => s.toList.contains '/'
  | .raw bytes => bytes.contains 47

namespace Disk

variable {d e made : Disk} {place : Place} {name last : Bytes} {names above : List Bytes}
  {act : Disk → Except DiskError Unit × Disk} {cause : DiskError}

/-! ### Trees -/

/-- Whether everything on a disk stands in a directory, under a name without slashes. -/
structure IsTree (d : Disk) : Prop where
  directory : ∀ place name item, d.get? (place ++ [name]) = some item →
    d.get? place = some .directory
  noSlash : ∀ place name item, d.get? (place ++ [name]) = some item → name.holdsSlash = false

/-- Nothing stands below what is no directory. -/
theorem IsTree.directory_above (h : d.IsTree) {above below : Place} (hbelow : below ≠ [])
    {item : Item} (hitem : d.get? (above ++ below) = some item) :
    d.get? above = some .directory := by
  induction below using List.reverseRecOn generalizing item with
  | nil => exact absurd rfl hbelow
  | append_singleton below name ih =>
    rw [← List.append_assoc] at hitem
    have hdirectory := h.directory _ _ _ hitem
    by_cases hempty : below = []
    · rwa [hempty, List.append_nil] at hdirectory
    · exact ih hempty hdirectory

/-- Whether a disk is a tree can be seen from the list of what stands on it. -/
theorem isTree_of_forall_items
    (h : ∀ entry ∈ d.items, d.get? entry.1.dropLast = some .directory ∧
      ∀ name ∈ entry.1.getLast?, name.holdsSlash = false) : d.IsTree := by
  have hentry : ∀ place name item, d.get? (place ++ [name]) = some item →
      d.get? place = some .directory ∧ name.holdsSlash = false := by
    intro place name item hitem
    rw [get?, if_neg (by simp), List.lookup_eq_some_iff] at hitem
    obtain ⟨before, after, hitems, _⟩ := hitem
    obtain ⟨hdirectory, hname⟩ := h (place ++ [name], item) (by simp [hitems])
    exact ⟨by simpa using hdirectory, hname name (by simp)⟩
  exact ⟨fun place name item hitem => (hentry place name item hitem).1,
    fun place name item hitem => (hentry place name item hitem).2⟩

/-! ### One directory -/

theorem isDirectory_iff :
    d.isDirectory place names = true ↔ ∃ left goal, d.Leads linkLimit place names left goal ∧
      d.get? goal = some .directory := by
  unfold isDirectory
  constructor
  · intro h
    split at h
    · rename_i goal hfollow
      obtain ⟨left, hleads⟩ := leads_of_follow_item hfollow
      exact ⟨left, goal, hleads, by simpa using h⟩
    · cases h
  · rintro ⟨left, goal, hleads, hgoal⟩
    rw [hleads.follow_eq]
    simp [hgoal]

theorem isDirectory_extend (h : d.isDirectory place names = true) (he : d.Extends e) :
    e.isDirectory place names = true := by
  obtain ⟨left, goal, hleads, hgoal⟩ := isDirectory_iff.mp h
  exact isDirectory_iff.mpr ⟨left, goal, hleads.keep hgoal he.keepsWays, he.directory goal hgoal⟩

/-- A directory that is there cannot be made. -/
theorem makeDirectory_of_isDirectory (h : d.isDirectory place names = true) :
    d.makeDirectory place names = .error .exists := by
  obtain ⟨left, goal, hleads, _⟩ := isDirectory_iff.mp h
  obtain ⟨other, hfollow⟩ := hleads.exists_follow
  unfold makeDirectory
  rw [hfollow]
  rfl

theorem makeDirectory_eq_ok (h : d.makeDirectory place names = .ok e) :
    ∃ goal, d.follow false linkLimit place names = .ok (.free goal) ∧ e = d.put goal .directory := by
  unfold makeDirectory at h
  cases hfollow : d.follow false linkLimit place names with
  | error cause =>
    rw [hfollow] at h
    cases h
  | ok target =>
    rw [hfollow] at h
    cases target with
    | item goal => cases h
    | free goal => exact ⟨goal, rfl, (Except.ok.inj h).symm⟩

theorem adds_put_directory {goal : Place} (h : d.get? goal = none) :
    d.Adds (d.put goal .directory) := by
  have hroot := ne_root_of_free h
  refine ⟨within_put_directory hroot, fun other item hitem => ?_⟩
  have hother : other ≠ goal := by
    rintro rfl
    rw [h] at hitem
    cases hitem
  rw [get?_put d hroot, if_neg hother, hitem]

/-- A directory that is made stands where nothing stood, and nothing else has changed. -/
theorem exists_leads_of_make (h : d.makeDirectory place names = .ok e) :
    d.Adds e ∧ ∃ left goal, e.Leads linkLimit place names left goal ∧
      e.get? goal = some .directory ∧ d.get? goal = none := by
  obtain ⟨goal, hfollow, rfl⟩ := makeDirectory_eq_ok h
  obtain ⟨above, name, left, middle, rfl, hname, habove, hmiddle, rfl, hfree⟩ :=
    leads_of_follow_free hfollow
  have hadds := adds_put_directory hfree
  have hgoal : (d.put (middle ++ [name]) .directory).get? (middle ++ [name]) =
      some .directory := by
    rw [get?_put d (ne_root_of_free hfree), if_pos rfl]
  have hlast : (d.put (middle ++ [name]) .directory).Leads left middle [name] left
      (middle ++ [name]) := .enter (hadds.kept _ _ hmiddle) hname hgoal (by simp) .nil
  exact ⟨hadds, left, _, (habove.mono hadds.keeps).append hlast, hgoal, hfree⟩

theorem makeDirectory_spec (h : d.makeDirectory place names = .ok e) :
    d.Adds e ∧ e.isDirectory place names = true := by
  obtain ⟨hadds, left, goal, hleads, hgoal, _⟩ := exists_leads_of_make h
  exact ⟨hadds, isDirectory_iff.mpr ⟨left, goal, hleads, hgoal⟩⟩

theorem get?_of_make {left : Nat} {goal : Place} (h : d.makeDirectory place names = .ok e)
    (hleads : e.Leads linkLimit place names left goal) : d.get? goal = none := by
  obtain ⟨_, _, made, hmade, _, hnew⟩ := exists_leads_of_make h
  rwa [hleads.unique hmade]

/-- A proper name leads from a new directory to where nothing stood. -/
theorem Adds.get?_eq_none_of_leads (h : d.Adds e) (htree : d.IsTree) (hself : name ≠ Path.self)
    (hparent : name ≠ Path.parent) (hnew : d.get? place = none) {links left : Nat} {goal : Place}
    (hleads : e.Leads links place [name] left goal) : d.get? goal = none := by
  have hbelow : ∀ item, d.get? (place ++ [name]) ≠ some item := by
    intro item hitem
    rw [htree.directory _ _ _ hitem] at hnew
    cases hnew
  cases hleads with
  | self => exact absurd rfl hself
  | parent => exact absurd rfl hparent
  | enter _ _ _ _ hrest =>
    cases hrest
    exact Option.eq_none_iff_forall_ne_some.mpr hbelow
  | link _ _ hlink =>
    rcases h.within.2 _ _ hlink with hdirectory | hlink
    · cases hdirectory
    · exact absurd hlink (hbelow _)

/-! ### The directory above -/

/-- What the names lead to that come before the last proper one is a directory if all of them lead
to something. -/
theorem isDirectory_above (hnames : names.filter (· ≠ Path.self) = above ++ [last])
    (h : d.isDirectory place names = true) : d.isDirectory place above = true := by
  obtain ⟨left, goal, hleads, hgoal⟩ := isDirectory_iff.mp h
  have hfiltered := hleads.filter_self
  rw [hnames] at hfiltered
  obtain ⟨more, middle, habove, hlast⟩ := hfiltered.split
  exact isDirectory_iff.mpr ⟨more, middle, habove, hlast.directory hgoal⟩

theorem isDirectory_above_of_make (hnames : names.filter (· ≠ Path.self) = above ++ [last])
    (h : d.makeDirectory place names = .ok e) : d.isDirectory place above = true := by
  obtain ⟨goal, hfollow, _⟩ := makeDirectory_eq_ok h
  obtain ⟨before, name, left, middle, rfl, hname, hbefore, hmiddle, _⟩ :=
    leads_of_follow_free hfollow
  -- the last name is not a step from a directory to itself, so it stays
  have hlast : before.filter (· ≠ Path.self) = above := by
    rw [List.filter_append, List.filter_cons_of_pos (by simpa using hname.ne_self)] at hnames
    exact (List.append_inj' hnames rfl).1
  exact isDirectory_iff.mpr ⟨left, middle, hlast ▸ hbefore.filter_self, hmiddle⟩

/-! ### One directory after those above -/

theorem ensureDirectory_of_error (h : d.makeDirectory place names = .error cause)
    (hcause : cause ≠ .notFound) :
    d.ensureDirectory place names act =
      if d.isDirectory place names then (.ok (), d) else (.error cause, d) := by
  unfold ensureDirectory
  dsimp only
  rw [h]
  cases cause <;> first
    | rfl
    | exact absurd rfl hcause

theorem ensureDirectory_of_isDirectory (h : d.isDirectory place names = true) :
    d.ensureDirectory place names act = (.ok (), d) := by
  rw [ensureDirectory_of_error (makeDirectory_of_isDirectory h) (by decide), if_pos h]

theorem ensureDirectory_of_ok (h : d.makeDirectory place names = .ok e) :
    d.ensureDirectory place names act = (.ok (), e) := by
  unfold ensureDirectory
  dsimp only
  rw [h]

theorem ensureDirectory_of_failed (h : d.makeDirectory place names = .error .notFound)
    (hact : act d = (.error cause, e)) :
    d.ensureDirectory place names act = (.error cause, e) := by
  unfold ensureDirectory
  dsimp only
  rw [h]
  dsimp only
  rw [hact]

/-- Once those above are there, a directory is made or is there already. -/
theorem ensureDirectory_of_done (h : d.makeDirectory place names = .error .notFound)
    (hact : act d = (.ok (), e)) :
    (∀ made, e.makeDirectory place names = .ok made →
      d.ensureDirectory place names act = (.ok (), made)) ∧
    ∀ cause, e.makeDirectory place names = .error cause →
      d.ensureDirectory place names act =
        if e.isDirectory place names then (.ok (), e) else (.error cause, e) := by
  unfold ensureDirectory
  dsimp only
  rw [h]
  dsimp only
  rw [hact]
  dsimp only
  constructor
  · intro made hmake
    rw [hmake]
  · intro cause hmake
    rw [hmake]

/-- Nothing changes where a directory cannot be made and neither can those above it. -/
theorem ensureDirectory_of_stuck (hmake : d.makeDirectory place names = .error cause)
    (hdirectory : d.isDirectory place names = false)
    (hact : cause = .notFound → (act d).2 = d) :
    ∃ cause', d.ensureDirectory place names act = (.error cause', d) := by
  by_cases hcause : cause = .notFound
  · subst hcause
    have hsame : (act d).2 = d := hact rfl
    rcases hdone : act d with ⟨cause | ⟨⟨⟩⟩, d'⟩
    · rw [hdone] at hsame
      obtain rfl : d' = d := hsame
      exact ⟨cause, ensureDirectory_of_failed hmake hdone⟩
    · rw [hdone] at hsame
      obtain rfl : d' = d := hsame
      have hensure := (ensureDirectory_of_done hmake hdone).2 _ hmake
      rw [hdirectory] at hensure
      exact ⟨_, hensure⟩
  · rw [ensureDirectory_of_error hmake hcause, hdirectory]
    exact ⟨_, rfl⟩

/-- Whether making a directory and those above it ends on a disk: with the directory, or with a
failure that is final. -/
def EndsOn (place : Place) (names : List Bytes) (act : Disk → Except DiskError Unit × Disk)
    (d e : Disk) : Prop :=
  (d.ensureDirectory place names act = (.ok (), e) ∧ e.isDirectory place names = true) ∨
    ∃ cause cause', d.ensureDirectory place names act = (.error cause, e) ∧
      e.isDirectory place names = false ∧ e.ensureDirectory place names act = (.error cause', e)

/-- A directory that cannot be made is there already, or the failure is final. -/
theorem endsOn_of_error
    (hensure : d.ensureDirectory place names act =
      if e.isDirectory place names then (.ok (), e) else (.error cause, e))
    (hmake : e.makeDirectory place names = .error cause)
    (hact : cause = .notFound → (act e).2 = e) : EndsOn place names act d e := by
  cases hdirectory : e.isDirectory place names with
  | true =>
    rw [hdirectory] at hensure
    exact .inl ⟨hensure, hdirectory⟩
  | false =>
    rw [hdirectory] at hensure
    obtain ⟨cause', hstuck⟩ := ensureDirectory_of_stuck hmake hdirectory hact
    exact .inr ⟨cause, cause', hensure, hdirectory, hstuck⟩

/-- Whether an action makes the directory that names lead to from a place, and those on the way to
it, once and for all. -/
structure Makes (place : Place) (names : List Bytes)
    (act : Disk → Except DiskError Unit × Disk) : Prop where
  adds : ∀ d : Disk, d.Adds (act d).2
  settled : ∀ d e : Disk, (act d).1 = .ok () → (act d).2.Extends e → act e = (.ok (), e)
  failed : ∀ d cause, (act d).1 = .error cause → (act d).2.isDirectory place names = false
  stuck : ∀ d cause, (act d).1 = .error cause →
    ∃ cause', act (act d).2 = (.error cause', (act d).2)
  new : ∀ d : Disk, d.IsTree → Path.parent ∉ names → ∀ left goal,
    (act d).2.Leads linkLimit place names left goal → (act d).2.get? goal = some .directory →
    (act d).2 = d ∨ d.get? goal = none

/-- Where those above cannot be made, neither can the directory, once and for all. -/
theorem Makes.endsOn_of_failed (h : Makes place above act)
    (hnames : names.filter (· ≠ Path.self) = above ++ [last])
    (hmake : d.makeDirectory place names = .error .notFound) (hact : act d = (.error cause, e)) :
    EndsOn place names act d e := by
  have habove : e.isDirectory place above = false := by
    have hfailed := h.failed d cause (by rw [hact])
    rwa [hact] at hfailed
  have hdirectory : e.isDirectory place names = false := by
    rw [Bool.eq_false_iff] at habove ⊢
    exact fun hthere => habove (isDirectory_above hnames hthere)
  have hagain : (act e).2 = e := by
    obtain ⟨cause', hstuck⟩ := h.stuck d cause (by rw [hact])
    rw [hact] at hstuck
    rw [hstuck]
  cases hmake' : e.makeDirectory place names with
  | ok made =>
    rw [isDirectory_above_of_make hnames hmake'] at habove
    cases habove
  | error cause' =>
    obtain ⟨cause'', hstuck⟩ := ensureDirectory_of_stuck hmake' hdirectory fun _ => hagain
    exact .inr ⟨cause, cause'', ensureDirectory_of_failed hmake hact, hdirectory, hstuck⟩

/-- A directory is made, or is there, or cannot be made once and for all. -/
theorem Makes.exists_endsOn (h : Makes place above act)
    (hnames : names.filter (· ≠ Path.self) = above ++ [last]) (d : Disk) :
    ∃ e, d.Adds e ∧ EndsOn place names act d e := by
  have hadds := h.adds d
  cases hmake : d.makeDirectory place names with
  | ok e =>
    obtain ⟨hmade, hdirectory⟩ := makeDirectory_spec hmake
    exact ⟨e, hmade, .inl ⟨ensureDirectory_of_ok hmake, hdirectory⟩⟩
  | error cause =>
    by_cases hcause : cause = .notFound
    · subst hcause
      rcases hdone : act d with ⟨cause | ⟨⟨⟩⟩, e⟩
      · rw [hdone] at hadds
        exact ⟨e, hadds, h.endsOn_of_failed hnames hmake hdone⟩
      · have hagain : (act e).2 = e := by
          have hsettled := h.settled d e (by rw [hdone]) (by rw [hdone]; exact .refl e)
          rw [hsettled]
        obtain ⟨hok, herror⟩ := ensureDirectory_of_done hmake hdone
        rw [hdone] at hadds
        cases hmake' : e.makeDirectory place names with
        | ok made =>
          obtain ⟨hmade, hdirectory⟩ := makeDirectory_spec hmake'
          exact ⟨made, hadds.trans hmade, .inl ⟨hok made hmake', hdirectory⟩⟩
        | error cause =>
          exact ⟨e, hadds, endsOn_of_error (herror cause hmake') hmake' fun _ => hagain⟩
    · exact ⟨d, .refl d, endsOn_of_error (ensureDirectory_of_error hmake hcause) hmake
        fun hmissing => absurd hmissing hcause⟩

section New

variable {left : Nat} {goal : Place} (h : Makes place above act)
  (hnames : names.filter (· ≠ Path.self) = above ++ [last]) (htree : d.IsTree)
  (hparent : Path.parent ∉ names)

include h hnames htree hparent

/-- If those above have been made and that was enough, names lead to where nothing stood, unless
nothing has changed. -/
theorem Makes.eq_or_get?_eq_none_of_done (hdone : act d = (.ok (), e))
    (hleads : e.Leads linkLimit place names left goal) (hgoal : e.get? goal = some .directory) :
    e = d ∨ d.get? goal = none := by
  have hadds := h.adds d
  have hnew := h.new d htree
  rw [hdone] at hadds hnew
  have hmem : ∀ other ∈ above ++ [last], other ∈ names ∧ other ≠ Path.self := by
    intro other hother
    rw [← hnames, List.mem_filter, decide_eq_true_eq] at hother
    exact hother
  have habove : Path.parent ∉ above := fun hmem' => hparent (hmem _ (List.mem_append_left _ hmem')).1
  obtain ⟨hlast, hself⟩ := hmem last (List.mem_append_right _ (List.mem_singleton_self last))
  have hfiltered := hleads.filter_self
  rw [hnames] at hfiltered
  obtain ⟨more, middle, hfirst, hrest⟩ := hfiltered.split
  refine (hnew habove more middle hfirst (hrest.directory hgoal)).imp_right fun hfree => ?_
  exact hadds.get?_eq_none_of_leads htree hself (fun hsame => hparent (hsame ▸ hlast)) hfree hrest

/-- After a directory and those above it have been made, names lead to where nothing stood, unless
nothing has changed. -/
theorem Makes.eq_or_get?_eq_none (hensure : (d.ensureDirectory place names act).2 = made)
    (hleads : made.Leads linkLimit place names left goal)
    (hgoal : made.get? goal = some .directory) : made = d ∨ d.get? goal = none := by
  cases hmake : d.makeDirectory place names with
  | ok e =>
    rw [ensureDirectory_of_ok hmake] at hensure
    exact .inr (get?_of_make hmake (hensure ▸ hleads))
  | error cause =>
    by_cases hcause : cause = .notFound
    · subst hcause
      have hadds := h.adds d
      rcases hdone : act d with ⟨cause | ⟨⟨⟩⟩, e⟩
      · -- the names lead nowhere, since those above could not be made
        rw [ensureDirectory_of_failed hmake hdone] at hensure
        obtain rfl : e = made := hensure
        have hfailed := h.failed d cause (by rw [hdone])
        rw [hdone, isDirectory_above hnames (isDirectory_iff.mpr ⟨left, goal, hleads, hgoal⟩)]
          at hfailed
        cases hfailed
      · rw [hdone] at hadds
        obtain ⟨hok, herror⟩ := ensureDirectory_of_done hmake hdone
        cases hmake' : e.makeDirectory place names with
        | ok last =>
          rw [hok last hmake'] at hensure
          have hnew := get?_of_make hmake' (hensure ▸ hleads)
          refine .inr (Option.eq_none_iff_forall_ne_some.mpr fun item hitem => ?_)
          rw [hadds.kept goal item hitem] at hnew
          cases hnew
        | error cause =>
          obtain rfl : e = made := by
            rw [← hensure, herror cause hmake']
            split <;> rfl
          exact h.eq_or_get?_eq_none_of_done hnames htree hparent hdone hleads hgoal
    · rw [ensureDirectory_of_error hmake hcause] at hensure
      refine .inl ?_
      rw [← hensure]
      split <;> rfl

end New

theorem Makes.ensureDirectory (h : Makes place above act)
    (hnames : names.filter (· ≠ Path.self) = above ++ [last]) :
    Makes place names fun d => d.ensureDirectory place names act where
  adds d := by
    obtain ⟨e, hadds, ⟨hensure, _⟩ | ⟨_, _, hensure, _⟩⟩ := h.exists_endsOn hnames d
    all_goals
      rw [hensure]
      exact hadds
  settled d e hok hextends := by
    obtain ⟨made, _, ⟨hensure, hdirectory⟩ | ⟨_, _, hensure, _⟩⟩ := h.exists_endsOn hnames d
    · rw [hensure] at hextends
      exact ensureDirectory_of_isDirectory (isDirectory_extend hdirectory hextends)
    · rw [hensure] at hok
      cases hok
  failed d cause herror := by
    obtain ⟨made, _, ⟨hensure, _⟩ | ⟨_, _, hensure, hdirectory, _⟩⟩ :=
      h.exists_endsOn hnames d
    · rw [hensure] at herror
      cases herror
    · rw [hensure]
      exact hdirectory
  stuck d cause herror := by
    obtain ⟨made, _, ⟨hensure, _⟩ | ⟨_, cause', hensure, _, hstuck⟩⟩ :=
      h.exists_endsOn hnames d
    · rw [hensure] at herror
      cases herror
    · rw [hensure]
      exact ⟨cause', hstuck⟩
  new d htree hparent left goal hleads hgoal :=
    h.eq_or_get?_eq_none hnames htree hparent rfl hleads hgoal

/-! ### All directories on the way -/

theorem makes_ensureDirectories (hself : Path.self ∉ above) :
    Makes place above.reverse (ensureDirectories place above) := by
  induction above with
  | nil =>
    refine ⟨Adds.refl, fun _ _ _ _ => rfl, ?_, ?_, fun _ _ _ _ _ _ _ => .inl rfl⟩
    · intro d cause herror
      cases herror
    · intro d cause herror
      cases herror
  | cons name above ih =>
    rw [List.mem_cons, not_or] at hself
    have hnames : (name :: above).reverse.filter (· ≠ Path.self) = above.reverse ++ [name] := by
      rw [List.reverse_cons, List.filter_eq_self]
      intro other hother
      have hmem : other ∈ name :: above := by
        simpa [or_comm] using hother
      rw [decide_eq_true_eq]
      rintro rfl
      rcases List.mem_cons.mp hmem with hname | habove
      · exact hself.1 hname
      · exact hself.2 habove
    exact (ih hself.2).ensureDirectory hnames

/-- Making the directory at a path does nothing, or makes the one that names lead to from a place. -/
theorem makeDirectories_cases (path : Bytes) :
    (∃ result, ∀ d : Disk, d.makeDirectories path = (result, d)) ∨
      ∃ p, ∃ act : Place → Disk → Except DiskError Unit × Disk,
        Path.parse path = .ok p ∧ (∀ place, Makes place p.names (act place)) ∧
        ∀ d : Disk, d.makeDirectories path = act (d.startOf p) d := by
  unfold makeDirectories
  cases hparse : Path.parse path with
  | error cause => exact .inl ⟨.error cause, fun d => rfl⟩
  | ok p =>
    dsimp only
    cases hnames : (p.names.filter (· ≠ Path.self)).reverse with
    | nil => exact .inl ⟨.ok (), fun d => rfl⟩
    | cons last above =>
      refine .inr ⟨p, fun place d => d.ensureDirectory place p.names
        (ensureDirectories place above), rfl, fun place => ?_, fun d => rfl⟩
      have hfilter : p.names.filter (· ≠ Path.self) = above.reverse ++ [last] := by
        rw [← List.reverse_reverse (p.names.filter _), hnames, List.reverse_cons]
      have hself : Path.self ∉ above := by
        intro hmem
        have hkept : Path.self ∈ p.names.filter (· ≠ Path.self) := by
          rw [hfilter]
          simp [hmem]
        simp at hkept
      exact (makes_ensureDirectories hself).ensureDirectory hfilter

/-- Making directories adds directories and nothing else. -/
theorem makeDirectories_adds (d : Disk) (path : Bytes) : d.Adds (d.makeDirectories path).2 := by
  rcases makeDirectories_cases path with ⟨result, hnothing⟩ | ⟨p, act, _, hmakes, hact⟩
  · rw [hnothing]
    exact .refl d
  · rw [hact]
    exact (hmakes _).adds d

/-- Where directories have been made, making them again changes nothing. -/
theorem makeDirectories_settled {path : Bytes} (h : d.makeDirectories path = (.ok (), made))
    (he : made.Extends e) : e.makeDirectories path = (.ok (), e) := by
  have hstart : made.start = d.start := by
    have hadds := d.makeDirectories_adds path
    rw [h] at hadds
    exact hadds.within.1
  rcases makeDirectories_cases path with ⟨result, hnothing⟩ | ⟨p, act, _, hmakes, hact⟩
  · rw [hnothing] at h ⊢
    rw [(Prod.mk.inj h).1]
  · rw [hact] at h ⊢
    rw [startOf_congr (he.start.trans hstart)]
    exact (hmakes _).settled d e (by rw [h]) (by rw [h]; exact he)

/-- Where directories could not be made, making them again fails and changes nothing. -/
theorem makeDirectories_stuck {path : Bytes} (h : d.makeDirectories path = (.error cause, made)) :
    ∃ cause', made.makeDirectories path = (.error cause', made) := by
  have hstart : made.start = d.start := by
    have hadds := d.makeDirectories_adds path
    rw [h] at hadds
    exact hadds.within.1
  rcases makeDirectories_cases path with ⟨result, hnothing⟩ | ⟨p, act, _, hmakes, hact⟩
  · rw [hnothing] at h ⊢
    exact ⟨cause, by rw [(Prod.mk.inj h).1]⟩
  · rw [hact] at h ⊢
    rw [startOf_congr hstart]
    obtain ⟨cause', hstuck⟩ := (hmakes (d.startOf p)).stuck d cause (by rw [h])
    rw [h] at hstuck
    exact ⟨cause', hstuck⟩

/-- After directories have been made, a path without steps to the directory above leads to where
nothing stood, unless nothing has changed. -/
theorem eq_or_get?_eq_none_of_makeDirectories {path : Bytes} (htree : d.IsTree)
    (hparent : Path.parent ∉ path.splitAtSlashes) (hmake : (d.makeDirectories path).2 = made)
    {left : Nat} {goal : Place}
    (hleads : made.Leads linkLimit (if path.startsWithSlash then [] else d.start)
      path.splitAtSlashes left goal)
    (hgoal : made.get? goal = some .directory) : made = d ∨ d.get? goal = none := by
  rcases makeDirectories_cases path with ⟨result, hnothing⟩ | ⟨p, act, hparse, hmakes, hact⟩
  · rw [hnothing] at hmake
    exact .inl hmake.symm
  · obtain rfl := Path.parse_eq_ok hparse
    rw [hact] at hmake
    subst hmake
    exact (hmakes _).new d htree hparent left goal hleads hgoal

/-! ### What making directories keeps -/

section Preserves

variable {P : Disk → Prop}

theorem ensureDirectory_preserves
    (hmake : ∀ d e, d.makeDirectory place names = .ok e → P d → P e)
    (hact : ∀ d, P d → P (act d).2) (h : P d) :
    P (d.ensureDirectory place names act).2 := by
  cases hfirst : d.makeDirectory place names with
  | ok e =>
    rw [ensureDirectory_of_ok hfirst]
    exact hmake d e hfirst h
  | error cause =>
    by_cases hcause : cause = .notFound
    · subst hcause
      have habove := hact d h
      rcases hdone : act d with ⟨cause | ⟨⟨⟩⟩, e⟩
      · rw [hdone] at habove
        rw [ensureDirectory_of_failed hfirst hdone]
        exact habove
      · rw [hdone] at habove
        obtain ⟨hok, herror⟩ := ensureDirectory_of_done hfirst hdone
        cases hagain : e.makeDirectory place names with
        | ok made =>
          rw [hok made hagain]
          exact hmake e made hagain habove
        | error cause =>
          rw [herror cause hagain]
          split <;> exact habove
    · rw [ensureDirectory_of_error hfirst hcause]
      split <;> exact h

theorem ensureDirectories_preserves
    (hmake : ∀ d e some, some ⊆ above → d.makeDirectory place some = .ok e → P d → P e)
    (h : P d) : P (ensureDirectories place above d).2 := by
  induction above generalizing d with
  | nil => exact h
  | cons name above ih =>
    exact ensureDirectory_preserves
      (fun d e => hmake d e _ (List.reverse_subset.mpr (List.Subset.refl _)))
      (fun d => ih fun d e some hsome => hmake d e some (List.subset_cons_of_subset name hsome)) h

/-- Making directories keeps what is kept when one is put, under a name in the path, where nothing
stands. -/
theorem makeDirectories_preserves {path : Bytes}
    (hput : ∀ (d : Disk) place name, name ∈ path.splitAtSlashes →
      d.get? (place ++ [name]) = none → P d → P (d.put (place ++ [name]) .directory))
    (h : P d) : P (d.makeDirectories path).2 := by
  have hmake : ∀ place some, some ⊆ path.splitAtSlashes → ∀ d e : Disk,
      d.makeDirectory place some = .ok e → P d → P e := by
    intro place some hsome d e hmake hd
    obtain ⟨goal, hfollow, rfl⟩ := makeDirectory_eq_ok hmake
    obtain ⟨_, name, _, middle, rfl, _, _, _, rfl, hfree⟩ := leads_of_follow_free hfollow
    exact hput d middle name (hsome (by simp)) hfree hd
  unfold makeDirectories
  cases hparse : Path.parse path with
  | error cause => exact h
  | ok p =>
    have hnames : p.names = path.splitAtSlashes := by
      rw [Path.parse_eq_ok hparse]
    dsimp only
    split
    · exact h
    · rename_i last above hfilter
      have habove : above ⊆ path.splitAtSlashes := by
        intro name hname
        have hmem : name ∈ (p.names.filter (· ≠ Path.self)).reverse := by
          rw [hfilter]
          exact List.mem_cons_of_mem last hname
        rw [← hnames]
        exact (List.mem_filter.mp (List.mem_reverse.mp hmem)).1
      exact ensureDirectory_preserves (hmake _ _ (by rw [hnames]; exact List.Subset.refl _))
        (fun d => ensureDirectories_preserves
          fun d e some hsome => hmake _ some (List.Subset.trans hsome habove) d e) h

end Preserves

end Disk

end ContentBlocker
