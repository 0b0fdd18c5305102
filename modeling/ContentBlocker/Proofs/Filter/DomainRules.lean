import ContentBlocker.Proofs.Filter.HostNames

/-!
# Rules for one domain

A line that names a domain, as a pattern (`||domain^`) or as an entry of a hosts file, blocks URLs
by their hosts (`domainRule_reaches`): the rule is found in a URL exactly if some initial part of
its host is the domain or a name under it. That part need not be the whole host. The separator
behind the domain may be missing, and nothing else ends it, so a rule for `ads.example.com` is found
in `https://ads.example.company/` too (`domainRule_reaches_longer_host`).

Such a pattern stands for a text up to where a domain may start, and the domain. In a URL the first
of the two ends in the host (`HostUrl.endsBeforeDomain_iff`), and so does the second, since neither
has a slash behind the scheme (`HostUrl.exists_host_eq`).
-/

namespace ContentBlocker.Filter

open Regex.Syntax (Flags Part)

/-! ### The rule -/

/-- The pattern for a domain. -/
def domainPattern (domain : List Char) : List Char :=
  '|' :: '|' :: domain ++ ['^']

/-- The rule for a domain. -/
def domainRule (domain : List Char) : Rule :=
  blockingRule (domainPattern domain)

/-- The lines that name a domain to block: a pattern, and the entries of hosts files. -/
def domainLines (domain : List Char) : List (List Char) :=
  domainPattern domain :: nowhere.map fun address => address ++ ' ' :: domain

section Pattern

open Pattern

variable (domain : List Char)

theorem isTiedToDomain : ['|', '|'] <+: domainPattern domain := ⟨domain ++ ['^'], rfl⟩

theorem startOf_domainPattern : startOf (domainPattern domain) = .domain :=
  if_pos (isTiedToDomain domain)

theorem afterStart_domainPattern : afterStart (domainPattern domain) = domain ++ ['^'] :=
  if_pos (isTiedToDomain domain)

theorem not_isTiedToEnd_domainPattern : ¬IsTiedToEnd (domainPattern domain) := by
  unfold IsTiedToEnd
  rw [afterStart_domainPattern]
  simp

theorem between_domainPattern : between (domainPattern domain) = domain ++ ['^'] := by
  unfold between
  rw [if_neg (not_isTiedToEnd_domainPattern domain), afterStart_domainPattern]

theorem urlFilter_domainPattern_ne : (parse (domainPattern domain)).urlFilter ≠ Trigger.anyUrl := by
  have hstart : (parse (domainPattern domain)).start = .domain := by
    rw [parse_eq]
    exact startOf_domainPattern domain
  have hblank : (parse (domainPattern domain)).isBlank = false := by simp [isBlank, hstart]
  intro h
  -- one starts with an anchor, the other with a dot
  have hhead := congrArg (fun s : String => s.toList.head?) h
  rw [urlFilter, hblank, hstart, Start.filter, domainFilter_eq] at hhead
  simp [Trigger.anyUrl] at hhead

end Pattern

section Lines

variable {domain : List Char} (hdomain : IsHostName domain)

include hdomain

theorem isPlain_domainPattern : IsPlain (domainPattern domain) where
  ne_nil := List.cons_ne_nil _ _
  chars c hc := by
    simp only [domainPattern, List.cons_append, List.mem_cons, List.mem_append,
      List.not_mem_nil, or_false] at hc
    rcases hc with rfl | rfl | hc | rfl
    · decide
    · decide
    · exact isPlainChar_of_isHostChar (hdomain.isHostChar c hc)
    · decide
  not_hosts h := by
    have hdigit : ∀ address ∈ nowhere, address.head? ≠ some '|' := by decide
    exact hdigit _ h rfl

theorem convert?_domainPattern :
    convert? (domainPattern domain) = some (.blocking, domainRule domain) :=
  convert?_of_isPlain (isPlain_domainPattern hdomain) (urlFilter_domainPattern_ne domain)

/-! An entry of a hosts file is an address that leads nowhere, a blank and the domain. -/

section Entries

variable {address : List Char} (haddress : address ∈ nowhere)

include haddress

omit hdomain in
theorem nowhere_spec : address ≠ [] ∧ ∀ c ∈ address, isHostChar c = true := by
  have hall : ∀ a ∈ nowhere, a ≠ [] ∧ a.all isHostChar = true := by decide
  exact (hall address haddress).imp_right List.all_eq_true.mp

/-- An entry holds characters of host names and one blank. -/
theorem mem_hostsEntry {c : Char} (hc : c ∈ address ++ ' ' :: domain) :
    c = ' ' ∨ isHostChar c = true := by
  rcases List.mem_append.mp hc with hc | hc
  · exact .inr ((nowhere_spec haddress).2 c hc)
  · rcases List.mem_cons.mp hc with hc | hc
    · exact .inl hc
    · exact .inr (hdomain.isHostChar c hc)

theorem not_mem_hostsEntry {c : Char} (hc : c ∈ ['*', '^', '|', '/', ':', '#', '$']) :
    c ∉ address ++ ' ' :: domain := by
  intro hmem
  rcases mem_hostsEntry hdomain haddress hmem with rfl | htrue
  · exact absurd hc (by decide)
  · rw [isHostChar_eq_false hc] at htrue
    exact Bool.false_ne_true htrue

theorem isAscii_hostsEntry : (address ++ ' ' :: domain).all Text.isAscii = true := by
  rw [List.all_eq_true]
  intro c hc
  rcases mem_hostsEntry hdomain haddress hc with rfl | hc
  · decide
  · exact isAscii_of_isHostChar hc

theorem trim_hostsEntry : Text.trim (address ++ ' ' :: domain) = address ++ ' ' :: domain := by
  obtain ⟨hne, hchars⟩ := nowhere_spec haddress
  refine Text.trim_eq_self_of_ends (fun c hc => ?_) fun c hc => ?_
  · rw [List.head?_append_of_ne_nil _ hne] at hc
    exact isSpace_eq_false_of_isHostChar hchars c (List.mem_of_head? hc)
  · rw [List.getLast?_append_cons, List.getLast?_cons_of_ne_nil hdomain.ne_nil] at hc
    exact isSpace_eq_false_of_isHostChar hdomain.isHostChar c (List.mem_of_getLast? hc)

theorem words_hostsEntry : Text.words (address ++ ' ' :: domain) = [address, domain] := by
  obtain ⟨hne, hchars⟩ := nowhere_spec haddress
  exact Text.words_eq_pair (isSpace_eq_false_of_isHostChar hchars) hne
    (isSpace_eq_false_of_isHostChar hdomain.isHostChar) hdomain.ne_nil

theorem isHostsEntry_hostsEntry : isHostsEntry (address ++ ' ' :: domain) = true := by
  unfold isHostsEntry
  rw [words_hostsEntry hdomain haddress]
  exact List.contains_iff_mem.mpr haddress

theorem hostsDomain?_hostsEntry : hostsDomain? (address ++ ' ' :: domain) = some domain := by
  have hlocal : domain ≠ "localhost".toList := by
    rintro rfl
    exact absurd hdomain.dot_mem (by decide)
  have hdot : domain.contains '.' = true := List.contains_iff_mem.mpr hdomain.dot_mem
  unfold hostsDomain?
  rw [words_hostsEntry hdomain haddress]
  dsimp only
  rw [if_neg]
  rw [hdot, Bool.not_true, Bool.or_false, decide_eq_true_eq]
  exact hlocal

/-- An entry of a hosts file blocks the domain that it names. -/
theorem convert?_hostsEntry :
    convert? (address ++ ' ' :: domain) = some (.blocking, domainRule domain) := by
  have hne : (address ++ ' ' :: domain).isEmpty = false := by
    rw [List.isEmpty_eq_false_iff]
    exact List.append_ne_nil_of_right_ne_nil _ (List.cons_ne_nil _ _)
  have hmarks : unsupportedMarks.any (Text.holds · (address ++ ' ' :: domain)) = false :=
    any_holds_eq_false (not_mem_hostsEntry hdomain haddress (by decide))
      (not_mem_hostsEntry hdomain haddress (by decide))
  have hhiding : Text.cut? "##".toList (address ++ ' ' :: domain) = none :=
    Text.cut?_eq_none (c := '#') (by decide) (not_mem_hostsEntry hdomain haddress (by decide))
  have hrule : networkRule? ("||".toList ++ domain ++ ['^']) Action.block =
      some (domainRule domain) :=
    networkRule?_of_isPlain (isPlain_domainPattern hdomain) (urlFilter_domainPattern_ne domain) _
  unfold convert?
  dsimp only
  rw [trim_hostsEntry hdomain haddress, hne, isAscii_hostsEntry hdomain haddress, hmarks, hhiding]
  dsimp only
  rw [isHostsEntry_hostsEntry hdomain haddress, hostsDomain?_hostsEntry hdomain haddress]
  dsimp only [Option.bind_eq_bind, Option.bind_some]
  rw [hrule]
  rfl

end Entries

/-- The lines that name a domain all become the rule for it. -/
theorem convert?_of_mem_domainLines {line : List Char} (hline : line ∈ domainLines domain) :
    convert? line = some (.blocking, domainRule domain) := by
  rcases List.mem_cons.mp hline with rfl | hline
  · exact convert?_domainPattern hdomain
  · obtain ⟨address, haddress, rfl⟩ := List.mem_map.mp hline
    exact convert?_hostsEntry hdomain haddress

end Lines

/-! ### What the pattern stands for -/

theorem same_iff_foldCode_eq {a b : Char} :
    Pattern.Same false a b ↔ Unicode.foldCode a.toNat = Unicode.foldCode b.toNat :=
  ⟨Pattern.Same.foldCode_eq, fun h => .inr ⟨rfl, h⟩⟩

/-- Characters of a pattern without a meaning of their own stand for the same ones but for case. -/
theorem standsFor_append_iff {s : List Char} (hs : ∀ c ∈ s, isHostChar c = true)
    (rest word : List Char) :
    Pattern.StandsFor false (s ++ rest) word ↔
      ∃ name tail, word = name ++ tail ∧ folded name = folded s ∧
        Pattern.StandsFor false rest tail := by
  induction s generalizing word with
  | nil =>
    constructor
    · exact fun h => ⟨[], word, rfl, rfl, h⟩
    · rintro ⟨name, tail, rfl, hname, h⟩
      obtain rfl : name = [] := List.map_eq_nil_iff.mp hname
      exact h
  | cons a s ih =>
    have ih := ih fun c hc => hs c (List.mem_cons_of_mem _ hc)
    have hcaret : a ≠ '^' := by
      rintro rfl
      exact absurd (hs '^' (List.mem_cons_self ..)) (by decide)
    have hstar : a ≠ '*' := by
      rintro rfl
      exact absurd (hs '*' (List.mem_cons_self ..)) (by decide)
    rw [List.cons_append, Pattern.StandsFor]
    · constructor
      · rintro ⟨c, tail, rfl, hc, h⟩
        obtain ⟨name, tail, rfl, hname, h⟩ := (ih tail).mp h
        refine ⟨c :: name, tail, rfl, ?_, h⟩
        show Unicode.foldCode c.toNat :: folded name = Unicode.foldCode a.toNat :: folded s
        rw [same_iff_foldCode_eq.mp hc, hname]
      · rintro ⟨name, tail, rfl, hname, h⟩
        obtain ⟨c, name, rfl, hc, hname⟩ := List.map_eq_cons_iff.mp hname
        exact ⟨c, name ++ tail, rfl, same_iff_foldCode_eq.mpr hc.symm,
          (ih _).mpr ⟨name, tail, rfl, hname, h⟩⟩
    · exact fun h => absurd h hcaret
    · exact hcaret
    · exact hstar

/-- The pattern for a domain is in the URLs that hold its name where a domain may start. The
separator at its end asks for nothing, since it may be missing. -/
theorem isIn_domainPattern_iff {domain : List Char} (hdomain : IsHostName domain)
    (url : List Char) :
    Pattern.IsIn false (domainPattern domain) url ↔
      ∃ before name behind, url = before ++ name ++ behind ∧ Pattern.EndsBeforeDomain before ∧
        folded name = folded domain := by
  unfold Pattern.IsIn Pattern.MayStartBehind
  simp only [if_pos (isTiedToDomain domain), between_domainPattern,
    standsFor_append_iff hdomain.isHostChar]
  constructor
  · rintro ⟨before, _, behind, rfl, hbefore, ⟨name, tail, rfl, hname, _⟩, _⟩
    exact ⟨before, name, tail ++ behind, by simp, hbefore, hname⟩
  · rintro ⟨before, name, behind, rfl, hbefore, hname⟩
    exact ⟨before, name, behind, rfl, hbefore, ⟨name, [], by simp, hname, .inl rfl⟩,
      fun h => absurd h (not_isTiedToEnd_domainPattern domain)⟩

/-! ### URLs of hosts -/

/-- A text is cut at the first occurrence of a character in one way only. -/
theorem append_cons_inj {c : Char} {s s' t t' : List Char} (hs : c ∉ s) (hs' : c ∉ s')
    (h : s ++ c :: t = s' ++ c :: t') : s = s' ∧ t = t' := by
  induction s generalizing s' with
  | nil =>
    cases s' with
    | nil => exact ⟨rfl, (List.cons.inj h).2⟩
    | cons d s' => exact absurd (by simp [(List.cons.inj h).1]) hs'
  | cons d s ih =>
    cases s' with
    | nil => exact absurd (by simp [(List.cons.inj h).1]) hs
    | cons d' s' =>
      obtain ⟨rfl, htail⟩ := List.cons.inj h
      obtain ⟨rfl, rfl⟩ := ih (fun hmem => hs (List.mem_cons_of_mem _ hmem))
        (fun hmem => hs' (List.mem_cons_of_mem _ hmem)) htail
      exact ⟨rfl, rfl⟩

/-- A URL that names a host. -/
structure HostUrl where
  scheme : List Char
  host : List Char
  /-- What stands behind the host. -/
  path : List Char
  scheme_ne_nil : scheme ≠ []
  all_isAlpha_scheme : scheme.all Char.isAlpha = true
  isHostName : IsHostName host
  path_eq : path = [] ∨ ∃ rest, path = '/' :: rest

namespace HostUrl

/-- The characters of a URL. -/
def chars (u : HostUrl) : List Char :=
  u.scheme ++ ':' :: '/' :: '/' :: u.host ++ u.path

/-- The text of a URL. -/
def text (u : HostUrl) : String :=
  String.ofList u.chars

variable (u : HostUrl)

theorem colon_not_mem_scheme : ':' ∉ u.scheme := by
  intro hmem
  exact absurd (List.all_eq_true.mp u.all_isAlpha_scheme ':' hmem) (by decide)

/-- A domain may start behind the slashes of a URL, and behind a dot of its host. -/
theorem endsBeforeDomain_iff {before after : List Char} :
    (u.chars = before ++ after ∧ Pattern.EndsBeforeDomain before) ↔
      ∃ labels, before = u.scheme ++ ':' :: '/' :: '/' :: labels ∧
        u.host ++ u.path = labels ++ after ∧
        (labels = [] ∨ ∃ name, labels = name ++ ['.'] ∧ name ≠ [] ∧ ':' ∉ name ∧ '/' ∉ name) := by
  constructor
  · rintro ⟨hchars, scheme, slashes, labels, rfl, _, hcolon, htwo, hslashes, hlabels⟩
    have hcut : u.scheme ++ ':' :: ('/' :: '/' :: (u.host ++ u.path)) =
        scheme ++ ':' :: (slashes ++ (labels ++ after)) := by
      simpa [chars] using hchars
    obtain ⟨rfl, hrest⟩ := append_cons_inj u.colon_not_mem_scheme hcolon hcut
    match slashes, htwo with
    | a :: b :: slashes, _ =>
      obtain rfl : a = '/' := hslashes a (by simp)
      obtain rfl : b = '/' := hslashes b (by simp)
      have hhost : u.host ++ u.path = slashes ++ (labels ++ after) := by simpa using hrest
      -- a third slash would be the first character of the host
      obtain rfl : slashes = [] := by
        cases slashes with
        | nil => rfl
        | cons c slashes =>
          obtain rfl : c = '/' := hslashes c (by simp)
          obtain ⟨d, host, heq⟩ := List.exists_cons_of_ne_nil u.isHostName.ne_nil
          rw [heq] at hhost
          obtain rfl := (List.cons.inj hhost).1
          exact absurd (heq ▸ List.mem_cons_self ..) (u.isHostName.not_mem (c := '/') (by simp))
      exact ⟨labels, by simp, by simpa using hhost, hlabels⟩
  · rintro ⟨labels, rfl, hhost, hlabels⟩
    refine ⟨by simp [chars, hhost], u.scheme, ['/', '/'], labels, by simp, u.scheme_ne_nil,
      u.colon_not_mem_scheme, by simp, by simp, hlabels⟩

/-- What holds no slash ends in the host if it starts there. -/
theorem exists_host_eq {part after : List Char} (h : u.host ++ u.path = part ++ after)
    (hslash : '/' ∉ part) : ∃ more, u.host = part ++ more := by
  rcases List.append_eq_append_iff.mp h with ⟨bs, hpart, hpath⟩ | ⟨more, hhost, _⟩
  · cases bs with
    | nil => exact ⟨[], by simp [hpart]⟩
    | cons c bs =>
      -- a part that ends behind the host holds the slash there
      rcases u.path_eq with hnil | ⟨rest, hrest⟩
      · simp [hnil] at hpath
      · obtain ⟨rfl, _⟩ := List.cons.inj (hrest.symm.trans hpath)
        exact absurd (by simp [hpart]) hslash
  · exact ⟨more, hhost⟩

end HostUrl

/-- A part of a host is under a domain if it ends in the domain, with labels in front or none. -/
theorem standsUnder_iff {domain host part more : List Char} (hdomain : IsHostName domain)
    (hhost : IsHostName host) (hpart : host = part ++ more) :
    StandsUnder domain part ↔ ∃ labels name, part = labels ++ name ∧ folded name = folded domain ∧
      (labels = [] ∨ ∃ front, labels = front ++ ['.'] ∧ front ≠ []) := by
  have hchars : ∀ c ∈ part, isHostChar c = true := fun c hc => by
    refine hhost.isHostChar c ?_
    rw [hpart]
    exact List.mem_append_left _ hc
  have hname : ∀ name : List Char, name ⊆ part →
      (folded name = folded domain ↔ Text.lower name = Text.lower domain) := fun name hsub =>
    folded_eq_iff (fun c hc => hchars c (hsub hc)) hdomain.isHostChar
  constructor
  · rintro (heq | ⟨front, hfront⟩)
    · exact ⟨[], part, rfl, (hname part (List.Subset.refl _)).mpr heq, .inl rfl⟩
    · obtain ⟨front, behind, rfl, rfl, hbehind⟩ := List.map_eq_append_iff.mp hfront.symm
      obtain ⟨c, name, rfl, hc, heq⟩ := List.map_eq_cons_iff.mp hbehind
      have hdot : c = '.' := by
        have himp := forall_isHostChar (p := fun c => c.toLower != '.' || c == '.')
          (by decide +kernel) (hchars c (by simp))
        simpa [hc] using himp
      subst hdot
      refine ⟨front ++ ['.'], name, by simp, (hname name fun c hc => by simp [hc]).mpr heq,
        .inr ⟨front, rfl, ?_⟩⟩
      -- the host does not start with a dot
      rintro rfl
      exact hhost.head?_ne_dot (by simp [hpart])
  · rintro ⟨labels, name, rfl, hfolded, rfl | ⟨front, rfl, _⟩⟩
    · exact .inl ((hname name fun c hc => by simpa using hc).mp hfolded)
    · have heq := (hname name fun c hc => by simp [hc]).mp hfolded
      exact .inr ⟨Text.lower front, by simpa [Text.lower] using heq.symm⟩

/-- The pattern for a domain is in the URLs whose host has the domain, or a name under it, as its
initial part. -/
theorem isIn_domainPattern_chars_iff {domain : List Char} (hdomain : IsHostName domain)
    (u : HostUrl) :
    Pattern.IsIn false (domainPattern domain) u.chars ↔
      ∃ part more, u.host = part ++ more ∧ StandsUnder domain part := by
  rw [isIn_domainPattern_iff hdomain]
  constructor
  · rintro ⟨before, name, behind, hchars, hbefore, hname⟩
    rw [List.append_assoc] at hchars
    obtain ⟨labels, rfl, hhost, hlabels⟩ := u.endsBeforeDomain_iff.mp ⟨hchars, hbefore⟩
    rw [← List.append_assoc] at hhost
    have hslash : '/' ∉ labels ++ name := by
      rw [List.mem_append, not_or]
      refine ⟨?_, slash_not_mem_of_folded_eq hdomain.isHostChar hname⟩
      rcases hlabels with rfl | ⟨front, rfl, _, _, hfront⟩
      · exact List.not_mem_nil
      · simpa using hfront
    obtain ⟨more, hmore⟩ := u.exists_host_eq hhost hslash
    refine ⟨labels ++ name, more, hmore, (standsUnder_iff hdomain u.isHostName hmore).mpr
      ⟨labels, name, rfl, hname, ?_⟩⟩
    exact hlabels.imp_right fun ⟨front, heq, hne, _⟩ => ⟨front, heq, hne⟩
  · rintro ⟨part, more, hmore, hunder⟩
    obtain ⟨labels, name, rfl, hname, hlabels⟩ :=
      (standsUnder_iff hdomain u.isHostName hmore).mp hunder
    have hhost : u.host ++ u.path = labels ++ (name ++ (more ++ u.path)) := by simp [hmore]
    have hfront : labels = [] ∨
        ∃ front, labels = front ++ ['.'] ∧ front ≠ [] ∧ ':' ∉ front ∧ '/' ∉ front := by
      refine hlabels.imp_right fun ⟨front, heq, hne⟩ => ⟨front, heq, hne, ?_, ?_⟩
      · exact fun hmem => u.isHostName.not_mem (c := ':') (by decide) (by simp [hmore, heq, hmem])
      · exact fun hmem => u.isHostName.not_mem (c := '/') (by decide) (by simp [hmore, heq, hmem])
    obtain ⟨hchars, hbefore⟩ := u.endsBeforeDomain_iff.mpr ⟨labels, rfl, hhost, hfront⟩
    exact ⟨_, name, more ++ u.path, by simpa using hchars, hbefore, hname⟩

/-! ### Compiled rules -/

section Size

open Pattern Regex.Syntax

theorem size_ofList_le (cs : List Char) :
    (Regex.CharSet.ofList cs).size ≤ (4 * cs.length + 1) * Regex.stateSize := by
  induction cs with
  | nil => exact Nat.le_refl Regex.stateSize
  | cons c cs ih =>
    have hc := Nat.mul_le_mul_right Regex.stateSize c.utf8Size_le_four
    have hsize : (Regex.CharSet.ofList (c :: cs)).size =
        c.utf8Size * Regex.stateSize + (Regex.CharSet.ofList cs).size := rfl
    have hstate : Regex.stateSize = 32 := rfl
    rw [hsize, List.length_cons]
    rw [hstate] at hc ih ⊢
    omega

/-- The states of a literal of ASCII: it has few variants. -/
def literalSize : Nat := 17 * Regex.stateSize

theorem size_literal_le {c : Char} (hc : isHostChar c = true) :
    ((Piece.literal c).part (Flags.plain true)).regex.size ≤ literalSize := by
  have hlt : c.toNat < 128 := by simpa [Text.isAscii] using isAscii_of_isHostChar hc
  have hvariants := Unicode.length_caseVariants_le hlt
  have hsize := size_ofList_le (Unicode.caseVariants c)
  refine Nat.le_trans hsize (Nat.mul_le_mul_right Regex.stateSize ?_)
  omega

theorem ofChars_domain {domain : List Char} (hdomain : ∀ c ∈ domain, isHostChar c = true) :
    Piece.ofChars (domain ++ ['^']) = domain.map .literal ++ [.optionalSeparator] := by
  induction domain with
  | nil => rfl
  | cons c domain ih =>
    have hc := hdomain c (List.mem_cons_self ..)
    have hcaret : c ≠ '^' := by
      rintro rfl
      exact absurd hc (by decide)
    have hstar : c ≠ '*' := by
      rintro rfl
      exact absurd hc (by decide)
    rw [List.cons_append, Piece.ofChars, ih fun c hc => hdomain c (List.mem_cons_of_mem _ hc)]
    · rfl
    · exact fun h => absurd h hcaret
    · exact hcaret
    · exact hstar

theorem size_literals_le {s : List Char} (hs : ∀ c ∈ s, isHostChar c = true) :
    ((s.map fun c => ((Piece.literal c).part (Flags.plain true)).regex).map Regex.size).sum ≤
      s.length * literalSize := by
  induction s with
  | nil => exact Nat.le_refl 0
  | cons c s ih =>
    obtain ⟨hc, hs⟩ := List.forall_mem_cons.mp hs
    have hfirst := size_literal_le hc
    have hothers := ih hs
    rw [List.map_cons, List.map_cons, List.sum_cons, List.length_cons, Nat.succ_mul]
    omega

theorem size_domainPattern_le {domain : List Char} (hdomain : IsHostName domain) :
    ((parse (domainPattern domain)).regex (Flags.plain true)).size ≤
      domain.length * literalSize + 2000 := by
  have hparse : parse (domainPattern domain) =
      ⟨.domain, domain.map .literal ++ [.optionalSeparator], false⟩ := by
    rw [parse_eq, startOf_domainPattern, between_domainPattern, ofChars_domain hdomain.isHostChar,
      decide_eq_false (not_isTiedToEnd_domainPattern domain)]
  have hregexes : regexes ((parse (domainPattern domain)).parts (Flags.plain true)) =
      regexes (Start.domain.parts (Flags.plain true)) ++
        (domain.map fun c => ((Piece.literal c).part (Flags.plain true)).regex) ++
        [(Piece.optionalSeparator.part (Flags.plain true)).regex] := by
    rw [hparse]
    simp [parts, isBlank, regexes, endParts]
  have hstart : ((regexes (Start.domain.parts (Flags.plain true))).map Regex.size).sum = 1536 := by
    decide +kernel
  have hseparator : (Piece.optionalSeparator.part (Flags.plain true)).regex.size = 416 := by
    decide +kernel
  have hstate : Regex.stateSize = 32 := rfl
  have hliterals := size_literals_le hdomain.isHostChar
  have hle := Regex.size_seqs_le (regexes ((parse (domainPattern domain)).parts (Flags.plain true)))
  rw [regex, Part.sequence_regex, List.reverse_reverse]
  refine Nat.le_trans hle ?_
  rw [hregexes, List.map_append, List.map_append, List.sum_append, List.sum_append, hstart,
    List.map_singleton, List.sum_singleton, hseparator]
  omega

end Size

/-- The length of the longest names in DNS. -/
def longestHostName : Nat := 253

theorem exists_ofRule_domainRule {domain : List Char} (hdomain : IsHostName domain)
    (hlength : domain.length ≤ longestHostName) (identifier : String) (index : Nat) :
    ∃ c, CompiledRule.ofRule identifier index (domainRule domain) = .ok c := by
  have hsize := size_domainPattern_le hdomain
  have hlimit : Regex.sizeLimit = 1048576 := rfl
  have hliteral : literalSize = 544 := rfl
  rw [hliteral] at hsize
  unfold longestHostName at hlength
  exact exists_ofRule_blockingRule (by omega) identifier index

theorem isFoundIn_domainRule_iff {domain : List Char} (hdomain : IsHostName domain)
    {identifier : String} {index : Nat} {c : CompiledRule}
    (hc : CompiledRule.ofRule identifier index (domainRule domain) = .ok c) (u : HostUrl) :
    c.isFoundIn u.text = true ↔ ∃ part more, u.host = part ++ more ∧ StandsUnder domain part := by
  have hfilter : (domainRule domain).trigger.urlFilter =
      (Pattern.parse (domainPattern domain)).urlFilter := rfl
  rw [isFoundIn_iff_isIn (CompiledRule.ofRule_eq_ok_iff.mp hc) hfilter, HostUrl.text,
    String.toList_ofList]
  exact isIn_domainPattern_chars_iff hdomain u

/-- The lines that name a domain all become one rule, which compiles unless the domain is longer
than names can be. The rule is found in exactly the URLs whose host has as an initial part the
domain or a name under it. -/
theorem domainRule_reaches {domain : List Char} (hdomain : IsHostName domain) :
    (∀ line ∈ domainLines domain, convert? line = some (.blocking, domainRule domain)) ∧
      ∀ identifier index,
        (domain.length ≤ longestHostName →
          ∃ c, CompiledRule.ofRule identifier index (domainRule domain) = .ok c) ∧
        ∀ c, CompiledRule.ofRule identifier index (domainRule domain) = .ok c →
          ∀ u : HostUrl, (c.isFoundIn u.text = true ↔
            ∃ part more, u.host = part ++ more ∧ StandsUnder domain part) := by
  refine ⟨fun line hline => convert?_of_mem_domainLines hdomain hline, fun identifier index => ?_⟩
  constructor
  · exact fun hlength => exists_ofRule_domainRule hdomain hlength identifier index
  · exact fun c hc u => isFoundIn_domainRule_iff hdomain hc u

/-- The rule for a domain is found in the URLs of a name under it, whatever the case. -/
theorem domainRule_reaches_name_under :
    IsHostName "ads.example.com".toList ∧
      ∃ c, CompiledRule.ofRule "L" 0 (domainRule "ads.example.com".toList) = .ok c ∧
        c.isFoundIn "https://cdn.ADS.example.com/x" = true := by
  have hdomain : IsHostName "ads.example.com".toList :=
    ⟨["ads".toList, "example".toList, "com".toList], by decide, by decide, by decide⟩
  obtain ⟨hcompiles, hfound⟩ := (domainRule_reaches hdomain).2 "L" 0
  obtain ⟨c, hc⟩ := hcompiles (by decide)
  let u : HostUrl := {
    scheme := "https".toList
    host := "cdn.ADS.example.com".toList
    path := "/x".toList
    scheme_ne_nil := by decide
    all_isAlpha_scheme := by decide
    isHostName := ⟨["cdn".toList, "ADS".toList, "example".toList, "com".toList], by decide,
      by decide, by decide⟩
    path_eq := .inr ⟨['x'], rfl⟩ }
  exact ⟨hdomain, c, hc, (hfound c hc u).mpr ⟨u.host, [], by simp, by decide⟩⟩

/-- The rule for a domain is found in the URLs of a host that only begins with the domain. -/
theorem domainRule_reaches_longer_host :
    convert? "||ads.example.com^".toList =
        some (.blocking, domainRule "ads.example.com".toList) ∧
      IsHostName "ads.example.com".toList ∧ IsHostName "ads.example.company".toList ∧
      ¬StandsUnder "ads.example.com".toList "ads.example.company".toList ∧
      ∃ c, CompiledRule.ofRule "L" 0 (domainRule "ads.example.com".toList) = .ok c ∧
        c.isFoundIn "https://ads.example.company/" = true := by
  have hdomain : IsHostName "ads.example.com".toList :=
    ⟨["ads".toList, "example".toList, "com".toList], by decide, by decide, by decide⟩
  have hhost : IsHostName "ads.example.company".toList :=
    ⟨["ads".toList, "example".toList, "company".toList], by decide, by decide, by decide⟩
  obtain ⟨c, hc⟩ := exists_ofRule_domainRule hdomain (by decide) "L" 0
  let u : HostUrl := {
    scheme := "https".toList
    host := "ads.example.company".toList
    path := ['/']
    scheme_ne_nil := by decide
    all_isAlpha_scheme := by decide
    isHostName := hhost
    path_eq := .inr ⟨[], rfl⟩ }
  have hfound : c.isFoundIn u.text = true := (isFoundIn_domainRule_iff hdomain hc u).mpr
    ⟨"ads.example.com".toList, "pany".toList, rfl, by decide⟩
  exact ⟨convert?_domainPattern hdomain, hdomain, hhost, by decide, c, hc, hfound⟩

end ContentBlocker.Filter
