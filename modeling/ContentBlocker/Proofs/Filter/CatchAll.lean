import ContentBlocker.Proofs.Filter.PlainLines

/-!
# Rules that catch every page

A rule whose filter is written as any run of characters is refused unless it is restricted, but the
filter of another rule may say the same in other words. Whether a network rule is found in every URL
of the web is told by three URLs (`networkRule_spares_iff`). A pattern that names the character
behind the slashes in one of them is not found in another one, and a pattern that does not name it
cannot tell what stands there. So a pattern that names a character of its own spares some URL. Only
patterns of marks and of characters that stand in every URL may spare none, as two wildcards do
(`wildcards_spare_nothing`).

The proof takes a match in a URL that ends in a character without a name in the pattern, and puts
any other end in its place (`standsFor_append_of_concat`, `isIn_append_of_concat`).
-/

namespace ContentBlocker.Filter

namespace Pattern

/-! ### Characters that a pattern names -/

/-- Whether a character stands for itself in a text between anchors. -/
def Names (s : List Char) (a : Char) : Prop :=
  a ∈ s ∧ a ≠ '*' ∧ a ≠ '^'

section Names

variable {matchCase : Bool} {s word : List Char}

theorem Names.tail {a b : Char} (h : Names s a) : Names (b :: s) a :=
  ⟨List.mem_cons_of_mem b h.1, h.2⟩

/-- Every character that a text names is found in the words that the text stands for. -/
theorem exists_same_of_standsFor (h : StandsFor matchCase s word) {a : Char} (ha : Names s a) :
    ∃ b ∈ word, Same matchCase a b := by
  obtain ⟨hmem, hstar, hcaret⟩ := ha
  fun_induction StandsFor matchCase s word with
  | case1 => exact absurd hmem List.not_mem_nil
  | case2 => exact absurd (List.mem_singleton.mp hmem) hcaret
  | case3 s word _ ih =>
    obtain ⟨c, _, rest, rfl, hrest⟩ := h
    obtain ⟨b, hb, hsame⟩ := ih rest hrest ((List.mem_cons.mp hmem).resolve_left hcaret)
    exact ⟨b, List.mem_cons_of_mem c hb, hsame⟩
  | case4 s word ih =>
    obtain ⟨run, rest, rfl, _, hrest⟩ := h
    obtain ⟨b, hb, hsame⟩ := ih rest hrest ((List.mem_cons.mp hmem).resolve_left hstar)
    exact ⟨b, List.mem_append_right run hb, hsame⟩
  | case5 a' s word _ _ _ ih =>
    obtain ⟨c, rest, rfl, hc, hrest⟩ := h
    rcases List.mem_cons.mp hmem with rfl | hmem
    · exact ⟨c, List.mem_cons_self .., hc⟩
    · obtain ⟨b, hb, hsame⟩ := ih rest hrest hmem
      exact ⟨b, List.mem_cons_of_mem c hb, hsame⟩

/-- Every character that a pattern names is found in the URLs that the pattern is in. -/
theorem exists_same_of_isIn {p url : List Char} (h : IsIn matchCase p url) {a : Char}
    (ha : Names (between p) a) : ∃ b ∈ url, Same matchCase a b := by
  obtain ⟨before, word, behind, rfl, _, hword, _⟩ := h
  obtain ⟨b, hb, hsame⟩ := exists_same_of_standsFor hword ha
  exact ⟨b, by simp [hb], hsame⟩

/-- A word that ends in `d` and starts with another character goes on behind that one. -/
theorem exists_tail_of_concat_eq_cons {u tail : List Char} {c d : Char} (hne : c ≠ d)
    (h : u ++ [d] = c :: tail) : ∃ u', u = c :: u' ∧ u' ++ [d] = tail := by
  rcases List.append_eq_cons_iff.mp h with ⟨_, hlast⟩ | ⟨u', hu, htail⟩
  · exact absurd (List.cons.inj hlast).1.symm hne
  · exact ⟨u', hu, htail.symm⟩

/-- Of a word that ends in a character without a name, the end may be any other: a wildcard stands
for it. -/
theorem standsFor_append_of_concat {d : Char} (hd : d ∉ separators)
    (hnames : ∀ a, Names s a → ¬Same matchCase a d) {u rest : List Char} (hrest : '\n' ∉ rest)
    (h : StandsFor matchCase s (u ++ [d])) : StandsFor matchCase s (u ++ rest) := by
  have hsep : ∀ c ∈ separators, c ≠ d := fun c hc heq => hd (heq ▸ hc)
  generalize hword : u ++ [d] = word at h
  fun_induction StandsFor matchCase s word generalizing u with
  | case1 => exact absurd (hword.trans h) (by simp)
  | case2 =>
    rcases h with rfl | ⟨c, hc, rfl⟩
    · exact absurd hword (by simp)
    · obtain ⟨u', _, hnil⟩ := exists_tail_of_concat_eq_cons (hsep c hc) hword
      exact absurd hnil (by simp)
  | case3 s word hlast ih =>
    obtain ⟨c, hc, tail, rfl, htail⟩ := h
    obtain ⟨u', rfl, rfl⟩ := exists_tail_of_concat_eq_cons (hsep c hc) hword
    rw [StandsFor]
    · exact ⟨c, hc, u' ++ rest, rfl, ih _ (fun a ha => hnames a ha.tail) rfl htail⟩
    · exact hlast
  | case4 s word ih =>
    obtain ⟨run, tail, rfl, hrun, htail⟩ := h
    rw [StandsFor]
    rcases List.eq_nil_or_concat tail with rfl | ⟨tail, b, rfl⟩
    -- the wildcard stands for the end of the word
    · rw [List.append_nil] at hword
      have hu : '\n' ∉ u := fun hmem => hrun (hword ▸ List.mem_append_left _ hmem)
      exact ⟨u ++ rest, [], (List.append_nil _).symm, by simp [hu, hrest], htail⟩
    -- the end of the word belongs to what follows the wildcard
    · rw [List.concat_eq_append] at hword htail
      rw [← List.append_assoc] at hword
      obtain ⟨rfl, hb⟩ := List.append_inj' hword rfl
      refine ⟨run, tail ++ rest, List.append_assoc .., hrun, ih _ (fun a ha => hnames a ha.tail) ?_
        htail⟩
      rw [hb]
  | case5 a s word hlast hcaret hstar ih =>
    obtain ⟨c, tail, rfl, hc, htail⟩ := h
    have hne : c ≠ d := by
      rintro rfl
      exact hnames a ⟨List.mem_cons_self .., hstar, hcaret⟩ hc
    obtain ⟨u', rfl, rfl⟩ := exists_tail_of_concat_eq_cons hne hword
    rw [StandsFor]
    · exact ⟨c, u' ++ rest, rfl, hc, ih _ (fun a ha => hnames a ha.tail) rfl htail⟩
    · exact hlast
    · exact hcaret
    · exact hstar

end Names

/-! ### URLs that end in such a character -/

section Ends

variable {matchCase : Bool} {p : List Char}

/-- A domain may start behind a slash or a dot only. -/
theorem getLast?_of_endsBeforeDomain {s : List Char} (h : EndsBeforeDomain s) :
    s.getLast? = some '/' ∨ s.getLast? = some '.' := by
  obtain ⟨scheme, slashes, labels, rfl, _, _, htwo, hslashes, rfl | ⟨name, rfl, _⟩⟩ := h
  · left
    rcases List.eq_nil_or_concat slashes with rfl | ⟨others, slash, rfl⟩
    · simp at htwo
    · have hslash : slash = '/' := hslashes slash (by simp)
      simp [hslash, List.getLast?_append, List.getLast?_cons]
  · right
    rw [← List.append_assoc, List.getLast?_concat]

/-- A pattern that may start behind a text which ends in another character may start anywhere. -/
theorem mayStartBehind_of_concat {front : List Char} {d : Char} (hslash : d ≠ '/') (hdot : d ≠ '.')
    (h : MayStartBehind p (front ++ [d])) (other : List Char) : MayStartBehind p other := by
  unfold MayStartBehind at h ⊢
  split at h
  · rename_i hdomain
    have hlast := getLast?_of_endsBeforeDomain h
    rw [List.getLast?_concat, Option.some.injEq, Option.some.injEq] at hlast
    exact absurd hlast (not_or.mpr ⟨hslash, hdot⟩)
  · rename_i hdomain
    split at h
    · exact absurd h (by simp)
    · rename_i hurl
      rw [if_neg hdomain, if_neg hurl]
      trivial

/-- A pattern that is in a URL which ends in a character without a name is in every URL that only
ends otherwise. -/
theorem isIn_append_of_concat {front rest : List Char} {d : Char} (hd : d ∉ '.' :: separators)
    (hnames : ∀ a, Names (between p) a → ¬Same matchCase a d) (hrest : '\n' ∉ rest)
    (h : IsIn matchCase p (front ++ [d])) : IsIn matchCase p (front ++ rest) := by
  rw [List.mem_cons, not_or] at hd
  obtain ⟨hdot, hsep⟩ := hd
  have hslash : d ≠ '/' := by
    rintro rfl
    exact hsep (by decide)
  obtain ⟨before, word, behind, hurl, hstart, hword, hend⟩ := h
  rcases List.eq_nil_or_concat behind with rfl | ⟨behind, b, rfl⟩
  · rw [List.append_nil] at hurl
    rcases List.eq_nil_or_concat word with rfl | ⟨word, b, rfl⟩
    -- the pattern stands for the empty word at the end of the URL
    · rw [List.append_nil] at hurl
      rw [← hurl] at hstart
      exact ⟨front ++ rest, [], [], by simp, mayStartBehind_of_concat hslash hdot hstart _, hword,
        fun _ => rfl⟩
    · rw [List.concat_eq_append] at hurl hword
      rw [← List.append_assoc] at hurl
      obtain ⟨rfl, hb⟩ := List.append_inj' hurl rfl
      rw [← hb] at hword
      exact ⟨before, word ++ rest, [], by simp, hstart,
        standsFor_append_of_concat hsep hnames hrest hword, fun _ => rfl⟩
  -- the word does not reach the end, so that nothing ties it there
  · rw [List.concat_eq_append, ← List.append_assoc] at hurl
    obtain ⟨rfl, _⟩ := List.append_inj' hurl rfl
    exact ⟨before, word, behind ++ rest, by simp, hstart, hword,
      fun htied => absurd (hend htied) (by simp)⟩

end Ends

end Pattern

/-! ### URLs of the web -/

/-- The schemes of the web, with what stands behind them in every URL. -/
def webSchemes : List String := ["http://", "https://"]

/-- Whether a text is a URL of the web, or the start of one. -/
def IsWebUrl (url : String) : Prop :=
  ∃ scheme ∈ webSchemes, ∃ rest, '\n' ∉ rest ∧ url.toList = scheme.toList ++ rest

/-- Three URLs that tell whether a pattern is in every URL of the web. -/
def probes : List String := ["http://x", "https://x", "http://y"]

theorem isWebUrl_of_mem_probes {probe : String} (h : probe ∈ probes) : IsWebUrl probe := by
  have hall : ∀ q ∈ probes, ∃ scheme ∈ webSchemes,
      q.toList = scheme.toList ++ ['x'] ∨ q.toList = scheme.toList ++ ['y'] := by decide
  obtain ⟨scheme, hscheme, heq | heq⟩ := hall probe h
  · exact ⟨scheme, hscheme, ['x'], by decide, heq⟩
  · exact ⟨scheme, hscheme, ['y'], by decide, heq⟩

section Probes

open Pattern

variable {matchCase : Bool} {p : List Char}

/-- A pattern that is in `http://y` does not name the end of `http://x`. -/
theorem not_same_of_isIn (h : IsIn matchCase p "http://y".toList) {a : Char}
    (ha : Names (between p) a) : ¬Same matchCase a 'x' := by
  obtain ⟨b, hmem, hsame⟩ := exists_same_of_isIn h ha
  have hother : "http://y".toList.all
      (fun d => Unicode.foldCode d.toNat != Unicode.foldCode 'x'.toNat) = true := by decide +kernel
  intro hx
  exact bne_iff_ne.mp (List.all_eq_true.mp hother b hmem)
    (hsame.foldCode_eq.symm.trans hx.foldCode_eq)

/-- A pattern that is in the three URLs is in every URL of the web. -/
theorem isIn_of_isIn_probes (h : ∀ probe ∈ probes, IsIn matchCase p probe.toList) {url : String}
    (hurl : IsWebUrl url) : IsIn matchCase p url.toList := by
  have hnames : ∀ a, Names (between p) a → ¬Same matchCase a 'x' := fun a ha =>
    not_same_of_isIn (h "http://y" (by simp [probes])) ha
  obtain ⟨scheme, hscheme, rest, hrest, heq⟩ := hurl
  have hprobe : IsIn matchCase p (scheme.toList ++ ['x']) := by
    rcases List.mem_cons.mp hscheme with rfl | hscheme
    · exact h "http://x" (by simp [probes])
    · obtain rfl := List.mem_singleton.mp hscheme
      exact h "https://x" (by simp [probes])
  rw [heq]
  exact isIn_append_of_concat (by decide) hnames hrest hprobe

/-- Such a pattern names only what stands in every URL of the web. -/
theorem exists_same_of_isIn_probes (h : ∀ probe ∈ probes, IsIn matchCase p probe.toList) {a : Char}
    (ha : Names (between p) a) : ∃ b ∈ "https:/".toList, Same matchCase a b := by
  obtain ⟨b, hmem, hsame⟩ := exists_same_of_isIn (h "http://x" (by simp [probes])) ha
  have hcases : b = 'x' ∨ b ∈ "https:/".toList := by
    have hall : "http://x".toList.all (fun d => d == 'x' || "https:/".toList.contains d) = true := by
      decide
    simpa using List.all_eq_true.mp hall b hmem
  rcases hcases with rfl | hweb
  · exact absurd hsame (not_same_of_isIn (h "http://y" (by simp [probes])) ha)
  · exact ⟨b, hweb, hsame⟩

end Probes

/-! ### Rules -/

/-- Whether a rule leaves some URL of the web alone is told by the three URLs. Every rule does whose
pattern names a character that does not stand in all of them. -/
theorem networkRule_spares_iff {line : List Char} {kind : Kind} {r : Rule}
    (h : convert? line = some (kind, r)) (hkind : kind ≠ .cosmetic) {identifier : String}
    {index : Nat} {c : CompiledRule} (hc : CompiledRule.ofRule identifier index r = .ok c) :
    ((∃ url, IsWebUrl url ∧ c.isFoundIn url = false) ↔
        ∃ probe ∈ probes, c.isFoundIn probe = false) ∧
      ∃ pattern, linePattern? line = some pattern ∧
        (r.trigger.isRestricted = false → pattern ∉ [[], ['|'], ['*']]) ∧
        ((∃ a, Pattern.Names (Pattern.between pattern) a ∧
            ∀ b ∈ "https:/".toList, ¬Pattern.Same r.trigger.caseSensitive a b) →
          ∃ url, IsWebUrl url ∧ c.isFoundIn url = false) := by
  obtain ⟨pattern, hpattern, hfilter, hguard⟩ := exists_linePattern?_of_convert? h hkind
  have hfound := isFoundIn_iff_isIn (CompiledRule.ofRule_eq_ok_iff.mp hc) hfilter
  have hcases : (∃ probe ∈ probes, c.isFoundIn probe = false) ∨
      ∀ probe ∈ probes, Pattern.IsIn r.trigger.caseSensitive pattern probe.toList := by
    cases hall : probes.all c.isFoundIn with
    | false =>
      obtain ⟨probe, hprobe, hnot⟩ := List.all_eq_false.mp hall
      exact .inl ⟨probe, hprobe, Bool.eq_false_iff.mpr hnot⟩
    | true =>
      exact .inr fun probe hprobe => (hfound probe).mp (List.all_eq_true.mp hall probe hprobe)
  have hspares : (∃ url, IsWebUrl url ∧ c.isFoundIn url = false) ↔
      ∃ probe ∈ probes, c.isFoundIn probe = false := by
    constructor
    · rintro ⟨url, hurl, hnot⟩
      rcases hcases with hprobe | hin
      · exact hprobe
      · rw [(hfound url).mpr (isIn_of_isIn_probes hin hurl)] at hnot
        exact absurd hnot (by simp)
    · rintro ⟨probe, hprobe, hnot⟩
      exact ⟨probe, isWebUrl_of_mem_probes hprobe, hnot⟩
  refine ⟨hspares, pattern, hpattern, ?_, ?_⟩
  · intro hfree hmem
    have hany : ∀ p ∈ [[], ['|'], ['*']], (Pattern.parse p).urlFilter = Trigger.anyUrl := by
      decide
    exact hguard hfree (hfilter.trans (hany pattern hmem))
  · rintro ⟨a, ha, hother⟩
    rcases hcases with hprobe | hin
    · exact hspares.mpr hprobe
    · obtain ⟨b, hb, hsame⟩ := exists_same_of_isIn_probes hin ha
      exact absurd hsame (hother b hb)

/-- A rule whose pattern names a letter that is not in all URLs leaves one alone. -/
theorem networkRule_spares_iff_ad_box : convert? "&ad_box=".toList =
      some (.blocking, blockingRule "&ad_box=".toList) ∧
    ∃ c, CompiledRule.ofRule "L" 0 (blockingRule "&ad_box=".toList) = .ok c ∧
      ∃ url, IsWebUrl url ∧ c.isFoundIn url = false := by
  have hplain : IsPlain "&ad_box=".toList :=
    ⟨by decide, List.all_eq_true.mp (by decide), by decide⟩
  have hconvert : convert? "&ad_box=".toList =
      some (.blocking, blockingRule "&ad_box=".toList) := convert?_of_isPlain hplain (by decide)
  have hsize : ((Pattern.parse "&ad_box=".toList).regex (Regex.Syntax.Flags.plain true)).size ≤
      Regex.sizeLimit := by decide +kernel
  obtain ⟨c, hc⟩ := exists_ofRule_blockingRule hsize "L" 0
  obtain ⟨_, pattern, hpattern, _, hspares⟩ := networkRule_spares_iff hconvert (by decide) hc
  have hline : linePattern? "&ad_box=".toList = some "&ad_box=".toList := by decide
  obtain rfl := Option.some.inj (hline.symm.trans hpattern)
  refine ⟨hconvert, c, hc, hspares ⟨'a', ⟨by decide, by decide, by decide⟩, fun b hb hsame => ?_⟩⟩
  have hother : "https:/".toList.all
      (fun d => Unicode.foldCode 'a'.toNat != Unicode.foldCode d.toNat) = true := by decide +kernel
  exact bne_iff_ne.mp (List.all_eq_true.mp hother b hb) hsame.foldCode_eq

/-- Two wildcards are written otherwise than one, and their rule is found everywhere. -/
theorem wildcards_spare_nothing :
    convert? "**".toList = some (.blocking, starsRule 2) ∧
      (starsRule 2).trigger.isRestricted = false ∧
      ∃ c, CompiledRule.ofRule "L" 0 (starsRule 2) = .ok c ∧ ∀ url, c.isFoundIn url = true := by
  have hsize : ((Pattern.parse (stars 2)).regex (Regex.Syntax.Flags.plain true)).size ≤
      Regex.sizeLimit := by
    rw [size_stars (by decide)]
    decide
  obtain ⟨c, hc⟩ := exists_ofRule_blockingRule hsize "L" 0
  have hconvert : convert? (stars 2) = some (.blocking, starsRule 2) :=
    convert?_of_isPlain (isPlain_stars (by decide)) (urlFilter_stars_ne_anyUrl (by decide))
  refine ⟨hconvert, rfl, c, hc, fun url => ?_⟩
  have hfilter : (starsRule 2).trigger.urlFilter = (Pattern.parse (stars 2)).urlFilter := rfl
  have hempty : Pattern.StandsFor (starsRule 2).trigger.caseSensitive
      (Pattern.between (stars 2)) [] :=
    ⟨[], [], rfl, List.not_mem_nil, [], [], rfl, List.not_mem_nil, rfl⟩
  exact (isFoundIn_iff_isIn (CompiledRule.ofRule_eq_ok_iff.mp hc) hfilter url).mpr
    ⟨[], [], url.toList, rfl, trivial, hempty, fun htied => absurd htied (by decide)⟩

end ContentBlocker.Filter
