import ContentBlocker.Proofs.Disk.CacheScan
import ContentBlocker.Proofs.Loader.Requests
import ContentBlocker.Proofs.Source.Files

/-!
# The status of the cache and the use of it

A load uses the files of the cache if all of them are fresh, which it finds out by their paths. The
status of the cache is told by listing its directory. Both agree
(`Loader.check_agrees_with_status`): as listing finds the files that paths lead to
(`Cache.mem_files_iff`), a source has a fresh file (`Cache.freshFile?_eq_some_iff`) exactly when one
is reported for its identifier, and it is the file that is reported. For this the loader and its
cache must keep files fresh for the same time (`Loader.retention_eq`), as each of them looks at its
own.
-/

namespace ContentBlocker

namespace Loader

variable {σ : Type} {l : Loader σ} {w : World σ} {now : Int} {report : List CacheFileStatus}

/-- What is reported are the files that are found by listing, each with its age. -/
theorem mem_status_iff (hreport : l.status now w = .ok report) :
    ∃ files, l.cache.files w.disk = .ok files ∧ ∀ entry, entry ∈ report ↔ entry.file ∈ files ∧
      entry.age = entry.file.age now ∧ entry.isFresh = decide (entry.file.age now < l.retention) := by
  unfold status at hreport
  cases hfiles : l.cache.files w.disk with
  | error cause =>
    rw [hfiles] at hreport
    cases hreport
  | ok files =>
    rw [hfiles] at hreport
    obtain rfl := Except.ok.inj hreport
    refine ⟨files, rfl, fun entry => ?_⟩
    rw [List.mem_map]
    constructor
    · rintro ⟨file, hfile, rfl⟩
      exact ⟨hfile, rfl, rfl⟩
    · obtain ⟨file, age, isFresh⟩ := entry
      dsimp only
      rintro ⟨hfile, hage, hfresh⟩
      exact ⟨file, hfile, by rw [hage, hfresh]⟩

section Reported

variable [UrlChecker] (hdirectory : l.cache.directory ≠ "")
  (hreport : l.status now w = .ok report) {s : Source}
  (hmade : Source.make s.identifier s.location = .ok s)

include hdirectory hreport hmade

/-- What is reported under the identifier of a source is the file that its path leads to. -/
theorem file_iff_reported {f : CacheFile} :
    l.cache.file w.disk s.identifier = .ok f ↔
      f.identifier = s.identifier ∧ ∃ entry ∈ report, entry.file = f := by
  have hvalid := Source.isValid_key_of_make hmade
  obtain ⟨files, hfiles, hmem⟩ := mem_status_iff hreport
  rw [← Cache.mem_files_iff hdirectory hfiles (slash_not_mem_of_isValid hvalid)
    (Source.identifier_ne_of_isValid hvalid)]
  constructor
  · rintro ⟨hf, hidentifier⟩
    exact ⟨hidentifier, ⟨f, f.age now, decide (f.age now < l.retention)⟩,
      (hmem _).mpr ⟨hf, rfl, rfl⟩, rfl⟩
  · rintro ⟨hidentifier, entry, hentry, rfl⟩
    exact ⟨((hmem entry).mp hentry).1, hidentifier⟩

/-- A source has a fresh file exactly when one is reported as fresh under its identifier. -/
theorem exists_freshFile?_iff :
    (∃ f, l.cache.freshFile? w.disk now s.identifier = some f) ↔
      ∃ entry ∈ report, entry.file.identifier = s.identifier ∧ entry.isFresh = true := by
  obtain ⟨files, _, hmem⟩ := mem_status_iff hreport
  have hfresh : ∀ entry ∈ report,
      entry.isFresh = true ↔ entry.file.age now < l.cache.retention := by
    intro entry hentry
    rw [((hmem entry).mp hentry).2.2, decide_eq_true_iff, l.retention_eq]
  simp only [Cache.freshFile?_eq_some_iff, file_iff_reported hdirectory hreport hmade]
  constructor
  · rintro ⟨f, ⟨hidentifier, entry, hentry, rfl⟩, hyoung⟩
    exact ⟨entry, hentry, hidentifier, (hfresh entry hentry).mpr hyoung⟩
  · rintro ⟨entry, hentry, hidentifier, hreported⟩
    exact ⟨entry.file, ⟨hidentifier, entry, hentry, rfl⟩, (hfresh entry hentry).mp hreported⟩

end Reported

/-- The files of sources are used exactly when each of them is reported as fresh, and then these are
the files that are reported. A file is fresh while its age is below the retention, so that one as
old as the retention is neither reported as fresh nor used; one that is changed in the future has
age zero. -/
theorem check_agrees_with_status [UrlChecker] (hdirectory : l.cache.directory ≠ "")
    (hreport : l.status now w = .ok report) {sources : List Source}
    (hmade : ∀ s ∈ sources, Source.make s.identifier s.location = .ok s) :
    ((∃ files, l.cache.check w.disk now (sources.map (·.identifier)) = some files) ↔
      ∀ s ∈ sources, ∃ entry ∈ report,
        entry.file.identifier = s.identifier ∧ entry.isFresh = true) ∧
    (∀ files, l.cache.check w.disk now (sources.map (·.identifier)) = some files →
      List.Forall₂ (fun s f => f.identifier = s.identifier ∧ (∃ entry ∈ report, entry.file = f) ∧
        ∀ entry ∈ report, entry.file.identifier = s.identifier → entry.file = f) sources files) ∧
    (∀ entry ∈ report, entry.age = (now - entry.file.modified).toNat ∧
      (now ≤ entry.file.modified → entry.age = 0) ∧
      (entry.isFresh = true ↔ entry.age < l.retention)) ∧
    ∀ s ∈ sources, ∀ entry ∈ report, entry.file.identifier = s.identifier →
      l.cache.retention ≤ entry.age →
      l.cache.check w.disk now (sources.map (·.identifier)) = none := by
  obtain ⟨_, _, hmem⟩ := mem_status_iff hreport
  have hfresh : ∀ entry ∈ report, entry.age = (now - entry.file.modified).toNat ∧
      (entry.isFresh = true ↔ entry.age < l.retention) := by
    intro entry hentry
    obtain ⟨_, hage, hfresh⟩ := (hmem entry).mp hentry
    rw [hfresh, hage]
    exact ⟨rfl, decide_eq_true_iff⟩
  have hsome : (∃ files, l.cache.check w.disk now (sources.map (·.identifier)) = some files) ↔
      ∀ s ∈ sources, ∃ entry ∈ report,
        entry.file.identifier = s.identifier ∧ entry.isFresh = true := by
    rw [Cache.exists_check_iff, List.forall_mem_map]
    exact forall₂_congr fun s hs => exists_freshFile?_iff hdirectory hreport (hmade s hs)
  refine ⟨hsome, fun files hfiles => ?_, fun entry hentry => ?_, fun s hs entry hentry hid hold => ?_⟩
  · have hall := Cache.check_eq_some_iff.mp hfiles
    rw [List.forall₂_map_left_iff] at hall
    refine forall₂_imp_of_mem hall fun s hs f hf => ?_
    have hreports := fun g => file_iff_reported hdirectory hreport (hmade s hs) (f := g)
    have hfile := (Cache.freshFile?_eq_some_iff.mp hf).1
    obtain ⟨hid, hreported⟩ := (hreports f).mp hfile
    refine ⟨hid, hreported, fun entry hentry hentryId => ?_⟩
    have hsame := (hreports entry.file).mpr ⟨hentryId, entry, hentry, rfl⟩
    rw [hfile] at hsame
    exact (Except.ok.inj hsame).symm
  · obtain ⟨hage, hiff⟩ := hfresh entry hentry
    refine ⟨hage, fun hfuture => ?_, hiff⟩
    rw [hage]
    exact Int.toNat_of_nonpos (Int.sub_nonpos_of_le hfuture)
  · rw [Option.eq_none_iff_forall_ne_some]
    intro files hfiles
    obtain ⟨other, hother, hotherId, hotherFresh⟩ := hsome.mp ⟨files, hfiles⟩ s hs
    -- both are the file that the path of the source leads to
    have hfile := (file_iff_reported hdirectory hreport (hmade s hs)).mpr ⟨hid, entry, hentry, rfl⟩
    have hfile' := (file_iff_reported hdirectory hreport (hmade s hs)).mpr
      ⟨hotherId, other, hother, rfl⟩
    rw [hfile] at hfile'
    have hage := (hfresh other hother).2.mp hotherFresh
    rw [(hfresh other hother).1, ← Except.ok.inj hfile', ← (hfresh entry hentry).1] at hage
    exact Nat.not_lt.mpr hold (l.retention_eq ▸ hage)

/-- A disk on which the file of one list is a link to a file that is changed in the future. The
directory of the cache also has a directory that is named like a file, and a file of no list. -/
def linked : Disk where
  items := [
    ([.text "lists"], .directory),
    ([.text "lists", .text "a.json"], .file (.bytes (.text "[]")) 0),
    ([.text "lists", .text "my list.json"], .link (.text "../data")),
    ([.text "lists", .text "c.json"], .directory),
    ([.text "lists", .text ".json"], .file (.bytes (.text "[]")) 0),
    ([.text "data"], .file (.bytes (.text "[]")) 7200000000000)]

def linkedSources : List Source :=
  [⟨"a", "https://a.test/"⟩, ⟨"my list", "https://b.test/"⟩]

/-- Both files are reported as fresh until the first is just as old as the retention. -/
theorem check_agrees_with_status_of_link :
    single.cache.directory ≠ "" ∧
      (∀ s ∈ linkedSources, Source.make s.identifier s.location = .ok s) ∧
      (∃ report, single.status 3599999999999 { disk := linked, registry := {} } = .ok report ∧
        ∀ s ∈ linkedSources, ∃ entry ∈ report,
          entry.file.identifier = s.identifier ∧ entry.isFresh = true) ∧
      ∃ report, single.status 3600000000000 { disk := linked, registry := {} } = .ok report ∧
        ¬∀ s ∈ linkedSources, ∃ entry ∈ report,
          entry.file.identifier = s.identifier ∧ entry.isFresh = true := by
  have hdirectory : single.cache.directory ≠ "" := by decide
  have hmade : ∀ s ∈ linkedSources, Source.make s.identifier s.location = .ok s := by
    decide +kernel
  have hnames : linked.listDirectory (.text single.cache.directory) =
      .ok [.text "a.json", .text "my list.json", .text "c.json", .text ".json"] := by
    decide +kernel
  have hstatus : ∀ now, ∃ report,
      single.status now { disk := linked, registry := ({} : Registry) } = .ok report := by
    intro now
    unfold status Cache.files
    rw [hnames]
    exact ⟨_, rfl⟩
  obtain ⟨before, hbefore⟩ := hstatus 3599999999999
  obtain ⟨after, hafter⟩ := hstatus 3600000000000
  refine ⟨hdirectory, hmade, ⟨before, hbefore, ?_⟩, after, hafter, ?_⟩
  · have hsome : (single.cache.check linked 3599999999999
        (linkedSources.map (·.identifier))).isSome = true := by
      decide +kernel
    exact (check_agrees_with_status hdirectory hbefore hmade).1.mp (Option.isSome_iff_exists.mp hsome)
  · have hnone : single.cache.check linked 3600000000000 (linkedSources.map (·.identifier)) =
        none := by
      decide +kernel
    rw [← (check_agrees_with_status hdirectory hafter hmade).1, hnone]
    rintro ⟨files, hfiles⟩
    cases hfiles

end Loader

end ContentBlocker
