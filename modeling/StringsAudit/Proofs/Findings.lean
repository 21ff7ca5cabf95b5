import StringsAudit.Proofs.Schedules
import StringsAudit.Proofs.Separation

/-!
# Findings of a search

If all files can be read, a search finds in each strings file just the identifiers that no source
file uses, under every schedule of its workers.
-/

set_option autoImplicit false

namespace StringsAudit

variable {ws : Workspace} {ns : Namespace} {directories files : List Text} {storyboard : Bool}
  {limit : Option Int} {text : Text → Text}

def Key.IsUnused (ns : Namespace) (sources : List Text) (identifier : Text) : Prop :=
  ∀ source ∈ sources, accessor ns identifier ∉ usages ns source ∧
    literal identifier ∉ usages ns source

instance (ns : Namespace) (sources : List Text) (identifier : Text) :
    Decidable (Key.IsUnused ns sources identifier) :=
  inferInstanceAs (Decidable (∀ source ∈ sources, _ ∧ _))

theorem Key.isUnused_iff (h : '\n' ∉ ns.name) (sources : List Text) (identifier : Text) :
    IsUnused ns sources identifier ↔
      isUsed ns (usages ns (Text.joinWith '\n' sources)) identifier = false := by
  rw [← Bool.not_eq_true, isUsed_iff, Token.mem_usages_joinWith h, Token.mem_usages_joinWith h]
  constructor
  · rintro unused (⟨source, hs, hk⟩ | ⟨source, hs, hk⟩)
    · exact (unused source hs).1 hk
    · exact (unused source hs).2 hk
  · intro unused source hs
    constructor
    · intro hk
      exact unused (.inl ⟨source, hs, hk⟩)
    · intro hk
      exact unused (.inr ⟨source, hs, hk⟩)

/-- What is abandoned when the sources are searched as one text. -/
theorem abandoned_joinWith (h : '\n' ∉ ns.name) (sources : List Text) (content : Text) :
    abandoned ns (usages ns (Text.joinWith '\n' sources)) content =
      (identifiers content).filter (Key.IsUnused ns sources) := by
  apply List.filter_congr
  intro identifier _
  rw [Bool.eq_iff_iff, decide_eq_true_iff, Key.isUnused_iff h]
  simp

theorem Table.mem_names_iff {α : Type} (table : Table α) (name : Text) :
    name ∈ table.names ↔ ∃ value, table.get? name = some value := by
  rw [← Option.isSome_iff_exists, Option.isSome_iff_ne_none, ne_eq, get?_eq_none_iff, not_not]

namespace Workspace

theorem readTexts_of_readable (h : ∀ path ∈ files, ws.readText path = .ok (text path)) :
    ws.readTexts files = .ok (files.map text) := by
  induction files with
  | nil => rfl
  | cons path files ih =>
    have hp := h path List.mem_cons_self
    have hf := ih fun path hpath => h path (List.mem_cons_of_mem _ hpath)
    rw [readTexts, hp, hf]
    rfl

/-- The source files of the directories, each with its text. -/
theorem source_of_readable
    (h : ∀ path ∈ ws.findFiles (sourceExtensions storyboard) directories,
      ws.readText path = .ok (text path)) :
    ws.source directories storyboard = .ok (Text.joinWith '\n'
      ((ws.findFiles (sourceExtensions storyboard) directories).map text)) := by
  rw [source, readTexts_of_readable h]
  rfl

/-- The scan is one of the scans that some schedule gives. -/
theorem scan_scans (ws : Workspace) (ns : Namespace) (usages : List Text) (limit : Option Int)
    (files : List Text) :
    ws.Scans ns usages limit files (ws.scan ns usages limit files).1
      (ws.scan ns usages limit files).2 := by
  by_cases hf : files = []
  · subst hf
    have run : Pool.Reaches (ws.scanFile ns usages) limit (Pool.initial [])
        ⟨[], [], .done (.ok .empty)⟩ := .single (.answer [] .empty (by simp))
    exact .run (completes_of_done run rfl) rfl
  · by_cases hl : ∀ n, limit = some n → 0 < n
    · obtain ⟨pool, outcome, complete, hd, hs⟩ := scan_completes hl ws ns usages files
      rw [hs]
      exact .run complete hd
    · obtain ⟨n, hn, hle⟩ : ∃ n, limit = some n ∧ n ≤ 0 := by simpa using hl
      have hs : ws.scan ns usages limit files = (.error .noWorkers, []) := by
        simp [scan, hf, hn, hle]
      rw [hs]
      exact .refused hf hn hle

/-- The search is one of those that some schedule gives. -/
theorem findAbandoned_finds (ws : Workspace) (ns : Namespace) (directories : List Text)
    (storyboard : Bool) (limit : Option Int) :
    ws.Finds ns directories storyboard limit
      (ws.findAbandoned ns directories storyboard limit).1
      (ws.findAbandoned ns directories storyboard limit).2 := by
  cases hs : ws.source directories storyboard with
  | error failure =>
    have found : ws.Finds ns directories storyboard limit _ _ := .unreadable hs
    simpa only [findAbandoned, hs] using found
  | ok source =>
    have found := Finds.scanned hs (ws.scan_scans ns (StringsAudit.usages ns source) limit
      (ws.findFiles [stringsExtension] directories))
    simpa only [findAbandoned, hs] using found

theorem scans_of_readable (hl : ∀ n, limit = some n → 0 < n) {usages : List Text}
    {outcome : Except ScanFailure Report} {log : Log}
    (ht : ∀ path ∈ files, ws.readText path = .ok (text path))
    (h : ws.Scans ns usages limit files outcome log) :
    ∃ report, outcome = .ok report ∧ ∀ path found, report.findings.get? path = some found ↔
      path ∈ files ∧ abandoned ns usages (text path) = found ∧ found ≠ [] := by
  cases h with
  | refused some_file bound no_worker =>
    have hpos := hl _ bound
    omega
  | run complete done =>
    obtain ⟨report, hd, entry, -⟩ := (settled_of_completes hl complete).answer text ht
    rw [hd] at done
    obtain rfl := Caller.done.inj done
    exact ⟨report, rfl, entry⟩

end Workspace

structure Report.Lists (ns : Namespace) (sources files : List Text) (text : Text → Text)
    (report : Report) : Prop where
  paths : ∀ path, path ∈ report.paths ↔
    path ∈ files ∧ ∃ identifier ∈ identifiers (text path), Key.IsUnused ns sources identifier
  found : ∀ path found, report.findings.get? path = some found →
    found = (identifiers (text path)).filter (Key.IsUnused ns sources) ∧ found ≠ []

theorem Report.lists_of_entries {sources : List Text} {report : Report}
    (h : ∀ path found, report.findings.get? path = some found ↔
      path ∈ files ∧ (identifiers (text path)).filter (Key.IsUnused ns sources) = found ∧
        found ≠ []) : report.Lists ns sources files text := by
  constructor
  · intro path
    rw [paths, Table.mem_names_iff]
    constructor
    · rintro ⟨found, hf⟩
      obtain ⟨hpath, rfl, hne⟩ := (h path found).mp hf
      obtain ⟨identifier, hi⟩ := List.exists_mem_of_ne_nil _ hne
      rw [List.mem_filter, decide_eq_true_iff] at hi
      exact ⟨hpath, identifier, hi⟩
    · rintro ⟨hpath, identifier, hi, unused⟩
      refine ⟨_, (h path _).mpr ⟨hpath, rfl, ?_⟩⟩
      exact List.ne_nil_of_mem (List.mem_filter.mpr ⟨hi, decide_eq_true unused⟩)
  · intro path found hf
    obtain ⟨-, he, hne⟩ := (h path found).mp hf
    exact ⟨he.symm, hne⟩

/-- If all files can be read, a search reports just the identifiers that no source file uses, under
every schedule. -/
theorem Workspace.search_lists_unused (ws : Workspace) (ns : Namespace) (directories : List Text)
    (storyboard : Bool) (limit : Option Int) (text : Text → Text) (hn : '\n' ∉ ns.name)
    (hl : ∀ n, limit = some n → 0 < n)
    (sources_read : ∀ path ∈ ws.findFiles (sourceExtensions storyboard) directories,
      ws.readText path = .ok (text path))
    (strings_read : ∀ path ∈ ws.findFiles [stringsExtension] directories,
      ws.readText path = .ok (text path)) :
    ws.Finds ns directories storyboard limit
      (ws.findAbandoned ns directories storyboard limit).1
      (ws.findAbandoned ns directories storyboard limit).2 ∧
    ∀ outcome log, ws.Finds ns directories storyboard limit outcome log →
      ∃ report, outcome = .ok report ∧
        report.Lists ns ((ws.findFiles (sourceExtensions storyboard) directories).map text)
          (ws.findFiles [stringsExtension] directories) text := by
  refine ⟨ws.findAbandoned_finds ns directories storyboard limit, ?_⟩
  intro outcome log h
  cases h with
  | unreadable source =>
    rw [source_of_readable sources_read] at source
    simp at source
  | scanned source scans =>
    rw [source_of_readable sources_read] at source
    obtain rfl := Except.ok.inj source
    obtain ⟨report, ho, entry⟩ := scans_of_readable hl strings_read scans
    refine ⟨report, ho, Report.lists_of_entries ?_⟩
    intro path found
    rw [entry, abandoned_joinWith hn]

namespace Workspace

def sample : Workspace where
  tree := .directory
    [(['p'], .directory [("a.m".toList,
        .file (Encoding.Utf8.encode "L10n.used \"@spa".toList))]),
      (['q'], .directory [("b.swift".toList,
        .file (Encoding.Utf8.encode "re\" \"@lit\"".toList))]),
      (['r'], .directory [("c.strings".toList,
        .file (Encoding.Utf8.encode "\"spare\"\n\"used\"\n\"lit\"\n\"spare\"".toList))])]
  here := []
  environment := []

def sampleText (path : Text) : Text :=
  if path = "p/a.m".toList then "L10n.used \"@spa".toList
  else if path = "q/b.swift".toList then "re\" \"@lit\"".toList
  else "\"spare\"\n\"used\"\n\"lit\"\n\"spare\"".toList

theorem sample_findFiles (extensions : List Text) :
    sample.findFiles extensions [['p'], ['q'], ['r']] =
      [['p'], ['q'], ['r']].flatMap fun path => match sample.tree.at? [path] with
        | none => []
        | some directory =>
          Node.walk sample.tree [] (Path.isWanted extensions) path directory := by
  have hp : sample.directory? ['p'] = sample.tree.at? [['p']] := by cbv
  have hq : sample.directory? ['q'] = sample.tree.at? [['q']] := by cbv
  have hr : sample.directory? ['r'] = sample.tree.at? [['r']] := by cbv
  simp only [findFiles, List.flatMap_cons, List.flatMap_nil, filesBelow, hp, hq, hr]
  rfl

theorem sample_sources : sample.findFiles (sourceExtensions false) [['p'], ['q'], ['r']] =
    ["p/a.m".toList, "q/b.swift".toList] := by
  rw [sample_findFiles]
  decide +kernel

theorem sample_strings : sample.findFiles [stringsExtension] [['p'], ['q'], ['r']] =
    ["r/c.strings".toList] := by
  rw [sample_findFiles]
  decide +kernel

theorem sample_readText :
    sample.readText "p/a.m".toList = .ok (sampleText "p/a.m".toList) ∧
    sample.readText "q/b.swift".toList = .ok (sampleText "q/b.swift".toList) ∧
    sample.readText "r/c.strings".toList = .ok (sampleText "r/c.strings".toList) := by
  have ha : sample.readText "p/a.m".toList = .ok "L10n.used \"@spa".toList := by cbv
  have hb : sample.readText "q/b.swift".toList = .ok "re\" \"@lit\"".toList := by cbv
  have hc : sample.readText "r/c.strings".toList =
    .ok "\"spare\"\n\"used\"\n\"lit\"\n\"spare\"".toList := by cbv
  exact ⟨ha, hb, hc⟩

theorem search_lists_unused_sample :
    '\n' ∉ Namespace.standard.name ∧ (∀ n, some (2 : Int) = some n → 0 < n) ∧
    ∀ outcome log, sample.Finds .standard [['p'], ['q'], ['r']] false (some 2) outcome log →
      ∃ report, outcome = .ok report ∧
        report.findings.get? "r/c.strings".toList = some ["spare".toList, "spare".toList] := by
  have hn : '\n' ∉ Namespace.standard.name := by decide
  have hl : ∀ n, some (2 : Int) = some n → 0 < n := by
    intro n h
    obtain rfl : 2 = n := by simpa using h
    decide
  refine ⟨hn, hl, ?_⟩
  intro outcome log h
  obtain ⟨ha, hb, hc⟩ := sample_readText
  have sources_read : ∀ path ∈ sample.findFiles (sourceExtensions false) [['p'], ['q'], ['r']],
      sample.readText path = .ok (sampleText path) := by
    rw [sample_sources]
    exact List.forall_mem_cons.mpr ⟨ha, List.forall_mem_singleton.mpr hb⟩
  have strings_read : ∀ path ∈ sample.findFiles [stringsExtension] [['p'], ['q'], ['r']],
      sample.readText path = .ok (sampleText path) := by
    rw [sample_strings]
    exact List.forall_mem_singleton.mpr hc
  obtain ⟨-, every⟩ := search_lists_unused sample .standard [['p'], ['q'], ['r']] false (some 2)
    sampleText hn hl sources_read strings_read
  obtain ⟨report, ho, lists⟩ := every outcome log h
  rw [sample_sources, sample_strings] at lists
  have listed : "r/c.strings".toList ∈ report.paths :=
    (lists.paths _).mpr ⟨List.mem_singleton.mpr rfl, "spare".toList, by decide, by decide +kernel⟩
  obtain ⟨found, hf⟩ := (Table.mem_names_iff _ _).mp listed
  obtain ⟨rfl, -⟩ := lists.found _ _ hf
  refine ⟨report, ho, hf.trans ?_⟩
  decide +kernel

end Workspace

end StringsAudit
