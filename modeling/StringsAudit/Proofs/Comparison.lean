import StringsAudit.Proofs.FileTree.Growth
import StringsAudit.Proofs.Searches

/-!
# Two searches compared

More source makes a search drop the findings that the added files use, and no others. The order of
the root directories and their repetitions make no difference to what is found.
-/

set_option autoImplicit false

namespace StringsAudit

theorem Key.isUnused_append (ns : Namespace) (sources more : List Text) (identifier : Text) :
    IsUnused ns (sources ++ more) identifier ↔
      IsUnused ns sources identifier ∧ IsUnused ns more identifier :=
  List.forall_mem_append

theorem Key.isUnused_congr {ns : Namespace} {sources others : List Text}
    (h : ∀ source, source ∈ sources ↔ source ∈ others) (identifier : Text) :
    IsUnused ns sources identifier ↔ IsUnused ns others identifier :=
  forall_congr' fun source => imp_congr_left (h source)

namespace Path

def isSource (name : Text) : Bool := isWanted (sourceExtensions true) name

theorem isWanted_mono {extensions more : List Text} (h : extensions ⊆ more) {name : Text}
    (hw : isWanted extensions name = true) : isWanted more name = true := by
  rw [isWanted_iff] at hw ⊢
  exact List.map_subset normalExtension h hw

theorem sourceExtensions_subset {storyboard storyboard' : Bool}
    (h : storyboard = true → storyboard' = true) :
    sourceExtensions storyboard ⊆ sourceExtensions storyboard' := by
  cases storyboard with
  | true => rw [h rfl]; exact List.Subset.refl _
  | false => exact List.append_subset.mpr ⟨List.subset_append_left _ _, List.nil_subset _⟩

/-- No source file is a strings file. -/
theorem not_isWanted_strings {name : Text} (h : isSource name = true) :
    isWanted [stringsExtension] name = false := by
  have apart : ∀ extension ∈ (sourceExtensions true).map normalExtension,
      extension ∉ [stringsExtension].map normalExtension := by decide +kernel
  rw [Bool.eq_false_iff, ne_eq, isWanted_iff]
  exact apart _ (isWanted_iff.mp h)

end Path

namespace Workspace

variable {before after ws : Workspace} {ns : Namespace} {directories others : List Text}
  {storyboard storyboard' : Bool} {limit limit' : Option Int} {path base : Text} {node : Node}

/-- The second workspace is the first with source files added anywhere in its tree, also in
directories that are added for them. No root comes to lead to strings files by that, as `n/../r`
does to those of `r` when `n` is added. -/
structure AddsSources (before after : Workspace) (directories : List Text) : Prop where
  here : after.here = before.here
  tree : before.tree.Grows Path.isSource after.tree
  roots : ∀ path ∈ directories, before.directory? path = none →
    after.filesBelow [stringsExtension] path = []

theorem exists_read_of_readable (h : ws.Readable path) :
    ∃ content, ws.tree.read ws.here path = .ok content := by
  rw [Readable, Workspace.readText] at h
  cases hr : ws.tree.read ws.here path with
  | error fault =>
    rw [hr] at h
    cases h
  | ok content => exact ⟨content, rfl⟩

theorem AddsSources.readText (h : before.AddsSources after directories)
    (hr : before.Readable path) : after.readText path = before.readText path := by
  obtain ⟨content, hc⟩ := exists_read_of_readable hr
  have ha : after.tree.read after.here path = .ok content := by
    rw [h.here]
    exact h.tree.read hc
  rw [Workspace.readText, Workspace.readText, hc, ha]

theorem AddsSources.directory? (h : before.AddsSources after directories)
    (hd : before.directory? base = some node) :
    ∃ grown, after.directory? base = some grown ∧ node.Grows Path.isSource grown := by
  obtain ⟨place, hl, ha, hn⟩ := directory?_eq_some_iff.mp hd
  obtain ⟨grown, hg, growth⟩ := h.tree.at? ha
  refine ⟨grown, directory?_eq_some_iff.mpr ⟨place, ?_, hg, growth.isDirectory_eq.trans hn⟩, growth⟩
  rw [h.here]
  exact h.tree.locate hl

/-- A readable file that was selected is selected still. -/
theorem AddsSources.mem_findFiles {extensions more : List Text}
    (h : before.AddsSources after directories) (he : extensions ⊆ more)
    (hr : before.Readable path) (hp : path ∈ before.findFiles extensions directories) :
    path ∈ after.findFiles more directories := by
  obtain ⟨base, hb, hp⟩ := Workspace.mem_findFiles.mp hp
  obtain ⟨node, hd, shown⟩ := mem_filesBelow.mp hp
  obtain ⟨grown, hg, growth⟩ := h.directory? hd
  obtain ⟨content, hc⟩ := exists_read_of_readable hr
  have inGrown := Node.mem_walk_iff.mp (growth.mem_walk (Node.mem_walk_iff.mpr shown))
  have shownAfter := h.tree.shows (inGrown.mono fun _ => Path.isWanted_mono he) hc
  rw [← h.here] at shownAfter
  exact Workspace.mem_findFiles.mpr ⟨base, hb, mem_filesBelow.mpr ⟨grown, hg, shownAfter⟩⟩

/-- No strings file is selected that was not selected before. -/
theorem AddsSources.mem_stringsFiles (h : before.AddsSources after directories)
    (hp : path ∈ after.stringsFiles directories) : path ∈ before.stringsFiles directories := by
  obtain ⟨base, hb, hp⟩ := Workspace.mem_findFiles.mp hp
  cases hd : before.directory? base with
  | none =>
    rw [h.roots base hb hd] at hp
    cases hp
  | some node =>
    obtain ⟨found, hf, shown⟩ := mem_filesBelow.mp hp
    obtain ⟨grown, hg, growth⟩ := h.directory? hd
    obtain rfl := Option.some.inj (hf.symm.trans hg)
    rw [h.here] at shown
    have inFound := Node.mem_walk_iff.mpr (h.tree.shows_of_shows shown)
    have inNode := growth.mem_walk_of_mem_walk (fun _ => Path.not_isWanted_strings) inFound
    exact Workspace.mem_findFiles.mpr
      ⟨base, hb, mem_filesBelow.mpr ⟨node, hd, Node.mem_walk_iff.mp inNode⟩⟩

def addedSources (before after : Workspace) (directories : List Text)
    (storyboard storyboard' : Bool) : List Text :=
  ((after.sourceFiles directories storyboard').filter fun path =>
    !(before.sourceFiles directories storyboard).contains path).map after.textOf

/-- What no source uses behind an addition is what neither the sources before nor the added ones
use. -/
theorem AddsSources.isUnused_iff (h : before.AddsSources after directories)
    (asked : storyboard = true → storyboard' = true)
    (sources : ∀ path ∈ before.sourceFiles directories storyboard, before.Readable path)
    (identifier : Text) :
    Key.IsUnused ns ((after.sourceFiles directories storyboard').map after.textOf) identifier ↔
      Key.IsUnused ns ((before.sourceFiles directories storyboard).map before.textOf) identifier ∧
        Key.IsUnused ns (before.addedSources after directories storyboard storyboard')
          identifier := by
  have texts : (before.sourceFiles directories storyboard).map before.textOf =
      (before.sourceFiles directories storyboard).map after.textOf := by
    apply List.map_congr_left
    intro path hp
    rw [textOf, textOf, h.readText (sources path hp)]
  rw [texts, addedSources, ← Key.isUnused_append, ← List.map_append]
  apply Key.isUnused_congr
  intro source
  simp only [List.mem_map, List.mem_append, List.mem_filter, Bool.not_eq_true',
    List.contains_iff_mem, ← Bool.not_eq_true]
  constructor
  · rintro ⟨path, hp, rfl⟩
    by_cases hb : path ∈ before.sourceFiles directories storyboard
    · exact ⟨path, .inl hb, rfl⟩
    · exact ⟨path, .inr ⟨hp, hb⟩, rfl⟩
  · rintro ⟨path, hb | ⟨hp, -⟩, rfl⟩
    · have he := Path.sourceExtensions_subset asked
      exact ⟨path, h.mem_findFiles he (sources path hb) hb, rfl⟩
    · exact ⟨path, hp, rfl⟩

/-- More source takes just those findings out of a report that an added file uses, whatever the
schedules of the two searches. -/
theorem more_source_filters_findings (before after : Workspace) (ns : Namespace)
    (directories : List Text) (storyboard storyboard' : Bool) (limit limit' : Option Int)
    (report report' : Report) (log log' : Log) (hn : '\n' ∉ ns.name)
    (more : before.AddsSources after directories) (asked : storyboard = true → storyboard' = true)
    (first : before.Finds ns directories storyboard limit (.ok report) log)
    (second : after.Finds ns directories storyboard' limit' (.ok report') log') :
    (∀ path, report'.identifiersOf path = (report.identifiersOf path).filter
      (Key.IsUnused ns (before.addedSources after directories storyboard storyboard'))) ∧
    ∀ path, path ∈ report'.paths ↔ path ∈ report.paths ∧
      ∃ identifier ∈ report.identifiersOf path, Key.IsUnused ns
        (before.addedSources after directories storyboard storyboard') identifier := by
  obtain ⟨sources, strings, enters⟩ := succeeds_of_finds first
  obtain ⟨-, -, enters'⟩ := succeeds_of_finds second
  have selected : ∀ path, path ∈ after.stringsFiles directories ↔
      path ∈ before.stringsFiles directories := fun path =>
    ⟨more.mem_stringsFiles, fun hp => more.mem_findFiles (List.Subset.refl _) (strings path hp) hp⟩
  have filtered : ∀ path, report'.identifiersOf path = (report.identifiersOf path).filter
      (Key.IsUnused ns (before.addedSources after directories storyboard storyboard')) := by
    intro path
    rw [enters.identifiersOf, enters'.identifiersOf]
    simp only [selected]
    split
    next hp =>
      have text : after.textOf path = before.textOf path := by
        rw [textOf, textOf, more.readText (strings path hp)]
      rw [abandonedIn_eq hn, abandonedIn_eq hn, text, List.filter_filter]
      apply List.filter_congr
      intro identifier _
      rw [← Bool.decide_and, decide_eq_decide, more.isUnused_iff asked sources, and_comm]
    next => rfl
  refine ⟨filtered, ?_⟩
  intro path
  rw [enters'.mem_paths_iff, enters.mem_paths_iff, filtered, ne_eq, List.filter_eq_nil_iff]
  push Not
  constructor
  · rintro ⟨identifier, hi, unused⟩
    exact ⟨List.ne_nil_of_mem hi, identifier, hi, of_decide_eq_true unused⟩
  · rintro ⟨-, identifier, hi, unused⟩
    exact ⟨identifier, hi, decide_eq_true unused⟩

def shelf : Table Node :=
  [(['r'], .directory [("c.strings".toList, .file (Encoding.Utf8.encode
      "\"key\"\n\"used\"\n\"shown\"\n\"key\"".toList))]),
    (['s'], .directory [("v.storyboard".toList,
      .file (Encoding.Utf8.encode "text=\"@shown\"".toList))])]

def swiftFile : Table Node :=
  [("d.swift".toList, .file (Encoding.Utf8.encode "L10n.used".toList))]

def shelfAlone : Workspace where
  tree := .directory shelf
  here := []
  environment := []

def shelfWithSource : Workspace where
  tree := .directory (shelf ++ [(['n'], .directory swiftFile)])
  here := []
  environment := []

theorem two_workers : ∀ n, some (2 : Int) = some n → 0 < n := by
  intro n h
  obtain rfl : 2 = n := by simpa using h
  decide

theorem shelf_directories :
    shelfAlone.directory? ['r'] = Table.get? ['r'] shelf ∧
    shelfAlone.directory? ['s'] = Table.get? ['s'] shelf ∧
    shelfAlone.directory? ['n'] = none ∧
    shelfWithSource.directory? ['r'] = Table.get? ['r'] shelf ∧
    shelfWithSource.directory? ['s'] = Table.get? ['s'] shelf ∧
    shelfWithSource.directory? ['n'] = some (.directory swiftFile) := by
  refine ⟨?_, ?_, ?_, ?_, ?_, ?_⟩ <;> cbv

theorem shelf_files : shelfAlone.sourceFiles [['r'], ['s'], ['n']] false = [] ∧
    shelfAlone.stringsFiles [['r'], ['s'], ['n']] = ["r/c.strings".toList] ∧
    shelfWithSource.sourceFiles [['r'], ['s'], ['n']] true =
      ["s/v.storyboard".toList, "n/d.swift".toList] ∧
    shelfWithSource.stringsFiles [['r'], ['s'], ['n']] = ["r/c.strings".toList] := by
  obtain ⟨hr, hs, hn, hr', hs', hn'⟩ := shelf_directories
  simp only [sourceFiles, stringsFiles, findFiles, List.flatMap_cons, List.flatMap_nil, filesBelow,
    hr, hs, hn, hr', hs', hn']
  decide +kernel

theorem shelf_texts : shelfAlone.readText "r/c.strings".toList =
      .ok "\"key\"\n\"used\"\n\"shown\"\n\"key\"".toList ∧
    shelfWithSource.readText "r/c.strings".toList =
      .ok "\"key\"\n\"used\"\n\"shown\"\n\"key\"".toList ∧
    shelfWithSource.readText "s/v.storyboard".toList = .ok "text=\"@shown\"".toList ∧
    shelfWithSource.readText "n/d.swift".toList = .ok "L10n.used".toList := by
  refine ⟨?_, ?_, ?_, ?_⟩ <;> cbv

theorem shelfWithSource_readable :
    ∀ path ∈ shelfWithSource.selectedFiles [['r'], ['s'], ['n']] true,
      shelfWithSource.Readable path := by
  obtain ⟨-, -, sources, strings⟩ := shelf_files
  obtain ⟨-, content, storyboard, swift⟩ := shelf_texts
  rw [selectedFiles, sources, strings]
  exact List.forall_mem_cons.mpr ⟨readable_of_ok storyboard, List.forall_mem_cons.mpr
    ⟨readable_of_ok swift, List.forall_mem_singleton.mpr (readable_of_ok content)⟩⟩

theorem shelf_addsSources :
    shelfAlone.AddsSources shelfWithSource [['r'], ['s'], ['n']] where
  here := rfl
  tree := by
    have newDirectory : Node.Grows Path.isSource (.directory shelf)
        (.directory (Table.set ['n'] (.directory []) shelf)) := .addDirectory (by decide)
    have inNew : Node.Grows Path.isSource (.directory []) (.directory swiftFile) :=
      .addFile rfl (by decide +kernel) rfl
    have inTree : Node.Grows Path.isSource
        (.directory (Table.set ['n'] (.directory []) shelf)) (.directory
          (Table.set ['n'] (.directory swiftFile) (Table.set ['n'] (.directory []) shelf))) :=
      .within rfl inNew
    exact newDirectory.trans inTree
  roots := by
    obtain ⟨hr, hs, -, -, -, hn'⟩ := shelf_directories
    intro path hp missing
    simp only [List.mem_cons, List.not_mem_nil, or_false] at hp
    rcases hp with rfl | rfl | rfl
    · cases hr.symm.trans missing
    · cases hs.symm.trans missing
    · rw [filesBelow, hn']
      decide +kernel

theorem more_source_filters_findings_shelf :
    '\n' ∉ Namespace.standard.name ∧
    shelfAlone.AddsSources shelfWithSource [['r'], ['s'], ['n']] ∧ (false = true → true = true) ∧
    ∃ report report' log log',
      shelfAlone.Finds .standard [['r'], ['s'], ['n']] false (some 2) (.ok report) log ∧
      shelfWithSource.Finds .standard [['r'], ['s'], ['n']] true none (.ok report') log' ∧
      report.identifiersOf "r/c.strings".toList =
        ["key".toList, "used".toList, "shown".toList, "key".toList] ∧
      report'.identifiersOf "r/c.strings".toList = ["key".toList, "key".toList] := by
  have hn : '\n' ∉ Namespace.standard.name := by decide
  obtain ⟨sources, strings, sources', -⟩ := shelf_files
  obtain ⟨content, -, storyboard, swift⟩ := shelf_texts
  have readable : ∀ path ∈ shelfAlone.selectedFiles [['r'], ['s'], ['n']] false,
      shelfAlone.Readable path := by
    rw [selectedFiles, sources, strings]
    exact List.forall_mem_singleton.mpr (readable_of_ok content)
  have first := shelfAlone.findAbandoned_finds .standard [['r'], ['s'], ['n']] false (some 2)
  have second := shelfWithSource.findAbandoned_finds .standard [['r'], ['s'], ['n']] true none
  obtain ⟨report, ho⟩ := exists_report_of_readable two_workers readable first
  obtain ⟨report', ho'⟩ := exists_report_of_readable (by simp) shelfWithSource_readable second
  rw [ho] at first
  rw [ho'] at second
  have listed : report.identifiersOf "r/c.strings".toList =
      ["key".toList, "used".toList, "shown".toList, "key".toList] := by
    rw [(succeeds_of_finds first).enters.identifiersOf, abandonedIn, sources, strings,
      textOf_eq content]
    decide +kernel
  obtain ⟨filtered, -⟩ := more_source_filters_findings shelfAlone shelfWithSource .standard
    [['r'], ['s'], ['n']] false true (some 2) none report report' _ _ hn shelf_addsSources
    (fun _ => rfl) first second
  have added : shelfAlone.addedSources shelfWithSource [['r'], ['s'], ['n']] false true =
      ["text=\"@shown\"".toList, "L10n.used".toList] := by
    rw [addedSources, sources, sources']
    change [shelfWithSource.textOf "s/v.storyboard".toList,
      shelfWithSource.textOf "n/d.swift".toList] = _
    rw [textOf_eq storyboard, textOf_eq swift]
  refine ⟨hn, shelf_addsSources, fun _ => rfl, report, report', _, _, first, second, listed, ?_⟩
  rw [filtered, listed, added]
  decide +kernel

theorem mem_findFiles_congr {extensions : List Text}
    (same : ∀ path, path ∈ directories ↔ path ∈ others) :
    path ∈ ws.findFiles extensions directories ↔ path ∈ ws.findFiles extensions others := by
  simp only [Workspace.mem_findFiles, same]

/-- Searches that succeed give the same table for the same roots, in any order and number. -/
theorem Succeeds.get?_eq {report report' : Report} (hn : '\n' ∉ ns.name)
    (h : ws.Succeeds ns directories storyboard report)
    (h' : ws.Succeeds ns others storyboard report')
    (same : ∀ path, path ∈ directories ↔ path ∈ others) (path : Text) :
    report.findings.get? path = report'.findings.get? path := by
  refine h.enters.get?_eq h'.enters (fun _ => mem_findFiles_congr same) ?_ path
  intro path _
  rw [abandonedIn_eq hn, abandonedIn_eq hn]
  apply List.filter_congr
  intro identifier _
  rw [decide_eq_decide]
  apply Key.isUnused_congr
  simp only [List.mem_map, mem_findFiles_congr same, implies_true]

/-- Searches below the same roots, in any order and with any repetitions, all find the same, or
all fail to read a file, whatever their schedules and pools. -/
theorem searches_of_same_roots (ws : Workspace) (ns : Namespace) (directories others : List Text)
    (storyboard : Bool) (limit limit' : Option Int) (outcome outcome' : Except ScanFailure Report)
    (log log' : Log) (hn : '\n' ∉ ns.name) (hl : ∀ n, limit = some n → 0 < n)
    (hl' : ∀ n, limit' = some n → 0 < n) (same : ∀ path, path ∈ directories ↔ path ∈ others)
    (first : ws.Finds ns directories storyboard limit outcome log)
    (second : ws.Finds ns others storyboard limit' outcome' log') :
    (∃ report report', outcome = .ok report ∧ outcome' = .ok report' ∧
      ∀ path, report.findings.get? path = report'.findings.get? path) ∨
    ∃ failure failure', outcome = .error (.unreadable failure) ∧
      outcome' = .error (.unreadable failure') ∧
      (ws.tree.NulFree → failure.IsFatal ∧ failure'.IsFatal) := by
  have selected : (∀ path ∈ ws.selectedFiles others storyboard, ws.Readable path) ↔
      ∀ path ∈ ws.selectedFiles directories storyboard, ws.Readable path := by
    simp only [selectedFiles, List.mem_append, mem_findFiles_congr same]
  -- which file a search fails on may differ, but not whether there is one to fail on
  by_cases readable : ∀ path ∈ ws.selectedFiles directories storyboard, ws.Readable path
  · obtain ⟨report, rfl⟩ := exists_report_of_readable hl readable first
    obtain ⟨report', rfl⟩ := exists_report_of_readable hl' (selected.mpr readable) second
    have succeeds := succeeds_of_finds first
    exact .inl ⟨report, report', rfl, rfl, succeeds.get?_eq hn (succeeds_of_finds second) same⟩
  · obtain ⟨failure, ho, fails⟩ := exists_failure_of_not_readable hl readable first
    obtain ⟨failure', ho', fails'⟩ :=
      exists_failure_of_not_readable hl' (mt selected.mp readable) second
    exact .inr ⟨failure, failure', ho, ho',
      fun clean => ⟨fails.isFatal clean, fails'.isFatal clean⟩⟩

theorem searches_of_same_roots_shelf :
    '\n' ∉ Namespace.standard.name ∧ (∀ n, some (2 : Int) = some n → 0 < n) ∧
    (∀ n, (none : Option Int) = some n → 0 < n) ∧
    (∀ path : Text, path ∈ [['r'], ['s'], ['n']] ↔ path ∈ [['n'], ['r'], ['s'], ['r']]) ∧
    ∃ report report' log log',
      shelfWithSource.Finds .standard [['r'], ['s'], ['n']] true (some 2) (.ok report) log ∧
      shelfWithSource.Finds .standard [['n'], ['r'], ['s'], ['r']] true none (.ok report') log' ∧
      ∀ path, report.findings.get? path = report'.findings.get? path := by
  have hn : '\n' ∉ Namespace.standard.name := by decide
  have hl' : ∀ n, (none : Option Int) = some n → 0 < n := by simp
  have same : ∀ path : Text,
      path ∈ [['r'], ['s'], ['n']] ↔ path ∈ [['n'], ['r'], ['s'], ['r']] := by
    intro path
    simp only [List.mem_cons, List.not_mem_nil, or_false]
    tauto
  have first := shelfWithSource.findAbandoned_finds .standard [['r'], ['s'], ['n']] true (some 2)
  have second :=
    shelfWithSource.findAbandoned_finds .standard [['n'], ['r'], ['s'], ['r']] true none
  obtain ⟨report, ho⟩ := exists_report_of_readable two_workers shelfWithSource_readable first
  refine ⟨hn, two_workers, hl', same, ?_⟩
  rcases searches_of_same_roots shelfWithSource .standard _ _ true (some 2) none _ _ _ _ hn
    two_workers hl' same first second with ⟨_, report', ho, ho', found⟩ | ⟨_, _, ho', -⟩
  · rw [ho] at first
    rw [ho'] at second
    exact ⟨_, report', _, _, first, second, found⟩
  · rw [ho] at ho'
    cases ho'

end Workspace

end StringsAudit
