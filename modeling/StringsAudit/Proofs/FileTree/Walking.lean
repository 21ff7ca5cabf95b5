import StringsAudit.Source

/-!
# What a walk shows

The paths that a walk lists are those of the wanted files below its directory, through entries
that may be entered. No name in a file tree holds a NUL, so no path that is listed holds one.
-/

set_option autoImplicit false

namespace StringsAudit

namespace Path

theorem isWanted_iff {extensions : List Text} {name : Text} :
    isWanted extensions name = true ↔
      normalExtension (suffix name) ∈ extensions.map normalExtension := by
  rw [isWanted, List.contains_iff_mem]

end Path

namespace Node

variable {root node : Node} {here : Location} {wanted : Text → Bool} {base path : Text}
  {entries : List (Text × Node)}

inductive Shows (root : Node) (here : Location) (wanted : Text → Bool) : Text → Node → Text → Prop
  | own {base name : Text} {node : Node} {entries : List (Text × Node)}
      (short : Path.isTooLong base = false) (entry : (name, node) ∈ entries)
      (file : countsAsDirectory root here (Path.join base name) node = false)
      (wants : wanted name = true) :
      Shows root here wanted base (directory entries) (Path.join base name)
  | deeper {base name path : Text} {node : Node} {entries : List (Text × Node)}
      (short : Path.isTooLong base = false) (entry : (name, node) ∈ entries)
      (entered : name ≠ excludedName)
      (shown : Shows root here wanted (Path.join base name) node path) :
      Shows root here wanted base (directory entries) path

theorem mem_ownFiles {name : Text} :
    name ∈ ownFiles root here wanted base entries ↔
      ∃ node, (name, node) ∈ entries ∧
        countsAsDirectory root here (Path.join base name) node = false ∧ wanted name = true := by
  rw [ownFiles, (Text.sort_perm _).mem_iff, List.mem_map]
  constructor
  · rintro ⟨⟨name, node⟩, hm, rfl⟩
    obtain ⟨entry, hc⟩ := List.mem_filter.mp hm
    rw [Bool.and_eq_true, Bool.not_eq_true'] at hc
    exact ⟨node, entry, hc⟩
  · rintro ⟨node, entry, file, wants⟩
    exact ⟨(name, node), List.mem_filter.mpr ⟨entry, by simp [file, wants]⟩, rfl⟩

/-- A link that leads nowhere is shown as a file. -/
theorem walk_link {name target : Text} (short : Path.isTooLong base = false)
    (entered : name ≠ excludedName) (nowhere : root.find? here (Path.join base name) = none) :
    walk root here wanted base (directory [(name, link target)]) =
      if wanted name then [Path.join base name] else [] := by
  have counts : countsAsDirectory root here (Path.join base name) (link target) = false := by
    rw [countsAsDirectory, nowhere]
    rfl
  rw [walk, short, walkEntries, if_neg entered, walk, walkEntries, ownFiles]
  by_cases wants : wanted name = true
  · simp [counts, wants, Text.sort]
  · simp [counts, wants, Text.sort]

theorem mem_walkEntries {below : Text × List Text} :
    below ∈ walkEntries root here wanted base entries ↔
      ∃ node, (below.1, node) ∈ entries ∧ below.1 ≠ excludedName ∧
        below.2 = walk root here wanted (Path.join base below.1) node := by
  induction entries with
  | nil => simp [walkEntries]
  | cons entry entries ih =>
    obtain ⟨name, node⟩ := entry
    rw [walkEntries]
    split
    next hx =>
      rw [ih]
      constructor
      · rintro ⟨child, hm, hb⟩
        exact ⟨child, List.mem_cons_of_mem _ hm, hb⟩
      · rintro ⟨child, hm, hb⟩
        rcases List.mem_cons.mp hm with he | hm
        · exact absurd ((Prod.mk.inj he).1.trans hx) hb.1
        · exact ⟨child, hm, hb⟩
    next hx =>
      rw [List.mem_cons, ih]
      constructor
      · rintro (rfl | ⟨child, hm, hb⟩)
        · exact ⟨node, List.mem_cons_self, hx, rfl⟩
        · exact ⟨child, List.mem_cons_of_mem _ hm, hb⟩
      · rintro ⟨child, hm, hb⟩
        rcases List.mem_cons.mp hm with he | hm
        · obtain ⟨rfl, rfl⟩ := Prod.mk.inj he
          exact .inl (Prod.ext rfl hb.2)
        · exact .inr ⟨child, hm, hb⟩

theorem mem_walk_directory :
    path ∈ walk root here wanted base (directory entries) ↔
      Path.isTooLong base = false ∧ ∃ name node, (name, node) ∈ entries ∧
        ((countsAsDirectory root here (Path.join base name) node = false ∧ wanted name = true ∧
            path = Path.join base name) ∨
          (name ≠ excludedName ∧ path ∈ walk root here wanted (Path.join base name) node)) := by
  rw [walk]
  cases hb : Path.isTooLong base with
  | true => simp
  | false =>
    simp only [Bool.false_eq_true, if_false, List.mem_append, List.mem_map, mem_ownFiles,
      List.mem_flatMap, List.mem_mergeSort, mem_walkEntries, true_and]
    constructor
    · rintro (⟨name, ⟨node, entry, file, wants⟩, rfl⟩ | ⟨below, ⟨node, entry, hx, he⟩, hp⟩)
      · exact ⟨name, node, entry, .inl ⟨file, wants, rfl⟩⟩
      · exact ⟨below.1, node, entry, .inr ⟨hx, he ▸ hp⟩⟩
    · rintro ⟨name, node, entry, ⟨file, wants, rfl⟩ | ⟨hx, hp⟩⟩
      · exact .inl ⟨name, ⟨node, entry, file, wants⟩, rfl⟩
      · exact .inr ⟨(name, _), ⟨node, entry, hx, rfl⟩, hp⟩

theorem shows_of_mem_walk (root : Node) (here : Location) (wanted : Text → Bool) (path : Text) :
    ∀ (node : Node) (base : Text), path ∈ walk root here wanted base node →
      Shows root here wanted base node path
  | file _, _, h | link _, _, h => by simp [walk] at h
  | directory entries, base, h => by
    obtain ⟨short, name, node, entry, ⟨file, wants, rfl⟩ | ⟨entered, hp⟩⟩ := mem_walk_directory.mp h
    · exact .own short entry file wants
    · exact .deeper short entry entered (shows_of_mem_walk root here wanted path node _ hp)
  termination_by node => sizeOf node
  decreasing_by
    have he := List.sizeOf_lt_of_mem entry
    simp only [Prod.mk.sizeOf_spec, directory.sizeOf_spec] at he ⊢
    omega

theorem mem_walk_iff :
    path ∈ walk root here wanted base node ↔ Shows root here wanted base node path := by
  constructor
  · exact shows_of_mem_walk root here wanted path node base
  · intro h
    induction h with
    | own short entry file wants =>
      exact mem_walk_directory.mpr ⟨short, _, _, entry, .inl ⟨file, wants, rfl⟩⟩
    | deeper short entry entered _ ih =>
      exact mem_walk_directory.mpr ⟨short, _, _, entry, .inr ⟨entered, ih⟩⟩

inductive NulFree : Node → Prop
  | file (content : Bytes) : NulFree (file content)
  | link (target : Text) : NulFree (link target)
  | directory {entries : List (Text × Node)} (names : ∀ entry ∈ entries, '\x00' ∉ entry.1)
      (below : ∀ entry ∈ entries, NulFree entry.2) : NulFree (directory entries)

theorem NulFree.at? {place : Location} (h : NulFree root) (hn : root.at? place = some node) :
    NulFree node := by
  induction place generalizing root with
  | nil =>
    rw [at?_nil] at hn
    exact Option.some.inj hn ▸ h
  | cons name place ih =>
    rw [Node.at?] at hn
    split at hn
    next child hc =>
      cases h with
      | file => simp [Node.entries, Table.get?] at hc
      | link => simp [Node.entries, Table.get?] at hc
      | directory _ below => exact ih (below _ (Table.mem_of_get? hc)) hn
    next => cases hn

theorem not_mem_join {c : Char} {name : Text} (hb : c ∉ base) (hn : c ∉ name) (hs : c ≠ '/') :
    c ∉ Path.join base name := by
  rw [Path.join]
  split <;> simp [hb, hn, hs]

theorem NulFree.not_mem_of_shows (h : NulFree node) (hb : '\x00' ∉ base)
    (shown : Shows root here wanted base node path) : '\x00' ∉ path := by
  induction shown with
  | own _ entry _ _ =>
    cases h with
    | directory names _ => exact not_mem_join hb (names _ entry) (by decide)
  | deeper _ entry _ _ ih =>
    cases h with
    | directory names below =>
      exact ih (below _ entry) (not_mem_join hb (names _ entry) (by decide))

end Node

namespace Workspace

variable {ws : Workspace} {extensions directories : List Text} {path : Text} {node : Node}

theorem mem_filesBelow {base : Text} :
    path ∈ ws.filesBelow extensions base ↔ ∃ node, ws.directory? base = some node ∧
      Node.Shows ws.tree ws.here (Path.isWanted extensions) base node path := by
  rw [filesBelow]
  cases ws.directory? base with
  | none => simp
  | some node => simp [Node.mem_walk_iff]

theorem mem_findFiles :
    path ∈ ws.findFiles extensions directories ↔
      ∃ base ∈ directories, path ∈ ws.filesBelow extensions base := List.mem_flatMap

/-- A directory that a path leads to stands at some place in the tree. -/
theorem directory?_eq_some_iff :
    ws.directory? path = some node ↔
      ∃ place, Path.locate ws.tree false ws.here path = .ok place ∧
        ws.tree.at? place = some node ∧ node.isDirectory = true := by
  rw [directory?, Option.filter_eq_some_iff, find?, Node.find?]
  cases Path.locate ws.tree false ws.here path with
  | error fault => simp
  | ok place => simp [Function.comp_def]

theorem not_mem_of_findFiles (h : ws.tree.NulFree)
    (hp : path ∈ ws.findFiles extensions directories) : '\x00' ∉ path := by
  obtain ⟨base, -, hb⟩ := mem_findFiles.mp hp
  obtain ⟨node, hd, shown⟩ := mem_filesBelow.mp hb
  obtain ⟨place, hl, ha, -⟩ := directory?_eq_some_iff.mp hd
  have hn : '\x00' ∉ base := by
    intro hm
    simp [Path.locate, hm] at hl
  exact (h.at? ha).not_mem_of_shows hn shown

end Workspace

end StringsAudit
