import Mathlib.Data.List.TakeWhile
import StringsAudit.Proofs.FileTree.Growth
import StringsAudit.Proofs.FileTree.Spots

/-!
# Selected files

A search selects the files below a directory that are reached through its own subdirectories and
theirs, none of them excluded, and whose names have a wanted suffix. What it selects does not
depend on the order in which a directory holds its entries.
-/

set_option autoImplicit false

namespace StringsAudit

namespace Path

variable {name extension stem : Text}

inductive HasSuffix : Text → Text → Prop
  | dotless {name : Text} (absent : '.' ∉ name) : HasSuffix name []
  | hidden {rest : Text} (only : '.' ∉ rest) : HasSuffix ('.' :: rest) []
  | closed (stem : Text) : HasSuffix (stem ++ ['.']) []
  | dotted {stem extension : Text} (front : stem ≠ []) (back : extension ≠ [])
      (last : '.' ∉ extension) : HasSuffix (stem ++ '.' :: extension) ('.' :: extension)

theorem suffix_of_not_mem (h : '.' ∉ name) : suffix name = [] := by
  have all : name.reverse.takeWhile (· ≠ '.') = name.reverse := by
    rw [List.takeWhile_eq_self_iff]
    intro c hc
    rw [decide_eq_true_eq]
    rintro rfl
    exact h (List.mem_reverse.mp hc)
  simp only [suffix, all, List.reverse_reverse]
  simp

theorem suffix_append (h : '.' ∉ extension) :
    suffix (stem ++ '.' :: extension) =
      if extension = [] ∨ stem = [] then [] else '.' :: extension := by
  have run : (stem ++ '.' :: extension).reverse.takeWhile (· ≠ '.') = extension.reverse := by
    have members : ∀ c ∈ extension.reverse, decide (c ≠ '.') = true := by
      intro c hc
      rw [decide_eq_true_eq]
      rintro rfl
      exact h (List.mem_reverse.mp hc)
    rw [List.reverse_append, List.reverse_cons, List.append_assoc,
      List.takeWhile_append_of_pos members]
    simp
  have front : (stem ++ '.' :: extension).take
      ((stem ++ '.' :: extension).length - extension.length - 1) = stem := by
    rw [List.take_append_of_le_length (by simp; omega), List.take_of_length_le (by simp; omega)]
  simp only [suffix, run, List.reverse_reverse, front]

theorem suffix_eq_of_hasSuffix {found : Text} (h : HasSuffix name found) : suffix name = found := by
  cases h with
  | dotless absent => exact suffix_of_not_mem absent
  | @hidden rest only =>
    have hs : suffix ([] ++ '.' :: rest) = _ := suffix_append only
    simpa using hs
  | closed => exact (suffix_append (by simp)).trans (by simp)
  | dotted front back last => exact (suffix_append last).trans (by simp [front, back])

theorem hasSuffix_suffix (name : Text) : HasSuffix name (suffix name) := by
  by_cases hd : '.' ∈ name
  · obtain ⟨back, front, hr, last⟩ := List.eq_append_cons_of_mem (List.mem_reverse.mpr hd)
    have hn : name = front.reverse ++ '.' :: back.reverse := by
      rw [← name.reverse_reverse, hr]
      simp
    have hl : '.' ∉ back.reverse := mt List.mem_reverse.mp last
    rw [hn, suffix_append hl]
    by_cases hb : back.reverse = []
    · rw [if_pos (.inl hb), hb]
      exact .closed _
    · by_cases hf : front.reverse = []
      · rw [if_pos (.inr hf), hf]
        exact .hidden hl
      · rw [if_neg (by simp [hb, hf])]
        exact .dotted hf hb hl
  · rw [suffix_of_not_mem hd]
    exact .dotless hd

theorem isWanted_iff_hasSuffix {extensions : List Text} :
    isWanted extensions name = true ↔ ∃ found, HasSuffix name found ∧
      normalExtension found ∈ extensions.map normalExtension := by
  rw [isWanted_iff]
  constructor
  · exact fun h => ⟨_, hasSuffix_suffix name, h⟩
  · rintro ⟨found, hs, h⟩
    rwa [suffix_eq_of_hasSuffix hs]

end Path

namespace Node

variable {root other top node : Node} {here : Location} {extensions : List Text}
  {base path name : Text} {spot : Spot} {entries : List (Text × Node)}

inductive Proper : Node → Prop
  | file (content : Bytes) : Proper (file content)
  | link (target : Text) : Proper (link target)
  | directory {entries : List (Text × Node)} (distinct : (Table.names entries).Nodup)
      (names : ∀ entry ∈ entries, Path.IsName entry.1)
      (below : ∀ entry ∈ entries, Proper entry.2) : Proper (directory entries)

theorem Proper.at? {place : Location} (h : Proper root) (hn : root.at? place = some node) :
    Proper node ∧ ∀ name ∈ place, Path.IsName name := by
  induction place generalizing root with
  | nil =>
    obtain rfl := Option.some.inj ((at?_nil root).symm.trans hn)
    exact ⟨h, by simp⟩
  | cons name place ih =>
    obtain ⟨entries, child, rfl, entry, hc⟩ := exists_of_at?_cons hn
    cases h with
    | directory _ names below =>
      have hm := Table.mem_of_get? entry
      obtain ⟨proper, rest⟩ := ih (below _ hm) hc
      exact ⟨proper, List.forall_mem_cons.mpr ⟨names _ hm, rest⟩⟩

theorem Proper.of_perm {entries' : List (Text × Node)} (h : Proper (Node.directory entries))
    (perm : entries.Perm entries') : Proper (Node.directory entries') := by
  cases h with
  | directory distinct names below =>
    exact .directory ((perm.map Prod.fst).nodup_iff.mp distinct)
      (fun entry he => names entry (perm.mem_iff.mpr he))
      (fun entry he => below entry (perm.mem_iff.mpr he))

def LeadsTo (root : Node) (here : Location) (path : Text) (node : Node) : Prop :=
  ('\x00' ∉ path ∧ path ≠ [] ∧ Path.isTooLong path = false) ∧
    ∃ place, Path.Leads root false Path.linkLimit (Path.start here path) (Path.components path)
      place ∧ root.at? place = some node

theorem find?_eq_some_iff {place : Location} : root.find? here path = some (place, node) ↔
    Path.locate root false here path = .ok place ∧ root.at? place = some node := by
  rw [find?]
  cases Path.locate root false here path with
  | error fault => simp
  | ok located =>
    simp only [Option.map_eq_some_iff, Prod.mk.injEq, Except.ok.injEq]
    constructor
    · rintro ⟨_, ha, rfl, rfl⟩
      exact ⟨rfl, ha⟩
    · rintro ⟨rfl, ha⟩
      exact ⟨node, ha, rfl, rfl⟩

theorem leadsTo_iff : root.LeadsTo here path node ↔
    ∃ place, root.find? here path = some (place, node) := by
  simp only [LeadsTo, find?_eq_some_iff, Path.locate_eq_ok_iff, and_assoc, exists_and_left]

theorem LeadsTo.unique {found : Node} (h : root.LeadsTo here path node)
    (ho : root.LeadsTo here path found) : node = found := by
  obtain ⟨place, hn⟩ := leadsTo_iff.mp h
  obtain ⟨place', hf⟩ := leadsTo_iff.mp ho
  exact (Prod.mk.inj (Option.some.inj (hn.symm.trans hf))).2

theorem LeadsTo.proper (leads : root.LeadsTo here path node) (h : Proper root) : Proper node := by
  obtain ⟨-, place, -, ha⟩ := leads
  exact (h.at? ha).1

inductive IsDirectoryAt (root : Node) (here : Location) (path : Text) : Node → Prop
  | itself {entries : List (Text × Node)} : IsDirectoryAt root here path (directory entries)
  | linked {target : Text} {entries : List (Text × Node)}
      (leads : root.LeadsTo here path (directory entries)) :
      IsDirectoryAt root here path (link target)

theorem countsAsDirectory_iff :
    countsAsDirectory root here path node = true ↔ root.IsDirectoryAt here path node := by
  cases node with
  | file => exact ⟨(fun h => nomatch h), (fun h => nomatch h)⟩
  | directory => exact ⟨fun _ => .itself, fun _ => rfl⟩
  | link target =>
    rw [countsAsDirectory_link]
    constructor
    · rintro ⟨place, found, hf, hd⟩
      cases found with
      | directory entries => exact .linked (leadsTo_iff.mpr ⟨place, hf⟩)
      | file => cases hd
      | link => cases hd
    · intro h
      cases h with
      | linked leads =>
        obtain ⟨place, hf⟩ := leadsTo_iff.mp leads
        exact ⟨place, _, hf, rfl⟩

structure Selects (root : Node) (here : Location) (extensions : List Text) (base : Text)
    (top : Node) (spot : Spot) : Prop where
  taken : ∃ node, top.at? spot.place = some node ∧ ¬ root.IsDirectoryAt here (spot.path base) node
  entered : excludedName ∉ spot.above
  wanted : ∃ suffix, Path.HasSuffix spot.name suffix ∧
    Path.normalExtension suffix ∈ extensions.map Path.normalExtension

theorem not_isDirectoryAt_iff :
    countsAsDirectory root here path node = false ↔ ¬ root.IsDirectoryAt here path node := by
  rw [← countsAsDirectory_iff, Bool.not_eq_true]

theorem selects_own_iff (distinct : (Table.names entries).Nodup) :
    Selects root here extensions base (directory entries) ⟨[], name⟩ ↔
      ∃ node, (name, node) ∈ entries ∧
        countsAsDirectory root here (Path.join base name) node = false ∧
        Path.isWanted extensions name = true := by
  have found : (directory entries).at? [name] = Table.get? name entries := by
    rw [at?_cons]
    simp [Node.entries, at?_nil]
  constructor
  · intro h
    obtain ⟨node, hn, leaf⟩ := h.taken
    exact ⟨node, (Table.mem_iff_get? distinct).mpr (found.symm.trans hn),
      not_isDirectoryAt_iff.mpr leaf, Path.isWanted_iff_hasSuffix.mpr h.wanted⟩
  · rintro ⟨node, hm, leaf, wanted⟩
    exact ⟨⟨node, found.trans ((Table.mem_iff_get? distinct).mp hm), not_isDirectoryAt_iff.mp leaf⟩,
      by simp, Path.isWanted_iff_hasSuffix.mp wanted⟩

theorem selects_inside_iff (distinct : (Table.names entries).Nodup) :
    Selects root here extensions base (directory entries) (spot.inside name) ↔
      name ≠ excludedName ∧ ∃ node, (name, node) ∈ entries ∧
        Selects root here extensions (Path.join base name) node spot := by
  constructor
  · intro h
    obtain ⟨node, hn, leaf⟩ := h.taken
    obtain ⟨entries', child, he, entry, hc⟩ := exists_of_at?_cons hn
    obtain rfl := directory.inj he
    obtain ⟨hname, rest⟩ := not_or.mp (mt List.mem_cons.mpr h.entered)
    exact ⟨Ne.symm hname, child, Table.mem_of_get? entry, ⟨node, hc, leaf⟩, rest, h.wanted⟩
  · rintro ⟨hname, child, hm, ⟨node, hc, leaf⟩, entered, wanted⟩
    have entry := (Table.mem_iff_get? distinct).mp hm
    have hn : (directory entries).at? (name :: spot.place) = some node := by
      rw [at?_cons]
      simpa [Node.entries, entry] using hc
    refine ⟨⟨node, hn, leaf⟩, ?_, wanted⟩
    rw [Spot.inside, List.mem_cons, not_or]
    exact ⟨Ne.symm hname, entered⟩

def Alike (root other : Node) : Prop :=
  ∀ place, (root.at? place).map bare = (other.at? place).map bare

theorem alike_of_perm {entries' : List (Text × Node)} (distinct : (Table.names entries).Nodup)
    (h : entries.Perm entries') : Alike (directory entries) (directory entries') := by
  have distinct' : (Table.names entries').Nodup := (h.map Prod.fst).nodup_iff.mp distinct
  intro place
  cases place with
  | nil => rfl
  | cons name rest =>
    have same : Table.get? name entries = Table.get? name entries' := by
      apply Option.ext
      intro node
      have hm : (name, node) ∈ entries ↔ (name, node) ∈ entries' := h.mem_iff
      rwa [Table.mem_iff_get? distinct, Table.mem_iff_get? distinct'] at hm
    rw [at?_cons, at?_cons, Node.entries, Node.entries, same]

theorem Alike.symm (h : Alike root other) : Alike other root := fun place => (h place).symm

theorem Alike.keeps (h : Alike root other) : Keeps root other := by
  intro place node hn
  have hb := h place
  rw [hn, Option.map_some] at hb
  exact Option.map_eq_some_iff.mp hb.symm

theorem Alike.at? {place : Location} {found : Node} (h : Alike root other)
    (hn : root.at? place = some node) (ho : other.at? place = some found) : Alike node found := by
  intro rest
  have hb := h (place ++ rest)
  rwa [at?_append, at?_append, hn, ho, Option.bind_some, Option.bind_some] at hb

theorem Alike.leadsTo (h : Alike root other) (leads : root.LeadsTo here path node) :
    ∃ found, other.LeadsTo here path found ∧ Alike node found := by
  obtain ⟨valid, place, names, hn⟩ := leads
  obtain ⟨found, ho, -⟩ := h.keeps place node hn
  exact ⟨found, ⟨valid, place, h.keeps.leads names, ho⟩, h.at? hn ho⟩

theorem Alike.exists_directory (h : Alike (directory entries) node) :
    ∃ entries', node = directory entries' := by
  have hb := h []
  rw [at?_nil, at?_nil, Option.map_some, Option.map_some] at hb
  cases node with
  | directory entries' => exact ⟨entries', rfl⟩
  | file => cases Option.some.inj hb
  | link => cases Option.some.inj hb

theorem Alike.isDirectoryAt {found : Node} (h : Alike root other) (same : found.bare = node.bare)
    (hd : root.IsDirectoryAt here path node) : other.IsDirectoryAt here path found := by
  cases hd with
  | itself =>
    cases found with
    | directory => exact .itself
    | file => cases same
    | link => cases same
  | linked leads =>
    obtain rfl := bare_eq_link_iff.mp same
    obtain ⟨reached, leads', alike⟩ := h.leadsTo leads
    obtain ⟨entries', rfl⟩ := alike.exists_directory
    exact .linked leads'

/-- What is selected depends neither on the order of entries nor on how the extensions are
given. -/
theorem Alike.selects {top' : Node} {extensions' : List Text} (h : Alike root other)
    (below : Alike top top')
    (same : ∀ extension, extension ∈ extensions'.map Path.normalExtension ↔
      extension ∈ extensions.map Path.normalExtension)
    (selected : Selects root here extensions base top spot) :
    Selects other here extensions' base top' spot := by
  obtain ⟨⟨node, hn, leaf⟩, entered, found, hs, wanted⟩ := selected
  obtain ⟨node', hn', bareEq⟩ := below.keeps _ node hn
  refine ⟨⟨node', hn', fun hd => leaf ?_⟩, entered, found, hs, (same _).mpr wanted⟩
  exact h.symm.isDirectoryAt bareEq.symm hd

end Node

end StringsAudit
