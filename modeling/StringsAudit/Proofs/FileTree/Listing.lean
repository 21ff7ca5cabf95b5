import Mathlib
import StringsAudit.Proofs.FileTree.Selecting

/-!
# What a search lists

A search lists for each directory, in the order in which they are given, the paths of the selected
files in the order of their spots, each once. A path that leads to no directory is told and lists
nothing.
-/

set_option autoImplicit false

namespace StringsAudit

namespace Node

variable {root top : Node} {here : Location} {extensions : List Text} {wanted : Text → Bool}
  {base path : Text} {entries : List (Text × Node)}

theorem ownFiles_pairwise (distinct : (Table.names entries).Nodup) :
    (ownFiles root here wanted path entries).Pairwise (· < ·) := by
  apply Text.pairwise_lt_mergeSort_by id
  rw [List.map_id]
  exact (List.filter_sublist.map Prod.fst).nodup distinct

theorem walkEntries_sublist :
    ((walkEntries root here wanted path entries).map Prod.fst).Sublist (Table.names entries) := by
  induction entries with
  | nil => simp [walkEntries, Table.names]
  | cons entry entries ih =>
    obtain ⟨name, node⟩ := entry
    rw [walkEntries]
    split
    · exact ih.cons name
    · exact ih.cons_cons name

structure Presents (root : Node) (here : Location) (extensions : List Text) (base : Text)
    (top : Node) (spots : List Spot) (paths : List Text) : Prop where
  paths_eq : paths = spots.map (Spot.path base)
  ordered : spots.Pairwise Spot.Before
  mem_iff : ∀ spot, spot ∈ spots ↔ Selects root here extensions base top spot ∧
    Path.isTooLong (Path.below base spot.above) = false

theorem not_selects_of_leaf {spot : Spot} (leaf : top.isDirectory = false) :
    ¬ Selects root here extensions base top spot := by
  intro h
  obtain ⟨node, hn, -⟩ := h.taken
  obtain ⟨first, rest, hp⟩ := List.exists_cons_of_ne_nil (show spot.place ≠ [] by simp [Spot.place])
  rw [hp] at hn
  obtain ⟨_, _, rfl, -⟩ := exists_of_at?_cons hn
  cases leaf

theorem presents_of_leaf (leaf : top.isDirectory = false) :
    Presents root here extensions base top [] [] :=
  ⟨rfl, .nil, fun _ => by simp [not_selects_of_leaf leaf]⟩

theorem presents_of_tooLong (long : Path.isTooLong base = true) :
    Presents root here extensions base top [] [] := by
  refine ⟨rfl, .nil, fun spot => ?_⟩
  simp [Path.isTooLong_of_prefix (Path.prefix_below base spot.above) long]

theorem mem_map_inside {spots : List Spot} {d e name : Text} {more : Location} :
    ⟨d :: more, name⟩ ∈ spots.map (Spot.inside e) ↔ e = d ∧ ⟨more, name⟩ ∈ spots := by
  rw [List.mem_map]
  constructor
  · rintro ⟨⟨above, last⟩, hm, he⟩
    obtain ⟨rfl, rfl, rfl⟩ : e = d ∧ above = more ∧ last = name := by
      simpa [Spot.inside, and_assoc] using he
    exact ⟨rfl, hm⟩
  · rintro ⟨rfl, hm⟩
    exact ⟨_, hm, rfl⟩

/-- The spots of a directory are those of its own files and, for each subdirectory, the spots seen
from that. -/
theorem presents_directory (distinct : (Table.names entries).Nodup)
    (short : Path.isTooLong base = false) {own : List Text} {subs : List (Text × List Text)}
    {spotsOf : Text × List Text → List Spot} (ownOrdered : own.Pairwise (· < ·))
    (subsOrdered : subs.Pairwise fun a b => a.1 < b.1)
    (mem_own : ∀ name, name ∈ own ↔
      Selects root here extensions base (directory entries) ⟨[], name⟩)
    (presents : ∀ sub ∈ subs, ∃ node, (sub.1, node) ∈ entries ∧ sub.1 ≠ excludedName ∧
      Presents root here extensions (Path.join base sub.1) node (spotsOf sub) sub.2)
    (complete : ∀ name node, (name, node) ∈ entries → name ≠ excludedName →
      ∃ sub ∈ subs, sub.1 = name) :
    Presents root here extensions base (directory entries)
      (own.map (Spot.mk []) ++ subs.flatMap fun sub => (spotsOf sub).map (Spot.inside sub.1))
      (own.map (Path.join base) ++ subs.flatMap Prod.snd) where
  paths_eq := by
    rw [List.map_append, List.map_map, List.map_flatMap]
    congr 1
    apply List.flatMap_congr
    intro sub hs
    obtain ⟨_, -, -, shown⟩ := presents sub hs
    rw [List.map_map, shown.paths_eq]
    rfl
  ordered := by
    refine List.pairwise_append.mpr ⟨?_, List.pairwise_flatMap.mpr ⟨?_, ?_⟩, ?_⟩
    · exact List.pairwise_map.mpr (ownOrdered.imp .names)
    · intro sub hs
      obtain ⟨_, -, -, shown⟩ := presents sub hs
      exact List.pairwise_map.mpr (shown.ordered.imp .within)
    · refine subsOrdered.imp ?_
      intro sub other less s hs t ht
      obtain ⟨_, -, rfl⟩ := List.mem_map.mp hs
      obtain ⟨_, -, rfl⟩ := List.mem_map.mp ht
      exact .parting less
    · intro s hs t ht
      obtain ⟨_, -, rfl⟩ := List.mem_map.mp hs
      obtain ⟨_, -, ht⟩ := List.mem_flatMap.mp ht
      obtain ⟨_, -, rfl⟩ := List.mem_map.mp ht
      exact .deeper
  mem_iff := by
    rintro ⟨above, name⟩
    rw [List.mem_append, List.mem_flatMap]
    cases above with
    | nil =>
      have hb : Path.isTooLong (Path.below base []) = false := short
      rw [← mem_own, and_iff_left hb]
      simp [Spot.inside]
    | cons d more =>
      have outside : (⟨d :: more, name⟩ : Spot) ∉ own.map (Spot.mk []) := by simp
      have selects : Selects root here extensions base (directory entries)
          (Spot.inside d ⟨more, name⟩) ↔ _ := selects_inside_iff distinct
      constructor
      · rintro (hm | ⟨sub, hs, hm⟩)
        · exact absurd hm outside
        · obtain ⟨rfl, within⟩ := mem_map_inside.mp hm
          obtain ⟨node, entry, entered, shown⟩ := presents sub hs
          obtain ⟨selected, fits⟩ := (shown.mem_iff _).mp within
          exact ⟨selects.mpr ⟨entered, node, entry, selected⟩, fits⟩
      · rintro ⟨selected, fits⟩
        obtain ⟨entered, node, entry, selected⟩ := selects.mp selected
        obtain ⟨sub, hs, rfl⟩ := complete d node entry entered
        obtain ⟨node', entry', -, shown⟩ := presents sub hs
        rw [Table.mem_iff_get? distinct] at entry entry'
        obtain rfl : node = node' := Option.some.inj (entry.symm.trans entry')
        exact .inr ⟨sub, hs, mem_map_inside.mpr ⟨rfl, (shown.mem_iff _).mpr ⟨selected, fits⟩⟩⟩

/-- A walk presents the selected spots: the induction is on the tree, with any path for its
root. -/
theorem exists_presents (proper : Proper top) (root : Node) (here : Location)
    (extensions : List Text) (base : Text) :
    ∃ spots, Presents root here extensions base top spots
      (walk root here (Path.isWanted extensions) base top) := by
  induction proper generalizing base with
  | file content =>
    rw [walk]
    exact ⟨[], presents_of_leaf rfl⟩
  | link target =>
    rw [walk]
    exact ⟨[], presents_of_leaf rfl⟩
  | @directory entries distinct names below ih =>
    rw [walk]
    cases short : Path.isTooLong base with
    | true => exact ⟨[], presents_of_tooLong short⟩
    | false =>
      have shown : ∀ sub : Text × List Text, ∃ spots,
          sub ∈ walkEntries root here (Path.isWanted extensions) base entries →
            ∃ node, (sub.1, node) ∈ entries ∧ sub.1 ≠ excludedName ∧
              Presents root here extensions (Path.join base sub.1) node spots sub.2 := by
        intro sub
        by_cases hs : sub ∈ walkEntries root here (Path.isWanted extensions) base entries
        · obtain ⟨node, entry, entered, found⟩ := mem_walkEntries.mp hs
          obtain ⟨spots, presents⟩ := ih _ entry (Path.join base sub.1)
          exact ⟨spots, fun _ => ⟨node, entry, entered, found ▸ presents⟩⟩
        · exact ⟨[], fun h => absurd h hs⟩
      choose spotsOf presents using shown
      refine ⟨_, presents_directory distinct short (ownFiles_pairwise distinct)
        (Text.pairwise_lt_mergeSort_by Prod.fst (walkEntries_sublist.nodup distinct)) ?_
        (fun sub hs => presents sub (List.mem_mergeSort.mp hs)) ?_⟩
      · intro name
        rw [mem_ownFiles, selects_own_iff distinct]
      · intro name node entry entered
        have hs : (name, walk root here (Path.isWanted extensions) (Path.join base name) node) ∈
            walkEntries root here (Path.isWanted extensions) base entries :=
          mem_walkEntries.mpr ⟨node, entry, entered, rfl⟩
        exact ⟨_, List.mem_mergeSort.mpr hs, rfl⟩

variable {spots others : List Spot} {paths found : List Text}

theorem Presents.isName (proper : Proper top)
    (h : Presents root here extensions base top spots paths) :
    ∀ spot ∈ spots, ∀ name ∈ spot.place, Path.IsName name := by
  intro spot hs
  obtain ⟨node, hn, -⟩ := ((h.mem_iff spot).mp hs).1.taken
  exact (proper.at? hn).2

theorem Presents.nodup (proper : Proper top)
    (h : Presents root here extensions base top spots paths) : paths.Nodup := by
  rw [h.paths_eq]
  refine List.Nodup.map_on ?_ (Spot.nodup_of_pairwise_before h.ordered)
  intro spot hs other ho he
  exact Spot.path_injective (h.isName proper spot hs) (h.isName proper other ho) he

theorem Presents.path_mem_iff {spot : Spot} (proper : Proper top)
    (h : Presents root here extensions base top spots paths)
    (names : ∀ name ∈ spot.place, Path.IsName name) :
    spot.path base ∈ paths ↔ Selects root here extensions base top spot ∧
      Path.isTooLong (Path.below base spot.above) = false := by
  rw [h.paths_eq, List.mem_map, ← h.mem_iff]
  constructor
  · rintro ⟨other, ho, he⟩
    exact Spot.path_injective (h.isName proper other ho) names he ▸ ho
  · exact fun hs => ⟨spot, hs, rfl⟩

theorem Presents.eq (h : Presents root here extensions base top spots paths)
    (ho : Presents root here extensions base top others found) : paths = found := by
  have same : spots = others := by
    apply Spot.eq_of_pairwise_before h.ordered ho.ordered
    intro spot
    rw [h.mem_iff, ho.mem_iff]
  rw [h.paths_eq, ho.paths_eq, same]

end Node

namespace Workspace

variable {ws other : Workspace} {extensions extensions' : List Text} {base : Text}
  {found found' : List Text} {log log' : Log} {node : Node}

inductive Lists (ws : Workspace) (extensions : List Text) (base : Text) : List Text → Log → Prop
  | absent (nowhere : ∀ entries, ¬ ws.tree.LeadsTo ws.here base (.directory entries)) :
      Lists ws extensions base [] [.noDirectory base]
  | walked {entries : List (Text × Node)} {spots : List Spot} {paths : List Text}
      (leads : ws.tree.LeadsTo ws.here base (.directory entries))
      (presents : Node.Presents ws.tree ws.here extensions base (.directory entries) spots paths) :
      Lists ws extensions base paths []

theorem directory?_eq_some_iff_leadsTo :
    ws.directory? base = some node ↔
      ws.tree.LeadsTo ws.here base node ∧ node.isDirectory = true := by
  simp only [directory?_eq_some_iff, Node.leadsTo_iff, Node.find?_eq_some_iff]
  constructor
  · rintro ⟨place, hl, ha, hd⟩
    exact ⟨⟨place, hl, ha⟩, hd⟩
  · rintro ⟨⟨place, hl, ha⟩, hd⟩
    exact ⟨place, hl, ha, hd⟩

theorem findFiles_singleton (ws : Workspace) (extensions : List Text) (base : Text) :
    ws.findFiles extensions [base] = ws.filesBelow extensions base := by
  simp [findFiles]

theorem findFiles_eq_flatMap (ws : Workspace) (extensions directories : List Text) :
    ws.findFiles extensions directories =
      directories.flatMap fun base => ws.findFiles extensions [base] := by
  simp only [findFiles_singleton]
  rfl

theorem searchLog_eq_flatMap (ws : Workspace) (directories : List Text) :
    ws.searchLog directories = directories.flatMap fun base => ws.searchLog [base] := by
  induction directories with
  | nil => rfl
  | cons base directories ih =>
    rw [List.flatMap_cons, ← ih, searchLog, searchLog, searchLog, ← List.map_append,
      ← List.filter_append, List.singleton_append]

theorem lists_of_proper (proper : ws.tree.Proper) (extensions : List Text) (base : Text) :
    ws.Lists extensions base (ws.findFiles extensions [base]) (ws.searchLog [base]) := by
  rw [findFiles_singleton, filesBelow]
  cases hd : ws.directory? base with
  | none =>
    have told : ws.searchLog [base] = [.noDirectory base] := by simp [searchLog, hd]
    rw [told]
    refine .absent fun entries leads => ?_
    rw [directory?_eq_some_iff_leadsTo.mpr ⟨leads, rfl⟩] at hd
    cases hd
  | some top =>
    have told : ws.searchLog [base] = [] := by simp [searchLog, hd]
    obtain ⟨leads, directory⟩ := directory?_eq_some_iff_leadsTo.mp hd
    obtain ⟨spots, presents⟩ :=
      Node.exists_presents (leads.proper proper) ws.tree ws.here extensions base
    rw [told]
    cases top with
    | directory entries => exact .walked leads presents
    | file => cases directory
    | link => cases directory

theorem Lists.eq (h : ws.Lists extensions base found log)
    (ho : ws.Lists extensions base found' log') : found = found' ∧ log = log' := by
  cases h with
  | absent nowhere =>
    cases ho with
    | absent => exact ⟨rfl, rfl⟩
    | walked leads => exact absurd leads (nowhere _)
  | walked leads presents =>
    cases ho with
    | absent nowhere => exact absurd leads (nowhere _)
    | walked leads' presents' =>
      obtain rfl := Node.directory.inj (leads.unique leads')
      exact ⟨presents.eq presents', rfl⟩

theorem Lists.nodup (proper : ws.tree.Proper) (h : ws.Lists extensions base found log) :
    found.Nodup := by
  cases h with
  | absent => exact List.nodup_nil
  | walked leads presents => exact presents.nodup (leads.proper proper)

theorem Lists.path_mem_iff {entries : List (Text × Node)} {spot : Spot} (proper : ws.tree.Proper)
    (h : ws.Lists extensions base found log)
    (leads : ws.tree.LeadsTo ws.here base (.directory entries))
    (names : ∀ name ∈ spot.place, Path.IsName name) :
    spot.path base ∈ found ↔
      Node.Selects ws.tree ws.here extensions base (.directory entries) spot ∧
        Path.isTooLong (Path.below base spot.above) = false := by
  cases h with
  | absent nowhere => exact absurd leads (nowhere _)
  | walked leads' presents =>
    obtain rfl := Node.directory.inj (leads'.unique leads)
    exact presents.path_mem_iff (leads.proper proper) names

/-- Alike trees list the same. -/
theorem Lists.of_alike (here : other.here = ws.here) (tree : ws.tree.Alike other.tree)
    (same : ∀ extension, extension ∈ extensions'.map Path.normalExtension ↔
      extension ∈ extensions.map Path.normalExtension)
    (h : ws.Lists extensions base found log) : other.Lists extensions' base found log := by
  cases h with
  | absent nowhere =>
    refine .absent fun entries leads => ?_
    rw [here] at leads
    obtain ⟨node, leads', alike⟩ := tree.symm.leadsTo leads
    obtain ⟨entries', rfl⟩ := alike.exists_directory
    exact nowhere entries' leads'
  | walked leads presents =>
    obtain ⟨node, leads', alike⟩ := tree.leadsTo leads
    obtain ⟨entries', rfl⟩ := alike.exists_directory
    rw [← here] at leads'
    refine .walked leads' ⟨presents.paths_eq, presents.ordered, fun spot => ?_⟩
    rw [presents.mem_iff, here]
    apply and_congr_left
    intro _
    exact ⟨tree.selects alike same, tree.symm.selects alike.symm fun e => (same e).symm⟩

/-- A search lists for each path in turn the selected files below the directory that it leads to,
each once and in the order of their spots, or tells that it leads to none. Neither the order of a
directory's entries nor the order, repetition or spelling of the extensions matters. -/
theorem findFiles_lists (ws : Workspace) (extensions directories : List Text)
    (proper : ws.tree.Proper) :
    (ws.findFiles extensions directories =
      directories.flatMap fun base => ws.findFiles extensions [base]) ∧
    (ws.searchLog directories = directories.flatMap fun base => ws.searchLog [base]) ∧
    (∀ base found log, ws.Lists extensions base found log ↔
      found = ws.findFiles extensions [base] ∧ log = ws.searchLog [base]) ∧
    (∀ base, (ws.findFiles extensions [base]).Nodup) ∧
    ∀ (other : Workspace) (extensions' : List Text), other.tree.Proper → other.here = ws.here →
      ws.tree.Alike other.tree →
      (∀ extension, extension ∈ extensions'.map Path.normalExtension ↔
        extension ∈ extensions.map Path.normalExtension) →
      other.findFiles extensions' directories = ws.findFiles extensions directories ∧
        other.searchLog directories = ws.searchLog directories := by
  refine ⟨findFiles_eq_flatMap ws extensions directories, searchLog_eq_flatMap ws directories,
    ?_, ?_, ?_⟩
  · intro base found log
    have lists := lists_of_proper proper extensions base
    constructor
    · exact fun h => h.eq lists
    · rintro ⟨rfl, rfl⟩
      exact lists
  · exact fun base => (lists_of_proper proper extensions base).nodup proper
  · intro other extensions' proper' here tree same
    have equal : ∀ base, other.findFiles extensions' [base] = ws.findFiles extensions [base] ∧
        other.searchLog [base] = ws.searchLog [base] := fun base =>
      (lists_of_proper proper' extensions' base).eq
        ((lists_of_proper proper extensions base).of_alike here tree same)
    rw [findFiles_eq_flatMap ws, findFiles_eq_flatMap other, searchLog_eq_flatMap ws,
      searchLog_eq_flatMap other]
    exact ⟨List.flatMap_congr fun base _ => (equal base).1,
      List.flatMap_congr fun base _ => (equal base).2⟩

def yard : Table Node :=
  [("z.H".toList, .file []),
    ("b".toList, .directory [("y.m".toList, .file [])]), (".h".toList, .file []),
    ("k.h".toList, .link "nowhere".toList), ("l.h".toList, .link "b".toList),
    (".git".toList, .directory [("c.h".toList, .file [])])]

def yardAlone : Workspace where
  tree := .directory yard
  here := []
  environment := []

def yardReversed : Workspace where
  tree := .directory yard.reverse
  here := []
  environment := []

theorem yard_proper : Node.Proper (.directory yard) := by
  refine .directory (by decide) (by decide) ?_
  simp only [yard, List.forall_mem_cons, List.not_mem_nil, false_implies, implies_true, and_true]
  refine ⟨.file _, .directory (by decide) (by decide) ?_, .file _, .link _, .link _,
    .directory (by decide) (by decide) ?_⟩
  · simp [Node.Proper.file]
  · simp [Node.Proper.file]

theorem yard_missing : yardAlone.directory? ['q'] = none := by
  cbv

set_option maxRecDepth 8000 in
theorem yard_listed : yardAlone.findFiles [".H".toList, "m".toList] [['.'], ['q']] =
    ["./k.h".toList, "./z.H".toList, "./b/y.m".toList] := by
  cbv

theorem findFiles_lists_yard :
    yardAlone.tree.Proper ∧
    yardAlone.findFiles [".H".toList, "m".toList] [['.'], ['q']] =
      ["./k.h".toList, "./z.H".toList, "./b/y.m".toList] ∧
    yardAlone.Lists [".H".toList, "m".toList] ['q'] [] [.noDirectory ['q']] ∧
    yardReversed.findFiles ["m".toList, "h".toList, "H".toList] [['.'], ['q']] =
      ["./k.h".toList, "./z.H".toList, "./b/y.m".toList] := by
  have proper : yardAlone.tree.Proper := yard_proper
  have reversed : yardReversed.tree.Proper := yard_proper.of_perm yard.reverse_perm.symm
  have absent : yardAlone.findFiles [".H".toList, "m".toList] [['q']] = [] ∧
      yardAlone.searchLog [['q']] = [.noDirectory ['q']] := by
    simp [findFiles, filesBelow, searchLog, yard_missing]
  have alike : yardAlone.tree.Alike yardReversed.tree :=
    Node.alike_of_perm (by decide) yard.reverse_perm.symm
  have same : ∀ extension,
      extension ∈ ["m".toList, "h".toList, "H".toList].map Path.normalExtension ↔
        extension ∈ [".H".toList, "m".toList].map Path.normalExtension := by
    intro extension
    have first : ["m".toList, "h".toList, "H".toList].map Path.normalExtension =
        [['m'], ['h'], ['h']] := by
      decide +kernel
    have second : [".H".toList, "m".toList].map Path.normalExtension = [['h'], ['m']] := by
      decide +kernel
    rw [first, second]
    simp [or_comm]
  obtain ⟨-, -, lists, -, unchanged⟩ := findFiles_lists yardAlone [".H".toList, "m".toList]
    [['.'], ['q']] proper
  exact ⟨proper, yard_listed, (lists _ _ _).mpr ⟨absent.1.symm, absent.2.symm⟩,
    (unchanged _ _ reversed rfl alike same).1.trans yard_listed⟩

def roundabout : Nat → Text
  | 0 => ['s']
  | n + 1 => '.' :: '/' :: roundabout n

def farName : Text := List.replicate 200 'd'

def farEntries : Table Node := [(farName, .directory [("a.h".toList, .file [])])]

def farShelf : Workspace where
  tree := .directory [(['s'], .directory farEntries)]
  here := []
  environment := []

theorem size_roundabout (n : Nat) : Encoding.Utf8.size (roundabout n) = 2 * n + 1 := by
  induction n with
  | zero => rfl
  | succ n ih =>
    have dot : Encoding.Utf8.size ['.', '/'] = 2 := rfl
    have cut : roundabout (n + 1) = ['.', '/'] ++ roundabout n := rfl
    rw [cut, Encoding.Utf8.size_append, dot, ih]
    omega

theorem nul_not_mem_roundabout (n : Nat) : '\x00' ∉ roundabout n := by
  induction n with
  | zero => decide
  | succ n ih => simpa [roundabout] using ih

theorem leads_roundabout {root : Node} {create : Bool} {budget : Nat} {here place : Location}
    {entries : List (Text × Node)} (inside : root.at? here = some (.directory entries))
    (leads : Path.Leads root create budget here [['s']] place) (n : Nat) :
    Path.Leads root create budget here (Path.components (roundabout n)) place := by
  induction n with
  | zero => exact leads
  | succ n ih => exact .stay inside (.inr rfl) ih

theorem farShelf_proper : farShelf.tree.Proper := by
  refine .directory (by decide) (by decide) ?_
  rw [List.forall_mem_singleton]
  refine .directory (by decide) (by decide) ?_
  rw [farEntries, List.forall_mem_singleton]
  refine .directory (by decide) (by decide) ?_
  rw [List.forall_mem_singleton]
  exact .file []

theorem farShelf_leadsTo {n : Nat} (short : n ≤ 2047) :
    farShelf.tree.LeadsTo farShelf.here (roundabout n) (.directory farEntries) := by
  have size := size_roundabout n
  refine ⟨⟨nul_not_mem_roundabout n, ?_, ?_⟩, [['s']], ?_, rfl⟩
  · intro empty
    rw [empty] at size
    have : Encoding.Utf8.size [] = 0 := rfl
    omega
  · rw [Path.isTooLong, size]
    exact decide_eq_false (by rw [Path.lengthLimit]; omega)
  · have inside : farShelf.tree.at? [] = some (.directory [(['s'], .directory farEntries)]) := rfl
    have looked : Path.IsLookedUp false ['s'] [] := ⟨by decide, by decide, rfl, by decide⟩
    have start : Path.start farShelf.here (roundabout n) = [] := ite_self []
    rw [start]
    exact leads_roundabout inside (.enter inside looked rfl (by simp) .arrived) n

theorem farShelf_tooLong {n : Nat} (long : 1948 ≤ n) :
    Path.isTooLong (Path.below (roundabout n) [farName]) = true := by
  have size : Encoding.Utf8.size (Path.opened (roundabout n) ++ farName) =
      Encoding.Utf8.size (Path.opened (roundabout n)) + 200 := Encoding.Utf8.size_append _ farName
  have opened : Encoding.Utf8.size (roundabout n) ≤
      Encoding.Utf8.size (Path.opened (roundabout n)) := by
    rw [Path.opened]
    split
    · exact le_rfl
    · rw [Encoding.Utf8.size_append]
      exact Nat.le_add_right _ _
  rw [size_roundabout] at opened
  refine decide_eq_true ?_
  rw [Path.below, List.foldl_cons, List.foldl_nil, Path.join_eq, size, Path.lengthLimit]
  omega

theorem farShelf_selects (n : Nat) :
    Node.Selects farShelf.tree farShelf.here [['h']] (roundabout n) (.directory farEntries)
      ⟨[farName], "a.h".toList⟩ where
  taken := ⟨.file [], by simp [Spot.place, farEntries, Node.at?_cons, Node.entries, Table.get?,
    Node.at?_nil], nofun⟩
  entered := by decide
  wanted := by
    have dotted : Path.HasSuffix (['a'] ++ '.' :: ['h']) ['.', 'h'] :=
      .dotted (by decide) (by decide) (by decide)
    exact ⟨_, dotted, by decide +kernel⟩

theorem farShelf_not_listed {n : Nat} (short : n ≤ 2047) (long : 1948 ≤ n) :
    Spot.path (roundabout n) ⟨[farName], "a.h".toList⟩ ∉
      farShelf.findFiles [['h']] [roundabout n] := by
  have lists := lists_of_proper farShelf_proper [['h']] (roundabout n)
  rw [lists.path_mem_iff farShelf_proper (farShelf_leadsTo short) (by decide)]
  intro shown
  exact Bool.false_ne_true (shown.2.symm.trans (farShelf_tooLong long))

/-- A selected file is not listed where a directory above it has too long a path. -/
theorem file_behind_long_path_not_listed :
    farShelf.tree.Proper ∧
    farShelf.tree.LeadsTo farShelf.here (roundabout 2000) (.directory farEntries) ∧
    Node.Selects farShelf.tree farShelf.here [['h']] (roundabout 2000) (.directory farEntries)
      ⟨[farName], "a.h".toList⟩ ∧
    Spot.path (roundabout 2000) ⟨[farName], "a.h".toList⟩ ∉
      farShelf.findFiles [['h']] [roundabout 2000] :=
  ⟨farShelf_proper, farShelf_leadsTo (by omega), farShelf_selects 2000,
    farShelf_not_listed (by omega) (by omega)⟩

end Workspace

end StringsAudit
