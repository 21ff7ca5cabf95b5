import StringsAudit.Proofs.FileTree.Resolving
import StringsAudit.Proofs.FileTree.Walking

/-!
# Growing trees

A tree grows when files and links are added to it, and directories for them. A path leads to what
it led to before, and a walk shows what it showed before and files that were added, but for links
that led nowhere.
-/

set_option autoImplicit false

namespace StringsAudit

namespace Table

variable {α : Type} {name : Text} {value old : α} {table : Table α} {entry : Text × α}

theorem mem_set_self (name : Text) (value : α) (table : Table α) :
    (name, value) ∈ set name value table := by
  induction table with
  | nil => simp [set]
  | cons first rest ih =>
    rw [set]
    split
    · exact List.mem_cons_self
    · exact List.mem_cons_of_mem _ ih

theorem mem_of_mem_set (h : entry ∈ set name value table) :
    entry = (name, value) ∨ entry ∈ table := by
  induction table with
  | nil => exact .inl (by simpa [set] using h)
  | cons first rest ih =>
    rw [set] at h
    split at h
    · rcases List.mem_cons.mp h with he | h
      · exact .inl he
      · exact .inr (List.mem_cons_of_mem _ h)
    · rcases List.mem_cons.mp h with rfl | h
      · exact .inr List.mem_cons_self
      · exact (ih h).imp id (List.mem_cons_of_mem _)

/-- Setting a name leaves every entry in the table but the one that the name had. -/
theorem mem_set_of_mem (name : Text) (value : α) (h : entry ∈ table) :
    entry ∈ set name value table ∨ (entry.1 = name ∧ table.get? name = some entry.2) := by
  induction table with
  | nil => cases h
  | cons first rest ih =>
    rw [set, get?]
    split
    next hn =>
      rcases List.mem_cons.mp h with rfl | h
      · exact .inr ⟨hn, rfl⟩
      · exact .inl (List.mem_cons_of_mem _ h)
    next =>
      rcases List.mem_cons.mp h with rfl | h
      · exact .inl List.mem_cons_self
      · exact (ih h).imp (List.mem_cons_of_mem _) id

theorem mem_set_of_absent (hn : table.get? name = none) (h : entry ∈ table) :
    entry ∈ set name value table := by
  rcases mem_set_of_mem name value h with hs | ⟨-, hg⟩
  · exact hs
  · rw [hn] at hg
    cases hg

end Table

namespace Node

def bare : Node → Node
  | directory _ => directory []
  | node => node

theorem bare_eq_file_iff {node : Node} {content : Bytes} :
    node.bare = file content ↔ node = file content := by
  cases node <;> simp [bare]

theorem bare_eq_link_iff {node : Node} {target : Text} :
    node.bare = link target ↔ node = link target := by
  cases node <;> simp [bare]

theorem isDirectory_bare (node : Node) : node.bare.isDirectory = node.isDirectory := by
  cases node <;> rfl

theorem countsAsDirectory_bare (root : Node) (here : Location) (path : Text) (node : Node) :
    countsAsDirectory root here path node.bare = countsAsDirectory root here path node := by
  cases node <;> rfl

inductive Grows (fresh : Text → Bool) : Node → Node → Prop
  | refl (node : Node) : Grows fresh node node
  | trans {node between grown : Node} (first : Grows fresh node between)
      (second : Grows fresh between grown) : Grows fresh node grown
  | within {entries : List (Text × Node)} {name : Text} {child grown : Node}
      (entry : Table.get? name entries = some child) (growth : Grows fresh child grown) :
      Grows fresh (directory entries) (directory (Table.set name grown entries))
  | addFile {entries : List (Text × Node)} {name : Text} {node : Node}
      (new : Table.get? name entries = none) (named : fresh name = true)
      (leaf : node.isDirectory = false) :
      Grows fresh (directory entries) (directory (Table.set name node entries))
  | addDirectory {entries : List (Text × Node)} {name : Text}
      (new : Table.get? name entries = none) :
      Grows fresh (directory entries) (directory (Table.set name (directory []) entries))

variable {fresh wanted : Text → Bool} {node grown root after : Node} {here : Location}
  {base path : Text}

theorem Grows.bare_eq (h : Grows fresh node grown) : grown.bare = node.bare := by
  induction h with
  | refl => rfl
  | trans _ _ first second => exact second.trans first
  | within => rfl
  | addFile => rfl
  | addDirectory => rfl

theorem at?_set_of_ne {entries : List (Text × Node)} {name other : Text} (h : other ≠ name)
    (value : Node) (rest : Location) :
    (directory (Table.set name value entries)).at? (other :: rest) =
      (directory entries).at? (other :: rest) := by
  simp only [Node.at?, Node.entries, Table.get?_set, if_neg h]

theorem Grows.at? {place : Location} (h : Grows fresh root after)
    (hn : root.at? place = some node) :
    ∃ grown, after.at? place = some grown ∧ Grows fresh node grown := by
  -- a name that was added is not on the way to any place that was taken before
  have fixed : ∀ {entries : List (Text × Node)} {name : Text} {value : Node} {place : Location}
      {node : Node}, Table.get? name entries = none →
      Grows fresh (directory entries) (directory (Table.set name value entries)) →
      (directory entries).at? place = some node →
      ∃ grown, (directory (Table.set name value entries)).at? place = some grown ∧
        Grows fresh node grown := by
    intro entries name value place node new growth hn
    cases place with
    | nil =>
      obtain rfl := Option.some.inj ((at?_nil _).symm.trans hn)
      exact ⟨_, at?_nil _, growth⟩
    | cons other rest =>
      have hne : other ≠ name := by
        rintro rfl
        simp [Node.at?, Node.entries, new] at hn
      exact ⟨node, (at?_set_of_ne hne value rest).trans hn, .refl node⟩
  induction h generalizing place node with
  | refl => exact ⟨node, hn, .refl node⟩
  | trans _ _ first second =>
    obtain ⟨between, hb, firstGrowth⟩ := first hn
    obtain ⟨grown, hg, secondGrowth⟩ := second hb
    exact ⟨grown, hg, firstGrowth.trans secondGrowth⟩
  | @within entries name child grown entry growth ih =>
    cases place with
    | nil =>
      obtain rfl := Option.some.inj ((at?_nil _).symm.trans hn)
      exact ⟨_, at?_nil _, .within entry growth⟩
    | cons other rest =>
      by_cases he : other = name
      · subst he
        simp only [Node.at?, Node.entries, entry, Table.get?_set, if_true] at hn ⊢
        exact ih hn
      · exact ⟨node, (at?_set_of_ne he grown rest).trans hn, .refl node⟩
  | addFile new named leaf => exact fixed new (.addFile new named leaf) hn
  | addDirectory new => exact fixed new (.addDirectory new) hn

def Keeps (root after : Node) : Prop :=
  ∀ place node, root.at? place = some node →
    ∃ other, after.at? place = some other ∧ other.bare = node.bare

theorem Keeps.directory_at? {place : Location} {entries : List (Text × Node)}
    (h : Keeps root after) (hn : root.at? place = some (directory entries)) :
    ∃ entries', after.at? place = some (directory entries') ∧
      ∀ name child, Table.get? name entries = some child →
        ∃ other, Table.get? name entries' = some other ∧ other.bare = child.bare := by
  obtain ⟨grown, ha, same⟩ := h place _ hn
  cases grown with
  | file => exact absurd same (by simp [bare])
  | link => exact absurd same (by simp [bare])
  | directory entries' =>
    refine ⟨entries', ha, ?_⟩
    intro name child hc
    rw [← Path.at?_child ha]
    exact h _ _ ((Path.at?_child hn name).trans hc)

/-- Names lead on to where they led before. -/
theorem Keeps.leads {budget : Nat} {names : List Text} {place : Location}
    (h : Keeps root after) (leads : Path.Leads root false budget here names place) :
    Path.Leads after false budget here names place := by
  induction leads with
  | arrived => exact .arrived
  | stay inside dot _ ih =>
    obtain ⟨_, ha, -⟩ := h.directory_at? inside
    exact .stay ha dot ih
  | up inside _ ih =>
    obtain ⟨_, ha, -⟩ := h.directory_at? inside
    exact .up ha ih
  | make _ _ _ allowed => cases allowed
  | follow inside looked entry _ ih =>
    obtain ⟨_, ha, kept⟩ := h.directory_at? inside
    obtain ⟨grown, hg, same⟩ := kept _ _ entry
    obtain rfl := bare_eq_link_iff.mp same
    exact .follow ha looked hg ih
  | enter inside looked entry not_link _ ih =>
    obtain ⟨_, ha, kept⟩ := h.directory_at? inside
    obtain ⟨grown, hg, same⟩ := kept _ _ entry
    refine .enter ha looked hg ?_ ih
    rintro target rfl
    exact not_link target (bare_eq_link_iff.mp same.symm)

theorem Grows.keeps (h : Grows fresh root after) : Keeps root after := by
  intro place node hn
  obtain ⟨grown, ha, growth⟩ := h.at? hn
  exact ⟨grown, ha, growth.bare_eq⟩

theorem Grows.locate {place : Location} (h : Grows fresh root after)
    (hl : Path.locate root false here path = .ok place) :
    Path.locate after false here path = .ok place := by
  rw [Path.locate_eq_ok_iff] at hl ⊢
  exact ⟨hl.1, h.keeps.leads hl.2⟩

theorem Grows.find? {place : Location} (h : Grows fresh root after)
    (hf : root.find? here path = some (place, node)) :
    ∃ grown, after.find? here path = some (place, grown) ∧ Grows fresh node grown := by
  rw [Node.find?] at hf
  split at hf
  · cases hf
  next located hl =>
    obtain ⟨found, ha, he⟩ := Option.map_eq_some_iff.mp hf
    obtain ⟨rfl, rfl⟩ := Prod.mk.inj he
    obtain ⟨grown, hg, growth⟩ := h.at? ha
    refine ⟨grown, ?_, growth⟩
    rw [Node.find?, h.locate hl]
    simp [hg]

theorem read_eq_ok_iff {content : Bytes} :
    root.read here path = .ok content ↔
      ∃ place, root.find? here path = some (place, file content) := by
  rw [read, find?]
  cases Path.locate root false here path with
  | error fault => simp
  | ok place =>
    simp only [Option.map_eq_some_iff, Prod.mk.injEq]
    cases ha : root.at? place with
    | none => simp
    | some node => cases node <;> simp

theorem Grows.read {content : Bytes} (h : Grows fresh root after)
    (hr : root.read here path = .ok content) : after.read here path = .ok content := by
  rw [read_eq_ok_iff] at hr ⊢
  obtain ⟨place, hf⟩ := hr
  obtain ⟨grown, hg, growth⟩ := h.find? hf
  obtain rfl := bare_eq_file_iff.mp growth.bare_eq
  exact ⟨place, hg⟩

theorem countsAsDirectory_link {target : Text} :
    countsAsDirectory root here path (link target) = true ↔
      ∃ place node, root.find? here path = some (place, node) ∧ node.isDirectory = true := by
  rw [countsAsDirectory, Option.any_eq_true]
  constructor
  · rintro ⟨⟨place, node⟩, hf, hd⟩
    exact ⟨place, node, hf, hd⟩
  · rintro ⟨place, node, hf, hd⟩
    exact ⟨(place, node), hf, hd⟩

theorem Grows.isDirectory_eq (h : Grows fresh node grown) :
    grown.isDirectory = node.isDirectory := by
  rw [← isDirectory_bare, h.bare_eq, isDirectory_bare]

/-- What counted as a directory does so still. -/
theorem Grows.countsAsDirectory (h : Grows fresh root after)
    (hc : countsAsDirectory root here path node = true) :
    countsAsDirectory after here path node = true := by
  cases node with
  | file => cases hc
  | directory => rfl
  | link target =>
    obtain ⟨place, node, hf, hd⟩ := countsAsDirectory_link.mp hc
    obtain ⟨grown, hg, growth⟩ := h.find? hf
    exact countsAsDirectory_link.mpr ⟨place, grown, hg, growth.isDirectory_eq.trans hd⟩

/-- A file that can be read counts as one still. -/
theorem Grows.not_countsAsDirectory {content : Bytes} (h : Grows fresh root after)
    (hr : root.read here path = .ok content)
    (hc : Node.countsAsDirectory root here path node = false) :
    Node.countsAsDirectory after here path node = false := by
  cases node with
  | file => rfl
  | directory => cases hc
  | link target =>
    obtain ⟨place, hf⟩ := read_eq_ok_iff.mp (h.read hr)
    rw [Bool.eq_false_iff, ne_eq, countsAsDirectory_link]
    rintro ⟨_, _, hg, hd⟩
    rw [hf] at hg
    obtain ⟨-, rfl⟩ := Prod.mk.inj (Option.some.inj hg)
    cases hd

theorem walk_of_not_isDirectory (h : node.isDirectory = false) :
    walk root here wanted base node = [] := by
  cases node with
  | file => rw [walk]
  | link => rw [walk]
  | directory => cases h

/-- A walk of a grown node comes to all files to which it came before. -/
theorem Grows.mem_walk (h : Grows fresh node grown)
    (hp : path ∈ walk root here wanted base node) : path ∈ walk root here wanted base grown := by
  induction h generalizing base with
  | refl => exact hp
  | trans _ _ first second => exact second (first hp)
  | @within entries name child grown entry growth ih =>
    obtain ⟨short, other, node, hm, hcase⟩ := mem_walk_directory.mp hp
    rcases Table.mem_set_of_mem name grown hm with hs | ⟨rfl, hg⟩
    · exact mem_walk_directory.mpr ⟨short, other, node, hs, hcase⟩
    · obtain rfl := Option.some.inj (entry.symm.trans hg)
      refine mem_walk_directory.mpr ⟨short, _, grown, Table.mem_set_self _ _ _, ?_⟩
      rcases hcase with ⟨file, found⟩ | ⟨entered, found⟩
      · rw [← countsAsDirectory_bare, ← growth.bare_eq, countsAsDirectory_bare] at file
        exact .inl ⟨file, found⟩
      · exact .inr ⟨entered, ih found⟩
  | addFile new named leaf =>
    obtain ⟨short, other, node, hm, hcase⟩ := mem_walk_directory.mp hp
    exact mem_walk_directory.mpr ⟨short, other, node, Table.mem_set_of_absent new hm, hcase⟩
  | addDirectory new =>
    obtain ⟨short, other, node, hm, hcase⟩ := mem_walk_directory.mp hp
    exact mem_walk_directory.mpr ⟨short, other, node, Table.mem_set_of_absent new hm, hcase⟩

/-- If no fresh name is wanted, it comes to no others. -/
theorem Grows.mem_walk_of_mem_walk (h : Grows fresh node grown)
    (hw : ∀ name, fresh name = true → wanted name = false)
    (hp : path ∈ walk root here wanted base grown) : path ∈ walk root here wanted base node := by
  induction h generalizing base with
  | refl => exact hp
  | trans _ _ first second => exact first (second hp)
  | @within entries name child grown entry growth ih =>
    obtain ⟨short, other, node, hm, hcase⟩ := mem_walk_directory.mp hp
    rcases Table.mem_of_mem_set hm with he | hm
    · obtain ⟨rfl, rfl⟩ := Prod.mk.inj he
      refine mem_walk_directory.mpr ⟨short, _, child, Table.mem_of_get? entry, ?_⟩
      rcases hcase with ⟨file, found⟩ | ⟨entered, found⟩
      · rw [← countsAsDirectory_bare, growth.bare_eq, countsAsDirectory_bare] at file
        exact .inl ⟨file, found⟩
      · exact .inr ⟨entered, ih found⟩
    · exact mem_walk_directory.mpr ⟨short, other, node, hm, hcase⟩
  | addFile new named leaf =>
    obtain ⟨short, other, node, hm, hcase⟩ := mem_walk_directory.mp hp
    rcases Table.mem_of_mem_set hm with he | hm
    · obtain ⟨rfl, rfl⟩ := Prod.mk.inj he
      rcases hcase with ⟨-, wants, -⟩ | ⟨-, found⟩
      · rw [hw _ named] at wants
        cases wants
      · rw [walk_of_not_isDirectory leaf] at found
        cases found
    · exact mem_walk_directory.mpr ⟨short, other, node, hm, hcase⟩
  | addDirectory new =>
    obtain ⟨short, other, node, hm, hcase⟩ := mem_walk_directory.mp hp
    rcases Table.mem_of_mem_set hm with he | hm
    · obtain ⟨rfl, rfl⟩ := Prod.mk.inj he
      rcases hcase with ⟨file, -⟩ | ⟨-, found⟩
      · cases file
      · obtain ⟨-, _, _, hn, -⟩ := mem_walk_directory.mp found
        cases hn
    · exact mem_walk_directory.mpr ⟨short, other, node, hm, hcase⟩

/-- In a grown tree the walk of a directory comes to all readable files to which it came before. -/
theorem Grows.shows (h : Grows fresh root after) {content : Bytes}
    (shown : Shows root here wanted base node path) (hr : root.read here path = .ok content) :
    Shows after here wanted base node path := by
  induction shown with
  | own short entry file wants => exact .own short entry (h.not_countsAsDirectory hr file) wants
  | deeper short entry entered _ ih => exact .deeper short entry entered (ih hr)

/-- In a grown tree the walk of a directory comes to no file to which it did not come before. -/
theorem Grows.shows_of_shows (h : Grows fresh root after)
    (shown : Shows after here wanted base node path) : Shows root here wanted base node path := by
  induction shown with
  | @own base name node entries short entry file wants =>
    refine .own short entry ?_ wants
    cases hc : Node.countsAsDirectory root here (Path.join base name) node with
    | false => rfl
    | true =>
      rw [h.countsAsDirectory hc] at file
      cases file
  | deeper short entry entered _ ih => exact .deeper short entry entered ih

theorem Shows.mono {more : Text → Bool} (h : ∀ name, wanted name = true → more name = true)
    (shown : Shows root here wanted base node path) : Shows root here more base node path := by
  induction shown with
  | own short entry file wants => exact .own short entry file (h _ wants)
  | deeper short entry entered _ ih => exact .deeper short entry entered ih

end Node

end StringsAudit
