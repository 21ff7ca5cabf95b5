import StringsAudit.Proofs.FileTree.Growth

/-!
# Adding to a file

A file that is opened for appending stands in its directory or is made there. Adding to it leaves
everything else in the tree as it was.
-/

set_option autoImplicit false

namespace StringsAudit.Node

variable {root new : Node} {here place other : Location} {path : Text} {bytes : Bytes}

inductive HasRoomAt : Node → Location → Prop
  | taken {node : Node} (leaf : node.isDirectory = false) : HasRoomAt node []
  | fresh {entries : List (Text × Node)} {name : Text} (absent : Table.get? name entries = none) :
      HasRoomAt (directory entries) [name]
  | within {entries : List (Text × Node)} {name : Text} {child : Node} {rest : Location}
      (entry : Table.get? name entries = some child) (room : HasRoomAt child rest) :
      HasRoomAt (directory entries) (name :: rest)

theorem hasRoomAt_of_at? {node : Node} (h : root.at? place = some node)
    (leaf : node.isDirectory = false) : HasRoomAt root place := by
  induction place generalizing root with
  | nil =>
    obtain rfl := Option.some.inj ((at?_nil root).symm.trans h)
    exact .taken leaf
  | cons name rest ih =>
    obtain ⟨_, _, rfl, entry, hc⟩ := exists_of_at?_cons h
    exact .within entry (ih hc)

theorem hasRoomAt_concat {entries : List (Text × Node)} {name : Text}
    (inside : root.at? here = some (directory entries)) (absent : Table.get? name entries = none) :
    HasRoomAt root (here ++ [name]) := by
  induction here generalizing root with
  | nil =>
    obtain rfl := Option.some.inj ((at?_nil root).symm.trans inside)
    exact .fresh absent
  | cons above rest ih =>
    obtain ⟨_, _, rfl, entry, hc⟩ := exists_of_at?_cons inside
    exact .within entry (ih hc)

structure OpensAt (root : Node) (here : Location) (path : Text) (place : Location) : Prop where
  located : Path.locate root true here path = .ok place
  no_directory : ∀ entries, root.at? place ≠ some (directory entries)

theorem OpensAt.hasRoomAt (h : root.OpensAt here path place) : HasRoomAt root place := by
  cases Path.endsAt_of_locate h.located with
  | @found _ node taken _ =>
    refine hasRoomAt_of_at? taken ?_
    cases node with
    | directory entries => exact absurd taken (h.no_directory entries)
    | file => rfl
    | link => rfl
  | new inside absent _ => exact hasRoomAt_concat inside absent

def bytesAt (root : Node) (place : Location) : Bytes :=
  match root.at? place with
  | some (file content) => content
  | _ => []

theorem OpensAt.append (h : root.OpensAt here path place) (bytes : Bytes) :
    root.append here path bytes = .ok (put (file (root.bytesAt place ++ bytes)) root place) := by
  rw [Node.append, h.located, bytesAt]
  cases hn : root.at? place with
  | none => simp [hn]
  | some node =>
    cases node with
    | directory entries => exact absurd hn (h.no_directory entries)
    | file => simp [hn]
    | link => simp [hn]

/-- Nothing is below a node that is no directory. -/
theorem at?_cons_of_leaf (leaf : root.isDirectory = false) (name : Text) (rest : Location) :
    root.at? (name :: rest) = none := by
  cases root with
  | directory => cases leaf
  | file => rfl
  | link => rfl

/-- Putting a file in a place changes no other place. -/
theorem HasRoomAt.bare_at?_put (h : HasRoomAt root place) (leaf : new.isDirectory = false)
    (hne : other ≠ place) :
    ((put new root place).at? other).map bare = (root.at? other).map bare := by
  -- the two places part at some name, or one of them goes on below the other's end
  induction h generalizing other with
  | @taken node old =>
    obtain ⟨name, rest, rfl⟩ := List.exists_cons_of_ne_nil hne
    rw [put, at?_cons_of_leaf leaf, at?_cons_of_leaf old]
  | @fresh entries name absent =>
    cases other with
    | nil => rfl
    | cons next rest =>
      by_cases hn : next = name
      · subst hn
        obtain ⟨_, _, rfl⟩ := List.exists_cons_of_ne_nil fun he => hne (he ▸ rfl)
        simp [put, at?_cons (directory _), Node.entries, Table.get?_set, absent,
          at?_cons_of_leaf leaf]
      · rw [put, Node.entries, at?_set_of_ne hn]
  | @within entries name child rest entry _ ih =>
    cases other with
    | nil => rfl
    | cons next below =>
      by_cases hn : next = name
      · subst hn
        simpa [put, at?_cons, Node.entries, Table.get?_set, entry] using
          ih fun he => hne (he ▸ rfl)
      · rw [put, Node.entries, at?_set_of_ne hn]

structure AddsTo (before after : Node) (place : Location) (bytes : Bytes) : Prop where
  added : after.at? place = some (file (before.bytesAt place ++ bytes))
  elsewhere : ∀ other ≠ place, (after.at? other).map bare = (before.at? other).map bare

theorem OpensAt.addsTo (h : root.OpensAt here path place) (bytes : Bytes) :
    ∃ after, root.append here path bytes = .ok after ∧ root.AddsTo after place bytes :=
  ⟨_, h.append bytes, at?_put _ _ _, fun _ hne => h.hasRoomAt.bare_at?_put rfl hne⟩

end StringsAudit.Node
