import StringsAudit.FileTree.Resolve

/-!
# Where paths lead

The ways in which names lead on from a directory, one for each kind of name. Resolving a path
succeeds just where the names lead to a place. That place is taken by a file or a directory, or it
is a new name in a directory, where a path may be opened for writing.
-/

set_option autoImplicit false

namespace StringsAudit

namespace Node

theorem at?_cons (root : Node) (name : Text) (rest : Location) :
    root.at? (name :: rest) = (Table.get? name root.entries).bind fun child => child.at? rest := by
  rw [Node.at?]
  cases Table.get? name root.entries <;> rfl

theorem exists_of_at?_cons {root : Node} {name : Text} {rest : Location} {node : Node}
    (h : root.at? (name :: rest) = some node) : ∃ entries child, root = directory entries ∧
      Table.get? name entries = some child ∧ child.at? rest = some node := by
  rw [at?_cons] at h
  obtain ⟨child, entry, hc⟩ := Option.bind_eq_some_iff.mp h
  cases root with
  | directory entries => exact ⟨entries, child, rfl, entry, hc⟩
  | file => cases entry
  | link => cases entry

end Node

namespace Path

open Node

structure IsLookedUp (create : Bool) (name : Text) (rest : List Text) : Prop where
  not_here : ¬ (name = [] ∨ name = ['.'])
  not_up : name ≠ ['.', '.']
  not_closed : (create && isTrailing rest) = false
  not_long : ¬ nameLimit < Encoding.Utf8.size name

inductive Leads (root : Node) (create : Bool) : Nat → Location → List Text → Location → Prop
  | arrived {budget : Nat} {here : Location} : Leads root create budget here [] here
  | stay {budget : Nat} {here place : Location} {name : Text} {rest : List Text}
      {entries : List (Text × Node)} (inside : root.at? here = some (directory entries))
      (dot : name = [] ∨ name = ['.']) (more : Leads root create budget here rest place) :
      Leads root create budget here (name :: rest) place
  | up {budget : Nat} {here place : Location} {rest : List Text}
      {entries : List (Text × Node)} (inside : root.at? here = some (directory entries))
      (more : Leads root create budget here.dropLast rest place) :
      Leads root create budget here (['.', '.'] :: rest) place
  | make {budget : Nat} {here : Location} {name : Text}
      {entries : List (Text × Node)} (inside : root.at? here = some (directory entries))
      (looked : IsLookedUp create name []) (new : Table.get? name entries = none)
      (allowed : create = true) : Leads root create budget here [name] (here ++ [name])
  | follow {left : Nat} {here place : Location} {name target : Text} {rest : List Text}
      {entries : List (Text × Node)} (inside : root.at? here = some (directory entries))
      (looked : IsLookedUp create name rest)
      (entry : Table.get? name entries = some (link target))
      (more : Leads root create left (start here target) (components target ++ rest) place) :
      Leads root create (left + 1) here (name :: rest) place
  | enter {budget : Nat} {here place : Location} {name : Text} {rest : List Text} {node : Node}
      {entries : List (Text × Node)} (inside : root.at? here = some (directory entries))
      (looked : IsLookedUp create name rest) (entry : Table.get? name entries = some node)
      (not_link : ∀ target, node ≠ link target)
      (more : Leads root create budget (here ++ [name]) rest place) :
      Leads root create budget here (name :: rest) place

variable {root : Node} {create : Bool} {budget : Nat} {here place : Location} {names : List Text}

theorem leads_of_resolve (h : resolve root create budget here names = .ok place) :
    Leads root create budget here names place := by
  fun_induction resolve root create budget here names with
  | case1 =>
    obtain rfl := Except.ok.inj h
    exact .arrived
  | case2 _ _ _ _ _ inside dot ih => exact .stay inside dot (ih h)
  | case3 _ _ _ _ inside _ ih => exact .up inside (ih h)
  | case6 budget here name rest entries inside h1 h2 h3 h4 new hm =>
    obtain ⟨hc, hr⟩ := Bool.and_eq_true_iff.mp hm
    obtain rfl := List.isEmpty_iff.mp hr
    obtain rfl := Except.ok.inj h
    exact .make inside ⟨h1, h2, Bool.eq_false_iff.mpr h3, h4⟩ new hc
  | case9 _ _ _ _ inside h1 h2 h3 h4 _ entry _ ih =>
    exact .follow inside ⟨h1, h2, Bool.eq_false_iff.mpr h3, h4⟩ entry (ih h)
  | case10 _ _ _ _ _ inside h1 h2 h3 h4 _ not_link entry ih =>
    exact .enter inside ⟨h1, h2, Bool.eq_false_iff.mpr h3, h4⟩ entry not_link (ih h)
  | _ => cases h

theorem resolve_of_leads (h : Leads root create budget here names place) :
    resolve root create budget here names = .ok place := by
  induction h with
  | arrived => rw [resolve]
  | stay inside dot _ ih =>
    rw [resolve, inside]
    simpa only [dot, if_true] using ih
  | up inside _ ih =>
    rw [resolve, inside]
    simpa using ih
  | make inside looked new allowed =>
    rw [resolve, inside]
    simp [looked.not_here, looked.not_up, looked.not_long, new, allowed, isTrailing]
  | follow inside looked entry _ ih =>
    rw [resolve, inside]
    simpa [looked.not_here, looked.not_up, looked.not_closed, looked.not_long, entry] using ih
  | @enter _ _ _ _ _ node _ inside looked entry not_link _ ih =>
    rw [resolve, inside]
    simp only [looked.not_here, looked.not_up, looked.not_closed, looked.not_long, entry, if_false,
      Bool.false_eq_true]
    cases node with
    | link target => exact absurd rfl (not_link target)
    | file content => exact ih
    | directory below => exact ih

theorem resolve_eq_ok_iff :
    resolve root create budget here names = .ok place ↔
      Leads root create budget here names place := ⟨leads_of_resolve, resolve_of_leads⟩

inductive EndsAt (root : Node) (create : Bool) : Location → Prop
  | found {place : Location} {node : Node} (taken : root.at? place = some node)
      (not_link : ∀ target, node ≠ link target) : EndsAt root create place
  | new {here : Location} {name : Text} {entries : List (Text × Node)}
      (inside : root.at? here = some (directory entries))
      (absent : Table.get? name entries = none) (allowed : create = true) :
      EndsAt root create (here ++ [name])

/-- Every part of a location that is taken leads through directories. -/
theorem isDirectory_of_append {above below : Location} {node : Node}
    (h : root.at? (above ++ below) = some node) (hb : below ≠ []) :
    ∃ entries, root.at? above = some (directory entries) := by
  rw [at?_append] at h
  obtain ⟨found, ha, hf⟩ := Option.bind_eq_some_iff.mp h
  obtain ⟨name, rest, rfl⟩ := List.exists_cons_of_ne_nil hb
  cases found with
  | directory entries => exact ⟨entries, ha⟩
  | file content => simp [Node.at?, Node.entries, Table.get?] at hf
  | link target => simp [Node.at?, Node.entries, Table.get?] at hf

theorem at?_child {entries : List (Text × Node)} (inside : root.at? here = some (directory entries))
    (name : Text) : root.at? (here ++ [name]) = Table.get? name entries := by
  rw [at?_append, inside]
  simp only [Option.bind_some, Node.at?, Node.entries]
  cases Table.get? name entries <;> rfl

theorem endsAt_of_leads (h : Leads root create budget here names place)
    (start : names = [] → EndsAt root create here) : EndsAt root create place := by
  induction h with
  | arrived => exact start rfl
  | stay inside _ _ ih => exact ih fun _ => .found inside (by simp)
  | @up _ here _ _ _ inside _ ih =>
    apply ih
    intro _
    rcases List.eq_nil_or_concat here with rfl | ⟨above, name, rfl⟩
    · exact .found inside (by simp)
    · rw [List.concat_eq_append] at inside ⊢
      obtain ⟨entries, ha⟩ := isDirectory_of_append inside (by simp)
      rw [List.dropLast_concat]
      exact .found ha (by simp)
  | make inside _ new allowed => exact .new inside new allowed
  | @follow _ _ _ _ target rest _ _ _ _ _ ih =>
    apply ih
    intro hn
    exact absurd (List.append_eq_nil_iff.mp hn).1 (Text.splitOn_ne_nil '/' target)
  | enter inside _ entry not_link _ ih =>
    exact ih fun _ => .found ((at?_child inside _).trans entry) not_link

theorem locate_eq_ok_iff {path : Text} :
    locate root create here path = .ok place ↔
      ('\x00' ∉ path ∧ path ≠ [] ∧ isTooLong path = false) ∧
        Leads root create linkLimit (start here path) (components path) place := by
  rw [← resolve_eq_ok_iff, locate]
  by_cases hn : '\x00' ∈ path
  · simp [hn]
  · by_cases he : path = []
    · simp [he]
    · cases ht : isTooLong path <;> simp [hn, he]

theorem endsAt_of_locate {path : Text} (h : locate root create here path = .ok place) :
    EndsAt root create place :=
  endsAt_of_leads (locate_eq_ok_iff.mp h).2 fun hn => absurd hn (Text.splitOn_ne_nil '/' path)

end Path

end StringsAudit
