import StringsAudit.Text.Basic

/-!
# Tables

A table is a list of named values in the order in which the names came. Setting a name replaces
its value in place, or adds it behind the others, so no name comes to stand twice.
-/

set_option autoImplicit false

namespace StringsAudit

abbrev Table (α : Type) := List (Text × α)

namespace Table

variable {α : Type}

def names (table : Table α) : List Text := table.map Prod.fst

def get? (name : Text) : Table α → Option α
  | [] => none
  | entry :: rest => if entry.1 = name then some entry.2 else get? name rest

def set (name : Text) (value : α) : Table α → Table α
  | [] => [(name, value)]
  | entry :: rest =>
    if entry.1 = name then (name, value) :: rest else entry :: set name value rest

def erase (name : Text) : Table α → Table α
  | [] => []
  | entry :: rest => if entry.1 = name then rest else entry :: erase name rest

theorem mem_names_set {name : Text} {value : α} {table : Table α} {other : Text} :
    other ∈ (set name value table).names ↔ other = name ∨ other ∈ table.names := by
  induction table with
  | nil => simp [set, names]
  | cons entry rest ih =>
    rw [set]
    split
    next h => simp [names, h]
    next h =>
      simp only [names, List.map_cons, List.mem_cons] at ih ⊢
      rw [ih]
      exact or_left_comm

theorem nodup_names_set (name : Text) (value : α) {table : Table α} (h : table.names.Nodup) :
    (set name value table).names.Nodup := by
  induction table with
  | nil => simp [set, names]
  | cons entry rest ih =>
    simp only [names, List.map_cons, List.nodup_cons] at h
    rw [set]
    split
    next hn =>
      simp only [names, List.map_cons, List.nodup_cons]
      exact ⟨hn ▸ h.1, h.2⟩
    next hn =>
      have hm : entry.1 ∉ (set name value rest).names := by
        rw [mem_names_set, not_or]
        exact ⟨hn, h.1⟩
      simp only [names, List.map_cons, List.nodup_cons]
      exact ⟨hm, ih h.2⟩

theorem get?_set (name : Text) (value : α) (table : Table α) (other : Text) :
    (set name value table).get? other = if other = name then some value else table.get? other := by
  induction table with
  | nil =>
    by_cases h : other = name
    · simp [set, get?, h]
    · simp [set, get?, h, Ne.symm h]
  | cons entry rest ih =>
    by_cases hk : entry.1 = name
    · by_cases h : other = name
      · simp [set, get?, hk, h]
      · simp [set, get?, hk, h, Ne.symm h]
    · by_cases h : entry.1 = other
      · have hn : other ≠ name := h ▸ hk
        simp [set, get?, h, hn]
      · simp [set, get?, hk, h, ih]

theorem get?_eq_none_iff {table : Table α} {name : Text} :
    table.get? name = none ↔ name ∉ table.names := by
  induction table with
  | nil => simp [get?, names]
  | cons entry rest ih =>
    simp only [names] at ih
    by_cases h : entry.1 = name
    · simp [get?, names, h]
    · simp [get?, names, h, Ne.symm h, ih]

theorem mem_of_get? {table : Table α} {name : Text} {value : α}
    (h : table.get? name = some value) : (name, value) ∈ table := by
  induction table with
  | nil => simp [get?] at h
  | cons entry rest ih =>
    rw [get?] at h
    split at h
    next hn =>
      rw [← hn, ← Option.some.inj h]
      exact List.mem_cons_self
    next => exact List.mem_cons_of_mem _ (ih h)

theorem mem_iff_get? {table : Table α} (h : table.names.Nodup) {entry : Text × α} :
    entry ∈ table ↔ table.get? entry.1 = some entry.2 := by
  constructor
  · intro hm
    induction table with
    | nil => cases hm
    | cons first rest ih =>
      rw [names, List.map_cons, List.nodup_cons] at h
      rw [get?]
      rcases List.mem_cons.mp hm with rfl | hm
      · rw [if_pos rfl]
      · have hne : first.1 ≠ entry.1 := fun he => h.1 (he ▸ List.mem_map_of_mem hm)
        rw [if_neg hne]
        exact ih h.2 hm
  · exact mem_of_get?

end Table

end StringsAudit
