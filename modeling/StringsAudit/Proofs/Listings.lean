import StringsAudit.Proofs.Collisions
import StringsAudit.Proofs.Lines
import StringsAudit.Proofs.Reports

/-!
# What a listing tells

A listing has no marks that set a path off from an identifier or an identifier from its key, and
each of them may hold blanks. Still the empty lines end its blocks, a block begins with its path,
and a line grows with its identifier, so no two ASCII identifiers have one line. A listing tells
which report it shows, but not in which order the report was put together.
-/

set_option autoImplicit false

namespace StringsAudit

namespace Key

open Text

variable {ns : Namespace} {identifier other : Text}

theorem bare_append (identifier other : Text) :
    bare (identifier ++ other) = bare identifier ++ bare other := by
  rw [bare, List.filter_append, List.map_append]
  rfl

/-- A key grows with its identifier, by one character for each that is no underscore. -/
theorem length_accessor (ns : Namespace) (h : IsAscii identifier) :
    (accessor ns identifier).length =
      (lowerBefore [] false ns.name).length + 1 + (bare identifier).length := by
  have ascii : IsAscii ('.' :: accessorName identifier) :=
    isAscii_cons.mpr ⟨by decide, isAscii_accessorName h⟩
  rw [accessor, lower_append_of_ascii ascii, List.length_append,
    length_lowerBefore ('.' :: accessorName identifier) [], List.map_cons,
    map_toLower_accessorName h, List.length_cons]
  omega

end Key

namespace Report

open Text

variable {ns : Namespace} {report other : Report}

def listingLine (ns : Namespace) (identifier : Text) : Text :=
  "  ".toList ++ identifier ++ "  ".toList ++ Key.accessor ns identifier

def blockLines (ns : Namespace) (row : Finding) : List Text :=
  row.1 :: row.2.map (listingLine ns) ++ [[]]

theorem listing_eq_endLines (ns : Namespace) (report : Report) :
    report.listing ns = endLines (report.sorted.flatMap (blockLines ns)) := by
  have row : listingRow ns = fun identifier => listingLine ns identifier ++ ['\n'] := rfl
  rw [listing, endLines, List.flatMap_assoc]
  congr 1
  funext finding
  simp [blockLines, listingBlock, List.flatMap_map, row]

theorem newline_not_mem_blockLines (hn : '\n' ∉ ns.name) {row : Finding}
    (single : '\n' ∉ row.1 ∧ ∀ identifier ∈ row.2, '\n' ∉ identifier) :
    ∀ line ∈ blockLines ns row, '\n' ∉ line := by
  intro line hline
  rcases List.mem_append.mp hline with hl | hl
  · rcases List.mem_cons.mp hl with rfl | hl
    · exact single.1
    · obtain ⟨identifier, hi, rfl⟩ := List.mem_map.mp hl
      have hid := single.2 identifier hi
      have hkey := Key.newline_not_mem_accessor hn hid
      simp [listingLine, hid, hkey]
  · rw [List.mem_singleton.mp hl]
    exact List.not_mem_nil

theorem splitOn_listing (hn : '\n' ∉ ns.name) (single : report.SingleLined) :
    splitOn '\n' (report.listing ns) = report.sorted.flatMap (blockLines ns) ++ [[]] := by
  have lines : ∀ line ∈ report.sorted.flatMap (blockLines ns), '\n' ∉ line := by
    intro line hline
    obtain ⟨row, hrow, hl⟩ := List.mem_flatMap.mp hline
    exact newline_not_mem_blockLines hn (single.sorted row hrow) line hl
  have cut := splitOn_endLines lines []
  rw [List.append_nil] at cut
  rw [listing_eq_endLines, cut]
  rfl

section Unambiguous

variable {a b : Text}

/-- Of two identifiers with one line the longer one begins with the other, and what it has more
would make its line longer. -/
theorem eq_of_listingLine_eq (ha : IsAscii a) (hb : IsAscii b) (hle : a.length ≤ b.length)
    (h : listingLine ns a = listingLine ns b) : a = b := by
  simp only [listingLine, List.append_assoc, List.append_cancel_left_eq] at h
  have starts : b <+: a ++ ("  ".toList ++ Key.accessor ns a) := h ▸ List.prefix_append b _
  obtain ⟨more, rfl⟩ := List.prefix_of_prefix_length_le (List.prefix_append a _) starts hle
  have lengths := congrArg List.length h
  simp only [List.length_append, Key.length_accessor ns ha, Key.length_accessor ns hb,
    Key.bare_append] at lengths
  have none_more : more = [] := List.eq_nil_of_length_eq_zero (by omega)
  rw [none_more, List.append_nil]

theorem listingLine_injective (ha : IsAscii a) (hb : IsAscii b)
    (h : listingLine ns a = listingLine ns b) : a = b := by
  rcases Nat.le_total a.length b.length with hle | hle
  · exact eq_of_listingLine_eq ha hb hle h
  · exact (eq_of_listingLine_eq hb ha hle h.symm).symm

theorem listingLines_injective {xs ys : List Text} (hx : ∀ x ∈ xs, IsAscii x)
    (hy : ∀ y ∈ ys, IsAscii y) (h : xs.map (listingLine ns) = ys.map (listingLine ns)) :
    xs = ys := by
  induction xs generalizing ys with
  | nil => exact (List.map_eq_nil_iff.mp h.symm).symm
  | cons x xs ih =>
    cases ys with
    | nil => cases h
    | cons y ys =>
      obtain ⟨first, rest⟩ := List.cons.inj h
      obtain ⟨hx, hxs⟩ := List.forall_mem_cons.mp hx
      obtain ⟨hy, hys⟩ := List.forall_mem_cons.mp hy
      rw [listingLine_injective hx hy first, ih hxs hys rest]

/-- No line of an identifier is empty, so the first empty line ends a block. -/
theorem takeWhile_block (ns : Namespace) (identifiers : List Text) (more : List Text) :
    (identifiers.map (listingLine ns) ++ [] :: more).takeWhile (· ≠ []) =
      identifiers.map (listingLine ns) := by
  have filled : ∀ line ∈ identifiers.map (listingLine ns), decide (line ≠ []) = true := by
    intro line hline
    obtain ⟨identifier, -, rfl⟩ := List.mem_map.mp hline
    simp [listingLine]
  rw [List.takeWhile_append_of_pos filled]
  simp

/-- The lines tell the rows: a block is read up to its empty line, and what follows is read as the
other blocks. -/
theorem rows_of_lines {rows others : List Finding}
    (hr : ∀ row ∈ rows, ∀ identifier ∈ row.2, IsAscii identifier)
    (ho : ∀ row ∈ others, ∀ identifier ∈ row.2, IsAscii identifier)
    (h : rows.flatMap (blockLines ns) = others.flatMap (blockLines ns)) : rows = others := by
  induction rows generalizing others with
  | nil =>
    cases others with
    | nil => rfl
    | cons row others => cases h
  | cons row rows ih =>
    cases others with
    | nil => cases h
    | cons row' others =>
      simp only [List.flatMap_cons, blockLines, List.append_assoc, List.cons_append,
        List.nil_append, List.cons.injEq] at h
      obtain ⟨path, lines⟩ := h
      obtain ⟨hrow, hrows⟩ := List.forall_mem_cons.mp hr
      obtain ⟨hrow', hothers⟩ := List.forall_mem_cons.mp ho
      have block := congrArg (List.takeWhile (· ≠ [])) lines
      rw [takeWhile_block, takeWhile_block] at block
      have identifiers := listingLines_injective hrow hrow' block
      rw [identifiers, List.append_cancel_left_eq, List.cons.injEq] at lines
      rw [Prod.ext path identifiers, ih hrows hothers lines.2]

end Unambiguous

def Ascii (report : Report) : Prop :=
  ∀ finding ∈ report.findings, ∀ identifier ∈ finding.2, IsAscii identifier

instance (report : Report) : Decidable report.Ascii :=
  List.decidableBAll (fun finding : Finding => ∀ identifier ∈ finding.2, IsAscii identifier)
    report.findings

theorem Ascii.sorted (h : report.Ascii) :
    ∀ row ∈ report.sorted, ∀ identifier ∈ row.2, IsAscii identifier := by
  intro row hrow identifier hi
  obtain ⟨finding, hf, rfl⟩ := mem_sorted.mp hrow
  exact h finding hf identifier ((sort_perm _).mem_iff.mp hi)

/-- Two listings are the same text just if the reports have the same paths and, for each of them,
the same identifiers as often. The text shows the paths and the identifiers of each in order. -/
theorem listing_determines (ns : Namespace) (report other : Report) (hn : '\n' ∉ ns.name)
    (hr : report.SingleLined) (ho : other.SingleLined) (ar : report.Ascii) (ao : other.Ascii) :
    (report.listing ns = other.listing ns ↔
      (∀ path, path ∈ report.paths ↔ path ∈ other.paths) ∧
        ∀ path, (report.identifiersOf path).Perm (other.identifiersOf path)) ∧
    ∃ rows, report.IsSorted rows ∧
      splitOn '\n' (report.listing ns) = rows.flatMap (blockLines ns) ++ [[]] := by
  refine ⟨?_, report.sorted, report.sorted_isSorted, splitOn_listing hn hr⟩
  rw [← sorted_eq_iff]
  constructor
  · intro h
    have lines := congrArg (splitOn '\n') h
    rw [splitOn_listing hn hr, splitOn_listing hn ho, List.append_cancel_right_eq] at lines
    exact rows_of_lines ar.sorted ao.sorted lines
  · intro h
    rw [listing, listing, h]

def lookalikes (identifier : Text) : Report :=
  ofList [("b.strings".toList, [identifier, "a  l10n.a".toList, "a".toList]),
    ("  a  l10n.a".toList, [])]

/-- Both identifiers have the key `l10n.xy`. -/
theorem listing_determines_lookalikes :
    '\n' ∉ Namespace.standard.name ∧ (lookalikes "x_y".toList).SingleLined ∧
    (lookalikes "xy".toList).SingleLined ∧ (lookalikes "x_y".toList).Ascii ∧
    (lookalikes "xy".toList).Ascii ∧
    (lookalikes "x_y".toList).listing .standard ≠ (lookalikes "xy".toList).listing .standard := by
  have hn : '\n' ∉ Namespace.standard.name := by decide
  have hr : (lookalikes "x_y".toList).SingleLined := by decide
  have ho : (lookalikes "xy".toList).SingleLined := by decide
  have ar : (lookalikes "x_y".toList).Ascii := by decide
  have ao : (lookalikes "xy".toList).Ascii := by decide
  obtain ⟨same, -⟩ := listing_determines .standard _ _ hn hr ho ar ao
  refine ⟨hn, hr, ho, ar, ao, ?_⟩
  intro h
  exact absurd ((same.mp h).2 "b.strings".toList) (by decide)

end Report

end StringsAudit
