import StringsAudit.Key
import StringsAudit.Proofs.Ascii
import StringsAudit.Proofs.Splitting

/-!
# Names of accessors

The camel-case name of an ASCII identifier is, case aside, the identifier without its underscores.
So a name can stand in source text as the run of an accessor just if the identifier is made of
members and underscores and is not made of underscores alone.
-/

set_option autoImplicit false

namespace StringsAudit

namespace Token

theorem isMember_iff (c : Char) : IsMember c ↔ c.isAlphanum = true ∨ c = '.' := by
  rw [← isMemberChar_iff, isMemberChar, Bool.or_eq_true, beq_iff_eq]

theorem isMember_of_isAlpha {c : Char} (h : c.isAlpha = true) : IsMember c := by
  rw [isMember_iff, Char.isAlphanum, h]
  exact .inl rfl

theorem isMember_toLower_iff (c : Char) : IsMember c.toLower ↔ IsMember c := by
  by_cases hu : c.isUpper = true
  · have hc : c.isAlpha = true := by simp [Char.isAlpha, hu]
    have hl : c.toLower.isAlpha = true := by rw [Char.isAlpha_toLower_eq_isAlpha, hc]
    exact iff_of_true (isMember_of_isAlpha hl) (isMember_of_isAlpha hc)
  · rw [Char.toLower_eq_of_not_isUpper hu]

theorem IsMember.lt {c : Char} (h : IsMember c) : c.toNat < 128 := by
  rcases h with h | h | h | rfl
  · exact Nat.lt_of_le_of_lt (show c.toNat ≤ 90 from h.2) (by decide)
  · exact Nat.lt_of_le_of_lt (show c.toNat ≤ 122 from h.2) (by decide)
  · exact Nat.lt_of_le_of_lt (show c.toNat ≤ 57 from h.2) (by decide)
  · decide

end Token

namespace Key

open Text Token

variable {identifier segment : Text}

def bare (identifier : Text) : Text := (identifier.filter (· ≠ '_')).map Char.toLower

structure Nameable (identifier : Text) : Prop where
  spelled : ∀ c ∈ identifier, IsMember c ∨ c = '_'
  not_blank : ∃ c ∈ identifier, c ≠ '_'

instance (identifier : Text) : Decidable (Nameable identifier) :=
  decidable_of_iff ((identifier.all fun c => isMemberChar c || c == '_') ∧
    identifier.any (· != '_')) (by
      simp only [List.all_eq_true, Bool.or_eq_true, isMemberChar_iff, beq_iff_eq, List.any_eq_true,
        bne_iff_ne]
      exact ⟨fun h => ⟨h.1, h.2⟩, fun h => ⟨h.spelled, h.not_blank⟩⟩)

theorem mem_bare_iff (identifier : Text) (c : Char) :
    c ∈ bare identifier ↔ ∃ d ∈ identifier, d ≠ '_' ∧ d.toLower = c := by
  simp [bare, and_assoc]

theorem bare_map_toLower (identifier : Text) :
    bare (identifier.map Char.toLower) = bare identifier := by
  have hu : ∀ c : Char, decide (c.toLower ≠ '_') = decide (c ≠ '_') := by
    intro c
    rw [decide_eq_decide, ne_eq, toLower_eq_iff (by decide)]
  rw [bare, List.filter_map, List.map_map, bare]
  simp only [Function.comp_def, hu, Char.toLower_toLower_eq_toLower]

theorem bare_eq_joinWith (identifier : Text) :
    bare identifier = joinWith '.' ((splitOn '.' identifier).map bare) := by
  have hj := congrArg bare (joinWith_splitOn '.' identifier)
  rw [← hj, bare, filter_joinWith (by decide), map_joinWith, List.map_map]
  rfl

/-- Whether the first word is capitalized or not, a segment's name is the segment without its
underscores, case aside. -/
theorem map_toLower_camelCase (h : IsAscii segment) (cap : Bool) :
    (camelCase segment cap).map Char.toLower = bare segment := by
  have hl : IsAscii (lower segment) := by
    rw [lower_of_ascii h]
    exact isAscii_map_toLower.mpr h
  have hw : ∀ word ∈ splitOn '_' (lower segment),
      (capitalize word).map Char.toLower = word.map Char.toLower := fun word hm =>
    map_toLower_capitalize (isAscii_of_mem_splitOn hl hm)
  have hf := flatten_splitOn '_' (lower segment)
  rw [camelCase]
  cases hs : splitOn '_' (lower segment) with
  | nil => exact absurd hs (splitOn_ne_nil '_' _)
  | cons word words =>
    rw [hs] at hw hf
    obtain ⟨hfirst, hrest⟩ := List.forall_mem_cons.mp hw
    have first : (if cap then capitalize word else word).map Char.toLower =
        word.map Char.toLower := by
      cases cap
      · rfl
      · exact hfirst
    have rest : (words.flatMap capitalize).map Char.toLower = words.flatten.map Char.toLower := by
      rw [List.map_flatMap, List.map_flatten, List.flatMap_def, List.map_congr_left hrest]
    calc
      ((if cap then capitalize word else word) ++ words.flatMap capitalize).map Char.toLower =
          (word :: words).flatten.map Char.toLower := by
        rw [List.map_append, first, rest, ← List.map_append, List.flatten_cons]
      _ = bare (lower segment) := by rw [hf, bare]
      _ = bare segment := by rw [lower_of_ascii h, bare_map_toLower]

theorem map_toLower_accessorName (h : IsAscii identifier) :
    (accessorName identifier).map Char.toLower = bare identifier := by
  have hc : ∀ segment ∈ splitOn '.' identifier, ∀ cap,
      (camelCase segment cap).map Char.toLower = bare segment := fun segment hm =>
    map_toLower_camelCase (isAscii_of_mem_splitOn h hm)
  rw [bare_eq_joinWith, accessorName]
  split
  next hs => exact absurd hs (splitOn_ne_nil '.' _)
  next segment hs =>
    rw [hs] at hc ⊢
    exact hc segment (by simp) true
  next first others hs =>
    rw [hs] at hc ⊢
    obtain ⟨hfirst, hothers⟩ := List.forall_mem_cons.mp hc
    rw [map_joinWith, List.map_cons, hfirst, List.map_map, List.map_cons]
    congr 2
    exact List.map_congr_left fun segment hm => hothers segment hm true

theorem isAscii_accessorName (h : IsAscii identifier) : IsAscii (accessorName identifier) := by
  rw [← isAscii_map_toLower, map_toLower_accessorName h, bare, isAscii_map_toLower]
  intro c hc
  exact h c (List.mem_of_mem_filter hc)

theorem Nameable.isAscii (h : Nameable identifier) : IsAscii identifier := by
  intro c hc
  rcases h.spelled c hc with hm | rfl
  · exact hm.lt
  · decide

theorem Nameable.isMember_accessorName (h : Nameable identifier) :
    ∀ c ∈ accessorName identifier, IsMember c := by
  intro c hc
  have hb : c.toLower ∈ bare identifier := by
    rw [← map_toLower_accessorName h.isAscii]
    exact List.mem_map_of_mem hc
  obtain ⟨d, hd, hu, heq⟩ := (mem_bare_iff identifier c.toLower).mp hb
  rw [← isMember_toLower_iff, ← heq, isMember_toLower_iff]
  exact (h.spelled d hd).resolve_right hu

theorem Nameable.accessorName_ne_nil (h : Nameable identifier) : accessorName identifier ≠ [] := by
  obtain ⟨c, hc, hu⟩ := h.not_blank
  have hb : c.toLower ∈ bare identifier := (mem_bare_iff _ _).mpr ⟨c, hc, hu, rfl⟩
  rw [← map_toLower_accessorName h.isAscii] at hb
  intro hn
  simp [hn] at hb

/-- Only a nameable identifier is named, case aside, by a run of members. -/
theorem nameable_of_run {run : Text} (hne : run ≠ []) (hr : ∀ c ∈ run, IsMember c)
    (h : run.map Char.toLower = bare identifier) : Nameable identifier := by
  constructor
  · intro c hc
    by_cases hu : c = '_'
    · exact .inr hu
    · have hb : c.toLower ∈ bare identifier := (mem_bare_iff _ _).mpr ⟨c, hc, hu, rfl⟩
      rw [← h, List.mem_map] at hb
      obtain ⟨d, hd, heq⟩ := hb
      rw [← isMember_toLower_iff, ← heq, isMember_toLower_iff]
      exact .inl (hr d hd)
  · obtain ⟨c, hc⟩ := List.exists_mem_of_ne_nil run hne
    have hb : c.toLower ∈ bare identifier := by
      rw [← h]
      exact List.mem_map_of_mem hc
    obtain ⟨d, hd, hu, -⟩ := (mem_bare_iff _ _).mp hb
    exact ⟨d, hd, hu⟩

end Key

end StringsAudit
