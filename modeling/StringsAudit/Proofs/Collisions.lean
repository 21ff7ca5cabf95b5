import StringsAudit.Proofs.Naming

/-!
# Colliding keys

The accessor key of an ASCII identifier is the identifier without its underscores, lowered behind
the namespace. So identifiers have one key just if they are the same but for underscores and case,
whatever the namespace is and however its end is lowered.
-/

set_option autoImplicit false

namespace StringsAudit.Key

open Text

variable {identifier other : Text}

theorem accessor_eq_lower (ns : Namespace) (h : IsAscii identifier) :
    accessor ns identifier = lower (ns.name ++ '.' :: identifier.filter (· ≠ '_')) := by
  have hf : IsAscii (identifier.filter (· ≠ '_')) := fun c hc => h c (List.mem_of_mem_filter hc)
  rw [accessor, lower_append_eq_iff (isAscii_cons.mpr ⟨by decide, isAscii_accessorName h⟩)
    (isAscii_cons.mpr ⟨by decide, hf⟩), List.map_cons, map_toLower_accessorName h, bare,
    List.map_cons]

theorem accessor_eq_iff (ns : Namespace) (h : IsAscii identifier) (ho : IsAscii other) :
    accessor ns identifier = accessor ns other ↔ bare identifier = bare other := by
  rw [accessor, accessor,
    lower_append_eq_iff (isAscii_cons.mpr ⟨by decide, isAscii_accessorName h⟩)
      (isAscii_cons.mpr ⟨by decide, isAscii_accessorName ho⟩),
    List.map_cons, List.map_cons, map_toLower_accessorName h, map_toLower_accessorName ho,
    List.cons.injEq]
  exact and_iff_right rfl

/-- The accessor key of an ASCII identifier is the identifier without its underscores, lowered
behind the namespace. So two such identifiers have one key just if they are the same without
underscores and ASCII case, and no other used key can stand for an identifier's own. -/
theorem accessor_normal_form (ns : Namespace) (identifier : Text) (h : IsAscii identifier) :
    accessor ns identifier = lower (ns.name ++ '.' :: identifier.filter (· ≠ '_')) ∧
    (∀ other, IsAscii other → (accessor ns identifier = accessor ns other ↔
      (identifier.filter (· ≠ '_')).map Char.toLower =
        (other.filter (· ≠ '_')).map Char.toLower)) ∧
    ∀ used : List Text, (∀ other ∈ used, IsAscii other) →
      (accessor ns identifier ∈ used.map (accessor ns) ↔ ∃ other ∈ used,
        (other.filter (· ≠ '_')).map Char.toLower =
          (identifier.filter (· ≠ '_')).map Char.toLower) := by
  refine ⟨accessor_eq_lower ns h, fun other ho => accessor_eq_iff ns h ho, ?_⟩
  intro used ascii
  rw [List.mem_map]
  constructor
  · rintro ⟨other, hm, he⟩
    exact ⟨other, hm, (accessor_eq_iff ns (ascii other hm) h).mp he⟩
  · rintro ⟨other, hm, he⟩
    exact ⟨other, hm, (accessor_eq_iff ns (ascii other hm) h).mpr he⟩

/-- The sigma at the end of the namespace is final where no letter follows the dot. -/
theorem accessor_normal_form_sigma :
    IsAscii "__Home_.title.".toList ∧ IsAscii "_".toList ∧
    accessor ⟨"ΑΣ".toList, by decide⟩ "__Home_.title.".toList = "ασ.home.title.".toList ∧
    accessor ⟨"ΑΣ".toList, by decide⟩ "_".toList = "ας.".toList ∧
    accessor ⟨"ΑΣ".toList, by decide⟩ "__Home_.title.".toList =
      accessor ⟨"ΑΣ".toList, by decide⟩ "HOME.ti_tle.".toList := by
  have h : IsAscii "__Home_.title.".toList := by decide
  have hu : IsAscii "_".toList := by decide
  have ho : IsAscii "HOME.ti_tle.".toList := by decide
  obtain ⟨lowered, same, -⟩ := accessor_normal_form ⟨"ΑΣ".toList, by decide⟩ _ h
  obtain ⟨final, -⟩ := accessor_normal_form ⟨"ΑΣ".toList, by decide⟩ _ hu
  refine ⟨h, hu, lowered.trans (by decide +kernel), final.trans (by decide +kernel), ?_⟩
  exact (same _ ho).mpr (by decide)

end StringsAudit.Key
