import StringsAudit.Text.Basic

/-!
# Sorted texts

Sorting puts texts in the order of their code points. Without repetitions the order is strict, so
two lists with the same members have one sorted form, and that form can stand for the set.
-/

set_option autoImplicit false

namespace StringsAudit.Text

/-- Sorting by a key puts the keys in order. -/
theorem pairwise_mergeSort_by {α : Type} (key : α → Text) (xs : List α) :
    (xs.mergeSort fun a b => decide (key a ≤ key b)).Pairwise fun a b => key a ≤ key b := by
  have ht : ∀ a b c : α, decide (key a ≤ key b) = true → decide (key b ≤ key c) = true →
      decide (key a ≤ key c) = true := by
    intro a b c
    simp only [decide_eq_true_eq]
    exact List.le_trans
  have hl : ∀ a b : α, (decide (key a ≤ key b) || decide (key b ≤ key a)) = true := by
    intro a b
    simpa using List.le_total (key a) (key b)
  exact (List.pairwise_mergeSort ht hl xs).imp of_decide_eq_true

/-- Without repeated keys the order is strict. -/
theorem pairwise_lt_mergeSort_by {α : Type} (key : α → Text) {xs : List α}
    (h : (xs.map key).Nodup) :
    (xs.mergeSort fun a b => decide (key a ≤ key b)).Pairwise fun a b => key a < key b := by
  have distinct : (xs.mergeSort fun a b => decide (key a ≤ key b)).Pairwise
      fun a b => key a ≠ key b := by
    have hp := (List.mergeSort_perm xs fun a b => decide (key a ≤ key b)).map key
    exact List.pairwise_map.mp (hp.nodup_iff.mpr h)
  refine ((pairwise_mergeSort_by key xs).and distinct).imp ?_
  rintro a b ⟨hle, hne⟩
  exact (List.le_iff_lt_or_eq.mp hle).resolve_right hne

theorem sort_pairwise (texts : List Text) : (sort texts).Pairwise (· ≤ ·) :=
  pairwise_mergeSort_by id texts

/-- A list in order is the sorted form of each list with the same members, repetitions counted. -/
theorem eq_sort_of_pairwise {xs ys : List Text} (h : xs.Pairwise (· ≤ ·)) (hp : xs.Perm ys) :
    xs = sort ys :=
  (hp.trans (sort_perm ys).symm).eq_of_pairwise (fun _ _ _ _ => List.le_antisymm) h
    (sort_pairwise ys)

theorem sort_eq_iff {xs ys : List Text} : sort xs = sort ys ↔ xs.Perm ys := by
  constructor
  · intro h
    exact (sort_perm xs).symm.trans (h ▸ sort_perm ys)
  · intro h
    exact eq_sort_of_pairwise (sort_pairwise xs) ((sort_perm xs).trans h)

/-- Equal texts of a sorted list stand side by side, so leaving out those that equal their
successor leaves none out of order. -/
theorem dropRepeated_pairwise {texts : List Text} (h : texts.Pairwise (· ≤ ·)) :
    (dropRepeated texts).Pairwise (· < ·) := by
  fun_induction dropRepeated texts with
  | case1 => exact List.Pairwise.nil
  | case2 text => exact List.pairwise_singleton _ _
  | case3 text rest ih => exact ih h.of_cons
  | case4 text next rest hn ih =>
    obtain ⟨hle, ht⟩ := List.pairwise_cons.mp h
    refine List.pairwise_cons.mpr ⟨?_, ih ht⟩
    intro other ho
    have hnext : text < next := (List.le_iff_lt_or_eq.mp (hle next (by simp))).resolve_right hn
    rcases List.mem_cons.mp (mem_dropRepeated.mp ho) with rfl | hr
    · exact hnext
    · have hno : next ≤ other := (List.pairwise_cons.mp ht).1 other hr
      exact List.not_le.mp fun hot => List.not_le.mpr hnext (List.le_trans hno hot)

theorem sortDistinct_pairwise (texts : List Text) : (sortDistinct texts).Pairwise (· < ·) :=
  dropRepeated_pairwise (sort_pairwise texts)

/-- Two strictly sorted lists with the same members are the same list. -/
theorem eq_of_pairwise_lt {xs ys : List Text} (hx : xs.Pairwise (· < ·))
    (hy : ys.Pairwise (· < ·)) (h : ∀ t, t ∈ xs ↔ t ∈ ys) : xs = ys := by
  have hne : ∀ {a b : Text}, a < b → a ≠ b := by
    intro a b hab he
    exact List.lt_irrefl b (he ▸ hab)
  have hp : xs.Perm ys :=
    (List.perm_ext_iff_of_nodup (hx.imp hne) (hy.imp hne)).mpr h
  refine hp.eq_of_pairwise ?_ hx hy
  intro a b _ _ hab hba
  exact absurd (List.lt_trans hab hba) (List.lt_irrefl a)

theorem sortDistinct_eq_iff {xs ys : List Text} :
    sortDistinct xs = sortDistinct ys ↔ ∀ t, t ∈ xs ↔ t ∈ ys := by
  constructor
  · intro h t
    rw [← mem_sortDistinct, h, mem_sortDistinct]
  · intro h
    apply eq_of_pairwise_lt (sortDistinct_pairwise xs) (sortDistinct_pairwise ys)
    intro t
    simp [h t]

end StringsAudit.Text
