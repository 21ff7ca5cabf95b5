import Mathlib.Data.List.Infix
import StringsAudit.Proofs.Sorting
import StringsAudit.FileTree.Walk

/-!
# Spots below a directory

A spot is where a file lies below a directory: the subdirectories that lead to it, and its name.
Spots are listed directory by directory, and no two of them have the same path.
-/

set_option autoImplicit false

namespace StringsAudit

structure Spot where
  above : Location
  name : Text
  deriving DecidableEq, Repr

namespace Spot

def place (spot : Spot) : Location := spot.above ++ [spot.name]

def inside (name : Text) (spot : Spot) : Spot := ⟨name :: spot.above, spot.name⟩

inductive Before : Spot → Spot → Prop
  | names {a b : Text} (less : a < b) : Before ⟨[], a⟩ ⟨[], b⟩
  | deeper {a b d : Text} {more : Location} : Before ⟨[], a⟩ ⟨d :: more, b⟩
  | parting {a b d e : Text} {more rest : Location} (less : d < e) :
      Before ⟨d :: more, a⟩ ⟨e :: rest, b⟩
  | within {a b d : Text} {more rest : Location} (below : Before ⟨more, a⟩ ⟨rest, b⟩) :
      Before ⟨d :: more, a⟩ ⟨d :: rest, b⟩

theorem Before.asymm {s t : Spot} (h : Before s t) : ¬ Before t s := by
  induction h with
  | names less =>
    intro back
    cases back with
    | names back => exact List.lt_irrefl _ (List.lt_trans less back)
  | deeper => exact fun back => nomatch back
  | parting less =>
    intro back
    cases back with
    | parting back => exact List.lt_irrefl _ (List.lt_trans less back)
    | within => exact List.lt_irrefl _ less
  | within _ ih =>
    intro back
    cases back with
    | parting back => exact List.lt_irrefl _ back
    | within back => exact ih back

theorem Before.ne {s t : Spot} (h : Before s t) : s ≠ t := by
  rintro rfl
  exact h.asymm h

theorem nodup_of_pairwise_before {spots : List Spot} (h : spots.Pairwise Before) : spots.Nodup :=
  h.imp Before.ne

/-- The order of the spots leaves no choice of how to list them. -/
theorem eq_of_pairwise_before {spots others : List Spot} (hs : spots.Pairwise Before)
    (ho : others.Pairwise Before) (h : ∀ spot, spot ∈ spots ↔ spot ∈ others) : spots = others := by
  have hp : spots.Perm others := (List.perm_ext_iff_of_nodup (nodup_of_pairwise_before hs)
    (nodup_of_pairwise_before ho)).mpr h
  refine hp.eq_of_pairwise ?_ hs ho
  intro s t _ _ hst hts
  exact absurd hts hst.asymm

end Spot

namespace Path

variable {base other : Text} {place place' : Location}

def below (base : Text) (place : Location) : Text := place.foldl join base

def opened (base : Text) : Text := if base.getLast? = some '/' then base else base ++ ['/']

def IsName (name : Text) : Prop := name ≠ [] ∧ '/' ∉ name

instance (name : Text) : Decidable (IsName name) := inferInstanceAs (Decidable (_ ∧ _))

theorem join_eq (base name : Text) : join base name = opened base ++ name := by
  rw [join, opened]
  split <;> simp

theorem opened_join (base : Text) {name : Text} (h : IsName name) :
    opened (join base name) = opened base ++ name ++ ['/'] := by
  have hl : (opened base ++ name).getLast? ≠ some '/' := by
    rw [List.getLast?_append_of_ne_nil _ h.1]
    intro he
    exact h.2 (List.mem_of_getLast? he)
  rw [join_eq, opened, if_neg hl]

theorem below_cons (base name : Text) (place : Location) :
    below base (name :: place) = below (join base name) place := rfl

theorem below_eq (base : Text) (hn : ∀ name ∈ place, IsName name) (hp : place ≠ []) :
    below base place = opened base ++ Text.joinWith '/' place := by
  induction place generalizing base with
  | nil => exact absurd rfl hp
  | cons name place ih =>
    obtain ⟨hname, hrest⟩ := List.forall_mem_cons.mp hn
    cases place with
    | nil => exact join_eq base name
    | cons next place =>
      rw [below_cons, ih (join base name) hrest (by simp), opened_join base hname,
        Text.joinWith_cons '/' name (by simp)]
      simp

/-- Names are found again in the path. -/
theorem eq_of_below_eq (hn : ∀ name ∈ place, IsName name) (hn' : ∀ name ∈ place', IsName name)
    (hp : place ≠ []) (hp' : place' ≠ []) (h : below base place = below base place') :
    place = place' := by
  rw [below_eq base hn hp, below_eq base hn' hp'] at h
  have hj := congrArg (Text.splitOn '/') (List.append_cancel_left h)
  rwa [Text.splitOn_joinWith hp fun name hm => (hn name hm).2,
    Text.splitOn_joinWith hp' fun name hm => (hn' name hm).2] at hj

theorem prefix_below (base : Text) (place : Location) : base <+: below base place := by
  induction place generalizing base with
  | nil => exact List.prefix_refl base
  | cons name place ih =>
    refine List.IsPrefix.trans ?_ (ih (join base name))
    rw [join]
    split <;> exact List.prefix_append _ _

theorem isTooLong_of_prefix (h : base <+: other) (long : isTooLong base = true) :
    isTooLong other = true := by
  obtain ⟨more, rfl⟩ := h
  have larger : lengthLimit < Encoding.Utf8.size base := of_decide_eq_true long
  refine decide_eq_true ?_
  rw [Encoding.Utf8.size_append]
  exact Nat.lt_add_right _ larger

end Path

def Spot.path (base : Text) (spot : Spot) : Text := Path.below base spot.place

namespace Spot

variable {base : Text}

theorem path_injective {spot other : Spot} (hs : ∀ name ∈ spot.place, Path.IsName name)
    (ho : ∀ name ∈ other.place, Path.IsName name) (h : spot.path base = other.path base) :
    spot = other := by
  have he := Path.eq_of_below_eq hs ho (by simp [place]) (by simp [place]) h
  obtain ⟨ha, hn⟩ := List.append_inj' he rfl
  cases spot
  cases other
  simp_all

end Spot

end StringsAudit
