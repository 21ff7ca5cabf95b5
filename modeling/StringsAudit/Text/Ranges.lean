/-!
# Tables over code points

A class of characters is an ascending list of intervals of code points, and a character map is
an ascending list of strides: the members of a stride stand a fixed step apart and move by one
distance. Looking up stops at the first entry that begins behind the code point.
-/

set_option autoImplicit false

namespace StringsAudit

structure Interval where
  first : Nat
  last : Nat
  deriving DecidableEq, Repr

def Interval.covers : List Interval → Nat → Bool
  | [], _ => false
  | i :: rest, n => i.first ≤ n && (n ≤ i.last || Interval.covers rest n)

/-- The code points `first`, `first + step`, … up to `last`, sent to `image`, `image + step`, … -/
structure Stride where
  first : Nat
  last : Nat
  step : Nat
  image : Nat
  deriving DecidableEq, Repr

namespace Stride

def holds (r : Stride) (n : Nat) : Bool :=
  r.first ≤ n && n ≤ r.last && (n - r.first) % r.step == 0

def imageOf? : List Stride → Nat → Option Nat
  | [], _ => none
  | r :: rest, n =>
    if n < r.first then none
    else if r.holds n then some (r.image + (n - r.first))
    else imageOf? rest n

theorem exists_of_imageOf? {strides : List Stride} {n m : Nat} (h : imageOf? strides n = some m) :
    ∃ r ∈ strides, r.holds n = true ∧ m = r.image + (n - r.first) := by
  induction strides with
  | nil => simp [imageOf?] at h
  | cons r rest ih =>
    rw [imageOf?] at h
    split at h
    · simp at h
    · split at h
      next hr => exact ⟨r, by simp, hr, by simpa using h.symm⟩
      next =>
        obtain ⟨s, hs, hn, hm⟩ := ih h
        exact ⟨s, List.mem_cons_of_mem _ hs, hn, hm⟩

end Stride

end StringsAudit
