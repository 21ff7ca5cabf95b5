import Mathlib.Data.List.TakeWhile
import StringsAudit.Text.Basic
import StringsAudit.Text.Blank

/-!
# Stripped texts

Stripping takes away the padding at the ends of a text and keeps all between the first and the last
character that is none. So a text is its stripped form with padding around it, and padding added
at either end makes no difference.
-/

set_option autoImplicit false

namespace StringsAudit.Text

variable {p : Char → Bool} {text core padding : Text} {c : Char}

theorem stripEnd_eq (p : Char → Bool) (text : Text) :
    stripEnd p text = (stripStart p text.reverse).reverse := rfl

theorem exists_stripStart_append (p : Char → Bool) (text : Text) :
    ∃ padding, text = padding ++ stripStart p text ∧ ∀ c ∈ padding, p c = true :=
  ⟨text.takeWhile p, List.takeWhile_append_dropWhile.symm,
    fun _ hc => List.mem_takeWhile_imp hc⟩

theorem exists_stripEnd_append (p : Char → Bool) (text : Text) :
    ∃ padding, text = stripEnd p text ++ padding ∧ ∀ c ∈ padding, p c = true := by
  refine ⟨(text.reverse.takeWhile p).reverse, ?_, ?_⟩
  · rw [stripEnd, ← List.reverse_append, List.takeWhile_append_dropWhile, List.reverse_reverse]
  · intro c hc
    exact List.mem_takeWhile_imp (List.mem_reverse.mp hc)

theorem of_head?_stripStart (h : (stripStart p text).head? = some c) : p c = false := by
  have hd := List.head?_dropWhile_not p text
  rw [stripStart] at h
  rw [h] at hd
  simpa using hd

theorem of_getLast?_stripEnd (h : (stripEnd p text).getLast? = some c) : p c = false := by
  rw [stripEnd_eq, List.getLast?_reverse] at h
  exact of_head?_stripStart h

theorem stripStart_of_starts (starts : ∀ c, text.head? = some c → p c = false) :
    stripStart p text = text := by
  cases text with
  | nil => rfl
  | cons c rest => exact List.dropWhile_cons_of_neg (by simp [starts c rfl])

theorem stripEnd_of_ends (ends : ∀ c, text.getLast? = some c → p c = false) :
    stripEnd p text = text := by
  have kept : stripStart p text.reverse = text.reverse := by
    apply stripStart_of_starts
    intro c hc
    rw [List.head?_reverse] at hc
    exact ends c hc
  rw [stripEnd_eq, kept, List.reverse_reverse]

theorem stripStart_padding_append (padded : ∀ c ∈ padding, p c = true) (text : Text) :
    stripStart p (padding ++ text) = stripStart p text :=
  List.dropWhile_append_of_pos padded

theorem stripEnd_append_padding (padded : ∀ c ∈ padding, p c = true) (text : Text) :
    stripEnd p (text ++ padding) = stripEnd p text := by
  have reversed : ∀ c ∈ padding.reverse, p c = true :=
    fun c hc => padded c (List.mem_reverse.mp hc)
  rw [stripEnd_eq, List.reverse_append, stripStart_padding_append reversed, stripEnd_eq]

theorem stripStart_append_cons (kept : p c = false) (before after : Text) :
    stripStart p (before ++ c :: after) = stripStart p before ++ c :: after := by
  rw [stripStart, List.dropWhile_append, List.dropWhile_cons_of_neg (by simp [kept])]
  split
  next h => rw [stripStart, List.isEmpty_iff.mp h, List.nil_append]
  next => rfl

theorem stripEnd_append_cons (kept : p c = false) (before after : Text) :
    stripEnd p (before ++ c :: after) = before ++ c :: stripEnd p after := by
  have turned : (before ++ c :: after).reverse = after.reverse ++ c :: before.reverse := by simp
  rw [stripEnd_eq, turned, stripStart_append_cons kept, stripEnd_eq]
  simp

/-- Only the padding is stripped from a text that ends in none. -/
theorem stripEnd_append (padded : ∀ c ∈ padding, p c = true)
    (ends : ∀ c, text.getLast? = some c → p c = false) : stripEnd p (text ++ padding) = text :=
  (stripEnd_append_padding padded text).trans (stripEnd_of_ends ends)

theorem mem_of_mem_strip (h : c ∈ strip p text) : c ∈ text :=
  (List.dropWhile_sublist p).mem (mem_of_mem_stripEnd h)

theorem strip_of_ends (starts : ∀ c, core.head? = some c → p c = false)
    (ends : ∀ c, core.getLast? = some c → p c = false) : strip p core = core := by
  rw [strip, stripStart_of_starts starts, stripEnd_of_ends ends]

theorem strip_padding_append (padded : ∀ c ∈ padding, p c = true) (text : Text) :
    strip p (padding ++ text) = strip p text := by
  rw [strip, stripStart_padding_append padded, strip]

theorem strip_append_padding (padded : ∀ c ∈ padding, p c = true) (text : Text) :
    strip p (text ++ padding) = strip p text := by
  rw [strip, stripStart, List.dropWhile_append]
  split
  next h =>
    have start : stripStart p text = [] := List.isEmpty_iff.mp h
    rw [List.dropWhile_eq_nil_iff.mpr padded, strip, start]
  next => exact stripEnd_append_padding padded _

/-- The character that stripping the start leaves in front is no padding, so it stays. -/
theorem head?_strip (p : Char → Bool) (text : Text) :
    (strip p text).head? = (stripStart p text).head? := by
  obtain ⟨padding, shape, padded⟩ := exists_stripEnd_append p (stripStart p text)
  cases hs : strip p text with
  | cons c rest =>
    rw [strip] at hs
    rw [shape, hs]
    rfl
  | nil =>
    rw [strip] at hs
    rw [hs, List.nil_append] at shape
    rw [shape]
    cases padding with
    | nil => rfl
    | cons c rest =>
      have kept : p c = false := of_head?_stripStart (congrArg List.head? shape)
      exact absurd (padded c List.mem_cons_self) (by simp [kept])

/-- What stands around a character that is kept is stripped at the outer end alone. -/
theorem strip_append_cons {sep : Char} (kept : p sep = false) (before after : Text) :
    strip p (before ++ sep :: after) = stripStart p before ++ sep :: stripEnd p after := by
  rw [strip, stripStart_append_cons kept, stripEnd_append_cons kept]

inductive Padded (core : Text) : Text → Prop
  | mk {before after : Text} (blank : ∀ c ∈ before ++ after, isBlank c = true)
      (starts : ∀ c, core.head? = some c → isBlank c = false)
      (ends : ∀ c, core.getLast? = some c → isBlank c = false) :
      Padded core (before ++ core ++ after)

theorem padded_iff : Padded core text ↔ strip isBlank text = core := by
  constructor
  · intro h
    cases h with
    | mk blank starts ends =>
      obtain ⟨before, after⟩ := List.forall_mem_append.mp blank
      rw [strip_append_padding after, strip_padding_append before, strip_of_ends starts ends]
  · intro h
    subst h
    obtain ⟨before, front, blankBefore⟩ := exists_stripStart_append isBlank text
    obtain ⟨after, back, blankAfter⟩ := exists_stripEnd_append isBlank (stripStart isBlank text)
    have shape : text = before ++ strip isBlank text ++ after := by
      rw [List.append_assoc, strip, ← back, ← front]
    have padded : Padded (strip isBlank text) (before ++ strip isBlank text ++ after) := by
      apply Padded.mk
      · exact List.forall_mem_append.mpr ⟨blankBefore, blankAfter⟩
      · intro c hc
        rw [head?_strip] at hc
        exact of_head?_stripStart hc
      · exact fun c hc => of_getLast?_stripEnd hc
    rwa [← shape] at padded

end StringsAudit.Text
