/-!
# Texts

A text is a list of Unicode scalar values. This module cuts texts at a separator, joins the
pieces again, cuts a text at the first occurrence of a character, strips texts at their ends
and sorts them by code point. Cutting and joining are inverse, and no piece holds the separator.
-/

set_option autoImplicit false

namespace StringsAudit

abbrev Text := List Char

namespace Text

def extend (c : Char) : List Text → List Text
  | [] => [[c]]
  | piece :: pieces => (c :: piece) :: pieces

def splitOn (sep : Char) : Text → List Text
  | [] => [[]]
  | c :: rest => if c = sep then [] :: splitOn sep rest else extend c (splitOn sep rest)

def joinWith (sep : Char) : List Text → Text
  | [] => []
  | [piece] => piece
  | piece :: next :: pieces => piece ++ sep :: joinWith sep (next :: pieces)

def cutAt (sep : Char) : Text → Option (Text × Text)
  | [] => none
  | c :: rest =>
    if c = sep then some ([], rest)
    else (cutAt sep rest).map fun cut => (c :: cut.1, cut.2)

def dropLeading? : Text → Text → Option Text
  | [], text => some text
  | _ :: _, [] => none
  | l :: lead, c :: rest => if c = l then dropLeading? lead rest else none

def stripStart (p : Char → Bool) (text : Text) : Text := text.dropWhile p

def stripEnd (p : Char → Bool) (text : Text) : Text := (text.reverse.dropWhile p).reverse

def strip (p : Char → Bool) (text : Text) : Text := stripEnd p (stripStart p text)

/-- Texts are compared by code point. -/
instance : LT Text := List.instLT

instance : LE Text := List.instLE

instance (a b : Text) : Decidable (a < b) := List.decidableLT a b

instance (a b : Text) : Decidable (a ≤ b) := List.decidableLE a b

def sort (texts : List Text) : List Text := texts.mergeSort fun a b => decide (a ≤ b)

def dropRepeated : List Text → List Text
  | [] => []
  | [text] => [text]
  | text :: next :: rest =>
    if text = next then dropRepeated (next :: rest) else text :: dropRepeated (next :: rest)

def sortDistinct (texts : List Text) : List Text := dropRepeated (sort texts)

theorem extend_ne_nil (c : Char) (pieces : List Text) : extend c pieces ≠ [] := by
  cases pieces <;> simp [extend]

theorem splitOn_ne_nil (sep : Char) (text : Text) : splitOn sep text ≠ [] := by
  cases text with
  | nil => simp [splitOn]
  | cons c rest => rw [splitOn]; split <;> simp [extend_ne_nil]

theorem splitOn_sep_cons (sep : Char) (rest : Text) :
    splitOn sep (sep :: rest) = [] :: splitOn sep rest := by
  simp [splitOn]

theorem splitOn_cons_of_ne {sep c : Char} (h : c ≠ sep) (rest : Text) :
    splitOn sep (c :: rest) = extend c (splitOn sep rest) := by
  simp [splitOn, h]

theorem extend_append (c : Char) {pieces : List Text} (h : pieces ≠ []) (more : List Text) :
    extend c (pieces ++ more) = extend c pieces ++ more := by
  cases pieces with
  | nil => exact absurd rfl h
  | cons piece pieces => rfl

theorem splitOn_append_sep (sep : Char) (a b : Text) :
    splitOn sep (a ++ sep :: b) = splitOn sep a ++ splitOn sep b := by
  induction a with
  | nil => simp [splitOn]
  | cons c a ih =>
    by_cases h : c = sep
    · simp [splitOn, h, ih]
    · rw [List.cons_append, splitOn_cons_of_ne h, splitOn_cons_of_ne h, ih,
        extend_append c (splitOn_ne_nil sep a)]

theorem splitOn_of_not_mem {sep : Char} {text : Text} (h : sep ∉ text) :
    splitOn sep text = [text] := by
  induction text with
  | nil => rfl
  | cons c rest ih =>
    simp only [List.mem_cons, not_or] at h
    rw [splitOn_cons_of_ne (Ne.symm h.1), ih h.2, extend]

theorem not_mem_of_mem_splitOn {sep : Char} {text piece : Text}
    (h : piece ∈ splitOn sep text) : sep ∉ piece := by
  induction text generalizing piece with
  | nil => simp [splitOn] at h; simp [h]
  | cons c rest ih =>
    by_cases hc : c = sep
    · rw [hc, splitOn_sep_cons, List.mem_cons] at h
      rcases h with rfl | h
      · simp
      · exact ih h
    · rw [splitOn_cons_of_ne hc] at h
      cases hs : splitOn sep rest with
      | nil => exact absurd hs (splitOn_ne_nil sep rest)
      | cons first pieces =>
        rw [hs, extend, List.mem_cons] at h
        rcases h with rfl | h
        · simpa [Ne.symm hc] using ih (by simp [hs])
        · exact ih (by simp [hs, h])

theorem joinWith_cons (sep : Char) (piece : Text) {pieces : List Text} (h : pieces ≠ []) :
    joinWith sep (piece :: pieces) = piece ++ sep :: joinWith sep pieces := by
  cases pieces with
  | nil => exact absurd rfl h
  | cons next pieces => rfl

theorem joinWith_extend (sep c : Char) {pieces : List Text} (h : pieces ≠ []) :
    joinWith sep (extend c pieces) = c :: joinWith sep pieces := by
  match pieces, h with
  | [piece], _ => rfl
  | piece :: next :: pieces, _ => rfl

theorem joinWith_splitOn (sep : Char) (text : Text) :
    joinWith sep (splitOn sep text) = text := by
  induction text with
  | nil => rfl
  | cons c rest ih =>
    by_cases h : c = sep
    · rw [h, splitOn_sep_cons, joinWith_cons sep [] (splitOn_ne_nil sep rest), ih]
      rfl
    · rw [splitOn_cons_of_ne h, joinWith_extend sep c (splitOn_ne_nil sep rest), ih]

theorem splitOn_joinWith {sep : Char} {pieces : List Text} (h : pieces ≠ [])
    (hs : ∀ piece ∈ pieces, sep ∉ piece) : splitOn sep (joinWith sep pieces) = pieces := by
  induction pieces with
  | nil => exact absurd rfl h
  | cons piece pieces ih =>
    have hp : sep ∉ piece := hs piece (by simp)
    cases pieces with
    | nil => exact splitOn_of_not_mem hp
    | cons next pieces =>
      rw [joinWith_cons sep piece (by simp), splitOn_append_sep, splitOn_of_not_mem hp,
        ih (by simp) fun other ho => hs other (List.mem_cons_of_mem _ ho)]
      rfl

theorem flatten_extend (c : Char) (pieces : List Text) :
    (extend c pieces).flatten = c :: pieces.flatten := by
  cases pieces <;> rfl

/-- The pieces of a text hold all of it but the separators. -/
theorem flatten_splitOn (sep : Char) (text : Text) :
    (splitOn sep text).flatten = text.filter (· ≠ sep) := by
  induction text with
  | nil => rfl
  | cons c rest ih =>
    by_cases h : c = sep
    · simp [h, splitOn_sep_cons, ih]
    · simp [h, splitOn_cons_of_ne h, flatten_extend, ih]

theorem mem_of_mem_splitOn {sep c : Char} {text piece : Text} (h : piece ∈ splitOn sep text)
    (hc : c ∈ piece) : c ∈ text := by
  have hf : c ∈ (splitOn sep text).flatten := List.mem_flatten_of_mem h hc
  rw [flatten_splitOn] at hf
  exact (List.mem_filter.mp hf).1

theorem map_joinWith (f : Char → Char) (sep : Char) (pieces : List Text) :
    (joinWith sep pieces).map f = joinWith (f sep) (pieces.map (List.map f)) := by
  fun_induction joinWith sep pieces with
  | case1 => rfl
  | case2 => rfl
  | case3 piece next pieces ih =>
    rw [List.map_append, List.map_cons, ih]
    rfl

theorem filter_joinWith {p : Char → Bool} {sep : Char} (h : p sep = true) (pieces : List Text) :
    (joinWith sep pieces).filter p = joinWith sep (pieces.map (List.filter p)) := by
  fun_induction joinWith sep pieces with
  | case1 => rfl
  | case2 => rfl
  | case3 piece next pieces ih =>
    rw [List.filter_append, List.filter_cons_of_pos h, ih]
    rfl

theorem cutAt_eq_some_iff {sep : Char} {text before after : Text} :
    cutAt sep text = some (before, after) ↔ text = before ++ sep :: after ∧ sep ∉ before := by
  induction text generalizing before with
  | nil => simp [cutAt]
  | cons c rest ih =>
    by_cases h : c = sep
    · cases before with
      | nil => simp [cutAt, h]
      | cons b before =>
        simp only [cutAt, h, if_true, Option.some.injEq, Prod.mk.injEq, List.cons_append,
          List.cons.injEq, List.mem_cons, not_or]
        constructor
        · rintro ⟨hb, -⟩
          exact absurd hb (by simp)
        · rintro ⟨⟨hb, -⟩, hn, -⟩
          exact absurd hb hn
    · cases before with
      | nil => simp [cutAt, h]
      | cons b before =>
        simp only [cutAt, h, if_false, Option.map_eq_some_iff, Prod.exists, Prod.mk.injEq,
          List.cons.injEq, List.cons_append, List.mem_cons, not_or]
        constructor
        · rintro ⟨x, y, hxy, ⟨rfl, rfl⟩, rfl⟩
          exact ⟨⟨rfl, (ih.1 hxy).1⟩, Ne.symm h, (ih.1 hxy).2⟩
        · rintro ⟨⟨rfl, hr⟩, -, hn⟩
          exact ⟨before, after, ih.2 ⟨hr, hn⟩, ⟨rfl, rfl⟩, rfl⟩

theorem cutAt_eq_none_iff {sep : Char} {text : Text} : cutAt sep text = none ↔ sep ∉ text := by
  induction text with
  | nil => simp [cutAt]
  | cons c rest ih =>
    by_cases h : c = sep
    · simp [cutAt, h]
    · simp [cutAt, h, ih, Ne.symm h]

theorem dropLeading?_eq_some_iff {lead text rest : Text} :
    dropLeading? lead text = some rest ↔ text = lead ++ rest := by
  induction lead generalizing text with
  | nil => simp [dropLeading?]
  | cons l lead ih =>
    cases text with
    | nil => simp [dropLeading?]
    | cons c text => by_cases h : c = l <;> simp [dropLeading?, h, ih]

theorem mem_of_mem_stripEnd {p : Char → Bool} {text : Text} {c : Char}
    (h : c ∈ stripEnd p text) : c ∈ text := by
  rw [stripEnd, List.mem_reverse] at h
  exact List.mem_reverse.mp ((List.dropWhile_sublist p).mem h)

theorem sort_perm (texts : List Text) : (sort texts).Perm texts := List.mergeSort_perm _ _

theorem mem_dropRepeated {texts : List Text} {t : Text} : t ∈ dropRepeated texts ↔ t ∈ texts := by
  fun_induction dropRepeated texts with
  | case1 => rfl
  | case2 => rfl
  | case3 text rest ih =>
    rw [ih]
    simp
  | case4 text next rest h ih => rw [List.mem_cons, ih, List.mem_cons (l := next :: rest)]

@[simp] theorem mem_sortDistinct {texts : List Text} {t : Text} :
    t ∈ sortDistinct texts ↔ t ∈ texts := by
  rw [sortDistinct, mem_dropRepeated, (sort_perm texts).mem_iff]

end Text

end StringsAudit
