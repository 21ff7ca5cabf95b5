import StringsAudit.Proofs.Splitting

/-!
# Sources apart

No token holds a newline when the namespace has none, so a newline separates what stands before
it from what stands behind it: the tokens of joined texts are those of the texts, and so are the
usages. With a newline in the namespace this is false.
-/

set_option autoImplicit false

namespace StringsAudit.Token

open Text

variable {ns : Namespace}

theorem dropLeading?_append_sep {sep : Char} {lead : Text} (h : sep ∉ lead) (a b : Text) :
    dropLeading? lead (a ++ sep :: b) = (dropLeading? lead a).map (· ++ sep :: b) := by
  induction lead generalizing a with
  | nil => simp [dropLeading?]
  | cons l lead ih =>
    simp only [List.mem_cons, not_or] at h
    cases a with
    | nil => simp [dropLeading?, h.1]
    | cons c a =>
      simp only [List.cons_append, dropLeading?]
      split
      · exact ih h.2 a
      · rfl

theorem takeWhile_append_cons {c : Char} (hc : isMemberChar c = false) (a b : Text) :
    (a ++ c :: b).takeWhile isMemberChar = a.takeWhile isMemberChar := by
  induction a with
  | nil => simp [hc]
  | cons d a ih => simp [List.takeWhile_cons, ih]

theorem accessorAt?_append_newline (h : '\n' ∉ ns.name) (a b : Text) :
    accessorAt? ns (a ++ '\n' :: b) = accessorAt? ns a := by
  have hl : '\n' ∉ ns.name ++ ['.'] := by simpa using h
  have hm : isMemberChar '\n' = false := by decide
  rw [accessorAt?, accessorAt?, dropLeading?_append_sep hl]
  cases dropLeading? (ns.name ++ ['.']) a with
  | none => rfl
  | some rest => simp only [Option.map_some, takeWhile_append_cons hm]

/-- A quote that is not found before the newline is not found on the same line. -/
theorem newline_mem_of_cutAt {a b before after : Text} (ha : '"' ∉ a)
    (h : cutAt '"' (a ++ '\n' :: b) = some (before, after)) : '\n' ∈ before := by
  obtain ⟨hc, -⟩ := cutAt_eq_some_iff.mp h
  rcases List.append_eq_append_iff.mp hc with ⟨more, rfl, hm⟩ | ⟨more, rfl, hm⟩
  · cases more with
    | nil => simp at hm
    | cons c more =>
      simp only [List.cons_append, List.cons.injEq] at hm
      rw [← hm.1]
      simp
  · cases more with
    | nil => simp at hm
    | cons c more =>
      simp only [List.cons_append, List.cons.injEq] at hm
      simp [← hm.1] at ha

theorem literalAt?_append_newline (a b : Text) :
    literalAt? (a ++ '\n' :: b) = literalAt? a := by
  by_cases h : ∃ rest, a = '"' :: '@' :: rest
  · obtain ⟨rest, rfl⟩ := h
    simp only [List.cons_append, literalAt?]
    cases hc : cutAt '"' rest with
    | some cut =>
      obtain ⟨hr, hq⟩ := cutAt_eq_some_iff.mp hc
      have hb : cutAt '"' (rest ++ '\n' :: b) = some (cut.1, cut.2 ++ '\n' :: b) :=
        cutAt_eq_some_iff.mpr ⟨by simp [hr], hq⟩
      rw [hb]
    | none =>
      have hq : '"' ∉ rest := cutAt_eq_none_iff.mp hc
      cases hb : cutAt '"' (rest ++ '\n' :: b) with
      | none => rfl
      | some cut => simp [newline_mem_of_cutAt hq hb]
  · have ha : ∀ rest, a = '"' :: '@' :: rest → False := fun rest hr => h ⟨rest, hr⟩
    have hb : ∀ rest, a ++ '\n' :: b = '"' :: '@' :: rest → False := by
      intro rest hr
      cases a with
      | nil => simp at hr
      | cons c a =>
        cases a with
        | nil => simp at hr
        | cons d tail =>
          simp only [List.cons_append, List.cons.injEq] at hr
          exact ha tail (by rw [hr.1, hr.2.1])
    rw [literalAt?.eq_2 _ ha, literalAt?.eq_2 _ hb]

theorem at?_append_newline (h : '\n' ∉ ns.name) (a b : Text) :
    at? ns (a ++ '\n' :: b) = at? ns a := by
  rw [at?, at?, accessorAt?_append_newline h, literalAt?_append_newline]

theorem at?_nil (ns : Namespace) : at? ns [] = none := by
  cases h : at? ns [] with
  | none => rfl
  | some token =>
    obtain ⟨rest, hr⟩ := text_of_at? h
    exact absurd (List.append_eq_nil_iff.mp hr.symm).1 (text_ne_nil ns token)

theorem all_append_newline (h : '\n' ∉ ns.name) (a b : Text) :
    all ns (a ++ '\n' :: b) = all ns a ++ all ns b := by
  induction a using token_induction ns with
  | nil =>
    have hn : at? ns ('\n' :: b) = none := (at?_append_newline h [] b).trans (at?_nil ns)
    rw [List.nil_append, all_of_at?_none hn, all_nil, List.nil_append]
  | token token rest ht ih =>
    have hb := (at?_append_newline h (token.text ns ++ rest) b).trans ht
    rw [all_of_at? ht rfl, all_of_at? hb (List.append_assoc _ _ _), ih, List.cons_append]
  | skip c rest hc ih =>
    have hb := (at?_append_newline h (c :: rest) b).trans hc
    rw [List.cons_append] at hb ⊢
    rw [all_of_at?_none hc, all_of_at?_none hb, ih]

theorem all_joinWith (h : '\n' ∉ ns.name) (texts : List Text) :
    all ns (joinWith '\n' texts) = texts.flatMap (all ns) := by
  induction texts with
  | nil => rfl
  | cons text texts ih =>
    cases texts with
    | nil => simp [joinWith]
    | cons next texts =>
      rw [joinWith_cons '\n' text (by simp), all_append_newline h, ih]
      rfl

theorem mem_usages_joinWith (h : '\n' ∉ ns.name) (texts : List Text) (key : Text) :
    key ∈ usages ns (joinWith '\n' texts) ↔ ∃ text ∈ texts, key ∈ usages ns text := by
  simp only [mem_usages, all_joinWith h, List.mem_flatMap]
  constructor
  · rintro ⟨token, ⟨text, ht, hm⟩, hk⟩
    exact ⟨text, ht, token, hm, hk⟩
  · rintro ⟨text, ht, token, hm, hk⟩
    exact ⟨token, ⟨text, ht, hm⟩, hk⟩

theorem usages_joinWith_perm (h : '\n' ∉ ns.name) {texts others : List Text}
    (hp : texts.Perm others) :
    usages ns (joinWith '\n' texts) = usages ns (joinWith '\n' others) := by
  have ht := hp.flatMap_right (all ns)
  rw [usages, usages, all_joinWith h, all_joinWith h]
  apply sortDistinct_eq_iff.mpr
  intro key
  exact (ht.map _).mem_iff

/-- Joining texts by newlines swallows, splits and creates no token and no usage, in whatever
order they are joined. A text in particular has the tokens and the usages of its lines. -/
theorem usages_of_joined_texts (ns : Namespace) (h : '\n' ∉ ns.name) :
    (∀ texts, all ns (joinWith '\n' texts) = texts.flatMap (all ns)) ∧
    (∀ texts key, key ∈ usages ns (joinWith '\n' texts) ↔ ∃ text ∈ texts, key ∈ usages ns text) ∧
    (∀ texts others, texts.Perm others →
      usages ns (joinWith '\n' texts) = usages ns (joinWith '\n' others)) ∧
    (∀ source key, key ∈ usages ns source ↔
      ∃ line ∈ splitOn '\n' source, key ∈ usages ns line) := by
  refine ⟨all_joinWith h, mem_usages_joinWith h, fun _ _ => usages_joinWith_perm h, ?_⟩
  intro source key
  have hs := mem_usages_joinWith h (splitOn '\n' source) key
  rwa [joinWith_splitOn] at hs

/-- An open literal and a trailing namespace at the end of two files, and their continuations
at the heads of the next ones. -/
theorem usages_of_joined_texts_open :
    '\n' ∉ Namespace.standard.name ∧
    all .standard (joinWith '\n' ["\"@a".toList, "b\" L10n".toList, ".c L10n.d".toList]) =
      [accessor "d".toList] := by
  have h : '\n' ∉ Namespace.standard.name := by decide
  refine ⟨h, ?_⟩
  rw [(usages_of_joined_texts .standard h).1]
  decide

/-- A namespace with a newline can start in one text and end in the next. -/
example : ∃ (ns : Namespace) (a b : Text),
    all ns (joinWith '\n' [a, b]) ≠ all ns a ++ all ns b :=
  ⟨⟨['\n'], by decide⟩, [], ".x".toList, by decide⟩

end StringsAudit.Token
