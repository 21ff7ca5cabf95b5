import Mathlib.Data.List.Infix
import StringsAudit.Proofs.LineForms

/-!
# Block comments

Strings files are read line by line, so a comment that spans lines is read like the lines around
it. It is ignored just if no line of it begins with a quote; the first line cannot, for it begins
with the opening of the comment.
-/

set_option autoImplicit false

namespace StringsAudit

namespace Text

variable {sep c : Char}

theorem head?_of_splitOn_cons (h : c ≠ sep) {text first : Text} {more : List Text}
    (hs : splitOn sep text = first :: more) : first.head? = some c ↔ text.head? = some c := by
  cases text with
  | nil =>
    obtain ⟨rfl, -⟩ := List.cons.inj hs
    rfl
  | cons d rest =>
    by_cases hd : d = sep
    · rw [hd, splitOn_sep_cons] at hs
      obtain ⟨rfl, -⟩ := List.cons.inj hs
      simpa [hd] using h.symm
    · rw [splitOn_cons_of_ne hd] at hs
      cases hr : splitOn sep rest with
      | nil => exact absurd hr (splitOn_ne_nil sep rest)
      | cons piece pieces =>
        rw [hr, extend] at hs
        obtain ⟨rfl, -⟩ := List.cons.inj hs
        rfl

/-- A piece behind the first begins with the character just if the separator stands before that
character somewhere. -/
theorem exists_head_tail_splitOn (h : c ≠ sep) (text : Text) :
    (∃ piece ∈ (splitOn sep text).tail, piece.head? = some c) ↔ [sep, c] <:+: text := by
  induction text with
  | nil => simp [splitOn]
  | cons d rest ih =>
    rw [List.infix_cons_iff]
    by_cases hd : d = sep
    · subst hd
      rw [splitOn_sep_cons, List.tail_cons]
      cases hr : splitOn d rest with
      | nil => exact absurd hr (splitOn_ne_nil d rest)
      | cons piece pieces =>
        rw [hr, List.tail_cons] at ih
        have starts : rest.head? = some c ↔ [d, c] <+: d :: rest := by
          simp [List.head?_eq_some_iff, List.IsPrefix, eq_comm]
        rw [List.exists_mem_cons_iff, ih, head?_of_splitOn_cons h hr, starts]
    · have tail : (splitOn sep (d :: rest)).tail = (splitOn sep rest).tail := by
        rw [splitOn_cons_of_ne hd]
        cases splitOn sep rest <;> rfl
      rw [tail, ih]
      simp [List.cons_prefix_cons, Ne.symm hd]

end Text

open Text

variable {origin line body : Text}

def blockComment (body : Text) : Text := "/*".toList ++ body ++ "*/".toList

theorem infix_blockComment_iff : ['\n', '"'] <:+: blockComment body ↔ ['\n', '"'] <:+: body := by
  -- it cannot end at either of the two closing characters
  have ends : ∀ (c : Char) (text : Text), c ≠ '"' → ¬ ['\n', '"'] <:+ text ++ [c] := by
    rintro c text hc ⟨front, hf⟩
    have last := congrArg List.getLast? hf
    simp [hc.symm] at last
  have closed : ['\n', '"'] <:+: body ++ ['*'] ++ ['/'] ↔ ['\n', '"'] <:+: body := by
    simp only [List.infix_concat_iff, ends '/' _ (by decide), ends '*' _ (by decide), false_or]
  simpa [blockComment, List.infix_cons_iff, List.cons_prefix_cons] using closed

theorem unquoted_blockComment_iff :
    (∀ line ∈ splitOn '\n' (blockComment body), line.head? ≠ some '"') ↔
      ¬ ['\n', '"'] <:+: body := by
  rw [← infix_blockComment_iff, ← exists_head_tail_splitOn (by decide)]
  cases hs : splitOn '\n' (blockComment body) with
  | nil => exact absurd hs (splitOn_ne_nil _ _)
  | cons first more =>
    have hf : first.head? ≠ some '"' := by
      rw [ne_eq, head?_of_splitOn_cons (by decide) hs]
      simp [blockComment]
    rw [List.forall_mem_cons, List.tail_cons]
    simp [hf]

/-- A text gives nothing just if none of its lines begins with a quote. -/
theorem silent_iff (origin text : Text) :
    identifiers text = [] ∧ lineLog origin text = [] ↔
      ∀ line ∈ splitOn '\n' text, line.head? ≠ some '"' := by
  have count := length_add_joinWith origin fun line (hm : line ∈ splitOn '\n' text) =>
    not_mem_of_mem_splitOn hm
  rw [joinWith_splitOn] at count
  rw [← List.length_eq_zero_iff, ← List.length_eq_zero_iff, ← Nat.add_eq_zero_iff, count,
    List.countP_eq_zero]
  simp

/-- A block comment between lines of a strings file gives what its own lines give, and the file is
read as without it just if no newline of the comment is followed by a quote. -/
theorem comment_ignored_iff (origin : Text) (before after : List Text) (body : Text) :
    identifiers (joinWith '\n' (before ++ blockComment body :: after)) =
      identifiers (joinWith '\n' before) ++ identifiers (blockComment body) ++
        identifiers (joinWith '\n' after) ∧
    lineLog origin (joinWith '\n' (before ++ blockComment body :: after)) =
      lineLog origin (joinWith '\n' before) ++ lineLog origin (blockComment body) ++
        lineLog origin (joinWith '\n' after) ∧
    (identifiers (joinWith '\n' (before ++ blockComment body :: after)) =
          identifiers (joinWith '\n' (before ++ after)) ∧
        lineLog origin (joinWith '\n' (before ++ blockComment body :: after)) =
          lineLog origin (joinWith '\n' (before ++ after)) ↔
      ¬ ['\n', '"'] <:+: body) := by
  simp only [identifiers_joinWith, lineLog_joinWith, List.flatMap_append, List.flatMap_cons,
    List.append_assoc, List.append_cancel_left_eq, true_and]
  rw [List.append_left_eq_self, List.append_left_eq_self, silent_iff, unquoted_blockComment_iff]

inductive Plain : Text → Prop
  | entry {key value : Text} (closed : '"' ∉ key ++ value) (single : '\n' ∉ key ++ value) :
      Plain ('"' :: key ++ "\" = \"".toList ++ value ++ "\";".toList)
  | blank {line : Text} (padding : ∀ c ∈ line, c = ' ' ∨ c = '\t') : Plain line
  | comment {rest : Text} (single : '\n' ∉ rest) : Plain ("//".toList ++ rest)

/-- An entry that is commented out is found as if it were not. -/
theorem commented_entry_found :
    (∀ line ∈ ["// Home".toList, "\"home\" = \"Home\";".toList], Plain line) ∧
    ¬ "*/".toList <:+: "\n\"old\" = \"Old\";\n".toList ∧
    identifiers (joinWith '\n' (["// Home".toList] ++
        blockComment "\n\"old\" = \"Old\";\n".toList :: ["\"home\" = \"Home\";".toList])) ≠
      identifiers (joinWith '\n' (["// Home".toList] ++ ["\"home\" = \"Home\";".toList])) := by
  refine ⟨?_, by decide, by decide⟩
  have comment : Plain ("//".toList ++ " Home".toList) := .comment (by decide)
  have entry : Plain ('"' :: "home".toList ++ "\" = \"".toList ++ "Home".toList ++ "\";".toList) :=
    .entry (by decide) (by decide)
  exact List.forall_mem_cons.mpr ⟨comment, List.forall_mem_singleton.mpr entry⟩

end StringsAudit
