import Mathlib.Data.List.TakeWhile
import StringsAudit.Proofs.Sorting
import StringsAudit.Token

/-!
# Splitting a source into gaps and lexemes

Where a token can start, and with which lexeme, is said here by the shape of the text alone. A
splitting cuts a source into gaps, in which no token can start, and the lexemes between them.
Each source has exactly one splitting, and its lexemes are those of the tokens that are found.
-/

set_option autoImplicit false

namespace StringsAudit.Token

open Text

variable {ns : Namespace} {source rest gap lexeme : Text}

def IsMember (c : Char) : Prop :=
  ('A' ≤ c ∧ c ≤ 'Z') ∨ ('a' ≤ c ∧ c ≤ 'z') ∨ ('0' ≤ c ∧ c ≤ '9') ∨ c = '.'

theorem isMemberChar_iff (c : Char) : isMemberChar c = true ↔ IsMember c := by
  have hu : c.isUpper = true ↔ 'A' ≤ c ∧ c ≤ 'Z' := decide_eq_true_iff
  have hl : c.isLower = true ↔ 'a' ≤ c ∧ c ≤ 'z' :=
    Bool.and_eq_true_iff.trans (and_congr decide_eq_true_iff decide_eq_true_iff)
  have hd : c.isDigit = true ↔ '0' ≤ c ∧ c ≤ '9' :=
    Bool.and_eq_true_iff.trans (and_congr decide_eq_true_iff decide_eq_true_iff)
  change (c.isUpper || c.isLower || c.isDigit || c == '.') = true ↔ _
  rw [Bool.or_eq_true, Bool.or_eq_true, Bool.or_eq_true, hu, hl, hd, beq_iff_eq, IsMember,
    or_assoc, or_assoc]

def AccessorStarts (ns : Namespace) (source lexeme : Text) : Prop :=
  ∃ run rest, run ≠ [] ∧ (∀ c ∈ run, IsMember c) ∧ (∀ c, rest.head? = some c → ¬ IsMember c) ∧
    lexeme = ns.name ++ '.' :: run ∧ source = lexeme ++ rest

def LiteralStarts (source lexeme : Text) : Prop :=
  ∃ inner rest, '"' ∉ inner ∧ '\n' ∉ inner ∧ lexeme = '"' :: '@' :: inner ++ ['"'] ∧
    source = lexeme ++ rest

def Starts (ns : Namespace) (source lexeme : Text) : Prop :=
  AccessorStarts ns source lexeme ∨
    (∀ other, ¬ AccessorStarts ns source other) ∧ LiteralStarts source lexeme

theorem takeWhile_run {run : Text} (hr : ∀ c ∈ run, IsMember c)
    (hs : ∀ c, rest.head? = some c → ¬ IsMember c) :
    (run ++ rest).takeWhile isMemberChar = run := by
  have hm : ∀ c ∈ run, isMemberChar c = true := fun c hc => (isMemberChar_iff c).mpr (hr c hc)
  have hn : rest.takeWhile isMemberChar = [] := by
    cases rest with
    | nil => rfl
    | cons c tail =>
      have hc : isMemberChar c ≠ true := fun h => hs c rfl ((isMemberChar_iff c).mp h)
      simp [hc]
  rw [List.takeWhile_append_of_pos hm, hn, List.append_nil]

theorem head_dropWhile_run {c : Char} (h : (rest.dropWhile isMemberChar).head? = some c) :
    ¬ IsMember c := by
  have hn := List.head?_dropWhile_not isMemberChar rest
  rw [h] at hn
  intro hc
  simp [(isMemberChar_iff c).mpr hc] at hn

theorem accessorAt?_of_starts {run : Text} (hne : run ≠ []) (hr : ∀ c ∈ run, IsMember c)
    (hs : ∀ c, rest.head? = some c → ¬ IsMember c) :
    accessorAt? ns ((accessor run).text ns ++ rest) = some (accessor run) := by
  have hd : dropLeading? (ns.name ++ ['.']) ((accessor run).text ns ++ rest) =
      some (run ++ rest) := dropLeading?_eq_some_iff.mpr (by simp [text])
  rw [accessorAt?, hd]
  simp [takeWhile_run hr hs, hne]

theorem accessorStarts_iff :
    AccessorStarts ns source lexeme ↔
      ∃ token, accessorAt? ns source = some token ∧ token.text ns = lexeme := by
  constructor
  · rintro ⟨run, rest, hne, hr, hs, rfl, rfl⟩
    exact ⟨accessor run, accessorAt?_of_starts hne hr hs, rfl⟩
  · rintro ⟨token, h, rfl⟩
    rw [accessorAt?] at h
    split at h
    · simp at h
    next tail hd =>
      simp only [Option.ite_none_left_eq_some, Option.some.injEq] at h
      obtain ⟨hne, rfl⟩ := h
      refine ⟨_, tail.dropWhile isMemberChar, hne, ?_, fun c => head_dropWhile_run, rfl, ?_⟩
      · intro c hc
        exact (isMemberChar_iff c).mp (List.mem_takeWhile_imp hc)
      · rw [dropLeading?_eq_some_iff.mp hd, text]
        simp [List.takeWhile_append_dropWhile]

theorem literalStarts_iff (ns : Namespace) :
    LiteralStarts source lexeme ↔
      ∃ token, literalAt? source = some token ∧ token.text ns = lexeme := by
  constructor
  · rintro ⟨inner, rest, hq, hn, rfl, rfl⟩
    have hc : cutAt '"' (inner ++ '"' :: rest) = some (inner, rest) :=
      cutAt_eq_some_iff.mpr ⟨rfl, hq⟩
    refine ⟨literal inner, ?_, rfl⟩
    simp [literalAt?, hc, hn]
  · rintro ⟨token, h, rfl⟩
    rw [literalAt?.eq_def] at h
    split at h
    next tail =>
      split at h
      · simp at h
      next inner after hc =>
        simp only [Option.ite_none_left_eq_some, Option.some.injEq] at h
        obtain ⟨hn, rfl⟩ := h
        obtain ⟨rfl, hq⟩ := cutAt_eq_some_iff.mp hc
        exact ⟨inner, after, hq, hn, rfl, by simp [text, Key.quotedForm]⟩
    · simp at h

theorem starts_iff :
    Starts ns source lexeme ↔ ∃ token, at? ns source = some token ∧ token.text ns = lexeme := by
  rw [Starts, literalStarts_iff ns]
  simp only [accessorStarts_iff, at?]
  cases accessorAt? ns source with
  | none => simp
  | some token => simp

theorem starts_of_at? {token : Token} (h : at? ns source = some token) :
    Starts ns source (token.text ns) := starts_iff.mpr ⟨token, h, rfl⟩

theorem not_starts_of_at?_none (h : at? ns source = none) : ¬ Starts ns source lexeme := by
  intro hs
  obtain ⟨token, ht, -⟩ := starts_iff.mp hs
  simp [h] at ht

theorem lexeme_unique {other : Text} (h : Starts ns source lexeme)
    (ho : Starts ns source other) : lexeme = other := by
  obtain ⟨token, ht, rfl⟩ := starts_iff.mp h
  obtain ⟨token', ht', rfl⟩ := starts_iff.mp ho
  rw [ht, Option.some.injEq] at ht'
  rw [ht']

theorem lexeme_ne_nil (h : Starts ns source lexeme) : lexeme ≠ [] := by
  obtain ⟨token, -, rfl⟩ := starts_iff.mp h
  exact text_ne_nil ns token

/-- To prove something of all sources: a token at the head is taken whole, and any other
character alone. -/
@[elab_as_elim]
theorem token_induction {motive : Text → Prop} (ns : Namespace) (nil : motive [])
    (token : ∀ token rest, at? ns (token.text ns ++ rest) = some token → motive rest →
      motive (token.text ns ++ rest))
    (skip : ∀ c rest, at? ns (c :: rest) = none → motive rest → motive (c :: rest))
    (source : Text) : motive source := by
  induction hn : source.length using Nat.strong_induction_on generalizing source with
  | h n ih =>
    cases source with
    | nil => exact nil
    | cons c tail =>
      cases ht : at? ns (c :: tail) with
      | none => exact skip c tail ht (ih tail.length (by simp [← hn]) tail rfl)
      | some t =>
        obtain ⟨rest, hr⟩ := text_of_at? ht
        have hl : 0 < (t.text ns).length := List.length_pos_iff.mpr (text_ne_nil ns t)
        rw [hr] at ht hn ⊢
        exact token t rest ht (ih rest.length (by rw [← hn, List.length_append]; omega) rest rfl)

/-- No token can start at any place in the gap, read together with all that follows the gap. -/
def Idle (ns : Namespace) (gap rest : Text) : Prop :=
  ∀ before after lexeme, gap = before ++ after → after ≠ [] → ¬ Starts ns (after ++ rest) lexeme

theorem idle_nil (ns : Namespace) (rest : Text) : Idle ns [] rest := by
  intro before after lexeme h hne
  simp_all

theorem idle_cons {c : Char} (hc : at? ns (c :: gap ++ rest) = none) (h : Idle ns gap rest) :
    Idle ns (c :: gap) rest := by
  intro before after lexeme hg hne
  cases before with
  | nil =>
    rw [List.nil_append] at hg
    rw [← hg]
    exact not_starts_of_at?_none hc
  | cons b before =>
    obtain ⟨-, hg⟩ := List.cons.inj hg
    exact h before after lexeme hg hne

inductive Splits (ns : Namespace) : Text → List (Text × Text) → Text → Prop
  | last {source : Text} (idle : Idle ns source []) : Splits ns source [] source
  | piece {source gap lexeme rest last : Text} {pieces : List (Text × Text)}
      (cut : source = gap ++ (lexeme ++ rest)) (idle : Idle ns gap (lexeme ++ rest))
      (starts : Starts ns (lexeme ++ rest) lexeme) (tail : Splits ns rest pieces last) :
      Splits ns source ((gap, lexeme) :: pieces) last

theorem splits_cons {c : Char} {pieces : List (Text × Text)} {last : Text}
    (hc : at? ns (c :: source) = none) (h : Splits ns source pieces last) :
    ∃ pieces' last', Splits ns (c :: source) pieces' last' ∧
      pieces'.map Prod.snd = pieces.map Prod.snd := by
  cases h with
  | last idle => exact ⟨[], c :: source, .last (idle_cons (by simpa using hc) idle), rfl⟩
  | @piece _ gap lexeme rest _ pieces cut idle starts tail =>
    subst cut
    exact ⟨(c :: gap, lexeme) :: pieces, last, .piece rfl (idle_cons hc idle) starts tail, rfl⟩

/-- The tokens that are found give a splitting. -/
theorem exists_splits (ns : Namespace) (source : Text) :
    ∃ pieces last, Splits ns source pieces last ∧
      pieces.map Prod.snd = (all ns source).map (text ns) := by
  induction source using token_induction ns with
  | nil => exact ⟨[], [], .last (idle_nil ns []), rfl⟩
  | token token rest ht ih =>
    obtain ⟨pieces, last, hs, hp⟩ := ih
    refine ⟨([], token.text ns) :: pieces, last, ?_, ?_⟩
    · exact .piece rfl (idle_nil ns _) (starts_of_at? ht) hs
    · rw [all_of_at? ht rfl, List.map_cons, List.map_cons, hp]
  | skip c rest hc ih =>
    obtain ⟨pieces, last, hs, hp⟩ := ih
    obtain ⟨pieces', last', hs', hp'⟩ := splits_cons hc hs
    exact ⟨pieces', last', hs', by rw [hp', hp, all_of_at?_none hc]⟩

theorem gap_prefix {gap' rest' : Text} (hi : Idle ns gap rest) (hs : Starts ns rest' lexeme)
    (h : gap ++ rest = gap' ++ rest') : ∃ more, gap' = gap ++ more := by
  rcases List.append_eq_append_iff.mp h with ⟨more, hg, -⟩ | ⟨more, hg, hr⟩
  · exact ⟨more, hg⟩
  · by_cases hm : more = []
    · exact ⟨[], by simp [hg, hm]⟩
    · rw [hr] at hs
      exact absurd hs (hi gap' more lexeme hg hm)

theorem gap_unique {gap' rest' lexeme' : Text} (hi : Idle ns gap rest)
    (hs : Starts ns rest lexeme) (hi' : Idle ns gap' rest') (hs' : Starts ns rest' lexeme')
    (h : gap ++ rest = gap' ++ rest') : gap = gap' := by
  obtain ⟨more, hm⟩ := gap_prefix hi hs' h
  obtain ⟨less, hl⟩ := gap_prefix hi' hs h.symm
  have hlen := congrArg List.length hm
  have hlen' := congrArg List.length hl
  simp only [List.length_append] at hlen hlen'
  rw [hm, List.length_eq_zero_iff.mp (show more.length = 0 by omega), List.append_nil]

theorem not_starts_of_idle (hi : Idle ns source []) (cut : source = gap ++ (lexeme ++ rest)) :
    ¬ Starts ns (lexeme ++ rest) lexeme := by
  intro hs
  have hne : lexeme ++ rest ≠ [] := List.append_ne_nil_of_left_ne_nil (lexeme_ne_nil hs) rest
  exact hi gap (lexeme ++ rest) lexeme cut hne (by simpa using hs)

theorem splits_unique {pieces pieces' : List (Text × Text)} {last last' : Text}
    (h : Splits ns source pieces last) (h' : Splits ns source pieces' last') :
    pieces' = pieces ∧ last' = last := by
  induction h generalizing pieces' with
  | last idle =>
    cases h' with
    | last => exact ⟨rfl, rfl⟩
    | piece cut _ starts => exact absurd starts (not_starts_of_idle idle cut)
  | @piece source gap lexeme rest last pieces cut idle starts tail ih =>
    cases h' with
    | last idle' => exact absurd starts (not_starts_of_idle idle' cut)
    | @piece _ gap' lexeme' rest' _ pieces' cut' idle' starts' tail' =>
      have hcut := cut.symm.trans cut'
      obtain rfl := gap_unique idle starts idle' starts' hcut
      have hr := List.append_cancel_left hcut
      obtain rfl := lexeme_unique starts (hr ▸ starts')
      obtain rfl := List.append_cancel_left hr
      obtain ⟨rfl, rfl⟩ := ih tail'
      exact ⟨rfl, rfl⟩

/-- A source has one splitting, and its usages are the lexemes of that splitting in lower case,
as a set: in order and each once. -/
theorem usages_of_splitting (ns : Namespace) (source : Text) :
    ∃ pieces last, Splits ns source pieces last ∧
      (∀ pieces' last', Splits ns source pieces' last' → pieces' = pieces ∧ last' = last) ∧
      (usages ns source).Pairwise (· < ·) ∧
      ∀ key, key ∈ usages ns source ↔ ∃ piece ∈ pieces, lower piece.2 = key := by
  obtain ⟨pieces, last, hs, hp⟩ := exists_splits ns source
  refine ⟨pieces, last, hs, fun _ _ h => splits_unique hs h, sortDistinct_pairwise _, ?_⟩
  intro key
  calc
    key ∈ usages ns source ↔ ∃ lexeme ∈ (all ns source).map (text ns), lower lexeme = key := by
      simp [mem_usages]
    _ ↔ ∃ lexeme ∈ pieces.map Prod.snd, lower lexeme = key := by rw [hp]
    _ ↔ ∃ piece ∈ pieces, lower piece.2 = key := by
      simp only [List.mem_map, exists_exists_and_eq_and]

example : all .standard "L10n.L10n.a\"@b\"@L10n.c\"".toList =
    [accessor "L10n.a".toList, literal "b".toList, accessor "c".toList] := by decide

end StringsAudit.Token
