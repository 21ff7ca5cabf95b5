import StringsAudit.Proofs.Splitting

/-!
# Passing over a source

The search for tokens passes over a source from left to right; it takes each token whole and
leaves any other character alone. It arrives at a given place just if no token that it takes
begins before the place and ends behind it.
-/

set_option autoImplicit false

namespace StringsAudit.Token

open Text

variable {ns : Namespace} {source front back before after rest lexeme other : Text}

inductive Passes (ns : Namespace) : Text → Text → Text → Prop
  | here {source : Text} : Passes ns source [] source
  | token {lexeme rest before after : Text} (starts : Starts ns (lexeme ++ rest) lexeme)
      (tail : Passes ns rest before after) : Passes ns (lexeme ++ rest) (lexeme ++ before) after
  | skip {c : Char} {rest before after : Text} (idle : ∀ lexeme, ¬ Starts ns (c :: rest) lexeme)
      (tail : Passes ns rest before after) : Passes ns (c :: rest) (c :: before) after

def Takes (ns : Namespace) (source before lexeme : Text) : Prop :=
  ∃ rest, Passes ns source before (lexeme ++ rest) ∧ Starts ns (lexeme ++ rest) lexeme

def Straddles (ns : Namespace) (source front lexeme : Text) : Prop :=
  ∃ before head tail, front = before ++ head ∧ lexeme = head ++ tail ∧ head ≠ [] ∧ tail ≠ [] ∧
    Takes ns source before lexeme

theorem Passes.cut (h : Passes ns source before after) : source = before ++ after := by
  induction h with
  | here => rfl
  | token _ _ ih => rw [List.append_assoc, ← ih]
  | skip _ _ ih => rw [List.cons_append, ← ih]

theorem takes_of_starts (h : Starts ns (lexeme ++ rest) lexeme) :
    Takes ns (lexeme ++ rest) [] lexeme := ⟨rest, .here, h⟩

theorem takes_token_iff (h : Starts ns (lexeme ++ rest) lexeme) :
    Takes ns (lexeme ++ rest) before other ↔
      (before = [] ∧ other = lexeme) ∨ ∃ more, before = lexeme ++ more ∧ Takes ns rest more other := by
  constructor
  · rintro ⟨after, passes, starts⟩
    generalize hs : lexeme ++ rest = source at passes
    cases passes with
    | here =>
      rw [hs] at h
      exact .inl ⟨rfl, lexeme_unique starts h⟩
    | @token lexeme' rest' more _ starts' tail =>
      rw [hs] at h
      obtain rfl := lexeme_unique h starts'
      obtain rfl := List.append_cancel_left hs
      exact .inr ⟨more, rfl, after, tail, starts⟩
    | skip idle =>
      rw [hs] at h
      exact absurd h (idle lexeme)
  · rintro (⟨rfl, rfl⟩ | ⟨more, rfl, after, passes, starts⟩)
    · exact takes_of_starts h
    · exact ⟨after, .token h passes, starts⟩

theorem takes_skip_iff {c : Char} (h : ∀ lexeme, ¬ Starts ns (c :: rest) lexeme) :
    Takes ns (c :: rest) before other ↔ ∃ more, before = c :: more ∧ Takes ns rest more other := by
  constructor
  · rintro ⟨after, passes, starts⟩
    generalize hs : c :: rest = source at passes
    cases passes with
    | here =>
      rw [← hs] at starts
      exact absurd starts (h other)
    | @token lexeme' _ _ _ starts' =>
      rw [← hs] at starts'
      exact absurd starts' (h lexeme')
    | @skip _ _ more _ _ tail =>
      obtain ⟨rfl, rfl⟩ := List.cons.inj hs
      exact ⟨more, rfl, after, tail, starts⟩
  · rintro ⟨more, rfl, after, passes, starts⟩
    exact ⟨after, .skip h passes, starts⟩

/-- The tokens that are taken are those that are found. -/
theorem exists_takes_iff :
    (∃ before, Takes ns source before lexeme) ↔ ∃ token ∈ all ns source, token.text ns = lexeme := by
  induction source using token_induction ns with
  | nil =>
    constructor
    · rintro ⟨before, rest, passes, starts⟩
      have hn := passes.cut
      have hne := lexeme_ne_nil starts
      simp_all
    · simp [all_nil]
  | token token rest ht ih =>
    simp only [takes_token_iff (starts_of_at? ht), all_of_at? ht rfl, List.mem_cons,
      exists_eq_or_imp, ← ih]
    constructor
    · rintro ⟨before, ⟨-, rfl⟩ | ⟨more, -, taken⟩⟩
      · exact .inl rfl
      · exact .inr ⟨more, taken⟩
    · rintro (rfl | ⟨more, taken⟩)
      · exact ⟨[], .inl ⟨rfl, rfl⟩⟩
      · exact ⟨_, .inr ⟨more, rfl, taken⟩⟩
  | skip c rest hc ih =>
    simp only [takes_skip_iff fun _ => not_starts_of_at?_none hc, all_of_at?_none hc, ← ih]
    constructor
    · rintro ⟨-, more, -, taken⟩
      exact ⟨more, taken⟩
    · rintro ⟨more, taken⟩
      exact ⟨c :: more, more, rfl, taken⟩

theorem mem_usages_iff_takes {key : Text} :
    key ∈ usages ns source ↔ ∃ before lexeme, Takes ns source before lexeme ∧ lower lexeme = key := by
  rw [mem_usages]
  constructor
  · rintro ⟨token, ht, hk⟩
    obtain ⟨before, taken⟩ := exists_takes_iff.mpr ⟨token, ht, rfl⟩
    exact ⟨before, token.text ns, taken, hk⟩
  · rintro ⟨before, lexeme, taken, hk⟩
    obtain ⟨token, ht, rfl⟩ := exists_takes_iff.mp ⟨before, taken⟩
    exact ⟨token, ht, hk⟩

/-- A lexeme that is taken is that of an accessor or that of a literal. -/
theorem accessor_or_literal_of_takes (h : Takes ns source before lexeme) :
    (∃ run, run ≠ [] ∧ (∀ c ∈ run, IsMember c) ∧ lexeme = ns.name ++ '.' :: run) ∨
      ∃ inner, lexeme = Key.quotedForm inner := by
  obtain ⟨rest, -, starts⟩ := h
  rcases starts with ⟨run, _, hne, hr, -, hl, -⟩ | ⟨-, inner, _, -, -, hl, -⟩
  · exact .inl ⟨run, hne, hr, hl⟩
  · exact .inr ⟨inner, hl⟩

theorem straddles_of_token (h : Starts ns (lexeme ++ rest) lexeme)
    (straddles : Straddles ns rest front other) :
    Straddles ns (lexeme ++ rest) (lexeme ++ front) other := by
  obtain ⟨before, head, tail, rfl, hother, hh, ht, taken⟩ := straddles
  refine ⟨lexeme ++ before, head, tail, (List.append_assoc _ _ _).symm, hother, hh, ht, ?_⟩
  exact (takes_token_iff h).mpr (.inr ⟨before, rfl, taken⟩)

theorem straddles_of_skip {c : Char} (h : ∀ lexeme, ¬ Starts ns (c :: rest) lexeme)
    (straddles : Straddles ns rest front other) : Straddles ns (c :: rest) (c :: front) other := by
  obtain ⟨before, head, tail, rfl, hother, hh, ht, taken⟩ := straddles
  exact ⟨c :: before, head, tail, rfl, hother, hh, ht, (takes_skip_iff h).mpr ⟨before, rfl, taken⟩⟩

/-- Where the search does not arrive, a token lies across. -/
theorem passes_or_straddles (h : source = front ++ back) :
    Passes ns source front back ∨ ∃ lexeme, Straddles ns source front lexeme := by
  induction source using token_induction ns generalizing front with
  | nil =>
    obtain ⟨rfl, rfl⟩ := List.append_eq_nil_iff.mp h.symm
    exact .inl .here
  | token token rest ht ih =>
    have starts := starts_of_at? ht
    rcases List.append_eq_append_iff.mp h with ⟨more, rfl, hrest⟩ | ⟨tail, hlexeme, rfl⟩
    · rcases ih hrest with passes | ⟨lexeme, straddles⟩
      · exact .inl (.token starts passes)
      · exact .inr ⟨lexeme, straddles_of_token starts straddles⟩
    · by_cases hf : front = []
      · subst hf
        exact .inl (h ▸ .here)
      by_cases hl : tail = []
      · subst hl
        rw [List.append_nil] at hlexeme
        subst hlexeme
        have here : Passes ns rest [] rest := .here
        have passes := here.token starts
        rw [List.append_nil] at passes
        exact .inl passes
      · refine .inr ⟨token.text ns, [], front, tail, rfl, hlexeme, hf, hl, ?_⟩
        exact takes_of_starts starts
  | skip c rest hc ih =>
    have idle : ∀ lexeme, ¬ Starts ns (c :: rest) lexeme := fun _ => not_starts_of_at?_none hc
    cases front with
    | nil =>
      rw [List.nil_append] at h
      exact .inl (h ▸ .here)
    | cons d front =>
      obtain ⟨rfl, hrest⟩ := List.cons.inj h
      rcases ih hrest with passes | ⟨lexeme, straddles⟩
      · exact .inl (.skip idle passes)
      · exact .inr ⟨lexeme, straddles_of_skip idle straddles⟩

theorem not_straddles_of_passes (h : Passes ns source front back) :
    ¬ Straddles ns source front lexeme := by
  induction h with
  | here =>
    rintro ⟨before, head, tail, hfront, -, hh, -⟩
    exact hh (List.append_eq_nil_iff.mp hfront.symm).2
  | @token taken rest front back starts _ ih =>
    rintro ⟨before, head, tail, hfront, rfl, hh, ht, takes⟩
    rcases (takes_token_iff starts).mp takes with ⟨rfl, rfl⟩ | ⟨more, rfl, later⟩
    · have hlen := congrArg List.length hfront
      have hpos := List.length_pos_iff.mpr ht
      simp only [List.length_append, List.length_nil] at hlen
      omega
    · rw [List.append_assoc] at hfront
      exact ih ⟨more, head, tail, List.append_cancel_left hfront, rfl, hh, ht, later⟩
  | @skip c rest front back idle _ ih =>
    rintro ⟨before, head, tail, hfront, hlexeme, hh, ht, takes⟩
    obtain ⟨more, rfl, later⟩ := (takes_skip_iff idle).mp takes
    exact ih ⟨more, head, tail, List.tail_eq_of_cons_eq hfront, hlexeme, hh, ht, later⟩

/-- A token that a straddling lexeme begins is at hand with what stands on both sides. -/
theorem cut_of_straddles (h : Straddles ns (front ++ back) front lexeme) :
    ∃ head tail before rest, lexeme = head ++ tail ∧ head ≠ [] ∧ tail ≠ [] ∧
      front = before ++ head ∧ back = tail ++ rest ∧ Starts ns (lexeme ++ rest) lexeme := by
  obtain ⟨before, head, tail, rfl, rfl, hh, ht, rest, passes, starts⟩ := h
  have hcut := passes.cut
  simp only [List.append_assoc, List.append_cancel_left_eq] at hcut
  exact ⟨head, tail, before, rest, rfl, hh, ht, rfl, hcut, starts⟩

end StringsAudit.Token
