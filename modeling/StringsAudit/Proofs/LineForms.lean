import StringsAudit.Line
import StringsAudit.Proofs.Stripping

/-!
# Forms of lines

What a line of a strings file gives is told by its form alone. A quote and a second one behind it
enclose an identifier, a quote without a second one makes the line malformed, and any other line
gives nothing. So each line that begins with a quote gives one identifier or one diagnostic, and no
line changes what the others give.
-/

set_option autoImplicit false

namespace StringsAudit

namespace Text

theorem cutAt_append_of_not_mem {sep : Char} {more : Text} (h : sep ∉ more) (text : Text) :
    cutAt sep (text ++ more) = (cutAt sep text).map fun cut => (cut.1, cut.2 ++ more) := by
  induction text with
  | nil => simpa [cutAt] using cutAt_eq_none_iff.mpr h
  | cons c text ih =>
    by_cases hc : c = sep
    · simp [cutAt, hc]
    · simp [cutAt, hc, ih, Function.comp_def]

end Text

def Diagnostic.told (d : Diagnostic) : Level × Text := (d.level, d.message)

namespace Line

open Text

variable {line : Text}

inductive Gives (origin : Text) : Text → List Text → List (Level × Text) → Prop
  | entry {identifier rest : Text} (plain : '"' ∉ identifier) :
      Gives origin ('"' :: identifier ++ '"' :: rest) [identifier] []
  | malformed {rest shown padding : Text} (lone : '"' ∉ rest)
      (trimmed : '"' :: rest = shown ++ padding) (padded : ∀ c ∈ padding, c = ' ' ∨ c = '\t')
      (ends : ∀ c, shown.getLast? = some c → c ≠ ' ' ∧ c ≠ '\t') :
      Gives origin ('"' :: rest) []
        [(.trace, "Cannot extract id for line \"".toList ++ shown ++ '"' ::
          if origin = [] then [] else " in ".toList ++ origin)]
  | other {line : Text} (unquoted : line.head? ≠ some '"') : Gives origin line [] []

theorem isPadding_iff (c : Char) : isPadding c = true ↔ c = ' ' ∨ c = '\t' := by
  simp [isPadding]

theorem not_isPadding_iff (c : Char) : isPadding c = false ↔ c ≠ ' ' ∧ c ≠ '\t' := by
  simp [isPadding]

/-- What is stripped from the end of a line holds no quote, so the identifier is found in the
line as it stands. -/
theorem read_quote (rest : Text) :
    read ('"' :: rest) =
      match cutAt '"' rest with
      | some cut => entry cut.1
      | none => malformed (stripEnd isPadding ('"' :: rest)) := by
  obtain ⟨padding, hp, hpad⟩ := exists_stripEnd_append isPadding ('"' :: rest)
  have hq : '"' ∉ padding := by
    intro hm
    exact absurd (hpad '"' hm) (by decide)
  have found : identifierOf (stripEnd isPadding ('"' :: rest)) = (cutAt '"' rest).map Prod.fst := by
    cases hs : stripEnd isPadding ('"' :: rest) with
    | nil =>
      rw [hs, List.nil_append] at hp
      exact absurd (hp ▸ List.mem_cons_self) hq
    | cons first stripped =>
      rw [hs, List.cons_append] at hp
      rw [identifierOf, (List.cons.inj hp).2, cutAt_append_of_not_mem hq, Option.map_map]
      rfl
  rw [read, found]
  cases cutAt '"' rest <;> rfl

theorem read_of_head_ne {line : Text} (h : line.head? ≠ some '"') : read line = other := by
  rw [read.eq_def]
  split
  · simp at h
  · rfl

theorem read_entry {identifier rest : Text} (plain : '"' ∉ identifier) :
    read ('"' :: identifier ++ '"' :: rest) = entry identifier := by
  have hc : cutAt '"' (identifier ++ '"' :: rest) = some (identifier, rest) :=
    cutAt_eq_some_iff.mpr ⟨rfl, plain⟩
  rw [List.cons_append, read_quote, hc]

theorem read_malformed {rest : Text} (lone : '"' ∉ rest) :
    read ('"' :: rest) = malformed (stripEnd isPadding ('"' :: rest)) := by
  rw [read_quote, cutAt_eq_none_iff.mpr lone]

end Line

open Text

variable {origin line : Text}

theorem identifiers_of_line (h : '\n' ∉ line) :
    identifiers line = (Line.read line).identifier?.toList := by
  rw [identifiers, Line.all, splitOn_of_not_mem h]
  cases hr : Line.read line <;> simp [hr, Line.identifier?]

theorem lineLog_of_line (h : '\n' ∉ line) :
    lineLog origin line = ((Line.read line).diagnostic? origin).toList := by
  rw [lineLog, Line.all, splitOn_of_not_mem h]
  cases hr : Line.read line <;> simp [hr, Line.diagnostic?]

theorem Line.gives_of_line (h : '\n' ∉ line) (origin : Text) :
    Gives origin line (identifiers line) ((lineLog origin line).map Diagnostic.told) := by
  rw [identifiers_of_line h, lineLog_of_line h]
  by_cases hh : line.head? = some '"'
  · obtain ⟨rest, rfl⟩ := List.head?_eq_some_iff.mp hh
    cases hc : cutAt '"' rest with
    | some cut =>
      obtain ⟨identifier, after⟩ := cut
      obtain ⟨rfl, plain⟩ := cutAt_eq_some_iff.mp hc
      have hr : read ('"' :: (identifier ++ '"' :: after)) = entry identifier := read_entry plain
      rw [hr]
      exact .entry plain
    | none =>
      have lone := cutAt_eq_none_iff.mp hc
      obtain ⟨padding, hp, hpad⟩ := exists_stripEnd_append isPadding ('"' :: rest)
      rw [read_malformed lone]
      exact .malformed lone hp (fun c hm => (isPadding_iff c).mp (hpad c hm))
        fun c hl => (not_isPadding_iff c).mp (of_getLast?_stripEnd hl)
  · rw [read_of_head_ne hh]
    exact .other hh

/-- The form of a line leaves no choice of what it gives. -/
theorem Line.eq_of_gives (h : '\n' ∉ line) {found : List Text} {told : List (Level × Text)}
    (gives : Gives origin line found told) :
    found = identifiers line ∧ told = (lineLog origin line).map Diagnostic.told := by
  rw [identifiers_of_line h, lineLog_of_line h]
  cases gives with
  | entry plain =>
    rw [read_entry plain]
    exact ⟨rfl, rfl⟩
  | malformed lone trimmed padded ends =>
    have hs := stripEnd_append (fun c hc => (isPadding_iff c).mpr (padded c hc))
      fun c hl => (not_isPadding_iff c).mpr (ends c hl)
    rw [read_malformed lone, trimmed, hs]
    exact ⟨rfl, rfl⟩
  | other unquoted =>
    rw [read_of_head_ne unquoted]
    exact ⟨rfl, rfl⟩

theorem identifiers_joinWith (lines : List Text) :
    identifiers (joinWith '\n' lines) = lines.flatMap identifiers := by
  fun_induction joinWith '\n' lines with
  | case1 => rfl
  | case2 line => simp
  | case3 line next lines ih => rw [List.flatMap_cons, identifiers_append_newline, ih]

theorem lineLog_joinWith (origin : Text) (lines : List Text) :
    lineLog origin (joinWith '\n' lines) = lines.flatMap (lineLog origin) := by
  fun_induction joinWith '\n' lines with
  | case1 => rfl
  | case2 line => simp
  | case3 line next lines ih => rw [List.flatMap_cons, lineLog_append_newline, ih]

/-- A line that begins with a quote gives one identifier or one diagnostic, any other nothing. -/
theorem Line.Gives.length_add {found : List Text} {told : List (Level × Text)}
    (gives : Gives origin line found told) :
    found.length + told.length = if line.head? = some '"' then 1 else 0 := by
  cases gives with
  | entry plain => simp
  | malformed lone trimmed padded ends => simp
  | other unquoted => simp [unquoted]

theorem length_add_joinWith (origin : Text) {lines : List Text}
    (single : ∀ line ∈ lines, '\n' ∉ line) :
    (identifiers (joinWith '\n' lines)).length + (lineLog origin (joinWith '\n' lines)).length =
      lines.countP fun line => line.head? = some '"' := by
  rw [identifiers_joinWith, lineLog_joinWith]
  induction lines with
  | nil => rfl
  | cons line lines ih =>
    obtain ⟨hl, rest⟩ := List.forall_mem_cons.mp single
    have one := (Line.gives_of_line hl origin).length_add
    rw [List.length_map] at one
    simp only [List.flatMap_cons, List.length_append, List.countP_cons, decide_eq_true_eq,
      ← ih rest, ← one]
    omega

/-- Each line of a strings file gives just what its form tells, in the order of the lines. As many
lines begin with a quote as there are identifiers and diagnostics, and a malformed line adds its
diagnostic and changes nothing else. -/
theorem lines_give_by_form (origin : Text) (lines : List Text)
    (single : ∀ line ∈ lines, '\n' ∉ line) :
    (∀ line ∈ lines, ∀ found told, Line.Gives origin line found told ↔
      found = identifiers line ∧ told = (lineLog origin line).map Diagnostic.told) ∧
    identifiers (joinWith '\n' lines) = lines.flatMap identifiers ∧
    lineLog origin (joinWith '\n' lines) = lines.flatMap (lineLog origin) ∧
    (identifiers (joinWith '\n' lines)).length + (lineLog origin (joinWith '\n' lines)).length =
      lines.countP (fun line => line.head? = some '"') ∧
    ∀ before rest after, lines = before ++ ('"' :: rest) :: after → '"' ∉ rest →
      identifiers (joinWith '\n' lines) = identifiers (joinWith '\n' (before ++ after)) ∧
      ∃ complaint, lineLog origin ('"' :: rest) = [complaint] ∧
        lineLog origin (joinWith '\n' lines) =
          lineLog origin (joinWith '\n' before) ++
            complaint :: lineLog origin (joinWith '\n' after) ∧
        lineLog origin (joinWith '\n' (before ++ after)) =
          lineLog origin (joinWith '\n' before) ++ lineLog origin (joinWith '\n' after) := by
  refine ⟨?_, identifiers_joinWith lines, lineLog_joinWith origin lines,
    length_add_joinWith origin single, ?_⟩
  · intro line hm found told
    constructor
    · exact Line.eq_of_gives (single line hm)
    · rintro ⟨rfl, rfl⟩
      exact Line.gives_of_line (single line hm) origin
  · rintro before rest after rfl lone
    have hl : '\n' ∉ '"' :: rest := single _ (by simp)
    have hr := Line.read_malformed lone
    have silent : identifiers ('"' :: rest) = [] := by
      rw [identifiers_of_line hl, hr]
      rfl
    have complains : lineLog origin ('"' :: rest) =
        [.unterminated (stripEnd Line.isPadding ('"' :: rest)) origin] := by
      rw [lineLog_of_line hl, hr]
      rfl
    refine ⟨?_, _, complains, ?_, ?_⟩
    · simp [identifiers_joinWith, silent]
    · simp [lineLog_joinWith, complains]
    · simp [lineLog_joinWith]

/-- A key with blanks in it and text behind it, an open key with padding, a key behind a blank, an
empty line and an empty key. -/
theorem lines_give_by_form_mixed :
    (∀ line ∈ ["\" a\tb\"=\"c\";".toList, "\"open \t ".toList, " \"x\"".toList, [], "\"\"".toList],
      '\n' ∉ line) ∧
    identifiers "\" a\tb\"=\"c\";\n\"open \t \n \"x\"\n\n\"\"".toList = [" a\tb".toList, []] ∧
    (lineLog "f".toList "\" a\tb\"=\"c\";\n\"open \t \n \"x\"\n\n\"\"".toList).map
        Diagnostic.told =
      [(.trace, "Cannot extract id for line \"\"open\" in f".toList)] := by
  have single : ∀ line ∈ ["\" a\tb\"=\"c\";".toList, "\"open \t ".toList, " \"x\"".toList, [],
      "\"\"".toList], '\n' ∉ line := by decide
  obtain ⟨-, found, told, -⟩ := lines_give_by_form "f".toList _ single
  refine ⟨single, found.trans (by decide), ?_⟩
  exact (congrArg (List.map Diagnostic.told) told).trans (by decide)

end StringsAudit
