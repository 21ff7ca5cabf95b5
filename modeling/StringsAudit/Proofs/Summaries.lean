import StringsAudit.Proofs.Audits
import StringsAudit.Proofs.Lines

/-!
# Reading a step summary back

A row of the table is cut into its cells at the bare pipes. Every pipe of a cell stands behind a
backslash, and no cell ends in one, so the cells are found whatever pipes and backslashes they
hold. The rows show each identifier of the report with its path and its key, in order, and the
counts above the table are those of the files and of the rows.
-/

set_option autoImplicit false

namespace StringsAudit

namespace Text

variable {c : Char} {text : Text}

/-- The pieces of a text between its bare pipes, those that are not right behind a backslash. The
flag tells whether the text itself stands behind one. -/
def cutBare (afterBackslash : Bool) : Text → List Text
  | [] => [[]]
  | c :: rest =>
    if c = '|' ∧ afterBackslash = false then [] :: cutBare false rest
    else extend c (cutBare (c == '\\') rest)

def unescapePipes : Text → Text
  | [] => []
  | '\\' :: '|' :: rest => '|' :: unescapePipes rest
  | c :: rest => c :: unescapePipes rest

def between? (opening closing text : Text) : Option Text :=
  (dropLeading? opening text).bind fun rest =>
    (dropLeading? closing.reverse rest.reverse).map List.reverse

theorem between?_eq (opening closing text : Text) :
    between? opening closing (opening ++ text ++ closing) = some text := by
  have front : dropLeading? opening (opening ++ text ++ closing) = some (text ++ closing) :=
    dropLeading?_eq_some_iff.mpr (List.append_assoc _ _ _)
  have back : dropLeading? closing.reverse (text ++ closing).reverse = some text.reverse :=
    dropLeading?_eq_some_iff.mpr List.reverse_append
  rw [between?, front, Option.bind_some, back, Option.map_some, List.reverse_reverse]

theorem foldr_extend (front piece : Text) (pieces : List Text) :
    front.foldr extend (piece :: pieces) = (front ++ piece) :: pieces := by
  induction front with
  | nil => rfl
  | cons c front ih =>
    rw [List.foldr_cons, ih]
    rfl

theorem cutBare_pipe (rest : Text) : cutBare false ('|' :: rest) = [] :: cutBare false rest := by
  simp [cutBare]

theorem cutBare_cons (pipe : c ≠ '|') (backslash : c ≠ '\\') (flag : Bool) (rest : Text) :
    cutBare flag (c :: rest) = extend c (cutBare false rest) := by
  have next : (c == '\\') = false := by simpa using backslash
  simp [cutBare, pipe, next]

def IsPlain (text : Text) : Prop := ∀ c ∈ text, c ≠ '|' ∧ c ≠ '\\'

instance (text : Text) : Decidable (IsPlain text) :=
  List.decidableBAll (fun c : Char => c ≠ '|' ∧ c ≠ '\\') text

theorem IsPlain.cutBare_append (h : IsPlain text) (rest : Text) :
    cutBare false (text ++ rest) = text.foldr extend (cutBare false rest) := by
  induction text with
  | nil => rfl
  | cons c text ih =>
    obtain ⟨⟨pipe, backslash⟩, ht⟩ := List.forall_mem_cons.mp h
    rw [List.cons_append, cutBare_cons pipe backslash, ih ht, List.foldr_cons]

end Text

open Text

namespace Report

variable {ns : Namespace} {report : Report} {path identifier key text : Text}

theorem tableCell_cons (c : Char) (text : Text) :
    tableCell (c :: text) = (if c = '|' then ['\\', '|'] else [c]) ++ tableCell text :=
  List.flatMap_cons

/-- No pipe of an escaped text is bare, and what follows it is cut as behind no backslash. -/
theorem cutBare_tableCell {c : Char} (pipe : c ≠ '|') (backslash : c ≠ '\\') (flag : Bool)
    (text rest : Text) :
    cutBare flag (tableCell text ++ c :: rest) =
      (tableCell text ++ [c]).foldr extend (cutBare false rest) := by
  induction text generalizing flag with
  | nil => exact cutBare_cons pipe backslash flag rest
  | cons d text ih =>
    rw [tableCell_cons]
    by_cases hd : d = '|'
    · simp [hd, cutBare, ih]
    · simp [hd, cutBare, ih]

/-- A cell ends at the first bare pipe, if its frame is plain and parts the text from the pipe. -/
theorem cutBare_cell {opening closing : Text} (ho : IsPlain opening) (hc : IsPlain closing)
    (parts : closing ≠ []) (text rest : Text) :
    cutBare false (opening ++ tableCell text ++ closing ++ '|' :: rest) =
      (opening ++ tableCell text ++ closing) :: cutBare false rest := by
  obtain ⟨c, closing, rfl⟩ := List.exists_cons_of_ne_nil parts
  obtain ⟨⟨pipe, backslash⟩, plain⟩ := List.forall_mem_cons.mp hc
  simp only [List.append_assoc, List.cons_append]
  rw [ho.cutBare_append, cutBare_tableCell pipe backslash, IsPlain.cutBare_append plain,
    cutBare_pipe, foldr_extend, foldr_extend, foldr_extend]
  simp

theorem head?_tableCell (text : Text) : (tableCell text).head? ≠ some '|' := by
  cases text with
  | nil => simp [tableCell]
  | cons c text =>
    rw [tableCell_cons]
    by_cases hc : c = '|'
    · simp [hc]
    · simp [hc]

theorem unescapePipes_cons (c : Char) (h : text.head? ≠ some '|') :
    unescapePipes (c :: text) = c :: unescapePipes text := by
  apply unescapePipes.eq_3
  rintro rest - rfl
  exact h rfl

theorem unescapePipes_tableCell (text : Text) : unescapePipes (tableCell text) = text := by
  induction text with
  | nil => rfl
  | cons c text ih =>
    rw [tableCell_cons]
    by_cases hc : c = '|'
    · simp [hc, unescapePipes, ih]
    · rw [if_neg hc, List.singleton_append, unescapePipes_cons c (head?_tableCell text), ih]

def tableLine (path identifier key : Text) : Text :=
  "| ".toList ++ tableCell path ++ " | `".toList ++ tableCell identifier ++ "` | `".toList ++
    tableCell key ++ "` |".toList

def readRow? (row : Text) : Option (Text × Text × Text) :=
  match cutBare false row with
  | [[], path, identifier, key, []] => do
    let path ← between? [' '] [' '] path
    let identifier ← between? [' ', '`'] ['`', ' '] identifier
    let key ← between? [' ', '`'] ['`', ' '] key
    return (unescapePipes path, unescapePipes identifier, unescapePipes key)
  | _ => none

theorem tableLine_eq (path identifier key : Text) : tableLine path identifier key =
    '|' :: ([' '] ++ tableCell path ++ [' '] ++
      '|' :: ([' ', '`'] ++ tableCell identifier ++ ['`', ' '] ++
        '|' :: ([' ', '`'] ++ tableCell key ++ ['`', ' '] ++ '|' :: []))) := by
  have opening : "| ".toList = ['|', ' '] := by decide
  have first : " | `".toList = [' ', '|', ' ', '`'] := by decide
  have second : "` | `".toList = ['`', ' ', '|', ' ', '`'] := by decide
  have closing : "` |".toList = ['`', ' ', '|'] := by decide
  delta tableLine
  simp only [opening, first, second, closing, List.append_assoc, List.cons_append,
    List.nil_append]

theorem cutBare_tableLine (path identifier key : Text) :
    cutBare false (tableLine path identifier key) =
      [[], [' '] ++ tableCell path ++ [' '], [' ', '`'] ++ tableCell identifier ++ ['`', ' '],
        [' ', '`'] ++ tableCell key ++ ['`', ' '], []] := by
  rw [tableLine_eq, cutBare_pipe, cutBare_cell (by decide) (by decide) (by decide),
    cutBare_cell (by decide) (by decide) (by decide),
    cutBare_cell (by decide) (by decide) (by decide), cutBare]

theorem readRow?_tableLine (path identifier key : Text) :
    readRow? (tableLine path identifier key) = some (path, identifier, key) := by
  simp only [readRow?, cutBare_tableLine, between?_eq, Option.bind_eq_bind, Option.bind_some,
    unescapePipes_tableCell]
  rfl

theorem newline_not_mem_tableCell (h : '\n' ∉ text) : '\n' ∉ tableCell text := by
  intro hm
  obtain ⟨c, hc, hn⟩ := List.mem_flatMap.mp hm
  split at hn
  · simp at hn
  · exact h (List.mem_singleton.mp hn ▸ hc)

theorem newline_not_mem_tableLine (hp : '\n' ∉ path) (hi : '\n' ∉ identifier) (hk : '\n' ∉ key) :
    '\n' ∉ tableLine path identifier key := by
  have hp := newline_not_mem_tableCell hp
  have hi := newline_not_mem_tableCell hi
  have hk := newline_not_mem_tableCell hk
  simp [tableLine_eq, hp, hi, hk]

def statedLines (files total : Nat) : List Text :=
  ["### 🌍 Abandoned Strings Report".toList, [],
    "**Files:** `".toList ++ Nat.toDigits 10 files ++ "`  ".toList,
    "**Abandoned:** `".toList ++ Nat.toDigits 10 total ++ "`  ".toList, []]

def headLines : List Text :=
  ["| File | Identifier | Generated Key |".toList, "| :--- | :--- | :--- |".toList]

theorem endLines_statedLines (files total : Nat) : endLines (statedLines files total) =
    "### 🌍 Abandoned Strings Report\n\n**Files:** `".toList ++ Nat.toDigits 10 files ++
      "`  \n**Abandoned:** `".toList ++ Nat.toDigits 10 total ++ "`  \n\n".toList := by
  have first : "### 🌍 Abandoned Strings Report\n\n**Files:** `".toList =
      "### 🌍 Abandoned Strings Report".toList ++ '\n' :: '\n' :: "**Files:** `".toList := by
    decide +kernel
  have second : "`  \n**Abandoned:** `".toList =
      "`  ".toList ++ '\n' :: "**Abandoned:** `".toList := by
    decide +kernel
  have third : "`  \n\n".toList = "`  ".toList ++ ['\n', '\n'] := by decide
  simp only [first, second, third, endLines, statedLines, List.flatMap_cons, List.flatMap_nil,
    List.append_assoc, List.cons_append, List.nil_append]

theorem newline_not_mem_digits (n : Nat) : '\n' ∉ Nat.toDigits 10 n := by
  intro hm
  exact absurd (Nat.isDigit_of_mem_toDigits (by decide) (by decide) hm) (by decide)

theorem newline_not_mem_statedLines (files total : Nat) :
    ∀ line ∈ statedLines files total, '\n' ∉ line := by
  have title : '\n' ∉ "### 🌍 Abandoned Strings Report".toList := by decide +kernel
  have first : '\n' ∉ "**Files:** `".toList := by decide
  have second : '\n' ∉ "**Abandoned:** `".toList := by decide
  have closing : '\n' ∉ "`  ".toList := by decide
  simp only [statedLines, List.forall_mem_cons, List.mem_append, title, first, second, closing,
    newline_not_mem_digits, List.not_mem_nil, not_false_iff, or_self, true_and, false_imp_iff,
    implies_true]

def pairs (report : Report) : List (Text × Text) :=
  report.sorted.flatMap fun row => row.2.map (row.1, ·)

theorem pairs_perm (report : Report) :
    report.pairs.Perm (report.findings.flatMap fun finding => finding.2.map (finding.1, ·)) := by
  rw [pairs, sorted, List.flatMap_map]
  apply (List.mergeSort_perm _ _).flatMap
  intro finding _
  exact (sort_perm finding.2).map _

theorem pairs_pairwise (report : Report) :
    report.pairs.Pairwise fun a b => a.1 < b.1 ∨ a.1 = b.1 ∧ a.2 ≤ b.2 := by
  have rows := report.sorted_isSorted
  rw [pairs, List.pairwise_flatMap]
  constructor
  · intro row hrow
    apply List.Pairwise.map _ _ (rows.identifiers row hrow).1
    intro a b hab
    exact .inr ⟨rfl, hab⟩
  · apply (List.pairwise_map.mp rows.ordered).imp
    intro row other hlt a ha b hb
    obtain ⟨identifier, -, rfl⟩ := List.mem_map.mp ha
    obtain ⟨identifier', -, rfl⟩ := List.mem_map.mp hb
    exact .inl hlt

theorem length_pairs (report : Report) : report.pairs.length = report.total := by
  rw [report.pairs_perm.length_eq, total, List.length_flatMap, List.length_flatMap]
  simp

def tableLines (ns : Namespace) (report : Report) : List Text :=
  report.pairs.map fun pair => tableLine pair.1 pair.2 (Key.accessor ns pair.2)

theorem tableRows_eq_endLines (ns : Namespace) (report : Report) :
    report.tableRows ns = endLines (report.tableLines ns) := by
  have row : ∀ path, tableRow ns path = fun identifier =>
      tableLine path identifier (Key.accessor ns identifier) ++ ['\n'] := by
    intro path
    funext identifier
    have closing : "` |\n".toList = "` |".toList ++ ['\n'] := by decide
    delta tableRow tableLine
    simp only [closing, List.append_assoc]
  simp only [tableRows, tableLines, pairs, endLines, List.map_flatMap, List.flatMap_assoc,
    List.flatMap_map, List.map_map, row]
  rfl

theorem summaryHead_eq_endLines (report : Report) :
    report.summaryHead = endLines (statedLines report.paths.length report.pairs.length) := by
  rw [endLines_statedLines, length_pairs, paths, Table.names, List.length_map]
  rfl

theorem tableHead_eq_endLines : tableHead = endLines headLines := by decide +kernel

theorem summary_eq_endLines (ns : Namespace) (report : Report) :
    report.summary ns = endLines (statedLines report.paths.length report.pairs.length ++
      (if report.findings = [] then [] else headLines) ++ report.tableLines ns) := by
  rw [endLines_append, endLines_append, ← tableRows_eq_endLines, ← summaryHead_eq_endLines,
    summary]
  by_cases none_found : report.findings = []
  · have no_rows : report.tableRows ns = [] := by simp [tableRows, sorted, none_found]
    rw [no_rows, if_pos none_found, isEmpty, none_found]
    simp [endLines]
  · rw [if_neg none_found, ← tableHead_eq_endLines, isEmpty,
      List.isEmpty_eq_false_iff.mpr none_found, List.append_assoc]
    rfl

theorem newline_not_mem_tableLines (hn : '\n' ∉ ns.name) (single : report.SingleLined) :
    ∀ line ∈ report.tableLines ns, '\n' ∉ line := by
  intro line hline
  obtain ⟨pair, hp, rfl⟩ := List.mem_map.mp hline
  obtain ⟨row, hrow, hr⟩ := List.mem_flatMap.mp hp
  obtain ⟨identifier, hi, rfl⟩ := List.mem_map.mp hr
  obtain ⟨path, identifiers⟩ := single.sorted row hrow
  have hid := identifiers identifier hi
  exact newline_not_mem_tableLine path hid (Key.newline_not_mem_accessor hn hid)

theorem splitOn_summary (hn : '\n' ∉ ns.name) (single : report.SingleLined) :
    splitOn '\n' (report.summary ns) = statedLines report.paths.length report.pairs.length ++
      (if report.findings = [] then [] else headLines) ++ report.tableLines ns ++ [[]] := by
  have heads : ∀ line ∈ if report.findings = [] then [] else headLines, '\n' ∉ line := by
    split
    · simp
    · decide +kernel
  have lines := List.forall_mem_append.mpr ⟨List.forall_mem_append.mpr
    ⟨newline_not_mem_statedLines report.paths.length report.pairs.length, heads⟩,
    newline_not_mem_tableLines hn single⟩
  have cut := splitOn_endLines lines []
  rw [List.append_nil] at cut
  rw [summary_eq_endLines, cut]
  rfl

/-- The text that is added to the summary file states how many files the report has and how many
rows its table. Each row is read back as a path, an identifier and its key; in the order of the
rows these are all identifiers of the report with their paths, by path and then by identifier. -/
theorem summary_read_back (ns : Namespace) (report : Report) (hn : '\n' ∉ ns.name)
    (single : report.SingleLined) :
    (∀ ws : Workspace, ws.CanSummarize → ∃ after written,
      ws.writeSummary ns report = .ok (after, written) ∧
        ws.AddsSummary (report.summary ns) after) ∧
    ∃ (rows : List Text) (pairs : List (Text × Text)),
      splitOn '\n' (report.summary ns) = statedLines report.paths.length rows.length ++
        (if report.findings = [] then [] else headLines) ++ rows ++ [[]] ∧
      rows.map readRow? = pairs.map (fun pair =>
        some (pair.1, pair.2, Key.accessor ns pair.2)) ∧
      pairs.Perm (report.findings.flatMap fun finding => finding.2.map (finding.1, ·)) ∧
      pairs.Pairwise fun a b => a.1 < b.1 ∨ a.1 = b.1 ∧ a.2 ≤ b.2 := by
  refine ⟨fun ws h => ws.writeSummary_eq h ns report, report.tableLines ns, report.pairs, ?_, ?_,
    report.pairs_perm, report.pairs_pairwise⟩
  · rw [splitOn_summary hn single, tableLines, List.length_map]
  · rw [tableLines, List.map_map]
    apply List.map_congr_left
    intro pair _
    exact readRow?_tableLine _ _ _

def piped : Report :=
  ofList [("b\\|".toList, ["|".toList]), ("a|\\".toList, ["\\|`".toList, "\\|`".toList])]

theorem summary_read_back_piped :
    '\n' ∉ Namespace.standard.name ∧ piped.SingleLined ∧
    ∃ rows, splitOn '\n' (piped.summary .standard) = statedLines 2 3 ++ headLines ++ rows ++ [[]] ∧
      (rows.map readRow?).Perm
        [some ("b\\|".toList, "|".toList, "l10n.|".toList),
          some ("a|\\".toList, "\\|`".toList, "l10n.\\|`".toList),
          some ("a|\\".toList, "\\|`".toList, "l10n.\\|`".toList)] := by
  have hn : '\n' ∉ Namespace.standard.name := by decide
  have single : piped.SingleLined := by decide
  obtain ⟨-, rows, pairs, lines, read, found, -⟩ := summary_read_back .standard piped hn single
  have shown := found.map fun pair => some (pair.1, pair.2, Key.accessor .standard pair.2)
  have listed : (piped.findings.flatMap fun finding => finding.2.map (finding.1, ·)).map
      (fun pair => some (pair.1, pair.2, Key.accessor .standard pair.2)) =
        [some ("b\\|".toList, "|".toList, "l10n.|".toList),
          some ("a|\\".toList, "\\|`".toList, "l10n.\\|`".toList),
          some ("a|\\".toList, "\\|`".toList, "l10n.\\|`".toList)] := by
    decide +kernel
  rw [← read, listed] at shown
  have count : rows.length = 3 := by simpa using shown.length_eq
  rw [count] at lines
  exact ⟨hn, single, rows, lines, shown⟩

end Report

end StringsAudit
