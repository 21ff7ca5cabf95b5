import StringsAudit.Abandoned
import StringsAudit.Proofs.Naming
import StringsAudit.Proofs.Passing
import StringsAudit.Proofs.Separation

/-!
# Identifiers that are kept

An identifier is kept when the source holds its accessor or its literal where the search takes it.
An accessor that stands whole is taken unless a dot follows it or an earlier literal lies across
its beginning; and a strings file of which each identifier is written on some line, with no quote
before it, has no abandoned identifier.
-/

set_option autoImplicit false

namespace StringsAudit

open Text Token

variable {ns : Namespace} {source front back before identifier inner run : Text}

namespace Key

def accessorText (ns : Namespace) (identifier : Text) : Text :=
  ns.name ++ '.' :: accessorName identifier

theorem isUsed_of_takes_accessor (h : Takes ns source before (accessorText ns identifier)) :
    isUsed ns (usages ns source) identifier = true :=
  isUsed_iff.mpr (.inl (mem_usages_iff_takes.mpr ⟨before, _, h, rfl⟩))

theorem isUsed_of_takes_literal (h : Takes ns source before (quotedForm identifier)) :
    isUsed ns (usages ns source) identifier = true :=
  isUsed_iff.mpr (.inr (mem_usages_iff_takes.mpr ⟨before, _, h, rfl⟩))

theorem accessorStarts_iff_head (hi : Nameable identifier) :
    AccessorStarts ns (accessorText ns identifier ++ back) (accessorText ns identifier) ↔
      ∀ c, back.head? = some c → ¬ IsMember c := by
  constructor
  · rintro ⟨run, rest, -, -, hs, -, hcut⟩
    rwa [List.append_cancel_left hcut]
  · intro hs
    exact ⟨accessorName identifier, back, hi.accessorName_ne_nil, hi.isMember_accessorName, hs,
      rfl, rfl⟩

theorem literal_starts (hq : '"' ∉ ns.name) (hi : '"' ∉ identifier) (hl : '\n' ∉ identifier) :
    Starts ns (quotedForm identifier ++ back) (quotedForm identifier) := by
  refine .inr ⟨?_, identifier, back, hi, hl, rfl, rfl⟩
  rintro _ ⟨run, rest, -, -, -, rfl, hcut⟩
  rw [List.append_assoc] at hcut
  exact Namespace.name_append_ne_cons hq _ _ hcut.symm

end Key

namespace Token

theorem exists_getLast?_of_append {head : Text} (h : head ≠ []) (before : Text) :
    ∃ c ∈ head, (before ++ head).getLast? = some c := by
  refine ⟨head.getLast h, List.getLast_mem h, ?_⟩
  rw [List.getLast?_append_of_ne_nil before h, List.getLast?_eq_some_getLast h]

/-- A literal across the end of a text begins with a quote in the text, so a text without
quotes has none across its end. -/
theorem not_straddles_of_no_quote (hq : '"' ∉ front) (inner : Text) :
    ¬ Straddles ns source front (Key.quotedForm inner) := by
  rintro ⟨before, head, tail, rfl, hl, hh, -, -⟩
  cases head with
  | nil => exact hh rfl
  | cons c head =>
    have hc : '"' = c := List.head_eq_of_cons_eq hl
    exact hq (List.mem_append_right before (hc ▸ List.mem_cons_self))

/-- An accessor across the end of a text has members on both sides of it, or else only a part of
its namespace stands before it and the other part and the dot behind it. -/
theorem members_or_namespace_of_straddles (hr : ∀ c ∈ run, IsMember c)
    (h : Straddles ns (front ++ back) front (ns.name ++ '.' :: run)) :
    (∃ c d, front.getLast? = some c ∧ IsMember c ∧ back.head? = some d ∧ IsMember d) ∨
      ∃ before head tail rest, front = before ++ head ∧ head ≠ [] ∧ ns.name = head ++ tail ∧
        back = tail ++ '.' :: rest := by
  have hm : ∀ c ∈ '.' :: run, IsMember c :=
    List.forall_mem_cons.mpr ⟨.inr (.inr (.inr rfl)), hr⟩
  obtain ⟨head, tail, before, rest, hl, hh, ht, rfl, rfl, -⟩ := cut_of_straddles h
  rcases List.append_eq_append_iff.mp hl with ⟨more, rfl, hrun⟩ | ⟨more, hn, rfl⟩
  · by_cases hmore : more = []
    · subst hmore
      rw [List.append_nil] at hh ⊢
      rw [List.nil_append] at hrun
      subst hrun
      exact .inr ⟨before, ns.name, [], run ++ rest, rfl, hh, (List.append_nil _).symm, rfl⟩
    · rw [hrun] at hm
      obtain ⟨c, hc, hlast⟩ := exists_getLast?_of_append hmore (before ++ ns.name)
      rw [List.append_assoc] at hlast
      obtain ⟨d, tail, rfl⟩ := List.exists_cons_of_ne_nil ht
      exact .inl ⟨c, d, hlast, hm c (List.mem_append_left _ hc), rfl,
        hm d (List.mem_append_right _ List.mem_cons_self)⟩
  · exact .inr ⟨before, head, more, run ++ rest, rfl, hh, hn, by simp⟩

/-- The search arrives where neither an accessor nor a literal lies across. -/
theorem passes_of_none_across (h : source = front ++ back)
    (ha : ∀ run, (∀ c ∈ run, IsMember c) → ¬ Straddles ns source front (ns.name ++ '.' :: run))
    (hl : ∀ inner, ¬ Straddles ns source front (Key.quotedForm inner)) :
    Passes ns source front back := by
  rcases passes_or_straddles h with passes | ⟨lexeme, straddles⟩
  · exact passes
  · obtain ⟨before, _, _, _, _, _, _, taken⟩ := id straddles
    rcases accessor_or_literal_of_takes taken with ⟨run, -, hr, rfl⟩ | ⟨inner, rfl⟩
    · exact absurd straddles (ha run hr)
    · exact absurd straddles (hl inner)

end Token

namespace Key

def isWordChar (c : Char) : Bool := c.isAlphanum || c == '_'

/-- Between these two texts an accessor stands whole: neither continues it as a word, and no dot
before it makes it a member of something else. -/
structure Bounded (front back : Text) : Prop where
  before : ∀ c, front.getLast? = some c → isWordChar c = false ∧ c ≠ '.'
  behind : ∀ c, back.head? = some c → isWordChar c = false

instance (front back : Text) : Decidable (Bounded front back) :=
  decidable_of_iff ((front.getLast?.all fun c => !isWordChar c && c != '.') ∧
    back.head?.all (!isWordChar ·)) (by
      simp only [Option.all_eq_true, Bool.and_eq_true, Bool.not_eq_true', bne_iff_ne]
      exact ⟨fun h => ⟨h.1, h.2⟩, fun h => ⟨h.before, h.behind⟩⟩)

theorem isMember_of_not_isWordChar {c : Char} (h : isWordChar c = false) :
    IsMember c ↔ c = '.' := by
  rw [isWordChar, Bool.or_eq_false_iff] at h
  rw [isMember_iff, h.1]
  simp

theorem Bounded.not_isMember (h : Bounded front back) {c : Char} (hc : front.getLast? = some c) :
    ¬ IsMember c := by
  obtain ⟨hw, hd⟩ := h.before c hc
  rwa [isMember_of_not_isWordChar hw]

/-- Without a dot behind it, nothing behind a whole accessor makes its run longer. -/
theorem Bounded.not_isMember_head (h : Bounded front back) (hd : back.head? ≠ some '.') :
    ∀ c, back.head? = some c → ¬ IsMember c := by
  intro c hc
  rw [isMember_of_not_isWordChar (h.behind c hc)]
  rintro rfl
  exact hd hc

/-- A literal is all that can lie across the beginning of a whole accessor. -/
theorem passes_of_bounded (hn : ns.name.all Char.isAlphanum = true) (hb : Bounded front back)
    (h : source = front ++ before)
    (hl : ∀ inner, ¬ Straddles ns source front (quotedForm inner)) :
    Passes ns source front before := by
  apply passes_of_none_across h ?_ hl
  intro run hr straddles
  rw [h] at straddles
  rcases members_or_namespace_of_straddles hr straddles with
    ⟨c, -, hc, hm, -⟩ | ⟨text, head, tail, rest, rfl, hh, hname, -⟩
  · exact hb.not_isMember hc hm
  · obtain ⟨c, hc, hlast⟩ := exists_getLast?_of_append hh text
    have ha : c.isAlphanum = true :=
      List.all_eq_true.mp hn c (hname ▸ List.mem_append_left tail hc)
    exact hb.not_isMember hlast ((isMember_iff c).mpr (.inl ha))

theorem takes_accessor_iff (hq : '"' ∉ ns.name) (hi : Nameable identifier)
    (h : source = front ++ (accessorText ns identifier ++ back)) :
    Takes ns source front (accessorText ns identifier) ↔
      Passes ns source front (accessorText ns identifier ++ back) ∧
        ∀ c, back.head? = some c → ¬ IsMember c := by
  constructor
  · rintro ⟨rest, passes, starts⟩
    have hcut := h.symm.trans passes.cut
    rw [List.append_cancel_left_eq, List.append_cancel_left_eq] at hcut
    subst hcut
    refine ⟨passes, ?_⟩
    rcases starts with accessor | ⟨-, inner, _, -, -, hl, -⟩
    · exact (accessorStarts_iff_head hi).mp accessor
    · exact absurd hl (Namespace.name_append_ne_cons hq _ _)
  · rintro ⟨passes, hs⟩
    exact ⟨back, passes, .inl ((accessorStarts_iff_head hi).mpr hs)⟩

/-- An accessor that stands whole is a token of the source just if no dot follows it and no literal
lies across its beginning; and then its identifier is never reported. -/
theorem kept_of_whole_accessor (ns : Namespace) (identifier front back source : Text)
    (hn : ns.name.all Char.isAlphanum = true) (hi : Nameable identifier)
    (hb : Bounded front back) (hs : source = front ++ (accessorText ns identifier ++ back)) :
    (Takes ns source front (accessorText ns identifier) ↔
      back.head? ≠ some '.' ∧ ∀ inner, ¬ Straddles ns source front (quotedForm inner)) ∧
    (back.head? ≠ some '.' → (∀ inner, ¬ Straddles ns source front (quotedForm inner)) →
      ∀ content, identifier ∉ abandoned ns (usages ns source) content) := by
  have hq : '"' ∉ ns.name := by
    intro hm
    exact absurd (List.all_eq_true.mp hn '"' hm) (by decide)
  have taken : Takes ns source front (accessorText ns identifier) ↔
      back.head? ≠ some '.' ∧ ∀ inner, ¬ Straddles ns source front (quotedForm inner) := by
    rw [takes_accessor_iff hq hi hs]
    constructor
    · rintro ⟨passes, hm⟩
      refine ⟨?_, fun inner => not_straddles_of_passes passes⟩
      intro hd
      exact hm '.' hd ((isMember_iff '.').mpr (.inr rfl))
    · rintro ⟨hd, hl⟩
      exact ⟨passes_of_bounded hn hb hs hl, hb.not_isMember_head hd⟩
  refine ⟨taken, ?_⟩
  intro hd hl content hm
  have used := isUsed_of_takes_accessor (taken.mpr ⟨hd, hl⟩)
  rw [mem_abandoned, used] at hm
  exact absurd hm.2 (by decide)

/-- Behind a literal that is closed before it, an accessor is taken. -/
theorem kept_of_whole_accessor_closed :
    Namespace.standard.name.all Char.isAlphanum = true ∧ Nameable "home.title".toList ∧
    Bounded "\"@a\" ".toList ")".toList ∧
    ∀ content, "home.title".toList ∉ abandoned .standard
      (usages .standard "\"@a\" L10n.home.Title)".toList) content := by
  have hn : Namespace.standard.name.all Char.isAlphanum = true := by decide
  have hi : Nameable "home.title".toList := by decide
  have hb : Bounded "\"@a\" ".toList ")".toList := by decide
  refine ⟨hn, hi, hb, ?_⟩
  have literal : at? .standard ((Token.literal ['a']).text .standard ++
      ' ' :: "L10n.home.Title)".toList) = some (.literal ['a']) := by decide
  have blank : at? .standard (' ' :: "L10n.home.Title)".toList) = none := by decide
  have passes := Passes.token (starts_of_at? literal)
    (.skip (fun _ => not_starts_of_at?_none blank) .here)
  exact (kept_of_whole_accessor .standard _ _ _ _ hn hi hb (by decide)).2 (by decide)
    fun _ => not_straddles_of_passes passes

/-- An accessor of which a member is accessed, and one inside a literal, are not taken, and their
identifier is reported. -/
theorem whole_accessor_reported :
    Namespace.standard.name.all Char.isAlphanum = true ∧ Nameable "home.title".toList ∧
    (Bounded [] ".count".toList ∧ "home.title".toList ∈ abandoned .standard
      (usages .standard (accessorText .standard "home.title".toList ++ ".count".toList))
      "\"home.title\"".toList) ∧
    Bounded "\"@\\(".toList ")\"".toList ∧ "home.title".toList ∈ abandoned .standard
      (usages .standard ("\"@\\(".toList ++
        (accessorText .standard "home.title".toList ++ ")\"".toList)))
      "\"home.title\"".toList := by
  decide +kernel

inductive WrittenIn (ns : Namespace) (identifier : Text) : Text → Prop
  | literal {front back : Text} (unquoted : '"' ∉ front) :
      WrittenIn ns identifier (front ++ (quotedForm identifier ++ back))
  | accessor {front back : Text} (unquoted : '"' ∉ front) (nameable : Nameable identifier)
      (before : ∀ c, front.getLast? = some c → ¬ IsMember c)
      (behind : ∀ c, back.head? = some c → ¬ IsMember c) :
      WrittenIn ns identifier (front ++ (accessorText ns identifier ++ back))

/-- A namespace without a dot does not overlap an accessor that begins inside it. -/
theorem namespace_not_across (hd : '.' ∉ ns.name) {head tail rest : Text} (hh : head ≠ [])
    (hn : ns.name = head ++ tail) : accessorText ns identifier ++ back ≠ tail ++ '.' :: rest := by
  intro h
  rw [accessorText, List.append_assoc] at h
  have hlen := congrArg List.length hn
  have hpos := List.length_pos_iff.mpr hh
  rw [List.length_append] at hlen
  rcases List.append_eq_append_iff.mp h with ⟨more, rfl, -⟩ | ⟨more, hname, hdot⟩
  · rw [List.length_append] at hlen
    omega
  · cases more with
    | nil =>
      rw [List.append_nil] at hname
      rw [hname] at hlen
      omega
    | cons c more =>
      have hc : '.' = c := List.head_eq_of_cons_eq hdot
      exact hd (hname ▸ hc ▸ List.mem_append_right _ List.mem_cons_self)

theorem isUsed_of_writtenIn {line : Text} (hd : '.' ∉ ns.name) (hq : '"' ∉ ns.name)
    (hi : '"' ∉ identifier ∧ '\n' ∉ identifier) (h : WrittenIn ns identifier line) :
    isUsed ns (usages ns line) identifier = true := by
  cases h with
  | @literal front back unquoted =>
    have passes : Passes ns (front ++ (quotedForm identifier ++ back)) front
        (quotedForm identifier ++ back) := by
      apply passes_of_none_across rfl ?_ (not_straddles_of_no_quote unquoted)
      intro run hr straddles
      rcases members_or_namespace_of_straddles hr straddles with
        ⟨-, d, -, -, hback, hm⟩ | ⟨-, head, tail, rest, -, -, hn, hback⟩
      · obtain rfl : '"' = d := Option.some.inj hback
        exact absurd ((isMemberChar_iff '"').mpr hm) (by decide)
      · cases tail with
        | nil => exact absurd (List.head_eq_of_cons_eq hback) (by decide)
        | cons c tail =>
          have hc : '"' = c := List.head_eq_of_cons_eq hback
          exact hq (hn ▸ hc ▸ List.mem_append_right _ List.mem_cons_self)
    exact isUsed_of_takes_literal ⟨back, passes, literal_starts hq hi.1 hi.2⟩
  | @accessor front back unquoted nameable before behind =>
    have passes : Passes ns (front ++ (accessorText ns identifier ++ back)) front
        (accessorText ns identifier ++ back) := by
      apply passes_of_none_across rfl ?_ (not_straddles_of_no_quote unquoted)
      intro run hr straddles
      rcases members_or_namespace_of_straddles hr straddles with
        ⟨c, -, hc, hm, -⟩ | ⟨-, head, tail, rest, -, hh, hn, hback⟩
      · exact before c hc hm
      · exact namespace_not_across hd hh hn hback
    exact isUsed_of_takes_accessor ((takes_accessor_iff hq nameable rfl).mpr ⟨passes, behind⟩)

/-- What a line uses, the text uses. -/
theorem isUsed_of_line {line : Text} (hn : '\n' ∉ ns.name) (hl : line ∈ splitOn '\n' source)
    (h : isUsed ns (usages ns line) identifier = true) :
    isUsed ns (usages ns source) identifier = true := by
  have hs := mem_usages_joinWith hn (splitOn '\n' source)
  rw [joinWith_splitOn] at hs
  rw [isUsed_iff, hs, hs]
  exact (isUsed_iff.mp h).imp (fun hk => ⟨line, hl, hk⟩) fun hk => ⟨line, hl, hk⟩

/-- If each identifier of a strings file is written on some line of the source, whatever the other
lines hold, none is abandoned. -/
theorem abandoned_eq_nil_of_written (ns : Namespace) (content source : Text) (hd : '.' ∉ ns.name)
    (hq : '"' ∉ ns.name) (hn : '\n' ∉ ns.name)
    (h : ∀ identifier ∈ identifiers content, ∃ line ∈ splitOn '\n' source,
      WrittenIn ns identifier line) :
    abandoned ns (usages ns source) content = [] := by
  rw [abandoned, List.filter_eq_nil_iff]
  intro identifier hm
  obtain ⟨line, hl, written⟩ := h identifier hm
  have hi := not_mem_of_mem_identifiers hm
  have used := isUsed_of_line hn hl (isUsed_of_writtenIn hd hq hi written)
  simp [used]

def overlapping : Namespace := ⟨"é-é".toList, by decide⟩

/-- A namespace that overlaps itself, an identifier that only a literal can name, and a line whose
literal is left open. -/
theorem abandoned_eq_nil_of_written_overlapping :
    '.' ∉ overlapping.name ∧ '"' ∉ overlapping.name ∧ '\n' ∉ overlapping.name ∧
    abandoned overlapping (usages overlapping
      "é-é-é.home.Title)\n<t k=\"@Größe Σ\"/>\n\"@é-é.".toList)
      "\"home.title\"\n\"Größe Σ\"".toList = [] := by
  have hd : '.' ∉ overlapping.name := by decide
  have hq : '"' ∉ overlapping.name := by decide
  have hn : '\n' ∉ overlapping.name := by decide
  refine ⟨hd, hq, hn, abandoned_eq_nil_of_written _ _ _ hd hq hn ?_⟩
  have found : identifiers "\"home.title\"\n\"Größe Σ\"".toList =
      ["home.title".toList, "Größe Σ".toList] := by decide
  have accessed : WrittenIn overlapping "home.title".toList
      ("é-".toList ++ (accessorText overlapping "home.title".toList ++ [')'])) := by
    refine .accessor (by decide) (by decide) ?_ ?_
    · intro c hc
      obtain rfl : '-' = c := Option.some.inj hc
      rw [← isMemberChar_iff]
      decide
    · intro c hc
      obtain rfl : ')' = c := Option.some.inj hc
      rw [← isMemberChar_iff]
      decide
  have quoted : WrittenIn overlapping "Größe Σ".toList
      ("<t k=".toList ++ (quotedForm "Größe Σ".toList ++ "/>".toList)) := .literal (by decide)
  rw [found]
  exact List.forall_mem_cons.mpr ⟨⟨_, by decide, accessed⟩,
    List.forall_mem_singleton.mpr ⟨_, by decide, quoted⟩⟩

end Key

end StringsAudit
