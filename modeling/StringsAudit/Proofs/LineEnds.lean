import Mathlib.Data.List.Forall2
import StringsAudit.Abandoned
import StringsAudit.Proofs.LineForms
import StringsAudit.Proofs.Separation

/-!
# Line ends

A carriage return at the end of a line belongs to no token and to no identifier. So it may stand
before any of the newlines of a source and of a strings file, and nothing is found that was not
found without it.
-/

set_option autoImplicit false

namespace StringsAudit

namespace Text

variable {text other : Text}

inductive Returned : Text → Text → Prop
  | nil : Returned [] []
  | keep (c : Char) {text other : Text} (rest : Returned text other) :
      Returned (c :: text) (c :: other)
  | insert {text other : Text} (rest : Returned text other) :
      Returned ('\n' :: text) ('\r' :: '\n' :: other)

def SameLine (line other : Text) : Prop := other = line ∨ other = line ++ ['\r']

theorem forall₂_extend (c : Char) {lines others : List Text}
    (h : List.Forall₂ SameLine lines others) :
    List.Forall₂ SameLine (extend c lines) (extend c others) := by
  cases h with
  | nil => exact .cons (.inl rfl) .nil
  | cons first rest =>
    refine .cons ?_ rest
    rcases first with rfl | rfl
    · exact .inl rfl
    · exact .inr rfl

theorem lines_of_returned (h : Returned text other) :
    List.Forall₂ SameLine (splitOn '\n' text) (splitOn '\n' other) := by
  induction h with
  | nil => exact .cons (.inl rfl) .nil
  | keep c _ ih =>
    by_cases hc : c = '\n'
    · subst hc
      rw [splitOn_sep_cons, splitOn_sep_cons]
      exact .cons (.inl rfl) ih
    · rw [splitOn_cons_of_ne hc, splitOn_cons_of_ne hc]
      exact forall₂_extend c ih
  | insert _ ih =>
    rw [splitOn_sep_cons, splitOn_cons_of_ne (by decide), splitOn_sep_cons]
    exact .cons (.inr rfl) ih

/-- What takes no notice of a carriage return behind a line finds the same in both texts. -/
theorem map_lines_of_returned {α : Type} {f : Text → α} (hf : ∀ line, f (line ++ ['\r']) = f line)
    (h : Returned text other) : (splitOn '\n' other).map f = (splitOn '\n' text).map f := by
  have same : List.Forall₂ (fun line other => f other = f line) (splitOn '\n' text)
      (splitOn '\n' other) := by
    refine (lines_of_returned h).imp ?_
    rintro line other (rfl | rfl)
    · rfl
    · exact hf line
  rw [← List.forall₂_eq_eq_eq, List.forall₂_map_left_iff, List.forall₂_map_right_iff]
  exact same.flip

end Text

namespace Token

open Text

variable {ns : Namespace} {c : Char}

/-- Behind the end of a source, a character that is no member makes no accessor and no run
longer. -/
theorem accessorAt?_concat (hm : isMemberChar c = false) (source : Text) :
    accessorAt? ns (source ++ [c]) = accessorAt? ns source := by
  have hdot : c ≠ '.' := by
    rintro rfl
    exact absurd hm (by decide)
  rw [accessorAt?, accessorAt?]
  cases hd : dropLeading? (ns.name ++ ['.']) source with
  | some rest =>
    have hc : dropLeading? (ns.name ++ ['.']) (source ++ [c]) = some (rest ++ [c]) := by
      rw [dropLeading?_eq_some_iff] at hd ⊢
      rw [hd, List.append_assoc]
    simp only [hc, takeWhile_append_cons hm]
  | none =>
    cases hc : dropLeading? (ns.name ++ ['.']) (source ++ [c]) with
    | none => rfl
    | some rest =>
      rw [dropLeading?_eq_some_iff] at hc
      rcases List.eq_nil_or_concat rest with rfl | ⟨front, last, rfl⟩
      · rw [List.append_nil] at hc
        exact absurd (List.append_inj_right' hc rfl) (by simpa using hdot)
      · rw [List.concat_eq_append, ← List.append_assoc] at hc
        have hs := List.append_inj_left' hc rfl
        rw [dropLeading?_eq_some_iff.mpr hs] at hd
        cases hd

theorem literalAt?_concat (hq : c ≠ '"') (ha : c ≠ '@') (source : Text) :
    literalAt? (source ++ [c]) = literalAt? source := by
  match source with
  | [] => simp [literalAt?]
  | [d] => simp [literalAt?, ha]
  | d :: e :: rest =>
    by_cases hd : d = '"' ∧ e = '@'
    · obtain ⟨rfl, rfl⟩ := hd
      simp only [List.cons_append, literalAt?]
      rw [cutAt_append_of_not_mem (by simpa using hq.symm)]
      cases cutAt '"' rest <;> rfl
    · have hn : ∀ more tail, d :: e :: more = '"' :: '@' :: tail → False := by
        intro more tail h
        simp only [List.cons.injEq] at h
        exact hd ⟨h.1, h.2.1⟩
      rw [List.cons_append, List.cons_append, literalAt?.eq_2 _ (hn _), literalAt?.eq_2 _ (hn _)]

theorem all_concat_return (source : Text) : all ns (source ++ ['\r']) = all ns source := by
  have hat : ∀ source, at? ns (source ++ ['\r']) = at? ns source := by
    intro source
    rw [at?, at?, accessorAt?_concat (by decide), literalAt?_concat (by decide) (by decide)]
  induction source using token_induction ns with
  | nil => rw [List.nil_append, all_of_at?_none ((hat []).trans (at?_nil ns))]
  | token token rest ht ih =>
    have hr := (hat (token.text ns ++ rest)).trans ht
    rw [all_of_at? ht rfl, all_of_at? hr (List.append_assoc _ _ _), ih]
  | skip c rest hc ih =>
    have hr := (hat (c :: rest)).trans hc
    rw [List.cons_append] at hr ⊢
    rw [all_of_at?_none hc, all_of_at?_none hr, ih]

theorem all_of_returned (hn : '\n' ∉ ns.name) {source other : Text} (h : Returned source other) :
    all ns other = all ns source := by
  have hl : ∀ text, all ns text = ((splitOn '\n' text).map (all ns)).flatten := by
    intro text
    rw [← List.flatMap_def, ← all_joinWith hn, joinWith_splitOn]
  rw [hl other, hl source, map_lines_of_returned all_concat_return h]

end Token

namespace Line

open Text

/-- Behind a line, a character that is no quote changes neither the line's identifier nor whether
the line is malformed. -/
theorem read_concat {c : Char} (hq : c ≠ '"') (origin line : Text) :
    (read (line ++ [c])).identifier? = (read line).identifier? ∧
      ((read (line ++ [c])).diagnostic? origin).isSome =
        ((read line).diagnostic? origin).isSome := by
  by_cases h : line.head? = some '"'
  · obtain ⟨rest, rfl⟩ := List.head?_eq_some_iff.mp h
    rw [List.cons_append, read_quote, read_quote, cutAt_append_of_not_mem (by simpa using hq.symm)]
    cases cutAt '"' rest <;> exact ⟨rfl, rfl⟩
  · have hc : (line ++ [c]).head? ≠ some '"' := by
      cases line with
      | nil => simpa using hq
      | cons d rest => exact h
    rw [read_of_head_ne h, read_of_head_ne hc]
    exact ⟨rfl, rfl⟩

end Line

open Text

variable {content other : Text}

theorem identifiers_of_returned (h : Returned content other) :
    identifiers other = identifiers content := by
  have hl : ∀ text, identifiers text =
      ((splitOn '\n' text).map fun line => (Line.read line).identifier?).filterMap id := by
    intro text
    rw [identifiers, Line.all, List.filterMap_map, List.filterMap_map]
    rfl
  rw [hl other, hl content]
  congr 1
  exact map_lines_of_returned (fun line => (Line.read_concat (by decide) [] line).1) h

theorem length_lineLog_of_returned (origin : Text) (h : Returned content other) :
    (lineLog origin other).length = (lineLog origin content).length := by
  have hl : ∀ text, (lineLog origin text).length =
      ((splitOn '\n' text).map fun line =>
        ((Line.read line).diagnostic? origin).isSome).countP id := by
    intro text
    rw [lineLog, Line.all, List.length_filterMap_eq_countP, List.countP_map, List.countP_map]
    rfl
  rw [hl other, hl content]
  congr 1
  exact map_lines_of_returned (fun line => (Line.read_concat (by decide) origin line).2) h

/-- A carriage return before any of the newlines of the source and before any of those of the
strings file changes no usage and no identifier, nor what is abandoned and how many lines are told
to be malformed. -/
theorem findings_of_returned (ns : Namespace) (source source' content content' : Text)
    (hn : '\n' ∉ ns.name) (hs : Returned source source') (hc : Returned content content') :
    usages ns source' = usages ns source ∧
    identifiers content' = identifiers content ∧
    abandoned ns (usages ns source') content' = abandoned ns (usages ns source) content ∧
    ∀ origin, (lineLog origin content').length = (lineLog origin content).length := by
  have used : usages ns source' = usages ns source := by
    rw [usages, usages, Token.all_of_returned hn hs]
  refine ⟨used, identifiers_of_returned hc, ?_, fun origin => length_lineLog_of_returned origin hc⟩
  rw [abandoned, abandoned, used, identifiers_of_returned hc]

/-- The namespace is a carriage return, which is put before a newline and not before a dot; in the
strings file one stands behind an open quote and one behind blanks. -/
theorem findings_of_returned_namespace :
    '\n' ∉ (Namespace.mk ['\r'] (by decide)).name ∧
    Returned "\n.x\n\r.y\n".toList "\r\n.x\n\r.y\r\n".toList ∧
    Returned "\"a\n\"b\" \n\"y".toList "\"a\r\n\"b\" \r\n\"y".toList ∧
    abandoned ⟨['\r'], by decide⟩ (usages ⟨['\r'], by decide⟩ "\r\n.x\n\r.y\r\n".toList)
      "\"a\r\n\"b\" \r\n\"y".toList = [['b']] ∧
    (lineLog [] "\"a\r\n\"b\" \r\n\"y".toList).length = 2 := by
  have hn : '\n' ∉ (Namespace.mk ['\r'] (by decide)).name := by decide
  have hs : Returned "\n.x\n\r.y\n".toList "\r\n.x\n\r.y\r\n".toList :=
    .insert (.keep _ (.keep _ (.keep _ (.keep _ (.keep _ (.keep _ (.insert .nil)))))))
  have hc : Returned "\"a\n\"b\" \n\"y".toList "\"a\r\n\"b\" \r\n\"y".toList :=
    .keep _ (.keep _ (.insert (.keep _ (.keep _ (.keep _ (.keep _ (.insert (.keep _
      (.keep _ .nil)))))))))
  obtain ⟨-, -, found, told⟩ := findings_of_returned ⟨['\r'], by decide⟩ _ _ _ _ hn hs hc
  refine ⟨hn, hs, hc, found.trans (by decide +kernel), (told []).trans (by decide)⟩

end StringsAudit
