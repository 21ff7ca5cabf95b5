import StringsAudit.Proofs.Lines

/-!
# Words of a segment

An underscore keeps the words on its two sides from seeing each other when they are lowered, so a
segment's name is the row of its words' names. Only the first word depends on whether the segment
is to be capitalized. This law and the names of single words determine the name of every segment.
-/

set_option autoImplicit false

namespace StringsAudit

namespace Text

theorem lower_append_underscore (a b : Text) :
    lower (a ++ '_' :: b) = lower a ++ '_' :: lower b := by
  have apart : isCaseIgnorable '_' = false ∧ isCased '_' = false := by decide
  have kept : lowerChar false '_' b = ['_'] := rfl
  have closed : casedThrough false '_' = false := by decide
  rw [lower, lowerFrom_append_cons apart.1 apart.2, lowerFrom, kept, closed]
  rfl

theorem underscore_not_mem_lower {word : Text} (h : '_' ∉ word) : '_' ∉ lower word := by
  have below : IsBelowSmall '_' := by decide
  exact fun hc => h (below.mem_of_mem_lower hc)

end Text

namespace Key

open Text

variable {name other : Text → Bool → Text} {word : Text} {words : List Text}

def joinNames (name : Text → Bool → Text) (cap : Bool) : List Text → Text
  | [] => []
  | word :: words => name word cap ++ words.flatMap (name · true)

theorem joinNames_true (name : Text → Bool → Text) (words : List Text) :
    joinNames name true words = words.flatMap (name · true) := by
  cases words with
  | nil => rfl
  | cons word words => rfl

theorem joinNames_append (h : words ≠ []) (cap : Bool) (more : List Text) :
    joinNames name cap (words ++ more) = joinNames name cap words ++ joinNames name true more := by
  cases words with
  | nil => exact absurd rfl h
  | cons word words =>
    rw [joinNames_true, List.cons_append, joinNames, joinNames, List.flatMap_append,
      List.append_assoc]

def wordwise (name : Text → Bool → Text) (segment : Text) (cap : Bool) : Text :=
  joinNames name cap (splitOn '_' segment)

def Splits (name : Text → Bool → Text) : Prop :=
  ∀ a b cap, name (a ++ '_' :: b) cap = name a cap ++ name b true

theorem wordwise_splits (name : Text → Bool → Text) : Splits (wordwise name) := by
  intro a b cap
  rw [wordwise, splitOn_append_sep, joinNames_append (splitOn_ne_nil '_' a)]
  rfl

theorem wordwise_of_word (h : '_' ∉ word) (cap : Bool) :
    wordwise name word cap = name word cap := by
  rw [wordwise, splitOn_of_not_mem h, joinNames, List.flatMap_nil, List.append_nil]

/-- Two ways to name segments that split are the same if they name single words alike. -/
theorem Splits.eq (h : Splits name) (ho : Splits other)
    (alike : ∀ word, '_' ∉ word → ∀ cap, name word cap = other word cap) : name = other := by
  have joined : ∀ words : List Text, words ≠ [] → (∀ word ∈ words, '_' ∉ word) →
      ∀ cap, name (joinWith '_' words) cap = other (joinWith '_' words) cap := by
    intro words
    induction words with
    | nil => exact fun hne => absurd rfl hne
    | cons word words ih =>
      intro _ single cap
      obtain ⟨hword, hwords⟩ := List.forall_mem_cons.mp single
      by_cases hne : words = []
      · subst hne
        exact alike word hword cap
      · rw [joinWith_cons '_' word hne, h, ho, alike word hword, ih hne hwords]
  ext segment cap : 2
  have words := joined (splitOn '_' segment) (splitOn_ne_nil '_' segment)
    (fun _ => not_mem_of_mem_splitOn) cap
  rwa [joinWith_splitOn] at words

def wordName (word : Text) (cap : Bool) : Text := if cap then capitalize word else word

theorem camelCase_eq_wordwise (segment : Text) (cap : Bool) :
    camelCase segment cap = wordwise wordName (lower segment) cap := by
  have capitalized : (wordName · true) = capitalize := rfl
  rw [camelCase, wordwise]
  split
  next h => rw [h, joinNames]
  next word words h => rw [h, joinNames, capitalized, wordName]

theorem splits_camelCase : Splits camelCase := by
  intro a b cap
  simp only [camelCase_eq_wordwise, lower_append_underscore]
  exact wordwise_splits wordName _ _ cap

theorem camelCase_of_word (h : '_' ∉ word) (cap : Bool) :
    camelCase word cap = wordName (lower word) cap := by
  rw [camelCase_eq_wordwise, wordwise_of_word (underscore_not_mem_lower h)]

/-- Naming splits at every underscore, whatever stands around it. A single word is lowered and, if
asked for, capitalized. There is no other way to name segments of which both are true. -/
theorem camelCase_splits :
    (∀ (a b : Text) (cap : Bool),
      camelCase (a ++ '_' :: b) cap = camelCase a cap ++ camelCase b true) ∧
    (∀ word : Text, '_' ∉ word →
      camelCase word false = lower word ∧ camelCase word true = capitalize (lower word)) ∧
    ∀ name : Text → Bool → Text,
      (∀ (a b : Text) (cap : Bool), name (a ++ '_' :: b) cap = name a cap ++ name b true) →
      (∀ word : Text, '_' ∉ word →
        name word false = lower word ∧ name word true = capitalize (lower word)) →
      name = camelCase := by
  refine ⟨splits_camelCase, ?_, ?_⟩
  · intro word h
    exact ⟨camelCase_of_word h false, camelCase_of_word h true⟩
  · intro name splits named
    apply Splits.eq splits splits_camelCase
    intro word h cap
    rw [camelCase_of_word h]
    cases cap with
    | false => exact (named word h).1
    | true => exact (named word h).2

/-- A sigma before an underscore ends its word, also with a letter behind the underscore, so the
words may as well be lowered one by one. -/
theorem camelCase_splits_sigma :
    '_' ∉ "ΑΣ".toList ∧ camelCase "ΑΣ".toList true = "Ας".toList ∧
    camelCase ("ΑΣ".toList ++ '_' :: "ΑΣ".toList) false = "αςΑς".toList ∧
    wordwise (fun word cap => wordName (lower word) cap) = camelCase := by
  obtain ⟨splits, named, only⟩ := camelCase_splits
  have single : '_' ∉ "ΑΣ".toList := by decide
  obtain ⟨plain, capital⟩ := named _ single
  have capitalized : camelCase "ΑΣ".toList true = "Ας".toList := capital.trans (by decide +kernel)
  have lowered : camelCase "ΑΣ".toList false = "ας".toList := plain.trans (by decide +kernel)
  refine ⟨single, capitalized, ?_, ?_⟩
  · rw [splits, lowered, capitalized]
    rfl
  · apply only _ (wordwise_splits _)
    intro word h
    exact ⟨wordwise_of_word h false, wordwise_of_word h true⟩

end Key

end StringsAudit
