import StringsAudit.Key

/-!
# Usages in source text

Source text uses a string through an accessor, which is the namespace, a dot and the longest run
of letters, digits and dots behind it, or through a literal on one line. Tokens are taken from
left to right without overlap; where both kinds could start, the accessor is taken.
-/

set_option autoImplicit false

namespace StringsAudit

inductive Token where
  | accessor (members : Text)
  | literal (identifier : Text)
  deriving DecidableEq, Repr

namespace Token

open Text

def text (ns : Namespace) : Token → Text
  | accessor members => ns.name ++ '.' :: members
  | literal identifier => Key.quotedForm identifier

def isMemberChar (c : Char) : Bool := c.isAlphanum || c == '.'

def accessorAt? (ns : Namespace) (source : Text) : Option Token :=
  match dropLeading? (ns.name ++ ['.']) source with
  | none => none
  | some rest =>
    let members := rest.takeWhile isMemberChar
    if members = [] then none else some (accessor members)

def literalAt? : Text → Option Token
  | '"' :: '@' :: rest =>
    match cutAt '"' rest with
    | none => none
    | some (identifier, _) => if '\n' ∈ identifier then none else some (literal identifier)
  | _ => none

def at? (ns : Namespace) (source : Text) : Option Token :=
  (accessorAt? ns source).or (literalAt? source)

def allFrom (ns : Namespace) : Nat → Text → List Token
  | _, [] => []
  | skip + 1, _ :: rest => allFrom ns skip rest
  | 0, c :: rest =>
    match at? ns (c :: rest) with
    | some token => token :: allFrom ns ((token.text ns).length - 1) rest
    | none => allFrom ns 0 rest

def all (ns : Namespace) (source : Text) : List Token := allFrom ns 0 source

theorem allFrom_eq_all_drop (ns : Namespace) (skip : Nat) (source : Text) :
    allFrom ns skip source = all ns (source.drop skip) := by
  induction source generalizing skip with
  | nil => simp [allFrom, all]
  | cons c rest ih =>
    cases skip with
    | zero => rfl
    | succ skip => rw [allFrom, ih, List.drop_succ_cons]

theorem text_of_accessorAt? {ns : Namespace} {source : Text} {token : Token}
    (h : accessorAt? ns source = some token) : ∃ rest, source = token.text ns ++ rest := by
  rw [accessorAt?] at h
  split at h
  · simp at h
  next rest hd =>
    simp only at h
    split at h
    · simp at h
    · refine ⟨rest.dropWhile isMemberChar, ?_⟩
      have ht : token = accessor (rest.takeWhile isMemberChar) := by simpa using h.symm
      rw [dropLeading?_eq_some_iff.1 hd, ht]
      simp [text, List.takeWhile_append_dropWhile]

theorem text_of_literalAt? {ns : Namespace} {source : Text} {token : Token}
    (h : literalAt? source = some token) : ∃ rest, source = token.text ns ++ rest := by
  rw [literalAt?.eq_def] at h
  split at h
  next rest =>
    split at h
    · simp at h
    next identifier after hc =>
      split at h
      · simp at h
      · have ht : token = literal identifier := by simpa using h.symm
        refine ⟨after, ?_⟩
        rw [(cutAt_eq_some_iff.1 hc).1, ht]
        simp [text, Key.quotedForm]
  · simp at h

theorem text_of_at? {ns : Namespace} {source : Text} {token : Token}
    (h : at? ns source = some token) : ∃ rest, source = token.text ns ++ rest := by
  rw [at?, Option.or_eq_some_iff] at h
  rcases h with h | ⟨-, h⟩
  · exact text_of_accessorAt? h
  · exact text_of_literalAt? h

theorem text_ne_nil (ns : Namespace) (token : Token) : token.text ns ≠ [] := by
  cases token <;> simp [text, Key.quotedForm]

theorem all_nil (ns : Namespace) : all ns [] = [] := rfl

/-- A token that starts the source is taken, and the search goes on behind it. -/
theorem all_of_at? {ns : Namespace} {source rest : Text} {token : Token}
    (h : at? ns source = some token) (hs : source = token.text ns ++ rest) :
    all ns source = token :: all ns rest := by
  cases source with
  | nil =>
    have := text_ne_nil ns token
    simp_all
  | cons c tail =>
    have hl : 0 < (token.text ns).length := List.length_pos_iff.2 (text_ne_nil ns token)
    rw [all, allFrom, h]
    simp only [allFrom_eq_all_drop]
    congr 2
    have hd : (c :: tail).drop ((token.text ns).length - 1 + 1) = rest := by
      rw [hs, Nat.sub_add_cancel hl, List.drop_left]
    simpa using hd

theorem all_of_at?_none {ns : Namespace} {c : Char} {rest : Text}
    (h : at? ns (c :: rest) = none) : all ns (c :: rest) = all ns rest := by
  rw [all, allFrom, h]
  rfl

end Token

def usages (ns : Namespace) (source : Text) : List Text :=
  Text.sortDistinct ((Token.all ns source).map fun token => Text.lower (token.text ns))

theorem mem_usages {ns : Namespace} {source key : Text} :
    key ∈ usages ns source ↔ ∃ token ∈ Token.all ns source, Text.lower (token.text ns) = key := by
  simp [usages]

end StringsAudit
