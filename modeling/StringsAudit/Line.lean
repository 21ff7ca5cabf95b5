import StringsAudit.Diagnostic

/-!
# Lines of a strings file

An entry is a line that begins with a quoted identifier. A line that begins with a quote and has
no second one is malformed and is told in the log; comments, blank lines and continuations begin
with something else and say nothing.
-/

set_option autoImplicit false

namespace StringsAudit

inductive Line where
  | entry (identifier : Text)
  | malformed (shown : Text)
  | other
  deriving DecidableEq, Repr

namespace Line

open Text

def identifierOf : Text → Option Text
  | [] => none
  | _ :: rest => (cutAt '"' rest).map Prod.fst

def isPadding (c : Char) : Bool := c == ' ' || c == '\t'

def read (line : Text) : Line :=
  match line with
  | '"' :: _ =>
    match identifierOf (stripEnd isPadding line) with
    | some identifier => entry identifier
    | none => malformed (stripEnd isPadding line)
  | _ => other

def identifier? : Line → Option Text
  | entry identifier => some identifier
  | _ => none

def diagnostic? (origin : Text) : Line → Option Diagnostic
  | malformed shown => some (.unterminated shown origin)
  | _ => none

def all (content : Text) : List Line := (splitOn '\n' content).map read

theorem identifierOf_eq_some {line identifier : Text} (h : identifierOf line = some identifier) :
    '"' ∉ identifier ∧ ∀ c ∈ identifier, c ∈ line := by
  cases line with
  | nil => simp [identifierOf] at h
  | cons first rest =>
    rw [identifierOf, Option.map_eq_some_iff] at h
    obtain ⟨⟨before, after⟩, hc, rfl⟩ := h
    obtain ⟨rfl, hq⟩ := cutAt_eq_some_iff.1 hc
    refine ⟨hq, fun c hm => ?_⟩
    simp [hm]

theorem read_eq_entry {line identifier : Text} (h : read line = entry identifier) :
    '"' ∉ identifier ∧ ∀ c ∈ identifier, c ∈ line := by
  rw [read.eq_def] at h
  split at h
  next rest =>
    split at h
    next found hf =>
      obtain rfl := Line.entry.inj h
      obtain ⟨hq, hm⟩ := identifierOf_eq_some hf
      exact ⟨hq, fun c hc => mem_of_mem_stripEnd (hm c hc)⟩
    · simp at h
  · simp at h

theorem all_append_newline (a b : Text) : all (a ++ '\n' :: b) = all a ++ all b := by
  rw [all, splitOn_append_sep, List.map_append]
  rfl

end Line

def identifiers (content : Text) : List Text := (Line.all content).filterMap Line.identifier?

def lineLog (origin content : Text) : Log :=
  (Line.all content).filterMap (Line.diagnostic? origin)

/-- An identifier stands on one line and in front of a quote. -/
theorem not_mem_of_mem_identifiers {content identifier : Text}
    (h : identifier ∈ identifiers content) : '"' ∉ identifier ∧ '\n' ∉ identifier := by
  rw [identifiers, List.mem_filterMap] at h
  obtain ⟨line, hl, hi⟩ := h
  rw [Line.all, List.mem_map] at hl
  obtain ⟨text, ht, rfl⟩ := hl
  have he : Line.read text = .entry identifier := by
    cases hr : Line.read text <;> simp_all [Line.identifier?]
  obtain ⟨hq, hm⟩ := Line.read_eq_entry he
  exact ⟨hq, fun hn => Text.not_mem_of_mem_splitOn ht (hm _ hn)⟩

theorem identifiers_append_newline (a b : Text) :
    identifiers (a ++ '\n' :: b) = identifiers a ++ identifiers b := by
  rw [identifiers, Line.all_append_newline, List.filterMap_append]
  rfl

theorem lineLog_append_newline (origin a b : Text) :
    lineLog origin (a ++ '\n' :: b) = lineLog origin a ++ lineLog origin b := by
  rw [lineLog, Line.all_append_newline, List.filterMap_append]
  rfl

end StringsAudit
