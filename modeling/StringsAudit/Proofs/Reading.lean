import StringsAudit.Proofs.FileTree.Resolving
import StringsAudit.Source

/-!
# Failures of reading

A failure to read is told with the path that was read. Only a path that holds a NUL is turned away
before it is looked up; every other failure is one of the file tree or of the encoding.
-/

set_option autoImplicit false

namespace StringsAudit

/-- The failure is raised as one of reading. The error that turns away a path with a NUL is
another one, and nothing catches it. -/
def ReadFailure.IsFatal (failure : ReadFailure) : Prop := failure.cause ≠ .access .embeddedNul

theorem Path.resolve_ne_embeddedNul (root : Node) (create : Bool) (budget : Nat) (here : Location)
    (names : List Text) : resolve root create budget here names ≠ .error .embeddedNul := by
  fun_induction resolve root create budget here names <;> simp_all

theorem Path.locate_eq_embeddedNul_iff (root : Node) (create : Bool) (here : Location)
    (path : Text) : locate root create here path = .error .embeddedNul ↔ '\x00' ∈ path := by
  rw [locate]
  split
  next hn => simp [hn]
  next hn =>
    have hr := resolve_ne_embeddedNul root create linkLimit (start here path) (components path)
    simp only [hn, iff_false]
    split
    · simp
    · split
      · simp
      · exact hr

theorem Node.read_eq_embeddedNul_iff (root : Node) (here : Location) (path : Text) :
    root.read here path = .error .embeddedNul ↔ '\x00' ∈ path := by
  rw [← Path.locate_eq_embeddedNul_iff root false here path, Node.read]
  split
  next fault hl => simp [hl]
  next place hl =>
    rw [hl]
    split <;> simp

namespace Workspace

theorem readText_path {ws : Workspace} {path : Text} {failure : ReadFailure}
    (h : ws.readText path = .error failure) : failure.path = path := by
  rw [readText] at h
  split at h
  next => rw [← Except.error.inj h]
  next =>
    split at h
    next => rw [← Except.error.inj h]
    next => simp at h

theorem readText_of_nul (ws : Workspace) {path : Text} (h : '\x00' ∈ path) :
    ws.readText path = .error ⟨path, .access .embeddedNul⟩ := by
  rw [readText, (Node.read_eq_embeddedNul_iff ws.tree ws.here path).mpr h]

theorem nul_of_readText {ws : Workspace} {path : Text} {failure : ReadFailure}
    (h : ws.readText path = .error failure) (hc : failure.cause = .access .embeddedNul) :
    '\x00' ∈ path := by
  rw [readText] at h
  split at h
  next fault hr =>
    rw [← Except.error.inj h] at hc
    obtain rfl : fault = .embeddedNul := by simpa using hc
    exact (Node.read_eq_embeddedNul_iff ws.tree ws.here path).mp hr
  next =>
    split at h
    next =>
      rw [← Except.error.inj h] at hc
      simp at hc
    next => simp at h

end Workspace

end StringsAudit
