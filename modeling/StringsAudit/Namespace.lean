import StringsAudit.Text.Basic

/-!
# Accessor namespaces

Generated accessors are members of a namespace, `L10n` unless a project names another one. A
namespace's name is any text but the empty one.
-/

set_option autoImplicit false

namespace StringsAudit

structure Namespace where
  name : Text
  name_ne_nil : name ≠ []

namespace Namespace

def standard : Namespace := ⟨"L10n".toList, by decide⟩

def ofText (text : Text) : Namespace := if h : text = [] then standard else ⟨text, h⟩

theorem name_append_ne_cons {ns : Namespace} {c : Char} (h : c ∉ ns.name) (a b : Text) :
    ns.name ++ a ≠ c :: b := by
  intro he
  cases hs : ns.name with
  | nil => exact ns.name_ne_nil hs
  | cons d name =>
    rw [hs] at he h
    exact h (List.head_eq_of_cons_eq he ▸ List.mem_cons_self)

end Namespace

end StringsAudit
