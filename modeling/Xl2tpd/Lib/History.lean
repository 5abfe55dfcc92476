import Mathlib.Data.List.Basic

/-!
# Histories

A history is the list of everything observed so far. A property of single
observations that may look back holds `Always` when it held of each one at the
moment it was made.
-/

namespace History

set_option autoImplicit false

variable {Item : Type} {good : List Item → Item → Prop} {trace notes : List Item}

def Always (good : List Item → Item → Prop) (trace : List Item) : Prop :=
  ∀ past item future, trace = past ++ item :: future → good past item

theorem always_nil : Always good [] := by
  intro past item future split
  simp at split

theorem always_append (holds : Always good trace)
    (more : ∀ past item future, notes = past ++ item :: future → good (trace ++ past) item) :
    Always good (trace ++ notes) := by
  intro past item future split
  rcases List.append_eq_append_iff.mp split with ⟨later, rfl, rest⟩ | ⟨between, rfl, rest⟩
  · exact more later item future rest
  · cases between with
    | nil =>
      have here := more [] item future rest.symm
      simpa using here
    | cons first between =>
      rw [List.cons_append, List.cons.injEq] at rest
      obtain ⟨rfl, _⟩ := rest
      exact holds past item between rfl

theorem always_snoc {item : Item} (holds : Always good trace) (last : good trace item) :
    Always good (trace ++ [item]) := by
  refine always_append holds ?_
  intro past other future split
  cases past with
  | nil =>
    rw [List.nil_append, List.cons.injEq] at split
    obtain ⟨rfl, _⟩ := split
    simpa using last
  | cons first past => simp at split

theorem always_append_of (holds : Always good trace)
    (free : ∀ item ∈ notes, ∀ past, good past item) : Always good (trace ++ notes) := by
  refine always_append holds ?_
  rintro past item future rfl
  exact free item (by simp) _

theorem always_mem {item : Item} (holds : Always good trace) (member : item ∈ trace) :
    ∃ past, good past item := by
  obtain ⟨past, future, split⟩ := List.append_of_mem member
  exact ⟨past, holds past item future split⟩

end History
