import Mathlib.Data.List.Perm.Basic
import Mathlib.Data.List.Nodup
import Mathlib.Logic.Function.Basic

/-!
# Bucket tables

A table of buckets, each a list, stores a list of items when every bucket holds just
the items with its hash. Insertion puts an item in front of its bucket, removal
filters the bucket.
-/

namespace Buckets

set_option autoImplicit false

variable {Item : Type} {hash : Item → Nat} {table : Nat → List Item}
  {items : List Item} {item : Item}

/-- Every bucket of the table holds the items with its hash, each as often as it is
listed. -/
def Stores (hash : Item → Nat) (table : Nat → List Item) (items : List Item) : Prop :=
  ∀ bucket, (table bucket).Perm (items.filter fun item => hash item = bucket)

theorem stores_nil : Stores hash (fun _ => ([] : List Item)) [] := fun _ => List.Perm.refl _

theorem stores_perm {others : List Item} (stores : Stores hash table items)
    (perm : items.Perm others) : Stores hash table others :=
  fun bucket => (stores bucket).trans (perm.filter _)

theorem mem_of_stores (stores : Stores hash table items) :
    item ∈ table (hash item) ↔ item ∈ items := by
  rw [(stores (hash item)).mem_iff, List.mem_filter]
  simp

theorem stores_insert (stores : Stores hash table items) (item : Item) :
    Stores hash (Function.update table (hash item) (item :: table (hash item)))
      (item :: items) := by
  intro bucket
  by_cases own : bucket = hash item
  · subst own
    rw [Function.update_self, List.filter_cons_of_pos (by simp)]
    exact (stores (hash item)).cons item
  · rw [Function.update_of_ne own, List.filter_cons_of_neg (by simpa using Ne.symm own)]
    exact stores bucket

section Removal

variable [DecidableEq Item]

theorem stores_remove (stores : Stores hash table (item :: items)) (absent : item ∉ items) :
    Stores hash (Function.update table (hash item)
      ((table (hash item)).filter fun other => other ≠ item)) items := by
  intro bucket
  by_cases own : bucket = hash item
  · subst own
    have held := (stores (hash item)).filter fun other => decide (other ≠ item)
    rw [List.filter_cons_of_pos (by simp), List.filter_cons_of_neg (by simp)] at held
    rw [Function.update_self]
    refine held.trans (List.Perm.of_eq (List.filter_eq_self.mpr fun other member => ?_))
    have listed := (List.mem_filter.mp member).1
    exact decide_eq_true fun same => absent (same ▸ listed)
  · have held := stores bucket
    rw [List.filter_cons_of_neg (by simpa using Ne.symm own)] at held
    rw [Function.update_of_ne own]
    exact held

theorem remove_absent (absent : item ∉ table (hash item)) :
    Function.update table (hash item) ((table (hash item)).filter fun other => other ≠ item) =
      table := by
  have same : ((table (hash item)).filter fun other => other ≠ item) = table (hash item) :=
    List.filter_eq_self.mpr fun other member =>
      decide_eq_true fun equal => absent (equal ▸ member)
  rw [same, Function.update_eq_self]

end Removal

end Buckets
