import Mathlib.Data.List.Basic
import Mathlib.Data.List.Forall2

/-!
# Lists of records with an identity

A linked list of heap objects is a list of records, each with a key that stands for its address.
Following a pointer is `find`, updating the object is `update`, unlinking is `remove`. A key that
occurs twice leads to the first record.
-/

namespace Keyed

set_option autoImplicit false

variable {Item Key : Type} [DecidableEq Key] (key : Item → Key)

def find (address : Key) (items : List Item) : Option Item :=
  items.find? fun item => key item = address

def update (address : Key) (change : Item → Item) : List Item → List Item
  | [] => []
  | item :: items =>
      if key item = address then change item :: items else item :: update address change items

def remove (address : Key) (items : List Item) : List Item :=
  items.filter fun item => key item ≠ address

variable {key} {address other : Key} {change : Item → Item} {items : List Item} {item : Item}

theorem find_cons : find key address (item :: items) =
    if key item = address then some item else find key address items := by
  unfold find
  rw [List.find?_cons]
  by_cases named : key item = address <;> simp [named]

theorem find_append {more : List Item} : find key address (items ++ more) =
    (find key address items).or (find key address more) := List.find?_append

theorem find_mem (found : find key address items = some item) : item ∈ items :=
  List.mem_of_find?_eq_some found

theorem find_key (found : find key address items = some item) : key item = address := by
  have kept := List.find?_some found
  simpa using kept

theorem find_none (missing : find key address items = none) (member : item ∈ items) :
    key item ≠ address := by
  have absent := List.find?_eq_none.mp missing item member
  simpa using absent

theorem find_isSome (member : item ∈ items) (named : key item = address) :
    ∃ first, find key address items = some first := by
  cases found : find key address items with
  | none => exact absurd named (find_none found member)
  | some first => exact ⟨first, rfl⟩

theorem isSome_find : (find key address items).isSome ↔ address ∈ items.map key := by
  constructor
  · intro known
    obtain ⟨item, found⟩ := Option.isSome_iff_exists.mp known
    exact List.mem_map.mpr ⟨item, find_mem found, find_key found⟩
  · intro member
    obtain ⟨item, listed, named⟩ := List.mem_map.mp member
    exact Option.isSome_iff_exists.mpr (find_isSome listed named)

theorem find_of_mem (distinct : (items.map key).Nodup) (member : item ∈ items) :
    find key (key item) items = some item := by
  induction items with
  | nil => cases member
  | cons first rest ih =>
    rw [List.map_cons, List.nodup_cons] at distinct
    rw [find_cons]
    rcases List.mem_cons.mp member with rfl | later
    · rw [if_pos rfl]
    · have apart : key first ≠ key item :=
        fun same => distinct.1 (same ▸ List.mem_map_of_mem later)
      rw [if_neg apart]
      exact ih distinct.2 later

theorem find_split (found : find key address items = some item) :
    ∃ front back, items = front ++ item :: back ∧
      ∀ change, update key address change items = front ++ change item :: back := by
  induction items with
  | nil => cases found
  | cons first rest ih =>
    rw [find_cons] at found
    by_cases named : key first = address
    · rw [if_pos named] at found
      cases found
      exact ⟨[], rest, rfl, fun change => by rw [update, if_pos named]; rfl⟩
    · rw [if_neg named] at found
      obtain ⟨front, back, split, updated⟩ := ih found
      refine ⟨first :: front, back, by rw [split]; rfl, fun change => ?_⟩
      rw [update, if_neg named, updated]
      rfl

theorem update_none (missing : find key address items = none) :
    update key address change items = items := by
  induction items with
  | nil => rfl
  | cons item items ih =>
    rw [find_cons] at missing
    by_cases named : key item = address
    · rw [if_pos named] at missing
      cases missing
    · rw [if_neg named] at missing
      rw [update, if_neg named, ih missing]

theorem find_update (keeps : ∀ item, key (change item) = key item) :
    find key other (update key address change items) =
      if other = address then (find key other items).map change else find key other items := by
  induction items with
  | nil => simp [find, update]
  | cons item items ih =>
    by_cases named : key item = address
    · rw [update, if_pos named, find_cons, find_cons, keeps]
      by_cases same : other = address
      · rw [if_pos (named.trans same.symm), if_pos same, if_pos (named.trans same.symm)]
        rfl
      · have away : ¬ key item = other := fun here => same (here.symm.trans named)
        rw [if_neg away, if_neg same, if_neg away]
    · rw [update, if_neg named, find_cons, find_cons]
      by_cases here : key item = other
      · have apart : ¬ other = address := fun same => named (here.trans same)
        rw [if_pos here, if_neg apart, if_pos here]
      · rw [if_neg here, if_neg here]
        exact ih

theorem find_update_same (keeps : ∀ item, key (change item) = key item) :
    find key address (update key address change items) =
      (find key address items).map change := by
  rw [find_update keeps, if_pos rfl]

theorem find_update_other (keeps : ∀ item, key (change item) = key item) (apart : other ≠ address) :
    find key other (update key address change items) = find key other items := by
  rw [find_update keeps, if_neg apart]

theorem mem_update (member : item ∈ update key address change items) :
    item ∈ items ∨ ∃ old, find key address items = some old ∧ item = change old := by
  induction items with
  | nil => simp [update] at member
  | cons head items ih =>
    rw [update] at member
    rw [find_cons]
    by_cases named : key head = address
    · rw [if_pos named] at member ⊢
      rcases List.mem_cons.mp member with made | kept
      · exact .inr ⟨head, rfl, made⟩
      · exact .inl (List.mem_cons_of_mem _ kept)
    · rw [if_neg named] at member ⊢
      rcases List.mem_cons.mp member with here | later
      · exact .inl (here ▸ List.mem_cons_self)
      · rcases ih later with kept | made
        · exact .inl (List.mem_cons_of_mem _ kept)
        · exact .inr made

theorem update_update {second : Item → Item} (keeps : ∀ item, key (change item) = key item) :
    update key address second (update key address change items) =
      update key address (second ∘ change) items := by
  induction items with
  | nil => rfl
  | cons item items ih =>
    by_cases named : key item = address
    · have still : key (change item) = address := (keeps item).trans named
      rw [update, update, if_pos named, if_pos named, update, if_pos still]
      rfl
    · rw [update, update, if_neg named, if_neg named, update, if_neg named, ih]

theorem update_congr {second : Item → Item}
    (same : ∀ item, find key address items = some item → change item = second item) :
    update key address change items = update key address second items := by
  cases found : find key address items with
  | none => rw [update_none found, update_none found]
  | some item =>
    obtain ⟨front, back, _, updated⟩ := find_split found
    rw [updated, updated, same item found]

theorem map_update_same {Image : Type} {shape : Item → Image}
    (keeps : ∀ item, shape (change item) = shape item) :
    (update key address change items).map shape = items.map shape := by
  induction items with
  | nil => rfl
  | cons item items ih =>
    rw [update]
    split
    · rw [List.map_cons, List.map_cons, keeps]
    · rw [List.map_cons, List.map_cons, ih]

theorem update_id : update key address id items = items := by
  induction items with
  | nil => rfl
  | cons item items ih =>
    rw [update, ih]
    split <;> rfl

theorem find_remove_same : find key address (remove key address items) = none := by
  apply List.find?_eq_none.mpr
  intro item member
  simpa using (List.mem_filter.mp member).2

theorem find_remove_other (apart : other ≠ address) :
    find key other (remove key address items) = find key other items := by
  induction items with
  | nil => rfl
  | cons item items ih =>
    unfold remove at ih ⊢
    rw [List.filter_cons, find_cons]
    by_cases named : key item = address
    · have away : ¬ key item = other := fun here => apart (here.symm.trans named)
      rw [if_neg away]
      simpa [named] using ih
    · have kept : decide (key item ≠ address) = true := by simpa using named
      rw [if_pos kept, find_cons, ih]

theorem find_of_remove (found : find key other (remove key address items) = some item) :
    find key other items = some item := by
  by_cases same : other = address
  · rw [same, find_remove_same] at found
    cases found
  · exact (find_remove_other same).symm.trans found

theorem mem_remove : item ∈ remove key address items ↔ item ∈ items ∧ key item ≠ address := by
  simp [remove]

section Middle

variable {front back : List Item} (distinct : ((front ++ item :: back).map key).Nodup)

include distinct

omit [DecidableEq Key] in
theorem apart_of_nodup {elsewhere : Item} (member : elsewhere ∈ front ++ back) :
    key elsewhere ≠ key item := by
  have moved : ((item :: (front ++ back)).map key).Nodup :=
    (List.perm_middle.map key).nodup_iff.mp distinct
  rw [List.map_cons, List.nodup_cons] at moved
  exact fun same => moved.1 (same ▸ List.mem_map_of_mem member)

theorem remove_middle : remove key (key item) (front ++ item :: back) = front ++ back := by
  have kept : (front ++ back).filter (fun other => key other ≠ key item) = front ++ back :=
    List.filter_eq_self.mpr fun other member => by simpa using apart_of_nodup distinct member
  unfold remove
  rw [List.filter_append] at kept ⊢
  rw [List.filter_cons, if_neg (by simp), kept]

theorem update_middle :
    update key (key item) change (front ++ item :: back) = front ++ change item :: back := by
  induction front with
  | nil =>
    rw [List.nil_append, update, if_pos rfl]
    rfl
  | cons head front ih =>
    have apart : key head ≠ key item :=
      apart_of_nodup distinct (List.mem_append_left _ List.mem_cons_self)
    rw [List.cons_append, List.map_cons, List.nodup_cons] at distinct
    rw [List.cons_append, update, if_neg apart, ih distinct.2]
    rfl

end Middle

section Images

variable {Image : Type} {shape : Item → Image} {mark : Image → Key} {effect : Image → Image}

theorem find_map (named : ∀ item, mark (shape item) = key item) :
    find mark address (items.map shape) = (find key address items).map shape := by
  induction items with
  | nil => rfl
  | cons item items ih =>
    rw [List.map_cons, find_cons, find_cons, named, ih]
    split <;> rfl

theorem map_update (named : ∀ item, mark (shape item) = key item)
    (shows : ∀ item, find key address items = some item →
      shape (change item) = effect (shape item)) :
    (update key address change items).map shape =
      update mark address effect (items.map shape) := by
  induction items with
  | nil => rfl
  | cons item items ih =>
    by_cases here : key item = address
    · have first : find key address (item :: items) = some item := by rw [find_cons, if_pos here]
      rw [update, if_pos here, List.map_cons, List.map_cons, update, named, if_pos here,
        shows item first]
    · have rest : find key address (item :: items) = find key address items := by
        rw [find_cons, if_neg here]
      rw [rest] at shows
      rw [update, if_neg here, List.map_cons, List.map_cons, update, named, if_neg here,
        ih shows]

theorem map_remove (named : ∀ item, mark (shape item) = key item) :
    (remove key address items).map shape = remove mark address (items.map shape) := by
  simp only [remove, List.filter_map]
  congr 1
  apply List.filter_congr
  intro item _
  simp [named]

end Images

/-! ## Addresses from a counter -/

/-- Each address is there once, and the counter is past it. -/
structure Drawn (fresh : Nat) (refs : List Nat) : Prop where
  distinct : refs.Nodup
  old : ∀ ref ∈ refs, ref < fresh

section Drawn

variable {fresh later : Nat} {refs left : List Nat}

theorem Drawn.fewer (drawn : Drawn fresh refs) (grew : fresh ≤ later)
    (sublist : left.Sublist refs) : Drawn later left :=
  ⟨drawn.distinct.sublist sublist, fun ref member =>
    Nat.lt_of_lt_of_le (drawn.old ref (sublist.subset member)) grew⟩

theorem Drawn.next (drawn : Drawn fresh refs) (grew : fresh + 1 ≤ later) :
    Drawn later (fresh :: refs) where
  distinct := List.nodup_cons.mpr
    ⟨fun member => Nat.lt_irrefl fresh (drawn.old fresh member), drawn.distinct⟩
  old := by
    intro ref member
    rcases List.mem_cons.mp member with rfl | earlier
    · exact grew
    · exact Nat.lt_trans (drawn.old ref earlier) grew

end Drawn

end Keyed
