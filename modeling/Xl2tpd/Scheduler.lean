import Xl2tpd.Memory

/-!
# The timer queue
-/

namespace Xl2tpd

set_option autoImplicit false

def Timeval.less (first second : Timeval) : Bool :=
  if first.sec = second.sec then first.usec < second.usec else first.sec < second.sec

def Timeval.lesseq (first second : Timeval) : Bool :=
  if first.sec = second.sec then first.usec ≤ second.usec else first.sec < second.sec

/-- The new entry goes before the first entry that is due later. -/
def insertEntry (entry : Entry) : List Entry → List Entry
  | [] => [entry]
  | head :: rest =>
      if entry.tv.less head.tv then entry :: head :: rest else head :: insertEntry entry rest

/-- The time `delay` after `now`; a full second of microseconds is not carried. -/
def Timeval.after (now delay : Timeval) : Timeval :=
  let usec := now.usec + delay.usec
  if usec > 1000000 then ⟨now.sec + delay.sec + 1, usec - 1000000⟩
  else ⟨now.sec + delay.sec, usec⟩

def schedule (delay : Timeval) (event : Event) : Prog Nat := do
  let id ← allocate
  modify fun state =>
    { state with events := insertEntry ⟨id, state.now.after delay, event⟩ state.events }
  pure id

theorem mem_insertEntry {entry other : Entry} {entries : List Entry} :
    other ∈ insertEntry entry entries ↔ other = entry ∨ other ∈ entries := by
  induction entries with
  | nil => simp [insertEntry]
  | cons head rest ih =>
    unfold insertEntry
    split
    · simp
    · simp only [List.mem_cons, ih]
      tauto

theorem insertEntry_perm (entry : Entry) (entries : List Entry) :
    (insertEntry entry entries).Perm (entry :: entries) := by
  induction entries with
  | nil => exact List.Perm.refl _
  | cons head rest ih =>
    unfold insertEntry
    split
    · exact List.Perm.refl _
    · exact (ih.cons head).trans (List.Perm.swap entry head rest)

end Xl2tpd
