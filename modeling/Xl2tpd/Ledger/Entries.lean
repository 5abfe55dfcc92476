import Xl2tpd.Ledger.Books

/-!
# The lists of entries in the ledger

No LAC or LNS entry is listed twice: a request adds an entry that was just allocated.
-/

namespace Xl2tpd

set_option autoImplicit false

open Program

variable {rules : Rules} {env : Env} {before after state : Daemon} {t : TunnelRef}

/-! ## LAC entries -/

def Daemon.lacRefs (state : Daemon) : List LacRef := state.laclist.map Lac.ref

theorem lacRefs_setLac {lac : LacRef} {change : Lac → Lac}
    (named : ∀ entry, (change entry).ref = entry.ref) :
    (state.setLac lac change).lacRefs = state.lacRefs := Keyed.map_update_same named

theorem lacRefs_record {lac : Option LacRef} {change : Lac → Lac}
    (named : ∀ entry, (change entry).ref = entry.ref) :
    (state.record lac change).lacRefs = state.lacRefs := by
  cases lac with
  | none => rfl
  | some ref => exact lacRefs_setLac named

theorem bury_lacRefs {tunnel : Tunnel} (ran : bury t tunnel before = .ok () after) :
    after.lacRefs = before.lacRefs := by
  obtain ⟨forgot, noted, _, forget, _, listed, _, ran⟩ := bury_ok ran
  have second : noted.lacRefs = forgot.lacRefs := congrArg (List.map Lac.ref) listed
  exact (forgetCall_frame ran).lacs.trans (second.trans (forgetTunnelLac_frame forget).lacs)

theorem Op.lacRefs (op : Op rules env before after) :
    (after.lacRefs.Sublist before.lacRefs ∧
        ∀ lac ∈ before.lacRefs, lac ∈ after.lacRefs ∨ (rules.kept → after.UnheldLac lac)) ∨
      after.lacRefs = before.fresh :: before.lacRefs ∧ before.fresh + 1 ≤ after.fresh := by
  have same : after.lacRefs = before.lacRefs → after.lacRefs.Sublist before.lacRefs ∧
      ∀ lac ∈ before.lacRefs, lac ∈ after.lacRefs ∨ (rules.kept → after.UnheldLac lac) :=
    fun equal => ⟨equal ▸ List.Sublist.refl _, fun _ member => .inl (equal ▸ member)⟩
  cases op with
  | aside kept =>
    refine .inl (same ?_)
    have refs := congrArg (List.map LacBook.ref) kept.lacs
    rw [List.map_map, List.map_map] at refs
    exact refs
  | link | place => exact .inl (same (lacRefs_record fun _ => rfl))
  | destroyCall t ref _ _ ran =>
    obtain ⟨_, _, _, _, _, _, ran⟩ := destroyCall_ok ran
    have kept := (forgetCall_frame ran).lacs
    exact .inl (same kept)
  | bury t tunnel _ _ _ _ ran => exact .inl (same (bury_lacRefs ran))
  | retry => exact .inl (same (lacRefs_setLac fun _ => rfl))
  | postpone lac _ ran => exact .inl (same (scheduleRedial_frame ran).lacs)
  | addLac entry blank =>
    have named : entry.ref = before.fresh := congrArg LacBook.ref blank
    exact .inr ⟨congrArg (· :: before.lacRefs) named, Nat.le_refl _⟩
  | dropLac lac _ ran kept =>
    unfold Daemon.lacRefs
    rw [(forsake_frame ran).laclist]
    refine .inl ⟨List.filter_sublist.map _, fun other member => ?_⟩
    by_cases removed : other = lac
    · exact .inr (removed ▸ kept)
    · obtain ⟨entry, listed, rfl⟩ := List.mem_map.mp member
      exact .inl (List.mem_map_of_mem (Keyed.mem_remove.mpr ⟨listed, removed⟩))
  | _ => exact .inl (same rfl)

/-! ## LNS entries -/

def Daemon.lnsRefs (state : Daemon) : List LnsRef :=
  (state.lnslist ++ state.deflns.toList).map Lns.ref

theorem lnsRefs_of_books (same : after.lnsBooks = before.lnsBooks) :
    after.lnsRefs = before.lnsRefs := by
  have shown : ∀ state : Daemon, state.lnsRefs =
      (state.lnsBooks.1 ++ state.lnsBooks.2.toList).map Lns.ref := by
    intro state
    unfold Daemon.lnsRefs Daemon.lnsBooks
    cases state.deflns <;> simp [Function.comp_def, Lns.book]
  rw [shown, shown, same]

theorem lnsRefs_setLns {lns : LnsRef} {change : Lns → Lns}
    (named : ∀ entry, (change entry).ref = entry.ref) :
    (state.setLns lns change).lnsRefs = state.lnsRefs := by
  have listed : (Keyed.update Lns.ref lns change state.lnslist).map Lns.ref =
      state.lnslist.map Lns.ref := Keyed.map_update_same named
  unfold Daemon.lnsRefs Daemon.setLns
  rw [List.map_append, List.map_append, listed]
  cases state.deflns with
  | none => rfl
  | some entry =>
    simp only [Option.map_some, Option.toList_some, List.map_cons, List.map_nil]
    split
    · rw [named]
    · rfl

theorem Op.lnsRefs (op : Op rules env before after) :
    (after.lnsRefs.Sublist before.lnsRefs ∧
        ∀ lns ∈ before.lnsRefs, lns ∈ after.lnsRefs ∨ (rules.kept → after.UnheldLns lns)) ∨
      after.lnsRefs = before.fresh :: before.lnsRefs ∧ before.fresh + 1 ≤ after.fresh := by
  have same : after.lnsRefs = before.lnsRefs → after.lnsRefs.Sublist before.lnsRefs ∧
      ∀ lns ∈ before.lnsRefs, lns ∈ after.lnsRefs ∨ (rules.kept → after.UnheldLns lns) :=
    fun equal => ⟨equal ▸ List.Sublist.refl _, fun _ member => .inl (equal ▸ member)⟩
  cases op with
  | aside kept => exact .inl (same (lnsRefs_of_books kept.lnsBooks))
  | link tunnel lac | place t tunnel call lac => exact .inl (same (by cases lac <;> rfl))
  | destroyCall t ref _ _ ran =>
    exact .inl (same (lnsRefs_of_books (destroyCall_lnsBooks ran)))
  | bury t tunnel _ _ _ _ ran => exact .inl (same (lnsRefs_of_books (bury_lnsBooks ran)))
  | postpone lac _ ran => exact .inl (same (lnsRefs_of_books (scheduleRedial_frame ran).lnsBooks))
  | dropLac lac _ ran => exact .inl (same (lnsRefs_of_books (forsake_frame ran).lnsBooks))
  | lease => exact .inl (same (lnsRefs_setLns fun _ => rfl))
  | addLns entry named => exact .inr ⟨congrArg (· :: before.lnsRefs) named, Nat.le_refl _⟩
  | editLns lns change _ named => exact .inl (same (lnsRefs_setLns named))
  | dropLns lns kept =>
    refine .inl ⟨(List.filter_sublist.append_right _).map _, fun other member => ?_⟩
    by_cases removed : other = lns
    · subst removed
      exact .inr fun strict => ⟨(kept strict).tunnels, (kept strict).calls⟩
    · refine .inl ?_
      obtain ⟨entry, listed, rfl⟩ := List.mem_map.mp member
      refine List.mem_map_of_mem (List.mem_append.mpr ?_)
      exact (List.mem_append.mp listed).imp_left fun inList =>
        Keyed.mem_remove.mpr ⟨inList, removed⟩
  | _ => exact .inl (same rfl)

/-! ## All entries -/

structure Daemon.EntriesApart (state : Daemon) : Prop where
  lacs : Keyed.Drawn state.fresh state.lacRefs
  lnss : Keyed.Drawn state.fresh state.lnsRefs

theorem Op.entriesApart (op : Op rules env before after) (apart : before.EntriesApart) :
    after.EntriesApart where
  lacs := by
    rcases op.lacRefs with ⟨fewer, _⟩ | ⟨more, grew⟩
    · exact apart.lacs.fewer op.grows.fresh fewer
    · exact more ▸ apart.lacs.next grew
  lnss := by
    rcases op.lnsRefs with ⟨fewer, _⟩ | ⟨more, grew⟩
    · exact apart.lnss.fewer op.grows.fresh fewer
    · exact more ▸ apart.lnss.next grew

theorem Booted.entriesApart (booted : Booted state) : state.EntriesApart where
  lacs := by
    refine ⟨booted.lacRefs, fun ref member => ?_⟩
    obtain ⟨entry, listed, rfl⟩ := List.mem_map.mp member
    exact (booted.lacFresh entry listed).1
  lnss := by
    refine ⟨booted.lnsRefs, fun ref member => ?_⟩
    obtain ⟨entry, listed, rfl⟩ := List.mem_map.mp member
    exact (booted.lnsFresh entry listed).1

theorem runs_entriesApart {condition : Daemon → Input → Prop} (runs : Runs env condition state) :
    state.EntriesApart :=
  runs_ledger runs (fun _ booted => booted.entriesApart) fun _ _ op => op.entriesApart

end Xl2tpd
