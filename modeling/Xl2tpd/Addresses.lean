import Xl2tpd.Sim.Daemon

/-!
# Addresses

No two tunnels share an address, and every address in use was handed out before now. So nothing
new is taken for something freed that an old pointer still leads to.
-/

namespace Xl2tpd

set_option autoImplicit false

open Program

variable {view : View} {t : TunnelRef}

structure View.Fresh (view : View) : Prop where
  distinct : (view.tunnels.map TunnelCore.ref).Nodup
  tunnels : ∀ core ∈ view.tunnels, core.ref < view.fresh
  ownLns : ∀ core ∈ view.tunnels, ∀ lns ∈ core.lns, lns < view.fresh
  ownLac : ∀ core ∈ view.tunnels, ∀ lac ∈ core.lac, lac < view.fresh
  lns : ∀ lns, (view.lns lns).isSome → lns < view.fresh
  lac : ∀ lac, (view.lac lac).isSome → lac < view.fresh

variable {assume : Assume} {env : Env} {allowed : Action → Prop} {change : TunnelCore → TunnelCore}

theorem View.Fresh.setTunnel (fresh : view.Fresh) (named : ∀ core, (change core).ref = core.ref)
    (takesLns : ∀ core, view.tunnel? t = some core →
      ∀ lns ∈ (change core).lns, lns ∈ core.lns ∨ (view.lns lns).isSome)
    (takesLac : ∀ core, view.tunnel? t = some core →
      ∀ lac ∈ (change core).lac, lac ∈ core.lac ∨ (view.lac lac).isSome) :
    (view.setTunnel t change).Fresh where
  distinct := by
    have same : (view.setTunnel t change).tunnels.map TunnelCore.ref =
        view.tunnels.map TunnelCore.ref := Keyed.map_update_same named
    rw [same]
    exact fresh.distinct
  tunnels := by
    intro core member
    rcases Keyed.mem_update member with old | ⟨old, found, rfl⟩
    · exact fresh.tunnels core old
    · rw [named]
      exact fresh.tunnels old (Keyed.find_mem found)
  ownLns := by
    intro core member lns owner
    rcases Keyed.mem_update member with old | ⟨old, found, rfl⟩
    · exact fresh.ownLns core old lns owner
    · rcases takesLns old found lns owner with kept | known
      · exact fresh.ownLns old (Keyed.find_mem found) lns kept
      · exact fresh.lns lns known
  ownLac := by
    intro core member lac owner
    rcases Keyed.mem_update member with old | ⟨old, found, rfl⟩
    · exact fresh.ownLac core old lac owner
    · rcases takesLac old found lac owner with kept | known
      · exact fresh.ownLac old (Keyed.find_mem found) lac kept
      · exact fresh.lac lac known
  lns := fresh.lns
  lac := fresh.lac

theorem View.Fresh.keep (fresh : view.Fresh) (named : ∀ core, (change core).ref = core.ref)
    (lns : ∀ core, (change core).lns = core.lns) (lac : ∀ core, (change core).lac = core.lac) :
    (view.setTunnel t change).Fresh := by
  refine fresh.setTunnel named ?_ ?_
  · intro core _ ref owner
    exact .inl (lns core ▸ owner)
  · intro core _ ref owner
    exact .inl (lac core ▸ owner)

theorem View.Fresh.log (fresh : view.Fresh) (notes : List Obs) :
    (view.log notes).Fresh :=
  ⟨fresh.distinct, fresh.tunnels, fresh.ownLns, fresh.ownLac, fresh.lns, fresh.lac⟩

theorem Fate.fresh {buffer : Buffer} (fate : Fate) (fresh : view.Fresh) :
    (fate.apply buffer view).Fresh := by
  cases fate <;>
    exact ⟨fresh.distinct, fresh.tunnels, fresh.ownLns, fresh.ownLac, fresh.lns, fresh.lac⟩

theorem Move.fresh {core : TunnelCore} (change : Move) (found : view.tunnel? t = some core)
    (enabled : change.enabled assume view core) (fresh : view.Fresh) :
    (view.setTunnel t change.apply).Fresh := by
  refine fresh.setTunnel change.apply_ref ?_ ?_
  · intro same foundSame lns owner
    rw [found] at foundSame
    cases foundSame
    cases change with
    | adopt newLns newLac => exact .inr (enabled.2.2.1 lns owner)
    | choose newLns => exact .inr (enabled.2 lns owner)
    | acked c nr | call c move => cases c <;> exact .inl owner
    | _ => exact .inl owner
  · intro same foundSame lac owner
    rw [found] at foundSame
    cases foundSame
    cases change with
    | adopt newLns newLac => exact .inr (enabled.2.2.2 lac owner)
    | disown => cases owner
    | acked c nr | call c move => cases c <;> exact .inl owner
    | _ => exact .inl owner

theorem Quiet.fresh_kept {before after : View} (quiet : Quiet before after)
    (fresh : before.Fresh) : after.Fresh := by
  constructor
  · rw [quiet.tunnels]
    exact fresh.distinct
  · rw [quiet.tunnels]
    exact fun core member => (fresh.tunnels core member).trans_le quiet.fresh
  · rw [quiet.tunnels]
    exact fun core member lns owner => (fresh.ownLns core member lns owner).trans_le quiet.fresh
  · rw [quiet.tunnels]
    exact fun core member lac owner => (fresh.ownLac core member lac owner).trans_le quiet.fresh
  · rw [quiet.lns]
    exact fun lns known => (fresh.lns lns known).trans_le quiet.fresh
  · rw [quiet.lac]
    exact fun lac known => (fresh.lac lac known).trans_le quiet.fresh

theorem Action.fresh_link {selfRef : Nat} (fresh : view.Fresh) :
    ((Action.link view.fresh selfRef).apply view).Fresh where
  distinct := by
    simp only [Action.apply, List.map_cons, List.nodup_cons]
    refine ⟨?_, fresh.distinct⟩
    intro member
    obtain ⟨core, listed, named⟩ := List.mem_map.mp member
    have below := fresh.tunnels core listed
    rw [named] at below
    exact Nat.lt_irrefl _ below
  tunnels := by
    simp only [Action.apply, List.forall_mem_cons]
    exact ⟨by simp [TunnelCore.blank], fun core member =>
      Nat.lt_add_right 2 (fresh.tunnels core member)⟩
  ownLns := by
    simp only [Action.apply, List.forall_mem_cons]
    exact ⟨by simp [TunnelCore.blank], fun core member lns owner =>
      Nat.lt_add_right 2 (fresh.ownLns core member lns owner)⟩
  ownLac := by
    simp only [Action.apply, List.forall_mem_cons]
    exact ⟨by simp [TunnelCore.blank], fun core member lac owner =>
      Nat.lt_add_right 2 (fresh.ownLac core member lac owner)⟩
  lns := fun lns known => Nat.lt_add_right 2 (fresh.lns lns known)
  lac := fun lac known => Nat.lt_add_right 2 (fresh.lac lac known)

theorem Action.fresh_unlink (fresh : view.Fresh) :
    ((Action.unlink t).apply view).Fresh where
  distinct := (List.filter_sublist.map _).nodup fresh.distinct
  tunnels := fun core member => fresh.tunnels core (Keyed.mem_remove.mp member).1
  ownLns := fun core member => fresh.ownLns core (Keyed.mem_remove.mp member).1
  ownLac := fun core member => fresh.ownLac core (Keyed.mem_remove.mp member).1
  lns := fresh.lns
  lac := fresh.lac

theorem View.Fresh.lns_update {lns : LnsRef} {terms : Option Terms}
    (known : terms.isSome → lns < view.fresh) (fresh : view.Fresh) (other : LnsRef)
    (some : (Function.update view.lns lns terms other).isSome) : other < view.fresh := by
  by_cases same : other = lns
  · subst same
    rw [Function.update_self] at some
    exact known some
  · rw [Function.update_of_ne same] at some
    exact fresh.lns other some

theorem Action.fresh_kept (action : Action) (enabled : action.enabled assume env view)
    (fresh : view.Fresh) : (action.apply view).Fresh := by
  cases action with
  | link ref selfRef =>
    cases enabled
    exact Action.fresh_link fresh
  | unlink t => exact Action.fresh_unlink fresh
  | move t change =>
    obtain ⟨core, found, allowed⟩ := enabled
    exact change.fresh found allowed fresh
  | draw t value answering | establish tunnel lns lac | accept t header body =>
    exact (fresh.keep (by intro _; rfl) (by intro _; rfl) (by intro _; rfl)).log _
  | zlb t header => exact fresh.log _
  | send buffer fate =>
    exact fate.fresh ((fresh.keep (by intro _; rfl) (by intro _; rfl) (by intro _; rfl)).log _)
  | resend buffer fate =>
    exact fate.fresh ⟨fresh.distinct, fresh.tunnels, fresh.ownLns, fresh.ownLac, fresh.lns,
      fresh.lac⟩
  | lose buffer | deschedule t | note observed =>
    exact ⟨fresh.distinct, fresh.tunnels, fresh.ownLns, fresh.ownLac, fresh.lns, fresh.lac⟩
  | addLns terms =>
    refine ⟨fresh.distinct, fun core member => Nat.lt_succ_of_lt (fresh.tunnels core member),
      fun core member lns owner => Nat.lt_succ_of_lt (fresh.ownLns core member lns owner),
      fun core member lac owner => Nat.lt_succ_of_lt (fresh.ownLac core member lac owner), ?_,
      fun lac known => Nat.lt_succ_of_lt (fresh.lac lac known)⟩
    intro lns known
    by_cases same : lns = view.fresh
    · exact same ▸ Nat.lt_succ_self _
    · refine Nat.lt_succ_of_lt (fresh.lns lns ?_)
      simpa [Action.apply, Function.update_of_ne same] using known
  | editLns lns terms =>
    exact ⟨fresh.distinct, fresh.tunnels, fresh.ownLns, fresh.ownLac,
      fresh.lns_update fun some => fresh.lns lns (enabled some), fresh.lac⟩
  | addLac terms =>
    refine ⟨fresh.distinct, fun core member => Nat.lt_succ_of_lt (fresh.tunnels core member),
      fun core member lns owner => Nat.lt_succ_of_lt (fresh.ownLns core member lns owner),
      fun core member lac owner => Nat.lt_succ_of_lt (fresh.ownLac core member lac owner),
      fun lns known => Nat.lt_succ_of_lt (fresh.lns lns known), ?_⟩
    intro lac known
    by_cases same : lac = view.fresh
    · exact same ▸ Nat.lt_succ_self _
    · refine Nat.lt_succ_of_lt (fresh.lac lac ?_)
      simpa [Action.apply, Function.update_of_ne same] using known
  | removeLac lac =>
    refine ⟨fresh.distinct, fresh.tunnels, fresh.ownLns, fresh.ownLac, fresh.lns, ?_⟩
    intro other known
    refine fresh.lac other ?_
    by_cases same : other = lac
    · subst same
      simp [Action.apply] at known
    · simpa [Action.apply, Function.update_of_ne same] using known

theorem Acts.fresh_kept {before after : View} (acts : Acts assume env allowed before after)
    (fresh : before.Fresh) : after.Fresh := by
  cases acts with
  | quiet same => exact same.fresh_kept fresh
  | act action _ enabled => exact action.fresh_kept enabled fresh

theorem Booted.fresh {state : Daemon} (booted : Booted state) : state.view.Fresh := by
  have empty : state.view.tunnels = [] := by
    simp [Daemon.view, booted.tunnels]
  refine ⟨by simp [empty], by simp [empty], by simp [empty], by simp [empty], ?_, ?_⟩
  · intro lns known
    obtain ⟨entry, found⟩ := Option.isSome_iff_exists.mp (by simpa [Daemon.view] using known)
    have named := Keyed.find_key found
    exact named ▸ (booted.lnsFresh entry (Keyed.find_mem found)).1
  · intro lac known
    obtain ⟨entry, found⟩ := Option.isSome_iff_exists.mp (by simpa [Daemon.view] using known)
    have named := Keyed.find_key found
    exact named ▸ (booted.lacFresh entry (Keyed.find_mem found)).1

theorem runs_fresh {condition : Daemon → Input → Prop} {state : Daemon}
    (runs : Runs env condition state) : state.view.Fresh :=
  runs_invariant (fun _ _ acts => acts.fresh_kept) (fun _ booted => booted.fresh) runs

end Xl2tpd
