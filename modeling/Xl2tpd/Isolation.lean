import Xl2tpd.Counters
import Xl2tpd.Runs
import Xl2tpd.Ledger.Books

/-!
# Isolation of tunnels

A packet for one tunnel reaches another one only through a LAC entry that both share. No two
tunnels do: an entry names the tunnel that was opened for it.
-/

namespace Xl2tpd

set_option autoImplicit false

open Program

variable {rules : Rules} {env : Env} {before middle after state : Daemon} {t u : TunnelRef}

/-- A redial on the tunnel, if there is an entry to redial, finds the tunnel. -/
structure Daemon.Settled (state : Daemon) (t : TunnelRef) : Prop where
  old : t < state.fresh
  found : (state.tunnels.map Tunnel.ourtid).Nodup ∨
    ∀ tunnel ∈ state.tunnels, tunnel.ref = t → tunnel.lac = none

theorem Origin.lac_none {deed : TunnelDeed} (old : deed.ref < before.fresh)
    (unowned : ∀ tunnel ∈ before.tunnels, tunnel.ref = deed.ref → tunnel.lac = none)
    (origin : Origin env before after deed) : deed.lac = none := by
  cases origin with
  | kept member | chosen member | inherited member | placed member | dropped member
  | assigned member => exact unowned _ member rfl
  | born => exact absurd old (Nat.lt_irrefl _)
  | faded member fades =>
    have gone := unowned _ member fades.ref.symm
    rcases fades.owner with ⟨same, _⟩ | ⟨none, _⟩
    · exact same.trans gone
    · exact none

theorem Op.settled (only : ∀ u, rules.touched u → u = t) (op : Op rules env before after)
    (settled : before.Settled t) : after.Settled t where
  old := settled.old.trans_le op.grows.fresh
  found := by
    refine settled.found.imp (fun distinct => ?_) fun unowned => ?_
    · have numbers : ∀ state : Daemon, state.tunnels.map Tunnel.ourtid =
          (state.tunnels.map Tunnel.name).map Prod.snd := fun state => by rw [List.map_map]; rfl
      rcases op.names with fewer | ⟨_, touch, _⟩
      · rw [numbers] at distinct ⊢
        exact distinct.sublist (fewer.map _)
      · exact absurd (only _ touch) (Nat.ne_of_gt settled.old)
    · intro tunnel member named
      subst named
      exact (op.origin member).lac_none settled.old unowned

theorem steps_settled (only : ∀ u, rules.touched u → u = t)
    (steps : Relation.ReflTransGen (Op rules env) before after) (settled : before.Settled t) :
    after.Settled t := by
  induction steps with
  | refl => exact settled
  | tail _ op ih => exact op.settled only ih

theorem byNumber_own {tunnel other : Tunnel} (distinct : (state.tunnels.map Tunnel.ourtid).Nodup)
    (member : tunnel ∈ state.tunnels)
    (numbered : state.byNumber tunnel.ourtid.toNat = some other) : other = tunnel := by
  have same : other.ourtid = tunnel.ourtid := by
    have tested := List.find?_some numbered
    simp only [Int.ofNat_inj, decide_eq_true_eq] at tested
    exact UInt16.toNat_inj.mp tested
  exact List.inj_on_of_nodup_map distinct (List.mem_of_find?_eq_some numbered) member same

/-- What may be touched when a packet for a tunnel arrives: it, and what is new. -/
def Rules.around (t : TunnelRef) (base : Nat) : Rules where
  touched := fun u => u = t ∨ base ≤ u
  destroys := True
  hellos := True
  expires := False
  edits := False
  toggles := False
  assigns := True
  single := False
  assigned := False
  kept := False
  dialed := fun _ => True
  rings := fun _ => True

theorem Daemon.Settled.dials {base : Nat} {tunnel : Tunnel} {lac : LacRef}
    (settled : state.Settled t) (titled : state.Titled) (later : base ≤ state.fresh)
    (found : state.tunnel? t = some tunnel) (title : tunnel.lac = some lac) :
    (Rules.around t base).Dials state lac where
  born := .inr later
  called := by
    intro entry holder opened other foundEntry holds foundOpened numbered
    have opens : state.opens lac = some (some holder) := by
      unfold Daemon.opens
      rw [foundEntry, Option.map_some, holds]
    have member := Keyed.find_mem found
    have named : tunnel.ref = t := Keyed.find_key found
    have own := titled.holder tunnel member lac _ title opens
    rw [Option.some.inj own, named, found] at foundOpened
    cases foundOpened
    rcases settled.found with distinct | unowned
    · rw [byNumber_own distinct member numbered]
      exact ⟨.inl named, False.elim⟩
    · rw [unowned tunnel member named] at title
      cases title
  idle := False.elim
  dialed := trivial

section Arrival

variable {datagram : Datagram} {linked : Daemon} {c : CallId}

theorem getCall_settled (distinct : (state.tunnels.map Tunnel.ourtid).Nodup)
    (old : ∀ tunnel ∈ state.tunnels, tunnel.ref < state.fresh)
    (lookup : getCall env datagram.ids.1 datagram.ids.2 datagram.peer datagram.refme
      datagram.refhim state = .ok (some (t, c)) linked) : linked.Settled t := by
  by_cases opens : datagram.ids.1 = 0 ∧ datagram.ids.2 = 0
  · rw [opens.1, opens.2, getCall_makes] at lookup
    cases lookup
    refine ⟨Nat.lt_add_of_pos_right (by decide), .inr ?_⟩
    intro tunnel member named
    rcases List.mem_cons.mp member with rfl | earlier
    · rfl
    · exact absurd named (Nat.ne_of_lt (old tunnel earlier))
  · obtain ⟨rfl, st, search, numbered⟩ := getCall_search opens lookup
    rw [← numbered_ref numbered]
    exact ⟨old st (List.mem_of_find?_eq_some search), .inl distinct⟩

theorem around_receives (reached : Reachable env state)
    (distinct : (state.tunnels.map Tunnel.ourtid).Nodup)
    (lookup : getCall env datagram.ids.1 datagram.ids.2 datagram.peer datagram.refme
      datagram.refhim state = .ok (some (t, c)) linked) :
    (Rules.around t state.fresh).Receives env datagram state where
  destroys := trivial
  born := fun _ => .inr (Nat.le_refl _)
  touched := by
    intro other call later same
    rw [lookup] at same
    cases same
    exact .inl rfl
  rings := fun _ _ _ _ => trivial
  special := by
    intro other later missing
    rw [lookup] at missing
    cases missing
  finishes := by
    intro entered call type enters foundCall typed
    refine ⟨fun _ => trivial, fun _ => ?_, fun _ => trivial, False.elim⟩
    intro middle tunnel lac steps found title
    obtain ⟨linkedSame, lookupSame, path⟩ := entering_near enters steps
    rw [lookup] at lookupSame
    cases lookupSame
    have link : Relation.ReflTransGen (Op Rules.free env) state linked :=
      getCall_ops (fun _ => trivial) _ _ lookup
    have titled : middle.Titled := by
      have first := steps_invariant link (fun _ _ op => op.titled) (runs_titled reached)
      exact steps_invariant path (fun _ _ op => op.titled) first
    have old : ∀ tunnel ∈ state.tunnels, tunnel.ref < state.fresh := fun tunnel member =>
      (runs_fresh reached).tunnels _ (List.mem_map_of_mem member)
    have settled : middle.Settled entered.tunnel :=
      steps_settled (fun _ touch => touch) path (getCall_settled distinct old lookup)
    have later : state.fresh ≤ middle.fresh :=
      (steps_grow link).fresh.trans (steps_grow path).fresh
    exact settled.dials titled later found title

/-- A packet for one tunnel leaves every other one alone, with its calls and timers. -/
theorem tunnels_isolated (reached : Reachable env state)
    (distinct : (state.tunnels.map Tunnel.ourtid).Nodup)
    (lookup : getCall env datagram.ids.1 datagram.ids.2 datagram.peer datagram.refme
      datagram.refhim state = .ok (some (t, c)) linked)
    (ran : receive env datagram state = .ok () after) :
    ∀ other ∈ state.tunnels, other.ref ≠ t →
      after.tunnel? other.ref = some other ∧ after.timers other.ref = state.timers other.ref := by
  intro other member apart
  have fresh := runs_fresh reached
  have old : other.ref < state.fresh := fresh.tunnels _ (List.mem_map_of_mem member)
  have steps := receive_ops (around_receives reached distinct lookup) () after ran
  have untouched : Untouched other.ref state after := by
    refine steps_untouched ?_ id steps
    rintro (same | new)
    · exact apart same
    · exact absurd new (Nat.not_le_of_lt old)
  have found : state.tunnel? other.ref = some other :=
    Keyed.find_of_mem (tunnels_distinct fresh) member
  exact ⟨untouched.tunnel.trans found, untouched.timers⟩

end Arrival

theorem scccn_leaves_other_tunnel : ∃ (env : Env) (state after : Daemon) (other : Tunnel),
    Reachable env state ∧ receive env sampleScccn state = .ok () after ∧ other ∈ state.tunnels ∧
      state.timers other.ref ≠ [] ∧ after.tunnel? other.ref = some other ∧
      after.timers other.ref = state.timers other.ref := by
  let env := sampleEnv (fun _ _ => none) 5
  let second : Datagram := { sampleSccrq with peer := ⟨8, 6⟩ }
  let test : Daemon → Bool := fun state =>
    ends (getCall env sampleScccn.ids.1 sampleScccn.ids.2 sampleScccn.peer sampleScccn.refme
      sampleScccn.refhim) (fun found _ => ends (receive env sampleScccn) (fun _ _ =>
        decide (state.tunnels.map Tunnel.ourtid).Nodup && found.any fun addressed =>
          state.tunnels.any fun other =>
            other.ref ≠ addressed.1 && !(state.timers other.ref).isEmpty) state) state
  obtain ⟨state, reached, tested⟩ : ∃ state, Reachable env state ∧ test state = true :=
    reachable_any [.datagram sampleSccrq, .datagram second] (sampleServer_booted sampleLns rfl) rfl
      (by decide +kernel)
  obtain ⟨found, _, lookup, tested⟩ := ends_ok tested
  obtain ⟨_, after, ran, tested⟩ := ends_ok tested
  rw [Bool.and_eq_true, decide_eq_true_eq] at tested
  obtain ⟨distinct, tested⟩ := tested
  obtain ⟨⟨t, c⟩, addressed, tested⟩ := (Option.any_eq_true _ _).mp tested
  obtain ⟨other, member, tested⟩ := List.any_eq_true.mp tested
  simp only [Bool.and_eq_true, decide_eq_true_eq, Bool.not_eq_true', List.isEmpty_eq_false_iff]
    at tested
  rw [addressed] at lookup
  obtain ⟨kept, same⟩ := tunnels_isolated reached distinct lookup ran other member tested.1
  exact ⟨env, state, after, other, reached, ran, member, tested.2, kept, same⟩

end Xl2tpd
