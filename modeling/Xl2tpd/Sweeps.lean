import Xl2tpd.Ledger.Books
import Xl2tpd.Runs

/-!
# Sweeps

`build_fdset` walks along the tunnels, closes what is pending and starts again. What every closing
keeps the whole sweep keeps.
-/

namespace Xl2tpd

set_option autoImplicit false

open Program

variable {env : Env} {before middle after state : Daemon} {t u : TunnelRef} {c : CallId}
  {tunnel : Tunnel} {fuel : Nat}

def Daemon.Pending (state : Daemon) (t : TunnelRef) : CallId → Prop
  | .self => ∃ tunnel, state.tunnel? t = some tunnel ∧ tunnel.self.pending = true
  | .call ref => ∃ tunnel call, state.tunnel? t = some tunnel ∧ call ∈ tunnel.calls ∧
      call.ref = ref ∧ call.pending = true

theorem Daemon.Pending.found (pending : state.Pending t c) :
    ∃ tunnel, state.tunnel? t = some tunnel := by
  cases c with
  | self =>
    obtain ⟨tunnel, found, _⟩ := pending
    exact ⟨tunnel, found⟩
  | call ref =>
    obtain ⟨tunnel, _, found, _⟩ := pending
    exact ⟨tunnel, found⟩

/-! ## Invariants -/

/-- What every closing that the sweep asks for keeps. -/
def ClosingsKeep (env : Env) (invariant : Daemon → Prop) : Prop :=
  ∀ t c before after, before.Pending t c → callClose env t c before = .ok () after →
    invariant before → invariant after

section Invariant

variable {invariant : Daemon → Prop} (keeps : ClosingsKeep env invariant)

include keeps

theorem sweepCalls_keeps (ran : sweepCalls env t fuel before = .ok () after)
    (start : invariant before) : invariant after := by
  induction fuel generalizing before with
  | zero => cases ran
  | succ fuel ih =>
    obtain ⟨tunnel, found, ran⟩ := ok_readTunnel ran
    cases next : tunnel.calls.find? Call.pending with
    | none =>
      simp only [next] at ran
      cases ran
      exact start
    | some call =>
      simp only [next] at ran
      obtain ⟨_, middle, closed, ran⟩ := bind_ok.mp ran
      have pending : before.Pending t (.call call.ref) :=
        ⟨tunnel, call, found, List.mem_of_find?_eq_some next, rfl, List.find?_some next⟩
      exact ih ran (keeps t _ before middle pending closed start)

theorem sweepTunnels_keeps {refs : List TunnelRef} {closed : Bool}
    (ran : sweepTunnels env refs before = .ok closed after) (start : invariant before) :
    invariant after := by
  induction refs generalizing before with
  | nil =>
    cases ran
    exact start
  | cons t rest ih =>
    obtain ⟨_, _, ran⟩ := ok_readTunnel ran
    obtain ⟨_, middle, calls, ran⟩ := bind_ok.mp ran
    have kept := sweepCalls_keeps keeps calls start
    obtain ⟨tunnel, found, ran⟩ := ok_readTunnel ran
    by_cases pending : tunnel.self.pending = true
    · rw [if_pos pending] at ran
      obtain ⟨_, last, close, ran⟩ := bind_ok.mp ran
      cases ran
      exact keeps t .self middle _ ⟨tunnel, found, pending⟩ close kept
    · rw [if_neg pending] at ran
      exact ih ran kept

theorem sweep_keeps (ran : sweep env fuel before = .ok () after) (start : invariant before) :
    invariant after := by
  induction fuel generalizing before with
  | zero => cases ran
  | succ fuel ih =>
    unfold sweep at ran
    rw [bind_get] at ran
    obtain ⟨closed, middle, walk, ran⟩ := bind_ok.mp ran
    have kept := sweepTunnels_keeps keeps walk start
    cases closed with
    | false =>
      cases ran
      exact kept
    | true => exact ih ran kept

end Invariant

/-! ## What is due -/

/-- A tunnel is due until something is done, and as long as it is due the sweep finds it
pending. -/
structure Due (env : Env) (t : TunnelRef) (due done : Daemon → Prop) : Prop where
  steady : ClosingsKeep env done
  waits : ∀ u c before after, before.Pending u c → callClose env u c before = .ok () after →
    due before → done after ∨ due after
  pending : ∀ state, due state → ∃ tunnel, state.tunnel? t = some tunnel ∧
    tunnel.self.pending = true

section Due

variable {due done : Daemon → Prop} (rule : Due env t due done)

include rule

theorem Due.keeps : ClosingsKeep env fun state => done state ∨ due state := by
  intro u c before after pending closes waiting
  rcases waiting with already | isDue
  · exact .inl (rule.steady u c before after pending closes already)
  · exact rule.waits u c before after pending closes isDue

theorem sweepTunnels_done {refs : List TunnelRef}
    (ran : sweepTunnels env refs before = .ok false after) (start : done before ∨ due before)
    (visited : t ∈ refs) : done after := by
  induction refs generalizing before with
  | nil => cases visited
  | cons u rest ih =>
    obtain ⟨_, _, ran⟩ := ok_readTunnel ran
    obtain ⟨_, middle, calls, ran⟩ := bind_ok.mp ran
    have kept := sweepCalls_keeps rule.keeps calls start
    obtain ⟨tunnel, found, ran⟩ := ok_readTunnel ran
    by_cases pending : tunnel.self.pending = true
    · rw [if_pos pending] at ran
      obtain ⟨_, _, _, ran⟩ := bind_ok.mp ran
      cases ran
    · rw [if_neg pending] at ran
      rcases List.mem_cons.mp visited with own | later
      · rcases kept with already | isDue
        · exact sweepTunnels_keeps rule.steady ran already
        · obtain ⟨same, foundSame, isPending⟩ := rule.pending middle isDue
          rw [own, found] at foundSame
          cases foundSame
          exact absurd isPending pending
      · exact ih ran kept later

theorem sweep_done (ran : sweep env fuel before = .ok () after) (start : done before ∨ due before) :
    done after := by
  induction fuel generalizing before with
  | zero => cases ran
  | succ fuel ih =>
    unfold sweep at ran
    rw [bind_get] at ran
    obtain ⟨closed, middle, walk, ran⟩ := bind_ok.mp ran
    cases closed with
    | true => exact ih ran (sweepTunnels_keeps rule.keeps walk start)
    | false =>
      cases ran
      rcases start with already | isDue
      · exact sweepTunnels_keeps rule.steady walk already
      · obtain ⟨tunnel, found, _⟩ := rule.pending before isDue
        have listed : t ∈ before.tunnels.map Tunnel.ref :=
          List.mem_map.mpr ⟨tunnel, Keyed.find_mem found, Keyed.find_key found⟩
        exact sweepTunnels_done rule walk (.inr isDue) listed

end Due

/-! ## One closing -/

theorem callClose_untouched (other : u ≠ t) (ran : callClose env t c before = .ok () after) :
    Untouched u before after := by
  let rules : Rules := { Rules.free with touched := fun v => v = t, expires := False }
  have ops : Ops rules env (callClose env t c) before := callClose_ops rfl trivial
  exact steps_untouched other id (ops () after ran)

theorem closeCall_self {ref : CallRef} (found : before.tunnel? t = some tunnel)
    (ran : callClose env t (.call ref) before = .ok () after) :
    ∃ later, after.tunnel? t = some later ∧ later.self = tunnel.self := by
  replace ran := ok_readTunnel_at found ran
  obtain ⟨_, call, _, _, ran⟩ := ok_readCall ran
  split at ran
  · exact ⟨_, destroyCall_tunnel ran found, rfl⟩
  · obtain ⟨_, _, _, _, ran⟩ := ok_writeCall ran
    have foundMarked := @tunnel_setCall tunnel before t (.call ref)
      (fun call => { call with closeSs := tunnel.controlSeqNum }) found
    obtain ⟨_, built, build, ran⟩ := bind_ok.mp ran
    have foundBuilt : ∃ later, built.tunnel? t = some later ∧ later.self = tunnel.self := by
      obtain ⟨_, vectored, vector, build⟩ := bind_ok.mp build
      have foundVectored : ∃ later, vectored.tunnel? t = some later ∧ later.self = tunnel.self := by
        obtain ⟨_, foundSame, vector⟩ := ok_readTunnel vector
        rw [foundMarked] at foundSame
        cases foundSame
        split at vector
        · obtain ⟨_, _, drawn, vector⟩ := bind_ok.mp vector
          cases drawn
          obtain ⟨_, _, vector⟩ := ok_writeTunnel vector
          cases vector
          exact ⟨_, (tunnel_setTunnel (by intro _; rfl)).trans (congrArg _ foundMarked), rfl⟩
        · cases vector
          exact ⟨_, foundMarked, rfl⟩
      obtain ⟨later, foundLater, same⟩ := foundVectored
      obtain ⟨_, _, _, _, build⟩ := ok_writeCall build
      obtain ⟨_, _, _, _, build⟩ := ok_readCall build
      cases build
      exact ⟨_, tunnel_setCall foundLater, same⟩
    obtain ⟨later, foundLater, same⟩ := foundBuilt
    obtain ⟨_, sent, send, marks⟩ := bind_ok.mp ran
    obtain ⟨last, _, foundLast, listed, rfl⟩ := writeCall_ok marks
    refine ⟨_, tunnel_setCall foundLast, ?_⟩
    rcases (sendControlWith_ok send).2 with ⟨_, _, _, rfl⟩ | empty
    · have counted := @tunnel_setTunnel built t
        (fun tunnel => { tunnel with controlSeqNum := tunnel.controlSeqNum + 1 }) (by intro _; rfl)
      have equal : some last = _ := foundLast.symm.trans (counted.trans (congrArg _ foundLater))
      cases equal
      exact same
    · have member := Keyed.find_mem listed
      rw [empty last foundLast] at member
      cases member

theorem noted_later {note : Obs} {first second third fourth : List Obs}
    (member : note ∈ third.drop second.length) (early : first <+: second)
    (late : third <+: fourth) : note ∈ fourth.drop first.length := by
  have sooner : note ∈ third.drop first.length :=
    List.drop_subset_drop_left third early.length_le member
  obtain ⟨more, rfl⟩ := late
  rw [List.drop_append]
  exact List.mem_append_left _ sooner

theorem closeTunnel_ok (found : before.tunnel? t = some tunnel)
    (ran : callClose env t .self before = .ok () after) :
    (tunnel.self.closing = true ∧ after.tunnel? t = none) ∨
      (tunnel.self.closing = false ∧ ∃ ns body,
        Obs.numbered t ns (addMessageTypeAvp .StopCCN ++ body) ∈
          after.trace.drop before.trace.length) := by
  replace ran := ok_readTunnel_at found ran
  obtain ⟨_, quiet, deschedule, ran⟩ := bind_ok.mp ran
  cases deschedule
  cases closing : tunnel.self.closing with
  | true =>
    rw [if_pos closing] at ran
    exact .inl ⟨rfl, destroyTunnel_gone ran⟩
  | false =>
    refine .inr ⟨rfl, ?_⟩
    rw [if_neg (by simp [closing])] at ran
    obtain ⟨_, _, _, _, ran⟩ := ok_writeCall ran
    obtain ⟨body, built, build, ran⟩ := bind_ok.mp ran
    obtain ⟨_, sent, send, rest⟩ := bind_ok.mp ran
    have opens : Relation.ReflTransGen (Op Rules.free env) _ built :=
      stopCcnBody_ops trivial body built build
    obtain ⟨_, _, rest⟩ := ok_readTunnel rest
    obtain ⟨_, emptied, loop, marks⟩ := bind_ok.mp rest
    obtain ⟨_, _, _, _, rfl⟩ := writeCall_ok marks
    have ends : Relation.ReflTransGen (Op Rules.free env) sent emptied := by
      refine yields_forM _ (fun ref later => ?_) () emptied loop
      exact yields_bind (ops_storeCall trivial fun _ => rfl) fun _ _ _ =>
        callCloseN_ops 2 trivial trivial
    obtain ⟨ns, noted⟩ := (sendControlWith_ok send).1
    obtain ⟨rest, shape⟩ : ∃ rest, body = addMessageTypeAvp .StopCCN ++ rest := by
      obtain ⟨vector, _, _, build⟩ := bind_ok.mp build
      obtain ⟨_, _, _, _, build⟩ := ok_writeCall build
      obtain ⟨opened, _, build⟩ := ok_readTunnel build
      cases build
      exact ⟨vector ++ (addTunnelidAvp opened.ourtid ++ addResultCodeAvp opened.self.result
        opened.self.error opened.self.errormsg), by simp only [List.append_assoc]⟩
    rw [shape] at noted
    have early := (steps_grow opens).trace
    have late := (steps_grow ends).trace
    exact ⟨ns, rest, noted_later noted early late⟩

/-! ## Tunnels that are let go, told, or left alone -/

def Tunnel.Released (tunnel : Tunnel) : Prop :=
  tunnel.self.needclose = false ∧ tunnel.self.closing = true

def Tunnel.Refused (tunnel : Tunnel) : Prop :=
  tunnel.self.needclose = true ∧ tunnel.self.closing = false

def Tunnel.Quiet (tunnel : Tunnel) : Prop :=
  tunnel.self.pending = false ∧ ∀ call ∈ tunnel.calls, call.pending = false

theorem gone_kept : ClosingsKeep env fun state => state.tunnel? t = none := by
  intro u c before after pending closes gone
  obtain ⟨tunnel, found⟩ := pending.found
  have other : t ≠ u := by
    rintro rfl
    rw [gone] at found
    cases found
  exact (callClose_untouched other closes).tunnel.trans gone

theorem callClose_self (found : before.tunnel? t = some tunnel)
    (ran : callClose env u c before = .ok () after) (spared : u = t → c ≠ .self) :
    ∃ later, after.tunnel? t = some later ∧ later.self = tunnel.self := by
  by_cases own : u = t
  · subst own
    cases c with
    | self => exact absurd rfl (spared rfl)
    | call ref => exact closeCall_self found ran
  · exact ⟨tunnel, (callClose_untouched (Ne.symm own) ran).tunnel.trans found, rfl⟩

theorem released_due : Due env t
    (fun state => ∃ tunnel, state.tunnel? t = some tunnel ∧ tunnel.Released)
    fun state => state.tunnel? t = none where
  steady := gone_kept
  waits := by
    rintro u c before after pending closes ⟨tunnel, found, released⟩
    by_cases ends : u = t ∧ c = .self
    · obtain ⟨rfl, rfl⟩ := ends
      rcases closeTunnel_ok found closes with ⟨_, gone⟩ | ⟨untold, _⟩
      · exact .inl gone
      · rw [released.2] at untold
        cases untold
    · obtain ⟨later, foundLater, same⟩ :=
        callClose_self found closes fun own isSelf => ends ⟨own, isSelf⟩
      refine .inr ⟨later, foundLater, ?_⟩
      unfold Tunnel.Released
      rw [same]
      exact released
  pending := by
    rintro state ⟨tunnel, found, released⟩
    refine ⟨tunnel, found, ?_⟩
    unfold Call.pending
    rw [released.1, released.2]
    rfl

def Daemon.Stopped (state : Daemon) (base : Nat) (t : TunnelRef) : Prop :=
  ∃ ns body, Obs.numbered t ns (addMessageTypeAvp .StopCCN ++ body) ∈ state.trace.drop base

theorem callClose_grows (ran : callClose env t c before = .ok () after) :
    before.trace <+: after.trace := by
  have steps : Relation.ReflTransGen (Op Rules.free env) before after :=
    callClose_ops trivial trivial () after ran
  exact (steps_grow steps).trace

theorem trace_kept (base : List Obs) : ClosingsKeep env fun state => base <+: state.trace :=
  fun _ _ _ _ _ closes early => early.trans (callClose_grows closes)

theorem refused_due {base : List Obs} : Due env t
    (fun state => base <+: state.trace ∧
      ∃ tunnel, state.tunnel? t = some tunnel ∧ tunnel.Refused)
    fun state => state.Stopped base.length t where
  steady := by
    rintro u c before after pending closes ⟨ns, body, noted⟩
    obtain ⟨more, grown⟩ := callClose_grows closes
    refine ⟨ns, body, ?_⟩
    rw [← grown, List.drop_append]
    exact List.mem_append_left _ noted
  waits := by
    rintro u c before after pending closes ⟨early, tunnel, found, refused⟩
    by_cases ends : u = t ∧ c = .self
    · obtain ⟨rfl, rfl⟩ := ends
      rcases closeTunnel_ok found closes with ⟨told, _⟩ | ⟨_, ns, body, noted⟩
      · rw [refused.2] at told
        cases told
      · exact .inl ⟨ns, body, noted_later noted early List.prefix_rfl⟩
    · obtain ⟨later, foundLater, same⟩ :=
        callClose_self found closes fun own isSelf => ends ⟨own, isSelf⟩
      refine .inr ⟨early.trans (callClose_grows closes), later, foundLater, ?_⟩
      unfold Tunnel.Refused
      rw [same]
      exact refused
  pending := by
    rintro state ⟨_, tunnel, found, refused⟩
    refine ⟨tunnel, found, ?_⟩
    unfold Call.pending
    rw [refused.1, refused.2]
    rfl

theorem quiet_kept (quiet : tunnel.Quiet) :
    ClosingsKeep env fun state => state.tunnel? t = some tunnel := by
  intro u c before after pending closes found
  have other : t ≠ u := by
    rintro rfl
    cases c with
    | self =>
      obtain ⟨same, foundSame, isPending⟩ := pending
      rw [found] at foundSame
      cases foundSame
      rw [quiet.1] at isPending
      cases isPending
    | call ref =>
      obtain ⟨same, call, foundSame, member, _, isPending⟩ := pending
      rw [found] at foundSame
      cases foundSame
      rw [quiet.2 call member] at isPending
      cases isPending
  exact (callClose_untouched other closes).tunnel.trans found

/-! ## Which tunnels there are -/

theorem steps_refs {rules : Rules} (among : TunnelRef → Prop)
    (only : ∀ u, rules.touched u → among u)
    (steps : Relation.ReflTransGen (Op rules env) before after)
    (start : ∀ tunnel ∈ before.tunnels, among tunnel.ref) :
    ∀ tunnel ∈ after.tunnels, among tunnel.ref := by
  induction steps with
  | refl => exact start
  | tail _ op ih =>
    intro tunnel member
    have named := List.mem_map_of_mem (f := Tunnel.name) member
    rcases op.names with fewer | ⟨more, touch, _⟩
    · obtain ⟨old, memberOld, same⟩ := List.mem_map.mp (fewer.subset named)
      have ref : old.ref = tunnel.ref := congrArg Prod.fst same
      exact ref ▸ ih old memberOld
    · rw [more] at named
      rcases List.mem_cons.mp named with new | earlier
      · have ref : tunnel.ref = _ := congrArg Prod.fst new
        rw [ref]
        exact only _ touch
      · obtain ⟨old, memberOld, same⟩ := List.mem_map.mp earlier
        have ref : old.ref = tunnel.ref := congrArg Prod.fst same
        exact ref ▸ ih old memberOld

theorem refs_kept (among : TunnelRef → Prop) :
    ClosingsKeep env fun state => ∀ tunnel ∈ state.tunnels, among tunnel.ref := by
  intro u c before after pending closes start
  obtain ⟨tunnel, found⟩ := pending.found
  have listed : among u := by
    rw [← Keyed.find_key found]
    exact start tunnel (Keyed.find_mem found)
  let rules : Rules := { Rules.free with touched := fun v => v = u }
  have ops : Ops rules env (callClose env u c) before := callClose_ops rfl trivial
  have only : ∀ v, rules.touched v → among v := by
    intro v own
    have same : v = u := own
    rw [same]
    exact listed
  exact steps_refs among only (ops () after closes) start

end Xl2tpd
