import Xl2tpd.Ledger

/-!
# Transmission, destruction and closing in the ledger
-/

namespace Xl2tpd

set_option autoImplicit false

open Program

variable {rules : Rules} {env : Env} {state after : Daemon} {t : TunnelRef} {c : CallId}
  {body : Bytes} {buffer : Buffer} {ref : CallRef} {lac : LacRef} {call : Call}

/-! ## Transmission -/

theorem addControlHdr_ops (touch : rules.touched t) :
    Ops rules env (addControlHdr t c body) state := by
  refine yields_readTunnel fun _ _ => yields_readCall fun _ _ => ?_
  exact yields_bind (ops_storeTunnel touch fun _ => rfl) fun _ _ _ => yields_pure _

theorem addControlHdr_tunnel (ran : addControlHdr t c body state = .ok buffer after) :
    buffer.tunnel = t := by
  obtain ⟨_, _, ran⟩ := ok_readTunnel ran
  obtain ⟨_, _, _, _, ran⟩ := ok_readCall ran
  obtain ⟨_, _, ran⟩ := ok_writeTunnel ran
  cases ran
  rfl

theorem udpXmit_ops : Ops rules env (udpXmit buffer) state :=
  yields_readTunnel fun _ _ => ops_emit ⟨rfl, fun _ => rfl⟩

theorem controlZlb_ops (touch : rules.touched t) : Ops rules env (controlZlb t c) state := by
  refine yields_bind (addControlHdr_ops touch) fun _ _ _ => ?_
  exact yields_bind (ops_storeTunnel touch fun _ => rfl) fun _ _ _ => udpXmit_ops

section Xmit

variable {close : TunnelRef → CallId → Prog Unit}

theorem timeout_deed (call : Call) : call.timeout.deed = call.deed := by
  unfold Call.timeout
  split <;> rfl

theorem controlXmitWith_ops (touch : rules.touched buffer.tunnel)
    (closes : env.maxRetries < buffer.tried.retries →
      ∀ later, Ops rules env (close buffer.tunnel .self) later) :
    Ops rules env (controlXmitWith env close buffer) state := by
  refine yields_readTunnel fun tunnel _ =>
    yields_ite (fun _ => ops_emit ⟨rfl, fun _ => rfl⟩) fun _ => yields_ite ?_ ?_
  · intro spent
    exact yields_bind (ops_storeCall touch timeout_deed) fun _ later _ => closes spent later
  · intro _
    refine yields_bind (yields_once ?_) fun _ _ _ => udpXmit_ops
    intro _ after ran
    obtain ⟨_, rfl⟩ := schedule_ok ran
    exact .queue _ buffer.tried touch

theorem addControlHdr_untried (ran : addControlHdr t c body state = .ok buffer after) :
    buffer.retries = 0 := by
  obtain ⟨_, _, ran⟩ := ok_readTunnel ran
  obtain ⟨_, _, _, _, ran⟩ := ok_readCall ran
  obtain ⟨_, _, ran⟩ := ok_writeTunnel ran
  cases ran
  rfl

theorem sendControlWith_ops (touch : rules.touched t)
    (closes : env.maxRetries = 0 → ∀ later, Ops rules env (close t .self) later) :
    Ops rules env (sendControlWith env close t c body) state := by
  refine yields_bind (addControlHdr_ops touch) fun buffer _ ran => ?_
  refine yields_bind (ops_emit ⟨rfl, fun _ => rfl⟩) fun _ _ _ => ?_
  have named := addControlHdr_tunnel ran
  have untried := addControlHdr_untried ran
  subst named
  apply controlXmitWith_ops touch
  intro spent
  apply closes
  simp only [Buffer.tried, untried] at spent
  omega

end Xmit

theorem addVector_ops (touch : rules.touched t) : Ops rules env (addVector env t) state := by
  refine yields_readTunnel fun tunnel _ => yields_ite (fun _ => ?_) fun _ => yields_pure _
  refine yields_bind ops_getEntropy fun _ _ _ => ?_
  exact yields_bind (ops_storeTunnel touch fun _ => rfl) fun _ _ _ => yields_pure _

/-! ## Destruction -/

def unreserved (uaddr : Nat → List Nat) (addr : Nat) : Nat → List Nat :=
  Function.update uaddr (addr % addrHashSize)
    ((uaddr (addr % addrHashSize)).filter fun entry => entry ≠ addr)

def Daemon.freedAddr (state : Daemon) (call : Call) : Nat → List Nat :=
  if call.addr ≠ 0 then unreserved state.uaddr call.addr else state.uaddr

def Daemon.freed (state : Daemon) (call : Call) : Nat → List Nat :=
  match call.lns.bind state.lns? with
  | none => state.freedAddr call
  | some entry =>
      if entry.localrange ≠ [] then unreserved (state.freedAddr call) entry.localaddr
      else state.freedAddr call

theorem whenever_ok {condition : Bool} {change : Daemon → Daemon} {value : PUnit}
    (ran : whenever condition (modify change) state = .ok value after) :
    after = if condition then change state else state := by
  cases condition <;> cases ran <;> rfl

theorem releaseLocalAddr_ok {lns : Option LnsRef}
    (ran : releaseLocalAddr lns state = .ok () after) :
    after = { state with uaddr := match lns.bind state.lns? with
      | none => state.uaddr
      | some entry =>
        if entry.localrange ≠ [] then unreserved state.uaddr entry.localaddr
        else state.uaddr } := by
  cases lns with
  | none =>
    cases ran
    rfl
  | some lns =>
    obtain ⟨entry, found, ran⟩ := ok_deref ran
    rw [whenever_ok ran]
    simp only [Option.bind_some, found]
    by_cases ranged : entry.localrange = []
    · simp [ranged]
    · simp [ranged, unreserved]

/-- The history once a call is gone: a pppd that is left is killed. -/
def Farewell (before after : List Obs) : Prop :=
  after = before ∨ ∃ pid, after = before ++ [.killPppd pid]

theorem Farewell.grows {before after : List Obs} (farewell : Farewell before after) :
    before <+: after := by
  rcases farewell with rfl | ⟨_, rfl⟩
  · exact List.prefix_rfl
  · exact List.prefix_append _ _

theorem releaseCall_ok (ran : releaseCall call state = .ok () after) :
    ∃ trace, Farewell state.trace trace ∧
      after = { state with uaddr := state.freed call, trace := trace } := by
  obtain ⟨_, first, own, ran⟩ := bind_ok.mp ran
  obtain ⟨_, second, shared, ran⟩ := bind_ok.mp ran
  have freedFirst : first = { state with uaddr := state.freedAddr call } := by
    rw [whenever_ok own]
    by_cases given : call.addr = 0 <;> simp [Daemon.freedAddr, given, unreserved]
  have freedSecond := releaseLocalAddr_ok shared
  rw [freedFirst] at freedSecond
  have last := whenever_ok ran
  rw [last, freedSecond]
  cases decide (0 < call.pppd) with
  | false => exact ⟨_, .inl rfl, rfl⟩
  | true => exact ⟨_, .inr ⟨_, rfl⟩, rfl⟩

theorem scheduleRedial_ok (ran : scheduleRedial lac state = .ok () after) :
    ∃ entry, state.lac? lac = some entry ∧
      (after = state ∨ (entry.rsched = none ∧ entry.active = true) ∧ ∃ delay,
        after = (state.scheduled delay (.magicLacDial lac)).setLac lac fun entry =>
          { entry with rsched := some state.fresh }) := by
  obtain ⟨entry, found, ran⟩ := ok_deref ran
  refine ⟨entry, found, ?_⟩
  cases asked : entry.redial && decide (0 < entry.rtimeout) && entry.rsched.isNone && entry.active with
  | false =>
    rw [asked] at ran
    cases ran
    exact .inl rfl
  | true =>
    rw [asked] at ran
    obtain ⟨id, _, scheduled, ran⟩ := bind_ok.mp ran
    obtain ⟨rfl, rfl⟩ := schedule_ok scheduled
    obtain ⟨_, _, ran⟩ := ok_deref ran
    cases ran
    simp only [Bool.and_eq_true, Option.isNone_iff_eq_none] at asked
    exact .inr ⟨⟨asked.1.2, asked.2⟩, _, rfl⟩

theorem forgetCall_ok (ran : forgetCall call state = .ok () after) :
    (call.lac = none ∧ after = state) ∨ ∃ lac entry, call.lac = some lac ∧
      state.lac? lac = some entry ∧
      scheduleRedial lac (state.setLac lac fun entry => { entry with c := none }) =
        .ok () after := by
  unfold forgetCall at ran
  cases owner : call.lac with
  | none =>
    rw [owner] at ran
    cases ran
    exact .inl ⟨rfl, rfl⟩
  | some lac =>
    rw [owner] at ran
    obtain ⟨_, _, wrote, ran⟩ := bind_ok.mp ran
    obtain ⟨entry, found, wrote⟩ := ok_deref wrote
    cases wrote
    exact .inr ⟨lac, entry, rfl, found, ran⟩

structure RedialFrame (before after : Daemon) : Prop where
  tunnels : after.tunnels = before.tunnels
  tunnelCount : after.tunnelCount = before.tunnelCount
  uaddr : after.uaddr = before.uaddr
  lnslist : after.lnslist = before.lnslist
  deflns : after.deflns = before.deflns
  lacs : after.laclist.map Lac.ref = before.laclist.map Lac.ref
  fresh : before.fresh ≤ after.fresh
  drawn : after.drawn = before.drawn
  trace : after.trace = before.trace

theorem scheduleRedial_frame (ran : scheduleRedial lac state = .ok () after) :
    RedialFrame state after := by
  obtain ⟨_, _, rfl | ⟨_, _, rfl⟩⟩ := scheduleRedial_ok ran
  · exact ⟨rfl, rfl, rfl, rfl, rfl, rfl, Nat.le_refl _, rfl, rfl⟩
  · exact ⟨rfl, rfl, rfl, rfl, rfl, Keyed.map_update_same fun _ => rfl, Nat.le_succ _, rfl, rfl⟩

theorem RedialFrame.cleared {change : Lac → Lac}
    (frame : RedialFrame (state.setLac lac change) after)
    (named : ∀ entry, (change entry).ref = entry.ref) : RedialFrame state after :=
  { frame with lacs := frame.lacs.trans (Keyed.map_update_same named) }

theorem forgetCall_frame (ran : forgetCall call state = .ok () after) :
    RedialFrame state after := by
  rcases forgetCall_ok ran with ⟨_, rfl⟩ | ⟨lac, entry, _, _, ran⟩
  · exact ⟨rfl, rfl, rfl, rfl, rfl, rfl, Nat.le_refl _, rfl, rfl⟩
  · exact (scheduleRedial_frame ran).cleared fun _ => rfl

theorem destroyCall_ok (ran : destroyCall t ref state = .ok () after) :
    ∃ tunnel call trace, state.tunnel? t = some tunnel ∧ tunnel.call? (.call ref) = some call ∧
      Farewell state.trace trace ∧
        forgetCall call ({ state with uaddr := state.freed call, trace := trace }.setTunnel t
        fun tunnel =>
          { tunnel with
            calls := Keyed.remove Call.ref ref tunnel.calls
            count := tunnel.count - 1 }) = .ok () after := by
  obtain ⟨tunnel, call, found, foundCall, ran⟩ := ok_readCall ran
  obtain ⟨_, _, released, ran⟩ := bind_ok.mp ran
  obtain ⟨trace, farewell, rfl⟩ := releaseCall_ok released
  obtain ⟨_, _, ran⟩ := ok_writeTunnel ran
  exact ⟨tunnel, call, trace, found, foundCall, farewell, ran⟩

theorem destroyCall_tunnel {tunnel : Tunnel} (ran : destroyCall t ref state = .ok () after)
    (found : state.tunnel? t = some tunnel) :
    after.tunnel? t = some
      { tunnel with
        calls := Keyed.remove Call.ref ref tunnel.calls
        count := tunnel.count - 1 } := by
  obtain ⟨_, call, trace, _, _, _, ran⟩ := destroyCall_ok ran
  unfold Daemon.tunnel?
  rw [(forgetCall_frame ran).tunnels]
  have changed := @tunnel_setTunnel { state with uaddr := state.freed call, trace := trace } t
    (fun tunnel =>
      { tunnel with
        calls := Keyed.remove Call.ref ref tunnel.calls
        count := tunnel.count - 1 }) fun _ => rfl
  exact changed.trans (congrArg (Option.map _) found)

theorem destroyCall_ops (touch : rules.touched t) (allow : rules.destroys) :
    Ops rules env (destroyCall t ref) state :=
  yields_once fun _ _ ran => .destroyCall t ref touch allow ran

theorem destroyCalls_tunnel {refs : List CallRef} {tunnel : Tunnel}
    (ran : refs.forM (destroyCall t) state = .ok () after) (found : state.tunnel? t = some tunnel) :
    ∃ last, after.tunnel? t = some last ∧ last.lac = tunnel.lac ∧ last.lns = tunnel.lns ∧
      last.self = tunnel.self ∧ last.calls = tunnel.calls.filter fun call => call.ref ∉ refs := by
  induction refs generalizing state tunnel with
  | nil =>
    cases ran
    exact ⟨tunnel, found, rfl, rfl, rfl, by simp⟩
  | cons ref refs ih =>
    obtain ⟨_, middle, first, ran⟩ := bind_ok.mp ran
    obtain ⟨last, foundLast, lac, lns, self, calls⟩ := ih ran (destroyCall_tunnel first found)
    refine ⟨last, foundLast, lac, lns, self, ?_⟩
    rw [calls]
    simp only [Keyed.remove, List.filter_filter]
    apply List.filter_congr
    intro call _
    simp only [List.mem_cons, not_or, Bool.decide_and, Bool.and_comm]

theorem destroyTunnel_ops (touch : rules.touched t) (allow : rules.destroys) :
    Ops rules env (destroyTunnel t) state := by
  refine yields_readTunnel fun tunnel found => ?_
  refine yields_bind (yields_forM _ fun ref _ => destroyCall_ops touch allow)
    fun _ middle ran => ?_
  obtain ⟨last, foundLast, lac, lns, self, calls⟩ := destroyCalls_tunnel ran found
  have empty : last.calls = [] := by
    rw [calls]
    apply List.filter_eq_nil_iff.mpr
    intro call member
    simp only [decide_eq_true_eq, not_not]
    exact List.mem_map_of_mem member
  refine yields_once fun _ after buried => .bury t last touch allow foundLast empty ?_
  unfold bury
  rw [lac, lns, self]
  exact buried

/-! ## Closing -/

theorem withResult_deed (call : Call) : call.withResult.deed = call.deed := rfl

theorem stopCcnBody_ops (touch : rules.touched t) : Ops rules env (stopCcnBody env t) state := by
  refine yields_bind (addVector_ops touch) fun _ _ _ => ?_
  refine yields_bind (ops_storeCall touch withResult_deed) fun _ _ _ => ?_
  exact yields_readTunnel fun _ _ => yields_pure _

theorem cdnBody_ops (touch : rules.touched t) : Ops rules env (cdnBody env t c) state := by
  refine yields_bind (addVector_ops touch) fun _ _ _ => ?_
  refine yields_bind (ops_storeCall touch withResult_deed) fun _ _ _ => ?_
  exact yields_readCall fun _ _ => yields_pure _

theorem descheduleTunnel_ops (touch : rules.touched t) (allow : rules.destroys) :
    Ops rules env (descheduleTunnel t) state := yields_modify (.deschedule t touch allow)

theorem callCloseN_ops (depth : Nat) (touch : rules.touched t) (allow : rules.destroys) :
    Ops rules env (callCloseN env depth t c) state := by
  induction depth generalizing c state with
  | zero => exact yields_throw _
  | succ depth ih =>
    cases c with
    | self =>
      refine yields_readTunnel fun tunnel _ => ?_
      refine yields_bind (descheduleTunnel_ops touch allow) fun _ _ _ => ?_
      refine yields_ite (fun _ => destroyTunnel_ops touch allow) fun _ => ?_
      refine yields_bind (ops_storeCall touch fun _ => rfl) fun _ _ _ => ?_
      refine yields_bind (stopCcnBody_ops touch) fun _ _ _ => ?_
      refine yields_bind (sendControlWith_ops touch fun _ _ => ih) fun _ _ _ => ?_
      refine yields_readTunnel fun tunnel _ => ?_
      refine yields_bind (yields_forM _ fun ref _ => ?_) fun _ _ _ =>
        ops_storeCall touch fun _ => rfl
      exact yields_bind (ops_storeCall touch fun _ => rfl) fun _ _ _ => ih
    | call ref =>
      refine yields_readTunnel fun tunnel _ => yields_readCall fun call _ => ?_
      refine yields_ite (fun _ => destroyCall_ops touch allow) fun _ => ?_
      refine yields_bind (ops_storeCall touch fun _ => rfl) fun _ _ _ => ?_
      refine yields_bind (cdnBody_ops touch) fun _ _ _ => ?_
      refine yields_bind (sendControlWith_ops touch fun _ _ => ih) fun _ _ _ => ?_
      exact ops_storeCall touch fun _ => rfl

theorem callClose_ops (touch : rules.touched t) (allow : rules.destroys) :
    Ops rules env (callClose env t c) state := callCloseN_ops 3 touch allow

theorem controlXmit_ops (touch : rules.touched buffer.tunnel) (allow : rules.destroys) :
    Ops rules env (controlXmit env buffer) state :=
  controlXmitWith_ops touch fun _ _ => callClose_ops touch allow

/-- A first transmission closes nothing unless no try at all is allowed. -/
theorem sendControl_ops (touch : rules.touched t)
    (fails : env.maxRetries = 0 → rules.destroys) :
    Ops rules env (sendControl env t c body) state :=
  sendControlWith_ops touch fun spent _ => callClose_ops touch (fails spent)

end Xl2tpd
