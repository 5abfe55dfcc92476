import Xl2tpd.Packet
import Xl2tpd.Sim.Control

/-!
# Received packets as actions

A control packet with the expected number moves the receive counter. What else it
does depends on its flags, its size and its AVPs.
-/

namespace Xl2tpd

set_option autoImplicit false

open Program

variable {assume : Assume} {env : Env} {allowed : Action → Prop} {state : Daemon}
  {t : TunnelRef} {c : CallId} {buffer : RecvBuf} {datagram : Datagram} {tunnel : Tunnel}
  {after : Daemon} {call : Call}

/-! ## The checks -/

def RecvBuf.sized (buffer : RecvBuf) : Bool :=
  controlHdrSize ≤ buffer.len && buffer.len = buffer.controlHdr.length.toNat

/-- The packet passes the checks in front of the counter, and is the next one. -/
def RecvBuf.expected (buffer : RecvBuf) (tunnel : Tunnel) : Bool :=
  buffer.sized && buffer.controlHdr.Ns = tunnel.controlRecSeqNum

def Daemon.received (state : Daemon) (buffer : RecvBuf) (t : TunnelRef) (c : CallId) : Daemon :=
  (state.setTunnel t fun tunnel =>
    { tunnel with
      controlRecSeqNum := tunnel.controlRecSeqNum + 1
      cLr := buffer.controlHdr.Nr.toNat }).setCall t c fun call => { call with cnu := true }

theorem received_view : (state.received buffer t c).view =
    (Action.move t (.miscount buffer.controlHdr.Nr)).apply state.view := by
  have counted : (state.setTunnel t fun tunnel =>
      { tunnel with
        controlRecSeqNum := tunnel.controlRecSeqNum + 1
        cLr := buffer.controlHdr.Nr.toNat }).view =
      (Action.move t (.miscount buffer.controlHdr.Nr)).apply state.view :=
    view_setTunnel fun _ => rfl
  unfold Daemon.received
  rw [← counted]
  exact view_setTunnel_same fun _ => core_setCall_same fun _ => rfl

theorem checkControl_expected (found : state.tunnel? t = some tunnel)
    (foundCall : tunnel.call? c = some call) (next : buffer.expected tunnel = true) :
    checkControl buffer t c state =
      .ok (controlFlags buffer.controlHdr.ver) (state.received buffer t c) := by
  simp only [RecvBuf.expected, RecvBuf.sized, Bool.and_eq_true, decide_eq_true_eq] at next
  obtain ⟨⟨enough, fits⟩, same⟩ := next
  have foundCounted : (state.setTunnel t fun tunnel =>
      { tunnel with
        controlRecSeqNum := tunnel.controlRecSeqNum + 1
        cLr := buffer.controlHdr.Nr.toNat }).call? t c = some call := by
    refine some_call ((tunnel_setTunnel (by intro _; rfl)).trans (congrArg _ found)) ?_
    cases c with
    | self => exact foundCall
    | call ref => exact foundCall
  unfold checkControl
  rw [if_neg (Nat.not_lt.mpr enough), if_neg (not_not.mpr fits), bind_run (readTunnel_run found),
    if_neg (not_not.mpr same), bind_run (writeTunnel_run found),
    bind_run (writeCall_run foundCounted)]
  rfl

/-- A first packet that is ahead of its turn ends the tunnel it opened. -/
def RecvBuf.strays (buffer : RecvBuf) (tunnel : Tunnel) : Bool :=
  !alreadySeen buffer.controlHdr.Ns tunnel.controlRecSeqNum && tunnel.controlRecSeqNum = 0 &&
    tunnel.tid = -1

theorem outOfOrder_sim (permits : Permits [.send] allowed)
    (stray : ∀ tunnel, state.tunnel? t = some tunnel → buffer.strays tunnel = true →
      allowed (.move t (.call c .release))) :
    Sim assume env allowed (outOfOrder buffer t c) state := by
  refine sim_readTunnel fun tunnel found => sim_ite (fun _ => ?_) fun ahead => ?_
  · exact sim_whenever fun _ => controlZlb_sim permits
  · refine sim_whenever fun first => sim_release (stray tunnel found ?_)
    simp only [RecvBuf.strays, Bool.and_eq_true, Bool.not_eq_true', decide_eq_true_eq] at first ⊢
    exact ⟨⟨by simpa using ahead, first.1⟩, first.2⟩

theorem checkControl_unexpected (c : CallId) (found : state.tunnel? t = some tunnel)
    (other : buffer.expected tunnel = false) :
    checkControl buffer t c state = .ok false state ∨
      checkControl buffer t c state =
        (outOfOrder buffer t c >>= fun _ => pure false) state := by
  unfold checkControl
  by_cases short : buffer.len < controlHdrSize
  · left
    rw [if_pos short]
    rfl
  by_cases fits : buffer.len = buffer.controlHdr.length.toNat
  · right
    have apart : buffer.controlHdr.Ns ≠ tunnel.controlRecSeqNum := by
      intro same
      simp [RecvBuf.expected, RecvBuf.sized, fits, same] at other
      omega
    rw [if_neg short, if_neg (not_not.mpr fits), bind_run (readTunnel_run found), if_pos apart]
  · left
    rw [if_neg short, if_pos fits]
    rfl

/-! ## ZLBs -/

theorem handleZlb_run (found : state.tunnel? t = some tunnel)
    (foundCall : tunnel.call? c = some call) :
    ∃ after, handleZlb t c state = .ok () after ∧
      after.view = (state.view.setTunnel t fun core =>
        { core with controlRecSeqNum := core.controlRecSeqNum - 1 }).setTunnel t fun core =>
          core.setCall c fun call => call.acked tunnel.cLr := by
  have foundBack : (state.setTunnel t fun tunnel =>
      { tunnel with controlRecSeqNum := tunnel.controlRecSeqNum - 1 }).tunnel? t =
      some { tunnel with controlRecSeqNum := tunnel.controlRecSeqNum - 1 } :=
    (tunnel_setTunnel (by intro _; rfl)).trans (congrArg _ found)
  have foundCallBack : ({ tunnel with controlRecSeqNum :=
      tunnel.controlRecSeqNum - 1 } : Tunnel).call? c = some call := by
    cases c with
    | self => exact foundCall
    | call ref => exact foundCall
  unfold handleZlb
  rw [bind_run (writeTunnel_run found), bind_run (readTunnel_run foundBack)]
  refine ⟨_, writeCall_run (some_call foundBack foundCallBack), ?_⟩
  have back : (state.setTunnel t fun tunnel =>
      { tunnel with controlRecSeqNum := tunnel.controlRecSeqNum - 1 }).view =
      state.view.setTunnel t fun core =>
        { core with controlRecSeqNum := core.controlRecSeqNum - 1 } := view_setTunnel fun _ => rfl
  rw [← back]
  exact view_setTunnel fun _ => core_setCall fun _ => rfl

theorem TunnelCore.zlb_cancels (core : TunnelCore) (c : CallId) (nr : UInt16) :
    ({ (Move.call c (.msgtype none)).apply ((Move.miscount nr).apply core) with
        controlRecSeqNum := ((Move.call c (.msgtype none)).apply
          ((Move.miscount nr).apply core)).controlRecSeqNum - 1 } : TunnelCore).setCall c
        (fun call => call.acked nr.toNat) =
      (Move.call c (.msgtype none)).apply ((Move.acked c nr).apply core) := by
  cases c with
  | self =>
    simp only [Move.apply, TunnelCore.setCall, UInt16.add_sub_cancel]
    rfl
  | call ref =>
    simp only [Move.apply, TunnelCore.setCall, UInt16.add_sub_cancel]
    rw [Keyed.update_update fun call => CallMove.apply_ref _ call,
      Keyed.update_update (by intro _; rfl)]
    rfl

theorem received_found (buffer : RecvBuf) (found : state.tunnel? t = some tunnel)
    (foundCall : tunnel.call? c = some call) :
    ∃ now nowCall, (state.received buffer t c).tunnel? t = some now ∧
      now.call? c = some nowCall ∧ now.cLr = buffer.controlHdr.Nr.toNat := by
  have foundCounted : (state.setTunnel t fun tunnel =>
      { tunnel with
        controlRecSeqNum := tunnel.controlRecSeqNum + 1
        cLr := buffer.controlHdr.Nr.toNat }).tunnel? t =
      some { tunnel with
        controlRecSeqNum := tunnel.controlRecSeqNum + 1
        cLr := buffer.controlHdr.Nr.toNat } :=
    (tunnel_setTunnel (by intro _; rfl)).trans (congrArg _ found)
  refine ⟨_, { call with cnu := true }, tunnel_setCall foundCounted, ?_, ?_⟩
  · rw [Tunnel.call_setCall (by intro _; rfl)]
    cases c <;> exact congrArg _ foundCall
  · cases c <;> rfl

theorem handleZlb_received (buffer : RecvBuf) (found : state.tunnel? t = some tunnel)
    (foundCall : tunnel.call? c = some call) :
    ∃ after, handleZlb t c ((state.received buffer t c).setCall t c fun call =>
        { call with msgtype := none }) = .ok () after ∧
      after.view = (Action.move t (.call c (.msgtype none))).apply
        ((Action.move t (.acked c buffer.controlHdr.Nr)).apply state.view) := by
  obtain ⟨now, nowCall, foundNow, foundNowCall, acked⟩ := received_found buffer found foundCall
  have foundTyped : ((state.received buffer t c).setCall t c fun call =>
      { call with msgtype := none }).tunnel? t =
      some (now.setCall c fun call => { call with msgtype := none }) := tunnel_setCall foundNow
  have foundTypedCall : (now.setCall c fun call => { call with msgtype := none }).call? c =
      some { nowCall with msgtype := none } := by
    rw [Tunnel.call_setCall (by intro _; rfl), foundNowCall]
    rfl
  have sameAcked : (now.setCall c fun call => { call with msgtype := none }).cLr =
      buffer.controlHdr.Nr.toNat := by
    rw [← acked]
    cases c <;> rfl
  obtain ⟨after, ran, view⟩ := handleZlb_run foundTyped foundTypedCall
  refine ⟨after, ran, ?_⟩
  rw [view, sameAcked, view_setCall (.msgtype none) (by intro _; rfl), received_view]
  simp only [Action.apply]
  repeat rw [View.setTunnel_setTunnel (by intro core; cases c <;> rfl)]
  congr 1
  funext core
  exact core.zlb_cancels c buffer.controlHdr.Nr

/-! ## Messages -/

/-- What a control packet may do to the counter and the flags, by what it is. -/
structure Delivers (allowed : Action → Prop) (buffer : RecvBuf) (t : TunnelRef) (c : CallId)
    (tunnel : Tunnel) : Prop where
  stray : buffer.expected tunnel = false → buffer.strays tunnel = true →
    allowed (.move t (.call c .release))
  miscount : buffer.expected tunnel = true → controlFlags buffer.controlHdr.ver = false →
    allowed (.move t (.miscount buffer.controlHdr.Nr))
  acked : buffer.expected tunnel = true → controlFlags buffer.controlHdr.ver = true →
    buffer.len = controlHdrSize → allowed (.move t (.acked c buffer.controlHdr.Nr))
  accept : buffer.expected tunnel = true → controlFlags buffer.controlHdr.ver = true →
    buffer.len ≠ controlHdrSize → allowed (.accept t buffer.controlHdr buffer.body)

def Daemon.accepting (state : Daemon) (buffer : RecvBuf) (t : TunnelRef) (c : CallId) : Daemon :=
  ((state.received buffer t c).setCall t c fun call => { call with msgtype := none }).emit
    (.accepted t buffer.body)

theorem accepting_view : (state.accepting buffer t c).view =
    (Action.move t (.call c (.msgtype none))).apply
      ((Action.accept t buffer.controlHdr buffer.body).apply state.view) := by
  unfold Daemon.accepting
  rw [view_emit, view_setCall (.msgtype none) (by intro _; rfl), received_view]
  rfl

theorem accepting_untyped {core : TunnelCore} {call : CallCore}
    (found : (state.accepting buffer t c).view.tunnel? t = some core)
    (foundCall : core.call? c = some call) : call.msgtype = none := by
  rw [accepting_view] at found
  simp only [Action.apply] at found
  rw [View.tunnel_setTunnel_same (Move.apply_ref _)] at found
  obtain ⟨before, _, rfl⟩ := Option.map_eq_some_iff.mp found
  simp only [Move.apply] at foundCall
  rw [TunnelCore.call_setCall (CallMove.apply_ref _), if_pos rfl] at foundCall
  obtain ⟨_, _, rfl⟩ := Option.map_eq_some_iff.mp foundCall
  rfl

theorem accepting_vetted : (state.accepting buffer t c).view.vetted t c := by
  constructor
  · intro core call type found foundCall typed
    rw [accepting_untyped found foundCall] at typed
    cases typed
  · intro core call found foundCall typed
    rw [accepting_untyped found foundCall] at typed
    cases typed

theorem accepting_lapses : (state.accepting buffer t c).view.lapses = state.view.lapses := by
  have logged : (state.accepting buffer t c).view.trace =
      state.view.trace ++ [.accepted t buffer.body] := rfl
  unfold View.lapses
  rw [logged, List.countP_append]
  rfl

section Screen

variable {tunnel : Tunnel} {call : Call}

theorem screenControl_miscounted (found : state.tunnel? t = some tunnel)
    (foundCall : tunnel.call? c = some call) (next : buffer.expected tunnel = true)
    (bad : controlFlags buffer.controlHdr.ver = false) :
    screenControl env buffer t c state = .ok (.done false) (state.received buffer t c) := by
  unfold screenControl
  rw [bind_run (checkControl_expected found foundCall next), bad]
  rfl

theorem screenControl_zlb (env : Env) (found : state.tunnel? t = some tunnel)
    (foundCall : tunnel.call? c = some call) (next : buffer.expected tunnel = true)
    (good : controlFlags buffer.controlHdr.ver = true) (empty : buffer.len = controlHdrSize) :
    ∃ after, screenControl env buffer t c state = .ok (.done true) after ∧
      after.view = (Action.move t (.call c (.msgtype none))).apply
        ((Action.move t (.acked c buffer.controlHdr.Nr)).apply state.view) := by
  obtain ⟨now, nowCall, foundNow, foundNowCall, _⟩ := received_found buffer found foundCall
  obtain ⟨after, ran, view⟩ := handleZlb_received buffer found foundCall
  refine ⟨after, ?_, view⟩
  unfold screenControl
  rw [bind_run (checkControl_expected found foundCall next), good]
  simp only [Bool.not_true, Bool.false_eq_true, if_false]
  rw [bind_run (writeCall_run (some_call foundNow foundNowCall)), if_pos empty, bind_run ran]
  rfl

theorem screenControl_message (found : state.tunnel? t = some tunnel)
    (foundCall : tunnel.call? c = some call) (next : buffer.expected tunnel = true)
    (good : controlFlags buffer.controlHdr.ver = true) (more : buffer.len ≠ controlHdrSize) :
    screenControl env buffer t c state =
      (handleAvps env t c buffer >>= fun handled =>
        pure (if handled then .finish else .done false)) (state.accepting buffer t c) := by
  obtain ⟨now, nowCall, foundNow, foundNowCall, _⟩ := received_found buffer found foundCall
  unfold screenControl
  rw [bind_run (checkControl_expected found foundCall next), good]
  simp only [Bool.not_true, Bool.false_eq_true, if_false]
  rw [bind_run (writeCall_run (some_call foundNow foundNowCall)), if_neg more]
  rfl

theorem screenControl_unexpected (env : Env) (c : CallId) (found : state.tunnel? t = some tunnel)
    (other : buffer.expected tunnel = false) :
    screenControl env buffer t c state = .ok (.done false) state ∨
      screenControl env buffer t c state =
        (outOfOrder buffer t c >>= fun _ => pure (.done false)) state := by
  unfold screenControl
  rcases checkControl_unexpected (c := c) found other with skipped | dropped
  · left
    rw [bind_run skipped]
    rfl
  · right
    rw [bind_apply, dropped, bind_apply, bind_apply]
    cases outOfOrder buffer t c state <;> rfl

def screenEffects : List Effect := [.send, .mark, .name, .msgtype, .call]

theorem screenControl_sim (found : state.tunnel? t = some tunnel)
    (foundCall : tunnel.call? c = some call) (allows : Allows env screenEffects allowed)
    (delivers : Delivers allowed buffer t c tunnel) (clean : assume.admitted →
      (final (screenControl env buffer t c state)).view.lapses = state.view.lapses) :
    Sim assume env allowed (screenControl env buffer t c) state := by
  have clears : allowed (.move t (.call c (.msgtype none))) :=
    allows.on _ (by simp [Action.effect, Move.effect, CallMove.effect, screenEffects])
  have typed : ∀ (view : View) core, view.tunnel? t = some core →
      Acts assume env allowed view ((Action.move t (.call c (.msgtype none))).apply view) :=
    fun view core foundCore => .act _ clears ⟨core, foundCore, trivial⟩
  have foundCore := view_tunnel_some found
  cases next : buffer.expected tunnel with
  | false =>
    have drops : Sim assume env allowed
        (outOfOrder buffer t c >>= fun _ => pure (Screened.done false)) state := by
      refine leads_bind (outOfOrder_sim (allows.on.mono (by decide)) ?_) fun _ _ _ =>
        leads_pure _
      intro same foundSame stray
      rw [found] at foundSame
      cases foundSame
      exact delivers.stray next stray
    unfold Sim Leads at drops ⊢
    rcases screenControl_unexpected env c found next with skipped | dropped
    · rw [skipped]
      exact Relation.ReflTransGen.refl
    · rw [dropped]
      exact drops
  | true =>
    unfold Sim Leads
    cases good : controlFlags buffer.controlHdr.ver with
    | false =>
      rw [screenControl_miscounted found foundCall next good]
      refine Relation.ReflTransGen.single ?_
      rw [show (final (EStateM.Result.ok _ (state.received buffer t c))).view = _ from
        received_view]
      exact .act _ (delivers.miscount next good) ⟨_, foundCore, trivial⟩
    | true =>
      by_cases empty : buffer.len = controlHdrSize
      · obtain ⟨after, ran, view⟩ := screenControl_zlb env found foundCall next good empty
        rw [ran, show (final (EStateM.Result.ok _ after)).view = _ from view]
        have foundAcked : ((Action.move t (.acked c buffer.controlHdr.Nr)).apply
            state.view).tunnel? t = some _ :=
          (View.tunnel_setTunnel_same (Move.apply_ref _)).trans (congrArg _ foundCore)
        exact (Relation.ReflTransGen.single (.act _
          (delivers.acked next good empty) ⟨_, foundCore, trivial⟩)).tail
          (typed _ _ foundAcked)
      · rw [screenControl_message found foundCall next good empty] at clean ⊢
        have taken := delivers.accept next good empty
        have nextNs : buffer.controlHdr.Ns = tunnel.core.controlRecSeqNum := by
          simp only [RecvBuf.expected, Bool.and_eq_true, decide_eq_true_eq] at next
          exact next.2
        have foundTaken : ((Action.accept t buffer.controlHdr buffer.body).apply
            state.view).tunnel? t = some _ :=
          (View.tunnel_setTunnel_same (Move.apply_ref _)).trans (congrArg _ foundCore)
        have avps : Sim assume env allowed (handleAvps env t c buffer >>= fun handled =>
            pure (if handled then Screened.finish else .done false))
            (state.accepting buffer t c) := by
          refine leads_bind (handleAvps_sim (allows.on.mono (by decide))
            (fun _ => accepting_vetted) fun assumed => ?_) fun _ _ _ => leads_pure _
          have whole := clean assumed
          rw [bind_apply] at whole
          rw [accepting_lapses]
          cases ran : handleAvps env t c buffer (state.accepting buffer t c) with
          | ok handled after =>
            rw [ran] at whole
            exact whole
          | error fault after =>
            rw [ran] at whole
            exact whole
        unfold Sim Leads at avps
        refine Relation.ReflTransGen.trans ?_ avps
        rw [accepting_view]
        exact (Relation.ReflTransGen.single (.act _ taken ⟨_, foundCore, nextNs⟩)).tail
          (typed _ _ foundTaken)

theorem screenControl_finish (found : state.tunnel? t = some tunnel)
    (foundCall : tunnel.call? c = some call)
    (ran : screenControl env buffer t c state = .ok .finish after) :
    controlHdrSize ≤ buffer.len ∧
      handleAvps env t c buffer (state.accepting buffer t c) = .ok true after := by
  cases next : buffer.expected tunnel with
  | false =>
    rcases screenControl_unexpected env c found next with skipped | dropped
    · rw [skipped] at ran
      cases ran
    · rw [dropped] at ran
      obtain ⟨_, _, _, rest⟩ := bind_ok.mp ran
      cases rest
  | true =>
    cases good : controlFlags buffer.controlHdr.ver with
    | false =>
      rw [screenControl_miscounted found foundCall next good] at ran
      cases ran
    | true =>
      by_cases empty : buffer.len = controlHdrSize
      · obtain ⟨_, zlb, _⟩ := screenControl_zlb env found foundCall next good empty
        rw [zlb] at ran
        cases ran
      · rw [screenControl_message found foundCall next good empty] at ran
        obtain ⟨handled, _, ranAvps, rest⟩ := bind_ok.mp ran
        simp only [RecvBuf.expected, RecvBuf.sized, Bool.and_eq_true, decide_eq_true_eq] at next
        cases handled with
        | false => cases rest
        | true =>
          cases rest
          exact ⟨next.1.1, ranAvps⟩

theorem screenControl_since {holds : View → Prop} (typical : Typical env t c holds)
    (start : holds (state.accepting buffer t c).view) (found : state.tunnel? t = some tunnel)
    (foundCall : tunnel.call? c = some call)
    (ran : screenControl env buffer t c state = .ok .finish after)
    (clean : after.view.lapses = state.view.lapses) : holds after.view := by
  refine handleAvps_since typical start (screenControl_finish found foundCall ran).2 ?_
  rw [accepting_lapses]
  exact clean

theorem screenControl_vetted (found : state.tunnel? t = some tunnel)
    (foundCall : tunnel.call? c = some call)
    (ran : screenControl env buffer t c state = .ok .finish after)
    (clean : after.view.lapses = state.view.lapses) : after.view.vetted t c :=
  screenControl_since vetted_typical accepting_vetted found foundCall ran clean

def controlEffects : List Effect := .name :: .msgtype :: .finish :: finishEffects

theorem delivers_any : Delivers (fun _ => True) buffer t c tunnel :=
  ⟨fun _ _ => trivial, fun _ _ => trivial, fun _ _ _ => trivial, fun _ _ _ => trivial⟩

theorem allows_any {effects : List Effect} : Allows env effects fun _ => True :=
  ⟨fun _ _ => trivial, fun _ _ _ => trivial⟩

theorem clean_bind {Value Other : Type} {program : Prog Value} {next : Value → Prog Other}
    (first : Sim .none env (fun _ => True) program state)
    (rest : ∀ value after, program state = .ok value after →
      Sim .none env (fun _ => True) (next value) after)
    (clean : (final ((program >>= next) state)).view.lapses = state.view.lapses) :
    (final (program state)).view.lapses = state.view.lapses ∧
      ∀ value after, program state = .ok value after →
        (final (next value after)).view.lapses = after.view.lapses := by
  have early := acts_lapses_le first
  rw [bind_apply] at clean
  cases ran : program state with
  | error fault after =>
    rw [ran] at clean
    exact ⟨clean, fun _ _ returned => by cases returned⟩
  | ok value after =>
    rw [ran] at clean early
    have late := acts_lapses_le (rest value after ran)
    have whole : (final (next value after)).view.lapses = state.view.lapses := clean
    have kept : after.view.lapses = state.view.lapses :=
      Nat.le_antisymm (late.trans (Nat.le_of_eq whole)) early
    refine ⟨kept, fun _ _ returned => ?_⟩
    cases returned
    exact whole.trans kept.symm

theorem screenControl_any (found : state.tunnel? t = some tunnel)
    (foundCall : tunnel.call? c = some call) :
    Sim .none env (fun _ => True) (screenControl env buffer t c) state :=
  screenControl_sim found foundCall allows_any delivers_any fun impossible => impossible.elim

theorem controlFinish_any : Sim .none env (fun _ => True) (controlFinish env t c) state :=
  controlFinish_sim allows_any fun impossible => impossible.elim

theorem screenControl_clean (found : state.tunnel? t = some tunnel)
    (foundCall : tunnel.call? c = some call)
    (clean : (final (handleControl env buffer t c state)).view.lapses = state.view.lapses) :
    (final (screenControl env buffer t c state)).view.lapses = state.view.lapses := by
  refine (clean_bind (screenControl_any found foundCall) ?_ clean).1
  intro screened after _
  cases screened with
  | done success => exact leads_pure _
  | finish => exact controlFinish_any

theorem handleControl_sim (found : state.tunnel? t = some tunnel)
    (foundCall : tunnel.call? c = some call) (allows : Allows env controlEffects allowed)
    (delivers : Delivers allowed buffer t c tunnel) (clean : assume.admitted →
      (final (handleControl env buffer t c state)).view.lapses = state.view.lapses) :
    Sim assume env allowed (handleControl env buffer t c) state := by
  refine leads_bind (screenControl_sim found foundCall (allows.mono (by decide)) delivers
    fun assumed => screenControl_clean found foundCall (clean assumed)) fun screened after ran => ?_
  cases screened with
  | done success => exact leads_pure _
  | finish =>
    refine controlFinish_sim (allows.mono (by decide)) fun assumed => ?_
    have screenedClean := screenControl_clean found foundCall (clean assumed)
    rw [ran] at screenedClean
    exact screenControl_vetted found foundCall ran screenedClean

/-! ## Packets for missing calls -/

/-- The same for a packet whose call the tunnel does not have: a ZLB is counted like
a message and dropped. -/
structure Misdelivers (allowed : Action → Prop) (buffer : RecvBuf) (t : TunnelRef)
    (tunnel : Tunnel) : Prop where
  stray : buffer.expected tunnel = false → buffer.strays tunnel = true →
    allowed (.move t (.call .self .release))
  miscount : buffer.expected tunnel = true →
    controlFlags buffer.controlHdr.ver = false ∨ buffer.len = controlHdrSize →
    allowed (.move t (.miscount buffer.controlHdr.Nr))
  accept : buffer.expected tunnel = true → controlFlags buffer.controlHdr.ver = true →
    buffer.len ≠ controlHdrSize → allowed (.accept t buffer.controlHdr buffer.body)

theorem misdelivers_any : Misdelivers (fun _ => True) buffer t tunnel :=
  ⟨fun _ _ => trivial, fun _ _ => trivial, fun _ _ _ => trivial⟩

theorem answerSpecial_sim (found : state.tunnel? t = some tunnel)
    (permits : Permits [.send] allowed) (misdelivers : Misdelivers allowed buffer t tunnel) :
    Sim assume env allowed (answerSpecial buffer t) state := by
  have foundCore := view_tunnel_some found
  cases next : buffer.expected tunnel with
  | false =>
    rcases checkControl_unexpected .self found next with skipped | dropped
    · unfold Sim Leads answerSpecial
      rw [bind_run skipped]
      exact Relation.ReflTransGen.refl
    · have drops : Sim assume env allowed
          (outOfOrder buffer t .self >>= fun _ => pure false) state := by
        refine leads_bind (outOfOrder_sim permits ?_) fun _ _ _ => leads_pure _
        intro same foundSame stray
        rw [found] at foundSame
        cases foundSame
        exact misdelivers.stray next stray
      refine leads_bind ?_ fun good after ran => ?_
      · unfold Leads at drops ⊢
        rw [dropped]
        exact drops
      · rw [dropped] at ran
        obtain ⟨_, _, _, returned⟩ := bind_ok.mp ran
        cases returned
        exact leads_pure _
  | true =>
    have foundSelf : tunnel.call? .self = some tunnel.self := rfl
    unfold Sim Leads answerSpecial
    rw [bind_run (checkControl_expected found foundSelf next)]
    by_cases taken : controlFlags buffer.controlHdr.ver = true ∧ buffer.len ≠ controlHdrSize
    · have nextNs : buffer.controlHdr.Ns = tunnel.core.controlRecSeqNum := by
        simp only [RecvBuf.expected, Bool.and_eq_true, decide_eq_true_eq] at next
        exact next.2
      have logged : ((state.received buffer t .self).emit (.accepted t buffer.body)).view =
          (Action.accept t buffer.controlHdr buffer.body).apply state.view := by
        rw [view_emit, received_view]
        rfl
      have answers : Sim assume env allowed (controlZlb t .self)
          ((state.received buffer t .self).emit (.accepted t buffer.body)) := controlZlb_sim permits
      have condition : (controlFlags buffer.controlHdr.ver &&
          decide (buffer.len ≠ controlHdrSize)) = true := by simp [taken]
      rw [condition]
      refine Relation.ReflTransGen.head ?_ answers
      rw [logged]
      exact .act _ (misdelivers.accept next taken.1 taken.2) ⟨_, foundCore, nextNs⟩
    · have condition : (controlFlags buffer.controlHdr.ver &&
          decide (buffer.len ≠ controlHdrSize)) = false := by
        simpa [Decidable.imp_iff_not_or] using taken
      rw [condition]
      refine Relation.ReflTransGen.single ?_
      rw [show (final (whenever false _ (state.received buffer t .self))).view = _ from
        received_view]
      refine .act _ (misdelivers.miscount next ?_) ⟨_, foundCore, trivial⟩
      by_contra neither
      rw [not_or] at neither
      exact taken ⟨by simpa using neither.1, neither.2⟩

theorem handleSpecial_sim {number : UInt16} (found : state.tunnel? t = some tunnel)
    (permits : Permits [.send] allowed) (misdelivers : ctbit (hostWord buffer.bytes 0) = true →
      Misdelivers allowed buffer t tunnel) :
    Sim assume env allowed (handleSpecial buffer t number) state := by
  refine sim_whenever fun control => ?_
  have foundSelf : state.call? t .self = some tunnel.self := some_call found rfl
  refine leads_bind (sim_storeCall fun _ => rfl) fun _ after ran => ?_
  rw [writeCall_run foundSelf] at ran
  cases ran
  have foundNumbered : (state.setCall t .self fun self =>
      { self with cid := number.toNat }).tunnel? t = some _ := tunnel_setCall found
  refine leads_bind (answerSpecial_sim foundNumbered permits ?_) fun _ _ _ =>
    sim_storeCall fun _ => rfl
  have misdelivers := misdelivers control
  exact ⟨misdelivers.stray, misdelivers.miscount, misdelivers.accept⟩

/-! ## Payload -/

theorem writePacket_sim {header : ExpandedHdr} (permits : Permits [.mark] allowed) :
    Sim assume env allowed (writePacket env t c buffer header) state := by
  refine sim_readCall fun _ _ => sim_whenever fun _ => ?_
  dsimp only
  cases framePayload buffer header with
  | overrun => exact leads_throw _
  | invalid => exact sim_storeCall fun _ => rfl
  | frame octets =>
    refine leads_bind (sim_storeCall fun _ => rfl) fun _ _ _ => ?_
    refine leads_bind askSystem_sim fun written _ _ => ?_
    cases written with
    | true => exact sim_emit rfl
    | false =>
      refine sim_mark (permits _ ?_) fun _ => rfl
      simp [Action.effect, Move.effect, CallMove.effect]

theorem expandPayload_sim : Sim assume env allowed (expandPayload buffer t c) state := by
  refine sim_readCall fun call _ => ?_
  dsimp only
  cases payloadSequence (expandHdr buffer call).Ns call with
  | none => exact leads_pure _
  | some next => exact leads_bind (sim_storeCall fun _ => rfl) fun _ _ _ => leads_pure _

theorem handlePayload_sim (permits : Permits [.mark] allowed) :
    Sim assume env allowed (handlePayload env buffer t c) state := by
  refine sim_whenever fun _ => leads_bind expandPayload_sim fun header _ _ => ?_
  cases header with
  | none => exact leads_pure _
  | some header =>
    exact sim_ite (fun _ => writePacket_sim permits) fun _ =>
      sim_whenever fun _ => sim_storeCall fun _ => rfl

/-! ## Datagrams -/

theorem acknowledge_sim (permits : Permits [.send] allowed) :
    Sim assume env allowed (acknowledge t c) state := by
  refine sim_readCall fun _ _ => sim_whenever fun _ => ?_
  exact leads_bind (controlZlb_sim permits) fun _ _ _ => sim_storeCall fun _ => rfl

theorem handlePacket_sim (found : state.tunnel? t = some tunnel)
    (foundCall : tunnel.call? c = some call) (allows : Allows env controlEffects allowed)
    (delivers : ctbit (hostWord buffer.bytes 0) = true → Delivers allowed buffer t c tunnel)
    (clean : assume.admitted →
      (final (handlePacket env buffer t c state)).view.lapses = state.view.lapses) :
    Sim assume env allowed (handlePacket env buffer t c) state := by
  unfold handlePacket at clean ⊢
  by_cases control : ctbit (hostWord buffer.bytes 0) = true
  · rw [if_pos control] at clean ⊢
    refine leads_bind (handleControl_sim found foundCall allows (delivers control) ?_)
      fun _ _ _ => leads_pure _
    intro assumed
    refine (clean_bind (handleControl_sim found foundCall allows_any delivers_any
      fun impossible => impossible.elim) (fun _ _ _ => leads_pure _) (clean assumed)).1
  · rw [if_neg control]
    exact handlePayload_sim (allows.on.mono (by decide))

def Daemon.delivering (state : Daemon) (t : TunnelRef) : Daemon :=
  state.setTunnel t fun tunnel => { tunnel with chalUs := { tunnel.chalUs with vector := none } }

theorem delivering_view : (state.delivering t).view = state.view :=
  view_setTunnel_same fun _ => rfl

section

variable (found : state.tunnel? t = some tunnel) (foundCall : tunnel.call? c = some call)

include found foundCall

theorem delivering_found :
    ∃ opened, (state.delivering t).tunnel? t = some opened ∧ opened.call? c = some call ∧
      ∀ {allowed : Action → Prop} {buffer : RecvBuf}, Delivers allowed buffer t c tunnel →
        Delivers allowed buffer t c opened := by
  refine ⟨{ tunnel with chalUs := { tunnel.chalUs with vector := none } },
    (tunnel_setTunnel (by intro _; rfl)).trans (congrArg _ found), ?_, ?_⟩
  · cases c <;> exact foundCall
  · exact fun delivers => ⟨delivers.stray, delivers.miscount, delivers.acked, delivers.accept⟩

theorem deliver_run :
    deliver env buffer t c state =
      (handlePacket env buffer t c >>= fun _ => acknowledge t c) (state.delivering t) := by
  unfold deliver
  rw [bind_run (readCall_run (some_call found foundCall)), bind_run (writeTunnel_run found)]
  rfl

theorem handlePacket_any : Sim .none env (fun _ => True) (handlePacket env buffer t c) state :=
  handlePacket_sim found foundCall allows_any (fun _ => delivers_any)
    fun impossible => impossible.elim

end

theorem deliver_sim (allows : Allows env controlEffects allowed)
    (delivers : ∀ tunnel, state.tunnel? t = some tunnel →
      ctbit (hostWord buffer.bytes 0) = true → Delivers allowed buffer t c tunnel)
    (clean : assume.admitted →
      (final (deliver env buffer t c state)).view.lapses = state.view.lapses) :
    Sim assume env allowed (deliver env buffer t c) state := by
  cases foundBoth : state.call? t c with
  | none =>
    have stops : deliver env buffer t c state = .error .freed state :=
      bind_stuck (deref_stuck foundBoth)
    unfold Sim Leads
    rw [stops]
    exact Relation.ReflTransGen.refl
  | some call =>
    obtain ⟨tunnel, found, foundCall⟩ := call_some foundBoth
    obtain ⟨opened, foundOpened, foundCallOpened, carries⟩ := delivering_found found foundCall
    rw [deliver_run found foundCall, ← delivering_view (t := t)] at clean
    have handled : Sim assume env allowed
        (handlePacket env buffer t c >>= fun _ => acknowledge t c) (state.delivering t) := by
      refine leads_bind (handlePacket_sim foundOpened foundCallOpened allows
        (fun control => carries (delivers tunnel found control)) fun assumed => ?_)
        fun _ _ _ => acknowledge_sim (allows.on.mono (by decide))
      exact (clean_bind (handlePacket_any foundOpened foundCallOpened)
        (fun _ _ _ => acknowledge_sim fun _ _ => trivial) (clean assumed)).1
    unfold Sim Leads at handled ⊢
    rw [deliver_run found foundCall, ← delivering_view (t := t)]
    exact handled

end Screen

def Tunnel.numbered (tunnel : Tunnel) (number : UInt16) : Option (TunnelRef × CallId) :=
  if number ≠ 0 then
    (tunnel.calls.find? fun sc => sc.ourcid = number).map fun sc => (tunnel.ref, .call sc.ref)
  else some (tunnel.ref, .self)

section GetCall

variable {number callNumber : UInt16} {peer : SockAddr} {refme refhim : Nat}

theorem getCall_lookup (known : number ≠ 0) :
    getCall env number callNumber peer refme refhim state =
      .ok ((findTunnel env state number refhim).bind fun st => st.numbered callNumber) state := by
  unfold getCall
  rw [bind_get, if_pos known]
  cases findTunnel env state number refhim with
  | none => rfl
  | some st =>
    simp only [Option.bind_some, Tunnel.numbered]
    split <;> rfl

theorem getCall_strange (known : callNumber ≠ 0) :
    getCall env 0 callNumber peer refme refhim state = .ok none state := by
  unfold getCall
  rw [bind_get, if_neg (by simp), if_pos known]
  rfl

theorem getCall_known (known : ¬ (number = 0 ∧ callNumber = 0)) :
    ∃ found, getCall env number callNumber peer refme refhim state = .ok found state := by
  by_cases zero : number = 0
  · subst zero
    exact ⟨none, getCall_strange fun same => known ⟨rfl, same⟩⟩
  · exact ⟨_, getCall_lookup zero⟩

theorem getCall_search {linked : Daemon} (known : ¬ (number = 0 ∧ callNumber = 0))
    (lookup : getCall env number callNumber peer refme refhim state = .ok (some (t, c)) linked) :
    linked = state ∧ ∃ st, findTunnel env state number refhim = some st ∧
      st.numbered callNumber = some (t, c) := by
  by_cases zero : number = 0
  · subst zero
    rw [getCall_strange fun same => known ⟨rfl, same⟩] at lookup
    cases lookup
  · rw [getCall_lookup zero] at lookup
    injection lookup with value same
    exact ⟨same.symm, Option.bind_eq_some_iff.mp value⟩

theorem numbered_ref (numbered : tunnel.numbered callNumber = some (t, c)) :
    tunnel.ref = t := by
  unfold Tunnel.numbered at numbered
  split at numbered
  · obtain ⟨_, _, pair⟩ := Option.map_eq_some_iff.mp numbered
    cases pair
    rfl
  · cases numbered
    rfl

theorem getCall_sim (permits : Permits [.dial] allowed) :
    Sim assume env allowed (getCall env number callNumber peer refme refhim) state := by
  unfold Sim Leads
  by_cases opens : number = 0 ∧ callNumber = 0
  · obtain ⟨rfl, rfl⟩ := opens
    obtain ⟨after, ran, view⟩ := getCall_new env peer refme refhim state
    rw [ran, show (final (EStateM.Result.ok _ after)).view = _ from view]
    exact Relation.ReflTransGen.single (.act _ (permits _ (by simp [Action.effect])) rfl)
  · obtain ⟨found, ran⟩ := getCall_known opens
    rw [ran]
    exact Relation.ReflTransGen.refl

theorem getCall_none
    (ran : getCall env number callNumber peer refme refhim state = .ok none after) :
    after = state := by
  by_cases opens : number = 0 ∧ callNumber = 0
  · obtain ⟨rfl, rfl⟩ := opens
    cases ran
  · obtain ⟨found, same⟩ := getCall_known opens
    rw [same] at ran
    cases ran
    rfl

end GetCall

theorem getTunnel_found {number : UInt16} (known : getTunnel state number = some t) :
    ∃ tunnel, state.tunnel? t = some tunnel := by
  unfold getTunnel at known
  split at known
  · cases known
  · obtain ⟨st, found, rfl⟩ := Option.map_eq_some_iff.mp known
    exact Keyed.find_isSome (List.mem_of_find?_eq_some found) rfl

theorem route_sim {found : Option (TunnelRef × CallId)} (allows : Allows env controlEffects allowed)
    (delivers : ∀ t c tunnel, found = some (t, c) →
      state.tunnel? t = some tunnel → ctbit (hostWord datagram.buffer.bytes 0) = true →
      Delivers allowed datagram.buffer t c tunnel)
    (misdelivers : ∀ t tunnel, found = none → getTunnel state datagram.ids.1 = some t →
      state.tunnel? t = some tunnel → ctbit (hostWord datagram.buffer.bytes 0) = true →
      Misdelivers allowed datagram.buffer t tunnel) (clean : assume.admitted →
      (final (route env datagram found state)).view.lapses = state.view.lapses) :
    Sim assume env allowed (route env datagram found) state := by
  rcases found with _ | ⟨t, c⟩
  · refine sim_get ?_
    cases special : getTunnel state datagram.ids.1 with
    | none => exact leads_pure _
    | some t =>
      obtain ⟨tunnel, foundTunnel⟩ := getTunnel_found special
      exact handleSpecial_sim foundTunnel (allows.on.mono (by decide))
        (misdelivers t tunnel rfl special foundTunnel)
  · exact deliver_sim allows (fun tunnel => delivers t c tunnel rfl) clean

theorem route_any {found : Option (TunnelRef × CallId)} :
    Sim .none env (fun _ => True) (route env datagram found) state :=
  route_sim allows_any (fun _ _ _ _ _ _ => delivers_any) (fun _ _ _ _ _ _ => misdelivers_any)
    fun impossible => impossible.elim

theorem receive_sim (allows : Allows env controlEffects allowed)
    (delivers : ∀ after t c tunnel, getCall env datagram.ids.1 datagram.ids.2 datagram.peer
        datagram.refme datagram.refhim state = .ok (some (t, c)) after →
      after.tunnel? t = some tunnel → ctbit (hostWord datagram.buffer.bytes 0) = true →
      Delivers allowed datagram.buffer t c tunnel)
    (misdelivers : ∀ t tunnel, getCall env datagram.ids.1 datagram.ids.2 datagram.peer
        datagram.refme datagram.refhim state = .ok none state →
      getTunnel state datagram.ids.1 = some t → state.tunnel? t = some tunnel →
      ctbit (hostWord datagram.buffer.bytes 0) = true →
      Misdelivers allowed datagram.buffer t tunnel) (clean : assume.admitted →
      (final (receive env datagram state)).view.lapses = state.view.lapses) :
    Sim assume env allowed (receive env datagram) state := by
  unfold receive at clean ⊢
  refine sim_whenever fun long => ?_
  rw [long] at clean
  refine leads_bind (getCall_sim (allows.on.mono (by decide))) fun found after ran => ?_
  refine route_sim allows ?_ ?_ fun assumed => ?_
  · rintro t c tunnel rfl foundTunnel
    exact delivers after t c tunnel ran foundTunnel
  · rintro t tunnel rfl special foundTunnel
    have same := getCall_none ran
    rw [same] at special foundTunnel ran
    exact misdelivers t tunnel ran special foundTunnel
  · exact (clean_bind (getCall_sim fun _ _ => trivial) (fun _ _ _ => route_any)
      (clean assumed)).2 found after ran

/-! ## Invariants that `control_finish` breaks and mends -/

/-- Where and in which state `control_finish` is entered. -/
structure Entered where
  tunnel : TunnelRef
  call : CallId
  state : Daemon

/-- How the message of a datagram gets to `control_finish`, if it does. -/
def entering (env : Env) (datagram : Datagram) (state : Daemon) : Option Entered :=
  if ctbit (hostWord datagram.buffer.bytes 0) then
    match getCall env datagram.ids.1 datagram.ids.2 datagram.peer datagram.refme datagram.refhim
        state with
    | .ok (some (t, c)) linked =>
        match screenControl env datagram.buffer t c (linked.delivering t) with
        | .ok .finish entered => some ⟨t, c, entered⟩
        | _ => none
    | _ => none
  else none

theorem entering_screen {linked entered : Daemon}
    (control : ctbit (hostWord datagram.buffer.bytes 0) = true)
    (lookup : getCall env datagram.ids.1 datagram.ids.2 datagram.peer datagram.refme
      datagram.refhim state = .ok (some (t, c)) linked)
    (screen : screenControl env datagram.buffer t c (linked.delivering t) = .ok .finish entered) :
    entering env datagram state = some ⟨t, c, entered⟩ := by
  unfold entering
  rw [if_pos control, lookup]
  simp only [screen]

theorem screenControl_found (ran : screenControl env buffer t c state = .ok .finish after) :
    ∃ tunnel call, state.tunnel? t = some tunnel ∧ tunnel.call? c = some call := by
  obtain ⟨good, checked, check, rest⟩ := bind_ok.mp ran
  cases good with
  | false => cases rest
  | true =>
    unfold checkControl at check
    split at check
    · cases check
    split at check
    · cases check
    obtain ⟨tunnel, found, check⟩ := ok_readTunnel check
    split at check
    · obtain ⟨_, _, _, returned⟩ := bind_ok.mp check
      cases returned
    obtain ⟨_, _, check⟩ := ok_writeTunnel check
    obtain ⟨counted, call, foundCounted, foundCall, _⟩ := ok_writeCall check
    rw [tunnel_setTunnel (by intro _; rfl), found] at foundCounted
    cases foundCounted
    refine ⟨tunnel, call, found, ?_⟩
    cases c <;> exact foundCall

theorem entering_some {entered : Entered} (enters : entering env datagram state = some entered) :
    ctbit (hostWord datagram.buffer.bytes 0) = true ∧
      ∃ linked tunnel call, getCall env datagram.ids.1 datagram.ids.2 datagram.peer datagram.refme
          datagram.refhim state = .ok (some (entered.tunnel, entered.call)) linked ∧
        linked.tunnel? entered.tunnel = some tunnel ∧ tunnel.call? entered.call = some call ∧
        screenControl env datagram.buffer entered.tunnel entered.call
          (linked.delivering entered.tunnel) = .ok .finish entered.state := by
  unfold entering at enters
  split at enters
  · rename_i control
    split at enters
    · rename_i t c linked lookup
      split at enters
      · rename_i last screen
        cases enters
        obtain ⟨opened, call, foundOpened, foundCall⟩ := screenControl_found screen
        unfold Daemon.delivering at foundOpened
        rw [tunnel_setTunnel (by intro _; rfl)] at foundOpened
        obtain ⟨tunnel, found, rfl⟩ := Option.map_eq_some_iff.mp foundOpened
        refine ⟨control, linked, tunnel, call, lookup, found, ?_, screen⟩
        cases c <;> exact foundCall
      · cases enters
    · cases enters
  · cases enters

theorem receive_entered {entered : Entered} (enters : entering env datagram state = some entered)
    (ran : receive env datagram state = .ok () after) :
    ∃ success middle,
      controlFinish env entered.tunnel entered.call entered.state = .ok success middle ∧
      acknowledge entered.tunnel entered.call middle = .ok () after := by
  obtain ⟨control, linked, tunnel, call, lookup, found, foundCall, screen⟩ := entering_some enters
  obtain ⟨opened, foundOpened, foundCallOpened, _⟩ := delivering_found found foundCall
  have long : minPayloadHdrLen ≤ datagram.bytes.length :=
    le_trans (by decide) (screenControl_finish foundOpened foundCallOpened screen).1
  unfold receive at ran
  rw [decide_eq_true long] at ran
  have routed : (getCall env datagram.ids.1 datagram.ids.2 datagram.peer datagram.refme
    datagram.refhim >>= route env datagram) state = .ok () after := ran
  rw [bind_run lookup] at routed
  obtain ⟨_, _, _, _, routed⟩ := ok_readCall routed
  obtain ⟨_, _, routed⟩ := ok_writeTunnel routed
  obtain ⟨_, handled, handle, acks⟩ := bind_ok.mp routed
  unfold handlePacket at handle
  rw [if_pos control] at handle
  obtain ⟨success, _, handle, returned⟩ := bind_ok.mp handle
  cases returned
  obtain ⟨screened, _, screenSame, finish⟩ := bind_ok.mp handle
  have same := screen.symm.trans screenSame
  cases same
  exact ⟨success, handled, finish, acks⟩

theorem entering_clean {linked : Daemon} {entered : Daemon}
    (control : ctbit (hostWord datagram.buffer.bytes 0) = true)
    (lookup : getCall env datagram.ids.1 datagram.ids.2 datagram.peer datagram.refme
        datagram.refhim state = .ok (some (t, c)) linked) (found : linked.tunnel? t = some tunnel)
    (foundCall : tunnel.call? c = some call)
    (screen : screenControl env datagram.buffer t c (linked.delivering t) = .ok .finish entered)
    (clean : (final (receive env datagram state)).view.lapses = state.view.lapses) :
    entered.view.lapses = (linked.delivering t).view.lapses := by
  obtain ⟨opened, foundOpened, foundCallOpened, _⟩ := delivering_found found foundCall
  have long : minPayloadHdrLen ≤ datagram.bytes.length :=
    le_trans (by decide) (screenControl_finish foundOpened foundCallOpened screen).1
  unfold receive at clean
  rw [decide_eq_true long] at clean
  have routed := (clean_bind (getCall_sim fun _ _ => trivial) (fun _ _ _ => route_any)
    clean).2 _ linked lookup
  have delivered : (final (deliver env datagram.buffer t c linked)).view.lapses =
    linked.view.lapses := routed
  rw [deliver_run found foundCall, ← delivering_view (t := t)] at delivered
  have handled := (clean_bind (handlePacket_any foundOpened foundCallOpened)
    (fun _ _ _ => acknowledge_sim fun _ _ => trivial) delivered).1
  unfold handlePacket at handled
  rw [if_pos control] at handled
  have ruled := (clean_bind (handleControl_sim foundOpened foundCallOpened allows_any delivers_any
    fun impossible => impossible.elim) (fun _ _ _ => leads_pure _) handled).1
  have screened := screenControl_clean foundOpened foundCallOpened ruled
  rw [screen] at screened
  exact screened

section Keeps

variable {invariant : View → Prop} {after : Daemon}

theorem handleControl_keeps {success : Bool} (found : state.tunnel? t = some tunnel)
    (foundCall : tunnel.call? c = some call)
    (keeps : ∀ before after, Acts assume env allowed before after →
      invariant before → invariant after) (allows : Allows env screenEffects allowed)
    (delivers : Delivers allowed buffer t c tunnel)
    (clean : assume.admitted → after.view.lapses = state.view.lapses)
    (finishes : ∀ entered, screenControl env buffer t c state = .ok .finish entered →
      invariant entered.view → (assume.admitted → entered.view.vetted t c) →
      ∀ success after, controlFinish env t c entered = .ok success after → invariant after.view)
    (start : invariant state.view) (ran : handleControl env buffer t c state = .ok success after) :
    invariant after.view := by
  have screenClean : assume.admitted →
      (final (screenControl env buffer t c state)).view.lapses = state.view.lapses := by
    intro assumed
    refine screenControl_clean found foundCall ?_
    rw [ran]
    exact clean assumed
  obtain ⟨screened, entered, screen, rest⟩ := bind_ok.mp ran
  have kept : invariant entered.view :=
    leads_ok_invariant (screenControl_sim found foundCall allows delivers screenClean) screen
      keeps start
  cases screened with
  | done success =>
    cases rest
    exact kept
  | finish =>
    refine finishes entered screen kept (fun assumed => ?_) success after rest
    have same := screenClean assumed
    rw [screen] at same
    exact screenControl_vetted found foundCall screen same

section

variable
  (keeps : ∀ before after, Acts assume env allowed before after → invariant before → invariant after)

include keeps

theorem deliver_keeps (allows : Allows env screenEffects allowed)
    (delivers : ∀ tunnel, state.tunnel? t = some tunnel →
      ctbit (hostWord buffer.bytes 0) = true → Delivers allowed buffer t c tunnel)
    (clean : assume.admitted → after.view.lapses = state.view.lapses)
    (finishes : ∀ entered, ctbit (hostWord buffer.bytes 0) = true →
      screenControl env buffer t c (state.delivering t) = .ok .finish entered →
      invariant entered.view → (assume.admitted → entered.view.vetted t c) →
      ∀ success after, controlFinish env t c entered = .ok success after → invariant after.view)
    (start : invariant state.view) (ran : deliver env buffer t c state = .ok () after) :
    invariant after.view := by
  obtain ⟨tunnel, call, found, foundCall, _⟩ := ok_readCall ran
  obtain ⟨opened, foundOpened, foundCallOpened, carries⟩ := delivering_found found foundCall
  rw [deliver_run found foundCall] at ran
  rw [← delivering_view (t := t)] at start clean
  obtain ⟨_, handled, packet, acknowledged⟩ := bind_ok.mp ran
  have handledClean : assume.admitted → handled.view.lapses = (state.delivering t).view.lapses := by
    intro assumed
    have parts := clean_bind (handlePacket_any foundOpened foundCallOpened)
      (fun _ _ _ => acknowledge_sim fun _ _ => trivial)
      (show (final ((handlePacket env buffer t c >>= fun _ => acknowledge t c)
        (state.delivering t))).view.lapses = _ by rw [ran]; exact clean assumed)
    rw [packet] at parts
    exact parts.1
  refine leads_ok_invariant (acknowledge_sim (allows.on.mono (by decide))) acknowledged keeps ?_
  unfold handlePacket at packet
  by_cases control : ctbit (hostWord buffer.bytes 0) = true
  · rw [if_pos control] at packet
    obtain ⟨success, _, ranControl, same⟩ := bind_ok.mp packet
    cases same
    exact handleControl_keeps foundOpened foundCallOpened keeps allows
      (carries (delivers tunnel found control)) handledClean
      (fun entered screen => finishes entered control screen) start ranControl
  · rw [if_neg control] at packet
    exact leads_ok_invariant (handlePayload_sim (allows.on.mono (by decide))) packet keeps start

theorem receive_keeps (allows : Allows env (.dial :: screenEffects) allowed)
    (delivers : ∀ after t c tunnel,
      getCall env datagram.ids.1 datagram.ids.2 datagram.peer datagram.refme datagram.refhim state =
        .ok (some (t, c)) after → after.tunnel? t = some tunnel →
      ctbit (hostWord datagram.buffer.bytes 0) = true → Delivers allowed datagram.buffer t c tunnel)
    (misdelivers : ∀ t tunnel, getTunnel state datagram.ids.1 = some t →
      state.tunnel? t = some tunnel → ctbit (hostWord datagram.buffer.bytes 0) = true →
      Misdelivers allowed datagram.buffer t tunnel)
    (clean : assume.admitted → after.view.lapses = state.view.lapses)
    (finishes : ∀ t c entered, entering env datagram state = some ⟨t, c, entered⟩ →
      invariant entered.view → (assume.admitted → entered.view.vetted t c) →
      ∀ success after, controlFinish env t c entered = .ok success after → invariant after.view)
    (start : invariant state.view) (ran : receive env datagram state = .ok () after) :
    invariant after.view := by
  unfold receive at ran
  by_cases long : minPayloadHdrLen ≤ datagram.bytes.length
  · rw [decide_eq_true long] at ran
    obtain ⟨found, linked, lookup, routed⟩ := bind_ok.mp ran
    have opened : invariant linked.view :=
      leads_ok_invariant (getCall_sim (allows.on.mono (by decide))) lookup keeps start
    have linkedClean : assume.admitted → after.view.lapses = linked.view.lapses := by
      intro assumed
      have parts := clean_bind (getCall_sim fun _ _ => trivial)
        (fun _ _ _ => route_any)
        (show (final ((getCall env datagram.ids.1 datagram.ids.2 datagram.peer datagram.refme
          datagram.refhim >>= route env datagram) state)).view.lapses = _ by
            rw [bind_run lookup, routed]; exact clean assumed)
      have rest := parts.2 found linked lookup
      rw [routed] at rest
      exact rest
    rcases found with _ | ⟨t, c⟩
    · have same := getCall_none lookup
      subst same
      rw [route, bind_get] at routed
      cases special : getTunnel linked datagram.ids.1 with
      | none =>
        rw [special] at routed
        cases routed
        exact start
      | some t =>
        rw [special] at routed
        obtain ⟨tunnel, foundTunnel⟩ := getTunnel_found special
        exact leads_ok_invariant (handleSpecial_sim foundTunnel (allows.on.mono (by decide))
          (misdelivers t tunnel special foundTunnel)) routed keeps start
    · exact deliver_keeps keeps (allows.mono (by decide))
        (fun tunnel => delivers linked t c tunnel lookup) linkedClean
        (fun entered control screen =>
          finishes t c entered (entering_screen control lookup screen))
        opened routed
  · rw [decide_eq_false long] at ran
    cases ran
    exact start

end

end Keeps

end Xl2tpd
