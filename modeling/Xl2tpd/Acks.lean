import Xl2tpd.Channel
import Xl2tpd.Counters

/-!
# Answers to control packets

A ZLB should not be answered, and a message received before should be, with one ZLB. The flag
`cnu` is not always cleared, and the comparison of sequence numbers is right only until they wrap.
-/

namespace Xl2tpd

set_option autoImplicit false

open Program

def Obs.sends : Obs → Bool
  | .xmit .. | .payload .. => true
  | _ => false

def Daemon.sent (state : Daemon) : List Obs := state.trace.filter Obs.sends

variable {env : Env} {state : Daemon} {t : TunnelRef} {c : CallId} {tunnel : Tunnel} {call : Call}
  {buffer : RecvBuf}

/-! ## Acknowledging -/

def Daemon.zlbSent (state : Daemon) (t : TunnelRef) (header : ControlHdr) : Daemon :=
  ((state.setTunnel t fun tunnel =>
    { tunnel with controlSeqNum := tunnel.controlSeqNum + 1 }).setTunnel t fun tunnel =>
    { tunnel with controlSeqNum := tunnel.controlSeqNum - 1 }).emit (.xmit t header [])

section Found

variable (found : state.tunnel? t = some tunnel) (foundCall : tunnel.call? c = some call)

include found foundCall

theorem controlZlb_run :
    ∃ header, controlZlb t c state = .ok () (state.zlbSent t header) ∧
      header.Nr = tunnel.controlRecSeqNum := by
  have counted : (state.setTunnel t fun tunnel =>
      { tunnel with controlSeqNum := tunnel.controlSeqNum + 1 }).tunnel? t =
      some { tunnel with controlSeqNum := tunnel.controlSeqNum + 1 } :=
    (tunnel_setTunnel (by intro _; rfl)).trans (congrArg _ found)
  have back : ((state.setTunnel t fun tunnel =>
      { tunnel with controlSeqNum := tunnel.controlSeqNum + 1 }).setTunnel t fun tunnel =>
      { tunnel with controlSeqNum := tunnel.controlSeqNum - 1 }).tunnel? t =
      some { tunnel with controlSeqNum := tunnel.controlSeqNum + 1 - 1 } :=
    (tunnel_setTunnel (by intro _; rfl)).trans (congrArg _ counted)
  unfold controlZlb addControlHdr udpXmit
  rw [bind_assoc, bind_run (readTunnel_run found), bind_assoc,
    bind_run (readCall_run (some_call found foundCall)), bind_assoc,
    bind_run (writeTunnel_run found), pure_bind, bind_run (writeTunnel_run counted),
    bind_run (readTunnel_run back)]
  exact ⟨_, rfl, rfl⟩

theorem zlbSent_found (header : ControlHdr) :
    (state.zlbSent t header).call? t c = some call := by
  have counted : (state.setTunnel t fun tunnel =>
      { tunnel with controlSeqNum := tunnel.controlSeqNum + 1 }).tunnel? t =
      some { tunnel with controlSeqNum := tunnel.controlSeqNum + 1 } :=
    (tunnel_setTunnel (by intro _; rfl)).trans (congrArg _ found)
  have back : (state.zlbSent t header).tunnel? t =
      some { tunnel with controlSeqNum := tunnel.controlSeqNum + 1 - 1 } :=
    (tunnel_setTunnel (by intro _; rfl)).trans (congrArg _ counted)
  exact some_call back (by cases c <;> exact foundCall)

theorem acknowledge_run :
    (final (acknowledge t c state)).sent = state.sent ↔ call.cnu = false := by
  unfold acknowledge
  rw [bind_run (readCall_run (some_call found foundCall))]
  cases call.cnu with
  | false => exact iff_of_true rfl rfl
  | true =>
    obtain ⟨header, ran, _⟩ := controlZlb_run found foundCall
    refine iff_of_false ?_ (by simp)
    rw [whenever, if_pos rfl, bind_run ran, writeCall_run (zlbSent_found found foundCall header)]
    change ((state.trace ++ [Obs.xmit t header []]).filter Obs.sends) ≠ state.trace.filter Obs.sends
    rw [List.filter_append]
    simp [Obs.sends]

/-! ## ZLBs -/

theorem setCall_found (change : Call → Call) (keeps : ∀ call, (change call).ref = call.ref) :
    (state.setCall t c change).tunnel? t = some (tunnel.setCall c change) ∧
      (tunnel.setCall c change).call? c = some (change call) := by
  refine ⟨tunnel_setCall found, ?_⟩
  rw [Tunnel.call_setCall keeps, foundCall]
  rfl

theorem setTunnel_found (change : Tunnel → Tunnel)
    (keeps : ∀ tunnel, (change tunnel).ref = tunnel.ref)
    (same : (change tunnel).call? c = tunnel.call? c) :
    (state.setTunnel t change).tunnel? t = some (change tunnel) ∧
      (change tunnel).call? c = some call :=
  ⟨(tunnel_setTunnel keeps).trans (congrArg _ found), same.trans foundCall⟩

theorem outOfOrder_zlb (empty : buffer.len = controlHdrSize) :
    ∃ after tunnel' call', outOfOrder buffer t c state = .ok () after ∧
      after.trace = state.trace ∧ after.tunnel? t = some tunnel' ∧ tunnel'.call? c = some call' ∧
      call'.cnu = call.cnu := by
  unfold outOfOrder
  rw [bind_run (readTunnel_run found)]
  split
  · rw [whenever, if_neg (by simp [empty])]
    exact ⟨state, tunnel, call, rfl, rfl, found, foundCall, rfl⟩
  · unfold whenever
    split
    · obtain ⟨foundNow, foundNowCall⟩ :=
        setCall_found found foundCall Call.release (by intro _; rfl)
      exact ⟨_, _, _, writeCall_run (some_call found foundCall), rfl, foundNow, foundNowCall, rfl⟩
    · exact ⟨state, tunnel, call, rfl, rfl, found, foundCall, rfl⟩

theorem received_flagged (buffer : RecvBuf) :
    ∃ tunnel', (state.received buffer t c).tunnel? t = some tunnel' ∧
      tunnel'.call? c = some { call with cnu := true } := by
  obtain ⟨foundNow, foundNowCall⟩ := setTunnel_found found foundCall (fun tunnel =>
    { tunnel with
      controlRecSeqNum := tunnel.controlRecSeqNum + 1
      cLr := buffer.controlHdr.Nr.toNat }) (by intro _; rfl) (by cases c <;> rfl)
  obtain ⟨foundThen, foundThenCall⟩ := setCall_found foundNow foundNowCall (fun call =>
    { call with cnu := true }) (by intro _; rfl)
  exact ⟨_, foundThen, foundThenCall⟩

theorem handleZlb_clears :
    ∃ after tunnel' call', handleZlb t c state = .ok () after ∧ after.trace = state.trace ∧
      after.tunnel? t = some tunnel' ∧ tunnel'.call? c = some call' ∧ call'.cnu = false := by
  obtain ⟨foundNow, foundNowCall⟩ := setTunnel_found found foundCall (fun tunnel =>
    { tunnel with controlRecSeqNum := tunnel.controlRecSeqNum - 1 }) (by intro _; rfl)
    (by cases c <;> rfl)
  unfold handleZlb
  rw [bind_run (writeTunnel_run found), bind_run (readTunnel_run foundNow),
    writeCall_run (some_call foundNow foundNowCall)]
  obtain ⟨foundThen, foundThenCall⟩ := setCall_found foundNow foundNowCall (fun call =>
    { call with
      cnu := false
      needclose := call.needclose && !(call.closing && call.closeSs.toNat ≤ tunnel.cLr) })
    (by intro _; rfl)
  exact ⟨_, _, _, rfl, rfl, foundThen, foundThenCall, rfl⟩

theorem handlePacket_zlb (empty : buffer.len = controlHdrSize)
    (control : ctbit (hostWord buffer.bytes 0) = true) :
    ∃ after tunnel' call', handlePacket env buffer t c state = .ok () after ∧
      after.trace = state.trace ∧ after.tunnel? t = some tunnel' ∧ tunnel'.call? c = some call' ∧
      call'.cnu = if buffer.expected tunnel then !controlFlags buffer.controlHdr.ver
        else call.cnu := by
  have handled {success : Bool} {after : Daemon}
      (screened : screenControl env buffer t c state = .ok (.done success) after) :
      handlePacket env buffer t c state = .ok () after := by
    unfold handlePacket handleControl
    rw [if_pos control, bind_assoc, bind_run screened]
    rfl
  cases next : buffer.expected tunnel with
  | false =>
    rcases screenControl_unexpected env c found next with skipped | dropped
    · exact ⟨state, tunnel, call, handled skipped, rfl, found, foundCall, rfl⟩
    · obtain ⟨after, tunnel', call', ran, trace, foundNow, foundNowCall, cnu⟩ :=
        outOfOrder_zlb found foundCall empty
      rw [bind_run ran] at dropped
      exact ⟨after, tunnel', call', handled dropped, trace, foundNow, foundNowCall, cnu⟩
  | true =>
    obtain ⟨now, foundNow, foundNowCall⟩ := received_flagged found foundCall buffer
    cases good : controlFlags buffer.controlHdr.ver with
    | false =>
      exact ⟨_, now, _, handled (screenControl_miscounted found foundCall next good), rfl,
        foundNow, foundNowCall, rfl⟩
    | true =>
      obtain ⟨foundThen, foundThenCall⟩ := setCall_found foundNow foundNowCall
        (fun call => { call with msgtype := none }) (by intro _; rfl)
      obtain ⟨after, tunnel', call', ran, trace, foundLast, foundLastCall, cnu⟩ :=
        handleZlb_clears foundThen foundThenCall
      have screened : screenControl env buffer t c state = .ok (.done true) after := by
        unfold screenControl
        rw [bind_run (checkControl_expected found foundCall next), good]
        simp only [Bool.not_true, Bool.false_eq_true, if_false]
        rw [bind_run (writeCall_run (some_call foundNow foundNowCall)), if_pos empty,
          bind_run ran]
        rfl
      exact ⟨after, tunnel', call', handled screened, trace, foundLast, foundLastCall, cnu⟩

theorem deliver_zlb (empty : buffer.len = controlHdrSize)
    (control : ctbit (hostWord buffer.bytes 0) = true) :
    (final (deliver env buffer t c state)).sent = state.sent ↔
      (if buffer.expected tunnel then !controlFlags buffer.controlHdr.ver else call.cnu) =
        false := by
  obtain ⟨foundNow, foundNowCall⟩ := setTunnel_found found foundCall (fun tunnel =>
    { tunnel with chalUs := { tunnel.chalUs with vector := none } }) (by intro _; rfl)
    (by cases c <;> rfl)
  obtain ⟨after, tunnel', call', ran, trace, foundLast, foundLastCall, cnu⟩ :=
    @handlePacket_zlb env (state.delivering t) t c _ _ buffer foundNow foundNowCall empty control
  rw [deliver_run found foundCall, bind_run ran]
  have silent : after.sent = state.sent := congrArg (List.filter Obs.sends) trace
  rw [← silent, acknowledge_run foundLast foundLastCall, cnu]
  rfl

end Found

abbrev Mute {Value : Type} (program : Prog Value) (state : Daemon) : Prop :=
  Leads Daemon.trace Eq program state

theorem mute_writeTunnel {change : Tunnel → Tunnel} : Mute (writeTunnel t change) state :=
  leads_read (reads_deref _ state) fun _ _ => leads_of_view_eq rfl

theorem mute_writeCall {change : Call → Call} : Mute (writeCall t c change) state :=
  leads_read (reads_deref _ state) fun _ _ => leads_of_view_eq rfl

theorem mute_outOfOrder (empty : buffer.len = controlHdrSize) :
    Mute (outOfOrder buffer t c) state := by
  unfold outOfOrder
  refine leads_read (reads_deref _ state) fun tunnel _ => ?_
  split
  · rw [whenever, if_neg (by simp [empty])]
    exact leads_pure _
  · unfold whenever
    split
    · exact mute_writeCall
    · exact leads_pure _

theorem mute_checkControl (empty : buffer.len = controlHdrSize) :
    Mute (checkControl buffer t c) state := by
  unfold checkControl
  split
  · exact leads_pure _
  · dsimp only
    split
    · exact leads_pure _
    · refine leads_read (reads_deref _ state) fun tunnel _ => ?_
      split
      · exact leads_bind (mute_outOfOrder empty) fun _ _ _ => leads_pure _
      · exact leads_bind mute_writeTunnel fun _ _ _ =>
          leads_bind mute_writeCall fun _ _ _ => leads_pure _

theorem handleSpecial_zlb {number : UInt16} (empty : buffer.len = controlHdrSize) :
    Mute (handleSpecial buffer t number) state := by
  unfold handleSpecial answerSpecial whenever
  split
  · refine leads_bind mute_writeCall fun _ _ _ => ?_
    refine leads_bind (leads_bind (mute_checkControl empty) fun good _ _ => ?_) fun _ _ _ =>
      mute_writeCall
    rw [if_neg (by simp [empty])]
    exact leads_pure _
  · exact leads_pure _

/-! ## Datagrams -/

/-- The number expected where a datagram goes, and whether an acknowledgement is due there. -/
def Datagram.account (env : Env) (state : Daemon) (datagram : Datagram) : Option (UInt16 × Bool) :=
  if datagram.ids.1 ≠ 0 then
    (findTunnel env state datagram.ids.1 datagram.refhim).bind fun st =>
      (st.numbered datagram.ids.2).bind fun found =>
        (state.tunnel? found.1).bind fun tunnel =>
          (tunnel.call? found.2).map fun call => (tunnel.controlRecSeqNum, call.cnu)
  else if datagram.ids.2 ≠ 0 then none
  else some (0, false)

/-- A ZLB with the expected number has good flags, and any other finds no acknowledgement
due. -/
def Datagram.unowed (env : Env) (state : Daemon) (datagram : Datagram) : Bool :=
  match datagram.account env state with
  | none => true
  | some (expected, due) =>
      if datagram.buffer.sized && datagram.buffer.controlHdr.Ns = expected then
        controlFlags datagram.buffer.controlHdr.ver
      else !due

theorem getCall_made (env : Env) (peer : SockAddr) (refme refhim : Nat) (state : Daemon) :
    ∃ made st, getCall env 0 0 peer refme refhim state = .ok (some (st.ref, .self)) made ∧
      made.tunnel? st.ref = some st ∧ st.controlRecSeqNum = 0 ∧ st.self.cnu = false ∧
      made.trace = state.trace := by
  refine ⟨_, _, rfl, ?_, rfl, rfl, rfl⟩
  exact Keyed.find_cons.trans (if_pos rfl)

/-- `network_thread` transmits nothing on a ZLB exactly if it is no wrong one in its turn, and no
acknowledgement is due. -/
theorem zlb_unanswered_iff (env : Env) (state : Daemon) (datagram : Datagram)
    (empty : datagram.bytes.length = controlHdrSize)
    (control : ctbit (hostWord datagram.buffer.bytes 0) = true) :
    (final (receive env datagram state)).sent = state.sent ↔
      datagram.unowed env state = true := by
  have here : receive env datagram state = (getCall env datagram.ids.1 datagram.ids.2
      datagram.peer datagram.refme datagram.refhim >>= route env datagram) state := by
    unfold receive
    rw [decide_eq_true (by rw [empty]; decide)]
    rfl
  have special : (final (route env datagram none state)).sent = state.sent := by
    unfold route
    dsimp only
    rw [bind_get]
    cases getTunnel state datagram.ids.1 with
    | none => rfl
    | some t => exact congrArg (List.filter Obs.sends) (leads_eq (handleSpecial_zlb empty))
  rw [here]
  unfold Datagram.unowed Datagram.account
  by_cases known : datagram.ids.1 ≠ 0
  · rw [bind_run (getCall_lookup known), if_pos known, ← Option.bind_assoc]
    cases search : (findTunnel env state datagram.ids.1 datagram.refhim).bind
        fun st => st.numbered datagram.ids.2 with
    | none => exact iff_of_true special rfl
    | some place =>
      obtain ⟨t, c⟩ := place
      simp only [Option.bind_some, route]
      cases found : state.tunnel? t with
      | none =>
        have missing : state.call? t c = none := by
          unfold Daemon.call?
          rw [found]
          rfl
        refine iff_of_true ?_ rfl
        unfold deliver readCall
        rw [bind_stuck (deref_stuck missing)]
        rfl
      | some tunnel =>
        cases foundCall : tunnel.call? c with
        | none =>
          have missing : state.call? t c = none := by
            unfold Daemon.call?
            rw [found]
            exact foundCall
          simp only [Option.bind_some, foundCall, Option.map_none, iff_true]
          unfold deliver readCall
          rw [bind_stuck (deref_stuck missing)]
          rfl
        | some call =>
          simp only [Option.bind_some, foundCall, Option.map_some]
          rw [deliver_zlb found foundCall empty control]
          unfold RecvBuf.expected
          split <;> simp
  · rw [if_neg known]
    rw [ne_eq, not_not] at known
    by_cases strange : datagram.ids.2 ≠ 0
    · rw [known, bind_run (getCall_strange strange), if_pos strange]
      exact iff_of_true special rfl
    · rw [if_neg strange]
      rw [ne_eq, not_not] at strange
      obtain ⟨made, st, ran, found, number, clear, silent⟩ :=
        getCall_made env datagram.peer datagram.refme datagram.refhim state
      have before : state.sent = made.sent := congrArg (List.filter Obs.sends) silent.symm
      rw [known, strange, bind_run ran, before]
      have answered := @deliver_zlb env _ _ .self _ _ _ found rfl empty control
      unfold RecvBuf.expected at answered
      rw [number, clear] at answered
      simp only [route]
      rw [answered]
      split <;> simp

def strangerMessage (ns : UInt16) : Datagram := sampleDatagram 513 77 ns 0 (addMessageTypeAvp .Hello)

/-- `handle_special` leaves `cnu` set, and the next ZLB out of turn is answered. -/
theorem stray_zlb_answered : ∃ (env : Env) (state : Daemon) (zlb : Datagram),
    Reachable env state ∧ zlb.bytes.length = controlHdrSize ∧
      ctbit (hostWord zlb.buffer.bytes 0) = true ∧
      (final (receive env zlb state)).sent ≠ state.sent := by
  let env := sampleEnv (fun _ _ => none) 5
  obtain ⟨state, reached, tested⟩ : ∃ state, Reachable env state ∧
      decide ((final (receive env (sampleDatagram 513 0 9 0 []) state)).sent.length ≠
        state.sent.length) = true :=
    reachable_any [.datagram (sampleDatagram 0 0 0 0 (addMessageTypeAvp .Hello)),
      .datagram (strangerMessage 1)] (sampleStart_booted false) rfl (by decide +kernel)
  refine ⟨env, state, sampleDatagram 513 0 9 0 [], reached, rfl, by decide +kernel, ?_⟩
  intro silent
  exact of_decide_eq_true tested (congrArg List.length silent)

/-- The acknowledgement of the SCCRP of a tunnel that the peer has opened. -/
theorem first_zlb_unanswered : ∃ (env : Env) (state : Daemon), Reachable env state ∧
    (sampleDatagram 513 0 1 1 []).account env state = some (1, false) ∧
      (final (receive env (sampleDatagram 513 0 1 1 []) state)).sent = state.sent := by
  let env := sampleEnv (fun _ _ => none) 5
  obtain ⟨state, reached, tested⟩ : ∃ state, Reachable env state ∧
      ((sampleDatagram 513 0 1 1 []).account env state = some (1, false) &&
        (sampleDatagram 513 0 1 1 []).unowed env state) = true :=
    reachable_any [.datagram sampleSccrq] (sampleStart_booted false) rfl (by decide +kernel)
  rw [Bool.and_eq_true, decide_eq_true_eq] at tested
  exact ⟨env, state, reached, tested.1,
    (zlb_unanswered_iff env state _ rfl (by decide +kernel)).mpr tested.2⟩

/-! ## Messages that were received before -/

/-- What `check_control` owes a message out of turn: one ZLB if it was accepted before, and none if
it is ahead. -/
structure Reacknowledges (buffer : RecvBuf) (t : TunnelRef) (c : CallId) (tunnel : Tunnel)
    (state : Daemon) : Prop where
  old : Serial.Precedes buffer.controlHdr.Ns tunnel.controlRecSeqNum →
    ∃ after header, checkControl buffer t c state = .ok false after ∧
      after.trace = state.trace ++ [.xmit t header []] ∧ header.Nr = tunnel.controlRecSeqNum
  ahead : buffer.controlHdr.Ns ≠ tunnel.controlRecSeqNum →
    ¬ Serial.Precedes buffer.controlHdr.Ns tunnel.controlRecSeqNum →
    ∃ after, checkControl buffer t c state = .ok false after ∧ after.trace = state.trace

theorem alreadySeen_iff (ns expected : UInt16) :
    alreadySeen ns expected = true ↔ Serial.Precedes ns expected ∧ ns.toNat < expected.toNat := by
  have nsBound := ns.toNat_lt
  have bound := expected.toNat_lt
  have difference := UInt16.toNat_sub expected ns
  unfold alreadySeen Serial.Precedes
  rw [ne_eq, ← UInt16.toNat_inj]
  simp only [Bool.or_eq_true, Bool.and_eq_true, decide_eq_true_eq]
  omega

theorem checkControl_apart (found : state.tunnel? t = some tunnel) (sized : buffer.sized = true)
    (apart : buffer.controlHdr.Ns ≠ tunnel.controlRecSeqNum) :
    checkControl buffer t c state = (outOfOrder buffer t c >>= fun _ => pure false) state := by
  simp only [RecvBuf.sized, Bool.and_eq_true, decide_eq_true_eq] at sized
  unfold checkControl
  rw [if_neg (Nat.not_lt.mpr sized.1), if_neg (not_not.mpr sized.2),
    bind_run (readTunnel_run found), if_pos apart]

theorem checkControl_answers (found : state.tunnel? t = some tunnel)
    (foundCall : tunnel.call? c = some call) (sized : buffer.sized = true)
    (more : buffer.len ≠ controlHdrSize) (apart : buffer.controlHdr.Ns ≠ tunnel.controlRecSeqNum) :
    ∃ after, checkControl buffer t c state = .ok false after ∧
      if alreadySeen buffer.controlHdr.Ns tunnel.controlRecSeqNum then
        ∃ header, after.trace = state.trace ++ [.xmit t header []] ∧
          header.Nr = tunnel.controlRecSeqNum
      else after.trace = state.trace := by
  rw [checkControl_apart found sized apart]
  unfold outOfOrder
  rw [bind_assoc, bind_run (readTunnel_run found)]
  split
  · obtain ⟨header, ran, counter⟩ := controlZlb_run found foundCall
    rw [whenever, if_pos (by simp [more]), bind_run ran]
    exact ⟨_, rfl, header, rfl, counter⟩
  · unfold whenever
    split
    · rw [bind_run (writeCall_run (some_call found foundCall))]
      exact ⟨_, rfl, rfl⟩
    · exact ⟨_, rfl, rfl⟩

/-- A message that was accepted before is acknowledged again exactly if the numbers have not
wrapped since. -/
theorem retransmission_acked_iff (found : state.tunnel? t = some tunnel)
    (foundCall : tunnel.call? c = some call) (sized : buffer.sized = true)
    (more : buffer.len ≠ controlHdrSize) :
    Reacknowledges buffer t c tunnel state ↔
      (Serial.Precedes buffer.controlHdr.Ns tunnel.controlRecSeqNum →
        buffer.controlHdr.Ns.toNat < tunnel.controlRecSeqNum.toNat) := by
  constructor
  · intro right precedes
    obtain ⟨after, header, ran, sent, _⟩ := right.old precedes
    obtain ⟨after', ran', answer⟩ := checkControl_answers found foundCall sized more precedes.1
    rw [ran] at ran'
    cases ran'
    split at answer
    · rename_i seen
      exact ((alreadySeen_iff _ _).mp seen).2
    · have length := congrArg List.length (sent.symm.trans answer)
      rw [List.length_append] at length
      simp at length
  · intro unwrapped
    constructor
    · intro precedes
      obtain ⟨after, ran, answer⟩ := checkControl_answers found foundCall sized more precedes.1
      rw [if_pos ((alreadySeen_iff _ _).mpr ⟨precedes, unwrapped precedes⟩)] at answer
      obtain ⟨header, sent, counter⟩ := answer
      exact ⟨after, header, ran, sent, counter⟩
    · intro apart ahead
      obtain ⟨after, ran, answer⟩ := checkControl_answers found foundCall sized more apart
      rw [if_neg fun seen => ahead ((alreadySeen_iff _ _).mp seen).1] at answer
      exact ⟨after, ran, answer⟩

def sampleCounted : Tunnel :=
  { ref := 1, ourtid := 6, peer := ⟨5, 6⟩, controlRecSeqNum := 3, self := { ref := 2 } }

theorem sample_retransmission_acked :
    Reacknowledges (sampleDatagram 6 0 1 0 (addMessageTypeAvp .Hello)).buffer 1 .self sampleCounted
      { tunnels := [sampleCounted] } :=
  (retransmission_acked_iff rfl rfl (by decide +kernel) (by decide +kernel)).mpr
    (by decide +kernel)

/-! ### A run in which the numbers wrap -/

def Expects (state : Daemon) (number : UInt16) : Prop :=
  ∃ tunnel, state.tunnels = [tunnel] ∧ tunnel.ref = 1 ∧ tunnel.ourtid = 513 ∧ tunnel.calls = [] ∧
    tunnel.controlRecSeqNum = number

theorem single_setTunnel (change : Tunnel → Tunnel) (only : state.tunnels = [tunnel])
    (here : tunnel.ref = t) : (state.setTunnel t change).tunnels = [change tunnel] := by
  unfold Daemon.setTunnel
  rw [only]
  simp [Keyed.update, here]

theorem single_found (only : state.tunnels = [tunnel]) (here : tunnel.ref = t) :
    state.tunnel? t = some tunnel := by
  unfold Daemon.tunnel?
  rw [only]
  exact Keyed.find_cons.trans (if_pos here)

def Daemon.turnedAway (state : Daemon) (buffer : RecvBuf) (t : TunnelRef) (number : UInt16)
    (header : ControlHdr) : Daemon :=
  (((((state.setCall t .self fun self => { self with cid := number.toNat }).received buffer t
    .self).emit (.accepted t buffer.body)).zlbSent t header).setCall t .self fun self =>
      { self with cid := 0 })

theorem handleSpecial_run {number : UInt16} (found : state.tunnel? t = some tunnel)
    (control : ctbit (hostWord buffer.bytes 0) = true) (next : buffer.expected tunnel = true)
    (flags : controlFlags buffer.controlHdr.ver = true) (more : buffer.len ≠ controlHdrSize) :
    ∃ header, handleSpecial buffer t number state =
      .ok () (state.turnedAway buffer t number header) := by
  obtain ⟨foundNow, foundNowCall⟩ := setCall_found (c := .self) found rfl (fun self =>
    { self with cid := (number.toNat : Int) }) (by intro _; rfl)
  obtain ⟨taken, foundTaken, foundTakenCall⟩ := received_flagged foundNow foundNowCall buffer
  obtain ⟨header, answered, _⟩ := @controlZlb_run (((state.setCall t .self fun self =>
    { self with cid := (number.toNat : Int) }).received buffer t .self).emit
      (.accepted t buffer.body)) t .self _ _ foundTaken foundTakenCall
  have back := @zlbSent_found (((state.setCall t .self fun self =>
    { self with cid := (number.toNat : Int) }).received buffer t .self).emit
      (.accepted t buffer.body)) t .self _ _ foundTaken foundTakenCall header
  refine ⟨header, ?_⟩
  unfold handleSpecial answerSpecial
  rw [whenever, if_pos control, bind_run (writeCall_run (some_call found rfl)),
    bind_assoc, bind_run (checkControl_expected foundNow foundNowCall next), flags, whenever,
    if_pos (by simp [more]), bind_assoc]
  change (controlZlb t .self >>= _) (((state.setCall t .self fun self =>
    { self with cid := (number.toNat : Int) }).received buffer t .self).emit
      (.accepted t buffer.body)) = _
  rw [bind_run answered, writeCall_run back]
  rfl

theorem strangerMessage_buffer (ns : UInt16) :
    (strangerMessage ns).buffer.controlHdr = ⟨controlVer, 20, 513, 77, ns, 0⟩ ∧
      (strangerMessage ns).buffer.len = 20 := by
  obtain ⟨header, _, len⟩ := @received_packet ⟨controlVer, 20, 513, 77, ns, 0⟩
    (addMessageTypeAvp .Hello) (strangerMessage ns) rfl rfl
  exact ⟨header, len⟩

theorem expects_step {number : UInt16} (secrets : Bytes → Bytes → Option Bytes) (retries : Nat)
    (expects : Expects state number) :
    ∃ after, exec (sampleEnv secrets retries) (.datagram (strangerMessage number)) state =
      .ok () after ∧ Expects after (number + 1) := by
  obtain ⟨tunnel, only, ref, ourtid, calls, counter⟩ := expects
  obtain ⟨header, len⟩ := strangerMessage_buffer number
  have ver : hostWord (strangerMessage number).buffer.bytes 0 = controlVer :=
    congrArg ControlHdr.ver header
  have ids : (strangerMessage number).ids = (513, 77) := by
    have tid : hostWord (strangerMessage number).buffer.bytes 4 = 513 :=
      congrArg ControlHdr.tid header
    have cid : hostWord (strangerMessage number).buffer.bytes 6 = 77 :=
      congrArg ControlHdr.cid header
    unfold Datagram.ids extract
    rw [ver, tid, cid]
    rfl
  have search : findTunnel (sampleEnv secrets retries) state 513 0 = some tunnel := by
    unfold findTunnel
    rw [only, List.find?_cons_of_pos]
    simp [ourtid, sampleEnv]
  have unknown : tunnel.numbered 77 = none := by
    unfold Tunnel.numbered
    rw [calls]
    rfl
  have owner : getTunnel state 513 = some 1 := by
    unfold getTunnel
    rw [only, if_neg (by decide), List.find?_cons_of_pos (by simp [ourtid])]
    exact congrArg some ref
  have special : receive (sampleEnv secrets retries) (strangerMessage number) state =
      handleSpecial (strangerMessage number).buffer 1 77 state := by
    unfold receive
    rw [decide_eq_true (by change 6 ≤ 20; decide), ids]
    change (getCall _ 513 77 _ _ 0 >>= route _ (strangerMessage number)) state = _
    rw [bind_run (getCall_lookup (by decide)), search, Option.bind_some, unknown]
    unfold route
    dsimp only
    rw [bind_get, ids, owner]
  have next : (strangerMessage number).buffer.expected tunnel = true := by
    unfold RecvBuf.expected RecvBuf.sized
    rw [header, len, counter]
    simp [controlHdrSize]
  obtain ⟨answer, ran⟩ := @handleSpecial_run state 1 tunnel (strangerMessage number).buffer 77
    (single_found only ref) (by rw [ver]; rfl) next
    (by rw [header]; exact (by decide : controlFlags controlVer = true)) (by rw [len]; decide)
  refine ⟨_, special.trans ran, ?_⟩
  have numbered := single_setTunnel (fun tunnel => tunnel.setCall .self fun self =>
    { self with cid := ((77 : UInt16).toNat : Int) }) only ref
  have counted := single_setTunnel (fun tunnel =>
    { tunnel with
      controlRecSeqNum := tunnel.controlRecSeqNum + 1
      cLr := (strangerMessage number).buffer.controlHdr.Nr.toNat }) numbered ref
  have flagged := single_setTunnel (fun tunnel => tunnel.setCall .self fun call =>
    { call with cnu := true }) counted ref
  have given := single_setTunnel (fun tunnel =>
    { tunnel with controlSeqNum := tunnel.controlSeqNum + 1 }) flagged ref
  have taken := single_setTunnel (fun tunnel =>
    { tunnel with controlSeqNum := tunnel.controlSeqNum - 1 }) given ref
  have cleared := single_setTunnel (fun tunnel => tunnel.setCall .self fun self =>
    { self with cid := 0 }) taken ref
  exact ⟨_, cleared, ref, ourtid, calls, congrArg (· + 1) counter⟩

/-- However many messages are taken before, there is a run in which the next number is the
given one. -/
theorem expects_reachable (count : Nat) :
    ∃ state, Reachable (sampleEnv (fun _ _ => none) 5) state ∧
      Expects state (1 + UInt16.ofNat count) := by
  induction count with
  | zero =>
    obtain ⟨state, reached, tested⟩ : ∃ state, Reachable (sampleEnv (fun _ _ => none) 5) state ∧
        (state.tunnels.length = 1 && state.tunnels.all fun tunnel => tunnel.ref = 1 &&
          tunnel.ourtid = 513 && tunnel.calls.isEmpty && tunnel.controlRecSeqNum = 1) = true :=
      reachable_any [.datagram (sampleDatagram 0 0 0 0 (addMessageTypeAvp .Hello))]
        (sampleStart_booted false) rfl (by decide +kernel)
    simp only [Bool.and_eq_true, decide_eq_true_eq] at tested
    obtain ⟨tunnel, only⟩ := List.length_eq_one_iff.mp tested.1
    rw [only] at tested
    simp only [List.all_cons, List.all_nil, Bool.and_true, Bool.and_eq_true, decide_eq_true_eq,
      List.isEmpty_iff] at tested
    exact ⟨state, reached, tunnel, only, tested.2.1.1.1, tested.2.1.1.2, tested.2.1.2,
      tested.2.2⟩
  | succ count ih =>
    obtain ⟨state, reached, expects⟩ := ih
    obtain ⟨after, ran, next⟩ := expects_step (fun _ _ => none) 5 expects
    refine ⟨after, .step reached trivial ran, ?_⟩
    rw [show 1 + UInt16.ofNat (count + 1) = 1 + UInt16.ofNat count + 1 by
      rw [UInt16.ofNat_add, UInt16.add_assoc]
      rfl]
    exact next

/-- Message 65535 is accepted and the numbers wrap; its repetition is not answered. -/
theorem wrapped_retransmission_unanswered :
    ∃ (env : Env) (earlier state : Daemon) (tunnel : Tunnel), Reachable env earlier ∧
      Expects earlier 65535 ∧
      exec env (.datagram (strangerMessage 65535)) earlier = .ok () state ∧
      state.tunnel? 1 = some tunnel ∧ tunnel.controlRecSeqNum = 0 ∧
      Serial.Precedes 65535 tunnel.controlRecSeqNum ∧
      ¬ Reacknowledges (strangerMessage 65535).buffer 1 .self tunnel state := by
  obtain ⟨earlier, reached, expects⟩ := expects_reachable 65534
  obtain ⟨state, ran, tunnel, only, ref, _, _, counter⟩ := expects_step (fun _ _ => none) 5 expects
  have found := single_found only ref
  obtain ⟨header, len⟩ := strangerMessage_buffer 65535
  have wrapped : tunnel.controlRecSeqNum = 0 := counter
  have precedes : Serial.Precedes 65535 tunnel.controlRecSeqNum := by
    rw [wrapped]
    decide
  refine ⟨_, earlier, state, tunnel, reached, expects, ran, found, wrapped, precedes, ?_⟩
  intro right
  have ns : (strangerMessage 65535).buffer.controlHdr.Ns = 65535 := congrArg ControlHdr.Ns header
  obtain ⟨after, answer, answered, sent, _⟩ := right.old (by rw [ns]; exact precedes)
  obtain ⟨after', answered', silent⟩ := checkControl_answers (c := .self) found rfl
    (by unfold RecvBuf.sized; rw [header, len]; decide) (by rw [len]; decide)
    (by rw [ns, wrapped]; decide)
  rw [answered] at answered'
  cases answered'
  rw [ns, wrapped, if_neg (by decide)] at silent
  have length := congrArg List.length (sent.symm.trans silent)
  rw [List.length_append] at length
  simp at length

end Xl2tpd
