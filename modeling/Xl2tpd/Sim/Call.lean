import Xl2tpd.Simulation

/-!
# Transmission, destruction and closing as actions
-/

namespace Xl2tpd

set_option autoImplicit false

open Program

variable {assume : Assume} {env : Env} {allowed : Action → Prop} {state : Daemon} {t : TunnelRef}
  {c : CallId} {body : Bytes} {ref : CallRef} {call : Call}

/-! ## Transmission -/

theorem addControlHdr_run {tunnel : Tunnel} (body : Bytes) (found : state.tunnel? t = some tunnel)
    (foundCall : tunnel.call? c = some call) :
    ∃ buffer, addControlHdr t c body state =
        .ok buffer (state.setTunnel t fun tunnel =>
          { tunnel with controlSeqNum := tunnel.controlSeqNum + 1 }) ∧
      buffer.tunnel = t ∧ buffer.body = body ∧ buffer.retries = 0 ∧
      tunnel.core.heads buffer.header body := by
  have readCall : state.call? t c = some call := by
    unfold Daemon.call?
    rw [found]
    exact foundCall
  unfold addControlHdr
  rw [bind_run (readTunnel_run found), bind_run (readCall_run readCall),
    bind_run (writeTunnel_run found)]
  exact ⟨_, rfl, rfl, rfl, rfl, rfl, rfl, rfl, rfl⟩

theorem sim_addControlHdr {Value : Type} {next : Buffer → Prog Value}
    (rest : ∀ tunnel call, state.tunnel? t = some tunnel → tunnel.call? c = some call →
      Sim assume env allowed (addControlHdr t c body >>= next) state) :
    Sim assume env allowed (addControlHdr t c body >>= next) state := by
  cases found : state.tunnel? t with
  | none =>
    have stuck : addControlHdr t c body state = .error .freed state :=
      bind_stuck (deref_stuck found)
    exact leads_of_view_eq (by rw [bind_stuck stuck]; rfl)
  | some tunnel =>
    cases foundCall : tunnel.call? c with
    | none =>
      have missing : state.call? t c = none := by
        unfold Daemon.call?
        rw [found]
        exact foundCall
      have stuck : addControlHdr t c body state = .error .freed state := by
        unfold addControlHdr
        rw [bind_run (readTunnel_run found)]
        exact bind_stuck (deref_stuck missing)
      exact leads_of_view_eq (by rw [bind_stuck stuck]; rfl)
    | some call => exact rest tunnel call found foundCall

theorem controlZlb_sim (permits : Permits [.send] allowed) :
    Sim assume env allowed (controlZlb t c) state := by
  apply sim_addControlHdr
  intro tunnel call found foundCall
  obtain ⟨buffer, ran, named, empty, _, heads⟩ := addControlHdr_run [] found foundCall
  have still : (state.setTunnel t fun tunnel =>
      { tunnel with controlSeqNum := tunnel.controlSeqNum + 1 }).tunnel? t =
      some { tunnel with controlSeqNum := tunnel.controlSeqNum + 1 } := by
    rw [tunnel_setTunnel (by intro _; rfl), found]
    rfl
  unfold Sim Leads
  rw [bind_run ran, bind_run (writeTunnel_run still)]
  -- The number is given back: only the transmission is left.
  have restored : ((state.setTunnel t fun tunnel =>
      { tunnel with controlSeqNum := tunnel.controlSeqNum + 1 }).setTunnel t fun tunnel =>
      { tunnel with controlSeqNum := tunnel.controlSeqNum - 1 }) = state := by
    unfold Daemon.setTunnel
    simp only
    rw [Keyed.update_update (by intro _; rfl)]
    have cancel : ((fun tunnel : Tunnel =>
        { tunnel with controlSeqNum := tunnel.controlSeqNum - 1 }) ∘ fun tunnel =>
        { tunnel with controlSeqNum := tunnel.controlSeqNum + 1 }) = id := by
      funext tunnel
      simp
    rw [cancel, Keyed.update_id]
  rw [restored]
  unfold udpXmit
  rw [named, empty, bind_run (readTunnel_run found)]
  exact Relation.ReflTransGen.single
    (.act (.zlb t buffer.header) (permits _ (by simp [Action.effect]))
      ⟨tunnel.core, view_tunnel_some found, heads⟩)

/-! ### The queue -/

theorem waiting_insertEntry (entry : Entry) (entries : List Entry) :
    waiting (insertEntry entry entries) = waiting (entry :: entries) :=
  Multiset.coe_eq_coe.mpr ((insertEntry_perm entry entries).filterMap _)

theorem schedule_view (delay : Timeval) (event : Event) (state : Daemon) :
    (final (schedule delay event state)).view =
      { state.view with
        buffers := (event.buffer?.toList : List Buffer) + state.view.buffers
        fresh := state.fresh + 1 } := by
  have queue : waiting (insertEntry ⟨state.fresh, state.now.after delay, event⟩ state.events) =
      (event.buffer?.toList : List Buffer) + waiting state.events := by
    rw [waiting_insertEntry]
    unfold waiting
    cases kind : event.buffer? <;> simp [kind]
  change View.mk _ (waiting (insertEntry _ state.events)) _ _ _ _ = _
  rw [queue]
  rfl

theorem schedule_run (delay : Timeval) (event : Event) (state : Daemon) :
    ∃ id, schedule delay event state = .ok id (final (schedule delay event state)) := ⟨_, rfl⟩

theorem schedule_sim {delay : Timeval} {event : Event} (plain : event.buffer? = none) :
    Sim assume env allowed (schedule delay event) state := by
  apply sim_quiet
  rw [schedule_view, plain]
  exact ⟨rfl, by simp, rfl, rfl, Nat.le_succ _, [], by simp⟩

/-! ### `control_xmit` -/

section Xmit

variable {close : TunnelRef → CallId → Prog Unit} {buffer : Buffer} {tunnel : Tunnel}

theorem controlXmitWith_tossed (found : state.tunnel? buffer.tunnel = some tunnel)
    (old : buffer.header.Ns.toNat < tunnel.cLr) :
    controlXmitWith env close buffer state =
      .ok () (state.emit (.tossed buffer.tunnel buffer.header.Ns)) := by
  unfold controlXmitWith
  rw [bind_run (readTunnel_run found), if_pos old]
  rfl

theorem controlXmitWith_dropped (found : state.tunnel? buffer.tunnel = some tunnel)
    (unseen : ¬ buffer.header.Ns.toNat < tunnel.cLr) (spent : env.maxRetries < buffer.tried.retries) :
    controlXmitWith env close buffer state =
      (writeCall buffer.tunnel .self Call.timeout >>= fun _ => close buffer.tunnel .self) state := by
  unfold controlXmitWith
  rw [bind_run (readTunnel_run found), if_neg unseen, if_pos spent]

theorem controlXmitWith_queued (found : state.tunnel? buffer.tunnel = some tunnel)
    (unseen : ¬ buffer.header.Ns.toNat < tunnel.cLr) (left : buffer.tried.retries ≤ env.maxRetries) :
    ∃ last, controlXmitWith env close buffer state = .ok () last ∧
      Quiet (Fate.apply buffer.tried state.view .queued) last.view := by
  have enough : ¬ env.maxRetries < buffer.tried.retries := Nat.not_lt.mpr left
  unfold controlXmitWith
  rw [bind_run (readTunnel_run found), if_neg unseen, if_neg enough]
  obtain ⟨id, ran⟩ := schedule_run (backoff buffer.tried.retries) (.controlXmit buffer.tried) state
  rw [bind_run ran]
  have alive : (final (schedule (backoff buffer.tried.retries) (.controlXmit buffer.tried)
      state)).tunnel? buffer.tunnel = some tunnel := found
  unfold udpXmit
  rw [show buffer.tried.tunnel = buffer.tunnel from rfl, bind_run (readTunnel_run alive)]
  refine ⟨_, rfl, ?_⟩
  rw [view_emit, schedule_view]
  exact ⟨rfl, rfl, rfl, rfl, Nat.le_succ _, [], by simp [Fate.apply, View.log, Buffer.tried]⟩

/-- `control_xmit` once the fate is fixed; the step in front, numbering or dequeuing, is left open.
-/
theorem controlXmitWith_sim {before : View} (found : state.tunnel? buffer.tunnel = some tunnel)
    (timeout : env.maxRetries < buffer.tried.retries →
      allowed (.move buffer.tunnel (.call .self .timeout)))
    (closes : env.maxRetries < buffer.tried.retries →
      ∀ later, Sim assume env allowed (close buffer.tunnel .self) later)
    (acts : ∀ fate : Fate, fate.decided env tunnel.core buffer.tried →
      Acts assume env allowed before (fate.apply buffer.tried state.view)) :
    Relation.ReflTransGen (Acts assume env allowed) before
      (final (controlXmitWith env close buffer state)).view := by
  by_cases old : buffer.header.Ns.toNat < tunnel.cLr
  · rw [controlXmitWith_tossed found old]
    exact Relation.ReflTransGen.single (acts .tossed old)
  · by_cases spent : env.maxRetries < buffer.tried.retries
    · rw [controlXmitWith_dropped found old spent]
      refine Relation.ReflTransGen.head (acts .dropped ⟨old, spent⟩) ?_
      refine leads_bind (sim_moveCall .timeout (timeout spent) ?_ fun _ _ _ _ => trivial)
        fun _ later _ => closes spent later
      intro call
      unfold Call.timeout
      cases marked : call.needclose <;> simp [CallMove.apply, Call.core, Call.release, marked]
    · obtain ⟨last, ran, quiet⟩ :
          ∃ last, controlXmitWith env close buffer state = .ok () last ∧
            Quiet (Fate.apply buffer.tried state.view .queued) last.view :=
        controlXmitWith_queued found old (Nat.not_lt.mp spent)
      rw [ran]
      exact (Relation.ReflTransGen.single (acts .queued ⟨old, Nat.not_lt.mp spent⟩)).tail
        (.quiet quiet)

/-- A message is numbered and transmitted. It can only fail to be when no tries are
allowed at all. -/
theorem sendControlWith_sim (nonempty : body ≠ []) (allows : Allows env [.send] allowed)
    (closes : env.maxRetries = 0 → ∀ later, Sim assume env allowed (close t .self) later) :
    Sim assume env allowed (sendControlWith env close t c body) state := by
  apply sim_addControlHdr
  intro tunnel call found foundCall
  obtain ⟨buffer, ran, named, holds, untried, heads⟩ := addControlHdr_run body found foundCall
  unfold Sim Leads
  rw [bind_run ran]
  subst named
  have first : buffer.tried.retries = 1 := by
    simp [Buffer.tried, untried]
  have numbered : ((state.setTunnel buffer.tunnel fun tunnel =>
      { tunnel with controlSeqNum := tunnel.controlSeqNum + 1 }).emit
        (.numbered buffer.tunnel buffer.header.Ns body)).tunnel? buffer.tunnel =
      some { tunnel with controlSeqNum := tunnel.controlSeqNum + 1 } := by
    refine (tunnel_setTunnel (by intro _; rfl)).trans ?_
    rw [found]
    rfl
  have none_left : env.maxRetries < buffer.tried.retries → env.maxRetries = 0 := by
    omega
  refine controlXmitWith_sim numbered
    (fun spent => allows.fails (none_left spent) _
      (by simp [Action.effect, Move.effect, CallMove.effect, tunnelEffects]))
    (fun spent => closes (none_left spent)) ?_
  intro fate decided
  have numberedView : (state.setTunnel buffer.tunnel fun tunnel =>
      { tunnel with controlSeqNum := tunnel.controlSeqNum + 1 }).view =
      state.view.setTunnel buffer.tunnel fun core =>
        { core with controlSeqNum := core.controlSeqNum + 1 } := view_setTunnel fun _ => rfl
  rw [view_emit, numberedView, ← holds]
  rw [← holds] at heads nonempty
  exact .act (.send buffer.tried fate) (allows.on _ (by simp [Action.effect]))
    ⟨nonempty, first, tunnel.core, view_tunnel_some found, heads, decided⟩

end Xmit

/-! ## Destruction -/

theorem scheduleRedial_sim {lac : LacRef} : Sim assume env allowed (scheduleRedial lac) state := by
  refine sim_readLac fun entry _ => sim_whenever fun _ => ?_
  refine leads_bind (schedule_sim rfl) fun _ _ _ => ?_
  exact sim_storeLac (fun _ => rfl) fun _ => rfl

theorem unreserveAddr_sim {addr : Nat} : Sim assume env allowed (unreserveAddr addr) state :=
  sim_modify_same rfl

theorem reserveAddr_sim {addr : Nat} : Sim assume env allowed (reserveAddr addr) state := by
  apply sim_modify_same
  split <;> rfl

theorem releaseCall_sim : Sim assume env allowed (releaseCall call) state := by
  refine leads_bind (sim_whenever fun _ => unreserveAddr_sim) fun _ _ _ => ?_
  refine leads_bind ?_ fun _ _ _ => sim_whenever fun _ => sim_emit rfl
  unfold releaseLocalAddr
  split
  · exact leads_pure _
  · exact sim_readLns fun _ _ => sim_whenever fun _ => unreserveAddr_sim

theorem forgetCall_sim : Sim assume env allowed (forgetCall call) state := by
  unfold forgetCall
  split
  · exact leads_pure _
  · exact leads_bind (sim_storeLac (fun _ => rfl) fun _ => rfl) fun _ _ _ => scheduleRedial_sim

theorem forgetTunnelLac_sim {lac : Option LacRef} :
    Sim assume env allowed (forgetTunnelLac lac) state := by
  unfold forgetTunnelLac
  split
  · exact leads_pure _
  · exact leads_bind (sim_storeLac (fun _ => rfl) fun _ => rfl) fun _ _ _ => scheduleRedial_sim

theorem forgetTunnelLns_sim {lns : Option LnsRef} :
    Sim assume env allowed (forgetTunnelLns lns) state := by
  unfold forgetTunnelLns
  split
  · exact leads_pure _
  · exact sim_storeLns (fun _ => rfl) fun _ => rfl

theorem destroyCall_sim (allow : allowed (.move t (.dropCall ref))) :
    Sim assume env allowed (destroyCall t ref) state := by
  refine sim_readCall fun call _ => leads_bind releaseCall_sim fun _ _ _ => ?_
  refine leads_bind (sim_move (.dropCall ref) allow ?_ fun _ _ => trivial)
    fun _ _ _ => forgetCall_sim
  intro tunnel
  have image : (Keyed.remove Call.ref ref tunnel.calls).map Call.core =
      Keyed.remove CallCore.ref ref (tunnel.calls.map Call.core) := Keyed.map_remove fun _ => rfl
  simp only [Tunnel.core, Move.apply]
  rw [image]

theorem unlinkTunnel_sim (allow : allowed (.unlink t)) :
    Sim assume env allowed (unlinkTunnel t) state := by
  apply leads_modify
  have image : (Keyed.remove Tunnel.ref t state.tunnels).map Tunnel.core =
      Keyed.remove TunnelCore.ref t (state.tunnels.map Tunnel.core) :=
    Keyed.map_remove fun _ => rfl
  have shown : Daemon.view { state with
      tunnels := Keyed.remove Tunnel.ref t state.tunnels
      tunnelCount := state.tunnelCount - 1 } = (Action.unlink t).apply state.view := by
    simp only [Daemon.view, Action.apply]
    rw [image]
    rfl
  rw [shown]
  exact .act (.unlink t) allow trivial

theorem destroyTunnel_sim (allows : Allows env [.drop, .unlink] allowed) :
    Sim assume env allowed (destroyTunnel t) state := by
  refine sim_readTunnel fun tunnel _ => ?_
  refine leads_bind (leads_forM _ fun ref _ => destroyCall_sim (allows.on _ (by
    simp [Action.effect, Move.effect]))) fun _ _ _ => ?_
  refine leads_bind (unlinkTunnel_sim (allows.on _ (by simp [Action.effect]))) fun _ _ _ => ?_
  refine leads_bind forgetTunnelLac_sim fun _ _ _ => ?_
  refine leads_bind forgetTunnelLns_sim fun _ _ _ => ?_
  exact leads_bind releaseCall_sim fun _ _ _ => forgetCall_sim

/-! ## Closing -/

theorem addVector_sim : Sim assume env allowed (addVector env t) state := by
  refine sim_readTunnel fun tunnel _ => ?_
  split
  · refine leads_bind sim_getEntropy fun _ _ _ => ?_
    exact leads_bind (sim_storeTunnel fun _ => rfl) fun _ _ _ => leads_pure _
  · exact leads_pure _

theorem message_nonempty (type : MsgType) (rest : Bytes) : addMessageTypeAvp type ++ rest ≠ [] := by
  simp [addMessageTypeAvp, addHeader, addNonmandatoryHeader, netBytes]

theorem descheduleTunnel_sim (allow : allowed (.deschedule t)) :
    Sim assume env allowed (descheduleTunnel t) state := by
  apply leads_modify
  have queue : waiting (state.events.filter fun entry => !entry.event.belongs t) =
      (waiting state.events).filter fun buffer => buffer.tunnel ≠ t := by
    unfold waiting
    rw [Multiset.filter_coe, List.filter_filterMap, List.filterMap_filter]
    congr 1
    apply List.filterMap_congr
    rintro ⟨id, tv, event⟩ _
    cases event <;> simp [Event.belongs, Event.buffer?, Option.filter]
  have shown : Daemon.view { state with
      events := state.events.filter fun entry => !entry.event.belongs t } =
      (Action.deschedule t).apply state.view := by
    simp only [Daemon.view, Action.apply]
    rw [queue]
    rfl
  rw [shown]
  exact .act (.deschedule t) allow trivial

theorem withResult_sim :
    Sim assume env allowed (writeCall t c Call.withResult) state :=
  sim_storeCall fun _ => rfl

theorem stopCcnBody_sim : Sim assume env allowed (stopCcnBody env t) state :=
  leads_bind addVector_sim fun _ _ _ => leads_bind withResult_sim fun _ _ _ =>
    sim_readTunnel fun _ _ => leads_pure _

theorem cdnBody_sim :
    Sim assume env allowed (cdnBody env t c) state :=
  leads_bind addVector_sim fun _ _ _ => leads_bind withResult_sim fun _ _ _ =>
    sim_readCall fun _ _ => leads_pure _

theorem stopCcnBody_nonempty {after : Daemon} (ran : stopCcnBody env t state = .ok body after) :
    body ≠ [] := by
  obtain ⟨vector, _, _, ran⟩ := bind_ok.mp ran
  obtain ⟨_, _, _, ran⟩ := bind_ok.mp ran
  obtain ⟨tunnel, _, _, ran⟩ := bind_ok.mp ran
  cases ran
  rw [List.append_assoc, List.append_assoc]
  exact message_nonempty _ _

theorem cdnBody_nonempty {after : Daemon} (ran : cdnBody env t c state = .ok body after) :
    body ≠ [] := by
  obtain ⟨vector, _, _, ran⟩ := bind_ok.mp ran
  obtain ⟨_, _, _, ran⟩ := bind_ok.mp ran
  obtain ⟨call, _, _, ran⟩ := bind_ok.mp ran
  cases ran
  rw [List.append_assoc, List.append_assoc]
  exact message_nonempty _ _

def callEffects : List Effect := [.send, .close, .drop]

/-- `call_close` of anything, for a program that stands for the nested one. -/
def Closes (assume : Assume) (env : Env) (close : TunnelRef → CallId → Prog Unit) : Prop :=
  ∀ (allowed : Action → Prop) (state : Daemon) (t : TunnelRef),
    (Allows env tunnelEffects allowed → Sim assume env allowed (close t .self) state) ∧
      ∀ ref, Allows env callEffects allowed → Sim assume env allowed (close t (.call ref)) state

section Close

variable {close : TunnelRef → CallId → Prog Unit} {t : TunnelRef}

theorem send_closes (closes : Closes assume env close) (allows : Allows env [.send] allowed) :
    env.maxRetries = 0 → ∀ later, Sim assume env allowed (close t .self) later :=
  fun spent later =>
    (closes allowed later t).1 ⟨allows.fails spent, allows.fails⟩

theorem closeCallWith_sim (closes : Closes assume env close)
    (allows : Allows env callEffects allowed) :
    Sim assume env allowed (closeCallWith env close t ref) state := by
  have sends : Allows env [.send] allowed := allows.mono (by decide)
  refine sim_readTunnel fun tunnel _ => sim_readCall fun call _ => ?_
  split
  · exact destroyCall_sim (allows.on _ (by simp [Action.effect, Move.effect, callEffects]))
  · refine leads_bind (sim_moveCall (.closeSs tunnel.controlSeqNum) ?_ (fun _ => rfl)
      fun _ _ _ _ => trivial) fun _ _ _ => ?_
    · exact allows.on _ (by simp [Action.effect, Move.effect, CallMove.effect, callEffects])
    refine leads_bind cdnBody_sim fun body _ ran => ?_
    refine leads_bind (sendControlWith_sim (cdnBody_nonempty ran) sends (send_closes closes sends))
      fun _ _ _ => ?_
    exact sim_moveCall .close
      (allows.on _ (by simp [Action.effect, Move.effect, CallMove.effect, callEffects]))
      (fun _ => rfl) fun _ _ _ _ => trivial

theorem closeTunnelWith_sim (closes : Closes assume env close)
    (allows : Allows env tunnelEffects allowed) :
    Sim assume env allowed (closeTunnelWith env close t) state := by
  have sends : Allows env [.send] allowed := allows.mono (by decide)
  refine sim_readTunnel fun tunnel _ => ?_
  refine leads_bind (descheduleTunnel_sim (allows.on _ (by simp [Action.effect, tunnelEffects])))
    fun _ _ _ => ?_
  split
  · exact destroyTunnel_sim (allows.mono (by decide))
  · refine leads_bind (sim_moveCall (.closeSs tunnel.controlSeqNum) ?_ (fun _ => rfl)
      fun _ _ _ _ => trivial) fun _ _ _ => ?_
    · exact allows.on _ (by simp [Action.effect, Move.effect, CallMove.effect, tunnelEffects])
    refine leads_bind stopCcnBody_sim fun body _ ran => ?_
    refine leads_bind
      (sendControlWith_sim (stopCcnBody_nonempty ran) sends (send_closes closes sends))
      fun _ _ _ => ?_
    refine sim_readTunnel fun tunnel _ => ?_
    refine leads_bind (leads_forM _ fun ref _ => ?_) fun _ _ _ => ?_
    · refine leads_bind (sim_release (allows.on _ ?_)) fun _ later _ =>
        (closes allowed later t).2 ref (allows.mono (by decide))
      simp [Action.effect, Move.effect, CallMove.effect, tunnelEffects]
    · exact sim_moveCall .close
        (allows.on _ (by simp [Action.effect, Move.effect, CallMove.effect, tunnelEffects]))
        (fun _ => rfl) fun _ _ _ _ => trivial

end Close

theorem callCloseN_closes (depth : Nat) : Closes assume env (callCloseN env depth) := by
  induction depth with
  | zero => exact fun allowed state t => ⟨fun _ => leads_throw _, fun _ _ => leads_throw _⟩
  | succ depth ih =>
    intro allowed state t
    exact ⟨fun allows => closeTunnelWith_sim ih allows,
      fun ref allows => closeCallWith_sim ih allows⟩

theorem callClose_tunnel_sim (allows : Allows env tunnelEffects allowed) :
    Sim assume env allowed (callClose env t .self) state :=
  (callCloseN_closes 3 allowed state t).1 allows

theorem callClose_call_sim (allows : Allows env callEffects allowed) :
    Sim assume env allowed (callClose env t (.call ref)) state :=
  (callCloseN_closes 3 allowed state t).2 ref allows

theorem sendControl_sim (nonempty : body ≠ []) (allows : Allows env [.send] allowed) :
    Sim assume env allowed (sendControl env t c body) state :=
  sendControlWith_sim nonempty allows (send_closes (callCloseN_closes 3) allows)

end Xl2tpd
