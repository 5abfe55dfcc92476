import Xl2tpd.Avp
import Xl2tpd.Sim.Call

/-!
# The AVPs of a message as actions

The only thing a handler stores that the abstract daemon knows is the peer's host name. The
Message Type AVP decides what the message may do, and with an ICRQ it makes a call.
-/

namespace Xl2tpd

set_option autoImplicit false

open Program

variable {field : String} {least success : Bool} {size : Nat} {buffer : RecvBuf}
  {before view : View} {u : TunnelRef} {core : TunnelCore} {type : MsgType} {call : CallCore}

variable {assume : Assume} {env : Env} {allowed : Action → Prop} {state : Daemon}
  {t : TunnelRef} {c : CallId} {store : TunnelRef → CallId → Bytes → Nat → Prog Unit}
  {change : TunnelCore → TunnelCore} {after : Daemon} {first : Bool} {data : Bytes}
  {message : Bytes} {appropriate : List MsgType} {error : Int}

/-- What tells a call that nothing has happened to: its owner and its state. -/
def CallCore.trait (core : CallCore) : Option LnsRef × CallState := (core.lns, core.state)

/-- The type of the message is admitted, and an ICRQ has made its call for the LNS entry. -/
structure View.vetted (view : View) (t : TunnelRef) (c : CallId) : Prop where
  admits : ∀ core call type, view.tunnel? t = some core → core.call? c = some call →
    call.msgtype = some type → admitted core.state c call.state type = true
  rings : ∀ core call, view.tunnel? t = some core → core.call? c = some call →
    call.msgtype = some .ICRQ → core.calls.head?.map CallCore.trait = some (core.lns, .idle)

theorem wrongLength_sim {expected found : Nat} (permits : Permits [.mark] allowed) :
    Sim assume env allowed (wrongLength t c field expected found least) state :=
  sim_mark (permits _ (by simp [Action.effect, Move.effect, CallMove.effect])) fun _ => rfl

/-- A handler other than that of the message type. -/
def Stores (assume : Assume) (env : Env) (handler : Handler) : Prop :=
  ∀ (allowed : Action → Prop) (state : Daemon) (t : TunnelRef) (c : CallId) (data : Bytes)
    (len : Nat), Permits [.mark, .name] allowed → (assume.admitted → state.view.vetted t c) →
      Sim assume env allowed (handler t c data len) state

theorem storeAvp_stores
    (stores : ∀ (allowed : Action → Prop) (state : Daemon) (t : TunnelRef) (c : CallId)
      (data : Bytes) (len : Nat), Permits [.name] allowed →
      (assume.admitted → state.view.vetted t c) →
      (∃ call type, state.call? t c = some call ∧ call.msgtype = some type ∧ type ∈ appropriate) →
      Sim assume env allowed (store t c data len) state) :
    Stores assume env (storeAvp appropriate field size least store) := by
  intro allowed state t c data len permits vetted
  refine sim_readCall fun call found => sim_ite (fun _ => leads_pure _) fun belongs => ?_
  refine sim_ite (fun _ => ?_) fun _ => ?_
  · exact leads_bind (wrongLength_sim (permits.mono (by decide))) fun _ _ _ => leads_pure _
  · refine leads_bind (stores allowed state t c data len (permits.mono (by decide)) vetted ?_)
      fun _ _ _ => leads_pure _
    have member : call.msgtype ∈ appropriate.map some := by
      simpa using belongs
    obtain ⟨type, listed, same⟩ := List.mem_map.mp member
    exact ⟨call, type, found, same.symm, listed⟩

theorem storeAvp_stores_quiet
    (quiet : ∀ (allowed : Action → Prop) (state : Daemon) (t : TunnelRef) (c : CallId)
      (data : Bytes) (len : Nat), Sim assume env allowed (store t c data len) state) :
    Stores assume env (storeAvp appropriate field size least store) :=
  storeAvp_stores fun allowed state t c data len _ _ _ => quiet allowed state t c data len

theorem writeHead_sim {change : Call → Call} (keeps : ∀ call, (change call).core = call.core) :
    Sim assume env allowed (writeHead t change) state := by
  unfold writeHead callHead
  refine leads_bind (sim_readTunnel fun _ _ => sim_nonNull fun _ _ => leads_pure _) fun _ _ _ => ?_
  exact sim_storeCall keeps

theorem refuseLength_sim {expected found : Nat} (permits : Permits [.mark, .name] allowed) :
    Sim assume env allowed (do wrongLength t c field expected found least; pure false) state :=
  leads_bind (wrongLength_sim (permits.mono (by decide))) fun _ _ _ => leads_pure _

theorem resultCodeAvp_stores : Stores assume env resultCodeAvp := by
  intro allowed state t c data len permits _
  refine sim_ite (fun _ => refuseLength_sim permits) fun _ => sim_readCall fun call _ => ?_
  refine sim_ite (fun _ => leads_pure _) fun _ => sim_ite (fun _ => leads_pure _) fun _ => ?_
  refine sim_ite (fun _ => leads_pure _) fun _ => ?_
  exact leads_bind (sim_storeCall fun _ => rfl) fun _ _ _ => leads_pure _

theorem protocolVersionAvp_stores : Stores assume env protocolVersionAvp := by
  intro allowed state t c data len permits _
  exact sim_ite (fun _ => refuseLength_sim permits) fun _ => leads_pure _

theorem seqReqdAvp_stores : Stores assume env seqReqdAvp := by
  intro allowed state t c data len permits _
  refine sim_ite (fun _ => refuseLength_sim permits) fun _ => sim_readCall fun call _ => ?_
  refine sim_ite (fun _ => leads_pure _) fun _ => ?_
  exact leads_bind (sim_storeCall fun _ => rfl) fun _ _ _ => leads_pure _

theorem randVectorAvp_stores : Stores assume env randVectorAvp := by
  intro allowed state t c data len permits _
  refine sim_ite (fun _ => refuseLength_sim permits) fun _ => ?_
  exact leads_bind (sim_storeTunnel fun _ => rfl) fun _ _ _ => leads_pure _

theorem chalrespAvp_stores : Stores assume env chalrespAvp := by
  intro allowed state t c data len permits _
  refine sim_readCall fun call _ => sim_ite (fun _ => leads_pure _) fun _ => ?_
  refine sim_ite (fun _ => refuseLength_sim permits) fun _ => ?_
  refine sim_ite (fun _ => leads_pure _) fun _ => ?_
  exact leads_bind (sim_storeTunnel fun _ => rfl) fun _ _ _ => leads_pure _

theorem callSernoAvp_stores : Stores assume env callSernoAvp := by
  intro allowed state t c data len permits _
  refine sim_readCall fun call _ => sim_ite (fun _ => leads_pure _) fun _ => ?_
  exact leads_bind (writeHead_sim fun _ => rfl) fun _ _ _ => leads_pure _

theorem assignedTunnelAvp_stores : Stores assume env assignedTunnelAvp := by
  refine storeAvp_stores_quiet fun allowed state t c data len => ?_
  refine sim_readCall fun call _ => sim_storeTunnel fun tunnel => ?_
  split <;> rfl

theorem assignedCallAvp_stores : Stores assume env assignedCallAvp := by
  refine storeAvp_stores_quiet fun allowed state t c data len => ?_
  refine sim_readCall fun call _ => ?_
  split
  · exact sim_storeCall fun _ => rfl
  · exact writeHead_sim fun _ => rfl
  · exact sim_storeCall fun _ => rfl

theorem hostnameAvp_stores : Stores assume env hostnameAvp := by
  refine storeAvp_stores fun allowed state t c data len permits vetted belongs => ?_
  refine sim_move (.hostname (avpText data len))
    (permits _ (by simp [Action.effect, Move.effect])) (fun _ => rfl) ?_
  intro tunnel found assumed
  obtain ⟨call, type, foundCall, typed, listed⟩ := belongs
  obtain ⟨same, foundSame, inTunnel⟩ := call_some foundCall
  rw [found] at foundSame
  cases foundSame
  have admits := (vetted assumed).admits tunnel.core call.core type (view_tunnel_some found)
    (by rw [core_call, inTunnel]; rfl) typed
  simp only [List.mem_cons, List.not_mem_nil, or_false] at listed
  rcases listed with rfl | rfl
  · revert admits
    cases tunnel.core.state <;> simp [admitted, admits, TunnelState.opening]
  · revert admits
    cases tunnel.core.state <;> simp [admitted, admits, TunnelState.opening]

theorem ignoreAvp_stores : Stores assume env ignoreAvp :=
  fun _ _ _ _ _ _ _ _ => leads_pure _

theorem avpHandler_stores {attr : Nat} {handler : Handler}
    (listed : avpHandler env attr = some handler) (other : attr ≠ 0) :
    Stores assume env handler := by
  unfold avpHandler at listed
  split at listed <;> cases listed
  · exact absurd rfl other
  · exact resultCodeAvp_stores
  · exact protocolVersionAvp_stores
  iterate 3 on_goal 1 =>
    exact storeAvp_stores_quiet fun _ _ _ _ _ _ => sim_storeTunnel fun _ => rfl
  · exact hostnameAvp_stores
  · exact storeAvp_stores_quiet fun _ _ _ _ _ _ => sim_storeTunnel fun _ => rfl
  · exact assignedTunnelAvp_stores
  · exact storeAvp_stores_quiet fun _ _ _ _ _ _ => sim_storeTunnel fun _ => rfl
  · exact storeAvp_stores_quiet fun _ _ _ _ _ _ => sim_storeTunnel fun _ => rfl
  · exact chalrespAvp_stores
  · exact assignedCallAvp_stores
  · exact callSernoAvp_stores
  · exact storeAvp_stores_quiet fun _ _ _ _ _ _ => writeHead_sim fun _ => rfl
  · exact storeAvp_stores_quiet fun _ _ _ _ _ _ => sim_storeCall fun _ => rfl
  · exact storeAvp_stores_quiet fun _ _ _ _ _ _ => sim_storeCall fun _ => rfl
  iterate 3 on_goal 1 =>
    exact storeAvp_stores_quiet fun _ _ _ _ _ _ => writeHead_sim fun _ => rfl
  · exact storeAvp_stores_quiet fun _ _ _ _ _ _ => sim_storeCall (by simp [Call.core])
  · exact storeAvp_stores_quiet fun _ _ _ _ _ _ => writeHead_sim (by simp [Call.core])
  all_goals first
    | exact ignoreAvp_stores
    | exact randVectorAvp_stores
    | exact seqReqdAvp_stores
    | exact storeAvp_stores_quiet fun _ _ _ _ _ _ => sim_storeCall (by simp [Call.core])

/-! ## The message type -/

theorem newCall_run (env : Env) (tunnel : Tunnel) (state : Daemon) :
    ∃ call after, newCall env (some tunnel) state = .ok call after ∧
      call.core = { CallCore.blank state.fresh with lns := tunnel.lns, lac := tunnel.lac } ∧
      after.view = { state.view with fresh := state.fresh + 1 } :=
  ⟨_, _, rfl, rfl, rfl⟩

theorem newCall_tunnels {parent : Option Tunnel} {call : Call}
    (ran : newCall env parent state = .ok call after) : after.tunnels = state.tunnels := by
  cases parent <;> cases ran <;> rfl

/-- A call is made and linked at once, under a reference that no call has had. -/
theorem sim_ring {Value : Type} {tunnel : Tunnel} {change : Call → Call}
    {next : Call → Prog Value} (allow : ∀ added, allowed (.move t (.addCall added)))
    (shape : ∀ call, ∃ lns lac, (change call).core = { call.core with lns := lns, lac := lac })
    (rest : ∀ call made linked, newCall env (some tunnel) state = .ok call made →
      linkCall t (change call) made = .ok () linked → Sim assume env allowed (next call) linked) :
    Sim assume env allowed (newCall env (some tunnel) >>= fun call =>
      linkCall t (change call) >>= fun _ => next call) state := by
  obtain ⟨call, made, ranMake, core, viewMade⟩ := newCall_run env tunnel state
  have tunnels := newCall_tunnels ranMake
  have bump : ∀ view : View, Acts assume env allowed view { view with fresh := view.fresh + 1 } :=
    fun view => .quiet (Quiet.bump view)
  unfold Sim Leads
  rw [bind_run ranMake]
  cases found : made.tunnel? t with
  | none =>
    have stuck : (linkCall t (change call) >>= fun _ => next call) made = .error .freed made :=
      bind_stuck (bind_stuck (deref_stuck found))
    rw [stuck]
    change Relation.ReflTransGen _ _ made.view
    rw [viewMade]
    exact Relation.ReflTransGen.single (bump state.view)
  | some old =>
    have ranLink : linkCall t (change call) made = _ := writeTunnel_run found
    have later := rest call made _ ranMake ranLink
    rw [bind_run ranLink]
    obtain ⟨lns, lac, changed⟩ := shape call
    have foundOld : state.tunnel? t = some old := by
      rw [← found]
      unfold Daemon.tunnel?
      rw [tunnels]
    have act : Acts assume env allowed state.view
        ((Action.move t (.addCall (change call).core)).apply state.view) := by
      refine .act _ (allow _) ⟨old.core, view_tunnel_some foundOld, ?_⟩
      rw [changed, core]
      exact ⟨Nat.le_refl _, rfl, rfl, rfl, rfl⟩
    have linkedView : (made.setTunnel t fun tunnel =>
        { tunnel with calls := change call :: tunnel.calls, count := tunnel.count + 1 }).view =
        { (Action.move t (.addCall (change call).core)).apply state.view with
          fresh := state.view.fresh + 1 } := by
      have shown : (made.setTunnel t fun tunnel =>
          { tunnel with calls := change call :: tunnel.calls, count := tunnel.count + 1 }).view =
          (Action.move t (.addCall (change call).core)).apply made.view :=
        view_setTunnel fun _ => rfl
      rw [shown, viewMade]
      rfl
    have bumped := bump ((Action.move t (.addCall (change call).core)).apply state.view)
    rw [show ((Action.move t (.addCall (change call).core)).apply state.view).fresh =
      state.view.fresh from rfl, ← linkedView] at bumped
    exact Relation.ReflTransGen.head act (Relation.ReflTransGen.head bumped later)

/-- Where `message_type_avp` leaves the abstract daemon, whatever its verdict. -/
inductive Typed (t : TunnelRef) (c : CallId) (type : MsgType) (before : View) : Bool → View → Prop
  | refused {after : View}
      (left : after = (Action.move t (.call c (.msgtype (some type)))).apply before) :
      Typed t c type before false after
  | garbled {after : View}
      (left : after = (Action.move t (.call c .mark)).apply
        ((Action.move t (.call c (.msgtype (some type)))).apply before)) :
      Typed t c type before false after
  | taken {core : TunnelCore} {call : CallCore} {after : View}
      (found : before.tunnel? t = some core) (foundCall : core.call? c = some call)
      (admits : admitted core.state c call.state type = true) (other : type ≠ .ICRQ)
      (left : after = (Action.move t (.call c (.msgtype (some type)))).apply before) :
      Typed t c type before true after
  | called {core : TunnelCore} {after : View} (ref : CallRef)
      (found : before.tunnel? t = some core) (ready : core.state = .SCCCN) (onSelf : c = .self)
      (incoming : type = .ICRQ) (unused : ref = before.fresh)
      (left : after = { (Action.move t (.addCall
          { CallCore.blank ref with lns := core.lns, lac := core.lac })).apply
        ((Action.move t (.call c (.msgtype (some type)))).apply before) with fresh := ref + 1 }) :
      Typed t c type before true after

theorem messageTypeAvp_typed {len : Nat}
    (ran : messageTypeAvp env t c data len state = .ok success after) :
    Typed t c (MsgType.ofNat (avpWord data 3).toNat) state.view success after.view := by
  generalize named : MsgType.ofNat (avpWord data 3).toNat = type
  unfold messageTypeAvp at ran
  rw [named] at ran
  obtain ⟨_, typed, wrote, ran⟩ := bind_ok.mp ran
  obtain ⟨tunnel, old, found, foundCall, rfl⟩ := writeCall_ok wrote
  have shown : (state.setCall t c fun call => { call with msgtype := some type }).view =
      (Action.move t (.call c (.msgtype (some type)))).apply state.view :=
    view_setTunnel fun _ => core_setCall fun _ => rfl
  split at ran
  · obtain ⟨_, garbled, wrote, ran⟩ := bind_ok.mp ran
    obtain ⟨_, _, _, _, rfl⟩ := writeCall_ok wrote
    cases ran
    apply Typed.garbled
    rw [← shown]
    exact view_setTunnel fun _ => core_setCall fun _ => rfl
  · obtain ⟨tunnel', _, read, ran⟩ := bind_ok.mp ran
    obtain ⟨foundTunnel, rfl⟩ := deref_ok.mp read
    obtain ⟨call', _, read, ran⟩ := bind_ok.mp ran
    obtain ⟨foundNew, rfl⟩ := deref_ok.mp read
    rw [tunnel_setCall found] at foundTunnel
    cases foundTunnel
    obtain ⟨_, foundTunnel, foundNew⟩ := call_some foundNew
    rw [tunnel_setCall found] at foundTunnel
    cases foundTunnel
    rw [Tunnel.call_setCall (by intro _; rfl), foundCall] at foundNew
    cases foundNew
    have sameState : (tunnel.setCall c fun call => { call with msgtype := some type }).state =
        tunnel.state := by cases c <;> rfl
    have foundCore : tunnel.core.call? c = some old.core := by rw [core_call, foundCall]; rfl
    rw [sameState] at ran
    split at ran
    · cases ran
      exact .refused shown
    · rename_i admits
      replace admits : admitted tunnel.state c old.state type = true := by
        simpa using admits
      split at ran
      · rename_i incoming
        subst incoming
        obtain ⟨call, made, ranNew, core, viewNew⟩ :=
          newCall_run env (tunnel.setCall c fun call => { call with msgtype := some .ICRQ })
            (state.setCall t c fun call => { call with msgtype := some .ICRQ })
        rw [bind_run ranNew] at ran
        obtain ⟨_, linked, wrote, ran⟩ := bind_ok.mp ran
        obtain ⟨_, _, rfl⟩ := writeTunnel_ok wrote
        cases ran
        have onSelf : c = .self := by
          revert admits
          cases c <;> simp [admitted, admits]
        have ready : tunnel.state = .SCCCN := by
          revert admits
          cases tunnel.state <;> simp [admitted, admits]
        subst onSelf
        refine .called state.fresh (view_tunnel_some found) ready rfl rfl rfl ?_
        have linkedView : (made.setTunnel t fun tunnel =>
            { tunnel with calls := call :: tunnel.calls, count := tunnel.count + 1 }).view =
            (Action.move t (.addCall call.core)).apply made.view := view_setTunnel fun _ => rfl
        rw [linkedView, viewNew, shown, core]
        rfl
      · rename_i other
        cases ran
        exact .taken (view_tunnel_some found) foundCore admits other shown

/-! ## The loop -/

/-- An invariant of the loop of `handle_avps` and what is left of it when a message is
refused. -/
structure AvpRule (env : Env) (t : TunnelRef) (c : CallId) (invariant refused : View → Prop) :
    Prop where
  weak : ∀ view, invariant view → refused view
  steady : ∀ before after, Acts .none env (fun action => action.effect ∈ [.mark, .name]) before
    after → invariant before → invariant after
  marked : ∀ view, refused view → refused ((Action.move t (.call c .mark)).apply view)
  typed : ∀ before after type mandatory success, invariant before →
    Typed t c type before success after →
    if success || !mandatory then invariant (after.log [.verdict t c type mandatory success])
    else refused (after.log [.verdict t c type mandatory success])

def AvpStep.leaves (invariant refused : View → Prop) (view : View) : AvpStep → Prop
  | .refused => refused view
  | .next _ _ => invariant view

section Loop

variable {invariant refused : View → Prop} {data : Bytes} {len : Int} {length : Nat}
  {step : AvpStep} {after : Daemon}

section

variable (rule : AvpRule env t c invariant refused)

include rule

theorem skipAvp_leaves (start : invariant state.view) :
    (skipAvp data len length).leaves invariant refused state.view := by
  unfold skipAvp
  split
  · exact rule.weak _ start
  · exact start

theorem refuseAvp_leaves (start : invariant state.view)
    (ran : refuseAvp t c error message state = .ok step after) :
    step.leaves invariant refused after.view := by
  obtain ⟨_, _, wrote, ran⟩ := bind_ok.mp ran
  obtain ⟨_, _, _, _, rfl⟩ := writeCall_ok wrote
  cases ran
  unfold AvpStep.leaves
  rw [view_setCall .mark (by intro _; rfl)]
  exact rule.marked _ (rule.weak _ start)

theorem handler_keeps {attr : Nat} {handler : Handler}
    (listed : avpHandler env attr = some handler) (other : attr ≠ 0)
    (start : invariant state.view) (ran : handler t c data size state = .ok success after) :
    invariant after.view := by
  have sim : Sim .none env (fun action => action.effect ∈ [.mark, .name])
      (handler t c data size) state :=
    avpHandler_stores listed other _ state t c data size (fun _ member => member) False.elim
  have kept := leads_invariant sim rule.steady start
  rw [ran] at kept
  exact kept

theorem dispatchAvp_leaves (start : invariant state.view)
    (ran : dispatchAvp env t c data len length state = .ok step after) :
    step.leaves invariant refused after.view := by
  cases listed : avpHandler env (hostWord data 4).toNat with
  | none =>
    simp only [dispatchAvp, listed] at ran
    split at ran
    · exact refuseAvp_leaves rule start ran
    · cases ran
      exact skipAvp_leaves rule start
  | some handler =>
    simp only [dispatchAvp, listed] at ran
    obtain ⟨success, handled, ranHandler, ran⟩ := bind_ok.mp ran
    obtain ⟨_, noted, emitted, ran⟩ := bind_ok.mp ran
    have verdict : if success || !ambit (hostWord data 0) then invariant noted.view
        else refused noted.view := by
      by_cases typing : (hostWord data 4).toNat = 0
      · rw [typing] at listed emitted
        cases listed
        cases emitted
        exact rule.typed _ _ _ _ success start (messageTypeAvp_typed ranHandler)
      · have kept := handler_keeps rule listed typing start ranHandler
        rw [decide_eq_false typing] at emitted
        cases emitted
        split
        · exact kept
        · exact rule.weak _ kept
    cases success with
    | true =>
      cases ran
      exact skipAvp_leaves rule verdict
    | false =>
      cases mandatory : ambit (hostWord data 0) with
      | true =>
        rw [mandatory] at ran verdict
        obtain ⟨_, _, wrote, ran⟩ := bind_ok.mp ran
        obtain ⟨_, _, _, _, rfl⟩ := writeCall_ok wrote
        cases ran
        unfold AvpStep.leaves
        rw [view_setCall .mark (by intro _; rfl)]
        exact rule.marked _ verdict
      | false =>
        rw [mandatory] at ran verdict
        cases ran
        exact skipAvp_leaves rule verdict

theorem handleAvp_leaves (start : invariant state.view)
    (ran : handleAvp env t c first data len state = .ok step after) :
    step.leaves invariant refused after.view := by
  simp only [handleAvp] at ran
  split at ran
  · split at ran
    · exact refuseAvp_leaves rule start ran
    · cases ran
      exact skipAvp_leaves rule start
  split at ran
  · exact refuseAvp_leaves rule start ran
  split at ran
  · exact refuseAvp_leaves rule start ran
  split at ran
  · exact refuseAvp_leaves rule start ran
  split at ran
  · split at ran
    · exact refuseAvp_leaves rule start ran
    · cases ran
      exact skipAvp_leaves rule start
  split at ran
  · obtain ⟨tunnel, _, read, rest⟩ := bind_ok.mp ran
    obtain ⟨_, rfl⟩ := deref_ok.mp read
    cases decrypted : decryptAvp env tunnel.chalUs (swaps 3 data) with
    | none =>
      simp only [decrypted] at rest
      split at rest
      · exact refuseAvp_leaves rule start rest
      · cases rest
        exact skipAvp_leaves rule start
    | some plain =>
      simp only [decrypted] at rest
      exact dispatchAvp_leaves rule start rest
  · exact dispatchAvp_leaves rule start ran

theorem handleAvpsLoop_leaves {fuel : Nat} {first good : Bool} (start : invariant state.view)
    (ran : handleAvpsLoop env t c fuel first data len state = .ok good after) :
    if good then invariant after.view else refused after.view := by
  -- Octets left over or missing end the loop in the state of its head.
  have ends : ∀ good state, invariant (Daemon.view state) →
      if good = true then invariant state.view else refused state.view := by
    intro good state holds
    split
    · exact holds
    · exact rule.weak _ holds
  induction fuel generalizing first data len state with
  | zero =>
    cases ran
    exact ends _ _ start
  | succ fuel ih =>
    unfold handleAvpsLoop at ran
    split at ran
    · cases ran
      exact ends _ _ start
    · obtain ⟨step, later, ranStep, ran⟩ := bind_ok.mp ran
      have left := handleAvp_leaves rule start ranStep
      cases step with
      | refused =>
        cases ran
        exact left
      | next data len => exact ih left ran

theorem handleAvps_leaves {good : Bool} (start : invariant state.view)
    (ran : handleAvps env t c buffer state = .ok good after) :
    if good then invariant after.view else refused after.view :=
  handleAvpsLoop_leaves rule start ran

end

end Loop

/-! ## Refusals that do not count -/

/-- A message type that is refused in an AVP without the M bit: the loop goes on. -/
def Obs.lapse : Obs → Bool
  | .verdict _ _ _ false false => true
  | _ => false

def View.lapses (view : View) : Nat := view.trace.countP Obs.lapse

theorem View.lapses_log (view : View) (notes : List Obs) :
    (view.log notes).lapses = view.lapses + notes.countP Obs.lapse := List.countP_append

/-- As long as no further refusal is passed over, something holds. -/
def View.since (lapses : Nat) (holds : View → Prop) (view : View) : Prop :=
  lapses ≤ view.lapses ∧ (view.lapses = lapses → holds view)

theorem Obs.silent_not_lapse {note : Obs} (silent : note.silent = true) : note.lapse = false := by
  cases note <;> simp_all [Obs.silent, Obs.lapse]

theorem Quiet.lapses {after : View} (quiet : Quiet before after) :
    after.lapses = before.lapses := by
  obtain ⟨notes, trace, silent⟩ := quiet.trace
  have none : notes.countP Obs.lapse = 0 := by
    rw [List.countP_eq_zero]
    intro note member
    rw [Obs.silent_not_lapse (silent note member)]
    exact Bool.false_ne_true
  unfold View.lapses
  rw [trace, List.countP_append, none, Nat.add_zero]

/-- A tunnel and its call have the states they had, and the call its message type. -/
def Recalls (t : TunnelRef) (c : CallId) (before after : View) : Prop :=
  ∀ core call, after.tunnel? t = some core → core.call? c = some call →
    ∃ old oldCall, before.tunnel? t = some old ∧ old.call? c = some oldCall ∧
      core.state = old.state ∧ call.state = oldCall.state ∧ call.msgtype = oldCall.msgtype

theorem recalls_setTunnel (named : ∀ core, (change core).ref = core.ref)
    (keeps : ∀ core, (change core).state = core.state)
    (calls : ∀ core call', (change core).call? c = some call' →
      ∃ call, core.call? c = some call ∧ call'.msgtype = call.msgtype ∧ call'.state = call.state) :
    Recalls t c view (view.setTunnel u change) := by
  intro core call found foundCall
  rw [View.tunnel_setTunnel named] at found
  split at found
  · obtain ⟨old, foundOld, rfl⟩ := Option.map_eq_some_iff.mp found
    obtain ⟨oldCall, foundOldCall, sameType, sameState⟩ := calls old call foundCall
    exact ⟨old, oldCall, foundOld, foundOldCall, keeps old, sameState, sameType⟩
  · exact ⟨core, call, found, foundCall, rfl, rfl, rfl⟩

/-- A tunnel has the LNS entry it had, and the same first call, as far as they tell. -/
def Rings (t : TunnelRef) (before after : View) : Prop :=
  ∀ core, after.tunnel? t = some core → ∃ old, before.tunnel? t = some old ∧ core.lns = old.lns ∧
    core.calls.head?.map CallCore.trait = old.calls.head?.map CallCore.trait

theorem rings_setTunnel (named : ∀ core, (change core).ref = core.ref)
    (keeps : ∀ core, (change core).lns = core.lns ∧
      (change core).calls.head?.map CallCore.trait = core.calls.head?.map CallCore.trait) :
    Rings t view (view.setTunnel u change) := by
  intro core found
  rw [View.tunnel_setTunnel named] at found
  split at found
  · obtain ⟨old, foundOld, rfl⟩ := Option.map_eq_some_iff.mp found
    exact ⟨old, foundOld, keeps old⟩
  · exact ⟨core, found, rfl, rfl⟩

theorem TunnelCore.trait_setCall {change : CallCore → CallCore}
    (keeps : ∀ call, (change call).trait = call.trait) :
    (core.setCall c change).lns = core.lns ∧
      (core.setCall c change).calls.head?.map CallCore.trait =
        core.calls.head?.map CallCore.trait := by
  cases c with
  | self => exact ⟨rfl, rfl⟩
  | call ref =>
    refine ⟨rfl, ?_⟩
    simp only [TunnelCore.setCall]
    rw [← List.head?_map, ← List.head?_map, Keyed.map_update_same keeps]

theorem View.vetted_recalls {after : View} (recalls : Recalls t c before after)
    (rings : Rings t before after) (vetted : before.vetted t c) : after.vetted t c where
  admits := by
    intro core call type found foundCall typed
    obtain ⟨old, oldCall, foundOld, foundOldCall, state, callState, sameType⟩ :=
      recalls core call found foundCall
    rw [state, callState]
    exact vetted.admits old oldCall type foundOld foundOldCall (sameType ▸ typed)
  rings := by
    intro core call found foundCall typed
    obtain ⟨old, oldCall, foundOld, foundOldCall, _, _, sameType⟩ :=
      recalls core call found foundCall
    obtain ⟨same, foundSame, lns, head⟩ := rings core found
    cases foundOld.symm.trans foundSame
    rw [lns, head]
    exact vetted.rings old oldCall foundOld foundOldCall (sameType ▸ typed)

theorem TunnelCore.call_mark {d : CallId} {call' : CallCore}
    (found : (core.setCall d CallMove.mark.apply).call? c = some call') :
    ∃ call, core.call? c = some call ∧ call'.msgtype = call.msgtype ∧ call'.state = call.state := by
  rw [TunnelCore.call_setCall fun call => CallMove.apply_ref .mark call] at found
  split at found
  · obtain ⟨call, foundCall, rfl⟩ := Option.map_eq_some_iff.mp found
    exact ⟨call, foundCall, rfl, rfl⟩
  · exact ⟨call', found, rfl, rfl⟩

theorem Action.stores_cases {action : Action} (stores : action.effect ∈ [.mark, .name]) :
    (∃ u name, action = .move u (.hostname name)) ∨ ∃ u d, action = .move u (.call d .mark) := by
  cases action with
  | move u change =>
    cases change with
    | hostname name => exact .inl ⟨u, name, rfl⟩
    | call d move =>
      cases move with
      | mark => exact .inr ⟨u, d, rfl⟩
      | _ => simp [Action.effect, Move.effect, CallMove.effect] at stores
    | _ => simp [Action.effect, Move.effect] at stores
  | draw u value answering => cases answering <;> simp [Action.effect] at stores
  | note observed => cases observed <;> simp [Action.effect, Obs.effect] at stores
  | _ => simp [Action.effect] at stores

theorem recalls_mark {d : CallId} :
    Recalls t c view ((Action.move u (.call d .mark)).apply view) := by
  refine recalls_setTunnel (Move.apply_ref _) (fun core => ?_) fun _ _ => TunnelCore.call_mark
  cases d <;> rfl

section

variable {after : View}
  (acts : Acts .none env (fun action => action.effect ∈ [.mark, .name]) before after)

include acts

theorem recalls_stores : Recalls t c before after := by
  cases acts with
  | quiet same =>
    intro core call found foundCall
    refine ⟨core, call, ?_, foundCall, rfl, rfl, rfl⟩
    rw [View.tunnel?, ← same.tunnels]
    exact found
  | act action stores _ =>
    rcases Action.stores_cases stores with ⟨u, name, rfl⟩ | ⟨u, d, rfl⟩
    · exact recalls_setTunnel (fun _ => rfl) (fun _ => rfl)
        fun core call' found => ⟨call', found, rfl, rfl⟩
    · exact recalls_mark

theorem rings_stores : Rings t before after := by
  cases acts with
  | quiet same =>
    intro core found
    refine ⟨core, ?_, rfl, rfl⟩
    rw [View.tunnel?, ← same.tunnels]
    exact found
  | act action stores _ =>
    rcases Action.stores_cases stores with ⟨u, name, rfl⟩ | ⟨u, d, rfl⟩
    · exact rings_setTunnel (fun _ => rfl) fun _ => ⟨rfl, rfl⟩
    · exact rings_setTunnel (Move.apply_ref _) fun _ => TunnelCore.trait_setCall fun _ => rfl

theorem View.lapses_stores : after.lapses = before.lapses := by
  cases acts with
  | quiet same => exact same.lapses
  | act action stores _ =>
    rcases Action.stores_cases stores with ⟨u, name, rfl⟩ | ⟨u, d, rfl⟩ <;> rfl

end

theorem typed_back
    (found : ((Action.move t (.call c (.msgtype (some type)))).apply view).tunnel? t = some core)
    (foundCall : core.call? c = some call) :
    call.msgtype = some type ∧ ∃ old oldCall, view.tunnel? t = some old ∧
      old.call? c = some oldCall ∧ core.state = old.state ∧ call.state = oldCall.state := by
  simp only [Action.apply] at found
  rw [View.tunnel_setTunnel_same (Move.apply_ref _)] at found
  obtain ⟨old, foundOld, rfl⟩ := Option.map_eq_some_iff.mp found
  simp only [Move.apply] at foundCall ⊢
  rw [TunnelCore.call_setCall (CallMove.apply_ref _), if_pos rfl] at foundCall
  obtain ⟨oldCall, foundOldCall, rfl⟩ := Option.map_eq_some_iff.mp foundCall
  refine ⟨rfl, old, oldCall, foundOld, foundOldCall, ?_, rfl⟩
  cases c <;> rfl

theorem recalls_addCall {added : CallCore} {fresh : Nat} :
    Recalls t .self view { (Action.move t (.addCall added)).apply view with fresh := fresh } := by
  have added' : Recalls t .self view (view.setTunnel t (Move.addCall added).apply) :=
    recalls_setTunnel (Move.apply_ref _) (fun _ => rfl)
      fun core call' found => ⟨call', found, rfl, rfl⟩
  exact added'

theorem Typed.back {after : View} (typed : Typed t c type before success after)
    (found : after.tunnel? t = some core) (foundCall : core.call? c = some call) :
    call.msgtype = some type ∧ ∃ old oldCall, before.tunnel? t = some old ∧
      old.call? c = some oldCall ∧ core.state = old.state ∧ call.state = oldCall.state := by
  -- What comes after the type is stored changes neither it nor the states.
  have carry : Recalls t c ((Action.move t (.call c (.msgtype (some type)))).apply before) after →
      call.msgtype = some type ∧ ∃ old oldCall, before.tunnel? t = some old ∧
        old.call? c = some oldCall ∧ core.state = old.state ∧ call.state = oldCall.state := by
    intro recalls
    obtain ⟨core', call', found', foundCall', state, callState, sameType⟩ :=
      recalls core call found foundCall
    obtain ⟨stored, old, oldCall, foundOld, foundOldCall, state', callState'⟩ :=
      typed_back found' foundCall'
    exact ⟨sameType.trans stored, old, oldCall, foundOld, foundOldCall, state.trans state',
      callState.trans callState'⟩
  cases typed with
  | refused left | taken _ _ _ _ left =>
    rw [left] at found
    exact typed_back found foundCall
  | garbled left =>
    refine carry ?_
    rw [left]
    exact recalls_mark
  | called _ _ _ onSelf _ _ left =>
    refine carry ?_
    rw [left]
    subst onSelf
    exact recalls_addCall

section

variable {after : View} {type' : MsgType} (typed : Typed t c type before true after)
  (found : after.tunnel? t = some core) (foundCall : core.call? c = some call)

include typed found foundCall

theorem Typed.admits (stored : call.msgtype = some type') :
    admitted core.state c call.state type' = true := by
  obtain ⟨same, old, oldCall, foundOld, foundOldCall, state, callState⟩ :=
    typed.back found foundCall
  rw [same] at stored
  cases stored
  rw [state, callState]
  cases typed with
  | taken foundBefore foundCallBefore admits _ _ =>
    rw [foundBefore] at foundOld
    cases foundOld
    rw [foundCallBefore] at foundOldCall
    cases foundOldCall
    exact admits
  | called _ foundBefore ready onSelf incoming _ _ =>
    rw [foundBefore] at foundOld
    cases foundOld
    rw [ready, onSelf, incoming]
    cases oldCall.state <;> rfl

theorem Typed.rings (stored : call.msgtype = some .ICRQ) :
    core.calls.head?.map CallCore.trait = some (core.lns, .idle) := by
  obtain ⟨isType, _⟩ := typed.back found foundCall
  rw [isType] at stored
  cases stored
  cases typed with
  | taken _ _ _ other _ => exact absurd rfl other
  | @called old _ ref foundBefore _ onSelf _ _ left =>
    subst onSelf
    rw [left] at found
    have twice : ((before.setTunnel t (Move.call .self (.msgtype (some .ICRQ))).apply).setTunnel t
        (Move.addCall { CallCore.blank ref with lns := old.lns, lac := old.lac }).apply).tunnel? t =
        some core := found
    rw [View.tunnel_setTunnel_same (Move.apply_ref _),
      View.tunnel_setTunnel_same (Move.apply_ref _), foundBefore] at twice
    cases twice
    rfl

end

theorem Typed.vetted {after : View} (typed : Typed t c type before true after) : after.vetted t c :=
  ⟨fun _ _ _ => typed.admits, fun _ _ => typed.rings⟩

theorem Typed.trace {after : View} (typed : Typed t c type before success after) :
    after.trace = before.trace := by
  cases typed with
  | refused left | garbled left | taken _ _ _ _ left | called _ _ _ _ _ _ left =>
    rw [left]
    rfl

/-- What a message type that is taken brings about and no other AVP undoes. -/
structure Typical (env : Env) (t : TunnelRef) (c : CallId) (holds : View → Prop) : Prop where
  stores : ∀ before after, Acts .none env (fun action => action.effect ∈ [.mark, .name]) before
    after → holds before → holds after
  taken : ∀ before after type mandatory, Typed t c type before true after →
    holds (after.log [.verdict t c type mandatory true])

theorem since_rule {holds : View → Prop} (typical : Typical env t c holds) (lapses : Nat) :
    AvpRule env t c (View.since lapses holds) fun view => lapses ≤ view.lapses where
  weak := fun view since => since.1
  steady := by
    rintro before after acts ⟨least, since⟩
    unfold View.since
    rw [View.lapses_stores acts]
    exact ⟨least, fun same => typical.stores before after acts (since same)⟩
  marked := fun view least => least
  typed := by
    rintro before after type mandatory success ⟨least, _⟩ typed
    have same : after.lapses = before.lapses := by
      unfold View.lapses
      rw [typed.trace]
    have logged := after.lapses_log [.verdict t c type mandatory success]
    rw [same] at logged
    cases success with
    | true =>
      refine ⟨?_, fun _ => typical.taken before after type mandatory typed⟩
      omega
    | false =>
      cases mandatory with
      | true =>
        change lapses ≤ View.lapses _
        omega
      | false =>
        refine ⟨?_, fun clean => ?_⟩
        · omega
        · have lapse : [Obs.verdict t c type false false].countP Obs.lapse = 1 := rfl
          omega

theorem vetted_typical : Typical env t c fun view => view.vetted t c where
  stores := fun _ _ acts vetted =>
    View.vetted_recalls (recalls_stores acts) (rings_stores acts) vetted
  taken := fun _ _ _ _ typed => ⟨typed.vetted.admits, typed.vetted.rings⟩

/-! ## Simulation of the loop -/

theorem messageTypeAvp_sim {len : Nat} (permits : Permits [.mark, .msgtype, .call] allowed) :
    Sim assume env allowed (messageTypeAvp env t c data len) state := by
  refine leads_bind (sim_moveCall (.msgtype (some _)) ?_ (fun _ => rfl) fun _ _ _ _ => trivial)
    fun _ _ _ => ?_
  · exact permits _ (by simp [Action.effect, Move.effect, CallMove.effect])
  refine sim_ite (fun _ => ?_) fun _ => ?_
  · exact leads_bind (wrongLength_sim (permits.mono (by decide))) fun _ _ _ => leads_pure _
  refine sim_readTunnel fun tunnel _ => sim_readCall fun call _ => ?_
  refine sim_ite (fun _ => leads_pure _) fun _ => sim_ite (fun _ => ?_) fun _ => leads_pure _
  refine sim_ring (fun _ => ?_) (fun call => ⟨call.lns, call.lac, rfl⟩) fun _ _ _ _ _ => leads_pure _
  exact permits _ (by simp [Action.effect, Move.effect])

theorem acts_lapses_le {after : View}
    (chain : Relation.ReflTransGen (Acts assume env allowed) before after) :
    before.lapses ≤ after.lapses :=
  (acts_trace_grows chain).sublist.countP_le

/-- What the AVPs of a message can do. -/
def avpEffects : List Effect := [.mark, .name, .msgtype, .call]

section Loop

variable {data : Bytes} {len : Int}

section

variable (permits : Permits avpEffects allowed)

include permits

theorem refuseAvp_sim :
    Sim assume env allowed (refuseAvp t c error message) state :=
  leads_bind (sim_mark (permits _ (by
    simp [Action.effect, Move.effect, CallMove.effect, avpEffects])) fun _ => rfl)
    fun _ _ _ => leads_pure _

theorem dispatchAvp_sim {length : Nat} (vetted : assume.admitted → state.view.vetted t c) :
    Sim assume env allowed (dispatchAvp env t c data len length) state := by
  cases listed : avpHandler env (hostWord data 4).toNat with
  | none =>
    simp only [dispatchAvp, listed]
    exact sim_ite (fun _ => refuseAvp_sim permits) fun _ => leads_pure _
  | some handler =>
    simp only [dispatchAvp, listed]
    refine leads_bind ?_ fun success _ _ => leads_bind ?_ fun _ _ _ => ?_
    · by_cases typing : (hostWord data 4).toNat = 0
      · rw [typing] at listed
        cases listed
        exact messageTypeAvp_sim (permits.mono (by decide))
      · exact avpHandler_stores listed typing allowed state t c data _
          (permits.mono (by decide)) vetted
    · exact sim_whenever fun _ => sim_note (permits _ (by
        simp [Action.effect, Obs.effect, avpEffects])) rfl
    · refine sim_ite (fun _ => leads_bind (sim_mark (permits _ ?_) fun _ => rfl)
        fun _ _ _ => leads_pure _) fun _ => leads_pure _
      simp [Action.effect, Move.effect, CallMove.effect, avpEffects]

theorem handleAvp_sim (vetted : assume.admitted → state.view.vetted t c) :
    Sim assume env allowed (handleAvp env t c first data len) state := by
  refine sim_ite (fun _ => sim_ite (fun _ => refuseAvp_sim permits) fun _ => leads_pure _)
    fun _ => ?_
  refine sim_ite (fun _ => refuseAvp_sim permits) fun _ => ?_
  refine sim_ite (fun _ => refuseAvp_sim permits) fun _ => ?_
  refine sim_ite (fun _ => refuseAvp_sim permits) fun _ => ?_
  refine sim_ite (fun _ => sim_ite (fun _ => refuseAvp_sim permits) fun _ => leads_pure _)
    fun _ => ?_
  refine sim_ite (fun _ => sim_readTunnel fun tunnel _ => ?_) fun _ => dispatchAvp_sim permits vetted
  cases decryptAvp env tunnel.chalUs (swaps 3 data) with
  | none => exact sim_ite (fun _ => refuseAvp_sim permits) fun _ => leads_pure _
  | some plain => exact dispatchAvp_sim permits vetted

theorem handleAvpsLoop_sim {fuel lapses : Nat} (grows : assume.admitted →
      ∀ fuel first data len before,
      before.view.lapses ≤ (final (handleAvpsLoop env t c fuel first data len before)).view.lapses)
    (vetted : assume.admitted → state.view.since lapses fun view => view.vetted t c)
    (clean : assume.admitted →
      (final (handleAvpsLoop env t c fuel first data len state)).view.lapses = lapses) :
    Sim assume env allowed (handleAvpsLoop env t c fuel first data len) state := by
  induction fuel generalizing first data len state with
  | zero => exact leads_pure _
  | succ fuel ih =>
    -- The head of the loop still has the lapses of its start.
    have head : assume.admitted → state.view.vetted t c := by
      intro assumed
      have upper := grows assumed (fuel + 1) first data len state
      rw [clean assumed] at upper
      exact (vetted assumed).2 (Nat.le_antisymm upper (vetted assumed).1)
    unfold handleAvpsLoop at clean ⊢
    refine sim_ite (fun _ => leads_pure _) fun more => ?_
    rw [if_neg more] at clean
    refine leads_bind (handleAvp_sim permits head) fun step later ran => ?_
    rw [bind_run ran] at clean
    cases step with
    | refused => exact leads_pure _
    | next data len =>
      exact ih (fun assumed => handleAvp_leaves (since_rule vetted_typical lapses) (vetted assumed) ran)
        clean

end

theorem handleAvpsLoop_lapses_le {fuel : Nat} {first : Bool} :
    state.view.lapses ≤ (final (handleAvpsLoop env t c fuel first data len state)).view.lapses := by
  have sim : Sim .none env (fun _ => True) (handleAvpsLoop env t c fuel first data len) state :=
    handleAvpsLoop_sim (fun _ _ => trivial) False.elim False.elim
      (fun impossible => (impossible.elim : _ = 0))
  exact acts_lapses_le sim

/-- The AVPs of a message as actions; if no refusal is passed over, as its type allows. -/
theorem handleAvps_sim (permits : Permits avpEffects allowed)
    (fresh : assume.admitted → state.view.vetted t c) (clean : assume.admitted →
      (final (handleAvps env t c buffer state)).view.lapses = state.view.lapses) :
    Sim assume env allowed (handleAvps env t c buffer) state :=
  handleAvpsLoop_sim permits (fun _ _ _ _ _ _ => handleAvpsLoop_lapses_le)
    (fun assumed => ⟨Nat.le_refl _, fun _ => fresh assumed⟩) clean

theorem handleAvps_since {holds : View → Prop} (typical : Typical env t c holds)
    (start : holds state.view) (ran : handleAvps env t c buffer state = .ok true after)
    (clean : after.view.lapses = state.view.lapses) : holds after.view := by
  have left := handleAvps_leaves (since_rule typical state.view.lapses)
    ⟨Nat.le_refl _, fun _ => start⟩ ran
  exact left.2 clean

end Loop

end Xl2tpd
