import Xl2tpd.Ledger.Control
import Xl2tpd.Sim.Packet

/-!
# Received packets in the ledger

Every AVP is a store into the tunnel of the message, but for the Message Type AVP of an ICRQ,
which adds a call.
-/

namespace Xl2tpd

set_option autoImplicit false

open Program

variable {rules : Rules} {env : Env} {state after : Daemon} {t : TunnelRef} {c : CallId}
  {data : Bytes} {len : Nat} {datagram : Datagram}

/-! ## AVPs -/

section Handlers

variable (touch : rules.touched t)

include touch

theorem wrongLength_ops {field : String} {expected found : Nat} {least : Bool} :
    Ops rules env (do wrongLength t c field expected found least; pure false) state :=
  yields_bind (ops_storeCall touch fun _ => rfl) fun _ _ _ => yields_pure _

theorem storeAvp_ops {appropriate : List MsgType} {field : String} {size : Nat} {least : Bool}
    {store : TunnelRef → CallId → Bytes → Nat → Prog Unit}
    (stores : Ops rules env (store t c data len) state) :
    Ops rules env (storeAvp appropriate field size least store t c data len) state := by
  refine yields_readCall fun call _ => yields_ite (fun _ => yields_pure _) fun _ => ?_
  refine yields_ite (fun _ => wrongLength_ops touch) fun _ => ?_
  exact yields_bind stores fun _ _ _ => yields_pure _

theorem writeHead_ops {change : Call → Call} (keeps : ∀ call, (change call).deed = call.deed) :
    Ops rules env (writeHead t change) state := by
  unfold writeHead callHead
  refine yields_bind (yields_readTunnel fun _ _ => yields_nonNull fun _ _ => yields_pure _)
    fun _ _ _ => ?_
  exact ops_storeCall touch keeps

theorem resultCodeAvp_ops : Ops rules env (resultCodeAvp t c data len) state := by
  refine yields_ite (fun _ => wrongLength_ops touch) fun _ => yields_readCall fun call _ => ?_
  refine yields_ite (fun _ => yields_pure _) fun _ => yields_ite (fun _ => yields_pure _) fun _ => ?_
  refine yields_ite (fun _ => yields_pure _) fun _ => ?_
  exact yields_bind (ops_storeCall touch fun _ => rfl) fun _ _ _ => yields_pure _

theorem protocolVersionAvp_ops : Ops rules env (protocolVersionAvp t c data len) state :=
  yields_ite (fun _ => wrongLength_ops touch) fun _ => yields_pure _

theorem seqReqdAvp_ops : Ops rules env (seqReqdAvp t c data len) state := by
  refine yields_ite (fun _ => wrongLength_ops touch) fun _ => yields_readCall fun call _ => ?_
  refine yields_ite (fun _ => yields_pure _) fun _ => ?_
  exact yields_bind (ops_storeCall touch fun _ => rfl) fun _ _ _ => yields_pure _

theorem randVectorAvp_ops : Ops rules env (randVectorAvp t c data len) state := by
  refine yields_ite (fun _ => wrongLength_ops touch) fun _ => ?_
  exact yields_bind (ops_storeTunnel touch fun _ => rfl) fun _ _ _ => yields_pure _

theorem chalrespAvp_ops : Ops rules env (chalrespAvp t c data len) state := by
  refine yields_readCall fun call _ => yields_ite (fun _ => yields_pure _) fun _ => ?_
  refine yields_ite (fun _ => wrongLength_ops touch) fun _ => ?_
  refine yields_ite (fun _ => yields_pure _) fun _ => ?_
  exact yields_bind (ops_storeTunnel touch fun _ => rfl) fun _ _ _ => yields_pure _

theorem callSernoAvp_ops : Ops rules env (callSernoAvp t c data len) state := by
  refine yields_readCall fun call _ => yields_ite (fun _ => yields_pure _) fun _ => ?_
  exact yields_bind (writeHead_ops touch fun _ => rfl) fun _ _ _ => yields_pure _

theorem assignedTunnelAvp_ops : Ops rules env (assignedTunnelAvp t c data len) state := by
  refine storeAvp_ops touch (yields_readCall fun call _ => ops_storeTunnel touch fun tunnel => ?_)
  split <;> rfl

theorem assignedCallAvp_ops : Ops rules env (assignedCallAvp t c data len) state := by
  refine storeAvp_ops touch (yields_readCall fun call _ => ?_)
  split
  · exact ops_storeCall touch fun _ => rfl
  · exact writeHead_ops touch fun _ => rfl
  · exact ops_storeCall touch fun _ => rfl

theorem avpHandler_ops {attr : Nat} {handler : Handler} (other : attr ≠ 0)
    (listed : avpHandler env attr = some handler) :
    Ops rules env (handler t c data len) state := by
  unfold avpHandler at listed
  split at listed <;> cases listed
  · exact absurd rfl other
  · exact resultCodeAvp_ops touch
  · exact protocolVersionAvp_ops touch
  iterate 5 on_goal 1 =>
    exact storeAvp_ops touch (ops_storeTunnel touch fun _ => rfl)
  · exact assignedTunnelAvp_ops touch
  · exact storeAvp_ops touch (ops_storeTunnel touch fun _ => rfl)
  · exact storeAvp_ops touch (ops_storeTunnel touch fun _ => rfl)
  · exact chalrespAvp_ops touch
  · exact assignedCallAvp_ops touch
  · exact callSernoAvp_ops touch
  · exact storeAvp_ops touch (writeHead_ops touch fun _ => rfl)
  · exact storeAvp_ops touch (ops_storeCall touch fun _ => rfl)
  · exact storeAvp_ops touch (ops_storeCall touch fun _ => rfl)
  iterate 3 on_goal 1 =>
    exact storeAvp_ops touch (writeHead_ops touch fun _ => rfl)
  · exact storeAvp_ops touch (ops_storeCall touch (by simp [Call.deed]))
  · exact storeAvp_ops touch (writeHead_ops touch (by simp [Call.deed]))
  all_goals first
    | exact yields_pure _
    | exact randVectorAvp_ops touch
    | exact seqReqdAvp_ops touch
    | exact storeAvp_ops touch (ops_storeCall touch (by simp [Call.deed]))

theorem messageTypeAvp_ops {mandatory : Bool} (ring : rules.rings t) :
    Ops rules env (do
      let success ← messageTypeAvp env t c data len
      emit (.verdict t c (MsgType.ofNat (avpWord data 3).toNat) mandatory success)
      pure success) state := by
  intro value last ran
  obtain ⟨success, middle, typed, ran⟩ := bind_ok.mp ran
  obtain ⟨_, _, noted, ran⟩ := bind_ok.mp ran
  cases noted
  cases ran
  have store : Op rules env state (state.setCall t c fun call =>
      { call with msgtype := some (MsgType.ofNat (avpWord data 3).toNat) }) :=
    op_storeCall touch fun _ => rfl
  have verdicts : ∀ later,
      (Obs.verdict t c (MsgType.ofNat (avpWord data 3).toNat) mandatory value).welcome = false →
      Ops rules env
        (emit (.verdict t c (MsgType.ofNat (avpWord data 3).toNat) mandatory value)) later :=
    fun later other => ops_emit ⟨other, fun _ => rfl⟩
  unfold messageTypeAvp at typed
  obtain ⟨_, _, _, _, typed⟩ := ok_writeCall typed
  split at typed
  · have complains : Relation.ReflTransGen (Op rules env) _ middle :=
      wrongLength_ops touch value middle typed
    obtain ⟨_, _, _, refused⟩ := bind_ok.mp typed
    cases refused
    exact Relation.ReflTransGen.head store
      (complains.trans (verdicts middle (Obs.welcome_refused _ _ _ _) () _ rfl))
  obtain ⟨tunnel, found, typed⟩ := ok_readTunnel typed
  obtain ⟨_, call, _, _, typed⟩ := ok_readCall typed
  split at typed
  · cases typed
    exact Relation.ReflTransGen.head store (verdicts _ (Obs.welcome_refused _ _ _ _) () _ rfl)
  split at typed
  · rename_i isIcrq
    obtain ⟨added, _, made, typed⟩ := bind_ok.mp typed
    cases made
    obtain ⟨_, _, typed⟩ := ok_writeTunnel typed
    cases typed
    refine Relation.ReflTransGen.head store (Relation.ReflTransGen.single ?_)
    rw [isIcrq] at found ⊢
    exact .inherit t c mandatory tunnel _ touch found rfl ring
  · rename_i other
    cases typed
    exact Relation.ReflTransGen.head store (verdicts _ (Obs.welcome_other other) () _ rfl)

end Handlers

/-! ## The loop -/

section Loop

variable {rest : Int} (touch : rules.touched t) (ring : rules.rings t)

include touch

theorem refuseAvp_ops {error : Int} {message : Bytes} :
    Ops rules env (refuseAvp t c error message) state :=
  yields_bind (ops_storeCall touch fun _ => rfl) fun _ _ _ => yields_pure _

include ring

theorem dispatchAvp_ops {length : Nat} :
    Ops rules env (dispatchAvp env t c data rest length) state := by
  have ends : ∀ (success : Bool) later, Ops rules env
      (if !success && ambit (hostWord data 0) then do
        writeCall t c fun call => { call with needclose := true }
        pure .refused
      else pure (skipAvp data rest length)) later :=
    fun success later => yields_ite (fun _ => yields_bind (ops_storeCall touch fun _ => rfl)
      fun _ _ _ => yields_pure _) fun _ => yields_pure _
  cases listed : avpHandler env (hostWord data 4).toNat with
  | none =>
    simp only [dispatchAvp, listed]
    exact yields_ite (fun _ => refuseAvp_ops touch) fun _ => yields_pure _
  | some handler =>
    simp only [dispatchAvp, listed]
    by_cases typing : (hostWord data 4).toNat = 0
    · rw [typing] at listed
      cases listed
      rw [typing]
      intro value last ran
      obtain ⟨success, middle, typed, ran⟩ := bind_ok.mp ran
      obtain ⟨_, noted, wrote, ran⟩ := bind_ok.mp ran
      have pair := messageTypeAvp_ops touch ring success noted
        (bind_ok.mpr ⟨success, middle, typed, bind_ok.mpr ⟨(), noted, wrote, rfl⟩⟩)
      exact pair.trans (ends success noted value last ran)
    · refine yields_bind (avpHandler_ops touch typing listed) fun success _ _ => ?_
      exact yields_bind (yields_whenever fun isType => absurd (of_decide_eq_true isType) typing)
        fun _ later _ => ends success later

theorem handleAvp_ops {first : Bool} :
    Ops rules env (handleAvp env t c first data rest) state := by
  have refuses : ∀ (condition : Prop) [Decidable condition] error message (other : Prog AvpStep),
      Ops rules env other state →
      Ops rules env (if condition then refuseAvp t c error message else other) state :=
    fun _ _ _ _ _ otherwise => yields_ite (fun _ => refuseAvp_ops touch) fun _ => otherwise
  refine yields_ite (fun _ => refuses _ _ _ _ (yields_pure _)) fun _ => ?_
  refine refuses _ _ _ _ (refuses _ _ _ _ (refuses _ _ _ _ ?_))
  refine yields_ite (fun _ => refuses _ _ _ _ (yields_pure _)) fun _ => ?_
  refine yields_ite (fun _ => yields_readTunnel fun tunnel _ => ?_) fun _ =>
    dispatchAvp_ops touch ring
  cases decryptAvp env tunnel.chalUs (swaps 3 data) with
  | none => exact refuses _ _ _ _ (yields_pure _)
  | some plain => exact dispatchAvp_ops touch ring

theorem handleAvpsLoop_ops {fuel : Nat} {first : Bool} :
    Ops rules env (handleAvpsLoop env t c fuel first data rest) state := by
  induction fuel generalizing first data rest state with
  | zero => exact yields_pure _
  | succ fuel ih =>
    refine yields_ite (fun _ => yields_pure _) fun _ => ?_
    refine yields_bind (handleAvp_ops touch ring) fun step _ _ => ?_
    cases step with
    | refused => exact yields_pure _
    | next data len => exact ih

end Loop

/-! ## Control packets -/

section Packets

variable {buffer : RecvBuf} {tunnel : Tunnel} {call : Call} (touch : rules.touched t)

include touch

theorem outOfOrder_ops : Ops rules env (outOfOrder buffer t c) state := by
  refine yields_readTunnel fun tunnel _ => yields_ite (fun _ => ?_) fun _ => ?_
  · exact yields_whenever fun _ => controlZlb_ops touch
  · exact yields_whenever fun _ => ops_storeCall touch fun _ => rfl

theorem checkControl_ops : Ops rules env (checkControl buffer t c) state := by
  refine yields_ite (fun _ => yields_pure _) fun _ => yields_ite (fun _ => yields_pure _) fun _ => ?_
  refine yields_readTunnel fun tunnel _ => yields_ite (fun _ => ?_) fun _ => ?_
  · exact yields_bind (outOfOrder_ops touch) fun _ _ _ => yields_pure _
  · refine yields_bind (ops_storeTunnel touch fun _ => rfl) fun _ _ _ => ?_
    exact yields_bind (ops_storeCall touch fun _ => rfl) fun _ _ _ => yields_pure _

theorem handleZlb_ops : Ops rules env (handleZlb t c) state := by
  refine yields_bind (ops_storeTunnel touch fun _ => rfl) fun _ _ _ => ?_
  exact yields_readTunnel fun tunnel _ => ops_storeCall touch fun _ => rfl

theorem screenControl_ops (ring : rules.rings t) :
    Ops rules env (screenControl env buffer t c) state := by
  refine yields_bind (checkControl_ops touch) fun good _ _ => ?_
  cases good with
  | false => exact yields_pure _
  | true =>
    refine yields_bind (ops_storeCall touch fun _ => rfl) fun _ _ _ =>
      yields_ite (fun _ => ?_) fun _ => ?_
    · exact yields_bind (handleZlb_ops touch) fun _ _ _ => yields_pure _
    · refine yields_bind (ops_emit ⟨rfl, fun _ => rfl⟩) fun _ _ _ => ?_
      exact yields_bind (handleAvpsLoop_ops touch ring) fun _ _ _ => yields_pure _

theorem answerSpecial_ops : Ops rules env (answerSpecial buffer t) state := by
  refine yields_bind (checkControl_ops touch) fun good _ _ => yields_whenever fun _ => ?_
  exact yields_bind (ops_emit ⟨rfl, fun _ => rfl⟩) fun _ _ _ => controlZlb_ops touch

theorem handleSpecial_ops {call : UInt16} : Ops rules env (handleSpecial buffer t call) state := by
  refine yields_whenever fun _ => yields_bind (ops_storeCall touch fun _ => rfl) fun _ _ _ => ?_
  exact yields_bind (answerSpecial_ops touch) fun _ _ _ => ops_storeCall touch fun _ => rfl

theorem acknowledge_ops : Ops rules env (acknowledge t c) state := by
  refine yields_readCall fun call _ => yields_whenever fun _ => ?_
  refine yields_bind (controlZlb_ops touch) fun _ _ _ => ?_
  exact ops_storeCall touch fun _ => rfl

theorem writePacket_ops {header : ExpandedHdr} :
    Ops rules env (writePacket env t c buffer header) state := by
  refine yields_readCall fun call _ => yields_whenever fun _ => ?_
  dsimp only
  cases framePayload buffer header with
  | overrun => exact yields_throw _
  | invalid => exact ops_storeCall touch fun _ => rfl
  | frame octets =>
    refine yields_bind (ops_storeCall touch fun _ => rfl) fun _ _ _ => ?_
    refine yields_bind ops_askSystem fun written _ _ => ?_
    exact yields_ite (fun _ => ops_emit ⟨rfl, fun _ => rfl⟩) fun _ =>
      ops_storeCall touch fun _ => rfl

theorem expandPayload_ops : Ops rules env (expandPayload buffer t c) state := by
  refine yields_readCall fun call _ => ?_
  dsimp only
  split
  · exact yields_pure _
  · exact yields_bind (ops_storeCall touch fun _ => rfl) fun _ _ _ => yields_pure _

theorem handlePayload_ops : Ops rules env (handlePayload env buffer t c) state := by
  refine yields_whenever fun _ => yields_bind (expandPayload_ops touch) fun header _ _ => ?_
  cases header with
  | none => exact yields_pure _
  | some header =>
    exact yields_ite (fun _ => writePacket_ops touch) fun _ =>
      yields_whenever fun _ => ops_storeCall touch fun _ => rfl

end Packets

/-! ## The state machine -/

/-- What the rules ask of the state in which a message enters the state machine. -/
structure Rules.Finishes (rules : Rules) (env : Env) (t : TunnelRef) (type : MsgType)
    (state : Daemon) : Prop where
  hellos : type = .SCCRP ∨ type = .SCCCN → rules.hellos
  dials : type = .SCCRP → rules.DialsOn env t state
  assigns : type = .ICRQ ∨ type = .ICCN → rules.assigns
  bare : rules.assigned → type = .ICRQ → state.HeadBare t

theorem finishBranch_ops {type : MsgType} (touch : rules.touched t) (destroy : rules.destroys)
    (finishes : rules.Finishes env t type state) : Ops rules env (finishBranch env t c type) state := by
  have fails : env.maxRetries = 0 → rules.destroys := fun _ => destroy
  have unknown : ∀ message, Ops rules env
      (setError t c vendorError message >>= fun _ => pure true) state :=
    fun message => yields_bind (ops_storeCall touch fun _ => rfl) fun _ _ _ => yields_pure _
  cases type with
  | zero =>
    refine yields_bind ?_ fun _ _ _ => yields_pure _
    cases c with
    | self => exact initiateTunnel_ops touch fails
    | call ref => exact initiateCall_ops touch fails
  | SCCRQ => exact finishSccrq_ops touch fails
  | SCCRP => exact finishSccrp_ops touch fails (finishes.dials rfl) (finishes.hellos (.inl rfl))
  | SCCCN => exact finishScccn_ops touch (finishes.hellos (.inr rfl))
  | StopCCN => exact finishStopccn_ops touch
  | ICRQ =>
    exact finishIcrq_ops touch destroy (finishes.assigns (.inl rfl)) fun strict =>
      finishes.bare strict rfl
  | ICRP => exact finishIcrp_ops touch fails
  | ICCN => exact finishIccn_ops touch destroy (finishes.assigns (.inr rfl))
  | OCCN => exact finishOccn_ops touch
  | CDN => exact finishCdn_ops touch
  | OCRP | Hello | SLI => exact yields_pure _
  | OCRQ | WEN | unassigned number => exact unknown _

/-! ## Datagrams -/

section Delivery

variable {buffer : RecvBuf} (touch : rules.touched t) (destroy : rules.destroys)

include touch destroy

theorem controlFinish_ops
    (finishes : ∀ call type, state.call? t c = some call → call.msgtype = some type →
      rules.Finishes env t type (state.emit (.finish t c type))) :
    Ops rules env (controlFinish env t c) state := by
  refine yields_readCall fun call found => ?_
  split
  · exact yields_pure _
  · rename_i type typed
    refine yields_bind (ops_emit ⟨rfl, fun _ => rfl⟩) fun _ _ ran => ?_
    cases ran
    exact finishBranch_ops touch destroy (finishes call type found typed)

theorem handlePacket_ops (ring : rules.rings t)
    (finishes : ∀ middle call type, ctbit (hostWord buffer.bytes 0) = true →
      screenControl env buffer t c state = .ok .finish middle → middle.call? t c = some call →
      call.msgtype = some type → rules.Finishes env t type (middle.emit (.finish t c type))) :
    Ops rules env (handlePacket env buffer t c) state := by
  refine yields_ite (fun control => ?_) fun _ => handlePayload_ops touch
  refine yields_bind (yields_bind (screenControl_ops touch ring) fun screened middle ran => ?_)
    fun _ _ _ => yields_pure _
  cases screened with
  | done success => exact yields_pure _
  | finish =>
    exact controlFinish_ops touch destroy fun call type => finishes middle call type control ran

theorem deliver_ops (ring : rules.rings t)
    (finishes : ∀ middle call type, ctbit (hostWord buffer.bytes 0) = true →
      screenControl env buffer t c (state.delivering t) = .ok .finish middle →
      middle.call? t c = some call → call.msgtype = some type →
      rules.Finishes env t type (middle.emit (.finish t c type))) :
    Ops rules env (deliver env buffer t c) state := by
  refine yields_readCall fun call _ =>
    yields_bind (ops_storeTunnel touch fun _ => rfl) fun _ _ ran => ?_
  obtain ⟨_, _, rfl⟩ := writeTunnel_ok ran
  exact yields_bind (handlePacket_ops touch destroy ring finishes) fun _ _ _ => acknowledge_ops touch

end Delivery

theorem entering_steps {entered : Entered} (enters : entering env datagram state = some entered) :
    ∃ linked, getCall env datagram.ids.1 datagram.ids.2 datagram.peer datagram.refme
        datagram.refhim state = .ok (some (entered.tunnel, entered.call)) linked ∧
      ∀ rules : Rules, rules.touched entered.tunnel → rules.rings entered.tunnel →
        Relation.ReflTransGen (Op rules env) linked entered.state := by
  obtain ⟨_, linked, _, _, lookup, _, _, screen⟩ := entering_some enters
  refine ⟨linked, lookup, fun rules touch ring => ?_⟩
  exact Relation.ReflTransGen.head (.store entered.tunnel _ touch (by intro _; rfl))
    (screenControl_ops touch ring _ _ screen)

/-- The part of the rules that takes a message on one tunnel, from its lookup on. -/
def Rules.heard (rules : Rules) (env : Env) (t : TunnelRef) : Rules :=
  { rules.near env t with rings := fun other => other = t }

theorem Rules.near_le_heard : (rules.near env t).Le (rules.heard env t) :=
  ⟨fun _ => id, id, id, id, id, id, id, id, id, id, fun _ => id, fun _ => False.elim⟩

theorem entering_near {entered : Entered} {type : MsgType} {middle : Daemon}
    (enters : entering env datagram state = some entered)
    (steps : Relation.ReflTransGen (Op (rules.near env entered.tunnel) env)
      (entered.state.emit (.finish entered.tunnel entered.call type)) middle) :
    ∃ linked, getCall env datagram.ids.1 datagram.ids.2 datagram.peer datagram.refme
        datagram.refhim state = .ok (some (entered.tunnel, entered.call)) linked ∧
      Relation.ReflTransGen (Op (rules.heard env entered.tunnel) env) linked middle := by
  obtain ⟨linked, lookup, screened⟩ := entering_steps enters
  have noted : Op (rules.heard env entered.tunnel) env entered.state
      (entered.state.emit (.finish entered.tunnel entered.call type)) :=
    op_emit ⟨rfl, fun _ => rfl⟩
  have rest : Relation.ReflTransGen (Op (rules.heard env entered.tunnel) env)
      (entered.state.emit (.finish entered.tunnel entered.call type)) middle :=
    Relation.ReflTransGen.mono (fun _ _ => Op.mono Rules.near_le_heard) _ _ steps
  exact ⟨linked, lookup, ((screened (rules.heard env entered.tunnel) rfl rfl).tail noted).trans rest⟩

structure Rules.Receives (rules : Rules) (env : Env) (datagram : Datagram) (state : Daemon) :
    Prop where
  destroys : rules.destroys
  born : datagram.ids.1 = 0 → rules.touched state.fresh
  touched : ∀ t c linked, getCall env datagram.ids.1 datagram.ids.2 datagram.peer datagram.refme
    datagram.refhim state = .ok (some (t, c)) linked → rules.touched t
  rings : ∀ t c linked, getCall env datagram.ids.1 datagram.ids.2 datagram.peer datagram.refme
    datagram.refhim state = .ok (some (t, c)) linked → rules.rings t
  special : ∀ t linked, getCall env datagram.ids.1 datagram.ids.2 datagram.peer datagram.refme
    datagram.refhim state = .ok none linked → getTunnel linked datagram.ids.1 = some t →
    rules.touched t
  finishes : ∀ entered call type, entering env datagram state = some entered →
    entered.state.call? entered.tunnel entered.call = some call → call.msgtype = some type →
    rules.Finishes env entered.tunnel type
      (entered.state.emit (.finish entered.tunnel entered.call type))

theorem receive_ops (receives : rules.Receives env datagram state) :
    Ops rules env (receive env datagram) state := by
  refine yields_whenever fun _ => ?_
  refine yields_bind (getCall_ops receives.born) fun found linked lookup => ?_
  cases found with
  | none =>
    refine yields_get ?_
    split
    · exact yields_pure _
    · rename_i t known
      exact handleSpecial_ops (receives.special t linked lookup known)
  | some pair =>
    obtain ⟨t, c⟩ := pair
    refine deliver_ops (receives.touched t c linked lookup) receives.destroys
      (receives.rings t c linked lookup) fun middle call type control screen => ?_
    exact receives.finishes ⟨t, c, middle⟩ call type (entering_screen control lookup screen)

end Xl2tpd
