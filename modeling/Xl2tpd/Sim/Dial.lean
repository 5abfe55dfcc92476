import Xl2tpd.Dial
import Xl2tpd.Sim.Avp

/-!
# Dialing as actions
-/

namespace Xl2tpd

set_option autoImplicit false

open Program

variable {assume : Assume} {env : Env} {allowed : Action → Prop} {state : Daemon}
  {t : TunnelRef} {c : CallId} {lac : Option LacRef} {lns : Option LnsRef} {after : Daemon}

/-! ## Messages -/

theorem ourHostname_reads (env : Env) (tunnel : Tunnel) : Reads (ourHostname env tunnel) := by
  refine reads_bind (reads_lacIf _) fun lac => ?_
  split
  · exact reads_pure _
  · refine reads_bind (reads_lnsIf _) fun lns => ?_
    split
    · exact reads_pure _
    · exact reads_pure _

theorem capabilityAvps_reads (env : Env) (t : TunnelRef) : Reads (capabilityAvps env t) :=
  reads_bind (reads_deref _) fun tunnel =>
    reads_bind (ourHostname_reads env tunnel) fun _ => reads_pure _

theorem ownerChallenge_reads (tunnel : Tunnel) : Reads (ownerChallenge tunnel) := by
  refine reads_bind (reads_lacIf _) fun lac => ?_
  split
  · exact reads_pure _
  · exact reads_bind (reads_lnsIf _) fun lns => reads_pure _

theorem lacTerms (state : Daemon) (lac : Option LacRef) :
    (lac.bind state.lac?).map Lac.terms = lac.bind state.view.lac := by
  cases lac <;> rfl

theorem lnsTerms (state : Daemon) (lns : Option LnsRef) :
    (lns.bind state.lns?).map Lns.terms = lns.bind state.view.lns := by
  cases lns <;> rfl

theorem ownerChallenge_ok {tunnel : Tunnel} {challenge : Bool}
    (ran : ownerChallenge tunnel state = .ok challenge after) :
    challenge = state.view.ownerChallenge tunnel.core := by
  obtain ⟨lac, readLac, rest⟩ := ok_reads (reads_lacIf _) ran
  have lacPart : (lac.map Lac.challenge).getD false =
      Terms.challengeOf (tunnel.core.lac.bind state.view.lac) := by
    rw [show tunnel.core.lac = tunnel.lac from rfl, ← lacTerms, ← readLacIf_ok readLac]
    cases lac <;> rfl
  unfold View.ownerChallenge
  rw [← lacPart]
  split at rest
  · rename_i wants
    cases rest
    rw [wants]
    rfl
  · rename_i wants
    obtain ⟨lns, readLns, rest⟩ := ok_reads (reads_lnsIf _) rest
    cases rest
    rw [show tunnel.core.lns = tunnel.lns from rfl, ← lnsTerms, ← readLnsIf_ok readLns]
    cases lns with
    | none => simp [wants, Terms.challengeOf]
    | some lns =>
      simp only [wants, Bool.false_or, Terms.challengeOf]
      rfl

theorem pose_view {tunnel : Tunnel} {value : Bytes} (answering : Bool)
    (found : state.tunnel? t = some tunnel) :
    let posed := (state.setTunnel t fun tunnel =>
      { tunnel with chalThem := { tunnel.chalThem with challenge := some value } }).emit
        (.challenge t value)
    posed.view = (Action.draw t value answering).apply state.view ∧
      posed.tunnel? t =
        some { tunnel with chalThem := { tunnel.chalThem with challenge := some value } } := by
  constructor
  · have shown : (state.setTunnel t fun tunnel =>
        { tunnel with chalThem := { tunnel.chalThem with challenge := some value } }).view =
        state.view.setTunnel t fun core => { core with challenge := some value } :=
      view_setTunnel fun _ => rfl
    rw [view_emit, shown]
    rfl
  · refine (tunnel_setTunnel (by intro _; rfl)).trans ?_
    rw [found]
    rfl

theorem drawChallenge_ok (answering : Bool) {value : Bytes}
    (ran : drawChallenge env t state = .ok value after) :
    ∃ tunnel, state.tunnel? t = some tunnel ∧
      after.view = (Action.draw t value answering).apply state.view ∧
      after.tunnel? t =
        some { tunnel with chalThem := { tunnel.chalThem with challenge := some value } } := by
  obtain ⟨drew, _, ranDraw, ran⟩ := bind_ok.mp ran
  cases ranDraw
  obtain ⟨_, _, wrote, ran⟩ := bind_ok.mp ran
  obtain ⟨tunnel, found, rfl⟩ := writeTunnel_ok wrote
  cases ran
  exact ⟨tunnel, found, pose_view answering found⟩

theorem drawChallenge_sim (answering : Bool) (allow : ∀ value, allowed (.draw t value answering))
    (enabled : answering = false → assume.admitted →
      ∀ tunnel, state.tunnel? t = some tunnel → tunnel.state = .idle) :
    Sim assume env allowed (drawChallenge env t) state := by
  apply sim_once
  · intro value after ran
    obtain ⟨tunnel, found, view, _⟩ := drawChallenge_ok answering ran
    rw [view]
    exact .act (.draw t value answering) (allow value)
      ⟨tunnel.core, view_tunnel_some found, fun ours assumed => enabled ours assumed tunnel found⟩
  · intro fault after stopped
    rcases bind_error.mp stopped with drew | ⟨value, drawn, drew, stopped⟩
    · cases drew
    · cases drew
      rcases bind_error.mp stopped with missing | ⟨_, _, _, emitted⟩
      · rw [writeTunnel_error missing]
        rfl
      · cases emitted

theorem adoptEntry_sim : Sim assume env allowed (adoptEntry t) state := by
  refine sim_readTunnel fun tunnel _ => ?_
  split
  · exact sim_readLns fun _ _ => sim_storeTunnel fun _ => rfl
  · split
    · exact sim_readLac fun _ _ => sim_storeTunnel fun _ => rfl
    · exact leads_pure _

theorem openChallenge_sim (permits : Permits [.dial] allowed)
    (idle : assume.admitted → ∀ tunnel, state.tunnel? t = some tunnel → tunnel.state = .idle) :
    Sim assume env allowed (openChallenge env t) state := by
  refine sim_readTunnel fun tunnel found => sim_reads (ownerChallenge_reads tunnel) fun wants _ => ?_
  refine sim_ite (fun _ => ?_) fun _ => leads_pure _
  refine leads_bind (drawChallenge_sim false (fun _ => permits _ (by simp [Action.effect]))
    fun _ => idle) fun value drawn ran => ?_
  obtain ⟨_, same, _, foundDrawn⟩ := drawChallenge_ok false ran
  rw [found] at same
  cases same
  refine leads_bind (sim_move .challenged (permits _ (by simp [Action.effect, Move.effect]))
    (fun _ => rfl) ?_) fun _ _ _ => leads_pure _
  intro posed foundPosed assumed
  rw [foundDrawn] at foundPosed
  cases foundPosed
  exact idle assumed tunnel found

theorem openChallenge_ok {tunnel : Tunnel} {avps : Bytes} (found : state.tunnel? t = some tunnel)
    (ran : openChallenge env t state = .ok avps after) :
    ∃ opened, after.tunnel? t = some opened ∧ opened.state = tunnel.state ∧
      (after.view.ownerChallenge opened.core →
        opened.core.challenged ∧ after.view.issued opened.core) := by
  obtain ⟨_, same, rest⟩ := ok_readTunnel ran
  rw [found] at same
  cases same
  obtain ⟨wants, asked, rest⟩ := ok_reads (ownerChallenge_reads _) rest
  have owner := ownerChallenge_ok asked
  split at rest
  · obtain ⟨value, drawn, drew, rest⟩ := bind_ok.mp rest
    obtain ⟨_, same, viewDrawn, foundDrawn⟩ := drawChallenge_ok false drew
    rw [found] at same
    cases same
    obtain ⟨_, _, rest⟩ := ok_writeTunnel rest
    cases rest
    have foundAfter : (drawn.setTunnel t fun tunnel =>
        { tunnel with chalThem := { tunnel.chalThem with challenged := true } }).tunnel? t =
        some _ := (tunnel_setTunnel (by intro _; rfl)).trans (congrArg _ foundDrawn)
    refine ⟨_, foundAfter, rfl, fun _ => ⟨rfl, value, rfl, ?_⟩⟩
    have issued : Obs.challenge t value ∈ drawn.view.trace := by
      rw [viewDrawn]
      exact List.mem_append_right _ (List.mem_singleton.mpr rfl)
    have named : tunnel.ref = t := Keyed.find_key found
    rw [← named] at issued
    exact issued
  · rename_i none
    cases rest
    refine ⟨tunnel, found, rfl, fun asks => ?_⟩
    rw [← owner] at asks
    exact absurd asks none

theorem Quiet.tunnel {before after : View} (quiet : Quiet before after) (t : TunnelRef) :
    after.tunnel? t = before.tunnel? t := by
  unfold View.tunnel?
  rw [quiet.tunnels]

theorem quiet_tunnel {tunnel : Tunnel} (quiet : Quiet state.view after.view)
    (found : after.tunnel? t = some tunnel) :
    ∃ before, state.tunnel? t = some before ∧ tunnel.core = before.core := by
  have shown := view_tunnel_some found
  rw [quiet.tunnel, view_tunnel] at shown
  obtain ⟨before, foundBefore, same⟩ := Option.map_eq_some_iff.mp shown
  exact ⟨before, foundBefore, same.symm⟩

def dialEffects : List Effect := [.dial, .call, .send]

theorem initiateTunnel_sim (allows : Allows env dialEffects allowed)
    (idle : assume.admitted → ∀ tunnel, state.tunnel? t = some tunnel → tunnel.state = .idle) :
    Sim assume env allowed (initiateTunnel env t) state := by
  refine sim_bind_quiet adoptEntry_sim fun _ adopted _ first => ?_
  refine sim_bind_quiet addVector_sim fun vector ready _ second => ?_
  have stillIdle : assume.admitted → ∀ tunnel, ready.tunnel? t = some tunnel →
      tunnel.state = .idle := by
    intro assumed tunnel found
    obtain ⟨before, foundBefore, same⟩ := quiet_tunnel (first.trans second) found
    have sameState : tunnel.state = before.state := congrArg TunnelCore.state same
    rw [sameState]
    exact idle assumed before foundBefore
  refine sim_reads (capabilityAvps_reads env t) fun capabilities _ => ?_
  refine leads_bind (openChallenge_sim (allows.on.mono (by decide)) stillIdle)
    fun challenge opened ran => ?_
  refine leads_bind (sim_move .request ?_ (fun _ => rfl) ?_) fun _ _ _ => ?_
  · exact allows.on _ (by simp [Action.effect, Move.effect, dialEffects])
  · intro tunnel found
    cases foundReady : ready.tunnel? t with
    | none =>
      have stuck : openChallenge env t ready = .error .freed ready :=
        bind_stuck (deref_stuck foundReady)
      rw [stuck] at ran
      cases ran
    | some before =>
      obtain ⟨after, foundAfter, sameState, stands⟩ := openChallenge_ok foundReady ran
      rw [found] at foundAfter
      cases foundAfter
      exact ⟨fun assumed => sameState.trans (stillIdle assumed before foundReady), stands⟩
  · refine leads_bind (sim_storeCall fun _ => rfl) fun _ _ _ => ?_
    refine sendControl_sim ?_ (allows.mono (by decide))
    rw [List.append_assoc, List.append_assoc]
    exact message_nonempty _ _

/-! ## Calls -/

/-- The call stands for a LAC entry, as far as calls do. -/
def Daemon.hasLac (state : Daemon) (t : TunnelRef) (c : CallId) : Prop :=
  ∀ tunnel call, state.tunnel? t = some tunnel → tunnel.call? c = some call → call.lac.isSome

def Daemon.hasIdle (state : Daemon) (t : TunnelRef) (c : CallId) : Prop :=
  ∀ tunnel call, state.tunnel? t = some tunnel → tunnel.call? c = some call → call.state = .idle

theorem entryLbit_reads (call : Call) : Reads (entryLbit call) := by
  unfold entryLbit
  split
  · exact reads_bind (reads_deref _) fun _ => reads_pure _
  · split
    · exact reads_bind (reads_deref _) fun _ => reads_pure _
    · exact reads_pure _

theorem outgoingLbit_reads (call : Call) : Reads (outgoingLbit call) := by
  unfold outgoingLbit
  split
  · exact reads_bind (reads_deref _) fun _ => reads_pure _
  · exact reads_pure _

theorem takeSerno_sim : Sim assume env allowed (takeSerno t c) state := by
  refine sim_get (leads_bind (sim_storeCall fun _ => rfl) fun _ _ _ => ?_)
  exact leads_bind (sim_modify_same rfl) fun _ _ _ => leads_pure _

theorem sim_place {change : Call → Call} (placed : CallState) (waits : placed.placed = true)
    (permits : Permits [.call] allowed) (notSelf : c ≠ .self)
    (owned : assume.owned → state.hasLac t c) (idle : assume.admitted → state.hasIdle t c)
    (shows : ∀ call, (change call).core = { call.core with state := placed }) :
    Sim assume env allowed (writeCall t c change) state := by
  refine sim_moveCall (.enter placed)
    (permits _ (by simp [Action.effect, Move.effect, CallMove.effect])) shows ?_
  intro tunnel call found foundCall
  have guard : c ≠ .self ∧ (assume.owned → ∀ core, tunnel.core.call? c = some core →
      core.lac.isSome) ∧
      (assume.admitted → ∀ core, tunnel.core.call? c = some core → core.state = .idle) := by
    refine ⟨notSelf, fun assumed core foundCore => ?_, fun assumed core foundCore => ?_⟩
    all_goals
      rw [core_call, foundCall] at foundCore
      cases foundCore
    · exact owned assumed tunnel call found foundCall
    · exact idle assumed tunnel call found foundCall
  cases placed <;> first | exact guard | simp [CallState.placed] at waits

section

variable (allows : Allows env dialEffects allowed) (notSelf : c ≠ .self)
  (owned : assume.owned → state.hasLac t c)

include allows notSelf owned

theorem sendIcrq_sim (idle : assume.admitted → state.hasIdle t c) :
    Sim assume env allowed (sendIcrq env t c) state := by
  refine sim_readCall fun call _ => sim_reads (entryLbit_reads call) fun lbit _ => ?_
  refine leads_bind (sim_place .ICRQ rfl (allows.on.mono (by decide)) notSelf owned idle
    fun _ => rfl) fun _ _ _ => ?_
  refine leads_bind addVector_sim fun _ _ _ => leads_bind takeSerno_sim fun _ _ _ => ?_
  refine leads_bind (sim_storeCall fun _ => rfl) fun _ _ _ => ?_
  refine sendControl_sim ?_ (allows.mono (by decide))
  rw [List.append_assoc, List.append_assoc, List.append_assoc]
  exact message_nonempty _ _

theorem sendOcrq_sim (idle : assume.admitted → state.hasIdle t c) :
    Sim assume env allowed (sendOcrq env t c) state := by
  refine sim_readTunnel fun tunnel _ => sim_readCall fun call _ => ?_
  refine sim_reads (outgoingLbit_reads call) fun lbit _ => ?_
  refine leads_bind (sim_place .OCRQ rfl (allows.on.mono (by decide)) notSelf owned idle
    fun _ => rfl) fun _ _ _ => ?_
  refine leads_bind takeSerno_sim fun _ _ _ => ?_
  refine leads_bind (sim_storeCall fun _ => rfl) fun _ _ _ => ?_
  refine sendControl_sim ?_ (allows.mono (by decide))
  rw [List.append_assoc, List.append_assoc, List.append_assoc, List.append_assoc,
    List.append_assoc, List.append_assoc]
  exact message_nonempty _ _

theorem initiateCall_sim (idle : assume.admitted → state.hasIdle t c) :
    Sim assume env allowed (initiateCall env t c) state :=
  sim_get (sim_ite (fun _ => sendIcrq_sim allows notSelf owned idle)
    fun _ => sendOcrq_sim allows notSelf owned idle)

end

theorem initiate_sim (allows : Allows env dialEffects allowed)
    (idle : c = .self → assume.admitted → ∀ tunnel, state.tunnel? t = some tunnel →
      tunnel.state = .idle) (owned : c ≠ .self → assume.owned → state.hasLac t c)
    (unplaced : c ≠ .self → assume.admitted → state.hasIdle t c) :
    Sim assume env allowed (initiate env t c) state := by
  cases c with
  | self => exact initiateTunnel_sim allows (idle rfl)
  | call ref =>
    have notSelf : CallId.call ref ≠ .self := by simp
    exact initiateCall_sim allows notSelf (owned notSelf) (unplaced notSelf)

/-! ## Dialing -/

theorem getCall_new (env : Env) (peer : SockAddr) (refme refhim : Nat) (state : Daemon) :
    ∃ after, getCall env 0 0 peer refme refhim state = .ok (some (state.fresh, .self)) after ∧
      after.view = (Action.link state.fresh (state.fresh + 1)).apply state.view := ⟨_, rfl, rfl⟩

theorem View.tunnel_link (view : View) (ref selfRef : Nat) :
    ((Action.link ref selfRef).apply view).tunnel? ref = some (TunnelCore.blank ref selfRef) := by
  simp [View.tunnel?, Action.apply, Keyed.find, TunnelCore.blank]

theorem recordLac_sim {change : Lac → Lac} (named : ∀ entry, (change entry).ref = entry.ref)
    (keeps : ∀ entry, (change entry).terms = entry.terms) :
    Sim assume env allowed (recordLac lac change) state := by
  cases lac with
  | none => exact leads_pure _
  | some lac => exact sim_storeLac named keeps

theorem recordLns_sim {change : Lns → Lns} (named : ∀ entry, (change entry).ref = entry.ref)
    (keeps : ∀ entry, (change entry).terms = entry.terms) :
    Sim assume env allowed (recordLns lns change) state := by
  cases lns with
  | none => exact leads_pure _
  | some lns => exact sim_storeLns named keeps

section

variable (allows : Allows env dialEffects allowed)

include allows

theorem l2tpCall_sim {host : Bytes} {port : Int} (hasLns : ∀ ref ∈ lns, (state.view.lns ref).isSome)
    (hasLac : ∀ ref ∈ lac, (state.view.lac ref).isSome) :
    Sim assume env allowed (l2tpCall env host port lac lns) state := by
  unfold l2tpCall
  split
  · exact sim_nonNull fun _ _ => leads_bind scheduleRedial_sim fun _ _ _ => leads_pure _
  · rename_i addr _
    obtain ⟨made, ranMake, viewMade⟩ := getCall_new env ⟨addr, (UInt16.ofInt port).toNat⟩ 0 0 state
    refine leads_bind ?_ fun found after ran => ?_
    · unfold Leads
      rw [ranMake, show final (EStateM.Result.ok _ made) = made from rfl, viewMade]
      exact Relation.ReflTransGen.single (.act (.link _ _)
        (allows.on _ (by simp [Action.effect, dialEffects])) rfl)
    rw [ranMake] at ran
    cases ran
    have blank : ∀ tunnel, made.tunnel? state.fresh = some tunnel →
        tunnel.core = TunnelCore.blank state.fresh (state.fresh + 1) := by
      intro tunnel found
      have shown := view_tunnel_some found
      rw [viewMade, View.tunnel_link] at shown
      exact (Option.some.inj shown).symm
    refine leads_bind (sim_move (.adopt lns lac)
      (allows.on _ (by simp [Action.effect, Move.effect, dialEffects])) (fun _ => rfl) ?_)
      fun _ adopted ranAdopt => ?_
    · intro tunnel found
      rw [blank tunnel found, viewMade]
      exact ⟨rfl, rfl, hasLns, hasLac⟩
    obtain ⟨tunnel, foundMade, rfl⟩ := writeTunnel_ok ranAdopt
    refine sim_bind_quiet (recordLac_sim (fun _ => rfl) fun _ => rfl) fun _ _ _ first => ?_
    refine sim_bind_quiet (recordLns_sim (fun _ => rfl) fun _ => rfl) fun _ _ _ second => ?_
    refine leads_bind (initiate_sim allows ?_ (fun notSelf => absurd rfl notSelf)
      fun notSelf => absurd rfl notSelf) fun _ _ _ => leads_pure _
    intro _ _ last foundLast
    obtain ⟨before, foundBefore, same⟩ := quiet_tunnel (first.trans second) foundLast
    rw [tunnel_setTunnel (by intro _; rfl), foundMade] at foundBefore
    cases foundBefore
    have lastState : last.state = tunnel.state := congrArg TunnelCore.state same
    exact lastState.trans (congrArg TunnelCore.state (blank tunnel foundMade))

theorem magicLacTunnel_sim {lac : LacRef} :
    Sim assume env allowed (magicLacTunnel env lac) state := by
  refine sim_readLac fun entry found => sim_get ?_
  have hasLac : ∀ ref ∈ some lac, (state.view.lac ref).isSome := by
    intro ref member
    cases member
    simp [Daemon.view, found]
  have dials : ∀ (host : Host), Sim assume env allowed
      (l2tpCall env host.hostname host.port (some lac) none >>= fun _ => pure ()) state :=
    fun host => leads_bind (l2tpCall_sim allows (fun _ member => by cases member) hasLac)
      fun _ _ _ => leads_pure _
  split
  · exact dials _
  · split
    · exact dials _
    · exact leads_pure _

theorem lacCall_sim {tid : Int} (owned : assume.owned → lac.isSome) :
    Sim assume env allowed (lacCall env tid lac lns) state := by
  refine sim_get ?_
  split
  · exact leads_pure _
  · rename_i tunnel _
    refine sim_ring (fun _ => ?_) (fun _ => ⟨lns, lac, rfl⟩) fun call made linked ranMake ranLink => ?_
    · exact allows.on _ (by simp [Action.effect, Move.effect, dialEffects])
    obtain ⟨before, foundBefore, rfl⟩ := writeTunnel_ok ranLink
    refine sim_bind_quiet (recordLac_sim (fun _ => rfl) fun _ => rfl) fun _ stored _ quiet => ?_
    -- The new call heads the list.
    have placed : ∀ last found, stored.tunnel? tunnel.ref = some last →
        last.call? (.call call.ref) = some found →
        found.core = { call.core with lns := lns, lac := lac } := by
      intro last found foundLast foundCall
      obtain ⟨after, foundAfter, same⟩ := quiet_tunnel quiet foundLast
      rw [tunnel_setTunnel (by intro _; rfl), foundBefore] at foundAfter
      cases foundAfter
      have head : last.core.call? (.call call.ref) = some found.core := by
        rw [core_call, foundCall]
        rfl
      rw [same] at head
      simp only [Tunnel.core, TunnelCore.call?, Keyed.find, List.map_cons, List.find?_cons,
        show ∀ call : Call, call.core.ref = call.ref from fun _ => rfl, decide_true,
        Option.some.injEq] at head
      exact head.symm
    refine leads_bind (initiate_sim allows (fun isSelf => by cases isSelf) ?_ ?_)
      fun _ _ _ => leads_pure _
    · intro _ assumed last found foundLast foundCall
      have sameLac : found.lac = lac := congrArg CallCore.lac (placed last found foundLast foundCall)
      rw [sameLac]
      exact owned assumed
    · intro _ _ last found foundLast foundCall
      cases ranMake
      exact congrArg CallCore.state (placed last found foundLast foundCall)

theorem magicLacDial_sim {lac : LacRef} : Sim assume env allowed (magicLacDial env lac) state := by
  refine sim_readLac fun entry _ => sim_whenever fun _ => ?_
  refine leads_bind (sim_storeLac (fun _ => rfl) fun _ => rfl) fun _ _ _ => sim_whenever fun _ => ?_
  split
  · exact magicLacTunnel_sim allows
  · exact sim_readTunnel fun _ _ => leads_bind (lacCall_sim allows fun _ => rfl)
      fun _ _ _ => leads_pure _

end

end Xl2tpd
