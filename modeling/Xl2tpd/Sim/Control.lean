import Xl2tpd.Control
import Xl2tpd.Sim.Dial

/-!
# The state machine as actions
-/

namespace Xl2tpd

set_option autoImplicit false

open Program

variable {assume : Assume} {env : Env} {allowed : Action → Prop} {state : Daemon}
  {t : TunnelRef} {c : CallId} {tunnel : Tunnel} {after : Daemon} {call : Call}

/-! ## Challenges -/

theorem challengeNames_reads (env : Env) (tunnel : Tunnel) : Reads (challengeNames env tunnel) := by
  unfold challengeNames
  split
  · exact reads_bind (reads_deref _) fun _ => reads_pure _
  · exact reads_bind (reads_deref _) fun _ => reads_pure _
  · exact reads_pure _

theorem challengeNames_ok {names : Option (Bytes × Bytes)}
    (ran : challengeNames env tunnel state = .ok names after) :
    (names.bind fun names => env.getSecret names.1 names.2) =
      state.view.secret? env tunnel.core := by
  unfold challengeNames at ran
  unfold View.secret?
  cases lns : tunnel.lns with
  | some ref =>
    simp only [lns] at ran
    obtain ⟨entry, found, rest⟩ := ok_deref ran
    cases rest
    have terms : state.view.lns ref = some entry.terms := by simp [Daemon.view, found]
    simp only [show tunnel.core.lns = tunnel.lns from rfl, lns, terms]
    rfl
  | none =>
    cases lac : tunnel.lac with
    | some ref =>
      simp only [lns, lac] at ran
      obtain ⟨entry, found, rest⟩ := ok_deref ran
      cases rest
      have terms : state.view.lac ref = some entry.terms := by simp [Daemon.view, found]
      simp only [show tunnel.core.lns = tunnel.lns from rfl,
        show tunnel.core.lac = tunnel.lac from rfl, lns, lac, terms]
      rfl
    | none =>
      simp only [lns, lac] at ran
      cases ran
      simp only [show tunnel.core.lns = tunnel.lns from rfl,
        show tunnel.core.lac = tunnel.lac from rfl, lns, lac]
      rfl

theorem handleChallenge_ok {side : ChalSide} {success : Bool}
    (ran : handleChallenge env t side state = .ok success after) :
    ∃ tunnel, state.tunnel? t = some tunnel ∧
      if success then
        ∃ secret, state.view.secret? env tunnel.core = some secret ∧
          after = state.setTunnel t fun tunnel => tunnel.setChal side (Challenge.answer env secret)
      else state.view.secret? env tunnel.core = none ∧ after = state := by
  obtain ⟨tunnel, found, rest⟩ := ok_readTunnel ran
  obtain ⟨names, named, rest⟩ := ok_reads (challengeNames_reads env tunnel) rest
  have known := challengeNames_ok named
  refine ⟨tunnel, found, ?_⟩
  cases names with
  | none =>
    cases rest
    exact ⟨known.symm, rfl⟩
  | some names =>
    simp only [Option.bind_some] at known
    cases secret : env.getSecret names.1 names.2 with
    | none =>
      simp only [secret] at rest
      cases rest
      exact ⟨known.symm.trans secret, rfl⟩
    | some value =>
      simp only [secret] at rest
      obtain ⟨_, _, rest⟩ := ok_writeTunnel rest
      cases rest
      exact ⟨value, known.symm.trans secret, rfl⟩

theorem handleChallenge_us_sim : Sim assume env allowed (handleChallenge env t .us) state := by
  refine sim_readTunnel fun tunnel _ => sim_reads (challengeNames_reads env tunnel) fun names _ => ?_
  cases names with
  | none => exact leads_pure _
  | some names =>
    cases secret : env.getSecret names.1 names.2 with
    | none =>
      simp only [secret]
      exact leads_pure _
    | some value =>
      simp only [secret]
      exact leads_bind (sim_storeTunnel fun _ => rfl) fun _ _ _ => leads_pure _

theorem handleChallenge_them_sim (pose : Bytes → Move)
    (poses : ∀ response core, (pose response).apply core =
      { core with response := response, challenged := true })
    (allow : ∀ response, allowed (.move t (pose response)))
    (enabled : ∀ response tunnel, state.tunnel? t = some tunnel →
      (pose response).enabled assume state.view tunnel.core) :
    Sim assume env allowed (handleChallenge env t .them) state := by
  refine sim_readTunnel fun tunnel found => ?_
  refine sim_reads (challengeNames_reads env tunnel) fun names _ => ?_
  cases names with
  | none => exact leads_pure _
  | some names =>
    cases secret : env.getSecret names.1 names.2 with
    | none =>
      simp only [secret]
      exact leads_pure _
    | some value =>
      simp only [secret]
      let response := env.response tunnel.chalThem.ss value (tunnel.chalThem.challenge.getD [])
      refine leads_bind (sim_move_at (pose response) found (allow response) ?_
        (enabled response tunnel found)) fun _ _ _ => leads_pure _
      rw [poses]
      rfl

/-! ## Opening a tunnel for a peer -/

theorem refuse_sim {message : String} (allow : allowed (.move t (.call c .mark))) :
    Sim assume env allowed (refuse t c message) state :=
  leads_bind (sim_mark allow fun _ => rfl) fun _ _ _ => leads_pure _

theorem getLns_known {lns : LnsRef} (chosen : getLns env state tunnel = some lns) :
    (state.view.lns lns).isSome := by
  obtain ⟨entry, listed, rfl⟩ : ∃ entry ∈ state.lnslist ++ state.deflns.toList, entry.ref = lns := by
    unfold getLns at chosen
    split at chosen
    · rename_i entry found
      cases chosen
      exact ⟨entry, List.mem_of_find?_eq_some found, rfl⟩
    · split at chosen
      · cases chosen
      · obtain ⟨entry, isDefault, rfl⟩ := Option.map_eq_some_iff.mp chosen
        exact ⟨entry, List.mem_append_right _ (by simp [isDefault]), rfl⟩
  obtain ⟨first, found⟩ : ∃ first, state.lns? entry.ref = some first :=
    Keyed.find_isSome listed rfl
  simp only [Daemon.view, Option.isSome_map]
  rw [found]
  rfl

theorem respondSccrp_sim : Sim assume env allowed (respondSccrp env t) state := by
  refine sim_readTunnel fun tunnel _ => sim_ite (fun _ => ?_) fun _ => leads_pure _
  refine leads_bind (sim_storeTunnel fun _ => rfl) fun _ _ _ => ?_
  refine leads_bind handleChallenge_us_sim fun _ _ _ => ?_
  exact sim_readTunnel fun _ _ => leads_pure _

theorem challengeSccrp_sim {challenge : Bool} (permits : Permits [.answer] allowed) :
    Sim assume env allowed (challengeSccrp env t challenge) state := by
  refine sim_ite (fun _ => ?_) fun _ => leads_pure _
  refine leads_bind (drawChallenge_sim true (fun _ => permits _ (by simp [Action.effect]))
    fun ours => by cases ours) fun _ _ _ => ?_
  refine leads_bind (sim_storeTunnel fun _ => rfl) fun _ _ _ => ?_
  exact leads_bind (handleChallenge_them_sim .expect (fun _ _ => rfl)
    (fun _ => permits _ (by simp [Action.effect, Move.effect])) fun _ _ _ => trivial)
    fun _ _ _ => leads_pure _

def Daemon.opening (state : Daemon) (t : TunnelRef) : Prop :=
  ∀ tunnel, state.tunnel? t = some tunnel → tunnel.state.opening

theorem answerSccrq_sim {entry : Lns} (allows : Allows env [.answer, .mark, .send] allowed)
    (chosen : ∀ tunnel, state.tunnel? t = some tunnel → tunnel.lns.isSome)
    (opening : assume.admitted → state.opening t) :
    Sim assume env allowed (answerSccrq env t c entry) state := by
  refine leads_bind (sim_move .answer (allows.on _ (by simp [Action.effect, Move.effect]))
    (fun _ => rfl) fun tunnel found => ?_) fun _ _ _ => ?_
  · exact ⟨chosen tunnel found, fun assumed => opening assumed tunnel found⟩
  refine leads_bind addVector_sim fun vector _ _ => ?_
  refine sim_reads (capabilityAvps_reads env t) fun capabilities _ => ?_
  refine leads_bind respondSccrp_sim fun response _ _ => ?_
  refine leads_bind (challengeSccrp_sim (allows.on.mono (by decide))) fun challenge _ _ => ?_
  cases challenge with
  | none =>
    exact refuse_sim (allows.on _ (by simp [Action.effect, Move.effect, CallMove.effect]))
  | some challenge =>
    refine leads_bind (sim_storeCall fun _ => rfl) fun _ _ _ => ?_
    refine leads_bind (sendControl_sim ?_ (allows.mono (by decide))) fun _ _ _ => leads_pure _
    rw [List.append_assoc, List.append_assoc, List.append_assoc]
    exact message_nonempty _ _

theorem finishSccrq_sim (allows : Allows env [.answer, .mark, .send] allowed)
    (duplicate : ∀ tunnel, state.tunnel? t = some tunnel →
      duplicateTunnel env state tunnel = true → allowed (.move t (.call c .release)))
    (opening : assume.admitted → state.opening t) :
    Sim assume env allowed (finishSccrq env t c) state := by
  have marks : allowed (.move t (.call c .mark)) :=
    allows.on _ (by simp [Action.effect, Move.effect, CallMove.effect])
  refine sim_readTunnel fun tunnel found => sim_ite (fun _ => refuse_sim marks) fun _ => ?_
  refine sim_get (leads_bind (sim_move (.choose _)
    (allows.on _ (by simp [Action.effect, Move.effect])) (fun _ => rfl) ?_) fun _ after ran => ?_)
  · intro same foundSame
    refine ⟨fun assumed => opening assumed same foundSame, ?_⟩
    exact fun ref chosen => getLns_known chosen
  obtain ⟨_, foundSame, rfl⟩ := writeTunnel_ok ran
  rw [found] at foundSame
  cases foundSame
  cases chosen : getLns env state tunnel with
  | none => exact refuse_sim marks
  | some lns =>
    refine sim_readLns fun entry _ => ?_
    refine leads_bind (sim_storeTunnel fun _ => rfl) fun _ _ ranPrepare => ?_
    obtain ⟨_, _, rfl⟩ := writeTunnel_ok ranPrepare
    refine sim_ite (fun _ => refuse_sim marks) fun _ => ?_
    refine sim_ite (fun _ => refuse_sim marks) fun _ => ?_
    refine sim_ite (fun twice => ?_) fun _ => ?_
    · exact leads_bind (sim_release (duplicate tunnel found twice)) fun _ _ _ => leads_pure _
    · refine answerSccrq_sim allows ?_ ?_
      · intro last foundLast
        rw [tunnel_setTunnel (by intro _; rfl), tunnel_setTunnel (by intro _; rfl), found]
          at foundLast
        cases foundLast
        rfl
      · intro assumed last foundLast
        rw [tunnel_setTunnel (by intro _; rfl), tunnel_setTunnel (by intro _; rfl), found]
          at foundLast
        cases foundLast
        exact opening assumed tunnel found

/-! ## The tunnel is up -/

theorem establish_ok (ran : establish t state = .ok () after) :
    ∃ tunnel, state.tunnel? t = some tunnel ∧
      after.view = (Action.establish { tunnel with state := .SCCCN }
        (tunnel.lns.bind state.lns?) (tunnel.lac.bind state.lac?)).apply state.view := by
  obtain ⟨tunnel, found, rest⟩ := ok_writeTunnel ran
  obtain ⟨now, foundNow, rest⟩ := ok_readTunnel rest
  rw [tunnel_setTunnel (by intro _; rfl), found] at foundNow
  cases foundNow
  cases rest
  refine ⟨tunnel, found, ?_⟩
  have named : tunnel.ref = t := Keyed.find_key found
  have shown : (state.setTunnel t fun tunnel => { tunnel with state := .SCCCN }).view =
      state.view.setTunnel t fun core => { core with state := .SCCCN } := view_setTunnel fun _ => rfl
  rw [view_emit, shown, ← named]
  rfl

theorem establish_sim (allow : ∀ tunnel lns lac, allowed (.establish tunnel lns lac))
    (enabled : ∀ tunnel, state.tunnel? t = some tunnel →
      (tunnel.chalThem.challenged → tunnel.chalThem.reply = tunnel.chalThem.response) ∧
        Establishing assume env state.view tunnel.core) :
    Sim assume env allowed (establish t) state := by
  apply sim_once
  · intro _ after ran
    obtain ⟨tunnel, found, view⟩ := establish_ok ran
    obtain ⟨answered, how⟩ := enabled tunnel found
    have named : tunnel.ref = t := Keyed.find_key found
    rw [view]
    refine .act _ (allow _ _ _) ⟨tunnel.core, ?_, rfl, lnsTerms _ _, lacTerms _ _, answered, how⟩
    rw [← named] at found
    exact view_tunnel_some found
  · intro fault after stopped
    rcases bind_error.mp stopped with missing | ⟨_, _, wrote, stopped⟩
    · rw [writeTunnel_error missing]
    · obtain ⟨tunnel, found, rfl⟩ := writeTunnel_ok wrote
      have foundNow : (state.setTunnel t fun tunnel => { tunnel with state := .SCCCN }).tunnel? t =
          some { tunnel with state := .SCCCN } :=
        (tunnel_setTunnel (by intro _; rfl)).trans (congrArg _ found)
      rw [bind_run (readTunnel_run foundNow)] at stopped
      cases stopped

theorem verifySccrp_ok (found : state.tunnel? t = some tunnel)
    (ran : verifySccrp env t state = .ok none after) :
    ∃ verified, after.tunnel? t = some verified ∧ verified.state = tunnel.state ∧
      (verified.chalThem.challenged →
        verified.chalThem.reply = verified.chalThem.response ∧
          after.view.expects env verified.core 2) := by
  obtain ⟨_, same, rest⟩ := ok_readTunnel ran
  rw [found] at same
  cases same
  split at rest
  · obtain ⟨_, _, rest⟩ := ok_writeTunnel rest
    obtain ⟨success, handled, ranHandle, rest⟩ := bind_ok.mp rest
    obtain ⟨posed, foundPosed, outcome⟩ := handleChallenge_ok ranHandle
    rw [tunnel_setTunnel (by intro x; exact Tunnel.setChal_ref x _ _), found] at foundPosed
    cases foundPosed
    obtain ⟨now, foundNow, rest⟩ := ok_readTunnel rest
    cases success with
    | false => cases rest
    | true =>
      obtain ⟨secret, known, rfl⟩ := outcome
      rw [tunnel_setTunnel (by intro x; exact Tunnel.setChal_ref x _ _),
        tunnel_setTunnel (by intro x; exact Tunnel.setChal_ref x _ _), found] at foundNow
      cases foundNow
      simp only [Bool.not_true, Bool.false_eq_true, if_false] at rest
      split at rest
      · cases rest
      · rename_i matches_
        cases rest
        refine ⟨_, (tunnel_setTunnel (by intro x; exact Tunnel.setChal_ref x _ _)).trans
          ((congrArg _ (tunnel_setTunnel (by intro x; exact Tunnel.setChal_ref x _ _))).trans
            (congrArg _ (congrArg _ found))), rfl, fun _ => ⟨?_, secret, ?_, rfl⟩⟩
        · simpa using matches_
        · exact known
  · rename_i unasked
    cases rest
    exact ⟨tunnel, found, rfl, fun asked => absurd asked unasked⟩

theorem verifySccrp_sim (permits : Permits [.verify] allowed)
    (requested : assume.admitted → ∀ tunnel, state.tunnel? t = some tunnel →
      tunnel.state = .SCCRQ) :
    Sim assume env allowed (verifySccrp env t) state := by
  refine sim_readTunnel fun tunnel found => sim_ite (fun _ => ?_) fun _ => leads_pure _
  refine leads_bind (sim_storeTunnel fun _ => rfl) fun _ _ ran => ?_
  obtain ⟨_, _, rfl⟩ := writeTunnel_ok ran
  refine leads_bind (handleChallenge_them_sim .verify (fun _ _ => rfl)
    (fun _ => permits _ (by simp [Action.effect, Move.effect])) ?_) fun success _ _ => ?_
  · intro _ posed foundPosed assumed
    rw [tunnel_setTunnel (by intro x; exact Tunnel.setChal_ref x _ _), found] at foundPosed
    cases foundPosed
    exact requested assumed tunnel found
  · refine sim_readTunnel fun _ _ => sim_ite (fun _ => leads_pure _) fun _ => ?_
    exact sim_ite (fun _ => leads_pure _) fun _ => leads_pure _

theorem respondScccn_sim : Sim assume env allowed (respondScccn env t) state := by
  refine sim_readTunnel fun tunnel _ => sim_ite (fun _ => ?_) fun _ => leads_pure _
  refine leads_bind (sim_storeTunnel fun _ => rfl) fun _ _ _ => ?_
  refine leads_bind handleChallenge_us_sim fun _ _ _ => ?_
  exact sim_readTunnel fun _ _ => leads_pure _

theorem respondScccn_ok {response : Option Bytes} (found : state.tunnel? t = some tunnel)
    (ran : respondScccn env t state = .ok response after) :
    ∃ now, after.tunnel? t = some now ∧ now.chalThem = tunnel.chalThem := by
  obtain ⟨_, same, rest⟩ := ok_readTunnel ran
  rw [found] at same
  cases same
  split at rest
  · obtain ⟨_, _, rest⟩ := ok_writeTunnel rest
    have foundReady : (state.setTunnel t fun tunnel => tunnel.setChal .us fun chal =>
        { chal with ss := 3 }).tunnel? t = some (tunnel.setChal .us fun chal =>
          { chal with ss := 3 }) :=
      (tunnel_setTunnel fun x => Tunnel.setChal_ref x _ _).trans (congrArg _ found)
    obtain ⟨success, handled, ranHandle, rest⟩ := bind_ok.mp rest
    obtain ⟨_, _, outcome⟩ := handleChallenge_ok ranHandle
    obtain ⟨now, foundNow, rest⟩ := ok_readTunnel rest
    cases rest
    refine ⟨now, foundNow, ?_⟩
    cases success with
    | false =>
      obtain ⟨_, rfl⟩ := outcome
      rw [foundReady] at foundNow
      cases foundNow
      rfl
    | true =>
      obtain ⟨secret, _, rfl⟩ := outcome
      rw [tunnel_setTunnel fun x => Tunnel.setChal_ref x _ _, foundReady] at foundNow
      cases foundNow
      rfl
  · cases rest
    exact ⟨tunnel, found, rfl⟩

theorem connectPppol2tp_sim : Sim assume env allowed (connectPppol2tp env t) state :=
  sim_whenever fun _ => sim_emit rfl

theorem scheduleHello_sim : Sim assume env allowed (scheduleHello t) state :=
  sim_readTunnel fun _ _ => leads_bind (schedule_sim rfl) fun _ _ _ => leads_pure _

theorem dialOn_sim (allows : Allows env dialEffects allowed) :
    Sim assume env allowed (dialOn env t) state := by
  refine sim_readTunnel fun tunnel _ => ?_
  split
  · exact leads_pure _
  · exact magicLacDial_sim allows

def sccrpEffects : List Effect := [.verify, .mark, .dial, .call, .send]

theorem answerSccrp_sim {response : Bytes} (allows : Allows env sccrpEffects allowed)
    (enabled : ∀ tunnel, state.tunnel? t = some tunnel →
      (tunnel.chalThem.challenged → tunnel.chalThem.reply = tunnel.chalThem.response) ∧
        Establishing assume env state.view tunnel.core) :
    Sim assume env allowed (answerSccrp env t c response) state := by
  refine leads_bind (establish_sim (fun _ _ _ => allows.on _ (by
    simp [Action.effect, sccrpEffects])) enabled) fun _ _ _ => ?_
  refine leads_bind addVector_sim fun _ _ _ => ?_
  refine leads_bind (sim_storeCall fun _ => rfl) fun _ _ _ => ?_
  refine leads_bind (sendControl_sim ?_ (allows.mono (by decide))) fun _ _ _ => ?_
  · rw [List.append_assoc]
    exact message_nonempty _ _
  refine leads_bind connectPppol2tp_sim fun _ _ _ => leads_bind scheduleHello_sim fun _ _ _ => ?_
  exact dialOn_sim (allows.mono (by decide))

theorem View.expects_quiet {before after : View} {core : TunnelCore} {ss : Nat}
    (quiet : Quiet before after) (expects : before.expects env core ss) :
    after.expects env core ss := by
  unfold View.expects View.secret? at *
  rw [quiet.lns, quiet.lac]
  exact expects

theorem finishSccrp_sim (allows : Allows env sccrpEffects allowed)
    (requested : assume.admitted → ∀ tunnel, state.tunnel? t = some tunnel →
      tunnel.state = .SCCRQ) :
    Sim assume env allowed (finishSccrp env t c) state := by
  have marks : allowed (.move t (.call c .mark)) :=
    allows.on _ (by simp [Action.effect, Move.effect, CallMove.effect, sccrpEffects])
  refine sim_readTunnel fun tunnel found => sim_ite (fun _ => refuse_sim marks) fun _ => ?_
  refine sim_ite (fun _ => refuse_sim marks) fun _ => ?_
  refine sim_ite (fun _ => refuse_sim marks) fun _ => ?_
  refine leads_bind (verifySccrp_sim (allows.on.mono (by decide)) requested)
    fun complaint checked ranVerify => ?_
  cases complaint with
  | some message => exact refuse_sim marks
  | none =>
    obtain ⟨verified, foundVerified, sameState, answered⟩ := verifySccrp_ok found ranVerify
    refine sim_bind_quiet respondScccn_sim fun response ready ranRespond quiet => ?_
    obtain ⟨now, foundNow, sameThem⟩ := respondScccn_ok foundVerified ranRespond
    cases response with
    | none => exact refuse_sim marks
    | some response =>
      refine leads_bind (answerSccrp_sim allows ?_) fun _ _ _ => leads_pure _
      intro last foundLast
      rw [foundNow] at foundLast
      cases foundLast
      obtain ⟨before, foundBefore, sameCore⟩ := quiet_tunnel quiet foundNow
      rw [foundVerified] at foundBefore
      cases foundBefore
      refine ⟨fun asked => ?_, .inr ⟨fun assumed => ?_, fun asked => ?_⟩⟩
      · rw [sameThem] at asked ⊢
        exact (answered asked).1
      · have lastState : now.state = verified.state := congrArg TunnelCore.state sameCore
        exact (lastState.trans sameState).trans (requested assumed tunnel found)
      · rw [sameCore] at asked ⊢
        exact View.expects_quiet quiet (answered asked).2

theorem finishScccn_sim (permits : Permits [.verify, .mark] allowed)
    (answered : assume.admitted → ∀ tunnel, state.tunnel? t = some tunnel →
      tunnel.state = .SCCRP) :
    Sim assume env allowed (finishScccn env t c) state := by
  refine sim_readTunnel fun tunnel found => sim_ite (fun _ => ?_) fun right => ?_
  · exact refuse_sim (permits _ (by simp [Action.effect, Move.effect, CallMove.effect]))
  refine leads_bind (establish_sim (fun _ _ _ => permits _ (by simp [Action.effect])) ?_)
    fun _ _ _ => ?_
  · intro same foundSame
    rw [found] at foundSame
    cases foundSame
    refine ⟨fun asked => ?_, .inl fun assumed => answered assumed tunnel found⟩
    by_contra wrong
    exact right ⟨asked, wrong⟩
  refine sim_nonNull fun lns _ => sim_readLns fun _ _ => ?_
  refine leads_bind connectPppol2tp_sim fun _ _ _ => ?_
  exact leads_bind scheduleHello_sim fun _ _ _ => leads_pure _

theorem finishStopccn_sim (release : allowed (.move t (.call c .release))) :
    Sim assume env allowed (finishStopccn t c) state := by
  refine sim_readTunnel fun tunnel _ => sim_ite (fun _ => leads_pure _) fun _ => ?_
  refine sim_ite (fun _ => leads_pure _) fun _ => ?_
  refine leads_bind (sim_storeTunnel fun _ => rfl) fun _ _ _ => ?_
  refine sim_ite (fun _ => leads_pure _) fun _ => ?_
  exact leads_bind (sim_release release) fun _ _ _ => leads_pure _

/-! ## Calls -/

theorem askSystem_sim {Answer : Type} {answers : Nat → Answer} :
    Sim assume env allowed (askSystem answers) state := sim_quiet (Quiet.refl _)

theorem startPppd_sim {options : List Bytes} (permits : Permits [.start] allowed) :
    Sim assume env allowed (startPppd env t c options) state := by
  refine sim_readCall fun call _ => leads_bind (sim_note ?_ rfl) fun _ _ _ => ?_
  · exact permits _ List.mem_cons_self
  refine sim_whenever fun _ => leads_bind askSystem_sim fun answer _ _ => ?_
  cases answer with
  | noDevice => exact leads_pure _
  | noTty fd => exact sim_whenever fun _ => sim_storeCall fun _ => rfl
  | forked fd pid => exact sim_storeCall fun _ => rfl

def icrqEffects : List Effect := [.mark, .send, .close, .drop, .call]

theorem getAddr_reads (uaddr : Nat → List Nat) (ranges : List IpRange) :
    Reads (getAddr uaddr ranges) := by
  induction ranges with
  | nil => exact reads_pure _
  | cons range following ih =>
    unfold getAddr
    split
    · exact ih
    · split
      · split
        · exact reads_pure _
        · exact ih
      · split
        · exact reads_pure _
        · split
          · exact reads_pure _
          · exact fun _ => rfl

theorem assignAddr_sim {entry : Lns} : Sim assume env allowed (assignAddr t c entry) state := by
  refine sim_ite (fun _ => ?_) fun _ => leads_bind (sim_storeCall fun _ => rfl)
    fun _ _ _ => leads_pure _
  refine sim_get (sim_reads (getAddr_reads _ _) fun addr _ => ?_)
  refine leads_bind (sim_storeCall fun _ => rfl) fun _ _ _ => ?_
  exact sim_ite (fun _ => leads_pure _) fun _ => leads_bind reserveAddr_sim
    fun _ _ _ => leads_pure _

theorem answerIcrq_sim {ref : CallRef} (allows : Allows env icrqEffects allowed)
    (ready : assume.admitted → ∀ tunnel, state.tunnel? t = some tunnel →
      tunnel.state = .SCCCN ∧ tunnel.lns.isSome ∧
        ∀ call, tunnel.call? (.call ref) = some call → call.lns.isSome ∧ call.state = .idle) :
    Sim assume env allowed (answerIcrq env t (.call ref)) state := by
  refine sim_readCall fun call _ => ?_
  refine leads_bind (sim_moveCall (.enter .ICRP) ?_ (fun _ => rfl) ?_) fun _ _ _ => ?_
  · exact allows.on _ (by simp [Action.effect, Move.effect, CallMove.effect, icrqEffects])
  · intro tunnel call found foundCall
    refine ⟨by simp, fun assumed => ?_⟩
    obtain ⟨up, owned, calls⟩ := ready assumed tunnel found
    refine ⟨up, owned, fun core foundCore => ?_⟩
    rw [core_call, foundCall] at foundCore
    cases foundCore
    exact calls call foundCall
  refine leads_bind addVector_sim fun _ _ _ => ?_
  refine leads_bind (sim_storeCall fun _ => rfl) fun _ _ _ => ?_
  refine leads_bind (sendControl_sim ?_ (allows.mono (by decide))) fun _ _ _ => leads_pure _
  rw [List.append_assoc]
  exact message_nonempty _ _

theorem Tunnel.call_head {head : Call} (first : tunnel.calls.head? = some head) :
    tunnel.call? (.call head.ref) = some head := by
  cases listed : tunnel.calls with
  | nil => simp [listed] at first
  | cons call calls =>
    rw [listed] at first
    cases first
    simp only [Tunnel.call?, listed]
    rw [Keyed.find_cons, if_pos rfl]

theorem View.vetted.fits {type : MsgType} (vetted : state.view.vetted t c)
    (found : state.tunnel? t = some tunnel) (foundCall : tunnel.call? c = some call)
    (typed : call.msgtype = some type) :
    admitted tunnel.state c call.state type = true := by
  refine vetted.admits tunnel.core call.core type (view_tunnel_some found) ?_ typed
  rw [core_call, foundCall]
  rfl

theorem View.vetted.first (vetted : state.view.vetted t c) (found : state.tunnel? t = some tunnel)
    (foundCall : tunnel.call? c = some call) (typed : call.msgtype = some .ICRQ) :
    ∃ head, tunnel.calls.head? = some head ∧ head.state = .idle ∧ head.lns = tunnel.lns := by
  have rings := vetted.rings tunnel.core call.core (view_tunnel_some found)
    (by rw [core_call, foundCall]; rfl) typed
  rw [show tunnel.core.calls = tunnel.calls.map Call.core from rfl, List.head?_map,
    Option.map_map] at rings
  obtain ⟨head, isHead, trait⟩ := Option.map_eq_some_iff.mp rings
  exact ⟨head, isHead, congrArg Prod.snd trait, congrArg Prod.fst trait⟩

theorem finishIcrq_sim (allows : Allows env icrqEffects allowed)
    (twice : ∀ tunnel head, state.tunnel? t = some tunnel → tunnel.calls.head? = some head →
      (tunnel.calls.tail.any fun other => other.cid = head.cid) = true →
      allowed (.move t (.call (.call head.ref) .release)))
    (up : assume.admitted → ∀ tunnel, state.tunnel? t = some tunnel → tunnel.state = .SCCCN)
    (rings : assume.admitted → ∀ tunnel head, state.tunnel? t = some tunnel →
      tunnel.calls.head? = some head → head.state = .idle) :
    Sim assume env allowed (finishIcrq env t) state := by
  have marks : ∀ c, allowed (.move t (.call c .mark)) := fun c =>
    allows.on _ (by simp [Action.effect, Move.effect, CallMove.effect, icrqEffects])
  have closes : ∀ (ref : CallRef) later,
      Sim assume env allowed (callClose env t (.call ref) >>= fun _ => pure false) later :=
    fun ref later => leads_bind (callClose_call_sim (allows.mono (by decide)))
      fun _ _ _ => leads_pure _
  refine sim_readTunnel fun tunnel found => sim_nonNull fun head first => ?_
  cases owner : head.lns with
  | none => exact leads_bind (sim_mark (marks _) fun _ => rfl) fun _ later _ => closes _ later
  | some lns =>
    refine sim_readLns fun entry _ => sim_bind_quiet (sim_storeCall fun _ => rfl)
      fun _ stored _ firstQuiet => ?_
    refine sim_ite (fun _ => closes _ _) fun _ => sim_ite (fun same => ?_) fun _ => ?_
    · exact leads_bind (sim_release (twice tunnel head found first same))
        fun _ _ _ => leads_pure _
    refine sim_nonNull fun _ chosen => sim_readLns fun entry _ => ?_
    refine sim_bind_quiet assignAddr_sim fun assigned later _ secondQuiet => ?_
    refine sim_ite (fun _ => ?_) fun _ => answerIcrq_sim allows ?_
    · exact leads_bind (sim_mark (marks _) fun _ => rfl) fun _ later _ => closes _ later
    -- Nothing the guard looks at has changed since the tunnel was read.
    intro assumed last foundLast
    obtain ⟨before, foundBefore, sameCore⟩ :=
      quiet_tunnel (firstQuiet.trans secondQuiet) foundLast
    rw [found] at foundBefore
    cases foundBefore
    have sameState : last.state = tunnel.state := congrArg TunnelCore.state sameCore
    have sameLns : last.lns = tunnel.lns := congrArg TunnelCore.lns sameCore
    refine ⟨sameState.trans (up assumed tunnel found), ?_, fun call foundCall => ?_⟩
    · rw [sameLns, chosen]
      rfl
    · have shown : last.core.call? (.call head.ref) = some call.core := by
        rw [core_call, foundCall]
        rfl
      rw [sameCore, core_call, Tunnel.call_head first] at shown
      have callLns : head.lns = call.lns := congrArg CallCore.lns (Option.some.inj shown)
      have callState : head.state = call.state := congrArg CallCore.state (Option.some.inj shown)
      rw [← callLns, owner, ← callState]
      exact ⟨rfl, rings assumed tunnel head found first⟩

theorem passwordOptions_sim {lac : LacRef} {entry : Lac} {passed : Bool} :
    Sim assume env allowed (passwordOptions env lac entry passed) state := by
  refine sim_ite (fun _ => leads_bind askSystem_sim fun pipe _ _ => ?_) fun _ => leads_pure _
  cases pipe with
  | none => exact leads_pure _
  | some fd =>
    exact leads_bind (sim_whenever fun _ => sim_storeLac (fun _ => rfl) fun _ => rfl)
      fun _ _ _ => leads_pure _

theorem startLacPppd_sim {options : List Bytes} {password : Bool}
    (permits : Permits [.start] allowed) :
    Sim assume env allowed (startLacPppd env t c options password) state := by
  refine sim_readTunnel fun tunnel _ => sim_readCall fun call _ => sim_nonNull fun lac _ => ?_
  refine sim_readLac fun entry _ => leads_bind passwordOptions_sim fun secret _ _ => ?_
  cases secret with
  | none => exact leads_pure _
  | some secret =>
    refine leads_bind (startPppd_sim permits) fun _ _ _ => ?_
    exact leads_bind (sim_storeLac (fun _ => rfl) fun _ => rfl) fun _ _ _ => leads_pure _

theorem sim_connect {change : Call → Call} (permits : Permits [.call] allowed)
    (waits : assume.admitted → ∀ tunnel call, state.tunnel? t = some tunnel →
      tunnel.call? c = some call → call.state = .ICRQ ∨ call.state = .ICRP)
    (shows : ∀ call, (change call).core = { call.core with state := .ICCN }) :
    Sim assume env allowed (writeCall t c change) state := by
  refine sim_moveCall (.enter .ICCN)
    (permits _ (by simp [Action.effect, Move.effect, CallMove.effect])) shows ?_
  intro tunnel call found foundCall assumed core foundCore
  rw [core_call, foundCall] at foundCore
  cases foundCore
  exact waits assumed tunnel call found foundCall

theorem finishIcrp_sim (allows : Allows env [.mark, .call, .send, .start] allowed)
    (placed : assume.admitted → ∀ tunnel call, state.tunnel? t = some tunnel →
      tunnel.call? c = some call → call.state = .ICRQ) :
    Sim assume env allowed (finishIcrp env t c) state := by
  refine sim_readTunnel fun tunnel _ => sim_readCall fun call _ => sim_ite (fun _ => ?_) fun _ => ?_
  · exact leads_bind (sim_mark (allows.on _ (by
      simp [Action.effect, Move.effect, CallMove.effect])) fun _ => rfl) fun _ _ _ => leads_pure _
  refine leads_bind (sim_connect (allows.on.mono (by decide)) (fun assumed tunnel call found
    foundCall => .inl (placed assumed tunnel call found foundCall)) fun _ => rfl) fun _ _ _ => ?_
  refine leads_bind addVector_sim fun _ _ _ => ?_
  refine leads_bind (sim_storeCall fun _ => rfl) fun _ _ _ => ?_
  refine leads_bind (sendControl_sim ?_ (allows.mono (by decide))) fun _ _ _ =>
    startLacPppd_sim (allows.on.mono (by decide))
  rw [List.append_assoc, List.append_assoc, List.append_assoc]
  exact message_nonempty _ _

def localEffects : List Effect := [.mark, .send, .close, .drop]

theorem getLocalAddr_sim {ref : CallRef} (allows : Allows env localEffects allowed) :
    Sim assume env allowed (getLocalAddr env t (.call ref)) state := by
  refine sim_readTunnel fun tunnel _ => sim_nonNull fun lns _ => sim_readLns fun entry _ => ?_
  refine sim_ite (fun _ => leads_pure _) fun _ => sim_readCall fun call _ => ?_
  refine sim_nonNull fun own _ => sim_get (sim_reads (getAddr_reads _ _) fun addr _ => ?_)
  refine leads_bind (sim_storeLns (fun _ => rfl) fun _ => rfl) fun _ _ _ => ?_
  refine sim_ite (fun _ => ?_) fun _ => leads_bind reserveAddr_sim fun _ _ _ => leads_pure _
  refine leads_bind (sim_mark (allows.on _ ?_) fun _ => rfl) fun _ _ _ => ?_
  · simp [Action.effect, Move.effect, CallMove.effect, localEffects]
  · exact leads_bind (callClose_call_sim (allows.mono (by decide))) fun _ _ _ => leads_pure _

theorem finishIccn_sim (allows : Allows env (.start :: icrqEffects) allowed)
    (taken : assume.admitted → ∀ tunnel call, state.tunnel? t = some tunnel →
      tunnel.call? c = some call → call.state = .ICRP) :
    Sim assume env allowed (finishIccn env t c) state := by
  refine sim_ite (fun _ => leads_pure _) fun notSelf => ?_
  cases c with
  | self => exact absurd rfl notSelf
  | call ref =>
    refine leads_bind (sim_connect (allows.on.mono (by decide)) (fun assumed tunnel call found
      foundCall => .inr (taken assumed tunnel call found foundCall)) fun _ => rfl)
      fun _ _ _ => ?_
    refine leads_bind (getLocalAddr_sim (allows.mono (by decide))) fun success _ _ => ?_
    refine sim_ite (fun _ => leads_pure _) fun _ => sim_readTunnel fun tunnel _ => ?_
    refine sim_readCall fun call _ => sim_nonNull fun lns _ => sim_readLns fun entry _ => ?_
    exact leads_bind (startPppd_sim (allows.on.mono (by decide))) fun _ _ _ => leads_pure _

theorem finishOccn_sim (permits : Permits [.start] allowed) :
    Sim assume env allowed (finishOccn env t c) state :=
  sim_readCall fun _ _ => startLacPppd_sim permits

theorem finishCdn_sim (release : allowed (.move t (.call c .release))) :
    Sim assume env allowed (finishCdn t c) state := by
  refine sim_readTunnel fun tunnel _ => sim_readCall fun call _ => ?_
  refine sim_ite (fun _ => leads_pure _) fun _ => ?_
  split
  · exact leads_pure _
  · refine sim_ite (fun _ => leads_pure _) fun _ => ?_
    refine leads_bind (sim_storeCall fun _ => rfl) fun _ _ _ => ?_
    refine sim_ite (fun _ => leads_pure _) fun _ => ?_
    exact leads_bind (sim_release release) fun _ _ _ => leads_pure _

/-! ## The branches together -/

def finishEffects : List Effect :=
  [.answer, .verify, .mark, .dial, .call, .send, .close, .drop, .release, .start]

def branchEffects : MsgType → List Effect
  | .zero => dialEffects
  | .SCCRQ => [.answer, .mark, .send, .release]
  | .SCCRP => sccrpEffects
  | .SCCCN => [.verify, .mark]
  | .StopCCN | .CDN => [.release]
  | .ICRQ => .release :: icrqEffects
  | .ICRP => [.mark, .call, .send, .start]
  | .ICCN => .start :: icrqEffects
  | .OCCN => [.start]
  | _ => [.mark]

theorem branchEffects_subset (type : MsgType) : branchEffects type ⊆ finishEffects := by
  cases type with
  | unassigned number => simp [branchEffects, finishEffects]
  | _ => decide

theorem finishBranch_sim {type : MsgType} (allows : Allows env (branchEffects type) allowed)
    (found : state.tunnel? t = some tunnel) (foundCall : tunnel.call? c = some call)
    (fits : assume.admitted → admitted tunnel.state c call.state type = true)
    (rings : assume.admitted → type = .ICRQ → ∃ head, tunnel.calls.head? = some head ∧
      head.state = .idle ∧ head.lns = tunnel.lns) :
    Sim assume env allowed (finishBranch env t c type) state := by
  have releases : .release ∈ branchEffects type →
      ∀ {d : CallId}, allowed (.move t (.call d .release)) :=
    fun member d => allows.on _ member
  -- What is true of the tunnel that was found is true of any tunnel that is found.
  have here : ∀ {stands : Tunnel → Prop}, (assume.admitted → stands tunnel) →
      assume.admitted → ∀ same, state.tunnel? t = some same → stands same := by
    intro stands holds assumed same foundSame
    rw [found] at foundSame
    cases foundSame
    exact holds assumed
  have hereCall : ∀ {stands : Call → Prop}, (assume.admitted → stands call) →
      assume.admitted → ∀ same sameCall, state.tunnel? t = some same →
        same.call? c = some sameCall → stands sameCall := by
    intro stands holds assumed same sameCall foundSame foundSameCall
    rw [found] at foundSame
    cases foundSame
    rw [foundCall] at foundSameCall
    cases foundSameCall
    exact holds assumed
  cases type with
  | zero =>
    have never : ¬ assume.admitted := fun assumed => by
      simpa [admitted, MsgType.named] using fits assumed
    refine leads_bind (initiate_sim (allows.mono (by decide)) (fun _ assumed => ?_)
      (fun _ assumed => ?_) fun _ assumed => ?_) fun _ _ _ => leads_pure _
    · exact absurd assumed never
    · exact absurd (assume.both assumed) never
    · exact absurd assumed never
  | SCCRQ =>
    refine finishSccrq_sim (allows.mono (by decide)) (fun _ _ _ => releases (by decide)) ?_
    refine here fun assumed => ?_
    have fit := fits assumed
    revert fit
    cases tunnel.state <;> simp [admitted, admits, TunnelState.opening]
  | SCCRP =>
    refine finishSccrp_sim (allows.mono (by decide)) (here fun assumed => ?_)
    have fit := fits assumed
    revert fit
    cases tunnel.state <;> simp [admitted, admits]
  | SCCCN =>
    refine finishScccn_sim (allows.on.mono (by decide)) (here fun assumed => ?_)
    have fit := fits assumed
    revert fit
    cases tunnel.state <;> simp [admitted, admits]
  | StopCCN => exact finishStopccn_sim (releases (by decide))
  | ICRQ =>
    refine finishIcrq_sim (allows.mono (by decide)) (fun _ _ _ _ _ => releases (by decide))
      (here fun assumed => ?_) fun assumed same head foundSame => ?_
    · have fit := fits assumed
      revert fit
      cases tunnel.state <;> simp [admitted, admits]
    · cases found.symm.trans foundSame
      intro first
      obtain ⟨newest, isFirst, idle, _⟩ := rings assumed rfl
      cases isFirst.symm.trans first
      exact idle
  | ICRP =>
    refine finishIcrp_sim (allows.mono (by decide)) (hereCall fun assumed => ?_)
    have fit := fits assumed
    revert fit
    cases call.state <;> simp [admitted, admits]
  | ICCN =>
    refine finishIccn_sim (allows.mono (by decide)) (hereCall fun assumed => ?_)
    have fit := fits assumed
    revert fit
    cases call.state <;> simp [admitted, admits]
  | OCCN => exact finishOccn_sim (allows.on.mono (by decide))
  | CDN => exact finishCdn_sim (releases (by decide))
  | OCRP | Hello | SLI => exact leads_pure _
  | OCRQ | WEN | unassigned =>
    refine leads_bind (sim_mark (allows.on _ ?_) fun _ => rfl) fun _ _ _ => leads_pure _
    simp [Action.effect, Move.effect, CallMove.effect, branchEffects]

theorem controlFinish_sim (allows : Allows env (.finish :: finishEffects) allowed)
    (vetted : assume.admitted → state.view.vetted t c) :
    Sim assume env allowed (controlFinish env t c) state := by
  refine sim_readCall fun call found => ?_
  obtain ⟨tunnel, foundTunnel, foundCall⟩ := call_some found
  cases typed : call.msgtype with
  | none => exact leads_pure _
  | some type =>
    refine leads_bind (sim_note (allows.on _ (by simp [Action.effect, Obs.effect])) rfl) fun _ _ ran => ?_
    cases ran
    have branch : Allows env (branchEffects type) allowed :=
      allows.mono fun _ member => List.mem_cons_of_mem _ (branchEffects_subset type member)
    refine finishBranch_sim branch foundTunnel foundCall
      (fun assumed => (vetted assumed).fits foundTunnel foundCall typed) ?_
    rintro assumed rfl
    exact (vetted assumed).first foundTunnel foundCall typed

end Xl2tpd
