import Xl2tpd.Auth
import Xl2tpd.Runs

/-!
# Authentication in every run

The SCCRQ branch breaks the invariant of its tunnel and mends it again, so it is followed from end
to end.
-/

namespace Xl2tpd

set_option autoImplicit false

open Program

variable {tunnel : Tunnel} {lns : LnsRef} {entry : Lns} {success : Bool}

variable {env : Env} {state : Daemon} {t : TunnelRef} {c : CallId} {core : TunnelCore}
  {after : Daemon} {view : View} {change : TunnelCore → TunnelCore}

/-! ## All but one tunnel -/

structure View.AuthenticatedBut (env : Env) (t : TunnelRef) (view : View) : Prop where
  fresh : view.Fresh
  tunnels : ∀ u core, u ≠ t → view.tunnel? u = some core → view.Guarded env core
  history : History.Always (Obs.authentic env) view.trace

theorem View.Authenticated.but (auth : view.Authenticated env) (t : TunnelRef) :
    view.AuthenticatedBut env t :=
  ⟨auth.fresh, fun u core _ => auth.tunnels u core, auth.history⟩

theorem View.AuthenticatedBut.settle (auth : view.AuthenticatedBut env t)
    (guarded : ∀ core, view.tunnel? t = some core → view.Guarded env core) :
    view.Authenticated env := by
  refine ⟨auth.fresh, fun u core found => ?_, auth.history⟩
  by_cases same : u = t
  · subst same
    exact guarded core found
  · exact auth.tunnels u core same found

theorem Quiet.guarded {before after : View} (quiet : Quiet before after)
    (guarded : before.Guarded env core) : after.Guarded env core := by
  obtain ⟨notes, trace, _⟩ := quiet.trace
  exact guarded.carry (by rw [quiet.lns]) (by rw [quiet.lac]) ⟨notes, trace.symm⟩

theorem View.AuthenticatedBut.quiet {before after : View} (auth : before.AuthenticatedBut env t)
    (quiet : Quiet before after) : after.AuthenticatedBut env t := by
  obtain ⟨notes, trace, silent⟩ := quiet.trace
  refine ⟨quiet.fresh_kept auth.fresh, fun u core other found => ?_, ?_⟩
  · rw [quiet.tunnel] at found
    exact quiet.guarded (auth.tunnels u core other found)
  · rw [trace]
    refine History.always_append_of auth.history fun note member => Obs.plain_authentic ?_
    have silent := silent note member
    cases note <;> first | rfl | cases silent

theorem View.Authenticated.quiet {before after : View} (auth : before.Authenticated env)
    (quiet : Quiet before after) : after.Authenticated env := by
  refine ((auth.but 0).quiet quiet).settle fun core found => ?_
  rw [quiet.tunnel] at found
  exact quiet.guarded (auth.tunnels 0 core found)

theorem View.AuthenticatedBut.setTunnel (auth : view.AuthenticatedBut env t)
    (fresh : (view.setTunnel t change).Fresh) (named : ∀ core, (change core).ref = core.ref) :
    (view.setTunnel t change).AuthenticatedBut env t := by
  refine ⟨fresh, fun u core other found => ?_, auth.history⟩
  rw [View.tunnel_setTunnel named, if_neg other] at found
  exact (auth.tunnels u core other found).carry rfl rfl (List.prefix_refl _)

theorem View.AuthenticatedBut.move (change : Move) (auth : view.AuthenticatedBut env t)
    (found : view.tunnel? t = some core) (enabled : change.enabled .admission view core) :
    ((Action.move t change).apply view).AuthenticatedBut env t :=
  auth.setTunnel (change.fresh found enabled auth.fresh) change.apply_ref

theorem View.AuthenticatedBut.draw {value : Bytes} {answering : Bool}
    (auth : view.AuthenticatedBut env t) :
    ((Action.draw t value answering).apply view).AuthenticatedBut env t := by
  have drawn : (view.setTunnel t fun core =>
      { core with challenge := some value }).AuthenticatedBut env t :=
    auth.setTunnel (auth.fresh.keep (by intro _; rfl) (by intro _; rfl) (by intro _; rfl))
      (by intro _; rfl)
  refine ⟨drawn.fresh.log _, fun u core other found => ?_, History.always_snoc auth.history trivial⟩
  exact (drawn.tunnels u core other found).carry rfl rfl (List.prefix_append _ _)

/-! ## The answer to an SCCRQ -/

/-- The challenge of an SCCRP: posed with the response we expect, or not posed for
want of a secret. -/
theorem challengeSccrp_ok {challenge : Bool} {result : Option Bytes}
    (found : state.tunnel? t = some tunnel)
    (ran : challengeSccrp env t challenge state = .ok result after) :
    if challenge then
      ∃ value, match state.view.secret? env tunnel.core with
        | some secret => after.view = (Action.move t (.expect (env.response 3 secret value))).apply
            ((Action.draw t value true).apply state.view)
        | none => result = none
    else after = state := by
  cases challenge with
  | false =>
    cases ran
    rfl
  | true =>
    obtain ⟨value, posed, drew, rest⟩ := bind_ok.mp ran
    obtain ⟨same, foundSame, view, foundPosed⟩ := drawChallenge_ok true drew
    rw [found] at foundSame
    cases foundSame
    obtain ⟨_, _, rest⟩ := ok_writeTunnel rest
    obtain ⟨success, answered, handled, returned⟩ := bind_ok.mp rest
    cases returned
    obtain ⟨now, foundNow, outcome⟩ := handleChallenge_ok handled
    rw [tunnel_setTunnel (fun tunnel => tunnel.setChal_ref _ _), foundPosed] at foundNow
    cases foundNow
    refine ⟨value, ?_⟩
    have posedView : (posed.setTunnel t fun tunnel =>
        tunnel.setChal .them fun chal => { chal with ss := 3 }).view =
        (Action.draw t value true).apply state.view := by
      rw [view_setTunnel_same (by intro _; rfl), view]
    have foundNumbered : (posed.setTunnel t fun tunnel =>
        tunnel.setChal .them fun chal => { chal with ss := 3 }).tunnel? t = some _ :=
      (tunnel_setTunnel fun tunnel => tunnel.setChal_ref _ _).trans (congrArg _ foundPosed)
    have sameSecret : ((Action.draw t value true).apply state.view).secret? env
        (({ tunnel with chalThem := { tunnel.chalThem with challenge := some value } } :
          Tunnel).setChal .them fun chal => { chal with ss := 3 }).core =
        state.view.secret? env tunnel.core := rfl
    rw [posedView, sameSecret] at outcome
    cases success with
    | false =>
      rw [outcome.1]
      rfl
    | true =>
      obtain ⟨secret, known, same⟩ := outcome
      rw [known, same]
      rw [← posedView]
      refine view_setTunnel_at fun tunnel foundTunnel => ?_
      rw [foundNumbered] at foundTunnel
      cases foundTunnel
      rfl

/-! ## Which SCCRQs are answered safely -/

/-- The checks of the SCCRQ branch once an LNS entry is chosen. -/
def Tunnel.passes (env : Env) (state : Daemon) (tunnel : Tunnel) (entry : Lns) : Bool :=
  0 ≤ tunnel.fc && !(tunnel.hostname = [] && (tunnel.chalUs.challenged || entry.challenge)) &&
    !duplicateTunnel env state tunnel

def Lns.secret (env : Env) (entry : Lns) (peer : Bytes) : Option Bytes :=
  let names := entry.terms.names env peer
  env.getSecret names.1 names.2

/-- An SCCRQ that no entry asks a challenge for, or one that the chosen entry asks it for, with a
secret for the peer; on a tunnel we opened it has to pass the checks. -/
def Tunnel.answersUnder (env : Env) (state : Daemon) (tunnel : Tunnel) (entry : Lns) : Bool :=
  !demandsChallenge (some entry) (tunnel.lac.bind state.lac?) ||
    entry.challenge && (entry.secret env tunnel.hostname).isSome &&
      (tunnel.state = .idle || tunnel.passes env state entry)

def Tunnel.answersWell (env : Env) (state : Daemon) (tunnel : Tunnel) : Bool :=
  ((getLns env state tunnel).bind state.lns?).all (tunnel.answersUnder env state)

theorem Tunnel.answersWell_entry (well : tunnel.answersWell env state = true)
    (chosen : getLns env state tunnel = some lns) (known : state.lns? lns = some entry)
    (demanded : demandsChallenge (some entry) (tunnel.lac.bind state.lac?) = true) :
    entry.challenge = true ∧ (entry.secret env tunnel.hostname).isSome = true ∧
      (tunnel.state = .idle ∨ tunnel.passes env state entry = true) := by
  unfold Tunnel.answersWell at well
  rw [chosen, Option.bind_some, known, Option.all_some] at well
  unfold Tunnel.answersUnder at well
  rw [demanded] at well
  simpa [and_assoc] using well

def Action.ordinary (action : Action) : Prop := action.effect ≠ .answer ∧ action.effect ≠ .lns

theorem ordinary_permits {effects : List Effect} (safe : .answer ∉ effects ∧ .lns ∉ effects) :
    Permits effects Action.ordinary := by
  intro action member
  exact ⟨fun same => safe.1 (same ▸ member), fun same => safe.2 (same ▸ member)⟩

theorem ordinary_allows {effects : List Effect} (safe : .answer ∉ effects ∧ .lns ∉ effects) :
    Allows env effects Action.ordinary :=
  ⟨ordinary_permits safe, fun _ => ordinary_permits (by decide)⟩

theorem ordinary_mark : Action.ordinary (.move t (.call c .mark)) := by
  simp [Action.ordinary, Action.effect, Move.effect, CallMove.effect]

theorem ordinary_release : Action.ordinary (.move t (.call c .release)) := by
  simp [Action.ordinary, Action.effect, Move.effect, CallMove.effect]

theorem acts_authenticated {before after : View}
    (acts : Acts .admission env Action.ordinary before after) (auth : before.Authenticated env) :
    after.Authenticated env := by
  cases acts with
  | quiet same => exact auth.quiet same
  | act action allow enabled => exact action.authenticated enabled allow.1 allow.2 auth

theorem View.guarded_posed {value secret : Bytes} (found : view.tunnel? t = some core)
    (known : view.secret? env core = some secret) (posed : TunnelCore)
    (foundPosed : ((Action.move t (.expect (env.response 3 secret value))).apply
      ((Action.draw t value true).apply view)).tunnel? t = some posed) :
    ((Action.move t (.expect (env.response 3 secret value))).apply
      ((Action.draw t value true).apply view)).Guarded env posed := by
  have drawn : ((Action.draw t value true).apply view).tunnel? t =
      some { core with challenge := some value } :=
    (View.tunnel_setTunnel_same (by intro _; rfl)).trans (congrArg _ found)
  rw [show ((Action.move t (.expect (env.response 3 secret value))).apply
    ((Action.draw t value true).apply view)).tunnel? t = _ from
      View.tunnel_setTunnel_same (by intro _; rfl), drawn] at foundPosed
  cases foundPosed
  have issued : ((Action.move t (.expect (env.response 3 secret value))).apply
      ((Action.draw t value true).apply view)).issued
        ((Move.expect (env.response 3 secret value)).apply { core with challenge := some value }) := by
    refine ⟨value, rfl, List.mem_append_right _ ?_⟩
    rw [show core.ref = t from View.tunnel_ref found]
    exact List.mem_singleton_self _
  exact ⟨fun _ _ => ⟨rfl, issued⟩, fun _ _ => ⟨rfl, issued, secret, known, rfl⟩⟩

theorem View.secret_lns (owner : core.lns = some lns) (known : view.lns lns = some entry.terms) :
    view.secret? env core = entry.secret env core.hostname := by
  unfold View.secret?
  simp only [owner, known]
  rfl

theorem View.demands_lns {terms : Terms} (owner : core.lns = some lns)
    (known : view.lns lns = some terms) (asks : terms.challenge = true) :
    view.ownerChallenge core = true := by
  unfold View.ownerChallenge Terms.challengeOf
  rw [owner, Option.bind_some, known, Option.map_some, Option.getD_some, asks, Bool.or_true]

section

variable (auth : state.view.AuthenticatedBut env t) (found : state.tunnel? t = some tunnel)
  (chosen : tunnel.lns = some lns)

include auth found chosen

theorem challengeSccrp_authenticated {result : Option Bytes}
    (terms : state.view.lns lns = some entry.terms)
    (well : state.view.ownerChallenge tunnel.core = true →
      entry.challenge = true ∧ (entry.secret env tunnel.hostname).isSome)
    (ran : challengeSccrp env t entry.challenge state = .ok result after) :
    after.view.Authenticated env := by
  have posed := challengeSccrp_ok found ran
  cases asks : entry.challenge with
  | false =>
    rw [asks] at posed well
    rw [show after = state from posed]
    refine auth.settle fun core foundCore => ?_
    rw [view_tunnel_some found] at foundCore
    cases foundCore
    have quietOwner : state.view.ownerChallenge tunnel.core ≠ true := fun demanded =>
      Bool.false_ne_true (well demanded).1
    exact ⟨fun _ demanded => absurd demanded quietOwner,
      fun _ demanded => absurd demanded quietOwner⟩
  | true =>
    rw [asks] at posed
    have demanded : state.view.ownerChallenge tunnel.core = true :=
      View.demands_lns chosen terms asks
    obtain ⟨secret, some⟩ := Option.isSome_iff_exists.mp (well demanded).2
    have known : state.view.secret? env tunnel.core = Option.some secret :=
      (View.secret_lns chosen terms).trans some
    obtain ⟨value, outcome⟩ := posed
    rw [known] at outcome
    rw [show after.view = _ from outcome]
    have drawn : ((Action.draw t value true).apply state.view).tunnel? t = Option.some _ :=
      (View.tunnel_setTunnel_same (by intro _; rfl)).trans
        (congrArg _ (view_tunnel_some found))
    exact (auth.draw.move (.expect _) drawn trivial).settle
      (View.guarded_posed (view_tunnel_some found) known)

theorem answerSccrq_authenticated (known : state.lns? lns = some entry)
    (opening : tunnel.state.opening = true)
    (well : demandsChallenge (some entry) (tunnel.lac.bind state.lac?) = true →
      entry.challenge = true ∧ (entry.secret env tunnel.hostname).isSome)
    (ran : answerSccrq env t c entry state = .ok success after) : after.view.Authenticated env := by
  obtain ⟨_, _, rest⟩ := ok_writeTunnel ran
  have answerView : (state.setTunnel t fun tunnel => { tunnel with state := .SCCRP }).view =
      (Action.move t .answer).apply state.view := view_setTunnel fun _ => rfl
  have answerAuth : (state.setTunnel t fun tunnel =>
      { tunnel with state := .SCCRP }).view.AuthenticatedBut env t := by
    rw [answerView]
    refine auth.move .answer (view_tunnel_some found) ⟨?_, fun _ => opening⟩
    exact Option.isSome_iff_exists.mpr ⟨lns, chosen⟩
  have foundAnswer : (state.setTunnel t fun tunnel => { tunnel with state := .SCCRP }).tunnel? t =
      some { tunnel with state := .SCCRP } :=
    (tunnel_setTunnel (by intro _; rfl)).trans (congrArg _ found)
  obtain ⟨vector, withVector, ranVector, rest⟩ := bind_ok.mp rest
  obtain ⟨capabilities, _, rest⟩ := ok_reads (capabilityAvps_reads env t) rest
  obtain ⟨response, responded, ranResponse, rest⟩ := bind_ok.mp rest
  have quiet : Quiet _ responded.view :=
    (quiet_ok addVector_sim ranVector).trans (quiet_ok respondSccrp_sim ranResponse)
  obtain ⟨challenge, posed, ranChallenge, rest⟩ := bind_ok.mp rest
  obtain ⟨now, foundNow, same⟩ : ∃ now, responded.tunnel? t = some now ∧
      now.core = { tunnel.core with state := .SCCRP } := by
    have core := quiet.tunnel t
    rw [view_tunnel_some foundAnswer, view_tunnel] at core
    obtain ⟨now, foundNow, same⟩ := Option.map_eq_some_iff.mp core
    exact ⟨now, foundNow, same⟩
  have entries : responded.view.lns = state.view.lns := by
    rw [quiet.lns, answerView]
    rfl
  have dialers : responded.view.lac = state.view.lac := by
    rw [quiet.lac, answerView]
    rfl
  have terms : state.view.lns lns = some entry.terms := by
    simp [Daemon.view, known]
  have posedAuth : posed.view.Authenticated env := by
    refine challengeSccrp_authenticated (answerAuth.quiet quiet) foundNow
      ((congrArg TunnelCore.lns same).trans chosen) (entries ▸ terms) ?_ ranChallenge
    rw [show now.hostname = tunnel.hostname from congrArg TunnelCore.hostname same, same]
    intro demanded
    refine well ?_
    have lnsShown : (some entry).map Lns.terms = tunnel.core.lns.bind responded.view.lns := by
      rw [entries, show tunnel.core.lns = some lns from chosen]
      exact terms.symm
    have lacShown : (tunnel.lac.bind state.lac?).map Lac.terms =
        tunnel.core.lac.bind responded.view.lac := by
      rw [dialers]
      exact lacTerms state tunnel.lac
    rw [← ownerChallenge_terms lnsShown lacShown]
    exact demanded
  have keeps : ∀ before after, Acts .admission env Action.ordinary before after →
      before.Authenticated env → after.Authenticated env := fun _ _ => acts_authenticated
  cases challenge with
  | none =>
    exact leads_ok_invariant (refuse_sim ordinary_mark) rest keeps posedAuth
  | some challenge =>
    refine leads_ok_invariant ?_ rest keeps posedAuth
    refine leads_bind (sim_storeCall fun _ => rfl) fun _ _ _ => ?_
    refine leads_bind (sendControl_sim ?_ (ordinary_allows (by decide))) fun _ _ _ => leads_pure _
    simp only [List.append_assoc]
    exact message_nonempty _ _

end

theorem View.Authenticated.choose {lns : Option LnsRef} (auth : state.view.Authenticated env)
    (found : state.tunnel? t = some tunnel) (opening : tunnel.state.opening = true)
    (known : ∀ ref ∈ lns, (state.view.lns ref).isSome) (unasked : tunnel.state = .SCCRQ →
      state.view.ownerChallenge { tunnel.core with lns := lns } = true →
      state.view.ownerChallenge tunnel.core = true) :
    ((Action.move t (.choose lns)).apply state.view).Authenticated env := by
  have foundCore := view_tunnel_some found
  refine ((auth.but t).move (.choose lns) foundCore ⟨fun _ => opening, known⟩).settle ?_
  intro core foundChosen
  rw [show ((Action.move t (.choose lns)).apply state.view).tunnel? t = _ from
    View.tunnel_setTunnel_same (by intro _; rfl), foundCore] at foundChosen
  cases foundChosen
  have guarded := auth.tunnels t tunnel.core foundCore
  refine ⟨fun requested demanded => ?_, fun answered => ?_⟩
  · exact guarded.requested requested (unasked requested demanded)
  · rw [show tunnel.state = .SCCRP from answered] at opening
    cases opening

theorem demands_lac (demanded : view.ownerChallenge { core with lns := none } = true) :
    view.ownerChallenge core = true := by
  unfold View.ownerChallenge at demanded ⊢
  rw [Option.bind_none, show Terms.challengeOf none = false from rfl, Bool.or_false] at demanded
  rw [demanded, Bool.true_or]

theorem finishSccrq_authenticated (auth : state.view.Authenticated env)
    (found : state.tunnel? t = some tunnel) (opening : tunnel.state.opening = true)
    (well : tunnel.answersWell env state = true)
    (ran : finishSccrq env t c state = .ok success after) : after.view.Authenticated env := by
  have keeps : ∀ before after, Acts .admission env Action.ordinary before after →
      before.Authenticated env → after.Authenticated env := fun _ _ => acts_authenticated
  have marks : Action.ordinary (.move t (.call c .mark)) := ordinary_mark
  obtain ⟨same, foundSame, rest⟩ := ok_readTunnel ran
  rw [found] at foundSame
  cases foundSame
  by_cases noTid : tunnel.tid ≤ 0
  · rw [if_pos noTid] at rest
    exact leads_ok_invariant (refuse_sim marks) rest keeps auth
  rw [if_neg noTid, bind_get] at rest
  obtain ⟨_, _, rest⟩ := ok_writeTunnel rest
  cases chosen : getLns env state tunnel with
  | none =>
    rw [chosen] at rest
    have chosenView : (state.setTunnel t fun tunnel => { tunnel with lns := none }).view =
        (Action.move t (.choose none)).apply state.view := view_setTunnel fun _ => rfl
    refine leads_ok_invariant (refuse_sim marks) rest keeps ?_
    rw [chosenView]
    exact auth.choose found opening (by simp) fun _ => demands_lac
  | some lns =>
    rw [chosen] at rest
    obtain ⟨entry, known, rest⟩ := ok_deref rest
    have known : state.lns? lns = some entry := known
    obtain ⟨_, _, rest⟩ := ok_writeTunnel rest
    let prepared := (state.setTunnel t fun tunnel => { tunnel with lns := some lns }).setTunnel t
      fun tunnel => { tunnel with ourrws := entry.tunRws, hbit := entry.hbit }
    have preparedView : prepared.view =
        (Action.move t (.choose (some lns))).apply state.view := by
      rw [view_setTunnel_same (by intro _; rfl)]
      exact view_setTunnel fun _ => rfl
    have foundPrepared : prepared.tunnel? t =
        some { tunnel with lns := some lns, ourrws := entry.tunRws, hbit := entry.hbit } := by
      rw [tunnel_setTunnel (by intro _; rfl), tunnel_setTunnel (by intro _; rfl), found]
      rfl
    have listed : ∀ ref ∈ some lns, (state.view.lns ref).isSome := by
      rintro ref same
      cases same
      exact getLns_known chosen
    have demanded : state.view.ownerChallenge { tunnel.core with lns := some lns } =
        demandsChallenge (some entry) (tunnel.lac.bind state.lac?) := by
      refine ownerChallenge_terms ?_ (lacTerms state tunnel.lac)
      simp [Daemon.view, known]
    -- A tunnel of ours whose SCCRQ fails a check is one that no challenge is asked for.
    have failing : tunnel.passes env state entry = false → prepared.view.Authenticated env := by
      intro fails
      rw [preparedView]
      refine auth.choose found opening listed fun requested asked => ?_
      rw [demanded] at asked
      rcases (Tunnel.answersWell_entry well chosen known asked).2.2 with idle | passes
      · rw [requested] at idle
        cases idle
      · rw [fails] at passes
        cases passes
    by_cases unframed : tunnel.fc < 0
    · rw [if_pos unframed] at rest
      refine leads_ok_invariant (refuse_sim marks) rest keeps (failing ?_)
      simp [Tunnel.passes, unframed]
    rw [if_neg unframed] at rest
    by_cases unnamed : tunnel.hostname = [] ∧ (tunnel.chalUs.challenged ∨ entry.challenge)
    · rw [if_pos unnamed] at rest
      refine leads_ok_invariant (refuse_sim marks) rest keeps (failing ?_)
      obtain ⟨nameless, asked⟩ := unnamed
      simp only [Tunnel.passes, nameless]
      rcases asked with asked | asked <;> simp [asked]
    rw [if_neg unnamed] at rest
    by_cases twice : duplicateTunnel env state tunnel = true
    · rw [if_pos twice] at rest
      obtain ⟨_, released, release, returned⟩ := bind_ok.mp rest
      cases returned
      refine leads_ok_invariant (sim_release ordinary_release) release keeps (failing ?_)
      simp [Tunnel.passes, twice]
    rw [if_neg twice] at rest
    refine answerSccrq_authenticated ?_ foundPrepared rfl known opening ?_ rest
    · rw [preparedView]
      exact (auth.but t).move _ (view_tunnel_some found) ⟨fun _ => opening, listed⟩
    · intro asked
      have answers := Tunnel.answersWell_entry well chosen known asked
      exact ⟨answers.1, answers.2.1⟩

/-! ## Every other input -/

theorem branchEffects_ordinary {type : MsgType} (other : type ≠ .SCCRQ) :
    .answer ∉ branchEffects type ∧ .lns ∉ branchEffects type := by
  cases type with
  | SCCRQ => exact absurd rfl other
  | unassigned number => simp [branchEffects]
  | _ => decide

def Entered.answersWell (env : Env) (entered : Entered) : Bool :=
  match entered.state.tunnel? entered.tunnel, entered.state.call? entered.tunnel entered.call with
  | some tunnel, some call =>
      call.msgtype ≠ some .SCCRQ || tunnel.answersWell env entered.state
  | _, _ => true

theorem controlFinish_authenticated (auth : state.view.Authenticated env)
    (vetted : state.view.vetted t c) (well : Entered.answersWell env ⟨t, c, state⟩ = true)
    (ran : controlFinish env t c state = .ok success after) : after.view.Authenticated env := by
  obtain ⟨tunnel, call, found, foundCall, rest⟩ := ok_readCall ran
  cases typed : call.msgtype with
  | none =>
    rw [typed] at rest
    cases rest
    exact auth
  | some type =>
    rw [typed] at rest
    obtain ⟨_, _, noted, rest⟩ := bind_ok.mp rest
    cases noted
    have notedAuth : (state.emit (.finish t c type)).view.Authenticated env :=
      auth.log _ (by simp [Obs.plain])
    have fits := vetted.fits found foundCall typed
    by_cases request : type = .SCCRQ
    · subst request
      refine finishSccrq_authenticated notedAuth found ?_ ?_ rest
      · revert fits
        cases tunnel.state <;> simp [admitted, admits, TunnelState.opening]
      · have answers : tunnel.answersWell env state = true := by
          unfold Entered.answersWell at well
          simpa [found, some_call found foundCall, typed] using well
        exact answers
    · have foundNoted : (state.emit (.finish t c type)).tunnel? t = some tunnel := found
      refine leads_ok_invariant (finishBranch_sim
        (ordinary_allows (branchEffects_ordinary request)) foundNoted foundCall (fun _ => fits)
        ?_) rest (fun _ _ => acts_authenticated) notedAuth
      rintro _ rfl
      exact vetted.first found foundCall typed

def Daemon.settled (state : Daemon) (lns : LnsRef) : Prop :=
  ∀ tunnel ∈ state.tunnels, tunnel.lns = some lns →
    tunnel.state ≠ .SCCRQ ∧ tunnel.state ≠ .SCCRP

def View.settled (view : View) (lns : LnsRef) : Prop :=
  ∀ core ∈ view.tunnels, core.lns = some lns → core.state ≠ .SCCRQ ∧ core.state ≠ .SCCRP

theorem settled_view (settled : state.settled lns) : state.view.settled lns := by
  intro core member owner
  obtain ⟨tunnel, listed, rfl⟩ := List.mem_map.mp member
  exact settled tunnel listed owner

theorem View.Authenticated.editLns {terms : Option Terms} (auth : view.Authenticated env)
    (settled : view.settled lns) (known : terms.isSome → (view.lns lns).isSome) :
    ((Action.editLns lns terms).apply view).Authenticated env where
  fresh := Action.fresh_kept _
    (show (Action.editLns lns terms).enabled .admission env view from known) auth.fresh
  tunnels := by
    intro t core found
    by_cases owner : core.lns = some lns
    · obtain ⟨notRequested, notAnswered⟩ := settled core (Keyed.find_mem found) owner
      exact ⟨fun state => absurd state notRequested, fun state => absurd state notAnswered⟩
    · refine (auth.tunnels t core found).carry ?_ rfl (List.prefix_refl _)
      cases other : core.lns with
      | none => rfl
      | some ref =>
        refine Function.update_of_ne ?_ _ _
        exact fun same => owner (other.trans (congrArg some same))
  history := auth.history

theorem View.Authenticated.addLns {terms : Terms} (auth : view.Authenticated env) :
    ((Action.addLns terms).apply view).Authenticated env where
  fresh := Action.fresh_kept _
    (show (Action.addLns terms).enabled .admission env view from trivial) auth.fresh
  tunnels := by
    intro t core found
    refine (auth.tunnels t core found).carry ?_ rfl (List.prefix_refl _)
    cases owner : core.lns with
    | none => rfl
    | some lns =>
      have older := auth.fresh.ownLns core (Keyed.find_mem found) lns owner
      exact Function.update_of_ne (Nat.ne_of_lt older) _ _
  history := auth.history

theorem View.settled_setTunnel (settled : view.settled lns)
    (owner : ∀ core, (change core).lns = core.lns)
    (kept : ∀ core, (change core).state = core.state) : (view.setTunnel t change).settled lns := by
  intro core member owned
  rcases Keyed.mem_update member with old | ⟨old, found, rfl⟩
  · exact settled core old owned
  · rw [kept]
    exact settled old (Keyed.find_mem found) (owner old ▸ owned)

theorem Action.closing_settled (action : Action) (closing : action.effect ∈ tunnelEffects)
    (settled : view.settled lns) :
    (action.apply view).settled lns := by
  cases action with
  | unlink t => exact fun core member => settled core (Keyed.mem_remove.mp member).1
  | move t change =>
    refine View.settled_setTunnel settled ?_ ?_ <;> intro core <;> cases change with
    | call c move => cases c <;> rfl
    | dropCall ref => rfl
    | _ => simp [Action.effect, Move.effect, tunnelEffects] at closing
  | zlb t header => exact settled
  | send buffer fate =>
    have numbered : (view.setTunnel buffer.tunnel fun core =>
        { core with controlSeqNum := core.controlSeqNum + 1 }).settled lns :=
      View.settled_setTunnel settled (fun _ => rfl) fun _ => rfl
    cases fate <;> exact numbered
  | deschedule t => exact settled
  | draw t value answering =>
    cases answering <;> simp [Action.effect, tunnelEffects] at closing
  | note observed => cases observed <;> simp [Action.effect, Obs.effect, tunnelEffects] at closing
  | _ => simp [Action.effect, tunnelEffects] at closing

theorem lnsAddModify_authenticated {name : Bytes} {settings : List Setting}
    (auth : state.view.Authenticated env)
    (settled : ∀ entry, findLnsByName state name = some entry → state.settled entry.ref)
    (ran : controlHandleLnsAddModify name settings state = .ok () after) :
    after.view.Authenticated env := by
  obtain ⟨lns, listed, lookup, rest⟩ := bind_ok.mp ran
  have prepared : listed.view.Authenticated env ∧ listed.view.settled lns := by
    unfold lnsEntry at lookup
    rw [bind_get] at lookup
    cases search : findLnsByName state name with
    | some entry =>
      rw [search] at lookup
      cases lookup
      exact ⟨auth, settled_view (settled entry search)⟩
    | none =>
      rw [search] at lookup
      cases lookup
      let entry : Lns := { ref := state.fresh, entname := name.take strlen }
      have view : Daemon.view { state with
          fresh := state.fresh + 1, lnslist := entry :: state.lnslist } =
          (Action.addLns entry.terms).apply state.view := view_addLns rfl
      rw [show Daemon.view _ = _ from view]
      refine ⟨auth.addLns, fun core member owner => ?_⟩
      have older := auth.fresh.ownLns core member _ owner
      exact absurd older (Nat.lt_irrefl _)
  obtain ⟨entry, found, wrote⟩ := ok_deref rest
  cases wrote
  have named : ∀ entry, (applySettings Setting.applyLns entry settings).1.ref = entry.ref :=
    fun entry => applySettings_ref applyLns_ref entry settings
  rw [view_editLns named found]
  refine prepared.1.editLns prepared.2 fun _ => ?_
  simp [Daemon.view, found]

theorem lnsRemove_authenticated {name : Bytes} (auth : state.view.Authenticated env)
    (settled : ∀ entry, (state.lnslist.find? fun entry => sameName entry.entname name) =
      some entry → state.settled entry.ref)
    (ran : controlHandleLnsRemove env name state = .ok () after) :
    after.view.Authenticated env := by
  unfold controlHandleLnsRemove at ran
  rw [bind_get] at ran
  cases search : state.lnslist.find? fun entry => sameName entry.entname name with
  | none =>
    rw [search] at ran
    cases ran
    exact auth
  | some entry =>
    rw [search] at ran
    obtain ⟨_, closed, close, removed⟩ := bind_ok.mp ran
    cases removed
    let invariant : View → Prop := fun view => view.Authenticated env ∧ view.settled entry.ref
    have kept : invariant closed.view := by
      have sim : Sim .admission env (fun action => action.effect ∈ tunnelEffects)
          (closeLnsCalls env entry.ref (state.tunnels.map Tunnel.ref)) state :=
        closeLnsCalls_sim ⟨fun action member => (by decide : callEffects ⊆ tunnelEffects) member,
          fun _ _ member => member⟩
      refine leads_ok_invariant sim close ?_ ⟨auth, settled_view (settled entry search)⟩
      intro before after acts ⟨authBefore, settledBefore⟩
      cases acts with
      | quiet same =>
        refine ⟨authBefore.quiet same, ?_⟩
        unfold View.settled
        rw [same.tunnels]
        exact settledBefore
      | act action allow enabled =>
        have safe : Action.ordinary action := ordinary_permits (by decide) action allow
        exact ⟨action.authenticated enabled safe.1 safe.2 authBefore,
          action.closing_settled allow settledBefore⟩
    obtain ⟨terms, view, known⟩ := view_removeLns closed entry.ref
    rw [show Daemon.view _ = _ from view]
    exact kept.1.editLns kept.2 known

/-! ## Runs -/

/-- The inputs that keep tunnels authenticated: refused types end their message, every SCCRQ is
answered well, and the LNS entry of a tunnel being opened is left alone. -/
structure KeepsSecrets (env : Env) (state : Daemon) (input : Input) : Prop where
  steady : state.steady env input
  answers : ∀ datagram, input = .datagram datagram →
    (entering env datagram state).all (Entered.answersWell env) = true
  edits : ∀ name settings entry, input = .request (.lnsAddModify name settings) →
    findLnsByName state name = some entry → state.settled entry.ref
  removes : ∀ name entry, input = .request (.lnsRemove name) →
    (state.lnslist.find? fun entry => sameName entry.entname name) = some entry →
    state.settled entry.ref

theorem exec_authenticated {input : Input} (auth : state.view.Authenticated env)
    (meets : KeepsSecrets env state input) (ran : exec env input state = .ok () after) :
    after.view.Authenticated env := by
  have keeps : ∀ before after, Acts .admission env Action.ordinary before after →
      before.Authenticated env → after.Authenticated env := fun _ _ => acts_authenticated
  cases input with
  | datagram datagram =>
    refine receive_keeps keeps (ordinary_allows (by decide))
      (fun _ _ _ _ _ _ _ => ⟨fun _ _ => ⟨nofun, nofun⟩, fun _ _ => ⟨nofun, nofun⟩,
        fun _ _ _ => ⟨nofun, nofun⟩, fun _ _ _ => ⟨nofun, nofun⟩⟩)
      (fun _ _ _ _ _ => ⟨fun _ _ => ⟨nofun, nofun⟩, fun _ _ => ⟨nofun, nofun⟩,
        fun _ _ _ => ⟨nofun, nofun⟩⟩) (fun _ => ?_) ?_ auth ran
    · have steady := meets.steady
      unfold Daemon.steady at steady
      rw [ran] at steady
      exact steady
    · intro t c entered enters enteredAuth vetted success after finished
      refine controlFinish_authenticated enteredAuth (vetted trivial) ?_ finished
      have answers := meets.answers datagram rfl
      rw [enters] at answers
      exact answers
  | request request =>
    cases edits : request.editsLns with
    | true =>
      cases request with
      | lnsAddModify name settings =>
        exact lnsAddModify_authenticated auth (fun entry => meets.edits name settings entry rfl)
          ran
      | lnsRemove name =>
        exact lnsRemove_authenticated auth (fun entry => meets.removes name entry rfl) ran
      | _ => cases edits
    | false =>
      refine leads_ok_invariant ?_ ran keeps auth
      exact doControl_sim (ordinary_allows (by decide)) (fun impossible => impossible.elim)
        (by simp [edits])
  | _ =>
    refine leads_ok_invariant ?_ ran keeps auth
    exact exec_sim (ordinary_allows (by decide)) (fun impossible => impossible.elim) nofun nofun

theorem Booted.authenticated (booted : Booted state) : state.view.Authenticated env := by
  refine ⟨booted.fresh, fun t core found => ?_, ?_⟩
  · have empty : state.view.tunnels = [] := by simp [Daemon.view, booted.tunnels]
    unfold View.tunnel? at found
    rw [empty] at found
    cases found
  · rw [show state.view.trace = [] from booted.trace]
    exact History.always_nil

theorem init_authenticated (booted : Booted state) (ran : init env state = .ok () after) :
    after.view.Authenticated env :=
  leads_ok_invariant (init_sim (ordinary_allows (by decide))) ran (fun _ _ => acts_authenticated)
    booted.authenticated

/-- When a tunnel whose owner asks for a challenge is established, the peer has answered one with
the secret we share. -/
theorem tunnels_authenticated (runs : Runs env (KeepsSecrets env) state) :
    History.Always (Obs.authentic env) state.trace := by
  suffices state.view.Authenticated env from this.history
  induction runs with
  | boot booted ran => exact init_authenticated booted ran
  | step _ meets ran ih => exact exec_authenticated ih meets ran

def keepsSecretsTest (env : Env) (state : Daemon) : Input → Bool
  | .datagram datagram =>
      decide (state.steady env (.datagram datagram)) &&
        (entering env datagram state).all (Entered.answersWell env)
  | _ => false

theorem keepsSecretsTest_sound (state : Daemon) (input : Input)
    (passed : keepsSecretsTest env state input = true) : KeepsSecrets env state input := by
  cases input with
  | datagram datagram =>
    unfold keepsSecretsTest at passed
    rw [Bool.and_eq_true] at passed
    refine ⟨of_decide_eq_true passed.1, fun same equal => ?_, ?_, ?_⟩
    · rw [← Input.datagram.inj equal]
      exact passed.2
    · intro _ _ _ impossible
      cases impossible
    · intro _ _ impossible
      cases impossible
  | _ =>
    unfold keepsSecretsTest at passed
    cases passed

def Daemon.establishes (state : Daemon) : Bool :=
  state.trace.any fun
    | .established _ lns lac => demandsChallenge lns lac
    | _ => false

/-- With a shared secret a peer is let in by its response, and nothing else. -/
theorem peer_with_secret_authenticated : ∃ (env : Env) (state : Daemon),
    state.establishes = true ∧ History.Always (Obs.authentic env) state.trace := by
  let env := sampleEnv (fun _ _ => some (text "secret")) 5
  let challenge := (List.range 16).map fun index => UInt8.ofNat (index + 3)
  let scccn := sampleDatagram 513 0 1 1 (addMessageTypeAvp .SCCCN ++
    addChalrespAvp (env.response 3 (text "secret") challenge))
  obtain ⟨state, runs, established⟩ : ∃ state, Runs env (KeepsSecrets env) state ∧
      state.establishes = true :=
    execAll_any (keepsSecretsTest env) [.datagram sampleSccrq, .datagram scccn]
      (sampleStart_booted true) rfl keepsSecretsTest_sound (by decide +kernel)
  exact ⟨env, state, established, tunnels_authenticated runs⟩

def Daemon.forged (env : Env) (state : Daemon) : Bool :=
  state.trace.any fun
    | .established tunnel lns lac =>
        demandsChallenge lns lac && (tunnelSecret env tunnel lns lac).isNone
    | _ => false

theorem forged_not_authentic (forged : state.forged env = true) :
    ¬ History.Always (Obs.authentic env) state.trace := by
  intro holds
  obtain ⟨observed, member, shown⟩ := List.any_eq_true.mp forged
  obtain ⟨past, authentic⟩ := History.always_mem holds member
  cases observed with
  | established tunnel lns lac =>
    obtain ⟨demanded, missing⟩ := Bool.and_eq_true_iff.mp shown
    obtain ⟨_, secret, _, _, _, known, _⟩ := (authentic demanded).proof
    rw [known] at missing
    cases missing
  | _ => cases shown

/-- A peer that we have no secret with sends an SCCRQ and, refused, an SCCCN. -/
theorem refused_peer_established : ∃ (env : Env) (state : Daemon), Reachable env state ∧
    ¬ History.Always (Obs.authentic env) state.trace := by
  let env := sampleEnv (fun _ _ => none) 5
  obtain ⟨state, reached, forged⟩ : ∃ state, Reachable env state ∧ state.forged env = true :=
    reachable_any [.datagram sampleSccrq, .sweep,
      .datagram (sampleDatagram 513 0 1 1 (addMessageTypeAvp .SCCCN))]
      (sampleStart_booted true) rfl (by decide +kernel)
  exact ⟨env, state, reached, forged_not_authentic forged⟩

end Xl2tpd
