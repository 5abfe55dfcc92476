import Xl2tpd.Addresses
import Xl2tpd.Lib.History

/-!
# Tunnel authentication

A tunnel whose owner asks for a challenge is established only after the peer has answered one with
the secret we share. The invariant says what has been done by the time we wait for the SCCRP or
the SCCCN.
-/

namespace Xl2tpd

set_option autoImplicit false

open Program

/-! ## What authentication means -/

def demandsChallenge (lns : Option Lns) (lac : Option Lac) : Bool :=
  (lac.map Lac.challenge).getD false || (lns.map Lns.challenge).getD false

/-- The secret `get_secret` finds for the peer of a tunnel with the given entries. -/
def tunnelSecret (env : Env) (tunnel : Tunnel) (lns : Option Lns) (lac : Option Lac) :
    Option Bytes :=
  let terms := match tunnel.lns, tunnel.lac with
    | some _, _ => lns.map Lns.terms
    | none, some _ => lac.map Lac.terms
    | none, none => none
  (terms.map (Terms.names env tunnel.hostname)).bind fun names => env.getSecret names.1 names.2

/-- A tunnel enters `SCCCN` with the right response to a challenge drawn before. -/
structure Authentic (env : Env) (past : List Obs) (tunnel : Tunnel) (lns : Option Lns)
    (lac : Option Lac) : Prop where
  proof : ∃ challenge secret ss, tunnel.chalThem.challenge = some challenge ∧
    Obs.challenge tunnel.ref challenge ∈ past ∧ tunnelSecret env tunnel lns lac = some secret ∧
    (ss = 2 ∨ ss = 3) ∧ tunnel.chalThem.reply = env.response ss secret challenge

def Obs.authentic (env : Env) (past : List Obs) : Obs → Prop
  | .established tunnel lns lac =>
      demandsChallenge lns lac = true → Authentic env past tunnel lns lac
  | _ => True

/-! ## The invariant of a tunnel -/

structure View.Guarded (env : Env) (view : View) (core : TunnelCore) : Prop where
  requested : core.state = .SCCRQ → view.ownerChallenge core = true →
    core.challenged = true ∧ view.issued core
  answered : core.state = .SCCRP → view.ownerChallenge core = true →
    core.challenged = true ∧ view.issued core ∧ view.expects env core 3

variable {env : Env} {core : TunnelCore} {view : View} {change : TunnelCore → TunnelCore}
  {t : TunnelRef} {before after : View}

theorem View.issued_mono (trace : before.trace <+: after.trace) (issued : before.issued core) :
    after.issued core := by
  obtain ⟨value, stored, drawn⟩ := issued
  exact ⟨value, stored, trace.subset drawn⟩

theorem View.secret_congr (lns : core.lns.bind after.lns = core.lns.bind before.lns)
    (lac : core.lac.bind after.lac = core.lac.bind before.lac) :
    after.secret? env core = before.secret? env core := by
  unfold View.secret?
  cases owner : core.lns with
  | some ref =>
    rw [owner] at lns
    simp only [Option.bind_some] at lns
    simp only [lns]
  | none =>
    cases dialer : core.lac with
    | none => rfl
    | some ref =>
      rw [dialer] at lac
      simp only [Option.bind_some] at lac
      simp only [lac]

theorem View.Guarded.carry (guarded : before.Guarded env core)
    (lns : core.lns.bind after.lns = core.lns.bind before.lns)
    (lac : core.lac.bind after.lac = core.lac.bind before.lac)
    (trace : before.trace <+: after.trace) : after.Guarded env core := by
  have owner : after.ownerChallenge core = before.ownerChallenge core := by
    unfold View.ownerChallenge
    rw [lns, lac]
  constructor
  · intro requested demanded
    obtain ⟨challenged, issued⟩ := guarded.requested requested (owner ▸ demanded)
    exact ⟨challenged, View.issued_mono trace issued⟩
  · intro answered demanded
    obtain ⟨challenged, issued, secret, known, response⟩ :=
      guarded.answered answered (owner ▸ demanded)
    exact ⟨challenged, View.issued_mono trace issued, secret,
      (View.secret_congr lns lac).trans known, response⟩

theorem View.Guarded.forget (guarded : before.Guarded env core) (lac : Option LacRef)
    (self : CallCore) (lost : lac.bind after.lac = none) (entries : after.lns = before.lns)
    (trace : before.trace <+: after.trace) :
    after.Guarded env { core with lac := lac, self := self } := by
  have owner : after.ownerChallenge { core with lac := lac, self := self } = true →
      before.ownerChallenge core = true ∧ core.lns ≠ none := by
    unfold View.ownerChallenge
    rw [lost, entries]
    intro demanded
    have byLns : Terms.challengeOf (core.lns.bind before.lns) = true := by
      simpa [Terms.challengeOf] using demanded
    refine ⟨by rw [byLns, Bool.or_true], fun missing => ?_⟩
    rw [missing] at byLns
    cases byLns
  constructor
  · intro requested demanded
    obtain ⟨challenged, issued⟩ := guarded.requested requested (owner demanded).1
    exact ⟨challenged, View.issued_mono trace issued⟩
  · intro answered demanded
    obtain ⟨demandedBefore, owned⟩ := owner demanded
    obtain ⟨challenged, issued, secret, known, response⟩ :=
      guarded.answered answered demandedBefore
    refine ⟨challenged, View.issued_mono trace issued, secret, ?_, response⟩
    obtain ⟨ref, some⟩ := Option.ne_none_iff_exists'.mp owned
    unfold View.secret? at known ⊢
    simp only [some] at known ⊢
    rw [entries]
    exact known

/-- Message types are admitted; nothing is said about the owners of calls. -/
def Assume.admission : Assume := ⟨True, False, False.elim⟩

theorem Move.guarded (change : Move) (enabled : change.enabled .admission view core)
    (other : change.effect ≠ .answer) (guarded : view.Guarded env core) :
    view.Guarded env (change.apply core) := by
  cases change with
  | hostname name =>
    have opening := enabled trivial
    refine ⟨guarded.requested, fun answered => ?_⟩
    rw [show core.state = .SCCRP from answered] at opening
    cases opening
  | adopt lns lac =>
    have idle := enabled.1
    constructor <;> intro state <;> rw [show core.state = _ from state] at idle <;> cases idle
  | request =>
    refine ⟨fun _ demanded => enabled.2 demanded, ?_⟩
    intro answered
    cases answered
  | challenged =>
    have idle := enabled trivial
    constructor <;> intro state <;> rw [show core.state = _ from state] at idle <;> cases idle
  | verify response =>
    have requested := enabled trivial
    refine ⟨fun state demanded => ⟨rfl, (guarded.requested state demanded).2⟩, fun state => ?_⟩
    rw [show core.state = _ from state] at requested
    cases requested
  | disown => exact guarded.forget none _ rfl rfl (List.prefix_refl _)
  | choose | answer | expect => exact absurd rfl other
  | acked c nr | call c move =>
    cases c <;> exact ⟨guarded.requested, guarded.answered⟩
  | miscount | addCall | dropCall | detach =>
    exact ⟨guarded.requested, guarded.answered⟩

/-! ## The invariant of a run -/

structure View.Authenticated (env : Env) (view : View) : Prop where
  fresh : view.Fresh
  tunnels : ∀ t core, view.tunnel? t = some core → view.Guarded env core
  history : History.Always (Obs.authentic env) view.trace

def Obs.plain : Obs → Bool
  | .established .. => false
  | _ => true

theorem Obs.plain_authentic {note : Obs} (plain : note.plain = true) (past : List Obs) :
    note.authentic env past := by
  cases note with
  | established => cases plain
  | _ => trivial

theorem View.Authenticated.log (auth : view.Authenticated env) (notes : List Obs)
    (plain : ∀ note ∈ notes, note.plain = true) : (view.log notes).Authenticated env where
  fresh := auth.fresh.log notes
  tunnels := fun t core found =>
    (auth.tunnels t core found).carry rfl rfl (List.prefix_append _ _)
  history := History.always_append_of auth.history fun note member =>
    Obs.plain_authentic (plain note member)

theorem View.Authenticated.setTunnel (auth : view.Authenticated env)
    (fresh : (view.setTunnel t change).Fresh) (named : ∀ core, (change core).ref = core.ref)
    (changed : ∀ core, view.tunnel? t = some core → view.Guarded env (change core)) :
    (view.setTunnel t change).Authenticated env where
  fresh := fresh
  tunnels := by
    intro u core found
    have carried : view.Guarded env core := by
      rw [View.tunnel_setTunnel named] at found
      by_cases same : u = t
      · rw [if_pos same] at found
        obtain ⟨before, foundBefore, rfl⟩ := Option.map_eq_some_iff.mp found
        exact changed before (same ▸ foundBefore)
      · rw [if_neg same] at found
        exact auth.tunnels u core found
    exact ⟨carried.requested, carried.answered⟩
  history := auth.history

theorem View.Authenticated.rebuffer (auth : view.Authenticated env) (buffers : Multiset Buffer) :
    { view with buffers := buffers }.Authenticated env where
  fresh := ⟨auth.fresh.distinct, auth.fresh.tunnels, auth.fresh.ownLns, auth.fresh.ownLac,
    auth.fresh.lns, auth.fresh.lac⟩
  tunnels := fun t core found =>
    (auth.tunnels t core found).carry rfl rfl (List.prefix_refl _)
  history := auth.history

theorem Fate.authenticated {buffer : Buffer} (fate : Fate) (auth : view.Authenticated env) :
    (fate.apply buffer view).Authenticated env := by
  cases fate with
  | queued => exact (auth.rebuffer _).log _ (by simp [Obs.plain])
  | tossed => exact auth.log _ (by simp [Obs.plain])
  | dropped => exact auth

theorem View.Authenticated.keep (auth : view.Authenticated env)
    (named : ∀ core, (change core).ref = core.ref) (lns : ∀ core, (change core).lns = core.lns)
    (lac : ∀ core, (change core).lac = core.lac)
    (changed : ∀ core, view.tunnel? t = some core → view.Guarded env core →
      view.Guarded env (change core)) :
    (view.setTunnel t change).Authenticated env :=
  auth.setTunnel (auth.fresh.keep named lns lac) named fun core found =>
    changed core found (auth.tunnels t core found)

theorem View.Authenticated.link {selfRef : Nat} (auth : view.Authenticated env) :
    ((Action.link view.fresh selfRef).apply view).Authenticated env where
  fresh := Action.fresh_link auth.fresh
  tunnels := by
    intro t core found
    unfold View.tunnel? Action.apply at found
    simp only at found
    rw [Keyed.find_cons] at found
    split at found
    · cases found
      constructor <;> intro state <;> cases state
    · exact (auth.tunnels t core found).carry rfl rfl (List.prefix_refl _)
  history := auth.history

theorem View.Authenticated.unlink (auth : view.Authenticated env) :
    ((Action.unlink t).apply view).Authenticated env where
  fresh := Action.fresh_unlink auth.fresh
  tunnels u core found :=
    (auth.tunnels u core (Keyed.find_of_remove found)).carry rfl rfl (List.prefix_refl _)
  history := auth.history

section Establish

variable {view : View} {core : TunnelCore} {tunnel : Tunnel} {lns : Option Lns} {lac : Option Lac}

theorem ownerChallenge_terms (lnsTerms : lns.map Lns.terms = core.lns.bind view.lns)
    (lacTerms : lac.map Lac.terms = core.lac.bind view.lac) :
    view.ownerChallenge core = demandsChallenge lns lac := by
  unfold View.ownerChallenge demandsChallenge Terms.challengeOf
  rw [← lnsTerms, ← lacTerms, Option.map_map, Option.map_map]
  rfl

section

variable (same : tunnel.core = { core with state := .SCCCN })
  (lnsTerms : lns.map Lns.terms = core.lns.bind view.lns)
  (lacTerms : lac.map Lac.terms = core.lac.bind view.lac)

include same lnsTerms lacTerms

theorem tunnelSecret_terms : tunnelSecret env tunnel lns lac = view.secret? env core := by
  have ownLns : tunnel.lns = core.lns := congrArg TunnelCore.lns same
  have ownLac : tunnel.lac = core.lac := congrArg TunnelCore.lac same
  have hostname : tunnel.hostname = core.hostname := congrArg TunnelCore.hostname same
  unfold tunnelSecret View.secret?
  rw [ownLns, ownLac, hostname, lnsTerms, lacTerms]
  cases core.lns with
  | some ref => rfl
  | none => cases core.lac <;> rfl

theorem View.expects.authentic {ss : Nat} (checked : tunnel.chalThem.reply = core.response)
    (issued : view.issued core) (sent : ss = 2 ∨ ss = 3) (expects : view.expects env core ss) :
    Authentic env view.trace tunnel lns lac := by
  obtain ⟨challenge, stored, drawn⟩ := issued
  obtain ⟨secret, known, response⟩ := expects
  have named : tunnel.ref = core.ref := congrArg TunnelCore.ref same
  have kept : tunnel.chalThem.challenge = core.challenge := congrArg TunnelCore.challenge same
  refine ⟨challenge, secret, ss, kept.trans stored, named ▸ drawn,
    (tunnelSecret_terms same lnsTerms lacTerms).trans known, sent, ?_⟩
  rw [checked, response, stored]
  rfl

end

theorem View.Guarded.authentic
    (enabled : (Action.establish tunnel lns lac).enabled .admission env view)
    (guarded : ∀ core, view.tunnel? tunnel.ref = some core → view.Guarded env core) :
    Obs.authentic env view.trace (.established tunnel lns lac) := by
  intro demanded
  obtain ⟨core, found, same, lnsTerms, lacTerms, checked, establishing⟩ := enabled
  have guarded := guarded core found
  rw [← ownerChallenge_terms lnsTerms lacTerms] at demanded
  rcases establishing with answered | ⟨requested, verified⟩
  · obtain ⟨challenged, issued, expects⟩ := guarded.answered (answered trivial) demanded
    exact expects.authentic same lnsTerms lacTerms (checked challenged) issued (.inr rfl)
  · obtain ⟨challenged, issued⟩ := guarded.requested (requested trivial) demanded
    exact (verified challenged).authentic same lnsTerms lacTerms (checked challenged) issued
      (.inl rfl)

end Establish

theorem View.Authenticated.establish {tunnel : Tunnel} {lns : Option Lns} {lac : Option Lac}
    (enabled : (Action.establish tunnel lns lac).enabled .admission env view)
    (auth : view.Authenticated env) :
    ((Action.establish tunnel lns lac).apply view).Authenticated env := by
  have entered : (view.setTunnel tunnel.ref fun core =>
      { core with state := .SCCCN }).Authenticated env := by
    refine auth.keep (by intro _; rfl) (by intro _; rfl) (by intro _; rfl) ?_
    intro core _ _
    constructor <;> intro state <;> cases state
  have good : Obs.authentic env view.trace (.established tunnel lns lac) :=
    View.Guarded.authentic enabled fun core => auth.tunnels tunnel.ref core
  refine ⟨entered.fresh.log _, fun t core found => ?_, History.always_snoc auth.history good⟩
  exact (entered.tunnels t core found).carry rfl rfl (List.prefix_append _ _)

theorem View.Authenticated.addLac {terms : Terms} (auth : view.Authenticated env) :
    ((Action.addLac terms).apply view).Authenticated env where
  fresh := Action.fresh_kept _
    (show (Action.addLac terms).enabled .admission env view from trivial) auth.fresh
  tunnels := by
    intro t core found
    refine (auth.tunnels t core found).carry rfl ?_ (List.prefix_refl _)
    cases owner : core.lac with
    | none => rfl
    | some lac =>
      have older := auth.fresh.ownLac core (Keyed.find_mem found) lac owner
      exact Function.update_of_ne (Nat.ne_of_lt older) _ _
  history := auth.history

theorem View.Authenticated.removeLac {lac : LacRef} (auth : view.Authenticated env) :
    ((Action.removeLac lac).apply view).Authenticated env where
  fresh := Action.fresh_kept _
    (show (Action.removeLac lac).enabled .admission env view from trivial) auth.fresh
  tunnels := by
    intro t core found
    have guarded := auth.tunnels t core found
    by_cases owner : core.lac = some lac
    · refine guarded.forget core.lac core.self ?_ rfl (List.prefix_refl _)
      rw [owner]
      exact Function.update_self _ _ _
    · refine guarded.carry rfl ?_ (List.prefix_refl _)
      cases other : core.lac with
      | none => rfl
      | some ref =>
        refine Function.update_of_ne ?_ _ _
        exact fun same => owner (other.trans (congrArg some same))
  history := auth.history

theorem Action.authenticated (action : Action) (enabled : action.enabled .admission env view)
    (answer : action.effect ≠ .answer) (entries : action.effect ≠ .lns)
    (auth : view.Authenticated env) :
    (action.apply view).Authenticated env := by
  cases action with
  | link ref selfRef =>
    cases enabled
    exact auth.link
  | unlink t => exact auth.unlink
  | move t change =>
    obtain ⟨core, found, allowed⟩ := enabled
    refine auth.setTunnel (change.fresh found allowed auth.fresh) change.apply_ref ?_
    intro same foundSame
    rw [found] at foundSame
    cases foundSame
    exact change.guarded allowed answer (auth.tunnels t core found)
  | draw t value answering =>
    cases answering with
    | true => exact absurd rfl answer
    | false =>
      obtain ⟨core, found, idle⟩ := enabled
      refine (auth.keep (by intro _; rfl) (by intro _; rfl) (by intro _; rfl) ?_).log _
        (by simp [Obs.plain])
      intro same foundSame _
      rw [found] at foundSame
      cases foundSame
      have idle := idle rfl trivial
      constructor <;> intro state <;> rw [show core.state = _ from state] at idle <;> cases idle
  | establish tunnel lns lac => exact auth.establish enabled
  | accept t header body =>
    refine (auth.keep (by intro _; rfl) (by intro _; rfl) (by intro _; rfl) ?_).log _
      (by simp [Obs.plain])
    exact fun _ _ guarded => ⟨guarded.requested, guarded.answered⟩
  | zlb t header => exact auth.log _ (by simp [Obs.plain])
  | send buffer fate =>
    refine fate.authenticated
      ((auth.keep (by intro _; rfl) (by intro _; rfl) (by intro _; rfl) ?_).log _
        (by simp [Obs.plain]))
    exact fun _ _ guarded => ⟨guarded.requested, guarded.answered⟩
  | resend buffer fate => exact fate.authenticated (auth.rebuffer _)
  | lose buffer => exact auth.rebuffer _
  | deschedule t => exact auth.rebuffer _
  | addLns terms => exact absurd rfl entries
  | editLns lns terms => exact absurd rfl entries
  | addLac terms => exact auth.addLac
  | removeLac lac => exact auth.removeLac
  | note observed =>
    refine auth.log _ ?_
    intro note member
    rw [List.mem_singleton.mp member]
    cases observed <;> first | rfl | cases enabled

end Xl2tpd
