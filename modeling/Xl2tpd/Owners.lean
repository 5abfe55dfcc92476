import Xl2tpd.Faults
import Xl2tpd.Runs

/-!
# Owners

Tunnels and calls belong to LNS and LAC entries, which the branches of `control_finish` use
without a test. The state of a tunnel or a call says which entry it has, as long as no entry is
taken from a call that still needs it.
-/

namespace Xl2tpd

set_option autoImplicit false

open Program

variable {env : Env} {state : Daemon} {t : TunnelRef} {c : CallId} {view : View}
  {change : TunnelCore → TunnelCore} {core : TunnelCore} {after : Daemon}

def Assume.ownership : Assume := ⟨True, True, id⟩

/-! ## The invariant -/

/-- The entries that go with the states of a tunnel and its calls. -/
structure TunnelCore.Owned (core : TunnelCore) : Prop where
  self : core.self.state = .idle
  answered : core.state = .SCCRP → core.lns.isSome
  called : ∀ call ∈ core.calls, call.state = .ICRP →
    core.state = .SCCCN ∧ core.lns.isSome ∧ call.lns.isSome
  placed : ∀ call ∈ core.calls, call.state.placed = true → call.lac.isSome

def View.Owned (view : View) : Prop := ∀ core ∈ view.tunnels, core.Owned

theorem View.Owned.setTunnel (owned : view.Owned)
    (keeps : ∀ core, view.tunnel? t = some core → core.Owned → (change core).Owned) :
    (view.setTunnel t change).Owned := by
  intro core member
  rcases Keyed.mem_update member with old | ⟨old, found, rfl⟩
  · exact owned core old
  · exact keeps old found (owned old (Keyed.find_mem found))

theorem TunnelCore.Owned.setCall {change : CallCore → CallCore} (owned : core.Owned)
    (keeps : ∀ call, (change call).state = call.state ∧ (change call).lns = call.lns ∧
      (change call).lac = call.lac) : (core.setCall c change).Owned := by
  cases c with
  | self => exact ⟨(keeps core.self).1.trans owned.self, owned.answered, owned.called, owned.placed⟩
  | call ref =>
    refine ⟨owned.self, owned.answered, fun call member => ?_, fun call member => ?_⟩
    all_goals
      rcases Keyed.mem_update member with old | ⟨old, found, rfl⟩
      · first | exact owned.called call old | exact owned.placed call old
      · obtain ⟨sameState, sameLns, sameLac⟩ := keeps old
        rw [sameState]
        first | rw [sameLns] | rw [sameLac]
        have member := Keyed.find_mem found
        first | exact owned.called old member | exact owned.placed old member

theorem TunnelCore.Owned.enter {next : CallState} (owned : core.Owned)
    (enabled : CallMove.enabled .ownership core c (.enter next)) :
    (core.setCall c (CallMove.enter next).apply).Owned := by
  cases c with
  | self =>
    cases next with
    | ICCN =>
      have waiting := enabled trivial core.self rfl
      rw [owned.self] at waiting
      simp at waiting
    | idle => exact enabled.elim
    | _ => exact absurd rfl enabled.1
  | call ref =>
    refine ⟨owned.self, owned.answered, fun call member => ?_, fun call member => ?_⟩
    all_goals
      intro entered
      rcases Keyed.mem_update member with old | ⟨old, found, rfl⟩
      · first | exact owned.called call old entered | exact owned.placed call old entered
    · change next = .ICRP at entered
      subst entered
      obtain ⟨_, needs⟩ := enabled
      obtain ⟨up, has, callHas⟩ := needs trivial
      exact ⟨up, has, (callHas old found).1⟩
    · change next.placed = true at entered
      cases next with
      | ICRQ | OCRQ => exact enabled.2.1 trivial old found
      | _ => cases entered

theorem Move.owned {change : Move} (owned : core.Owned)
    (enabled : change.enabled .ownership view core) : (change.apply core).Owned := by
  -- Before a tunnel is answered no call of it has been.
  have unanswered : core.state.opening = true → ∀ call ∈ core.calls, call.state ≠ .ICRP := by
    intro opening call member answered
    have up := (owned.called call member answered).1
    rw [up] at opening
    cases opening
  cases change with
  | hostname | challenged | verify | expect | miscount | disown =>
    exact ⟨owned.self, owned.answered, owned.called, owned.placed⟩
  | adopt lns lac =>
    obtain ⟨idle, none, _⟩ := enabled
    refine ⟨owned.self, fun answered => ?_, fun call member => ?_, owned.placed⟩
    · change core.state = .SCCRP at answered
      rw [idle] at answered
      cases answered
    · change call ∈ core.calls at member
      rw [none] at member
      cases member
  | choose lns =>
    refine ⟨owned.self, fun answered => ?_, fun call member called => ?_, owned.placed⟩
    · have opening := enabled.1 trivial
      rw [show core.state = .SCCRP from answered] at opening
      cases opening
    · exact absurd called (unanswered (enabled.1 trivial) call member)
  | request =>
    refine ⟨owned.self, nofun, fun call member called => ?_, owned.placed⟩
    refine absurd called (unanswered ?_ call member)
    rw [enabled.1 trivial]
    rfl
  | answer =>
    refine ⟨owned.self, fun _ => enabled.1, fun call member called => ?_, owned.placed⟩
    exact absurd called (unanswered (enabled.2 trivial) call member)
  | acked d nr =>
    have base : ({ core with cLr := nr.toNat } : TunnelCore).Owned :=
      ⟨owned.self, owned.answered, owned.called, owned.placed⟩
    have acked : (({ core with cLr := nr.toNat } : TunnelCore).setCall d fun found =>
        found.acked nr.toNat).Owned := base.setCall fun _ => ⟨rfl, rfl, rfl⟩
    exact acked
  | addCall added =>
    have idle : added.state = .idle := enabled.2.1
    refine ⟨owned.self, owned.answered, fun call member => ?_, fun call member => ?_⟩
    all_goals
      rcases List.mem_cons.mp member with rfl | old
      · rw [idle]
        nofun
      · first | exact owned.called call old | exact owned.placed call old
  | dropCall ref =>
    exact ⟨owned.self, owned.answered,
      fun call member => owned.called call (Keyed.mem_remove.mp member).1,
      fun call member => owned.placed call (Keyed.mem_remove.mp member).1⟩
  | detach ref =>
    have listed : ∀ call ∈ core.calls.dropWhile fun call => decide (call.ref ≠ ref),
        call ∈ core.calls := fun call member => (List.dropWhile_suffix _).subset member
    refine ⟨owned.self, owned.answered, fun call member => ?_, fun call member waits => ?_⟩
    all_goals rcases List.mem_append.mp member with kept | cleared
    · exact owned.called call ((List.takeWhile_prefix _).subset kept)
    · obtain ⟨old, oldMember, rfl⟩ := List.mem_map.mp cleared
      exact owned.called old (listed old oldMember)
    · exact owned.placed call ((List.takeWhile_prefix _).subset kept) waits
    · obtain ⟨old, oldMember, rfl⟩ := List.mem_map.mp cleared
      change old.state.placed = true at waits
      rw [enabled trivial old oldMember] at waits
      cases waits
  | call d change =>
    cases change with
    | enter next => exact owned.enter enabled
    | timeout =>
      refine owned.setCall fun call => ?_
      simp only [CallMove.apply]
      split <;> exact ⟨rfl, rfl, rfl⟩
    | _ => exact owned.setCall fun _ => ⟨rfl, rfl, rfl⟩

theorem TunnelCore.blank_owned (ref selfRef : Nat) : (TunnelCore.blank ref selfRef).Owned := by
  refine ⟨rfl, fun answered => ?_, fun call member => ?_, fun call member => ?_⟩
  · cases answered
  · cases member
  · cases member

theorem Action.owned {action : Action} (owned : view.Owned)
    (enabled : action.enabled .ownership env view) : (action.apply view).Owned := by
  -- Sequence numbers and authentication data do not matter here.
  have counts : ∀ {u : TunnelRef} {change : TunnelCore → TunnelCore},
      (∀ core, (change core).state = core.state ∧ (change core).lns = core.lns ∧
        (change core).self = core.self ∧ (change core).calls = core.calls) →
      (view.setTunnel u change).Owned := by
    intro u change keeps
    refine owned.setTunnel fun core _ own => ?_
    obtain ⟨sameState, sameLns, sameSelf, sameCalls⟩ := keeps core
    exact ⟨by rw [sameSelf]; exact own.self, by rw [sameState, sameLns]; exact own.answered,
      by rw [sameState, sameLns, sameCalls]; exact own.called,
      by rw [sameCalls]; exact own.placed⟩
  cases action with
  | link ref selfRef =>
    intro core member
    rcases List.mem_cons.mp member with rfl | old
    · exact TunnelCore.blank_owned ref selfRef
    · exact owned core old
  | unlink t => exact fun core member => owned core (Keyed.mem_remove.mp member).1
  | move u change =>
    obtain ⟨core, found, enabled⟩ := enabled
    refine owned.setTunnel fun same foundSame own => ?_
    rw [found] at foundSame
    cases foundSame
    exact Move.owned own enabled
  | draw u value answering =>
    have drawn : (view.setTunnel u fun core => { core with challenge := some value }).Owned :=
      counts fun _ => ⟨rfl, rfl, rfl, rfl⟩
    exact drawn
  | establish tunnel lns lac =>
    refine owned.setTunnel fun core _ own => ?_
    exact ⟨own.self, nofun, fun call member called =>
      ⟨rfl, (own.called call member called).2⟩, own.placed⟩
  | accept u header body =>
    have counted : (view.setTunnel u (Move.miscount header.Nr).apply).Owned :=
      counts fun _ => ⟨rfl, rfl, rfl, rfl⟩
    exact counted
  | send buffer fate =>
    have numbered : (view.setTunnel buffer.tunnel fun core =>
        { core with controlSeqNum := core.controlSeqNum + 1 }).Owned :=
      counts fun _ => ⟨rfl, rfl, rfl, rfl⟩
    cases fate <;> exact numbered
  | resend buffer fate => cases fate <;> exact owned
  | _ => exact owned

theorem Acts.owned_kept {allowed : Action → Prop} {before after : View}
    (acts : Acts .ownership env allowed before after) (owned : before.Owned) : after.Owned := by
  cases acts with
  | quiet same =>
    unfold View.Owned
    rw [same.tunnels]
    exact owned
  | act action _ enabled => exact action.owned owned enabled

/-! ## Owners while a branch runs -/

def View.owns (t : TunnelRef) (c : CallId) (owner : CallCore → Bool) (view : View) : Prop :=
  ∀ core call, view.tunnel? t = some core → core.call? c = some call → owner call = true

def Ownership (owner : CallCore → Bool) : Prop :=
  ∀ call other : CallCore, other.lns = call.lns → other.lac = call.lac → owner other = owner call

theorem lac_ownership : Ownership fun call => call.lac.isSome :=
  fun _ _ _ lac => congrArg Option.isSome lac

theorem lns_ownership : Ownership fun call => call.lns.isSome :=
  fun _ _ lns _ => congrArg Option.isSome lns

section Owns

variable {owner : CallCore → Bool} (ownership : Ownership owner)

include ownership

theorem owns_setTunnel {u : TunnelRef} (named : ∀ core, (change core).ref = core.ref)
    (back : ∀ core call', (change core).call? c = some call' →
      ∃ call, core.call? c = some call ∧ call'.lns = call.lns ∧ call'.lac = call.lac)
    (owns : view.owns t c owner) : (view.setTunnel u change).owns t c owner := by
  intro core call found foundCall
  rw [View.tunnel_setTunnel named] at found
  split at found
  · obtain ⟨old, foundOld, rfl⟩ := Option.map_eq_some_iff.mp found
    obtain ⟨oldCall, foundOldCall, lns, lac⟩ := back old call foundCall
    rw [ownership oldCall call lns lac]
    exact owns old oldCall foundOld foundOldCall
  · exact owns core call found foundCall

theorem owns_callMove {u : TunnelRef} {d : CallId} (change : CallMove)
    (owns : view.owns t c owner) :
    ((Action.move u (.call d change)).apply view).owns t c owner := by
  refine owns_setTunnel ownership (Move.apply_ref _) (fun core call' found => ?_) owns
  simp only [Move.apply] at found
  rw [TunnelCore.call_setCall (CallMove.apply_ref _)] at found
  split at found
  · obtain ⟨call, foundCall, rfl⟩ := Option.map_eq_some_iff.mp found
    refine ⟨call, foundCall, ?_⟩
    cases change with
    | timeout =>
      simp only [CallMove.apply]
      split <;> exact ⟨rfl, rfl⟩
    | _ => exact ⟨rfl, rfl⟩
  · exact ⟨call', found, rfl, rfl⟩

theorem owns_writeCall {d : CallId} {change : Call → Call} (move : CallMove)
    (shows : ∀ call, (change call).core = move.apply call.core)
    (wrote : writeCall t d change state = .ok () after) (owns : state.view.owns t c owner) :
    after.view.owns t c owner := by
  obtain ⟨_, _, _, _, rfl⟩ := writeCall_ok wrote
  rw [view_setCall move shows]
  exact owns_callMove ownership move owns

theorem Action.owns_kept {action : Action} (closing : action.effect ∈ Effect.mark :: tunnelEffects)
    (owns : view.owns t c owner) : (action.apply view).owns t c owner := by
  cases action with
  | unlink u =>
    intro core call found foundCall
    exact owns core call (Keyed.find_of_remove found) foundCall
  | move u change =>
    cases change with
    | call d change => exact owns_callMove ownership change owns
    | dropCall ref =>
      refine owns_setTunnel ownership (Move.apply_ref _) (fun core call' found => ?_) owns
      refine ⟨call', ?_, rfl, rfl⟩
      cases c with
      | self => exact found
      | call target => exact Keyed.find_of_remove found
    | _ => simp [Action.effect, Move.effect, tunnelEffects] at closing
  | send buffer fate =>
    have numbered : (view.setTunnel buffer.tunnel fun core =>
        { core with controlSeqNum := core.controlSeqNum + 1 }).owns t c owner :=
      owns_setTunnel ownership (fun _ => rfl)
        (fun core call' found => ⟨call', by cases c <;> exact found, rfl, rfl⟩) owns
    cases fate <;> exact numbered
  | zlb | deschedule => exact owns
  | draw u value answering =>
    cases answering <;> simp [Action.effect, tunnelEffects] at closing
  | note observed => cases observed <;> simp [Action.effect, Obs.effect, tunnelEffects] at closing
  | _ => simp [Action.effect, tunnelEffects] at closing

theorem owns_sim {Value : Type} {program : Prog Value} {value : Value}
    (sim : Sim .none env (fun action => action.effect ∈ Effect.mark :: tunnelEffects) program state)
    (ran : program state = .ok value after) (owns : state.view.owns t c owner) :
    after.view.owns t c owner := by
  refine leads_ok_invariant sim ran (fun before after acts owns => ?_) owns
  cases acts with
  | quiet same =>
    intro core call found foundCall
    refine owns core call ?_ foundCall
    rw [View.tunnel?, ← same.tunnels]
    exact found
  | act action closing _ => exact Action.owns_kept ownership closing owns

end Owns

theorem owns_call {owner : CallCore → Bool} {call : Call} (owns : state.view.owns t c owner)
    (found : state.call? t c = some call) : owner call.core = true := by
  obtain ⟨tunnel, foundTunnel, foundCall⟩ := call_some found
  refine owns tunnel.core call.core (view_tunnel_some foundTunnel) ?_
  rw [core_call, foundCall]
  rfl

/-! ## Branches that use an entry -/

theorem closing_allows : Allows env [.send] fun action => action.effect ∈ Effect.mark :: tunnelEffects :=
  ⟨fun _ member => (by decide : [Effect.send] ⊆ .mark :: tunnelEffects) member,
    fun _ _ member => List.mem_cons_of_mem _ member⟩

section

variable (owns : state.view.owns t c fun call => call.lac.isSome)

include owns

theorem startLacPppd_avoids {options : List Bytes} {password : Bool} :
    Avoids Fault.isNull (startLacPppd env t c options password) state := by
  refine avoids_bind (plain _) fun tunnel _ read => ?_
  obtain ⟨_, rfl⟩ := deref_ok.mp read
  refine avoids_bind (plain _) fun call _ read => ?_
  obtain ⟨found, rfl⟩ := deref_ok.mp read
  obtain ⟨lac, owner⟩ := Option.isSome_iff_exists.mp (owns_call owns found)
  rw [show call.lac = some lac from owner]
  refine (plain_bind fun _ => plain_bind fun entry => plain_bind fun secret => ?_).avoids _
  split <;> infer_instance

theorem finishIcrp_avoids : Avoids Fault.isNull (finishIcrp env t c) state := by
  refine avoids_bind (plain _) fun tunnel _ read => ?_
  obtain ⟨_, rfl⟩ := deref_ok.mp read
  refine avoids_bind (plain _) fun call _ read => ?_
  obtain ⟨_, rfl⟩ := deref_ok.mp read
  split
  · exact plain _
  refine avoids_bind (plain _) fun _ connected wrote => ?_
  have owned := owns_writeCall lac_ownership (.enter .ICCN) (fun _ => rfl) wrote owns
  refine avoids_bind (plain _) fun vector drawn ran => ?_
  replace owned := owns_sim lac_ownership addVector_sim ran owned
  refine avoids_bind (plain _) fun _ stored wrote => ?_
  replace owned : stored.view.owns t c fun call => call.lac.isSome := by
    have sim : Sim .none env (fun action => action.effect ∈ Effect.mark :: tunnelEffects)
        (writeCall t c fun call => { call with cnu := false }) drawn := sim_storeCall fun _ => rfl
    exact owns_sim lac_ownership sim wrote owned
  refine avoids_bind (plain _) fun _ sent ran => startLacPppd_avoids ?_
  refine owns_sim lac_ownership (sendControl_sim ?_ closing_allows) ran owned
  rw [List.append_assoc, List.append_assoc, List.append_assoc]
  exact message_nonempty _ _

theorem finishOccn_avoids : Avoids Fault.isNull (finishOccn env t c) state := by
  refine avoids_bind (plain _) fun call _ read => ?_
  obtain ⟨_, rfl⟩ := deref_ok.mp read
  exact startLacPppd_avoids owns

end

theorem finishScccn_avoids (owned : ∀ tunnel, state.tunnel? t = some tunnel → tunnel.lns.isSome) :
    Avoids Fault.isNull (finishScccn env t c) state := by
  refine avoids_bind (plain _) fun tunnel _ read => ?_
  obtain ⟨found, rfl⟩ := deref_ok.mp read
  obtain ⟨lns, owner⟩ := Option.isSome_iff_exists.mp (owned tunnel found)
  rw [owner]
  exact plain _

theorem finishIcrq_avoids (rings : ∀ tunnel, state.tunnel? t = some tunnel →
      ∃ head, tunnel.calls.head? = some head ∧ head.lns = tunnel.lns) :
    Avoids Fault.isNull (finishIcrq env t) state := by
  refine avoids_bind (plain _) fun tunnel _ read => ?_
  obtain ⟨found, rfl⟩ := deref_ok.mp read
  obtain ⟨head, first, owner⟩ := rings tunnel found
  rw [first, ← owner, show nonNull .finishCallHead (some head) = pure head from rfl, pure_bind]
  cases head.lns with
  | none => exact plain _
  | some lns =>
    refine (plain_bind fun entry => plain_bind fun _ => ?_).avoids _
    split <;> infer_instance

section

variable (owned : ∀ tunnel, state.tunnel? t = some tunnel → tunnel.lns.isSome)
  (owns : state.view.owns t c fun call => call.lns.isSome)

include owned owns

theorem getLocalAddr_avoids : Avoids Fault.isNull (getLocalAddr env t c) state := by
  refine avoids_bind (plain _) fun tunnel _ read => ?_
  obtain ⟨found, rfl⟩ := deref_ok.mp read
  obtain ⟨lns, owner⟩ := Option.isSome_iff_exists.mp (owned tunnel found)
  rw [owner]
  change Avoids _ (readLns lns >>= _) _
  refine avoids_bind (plain _) fun entry _ read => ?_
  obtain ⟨_, rfl⟩ := deref_ok.mp read
  split
  · exact avoids_pure _
  refine avoids_bind (plain _) fun call _ read => ?_
  obtain ⟨foundCall, rfl⟩ := deref_ok.mp read
  obtain ⟨own, callOwner⟩ := Option.isSome_iff_exists.mp (owns_call owns foundCall)
  rw [show call.lns = some own from callOwner]
  exact plain _

theorem finishIccn_avoids : Avoids Fault.isNull (finishIccn env t c) state := by
  unfold finishIccn
  split
  · exact avoids_pure _
  rename_i notSelf
  cases c with
  | self => exact absurd rfl notSelf
  | call ref =>
    refine avoids_bind (plain _) fun _ connected wrote => ?_
    have ownsNow := owns_writeCall lns_ownership (.enter .ICCN) (fun _ => rfl) wrote owns
    have ownedNow : ∀ tunnel, connected.tunnel? t = some tunnel → tunnel.lns.isSome := by
      obtain ⟨tunnel, _, found, _, rfl⟩ := writeCall_ok wrote
      intro same foundSame
      rw [tunnel_setCall found] at foundSame
      cases foundSame
      exact owned tunnel found
    refine avoids_bind (getLocalAddr_avoids ownedNow ownsNow) fun success addressed ran => ?_
    replace ownsNow := owns_sim lns_ownership (getLocalAddr_sim
      ⟨fun _ member => (by decide : localEffects ⊆ .mark :: tunnelEffects) member,
        fun _ _ member => List.mem_cons_of_mem _ member⟩) ran ownsNow
    split
    · exact avoids_pure _
    refine avoids_bind (plain _) fun tunnel _ read => ?_
    obtain ⟨_, rfl⟩ := deref_ok.mp read
    refine avoids_bind (plain _) fun call _ read => ?_
    obtain ⟨foundCall, rfl⟩ := deref_ok.mp read
    obtain ⟨own, callOwner⟩ := Option.isSome_iff_exists.mp (owns_call ownsNow foundCall)
    rw [show call.lns = some own from callOwner]
    exact plain _

end

/-! ## `control_finish` -/

theorem TunnelCore.Owned.call {core : TunnelCore} {call : CallCore} (owned : core.Owned)
    (found : core.call? c = some call) (begun : call.state ≠ .idle) : call ∈ core.calls := by
  cases c with
  | self =>
    cases found
    exact absurd owned.self begun
  | call ref => exact Keyed.find_mem found

theorem finishBranch_avoids {type : MsgType} {tunnel : Tunnel} {call : Call}
    (found : state.tunnel? t = some tunnel) (foundCall : tunnel.call? c = some call)
    (owned : tunnel.core.Owned) (fits : admitted tunnel.state c call.state type = true)
    (rings : type = .ICRQ → ∃ head, tunnel.calls.head? = some head ∧ head.state = .idle ∧
      head.lns = tunnel.lns) :
    Avoids Fault.isNull (finishBranch env t c type) state := by
  have foundCore : tunnel.core.call? c = some call.core := by
    rw [core_call, foundCall]
    rfl
  have here : ∀ {stands : Tunnel → Prop}, stands tunnel →
      ∀ same, state.tunnel? t = some same → stands same := by
    intro stands holds same foundSame
    rw [found] at foundSame
    cases foundSame
    exact holds
  have owns : ∀ {owner : CallCore → Bool}, owner call.core = true →
      state.view.owns t c owner := by
    intro owner holds core other foundOther foundOtherCall
    rw [view_tunnel_some found] at foundOther
    cases foundOther
    rw [foundCore] at foundOtherCall
    cases foundOtherCall
    exact holds
  have placed : call.state.placed = true → call.core.lac.isSome = true := by
    intro waits
    refine owned.placed call.core (owned.call foundCore ?_) waits
    intro idle
    rw [show call.state = .idle from idle] at waits
    cases waits
  cases type with
  | zero | SCCRQ | SCCRP | StopCCN | CDN | OCRQ | WEN | unassigned =>
    dsimp only [finishBranch]
    exact plain _
  | SCCCN =>
    refine finishScccn_avoids (here (owned.answered ?_))
    revert fits
    change _ → tunnel.state = .SCCRP
    cases tunnel.state <;> simp [admitted, admits]
  | ICRQ =>
    refine finishIcrq_avoids (here ?_)
    obtain ⟨head, isHead, _, owner⟩ := rings rfl
    exact ⟨head, isHead, owner⟩
  | ICRP =>
    refine finishIcrp_avoids (owns (placed ?_))
    revert fits
    cases call.state <;> simp [admitted, admits, CallState.placed]
  | ICCN =>
    have answered : call.core.state = .ICRP := by
      revert fits
      change _ → call.state = .ICRP
      cases call.state <;> simp [admitted, admits]
    have needs := owned.called call.core (owned.call foundCore (by simp [answered])) answered
    exact finishIccn_avoids (here needs.2.1) (owns needs.2.2)
  | OCCN =>
    refine finishOccn_avoids (owns (placed ?_))
    revert fits
    cases call.state <;> simp [admitted, admits, CallState.placed]
  | OCRP | Hello | SLI => exact avoids_pure _

theorem controlFinish_avoids (owned : state.view.Owned) (vetted : state.view.vetted t c) :
    Avoids Fault.isNull (controlFinish env t c) state := by
  refine avoids_bind (plain _) fun call _ read => ?_
  obtain ⟨found, rfl⟩ := deref_ok.mp read
  obtain ⟨tunnel, foundTunnel, foundCall⟩ := call_some found
  have foundCore : tunnel.core.call? c = some call.core := by
    rw [core_call, foundCall]
    rfl
  cases typed : call.msgtype with
  | none => exact avoids_pure _
  | some type =>
    refine avoids_bind (plain _) fun _ _ ran => ?_
    cases ran
    refine finishBranch_avoids foundTunnel foundCall ?_ ?_ fun incoming => ?_
    · exact owned _ (Keyed.find_mem (view_tunnel_some foundTunnel))
    · exact vetted.fits foundTunnel foundCall typed
    · subst incoming
      exact vetted.first foundTunnel foundCall typed

/-! ## Runs -/

/-- The inputs that keep owners: refused types end their message, calls are placed for LAC entries,
and no entry is taken from a call that waits. -/
structure KeepsEntries (env : Env) (state : Daemon) (input : Input) : Prop where
  steady : state.steady env input
  owners : KeepsOwners env input state

theorem exec_owned {input : Input} (owned : state.view.Owned) (meets : KeepsEntries env state input)
    (ran : exec env input state = .ok () after) :
    after.view.Owned := by
  have sim : Sim .ownership env (fun _ => True) (exec env input) state := by
    refine exec_sim allows_any (fun _ => meets.owners) (fun _ _ _ => allows_any) ?_
    rintro datagram rfl
    exact receive_sim allows_any (fun _ _ _ _ _ _ _ => delivers_any)
      (fun _ _ _ _ _ _ => misdelivers_any) fun _ => meets.steady
  exact leads_ok_invariant sim ran (fun _ _ => Acts.owned_kept) owned

theorem runs_owned (runs : Runs env (KeepsEntries env) state) : state.view.Owned := by
  induction runs with
  | @boot start state booted ran =>
    have sim : Sim .ownership env (fun _ => True) (init env) start := init_sim allows_any
    refine leads_ok_invariant sim ran (fun _ _ => Acts.owned_kept) ?_
    unfold View.Owned
    rw [show start.view.tunnels = [] by simp [Daemon.view, booted.tunnels]]
    exact List.forall_mem_nil _
  | step _ meets ran ih => exact exec_owned ih meets ran

/-- No branch of `control_finish` uses an entry or a call that is not there. -/
theorem owners_present {datagram : Datagram} {entered : Entered} {site : NullSite} {after : Daemon}
    (runs : Runs env (KeepsEntries env) state) (meets : KeepsEntries env state (.datagram datagram))
    (enters : entering env datagram state = some entered) :
    controlFinish env entered.tunnel entered.call entered.state ≠ .error (.null site) after := by
  obtain ⟨control, linked, tunnel, call, lookup, found, foundCall, screen⟩ := entering_some enters
  have clean := entering_clean control lookup found foundCall screen meets.steady
  obtain ⟨opened, foundOpened, foundCallOpened, _⟩ := delivering_found found foundCall
  have owned : entered.state.view.Owned := by
    refine leads_ok_invariant (screenControl_sim foundOpened foundCallOpened allows_any delivers_any fun _ => ?_)
      screen (fun _ _ => Acts.owned_kept) ?_
    · rw [screen]
      exact clean
    · rw [delivering_view]
      exact leads_ok_invariant (getCall_sim fun _ _ => trivial) lookup
        (fun _ _ => Acts.owned_kept) (runs_owned runs)
  intro stopped
  exact controlFinish_avoids owned (screenControl_vetted foundOpened foundCallOpened screen clean)
    _ after stopped trivial

def keepsEntriesTest (env : Env) (state : Daemon) : Input → Bool
  | .datagram datagram => decide (state.steady env (.datagram datagram))
  | _ => false

theorem keepsEntriesTest_sound (state : Daemon) (input : Input)
    (passed : keepsEntriesTest env state input = true) : KeepsEntries env state input := by
  cases input with
  | datagram datagram =>
    refine ⟨of_decide_eq_true passed, ?_, ?_⟩
    · intro name dialed
      cases dialed
    · intro name lac before impossible
      cases impossible
  | _ => cases passed

theorem icrq_owners_present : ∃ (env : Env) (state : Daemon) (entered : Entered),
    entering env sampleIcrq state = some entered ∧
      (entered.state.call? entered.tunnel entered.call).any
        (fun call => call.msgtype = some .ICRQ) = true ∧
      ∀ site after,
        controlFinish env entered.tunnel entered.call entered.state ≠ .error (.null site) after := by
  let env := sampleEnv (fun _ _ => none) 5
  obtain ⟨state, runs, tested⟩ : ∃ state, Runs env (KeepsEntries env) state ∧
      (keepsEntriesTest env state (.datagram sampleIcrq) &&
        (entering env sampleIcrq state).any fun entered =>
          (entered.state.call? entered.tunnel entered.call).any fun call =>
            call.msgtype = some .ICRQ) = true :=
    execAll_any (keepsEntriesTest env) [.datagram sampleSccrq, .datagram sampleScccn]
      (sampleStart_booted false) rfl keepsEntriesTest_sound (by decide +kernel)
  obtain ⟨meets, announced⟩ := Bool.and_eq_true_iff.mp tested
  obtain ⟨entered, enters, typed⟩ := (Option.any_eq_true _ _).mp announced
  exact ⟨env, state, entered, enters, typed, fun site after =>
    owners_present runs (keepsEntriesTest_sound state _ meets) enters⟩

def sampleIcrp : Datagram :=
  sampleDatagram 513 1027 2 2 (addMessageTypeAvp .ICRP ++ addCallidAvp 9)

/-- A call placed on a tunnel by number has no LAC entry, and its ICRP asks for one. -/
theorem numbered_call_without_entry : ∃ (env : Env) (state after : Daemon) (entered : Entered),
    Reachable env state ∧ entering env sampleIcrp state = some entered ∧
      controlFinish env entered.tunnel entered.call entered.state =
        .error (.null .finishCallLac) after := by
  let env := sampleEnv (fun _ _ => none) 5
  obtain ⟨state, reached, stops⟩ : ∃ state, Reachable env state ∧
      (entering env sampleIcrp state).any (fun entered =>
        stops (controlFinish env entered.tunnel entered.call) (.null .finishCallLac)
          entered.state) = true :=
    reachable_any [.datagram sampleSccrq, .datagram sampleScccn,
      .request (.lacConnect (text "513") none none)]
      (sampleStart_booted false) rfl (by decide +kernel)
  obtain ⟨entered, enters, stopped⟩ := (Option.any_eq_true _ _).mp stops
  obtain ⟨after, ran⟩ := stops_error stopped
  exact ⟨env, state, after, entered, reached, enters, ran⟩

end Xl2tpd
