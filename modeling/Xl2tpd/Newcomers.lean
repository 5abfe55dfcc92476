import Xl2tpd.Isolation
import Xl2tpd.Sweeps

/-!
# New tunnels

`get_call` makes a tunnel for every datagram that is addressed to none. Only a first packet with a
number ahead of its turn, an SCCRQ and a StopCCN see to it that the tunnel is answered for or goes
away.
-/

namespace Xl2tpd

set_option autoImplicit false

open Program

variable {env : Env} {before middle after state last : Daemon} {t : TunnelRef}
  {datagram : Datagram} {entered : Entered} {tunnel : Tunnel} {success : Bool}

/-! ## The tunnel of a datagram for no tunnel -/

def Rules.lone (t : TunnelRef) : Rules where
  touched := fun u => u = t
  destroys := True
  hellos := True
  expires := False
  edits := False
  toggles := False
  assigns := True
  single := False
  assigned := False
  kept := False
  dialed := fun _ => False
  rings := fun _ => True

structure Daemon.Unowned (state : Daemon) (t : TunnelRef) : Prop where
  old : t < state.fresh
  unowned : ∀ tunnel ∈ state.tunnels, tunnel.ref = t → tunnel.lac = none

theorem Op.unowned {rules : Rules} (op : Op rules env before after) (unowned : before.Unowned t) :
    after.Unowned t where
  old := unowned.old.trans_le op.grows.fresh
  unowned := by
    rintro tunnel member rfl
    exact (op.origin member).lac_none unowned.old unowned.unowned

theorem steps_unowned {rules : Rules} (steps : Relation.ReflTransGen (Op rules env) before after)
    (unowned : before.Unowned t) : after.Unowned t := by
  induction steps with
  | refl => exact unowned
  | tail _ op ih => exact op.unowned ih

theorem getCall_unowned (orderly : state.Orderly) (peer : SockAddr) (refme refhim : Nat) :
    (state.opened (env.newborn state peer refme refhim)).Unowned state.fresh where
  old := Nat.lt_add_of_pos_right (by decide)
  unowned := by
    intro tunnel member named
    rcases List.mem_cons.mp member with rfl | earlier
    · rfl
    · exact absurd named (Nat.ne_of_lt (orderly.old tunnel earlier))

theorem lone_receives (orderly : state.Orderly) (none : datagram.ids = (0, 0)) :
    (Rules.lone state.fresh).Receives env datagram state := by
  have lookup : getCall env datagram.ids.1 datagram.ids.2 datagram.peer datagram.refme
      datagram.refhim state = .ok (some (state.fresh, .self))
        (state.opened (env.newborn state datagram.peer datagram.refme datagram.refhim)) := by
    rw [none]
    exact getCall_makes env state datagram.peer datagram.refme datagram.refhim
  refine ⟨trivial, fun _ => rfl, fun t c linked same => ?_, fun _ _ _ _ => trivial,
    fun t linked missing => ?_, ?_⟩
  · cases lookup.symm.trans same
    rfl
  · cases lookup.symm.trans missing
  · intro entered call type enters foundCall typed
    refine ⟨fun _ => trivial, fun _ => ?_, fun _ => trivial, False.elim⟩
    intro middle tunnel lac steps found title
    obtain ⟨linked, lookupSame, path⟩ := entering_near enters steps
    have pair := lookup.symm.trans lookupSame
    injection pair with pair same
    injection pair with pair
    injection pair with own _
    have start : linked.Unowned state.fresh :=
      same ▸ getCall_unowned orderly datagram.peer datagram.refme datagram.refhim
    have unowned := (steps_unowned path start).unowned tunnel (Keyed.find_mem found)
      ((Keyed.find_key found).trans own.symm)
    rw [unowned] at title
    cases title

theorem receive_lone (orderly : state.Orderly) (none : datagram.ids = (0, 0))
    (ran : receive env datagram state = .ok () after) :
    (∀ tunnel ∈ state.tunnels, after.tunnel? tunnel.ref = some tunnel) ∧
      ∀ tunnel ∈ after.tunnels, tunnel.ref = state.fresh ∨ tunnel.ref < state.fresh := by
  have steps := receive_ops (lone_receives orderly none) () after ran
  constructor
  · intro tunnel member
    have other : tunnel.ref ≠ state.fresh := Nat.ne_of_lt (orderly.old tunnel member)
    have untouched := steps_untouched (u := tunnel.ref) other id steps
    exact untouched.tunnel.trans (orderly.found member)
  · let among : TunnelRef → Prop := fun u => u = state.fresh ∨ u < state.fresh
    have start : ∀ tunnel ∈ state.tunnels, among tunnel.ref :=
      fun tunnel member => .inr (orderly.old tunnel member)
    exact steps_refs among (fun _ own => .inl own) steps start

/-! ## Tunnels that have not been told -/

def View.Untold (view : View) (t : TunnelRef) : Prop :=
  ∃ core, view.tunnel? t = some core ∧ core.self.closing = false

/-- What happens to a tunnel while a message is handled that neither ends nor closes it. -/
def mildEffects : List Effect := [.mark, .name, .msgtype, .call, .answer, .send]

theorem View.Untold.set {view : View} {u : TunnelRef} {change : TunnelCore → TunnelCore}
    (untold : view.Untold t) (named : ∀ core, (change core).ref = core.ref)
    (keeps : ∀ core, (change core).self.closing = core.self.closing) :
    (view.setTunnel u change).Untold t := by
  obtain ⟨core, found, open_⟩ := untold
  by_cases own : t = u
  · subst own
    refine ⟨change core, ?_, (keeps core).trans open_⟩
    rw [View.tunnel_setTunnel_same named, found]
    rfl
  · refine ⟨core, ?_, open_⟩
    rw [View.tunnel_setTunnel named, if_neg own]
    exact found

theorem Move.apply_closing {move : Move} (mild : move.effect ∈ mildEffects) (core : TunnelCore) :
    (move.apply core).self.closing = core.self.closing := by
  cases move with
  | call c change =>
    cases c with
    | call ref => rfl
    | self =>
      cases change <;> first
        | rfl
        | exact absurd mild (by simp [Move.effect, CallMove.effect, mildEffects])
  | _ => first | rfl | exact absurd mild (by simp [Move.effect, mildEffects])

theorem acts_untold {assume : Assume} {before after : View}
    (acts : Acts assume env (fun action => action.effect ∈ mildEffects) before after)
    (untold : before.Untold t) : after.Untold t := by
  cases acts with
  | quiet same =>
    obtain ⟨core, found, open_⟩ := untold
    refine ⟨core, ?_, open_⟩
    unfold View.tunnel? at found ⊢
    rw [same.tunnels]
    exact found
  | act action mild enabled =>
    cases action with
    | move u change => exact untold.set (Move.apply_ref change) (Move.apply_closing mild)
    | draw u value answering => exact untold.set (fun _ => rfl) fun _ => rfl
    | send buffer fate =>
      have counted : (before.setTunnel buffer.tunnel fun core =>
          { core with controlSeqNum := core.controlSeqNum + 1 }).Untold t :=
        untold.set (fun _ => rfl) fun _ => rfl
      cases fate <;> exact counted
    | zlb | note | addLns | editLns | addLac | removeLac => exact untold
    | _ => exact absurd mild (by simp [Action.effect, mildEffects])

theorem untold_found (untold : state.view.Untold t) :
    ∃ tunnel, state.tunnel? t = some tunnel ∧ tunnel.self.closing = false := by
  obtain ⟨core, found, open_⟩ := untold
  rw [view_tunnel] at found
  obtain ⟨tunnel, foundTunnel, rfl⟩ := Option.map_eq_some_iff.mp found
  exact ⟨tunnel, foundTunnel, open_⟩

theorem untold_of_found (found : state.tunnel? t = some tunnel)
    (open_ : tunnel.self.closing = false) : state.view.Untold t :=
  ⟨tunnel.core, view_tunnel_some found, open_⟩

theorem untold_store {change : Tunnel → Tunnel} (untold : state.view.Untold t)
    (named : ∀ tunnel, (change tunnel).ref = tunnel.ref)
    (keeps : ∀ tunnel, (change tunnel).self = tunnel.self) :
    (state.setTunnel t change).view.Untold t := by
  obtain ⟨tunnel, found, open_⟩ := untold_found untold
  refine untold_of_found ((tunnel_setTunnel named).trans (congrArg _ found)) ?_
  rw [keeps]
  exact open_

theorem sim_untold {Value : Type} {program : Prog Value} {value : Value}
    (sim : Sim .none env (fun action => action.effect ∈ mildEffects) program before)
    (ran : program before = .ok value after) (untold : before.view.Untold t) :
    after.view.Untold t :=
  leads_ok_invariant sim ran (fun _ _ acts => acts_untold acts) untold

/-! ## The three ways out -/

theorem opened_found (env : Env) (state : Daemon) (peer : SockAddr) (refme refhim : Nat) :
    (state.opened (env.newborn state peer refme refhim)).tunnel? state.fresh =
      some (env.newborn state peer refme refhim) := by
  have named : (env.newborn state peer refme refhim).ref = state.fresh := rfl
  unfold Daemon.tunnel? Daemon.opened
  rw [Keyed.find_cons, if_pos named]

theorem entering_untold (none : datagram.ids = (0, 0))
    (enters : entering env datagram state = some entered) :
    entered.tunnel = state.fresh ∧ entered.call = .self ∧ entered.state.view.Untold state.fresh := by
  obtain ⟨control, linked, tunnel, call, lookup, found, foundCall, screen⟩ := entering_some enters
  rw [none] at lookup
  have same := (getCall_makes env state datagram.peer datagram.refme datagram.refhim).symm.trans
    lookup
  injection same with pair opened
  injection pair with pair
  injection pair with own isSelf
  subst opened
  rw [← own] at found screen
  rw [← isSelf] at foundCall screen
  refine ⟨own.symm, isSelf.symm, ?_⟩
  have born : tunnel = env.newborn state datagram.peer datagram.refme datagram.refhim :=
    Option.some.inj (found.symm.trans (opened_found env state _ _ _))
  obtain ⟨opened, foundOpened, foundOpenedCall, _⟩ := delivering_found found foundCall
  obtain ⟨_, handled⟩ := screenControl_finish foundOpened foundOpenedCall screen
  have start : Daemon.view ((Daemon.opened state (env.newborn state datagram.peer datagram.refme
      datagram.refhim)).delivering state.fresh) |>.Untold state.fresh := by
    rw [delivering_view]
    exact untold_of_found found (by rw [born]; rfl)
  have accepted : Daemon.view (Daemon.accepting ((Daemon.opened state (env.newborn state
      datagram.peer datagram.refme datagram.refhim)).delivering state.fresh) datagram.buffer
      state.fresh .self) |>.Untold state.fresh := by
    rw [accepting_view]
    have counted := start.set (u := state.fresh) (Move.apply_ref (.miscount
      datagram.buffer.controlHdr.Nr)) fun _ => rfl
    exact View.Untold.set counted (Move.apply_ref (.call .self (.msgtype Option.none))) fun _ => rfl
  refine sim_untold (handleAvps_sim ?_ False.elim False.elim) handled accepted
  intro action member
  exact List.mem_of_mem_take (l := mildEffects) (i := 4) member

theorem refuse_ends {message : String} (untold : before.view.Untold t)
    (ran : refuse t .self message before = .ok success after) :
    ∃ tunnel, after.tunnel? t = some tunnel ∧ tunnel.Refused := by
  obtain ⟨tunnel, found, open_⟩ := untold_found untold
  obtain ⟨_, _, wrote, ran⟩ := bind_ok.mp ran
  obtain ⟨_, _, _, _, rfl⟩ := writeCall_ok wrote
  cases ran
  exact ⟨_, tunnel_setCall found, rfl, open_⟩

/-- An SCCRP was numbered on the tunnel since the history had the given length. -/
def Daemon.Answered (state : Daemon) (base : Nat) (t : TunnelRef) : Prop :=
  ∃ ns body, Obs.numbered t ns (addMessageTypeAvp .SCCRP ++ body) ∈ state.trace.drop base

theorem answerSccrq_ends {entry : Lns} (untold : before.view.Untold t)
    (ran : answerSccrq env t .self entry before = .ok success after) :
    (∃ tunnel, after.tunnel? t = some tunnel ∧ tunnel.Refused) ∨
      after.Answered before.trace.length t := by
  obtain ⟨_, _, ran⟩ := ok_writeTunnel ran
  have opened : (before.setTunnel t fun tunnel => { tunnel with state := .SCCRP }).view.Untold t :=
    untold_store untold (fun _ => rfl) fun _ => rfl
  obtain ⟨vector, vectored, draws, ran⟩ := bind_ok.mp ran
  have first := sim_untold addVector_sim draws opened
  obtain ⟨capabilities, _, ran⟩ := ok_reads (capabilityAvps_reads env t) ran
  obtain ⟨response, responded, responds, ran⟩ := bind_ok.mp ran
  have second := sim_untold respondSccrp_sim responds first
  obtain ⟨challenge, challenged, challenges, ran⟩ := bind_ok.mp ran
  have permits : Permits [.answer] fun action => action.effect ∈ mildEffects := by
    intro action member
    rw [List.mem_singleton] at member
    rw [member]
    decide
  have third := sim_untold (challengeSccrp_sim permits) challenges second
  cases challenge with
  | none => exact .inl (refuse_ends third ran)
  | some value =>
    refine .inr ?_
    obtain ⟨_, _, _, _, ran⟩ := ok_writeCall ran
    obtain ⟨_, sent, send, ran⟩ := bind_ok.mp ran
    cases ran
    obtain ⟨ns, noted⟩ := (sendControlWith_ok send).1
    have grows : before.trace <+: challenged.trace := by
      have vectors : Relation.ReflTransGen (Op Rules.free env) _ vectored :=
        addVector_ops trivial vector vectored draws
      have responses : Relation.ReflTransGen (Op Rules.free env) vectored responded :=
        respondSccrp_ops trivial response responded responds
      have poses : Relation.ReflTransGen (Op Rules.free env) responded challenged :=
        challengeSccrp_ops trivial _ challenged challenges
      have grown := steps_grow (vectors.trans (responses.trans poses))
      exact grown.trace
    refine ⟨ns, vector ++ capabilities ++ response ++ value, ?_⟩
    simp only [List.append_assoc] at noted ⊢
    exact noted_later noted grows List.prefix_rfl

theorem finishSccrq_ends (untold : before.view.Untold t)
    (ran : finishSccrq env t .self before = .ok success after) :
    (∃ tunnel, after.tunnel? t = some tunnel ∧ (tunnel.Refused ∨ tunnel.Released)) ∨
      after.Answered before.trace.length t := by
  have refuses : ∀ {message : String} {middle : Daemon}, middle.view.Untold t →
      refuse t .self message middle = .ok success after →
      (∃ tunnel, after.tunnel? t = some tunnel ∧ (tunnel.Refused ∨ tunnel.Released)) ∨
        after.Answered before.trace.length t := by
    intro message middle untold ran
    obtain ⟨tunnel, found, refused⟩ := refuse_ends untold ran
    exact .inl ⟨tunnel, found, .inl refused⟩
  obtain ⟨tunnel, found, ran⟩ := ok_readTunnel ran
  split at ran
  · exact refuses untold ran
  rw [bind_get] at ran
  obtain ⟨_, _, ran⟩ := ok_writeTunnel ran
  have chosen : (before.setTunnel t fun tunnel' =>
      { tunnel' with lns := getLns env before tunnel }).view.Untold t :=
    untold_store untold (fun _ => rfl) fun _ => rfl
  cases isChosen : getLns env before tunnel with
  | none =>
    rw [isChosen] at chosen
    simp only [isChosen] at ran
    exact refuses chosen ran
  | some lns =>
    rw [isChosen] at chosen
    simp only [isChosen] at ran
    obtain ⟨entry, _, ran⟩ := ok_deref ran
    obtain ⟨_, _, ran⟩ := ok_writeTunnel ran
    have prepared := @untold_store _ t (fun tunnel =>
      { tunnel with ourrws := entry.tunRws, hbit := entry.hbit }) chosen (fun _ => rfl) fun _ => rfl
    split at ran
    · exact refuses prepared ran
    split at ran
    · exact refuses prepared ran
    split at ran
    · obtain ⟨ready, foundReady, _⟩ := untold_found prepared
      obtain ⟨_, _, _, _, ran⟩ := ok_writeCall ran
      cases ran
      exact .inl ⟨_, tunnel_setCall foundReady, .inr ⟨rfl, rfl⟩⟩
    · rcases answerSccrq_ends prepared ran with ⟨last, foundLast, refused⟩ | answered
      · exact .inl ⟨last, foundLast, .inl refused⟩
      · exact .inr answered

def Tunnel.stopPasses (tunnel : Tunnel) : Bool :=
  let tmptid : Int := if tunnel.swapsIds then tunnel.ourtid.toNat else tunnel.tid
  0 ≤ tunnel.qtid && !(tunnel.qtid ≠ tmptid && 0 < tmptid) && 0 ≤ tunnel.self.result

theorem finishStopccn_ends (found : before.tunnel? t = some tunnel)
    (passes : tunnel.stopPasses = true) (ran : finishStopccn t .self before = .ok success after) :
    ∃ later, after.tunnel? t = some later ∧ later.Released := by
  simp only [Tunnel.stopPasses, Bool.and_eq_true, decide_eq_true_eq, Bool.not_eq_true',
    Bool.and_eq_false_iff, decide_eq_false_iff_not] at passes
  obtain ⟨⟨named, fits⟩, coded⟩ := passes
  replace ran := ok_readTunnel_at found ran
  rw [if_neg (Int.not_lt.mpr named), if_neg fun both => fits.elim (fun same => same both.1)
    fun low => low both.2] at ran
  obtain ⟨_, _, ran⟩ := ok_writeTunnel ran
  rw [if_neg (Int.not_lt.mpr coded)] at ran
  obtain ⟨stored, _, foundStored, _, ran⟩ := ok_writeCall ran
  cases ran
  exact ⟨_, tunnel_setCall foundStored, rfl, rfl⟩

theorem acknowledge_marks (found : before.tunnel? t = some tunnel)
    (ran : acknowledge t .self before = .ok () after) :
    ∃ later, after.tunnel? t = some later ∧ later.self.marks = tunnel.self.marks := by
  obtain ⟨_, call, _, _, ran⟩ := ok_readCall ran
  cases owed : call.cnu with
  | false =>
    rw [owed] at ran
    cases ran
    exact ⟨tunnel, found, rfl⟩
  | true =>
    rw [owed] at ran
    obtain ⟨_, _, zlb, ran⟩ := bind_ok.mp ran
    obtain ⟨buffer, _, number, zlb⟩ := bind_ok.mp zlb
    have own := addControlHdr_tunnel number
    obtain ⟨_, _, number⟩ := ok_readTunnel number
    obtain ⟨_, _, _, _, number⟩ := ok_readCall number
    obtain ⟨_, _, number⟩ := ok_writeTunnel number
    cases number
    obtain ⟨_, _, zlb⟩ := ok_writeTunnel zlb
    obtain ⟨_, _, zlb⟩ := ok_readTunnel zlb
    cases zlb
    obtain ⟨last, _, foundLast, _, rfl⟩ := writeCall_ok ran
    refine ⟨_, tunnel_setCall foundLast, ?_⟩
    have ahead := @tunnel_setTunnel before t (fun tunnel =>
      { tunnel with controlSeqNum := tunnel.controlSeqNum + 1 }) (by intro _; rfl)
    have back := @tunnel_setTunnel (before.setTunnel t fun tunnel =>
      { tunnel with controlSeqNum := tunnel.controlSeqNum + 1 }) t (fun tunnel =>
        { tunnel with controlSeqNum := tunnel.controlSeqNum - 1 }) (by intro _; rfl)
    have equal : some last = _ :=
      foundLast.symm.trans (back.trans (congrArg _ (ahead.trans (congrArg _ found))))
    cases equal
    rfl

theorem alreadySeen_zero (ns : UInt16) : alreadySeen ns 0 = false := by
  simp only [alreadySeen, Bool.or_eq_false_iff, Bool.and_eq_false_iff, decide_eq_false_iff_not]
  constructor
  · left
    simp
  · right
    simp

theorem screenControl_stray {buffer : RecvBuf} {tunnel : Tunnel}
    (found : state.tunnel? t = some tunnel) (unused : tunnel.controlRecSeqNum = 0)
    (unnamed : tunnel.tid = -1) (enough : controlHdrSize ≤ buffer.len)
    (fits : buffer.len = buffer.controlHdr.length.toNat) (ahead : buffer.controlHdr.Ns ≠ 0) :
    screenControl env buffer t .self state =
      .ok (.done false) (state.setCall t .self Call.release) := by
  have foundSelf : state.call? t .self = some tunnel.self := some_call found rfl
  have drops : outOfOrder buffer t .self state = .ok () (state.setCall t .self Call.release) := by
    unfold outOfOrder
    rw [bind_run (readTunnel_run found), unused, alreadySeen_zero, unnamed]
    exact writeCall_run foundSelf
  have checks : checkControl buffer t .self state =
      .ok false (state.setCall t .self Call.release) := by
    unfold checkControl
    rw [if_neg (Nat.not_lt.mpr enough), if_neg (not_not.mpr fits), bind_run (readTunnel_run found),
      unused, if_pos ahead, bind_run drops]
    rfl
  unfold screenControl
  rw [bind_run checks]
  rfl

theorem receive_stray (none : datagram.ids = (0, 0))
    (control : ctbit (hostWord datagram.buffer.bytes 0) = true)
    (sized : datagram.buffer.sized = true) (ahead : datagram.buffer.controlHdr.Ns ≠ 0)
    (ran : receive env datagram state = .ok () after) :
    ∃ tunnel, after.tunnel? state.fresh = some tunnel ∧ tunnel.Released := by
  simp only [RecvBuf.sized, Bool.and_eq_true, decide_eq_true_eq] at sized
  obtain ⟨enough, fits⟩ := sized
  have long : minPayloadHdrLen ≤ datagram.bytes.length := le_trans (by decide) enough
  unfold receive at ran
  rw [decide_eq_true long] at ran
  have routed : (getCall env datagram.ids.1 datagram.ids.2 datagram.peer datagram.refme
    datagram.refhim >>= route env datagram) state = .ok () after := ran
  rw [none] at routed
  have lookup := getCall_makes env state datagram.peer datagram.refme datagram.refhim
  rw [bind_run lookup] at routed
  have found := opened_found env state datagram.peer datagram.refme datagram.refhim
  generalize state.opened (env.newborn state datagram.peer datagram.refme datagram.refhim) = linked
    at routed found
  have delivered : deliver env datagram.buffer state.fresh .self linked = .ok () after := routed
  rw [deliver_run found rfl] at delivered
  obtain ⟨_, handled, handle, acks⟩ := bind_ok.mp delivered
  unfold handlePacket at handle
  rw [if_pos control] at handle
  obtain ⟨_, _, handle, returned⟩ := bind_ok.mp handle
  cases returned
  have foundDelivering : (linked.delivering state.fresh).tunnel? state.fresh = some _ :=
    (tunnel_setTunnel (by intro _; rfl)).trans (congrArg (Option.map _) found)
  have checked := @screenControl_stray env _ _ _ _ foundDelivering rfl rfl enough fits ahead
  obtain ⟨screened, _, screen, finish⟩ := bind_ok.mp handle
  cases checked.symm.trans screen
  cases finish
  obtain ⟨later, foundLater, marks⟩ :=
    acknowledge_marks (tunnel_setCall foundDelivering) acks
  refine ⟨later, foundLater, ?_⟩
  have needclose := congrArg Prod.fst marks
  have closing := congrArg (fun marks => marks.2.1) marks
  exact ⟨needclose, closing⟩

/-! ## The tunnels after the next sweep -/

/-- A first packet ahead of its turn, an SCCRQ, or a StopCCN that passes its checks. -/
inductive Proper (env : Env) (state : Daemon) (datagram : Datagram) : Prop
  | stray (control : ctbit (hostWord datagram.buffer.bytes 0) = true)
      (sized : datagram.buffer.sized = true) (ahead : datagram.buffer.controlHdr.Ns ≠ 0)
  | request (entered : Entered) (call : Call)
      (enters : entering env datagram state = some entered)
      (found : entered.state.call? entered.tunnel entered.call = some call)
      (typed : call.msgtype = some .SCCRQ)
  | stop (entered : Entered) (tunnel : Tunnel)
      (enters : entering env datagram state = some entered)
      (found : entered.state.tunnel? entered.tunnel = some tunnel)
      (typed : tunnel.self.msgtype = some .StopCCN) (passes : tunnel.stopPasses = true)

/-- `control_finish` was entered for an SCCRQ, and an SCCRP or a StopCCN was sent. -/
def Served (env : Env) (datagram : Datagram) (state last : Daemon) : Prop :=
  (∃ entered call, entering env datagram state = some entered ∧
      entered.state.call? entered.tunnel entered.call = some call ∧ call.msgtype = some .SCCRQ) ∧
    (last.Answered state.trace.length state.fresh ∨ last.Stopped state.trace.length state.fresh)

/-- The tunnels are those of before, but for those that were to be closed anyway. -/
structure SameTunnels (state last : Daemon) : Prop where
  old : ∀ tunnel ∈ last.tunnels, tunnel.ref < state.fresh
  kept : ∀ tunnel ∈ state.tunnels, tunnel.Quiet → last.tunnel? tunnel.ref = some tunnel

theorem entering_grows (enters : entering env datagram state = some entered) :
    state.trace <+: entered.state.trace := by
  obtain ⟨linked, lookup, steps⟩ := entering_steps enters
  have first : Relation.ReflTransGen (Op Rules.free env) state linked :=
    getCall_ops (fun _ => trivial) _ _ lookup
  exact (steps_grow (first.trans (steps Rules.free trivial trivial))).trace

theorem acknowledge_leaves {due : Tunnel → Prop}
    (marked : ∀ first second : Tunnel, second.self.marks = first.self.marks → due first →
      due second) (left : ∃ tunnel, before.tunnel? t = some tunnel ∧ due tunnel)
    (ran : acknowledge t .self before = .ok () after) :
    ∃ tunnel, after.tunnel? t = some tunnel ∧ due tunnel := by
  obtain ⟨tunnel, found, isDue⟩ := left
  obtain ⟨later, foundLater, same⟩ := acknowledge_marks found ran
  exact ⟨later, foundLater, marked tunnel later same isDue⟩

theorem released_marked (first second : Tunnel) (same : second.self.marks = first.self.marks)
    (released : first.Released) : second.Released := by
  have needclose : second.self.needclose = first.self.needclose := congrArg Prod.fst same
  have closing : second.self.closing = first.self.closing :=
    congrArg (fun marks => marks.2.1) same
  exact ⟨needclose.trans released.1, closing.trans released.2⟩

theorem refused_marked (first second : Tunnel) (same : second.self.marks = first.self.marks)
    (refused : first.Refused) : second.Refused := by
  have needclose : second.self.needclose = first.self.needclose := congrArg Prod.fst same
  have closing : second.self.closing = first.self.closing :=
    congrArg (fun marks => marks.2.1) same
  exact ⟨needclose.trans refused.1, closing.trans refused.2⟩

theorem receive_proper (none : datagram.ids = (0, 0)) (proper : Proper env state datagram)
    (ran : receive env datagram state = .ok () after) :
    (∃ tunnel, after.tunnel? state.fresh = some tunnel ∧ tunnel.Released) ∨
      (∃ entered call, entering env datagram state = some entered ∧
        entered.state.call? entered.tunnel entered.call = some call ∧
        call.msgtype = some .SCCRQ) ∧
      ((∃ tunnel, after.tunnel? state.fresh = some tunnel ∧ tunnel.Refused) ∨
        after.Answered state.trace.length state.fresh) := by
  cases proper with
  | stray control sized ahead => exact .inl (receive_stray none control sized ahead ran)
  | request entered call enters found typed =>
    obtain ⟨own, isSelf, untold⟩ := entering_untold none enters
    obtain ⟨success, middle, finish, acks⟩ := receive_entered enters ran
    have request := And.intro enters (And.intro found typed)
    rw [own, isSelf] at found finish acks
    obtain ⟨_, _, foundTunnel, foundSame, finish⟩ := ok_readCall finish
    cases found.symm.trans (some_call foundTunnel foundSame)
    simp only [typed] at finish
    obtain ⟨_, _, noted, finish⟩ := bind_ok.mp finish
    cases noted
    have early : state.trace <+: (entered.state.emit (.finish state.fresh .self .SCCRQ)).trace :=
      (entering_grows enters).trans (List.prefix_append _ _)
    have still : (entered.state.emit (.finish state.fresh .self .SCCRQ)).view.Untold
      state.fresh := untold
    rcases finishSccrq_ends still finish with ⟨tunnel, foundLast, refused | released⟩ | answered
    · exact .inr ⟨⟨entered, call, request⟩,
        .inl (acknowledge_leaves refused_marked ⟨tunnel, foundLast, refused⟩ acks)⟩
    · exact .inl (acknowledge_leaves released_marked ⟨tunnel, foundLast, released⟩ acks)
    · refine .inr ⟨⟨entered, call, request⟩, .inr ?_⟩
      obtain ⟨ns, body, noted⟩ := answered
      have acked : Relation.ReflTransGen (Op Rules.free env) middle after :=
        acknowledge_ops trivial () after acks
      exact ⟨ns, body, noted_later noted early (steps_grow acked).trace⟩
  | stop entered tunnel enters found typed passes =>
    obtain ⟨own, isSelf, _⟩ := entering_untold none enters
    obtain ⟨success, middle, finish, acks⟩ := receive_entered enters ran
    rw [own] at found
    rw [own, isSelf] at finish acks
    obtain ⟨_, _, foundTunnel, foundSame, finish⟩ := ok_readCall finish
    cases found.symm.trans foundTunnel
    cases foundSame
    simp only [typed] at finish
    obtain ⟨_, _, noted, finish⟩ := bind_ok.mp finish
    cases noted
    have stillFound : (entered.state.emit (.finish state.fresh .self .StopCCN)).tunnel?
      state.fresh = some tunnel := found
    have released := finishStopccn_ends stillFound passes finish
    exact .inl (acknowledge_leaves released_marked released acks)

/-- Such a datagram leaves no tunnel behind, unless it is an SCCRQ that was answered or refused. -/
theorem proper_leaves_no_tunnel (reached : Reachable env state) (none : datagram.ids = (0, 0))
    (proper : Proper env state datagram) (ran : receive env datagram state = .ok () after)
    (swept : buildFdset env after = .ok () last) :
    SameTunnels state last ∨ Served env datagram state last := by
  have orderly := runs_orderly reached
  obtain ⟨untouched, refs⟩ := receive_lone orderly none ran
  unfold buildFdset at swept
  rw [bind_get] at swept
  have kept : ∀ tunnel ∈ state.tunnels, tunnel.Quiet → last.tunnel? tunnel.ref = some tunnel :=
    fun tunnel member quiet => sweep_keeps (quiet_kept quiet) swept (untouched tunnel member)
  have among := sweep_keeps (refs_kept fun u => u = state.fresh ∨ u < state.fresh) swept refs
  rcases receive_proper none proper ran with released | ⟨request, refused | answered⟩
  · have gone := sweep_done released_due swept (.inr released)
    refine .inl ⟨fun tunnel member => (among tunnel member).resolve_left fun new => ?_, kept⟩
    exact Keyed.find_none gone member new
  · have steps := receive_ops (lone_receives orderly none) () after ran
    have stopped := sweep_done refused_due swept (.inr ⟨(steps_grow steps).trace, refused⟩)
    exact .inr ⟨request, .inr stopped⟩
  · obtain ⟨ns, body, noted⟩ := answered
    have later : after.trace <+: last.trace :=
      sweep_keeps (trace_kept after.trace) swept List.prefix_rfl
    exact .inr ⟨request, .inl ⟨ns, body, noted_later noted List.prefix_rfl later⟩⟩

def sampleStray : Datagram := sampleDatagram 0 0 5 0 (addMessageTypeAvp .Hello)

theorem stray_leaves_no_tunnel : ∃ (env : Env) (state after last : Daemon),
    Reachable env state ∧ state.tunnels.length = 1 ∧
      receive env sampleStray state = .ok () after ∧ after.tunnels.length = 2 ∧
      buildFdset env after = .ok () last ∧
      (SameTunnels state last ∨ Served env sampleStray state last) := by
  let env := sampleEnv (fun _ _ => none) 5
  let test : Daemon → Bool := fun state =>
    ends (receive env sampleStray) (fun _ after => ends (buildFdset env) (fun _ _ =>
      decide (state.tunnels.length = 1) && decide (after.tunnels.length = 2)) after) state
  obtain ⟨state, reached, tested⟩ : ∃ state, Reachable env state ∧ test state = true :=
    reachable_any [.datagram sampleSccrq] (sampleServer_booted sampleLns rfl) rfl (by decide +kernel)
  obtain ⟨_, after, ran, tested⟩ := ends_ok tested
  obtain ⟨_, last, swept, tested⟩ := ends_ok tested
  rw [Bool.and_eq_true, decide_eq_true_eq, decide_eq_true_eq] at tested
  exact ⟨env, state, after, last, reached, tested.1, ran, tested.2, swept,
    proper_leaves_no_tunnel reached (by decide) (.stray (by decide) (by decide) (by decide)) ran
      swept⟩

def samplePayload : Datagram := { bytes := [0, 2, 0, 0, 0, 0], peer := ⟨5, 6⟩ }

theorem payload_leaves_tunnel : ∃ (env : Env) (state after last : Daemon),
    Reachable env state ∧ samplePayload.ids = (0, 0) ∧ minPayloadHdrLen ≤ samplePayload.bytes.length ∧
      receive env samplePayload state = .ok () after ∧ buildFdset env after = .ok () last ∧
      ¬ (SameTunnels state last ∨ Served env samplePayload state last) := by
  let env := sampleEnv (fun _ _ => none) 5
  let test : Daemon → Bool := fun state =>
    ends (receive env samplePayload) (fun _ after => ends (buildFdset env) (fun _ last =>
      (last.tunnels.any fun tunnel => decide (state.fresh ≤ tunnel.ref)) &&
        (entering env samplePayload state).isNone) after) state
  obtain ⟨state, reached, tested⟩ : ∃ state, Reachable env state ∧ test state = true :=
    reachable_any [] (sampleServer_booted sampleLns rfl) rfl (by decide +kernel)
  obtain ⟨_, after, ran, tested⟩ := ends_ok tested
  obtain ⟨_, last, swept, tested⟩ := ends_ok tested
  rw [Bool.and_eq_true, Option.isNone_iff_eq_none] at tested
  obtain ⟨new, unentered⟩ := tested
  obtain ⟨tunnel, member, isNew⟩ := List.any_eq_true.mp new
  refine ⟨env, state, after, last, reached, by decide, by decide, ran, swept, ?_⟩
  rintro (same | served)
  · exact absurd (same.old tunnel member) (Nat.not_lt.mpr (of_decide_eq_true isNew))
  · obtain ⟨⟨entered, _, enters, _⟩, _⟩ := served
    rw [unentered] at enters
    cases enters

end Xl2tpd
