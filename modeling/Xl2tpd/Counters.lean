import Xl2tpd.Lib.Serial
import Xl2tpd.Numbers
import Xl2tpd.Runs

/-!
# What a control packet does to the counters of its tunnel

The receive counter and the acknowledged number are written where a packet is received and nowhere
else. A packet does one of four things to them, told by its size, its number and its flags.
-/

namespace Xl2tpd

set_option autoImplicit false

open Program

variable {assume : Assume} {env : Env} {state : Daemon} {view : View} {t : TunnelRef} {c : CallId}
  {buffer : RecvBuf} {tunnel : Tunnel} {call : Call} {known : Option CallId} {datagram : Datagram}
  {linked : Daemon} {start : View}

/-- Everything but the receipt of a packet. -/
def Deaf (action : Action) : Prop := action.effect ≠ .receive

theorem deaf_permits {effects : List Effect} (deaf : Effect.receive ∉ effects) :
    Permits effects Deaf := by
  intro action member same
  rw [same] at member
  exact deaf member

theorem deaf_allows {effects : List Effect} (deaf : Effect.receive ∉ effects) :
    Allows env effects Deaf := ⟨deaf_permits deaf, fun _ => deaf_permits (by decide)⟩

abbrev DeafSteps (env : Env) : View → View → Prop :=
  Relation.ReflTransGen (Acts .none env Deaf)

/-- How a packet is received; `known` is the call it is for, if the tunnel has it. -/
inductive Receipt (buffer : RecvBuf) (t : TunnelRef) (known : Option CallId) (tunnel : Tunnel)
    (view : View) : View → Prop
  | other (unexpected : buffer.expected tunnel = false) : Receipt buffer t known tunnel view view
  | miscount (next : buffer.expected tunnel = true)
      (bad : controlFlags buffer.controlHdr.ver = false ∨
        known = none ∧ buffer.len = controlHdrSize) :
      Receipt buffer t known tunnel view
        ((Action.move t (.miscount buffer.controlHdr.Nr)).apply view)
  | zlb {c : CallId} (here : known = some c) (next : buffer.expected tunnel = true)
      (good : controlFlags buffer.controlHdr.ver = true) (empty : buffer.len = controlHdrSize) :
      Receipt buffer t known tunnel view
        ((Action.move t (.acked c buffer.controlHdr.Nr)).apply view)
  | message (next : buffer.expected tunnel = true)
      (good : controlFlags buffer.controlHdr.ver = true) (more : buffer.len ≠ controlHdrSize) :
      Receipt buffer t known tunnel view
        ((Action.accept t buffer.controlHdr buffer.body).apply view)

theorem deaf_untyped {core : TunnelCore} (found : start.tunnel? t = some core) :
    Acts .none env Deaf start ((Action.move t (.call c (.msgtype none))).apply start) := by
  refine .act _ ?_ ⟨core, found, trivial⟩
  intro same
  cases same

theorem apply_move_found {move : Move} {core : TunnelCore} (found : view.tunnel? t = some core) :
    ((Action.move t move).apply view).tunnel? t = some (move.apply core) :=
  (View.tunnel_setTunnel_same move.apply_ref).trans (congrArg _ found)

theorem outOfOrder_deaf (env : Env) : Sim .none env Deaf (outOfOrder buffer t c) state := by
  refine outOfOrder_sim (deaf_permits (by decide)) fun _ _ _ => ?_
  intro same
  cases same

theorem screenControl_receipt (env : Env) (buffer : RecvBuf)
    (found : state.tunnel? t = some tunnel) (foundCall : tunnel.call? c = some call) :
    ∃ start, Receipt buffer t (some c) tunnel state.view start ∧
      DeafSteps env start (final (screenControl env buffer t c state)).view := by
  have foundCore := view_tunnel_some found
  cases next : buffer.expected tunnel with
  | false =>
    refine ⟨state.view, .other next, ?_⟩
    rcases screenControl_unexpected env c found next with skipped | dropped
    · rw [skipped]
      exact Relation.ReflTransGen.refl
    · rw [dropped]
      exact leads_bind (outOfOrder_deaf env) fun _ _ _ => leads_pure _
  | true =>
    cases good : controlFlags buffer.controlHdr.ver with
    | false =>
      refine ⟨_, .miscount next (.inl good), ?_⟩
      rw [screenControl_miscounted found foundCall next good, ← received_view]
      exact Relation.ReflTransGen.refl
    | true =>
      by_cases empty : buffer.len = controlHdrSize
      · obtain ⟨after, ran, shown⟩ := screenControl_zlb env found foundCall next good empty
        refine ⟨_, .zlb rfl next good empty, Relation.ReflTransGen.single ?_⟩
        rw [ran, show (final (EStateM.Result.ok _ after)).view = _ from shown]
        exact deaf_untyped (apply_move_found foundCore)
      · have taken : ((Action.accept t buffer.controlHdr buffer.body).apply
            state.view).tunnel? t =
            some ((Move.miscount buffer.controlHdr.Nr).apply tunnel.core) :=
          (View.tunnel_setTunnel_same (Move.apply_ref _)).trans (congrArg _ foundCore)
        refine ⟨_, .message next good empty, ?_⟩
        rw [screenControl_message found foundCall next good empty]
        refine Relation.ReflTransGen.head (deaf_untyped (c := c) taken) ?_
        rw [← accepting_view]
        refine steps_bind ?_ fun _ _ _ => leads_pure _
        exact handleAvps_sim (deaf_permits (by decide)) (fun impossible => impossible.elim)
          fun impossible => impossible.elim

theorem handleControl_receipt (env : Env) (buffer : RecvBuf)
    (found : state.tunnel? t = some tunnel) (foundCall : tunnel.call? c = some call) :
    ∃ start, Receipt buffer t (some c) tunnel state.view start ∧
      DeafSteps env start (final (handleControl env buffer t c state)).view := by
  obtain ⟨start, receipt, steps⟩ := screenControl_receipt env buffer found foundCall
  refine ⟨start, receipt, steps_bind steps fun screened after _ => ?_⟩
  cases screened with
  | done success => exact leads_pure _
  | finish => exact controlFinish_sim (deaf_allows (by decide)) fun impossible => impossible.elim

theorem answerSpecial_receipt (env : Env) (buffer : RecvBuf) (found : state.tunnel? t = some tunnel) :
    ∃ start, Receipt buffer t none tunnel state.view start ∧
      DeafSteps env start (final (answerSpecial buffer t state)).view := by
  have foundSelf : tunnel.call? .self = some tunnel.self := rfl
  unfold answerSpecial
  cases next : buffer.expected tunnel with
  | false =>
    refine ⟨state.view, .other next, ?_⟩
    rcases checkControl_unexpected .self found next with skipped | dropped
    · rw [bind_run skipped]
      exact Relation.ReflTransGen.refl
    · refine steps_bind ?_ fun good after ran => ?_
      · rw [dropped]
        exact leads_bind (outOfOrder_deaf env) fun _ _ _ => leads_pure _
      · rw [dropped] at ran
        obtain ⟨_, _, _, returned⟩ := bind_ok.mp ran
        cases returned
        exact leads_pure _
  | true =>
    rw [bind_run (checkControl_expected found foundSelf next)]
    cases good : controlFlags buffer.controlHdr.ver with
    | false =>
      refine ⟨_, .miscount next (.inl good), ?_⟩
      rw [← received_view]
      exact Relation.ReflTransGen.refl
    | true =>
      by_cases empty : buffer.len = controlHdrSize
      · refine ⟨_, .miscount next (.inr ⟨rfl, empty⟩), ?_⟩
        rw [show (true && decide (buffer.len ≠ controlHdrSize)) = false by simp [empty],
          ← received_view]
        exact Relation.ReflTransGen.refl
      · refine ⟨_, .message next good empty, ?_⟩
        have logged : ((state.received buffer t .self).emit (.accepted t buffer.body)).view =
            (Action.accept t buffer.controlHdr buffer.body).apply state.view := by
          rw [view_emit, received_view]
          rfl
        rw [show (true && decide (buffer.len ≠ controlHdrSize)) = true by simp [empty],
          ← logged]
        exact controlZlb_sim (deaf_permits (by decide))

theorem Receipt.congr {other : Tunnel} (receipt : Receipt buffer t known other view start)
    (same : other.controlRecSeqNum = tunnel.controlRecSeqNum) :
    Receipt buffer t known tunnel view start := by
  have expected : buffer.expected other = buffer.expected tunnel := by
    unfold RecvBuf.expected
    rw [same]
  cases receipt with
  | other unexpected => exact .other (expected ▸ unexpected)
  | miscount next bad => exact .miscount (expected ▸ next) bad
  | zlb here next good empty => exact .zlb here (expected ▸ next) good empty
  | message next good more => exact .message (expected ▸ next) good more

/-! ## The tunnel of a packet -/

/-- The tunnel a datagram is handled on, the call if the tunnel has it, and the state
after the lookup. -/
inductive Addressed (env : Env) (datagram : Datagram) (state : Daemon) (t : TunnelRef) :
    Option CallId → Daemon → Prop
  | call {c : CallId} {linked : Daemon} (lookup : getCall env datagram.ids.1 datagram.ids.2
      datagram.peer datagram.refme datagram.refhim state = .ok (some (t, c)) linked) :
      Addressed env datagram state t (some c) linked
  | special (lookup : getCall env datagram.ids.1 datagram.ids.2 datagram.peer datagram.refme
      datagram.refhim state = .ok none state) (found : getTunnel state datagram.ids.1 = some t) :
      Addressed env datagram state t none state

theorem tunnels_distinct (fresh : state.view.Fresh) : (state.tunnels.map Tunnel.ref).Nodup := by
  have same : state.view.tunnels.map TunnelCore.ref = state.tunnels.map Tunnel.ref := by
    simp [Daemon.view, Tunnel.core]
  rw [← same]
  exact fresh.distinct

theorem getCall_opened
    (lookup : getCall env 0 0 datagram.peer datagram.refme datagram.refhim state =
      .ok (some (t, c)) linked) :
    t = state.fresh ∧ c = .self ∧
      linked.view = (Action.link state.fresh (state.fresh + 1)).apply state.view := by
  obtain ⟨after, ran, shown⟩ := getCall_new env datagram.peer datagram.refme datagram.refhim state
  rw [ran] at lookup
  cases lookup
  exact ⟨rfl, rfl, shown⟩

theorem getCall_found (fresh : state.view.Fresh)
    (lookup : getCall env datagram.ids.1 datagram.ids.2 datagram.peer datagram.refme
      datagram.refhim state = .ok (some (t, c)) linked) (found : linked.tunnel? t = some tunnel) :
    ∃ call, tunnel.call? c = some call := by
  by_cases opens : datagram.ids.1 = 0 ∧ datagram.ids.2 = 0
  · rw [opens.1, opens.2] at lookup
    obtain ⟨_, rfl, _⟩ := getCall_opened lookup
    exact ⟨tunnel.self, rfl⟩
  · obtain ⟨rfl, st, search, numbered⟩ := getCall_search opens lookup
    have member : st ∈ linked.tunnels := List.mem_of_find?_eq_some search
    have unique : linked.tunnel? st.ref = some st :=
      Keyed.find_of_mem (tunnels_distinct fresh) member
    rw [← numbered_ref numbered, unique] at found
    cases found
    unfold Tunnel.numbered at numbered
    split at numbered
    · obtain ⟨sc, foundCall, pair⟩ := Option.map_eq_some_iff.mp numbered
      cases pair
      exact Keyed.find_isSome (List.mem_of_find?_eq_some foundCall) rfl
    · cases numbered
      exact ⟨tunnel.self, rfl⟩

theorem receive_receipt (fresh : state.view.Fresh) (long : minPayloadHdrLen ≤ datagram.bytes.length)
    (control : ctbit (hostWord datagram.buffer.bytes 0) = true)
    (addressed : Addressed env datagram state t known linked)
    (found : linked.tunnel? t = some tunnel) :
    ∃ start, Receipt datagram.buffer t known tunnel linked.view start ∧
      DeafSteps env start (final (receive env datagram state)).view := by
  unfold receive
  rw [decide_eq_true long]
  cases addressed with
  | @call c _ lookup =>
    obtain ⟨call, foundCall⟩ := getCall_found fresh lookup found
    obtain ⟨opened, foundOpened, foundCallOpened, _⟩ := delivering_found found foundCall
    have counter : opened.controlRecSeqNum = tunnel.controlRecSeqNum := by
      unfold Daemon.delivering at foundOpened
      rw [tunnel_setTunnel (by intro _; rfl), found] at foundOpened
      cases foundOpened
      rfl
    obtain ⟨start, receipt, steps⟩ :=
      handleControl_receipt env datagram.buffer foundOpened foundCallOpened
    rw [delivering_view] at receipt
    refine ⟨start, receipt.congr counter, ?_⟩
    have routed : (whenever true (getCall env datagram.ids.1 datagram.ids.2 datagram.peer
        datagram.refme datagram.refhim >>= route env datagram)) state =
        deliver env datagram.buffer t c linked := bind_run lookup
    rw [routed, deliver_run found foundCall]
    refine steps_bind ?_ fun _ _ _ => acknowledge_sim (deaf_permits (by decide))
    unfold handlePacket
    rw [if_pos control]
    exact steps_bind steps fun _ _ _ => leads_pure _
  | special lookup special =>
    have foundSelf : state.call? t .self = some tunnel.self := some_call found rfl
    have foundNumbered : (state.setCall t .self fun self =>
        { self with cid := datagram.ids.2.toNat }).tunnel? t = some _ := tunnel_setCall found
    obtain ⟨start, receipt, steps⟩ := answerSpecial_receipt env datagram.buffer foundNumbered
    have numbered : (state.setCall t .self fun self =>
        { self with cid := datagram.ids.2.toNat }).view = state.view :=
      view_setTunnel_same fun _ => core_setCall_same fun _ => rfl
    rw [numbered] at receipt
    refine ⟨start, receipt.congr rfl, ?_⟩
    have routed : (whenever true (getCall env datagram.ids.1 datagram.ids.2 datagram.peer
        datagram.refme datagram.refhim >>= route env datagram)) state =
        handleSpecial datagram.buffer t datagram.ids.2 state := by
      change (_ >>= _ : Prog Unit) state = _
      rw [bind_run lookup, route, bind_get, special]
    rw [routed]
    unfold handleSpecial
    rw [control]
    change DeafSteps env start (final ((_ >>= _ : Prog Unit) state)).view
    rw [bind_run (writeCall_run foundSelf)]
    exact steps_bind steps fun _ _ _ => sim_storeCall fun _ => rfl

/-! ## The counters -/

/-- As long as the tunnel is there, these are its receive counter and its acknowledged
number. -/
def View.Counters (view : View) (t : TunnelRef) (number : UInt16) (acked : Nat) : Prop :=
  t < view.fresh ∧
    ∀ core, view.tunnel? t = some core → core.controlRecSeqNum = number ∧ core.cLr = acked

theorem Acts.counters_kept {before after : View} {number : UInt16} {acked : Nat}
    (acts : Acts assume env Deaf before after) (counters : before.Counters t number acked) :
    after.Counters t number acked := by
  cases acts with
  | quiet same =>
    refine ⟨counters.1.trans_le same.fresh, ?_⟩
    unfold View.tunnel?
    rw [same.tunnels]
    exact counters.2
  | act action deaf enabled =>
    refine ⟨counters.1.trans_le (action.fresh_le enabled), ?_⟩
    intro core found
    rcases action.found found with ⟨selfRef, rfl, rfl⟩ | ⟨old, foundOld, rfl⟩
    · have first : t = before.fresh := enabled
      exact absurd counters.1 (by rw [first]; exact lt_irrefl _)
    · have kept : (action.core t old).controlRecSeqNum = old.controlRecSeqNum ∧
          (action.core t old).cLr = old.cLr := by
        cases action with
        | accept => exact absurd rfl deaf
        | move u change =>
          simp only [Action.core]
          split
          · cases change with
            | acked | miscount => exact absurd rfl deaf
            | call c move => cases c <;> exact ⟨rfl, rfl⟩
            | _ => exact ⟨rfl, rfl⟩
          · exact ⟨rfl, rfl⟩
        | draw | establish | send =>
          simp only [Action.core]
          split <;> exact ⟨rfl, rfl⟩
        | _ => exact ⟨rfl, rfl⟩
      rw [kept.1, kept.2]
      exact counters.2 old foundOld

theorem DeafSteps.counters_kept {before after : View} {number : UInt16} {acked : Nat}
    (steps : DeafSteps env before after) (counters : before.Counters t number acked) :
    after.Counters t number acked := by
  induction steps with
  | refl => exact counters
  | tail _ acts ih => exact acts.counters_kept ih

def RecvBuf.moves (buffer : RecvBuf) (known : Option CallId) (tunnel : Tunnel) : Bool :=
  buffer.expected tunnel &&
    (!controlFlags buffer.controlHdr.ver || buffer.len ≠ controlHdrSize || known.isNone)

theorem Receipt.counters (receipt : Receipt buffer t known tunnel state.view start)
    (found : state.tunnel? t = some tunnel) (below : t < state.view.fresh) :
    start.Counters t
      (if buffer.moves known tunnel then tunnel.controlRecSeqNum + 1 else tunnel.controlRecSeqNum)
      (if buffer.expected tunnel then buffer.controlHdr.Nr.toNat else tunnel.cLr) := by
  have foundCore := view_tunnel_some found
  have moved : ∀ (change : Move) {core : TunnelCore},
      ((Action.move t change).apply state.view).tunnel? t = some core →
      core = change.apply tunnel.core := by
    intro change core foundAfter
    rw [apply_move_found foundCore] at foundAfter
    exact (Option.some.inj foundAfter).symm
  unfold RecvBuf.moves
  cases receipt with
  | other unexpected =>
    rw [unexpected]
    refine ⟨below, fun core foundAfter => ?_⟩
    rw [foundCore] at foundAfter
    cases foundAfter
    exact ⟨rfl, rfl⟩
  | miscount next bad =>
    have counted : (buffer.expected tunnel && (!controlFlags buffer.controlHdr.ver ||
        decide (buffer.len ≠ controlHdrSize) || known.isNone)) = true := by
      rcases bad with flags | ⟨unknown, _⟩
      · simp [next, flags]
      · simp [next, unknown]
    rw [counted, next]
    refine ⟨below, fun core foundAfter => ?_⟩
    rw [moved _ foundAfter]
    exact ⟨rfl, rfl⟩
  | @zlb c here next good empty =>
    have back : (buffer.expected tunnel && (!controlFlags buffer.controlHdr.ver ||
        decide (buffer.len ≠ controlHdrSize) || known.isNone)) = false := by
      simp [here, good, empty]
    rw [back, next]
    refine ⟨below, fun core foundAfter => ?_⟩
    rw [moved _ foundAfter]
    cases c <;> exact ⟨rfl, rfl⟩
  | message next good more =>
    have counted : (buffer.expected tunnel && (!controlFlags buffer.controlHdr.ver ||
        decide (buffer.len ≠ controlHdrSize) || known.isNone)) = true := by
      simp [next, more]
    rw [counted, next]
    refine ⟨below, fun core foundAfter => ?_⟩
    rw [moved (.miscount buffer.controlHdr.Nr) foundAfter]
    exact ⟨rfl, rfl⟩

theorem receive_counters {after : Tunnel} (fresh : state.view.Fresh)
    (long : minPayloadHdrLen ≤ datagram.bytes.length)
    (control : ctbit (hostWord datagram.buffer.bytes 0) = true)
    (addressed : Addressed env datagram state t known linked)
    (found : linked.tunnel? t = some tunnel)
    (stays : (final (receive env datagram state)).tunnel? t = some after) :
    (after.controlRecSeqNum = if datagram.buffer.moves known tunnel then
      tunnel.controlRecSeqNum + 1 else tunnel.controlRecSeqNum) ∧
      after.cLr = if datagram.buffer.expected tunnel then
        datagram.buffer.controlHdr.Nr.toNat else tunnel.cLr := by
  have linkedFresh : linked.view.Fresh := by
    cases addressed with
    | call lookup =>
      exact leads_ok_invariant (getCall_sim fun _ _ => trivial) lookup
        (fun _ _ (acts : Acts .none env (fun _ => True) _ _) => acts.fresh_kept) fresh
    | special lookup special => exact fresh
  have below : t < linked.view.fresh := linkedFresh.found (view_tunnel_some found)
  obtain ⟨start, receipt, steps⟩ := receive_receipt fresh long control addressed found
  exact (steps.counters_kept (receipt.counters found below)).2 _ (view_tunnel_some stays)

/-- A new message of the peer: not a ZLB, the next number, and all checks passed. -/
def RecvBuf.counts (buffer : RecvBuf) (tunnel : Tunnel) : Bool :=
  buffer.expected tunnel && controlFlags buffer.controlHdr.ver && buffer.len ≠ controlHdrSize

/-- A packet with the next number and wrong flags, or a ZLB for a call that is not there. -/
def RecvBuf.miscounts (buffer : RecvBuf) (known : Option CallId) (tunnel : Tunnel) : Bool :=
  buffer.expected tunnel && (!controlFlags buffer.controlHdr.ver ||
    known.isNone && buffer.len = controlHdrSize)

theorem moves_iff (buffer : RecvBuf) (known : Option CallId) (tunnel : Tunnel) :
    buffer.moves known tunnel = (buffer.counts tunnel || buffer.miscounts known tunnel) := by
  unfold RecvBuf.moves RecvBuf.counts RecvBuf.miscounts
  cases buffer.expected tunnel <;> cases controlFlags buffer.controlHdr.ver <;>
    cases known.isNone <;> by_cases empty : buffer.len = controlHdrSize <;> simp [empty]

theorem counts_not_miscounts (counts : buffer.counts tunnel = true) :
    buffer.miscounts known tunnel = false := by
  unfold RecvBuf.counts at counts
  unfold RecvBuf.miscounts
  simp only [Bool.and_eq_true, decide_eq_true_eq] at counts
  simp [counts.1.2, counts.2]

/-- The receive counter is right after a control packet that is not miscounted. -/
theorem counter_right_iff {datagram : Datagram} {known : Option CallId} {linked : Daemon}
    {after : Tunnel} (reached : Reachable env state)
    (long : minPayloadHdrLen ≤ datagram.bytes.length)
    (control : ctbit (hostWord datagram.buffer.bytes 0) = true)
    (addressed : Addressed env datagram state t known linked)
    (found : linked.tunnel? t = some tunnel)
    (stays : (final (receive env datagram state)).tunnel? t = some after) :
    (after.controlRecSeqNum =
        if datagram.buffer.counts tunnel then tunnel.controlRecSeqNum + 1
        else tunnel.controlRecSeqNum) ↔
      datagram.buffer.miscounts known tunnel = false := by
  have number := (receive_counters (runs_fresh reached) long control addressed found stays).1
  rw [number, moves_iff]
  cases counts : datagram.buffer.counts tunnel with
  | true => simp [counts_not_miscounts counts]
  | false =>
    cases datagram.buffer.miscounts known tunnel with
    | true => simp
    | false => simp

theorem lookup_addressed (known : datagram.ids.1 ≠ 0)
    (search : (findTunnel env state datagram.ids.1 datagram.refhim).bind
      (fun st => st.numbered datagram.ids.2) = some (t, c)) :
    Addressed env datagram state t (some c) state := by
  refine .call ?_
  rw [getCall_lookup known, search]

/-- The control packets of the peer of tunnel 1, before and after they are received. -/
def receiveTest (env : Env) (datagram : Datagram) (test : Tunnel → Tunnel → Bool)
    (state : Daemon) : Bool :=
  decide ((findTunnel env state datagram.ids.1 datagram.refhim).bind
      (fun st => st.numbered datagram.ids.2) = some (1, .self)) &&
    (state.tunnel? 1).any fun before =>
      ((final (receive env datagram state)).tunnel? 1).any fun after => test before after

theorem receiveTest_found {datagram : Datagram} {test : Tunnel → Tunnel → Bool}
    (known : datagram.ids.1 ≠ 0)
    (tested : (execAll env (fun _ _ => true) [.datagram sampleSccrq] (sampleStart false)).any
      (receiveTest env datagram test) = true) (dialed : init env (sampleStart false) =
      .ok () (sampleStart false)) :
    ∃ state before after, Reachable env state ∧
      Addressed env datagram state 1 (some .self) state ∧ state.tunnel? 1 = some before ∧
        (final (receive env datagram state)).tunnel? 1 = some after ∧ test before after = true := by
  obtain ⟨state, reached, tested⟩ := reachable_any _ (sampleStart_booted false) dialed tested
  unfold receiveTest at tested
  rw [Bool.and_eq_true, decide_eq_true_eq] at tested
  obtain ⟨before, found, rest⟩ := (Option.any_eq_true _ _).mp tested.2
  obtain ⟨after, stays, holds⟩ := (Option.any_eq_true _ _).mp rest
  exact ⟨state, before, after, reached, lookup_addressed known tested.1, found, stays, holds⟩

theorem scccn_counted : ∃ (env : Env) (state : Daemon) (before after : Tunnel),
    Reachable env state ∧ state.tunnel? 1 = some before ∧
      (final (receive env sampleScccn state)).tunnel? 1 = some after ∧
      after.controlRecSeqNum = before.controlRecSeqNum + 1 := by
  let env := sampleEnv (fun _ _ => none) 5
  obtain ⟨state, before, after, reached, addressed, found, stays, holds⟩ :=
    @receiveTest_found env sampleScccn (fun before _ => sampleScccn.buffer.counts before &&
        !sampleScccn.buffer.miscounts (some .self) before) (by decide +kernel) (by decide +kernel) rfl
  simp only [Bool.and_eq_true, Bool.not_eq_true'] at holds
  have right := (counter_right_iff reached (by decide +kernel) (by decide +kernel) addressed found
    stays).mpr holds.2
  rw [holds.1] at right
  exact ⟨env, state, before, after, reached, found, stays, right⟩

def otherVersion : Datagram where
  bytes := (ControlHdr.mk 0xC803 20 513 0 1 1).encode ++ addMessageTypeAvp .Hello
  peer := ⟨5, 6⟩

theorem other_version_counted : ∃ (env : Env) (state : Daemon) (before after : Tunnel),
    Reachable env state ∧ Addressed env otherVersion state 1 (some .self) state ∧
      state.tunnel? 1 = some before ∧
      (final (receive env otherVersion state)).tunnel? 1 = some after ∧
      ¬ (after.controlRecSeqNum =
        if otherVersion.buffer.counts before then before.controlRecSeqNum + 1
        else before.controlRecSeqNum) := by
  let env := sampleEnv (fun _ _ => none) 5
  obtain ⟨state, before, after, reached, addressed, found, stays, holds⟩ :=
    @receiveTest_found env otherVersion (fun before after => !otherVersion.buffer.counts before &&
        after.controlRecSeqNum ≠ before.controlRecSeqNum) (by decide +kernel) (by decide +kernel) rfl
  simp only [Bool.and_eq_true, Bool.not_eq_true', decide_eq_true_eq] at holds
  refine ⟨env, state, before, after, reached, addressed, found, stays, ?_⟩
  rw [holds.1]
  exact holds.2

/-! ## The acknowledged number -/

/-- The acknowledged number stays, or goes forward and not past the next number to be
sent. -/
def Forward (before after : Nat) (next : UInt16) : Prop :=
  after = before ∨
    Serial.Precedes (UInt16.ofNat before) (UInt16.ofNat after) ∧
      (UInt16.ofNat after = next ∨ Serial.Precedes (UInt16.ofNat after) next)

instance (before after : Nat) (next : UInt16) : Decidable (Forward before after next) :=
  inferInstanceAs (Decidable (_ ∨ _))

/-- A control packet moves the acknowledged number as it should if and only if the number it
acknowledges is one the tunnel may take. -/
theorem acked_forward_iff {datagram : Datagram} {known : Option CallId} {linked : Daemon}
    {after : Tunnel} (reached : Reachable env state)
    (long : minPayloadHdrLen ≤ datagram.bytes.length)
    (control : ctbit (hostWord datagram.buffer.bytes 0) = true)
    (addressed : Addressed env datagram state t known linked)
    (found : linked.tunnel? t = some tunnel)
    (stays : (final (receive env datagram state)).tunnel? t = some after) :
    Forward tunnel.cLr after.cLr tunnel.controlSeqNum ↔
      (datagram.buffer.expected tunnel = true →
        Forward tunnel.cLr datagram.buffer.controlHdr.Nr.toNat tunnel.controlSeqNum) := by
  have counters := receive_counters (runs_fresh reached) long control addressed found stays
  have acked : after.cLr = if datagram.buffer.expected tunnel then
      datagram.buffer.controlHdr.Nr.toNat else tunnel.cLr := counters.2
  rw [acked]
  cases datagram.buffer.expected tunnel with
  | true => simp
  | false => simp [Forward]

theorem scccn_acknowledges : ∃ (env : Env) (state : Daemon) (before after : Tunnel),
    Reachable env state ∧ state.tunnel? 1 = some before ∧
      (final (receive env sampleScccn state)).tunnel? 1 = some after ∧
      after.cLr ≠ before.cLr ∧ Forward before.cLr after.cLr before.controlSeqNum := by
  let env := sampleEnv (fun _ _ => none) 5
  obtain ⟨state, before, after, reached, addressed, found, stays, holds⟩ :=
    @receiveTest_found env sampleScccn (fun before after => after.cLr ≠ before.cLr &&
        Forward before.cLr sampleScccn.buffer.controlHdr.Nr.toNat before.controlSeqNum) (by decide +kernel) (by decide +kernel) rfl
  simp only [Bool.and_eq_true, decide_eq_true_eq] at holds
  exact ⟨env, state, before, after, reached, found, stays, holds.1,
    (acked_forward_iff reached (by decide +kernel) (by decide +kernel) addressed found
      stays).mpr fun _ => holds.2⟩

def forgedAck : Datagram := sampleDatagram 513 0 1 100 []

theorem forged_ack_taken : ∃ (env : Env) (state : Daemon) (before after : Tunnel),
    Reachable env state ∧ Addressed env forgedAck state 1 (some .self) state ∧
      state.tunnel? 1 = some before ∧
      (final (receive env forgedAck state)).tunnel? 1 = some after ∧
      ¬ Forward before.cLr after.cLr before.controlSeqNum := by
  let env := sampleEnv (fun _ _ => none) 5
  obtain ⟨state, before, after, reached, addressed, found, stays, holds⟩ :=
    @receiveTest_found env forgedAck (fun before after =>
        decide (¬ Forward before.cLr after.cLr before.controlSeqNum)) (by decide +kernel) (by decide +kernel) rfl
  exact ⟨env, state, before, after, reached, addressed, found, stays, of_decide_eq_true holds⟩

end Xl2tpd
