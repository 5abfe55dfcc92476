import Xl2tpd.Lib.Channel
import Xl2tpd.Numbers
import Xl2tpd.Runs

/-!
# The control channel between two daemons

Two daemons are the ends of one tunnel. The network between them may lose, repeat, delay and
reorder packets. As long as the sequence numbers do not wrap, the two tunnels are the endpoints of
a numbered channel.
-/

namespace Xl2tpd

set_option autoImplicit false

open Program Channel

variable {header : ControlHdr} {body : Bytes} {peer : Endpoint Bytes} {core : TunnelCore}
  {input : Input} {after : Daemon}

variable {assume : Assume} {env : Env} {allowed : Action → Prop} {view : View} {t : TunnelRef}
  {state : Daemon}

/-! ## A tunnel as an endpoint -/

def View.endpoint (view : View) (t : TunnelRef) : Endpoint Bytes where
  sent := numberedOn t view.trace
  got := acceptedOn t view.trace
  acked := ((view.tunnel? t).map TunnelCore.cLr).getD 0

def packetOf (header : ControlHdr) (body : Bytes) : Packet Bytes where
  number := header.Ns.toNat
  ack := header.Nr.toNat
  body := if body = [] then none else some body

theorem acts_grows {before after : View}
    (grows : before.trace <+: after.trace) : (before.endpoint t).Grows (after.endpoint t) := by
  obtain ⟨notes, trace⟩ := grows
  constructor
  · refine ⟨numberedOn t notes, ?_⟩
    rw [show (after.endpoint t).sent = numberedOn t after.trace from rfl, ← trace,
      numberedOn_append]
    rfl
  · refine ⟨acceptedOn t notes, ?_⟩
    rw [show (after.endpoint t).got = acceptedOn t after.trace from rfl, ← trace,
      acceptedOn_append]
    rfl

def Acks (trace : List Obs) (t : TunnelRef) (header : ControlHdr) : Prop :=
  ∃ k, k ≤ (acceptedOn t trace).length ∧ header.Nr = UInt16.ofNat k

theorem Acks.grows {trace notes : List Obs} (acks : Acks trace t header) :
    Acks (trace ++ notes) t header := by
  obtain ⟨k, within, same⟩ := acks
  refine ⟨k, ?_, same⟩
  rw [acceptedOn_append, List.length_append]
  omega

/-- The receive counter counts the messages accepted, and packets acknowledge no others. -/
structure View.Speaks (view : View) (t : TunnelRef) : Prop where
  counts : ∀ core, view.tunnel? t = some core →
    core.controlRecSeqNum = UInt16.ofNat (acceptedOn t view.trace).length
  waits : ∀ buffer ∈ view.buffers, buffer.tunnel = t → Acks view.trace t buffer.header
  sent : ∀ header body, .xmit t header body ∈ view.trace → Acks view.trace t header

theorem utters_xmit (numbers : view.Numbers) (speaks : view.Speaks t)
    (small : (numberedOn t view.trace).length < 2 ^ 16) (sent : .xmit t header body ∈ view.trace) :
    (view.endpoint t).utters (packetOf header body) := by
  constructor
  · obtain ⟨k, within, same⟩ := speaks.sent header body sent
    have value : header.Nr.toNat = k % 2 ^ 16 := by
      rw [same]
      exact UInt16.toNat_ofNat'
    change header.Nr.toNat ≤ (acceptedOn t view.trace).length
    have bound := Nat.mod_le k (2 ^ 16)
    omega
  · intro message carried
    rcases numbers.sent t header body sent with numbered | ⟨_, _, empty⟩
    · obtain ⟨n, same, found⟩ := numbered.number
      have within : n < (numberedOn t view.trace).length := (List.getElem?_eq_some_iff.mp found).1
      have value : header.Ns.toNat = n := by
        rw [same]
        exact UInt16.toNat_ofNat_of_lt' (Nat.lt_trans within small)
      have whole : (packetOf header body).body = some body := if_neg numbered.carries
      rw [whole] at carried
      cases carried
      change (numberedOn t view.trace)[header.Ns.toNat]? = some body
      rw [value]
      exact found
    · have none : (packetOf header body).body = none := if_pos empty
      rw [none] at carried
      cases carried

/-! ## What a tunnel hears -/

/-- What one end of the tunnel does, when every packet it gets was said by the other. -/
def Heard (t : TunnelRef) (peer : Endpoint Bytes) : Action → Prop
  | .accept u header body => u = t → body ≠ [] ∧ peer.utters (packetOf header body)
  | .move u (.acked _ nr) => u = t → nr.toNat ≤ peer.got.length
  | .move u (.miscount _) => u ≠ t
  | _ => True

theorem heard_permits {effects : List Effect} (deaf : Effect.receive ∉ effects) :
    Permits effects (Heard t peer) := by
  intro action member
  cases action with
  | accept => exact absurd member deaf
  | move u change =>
    cases change with
    | acked | miscount => exact absurd member deaf
    | _ => trivial
  | _ => trivial

theorem heard_allows {effects : List Effect} (deaf : Effect.receive ∉ effects) :
    Allows env effects (Heard t peer) :=
  ⟨heard_permits deaf, fun _ => heard_permits (by decide)⟩

theorem Action.core_rec (action : Action) (heard : Heard t peer action) (core : TunnelCore) :
    (action.core t core).controlRecSeqNum =
      core.controlRecSeqNum + UInt16.ofNat (action.accepts t).length := by
  cases action with
  | accept u header body =>
    simp only [Action.core, Action.accepts]
    by_cases same : t = u
    · rw [if_pos same, if_pos same.symm]
      rfl
    · rw [if_neg same, if_neg (Ne.symm same)]
      exact (UInt16.add_zero _).symm
  | move u change =>
    simp only [Action.core, Action.accepts]
    split
    · rename_i same
      cases change with
      | miscount nr => exact absurd same.symm heard
      | acked c nr | call c move => cases c <;> exact (UInt16.add_zero _).symm
      | _ => exact (UInt16.add_zero _).symm
    · exact (UInt16.add_zero _).symm
  | draw | establish | send =>
    simp only [Action.core, Action.accepts]
    split <;> exact (UInt16.add_zero _).symm
  | _ => exact (UInt16.add_zero _).symm

theorem View.Speaks.heads (speaks : view.Speaks t) (found : view.tunnel? t = some core)
    (heads : core.heads header body) :
    Acks view.trace t header :=
  ⟨_, Nat.le_refl _, heads.2.2.2.trans (speaks.counts core found)⟩

theorem Action.speaks_kept (action : Action) (enabled : action.enabled assume env view)
    (heard : Heard t peer action) (born : view.Born) (speaks : view.Speaks t) :
    (action.apply view).Speaks t := by
  have kept : ∀ {header}, Acks view.trace t header → Acks (action.apply view).trace t header := by
    intro header old
    rw [Action.apply_trace]
    exact old.grows
  constructor
  · intro core found
    rw [action.trace_accepted enabled, List.length_append, UInt16.ofNat_add]
    rcases action.found found with ⟨selfRef, rfl, rfl⟩ | ⟨old, foundOld, rfl⟩
    · have first : t = view.fresh := enabled
      rw [born.unaccepted (Nat.le_of_eq first.symm)]
      rfl
    · rw [action.core_rec heard, speaks.counts old foundOld]
  · intro buffer member here
    rcases action.mem_buffers member with old | rfl | ⟨old, rfl, rfl⟩
    · exact kept (speaks.waits buffer old here)
    · obtain ⟨_, _, core, found, heads, _⟩ := enabled
      rw [here] at found
      exact kept (speaks.heads found heads)
    · exact kept (speaks.waits old enabled.1 here)
  · intro header body member
    rw [Action.apply_trace] at member
    rcases List.mem_append.mp member with old | added
    · exact kept (speaks.sent header body old)
    · rcases action.adds_xmit enabled added with ⟨rfl, rfl⟩ | ⟨buffer, rfl, rfl, rfl, rfl⟩ |
        ⟨buffer, rfl, rfl, rfl, rfl⟩
      · obtain ⟨core, found, heads⟩ := enabled
        exact kept (speaks.heads found heads)
      · obtain ⟨_, _, core, found, heads, _⟩ := enabled
        exact kept (speaks.heads found heads)
      · exact kept (speaks.waits buffer enabled.1 rfl)

/-! ## Hearing -/

theorem listener_number (speaks : view.Speaks t) (found : view.tunnel? t = some core)
    (agrees : (view.endpoint t).Agrees peer) (small : peer.sent.length < 2 ^ 16)
    (next : header.Ns = core.controlRecSeqNum) :
    header.Ns.toNat = (view.endpoint t).got.length := by
  have within : (acceptedOn t view.trace).length ≤ peer.sent.length := agrees.prefixed.length_le
  rw [next, speaks.counts core found]
  exact UInt16.toNat_ofNat_of_lt' (Nat.lt_of_le_of_lt within small)

theorem Move.apply_cLr (change : Move) (core : TunnelCore) :
    (change.apply core).cLr = core.cLr ∨ (∃ c nr, change = .acked c nr) ∨
      ∃ nr, change = .miscount nr := by
  cases change with
  | acked c nr => exact .inr (.inl ⟨c, nr, rfl⟩)
  | miscount nr => exact .inr (.inr ⟨nr, rfl⟩)
  | call c move =>
    left
    cases c <;> rfl
  | _ => exact .inl rfl

theorem Action.acked_kept (action : Action) (enabled : action.enabled assume env view)
    (deaf : ∀ header body, action ≠ .accept t header body)
    (noZlb : ∀ c nr, action ≠ .move t (.acked c nr))
    (counted : ∀ nr, action ≠ .move t (.miscount nr))
    (found : (action.apply view).tunnel? t = some core) : core.cLr ≤ (view.endpoint t).acked := by
  rcases action.found found with ⟨selfRef, rfl, rfl⟩ | ⟨old, foundOld, rfl⟩
  · exact Nat.zero_le _
  have same : (action.core t old).cLr = old.cLr := by
    cases action with
    | accept u header body =>
      have apart : t ≠ u := fun same => deaf header body (by rw [same])
      simp only [Action.core]
      rw [if_neg apart]
    | move u change =>
      simp only [Action.core]
      split
      · rename_i here
        subst here
        rcases change.apply_cLr old with kept | ⟨c, nr, rfl⟩ | ⟨nr, rfl⟩
        · exact kept
        · exact absurd rfl (noZlb c nr)
        · exact absurd rfl (counted nr)
      · rfl
    | draw | establish | send =>
      simp only [Action.core]
      split <;> rfl
    | _ => rfl
  rw [same]
  simp [View.endpoint, foundOld]

theorem endpoint_acked (found : view.tunnel? t = some core) :
    (view.endpoint t).acked = core.cLr := by
  simp [View.endpoint, found]

theorem endpoint_acked_le {bound : Nat}
    (each : ∀ core, view.tunnel? t = some core → core.cLr ≤ bound) :
    (view.endpoint t).acked ≤ bound := by
  cases found : view.tunnel? t with
  | none => simp [View.endpoint, found]
  | some core =>
    rw [endpoint_acked found]
    exact each core found

theorem Action.hears_accept (enabled : (Action.accept t header body).enabled assume env view)
    (carries : body ≠ []) (speaks : view.Speaks t) (agrees : (view.endpoint t).Agrees peer)
    (small : peer.sent.length < 2 ^ 16) :
    ((Action.accept t header body).apply view).endpoint t =
      (view.endpoint t).hears (packetOf header body) := by
  have got := (Action.accept t header body).trace_accepted (t := t) enabled
  have sent := (Action.accept t header body).trace_numbered (t := t) enabled
  obtain ⟨core, found, next⟩ := enabled
  have turn : (packetOf header body).number = (view.endpoint t).got.length :=
    listener_number speaks found agrees small next
  have message : (packetOf header body).body = some body := if_neg carries
  unfold Endpoint.hears
  rw [if_pos turn, message]
  have foundAfter : ((Action.accept t header body).apply view).tunnel? t =
      some ((Move.miscount header.Nr).apply core) :=
    (View.tunnel_setTunnel_same (Move.miscount header.Nr).apply_ref).trans (congrArg _ found)
  have acked := endpoint_acked foundAfter
  have same : (Action.accept t header body).accepts t = [body] := if_pos rfl
  rw [same] at got
  rw [show (Action.accept t header body).numbers t = [] from rfl, List.append_nil] at sent
  calc ((Action.accept t header body).apply view).endpoint t
      = ⟨numberedOn t ((Action.accept t header body).apply view).trace,
          acceptedOn t ((Action.accept t header body).apply view).trace,
          (((Action.accept t header body).apply view).endpoint t).acked⟩ := rfl
    _ = _ := by
      rw [got, sent, acked]
      rfl

theorem Action.agrees_kept (action : Action) (enabled : action.enabled assume env view)
    (heard : Heard t peer action) (speaks : view.Speaks t)
    (agrees : (view.endpoint t).Agrees peer) (small : peer.sent.length < 2 ^ 16) :
    ((action.apply view).endpoint t).Agrees peer := by
  by_cases taken : ∃ header body, action = .accept t header body
  · obtain ⟨header, body, rfl⟩ := taken
    obtain ⟨carries, said⟩ := heard rfl
    rw [Action.hears_accept enabled carries speaks agrees small]
    exact agrees_hears agrees said
  have deaf : ∀ header body, action ≠ .accept t header body :=
    fun header body same => taken ⟨header, body, same⟩
  have none : action.accepts t = [] := by
    cases action with
    | accept u header body =>
      have apart : u ≠ t := fun same => deaf header body (by rw [same])
      exact if_neg apart
    | _ => rfl
  constructor
  · change acceptedOn t (action.apply view).trace <+: peer.sent
    rw [action.trace_accepted enabled, none, List.append_nil]
    exact agrees.prefixed
  · refine endpoint_acked_le fun core found => ?_
    by_cases zlb : ∃ c nr, action = .move t (.acked c nr)
    · obtain ⟨c, nr, rfl⟩ := zlb
      have bound : nr.toNat ≤ peer.got.length := heard rfl
      rcases (Action.move t (.acked c nr)).found found with ⟨_, impossible, _⟩ | ⟨old, _, rfl⟩
      · cases impossible
      have value : ((Action.move t (.acked c nr)).core t old).cLr = nr.toNat := by
        simp only [Action.core, if_true]
        cases c <;> rfl
      rw [value]
      exact bound
    · refine (action.acked_kept enabled deaf (fun c nr same => zlb ⟨c, nr, same⟩) ?_ found).trans
        agrees.acked
      rintro nr rfl
      exact heard rfl

/-! ## One step of one end -/

structure Side (t : TunnelRef) (view : View) (peer : Endpoint Bytes) : Prop where
  numbers : view.Numbers
  speaks : view.Speaks t
  agrees : (view.endpoint t).Agrees peer

theorem Acts.side_kept {before after : View} (acts : Acts assume env (Heard t peer) before after)
    (small : peer.sent.length < 2 ^ 16) (side : Side t before peer) : Side t after peer := by
  refine ⟨acts.numbers_kept side.numbers, ?_, ?_⟩
  · cases acts with
    | quiet same =>
      obtain ⟨notes, trace, silent⟩ := same.trace
      refine ⟨?_, ?_, ?_⟩
      · intro core found
        rw [same.acceptedOn_kept]
        refine side.speaks.counts core ?_
        unfold View.tunnel? at found ⊢
        rw [← same.tunnels]
        exact found
      · rw [same.buffers, trace]
        exact fun buffer member here => (side.speaks.waits buffer member here).grows
      · intro header body member
        rw [trace] at member ⊢
        rcases List.mem_append.mp member with old | added
        · exact (side.speaks.sent header body old).grows
        · cases silent _ added
    | act action allow enabled =>
      exact action.speaks_kept enabled allow side.numbers.born side.speaks
  · cases acts with
    | quiet same =>
      have endpoint : after.endpoint t = before.endpoint t := by
        unfold View.endpoint View.tunnel?
        rw [same.numberedOn_kept, same.acceptedOn_kept, same.tunnels]
      rw [endpoint]
      exact side.agrees
    | act action allow enabled =>
      exact action.agrees_kept enabled allow side.speaks side.agrees small

/-! ## The network -/

def Daemon.packets (state : Daemon) (t : TunnelRef) : List Bytes :=
  state.trace.filterMap fun
    | .xmit u header body => if u = t then some (header.encode ++ body) else none
    | _ => none

/-- A control packet that reaches tunnel `t` was sent by tunnel `u` of the other daemon. -/
structure Carries (env : Env) (t u : TunnelRef) (peer state : Daemon) (input : Input) : Prop where
  sent : ∀ datagram c after, input = .datagram datagram →
    ctbit (hostWord datagram.buffer.bytes 0) = true →
    getCall env datagram.ids.1 datagram.ids.2 datagram.peer datagram.refme datagram.refhim state =
      .ok (some (t, c)) after → datagram.bytes ∈ peer.packets u
  resolved : ∀ datagram, input = .datagram datagram →
    ctbit (hostWord datagram.buffer.bytes 0) = true →
    getCall env datagram.ids.1 datagram.ids.2 datagram.peer datagram.refme datagram.refhim state =
      .ok none state → getTunnel state datagram.ids.1 ≠ some t

theorem mem_packets {octets : Bytes} (sent : octets ∈ state.packets t) :
    ∃ header body, .xmit t header body ∈ state.view.trace ∧ octets = header.encode ++ body := by
  obtain ⟨note, member, shown⟩ := List.mem_filterMap.mp sent
  cases note with
  | xmit u header body =>
    simp only [Option.ite_none_right_eq_some, Option.some.injEq] at shown
    obtain ⟨rfl, rfl⟩ := shown
    exact ⟨header, body, member, rfl⟩
  | _ => cases shown

theorem encode_length (header : ControlHdr) : header.encode.length = controlHdrSize := rfl

theorem received_packet {datagram : Datagram} (same : datagram.bytes = header.encode ++ body)
    (version : header.ver = controlVer) :
    datagram.buffer.controlHdr = header ∧ datagram.buffer.body = body ∧
      datagram.buffer.len = controlHdrSize + body.length := by
  have whole : datagram.bytes ++ datagram.stale = header.encode ++ (body ++ datagram.stale) := by
    rw [same, List.append_assoc]
  obtain ⟨head, rest⟩ := fix_hdr_encode header (body ++ datagram.stale) version
  have len : datagram.buffer.len = controlHdrSize + body.length := by
    change datagram.bytes.length = _
    rw [same, List.length_append, encode_length]
  refine ⟨?_, ?_, len⟩
  · unfold RecvBuf.controlHdr Datagram.buffer
    rw [whole]
    exact head
  · unfold RecvBuf.body
    rw [len, Nat.add_sub_cancel_left]
    have octets : datagram.buffer.bytes = fixHdr (header.encode ++ (body ++ datagram.stale)) := by
      unfold Datagram.buffer
      rw [whole]
    rw [octets, rest, List.take_left]

theorem Sent.ver {trace : List Obs} (sent : Sent trace t header body) :
    header.ver = controlVer := by
  rcases sent with numbered | ⟨version, _⟩
  · exact numbered.ver
  · exact version

theorem heard_delivers {u v : TunnelRef} {c : CallId} {peer : Daemon} {tunnel : Tunnel}
    {datagram : Datagram} (numbers : peer.view.Numbers) (speaks : peer.view.Speaks u)
    (small : (numberedOn u peer.trace).length < 2 ^ 16)
    (sent : v = t → datagram.bytes ∈ peer.packets u) :
    Delivers (Heard t (peer.view.endpoint u)) datagram.buffer v c tunnel := by
  by_cases here : v = t
  · obtain ⟨header, body, shown, same⟩ := mem_packets (sent here)
    obtain ⟨head, octets, len⟩ := received_packet same (numbers.sent u header body shown).ver
    have said := utters_xmit numbers speaks small shown
    refine ⟨fun _ _ => trivial, fun _ bad => ?_, fun _ _ _ _ => ?_, fun _ _ long _ => ?_⟩
    · rw [head, (numbers.sent u header body shown).ver] at bad
      cases bad
    · rw [head]
      exact said.1
    · rw [octets, head]
      refine ⟨fun empty => long ?_, said⟩
      rw [len, empty]
      rfl
  · exact ⟨fun _ _ => trivial, fun _ _ => here, fun _ _ _ same => absurd same here,
      fun _ _ _ same => absurd same here⟩

theorem heard_misdelivers {v : TunnelRef} {tunnel : Tunnel} {buffer : RecvBuf} (apart : v ≠ t) :
    Misdelivers (Heard t peer) buffer v tunnel :=
  ⟨fun _ _ => trivial, fun _ _ => apart, fun _ _ _ same => absurd same apart⟩

theorem exec_heard {u : TunnelRef} {peer : Daemon} (numbers : peer.view.Numbers)
    (speaks : peer.view.Speaks u) (small : (numberedOn u peer.trace).length < 2 ^ 16)
    (carries : Carries env t u peer state input) :
    Sim .none env (Heard t (peer.view.endpoint u)) (exec env input) state := by
  refine exec_sim (heard_allows (by decide)) (fun impossible => impossible.elim)
    (fun _ _ _ => heard_allows (by decide)) ?_
  rintro datagram rfl
  refine receive_sim (heard_allows (by decide)) ?_ ?_ fun impossible => impossible.elim
  · intro after v c tunnel lookup _ control
    refine heard_delivers numbers speaks small ?_
    rintro rfl
    exact carries.sent datagram c after rfl control lookup
  · intro v tunnel lookup special _ control
    refine heard_misdelivers ?_
    rintro rfl
    exact carries.resolved datagram rfl control lookup special

/-! ## Two daemons -/

/-- The states that two daemons reach together as the ends of one tunnel. -/
inductive Exchange (near far : Env) (t u : TunnelRef) : Daemon → Daemon → Prop
  | boot {nearStart nearState farStart farState : Daemon} (nearBooted : Booted nearStart)
      (nearRan : init near nearStart = .ok () nearState) (farBooted : Booted farStart)
      (farRan : init far farStart = .ok () farState) : Exchange near far t u nearState farState
  | near {before after other : Daemon} {input : Input} (reached : Exchange near far t u before other)
      (carries : Carries near t u other before input) (ran : exec near input before = .ok () after) :
      Exchange near far t u after other
  | far {before after other : Daemon} {input : Input} (reached : Exchange near far t u other before)
      (carries : Carries far u t other before input) (ran : exec far input before = .ok () after) :
      Exchange near far t u other after

def Daemon.unwrapped (state : Daemon) (t : TunnelRef) : Prop :=
  (numberedOn t state.trace).length < 2 ^ 16

theorem exec_trace_grows (ran : exec env input state = .ok () after) :
    state.view.trace <+: after.view.trace :=
  acts_trace_grows (leads_ok exec_any ran)

theorem unwrapped_before (grows : state.view.trace <+: after.view.trace)
    (small : after.unwrapped t) : state.unwrapped t :=
  Nat.lt_of_le_of_lt (acts_grows (t := t) grows).sent.length_le small

theorem init_side {start : Daemon} (booted : Booted start) (ran : init env start = .ok () state)
    (small : peer.sent.length < 2 ^ 16) :
    Side t state.view peer := by
  have sim : Sim .none env (Heard t peer) (init env) start := init_sim (heard_allows (by decide))
  refine leads_ok_invariant sim ran (fun before after acts side => acts.side_kept small side) ?_
  refine ⟨booted.numbers, ⟨?_, ?_, ?_⟩, ?_⟩
  · intro core found
    rw [booted.no_tunnel] at found
    cases found
  · rw [booted.no_buffers]
    exact fun buffer member => absurd member (Multiset.notMem_zero buffer)
  · rw [booted.no_trace]
    exact fun header body member => absurd member List.not_mem_nil
  · constructor
    · rw [show (start.view.endpoint t).got = acceptedOn t start.view.trace from rfl,
        booted.no_trace]
      exact List.nil_prefix
    · refine endpoint_acked_le fun core found => ?_
      rw [booted.no_tunnel] at found
      cases found

theorem exec_side {peer : Daemon} {u : TunnelRef} (own : Side t state.view (peer.view.endpoint u))
    (other : Side u peer.view (state.view.endpoint t)) (small : peer.unwrapped u)
    (carries : Carries env t u peer state input) (ran : exec env input state = .ok () after) :
    Side t after.view (peer.view.endpoint u) ∧ Side u peer.view (after.view.endpoint t) := by
  refine ⟨?_, other.numbers, other.speaks, ?_⟩
  · have sim := exec_heard other.numbers other.speaks small carries
    have step : ∀ before after, Acts .none env (Heard t (peer.view.endpoint u)) before after →
        Side t before (peer.view.endpoint u) → Side t after (peer.view.endpoint u) :=
      fun _ _ acts side => acts.side_kept small side
    have kept := leads_ok_invariant sim ran step own
    exact kept
  · exact agrees_grows other.agrees (acts_grows (exec_trace_grows ran))

variable {near far : Env} {u : TunnelRef} {left right : Daemon}

theorem exchange_sides (runs : Exchange near far t u left right) (nearSmall : left.unwrapped t)
    (farSmall : right.unwrapped u) :
    Side t left.view (right.view.endpoint u) ∧ Side u right.view (left.view.endpoint t) := by
  induction runs with
  | boot nearBooted nearRan farBooted farRan =>
    exact ⟨init_side nearBooted nearRan farSmall, init_side farBooted farRan nearSmall⟩
  | near _ carries ran ih =>
    have before := unwrapped_before (exec_trace_grows ran) nearSmall
    obtain ⟨own, other⟩ := ih before farSmall
    exact exec_side own other farSmall carries ran
  | far _ carries ran ih =>
    have before := unwrapped_before (exec_trace_grows ran) farSmall
    obtain ⟨other, own⟩ := ih nearSmall before
    exact (exec_side own other nearSmall carries ran).symm

/-- The messages accepted are the first ones the other end has numbered, and what it takes to be
acknowledged was accepted. -/
structure Reliable (t u : TunnelRef) (listener speaker : Daemon) : Prop where
  prefixed : acceptedOn t listener.trace <+: numberedOn u speaker.trace
  acked : ∀ tunnel, listener.tunnel? t = some tunnel →
    tunnel.cLr ≤ (acceptedOn u speaker.trace).length

theorem Side.reliable (side : Side t left.view (right.view.endpoint u)) :
    Reliable t u left right := by
  refine ⟨side.agrees.prefixed, ?_⟩
  intro tunnel found
  have bound := side.agrees.acked
  rw [endpoint_acked (view_tunnel_some found)] at bound
  exact bound

theorem channel_reliable (runs : Exchange near far t u left right)
    (nearSmall : left.unwrapped t) (farSmall : right.unwrapped u) :
    Reliable t u left right ∧ Reliable u t right left := by
  obtain ⟨own, other⟩ := exchange_sides runs nearSmall farSmall
  exact ⟨own.reliable, other.reliable⟩

/-! ## Two daemons to run -/

/-- One end dials, and then each hears packets of the other, by their place in its history. -/
inductive Turn
  | dial
  | nearHears (place : Nat)
  | farHears (place : Nat)

def heard? (env : Env) (peer : Daemon) (u : TunnelRef) (place : Nat) (state : Daemon) :
    Option Input :=
  (peer.packets u)[place]?.bind fun octets =>
    let datagram : Datagram := { bytes := octets, peer := ⟨1, 1701⟩ }
    match getCall env datagram.ids.1 datagram.ids.2 datagram.peer 0 0 state with
    | .ok (some _) _ => some (.datagram datagram)
    | _ => none

theorem heard_carries {peer : Daemon} {place : Nat}
    (heard : heard? env peer u place state = some input) : Carries env t u peer state input := by
  obtain ⟨octets, sent, hears⟩ := Option.bind_eq_some_iff.mp heard
  dsimp only at hears
  split at hears
  · rename_i found after lookup
    cases hears
    constructor
    · intro datagram c after same _ _
      cases same
      exact List.mem_of_getElem? sent
    · intro datagram same _ none
      cases same
      rw [lookup] at none
      cases none
  · cases hears

def takeTurn (near far : Env) (t u : TunnelRef) (ends : Daemon × Daemon) :
    Turn → Option (Daemon × Daemon)
  | .dial =>
      match exec near (.request (.tunnel (text "far"))) ends.1 with
      | .ok () after => some (after, ends.2)
      | .error _ _ => none
  | .nearHears place =>
      (heard? near ends.2 u place ends.1).bind fun input =>
        match exec near input ends.1 with
        | .ok () after => some (after, ends.2)
        | .error _ _ => none
  | .farHears place =>
      (heard? far ends.1 t place ends.2).bind fun input =>
        match exec far input ends.2 with
        | .ok () after => some (ends.1, after)
        | .error _ _ => none

theorem takeTurn_exchange {ends after : Daemon × Daemon} {turn : Turn}
    (runs : Exchange near far t u ends.1 ends.2) (taken : takeTurn near far t u ends turn = some after) :
    Exchange near far t u after.1 after.2 := by
  cases turn with
  | dial =>
    simp only [takeTurn] at taken
    split at taken
    · rename_i next ran
      cases taken
      refine runs.near ⟨?_, ?_⟩ ran
      · intro datagram c after impossible
        cases impossible
      · intro datagram impossible
        cases impossible
    · cases taken
  | nearHears place =>
    obtain ⟨input, heard, taken⟩ := Option.bind_eq_some_iff.mp taken
    split at taken
    · rename_i next ran
      cases taken
      exact runs.near (heard_carries heard) ran
    · cases taken
  | farHears place =>
    obtain ⟨input, heard, taken⟩ := Option.bind_eq_some_iff.mp taken
    split at taken
    · rename_i next ran
      cases taken
      exact runs.far (heard_carries heard) ran
    · cases taken

theorem turns_exchange {ends after : Daemon × Daemon} {turns : List Turn}
    (runs : Exchange near far t u ends.1 ends.2)
    (taken : turns.foldlM (takeTurn near far t u) ends = some after) :
    Exchange near far t u after.1 after.2 := by
  induction turns generalizing ends with
  | nil =>
    cases taken
    exact runs
  | cons turn rest ih =>
    rw [List.foldlM_cons] at taken
    obtain ⟨next, first, later⟩ := Option.bind_eq_some_iff.mp taken
    exact ih (takeTurn_exchange runs first) later

/-- An SCCRQ is answered and the answer arrives twice, on the way to the established tunnel. -/
theorem handshake_reliable : ∃ left right : Daemon,
    (acceptedOn 1 left.trace).length = 1 ∧ (acceptedOn 1 right.trace).length = 2 ∧
      Reliable 1 1 left right ∧ Reliable 1 1 right left := by
  let env := sampleEnv (fun _ _ => none) 5
  obtain ⟨ends, taken, tested⟩ : ∃ ends, [Turn.dial, .farHears 0, .nearHears 0, .nearHears 0,
      .farHears 1].foldlM (takeTurn env env 1 1) (sampleStart false, sampleStart false) =
        some ends ∧
      ((acceptedOn 1 ends.1.trace).length == 1 && (acceptedOn 1 ends.2.trace).length == 2 &&
        (numberedOn 1 ends.1.trace).length < 2 ^ 16 &&
        (numberedOn 1 ends.2.trace).length < 2 ^ 16) = true := by
    refine (Option.any_eq_true _ _).mp ?_
    decide +kernel
  have boots : init env (sampleStart false) = .ok () (sampleStart false) := rfl
  have runs := turns_exchange (.boot (sampleStart_booted false) boots (sampleStart_booted false)
    boots) taken
  simp only [Bool.and_eq_true, beq_iff_eq, decide_eq_true_eq] at tested
  obtain ⟨⟨⟨near, far⟩, nearSmall⟩, farSmall⟩ := tested
  exact ⟨ends.1, ends.2, near, far, channel_reliable runs nearSmall farSmall⟩

end Xl2tpd
