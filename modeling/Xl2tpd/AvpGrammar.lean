import Xl2tpd.AvpLoop
import Xl2tpd.Payload
import Xl2tpd.Sim.Avp

/-!
# The grammar of control messages

A message that `handle_avps` accepts should be a concatenation of AVPs of which the first is the
Message Type. An AVP that is passed over before its length is tested can break the first part, one
in the first place the second.
-/

namespace Xl2tpd

set_option autoImplicit false

open Program

/-! ## Concatenations -/

/-- An AVP has as many octets as its header says, and the header itself is whole. -/
def IsAvp (avp : Bytes) : Prop := 6 ≤ avp.length ∧ avp.length = alength (netWord avp 0)

def Concatenation (body : Bytes) (avps : List Bytes) : Prop :=
  body = avps.flatten ∧ ∀ avp ∈ avps, IsAvp avp

section Words

variable {raw : Bytes} {length : Nat}

theorem swapped_word (long : 6 ≤ raw.length) (index : Nat) (short : index < 3) :
    hostWord (swaps 3 raw) (2 * index) = netWord raw (2 * index) :=
  swaps_word 3 index raw short (by omega)

theorem swapped_drop (long : 6 ≤ raw.length) (least : 6 ≤ length) :
    (swaps 3 raw).drop length = raw.drop length := by
  have behind := swaps_drop 3 raw long
  obtain ⟨more, rfl⟩ := Nat.exists_eq_add_of_le least
  rw [← List.drop_drop, ← List.drop_drop, behind]

theorem net_word_take (long : 2 ≤ length) (inside : length ≤ raw.length) :
    netWord (raw.take length) 0 = netWord raw 0 := by
  have split := net_word_append (raw.take length) (raw.drop length) 0
    (by rw [List.length_take]; omega)
  rw [List.take_append_drop] at split
  exact split.symm

theorem concatenation_iff (raw : Bytes) (len : Nat) (some : 0 < len) (inside : len ≤ raw.length)
    (header : alength (hostWord (swaps 3 raw) 0) = length) :
    (∃ avps, Concatenation (raw.take len) avps) ↔
      6 ≤ length ∧ length ≤ len ∧
        ∃ avps, Concatenation ((raw.drop length).take (len - length)) avps := by
  constructor
  · rintro ⟨avps, joined, each⟩
    cases avps with
    | nil =>
      have none := congrArg List.length joined
      rw [List.length_take] at none
      simp only [List.flatten_nil, List.length_nil] at none
      omega
    | cons avp rest =>
      obtain ⟨least, size⟩ := each avp List.mem_cons_self
      rw [List.flatten_cons] at joined
      have total := congrArg List.length joined
      rw [List.length_take, List.length_append] at total
      have front : raw.take avp.length = avp := by
        rw [← List.take_append_drop len raw, joined, List.append_assoc, List.take_left]
      have first : netWord avp 0 = netWord raw 0 := by
        rw [← front, net_word_take (by omega) (by omega)]
      have word : hostWord (swaps 3 raw) 0 = netWord raw 0 :=
        swapped_word (by omega) 0 (by omega)
      rw [word, ← first, ← size] at header
      subst header
      refine ⟨least, by omega, rest, ?_, fun other member => each other (.tail _ member)⟩
      rw [← List.drop_take, joined, List.drop_left]
  · rintro ⟨least, most, rest, joined, each⟩
    have word : hostWord (swaps 3 raw) 0 = netWord raw 0 := swapped_word (by omega) 0 (by omega)
    have front : (raw.take length).length = length := by
      rw [List.length_take]
      omega
    refine ⟨raw.take length :: rest, ?_, ?_⟩
    · have again : raw.take length = (raw.take len).take length := by
        rw [List.take_take, Nat.min_eq_left most]
      rw [List.flatten_cons, ← joined, ← List.drop_take, again, List.take_append_drop]
    · rw [List.forall_mem_cons]
      refine ⟨⟨by omega, ?_⟩, each⟩
      rw [front, net_word_take (by omega) (by omega), ← word, header]

end Words

/-! ## What a round of the loop has tested -/

section Rounds

variable {env : Env} {t : TunnelRef} {c : CallId} {size : Nat} {round : Round} {after : Daemon}

theorem Round.passed {raw : Bytes} {len : Int} (ran : round.run env t c = .ok (.next raw len) after)
    (listed : round.attr ≤ avpMax) :
    (alength round.length : Int) ≤ round.len ∧ ¬ (round.attr ≠ 0 ∧ round.first = true) ∧
      6 ≤ alength round.length := by
  unfold Round.run handleAvp at ran
  rw [if_neg (show ¬ (hostWord (swaps 3 round.raw) 4).toNat > avpMax from
    Nat.not_lt.mpr listed)] at ran
  split at ran
  · exact (refuseAvp_next ran).elim
  rename_i short
  split at ran
  · exact (refuseAvp_next ran).elim
  rename_i ordered
  split at ran
  · exact (refuseAvp_next ran).elim
  rename_i long
  exact ⟨Int.not_lt.mp short, ordered, Nat.not_lt.mp long⟩

/-- A handler gets the AVP: it is in the table, has no reserved bit, and decrypts if hidden. -/
def Round.handled (env : Env) (t : TunnelRef) (round : Round) : Prop :=
  round.attr ≤ avpMax ∧ azbits round.length = false ∧
    (ahbit round.length = true → (round.plain env t).isSome = true)

theorem Round.given_isSome {raw : Bytes} {len : Int}
    (ran : round.run env t c = .ok (.next raw len) after) :
    (round.given env t size).isSome = true ↔ round.handled env t := by
  unfold Round.given Round.handled
  constructor
  · intro some
    split at some
    · cases some
    rename_i taken
    rw [Bool.not_eq_true', Bool.not_eq_false] at taken
    obtain ⟨listed, _, _, _, clear⟩ := Round.taken_iff.mp taken
    refine ⟨listed, clear, fun hidden => ?_⟩
    rw [if_pos hidden, Option.isSome_map] at some
    exact some
  · rintro ⟨listed, clear, decrypts⟩
    obtain ⟨short, ordered, long⟩ := Round.passed ran listed
    have taken : round.taken = true := Round.taken_iff.mpr ⟨listed, short, ordered, long, clear⟩
    rw [taken, if_neg (by simp)]
    split
    · rename_i hidden
      rw [Option.isSome_map]
      exact decrypts hidden
    · rfl

/-! ## Accepted messages -/

/-- No AVP whose attribute the table does not have is shorter than its header. -/
def strangersWhole : Nat → Bytes → Int → Bool
  | 0, _, _ => true
  | fuel + 1, raw, len =>
      let length := alength (hostWord (swaps 3 raw) 0)
      len ≤ 0 ||
        ((hostWord (swaps 3 raw) 4).toNat ≤ avpMax || 6 ≤ length) &&
          strangersWhole fuel (raw.drop length) (len - length)

/-- The octets before an accepting loop are AVPs exactly when no stranger is too short. -/
theorem halts_concatenation_iff {outcome : EStateM.Result Fault Daemon Bool}
    (halts : Loop.Halts (avpBody env t c size) round outcome) (accepts : outcome = .ok true after)
    (inside : round.len ≤ round.raw.length) (fuel : Nat) (enough : round.len ≤ fuel) :
    0 ≤ round.len ∧ ((∃ avps, Concatenation (round.raw.take round.len.toNat) avps) ↔
      strangersWhole fuel round.raw round.len = true) := by
  induction halts generalizing fuel with
  | @stop round outcome stops =>
    subst accepts
    have done : round.len = 0 := by
      unfold avpBody at stops
      split at stops
      · injection stops with returned
        injection returned with zero
        exact of_decide_eq_true zero
      · split at stops <;> cases stops
    refine ⟨by omega, iff_of_true ⟨[], ?_, by simp⟩ ?_⟩
    · rw [done]
      rfl
    · cases fuel with
      | zero => rfl
      | succ fuel => simp [strangersWhole, done]
  | @again round next outcome goes _ ih =>
    obtain ⟨left, _, _, ran⟩ := avpBody_goes goes
    obtain ⟨some, raw, len⟩ := (@Round.goes_on _ _ _ env t c size round ran).1
    have header : alength (hostWord (swaps 3 round.raw) 0) = alength round.length := rfl
    have cut := concatenation_iff round.raw round.len.toNat (by omega) (by omega) header
    have rest : (next.raw.length : Int) = round.raw.length - alength round.length ∨
        round.raw.length < alength round.length ∧ next.raw.length = 0 := by
      rw [raw, List.length_drop, Round.data, swaps_length]
      omega
    obtain ⟨room, inner⟩ := ih accepts (by omega) (fuel - 1) (by omega)
    refine ⟨by omega, cut.trans ?_⟩
    obtain ⟨fuel, rfl⟩ : ∃ less, fuel = less + 1 := ⟨fuel - 1, by omega⟩
    rw [strangersWhole]
    by_cases whole : 6 ≤ alength round.length
    · have same : next.raw = round.raw.drop (alength round.length) := by
        rw [raw]
        exact swapped_drop (by omega) whole
      have left' : next.len.toNat = round.len.toNat - alength round.length := by omega
      rw [same, left', len] at inner
      simp only [header, whole, decide_true, Bool.or_true, Bool.true_and, Bool.or_eq_true,
        decide_eq_true_eq, true_and]
      have fits : alength round.length ≤ round.len.toNat := by omega
      rw [Nat.add_sub_cancel] at inner
      rw [inner]
      simp only [fits, true_and]
      exact ⟨.inr, fun either => either.resolve_left (by omega)⟩
    · have stranger : ¬ (hostWord (swaps 3 round.raw) 4).toNat ≤ avpMax := by
        intro listed
        exact whole (Round.passed ran listed).2.2
      refine iff_of_false (fun joined => whole joined.1) ?_
      simp only [header, whole, stranger, decide_false, Bool.or_false, Bool.false_and,
        decide_eq_true_eq]
      omega

theorem halts_first {outcome : EStateM.Result Fault Daemon Bool}
    (halts : Loop.Halts (avpBody env t c size) round outcome) (accepts : outcome = .ok true after)
    (left : 0 < round.len) :
    ∃ next, avpBody env t c size round = .inl next := by
  cases halts with
  | again goes _ => exact ⟨_, goes⟩
  | stop stops =>
    subst accepts
    unfold avpBody at stops
    rw [if_neg (Int.not_le.mpr left)] at stops
    split at stops <;> cases stops

end Rounds

/-! ## The first AVP -/

section Types

variable {env : Env} {t : TunnelRef} {c : CallId}

theorem tunnel_move {view : View} {core : TunnelCore} (found : view.tunnel? t = some core)
    (change : Move) : ((Action.move t change).apply view).tunnel? t = some (change.apply core) := by
  simp only [Action.apply]
  rw [View.tunnel_setTunnel_same (Move.apply_ref _), found]
  rfl

theorem call_move {core : TunnelCore} {call : CallCore} (found : core.call? c = some call)
    (change : CallMove) : ((Move.call c change).apply core).call? c = some (change.apply call) := by
  simp only [Move.apply]
  rw [TunnelCore.call_setCall (CallMove.apply_ref _), if_pos rfl, found]
  rfl

theorem Typed.keeps {type : MsgType} {before after : View} {success : Bool} {old : TunnelCore}
    {oldCall : CallCore} (typed : Typed t c type before success after)
    (found : before.tunnel? t = some old) (foundCall : old.call? c = some oldCall) :
    ∃ core call, after.tunnel? t = some core ∧ core.call? c = some call := by
  have stored := tunnel_move found (.call c (.msgtype (some type)))
  have storedCall := call_move foundCall (.msgtype (some type))
  cases typed with
  | refused left | taken _ _ _ _ left =>
    rw [left]
    exact ⟨_, _, stored, storedCall⟩
  | garbled left =>
    rw [left]
    exact ⟨_, _, tunnel_move stored _, call_move storedCall .mark⟩
  | called ref _ _ onSelf _ _ left =>
    subst onSelf
    rw [left]
    exact ⟨_, _, tunnel_move stored _, storedCall⟩

theorem messageTypeAvp_sets {data : Bytes} {datalen : Nat} {success : Bool} {state after : Daemon}
    (ran : messageTypeAvp env t c data datalen state = .ok success after) :
    ∃ call, after.call? t c = some call ∧
      call.msgtype = some (MsgType.ofNat (avpWord data 3).toNat) := by
  have typed := messageTypeAvp_typed ran
  obtain ⟨_, _, wrote, _⟩ := bind_ok.mp ran
  obtain ⟨tunnel, call, found, foundCall, _⟩ := writeCall_ok wrote
  obtain ⟨core, callCore, foundCore, foundCallCore⟩ :=
    typed.keeps (view_tunnel_some found) (by rw [core_call, foundCall]; rfl)
  obtain ⟨stored, _⟩ := typed.back foundCore foundCallCore
  rw [view_tunnel] at foundCore
  obtain ⟨after', foundAfter, rfl⟩ := Option.map_eq_some_iff.mp foundCore
  rw [core_call] at foundCallCore
  obtain ⟨call', foundCall', rfl⟩ := Option.map_eq_some_iff.mp foundCallCore
  exact ⟨call', some_call foundAfter foundCall', stored⟩

end Types

/-- The first AVP of the packet is a Message Type AVP, and its handler has set `c->msgtype`. -/
def SetsType (env : Env) (t : TunnelRef) (c : CallId) (buffer : RecvBuf) (before : Daemon) : Prop :=
  ∃ given, (firstRound buffer before).given env t buffer.len = some given ∧ given.attr = 0 ∧
    ∃ success after call,
      messageTypeAvp env t c given.data given.datalen before = .ok success after ∧
        after.call? t c = some call ∧
        call.msgtype = some (MsgType.ofNat (avpWord given.data 3).toNat)

theorem setsType_iff {env : Env} {t : TunnelRef} {c : CallId} {buffer : RecvBuf}
    {before after : Daemon} (some : controlHdrSize < buffer.len)
    (accepted : handleAvps env t c buffer before = .ok true after) :
    SetsType env t c buffer before ↔ (firstRound buffer before).handled env t := by
  have left : 0 < (firstRound buffer before).len := by
    change 0 < (buffer.len : Int) - controlHdrSize
    omega
  have within : (firstRound buffer before).len ≤ buffer.len := by
    change (buffer.len : Int) - controlHdrSize ≤ buffer.len
    omega
  obtain ⟨next, goes⟩ := halts_first (handleAvps_halts env t c buffer before) accepted left
  obtain ⟨_, _, _, ran⟩ := avpBody_goes goes
  constructor
  · rintro ⟨given, handed, _⟩
    have isSome : ((firstRound buffer before).given env t buffer.len).isSome = true := by
      rw [handed]
      rfl
    exact (Round.given_isSome ran).mp isSome
  · intro handled
    obtain ⟨given, handed⟩ := Option.isSome_iff_exists.mp ((Round.given_isSome ran).mpr handled)
    obtain ⟨same, _⟩ := Round.given_fits left within handed
    have type : given.attr = 0 := by
      have ordered := (Round.passed ran handled.1).2.1
      rw [same]
      by_contra other
      exact ordered ⟨other, rfl⟩
    refine ⟨given, handed, type, ?_⟩
    rw [(Round.run_given handed).2.2] at ran
    have listed : avpHandler env (hostWord given.data 4).toNat = messageTypeAvp env := by
      rw [show (hostWord given.data 4).toNat = 0 from type]
      rfl
    simp only [dispatchAvp, listed] at ran
    obtain ⟨success, typed, handles, _⟩ := bind_ok.mp ran
    obtain ⟨call, found, stored⟩ := messageTypeAvp_sets handles
    exact ⟨success, typed, call, handles, found, stored⟩

/-- A message that `handle_avps` accepts is a concatenation of AVPs, the first a Message Type that
has set `c->msgtype`, exactly when it has an AVP, the first is not passed over, and none beyond the
table is too short. -/
theorem accepted_grammar_iff {env : Env} {t : TunnelRef} {c : CallId} {buffer : RecvBuf}
    {before after : Daemon} (whole : buffer.len ≤ buffer.bytes.length)
    (accepted : handleAvps env t c buffer before = .ok true after) :
    (∃ first rest, Concatenation buffer.body (first :: rest) ∧ netWord first 4 = 0 ∧
        SetsType env t c buffer before) ↔
      controlHdrSize < buffer.len ∧ (firstRound buffer before).handled env t ∧
        strangersWhole buffer.len (buffer.bytes.drop controlHdrSize)
          ((buffer.len : Int) - controlHdrSize) = true := by
  have inside : (firstRound buffer before).len ≤ (firstRound buffer before).raw.length := by
    change (buffer.len : Int) - controlHdrSize ≤ (buffer.bytes.drop controlHdrSize).length
    rw [List.length_drop]
    omega
  have enough : (firstRound buffer before).len ≤ buffer.len := by
    change (buffer.len : Int) - controlHdrSize ≤ buffer.len
    omega
  obtain ⟨room, grammar⟩ := halts_concatenation_iff (handleAvps_halts env t c buffer before)
    accepted inside buffer.len enough
  have body : (firstRound buffer before).raw.take (firstRound buffer before).len.toNat =
      buffer.body := by
    change (buffer.bytes.drop controlHdrSize).take ((buffer.len : Int) - controlHdrSize).toNat =
      (buffer.bytes.drop controlHdrSize).take (buffer.len - controlHdrSize)
    congr 1
    omega
  rw [body] at grammar
  change 0 ≤ (buffer.len : Int) - controlHdrSize at room
  constructor
  · rintro ⟨first, rest, joined, _, sets⟩
    have some : controlHdrSize < buffer.len := by
      have six := (joined.2 first List.mem_cons_self).1
      have total := congrArg List.length joined.1
      rw [RecvBuf.body, List.flatten_cons, List.length_take, List.length_append] at total
      omega
    exact ⟨some, (setsType_iff some accepted).mp sets, grammar.mp ⟨_, joined⟩⟩
  · rintro ⟨some, handled, strangers⟩
    obtain ⟨avps, joined⟩ := grammar.mpr strangers
    have sets := (setsType_iff some accepted).mpr handled
    cases avps with
    | nil =>
      have total := congrArg List.length joined.1
      rw [RecvBuf.body, List.length_take, List.length_drop] at total
      simp only [List.flatten_nil, List.length_nil] at total
      omega
    | cons first rest =>
      refine ⟨first, rest, joined, ?_, sets⟩
      obtain ⟨given, handed, type, _⟩ := sets
      have left : 0 < (firstRound buffer before).len := by
        change 0 < (buffer.len : Int) - controlHdrSize
        omega
      have attr : (firstRound buffer before).attr = 0 :=
        (Round.given_fits left enough handed).1.symm.trans type
      have six := (joined.2 first List.mem_cons_self).1
      have front : netWord first 4 = netWord (buffer.bytes.drop controlHdrSize) 4 := by
        have split := joined.1
        rw [RecvBuf.body, List.flatten_cons] at split
        rw [← net_word_append first (rest.flatten ++ (buffer.bytes.drop controlHdrSize).drop
          (buffer.len - controlHdrSize)) 4 (by omega), ← List.append_assoc, ← split,
          List.take_append_drop]
      have long : 6 ≤ (buffer.bytes.drop controlHdrSize).length := by
        have total := congrArg List.length joined.1
        rw [RecvBuf.body, List.flatten_cons, List.length_take, List.length_append] at total
        omega
      rw [front, ← swapped_word long 2 (by omega)]
      exact UInt16.toNat_inj.mp attr

def strangePacket : RecvBuf := (sampleDatagram 6 0 0 0 [0x00, 0x06, 0x00, 0x00, 0x00, 0x64]).buffer

/-- The only AVP is passed over, the message is accepted, and no type is set. -/
theorem strange_message_accepted :
    returned (handleAvps (sampleEnv (fun _ _ => none) 5) 1 .self strangePacket) sampleReceiver =
        some true ∧
      ¬ ∃ first rest, Concatenation strangePacket.body (first :: rest) ∧ netWord first 4 = 0 ∧
        SetsType (sampleEnv (fun _ _ => none) 5) 1 .self strangePacket sampleReceiver := by
  refine ⟨by decide +kernel, ?_⟩
  rintro ⟨first, rest, _, _, given, handed, _⟩
  have passed : (firstRound strangePacket sampleReceiver).given (sampleEnv (fun _ _ => none) 5) 1
      strangePacket.len = none := Round.given_none (by decide +kernel)
  rw [passed] at handed
  cases handed

theorem hello_grammar :
    ∃ first rest, Concatenation helloPacket.body (first :: rest) ∧ netWord first 4 = 0 ∧
      SetsType (sampleEnv (fun _ _ => none) 5) 1 .self helloPacket sampleReceiver :=
  (accepted_grammar_iff (by decide +kernel) (returned_ok (by decide +kernel))).mpr
    ⟨by decide +kernel, ⟨by decide +kernel, by decide +kernel, by decide +kernel⟩,
      by decide +kernel⟩

end Xl2tpd
