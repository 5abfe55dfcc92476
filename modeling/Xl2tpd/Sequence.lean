import Xl2tpd.Runs
import Xl2tpd.Lib.Serial

/-!
# Sequenced payload packets

A packet with a number is compared with the number of packets we have sent ourselves, and with the
last number taken. The order is the serial one as long as the first comparison does not interfere
and no number is repeated, skipped by more than two, or half of the circle away.
-/

namespace Xl2tpd

set_option autoImplicit false

open Program Serial

/-! ## What happens on a call -/

inductive Traffic
  | sent (packet : Bytes)
  | arrived (buffer : RecvBuf)

/-- The daemon, and the numbers of the packets delivered on the call, the last one first. -/
structure Flow where
  state : Daemon
  delivered : List UInt16

def RecvBuf.numbered (buffer : RecvBuf) : Bool := cfbit (hostWord buffer.bytes 0)

def RecvBuf.number (buffer : RecvBuf) : UInt16 :=
  hostWord buffer.bytes (if clbit (hostWord buffer.bytes 0) then 8 else 6)

/-- `check_payload` and `expand_payload` let the packet pass. -/
def Flow.delivers (t : TunnelRef) (c : CallId) (flow : Flow) (buffer : RecvBuf) : Bool :=
  checkPayload buffer &&
    ends (expandPayload buffer t c) (fun header _ => header.isSome) flow.state

def Flow.step (env : Env) (t : TunnelRef) (c : CallId) (flow : Flow) : Traffic → Flow
  | .sent packet => { flow with state := final (sendPayload t c packet flow.state) }
  | .arrived buffer =>
      { state := final (handlePayload env buffer t c flow.state)
        delivered :=
          if buffer.numbered && flow.delivers t c buffer then buffer.number :: flow.delivered
          else flow.delivered }

def Flow.run (env : Env) (t : TunnelRef) (c : CallId) (flow : Flow) (traffic : List Traffic) :
    Flow := traffic.foldl (Flow.step env t c) flow

/-- The packet is delivered exactly if it is newer than all that were delivered. -/
def Flow.Right (t : TunnelRef) (c : CallId) (flow : Flow) (buffer : RecvBuf) : Prop :=
  flow.delivers t c buffer = true ↔ ∀ old ∈ flow.delivered, Precedes old buffer.number

-- Over the numbers delivered, not over all of them.
instance (t : TunnelRef) (c : CallId) (flow : Flow) (buffer : RecvBuf) :
    Decidable (flow.Right t c buffer) :=
  let _ : Decidable (∀ old ∈ flow.delivered, Precedes old buffer.number) :=
    List.decidableBAll (Precedes · buffer.number) flow.delivered
  inferInstanceAs (Decidable (_ ↔ _))

/-- Our own counter does not interfere, and the number is not the last one, nor two or more lost,
nor half of the circle away. -/
def fairNumber (call : Call) (delivered : List UInt16) (ns : UInt16) : Bool :=
  let expected := call.dataRecSeqNum
  (ns ≠ call.dataSeqNum || ns = expected + 1) &&
    match delivered.getLast? with
    | none => ns.toNat ≤ 2
    | some first =>
        ns ≠ expected && !(expected.toNat + 2 < ns.toNat && ns.toNat < expected.toNat + 32768) &&
          ns.toNat + 32768 ≠ expected.toNat &&
          (!Precedes expected ns || (ns - first).toNat < 32768)

/-- An empty packet that passes takes its number back, and one without a number is counted when it
finds our counter equal to the peer's. -/
def Flow.fair (t : TunnelRef) (c : CallId) (flow : Flow) (buffer : RecvBuf) : Bool :=
  (flow.state.call? t c).any fun call =>
    !checkPayload buffer ||
      (buffer.len + (expandHdr buffer call).ehlen ≠ payloadHdrSize ||
          !flow.delivers t c buffer) &&
        if buffer.numbered then fairNumber call flow.delivered buffer.number
        else call.dataRecSeqNum ≠ call.dataSeqNum

/-- Every packet of the traffic is a fair one when it arrives. -/
def Flow.fairRun (env : Env) (t : TunnelRef) (c : CallId) : Flow → List Traffic → Bool
  | _, [] => true
  | flow, .sent packet :: traffic => (flow.step env t c (.sent packet)).fairRun env t c traffic
  | flow, .arrived buffer :: traffic =>
      flow.fair t c buffer && (flow.step env t c (.arrived buffer)).fairRun env t c traffic

/-! ## The counter of the peer's packets -/

section Counter

variable {env : Env} {t : TunnelRef} {c : CallId} {state : Daemon} {call : Call}
  {buffer : RecvBuf} {header : ExpandedHdr}

def Daemon.counter (t : TunnelRef) (c : CallId) (state : Daemon) : Option UInt16 :=
  (state.call? t c).map Call.dataRecSeqNum

theorem counter_write_call {change : Call → Call} (keeps : ∀ call, (change call).ref = call.ref)
    (same : ∀ call, (change call).dataRecSeqNum = call.dataRecSeqNum) :
    Leads (Daemon.counter t c) Eq (writeCall t c change) state := by
  apply leads_of_view_eq
  cases ran : writeCall t c change state with
  | ok _ after =>
    obtain ⟨_, _, _, _, rfl⟩ := writeCall_ok ran
    exact trait_setCall keeps same
  | error fault after => rw [writeCall_error ran]; rfl

theorem counter_set_call {change : Call → Call} (keeps : ∀ call, (change call).ref = call.ref)
    (found : state.call? t c = some call) :
    (state.setCall t c change).counter t c = some (change call).dataRecSeqNum := by
  rw [Daemon.counter, call_setCall keeps, if_pos ⟨rfl, rfl⟩, found]
  rfl

theorem send_payload_counter {packet : Bytes} :
    Leads (Daemon.counter t c) Eq (sendPayload t c packet) state := by
  refine leads_read (reads_deref _ state) fun tunnel _ => leads_read (reads_deref _ state)
    fun call _ => ?_
  unfold whenever
  split
  · exact leads_bind (counter_write_call (fun _ => rfl) fun _ => rfl) fun _ _ _ =>
      leads_of_view_eq rfl
  · exact leads_pure _

theorem write_packet_counter :
    Leads (Daemon.counter t c) Eq (writePacket env t c buffer header) state := by
  refine leads_read (reads_deref _ state) fun call _ => ?_
  unfold whenever
  split
  · dsimp only
    cases framePayload buffer header with
    | overrun => exact leads_throw _
    | invalid => exact counter_write_call (fun _ => rfl) fun _ => rfl
    | frame octets =>
      refine leads_bind (counter_write_call (fun _ => rfl) fun _ => rfl) fun _ _ _ =>
        leads_bind (leads_of_view_eq rfl) fun written _ _ => ?_
      cases written with
      | true => exact leads_of_view_eq rfl
      | false => exact counter_write_call (fun _ => rfl) fun _ => rfl
  · exact leads_pure _

theorem expand_payload_drops (found : state.call? t c = some call)
    (dropped : payloadSequence (expandHdr buffer call).Ns call = none) :
    expandPayload buffer t c state = .ok none state := by
  unfold expandPayload
  rw [bind_run (readCall_run found)]
  simp only [dropped]
  rfl

theorem expand_payload_takes {next : UInt16} (found : state.call? t c = some call)
    (taken : payloadSequence (expandHdr buffer call).Ns call = some next) :
    expandPayload buffer t c state = .ok (some (expandHdr buffer call)) (state.setCall t c
      fun found => { found with
        dataRecSeqNum := next
        pLr := (expandHdr buffer call).Nr.toNat }) := by
  unfold expandPayload
  rw [bind_run (readCall_run found)]
  simp only [taken]
  rw [bind_run (writeCall_run found)]
  rfl

theorem handle_payload_drops (found : state.call? t c = some call)
    (dropped : checkPayload buffer = false ∨
      payloadSequence (expandHdr buffer call).Ns call = none) :
    final (handlePayload env buffer t c state) = state := by
  unfold handlePayload whenever
  split
  · rename_i checked
    rcases dropped with failed | dropped
    · rw [failed] at checked
      cases checked
    · rw [bind_run (expand_payload_drops found dropped)]
      rfl
  · rfl

/-- A packet that passes sets the counter, unless it is empty. -/
theorem handle_payload_takes {next : UInt16} (found : state.call? t c = some call)
    (checked : checkPayload buffer = true)
    (taken : payloadSequence (expandHdr buffer call).Ns call = some next)
    (full : buffer.len + (expandHdr buffer call).ehlen ≠ payloadHdrSize) :
    (final (handlePayload env buffer t c state)).counter t c = some next := by
  unfold handlePayload whenever
  rw [if_pos checked, bind_run (expand_payload_takes found taken)]
  simp only
  split
  · exact (leads_eq write_packet_counter).trans (counter_set_call (by intro _; rfl) found)
  · rw [if_neg (by simpa using full)]
    exact counter_set_call (by intro _; rfl) found

theorem delivers_iff {flow : Flow} (found : flow.state.call? t c = some call) :
    flow.delivers t c buffer =
      (checkPayload buffer && (payloadSequence (expandHdr buffer call).Ns call).isSome) := by
  unfold Flow.delivers ends
  cases verdict : payloadSequence (expandHdr buffer call).Ns call with
  | none => rw [expand_payload_drops found verdict]; rfl
  | some next => rw [expand_payload_takes found verdict]; rfl

theorem expand_hdr_number (call : Call) (numbered : buffer.numbered = true) :
    (expandHdr buffer call).Ns = buffer.number := by
  unfold expandHdr RecvBuf.number
  exact if_pos numbered

theorem expand_hdr_unnumbered (call : Call) (unnumbered : buffer.numbered = false) :
    (expandHdr buffer call).Ns = call.dataRecSeqNum := by
  unfold expandHdr
  exact if_neg (by simpa [RecvBuf.numbered] using unnumbered)

/-- A packet without a number passes and leaves the counter alone. -/
theorem payload_sequence_same (call : Call) (apart : call.dataRecSeqNum ≠ call.dataSeqNum) :
    payloadSequence call.dataRecSeqNum call = some call.dataRecSeqNum := by
  unfold payloadSequence
  rw [if_neg apart, if_neg (by simp [alreadySeen]), if_pos (Nat.le_add_right _ _)]

end Counter

/-! ## The order of the numbers -/

/-- The last number taken was delivered, and what was delivered goes up from the first one. -/
structure Ordered (counter : UInt16) (delivered : List UInt16) : Prop where
  fresh : delivered = [] → counter = 0
  last : ∀ newest older, delivered = newest :: older → counter = newest
  span : ∀ first, delivered.getLast? = some first →
    delivered.Pairwise fun later earlier => (earlier - first).toNat < (later - first).toNat
  half : ∀ first, delivered.getLast? = some first → (counter - first).toNat < 32768

theorem ordered_start : Ordered 0 [] where
  fresh := fun _ => rfl
  last := fun _ _ impossible => nomatch impossible
  span := fun _ _ => List.Pairwise.nil
  half := fun _ impossible => nomatch impossible

theorem payload_sequence_serial (ns : UInt16) (call : Call)
    (own : ns ≠ call.dataSeqNum ∨ ns = call.dataRecSeqNum + 1) (apart : ns ≠ call.dataRecSeqNum)
    (near : ¬ (call.dataRecSeqNum.toNat + 2 < ns.toNat ∧
      ns.toNat < call.dataRecSeqNum.toNat + 32768))
    (half : ns.toNat + 32768 ≠ call.dataRecSeqNum.toNat) :
    payloadSequence ns call = if Precedes call.dataRecSeqNum ns then some ns else none := by
  have nsBound := ns.toNat_lt
  have recBound := call.dataRecSeqNum.toNat_lt
  have difference := UInt16.toNat_sub ns call.dataRecSeqNum
  have values : ns.toNat ≠ call.dataRecSeqNum.toNat := fun same => apart (UInt16.toNat_inj.mp same)
  unfold payloadSequence
  by_cases same : ns = call.dataSeqNum
  · have next : ns = call.dataRecSeqNum + 1 := own.resolve_left (not_not.mpr same)
    have ahead : Precedes call.dataRecSeqNum ns := by
      refine ⟨Ne.symm apart, ?_⟩
      have sum := UInt16.toNat_add call.dataRecSeqNum 1
      have one : (1 : UInt16).toNat = 1 := rfl
      rw [← next, one] at sum
      omega
    rw [if_pos same, if_pos ahead, ← next]
  · rw [if_neg same]
    have seen : alreadySeen ns call.dataRecSeqNum = true ↔
        ns.toNat < call.dataRecSeqNum.toNat ∧ call.dataRecSeqNum.toNat < ns.toNat + 32768 := by
      simp only [alreadySeen, Bool.or_eq_true, Bool.and_eq_true, decide_eq_true_eq]
      omega
    by_cases ahead : Precedes call.dataRecSeqNum ns
    · have close := ahead.2
      rw [if_pos ahead, if_neg (by rw [seen]; omega), if_pos (by simp only [payloadFudge]; omega)]
    · have far : ¬ (ns - call.dataRecSeqNum).toNat < 32768 := fun close =>
        ahead ⟨Ne.symm apart, close⟩
      rw [if_neg ahead]
      split
      · rfl
      case isFalse unseen =>
        rw [seen] at unseen
        rw [if_neg (by simp only [payloadFudge]; omega)]

/-- On a call that has not delivered anything, the first number may be up to two. -/
theorem payload_sequence_first (ns : UInt16) (call : Call) (zero : call.dataRecSeqNum = 0)
    (own : ns ≠ call.dataSeqNum ∨ ns = call.dataRecSeqNum + 1) (small : ns.toNat ≤ 2) :
    payloadSequence ns call = some ns := by
  unfold payloadSequence
  by_cases same : ns = call.dataSeqNum
  · rw [if_pos same, ← own.resolve_left (not_not.mpr same)]
  · have unseen : alreadySeen ns 0 = false := by
      have zeroNat : (0 : UInt16).toNat = 0 := rfl
      simp only [alreadySeen, Bool.or_eq_false_iff, Bool.and_eq_false_iff,
        decide_eq_false_iff_not, zeroNat]
      omega
    rw [if_neg same, zero, unseen]
    simpa [payloadFudge] using small

variable {counter ns : UInt16} {delivered : List UInt16}

theorem Ordered.distance {first old : UInt16} (ordered : Ordered counter delivered)
    (known : delivered.getLast? = some first) (member : old ∈ delivered) :
    (old - first).toNat ≤ (counter - first).toNat := by
  have span := ordered.span first known
  cases delivered with
  | nil => cases member
  | cons newest older =>
    rw [ordered.last newest older rfl]
    cases List.mem_cons.mp member with
    | inl same => rw [same]
    | inr later => exact Nat.le_of_lt ((List.pairwise_cons.mp span).1 old later)

theorem Ordered.newer_iff {first : UInt16} (ordered : Ordered counter delivered)
    (known : delivered.getLast? = some first)
    (close : Precedes counter ns → (ns - first).toNat < 32768) :
    Precedes counter ns ↔ ∀ old ∈ delivered, Precedes old ns := by
  have half := ordered.half first known
  constructor
  · intro newer old member
    have near := close newer
    have behind := ordered.distance known member
    rw [precedes_iff_distance half near] at newer
    rw [precedes_iff_distance (by omega) near]
    omega
  · intro all
    cases delivered with
    | nil => cases known
    | cons newest older =>
      rw [ordered.last newest older rfl]
      exact all newest List.mem_cons_self

theorem Ordered.deliver (ordered : Ordered counter delivered)
    (newer : ∀ old ∈ delivered, Precedes old ns)
    (close : ∀ first, delivered.getLast? = some first → (ns - first).toNat < 32768) :
    Ordered ns (ns :: delivered) where
  fresh := fun impossible => nomatch impossible
  last := by
    intro newest older same
    exact (List.cons.inj same).1
  span := by
    intro first known
    cases earlier : delivered.getLast? with
    | none =>
      have none : delivered = [] := List.getLast?_eq_none_iff.mp earlier
      rw [none]
      exact List.pairwise_singleton _ _
    | some oldest =>
      have same : oldest = first := by
        simpa [List.getLast?_cons, earlier] using known
      subst same
      refine List.pairwise_cons.mpr ⟨?_, ordered.span oldest earlier⟩
      intro old member
      have behind := ordered.distance earlier member
      have half := ordered.half oldest earlier
      exact (precedes_iff_distance (by omega) (close oldest earlier)).mp (newer old member)
  half := by
    intro first known
    cases earlier : delivered.getLast? with
    | none =>
      have same : ns = first := by
        simpa [List.getLast?_cons, earlier] using known
      simp [same]
    | some oldest =>
      have same : oldest = first := by
        simpa [List.getLast?_cons, earlier] using known
      subst same
      exact close oldest earlier

theorem Ordered.order (ordered : Ordered counter delivered) :
    delivered.Pairwise fun later earlier => Precedes earlier later := by
  cases known : delivered.getLast? with
  | none =>
    rw [List.getLast?_eq_none_iff.mp known]
    exact List.Pairwise.nil
  | some first =>
    have half := ordered.half first known
    refine (ordered.span first known).imp_of_mem fun {later earlier} one other less => ?_
    have near := ordered.distance known one
    have close := ordered.distance known other
    exact (precedes_iff_distance (by omega) (by omega)).mpr less

/-- A fair number passes exactly if it is newer than all that were delivered, and is then the last
one taken. -/
theorem fair_number {call : Call} (ordered : Ordered call.dataRecSeqNum delivered)
    (fair : fairNumber call delivered ns = true) :
    (payloadSequence ns call = some ns ∧ (∀ old ∈ delivered, Precedes old ns) ∧
        Ordered ns (ns :: delivered)) ∨
      (payloadSequence ns call = none ∧ ¬ ∀ old ∈ delivered, Precedes old ns) := by
  simp only [fairNumber, Bool.and_eq_true, Bool.or_eq_true, decide_eq_true_eq, ne_eq] at fair
  obtain ⟨own, fair⟩ := fair
  cases known : delivered.getLast? with
  | none =>
    have none : delivered = [] := List.getLast?_eq_none_iff.mp known
    rw [known] at fair
    have newer : ∀ old ∈ delivered, Precedes old ns := by simp [none]
    exact .inl ⟨payload_sequence_first ns call (ordered.fresh none) own (of_decide_eq_true fair),
      newer, ordered.deliver newer (by simp [none])⟩
  | some first =>
    rw [known] at fair
    simp only [Bool.and_eq_true, Bool.or_eq_true, Bool.not_eq_true', decide_eq_true_eq,
      decide_eq_false_iff_not, Bool.and_eq_false_iff] at fair
    obtain ⟨⟨⟨apart, gap⟩, half⟩, close⟩ := fair
    have close : Precedes call.dataRecSeqNum ns → (ns - first).toNat < 32768 :=
      fun newer => close.resolve_left (not_not.mpr newer)
    have verdict := payload_sequence_serial ns call own apart (by omega) half
    have all := ordered.newer_iff known close
    by_cases newer : Precedes call.dataRecSeqNum ns
    · rw [if_pos newer] at verdict
      refine .inl ⟨verdict, all.mp newer, ordered.deliver (all.mp newer) fun oldest same => ?_⟩
      rw [known] at same
      cases same
      exact close newer
    · rw [if_neg newer] at verdict
      exact .inr ⟨verdict, all.not.mp newer⟩

/-! ## Runs -/

section Runs

variable {env : Env} {t : TunnelRef} {c : CallId} {flow : Flow} {buffer : RecvBuf}

def Flow.Sound (t : TunnelRef) (c : CallId) (flow : Flow) : Prop :=
  ∃ counter, flow.state.counter t c = some counter ∧ Ordered counter flow.delivered

theorem Flow.sent_sound {packet : Bytes} (sound : flow.Sound t c) :
    (flow.step env t c (.sent packet)).Sound t c := by
  obtain ⟨counter, shown, ordered⟩ := sound
  exact ⟨counter, (leads_eq send_payload_counter).trans shown, ordered⟩

theorem Flow.fair_call (sound : flow.Sound t c) (fair : flow.fair t c buffer = true)
    (checked : checkPayload buffer = true) :
    ∃ call, flow.state.call? t c = some call ∧ Ordered call.dataRecSeqNum flow.delivered ∧
      ((payloadSequence (expandHdr buffer call).Ns call).isSome = true →
        buffer.len + (expandHdr buffer call).ehlen ≠ payloadHdrSize) ∧
      (buffer.numbered = true → fairNumber call flow.delivered buffer.number = true) ∧
      (buffer.numbered = false → call.dataRecSeqNum ≠ call.dataSeqNum) := by
  obtain ⟨counter, shown, ordered⟩ := sound
  obtain ⟨call, found, rfl⟩ := Option.map_eq_some_iff.mp shown
  rw [Flow.fair, found, Option.any_some, checked, Bool.not_true, Bool.false_or, Bool.and_eq_true,
    Bool.or_eq_true, decide_eq_true_eq, Bool.not_eq_true', delivers_iff found, checked,
    Bool.true_and] at fair
  obtain ⟨full, fair⟩ := fair
  refine ⟨call, found, ordered, fun taken => ?_, fun numbered => ?_, fun unnumbered => ?_⟩
  · exact full.resolve_right (by simp [taken])
  · rwa [if_pos numbered] at fair
  · rwa [if_neg (by simp [unnumbered]), decide_eq_true_eq] at fair

theorem Flow.right (sound : flow.Sound t c) (fair : flow.fair t c buffer = true)
    (checked : checkPayload buffer = true) (numbered : buffer.numbered = true) :
    flow.Right t c buffer := by
  obtain ⟨call, found, ordered, _, fairly, _⟩ := Flow.fair_call sound fair checked
  rw [Flow.Right, delivers_iff found, checked, Bool.true_and, expand_hdr_number call numbered]
  rcases fair_number ordered (fairly numbered) with ⟨taken, newer, _⟩ | ⟨dropped, older⟩
  · rw [taken]
    exact iff_of_true rfl newer
  · rw [dropped]
    exact iff_of_false (by simp) older

theorem Flow.step_sound (sound : flow.Sound t c) (fair : flow.fair t c buffer = true) :
    (flow.step env t c (.arrived buffer)).Sound t c := by
  have kept := sound
  obtain ⟨counter, shown, ordered⟩ := kept
  change ∃ counter, (final (handlePayload env buffer t c flow.state)).counter t c = some counter ∧
    Ordered counter (if buffer.numbered && flow.delivers t c buffer then
      buffer.number :: flow.delivered else flow.delivered)
  cases checked : checkPayload buffer with
  | false =>
    obtain ⟨call, found, rfl⟩ := Option.map_eq_some_iff.mp shown
    rw [delivers_iff found, checked, Bool.false_and, Bool.and_false,
      handle_payload_drops found (.inl checked)]
    exact ⟨_, shown, ordered⟩
  | true =>
    obtain ⟨call, found, ordered, full, fairly, apart⟩ := Flow.fair_call sound fair checked
    rw [delivers_iff found, checked, Bool.true_and]
    cases numbered : buffer.numbered with
    | true =>
      rcases fair_number ordered (fairly numbered) with ⟨taken, _, later⟩ | ⟨dropped, _⟩
      · rw [← expand_hdr_number call numbered] at taken
        rw [taken]
        rw [taken] at full
        refine ⟨_, handle_payload_takes found checked taken (full rfl), ?_⟩
        rw [expand_hdr_number call numbered]
        exact later
      · rw [← expand_hdr_number call numbered] at dropped
        rw [dropped, handle_payload_drops found (.inr dropped)]
        exact ⟨_, congrArg (Option.map _) found, ordered⟩
    | false =>
      have taken : payloadSequence (expandHdr buffer call).Ns call = some call.dataRecSeqNum := by
        rw [expand_hdr_unnumbered call numbered, payload_sequence_same call (apart numbered)]
      rw [taken] at full
      exact ⟨_, handle_payload_takes found checked taken (full rfl), ordered⟩

theorem Flow.run_sound (flow : Flow) (before after : List Traffic) (sound : flow.Sound t c)
    (fairly : flow.fairRun env t c (before ++ after) = true) :
    (flow.run env t c before).Sound t c ∧
      (flow.run env t c before).fairRun env t c after = true := by
  induction before generalizing flow with
  | nil => exact ⟨sound, fairly⟩
  | cons first before induction =>
    cases first with
    | sent packet => exact induction _ (Flow.sent_sound sound) fairly
    | arrived buffer =>
      obtain ⟨fair, later⟩ := Bool.and_eq_true_iff.mp fairly
      exact induction _ (Flow.step_sound sound fair) later

end Runs

theorem sequenced_payloads (env : Env) (t : TunnelRef) (c : CallId) (state : Daemon)
    (traffic : List Traffic) (start : state.counter t c = some 0)
    (fairly : (Flow.mk state []).fairRun env t c traffic = true) :
    (∀ before buffer after, traffic = before ++ .arrived buffer :: after →
      checkPayload buffer = true → buffer.numbered = true →
        ((Flow.mk state []).run env t c before).Right t c buffer) ∧
    ((Flow.mk state []).run env t c traffic).delivered.Pairwise
      fun later earlier => Precedes earlier later := by
  have sound : (Flow.mk state []).Sound t c := ⟨0, start, ordered_start⟩
  constructor
  · intro before buffer after split checked numbered
    rw [split] at fairly
    obtain ⟨earlier, rest⟩ := Flow.run_sound (Flow.mk state []) before _ sound fairly
    obtain ⟨fair, _⟩ := Bool.and_eq_true_iff.mp rest
    exact Flow.right earlier fair checked numbered
  · rw [← List.append_nil traffic] at fairly
    obtain ⟨_, _, ordered⟩ := (Flow.run_sound (Flow.mk state []) traffic [] sound fairly).1
    exact ordered.order

/-- A packet of one octet with a number. -/
def sampleNumbered (ns : UInt8) : RecvBuf := ⟨[2, 8, 7, 0, 9, 0, ns, 0, 0, 0, 0x41], 11⟩

/-- A repeated number is delivered again, three lost packets stop the call, and our own counter's
number is always delivered. -/
theorem sequenced_payloads_fail :
    let env := sampleEnv (fun _ _ => none) 5
    let run := (Flow.mk sampleOpen []).run env 1 (.call 3)
    ¬ (run [.sent [0x41], .sent [0x41], .sent [0x41], .arrived (sampleNumbered 1)]).Right 1 (.call 3)
        (sampleNumbered 1) ∧
      ¬ (run [.arrived (sampleNumbered 1)]).Right 1 (.call 3) (sampleNumbered 4) ∧
      ¬ (run [.sent [0x41], .sent [0x41], .arrived (sampleNumbered 1),
        .arrived (sampleNumbered 2)]).Right 1 (.call 3) (sampleNumbered 2) := by
  decide +kernel

def sampleTraffic : List Traffic :=
  [.sent [0x41], .arrived (sampleNumbered 0), .arrived (sampleNumbered 2),
    .arrived (sampleNumbered 0), .arrived (sampleNumbered 3)]

theorem sequenced_payloads_sample :
    let env := sampleEnv (fun _ _ => none) 5
    let last := (Flow.mk sampleOpen []).run env 1 (.call 3) sampleTraffic
    (Flow.mk sampleOpen []).fairRun env 1 (.call 3) sampleTraffic = true ∧
      last.delivered = [3, 2, 0] ∧
      last.delivered.Pairwise fun later earlier => Precedes earlier later :=
  ⟨by decide +kernel, by decide +kernel,
    (sequenced_payloads (sampleEnv (fun _ _ => none) 5) 1 (.call 3) sampleOpen sampleTraffic
      (by decide) (by decide +kernel)).2⟩

end Xl2tpd
