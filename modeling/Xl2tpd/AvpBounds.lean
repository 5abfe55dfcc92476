import Xl2tpd.Accesses
import Xl2tpd.Hiding
import Xl2tpd.Runs

/-!
# The bounds of AVP parsing

The loop of `handle_avps` swaps the header of an AVP before it knows that six octets are left, and
some handlers read in spite of a failed test of the length.
-/

namespace Xl2tpd

set_option autoImplicit false

open Program

variable {after : Daemon} {length : Nat} {data raw : Bytes} {len : Int} {env : Env}
  {offset count : Nat}

/-! ## The random vector -/

section Vector

variable {t : TunnelRef} {c : CallId} {state : Daemon} {Value Other : Type}

abbrev Still (t : TunnelRef) (program : Prog Value) (state : Daemon) : Prop :=
  Leads (vectorAt t) Eq program state

theorem Still.ok {program : Prog Value} {value : Value} (still : Still t program state)
    (ran : program state = .ok value after) :
    vectorAt t after = vectorAt t state := by
  have same := leads_eq still
  rw [ran] at same
  exact same

theorem still_reads {program : Prog Value} {next : Value → Prog Other} (reads : Reads program)
    (rest : ∀ value, program state = .ok value state → Still t (next value) state) :
    Still t (program >>= next) state :=
  leads_read (reads state) rest

theorem still_ite {condition : Prop} [Decidable condition] {first second : Prog Value}
    (holds : condition → Still t first state) (fails : ¬ condition → Still t second state) :
    Still t (if condition then first else second) state := by
  split
  · exact holds ‹_›
  · exact fails ‹_›

theorem still_writeTunnel {change : Tunnel → Tunnel}
    (keeps : ∀ tunnel, (change tunnel).ref = tunnel.ref ∧
      (change tunnel).chalUs.vector = tunnel.chalUs.vector) :
    Still t (writeTunnel t change) state := by
  refine still_reads (reads_deref _) fun tunnel _ => leads_of_view_eq ?_
  change vectorAt t (state.setTunnel t change) = vectorAt t state
  unfold vectorAt
  rw [tunnel_setTunnel fun tunnel => (keeps tunnel).1]
  cases state.tunnel? t with
  | none => rfl
  | some tunnel => exact (keeps tunnel).2

theorem still_writeCall {change : Call → Call} : Still t (writeCall t c change) state := by
  refine still_reads (reads_deref _) fun call _ => leads_of_view_eq ?_
  change vectorAt t (state.setCall t c change) = vectorAt t state
  unfold vectorAt Daemon.setCall
  rw [tunnel_setTunnel fun tunnel => tunnel.setCall_ref c change]
  cases state.tunnel? t with
  | none => rfl
  | some tunnel => cases c <;> rfl

theorem still_refuse {field : String} {expected found : Nat} {least : Bool} :
    Still t (wrongLength t c field expected found least >>= fun _ => pure false) state :=
  leads_bind still_writeCall fun _ _ _ => leads_pure _

theorem still_writeHead {change : Call → Call} : Still t (writeHead t change) state := by
  refine leads_bind ?_ fun _ _ _ => still_writeCall
  refine still_reads (reads_deref _) fun tunnel _ => ?_
  refine leads_bind (leads_of_view_eq ?_) fun _ _ _ => leads_pure _
  cases tunnel.calls.head? <;> rfl

def Steady (handler : Handler) : Prop :=
  ∀ state t c data datalen, Still t (handler t c data datalen) state

theorem storeAvp_steady {appropriate : List MsgType} {field : String} {size : Nat} {least : Bool}
    {store : TunnelRef → CallId → Bytes → Nat → Prog Unit}
    (stores : ∀ state t c data datalen, Still t (store t c data datalen) state) :
    Steady (storeAvp appropriate field size least store) := by
  intro state t c data datalen
  refine still_reads (reads_deref _) fun call _ => ?_
  refine still_ite (fun _ => leads_pure _) fun _ => still_ite (fun _ => still_refuse) fun _ => ?_
  exact leads_bind (stores _ _ _ _ _) fun _ _ _ => leads_pure _

theorem messageTypeAvp_steady : Steady (messageTypeAvp env) := by
  intro state t c data datalen
  refine leads_bind still_writeCall fun _ typed _ => ?_
  refine still_ite (fun _ => still_refuse) fun _ => ?_
  refine still_reads (reads_deref _) fun tunnel _ => still_reads (reads_deref _) fun call _ => ?_
  refine still_ite (fun _ => leads_pure _) fun _ => still_ite (fun _ => ?_) fun _ => leads_pure _
  refine leads_bind (leads_of_view_eq rfl) fun call _ _ => ?_
  exact leads_bind (still_writeTunnel fun _ => ⟨rfl, rfl⟩) fun _ _ _ => leads_pure _

theorem resultCodeAvp_steady : Steady resultCodeAvp := by
  intro state t c data datalen
  refine still_ite (fun _ => still_refuse) fun _ => still_reads (reads_deref _) fun call _ => ?_
  refine still_ite (fun _ => leads_pure _) fun _ => still_ite (fun _ => leads_pure _) fun _ => ?_
  refine still_ite (fun _ => leads_pure _) fun _ => ?_
  exact leads_bind still_writeCall fun _ _ _ => leads_pure _

theorem seqReqdAvp_steady : Steady seqReqdAvp := by
  intro state t c data datalen
  refine still_ite (fun _ => still_refuse) fun _ => still_reads (reads_deref _) fun call _ => ?_
  refine still_ite (fun _ => leads_pure _) fun _ => ?_
  exact leads_bind still_writeCall fun _ _ _ => leads_pure _

theorem chalrespAvp_steady : Steady chalrespAvp := by
  intro state t c data datalen
  refine still_reads (reads_deref _) fun call _ => ?_
  refine still_ite (fun _ => leads_pure _) fun _ => still_ite (fun _ => still_refuse) fun _ => ?_
  refine still_ite (fun _ => leads_pure _) fun _ => ?_
  exact leads_bind (still_writeTunnel fun _ => ⟨rfl, rfl⟩) fun _ _ _ => leads_pure _

theorem callSernoAvp_steady : Steady callSernoAvp := by
  intro state t c data datalen
  refine still_reads (reads_deref _) fun call _ => still_ite (fun _ => leads_pure _) fun _ => ?_
  exact leads_bind still_writeHead fun _ _ _ => leads_pure _

theorem assignedTunnelAvp_steady : Steady assignedTunnelAvp := by
  refine storeAvp_steady fun state t c data datalen => ?_
  refine still_reads (reads_deref _) fun call _ => still_writeTunnel fun tunnel => ?_
  split <;> exact ⟨rfl, rfl⟩

theorem assignedCallAvp_steady : Steady assignedCallAvp := by
  refine storeAvp_steady fun state t c data datalen => ?_
  refine still_reads (reads_deref _) fun call _ => ?_
  split
  · exact still_writeCall
  · exact still_writeHead
  · exact still_writeCall

theorem avpHandler_steady {attr : Nat} {handler : Handler}
    (listed : avpHandler env attr = some handler) (other : attr ≠ 36) : Steady handler := by
  unfold avpHandler at listed
  split at listed <;> cases listed
  · exact messageTypeAvp_steady
  · exact resultCodeAvp_steady
  · exact fun _ _ _ _ _ => still_ite (fun _ => still_refuse) fun _ => leads_pure _
  iterate 5 on_goal 1 =>
    exact storeAvp_steady fun _ _ _ _ _ => still_writeTunnel fun _ => ⟨rfl, rfl⟩
  · exact assignedTunnelAvp_steady
  · exact storeAvp_steady fun _ _ _ _ _ => still_writeTunnel fun _ => ⟨rfl, rfl⟩
  · exact storeAvp_steady fun _ _ _ _ _ => still_writeTunnel fun _ => ⟨rfl, rfl⟩
  · exact chalrespAvp_steady
  · exact assignedCallAvp_steady
  · exact callSernoAvp_steady
  · exact storeAvp_steady fun _ _ _ _ _ => still_writeHead
  · exact storeAvp_steady fun _ _ _ _ _ => still_writeCall
  · exact storeAvp_steady fun _ _ _ _ _ => still_writeCall
  iterate 3 on_goal 1 => exact storeAvp_steady fun _ _ _ _ _ => still_writeHead
  · exact storeAvp_steady fun _ _ _ _ _ => still_writeCall
  · exact storeAvp_steady fun _ _ _ _ _ => still_writeHead
  iterate 6 on_goal 1 => exact fun _ _ _ _ _ => leads_pure _
  · exact absurd rfl other
  · exact storeAvp_steady fun _ _ _ _ _ => still_writeCall
  · exact seqReqdAvp_steady

end Vector

/-! ## The AVP that a handler gets -/

theorem alength_mod (length : UInt16) : alength length = length.toNat % 1024 := by
  have mask : (0x03FF : UInt16).toNat = 2 ^ 10 - 1 := rfl
  rw [alength, UInt16.toNat_and, mask, Nat.and_two_pow_sub_one_eq_mod]

/-- Without reserved bits the twelve bits of `decrypt_avp` are the ten of `ALENGTH`. -/
theorem olen_alength {length : UInt16} (clear : azbits length = false) :
    (length &&& 0x0FFF).toNat = alength length := by
  have reserved : length &&& 0x3C00 = 0 := by
    simpa [azbits] using clear
  have upper : length &&& 0x0C00 = 0 := by
    have split : (0x0C00 : UInt16) = 0x3C00 &&& 0x0C00 := rfl
    rw [split, ← UInt16.and_assoc, reserved]
    exact UInt16.zero_and
  have masks : (0x0FFF : UInt16) = 0x03FF ||| 0x0C00 := rfl
  have joined : length &&& 0x0FFF = length &&& 0x03FF := by
    rw [masks, UInt16.and_comm length, word_or_and, UInt16.and_comm _ length,
      UInt16.and_comm _ length, upper, UInt16.or_zero]
  rw [joined, alength]

theorem alength_flags {flags : UInt16} (short : length ≤ 1023) :
    alength (UInt16.ofNat length ||| (flags &&& 0xB000)) = length := by
  have none : flags &&& 0xB000 &&& 0x03FF = 0 := by
    rw [UInt16.and_assoc]
    exact UInt16.and_zero
  rw [alength, word_or_and, length_low length short, none, UInt16.or_zero, UInt16.toNat_ofNat']
  omega

/-- A decrypted AVP has its attribute still, and lies in the hidden one, two octets on. -/
theorem decryptAvp_shape {chal : Challenge} {plain : Bytes}
    (clear : azbits (hostWord data 0) = false) (decrypted : decryptAvp env chal data = some plain) :
    chal.vector.isSome = true ∧ hostWord plain 4 = hostWord data 4 ∧
      6 ≤ alength (hostWord plain 0) ∧
      alength (hostWord plain 0) + 2 ≤ alength (hostWord data 0) := by
  unfold decryptAvp at decrypted
  cases known : chal.vector with
  | none =>
    rw [known] at decrypted
    cases decrypted
  | some vector =>
    simp only [known, olen_alength clear] at decrypted
    split at decrypted
    · cases decrypted
    · rename_i fits
      have bound := alength_mod (hostWord data 0)
      cases decrypted
      rw [List.append_assoc, List.append_assoc, List.append_assoc, host_word_zero,
        host_word_succ, host_word_succ, host_word_zero, alength_flags (by omega)]
      refine ⟨rfl, rfl, ?_, ?_⟩ <;> omega

theorem decryptSegments_length (env : Env) (secret digest cipher : Bytes) (fuel : Nat)
    (wide : digest.length = mdSigSize) (enough : cipher.length ≤ fuel) :
    (decryptSegments env secret fuel digest cipher).length = cipher.length := by
  rw [← decrypt_octets_segments env secret fuel digest (List.replicate mdSigSize 0) cipher wide
    List.length_replicate enough]
  exact decrypt_octets_length _ _ _ _ _ _

theorem decryptAvp_rest {chal : Challenge} {plain : Bytes}
    (clear : azbits (hostWord data 0) = false) (decrypted : decryptAvp env chal data = some plain) :
    plain.drop (alength (hostWord data 0) - 2) = data.drop (alength (hostWord data 0)) := by
  unfold decryptAvp at decrypted
  cases known : chal.vector with
  | none =>
    rw [known] at decrypted
    cases decrypted
  | some vector =>
    simp only [known, olen_alength clear] at decrypted
    split at decrypted
    · cases decrypted
    · rename_i fits
      have size := decryptSegments_length env chal.secret
        (List.ofFn (env.md5 (netBytes (hostWord data 4) ++ chal.secret ++ vector)))
        ((data.take (alength (hostWord data 0))).drop 6) (alength (hostWord data 0))
        (by simp [mdSigSize]) (by rw [List.length_drop, List.length_take]; omega)
      generalize decryptSegments env chal.secret (alength (hostWord data 0)) _ _ = inner
        at size decrypted fits
      rw [List.length_drop, List.length_take] at size
      cases decrypted
      have header : (hostBytes (UInt16.ofNat ((netWord inner 0).toNat + 6) |||
          hostWord data 0 &&& 0xB000) ++ hostBytes (hostWord data 2) ++
          hostBytes (hostWord data 4)).length = 6 := rfl
      by_cases whole : alength (hostWord data 0) ≤ data.length
      · have front := List.length_drop (i := 2) (l := inner)
        rw [List.drop_append_of_le_length (by rw [List.length_append, header, front]; omega)]
        rw [List.drop_of_length_le (by rw [List.length_append, header, front]; omega)]
        rfl
      · rw [List.drop_of_length_le (l := data) (by omega)]
        refine List.drop_of_length_le ?_
        rw [List.append_nil, List.length_append, header, List.length_drop]
        omega

theorem Round.taken_iff {round : Round} : round.taken = true ↔
    round.attr ≤ avpMax ∧ (alength round.length : Int) ≤ round.len ∧
      ¬ (round.attr ≠ 0 ∧ round.first = true) ∧ 6 ≤ alength round.length ∧
      azbits round.length = false := by
  unfold Round.taken
  simp only [Bool.and_eq_true, decide_eq_true_eq, Bool.not_eq_true', Bool.and_eq_false_iff,
    decide_eq_false_iff_not, not_and_or, and_assoc, Bool.not_eq_true, ne_eq, not_not]

structure Given.Fits (given : Given) (size : Nat) : Prop where
  listed : given.attr ≤ avpMax
  header : 6 ≤ given.datalen
  within : given.start + given.datalen ≤ size

theorem Round.given_fits {round : Round} {t : TunnelRef} {size : Nat} {given : Given}
    (left : 0 < round.len) (within : round.len ≤ size)
    (handed : round.given env t size = some given) :
    given.attr = round.attr ∧ given.Fits size := by
  unfold Round.given at handed
  split at handed
  · cases handed
  · rename_i taken
    rw [Bool.not_eq_true', Bool.not_eq_false] at taken
    obtain ⟨listed, short, _, long, clear⟩ := Round.taken_iff.mp taken
    have place : round.start size = size - round.len.toNat := rfl
    split at handed
    · obtain ⟨plain, decrypted, rfl⟩ := Option.map_eq_some_iff.mp handed
      obtain ⟨tunnel, _, decrypted⟩ := Option.bind_eq_some_iff.mp decrypted
      obtain ⟨_, sameAttr, header, inner⟩ := decryptAvp_shape clear decrypted
      have attr : (Given.mk (round.start size + 2) plain).attr = round.attr :=
        congrArg UInt16.toNat sameAttr
      refine ⟨attr, attr ▸ listed, header, ?_⟩
      change round.start size + 2 + alength (hostWord plain 0) ≤ size
      have shorter : alength (hostWord plain 0) + 2 ≤ alength round.length := inner
      omega
    · cases handed
      refine ⟨rfl, listed, long, ?_⟩
      change round.start size + alength round.length ≤ size
      omega

/-! ## Handlers -/

instance (size : Nat) (access : Access) : Decidable (access.inside size) :=
  match access with
  | .octet offset => inferInstanceAs (Decidable (offset < size))
  | .field start datalen offset =>
      inferInstanceAs (Decidable (offset < datalen ∧ start + offset < size))
  | .astray => inferInstanceAs (Decidable False)
  | .avps index => inferInstanceAs (Decidable (index ≤ avpMax))
  | .msgtypes index => inferInstanceAs (Decidable (0 ≤ index ∧ index ≤ maxMsg))

section Handlers

variable {given : Given} {size : Nat} {msgtype : Option MsgType}

theorem Given.octets_inside (fits : given.Fits size) {offsets : List Nat} :
    (∀ access ∈ given.octets offsets, access.inside size) ↔
      ∀ offset ∈ offsets, offset < given.datalen := by
  have within := fits.within
  unfold Given.octets
  rw [List.forall_mem_map]
  refine forall₂_congr fun offset _ => ?_
  change offset < given.datalen ∧ given.start + offset < size ↔ offset < given.datalen
  omega

theorem Given.words_inside (fits : given.Fits size) {indices : List Nat} :
    (∀ access ∈ given.words indices, access.inside size) ↔
      ∀ index ∈ indices, 2 * index + 1 < given.datalen := by
  unfold Given.words
  rw [Given.octets_inside fits]
  simp only [List.mem_flatMap, List.mem_cons, List.not_mem_nil, or_false]
  constructor
  · intro inside index member
    exact inside _ ⟨index, member, .inr rfl⟩
  · rintro inside offset ⟨index, member, rfl | rfl⟩
    · have bound := inside index member
      omega
    · exact inside index member

theorem Given.range_inside (fits : given.Fits size) (short : offset + count ≤ given.datalen) :
    ∀ access ∈ given.octets (List.range' offset count), access.inside size := by
  rw [Given.octets_inside fits]
  intro position member
  rw [List.mem_range'_1] at member
  omega

theorem Given.copied_inside (fits : given.Fits size) (short : offset + count ≤ given.datalen) :
    ∀ access ∈ given.copied offset count, access.inside size :=
  Given.range_inside fits (by omega)

theorem Given.word_inside (fits : given.Fits size) {index : Nat}
    (long : 2 * index + 2 ≤ given.datalen) :
    ∀ access ∈ given.words [index], access.inside size := by
  rw [Given.words_inside fits]
  intro other member
  rw [List.mem_singleton.mp member]
  omega

theorem inside_ite {condition : Prop} [Decidable condition] {first second : List Access}
    (holds : condition → ∀ access ∈ first, access.inside size)
    (fails : ¬ condition → ∀ access ∈ second, access.inside size) :
    ∀ access ∈ (if condition then first else second), access.inside size := by
  by_cases holding : condition
  · rw [if_pos holding]
    exact holds holding
  · rw [if_neg holding]
    exact fails holding

theorem inside_nil : ∀ access ∈ ([] : List Access), access.inside size := by simp

theorem resultReads_inside (fits : given.Fits size) (long : 8 ≤ given.datalen) :
    ∀ access ∈ resultReads msgtype given, access.inside size := by
  unfold resultReads
  rw [List.forall_mem_append]
  refine ⟨Given.word_inside fits long, inside_ite (fun _ => inside_nil) fun _ => ?_⟩
  rw [List.forall_mem_append]
  exact ⟨inside_ite (fun ten => Given.word_inside fits ten) fun _ => inside_nil,
    inside_ite (fun more => Given.copied_inside fits (by omega)) fun _ => inside_nil⟩

theorem textReads_inside (fits : given.Fits size) (msgtype : Option MsgType) :
    ∀ access ∈ textReads msgtype given, access.inside size := by
  have header := fits.header
  unfold textReads
  rw [List.forall_mem_append]
  exact ⟨Given.word_inside fits (by omega), Given.copied_inside fits (by omega)⟩

theorem challengeReads_inside (fits : given.Fits size) (msgtype : Option MsgType) :
    ∀ access ∈ challengeReads msgtype given, access.inside size := by
  have header := fits.header
  unfold challengeReads
  rw [List.forall_mem_append]
  exact ⟨Given.word_inside fits (by omega), Given.range_inside fits (by omega)⟩

theorem chalrespReads_inside (fits : given.Fits size) (msgtype : Option MsgType) :
    ∀ access ∈ chalrespReads msgtype given, access.inside size := by
  have header := fits.header
  unfold chalrespReads
  rw [List.forall_mem_append]
  exact ⟨Given.word_inside fits (by omega),
    inside_ite (fun whole => Given.range_inside fits (by omega)) fun _ => inside_nil⟩

theorem sight_inside (fits : given.Fits size) {attr : Nat} {sight' : Sight}
    (listed : sight attr = some sight') (other : attr ≠ 15)
    (early : sight'.early given.datalen = true) (late : sight'.late given.datalen = true) :
    ∀ access ∈ sight'.reads msgtype given, access.inside size := by
  have three (eight : given.datalen = 8) : ∀ access ∈ wordReads [3] msgtype given,
      access.inside size := (Given.words_inside fits).mpr (by simp [eight])
  have four (ten : given.datalen = 10) : ∀ access ∈ wordReads [4] msgtype given,
      access.inside size := (Given.words_inside fits).mpr (by simp [ten])
  have both (ten : given.datalen = 10) : ∀ access ∈ wordReads [3, 4] msgtype given,
      access.inside size := (Given.words_inside fits).mpr (by simp [ten])
  unfold sight at listed
  split at listed <;> cases listed
  · exact resultReads_inside fits (of_decide_eq_true early)
  · exact three (of_decide_eq_true early)
  · exact four (of_decide_eq_true late)
  · exact four (of_decide_eq_true late)
  · exact three (of_decide_eq_true late)
  · exact textReads_inside fits msgtype
  · exact textReads_inside fits msgtype
  · exact three (of_decide_eq_true late)
  · exact three (of_decide_eq_true late)
  · exact challengeReads_inside fits msgtype
  · exact chalrespReads_inside fits msgtype
  · exact three (of_decide_eq_true late)
  · exact absurd rfl other
  · exact four (of_decide_eq_true late)
  · exact four (of_decide_eq_true late)
  · exact three (of_decide_eq_true late)
  · exact textReads_inside fits msgtype
  · exact textReads_inside fits msgtype
  · exact textReads_inside fits msgtype
  · exact both (of_decide_eq_true late)
  · exact both (of_decide_eq_true late)
  · exact both (of_decide_eq_true late)
  · exact (Given.words_inside fits).mpr (by simp)

theorem msgtypes_inside :
    (Access.msgtypes (msgtypeIndex msgtype)).inside size ↔
      ∃ type, msgtype = some type ∧ type.toNat ≤ maxMsg := by
  cases msgtype with
  | none => simp [Access.inside, msgtypeIndex]
  | some type => simp [Access.inside, msgtypeIndex]

theorem Sight.inside_iff {sight' : Sight} {debug : Bool} :
    (∀ access ∈ sight'.accesses debug msgtype given, access.inside size) ↔
      (sight'.names debug msgtype given.datalen = true →
          ∃ type, msgtype = some type ∧ type.toNat ≤ maxMsg) ∧
        (sight'.early given.datalen = true → (sight'.appropriate.map some).contains msgtype = true →
          sight'.late given.datalen = true →
          ∀ access ∈ sight'.reads msgtype given, access.inside size) := by
  unfold Sight.accesses Sight.names
  cases sight'.early given.datalen with
  | false => simp
  | true =>
    cases (sight'.appropriate.map some).contains msgtype with
    | false =>
      cases debug with
      | false => simp
      | true => simpa using msgtypes_inside
    | true => cases sight'.late given.datalen <;> simp

/-- What an AVP and the message around it must be like, for its handler to stay in bounds. -/
structure Given.Sound (debug : Bool) (msgtype : Option MsgType) (given : Given) : Prop where
  /-- A message type has its two octets. -/
  typed : given.attr = 0 → 8 ≤ given.datalen
  serial : given.attr = 15 → msgtype = some .ICRQ ∨ msgtype = some .OCRQ → 10 ≤ given.datalen
  /-- A message type that is named in the log has a name. -/
  named : ∀ sight', sight given.attr = some sight' →
    sight'.names debug msgtype given.datalen = true →
    ∃ type, msgtype = some type ∧ type.toNat ≤ maxMsg

theorem typeAccesses_inside (fits : given.Fits size) :
    (∀ access ∈ typeAccesses given, access.inside size) ↔ 8 ≤ given.datalen := by
  unfold typeAccesses
  rw [List.forall_mem_append]
  constructor
  · intro inside
    have bound := (Given.words_inside fits).mp inside.1 3 (by simp)
    omega
  · intro long
    refine ⟨Given.word_inside fits long, inside_ite (fun named => ?_) fun _ => inside_nil⟩
    intro access member
    rw [List.mem_singleton.mp member]
    exact ⟨Int.natCast_nonneg _, Int.ofNat_le.mpr named.2⟩

theorem handler_inside_iff (fits : given.Fits size) {debug : Bool} :
    (∀ access ∈ handlerAccesses debug msgtype given, access.inside size) ↔
      given.Sound debug msgtype := by
  cases listed : sight given.attr with
  | some sight' =>
    rw [handlerAccesses_sight listed, Sight.inside_iff]
    by_cases serial : given.attr = 15
    · have isSerial : sight' = { appropriate := [.ICRQ, .OCRQ], reads := wordReads [3, 4] } := by
        rw [serial] at listed
        exact (Option.some.inj listed).symm
      have belongs : (sight'.appropriate.map some).contains msgtype = true ↔
          msgtype = some .ICRQ ∨ msgtype = some .OCRQ := by
        rw [isSerial]
        simp
      have reads : (∀ access ∈ sight'.reads msgtype given, access.inside size) ↔
          10 ≤ given.datalen := by
        rw [isSerial]
        refine (Given.words_inside fits).trans ?_
        simp
        omega
      rw [belongs, reads]
      constructor
      · rintro ⟨named, long⟩
        refine ⟨fun zero => by omega, fun _ here => long ?_ here ?_, ?_⟩
        · rw [isSerial]
        · rw [isSerial]
        · rintro other same
          cases listed.symm.trans same
          exact named
      · intro sound
        exact ⟨sound.named sight' listed, fun _ here _ => sound.serial serial here⟩
    · constructor
      · rintro ⟨named, _⟩
        refine ⟨fun zero => ?_, fun fifteen => absurd fifteen serial, ?_⟩
        · rw [zero] at listed
          cases listed
        · rintro other same
          cases listed.symm.trans same
          exact named
      · intro sound
        exact ⟨sound.named sight' listed,
          fun early _ late => sight_inside fits listed serial early late⟩
  | none =>
    have named : ∀ sight', sight given.attr = some sight' →
        sight'.names debug msgtype given.datalen = true →
        ∃ type, msgtype = some type ∧ type.toNat ≤ maxMsg := by
      intro sight' same
      cases listed.symm.trans same
    have serial : given.attr ≠ 15 := by
      intro fifteen
      rw [fifteen] at listed
      cases listed
    unfold handlerAccesses
    split
    · rename_i zero
      rw [typeAccesses_inside fits]
      exact ⟨fun long => ⟨fun _ => long, fun fifteen => absurd fifteen serial, named⟩,
        fun sound => sound.typed zero⟩
    · rename_i vector
      refine ⟨fun _ => ⟨fun zero => by omega, fun fifteen => absurd fifteen serial, named⟩,
        fun _ => Given.word_inside fits ?_⟩
      have header := fits.header
      omega
    · rename_i zero _
      rw [listed]
      exact ⟨fun _ => ⟨fun isZero => absurd isZero zero,
        fun fifteen => absurd fifteen serial, named⟩, fun _ => inside_nil⟩

end Handlers

/-! ## Rounds -/

section Rounds

variable {env : Env} {debug : Bool} {t : TunnelRef} {c : CallId} {size : Nat} {round : Round}
  {state : Daemon}

/-- The round has the rest of the packet before it, and the random vector lies in the packet. -/
structure Round.Placed (t : TunnelRef) (size : Nat) (round : Round) : Prop where
  within : round.len ≤ size
  vector : ∀ place, round.vector = some place → place.1 + place.2 ≤ size
  known : (vectorAt t round.state).isSome = true → round.vector.isSome = true

/-- What an AVP must be like for its round to stay in bounds. -/
structure Round.Sound (env : Env) (debug : Bool) (t : TunnelRef) (c : CallId) (size : Nat)
    (round : Round) : Prop where
  header : 6 ≤ round.len
  /-- If it can be decrypted, the length of the plain text is there too. -/
  cipher : round.decrypts t = true → 8 ≤ round.len
  handed : ∀ given, round.given env t size = some given → given.Sound debug (round.msgtype t c)

theorem Round.octets_inside (left : 0 < round.len) (placed : round.Placed t size)
    {offsets : List Nat} :
    (∀ access ∈ round.octets size offsets, access.inside size) ↔
      ∀ offset ∈ offsets, (offset : Int) < round.len := by
  have within := placed.within
  unfold Round.octets
  rw [List.forall_mem_map]
  refine forall₂_congr fun offset _ => ?_
  change size - round.len.toNat + offset < size ↔ (offset : Int) < round.len
  omega

theorem Round.range_inside (left : 0 < round.len) (placed : round.Placed t size)
    (short : ((offset + count : Nat) : Int) ≤ round.len) :
    ∀ access ∈ round.octets size (List.range' offset count), access.inside size := by
  rw [Round.octets_inside left placed]
  intro position member
  rw [List.mem_range'_1] at member
  omega

theorem Round.vector_inside (placed : round.Placed t size)
    (known : (vectorAt t round.state).isSome = true) :
    ∀ access ∈ round.vectorOctets, access.inside size := by
  obtain ⟨⟨start, count⟩, found⟩ := Option.isSome_iff_exists.mp (placed.known known)
  have within : start + count ≤ size := placed.vector _ found
  unfold Round.vectorOctets
  rw [found]
  simp only [List.forall_mem_map]
  intro offset member
  rw [List.mem_range'_1] at member
  change offset < size
  omega

theorem Round.decrypt_inside_iff (left : 0 < round.len) (placed : round.Placed t size) :
    (∀ access ∈ round.decryptAccesses env t size, access.inside size) ↔
      (round.decrypts t = true → 8 ≤ round.len) := by
  unfold Round.decryptAccesses
  cases decrypts : round.decrypts t with
  | false => simp
  | true =>
    obtain ⟨taken, known⟩ := (Bool.and_eq_true _ _).mp decrypts
    obtain ⟨_, short, _, long, _⟩ := Round.taken_iff.mp ((Bool.and_eq_true _ _).mp taken).1
    rw [if_pos rfl, List.forall_mem_append, List.forall_mem_append, List.forall_mem_append]
    constructor
    · rintro ⟨⟨_, length⟩, _⟩ _
      have bound := (Round.octets_inside left placed).mp length 7 (by simp)
      omega
    · intro eight
      have room : 8 ≤ round.len := eight rfl
      have plainLength : ∀ access ∈ round.octets size (List.range' 6 2), access.inside size :=
        Round.range_inside left placed room
      exact ⟨⟨⟨Round.vector_inside placed known, Round.range_inside left placed (by omega)⟩,
        plainLength⟩,
        inside_ite (fun _ => Round.range_inside left placed room) fun _ => inside_nil⟩

theorem Round.inside_iff (left : 0 < round.len) (placed : round.Placed t size) :
    (∀ access ∈ round.accesses env debug t c size, access.inside size) ↔
      round.Sound env debug t c size := by
  unfold Round.accesses
  rw [List.forall_mem_append, List.forall_mem_append, Round.octets_inside left placed,
    Round.decrypt_inside_iff left placed]
  have header : (∀ offset ∈ List.range 6, (offset : Int) < round.len) ↔ 6 ≤ round.len := by
    constructor
    · intro inside
      have bound := inside 5 (by simp)
      omega
    · intro room offset member
      have bound := List.mem_range.mp member
      omega
  rw [header]
  cases handed : round.given env t size with
  | none =>
    refine ⟨fun ⟨⟨room, cipher⟩, _⟩ => ⟨room, cipher, ?_⟩,
      fun sound => ⟨⟨sound.header, sound.cipher⟩, inside_nil⟩⟩
    intro given found
    cases handed.symm.trans found
  | some given =>
    obtain ⟨_, fits⟩ := Round.given_fits left placed.within handed
    rw [List.forall_mem_cons, handler_inside_iff fits]
    constructor
    · rintro ⟨⟨room, cipher⟩, _, sound⟩
      refine ⟨room, cipher, ?_⟩
      intro other found
      cases handed.symm.trans found
      exact sound
    · intro sound
      exact ⟨⟨sound.header, sound.cipher⟩, fits.listed, sound.handed given handed⟩

/-! ### From round to round -/

theorem skipAvp_next {len' : Int} (skips : skipAvp data len length = .next raw len') :
    0 < length ∧ raw = data.drop length ∧ len' = len - length := by
  unfold skipAvp at skips
  split at skips
  · cases skips
  · rename_i some
    cases skips
    exact ⟨Nat.pos_of_ne_zero some, rfl, rfl⟩

theorem refuseAvp_next {error : Int} {message : Bytes}
    (ran : refuseAvp t c error message state = .ok (.next raw len) after) : False := by
  obtain ⟨_, _, _, returned⟩ := bind_ok.mp ran
  cases returned

theorem dispatchAvp_next {len' : Int}
    (ran : dispatchAvp env t c data len length state = .ok (.next raw len') after) :
    0 < length ∧ raw = data.drop length ∧ len' = len - length := by
  have skips {last : Daemon} (skipped : (pure (skipAvp data len length) : Prog AvpStep) last =
      .ok (.next raw len') after) : 0 < length ∧ raw = data.drop length ∧ len' = len - length := by
    injection skipped with step
    exact skipAvp_next step
  cases listed : avpHandler env (hostWord data 4).toNat with
  | none =>
    simp only [dispatchAvp, listed] at ran
    split at ran
    · exact (refuseAvp_next ran).elim
    · exact skips ran
  | some handler =>
    simp only [dispatchAvp, listed] at ran
    obtain ⟨success, handled, _, ran⟩ := bind_ok.mp ran
    obtain ⟨_, noted, _, ran⟩ := bind_ok.mp ran
    split at ran
    · obtain ⟨_, _, _, returned⟩ := bind_ok.mp ran
      cases returned
    · exact skips ran

theorem dispatchAvp_still (other : (hostWord data 4).toNat ≠ 36) :
    Still t (dispatchAvp env t c data len length) state := by
  have refuses {error : Int} {message : Bytes} : Still t (refuseAvp t c error message) state :=
    leads_bind still_writeCall fun _ _ _ => leads_pure _
  cases listed : avpHandler env (hostWord data 4).toNat with
  | none =>
    simp only [dispatchAvp, listed]
    exact still_ite (fun _ => refuses) fun _ => leads_pure _
  | some handler =>
    simp only [dispatchAvp, listed]
    refine leads_bind (avpHandler_steady listed other _ _ _ _ _) fun success _ _ => ?_
    refine leads_bind ?_ fun _ _ _ => ?_
    · unfold whenever
      exact still_ite (fun _ => leads_of_view_eq rfl) fun _ => leads_pure _
    · refine still_ite (fun _ => ?_) fun _ => leads_pure _
      exact leads_bind still_writeCall fun _ _ _ => leads_pure _

theorem Round.given_none (passed : ¬ round.taken = true) : round.given env t size = none := by
  unfold Round.given
  rw [if_pos (by simpa using passed)]

theorem alength_sub_two {length : UInt16} (long : 2 ≤ alength length) :
    alength (length - 2) = alength length - 2 := by
  have low := alength_mod length
  have below := length.toNat_lt
  rw [alength_mod, UInt16.toNat_sub_of_le]
  · change (length.toNat - 2) % 1024 = alength length - 2
    omega
  · rw [UInt16.le_iff_toNat_le]
    change 2 ≤ length.toNat
    omega

def Round.run (env : Env) (t : TunnelRef) (c : CallId) (round : Round) :
    EStateM.Result Fault Daemon AvpStep :=
  handleAvp env t c round.first round.raw round.len round.state

/-- How far behind the start of its AVP the handler's one starts. -/
def Round.shift (round : Round) : Nat := if ahbit round.length then 2 else 0

/-- The handler gets the AVP of the round, and what is skipped is the AVP as it stands in the
packet. -/
theorem Round.run_given {given : Given} (handed : round.given env t size = some given) :
    given.start = round.start size + round.shift ∧
      given.data.drop (alength round.length - round.shift) =
        round.data.drop (alength round.length) ∧
      round.run env t c = dispatchAvp env t c given.data (round.len - round.shift)
        (alength round.length - round.shift) round.state := by
  unfold Round.given at handed
  split at handed
  · cases handed
  rename_i taken
  rw [Bool.not_eq_true', Bool.not_eq_false] at taken
  obtain ⟨listed, short, ordered, long, clear⟩ := Round.taken_iff.mp taken
  unfold Round.run handleAvp Round.shift
  rw [if_neg (show ¬ (hostWord (swaps 3 round.raw) 4).toNat > avpMax from Nat.not_lt.mpr listed),
    if_neg (show ¬ (alength (hostWord (swaps 3 round.raw) 0) : Int) > round.len from
      Int.not_lt.mpr short),
    if_neg (show ¬ ((hostWord (swaps 3 round.raw) 4).toNat ≠ 0 ∧ round.first = true) from ordered),
    if_neg (show ¬ alength (hostWord (swaps 3 round.raw) 0) < 6 from Nat.not_lt.mpr long),
    if_neg (show ¬ azbits (hostWord (swaps 3 round.raw) 0) = true from Bool.eq_false_iff.mp clear)]
  split at handed
  · rename_i hidden
    obtain ⟨plain, decrypts, rfl⟩ := Option.map_eq_some_iff.mp handed
    obtain ⟨tunnel, found, decrypted⟩ := Option.bind_eq_some_iff.mp decrypts
    change decryptAvp env tunnel.chalUs (swaps 3 round.raw) = some plain at decrypted
    rw [if_pos hidden, if_pos (show ahbit (hostWord (swaps 3 round.raw) 0) = true from hidden)]
    refine ⟨rfl, decryptAvp_rest clear decrypted, ?_⟩
    rw [bind_run (readTunnel_run found)]
    simp only [decrypted]
    rw [show alength (hostWord (swaps 3 round.raw) 0 - 2) = alength round.length - 2 from
      alength_sub_two (by change 2 ≤ alength round.length; omega)]
    rfl
  · rename_i visible
    cases handed
    rw [if_neg visible, if_neg (show ¬ ahbit (hostWord (swaps 3 round.raw) 0) = true from visible)]
    refine ⟨rfl, rfl, ?_⟩
    rw [Int.natCast_zero, Int.sub_zero]
    rfl

theorem Round.run_none (untaken : round.given env t size = none) :
    round.run env t c = .ok (skipAvp round.data round.len (alength round.length)) round.state ∨
      (∃ error message, round.run env t c = refuseAvp t c error message round.state) ∨
      ∃ fault, round.run env t c = .error fault round.state := by
  have skipped (mandatory : Bool) (error : Int) (message : Bytes) :
      ((if mandatory then refuseAvp t c error message
        else pure (skipAvp round.data round.len (alength round.length)) : Prog AvpStep)
          round.state = .ok (skipAvp round.data round.len (alength round.length)) round.state) ∨
      (∃ error' message', (if mandatory then refuseAvp t c error message
        else pure (skipAvp round.data round.len (alength round.length)) : Prog AvpStep)
          round.state = refuseAvp t c error' message' round.state) := by
    cases mandatory with
    | true => exact .inr ⟨error, message, rfl⟩
    | false => exact .inl rfl
  unfold Round.run handleAvp
  split
  · rcases skipped (ambit round.length) vendorError
      (text "mandatory attribute " ++ decimal round.attr ++ text " cannot be handled")
      with skip | refuse
    · exact .inl skip
    · exact .inr (.inl refuse)
  rename_i listed
  split
  · exact .inr (.inl ⟨_, _, rfl⟩)
  rename_i short
  split
  · exact .inr (.inl ⟨_, _, rfl⟩)
  rename_i ordered
  split
  · exact .inr (.inl ⟨_, _, rfl⟩)
  rename_i long
  split
  · rcases skipped (ambit round.length) errorReserved (text "reserved bits set in AVP")
      with skip | refuse
    · exact .inl skip
    · exact .inr (.inl refuse)
  rename_i clear
  have taken : round.taken = true := Round.taken_iff.mpr
    ⟨Nat.not_lt.mp listed, Int.not_lt.mp short, ordered, Nat.not_lt.mp long,
      Bool.eq_false_iff.mpr clear⟩
  unfold Round.given at untaken
  rw [taken] at untaken
  split
  · rename_i hidden
    have undone : round.plain env t = none := by
      rw [if_neg (by simp), if_pos (show ahbit round.length = true from hidden)] at untaken
      exact Option.map_eq_none_iff.mp untaken
    cases found : round.state.tunnel? t with
    | none =>
      refine .inr (.inr ⟨.freed, ?_⟩)
      exact bind_stuck (deref_stuck found)
    | some tunnel =>
      have kept : decryptAvp env tunnel.chalUs (swaps 3 round.raw) = none := by
        unfold Round.plain at undone
        rw [found] at undone
        exact undone
      rw [bind_run (readTunnel_run found)]
      simp only [kept]
      rcases skipped (ambit round.length) vendorError (text "Invalid Hidden AVP")
        with skip | refuse
      · exact .inl skip
      · exact .inr (.inl refuse)
  · rename_i visible
    rw [if_neg (by simp), if_neg (show ¬ ahbit round.length = true from visible)] at untaken
    cases untaken

/-- A round that goes on is the length of its AVP further, as it stands in the packet. -/
theorem Round.goes_on (ran : round.run env t c = .ok (.next raw len) after) :
    (0 < alength round.length ∧ raw = round.data.drop (alength round.length) ∧
        len = round.len - alength round.length) ∧
      (round.given env t size = none ∧ after = round.state ∨
        ∃ given rest length, round.given env t size = some given ∧
          dispatchAvp env t c given.data rest length round.state = .ok (.next raw len) after) := by
  cases handed : round.given env t size with
  | none =>
    rcases Round.run_none handed with skip | ⟨_, _, refuse⟩ | ⟨_, stop⟩
    · rw [skip] at ran
      injection ran with step state
      exact ⟨skipAvp_next step, .inl ⟨rfl, state.symm⟩⟩
    · rw [refuse] at ran
      exact (refuseAvp_next ran).elim
    · rw [stop] at ran
      cases ran
  | some given =>
    obtain ⟨_, rest, dispatched⟩ := Round.run_given handed
    rw [dispatched] at ran
    obtain ⟨some, moved, shorter⟩ := dispatchAvp_next ran
    refine ⟨⟨by omega, moved.trans rest, by omega⟩, .inr ⟨given, _, _, rfl, ran⟩⟩

theorem Round.placed_next {after : Daemon} (left : 0 < round.len) (placed : round.Placed t size)
    (ran : handleAvp env t c round.first round.raw round.len round.state =
      .ok (.next raw len) after) :
    Round.Placed t size ⟨after, false, raw, len, round.nextVector env t size⟩ := by
  obtain ⟨⟨_, _, shorter⟩, outcome⟩ := Round.goes_on ran
  have within : len ≤ size := by
    have fits := placed.within
    omega
  rcases outcome with ⟨none, rfl⟩ | ⟨given, rest, length, handed, dispatched⟩
  · have same : round.nextVector env t size = round.vector := by
      unfold Round.nextVector
      rw [none]
    rw [same]
    exact ⟨within, placed.vector, placed.known⟩
  · obtain ⟨_, fits⟩ := Round.given_fits left placed.within handed
    by_cases vector : given.attr = 36
    · have moved : round.nextVector env t size = some (given.start + 6, given.datalen - 6) := by
        unfold Round.nextVector
        rw [handed]
        exact if_pos vector
      rw [moved]
      refine ⟨within, ?_, fun _ => rfl⟩
      intro place isPlace
      cases isPlace
      have header := fits.header
      have inner := fits.within
      change given.start + 6 + (given.datalen - 6) ≤ size
      omega
    · have same : round.nextVector env t size = round.vector := by
        unfold Round.nextVector
        rw [handed]
        exact if_neg vector
      rw [same]
      refine ⟨within, placed.vector, fun known => placed.known ?_⟩
      rw [← (dispatchAvp_still vector).ok dispatched]
      exact known

theorem avpRounds_placed {fuel : Nat} {start : Round} (placed : start.Placed t size) :
    ∀ round ∈ avpRounds env t c size fuel start, 0 < round.len ∧ round.Placed t size := by
  induction fuel generalizing start with
  | zero => simp [avpRounds]
  | succ fuel ih =>
    unfold avpRounds
    split
    · simp
    · rename_i left
      have more : 0 < start.len := Int.not_le.mp left
      rw [List.forall_mem_cons]
      refine ⟨⟨more, placed⟩, ?_⟩
      split
      · rename_i raw len after ran
        exact ih (Round.placed_next more placed ran)
      · simp

theorem handleAvps_inside_iff {buffer : RecvBuf} (fresh : vectorAt t state = none) :
    (∀ access ∈ handleAvpsAccesses env debug t c buffer state, access.inside buffer.len) ↔
      ∀ round ∈ handleAvpsRounds env t c buffer state, round.Sound env debug t c buffer.len := by
  have placed : (firstRound buffer state).Placed t buffer.len := by
    refine ⟨by change (buffer.len : Int) - controlHdrSize ≤ buffer.len; omega,
      fun _ none => (nomatch none), fun known => ?_⟩
    change (vectorAt t state).isSome = true at known
    rw [fresh] at known
    cases known
  have rounds : ∀ round ∈ handleAvpsRounds env t c buffer state,
      0 < round.len ∧ round.Placed t buffer.len := avpRounds_placed placed
  unfold handleAvpsAccesses
  rw [List.forall_mem_flatMap]
  refine forall₂_congr fun round member => ?_
  obtain ⟨left, here⟩ := rounds round member
  exact Round.inside_iff left here

end Rounds

/-! ## Packets that pass `check_control` -/

theorem checkControl_vector {buffer : RecvBuf} {t : TunnelRef} {c : CallId}
    {state checked : Daemon} (passes : checkControl buffer t c state = .ok true checked) :
    vectorAt t checked = vectorAt t state := by
  unfold checkControl at passes
  split at passes
  · cases passes
  split at passes
  · cases passes
  obtain ⟨tunnel, _, ran⟩ := ok_readTunnel passes
  split at ran
  · obtain ⟨_, _, _, refused⟩ := bind_ok.mp ran
    cases refused
  · obtain ⟨_, counted, counts, ran⟩ := bind_ok.mp ran
    obtain ⟨_, noted, notes, ran⟩ := bind_ok.mp ran
    injection ran with _ same
    rw [← same, still_writeCall.ok notes]
    refine Still.ok (still_writeTunnel ?_) counts
    exact fun _ => ⟨rfl, rfl⟩

/-- For a packet that has passed `check_control` every access of `handle_avps` is in bounds exactly
when every AVP that the loop comes to is sound. -/
theorem avp_accesses_in_bounds {env : Env} {debug : Bool} {buffer : RecvBuf} {t : TunnelRef}
    {c : CallId} {before checked ready : Daemon} (cleared : vectorAt t before = none)
    (passes : checkControl buffer t c before = .ok true checked)
    (starts : writeCall t c (fun call => { call with msgtype := none }) checked = .ok () ready) :
    (∀ access ∈ handleAvpsAccesses env debug t c buffer (ready.emit (.accepted t buffer.body)),
        access.inside buffer.len) ↔
      ∀ round ∈ handleAvpsRounds env t c buffer (ready.emit (.accepted t buffer.body)),
        round.Sound env debug t c buffer.len := by
  apply handleAvps_inside_iff
  change vectorAt t ready = none
  rw [still_writeCall.ok starts, checkControl_vector passes, cleared]

/-! ### Two packets -/

def sampleReceiver : Daemon :=
  { tunnels := [{ ref := 1, ourtid := 6, peer := ⟨5, 6⟩, self := { ref := 2 } }] }

def stubPacket : RecvBuf := (sampleDatagram 6 0 0 0 [0x80]).buffer

def helloPacket : RecvBuf := (sampleDatagram 6 0 0 0 (addMessageTypeAvp .Hello)).buffer

def sampleStarts (buffer : RecvBuf) : Daemon :=
  (final (writeCall 1 .self (fun call => { call with msgtype := none })
    (final (checkControl buffer 1 .self sampleReceiver)))).emit (.accepted 1 buffer.body)

/-- The header of the AVP is swapped, and five of its six octets are not of the packet. -/
theorem stub_accesses_out_of_bounds :
    returned (checkControl stubPacket 1 .self) sampleReceiver = some true ∧
      ¬ ∀ access ∈ handleAvpsAccesses (sampleEnv (fun _ _ => none) 5) false 1 .self stubPacket
          (sampleStarts stubPacket), access.inside stubPacket.len := by
  decide +kernel

theorem hello_accesses_in_bounds :
    (handleAvpsRounds (sampleEnv (fun _ _ => none) 5) 1 .self helloPacket
        (sampleStarts helloPacket)).length = 1 ∧
      ∀ round ∈ handleAvpsRounds (sampleEnv (fun _ _ => none) 5) 1 .self helloPacket
          (sampleStarts helloPacket),
        round.Sound (sampleEnv (fun _ _ => none) 5) true 1 .self helloPacket.len :=
  ⟨by decide +kernel, (avp_accesses_in_bounds rfl
    (returned_ok (by decide +kernel : returned (checkControl helloPacket 1 .self) sampleReceiver =
      some true))
    (returned_ok (by decide +kernel))).mp (by decide +kernel)⟩

end Xl2tpd
