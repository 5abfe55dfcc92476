import Xl2tpd.Runs

/-!
# What `handle_avps` touches

The octets of the buffer and the entries of the tables `avps` and `msgtypes` that `handle_avps`,
`decrypt_avp` and the handlers reach for, round by round of the loop.
-/

namespace Xl2tpd

set_option autoImplicit false

open Program

inductive Access
  /-- An octet, by its distance from `buf->start`. -/
  | octet (offset : Nat)
  /-- An octet of the handler's AVP of `datalen` octets at `start`, by its distance from `data`. -/
  | field (start datalen offset : Nat)
  /-- A random vector that does not lie in this packet. -/
  | astray
  | avps (index : Nat)
  | msgtypes (index : Int)
  deriving DecidableEq, Repr

/-- The access stays in the packet, in the AVP, or in the table: `avps` goes up to `AVP_MAX`,
`msgtypes` up to `MAX_MSG`. -/
def Access.inside (size : Nat) : Access → Prop
  | .octet offset => offset < size
  | .field start datalen offset => offset < datalen ∧ start + offset < size
  | .astray => False
  | .avps index => index ≤ avpMax
  | .msgtypes index => 0 ≤ index ∧ index ≤ maxMsg

/-! ## Handlers -/

/-- An AVP as its handler gets it: where it starts, and the buffer from there on. -/
structure Given where
  start : Nat
  data : Bytes
  deriving Repr

namespace Given

def attr (given : Given) : Nat := (hostWord given.data 4).toNat

def datalen (given : Given) : Nat := alength (hostWord given.data 0)

def octets (given : Given) (offsets : List Nat) : List Access :=
  offsets.map (.field given.start given.datalen)

def words (given : Given) (indices : List Nat) : List Access :=
  given.octets (indices.flatMap fun index => [2 * index, 2 * index + 1])

/-- The source of `safe_copy`, all of it even where `strncpy` stops at a terminator. -/
def copied (given : Given) (offset size : Nat) : List Access :=
  given.octets (List.range' offset (min size maxText))

end Given

/-- `c->msgtype`, an `int`. -/
def msgtypeIndex : Option MsgType → Int
  | none => -1
  | some type => type.toNat

/-- The size a handler asks for before and after it looks at the message type, and what it reads. -/
structure Sight where
  early : Nat → Bool := fun _ => true
  appropriate : List MsgType
  late : Nat → Bool := fun _ => true
  reads : Option MsgType → Given → List Access

def resultReads (msgtype : Option MsgType) (given : Given) : List Access :=
  let result := resultCodeAvp.leWorkaround (avpWord given.data 3).toNat
  given.words [3] ++
    if result < 1 ∨ (if msgtype = some .StopCCN then 7 else 11) < result then []
    else
      (if 10 ≤ given.datalen then given.words [4] else []) ++
        if 10 < given.datalen then given.copied 10 (given.datalen - 10) else []

def wordReads (indices : List Nat) (_ : Option MsgType) (given : Given) : List Access :=
  given.words indices

def textReads (_ : Option MsgType) (given : Given) : List Access :=
  given.words [0] ++ given.copied 6 (given.datalen - 6)

def challengeReads (_ : Option MsgType) (given : Given) : List Access :=
  given.words [0] ++ given.octets (List.range' 6 (given.datalen - 6))

def chalrespReads (_ : Option MsgType) (given : Given) : List Access :=
  given.words [0] ++
    if given.datalen - 6 = mdSigSize then given.octets (List.range' 6 mdSigSize) else []

def sight : Nat → Option Sight
  | 1 => some { early := (8 ≤ ·), appropriate := [.CDN, .StopCCN], reads := resultReads }
  | 2 => some { early := (· = 8), appropriate := [.SCCRP, .SCCRQ], reads := wordReads [3] }
  | 3 => some { appropriate := [.SCCRP, .SCCRQ], late := (· = 10), reads := wordReads [4] }
  | 4 => some { appropriate := [.SCCRP, .SCCRQ], late := (· = 10), reads := wordReads [4] }
  | 6 => some { appropriate := [.SCCRP, .SCCRQ], late := (· = 8), reads := wordReads [3] }
  | 7 => some { appropriate := [.SCCRP, .SCCRQ], late := (6 ≤ ·), reads := textReads }
  | 8 => some { appropriate := [.SCCRP, .SCCRQ], late := (6 ≤ ·), reads := textReads }
  | 9 => some
      { appropriate := [.SCCRP, .SCCRQ, .StopCCN], late := (· = 8), reads := wordReads [3] }
  | 10 => some
      { appropriate := [.SCCRP, .SCCRQ, .OCRP, .OCCN, .StopCCN]
        late := (· = 8)
        reads := wordReads [3] }
  | 11 => some { appropriate := [.SCCRP, .SCCRQ], late := (6 ≤ ·), reads := challengeReads }
  | 13 => some { appropriate := [.SCCRP, .SCCCN], late := (6 ≤ ·), reads := chalrespReads }
  | 14 => some
      { appropriate := [.CDN, .ICRP, .ICRQ, .OCRP], late := (· = 8), reads := wordReads [3] }
  -- Another size than ten is only noted in the log.
  | 15 => some { appropriate := [.ICRQ, .OCRQ], reads := wordReads [3, 4] }
  | 18 => some { appropriate := [.ICRQ, .OCRQ], late := (· = 10), reads := wordReads [4] }
  | 19 => some { appropriate := [.ICCN, .OCRQ, .OCCN], late := (· = 10), reads := wordReads [4] }
  | 20 => some
      { appropriate := [.ICRP, .OCRQ, .ICCN, .OCRP, .OCCN]
        late := (· = 8)
        reads := wordReads [3] }
  | 21 => some { appropriate := [.OCRQ, .ICRQ], late := (6 ≤ ·), reads := textReads }
  | 22 => some { appropriate := [.ICRQ], late := (6 ≤ ·), reads := textReads }
  | 23 => some { appropriate := [.OCRP, .ICRQ], late := (6 ≤ ·), reads := textReads }
  | 24 => some { appropriate := [.ICCN, .OCCN, .OCRP], late := (· = 10), reads := wordReads [3, 4] }
  | 25 => some
      { appropriate := [.ICRQ, .OCRQ, .OCRP, .OCCN], late := (· = 10), reads := wordReads [3, 4] }
  | 38 => some { appropriate := [.ICCN, .OCCN, .OCRP], late := (· = 10), reads := wordReads [3, 4] }
  | 39 => some { early := (· = 6), appropriate := [.ICCN], reads := wordReads [] }
  | _ => none

/-- The handler logs the name of a message type that it does not belong to. -/
def Sight.names (sight : Sight) (debug : Bool) (msgtype : Option MsgType) (datalen : Nat) : Bool :=
  debug && sight.early datalen && !(sight.appropriate.map some).contains msgtype

def Sight.accesses (sight : Sight) (debug : Bool) (msgtype : Option MsgType) (given : Given) :
    List Access :=
  if !sight.early given.datalen then []
  else if !(sight.appropriate.map some).contains msgtype then
    if debug then [.msgtypes (msgtypeIndex msgtype)] else []
  else if !sight.late given.datalen then []
  else sight.reads msgtype given

/-- `message_type_avp` stores the type before it looks at the size; the name is looked up behind the
test against `MAX_MSG`. -/
def typeAccesses (given : Given) : List Access :=
  given.words [3] ++
    if given.datalen = 8 ∧ (avpWord given.data 3).toNat ≤ maxMsg then
      [.msgtypes (avpWord given.data 3).toNat]
    else []

/-- What a handler reaches for; `debug` is the value of `DEBUG`. -/
def handlerAccesses (debug : Bool) (msgtype : Option MsgType) (given : Given) : List Access :=
  match given.attr with
  | 0 => typeAccesses given
  | 36 => given.words [0]
  | attr =>
      match sight attr with
      | some sight => sight.accesses debug msgtype given
      | none => []

theorem handlerAccesses_sight {given : Given} {debug : Bool} {msgtype : Option MsgType}
    {sight' : Sight} (listed : sight given.attr = some sight') :
    handlerAccesses debug msgtype given = sight'.accesses debug msgtype given := by
  unfold handlerAccesses
  split
  · rename_i zero
    rw [zero] at listed
    cases listed
  · rename_i vector
    rw [vector] at listed
    cases listed
  · rw [listed]

/-! ## What a handler does depends on what it reads -/

section Depends

variable {t : TunnelRef} {c : CallId} {state : Daemon} {given other : Given}
  {accesses : List Access}

def Alike (given other : Given) (accesses : List Access) : Prop :=
  given.data.length = other.data.length ∧
    ∀ offset, .field given.start given.datalen offset ∈ accesses →
      given.data.getD offset 0 = other.data.getD offset 0

theorem Alike.mono {fewer : List Access} (alike : Alike given other accesses)
    (sub : fewer ⊆ accesses) : Alike given other fewer :=
  ⟨alike.1, fun offset member => alike.2 offset (sub member)⟩

theorem Alike.left {more : List Access} (alike : Alike given other (accesses ++ more)) :
    Alike given other accesses := alike.mono (List.subset_append_left _ _)

theorem Alike.right {more : List Access} (alike : Alike given other (accesses ++ more)) :
    Alike given other more := alike.mono (List.subset_append_right _ _)

theorem Alike.word {index : Nat} {indices : List Nat}
    (alike : Alike given other (given.words indices)) (member : index ∈ indices) :
    avpWord given.data index = avpWord other.data index := by
  have octet (offset : Nat) (half : offset = 2 * index ∨ offset = 2 * index + 1) :
      given.data.getD offset 0 = other.data.getD offset 0 := by
    refine alike.2 offset (List.mem_map_of_mem (List.mem_flatMap.mpr ⟨index, member, ?_⟩))
    rcases half with rfl | rfl <;> simp
  unfold avpWord netWord
  rw [octet _ (.inl rfl), octet _ (.inr rfl)]

theorem Alike.range {offset count : Nat}
    (alike : Alike given other (given.octets (List.range' offset count))) :
    (given.data.drop offset).take count = (other.data.drop offset).take count := by
  refine List.ext_getElem (by simp [alike.1]) fun position first second => ?_
  have near : position < count := by
    rw [List.length_take] at first
    omega
  have inFirst : offset + position < given.data.length := by
    rw [List.length_take, List.length_drop] at first
    omega
  have same := alike.2 (offset + position)
    (List.mem_map_of_mem (List.mem_range'_1.mpr ⟨by omega, by omega⟩))
  rw [List.getD_eq_getElem _ _ inFirst, List.getD_eq_getElem _ _ (alike.1 ▸ inFirst)] at same
  simpa using same

theorem Alike.text {offset count : Nat} (alike : Alike given other (given.copied offset count)) :
    cString (min count maxText) (given.data.drop offset) =
      cString (min count maxText) (other.data.drop offset) := by
  unfold cString
  rw [Alike.range alike]

abbrev Seen (t : TunnelRef) (c : CallId) (state : Daemon) (given other : Given) : Prop :=
  Alike given other (handlerAccesses false ((state.call? t c).bind Call.msgtype) given)

theorem readCall_depends {Value : Type} {first second : Call → Prog Value}
    (same : ∀ call, state.call? t c = some call → first call state = second call state) :
    (readCall t c >>= first) state = (readCall t c >>= second) state := by
  rw [bind_apply, bind_apply]
  cases ran : readCall t c state with
  | ok call after =>
    obtain ⟨found, rfl⟩ := deref_ok.mp ran
    exact same call found
  | error fault after => rfl

theorem storeAvp_depends {appropriate : List MsgType} {field : String} {size : Nat} {least : Bool}
    {store : TunnelRef → CallId → Bytes → Nat → Prog Unit} {sight' : Sight}
    (listed : sight given.attr = some sight') (seen : Seen t c state given other)
    (belongs : sight'.appropriate = appropriate) (early : sight'.early given.datalen = true)
    (late : sight'.late given.datalen = true ↔
      ¬ if least then given.datalen < size else given.datalen ≠ size)
    (stores : ∀ msgtype, Alike given other (sight'.reads msgtype given) →
      store t c given.data given.datalen = store t c other.data given.datalen) :
    storeAvp appropriate field size least store t c given.data given.datalen state =
      storeAvp appropriate field size least store t c other.data given.datalen state := by
  refine readCall_depends fun call found => ?_
  unfold Seen at seen
  rw [handlerAccesses_sight listed, found, Option.bind_some, Sight.accesses, early, belongs] at seen
  cases here : (appropriate.map some).contains call.msgtype with
  | false => rfl
  | true =>
    by_cases wrong : if least then given.datalen < size else given.datalen ≠ size
    · simp only [Bool.not_true, Bool.false_eq_true, if_false, if_pos wrong]
    · rw [here, late.mpr wrong] at seen
      simp only [Bool.not_true, Bool.false_eq_true, if_false, if_neg wrong]
      rw [stores _ seen]

theorem callSernoAvp_depends (attr : given.attr = 15) (seen : Seen t c state given other) :
    callSernoAvp t c given.data given.datalen state =
      callSernoAvp t c other.data given.datalen state := by
  refine readCall_depends fun call found => ?_
  unfold Seen at seen
  rw [handlerAccesses_sight (by rw [attr]; rfl), found, Option.bind_some] at seen
  split
  · rfl
  · rename_i belongs
    have reads : Alike given other (given.words [3, 4]) := by
      simpa [Sight.accesses, belongs, wordReads] using seen
    have high : avpWord given.data 3 = avpWord other.data 3 := reads.word (by simp)
    have low : avpWord given.data 4 = avpWord other.data 4 := reads.word (by simp)
    simp only [avpLong, high, low]

theorem chalrespAvp_depends (attr : given.attr = 13) (seen : Seen t c state given other) :
    chalrespAvp t c given.data given.datalen state =
      chalrespAvp t c other.data given.datalen state := by
  refine readCall_depends fun call found => ?_
  unfold Seen at seen
  rw [handlerAccesses_sight (by rw [attr]; rfl), found, Option.bind_some] at seen
  split
  · rfl
  · rename_i belongs
    split
    · rfl
    · rename_i long
      split
      · rfl
      · rename_i whole
        have reads : Alike given other (chalrespReads call.msgtype given) := by
          simpa [Sight.accesses, belongs, Nat.not_lt.mp long] using seen
        have octets := reads.right
        rw [if_pos (not_not.mp whole)] at octets
        rw [octets.range]

theorem resultCodeAvp_depends (attr : given.attr = 1) (seen : Seen t c state given other) :
    resultCodeAvp t c given.data given.datalen state =
      resultCodeAvp t c other.data given.datalen state := by
  unfold resultCodeAvp
  split
  · rfl
  · rename_i long
    refine readCall_depends fun call found => ?_
    unfold Seen at seen
    rw [handlerAccesses_sight (by rw [attr]; rfl), found, Option.bind_some] at seen
    split
    · rfl
    · rename_i belongs
      have reads : Alike given other (resultReads call.msgtype given) := by
        simpa [Sight.accesses, belongs, Nat.not_lt.mp long] using seen
      have code : avpWord given.data 3 = avpWord other.data 3 := reads.left.word (by simp)
      have rest := reads.right
      rw [code] at rest ⊢
      generalize resultCodeAvp.leWorkaround (avpWord other.data 3).toNat = result at rest ⊢
      have known : call.msgtype = some .CDN ∨ call.msgtype = some .StopCCN := by tauto
      -- the two ranges of the handler are one, by the type of the message
      by_cases ranged : result < 1 ∨ (if call.msgtype = some .StopCCN then 7 else 11) < result
      · rcases known with type | type <;> simp [type] at ranged <;> simp [type, ranged.symm]
      rw [if_neg ranged] at rest
      have error (ten : 10 ≤ given.datalen) : avpWord given.data 4 = avpWord other.data 4 := by
        have word := rest.left
        rw [if_pos ten] at word
        exact word.word (by simp)
      have message (more : 10 < given.datalen) :
          cString (min (given.datalen - 10) maxText) (given.data.drop 10) =
            cString (min (given.datalen - 10) maxText) (other.data.drop 10) := by
        have copied := rest.right
        rw [if_pos more] at copied
        exact copied.text
      simp +contextual only [error, message, ge_iff_le, gt_iff_lt]

theorem messageTypeAvp_depends {env : Env} (attr : given.attr = 0)
    (seen : Seen t c state given other) :
    messageTypeAvp env t c given.data given.datalen state =
      messageTypeAvp env t c other.data given.datalen state := by
  have isType : handlerAccesses false ((state.call? t c).bind Call.msgtype) given =
      typeAccesses given := by
    unfold handlerAccesses
    rw [attr]
    rfl
  unfold Seen at seen
  rw [isType] at seen
  have type : avpWord given.data 3 = avpWord other.data 3 := seen.left.word (by simp)
  unfold messageTypeAvp
  rw [type]

/-- The lists of accesses are complete: a handler does the same on two buffers that look the
same where it reads. `rand_vector_avp` apart, which keeps a pointer. -/
theorem handler_depends {env : Env} {handler : Handler}
    (listed : avpHandler env given.attr = some handler) (vector : given.attr ≠ 36)
    (seen : Seen t c state given other) :
    handler t c given.data given.datalen state = handler t c other.data given.datalen state := by
  have three (msgtype : Option MsgType) (reads : Alike given other (wordReads [3] msgtype given)) :
      avpWord given.data 3 = avpWord other.data 3 := Alike.word reads (by simp)
  have four (msgtype : Option MsgType) (reads : Alike given other (wordReads [4] msgtype given)) :
      avpWord given.data 4 = avpWord other.data 4 := Alike.word reads (by simp)
  have both (msgtype : Option MsgType)
      (reads : Alike given other (wordReads [3, 4] msgtype given)) :
      avpLong given.data = avpLong other.data := by
    have high : avpWord given.data 3 = avpWord other.data 3 := Alike.word reads (by simp)
    have low : avpWord given.data 4 = avpWord other.data 4 := Alike.word reads (by simp)
    unfold avpLong
    rw [high, low]
  have text (msgtype : Option MsgType) (reads : Alike given other (textReads msgtype given)) :
      avpText given.data given.datalen = avpText other.data given.datalen := Alike.text reads.right
  generalize isAttr : given.attr = attr at listed vector
  unfold avpHandler at listed
  split at listed <;> cases listed
  · exact messageTypeAvp_depends isAttr seen
  · exact resultCodeAvp_depends isAttr seen
  · exact rfl
  on_goal 9 => exact chalrespAvp_depends isAttr seen
  on_goal 10 => exact callSernoAvp_depends isAttr seen
  all_goals first
    | exact absurd rfl vector
    | refine storeAvp_depends (by rw [isAttr]; rfl) seen rfl rfl (by simp) fun msgtype reads => ?_
      first
      | simp only [three msgtype reads]
      | simp only [four msgtype reads]
      | simp only [both msgtype reads]
      | simp only [text msgtype reads]
      | simp only [(Alike.right reads).range]
    | exact rfl

/-- The octets behind a host name are not looked at. -/
theorem hostname_ends : ∃ state : Daemon,
    (state.call? 1 .self).bind Call.msgtype = some .SCCRQ ∧
      hostnameAvp 1 .self [8, 0, 0, 0, 7, 0, 97, 98, 1] 8 state =
        hostnameAvp 1 .self [8, 0, 0, 0, 7, 0, 97, 98, 2] 8 state := by
  have typed : ((final (exec (sampleEnv (fun _ _ => none) 5) (.datagram sampleSccrq)
      (sampleStart false))).call? 1 .self).bind Call.msgtype = some .SCCRQ := by decide +kernel
  refine ⟨_, typed, @handler_depends _ _ _ ⟨0, [8, 0, 0, 0, 7, 0, 97, 98, 1]⟩
    ⟨0, [8, 0, 0, 0, 7, 0, 97, 98, 2]⟩ (sampleEnv (fun _ _ => none) 5) _ rfl (by decide) ?_⟩
  unfold Seen
  rw [typed]
  refine ⟨rfl, fun offset member => ?_⟩
  change .field 0 8 offset ∈ [0, 1, 6, 7].map (Access.field 0 8) at member
  simp only [List.mem_map, Access.field.injEq, true_and, exists_eq_right, List.mem_cons,
    List.not_mem_nil, or_false] at member
  rcases member with rfl | rfl | rfl | rfl <;> rfl

end Depends

/-! ## Rounds -/

/-- A round of `handle_avps`: the state, `firstavp`, the buffer before the header is swapped, the
octets left, and where the random vector lies. -/
structure Round where
  state : Daemon
  first : Bool
  raw : Bytes
  len : Int
  vector : Option (Nat × Nat)

def vectorAt (t : TunnelRef) (state : Daemon) : Option Bytes :=
  (state.tunnel? t).bind fun tunnel => tunnel.chalUs.vector

namespace Round

variable (round : Round)

def data : Bytes := swaps 3 round.raw

def length : UInt16 := hostWord round.data 0

def attr : Nat := (hostWord round.data 4).toNat

def taken : Bool :=
  round.attr ≤ avpMax && alength round.length ≤ round.len && !(round.attr ≠ 0 && round.first) &&
    6 ≤ alength round.length && !azbits round.length

def start (size : Nat) : Nat := size - round.len.toNat

def octets (size : Nat) (offsets : List Nat) : List Access :=
  offsets.map fun offset => .octet (round.start size + offset)

def decrypts (t : TunnelRef) : Bool :=
  round.taken && ahbit round.length && (vectorAt t round.state).isSome

def plain (env : Env) (t : TunnelRef) : Option Bytes :=
  (round.state.tunnel? t).bind fun tunnel => decryptAvp env tunnel.chalUs round.data

/-- The AVP as its handler gets it, two octets further on when it was hidden. -/
def given (env : Env) (t : TunnelRef) (size : Nat) : Option Given :=
  if !round.taken then none
  else if ahbit round.length then
    (round.plain env t).map fun plain => ⟨round.start size + 2, plain⟩
  else some ⟨round.start size, round.data⟩

def vectorOctets : List Access :=
  match round.vector with
  | none => [.astray]
  | some (start, count) => (List.range' start count).map .octet

/-- `decrypt_avp`: the vector, the cipher text, the length in front of the plain text, and
the new header. -/
def decryptAccesses (env : Env) (t : TunnelRef) (size : Nat) : List Access :=
  if round.decrypts t then
    round.vectorOctets ++ round.octets size (List.range' 6 (alength round.length - 6)) ++
      round.octets size [6, 7] ++
      if (round.plain env t).isSome then round.octets size (List.range' 2 6) else []
  else []

def msgtype (t : TunnelRef) (c : CallId) : Option MsgType :=
  (round.state.call? t c).bind Call.msgtype

def accesses (env : Env) (debug : Bool) (t : TunnelRef) (c : CallId) (size : Nat) : List Access :=
  round.octets size (List.range 6) ++ round.decryptAccesses env t size ++
    match round.given env t size with
    | none => []
    | some given => .avps given.attr :: handlerAccesses debug (round.msgtype t c) given

/-- Where the random vector lies after the round: `rand_vector_avp` points into its AVP. -/
def nextVector (env : Env) (t : TunnelRef) (size : Nat) : Option (Nat × Nat) :=
  match round.given env t size with
  | none => round.vector
  | some given =>
      if given.attr = 36 then some (given.start + 6, given.datalen - 6) else round.vector

end Round

def avpRounds (env : Env) (t : TunnelRef) (c : CallId) (size : Nat) : Nat → Round → List Round
  | 0, _ => []
  | fuel + 1, round =>
      if round.len ≤ 0 then []
      else
        round ::
          match handleAvp env t c round.first round.raw round.len round.state with
          | .ok (.next raw len) after =>
              avpRounds env t c size fuel ⟨after, false, raw, len, round.nextVector env t size⟩
          | _ => []

/-- The first round; a vector of an earlier packet is not in this one. -/
def firstRound (buffer : RecvBuf) (state : Daemon) : Round :=
  ⟨state, true, buffer.bytes.drop controlHdrSize, (buffer.len : Int) - controlHdrSize, none⟩

def handleAvpsRounds (env : Env) (t : TunnelRef) (c : CallId) (buffer : RecvBuf) (state : Daemon) :
    List Round :=
  avpRounds env t c buffer.len ((firstRound buffer state).len.toNat + 1) (firstRound buffer state)

def handleAvpsAccesses (env : Env) (debug : Bool) (t : TunnelRef) (c : CallId) (buffer : RecvBuf)
    (state : Daemon) : List Access :=
  (handleAvpsRounds env t c buffer state).flatMap fun round =>
    round.accesses env debug t c buffer.len

/-- A round is one of the loop of the model: from there on the loop has the same outcome. -/
theorem loop_from_round {env : Env} {t : TunnelRef} {c : CallId} {size fuel : Nat}
    {start round : Round} (member : round ∈ avpRounds env t c size fuel start) :
    ∃ rest, handleAvpsLoop env t c fuel start.first start.raw start.len start.state =
      handleAvpsLoop env t c rest round.first round.raw round.len round.state := by
  induction fuel generalizing start with
  | zero => cases member
  | succ fuel ih =>
    unfold avpRounds at member
    split at member
    · cases member
    · rename_i more
      rcases List.mem_cons.mp member with rfl | later
      · exact ⟨fuel + 1, rfl⟩
      · split at later
        · rename_i raw len after ran
          obtain ⟨rest, same⟩ := ih later
          refine ⟨rest, ?_⟩
          rw [handleAvpsLoop, if_neg more, bind_run ran]
          exact same
        · cases later

end Xl2tpd
