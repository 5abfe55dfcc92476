import Xl2tpd.Hiding
import Xl2tpd.Packet

/-!
# The expansion of a payload header in place

`expand_payload` writes the full header in front of the octets of the packet, over the header
it reads.
-/

namespace Xl2tpd

set_option autoImplicit false

/-! ## Words in memory -/

/-- A `_u16` load, on a little-endian host. -/
def load (memory : Nat → UInt8) (place : Nat) : UInt16 := word (memory (place + 1)) (memory place)

def store (memory : Nat → UInt8) (place : Nat) (value : UInt16) (other : Nat) : UInt8 :=
  if other = place then UInt8.ofNat (value.toNat % 256)
  else if other = place + 1 then UInt8.ofNat (value.toNat / 256)
  else memory other

section Words

variable (memory : Nat → UInt8) {place other : Nat} (value : UInt16)

theorem load_store (place : Nat) : load (store memory place value) place = value := by
  simp [load, store, word_net_bytes]

theorem load_apart (apart : place + 2 ≤ other ∨ other + 2 ≤ place) :
    load (store memory place value) other = load memory other := by
  unfold load store
  simp only [show ¬ other = place by omega, show ¬ other = place + 1 by omega,
    show ¬ other + 1 = place by omega, show ¬ other + 1 = place + 1 by omega, if_false]

theorem store_apart (apart : other < place ∨ place + 2 ≤ other) :
    store memory place value other = memory other := by
  unfold store
  rw [if_neg (by omega), if_neg (by omega)]

theorem store_swap (second : UInt16) (apart : place + 2 ≤ other) :
    store (store memory other second) place value =
      store (store memory place value) other second := by
  funext octet
  unfold store
  split_ifs <;> first | rfl | omega

end Words

/-! ## `expand_payload` -/

/-- The octets that are missing from a full header. -/
def missing (ver : UInt16) : Nat :=
  (if clbit ver then 0 else 2) + (if cfbit ver then 0 else 4) + (if psbit ver then 0 else 2)

/-- The header behind the version, from the words at `r` on; the flags are those of the new
header. -/
def fillHeader (call : Call) (length : UInt16) (r newHdr : Nat) (memory : Nat → UInt8) :
    Nat → UInt8 :=
  let ver := load memory newHdr
  let (r, memory) :=
    if clbit ver then (r + 2, store memory (newHdr + 2) (load memory (r + 2)))
    else (r, store memory (newHdr + 2) length)
  let r := r + 2
  let memory := store memory (newHdr + 4) (load memory r)
  let r := r + 2
  let memory := store memory (newHdr + 6) (load memory r)
  let ver := load memory newHdr
  let (r, memory) :=
    if cfbit ver then
      let memory := store memory (newHdr + 8) (load memory (r + 2))
      (r + 4, store memory (newHdr + 10) (load memory (r + 4)))
    else
      let memory := store memory (newHdr + 10) call.dataSeqNum
      (r, store memory (newHdr + 8) call.dataRecSeqNum)
  if psbit (load memory newHdr) then store memory (newHdr + 12) (load memory (r + 2))
  else store memory (newHdr + 12) 0

/-- The place of the new header and the memory from `rstart` on; nothing without space. -/
def expandInPlace (call : Call) (start len : Nat) (memory : Nat → UInt8) :
    Option (Nat × (Nat → UInt8)) :=
  let ehlen := missing (load memory start)
  if ehlen = 0 then some (start, memory)
  else if start < ehlen then none
  else
    let newHdr := start - ehlen
    some (newHdr, fillHeader call (UInt16.ofNat (len + ehlen)) start newHdr
      (store memory newHdr (load memory start)))

/-- The words of the full header of a packet: its own, or those that are filled in. -/
structure FullHdr where
  ver : UInt16
  length : UInt16
  tid : UInt16
  cid : UInt16
  Ns : UInt16
  Nr : UInt16
  oSize : UInt16
  deriving DecidableEq, Repr

def fullHdr (call : Call) (start len : Nat) (memory : Nat → UInt8) : FullHdr :=
  let ver := load memory start
  let ids := if clbit ver then start + 4 else start + 2
  { ver := ver
    length := if clbit ver then load memory (start + 2) else UInt16.ofNat (len + missing ver)
    tid := load memory ids
    cid := load memory (ids + 2)
    Ns := if cfbit ver then load memory (ids + 4) else call.dataRecSeqNum
    Nr := if cfbit ver then load memory (ids + 6) else call.dataSeqNum
    oSize := if psbit ver then load memory (if cfbit ver then ids + 8 else ids + 4) else 0 }

def storeHdr (header : FullHdr) (newHdr : Nat) (memory : Nat → UInt8) : Nat → UInt8 :=
  let memory := store memory newHdr header.ver
  let memory := store memory (newHdr + 2) header.length
  let memory := store memory (newHdr + 4) header.tid
  let memory := store memory (newHdr + 6) header.cid
  let memory := store memory (newHdr + 8) header.Ns
  let memory := store memory (newHdr + 10) header.Nr
  store memory (newHdr + 12) header.oSize

def loadHdr (memory : Nat → UInt8) (newHdr : Nat) : FullHdr :=
  ⟨load memory newHdr, load memory (newHdr + 2), load memory (newHdr + 4), load memory (newHdr + 6),
    load memory (newHdr + 8), load memory (newHdr + 10), load memory (newHdr + 12)⟩

theorem loadHdr_storeHdr (header : FullHdr) (newHdr : Nat) (memory : Nat → UInt8) :
    loadHdr (storeHdr header newHdr memory) newHdr = header := by
  simp (disch := omega) only [loadHdr, storeHdr, load_store, load_apart]

theorem storeHdr_others (header : FullHdr) {newHdr place : Nat} (memory : Nat → UInt8)
    (outside : place < newHdr ∨ newHdr + payloadHdrSize ≤ place) :
    storeHdr header newHdr memory place = memory place := by
  simp only [payloadHdrSize] at outside
  simp (disch := omega) only [storeHdr, store_apart]

/-- Each word is read before its place is written to, whatever is missing. -/
theorem fillHeader_eq (call : Call) (len newHdr : Nat) (memory : Nat → UInt8) {size : Nat}
    (absent : missing (load memory (newHdr + size)) = size) :
    fillHeader call (UInt16.ofNat (len + size)) (newHdr + size) newHdr
        (store memory newHdr (load memory (newHdr + size))) =
      storeHdr (fullHdr call (newHdr + size) len memory) newHdr memory := by
  have numbers (before : Nat → UInt8) :
      store (store before (newHdr + 10) call.dataSeqNum) (newHdr + 8) call.dataRecSeqNum =
        store (store before (newHdr + 8) call.dataRecSeqNum) (newHdr + 10) call.dataSeqNum :=
    store_swap before _ _ (by omega)
  have kept := absent
  unfold missing at absent
  dsimp only [fullHdr]
  rw [kept]
  cases l : clbit (load memory (newHdr + size)) <;>
    cases f : cfbit (load memory (newHdr + size)) <;>
    cases o : psbit (load memory (newHdr + size)) <;>
    simp only [l, f, o, if_true, if_false, Bool.false_eq_true, Nat.reduceAdd] at absent
  all_goals
    subst absent
    simp (disch := omega) only [fillHeader, storeHdr, l, f, o, load_store, load_apart, numbers,
      if_true, if_false, Bool.false_eq_true, Nat.add_assoc, Nat.reduceAdd]

theorem fullHdr_complete (call : Call) {start : Nat} (len : Nat) {memory : Nat → UInt8}
    (complete : missing (load memory start) = 0) :
    loadHdr memory start = fullHdr call start len memory := by
  unfold missing at complete
  cases l : clbit (load memory start) <;> cases f : cfbit (load memory start) <;>
    cases o : psbit (load memory start) <;> simp [l, f, o] at complete
  simp only [loadHdr, fullHdr, l, f, o, if_true]

theorem expandHdr_full (buffer : RecvBuf) (call : Call) {start : Nat} {memory : Nat → UInt8}
    (placed : ∀ offset, buffer.bytes.getD offset 0 = memory (start + offset)) :
    expandHdr buffer call =
      ⟨(fullHdr call start buffer.len memory).Ns, (fullHdr call start buffer.len memory).Nr,
        (fullHdr call start buffer.len memory).oSize, missing (load memory start)⟩ := by
  have words (offset : Nat) : hostWord buffer.bytes offset = load memory (start + offset) := by
    rw [hostWord, placed, placed]
    rfl
  simp only [expandHdr, fullHdr, words, missing, Nat.add_zero]
  cases clbit (load memory start) <;> cases cfbit (load memory start) <;> rfl

/-- The full header stands right in front of the payload, and nothing else is changed. -/
theorem header_expanded (call : Call) (start len : Nat) (memory : Nat → UInt8)
    (space : payloadBuf ≤ start) :
    ∃ newHdr after, expandInPlace call start len memory = some (newHdr, after) ∧
      newHdr = start - missing (load memory start) ∧
      loadHdr after newHdr = fullHdr call start len memory ∧
      (∀ place, place < newHdr ∨ newHdr + payloadHdrSize ≤ place → after place = memory place) ∧
      newHdr + payloadHdrSize = start + (minPayloadHdrLen +
        (if clbit (load memory start) then 2 else 0) +
        (if cfbit (load memory start) then 4 else 0) +
        if psbit (load memory start) then 2 else 0) := by
  have sizes : missing (load memory start) ≤ 8 ∧
      payloadHdrSize = missing (load memory start) + (minPayloadHdrLen +
        (if clbit (load memory start) then 2 else 0) +
        (if cfbit (load memory start) then 4 else 0) +
        if psbit (load memory start) then 2 else 0) := by
    unfold missing
    split <;> split <;> split <;> decide
  simp only [payloadBuf] at space
  unfold expandInPlace
  by_cases complete : missing (load memory start) = 0
  · refine ⟨start, memory, if_pos complete, by omega, fullHdr_complete call len complete,
      fun _ _ => rfl, by omega⟩
  · obtain ⟨newHdr, place⟩ := Nat.exists_eq_add_of_le'
      (show missing (load memory start) ≤ start by omega)
    refine ⟨newHdr, storeHdr (fullHdr call start len memory) newHdr memory, ?_, by omega,
      loadHdr_storeHdr _ _ _, fun _ => storeHdr_others _ memory, by omega⟩
    have distance : start - missing (load memory start) = newHdr := by omega
    have absent : missing (load memory (newHdr + missing (load memory start))) =
        missing (load memory start) := by
      rw [← place]
    have filled := fillHeader_eq call len newHdr memory absent
    rw [← place] at filled
    rw [if_neg complete, if_neg (by omega), distance, ← filled]

def sampleMemory (place : Nat) : UInt8 :=
  ([0, 0, 0, 0, 0, 0, 0, 0, 0, 0, 2, 0, 7, 0, 9, 0, 0x41] : Bytes).getD place 0

theorem header_expanded_plain :
    ∃ newHdr after,
      expandInPlace { ref := 1, dataSeqNum := 3, dataRecSeqNum := 4 } 10 7 sampleMemory =
        some (newHdr, after) ∧
      loadHdr after newHdr = ⟨2, 15, 7, 9, 4, 3, 0⟩ ∧ newHdr + payloadHdrSize = 16 := by
  obtain ⟨newHdr, after, ran, _, header, _, behind⟩ :=
    header_expanded { ref := 1, dataSeqNum := 3, dataRecSeqNum := 4 } 10 7 sampleMemory (by decide)
  exact ⟨newHdr, after, ran, header.trans (by decide), behind.trans (by decide)⟩

/-- What `expand_payload` leaves in the memory is the header that the daemon goes on with. -/
theorem expansion_refines {buffer : RecvBuf} {call : Call} {start newHdr : Nat}
    {memory after : Nat → UInt8}
    (placed : ∀ offset, buffer.bytes.getD offset 0 = memory (start + offset))
    (ran : expandInPlace call start buffer.len memory = some (newHdr, after)) :
    expandHdr buffer call = ⟨(loadHdr after newHdr).Ns, (loadHdr after newHdr).Nr,
      (loadHdr after newHdr).oSize, start - newHdr⟩ := by
  rw [expandHdr_full buffer call placed]
  unfold expandInPlace at ran
  dsimp only at ran
  by_cases complete : missing (load memory start) = 0
  · rw [if_pos complete] at ran
    cases ran
    rw [fullHdr_complete call buffer.len complete, complete, Nat.sub_self]
  · rw [if_neg complete] at ran
    split at ran
    · cases ran
    · rename_i enough
      cases ran
      obtain ⟨place, ends⟩ := Nat.exists_eq_add_of_le' (Nat.le_of_not_lt enough)
      have absent : missing (load memory (place + missing (load memory start))) =
          missing (load memory start) := by
        rw [← ends]
      have distance : start - missing (load memory start) = place := by omega
      have filled := fillHeader_eq call buffer.len place memory absent
      rw [← ends] at filled
      rw [distance, filled, loadHdr_storeHdr]
      congr
      omega

theorem expansion_refines_plain :
    ∃ newHdr after, expandInPlace { ref := 1, dataSeqNum := 3, dataRecSeqNum := 4 } 10 7
        sampleMemory = some (newHdr, after) ∧
      expandHdr ⟨[2, 0, 7, 0, 9, 0, 0x41], 7⟩ { ref := 1, dataSeqNum := 3, dataRecSeqNum := 4 } =
        ⟨(loadHdr after newHdr).Ns, (loadHdr after newHdr).Nr, (loadHdr after newHdr).oSize,
          10 - newHdr⟩ := by
  have placed (offset : Nat) :
      ([2, 0, 7, 0, 9, 0, 0x41] : Bytes).getD offset 0 = sampleMemory (10 + offset) := by
    rw [Nat.add_comm]
    rfl
  exact ⟨_, _, rfl, expansion_refines placed rfl⟩

end Xl2tpd
