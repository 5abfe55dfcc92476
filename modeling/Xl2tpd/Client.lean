import Xl2tpd.Wire

/-!
# The reply to the control client

`read_result` reads until its buffer is full or the pipe has no more, and then stores a zero
behind what it has read. A full buffer has no room for it.
-/

namespace Xl2tpd

set_option autoImplicit false

/-- What one `read` of the result pipe comes to. -/
inductive ReplyRead
  /-- `EINTR`. -/
  | interrupted
  | failed
  /-- Nothing to read, before or after `TIMEOUT`. -/
  | empty (late : Bool)
  | octets (first : UInt8) (rest : Bytes)
  deriving DecidableEq, Repr

def storeInside (buf : Bytes) (offset : Nat) (octets : Bytes) : Option Bytes :=
  if offset + octets.length ≤ buf.length then some (overwrite buf offset octets) else none

/-- The loop of `read_result` and the zero behind it; nothing if a store leaves the buffer. -/
def readResult (buf : Bytes) (readed : Nat) (writePipe : Bool) : List ReplyRead → Option Bytes
  | [] => storeInside buf readed [0]
  | .interrupted :: reads => readResult buf readed writePipe reads
  | .failed :: _ => storeInside buf readed [0]
  | .empty late :: reads =>
      if writePipe || late then storeInside buf readed [0]
      else readResult buf readed writePipe reads
  | .octets first rest :: reads =>
      -- `read` is asked for no more than what is left of the buffer.
      let chunk := (first :: rest).take (buf.length - readed)
      match storeInside buf readed chunk with
      | none => none
      | some buf =>
          if buf.length ≤ readed + chunk.length then storeInside buf (readed + chunk.length) [0]
          else readResult buf (readed + chunk.length) true reads

/-- The octets the pipe has for the client before an end, a failure or the time limit. -/
def replyLength (writePipe : Bool) : List ReplyRead → Nat
  | [] => 0
  | .interrupted :: reads => replyLength writePipe reads
  | .failed :: _ => 0
  | .empty late :: reads => if writePipe || late then 0 else replyLength writePipe reads
  | .octets _ rest :: reads => rest.length + 1 + replyLength true reads

theorem storeInside_zero (buf : Bytes) (readed : Nat) :
    (storeInside buf readed [0]).isSome = true ↔ readed < buf.length := by
  unfold storeInside
  split
  next inside => exact iff_of_true rfl inside
  next outside => exact iff_of_false Bool.false_ne_true outside

theorem storeInside_chunk {buf octets : Bytes} {readed : Nat}
    (inside : readed + octets.length ≤ buf.length) :
    ∃ after, storeInside buf readed octets = some after ∧ after.length = buf.length := by
  refine ⟨_, if_pos inside, ?_⟩
  unfold overwrite
  rw [List.length_append, List.length_append, List.length_take, List.length_drop]
  omega

/-- The invariant of the loop: what was read is in the buffer, and more would fit. -/
theorem readResult_some (reads : List ReplyRead) (buf : Bytes) (readed : Nat) (writePipe : Bool)
    (room : readed ≤ buf.length) :
    (readResult buf readed writePipe reads).isSome = true ↔
      readed + replyLength writePipe reads < buf.length := by
  induction reads generalizing buf readed writePipe with
  | nil => exact storeInside_zero buf readed
  | cons read reads ih =>
    cases read with
    | interrupted => exact ih buf readed writePipe room
    | failed => exact storeInside_zero buf readed
    | empty late =>
      unfold readResult replyLength
      split
      · exact storeInside_zero buf readed
      · exact ih buf readed writePipe room
    | octets first rest =>
      have asked : ((first :: rest).take (buf.length - readed)).length =
          min (buf.length - readed) (rest.length + 1) := List.length_take
      obtain ⟨after, stored, size⟩ : ∃ after, storeInside buf readed
          ((first :: rest).take (buf.length - readed)) = some after ∧ after.length = buf.length :=
        storeInside_chunk (by omega)
      unfold readResult replyLength
      simp only [stored, size, asked]
      split
      next full =>
        rw [storeInside_zero, size]
        omega
      next more =>
        have whole : min (buf.length - readed) (rest.length + 1) = rest.length + 1 := by omega
        rw [whole, ih after _ true (by omega), size]
        omega

/-- Every store of `read_result` is in the buffer just if the reply is shorter than the buffer. -/
theorem reply_stored_iff (buf : Bytes) (reads : List ReplyRead) :
    (readResult buf 0 false reads).isSome = true ↔ replyLength false reads < buf.length := by
  rw [readResult_some reads buf 0 false (Nat.zero_le _), Nat.zero_add]

/-- A reply of 1024 octets for the buffer of `CONTROL_PIPE_MESSAGE_SIZE` octets in `main`. -/
theorem reply_overruns :
    ∃ buf reads, buf.length = 1024 ∧ (readResult buf 0 false reads).isSome = false := by
  refine ⟨List.replicate 1024 0, [.octets 48 (List.replicate 1023 48)], List.length_replicate, ?_⟩
  have stays :=
    readResult_some [.octets 48 (List.replicate 1023 48)] (List.replicate 1024 0) 0 false
    (Nat.zero_le _)
  rw [Bool.eq_false_iff, ne_eq, stays, List.length_replicate]
  simp only [replyLength, List.length_replicate]
  omega

end Xl2tpd
