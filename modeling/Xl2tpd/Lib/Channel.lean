import Mathlib.Data.List.Basic

/-!
# A numbered channel over an unreliable network

Two endpoints number the messages they send and take those of the other side in order. An endpoint
may hear any packet that the other side could have said at some time. What it has taken is then a
prefix of what the other side sent, and what it believes to be acknowledged has been taken.
-/

namespace Channel

set_option autoImplicit false

variable {Message : Type}

structure Endpoint (Message : Type) where
  sent : List Message
  got : List Message
  acked : Nat

structure Packet (Message : Type) where
  number : Nat
  ack : Nat
  body : Option Message

/-- The endpoint may have said this packet, now or earlier. -/
def Endpoint.utters (speaker : Endpoint Message) (packet : Packet Message) : Prop :=
  packet.ack ≤ speaker.got.length ∧
    ∀ message ∈ packet.body, speaker.sent[packet.number]? = some message

/-- Only the packet whose turn it is counts. -/
def Endpoint.hears (listener : Endpoint Message) (packet : Packet Message) : Endpoint Message :=
  if packet.number = listener.got.length then
    { listener with got := listener.got ++ packet.body.toList, acked := packet.ack }
  else listener

/-- What an endpoint has sent and got only grows. -/
structure Endpoint.Grows (before after : Endpoint Message) : Prop where
  sent : before.sent <+: after.sent
  got : before.got <+: after.got

structure Endpoint.Agrees (listener speaker : Endpoint Message) : Prop where
  prefixed : listener.got <+: speaker.sent
  acked : listener.acked ≤ speaker.got.length

variable {listener speaker later : Endpoint Message} {packet : Packet Message}

theorem agrees_grows (agrees : listener.Agrees speaker) (grows : speaker.Grows later) :
    listener.Agrees later :=
  ⟨agrees.prefixed.trans grows.sent, Nat.le_trans agrees.acked grows.got.length_le⟩

theorem agrees_hears (agrees : listener.Agrees speaker) (said : speaker.utters packet) :
    (listener.hears packet).Agrees speaker := by
  unfold Endpoint.hears
  by_cases turn : packet.number = listener.got.length
  · rw [if_pos turn]
    refine ⟨?_, said.1⟩
    cases carried : packet.body with
    | none =>
      rw [Option.toList_none, List.append_nil]
      exact agrees.prefixed
    | some message =>
      have next := said.2 message carried
      rw [turn] at next
      obtain ⟨rest, same⟩ := agrees.prefixed
      rw [← same, List.getElem?_append_right (Nat.le_refl _), Nat.sub_self] at next
      cases rest with
      | nil => cases next
      | cons first rest =>
        cases next
        exact ⟨rest, by rw [Option.toList_some, List.append_assoc, List.singleton_append, same]⟩
  · rw [if_neg turn]
    exact agrees

end Channel
