import Xl2tpd.Senders

/-!
# Control messages from one end to the other

What the sender's functions put into each kind of message is what the receiver has
stored when its handlers are done with it.
-/

namespace Xl2tpd

set_option autoImplicit false

open Program

section Sender

variable {env : Env} {t : TunnelRef} {c : CallId} {state after : Daemon}

/-- The sender's functions built a message with the values that the sender has. -/
inductive Built (env : Env) (t : TunnelRef) (c : CallId) (state : Daemon) :
    Message → Option Bytes → Bytes → Daemon → Prop
  | sccrq {tunnel : Tunnel} {hostname body : Bytes} {asked : Bool} {after : Daemon}
      (ran : sccrqBody env t state = .ok body after) (found : after.tunnel? t = some tunnel)
      (named : ourHostname env tunnel after = .ok hostname after)
      (asks : ownerChallenge tunnel after = .ok asked after) :
      Built env t c state
        (.sccrq (tunnel.offer hostname) (if asked then tunnel.chalThem.challenge else none))
        tunnel.sentVector body after
  | sccrp {tunnel : Tunnel} {hostname body : Bytes} {asked : Bool} {after : Daemon}
      (ran : sccrpBody env t asked state = .ok (some body) after)
      (found : after.tunnel? t = some tunnel)
      (named : ourHostname env tunnel after = .ok hostname after) :
      Built env t c state
        (.sccrp (tunnel.offer hostname) tunnel.sentResponse
          (if asked then tunnel.chalThem.challenge else none))
        tunnel.sentVector body after
  | scccn {tunnel : Tunnel} {body response : Bytes} {between answered after : Daemon}
      (responded : respondScccn env t between = .ok (some response) answered)
      (established : establish t answered = .ok () state)
      (ran : scccnBody env t response state = .ok body after)
      (found : after.tunnel? t = some tunnel) :
      Built env t c state (.scccn tunnel.sentResponse) tunnel.sentVector body after
  | stopccn {tunnel : Tunnel} {body : Bytes} {after : Daemon}
      (ran : stopCcnBody env t state = .ok body after) (found : after.tunnel? t = some tunnel) :
      Built env t c state
        (.stopccn tunnel.ourtid tunnel.self.result tunnel.self.error tunnel.self.errormsg)
        tunnel.sentVector body after
  | hello : Built env t c state .hello none (addMessageTypeAvp .Hello) state
  | icrq {tunnel : Tunnel} {call : Call} {body : Bytes} {after : Daemon}
      (ran : icrqBody env t c call.ourcid state = .ok body after)
      (found : after.tunnel? t = some tunnel) (foundCall : tunnel.call? c = some call) :
      Built env t c state (.icrq call.ourcid call.serno) tunnel.sentVector body after
  | icrp {tunnel : Tunnel} {call : Call} {body : Bytes} {after : Daemon}
      (ran : icrpBody env t call.ourcid state = .ok body after)
      (found : after.tunnel? t = some tunnel) (foundCall : tunnel.call? c = some call) :
      Built env t c state (.icrp call.ourcid) tunnel.sentVector body after
  | iccn {tunnel : Tunnel} {call : Call} {body : Bytes} {after : Daemon}
      (ran : iccnBody env t tunnel.txspeed call.frame tunnel.rxspeed state = .ok body after)
      (found : after.tunnel? t = some tunnel) (foundCall : tunnel.call? c = some call)
      (framed : call.frame = preferredFrame tunnel.fc) :
      Built env t c state (.iccn tunnel.txspeed call.frame tunnel.rxspeed) tunnel.sentVector body
        after
  | cdn {tunnel : Tunnel} {call : Call} {body : Bytes} {after : Daemon}
      (ran : cdnBody env t c state = .ok body after)
      (found : after.tunnel? t = some tunnel) (foundCall : tunnel.call? c = some call) :
      Built env t c state (.cdn call.result call.error call.errormsg call.ourcid)
        tunnel.sentVector body after

theorem Built.body {message : Message} {vector : Option Bytes} {body : Bytes}
    (built : Built env t c state message vector body after)
    (array : ∀ tunnel, after.tunnel? t = some tunnel → tunnel.chalUs.response.length = mdSigSize) :
    body = message.body vector ∧ message.Sized ∧
      ∀ value ∈ vector, value.length = vectorSize := by
  cases built with
  | @sccrq tunnel hostname _ asked _ ran found named asks =>
    obtain ⟨_, _, first, _, _, later, hides, early, wanted, onward, drawn, _, same⟩ :=
      sccrqBody_sent ran
    rw [onward.found] at found
    cases found
    cases onward.hostname early named
    cases onward.asked wanted asks
    refine ⟨same, ?_, fun value member => hides.whole value (onward.vector ▸ member)⟩
    intro value member
    cases asked with
    | false => cases member
    | true =>
      obtain ⟨_, size, rfl⟩ := drawn rfl
      cases member
      exact size
  | @sccrp tunnel hostname _ asked _ ran found named =>
    obtain ⟨_, _, first, _, later, hides, early, onward, drawn, _, _, same⟩ := sccrpBody_sent ran
    rw [onward.found] at found
    cases found
    cases onward.hostname early named
    refine ⟨same, ⟨Tunnel.sentResponse_size (array tunnel onward.found), ?_⟩,
      fun value member => hides.whole value (onward.vector ▸ member)⟩
    intro value member
    cases asked with
    | false => cases member
    | true =>
      obtain ⟨_, _, size, _, rfl⟩ := drawn rfl
      cases member
      exact size
  | @scccn tunnel _ _ _ _ _ responded established ran found =>
    obtain ⟨earlier, here, _⟩ := ok_readTunnel responded
    obtain ⟨same, _, whole⟩ := scccnBody_sent here responded established ran found
    exact ⟨same, Tunnel.sentResponse_size (array tunnel found), whole⟩
  | stopccn ran found =>
    obtain ⟨same, whole⟩ := stopCcnBody_sent ran found
    exact ⟨same, trivial, whole⟩
  | hello => exact ⟨rfl, trivial, by simp⟩
  | icrq ran found foundCall =>
    obtain ⟨same, whole⟩ := icrqBody_sent ran found foundCall
    exact ⟨same, trivial, whole⟩
  | icrp ran found foundCall =>
    obtain ⟨_, _, drew, ran⟩ := bind_ok.mp ran
    cases ran
    obtain ⟨_, first, hides, isVector⟩ := addVector_sent drew
    rw [hides.found] at found
    cases found
    exact ⟨by rw [isVector]; rfl, trivial, hides.whole⟩
  | iccn ran found foundCall framed =>
    obtain ⟨_, _, drew, ran⟩ := bind_ok.mp ran
    cases ran
    obtain ⟨_, first, hides, isVector⟩ := addVector_sent drew
    rw [hides.found] at found
    cases found
    refine ⟨?_, ?_, hides.whole⟩
    · rw [isVector]
      simp only [Message.body, Message.avps, Message.type, List.append_assoc]
    · rw [Message.Sized, framed]
      unfold preferredFrame
      split <;> decide
  | cdn ran found foundCall =>
    obtain ⟨same, whole⟩ := cdnBody_sent ran found foundCall
    exact ⟨same, trivial, whole⟩

end Sender

/-! ## From the sender to the receiver -/

/-- A message that one end builds is taken by the other in a matching state, which stores the
sender's values. -/
theorem control_message_round_trip {theirs env : Env} {s t : TunnelRef} {u c : CallId}
    {sender sent ready wrapped receiver : Daemon} {message : Message} {vector : Option Bytes}
    {body : Bytes} {buffer : Buffer} {datagram : Datagram} {tunnel : Tunnel} {call : Call}
    (built : Built theirs s u sender message vector body sent)
    (array : ∀ mine, sent.tunnel? s = some mine → mine.chalUs.response.length = mdSigSize)
    (wraps : addControlHdr s u body ready = .ok buffer wrapped)
    (arrives : datagram.bytes = buffer.header.encode ++ buffer.body) (fits : message.Fits)
    (found : receiver.tunnel? t = some tunnel) (foundCall : tunnel.call? c = some call)
    (matching : admitted tunnel.state c call.state message.type = true) :
    ∃ opened final, Opened message.type c tunnel opened ∧
      handleAvps env t c datagram.buffer receiver = .ok true final ∧
      final.tunnel? t = some (message.stored c (opened.withVector vector)) := by
  obtain ⟨isBody, sized, whole⟩ := built.body array
  obtain ⟨_, _, wraps⟩ := ok_readTunnel wraps
  obtain ⟨_, _, _, _, wraps⟩ := ok_readCall wraps
  obtain ⟨_, _, wraps⟩ := ok_writeTunnel wraps
  cases wraps
  rw [isBody] at arrives
  obtain ⟨opened, final, opens, handled, held⟩ :=
    Message.received whole rfl arrives found foundCall matching fun opened opens =>
      Message.chain fits sized fun incoming => opens.addressed matching incoming
  exact ⟨opened, final, opens, handled, held.found⟩

def sampleTunnel (result : Int) : Tunnel where
  ref := 1
  ourtid := 5
  peer := ⟨5, 6⟩
  state := .SCCCN
  self := { ref := 2, result := result }

def sampleEnd (result : Int) : Daemon := { tunnels := [sampleTunnel result] }

def sampleClosing (result : Int) : Daemon := (sampleEnd result).setCall 1 .self Call.withResult

def sampleStopccn (result : Int) : Datagram :=
  sampleDatagram 0xFFFF 0 0 0 ((Message.stopccn 5 result 0 []).body none)

/-- A StopCCN with a result code that only a CDN defines is taken, but the code is not
stored. -/
theorem control_message_result_lost :
    Built (sampleEnv (fun _ _ => none) 5) 1 .self (sampleEnd 9) (.stopccn 5 9 0 []) none
        ((Message.stopccn 5 9 0 []).body none) (sampleClosing 9) ∧
      (∃ buffer wrapped, addControlHdr 1 .self ((Message.stopccn 5 9 0 []).body none)
          (sampleClosing 9) = .ok buffer wrapped ∧
        (sampleStopccn 9).bytes = buffer.header.encode ++ buffer.body) ∧
      admitted .SCCCN .self .idle .StopCCN = true ∧
      ∃ final, handleAvps (sampleEnv (fun _ _ => none) 5) 1 .self (sampleStopccn 9).buffer
          (sampleEnd (-1)) = .ok true final ∧
        (final.tunnel? 1).map (fun tunnel => tunnel.self.result) = some (-1) := by
  have found : (sampleClosing 9).tunnel? 1 =
      some ((sampleTunnel 9).setCall .self Call.withResult) := rfl
  refine ⟨.stopccn rfl found, ⟨_, _, rfl, ?_⟩, rfl, _, rfl, rfl⟩
  decide +kernel

theorem control_message_round_trip_sample :
    (Message.stopccn 5 2 0 []).Fits ∧ ∃ tunnel opened final,
      (sampleEnd (-1)).tunnel? 1 = some tunnel ∧ Opened .StopCCN .self tunnel opened ∧
      handleAvps (sampleEnv (fun _ _ => none) 5) 1 .self (sampleStopccn 2).buffer
        (sampleEnd (-1)) = .ok true final ∧
      final.tunnel? 1 = some ((Message.stopccn 5 2 0 []).stored .self (opened.withVector none)) := by
  have fits : (Message.stopccn 5 2 0 []).Fits := by
    refine ⟨⟨?_, ?_, ?_⟩, ?_⟩ <;> decide
  have built : Built (sampleEnv (fun _ _ => none) 5) 1 .self (sampleEnd 2) (.stopccn 5 2 0 []) none
      ((Message.stopccn 5 2 0 []).body none) (sampleClosing 2) := by
    have found : (sampleClosing 2).tunnel? 1 =
        some ((sampleTunnel 2).setCall .self Call.withResult) := rfl
    exact .stopccn rfl found
  have array : ∀ mine, (sampleClosing 2).tunnel? 1 = some mine →
      mine.chalUs.response.length = mdSigSize := by
    intro mine found
    cases found
    rfl
  obtain ⟨buffer, wrapped, wraps, arrives⟩ : ∃ buffer wrapped,
      addControlHdr 1 .self ((Message.stopccn 5 2 0 []).body none) (sampleClosing 2) =
        .ok buffer wrapped ∧
      (sampleStopccn 2).bytes = buffer.header.encode ++ buffer.body :=
    ⟨_, _, rfl, by decide +kernel⟩
  have found : (sampleEnd (-1)).tunnel? 1 = some (sampleTunnel (-1)) := rfl
  have self : (sampleTunnel (-1)).call? .self = some (sampleTunnel (-1)).self := rfl
  obtain ⟨opened, final, opens, handled, held⟩ :=
    control_message_round_trip built array wraps arrives fits found self rfl
  exact ⟨fits, _, opened, final, found, opens, handled, held⟩

end Xl2tpd
