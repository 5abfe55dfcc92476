import Xl2tpd.Senders
import Mathlib.Data.Fintype.EquivFin
import Mathlib.Data.List.OfFn
import Mathlib.Data.Set.Function

/-!
# Challenges and responses at both ends

The digest that one end expects and the digest that the other end sends are computed in different
branches and at different times. They are followed through SCCRQ, SCCRP and SCCCN.
-/

namespace Xl2tpd

set_option autoImplicit false

open Program

/-! ## Digests -/

section Digests

variable {env : Env} {hashed : Set Bytes}

theorem response_inj (injective : Set.InjOn env.md5 hashed) {ss : Nat}
    {first second challenge : Bytes} (one : UInt8.ofNat ss :: (first ++ challenge) ∈ hashed)
    (other : UInt8.ofNat ss :: (second ++ challenge) ∈ hashed) :
    env.response ss first challenge = env.response ss second challenge ↔ first = second := by
  constructor
  · intro same
    have digests := List.ofFn_injective same
    have strings := injective one other digests
    exact List.append_cancel_right (List.cons.inj strings).2
  · intro same
    rw [same]

theorem response_ne_zero (nonzero : ∀ octets ∈ hashed, env.md5 octets ≠ fun _ => 0) {ss : Nat}
    {secret challenge : Bytes} (member : UInt8.ofNat ss :: (secret ++ challenge) ∈ hashed) :
    List.replicate mdSigSize 0 ≠ env.response ss secret challenge := by
  intro same
  have zeros : List.replicate mdSigSize (0 : UInt8) = List.ofFn fun _ : Fin 16 => 0 := rfl
  rw [zeros] at same
  exact nonzero _ member (List.ofFn_injective same).symm

end Digests

/-! ## The challenge that the peer posed -/

def Tunnel.posed (tunnel : Tunnel) : Option Bytes :=
  if tunnel.chalUs.challenged then some (tunnel.chalUs.challenge.getD []) else none

def digestOr (env : Env) (ss : Nat) (secret : Option Bytes) (array challenge : Bytes) : Bytes :=
  (secret.map fun secret => env.response ss secret challenge).getD array

theorem Tunnel.responding_posed {env : Env} {ss : Nat} {secret : Option Bytes} (tunnel : Tunnel) :
    (tunnel.responding env ss secret).sentResponse =
      tunnel.posed.map (digestOr env ss secret tunnel.chalUs.response) := by
  cases asked : tunnel.chalUs.challenged with
  | false =>
    rw [Tunnel.responding_none asked, Tunnel.sentResponse, Tunnel.posed, asked]
    rfl
  | true =>
    rw [Tunnel.responding_sent asked, Tunnel.responding_some asked, Tunnel.posed, asked]
    cases secret <;> rfl

/-- Two states of a tunnel between which its challenges, but for the vector, are left alone. -/
structure SameChallenges (earlier later : Tunnel) : Prop where
  challenged : later.chalUs.challenged = earlier.chalUs.challenged
  challenge : later.chalUs.challenge = earlier.chalUs.challenge
  response : later.chalUs.response = earlier.chalUs.response
  them : later.chalThem = earlier.chalThem

theorem SameChallenges.posed {earlier later : Tunnel} (same : SameChallenges earlier later) :
    later.posed = earlier.posed := by
  rw [Tunnel.posed, Tunnel.posed, same.challenged, same.challenge]

theorem SameChallenges.trans {earlier between later : Tunnel}
    (first : SameChallenges earlier between) (second : SameChallenges between later) :
    SameChallenges earlier later :=
  ⟨second.challenged.trans first.challenged, second.challenge.trans first.challenge,
    second.response.trans first.response, second.them.trans first.them⟩

theorem noting_challenges (tunnel : Tunnel) (c : CallId) (type : MsgType) (vector : Option Bytes) :
    SameChallenges tunnel ((tunnel.noting c type).withVector vector) := by
  cases c <;> cases vector <;> exact ⟨rfl, rfl, rfl, rfl⟩

theorem heard_challenges (offer : Offer) (tunnel : Tunnel) :
    SameChallenges tunnel (offer.heard tunnel) := ⟨rfl, rfl, rfl, rfl⟩

theorem posed_withChallenge (tunnel : Tunnel) (challenge : Option Bytes) :
    (tunnel.withChallenge challenge).posed = challenge.or tunnel.posed := by
  cases challenge <;> rfl

theorem withChallenge_kept (tunnel : Tunnel) (challenge : Option Bytes) :
    (tunnel.withChallenge challenge).chalUs.response = tunnel.chalUs.response ∧
      (tunnel.withChallenge challenge).chalThem = tunnel.chalThem := by
  cases challenge <;> exact ⟨rfl, rfl⟩

theorem withReply_kept (tunnel : Tunnel) (response : Option Bytes) :
    (tunnel.withReply response).chalUs = tunnel.chalUs ∧
      (tunnel.withReply response).chalThem =
        { tunnel.chalThem with reply := response.getD tunnel.chalThem.reply } := by
  cases response <;> exact ⟨rfl, rfl⟩

/-! ## The messages arrive -/

section Arrivals

variable {env : Env} {t : TunnelRef} {tunnel : Tunnel} {final : Daemon}
  {vector : Option Bytes} {offer : Offer}
  {challenge response : Option Bytes}

/-- A message with this body came in a datagram, and the handlers of a tunnel took it. -/
structure Taken (env : Env) (t : TunnelRef) (type : MsgType) (body : Bytes) (before : Tunnel)
    (final : Daemon) (after : Tunnel) : Prop where
  arrives : ∃ (header : ControlHdr) (datagram : Datagram) (state : Daemon),
    header.ver = controlVer ∧ datagram.bytes = header.encode ++ body ∧
    state.tunnel? t = some before ∧
    handleAvps env t .self datagram.buffer state = .ok true final
  matching : admitted before.state .self before.self.state type = true
  found : final.tunnel? t = some after

theorem Taken.chain (message : Message) {after left : Tunnel}
    (taken : Taken env t message.type (message.body vector) tunnel final after)
    (whole : ∀ value ∈ vector, value.length = vectorSize) (plain : message.type ≠ .ICRQ)
    (handles : Chain env t .self message.type message.pieces
      ((tunnel.noting .self message.type).withVector vector) left) : after = left := by
  obtain ⟨header, datagram, state, version, layout, found, handled⟩ := taken.arrives
  have each (opened : Tunnel) (opens : Opened message.type .self tunnel opened) :
      Chain env t .self message.type message.pieces (opened.withVector vector) left := by
    rw [Opened, if_neg plain] at opens
    rw [opens]
    exact handles
  obtain ⟨_, last, _, ran, held⟩ :=
    Message.received whole version layout found rfl taken.matching each
  rw [handled] at ran
  cases ran
  exact Option.some.inj (taken.found.symm.trans held.found)

variable {after : Tunnel}

theorem Taken.sccrq
    (taken : Taken env t .SCCRQ ((Message.sccrq offer challenge).body vector) tunnel final after)
    (whole : ∀ value ∈ vector, value.length = vectorSize)
    (sized : ∀ value ∈ challenge, value.length = mdSigSize) :
    after.posed = challenge.or tunnel.posed ∧ after.chalUs.response = tunnel.chalUs.response ∧
      after.chalThem = tunnel.chalThem := by
  have member : MsgType.SCCRQ ∈ [MsgType.SCCRP, .SCCRQ] := by decide
  have left := Taken.chain (.sccrq offer challenge) taken whole nofun
    ((Offer.chain member).append (challenge_chain sized member))
  have same := (noting_challenges tunnel .self .SCCRQ vector).trans (heard_challenges offer _)
  obtain ⟨array, them⟩ := withChallenge_kept
    (offer.heard ((tunnel.noting .self .SCCRQ).withVector vector)) challenge
  rw [left]
  refine ⟨?_, array.trans same.response, them.trans same.them⟩
  rw [posed_withChallenge]
  exact congrArg challenge.or same.posed

theorem Taken.sccrp
    (taken : Taken env t .SCCRP ((Message.sccrp offer response challenge).body vector) tunnel final
      after) (whole : ∀ value ∈ vector, value.length = vectorSize)
    (digest : ∀ value ∈ response, value.length = mdSigSize)
    (sized : ∀ value ∈ challenge, value.length = mdSigSize) :
    after.posed = challenge.or tunnel.posed ∧
      after.chalThem = { tunnel.chalThem with reply := response.getD tunnel.chalThem.reply } := by
  have member : MsgType.SCCRP ∈ [MsgType.SCCRP, .SCCRQ] := by decide
  have left := Taken.chain (.sccrp offer response challenge) taken whole nofun
    (((Offer.chain member).append (response_chain digest (.inl rfl))).append
      (challenge_chain sized member))
  have same := (noting_challenges tunnel .self .SCCRP vector).trans (heard_challenges offer _)
  obtain ⟨us, reply⟩ := withReply_kept
    (offer.heard ((tunnel.noting .self .SCCRP).withVector vector)) response
  obtain ⟨_, them⟩ := withChallenge_kept
    ((offer.heard ((tunnel.noting .self .SCCRP).withVector vector)).withReply response) challenge
  rw [left]
  constructor
  · rw [posed_withChallenge, ← same.posed]
    refine congrArg challenge.or ?_
    rw [Tunnel.posed, Tunnel.posed]
    exact congrArg (fun chal : Challenge =>
      if chal.challenged then some (chal.challenge.getD []) else none) us
  · rw [← same.them]
    exact them.trans reply

theorem Taken.scccn
    (taken : Taken env t .SCCCN ((Message.scccn response).body vector) tunnel final after)
    (whole : ∀ value ∈ vector, value.length = vectorSize)
    (digest : ∀ value ∈ response, value.length = mdSigSize) :
    after.chalThem = { tunnel.chalThem with reply := response.getD tunnel.chalThem.reply } := by
  have left := Taken.chain (.scccn response) taken whole nofun
    (response_chain digest (.inr rfl))
  have same := noting_challenges tunnel .self .SCCCN vector
  obtain ⟨_, reply⟩ := withReply_kept ((tunnel.noting .self .SCCCN).withVector vector) response
  rw [left, ← same.them]
  exact reply

end Arrivals

/-! ## The check of an SCCRP -/

theorem verifySccrp_sent {env : Env} {t : TunnelRef} {tunnel : Tunnel} {state after : Daemon}
    {verdict : Option String} (found : state.tunnel? t = some tunnel)
    (ran : verifySccrp env t state = .ok verdict after) :
    ∃ later, Onward t state tunnel after later ∧ later.chalUs = tunnel.chalUs ∧
      (tunnel.chalThem.challenged = false → verdict = none) ∧
      (tunnel.chalThem.challenged = true → (verdict = none ↔
        ∃ secret, state.view.secret? env tunnel.core = some secret ∧
          tunnel.chalThem.reply =
            env.response 2 secret (tunnel.chalThem.challenge.getD []))) := by
  replace ran := ok_readTunnel_at found ran
  cases asked : tunnel.chalThem.challenged with
  | false =>
    rw [asked, if_neg (by simp)] at ran
    cases ran
    exact ⟨tunnel, .refl found, rfl, fun _ => rfl, by simp⟩
  | true =>
    rw [asked, if_pos rfl] at ran
    obtain ⟨computed, onward, ran⟩ := ok_answer found ran
    replace ran := ok_readTunnel_at onward.found ran
    cases known : state.view.secret? env tunnel.core with
    | none =>
      rw [known] at ran onward
      cases ran
      exact ⟨_, onward, rfl, by simp, by simp⟩
    | some secret =>
      rw [known] at ran onward
      simp only [Option.isSome_some, Bool.not_true, Bool.false_eq_true, if_false] at ran
      split at ran
      · rename_i differs
        cases ran
        refine ⟨_, onward, rfl, by simp, fun _ => ⟨by simp, ?_⟩⟩
        rintro ⟨other, same, equal⟩
        cases same
        exact absurd equal differs
      · rename_i agrees
        cases ran
        refine ⟨_, onward, rfl, by simp, fun _ => ⟨fun _ => ⟨secret, rfl, ?_⟩, fun _ => rfl⟩⟩
        exact not_not.mp agrees

/-! ## The opening of a tunnel -/

/-- SCCRQ and SCCRP between a LAC and an LNS. Between its steps either daemon may do anything that
leaves the challenges alone. -/
structure Negotiation (lac lns : Env) (a b : TunnelRef) where
  /-- The LAC, before and after it has put together the SCCRQ. -/
  start : Daemon
  startTunnel : Tunnel
  request : Bytes
  opened : Daemon
  openedTunnel : Tunnel
  startFound : start.tunnel? a = some startTunnel
  startQuiet : startTunnel.chalUs.challenged = false ∧ startTunnel.chalThem.challenged = false
  requests : sccrqBody lac a start = .ok request opened
  openedFound : opened.tunnel? a = some openedTunnel
  /-- The LNS takes the SCCRQ for a new tunnel. -/
  idleTunnel : Tunnel
  heard : Daemon
  heardTunnel : Tunnel
  idleQuiet : idleTunnel.chalUs.challenged = false ∧ idleTunnel.chalThem.challenged = false
  idleArray : idleTunnel.chalUs.response = List.replicate mdSigSize 0
  hears : Taken lns b .SCCRQ request idleTunnel heard heardTunnel
  /-- The LNS, before and after it has put together the SCCRP. -/
  ready : Daemon
  readyTunnel : Tunnel
  asked : Bool
  answer : Bytes
  answered : Daemon
  answeredTunnel : Tunnel
  readyFound : ready.tunnel? b = some readyTunnel
  readySame : SameChallenges heardTunnel readyTunnel
  answers : sccrpBody lns b asked ready = .ok (some answer) answered
  answeredFound : answered.tunnel? b = some answeredTunnel
  /-- The LAC takes the SCCRP and checks the response in it. -/
  waitingTunnel : Tunnel
  told : Daemon
  toldTunnel : Tunnel
  verdict : Option String
  checked : Daemon
  waitingSame : SameChallenges openedTunnel waitingTunnel
  tells : Taken lac a .SCCRP answer waitingTunnel told toldTunnel
  checks : verifySccrp lac a told = .ok verdict checked

namespace Negotiation

variable {lac lns : Env} {a b : TunnelRef} (x : Negotiation lac lns a b)

def lacChallenge : Option Bytes :=
  if x.openedTunnel.chalThem.challenged then x.openedTunnel.chalThem.challenge else none

def lnsChallenge : Option Bytes :=
  if x.asked then x.answeredTunnel.chalThem.challenge else none

def lacSecret : Option Bytes := x.told.view.secret? lac x.toldTunnel.core

def lnsSecret : Option Bytes := x.ready.view.secret? lns x.readyTunnel.core

/-- The strings that are hashed for the two challenges, at both ends. -/
def hashed : Set Bytes :=
  { octets | ∃ ss secret challenge, (x.lacSecret = some secret ∨ x.lnsSecret = some secret) ∧
    (ss = 2 ∧ x.lacChallenge = some challenge ∨ ss = 3 ∧ x.lnsChallenge = some challenge) ∧
    octets = UInt8.ofNat ss :: (secret ++ challenge) }

theorem requested : (∃ offer vector, x.request = (Message.sccrq offer x.lacChallenge).body vector ∧
      ∀ value ∈ vector, value.length = vectorSize) ∧
    (∀ value ∈ x.lacChallenge, value.length = mdSigSize) ∧
    x.openedTunnel.chalThem.challenged = x.lacChallenge.isSome ∧ x.openedTunnel.posed = none := by
  obtain ⟨_, _, first, hostname, asked, later, hides, _, _, onward, drawn, quiet, isBody⟩ :=
    sccrqBody_sent x.requests
  have started := hides.started
  rw [x.startFound] at started
  cases started
  have here := onward.found
  rw [x.openedFound] at here
  cases here
  obtain ⟨vector, changed⟩ := hides.changed
  obtain ⟨us, them⟩ := x.startQuiet
  have sends (same : x.lacChallenge =
      if asked then x.openedTunnel.chalThem.challenge else none) :
      ∃ offer vector, x.request = (Message.sccrq offer x.lacChallenge).body vector ∧
        ∀ value ∈ vector, value.length = vectorSize := by
    rw [same]
    exact ⟨_, _, isBody, fun value member => hides.whole value (onward.vector ▸ member)⟩
  cases asked with
  | true =>
    obtain ⟨value, size, posed⟩ := drawn rfl
    have isChallenge : x.lacChallenge = some value := by
      rw [lacChallenge, posed]
      rfl
    refine ⟨sends ?_, ?_, ?_, ?_⟩
    · rw [isChallenge, posed]
      rfl
    · rw [isChallenge]
      intro other member
      cases member
      exact size
    · rw [isChallenge, posed]
      rfl
    · rw [posed, changed, Tunnel.posed]
      exact if_neg (by simp [Tunnel.setChal, us])
  | false =>
    have unposed : x.openedTunnel.chalThem.challenged = false := by
      rw [quiet rfl, changed]
      exact them
    have isChallenge : x.lacChallenge = none := if_neg (by simp [unposed])
    refine ⟨sends isChallenge, ?_, ?_, ?_⟩
    · rw [isChallenge]
      intro other member
      cases member
    · rw [isChallenge]
      exact unposed
    · rw [quiet rfl, changed, Tunnel.posed]
      exact if_neg (by simp [Tunnel.setChal, us])

theorem hearing : x.readyTunnel.posed = x.lacChallenge ∧
    x.readyTunnel.chalUs.response = List.replicate mdSigSize 0 ∧
    x.readyTunnel.chalThem.challenged = false := by
  obtain ⟨⟨offer, vector, isBody, whole⟩, sized, _⟩ := x.requested
  obtain ⟨us, them⟩ := x.idleQuiet
  have hears := x.hears
  rw [isBody] at hears
  obtain ⟨posed, array, kept⟩ := hears.sccrq whole sized
  have idle : x.idleTunnel.posed = none := if_neg (by simp [us])
  rw [x.readySame.posed, posed, idle, x.readySame.response, array, x.readySame.them, kept]
  exact ⟨Option.or_none, x.idleArray, them⟩

def lnsResponse : Option Bytes :=
  x.lacChallenge.map (digestOr lns 2 x.lnsSecret (List.replicate mdSigSize 0))

theorem answering : (∃ offer vector,
      x.answer = (Message.sccrp offer x.lnsResponse x.lnsChallenge).body vector ∧
      ∀ value ∈ vector, value.length = vectorSize) ∧
    (∀ value ∈ x.lnsResponse, value.length = mdSigSize) ∧
    (∀ value ∈ x.lnsChallenge, value.length = mdSigSize) ∧
    (x.asked = false → x.answeredTunnel.chalThem.challenged = false) ∧
    (x.asked = true → ∃ challenge secret, x.lnsChallenge = some challenge ∧
      x.lnsSecret = some secret ∧ x.answeredTunnel.chalThem.challenged = true ∧
      x.answeredTunnel.chalThem.response = lns.response 3 secret challenge) := by
  obtain ⟨_, _, first, hostname, later, hides, _, onward, drawn, quiet, sent, isBody⟩ :=
    sccrpBody_sent x.answers
  have started := hides.started
  rw [x.readyFound] at started
  cases started
  have here := onward.found
  rw [x.answeredFound] at here
  cases here
  obtain ⟨vector, changed⟩ := hides.changed
  obtain ⟨posed, array, them⟩ := x.hearing
  have isResponse : x.answeredTunnel.sentResponse = x.lnsResponse := by
    have us : first.chalUs = x.readyTunnel.chalUs := by
      rw [changed]
      rfl
    have samePosed : first.posed = x.readyTunnel.posed := by
      rw [Tunnel.posed, Tunnel.posed, us]
    rw [sent, Tunnel.responding_posed, samePosed, posed, us, array]
    rfl
  refine ⟨?_, ?_, ?_, ?_, ?_⟩
  · rw [isResponse] at isBody
    exact ⟨_, _, isBody, fun value member => hides.whole value (onward.vector ▸ member)⟩
  · intro value member
    obtain ⟨challenge, _, rfl⟩ := Option.map_eq_some_iff.mp member
    cases secret : x.lnsSecret with
    | none => rfl
    | some secret => exact List.length_ofFn
  · intro value member
    unfold lnsChallenge at member
    cases asked : x.asked with
    | false =>
      rw [asked] at member
      cases member
    | true =>
      obtain ⟨challenge, secret, size, _, answered⟩ := drawn asked
      rw [asked, if_pos rfl, answered] at member
      cases member
      exact size
  · intro unasked
    have kept : (first.responding lns 2 x.lnsSecret).chalThem = first.chalThem := by
      unfold Tunnel.responding
      split <;> rfl
    rw [quiet unasked]
    refine (congrArg Challenge.challenged kept).trans ?_
    rw [changed]
    exact them
  · intro asked
    obtain ⟨challenge, secret, _, known, answered⟩ := drawn asked
    refine ⟨challenge, secret, ?_, known, ?_, ?_⟩
    · rw [lnsChallenge, asked, if_pos rfl, answered]
      rfl
    · rw [answered]
      rfl
    · rw [answered]
      rfl

theorem telling : x.toldTunnel.posed = x.lnsChallenge ∧
    x.toldTunnel.chalThem.challenged = x.lacChallenge.isSome ∧
    (∀ challenge, x.lacChallenge = some challenge →
      x.toldTunnel.chalThem.challenge.getD [] = challenge ∧
      x.toldTunnel.chalThem.reply =
        digestOr lns 2 x.lnsSecret (List.replicate mdSigSize 0) challenge) := by
  obtain ⟨_, _, challenged, quiet⟩ := x.requested
  obtain ⟨⟨offer, vector, isBody, whole⟩, digest, sized, _⟩ := x.answering
  have tells := x.tells
  rw [isBody] at tells
  obtain ⟨posed, them⟩ := tells.sccrp whole digest sized
  refine ⟨?_, ?_, ?_⟩
  · rw [posed, x.waitingSame.posed, quiet, Option.or_none]
  · rw [them, x.waitingSame.them]
    exact challenged
  · intro challenge isChallenge
    have stored : x.openedTunnel.chalThem.challenge = some challenge := by
      have sent := isChallenge
      rw [lacChallenge, challenged, isChallenge] at sent
      exact sent
    have isResponse : x.lnsResponse =
        some (digestOr lns 2 x.lnsSecret (List.replicate mdSigSize 0) challenge) := by
      rw [lnsResponse, isChallenge]
      rfl
    rw [them, x.waitingSame.them, isResponse]
    refine ⟨?_, rfl⟩
    change x.openedTunnel.chalThem.challenge.getD [] = challenge
    rw [stored]
    rfl

theorem response_congr (same : lac.md5 = lns.md5) (ss : Nat) (secret challenge : Bytes) :
    lns.response ss secret challenge = lac.response ss secret challenge := by
  rw [Env.response, Env.response, same]

theorem verdict_agrees (same : lac.md5 = lns.md5) (injective : Set.InjOn lac.md5 x.hashed)
    (nonzero : ∀ octets ∈ x.hashed, lac.md5 octets ≠ fun _ => 0) :
    (x.lacChallenge = none → x.verdict = none) ∧
      (x.lacChallenge ≠ none →
        (x.verdict = none ↔ ∃ secret, x.lacSecret = some secret ∧ x.lnsSecret = some secret)) := by
  obtain ⟨_, challenged, posed⟩ := x.telling
  obtain ⟨_, _, _, unchecked, checked⟩ := verifySccrp_sent x.tells.found x.checks
  refine ⟨fun none => unchecked ?_, fun some => ?_⟩
  · rw [challenged, none]
    rfl
  · obtain ⟨challenge, isChallenge⟩ := Option.ne_none_iff_exists'.mp some
    obtain ⟨stored, reply⟩ := posed challenge isChallenge
    rw [stored, reply] at checked
    refine (checked (by rw [challenged, isChallenge]; rfl)).trans (exists_congr fun secret => ?_)
    refine and_congr_right fun known => ?_
    have ours : UInt8.ofNat 2 :: (secret ++ challenge) ∈ x.hashed :=
      ⟨2, secret, challenge, .inl known, .inl ⟨rfl, isChallenge⟩, rfl⟩
    cases found : x.lnsSecret with
    | none =>
      have differs := response_ne_zero nonzero ours
      simp only [digestOr, Option.map_none, Option.getD_none, reduceCtorEq, iff_false]
      exact differs
    | some other =>
      have theirs : UInt8.ofNat 2 :: (other ++ challenge) ∈ x.hashed :=
        ⟨2, other, challenge, .inr found, .inl ⟨rfl, isChallenge⟩, rfl⟩
      simp only [digestOr, Option.map_some, Option.getD_some, Option.some.injEq]
      rw [response_congr same]
      exact response_inj injective theirs ours

end Negotiation

/-- The SCCCN that follows an exchange whose check went well. -/
structure Confirmation {lac lns : Env} {a b : TunnelRef} (x : Negotiation lac lns a b) where
  /-- The LAC answers the challenge of the LNS. -/
  response : Bytes
  responded : Daemon
  established : Daemon
  confirm : Bytes
  sent : Daemon
  sentTunnel : Tunnel
  passed : x.verdict = none
  responds : respondScccn lac a x.checked = .ok (some response) responded
  establishes : establish a responded = .ok () established
  confirms : scccnBody lac a response established = .ok confirm sent
  sentFound : sent.tunnel? a = some sentTunnel
  /-- The LNS takes the SCCCN. -/
  expectingTunnel : Tunnel
  finished : Daemon
  finishedTunnel : Tunnel
  expectingSame : SameChallenges x.answeredTunnel expectingTunnel
  finishes : Taken lns b .SCCCN confirm expectingTunnel finished finishedTunnel

/-- The branch for an SCCCN returns its error exactly when the digests differ. -/
theorem finishScccn_refuses {env : Env} {t : TunnelRef} {tunnel : Tunnel} {state : Daemon}
    (found : state.tunnel? t = some tunnel) :
    returned (finishScccn env t .self) state = some false ↔
      tunnel.chalThem.challenged = true ∧ tunnel.chalThem.reply ≠ tunnel.chalThem.response := by
  constructor
  · intro refused
    have ran := ok_readTunnel_at found (returned_ok refused)
    by_contra agrees
    rw [if_neg agrees] at ran
    obtain ⟨_, _, _, ran⟩ := bind_ok.mp ran
    obtain ⟨_, _, _, ran⟩ := bind_ok.mp ran
    obtain ⟨_, _, _, ran⟩ := bind_ok.mp ran
    obtain ⟨_, _, _, ran⟩ := bind_ok.mp ran
    obtain ⟨_, _, _, ran⟩ := bind_ok.mp ran
    cases ran
  · intro differs
    unfold returned finishScccn
    rw [bind_run (readTunnel_run found), if_pos differs, refuse, setError,
      bind_run (writeCall_run (some_call found rfl))]
    rfl

namespace Confirmation

variable {lac lns : Env} {a b : TunnelRef} {x : Negotiation lac lns a b} (y : Confirmation x)

theorem confirmed : ∃ response vector, y.confirm = (Message.scccn response).body vector ∧
    (∀ value ∈ vector, value.length = vectorSize) ∧
    (∀ value ∈ response, value.length = mdSigSize) ∧
    ∀ challenge, x.lnsChallenge = some challenge → ∃ secret, x.lacSecret = some secret ∧
      response = some (lac.response 3 secret challenge) := by
  obtain ⟨later, onward, us, _⟩ := verifySccrp_sent x.tells.found x.checks
  obtain ⟨isBody, isResponse, whole⟩ :=
    scccnBody_sent onward.found y.responds y.establishes y.confirms y.sentFound
  obtain ⟨_, _, known⟩ := respondScccn_sent onward.found y.responds
  have secret : x.checked.view.secret? lac later.core = x.lacSecret := onward.secret
  obtain ⟨posed, _⟩ := x.telling
  have samePosed : later.posed = x.lnsChallenge := by
    rw [← posed, Tunnel.posed, Tunnel.posed, us]
  rw [secret] at known isResponse
  rw [Tunnel.responding_posed, samePosed] at isResponse
  have answers (challenge : Bytes) (isChallenge : x.lnsChallenge = some challenge) :
      ∃ secret, x.lacSecret = some secret ∧
        y.sentTunnel.sentResponse = some (lac.response 3 secret challenge) := by
    have asked : later.chalUs.challenged = true := by
      rw [isChallenge] at samePosed
      unfold Tunnel.posed at samePosed
      split at samePosed
      · assumption
      · cases samePosed
    obtain ⟨secret, found⟩ := Option.isSome_iff_exists.mp (known asked)
    refine ⟨secret, found, ?_⟩
    rw [isResponse, isChallenge, found]
    rfl
  refine ⟨_, _, isBody, whole, ?_, answers⟩
  intro value member
  have sent := member
  rw [isResponse] at sent
  obtain ⟨challenge, isChallenge, _⟩ := Option.map_eq_some_iff.mp sent
  obtain ⟨secret, _, isDigest⟩ := answers challenge isChallenge
  rw [isDigest] at member
  cases member
  exact List.length_ofFn

theorem refusal_agrees (same : lac.md5 = lns.md5) (injective : Set.InjOn lac.md5 x.hashed) :
    (x.asked = false → returned (finishScccn lns b .self) y.finished ≠ some false) ∧
      (x.asked = true → (returned (finishScccn lns b .self) y.finished ≠ some false ↔
        x.lacSecret = x.lnsSecret)) := by
  obtain ⟨response, vector, isBody, whole, digest, answers⟩ := y.confirmed
  obtain ⟨_, _, _, quiet, posed⟩ := x.answering
  have finishes := y.finishes
  rw [isBody] at finishes
  have them := finishes.scccn whole digest
  rw [y.expectingSame.them] at them
  rw [ne_eq, finishScccn_refuses y.finishes.found]
  refine ⟨fun unasked => ?_, fun asked => ?_⟩
  · rintro ⟨challenged, _⟩
    rw [them] at challenged
    exact absurd (challenged.symm.trans (quiet unasked)) (by simp)
  · obtain ⟨challenge, theirs, isChallenge, found, challenged, expected⟩ := posed asked
    obtain ⟨ours, known, isResponse⟩ := answers challenge isChallenge
    have compares : (y.finishedTunnel.chalThem.challenged = true ∧
        y.finishedTunnel.chalThem.reply ≠ y.finishedTunnel.chalThem.response) ↔
        lac.response 3 ours challenge ≠ lns.response 3 theirs challenge := by
      rw [them, isResponse]
      constructor
      · rintro ⟨_, differs⟩ equal
        exact differs (equal.trans expected.symm)
      · intro differs
        exact ⟨challenged, fun equal => differs (equal.trans expected)⟩
    have mine : UInt8.ofNat 3 :: (ours ++ challenge) ∈ x.hashed :=
      ⟨3, ours, challenge, .inl known, .inr ⟨rfl, isChallenge⟩, rfl⟩
    have other : UInt8.ofNat 3 :: (theirs ++ challenge) ∈ x.hashed :=
      ⟨3, theirs, challenge, .inr found, .inr ⟨rfl, isChallenge⟩, rfl⟩
    rw [compares, not_not, Negotiation.response_congr same, response_inj injective mine other,
      known, found, Option.some.injEq]

end Confirmation

/-- The comparisons of the digests come out right exactly when both ends found the same secret. -/
theorem challenge_agreement {lac lns : Env} {a b : TunnelRef} (x : Negotiation lac lns a b)
    (same : lac.md5 = lns.md5) (injective : Set.InjOn lac.md5 x.hashed)
    (nonzero : ∀ octets ∈ x.hashed, lac.md5 octets ≠ fun _ => 0) :
    (x.lacChallenge = none → x.verdict = none) ∧
      (x.lacChallenge ≠ none →
        (x.verdict = none ↔
          ∃ secret, x.lacSecret = some secret ∧ x.lnsSecret = some secret)) ∧
      ∀ y : Confirmation x,
        (x.asked = false → returned (finishScccn lns b .self) y.finished ≠ some false) ∧
        (x.asked = true → (returned (finishScccn lns b .self) y.finished ≠ some false ↔
          x.lacSecret = x.lnsSecret)) :=
  ⟨(x.verdict_agrees same injective nonzero).1, (x.verdict_agrees same injective nonzero).2,
    fun y => y.refusal_agrees same injective⟩

/-! ### A run -/

def sampleBoth : Env := sampleEnv (fun _ _ => some (text "k")) 5

def sampleCaller : Daemon :=
  let tunnel : Tunnel :=
    { ref := 1, ourtid := 5, peer := ⟨5, 6⟩, self := { ref := 2 }, lac := some 7 }
  { tunnels := [tunnel], laclist := [{ ref := 7, challenge := true }] }

def sampleListener : Daemon :=
  let tunnel : Tunnel := { ref := 1, ourtid := 6, peer := ⟨5, 6⟩, self := { ref := 2 } }
  { tunnels := [tunnel], deflns := some { ref := 9, challenge := true } }

def onlyTunnel (state : Daemon) : Tunnel :=
  (state.tunnel? 1).getD { ref := 1, ourtid := 0, peer := ⟨0, 0⟩, self := { ref := 2 } }

theorem onlyTunnel_found {state : Daemon} (there : (state.tunnel? 1).isSome = true) :
    state.tunnel? 1 = some (onlyTunnel state) := by
  obtain ⟨tunnel, found⟩ := Option.isSome_iff_exists.mp there
  rw [onlyTunnel, found]
  rfl

def sampleRequest : Bytes := (returned (sccrqBody sampleBoth 1) sampleCaller).getD []

def sampleOpened : Daemon := final (sccrqBody sampleBoth 1 sampleCaller)

def sampleHeard : Daemon :=
  final (handleAvps sampleBoth 1 .self (sampleDatagram 0 0 0 0 sampleRequest).buffer sampleListener)

def sampleReady : Daemon :=
  sampleHeard.setTunnel 1 fun tunnel => { tunnel with lns := some 9, state := .SCCRP }

def sampleAnswer : Bytes :=
  ((returned (sccrpBody sampleBoth 1 true) sampleReady).getD none).getD []

def sampleAnswered : Daemon := final (sccrpBody sampleBoth 1 true sampleReady)

def sampleWaiting : Daemon :=
  sampleOpened.setTunnel 1 fun tunnel => { tunnel with state := .SCCRQ }

def sampleTold : Daemon :=
  final (handleAvps sampleBoth 1 .self (sampleDatagram 5 0 0 1 sampleAnswer).buffer sampleWaiting)

def sampleDialogue : Negotiation sampleBoth sampleBoth 1 1 where
  start := sampleCaller
  startTunnel := onlyTunnel sampleCaller
  request := sampleRequest
  opened := sampleOpened
  openedTunnel := onlyTunnel sampleOpened
  startFound := onlyTunnel_found (by decide +kernel)
  startQuiet := by decide +kernel
  requests := returned_ok (by decide +kernel)
  openedFound := onlyTunnel_found (by decide +kernel)
  idleTunnel := onlyTunnel sampleListener
  heard := sampleHeard
  heardTunnel := onlyTunnel sampleHeard
  idleQuiet := by decide +kernel
  idleArray := by decide +kernel
  hears :=
    { arrives := ⟨⟨controlVer, UInt16.ofNat (controlHdrSize + sampleRequest.length), 0, 0, 0, 0⟩,
        sampleDatagram 0 0 0 0 sampleRequest, sampleListener, rfl, rfl,
        onlyTunnel_found (by decide +kernel), returned_ok (by decide +kernel)⟩
      matching := by decide +kernel
      found := onlyTunnel_found (by decide +kernel) }
  ready := sampleReady
  readyTunnel := onlyTunnel sampleReady
  asked := true
  answer := sampleAnswer
  answered := sampleAnswered
  answeredTunnel := onlyTunnel sampleAnswered
  readyFound := onlyTunnel_found (by decide +kernel)
  readySame := by constructor <;> decide +kernel
  answers := returned_ok (by decide +kernel)
  answeredFound := onlyTunnel_found (by decide +kernel)
  waitingTunnel := onlyTunnel sampleWaiting
  told := sampleTold
  toldTunnel := onlyTunnel sampleTold
  verdict := none
  checked := final (verifySccrp sampleBoth 1 sampleTold)
  waitingSame := by constructor <;> decide +kernel
  tells :=
    { arrives := ⟨⟨controlVer, UInt16.ofNat (controlHdrSize + sampleAnswer.length), 5, 0, 0, 1⟩,
        sampleDatagram 5 0 0 1 sampleAnswer, sampleWaiting, rfl, rfl,
        onlyTunnel_found (by decide +kernel), returned_ok (by decide +kernel)⟩
      matching := by decide +kernel
      found := onlyTunnel_found (by decide +kernel) }
  checks := returned_ok (by decide +kernel)

def sampleResponse : Bytes :=
  ((returned (respondScccn sampleBoth 1) sampleDialogue.checked).getD none).getD []

def sampleResponded : Daemon := final (respondScccn sampleBoth 1 sampleDialogue.checked)

def sampleEstablished : Daemon := final (establish 1 sampleResponded)

def sampleConfirm : Bytes :=
  (returned (scccnBody sampleBoth 1 sampleResponse) sampleEstablished).getD []

def sampleConfirmed : Daemon := final (scccnBody sampleBoth 1 sampleResponse sampleEstablished)

def sampleFinished : Daemon :=
  final
    (handleAvps sampleBoth 1 .self (sampleDatagram 6 0 1 1 sampleConfirm).buffer sampleAnswered)

def sampleConfirmation : Confirmation sampleDialogue where
  response := sampleResponse
  responded := sampleResponded
  established := sampleEstablished
  confirm := sampleConfirm
  sent := sampleConfirmed
  sentTunnel := onlyTunnel sampleConfirmed
  passed := rfl
  responds := returned_ok (by decide +kernel)
  establishes := returned_ok (by decide +kernel)
  confirms := returned_ok (by decide +kernel)
  sentFound := onlyTunnel_found (by decide +kernel)
  expectingTunnel := onlyTunnel sampleAnswered
  finished := sampleFinished
  finishedTunnel := onlyTunnel sampleFinished
  expectingSame := by constructor <;> decide +kernel
  finishes :=
    { arrives := ⟨⟨controlVer, UInt16.ofNat (controlHdrSize + sampleConfirm.length), 6, 0, 1, 1⟩,
        sampleDatagram 6 0 1 1 sampleConfirm, sampleAnswered, rfl, rfl,
        onlyTunnel_found (by decide +kernel), returned_ok (by decide +kernel)⟩
      matching := by decide +kernel
      found := onlyTunnel_found (by decide +kernel) }

def sampleHashed : List Bytes :=
  [2 :: (text "k" ++ sampleDialogue.lacChallenge.getD []),
    3 :: (text "k" ++ sampleDialogue.lnsChallenge.getD [])]

theorem mem_sampleHashed {octets : Bytes} (member : octets ∈ sampleDialogue.hashed) :
    octets ∈ sampleHashed := by
  obtain ⟨ss, secret, challenge, known, posed, rfl⟩ := member
  have lac : sampleDialogue.lacSecret = some (text "k") := by decide +kernel
  have lns : sampleDialogue.lnsSecret = some (text "k") := by decide +kernel
  have isSecret : secret = text "k" := by
    rcases known with known | known
    · exact Option.some.inj (known.symm.trans lac)
    · exact Option.some.inj (known.symm.trans lns)
  rcases posed with ⟨rfl, isChallenge⟩ | ⟨rfl, isChallenge⟩ <;>
    simp [sampleHashed, isSecret, isChallenge]

theorem challenge_agreement_sample :
    (∃ secret, sampleDialogue.lacSecret = some secret ∧ sampleDialogue.lnsSecret = some secret) ∧
      (returned (finishScccn sampleBoth 1 .self) sampleConfirmation.finished ≠ some false ↔
        sampleDialogue.lacSecret = sampleDialogue.lnsSecret) := by
  have distinct : ∀ left ∈ sampleHashed, ∀ right ∈ sampleHashed,
      sampleBoth.md5 left = sampleBoth.md5 right → left = right := by decide +kernel
  have nonzero : ∀ octets ∈ sampleHashed, sampleBoth.md5 octets ≠ fun _ => 0 := by decide +kernel
  obtain ⟨_, checks, confirms⟩ := challenge_agreement sampleDialogue rfl
    (fun left memberLeft right memberRight equal =>
      distinct left (mem_sampleHashed memberLeft) right (mem_sampleHashed memberRight) equal)
    (fun octets member => nonzero octets (mem_sampleHashed member))
  exact ⟨(checks (by decide +kernel)).mp rfl, (confirms sampleConfirmation).2 rfl⟩

end Xl2tpd
