import Xl2tpd.Control

/-!
# Programs that use no null pointer

The pointers that the source uses without a test are in a few branches of `control_finish` and in
`l2tp_call`. That everything else cannot stop for that reason is a class, whose instances follow
the programs.
-/

namespace Xl2tpd

set_option autoImplicit false

open Program

def Fault.isNull : Fault → Prop
  | .null _ => True
  | _ => False

/-- No run of the program uses a null pointer. -/
class Plain {Value : Type} (program : Prog Value) : Prop where
  avoids : ∀ state, Avoids Fault.isNull program state

section Rules

variable {Value Other : Type}

theorem plain (state : Daemon) {program : Prog Value} [Plain program] :
    Avoids Fault.isNull program state := Plain.avoids state

instance (value : Value) : Plain (pure value : Prog Value) := ⟨fun _ => avoids_pure value⟩

instance : Plain (throw .diverges : Prog Value) := ⟨fun _ => avoids_throw id⟩

instance (change : Daemon → Daemon) : Plain (modify change : Prog PUnit) :=
  ⟨fun _ => avoids_modify change⟩

instance : Plain (get : Prog Daemon) := ⟨fun _ _ _ stopped => nomatch stopped⟩

instance (state : Daemon) : Plain (set state : Prog PUnit) := ⟨fun _ _ _ stopped => nomatch stopped⟩

theorem plain_bind {program : Prog Value} {next : Value → Prog Other} [Plain program]
    (rest : ∀ value, Plain (next value)) : Plain (program >>= next) :=
  ⟨fun state => avoids_bind (plain state) fun value after _ => (rest value).avoids after⟩

instance {program : Prog Value} {next : Value → Prog Other} [Plain program]
    [rest : ∀ value, Plain (next value)] : Plain (program >>= next) := plain_bind rest

instance (pointer : Daemon → Option Value) : Plain (deref pointer) := by
  refine ⟨fun state fault after stopped => ?_⟩
  unfold deref at stopped
  split at stopped <;> cases stopped
  exact id

instance {condition : Prop} [Decidable condition] {first second : Prog Value} [Plain first]
    [Plain second] : Plain (if condition then first else second) := by
  split <;> infer_instance

instance {condition : Bool} {action : Prog Unit} [Plain action] :
    Plain (whenever condition action) := by
  unfold whenever
  infer_instance

instance {Item : Type} {body : Item → Prog Unit} (items : List Item) [∀ item, Plain (body item)] :
    Plain (items.forM body) := ⟨fun _ => avoids_forM items fun _ => Plain.avoids⟩

instance {site : NullSite} (value : Value) : Plain (nonNull site (some value)) :=
  inferInstanceAs (Plain (pure value))

end Rules

/-! ## Memory and timers -/

variable {env : Env} {t : TunnelRef} {c : CallId} {lns : LnsRef} {lac : LacRef}

instance : Plain (readTunnel t) := inferInstanceAs (Plain (deref _))

instance : Plain (readCall t c) := inferInstanceAs (Plain (deref _))

instance : Plain (readLns lns) := inferInstanceAs (Plain (deref _))

instance : Plain (readLac lac) := inferInstanceAs (Plain (deref _))

instance (change : Tunnel → Tunnel) : Plain (writeTunnel t change) := by
  unfold writeTunnel
  infer_instance

instance (change : Call → Call) : Plain (writeCall t c change) := by
  unfold writeCall
  infer_instance

instance {lns : LnsRef} (change : Lns → Lns) : Plain (writeLns lns change) := by
  unfold writeLns
  infer_instance

instance {lac : LacRef} (change : Lac → Lac) : Plain (writeLac lac change) := by
  unfold writeLac
  infer_instance

instance (observed : Obs) : Plain (emit observed) := by
  unfold emit
  infer_instance

instance (lns : Option LnsRef) : Plain (readLnsIf lns) := by
  unfold readLnsIf
  split <;> infer_instance

instance (lac : Option LacRef) : Plain (readLacIf lac) := by
  unfold readLacIf
  split <;> infer_instance

instance : Plain (allocate) := by
  unfold allocate
  infer_instance

instance (count : Nat) : Plain (getEntropy env count) := by
  unfold getEntropy
  infer_instance

instance {delay : Timeval} {event : Event} : Plain (schedule delay event) := by
  unfold schedule
  infer_instance

instance {addr : Nat} : Plain (reserveAddr addr) := inferInstanceAs (Plain (modify _))

instance {addr : Nat} : Plain (unreserveAddr addr) := inferInstanceAs (Plain (modify _))

instance : Plain (unlinkTunnel t) := inferInstanceAs (Plain (modify _))

instance : Plain (descheduleTunnel t) := inferInstanceAs (Plain (modify _))

instance {call : Call} : Plain (linkCall t call) := inferInstanceAs (Plain (writeTunnel _ _))

instance {error : Int} {message : Bytes} : Plain (setError t c error message) :=
  inferInstanceAs (Plain (writeCall _ _ _))

/-! ## Sending and closing -/

instance {length : Nat} : Plain (mkChallenge env length) := inferInstanceAs (Plain (getEntropy _ _))

instance : Plain (addVector env t) := by
  unfold addVector
  infer_instance

instance {body : Bytes} : Plain (addControlHdr t c body) := by
  unfold addControlHdr
  infer_instance

instance {buffer : Buffer} : Plain (udpXmit buffer) := by
  unfold udpXmit
  infer_instance

section Closing

variable {close : TunnelRef → CallId → Prog Unit} [∀ t c, Plain (close t c)]

instance {buffer : Buffer} : Plain (controlXmitWith env close buffer) := by
  unfold controlXmitWith
  infer_instance

instance {body : Bytes} : Plain (sendControlWith env close t c body) := by
  unfold sendControlWith
  infer_instance

end Closing

instance {lac : LacRef} : Plain (scheduleRedial lac) := by
  unfold scheduleRedial
  infer_instance

instance {lns : Option LnsRef} : Plain (releaseLocalAddr lns) := by
  unfold releaseLocalAddr
  split <;> infer_instance

instance {call : Call} : Plain (releaseCall call) := by
  unfold releaseCall
  infer_instance

instance {call : Call} : Plain (forgetCall call) := by
  unfold forgetCall
  split <;> infer_instance

instance {ref : CallRef} : Plain (destroyCall t ref) := by
  unfold destroyCall
  infer_instance

instance {lac : Option LacRef} : Plain (forgetTunnelLac lac) := by
  unfold forgetTunnelLac
  split <;> infer_instance

instance {lns : Option LnsRef} : Plain (forgetTunnelLns lns) := by
  unfold forgetTunnelLns
  split <;> infer_instance

instance : Plain (destroyTunnel t) := by
  unfold destroyTunnel
  infer_instance

instance : Plain (stopCcnBody env t) := by
  unfold stopCcnBody
  infer_instance

instance : Plain (cdnBody env t c) := by
  unfold cdnBody
  infer_instance

section Closing

variable {close : TunnelRef → CallId → Prog Unit} [∀ t c, Plain (close t c)]

instance : Plain (closeTunnelWith env close t) := by
  unfold closeTunnelWith
  refine plain_bind fun tunnel => plain_bind fun _ => ?_
  split
  · infer_instance
  · refine plain_bind fun _ => plain_bind fun _ => plain_bind fun _ => plain_bind fun _ => ?_
    infer_instance

instance {ref : CallRef} : Plain (closeCallWith env close t ref) := by
  unfold closeCallWith
  infer_instance

end Closing

instance (depth : Nat) (t : TunnelRef) (c : CallId) : Plain (callCloseN env depth t c) := by
  induction depth generalizing t c with
  | zero => exact inferInstanceAs (Plain (throw .diverges : Prog Unit))
  | succ depth ih =>
    cases c with
    | self => exact inferInstanceAs (Plain (closeTunnelWith env (callCloseN env depth) t))
    | call ref => exact inferInstanceAs (Plain (closeCallWith env (callCloseN env depth) t ref))

instance (t : TunnelRef) (c : CallId) : Plain (callClose env t c) := by
  unfold callClose
  infer_instance

instance {body : Bytes} : Plain (sendControl env t c body) := by
  unfold sendControl
  infer_instance

/-! ## Authentication -/

instance (tunnel : Tunnel) : Plain (challengeNames env tunnel) := by
  unfold challengeNames
  split <;> infer_instance

instance {side : ChalSide} : Plain (handleChallenge env t side) := by
  unfold handleChallenge
  refine plain_bind fun tunnel => plain_bind fun names => ?_
  split
  · infer_instance
  · split <;> infer_instance

instance (tunnel : Tunnel) : Plain (ourHostname env tunnel) := by
  unfold ourHostname
  refine plain_bind fun _ => ?_
  split
  · infer_instance
  · refine plain_bind fun _ => ?_
    split <;> infer_instance

instance : Plain (capabilityAvps env t) := by
  unfold capabilityAvps
  infer_instance

instance : Plain (drawChallenge env t) := by
  unfold drawChallenge
  infer_instance

/-! ## Dialing -/

instance : Plain (adoptEntry t) := by
  unfold adoptEntry
  refine plain_bind fun _ => ?_
  split
  · infer_instance
  · split <;> infer_instance

instance (tunnel : Tunnel) : Plain (ownerChallenge tunnel) := by
  unfold ownerChallenge
  infer_instance

instance : Plain (openChallenge env t) := by
  unfold openChallenge
  infer_instance

instance : Plain (initiateTunnel env t) := by
  unfold initiateTunnel
  infer_instance

instance : Plain (takeSerno t c) := by
  unfold takeSerno
  infer_instance

instance {call : Call} : Plain (entryLbit call) := by
  unfold entryLbit
  split
  · infer_instance
  · split <;> infer_instance

instance : Plain (sendIcrq env t c) := by
  unfold sendIcrq
  infer_instance

instance {call : Call} : Plain (outgoingLbit call) := by
  unfold outgoingLbit
  split <;> infer_instance

instance : Plain (sendOcrq env t c) := by
  unfold sendOcrq
  infer_instance

instance : Plain (initiateCall env t c) := by
  unfold initiateCall
  infer_instance

instance : Plain (initiate env t c) := by
  unfold initiate
  split <;> infer_instance

instance {lac : Option LacRef} (change : Lac → Lac) : Plain (recordLac lac change) := by
  unfold recordLac
  split <;> infer_instance

instance {lns : Option LnsRef} (change : Lns → Lns) : Plain (recordLns lns change) := by
  unfold recordLns
  split <;> infer_instance

instance {parent : Option Tunnel} : Plain (newCall env parent) := by
  unfold newCall
  cases parent <;> infer_instance

instance {peer : SockAddr} {refme refhim : Nat} : Plain (newTunnel env peer refme refhim) := by
  unfold newTunnel
  infer_instance

instance {tunnel call : UInt16} {peer : SockAddr} {refme refhim : Nat} :
    Plain (getCall env tunnel call peer refme refhim) := by
  unfold getCall
  refine plain_bind fun state => ?_
  split
  · split <;> infer_instance
  · infer_instance

instance {host : Bytes} {port : Int} {lac : LacRef} {lns : Option LnsRef} :
    Plain (l2tpCall env host port (some lac) lns) := by
  unfold l2tpCall
  split
  · infer_instance
  · refine plain_bind fun found => ?_
    split <;> infer_instance

instance {lac : LacRef} : Plain (magicLacTunnel env lac) := by
  unfold magicLacTunnel
  refine plain_bind fun _ => plain_bind fun _ => ?_
  split
  · infer_instance
  · split <;> infer_instance

instance {tid : Int} {lac : Option LacRef} {lns : Option LnsRef} :
    Plain (lacCall env tid lac lns) := by
  unfold lacCall
  refine plain_bind fun state => ?_
  split <;> infer_instance

instance {lac : LacRef} : Plain (magicLacDial env lac) := by
  unfold magicLacDial
  refine plain_bind fun entry => ?_
  cases entry.t <;> infer_instance

/-! ## Branches of `control_finish` -/

instance {message : String} : Plain (refuse t c message) := by
  unfold refuse
  infer_instance

instance : Plain (respondSccrp env t) := by
  unfold respondSccrp
  infer_instance

instance {challenge : Bool} : Plain (challengeSccrp env t challenge) := by
  unfold challengeSccrp
  infer_instance

instance {entry : Lns} : Plain (answerSccrq env t c entry) := by
  unfold answerSccrq
  refine plain_bind fun _ => plain_bind fun _ => plain_bind fun _ => plain_bind fun _ =>
    plain_bind fun _ => ?_
  split <;> infer_instance

instance : Plain (finishSccrq env t c) := by
  unfold finishSccrq
  refine plain_bind fun tunnel => ?_
  split
  · infer_instance
  · refine plain_bind fun state => plain_bind fun _ => ?_
    split <;> infer_instance

instance : Plain (establish t) := by
  unfold establish
  infer_instance

instance : Plain (scheduleHello t) := by
  unfold scheduleHello
  infer_instance

instance : Plain (verifySccrp env t) := by
  unfold verifySccrp
  infer_instance

instance : Plain (respondScccn env t) := by
  unfold respondScccn
  infer_instance

instance : Plain (connectPppol2tp env t) := by
  unfold connectPppol2tp
  infer_instance

instance : Plain (dialOn env t) := by
  unfold dialOn
  refine plain_bind fun tunnel => ?_
  split <;> infer_instance

instance {response : Bytes} : Plain (answerSccrp env t c response) := by
  unfold answerSccrp
  infer_instance

instance : Plain (finishSccrp env t c) := by
  unfold finishSccrp
  refine plain_bind fun tunnel => ?_
  split
  · infer_instance
  split
  · infer_instance
  split
  · infer_instance
  refine plain_bind fun complaint => ?_
  split
  · infer_instance
  refine plain_bind fun response => ?_
  split <;> infer_instance

instance : Plain (finishStopccn t c) := by
  unfold finishStopccn
  infer_instance

instance : Plain (answerIcrq env t c) := by
  unfold answerIcrq
  infer_instance

instance (uaddr : Nat → List Nat) (ranges : List IpRange) : Plain (getAddr uaddr ranges) := by
  induction ranges with
  | nil => exact inferInstanceAs (Plain (pure 0))
  | cons range following ih =>
    unfold getAddr
    repeat' split
    all_goals infer_instance

instance {entry : Lns} : Plain (assignAddr t c entry) := by
  unfold assignAddr
  infer_instance

instance {Answer : Type} (answers : Nat → Answer) : Plain (askSystem answers) := by
  unfold askSystem
  infer_instance

instance {options : List Bytes} : Plain (startPppd env t c options) := by
  unfold startPppd
  refine plain_bind fun call => plain_bind fun _ => ?_
  unfold whenever
  split
  · refine plain_bind fun answer => ?_
    split <;> infer_instance
  · infer_instance

instance {lac : LacRef} {entry : Lac} {passed : Bool} :
    Plain (passwordOptions env lac entry passed) := by
  unfold passwordOptions
  split
  · refine plain_bind fun pipe => ?_
    split <;> infer_instance
  · infer_instance

instance : Plain (finishCdn t c) := by
  unfold finishCdn
  refine plain_bind fun tunnel => plain_bind fun call => ?_
  split
  · infer_instance
  · split <;> infer_instance

end Xl2tpd
