import Xl2tpd.Ledger.Call
import Xl2tpd.Sim.Control

/-!
# Dialing and the state machine in the ledger
-/

namespace Xl2tpd

set_option autoImplicit false

open Program

variable {rules : Rules} {env : Env} {state after : Daemon} {t : TunnelRef} {c : CallId}
  {lac : Option LacRef} {tunnel : Tunnel} {change : Lac → Lac} {uaddr : Nat → List Nat}
  {small large : Rules}

/-! ## Weaker rules -/

structure Rules.Le (small large : Rules) : Prop where
  touched : ∀ t, small.touched t → large.touched t
  destroys : small.destroys → large.destroys
  hellos : small.hellos → large.hellos
  expires : small.expires → large.expires
  edits : small.edits → large.edits
  toggles : small.toggles → large.toggles
  assigns : small.assigns → large.assigns
  single : large.single → small.single
  assigned : large.assigned → small.assigned
  kept : large.kept → small.kept
  dialed : ∀ lac, small.dialed lac → large.dialed lac
  rings : ∀ t, small.rings t → large.rings t

theorem Op.mono (le : small.Le large) (op : Op small env state after) :
    Op large env state after := by
  cases op with
  | aside same still hush =>
    exact .aside same (fun strict => still fun allow => strict (le.toggles allow))
      fun note member => ⟨(hush note member).1, fun strict =>
        (hush note member).2 fun allow => strict (le.hellos allow)⟩
  | store t change touch keeps => exact .store t change (le.touched _ touch) keeps
  | link tunnel lac touch blank free idle dial =>
    exact .link tunnel lac (le.touched _ touch) blank free (fun single => idle (le.single single))
      fun ref isLac => le.dialed ref (dial ref isLac)
  | choose t lns touch known => exact .choose t lns (le.touched _ touch) known
  | inherit t c mandatory tunnel call touch found made ring =>
    exact .inherit t c mandatory tunnel call (le.touched _ touch) found made (le.rings t ring)
  | place t tunnel call lac touch found known idle made dial =>
    exact .place t tunnel call lac (le.touched _ touch) found known
      (fun single => idle (le.single single)) made fun ref isLac => le.dialed ref (dial ref isLac)
  | destroyCall t ref touch allow ran =>
    exact .destroyCall t ref (le.touched _ touch) (le.destroys allow) ran
  | bury t tunnel touch allow found empty ran =>
    exact .bury t tunnel (le.touched _ touch) (le.destroys allow) found empty ran
  | assign t ref addr touch free bare allow known =>
    exact .assign t ref addr (le.touched _ touch) free
      (fun assigned => bare (le.assigned assigned)) (le.assigns allow) known
  | lease lns own entry addr found ranged free allow =>
    exact .lease lns own entry addr found ranged free (le.assigns allow)
  | hello t delay touch allow => exact .hello t delay (le.touched _ touch) (le.hellos allow)
  | queue delay buffer touch => exact .queue delay buffer (le.touched _ touch)
  | expire entry rest allow head => exact .expire entry rest (le.expires allow) head
  | deschedule t touch allow => exact .deschedule t (le.touched _ touch) (le.destroys allow)
  | retry lac idle dial =>
    exact .retry lac (fun single => idle (le.single single)) (le.dialed lac dial)
  | postpone lac idle ran dial =>
    exact .postpone lac (fun single => idle (le.single single)) ran (le.dialed lac dial)
  | addLac entry blank => exact .addLac entry blank
  | dropLac lac touch ran kept =>
    exact .dropLac lac (fun t => le.touched t (touch t)) ran fun holds => kept (le.kept holds)
  | addLns entry named plain => exact .addLns entry named plain
  | editLns lns change allow named => exact .editLns lns change (le.edits allow) named
  | dropLns lns kept => exact .dropLns lns fun holds => kept (le.kept holds)

theorem ops_mono {Value : Type} {program : Prog Value} (le : small.Le large)
    (ops : Ops small env program state) : Ops large env program state :=
  fun value after ran =>
    Relation.ReflTransGen.mono (fun _ _ op => Op.mono le op) _ _ (ops value after ran)

def Rules.near (rules : Rules) (env : Env) (t : TunnelRef) : Rules :=
  { rules with
    touched := fun other => other = t
    destroys := env.maxRetries = 0
    expires := False
    edits := False
    toggles := False
    assigns := False
    dialed := fun _ => False
    rings := fun _ => False }

theorem Rules.near_le (touch : rules.touched t) (fails : env.maxRetries = 0 → rules.destroys) :
    (rules.near env t).Le rules where
  touched := by
    rintro _ rfl
    exact touch
  destroys := fails
  hellos := id
  expires := False.elim
  edits := False.elim
  toggles := False.elim
  assigns := False.elim
  single := id
  assigned := id
  kept := id
  dialed := fun _ => False.elim
  rings := fun _ => False.elim

/-! ## Dialing -/

section

variable (touch : rules.touched t)

include touch

theorem drawChallenge_ops : Ops rules env (drawChallenge env t) state := by
  refine yields_bind ops_getEntropy fun _ _ _ => ?_
  refine yields_bind (ops_storeTunnel touch fun _ => rfl) fun _ _ _ => ?_
  exact yields_bind (ops_emit ⟨rfl, fun _ => rfl⟩) fun _ _ _ => yields_pure _

theorem adoptEntry_ops : Ops rules env (adoptEntry t) state := by
  refine yields_readTunnel fun tunnel _ => ?_
  split
  · exact yields_readLns fun _ _ => ops_storeTunnel touch fun _ => rfl
  · split
    · exact yields_readLac fun _ _ => ops_storeTunnel touch fun _ => rfl
    · exact yields_pure _

theorem openChallenge_ops : Ops rules env (openChallenge env t) state := by
  refine yields_readTunnel fun tunnel _ =>
    yields_reads (ownerChallenge_reads tunnel) fun wants _ => ?_
  refine yields_ite (fun _ => ?_) fun _ => yields_pure _
  refine yields_bind (drawChallenge_ops touch) fun _ _ _ => ?_
  exact yields_bind (ops_storeTunnel touch fun _ => rfl) fun _ _ _ => yields_pure _

theorem initiateTunnel_ops (fails : env.maxRetries = 0 → rules.destroys) :
    Ops rules env (initiateTunnel env t) state := by
  refine yields_bind (adoptEntry_ops touch) fun _ _ _ => ?_
  refine yields_bind (addVector_ops touch) fun _ _ _ => ?_
  refine yields_reads (capabilityAvps_reads env t) fun _ _ => ?_
  refine yields_bind (openChallenge_ops touch) fun _ _ _ => ?_
  refine yields_bind (ops_storeTunnel touch fun _ => rfl) fun _ _ _ => ?_
  refine yields_bind (ops_storeCall touch fun _ => rfl) fun _ _ _ => ?_
  exact sendControl_ops touch fails

theorem takeSerno_ops : Ops rules env (takeSerno t c) state := by
  refine yields_get (yields_bind (ops_storeCall touch fun _ => rfl) fun _ _ _ => ?_)
  refine yields_bind (ops_aside ?_ rfl rfl) fun _ _ _ => yields_pure _
  exact ⟨rfl, rfl, rfl, rfl, rfl, rfl, rfl, Nat.le_refl _, Nat.le_refl _, List.prefix_rfl⟩

end

section Calls

variable (touch : rules.touched t) (fails : env.maxRetries = 0 → rules.destroys)

include touch fails

theorem sendIcrq_ops : Ops rules env (sendIcrq env t c) state := by
  refine yields_readCall fun call _ => yields_reads (entryLbit_reads call) fun _ _ => ?_
  refine yields_bind (ops_storeCall touch fun _ => rfl) fun _ _ _ => ?_
  refine yields_bind (addVector_ops touch) fun _ _ _ => ?_
  refine yields_bind (takeSerno_ops touch) fun _ _ _ => ?_
  refine yields_bind (ops_storeCall touch fun _ => rfl) fun _ _ _ => ?_
  exact sendControl_ops touch fails

theorem sendOcrq_ops : Ops rules env (sendOcrq env t c) state := by
  refine yields_readTunnel fun tunnel _ => yields_readCall fun call _ => ?_
  refine yields_reads (outgoingLbit_reads call) fun _ _ => ?_
  refine yields_bind (ops_storeCall touch fun _ => rfl) fun _ _ _ => ?_
  refine yields_bind (takeSerno_ops touch) fun _ _ _ => ?_
  refine yields_bind (ops_storeCall touch fun _ => rfl) fun _ _ _ => ?_
  exact sendControl_ops touch fails

theorem initiateCall_ops : Ops rules env (initiateCall env t c) state :=
  yields_get (yields_ite (fun _ => sendIcrq_ops touch fails) fun _ => sendOcrq_ops touch fails)

end Calls

def Env.newborn (env : Env) (state : Daemon) (peer : SockAddr) (refme refhim : Nat) : Tunnel :=
  { ref := state.fresh
    ourtid := env.number state.drawn
    peer := peer
    refme := refme
    refhim := refhim
    self := { ref := state.fresh + 1, container := state.fresh, ourfbit := true } }

theorem getCall_makes (env : Env) (state : Daemon) (peer : SockAddr) (refme refhim : Nat) :
    getCall env 0 0 peer refme refhim state =
      .ok (some (state.fresh, .self)) (state.opened (env.newborn state peer refme refhim)) := rfl

theorem newborn_deed (state : Daemon) (peer : SockAddr) (refme refhim : Nat) :
    (env.newborn state peer refme refhim).deed =
      TunnelDeed.blank state.fresh (env.number state.drawn) none := rfl

theorem getCall_ops {tunnel call : UInt16} {peer : SockAddr} {refme refhim : Nat}
    (born : tunnel = 0 → rules.touched state.fresh) :
    Ops rules env (getCall env tunnel call peer refme refhim) state := by
  by_cases special : tunnel = 0
  · by_cases calls : call = 0
    · subst special calls
      apply yields_once
      intro found after ran
      rw [getCall_makes] at ran
      cases ran
      exact .link _ none (born rfl) (newborn_deed state peer refme refhim)
        (fun _ some => by cases some) (fun _ _ some => by cases some) fun _ some => by cases some
    · refine yields_get ?_
      rw [if_neg (not_not.mpr special), if_pos calls]
      exact yields_pure _
  · refine yields_get ?_
    rw [if_pos special]
    split
    · exact yields_pure _
    · exact yields_ite (fun _ => yields_pure _) fun _ => yields_pure _

theorem recordLac_ok (ran : recordLac lac change state = .ok () after) :
    after = state.record lac change := by
  cases lac with
  | none =>
    cases ran
    rfl
  | some ref =>
    obtain ⟨_, _, ran⟩ := ok_deref ran
    cases ran
    rfl

theorem setTunnel_opened {change : Tunnel → Tunnel} (named : tunnel.ref = state.fresh) :
    (state.opened tunnel).setTunnel state.fresh change = state.opened (change tunnel) := by
  simp only [Daemon.setTunnel, Daemon.opened]
  rw [Keyed.update, if_pos named]

theorem l2tpCall_ops {host : Bytes} {port : Int} (born : rules.touched state.fresh)
    (fails : env.maxRetries = 0 → rules.destroys)
    (free : ∀ ref, lac = some ref → ∃ entry, state.lac? ref = some entry ∧ entry.t = none)
    (idle : rules.single → ∀ ref, lac = some ref → state.Idle ref)
    (dial : ∀ ref, lac = some ref → rules.dialed ref) :
    Ops rules env (l2tpCall env host port lac none) state := by
  unfold l2tpCall
  split
  · refine yields_nonNull fun ref isLac => yields_bind (yields_once ?_) fun _ _ _ => yields_pure _
    exact fun _ _ ran => .postpone ref (fun single => idle single ref isLac) ran (dial ref isLac)
  · intro value last ran
    rename_i addr _
    obtain ⟨_, _, made, ran⟩ := bind_ok.mp ran
    rw [getCall_makes] at made
    cases made
    obtain ⟨_, _, ran⟩ := ok_writeTunnel ran
    rw [setTunnel_opened rfl] at ran
    obtain ⟨_, _, recorded, ran⟩ := bind_ok.mp ran
    rw [recordLac_ok recorded] at ran
    have rest := yields_bind (initiateTunnel_ops born fails) (fun _ _ _ => yields_pure _) value
      last ran
    exact Relation.ReflTransGen.head (.link _ lac born rfl free idle dial) rest

theorem magicLacTunnel_ops {lac : LacRef} (born : rules.touched state.fresh)
    (fails : env.maxRetries = 0 → rules.destroys)
    (free : ∀ entry, state.lac? lac = some entry → entry.t = none)
    (idle : rules.single → state.Idle lac) (dial : rules.dialed lac) :
    Ops rules env (magicLacTunnel env lac) state := by
  refine yields_readLac fun entry found => yields_get ?_
  have dials : ∀ host : Host, Ops rules env
      (l2tpCall env host.hostname host.port (some lac) none >>= fun _ => pure ()) state := by
    intro host
    refine yields_bind (l2tpCall_ops born fails ?_ ?_ ?_) fun _ _ _ => yields_pure _
    · rintro _ ⟨⟩
      exact ⟨entry, found, free entry found⟩
    · rintro single _ ⟨⟩
      exact idle single
    · rintro _ ⟨⟩
      exact dial
  split
  · exact dials _
  · split
    · exact dials _
    · exact yields_pure _

def Daemon.byNumber (state : Daemon) (tid : Int) : Option Tunnel :=
  state.tunnels.find? fun tunnel => (tunnel.ourtid.toNat : Int) = tid

theorem lacCall_ops {tid : Int}
    (touch : ∀ tunnel, state.byNumber tid = some tunnel → rules.touched tunnel.ref)
    (fails : env.maxRetries = 0 → rules.destroys)
    (known : ∀ ref, lac = some ref → (state.lac? ref).isSome)
    (idle : rules.single → ∀ ref tunnel, lac = some ref → state.byNumber tid = some tunnel →
      state.Idle ref ∧ ∃ entry, state.lac? ref = some entry ∧ entry.t = some tunnel.ref)
    (dial : ∀ ref, lac = some ref → rules.dialed ref) :
    Ops rules env (lacCall env tid lac none) state := by
  refine yields_get ?_
  split
  · exact yields_pure _
  · rename_i tunnel numbered
    intro value last ran
    obtain ⟨call, _, made, ran⟩ := bind_ok.mp ran
    cases made
    obtain ⟨before, found, ran⟩ := ok_writeTunnel ran
    obtain ⟨_, _, recorded, ran⟩ := bind_ok.mp ran
    rw [recordLac_ok recorded] at ran
    have touched := touch tunnel numbered
    have named : before.ref = tunnel.ref := Keyed.find_key found
    have rest := yields_bind (initiateCall_ops touched fails) (fun _ _ _ => yields_pure _) value
      last ran
    exact Relation.ReflTransGen.head (.place tunnel.ref before _ lac touched found known
      (fun single ref isLac => idle single ref tunnel isLac numbered) (named ▸ rfl) dial) rest

/-- What the rules ask of a state in which a LAC entry is dialed. -/
structure Rules.Dials (rules : Rules) (state : Daemon) (lac : LacRef) : Prop where
  born : rules.touched state.fresh
  called : ∀ entry t tunnel other, state.lac? lac = some entry → entry.t = some t →
    state.tunnel? t = some tunnel → state.byNumber tunnel.ourtid.toNat = some other →
    rules.touched other.ref ∧ (rules.single → other.ref = t)
  idle : rules.single → (state.lac? lac).isSome → state.Idle lac
  dialed : rules.dialed lac

theorem lac_setLac {lac other : LacRef} {change : Lac → Lac}
    (keeps : ∀ entry, (change entry).ref = entry.ref) :
    (state.setLac lac change).lac? other =
      if other = lac then (state.lac? other).map change else state.lac? other :=
  Keyed.find_update keeps

theorem magicLacDial_ops {lac : LacRef} (dials : rules.Dials state lac)
    (fails : env.maxRetries = 0 → rules.destroys) :
    Ops rules env (magicLacDial env lac) state := by
  refine yields_readLac fun entry found => yields_whenever fun _ => ?_
  have known : (state.lac? lac).isSome := by
    rw [found]
    rfl
  refine yields_bind (yields_readLac fun _ _ => yields_modify
    (.retry lac (fun single => dials.idle single known) dials.dialed))
    fun _ tried ran => yields_whenever fun _ => ?_
  obtain ⟨_, _, wrote⟩ := ok_deref ran
  cases wrote
  have retried := @lac_setLac state lac lac
    (fun entry => { entry with rsched := none, rtries := entry.rtries + 1 }) fun _ => rfl
  rw [if_pos rfl, found] at retried
  have idle : rules.single → (state.setLac lac fun entry =>
      { entry with rsched := none, rtries := entry.rtries + 1 }).Idle lac := by
    intro single
    refine ⟨(dials.idle single known).1, fun other foundOther => ?_⟩
    rw [retried] at foundOther
    cases foundOther
    exact (dials.idle single known).2 entry found
  split
  · rename_i unopened
    refine magicLacTunnel_ops dials.born fails ?_ idle dials.dialed
    intro other foundOther
    rw [retried] at foundOther
    cases foundOther
    exact unopened
  · rename_i t opened
    refine yields_readTunnel fun tunnel foundTunnel => ?_
    refine yields_bind (lacCall_ops ?_ fails ?_ ?_ ?_) fun _ _ _ => yields_pure _
    · intro other numbered
      exact (dials.called entry t tunnel other found opened foundTunnel numbered).1
    · rintro _ ⟨⟩
      rw [retried]
      rfl
    · rintro single _ other ⟨⟩ numbered
      have same := (dials.called entry t tunnel other found opened foundTunnel numbered).2 single
      exact ⟨idle single, _, retried, opened.trans (congrArg some same.symm)⟩
    · rintro _ ⟨⟩
      exact dials.dialed

/-! ## Tunnel management -/

theorem setChal_deed (tunnel : Tunnel) (side : ChalSide) (change : Challenge → Challenge) :
    (tunnel.setChal side change).deed = tunnel.deed := by
  cases side <;> rfl

section

variable (touch : rules.touched t)

include touch

theorem handleChallenge_ops {side : ChalSide} :
    Ops rules env (handleChallenge env t side) state := by
  refine yields_readTunnel fun tunnel _ =>
    yields_reads (challengeNames_reads env tunnel) fun names _ => ?_
  split
  · exact yields_pure _
  · split
    · exact yields_pure _
    · exact yields_bind (ops_storeTunnel touch fun tunnel => setChal_deed tunnel side _)
        fun _ _ _ => yields_pure _

theorem refuse_ops {message : String} : Ops rules env (refuse t c message) state :=
  yields_bind (ops_storeCall touch fun _ => rfl) fun _ _ _ => yields_pure _

theorem respond_ops {Value : Type} {side : ChalSide} {change : Challenge → Challenge}
    {next : Bool → Prog Value} (rest : ∀ success later, Ops rules env (next success) later) :
    Ops rules env (writeTunnel t (fun tunnel => tunnel.setChal side change) >>= fun _ =>
      handleChallenge env t side >>= next) state := by
  refine yields_bind (ops_storeTunnel touch fun tunnel => setChal_deed tunnel side change)
    fun _ _ _ => ?_
  exact yields_bind (handleChallenge_ops touch) fun success later _ => rest success later

theorem respondSccrp_ops : Ops rules env (respondSccrp env t) state := by
  refine yields_readTunnel fun tunnel _ => yields_ite (fun _ => ?_) fun _ => yields_pure _
  exact respond_ops touch fun _ _ => yields_readTunnel fun _ _ => yields_pure _

theorem challengeSccrp_ops {challenge : Bool} :
    Ops rules env (challengeSccrp env t challenge) state := by
  refine yields_ite (fun _ => ?_) fun _ => yields_pure _
  refine yields_bind (drawChallenge_ops touch) fun _ _ _ => ?_
  exact respond_ops touch fun _ _ => yields_pure _

theorem answerSccrq_ops {entry : Lns} (fails : env.maxRetries = 0 → rules.destroys) :
    Ops rules env (answerSccrq env t c entry) state := by
  refine yields_bind (ops_storeTunnel touch fun _ => rfl) fun _ _ _ => ?_
  refine yields_bind (addVector_ops touch) fun _ _ _ => ?_
  refine yields_reads (capabilityAvps_reads env t) fun _ _ => ?_
  refine yields_bind (respondSccrp_ops touch) fun _ _ _ => ?_
  refine yields_bind (challengeSccrp_ops touch) fun challenge _ _ => ?_
  cases challenge with
  | none => exact refuse_ops touch
  | some challenge =>
    refine yields_bind (ops_storeCall touch fun _ => rfl) fun _ _ _ => ?_
    exact yields_bind (sendControl_ops touch fails)
      fun _ _ _ => yields_pure _

end

theorem finishSccrq_ops (touch : rules.touched t) (fails : env.maxRetries = 0 → rules.destroys) :
    Ops rules env (finishSccrq env t c) state := by
  refine yields_readTunnel fun tunnel _ =>
    yields_ite (fun _ => refuse_ops touch) fun _ => yields_get ?_
  have known : ∀ ref, getLns env state tunnel = some ref → (state.lns? ref).isSome := by
    intro ref chosen
    have shown := getLns_known chosen
    simp only [Daemon.view, Option.isSome_map] at shown
    exact shown
  refine yields_bind (yields_readTunnel fun _ _ =>
    yields_modify (.choose t (getLns env state tunnel) touch known)) fun _ _ _ => ?_
  split
  · exact refuse_ops touch
  · refine yields_readLns fun entry _ => ?_
    refine yields_bind (ops_storeTunnel touch fun _ => rfl) fun _ _ _ => ?_
    refine yields_ite (fun _ => refuse_ops touch) fun _ =>
      yields_ite (fun _ => refuse_ops touch) fun _ => yields_ite (fun _ => ?_) fun _ => ?_
    · exact yields_bind (ops_storeCall touch fun _ => rfl) fun _ _ _ => yields_pure _
    · exact answerSccrq_ops touch fails

theorem establish_ops (touch : rules.touched t) : Ops rules env (establish t) state := by
  refine yields_bind (ops_storeTunnel touch fun _ => rfl) fun _ _ _ => ?_
  exact yields_readTunnel fun _ _ => yields_get (ops_emit ⟨rfl, fun _ => rfl⟩)

theorem connectPppol2tp_ops (allow : rules.hellos) :
    Ops rules env (connectPppol2tp env t) state :=
  yields_whenever fun _ => ops_emit ⟨rfl, absurd allow⟩

theorem scheduleHello_ops (touch : rules.touched t) (allow : rules.hellos) :
    Ops rules env (scheduleHello t) state := by
  refine yields_readTunnel fun _ _ => yields_bind (yields_once ?_) fun _ _ _ => yields_pure _
  intro _ after ran
  obtain ⟨_, rfl⟩ := schedule_ok ran
  exact .hello t helloDelay touch allow

theorem verifySccrp_ops (touch : rules.touched t) : Ops rules env (verifySccrp env t) state := by
  refine yields_readTunnel fun tunnel _ => yields_ite (fun _ => ?_) fun _ => yields_pure _
  refine respond_ops touch fun _ _ => yields_readTunnel fun _ _ => ?_
  exact yields_ite (fun _ => yields_pure _) fun _ =>
    yields_ite (fun _ => yields_pure _) fun _ => yields_pure _

theorem respondScccn_ops (touch : rules.touched t) : Ops rules env (respondScccn env t) state := by
  refine yields_readTunnel fun tunnel _ => yields_ite (fun _ => ?_) fun _ => yields_pure _
  exact respond_ops touch fun _ _ => yields_readTunnel fun _ _ => yields_pure _

/-! ### A tunnel that goes on to dial -/

/-- What the rules ask of the states in which a message has the tunnel's LAC entry dialed. -/
def Rules.DialsOn (rules : Rules) (env : Env) (t : TunnelRef) (state : Daemon) : Prop :=
  ∀ middle tunnel lac, Relation.ReflTransGen (Op (rules.near env t) env) state middle →
    middle.tunnel? t = some tunnel → tunnel.lac = some lac → rules.Dials middle lac

section DialOn

variable {Value Other : Type} (touch : rules.touched t)
  (fails : env.maxRetries = 0 → rules.destroys) (dials : rules.DialsOn env t state)

include touch fails dials

theorem ops_near {program : Prog Value} {next : Value → Prog Other}
    (first : Ops (rules.near env t) env program state)
    (rest : ∀ value after, program state = .ok value after → rules.DialsOn env t after →
      Ops rules env (next value) after) :
    Ops rules env (program >>= next) state := by
  refine yields_bind (ops_mono (Rules.near_le touch fails) first) fun value after ran => ?_
  apply rest value after ran
  intro middle tunnel lac steps found owner
  exact dials middle tunnel lac ((first value after ran).trans steps) found owner

omit touch in
theorem dialOn_ops : Ops rules env (dialOn env t) state := by
  refine yields_readTunnel fun tunnel found => ?_
  split
  · exact yields_pure _
  · rename_i lac owner
    exact magicLacDial_ops (dials state tunnel lac .refl found owner) fails

theorem answerSccrp_ops {response : Bytes} (hello : rules.hellos) :
    Ops rules env (answerSccrp env t c response) state := by
  refine ops_near touch fails dials (establish_ops rfl) fun _ _ _ dials => ?_
  refine ops_near touch fails dials (addVector_ops rfl) fun _ _ _ dials => ?_
  refine ops_near touch fails dials (ops_storeCall rfl fun _ => rfl) fun _ _ _ dials => ?_
  refine ops_near touch fails dials (sendControl_ops rfl id)
    fun _ _ _ dials => ?_
  refine ops_near touch fails dials (connectPppol2tp_ops hello) fun _ _ _ dials => ?_
  refine ops_near touch fails dials (scheduleHello_ops rfl hello) fun _ _ _ dials => ?_
  exact dialOn_ops fails dials

theorem finishSccrp_ops (hello : rules.hellos) : Ops rules env (finishSccrp env t c) state := by
  refine yields_readTunnel fun tunnel _ => yields_ite (fun _ => refuse_ops touch) fun _ =>
    yields_ite (fun _ => refuse_ops touch) fun _ => yields_ite (fun _ => refuse_ops touch) fun _ => ?_
  refine ops_near touch fails dials (verifySccrp_ops rfl) fun complaint _ _ dials => ?_
  cases complaint with
  | some message => exact refuse_ops touch
  | none =>
    refine ops_near touch fails dials (respondScccn_ops rfl) fun response _ _ dials => ?_
    cases response with
    | none => exact refuse_ops touch
    | some response =>
      exact yields_bind (answerSccrp_ops touch fails dials hello) fun _ _ _ => yields_pure _

end DialOn

theorem finishScccn_ops (touch : rules.touched t) (hello : rules.hellos) :
    Ops rules env (finishScccn env t c) state := by
  refine yields_readTunnel fun tunnel _ => yields_ite (fun _ => refuse_ops touch) fun _ => ?_
  refine yields_bind (establish_ops touch) fun _ _ _ => yields_nonNull fun lns _ => ?_
  refine yields_readLns fun _ _ => yields_bind (connectPppol2tp_ops hello) fun _ _ _ => ?_
  exact yields_bind (scheduleHello_ops touch hello) fun _ _ _ => yields_pure _

theorem finishStopccn_ops (touch : rules.touched t) :
    Ops rules env (finishStopccn t c) state := by
  refine yields_readTunnel fun tunnel _ => yields_ite (fun _ => yields_pure _) fun _ =>
    yields_ite (fun _ => yields_pure _) fun _ => ?_
  refine yields_bind (ops_storeTunnel touch fun _ => rfl) fun _ _ _ =>
    yields_ite (fun _ => yields_pure _) fun _ => ?_
  exact yields_bind (ops_storeCall touch fun _ => rfl) fun _ _ _ => yields_pure _

/-! ## Call management -/

theorem startPppd_ops {options : List Bytes} (touch : rules.touched t) :
    Ops rules env (startPppd env t c options) state := by
  refine yields_readCall fun call _ => yields_bind
    (ops_emit ⟨rfl, fun _ => rfl⟩) fun _ _ _ => yields_whenever fun _ => ?_
  refine yields_bind ops_askSystem fun answer _ _ => ?_
  cases answer with
  | noDevice => exact yields_pure _
  | noTty fd => exact yields_whenever fun _ => ops_storeCall touch fun _ => rfl
  | forked fd pid => exact ops_storeCall touch fun _ => rfl

theorem answerIcrq_ops (touch : rules.touched t) (fails : env.maxRetries = 0 → rules.destroys) :
    Ops rules env (answerIcrq env t c) state := by
  refine yields_readCall fun call _ => yields_bind (ops_storeCall touch fun _ => rfl)
    fun _ _ _ => ?_
  refine yields_bind (addVector_ops touch) fun _ _ _ => ?_
  refine yields_bind (ops_storeCall touch fun _ => rfl) fun _ _ _ => ?_
  exact yields_bind (sendControl_ops touch fails) fun _ _ _ => yields_pure _

theorem scanAddr_free {following : List IpRange} {count first addr : Nat}
    (found : scanAddr uaddr following first count = some addr) : ipUsed uaddr addr = false := by
  induction count generalizing first with
  | zero => cases found
  | succ count ih =>
    rw [scanAddr] at found
    split at found
    · rename_i free
      cases found
      simp only [Bool.and_eq_true, Bool.not_eq_true'] at free
      exact free.1
    · exact ih found

theorem getAddr_free {ranges : List IpRange} {addr : Nat}
    (ran : getAddr uaddr ranges state = .ok addr after) : addr = 0 ∨ ipUsed uaddr addr = false := by
  induction ranges with
  | nil =>
    cases ran
    exact .inl rfl
  | cons range following ih =>
    rw [getAddr] at ran
    split at ran
    · exact ih ran
    split at ran
    · cases found : scanAddr uaddr following range.start (range.stop + 1 - range.start) with
      | none =>
        simp only [found] at ran
        exact ih ran
      | some scanned =>
        simp only [found] at ran
        cases ran
        exact .inr (scanAddr_free found)
    · cases found : scanAddr uaddr following range.start (2 ^ 32 - range.start) with
      | some scanned =>
        simp only [found] at ran
        cases ran
        exact .inr (scanAddr_free found)
      | none =>
        cases later : scanAddr uaddr following 0 (2 ^ 32) with
        | some scanned =>
          simp only [found, later] at ran
          cases ran
          exact .inr (scanAddr_free later)
        | none =>
          simp only [found, later] at ran
          cases ran

theorem reserveAddr_ok {addr : Nat} {value : PUnit} (unused : ipUsed state.uaddr addr = false)
    (ran : reserveAddr addr state = .ok value after) :
    after = { state with uaddr := reserved state.uaddr addr } := by
  have result : after = if ipUsed state.uaddr addr then state
      else { state with uaddr := reserved state.uaddr addr } := by
    cases ran
    rfl
  rw [unused] at result
  exact result

theorem assignAddr_ops {ref : CallRef} {entry : Lns} (touch : rules.touched t)
    (allow : rules.assigns)
    (bare : rules.assigned → ∀ call, state.call? t (.call ref) = some call → call.addr = 0) :
    Ops rules env (assignAddr t (.call ref) entry) state := by
  apply yields_once
  intro assigned after ran
  unfold assignAddr at ran
  split at ran
  · obtain ⟨addr, read, ran⟩ := ok_reads (getAddr_reads _ _) ran
    have free := getAddr_free read
    obtain ⟨_, _, found, foundCall, ran⟩ := ok_writeCall ran
    have known : (state.call? t (.call ref)).isSome := by
      rw [some_call found foundCall]
      rfl
    split at ran
    · rename_i none
      cases ran
      have op : Op rules env state _ := .assign t ref addr touch free bare allow known
      rw [if_pos none] at op
      exact op
    · rename_i given
      obtain ⟨_, _, took, ran⟩ := bind_ok.mp ran
      cases ran
      have unused := free.resolve_left given
      have op : Op rules env state _ := .assign t ref addr touch free bare allow known
      rw [if_neg given] at op
      have result := reserveAddr_ok (by exact unused) took
      rw [result]
      exact op
  · obtain ⟨_, _, found, foundCall, ran⟩ := ok_writeCall ran
    cases ran
    have known : (state.call? t (.call ref)).isSome := by
      rw [some_call found foundCall]
      rfl
    exact Op.assign t ref 0 touch (.inl rfl) bare allow known

def Daemon.HeadBare (state : Daemon) (t : TunnelRef) : Prop :=
  ∀ tunnel head, state.tunnel? t = some tunnel → tunnel.calls.head? = some head → head.addr = 0

theorem finishIcrq_ops (touch : rules.touched t) (destroy : rules.destroys)
    (allow : rules.assigns) (bare : rules.assigned → state.HeadBare t) :
    Ops rules env (finishIcrq env t) state := by
  have closes : ∀ (ref : CallRef) later,
      Ops rules env (callClose env t (.call ref) >>= fun _ => pure false) later :=
    fun ref later => yields_bind (callClose_ops touch destroy) fun _ _ _ => yields_pure _
  refine yields_readTunnel fun tunnel found => yields_nonNull fun head first => ?_
  cases owner : head.lns with
  | none =>
    exact yields_bind (ops_storeCall touch fun _ => rfl) fun _ later _ => closes _ later
  | some lns =>
    refine yields_readLns fun entry _ => ?_
    refine yields_bind (ops_storeCall touch fun _ => rfl) fun _ stored ran => ?_
    refine yields_ite (fun _ => closes _ _) fun _ => yields_ite (fun _ => ?_) fun _ => ?_
    · exact yields_bind (ops_storeCall touch fun _ => rfl) fun _ _ _ => yields_pure _
    refine yields_nonNull fun _ _ => yields_readLns fun entry _ => ?_
    refine yields_bind (assignAddr_ops touch allow ?_) fun assigned _ _ => ?_
    · intro strict call foundCall
      obtain ⟨same, foundSame, stillFound⟩ := call_some foundCall
      obtain ⟨_, _, _, _, rfl⟩ := writeCall_ok ran
      rw [tunnel_setCall found] at foundSame
      cases foundSame
      rw [Tunnel.call_setCall (by intro _; rfl), Tunnel.call_head first] at stillFound
      cases stillFound
      exact bare strict tunnel head found first
    · refine yields_ite (fun _ => ?_) fun _ => ?_
      · exact yields_bind (ops_storeCall touch fun _ => rfl) fun _ later _ => closes _ later
      exact answerIcrq_ops touch fun _ => destroy

theorem passwordOptions_ops {lac : LacRef} {entry : Lac} {passed : Bool} :
    Ops rules env (passwordOptions env lac entry passed) state := by
  refine yields_ite (fun _ => yields_bind ops_askSystem fun pipe _ _ => ?_) fun _ => yields_pure _
  cases pipe with
  | none => exact yields_pure _
  | some fd =>
    exact yields_bind (yields_whenever fun _ => ops_storeLac (fun _ => rfl) fun _ _ => rfl)
      fun _ _ _ => yields_pure _

theorem startLacPppd_ops {options : List Bytes} {password : Bool} (touch : rules.touched t) :
    Ops rules env (startLacPppd env t c options password) state := by
  refine yields_readTunnel fun tunnel _ => yields_readCall fun call _ =>
    yields_nonNull fun lac _ => ?_
  refine yields_readLac fun entry _ => yields_bind passwordOptions_ops fun secret _ _ => ?_
  cases secret with
  | none => exact yields_pure _
  | some secret =>
    refine yields_bind (startPppd_ops touch) fun _ _ _ => ?_
    exact yields_bind (ops_storeLac (fun _ => rfl) fun _ _ => rfl) fun _ _ _ => yields_pure _

theorem finishIcrp_ops (touch : rules.touched t) (fails : env.maxRetries = 0 → rules.destroys) :
    Ops rules env (finishIcrp env t c) state := by
  refine yields_readTunnel fun tunnel _ => yields_readCall fun call _ =>
    yields_ite (fun _ => ?_) fun _ => ?_
  · exact yields_bind (ops_storeCall touch fun _ => rfl) fun _ _ _ => yields_pure _
  refine yields_bind (ops_storeCall touch fun _ => rfl) fun _ _ _ => ?_
  refine yields_bind (addVector_ops touch) fun _ _ _ => ?_
  refine yields_bind (ops_storeCall touch fun _ => rfl) fun _ _ _ => ?_
  exact yields_bind (sendControl_ops touch fails)
    fun _ _ _ => startLacPppd_ops touch

theorem writeLns_ok {lns : LnsRef} {change : Lns → Lns} {value : Unit}
    (ran : writeLns lns change state = .ok value after) : after = state.setLns lns change := by
  obtain ⟨_, _, ran⟩ := ok_deref ran
  cases ran
  rfl

theorem getLocalAddr_ops (touch : rules.touched t) (destroy : rules.destroys)
    (allow : rules.assigns) :
    Ops rules env (getLocalAddr env t c) state := by
  refine yields_readTunnel fun tunnel _ => yields_nonNull fun lns _ =>
    yields_readLns fun entry known => ?_
  refine yields_ite (fun _ => yields_pure _) fun ranged => yields_readCall fun call _ => ?_
  refine yields_nonNull fun own _ => yields_get (yields_reads (getAddr_reads _ _) fun addr read => ?_)
  have free := getAddr_free read
  have closes : ∀ later, Ops rules env
      (setError t c errorNores (text "No available local IP addresses") >>= fun _ =>
        callClose env t c >>= fun _ => pure false) later :=
    fun later => yields_bind (ops_storeCall touch fun _ => rfl) fun _ _ _ =>
      yields_bind (callClose_ops touch destroy) fun _ _ _ => yields_pure _
  intro value last ran
  obtain ⟨_, _, wrote, ran⟩ := bind_ok.mp ran
  rw [writeLns_ok wrote] at ran
  have op : Op rules env state _ := .lease lns own entry addr known ranged free allow
  split at ran
  · rename_i none
    rw [if_pos none] at op
    exact Relation.ReflTransGen.head op (closes _ value last ran)
  · rename_i given
    rw [if_neg given] at op
    obtain ⟨_, _, took, ran⟩ := bind_ok.mp ran
    cases ran
    have result := reserveAddr_ok (by exact free.resolve_left given) took
    rw [result]
    exact Relation.ReflTransGen.single op

theorem finishIccn_ops (touch : rules.touched t) (destroy : rules.destroys) (allow : rules.assigns) :
    Ops rules env (finishIccn env t c) state := by
  refine yields_ite (fun _ => yields_pure _) fun _ => ?_
  refine yields_bind (ops_storeCall touch fun _ => rfl) fun _ _ _ => ?_
  refine yields_bind (getLocalAddr_ops touch destroy allow) fun success _ _ => ?_
  refine yields_ite (fun _ => yields_pure _) fun _ => yields_readTunnel fun tunnel _ => ?_
  refine yields_readCall fun call _ => yields_nonNull fun lns _ => yields_readLns fun entry _ => ?_
  exact yields_bind (startPppd_ops touch) fun _ _ _ => yields_pure _

theorem finishOccn_ops (touch : rules.touched t) : Ops rules env (finishOccn env t c) state :=
  yields_readCall fun _ _ => startLacPppd_ops touch

theorem finishCdn_ops (touch : rules.touched t) : Ops rules env (finishCdn t c) state := by
  refine yields_readTunnel fun tunnel _ => yields_readCall fun call _ =>
    yields_ite (fun _ => yields_pure _) fun _ => ?_
  split
  · exact yields_pure _
  · refine yields_ite (fun _ => yields_pure _) fun _ => ?_
    refine yields_bind (ops_storeCall touch fun _ => rfl) fun _ _ _ =>
      yields_ite (fun _ => yields_pure _) fun _ => ?_
    exact yields_bind (ops_storeCall touch fun _ => rfl) fun _ _ _ => yields_pure _

end Xl2tpd
