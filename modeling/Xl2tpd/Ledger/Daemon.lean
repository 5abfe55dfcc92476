import Xl2tpd.Ledger.Packet
import Xl2tpd.Runs

/-!
# The event loop in the ledger
-/

namespace Xl2tpd

set_option autoImplicit false

open Program

variable {rules : Rules} {env : Env} {state after : Daemon} {t : TunnelRef} {name : Bytes}
  {lac : LacRef} {input : Input} {settings : List Setting}

/-- Rules that set no bounds to what a timer, a sweep or a request does. -/
structure Rules.Wide (rules : Rules) : Prop where
  touched : ∀ t, rules.touched t
  destroys : rules.destroys
  expires : rules.expires
  toggles : rules.toggles

theorem Rules.Wide.fails (wide : rules.Wide) : env.maxRetries = 0 → rules.destroys :=
  fun _ => wide.destroys

/-- Rules that set no bounds to the calls of either side. -/
structure Rules.Loose (rules : Rules) : Prop where
  single : ¬ rules.single
  dialed : ∀ lac, rules.dialed lac
  rings : ∀ t, rules.rings t

theorem Rules.Wide.dials (wide : rules.Wide) (loose : rules.Loose) :
    rules.Dials state lac where
  born := wide.touched _
  called := fun _ _ _ other _ _ _ _ =>
    ⟨wide.touched other.ref, fun single => absurd single loose.single⟩
  idle := fun single => absurd single loose.single
  dialed := loose.dialed lac

/-- What the rules ask where a request has an entry dialed that it first writes to. -/
def Rules.DialsAside (rules : Rules) (state : Daemon) (lac : LacRef) : Prop :=
  ∀ middle, Aside state middle → (∀ entry, middle.lac? lac = some entry → entry.c = none) →
    rules.Dials middle lac

theorem Aside.trans {before middle after : Daemon} (first : Aside before middle)
    (second : Aside middle after) : Aside before after where
  tunnels := second.tunnels.trans first.tunnels
  tunnelCount := second.tunnelCount.trans first.tunnelCount
  events := second.events.trans first.events
  uaddr := second.uaddr.trans first.uaddr
  lacs := second.lacs.trans first.lacs
  lnss := second.lnss.trans first.lnss
  deflns := second.deflns.trans first.deflns
  fresh := first.fresh.trans second.fresh
  drawn := first.drawn.trans second.drawn
  trace := first.trace.trans second.trace

theorem aside_setLac {change : Lac → Lac} (keeps : ∀ entry, (change entry).book = entry.book) :
    Aside state (state.setLac lac change) :=
  ⟨rfl, rfl, rfl, rfl, Keyed.map_update_same keeps, rfl, rfl, Nat.le_refl _, Nat.le_refl _,
    List.prefix_rfl⟩

theorem writeLac_ok {change : Lac → Lac} {value : Unit}
    (ran : writeLac lac change state = .ok value after) :
    ∃ entry, state.lac? lac = some entry ∧ after = state.setLac lac change := by
  obtain ⟨entry, found, ran⟩ := ok_deref ran
  cases ran
  exact ⟨entry, found, rfl⟩

theorem applyLac_book (entry : Lac) (setting : Setting) :
    (setting.applyLac entry).1.book = entry.book := by
  cases setting <;> simp only [Setting.applyLac] <;> (try split) <;> rfl

def Lac.silence (entry : Lac) : Lac := { entry with active := false, rtries := 0 }

theorem controlHandleLacRemove_ok {found : Lac} (known : findLac state name = some found)
    (ran : controlHandleLacRemove env name state = .ok () after) :
    ∃ entry closed, (state.setLac found.ref Lac.silence).lac? found.ref = some entry ∧
      (entry.t = none ∧ closed = state.setLac found.ref Lac.silence ∨
        ∃ t tunnel, entry.t = some t ∧ state.tunnel? t = some tunnel ∧
          lacDisconnect env tunnel.ourtid.toNat (state.setLac found.ref Lac.silence) =
            .ok () closed) ∧
      forsake found.ref closed = .ok () after := by
  unfold controlHandleLacRemove at ran
  rw [bind_get] at ran
  simp only [known] at ran
  obtain ⟨_, written, wrote, rest⟩ := bind_ok.mp ran
  obtain ⟨_, detached, detach, last⟩ := bind_ok.mp rest
  obtain ⟨_, _, rfl⟩ := writeLac_ok wrote
  obtain ⟨entry, foundEntry, detach⟩ := ok_deref detach
  refine ⟨entry, ?_⟩
  cases opened : entry.t with
  | none =>
    simp only [opened] at detach
    cases detach
    refine ⟨_, foundEntry, .inl ⟨rfl, rfl⟩, ?_⟩
    have still : dropTunnelLac found.ref (state.setLac found.ref Lac.silence) =
        .ok () (state.setLac found.ref Lac.silence) := by
      have read : readLac found.ref (state.setLac found.ref Lac.silence) =
          .ok entry (state.setLac found.ref Lac.silence) := deref_ok.mpr ⟨foundEntry, rfl⟩
      unfold dropTunnelLac
      rw [bind_run read]
      simp only [opened]
      rfl
    exact (bind_run still).trans last
  | some t =>
    simp only [opened] at detach
    obtain ⟨tunnel, foundTunnel, detach⟩ := ok_readTunnel detach
    obtain ⟨_, closed, close, dropped⟩ := bind_ok.mp detach
    exact ⟨closed, foundEntry, .inr ⟨t, tunnel, rfl, foundTunnel, close⟩,
      (bind_run dropped).trans last⟩

theorem lnsEntry_ops : Ops rules env (lnsEntry name) state := by
  refine yields_get ?_
  split
  · exact yields_pure _
  · apply yields_once
    intro value last ran
    obtain ⟨_, _, taken, ran⟩ := bind_ok.mp ran
    cases taken
    cases ran
    exact .addLns _ rfl rfl

theorem controlHandleLnsAddModify_ops (edits : rules.edits) :
    Ops rules env (controlHandleLnsAddModify name settings) state := by
  refine yields_bind lnsEntry_ops fun ref _ _ => yields_readLns fun _ _ => ?_
  exact yields_modify (.editLns ref _ edits fun entry =>
    applySettings_ref applyLns_ref entry settings)

section Wide

variable (wide : rules.Wide)

include wide

/-! ## Timers and sweeps -/

theorem hello_ops (allow : rules.hellos) : Ops rules env (hello env t) state :=
  yields_bind (sendControl_ops (wide.touched t) wide.fails)
    fun _ _ _ => scheduleHello_ops (wide.touched t) allow

theorem fireEvent_ops
    (hellos : ∀ entry rest t, state.events = entry :: rest → entry.event = .hello t →
      rules.hellos)
    (dials : ∀ entry rest lac, state.events = entry :: rest → entry.event = .magicLacDial lac →
      rules.Dials { state with events := rest } lac) :
    Ops rules env (fireEvent env) state := by
  refine yields_get ?_
  split
  · exact yields_pure _
  · rename_i entry rest due
    refine yields_whenever fun _ => ?_
    refine yields_bind (yields_modify (.expire entry rest wide.expires due)) fun _ _ ran => ?_
    cases ran
    cases kind : entry.event with
    | hello t => exact hello_ops wide (hellos entry rest t due kind)
    | magicLacDial lac => exact magicLacDial_ops (dials entry rest lac due kind) wide.fails
    | controlXmit buffer => exact controlXmit_ops (wide.touched _) wide.destroys

theorem sweepCalls_ops {fuel : Nat} : Ops rules env (sweepCalls env t fuel) state := by
  induction fuel generalizing state with
  | zero => exact yields_throw _
  | succ fuel ih =>
    refine yields_readTunnel fun tunnel _ => ?_
    split
    · exact yields_pure _
    · exact yields_bind (callClose_ops (wide.touched t) wide.destroys) fun _ _ _ => ih

theorem sweepTunnels_ops {refs : List TunnelRef} : Ops rules env (sweepTunnels env refs) state := by
  induction refs generalizing state with
  | nil => exact yields_pure _
  | cons t rest ih =>
    refine yields_readTunnel fun tunnel _ => ?_
    refine yields_bind (sweepCalls_ops wide) fun _ _ _ => yields_readTunnel fun tunnel _ => ?_
    refine yields_ite (fun _ => ?_) fun _ => ih
    exact yields_bind (callClose_ops (wide.touched t) wide.destroys) fun _ _ _ => yields_pure _

theorem sweep_ops {fuel : Nat} : Ops rules env (sweep env fuel) state := by
  induction fuel generalizing state with
  | zero => exact yields_throw _
  | succ fuel ih =>
    exact yields_get (yields_bind (sweepTunnels_ops wide) fun _ _ _ => yields_whenever fun _ => ih)

theorem buildFdset_ops : Ops rules env (buildFdset env) state := yields_get (sweep_ops wide)

theorem childHandler_ops {pid : Int} : Ops rules env (childHandler env pid) state := by
  refine yields_get ?_
  split
  · exact yields_pure _
  · refine yields_bind (ops_storeCall (wide.touched _) fun _ => rfl) fun _ _ _ => ?_
    refine yields_bind (yields_whenever fun _ => callClose_ops (wide.touched _) wide.destroys)
      fun _ _ _ => ?_
    exact ops_storeCall (wide.touched _) fun _ => rfl

theorem sendPayload_ops {c : CallId} {packet : Bytes} :
    Ops rules env (sendPayload t c packet) state := by
  refine yields_readTunnel fun tunnel _ => yields_readCall fun call _ => yields_whenever fun _ => ?_
  exact yields_bind (ops_storeCall (wide.touched t) fun _ => rfl) fun _ _ _ =>
    ops_emit ⟨rfl, fun _ => rfl⟩

theorem failPty_ops {c : CallId} {message : Bytes} : Ops rules env (failPty t c message) state :=
  yields_readCall fun _ _ => yields_whenever fun _ => ops_storeCall (wide.touched t) fun _ => rfl

/-! ## Requests -/

theorem lacHangup_ops {cid : Int} : Ops rules env (lacHangup cid) state := by
  refine yields_get ?_
  split
  · exact yields_pure _
  · exact yields_bind (ops_storeCall (wide.touched _) fun _ => rfl) fun _ _ _ =>
      ops_emit ⟨rfl, fun _ => rfl⟩

theorem lacDisconnect_ops {tid : Int} : Ops rules env (lacDisconnect env tid) state := by
  refine yields_get ?_
  split
  · exact yields_pure _
  · exact yields_bind (ops_storeCall (wide.touched _) fun _ => rfl) fun _ _ _ =>
      callClose_ops (wide.touched _) wide.destroys

theorem controlHandleTunnel_ops {host : Bytes} :
    Ops rules env (controlHandleTunnel env host) state :=
  yields_bind (l2tpCall_ops (wide.touched _) wide.fails (fun _ none => by cases none)
    (fun _ _ none => by cases none) fun _ none => by cases none) fun _ _ _ => yields_pure _

theorem callByNumber_ops : Ops rules env (callByNumber env name) state :=
  yields_whenever fun _ => yields_bind (lacCall_ops (fun _ _ => wide.touched _) wide.fails
    (fun _ none => by cases none) (fun _ _ _ none => by cases none) fun _ none => by cases none)
    fun _ _ _ => yields_pure _

theorem dialEntry_ops
    (dials : (∀ entry, state.lac? lac = some entry → entry.c = none) → rules.Dials state lac) :
    Ops rules env (dialEntry env lac) state := by
  refine yields_readLac fun entry found => yields_whenever fun unplaced => ?_
  refine magicLacDial_ops (dials fun other foundOther => ?_) wide.fails
  rw [found] at foundOther
  cases foundOther
  exact Option.isNone_iff_eq_none.mp unplaced

theorem connect_ops {change : Daemon → Daemon} {write : Lac → Lac}
    (flag : Aside state (change state)) (listed : (change state).laclist = state.laclist)
    (trace : (change state).trace = state.trace) (keeps : ∀ entry, (write entry).book = entry.book)
    (dials : ∀ found, findLac state name = some found → rules.DialsAside state found.ref) :
    Ops rules env (modify change >>= fun _ => get >>= fun state =>
      match findLac state name with
      | some found => do
          writeLac found.ref write
          dialEntry env found.ref
      | none => callByNumber env name) state := by
  refine yields_bind (ops_aside flag listed trace) fun _ middle ran => yields_get ?_
  cases ran
  split
  · rename_i found known
    have knownBefore : findLac state name = some found := by
      unfold findLac at known ⊢
      rw [listed] at known
      exact known
    refine yields_bind (ops_storeLac keeps (absurd wide.toggles)) fun _ _ ran => dialEntry_ops wide ?_
    obtain ⟨_, _, rfl⟩ := writeLac_ok ran
    exact dials found knownBefore _ (flag.trans (aside_setLac keeps))
  · exact callByNumber_ops wide

theorem controlHandleLacConnect_ops {authname password : Option Bytes}
    (dials : ∀ found, findLac state name = some found → rules.DialsAside state found.ref) :
    Ops rules env (controlHandleLacConnect env name authname password) state :=
  connect_ops wide
    ⟨rfl, rfl, rfl, rfl, rfl, rfl, rfl, Nat.le_refl _, Nat.le_refl _, List.prefix_rfl⟩ rfl
    rfl (fun _ => rfl) dials

theorem controlHandleLacOutgoingCall_ops {name number : Bytes}
    (dials : ∀ found, findLac state name = some found → rules.DialsAside state found.ref) :
    Ops rules env (controlHandleLacOutgoingCall env name number) state :=
  connect_ops wide
    ⟨rfl, rfl, rfl, rfl, rfl, rfl, rfl, Nat.le_refl _, Nat.le_refl _, List.prefix_rfl⟩ rfl
    rfl (fun _ => rfl) dials

theorem controlHandleLacDisconnect_ops :
    Ops rules env (controlHandleLacDisconnect env name) state := by
  refine yields_get ?_
  split
  · refine yields_bind (ops_storeLac (fun _ => rfl) (absurd wide.toggles)) fun _ _ _ => ?_
    split
    · exact yields_pure _
    · exact yields_readTunnel fun _ _ => lacDisconnect_ops wide
  · exact yields_whenever fun _ => lacDisconnect_ops wide

theorem autodialEntry_ops (dials : ∀ middle, Aside state middle → rules.Dials middle lac) :
    Ops rules env (autodialEntry env lac) state := by
  refine yields_readLac fun entry _ => yields_whenever fun _ => ?_
  refine yields_bind (ops_storeLac (fun _ => rfl) (absurd wide.toggles)) fun _ _ wrote => ?_
  obtain ⟨_, _, rfl⟩ := writeLac_ok wrote
  have flag : ∀ middle : Daemon, Aside middle { middle with switchIo := true } :=
    fun _ => ⟨rfl, rfl, rfl, rfl, rfl, rfl, rfl, Nat.le_refl _, Nat.le_refl _, List.prefix_rfl⟩
  refine yields_bind (ops_aside (flag _) rfl rfl) fun _ _ ran => ?_
  cases ran
  exact magicLacDial_ops (dials _ ((aside_setLac (by intro _; rfl)).trans (flag _))) wide.fails

theorem controlHandleLacAddModify_ops
    (dials : ∀ entry middle, entry.book = ⟨state.fresh, none, none, none⟩ →
      Aside { state with fresh := state.fresh + 1, laclist := entry :: state.laclist } middle →
      rules.Dials middle state.fresh) :
    Ops rules env (controlHandleLacAddModify env name settings) state := by
  refine yields_get ?_
  split
  · exact yields_pure _
  · intro value last ran
    obtain ⟨_, _, taken, ran⟩ := bind_ok.mp ran
    cases taken
    generalize applied : applySettings Setting.applyLac
      { ref := state.fresh, entname := name.take strlen } settings = result at ran
    obtain ⟨entry, success⟩ := result
    have blank : entry.book = ⟨state.fresh, none, none, none⟩ := by
      have kept := applySettings_ref applyLac_book
        { ref := state.fresh, entname := name.take strlen } settings
      rw [applied] at kept
      exact kept
    cases success with
    | false =>
      cases ran
      exact Relation.ReflTransGen.single (.aside ⟨rfl, rfl, rfl, rfl, rfl, rfl, rfl, Nat.le_succ _,
        Nat.le_refl _, List.prefix_rfl⟩ (fun _ => rfl) (hush_same rfl))
    | true =>
      obtain ⟨_, _, added, ran⟩ := bind_ok.mp ran
      cases added
      exact Relation.ReflTransGen.head (.addLac entry blank)
        (autodialEntry_ops wide (fun middle => dials entry middle blank) value last ran)

theorem controlHandleLacRemove_ops
    (kept : rules.kept → ∀ found after, findLac state name = some found →
      controlHandleLacRemove env name state = .ok () after → after.UnheldLac found.ref) :
    Ops rules env (controlHandleLacRemove env name) state := by
  intro value last ran
  cases known : findLac state name with
  | none =>
    unfold controlHandleLacRemove at ran
    rw [bind_get] at ran
    simp only [known] at ran
    cases ran
    exact Relation.ReflTransGen.refl
  | some found =>
    obtain ⟨entry, closed, _, closes, forsakes⟩ := controlHandleLacRemove_ok known ran
    have writes : Op rules env state (state.setLac found.ref Lac.silence) :=
      .aside (aside_setLac (by intro _; rfl)) (absurd wide.toggles) (hush_same rfl)
    have path : Relation.ReflTransGen (Op rules env) state closed := by
      rcases closes with ⟨_, rfl⟩ | ⟨t, tunnel, _, _, close⟩
      · exact Relation.ReflTransGen.single writes
      · exact Relation.ReflTransGen.head writes (lacDisconnect_ops wide () closed close)
    exact path.tail (.dropLac found.ref wide.touched forsakes fun strict =>
      kept strict found last known ran)

theorem closeLnsCalls_ops {lns : LnsRef} {refs : List TunnelRef} :
    Ops rules env (closeLnsCalls env lns refs) state := by
  refine yields_forM _ fun t _ => yields_readTunnel fun tunnel _ => yields_whenever fun _ => ?_
  refine yields_forM _ fun ref _ => ?_
  refine yields_bind (callClose_ops (wide.touched t) wide.destroys) fun _ _ _ => ?_
  exact yields_readCall fun _ _ => yields_pure _

theorem controlHandleLnsRemove_ops (kept : rules.kept → ∀ found middle,
      (state.lnslist.find? fun entry => sameName entry.entname name) = some found →
      closeLnsCalls env found.ref (state.tunnels.map Tunnel.ref) state = .ok () middle →
      middle.UnheldLns found.ref) :
    Ops rules env (controlHandleLnsRemove env name) state := by
  refine yields_get ?_
  split
  · exact yields_pure _
  · rename_i found known
    refine yields_bind (closeLnsCalls_ops wide) fun _ middle ran => ?_
    exact yields_modify (.dropLns found.ref fun strict => kept strict found middle known ran)

end Wide

/-! ## Every input -/

/-- What the rules ask of a state in which a request is made. -/
structure Rules.Requests (rules : Rules) (env : Env) (state : Daemon) (request : Request) :
    Prop where
  wide : rules.Wide
  edits : ∀ name settings, request = .lnsAddModify name settings → rules.edits
  connects : ∀ name found, (∃ authname password, request = .lacConnect name authname password) ∨
    (∃ number, request = .lacOutgoingCall name number) → findLac state name = some found →
    rules.DialsAside state found.ref
  adds : ∀ entry middle, entry.book = ⟨state.fresh, none, none, none⟩ →
    Aside { state with fresh := state.fresh + 1, laclist := entry :: state.laclist } middle →
    rules.Dials middle state.fresh
  dropsLac : rules.kept → ∀ name found after, request = .lacRemove name →
    findLac state name = some found → controlHandleLacRemove env name state = .ok () after →
    after.UnheldLac found.ref
  dropsLns : rules.kept → ∀ name found middle, request = .lnsRemove name →
    (state.lnslist.find? fun entry => sameName entry.entname name) = some found →
    closeLnsCalls env found.ref (state.tunnels.map Tunnel.ref) state = .ok () middle →
    middle.UnheldLns found.ref

theorem doControl_ops {request : Request} (requests : rules.Requests env state request) :
    Ops rules env (doControl env request) state := by
  have wide := requests.wide
  cases request with
  | tunnel host => exact controlHandleTunnel_ops wide
  | lacConnect name authname password =>
    exact controlHandleLacConnect_ops wide fun found =>
      requests.connects name found (.inl ⟨authname, password, rfl⟩)
  | lacOutgoingCall name number =>
    exact controlHandleLacOutgoingCall_ops wide fun found =>
      requests.connects name found (.inr ⟨number, rfl⟩)
  | lacHangup cid => exact lacHangup_ops wide
  | lacDisconnect name => exact controlHandleLacDisconnect_ops wide
  | lacAddModify name settings => exact controlHandleLacAddModify_ops wide requests.adds
  | lacRemove name =>
    exact controlHandleLacRemove_ops wide fun strict found after =>
      requests.dropsLac strict name found after rfl
  | lnsAddModify name settings =>
    exact controlHandleLnsAddModify_ops (requests.edits name settings rfl)
  | lnsRemove name =>
    exact controlHandleLnsRemove_ops wide fun strict found middle =>
      requests.dropsLns strict name found middle rfl

structure Rules.Admits (rules : Rules) (env : Env) (state : Daemon) (input : Input) : Prop where
  wide : rules.Wide
  receives : ∀ datagram, input = .datagram datagram → rules.Receives env datagram state
  hellos : ∀ entry rest t, input = .timer → state.events = entry :: rest →
    entry.event = .hello t → rules.hellos
  fires : ∀ entry rest lac, input = .timer → state.events = entry :: rest →
    entry.event = .magicLacDial lac → rules.Dials { state with events := rest } lac
  requests : ∀ request, input = .request request → rules.Requests env state request

theorem exec_ops (admits : rules.Admits env state input) :
    Ops rules env (exec env input) state := by
  cases input with
  | datagram datagram => exact receive_ops (admits.receives datagram rfl)
  | timer =>
    exact fireEvent_ops admits.wide (fun entry rest t => admits.hellos entry rest t rfl)
      fun entry rest lac => admits.fires entry rest lac rfl
  | sweep => exact buildFdset_ops admits.wide
  | request request => exact doControl_ops (admits.requests request rfl)
  | childExit pid => exact childHandler_ops admits.wide
  | ptyPacket t ref packet => exact sendPayload_ops admits.wide
  | ptyError t ref message => exact failPty_ops admits.wide
  | tick now =>
    refine ops_aside ?_ (by split <;> rfl) (by split <;> rfl)
    split
    · exact ⟨rfl, rfl, rfl, rfl, rfl, rfl, rfl, Nat.le_refl _, Nat.le_refl _, List.prefix_rfl⟩
    · exact Aside.refl state

theorem Rules.free_wide : Rules.free.Wide :=
  ⟨fun _ => trivial, trivial, trivial, trivial⟩

theorem Rules.free_loose : Rules.free.Loose := ⟨id, fun _ => trivial, fun _ => trivial⟩

theorem Rules.Wide.admits (wide : rules.Wide) (loose : rules.Loose) (careless : ¬ rules.kept)
    (allow : rules.assigns) (hellos : rules.hellos)
    (edits : ∀ name settings, input = .request (.lnsAddModify name settings) → rules.edits)
    (bare : rules.assigned → ∀ datagram entered call, input = .datagram datagram →
      entering env datagram state = some entered →
      entered.state.call? entered.tunnel entered.call = some call → call.msgtype = some .ICRQ →
      entered.state.HeadBare entered.tunnel) : rules.Admits env state input := by
  have dials : ∀ middle lac, rules.Dials middle lac := fun middle lac => wide.dials loose
  refine ⟨wide, fun datagram arrives => ?_, fun _ _ _ _ _ _ => hellos, fun _ _ _ _ _ _ => dials _ _,
    fun request asked => ?_⟩
  · subst arrives
    refine ⟨wide.destroys, fun _ => wide.touched _, fun t _ _ _ => wide.touched t,
      fun t _ _ _ => loose.rings t, fun t _ _ _ => wide.touched t,
      fun entered call type enters found typed => ?_⟩
    refine ⟨fun _ => hellos, fun _ _ _ _ _ _ _ => dials _ _, fun _ => allow, ?_⟩
    intro strict isIcrq
    subst isIcrq
    exact bare strict datagram entered call rfl enters found typed
  · subst asked
    exact ⟨wide, fun name settings asked => edits name settings (congrArg _ asked),
      fun _ _ _ _ _ _ _ => dials _ _, fun _ _ _ _ => dials _ _,
      fun strict => absurd strict careless, fun strict => absurd strict careless⟩

theorem exec_free : Ops Rules.free env (exec env input) state :=
  exec_ops (Rules.free_wide.admits Rules.free_loose id trivial trivial
    (fun _ _ _ => trivial) False.elim)

theorem init_ops (wide : rules.Wide) (loose : rules.Loose) :
    Ops rules env (init env) state :=
  yields_get (yields_forM _ fun _ _ => autodialEntry_ops wide fun _ _ => wide.dials loose)

theorem init_free : Ops Rules.free env (init env) state := init_ops Rules.free_wide Rules.free_loose

/-- What every entry of the ledger keeps holds in every state of a run. -/
theorem runs_ledger {condition : Daemon → Input → Prop} {invariant : Daemon → Prop}
    (reached : Runs env condition state) (start : ∀ booted, Booted booted → invariant booted)
    (keeps : ∀ before after, Op Rules.free env before after → invariant before →
      invariant after) : invariant state := by
  induction reached with
  | boot booted ran => exact steps_invariant (init_free () _ ran) keeps (start _ booted)
  | step _ _ ran ih => exact steps_invariant (exec_free () _ ran) keeps ih

end Xl2tpd
