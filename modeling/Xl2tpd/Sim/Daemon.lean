import Xl2tpd.Daemon
import Xl2tpd.Sim.Packet

/-!
# The event loop as actions

Timers, the sweep, the requests and the other inputs.
-/

namespace Xl2tpd

set_option autoImplicit false

open Program

variable {name : Bytes} {lac : LacRef}

variable {assume : Assume} {env : Env} {allowed : Action → Prop} {state : Daemon}
  {t : TunnelRef} {settings : List Setting}

/-! ## Timers -/

theorem hello_sim (allows : Allows env [.send] allowed) :
    Sim assume env allowed (hello env t) state := by
  refine leads_bind (sendControl_sim ?_ allows) fun _ _ _ => scheduleHello_sim
  rw [← List.append_nil (addMessageTypeAvp .Hello)]
  exact message_nonempty _ _

def timerEffects : List Effect := [.timer, .dial, .call, .send, .close, .drop, .release, .unlink]

theorem waiting_cons (entry : Entry) (rest : List Entry) :
    waiting (entry :: rest) = (entry.event.buffer?.toList : List Buffer) + waiting rest := by
  unfold waiting
  rw [List.filterMap_cons]
  cases entry.event.buffer? with
  | none => simp
  | some buffer => rfl

theorem view_events (state : Daemon) (events : List Entry) :
    Daemon.view { state with events := events } = { state.view with buffers := waiting events } :=
  rfl

theorem fireXmit_sim {buffer : Buffer} {entry : Entry} {rest : List Entry}
    (allows : Allows env timerEffects allowed) (queue : state.events = entry :: rest)
    (xmit : entry.event = .controlXmit buffer) :
    Relation.ReflTransGen (Acts assume env allowed) state.view
      (final (controlXmit env buffer { state with events := rest })).view := by
  have popped : state.view.buffers = buffer ::ₘ waiting rest := by
    have view : state.view.buffers = waiting state.events := rfl
    rw [view, queue, waiting_cons, xmit]
    rfl
  have erased : Daemon.view { state with events := rest } =
      { state.view with buffers := state.view.buffers.erase buffer } := by
    rw [popped, Multiset.erase_cons_head, view_events]
  have member : buffer ∈ state.view.buffers := by
    rw [popped]
    exact Multiset.mem_cons_self _ _
  have timer : ∀ action : Action, action.effect = .timer → allowed action := by
    intro action effect
    exact allows.on _ (by rw [effect]; decide)
  cases found : state.tunnel? buffer.tunnel with
  | none =>
    have stops : controlXmit env buffer { state with events := rest } =
        .error .freed { state with events := rest } := bind_stuck (deref_stuck found)
    rw [stops]
    refine Relation.ReflTransGen.single ?_
    unfold final
    dsimp only
    rw [erased]
    exact .act (.lose buffer) (timer _ rfl) ⟨member, view_tunnel_none found⟩
  | some tunnel =>
    refine controlXmitWith_sim found
      (fun _ => allows.on _ (by simp [Action.effect, Move.effect, CallMove.effect, timerEffects]))
      (fun _ later => callClose_tunnel_sim (allows.mono (by decide))) ?_
    intro fate decided
    rw [erased]
    exact .act (.resend buffer fate) (timer _ rfl)
      ⟨member, tunnel.core, view_tunnel_some found, decided⟩

theorem fireEvent_sim (allows : Allows env timerEffects allowed) :
    Sim assume env allowed (fireEvent env) state := by
  refine sim_get ?_
  cases queue : state.events with
  | nil => exact leads_pure _
  | cons entry rest =>
    refine sim_whenever fun _ => ?_
    have popped : entry.event.buffer? = none →
        Daemon.view { state with events := rest } = state.view := by
      intro plain
      have same : waiting rest = waiting state.events := by
        rw [queue, waiting_cons, plain]
        simp
      rw [view_events, same]
      rfl
    cases event : entry.event with
    | hello target =>
      exact leads_bind (sim_modify_same (popped (by rw [event]; rfl))) fun _ _ _ =>
        hello_sim (allows.mono (by decide))
    | magicLacDial lac =>
      exact leads_bind (sim_modify_same (popped (by rw [event]; rfl))) fun _ _ _ =>
        magicLacDial_sim (allows.mono (by decide))
    | controlXmit buffer => exact fireXmit_sim allows queue event

/-! ## The sweep -/

theorem sweepCalls_sim {fuel : Nat} (allows : Allows env callEffects allowed) :
    Sim assume env allowed (sweepCalls env t fuel) state := by
  induction fuel generalizing state with
  | zero => exact leads_throw _
  | succ fuel ih =>
    refine sim_readTunnel fun tunnel _ => ?_
    cases tunnel.calls.find? Call.pending with
    | none => exact leads_pure _
    | some call => exact leads_bind (callClose_call_sim allows) fun _ _ _ => ih

theorem sweepTunnels_sim {refs : List TunnelRef} (allows : Allows env tunnelEffects allowed) :
    Sim assume env allowed (sweepTunnels env refs) state := by
  induction refs generalizing state with
  | nil => exact leads_pure _
  | cons t rest ih =>
    refine sim_readTunnel fun _ _ => ?_
    refine leads_bind (sweepCalls_sim (allows.mono (by decide))) fun _ _ _ => ?_
    refine sim_readTunnel fun _ _ => sim_ite (fun _ => ?_) fun _ => ih
    exact leads_bind (callClose_tunnel_sim allows) fun _ _ _ => leads_pure _

theorem sweep_sim {fuel : Nat} (allows : Allows env tunnelEffects allowed) :
    Sim assume env allowed (sweep env fuel) state := by
  induction fuel generalizing state with
  | zero => exact leads_throw _
  | succ fuel ih =>
    exact sim_get (leads_bind (sweepTunnels_sim allows) fun _ _ _ => sim_whenever fun _ => ih)

theorem buildFdset_sim (allows : Allows env tunnelEffects allowed) :
    Sim assume env allowed (buildFdset env) state := sim_get (sweep_sim allows)

/-! ## Children and ptys -/

theorem childHandler_sim {pid : Int} (allows : Allows env (.mark :: callEffects) allowed) :
    Sim assume env allowed (childHandler env pid) state := by
  refine sim_get ?_
  cases state.findCall fun call => decide (call.pppd = pid) with
  | none => exact leads_pure _
  | some target =>
    refine leads_bind (sim_mark (allows.on _ ?_) fun _ => rfl) fun _ _ _ => ?_
    · simp [Action.effect, Move.effect, CallMove.effect]
    refine leads_bind (sim_whenever fun _ => callClose_call_sim (allows.mono (by decide)))
      fun _ _ _ => sim_storeCall fun _ => rfl

theorem sendPayload_sim {c : CallId} {packet : Bytes} :
    Sim assume env allowed (sendPayload t c packet) state := by
  refine sim_readTunnel fun _ _ => sim_readCall fun _ _ => sim_whenever fun _ => ?_
  exact leads_bind (sim_storeCall fun _ => rfl) fun _ _ _ => sim_emit rfl

theorem failPty_sim {c : CallId} {message : Bytes} (permits : Permits [.mark] allowed) :
    Sim assume env allowed (failPty t c message) state := by
  refine sim_readCall fun _ _ => sim_whenever fun _ => sim_mark (permits _ ?_) fun _ => rfl
  simp [Action.effect, Move.effect, CallMove.effect]

/-! ## Requests -/

theorem lacHangup_sim {cid : Int} : Sim assume env allowed (lacHangup cid) state := by
  refine sim_get ?_
  cases state.findCall fun call => decide ((call.ourcid.toNat : Int) = cid) with
  | none => exact leads_pure _
  | some target => exact leads_bind (sim_storeCall fun _ => rfl) fun _ _ _ => sim_emit rfl

theorem lacDisconnect_sim {tid : Int} (allows : Allows env (.mark :: tunnelEffects) allowed) :
    Sim assume env allowed (lacDisconnect env tid) state := by
  refine sim_get ?_
  cases state.tunnels.find? fun tunnel => decide ((tunnel.ourtid.toNat : Int) = tid) with
  | none => exact leads_pure _
  | some tunnel =>
    refine leads_bind (sim_mark (allows.on _ ?_) fun _ => rfl) fun _ _ _ =>
      callClose_tunnel_sim (allows.mono (by decide))
    simp [Action.effect, Move.effect, CallMove.effect]

theorem controlHandleTunnel_sim {host : Bytes} (allows : Allows env dialEffects allowed) :
    Sim assume env allowed (controlHandleTunnel env host) state :=
  leads_bind (l2tpCall_sim allows (by simp) (by simp)) fun _ _ _ => leads_pure _

theorem callByNumber_sim (allows : Allows env dialEffects allowed)
    (owned : assume.owned → atoi name = 0) :
    Sim assume env allowed (callByNumber env name) state := by
  refine sim_whenever fun numbered => ?_
  refine leads_bind (lacCall_sim allows fun assumed => ?_) fun _ _ _ => leads_pure _
  simp [owned assumed] at numbered

theorem dialEntry_sim (allows : Allows env dialEffects allowed) :
    Sim assume env allowed (dialEntry env lac) state :=
  sim_readLac fun _ _ => sim_whenever fun _ => magicLacDial_sim allows

/-- The name is that of a LAC entry, or its number is 0. -/
def Daemon.dials (state : Daemon) (name : Bytes) : Prop :=
  findLac state name = none → atoi name = 0

theorem controlHandleLacConnect_sim {authname password : Option Bytes}
    (allows : Allows env dialEffects allowed) (owned : assume.owned → state.dials name) :
    Sim assume env allowed (controlHandleLacConnect env name authname password) state := by
  refine leads_bind (sim_modify_same rfl) fun _ after ran => sim_get ?_
  cases ran
  have same : findLac { state with switchIo := true } name = findLac state name := rfl
  cases found : findLac state name with
  | none =>
    rw [same, found]
    exact callByNumber_sim allows fun assumed => owned assumed found
  | some entry =>
    rw [same, found]
    exact leads_bind (sim_storeLac (fun _ => rfl) fun _ => rfl) fun _ _ _ => dialEntry_sim allows

theorem controlHandleLacOutgoingCall_sim {number : Bytes}
    (allows : Allows env dialEffects allowed) (owned : assume.owned → state.dials name) :
    Sim assume env allowed (controlHandleLacOutgoingCall env name number) state := by
  refine leads_bind (sim_modify_same rfl) fun _ after ran => sim_get ?_
  cases ran
  have same : findLac { state with switchIo := false, dialNoTmp := number } name =
      findLac state name := rfl
  cases found : findLac state name with
  | none =>
    rw [same, found]
    exact callByNumber_sim allows fun assumed => owned assumed found
  | some entry =>
    rw [same, found]
    exact leads_bind (sim_storeLac (fun _ => rfl) fun _ => rfl) fun _ _ _ => dialEntry_sim allows

theorem controlHandleLacDisconnect_sim (allows : Allows env (.mark :: tunnelEffects) allowed) :
    Sim assume env allowed (controlHandleLacDisconnect env name) state := by
  refine sim_get ?_
  cases findLac state name with
  | none => exact sim_whenever fun _ => lacDisconnect_sim allows
  | some found =>
    refine leads_bind (sim_storeLac (fun _ => rfl) fun _ => rfl) fun _ _ _ => ?_
    cases found.t with
    | none => exact leads_pure _
    | some t => exact sim_readTunnel fun _ _ => lacDisconnect_sim allows

theorem autodialEntry_sim (allows : Allows env dialEffects allowed) :
    Sim assume env allowed (autodialEntry env lac) state := by
  refine sim_readLac fun _ _ => sim_whenever fun _ => ?_
  refine leads_bind (sim_storeLac (fun _ => rfl) fun _ => rfl) fun _ _ _ => ?_
  exact leads_bind (sim_modify_same rfl) fun _ _ _ => magicLacDial_sim allows

theorem applySettings_ref {Entry Key : Type} {key : Entry → Key}
    {apply : Entry → Setting → Entry × Bool}
    (keeps : ∀ entry setting, key (apply entry setting).1 = key entry) (entry : Entry)
    (settings : List Setting) : key (applySettings apply entry settings).1 = key entry := by
  induction settings generalizing entry with
  | nil => rfl
  | cons setting rest ih =>
    unfold applySettings
    dsimp only
    split
    · rw [ih, keeps]
    · exact keeps entry setting

theorem applyLns_ref (entry : Lns) (setting : Setting) : (setting.applyLns entry).1.ref = entry.ref := by
  cases setting <;> simp only [Setting.applyLns] <;> (try split) <;> rfl

theorem applyLac_ref (entry : Lac) (setting : Setting) : (setting.applyLac entry).1.ref = entry.ref := by
  cases setting <;> simp only [Setting.applyLac] <;> (try split) <;> rfl

theorem allocate_run (state : Daemon) :
    allocate state = .ok state.fresh { state with fresh := state.fresh + 1 } := rfl

theorem view_addLac {state : Daemon} {entry : Lac} (named : entry.ref = state.fresh) :
    Daemon.view { state with fresh := state.fresh + 1, laclist := entry :: state.laclist } =
      (Action.addLac entry.terms).apply state.view := by
  have lacs : (fun ref => (Keyed.find Lac.ref ref (entry :: state.laclist)).map Lac.terms) =
      Function.update (fun ref => (state.lac? ref).map Lac.terms) state.fresh (some entry.terms) := by
    funext ref
    rw [Keyed.find_cons, named]
    by_cases same : state.fresh = ref
    · subst same
      simp
    · rw [if_neg same, Function.update_of_ne (Ne.symm same)]
      rfl
  unfold Daemon.view Action.apply
  simp only
  rw [← lacs]
  rfl

theorem controlHandleLacAddModify_sim (allows : Allows env (.lac :: dialEffects) allowed) :
    Sim assume env allowed (controlHandleLacAddModify env name settings) state := by
  refine sim_get ?_
  cases findLac state name with
  | some _ => exact leads_pure _
  | none =>
    dsimp only
    unfold Sim Leads
    rw [bind_run (allocate_run state)]
    generalize applied : applySettings Setting.applyLac
      { ref := state.fresh, entname := name.take strlen } settings = result
    obtain ⟨entry, success⟩ := result
    have named : entry.ref = state.fresh := by
      have kept := applySettings_ref applyLac_ref
        { ref := state.fresh, entname := name.take strlen } settings
      rw [applied] at kept
      exact kept
    cases success with
    | false => exact Relation.ReflTransGen.single (.quiet ⟨rfl, rfl, rfl, rfl, Nat.le_succ _, [],
        by simp [Daemon.view, whenever, final, pure, EStateM.pure]⟩)
    | true =>
      have dials : Sim assume env allowed (autodialEntry env state.fresh)
          { state with fresh := state.fresh + 1, laclist := entry :: state.laclist } :=
        autodialEntry_sim (allows.mono (by decide))
      refine Relation.ReflTransGen.head ?_ dials
      rw [view_addLac named]
      exact .act _ (allows.on _ (by simp [Action.effect])) trivial

theorem dropTunnelLac_sim (permits : Permits [.lac] allowed) :
    Sim assume env allowed (dropTunnelLac lac) state := by
  refine sim_readLac fun entry _ => ?_
  cases entry.t with
  | none => exact leads_pure _
  | some t =>
    exact sim_move .disown (permits _ (by simp [Action.effect, Move.effect])) (fun _ => rfl)
      fun _ _ => trivial

def removeEffects : List Effect := .lac :: .mark :: tunnelEffects

theorem detachTunnel_sim (allows : Allows env removeEffects allowed) :
    Sim assume env allowed (detachTunnel env lac) state := by
  refine sim_readLac fun entry _ => ?_
  cases entry.t with
  | none => exact leads_pure _
  | some t =>
    refine sim_readTunnel fun tunnel _ => ?_
    exact leads_bind (lacDisconnect_sim (allows.mono (by decide))) fun _ _ _ =>
      dropTunnelLac_sim (allows.on.mono (by decide))

theorem core_clearLacFrom (ref : CallRef) (calls : List Call) :
    (clearLacFrom ref calls).map Call.core = detached ref (calls.map Call.core) := by
  unfold clearLacFrom detached
  rw [List.map_append, List.takeWhile_map, List.dropWhile_map, List.map_map, List.map_map]
  rfl

/-- None of the calls that removing the entry would take from it waits for an answer. -/
def Daemon.answered (state : Daemon) (lac : LacRef) : Prop :=
  ∀ entry t ref tunnel, state.lac? lac = some entry → entry.c = some (t, ref) →
    state.tunnel? t = some tunnel →
    ∀ call ∈ tunnel.calls.dropWhile fun call => call.ref ≠ ref, call.state.placed = false

theorem detachCalls_sim (permits : Permits [.lac] allowed)
    (owned : assume.owned → state.answered lac) :
    Sim assume env allowed (detachCalls lac) state := by
  refine sim_readLac fun entry found => ?_
  cases placed : entry.c with
  | none => exact leads_pure _
  | some target =>
    obtain ⟨t, ref⟩ := target
    refine sim_readCall fun _ _ => ?_
    refine sim_move (.detach ref) (permits _ (by simp [Action.effect, Move.effect])) ?_ ?_
    · intro tunnel
      unfold Tunnel.core
      simp only [Move.apply]
      rw [core_clearLacFrom]
    · intro tunnel foundTunnel assumed call member
      have image : tunnel.core.calls = tunnel.calls.map Call.core := rfl
      rw [image, List.dropWhile_map] at member
      obtain ⟨original, kept, rfl⟩ := List.mem_map.mp member
      exact owned assumed entry t ref tunnel found placed foundTunnel original kept

theorem view_removeLac (state : Daemon) (lac : LacRef) :
    Daemon.view { state with laclist := Keyed.remove Lac.ref lac state.laclist } =
      (Action.removeLac lac).apply state.view := by
  have lacs : (fun ref => (Keyed.find Lac.ref ref (Keyed.remove Lac.ref lac state.laclist)).map
      Lac.terms) = Function.update (fun ref => (state.lac? ref).map Lac.terms) lac none := by
    funext ref
    by_cases same : ref = lac
    · subst same
      rw [Keyed.find_remove_same]
      simp
    · rw [Keyed.find_remove_other same, Function.update_of_ne same]
      rfl
  unfold Daemon.view Action.apply
  simp only
  rw [← lacs]
  rfl

/-- A LAC entry goes; `before` is reached when its tunnel has been let go. -/
theorem controlHandleLacRemove_sim (allows : Allows env removeEffects allowed)
    (owned : assume.owned → ∀ found stopped before, findLac state name = some found →
      writeLac found.ref (fun entry => { entry with active := false, rtries := 0 }) state =
        .ok () stopped →
      detachTunnel env found.ref stopped = .ok () before → before.answered found.ref) :
    Sim assume env allowed (controlHandleLacRemove env name) state := by
  refine sim_get ?_
  cases search : findLac state name with
  | none => exact leads_pure _
  | some found =>
    refine leads_bind (sim_storeLac (fun _ => rfl) fun _ => rfl) fun _ stopped wrote => ?_
    refine leads_bind (detachTunnel_sim allows) fun _ before detached => ?_
    refine leads_bind (detachCalls_sim (allows.on.mono (by decide)) fun assumed =>
      owned assumed found stopped before search wrote detached) fun _ _ _ => ?_
    refine leads_modify _ ?_
    rw [view_removeLac]
    exact .act _ (allows.on _ (by simp [Action.effect, removeEffects])) trivial

theorem view_addLns {state : Daemon} {entry : Lns} (named : entry.ref = state.fresh) :
    Daemon.view { state with fresh := state.fresh + 1, lnslist := entry :: state.lnslist } =
      (Action.addLns entry.terms).apply state.view := by
  have entries : (fun ref =>
      (Keyed.find Lns.ref ref (entry :: state.lnslist ++ state.deflns.toList)).map Lns.terms) =
      Function.update (fun ref => (state.lns? ref).map Lns.terms) state.fresh (some entry.terms) := by
    funext ref
    rw [List.cons_append, Keyed.find_cons, named]
    by_cases same : state.fresh = ref
    · subst same
      simp
    · rw [if_neg same, Function.update_of_ne (Ne.symm same)]
      rfl
  unfold Daemon.view Action.apply
  simp only
  rw [← entries]
  rfl

theorem lnsEntry_sim (permits : Permits [.lns] allowed) :
    Sim assume env allowed (lnsEntry name) state := by
  refine sim_get ?_
  cases findLnsByName state name with
  | some entry => exact leads_pure _
  | none =>
    dsimp only
    unfold Sim Leads
    rw [bind_run (allocate_run state)]
    let entry : Lns := { ref := state.fresh, entname := name.take strlen }
    have added : Acts assume env allowed state.view
        ((Action.addLns entry.terms).apply state.view) :=
      .act _ (permits _ (by simp [Action.effect])) trivial
    rw [← view_addLns rfl] at added
    exact Relation.ReflTransGen.single added

theorem view_editLns {state : Daemon} {lns : LnsRef} {entry : Lns} {change : Lns → Lns}
    (named : ∀ entry, (change entry).ref = entry.ref) (found : state.lns? lns = some entry) :
    (state.setLns lns change).view =
      (Action.editLns lns (some (change entry).terms)).apply state.view := by
  have entries : (fun ref => ((state.setLns lns change).lns? ref).map Lns.terms) =
      Function.update (fun ref => (state.lns? ref).map Lns.terms) lns
        (some (change entry).terms) := by
    funext ref
    rw [lns_setLns named]
    by_cases same : ref = lns
    · subst same
      simp [found]
    · rw [if_neg same, Function.update_of_ne same]
  unfold Daemon.view Action.apply
  simp only
  rw [← entries]
  rfl

theorem controlHandleLnsAddModify_sim (permits : Permits [.lns] allowed) :
    Sim assume env allowed (controlHandleLnsAddModify name settings) state := by
  refine leads_bind (lnsEntry_sim permits) fun ref after _ => ?_
  refine sim_readLns fun entry found => leads_modify _ ?_
  rw [view_editLns (fun entry => applySettings_ref applyLns_ref entry settings) found]
  refine .act _ (permits _ (by simp [Action.effect])) fun _ => ?_
  simp [Daemon.view, found]

theorem closeCalls_sim {refs : List CallRef} (allows : Allows env callEffects allowed) :
    Sim assume env allowed (closeCalls env t refs) state :=
  leads_forM _ fun _ _ => leads_bind (callClose_call_sim allows) fun _ _ _ =>
    sim_readCall fun _ _ => leads_pure _

theorem closeLnsCalls_sim {lns : LnsRef} {refs : List TunnelRef}
    (allows : Allows env callEffects allowed) :
    Sim assume env allowed (closeLnsCalls env lns refs) state :=
  leads_forM _ fun _ _ => sim_readTunnel fun _ _ => sim_whenever fun _ => closeCalls_sim allows

theorem view_removeLns (state : Daemon) (lns : LnsRef) :
    ∃ terms, Daemon.view { state with lnslist := Keyed.remove Lns.ref lns state.lnslist } =
        (Action.editLns lns terms).apply state.view ∧
      (terms.isSome → (state.view.lns lns).isSome) := by
  let removed : Daemon := { state with lnslist := Keyed.remove Lns.ref lns state.lnslist }
  refine ⟨(removed.lns? lns).map Lns.terms, ?_, fun left => ?_⟩
  swap
  · simp only [Option.isSome_map, Daemon.view, Daemon.lns?, removed] at left ⊢
    rw [Keyed.find_append, Keyed.find_remove_same, Option.none_or] at left
    rw [Keyed.find_append]
    simp [left]
  have entries : (fun ref => (removed.lns? ref).map Lns.terms) =
      Function.update (fun ref => (state.lns? ref).map Lns.terms) lns
        ((removed.lns? lns).map Lns.terms) := by
    funext ref
    by_cases same : ref = lns
    · subst same
      simp
    · have kept : removed.lns? ref = state.lns? ref := by
        unfold Daemon.lns?
        rw [Keyed.find_append, Keyed.find_append, Keyed.find_remove_other same]
      rw [Function.update_of_ne same, kept]
  unfold Daemon.view Action.apply
  simp only
  rw [← entries]
  rfl

theorem controlHandleLnsRemove_sim (allows : Allows env (.lns :: callEffects) allowed) :
    Sim assume env allowed (controlHandleLnsRemove env name) state := by
  refine sim_get ?_
  cases state.lnslist.find? fun entry => sameName entry.entname name with
  | none => exact leads_pure _
  | some found =>
    refine leads_bind (closeLnsCalls_sim (allows.mono (by decide))) fun _ closed _ => ?_
    refine leads_modify _ ?_
    obtain ⟨terms, view, known⟩ := view_removeLns closed found.ref
    rw [view]
    exact .act _ (allows.on _ (by simp [Action.effect])) known

theorem init_sim (allows : Allows env dialEffects allowed) :
    Sim assume env allowed (init env) state :=
  sim_get (leads_forM _ fun _ _ => autodialEntry_sim allows)

/-! ## Inputs -/

def Input.dialed? : Input → Option Bytes
  | .request (.lacConnect name _ _) => some name
  | .request (.lacOutgoingCall name _) => some name
  | _ => none

/-- The state in which the calls of a removed LAC entry are let go. -/
def Daemon.detaching (state : Daemon) (env : Env) (name : Bytes) (lac : LacRef)
    (before : Daemon) : Prop :=
  ∃ found stopped, findLac state name = some found ∧ found.ref = lac ∧
    writeLac found.ref (fun entry => { entry with active := false, rtries := 0 }) state =
      .ok () stopped ∧
    detachTunnel env found.ref stopped = .ok () before

/-- Calls are placed for LAC entries only, and no entry is taken from a call that
waits for an answer. -/
structure KeepsOwners (env : Env) (input : Input) (state : Daemon) : Prop where
  dials : ∀ name, input.dialed? = some name → state.dials name
  answered : ∀ name lac before, input = .request (.lacRemove name) →
    state.detaching env name lac before → before.answered lac

def Request.editsLns : Request → Bool
  | .lnsAddModify .. | .lnsRemove _ => true
  | _ => false

/-- What the inputs are made of that are neither datagrams nor such requests. -/
def inputEffects : List Effect :=
  [.lac, .mark, .timer, .dial, .call, .send, .close, .drop, .release, .unlink]

theorem doControl_sim {request : Request} (allows : Allows env inputEffects allowed)
    (owned : assume.owned → KeepsOwners env (.request request) state)
    (entries : request.editsLns = true → Allows env (.lns :: callEffects) allowed) :
    Sim assume env allowed (doControl env request) state := by
  cases request with
  | tunnel host => exact controlHandleTunnel_sim (allows.mono (by decide))
  | lacConnect name authname password =>
    exact controlHandleLacConnect_sim (allows.mono (by decide)) fun assumed =>
      (owned assumed).dials name rfl
  | lacOutgoingCall name number =>
    exact controlHandleLacOutgoingCall_sim (allows.mono (by decide)) fun assumed =>
      (owned assumed).dials name rfl
  | lacHangup cid => exact lacHangup_sim
  | lacDisconnect name => exact controlHandleLacDisconnect_sim (allows.mono (by decide))
  | lacAddModify name settings => exact controlHandleLacAddModify_sim (allows.mono (by decide))
  | lacRemove name =>
    refine controlHandleLacRemove_sim (allows.mono (by decide)) fun assumed => ?_
    intro found stopped before search wrote detached
    exact (owned assumed).answered name found.ref before rfl
      ⟨found, stopped, search, rfl, wrote, detached⟩
  | lnsAddModify name settings =>
    exact controlHandleLnsAddModify_sim ((entries rfl).on.mono (by decide))
  | lnsRemove name => exact controlHandleLnsRemove_sim (entries rfl)

theorem exec_sim {input : Input} (allows : Allows env inputEffects allowed)
    (owned : assume.owned → KeepsOwners env input state)
    (entries : ∀ request, input = .request request → request.editsLns = true →
      Allows env (.lns :: callEffects) allowed)
    (datagrams : ∀ datagram, input = .datagram datagram →
      Sim assume env allowed (receive env datagram) state) :
    Sim assume env allowed (exec env input) state := by
  cases input with
  | datagram datagram => exact datagrams datagram rfl
  | timer => exact fireEvent_sim (allows.mono (by decide))
  | sweep => exact buildFdset_sim (allows.mono (by decide))
  | request request => exact doControl_sim allows owned (entries request rfl)
  | childExit pid => exact childHandler_sim (allows.mono (by decide))
  | ptyPacket t ref packet => exact sendPayload_sim
  | ptyError t ref message => exact failPty_sim (allows.on.mono (by decide))
  | tick now =>
    refine sim_modify_same ?_
    split <;> rfl

theorem exec_any {input : Input} : Sim .none env (fun _ => True) (exec env input) state :=
  exec_sim allows_any (fun impossible => impossible.elim) (fun _ _ _ => allows_any) fun _ _ =>
    receive_sim allows_any (fun _ _ _ _ _ _ _ => delivers_any)
      (fun _ _ _ _ _ _ => misdelivers_any) fun impossible => impossible.elim

theorem init_any : Sim .none env (fun _ => True) (init env) state := init_sim allows_any

theorem runs_invariant {condition : Daemon → Input → Prop} {invariant : View → Prop}
    (keeps : ∀ before after, Acts .none env (fun _ => True) before after →
      invariant before → invariant after)
    (start : ∀ state, Booted state → invariant state.view) (runs : Runs env condition state) :
    invariant state.view := by
  induction runs with
  | boot booted ran => exact leads_ok_invariant init_any ran keeps (start _ booted)
  | step _ _ ran ih => exact leads_ok_invariant exec_any ran keeps ih

end Xl2tpd
