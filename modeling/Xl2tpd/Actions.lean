import Xl2tpd.View

/-!
# When an action can happen

The guards of the actions. Two of them hold only as long as the daemon is used in a certain way
and stand under an assumption.
-/

namespace Xl2tpd

set_option autoImplicit false

/-- `admitted`: `control_finish` is entered only for types that `message_type_avp` took. `owned`:
calls are placed for LAC entries, which outlive them. -/
structure Assume where
  admitted : Prop
  owned : Prop
  both : owned → admitted

def Assume.none : Assume := ⟨False, False, id⟩

/-- Observations that leave no mark on the abstract daemon's invariants. -/
def Obs.silent : Obs → Bool
  | .payload .. | .connectPppol2tp .. | .killPppd .. | .writePacket .. => true
  | _ => false

def Obs.typing : Obs → Bool
  | .verdict .. | .finish .. => true
  | _ => false

def Obs.starting : Obs → Bool
  | .startPppd .. => true
  | _ => false

/-- A step that the invariants do not see. -/
structure Quiet (before after : View) : Prop where
  tunnels : after.tunnels = before.tunnels
  buffers : after.buffers = before.buffers
  lns : after.lns = before.lns
  lac : after.lac = before.lac
  fresh : before.fresh ≤ after.fresh
  trace : ∃ notes, after.trace = before.trace ++ notes ∧ ∀ note ∈ notes, note.silent = true

variable {assume : Assume} {env : Env} {allowed : Action → Prop} {after before view : View}
  {t : TunnelRef} {change : TunnelCore → TunnelCore}

theorem Quiet.refl (view : View) : Quiet view view :=
  ⟨rfl, rfl, rfl, rfl, Nat.le_refl _, [], by simp⟩

theorem Quiet.trans {first second third : View} (left : Quiet first second)
    (right : Quiet second third) : Quiet first third := by
  obtain ⟨leftNotes, leftTrace, leftSilent⟩ := left.trace
  obtain ⟨rightNotes, rightTrace, rightSilent⟩ := right.trace
  refine
    { tunnels := right.tunnels.trans left.tunnels
      buffers := right.buffers.trans left.buffers
      lns := right.lns.trans left.lns
      lac := right.lac.trans left.lac
      fresh := left.fresh.trans right.fresh
      trace := ⟨leftNotes ++ rightNotes, ?_, ?_⟩ }
  · rw [rightTrace, leftTrace, List.append_assoc]
  · intro note member
    rcases List.mem_append.mp member with early | late
    · exact leftSilent note early
    · exact rightSilent note late

theorem Quiet.bump (view : View) : Quiet view { view with fresh := view.fresh + 1 } :=
  ⟨rfl, rfl, rfl, rfl, Nat.le_succ _, [], by simp⟩

/-! ## Owners -/

def Terms.challengeOf (terms : Option Terms) : Bool := (terms.map Terms.challenge).getD false

def View.ownerChallenge (view : View) (core : TunnelCore) : Bool :=
  Terms.challengeOf (core.lac.bind view.lac) || Terms.challengeOf (core.lns.bind view.lns)

def Terms.names (env : Env) (peer : Bytes) (terms : Terms) : Bytes × Bytes :=
  (if terms.hostname ≠ [] then terms.hostname else env.hostname,
    if terms.peername ≠ [] then terms.peername else peer)

def View.secret? (env : Env) (view : View) (core : TunnelCore) : Option Bytes :=
  let terms :=
    match core.lns, core.lac with
    | some lns, _ => view.lns lns
    | none, some lac => view.lac lac
    | none, none => none
  (terms.map (Terms.names env core.hostname)).bind fun names => env.getSecret names.1 names.2

def View.issued (view : View) (core : TunnelCore) : Prop :=
  ∃ value, core.challenge = some value ∧ Obs.challenge core.ref value ∈ view.trace

def View.expects (env : Env) (view : View) (core : TunnelCore) (ss : Nat) : Prop :=
  ∃ secret, view.secret? env core = some secret ∧
    core.response = env.response ss secret (core.challenge.getD [])

/-! ## Guards -/

/-- The states in which a tunnel has not answered or been answered. -/
def TunnelState.opening : TunnelState → Bool
  | .idle | .SCCRQ => true
  | _ => false

/-- The states of a call that we placed and that is not answered. -/
def CallState.placed : CallState → Bool
  | .ICRQ | .OCRQ => true
  | _ => false

def CallMove.enabled (assume : Assume) (core : TunnelCore) (c : CallId) : CallMove → Prop
  | .enter .idle => False
  | .enter .ICRP =>
      c ≠ .self ∧ (assume.admitted → core.state = .SCCCN ∧ core.lns.isSome ∧
        ∀ call, core.call? c = some call → call.lns.isSome ∧ call.state = .idle)
  | .enter .ICCN =>
      assume.admitted →
        ∀ call, core.call? c = some call → call.state = .ICRQ ∨ call.state = .ICRP
  | .enter _ =>
      c ≠ .self ∧ (assume.owned → ∀ call, core.call? c = some call → call.lac.isSome) ∧
        (assume.admitted → ∀ call, core.call? c = some call → call.state = .idle)
  | _ => True

def Move.enabled (assume : Assume) (view : View) (core : TunnelCore) : Move → Prop
  | .hostname _ => assume.admitted → core.state.opening
  | .adopt lns lac =>
      core.state = .idle ∧ core.calls = [] ∧ (∀ ref ∈ lns, (view.lns ref).isSome) ∧
        ∀ ref ∈ lac, (view.lac ref).isSome
  | .choose lns =>
      (assume.admitted → core.state.opening) ∧ ∀ ref ∈ lns, (view.lns ref).isSome
  | .request =>
      (assume.admitted → core.state = .idle) ∧
        (view.ownerChallenge core → core.challenged ∧ view.issued core)
  | .answer => core.lns.isSome ∧ (assume.admitted → core.state.opening)
  | .challenged => assume.admitted → core.state = .idle
  | .verify _ => assume.admitted → core.state = .SCCRQ
  | .addCall added =>
      view.fresh ≤ added.ref ∧ added.state = .idle ∧ added.needclose = false ∧
        added.closing = false ∧ added.msgtype = some .zero
  | .detach ref =>
      assume.owned → ∀ call ∈ core.calls.dropWhile fun call => call.ref ≠ ref,
        call.state.placed = false
  | .call c change => change.enabled assume core c
  | _ => True

def TunnelCore.heads (core : TunnelCore) (header : ControlHdr) (body : Bytes) : Prop :=
  header.ver = controlVer ∧ header.length = UInt16.ofNat (controlHdrSize + body.length) ∧
    header.Ns = core.controlSeqNum ∧ header.Nr = core.controlRecSeqNum

def Fate.decided (env : Env) (core : TunnelCore) (buffer : Buffer) : Fate → Prop
  | .queued => ¬ buffer.header.Ns.toNat < core.cLr ∧ buffer.retries ≤ env.maxRetries
  | .tossed => buffer.header.Ns.toNat < core.cLr
  | .dropped => ¬ buffer.header.Ns.toNat < core.cLr ∧ env.maxRetries < buffer.retries

/-- How a tunnel may enter `SCCCN`. -/
def Establishing (assume : Assume) (env : Env) (view : View) (core : TunnelCore) : Prop :=
  (assume.admitted → core.state = .SCCRP) ∨
    ((assume.admitted → core.state = .SCCRQ) ∧ (core.challenged → view.expects env core 2))

def Action.enabled (assume : Assume) (env : Env) (view : View) : Action → Prop
  | .link ref _ => ref = view.fresh
  | .unlink _ => True
  | .move t change => ∃ core, view.tunnel? t = some core ∧ change.enabled assume view core
  | .draw t _ answering =>
      ∃ core, view.tunnel? t = some core ∧
        (answering = false → assume.admitted → core.state = .idle)
  | .establish tunnel lns lac =>
      ∃ core, view.tunnel? tunnel.ref = some core ∧
        tunnel.core = { core with state := .SCCCN } ∧
        lns.map Lns.terms = core.lns.bind view.lns ∧ lac.map Lac.terms = core.lac.bind view.lac ∧
        (core.challenged → tunnel.chalThem.reply = core.response) ∧
        Establishing assume env view core
  | .accept t header _ =>
      ∃ core, view.tunnel? t = some core ∧ header.Ns = core.controlRecSeqNum
  | .zlb t header => ∃ core, view.tunnel? t = some core ∧ core.heads header []
  | .send buffer fate =>
      buffer.body ≠ [] ∧ buffer.retries = 1 ∧
        ∃ core, view.tunnel? buffer.tunnel = some core ∧ core.heads buffer.header buffer.body ∧
          fate.decided env core buffer
  | .resend buffer fate =>
      buffer ∈ view.buffers ∧
        ∃ core, view.tunnel? buffer.tunnel = some core ∧
          fate.decided env core buffer.tried
  | .lose buffer => buffer ∈ view.buffers ∧ view.tunnel? buffer.tunnel = none
  | .deschedule _ => True
  | .addLns _ => True
  | .editLns lns terms => terms.isSome → (view.lns lns).isSome
  | .addLac _ => True
  | .removeLac _ => True
  | .note observed => observed.typing || observed.starting

inductive Acts (assume : Assume) (env : Env) (allowed : Action → Prop) (view : View) :
    View → Prop
  | quiet {after : View} (same : Quiet view after) : Acts assume env allowed view after
  | act (action : Action) (allow : allowed action) (enabled : action.enabled assume env view) :
      Acts assume env allowed view (action.apply view)

theorem Acts.mono {wider : Action → Prop} (acts : Acts assume env allowed before after)
    (sub : ∀ action, allowed action → wider action) : Acts assume env wider before after := by
  cases acts with
  | quiet same => exact .quiet same
  | act action allow enabled => exact .act action (sub action allow) enabled

/-! ## Effects -/

/-- The sorts of actions a function is made of. -/
inductive Effect
  | send | mark | close | drop | call | dial | verify | answer | name | msgtype | finish | lac
  | lns | timer | release | receive | unlink | start
  deriving DecidableEq

def Obs.effect : Obs → Effect
  | .finish .. => .finish
  | .startPppd .. => .start
  | _ => .msgtype

def CallMove.effect : CallMove → Effect
  | .mark => .mark
  | .release | .timeout => .release
  | .close | .closeSs _ => .close
  | .msgtype _ => .msgtype
  | .enter _ => .call

def Move.effect : Move → Effect
  | .hostname _ => .name
  | .adopt .. | .request | .challenged => .dial
  | .choose _ | .answer | .expect _ => .answer
  | .verify _ => .verify
  | .acked .. | .miscount _ => .receive
  | .addCall _ => .call
  | .dropCall _ => .drop
  | .detach _ | .disown => .lac
  | .call _ change => change.effect

def Action.effect : Action → Effect
  | .link .. => .dial
  | .unlink _ => .unlink
  | .move _ change => change.effect
  | .draw _ _ true => .answer
  | .draw _ _ false => .dial
  | .establish .. => .verify
  | .accept .. => .receive
  | .zlb .. | .send .. => .send
  | .resend .. | .lose _ => .timer
  | .deschedule _ => .close
  | .addLns _ | .editLns .. => .lns
  | .addLac _ | .removeLac _ => .lac
  | .note observed => observed.effect

def Permits (effects : List Effect) (allowed : Action → Prop) : Prop :=
  ∀ action, action.effect ∈ effects → allowed action

theorem Permits.mono {effects fewer : List Effect} (permits : Permits effects allowed)
    (sub : fewer ⊆ effects) : Permits fewer allowed :=
  fun action member => permits action (sub member)

def tunnelEffects : List Effect := [.send, .close, .drop, .release, .unlink]

/-- The same for functions that send; with no retries any message may end its tunnel. -/
structure Allows (env : Env) (effects : List Effect) (allowed : Action → Prop) : Prop where
  on : Permits effects allowed
  fails : env.maxRetries = 0 → Permits tunnelEffects allowed

theorem Allows.mono {effects fewer : List Effect} (allows : Allows env effects allowed)
    (sub : fewer ⊆ effects) : Allows env fewer allowed :=
  ⟨allows.on.mono sub, allows.fails⟩

/-! ## Reading after an action -/

theorem TunnelCore.setCall_ref (core : TunnelCore) (c : CallId) (change : CallCore → CallCore) :
    (core.setCall c change).ref = core.ref := by
  cases c <;> rfl

theorem Move.apply_ref (change : Move) (core : TunnelCore) : (change.apply core).ref = core.ref := by
  cases change <;> first | rfl | exact TunnelCore.setCall_ref _ _ _

theorem CallMove.apply_ref (change : CallMove) (core : CallCore) :
    (change.apply core).ref = core.ref := by
  cases change <;> first | rfl | (simp only [CallMove.apply]; split <;> rfl)

theorem View.tunnel_setTunnel {other : TunnelRef} (keeps : ∀ core, (change core).ref = core.ref) :
    (view.setTunnel t change).tunnel? other =
      if other = t then (view.tunnel? other).map change else view.tunnel? other :=
  Keyed.find_update keeps

theorem View.tunnel_setTunnel_same (keeps : ∀ core, (change core).ref = core.ref) :
    (view.setTunnel t change).tunnel? t = (view.tunnel? t).map change :=
  Keyed.find_update_same keeps

theorem View.setTunnel_setTunnel {first second : TunnelCore → TunnelCore}
    (keeps : ∀ core, (first core).ref = core.ref) :
    (view.setTunnel t first).setTunnel t second = view.setTunnel t (second ∘ first) := by
  unfold View.setTunnel
  simp only
  rw [Keyed.update_update keeps]

theorem View.tunnel_ref {core : TunnelCore} (found : view.tunnel? t = some core) :
    core.ref = t := Keyed.find_key found

theorem TunnelCore.call_setCall {core : TunnelCore} {c other : CallId}
    {change : CallCore → CallCore} (keeps : ∀ call, (change call).ref = call.ref) :
    (core.setCall c change).call? other =
      if other = c then (core.call? other).map change else core.call? other := by
  cases c with
  | self =>
    cases other with
    | self => rfl
    | call ref => simp [TunnelCore.call?, TunnelCore.setCall]
  | call ref =>
    cases other with
    | self => simp [TunnelCore.call?, TunnelCore.setCall]
    | call target =>
      simp only [TunnelCore.call?, TunnelCore.setCall, CallId.call.injEq]
      exact Keyed.find_update keeps

def Action.core (t : TunnelRef) (core : TunnelCore) : Action → TunnelCore
  | .move u change => if t = u then change.apply core else core
  | .draw u value _ => if t = u then { core with challenge := some value } else core
  | .establish tunnel _ _ => if t = tunnel.ref then { core with state := .SCCCN } else core
  | .accept u header _ => if t = u then (Move.miscount header.Nr).apply core else core
  | .send buffer _ =>
      if t = buffer.tunnel then { core with controlSeqNum := core.controlSeqNum + 1 } else core
  | _ => core

theorem Fate.apply_tunnel (buffer : Buffer) (view : View) (fate : Fate) (t : TunnelRef) :
    (fate.apply buffer view).tunnel? t = view.tunnel? t := by
  cases fate <;> rfl

theorem View.tunnel_setTunnel_some {u : TunnelRef} {after : TunnelCore}
    (keeps : ∀ core, (change core).ref = core.ref)
    (found : (view.setTunnel u change).tunnel? t = some after) :
    ∃ core, view.tunnel? t = some core ∧ after = if t = u then change core else core := by
  rw [View.tunnel_setTunnel keeps] at found
  split at found
  · rename_i same
    obtain ⟨core, before, changed⟩ := Option.map_eq_some_iff.mp found
    exact ⟨core, before, by rw [if_pos same, changed]⟩
  · rename_i apart
    exact ⟨after, found, by rw [if_neg apart]⟩

theorem Action.found {after : TunnelCore} (action : Action)
    (found : (action.apply view).tunnel? t = some after) :
    (∃ selfRef, action = .link t selfRef ∧ after = .blank t selfRef) ∨
      ∃ core, view.tunnel? t = some core ∧ after = action.core t core := by
  cases action with
  | link ref selfRef =>
    change Keyed.find TunnelCore.ref t (TunnelCore.blank ref selfRef :: view.tunnels) = _ at found
    rw [Keyed.find_cons] at found
    split at found
    · rename_i same
      cases found
      left
      refine ⟨selfRef, ?_, ?_⟩
      · rw [← same]
        rfl
      · rw [← same]
        rfl
    · exact .inr ⟨after, found, rfl⟩
  | unlink u => exact .inr ⟨after, Keyed.find_of_remove found, rfl⟩
  | move u change => exact .inr (View.tunnel_setTunnel_some change.apply_ref found)
  | accept u header body =>
    exact .inr (View.tunnel_setTunnel_some (Move.miscount header.Nr).apply_ref found)
  | draw | establish =>
    exact .inr (View.tunnel_setTunnel_some (by intro _; rfl) found)
  | send buffer fate =>
    simp only [Action.apply] at found
    rw [Fate.apply_tunnel] at found
    exact .inr (View.tunnel_setTunnel_some (by intro _; rfl) found)
  | resend buffer fate =>
    simp only [Action.apply] at found
    rw [Fate.apply_tunnel] at found
    exact .inr ⟨after, found, rfl⟩
  | _ => exact .inr ⟨after, found, rfl⟩

theorem Action.mem_buffers {buffer : Buffer} (action : Action)
    (member : buffer ∈ (action.apply view).buffers) :
    buffer ∈ view.buffers ∨ action = .send buffer .queued ∨
      ∃ old, action = .resend old .queued ∧ buffer = old.tried := by
  cases action with
  | send sent fate =>
    cases fate with
    | queued =>
      rcases Multiset.mem_cons.mp member with same | old
      · exact .inr (.inl (by rw [same]))
      · exact .inl old
    | tossed | dropped => exact .inl member
  | resend old fate =>
    cases fate with
    | queued =>
      rcases Multiset.mem_cons.mp member with same | kept
      · exact .inr (.inr ⟨old, rfl, same⟩)
      · exact .inl (Multiset.mem_of_mem_erase kept)
    | tossed | dropped => exact .inl (Multiset.mem_of_mem_erase member)
  | lose old => exact .inl (Multiset.mem_of_mem_erase member)
  | deschedule t => exact .inl (Multiset.mem_of_mem_filter member)
  | _ => exact .inl member

/-! ## The history only grows -/

def Fate.adds (buffer : Buffer) : Fate → List Obs
  | .queued => [.xmit buffer.tunnel buffer.header buffer.body]
  | .tossed => [.tossed buffer.tunnel buffer.header.Ns]
  | .dropped => []

def Action.adds : Action → List Obs
  | .draw t value _ => [.challenge t value]
  | .establish tunnel lns lac => [.established tunnel lns lac]
  | .accept t _ body => [.accepted t body]
  | .zlb t header => [.xmit t header []]
  | .send buffer fate =>
      .numbered buffer.tunnel buffer.header.Ns buffer.body :: fate.adds buffer
  | .resend buffer fate => fate.adds buffer.tried
  | .note observed => [observed]
  | _ => []

theorem Fate.apply_trace (buffer : Buffer) (view : View) (fate : Fate) :
    (fate.apply buffer view).trace = view.trace ++ fate.adds buffer := by
  cases fate with
  | queued | tossed => rfl
  | dropped => exact (List.append_nil _).symm

theorem Action.apply_trace (view : View) (action : Action) :
    (action.apply view).trace = view.trace ++ action.adds := by
  cases action with
  | send buffer fate =>
    simp only [Action.apply, Action.adds]
    rw [Fate.apply_trace, View.log, List.append_assoc]
    rfl
  | resend buffer fate =>
    exact Fate.apply_trace buffer.tried { view with buffers := view.buffers.erase buffer } fate
  | draw | establish | accept | zlb | note => rfl
  | _ => exact (List.append_nil _).symm

theorem Acts.trace_grows (acts : Acts assume env allowed before after) :
    before.trace <+: after.trace := by
  cases acts with
  | quiet same =>
    obtain ⟨notes, trace, _⟩ := same.trace
    exact ⟨notes, trace.symm⟩
  | act action _ _ =>
    rw [action.apply_trace before]
    exact List.prefix_append _ _

theorem acts_trace_grows (chain : Relation.ReflTransGen (Acts assume env allowed) before after) :
    before.trace <+: after.trace := by
  induction chain with
  | refl => exact List.prefix_refl _
  | tail _ acts ih => exact ih.trans acts.trace_grows

end Xl2tpd
