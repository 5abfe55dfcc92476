import Xl2tpd.AvpBounds

/-!
# Admission

The table of `message_type_avp` says in which states a message may go on to its branch of
`control_finish`. But `handle_avps` passes over a refusal in an AVP that is not mandatory, and
goes on after an ICRQ that has already made its call. What a message with several types does is
told by its Message Type AVPs and the state it finds.
-/

namespace Xl2tpd

set_option autoImplicit false

open Program

variable {base middle view : View} {type : MsgType} {tunnel : Tunnel} {call : Call}

variable {assume : Assume} {env : Env} {allowed : Action → Prop} {state : Daemon}
  {t : TunnelRef} {c : CallId} {buffer : RecvBuf} {before after : View}

/-! ## The state machine -/

def CallCore.machine (core : CallCore) : CallRef × CallState := (core.ref, core.state)

def TunnelCore.machine (core : TunnelCore) :
    TunnelRef × TunnelState × CallState × List (CallRef × CallState) :=
  (core.ref, core.state, core.self.state, core.calls.map CallCore.machine)

def View.machine (view : View) :
    List (TunnelRef × TunnelState × CallState × List (CallRef × CallState)) :=
  view.tunnels.map TunnelCore.machine

theorem View.machine_setTunnel {change : TunnelCore → TunnelCore}
    (keeps : ∀ core, (change core).machine = core.machine) :
    (view.setTunnel t change).machine = view.machine := Keyed.map_update_same keeps

theorem TunnelCore.machine_setCall {core : TunnelCore} {change : CallCore → CallCore}
    (keeps : ∀ call, (change call).machine = call.machine) :
    (core.setCall c change).machine = core.machine := by
  cases c with
  | self =>
    have same : (change core.self).state = core.self.state := congrArg Prod.snd (keeps core.self)
    simp only [TunnelCore.setCall, TunnelCore.machine, same]
  | call ref =>
    simp only [TunnelCore.setCall, TunnelCore.machine]
    rw [Keyed.map_update_same keeps]

def Stands (t : TunnelRef) (c : CallId) (before after : View) : Prop :=
  ∀ core call, after.tunnel? t = some core → core.call? c = some call →
    ∃ old oldCall, before.tunnel? t = some old ∧ old.call? c = some oldCall ∧
      old.state = core.state ∧ oldCall.state = call.state

theorem Stands.trans (first : Stands t c before middle) (second : Stands t c middle after) :
    Stands t c before after := by
  intro core call found foundCall
  obtain ⟨old, oldCall, foundOld, foundOldCall, same, sameCall⟩ := second core call found foundCall
  obtain ⟨oldest, oldestCall, foundOldest, foundOldestCall, same', sameCall'⟩ :=
    first old oldCall foundOld foundOldCall
  exact ⟨oldest, oldestCall, foundOldest, foundOldestCall, same'.trans same,
    sameCall'.trans sameCall⟩

theorem TunnelCore.call_machine {core old : TunnelCore} {call : CallCore}
    (same : core.machine = old.machine) (found : core.call? c = some call) :
    ∃ oldCall, old.call? c = some oldCall ∧ oldCall.state = call.state := by
  cases c with
  | self =>
    cases found
    exact ⟨old.self, rfl, (congrArg (fun machine => machine.2.2.1) same).symm⟩
  | call ref =>
    have lists : core.calls.map CallCore.machine = old.calls.map CallCore.machine :=
      congrArg (fun machine => machine.2.2.2) same
    have image : ∀ calls : List CallCore, Keyed.find Prod.fst ref (calls.map CallCore.machine) =
        (Keyed.find CallCore.ref ref calls).map CallCore.machine :=
      fun calls => Keyed.find_map fun _ => rfl
    have equal := (image core.calls).symm.trans ((congrArg _ lists).trans (image old.calls))
    rw [show Keyed.find CallCore.ref ref core.calls = some call from found] at equal
    obtain ⟨oldCall, foundOld, shown⟩ := Option.map_eq_some_iff.mp equal.symm
    exact ⟨oldCall, foundOld, congrArg Prod.snd shown⟩

theorem stands_of_machine (same : after.machine = before.machine) : Stands t c before after := by
  intro core call found foundCall
  have image : ∀ view : View, Keyed.find Prod.fst t view.machine =
      (view.tunnel? t).map TunnelCore.machine := fun view => Keyed.find_map fun _ => rfl
  have equal := (image after).symm.trans ((congrArg _ same).trans (image before))
  rw [found] at equal
  obtain ⟨old, foundOld, shown⟩ := Option.map_eq_some_iff.mp equal.symm
  obtain ⟨oldCall, foundOldCall, sameCall⟩ := TunnelCore.call_machine shown.symm foundCall
  exact ⟨old, oldCall, foundOld, foundOldCall, congrArg (fun machine => machine.2.1) shown,
    sameCall⟩

/-! ## Steps that concern neither types nor states -/

/-- The history grew, but by no verdict and no branch. -/
def Untyped (before after : View) : Prop :=
  ∃ notes, after.trace = before.trace ++ notes ∧ ∀ note ∈ notes, note.typing = false

theorem Untyped.refl (view : View) : Untyped view view := ⟨[], by simp⟩

theorem Untyped.trans (first : Untyped before middle) (second : Untyped middle after) :
    Untyped before after := by
  obtain ⟨early, trace, free⟩ := first
  obtain ⟨late, trace', free'⟩ := second
  refine ⟨early ++ late, by rw [trace', trace, List.append_assoc], ?_⟩
  intro note member
  rcases List.mem_append.mp member with here | there
  · exact free note here
  · exact free' note there

theorem Action.adds_typing {action : Action} {note : Obs} (member : note ∈ action.adds)
    (typing : note.typing = true) : action = .note note := by
  have fate : ∀ (buffer : Buffer) (fate : Fate), note ∉ fate.adds buffer := by
    intro buffer fate listed
    cases fate <;> simp only [Fate.adds, List.mem_singleton, List.not_mem_nil] at listed
    all_goals
      rw [listed] at typing
      cases typing
  cases action with
  | send buffer sent =>
    rcases List.mem_cons.mp member with numbered | later
    · rw [numbered] at typing
      cases typing
    · exact absurd later (fate _ _)
  | resend buffer sent => exact absurd member (fate _ _)
  | note observed => rw [List.mem_singleton.mp member]
  | draw | establish | accept | zlb =>
    rw [List.mem_singleton.mp member] at typing
    cases typing
  | _ => cases member

theorem Acts.untyped (acts : Acts assume env allowed before after)
    (free : ∀ observed, observed.typing = true → ¬ allowed (.note observed)) :
    Untyped before after := by
  cases acts with
  | quiet same =>
    obtain ⟨notes, trace, silent⟩ := same.trace
    refine ⟨notes, trace, fun note member => ?_⟩
    have quiet := silent note member
    cases note <;> first | rfl | cases quiet
  | act action allow _ =>
    refine ⟨action.adds, action.apply_trace before, fun note member => ?_⟩
    rw [← Bool.not_eq_true]
    intro typing
    rw [Action.adds_typing member typing] at allow
    exact free note typing allow

/-- Nothing happened that concerns types or states. -/
structure Calm (before after : View) : Prop where
  machine : after.machine = before.machine
  untyped : Untyped before after

theorem Calm.refl (view : View) : Calm view view := ⟨rfl, .refl view⟩

theorem Calm.trans (first : Calm before middle) (second : Calm middle after) :
    Calm before after :=
  ⟨second.machine.trans first.machine, first.untyped.trans second.untyped⟩

def calmEffects : List Effect := [.send, .mark, .name, .release, .receive, .start]

theorem CallMove.machine_kept {change : CallMove} (calm : change.effect ∈ calmEffects)
    (call : CallCore) : (change.apply call).machine = call.machine := by
  cases change with
  | mark | release => rfl
  | timeout =>
    simp only [CallMove.apply]
    split <;> rfl
  | _ => simp [CallMove.effect, calmEffects] at calm

theorem Move.machine_kept {change : Move} (calm : change.effect ∈ calmEffects)
    (core : TunnelCore) : (change.apply core).machine = core.machine := by
  cases change with
  | hostname | miscount => rfl
  | acked c nr => exact TunnelCore.machine_setCall fun _ => rfl
  | call c change => exact TunnelCore.machine_setCall (CallMove.machine_kept calm)
  | _ => simp [Move.effect, calmEffects] at calm

theorem Action.machine_kept {action : Action} (calm : action.effect ∈ calmEffects)
    (view : View) : (action.apply view).machine = view.machine := by
  cases action with
  | move t change => exact View.machine_setTunnel (Move.machine_kept calm)
  | accept t header body => exact View.machine_setTunnel fun _ => rfl
  | zlb | note => rfl
  | send buffer fate =>
    have numbered : (view.setTunnel buffer.tunnel fun core =>
        { core with controlSeqNum := core.controlSeqNum + 1 }).machine = view.machine :=
      View.machine_setTunnel fun _ => rfl
    cases fate <;> exact numbered
  | draw t value answering => cases answering <;> simp [Action.effect, calmEffects] at calm
  | _ => simp [Action.effect, calmEffects] at calm

theorem Acts.calm (acts : Acts assume env (fun action => action.effect ∈ calmEffects) before after) :
    Calm before after := by
  refine ⟨?_, acts.untyped fun observed typing calm => ?_⟩
  · cases acts with
    | quiet same =>
      unfold View.machine
      rw [same.tunnels]
    | act action calm _ => exact action.machine_kept calm before
  · cases observed <;> simp [Action.effect, Obs.effect, calmEffects, Obs.typing] at calm typing

/-- A Message Type AVP, as `message_type_avp` gets it. -/
structure TypeAvp where
  type : MsgType
  mandatory : Bool
  length : Nat
  deriving DecidableEq, Repr

/-- `message_type_avp` takes the AVP in these states of the tunnel and the call. -/
def TypeAvp.fits (avp : TypeAvp) (tunnel : TunnelState) (c : CallId) (call : CallState) : Bool :=
  avp.length = 8 && admitted tunnel c call avp.type

def TypeAvp.verdict (t : TunnelRef) (c : CallId) (taken : TypeAvp → Bool) (avp : TypeAvp) : Obs :=
  .verdict t c avp.type avp.mandatory (taken avp)

/-- An ICRQ that is taken makes its call at once. -/
def TypeAvp.rings (taken : TypeAvp → Bool) (avp : TypeAvp) : Bool := avp.type = .ICRQ && taken avp

def View.callCount (view : View) (t : TunnelRef) : Nat :=
  ((view.tunnel? t).map fun core => core.calls.length).getD 0

/-- What reading the given Message Type AVPs has noted and changed. -/
structure TypesRead (t : TunnelRef) (c : CallId) (taken : TypeAvp → Bool) (base view : View)
    (avps : List TypeAvp) : Prop where
  notes : ∃ notes, view.trace = base.trace ++ notes ∧
    notes.filter Obs.typing = avps.map (TypeAvp.verdict t c taken)
  machine : avps.any (TypeAvp.rings taken) = false → view.machine = base.machine
  count : view.callCount t = base.callCount t + avps.countP (TypeAvp.rings taken)
  stands : Stands t c base view
  found : ∃ core call, view.tunnel? t = some core ∧ core.call? c = some call
  typed : ∀ core call, view.tunnel? t = some core → core.call? c = some call →
    call.msgtype = avps.getLast?.map TypeAvp.type

section

variable {taken : TypeAvp → Bool} {avps : List TypeAvp}

theorem find_machine (view : View) : Keyed.find Prod.fst t view.machine =
    (view.tunnel? t).map TunnelCore.machine := Keyed.find_map fun _ => rfl

theorem callCount_machine (same : after.machine = before.machine) :
    after.callCount t = before.callCount t := by
  have shown : ∀ view : View, view.callCount t =
      ((Keyed.find Prod.fst t view.machine).map fun machine => machine.2.2.2.length).getD 0 := by
    intro view
    rw [find_machine, Option.map_map]
    unfold View.callCount
    congr 2
    funext core
    exact (List.length_map _).symm
  rw [shown, shown, same]

theorem Untyped.filter (untyped : Untyped before after) {notes : List Obs}
    (trace : before.trace = base.trace ++ notes) :
    ∃ more, after.trace = base.trace ++ more ∧ more.filter Obs.typing = notes.filter Obs.typing := by
  obtain ⟨late, grown, free⟩ := untyped
  refine ⟨notes ++ late, by rw [grown, trace, List.append_assoc], ?_⟩
  have none : late.filter Obs.typing = [] :=
    List.filter_eq_nil_iff.mpr fun note member => by simp [free note member]
  rw [List.filter_append, none, List.append_nil]

/-- Other AVPs do not concern types and states. -/
theorem TypesRead.calm (reading : TypesRead t c taken base view avps) (calm : Calm view after)
    (recalls : Recalls t c view after) : TypesRead t c taken base after avps where
  notes := by
    obtain ⟨notes, trace, listed⟩ := reading.notes
    obtain ⟨more, grown, same⟩ := calm.untyped.filter trace
    exact ⟨more, grown, same.trans listed⟩
  machine := fun none => calm.machine.trans (reading.machine none)
  count := (callCount_machine calm.machine).trans reading.count
  stands := reading.stands.trans (stands_of_machine calm.machine)
  found := by
    obtain ⟨core, call, found, foundCall⟩ := reading.found
    obtain ⟨now, nowCall, foundNow, foundNowCall, _⟩ :=
      stands_of_machine calm.machine.symm core call found foundCall
    exact ⟨now, nowCall, foundNow, foundNowCall⟩
  typed := by
    intro core call found foundCall
    obtain ⟨old, oldCall, foundOld, foundOldCall, _, _, sameType⟩ :=
      recalls core call found foundCall
    exact sameType.trans (reading.typed old oldCall foundOld foundOldCall)

theorem TypesRead.stores (reading : TypesRead t c taken base view avps)
    (acts : Acts .none env (fun action => action.effect ∈ [.mark, .name]) view after) :
    TypesRead t c taken base after avps :=
  reading.calm (acts.mono fun _ stores =>
    (by decide : [Effect.mark, .name] ⊆ calmEffects) stores).calm (recalls_stores acts)

theorem stored_machine : ((Action.move t (.call c (.msgtype (some type)))).apply view).machine =
    view.machine :=
  View.machine_setTunnel fun _ => TunnelCore.machine_setCall fun _ => rfl

theorem Typed.machine {success : Bool} (typed : Typed t c type before success after)
    (other : (type = .ICRQ && success) = false) : after.machine = before.machine := by
  cases typed with
  | refused left | taken _ _ _ _ left => rw [left, stored_machine]
  | garbled left =>
    have marked : ∀ view : View, ((Action.move t (.call c .mark)).apply view).machine =
        view.machine := fun view => Action.machine_kept (by
          simp [Action.effect, Move.effect, CallMove.effect, calmEffects]) view
    rw [left, marked, stored_machine]
  | called _ _ _ _ incoming _ _ => simp [incoming] at other

end

/-! ## The loop -/

section Loop

variable {taken : TypeAvp → Bool} {avps : List TypeAvp} {size : Nat} {round : Round}

end Loop

/-! ## Messages -/

/-- The branches of `control_finish` that write a state or the list of calls. -/
def MsgType.writes : MsgType → Bool
  | .zero | .SCCRQ | .SCCRP | .SCCCN | .ICRQ | .ICRP | .ICCN => true
  | _ => false

/-- The types that `control_finish` has a branch for. -/
def MsgType.branched : MsgType → Bool
  | .OCRQ | .WEN | .unassigned _ => false
  | _ => true

/-- What a message has noted and changed, told by its Message Type AVPs and the type that
`control_finish` gets. -/
structure Outcome (t : TunnelRef) (c : CallId) (taken : TypeAvp → Bool) (base view : View)
    (avps : List TypeAvp) (passed : Option MsgType) : Prop where
  notes : ∃ notes, view.trace = base.trace ++ notes ∧ notes.filter Obs.typing =
    avps.map (TypeAvp.verdict t c taken) ++ passed.toList.map (Obs.finish t c)
  machine : passed.any MsgType.writes = false → avps.any (TypeAvp.rings taken) = false →
    view.machine = base.machine
  count : passed.any MsgType.writes = false →
    view.callCount t = base.callCount t + avps.countP (TypeAvp.rings taken)

section

variable {taken : TypeAvp → Bool} {avps : List TypeAvp} {passed : Option MsgType}

theorem TypesRead.outcome (reading : TypesRead t c taken base view avps) :
    Outcome t c taken base view avps none where
  notes := by
    obtain ⟨notes, trace, listed⟩ := reading.notes
    exact ⟨notes, trace, listed.trans (List.append_nil _).symm⟩
  machine := fun _ => reading.machine
  count := fun _ => reading.count

theorem Calm.outcome (calm : Calm before after) : Outcome t c taken before after [] none where
  notes := by
    obtain ⟨notes, trace, free⟩ := calm.untyped
    exact ⟨notes, trace, List.filter_eq_nil_iff.mpr fun note member => by simp [free note member]⟩
  machine := fun _ _ => calm.machine
  count := fun _ => callCount_machine calm.machine

end

/-- `handle_control` gives the AVPs of the message to `handle_avps`. -/
def RecvBuf.reads (buffer : RecvBuf) (tunnel : Tunnel) : Bool :=
  buffer.expected tunnel && controlFlags buffer.controlHdr.ver && buffer.len ≠ controlHdrSize

section Control

variable (found : state.tunnel? t = some tunnel) (foundCall : tunnel.call? c = some call)

include found foundCall

end Control

def noted (env : Env) (buffer : RecvBuf) (t : TunnelRef) (c : CallId) (state : Daemon) : List Obs :=
  (final (handleControl env buffer t c state)).trace.drop state.trace.length

def Obs.refuses : Obs → Bool
  | .verdict _ _ _ _ admitted => !admitted
  | _ => false

def Obs.takes : Obs → Bool
  | .verdict _ _ _ _ admitted => admitted
  | _ => false

def Obs.writes : Obs → Bool
  | .finish _ _ type => type.writes
  | _ => false

/-- Every type is taken; or no ICRQ is, and a type that is passed on writes no state and was taken
if it has a branch. -/
def orderly (taken : TypeAvp → Bool) (avps : List TypeAvp) (passed : Option MsgType) : Bool :=
  avps.all taken ||
    !avps.any (TypeAvp.rings taken) && passed.all fun type =>
      !type.writes && (!type.branched || avps.any fun avp => avp.type = type && taken avp)

section Table

variable (found : state.tunnel? t = some tunnel) (foundCall : tunnel.call? c = some call)

include found foundCall

end Table

end Xl2tpd
