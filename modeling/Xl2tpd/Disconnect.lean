import Xl2tpd.Runs

/-!
# Call-Disconnect-Notify

A CDN is addressed to a call, or to the tunnel with the peer's number of the call in an
AVP. Either way it should end the call it names and nothing else.
-/

namespace Xl2tpd

set_option autoImplicit false

open Program

variable {env : Env} {state : Daemon} {t : TunnelRef} {c : CallId} {tunnel : Tunnel} {call : Call}

def Tunnel.cdnNames (tunnel : Tunnel) (c : CallId) (call : Call) : Option CallId :=
  match c with
  | .self => (tunnel.cdnTarget .self call).map fun p => .call p.ref
  | .call ref => some (.call ref)

/-- A CDN that is accepted marks the call it names, and no CDN marks anything else. -/
structure EndsOnly (t : TunnelRef) (named : Option CallId) (accepted : Bool)
    (before after : Daemon) : Prop where
  tunnels : ∀ u, (after.tunnel? u).map Tunnel.state = (before.tunnel? u).map Tunnel.state
  calls : ∀ u d, (u = t → named ≠ some d) →
    (after.call? u d).map Call.marks = (before.call? u d).map Call.marks
  marked : accepted = true → (named.bind (after.call? t)).any Call.closing = true

def Tunnel.cdnPasses (tunnel : Tunnel) (c : CallId) (call : Call) : Bool :=
  0 ≤ call.qcid && 0 ≤ call.result && (tunnel.cdnTarget c call).any fun p =>
    let tmpcid : Int := if tunnel.swapsIds then p.ourcid.toNat else p.cid
    !(call.qcid ≠ tmpcid && 0 < tmpcid)

theorem state_setCall (u : TunnelRef) (change : Call → Call) :
    ((state.setCall t c change).tunnel? u).map Tunnel.state = (state.tunnel? u).map Tunnel.state := by
  unfold Daemon.setCall Daemon.setTunnel Daemon.tunnel?
  rw [Keyed.find_update fun tunnel => Tunnel.setCall_ref tunnel c change]
  split
  · cases Keyed.find Tunnel.ref u state.tunnels with
    | none => rfl
    | some found => cases c <;> rfl
  · rfl

theorem finishCdn_passes (found : state.tunnel? t = some tunnel)
    (foundCall : tunnel.call? c = some call) (passes : tunnel.cdnPasses c call = true) :
    finishCdn t c state = .ok true ((state.setCall t c fun call =>
      { call with qcid := -1 }).setCall t c Call.release) := by
  unfold Tunnel.cdnPasses at passes
  simp only [Bool.and_eq_true, decide_eq_true_eq] at passes
  obtain ⟨⟨named, coded⟩, matched⟩ := passes
  obtain ⟨p, target, fits⟩ := (Option.any_eq_true _ _).mp matched
  have foundBoth := some_call found foundCall
  have foundAgain : (state.setCall t c fun call => { call with qcid := -1 }).call? t c =
      some { call with qcid := -1 } := by
    rw [call_setCall (by intro _; rfl), if_pos ⟨rfl, rfl⟩, foundBoth]
    rfl
  unfold finishCdn
  rw [bind_run (readTunnel_run found), bind_run (readCall_run foundBoth),
    if_neg (Int.not_lt.mpr named), target]
  simp only [Bool.not_eq_true', Bool.and_eq_false_iff, decide_eq_false_iff_not] at fits
  have agrees : ¬ (call.qcid ≠ (if tunnel.swapsIds = true then (p.ourcid.toNat : Int) else p.cid) ∧
      0 < if tunnel.swapsIds = true then (p.ourcid.toNat : Int) else p.cid) := by
    rintro ⟨apart, positive⟩
    rcases fits with same | low
    · exact same apart
    · exact low positive
  simp only
  rw [if_neg agrees, bind_run (writeCall_run foundBoth), if_neg (Int.not_lt.mpr coded),
    bind_run (writeCall_run foundAgain)]
  rfl

theorem finishCdn_refused (found : state.tunnel? t = some tunnel)
    (foundCall : tunnel.call? c = some call) (refused : tunnel.cdnPasses c call = false) :
    finishCdn t c state = .ok false state ∨
      finishCdn t c state = .ok false (state.setCall t c fun call => { call with qcid := -1 }) := by
  have foundBoth := some_call found foundCall
  unfold finishCdn
  rw [bind_run (readTunnel_run found), bind_run (readCall_run foundBoth)]
  by_cases unnamed : call.qcid < 0
  · left
    rw [if_pos unnamed]
    rfl
  rw [if_neg unnamed]
  cases target : tunnel.cdnTarget c call with
  | none => exact .inl rfl
  | some p =>
    simp only
    by_cases differs : call.qcid ≠ (if tunnel.swapsIds = true then (p.ourcid.toNat : Int)
        else p.cid) ∧ 0 < if tunnel.swapsIds = true then (p.ourcid.toNat : Int) else p.cid
    · rw [if_pos differs]
      exact .inl rfl
    · right
      rw [if_neg differs, bind_run (writeCall_run foundBoth)]
      have uncoded : call.result < 0 := by
        by_contra coded
        have passes : tunnel.cdnPasses c call = true := by
          unfold Tunnel.cdnPasses
          simp only [target, Option.any_some, Bool.and_eq_true, decide_eq_true_eq,
            Bool.not_eq_true', Bool.and_eq_false_iff, decide_eq_false_iff_not]
          refine ⟨⟨Int.not_lt.mp unnamed, Int.not_lt.mp coded⟩, ?_⟩
          by_cases apart : call.qcid ≠ if tunnel.swapsIds = true then (p.ourcid.toNat : Int)
              else p.cid
          · exact .inr fun positive => differs ⟨apart, positive⟩
          · exact .inl apart
        rw [passes] at refused
        cases refused
      rw [if_pos uncoded]
      rfl

theorem marks_release (state : Daemon) (t u : TunnelRef) (c d : CallId) :
    (((state.setCall t c fun call => { call with qcid := -1 }).setCall t c
      Call.release).call? u d).map Call.marks =
      if u = t ∧ d = c then (state.call? u d).map fun call => (false, true, call.state)
      else (state.call? u d).map Call.marks := by
  rw [call_setCall (by intro _; rfl), call_setCall (by intro _; rfl)]
  split
  · cases state.call? u d <;> rfl
  · rfl

theorem Tunnel.cdnNames_self (tunnel : Tunnel) (call : Call) :
    tunnel.cdnNames .self call ≠ some .self := by
  unfold Tunnel.cdnNames
  cases tunnel.cdnTarget .self call <;> simp

/-- Whatever a call of the tunnel is, a CDN that ends the tunnel leaves it as it is. -/
theorem named_release (found : state.tunnel? t = some tunnel) :
    ((tunnel.cdnNames .self call).bind (((state.setCall t .self fun call =>
      { call with qcid := -1 }).setCall t .self Call.release).call? t)).any Call.closing =
      ((tunnel.cdnNames .self call).bind tunnel.call?).any Call.closing := by
  cases named : tunnel.cdnNames .self call with
  | none => rfl
  | some d =>
    have other : d ≠ .self := fun same => tunnel.cdnNames_self call (same ▸ named)
    rw [Option.bind_some, Option.bind_some, call_setCall (by intro _; rfl),
      if_neg fun both => other both.2, call_setCall (by intro _; rfl),
      if_neg fun both => other both.2, Daemon.call?, found]
    rfl

/-- A CDN ends the call it names and nothing else, unless it is addressed to the tunnel, passes all
checks, and the tunnel or the named call is still to be marked. -/
theorem cdn_ends_only_iff {success : Bool} {after : Daemon}
    (found : state.tunnel? t = some tunnel) (foundCall : tunnel.call? c = some call)
    (typed : call.msgtype = some .CDN) (ran : controlFinish env t c state = .ok success after) :
    EndsOnly t (tunnel.cdnNames c call) success state after ↔
      (c = .self → tunnel.cdnPasses c call = true →
        call.needclose = false ∧ call.closing = true ∧
          ((tunnel.cdnNames c call).bind tunnel.call?).any Call.closing = true) := by
  have entered : finishCdn t c (state.emit (.finish t c .CDN)) = .ok success after := by
    unfold controlFinish at ran
    rw [bind_run (readCall_run (some_call found foundCall)), typed] at ran
    exact ran
  have noted : (state.emit (.finish t c .CDN)).tunnel? t = some tunnel := found
  have foundBoth := some_call found foundCall
  cases passes : tunnel.cdnPasses c call with
  | false =>
    simp only [Bool.false_eq_true, false_implies, implies_true, iff_true]
    rcases finishCdn_refused noted foundCall passes with skipped | stored
    · rw [skipped] at entered
      cases entered
      exact ⟨fun _ => rfl, fun _ _ _ => rfl, fun accepted => by cases accepted⟩
    · rw [stored] at entered
      cases entered
      refine ⟨fun u => ?_, fun u d _ => ?_, fun accepted => by cases accepted⟩
      · rw [state_setCall]
        rfl
      · rw [trait_setCall (by intro _; rfl) (by intro _; rfl)]
        rfl
  | true =>
    rw [finishCdn_passes noted foundCall passes] at entered
    cases entered
    have marks := fun u d => marks_release (state.emit (.finish t c .CDN)) t u c d
    constructor
    · rintro ends rfl -
      have kept := ends.calls t .self fun _ => tunnel.cdnNames_self call
      rw [marks, if_pos ⟨rfl, rfl⟩, show (state.emit (.finish t .self .CDN)).call? t .self =
        some call from foundBoth, foundBoth] at kept
      have pair : (false, true, call.state) = call.marks := Option.some.inj kept
      unfold Call.marks at pair
      injection pair with needclose rest
      injection rest with closing _
      refine ⟨needclose.symm, closing.symm, ?_⟩
      rw [← named_release noted]
      exact ends.marked rfl
    · intro released
      refine ⟨fun u => ?_, fun u d other => ?_, fun _ => ?_⟩
      · rw [state_setCall, state_setCall]
        rfl
      · rw [marks]
        split
        · rename_i here
          obtain ⟨rfl, rfl⟩ := here
          cases d with
          | call ref => exact absurd rfl (other rfl)
          | self =>
            obtain ⟨needclose, closing, _⟩ := released rfl rfl
            rw [show (state.emit (.finish u .self .CDN)).call? u .self = some call from
              foundBoth, foundBoth]
            unfold Call.marks
            rw [Option.map_some, Option.map_some, needclose, closing]
        · rfl
      · cases c with
        | self =>
          rw [named_release noted]
          exact (released rfl rfl).2.2
        | call ref =>
          rw [Tunnel.cdnNames, Option.bind_some, call_setCall (by intro _; rfl),
            if_pos ⟨rfl, rfl⟩, call_setCall (by intro _; rfl), if_pos ⟨rfl, rfl⟩,
            show (state.emit _).call? t (.call ref) = some call from foundBoth]
          rfl

def sampleCdn (cid : UInt16) : Datagram :=
  sampleDatagram 513 cid 3 2 (addMessageTypeAvp .CDN ++ addResultCodeAvp 1 0 [] ++ addCallidAvp 9)

def cdnTest (env : Env) (datagram : Datagram) (test : Entered → Call → Daemon → Bool)
    (state : Daemon) : Bool :=
  (entering env datagram state).any fun entered =>
    (entered.state.tunnel? entered.tunnel).any fun tunnel =>
      (tunnel.call? entered.call).any fun call =>
        match controlFinish env entered.tunnel entered.call entered.state with
        | .ok accepted after => call.msgtype = some .CDN && accepted && test entered call after
        | .error _ _ => false

/-- A run in which a CDN marks what it is addressed to: the tunnel, or a call. -/
theorem cdn_closes {cid : UInt16} {own : Bool}
    (dialed : init env (sampleServer sampleLns) = .ok () (sampleServer sampleLns))
    (tested : (execAll env (fun _ _ => true) callInputs (sampleServer sampleLns)).any
      (cdnTest env (sampleCdn cid) fun entered call after =>
        decide (entered.call = .self) == own && !call.closing &&
          (after.call? entered.tunnel entered.call).any Call.closing) = true) :
    ∃ state entered tunnel call after, Reachable env state ∧
      entering env (sampleCdn cid) state = some entered ∧
      entered.state.tunnel? entered.tunnel = some tunnel ∧
      tunnel.call? entered.call = some call ∧ call.msgtype = some .CDN ∧
      controlFinish env entered.tunnel entered.call entered.state = .ok true after ∧
      decide (entered.call = .self) = own ∧ call.closing = false ∧
      (after.call? entered.tunnel entered.call).any Call.closing = true := by
  obtain ⟨state, reached, tested⟩ :=
    reachable_any _ (sampleServer_booted sampleLns rfl) dialed tested
  obtain ⟨entered, enters, rest⟩ := (Option.any_eq_true _ _).mp tested
  obtain ⟨tunnel, found, rest⟩ := (Option.any_eq_true _ _).mp rest
  obtain ⟨call, foundCall, rest⟩ := (Option.any_eq_true _ _).mp rest
  split at rest
  · rename_i accepted after ran
    simp only [Bool.and_eq_true, decide_eq_true_eq, beq_iff_eq, Bool.not_eq_true'] at rest
    obtain ⟨⟨typed, rfl⟩, ⟨addressed, unmarked⟩, closes⟩ := rest
    exact ⟨state, entered, tunnel, call, after, reached, enters, found, foundCall, typed, ran,
      addressed, unmarked, closes⟩
  · cases rest

theorem addressed_cdn_ends_call : ∃ (env : Env) (state after : Daemon) (entered : Entered)
    (tunnel : Tunnel) (call : Call), Reachable env state ∧
      entering env (sampleCdn 1027) state = some entered ∧ call.closing = false ∧
      (after.call? entered.tunnel entered.call).any Call.closing = true ∧
      EndsOnly entered.tunnel (tunnel.cdnNames entered.call call) true entered.state after := by
  let env := sampleEnv (fun _ _ => none) 5
  obtain ⟨state, entered, tunnel, call, after, reached, enters, found, foundCall, typed, ran, other,
    unmarked, closes⟩ := @cdn_closes env 1027 false rfl (by decide +kernel)
  exact ⟨env, state, after, entered, tunnel, call, reached, enters, unmarked, closes,
    (cdn_ends_only_iff found foundCall typed ran).mpr fun same => absurd same (of_decide_eq_false other)⟩

theorem tunnel_cdn_ends_tunnel : ∃ (env : Env) (state after : Daemon) (entered : Entered)
    (tunnel : Tunnel) (call : Call), Reachable env state ∧
      entering env (sampleCdn 0) state = some entered ∧
      entered.state.tunnel? entered.tunnel = some tunnel ∧
      tunnel.call? entered.call = some call ∧ call.msgtype = some .CDN ∧
      controlFinish env entered.tunnel entered.call entered.state = .ok true after ∧
      ¬ EndsOnly entered.tunnel (tunnel.cdnNames entered.call call) true entered.state after := by
  let env := sampleEnv (fun _ _ => none) 5
  obtain ⟨state, entered, tunnel, call, after, reached, enters, found, foundCall, typed, ran,
    onTunnel, unmarked, closes⟩ := @cdn_closes env 0 true rfl (by decide +kernel)
  refine ⟨env, state, after, entered, tunnel, call, reached, enters, found, foundCall, typed, ran,
    fun ends => ?_⟩
  rw [of_decide_eq_true onTunnel] at ends foundCall closes
  have kept := ends.calls entered.tunnel .self fun _ => tunnel.cdnNames_self call
  rw [some_call found foundCall] at kept
  obtain ⟨later, foundLater, marked⟩ := (Option.any_eq_true _ _).mp closes
  rw [foundLater] at kept
  have same : later.marks = call.marks := Option.some.inj kept
  have closing : later.closing = call.closing := congrArg (fun marks => marks.2.1) same
  rw [marked, unmarked] at closing
  cases closing

end Xl2tpd
