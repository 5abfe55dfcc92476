import Xl2tpd.Actions

/-!
# Simulation by the abstract daemon

The view of a state after the elementary reads and writes, and the rules by which a
program is shown to be a sequence of actions.
-/

namespace Xl2tpd

set_option autoImplicit false

open Program

variable {tunnel : Tunnel} {after last : Daemon} {call : Call} {t : TunnelRef}
  {change : Tunnel → Tunnel} {c : CallId} {state : Daemon} {effect : TunnelCore → TunnelCore}
  {lns : LnsRef} {lac : LacRef}

/-! ## The view of elementary changes -/

theorem view_tunnel (state : Daemon) (t : TunnelRef) :
    state.view.tunnel? t = (state.tunnel? t).map Tunnel.core :=
  Keyed.find_map fun _ => rfl

theorem view_tunnel_some (found : state.tunnel? t = some tunnel) :
    state.view.tunnel? t = some tunnel.core := by
  rw [view_tunnel, found]
  rfl

theorem view_tunnel_none (missing : state.tunnel? t = none) :
    state.view.tunnel? t = none := by
  rw [view_tunnel, missing]
  rfl

theorem core_call (tunnel : Tunnel) (c : CallId) :
    tunnel.core.call? c = (tunnel.call? c).map Call.core := by
  cases c with
  | self => rfl
  | call ref => exact Keyed.find_map fun _ => rfl

theorem core_setCall_at {change : Call → Call} {effect : CallCore → CallCore}
    (shows : ∀ call, tunnel.call? c = some call → (change call).core = effect call.core) :
    (tunnel.setCall c change).core = tunnel.core.setCall c effect := by
  cases c with
  | self =>
    simp only [Tunnel.core, Tunnel.setCall, TunnelCore.setCall]
    rw [shows tunnel.self rfl]
  | call ref =>
    have image : (Keyed.update Call.ref ref change tunnel.calls).map Call.core =
        Keyed.update CallCore.ref ref effect (tunnel.calls.map Call.core) :=
      Keyed.map_update (fun _ => rfl) shows
    simp only [Tunnel.core, Tunnel.setCall, TunnelCore.setCall]
    rw [image]

theorem core_setCall {change : Call → Call} {effect : CallCore → CallCore}
    (shows : ∀ call, (change call).core = effect call.core) :
    (tunnel.setCall c change).core = tunnel.core.setCall c effect :=
  core_setCall_at fun call _ => shows call

theorem core_setCall_same {change : Call → Call} (keeps : ∀ call, (change call).core = call.core) :
    (tunnel.setCall c change).core = tunnel.core := by
  have shown : (tunnel.setCall c change).core = tunnel.core.setCall c id := core_setCall keeps
  rw [shown]
  cases c with
  | self => rfl
  | call ref =>
    simp only [TunnelCore.setCall]
    rw [Keyed.update_id]

theorem view_setTunnel_at (shows : ∀ tunnel, state.tunnel? t = some tunnel →
      (change tunnel).core = effect tunnel.core) :
    (state.setTunnel t change).view = state.view.setTunnel t effect := by
  have image : (Keyed.update Tunnel.ref t change state.tunnels).map Tunnel.core =
      Keyed.update TunnelCore.ref t effect (state.tunnels.map Tunnel.core) :=
    Keyed.map_update (fun _ => rfl) shows
  simp only [Daemon.view, Daemon.setTunnel, View.setTunnel]
  rw [image]
  rfl

theorem view_setTunnel (shows : ∀ tunnel, (change tunnel).core = effect tunnel.core) :
    (state.setTunnel t change).view = state.view.setTunnel t effect :=
  view_setTunnel_at fun tunnel _ => shows tunnel

theorem view_setTunnel_same (keeps : ∀ tunnel, (change tunnel).core = tunnel.core) :
    (state.setTunnel t change).view = state.view := by
  have shown : (state.setTunnel t change).view = state.view.setTunnel t id := view_setTunnel keeps
  rw [shown]
  simp only [View.setTunnel]
  rw [Keyed.update_id]

theorem view_setCall {change : Call → Call} (move : CallMove)
    (shows : ∀ call, (change call).core = move.apply call.core) :
    (state.setCall t c change).view = (Action.move t (.call c move)).apply state.view :=
  view_setTunnel fun _ => core_setCall shows

theorem view_emit (state : Daemon) (observed : Obs) :
    (state.emit observed).view = state.view.log [observed] := rfl

theorem lns_setLns {lns other : LnsRef} {change : Lns → Lns}
    (keeps : ∀ entry, (change entry).ref = entry.ref) :
    (state.setLns lns change).lns? other =
      if other = lns then (state.lns? other).map change else state.lns? other := by
  have listed : Keyed.find Lns.ref other (state.setLns lns change).lnslist =
      if other = lns then (Keyed.find Lns.ref other state.lnslist).map change
      else Keyed.find Lns.ref other state.lnslist := Keyed.find_update keeps
  unfold Daemon.lns? Keyed.find at *
  rw [List.find?_append, List.find?_append, listed]
  cases state.lnslist.find? fun item => item.ref = other with
  | some entry => split <;> rfl
  | none =>
    cases hasDefault : state.deflns with
    | none => simp [Daemon.setLns, hasDefault]
    | some entry =>
      have kept : (if entry.ref = lns then change entry else entry).ref = entry.ref := by
        split
        · exact keeps entry
        · rfl
      by_cases named : entry.ref = other
      · subst named
        by_cases same : entry.ref = lns <;> simp_all [Daemon.setLns]
      · have away : ¬ (if entry.ref = lns then change entry else entry).ref = other :=
          fun here => named (kept.symm.trans here)
        simp [Daemon.setLns, hasDefault, named, away]

theorem mem_setLns {lns : LnsRef} {change : Lns → Lns} {entry : Lns}
    (member : entry ∈ (state.setLns lns change).lnslist ++
      (state.setLns lns change).deflns.toList) :
    ∃ old ∈ state.lnslist ++ state.deflns.toList, entry = old ∨ entry = change old := by
  rcases List.mem_append.mp member with listed | default
  · rcases Keyed.mem_update listed with kept | ⟨old, found, changed⟩
    · exact ⟨entry, List.mem_append_left _ kept, .inl rfl⟩
    · exact ⟨old, List.mem_append_left _ (Keyed.find_mem found), .inr changed⟩
  · obtain ⟨old, isDefault, changed⟩ :=
      Option.map_eq_some_iff.mp (Option.mem_toList.mp default)
    refine ⟨old, List.mem_append_right _ (Option.mem_toList.mpr isDefault), ?_⟩
    split at changed
    · exact .inr changed.symm
    · exact .inl changed.symm

theorem map_changed {Item Kept : Type} {change : Item → Item} {kept : Item → Kept}
    {found : Option Item} {here : Prop} [Decidable here]
    (keeps : ∀ item, kept (change item) = kept item) :
    (if here then found.map change else found).map kept = found.map kept := by
  split
  · rw [Option.map_map]
    exact Option.map_congr fun item _ => keeps item
  · rfl

theorem view_setLns_same {change : Lns → Lns} (named : ∀ entry, (change entry).ref = entry.ref)
    (keeps : ∀ entry, (change entry).terms = entry.terms) :
    (state.setLns lns change).view = state.view := by
  have same : (fun ref => ((state.setLns lns change).lns? ref).map Lns.terms) =
      fun ref => (state.lns? ref).map Lns.terms := by
    funext ref
    rw [lns_setLns named, map_changed keeps]
  simp only [Daemon.view]
  rw [same]
  rfl

theorem view_setLac_same {change : Lac → Lac} (named : ∀ entry, (change entry).ref = entry.ref)
    (keeps : ∀ entry, (change entry).terms = entry.terms) :
    (state.setLac lac change).view = state.view := by
  have same : (fun ref => ((state.setLac lac change).lac? ref).map Lac.terms) =
      fun ref => (state.lac? ref).map Lac.terms := by
    funext ref
    exact (congrArg _ (Keyed.find_update named)).trans (map_changed keeps)
  simp only [Daemon.view]
  rw [same]
  rfl

/-! ## Rules -/

/-- The program's run from `state` is a sequence of allowed actions. -/
abbrev Sim (assume : Assume) (env : Env) (allowed : Action → Prop) {Value : Type}
    (program : Prog Value) (state : Daemon) : Prop :=
  Leads Daemon.view (Acts assume env allowed) program state

section Rules

variable {assume : Assume} {env : Env} {allowed : Action → Prop} {Value Other : Type}
  {state : Daemon} {fault : Fault} {next : Value → Prog Other} {pointer : Daemon → Option Value}
  {program : Prog Value} {other : Other} {site : NullSite} {value : Value}

theorem sim_quiet (quiet : Quiet state.view (final (program state)).view) :
    Sim assume env allowed program state :=
  Relation.ReflTransGen.single (.quiet quiet)

theorem sim_once (acts : ∀ value after, program state = .ok value after →
      Acts assume env allowed state.view after.view)
    (stops : ∀ fault after, program state = .error fault after → after.view = state.view) :
    Sim assume env allowed program state := by
  cases ran : program state with
  | ok value after =>
    unfold Sim Leads
    rw [ran]
    exact Relation.ReflTransGen.single (acts value after ran)
  | error fault after =>
    apply leads_of_view_eq
    rw [ran]
    exact stops fault after ran

theorem bind_get (next : Daemon → Prog Other) : (get >>= next) state = next state state := rfl

theorem deref_ok :
    deref pointer state = .ok value after ↔ pointer state = some value ∧ after = state := by
  unfold deref
  cases found : pointer state with
  | some stored =>
    constructor
    · intro returned
      cases returned
      exact ⟨rfl, rfl⟩
    · rintro ⟨same, rfl⟩
      cases same
      rfl
  | none => simp

theorem deref_stuck (missing : pointer state = none) :
    deref pointer state = .error .freed state := by
  unfold deref
  rw [missing]

theorem readTunnel_run (found : state.tunnel? t = some tunnel) :
    readTunnel t state = .ok tunnel state := deref_ok.mpr ⟨found, rfl⟩

theorem readCall_run (found : state.call? t c = some call) :
    readCall t c state = .ok call state :=
  deref_ok.mpr ⟨found, rfl⟩

theorem writeTunnel_run (found : state.tunnel? t = some tunnel) :
    writeTunnel t change state = .ok () (state.setTunnel t change) :=
  bind_run (readTunnel_run found)

theorem writeCall_run {change : Call → Call} (found : state.call? t c = some call) :
    writeCall t c change state = .ok () (state.setCall t c change) :=
  bind_run (readCall_run found)

theorem tunnel_setTunnel {t : TunnelRef} {change : Tunnel → Tunnel}
    (keeps : ∀ tunnel, (change tunnel).ref = tunnel.ref) :
    (state.setTunnel t change).tunnel? t = (state.tunnel? t).map change :=
  Keyed.find_update_same keeps

theorem call_some (found : state.call? t c = some call) :
    ∃ tunnel, state.tunnel? t = some tunnel ∧ tunnel.call? c = some call :=
  Option.bind_eq_some_iff.mp found

theorem some_call (found : state.tunnel? t = some tunnel) (foundCall : tunnel.call? c = some call) :
    state.call? t c = some call := Option.bind_eq_some_iff.mpr ⟨tunnel, found, foundCall⟩

theorem writeTunnel_ok {value : Unit} (ran : writeTunnel t change state = .ok value after) :
    ∃ tunnel, state.tunnel? t = some tunnel ∧ after = state.setTunnel t change := by
  obtain ⟨tunnel, _, read, wrote⟩ := bind_ok.mp ran
  obtain ⟨found, rfl⟩ := deref_ok.mp read
  cases wrote
  exact ⟨tunnel, found, rfl⟩

theorem writeCall_ok {change : Call → Call} {value : Unit}
    (ran : writeCall t c change state = .ok value after) :
    ∃ tunnel call, state.tunnel? t = some tunnel ∧ tunnel.call? c = some call ∧
      after = state.setCall t c change := by
  obtain ⟨call, _, read, wrote⟩ := bind_ok.mp ran
  obtain ⟨found, rfl⟩ := deref_ok.mp read
  obtain ⟨tunnel, foundTunnel, foundCall⟩ := call_some found
  cases wrote
  exact ⟨tunnel, call, foundTunnel, foundCall, rfl⟩

theorem deref_error (stopped : deref pointer state = .error fault after) : after = state := by
  unfold deref at stopped
  cases found : pointer state with
  | some value => simp [found] at stopped
  | none =>
    simp only [found] at stopped
    cases stopped
    rfl

theorem writeTunnel_error (stopped : writeTunnel t change state = .error fault after) :
    after = state := by
  rcases bind_error.mp stopped with missing | ⟨_, _, _, wrote⟩
  · exact deref_error missing
  · cases wrote

theorem writeCall_error {change : Call → Call}
    (stopped : writeCall t c change state = .error fault after) :
    after = state := by
  rcases bind_error.mp stopped with missing | ⟨_, _, _, wrote⟩
  · exact deref_error missing
  · cases wrote

theorem Tunnel.setCall_ref (tunnel : Tunnel) (c : CallId) (change : Call → Call) :
    (tunnel.setCall c change).ref = tunnel.ref := by
  cases c <;> rfl

theorem Tunnel.setChal_ref (tunnel : Tunnel) (side : ChalSide) (change : Challenge → Challenge) :
    (tunnel.setChal side change).ref = tunnel.ref := by
  cases side <;> rfl

theorem Tunnel.call_setCall {change : Call → Call} (keeps : ∀ call, (change call).ref = call.ref) :
    (tunnel.setCall c change).call? c = (tunnel.call? c).map change := by
  cases c with
  | self => rfl
  | call ref => exact Keyed.find_update_same keeps

theorem tunnel_setCall {t : TunnelRef} {c : CallId} {change : Call → Call}
    (found : state.tunnel? t = some tunnel) :
    (state.setCall t c change).tunnel? t = some (tunnel.setCall c change) := by
  unfold Daemon.setCall
  rw [tunnel_setTunnel fun tunnel => tunnel.setCall_ref c change, found]
  rfl

theorem call_setCall {t u : TunnelRef} {c d : CallId} {change : Call → Call}
    (keeps : ∀ call, (change call).ref = call.ref) :
    (state.setCall t c change).call? u d =
      if u = t ∧ d = c then (state.call? u d).map change else state.call? u d := by
  unfold Daemon.call? Daemon.setCall Daemon.setTunnel Daemon.tunnel?
  rw [Keyed.find_update fun tunnel => Tunnel.setCall_ref tunnel c change]
  by_cases here : u = t
  · rw [if_pos here]
    cases Keyed.find Tunnel.ref u state.tunnels with
    | none => simp
    | some found =>
      simp only [Option.map_some, Option.bind_some, here, true_and]
      cases c with
      | self => cases d <;> simp [Tunnel.call?, Tunnel.setCall]
      | call ref =>
        cases d with
        | self => simp [Tunnel.call?, Tunnel.setCall]
        | call other =>
          simp only [Tunnel.call?, Tunnel.setCall, CallId.call.injEq]
          exact Keyed.find_update keeps
  · rw [if_neg here, if_neg fun both => here both.1]

theorem trait_setCall {Trait : Type} {trait : Call → Trait} {t u : TunnelRef} {c d : CallId}
    {change : Call → Call} (keeps : ∀ call, (change call).ref = call.ref)
    (same : ∀ call, trait (change call) = trait call) :
    ((state.setCall t c change).call? u d).map trait = (state.call? u d).map trait := by
  rw [call_setCall keeps]
  split
  · cases state.call? u d with
    | none => rfl
    | some found => exact congrArg some (same found)
  · rfl

/-! ### What a returning run went through -/

theorem ok_deref (ran : (deref pointer >>= next) state = .ok other last) :
    ∃ value, pointer state = some value ∧ next value state = .ok other last := by
  obtain ⟨value, _, read, rest⟩ := bind_ok.mp ran
  obtain ⟨found, same⟩ := deref_ok.mp read
  rw [same] at rest
  exact ⟨value, found, rest⟩

theorem ok_nonNull {pointer : Option Value}
    (ran : (nonNull site pointer >>= next) state = .ok other last) :
    ∃ value, pointer = some value ∧ next value state = .ok other last := by
  cases pointer with
  | none => cases ran
  | some value => exact ⟨value, rfl, ran⟩

theorem ok_readTunnel {next : Tunnel → Prog Other}
    (ran : (readTunnel t >>= next) state = .ok other last) :
    ∃ tunnel, state.tunnel? t = some tunnel ∧ next tunnel state = .ok other last := ok_deref ran

theorem ok_readTunnel_at {next : Tunnel → Prog Other} (found : state.tunnel? t = some tunnel)
    (ran : (readTunnel t >>= next) state = .ok other last) : next tunnel state = .ok other last :=
  (bind_run (readTunnel_run found)).symm.trans ran

theorem ok_readCall {next : Call → Prog Other}
    (ran : (readCall t c >>= next) state = .ok other last) :
    ∃ tunnel call, state.tunnel? t = some tunnel ∧ tunnel.call? c = some call ∧
      next call state = .ok other last := by
  obtain ⟨call, found, rest⟩ := ok_deref ran
  obtain ⟨tunnel, foundTunnel, foundCall⟩ := call_some found
  exact ⟨tunnel, call, foundTunnel, foundCall, rest⟩

theorem ok_writeTunnel {next : Unit → Prog Other}
    (ran : (writeTunnel t change >>= next) state = .ok other last) :
    ∃ tunnel, state.tunnel? t = some tunnel ∧
      next () (state.setTunnel t change) = .ok other last := by
  obtain ⟨_, _, wrote, rest⟩ := bind_ok.mp ran
  obtain ⟨tunnel, found, same⟩ := writeTunnel_ok wrote
  rw [same] at rest
  exact ⟨tunnel, found, rest⟩

theorem ok_writeCall {change : Call → Call} {next : Unit → Prog Other}
    (ran : (writeCall t c change >>= next) state = .ok other last) :
    ∃ tunnel call, state.tunnel? t = some tunnel ∧ tunnel.call? c = some call ∧
      next () (state.setCall t c change) = .ok other last := by
  obtain ⟨_, _, wrote, rest⟩ := bind_ok.mp ran
  obtain ⟨tunnel, call, found, foundCall, same⟩ := writeCall_ok wrote
  rw [same] at rest
  exact ⟨tunnel, call, found, foundCall, rest⟩

theorem deref_final (pointer : Daemon → Option Value) : final (deref pointer state) = state := by
  unfold deref
  cases pointer state <;> rfl

theorem sim_deref
    (rest : ∀ value, pointer state = some value → Sim assume env allowed (next value) state) :
    Sim assume env allowed (deref pointer >>= next) state :=
  leads_read (deref_final pointer) fun value ran => rest value (deref_ok.mp ran).1

theorem sim_readTunnel {next : Tunnel → Prog Other}
    (rest : ∀ tunnel, state.tunnel? t = some tunnel → Sim assume env allowed (next tunnel) state) :
    Sim assume env allowed (readTunnel t >>= next) state := sim_deref rest

theorem sim_readCall {next : Call → Prog Other}
    (rest : ∀ call, state.call? t c = some call → Sim assume env allowed (next call) state) :
    Sim assume env allowed (readCall t c >>= next) state := sim_deref rest

theorem sim_readLns {next : Lns → Prog Other}
    (rest : ∀ entry, state.lns? lns = some entry → Sim assume env allowed (next entry) state) :
    Sim assume env allowed (readLns lns >>= next) state := sim_deref rest

theorem sim_readLac {next : Lac → Prog Other}
    (rest : ∀ entry, state.lac? lac = some entry → Sim assume env allowed (next entry) state) :
    Sim assume env allowed (readLac lac >>= next) state := sim_deref rest

theorem sim_get {next : Daemon → Prog Other} (rest : Sim assume env allowed (next state) state) :
    Sim assume env allowed (get >>= next) state := rest

theorem sim_nonNull {pointer : Option Value}
    (rest : ∀ value, pointer = some value → Sim assume env allowed (next value) state) :
    Sim assume env allowed (nonNull site pointer >>= next) state := by
  cases pointer with
  | none => exact Relation.ReflTransGen.refl
  | some value => exact rest value rfl

theorem sim_ite {condition : Prop} [Decidable condition] {first second : Prog Value}
    (holds : condition → Sim assume env allowed first state)
    (fails : ¬ condition → Sim assume env allowed second state) :
    Sim assume env allowed (if condition then first else second) state := by
  split
  · exact holds ‹_›
  · exact fails ‹_›

theorem sim_whenever {condition : Bool} {action : Prog Unit}
    (acts : condition = true → Sim assume env allowed action state) :
    Sim assume env allowed (whenever condition action) state := by
  cases condition with
  | true => exact acts rfl
  | false => exact leads_pure ()

/-! ### Programs that only read -/

def Reads (program : Prog Value) : Prop := ∀ state, final (program state) = state

theorem reads_pure (value : Value) : Reads (pure value) := fun _ => rfl

theorem reads_deref (pointer : Daemon → Option Value) : Reads (deref pointer) :=
  fun _ => deref_final pointer

theorem reads_bind (first : Reads program) (rest : ∀ value, Reads (next value)) :
    Reads (program >>= next) := by
  intro state
  have still := first state
  cases ran : program state with
  | ok value after =>
    rw [ran] at still
    rw [bind_run ran]
    exact (rest value after).trans still
  | error fault after =>
    rw [ran] at still
    rw [bind_stuck ran]
    exact still

theorem reads_ok (reads : Reads program) (ran : program state = .ok value after) :
    after = state := by
  have still := reads state
  rw [ran] at still
  exact still

theorem ok_reads (reads : Reads program) (ran : (program >>= next) state = .ok other last) :
    ∃ value, program state = .ok value state ∧ next value state = .ok other last := by
  obtain ⟨value, after, read, rest⟩ := bind_ok.mp ran
  have same := reads_ok reads read
  rw [same] at read rest
  exact ⟨value, read, rest⟩

theorem reads_lnsIf (lns : Option LnsRef) : Reads (readLnsIf lns) := by
  cases lns with
  | none => exact reads_pure none
  | some lns => exact reads_bind (reads_deref _) fun _ => reads_pure _

theorem reads_lacIf (lac : Option LacRef) : Reads (readLacIf lac) := by
  cases lac with
  | none => exact reads_pure none
  | some lac => exact reads_bind (reads_deref _) fun _ => reads_pure _

theorem readLnsIf_ok {lns : Option LnsRef} {entry : Option Lns}
    (ran : readLnsIf lns state = .ok entry after) : entry = lns.bind state.lns? := by
  cases lns with
  | none =>
    cases ran
    rfl
  | some lns =>
    obtain ⟨found, _, read, ran⟩ := bind_ok.mp ran
    cases ran
    exact (deref_ok.mp read).1.symm

theorem readLacIf_ok {lac : Option LacRef} {entry : Option Lac}
    (ran : readLacIf lac state = .ok entry after) : entry = lac.bind state.lac? := by
  cases lac with
  | none =>
    cases ran
    rfl
  | some lac =>
    obtain ⟨found, _, read, ran⟩ := bind_ok.mp ran
    cases ran
    exact (deref_ok.mp read).1.symm

theorem sim_reads (reads : Reads program)
    (rest : ∀ value, program state = .ok value state → Sim assume env allowed (next value) state) :
    Sim assume env allowed (program >>= next) state :=
  leads_read (reads state) rest

/-! ### Steps of any kind -/

section Steps

variable {step : Daemon → Daemon → Prop} {t : TunnelRef} {c : CallId}

theorem yields_deref (rest : ∀ value, pointer state = some value → Yields step (next value) state) :
    Yields step (deref pointer >>= next) state :=
  yields_read (deref_final pointer) fun value ran => rest value (deref_ok.mp ran).1

theorem yields_readTunnel {next : Tunnel → Prog Other}
    (rest : ∀ tunnel, state.tunnel? t = some tunnel → Yields step (next tunnel) state) :
    Yields step (readTunnel t >>= next) state := yields_deref rest

theorem yields_readCall {next : Call → Prog Other}
    (rest : ∀ call, state.call? t c = some call → Yields step (next call) state) :
    Yields step (readCall t c >>= next) state := yields_deref rest

theorem yields_readLns {next : Lns → Prog Other}
    (rest : ∀ entry, state.lns? lns = some entry → Yields step (next entry) state) :
    Yields step (readLns lns >>= next) state := yields_deref rest

theorem yields_readLac {next : Lac → Prog Other}
    (rest : ∀ entry, state.lac? lac = some entry → Yields step (next entry) state) :
    Yields step (readLac lac >>= next) state := yields_deref rest

theorem yields_get {next : Daemon → Prog Other} (rest : Yields step (next state) state) :
    Yields step (get >>= next) state := rest

theorem yields_reads (reads : Reads program)
    (rest : ∀ value, program state = .ok value state → Yields step (next value) state) :
    Yields step (program >>= next) state :=
  yields_read (reads state) rest

theorem yields_nonNull {pointer : Option Value}
    (rest : ∀ value, pointer = some value → Yields step (next value) state) :
    Yields step (nonNull site pointer >>= next) state := by
  cases pointer with
  | none =>
    intro _ _ ran
    cases ran
  | some value => exact rest value rfl

theorem yields_whenever {condition : Bool} {action : Prog Unit}
    (acts : condition = true → Yields step action state) :
    Yields step (whenever condition action) state := by
  cases condition with
  | true => exact acts rfl
  | false => exact yields_pure ()

end Steps

/-! ### Changes that the view does not show -/

theorem sim_modify {change : Daemon → Daemon} (quiet : Quiet state.view (change state).view) :
    Sim assume env allowed (modify change) state :=
  sim_quiet quiet

theorem sim_modify_same {change : Daemon → Daemon} (same : (change state).view = state.view) :
    Sim assume env allowed (modify change) state := by
  apply sim_modify
  rw [same]
  exact Quiet.refl _

theorem sim_emit {observed : Obs} (silent : observed.silent = true) :
    Sim assume env allowed (emit observed) state := by
  apply sim_modify
  rw [view_emit]
  exact ⟨rfl, rfl, rfl, rfl, Nat.le_refl _, [observed], rfl, by simpa using silent⟩

theorem sim_note {observed : Obs} (allow : allowed (.note observed))
    (noted : (observed.typing || observed.starting) = true) :
    Sim assume env allowed (emit observed) state :=
  leads_modify _ (.act (.note observed) allow noted)

theorem sim_storeTunnel (keeps : ∀ tunnel, (change tunnel).core = tunnel.core) :
    Sim assume env allowed (writeTunnel t change) state :=
  sim_readTunnel fun _ _ => sim_modify_same (view_setTunnel_same keeps)

theorem sim_storeCall {change : Call → Call} (keeps : ∀ call, (change call).core = call.core) :
    Sim assume env allowed (writeCall t c change) state :=
  sim_readCall fun _ _ => sim_modify_same (view_setTunnel_same fun _ => core_setCall_same keeps)

theorem sim_storeLns {change : Lns → Lns} (named : ∀ entry, (change entry).ref = entry.ref)
    (keeps : ∀ entry, (change entry).terms = entry.terms) :
    Sim assume env allowed (writeLns lns change) state :=
  sim_readLns fun _ _ => sim_modify_same (view_setLns_same named keeps)

theorem sim_storeLac {change : Lac → Lac} (named : ∀ entry, (change entry).ref = entry.ref)
    (keeps : ∀ entry, (change entry).terms = entry.terms) :
    Sim assume env allowed (writeLac lac change) state :=
  sim_readLac fun _ _ => sim_modify_same (view_setLac_same named keeps)

theorem sim_getEntropy {count : Nat} : Sim assume env allowed (getEntropy env count) state :=
  sim_quiet (Quiet.refl _)

theorem quiet_of_sim (sim : Sim .none env (fun _ => False) program state) :
    Quiet state.view (final (program state)).view := by
  refine leads_invariant sim ?_ (Quiet.refl _)
  intro before after acts so_far
  cases acts with
  | quiet same => exact so_far.trans same
  | act _ allow _ => exact allow.elim

theorem quiet_ok (sim : Sim .none env (fun _ => False) program state)
    (ran : program state = .ok value after) :
    Quiet state.view after.view := by
  have quiet := quiet_of_sim sim
  rw [ran] at quiet
  exact quiet

theorem sim_bind_quiet (quiet : Sim .none env (fun _ => False) program state)
    (rest : ∀ value after, program state = .ok value after → Quiet state.view after.view →
      Sim assume env allowed (next value) after) :
    Sim assume env allowed (program >>= next) state := by
  refine leads_bind (sim_quiet (quiet_of_sim quiet)) fun value after ran => ?_
  have same := quiet_of_sim quiet
  rw [ran] at same
  exact rest value after ran same

/-! ### Moves -/

theorem sim_move_at (move : Move) (found : state.tunnel? t = some tunnel)
    (allow : allowed (.move t move)) (shows : (change tunnel).core = move.apply tunnel.core)
    (enabled : move.enabled assume state.view tunnel.core) :
    Sim assume env allowed (writeTunnel t change) state := by
  apply sim_readTunnel
  intro same foundSame
  rw [found] at foundSame
  cases foundSame
  apply leads_modify
  have shown : (state.setTunnel t change).view = state.view.setTunnel t move.apply := by
    apply view_setTunnel_at
    intro same foundSame
    rw [found] at foundSame
    cases foundSame
    exact shows
  rw [shown]
  exact .act (.move t move) allow ⟨tunnel.core, view_tunnel_some found, enabled⟩

theorem sim_move (move : Move) (allow : allowed (.move t move))
    (shows : ∀ tunnel, (change tunnel).core = move.apply tunnel.core)
    (enabled : ∀ tunnel, state.tunnel? t = some tunnel →
      move.enabled assume state.view tunnel.core) :
    Sim assume env allowed (writeTunnel t change) state := by
  cases found : state.tunnel? t with
  | none =>
    apply leads_of_view_eq
    have stuck : writeTunnel t change state = .error .freed state :=
      bind_stuck (deref_stuck found)
    rw [stuck]
    rfl
  | some tunnel => exact sim_move_at move found allow (shows tunnel) (enabled tunnel found)

theorem sim_moveCall {change : Call → Call} (move : CallMove)
    (allow : allowed (.move t (.call c move)))
    (shows : ∀ call, (change call).core = move.apply call.core)
    (enabled : ∀ tunnel call, state.tunnel? t = some tunnel → tunnel.call? c = some call →
      move.enabled assume tunnel.core c) :
    Sim assume env allowed (writeCall t c change) state := by
  apply sim_readCall
  intro call found
  obtain ⟨tunnel, foundTunnel, foundCall⟩ := call_some found
  apply leads_modify
  rw [show (state.setCall t c change).view = _ from view_setCall move shows]
  exact .act (.move t (.call c move)) allow
    ⟨tunnel.core, view_tunnel_some foundTunnel, enabled tunnel call foundTunnel foundCall⟩

theorem sim_mark {change : Call → Call} (allow : allowed (.move t (.call c .mark)))
    (shows : ∀ call, (change call).core = { call.core with needclose := true }) :
    Sim assume env allowed (writeCall t c change) state :=
  sim_moveCall .mark allow shows fun _ _ _ _ => trivial

theorem sim_release (allow : allowed (.move t (.call c .release))) :
    Sim assume env allowed (writeCall t c Call.release) state :=
  sim_moveCall .release allow (fun _ => rfl) fun _ _ _ _ => trivial

end Rules

end Xl2tpd
