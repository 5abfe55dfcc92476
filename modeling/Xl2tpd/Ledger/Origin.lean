import Xl2tpd.Ledger.Daemon

/-!
# Where the tunnels of a state come from

Every tunnel after an entry of the ledger was there before with other owners or calls, or is new.
The invariants over tunnels and calls follow from this alone.
-/

namespace Xl2tpd

set_option autoImplicit false

open Program

variable {tunnel : Tunnel} {change : Tunnel → Tunnel} {depth : Nat}

variable {rules : Rules} {env : Env} {before after : Daemon} {t : TunnelRef} {lac : LacRef}

/-! ## What the composite entries went through -/

theorem forgetTunnelLac_ok {lac : Option LacRef} (ran : forgetTunnelLac lac before = .ok () after) :
    (lac = none ∧ after = before) ∨ ∃ ref entry, lac = some ref ∧ before.lac? ref = some entry ∧
      scheduleRedial ref (before.setLac ref fun entry => { entry with t := none }) =
        .ok () after := by
  cases lac with
  | none =>
    cases ran
    exact .inl ⟨rfl, rfl⟩
  | some ref =>
    obtain ⟨_, _, wrote, ran⟩ := bind_ok.mp ran
    obtain ⟨entry, found, rfl⟩ := writeLac_ok wrote
    exact .inr ⟨ref, entry, rfl, found, ran⟩

theorem forgetTunnelLac_frame {lac : Option LacRef}
    (ran : forgetTunnelLac lac before = .ok () after) : RedialFrame before after := by
  rcases forgetTunnelLac_ok ran with ⟨_, rfl⟩ | ⟨_, _, _, _, ran⟩
  · exact ⟨rfl, rfl, rfl, rfl, rfl, rfl, Nat.le_refl _, rfl, rfl⟩
  · exact (scheduleRedial_frame ran).cleared fun _ => rfl

theorem forgetTunnelLns_ok {lns : Option LnsRef} (ran : forgetTunnelLns lns before = .ok () after) :
    Aside before after ∧ after.laclist = before.laclist ∧ after.trace = before.trace := by
  cases lns with
  | none =>
    cases ran
    exact ⟨Aside.refl before, rfl, rfl⟩
  | some ref =>
    rw [writeLns_ok ran]
    exact ⟨aside_setLns fun _ => rfl, rfl, rfl⟩

section

variable (ran : bury t tunnel before = .ok () after)

include ran

theorem bury_ok :
    ∃ forgot noted trace, forgetTunnelLac tunnel.lac
        { before with
          tunnels := Keyed.remove Tunnel.ref t before.tunnels
          tunnelCount := before.tunnelCount - 1 } = .ok () forgot ∧
      Aside forgot noted ∧ noted.laclist = forgot.laclist ∧ Farewell forgot.trace trace ∧
      forgetCall tunnel.self { noted with uaddr := noted.freed tunnel.self, trace := trace } =
        .ok () after := by
  obtain ⟨_, _, unlinked, ran⟩ := bind_ok.mp ran
  cases unlinked
  obtain ⟨_, forgot, forget, ran⟩ := bind_ok.mp ran
  obtain ⟨_, noted, note, ran⟩ := bind_ok.mp ran
  obtain ⟨_, _, released, ran⟩ := bind_ok.mp ran
  obtain ⟨trace, farewell, rfl⟩ := releaseCall_ok released
  obtain ⟨aside, listed, same⟩ := forgetTunnelLns_ok note
  exact ⟨forgot, noted, trace, forget, aside, listed, same ▸ farewell, ran⟩

theorem bury_tunnels : after.tunnels = Keyed.remove Tunnel.ref t before.tunnels := by
  obtain ⟨_, _, _, forget, aside, _, _, ran⟩ := bury_ok ran
  exact (forgetCall_frame ran).tunnels.trans
    (aside.tunnels.trans (forgetTunnelLac_frame forget).tunnels)

theorem bury_tunnelCount : after.tunnelCount = before.tunnelCount - 1 := by
  obtain ⟨_, _, _, forget, aside, _, _, ran⟩ := bury_ok ran
  exact (forgetCall_frame ran).tunnelCount.trans
    (aside.tunnelCount.trans (forgetTunnelLac_frame forget).tunnelCount)

theorem bury_trace : Farewell before.trace after.trace := by
  obtain ⟨_, _, _, forget, _, _, farewell, ran⟩ := bury_ok ran
  rw [(forgetTunnelLac_frame forget).trace] at farewell
  exact (forgetCall_frame ran).trace ▸ farewell

end

def Tunnel.disown (tunnel : Tunnel) : Tunnel :=
  { tunnel with lac := none, self := { tunnel.self with lac := none } }

theorem forsake_ok (ran : forsake lac before = .ok () after) :
    ∃ entry dropped detached, before.lac? lac = some entry ∧
      (entry.t = none ∧ dropped = before ∨
        ∃ t, entry.t = some t ∧ dropped = before.setTunnel t Tunnel.disown) ∧
      (entry.c = none ∧ detached = dropped ∨
        ∃ t ref, entry.c = some (t, ref) ∧ detached = dropped.setTunnel t fun tunnel =>
          { tunnel with calls := clearLacFrom ref tunnel.calls }) ∧
      after = { detached with laclist := Keyed.remove Lac.ref lac detached.laclist } := by
  obtain ⟨_, dropped, drop, ran⟩ := bind_ok.mp ran
  obtain ⟨_, detached, detach, ran⟩ := bind_ok.mp ran
  cases ran
  obtain ⟨entry, found, drop⟩ := ok_deref drop
  obtain ⟨same, foundSame, detach⟩ := ok_deref detach
  have first : entry.t = none ∧ dropped = before ∨
      ∃ t, entry.t = some t ∧ dropped = before.setTunnel t Tunnel.disown := by
    cases opened : entry.t with
    | none =>
      simp only [opened] at drop
      cases drop
      exact .inl ⟨rfl, rfl⟩
    | some t =>
      simp only [opened] at drop
      obtain ⟨_, _, rfl⟩ := writeTunnel_ok drop
      exact .inr ⟨t, rfl, rfl⟩
  have listed : dropped.lac? lac = before.lac? lac := by
    rcases first with ⟨_, rfl⟩ | ⟨_, _, rfl⟩ <;> rfl
  rw [listed, found] at foundSame
  cases foundSame
  refine ⟨entry, dropped, detached, found, first, ?_, rfl⟩
  cases placed : entry.c with
  | none =>
    simp only [placed] at detach
    cases detach
    exact .inl ⟨rfl, rfl⟩
  | some pair =>
    obtain ⟨t, ref⟩ := pair
    simp only [placed] at detach
    obtain ⟨_, _, _, _, detach⟩ := ok_readCall detach
    obtain ⟨_, _, rfl⟩ := writeTunnel_ok detach
    exact .inr ⟨t, ref, rfl, rfl⟩

/-! ## Origins -/

structure ForsakeFrame (lac : LacRef) (before after : Daemon) : Prop where
  tunnelCount : after.tunnelCount = before.tunnelCount
  events : after.events = before.events
  uaddr : after.uaddr = before.uaddr
  lnslist : after.lnslist = before.lnslist
  deflns : after.deflns = before.deflns
  laclist : after.laclist = Keyed.remove Lac.ref lac before.laclist
  fresh : after.fresh = before.fresh
  drawn : after.drawn = before.drawn
  trace : after.trace = before.trace

theorem forsake_frame (ran : forsake lac before = .ok () after) :
    ForsakeFrame lac before after := by
  obtain ⟨_, _, _, _, drop, detach, rfl⟩ := forsake_ok ran
  rcases drop with ⟨_, rfl⟩ | ⟨_, _, rfl⟩ <;> rcases detach with ⟨_, rfl⟩ | ⟨_, _, _, rfl⟩ <;>
    exact ⟨rfl, rfl, rfl, rfl, rfl, rfl, rfl, rfl, rfl⟩

def CallDeed.unowned (call : CallDeed) : CallDeed := { call with lac := none }

/-- The same tunnel, where tunnel and calls may have lost their LAC entries. -/
structure TunnelDeed.Fades (old new : TunnelDeed) : Prop where
  ref : new.ref = old.ref
  ourtid : new.ourtid = old.ourtid
  count : new.count = old.count
  lns : new.lns = old.lns
  owner : new.lac = old.lac ∧ new.self = old.self ∨ new.lac = none ∧ new.self = old.self.unowned
  calls : new.calls.map CallDeed.unowned = old.calls.map CallDeed.unowned
  callLacs : ∀ call ∈ new.calls, call.lac = none ∨ call ∈ old.calls

theorem clearLacFrom_map {Image : Type} {image : Call → Image}
    (keeps : ∀ call, image { call with lac := none } = image call) (ref : CallRef)
    (calls : List Call) : (clearLacFrom ref calls).map image = calls.map image := by
  have same : image ∘ (fun call => { call with lac := none }) = image := funext keeps
  unfold clearLacFrom
  rw [List.map_append, List.map_map, same, ← List.map_append, List.takeWhile_append_dropWhile]

theorem disown_fades (tunnel : Tunnel) : tunnel.deed.Fades tunnel.disown.deed :=
  ⟨rfl, rfl, rfl, rfl, .inr ⟨rfl, rfl⟩, rfl, fun _ member => .inr member⟩

theorem clearLacFrom_fades (ref : CallRef) (tunnel : Tunnel) :
    tunnel.deed.Fades { tunnel with calls := clearLacFrom ref tunnel.calls }.deed := by
  refine ⟨rfl, rfl, rfl, rfl, .inl ⟨rfl, rfl⟩, ?_, ?_⟩
  · simp only [Tunnel.deed, List.map_map]
    exact clearLacFrom_map (by intro _; rfl) ref tunnel.calls
  · intro deed member
    obtain ⟨call, listed, rfl⟩ := List.mem_map.mp member
    rcases List.mem_append.mp listed with early | late
    · have kept : call ∈ tunnel.calls := (List.takeWhile_sublist _).subset early
      exact .inr (List.mem_map_of_mem kept)
    · obtain ⟨old, _, rfl⟩ := List.mem_map.mp late
      exact .inl rfl

theorem TunnelDeed.Fades.trans {first second third : TunnelDeed} (one : first.Fades second)
    (two : second.Fades third) : first.Fades third where
  ref := two.ref.trans one.ref
  ourtid := two.ourtid.trans one.ourtid
  count := two.count.trans one.count
  lns := two.lns.trans one.lns
  owner := by
    rcases two.owner with ⟨lac, self⟩ | ⟨lac, self⟩
    · rw [lac, self]
      exact one.owner
    · refine .inr ⟨lac, ?_⟩
      rw [self]
      rcases one.owner with ⟨_, same⟩ | ⟨_, faded⟩
      · rw [same]
      · rw [faded]
        rfl
  calls := two.calls.trans one.calls
  callLacs := by
    intro call member
    rcases two.callLacs call member with gone | earlier
    · exact .inl gone
    · exact one.callLacs call earlier

/-- How a tunnel of the next state is made from one of this state. -/
inductive Origin (env : Env) (before after : Daemon) : TunnelDeed → Prop
  | kept {old : Tunnel} (member : old ∈ before.tunnels) : Origin env before after old.deed
  | chosen {old : Tunnel} (member : old ∈ before.tunnels) (lns : Option LnsRef)
      (known : ∀ ref, lns = some ref → (before.lns? ref).isSome) :
      Origin env before after { old.deed with lns := lns }
  | born (lac : Option LacRef)
      (free : ∀ ref, lac = some ref → ∃ entry, before.lac? ref = some entry ∧ entry.t = none)
      (grew : before.fresh + 2 ≤ after.fresh) (drew : before.drawn + 2 ≤ after.drawn) :
      Origin env before after (TunnelDeed.blank before.fresh (env.number before.drawn) lac)
  | inherited {old : Tunnel} (member : old ∈ before.tunnels)
      (grew : before.fresh + 1 ≤ after.fresh) (drew : before.drawn + 2 ≤ after.drawn) :
      Origin env before after { old.deed with
        calls := ⟨before.fresh, old.ref, env.number before.drawn, 0, old.lns, old.lac⟩ ::
          old.deed.calls
        count := old.count + 1 }
  | placed {old : Tunnel} (member : old ∈ before.tunnels) (lac : Option LacRef)
      (known : ∀ ref, lac = some ref → (before.lac? ref).isSome)
      (grew : before.fresh + 1 ≤ after.fresh) (drew : before.drawn + 2 ≤ after.drawn) :
      Origin env before after { old.deed with
        calls := ⟨before.fresh, old.ref, env.number before.drawn, 0, none, lac⟩ :: old.deed.calls
        count := old.count + 1 }
  | dropped {old : Tunnel} (member : old ∈ before.tunnels) (ref : CallRef)
      (listed : (Keyed.find CallDeed.ref ref old.deed.calls).isSome) :
      Origin env before after { old.deed with
        calls := Keyed.remove CallDeed.ref ref old.deed.calls
        count := old.count - 1 }
  | assigned {old : Tunnel} (member : old ∈ before.tunnels) (ref : CallRef) (addr : Nat) :
      Origin env before after { old.deed with
        calls := Keyed.update CallDeed.ref ref (fun call => { call with addr := addr })
          old.deed.calls }
  | faded {old : Tunnel} {deed : TunnelDeed} (member : old ∈ before.tunnels)
      (fades : old.deed.Fades deed) : Origin env before after deed

theorem Tunnel.deed_addCall (call : Call) (tunnel : Tunnel) :
    (tunnel.addCall call).deed =
      { tunnel.deed with
        calls := call.deed :: tunnel.deed.calls
        count := tunnel.count + 1 } := rfl

theorem Daemon.record_tunnels (state : Daemon) (lac : Option LacRef) (change : Lac → Lac) :
    (state.record lac change).tunnels = state.tunnels := by
  cases lac <;> rfl

theorem mem_setTunnel {state : Daemon} (member : tunnel ∈ (state.setTunnel t change).tunnels) :
    tunnel ∈ state.tunnels ∨ ∃ old, state.tunnel? t = some old ∧ tunnel = change old :=
  Keyed.mem_update member

theorem destroyCall_tunnels {ref : CallRef} (ran : destroyCall t ref before = .ok () after) :
    after.tunnels = (before.setTunnel t fun tunnel =>
      { tunnel with
        calls := Keyed.remove Call.ref ref tunnel.calls
        count := tunnel.count - 1 }).tunnels := by
  obtain ⟨_, _, _, _, _, _, ran⟩ := destroyCall_ok ran
  exact (forgetCall_frame ran).tunnels

theorem Origin.setTunnel (member : tunnel ∈ (before.setTunnel t change).tunnels)
    (changed : ∀ old ∈ before.tunnels, before.tunnel? t = some old →
      Origin env before after (change old).deed) : Origin env before after tunnel.deed := by
  rcases mem_setTunnel member with kept | ⟨old, found, rfl⟩
  · exact .kept kept
  · exact changed old (Keyed.find_mem found) found

theorem forsake_origin (ran : forsake lac before = .ok () after) (member : tunnel ∈ after.tunnels) :
    ∃ old ∈ before.tunnels, old.deed.Fades tunnel.deed := by
  obtain ⟨entry, dropped, detached, _, drop, detach, rfl⟩ := forsake_ok ran
  have first : ∀ middle ∈ dropped.tunnels, ∃ old ∈ before.tunnels, old.deed.Fades middle.deed := by
    intro middle listed
    rcases drop with ⟨_, rfl⟩ | ⟨u, _, rfl⟩
    · exact ⟨middle, listed, rfl, rfl, rfl, rfl, .inl ⟨rfl, rfl⟩, rfl, fun _ here => .inr here⟩
    · rcases mem_setTunnel listed with kept | ⟨old, found, rfl⟩
      · exact ⟨middle, kept, rfl, rfl, rfl, rfl, .inl ⟨rfl, rfl⟩, rfl, fun _ here => .inr here⟩
      · exact ⟨old, Keyed.find_mem found, disown_fades old⟩
  rcases detach with ⟨_, rfl⟩ | ⟨u, ref, _, rfl⟩
  · exact first tunnel member
  · rcases mem_setTunnel member with kept | ⟨middle, found, rfl⟩
    · exact first tunnel kept
    · obtain ⟨old, listed, fades⟩ := first middle (Keyed.find_mem found)
      exact ⟨old, listed, fades.trans (clearLacFrom_fades ref middle)⟩

theorem Op.origin (op : Op rules env before after) (member : tunnel ∈ after.tunnels) :
    Origin env before after tunnel.deed := by
  cases op with
  | aside same =>
    rw [same.tunnels] at member
    exact .kept member
  | store t change _ keeps =>
    refine Origin.setTunnel member fun old listed _ => ?_
    rw [keeps]
    exact .kept listed
  | link made lac _ blank free _ =>
    rw [Daemon.record_tunnels] at member
    rcases List.mem_cons.mp member with rfl | old
    · rw [blank]
      cases lac <;> exact .born _ free (Nat.le_refl _) (Nat.le_refl _)
    · exact .kept old
  | choose t lns _ known =>
    exact Origin.setTunnel member fun old listed _ => .chosen listed lns known
  | inherit t c mandatory found call _ isFound made =>
    refine Origin.setTunnel member fun old listed foundOld => ?_
    have same : found = old := Option.some.inj (isFound.symm.trans foundOld)
    rw [Tunnel.deed_addCall, made, same]
    exact .inherited listed (Nat.le_refl _) (Nat.le_refl _)
  | place t found call lac _ isFound known _ made =>
    rw [Daemon.record_tunnels] at member
    refine Origin.setTunnel member fun old listed foundOld => ?_
    have same : found = old := Option.some.inj (isFound.symm.trans foundOld)
    rw [Tunnel.deed_addCall, made, same]
    cases lac <;> exact .placed listed _ known (Nat.le_refl _) (Nat.le_refl _)
  | destroyCall t ref _ _ ran =>
    obtain ⟨found, call, _, isFound, foundCall, _, _⟩ := destroyCall_ok ran
    rw [destroyCall_tunnels ran] at member
    refine Origin.setTunnel member fun old listed foundOld => ?_
    have same : found = old := Option.some.inj (isFound.symm.trans foundOld)
    have inside : Keyed.find CallDeed.ref ref old.deed.calls = some call.deed := by
      have image : Keyed.find CallDeed.ref ref (old.calls.map Call.deed) =
          (old.call? (.call ref)).map Call.deed := Keyed.find_map fun _ => rfl
      exact image.trans (same ▸ congrArg _ foundCall)
    have image : (Keyed.remove Call.ref ref old.calls).map Call.deed =
        Keyed.remove CallDeed.ref ref (old.calls.map Call.deed) := Keyed.map_remove fun _ => rfl
    have shown : ({ old with
        calls := Keyed.remove Call.ref ref old.calls
        count := old.count - 1 } : Tunnel).deed =
        { old.deed with
          calls := Keyed.remove CallDeed.ref ref old.deed.calls
          count := old.count - 1 } := by
      simp only [Tunnel.deed]
      rw [image]
    rw [shown]
    exact .dropped listed ref (Option.isSome_of_eq_some inside)
  | bury t found _ _ _ _ ran =>
    rw [bury_tunnels ran] at member
    exact .kept (Keyed.mem_remove.mp member).1
  | assign t ref addr _ _ _ =>
    refine Origin.setTunnel member fun old listed _ => ?_
    have image : (Keyed.update Call.ref ref (fun call => { call with addr := addr })
        old.calls).map Call.deed = Keyed.update CallDeed.ref ref
          (fun call => { call with addr := addr }) (old.calls.map Call.deed) :=
      Keyed.map_update (fun _ => rfl) fun _ _ => rfl
    simp only [Tunnel.setCall, Tunnel.deed]
    rw [image]
    exact .assigned listed ref addr
  | dropLac lac _ ran _ =>
    obtain ⟨old, listed, fades⟩ := forsake_origin ran member
    exact .faded listed fades
  | postpone lac _ ran =>
    rw [(scheduleRedial_frame ran).tunnels] at member
    exact .kept member
  | _ => exact .kept member

/-! ## Numbers, addresses and the history -/

/-- What a step adds to the counters and the history. -/
structure Grows (before after : Daemon) : Prop where
  fresh : before.fresh ≤ after.fresh
  drawn : before.drawn ≤ after.drawn
  trace : before.trace <+: after.trace

theorem Grows.refl (state : Daemon) : Grows state state :=
  ⟨Nat.le_refl _, Nat.le_refl _, List.prefix_rfl⟩

theorem Grows.trans {middle : Daemon} (first : Grows before middle)
    (second : Grows middle after) : Grows before after :=
  ⟨first.fresh.trans second.fresh, first.drawn.trans second.drawn, first.trace.trans second.trace⟩

theorem Aside.grows (same : Aside before after) : Grows before after :=
  ⟨same.fresh, same.drawn, same.trace⟩

theorem Grows.record (grows : Grows before after) (lac : Option LacRef) (change : Lac → Lac) :
    Grows before (after.record lac change) := by
  cases lac <;> exact ⟨grows.fresh, grows.drawn, grows.trace⟩

theorem RedialFrame.grows (frame : RedialFrame before after) : Grows before after :=
  ⟨frame.fresh, frame.drawn.ge, frame.trace ▸ List.prefix_rfl⟩

theorem bury_grows (ran : bury t tunnel before = .ok () after) : Grows before after := by
  obtain ⟨forgot, noted, trace, forget, aside, _, farewell, ran⟩ := bury_ok ran
  have redial := (forgetTunnelLac_frame forget).grows
  have first : Grows before forgot := ⟨redial.fresh, redial.drawn, redial.trace⟩
  have released : Grows forgot { noted with uaddr := noted.freed tunnel.self, trace := trace } :=
    ⟨aside.fresh, aside.drawn, farewell.grows⟩
  exact first.trans (released.trans (forgetCall_frame ran).grows)

theorem Op.grows (op : Op rules env before after) : Grows before after := by
  have still : ∀ later : Daemon, later.fresh = before.fresh → later.drawn = before.drawn →
      later.trace = before.trace → Grows before later :=
    fun later fresh drawn trace => ⟨fresh.ge, drawn.ge, trace ▸ List.prefix_rfl⟩
  cases op with
  | aside same => exact same.grows
  | link tunnel lac =>
    apply Grows.record
    exact ⟨Nat.le_add_right _ _, Nat.le_add_right _ _, List.prefix_rfl⟩
  | inherit => exact ⟨Nat.le_succ _, Nat.le_add_right _ _, List.prefix_append _ _⟩
  | place =>
    apply Grows.record
    exact ⟨Nat.le_succ _, Nat.le_add_right _ _, List.prefix_rfl⟩
  | destroyCall t ref _ _ ran =>
    obtain ⟨_, _, _, _, _, farewell, ran⟩ := destroyCall_ok ran
    have last := (forgetCall_frame ran).grows
    exact ⟨last.fresh, last.drawn, farewell.grows.trans last.trace⟩
  | bury t tunnel _ _ _ _ ran => exact bury_grows ran
  | postpone lac _ ran => exact (scheduleRedial_frame ran).grows
  | dropLac lac _ ran _ =>
    have frame := forsake_frame ran
    exact still _ frame.fresh frame.drawn frame.trace
  | hello | queue | addLac | addLns => exact ⟨Nat.le_succ _, Nat.le_refl _, List.prefix_rfl⟩
  | _ => exact still _ rfl rfl rfl

theorem steps_grow (steps : Relation.ReflTransGen (Op rules env) before after) :
    Grows before after := by
  induction steps with
  | refl => exact Grows.refl _
  | tail _ op ih => exact ih.trans op.grows

def Tunnel.name (tunnel : Tunnel) : TunnelRef × UInt16 := (tunnel.ref, tunnel.ourtid)

theorem names_setTunnel (keeps : ∀ tunnel, (change tunnel).name = tunnel.name) :
    (before.setTunnel t change).tunnels.map Tunnel.name = before.tunnels.map Tunnel.name :=
  Keyed.map_update_same keeps

theorem forsake_map {Image : Type} {image : Tunnel → Image}
    (ran : forsake lac before = .ok () after)
    (disowns : ∀ tunnel, image tunnel.disown = image tunnel)
    (clears : ∀ ref tunnel, image { tunnel with calls := clearLacFrom ref tunnel.calls } =
      image tunnel) :
    after.tunnels.map image = before.tunnels.map image := by
  obtain ⟨_, dropped, _, _, drop, detach, rfl⟩ := forsake_ok ran
  have first : dropped.tunnels.map image = before.tunnels.map image := by
    rcases drop with ⟨_, rfl⟩ | ⟨_, _, rfl⟩
    · rfl
    · exact Keyed.map_update_same disowns
  rcases detach with ⟨_, rfl⟩ | ⟨_, ref, _, rfl⟩
  · exact first
  · exact (Keyed.map_update_same (clears ref)).trans first

/-- What an entry of the ledger does to the list of tunnels and their number. -/
inductive Roll (rules : Rules) (env : Env) (before after : Daemon) : Prop
  | same (names : after.tunnels.map Tunnel.name = before.tunnels.map Tunnel.name)
      (count : after.tunnelCount = before.tunnelCount)
  | gone (t : TunnelRef) (tunnel : Tunnel) (found : before.tunnel? t = some tunnel)
      (tunnels : after.tunnels = Keyed.remove Tunnel.ref t before.tunnels)
      (count : after.tunnelCount = before.tunnelCount - 1)
  | came (names : after.tunnels.map Tunnel.name =
        (before.fresh, env.number before.drawn) :: before.tunnels.map Tunnel.name)
      (touch : rules.touched before.fresh) (grew : before.fresh + 2 ≤ after.fresh)
      (drew : before.drawn + 2 ≤ after.drawn) (count : after.tunnelCount = before.tunnelCount + 1)

theorem Op.roll (op : Op rules env before after) : Roll rules env before after := by
  cases op with
  | aside kept => exact .same (congrArg _ kept.tunnels) kept.tunnelCount
  | store t change _ keeps =>
    refine .same (names_setTunnel fun tunnel => ?_) rfl
    have ref := congrArg TunnelDeed.ref (keeps tunnel)
    have ourtid := congrArg TunnelDeed.ourtid (keeps tunnel)
    exact Prod.ext ref ourtid
  | link tunnel lac touch blank =>
    have name : tunnel.name = (before.fresh, env.number before.drawn) :=
      Prod.ext (congrArg TunnelDeed.ref blank) (congrArg TunnelDeed.ourtid blank)
    refine .came ?_ touch ?_ ?_ ?_
    · rw [Daemon.record_tunnels, ← name]
      rfl
    all_goals cases lac <;> first | exact Nat.le_refl _ | rfl
  | choose | inherit | assign t ref => exact .same (names_setTunnel fun _ => rfl) rfl
  | place t tunnel call lac =>
    refine .same ?_ (by cases lac <;> rfl)
    rw [Daemon.record_tunnels]
    exact names_setTunnel fun _ => rfl
  | destroyCall t ref _ _ ran =>
    refine .same ?_ ?_
    · rw [destroyCall_tunnels ran]
      exact names_setTunnel fun _ => rfl
    · obtain ⟨_, _, _, _, _, _, ran⟩ := destroyCall_ok ran
      have kept := (forgetCall_frame ran).tunnelCount
      exact kept
  | bury t tunnel _ _ found _ ran =>
    exact .gone t tunnel found (bury_tunnels ran) (bury_tunnelCount ran)
  | dropLac lac _ ran _ =>
    exact .same (forsake_map ran (fun _ => rfl) fun _ _ => rfl) (forsake_frame ran).tunnelCount
  | postpone lac _ ran =>
    have frame := scheduleRedial_frame ran
    exact .same (congrArg _ frame.tunnels) frame.tunnelCount
  | _ => exact .same rfl rfl

theorem Op.names (op : Op rules env before after) :
    (after.tunnels.map Tunnel.name).Sublist (before.tunnels.map Tunnel.name) ∨
      after.tunnels.map Tunnel.name =
          (before.fresh, env.number before.drawn) :: before.tunnels.map Tunnel.name ∧
        rules.touched before.fresh ∧ before.fresh + 2 ≤ after.fresh ∧
        before.drawn + 2 ≤ after.drawn := by
  rcases op.roll with ⟨names, _⟩ | ⟨t, tunnel, found, tunnels, _⟩ | ⟨names, touch, grew, drew, _⟩
  · exact .inl (names ▸ List.Sublist.refl _)
  · rw [tunnels]
    exact .inl (List.filter_sublist.map _)
  · exact .inr ⟨names, touch, grew, drew⟩

/-! ## Closed tunnels -/

theorem destroyTunnel_gone (ran : destroyTunnel t before = .ok () after) :
    after.tunnel? t = none := by
  obtain ⟨tunnel, found, ran⟩ := ok_readTunnel ran
  obtain ⟨_, middle, _, buried⟩ := bind_ok.mp ran
  have tunnels : after.tunnels = Keyed.remove Tunnel.ref t middle.tunnels := bury_tunnels buried
  unfold Daemon.tunnel?
  rw [tunnels, Keyed.find_remove_same]

theorem released_closes {ref : CallRef} (found : before.tunnel? t = some tunnel)
    (ran : (writeCall t (.call ref) Call.release >>= fun _ => callCloseN env depth t (.call ref))
      before = .ok () after) :
    ∃ last, after.tunnel? t = some last ∧
      last.calls.map Call.ref = (tunnel.calls.map Call.ref).filter fun other => other ≠ ref := by
  obtain ⟨same, call, foundSame, foundCall, closes⟩ := ok_writeCall ran
  rw [found] at foundSame
  cases foundSame
  have foundReleased := @tunnel_setCall tunnel before t (.call ref) Call.release found
  cases depth with
  | zero => cases closes
  | succ depth =>
    obtain ⟨opened, foundOpened, closes⟩ := ok_readTunnel closes
    obtain ⟨again, released, foundAgain, isReleased, closes⟩ := ok_readCall closes
    rw [foundReleased] at foundAgain
    cases foundAgain
    rw [Tunnel.call_setCall (by intro _; rfl), foundCall] at isReleased
    cases isReleased
    have closing : call.release.closing = true := rfl
    rw [if_pos closing] at closes
    refine ⟨_, destroyCall_tunnel closes foundReleased, ?_⟩
    have kept : (tunnel.setCall (.call ref) Call.release).calls.map Call.ref =
        tunnel.calls.map Call.ref := Keyed.map_update_same fun _ => rfl
    rw [← kept, List.filter_map]
    rfl

theorem releasedAll_close {refs : List CallRef} (found : before.tunnel? t = some tunnel)
    (ran : refs.forM (fun ref => writeCall t (.call ref) Call.release >>= fun _ =>
      callCloseN env depth t (.call ref)) before = .ok () after) :
    ∃ last, after.tunnel? t = some last ∧
      last.calls.map Call.ref = (tunnel.calls.map Call.ref).filter fun other => other ∉ refs := by
  induction refs generalizing before tunnel with
  | nil =>
    cases ran
    exact ⟨tunnel, found, by simp⟩
  | cons ref refs ih =>
    obtain ⟨_, middle, first, rest⟩ := bind_ok.mp ran
    obtain ⟨between, foundBetween, calls⟩ := released_closes found first
    obtain ⟨last, foundLast, left⟩ := ih foundBetween rest
    refine ⟨last, foundLast, ?_⟩
    rw [left, calls, List.filter_filter]
    apply List.filter_congr
    intro other _
    simp only [List.mem_cons, not_or, Bool.decide_and, Bool.and_comm]

theorem closeTunnel_empties (ran : callCloseN env depth t .self before = .ok () after)
    (found : after.tunnel? t = some tunnel) : tunnel.calls = [] := by
  cases depth with
  | zero => cases ran
  | succ depth =>
    obtain ⟨opened, _, ran⟩ := ok_readTunnel ran
    obtain ⟨_, _, _, ran⟩ := bind_ok.mp ran
    by_cases closing : opened.self.closing = true
    · rw [if_pos closing] at ran
      rw [destroyTunnel_gone ran] at found
      cases found
    · rw [if_neg closing] at ran
      obtain ⟨_, _, _, _, ran⟩ := ok_writeCall ran
      obtain ⟨_, _, _, ran⟩ := bind_ok.mp ran
      obtain ⟨_, _, _, ran⟩ := bind_ok.mp ran
      obtain ⟨still, foundStill, ran⟩ := ok_readTunnel ran
      obtain ⟨_, emptied, loop, marks⟩ := bind_ok.mp ran
      obtain ⟨last, foundLast, left⟩ := releasedAll_close foundStill loop
      obtain ⟨_, _, _, _, rfl⟩ := writeCall_ok marks
      rw [tunnel_setCall foundLast] at found
      cases found
      have none : last.calls.map Call.ref = [] := by
        rw [left]
        exact List.filter_eq_nil_iff.mpr fun ref member => by simpa using member
      exact List.map_eq_nil_iff.mp none

/-- A message is numbered and queued or tossed, or, with no try allowed, closes its tunnel. -/
theorem sendControlWith_ok {c : CallId} {body : Bytes}
    (ran : sendControlWith env (callCloseN env depth) t c body before = .ok () after) :
    (∃ ns, Obs.numbered t ns body ∈ after.trace.drop before.trace.length) ∧
      ((∃ events fresh trace, after =
          { before.setTunnel t fun tunnel =>
              { tunnel with controlSeqNum := tunnel.controlSeqNum + 1 } with
            events := events
            fresh := fresh
            trace := trace }) ∨
        ∀ tunnel, after.tunnel? t = some tunnel → tunnel.calls = []) := by
  obtain ⟨buffer, _, number, ran⟩ := bind_ok.mp ran
  have own : buffer.tunnel = t := addControlHdr_tunnel number
  obtain ⟨tunnel, _, number⟩ := ok_readTunnel number
  obtain ⟨_, call, _, _, number⟩ := ok_readCall number
  obtain ⟨_, _, number⟩ := ok_writeTunnel number
  cases number
  obtain ⟨_, _, note, ran⟩ := bind_ok.mp ran
  cases note
  have noted : ∀ {later : Daemon} {first : List Obs}, (first ++ [Obs.numbered t
      tunnel.controlSeqNum body]) <+: later.trace → first = before.trace →
      ∃ ns, Obs.numbered t ns body ∈ later.trace.drop before.trace.length := by
    rintro later first ⟨rest, grown⟩ rfl
    refine ⟨tunnel.controlSeqNum, ?_⟩
    rw [← grown, List.append_assoc, List.drop_left]
    exact List.mem_cons_self
  obtain ⟨opened, _, ran⟩ := ok_readTunnel ran
  split at ran
  · cases ran
    exact ⟨noted (List.prefix_append _ _) rfl, .inl ⟨_, _, _, rfl⟩⟩
  split at ran
  · obtain ⟨_, _, _, _, ran⟩ := ok_writeCall ran
    have steps : Relation.ReflTransGen (Op Rules.free env) _ after :=
      callCloseN_ops depth trivial trivial () after ran
    have grown := (steps_grow steps).trace
    exact ⟨noted grown rfl, .inr fun tunnel found => closeTunnel_empties ran found⟩
  · obtain ⟨_, _, scheduled, ran⟩ := bind_ok.mp ran
    obtain ⟨_, rfl⟩ := schedule_ok scheduled
    obtain ⟨_, _, ran⟩ := ok_readTunnel ran
    cases ran
    exact ⟨noted (List.prefix_append _ _) rfl, .inl ⟨_, _, _, rfl⟩⟩

end Xl2tpd
