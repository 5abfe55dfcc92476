import Xl2tpd.Daemon
import Xl2tpd.Simulation

/-!
# The ledger

What the program does to the bookkeeping of tunnels, calls, entries, timers and addresses, in the
runs that return. An `Op` is one entry of this ledger: a store that the bookkeeping does not show,
or one of the few changes to it. The rules say which of them a part of the program may make.
-/

namespace Xl2tpd

set_option autoImplicit false

open Program

/-! ## What is kept in the books -/

structure CallDeed where
  ref : CallRef
  container : TunnelRef
  ourcid : UInt16
  addr : Nat
  lns : Option LnsRef
  lac : Option LacRef

structure TunnelDeed where
  ref : TunnelRef
  ourtid : UInt16
  count : Int
  lns : Option LnsRef
  lac : Option LacRef
  self : CallDeed
  calls : List CallDeed

structure LacBook where
  ref : LacRef
  rsched : Option Nat
  t : Option TunnelRef
  c : Option (TunnelRef × CallRef)

def Call.deed (call : Call) : CallDeed :=
  ⟨call.ref, call.container, call.ourcid, call.addr, call.lns, call.lac⟩

def Tunnel.deed (tunnel : Tunnel) : TunnelDeed :=
  ⟨tunnel.ref, tunnel.ourtid, tunnel.count, tunnel.lns, tunnel.lac, tunnel.self.deed,
    tunnel.calls.map Call.deed⟩

def Lac.book (entry : Lac) : LacBook := ⟨entry.ref, entry.rsched, entry.t, entry.c⟩

def Lac.switch (entry : Lac) : LacRef × Bool := (entry.ref, entry.active)

def Lns.book (entry : Lns) : Lns := { entry with t := none }

/-- A tunnel that has just been opened, for a LAC entry if there is one. -/
def TunnelDeed.blank (ref : TunnelRef) (ourtid : UInt16) (lac : Option LacRef) : TunnelDeed :=
  ⟨ref, ourtid, 0, none, lac, ⟨ref + 1, ref, 0, 0, none, lac⟩, []⟩

def Env.number (env : Env) (drawn : Nat) : UInt16 :=
  hostWord ((List.range 2).map fun offset => env.entropy (drawn + offset)) 0

def Daemon.Idle (state : Daemon) (lac : LacRef) : Prop :=
  (∀ entry ∈ state.events, entry.event ≠ .magicLacDial lac) ∧
    ∀ entry, state.lac? lac = some entry → entry.c = none

structure Daemon.UnheldLac (state : Daemon) (lac : LacRef) : Prop where
  tunnels : ∀ tunnel ∈ state.tunnels, tunnel.lac ≠ some lac ∧ tunnel.self.lac ≠ some lac
  calls : ∀ tunnel ∈ state.tunnels, ∀ call ∈ tunnel.calls, call.lac ≠ some lac
  events : ∀ entry ∈ state.events, entry.event ≠ .magicLacDial lac

structure Daemon.UnheldLns (state : Daemon) (lns : LnsRef) : Prop where
  tunnels : ∀ tunnel ∈ state.tunnels, tunnel.lns ≠ some lns ∧ tunnel.self.lns ≠ some lns
  calls : ∀ tunnel ∈ state.tunnels, ∀ call ∈ tunnel.calls, call.lns ≠ some lns

def Obs.welcome : Obs → Bool
  | .verdict _ _ .ICRQ _ admitted => admitted
  | _ => false

theorem Obs.welcome_refused (t : TunnelRef) (c : CallId) (type : MsgType) (mandatory : Bool) :
    (Obs.verdict t c type mandatory false).welcome = false := by
  cases type <;> rfl

theorem Obs.welcome_other {t : TunnelRef} {c : CallId} {type : MsgType} {mandatory admitted : Bool}
    (other : type ≠ .ICRQ) : (Obs.verdict t c type mandatory admitted).welcome = false := by
  cases type <;> first | rfl | exact absurd rfl other

def Obs.connects : Obs → Bool
  | .connectPppol2tp _ => true
  | _ => false

/-! ## Changes -/

def reserved (uaddr : Nat → List Nat) (addr : Nat) : Nat → List Nat :=
  Function.update uaddr (addr % addrHashSize) (addr :: uaddr (addr % addrHashSize))

def Daemon.scheduled (state : Daemon) (delay : Timeval) (event : Event) : Daemon :=
  { state with
    fresh := state.fresh + 1
    events := insertEntry ⟨state.fresh, state.now.after delay, event⟩ state.events }

def Tunnel.addCall (call : Call) (tunnel : Tunnel) : Tunnel :=
  { tunnel with calls := call :: tunnel.calls, count := tunnel.count + 1 }

def Daemon.record (state : Daemon) (lac : Option LacRef) (change : Lac → Lac) : Daemon :=
  match lac with
  | none => state
  | some ref => state.setLac ref change

def Daemon.opened (state : Daemon) (tunnel : Tunnel) : Daemon :=
  { state with
    tunnels := tunnel :: state.tunnels
    tunnelCount := state.tunnelCount + 1
    fresh := state.fresh + 2
    drawn := state.drawn + 2 }

def Daemon.drawCall (state : Daemon) : Daemon :=
  { state with fresh := state.fresh + 1, drawn := state.drawn + 2 }

/-- The end of `destroy_tunnel`, once the calls are gone. -/
def bury (t : TunnelRef) (tunnel : Tunnel) : Prog Unit := do
  unlinkTunnel t
  forgetTunnelLac tunnel.lac
  forgetTunnelLns tunnel.lns
  releaseCall tunnel.self
  forgetCall tunnel.self

def forsake (lac : LacRef) : Prog Unit := do
  dropTunnelLac lac
  detachCalls lac
  modify fun state => { state with laclist := Keyed.remove Lac.ref lac state.laclist }

/-- A change outside the books. -/
structure Aside (before after : Daemon) : Prop where
  tunnels : after.tunnels = before.tunnels
  tunnelCount : after.tunnelCount = before.tunnelCount
  events : after.events = before.events
  uaddr : after.uaddr = before.uaddr
  lacs : after.laclist.map Lac.book = before.laclist.map Lac.book
  lnss : after.lnslist.map Lns.book = before.lnslist.map Lns.book
  deflns : after.deflns.map Lns.book = before.deflns.map Lns.book
  fresh : before.fresh ≤ after.fresh
  drawn : before.drawn ≤ after.drawn
  trace : before.trace <+: after.trace

/-- What a part of the program may do. -/
structure Rules where
  /-- The tunnels that may be changed. -/
  touched : TunnelRef → Prop
  /-- Calls and tunnels may be destroyed. -/
  destroys : Prop
  /-- A hello may be scheduled, and the kernel told of a tunnel. -/
  hellos : Prop
  /-- A timer may be taken out of the queue. -/
  expires : Prop
  /-- An LNS entry may be changed. -/
  edits : Prop
  /-- A LAC entry may be made active or inactive. -/
  toggles : Prop
  /-- An address may be taken from a pool. -/
  assigns : Prop
  /-- A dial finds its entry idle. -/
  single : Prop
  /-- An address is given only to a call that has none. -/
  assigned : Prop
  /-- An entry is removed only when nothing refers to it. -/
  kept : Prop
  /-- The LAC entries that may be dialed. -/
  dialed : LacRef → Prop
  /-- The tunnels on which a call of the peer may be taken. -/
  rings : TunnelRef → Prop

def Rules.hushes (rules : Rules) (note : Obs) : Prop :=
  note.welcome = false ∧ (¬ rules.hellos → note.connects = false)

def Rules.free : Rules :=
  ⟨fun _ => True, True, True, True, True, True, True, False, False, False, fun _ => True,
    fun _ => True⟩

inductive Op (rules : Rules) (env : Env) : Daemon → Daemon → Prop
  | aside {before after : Daemon} (same : Aside before after)
      (still : ¬ rules.toggles →
        after.laclist.map Lac.switch = before.laclist.map Lac.switch)
      (hush : ∀ note ∈ after.trace.drop before.trace.length, rules.hushes note) :
      Op rules env before after
  | store {before : Daemon} (t : TunnelRef) (change : Tunnel → Tunnel) (touch : rules.touched t)
      (keeps : ∀ tunnel, (change tunnel).deed = tunnel.deed) :
      Op rules env before (before.setTunnel t change)
  | link {before : Daemon} (tunnel : Tunnel) (lac : Option LacRef)
      (touch : rules.touched before.fresh)
      (blank : tunnel.deed = TunnelDeed.blank before.fresh (env.number before.drawn) lac)
      (free : ∀ ref, lac = some ref → ∃ entry, before.lac? ref = some entry ∧ entry.t = none)
      (idle : rules.single → ∀ ref, lac = some ref → before.Idle ref)
      (dial : ∀ ref, lac = some ref → rules.dialed ref) :
      Op rules env before
        ((before.opened tunnel).record lac fun entry => { entry with t := some before.fresh })
  | choose {before : Daemon} (t : TunnelRef) (lns : Option LnsRef) (touch : rules.touched t)
      (known : ∀ ref, lns = some ref → (before.lns? ref).isSome) :
      Op rules env before (before.setTunnel t fun tunnel => { tunnel with lns := lns })
  | inherit {before : Daemon} (t : TunnelRef) (c : CallId) (mandatory : Bool) (tunnel : Tunnel)
      (call : Call) (touch : rules.touched t) (found : before.tunnel? t = some tunnel)
      (made : call.deed =
        ⟨before.fresh, tunnel.ref, env.number before.drawn, 0, tunnel.lns, tunnel.lac⟩)
      (ring : rules.rings t) :
      Op rules env before ((before.drawCall.setTunnel t (Tunnel.addCall call)).emit
        (.verdict t c .ICRQ mandatory true))
  | place {before : Daemon} (t : TunnelRef) (tunnel : Tunnel) (call : Call) (lac : Option LacRef)
      (touch : rules.touched t) (found : before.tunnel? t = some tunnel)
      (known : ∀ ref, lac = some ref → (before.lac? ref).isSome)
      (idle : rules.single → ∀ ref, lac = some ref → before.Idle ref ∧
        ∃ entry, before.lac? ref = some entry ∧ entry.t = some t)
      (made : call.deed = ⟨before.fresh, tunnel.ref, env.number before.drawn, 0, none, lac⟩)
      (dial : ∀ ref, lac = some ref → rules.dialed ref) :
      Op rules env before ((before.drawCall.setTunnel t (Tunnel.addCall call)).record lac
        fun entry => { entry with c := some (t, call.ref) })
  | destroyCall {before after : Daemon} (t : TunnelRef) (ref : CallRef) (touch : rules.touched t)
      (allow : rules.destroys) (ran : destroyCall t ref before = .ok () after) :
      Op rules env before after
  | bury {before after : Daemon} (t : TunnelRef) (tunnel : Tunnel) (touch : rules.touched t)
      (allow : rules.destroys) (found : before.tunnel? t = some tunnel) (empty : tunnel.calls = [])
      (ran : bury t tunnel before = .ok () after) : Op rules env before after
  | assign {before : Daemon} (t : TunnelRef) (ref : CallRef) (addr : Nat) (touch : rules.touched t)
      (free : addr = 0 ∨ ipUsed before.uaddr addr = false)
      (bare : rules.assigned → ∀ call, before.call? t (.call ref) = some call → call.addr = 0)
      (allow : rules.assigns) (known : (before.call? t (.call ref)).isSome) :
      Op rules env before
        { before.setCall t (.call ref) fun call => { call with addr := addr } with
          uaddr := if addr = 0 then before.uaddr else reserved before.uaddr addr }
  | lease {before : Daemon} (lns own : LnsRef) (entry : Lns) (addr : Nat)
      (found : before.lns? lns = some entry) (ranged : entry.localrange ≠ [])
      (free : addr = 0 ∨ ipUsed before.uaddr addr = false) (allow : rules.assigns) :
      Op rules env before
        { before.setLns own fun entry => { entry with localaddr := addr } with
          uaddr := if addr = 0 then before.uaddr else reserved before.uaddr addr }
  | hello {before : Daemon} (t : TunnelRef) (delay : Timeval) (touch : rules.touched t)
      (allow : rules.hellos) : Op rules env before (before.scheduled delay (.hello t))
  | queue {before : Daemon} (delay : Timeval) (buffer : Buffer)
      (touch : rules.touched buffer.tunnel) :
      Op rules env before (before.scheduled delay (.controlXmit buffer))
  | expire {before : Daemon} (entry : Entry) (rest : List Entry) (allow : rules.expires)
      (head : before.events = entry :: rest) : Op rules env before { before with events := rest }
  | deschedule {before : Daemon} (t : TunnelRef) (touch : rules.touched t)
      (allow : rules.destroys) :
      Op rules env before
        { before with events := before.events.filter fun entry => !entry.event.belongs t }
  | retry {before : Daemon} (lac : LacRef) (idle : rules.single → before.Idle lac)
      (dial : rules.dialed lac) :
      Op rules env before
        (before.setLac lac fun entry => { entry with rsched := none, rtries := entry.rtries + 1 })
  | postpone {before after : Daemon} (lac : LacRef) (idle : rules.single → before.Idle lac)
      (ran : scheduleRedial lac before = .ok () after) (dial : rules.dialed lac) :
      Op rules env before after
  | addLac {before : Daemon} (entry : Lac)
      (blank : entry.book = ⟨before.fresh, none, none, none⟩) :
      Op rules env before
        { before with fresh := before.fresh + 1, laclist := entry :: before.laclist }
  | dropLac {before after : Daemon} (lac : LacRef) (touch : ∀ t, rules.touched t)
      (ran : forsake lac before = .ok () after) (kept : rules.kept → after.UnheldLac lac) :
      Op rules env before after
  | addLns {before : Daemon} (entry : Lns) (named : entry.ref = before.fresh)
      (plain : entry.localrange = []) :
      Op rules env before
        { before with fresh := before.fresh + 1, lnslist := entry :: before.lnslist }
  | editLns {before : Daemon} (lns : LnsRef) (change : Lns → Lns) (allow : rules.edits)
      (named : ∀ entry, (change entry).ref = entry.ref) :
      Op rules env before (before.setLns lns change)
  | dropLns {before : Daemon} (lns : LnsRef) (kept : rules.kept → before.UnheldLns lns) :
      Op rules env before
        { before with lnslist := Keyed.remove Lns.ref lns before.lnslist }

/-! ## Rules for programs -/

/-- A run of the program that returns is a sequence of permitted entries. -/
abbrev Ops (rules : Rules) (env : Env) {Value : Type} (program : Prog Value) (state : Daemon) :
    Prop :=
  Yields (Op rules env) program state

theorem Aside.refl (state : Daemon) : Aside state state :=
  ⟨rfl, rfl, rfl, rfl, rfl, rfl, rfl, Nat.le_refl _, Nat.le_refl _, List.prefix_rfl⟩

section Rules

variable {rules : Rules} {env : Env} {Value Other : Type} {state : Daemon} {t : TunnelRef}
  {c : CallId} {change : Call → Call}

/-! ### Stores that the books do not show -/

theorem deed_setCall_same {tunnel : Tunnel} (keeps : ∀ call, (change call).deed = call.deed) :
    (tunnel.setCall c change).deed = tunnel.deed := by
  cases c with
  | self =>
    simp only [Tunnel.setCall, Tunnel.deed]
    rw [keeps]
  | call ref =>
    simp only [Tunnel.setCall, Tunnel.deed]
    rw [Keyed.map_update_same keeps]

theorem ops_storeTunnel {change : Tunnel → Tunnel} (touch : rules.touched t)
    (keeps : ∀ tunnel, (change tunnel).deed = tunnel.deed) :
    Ops rules env (writeTunnel t change) state :=
  yields_readTunnel fun _ _ => yields_modify (.store t change touch keeps)

theorem op_storeCall (touch : rules.touched t) (keeps : ∀ call, (change call).deed = call.deed) :
    Op rules env state (state.setCall t c change) :=
  .store t (fun tunnel => tunnel.setCall c change) touch fun _ => deed_setCall_same keeps

theorem ops_storeCall (touch : rules.touched t) (keeps : ∀ call, (change call).deed = call.deed) :
    Ops rules env (writeCall t c change) state :=
  yields_readCall fun _ _ => yields_modify (op_storeCall touch keeps)

/-! ### Changes outside the books -/

theorem hush_same {before after : Daemon} (trace : after.trace = before.trace) :
    ∀ note ∈ after.trace.drop before.trace.length, rules.hushes note := by
  rw [trace, List.drop_length]
  exact fun note member => absurd member List.not_mem_nil

theorem ops_aside {change : Daemon → Daemon} (same : Aside state (change state))
    (listed : (change state).laclist = state.laclist) (trace : (change state).trace = state.trace) :
    Ops rules env (modify change) state :=
  yields_modify (.aside same (fun _ => congrArg _ listed) (hush_same trace))

theorem op_emit {observed : Obs} (other : rules.hushes observed) :
    Op rules env state (state.emit observed) := by
  refine .aside ⟨rfl, rfl, rfl, rfl, rfl, rfl, rfl, Nat.le_refl _, Nat.le_refl _,
    List.prefix_append _ _⟩ (fun _ => rfl) ?_
  intro note member
  have new : note ∈ (state.trace ++ [observed]).drop state.trace.length := member
  rw [List.drop_left, List.mem_singleton] at new
  exact new ▸ other

theorem ops_emit {observed : Obs} (other : rules.hushes observed) :
    Ops rules env (emit observed) state := yields_modify (op_emit other)

theorem ops_storeLac {lac : LacRef} {change : Lac → Lac}
    (keeps : ∀ entry, (change entry).book = entry.book)
    (still : ¬ rules.toggles → ∀ entry, (change entry).switch = entry.switch) :
    Ops rules env (writeLac lac change) state :=
  yields_readLac fun _ _ => yields_modify (.aside
    ⟨rfl, rfl, rfl, rfl, Keyed.map_update_same keeps, rfl, rfl, Nat.le_refl _, Nat.le_refl _,
      List.prefix_rfl⟩
    (fun strict => Keyed.map_update_same (still strict)) (hush_same rfl))

theorem aside_setLns {lns : LnsRef} {change : Lns → Lns}
    (keeps : ∀ entry, (change entry).book = entry.book) : Aside state (state.setLns lns change) := by
  refine ⟨rfl, rfl, rfl, rfl, rfl, Keyed.map_update_same keeps, ?_, Nat.le_refl _, Nat.le_refl _,
    List.prefix_rfl⟩
  simp only [Daemon.setLns, Option.map_map]
  congr 1
  funext entry
  simp only [Function.comp]
  split
  · exact keeps entry
  · rfl

theorem ops_getEntropy {count : Nat} : Ops rules env (getEntropy env count) state := by
  apply yields_once
  intro entropy after ran
  cases ran
  exact .aside ⟨rfl, rfl, rfl, rfl, rfl, rfl, rfl, Nat.le_refl _, Nat.le_add_right _ _,
    List.prefix_rfl⟩ (fun _ => rfl) (hush_same rfl)

theorem ops_askSystem {Answer : Type} {answers : Nat → Answer} :
    Ops rules env (askSystem answers) state := by
  apply yields_once
  intro answer after ran
  cases ran
  exact .aside ⟨rfl, rfl, rfl, rfl, rfl, rfl, rfl, Nat.le_refl _, Nat.le_refl _, List.prefix_rfl⟩
    (fun _ => rfl) (hush_same rfl)

theorem schedule_ok {delay : Timeval} {event : Event} {id : Nat} {after : Daemon}
    (ran : schedule delay event state = .ok id after) :
    id = state.fresh ∧ after = state.scheduled delay event := by
  cases ran
  exact ⟨rfl, rfl⟩

end Rules

end Xl2tpd
