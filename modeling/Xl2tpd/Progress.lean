import Xl2tpd.Auth
import Xl2tpd.Runs
import Xl2tpd.Ledger.Books
import Xl2tpd.Numbers

/-!
# States only advance

As long as every Message Type AVP is mandatory the branches of the state machine are entered in
the states they are written for. The state of a tunnel then never goes back, a call moves along
one of its three paths, and what is done on the way is done once.
-/

namespace Xl2tpd

set_option autoImplicit false

open Program

variable {base : Nat} {first second view : View} {core : TunnelCore} {action : Action}
  {input : Input} {datagram : Datagram} {entered : Entered}

variable {env : Env} {state before after : Daemon} {t u : TunnelRef} {c : CallId}
  {connects hellos : TunnelRef → Nat} {middle : Daemon} {allowed : Action → Prop}

/-! ## The order of the states -/

def TunnelState.rank : TunnelState → Nat
  | .idle => 0
  | .SCCRQ => 1
  | .SCCRP => 2
  | .SCCCN => 3

/-- The moves of a call: one that we place is answered, one that we take is connected. -/
inductive CallState.Next : CallState → CallState → Prop
  | place : Next .idle .ICRQ
  | answered : Next .ICRQ .ICCN
  | take : Next .idle .ICRP
  | connected : Next .ICRP .ICCN
  | dial : Next .idle .OCRQ

theorem CallState.up_stays {later : CallState}
    (path : Relation.ReflTransGen CallState.Next .ICCN later) : later = .ICCN := by
  induction path with
  | refl => rfl
  | tail _ next ih =>
    subst ih
    cases next

/-! ## Advances of the abstract daemon -/

/-- The call of an identifier was there before the given reference was drawn. -/
def CallId.older (base : Nat) : CallId → Prop
  | .self => True
  | .call ref => ref < base

/-- A later state of a tunnel, as far as calls older than the given reference go. -/
structure TunnelCore.Ahead (base : Nat) (old core : TunnelCore) : Prop where
  state : old.state.rank ≤ core.state.rank
  calls : ∀ c call, CallId.older base c → core.call? c = some call →
    ∃ first, old.call? c = some first ∧ Relation.ReflTransGen CallState.Next first.state call.state

/-- A later state of the daemon, as far as tunnels and calls older than the given
reference go. -/
structure View.Ahead (base : Nat) (start view : View) : Prop where
  fresh : base ≤ view.fresh
  tunnels : ∀ t core, t < base → view.tunnel? t = some core →
    ∃ old, start.tunnel? t = some old ∧ old.Ahead base core

theorem TunnelCore.Ahead.refl (base : Nat) (core : TunnelCore) : core.Ahead base core :=
  ⟨Nat.le_refl _, fun _ call _ found => ⟨call, found, .refl⟩⟩

theorem TunnelCore.Ahead.trans {later : Nat} {first second third : TunnelCore}
    (one : first.Ahead base second) (two : second.Ahead later third) (grew : base ≤ later) :
    first.Ahead base third := by
  refine ⟨one.state.trans two.state, fun c call older found => ?_⟩
  have olderStill : c.older later := by
    cases c with
    | self => trivial
    | call ref => exact Nat.lt_of_lt_of_le older grew
  obtain ⟨middle, foundMiddle, path⟩ := two.calls c call olderStill found
  obtain ⟨start, foundStart, early⟩ := one.calls c middle older foundMiddle
  exact ⟨start, foundStart, early.trans path⟩

theorem View.Ahead.refl (view : View) : View.Ahead view.fresh view view :=
  ⟨Nat.le_refl _, fun _ core _ found => ⟨core, found, .refl _ core⟩⟩

theorem View.Ahead.trans {third : View} (one : View.Ahead base first second)
    (two : View.Ahead second.fresh second third) :
    View.Ahead base first third := by
  refine ⟨one.fresh.trans two.fresh, fun t core older found => ?_⟩
  obtain ⟨middle, foundMiddle, late⟩ := two.tunnels t core (older.trans_le one.fresh) found
  obtain ⟨start, foundStart, early⟩ := one.tunnels t middle older foundMiddle
  exact ⟨start, foundStart, early.trans late one.fresh⟩

theorem TunnelCore.Ahead.same {old : TunnelCore} (state : core.state = old.state)
    (calls : ∀ c call, core.call? c = some call →
      ∃ first, old.call? c = some first ∧ call.state = first.state) : old.Ahead base core := by
  refine ⟨Nat.le_of_eq (congrArg _ state.symm), fun c call _ found => ?_⟩
  obtain ⟨first, foundFirst, same⟩ := calls c call found
  exact ⟨first, foundFirst, same ▸ .refl⟩

theorem TunnelCore.Ahead.setCall {d : CallId} {change : CallCore → CallCore}
    (named : ∀ call, (change call).ref = call.ref) (moves : ∀ call, core.call? d = some call →
      Relation.ReflTransGen CallState.Next call.state (change call).state) :
    core.Ahead base (core.setCall d change) := by
  refine ⟨by cases d <;> exact Nat.le_refl _, fun c call _ found => ?_⟩
  rw [TunnelCore.call_setCall named] at found
  split at found
  · rename_i same
    subst same
    obtain ⟨first, foundFirst, rfl⟩ := Option.map_eq_some_iff.mp found
    exact ⟨first, foundFirst, moves first foundFirst⟩
  · exact ⟨call, found, .refl⟩

theorem find_detached {ref target : CallRef} {calls : List CallCore} {call : CallCore}
    (found : Keyed.find CallCore.ref target (detached ref calls) = some call) :
    ∃ first, Keyed.find CallCore.ref target calls = some first ∧ call.state = first.state := by
  have whole : calls = (calls.takeWhile fun call => call.ref ≠ ref) ++
      calls.dropWhile fun call => call.ref ≠ ref := (List.takeWhile_append_dropWhile).symm
  unfold detached at found
  rw [whole]
  generalize (calls.takeWhile fun call => call.ref ≠ ref) = kept at found ⊢
  generalize (calls.dropWhile fun call => call.ref ≠ ref) = cleared at found ⊢
  rw [Keyed.find_append] at found ⊢
  cases early : Keyed.find CallCore.ref target kept with
  | some first =>
    rw [early, Option.some_or] at found
    rw [Option.some_or]
    cases found
    exact ⟨call, rfl, rfl⟩
  | none =>
    rw [early, Option.none_or, Keyed.find_map (by intro _; rfl)] at found
    rw [Option.none_or]
    obtain ⟨first, foundFirst, rfl⟩ := Option.map_eq_some_iff.mp found
    exact ⟨first, foundFirst, rfl⟩

theorem CallMove.ahead {d : CallId} {change : CallMove}
    (enabled : change.enabled .admission core d) :
    core.Ahead base (core.setCall d change.apply) := by
  refine TunnelCore.Ahead.setCall change.apply_ref fun call found => ?_
  cases change with
  | enter next =>
    cases next with
    | idle => exact enabled.elim
    | ICRP =>
      have idle : call.state = .idle := ((enabled.2 trivial).2.2 call found).2
      exact idle ▸ .single .take
    | ICCN =>
      rcases enabled trivial call found with placed | taken
      · exact placed ▸ .single .answered
      · exact taken ▸ .single .connected
    | ICRQ =>
      have idle : call.state = .idle := enabled.2.2 trivial call found
      exact idle ▸ .single .place
    | OCRQ =>
      have idle : call.state = .idle := enabled.2.2 trivial call found
      exact idle ▸ .single .dial
  | timeout =>
    simp only [CallMove.apply]
    split <;> exact .refl
  | _ => exact .refl

theorem Move.ahead {change : Move} (enabled : change.enabled .admission view core)
    (old : base ≤ view.fresh) :
    core.Ahead base (change.apply core) := by
  have keeps : ∀ c call, core.call? c = some call →
      ∃ first, core.call? c = some first ∧ call.state = first.state :=
    fun c call found => ⟨call, found, rfl⟩
  have owners : ∀ (core' : TunnelCore) (lns lac : Option Nat), core'.state = core.state →
      core'.calls = core.calls → core'.self = { core.self with lns := lns, lac := lac } →
      core.Ahead base core' := by
    intro core' lns lac state calls self
    refine .same state fun c call found => ?_
    cases c with
    | self =>
      refine ⟨core.self, rfl, ?_⟩
      cases found
      rw [self]
    | call ref =>
      refine ⟨call, ?_, rfl⟩
      simp only [TunnelCore.call?, calls] at found ⊢
      exact found
  cases change with
  | hostname | choose | challenged | verify | expect | miscount => exact .same rfl keeps
  | adopt lns lac => exact owners _ lns lac rfl rfl rfl
  | disown => exact owners _ core.self.lns none rfl rfl rfl
  | request =>
    have idle : core.state = .idle := enabled.1 trivial
    refine ⟨?_, fun c call _ found => ⟨call, found, .refl⟩⟩
    rw [idle]
    exact Nat.zero_le _
  | answer =>
    have opening : core.state.opening = true := enabled.2 trivial
    refine ⟨?_, fun c call _ found => ⟨call, found, .refl⟩⟩
    change core.state.rank ≤ 2
    revert opening
    cases core.state <;> simp [TunnelState.opening, TunnelState.rank]
  | acked d nr =>
    have counted : core.Ahead base { core with cLr := nr.toNat } := .same rfl keeps
    have released : TunnelCore.Ahead base { core with cLr := nr.toNat }
        (({ core with cLr := nr.toNat } : TunnelCore).setCall d fun found => found.acked nr.toNat) :=
      .setCall (fun _ => rfl) fun _ _ => .refl
    exact counted.trans released (Nat.le_refl base)
  | addCall added =>
    refine ⟨Nat.le_refl _, fun c call older found => ?_⟩
    cases c with
    | self => exact ⟨call, found, .refl⟩
    | call ref =>
      refine ⟨call, ?_, .refl⟩
      have new : ref < added.ref := (show ref < base from older).trans_le (old.trans enabled.1)
      have apart : ¬ added.ref = ref := Nat.ne_of_gt new
      change Keyed.find CallCore.ref ref (added :: core.calls) = some call at found
      rw [Keyed.find_cons, if_neg apart] at found
      exact found
  | dropCall ref =>
    refine .same rfl fun c call found => ⟨call, ?_, rfl⟩
    cases c with
    | self => exact found
    | call target => exact Keyed.find_of_remove found
  | detach ref =>
    refine .same rfl fun c call found => ?_
    cases c with
    | self => exact ⟨call, found, rfl⟩
    | call target => exact find_detached found
  | call d change => exact CallMove.ahead enabled

theorem Action.ahead (enabled : action.enabled .admission env view)
    (found : view.tunnel? t = some core) (old : base ≤ view.fresh) :
    core.Ahead base (action.core t core) := by
  have keeps : ∀ core' : TunnelCore, core'.state = core.state → core'.self = core.self →
      core'.calls = core.calls → core.Ahead base core' := by
    intro core' state self calls
    refine .same state fun c call found => ⟨call, ?_, rfl⟩
    cases c <;> simp only [TunnelCore.call?, self, calls] at found ⊢ <;> exact found
  cases action with
  | move u change =>
    unfold Action.core
    dsimp only
    split
    · rename_i same
      obtain ⟨_, foundSame, enabled⟩ := enabled
      rw [← same, found] at foundSame
      cases foundSame
      exact change.ahead enabled old
    · exact .refl base core
  | establish tunnel =>
    unfold Action.core
    dsimp only
    split
    · refine ⟨?_, fun c call _ found => ⟨call, ?_, .refl⟩⟩
      · change core.state.rank ≤ 3
        cases core.state <;> decide
      · cases c <;> exact found
    · exact .refl base core
  | draw | accept | send =>
    unfold Action.core
    dsimp only
    split
    · exact keeps _ rfl rfl rfl
    · exact .refl base core
  | _ => exact .refl base core

theorem acts_ahead {start : View} (acts : Acts .admission env allowed first second)
    (ahead : View.Ahead base start first) :
    View.Ahead base start second := by
  cases acts with
  | quiet same =>
    refine ⟨ahead.fresh.trans same.fresh, fun t core older found => ahead.tunnels t core older ?_⟩
    rw [View.tunnel?, ← same.tunnels]
    exact found
  | act action _ enabled =>
    refine ⟨ahead.fresh.trans (action.fresh_le enabled), fun t core older found => ?_⟩
    rcases action.found found with ⟨selfRef, rfl, rfl⟩ | ⟨old, foundOld, rfl⟩
    · have new : t = first.fresh := enabled
      exact absurd older (Nat.not_lt.mpr (new ▸ ahead.fresh))
    · obtain ⟨begin, foundBegin, early⟩ := ahead.tunnels t old older foundOld
      exact ⟨begin, foundBegin,
        early.trans (action.ahead enabled foundOld ahead.fresh) (Nat.le_refl base)⟩

theorem sim_ahead {Value : Type} {program : Prog Value} {value : Value}
    (sim : Sim .admission env (fun _ => True) program before)
    (ran : program before = .ok value after) :
    View.Ahead before.fresh before.view after.view :=
  leads_ok_invariant sim ran (fun _ _ => acts_ahead) (View.Ahead.refl before.view)

theorem exec_admission (steady : state.steady env input) :
    Sim .admission env (fun _ => True) (exec env input) state := by
  refine exec_sim allows_any (fun impossible => impossible.elim) (fun _ _ _ => allows_any) ?_
  rintro datagram rfl
  exact receive_sim allows_any (fun _ _ _ _ _ _ _ => delivers_any)
    (fun _ _ _ _ _ _ => misdelivers_any) fun _ => steady

/-! ## A tunnel is established once -/

def Obs.establishes (t : TunnelRef) : Obs → Bool
  | .established tunnel _ _ => tunnel.ref = t
  | _ => false

/-- No tunnel has been established twice, and none before it is in `SCCCN`. -/
structure View.Once (view : View) : Prop where
  old : ∀ t core, view.tunnel? t = some core → t < view.fresh
  unborn : ∀ t, view.fresh ≤ t → view.trace.countP (Obs.establishes t) = 0
  opening : ∀ t core, view.tunnel? t = some core → core.state ≠ .SCCCN →
    view.trace.countP (Obs.establishes t) = 0
  once : ∀ t, view.trace.countP (Obs.establishes t) ≤ 1

theorem TunnelState.rank_top {first last : TunnelState} (le : first.rank ≤ last.rank)
    (other : last ≠ .SCCCN) : first ≠ .SCCCN := by
  rintro rfl
  revert le other
  cases last <;> simp [TunnelState.rank]

theorem View.Once.keep (once : first.Once) (fresh : first.fresh ≤ second.fresh)
    (tunnels : ∀ t core, second.tunnel? t = some core →
      (t = first.fresh ∧ t < second.fresh) ∨
        ∃ old, first.tunnel? t = some old ∧ old.state.rank ≤ core.state.rank)
    (counts : ∀ t, second.trace.countP (Obs.establishes t) =
      first.trace.countP (Obs.establishes t)) : second.Once where
  old := by
    intro t core found
    rcases tunnels t core found with ⟨_, new⟩ | ⟨old, foundOld, _⟩
    · exact new
    · exact (once.old t old foundOld).trans_le fresh
  unborn := fun t unborn => (counts t).trans (once.unborn t (fresh.trans unborn))
  opening := by
    intro t core found other
    rw [counts]
    rcases tunnels t core found with ⟨rfl, _⟩ | ⟨old, foundOld, rank⟩
    · exact once.unborn _ (Nat.le_refl _)
    · exact once.opening t old foundOld (TunnelState.rank_top rank other)
  once := fun t => (counts t).trans_le (once.once t)

theorem Action.adds_establishes (enabled : action.enabled .admission env view)
    (other : ∀ tunnel lns lac, action ≠ .establish tunnel lns lac) :
    action.adds.countP (Obs.establishes t) = 0 := by
  cases action with
  | establish tunnel lns lac => exact absurd rfl (other tunnel lns lac)
  | note observed =>
    have typing : (observed.typing || observed.starting) = true := enabled
    cases observed <;> simp [Obs.typing, Obs.starting] at typing <;> rfl
  | send buffer fate => cases fate <;> rfl
  | resend buffer fate => cases fate <;> rfl
  | _ => rfl

theorem Action.once (enabled : action.enabled .admission env view) (once : view.Once) :
    (action.apply view).Once := by
  by_cases other : ∀ tunnel lns lac, action ≠ .establish tunnel lns lac
  · refine once.keep (action.fresh_le enabled) (fun t core found => ?_) fun t => ?_
    · rcases action.found found with ⟨selfRef, rfl, rfl⟩ | ⟨old, foundOld, rfl⟩
      · have new : t = view.fresh := enabled
        exact .inl ⟨new, Nat.lt_add_of_pos_right (by decide)⟩
      · exact .inr ⟨old, foundOld, (action.ahead enabled foundOld (Nat.le_refl _)).state⟩
    · rw [action.apply_trace, List.countP_append, Action.adds_establishes enabled other]
      rfl
  · simp only [not_forall, not_not] at other
    obtain ⟨tunnel, lns, lac, rfl⟩ := other
    obtain ⟨core, found, _, _, _, _, entering⟩ := enabled
    have waiting : core.state ≠ .SCCCN := by
      rcases entering with answered | ⟨requested, _⟩
      · rw [answered trivial]
        nofun
      · rw [requested trivial]
        nofun
    have none := once.opening tunnel.ref core found waiting
    have counts : ∀ u, ((Action.establish tunnel lns lac).apply view).trace.countP
        (Obs.establishes u) = view.trace.countP (Obs.establishes u) +
          if tunnel.ref = u then 1 else 0 := by
      intro u
      rw [Action.apply_trace, List.countP_append]
      simp [Action.adds, Obs.establishes]
    have named : ∀ u core', ((Action.establish tunnel lns lac).apply view).tunnel? u = some core' →
        ∃ old, view.tunnel? u = some old ∧
          core' = if u = tunnel.ref then { old with state := .SCCCN } else old :=
      fun u core' => View.tunnel_setTunnel_some (by intro _; rfl)
    refine ⟨fun u core' foundNew => ?_, fun u unborn => ?_, fun u core' foundNew other => ?_,
      fun u => ?_⟩
    · obtain ⟨old, foundOld, _⟩ := named u core' foundNew
      exact once.old u old foundOld
    · have apart : ¬ tunnel.ref = u := by
        rintro rfl
        exact absurd (once.old _ core found) (Nat.not_lt.mpr unborn)
      rw [counts, if_neg apart]
      exact once.unborn u unborn
    · obtain ⟨old, foundOld, rfl⟩ := named u core' foundNew
      split at other
      · exact absurd rfl other
      · rename_i apart
        rw [counts, if_neg (Ne.symm apart)]
        exact once.opening u old foundOld other
    · rw [counts]
      split
      · rename_i same
        rw [← same, none]
      · exact once.once u

theorem acts_once (acts : Acts .admission env allowed first second) (once : first.Once) :
    second.Once := by
  cases acts with
  | quiet same =>
    refine once.keep same.fresh (fun t core found => .inr ⟨core, ?_, Nat.le_refl _⟩) fun t => ?_
    · rw [View.tunnel?, ← same.tunnels]
      exact found
    · obtain ⟨notes, trace, silent⟩ := same.trace
      have none : notes.countP (Obs.establishes t) = 0 := by
        rw [List.countP_eq_zero]
        intro note member
        have quiet := silent note member
        cases note <;> simp_all [Obs.silent, Obs.establishes]
      rw [trace, List.countP_append, none]
      rfl
  | act action _ enabled => exact action.once enabled once

theorem Booted.once (booted : Booted state) : state.view.Once := by
  have none : ∀ t core, state.view.tunnel? t ≠ some core := by
    intro t core found
    have empty : state.view.tunnels = [] := by simp [Daemon.view, booted.tunnels]
    unfold View.tunnel? at found
    rw [empty] at found
    cases found
  have silent : state.view.trace = [] := booted.trace
  refine ⟨fun t core found => absurd found (none t core), fun t _ => ?_,
    fun t core found => absurd found (none t core), fun t => ?_⟩
  · rw [silent]
    rfl
  · rw [silent]
    exact Nat.zero_le _

/-! ## The kernel and the hellos -/

def Obs.connectsTo (t : TunnelRef) : Obs → Bool
  | .connectPppol2tp tunnel => tunnel = t
  | _ => false

def Daemon.established (state : Daemon) (t : TunnelRef) : Nat :=
  state.trace.countP (Obs.establishes t)

def Daemon.connected (state : Daemon) (t : TunnelRef) : Nat :=
  state.trace.countP (Obs.connectsTo t)

def Daemon.greetings (state : Daemon) (t : TunnelRef) : Nat :=
  state.events.countP fun entry => entry.event = .hello t

structure Calms (before after : Daemon) : Prop where
  established : ∀ t, before.established t ≤ after.established t
  connected : ∀ t, after.connected t ≤ before.connected t
  greetings : ∀ t, after.greetings t ≤ before.greetings t

/-- The kernel is told of a tunnel, and a hello scheduled, no more often than it is established. -/
structure Earns (connects hellos : TunnelRef → Nat) (before after : Daemon) : Prop where
  connects : ∀ t, after.connected t + connects t + before.established t ≤
    before.connected t + after.established t
  hellos : ∀ t, after.greetings t + hellos t + before.established t ≤
    before.greetings t + after.established t

theorem Earns.refl (state : Daemon) : Earns (fun _ => 0) (fun _ => 0) state state :=
  ⟨fun _ => Nat.le_refl _, fun _ => Nat.le_refl _⟩

theorem Earns.calm (earns : Earns connects hellos before middle) (calms : Calms middle after) :
    Earns connects hellos before after where
  connects := by
    intro t
    have early := earns.connects t
    have established := calms.established t
    have connected := calms.connected t
    omega
  hellos := by
    intro t
    have early := earns.hellos t
    have established := calms.established t
    have greetings := calms.greetings t
    omega

theorem Farewell.mute {first second : List Obs} (farewell : Farewell first second) :
    ∃ notes, second = first ++ notes ∧ ∀ note ∈ notes, note.connects = false := by
  rcases farewell with rfl | ⟨pid, rfl⟩
  · exact ⟨[], (List.append_nil _).symm, List.forall_mem_nil _⟩
  · refine ⟨_, rfl, fun note member => ?_⟩
    rw [List.mem_singleton.mp member]
    rfl

variable {rules : Rules} {success : Bool} {call : Call}

theorem Op.mute (strict : ¬ rules.hellos) (op : Op rules env before after) :
    ∃ notes, after.trace = before.trace ++ notes ∧ ∀ note ∈ notes, note.connects = false := by
  have still : ∀ later : Daemon, later.trace = before.trace →
      ∃ notes, later.trace = before.trace ++ notes ∧ ∀ note ∈ notes, note.connects = false :=
    fun later same => ⟨[], same.trans (List.append_nil _).symm, List.forall_mem_nil _⟩
  cases op with
  | aside same _ hush =>
    obtain ⟨notes, grown⟩ := same.trace
    refine ⟨notes, grown.symm, fun note member => (hush note ?_).2 strict⟩
    rw [← grown, List.drop_left]
    exact member
  | inherit t c mandatory =>
    refine ⟨[.verdict t c .ICRQ mandatory true], rfl, fun note member => ?_⟩
    rw [List.mem_singleton.mp member]
    rfl
  | destroyCall t ref _ _ ran =>
    obtain ⟨_, _, _, _, _, farewell, ran⟩ := destroyCall_ok ran
    have last := (forgetCall_frame ran).trace
    exact Farewell.mute (last ▸ farewell)
  | bury t tunnel _ _ _ _ ran => exact (bury_trace ran).mute
  | link tunnel lac | place t tunnel call lac => exact still _ (by cases lac <;> rfl)
  | postpone lac _ ran => exact still _ (scheduleRedial_frame ran).trace
  | dropLac lac _ ran _ => exact still _ (forsake_frame ran).trace
  | _ => exact still _ rfl

theorem countP_insertEntry {test : Entry → Bool} {entry : Entry} {entries : List Entry} :
    (insertEntry entry entries).countP test =
      entries.countP test + if test entry = true then 1 else 0 := by
  induction entries with
  | nil => simp [insertEntry, List.countP_cons]
  | cons head rest ih =>
    unfold insertEntry
    split
    · rw [List.countP_cons]
    · rw [List.countP_cons, List.countP_cons, ih]
      omega

theorem greetings_scheduled {delay : Timeval} {event : Event} :
    (state.scheduled delay event).greetings t =
      state.greetings t + if event = .hello t then 1 else 0 := by
  unfold Daemon.greetings
  have counted := @countP_insertEntry (fun entry => decide (entry.event = .hello t))
    ⟨state.fresh, state.now.after delay, event⟩ state.events
  simp only [decide_eq_true_eq] at counted
  exact counted

theorem greetings_timers :
    state.greetings t = (state.timers t).countP fun entry => entry.event = .hello t := by
  unfold Daemon.greetings Daemon.timers
  rw [List.countP_filter]
  refine List.countP_congr fun entry _ => ?_
  simp only [decide_eq_true_eq, Bool.and_eq_true]
  refine ⟨fun isHello => ⟨isHello, ?_⟩, fun both => both.1⟩
  rw [isHello]
  exact decide_eq_true rfl

theorem greetings_of_timers (same : after.timers t = before.timers t) :
    after.greetings t = before.greetings t := by
  rw [greetings_timers, greetings_timers, same]

theorem Op.hushed (strict : ¬ rules.hellos) (op : Op rules env before after) :
    after.greetings t ≤ before.greetings t := by
  have still : ∀ later : Daemon, later.events = before.events →
      later.greetings t ≤ before.greetings t := by
    intro later same
    unfold Daemon.greetings
    rw [same]
  cases op with
  | aside same => exact still _ same.events
  | hello u delay _ allow => exact absurd allow strict
  | queue delay buffer =>
    rw [greetings_scheduled, if_neg (by nofun)]
    exact Nat.le_refl _
  | expire entry rest _ head =>
    unfold Daemon.greetings
    rw [head]
    exact (List.sublist_cons_self _ _).countP_le
  | deschedule => exact List.filter_sublist.countP_le
  | destroyCall _ ref _ _ ran => exact (greetings_of_timers (destroyCall_timers ran)).le
  | bury _ tunnel _ _ _ _ ran => exact (greetings_of_timers (bury_timers ran)).le
  | postpone lac _ ran => exact (greetings_of_timers (scheduleRedial_timers ran)).le
  | dropLac lac _ ran _ => exact still _ (forsake_frame ran).events
  | link tunnel lac | place _ tunnel call lac => exact still _ (by cases lac <;> rfl)
  | _ => exact still _ rfl

theorem Op.calms (strict : ¬ rules.hellos) (op : Op rules env before after) :
    Calms before after where
  established := fun _ => op.grows.trace.sublist.countP_le
  connected := by
    intro t
    obtain ⟨notes, trace, mute⟩ := op.mute strict
    have none : notes.countP (Obs.connectsTo t) = 0 := by
      rw [List.countP_eq_zero]
      intro note member
      have quiet := mute note member
      cases note <;> simp_all [Obs.connects, Obs.connectsTo]
    unfold Daemon.connected
    rw [trace, List.countP_append, none]
    exact Nat.le_refl _
  greetings := fun _ => op.hushed strict

/-- The rules without limits, but that no tunnel is greeted. -/
def Rules.calm : Rules := { Rules.free with hellos := False }

theorem Rules.calm_wide : Rules.calm.Wide :=
  ⟨fun _ => trivial, trivial, trivial, trivial⟩

theorem Rules.calm_loose : Rules.calm.Loose := ⟨id, fun _ => trivial, fun _ => trivial⟩

theorem Earns.steps (earns : Earns connects hellos before middle)
    (steps : Relation.ReflTransGen (Op Rules.calm env) middle after) :
    Earns connects hellos before after := by
  induction steps with
  | refl => exact earns
  | tail _ op ih => exact ih.calm (op.calms id)

theorem Earns.ops {Value : Type} {program : Prog Value} {value : Value}
    (earns : Earns connects hellos before middle) (ops : Ops Rules.calm env program middle)
    (ran : program middle = .ok value after) :
    Earns connects hellos before after := earns.steps (ops value after ran)

def owed (t u : TunnelRef) : Nat := if t = u then 1 else 0

section Branches

variable {connects hellos : TunnelRef → Nat} {middle : Daemon}

theorem established_emit {note : Obs} (u : TunnelRef) : (state.emit note).established u =
    state.established u + if note.establishes u = true then 1 else 0 := by
  unfold Daemon.established Daemon.emit
  rw [List.countP_append, List.countP_singleton]

theorem connected_emit {note : Obs} (u : TunnelRef) : (state.emit note).connected u =
    state.connected u + if note.connectsTo u = true then 1 else 0 := by
  unfold Daemon.connected Daemon.emit
  rw [List.countP_append, List.countP_singleton]

theorem establish_earns (earns : Earns (fun _ => 0) (fun _ => 0) before middle)
    (ran : establish t middle = .ok () after) : Earns (owed t) (owed t) before after := by
  obtain ⟨_, _, wrote, ran⟩ := bind_ok.mp ran
  obtain ⟨_, _, rfl⟩ := writeTunnel_ok wrote
  obtain ⟨tunnel, found, ran⟩ := ok_readTunnel ran
  have named : tunnel.ref = t := Keyed.find_key found
  cases ran
  constructor
  · intro u
    have early := earns.connects u
    rw [established_emit, connected_emit]
    simp only [Obs.establishes, Obs.connectsTo, named, decide_eq_true_eq, owed,
      Bool.false_eq_true, if_false]
    change middle.connected u + 0 + _ + _ ≤ before.connected u + (middle.established u + _)
    omega
  · intro u
    have early := earns.hellos u
    rw [established_emit]
    simp only [Obs.establishes, named, decide_eq_true_eq, owed]
    change middle.greetings u + _ + _ ≤ before.greetings u + (middle.established u + _)
    omega

theorem connectPppol2tp_earns (earns : Earns (owed t) hellos before middle)
    (ran : connectPppol2tp env t middle = .ok () after) : Earns (fun _ => 0) hellos before after := by
  have least : Earns (fun _ => 0) hellos before middle :=
    ⟨fun u => (Nat.add_le_add_right (Nat.add_le_add_left (Nat.zero_le _) _) _).trans
      (earns.connects u), earns.hellos⟩
  unfold connectPppol2tp at ran
  cases kernel : env.kernelSupport with
  | false =>
    rw [kernel] at ran
    cases ran
    exact least
  | true =>
    rw [kernel] at ran
    cases ran
    constructor
    · intro u
      have early := earns.connects u
      rw [established_emit, connected_emit]
      simp only [Obs.establishes, Obs.connectsTo, decide_eq_true_eq, owed,
        Bool.false_eq_true, if_false] at early ⊢
      omega
    · intro u
      rw [established_emit]
      exact earns.hellos u

theorem scheduleHello_earns (earns : Earns connects (owed t) before middle)
    (ran : scheduleHello t middle = .ok () after) : Earns connects (fun _ => 0) before after := by
  obtain ⟨_, _, ran⟩ := ok_readTunnel ran
  obtain ⟨_, _, scheduled, ran⟩ := bind_ok.mp ran
  obtain ⟨_, rfl⟩ := schedule_ok scheduled
  cases ran
  refine ⟨earns.connects, fun u => ?_⟩
  have early := earns.hellos u
  rw [greetings_scheduled]
  have same : (if Event.hello t = .hello u then 1 else 0) = owed t u := by
    simp only [Event.hello.injEq, owed]
  have unseen : (middle.scheduled helloDelay (.hello t)).established u = middle.established u := rfl
  rw [same, unseen]
  omega

theorem refuse_earns {message : String} (earns : Earns connects hellos before middle)
    (ran : refuse t c message middle = .ok success after) : Earns connects hellos before after := by
  obtain ⟨_, _, wrote, ran⟩ := bind_ok.mp ran
  obtain ⟨_, _, _, _, rfl⟩ := writeCall_ok wrote
  cases ran
  exact ⟨earns.connects, earns.hellos⟩

section

variable (earns : Earns (fun _ => 0) (fun _ => 0) before middle)

include earns

theorem finishScccn_earns (ran : finishScccn env t c middle = .ok success after) :
    Earns (fun _ => 0) (fun _ => 0) before after := by
  obtain ⟨tunnel, _, ran⟩ := ok_readTunnel ran
  split at ran
  · exact refuse_earns earns ran
  obtain ⟨_, _, up, ran⟩ := bind_ok.mp ran
  obtain ⟨_, _, ran⟩ := ok_nonNull ran
  obtain ⟨_, _, ran⟩ := ok_deref ran
  obtain ⟨_, _, told, ran⟩ := bind_ok.mp ran
  obtain ⟨_, _, greeted, ran⟩ := bind_ok.mp ran
  cases ran
  exact scheduleHello_earns (connectPppol2tp_earns (establish_earns earns up) told) greeted

theorem answerSccrp_earns {response : Bytes}
    (ran : answerSccrp env t c response middle = .ok () after) :
    Earns (fun _ => 0) (fun _ => 0) before after := by
  obtain ⟨_, first, up, ran⟩ := bind_ok.mp ran
  obtain ⟨_, second, drawn, ran⟩ := bind_ok.mp ran
  obtain ⟨_, third, stored, ran⟩ := bind_ok.mp ran
  obtain ⟨_, fourth, sent, ran⟩ := bind_ok.mp ran
  obtain ⟨_, fifth, told, ran⟩ := bind_ok.mp ran
  obtain ⟨_, sixth, greeted, dialed⟩ := bind_ok.mp ran
  have vector : Ops Rules.calm env (addVector env t) first := addVector_ops trivial
  have store : Ops Rules.calm env (writeCall t c fun call => { call with cnu := false }) second :=
    ops_storeCall trivial fun _ => rfl
  have message : ∀ body, Ops Rules.calm env (sendControl env t c body) third :=
    fun body => sendControl_ops trivial fun _ => trivial
  have dial : Ops Rules.calm env (dialOn env t) sixth :=
    dialOn_ops (fun _ => trivial) fun _ _ _ _ _ _ => Rules.calm_wide.dials Rules.calm_loose
  have owing := ((establish_earns earns up).ops vector drawn).ops store stored
  have paid := scheduleHello_earns (connectPppol2tp_earns (owing.ops (message _) sent) told) greeted
  exact paid.ops dial dialed

theorem finishSccrp_earns (ran : finishSccrp env t c middle = .ok success after) :
    Earns (fun _ => 0) (fun _ => 0) before after := by
  obtain ⟨tunnel, _, ran⟩ := ok_readTunnel ran
  split at ran
  · exact refuse_earns earns ran
  split at ran
  · exact refuse_earns earns ran
  split at ran
  · exact refuse_earns earns ran
  obtain ⟨complaint, first, verified, ran⟩ := bind_ok.mp ran
  have verify : Ops Rules.calm env (verifySccrp env t) middle := verifySccrp_ops trivial
  replace earns := earns.ops verify verified
  cases complaint with
  | some message => exact refuse_earns earns ran
  | none =>
    obtain ⟨response, second, responded, ran⟩ := bind_ok.mp ran
    have respond : Ops Rules.calm env (respondScccn env t) first := respondScccn_ops trivial
    replace earns := earns.ops respond responded
    cases response with
    | none => exact refuse_earns earns ran
    | some response =>
      obtain ⟨_, _, answered, ran⟩ := bind_ok.mp ran
      cases ran
      exact answerSccrp_earns earns answered

end

end Branches

def MsgType.greets : MsgType → Bool
  | .SCCRP | .SCCCN => true
  | _ => false

theorem controlFinish_earns {type : MsgType} (found : middle.call? t c = some call)
    (typed : call.msgtype = some type) (greets : type.greets = true)
    (earns : Earns (fun _ => 0) (fun _ => 0) before middle)
    (ran : controlFinish env t c middle = .ok success after) :
    Earns (fun _ => 0) (fun _ => 0) before after := by
  obtain ⟨tunnel, same, foundTunnel, foundSame, ran⟩ := ok_readCall ran
  cases found.symm.trans (some_call foundTunnel foundSame)
  simp only [typed] at ran
  obtain ⟨_, _, noted, ran⟩ := bind_ok.mp ran
  have note : Ops Rules.calm env (emit (.finish t c type)) middle :=
    ops_emit ⟨rfl, fun _ => rfl⟩
  replace earns := earns.ops note noted
  cases type with
  | SCCRP => exact finishSccrp_earns earns ran
  | SCCCN => exact finishScccn_earns earns ran
  | _ => cases greets

theorem receive_earns (ran : receive env datagram state = .ok () after) :
    Earns (fun _ => 0) (fun _ => 0) state after := by
  by_cases greets : ∃ entered call type, entering env datagram state = some entered ∧
      entered.state.call? entered.tunnel entered.call = some call ∧ call.msgtype = some type ∧
      type.greets = true
  · obtain ⟨entered, call, type, enters, found, typed, greets⟩ := greets
    obtain ⟨success, middle, finish, acks⟩ := receive_entered enters ran
    obtain ⟨linked, lookup, steps⟩ := entering_steps enters
    have looks : Ops Rules.calm env (getCall env datagram.ids.1 datagram.ids.2 datagram.peer
      datagram.refme datagram.refhim) state := getCall_ops (fun _ => trivial)
    have arrives := ((Earns.refl state).ops looks lookup).steps
      (steps Rules.calm trivial trivial)
    have finished := controlFinish_earns found typed greets arrives finish
    have acknowledges : Ops Rules.calm env (acknowledge entered.tunnel entered.call) middle :=
      acknowledge_ops trivial
    exact finished.ops acknowledges acks
  · have dials : ∀ middle lac, Rules.calm.Dials middle lac :=
      fun middle lac => Rules.calm_wide.dials Rules.calm_loose
    have receives : Rules.calm.Receives env datagram state := by
      refine ⟨trivial, fun _ => trivial, fun _ _ _ _ => trivial, fun _ _ _ _ => trivial,
        fun _ _ _ _ => trivial, ?_⟩
      intro entered call type enters found typed
      refine ⟨fun establishes => ?_, fun _ _ _ _ _ _ _ => dials _ _, fun _ => trivial, False.elim⟩
      refine (greets ⟨entered, call, type, enters, found, typed, ?_⟩).elim
      rcases establishes with rfl | rfl <;> rfl
    exact (Earns.refl state).ops (receive_ops receives) ran

theorem fireHello_earns {entry : Entry} {rest : List Entry} (head : state.events = entry :: rest)
    (isHello : entry.event = .hello t) (ran : fireEvent env state = .ok () after) :
    Earns (fun _ => 0) (fun _ => 0) state after := by
  unfold fireEvent at ran
  rw [bind_get] at ran
  simp only [head] at ran
  cases due : entry.tv.lesseq state.now with
  | false =>
    rw [due] at ran
    cases ran
    exact Earns.refl state
  | true =>
    rw [due] at ran
    obtain ⟨_, _, taken, ran⟩ := bind_ok.mp ran
    cases taken
    rw [isHello] at ran
    obtain ⟨_, _, sent, greeted⟩ := bind_ok.mp ran
    -- The timer that fired makes room for the next one.
    have expired : Earns (fun _ => 0) (owed t) state { state with events := rest } := by
      refine ⟨fun _ => Nat.le_refl _, fun u => ?_⟩
      unfold Daemon.greetings
      rw [head, List.countP_cons, isHello]
      simp only [Event.hello.injEq, decide_eq_true_eq, owed]
      exact Nat.le_refl _
    have sends : Ops Rules.calm env (sendControl env t .self (addMessageTypeAvp .Hello))
      { state with events := rest } :=
        sendControl_ops trivial fun _ => trivial
    exact scheduleHello_earns (expired.ops sends sent) greeted

theorem exec_earns (ran : exec env input state = .ok () after) :
    Earns (fun _ => 0) (fun _ => 0) state after := by
  by_cases arrives : ∃ datagram, input = .datagram datagram
  · obtain ⟨datagram, rfl⟩ := arrives
    exact receive_earns ran
  by_cases fires : input = .timer ∧ ∃ entry rest t, state.events = entry :: rest ∧
      entry.event = .hello t
  · obtain ⟨rfl, entry, rest, t, head, isHello⟩ := fires
    exact fireHello_earns head isHello ran
  have dials : ∀ middle lac, Rules.calm.Dials middle lac :=
    fun middle lac => Rules.calm_wide.dials Rules.calm_loose
  refine (Earns.refl state).ops (exec_ops ⟨Rules.calm_wide, fun datagram isDatagram => ?_,
    fun entry rest t isTimer head isHello => ?_, fun _ _ _ _ _ _ => dials _ _,
    fun request isRequest => ?_⟩) ran
  · exact absurd ⟨datagram, isDatagram⟩ arrives
  · exact fires ⟨isTimer, entry, rest, t, head, isHello⟩
  · exact ⟨Rules.calm_wide, fun _ _ _ => trivial, fun _ _ _ _ _ _ _ => dials _ _,
      fun _ _ _ _ => dials _ _, False.elim, False.elim⟩

/-! ## A pppd is started once -/

def Obs.starts (t : TunnelRef) (c : CallId) : Obs → Bool
  | .startPppd u d _ => u = t && d = c
  | _ => false

/-- How often `start_pppd` was called for the call. -/
def Daemon.starts (state : Daemon) (t : TunnelRef) (c : CallId) : Nat :=
  state.trace.countP (Obs.starts t c)

theorem Action.adds_starts (other : action.effect ≠ .start) :
    action.adds.countP (Obs.starts t c) = 0 := by
  have fate : ∀ (buffer : Buffer) (fate : Fate), (fate.adds buffer).countP (Obs.starts t c) = 0 :=
    fun buffer fate => by cases fate <;> rfl
  cases action with
  | send buffer sent => exact (List.countP_cons_of_neg (by simp [Obs.starts])).trans (fate _ _)
  | resend buffer sent => exact fate _ _
  | note observed => cases observed <;> first | rfl | exact absurd rfl other
  | _ => rfl

theorem acts_starts (acts : Acts .none env (fun action => action.effect ≠ .start) first second) :
    second.trace.countP (Obs.starts t c) = first.trace.countP (Obs.starts t c) := by
  cases acts with
  | quiet quiet =>
    obtain ⟨notes, trace, silent⟩ := quiet.trace
    have none : notes.countP (Obs.starts t c) = 0 := by
      refine List.countP_eq_zero.mpr fun note member => ?_
      have unseen := silent note member
      cases note with
      | startPppd => cases unseen
      | _ => simp [Obs.starts]
    rw [trace, List.countP_append, none]
    rfl
  | act action other _ =>
    rw [action.apply_trace, List.countP_append, Action.adds_starts other]
    rfl

theorem sim_starts (env : Env) {Value : Type} {program : Prog Value} {value : Value}
    (sim : Sim .none env (fun action => action.effect ≠ .start) program before)
    (ran : program before = .ok value after) (t : TunnelRef) (c : CallId) :
    after.starts t c = before.starts t c := by
  have steps := leads_ok sim ran
  change after.view.trace.countP (Obs.starts t c) = before.view.trace.countP (Obs.starts t c)
  generalize after.view = last at steps
  induction steps with
  | refl => rfl
  | tail _ acts ih => exact (acts_starts acts).trans ih

/-- What may be counted for one call of `start_pppd`. -/
def due (u : TunnelRef) (d : CallId) (t : TunnelRef) (c : CallId) : Nat :=
  if u = t ∧ d = c then 1 else 0

theorem startPppd_starts {d : CallId} {options : List Bytes}
    (ran : startPppd env u d options before = .ok () after) (t : TunnelRef) (c : CallId) :
    after.starts t c = before.starts t c + due u d t c := by
  obtain ⟨_, call, _, _, ran⟩ := ok_readCall ran
  obtain ⟨_, _, noted, ran⟩ := bind_ok.mp ran
  cases noted
  have rest : after.starts t c = (before.emit (.startPppd u d options)).starts t c := by
    refine sim_starts env ?_ ran t c
    refine sim_whenever fun _ => leads_bind askSystem_sim fun answer _ _ => ?_
    cases answer with
    | noDevice => exact leads_pure _
    | noTty fd => exact sim_whenever fun _ => sim_storeCall fun _ => rfl
    | forked fd pid => exact sim_storeCall fun _ => rfl
  rw [rest, Daemon.starts, Daemon.emit, List.countP_append, List.countP_singleton]
  simp [Obs.starts, due, Daemon.starts]

/-- The program calls `start_pppd` for the call at most so often. -/
def Starts {Value : Type} (t : TunnelRef) (c : CallId) (bound : Nat) (program : Prog Value)
    (before : Daemon) : Prop :=
  ∀ value after, program before = .ok value after → after.starts t c ≤ before.starts t c + bound

section

variable {Value Other : Type} {program : Prog Value} {next : Value → Prog Other} {bound : Nat}
  {effects : List Effect}

theorem starts_sim (env : Env)
    (sim : Sim .none env (fun action => action.effect ≠ .start) program before) :
    Starts t c bound program before :=
  fun _ _ ran => (sim_starts env sim ran t c).trans_le (Nat.le_add_right _ _)

theorem starts_bind (env : Env)
    (sim : Sim .none env (fun action => action.effect ≠ .start) program before)
    (rest : ∀ value after, program before = .ok value after → Starts t c bound (next value) after) :
    Starts t c bound (program >>= next) before := by
  intro value after ran
  obtain ⟨found, middle, first, ran⟩ := bind_ok.mp ran
  rw [← sim_starts env sim first]
  exact rest found middle first value after ran

theorem permits_other (other : .start ∉ effects) :
    Permits effects fun action => action.effect ≠ .start :=
  fun _ member same => other (same ▸ member)

theorem allows_other (other : .start ∉ effects) :
    Allows env effects fun action => action.effect ≠ .start :=
  ⟨permits_other other, fun _ => permits_other (by decide)⟩

end

theorem startLacPppd_starts {d : CallId} {options : List Bytes} {password : Bool} :
    Starts t c (due u d t c) (startLacPppd env u d options password) before := by
  intro success after ran
  obtain ⟨_, _, ran⟩ := ok_readTunnel ran
  obtain ⟨_, call, _, _, ran⟩ := ok_readCall ran
  obtain ⟨lac, _, ran⟩ := ok_nonNull ran
  obtain ⟨_, _, ran⟩ := ok_deref ran
  refine starts_bind env passwordOptions_sim (fun secret asked _ => ?_) success after ran
  cases secret with
  | none => exact starts_sim env (leads_pure _)
  | some secret =>
    intro success after ran
    obtain ⟨_, started, starts, ran⟩ := bind_ok.mp ran
    have reset : Sim .none env (fun action => action.effect ≠ .start)
        (writeLac lac (fun entry => { entry with rtries := 0 }) >>= fun _ => pure true) started :=
      leads_bind (sim_storeLac (fun _ => rfl) fun _ => rfl) fun _ _ _ => leads_pure _
    rw [sim_starts env reset ran, startPppd_starts starts]

theorem finishIcrp_starts {d : CallId} {call : Call} (found : before.call? u d = some call) :
    Starts t c (if 0 ≤ call.cid then due u d t c else 0) (finishIcrp env u d) before := by
  intro success after ran
  obtain ⟨_, _, ran⟩ := ok_readTunnel ran
  obtain ⟨_, _, foundTunnel, foundSame, ran⟩ := ok_readCall ran
  cases found.symm.trans (some_call foundTunnel foundSame)
  split at ran
  · refine starts_sim env (leads_bind (sim_mark ?_ fun _ => rfl) fun _ _ _ => leads_pure _) _ _ ran
    simp [Action.effect, Move.effect, CallMove.effect]
  · rename_i named
    rw [if_pos (Int.not_lt.mp named)]
    refine starts_bind env (sim_connect (permits_other (by decide)) False.elim fun _ => rfl)
      (fun _ _ _ => ?_) _ _ ran
    refine starts_bind env addVector_sim fun _ _ _ => ?_
    refine starts_bind env (sim_storeCall fun _ => rfl) fun _ _ _ => ?_
    refine starts_bind env (sendControl_sim ?_ (allows_other (by decide))) fun _ _ _ =>
      startLacPppd_starts
    rw [List.append_assoc, List.append_assoc, List.append_assoc]
    exact message_nonempty _ _

theorem finishIccn_starts {d : CallId} :
    Starts t c (if d ≠ .self then due u d t c else 0) (finishIccn env u d) before := by
  cases d with
  | self => exact starts_sim env (leads_pure _)
  | call ref =>
    rw [if_pos nofun]
    refine starts_bind env (sim_connect (permits_other (by decide)) False.elim fun _ => rfl)
      fun _ _ _ => ?_
    refine starts_bind env (getLocalAddr_sim (allows_other (by decide))) fun success _ _ => ?_
    cases success with
    | false => exact starts_sim env (leads_pure _)
    | true =>
      intro success after ran
      obtain ⟨_, _, ran⟩ := ok_readTunnel ran
      obtain ⟨_, _, _, _, ran⟩ := ok_readCall ran
      obtain ⟨_, _, ran⟩ := ok_nonNull ran
      obtain ⟨_, _, ran⟩ := ok_deref ran
      obtain ⟨_, _, starts, ran⟩ := bind_ok.mp ran
      cases ran
      exact (startPppd_starts starts t c).le

/-- The call, as long as it is there, is up. -/
structure View.Up (t : TunnelRef) (c : CallId) (view : View) : Prop where
  tunnel : t < view.fresh
  call : c.older view.fresh
  up : ∀ core call, view.tunnel? t = some core → core.call? c = some call → call.state = .ICCN

theorem View.Up.ahead (up : first.Up t c) (ahead : View.Ahead first.fresh first second) :
    second.Up t c where
  tunnel := up.tunnel.trans_le ahead.fresh
  call := by
    cases c with
    | self => trivial
    | call ref => exact Nat.lt_of_lt_of_le up.call ahead.fresh
  up := by
    intro core call found foundCall
    obtain ⟨old, foundOld, later⟩ := ahead.tunnels t core up.tunnel found
    obtain ⟨oldCall, foundOldCall, path⟩ := later.calls c call up.call foundCall
    rw [up.up old oldCall foundOld foundOldCall] at path
    exact CallState.up_stays path

theorem writeCall_up {change : Call → Call} (tunnel : t < before.fresh) (call : c.older before.fresh)
    (shows : ∀ call, (change call).core = { call.core with state := .ICCN })
    (wrote : writeCall t c change before = .ok () after) : after.view.Up t c := by
  obtain ⟨_, _, _, _, rfl⟩ := writeCall_ok wrote
  refine ⟨tunnel, call, fun core call found foundCall => ?_⟩
  rw [view_setCall (.enter .ICCN) shows] at found
  obtain ⟨old, _, rfl⟩ := View.tunnel_setTunnel_some (Move.apply_ref _) found
  rw [if_pos rfl] at foundCall
  simp only [Move.apply] at foundCall
  rw [TunnelCore.call_setCall (CallMove.apply_ref _), if_pos rfl] at foundCall
  obtain ⟨_, _, rfl⟩ := Option.map_eq_some_iff.mp foundCall
  rfl

theorem finishIcrp_up {call : Call} {success : Bool} (tunnel : t < before.fresh)
    (older : c.older before.fresh) (found : before.call? t c = some call) (named : 0 ≤ call.cid)
    (ran : finishIcrp env t c before = .ok success after) : after.view.Up t c := by
  obtain ⟨_, _, ran⟩ := ok_readTunnel ran
  obtain ⟨_, _, foundTunnel, foundSame, ran⟩ := ok_readCall ran
  cases found.symm.trans (some_call foundTunnel foundSame)
  rw [if_neg (Int.not_lt.mpr named)] at ran
  obtain ⟨_, connected, wrote, ran⟩ := bind_ok.mp ran
  refine (writeCall_up tunnel older (fun _ => rfl) wrote).ahead (@sim_ahead env _ _ _ _ _ ?_ ran)
  refine leads_bind addVector_sim fun _ _ _ => ?_
  refine leads_bind (sim_storeCall fun _ => rfl) fun _ _ _ => ?_
  refine leads_bind (sendControl_sim ?_ allows_any) fun _ _ _ =>
    startLacPppd_sim fun _ _ => trivial
  rw [List.append_assoc, List.append_assoc, List.append_assoc]
  exact message_nonempty _ _

theorem finishIccn_up {success : Bool} (tunnel : t < before.fresh) (older : c.older before.fresh)
    (notSelf : c ≠ .self) (ran : finishIccn env t c before = .ok success after) :
    after.view.Up t c := by
  unfold finishIccn at ran
  rw [if_neg notSelf] at ran
  obtain ⟨_, connected, wrote, ran⟩ := bind_ok.mp ran
  refine (writeCall_up tunnel older (fun _ => rfl) wrote).ahead (@sim_ahead env _ _ _ _ _ ?_ ran)
  cases c with
  | self => exact absurd rfl notSelf
  | call ref =>
    refine leads_bind (getLocalAddr_sim allows_any) fun _ _ _ =>
      sim_ite (fun _ => leads_pure _) fun _ => ?_
    refine sim_readTunnel fun _ _ => sim_readCall fun _ _ => sim_nonNull fun _ _ => ?_
    exact sim_readLns fun _ _ => leads_bind (startPppd_sim fun _ _ => trivial) fun _ _ _ =>
      leads_pure _

/-- An ICRP or ICCN for the call that is past its first test, on the way to `start_pppd`. -/
def Entered.launches (entered : Entered) (t : TunnelRef) (c : CallId) : Bool :=
  entered.tunnel = t && entered.call = c && (entered.state.call? t c).any fun call =>
    (call.msgtype = some .ICRP && 0 ≤ call.cid) || (call.msgtype = some .ICCN && c ≠ .self)

theorem Entered.launches_call (launches : entered.launches t c = true) :
    entered.tunnel = t ∧ entered.call = c ∧ ∃ call, entered.state.call? t c = some call ∧
      (call.msgtype = some .ICRP ∧ 0 ≤ call.cid ∨ call.msgtype = some .ICCN ∧ c ≠ .self) := by
  unfold Entered.launches at launches
  simp only [Bool.and_eq_true, decide_eq_true_eq, Option.any_eq_true, Bool.or_eq_true] at launches
  obtain ⟨⟨isTunnel, isCall⟩, call, found, branch⟩ := launches
  exact ⟨isTunnel, isCall, call, found, branch⟩

/-- The message gets to the branch of ICRP or of ICCN. -/
def Entered.brings (entered : Entered) : Bool :=
  (entered.state.call? entered.tunnel entered.call).any fun call =>
    call.msgtype = some .ICRP || call.msgtype = some .ICCN

theorem controlFinish_starts (brings : entered.brings = true) :
    Starts t c (if entered.launches t c then 1 else 0)
      (controlFinish env entered.tunnel entered.call) entered.state := by
  intro success after ran
  obtain ⟨call, found, typed⟩ := (Option.any_eq_true _ _).mp brings
  obtain ⟨_, _, foundTunnel, foundSame, ran⟩ := ok_readCall ran
  cases found.symm.trans (some_call foundTunnel foundSame)
  have silent : ∀ type, (entered.state.emit (.finish entered.tunnel entered.call type)).starts t c =
      entered.state.starts t c := by
    intro type
    rw [Daemon.starts, Daemon.emit, List.countP_append, List.countP_singleton]
    rfl
  rw [Bool.or_eq_true, decide_eq_true_eq, decide_eq_true_eq] at typed
  have due_launches : ∀ passes : Prop, [Decidable passes] →
      (entered.tunnel = t → entered.call = c → passes → entered.launches t c = true) →
      (if passes then due entered.tunnel entered.call t c else 0) ≤
        if entered.launches t c then 1 else 0 := by
    intro passes _ launches
    unfold due
    split
    · split
      · rename_i passed here
        rw [launches here.1 here.2 passed]
        exact le_refl _
      · exact Nat.zero_le _
    · exact Nat.zero_le _
  rcases typed with isIcrp | isIccn
  · simp only [isIcrp] at ran
    obtain ⟨_, _, noted, ran⟩ := bind_ok.mp ran
    cases noted
    have bound : Starts t c _ (finishIcrp env entered.tunnel entered.call)
      (entered.state.emit (.finish entered.tunnel entered.call .ICRP)) := finishIcrp_starts found
    refine (bound success after ran).trans ?_
    rw [silent]
    refine Nat.add_le_add_left (due_launches _ ?_) _
    rintro rfl rfl named
    simp [Entered.launches, found, isIcrp, named]
  · simp only [isIccn] at ran
    obtain ⟨_, _, noted, ran⟩ := bind_ok.mp ran
    cases noted
    have bound : Starts t c _ (finishIccn env entered.tunnel entered.call)
      (entered.state.emit (.finish entered.tunnel entered.call .ICCN)) := finishIccn_starts
    refine (bound success after ran).trans ?_
    rw [silent]
    refine Nat.add_le_add_left (due_launches _ ?_) _
    rintro rfl rfl notSelf
    simp [Entered.launches, found, isIccn, notSelf]

theorem receive_starts (enters : entering env datagram before = some entered)
    (brings : entered.brings = true) (ran : receive env datagram before = .ok () after)
    (t : TunnelRef) (c : CallId) :
    after.starts t c ≤ before.starts t c + if entered.launches t c then 1 else 0 := by
  obtain ⟨control, linked, tunnel, call, lookup, found, foundCall, screen⟩ := entering_some enters
  obtain ⟨opened, foundOpened, foundCallOpened, _⟩ := delivering_found found foundCall
  obtain ⟨success, middle, finish, acks⟩ := receive_entered enters ran
  have looks := sim_starts env (getCall_sim (permits_other (by decide))) lookup t c
  have delivers : Delivers (fun action => action.effect ≠ .start) datagram.buffer entered.tunnel
      entered.call opened := by
    constructor <;> intros <;> simp [Action.effect, Move.effect, CallMove.effect]
  have screens := sim_starts env (screenControl_sim foundOpened foundCallOpened
    (allows_other (by decide)) delivers False.elim) screen t c
  have acknowledges := sim_starts env (acknowledge_sim (permits_other (by decide))) acks t c
  have finishes := controlFinish_starts (t := t) (c := c) brings success middle finish
  have opens : (linked.delivering entered.tunnel).starts t c = linked.starts t c := rfl
  omega

theorem entering_ahead (enters : entering env datagram state = some entered)
    (steady : state.steady env (.datagram datagram)) :
    View.Ahead state.fresh state.view entered.state.view ∧
      entered.state.view.vetted entered.tunnel entered.call := by
  obtain ⟨control, linked, tunnel, call, lookup, found, foundCall, screen⟩ := entering_some enters
  have clean := entering_clean control lookup found foundCall screen steady
  obtain ⟨opened, foundOpened, foundCallOpened, _⟩ := delivering_found found foundCall
  refine ⟨?_, screenControl_vetted foundOpened foundCallOpened screen clean⟩
  have looks : Sim .admission env (fun _ => True) (getCall env datagram.ids.1 datagram.ids.2
    datagram.peer datagram.refme datagram.refhim) state := getCall_sim fun _ _ => trivial
  have screens : Sim .admission env (fun _ => True)
      (screenControl env datagram.buffer entered.tunnel entered.call)
      (linked.delivering entered.tunnel) := by
    refine screenControl_sim foundOpened foundCallOpened allows_any delivers_any fun _ => ?_
    rw [screen]
    exact clean
  have later := sim_ahead screens screen
  rw [delivering_view] at later
  exact (sim_ahead looks lookup).trans later

theorem Daemon.Orderly.call_older {tunnel : Tunnel} (orderly : state.Orderly)
    (found : state.tunnel? t = some tunnel) (foundCall : tunnel.call? c = some call) :
    c.older state.fresh := by
  cases c with
  | self => trivial
  | call ref =>
    have isRef : call.ref = ref := Keyed.find_key foundCall
    refine (orderly.tunnels tunnel (Keyed.find_mem found)).old ref ?_
    rw [← isRef]
    exact List.mem_map_of_mem (List.mem_map_of_mem (Keyed.find_mem foundCall))

theorem entering_older (orderly : state.Orderly)
    (enters : entering env datagram state = some entered)
    (found : entered.state.call? entered.tunnel entered.call = some call) :
    entered.tunnel < entered.state.fresh ∧ entered.call.older entered.state.fresh := by
  obtain ⟨linked, lookup, steps⟩ := entering_steps enters
  have looks : Ops Rules.free env (getCall env datagram.ids.1 datagram.ids.2 datagram.peer
    datagram.refme datagram.refhim) state := getCall_ops (fun _ => trivial)
  have chain := (looks _ linked lookup).trans (steps Rules.free trivial trivial)
  have later : entered.state.Orderly :=
    steps_invariant chain (fun _ _ op => op.orderly) orderly
  obtain ⟨tunnel, foundTunnel, foundCall⟩ := call_some found
  have named : tunnel.ref = entered.tunnel := Keyed.find_key foundTunnel
  exact ⟨named ▸ later.old tunnel (Keyed.find_mem foundTunnel),
    later.call_older foundTunnel foundCall⟩

theorem launches_up (orderly : state.Orderly)
    (enters : entering env datagram state = some entered) (launches : entered.launches t c = true)
    (ran : receive env datagram state = .ok () after) : after.view.Up t c := by
  obtain ⟨rfl, rfl, call, found, branch⟩ := entered.launches_call launches
  obtain ⟨tunnel, older⟩ := entering_older orderly enters found
  obtain ⟨success, middle, finish, acks⟩ := receive_entered enters ran
  have up : middle.view.Up entered.tunnel entered.call := by
    obtain ⟨_, _, foundTunnel, foundSame, finish⟩ := ok_readCall finish
    cases found.symm.trans (some_call foundTunnel foundSame)
    rcases branch with ⟨typed, named⟩ | ⟨typed, notSelf⟩
    · simp only [typed] at finish
      obtain ⟨_, _, noted, finish⟩ := bind_ok.mp finish
      cases noted
      exact @finishIcrp_up env (entered.state.emit _) _ _ _ _ _ tunnel older found named finish
    · simp only [typed] at finish
      obtain ⟨_, _, noted, finish⟩ := bind_ok.mp finish
      cases noted
      exact @finishIccn_up env (entered.state.emit _) _ _ _ _ tunnel older notSelf finish
  have acknowledges : Sim .admission env (fun _ => True)
    (acknowledge entered.tunnel entered.call) middle := acknowledge_sim fun _ _ => trivial
  exact up.ahead (sim_ahead acknowledges acks)

theorem up_launches (up : state.view.Up t c) (enters : entering env datagram state = some entered)
    (steady : state.steady env (.datagram datagram)) : entered.launches t c = false := by
  obtain ⟨ahead, vetted⟩ := entering_ahead enters steady
  by_contra launching
  obtain ⟨rfl, rfl, call, found, branch⟩ :=
    entered.launches_call ((Bool.not_eq_false _).mp launching)
  obtain ⟨tunnel, foundTunnel, foundCall⟩ := call_some found
  have isUp : call.state = .ICCN :=
    (up.ahead ahead).up tunnel.core call.core (view_tunnel_some foundTunnel)
      (by rw [core_call, foundCall]; rfl)
  rcases branch with ⟨typed, _⟩ | ⟨typed, _⟩
  · have fits := vetted.fits foundTunnel foundCall typed
    rw [isUp] at fits
    revert fits
    cases tunnel.state <;> simp [admitted, admits]
  · have fits := vetted.fits foundTunnel foundCall typed
    rw [isUp] at fits
    simp [admitted, admits] at fits

/-! ## Whole runs -/

structure Stage where
  before : Daemon
  input : Input
  after : Daemon

/-- A run of the daemon, step by step, and its last state. -/
inductive Course (env : Env) : List Stage → Daemon → Prop
  | boot {start state : Daemon} (booted : Booted start) (ran : init env start = .ok () state) :
      Course env [] state
  | step {past : List Stage} {before after : Daemon} {input : Input}
      (course : Course env past before) (ran : exec env input before = .ok () after) :
      Course env (past ++ [⟨before, input, after⟩]) after

def Stage.greets (t : TunnelRef) (stage : Stage) : Bool :=
  stage.before.greetings t = 0 && stage.after.greetings t ≠ 0

/-- How often the step calls `start_pppd` for the call, if it goes to the branch of ICRP or of
ICCN. -/
def Stage.launches (env : Env) (t : TunnelRef) (c : CallId) (stage : Stage) : Nat :=
  match stage.input with
  | .datagram datagram =>
      if (entering env datagram stage.before).any Entered.brings then
        stage.after.starts t c - stage.before.starts t c
      else 0
  | _ => 0

def launches (env : Env) (past : List Stage) (t : TunnelRef) (c : CallId) : Nat :=
  past.foldl (fun count stage => count + stage.launches env t c) 0

/-- A Message Type AVP without its M bit is read. -/
def Obs.optional : Obs → Bool
  | .verdict _ _ _ mandatory _ => !mandatory
  | _ => false

def Daemon.mandatory (state : Daemon) : Prop := ∀ note ∈ state.trace, note.optional = false

instance (state : Daemon) : Decidable state.mandatory :=
  inferInstanceAs (Decidable (∀ _ ∈ _, _))

/-- States have only advanced, and nothing that belongs to a start has been done twice. -/
structure Progress (env : Env) (past : List Stage) (late : Daemon) : Prop where
  tunnels : ∀ stage ∈ past, ∀ t first last, stage.before.tunnel? t = some first →
    late.tunnel? t = some last → first.state.rank ≤ last.state.rank
  calls : ∀ stage ∈ past, ∀ t c first last, stage.before.call? t c = some first →
    late.call? t c = some last → Relation.ReflTransGen CallState.Next first.state last.state
  connected : ∀ t, late.connected t ≤ 1
  greeted : ∀ t, past.countP (Stage.greets t) ≤ 1
  greetings : ∀ t, late.greetings t ≤ 1
  launched : ∀ t c, launches env past t c ≤ 1

variable {past : List Stage} {late : Daemon}

theorem Course.reachable (course : Course env past late) : Reachable env late := by
  induction course with
  | boot booted ran => exact .boot booted ran
  | step _ ran ih => exact ih.step trivial ran

theorem execAll_course {inputs : List Input} (course : Course env past before)
    (ran : execAll env (fun _ _ => true) inputs before = some after) :
    ∃ stages, Course env stages after ∧ stages.map Stage.input = past.map Stage.input ++ inputs := by
  induction inputs generalizing past before with
  | nil =>
    cases ran
    exact ⟨past, course, (List.append_nil _).symm⟩
  | cons input rest ih =>
    unfold execAll at ran
    rw [if_pos rfl] at ran
    cases step : exec env input before with
    | ok _ next =>
      rw [step] at ran
      obtain ⟨stages, whole, listed⟩ := ih (course.step step) ran
      refine ⟨stages, whole, ?_⟩
      rw [listed, List.map_append, List.append_assoc]
      rfl
    | error _ _ =>
      rw [step] at ran
      cases ran

theorem Course.before_reachable (course : Course env past late) :
    ∀ stage ∈ past, Reachable env stage.before := by
  induction course with
  | boot _ _ => exact List.forall_mem_nil _
  | step course _ ih =>
    intro stage member
    rcases List.mem_append.mp member with early | last
    · exact ih stage early
    · rw [List.mem_singleton.mp last]
      exact course.reachable

theorem Daemon.mandatory.lapses (mandatory : state.mandatory) : state.view.lapses = 0 := by
  refine List.countP_eq_zero.mpr fun note member lapse => ?_
  have required := mandatory note member
  cases note with
  | verdict _ _ _ isMandatory _ => cases isMandatory <;> simp_all [Obs.lapse, Obs.optional]
  | _ => simp [Obs.lapse] at lapse

theorem exec_trace (ran : exec env input before = .ok () after) :
    before.trace <+: after.trace := (steps_grow (exec_free () after ran)).trace

theorem Daemon.mandatory.early (mandatory : after.mandatory)
    (ran : exec env input before = .ok () after) : before.mandatory :=
  fun note member => mandatory note ((exec_trace ran).subset member)

theorem Daemon.mandatory.steady (mandatory : after.mandatory)
    (ran : exec env input before = .ok () after) : before.steady env input := by
  unfold Daemon.steady
  rw [ran, (mandatory.early ran).lapses]
  exact mandatory.lapses

structure Advanced (env : Env) (past : List Stage) (late : Daemon) : Prop where
  ahead : ∀ stage ∈ past, View.Ahead stage.before.fresh stage.before.view late.view
  once : late.view.Once
  connected : ∀ t, late.connected t ≤ late.established t
  greetings : ∀ t, late.greetings t ≤ late.established t
  greeted : ∀ t, past.countP (Stage.greets t) ≤ late.established t
  launched : ∀ t c, launches env past t c = 0 ∨ launches env past t c = 1 ∧ late.view.Up t c

theorem init_advanced {start : Daemon} (booted : Booted start)
    (ran : init env start = .ok () state) : Advanced env [] state := by
  have silent : start.trace = [] := booted.trace
  have calm : Ops Rules.calm env (init env) start := init_ops Rules.calm_wide Rules.calm_loose
  have earned := (Earns.refl start).ops calm ran
  have connected : ∀ t, start.connected t = 0 := fun t => by
    rw [Daemon.connected, silent]
    rfl
  have established : ∀ t, start.established t = 0 := fun t => by
    rw [Daemon.established, silent]
    rfl
  have greetings : ∀ t, start.greetings t = 0 := fun t => by
    rw [Daemon.greetings, booted.events]
    rfl
  have sim : Sim .admission env (fun _ => True) (init env) start := init_sim allows_any
  refine ⟨List.forall_mem_nil _, leads_ok_invariant sim ran (fun _ _ => acts_once) booted.once,
    fun t => ?_, fun t => ?_, fun t => Nat.zero_le _, fun t c => .inl rfl⟩
  · have bound := earned.connects t
    rw [connected, established] at bound
    omega
  · have bound := earned.hellos t
    rw [greetings, established] at bound
    omega

theorem exec_launched (orderly : before.Orderly) (steady : before.steady env input)
    (ran : exec env input before = .ok () after) (t : TunnelRef) (c : CallId) :
    Stage.launches env t c ⟨before, input, after⟩ = 0 ∨
      Stage.launches env t c ⟨before, input, after⟩ = 1 ∧ after.view.Up t c ∧
        ¬ before.view.Up t c := by
  cases input with
  | datagram datagram =>
    simp only [Stage.launches]
    split
    · rename_i brought
      obtain ⟨entered, enters, brings⟩ := (Option.any_eq_true _ _).mp brought
      have bound := receive_starts enters brings ran t c
      cases launching : entered.launches t c with
      | false =>
        rw [launching, if_neg (by decide)] at bound
        exact .inl (Nat.sub_eq_zero_of_le bound)
      | true =>
        have down : ¬ before.view.Up t c := by
          intro up
          rw [up_launches up enters steady] at launching
          cases launching
        rw [launching, if_pos rfl] at bound
        have few : after.starts t c - before.starts t c = 0 ∨
            after.starts t c - before.starts t c = 1 := by omega
        exact few.imp_right fun one => ⟨one, launches_up orderly enters launching ran, down⟩
    · exact .inl rfl
  | _ => exact .inl rfl

theorem Advanced.step (advanced : Advanced env past before) (orderly : before.Orderly)
    (steady : before.steady env input) (ran : exec env input before = .ok () after) :
    Advanced env (past ++ [⟨before, input, after⟩]) after where
  ahead := by
    have last := sim_ahead (exec_admission steady) ran
    intro stage member
    rcases List.mem_append.mp member with early | isLast
    · exact (advanced.ahead stage early).trans last
    · rw [List.mem_singleton.mp isLast]
      exact last
  once := leads_ok_invariant (exec_admission steady) ran (fun _ _ => acts_once) advanced.once
  connected := by
    intro t
    have early := advanced.connected t
    have earned := (exec_earns ran).connects t
    omega
  greetings := by
    intro t
    have early := advanced.greetings t
    have earned := (exec_earns ran).hellos t
    omega
  greeted := by
    intro t
    have early := advanced.greeted t
    have earned := (exec_earns ran).hellos t
    rw [List.countP_append, List.countP_singleton]
    split
    · rename_i greets
      simp only [Stage.greets, Bool.and_eq_true, decide_eq_true_eq] at greets
      omega
    · have grown := List.Sublist.countP_le (exec_trace ran).sublist
        (p := Obs.establishes t)
      exact early.trans grown
  launched := by
    intro t c
    have ahead := sim_ahead (exec_admission steady) ran
    rw [launches, List.foldl_concat, ← launches]
    rcases exec_launched orderly steady ran t c with now | ⟨now, up, down⟩
    · rw [now]
      exact (advanced.launched t c).imp_right fun early => ⟨early.1, early.2.ahead ahead⟩
    · rw [now]
      rcases advanced.launched t c with none | ⟨_, early⟩
      · exact .inr ⟨by rw [none], up⟩
      · exact absurd early down

theorem Course.advanced (course : Course env past late) (mandatory : late.mandatory) :
    Advanced env past late := by
  induction course with
  | boot booted ran => exact init_advanced booted ran
  | step course ran ih =>
    exact (ih (mandatory.early ran)).step (runs_orderly course.reachable)
      (mandatory.steady ran) ran

/-- Over every run in which all Message Type AVPs are mandatory the state machine only
advances. -/
theorem course_progress (course : Course env past late) (mandatory : late.mandatory) :
    Progress env past late := by
  have advanced := course.advanced mandatory
  have older : ∀ stage ∈ past, ∀ t first, stage.before.tunnel? t = some first →
      t < stage.before.fresh ∧ stage.before.Orderly := by
    intro stage member t first found
    have orderly := runs_orderly (course.before_reachable stage member)
    have named : first.ref = t := Keyed.find_key found
    exact ⟨named ▸ orderly.old first (Keyed.find_mem found), orderly⟩
  refine ⟨fun stage member t first last found foundLast => ?_,
    fun stage member t c first last found foundLast => ?_,
    fun t => (advanced.connected t).trans (advanced.once.once t),
    fun t => (advanced.greeted t).trans (advanced.once.once t),
    fun t => (advanced.greetings t).trans (advanced.once.once t), fun t c => ?_⟩
  · obtain ⟨core, foundCore, ahead⟩ := (advanced.ahead stage member).tunnels t last.core
      (older stage member t first found).1 (view_tunnel_some foundLast)
    cases (view_tunnel_some found).symm.trans foundCore
    exact ahead.state
  · obtain ⟨tunnel, foundTunnel, foundCall⟩ := call_some found
    obtain ⟨lastTunnel, foundLastTunnel, foundLastCall⟩ := call_some foundLast
    obtain ⟨old, orderly⟩ := older stage member t tunnel foundTunnel
    obtain ⟨core, foundCore, ahead⟩ := (advanced.ahead stage member).tunnels t lastTunnel.core
      old (view_tunnel_some foundLastTunnel)
    cases (view_tunnel_some foundTunnel).symm.trans foundCore
    obtain ⟨call, foundOld, path⟩ := ahead.calls c last.core
      (orderly.call_older foundTunnel foundCall) (by rw [core_call, foundLastCall]; rfl)
    rw [core_call, foundCall] at foundOld
    cases foundOld
    exact path
  · rcases advanced.launched t c with none | ⟨once, _⟩
    · exact none ▸ Nat.zero_le _
    · exact Nat.le_of_eq once

/-- The connect message of the call that the peer has asked for. -/
def sampleIccn : Datagram :=
  sampleDatagram 513 1027 3 2 (addMessageTypeAvp .ICCN ++ addTxspeedAvp 64000 ++ addFrameAvp 1)

theorem call_progress : ∃ (env : Env) (past : List Stage) (late : Daemon) (t : TunnelRef)
    (c : CallId), past.map Stage.input = callInputs ++ [.datagram sampleIccn] ∧
      Course env past late ∧ late.mandatory ∧ late.starts t c = 1 ∧
        (late.call? t c).any (fun call => call.state = .ICCN) = true ∧ Progress env past late := by
  let env := sampleEnv (fun _ _ => none) 5
  have booted := sampleServer_booted sampleLns rfl
  let tests : Daemon → Bool := fun late => late.mandatory && late.starts 1 (.call 5) = 1 &&
    (late.call? 1 (.call 5)).any fun call => call.state = .ICCN
  have tested : (execAll env (fun _ _ => true) (callInputs ++ [.datagram sampleIccn])
      (sampleServer sampleLns)).any tests = true := by
    decide +kernel
  obtain ⟨late, ran, passed⟩ := (Option.any_eq_true _ _).mp tested
  obtain ⟨past, course, listed⟩ := execAll_course (Course.boot booted rfl) ran
  obtain ⟨⟨mandatory, started⟩, up⟩ := ((Bool.and_eq_true _ _).mp passed).imp_left
    (Bool.and_eq_true _ _).mp
  have required : late.mandatory := of_decide_eq_true mandatory
  exact ⟨env, past, late, 1, .call 5, listed, course, required, of_decide_eq_true started, up,
    course_progress course required⟩

end Xl2tpd
