import Xl2tpd.Runs
import Xl2tpd.Ledger.Entries

/-!
# References to the configuration

Tunnels, calls and redial timers refer to LAC and LNS entries. The two remove requests look for
references to an entry in some places only: a pending redial, a tunnel of an LNS entry and its
calls are not found.
-/

namespace Xl2tpd

set_option autoImplicit false

open Program

variable {rules : Rules} {env : Env} {before middle after state : Daemon} {t u : TunnelRef}
  {lac : LacRef} {tunnel : Tunnel} {lns : LnsRef}

/-! ## References -/

def Tunnel.HoldsLac (tunnel : Tunnel) (lac : LacRef) : Prop :=
  tunnel.lac = some lac ∨ tunnel.self.lac = some lac ∨ ∃ call ∈ tunnel.calls, call.lac = some lac

def Tunnel.HoldsLns (tunnel : Tunnel) (lns : LnsRef) : Prop :=
  tunnel.lns = some lns ∨ tunnel.self.lns = some lns ∨ ∃ call ∈ tunnel.calls, call.lns = some lns

/-- Every reference of a tunnel, a call or a timer leads to an entry that is still there. -/
structure Daemon.Anchored (state : Daemon) : Prop where
  lacs : ∀ tunnel ∈ state.tunnels, ∀ lac, tunnel.HoldsLac lac → (state.lac? lac).isSome
  lnss : ∀ tunnel ∈ state.tunnels, ∀ lns, tunnel.HoldsLns lns → (state.lns? lns).isSome
  timers : ∀ entry ∈ state.events, ∀ lac, entry.event = .magicLacDial lac →
    (state.lac? lac).isSome

/-- The pointers, where they are not null, lead to entries. -/
def Daemon.Knows (state : Daemon) (lns : Option LnsRef) (lac : Option LacRef) : Prop :=
  (∀ ref, lns = some ref → (state.lns? ref).isSome = true) ∧
  ∀ ref, lac = some ref → (state.lac? ref).isSome = true

structure TunnelDeed.Known (state : Daemon) (deed : TunnelDeed) : Prop where
  own : state.Knows deed.lns deed.lac
  self : state.Knows deed.self.lns deed.self.lac
  calls : ∀ call ∈ deed.calls, state.Knows call.lns call.lac

theorem Daemon.Anchored.known (anchored : state.Anchored) (member : tunnel ∈ state.tunnels) :
    tunnel.deed.Known state where
  own := ⟨fun lns own => anchored.lnss tunnel member lns (.inl own),
    fun lac own => anchored.lacs tunnel member lac (.inl own)⟩
  self := ⟨fun lns self => anchored.lnss tunnel member lns (.inr (.inl self)),
    fun lac self => anchored.lacs tunnel member lac (.inr (.inl self))⟩
  calls := by
    intro deed listed
    obtain ⟨call, inTunnel, rfl⟩ := List.mem_map.mp listed
    exact ⟨fun lns holds => anchored.lnss tunnel member lns (.inr (.inr ⟨call, inTunnel, holds⟩)),
      fun lac holds => anchored.lacs tunnel member lac (.inr (.inr ⟨call, inTunnel, holds⟩))⟩

theorem TunnelDeed.Known.call {tunnel : Tunnel} {call : Call} (known : tunnel.deed.Known state)
    (listed : call ∈ tunnel.calls) : state.Knows call.lns call.lac :=
  known.calls call.deed (List.mem_map_of_mem listed)

theorem TunnelDeed.Known.heldLac (known : tunnel.deed.Known state) (holds : tunnel.HoldsLac lac) :
    (state.lac? lac).isSome := by
  rcases holds with own | self | ⟨call, listed, owner⟩
  · exact known.own.2 lac own
  · exact known.self.2 lac self
  · exact (known.call listed).2 lac owner

theorem TunnelDeed.Known.heldLns (known : tunnel.deed.Known state) (holds : tunnel.HoldsLns lns) :
    (state.lns? lns).isSome := by
  rcases holds with own | self | ⟨call, listed, owner⟩
  · exact known.own.1 lns own
  · exact known.self.1 lns self
  · exact (known.call listed).1 lns owner

theorem Daemon.UnheldLac.none (unheld : state.UnheldLac lac) (member : tunnel ∈ state.tunnels) :
    ¬ tunnel.HoldsLac lac := by
  rintro (own | self | ⟨call, listed, holds⟩)
  · exact (unheld.tunnels tunnel member).1 own
  · exact (unheld.tunnels tunnel member).2 self
  · exact unheld.calls tunnel member call listed holds

theorem Daemon.UnheldLns.none (unheld : state.UnheldLns lns) (member : tunnel ∈ state.tunnels) :
    ¬ tunnel.HoldsLns lns := by
  rintro (own | self | ⟨call, listed, holds⟩)
  · exact (unheld.tunnels tunnel member).1 own
  · exact (unheld.tunnels tunnel member).2 self
  · exact unheld.calls tunnel member call listed holds

/-! ## One entry of the ledger -/

theorem knows_none {lns : Option LnsRef}
    (known : ∀ ref, lns = some ref → (state.lns? ref).isSome) : state.Knows lns none :=
  ⟨known, by rintro _ ⟨⟩⟩

theorem Origin.known {deed : TunnelDeed} (anchored : before.Anchored)
    (origin : Origin env before after deed) : deed.Known before := by
  cases origin with
  | kept member => exact anchored.known member
  | chosen member lns known =>
    have old := anchored.known member
    exact ⟨⟨known, old.own.2⟩, old.self, old.calls⟩
  | born owner free =>
    have known : before.Knows none owner := by
      refine ⟨by rintro _ ⟨⟩, fun ref isLac => ?_⟩
      obtain ⟨entry, found, _⟩ := free ref isLac
      rw [found]
      rfl
    exact ⟨known, known, by rintro _ ⟨⟩⟩
  | inherited member =>
    have old := anchored.known member
    exact ⟨old.own, old.self, List.forall_mem_cons.mpr ⟨old.own, old.calls⟩⟩
  | placed member owner known =>
    have old := anchored.known member
    have own : before.Knows none owner := ⟨by rintro _ ⟨⟩, known⟩
    exact ⟨old.own, old.self, List.forall_mem_cons.mpr ⟨own, old.calls⟩⟩
  | dropped member ref =>
    have old := anchored.known member
    exact ⟨old.own, old.self, fun call listed => old.calls call (Keyed.mem_remove.mp listed).1⟩
  | assigned member ref addr =>
    have old := anchored.known member
    refine ⟨old.own, old.self, fun call listed => ?_⟩
    rcases Keyed.mem_update listed with kept | ⟨prior, found, rfl⟩
    · exact old.calls call kept
    · exact old.calls prior (Keyed.find_mem found)
  | @faded tunnel deed member fades =>
    have old := anchored.known member
    refine ⟨?_, ?_, fun call listed => ?_⟩
    · rw [fades.lns]
      rcases fades.owner with ⟨same, _⟩ | ⟨gone, _⟩
      · exact same ▸ old.own
      · exact gone ▸ knows_none old.own.1
    · rcases fades.owner with ⟨_, same⟩ | ⟨_, gone⟩
      · exact same ▸ old.self
      · exact gone ▸ knows_none old.self.1
    · have faded : call.unowned ∈ tunnel.deed.calls.map CallDeed.unowned :=
        fades.calls ▸ List.mem_map_of_mem listed
      obtain ⟨prior, listedPrior, equal⟩ := List.mem_map.mp faded
      have same : prior.unowned.lns = call.unowned.lns := congrArg CallDeed.lns equal
      rcases fades.callLacs call listed with gone | kept
      · rw [gone]
        exact knows_none fun ref holds => (old.calls prior listedPrior).1 ref (same.trans holds)
      · exact old.calls call kept

section

variable (strict : rules.kept) (op : Op rules env before after)

include strict op

theorem Op.lac_kept (known : (before.lac? lac).isSome) :
    (after.lac? lac).isSome ∨ after.UnheldLac lac := by
  unfold Daemon.lac? at *
  rw [Keyed.isSome_find] at *
  rcases op.lacRefs with ⟨_, kept⟩ | ⟨more, _⟩
  · exact (kept lac known).imp_right fun unheld => unheld strict
  · refine .inl ?_
    unfold Daemon.lacRefs at more
    rw [more]
    exact List.mem_cons_of_mem _ known

theorem Op.lns_kept (known : (before.lns? lns).isSome) :
    (after.lns? lns).isSome ∨ after.UnheldLns lns := by
  unfold Daemon.lns? at *
  rw [Keyed.isSome_find] at *
  rcases op.lnsRefs with ⟨_, kept⟩ | ⟨more, _⟩
  · exact (kept lns known).imp_right fun unheld => unheld strict
  · refine .inl ?_
    unfold Daemon.lnsRefs at more
    rw [more]
    exact List.mem_cons_of_mem _ known

theorem Op.anchored (anchored : before.Anchored) : after.Anchored where
  lacs := by
    intro tunnel member lac holds
    have known := ((op.origin member).known anchored).heldLac holds
    rcases op.lac_kept strict known with kept | unheld
    · exact kept
    · exact absurd holds (unheld.none member)
  lnss := by
    intro tunnel member lns holds
    have known := ((op.origin member).known anchored).heldLns holds
    rcases op.lns_kept strict known with kept | unheld
    · exact kept
    · exact absurd holds (unheld.none member)
  timers := by
    intro entry member lac dials
    have known : (before.lac? lac).isSome := by
      rcases op.redials member dials with old | active
      · exact anchored.timers entry old lac dials
      · have awake : (before.awake lac).isSome := by
          rw [active]
          rfl
        unfold Daemon.awake at awake
        rw [Option.isSome_map] at awake
        exact awake
    rcases op.lac_kept strict known with kept | unheld
    · exact kept
    · exact absurd dials (unheld.events entry member)

end

/-! ## Remove requests -/

/-- A remove request finds every reference to the entry: no redial is pending, its calls are in the
tunnel it names, the first with its number. -/
structure Daemon.Removable (state : Daemon) (lac : LacRef) : Prop where
  quiet : ∀ entry ∈ state.events, entry.event ≠ .magicLacDial lac
  calls : ∀ tunnel ∈ state.tunnels, ∀ call ∈ tunnel.calls, call.lac = some lac →
    state.opens lac = some (some tunnel.ref)
  first : ∀ tunnel ∈ state.tunnels, state.opens lac = some (some tunnel.ref) →
    (state.byNumber tunnel.ourtid.toNat).map Tunnel.ref = some tunnel.ref

def Rules.closing (t : TunnelRef) : Rules where
  touched := fun u => u = t
  destroys := True
  hellos := False
  expires := False
  edits := False
  toggles := False
  assigns := False
  single := False
  assigned := False
  kept := False
  dialed := fun _ => False
  rings := fun _ => False

structure Daemon.Forsaken (state : Daemon) (lac : LacRef) : Prop where
  orderly : state.Orderly
  titled : state.Titled
  dormant : state.Dormant lac
  calls : ∀ tunnel ∈ state.tunnels, ∀ call ∈ tunnel.calls, call.lac ≠ some lac

theorem silence_title (lac : LacRef) :
    (state.setLac lac Lac.silence).opens lac = state.opens lac := by
  unfold Daemon.opens
  rw [lac_setLac (by intro _; rfl), if_pos rfl, Option.map_map]
  rfl

theorem closed_forsaken {found : Lac} {closed : Daemon} (orderly : state.Orderly)
    (titled : state.Titled) (removable : state.Removable found.ref)
    {entry : Lac} (foundEntry : (state.setLac found.ref Lac.silence).lac? found.ref = some entry)
    (closes : entry.t = none ∧ closed = state.setLac found.ref Lac.silence ∨
      ∃ t tunnel, entry.t = some t ∧ state.tunnel? t = some tunnel ∧
        lacDisconnect env tunnel.ourtid.toNat (state.setLac found.ref Lac.silence) =
          .ok () closed) : closed.Forsaken found.ref := by
  have opens : state.opens found.ref = some entry.t := by
    rw [← silence_title]
    unfold Daemon.opens
    rw [foundEntry]
    rfl
  have silenced : Op Rules.free env state (state.setLac found.ref Lac.silence) :=
    .aside (aside_setLac (by intro _; rfl)) (absurd trivial) (hush_same rfl)
  have orderlyNow := silenced.orderly orderly
  have titledNow := silenced.titled titled
  have dormantNow : (state.setLac found.ref Lac.silence).Dormant found.ref := by
    refine ⟨?_, ?_, removable.quiet⟩
    · exact titled.known found.ref (by rw [opens]; rfl)
    · unfold Daemon.awake
      rw [lac_setLac (by intro _; rfl), if_pos rfl, Option.map_map]
      cases state.lac? found.ref <;> simp [Lac.silence]
  rcases closes with ⟨unopened, rfl⟩ | ⟨t, tunnel, opened, foundTunnel, close⟩
  · refine ⟨orderlyNow, titledNow, dormantNow, fun other member call listed owner => ?_⟩
    have named := removable.calls other member call listed owner
    rw [opens, unopened] at named
    cases named
  · have member : tunnel ∈ state.tunnels := Keyed.find_mem foundTunnel
    have named : tunnel.ref = t := Keyed.find_key foundTunnel
    have first : state.byNumber tunnel.ourtid.toNat = some tunnel := by
      obtain ⟨other, numbered, same⟩ := Option.map_eq_some_iff.mp
        (removable.first tunnel member (by rw [opens, opened, named]))
      rw [numbered, List.inj_on_of_nodup_map orderly.distinct
        (List.mem_of_find?_eq_some numbered) member same]
    unfold lacDisconnect at close
    rw [bind_get] at close
    have search : (state.setLac found.ref Lac.silence).tunnels.find? (fun other =>
        (other.ourtid.toNat : Int) = tunnel.ourtid.toNat) = some tunnel := first
    simp only [search] at close
    have marks : Ops (Rules.closing tunnel.ref) env (writeCall tunnel.ref .self fun call =>
        { call with needclose := true, errormsg := text "Goodbye!" })
        (state.setLac found.ref Lac.silence) := ops_storeCall rfl fun _ => rfl
    have path := yields_bind marks (fun _ _ _ => callClose_ops rfl trivial) () closed close
    have orderlyLast := steps_invariant path (fun _ _ op => op.orderly) orderlyNow
    refine ⟨orderlyLast, steps_invariant path (fun _ _ op => op.titled) titledNow,
      steps_dormant id path dormantNow, ?_⟩
    intro other memberOther call listed owner
    have foundOther := orderlyLast.found memberOther
    by_cases same : other.ref = tunnel.ref
    · obtain ⟨_, _, _, closes⟩ := bind_ok.mp close
      rw [closeTunnel_empties closes (same ▸ foundOther)] at listed
      cases listed
    · have untouched := steps_untouched (u := other.ref) same id path
      have before : state.tunnel? other.ref = some other := untouched.tunnel.symm.trans foundOther
      have held := removable.calls other (Keyed.find_mem before) call listed owner
      rw [opens, opened] at held
      exact same ((Option.some.inj (Option.some.inj held)).symm.trans named.symm)

theorem Daemon.Forsaken.dropped {dropped : Daemon} {entry : Lac} (forsaken : before.Forsaken lac)
    (found : before.lac? lac = some entry) (drop : entry.t = none ∧ dropped = before ∨
      ∃ t, entry.t = some t ∧ dropped = before.setTunnel t Tunnel.disown) :
    ∀ tunnel ∈ dropped.tunnels, ¬ tunnel.HoldsLac lac := by
  have opens : before.opens lac = some entry.t := by
    unfold Daemon.opens
    rw [found]
    rfl
  -- A tunnel of the state before that refers to the entry is the one it names.
  have own : ∀ tunnel ∈ before.tunnels, tunnel.HoldsLac lac → entry.t = some tunnel.ref := by
    rintro tunnel member (owner | self | ⟨call, listed, owner⟩)
    · exact forsaken.titled.holder tunnel member lac _ owner opens
    · have owner : tunnel.lac = some lac :=
        (forsaken.orderly.tunnels tunnel member).self.symm.trans self
      exact forsaken.titled.holder tunnel member lac _ owner opens
    · exact absurd owner (forsaken.calls tunnel member call listed)
  rcases drop with ⟨unopened, rfl⟩ | ⟨t, opened, rfl⟩
  · intro tunnel member holds
    have named := own tunnel member holds
    rw [unopened] at named
    cases named
  · intro tunnel member holds
    have refs : ((before.setTunnel t Tunnel.disown).tunnels.map Tunnel.ref).Nodup := by
      have same : (before.setTunnel t Tunnel.disown).tunnels.map Tunnel.ref =
          before.tunnels.map Tunnel.ref := Keyed.map_update_same fun _ => rfl
      rw [same]
      exact forsaken.orderly.distinct
    have foundTunnel : (before.setTunnel t Tunnel.disown).tunnel? tunnel.ref = some tunnel :=
      Keyed.find_of_mem refs member
    by_cases mine : tunnel.ref = t
    · rw [mine, tunnel_setTunnel (by intro _; rfl)] at foundTunnel
      obtain ⟨old, foundOld, rfl⟩ := Option.map_eq_some_iff.mp foundTunnel
      rcases holds with owner | self | ⟨call, listed, owner⟩
      · cases owner
      · cases self
      · exact forsaken.calls old (Keyed.find_mem foundOld) call listed owner
    · rw [tunnel_setTunnel_other mine (by intro _; rfl)] at foundTunnel
      have named := own tunnel (Keyed.find_mem foundTunnel) holds
      rw [opened] at named
      exact mine (Option.some.inj named).symm

theorem Daemon.Forsaken.unheld (forsaken : before.Forsaken lac)
    (ran : forsake lac before = .ok () after) : after.UnheldLac lac := by
  obtain ⟨entry, dropped, detached, found, drop, detach, rfl⟩ := forsake_ok ran
  have free := forsaken.dropped found drop
  have freed : ∀ tunnel ∈ detached.tunnels, ¬ tunnel.HoldsLac lac := by
    rcases detach with ⟨_, rfl⟩ | ⟨t, ref, _, rfl⟩
    · exact free
    · intro tunnel member holds
      rcases mem_setTunnel member with kept | ⟨old, foundOld, rfl⟩
      · exact free tunnel kept holds
      · refine free old (Keyed.find_mem foundOld) ?_
        rcases holds with owner | self | ⟨call, listed, owner⟩
        · exact .inl owner
        · exact .inr (.inl self)
        · have deeds : call.deed ∈ (clearLacFrom ref old.calls).map Call.deed :=
            List.mem_map_of_mem listed
          rcases (clearLacFrom_fades ref old).callLacs call.deed deeds with gone | kept
          · rw [show call.lac = none from gone] at owner
            cases owner
          · obtain ⟨same, listedSame, equal⟩ := List.mem_map.mp kept
            have lacSame : same.lac = call.lac := congrArg CallDeed.lac equal
            exact .inr (.inr ⟨same, listedSame, lacSame.trans owner⟩)
  have timers : detached.events = before.events := by
    rcases detach with ⟨_, rfl⟩ | ⟨_, _, _, rfl⟩ <;>
      rcases drop with ⟨_, rfl⟩ | ⟨_, _, rfl⟩ <;> rfl
  refine ⟨fun tunnel member => ⟨?_, ?_⟩, fun tunnel member call listed owner => ?_, ?_⟩
  · exact fun owner => freed tunnel member (.inl owner)
  · exact fun self => freed tunnel member (.inr (.inl self))
  · exact freed tunnel member (.inr (.inr ⟨call, listed, owner⟩))
  · intro entry member
    exact forsaken.dormant.quiet entry (timers ▸ member)

/-! ## Runs -/

/-- A remove request is made only for an entry all references to which it finds. -/
def Daemon.removesCleanly (state : Daemon) : Input → Prop
  | .request (.lacRemove name) =>
      ∀ found, findLac state name = some found → state.Removable found.ref
  | .request (.lnsRemove name) =>
      ∀ found, (state.lnslist.find? fun entry => sameName entry.entname name) = some found →
        state.UnheldLns found.ref
  | _ => True

def Rules.tidy : Rules := { Rules.free with kept := True }

theorem closeLnsCalls_idle {refs : List TunnelRef} (unheld : before.UnheldLns lns)
    (ran : closeLnsCalls env lns refs before = .ok () after) : after = before := by
  induction refs with
  | nil =>
    cases ran
    rfl
  | cons t refs ih =>
    obtain ⟨_, middle, first, rest⟩ := bind_ok.mp ran
    obtain ⟨tunnel, found, first⟩ := ok_readTunnel first
    have other : ¬ tunnel.lns = some lns := (unheld.tunnels tunnel (Keyed.find_mem found)).1
    rw [decide_eq_false other] at first
    cases first
    exact ih rest

theorem Rules.tidy_wide : Rules.tidy.Wide :=
  ⟨fun _ => trivial, trivial, trivial, trivial⟩

theorem tidy_admits {input : Input} (orderly : state.Orderly) (titled : state.Titled)
    (cleanly : state.removesCleanly input) : Rules.tidy.Admits env state input := by
  have wide := Rules.tidy_wide
  have dials : ∀ middle lac, Rules.tidy.Dials middle lac := fun middle lac =>
    wide.dials ⟨id, fun _ => trivial, fun _ => trivial⟩
  refine ⟨wide, fun datagram _ => ?_, fun _ _ _ _ _ _ => trivial, fun _ _ _ _ _ _ => dials _ _,
    fun request isRequest => ?_⟩
  · refine ⟨trivial, fun _ => trivial, fun _ _ _ _ => trivial, fun _ _ _ _ => trivial,
      fun _ _ _ _ => trivial, ?_⟩
    exact fun _ _ _ _ _ _ => ⟨fun _ => trivial, fun _ _ _ _ _ _ _ => dials _ _,
      fun _ => trivial, False.elim⟩
  · subst isRequest
    refine ⟨wide, fun _ _ _ => trivial, fun _ _ _ _ _ _ _ => dials _ _, fun _ _ _ _ => dials _ _,
      fun _ name found after isRemove known ran => ?_,
      fun _ name found middle isRemove known ran => ?_⟩
    · subst isRemove
      obtain ⟨entry, closed, foundEntry, closes, forsakes⟩ := controlHandleLacRemove_ok known ran
      exact (closed_forsaken orderly titled (cleanly found known) foundEntry closes).unheld forsakes
    · subst isRemove
      rw [closeLnsCalls_idle (cleanly found known) ran]
      exact cleanly found known

theorem Booted.anchored (booted : Booted state) : state.Anchored := by
  refine ⟨?_, ?_, ?_⟩ <;> simp [booted.tunnels, booted.events]

/-- As long as entries are removed cleanly no reference to an entry dangles. -/
theorem references_anchored (runs : Runs env Daemon.removesCleanly state) : state.Anchored := by
  induction runs with
  | boot booted ran =>
    have steps := init_ops Rules.tidy_wide ⟨id, fun _ => trivial, fun _ => trivial⟩ () _ ran
    exact steps_invariant steps (fun _ _ op => op.anchored trivial) booted.anchored
  | step reached cleanly ran ih =>
    have steps := exec_ops (tidy_admits (runs_orderly reached) (runs_titled reached) cleanly)
      () _ ran
    exact steps_invariant steps (fun _ _ op => op.anchored trivial) ih

def removableTest (state : Daemon) (lac : LacRef) : Bool :=
  (state.events.all fun entry => entry.event ≠ .magicLacDial lac) &&
  (state.tunnels.all fun tunnel => tunnel.calls.all fun call =>
    call.lac ≠ some lac || state.opens lac = some (some tunnel.ref)) &&
  state.tunnels.all fun tunnel => state.opens lac ≠ some (some tunnel.ref) ||
    (state.byNumber tunnel.ourtid.toNat).map Tunnel.ref = some tunnel.ref

theorem removableTest_sound (passed : removableTest state lac = true) : state.Removable lac := by
  simp only [removableTest, Bool.and_eq_true, List.all_eq_true, Bool.or_eq_true,
    decide_eq_true_eq] at passed
  obtain ⟨⟨quiet, calls⟩, first⟩ := passed
  refine ⟨quiet, fun tunnel member call listed owner => ?_, ?_⟩
  · exact (calls tunnel member call listed).resolve_left (not_not.mpr owner)
  · exact fun tunnel member opens => (first tunnel member).resolve_left (not_not.mpr opens)

def removesCleanlyTest (state : Daemon) : Input → Bool
  | .request (.lacRemove name) => (findLac state name).all fun found => removableTest state found.ref
  | .request (.lnsRemove name) =>
      (state.lnslist.find? fun entry => sameName entry.entname name).all fun found =>
        state.tunnels.all fun tunnel =>
          tunnel.lns ≠ some found.ref && tunnel.self.lns ≠ some found.ref &&
            tunnel.calls.all fun call => call.lns ≠ some found.ref
  | _ => true

theorem removesCleanlyTest_sound (state : Daemon) (input : Input)
    (passed : removesCleanlyTest state input = true) : state.removesCleanly input := by
  unfold removesCleanlyTest at passed
  split at passed
  · intro found known
    rw [known] at passed
    exact removableTest_sound passed
  · intro found known
    rw [known] at passed
    simp only [Option.all_some, List.all_eq_true, Bool.and_eq_true, decide_eq_true_eq] at passed
    exact ⟨fun tunnel member => (passed tunnel member).1, fun tunnel member =>
      (passed tunnel member).2⟩
  · rename_i notLac notLns
    cases input with
    | request request =>
      cases request with
      | lacRemove name => exact absurd rfl (notLac name)
      | lnsRemove name => exact absurd rfl (notLns name)
      | _ => trivial
    | _ => trivial

def sampleDialer (entry : Lac) : Daemon := { laclist := [entry], fresh := entry.ref + 1 }

theorem sampleDialer_booted (entry : Lac)
    (unused : entry.t = none ∧ entry.c = none ∧ entry.rsched = none) :
    Booted (sampleDialer entry) where
  tunnels := rfl
  tunnelCount := rfl
  events := rfl
  uaddr := rfl
  switchIo := rfl
  trace := rfl
  lnsRefs := by simp [sampleDialer]
  lacRefs := by simp [sampleDialer]
  lnsFresh := by simp [sampleDialer]
  lacFresh := by simp [sampleDialer, unused]

def sampleLac : Lac := { ref := 0, entname := text "x", lns := [⟨text "host", 1701⟩] }

/-- An entry that is removed while its tunnel is open. -/
theorem lac_removed_cleanly : ∃ (env : Env) (state : Daemon),
    Runs env Daemon.removesCleanly state ∧ state.tunnels.length = 1 ∧ state.laclist.length = 0 ∧
      state.Anchored := by
  let env := sampleEnv (fun _ _ => none) 5
  obtain ⟨state, runs, tested⟩ : ∃ state, Runs env Daemon.removesCleanly state ∧
      (decide (state.tunnels.length = 1) && decide (state.laclist.length = 0)) = true :=
    execAll_any removesCleanlyTest
      [.request (.lacConnect (text "x") none none), .request (.lacRemove (text "x"))]
      (sampleDialer_booted sampleLac ⟨rfl, rfl, rfl⟩) rfl removesCleanlyTest_sound
      (by decide +kernel)
  rw [Bool.and_eq_true, decide_eq_true_eq, decide_eq_true_eq] at tested
  exact ⟨env, state, runs, tested.1, tested.2, references_anchored runs⟩

def sampleListed : Daemon :=
  { lnslist := [{ ref := 0, entname := text "x", lacs := [⟨0, 9, true⟩] }], fresh := 1 }

theorem sampleListed_booted : Booted sampleListed where
  tunnels := rfl
  tunnelCount := rfl
  events := rfl
  uaddr := rfl
  switchIo := rfl
  trace := rfl
  lnsRefs := by simp [sampleListed]
  lacRefs := by simp [sampleListed]
  lnsFresh := by simp [sampleListed]
  lacFresh := by simp [sampleListed]

/-- An LNS entry is removed and its tunnel goes on referring to it. -/
theorem lns_removed_dangles : ∃ (env : Env) (state : Daemon),
    Reachable env state ∧ ¬ state.Anchored := by
  let env := sampleEnv (fun _ _ => none) 5
  obtain ⟨state, reached, tested⟩ : ∃ state, Reachable env state ∧
      (state.tunnels.any fun tunnel => tunnel.lns.any fun lns => (state.lns? lns).isNone) = true :=
    reachable_any [.datagram sampleSccrq, .request (.lnsRemove (text "x"))] sampleListed_booted rfl
      (by decide +kernel)
  obtain ⟨tunnel, member, tested⟩ := List.any_eq_true.mp tested
  obtain ⟨lns, owner, missing⟩ := (Option.any_eq_true _ _).mp tested
  refine ⟨env, state, reached, fun anchored => ?_⟩
  have known := anchored.lnss tunnel member lns (.inl owner)
  rw [Option.isNone_iff_eq_none.mp missing] at known
  cases known

end Xl2tpd
