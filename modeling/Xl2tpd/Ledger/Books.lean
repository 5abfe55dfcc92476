import Xl2tpd.Ledger.Origin

/-!
# Entries, timers and tunnels in the ledger

A LAC entry names the tunnel that was opened for it, and the entries of the ledger keep this in
step with what the tunnels refer to.
-/

namespace Xl2tpd

set_option autoImplicit false

open Program

variable {rules : Rules} {env : Env} {before middle after state : Daemon} {t u : TunnelRef}
  {lac : LacRef} {tunnel : Tunnel} {condition : Daemon → Input → Prop} {ref : CallRef}
  {change : Lac → Lac}

/-! ## The tunnel of a LAC entry -/

def Lac.title (entry : Lac) : Option TunnelRef × Bool := (entry.t, entry.active)

def Daemon.title? (state : Daemon) (lac : LacRef) : Option (Option TunnelRef × Bool) :=
  (state.lac? lac).map Lac.title

def Daemon.opens (state : Daemon) (lac : LacRef) : Option (Option TunnelRef) :=
  (state.lac? lac).map Lac.t

def Daemon.awake (state : Daemon) (lac : LacRef) : Option Bool :=
  (state.lac? lac).map Lac.active

theorem opens_of_title (same : after.title? lac = before.title? lac) :
    after.opens lac = before.opens lac := by
  have read := congrArg (fun title => Option.map Prod.fst title) same
  simp only [Daemon.title?, Option.map_map] at read
  exact read

theorem awake_of_title (same : after.title? lac = before.title? lac) :
    after.awake lac = before.awake lac := by
  have read := congrArg (fun title => Option.map Prod.snd title) same
  simp only [Daemon.title?, Option.map_map] at read
  exact read

theorem title_setLac {lac other : LacRef} (named : ∀ entry, (change entry).ref = entry.ref)
    (keeps : ∀ entry, (change entry).title = entry.title) :
    (state.setLac lac change).title? other = state.title? other := by
  unfold Daemon.title?
  rw [lac_setLac named]
  split
  · rw [Option.map_map]
    exact congrArg (fun read => (state.lac? other).map read) (funext keeps)
  · rfl

theorem title_record {lac : Option LacRef} {other : LacRef}
    (named : ∀ entry, (change entry).ref = entry.ref)
    (keeps : ∀ entry, (change entry).title = entry.title) :
    (state.record lac change).title? other = state.title? other := by
  cases lac with
  | none => rfl
  | some ref => exact title_setLac named keeps

theorem scheduleRedial_title {lac other : LacRef} (ran : scheduleRedial lac before = .ok () after) :
    after.title? other = before.title? other := by
  obtain ⟨_, _, rfl | ⟨_, delay, rfl⟩⟩ := scheduleRedial_ok ran
  · rfl
  · exact title_setLac (fun _ => rfl) fun _ => rfl

theorem forgetCall_title {call : Call} {other : LacRef}
    (ran : forgetCall call before = .ok () after) :
    after.title? other = before.title? other := by
  rcases forgetCall_ok ran with ⟨_, rfl⟩ | ⟨_, _, _, _, ran⟩
  · rfl
  · rw [scheduleRedial_title ran]
    exact title_setLac (fun _ => rfl) fun _ => rfl

theorem destroyCall_title {other : LacRef} (ran : destroyCall t ref before = .ok () after) :
    after.title? other = before.title? other := by
  obtain ⟨_, _, _, _, _, _, ran⟩ := destroyCall_ok ran
  have kept := @forgetCall_title _ _ _ other ran
  exact kept

theorem Aside.opens (same : Aside before after) :
    after.opens lac = before.opens lac := by
  have book : (after.lac? lac).map Lac.book = (before.lac? lac).map Lac.book := by
    have found : ∀ state : Daemon, Keyed.find LacBook.ref lac (state.laclist.map Lac.book) =
        (state.lac? lac).map Lac.book := fun state => Keyed.find_map (by intro _; rfl)
    rw [← found, ← found, same.lacs]
  have read := congrArg (fun found => Option.map LacBook.t found) book
  simp only [Option.map_map] at read
  exact read

theorem bury_opens (ran : bury t tunnel before = .ok () after) :
    after.opens lac =
      if tunnel.lac = some lac then (before.opens lac).map fun _ => none else before.opens lac := by
  obtain ⟨forgot, noted, trace, forget, aside, _, _, ran⟩ := bury_ok ran
  have first : forgot.opens lac =
      if tunnel.lac = some lac then (before.opens lac).map fun _ => none
      else before.opens lac := by
    rcases forgetTunnelLac_ok forget with ⟨unowned, rfl⟩ | ⟨ref, entry, owner, _, ran⟩
    · rw [unowned, if_neg (by simp)]
      rfl
    · rw [opens_of_title (scheduleRedial_title ran), owner]
      unfold Daemon.opens
      rw [lac_setLac (by intro _; rfl)]
      by_cases same : lac = ref
      · rw [if_pos same, if_pos (congrArg some same.symm), Option.map_map, Option.map_map]
        rfl
      · rw [if_neg same, if_neg fun equal => same (Option.some.inj equal).symm]
        rfl
  have last := opens_of_title (@forgetCall_title _ _ _ lac ran)
  exact last.trans (aside.opens.trans first)

structure Daemon.Titled (state : Daemon) : Prop where
  known : ∀ lac, (state.opens lac).isSome → lac < state.fresh
  owned : ∀ tunnel ∈ state.tunnels, ∀ lac, tunnel.lac = some lac → lac < state.fresh
  holder : ∀ tunnel ∈ state.tunnels, ∀ lac owner, tunnel.lac = some lac →
    state.opens lac = some owner → owner = some tunnel.ref

def Heirs (before after : Daemon) : Prop :=
  ∀ tunnel ∈ after.tunnels, ∃ old ∈ before.tunnels, old.ref = tunnel.ref ∧
    ∀ lac, tunnel.lac = some lac → old.lac = some lac

theorem Heirs.same (tunnels : after.tunnels = before.tunnels) : Heirs before after := by
  intro tunnel member
  rw [tunnels] at member
  exact ⟨tunnel, member, rfl, fun _ owner => owner⟩

theorem Heirs.trans (first : Heirs before middle) (second : Heirs middle after) :
    Heirs before after := by
  intro tunnel member
  obtain ⟨between, memberBetween, ref, owner⟩ := second tunnel member
  obtain ⟨old, memberOld, refOld, ownerOld⟩ := first between memberBetween
  exact ⟨old, memberOld, refOld.trans ref, fun lac title => ownerOld lac (owner lac title)⟩

theorem heirs_setTunnel {change : Tunnel → Tunnel}
    (named : ∀ tunnel, (change tunnel).ref = tunnel.ref)
    (keeps : ∀ tunnel, (change tunnel).lac = tunnel.lac ∨ (change tunnel).lac = none) :
    Heirs before (before.setTunnel t change) := by
  intro tunnel member
  rcases mem_setTunnel member with kept | ⟨old, found, rfl⟩
  · exact ⟨tunnel, kept, rfl, fun _ owner => owner⟩
  · refine ⟨old, Keyed.find_mem found, (named old).symm, fun lac owner => ?_⟩
    rcases keeps old with same | gone
    · rw [← same]
      exact owner
    · rw [gone] at owner
      cases owner

theorem Daemon.Titled.heirs (titled : before.Titled) (heirs : Heirs before after)
    (fresh : before.fresh ≤ after.fresh)
    (opens : ∀ lac owner, after.opens lac = some owner → before.opens lac = some owner) :
    after.Titled where
  known := by
    intro lac known
    obtain ⟨owner, found⟩ := Option.isSome_iff_exists.mp known
    have wasKnown : (before.opens lac).isSome := by
      rw [opens lac owner found]
      rfl
    exact (titled.known lac wasKnown).trans_le fresh
  owned := by
    intro tunnel member lac owner
    obtain ⟨old, memberOld, _, ownerOld⟩ := heirs tunnel member
    exact (titled.owned old memberOld lac (ownerOld lac owner)).trans_le fresh
  holder := by
    intro tunnel member lac owner title found
    obtain ⟨old, memberOld, ref, ownerOld⟩ := heirs tunnel member
    rw [← ref]
    exact titled.holder old memberOld lac owner (ownerOld lac title) (opens lac owner found)

theorem opens_link {lac : Option LacRef} {ref : LacRef}
    (known : ∀ ref, lac = some ref → (before.opens ref).isSome) :
    ((before.opened tunnel).record lac fun entry => { entry with t := some before.fresh }).opens
        ref =
      if lac = some ref then some (some before.fresh) else before.opens ref := by
  cases lac with
  | none =>
    rw [if_neg (by simp)]
    rfl
  | some lac =>
    have before := known lac rfl
    unfold Daemon.opens Daemon.record at *
    rw [Option.isSome_map] at before
    obtain ⟨entry, found⟩ := Option.isSome_iff_exists.mp before
    rw [lac_setLac (by intro _; rfl)]
    by_cases same : ref = lac
    · have foundSame : (Daemon.opened _ tunnel).lac? ref = some entry := same ▸ found
      rw [if_pos same, if_pos (congrArg some same.symm), foundSame]
      rfl
    · rw [if_neg same, if_neg fun equal => same (Option.some.inj equal).symm]
      rfl

theorem Daemon.Titled.link {lac : Option LacRef} (titled : before.Titled)
    (named : tunnel.ref = before.fresh) (owner : tunnel.lac = lac)
    (free : ∀ ref, lac = some ref → before.opens ref = some none) (after_eq : after =
      (before.opened tunnel).record lac fun entry => { entry with t := some before.fresh })
    (fresh : before.fresh ≤ after.fresh) : after.Titled := by
  have known : ∀ ref, lac = some ref → (before.opens ref).isSome := by
    intro ref isLac
    rw [free ref isLac]
    rfl
  have opens : ∀ ref, after.opens ref =
      if lac = some ref then some (some before.fresh) else before.opens ref := by
    rw [after_eq]
    exact fun ref => opens_link known
  have members : ∀ other ∈ after.tunnels, other = tunnel ∨ other ∈ before.tunnels := by
    rw [after_eq, Daemon.record_tunnels]
    exact fun other member => List.mem_cons.mp member
  refine ⟨?_, ?_, ?_⟩
  · intro ref some
    rw [opens] at some
    refine (titled.known ref ?_).trans_le fresh
    split at some
    · exact known ref ‹_›
    · exact some
  · intro other member ref title
    rcases members other member with rfl | old
    · rw [owner] at title
      exact (titled.known ref (known ref title)).trans_le fresh
    · exact (titled.owned other old ref title).trans_le fresh
  · intro other member ref holder title found
    rw [opens] at found
    rcases members other member with rfl | old
    · rw [owner] at title
      rw [if_pos title] at found
      rw [named]
      exact (Option.some.inj found).symm
    · split at found
      · -- An old tunnel of the entry would be named by it.
        cases titled.holder other old ref none title (free ref ‹_›)
      · exact titled.holder other old ref holder title found

theorem Daemon.Titled.bury (titled : before.Titled) (found : before.tunnel? t = some tunnel)
    (ran : bury t tunnel before = .ok () after) :
    after.Titled := by
  have kept : ∀ other ∈ after.tunnels, other ∈ before.tunnels ∧ other.ref ≠ t := by
    intro other member
    rw [bury_tunnels ran] at member
    exact Keyed.mem_remove.mp member
  have fresh := (bury_grows ran).fresh
  refine ⟨?_, ?_, ?_⟩
  · intro lac known
    rw [bury_opens ran] at known
    refine (titled.known lac ?_).trans_le fresh
    split at known
    · rw [Option.isSome_map] at known
      exact known
    · exact known
  · intro other member lac title
    exact (titled.owned other (kept other member).1 lac title).trans_le fresh
  · intro other member lac holder title foundHolder
    obtain ⟨old, apart⟩ := kept other member
    rw [bury_opens ran] at foundHolder
    split at foundHolder
    · rename_i mine
      -- The entry of the tunnel that goes named that tunnel, so it is not this one's.
      cases named : before.opens lac with
      | none =>
        rw [named] at foundHolder
        cases foundHolder
      | some holder =>
        have this := titled.holder tunnel (Keyed.find_mem found) lac holder mine named
        have that := titled.holder other old lac holder title named
        rw [this] at that
        exact absurd ((Option.some.inj that).symm.trans (Keyed.find_key found)) apart
    · exact titled.holder other old lac holder title foundHolder

theorem forsake_opens {lac other : LacRef} {owner : Option TunnelRef}
    (ran : forsake lac before = .ok () after) (found : after.opens other = some owner) :
    before.opens other = some owner := by
  unfold Daemon.opens Daemon.lac? at found ⊢
  rw [(forsake_frame ran).laclist] at found
  obtain ⟨entry, kept, rfl⟩ := Option.map_eq_some_iff.mp found
  exact Option.map_eq_some_iff.mpr ⟨entry, Keyed.find_of_remove kept, rfl⟩

theorem forsake_heirs (ran : forsake lac before = .ok () after) :
    Heirs before after := by
  obtain ⟨_, dropped, detached, _, drop, detach, rfl⟩ := forsake_ok ran
  have first : Heirs before dropped := by
    rcases drop with ⟨_, rfl⟩ | ⟨_, _, rfl⟩
    · exact Heirs.same rfl
    · exact heirs_setTunnel (fun _ => rfl) fun _ => .inr rfl
  have second : Heirs dropped detached := by
    rcases detach with ⟨_, rfl⟩ | ⟨_, _, _, rfl⟩
    · exact Heirs.same rfl
    · exact heirs_setTunnel (fun _ => rfl) fun _ => .inl rfl
  exact first.trans (second.trans (Heirs.same rfl))

theorem Op.titled (op : Op rules env before after) (titled : before.Titled) : after.Titled := by
  have fresh := op.grows.fresh
  have same : ∀ lac owner, before.opens lac = some owner → before.opens lac = some owner :=
    fun _ _ found => found
  cases op with
  | aside kept =>
    exact titled.heirs (Heirs.same kept.tunnels) fresh fun _ _ found => kept.opens ▸ found
  | store t change _ keeps =>
    refine titled.heirs (heirs_setTunnel (fun tunnel => ?_) fun tunnel => .inl ?_) fresh same
    · exact congrArg TunnelDeed.ref (keeps tunnel)
    · exact congrArg TunnelDeed.lac (keeps tunnel)
  | link tunnel lac _ blank free =>
    refine titled.link (congrArg TunnelDeed.ref blank) (congrArg TunnelDeed.lac blank) ?_ rfl fresh
    intro ref isLac
    obtain ⟨entry, found, unopened⟩ := free ref isLac
    unfold Daemon.opens
    rw [found, Option.map_some, unopened]
  | choose | inherit | assign =>
    exact titled.heirs (heirs_setTunnel (fun _ => rfl) fun _ => .inl rfl) fresh same
  | place t tunnel call lac =>
    refine titled.heirs ?_ fresh fun _ _ found => ?_
    · refine Heirs.trans ?_ (Heirs.same (Daemon.record_tunnels _ lac _))
      exact heirs_setTunnel (fun _ => rfl) fun _ => .inl rfl
    · rw [opens_of_title (title_record (by intro _; rfl) (by intro _; rfl))] at found
      exact found
  | destroyCall t ref _ _ ran =>
    refine titled.heirs ?_ fresh fun _ _ found => opens_of_title (destroyCall_title ran) ▸ found
    refine Heirs.trans ?_ (Heirs.same (destroyCall_tunnels ran))
    exact heirs_setTunnel (fun _ => rfl) fun _ => .inl rfl
  | bury t tunnel _ _ found _ ran => exact titled.bury found ran
  | retry =>
    refine titled.heirs (Heirs.same rfl) fresh fun _ _ found => ?_
    rw [opens_of_title (title_setLac (by intro _; rfl) (by intro _; rfl))] at found
    exact found
  | postpone lac _ ran =>
    exact titled.heirs (Heirs.same (scheduleRedial_frame ran).tunnels) fresh
      fun _ _ found => opens_of_title (scheduleRedial_title ran) ▸ found
  | addLac entry blank =>
    have named : entry.ref = before.fresh := congrArg LacBook.ref blank
    have opens : ∀ ref, ref ≠ before.fresh → Daemon.opens
        { before with fresh := before.fresh + 1, laclist := entry :: before.laclist } ref =
        before.opens ref := by
      intro ref apart
      unfold Daemon.opens Daemon.lac?
      rw [Keyed.find_cons, if_neg fun equal => apart (equal.symm.trans named)]
    refine ⟨?_, ?_, ?_⟩
    · intro ref known
      by_cases new : ref = before.fresh
      · exact new ▸ Nat.lt_succ_self _
      · rw [opens ref new] at known
        exact (titled.known ref known).trans_le fresh
    · exact fun tunnel member lac title =>
        (titled.owned tunnel member lac title).trans_le fresh
    · intro tunnel member lac holder title found
      have old := titled.owned tunnel member lac title
      rw [opens lac (Nat.ne_of_lt old)] at found
      exact titled.holder tunnel member lac holder title found
  | dropLac lac _ ran =>
    exact titled.heirs (forsake_heirs ran) fresh fun _ _ found => forsake_opens ran found
  | _ => exact titled.heirs (Heirs.same rfl) fresh same

theorem Booted.titled (booted : Booted state) : state.Titled where
  known := by
    intro lac known
    unfold Daemon.opens at known
    rw [Option.isSome_map] at known
    obtain ⟨entry, found⟩ := Option.isSome_iff_exists.mp known
    rw [← Keyed.find_key found]
    exact (booted.lacFresh entry (Keyed.find_mem found)).1
  owned := by simp [booted.tunnels]
  holder := by simp [booted.tunnels]

theorem runs_titled (runs : Runs env condition state) :
    state.Titled :=
  runs_ledger runs (fun _ booted => booted.titled) fun _ _ op => op.titled

/-! ## Redials -/

/-- New timers are redials of active LAC entries. -/
def Redials (before after : Daemon) : Prop :=
  ∀ entry ∈ after.events, entry ∈ before.events ∨
    ∃ lac, entry.event = .magicLacDial lac ∧ before.awake lac = some true

theorem Redials.trans (first : Redials before middle) (second : Redials middle after)
    (awake : ∀ lac, middle.awake lac = before.awake lac) : Redials before after := by
  intro entry member
  rcases second entry member with kept | ⟨lac, dials, active⟩
  · exact first entry kept
  · exact .inr ⟨lac, dials, awake lac ▸ active⟩

theorem Redials.later (redials : Redials middle after) (events : middle.events = before.events)
    (awake : ∀ lac, middle.awake lac = before.awake lac) : Redials before after :=
  Redials.trans (fun _ member => .inl (events ▸ member)) redials awake

theorem Redials.same (events : after.events = before.events) : Redials before after :=
  fun _ member => .inl (events ▸ member)

theorem scheduleRedial_redials (ran : scheduleRedial lac before = .ok () after) :
    Redials before after := by
  obtain ⟨found, known, rfl | ⟨⟨_, active⟩, delay, rfl⟩⟩ := scheduleRedial_ok ran
  · exact Redials.same rfl
  · intro entry member
    rcases mem_insertEntry.mp member with rfl | kept
    · refine .inr ⟨lac, rfl, ?_⟩
      unfold Daemon.awake
      rw [known, Option.map_some, active]
    · exact .inl kept

theorem forgetCall_redials {call : Call} (ran : forgetCall call before = .ok () after) :
    Redials before after := by
  rcases forgetCall_ok ran with ⟨_, rfl⟩ | ⟨lac, _, _, _, ran⟩
  · exact Redials.same rfl
  · refine (scheduleRedial_redials ran).later rfl fun other => ?_
    exact awake_of_title (title_setLac (fun _ => rfl) fun _ => rfl)

theorem destroyCall_redials (ran : destroyCall t ref before = .ok () after) :
    Redials before after := by
  obtain ⟨_, _, _, _, _, _, ran⟩ := destroyCall_ok ran
  exact (forgetCall_redials ran).later rfl fun _ => rfl

theorem awake_setLac {lac other : LacRef} (named : ∀ entry, (change entry).ref = entry.ref)
    (keeps : ∀ entry, (change entry).active = entry.active) :
    (state.setLac lac change).awake other = state.awake other := by
  unfold Daemon.awake
  rw [lac_setLac named]
  split
  · rw [Option.map_map]
    exact congrArg (fun read => (state.lac? other).map read) (funext keeps)
  · rfl

theorem forgetTunnelLac_redials {lac : Option LacRef}
    (ran : forgetTunnelLac lac before = .ok () after) : Redials before after := by
  rcases forgetTunnelLac_ok ran with ⟨_, rfl⟩ | ⟨ref, _, _, _, ran⟩
  · exact Redials.same rfl
  · exact (scheduleRedial_redials ran).later rfl fun other =>
      awake_setLac (fun _ => rfl) fun _ => rfl

theorem forgetTunnelLac_awake {lac : Option LacRef} {other : LacRef}
    (ran : forgetTunnelLac lac before = .ok () after) : after.awake other = before.awake other := by
  rcases forgetTunnelLac_ok ran with ⟨_, rfl⟩ | ⟨ref, _, _, _, ran⟩
  · rfl
  · rw [awake_of_title (scheduleRedial_title ran)]
    exact awake_setLac (fun _ => rfl) fun _ => rfl

theorem bury_awake (ran : bury t tunnel before = .ok () after) :
    after.awake lac = before.awake lac := by
  obtain ⟨forgot, noted, trace, forget, _, listed, _, ran⟩ := bury_ok ran
  have first := @forgetTunnelLac_awake _ _ _ lac forget
  have second : noted.awake lac = forgot.awake lac := by
    unfold Daemon.awake Daemon.lac?
    rw [listed]
  have last := awake_of_title (@forgetCall_title _ _ _ lac ran)
  exact last.trans (second.trans first)

theorem bury_redials (ran : bury t tunnel before = .ok () after) :
    Redials before after := by
  obtain ⟨forgot, noted, trace, forget, aside, listed, _, ran⟩ := bury_ok ran
  have first : Redials before forgot :=
    (forgetTunnelLac_redials forget).later rfl fun _ => rfl
  have last : Redials forgot after := by
    refine (forgetCall_redials ran).later aside.events fun lac => ?_
    unfold Daemon.awake Daemon.lac?
    rw [listed]
  refine Redials.trans first last fun lac => ?_
  have kept := @forgetTunnelLac_awake _ _ _ lac forget
  exact kept

theorem Op.redials {entry : Entry} (op : Op rules env before after) (member : entry ∈ after.events)
    (dials : entry.event = .magicLacDial lac) :
    entry ∈ before.events ∨ before.awake lac = some true := by
  have ofRedials : Redials before after → entry ∈ before.events ∨ before.awake lac = some true := by
    intro redials
    refine (redials entry member).imp id ?_
    rintro ⟨other, same, active⟩
    rw [dials] at same
    cases same
    exact active
  have scheduled : ∀ {delay event}, after = before.scheduled delay event →
      event ≠ .magicLacDial lac → entry ∈ before.events ∨ before.awake lac = some true := by
    rintro delay event rfl apart
    rcases mem_insertEntry.mp member with rfl | kept
    · exact absurd dials apart
    · exact .inl kept
  cases op with
  | aside same => exact .inl (same.events ▸ member)
  | link tunnel linked =>
    cases linked <;> exact .inl member
  | place t tunnel call placed =>
    cases placed <;> exact .inl member
  | destroyCall t ref _ _ ran => exact ofRedials (destroyCall_redials ran)
  | bury t tunnel _ _ _ _ ran => exact ofRedials (bury_redials ran)
  | hello => exact scheduled rfl (by simp)
  | queue => exact scheduled rfl (by simp)
  | expire first rest _ head => exact .inl (head ▸ List.mem_cons_of_mem first member)
  | deschedule => exact .inl (List.mem_of_mem_filter member)
  | postpone _ _ ran => exact ofRedials (scheduleRedial_redials ran)
  | dropLac _ _ ran => exact .inl ((forsake_frame ran).events ▸ member)
  | _ => exact .inl member

/-! ## The LNS entries -/

def Daemon.lnsBooks (state : Daemon) : List Lns × Option Lns :=
  (state.lnslist.map Lns.book, state.deflns.map Lns.book)

theorem Aside.lnsBooks (same : Aside before after) : after.lnsBooks = before.lnsBooks :=
  Prod.ext same.lnss same.deflns

theorem lns_of_books {lns : LnsRef} (same : after.lnsBooks = before.lnsBooks) :
    (after.lns? lns).map Lns.book = (before.lns? lns).map Lns.book := by
  have shown : ∀ state : Daemon, (state.lns? lns).map Lns.book =
      Keyed.find Lns.ref lns (state.lnsBooks.1 ++ state.lnsBooks.2.toList) := by
    intro state
    have parts : state.lnsBooks.1 ++ state.lnsBooks.2.toList =
        (state.lnslist ++ state.deflns.toList).map Lns.book := by
      unfold Daemon.lnsBooks
      cases state.deflns <;> simp
    rw [parts]
    exact (Keyed.find_map (by intro _; rfl)).symm
  rw [shown, shown, same]

theorem RedialFrame.lnsBooks (frame : RedialFrame before after) :
    after.lnsBooks = before.lnsBooks := by
  unfold Daemon.lnsBooks
  rw [frame.lnslist, frame.deflns]

theorem ForsakeFrame.lnsBooks (frame : ForsakeFrame lac before after) :
    after.lnsBooks = before.lnsBooks := by
  unfold Daemon.lnsBooks
  rw [frame.lnslist, frame.deflns]

theorem destroyCall_lnsBooks (ran : destroyCall t ref before = .ok () after) :
    after.lnsBooks = before.lnsBooks := by
  obtain ⟨_, _, _, _, _, _, ran⟩ := destroyCall_ok ran
  exact (forgetCall_frame ran).lnsBooks

theorem bury_lnsBooks (ran : bury t tunnel before = .ok () after) :
    after.lnsBooks = before.lnsBooks := by
  obtain ⟨_, _, _, forget, aside, _, _, ran⟩ := bury_ok ran
  exact (forgetCall_frame ran).lnsBooks.trans
    (aside.lnsBooks.trans (forgetTunnelLac_frame forget).lnsBooks)

/-! ## Order among the tunnels -/

/-- Calls with places of their own, and an own call with the tunnel's LAC entry and no address. -/
structure TunnelDeed.Orderly (fresh : Nat) (deed : TunnelDeed) : Prop where
  self : deed.self.lac = deed.lac
  bare : deed.self.addr = 0
  distinct : (deed.calls.map CallDeed.ref).Nodup
  old : ∀ ref ∈ deed.calls.map CallDeed.ref, ref < fresh

structure Daemon.Orderly (state : Daemon) : Prop where
  distinct : (state.tunnels.map Tunnel.ref).Nodup
  old : ∀ tunnel ∈ state.tunnels, tunnel.ref < state.fresh
  tunnels : ∀ tunnel ∈ state.tunnels, tunnel.deed.Orderly state.fresh

theorem TunnelDeed.Orderly.shrink {fresh later : Nat} {old new : TunnelDeed}
    (orderly : old.Orderly fresh) (grew : fresh ≤ later) (lac : new.lac = old.lac)
    (self : new.self = old.self)
    (fewer : (new.calls.map CallDeed.ref).Sublist (old.calls.map CallDeed.ref)) :
    new.Orderly later where
  self := by
    rw [lac, self]
    exact orderly.self
  bare := self ▸ orderly.bare
  distinct := orderly.distinct.sublist fewer
  old := fun ref member => (orderly.old ref (fewer.subset member)).trans_le grew

theorem TunnelDeed.Orderly.join {fresh later : Nat} {old : TunnelDeed} {call : CallDeed}
    {count : Int} (orderly : old.Orderly fresh) (new : call.ref = fresh)
    (grew : fresh + 1 ≤ later) :
    TunnelDeed.Orderly later { old with calls := call :: old.calls, count := count } where
  self := orderly.self
  bare := orderly.bare
  distinct := by
    refine List.nodup_cons.mpr ⟨fun member => ?_, orderly.distinct⟩
    rw [new] at member
    exact absurd (orderly.old fresh member) (Nat.lt_irrefl _)
  old := by
    intro ref member
    rcases List.mem_cons.mp member with rfl | earlier
    · rw [new]
      exact Nat.lt_of_lt_of_le (Nat.lt_succ_self _) grew
    · exact (orderly.old ref earlier).trans (Nat.lt_of_lt_of_le (Nat.lt_succ_self _) grew)

theorem Origin.orderly {deed : TunnelDeed} (grew : before.fresh ≤ after.fresh)
    (orderly : ∀ tunnel ∈ before.tunnels, tunnel.deed.Orderly before.fresh)
    (origin : Origin env before after deed) : deed.Orderly after.fresh := by
  cases origin with
  | kept member | chosen member =>
    exact (orderly _ member).shrink grew rfl rfl (List.Sublist.refl _)
  | born => exact ⟨rfl, rfl, List.nodup_nil, fun ref member => absurd member List.not_mem_nil⟩
  | inherited member grew | placed member _ _ grew => exact (orderly _ member).join rfl grew
  | dropped member =>
    exact (orderly _ member).shrink grew rfl rfl (List.filter_sublist.map _)
  | @assigned old member ref addr =>
    have same : (Keyed.update CallDeed.ref ref (fun call => { call with addr := addr })
        old.deed.calls).map CallDeed.ref = old.deed.calls.map CallDeed.ref :=
      Keyed.map_update_same fun _ => rfl
    exact (orderly _ member).shrink grew rfl rfl (same ▸ List.Sublist.refl _)
  | @faded old deed member fades =>
    have before := orderly _ member
    have refs : deed.calls.map CallDeed.ref = old.deed.calls.map CallDeed.ref := by
      have image := congrArg (List.map CallDeed.ref) fades.calls
      rw [List.map_map, List.map_map] at image
      exact image
    rcases fades.owner with ⟨lac, same⟩ | ⟨lac, gone⟩
    · exact before.shrink grew lac same (refs ▸ List.Sublist.refl _)
    · refine ⟨?_, ?_, refs ▸ before.distinct, fun ref member => ?_⟩
      · rw [lac, gone]
        rfl
      · rw [gone]
        exact before.bare
      · rw [refs] at member
        exact (before.old ref member).trans_le grew

theorem Op.orderly (op : Op rules env before after) (orderly : before.Orderly) :
    after.Orderly := by
  have refs : ∀ state : Daemon, state.tunnels.map Tunnel.ref =
      (state.tunnels.map Tunnel.name).map Prod.fst := fun state => by rw [List.map_map]; rfl
  have fresh := op.grows.fresh
  have each : ∀ tunnel ∈ after.tunnels, tunnel.deed.Orderly after.fresh :=
    fun tunnel member => (op.origin member).orderly fresh orderly.tunnels
  rcases op.names with fewer | ⟨more, _, grew, _⟩
  · have sub : (after.tunnels.map Tunnel.ref).Sublist (before.tunnels.map Tunnel.ref) := by
      rw [refs, refs]
      exact fewer.map _
    refine ⟨orderly.distinct.sublist sub, fun tunnel member => ?_, each⟩
    obtain ⟨old, memberOld, named⟩ := List.mem_map.mp (sub.subset (List.mem_map_of_mem member))
    rw [← named]
    exact (orderly.old old memberOld).trans_le fresh
  · have listed : after.tunnels.map Tunnel.ref =
        before.fresh :: before.tunnels.map Tunnel.ref := by
      rw [refs, more, List.map_cons, ← refs]
    refine ⟨?_, fun tunnel member => ?_, each⟩
    · rw [listed, List.nodup_cons]
      refine ⟨fun already => ?_, orderly.distinct⟩
      obtain ⟨old, memberOld, named⟩ := List.mem_map.mp already
      exact absurd named (Nat.ne_of_lt (orderly.old old memberOld))
    · have named : tunnel.ref ∈ after.tunnels.map Tunnel.ref := List.mem_map_of_mem member
      rw [listed] at named
      rcases List.mem_cons.mp named with new | earlier
      · rw [new]
        exact Nat.lt_of_lt_of_le (Nat.lt_add_of_pos_right (by decide)) grew
      · obtain ⟨old, memberOld, same⟩ := List.mem_map.mp earlier
        rw [← same]
        exact (orderly.old old memberOld).trans_le fresh

theorem Booted.orderly (booted : Booted state) : state.Orderly := by
  refine ⟨?_, ?_, ?_⟩ <;> simp [booted.tunnels]

theorem runs_orderly (runs : Runs env condition state) :
    state.Orderly :=
  runs_ledger runs (fun _ booted => booted.orderly) fun _ _ op => op.orderly

theorem Daemon.Orderly.found (orderly : state.Orderly) (member : tunnel ∈ state.tunnels) :
    state.tunnel? tunnel.ref = some tunnel :=
  Keyed.find_of_mem orderly.distinct member

/-! ## Entries that are not active -/

structure Daemon.Dormant (state : Daemon) (lac : LacRef) : Prop where
  old : lac < state.fresh
  asleep : state.awake lac ≠ some true
  quiet : ∀ entry ∈ state.events, entry.event ≠ .magicLacDial lac

theorem awake_of_switch (same : after.laclist.map Lac.switch = before.laclist.map Lac.switch) :
    after.awake lac = before.awake lac := by
  have shown : ∀ state : Daemon, state.awake lac =
      (Keyed.find Prod.fst lac (state.laclist.map Lac.switch)).map Prod.snd := by
    intro state
    have found : Keyed.find Prod.fst lac (state.laclist.map Lac.switch) =
        (state.lac? lac).map Lac.switch := Keyed.find_map (by intro _; rfl)
    rw [found, Option.map_map]
    rfl
  rw [shown, shown, same]

theorem Op.awake (strict : ¬ rules.toggles) (old : lac < before.fresh)
    (op : Op rules env before after) (asleep : before.awake lac ≠ some true) :
    after.awake lac ≠ some true := by
  have same : after.awake lac = before.awake lac → after.awake lac ≠ some true :=
    fun equal => equal ▸ asleep
  cases op with
  | aside _ still => exact same (awake_of_switch (still strict))
  | link tunnel owner =>
    refine same ?_
    cases owner with
    | none => rfl
    | some ref => exact awake_setLac (fun _ => rfl) fun _ => rfl
  | place t tunnel call owner =>
    exact same (awake_of_title (title_record (by intro _; rfl) (by intro _; rfl)))
  | destroyCall t ref _ _ ran => exact same (awake_of_title (destroyCall_title ran))
  | bury t tunnel _ _ _ _ ran => exact same (bury_awake ran)
  | retry => exact same (awake_of_title (title_setLac (by intro _; rfl) (by intro _; rfl)))
  | postpone other _ ran => exact same (awake_of_title (scheduleRedial_title ran))
  | addLac entry blank =>
    refine same ?_
    have named : entry.ref = before.fresh := congrArg LacBook.ref blank
    unfold Daemon.awake Daemon.lac?
    rw [Keyed.find_cons, if_neg fun equal => Nat.ne_of_gt old (named.symm.trans equal)]
  | dropLac other _ ran =>
    unfold Daemon.awake Daemon.lac? at *
    rw [(forsake_frame ran).laclist]
    by_cases removed : lac = other
    · rw [removed, Keyed.find_remove_same]
      simp
    · rw [Keyed.find_remove_other removed]
      exact asleep
  | _ => exact same rfl

theorem Op.dormant (strict : ¬ rules.toggles) (op : Op rules env before after)
    (dormant : before.Dormant lac) : after.Dormant lac where
  old := dormant.old.trans_le op.grows.fresh
  asleep := op.awake strict dormant.old dormant.asleep
  quiet := by
    intro entry member dials
    rcases op.redials member dials with kept | active
    · exact dormant.quiet entry kept dials
    · exact dormant.asleep active

theorem steps_dormant (strict : ¬ rules.toggles)
    (steps : Relation.ReflTransGen (Op rules env) before after) (dormant : before.Dormant lac) :
    after.Dormant lac := by
  induction steps with
  | refl => exact dormant
  | tail _ op ih => exact op.dormant strict ih

/-! ## The queue -/

theorem filter_insertEntry {test : Entry → Bool} {entry : Entry} {entries : List Entry}
    (fails : test entry = false) :
    (insertEntry entry entries).filter test = entries.filter test := by
  induction entries with
  | nil => simp [insertEntry, fails]
  | cons head rest ih =>
    unfold insertEntry
    split
    · simp [fails]
    · rw [List.filter_cons, List.filter_cons, ih]

def Daemon.timers (state : Daemon) (u : TunnelRef) : List Entry :=
  state.events.filter fun entry => entry.event.belongs u

theorem timers_scheduled {delay : Timeval} {event : Event} (other : event.belongs u = false) :
    (state.scheduled delay event).timers u = state.timers u :=
  filter_insertEntry other

theorem scheduleRedial_timers {lac : LacRef} (ran : scheduleRedial lac before = .ok () after) :
    after.timers u = before.timers u := by
  obtain ⟨_, _, rfl | ⟨_, delay, rfl⟩⟩ := scheduleRedial_ok ran
  · rfl
  · exact timers_scheduled rfl

theorem forgetCall_timers {call : Call} (ran : forgetCall call before = .ok () after) :
    after.timers u = before.timers u := by
  rcases forgetCall_ok ran with ⟨_, rfl⟩ | ⟨_, _, _, _, ran⟩
  · rfl
  · have kept := @scheduleRedial_timers _ _ u _ ran
    exact kept

theorem destroyCall_timers (ran : destroyCall t ref before = .ok () after) :
    after.timers u = before.timers u := by
  obtain ⟨_, _, _, _, _, _, ran⟩ := destroyCall_ok ran
  have kept := @forgetCall_timers _ _ u _ ran
  exact kept

theorem bury_timers (ran : bury t tunnel before = .ok () after) :
    after.timers u = before.timers u := by
  obtain ⟨forgot, noted, trace, forget, aside, _, _, ran⟩ := bury_ok ran
  have first : forgot.timers u = before.timers u := by
    rcases forgetTunnelLac_ok forget with ⟨_, rfl⟩ | ⟨_, _, _, _, ran⟩
    · rfl
    · have kept := @scheduleRedial_timers _ _ u _ ran
      exact kept
  have second : noted.timers u = forgot.timers u := by
    unfold Daemon.timers
    rw [aside.events]
  have last := @forgetCall_timers _ _ u _ ran
  exact last.trans (second.trans first)

/-! ## What is not touched -/

structure Untouched (u : TunnelRef) (before after : Daemon) : Prop where
  tunnel : after.tunnel? u = before.tunnel? u
  timers : after.timers u = before.timers u

theorem Untouched.refl (u : TunnelRef) (state : Daemon) : Untouched u state state := ⟨rfl, rfl⟩

theorem Untouched.trans (first : Untouched u before middle) (second : Untouched u middle after) :
    Untouched u before after :=
  ⟨second.tunnel.trans first.tunnel, second.timers.trans first.timers⟩

theorem tunnel_setTunnel_other {change : Tunnel → Tunnel} (other : u ≠ t)
    (named : ∀ tunnel, (change tunnel).ref = tunnel.ref) :
    (state.setTunnel t change).tunnel? u = state.tunnel? u :=
  Keyed.find_update_other named other

theorem tunnel_record (state : Daemon) (lac : Option LacRef) (change : Lac → Lac) :
    (state.record lac change).tunnel? u = state.tunnel? u := by
  cases lac <;> rfl

theorem timers_record (state : Daemon) (lac : Option LacRef) (change : Lac → Lac) :
    (state.record lac change).timers u = state.timers u := by
  cases lac <;> rfl

theorem Op.untouched (apart : ¬ rules.touched u) (still : ¬ rules.expires)
    (op : Op rules env before after) : Untouched u before after := by
  have differs : ∀ {t}, rules.touched t → u ≠ t := fun touch same => apart (same ▸ touch)
  cases op with
  | aside same =>
    refine ⟨?_, ?_⟩
    · unfold Daemon.tunnel?
      rw [same.tunnels]
    · unfold Daemon.timers
      rw [same.events]
  | store t change touch keeps =>
    exact ⟨tunnel_setTunnel_other (differs touch) fun tunnel =>
      congrArg TunnelDeed.ref (keeps tunnel), rfl⟩
  | link tunnel lac touch blank =>
    refine ⟨?_, timers_record _ lac _⟩
    have named : tunnel.ref = before.fresh := congrArg TunnelDeed.ref blank
    rw [tunnel_record]
    change Keyed.find Tunnel.ref u (tunnel :: before.tunnels) = _
    rw [Keyed.find_cons, if_neg (named ▸ (differs touch).symm)]
    rfl
  | choose t lns touch => exact ⟨tunnel_setTunnel_other (differs touch) fun _ => rfl, rfl⟩
  | inherit t c mandatory tunnel call touch =>
    exact ⟨tunnel_setTunnel_other (differs touch) fun _ => rfl, rfl⟩
  | place t tunnel call lac touch =>
    refine ⟨?_, timers_record _ lac _⟩
    rw [tunnel_record]
    exact tunnel_setTunnel_other (differs touch) fun _ => rfl
  | destroyCall t ref touch _ ran =>
    refine ⟨?_, destroyCall_timers ran⟩
    unfold Daemon.tunnel?
    rw [destroyCall_tunnels ran]
    exact tunnel_setTunnel_other (differs touch) fun _ => rfl
  | bury t tunnel touch _ _ _ ran =>
    refine ⟨?_, bury_timers ran⟩
    unfold Daemon.tunnel?
    rw [bury_tunnels ran, Keyed.find_remove_other (differs touch)]
  | assign t ref addr touch =>
    refine ⟨?_, rfl⟩
    exact tunnel_setTunnel_other (differs touch) fun _ => rfl
  | hello t delay touch | queue delay buffer touch =>
    exact ⟨rfl, timers_scheduled (decide_eq_false (differs touch).symm)⟩
  | expire _ _ allow => exact absurd allow still
  | deschedule t touch =>
    refine ⟨rfl, ?_⟩
    unfold Daemon.timers
    rw [List.filter_filter]
    refine List.filter_congr fun entry _ => ?_
    cases mine : entry.event.belongs u with
    | false => rfl
    | true =>
      have other : entry.event.belongs t = false := by
        cases named : entry.event with
        | hello tunnel | controlXmit buffer =>
          rw [named] at mine
          exact decide_eq_false (of_decide_eq_true mine ▸ differs touch)
        | magicLacDial lac => rfl
      rw [other]
      rfl
  | postpone lac _ ran =>
    refine ⟨?_, scheduleRedial_timers ran⟩
    unfold Daemon.tunnel?
    rw [(scheduleRedial_frame ran).tunnels]
  | dropLac lac touch => exact absurd (touch u) apart
  | _ => exact ⟨rfl, rfl⟩

theorem steps_untouched (apart : ¬ rules.touched u) (still : ¬ rules.expires)
    (steps : Relation.ReflTransGen (Op rules env) before after) : Untouched u before after := by
  induction steps with
  | refl => exact Untouched.refl u _
  | tail _ op ih => exact ih.trans (op.untouched apart still)

end Xl2tpd
