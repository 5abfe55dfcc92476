import Xl2tpd.Runs
import Xl2tpd.Ledger.Entries

/-!
# The lists of sessions

The tunnels are in one list and the calls of each in another, with counters beside them, and a LAC
entry and its tunnel name each other. All that comes and goes keeps the lists in order.
-/

namespace Xl2tpd

set_option autoImplicit false

open Program

variable {fresh later : Nat} {deed old : TunnelDeed} {tunnel : Tunnel}

variable {rules : Rules} {env : Env} {before after state : Daemon} {t : TunnelRef}
  {condition : Daemon → Input → Prop}

/-! ## Counters and containers -/

/-- The counter of a tunnel is right, its calls know the tunnel, and its own call is old. -/
structure TunnelDeed.Listed (fresh : Nat) (deed : TunnelDeed) : Prop where
  count : deed.count = (deed.calls.map CallDeed.container).length
  containers : ∀ container ∈ deed.calls.map CallDeed.container, container = deed.ref
  self : deed.self.ref < fresh

theorem TunnelDeed.Listed.same {new : TunnelDeed} (listed : old.Listed fresh) (grew : fresh ≤ later)
    (ref : new.ref = old.ref) (count : new.count = old.count) (self : new.self.ref = old.self.ref)
    (calls : new.calls.map CallDeed.container = old.calls.map CallDeed.container) :
    new.Listed later where
  count := by
    rw [count, calls]
    exact listed.count
  containers := by
    rw [calls, ref]
    exact listed.containers
  self := by
    rw [self]
    exact listed.self.trans_le grew

theorem TunnelDeed.Listed.join {call : CallDeed} (listed : old.Listed fresh)
    (grew : fresh ≤ later) (inside : call.container = old.ref) :
    TunnelDeed.Listed later
      { old with calls := call :: old.calls, count := old.count + 1 } where
  count := by
    rw [List.map_cons, List.length_cons, listed.count]
    rfl
  containers := by
    intro container member
    rcases List.mem_cons.mp member with rfl | earlier
    · exact inside
    · exact listed.containers container earlier
  self := listed.self.trans_le grew

theorem TunnelDeed.Listed.drop {ref : CallRef} {call : CallDeed} (listed : old.Listed fresh)
    (grew : fresh ≤ later) (distinct : (old.calls.map CallDeed.ref).Nodup)
    (found : Keyed.find CallDeed.ref ref old.calls = some call) :
    TunnelDeed.Listed later { old with
      calls := Keyed.remove CallDeed.ref ref old.calls
      count := old.count - 1 } := by
  obtain ⟨front, back, split, _⟩ := Keyed.find_split found
  have left : Keyed.remove CallDeed.ref ref old.calls = front ++ back := by
    rw [split] at distinct ⊢
    rw [← Keyed.find_key found]
    exact Keyed.remove_middle distinct
  refine ⟨?_, ?_, listed.self.trans_le grew⟩
  · have count := listed.count
    rw [split, List.length_map, List.length_append, List.length_cons] at count
    simp only [left, List.length_map, List.length_append]
    omega
  · intro container member
    refine listed.containers container (List.Sublist.subset ?_ member)
    exact List.filter_sublist.map _

theorem TunnelDeed.Fades.selfRef {new : TunnelDeed} (fades : old.Fades new) :
    new.self.ref = old.self.ref := by
  rcases fades.owner with ⟨_, self⟩ | ⟨_, self⟩
  · rw [self]
  · rw [self]
    rfl

theorem Origin.listed (grew : before.fresh ≤ after.fresh) (orderly : before.Orderly)
    (listed : ∀ tunnel ∈ before.tunnels, tunnel.deed.Listed before.fresh)
    (origin : Origin env before after deed) : deed.Listed after.fresh := by
  cases origin with
  | kept member | chosen member => exact (listed _ member).same grew rfl rfl rfl rfl
  | born lac _ more => exact ⟨rfl, fun _ absent => absurd absent List.not_mem_nil, more⟩
  | inherited member | placed member => exact (listed _ member).join grew rfl
  | dropped member ref inside =>
    obtain ⟨call, found⟩ := Option.isSome_iff_exists.mp inside
    exact (listed _ member).drop grew (orderly.tunnels _ member).distinct found
  | assigned member =>
    exact (listed _ member).same grew rfl rfl rfl (Keyed.map_update_same fun _ => rfl)
  | faded member fades =>
    have calls := congrArg (List.map CallDeed.container) fades.calls
    rw [List.map_map, List.map_map] at calls
    exact (listed _ member).same grew fades.ref fades.count fades.selfRef calls

/-! ## The tunnels' own calls -/

theorem Origin.selfRef (origin : Origin env before after deed) :
    deed.self.ref = before.fresh + 1 ∨
      ∃ old ∈ before.tunnels, deed.self.ref = old.self.ref := by
  cases origin with
  | born => exact .inl rfl
  | faded member fades => exact .inr ⟨_, member, fades.selfRef⟩
  | kept member | chosen member | inherited member | placed member | dropped member
  | assigned member => exact .inr ⟨_, member, rfl⟩

theorem Origin.callRefs {ref : CallRef} (origin : Origin env before after deed)
    (member : ref ∈ deed.calls.map CallDeed.ref) :
    ref = before.fresh ∨
      ∃ old ∈ before.tunnels, ref ∈ old.deed.calls.map CallDeed.ref := by
  cases origin with
  | kept listed => exact .inr ⟨_, listed, member⟩
  | chosen listed => exact .inr ⟨_, listed, member⟩
  | born => exact absurd member List.not_mem_nil
  | inherited listed | placed listed =>
    exact (List.mem_cons.mp member).imp id fun earlier => ⟨_, listed, earlier⟩
  | dropped listed =>
    exact .inr ⟨_, listed, (List.filter_sublist.map _).subset member⟩
  | @assigned old listed ref addr =>
    have same : (Keyed.update CallDeed.ref ref (fun call => { call with addr := addr })
        old.deed.calls).map CallDeed.ref = old.deed.calls.map CallDeed.ref :=
      Keyed.map_update_same fun _ => rfl
    exact .inr ⟨old, listed, same ▸ member⟩
  | @faded old deed listed fades =>
    have refs := congrArg (List.map CallDeed.ref) fades.calls
    rw [List.map_map, List.map_map] at refs
    have same : deed.calls.map CallDeed.ref = old.deed.calls.map CallDeed.ref := refs
    exact .inr ⟨old, listed, same ▸ member⟩

/-! ## The lists of tunnels and calls -/

structure Daemon.Listed (state : Daemon) : Prop where
  orderly : state.Orderly
  tunnels : ∀ tunnel ∈ state.tunnels, tunnel.deed.Listed state.fresh
  count : state.tunnelCount = state.tunnels.length
  selves : ∀ tunnel ∈ state.tunnels, ∀ other ∈ state.tunnels,
    tunnel.deed.self.ref ∉ other.deed.calls.map CallDeed.ref

theorem Roll.count (orderly : before.Orderly) (roll : Roll rules env before after)
    (count : before.tunnelCount = before.tunnels.length) :
    after.tunnelCount = after.tunnels.length := by
  have length : ∀ state : Daemon, state.tunnels.length = (state.tunnels.map Tunnel.name).length :=
    fun state => (List.length_map _).symm
  rcases roll with ⟨names, same⟩ | ⟨t, tunnel, found, tunnels, fewer⟩ | ⟨names, _, _, _, more⟩
  · rw [same, count, length after, names, ← length]
  · obtain ⟨front, back, split, _⟩ := Keyed.find_split found
    have distinct := orderly.distinct
    rw [fewer, count, tunnels, ← Keyed.find_key found]
    rw [split] at distinct ⊢
    rw [Keyed.remove_middle distinct, List.length_append, List.length_append, List.length_cons]
    omega
  · rw [more, count, length after, names, List.length_cons, ← length]
    rfl

theorem Op.listed (op : Op rules env before after) (listed : before.Listed) : after.Listed where
  orderly := op.orderly listed.orderly
  tunnels := fun tunnel member =>
    (op.origin member).listed op.grows.fresh listed.orderly listed.tunnels
  count := op.roll.count listed.orderly listed.count
  selves := by
    intro tunnel member other memberOther inside
    rcases (op.origin member).selfRef with born | ⟨old, memberOld, self⟩ <;>
      rcases (op.origin memberOther).callRefs inside with new | ⟨older, memberOlder, earlier⟩
    · exact absurd (born.symm.trans new) (Nat.succ_ne_self _)
    · have late := (listed.orderly.tunnels older memberOlder).old _ earlier
      rw [born] at late
      exact absurd late (Nat.not_lt_of_le (Nat.le_succ _))
    · have early := (listed.tunnels old memberOld).self
      rw [self] at new
      exact absurd new (Nat.ne_of_lt early)
    · rw [self] at earlier
      exact listed.selves old memberOld older memberOlder earlier

theorem Booted.listed (booted : Booted state) : state.Listed := by
  refine ⟨booted.orderly, ?_, ?_, ?_⟩ <;> simp [booted.tunnels, booted.tunnelCount]

theorem runs_listed (runs : Runs env condition state) :
    state.Listed :=
  runs_ledger runs (fun _ booted => booted.listed) fun _ _ op => op.listed

/-! ## The tunnels of the LAC entries -/

/-- A LAC entry that names a tunnel names one that is listed and refers to the entry. -/
def Daemon.Opening (state : Daemon) : Prop :=
  ∀ lac t, state.opens lac = some (some t) →
    ∃ tunnel, state.tunnel? t = some tunnel ∧ tunnel.lac = some lac

def Stays (before after : Daemon) : Prop :=
  ∀ t tunnel, before.tunnel? t = some tunnel →
    ∃ later, after.tunnel? t = some later ∧ later.lac = tunnel.lac

theorem Stays.same (tunnels : after.tunnels = before.tunnels) : Stays before after := by
  intro t tunnel found
  refine ⟨tunnel, ?_, rfl⟩
  unfold Daemon.tunnel? at found ⊢
  rw [tunnels]
  exact found

theorem stays_setTunnel {change : Tunnel → Tunnel}
    (named : ∀ tunnel, (change tunnel).ref = tunnel.ref)
    (owner : ∀ tunnel, (change tunnel).lac = tunnel.lac) :
    Stays before (before.setTunnel t change) := by
  intro u tunnel found
  by_cases same : u = t
  · subst same
    refine ⟨change tunnel, ?_, owner tunnel⟩
    rw [tunnel_setTunnel named, found]
    rfl
  · exact ⟨tunnel, (tunnel_setTunnel_other same named).trans found, rfl⟩

theorem Daemon.Opening.stays (opening : before.Opening) (stays : Stays before after)
    (opens : ∀ lac t, after.opens lac = some (some t) → before.opens lac = some (some t)) :
    after.Opening := by
  intro lac t names
  obtain ⟨tunnel, found, owner⟩ := opening lac t (opens lac t names)
  obtain ⟨later, foundLater, same⟩ := stays t tunnel found
  exact ⟨later, foundLater, same.trans owner⟩

theorem Daemon.Opening.link {lac : Option LacRef} (opening : before.Opening)
    (orderly : before.Orderly) (named : tunnel.ref = before.fresh) (owner : tunnel.lac = lac)
    (known : ∀ ref, lac = some ref → (before.opens ref).isSome) :
    Daemon.Opening ((before.opened tunnel).record lac fun entry =>
      { entry with t := some before.fresh }) := by
  intro ref t names
  rw [opens_link known] at names
  rw [tunnel_record]
  unfold Daemon.tunnel? Daemon.opened
  rw [Keyed.find_cons]
  split at names
  · rename_i mine
    cases names
    rw [if_pos named]
    exact ⟨tunnel, rfl, owner.trans mine⟩
  · obtain ⟨old, found, ownerOld⟩ := opening ref t names
    have apart : tunnel.ref ≠ t := by
      rw [named, ← Keyed.find_key found]
      exact (Nat.ne_of_lt (orderly.old old (Keyed.find_mem found))).symm
    rw [if_neg apart]
    exact ⟨old, found, ownerOld⟩

theorem Daemon.Opening.bury (opening : before.Opening) (found : before.tunnel? t = some tunnel)
    (ran : bury t tunnel before = .ok () after) :
    after.Opening := by
  intro lac u names
  rw [bury_opens ran] at names
  split at names
  · obtain ⟨_, _, empty⟩ := Option.map_eq_some_iff.mp names
    cases empty
  · rename_i other
    obtain ⟨kept, foundKept, owner⟩ := opening lac u names
    have apart : u ≠ t := by
      rintro rfl
      rw [found] at foundKept
      cases foundKept
      exact other owner
    refine ⟨kept, ?_, owner⟩
    unfold Daemon.tunnel?
    rw [bury_tunnels ran, Keyed.find_remove_other apart]
    exact foundKept

theorem forsake_apart {lac other : LacRef} {owner : Option TunnelRef}
    (ran : forsake lac before = .ok () after) (names : after.opens other = some owner) :
    other ≠ lac := by
  obtain ⟨_, _, detached, _, _, _, rfl⟩ := forsake_ok ran
  rintro rfl
  unfold Daemon.opens Daemon.lac? at names
  rw [Keyed.find_remove_same] at names
  cases names

theorem Daemon.Opening.forsake {lac : LacRef} (opening : before.Opening)
    (ran : forsake lac before = .ok () after) : after.Opening := by
  intro other u names
  have apart := forsake_apart ran names
  obtain ⟨tunnel, found, owner⟩ := opening other u (forsake_opens ran names)
  obtain ⟨entry, dropped, detached, foundEntry, drop, detach, rfl⟩ := forsake_ok ran
  -- the tunnel that loses its entry is the one which the entry names
  have first : dropped.tunnel? u = some tunnel := by
    rcases drop with ⟨_, rfl⟩ | ⟨t, named, rfl⟩
    · exact found
    · have different : u ≠ t := by
        rintro rfl
        have mine : before.opens lac = some (some u) := by
          unfold Daemon.opens
          rw [foundEntry, Option.map_some, named]
        obtain ⟨same, foundSame, ownerSame⟩ := opening lac u mine
        rw [found] at foundSame
        cases foundSame
        rw [owner] at ownerSame
        exact apart (Option.some.inj ownerSame)
      rw [tunnel_setTunnel_other different (by intro _; rfl)]
      exact found
  have second : Stays dropped detached := by
    rcases detach with ⟨_, rfl⟩ | ⟨_, _, _, rfl⟩
    · exact Stays.same rfl
    · exact stays_setTunnel (fun _ => rfl) fun _ => rfl
  obtain ⟨later, foundLater, same⟩ := second u tunnel first
  exact ⟨later, foundLater, same.trans owner⟩

theorem Op.opening (op : Op rules env before after) (orderly : before.Orderly)
    (opening : before.Opening) : after.Opening := by
  have same : ∀ lac t, before.opens lac = some (some t) → before.opens lac = some (some t) :=
    fun _ _ names => names
  cases op with
  | aside kept =>
    exact opening.stays (Stays.same kept.tunnels) fun _ _ names => kept.opens ▸ names
  | store t change _ keeps =>
    refine opening.stays (stays_setTunnel (fun tunnel => ?_) fun tunnel => ?_) same
    · exact congrArg TunnelDeed.ref (keeps tunnel)
    · exact congrArg TunnelDeed.lac (keeps tunnel)
  | link tunnel lac _ blank free =>
    refine opening.link orderly (congrArg TunnelDeed.ref blank) (congrArg TunnelDeed.lac blank) ?_
    intro ref isLac
    obtain ⟨entry, found, _⟩ := free ref isLac
    unfold Daemon.opens
    rw [found]
    rfl
  | choose | inherit | assign =>
    exact opening.stays (stays_setTunnel (fun _ => rfl) fun _ => rfl) same
  | place t tunnel call lac =>
    refine opening.stays ?_ fun _ _ names => ?_
    · intro u old found
      obtain ⟨later, foundLater, owner⟩ := @stays_setTunnel before t (Tunnel.addCall call)
        (fun _ => rfl) (fun _ => rfl) u old found
      exact ⟨later, (tunnel_record _ _ _).trans foundLater, owner⟩
    · rw [opens_of_title (title_record (by intro _; rfl) (by intro _; rfl))] at names
      exact names
  | destroyCall t ref _ _ ran =>
    refine opening.stays ?_ fun _ _ names => opens_of_title (destroyCall_title ran) ▸ names
    intro u old found
    obtain ⟨later, foundLater, owner⟩ := @stays_setTunnel before t (fun tunnel =>
      { tunnel with
        calls := Keyed.remove Call.ref ref tunnel.calls
        count := tunnel.count - 1 }) (fun _ => rfl) (fun _ => rfl) u old found
    refine ⟨later, ?_, owner⟩
    unfold Daemon.tunnel? at foundLater ⊢
    rw [destroyCall_tunnels ran]
    exact foundLater
  | bury t tunnel _ _ found _ ran => exact opening.bury found ran
  | retry =>
    refine opening.stays (Stays.same rfl) fun _ _ names => ?_
    rw [opens_of_title (title_setLac (by intro _; rfl) (by intro _; rfl))] at names
    exact names
  | postpone lac _ ran =>
    exact opening.stays (Stays.same (scheduleRedial_frame ran).tunnels)
      fun _ _ names => opens_of_title (scheduleRedial_title ran) ▸ names
  | addLac entry blank =>
    refine opening.stays (Stays.same rfl) fun lac t names => ?_
    have unopened : entry.t = none := congrArg LacBook.t blank
    unfold Daemon.opens Daemon.lac? at names ⊢
    rw [Keyed.find_cons] at names
    split at names
    · rw [Option.map_some, unopened] at names
      cases names
    · exact names
  | dropLac lac _ ran => exact opening.forsake ran
  | _ => exact opening.stays (Stays.same rfl) same

theorem Booted.opening (booted : Booted state) : state.Opening := by
  intro lac t names
  obtain ⟨entry, found, names⟩ := Option.map_eq_some_iff.mp names
  rw [(booted.lacFresh entry (Keyed.find_mem found)).2.1] at names
  cases names

theorem runs_opening (runs : Runs env condition state) :
    state.Orderly ∧ state.Opening :=
  @runs_ledger _ _ _ (fun state => state.Orderly ∧ state.Opening) runs
    (fun _ booted => ⟨booted.orderly, booted.opening⟩)
    fun _ _ op both => ⟨op.orderly both.1, op.opening both.1 both.2⟩

/-! ## Every reachable state -/

/-- The lists of tunnels and calls, their counters, and the LAC entries agree. -/
structure Daemon.SessionLists (state : Daemon) : Prop where
  calls : ∀ tunnel ∈ state.tunnels, tunnel.count = tunnel.calls.length
  tunnels : state.tunnelCount = state.tunnels.length
  tunnelOnce : (state.tunnels.map Tunnel.ref).Nodup
  callOnce : ∀ tunnel ∈ state.tunnels, (tunnel.calls.map Call.ref).Nodup
  container : ∀ tunnel ∈ state.tunnels, ∀ call ∈ tunnel.calls, call.container = tunnel.ref
  self : ∀ tunnel ∈ state.tunnels, ∀ other ∈ state.tunnels,
    tunnel.self.ref ∉ other.calls.map Call.ref
  opened : ∀ entry ∈ state.laclist, ∀ t, entry.t = some t →
    ∃ tunnel ∈ state.tunnels, tunnel.ref = t ∧ tunnel.lac = some entry.ref
  single : ∀ entry ∈ state.laclist, ∀ tunnel ∈ state.tunnels, ∀ other ∈ state.tunnels,
    tunnel.lac = some entry.ref → other.lac = some entry.ref → tunnel = other

theorem Daemon.Listed.callRefs (listed : state.Listed) (member : tunnel ∈ state.tunnels) :
    (tunnel.calls.map Call.ref).Nodup := by
  have distinct := (listed.orderly.tunnels tunnel member).distinct
  simp only [Tunnel.deed, List.map_map] at distinct
  exact distinct

theorem entry_opens (apart : state.EntriesApart) {entry : Lac} (member : entry ∈ state.laclist) :
    state.opens entry.ref = some entry.t := by
  unfold Daemon.opens Daemon.lac?
  rw [Keyed.find_of_mem apart.lacs.distinct member]
  rfl

theorem session_lists (reached : Reachable env state) : state.SessionLists := by
  have listed := runs_listed reached
  have apart := runs_entriesApart reached
  have titled := runs_titled reached
  have refs : ∀ tunnel : Tunnel, tunnel.deed.calls.map CallDeed.ref = tunnel.calls.map Call.ref :=
    fun tunnel => by rw [Tunnel.deed, List.map_map]; rfl
  refine ⟨fun tunnel member => ?_, listed.count, listed.orderly.distinct,
    fun tunnel member => listed.callRefs member, fun tunnel member call inside => ?_,
    fun tunnel member other memberOther => ?_, fun entry member t names => ?_,
    fun entry member tunnel memberTunnel other memberOther owner ownerOther => ?_⟩
  · have count := (listed.tunnels tunnel member).count
    simp only [Tunnel.deed, List.length_map] at count
    exact count
  · refine (listed.tunnels tunnel member).containers call.container ?_
    exact List.mem_map_of_mem (List.mem_map_of_mem inside)
  · rw [← refs]
    exact listed.selves tunnel member other memberOther
  · have opens := entry_opens apart member
    rw [names] at opens
    obtain ⟨tunnel, found, owner⟩ := (runs_opening reached).2 entry.ref t opens
    exact ⟨tunnel, Keyed.find_mem found, Keyed.find_key found, owner⟩
  · have opens := entry_opens apart member
    have first := titled.holder tunnel memberTunnel entry.ref entry.t owner opens
    have second := titled.holder other memberOther entry.ref entry.t ownerOther opens
    have same : tunnel.ref = other.ref := Option.some.inj (first.symm.trans second)
    have found := listed.orderly.found memberTunnel
    rw [same, listed.orderly.found memberOther] at found
    exact (Option.some.inj found).symm

theorem served_call_listed :
    ∃ state, Reachable (sampleEnv (fun _ _ => none) 5) state ∧
      state.tunnels.map (fun tunnel => tunnel.calls.length) = [1] ∧ state.SessionLists := by
  obtain ⟨state, reached, tested⟩ := @reachable_any (sampleEnv (fun _ _ => none) 5) callInputs _
    (fun state => state.tunnels.map (fun tunnel => tunnel.calls.length) = [1])
    (sampleServer_booted sampleLns rfl) rfl (by decide +kernel)
  exact ⟨state, reached, of_decide_eq_true tested, session_lists reached⟩

end Xl2tpd
