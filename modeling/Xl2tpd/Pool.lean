import Xl2tpd.Lib.Buckets
import Xl2tpd.Ledger.Books
import Xl2tpd.Runs

/-!
# Remote addresses

The table of addresses in use is a bucket table. As long as no LNS entry has a range of local
addresses, it stores just the addresses of the live calls.
-/

namespace Xl2tpd

set_option autoImplicit false

open Program

variable {call : Call} {ref : CallRef} {uaddr : Nat → List Nat} {base : Nat}

variable {rules : Rules} {env : Env} {before middle after state : Daemon} {t : TunnelRef}
  {tunnel : Tunnel} {addr : Nat}

/-! ## Addresses of calls -/

def hashAddr (addr : Nat) : Nat := addr % addrHashSize

def Tunnel.addrs (tunnel : Tunnel) : List Nat :=
  (tunnel.calls.map Call.addr).filter fun addr => addr ≠ 0

def Daemon.addrs (state : Daemon) : List Nat := state.tunnels.flatMap Tunnel.addrs

/-- Live calls have distinct addresses, and the table stores just these, each in its bucket. -/
structure Daemon.Pooled (state : Daemon) : Prop where
  distinct : state.addrs.Nodup
  stored : Buckets.Stores hashAddr state.uaddr state.addrs

/-- No address that goes back with a call's LNS entry is in use. -/
def Daemon.Unleased (state : Daemon) : Prop :=
  ∀ lns entry, state.lns? lns = some entry → entry.localrange ≠ [] →
    ipUsed state.uaddr entry.localaddr = false

theorem addrs_of_deed {first second : Tunnel} (same : first.deed = second.deed) :
    first.addrs = second.addrs := by
  have calls := congrArg (fun deed => deed.calls.map CallDeed.addr) same
  simp only [Tunnel.deed, List.map_map] at calls
  have addrs : first.calls.map Call.addr = second.calls.map Call.addr := calls
  unfold Tunnel.addrs
  rw [addrs]

theorem addrs_setTunnel {change : Tunnel → Tunnel}
    (keeps : ∀ tunnel, (change tunnel).addrs = tunnel.addrs) :
    (before.setTunnel t change).addrs = before.addrs := by
  have same : (before.setTunnel t change).tunnels.map Tunnel.addrs =
      before.tunnels.map Tunnel.addrs := Keyed.map_update_same keeps
  unfold Daemon.addrs
  rw [List.flatMap_def, List.flatMap_def, same]

theorem addrs_record (state : Daemon) (lac : Option LacRef) (change : Lac → Lac) :
    (state.record lac change).addrs = state.addrs := by
  unfold Daemon.addrs
  rw [Daemon.record_tunnels]

theorem addrs_addCall (bare : call.addr = 0) (tunnel : Tunnel) :
    (tunnel.addCall call).addrs = tunnel.addrs := by
  unfold Tunnel.addrs Tunnel.addCall
  rw [List.map_cons, List.filter_cons_of_neg (by simp [bare])]

theorem addrs_split (found : before.tunnel? t = some tunnel) :
    ∃ rest, before.addrs.Perm (tunnel.addrs ++ rest) ∧
      ∀ change, (before.setTunnel t change).addrs.Perm ((change tunnel).addrs ++ rest) := by
  obtain ⟨front, back, split, updated⟩ := Keyed.find_split found
  refine ⟨front.flatMap Tunnel.addrs ++ back.flatMap Tunnel.addrs, ?_, fun change => ?_⟩
  · unfold Daemon.addrs
    rw [split, List.flatMap_append, List.flatMap_cons, ← List.append_assoc, ← List.append_assoc]
    exact List.perm_append_comm.append_right _
  · unfold Daemon.addrs Daemon.setTunnel
    rw [updated, List.flatMap_append, List.flatMap_cons, ← List.append_assoc, ← List.append_assoc]
    exact List.perm_append_comm.append_right _

theorem tunnelAddrs_split (found : tunnel.call? (.call ref) = some call) :
    ∃ rest, tunnel.addrs.Perm (([call.addr].filter fun addr => addr ≠ 0) ++ rest) ∧
      (∀ change : Call → Call, (tunnel.setCall (.call ref) change).addrs.Perm
        (([(change call).addr].filter fun addr => addr ≠ 0) ++ rest)) ∧
      ((tunnel.calls.map Call.ref).Nodup → ∀ count,
        Tunnel.addrs { tunnel with
          calls := Keyed.remove Call.ref ref tunnel.calls
          count := count } = rest) := by
  obtain ⟨front, back, split, updated⟩ := Keyed.find_split found
  let given := fun calls : List Call => (calls.map Call.addr).filter fun addr => addr ≠ 0
  have parts : ∀ middle, given (front ++ middle :: back) =
      given front ++ (([middle.addr].filter fun addr => addr ≠ 0) ++ given back) := by
    intro middle
    simp only [given]
    rw [List.map_append, List.filter_append, List.map_cons, ← List.singleton_append,
      List.filter_append]
  have swap : ∀ middle, (given (front ++ middle :: back)).Perm
      (([middle.addr].filter fun addr => addr ≠ 0) ++ (given front ++ given back)) := by
    intro middle
    rw [parts, ← List.append_assoc, ← List.append_assoc]
    exact List.perm_append_comm.append_right _
  refine ⟨given front ++ given back, ?_, fun change => ?_, fun distinct count => ?_⟩
  · have whole := swap call
    rw [← split] at whole
    exact whole
  · have whole := swap (change call)
    rw [← updated] at whole
    exact whole
  · have others : Keyed.remove Call.ref ref tunnel.calls = front ++ back := by
      have named : call.ref = ref := Keyed.find_key found
      rw [split] at distinct ⊢
      rw [List.map_append, List.map_cons] at distinct
      have apart := List.nodup_middle.mp distinct
      rw [List.nodup_cons, ← List.map_append] at apart
      unfold Keyed.remove
      rw [List.filter_append, List.filter_cons_of_neg (by simp [named])]
      have kept : ∀ other ∈ front ++ back, other.ref ≠ ref := by
        intro other member same
        exact apart.1 (named ▸ same ▸ List.mem_map_of_mem member)
      rw [List.filter_eq_self.mpr fun other member =>
          decide_eq_true (kept other (List.mem_append_left _ member)),
        List.filter_eq_self.mpr fun other member =>
          decide_eq_true (kept other (List.mem_append_right _ member))]
    unfold Tunnel.addrs
    rw [others, List.map_append, List.filter_append]

/-! ## Entries with a range of local addresses -/

def Daemon.Rangeless (state : Daemon) : Prop :=
  ∀ entry ∈ state.lnslist ++ state.deflns.toList, entry.localrange = []

theorem Daemon.Rangeless.unleased (rangeless : state.Rangeless) : state.Unleased :=
  fun _ entry found ranged => absurd (rangeless entry (Keyed.find_mem found)) ranged

theorem rangeless_of_books (same : after.lnsBooks = before.lnsBooks)
    (rangeless : before.Rangeless) : after.Rangeless := by
  have ranges : ∀ state : Daemon, (state.lnslist ++ state.deflns.toList).map Lns.localrange =
      state.lnsBooks.1.map Lns.localrange ++ state.lnsBooks.2.toList.map Lns.localrange := by
    intro state
    unfold Daemon.lnsBooks
    cases state.deflns <;> simp [Lns.book, Function.comp_def]
  intro entry member
  have listed := List.mem_map_of_mem (f := Lns.localrange) member
  rw [ranges, same, ← ranges] at listed
  obtain ⟨old, memberOld, equal⟩ := List.mem_map.mp listed
  exact equal.symm.trans (rangeless old memberOld)

theorem unleased_of_books (same : after.lnsBooks = before.lnsBooks)
    (uaddr : after.uaddr = before.uaddr) (unleased : before.Unleased) : after.Unleased := by
  intro lns entry found ranged
  have shown := @lns_of_books _ _ lns same
  rw [found, Option.map_some] at shown
  obtain ⟨old, foundOld, equal⟩ := Option.map_eq_some_iff.mp shown.symm
  have range : old.book.localrange = entry.book.localrange := congrArg Lns.localrange equal
  have addr : old.book.localaddr = entry.book.localaddr := congrArg Lns.localaddr equal
  have shared : old.localaddr = entry.localaddr := addr
  rw [uaddr, ← shared]
  exact unleased lns old foundOld fun none => ranged (range.symm.trans none)

theorem Op.rangeless (strict : ¬ rules.edits) (op : Op rules env before after)
    (rangeless : before.Rangeless) : after.Rangeless := by
  cases op with
  | aside same => exact rangeless_of_books same.lnsBooks rangeless
  | link tunnel lac => cases lac <;> exact rangeless
  | place t tunnel call lac => cases lac <;> exact rangeless
  | destroyCall t ref _ _ ran => exact rangeless_of_books (destroyCall_lnsBooks ran) rangeless
  | bury t tunnel _ _ _ _ ran => exact rangeless_of_books (bury_lnsBooks ran) rangeless
  | postpone lac _ ran => exact rangeless_of_books (scheduleRedial_frame ran).lnsBooks rangeless
  | lease lns own entry addr =>
    intro found member
    obtain ⟨old, listed, same | same⟩ := mem_setLns member <;> rw [same] <;>
      exact rangeless old listed
  | dropLac lac _ ran => exact rangeless_of_books (forsake_frame ran).lnsBooks rangeless
  | addLns entry _ plain =>
    intro found member
    rcases List.mem_cons.mp member with rfl | old
    · exact plain
    · exact rangeless found old
  | editLns _ _ allow => exact absurd allow strict
  | dropLns lns =>
    intro found member
    refine rangeless found (List.mem_append.mpr ?_)
    exact (List.mem_append.mp member).imp (fun kept => (Keyed.mem_remove.mp kept).1) id
  | _ => exact rangeless

/-! ## The table -/

theorem ipUsed_unreserved {addr other : Nat} (unused : ipUsed uaddr other = false) :
    ipUsed (unreserved uaddr addr) other = false := by
  unfold ipUsed unreserved at *
  by_cases same : other % addrHashSize = addr % addrHashSize
  · rw [same] at unused ⊢
    rw [Function.update_self]
    simp only [List.contains_eq_mem, decide_eq_false_iff_not] at unused ⊢
    exact fun member => unused (List.mem_of_mem_filter member)
  · rw [Function.update_of_ne same]
    exact unused

theorem unreserved_unused (unused : ipUsed uaddr addr = false) :
    unreserved uaddr addr = uaddr := by
  have absent : addr ∉ uaddr (hashAddr addr) := by
    simpa [ipUsed, hashAddr] using unused
  exact Buckets.remove_absent absent

theorem Daemon.Unleased.freed (unleased : state.Unleased) (call : Call) :
    state.freed call = state.freedAddr call := by
  unfold Daemon.freed
  cases found : call.lns.bind state.lns? with
  | none => rfl
  | some entry =>
    obtain ⟨lns, _, foundEntry⟩ := Option.bind_eq_some_iff.mp found
    dsimp only
    split
    · rename_i ranged
      apply unreserved_unused
      have unused := unleased lns entry foundEntry ranged
      unfold Daemon.freedAddr
      split
      · exact ipUsed_unreserved unused
      · exact unused
    · rfl

theorem freedAddr_bare (bare : call.addr = 0) : state.freedAddr call = state.uaddr :=
  if_neg fun given => given bare

theorem destroyCall_uaddr (unleased : before.Unleased)
    (ran : destroyCall t ref before = .ok () after) :
    ∃ tunnel call, before.tunnel? t = some tunnel ∧ tunnel.call? (.call ref) = some call ∧
      after.uaddr = before.freedAddr call := by
  obtain ⟨tunnel, call, trace, found, foundCall, _, ran⟩ := destroyCall_ok ran
  refine ⟨tunnel, call, found, foundCall, ?_⟩
  rw [← unleased.freed call]
  exact (forgetCall_frame ran).uaddr

theorem bury_uaddr (unleased : before.Unleased) (bare : tunnel.self.addr = 0)
    (ran : bury t tunnel before = .ok () after) : after.uaddr = before.uaddr := by
  obtain ⟨_, noted, _, forget, aside, _, _, ran⟩ := bury_ok ran
  have frame := forgetTunnelLac_frame forget
  have uaddr := aside.uaddr.trans frame.uaddr
  have still : noted.Unleased :=
    unleased_of_books (aside.lnsBooks.trans frame.lnsBooks) uaddr unleased
  have last := (forgetCall_frame ran).uaddr
  rw [last, still.freed, freedAddr_bare bare, uaddr]

theorem Daemon.Pooled.same (pooled : before.Pooled) (addrs : after.addrs = before.addrs)
    (uaddr : after.uaddr = before.uaddr) : after.Pooled := by
  refine ⟨addrs ▸ pooled.distinct, ?_⟩
  rw [addrs, uaddr]
  exact pooled.stored

theorem addrs_removeTunnel (orderly : before.Orderly) (found : before.tunnel? t = some tunnel)
    (empty : tunnel.calls = []) :
    (Keyed.remove Tunnel.ref t before.tunnels).flatMap Tunnel.addrs = before.addrs := by
  have named : tunnel.ref = t := Keyed.find_key found
  have none : ∀ other ∈ before.tunnels, other.ref = t → other.addrs = [] := by
    intro other member same
    have foundOther := orderly.found member
    rw [same, found] at foundOther
    cases foundOther
    unfold Tunnel.addrs
    rw [empty]
    rfl
  unfold Daemon.addrs Keyed.remove
  generalize before.tunnels = tunnels at none
  induction tunnels with
  | nil => rfl
  | cons head rest ih =>
    have later := ih fun other member => none other (List.mem_cons_of_mem head member)
    by_cases own : head.ref = t
    · rw [List.filter_cons_of_neg (by simp [own]), later, List.flatMap_cons,
        none head List.mem_cons_self own, List.nil_append]
    · rw [List.filter_cons_of_pos (by simp [own]), List.flatMap_cons, later, List.flatMap_cons]

theorem destroyCall_pooled (orderly : before.Orderly) (unleased : before.Unleased)
    (pooled : before.Pooled) (ran : destroyCall t ref before = .ok () after) : after.Pooled := by
  obtain ⟨tunnel, call, found, foundCall, uaddr⟩ := destroyCall_uaddr unleased ran
  obtain ⟨others, whole, changed⟩ := addrs_split found
  obtain ⟨siblings, own, _, left⟩ := tunnelAddrs_split foundCall
  have distinctCalls : (tunnel.calls.map Call.ref).Nodup := by
    have deeds := (orderly.tunnels tunnel (Keyed.find_mem found)).distinct
    simp only [Tunnel.deed, List.map_map] at deeds
    exact deeds
  have addrs : after.addrs.Perm (siblings ++ others) := by
    have image := changed fun tunnel =>
      { tunnel with
        calls := Keyed.remove Call.ref ref tunnel.calls
        count := tunnel.count - 1 }
    rw [left distinctCalls] at image
    unfold Daemon.addrs at image ⊢
    rw [destroyCall_tunnels ran]
    exact image
  have all : before.addrs.Perm
      (([call.addr].filter fun addr => addr ≠ 0) ++ (siblings ++ others)) := by
    rw [← List.append_assoc]
    exact whole.trans (own.append_right others)
  have distinct := all.nodup_iff.mp pooled.distinct
  have stored := Buckets.stores_perm pooled.stored all
  by_cases given : call.addr = 0
  · rw [given] at distinct stored
    refine ⟨addrs.nodup_iff.mpr distinct, Buckets.stores_perm ?_ addrs.symm⟩
    rw [uaddr, freedAddr_bare given]
    exact stored
  · rw [List.filter_cons_of_pos (by simpa using given), List.filter_nil] at distinct stored
    obtain ⟨absent, rest⟩ := List.nodup_cons.mp distinct
    refine ⟨addrs.nodup_iff.mpr rest, Buckets.stores_perm ?_ addrs.symm⟩
    rw [uaddr, Daemon.freedAddr, if_pos given]
    exact Buckets.stores_remove stored absent

theorem assign_pooled (pooled : before.Pooled) (free : addr = 0 ∨ ipUsed before.uaddr addr = false)
    (found : before.call? t (.call ref) = some call) (bare : call.addr = 0) :
    Daemon.Pooled
      { before.setCall t (.call ref) fun call => { call with addr := addr } with
        uaddr := if addr = 0 then before.uaddr else reserved before.uaddr addr } := by
  obtain ⟨tunnel, foundTunnel, foundCall⟩ := call_some found
  obtain ⟨others, whole, changed⟩ := addrs_split foundTunnel
  obtain ⟨siblings, own, updated, _⟩ := tunnelAddrs_split foundCall
  have addrs : (before.setCall t (.call ref) fun call => { call with addr := addr }).addrs.Perm
      (([addr].filter fun addr => addr ≠ 0) ++ (siblings ++ others)) := by
    rw [← List.append_assoc]
    exact (changed _).trans ((updated _).append_right others)
  have all : before.addrs.Perm (siblings ++ others) := by
    rw [bare] at own
    exact whole.trans (own.append_right others)
  have distinct := all.nodup_iff.mp pooled.distinct
  have stored := Buckets.stores_perm pooled.stored all
  by_cases given : addr = 0
  · rw [given] at addrs ⊢
    rw [if_pos rfl]
    exact ⟨addrs.nodup_iff.mpr distinct, Buckets.stores_perm stored addrs.symm⟩
  · rw [List.filter_cons_of_pos (by simpa using given), List.filter_nil] at addrs
    rw [if_neg given]
    have unused : addr ∉ before.uaddr (hashAddr addr) := by
      simpa [ipUsed, hashAddr] using free.resolve_left given
    have absent : addr ∉ siblings ++ others :=
      fun member => unused ((Buckets.mem_of_stores stored).mpr member)
    exact ⟨addrs.nodup_iff.mpr (List.nodup_cons.mpr ⟨absent, distinct⟩),
      Buckets.stores_perm (Buckets.stores_insert stored addr) addrs.symm⟩

theorem forsake_addrs {lac : LacRef} (ran : forsake lac before = .ok () after) :
    after.addrs = before.addrs := by
  have same : after.tunnels.map Tunnel.addrs = before.tunnels.map Tunnel.addrs := by
    refine forsake_map ran (fun _ => rfl) fun ref tunnel => ?_
    unfold Tunnel.addrs
    rw [clearLacFrom_map (by intro _; rfl)]
  exact congrArg List.flatten same

/-- What an entry of the ledger does to the addresses. -/
inductive Leasing (rules : Rules) (before after : Daemon) : Prop
  | same (addrs : after.addrs = before.addrs) (uaddr : after.uaddr = before.uaddr)
  | destroyed (t : TunnelRef) (ref : CallRef) (allow : rules.destroys)
      (ran : destroyCall t ref before = .ok () after)
  | buried (t : TunnelRef) (tunnel : Tunnel) (allow : rules.destroys)
      (found : before.tunnel? t = some tunnel) (empty : tunnel.calls = [])
      (ran : bury t tunnel before = .ok () after)
  | assigned (t : TunnelRef) (ref : CallRef) (addr : Nat) (call : Call) (allow : rules.assigns)
      (found : before.call? t (.call ref) = some call) (bare : rules.assigned → call.addr = 0)
      (free : addr = 0 ∨ ipUsed before.uaddr addr = false)
      (becomes : after = { before.setCall t (.call ref) fun call => { call with addr := addr } with
        uaddr := if addr = 0 then before.uaddr else reserved before.uaddr addr })
  | leased (entry : Lns) (allow : rules.assigns)
      (member : entry ∈ before.lnslist ++ before.deflns.toList) (ranged : entry.localrange ≠ [])

theorem Op.leasing (op : Op rules env before after) : Leasing rules before after := by
  cases op with
  | aside same =>
    refine .same ?_ same.uaddr
    unfold Daemon.addrs
    rw [same.tunnels]
  | store t change _ keeps =>
    exact .same (addrs_setTunnel fun tunnel => addrs_of_deed (keeps tunnel)) rfl
  | link tunnel lac _ blank =>
    have empty : tunnel.addrs = [] := by
      have none : tunnel.calls.map Call.deed = [] := congrArg TunnelDeed.calls blank
      unfold Tunnel.addrs
      rw [List.map_eq_nil_iff.mp none]
      rfl
    have opened : (before.opened tunnel).addrs = before.addrs := by
      unfold Daemon.addrs Daemon.opened
      rw [List.flatMap_cons, empty, List.nil_append]
    refine .same ((addrs_record _ _ _).trans opened) ?_
    cases lac <;> rfl
  | choose => exact .same (addrs_setTunnel fun _ => rfl) rfl
  | inherit t c mandatory tunnel call _ _ made =>
    refine .same ?_ rfl
    exact @addrs_setTunnel before.drawCall _ _ (addrs_addCall (congrArg CallDeed.addr made))
  | place t tunnel call lac _ _ _ _ made =>
    refine .same ((addrs_record _ _ _).trans ?_) (by cases lac <;> rfl)
    exact @addrs_setTunnel before.drawCall _ _ (addrs_addCall (congrArg CallDeed.addr made))
  | destroyCall t ref _ allow ran => exact .destroyed t ref allow ran
  | bury t tunnel _ allow found empty ran => exact .buried t tunnel allow found empty ran
  | assign t ref addr _ free bare allow known =>
    obtain ⟨call, found⟩ := Option.isSome_iff_exists.mp known
    exact .assigned t ref addr call allow found (fun strict => bare strict call found) free rfl
  | lease lns own entry addr found ranged _ allow =>
    exact .leased entry allow (Keyed.find_mem found) ranged
  | postpone lac _ ran =>
    refine .same ?_ (scheduleRedial_frame ran).uaddr
    unfold Daemon.addrs
    rw [(scheduleRedial_frame ran).tunnels]
  | dropLac lac _ ran => exact .same (forsake_addrs ran) (forsake_frame ran).uaddr
  | _ => exact .same rfl rfl

theorem Op.pooled (strict : rules.assigned) (tight : rules.assigns → before.Rangeless)
    (orderly : before.Orderly) (unleased : before.Unleased) (op : Op rules env before after)
    (pooled : before.Pooled) : after.Pooled := by
  cases op.leasing with
  | same addrs uaddr => exact pooled.same addrs uaddr
  | destroyed t ref _ ran => exact destroyCall_pooled orderly unleased pooled ran
  | buried t tunnel _ found empty ran =>
    have bare : tunnel.self.addr = 0 := (orderly.tunnels tunnel (Keyed.find_mem found)).bare
    refine pooled.same ?_ (bury_uaddr unleased bare ran)
    rw [← addrs_removeTunnel orderly found empty, ← bury_tunnels ran]
    rfl
  | assigned t ref addr call _ found bare free becomes =>
    rw [becomes]
    exact assign_pooled pooled free found (bare strict)
  | leased entry allow member ranged => exact absurd (tight allow entry member) ranged

theorem steps_uaddr (keeps : ¬ rules.destroys) (still : ¬ rules.assigns)
    (steps : Relation.ReflTransGen (Op rules env) before after) :
    after.addrs = before.addrs ∧ after.uaddr = before.uaddr := by
  induction steps with
  | refl => exact ⟨rfl, rfl⟩
  | tail _ op ih =>
    cases op.leasing with
    | same addrs uaddr => exact ⟨addrs.trans ih.1, uaddr.trans ih.2⟩
    | destroyed _ _ allow => exact absurd allow keeps
    | buried _ _ allow => exact absurd allow keeps
    | assigned _ _ _ _ allow => exact absurd allow still
    | leased _ allow => exact absurd allow still

/-! ## The call of an accepted ICRQ -/

def Rules.screening (t : TunnelRef) : Rules where
  touched := fun u => u = t
  destroys := False
  hellos := False
  expires := False
  edits := False
  toggles := False
  assigns := False
  single := False
  assigned := False
  kept := False
  dialed := fun _ => False
  rings := fun _ => True

/-- If an ICRQ was accepted since, the first call of the tunnel has no address. -/
def Daemon.Greeted (state : Daemon) (base : Nat) (t : TunnelRef) : Prop :=
  (∃ note ∈ state.trace.drop base, note.welcome = true) → state.HeadBare t

theorem Daemon.Greeted.later (greeted : before.Greeted base t)
    (tunnels : after.HeadBare t ∨ after.tunnel? t = before.tunnel? t)
    (trace : before.trace <+: after.trace)
    (hush : ∀ note ∈ after.trace.drop before.trace.length, note.welcome = false) :
    after.Greeted base t := by
  rintro ⟨note, member, welcome⟩
  rcases tunnels with bare | same
  · exact bare
  have earlier : note ∈ before.trace.drop base := by
    obtain ⟨more, grown⟩ := trace
    rw [← grown, List.drop_append] at member
    rcases List.mem_append.mp member with old | new
    · exact old
    · have listed : note ∈ after.trace.drop before.trace.length := by
        rw [← grown, List.drop_left]
        exact List.mem_of_mem_drop new
      rw [hush note listed] at welcome
      cases welcome
  intro tunnel head found first
  rw [same] at found
  exact greeted ⟨note, earlier, welcome⟩ tunnel head found first

theorem headBare_added (bare : call.addr = 0) :
    (before.setTunnel t (Tunnel.addCall call)).HeadBare t := by
  intro tunnel head found first
  rw [tunnel_setTunnel (by intro _; rfl)] at found
  obtain ⟨old, _, rfl⟩ := Option.map_eq_some_iff.mp found
  cases first
  exact bare

theorem Op.greeted (op : Op (Rules.screening t) env before after)
    (greeted : before.Greeted base t) : after.Greeted base t := by
  have same : ∀ later : Daemon, later.tunnel? t = before.tunnel? t →
      later.trace = before.trace → later.Greeted base t := by
    intro later tunnels trace
    exact greeted.later (.inr tunnels) (trace ▸ List.prefix_rfl)
      fun note member => (@hush_same Rules.free _ _ trace note member).1
  have bare : ∀ later : Daemon, later.HeadBare t → later.Greeted base t :=
    fun later bare _ => bare
  cases op with
  | aside kept _ hush =>
    refine greeted.later (.inr ?_) kept.trace fun note member => (hush note member).1
    unfold Daemon.tunnel?
    rw [kept.tunnels]
  | store u change touch keeps =>
    rcases touch with rfl
    intro noted tunnel head found first
    have named : ∀ tunnel, (change tunnel).ref = tunnel.ref :=
      fun tunnel => congrArg TunnelDeed.ref (keeps tunnel)
    rw [tunnel_setTunnel named] at found
    obtain ⟨old, foundOld, rfl⟩ := Option.map_eq_some_iff.mp found
    have calls : (change old).calls.map Call.deed = old.calls.map Call.deed :=
      congrArg TunnelDeed.calls (keeps old)
    have heads := congrArg List.head? calls
    rw [List.head?_map, List.head?_map, first, Option.map_some] at heads
    obtain ⟨oldHead, firstOld, equal⟩ := Option.map_eq_some_iff.mp heads.symm
    have addr : oldHead.addr = head.addr := congrArg CallDeed.addr equal
    exact addr.symm.trans (greeted noted old oldHead foundOld firstOld)
  | link tunnel lac touch blank =>
    refine bare _ fun found head isFound first => ?_
    have named : tunnel.ref = t := (congrArg TunnelDeed.ref blank).trans touch
    have empty : tunnel.calls.map Call.deed = [] := congrArg TunnelDeed.calls blank
    rw [tunnel_record] at isFound
    have heads : Keyed.find Tunnel.ref t (tunnel :: before.tunnels) = some found := isFound
    rw [Keyed.find_cons, if_pos named] at heads
    cases heads
    rw [List.map_eq_nil_iff.mp empty] at first
    cases first
  | choose u lns touch =>
    rcases touch with rfl
    intro noted tunnel head found first
    rw [tunnel_setTunnel (by intro _; rfl)] at found
    obtain ⟨old, foundOld, rfl⟩ := Option.map_eq_some_iff.mp found
    exact greeted noted old head foundOld first
  | inherit u c mandatory tunnel call touch _ made =>
    rcases touch with rfl
    exact bare _ (headBare_added (congrArg CallDeed.addr made))
  | place u tunnel call lac touch _ _ _ made =>
    rcases touch with rfl
    refine bare _ ?_
    unfold Daemon.HeadBare
    rw [tunnel_record]
    exact headBare_added (congrArg CallDeed.addr made)
  | destroyCall _ _ _ allow | bury _ _ _ allow | assign _ _ _ _ _ _ allow
  | lease _ _ _ _ _ _ _ allow | expire _ _ allow | deschedule _ _ allow => exact allow.elim
  | dropLac _ touch => exact absurd (touch (t + 1)) (Nat.succ_ne_self t)
  | postpone lac _ ran =>
    refine same _ ?_ ?_
    · unfold Daemon.tunnel?
      rw [(scheduleRedial_frame ran).tunnels]
    · obtain ⟨_, _, rfl | ⟨_, _, rfl⟩⟩ := scheduleRedial_ok ran <;> rfl
  | _ => exact same _ rfl rfl

theorem steps_greeted (steps : Relation.ReflTransGen (Op (Rules.screening t) env) before after)
    (greeted : before.Greeted base t) : after.Greeted base t := by
  induction steps with
  | refl => exact greeted
  | tail _ op ih => exact op.greeted ih

section Arrival

variable {datagram : Datagram} {entered : Entered}

theorem getCall_quiet {linked : Daemon} {c : CallId}
    (lookup : getCall env datagram.ids.1 datagram.ids.2 datagram.peer datagram.refme
      datagram.refhim state = .ok (some (t, c)) linked) :
    linked.trace = state.trace ∧ linked.uaddr = state.uaddr ∧ linked.lnsBooks = state.lnsBooks := by
  by_cases opens : datagram.ids.1 = 0 ∧ datagram.ids.2 = 0
  · rw [opens.1, opens.2, getCall_makes] at lookup
    cases lookup
    exact ⟨rfl, rfl, rfl⟩
  · obtain ⟨rfl, _⟩ := getCall_search opens lookup
    exact ⟨rfl, rfl, rfl⟩

section

variable (enters : entering env datagram state = some entered)

include enters

theorem entering_bare
    (accepted : ∃ note ∈ entered.state.trace.drop state.trace.length, note.welcome = true) :
    entered.state.HeadBare entered.tunnel := by
  obtain ⟨linked, lookup, steps⟩ := entering_steps enters
  have chain := steps (Rules.screening entered.tunnel) rfl trivial
  have start : linked.Greeted state.trace.length entered.tunnel := by
    rintro ⟨note, member, _⟩
    rw [(getCall_quiet lookup).1, List.drop_length] at member
    cases member
  exact steps_greeted chain start accepted

theorem entering_uaddr : entered.state.uaddr = state.uaddr := by
  obtain ⟨linked, lookup, steps⟩ := entering_steps enters
  have chain := steps (Rules.screening entered.tunnel) rfl trivial
  exact (steps_uaddr id id chain).2.trans (getCall_quiet lookup).2.1

theorem entering_rangeless (rangeless : state.Rangeless) : entered.state.Rangeless := by
  obtain ⟨linked, lookup, steps⟩ := entering_steps enters
  have chain := steps (Rules.screening entered.tunnel) rfl trivial
  have start : linked.Rangeless := rangeless_of_books (getCall_quiet lookup).2.2 rangeless
  exact steps_invariant chain (fun _ _ op => op.rangeless id) start

end

end Arrival

/-! ## An ICRQ without an address -/

section Closing

variable {Value : Type}

theorem screening_uaddr {program : Prog Value} {value : Value}
    (ops : Ops (Rules.screening t) env program before) (ran : program before = .ok value after) :
    after.uaddr = before.uaddr :=
  (steps_uaddr id id (ops value after ran)).2

structure Daemon.Vacant (state : Daemon) (t : TunnelRef) (ref : CallRef) : Prop where
  unleased : state.Unleased
  bare : ∃ call, state.call? t (.call ref) = some call ∧ call.addr = 0

theorem Daemon.Vacant.store {change : Call → Call} (vacant : state.Vacant t ref)
    (named : ∀ call, (change call).ref = call.ref)
    (keeps : ∀ call, call.addr = 0 → (change call).addr = 0) :
    (state.setCall t (.call ref) change).Vacant t ref where
  unleased := unleased_of_books rfl rfl vacant.unleased
  bare := by
    obtain ⟨call, found, bare⟩ := vacant.bare
    obtain ⟨tunnel, foundTunnel, foundCall⟩ := call_some found
    refine ⟨change call, some_call (tunnel_setCall foundTunnel) ?_, keeps call bare⟩
    rw [Tunnel.call_setCall named, foundCall]
    rfl

theorem Daemon.Vacant.write {change : Call → Call} {Other : Type} {next : Unit → Prog Other}
    {other : Other} (vacant : before.Vacant t ref)
    (ran : (writeCall t (.call ref) change >>= next) before = .ok other after)
    (named : ∀ call, (change call).ref = call.ref)
    (keeps : ∀ call, call.addr = 0 → (change call).addr = 0) :
    ∃ middle, middle.Vacant t ref ∧ middle = before.setCall t (.call ref) change ∧
      next () middle = .ok other after := by
  obtain ⟨_, _, _, _, ran⟩ := ok_writeCall ran
  exact ⟨_, vacant.store named keeps, rfl, ran⟩

theorem Daemon.Vacant.closes (vacant : before.Vacant t ref)
    (ran : callClose env t (.call ref) before = .ok () after) : after.uaddr = before.uaddr := by
  obtain ⟨unleased, call, found, bare⟩ := vacant
  obtain ⟨tunnel, foundTunnel, foundCall⟩ := call_some found
  obtain ⟨_, _, ran⟩ := ok_readTunnel ran
  obtain ⟨_, _, foundSame, sameCall, ran⟩ := ok_readCall ran
  rw [foundTunnel] at foundSame
  cases foundSame
  rw [foundCall] at sameCall
  cases sameCall
  split at ran
  · obtain ⟨_, _, foundAgain, callAgain, uaddr⟩ := destroyCall_uaddr unleased ran
    rw [foundTunnel] at foundAgain
    cases foundAgain
    rw [foundCall] at callAgain
    cases callAgain
    rw [uaddr, freedAddr_bare bare]
  · obtain ⟨_, _, _, _, ran⟩ := ok_writeCall ran
    obtain ⟨_, built, build, ran⟩ := bind_ok.mp ran
    obtain ⟨_, sent, send, marks⟩ := bind_ok.mp ran
    have ops : ∀ middle, Ops (Rules.screening t) env (cdnBody env t (.call ref)) middle :=
      fun middle => cdnBody_ops rfl
    have first := screening_uaddr (ops _) build
    obtain ⟨last, lastCall, foundLast, listed, rfl⟩ := writeCall_ok marks
    rcases (sendControlWith_ok send).2 with ⟨_, _, _, rfl⟩ | empty
    · exact first
    · have none := empty last foundLast
      have member := Keyed.find_mem listed
      rw [none] at member
      cases member

end Closing

/-- The entry of the tunnel assigns addresses and has none left. -/
def Daemon.Exhausted (state : Daemon) (t : TunnelRef) : Prop :=
  ∃ tunnel lns entry, state.tunnel? t = some tunnel ∧ tunnel.lns = some lns ∧
    state.lns? lns = some entry ∧ entry.assignIp = true ∧
    getAddr state.uaddr entry.range = pure 0

theorem finishIcrq_exhausted {success : Bool} (unleased : before.Unleased)
    (bare : before.HeadBare t) (exhausted : before.Exhausted t)
    (ran : finishIcrq env t before = .ok success after) : after.uaddr = before.uaddr := by
  obtain ⟨tunnel, lns, entry, found, owner, foundEntry, assigns, nothing⟩ := exhausted
  replace ran := ok_readTunnel_at found ran
  obtain ⟨head, first, ran⟩ := ok_nonNull ran
  have vacant : before.Vacant t head.ref := ⟨unleased, head,
    some_call found (Tunnel.call_head first), bare tunnel head found first⟩
  -- Every refusal closes the call, which has no address after any of the stores.
  have closes : ∀ {middle : Daemon}, middle.Vacant t head.ref →
      (callClose env t (.call head.ref) >>= fun _ => pure false) middle = .ok success after →
      after.uaddr = middle.uaddr := by
    intro middle vacant ran
    obtain ⟨_, closed, close, ran⟩ := bind_ok.mp ran
    cases ran
    exact vacant.closes close
  cases headOwner : head.lns with
  | none =>
    simp only [headOwner] at ran
    obtain ⟨_, stored, rfl, ran⟩ := vacant.write ran (fun _ => rfl) fun _ bare => bare
    have same := closes stored ran
    exact same
  | some own =>
    simp only [headOwner] at ran
    obtain ⟨_, _, ran⟩ := ok_deref ran
    obtain ⟨_, stored, rfl, ran⟩ := vacant.write ran (fun _ => rfl) fun _ bare => bare
    split at ran
    · have same := closes stored ran
      exact same
    split at ran
    · obtain ⟨_, _, _, _, ran⟩ := ok_writeCall ran
      cases ran
      rfl
    rw [owner] at ran
    obtain ⟨_, isOwner, ran⟩ := ok_nonNull ran
    cases isOwner
    obtain ⟨_, foundSame, ran⟩ := ok_deref ran
    cases foundEntry.symm.trans foundSame
    obtain ⟨assigned, later, assign, ran⟩ := bind_ok.mp ran
    unfold assignAddr at assign
    rw [if_pos assigns, bind_get] at assign
    obtain ⟨addr, _, search, assign⟩ := bind_ok.mp assign
    cases search.symm.trans (congrFun nothing _)
    obtain ⟨_, given, rfl, assign⟩ := stored.write assign (fun _ => rfl) fun _ _ => rfl
    cases assign
    obtain ⟨_, refused, rfl, ran⟩ := given.write ran (fun _ => rfl) fun _ bare => bare
    have same := closes refused ran
    exact same

/-! ## Runs -/

/-- No local ranges, and an ICRQ that is acted on was accepted by `message_type_avp`. -/
structure Daemon.Leasable (env : Env) (state : Daemon) (input : Input) : Prop where
  rangeless : state.Rangeless
  accepted : ∀ datagram entered call, input = .datagram datagram →
    entering env datagram state = some entered →
    entered.state.call? entered.tunnel entered.call = some call → call.msgtype = some .ICRQ →
    ∃ note ∈ entered.state.trace.drop state.trace.length, note.welcome = true

/-- No limits, but that an address is given only to a call without one while the daemon runs, and
that entries keep their ranges. -/
def Rules.leasing (assigns : Prop) : Rules :=
  { Rules.free with edits := False, assigns := assigns, assigned := True }

theorem Rules.leasing_wide (assigns : Prop) : (Rules.leasing assigns).Wide :=
  ⟨fun _ => trivial, trivial, trivial, trivial⟩

structure Daemon.Unstocked (state : Daemon) : Prop where
  orderly : state.Orderly
  unused : ∀ addr, ipUsed state.uaddr addr = false
  pooled : state.Pooled

theorem Op.unstocked (op : Op (Rules.leasing False) env before after)
    (unstocked : before.Unstocked) : after.Unstocked := by
  have unleased : before.Unleased := fun _ _ _ _ => unstocked.unused _
  have orderly := unstocked.orderly
  refine ⟨op.orderly orderly, fun addr => ?_,
    op.pooled trivial False.elim orderly unleased unstocked.pooled⟩
  have none := unstocked.unused addr
  cases op.leasing with
  | same _ uaddr => rw [uaddr, none]
  | destroyed t ref _ ran =>
    obtain ⟨_, call, _, _, uaddr⟩ := destroyCall_uaddr unleased ran
    rw [uaddr, Daemon.freedAddr]
    split
    · exact ipUsed_unreserved none
    · exact none
  | buried t tunnel _ found _ ran =>
    have bare := (orderly.tunnels tunnel (Keyed.find_mem found)).bare
    rw [bury_uaddr unleased bare ran, none]
  | assigned _ _ _ _ allow => exact allow.elim
  | leased _ allow => exact allow.elim

theorem Booted.unstocked (booted : Booted state) : state.Unstocked := by
  have addrs : state.addrs = [] := by
    unfold Daemon.addrs
    rw [booted.tunnels]
    rfl
  refine ⟨booted.orderly, fun addr => ?_, addrs ▸ List.nodup_nil, ?_⟩
  · rw [booted.uaddr]
    rfl
  · rw [addrs, booted.uaddr]
    exact Buckets.stores_nil

structure Daemon.Stocked (state : Daemon) : Prop where
  orderly : state.Orderly
  rangeless : state.Rangeless
  pooled : state.Pooled

theorem Op.stocked (op : Op (Rules.leasing True) env before after) (stocked : before.Stocked) :
    after.Stocked where
  orderly := op.orderly stocked.orderly
  rangeless := op.rangeless id stocked.rangeless
  pooled := op.pooled trivial (fun _ => stocked.rangeless) stocked.orderly
    stocked.rangeless.unleased stocked.pooled

theorem exec_pooled {input : Input} (orderly : state.Orderly) (leasable : state.Leasable env input)
    (pooled : state.Pooled) (ran : exec env input state = .ok () after) : after.Pooled := by
  by_cases edits : ∃ name settings, input = .request (.lnsAddModify name settings)
  · obtain ⟨name, settings, rfl⟩ := edits
    let rules : Rules := { Rules.screening 0 with edits := True }
    have ops : Ops rules env (controlHandleLnsAddModify name settings) state :=
      controlHandleLnsAddModify_ops trivial
    have same := steps_uaddr id id (ops () after ran)
    exact pooled.same same.1 same.2
  · have admits : (Rules.leasing True).Admits env state input := by
      refine (Rules.leasing_wide True).admits ⟨id, fun _ => trivial, fun _ => trivial⟩ id trivial
        trivial (fun name settings asked => edits ⟨name, settings, asked⟩) ?_
      intro _ datagram entered call arrives enters found icrq
      exact entering_bare enters (leasable.accepted datagram entered call arrives enters found icrq)
    have start : state.Stocked := ⟨orderly, leasable.rangeless, pooled⟩
    have last : after.Stocked :=
      steps_invariant (exec_ops admits () _ ran) (fun _ _ op => op.stocked) start
    exact last.pooled

theorem receive_exhausted {datagram : Datagram} {entered : Entered}
    (leasable : state.Leasable env (.datagram datagram))
    (enters : entering env datagram state = some entered)
    (found : entered.state.call? entered.tunnel entered.call = some call)
    (icrq : call.msgtype = some .ICRQ) (exhausted : entered.state.Exhausted entered.tunnel)
    (ran : receive env datagram state = .ok () after) : after.uaddr = state.uaddr := by
  have bare := entering_bare enters (leasable.accepted datagram entered call rfl enters found icrq)
  have unleased := (entering_rangeless enters leasable.rangeless).unleased
  obtain ⟨success, middle, finish, acks⟩ := receive_entered enters ran
  have finished : middle.uaddr = entered.state.uaddr := by
    obtain ⟨tunnel, foundTunnel, foundCall⟩ := call_some found
    obtain ⟨_, same, foundSame, callSame, finish⟩ := ok_readCall finish
    rw [foundTunnel] at foundSame
    cases foundSame
    rw [foundCall] at callSame
    cases callSame
    simp only [icrq] at finish
    obtain ⟨_, _, noted, finish⟩ := bind_ok.mp finish
    cases noted
    have still : (entered.state.emit (.finish entered.tunnel entered.call .ICRQ)).Unleased :=
      unleased_of_books rfl rfl unleased
    have last := finishIcrq_exhausted still bare exhausted finish
    exact last
  have ops : Ops (Rules.screening entered.tunnel) env (acknowledge entered.tunnel entered.call)
    middle := acknowledge_ops rfl
  exact (screening_uaddr ops acks).trans (finished.trans (entering_uaddr enters))

/-- Live calls have distinct remote addresses, and the table stores just these; an ICRQ with no free
address leaves the table as it is. -/
theorem remote_addresses_pooled
    (runs : Runs env (fun state input => state.Leasable env input) state) :
    state.Pooled ∧ ∀ datagram entered call after, state.Leasable env (.datagram datagram) →
      entering env datagram state = some entered →
      entered.state.call? entered.tunnel entered.call = some call → call.msgtype = some .ICRQ →
      entered.state.Exhausted entered.tunnel → receive env datagram state = .ok () after →
      after.uaddr = state.uaddr := by
  refine ⟨?_, fun _ _ _ _ leasable enters found icrq exhausted ran =>
    receive_exhausted leasable enters found icrq exhausted ran⟩
  induction runs with
  | boot booted ran =>
    have steps := init_ops (Rules.leasing_wide False) ⟨id, fun _ => trivial, fun _ => trivial⟩ ()
      _ ran
    have last : Daemon.Unstocked _ :=
      steps_invariant steps (fun _ _ op => op.unstocked) booted.unstocked
    exact last.pooled
  | step reached leasable ran ih => exact exec_pooled (runs_orderly reached) leasable ih ran

theorem getAddr_pure {ranges : List IpRange}
    (found : getAddr uaddr ranges before = .ok addr after) : getAddr uaddr ranges = pure addr := by
  induction ranges with
  | nil =>
    cases found
    rfl
  | cons range following ih =>
    unfold getAddr at found ⊢
    by_cases allowed : (!range.allow) = true
    · rw [if_pos allowed] at found ⊢
      exact ih found
    rw [if_neg allowed] at found ⊢
    by_cases bounded : range.stop + 1 < 2 ^ 32
    · rw [if_pos bounded] at found ⊢
      cases scanned : scanAddr uaddr following range.start (range.stop + 1 - range.start) with
      | none =>
        simp only [scanned] at found ⊢
        exact ih found
      | some free =>
        simp only [scanned] at found ⊢
        cases found
        rfl
    · rw [if_neg bounded] at found ⊢
      generalize scanAddr uaddr following range.start (2 ^ 32 - range.start) = scanned at found ⊢
      generalize scanAddr uaddr following 0 (2 ^ 32) = wrapped at found ⊢
      cases scanned with
      | some free =>
        cases found
        rfl
      | none =>
        cases wrapped with
        | none => cases found
        | some free =>
          cases found
          rfl

def leasableTest (env : Env) (state : Daemon) (input : Input) : Bool :=
  (state.lnslist ++ state.deflns.toList).all (fun entry => entry.localrange = []) &&
    match input with
    | .datagram datagram => (entering env datagram state).all fun entered =>
        (entered.state.call? entered.tunnel entered.call).all fun call =>
          call.msgtype ≠ some .ICRQ ||
            (entered.state.trace.drop state.trace.length).any Obs.welcome
    | _ => true

theorem leasableTest_sound (state : Daemon) (input : Input)
    (passed : leasableTest env state input = true) : state.Leasable env input := by
  simp only [leasableTest, Bool.and_eq_true, List.all_eq_true, decide_eq_true_eq] at passed
  refine ⟨passed.1, ?_⟩
  rintro datagram entered call rfl enters found icrq
  have tested := passed.2
  simp only [enters, found, Option.all_some, icrq, ne_eq, not_true_eq_false, decide_false,
    Bool.false_or] at tested
  exact List.any_eq_true.mp tested

def exhaustedTest (env : Env) (datagram : Datagram) (state : Daemon) : Bool :=
  leasableTest env state (.datagram datagram) &&
  (entering env datagram state).any fun entered =>
    (entered.state.call? entered.tunnel entered.call).any fun call =>
      (entered.state.tunnel? entered.tunnel).any fun tunnel =>
        tunnel.lns.any fun lns => (entered.state.lns? lns).any fun entry =>
          call.msgtype = some .ICRQ && entry.assignIp &&
            match getAddr entered.state.uaddr entry.range entered.state,
              receive env datagram state with
            | .ok addr _, .ok _ _ => addr = 0
            | _, _ => false

def samplePool : Lns := { ref := 0, range := [⟨10, 10, true⟩] }

def sampleSecondIcrq : Datagram :=
  sampleDatagram 513 0 3 2 (addMessageTypeAvp .ICRQ ++ addCallidAvp 8 ++ addSernoAvp 2)

theorem single_address_pooled : ∃ (env : Env) (state after : Daemon),
    Runs env (fun state input => state.Leasable env input) state ∧ state.addrs = [10] ∧
      state.Pooled ∧ receive env sampleSecondIcrq state = .ok () after ∧
      after.uaddr = state.uaddr := by
  let env := sampleEnv (fun _ _ => none) 5
  obtain ⟨state, runs, tested⟩ : ∃ state,
      Runs env (fun state input => state.Leasable env input) state ∧
      (decide (state.addrs = [10]) && exhaustedTest env sampleSecondIcrq state) = true :=
    execAll_any (leasableTest env) callInputs (sampleServer_booted samplePool rfl) rfl
      leasableTest_sound (by decide +kernel)
  rw [Bool.and_eq_true, decide_eq_true_eq, exhaustedTest, Bool.and_eq_true] at tested
  obtain ⟨addrs, leasable, tested⟩ := tested
  obtain ⟨entered, enters, tested⟩ := (Option.any_eq_true _ _).mp tested
  obtain ⟨call, found, tested⟩ := (Option.any_eq_true _ _).mp tested
  obtain ⟨tunnel, foundTunnel, tested⟩ := (Option.any_eq_true _ _).mp tested
  obtain ⟨lns, owner, tested⟩ := (Option.any_eq_true _ _).mp tested
  obtain ⟨entry, foundEntry, tested⟩ := (Option.any_eq_true _ _).mp tested
  rw [Bool.and_eq_true, Bool.and_eq_true, decide_eq_true_eq] at tested
  obtain ⟨⟨icrq, assigns⟩, tested⟩ := tested
  split at tested
  · rename_i addr _ _ after search ran
    rw [of_decide_eq_true tested] at search
    have pooled := remote_addresses_pooled runs
    exact ⟨env, state, after, runs, addrs, pooled.1, ran,
      pooled.2 _ entered call after (leasableTest_sound _ _ leasable) enters found icrq
        ⟨tunnel, lns, entry, foundTunnel, owner, foundEntry, assigns, getAddr_pure search⟩ ran⟩
  · cases tested

end Xl2tpd
