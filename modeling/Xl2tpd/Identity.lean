import Xl2tpd.Ledger.Origin
import Xl2tpd.Runs

/-!
# Local tunnel and call numbers

The numbers of tunnels and calls are drawn from the entropy source without a look at those in use.
They identify as long as the words drawn are not zero, not in use and not equal.
-/

namespace Xl2tpd

set_option autoImplicit false

open Program

variable {env : Env} {start limit before after state : Daemon}

/-- Live tunnels, and the calls of each, have distinct numbers other than zero. -/
structure Daemon.Identified (state : Daemon) : Prop where
  tunnels : ∀ tunnel ∈ state.tunnels, tunnel.ourtid ≠ 0
  distinct : (state.tunnels.map Tunnel.ourtid).Nodup
  calls : ∀ tunnel ∈ state.tunnels, ∀ call ∈ tunnel.calls, call.ourcid ≠ 0
  distinctCalls : ∀ tunnel ∈ state.tunnels, (tunnel.calls.map Call.ourcid).Nodup

/-- A word drawn in a step is not zero, not in use before, and not drawn twice. -/
def FreshNumbers (env : Env) (before after : Daemon) : Prop :=
  ∀ position, before.drawn ≤ position → position + 2 ≤ after.drawn →
    env.number position ≠ 0 ∧
    (∀ tunnel ∈ before.tunnels, tunnel.ourtid ≠ env.number position ∧
      ∀ call ∈ tunnel.calls, call.ourcid ≠ env.number position) ∧
    ∀ later, position + 2 ≤ later → later + 2 ≤ after.drawn →
      env.number later ≠ env.number position

/-! ## Lookup -/

/-- The reference check of `get_call`. -/
def Tunnel.answers (env : Env) (tunnel : Tunnel) (refhim : Nat) : Bool :=
  !env.ipsecsaref || tunnel.refhim = refhim || refhim = 0 || tunnel.refhim = 0

theorem find_by {Item : Type} {Key : Type} [DecidableEq Key] {key : Item → Key} {items : List Item}
    {item : Item} {test : Item → Bool} (distinct : (items.map key).Nodup) (member : item ∈ items) :
    (items.find? fun other => key other = key item && test other) =
      if test item then some item else none := by
  induction items with
  | nil => cases member
  | cons first rest ih =>
    rw [List.map_cons, List.nodup_cons] at distinct
    rw [List.find?_cons]
    rcases List.mem_cons.mp member with rfl | later
    · cases passed : test item with
      | true => simp
      | false =>
        have absent : (rest.find? fun other => key other = key item && test other) = none := by
          apply List.find?_eq_none.mpr
          intro other listed hit
          simp only [Bool.and_eq_true, decide_eq_true_eq] at hit
          exact distinct.1 (hit.1 ▸ List.mem_map_of_mem listed)
        simp [absent]
    · have apart : key first ≠ key item :=
        fun same => distinct.1 (same ▸ List.mem_map_of_mem later)
      simp only [apart, decide_false, Bool.false_and]
      exact ih distinct.2 later

section Lookup

variable {tunnel : Tunnel} {call : Call} (ids : state.Identified) (member : tunnel ∈ state.tunnels)
  (peer : SockAddr) (refme refhim : Nat)

include ids member

theorem findTunnel_own : findTunnel env state tunnel.ourtid refhim =
    if tunnel.answers env refhim then some tunnel else none :=
  find_by ids.distinct member

theorem getCall_tunnel : getCall env tunnel.ourtid 0 peer refme refhim state =
    .ok (if tunnel.answers env refhim then some (tunnel.ref, .self) else none) state := by
  unfold getCall
  rw [bind_get, if_pos (ids.tunnels tunnel member), findTunnel_own ids member]
  cases tunnel.answers env refhim <;> rfl

theorem getCall_call (listed : call ∈ tunnel.calls) :
    getCall env tunnel.ourtid call.ourcid peer refme refhim state =
      .ok (if tunnel.answers env refhim then some (tunnel.ref, .call call.ref) else none) state := by
  have inTunnel : (tunnel.calls.find? fun sc => sc.ourcid = call.ourcid) = some call :=
    Keyed.find_of_mem (ids.distinctCalls tunnel member) listed
  unfold getCall
  rw [bind_get, if_pos (ids.tunnels tunnel member), findTunnel_own ids member]
  cases tunnel.answers env refhim with
  | false => rfl
  | true =>
    simp only [if_true]
    rw [if_pos (ids.calls tunnel member call listed), inTunnel]
    rfl

end Lookup

/-! ## One step -/

def Env.Drew (env : Env) (start state : Daemon) (number : UInt16) : Prop :=
  ∃ position, start.drawn ≤ position ∧ position + 2 ≤ state.drawn ∧
    env.number position = number

/-- The numbers of a tunnel and its calls are not zero, and each is an old one or was
drawn in this step. -/
structure TunnelDeed.Numbered (env : Env) (start state : Daemon) (deed : TunnelDeed) : Prop where
  tunnel : deed.ourtid ≠ 0 ∧
    ((∃ old ∈ start.tunnels, old.ourtid = deed.ourtid) ∨ env.Drew start state deed.ourtid)
  calls : ∀ number ∈ deed.calls.map CallDeed.ourcid, number ≠ 0 ∧
    ((∃ old ∈ start.tunnels, ∃ call ∈ old.calls, call.ourcid = number) ∨
      env.Drew start state number)
  distinct : (deed.calls.map CallDeed.ourcid).Nodup

structure Identities (env : Env) (start state : Daemon) : Prop where
  grown : start.drawn ≤ state.drawn
  distinct : (state.tunnels.map Tunnel.ourtid).Nodup
  tunnels : ∀ tunnel ∈ state.tunnels, tunnel.deed.Numbered env start state

theorem Env.Drew.mono {number : UInt16} (drew : env.Drew start before number)
    (grown : before.drawn ≤ after.drawn) : env.Drew start after number := by
  obtain ⟨position, lower, upper, same⟩ := drew
  exact ⟨position, lower, upper.trans grown, same⟩

theorem Identities.next (ids : Identities env start state) (fresh : FreshNumbers env start limit)
    (room : state.drawn + 2 ≤ limit.drawn) :
    env.number state.drawn ≠ 0 ∧ ∀ tunnel ∈ state.tunnels,
      tunnel.ourtid ≠ env.number state.drawn ∧
      env.number state.drawn ∉ tunnel.deed.calls.map CallDeed.ourcid := by
  obtain ⟨nonzero, unused, _⟩ := fresh state.drawn ids.grown room
  have undrawn : ¬ env.Drew start state (env.number state.drawn) := by
    rintro ⟨position, lower, upper, same⟩
    exact (fresh position lower (by omega)).2.2 state.drawn upper room same.symm
  refine ⟨nonzero, fun tunnel member => ⟨fun same => ?_, fun listed => ?_⟩⟩
  · have source := (ids.tunnels tunnel member).tunnel.2
    change (∃ old ∈ start.tunnels, old.ourtid = tunnel.ourtid) ∨ env.Drew start state tunnel.ourtid
      at source
    rw [same] at source
    rcases source with ⟨old, wasThere, equal⟩ | drew
    · exact (unused old wasThere).1 equal
    · exact undrawn drew
  · rcases ((ids.tunnels tunnel member).calls _ listed).2 with ⟨old, wasThere, call, inOld, equal⟩ | drew
    · exact (unused old wasThere).2 call inOld equal
    · exact undrawn drew

theorem TunnelDeed.Numbered.shrink {old new : TunnelDeed} (numbered : old.Numbered env start before)
    (grown : before.drawn ≤ after.drawn) (same : new.ourtid = old.ourtid)
    (fewer : (new.calls.map CallDeed.ourcid).Sublist (old.calls.map CallDeed.ourcid)) :
    new.Numbered env start after where
  tunnel := by
    rw [same]
    exact ⟨numbered.tunnel.1, numbered.tunnel.2.imp id fun drew => drew.mono grown⟩
  calls := fun number listed =>
    ⟨(numbered.calls number (fewer.subset listed)).1,
      (numbered.calls number (fewer.subset listed)).2.imp id fun drew => drew.mono grown⟩
  distinct := numbered.distinct.sublist fewer

theorem TunnelDeed.Numbered.join {old : TunnelDeed} {call : CallDeed} {count : Int}
    (numbered : old.Numbered env start before) (grown : before.drawn ≤ after.drawn)
    (nonzero : call.ourcid ≠ 0) (drew : env.Drew start after call.ourcid)
    (unused : call.ourcid ∉ old.calls.map CallDeed.ourcid) :
    TunnelDeed.Numbered env start after
      { old with calls := call :: old.calls, count := count } where
  tunnel := ⟨numbered.tunnel.1, numbered.tunnel.2.imp id fun drew => drew.mono grown⟩
  calls := by
    intro number listed
    rcases List.mem_cons.mp listed with rfl | earlier
    · exact ⟨nonzero, .inr drew⟩
    · exact ⟨(numbered.calls number earlier).1,
        (numbered.calls number earlier).2.imp id fun drew => drew.mono grown⟩
  distinct := List.nodup_cons.mpr ⟨unused, numbered.distinct⟩

theorem TunnelDeed.Fades.ourcids {old new : TunnelDeed} (fades : old.Fades new) :
    new.calls.map CallDeed.ourcid = old.calls.map CallDeed.ourcid := by
  have image := congrArg (List.map CallDeed.ourcid) fades.calls
  rw [List.map_map, List.map_map] at image
  exact image

theorem Origin.numbered {deed : TunnelDeed} (ids : Identities env start before)
    (fresh : FreshNumbers env start limit) (grown : before.drawn ≤ after.drawn)
    (within : after.drawn ≤ limit.drawn) (origin : Origin env before after deed) :
    deed.Numbered env start after := by
  have drawNow : before.drawn + 2 ≤ after.drawn → env.Drew start after (env.number before.drawn) :=
    fun drew => ⟨before.drawn, ids.grown, drew, rfl⟩
  cases origin with
  | kept member | chosen member =>
    exact (ids.tunnels _ member).shrink grown rfl (List.Sublist.refl _)
  | born lac _ _ drew =>
    obtain ⟨nonzero, _⟩ := ids.next fresh (drew.trans within)
    refine ⟨⟨nonzero, .inr (drawNow drew)⟩, fun number listed => ?_, List.nodup_nil⟩
    exact absurd listed List.not_mem_nil
  | inherited member _ drew | placed member _ _ _ drew =>
    obtain ⟨nonzero, unused⟩ := ids.next fresh (drew.trans within)
    exact (ids.tunnels _ member).join grown nonzero (drawNow drew) (unused _ member).2
  | dropped member =>
    exact (ids.tunnels _ member).shrink grown rfl (List.filter_sublist.map _)
  | @assigned old member ref addr =>
    have same : (Keyed.update CallDeed.ref ref (fun call => { call with addr := addr })
        old.deed.calls).map CallDeed.ourcid = old.deed.calls.map CallDeed.ourcid :=
      Keyed.map_update_same fun _ => rfl
    exact (ids.tunnels _ member).shrink grown rfl (same ▸ List.Sublist.refl _)
  | faded member fades =>
    refine (ids.tunnels _ member).shrink grown fades.ourtid ?_
    rw [fades.ourcids]

theorem Op.identities_kept (fresh : FreshNumbers env start limit)
    (op : Op Rules.free env before after) (within : after.drawn ≤ limit.drawn)
    (ids : Identities env start before) : Identities env start after where
  grown := ids.grown.trans op.grows.drawn
  distinct := by
    have numbers : ∀ state : Daemon, state.tunnels.map Tunnel.ourtid =
        (state.tunnels.map Tunnel.name).map Prod.snd := fun state => by rw [List.map_map]; rfl
    rcases op.names with fewer | ⟨more, _, _, drew⟩
    · rw [numbers]
      refine (numbers before ▸ ids.distinct).sublist (fewer.map _)
    · rw [numbers, more, List.map_cons, ← numbers, List.nodup_cons]
      refine ⟨fun listed => ?_, ids.distinct⟩
      obtain ⟨tunnel, member, same⟩ := List.mem_map.mp listed
      exact ((ids.next fresh (drew.trans within)).2 tunnel member).1 same
  tunnels := fun tunnel member =>
    (op.origin member).numbered ids fresh op.grows.drawn within

theorem steps_identities (fresh : FreshNumbers env start limit)
    (steps : Relation.ReflTransGen (Op Rules.free env) start state)
    (within : state.drawn ≤ limit.drawn) (ids : Identities env start start) :
    Identities env start state := by
  induction steps with
  | refl => exact ids
  | tail _ op ih => exact op.identities_kept fresh within (ih (op.grows.drawn.trans within))

theorem Daemon.Identified.identities (ids : state.Identified) : Identities env state state where
  grown := Nat.le_refl _
  distinct := ids.distinct
  tunnels := by
    intro tunnel member
    refine ⟨⟨ids.tunnels tunnel member, .inl ⟨tunnel, member, rfl⟩⟩, fun number listed => ?_, ?_⟩
    · simp only [Tunnel.deed, List.map_map, List.mem_map] at listed
      obtain ⟨call, inTunnel, rfl⟩ := listed
      exact ⟨ids.calls tunnel member call inTunnel, .inl ⟨tunnel, member, call, inTunnel, rfl⟩⟩
    · simp only [Tunnel.deed, List.map_map]
      exact ids.distinctCalls tunnel member

theorem Identities.identified (ids : Identities env start state) : state.Identified where
  tunnels := fun tunnel member => (ids.tunnels tunnel member).tunnel.1
  distinct := ids.distinct
  calls := by
    intro tunnel member call listed
    refine ((ids.tunnels tunnel member).calls call.ourcid ?_).1
    exact List.mem_map_of_mem (List.mem_map_of_mem listed)
  distinctCalls := by
    intro tunnel member
    have distinct := (ids.tunnels tunnel member).distinct
    simp only [Tunnel.deed, List.map_map] at distinct
    exact distinct

/-! ## Runs -/

theorem trail_identified (trail : Trail env (FreshNumbers env) state) : state.Identified := by
  induction trail with
  | @boot start _ booted ran fresh =>
    have none : start.Identified := by
      refine ⟨?_, ?_, ?_, ?_⟩ <;> simp [booted.tunnels]
    exact (steps_identities fresh (init_free () _ ran) (Nat.le_refl _) none.identities).identified
  | step _ ran fresh ih =>
    exact (steps_identities fresh (exec_free () _ ran) (Nat.le_refl _) ih.identities).identified

/-- As long as the entropy source delivers no word that is zero or in use, local numbers identify
tunnels and calls for `get_call`. -/
theorem local_ids_identify (trail : Trail env (FreshNumbers env) state) :
    state.Identified ∧ ∀ tunnel ∈ state.tunnels, ∀ peer refme refhim,
      getCall env tunnel.ourtid 0 peer refme refhim state =
        .ok (if tunnel.answers env refhim then some (tunnel.ref, .self) else none) state ∧
      ∀ call ∈ tunnel.calls, getCall env tunnel.ourtid call.ourcid peer refme refhim state =
        .ok (if tunnel.answers env refhim then some (tunnel.ref, .call call.ref) else none)
          state := by
  have ids := trail_identified trail
  refine ⟨ids, fun tunnel member peer refme refhim => ⟨?_, fun call listed => ?_⟩⟩
  · exact getCall_tunnel ids member peer refme refhim
  · exact getCall_call ids member peer refme refhim listed

def freshNumbersTest (env : Env) (before after : Daemon) : Bool :=
  (List.range after.drawn).all fun position =>
    position < before.drawn || after.drawn < position + 2 ||
      (env.number position ≠ 0 &&
        before.tunnels.all (fun tunnel => tunnel.ourtid ≠ env.number position &&
          tunnel.calls.all fun call => call.ourcid ≠ env.number position) &&
        (List.range after.drawn).all fun later =>
          later < position + 2 || after.drawn < later + 2 ||
            env.number later ≠ env.number position)

theorem freshNumbersTest_sound (before after : Daemon)
    (passed : freshNumbersTest env before after = true) : FreshNumbers env before after := by
  intro position lower upper
  have drawn := List.all_eq_true.mp passed position (List.mem_range.mpr (by omega))
  simp only [Bool.or_eq_true, Bool.and_eq_true, decide_eq_true_eq, List.all_eq_true] at drawn
  rcases drawn with (early | late) | ⟨⟨nonzero, unused⟩, once⟩
  · omega
  · omega
  · refine ⟨nonzero, unused, fun later above within => ?_⟩
    rcases once later (List.mem_range.mpr (by omega)) with (early | late) | differs
    · omega
    · omega
    · exact differs

theorem ids_of_two_calls_identify : ∃ (env : Env) (state : Daemon) (tunnel : Tunnel),
    Trail env (FreshNumbers env) state ∧ tunnel ∈ state.tunnels ∧ tunnel.calls.length = 2 ∧
      state.Identified := by
  let env := sampleEnv (fun _ _ => none) 5
  let inputs := callInputs ++
    [.datagram (sampleDatagram 513 0 3 2 (addMessageTypeAvp .ICRQ ++ addCallidAvp 10 ++
      addSernoAvp 2))]
  have starts : Trail env (FreshNumbers env) (sampleServer sampleLns) :=
    .boot (sampleServer_booted sampleLns rfl) rfl (freshNumbersTest_sound _ _ (by decide +kernel))
  have tested : (execAll env (fun state input =>
      freshNumbersTest env state (final (exec env input state))) inputs
      (sampleServer sampleLns)).any (fun state =>
        state.tunnels.any fun tunnel => tunnel.calls.length = 2) = true := by
    decide +kernel
  obtain ⟨state, ran, passed⟩ := (Option.any_eq_true _ _).mp tested
  obtain ⟨tunnel, member, two⟩ := List.any_eq_true.mp passed
  have trail := execAll_trail freshNumbersTest_sound starts ran
  exact ⟨env, state, tunnel, trail, member, of_decide_eq_true two, (local_ids_identify trail).1⟩

/-- A source that repeats a word gives two tunnels the same number. -/
theorem repeated_word_repeats_id : ∃ (env : Env) (state : Daemon),
    Reachable env state ∧ ¬ state.Identified := by
  let env := { sampleEnv (fun _ _ => none) 5 with entropy := fun _ => 1 }
  let second : Datagram :=
    { sampleSccrq with peer := ⟨8, 6⟩ }
  obtain ⟨state, reached, tested⟩ : ∃ state, Reachable env state ∧
      (decide (state.tunnels.map Tunnel.ourtid = [257, 257])) = true :=
    reachable_any [.datagram sampleSccrq, .datagram second] (sampleServer_booted sampleLns rfl) rfl
      (by decide +kernel)
  refine ⟨env, state, reached, fun ids => ?_⟩
  have distinct := ids.distinct
  rw [of_decide_eq_true tested] at distinct
  simp at distinct

end Xl2tpd
