import Xl2tpd.Channel

/-!
# Retransmission

A message is followed from the number it gets to its release. As long as the numbers of
its tunnel have not come round, it has at most one `control_xmit` event, which counts its
transmissions, and it is not sent again once it was tossed as received.
-/

namespace Xl2tpd

set_option autoImplicit false

open Program

variable {assume : Assume} {env : Env} {allowed : Action → Prop} {view after before : View}
  {t : TunnelRef} {ns : UInt16} {state : Daemon} {buffer : Buffer} {fate : Fate}

/-- The message was transmitted (`true`) or tossed. -/
def Obs.mark (t : TunnelRef) (ns : UInt16) : Obs → Option Bool
  | .xmit u header body => if u = t ∧ header.Ns = ns ∧ body ≠ [] then some true else none
  | .tossed u number => if u = t ∧ number = ns then some false else none
  | _ => none

theorem Obs.mark_true {note : Obs} (marked : note.mark t ns = some true) :
    ∃ header body, note = .xmit t header body ∧ body ≠ [] := by
  cases note with
  | xmit u header body =>
    obtain ⟨⟨rfl, _, carries⟩, _⟩ := Option.ite_none_right_eq_some.mp marked
    exact ⟨header, body, rfl, carries⟩
  | tossed => exact absurd (Option.ite_none_right_eq_some.mp marked).2 (by decide)
  | _ => cases marked

def marks (t : TunnelRef) (ns : UInt16) (trace : List Obs) : List Bool :=
  trace.filterMap (Obs.mark t ns)

def Buffer.bears (t : TunnelRef) (ns : UInt16) (buffer : Buffer) : Prop :=
  buffer.tunnel = t ∧ buffer.header.Ns = ns

instance (t : TunnelRef) (ns : UInt16) : DecidablePred (Buffer.bears t ns) := fun _ =>
  inferInstanceAs (Decidable (_ ∧ _))

def awaiting (t : TunnelRef) (ns : UInt16) (buffers : Multiset Buffer) : Multiset Buffer :=
  buffers.filter (Buffer.bears t ns)

/-- What may be seen of a message: transmissions within the limit, counted by the one event
that waits, and perhaps a toss behind them, with no event left. -/
inductive Life (limit : Nat) (marks : List Bool) (events : Multiset Buffer) : Prop
  | live (count : Nat) (bound : count ≤ limit) (sent : marks = List.replicate count true)
      (counts : ∀ buffer ∈ events, buffer.retries = count) (single : events.card ≤ 1)
  | tossed (count : Nat) (bound : count ≤ limit)
      (sent : marks = List.replicate count true ++ [false]) (none : events = 0)

theorem Life.shrink {limit : Nat} {marks : List Bool} {events fewer : Multiset Buffer}
    (life : Life limit marks events) (less : fewer ≤ events) : Life limit marks fewer := by
  cases life with
  | live count bound sent counts single =>
    have kept : ∀ buffer ∈ fewer, buffer.retries = count :=
      fun buffer member => counts buffer (Multiset.mem_of_le less member)
    exact .live count bound sent kept ((Multiset.card_le_card less).trans single)
  | tossed count bound sent none =>
    rw [none] at less
    exact .tossed count bound sent (Multiset.le_zero.mp less)

structure Tracked (env : Env) (view : View) (t : TunnelRef) (ns : UInt16) : Prop where
  life : Life env.maxRetries (marks t ns view.trace) (awaiting t ns view.buffers)
  unused : (numberedOn t view.trace).length ≤ ns.toNat →
    marks t ns view.trace = [] ∧ awaiting t ns view.buffers = 0

/-- A step that does not touch the message, except that its event may go. -/
theorem Tracked.idle {notes : List Obs} (tracked : Tracked env before t ns)
    (trace : after.trace = before.trace ++ notes) (silent : marks t ns notes = [])
    (less : awaiting t ns after.buffers ≤ awaiting t ns before.buffers) :
    Tracked env after t ns := by
  have same : marks t ns after.trace = marks t ns before.trace := by
    rw [trace, marks, List.filterMap_append]
    exact (congrArg _ silent).trans (List.append_nil _)
  constructor
  · rw [same]
    exact tracked.life.shrink less
  · intro small
    rw [trace, numberedOn_append, List.length_append] at small
    obtain ⟨unsent, empty⟩ := tracked.unused (by omega)
    rw [empty] at less
    exact ⟨same.trans unsent, Multiset.le_zero.mp less⟩

/-- What `control_xmit` does with a message that no event holds. -/
theorem Fate.tracked {core : TunnelCore} {count : Nat} (bears : buffer.bears t ns)
    (carries : buffer.body ≠ []) (decided : fate.decided env core buffer)
    (sent : marks t ns view.trace = List.replicate count true) (bound : count ≤ env.maxRetries)
    (tries : buffer.retries = count + 1) (empty : awaiting t ns view.buffers = 0)
    (used : ns.toNat < (numberedOn t view.trace).length) :
    Tracked env (fate.apply buffer view) t ns := by
  constructor
  · rw [Fate.apply_trace, marks, List.filterMap_append]
    cases fate with
    | queued =>
      have event : awaiting t ns (buffer ::ₘ view.buffers) = {buffer} := by
        rw [awaiting, Multiset.filter_cons_of_pos _ bears]
        exact congrArg (buffer ::ₘ ·) empty
      refine .live (count + 1) (tries.ge.trans decided.2) ?_ ?_ (congrArg Multiset.card event).le
      · rw [List.replicate_succ', ← sent]
        simp [Fate.adds, Obs.mark, bears.1, bears.2, carries, marks]
      · intro other member
        cases Multiset.mem_singleton.mp (event ▸ member)
        exact tries
    | tossed =>
      refine .tossed count bound ?_ empty
      rw [← sent]
      simp [Fate.adds, Obs.mark, bears.1, bears.2, marks]
    | dropped =>
      refine .live count bound ((List.append_nil _).trans sent) ?_ ?_
      · exact fun other member => absurd (empty ▸ member) (Multiset.notMem_zero other)
      · exact (congrArg Multiset.card empty).trans_le (Nat.zero_le 1)
  · intro small
    rw [Fate.apply_trace, numberedOn_append, List.length_append] at small
    omega

/-! ## Every step -/

theorem Fate.awaiting_other (other : ¬ buffer.bears t ns) :
    awaiting t ns (fate.apply buffer view).buffers = awaiting t ns view.buffers := by
  cases fate with
  | queued => exact Multiset.filter_cons_of_neg _ other
  | tossed | dropped => rfl

theorem Fate.marks_other (other : ¬ buffer.bears t ns) : marks t ns (fate.adds buffer) = [] := by
  unfold Buffer.bears at other
  cases fate with
  | queued | tossed => simp_all [marks, Fate.adds, Obs.mark]
  | dropped => rfl

theorem Tracked.send (tracked : Tracked env view t ns) (numbers : view.Numbers)
    (enabled : (Action.send buffer fate).enabled assume env view)
    (small : (numberedOn t ((Action.send buffer fate).apply view).trace).length < 2 ^ 16) :
    Tracked env ((Action.send buffer fate).apply view) t ns := by
  have grown := (Action.send buffer fate).trace_numbered (t := t) enabled
  obtain ⟨carries, first, core, found, ⟨_, _, next, _⟩, decided⟩ := enabled
  by_cases bears : buffer.bears t ns
  · -- The number is the count of the messages numbered before, so it was not used.
    have number : ns.toNat = (numberedOn t view.trace).length := by
      rw [grown, List.length_append] at small
      rw [← bears.2, next, numbers.seq _ core found, bears.1, UInt16.toNat_ofNat_of_lt']
      exact Nat.lt_of_le_of_lt (Nat.le_add_right _ _) small
    obtain ⟨unsent, empty⟩ := tracked.unused number.ge
    have silent : marks t ns (view.trace ++ [.numbered buffer.tunnel buffer.header.Ns
        buffer.body]) = List.replicate 0 true :=
      List.filterMap_append.trans (congrArg (· ++ []) unsent)
    refine Fate.tracked bears carries decided silent (Nat.zero_le _) first empty ?_
    show ns.toNat < (numberedOn t (view.trace ++ _)).length
    rw [numberedOn_append, number]
    simp [numberedOn, Obs.numberedOn, bears.1]
  · exact tracked.idle (Action.apply_trace _ _) (Fate.marks_other bears)
      (Fate.awaiting_other bears).le

theorem Tracked.resend (tracked : Tracked env view t ns) (numbers : view.Numbers)
    (enabled : (Action.resend buffer fate).enabled assume env view) :
    Tracked env ((Action.resend buffer fate).apply view) t ns := by
  obtain ⟨waits, core, _, decided⟩ := enabled
  have rest : awaiting t ns (view.buffers.erase buffer) ≤ awaiting t ns view.buffers :=
    Multiset.filter_le_filter _ (Multiset.erase_le _ _)
  by_cases bears : buffer.bears t ns
  · have parts : awaiting t ns view.buffers =
        buffer ::ₘ awaiting t ns (view.buffers.erase buffer) := by
      rw [awaiting, ← Multiset.cons_erase waits, Multiset.filter_cons_of_pos _ bears,
        Multiset.cons_erase waits]
      rfl
    have used : ns.toNat < (numberedOn t view.trace).length := by
      by_contra late
      have empty := (tracked.unused (Nat.le_of_not_lt late)).2
      exact Multiset.cons_ne_zero (parts.symm.trans empty)
    cases tracked.life with
    | live count bound sent counts single =>
      rw [parts] at counts single
      have tries := counts buffer (Multiset.mem_cons_self _ _)
      have empty : awaiting t ns (view.buffers.erase buffer) = 0 := by
        rw [Multiset.card_cons] at single
        exact Multiset.card_eq_zero.mp (by omega)
      exact Fate.tracked bears (numbers.waits buffer waits).carries decided sent bound
        (congrArg (· + 1) tries) empty used
    | tossed _ _ _ none => exact absurd (parts.symm.trans none) Multiset.cons_ne_zero
  · have other : ¬ buffer.tried.bears t ns := bears
    exact tracked.idle (Action.apply_trace _ _) (Fate.marks_other other)
      ((Fate.awaiting_other other).trans_le rest)

theorem Action.tracked {action : Action} (enabled : action.enabled assume env view)
    (numbers : view.Numbers) (tracked : Tracked env view t ns)
    (small : (numberedOn t (action.apply view).trace).length < 2 ^ 16) :
    Tracked env (action.apply view) t ns := by
  have keeps := tracked.idle (action.apply_trace view)
  cases action with
  | send buffer fate => exact tracked.send numbers enabled small
  | resend buffer fate => exact tracked.resend numbers enabled
  | lose buffer => exact keeps rfl (Multiset.filter_le_filter _ (Multiset.erase_le _ _))
  | deschedule u => exact keeps rfl (Multiset.filter_le_filter _ (Multiset.filter_le _ _))
  | zlb u header => exact keeps (by simp [marks, Action.adds, Obs.mark]) (le_refl _)
  | note observed =>
    cases observed with
    | verdict | finish | startPppd => exact keeps rfl (le_refl _)
    | _ => cases enabled
  | _ => exact keeps rfl (le_refl _)

/-! ## Every run -/

structure View.Tracks (env : Env) (view : View) : Prop where
  numbers : view.Numbers
  tracked : ∀ t ns, (numberedOn t view.trace).length < 2 ^ 16 → Tracked env view t ns

theorem Acts.tracks_kept (acts : Acts assume env allowed before after)
    (tracks : before.Tracks env) : after.Tracks env := by
  refine ⟨acts.numbers_kept tracks.numbers, fun t ns small => ?_⟩
  have earlier : (numberedOn t before.trace).length < 2 ^ 16 :=
    Nat.lt_of_le_of_lt (acts_grows (t := t) acts.trace_grows).sent.length_le small
  have tracked := tracks.tracked t ns earlier
  cases acts with
  | quiet same =>
    obtain ⟨notes, trace, silent⟩ := same.trace
    refine tracked.idle trace (List.filterMap_eq_nil_iff.mpr fun note member => ?_) ?_
    · have hidden := silent note member
      cases note <;> first | rfl | cases hidden
    · rw [same.buffers]
  | act action _ enabled => exact action.tracked enabled tracks.numbers tracked small

theorem Booted.tracks (booted : Booted state) : state.view.Tracks env := by
  refine ⟨booted.numbers, fun t ns _ => ?_⟩
  have empty : awaiting t ns state.view.buffers = 0 := congrArg (awaiting t ns) booted.no_buffers
  have unsent : marks t ns state.view.trace = [] := congrArg (marks t ns) booted.no_trace
  refine ⟨?_, fun _ => ⟨unsent, empty⟩⟩
  rw [unsent, empty]
  exact .live 0 (Nat.zero_le _) rfl (fun buffer member => absurd member (Multiset.notMem_zero _))
    (Nat.zero_le 1)

theorem runs_tracks (reached : Reachable env state) : state.view.Tracks env :=
  runs_invariant (fun _ _ => Acts.tracks_kept) (fun _ booted => booted.tracks) reached

theorem Numbered.exact {trace : List Obs} {header : ControlHdr} {body : Bytes}
    (numbered : Numbered trace t header body) (small : (numberedOn t trace).length < 2 ^ 16) :
    (numberedOn t trace)[header.Ns.toNat]? = some body := by
  obtain ⟨n, same, found⟩ := numbered.number
  have within : n < 2 ^ 16 := (List.getElem?_eq_some_iff.mp found).1.trans small
  rw [same, UInt16.toNat_ofNat_of_lt' within]
  exact found

/-- The SCCRP of a tunnel the peer asked for, sent again after a second. -/
theorem sccrp_resent : ∃ state, Reachable (sampleEnv (fun _ _ => none) 5) state ∧
    state.unwrapped 1 ∧ marks 1 0 state.trace = [true, true] := by
  obtain ⟨state, reached, tested⟩ := @reachable_any (sampleEnv (fun _ _ => none) 5)
    [.datagram sampleSccrq, .tick ⟨1, 0⟩, .timer] _
    (fun state => (numberedOn 1 state.trace).length < 2 ^ 16 ∧
      marks 1 0 state.trace = [true, true]) (sampleStart_booted false) rfl (by decide +kernel)
  obtain ⟨small, sent⟩ := of_decide_eq_true tested
  exact ⟨state, reached, small, sent⟩

/-- Each message of a tunnel whose numbers have not come round is transmitted at most
`max_retries` times and has at most one event, which holds its text and counts the
transmissions; nothing is sent or waits after it was tossed. -/
theorem retransmissions_tracked (reached : Reachable env state) (unwrapped : state.unwrapped t)
    (ns : UInt16) :
    Life env.maxRetries (marks t ns state.trace) (awaiting t ns (waiting state.events)) ∧
      ∀ buffer ∈ awaiting t ns (waiting state.events),
        (numberedOn t state.trace)[ns.toNat]? = some buffer.body := by
  have tracks := runs_tracks reached
  refine ⟨(tracks.tracked t ns unwrapped).life, fun buffer member => ?_⟩
  obtain ⟨waits, rfl, rfl⟩ := Multiset.mem_filter.mp member
  exact (tracks.numbers.waits buffer waits).exact unwrapped

theorem sccrp_resent_tracked :
    ∃ state, Reachable (sampleEnv (fun _ _ => none) 5) state ∧
      marks 1 0 state.trace = [true, true] ∧
      Life 5 (marks 1 0 state.trace) (awaiting 1 0 (waiting state.events)) := by
  obtain ⟨state, reached, small, sent⟩ := sccrp_resent
  exact ⟨state, reached, sent, (retransmissions_tracked reached small 0).1⟩

/-- Every control packet is well formed and carries nothing, or the message that got its
number: a message is never sent in two versions. -/
theorem packets_carry_numbered {header : ControlHdr} {body : Bytes}
    (reached : Reachable env state) (unwrapped : state.unwrapped t)
    (sent : .xmit t header body ∈ state.trace) :
    header.ver = controlVer ∧ header.length = UInt16.ofNat (controlHdrSize + body.length) ∧
      (body = [] ∨ (numberedOn t state.trace)[header.Ns.toNat]? = some body) := by
  rcases (runs_tracks reached).numbers.sent t header body sent with message | ⟨ver, length, rfl⟩
  · exact ⟨message.ver, message.length, .inr (message.exact unwrapped)⟩
  · exact ⟨ver, length, .inl rfl⟩

theorem sccrp_carried : ∃ (state : Daemon) (header : ControlHdr) (body : Bytes),
    Reachable (sampleEnv (fun _ _ => none) 5) state ∧ .xmit 1 header body ∈ state.trace ∧
      body ≠ [] ∧ (numberedOn 1 state.trace)[header.Ns.toNat]? = some body := by
  obtain ⟨state, reached, small, sent⟩ := sccrp_resent
  have member : true ∈ marks 1 0 state.trace := by simp [sent]
  obtain ⟨note, noted, marked⟩ := List.mem_filterMap.mp member
  obtain ⟨header, body, rfl, carries⟩ := Obs.mark_true marked
  have carried := (packets_carry_numbered reached small noted).2.2
  exact ⟨state, header, body, reached, noted, carries, carried.resolve_left carries⟩

end Xl2tpd
