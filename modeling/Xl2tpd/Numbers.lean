import Xl2tpd.Addresses

/-!
# Message numbers

The send counter is the number of messages numbered so far, modulo 2^16, and a packet that waits
or was sent carries the message that got its number.
-/

namespace Xl2tpd

set_option autoImplicit false

open Program

variable {note : Obs} {after before : View} {state : Daemon}

variable {assume : Assume} {env : Env} {allowed : Action → Prop} {view : View} {t : TunnelRef}

/-! ## Histories of a tunnel -/

def Obs.numberedOn (t : TunnelRef) : Obs → Option Bytes
  | .numbered u _ body => if u = t then some body else none
  | _ => none

def Obs.acceptedOn (t : TunnelRef) : Obs → Option Bytes
  | .accepted u body => if u = t then some body else none
  | _ => none

def numberedOn (t : TunnelRef) (trace : List Obs) : List Bytes :=
  trace.filterMap (Obs.numberedOn t)

def acceptedOn (t : TunnelRef) (trace : List Obs) : List Bytes :=
  trace.filterMap (Obs.acceptedOn t)

theorem numberedOn_append (trace notes : List Obs) :
    numberedOn t (trace ++ notes) = numberedOn t trace ++ numberedOn t notes :=
  List.filterMap_append

theorem acceptedOn_append (trace notes : List Obs) :
    acceptedOn t (trace ++ notes) = acceptedOn t trace ++ acceptedOn t notes :=
  List.filterMap_append

theorem Obs.silent_numberedOn (silent : note.silent = true) :
    note.numberedOn t = none := by
  cases note <;> first | rfl | cases silent

theorem Obs.silent_acceptedOn (silent : note.silent = true) :
    note.acceptedOn t = none := by
  cases note <;> first | rfl | cases silent

theorem Quiet.numberedOn_kept (quiet : Quiet before after) :
    numberedOn t after.trace = numberedOn t before.trace := by
  obtain ⟨notes, trace, silent⟩ := quiet.trace
  have none : numberedOn t notes = [] := by
    apply List.filterMap_eq_nil_iff.mpr
    intro note member
    exact Obs.silent_numberedOn (silent note member)
  rw [trace, numberedOn_append, none, List.append_nil]

theorem Quiet.acceptedOn_kept (quiet : Quiet before after) :
    acceptedOn t after.trace = acceptedOn t before.trace := by
  obtain ⟨notes, trace, silent⟩ := quiet.trace
  have none : acceptedOn t notes = [] := by
    apply List.filterMap_eq_nil_iff.mpr
    intro note member
    exact Obs.silent_acceptedOn (silent note member)
  rw [trace, acceptedOn_append, none, List.append_nil]

/-! ## Nothing is known of a tunnel before it is made -/

def Obs.channel? : Obs → Option TunnelRef
  | .numbered t _ _ | .xmit t _ _ | .tossed t _ | .accepted t _ => some t
  | _ => none

theorem Obs.silent_channel (silent : note.silent = true) : note.channel? = none := by
  cases note <;> first | rfl | cases silent

structure View.Born (view : View) : Prop where
  fresh : view.Fresh
  trace : ∀ note ∈ view.trace, ∀ t ∈ note.channel?, t < view.fresh
  buffers : ∀ buffer ∈ view.buffers, buffer.tunnel < view.fresh

theorem View.Fresh.found {core : TunnelCore} (fresh : view.Fresh)
    (found : view.tunnel? t = some core) : t < view.fresh := by
  have below := fresh.tunnels core (Keyed.find_mem found)
  rw [View.tunnel_ref found] at below
  exact below

theorem Action.fresh_le (action : Action) (enabled : action.enabled assume env view) :
    view.fresh ≤ (action.apply view).fresh := by
  cases action with
  | link ref selfRef =>
    cases enabled
    exact Nat.le_add_right _ 2
  | send buffer fate => cases fate <;> exact Nat.le_refl _
  | resend buffer fate => cases fate <;> exact Nat.le_refl _
  | addLns | addLac => exact Nat.le_succ _
  | _ => exact Nat.le_refl _

theorem Fate.adds_channel {buffer : Buffer} {fate : Fate} (member : note ∈ fate.adds buffer) :
    note.channel? = some buffer.tunnel := by
  cases fate with
  | queued | tossed =>
    rw [List.mem_singleton.mp member]
    rfl
  | dropped => cases member

theorem Action.adds_channel {action : Action} (born : view.Born)
    (enabled : action.enabled assume env view) (member : note ∈ action.adds)
    (about : t ∈ note.channel?) : t < view.fresh := by
  cases action with
  | accept u header body | zlb u header =>
    obtain ⟨core, found, _⟩ := enabled
    rw [List.mem_singleton.mp member] at about
    cases about
    exact born.fresh.found found
  | send buffer fate =>
    obtain ⟨_, _, core, found, _⟩ := enabled
    have channel : note.channel? = some buffer.tunnel := by
      rcases List.mem_cons.mp member with first | later
      · rw [first]
        rfl
      · exact Fate.adds_channel later
    rw [channel] at about
    cases about
    exact born.fresh.found found
  | resend buffer fate =>
    have channel : note.channel? = some buffer.tunnel := Fate.adds_channel member
    rw [channel] at about
    cases about
    exact born.buffers buffer enabled.1
  | draw | establish =>
    rw [List.mem_singleton.mp member] at about
    cases about
  | note observed =>
    rw [List.mem_singleton.mp member] at about
    have typing : (observed.typing || observed.starting) = true := enabled
    cases observed with
    | verdict | finish | startPppd => cases about
    | _ => cases typing
  | _ => cases member

theorem Action.born_kept (action : Action) (enabled : action.enabled assume env view)
    (born : view.Born) : (action.apply view).Born := by
  have grows := action.fresh_le enabled
  refine ⟨action.fresh_kept enabled born.fresh, ?_, ?_⟩
  · intro note member t about
    rw [Action.apply_trace] at member
    rcases List.mem_append.mp member with old | added
    · exact (born.trace note old t about).trans_le grows
    · exact (Action.adds_channel born enabled added about).trans_le grows
  · intro buffer member
    rcases action.mem_buffers member with old | rfl | ⟨old, rfl, rfl⟩
    · exact (born.buffers buffer old).trans_le grows
    · obtain ⟨_, _, core, found, _⟩ := enabled
      exact (born.fresh.found found).trans_le grows
    · exact (born.buffers old enabled.1).trans_le grows

theorem Quiet.born_kept (quiet : Quiet before after) (born : before.Born) :
    after.Born := by
  refine ⟨quiet.fresh_kept born.fresh, ?_, ?_⟩
  · intro note member t about
    obtain ⟨notes, trace, silent⟩ := quiet.trace
    rw [trace] at member
    rcases List.mem_append.mp member with old | added
    · exact (born.trace note old t about).trans_le quiet.fresh
    · rw [Obs.silent_channel (silent note added)] at about
      cases about
  · rw [quiet.buffers]
    exact fun buffer member => (born.buffers buffer member).trans_le quiet.fresh

theorem Booted.no_buffers (booted : Booted state) : state.view.buffers = 0 := by
  simp [Daemon.view, booted.events, waiting]

theorem Booted.no_trace (booted : Booted state) : state.view.trace = [] :=
  booted.trace

theorem Booted.no_tunnel (booted : Booted state) :
    state.view.tunnel? t = none := by
  simp [View.tunnel?, Daemon.view, booted.tunnels, Keyed.find]

theorem Booted.born (booted : Booted state) : state.view.Born := by
  refine ⟨booted.fresh, ?_, ?_⟩
  · rw [booted.no_trace]
    exact List.forall_mem_nil _
  · rw [booted.no_buffers]
    exact fun buffer member => absurd member (Multiset.notMem_zero buffer)

theorem View.Born.unnumbered (born : view.Born) (unborn : view.fresh ≤ t) :
    numberedOn t view.trace = [] := by
  apply List.filterMap_eq_nil_iff.mpr
  intro note member
  cases note with
  | numbered u ns body =>
    have below := born.trace _ member u rfl
    have apart : u ≠ t := (below.trans_le unborn).ne
    exact if_neg apart
  | _ => rfl

theorem View.Born.unaccepted (born : view.Born) (unborn : view.fresh ≤ t) :
    acceptedOn t view.trace = [] := by
  apply List.filterMap_eq_nil_iff.mpr
  intro note member
  cases note with
  | accepted u body =>
    have below := born.trace _ member u rfl
    have apart : u ≠ t := (below.trans_le unborn).ne
    exact if_neg apart
  | _ => rfl

/-! ## The send counter -/

/-- The packet is well formed, and its message is the one that got its number. -/
structure Numbered (trace : List Obs) (t : TunnelRef) (header : ControlHdr) (body : Bytes) :
    Prop where
  ver : header.ver = controlVer
  length : header.length = UInt16.ofNat (controlHdrSize + body.length)
  carries : body ≠ []
  number : ∃ n, header.Ns = UInt16.ofNat n ∧ (numberedOn t trace)[n]? = some body

theorem Numbered.grows {trace notes : List Obs} {header : ControlHdr} {body : Bytes}
    (numbered : Numbered trace t header body) : Numbered (trace ++ notes) t header body := by
  obtain ⟨n, same, found⟩ := numbered.number
  refine ⟨numbered.ver, numbered.length, numbered.carries, n, same, ?_⟩
  have within : n < (numberedOn t trace).length := (List.getElem?_eq_some_iff.mp found).1
  rw [numberedOn_append, List.getElem?_append_left within]
  exact found

/-- A packet that was sent: a numbered message, or nothing but a header. -/
def Sent (trace : List Obs) (t : TunnelRef) (header : ControlHdr) (body : Bytes) : Prop :=
  Numbered trace t header body ∨
    header.ver = controlVer ∧ header.length = UInt16.ofNat controlHdrSize ∧ body = []

structure View.Numbers (view : View) : Prop where
  born : view.Born
  seq : ∀ t core, view.tunnel? t = some core →
    core.controlSeqNum = UInt16.ofNat (numberedOn t view.trace).length
  waits : ∀ buffer ∈ view.buffers,
    Numbered view.trace buffer.tunnel buffer.header buffer.body
  sent : ∀ t header body, .xmit t header body ∈ view.trace → Sent view.trace t header body

theorem Fate.adds_unnumbered (buffer : Buffer) (fate : Fate) :
    numberedOn t (fate.adds buffer) = [] := by
  cases fate <;> rfl

def Action.numbers (t : TunnelRef) : Action → List Bytes
  | .send buffer _ => if buffer.tunnel = t then [buffer.body] else []
  | _ => []

def Action.accepts (t : TunnelRef) : Action → List Bytes
  | .accept u _ body => if u = t then [body] else []
  | _ => []

theorem Action.adds_numbered (action : Action) (enabled : action.enabled assume env view) :
    numberedOn t action.adds = action.numbers t := by
  cases action with
  | send buffer fate =>
    have rest : numberedOn t (fate.adds buffer) = [] := Fate.adds_unnumbered buffer fate
    simp only [Action.adds, Action.numbers]
    rw [← List.singleton_append, numberedOn_append, rest, List.append_nil]
    by_cases same : buffer.tunnel = t <;> simp [numberedOn, Obs.numberedOn, same]
  | resend buffer fate => exact Fate.adds_unnumbered buffer.tried fate
  | note observed =>
    cases observed with
    | verdict | finish | startPppd => rfl
    | _ => cases enabled
  | _ => rfl

theorem Fate.adds_unaccepted (buffer : Buffer) (fate : Fate) :
    acceptedOn t (fate.adds buffer) = [] := by
  cases fate <;> rfl

theorem Action.adds_accepted (action : Action) (enabled : action.enabled assume env view) :
    acceptedOn t action.adds = action.accepts t := by
  cases action with
  | send buffer fate =>
    have rest : acceptedOn t (fate.adds buffer) = [] := Fate.adds_unaccepted buffer fate
    simp only [Action.adds, Action.accepts]
    rw [← List.singleton_append, acceptedOn_append, rest]
    rfl
  | resend buffer fate => exact Fate.adds_unaccepted buffer.tried fate
  | accept u header body =>
    simp only [Action.adds, Action.accepts]
    by_cases same : u = t <;> simp [acceptedOn, Obs.acceptedOn, same]
  | note observed =>
    cases observed with
    | verdict | finish | startPppd => rfl
    | _ => cases enabled
  | _ => rfl

theorem Move.apply_seq (change : Move) (core : TunnelCore) :
    (change.apply core).controlSeqNum = core.controlSeqNum := by
  cases change with
  | acked c nr | call c move => cases c <;> rfl
  | _ => rfl

theorem Action.core_seq (action : Action) (core : TunnelCore) :
    (action.core t core).controlSeqNum =
      core.controlSeqNum + UInt16.ofNat (action.numbers t).length := by
  cases action with
  | send buffer fate =>
    simp only [Action.core, Action.numbers]
    by_cases same : t = buffer.tunnel
    · rw [if_pos same, if_pos same.symm]
      rfl
    · rw [if_neg same, if_neg (Ne.symm same)]
      exact (UInt16.add_zero _).symm
  | move u change =>
    simp only [Action.core, Action.numbers]
    split
    · rw [change.apply_seq]
      exact (UInt16.add_zero _).symm
    · exact (UInt16.add_zero _).symm
  | draw | establish | accept =>
    simp only [Action.core, Action.numbers]
    split <;> exact (UInt16.add_zero _).symm
  | _ => exact (UInt16.add_zero _).symm

section

variable (action : Action) (enabled : action.enabled assume env view)

include action enabled

theorem Action.adds_xmit {header : ControlHdr} {body : Bytes}
    (added : .xmit t header body ∈ action.adds) :
    (action = .zlb t header ∧ body = []) ∨
      (∃ buffer, action = .send buffer .queued ∧ t = buffer.tunnel ∧ header = buffer.header ∧
        body = buffer.body) ∨
      ∃ buffer, action = .resend buffer .queued ∧ t = buffer.tunnel ∧ header = buffer.header ∧
        body = buffer.body := by
  cases action with
  | zlb u head =>
    simp only [Action.adds, List.mem_singleton, Obs.xmit.injEq] at added
    obtain ⟨rfl, rfl, rfl⟩ := added
    exact .inl ⟨rfl, rfl⟩
  | send buffer fate =>
    cases fate with
    | queued =>
      simp only [Action.adds, Fate.adds, List.mem_cons, List.not_mem_nil, or_false,
        reduceCtorEq, false_or, Obs.xmit.injEq] at added
      exact .inr (.inl ⟨buffer, rfl, added⟩)
    | tossed | dropped => simp [Action.adds, Fate.adds] at added
  | resend buffer fate =>
    cases fate with
    | queued =>
      simp only [Action.adds, Fate.adds, List.mem_singleton, Obs.xmit.injEq] at added
      exact .inr (.inr ⟨buffer, rfl, added⟩)
    | tossed | dropped => simp [Action.adds, Fate.adds] at added
  | note observed =>
    simp only [Action.adds, List.mem_singleton] at added
    subst added
    cases enabled
  | _ => simp [Action.adds] at added

theorem Action.trace_numbered :
    numberedOn t (action.apply view).trace = numberedOn t view.trace ++ action.numbers t := by
  rw [Action.apply_trace, numberedOn_append, action.adds_numbered enabled]

theorem Action.trace_accepted :
    acceptedOn t (action.apply view).trace = acceptedOn t view.trace ++ action.accepts t := by
  rw [Action.apply_trace, acceptedOn_append, action.adds_accepted enabled]

theorem Action.seq_kept (numbers : view.Numbers) {core : TunnelCore}
    (found : (action.apply view).tunnel? t = some core) :
    core.controlSeqNum = UInt16.ofNat (numberedOn t (action.apply view).trace).length := by
  rw [action.trace_numbered enabled, List.length_append, UInt16.ofNat_add]
  rcases action.found found with ⟨selfRef, rfl, rfl⟩ | ⟨old, foundOld, rfl⟩
  · have first : t = view.fresh := enabled
    rw [numbers.born.unnumbered (Nat.le_of_eq first.symm)]
    rfl
  · rw [action.core_seq, numbers.seq t old foundOld]

end

theorem Action.send_numbered {buffer : Buffer} {fate : Fate} (numbers : view.Numbers)
    (enabled : (Action.send buffer fate).enabled assume env view) :
    Numbered ((Action.send buffer fate).apply view).trace buffer.tunnel buffer.header
      buffer.body := by
  have added := (Action.send buffer fate).trace_numbered (t := buffer.tunnel) enabled
  obtain ⟨carries, _, core, found, ⟨ver, length, next, _⟩, _⟩ := enabled
  refine ⟨ver, length, carries, (numberedOn buffer.tunnel view.trace).length, ?_, ?_⟩
  · rw [next, numbers.seq _ core found]
  · rw [added, List.getElem?_append_right (Nat.le_refl _), Nat.sub_self]
    simp [Action.numbers]

theorem Action.numbers_kept (action : Action) (enabled : action.enabled assume env view)
    (numbers : view.Numbers) : (action.apply view).Numbers := by
  have kept : ∀ {t header body}, Numbered view.trace t header body →
      Numbered (action.apply view).trace t header body := by
    intro t header body old
    rw [Action.apply_trace]
    exact old.grows
  refine ⟨action.born_kept enabled numbers.born, ?_, ?_, ?_⟩
  · intro t core found
    exact action.seq_kept enabled numbers found
  · intro buffer member
    rcases action.mem_buffers member with old | rfl | ⟨old, rfl, rfl⟩
    · exact kept (numbers.waits buffer old)
    · exact Action.send_numbered numbers enabled
    · exact kept (numbers.waits old enabled.1)
  · intro t header body member
    rw [Action.apply_trace] at member
    rcases List.mem_append.mp member with old | added
    · rcases numbers.sent t header body old with message | zlb
      · exact .inl (kept message)
      · exact .inr zlb
    · rcases action.adds_xmit enabled added with ⟨rfl, rfl⟩ | ⟨buffer, rfl, rfl, rfl, rfl⟩ |
        ⟨buffer, rfl, rfl, rfl, rfl⟩
      · obtain ⟨core, _, ver, length, _⟩ := enabled
        exact .inr ⟨ver, length, rfl⟩
      · exact .inl (Action.send_numbered numbers enabled)
      · exact .inl (kept (numbers.waits buffer enabled.1))

theorem Quiet.numbers_kept (quiet : Quiet before after) (numbers : before.Numbers) :
    after.Numbers := by
  obtain ⟨notes, trace, silent⟩ := quiet.trace
  refine ⟨quiet.born_kept numbers.born, ?_, ?_, ?_⟩
  · intro t core found
    rw [quiet.numberedOn_kept]
    refine numbers.seq t core ?_
    unfold View.tunnel? at found ⊢
    rw [← quiet.tunnels]
    exact found
  · rw [quiet.buffers, trace]
    exact fun buffer member => (numbers.waits buffer member).grows
  · intro t header body member
    rw [trace] at member ⊢
    rcases List.mem_append.mp member with old | added
    · rcases numbers.sent t header body old with message | zlb
      · exact .inl message.grows
      · exact .inr zlb
    · cases silent _ added

theorem Acts.numbers_kept (acts : Acts assume env allowed before after) (numbers : before.Numbers) :
    after.Numbers := by
  cases acts with
  | quiet same => exact same.numbers_kept numbers
  | act action _ enabled => exact action.numbers_kept enabled numbers

theorem Booted.numbers (booted : Booted state) : state.view.Numbers := by
  refine ⟨booted.born, ?_, ?_, ?_⟩
  · intro t core found
    rw [booted.no_tunnel] at found
    cases found
  · rw [booted.no_buffers]
    exact fun buffer member => absurd member (Multiset.notMem_zero buffer)
  · rw [booted.no_trace]
    exact fun t header body member => absurd member List.not_mem_nil

end Xl2tpd
