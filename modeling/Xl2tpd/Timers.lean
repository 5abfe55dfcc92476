import Xl2tpd.Lib.History
import Xl2tpd.Runs
import Xl2tpd.Sim.Call

/-!
# Timers

The timer queue as a machine of its own: the clock goes on, entries are scheduled and descheduled,
and `process_schedule` runs the functions of those that are due, which may themselves schedule and
deschedule. The retransmission delays follow at the end.
-/

namespace Xl2tpd

set_option autoImplicit false

open Program

/-! ## Time -/

def Timeval.micros (time : Timeval) : Nat := time.sec * 1000000 + time.usec

section Time

variable {first second now delay : Timeval}

theorem Timeval.micros_after (now delay : Timeval) :
    (now.after delay).micros = now.micros + delay.micros := by
  unfold Timeval.after Timeval.micros
  simp only
  split <;> simp only <;> omega

/-- The sum of two times is one again, unless the microseconds add up to exactly a second. -/
theorem Timeval.after_proper (clock : now.usec < 1000000) (interval : delay.usec < 1000000)
    (carried : now.usec + delay.usec ≠ 1000000) : (now.after delay).usec < 1000000 := by
  unfold Timeval.after
  simp only
  split <;> simp only <;> omega

theorem Timeval.less_iff (left : first.usec < 1000000) (right : second.usec < 1000000) :
    first.less second = true ↔ first.micros < second.micros := by
  unfold Timeval.less Timeval.micros
  split <;> rw [decide_eq_true_iff] <;> omega

theorem Timeval.lesseq_iff (left : first.usec < 1000000) (right : second.usec < 1000000) :
    first.lesseq second = true ↔ first.micros ≤ second.micros := by
  unfold Timeval.lesseq Timeval.micros
  split <;> rw [decide_eq_true_iff] <;> omega

end Time

def Entry.due (entry : Entry) : Nat := entry.tv.micros

/-- The order of the queue: by due time, entries due at once as they were inserted. -/
def Entry.Before (first second : Entry) : Prop :=
  first.due < second.due ∨ first.due = second.due ∧ first.id < second.id

instance (first second : Entry) : Decidable (first.Before second) :=
  inferInstanceAs (Decidable (_ ∨ _))

/-! ## The machine -/

/-- What `process_schedule` returns for a queue that is not empty, and whether it warned. -/
structure Timeout where
  sec : Int
  usec : Int
  warned : Bool
  deriving DecidableEq, Repr

def scheduleTimeout (head now : Timeval) : Timeout :=
  let sec : Int := head.sec - now.sec
  let usec : Int := head.usec - now.usec
  let sec' := if usec < 0 then sec - 1 else sec
  let usec' := if usec < 0 then usec + 1000000 else usec
  if sec' ≤ 0 ∧ usec' ≤ 0 then ⟨1, 0, true⟩ else ⟨sec', usec', false⟩

/-- `deschedule`: the first entry that is the given one is taken out. -/
def descheduleEntry (id : Nat) : List Entry → List Entry
  | [] => []
  | entry :: rest => if entry.id = id then rest else entry :: descheduleEntry id rest

inductive TimerNote
  | scheduled (now delay : Timeval) (id : Nat)
  | descheduled (id : Nat)
  | ran (entry : Entry) (now : Timeval)
  | returned (now : Timeval) (events : List Entry) (timeout : Option Timeout)
  deriving DecidableEq, Repr

/-- Where the program is: outside `process_schedule`, at the head of its loop, or in the
function of an entry. -/
inductive TimerMode
  | outside
  | draining
  | calling
  deriving DecidableEq, Repr

structure TimerQueue where
  now : Timeval
  events : List Entry := []
  fresh : Nat := 0
  mode : TimerMode := .outside
  log : List TimerNote := []
  deriving DecidableEq, Repr

inductive TimerStep
  | tick (now : Timeval)
  | schedule (delay : Timeval) (event : Event)
  | deschedule (id : Nat)
  | process
  | turn
  | back
  deriving DecidableEq, Repr

/-- One turn of the loop of `process_schedule`, with the return behind the loop. -/
def TimerQueue.turn (queue : TimerQueue) : TimerQueue :=
  match queue.events with
  | [] =>
      { queue with mode := .outside, log := queue.log ++ [.returned queue.now [] none] }
  | head :: rest =>
      if head.tv.lesseq queue.now then
        { queue with
          events := rest, mode := .calling, log := queue.log ++ [.ran head queue.now] }
      else
        { queue with
          mode := .outside
          log := queue.log ++
            [.returned queue.now (head :: rest) (some (scheduleTimeout head.tv queue.now))] }

def TimerQueue.step (queue : TimerQueue) : TimerStep → TimerQueue
  | .tick now => { queue with now }
  | .schedule delay event =>
      { queue with
        events := insertEntry ⟨queue.fresh, queue.now.after delay, event⟩ queue.events
        fresh := queue.fresh + 1
        log := queue.log ++ [.scheduled queue.now delay queue.fresh] }
  | .deschedule id =>
      { queue with
        events := descheduleEntry id queue.events
        log := queue.log ++ [.descheduled id] }
  | .process => { queue with mode := .draining }
  | .turn => queue.turn
  | .back => { queue with mode := .draining }

/-- The clock never goes back, and the function of an entry schedules a second ahead at least. -/
def TimerQueue.Allows (queue : TimerQueue) : TimerStep → Prop
  | .tick now => now.usec < 1000000 ∧ queue.now.micros ≤ now.micros
  | .schedule delay _ =>
      delay.usec < 1000000 ∧ queue.mode ≠ .draining ∧ (queue.mode = .calling → 1 ≤ delay.sec)
  | .deschedule id => id < queue.fresh ∧ queue.mode ≠ .draining
  | .process => queue.mode = .outside
  | .turn => queue.mode = .draining
  | .back => queue.mode = .calling

inductive TimerRun : TimerQueue → Prop
  | start {now : Timeval} (clock : now.usec < 1000000) : TimerRun { now }
  | step {queue : TimerQueue} {step : TimerStep} (run : TimerRun queue)
      (allowed : queue.Allows step) : TimerRun (queue.step step)

/-! ## What is to hold -/

def TimerQueue.Sorted (queue : TimerQueue) : Prop := queue.events.Pairwise Entry.Before

/-- What a note says is right, after what was noted before. -/
def TimerNote.Good (past : List TimerNote) : TimerNote → Prop
  | .scheduled .. => True
  | .descheduled _ => True
  | .ran entry now =>
      entry.due ≤ now.micros ∧ .descheduled entry.id ∉ past ∧
      ∀ other time, .ran other time ∈ past → other.id ≠ entry.id ∧ other.due ≤ entry.due
  | .returned _ [] timeout => timeout = none
  | .returned now (head :: _) timeout =>
      now.micros < head.due ∧
      ∃ distance, timeout = some distance ∧ distance.warned = false ∧
        0 ≤ distance.sec ∧ 0 ≤ distance.usec ∧ distance.usec < 1000000 ∧
        distance.sec * 1000000 + distance.usec = head.due - now.micros

/-- No delay was added to a time of day such that the microseconds made exactly a second. -/
def TimerQueue.Carried (queue : TimerQueue) : Prop :=
  ∀ now delay id, .scheduled now delay id ∈ queue.log → now.usec + delay.usec ≠ 1000000

/-! ## The invariant -/

structure TimerQueue.Sound (queue : TimerQueue) : Prop where
  clock : queue.now.usec < 1000000
  proper : ∀ entry ∈ queue.events, entry.tv.usec < 1000000
  issued : ∀ entry ∈ queue.events, entry.id < queue.fresh
  distinct : (queue.events.map Entry.id).Nodup
  sorted : queue.Sorted
  ran : ∀ entry time, .ran entry time ∈ queue.log → entry.id < queue.fresh ∧
    entry.due ≤ queue.now.micros ∧
    ∀ other ∈ queue.events, entry.id ≠ other.id ∧ entry.due ≤ other.due
  dropped : ∀ id, .descheduled id ∈ queue.log → id < queue.fresh ∧
    ∀ other ∈ queue.events, other.id ≠ id
  history : History.Always TimerNote.Good queue.log

section Queue

variable {entry : Entry} {entries : List Entry} {id : Nat}

/-- A new entry goes behind the ones due at the same time, which were inserted earlier. -/
theorem insertEntry_sorted (sorted : entries.Pairwise Entry.Before)
    (proper : entry.tv.usec < 1000000) (others : ∀ other ∈ entries, other.tv.usec < 1000000)
    (newest : ∀ other ∈ entries, other.id < entry.id) :
    (insertEntry entry entries).Pairwise Entry.Before := by
  induction entries with
  | nil => exact List.pairwise_singleton _ _
  | cons head rest ih =>
    have headProper := others head List.mem_cons_self
    have ahead := (List.pairwise_cons.mp sorted).1
    have later := Timeval.less_iff proper headProper
    unfold insertEntry
    split
    next less =>
      have sooner : entry.due < head.due := later.mp less
      refine List.pairwise_cons.mpr ⟨?_, sorted⟩
      intro other member
      rcases List.mem_cons.mp member with rfl | member
      · exact .inl sooner
      · have next := ahead other member
        unfold Entry.Before at next ⊢
        omega
    next less =>
      have waits : head.due ≤ entry.due := by
        have notSooner := mt later.mpr less
        unfold Entry.due
        omega
      refine List.pairwise_cons.mpr ⟨?_, ih (List.pairwise_cons.mp sorted).2
        (fun other member => others other (List.mem_cons_of_mem _ member))
        (fun other member => newest other (List.mem_cons_of_mem _ member))⟩
      intro other member
      rcases mem_insertEntry.mp member with rfl | member
      · have older := newest head List.mem_cons_self
        unfold Entry.Before
        omega
      · exact ahead other member

theorem descheduleEntry_eq (distinct : (entries.map Entry.id).Nodup) :
    descheduleEntry id entries = entries.filter fun entry => entry.id ≠ id := by
  induction entries with
  | nil => rfl
  | cons head rest ih =>
    rw [List.map_cons, List.nodup_cons] at distinct
    obtain ⟨alone, restDistinct⟩ := distinct
    unfold descheduleEntry
    split
    next same =>
      rw [List.filter_cons_of_neg (by simp [same])]
      refine (List.filter_eq_self.mpr fun other member => decide_eq_true ?_).symm
      rintro rfl
      exact alone (same ▸ List.mem_map_of_mem member)
    next differs => rw [List.filter_cons_of_pos (by simpa using differs), ih restDistinct]

end Queue

theorem scheduleTimeout_exact {head now : Timeval} (proper : head.usec < 1000000)
    (clock : now.usec < 1000000) (ahead : now.micros < head.micros) :
    (scheduleTimeout head now).warned = false ∧ 0 ≤ (scheduleTimeout head now).sec ∧
    0 ≤ (scheduleTimeout head now).usec ∧ (scheduleTimeout head now).usec < 1000000 ∧
    (scheduleTimeout head now).sec * 1000000 + (scheduleTimeout head now).usec =
      head.micros - now.micros := by
  unfold Timeval.micros at ahead ⊢
  unfold scheduleTimeout
  simp only
  by_cases borrow : (head.usec : Int) - now.usec < 0
  · rw [if_pos borrow, if_pos borrow, if_neg (by omega)]
    refine ⟨rfl, ?_, ?_, ?_, ?_⟩ <;> simp only <;> omega
  · rw [if_neg borrow, if_neg borrow, if_neg (by omega)]
    refine ⟨rfl, ?_, ?_, ?_, ?_⟩ <;> simp only <;> omega

section Steps

variable {queue : TimerQueue}

section

variable (sound : queue.Sound)

include sound

theorem TimerQueue.Sound.tick {now : Timeval} (clock : now.usec < 1000000)
    (forward : queue.now.micros ≤ now.micros) : (queue.step (.tick now)).Sound where
  clock := clock
  proper := sound.proper
  issued := sound.issued
  distinct := sound.distinct
  sorted := sound.sorted
  ran entry time noted := by
    obtain ⟨old, due, others⟩ := sound.ran entry time noted
    exact ⟨old, le_trans due forward, others⟩
  dropped := sound.dropped
  history := sound.history

theorem TimerQueue.Sound.mode (mode : TimerMode) :
    TimerQueue.Sound { queue with mode } where
  clock := sound.clock
  proper := sound.proper
  issued := sound.issued
  distinct := sound.distinct
  sorted := sound.sorted
  ran := sound.ran
  dropped := sound.dropped
  history := sound.history

theorem TimerQueue.Sound.schedule {delay : Timeval} (event : Event)
    (interval : delay.usec < 1000000) (carried : queue.now.usec + delay.usec ≠ 1000000) :
    (queue.step (.schedule delay event)).Sound := by
  have proper := Timeval.after_proper sound.clock interval carried
  have due : queue.now.micros ≤ (queue.now.after delay).micros := by
    rw [Timeval.micros_after]
    omega
  refine ⟨sound.clock, ?_, ?_, ?_, ?_, ?_, ?_, ?_⟩
  · intro entry member
    rcases mem_insertEntry.mp member with rfl | member
    · exact proper
    · exact sound.proper entry member
  · intro entry member
    rcases mem_insertEntry.mp member with rfl | member
    · exact Nat.lt_succ_self _
    · exact Nat.lt_succ_of_lt (sound.issued entry member)
  · have moved := (insertEntry_perm ⟨queue.fresh, queue.now.after delay, event⟩
      queue.events).map Entry.id
    refine moved.nodup_iff.mpr (List.nodup_cons.mpr ⟨?_, sound.distinct⟩)
    intro member
    obtain ⟨entry, member, same⟩ := List.mem_map.mp member
    have old := sound.issued entry member
    exact absurd same (Nat.ne_of_lt old)
  · exact insertEntry_sorted sound.sorted proper sound.proper sound.issued
  · intro entry time noted
    have noted : .ran entry time ∈ queue.log := by simpa [TimerQueue.step] using noted
    obtain ⟨old, past, others⟩ := sound.ran entry time noted
    refine ⟨Nat.lt_succ_of_lt old, past, ?_⟩
    intro other member
    rcases mem_insertEntry.mp member with rfl | member
    · exact ⟨Nat.ne_of_lt old, le_trans past due⟩
    · exact others other member
  · intro id noted
    have noted : .descheduled id ∈ queue.log := by simpa [TimerQueue.step] using noted
    obtain ⟨old, others⟩ := sound.dropped id noted
    refine ⟨Nat.lt_succ_of_lt old, ?_⟩
    intro other member
    rcases mem_insertEntry.mp member with rfl | member
    · exact (Nat.ne_of_lt old).symm
    · exact others other member
  · exact History.always_snoc sound.history trivial

theorem TimerQueue.Sound.deschedule {id : Nat} (old : id < queue.fresh) :
    (queue.step (.deschedule id)).Sound := by
  have fewer : (descheduleEntry id queue.events).Sublist queue.events := by
    rw [descheduleEntry_eq sound.distinct]
    exact List.filter_sublist
  refine ⟨sound.clock, ?_, ?_, ?_, ?_, ?_, ?_, ?_⟩
  · exact fun entry member => sound.proper entry (fewer.subset member)
  · exact fun entry member => sound.issued entry (fewer.subset member)
  · exact sound.distinct.sublist (fewer.map Entry.id)
  · exact List.Pairwise.sublist fewer sound.sorted
  · intro entry time noted
    have noted : .ran entry time ∈ queue.log := by simpa [TimerQueue.step] using noted
    obtain ⟨known, past, others⟩ := sound.ran entry time noted
    exact ⟨known, past, fun other member => others other (fewer.subset member)⟩
  · intro other noted
    have noted : .descheduled other ∈ queue.log ∨ other = id := by
      simpa [TimerQueue.step] using noted
    rcases noted with noted | rfl
    · obtain ⟨known, others⟩ := sound.dropped other noted
      exact ⟨known, fun entry member => others entry (fewer.subset member)⟩
    · refine ⟨old, fun entry member => ?_⟩
      simp only [TimerQueue.step, descheduleEntry_eq sound.distinct] at member
      simpa using List.of_mem_filter member
  · exact History.always_snoc sound.history trivial

theorem TimerQueue.Sound.run {head : Entry} {rest : List Entry}
    (events : queue.events = head :: rest) (due : head.tv.lesseq queue.now = true) :
    TimerQueue.Sound { queue with
      events := rest, mode := .calling, log := queue.log ++ [.ran head queue.now] } := by
  have member : head ∈ queue.events := events ▸ List.mem_cons_self
  have left : ∀ other ∈ rest, other ∈ queue.events :=
    fun other inside => events ▸ List.mem_cons_of_mem _ inside
  have expired : head.due ≤ queue.now.micros :=
    (Timeval.lesseq_iff (sound.proper head member) sound.clock).mp due
  have sorted := sound.sorted
  have distinct := sound.distinct
  unfold TimerQueue.Sorted at sorted
  rw [events] at sorted distinct
  obtain ⟨first, restSorted⟩ := List.pairwise_cons.mp sorted
  obtain ⟨alone, restDistinct⟩ := List.nodup_cons.mp distinct
  refine ⟨sound.clock, ?_, ?_, restDistinct, restSorted, ?_, ?_, ?_⟩
  · exact fun entry inside => sound.proper entry (left entry inside)
  · exact fun entry inside => sound.issued entry (left entry inside)
  · intro entry time noted
    have noted : .ran entry time ∈ queue.log ∨ entry = head ∧ time = queue.now := by
      simpa using noted
    rcases noted with noted | ⟨rfl, rfl⟩
    · obtain ⟨known, past, others⟩ := sound.ran entry time noted
      exact ⟨known, past, fun other inside => others other (left other inside)⟩
    · refine ⟨sound.issued entry member, expired, ?_⟩
      intro other inside
      constructor
      · intro same
        exact alone (List.mem_map.mpr ⟨other, inside, same.symm⟩)
      · have order := first other inside
        unfold Entry.Before at order
        omega
  · intro id noted
    have noted : .descheduled id ∈ queue.log := by simpa using noted
    obtain ⟨known, others⟩ := sound.dropped id noted
    exact ⟨known, fun entry inside => others entry (left entry inside)⟩
  · refine History.always_snoc sound.history ⟨expired, ?_, ?_⟩
    · intro noted
      exact (sound.dropped head.id noted).2 head member rfl
    · intro other time noted
      exact (sound.ran other time noted).2.2 head member

theorem TimerQueue.Sound.return {timeout : Option Timeout}
    (right : TimerNote.Good queue.log (.returned queue.now queue.events timeout)) :
    TimerQueue.Sound { queue with
      mode := .outside
      log := queue.log ++ [.returned queue.now queue.events timeout] } where
  clock := sound.clock
  proper := sound.proper
  issued := sound.issued
  distinct := sound.distinct
  sorted := sound.sorted
  ran entry time noted := by
    have noted : .ran entry time ∈ queue.log := by simpa using noted
    exact sound.ran entry time noted
  dropped id noted := by
    have noted : .descheduled id ∈ queue.log := by simpa using noted
    exact sound.dropped id noted
  history := History.always_snoc sound.history right

theorem TimerQueue.Sound.turn : queue.turn.Sound := by
  unfold TimerQueue.turn
  cases events : queue.events with
  | nil =>
    have right : TimerNote.Good queue.log (.returned queue.now queue.events none) := by
      rw [events]
      rfl
    have back := sound.return right
    rw [events] at back
    exact back
  | cons head rest =>
    simp only
    split
    next due => exact sound.run events due
    next early =>
      have proper := sound.proper head (events ▸ List.mem_cons_self)
      have ahead : queue.now.micros < head.due := by
        have notDue := mt (Timeval.lesseq_iff proper sound.clock).mpr early
        unfold Entry.due
        omega
      have right : TimerNote.Good queue.log
          (.returned queue.now queue.events (some (scheduleTimeout head.tv queue.now))) := by
        rw [events]
        exact ⟨ahead, _, rfl, scheduleTimeout_exact proper sound.clock ahead⟩
      have back := sound.return right
      rw [events] at back
      exact back

theorem TimerQueue.Sound.step {step : TimerStep} (allowed : queue.Allows step)
    (carried : (queue.step step).Carried) : (queue.step step).Sound := by
  cases step with
  | tick now => exact sound.tick allowed.1 allowed.2
  | schedule delay event =>
    refine sound.schedule event allowed.1 (carried queue.now delay queue.fresh ?_)
    exact List.mem_append_right _ List.mem_cons_self
  | deschedule id => exact sound.deschedule allowed.1
  | process => exact sound.mode .draining
  | turn => exact sound.turn
  | back => exact sound.mode .draining

end

theorem TimerQueue.step_log (queue : TimerQueue) (step : TimerStep) :
    ∃ notes, (queue.step step).log = queue.log ++ notes := by
  cases step with
  | tick now | process | back => exact ⟨[], (List.append_nil _).symm⟩
  | schedule delay event => exact ⟨_, rfl⟩
  | deschedule id => exact ⟨_, rfl⟩
  | turn =>
    unfold TimerQueue.step TimerQueue.turn
    simp only
    split
    · exact ⟨_, rfl⟩
    · split <;> exact ⟨_, rfl⟩

theorem TimerQueue.Carried.before {step : TimerStep} (carried : (queue.step step).Carried) :
    queue.Carried := by
  intro now delay id noted
  obtain ⟨notes, grown⟩ := queue.step_log step
  exact carried now delay id (grown ▸ List.mem_append_left _ noted)

theorem TimerRun.sound (run : TimerRun queue) (carried : queue.Carried) : queue.Sound := by
  induction run with
  | start clock =>
    refine ⟨clock, ?_, ?_, List.nodup_nil, List.Pairwise.nil, ?_, ?_, History.always_nil⟩
    all_goals simp
  | step run allowed ih => exact (ih carried.before).step allowed carried

end Steps

/-- If no delay makes exactly a second with the time of day, the queue stays sorted with equal times
as inserted, every entry runs at most once, when it is due, in order and not after it was
descheduled, and `process_schedule` returns the distance to its head. -/
theorem timer_queue_in_order {queue : TimerQueue} (run : TimerRun queue) (carried : queue.Carried) :
    queue.Sorted ∧ History.Always TimerNote.Good queue.log :=
  ⟨(run.sound carried).sorted, (run.sound carried).history⟩

/-! ### The queue of the daemon -/

/-- The machine's view of the daemon, at some place of the program. -/
def Daemon.queue (state : Daemon) (mode : TimerMode) (log : List TimerNote) : TimerQueue where
  now := state.now
  events := state.events
  fresh := state.fresh
  mode
  log

section Daemon

variable {env : Env} {state : Daemon} {mode : TimerMode} {log : List TimerNote}

theorem schedule_step (delay : Timeval) (event : Event) :
    ∃ after, schedule delay event state = .ok state.fresh after ∧
      after.queue mode (log ++ [.scheduled state.now delay state.fresh]) =
        (state.queue mode log).step (.schedule delay event) := ⟨_, rfl, rfl⟩

/-- `fireEvent` takes a turn of the loop: it runs the function of the entry that is taken out, or
the loop is over. -/
theorem fireEvent_turn :
    (∃ entry rest, fireEvent env state = runEvent env entry.event { state with events := rest } ∧
      Daemon.queue { state with events := rest } .calling (log ++ [.ran entry state.now]) =
        (state.queue .draining log).step .turn) ∨
    fireEvent env state = .ok () state ∧
      ∃ note, state.queue .outside (log ++ [note]) = (state.queue .draining log).step .turn := by
  unfold fireEvent
  rw [bind_get]
  cases queue : state.events with
  | nil => exact .inr ⟨rfl, .returned state.now [] none, by
      simp only [TimerQueue.step, TimerQueue.turn, Daemon.queue, queue]⟩
  | cons entry rest =>
    by_cases due : entry.tv.lesseq state.now = true
    · refine .inl ⟨entry, rest, ?_, ?_⟩
      · simp only [due]
        rfl
      · simp only [TimerQueue.step, TimerQueue.turn, Daemon.queue, queue, due, if_true]
    · refine .inr ⟨?_, .returned state.now (entry :: rest)
        (some (scheduleTimeout entry.tv state.now)), ?_⟩
      · simp only [Bool.eq_false_iff.mpr due]
        rfl
      · simp only [TimerQueue.step, TimerQueue.turn, Daemon.queue, queue, if_neg due]

/-- `descheduleTunnel` deschedules the entries of the tunnel one after the other. -/
theorem descheduleTunnel_steps (t : TunnelRef) (distinct : (state.events.map Entry.id).Nodup) :
    ∃ after notes, descheduleTunnel t state = .ok () after ∧
      after.queue mode (log ++ notes) =
        ((state.events.filter fun entry => entry.event.belongs t).map fun entry =>
          TimerStep.deschedule entry.id).foldl TimerQueue.step (state.queue mode log) := by
  -- Taking out entries by their numbers leaves those with other numbers.
  have takes : ∀ (gone : List Entry) (queue : TimerQueue), (queue.events.map Entry.id).Nodup →
      ∃ notes, (gone.map fun entry => TimerStep.deschedule entry.id).foldl TimerQueue.step queue =
        { queue with
          events := queue.events.filter fun entry => gone.all fun other => entry.id ≠ other.id
          log := queue.log ++ notes } := by
    intro gone
    induction gone with
    | nil => exact fun queue _ => ⟨[], by simp⟩
    | cons head rest ih =>
      intro queue distinct
      have fewer : (queue.step (.deschedule head.id)).events =
          queue.events.filter fun entry => entry.id ≠ head.id := descheduleEntry_eq distinct
      obtain ⟨notes, same⟩ := ih (queue.step (.deschedule head.id)) (by
        rw [fewer]
        exact distinct.sublist (List.filter_sublist.map _))
      refine ⟨.descheduled head.id :: notes, ?_⟩
      rw [List.map_cons, List.foldl_cons, same, fewer, List.filter_filter]
      simp [TimerQueue.step, Bool.and_comm]
  obtain ⟨notes, same⟩ := takes (state.events.filter fun entry => entry.event.belongs t)
    (state.queue mode log) distinct
  have other : state.events.filter (fun entry => !entry.event.belongs t) = state.events.filter
      fun entry => (state.events.filter fun other => other.event.belongs t).all
        fun other => entry.id ≠ other.id := by
    refine List.filter_congr fun entry member => ?_
    rw [Bool.eq_iff_iff, Bool.not_eq_true', List.all_eq_true]
    constructor
    · intro stays other gone
      rw [decide_eq_true_eq]
      intro shared
      rw [List.mem_filter] at gone
      rw [List.inj_on_of_nodup_map distinct member gone.1 shared, gone.2] at stays
      cases stays
    · intro apart
      rw [← Bool.not_eq_true]
      intro belongs
      exact of_decide_eq_true (apart entry (List.mem_filter.mpr ⟨member, belongs⟩)) rfl
  refine ⟨_, notes, rfl, ?_⟩
  rw [same]
  simp only [Daemon.queue, other]

end Daemon

/-! ### Two runs -/

instance (queue : TimerQueue) : (step : TimerStep) → Decidable (queue.Allows step)
  | .tick _ => inferInstanceAs (Decidable (_ ∧ _))
  | .schedule _ _ => inferInstanceAs (Decidable (_ ∧ _ ∧ (_ → _)))
  | .deschedule _ => inferInstanceAs (Decidable (_ ∧ _))
  | .process => inferInstanceAs (Decidable (_ = _))
  | .turn => inferInstanceAs (Decidable (_ = _))
  | .back => inferInstanceAs (Decidable (_ = _))

def TimerQueue.steps (queue : TimerQueue) : List TimerStep → Option TimerQueue
  | [] => some queue
  | step :: rest => if queue.Allows step then (queue.step step).steps rest else none

theorem TimerRun.steps {queue after : TimerQueue} (run : TimerRun queue) (steps : List TimerStep)
    (ran : queue.steps steps = some after) : TimerRun after := by
  induction steps generalizing queue with
  | nil =>
    obtain rfl : queue = after := Option.some.inj ran
    exact run
  | cons step rest ih =>
    unfold TimerQueue.steps at ran
    split at ran
    next allowed => exact ih (run.step allowed) ran
    next => cases ran

/-- An entry was run and scheduled another one, which is not due when `process_schedule` returns. -/
def drainedQueue : TimerQueue where
  now := ⟨5, 200001⟩
  events := [⟨1, ⟨7, 100001⟩, .hello 0⟩]
  fresh := 2
  log :=
    [.scheduled ⟨3, 500000⟩ ⟨1, 700000⟩ 0, .ran ⟨0, ⟨5, 200000⟩, .hello 0⟩ ⟨5, 200001⟩,
      .scheduled ⟨5, 200001⟩ ⟨1, 900000⟩ 1, .descheduled 0,
      .returned ⟨5, 200001⟩ [⟨1, ⟨7, 100001⟩, .hello 0⟩] (some ⟨1, 900000, false⟩)]

theorem drainedQueue_reached : TimerRun drainedQueue := by
  have started : TimerRun { now := ⟨3, 500000⟩ } := .start (by decide)
  refine started.steps [.schedule ⟨1, 700000⟩ (.hello 0), .tick ⟨5, 200001⟩, .process,
    .turn, .schedule ⟨1, 900000⟩ (.hello 0), .deschedule 0, .back, .turn] ?_
  decide +kernel

theorem drainedQueue_carried : drainedQueue.Carried := by
  intro now delay id noted
  simp only [drainedQueue, List.mem_cons, TimerNote.scheduled.injEq, reduceCtorEq, List.not_mem_nil,
    or_false, false_or] at noted
  rcases noted with ⟨rfl, rfl, rfl⟩ | ⟨rfl, rfl, rfl⟩ <;> decide

theorem drained_queue_in_order : drainedQueue.Sorted ∧
    History.Always TimerNote.Good drainedQueue.log :=
  timer_queue_in_order drainedQueue_reached drainedQueue_carried

/-- A delay makes a full second of microseconds: the entry goes before an earlier one that is due at
the same time. -/
def uncarriedQueue : TimerQueue where
  now := ⟨0, 500000⟩
  events := [⟨1, ⟨1, 1000000⟩, .hello 1⟩, ⟨0, ⟨2, 0⟩, .hello 0⟩]
  fresh := 2
  log := [.scheduled ⟨0, 0⟩ ⟨2, 0⟩ 0, .scheduled ⟨0, 500000⟩ ⟨1, 500000⟩ 1]

theorem uncarried_second_out_of_order : TimerRun uncarriedQueue ∧ ¬ uncarriedQueue.Sorted := by
  have started : TimerRun { now := ⟨0, 0⟩ } := .start (by decide)
  refine ⟨started.steps [.schedule ⟨2, 0⟩ (.hello 0), .tick ⟨0, 500000⟩,
    .schedule ⟨1, 500000⟩ (.hello 1)] (by decide +kernel), ?_⟩
  unfold TimerQueue.Sorted
  decide +kernel

/-! ## The delays of a retransmission -/

/-- `cap_backoff` of `struct global`. -/
structure CapBackoff where
  seconds : Nat
  int : seconds < 2 ^ 31

/-- `set_capbackoff`: `set_int` takes no negative number. -/
def setCapbackoff (value : Int32) (cap : CapBackoff) : CapBackoff :=
  if value.toInt < 0 then cap else ⟨value.toInt.toNat, by have := value.toInt_lt; omega⟩

/-- The delay behind the `k`-th transmission, as the option is meant. -/
def cappedDelay (cap : CapBackoff) (k : Nat) : Nat :=
  if cap.seconds = 0 then min (2 ^ (k - 1)) (2 ^ 31) else min (2 ^ (k - 1)) cap.seconds

theorem backoff_sec (retries : Nat) :
    (backoff retries).sec = min (2 ^ (retries - 1)) (2 ^ 31) := by
  change 2 ^ min (retries - 1) 31 = _
  rcases Nat.le_total (retries - 1) 31 with below | above
  · rw [Nat.min_eq_left below, Nat.min_eq_left (Nat.pow_le_pow_right (by decide) below)]
  · rw [Nat.min_eq_right above, Nat.min_eq_right (Nat.pow_le_pow_right (by decide) above)]

theorem cappedDelay_iff (cap : CapBackoff) (k : Nat) :
    (backoff k).sec = cappedDelay cap k ↔ cap.seconds = 0 ∨ 2 ^ (k - 1) ≤ cap.seconds := by
  have int := cap.int
  rw [backoff_sec]
  unfold cappedDelay
  split
  next free => simp [free]
  next capped => omega

section Retransmission

variable {env : Env} {state : Daemon} {buffer : Buffer} {tunnel : Tunnel}

theorem controlXmit_schedules (found : state.tunnel? buffer.tunnel = some tunnel)
    (unseen : ¬ buffer.header.Ns.toNat < tunnel.cLr)
    (left : buffer.tried.retries ≤ env.maxRetries) :
    ∃ after, controlXmit env buffer state = .ok () after ∧
      after.events = insertEntry
        ⟨state.fresh, state.now.after (backoff buffer.tried.retries), .controlXmit buffer.tried⟩
        state.events := by
  have enough : ¬ env.maxRetries < buffer.tried.retries := Nat.not_lt.mpr left
  obtain ⟨id, ran⟩ := schedule_run (backoff buffer.tried.retries) (.controlXmit buffer.tried) state
  have alive : (final (schedule (backoff buffer.tried.retries) (.controlXmit buffer.tried)
      state)).tunnel? buffer.tried.tunnel = some tunnel := found
  unfold controlXmit controlXmitWith
  rw [bind_run (readTunnel_run found), if_neg unseen, if_neg enough, bind_run ran]
  unfold udpXmit
  rw [bind_run (readTunnel_run alive)]
  exact ⟨_, rfl, rfl⟩

theorem after_backoff (clock : state.now.usec < 1000000) (retries : Nat) :
    state.now.after (backoff retries) =
      ⟨state.now.sec + (backoff retries).sec, state.now.usec⟩ := by
  unfold Timeval.after
  have whole : (backoff retries).usec = 0 := rfl
  simp only [whole, Nat.add_zero]
  rw [if_neg (by omega)]

/-- The next try comes when the cap asks for it exactly when there is no cap, or the doubled delay
has not passed it. -/
theorem retransmission_delay_capped_iff (cap : CapBackoff)
    (found : state.tunnel? buffer.tunnel = some tunnel)
    (unseen : ¬ buffer.header.Ns.toNat < tunnel.cLr)
    (left : buffer.retries + 1 ≤ env.maxRetries) (clock : state.now.usec < 1000000) :
    ∃ after entry, controlXmit env buffer state = .ok () after ∧
      after.events = insertEntry entry state.events ∧
      entry.event = .controlXmit { buffer with retries := buffer.retries + 1 } ∧
      (entry.tv = ⟨state.now.sec + cappedDelay cap (buffer.retries + 1), state.now.usec⟩ ↔
        cap.seconds = 0 ∨ 2 ^ buffer.retries ≤ cap.seconds) := by
  obtain ⟨after, ran, scheduled⟩ := controlXmit_schedules found unseen left
  refine ⟨after, _, ran, scheduled, rfl, ?_⟩
  have delay := cappedDelay_iff cap (buffer.retries + 1)
  rw [Nat.add_sub_cancel] at delay
  rw [← delay, after_backoff clock, Timeval.mk.injEq]
  simp only [and_true, Nat.add_left_cancel_iff]
  rfl

end Retransmission

def retryingTunnel : Tunnel where
  ref := 1
  ourtid := 7
  peer := ⟨5, 1701⟩
  self := { ref := 2 }

def retryingState : Daemon where
  tunnels := [retryingTunnel]
  fresh := 3
  now := ⟨3600, 500000⟩

def retryingBuffer (retries : Nat) : Buffer where
  tunnel := 1
  header := ⟨controlVer, 12, 9, 0, 0, 0⟩
  body := []
  peer := ⟨5, 1701⟩
  retries

def capTwo : CapBackoff := setCapbackoff 2 ⟨0, by decide⟩

theorem second_delay_within_cap : 2 ^ 1 ≤ capTwo.seconds ∧
    ∃ after entry, controlXmit (sampleEnv (fun _ _ => none) 5) (retryingBuffer 1) retryingState =
        .ok () after ∧
      after.events = insertEntry entry retryingState.events ∧
      entry.event = .controlXmit (retryingBuffer 2) ∧
      (entry.tv = ⟨3600 + cappedDelay capTwo 2, 500000⟩ ↔
        capTwo.seconds = 0 ∨ 2 ^ 1 ≤ capTwo.seconds) :=
  ⟨by decide, @retransmission_delay_capped_iff _ retryingState (retryingBuffer 1) retryingTunnel
    capTwo rfl (by decide) (by decide) (by decide)⟩

/-- The third transmission is followed by four seconds, not by two. -/
theorem third_delay_past_cap :
    cappedDelay capTwo 3 = 2 ∧
    (final (controlXmit (sampleEnv (fun _ _ => none) 5) (retryingBuffer 2) retryingState)).events =
      [⟨3, ⟨3600 + 4, 500000⟩, .controlXmit (retryingBuffer 3)⟩] := by
  decide +kernel

end Xl2tpd
