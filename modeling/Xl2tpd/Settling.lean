import Xl2tpd.Closing
import Xl2tpd.Anchors

/-!
# What the sweep settles

Every closing that `build_fdset` asks for leaves one pending object less and does not change what
the sweep will have made of the lists in the end.
-/

namespace Xl2tpd

set_option autoImplicit false

open Program

variable {env : Env} {state after : Daemon} {Value Other : Type} {stock : Stock} {mark : CallMark}

/-! ## What becomes of a mark -/

def CallMark.pending (mark : CallMark) : Bool := mark.needclose != mark.closing

/-- Nothing is left to be told and the object is to be destroyed. -/
def CallMark.released (mark : CallMark) : Bool := !mark.needclose && mark.closing

/-- A call after the sweep, if its tunnel is not pending. -/
def CallMark.settle (mark : CallMark) : Option CallMark :=
  if mark.released then none else some { mark with closing := mark.closing || mark.needclose }

/-- A tunnel after the sweep: gone, without calls, or with those that are left. -/
def TunnelMark.settle (mark : TunnelMark) : Option TunnelMark :=
  if mark.self.released then none
  else if mark.self.pending then some { mark with self := mark.self.close, calls := [] }
  else some (mark.withCalls (mark.calls.filterMap CallMark.settle))

/-- What the sweep destroys of the tunnel and its calls refers to entries that are there. -/
structure TunnelMark.Sound (stock : Stock) (mark : TunnelMark) : Prop where
  self : mark.self.released = true →
    mark.anchored stock = true ∧ mark.self.anchored stock = true
  calls : ∀ call ∈ mark.calls, mark.self.pending = true ∨ call.released = true →
    call.anchored stock = true

structure TunnelMark.Quiet (mark : TunnelMark) : Prop where
  self : mark.self.pending = false
  calls : ∀ call ∈ mark.calls, call.pending = false

theorem released_pending (released : mark.released = true) :
    mark.pending = true := by
  unfold CallMark.released at released
  unfold CallMark.pending
  cases needclose : mark.needclose <;> cases closing : mark.closing <;> simp_all

theorem not_released (quiet : mark.pending = false) : mark.released = false := by
  cases released : mark.released with
  | false => rfl
  | true =>
    rw [released_pending released] at quiet
    cases quiet

theorem CallMark.settle_quiet (quiet : mark.pending = false) :
    mark.settle = some mark := by
  unfold CallMark.settle
  rw [if_neg (by simp [not_released quiet])]
  have same : mark.needclose = mark.closing := by simpa [CallMark.pending] using quiet
  have kept : (mark.closing || mark.needclose) = mark.closing := by rw [same, Bool.or_self]
  rw [kept]

theorem TunnelMark.Quiet.settle {mark : TunnelMark} (quiet : mark.Quiet) :
    mark.settle = some mark := by
  have calls : mark.calls.filterMap CallMark.settle = mark.calls := by
    have identity : mark.calls.filterMap CallMark.settle = mark.calls.filterMap some :=
      List.filterMap_congr fun call member => CallMark.settle_quiet (quiet.calls call member)
    rw [identity, List.filterMap_some]
  unfold TunnelMark.settle
  rw [if_neg (by simp [not_released quiet.self]), if_neg (by simp [quiet.self]), calls]
  rfl

theorem TunnelMark.Quiet.sound {mark : TunnelMark} (quiet : mark.Quiet) : mark.Sound stock where
  self := by
    intro released
    rw [not_released quiet.self] at released
    cases released
  calls := by
    intro call member reason
    rw [quiet.self, not_released (quiet.calls call member)] at reason
    simp at reason

/-! ## Progress of a sweep -/

/-- The sweep makes the same of both lists. -/
structure Settling (stock : Stock) (marks later : List TunnelMark) : Prop where
  settled : later.filterMap TunnelMark.settle = marks.filterMap TunnelMark.settle
  sound : (∀ mark ∈ later, mark.Sound stock) ↔ ∀ mark ∈ marks, mark.Sound stock
  distinct : Distinct marks → Distinct later

theorem Settling.refl (marks : List TunnelMark) : Settling stock marks marks := ⟨rfl, .rfl, id⟩

theorem Settling.trans {first second third : List TunnelMark}
    (early : Settling stock first second) (late : Settling stock second third) :
    Settling stock first third :=
  ⟨late.settled.trans early.settled, late.sound.trans early.sound, late.distinct ∘ early.distinct⟩

section Local

variable {front back : List TunnelMark} {mark other : TunnelMark} {calls others : List CallMark}

theorem settling_replace (settled : other.settle = mark.settle)
    (sound : other.Sound stock ↔ mark.Sound stock) (same : other.ref = mark.ref)
    (fewer : (other.calls.map CallMark.ref).Sublist (mark.calls.map CallMark.ref)) :
    Settling stock (front ++ mark :: back) (front ++ other :: back) where
  settled := by
    rw [List.filterMap_append, List.filterMap_append, List.filterMap_cons, List.filterMap_cons,
      settled]
  sound := by
    simp only [List.forall_mem_append, List.forall_mem_cons, sound]
  distinct := fun distinct => distinct.replace same fewer

theorem settling_without (settled : mark.settle = none) (sound : mark.Sound stock) :
    Settling stock (front ++ mark :: back) (front ++ back) where
  settled := by
    rw [List.filterMap_append, List.filterMap_append, List.filterMap_cons, settled]
  sound := by
    simp only [List.forall_mem_append, List.forall_mem_cons, sound, true_and]
  distinct := Distinct.without

theorem settle_withCalls
    (same : calls.filterMap CallMark.settle = others.filterMap CallMark.settle) :
    (mark.withCalls calls).settle = (mark.withCalls others).settle := by
  unfold TunnelMark.settle TunnelMark.withCalls
  rw [same]

theorem sound_withCalls (same : (∀ call ∈ calls, mark.self.pending = true ∨ call.released = true →
        call.anchored stock = true) ↔
      ∀ call ∈ others, mark.self.pending = true ∨ call.released = true →
        call.anchored stock = true) :
    (mark.withCalls calls).Sound stock ↔ (mark.withCalls others).Sound stock :=
  ⟨fun sound => ⟨sound.self, same.mp sound.calls⟩, fun sound => ⟨sound.self, same.mpr sound.calls⟩⟩

end Local

/-- The program returns with lists of which the sweep makes the same, or an entry is gone. -/
def Advances (stock : Stock) (marks : List TunnelMark) (program : Prog Value) (state : Daemon)
    (post : Value → List TunnelMark → Prop) : Prop :=
  (Returns program state fun value after => ∃ later, after.shape = ⟨later, stock⟩ ∧
    Settling stock marks later ∧ post value later) ∨
  (¬ ∀ mark ∈ marks, mark.Sound stock) ∧ Stops program state .freed

section Advances

variable {marks : List TunnelMark} {program : Prog Value} {post : Value → List TunnelMark → Prop}
  {last : Other → List TunnelMark → Prop} {next : Value → Prog Other}

theorem advances_bind (first : Advances stock marks program state post)
    (rest : ∀ value after later, after.shape = ⟨later, stock⟩ → Settling stock marks later →
      post value later → Advances stock later (next value) after last) :
    Advances stock marks (program >>= next) state last := by
  rcases first with ⟨value, middle, ran, later, here, settling, holds⟩ | ⟨unsound, stops⟩
  · rcases rest value middle later here settling holds with returns | ⟨unsound, stops⟩
    · refine .inl (returns_bind (returns_ok ran (returns_mono returns ?_)))
      rintro other after ⟨final, shape, more, done⟩
      exact ⟨final, shape, settling.trans more, done⟩
    · exact .inr ⟨fun sound => unsound (settling.sound.mpr sound),
        stops_after (returns_ok ran stops)⟩
  · exact .inr ⟨unsound, stops_bind stops⟩

theorem advances_pure {value : Value} (here : state.shape = ⟨marks, stock⟩)
    (holds : post value marks) : Advances stock marks (pure value : Prog Value) state post :=
  .inl (returns_ok rfl ⟨marks, here, .refl marks, holds⟩)

theorem advances_read {value : Value} (ran : program state = .ok value state)
    (rest : Advances stock marks (next value) state last) :
    Advances stock marks (program >>= next) state last := by
  rcases rest with returns | ⟨unsound, stops⟩
  · exact .inl (returns_bind (returns_ok ran returns))
  · exact .inr ⟨unsound, stops_after (returns_ok ran stops)⟩

theorem advances_settles {fine : Prop} {later : List TunnelMark} {program : Prog Unit}
    {post : Unit → List TunnelMark → Prop}
    (settles : Settles fine .freed program state fun _ after => after.shape = ⟨later, stock⟩)
    (needed : (∀ mark ∈ marks, mark.Sound stock) → fine)
    (settling : fine → Settling stock marks later) (holds : post () later) :
    Advances stock marks program state post := by
  by_cases isFine : fine
  · exact .inl (returns_mono (settles.1 isFine) fun _ _ here =>
      ⟨later, here, settling isFine, holds⟩)
  · exact .inr ⟨fun sound => isFine (needed sound), settles.2 isFine⟩

end Advances

/-! ## One closing -/

theorem countP_middle {Item : Type} (test : Item → Bool) (front back : List Item) (item : Item) :
    (front ++ item :: back).countP test =
      (front ++ back).countP test + if test item = true then 1 else 0 := by
  rw [List.perm_middle.countP_eq, List.countP_cons]

section Closings

variable (retries : 1 ≤ env.maxRetries) {front back : List TunnelMark} {mark : TunnelMark}

def pendingTunnels (marks : List TunnelMark) : Nat := marks.countP fun mark => mark.self.pending

include retries

theorem closeCall_advances {before behind : List CallMark} {call : CallMark}
    (here : state.shape = ⟨front ++ mark.withCalls (before ++ call :: behind) :: back, stock⟩)
    (distinct : Distinct (front ++ mark.withCalls (before ++ call :: behind) :: back))
    (pending : call.pending = true) :
    Advances stock (front ++ mark.withCalls (before ++ call :: behind) :: back)
      (callClose env mark.ref (.call call.ref)) state fun _ later =>
        ∃ calls, later = front ++ mark.withCalls calls :: back ∧
          calls.countP CallMark.pending < (before ++ call :: behind).countP CallMark.pending := by
  have counted : (before ++ call :: behind).countP CallMark.pending =
      (before ++ behind).countP CallMark.pending + 1 := by
    rw [countP_middle, if_pos pending]
  cases closing : call.closing with
  | true =>
    have released : call.released = true := by
      simp_all [CallMark.pending, CallMark.released]
    have gone : call.settle = none := by
      unfold CallMark.settle
      rw [if_pos released]
    refine advances_settles (closeCall_closing here distinct closing) ?_ ?_
      ⟨before ++ behind, rfl, by omega⟩
    · intro sound
      have own := sound _ (List.mem_append_right _ List.mem_cons_self)
      exact own.calls call (List.mem_append_right _ List.mem_cons_self) (.inr released)
    · intro anchored
      have settled : (before ++ behind).filterMap CallMark.settle =
          (before ++ call :: behind).filterMap CallMark.settle := by
        rw [List.filterMap_append, List.filterMap_append, List.filterMap_cons, gone]
      refine settling_replace (settle_withCalls settled) (sound_withCalls ?_) rfl ?_
      · simp only [List.forall_mem_append, List.forall_mem_cons, anchored, implies_true, true_and]
      · exact ((List.sublist_cons_self _ _).append_left _).map _
  | false =>
    have isQuiet : call.close.pending = false := by
      simp_all [CallMark.pending, CallMark.close]
    have kept : call.released = false := by
      simp [CallMark.released, closing]
    have settled : call.close.settle = call.settle := by
      rw [CallMark.settle_quiet isQuiet]
      simp_all [CallMark.settle, CallMark.close, CallMark.pending]
    refine advances_settles
      (settles_returns (closeCall_open here distinct retries closing)) (fun _ => trivial) ?_
      ⟨before ++ call.close :: behind, rfl, ?_⟩
    · intro _
      have same : (before ++ call.close :: behind).filterMap CallMark.settle =
          (before ++ call :: behind).filterMap CallMark.settle := by
        rw [List.filterMap_append, List.filterMap_append, List.filterMap_cons,
          List.filterMap_cons, settled]
      refine settling_replace (settle_withCalls same) (sound_withCalls ?_) rfl ?_
      · have anchored : call.close.anchored stock = call.anchored stock := rfl
        simp only [List.forall_mem_append, List.forall_mem_cons, anchored,
          not_released isQuiet, kept]
      · simp only [TunnelMark.withCalls, List.map_append, List.map_cons]
        exact List.Sublist.refl _
    · rw [counted, countP_middle, if_neg (by simp [isQuiet])]
      exact Nat.lt_succ_self _

theorem closeTunnel_advances (here : state.shape = ⟨front ++ mark :: back, stock⟩)
    (distinct : Distinct (front ++ mark :: back)) (pending : mark.self.pending = true) :
    Advances stock (front ++ mark :: back) (callClose env mark.ref .self) state
      fun _ later => pendingTunnels later < pendingTunnels (front ++ mark :: back) := by
  have counted : pendingTunnels (front ++ mark :: back) = pendingTunnels (front ++ back) + 1 := by
    unfold pendingTunnels
    rw [countP_middle, if_pos pending]
  have needed (sound : ∀ other ∈ front ++ mark :: back, other.Sound stock) : mark.Sound stock :=
    sound mark (List.mem_append_right _ List.mem_cons_self)
  cases closing : mark.self.closing with
  | true =>
    have released : mark.self.released = true := by
      simp_all [CallMark.pending, CallMark.released]
    refine advances_settles (closeTunnel_closing here distinct closing) ?_ ?_ (by omega)
    · intro sound
      have own := needed sound
      exact ⟨fun call member => own.calls call member (.inl pending), own.self released⟩
    · intro fine
      refine settling_without ?_ ⟨fun _ => fine.2, fun call member _ => fine.1 call member⟩
      unfold TunnelMark.settle
      rw [if_pos released]
  | false =>
    have kept : mark.self.released = false := by
      simp [CallMark.released, closing]
    have isQuiet : mark.self.close.pending = false := by
      simp_all [CallMark.pending, CallMark.close]
    have last : ({ mark with self := mark.self.close, calls := [] } : TunnelMark).Quiet :=
      ⟨isQuiet, fun _ member => absurd member List.not_mem_nil⟩
    refine advances_settles (closeTunnel_open retries here distinct closing) ?_ ?_ ?_
    · intro sound call member
      exact (needed sound).calls call member (.inl pending)
    · intro fine
      refine settling_replace ?_ ?_ rfl (List.nil_sublist _)
      · rw [last.settle]
        unfold TunnelMark.settle
        rw [if_neg (by simp [kept]), if_pos pending]
      · refine iff_of_true last.sound ⟨?_, fun call member _ => fine call member⟩
        intro released
        rw [kept] at released
        cases released
    · rw [counted]
      unfold pendingTunnels
      rw [countP_middle, if_neg (by simp [isQuiet])]
      exact Nat.lt_succ_self _

/-! ## The walks -/

theorem sweepCalls_advances {fuel : Nat} {calls : List CallMark}
    (here : state.shape = ⟨front ++ mark.withCalls calls :: back, stock⟩)
    (distinct : Distinct (front ++ mark.withCalls calls :: back))
    (enough : calls.countP CallMark.pending < fuel) :
    Advances stock (front ++ mark.withCalls calls :: back) (sweepCalls env mark.ref fuel) state
      fun _ later => ∃ calls, later = front ++ mark.withCalls calls :: back ∧
        ∀ call ∈ calls, call.pending = false := by
  induction fuel generalizing state calls with
  | zero => exact absurd enough (Nat.not_lt_zero _)
  | succ fuel ih =>
    obtain ⟨tunnel, found, marked⟩ := tunnel_at here distinct
    have listed : tunnel.calls.map Call.mark = calls := congrArg TunnelMark.calls marked
    refine advances_read (readTunnel_run found) ?_
    cases next : tunnel.calls.find? Call.pending with
    | none =>
      refine advances_pure here ⟨calls, rfl, fun call member => ?_⟩
      rw [← listed] at member
      obtain ⟨original, memberOriginal, rfl⟩ := List.mem_map.mp member
      have quiet := List.find?_eq_none.mp next original memberOriginal
      exact Bool.eq_false_iff.mpr quiet
    | some call =>
      obtain ⟨pending, before, behind, split, _⟩ := List.find?_eq_some_iff_append.mp next
      have parts : calls = before.map Call.mark ++ call.mark :: behind.map Call.mark := by
        rw [← listed, split, List.map_append, List.map_cons]
      rw [parts] at here distinct enough ⊢
      refine advances_bind (closeCall_advances retries here distinct pending) ?_
      rintro _ after _ there settling ⟨fewer, rfl, fewerPending⟩
      exact ih there (settling.distinct distinct) (by omega)

/-- A walk along the tunnels either closes one of them or leaves them all quiet. -/
theorem sweepTunnels_advances {done rest : List TunnelMark}
    (here : state.shape = ⟨done ++ rest, stock⟩) (distinct : Distinct (done ++ rest))
    (quiet : ∀ mark ∈ done, mark.Quiet) :
    Advances stock (done ++ rest) (sweepTunnels env (rest.map TunnelMark.ref)) state
      fun closed later =>
        (closed = true → pendingTunnels later < pendingTunnels (done ++ rest)) ∧
        (closed = false → ∀ mark ∈ later, mark.Quiet) := by
  induction rest generalizing state done with
  | nil =>
    refine advances_pure here ⟨fun absurdity => Bool.noConfusion absurdity, fun _ => ?_⟩
    rw [List.append_nil]
    exact quiet
  | cons mark rest ih =>
    obtain ⟨tunnel, found, marked⟩ := tunnel_at here distinct
    refine advances_read (readTunnel_run found) ?_
    have enough : mark.calls.countP CallMark.pending < tunnel.calls.length + 1 := by
      have length : mark.calls.length = tunnel.calls.length := by
        rw [← marked]
        exact List.length_map _
      rw [← length]
      exact Nat.lt_succ_of_le List.countP_le_length
    refine advances_bind
      (@sweepCalls_advances env state stock retries done rest mark _ _ here distinct enough) ?_
    rintro _ walked _ there settling ⟨calls, rfl, quietCalls⟩
    have still := settling.distinct distinct
    obtain ⟨current, foundCurrent, markedCurrent⟩ := tunnel_at there still
    refine advances_read (readTunnel_run foundCurrent) ?_
    have selfPending : current.self.pending = mark.self.pending :=
      congrArg (fun mark => mark.self.pending) markedCurrent
    have samePending : pendingTunnels (done ++ mark.withCalls calls :: rest) =
        pendingTunnels (done ++ mark :: rest) := by
      unfold pendingTunnels
      rw [countP_middle, countP_middle]
      rfl
    rw [selfPending]
    by_cases pending : mark.self.pending = true
    · rw [if_pos pending]
      refine advances_bind (closeTunnel_advances retries there still pending) ?_
      rintro _ closed later last settling fewer
      refine advances_pure last ⟨fun _ => samePending ▸ fewer, fun absurdity => ?_⟩
      cases absurdity
    · rw [if_neg pending]
      rw [List.append_cons] at there still samePending ⊢
      rw [← samePending]
      refine ih there still fun other member => ?_
      rcases List.mem_append.mp member with early | own
      · exact quiet other early
      · rw [List.mem_singleton.mp own]
        exact ⟨Bool.eq_false_iff.mpr pending, quietCalls⟩

theorem sweep_advances {fuel : Nat} {marks : List TunnelMark} (here : state.shape = ⟨marks, stock⟩)
    (distinct : Distinct marks) (enough : pendingTunnels marks < fuel) :
    Advances stock marks (sweep env fuel) state fun _ later => ∀ mark ∈ later, mark.Quiet := by
  induction fuel generalizing state marks with
  | zero => exact absurd enough (Nat.not_lt_zero _)
  | succ fuel ih =>
    have refs : state.tunnels.map Tunnel.ref = marks.map TunnelMark.ref := by
      rw [show marks = state.tunnels.map Tunnel.mark from (congrArg Shape.marks here).symm]
      exact (List.map_map (f := Tunnel.mark) (g := TunnelMark.ref)).symm
    refine advances_read rfl ?_
    rw [refs]
    refine advances_bind (@sweepTunnels_advances env state stock retries [] marks here distinct
      fun _ member => absurd member List.not_mem_nil) ?_
    rintro closed walked later there settling ⟨fewer, quiet⟩
    cases closed with
    | true =>
      have shorter : pendingTunnels later < pendingTunnels marks := fewer rfl
      exact ih there (settling.distinct distinct) (by omega)
    | false => exact advances_pure there (quiet rfl)

theorem buildFdset_settles {marks : List TunnelMark} (here : state.shape = ⟨marks, stock⟩)
    (distinct : Distinct marks) :
    Settles (∀ mark ∈ marks, mark.Sound stock) .freed (buildFdset env) state fun _ after =>
      after.shape = ⟨marks.filterMap TunnelMark.settle, stock⟩ ∧
        ∀ mark ∈ marks.filterMap TunnelMark.settle, mark.Quiet := by
  have enough : pendingTunnels marks < state.tunnels.length + 1 := by
    have length : marks.length = state.tunnels.length := by
      rw [show marks = state.tunnels.map Tunnel.mark from (congrArg Shape.marks here).symm]
      exact List.length_map _
    rw [← length]
    exact Nat.lt_succ_of_le List.countP_le_length
  have swept : Advances stock marks (buildFdset env) state fun _ later =>
      ∀ mark ∈ later, mark.Quiet := advances_read rfl (sweep_advances retries here distinct enough)
  rcases swept with ⟨_, after, ran, later, there, settling, quiet⟩ | ⟨unsound, stops⟩
  · have whole : later.filterMap TunnelMark.settle = later := by
      have identity : later.filterMap TunnelMark.settle = later.filterMap some :=
        List.filterMap_congr fun mark member => (quiet mark member).settle
      rw [identity, List.filterMap_some]
    have sound : ∀ mark ∈ marks, mark.Sound stock :=
      settling.sound.mp fun mark member => (quiet mark member).sound
    refine ⟨fun _ => returns_ok ran ?_, fun unsound => absurd sound unsound⟩
    rw [← settling.settled, whole]
    exact ⟨there, quiet⟩
  · exact ⟨fun sound => absurd sound unsound, fun _ => stops⟩

end Closings

/-! ## The sweep of a reachable state -/

def Call.released (call : Call) : Bool := !call.needclose && call.closing

/-- What the sweep has to destroy, released or in a tunnel to be closed, refers to entries that are
there. -/
structure Daemon.Destroyable (state : Daemon) : Prop where
  tunnels : ∀ tunnel ∈ state.tunnels, tunnel.self.released = true →
    state.Knows tunnel.lns tunnel.lac ∧ state.Knows tunnel.self.lns tunnel.self.lac
  calls : ∀ tunnel ∈ state.tunnels, ∀ call ∈ tunnel.calls,
    tunnel.self.pending = true ∨ call.released = true → state.Knows call.lns call.lac

/-- What the sweep is for: nothing is pending, and what was released is gone. -/
structure Swept (before after : Daemon) : Prop where
  quiet : ∀ tunnel ∈ after.tunnels, tunnel.self.pending = false ∧
    ∀ call ∈ tunnel.calls, call.pending = false
  tunnels : ∀ tunnel ∈ before.tunnels, tunnel.self.released = true →
    after.tunnel? tunnel.ref = none
  calls : ∀ tunnel ∈ before.tunnels, ∀ call ∈ tunnel.calls, call.released = true →
    after.call? tunnel.ref (.call call.ref) = none

theorem knows_iff (lns : Option LnsRef) (lac : Option LacRef) :
    state.stock.anchors lns lac = true ↔ state.Knows lns lac := by
  have both : state.stock.anchors lns lac = true ↔
      lns.all state.stock.lns = true ∧ lac.all state.stock.lac = true :=
    (Bool.and_eq_true _ _).to_iff
  rw [both]
  cases lns <;> cases lac <;> simp [Daemon.Knows, Daemon.stock]

theorem destroyable_iff :
    (∀ mark ∈ state.tunnels.map Tunnel.mark, mark.Sound state.stock) ↔ state.Destroyable := by
  rw [List.forall_mem_map]
  constructor
  · intro sound
    refine ⟨fun tunnel member released => ?_, fun tunnel member call listed reason => ?_⟩
    · have known := (sound tunnel member).self released
      exact ⟨(knows_iff _ _).mp known.1, (knows_iff _ _).mp known.2⟩
    · exact (knows_iff _ _).mp
        ((sound tunnel member).calls call.mark (List.mem_map_of_mem listed) reason)
  · intro destroyable tunnel member
    refine ⟨fun released => ?_, fun mark listed reason => ?_⟩
    · have known := destroyable.tunnels tunnel member released
      exact ⟨(knows_iff _ _).mpr known.1, (knows_iff _ _).mpr known.2⟩
    · obtain ⟨call, original, rfl⟩ := List.mem_map.mp listed
      exact (knows_iff _ _).mpr (destroyable.calls tunnel member call original reason)

theorem Daemon.Orderly.marks (orderly : state.Orderly) :
    Distinct (state.tunnels.map Tunnel.mark) where
  tunnels := by
    rw [List.map_map]
    exact orderly.distinct
  calls := by
    intro mark member
    obtain ⟨tunnel, listed, rfl⟩ := List.mem_map.mp member
    have refs := (orderly.tunnels tunnel listed).distinct
    change ((tunnel.calls.map Call.deed).map CallDeed.ref).Nodup at refs
    change ((tunnel.calls.map Call.mark).map CallMark.ref).Nodup
    rw [List.map_map] at refs ⊢
    exact refs

theorem settled_call {mark later : TunnelMark} (settled : mark.settle = some later)
    {call : CallMark} (member : call ∈ later.calls) :
    ∃ original ∈ mark.calls, original.released = false ∧ original.ref = call.ref := by
  unfold TunnelMark.settle at settled
  split at settled
  · cases settled
  · split at settled
    · cases settled
      cases member
    · cases settled
      obtain ⟨original, listed, kept⟩ := List.mem_filterMap.mp member
      refine ⟨original, listed, ?_⟩
      unfold CallMark.settle at kept
      split at kept
      · cases kept
      · rename_i unreleased
        cases kept
        exact ⟨Bool.eq_false_iff.mpr unreleased, rfl⟩

section

variable (orderly : state.Orderly)

include orderly

theorem settled_origin {later : Tunnel}
    (listed : later.mark ∈ (state.tunnels.map Tunnel.mark).filterMap TunnelMark.settle)
    {tunnel : Tunnel} (member : tunnel ∈ state.tunnels) (same : later.ref = tunnel.ref) :
    tunnel.mark.settle = some later.mark := by
  obtain ⟨mark, origin, settled⟩ := List.mem_filterMap.mp listed
  obtain ⟨old, memberOld, rfl⟩ := List.mem_map.mp origin
  have ref : old.ref = later.ref := by
    unfold TunnelMark.settle at settled
    split at settled
    · cases settled
    · split at settled
      all_goals exact congrArg TunnelMark.ref (Option.some.inj settled)
  have own : old = tunnel := by
    have found := orderly.found memberOld
    rw [ref, same, orderly.found member] at found
    exact (Option.some.inj found).symm
  rw [← own]
  exact settled

theorem settled_swept (settled : after.tunnels.map Tunnel.mark =
      (state.tunnels.map Tunnel.mark).filterMap TunnelMark.settle)
    (quiet : ∀ mark ∈ (state.tunnels.map Tunnel.mark).filterMap TunnelMark.settle, mark.Quiet) :
    Swept state after := by
  have origin {tunnel later : Tunnel} (member : tunnel ∈ state.tunnels)
      (found : after.tunnel? tunnel.ref = some later) :
      tunnel.mark.settle = some later.mark := by
    refine settled_origin orderly ?_ member (Keyed.find_key found)
    rw [← settled]
    exact List.mem_map_of_mem (Keyed.find_mem found)
  refine ⟨fun tunnel member => ?_, fun tunnel member released => ?_,
    fun tunnel member call listed released => ?_⟩
  · rw [← settled] at quiet
    have own := quiet tunnel.mark (List.mem_map_of_mem member)
    exact ⟨own.self, fun call listed => own.calls call.mark (List.mem_map_of_mem listed)⟩
  · cases found : after.tunnel? tunnel.ref with
    | none => rfl
    | some later =>
      have gone : tunnel.mark.settle = none := by
        unfold TunnelMark.settle
        exact if_pos released
      have kept := origin member found
      rw [gone] at kept
      cases kept
  · cases found : after.call? tunnel.ref (.call call.ref) with
    | none => rfl
    | some left =>
      obtain ⟨later, foundLater, foundCall⟩ := call_some found
      have survives : left.mark ∈ later.mark.calls :=
        List.mem_map_of_mem (Keyed.find_mem foundCall)
      obtain ⟨original, memberOriginal, unreleased, ref⟩ :=
        settled_call (origin member foundLater) survives
      have refs : (tunnel.mark.calls.map CallMark.ref).Nodup :=
        orderly.marks.calls _ (List.mem_map_of_mem member)
      have left : left.ref = call.ref := Keyed.find_key foundCall
      have named : original.ref = call.mark.ref := ref.trans left
      have same := Keyed.find_of_mem refs memberOriginal
      rw [named, Keyed.find_of_mem refs (List.mem_map_of_mem listed)] at same
      cases same
      exact Bool.noConfusion (released.symm.trans unreleased)

theorem buildFdset_destroyable (retries : 1 ≤ env.maxRetries)
    (ran : buildFdset env state = .ok () after) : state.Destroyable := by
  have here : state.shape = ⟨state.tunnels.map Tunnel.mark, state.stock⟩ := rfl
  rw [← destroyable_iff]
  by_contra unsound
  obtain ⟨stopped, stops⟩ := (buildFdset_settles retries here orderly.marks).2 unsound
  rw [ran] at stops
  cases stops

theorem destroyable_swept (retries : 1 ≤ env.maxRetries) (destroyable : state.Destroyable) :
    ∃ after, buildFdset env state = .ok () after ∧ Swept state after := by
  have here : state.shape = ⟨state.tunnels.map Tunnel.mark, state.stock⟩ := rfl
  obtain ⟨_, after, ran, there, quiet⟩ :=
    (buildFdset_settles retries here orderly.marks).1 (destroyable_iff.mpr destroyable)
  exact ⟨after, ran, settled_swept orderly (congrArg Shape.marks there) quiet⟩

end

/-- The sweep settles everything exactly if what it destroys refers to entries that are there. -/
theorem close_sweep_settles_iff (reachable : Reachable env state) (retries : 1 ≤ env.maxRetries) :
    (∃ after, buildFdset env state = .ok () after ∧ Swept state after) ↔ state.Destroyable := by
  have orderly := runs_orderly reachable
  constructor
  · rintro ⟨after, ran, _⟩
    exact buildFdset_destroyable orderly retries ran
  · exact destroyable_swept orderly retries

def destroyableTest (state : Daemon) : Bool :=
  state.tunnels.all fun tunnel =>
    tunnel.mark.anchored state.stock && tunnel.mark.self.anchored state.stock &&
      tunnel.mark.calls.all fun call => call.anchored state.stock

theorem destroyableTest_sound (passed : destroyableTest state = true) : state.Destroyable := by
  unfold destroyableTest at passed
  simp only [List.all_eq_true, Bool.and_eq_true] at passed
  refine destroyable_iff.mp (List.forall_mem_map.mpr fun tunnel member => ?_)
  have known := passed tunnel member
  exact ⟨fun _ => known.1, fun call listed _ => known.2 call listed⟩

def sampleStop : Datagram :=
  sampleDatagram 513 0 1 1 (addMessageTypeAvp .StopCCN ++ addTunnelidAvp 7 ++
    addResultCodeAvp 1 0 [])

theorem released_tunnel_swept : ∃ (env : Env) (state : Daemon), Reachable env state ∧
    1 ≤ env.maxRetries ∧ (∃ tunnel ∈ state.tunnels, tunnel.self.released = true) ∧
    ∃ after, buildFdset env state = .ok () after ∧ Swept state after := by
  let env := sampleEnv (fun _ _ => none) 5
  obtain ⟨state, reached, tested⟩ : ∃ state, Reachable env state ∧
      (state.tunnels.any (fun tunnel => tunnel.self.released) && destroyableTest state) = true :=
    reachable_any [.datagram sampleSccrq, .datagram sampleStop] sampleListed_booted rfl
      (by decide +kernel)
  rw [Bool.and_eq_true] at tested
  obtain ⟨tunnel, member, released⟩ := List.any_eq_true.mp tested.1
  have retries : 1 ≤ env.maxRetries := by decide
  exact ⟨env, state, reached, retries, ⟨tunnel, member, released⟩,
    (close_sweep_settles_iff reached retries).mpr (destroyableTest_sound tested.2)⟩

/-- A tunnel that the peer gives up after its LNS entry was removed. -/
theorem removed_entry_written : ∃ (env : Env) (state : Daemon), Reachable env state ∧
    1 ≤ env.maxRetries ∧ (∃ after, buildFdset env state = .error .freed after) ∧
    ¬ ∃ after, buildFdset env state = .ok () after ∧ Swept state after := by
  let env := sampleEnv (fun _ _ => none) 5
  obtain ⟨state, reached, tested⟩ : ∃ state, Reachable env state ∧
      stops (buildFdset env) .freed state = true :=
    reachable_any [.datagram sampleSccrq, .request (.lnsRemove (text "x")), .datagram sampleStop]
      sampleListed_booted rfl (by decide +kernel)
  obtain ⟨stopped, fault⟩ := stops_error tested
  refine ⟨env, state, reached, by decide, ⟨stopped, fault⟩, ?_⟩
  rintro ⟨after, ran, _⟩
  rw [fault] at ran
  cases ran

end Xl2tpd
