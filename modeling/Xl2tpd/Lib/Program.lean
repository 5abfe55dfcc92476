import Mathlib.Logic.Relation

/-!
# Programs on a shared state that may stop with a fault

A program is a function in `EStateM`: it ends in a state, either with a value or with a fault.
Through a view of the state, a program is simulated by an abstract transition system when the view
of every run is a finite sequence of abstract steps; the rules below follow the shape of the
program.
-/

namespace Program

set_option autoImplicit false

variable {Fault State View Value Other : Type} {fault : Fault} {program : EStateM Fault State Value}
  {next : Value → EStateM Fault State Other} {value : Value} {after : State} {Item : Type}

/-- The state in which a run ended, whatever the ending. -/
def final : EStateM.Result Fault State Value → State
  | .ok _ state => state
  | .error _ state => state

/-- Seen through `view`, the run from `state` is a finite sequence of steps. -/
def Leads (view : State → View) (step : View → View → Prop)
    (program : EStateM Fault State Value) (state : State) : Prop :=
  Relation.ReflTransGen step (view state) (view (final (program state)))

theorem bind_apply (program : EStateM Fault State Value)
    (next : Value → EStateM Fault State Other) (state : State) :
    (program >>= next) state =
      match program state with
      | .ok value after => next value after
      | .error fault after => .error fault after := rfl

theorem bind_run {state after : State} (ran : program state = .ok value after) :
    (program >>= next) state = next value after := by
  rw [bind_apply, ran]

theorem bind_stuck {state after : State} (stopped : program state = .error fault after) :
    (program >>= next) state = .error fault after := by
  rw [bind_apply, stopped]

theorem bind_ok {state last : State} {other : Other} :
    (program >>= next) state = .ok other last ↔
      ∃ value after, program state = .ok value after ∧ next value after = .ok other last := by
  rw [bind_apply]
  cases ran : program state with
  | ok value after =>
    constructor
    · intro returned
      exact ⟨value, after, rfl, returned⟩
    · rintro ⟨_, _, same, returned⟩
      cases same
      exact returned
  | error fault after => simp

theorem bind_error {state last : State} :
    (program >>= next) state = .error fault last ↔
      program state = .error fault last ∨
        ∃ value after, program state = .ok value after ∧
          next value after = .error fault last := by
  rw [bind_apply]
  cases ran : program state with
  | ok value after =>
    constructor
    · intro stopped
      exact .inr ⟨value, after, rfl, stopped⟩
    · rintro (stopped | ⟨_, _, same, stopped⟩)
      · cases stopped
      · cases same
        exact stopped
  | error fault after => simp

/-! ## Total runs -/

/-- The program returns, and then the condition holds. -/
def Returns (program : EStateM Fault State Value) (state : State)
    (post : Value → State → Prop) : Prop :=
  ∃ value after, program state = .ok value after ∧ post value after

def Stops (program : EStateM Fault State Value) (state : State) (fault : Fault) : Prop :=
  ∃ after, program state = .error fault after

section Total

variable {program : EStateM Fault State Value} {next : Value → EStateM Fault State Other}
  {state : State} {post : Value → State → Prop} {fault : Fault} {weaker : Value → State → Prop}

theorem returns_ok (ran : program state = .ok value after) (holds : post value after) :
    Returns program state post := ⟨value, after, ran, holds⟩

theorem returns_bind {post : Other → State → Prop}
    (runs : Returns program state fun value after => Returns (next value) after post) :
    Returns (program >>= next) state post := by
  obtain ⟨value, after, ran, other, last, goesOn, holds⟩ := runs
  exact ⟨other, last, (bind_run ran).trans goesOn, holds⟩

theorem returns_mono (runs : Returns program state post)
    (weakens : ∀ value after, post value after → weaker value after) :
    Returns program state weaker := by
  obtain ⟨value, after, ran, holds⟩ := runs
  exact ⟨value, after, ran, weakens value after holds⟩

theorem stops_bind (stops : Stops program state fault) :
    Stops (program >>= next) state fault := by
  obtain ⟨after, stopped⟩ := stops
  exact ⟨after, bind_stuck stopped⟩

theorem stops_after
    (runs : Returns program state fun value after => Stops (next value) after fault) :
    Stops (program >>= next) state fault := by
  obtain ⟨value, after, ran, last, stopped⟩ := runs
  exact ⟨last, (bind_run ran).trans stopped⟩

/-- The program returns as the condition says where all is fine, and stops with the fault
where it is not. -/
def Settles (fine : Prop) (fault : Fault) (program : EStateM Fault State Value) (state : State)
    (post : Value → State → Prop) : Prop :=
  (fine → Returns program state post) ∧ (¬ fine → Stops program state fault)

variable {fine later : Prop}

theorem settles_returns (runs : Returns program state post) :
    Settles True fault program state post :=
  ⟨fun _ => runs, fun absurdity => absurd trivial absurdity⟩

theorem settles_iff (same : fine ↔ later) (settles : Settles fine fault program state post) :
    Settles later fault program state post := by
  rw [← same]
  exact settles

theorem settles_mono (settles : Settles fine fault program state post)
    (weakens : ∀ value after, post value after → weaker value after) :
    Settles fine fault program state weaker :=
  ⟨fun isFine => returns_mono (settles.1 isFine) weakens, settles.2⟩

theorem settles_bind {post : Other → State → Prop}
    (settles : Settles fine fault program state fun value after =>
      Settles later fault (next value) after post) :
    Settles (fine ∧ later) fault (program >>= next) state post := by
  refine ⟨fun both => ?_, fun not => ?_⟩
  · exact returns_bind (returns_mono (settles.1 both.1) fun _ _ rest => rest.1 both.2)
  · by_cases isFine : fine
    · refine stops_after (returns_mono (settles.1 isFine) fun _ _ rest => ?_)
      exact rest.2 fun isLater => not ⟨isFine, isLater⟩
    · exact stops_bind (settles.2 isFine)

theorem settles_after {post : Other → State → Prop} (runs : Returns program state fun value after =>
      Settles later fault (next value) after post) :
    Settles later fault (program >>= next) state post :=
  settles_iff (iff_of_eq (true_and later)) (settles_bind (settles_returns runs))

end Total

section Rules

variable {view : State → View} {step : View → View → Prop} {state : State} {invariant : View → Prop}

theorem leads_of_view_eq (same : view (final (program state)) = view state) :
    Leads view step program state := by
  unfold Leads
  rw [same]

theorem leads_eq (leads : Leads view Eq program state) :
    view (final (program state)) = view state := by
  unfold Leads at leads
  generalize view (final (program state)) = last at leads ⊢
  induction leads with
  | refl => rfl
  | tail _ same ih => exact same.symm.trans ih

theorem leads_pure (value : Value) :
    Leads view step (pure value : EStateM Fault State Value) state := Relation.ReflTransGen.refl

theorem leads_throw (fault : Fault) :
    Leads view step (throw fault : EStateM Fault State Value) state :=
  Relation.ReflTransGen.refl

theorem leads_modify (change : State → State) (acts : step (view state) (view (change state))) :
    Leads view step (modify change : EStateM Fault State PUnit) state :=
  Relation.ReflTransGen.single acts

theorem leads_ok (leads : Leads view step program state) (ran : program state = .ok value after) :
    Relation.ReflTransGen step (view state) (view after) := by
  unfold Leads at leads
  rw [ran] at leads
  exact leads

theorem steps_bind {start : View}
    (first : Relation.ReflTransGen step start (view (final (program state))))
    (rest : ∀ value after, program state = .ok value after → Leads view step (next value) after) :
    Relation.ReflTransGen step start (view (final ((program >>= next) state))) := by
  rw [bind_apply]
  cases ran : program state with
  | ok value after =>
    rw [ran] at first
    exact first.trans (rest value after ran)
  | error fault after =>
    rw [ran] at first
    exact first

theorem leads_bind (first : Leads view step program state)
    (rest : ∀ value after, program state = .ok value after → Leads view step (next value) after) :
    Leads view step (program >>= next) state := steps_bind first rest

theorem leads_read (still : final (program state) = state)
    (rest : ∀ value, program state = .ok value state → Leads view step (next value) state) :
    Leads view step (program >>= next) state := by
  apply leads_bind
  · exact leads_of_view_eq (congrArg view still)
  · intro value after ran
    have same : after = state := by
      rw [ran] at still
      exact still
    subst same
    exact rest value ran

theorem leads_invariant (leads : Leads view step program state)
    (keeps : ∀ before after, step before after → invariant before → invariant after)
    (start : invariant (view state)) : invariant (view (final (program state))) := by
  unfold Leads at leads
  generalize view (final (program state)) = last at leads
  induction leads with
  | refl => exact start
  | tail _ acts ih => exact keeps _ _ acts ih

theorem leads_ok_invariant (leads : Leads view step program state)
    (ran : program state = .ok value after)
    (keeps : ∀ before after, step before after → invariant before → invariant after)
    (start : invariant (view state)) : invariant (view after) := by
  have kept := leads_invariant leads keeps start
  rw [ran] at kept
  exact kept

theorem leads_forM {body : Item → EStateM Fault State Unit} (items : List Item)
    (acts : ∀ item before, Leads view step (body item) before) :
    Leads view step (items.forM body) state := by
  induction items generalizing state with
  | nil => exact leads_pure _
  | cons item items ih =>
    exact leads_bind (acts item state) fun _ _ _ => ih

end Rules

section Faults

variable {bad : Fault → Prop} {state : State}

/-- The run from `state` does not stop with a bad fault. -/
def Avoids (bad : Fault → Prop) (program : EStateM Fault State Value) (state : State) : Prop :=
  ∀ fault after, program state = .error fault after → ¬ bad fault

theorem avoids_pure (value : Value) :
    Avoids bad (pure value : EStateM Fault State Value) state := by
  intro fault after stopped
  cases stopped

theorem avoids_throw (good : ¬ bad fault) :
    Avoids bad (throw fault : EStateM Fault State Value) state := by
  intro other after stopped
  cases stopped
  exact good

theorem avoids_modify (change : State → State) :
    Avoids bad (modify change : EStateM Fault State PUnit) state := by
  intro fault after stopped
  cases stopped

theorem avoids_bind (first : Avoids bad program state)
    (rest : ∀ value after, program state = .ok value after → Avoids bad (next value) after) :
    Avoids bad (program >>= next) state := by
  intro fault last stopped
  rcases bind_error.mp stopped with early | ⟨value, after, ran, late⟩
  · exact first fault last early
  · exact rest value after ran fault last late

theorem avoids_forM {body : Item → EStateM Fault State Unit} (items : List Item)
    (avoids : ∀ item before, Avoids bad (body item) before) :
    Avoids bad (items.forM body) state := by
  induction items generalizing state with
  | nil => exact avoids_pure _
  | cons item items ih => exact avoids_bind (avoids item state) fun _ _ _ => ih

end Faults

section Returns

variable {step : State → State → Prop} {state : State}

/-- A run from `state` that returns is a finite sequence of steps. -/
def Yields (step : State → State → Prop) (program : EStateM Fault State Value) (state : State) :
    Prop :=
  ∀ value after, program state = .ok value after → Relation.ReflTransGen step state after

theorem yields_pure (value : Value) :
    Yields step (pure value : EStateM Fault State Value) state := by
  intro _ after returned
  cases returned
  exact Relation.ReflTransGen.refl

theorem yields_throw (fault : Fault) :
    Yields step (throw fault : EStateM Fault State Value) state := by
  intro _ after returned
  cases returned

theorem yields_modify {change : State → State} (acts : step state (change state)) :
    Yields step (modify change : EStateM Fault State PUnit) state := by
  intro _ after returned
  cases returned
  exact Relation.ReflTransGen.single acts

theorem yields_once (acts : ∀ value after, program state = .ok value after → step state after) :
    Yields step program state :=
  fun value after ran => Relation.ReflTransGen.single (acts value after ran)

theorem yields_ite {condition : Prop} [Decidable condition]
    {first second : EStateM Fault State Value} (holds : condition → Yields step first state)
    (fails : ¬ condition → Yields step second state) :
    Yields step (if condition then first else second) state := by
  split
  · exact holds ‹_›
  · exact fails ‹_›

theorem yields_bind (first : Yields step program state)
    (rest : ∀ value after, program state = .ok value after → Yields step (next value) after) :
    Yields step (program >>= next) state := by
  intro other last returned
  obtain ⟨value, after, ran, later⟩ := bind_ok.mp returned
  exact (first value after ran).trans (rest value after ran other last later)

theorem yields_read (still : final (program state) = state)
    (rest : ∀ value, program state = .ok value state → Yields step (next value) state) :
    Yields step (program >>= next) state := by
  intro other last returned
  obtain ⟨value, after, ran, later⟩ := bind_ok.mp returned
  rw [ran] at still
  change after = state at still
  rw [still] at ran later
  exact rest value ran other last later

theorem yields_forM {body : Item → EStateM Fault State Unit} (items : List Item)
    (acts : ∀ item before, Yields step (body item) before) :
    Yields step (items.forM body) state := by
  induction items generalizing state with
  | nil => exact yields_pure _
  | cons item items ih => exact yields_bind (acts item state) fun _ _ _ => ih

theorem steps_invariant {invariant : State → Prop} (steps : Relation.ReflTransGen step state after)
    (keeps : ∀ before after, step before after → invariant before → invariant after)
    (start : invariant state) : invariant after := by
  induction steps with
  | refl => exact start
  | tail _ acts ih => exact keeps _ _ acts ih

end Returns

end Program
