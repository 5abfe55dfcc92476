import Mathlib.Logic.Relation

/-!
# Loops

A loop is given by its body, which goes on with a new state or stops with an outcome.
-/

namespace Loop

set_option autoImplicit false

variable {State Outcome : Type}

/-- From the state the loop comes to the outcome after finitely many rounds. -/
inductive Halts (body : State → State ⊕ Outcome) : State → Outcome → Prop
  | stop {state : State} {outcome : Outcome} (stops : body state = .inr outcome) :
      Halts body state outcome
  | again {state next : State} {outcome : Outcome} (goes : body state = .inl next)
      (rest : Halts body next outcome) : Halts body state outcome

variable {body : State → State ⊕ Outcome} {outcome : Outcome}

/-- A function that unrolls the loop is the loop, if it may unroll it more often than the
measure can fall. -/
theorem halts_of_unroll (run : Nat → State → Outcome) (measure : State → Nat)
    (last : ∀ fuel state outcome, body state = .inr outcome → run (fuel + 1) state = outcome)
    (unrolls : ∀ fuel state next, body state = .inl next → run (fuel + 1) state = run fuel next)
    (falls : ∀ state next, body state = .inl next → measure next < measure state)
    (fuel : Nat) (state : State) (enough : measure state < fuel) :
    Halts body state (run fuel state) := by
  induction fuel generalizing state with
  | zero => omega
  | succ fuel ih =>
    cases turn : body state with
    | inr outcome =>
      rw [last fuel state outcome turn]
      exact .stop turn
    | inl next =>
      have less := falls state next turn
      rw [unrolls fuel state next turn]
      exact .again turn (ih next (by omega))

/-- States that the body never leaves. -/
theorem not_halts (stays : State → Prop)
    (goes : ∀ state, stays state → ∃ next, body state = .inl next ∧ stays next) {state : State}
    (here : stays state) : ¬ Halts body state outcome := by
  intro halts
  induction halts with
  | stop stops =>
    obtain ⟨next, turn, _⟩ := goes _ here
    rw [turn] at stops
    cases stops
  | again turn _ ih =>
    obtain ⟨next, turn', remains⟩ := goes _ here
    obtain rfl := Sum.inl.inj (turn.symm.trans turn')
    exact ih remains

theorem halts_step {state next : State} (goes : body state = .inl next) :
    Halts body state outcome ↔ Halts body next outcome := by
  constructor
  · intro halts
    cases halts with
    | stop stops =>
      rw [goes] at stops
      cases stops
    | again turn rest =>
      obtain rfl := Sum.inl.inj (turn.symm.trans goes)
      exact rest
  · exact .again goes

theorem halts_last {state : State} {last outcome : Outcome} (stops : body state = .inr last) :
    Halts body state outcome ↔ last = outcome := by
  constructor
  · intro halts
    cases halts with
    | stop stops' => exact Sum.inr.inj (stops.symm.trans stops')
    | again turn rest =>
      rw [stops] at turn
      cases turn
  · rintro rfl
    exact .stop stops

/-- The loop comes to an end and meets only states with the property. -/
def Within (body : State → State ⊕ Outcome) (holds : State → Prop) (state : State) : Prop :=
  (∃ outcome, Halts body state outcome) ∧
    ∀ last, Relation.ReflTransGen (fun before after => body before = .inl after) state last →
      holds last

theorem within_step {holds : State → Prop} {state next : State} (goes : body state = .inl next) :
    Within body holds state ↔ holds state ∧ Within body holds next := by
  unfold Within
  simp only [halts_step goes]
  constructor
  · rintro ⟨halts, reached⟩
    exact ⟨reached state .refl, halts, fun last path => reached last (.head goes path)⟩
  · rintro ⟨here, halts, reached⟩
    refine ⟨halts, fun last path => ?_⟩
    rcases Relation.ReflTransGen.cases_head path with rfl | ⟨other, turn, rest⟩
    · exact here
    · obtain rfl := Sum.inl.inj (goes.symm.trans turn)
      exact reached last rest

theorem within_last {holds : State → Prop} {state : State} (stops : body state = .inr outcome) :
    Within body holds state ↔ holds state := by
  constructor
  · exact fun within => within.2 state .refl
  · intro here
    refine ⟨⟨outcome, .stop stops⟩, fun last path => ?_⟩
    rcases Relation.ReflTransGen.cases_head path with rfl | ⟨other, turn, _⟩
    · exact here
    · rw [stops] at turn
      cases turn

end Loop
