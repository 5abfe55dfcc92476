import Xl2tpd.AvpBounds
import Xl2tpd.Lib.Loop
import Mathlib.Data.List.Chain

/-!
# The loop over AVPs

Every round of `handle_avps` that goes on is the length of its AVP further, as the length
stands in the packet, so the loop ends for every packet.
-/

namespace Xl2tpd

set_option autoImplicit false

open Program

section Loops

variable {env : Env} {t : TunnelRef} {c : CallId} {size : Nat} {round next : Round} {fuel : Nat}

/-- The body of the loop of `handle_avps`, without a bound on the rounds. -/
def avpBody (env : Env) (t : TunnelRef) (c : CallId) (size : Nat) (round : Round) :
    Round ⊕ EStateM.Result Fault Daemon Bool :=
  if round.len ≤ 0 then .inr (.ok (round.len = 0) round.state)
  else
    match round.run env t c with
    | .ok (.next raw len) after => .inl ⟨after, false, raw, len, round.nextVector env t size⟩
    | .ok .refused after => .inr (.ok false after)
    | .error fault after => .inr (.error fault after)

/-- The distance of the round from the start of the packet; the last AVP may go past its end. -/
def Round.position (size : Nat) (round : Round) : Int := size - round.len

theorem avpBody_goes (goes : avpBody env t c size round = .inl next) :
    0 < round.len ∧ next.first = false ∧ next.vector = round.nextVector env t size ∧
      round.run env t c = .ok (.next next.raw next.len) next.state := by
  unfold avpBody at goes
  split at goes
  · cases goes
  · rename_i left
    split at goes
    · rename_i raw len after ran
      cases goes
      exact ⟨Int.not_le.mp left, rfl, rfl, ran⟩
    · cases goes
    · cases goes

theorem avpBody_advances (goes : avpBody env t c size round = .inl next) :
    0 < alength round.length ∧
      next.position size = round.position size + alength round.length ∧
      next.raw = round.data.drop (alength round.length) := by
  obtain ⟨_, _, _, ran⟩ := avpBody_goes goes
  obtain ⟨some, raw, len⟩ := (@Round.goes_on _ _ _ env t c size round ran).1
  refine ⟨some, ?_, raw⟩
  unfold Round.position
  omega

theorem avpBody_stops {outcome : EStateM.Result Fault Daemon Bool}
    (stops : avpBody env t c size round = .inr outcome) :
    handleAvpsLoop env t c (fuel + 1) round.first round.raw round.len round.state = outcome := by
  unfold avpBody at stops
  rw [handleAvpsLoop]
  split at stops
  · rename_i none
    cases stops
    rw [if_pos none]
    rfl
  · rename_i left
    rw [if_neg left]
    split at stops
    · cases stops
    · rename_i after ran
      cases stops
      exact bind_run ran
    · rename_i fault after stopped
      cases stops
      exact bind_stuck stopped

theorem avpBody_unrolls (goes : avpBody env t c size round = .inl next) :
    handleAvpsLoop env t c (fuel + 1) round.first round.raw round.len round.state =
      handleAvpsLoop env t c fuel next.first next.raw next.len next.state := by
  obtain ⟨left, first, _, ran⟩ := avpBody_goes goes
  rw [handleAvpsLoop, if_neg (Int.not_le.mpr left), first]
  exact bind_run ran

theorem handleAvpsLoop_halts (enough : round.len.toNat < fuel) :
    Loop.Halts (avpBody env t c size) round
      (handleAvpsLoop env t c fuel round.first round.raw round.len round.state) := by
  refine Loop.halts_of_unroll
    (fun fuel round => handleAvpsLoop env t c fuel round.first round.raw round.len round.state)
    (fun round => round.len.toNat) (fun fuel state outcome => avpBody_stops)
    (fun fuel state next => avpBody_unrolls) (fun state next goes => ?_) fuel round enough
  obtain ⟨left, _⟩ := avpBody_goes goes
  obtain ⟨some, moved, _⟩ := avpBody_advances goes
  unfold Round.position at moved
  omega

theorem handleAvps_halts (env : Env) (t : TunnelRef) (c : CallId) (buffer : RecvBuf)
    (state : Daemon) :
    Loop.Halts (avpBody env t c buffer.len) (firstRound buffer state)
      (handleAvps env t c buffer state) :=
  handleAvpsLoop_halts (Nat.lt_succ_self _)

/-! ## The rounds -/

theorem avpRounds_succ (fuel : Nat) (left : 0 < round.len) :
    avpRounds env t c size (fuel + 1) round =
      round :: (avpBody env t c size round).elim (avpRounds env t c size fuel) fun _ => [] := by
  rw [avpRounds, avpBody, if_neg (Int.not_le.mpr left), if_neg (Int.not_le.mpr left), Round.run]
  congr 1
  cases handleAvp env t c round.first round.raw round.len round.state with
  | error fault after => rfl
  | ok step after =>
    cases step with
    | refused => rfl
    | next raw len => rfl

theorem avpRounds_nil (fuel : Nat) (none : round.len ≤ 0) :
    avpRounds env t c size fuel round = [] := by
  cases fuel with
  | zero => rfl
  | succ fuel => rw [avpRounds, if_pos none]

theorem avpRounds_forall {holds : Round → Prop}
    (keeps : ∀ round next, holds round → avpBody env t c size round = .inl next → holds next)
    (start : holds round) :
    ∀ other ∈ avpRounds env t c size fuel round, 0 < other.len ∧ holds other := by
  induction fuel generalizing round with
  | zero =>
    intro other member
    cases member
  | succ fuel ih =>
    by_cases left : 0 < round.len
    · rw [avpRounds_succ fuel left, List.forall_mem_cons]
      refine ⟨⟨left, start⟩, ?_⟩
      cases goes : avpBody env t c size round with
      | inl next => exact ih (keeps round next start goes)
      | inr outcome =>
        intro other member
        cases member
    · rw [avpRounds_nil _ (Int.not_lt.mp left)]
      intro other member
      cases member

theorem avpRounds_chain (fuel : Nat) :
    (avpRounds env t c size fuel round).IsChain fun round next =>
      avpBody env t c size round = .inl next := by
  induction fuel generalizing round with
  | zero => exact .nil
  | succ fuel ih =>
    by_cases left : 0 < round.len
    · rw [avpRounds_succ fuel left]
      cases goes : avpBody env t c size round with
      | inr outcome => exact .singleton _
      | inl next =>
        refine List.isChain_cons.mpr ⟨fun other first => ?_, ih⟩
        change other ∈ (avpRounds env t c size fuel next).head? at first
        cases fuel with
        | zero => cases first
        | succ fuel =>
          by_cases more : 0 < next.len
          · rw [avpRounds_succ fuel more] at first
            cases first
            exact goes
          · rw [avpRounds_nil _ (Int.not_lt.mp more)] at first
            cases first
    · rw [avpRounds_nil _ (Int.not_lt.mp left)]
      exact .nil

theorem avpRounds_apart (fuel : Nat) :
    (avpRounds env t c size fuel round).Pairwise fun earlier later =>
      earlier.position size + (alength earlier.length : Int) ≤ later.position size := by
  induction fuel generalizing round with
  | zero => exact .nil
  | succ fuel ih =>
    by_cases left : 0 < round.len
    · rw [avpRounds_succ fuel left]
      cases goes : avpBody env t c size round with
      | inr outcome => exact List.pairwise_singleton _ _
      | inl next =>
        obtain ⟨_, moved, _⟩ := avpBody_advances goes
        refine List.pairwise_cons.mpr ⟨fun later member => ?_, ih⟩
        have keeps (middle later : Round)
            (far : round.position size + (alength round.length : Int) ≤ middle.position size)
            (further : avpBody env t c size middle = .inl later) :
            round.position size + (alength round.length : Int) ≤ later.position size := by
          obtain ⟨_, on, _⟩ := avpBody_advances further
          omega
        exact (avpRounds_forall keeps (by omega) later member).2
    · rw [avpRounds_nil _ (Int.not_lt.mp left)]
      exact .nil

theorem avpRounds_within (within : round.len ≤ size) :
    ∀ other ∈ avpRounds env t c size fuel round, 0 < other.len ∧ other.len ≤ size := by
  refine avpRounds_forall (fun middle later fits goes => ?_) within
  obtain ⟨some, moved, _⟩ := avpBody_advances goes
  unfold Round.position at moved
  omega

theorem Round.given_position {given : Given} (left : 0 < round.len) (within : round.len ≤ size)
    (handed : round.given env t size = some given) :
    round.position size ≤ given.start ∧
      (given.start : Int) < round.position size + alength round.length := by
  have shifted : given.start = round.start size + round.shift :=
    (@Round.run_given env t .self size round given handed).1
  have long : 6 ≤ alength round.length := by
    by_cases taken : round.taken = true
    · exact (Round.taken_iff.mp taken).2.2.2.1
    · rw [Round.given_none taken] at handed
      cases handed
  have place : round.start size = size - round.len.toNat := rfl
  have shift : round.shift ≤ 2 := by
    unfold Round.shift
    split
    · exact Nat.le_refl 2
    · exact Nat.zero_le 2
  unfold Round.position
  omega

end Loops

/-- For every packet the loop of `handle_avps` ends, in what `handle_avps` returns. A round that
goes on is the length of its AVP further, one octet at least. A handler gets an AVP of six octets or
more in the packet, behind the ones before. -/
theorem avp_loop_progress (env : Env) (t : TunnelRef) (c : CallId) (buffer : RecvBuf)
    (state : Daemon) :
    Loop.Halts (avpBody env t c buffer.len) (firstRound buffer state)
        (handleAvps env t c buffer state) ∧
      (handleAvpsRounds env t c buffer state).IsChain
        (fun round next => avpBody env t c buffer.len round = .inl next) ∧
      (∀ round ∈ handleAvpsRounds env t c buffer state,
        (∀ next, avpBody env t c buffer.len round = .inl next →
          round.position buffer.len + 1 ≤ next.position buffer.len ∧
            next.position buffer.len = round.position buffer.len + alength round.length ∧
            next.raw = round.data.drop (alength round.length)) ∧
        (∀ given, round.given env t buffer.len = some given →
          6 ≤ given.datalen ∧ given.start + given.datalen ≤ buffer.len ∧
            round.run env t c = dispatchAvp env t c given.data (round.len - round.shift)
              (alength round.length - round.shift) round.state) ∧
        (round.given env t buffer.len = none →
          round.run env t c =
              .ok (skipAvp round.data round.len (alength round.length)) round.state ∨
            (∃ error message, round.run env t c = refuseAvp t c error message round.state) ∨
            ∃ fault, round.run env t c = .error fault round.state)) ∧
      ((handleAvpsRounds env t c buffer state).filterMap fun round =>
        round.given env t buffer.len).Pairwise fun earlier later =>
          earlier.start < later.start := by
  have rounds : ∀ round ∈ handleAvpsRounds env t c buffer state,
      0 < round.len ∧ round.len ≤ buffer.len := by
    refine avpRounds_within ?_
    change (buffer.len : Int) - controlHdrSize ≤ buffer.len
    omega
  refine ⟨handleAvps_halts env t c buffer state, avpRounds_chain _, fun round member => ?_, ?_⟩
  · obtain ⟨left, within⟩ := rounds round member
    refine ⟨fun next goes => ?_, fun given handed => ?_, fun untaken => Round.run_none untaken⟩
    · obtain ⟨some, moved, raw⟩ := avpBody_advances goes
      exact ⟨by omega, moved, raw⟩
    · obtain ⟨_, fits⟩ := Round.given_fits left within handed
      exact ⟨fits.header, fits.within, (Round.run_given handed).2.2⟩
  · rw [List.pairwise_filterMap]
    refine (avpRounds_apart _).imp_of_mem fun {earlier later} first second apart => ?_
    intro given handed other handed'
    obtain ⟨left, within⟩ := rounds earlier first
    obtain ⟨left', within'⟩ := rounds later second
    have before := (Round.given_position left within handed).2
    have behind := (Round.given_position left' within' handed').1
    omega

end Xl2tpd
