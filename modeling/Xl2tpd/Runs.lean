import Xl2tpd.Sim.Daemon

/-!
# Runs

A run whose inputs are given can be computed, so that a condition can be shown to be met, and a
property to fail, by evaluation.
-/

namespace Xl2tpd

set_option autoImplicit false

open Program

variable {env : Env} {condition : Daemon → Input → Prop} {check : Daemon → Input → Bool}
  {state after : Daemon} {inputs : List Input} {Value : Type}

/-- Takes the inputs one after the other, as long as each passes the test and none
ends in a fault. -/
def execAll (env : Env) (check : Daemon → Input → Bool) : List Input → Daemon → Option Daemon
  | [], state => some state
  | input :: rest, state =>
      if check state input then
        match exec env input state with
        | .ok () after => execAll env check rest after
        | .error _ _ => none
      else none

theorem execAll_runs (sound : ∀ state input, check state input = true → condition state input)
    (runs : Runs env condition state) (ran : execAll env check inputs state = some after) :
    Runs env condition after := by
  induction inputs generalizing state with
  | nil =>
    cases ran
    exact runs
  | cons input rest ih =>
    unfold execAll at ran
    by_cases passed : check state input = true
    · rw [if_pos passed] at ran
      cases step : exec env input state with
      | ok value next =>
        rw [step] at ran
        exact ih (runs.step (sound state input passed) step) ran
      | error fault stopped =>
        rw [step] at ran
        cases ran
    · rw [if_neg passed] at ran
      cases ran

theorem execAll_any (check : Daemon → Input → Bool) (inputs : List Input) {start : Daemon}
    {test : Daemon → Bool} (booted : Booted start) (dialed : init env start = .ok () start)
    (sound : ∀ state input, check state input = true → condition state input)
    (tested : (execAll env check inputs start).any test = true) :
    ∃ state, Runs env condition state ∧ test state = true := by
  cases ran : execAll env check inputs start with
  | none =>
    rw [ran] at tested
    cases tested
  | some state =>
    rw [ran] at tested
    exact ⟨state, execAll_runs sound (.boot booted dialed) ran, tested⟩

theorem reachable_any (inputs : List Input) {start : Daemon} {test : Daemon → Bool}
    (booted : Booted start) (dialed : init env start = .ok () start)
    (tested : (execAll env (fun _ _ => true) inputs start).any test = true) :
    ∃ state, Reachable env state ∧ test state = true :=
  execAll_any (fun _ _ => true) inputs booted dialed (fun _ _ _ => trivial) tested

/-- A run whose steps, the start included, meet a condition on the states before and after. -/
inductive Trail (env : Env) (meets : Daemon → Daemon → Prop) : Daemon → Prop
  | boot {start state : Daemon} (booted : Booted start) (ran : init env start = .ok () state)
      (met : meets start state) : Trail env meets state
  | step {before after : Daemon} {input : Input} (reached : Trail env meets before)
      (ran : exec env input before = .ok () after) (met : meets before after) :
      Trail env meets after

theorem execAll_trail {meets : Daemon → Daemon → Prop} {tests : Daemon → Daemon → Bool}
    (sound : ∀ before after, tests before after = true → meets before after)
    (trail : Trail env meets state)
    (ran : execAll env (fun state input => tests state (final (exec env input state))) inputs state =
      some after) : Trail env meets after := by
  induction inputs generalizing state with
  | nil =>
    cases ran
    exact trail
  | cons input rest ih =>
    unfold execAll at ran
    by_cases passed : tests state (final (exec env input state)) = true
    · rw [if_pos passed] at ran
      cases step : exec env input state with
      | ok value next =>
        rw [step] at ran passed
        exact ih (trail.step step (sound state next passed)) ran
      | error fault stopped =>
        rw [step] at ran
        cases ran
    · rw [if_neg passed] at ran
      cases ran

def Daemon.steady (env : Env) (state : Daemon) (input : Input) : Prop :=
  (final (exec env input state)).view.lapses = state.view.lapses

instance (env : Env) (state : Daemon) (input : Input) : Decidable (state.steady env input) :=
  inferInstanceAs (Decidable (_ = _))

/-! ## A daemon to run -/

/-- A daemon that finds the given secrets; its digest is a sum of octets. -/
def sampleEnv (secrets : Bytes → Bytes → Option Bytes) (maxRetries : Nat) : Env where
  md5 := fun octets index =>
    UInt8.ofNat (octets.foldl (fun sum octet => sum + octet.toNat) (octets.length + index.val))
  getSecret := secrets
  hostname := text "us"
  gethostbyname := fun _ => some 1
  entropy := fun count => UInt8.ofNat (count + 1)
  spawn := fun _ => .forked 5 77
  passwordPipe := fun _ => some 9
  ptyWrite := fun _ => true
  kernelSupport := false
  maxRetries := maxRetries
  accesscontrol := false
  ipsecsaref := false

def sampleStart (challenge : Bool) : Daemon :=
  { deflns := some { ref := 0, challenge := challenge, entname := text "default" }, fresh := 1 }

theorem sampleStart_booted (challenge : Bool) : Booted (sampleStart challenge) where
  tunnels := rfl
  tunnelCount := rfl
  events := rfl
  uaddr := rfl
  switchIo := rfl
  trace := rfl
  lnsRefs := by simp [sampleStart]
  lacRefs := by simp [sampleStart]
  lnsFresh := by simp [sampleStart]
  lacFresh := by simp [sampleStart]

def sampleServer (entry : Lns) : Daemon := { deflns := some entry, fresh := entry.ref + 1 }

theorem sampleServer_booted (entry : Lns) (unused : entry.t = none) :
    Booted (sampleServer entry) where
  tunnels := rfl
  tunnelCount := rfl
  events := rfl
  uaddr := rfl
  switchIo := rfl
  trace := rfl
  lnsRefs := by simp [sampleServer]
  lacRefs := by simp [sampleServer]
  lnsFresh := by simp [sampleServer, unused]
  lacFresh := by simp [sampleServer]

def sampleDatagram (tid cid ns nr : UInt16) (body : Bytes) : Datagram where
  bytes := (ControlHdr.mk controlVer (UInt16.ofNat (controlHdrSize + body.length)) tid cid ns
    nr).encode ++ body
  peer := ⟨5, 6⟩

def ends {Value : Type} (program : Prog Value) (test : Value → Daemon → Bool)
    (state : Daemon) : Bool :=
  match program state with
  | .ok value after => test value after
  | .error _ _ => false

theorem ends_ok {program : Prog Value} {test : Value → Daemon → Bool}
    (tested : ends program test state = true) :
    ∃ value after, program state = .ok value after ∧ test value after = true := by
  unfold ends at tested
  split at tested
  · rename_i value after ran
    exact ⟨value, after, ran, tested⟩
  · cases tested

def stops {Value : Type} (program : Prog Value) (fault : Fault) (state : Daemon) : Bool :=
  match program state with
  | .ok _ _ => false
  | .error other _ => other = fault

theorem stops_error {program : Prog Value} {fault : Fault}
    (stopped : stops program fault state = true) :
    ∃ after, program state = .error fault after := by
  unfold stops at stopped
  split at stopped
  · cases stopped
  · rename_i other after ran
    cases of_decide_eq_true stopped
    exact ⟨after, ran⟩

def returned {Value : Type} (program : Prog Value) (state : Daemon) : Option Value :=
  match program state with
  | .ok value _ => some value
  | .error _ _ => none

theorem returned_ok {program : Prog Value} {state : Daemon} {value : Value}
    (returns : returned program state = some value) :
    program state = .ok value (final (program state)) := by
  unfold returned at returns
  cases ran : program state with
  | ok result after =>
    rw [ran] at returns
    cases returns
    rfl
  | error fault after =>
    rw [ran] at returns
    cases returns

def sampleSccrq : Datagram :=
  sampleDatagram 0 0 0 0 (addMessageTypeAvp .SCCRQ ++ addProtocolAvp ++ addFrameCapsAvp 3 ++
    addHostnameAvp (text "peer") ++ addTunnelidAvp 7)

def sampleScccn : Datagram := sampleDatagram 513 0 1 1 (addMessageTypeAvp .SCCCN)

def sampleIcrq : Datagram :=
  sampleDatagram 513 0 2 1 (addMessageTypeAvp .ICRQ ++ addCallidAvp 9 ++ addSernoAvp 1)

def callInputs : List Input := [.datagram sampleSccrq, .datagram sampleScccn, .datagram sampleIcrq]

def sampleLns : Lns := { ref := 0, assignIp := false }

/-- A daemon with one call, whose pppd is running. -/
def sampleOpen : Daemon where
  tunnels :=
    [{ ref := 1
       ourtid := 1
       peer := ⟨5, 6⟩
       self := { ref := 2 }
       calls := [{ ref := 3, fd := 4 }] }]

/-- Seen through the view, every run of the daemon is a run of the abstract daemon. -/
theorem runs_refine (runs : Runs env condition state) :
    ∃ start, Booted start ∧
      Relation.ReflTransGen (Acts .none env fun _ => True) start.view state.view := by
  induction runs with
  | boot booted ran => exact ⟨_, booted, leads_ok init_any ran⟩
  | step _ _ ran ih =>
    obtain ⟨start, booted, chain⟩ := ih
    exact ⟨start, booted, chain.trans (leads_ok exec_any ran)⟩

theorem sccrq_refines : ∃ state, Reachable (sampleEnv (fun _ _ => none) 5) state ∧
    state.tunnels.length = 1 ∧ ∃ start, Booted start ∧ Relation.ReflTransGen
      (Acts .none (sampleEnv (fun _ _ => none) 5) fun _ => True) start.view state.view := by
  obtain ⟨state, reached, tested⟩ := @reachable_any (sampleEnv (fun _ _ => none) 5)
    [.datagram sampleSccrq] _ (fun state => state.tunnels.length = 1)
    (sampleStart_booted false) rfl (by decide +kernel)
  exact ⟨state, reached, of_decide_eq_true tested, runs_refine reached⟩

end Xl2tpd
