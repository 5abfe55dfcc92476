import Xl2tpd.Messages

/-!
# What the sender puts into control messages

The bodies of the messages as the sender's functions put them together, and the state of
the sender that their values come from.
-/

namespace Xl2tpd

set_option autoImplicit false

open Program

/-! ## The bodies -/

def sccrqBody (env : Env) (t : TunnelRef) : Prog Bytes := do
  let vector ← addVector env t
  let capabilities ← capabilityAvps env t
  let challenge ← openChallenge env t
  pure (addMessageTypeAvp .SCCRQ ++ vector ++ capabilities ++ challenge)

def sccrpBody (env : Env) (t : TunnelRef) (asked : Bool) : Prog (Option Bytes) := do
  let vector ← addVector env t
  let capabilities ← capabilityAvps env t
  let response ← respondSccrp env t
  let challenge ← challengeSccrp env t asked
  pure (challenge.map fun challenge =>
    addMessageTypeAvp .SCCRP ++ vector ++ capabilities ++ response ++ challenge)

def scccnBody (env : Env) (t : TunnelRef) (response : Bytes) : Prog Bytes := do
  let vector ← addVector env t
  pure (addMessageTypeAvp .SCCCN ++ vector ++ response)

def icrqBody (env : Env) (t : TunnelRef) (c : CallId) (ourcid : UInt16) : Prog Bytes := do
  let vector ← addVector env t
  let serno ← takeSerno t c
  pure (addMessageTypeAvp .ICRQ ++ vector ++ addCallidAvp ourcid ++ addSernoAvp serno ++
    addBearerAvp 0)

def icrpBody (env : Env) (t : TunnelRef) (ourcid : UInt16) : Prog Bytes := do
  let vector ← addVector env t
  pure (addMessageTypeAvp .ICRP ++ vector ++ addCallidAvp ourcid)

def iccnBody (env : Env) (t : TunnelRef) (txspeed frame rxspeed : Int) : Prog Bytes := do
  let vector ← addVector env t
  pure (addMessageTypeAvp .ICCN ++ vector ++ addTxspeedAvp txspeed ++ addFrameAvp frame ++
    addRxspeedAvp rxspeed)

section Sender

variable {env : Env} {t : TunnelRef} {c : CallId} {state after : Daemon} {tunnel : Tunnel}
  {avp : Bytes} {body : Bytes} {ss : Nat}

theorem initiateTunnel_body : initiateTunnel env t = (do
    adoptEntry t
    let body ← sccrqBody env t
    writeTunnel t fun tunnel => { tunnel with state := .SCCRQ }
    writeCall t .self fun call => { call with cnu := false }
    sendControl env t .self body) := by
  simp only [initiateTunnel, sccrqBody, bind_assoc, pure_bind]

theorem answerSccrq_body (entry : Lns) : answerSccrq env t c entry = (do
    writeTunnel t fun tunnel => { tunnel with state := .SCCRP }
    let body ← sccrpBody env t entry.challenge
    match body with
    | none => refuse t c "No secret on our side"
    | some body => do
        writeCall t c fun call => { call with cnu := false }
        sendControl env t c body
        pure true) := by
  simp only [answerSccrq, sccrpBody, bind_assoc, pure_bind]
  congr; funext _; congr; funext _; congr; funext _; congr; funext _; congr; funext challenge
  cases challenge <;> rfl

theorem answerSccrp_body (response : Bytes) : answerSccrp env t c response = (do
    establish t
    let body ← scccnBody env t response
    writeCall t c fun call => { call with cnu := false }
    sendControl env t c body
    connectPppol2tp env t
    scheduleHello t
    dialOn env t) := by
  simp only [answerSccrp, scccnBody, bind_assoc, pure_bind]

theorem sendIcrq_body : sendIcrq env t c = (do
    let call ← readCall t c
    let lbit ← entryLbit call
    writeCall t c fun call => { call with state := .ICRQ, lbit := lbit }
    let body ← icrqBody env t c call.ourcid
    writeCall t c fun call => { call with cnu := false }
    sendControl env t c body) := by
  simp only [sendIcrq, icrqBody, bind_assoc, pure_bind]

theorem answerIcrq_body (p : CallId) : answerIcrq env t p = (do
    let call ← readCall t p
    writeCall t p fun call => { call with state := .ICRP }
    let body ← icrpBody env t call.ourcid
    writeCall t p fun call => { call with cnu := false }
    sendControl env t p body
    pure true) := by
  simp only [answerIcrq, icrpBody, bind_assoc, pure_bind]

theorem finishIcrp_body : finishIcrp env t c = (do
    let tunnel ← readTunnel t
    let call ← readCall t c
    if call.cid < 0 then do
      writeCall t c fun call => { call with needclose := true }
      pure false
    else do
      let frame := preferredFrame tunnel.fc
      writeCall t c fun call => { call with state := .ICCN, frame := frame }
      let body ← iccnBody env t tunnel.txspeed frame tunnel.rxspeed
      writeCall t c fun call => { call with cnu := false }
      sendControl env t c body
      startLacPppd env t c baseOptions true) := by
  simp only [finishIcrp, iccnBody, bind_assoc, pure_bind]

structure SameEntries (state after : Daemon) : Prop where
  lnslist : after.lnslist = state.lnslist
  deflns : after.deflns = state.deflns
  laclist : after.laclist = state.laclist

theorem SameEntries.refl (state : Daemon) : SameEntries state state := ⟨rfl, rfl, rfl⟩

theorem SameEntries.trans {between : Daemon} (first : SameEntries state between)
    (second : SameEntries between after) : SameEntries state after :=
  ⟨second.lnslist.trans first.lnslist, second.deflns.trans first.deflns,
    second.laclist.trans first.laclist⟩

/-- A program that reads entries gives the same value where they are the same. -/
def ReadsEntries {Value : Type} (program : Prog Value) : Prop :=
  ∀ state after, SameEntries state after → ∀ value, program state = .ok value state →
    program after = .ok value after

theorem readsEntries_pure {Value : Type} (value : Value) : ReadsEntries (pure value) := by
  intro state after _ returned ran
  cases ran
  rfl

theorem readsEntries_bind {Value Other : Type} {program : Prog Value} {next : Value → Prog Other}
    (reads : Reads program) (first : ReadsEntries program)
    (rest : ∀ value, ReadsEntries (next value)) : ReadsEntries (program >>= next) := by
  intro state after same returned ran
  obtain ⟨value, read, ran⟩ := ok_reads reads ran
  rw [bind_run (first state after same value read)]
  exact rest value state after same returned ran

theorem readsEntries_lns (lns : LnsRef) : ReadsEntries (readLns lns) := by
  intro state after same entry ran
  have found : state.lns? lns = some entry := (deref_ok.mp ran).1
  apply deref_ok.mpr
  rw [← found]
  simp only [Daemon.lns?, same.lnslist, same.deflns, and_self]

theorem readsEntries_lac (lac : LacRef) : ReadsEntries (readLac lac) := by
  intro state after same entry ran
  have found : state.lac? lac = some entry := (deref_ok.mp ran).1
  apply deref_ok.mpr
  rw [← found]
  simp only [Daemon.lac?, same.laclist, and_self]

theorem readsEntries_lnsIf (lns : Option LnsRef) : ReadsEntries (readLnsIf lns) := by
  cases lns with
  | none => exact readsEntries_pure none
  | some lns =>
    exact readsEntries_bind (reads_deref _) (readsEntries_lns lns) fun _ => readsEntries_pure _

theorem readsEntries_lacIf (lac : Option LacRef) : ReadsEntries (readLacIf lac) := by
  cases lac with
  | none => exact readsEntries_pure none
  | some lac =>
    exact readsEntries_bind (reads_deref _) (readsEntries_lac lac) fun _ => readsEntries_pure _

theorem ourHostname_entries (env : Env) (tunnel : Tunnel) :
    ReadsEntries (ourHostname env tunnel) := by
  refine readsEntries_bind (reads_lacIf _) (readsEntries_lacIf _) fun lac => ?_
  split
  · exact readsEntries_pure _
  · refine readsEntries_bind (reads_lnsIf _) (readsEntries_lnsIf _) fun lns => ?_
    split
    · exact readsEntries_pure _
    · exact readsEntries_pure _

theorem ownerChallenge_entries (tunnel : Tunnel) : ReadsEntries (ownerChallenge tunnel) := by
  refine readsEntries_bind (reads_lacIf _) (readsEntries_lacIf _) fun lac => ?_
  split
  · exact readsEntries_pure _
  · exact readsEntries_bind (reads_lnsIf _) (readsEntries_lnsIf _) fun lns => readsEntries_pure _

def Tunnel.offer (tunnel : Tunnel) (hostname : Bytes) : Offer :=
  ⟨tunnel.ourfc, tunnel.ourbc, hostname, tunnel.ourtid, tunnel.ourrws⟩

def Tunnel.sentVector (tunnel : Tunnel) : Option Bytes :=
  if tunnel.hbit then tunnel.chalThem.vector else none

def Tunnel.sentResponse (tunnel : Tunnel) : Option Bytes :=
  if tunnel.chalUs.challenged then some tunnel.chalUs.response else none

/-- A later state of the sender: its entries, its offer, its vector and its peer's name
are the same. -/
structure Onward (t : TunnelRef) (state : Daemon) (tunnel : Tunnel) (after : Daemon)
    (later : Tunnel) : Prop where
  found : after.tunnel? t = some later
  entries : SameEntries state after
  offer : ∀ hostname, later.offer hostname = tunnel.offer hostname
  vector : later.sentVector = tunnel.sentVector
  lns : later.lns = tunnel.lns
  lac : later.lac = tunnel.lac
  peer : later.hostname = tunnel.hostname

theorem Onward.refl (found : state.tunnel? t = some tunnel) :
    Onward t state tunnel state tunnel :=
  ⟨found, .refl state, fun _ => rfl, rfl, rfl, rfl, rfl⟩

theorem Onward.trans {between : Daemon} {tunnel middle later : Tunnel}
    (first : Onward t state tunnel between middle) (second : Onward t between middle after later) :
    Onward t state tunnel after later :=
  ⟨second.found, first.entries.trans second.entries,
    fun hostname => (second.offer hostname).trans (first.offer hostname),
    second.vector.trans first.vector, second.lns.trans first.lns, second.lac.trans first.lac,
    second.peer.trans first.peer⟩

theorem Onward.setChal (found : state.tunnel? t = some tunnel) (side : ChalSide)
    (change : Challenge → Challenge) (keeps : ∀ chal, (change chal).vector = chal.vector) :
    Onward t state tunnel (state.setTunnel t fun tunnel => tunnel.setChal side change)
      (tunnel.setChal side change) := by
  have kept := keeps tunnel.chalThem
  refine ⟨?_, ⟨rfl, rfl, rfl⟩, ?_, ?_, ?_, ?_, ?_⟩
  · rw [tunnel_setTunnel fun tunnel => tunnel.setChal_ref side change, found]
    rfl
  · cases side <;> exact fun _ => rfl
  · cases side with
    | us => rfl
    | them => simp only [Tunnel.sentVector, Tunnel.setChal, kept]
  · cases side <;> rfl
  · cases side <;> rfl
  · cases side <;> rfl

theorem SameEntries.secret {tunnel later : Tunnel} (same : SameEntries state after)
    (lns : later.lns = tunnel.lns) (lac : later.lac = tunnel.lac)
    (peer : later.hostname = tunnel.hostname) :
    after.view.secret? env later.core = state.view.secret? env tunnel.core := by
  have lnsTerms : after.view.lns = state.view.lns := by
    funext lns
    simp only [Daemon.view, Daemon.lns?, same.lnslist, same.deflns]
  have lacTerms : after.view.lac = state.view.lac := by
    funext lac
    simp only [Daemon.view, Daemon.lac?, same.laclist]
  simp only [View.secret?, Tunnel.core, lnsTerms, lacTerms, lns, lac, peer]

theorem Onward.secret {tunnel later : Tunnel} (onward : Onward t state tunnel after later) :
    after.view.secret? env later.core = state.view.secret? env tunnel.core :=
  onward.entries.secret onward.lns onward.lac onward.peer

theorem Onward.hostname {tunnel later : Tunnel} {first second : Bytes}
    (onward : Onward t state tunnel after later)
    (early : ourHostname env tunnel state = .ok first state)
    (late : ourHostname env later after = .ok second after) : second = first := by
  have same : ourHostname env later = ourHostname env tunnel := by
    unfold ourHostname
    rw [onward.lns, onward.lac]
  rw [same, ourHostname_entries env tunnel state after onward.entries first early] at late
  cases late
  rfl

theorem Onward.asked {tunnel later : Tunnel} {first second : Bool}
    (onward : Onward t state tunnel after later)
    (early : ownerChallenge tunnel state = .ok first state)
    (late : ownerChallenge later after = .ok second after) : second = first := by
  have same : ownerChallenge later = ownerChallenge tunnel := by
    unfold ownerChallenge
    rw [onward.lns, onward.lac]
  rw [same, ownerChallenge_entries tunnel state after onward.entries first early] at late
  cases late
  rfl

/-! ## The parts of a message -/

theorem mkChallenge_length {count : Nat} {value : Bytes}
    (ran : mkChallenge env count state = .ok value after) :
    value.length = count ∧ after.tunnels = state.tunnels ∧ SameEntries state after := by
  cases ran
  exact ⟨by rw [List.length_map, List.length_range], rfl, rfl, rfl, rfl⟩

/-- The sender after `addVector`: a new vector may stand in its challenge. -/
structure Vectored (t : TunnelRef) (state : Daemon) (before : Tunnel) (after : Daemon)
    (later : Tunnel) : Prop where
  started : state.tunnel? t = some before
  found : after.tunnel? t = some later
  entries : SameEntries state after
  changed : ∃ vector, later = before.setChal .them fun chal => { chal with vector := vector }
  whole : ∀ value ∈ later.sentVector, value.length = vectorSize

theorem addVector_sent (ran : addVector env t state = .ok avp after) :
    ∃ before later, Vectored t state before after later ∧
      avp = optionalAvp addRandvectAvp later.sentVector := by
  obtain ⟨tunnel, found, ran⟩ := ok_readTunnel ran
  cases hidden : tunnel.hbit with
  | false =>
    rw [hidden, if_neg (by simp)] at ran
    cases ran
    have none : tunnel.sentVector = none := if_neg (by simp [hidden])
    refine ⟨tunnel, tunnel, ⟨found, found, .refl state, ⟨_, rfl⟩, ?_⟩, ?_⟩
    · rw [none]
      intro value member
      cases member
    · rw [none]
      rfl
  | true =>
    rw [hidden, if_pos rfl] at ran
    obtain ⟨value, drawn, drew, ran⟩ := bind_ok.mp ran
    obtain ⟨size, tunnels, entries⟩ := mkChallenge_length drew
    obtain ⟨_, _, ran⟩ := ok_writeTunnel ran
    cases ran
    have foundDrawn : drawn.tunnel? t = some tunnel := by
      rw [← found]
      simp only [Daemon.tunnel?, tunnels]
    let later := tunnel.setChal .them fun chal => { chal with vector := some value }
    have isVector : later.sentVector = some value := if_pos hidden
    refine ⟨tunnel, later, ⟨found, ?_, entries.trans ⟨rfl, rfl, rfl⟩, ⟨_, rfl⟩, ?_⟩, ?_⟩
    · refine (tunnel_setTunnel (by intro _; rfl)).trans ?_
      rw [foundDrawn]
      rfl
    · rw [isVector]
      intro other member
      cases member
      exact size
    · rw [isVector]
      rfl

theorem Vectored.secret {before later : Tunnel} (vectored : Vectored t state before after later) :
    after.view.secret? env later.core = state.view.secret? env before.core := by
  obtain ⟨vector, changed⟩ := vectored.changed
  rw [changed]
  exact vectored.entries.secret rfl rfl rfl

theorem capabilityAvps_sent {avps : Bytes} (found : state.tunnel? t = some tunnel)
    (ran : capabilityAvps env t state = .ok avps state) :
    ∃ hostname, ourHostname env tunnel state = .ok hostname state ∧
      avps = (tunnel.offer hostname).avps := by
  replace ran := ok_readTunnel_at found ran
  obtain ⟨hostname, named, ran⟩ := ok_reads (ourHostname_reads env tunnel) ran
  cases ran
  exact ⟨hostname, named, rfl⟩

theorem drawChallenge_sent {value : Bytes} (found : state.tunnel? t = some tunnel)
    (ran : drawChallenge env t state = .ok value after) :
    value.length = mdSigSize ∧
      Onward t state tunnel after
        (tunnel.setChal .them fun chal => { chal with challenge := some value }) := by
  obtain ⟨_, drawn, drew, ran⟩ := bind_ok.mp ran
  obtain ⟨size, tunnels, entries⟩ := mkChallenge_length drew
  obtain ⟨_, _, ran⟩ := ok_writeTunnel ran
  cases ran
  have foundDrawn : drawn.tunnel? t = some tunnel := by
    rw [← found]
    simp only [Daemon.tunnel?, tunnels]
  have set := Onward.setChal foundDrawn .them
    (fun chal => { chal with challenge := some value }) fun _ => rfl
  exact ⟨size, ⟨set.found, entries.trans ⟨rfl, rfl, rfl⟩, set.offer, set.vector, set.lns, set.lac,
    set.peer⟩⟩

theorem openChallenge_sent (found : state.tunnel? t = some tunnel)
    (ran : openChallenge env t state = .ok avp after) :
    ∃ asked later, ownerChallenge tunnel state = .ok asked state ∧
      Onward t state tunnel after later ∧
      avp = optionalAvp addChallengeAvp (if asked then later.chalThem.challenge else none) ∧
      (asked = true → ∃ value, value.length = mdSigSize ∧ later = tunnel.setChal .them fun chal =>
        { chal with challenge := some value, challenged := true }) ∧
      (asked = false → later = tunnel) := by
  replace ran := ok_readTunnel_at found ran
  obtain ⟨asked, asks, ran⟩ := ok_reads (ownerChallenge_reads tunnel) ran
  cases asked with
  | false =>
    rw [if_neg (by simp)] at ran
    cases ran
    exact ⟨false, tunnel, asks, .refl found, rfl, by simp, fun _ => rfl⟩
  | true =>
    rw [if_pos rfl] at ran
    obtain ⟨value, drawn, drew, ran⟩ := bind_ok.mp ran
    obtain ⟨size, first⟩ := drawChallenge_sent found drew
    obtain ⟨_, _, ran⟩ := ok_writeTunnel ran
    cases ran
    have second := Onward.setChal first.found .them
      (fun chal => { chal with challenged := true }) fun _ => rfl
    exact ⟨true, _, asks, first.trans second, rfl, fun _ => ⟨value, size, rfl⟩, by simp⟩

/-- The challenge after `handle_challenge`, with the secret it found. -/
def Challenge.answered (env : Env) (secret : Option Bytes) (chal : Challenge) : Challenge :=
  match secret with
  | none => chal
  | some secret => chal.answer env secret

theorem Challenge.answered_challenged {secret : Option Bytes} {chal : Challenge}
    (asked : chal.challenged = true) : (chal.answered env secret).challenged = true := by
  cases secret with
  | none => exact asked
  | some secret => rfl

theorem Tunnel.setChal_setChal (tunnel : Tunnel) (side : ChalSide)
    (first second : Challenge → Challenge) :
    (tunnel.setChal side first).setChal side second =
      tunnel.setChal side fun chal => second (first chal) := by
  cases side <;> rfl

theorem handleChallenge_sent {side : ChalSide} {success : Bool}
    (found : state.tunnel? t = some tunnel)
    (ran : handleChallenge env t side state = .ok success after) :
    success = (state.view.secret? env tunnel.core).isSome ∧
      Onward t state tunnel after
        (tunnel.setChal side (Challenge.answered env (state.view.secret? env tunnel.core))) := by
  obtain ⟨_, here, changed⟩ := handleChallenge_ok ran
  rw [found] at here
  cases here
  cases success with
  | false =>
    rw [if_neg (by simp)] at changed
    obtain ⟨missing, rfl⟩ := changed
    have same : tunnel.setChal side (Challenge.answered env none) = tunnel := by
      cases side <;> rfl
    rw [missing, same]
    exact ⟨rfl, .refl found⟩
  | true =>
    rw [if_pos rfl] at changed
    obtain ⟨secret, known, rfl⟩ := changed
    rw [known]
    exact ⟨rfl, .setChal found side _ fun _ => rfl⟩

/-- The two steps that every branch takes to a digest: the message's number is set, the
secret is looked up. -/
theorem ok_answer {side : ChalSide} {Value : Type} {value : Value} {next : Bool → Prog Value}
    (found : state.tunnel? t = some tunnel)
    (ran : (writeTunnel t (fun tunnel => tunnel.setChal side fun chal => { chal with ss := ss }) >>=
      fun _ => handleChallenge env t side >>= next) state = .ok value after) :
    ∃ computed, Onward t state tunnel computed (tunnel.setChal side fun chal =>
        Challenge.answered env (state.view.secret? env tunnel.core) { chal with ss := ss }) ∧
      next (state.view.secret? env tunnel.core).isSome computed = .ok value after := by
  obtain ⟨_, _, ran⟩ := ok_writeTunnel ran
  have first := Onward.setChal found side (fun chal => { chal with ss := ss }) fun _ => rfl
  obtain ⟨success, computed, answered, ran⟩ := bind_ok.mp ran
  obtain ⟨known, second⟩ := handleChallenge_sent first.found answered
  rw [first.secret] at second known
  rw [known] at ran
  have both := first.trans second
  rw [Tunnel.setChal_setChal] at both
  exact ⟨computed, both, ran⟩

/-- The digest over our secret, or the old contents of the array where there is none. -/
def Tunnel.responding (env : Env) (ss : Nat) (secret : Option Bytes) (tunnel : Tunnel) : Tunnel :=
  if tunnel.chalUs.challenged then
    tunnel.setChal .us fun chal => Challenge.answered env secret { chal with ss := ss }
  else tunnel

theorem Tunnel.responding_some {secret : Option Bytes} (asked : tunnel.chalUs.challenged = true) :
    tunnel.responding env ss secret =
      tunnel.setChal .us fun chal => Challenge.answered env secret { chal with ss := ss } :=
  if_pos asked

theorem Tunnel.responding_none {secret : Option Bytes} (quiet : tunnel.chalUs.challenged = false) :
    tunnel.responding env ss secret = tunnel :=
  if_neg (by simp [quiet])

theorem Tunnel.responding_sent {secret : Option Bytes} (asked : tunnel.chalUs.challenged = true) :
    (tunnel.responding env ss secret).sentResponse =
      some (tunnel.responding env ss secret).chalUs.response := by
  have still : (Challenge.answered env secret { tunnel.chalUs with ss := ss }).challenged = true :=
    Challenge.answered_challenged asked
  rw [Tunnel.responding_some asked]
  exact if_pos still

theorem respondSccrp_sent (found : state.tunnel? t = some tunnel)
    (ran : respondSccrp env t state = .ok avp after) :
    let later := tunnel.responding env 2 (state.view.secret? env tunnel.core)
    Onward t state tunnel after later ∧ avp = optionalAvp addChalrespAvp later.sentResponse := by
  replace ran := ok_readTunnel_at found ran
  cases asked : tunnel.chalUs.challenged with
  | false =>
    rw [asked, if_neg (by simp)] at ran
    cases ran
    rw [Tunnel.responding_none asked]
    refine ⟨.refl found, ?_⟩
    simp [Tunnel.sentResponse, asked, optionalAvp]
  | true =>
    rw [asked, if_pos rfl] at ran
    obtain ⟨computed, onward, ran⟩ := ok_answer found ran
    replace ran := ok_readTunnel_at onward.found ran
    cases ran
    rw [← Tunnel.responding_some asked] at onward
    refine ⟨onward, ?_⟩
    rw [Tunnel.responding_sent asked, Tunnel.responding_some asked]
    rfl

theorem respondScccn_sent (found : state.tunnel? t = some tunnel)
    (ran : respondScccn env t state = .ok (some avp) after) :
    let later := tunnel.responding env 3 (state.view.secret? env tunnel.core)
    Onward t state tunnel after later ∧ avp = optionalAvp addChalrespAvp later.sentResponse ∧
      (tunnel.chalUs.challenged = true → (state.view.secret? env tunnel.core).isSome) := by
  replace ran := ok_readTunnel_at found ran
  cases asked : tunnel.chalUs.challenged with
  | false =>
    rw [asked, if_neg (by simp)] at ran
    cases ran
    rw [Tunnel.responding_none asked]
    refine ⟨.refl found, ?_, by simp⟩
    simp [Tunnel.sentResponse, asked, optionalAvp]
  | true =>
    rw [asked, if_pos rfl] at ran
    obtain ⟨computed, onward, ran⟩ := ok_answer found ran
    replace ran := ok_readTunnel_at onward.found ran
    cases secret : (state.view.secret? env tunnel.core).isSome with
    | false =>
      rw [secret] at ran
      cases ran
    | true =>
      rw [secret] at ran
      cases ran
      rw [← Tunnel.responding_some asked] at onward
      refine ⟨onward, ?_, fun _ => rfl⟩
      rw [Tunnel.responding_sent asked, Tunnel.responding_some asked]
      rfl

theorem challengeSccrp_sent {asked : Bool} (found : state.tunnel? t = some tunnel)
    (ran : challengeSccrp env t asked state = .ok (some avp) after) :
    ∃ later, Onward t state tunnel after later ∧
      avp = optionalAvp addChallengeAvp (if asked then later.chalThem.challenge else none) ∧
      (asked = true → ∃ value secret, value.length = mdSigSize ∧
        state.view.secret? env tunnel.core = some secret ∧
        later = tunnel.setChal .them fun chal =>
          Challenge.answer env secret { chal with challenge := some value, ss := 3 }) ∧
      (asked = false → later = tunnel) := by
  cases asked with
  | false =>
    cases ran
    exact ⟨tunnel, .refl found, rfl, by simp, fun _ => rfl⟩
  | true =>
    unfold challengeSccrp at ran
    rw [if_pos rfl] at ran
    obtain ⟨value, drawn, drew, ran⟩ := bind_ok.mp ran
    obtain ⟨size, first⟩ := drawChallenge_sent found drew
    obtain ⟨computed, second, ran⟩ := ok_answer first.found ran
    rw [first.secret] at second ran
    cases known : state.view.secret? env tunnel.core with
    | none =>
      rw [known] at ran
      cases ran
    | some secret =>
      rw [known] at second ran
      cases ran
      refine ⟨_, first.trans second, rfl, fun _ => ?_, by simp⟩
      exact ⟨value, secret, size, rfl, rfl⟩

/-! ## Whole messages -/

theorem Tunnel.sentResponse_size (array : tunnel.chalUs.response.length = mdSigSize) :
    ∀ value ∈ tunnel.sentResponse, value.length = mdSigSize := by
  intro value member
  unfold Tunnel.sentResponse at member
  split at member
  · cases member
    exact array
  · cases member

theorem tunnel_of_setCall {tunnel later : Tunnel} {change : Call → Call}
    (found : state.tunnel? t = some tunnel)
    (foundLater : (state.setCall t c change).tunnel? t = some later) :
    later = tunnel.setCall c change := by
  rw [tunnel_setCall found] at foundLater
  cases foundLater
  rfl

theorem Tunnel.sentVector_setCall (tunnel : Tunnel) (c : CallId) (change : Call → Call) :
    (tunnel.setCall c change).sentVector = tunnel.sentVector := by
  cases c <;> rfl

theorem sccrqBody_sent (ran : sccrqBody env t state = .ok body after) :
    ∃ before vectored first hostname asked later, Vectored t state before vectored first ∧
      ourHostname env first vectored = .ok hostname vectored ∧
      ownerChallenge first vectored = .ok asked vectored ∧
      Onward t vectored first after later ∧
      (asked = true → ∃ value, value.length = mdSigSize ∧ later = first.setChal .them fun chal =>
        { chal with challenge := some value, challenged := true }) ∧
      (asked = false → later = first) ∧
      body = (Message.sccrq (later.offer hostname)
        (if asked then later.chalThem.challenge else none)).body later.sentVector := by
  unfold sccrqBody at ran
  obtain ⟨vector, vectored, drew, ran⟩ := bind_ok.mp ran
  obtain ⟨before, first, hides, isVector⟩ := addVector_sent drew
  obtain ⟨capabilities, told, ran⟩ := ok_reads (capabilityAvps_reads env t) ran
  obtain ⟨hostname, named, isOffer⟩ := capabilityAvps_sent hides.found told
  obtain ⟨challenge, _, opened, ran⟩ := bind_ok.mp ran
  cases ran
  obtain ⟨asked, later, asks, onward, isChallenge, drawn, quiet⟩ :=
    openChallenge_sent hides.found opened
  refine ⟨before, vectored, first, hostname, asked, later, hides, named, asks, onward, drawn,
    quiet, ?_⟩
  rw [isVector, isOffer, isChallenge, ← onward.vector, ← onward.offer]
  simp only [Message.body, Message.avps, Message.type, List.append_assoc]

theorem sccrpBody_sent {asked : Bool} (ran : sccrpBody env t asked state = .ok (some body) after) :
    ∃ before vectored first hostname later, Vectored t state before vectored first ∧
      ourHostname env first vectored = .ok hostname vectored ∧
      Onward t vectored first after later ∧
      (asked = true → ∃ value secret, value.length = mdSigSize ∧
        state.view.secret? env before.core = some secret ∧
        later = (first.responding env 2 (state.view.secret? env before.core)).setChal .them
          fun chal => Challenge.answer env secret { chal with challenge := some value, ss := 3 }) ∧
      (asked = false → later = first.responding env 2 (state.view.secret? env before.core)) ∧
      later.sentResponse =
        (first.responding env 2 (state.view.secret? env before.core)).sentResponse ∧
      body = (Message.sccrp (later.offer hostname) later.sentResponse
        (if asked then later.chalThem.challenge else none)).body later.sentVector := by
  unfold sccrpBody at ran
  obtain ⟨vector, vectored, drew, ran⟩ := bind_ok.mp ran
  obtain ⟨before, first, hides, isVector⟩ := addVector_sent drew
  obtain ⟨capabilities, told, ran⟩ := ok_reads (capabilityAvps_reads env t) ran
  obtain ⟨hostname, named, isOffer⟩ := capabilityAvps_sent hides.found told
  obtain ⟨response, answered, respond, ran⟩ := bind_ok.mp ran
  obtain ⟨responds, isResponse⟩ := respondSccrp_sent hides.found respond
  obtain ⟨challenge, _, opened, ran⟩ := bind_ok.mp ran
  cases challenge with
  | none => cases ran
  | some challenge =>
    cases ran
    obtain ⟨later, second, isChallenge, drawn, quiet⟩ :=
      challengeSccrp_sent responds.found opened
    have onward := responds.trans second
    rw [responds.secret] at drawn
    rw [hides.secret] at drawn quiet isResponse
    have same : later.sentResponse =
        (first.responding env 2 (state.view.secret? env before.core)).sentResponse := by
      cases asked with
      | false => rw [quiet rfl]
      | true =>
        obtain ⟨value, secret, _, _, changed⟩ := drawn rfl
        rw [changed]
        rfl
    refine ⟨before, vectored, first, hostname, later, hides, named, onward, drawn, quiet, same,
      ?_⟩
    rw [isVector, isOffer, isResponse, isChallenge, ← onward.vector, ← onward.offer, ← same]
    simp only [Message.body, Message.avps, Message.type, List.append_assoc]

theorem establish_tunnel (found : state.tunnel? t = some tunnel)
    (ran : establish t state = .ok () after) :
    after.tunnel? t = some { tunnel with state := .SCCCN } ∧ SameEntries state after := by
  obtain ⟨_, _, ran⟩ := ok_writeTunnel ran
  have changed : (state.setTunnel t fun tunnel => { tunnel with state := .SCCCN }).tunnel? t =
      some { tunnel with state := .SCCCN } := by
    refine (tunnel_setTunnel (by intro _; rfl)).trans ?_
    rw [found]
    rfl
  obtain ⟨_, _, ran⟩ := ok_readTunnel ran
  cases ran
  exact ⟨changed, rfl, rfl, rfl⟩

theorem scccnBody_sent {tunnel earlier : Tunnel} {body response : Bytes}
    {between answered : Daemon} (here : between.tunnel? t = some earlier)
    (responded : respondScccn env t between = .ok (some response) answered)
    (established : establish t answered = .ok () state)
    (ran : scccnBody env t response state = .ok body after)
    (found : after.tunnel? t = some tunnel) :
    body = (Message.scccn tunnel.sentResponse).body tunnel.sentVector ∧
      tunnel.sentResponse =
        (earlier.responding env 3 (between.view.secret? env earlier.core)).sentResponse ∧
      ∀ value ∈ tunnel.sentVector, value.length = vectorSize := by
  obtain ⟨onward, isResponse, _⟩ := respondScccn_sent here responded
  obtain ⟨foundState, _⟩ := establish_tunnel onward.found established
  obtain ⟨_, _, drew, ran⟩ := bind_ok.mp ran
  cases ran
  obtain ⟨before, later, hides, isVector⟩ := addVector_sent drew
  rw [hides.found] at found
  cases found
  have started := hides.started
  rw [foundState] at started
  cases started
  have same : tunnel.sentResponse =
      (earlier.responding env 3 (between.view.secret? env earlier.core)).sentResponse := by
    obtain ⟨vector, changed⟩ := hides.changed
    rw [changed]
    rfl
  refine ⟨?_, same, hides.whole⟩
  rw [isVector, isResponse, ← same]
  rfl

theorem stopCcnBody_sent (ran : stopCcnBody env t state = .ok body after)
    (found : after.tunnel? t = some tunnel) :
    body = (Message.stopccn tunnel.ourtid tunnel.self.result tunnel.self.error
        tunnel.self.errormsg).body tunnel.sentVector ∧
      ∀ value ∈ tunnel.sentVector, value.length = vectorSize := by
  obtain ⟨_, vectored, drew, ran⟩ := bind_ok.mp ran
  obtain ⟨_, first, hides, isVector⟩ := addVector_sent drew
  obtain ⟨_, _, _, _, ran⟩ := ok_writeCall ran
  obtain ⟨_, here, ran⟩ := ok_readTunnel ran
  cases ran
  rw [found] at here
  cases here
  cases tunnel_of_setCall hides.found found
  refine ⟨?_, hides.whole⟩
  rw [isVector]
  simp only [Message.body, Message.avps, Message.type, List.append_assoc]
  rfl

theorem cdnBody_sent {call : Call} (ran : cdnBody env t c state = .ok body after)
    (found : after.tunnel? t = some tunnel) (foundCall : tunnel.call? c = some call) :
    body = (Message.cdn call.result call.error call.errormsg call.ourcid).body tunnel.sentVector ∧
      ∀ value ∈ tunnel.sentVector, value.length = vectorSize := by
  obtain ⟨_, vectored, drew, ran⟩ := bind_ok.mp ran
  obtain ⟨_, first, hides, isVector⟩ := addVector_sent drew
  obtain ⟨_, _, _, _, ran⟩ := ok_writeCall ran
  obtain ⟨_, _, here, hereCall, ran⟩ := ok_readCall ran
  cases ran
  rw [found] at here
  cases here
  rw [foundCall] at hereCall
  cases hereCall
  cases tunnel_of_setCall hides.found found
  rw [Tunnel.sentVector_setCall, isVector]
  refine ⟨?_, hides.whole⟩
  simp only [Message.body, Message.avps, Message.type, List.append_assoc]

theorem icrqBody_sent {call : Call} (ran : icrqBody env t c call.ourcid state = .ok body after)
    (found : after.tunnel? t = some tunnel) (foundCall : tunnel.call? c = some call) :
    body = (Message.icrq call.ourcid call.serno).body tunnel.sentVector ∧
      ∀ value ∈ tunnel.sentVector, value.length = vectorSize := by
  obtain ⟨_, vectored, drew, ran⟩ := bind_ok.mp ran
  obtain ⟨_, first, hides, isVector⟩ := addVector_sent drew
  obtain ⟨serno, numbered, took, ran⟩ := bind_ok.mp ran
  cases ran
  obtain ⟨_, _, _, _, took⟩ := ok_writeCall took
  cases took
  cases tunnel_of_setCall hides.found found
  -- The number that was taken stands in the call by now.
  have isSerno : call.serno = vectored.globalSerno := by
    rw [Tunnel.call_setCall] at foundCall
    · obtain ⟨_, _, rfl⟩ := Option.map_eq_some_iff.mp foundCall
      rfl
    · exact fun _ => rfl
  rw [Tunnel.sentVector_setCall, isVector, isSerno]
  refine ⟨?_, hides.whole⟩
  simp only [Message.body, Message.avps, Message.type, List.append_assoc]

end Sender

end Xl2tpd
