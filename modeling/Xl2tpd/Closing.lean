import Xl2tpd.Simulation

/-!
# Closing

What `call_close` does to the lists of tunnels and calls, as long as a message is tried at least
once: what is closing already it destroys, and what is not it marks.
-/

namespace Xl2tpd

set_option autoImplicit false

open Program

variable {env : Env} {state after : Daemon} {t : TunnelRef} {c : CallId} {Value Other : Type}
  {change : Tunnel → Tunnel}

/-! ## Marks -/

structure CallMark where
  ref : CallRef
  needclose : Bool
  closing : Bool
  lns : Option LnsRef
  lac : Option LacRef
  deriving DecidableEq, Repr

structure TunnelMark where
  ref : TunnelRef
  self : CallMark
  lns : Option LnsRef
  lac : Option LacRef
  calls : List CallMark
  deriving DecidableEq, Repr

def Call.mark (call : Call) : CallMark :=
  ⟨call.ref, call.needclose, call.closing, call.lns, call.lac⟩

def Tunnel.mark (tunnel : Tunnel) : TunnelMark :=
  ⟨tunnel.ref, tunnel.self.mark, tunnel.lns, tunnel.lac, tunnel.calls.map Call.mark⟩

structure Stock where
  lns : LnsRef → Bool
  lac : LacRef → Bool

def Stock.anchors (stock : Stock) (lns : Option LnsRef) (lac : Option LacRef) : Bool :=
  lns.all stock.lns && lac.all stock.lac

def CallMark.anchored (mark : CallMark) (stock : Stock) : Bool := stock.anchors mark.lns mark.lac

def TunnelMark.anchored (mark : TunnelMark) (stock : Stock) : Bool :=
  stock.anchors mark.lns mark.lac

structure Shape where
  marks : List TunnelMark
  stock : Stock

def Daemon.stock (state : Daemon) : Stock where
  lns lns := (state.lns? lns).isSome
  lac lac := (state.lac? lac).isSome

def Daemon.shape (state : Daemon) : Shape := ⟨state.tunnels.map Tunnel.mark, state.stock⟩

theorem mark_setCall {tunnel : Tunnel} {change : Call → Call}
    (keeps : ∀ call, (change call).mark = call.mark) :
    (tunnel.setCall c change).mark = tunnel.mark := by
  cases c with
  | self =>
    unfold Tunnel.mark Tunnel.setCall
    rw [keeps]
  | call ref =>
    have image : (Keyed.update Call.ref ref change tunnel.calls).map Call.mark =
        tunnel.calls.map Call.mark := Keyed.map_update_same keeps
    unfold Tunnel.mark Tunnel.setCall
    rw [image]

theorem shape_setTunnel {effect : TunnelMark → TunnelMark}
    (shows : ∀ tunnel, state.tunnel? t = some tunnel →
      (change tunnel).mark = effect tunnel.mark) :
    (state.setTunnel t change).shape =
      ⟨Keyed.update TunnelMark.ref t effect state.shape.marks, state.stock⟩ := by
  have image : (Keyed.update Tunnel.ref t change state.tunnels).map Tunnel.mark =
      Keyed.update TunnelMark.ref t effect state.shape.marks :=
    Keyed.map_update (fun _ => rfl) shows
  exact congrArg (Shape.mk · state.stock) image

theorem shape_setTunnel_same (keeps : ∀ tunnel, (change tunnel).mark = tunnel.mark) :
    (state.setTunnel t change).shape = state.shape := by
  have image : (Keyed.update Tunnel.ref t change state.tunnels).map Tunnel.mark =
      state.tunnels.map Tunnel.mark := Keyed.map_update_same keeps
  exact congrArg (Shape.mk · state.stock) image

theorem stock_setLac {lac : LacRef} {change : Lac → Lac}
    (keeps : ∀ entry, (change entry).ref = entry.ref) :
    (state.setLac lac change).stock = state.stock := by
  have same (ref : LacRef) : ((state.setLac lac change).lac? ref).isSome =
      (state.lac? ref).isSome := by
    change (Keyed.find Lac.ref ref (Keyed.update Lac.ref lac change state.laclist)).isSome =
      (Keyed.find Lac.ref ref state.laclist).isSome
    rw [Keyed.find_update keeps]
    split
    · rw [Option.isSome_map]
    · rfl
  exact congrArg (Stock.mk state.stock.lns) (funext same)

theorem stock_setLns {lns : LnsRef} {change : Lns → Lns}
    (keeps : ∀ entry, (change entry).ref = entry.ref) :
    (state.setLns lns change).stock = state.stock := by
  have same (ref : LnsRef) : ((state.setLns lns change).lns? ref).isSome =
      (state.lns? ref).isSome := by
    rw [lns_setLns keeps]
    split
    · rw [Option.isSome_map]
    · rfl
  exact congrArg (Stock.mk · state.stock.lac) (funext same)

/-! ## Lookups -/

def Daemon.Has (state : Daemon) (t : TunnelRef) (c : CallId) : Prop :=
  ∃ tunnel call, state.tunnel? t = some tunnel ∧ tunnel.call? c = some call

theorem shape_tunnel (state : Daemon) (t : TunnelRef) :
    Keyed.find TunnelMark.ref t state.shape.marks = (state.tunnel? t).map Tunnel.mark :=
  Keyed.find_map fun _ => rfl

theorem mark_call (tunnel : Tunnel) (ref : CallRef) :
    Keyed.find CallMark.ref ref tunnel.mark.calls =
      (tunnel.call? (.call ref)).map Call.mark :=
  Keyed.find_map fun _ => rfl

theorem tunnel_of_shape {mark : TunnelMark}
    (found : Keyed.find TunnelMark.ref t state.shape.marks = some mark) :
    ∃ tunnel, state.tunnel? t = some tunnel ∧ tunnel.mark = mark := by
  rw [shape_tunnel] at found
  exact Option.map_eq_some_iff.mp found

theorem call_of_mark {tunnel : Tunnel} {ref : CallRef} {mark : CallMark}
    (found : Keyed.find CallMark.ref ref tunnel.mark.calls = some mark) :
    ∃ call, tunnel.call? (.call ref) = some call ∧ call.mark = mark := by
  rw [mark_call] at found
  exact Option.map_eq_some_iff.mp found

theorem call_of_shape (same : after.shape = state.shape) {tunnel : Tunnel} {call : Call}
    (found : state.tunnel? t = some tunnel) (foundCall : tunnel.call? c = some call) :
    ∃ later laterCall, after.tunnel? t = some later ∧ later.call? c = some laterCall ∧
      laterCall.mark = call.mark := by
  have marked : Keyed.find TunnelMark.ref t after.shape.marks = some tunnel.mark := by
    rw [same, shape_tunnel, found]
    rfl
  obtain ⟨later, foundLater, mark⟩ := tunnel_of_shape marked
  cases c with
  | self =>
    cases foundCall
    exact ⟨later, later.self, foundLater, rfl, congrArg TunnelMark.self mark⟩
  | call ref =>
    have listed : Keyed.find CallMark.ref ref later.mark.calls = some call.mark := by
      rw [mark, mark_call, foundCall]
      rfl
    obtain ⟨laterCall, foundLaterCall, own⟩ := call_of_mark listed
    exact ⟨later, laterCall, foundLater, foundLaterCall, own⟩

theorem Daemon.Has.congr (has : state.Has t c) (same : after.shape = state.shape) :
    after.Has t c := by
  obtain ⟨tunnel, call, found, foundCall⟩ := has
  obtain ⟨later, laterCall, foundLater, foundLaterCall, _⟩ := call_of_shape same found foundCall
  exact ⟨later, laterCall, foundLater, foundLaterCall⟩

/-! ## Programs that leave the shape alone -/

abbrev Quietly (program : Prog Value) (state : Daemon) : Prop :=
  Returns program state fun _ after => after.shape = state.shape

theorem quietly_pure (value : Value) : Quietly (pure value : Prog Value) state :=
  returns_ok rfl rfl

theorem quietly_bind {program : Prog Value} {next : Value → Prog Other}
    (first : Quietly program state)
    (rest : ∀ value after, after.shape = state.shape → Quietly (next value) after) :
    Quietly (program >>= next) state := by
  refine returns_bind (returns_mono first fun value after same => ?_)
  exact returns_mono (rest value after same) fun _ _ later => later.trans same

theorem quietly_readTunnel (has : state.Has t c) : Quietly (readTunnel t) state := by
  obtain ⟨tunnel, call, found, _⟩ := has
  exact returns_ok (readTunnel_run found) rfl

theorem quietly_readCall (has : state.Has t c) : Quietly (readCall t c) state := by
  obtain ⟨tunnel, call, found, foundCall⟩ := has
  exact returns_ok (readCall_run (some_call found foundCall)) rfl

theorem quietly_writeTunnel (has : state.Has t c)
    (keeps : ∀ tunnel, (change tunnel).mark = tunnel.mark) :
    Quietly (writeTunnel t change) state := by
  obtain ⟨tunnel, call, found, _⟩ := has
  exact returns_ok (writeTunnel_run found) (shape_setTunnel_same keeps)

theorem quietly_writeCall {change : Call → Call} (has : state.Has t c)
    (keeps : ∀ call, (change call).mark = call.mark) :
    Quietly (writeCall t c change) state := by
  obtain ⟨tunnel, call, found, foundCall⟩ := has
  exact returns_ok (writeCall_run (some_call found foundCall))
    (shape_setTunnel_same fun _ => mark_setCall keeps)

theorem quietly_modify {change : Daemon → Daemon} (same : (change state).shape = state.shape) :
    Quietly (modify change) state := returns_ok rfl same

theorem quietly_whenever {condition : Bool} {action : Prog Unit} (quiet : Quietly action state) :
    Quietly (whenever condition action) state := by
  cases condition with
  | false => exact quietly_pure ()
  | true => exact quiet

theorem quietly_udpXmit {buffer : Buffer} (has : state.Has buffer.tunnel c) :
    Quietly (udpXmit buffer) state :=
  quietly_bind (quietly_readTunnel has) fun _ _ _ => quietly_modify rfl

theorem addControlHdr_returns {body : Bytes} (has : state.Has t c) :
    Returns (addControlHdr t c body) state fun buffer after =>
      after.shape = state.shape ∧ buffer.tunnel = t ∧ buffer.retries = 0 := by
  obtain ⟨tunnel, call, found, foundCall⟩ := has
  refine returns_bind (returns_ok (readTunnel_run found) ?_)
  refine returns_bind (returns_ok (readCall_run (some_call found foundCall)) ?_)
  refine returns_bind (returns_ok (writeTunnel_run found) ?_)
  exact returns_ok rfl ⟨shape_setTunnel_same fun _ => rfl, rfl, rfl⟩

section Sending

variable (retries : 1 ≤ env.maxRetries) {callClose : TunnelRef → CallId → Prog Unit}

include retries

theorem quietly_controlXmit {buffer : Buffer} (has : state.Has buffer.tunnel c)
    (first : buffer.retries = 0) : Quietly (controlXmitWith env callClose buffer) state := by
  refine quietly_bind (quietly_readTunnel has) fun tunnel after same => ?_
  split
  · exact quietly_modify rfl
  · rw [if_neg (by rw [Buffer.tried, first]; exact Nat.not_lt.mpr retries)]
    exact quietly_bind (returns_ok rfl rfl) fun _ _ later =>
      quietly_udpXmit ((has.congr same).congr later)

theorem quietly_sendControl {body : Bytes} (has : state.Has t c) :
    Quietly (sendControlWith env callClose t c body) state := by
  refine returns_bind (returns_mono (addControlHdr_returns has) fun buffer after headed => ?_)
  obtain ⟨same, owner, first⟩ := headed
  have still : Quietly (do
      emit (.numbered t buffer.header.Ns body)
      controlXmitWith env callClose buffer) after :=
    quietly_bind (quietly_modify rfl) fun _ _ later => by
      refine quietly_controlXmit retries (c := c) ?_ first
      rw [owner]
      exact (has.congr same).congr later
  exact returns_mono still fun _ _ later => later.trans same

end Sending

theorem quietly_addVector (has : state.Has t c) : Quietly (addVector env t) state := by
  refine quietly_bind (quietly_readTunnel has) fun tunnel after same => ?_
  split
  · refine quietly_bind (returns_ok rfl rfl) fun _ _ later => ?_
    exact quietly_bind (quietly_writeTunnel ((has.congr same).congr later) fun _ => rfl)
      fun _ _ _ => quietly_pure _
  · exact quietly_pure _

theorem quietly_cdnBody (has : state.Has t c) : Quietly (cdnBody env t c) state := by
  refine quietly_bind (quietly_addVector has) fun _ _ first => ?_
  refine quietly_bind (quietly_writeCall (has.congr first) fun _ => rfl) fun _ _ second => ?_
  exact quietly_bind (quietly_readCall ((has.congr first).congr second)) fun _ _ _ =>
    quietly_pure _

theorem quietly_stopCcnBody (has : state.Has t .self) : Quietly (stopCcnBody env t) state := by
  refine quietly_bind (quietly_addVector has) fun _ _ first => ?_
  refine quietly_bind (quietly_writeCall (has.congr first) fun _ => rfl) fun _ _ second => ?_
  exact quietly_bind (quietly_readTunnel ((has.congr first).congr second)) fun _ _ _ =>
    quietly_pure _

/-! ## Destroying -/

section Destroying

variable {lns : Option LnsRef} {lac : Option LacRef} {shape : Shape} {ref : LacRef}

theorem deref_settles (pointer : Daemon → Option Value) :
    Settles ((pointer state).isSome = true) .freed (deref pointer) state fun _ after =>
      after = state := by
  refine ⟨fun there => ?_, fun missing => ?_⟩
  · obtain ⟨value, found⟩ := Option.isSome_iff_exists.mp there
    exact returns_ok (deref_ok.mpr ⟨found, rfl⟩) rfl
  · exact ⟨state, deref_stuck (by simpa using missing)⟩

section

variable (here : state.shape = shape)

include here

theorem readLns_settles {ref : LnsRef} :
    Settles (shape.stock.lns ref = true) .freed (readLns ref) state fun _ after =>
      after.shape = shape := by
  subst here
  refine settles_mono (deref_settles fun state => state.lns? ref) ?_
  rintro _ _ rfl
  rfl

theorem readLac_settles :
    Settles (shape.stock.lac ref = true) .freed (readLac ref) state fun _ after =>
      after.shape = shape := by
  subst here
  refine settles_mono (deref_settles fun state => state.lac? ref) ?_
  rintro _ _ rfl
  rfl

theorem writeLns_settles {ref : LnsRef} {change : Lns → Lns}
    (keeps : ∀ entry, (change entry).ref = entry.ref) :
    Settles (shape.stock.lns ref = true) .freed (writeLns ref change) state
      fun _ after => after.shape = shape := by
  refine settles_iff (iff_of_eq (and_true _)) (settles_bind ?_)
  refine settles_mono (readLns_settles here) fun _ after same => settles_returns ?_
  exact returns_ok rfl ((congrArg (Shape.mk _) (stock_setLns keeps)).trans same)

theorem writeLac_settles {change : Lac → Lac} (keeps : ∀ entry, (change entry).ref = entry.ref) :
    Settles (shape.stock.lac ref = true) .freed (writeLac ref change) state
      fun _ after => after.shape = shape := by
  refine settles_iff (iff_of_eq (and_true _)) (settles_bind ?_)
  refine settles_mono (readLac_settles here) fun _ after same => settles_returns ?_
  exact returns_ok rfl ((congrArg (Shape.mk _) (stock_setLac keeps)).trans same)

theorem releaseLocalAddr_settles :
    Settles (lns.all shape.stock.lns = true) .freed (releaseLocalAddr lns) state
      fun _ after => after.shape = shape := by
  cases lns with
  | none => exact settles_iff (by simp) (settles_returns (returns_ok rfl here))
  | some lns =>
    refine settles_iff (iff_of_eq (and_true _)) (settles_bind ?_)
    refine settles_mono (readLns_settles here) fun _ after same => settles_returns ?_
    exact returns_mono (quietly_whenever (quietly_modify rfl)) fun _ _ last => last.trans same

theorem releaseCall_settles {call : Call} :
    Settles (call.lns.all shape.stock.lns = true) .freed (releaseCall call) state
      fun _ after => after.shape = shape := by
  refine settles_after (returns_mono (quietly_whenever (quietly_modify rfl)) ?_)
  intro _ first same
  refine settles_iff (iff_of_eq (and_true _)) (settles_bind ?_)
  refine settles_mono (releaseLocalAddr_settles (same.trans here)) fun _ _ later => ?_
  refine settles_returns (returns_mono (quietly_whenever (quietly_modify rfl)) ?_)
  exact fun _ _ last => last.trans later

end

theorem quietly_scheduleRedial (there : state.shape.stock.lac ref = true) :
    Quietly (scheduleRedial ref) state := by
  refine quietly_bind ((readLac_settles rfl).1 there) fun _ after same => ?_
  refine quietly_whenever (quietly_bind (returns_ok rfl rfl) fun _ later moved => ?_)
  rw [← same, ← moved] at there
  exact (writeLac_settles rfl (by intro _; rfl)).1 there

theorem forgetLac_settles {change : Lac → Lac} (here : state.shape = shape)
    (keeps : ∀ entry, (change entry).ref = entry.ref) :
    Settles (shape.stock.lac ref = true) .freed
      (do writeLac ref change; scheduleRedial ref) state
      fun _ after => after.shape = shape := by
  have writes : Settles (shape.stock.lac ref = true) .freed (writeLac ref change) state
      fun _ after => after.shape = shape := writeLac_settles here keeps
  refine ⟨fun there => ?_, fun missing => stops_bind (writes.2 missing)⟩
  refine returns_bind (returns_mono (writes.1 there) fun _ after same => ?_)
  rw [← same] at there ⊢
  exact quietly_scheduleRedial there

theorem forgetCall_settles {call : Call} (here : state.shape = shape) :
    Settles (call.lac.all shape.stock.lac = true) .freed (forgetCall call) state
      fun _ after => after.shape = shape := by
  unfold forgetCall
  cases call.lac with
  | none => exact settles_iff (by simp) (settles_returns (returns_ok rfl here))
  | some lac => exact forgetLac_settles here (by intro _; rfl)

theorem forgetTunnelLac_settles (here : state.shape = shape) :
    Settles (lac.all shape.stock.lac = true) .freed (forgetTunnelLac lac) state
      fun _ after => after.shape = shape := by
  cases lac with
  | none => exact settles_iff (by simp) (settles_returns (returns_ok rfl here))
  | some lac => exact forgetLac_settles here (by intro _; rfl)

theorem forgetTunnelLns_settles (here : state.shape = shape) :
    Settles (lns.all shape.stock.lns = true) .freed (forgetTunnelLns lns) state
      fun _ after => after.shape = shape := by
  cases lns with
  | none => exact settles_iff (by simp) (settles_returns (returns_ok rfl here))
  | some lns => exact writeLns_settles here (by intro _; rfl)

end Destroying

/-! ## Positions -/

/-- References lead to one tunnel, and in it to one call. -/
structure Distinct (marks : List TunnelMark) : Prop where
  tunnels : (marks.map TunnelMark.ref).Nodup
  calls : ∀ mark ∈ marks, (mark.calls.map CallMark.ref).Nodup

def TunnelMark.withCalls (mark : TunnelMark) (calls : List CallMark) : TunnelMark :=
  { mark with calls := calls }

/-- `needclose = 0; closing = -1`. -/
def CallMark.release (mark : CallMark) : CallMark :=
  { mark with needclose := false, closing := true }

/-- `closing = -1`. -/
def CallMark.close (mark : CallMark) : CallMark := { mark with closing := true }

section Positions

variable {front back : List TunnelMark} {mark : TunnelMark} {before behind : List CallMark}
  {call : CallMark} {stock : Stock} {depth : Nat}

theorem Distinct.without (distinct : Distinct (front ++ mark :: back)) :
    Distinct (front ++ back) := by
  have fewer : (front ++ back).Sublist (front ++ mark :: back) :=
    (List.sublist_cons_self mark back).append_left front
  exact ⟨distinct.tunnels.sublist (fewer.map _), fun other member =>
    distinct.calls other (fewer.subset member)⟩

theorem Distinct.replace {other : TunnelMark} (distinct : Distinct (front ++ mark :: back))
    (same : other.ref = mark.ref)
    (fewer : (other.calls.map CallMark.ref).Sublist (mark.calls.map CallMark.ref)) :
    Distinct (front ++ other :: back) where
  tunnels := by
    have refs := distinct.tunnels
    rw [List.map_append, List.map_cons] at refs ⊢
    rw [same]
    exact refs
  calls := by
    intro found member
    rcases List.mem_append.mp member with early | late
    · exact distinct.calls found (List.mem_append_left _ early)
    · rcases List.mem_cons.mp late with rfl | later
      · exact (distinct.calls mark (by simp)).sublist fewer
      · exact distinct.calls found (List.mem_append_right _ (List.mem_cons_of_mem _ later))

theorem Distinct.refs {calls : List CallMark}
    (distinct : Distinct (front ++ mark.withCalls calls :: back)) :
    (calls.map CallMark.ref).Nodup :=
  distinct.calls (mark.withCalls calls) (List.mem_append_right _ List.mem_cons_self)

section Tunnel

variable (here : state.shape = ⟨front ++ mark :: back, stock⟩)
  (distinct : Distinct (front ++ mark :: back))

include here distinct

theorem tunnel_at :
    ∃ tunnel, state.tunnel? mark.ref = some tunnel ∧ tunnel.mark = mark := by
  refine tunnel_of_shape ?_
  rw [here]
  exact Keyed.find_of_mem distinct.tunnels (List.mem_append_right _ List.mem_cons_self)

theorem setTunnel_at (other : TunnelMark)
    (shows : ∀ tunnel, tunnel.mark = mark → (change tunnel).mark = other) :
    (state.setTunnel mark.ref change).shape = ⟨front ++ other :: back, stock⟩ := by
  obtain ⟨tunnel, found, marked⟩ := tunnel_at here distinct
  have written : (state.setTunnel mark.ref change).shape =
      ⟨Keyed.update TunnelMark.ref mark.ref (fun _ => other) state.shape.marks,
        state.shape.stock⟩ := by
    refine shape_setTunnel fun same foundSame => ?_
    rw [found] at foundSame
    cases foundSame
    exact shows tunnel marked
  rw [written, here, Keyed.update_middle distinct.tunnels]

theorem writeSelf_at {change : Call → Call}
    {effect : CallMark → CallMark} (shows : ∀ call, (change call).mark = effect call.mark) :
    Returns (writeCall mark.ref .self change) state fun _ after =>
      after.shape = ⟨front ++ { mark with self := effect mark.self } :: back, stock⟩ := by
  obtain ⟨tunnel, found, _⟩ := tunnel_at here distinct
  refine returns_ok (writeCall_run (some_call found rfl)) ?_
  refine setTunnel_at here distinct _ ?_
  rintro tunnel rfl
  unfold Tunnel.mark Tunnel.setCall
  rw [shows]

end Tunnel

theorem anchored_iff (call : Call) :
    (call.lns.all stock.lns = true ∧ call.lac.all stock.lac = true) ↔
      call.mark.anchored stock = true := (Bool.and_eq_true _ _).symm.to_iff

section Call

variable (here : state.shape = ⟨front ++ mark.withCalls (before ++ call :: behind) :: back, stock⟩)
  (distinct : Distinct (front ++ mark.withCalls (before ++ call :: behind) :: back))

include here distinct

theorem call_at :
    ∃ tunnel found, state.tunnel? mark.ref = some tunnel ∧
      tunnel.call? (.call call.ref) = some found ∧ found.mark = call := by
  obtain ⟨tunnel, found, marked⟩ := tunnel_at here distinct
  have listed : Keyed.find CallMark.ref call.ref tunnel.mark.calls = some call := by
    rw [marked]
    exact Keyed.find_of_mem distinct.refs (List.mem_append_right _ List.mem_cons_self)
  obtain ⟨same, foundCall, markedCall⟩ := call_of_mark listed
  exact ⟨tunnel, same, found, foundCall, markedCall⟩

theorem writeCall_at {change : Call → Call} {effect : CallMark → CallMark}
    (shows : ∀ call, (change call).mark = effect call.mark) :
    Returns (writeCall mark.ref (.call call.ref) change) state fun _ after =>
      after.shape =
        ⟨front ++ mark.withCalls (before ++ effect call :: behind) :: back, stock⟩ := by
  obtain ⟨tunnel, found, foundTunnel, foundCall, _⟩ := call_at here distinct
  refine returns_ok (writeCall_run (some_call foundTunnel foundCall)) ?_
  refine setTunnel_at here distinct _ fun tunnel marked => ?_
  have listed : tunnel.calls.map Call.mark = before ++ call :: behind :=
    congrArg TunnelMark.calls marked
  have written : (Keyed.update Call.ref call.ref change tunnel.calls).map Call.mark =
      before ++ effect call :: behind := by
    have image : (Keyed.update Call.ref call.ref change tunnel.calls).map Call.mark =
        Keyed.update CallMark.ref call.ref effect (tunnel.calls.map Call.mark) :=
      Keyed.map_update (fun _ => rfl) fun other _ => shows other
    rw [image, listed, Keyed.update_middle distinct.refs]
  exact congrArg₂ TunnelMark.withCalls marked written

theorem destroyCall_at :
    Settles (call.anchored stock = true) .freed (destroyCall mark.ref call.ref) state
      fun _ after =>
        after.shape = ⟨front ++ mark.withCalls (before ++ behind) :: back, stock⟩ := by
  obtain ⟨tunnel, found, foundTunnel, foundCall, rfl⟩ := call_at here distinct
  refine settles_after (returns_ok (readCall_run (some_call foundTunnel foundCall)) ?_)
  refine settles_iff (anchored_iff found) (settles_bind ?_)
  refine settles_mono (releaseCall_settles here) fun _ released same => ?_
  obtain ⟨current, foundCurrent, _⟩ := tunnel_at same distinct
  refine settles_after (returns_ok (writeTunnel_run foundCurrent) ?_)
  refine forgetCall_settles (setTunnel_at same distinct _ fun tunnel marked => ?_)
  have listed : tunnel.calls.map Call.mark = before ++ found.mark :: behind :=
    congrArg TunnelMark.calls marked
  have removed : (Keyed.remove Call.ref found.mark.ref tunnel.calls).map Call.mark =
      before ++ behind := by
    have image : (Keyed.remove Call.ref found.mark.ref tunnel.calls).map Call.mark =
        Keyed.remove CallMark.ref found.mark.ref (tunnel.calls.map Call.mark) :=
      Keyed.map_remove fun _ => rfl
    rw [image, listed, Keyed.remove_middle distinct.refs]
  exact congrArg₂ TunnelMark.withCalls marked removed

theorem closeCall_closing (closing : call.closing = true) :
    Settles (call.anchored stock = true) .freed
      (callCloseN env (depth + 1) mark.ref (.call call.ref)) state fun _ after =>
        after.shape = ⟨front ++ mark.withCalls (before ++ behind) :: back, stock⟩ := by
  obtain ⟨tunnel, found, foundTunnel, foundCall, markedCall⟩ := call_at here distinct
  refine settles_after (returns_ok (readTunnel_run foundTunnel) ?_)
  refine settles_after (returns_ok (readCall_run (some_call foundTunnel foundCall)) ?_)
  have isClosing : found.closing = true := by
    rw [← closing, ← markedCall]
    rfl
  rw [if_pos isClosing]
  exact destroyCall_at here distinct

theorem closeCall_open (retries : 1 ≤ env.maxRetries) (opened : call.closing = false) :
    Returns (callCloseN env (depth + 1) mark.ref (.call call.ref)) state fun _ after =>
      after.shape = ⟨front ++ mark.withCalls (before ++ call.close :: behind) :: back, stock⟩ := by
  obtain ⟨tunnel, found, foundTunnel, foundCall, markedCall⟩ := call_at here distinct
  have has : state.Has mark.ref (.call call.ref) := ⟨tunnel, found, foundTunnel, foundCall⟩
  refine returns_bind (returns_ok (readTunnel_run foundTunnel) ?_)
  refine returns_bind (returns_ok (readCall_run (some_call foundTunnel foundCall)) ?_)
  have isOpen : ¬ found.closing = true := by
    rw [show found.closing = call.closing from congrArg CallMark.closing markedCall, opened]
    exact Bool.false_ne_true
  rw [if_neg isOpen]
  refine returns_bind (returns_mono (quietly_writeCall has fun _ => rfl) fun _ _ first => ?_)
  refine returns_bind (returns_mono (quietly_cdnBody (has.congr first)) fun _ _ second => ?_)
  have still := (has.congr first).congr second
  refine returns_bind (returns_mono (quietly_sendControl retries still) fun _ _ third => ?_)
  have same := (third.trans (second.trans first)).trans here
  exact writeCall_at same distinct fun _ => rfl

end Call

/-! ## The tunnel at a position -/

theorem emptied_at (body : CallRef → Prog Unit)
    (step : ∀ (state : Daemon) (call : CallMark) (rest : List CallMark),
      state.shape = ⟨front ++ mark.withCalls (call :: rest) :: back, stock⟩ →
      Distinct (front ++ mark.withCalls (call :: rest) :: back) →
      Settles (call.anchored stock = true) .freed (body call.ref) state fun _ after =>
        after.shape = ⟨front ++ mark.withCalls rest :: back, stock⟩)
    (calls : List CallMark) (here : state.shape = ⟨front ++ mark.withCalls calls :: back, stock⟩)
    (distinct : Distinct (front ++ mark.withCalls calls :: back)) :
    Settles (∀ call ∈ calls, call.anchored stock = true) .freed
      ((calls.map CallMark.ref).forM body) state fun _ after =>
        after.shape = ⟨front ++ mark.withCalls [] :: back, stock⟩ := by
  induction calls generalizing state with
  | nil => exact settles_iff (by simp) (settles_returns (returns_ok rfl here))
  | cons call rest ih =>
    refine settles_iff List.forall_mem_cons.symm (settles_bind ?_)
    refine settles_mono (step state call rest here distinct) fun _ after taken => ?_
    exact ih taken (distinct.replace rfl (List.sublist_cons_self _ _))

theorem destroyTunnel_at (here : state.shape = ⟨front ++ mark :: back, stock⟩)
    (distinct : Distinct (front ++ mark :: back)) :
    Settles ((∀ call ∈ mark.calls, call.anchored stock = true) ∧
        mark.anchored stock = true ∧ mark.self.anchored stock = true)
      .freed (destroyTunnel mark.ref) state fun _ after =>
        after.shape = ⟨front ++ back, stock⟩ := by
  obtain ⟨tunnel, found, rfl⟩ := tunnel_at here distinct
  refine settles_after (returns_ok (readTunnel_run found) ?_)
  have refs : tunnel.calls.map Call.ref = tunnel.mark.calls.map CallMark.ref :=
    (List.map_map (f := Call.mark) (g := CallMark.ref)).symm
  rw [refs]
  refine settles_bind (settles_mono (emptied_at _
    (fun state call rest => @destroyCall_at state front back tunnel.mark [] rest call stock)
    tunnel.mark.calls here distinct) fun _ emptied taken => ?_)
  have unlinked : ({ emptied with
      tunnels := Keyed.remove Tunnel.ref tunnel.ref emptied.tunnels
      tunnelCount := emptied.tunnelCount - 1 } : Daemon).shape = ⟨front ++ back, stock⟩ := by
    have refs : Distinct (front ++ tunnel.mark.withCalls [] :: back) :=
      distinct.replace rfl (List.nil_sublist _)
    have listed : emptied.tunnels.map Tunnel.mark = front ++ tunnel.mark.withCalls [] :: back :=
      congrArg Shape.marks taken
    have image : (Keyed.remove Tunnel.ref tunnel.ref emptied.tunnels).map Tunnel.mark =
        Keyed.remove TunnelMark.ref tunnel.ref (emptied.tunnels.map Tunnel.mark) :=
      Keyed.map_remove fun _ => rfl
    have removed : Keyed.remove TunnelMark.ref tunnel.ref (emptied.tunnels.map Tunnel.mark) =
        front ++ back := by
      rw [listed]
      exact Keyed.remove_middle refs.tunnels
    exact congrArg₂ Shape.mk (image.trans removed) (congrArg Shape.stock taken)
  refine settles_after (returns_ok rfl ?_)
  have parts : (tunnel.lac.all stock.lac = true ∧ tunnel.lns.all stock.lns = true ∧
        tunnel.self.lns.all stock.lns = true ∧ tunnel.self.lac.all stock.lac = true) ↔
      (tunnel.mark.anchored stock = true ∧ tunnel.mark.self.anchored stock = true) := by
    have own : tunnel.mark.anchored stock = true ↔
        (tunnel.lns.all stock.lns = true ∧ tunnel.lac.all stock.lac = true) :=
      (Bool.and_eq_true _ _).to_iff
    rw [own, show tunnel.mark.self = tunnel.self.mark from rfl, ← anchored_iff tunnel.self]
    tauto
  refine settles_iff parts (settles_bind ?_)
  refine settles_mono (forgetTunnelLac_settles unlinked) fun _ _ first => settles_bind ?_
  refine settles_mono (forgetTunnelLns_settles first) fun _ _ second => settles_bind ?_
  refine settles_mono (releaseCall_settles second) fun _ _ third => ?_
  exact forgetCall_settles third

theorem descheduleTunnel_quietly : Quietly (descheduleTunnel t) state := quietly_modify rfl

theorem closeTunnel_closing (here : state.shape = ⟨front ++ mark :: back, stock⟩)
    (distinct : Distinct (front ++ mark :: back)) (closing : mark.self.closing = true) :
    Settles ((∀ call ∈ mark.calls, call.anchored stock = true) ∧
        mark.anchored stock = true ∧ mark.self.anchored stock = true)
      .freed (callCloseN env (depth + 1) mark.ref .self) state fun _ after =>
        after.shape = ⟨front ++ back, stock⟩ := by
  obtain ⟨tunnel, found, marked⟩ := tunnel_at here distinct
  refine settles_after (returns_ok (readTunnel_run found) ?_)
  refine settles_after (returns_mono descheduleTunnel_quietly fun _ _ same => ?_)
  have isClosing : tunnel.self.closing = true := by
    rw [← closing, ← marked]
    rfl
  rw [if_pos isClosing]
  exact destroyTunnel_at (same.trans here) distinct

theorem releaseAndClose_at {rest : List CallMark}
    (here : state.shape = ⟨front ++ mark.withCalls (call :: rest) :: back, stock⟩)
    (distinct : Distinct (front ++ mark.withCalls (call :: rest) :: back)) :
    Settles (call.anchored stock = true) .freed
      (do
        writeCall mark.ref (.call call.ref) Call.release
        callCloseN env (depth + 1) mark.ref (.call call.ref)) state fun _ after =>
        after.shape = ⟨front ++ mark.withCalls rest :: back, stock⟩ := by
  have released := @writeCall_at state front back mark [] rest call stock here distinct
    Call.release CallMark.release fun _ => rfl
  refine settles_after (returns_mono released fun _ after same => ?_)
  have still : Distinct (front ++ mark.withCalls (call.release :: rest) :: back) :=
    distinct.replace rfl (List.Sublist.refl _)
  exact @closeCall_closing env after front back mark [] rest call.release stock depth same still rfl

theorem closeTunnel_open (retries : 1 ≤ env.maxRetries)
    (here : state.shape = ⟨front ++ mark :: back, stock⟩)
    (distinct : Distinct (front ++ mark :: back)) (opened : mark.self.closing = false) :
    Settles (∀ call ∈ mark.calls, call.anchored stock = true) .freed
      (callCloseN env (depth + 2) mark.ref .self) state fun _ after =>
        after.shape =
          ⟨front ++ { mark with self := mark.self.close, calls := [] } :: back, stock⟩ := by
  obtain ⟨tunnel, found, marked⟩ := tunnel_at here distinct
  have has : state.Has mark.ref .self := ⟨tunnel, tunnel.self, found, rfl⟩
  refine settles_after (returns_ok (readTunnel_run found) ?_)
  refine settles_after (returns_mono descheduleTunnel_quietly fun _ _ first => ?_)
  have isOpen : ¬ tunnel.self.closing = true := by
    rw [show tunnel.self.closing = mark.self.closing from
      congrArg (fun mark => mark.self.closing) marked, opened]
    exact Bool.false_ne_true
  rw [if_neg isOpen]
  have present := has.congr first
  refine settles_after (returns_mono (quietly_writeCall present fun _ => rfl) fun _ _ second => ?_)
  have present := present.congr second
  refine settles_after (returns_mono (quietly_stopCcnBody present) fun _ _ third => ?_)
  have present := present.congr third
  refine settles_after (returns_mono (quietly_sendControl retries present) fun _ told fourth => ?_)
  have same : told.shape = ⟨front ++ mark :: back, stock⟩ :=
    (fourth.trans (third.trans (second.trans first))).trans here
  obtain ⟨current, foundCurrent, rfl⟩ := tunnel_at same distinct
  refine settles_after (returns_ok (readTunnel_run foundCurrent) ?_)
  have refs : current.calls.map Call.ref = current.mark.calls.map CallMark.ref :=
    (List.map_map (f := Call.mark) (g := CallMark.ref)).symm
  rw [refs]
  refine settles_iff (iff_of_eq (and_true _)) (settles_bind (settles_mono
    (emptied_at _ (fun _ _ _ => releaseAndClose_at) current.mark.calls same distinct)
    fun _ emptied taken => settles_returns ?_))
  exact writeSelf_at taken (distinct.replace rfl (List.nil_sublist _)) fun _ => rfl

end Positions

end Xl2tpd
