import Xl2tpd.Aaa
import Xl2tpd.Lib.Loop
import Xl2tpd.Lib.Program

/-!
# Allow and deny ranges

The last range that contains an address decides about it. `get_lns` reads the ranges of one entry
after the other with one flag; `get_addr` looks through the addresses of the allow ranges.
-/

namespace Xl2tpd

set_option autoImplicit false

open Program

/-! ## The rule -/

def lastMatch (ranges : List IpRange) (addr : Nat) : Option IpRange :=
  (ranges.filter fun range => range.contains addr).getLast?

def rangesAllow (ranges : List IpRange) (addr : Nat) : Bool :=
  (lastMatch ranges addr).any IpRange.allow

theorem lastMatch_cons (range : IpRange) (ranges : List IpRange) (addr : Nat) :
    lastMatch (range :: ranges) addr =
      (lastMatch ranges addr).or (if range.contains addr then some range else none) := by
  unfold lastMatch
  rw [List.filter_cons]
  by_cases inside : range.contains addr = true
  · rw [if_pos inside, if_pos inside, List.getLast?_cons]
    cases (ranges.filter fun range => range.contains addr).getLast? <;> rfl
  · rw [if_neg inside, if_neg inside, Option.or_none]

theorem lastSense_eq (initial : Bool) (ranges : List IpRange) (addr : Nat) :
    lastSense initial ranges addr = ((lastMatch ranges addr).map IpRange.allow).getD initial := by
  induction ranges generalizing initial with
  | nil => rfl
  | cons range ranges ih =>
    have step : lastSense initial (range :: ranges) addr =
        lastSense (if range.contains addr then range.allow else initial) ranges addr := rfl
    rw [step, ih, lastMatch_cons]
    cases lastMatch ranges addr with
    | some last => rfl
    | none => by_cases inside : range.contains addr = true <;> simp [inside]

theorem lastSense_false (ranges : List IpRange) (addr : Nat) :
    lastSense false ranges addr = rangesAllow ranges addr := by
  rw [lastSense_eq, rangesAllow]
  cases lastMatch ranges addr <;> rfl

/-! ## The choice of an LNS entry -/

/-- `get_lns` over one chain: the entry it returns, or the flag at its end. -/
def lnsChain (addr : Nat) : Bool → List Lns → Lns ⊕ Bool
  | allow, [] => .inr allow
  | allow, entry :: next =>
      let allow := lastSense allow entry.lacs addr
      if allow then .inl entry else lnsChain addr allow next

/-- `get_lns` on the peer's address. The default entry is a chain of its own, behind the list or in
its place. -/
def getLnsLoop (lnslist : List Lns) (deflns : Option Lns) (accesscontrol : Bool) (addr : Nat) :
    Option Lns :=
  let unmatched := if accesscontrol then none else deflns
  let default (allow : Bool) : Option Lns :=
    (lnsChain addr allow deflns.toList).elim some fun _ => unmatched
  if lnslist = [] then default false
  else (lnsChain addr false lnslist).elim some default

section Choice

variable {addr : Nat} {lnslist : List Lns} {deflns : Option Lns} {accesscontrol : Bool}

/-- An entry that does not take the peer leaves the flag down for the next one. -/
theorem lnsChain_eq (addr : Nat) (entries : List Lns) :
    lnsChain addr false entries =
      ((entries.find? fun entry => rangesAllow entry.lacs addr).map Sum.inl).getD (.inr false) := by
  induction entries with
  | nil => rfl
  | cons entry next ih =>
    rw [lnsChain, lastSense_false, List.find?_cons]
    cases taken : rangesAllow entry.lacs addr with
    | true => rfl
    | false => exact ih

/-- The first entry that allows the address, or else the default entry without access control. -/
theorem getLnsLoop_eq (lnslist : List Lns) (deflns : Option Lns) (accesscontrol : Bool)
    (addr : Nat) :
    getLnsLoop lnslist deflns accesscontrol addr =
      ((lnslist ++ deflns.toList).find? fun entry => rangesAllow entry.lacs addr).or
        (if accesscontrol then none else deflns) := by
  have default : (lnsChain addr false deflns.toList).elim some
      (fun _ => if accesscontrol then none else deflns) =
        (deflns.toList.find? fun entry => rangesAllow entry.lacs addr).or
          (if accesscontrol then none else deflns) := by
    rw [lnsChain_eq]
    cases deflns.toList.find? fun entry => rangesAllow entry.lacs addr <;> rfl
  unfold getLnsLoop
  by_cases empty : lnslist = []
  · rw [if_pos empty, empty, List.nil_append]
    exact default
  · rw [if_neg empty, List.find?_append, Option.or_assoc, ← default, lnsChain_eq addr lnslist]
    cases lnslist.find? fun entry => rangesAllow entry.lacs addr <;> rfl

theorem getLns_loop (env : Env) (state : Daemon) (tunnel : Tunnel) :
    getLns env state tunnel =
      (getLnsLoop state.lnslist state.deflns env.accesscontrol tunnel.peer.addr).map Lns.ref := by
  rw [getLnsLoop_eq, getLns]
  simp only [lastSense_false]
  cases (state.lnslist ++ state.deflns.toList).find? fun entry =>
      rangesAllow entry.lacs tunnel.peer.addr with
  | some entry => rfl
  | none => cases env.accesscontrol <;> rfl

/-- `get_lns` returns the first entry, the default entry last, whose last range with the peer's
address allows it, and otherwise nothing or the default entry. -/
theorem peer_admission (env : Env) (state : Daemon) (tunnel : Tunnel) :
    let addr := tunnel.peer.addr
    let entries := state.lnslist ++ state.deflns.toList
    let chosen := getLnsLoop state.lnslist state.deflns env.accesscontrol addr
    getLns env state tunnel = chosen.map Lns.ref ∧
      chosen = (entries.find? fun entry => rangesAllow entry.lacs addr).or
        (if env.accesscontrol then none else state.deflns) ∧
      (env.accesscontrol = true → ∀ entry, chosen = some entry →
        entry ∈ entries ∧ ∃ range ∈ entry.lacs, lastMatch entry.lacs addr = some range ∧
          range.allow = true) := by
  refine ⟨getLns_loop env state tunnel, getLnsLoop_eq _ _ _ _, fun controlled entry found => ?_⟩
  rw [getLnsLoop_eq, controlled, if_pos rfl, Option.or_none] at found
  have taken : rangesAllow entry.lacs tunnel.peer.addr = true := by
    have holds := List.find?_some found
    exact holds
  obtain ⟨range, last, allows⟩ := (Option.any_eq_true _ _).mp taken
  have member : range ∈ entry.lacs := List.mem_of_mem_filter (List.mem_of_getLast? last)
  exact ⟨List.mem_of_find?_eq_some found, range, member, last, allows⟩

end Choice

/-! ## The choice of an address -/

section Addresses

variable {uaddr : Nat → List Nat} {following ranges : List IpRange} {first count addr : Nat}
  {range : IpRange}

/-- An address that may be given out: it is free, and the last range with it allows it. -/
def Grantable (uaddr : Nat → List Nat) (ranges : List IpRange) (addr : Nat) : Prop :=
  ipUsed uaddr addr = false ∧ rangesAllow ranges addr = true

theorem scanAddr_eq (uaddr : Nat → List Nat) (following : List IpRange) (first count : Nat) :
    scanAddr uaddr following first count =
      (List.range' first count).find? fun addr =>
        !ipUsed uaddr addr && lastSense true following addr := by
  induction count generalizing first with
  | zero => rfl
  | succ count ih =>
    rw [scanAddr, List.range'_succ, List.find?_cons, ih]
    cases !ipUsed uaddr first && lastSense true following first <;> rfl

theorem rangesAllow_cons (sense : range.allow = true) (inside : range.contains addr = true) :
    rangesAllow (range :: following) addr = lastSense true following addr := by
  rw [rangesAllow, lastMatch_cons, if_pos inside, lastSense_eq]
  cases lastMatch following addr with
  | some last => rfl
  | none => exact sense

theorem rangesAllow_skip (outside : range.contains addr = true → range.allow = false) :
    rangesAllow (range :: following) addr = rangesAllow following addr := by
  rw [rangesAllow, rangesAllow, lastMatch_cons]
  cases lastMatch following addr with
  | some last => rfl
  | none =>
    by_cases inside : range.contains addr = true
    · simp [inside, outside inside]
    · simp [inside]

theorem rangesAllow_later (range : IpRange) (later : rangesAllow following addr = true) :
    rangesAllow (range :: following) addr = true := by
  obtain ⟨last, found, allows⟩ := (Option.any_eq_true _ _).mp later
  rw [rangesAllow, lastMatch_cons, found]
  exact allows

theorem contains_iff :
    range.contains addr = true ↔ range.start ≤ addr ∧ addr ≤ range.stop := by
  rw [IpRange.contains, Bool.and_eq_true, decide_eq_true_eq, decide_eq_true_eq]

theorem mem_scan :
    addr ∈ List.range' range.start (range.stop + 1 - range.start) ↔ range.contains addr = true := by
  rw [List.mem_range'_1, contains_iff]
  omega

/-- Where no range ends at the largest address, `get_addr` returns an address that may be given out,
if there is one. -/
theorem getAddr_choice (uaddr : Nat → List Nat)
    (bounded : ∀ range ∈ ranges, range.stop + 1 < 2 ^ 32) (state : Daemon) :
    ∃ choice : Option Nat, getAddr uaddr ranges state = .ok (choice.getD 0) state ∧
      (∀ addr, choice = some addr → Grantable uaddr ranges addr) ∧
      (choice = none → ∀ addr, ¬ Grantable uaddr ranges addr) := by
  induction ranges with
  | nil => exact ⟨none, rfl, fun _ none => (nomatch none), fun _ _ grant => (nomatch grant.2)⟩
  | cons range following ih =>
    obtain ⟨choice, ran, sound, complete⟩ :=
      ih fun other member => bounded other (List.mem_cons_of_mem _ member)
    have later (addr : Nat) (chosen : choice = some addr) :
        Grantable uaddr (range :: following) addr :=
      ⟨(sound addr chosen).1, rangesAllow_later range (sound addr chosen).2⟩
    rw [getAddr]
    cases sense : range.allow with
    | false =>
      refine ⟨choice, ran, later, fun none addr grant => ?_⟩
      refine complete none addr ⟨grant.1, ?_⟩
      rw [← rangesAllow_skip fun _ => sense]
      exact grant.2
    | true =>
      have short := bounded range List.mem_cons_self
      rw [if_neg (by simp), if_pos short, scanAddr_eq]
      cases scan : (List.range' range.start (range.stop + 1 - range.start)).find? fun addr =>
          !ipUsed uaddr addr && lastSense true following addr with
      | some addr =>
        refine ⟨some addr, rfl, ?_, fun none => (nomatch none)⟩
        rintro _ ⟨⟩
        have inside := mem_scan.mp (List.mem_of_find?_eq_some scan)
        have test := List.find?_some scan
        rw [Bool.and_eq_true, Bool.not_eq_true'] at test
        exact ⟨test.1, (rangesAllow_cons sense inside).trans test.2⟩
      | none =>
        refine ⟨choice, ran, later, fun none addr grant => ?_⟩
        by_cases inside : range.contains addr = true
        · have test := List.find?_eq_none.mp scan addr (mem_scan.mpr inside)
          rw [grant.1, ← rangesAllow_cons sense inside, grant.2] at test
          exact test rfl
        · refine complete none addr ⟨grant.1, ?_⟩
          rw [← rangesAllow_skip fun within => absurd within inside]
          exact grant.2

/-- `get_addr` returns a free address whose last range allows it, and zero when there is none. -/
theorem address_choice (proper : ∀ range ∈ ranges, range.start ≤ range.stop ∧ range.stop < 2 ^ 32 ∧
      range.contains 0 = false ∧ range.contains (2 ^ 32 - 1) = false) (state : Daemon) :
    ∃ addr, getAddr uaddr ranges state = .ok addr state ∧
      (addr ≠ 0 → Grantable uaddr ranges addr) ∧
      (addr = 0 ↔ ¬ ∃ other, Grantable uaddr ranges other) := by
  have bounded (range : IpRange) (member : range ∈ ranges) : range.stop + 1 < 2 ^ 32 := by
    obtain ⟨order, small, _, last⟩ := proper range member
    have apart := mt contains_iff.mpr (Bool.eq_false_iff.mp last)
    omega
  have nonzero (addr : Nat) (grant : Grantable uaddr ranges addr) : addr ≠ 0 := by
    rintro rfl
    obtain ⟨range, last, _⟩ := (Option.any_eq_true _ _).mp grant.2
    have member := List.mem_of_getLast? last
    have inside := List.of_mem_filter member
    rw [(proper range (List.mem_of_mem_filter member)).2.2.1] at inside
    cases inside
  obtain ⟨choice, ran, sound, complete⟩ := getAddr_choice uaddr bounded state
  refine ⟨choice.getD 0, ran, ?_, ?_⟩
  · cases choice with
    | none => exact fun some => absurd rfl some
    | some addr => exact fun _ => sound addr rfl
  · cases choice with
    | none => exact iff_of_true rfl fun ⟨other, grant⟩ => complete rfl other grant
    | some addr =>
      have grant := sound addr rfl
      exact iff_of_false (nonzero addr grant) fun none => none ⟨addr, grant⟩

theorem middle_address_chosen :
    ∃ addr, getAddr (fun _ => [10]) [⟨10, 12, true⟩, ⟨12, 20, false⟩] {} = .ok addr {} ∧
      (addr ≠ 0 → Grantable (fun _ => [10]) [⟨10, 12, true⟩, ⟨12, 20, false⟩] addr) ∧
      (addr = 0 ↔ ¬ ∃ other, Grantable (fun _ => [10]) [⟨10, 12, true⟩, ⟨12, 20, false⟩] other) :=
  address_choice (by decide) {}

end Addresses

/-! ## The loop of `get_addr` -/

/-- The ranges that are left, and the 32-bit counter of the scan of the first one. -/
structure AddrLoop where
  ranges : List IpRange
  x : Nat
  deriving DecidableEq, Repr

def AddrLoop.enter (ranges : List IpRange) : AddrLoop :=
  ⟨ranges, (ranges.head?.map IpRange.start).getD 0⟩

/-- One round: a range that is not scanned, an address that is looked at, or the end of a scan. -/
def addrBody (uaddr : Nat → List Nat) (state : AddrLoop) : AddrLoop ⊕ Nat :=
  match state.ranges with
  | [] => .inr 0
  | range :: following =>
      if !range.allow then .inl (.enter following)
      else if state.x ≤ range.stop then
        if !ipUsed uaddr state.x && lastSense true following state.x then .inr state.x
        else .inl { state with x := (state.x + 1) % 2 ^ 32 }
      else .inl (.enter following)

def AddrLoop.Inside (state : AddrLoop) : Prop :=
  ∀ range following, state.ranges = range :: following → range.allow = true →
    state.x ≤ range.stop → range.start ≤ state.x

/-- An allow range that is scanned and ends at the largest address has an address to give out. -/
def ScansEnd (uaddr : Nat → List Nat) : List IpRange → Prop
  | [] => True
  | range :: following =>
      if range.allow then
        (∃ addr, range.contains addr = true ∧
          (!ipUsed uaddr addr && lastSense true following addr) = true) ∨
        range.stop < 2 ^ 32 - 1 ∧ ScansEnd uaddr following
      else ScansEnd uaddr following

section Loop

variable {uaddr : Nat → List Nat} {range : IpRange} {following ranges : List IpRange} {x addr : Nat}

theorem addrBody_found (sense : range.allow = true) (below : x ≤ range.stop)
    (grant : (!ipUsed uaddr x && lastSense true following x) = true) :
    addrBody uaddr ⟨range :: following, x⟩ = .inr x := by
  simp only [addrBody, sense, Bool.not_true, Bool.false_eq_true, if_false, below, if_true, grant]

theorem addrBody_next (sense : range.allow = true) (below : x ≤ range.stop)
    (denied : ¬ (!ipUsed uaddr x && lastSense true following x) = true) :
    addrBody uaddr ⟨range :: following, x⟩ = .inl ⟨range :: following, (x + 1) % 2 ^ 32⟩ := by
  simp only [addrBody, sense, Bool.not_true, Bool.false_eq_true, if_false, below, if_true, denied]

theorem addrBody_leave (passed : range.allow = true → range.stop < x) :
    addrBody uaddr ⟨range :: following, x⟩ = .inl (.enter following) := by
  cases sense : range.allow with
  | false => simp [addrBody, sense]
  | true => simp [addrBody, sense, Nat.not_le.mpr (passed sense)]

/-- A scan ends at the address that `scanAddr` finds, or gets behind the range. -/
theorem scan_halts {count : Nat} (sense : range.allow = true) (small : range.stop < 2 ^ 32)
    (left : x + count = range.stop + 1) :
    Loop.Halts (addrBody uaddr) ⟨range :: following, x % 2 ^ 32⟩ addr ↔
      (scanAddr uaddr following x count).elim
        (Loop.Halts (addrBody uaddr) ⟨range :: following, (range.stop + 1) % 2 ^ 32⟩ addr)
        fun found => found = addr := by
  induction count generalizing x with
  | zero =>
    rw [← left]
    rfl
  | succ count ih =>
    rw [Nat.mod_eq_of_lt (by omega), scanAddr]
    by_cases granted : (!ipUsed uaddr x && lastSense true following x) = true
    · rw [if_pos granted, Loop.halts_last (addrBody_found sense (by omega) granted)]
      rfl
    · rw [if_neg granted, Loop.halts_step (addrBody_next sense (by omega) granted)]
      exact ih (by omega)

/-- A range that ends at the largest address is scanned for ever if no address is granted. -/
theorem wrapped_loops (sense : range.allow = true) (last : range.stop = 2 ^ 32 - 1)
    (scan : scanAddr uaddr following 0 (2 ^ 32) = none) :
    ¬ Loop.Halts (addrBody uaddr) ⟨range :: following, 0⟩ addr := by
  rw [scanAddr_eq, List.find?_eq_none] at scan
  refine Loop.not_halts (fun state => ∃ x, x < 2 ^ 32 ∧ state = ⟨range :: following, x⟩) ?_
    ⟨0, by omega, rfl⟩
  rintro _ ⟨x, small, rfl⟩
  refine ⟨_, addrBody_next sense (by omega) (scan x ?_), _, Nat.mod_lt _ (by omega), rfl⟩
  exact List.mem_range'_1.mpr ⟨Nat.zero_le _, by omega⟩

/-- `getAddr` returns what the loop ends with, and diverges where the loop does. -/
theorem getAddr_halts (proper : ∀ range ∈ ranges, range.start ≤ range.stop ∧ range.stop < 2 ^ 32)
    (state : Daemon) : getAddr uaddr ranges state = .ok addr state ↔
      Loop.Halts (addrBody uaddr) (.enter ranges) addr := by
  have returns (found : Nat) : (pure found : Prog Nat) state = .ok addr state ↔ found = addr :=
    ⟨fun same => by cases same; rfl, fun same => by rw [same]; rfl⟩
  induction ranges with
  | nil =>
    have stops : addrBody uaddr (.enter []) = .inr 0 := rfl
    exact (returns 0).trans (Loop.halts_last stops).symm
  | cons range following ih =>
    have later := ih fun other member => proper other (List.mem_cons_of_mem _ member)
    obtain ⟨order, small⟩ := proper range List.mem_cons_self
    have enters : AddrLoop.enter (range :: following) =
        ⟨range :: following, range.start % 2 ^ 32⟩ := by
      rw [Nat.mod_eq_of_lt (by omega)]
      rfl
    rw [getAddr]
    cases sense : range.allow with
    | false => exact later.trans (Loop.halts_step (addrBody_leave (by simp [sense]))).symm
    | true =>
      rw [if_neg (by decide), enters]
      by_cases short : range.stop + 1 < 2 ^ 32
      · have left : range.start + (range.stop + 1 - range.start) = range.stop + 1 := by omega
        rw [if_pos short, scan_halts sense small left]
        cases scanAddr uaddr following range.start (range.stop + 1 - range.start) with
        | some found => exact returns found
        | none =>
          have passed : range.stop < (range.stop + 1) % 2 ^ 32 := by omega
          exact later.trans (Loop.halts_step (addrBody_leave fun _ => passed)).symm
      · have left : range.start + (2 ^ 32 - range.start) = range.stop + 1 := by omega
        have whole : 0 + 2 ^ 32 = range.stop + 1 := by omega
        rw [if_neg short, scan_halts sense small left, ← whole]
        cases scanAddr uaddr following range.start (2 ^ 32 - range.start) with
        | some found => exact returns found
        | none =>
          have again : Loop.Halts (addrBody uaddr) ⟨range :: following, 0⟩ addr ↔ _ :=
            scan_halts sense small whole
          cases scan : scanAddr uaddr following 0 (2 ^ 32) with
          | some found =>
            rw [scan] at again
            exact (returns found).trans again.symm
          | none => exact iff_of_false (nomatch ·) (wrapped_loops sense (by omega) scan)

theorem inside_of_start (start : range.start ≤ x) : AddrLoop.Inside ⟨range :: following, x⟩ := by
  rintro _ _ ⟨⟩ _ _
  exact start

theorem scan_found (sense : range.allow = true) (small : range.stop < 2 ^ 32)
    (start : range.start ≤ x) (ahead : x ≤ addr) (below : addr ≤ range.stop)
    (grant : (!ipUsed uaddr addr && lastSense true following addr) = true) :
    Loop.Within (addrBody uaddr) AddrLoop.Inside ⟨range :: following, x⟩ := by
  obtain ⟨left, distance⟩ := Nat.exists_eq_add_of_le ahead
  have here : AddrLoop.Inside ⟨range :: following, x⟩ := inside_of_start start
  induction left generalizing x with
  | zero =>
    obtain rfl : addr = x := distance
    exact (Loop.within_last (addrBody_found sense below grant)).mpr here
  | succ left ih =>
    by_cases granted : (!ipUsed uaddr x && lastSense true following x) = true
    · exact (Loop.within_last (addrBody_found sense (Nat.le_trans ahead below) granted)).mpr here
    · rw [Loop.within_step (addrBody_next sense (Nat.le_trans ahead below) granted),
        Nat.mod_eq_of_lt (by omega)]
      have onward : range.start ≤ x + 1 := by omega
      exact ⟨here, ih onward (by omega) (by omega) (inside_of_start onward)⟩

theorem scan_past (sense : range.allow = true) (small : range.stop < 2 ^ 32)
    (none : ∀ addr, range.contains addr = true →
      ¬ (!ipUsed uaddr addr && lastSense true following addr) = true)
    (start : range.start ≤ x) (below : x ≤ range.stop) :
    Loop.Within (addrBody uaddr) AddrLoop.Inside ⟨range :: following, x⟩ ↔
      Loop.Within (addrBody uaddr) AddrLoop.Inside
        ⟨range :: following, (range.stop + 1) % 2 ^ 32⟩ := by
  obtain ⟨left, distance⟩ := Nat.exists_eq_add_of_le below
  induction left generalizing x with
  | zero =>
    obtain rfl : range.stop = x := distance
    rw [Loop.within_step (addrBody_next sense below (none _ (contains_iff.mpr ⟨start, below⟩))),
      and_iff_right (inside_of_start start)]
  | succ left ih =>
    rw [Loop.within_step (addrBody_next sense below (none x (contains_iff.mpr ⟨start, below⟩))),
      and_iff_right (inside_of_start start), Nat.mod_eq_of_lt (by omega)]
    exact ih (by omega) (by omega) (by omega)

/-- Behind the largest address the counter is zero: outside the range, or at its start again. -/
theorem scan_wraps (sense : range.allow = true) (last : range.stop = 2 ^ 32 - 1)
    (none : ∀ addr, range.contains addr = true →
      ¬ (!ipUsed uaddr addr && lastSense true following addr) = true) :
    ¬ Loop.Within (addrBody uaddr) AddrLoop.Inside ⟨range :: following, 0⟩ := by
  rintro ⟨⟨outcome, halts⟩, reached⟩
  have start : range.start ≤ 0 := reached _ .refl range following rfl sense (Nat.zero_le _)
  refine Loop.not_halts (fun state => ∃ x, x ≤ range.stop ∧ state = ⟨range :: following, x⟩) ?_
    ⟨0, Nat.zero_le _, rfl⟩ halts
  rintro _ ⟨x, below, rfl⟩
  refine ⟨_, addrBody_next sense below (none x (contains_iff.mpr ⟨by omega, below⟩)), _, ?_, rfl⟩
  omega

theorem enter_allow_iff (sense : range.allow = true)
    (proper : range.start ≤ range.stop ∧ range.stop < 2 ^ 32) :
    Loop.Within (addrBody uaddr) AddrLoop.Inside (.enter (range :: following)) ↔
      (∃ addr, range.contains addr = true ∧
        (!ipUsed uaddr addr && lastSense true following addr) = true) ∨
      range.stop < 2 ^ 32 - 1 ∧
        Loop.Within (addrBody uaddr) AddrLoop.Inside (.enter following) := by
  by_cases found : ∃ addr, range.contains addr = true ∧
      (!ipUsed uaddr addr && lastSense true following addr) = true
  · obtain ⟨addr, inside, grant⟩ := found
    obtain ⟨start, below⟩ := contains_iff.mp inside
    exact iff_of_true (scan_found sense proper.2 (Nat.le_refl _) start below grant)
      (.inl ⟨addr, inside, grant⟩)
  · have none (addr : Nat) (inside : range.contains addr = true)
        (grant : (!ipUsed uaddr addr && lastSense true following addr) = true) : False :=
      found ⟨addr, inside, grant⟩
    rw [or_iff_right found]
    refine (scan_past sense proper.2 none (Nat.le_refl _) proper.1).trans ?_
    by_cases short : range.stop < 2 ^ 32 - 1
    · have passed : range.stop < range.stop + 1 := Nat.lt_succ_self _
      rw [and_iff_right short, Nat.mod_eq_of_lt (by omega),
        Loop.within_step (addrBody_leave fun _ => passed)]
      exact and_iff_right (inside_of_start (by omega))
    · have last : range.stop = 2 ^ 32 - 1 := by omega
      rw [last]
      exact iff_of_false (scan_wraps sense last none) fun both => short (last ▸ both.1)

/-- `get_addr` stops and looks only at addresses of its range, exactly when every allow range it
comes to the end of ends below the largest address. -/
theorem address_scan_iff (uaddr : Nat → List Nat)
    (proper : ∀ range ∈ ranges, range.start ≤ range.stop ∧ range.stop < 2 ^ 32) :
    Loop.Within (addrBody uaddr) AddrLoop.Inside (.enter ranges) ↔ ScansEnd uaddr ranges := by
  induction ranges with
  | nil =>
    have stops : addrBody uaddr (.enter []) = .inr 0 := rfl
    rw [Loop.within_last stops]
    exact iff_of_true (fun _ _ shape => nomatch shape) trivial
  | cons range following ih =>
    have later := ih fun other member => proper other (List.mem_cons_of_mem _ member)
    rw [ScansEnd]
    cases sense : range.allow with
    | false =>
      have leave : addrBody uaddr (.enter (range :: following)) = .inl (.enter following) :=
        addrBody_leave fun allow => by rw [sense] at allow; cases allow
      rw [Loop.within_step leave, later]
      exact and_iff_right fun _ _ shape allow => by cases shape; rw [sense] at allow; cases allow
    | true =>
      rw [if_pos rfl, ← later]
      exact enter_allow_iff sense (proper range List.mem_cons_self)

theorem last_range_scanned :
    Loop.Within (addrBody fun _ => []) AddrLoop.Inside (.enter [⟨2 ^ 32 - 2, 2 ^ 32 - 1, true⟩]) ↔
      ScansEnd (fun _ => []) [⟨2 ^ 32 - 2, 2 ^ 32 - 1, true⟩] :=
  address_scan_iff (fun _ => []) (by decide)

/-- The only address of the range is in use, and the scan goes on at address zero. -/
theorem last_range_left :
    ¬ Loop.Within (addrBody fun _ => [2 ^ 32 - 1]) AddrLoop.Inside
      (.enter [⟨2 ^ 32 - 1, 2 ^ 32 - 1, true⟩]) := by
  intro within
  have turn : addrBody (fun _ => [2 ^ 32 - 1]) (.enter [⟨2 ^ 32 - 1, 2 ^ 32 - 1, true⟩]) =
      .inl ⟨[⟨2 ^ 32 - 1, 2 ^ 32 - 1, true⟩], 0⟩ := by decide
  have zero := ((Loop.within_step turn).mp within).2.2 _ .refl
  exact absurd (zero _ _ rfl rfl (by decide)) (by decide)

end Loop

end Xl2tpd
