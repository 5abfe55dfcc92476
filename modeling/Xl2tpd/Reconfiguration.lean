import Xl2tpd.Ledger.Entries
import Xl2tpd.OptionText
import Xl2tpd.Runs
import Xl2tpd.Sim.Daemon

/-!
# Requests that fail

An add request ends at the first option that is not taken. A LAC entry is listed only when all its
options were taken. An LNS entry is listed at once and changed option by option.
-/

namespace Xl2tpd

set_option autoImplicit false

open Program

attribute [ext] Lns

/-! ## What an option stores -/

inductive LnsMember
  | exclusive
  | localaddr
  | tunRws
  | rxspeed
  | txspeed
  | hbit
  | lbit
  | challenge
  | authpeer
  | authself
  | authname
  | hostname
  | assignIp
  | passwdauth
  | papRequire
  | chapRequire
  | papRefuse
  | chapRefuse
  | debug
  | passPeer
  | pppoptfile
  deriving DecidableEq, Repr

inductive MemberValue
  | flag (value : Bool)
  | number (value : Int)
  | address (value : Nat)
  | octets (value : Bytes)
  deriving DecidableEq, Repr

def Lns.member (entry : Lns) : LnsMember → MemberValue
  | .exclusive => .flag entry.exclusive
  | .localaddr => .address entry.localaddr
  | .tunRws => .number entry.tunRws
  | .rxspeed => .number entry.rxspeed
  | .txspeed => .number entry.txspeed
  | .hbit => .flag entry.hbit
  | .lbit => .flag entry.lbit
  | .challenge => .flag entry.challenge
  | .authpeer => .flag entry.authpeer
  | .authself => .flag entry.authself
  | .authname => .octets entry.authname
  | .hostname => .octets entry.hostname
  | .assignIp => .flag entry.assignIp
  | .passwdauth => .flag entry.passwdauth
  | .papRequire => .flag entry.papRequire
  | .chapRequire => .flag entry.chapRequire
  | .papRefuse => .flag entry.papRefuse
  | .chapRefuse => .flag entry.chapRefuse
  | .debug => .flag entry.debug
  | .passPeer => .flag entry.passPeer
  | .pppoptfile => .octets entry.pppoptfile

def Setting.stores : Setting → List (LnsMember × MemberValue)
  | .exclusive value => [(.exclusive, .flag value)]
  | .assignIp value => [(.assignIp, .flag value)]
  | .localIp addr => [(.localaddr, .address addr)]
  | .lengthBit value => [(.lbit, .flag value)]
  | .hiddenBit value => [(.hbit, .flag value)]
  | .requirePap value => [(.papRequire, .flag value)]
  | .requireChap value => [(.chapRequire, .flag value)]
  | .requireAuthentication value => [(.authpeer, .flag value)]
  | .refusePap value => [(.papRefuse, .flag value)]
  | .refuseChap value => [(.chapRefuse, .flag value)]
  | .refuseAuthentication value => [(.authself, .flag !value)]
  | .unixAuthentication value => [(.passwdauth, .flag value)]
  | .name value => [(.authname, .octets (value.take strlen))]
  | .hostname value => [(.hostname, .octets (value.take strlen))]
  | .pppDebug value => [(.debug, .flag value)]
  | .passPeer value => [(.passPeer, .flag value)]
  | .pppoptfile value => [(.pppoptfile, .octets (value.take strlen))]
  | .tunnelRws value => if value < 0 then [] else [(.tunRws, .number value)]
  | .challenge value => [(.challenge, .flag value)]
  | .txBps value => [(.txspeed, .number value)]
  | .rxBps value => [(.rxspeed, .number value)]
  | .bps value => [(.rxspeed, .number value), (.txspeed, .number value)]
  | _ => []

inductive LnsRanges
  | range
  | localrange
  | lacs
  deriving DecidableEq, Repr

def Lns.ranges (entry : Lns) : LnsRanges → List IpRange
  | .range => entry.range
  | .localrange => entry.localrange
  | .lacs => entry.lacs

/-- The ranges that an option that is taken puts behind a list. -/
def Setting.adds : Setting → LnsRanges → List IpRange
  | .ipRange range, .range => range.toList
  | .localIpRange range, .localrange => range.toList
  | .lac range, .lacs => range.toList
  | _, _ => []

/-- An option whose range cannot be read loses the list, the local one only if the option came to
read it. -/
def Setting.clears (localaddr : Nat) : Setting → LnsRanges → Bool
  | .ipRange none, .range => true
  | .localIpRange none, .localrange => localaddr = 0
  | .lac none, .lacs => true
  | _, _ => false

/-- What an option that is taken makes of the window of the calls. -/
def Setting.window (window : Int) : Setting → Int
  | .callRws value => if value < 0 then window else value
  | .flowBit value => setFlow window value
  | _ => window

/-! ## One option -/

section Windows

variable {old value : Int}

end Windows

section Options

variable {entry : Lns} {setting : Setting}

end Options

/-! ## All options up to the faulty one -/

section Request

variable {entry : Lns} {done : List Setting} {bad : Setting} {settings : List Setting}

def Lns.identity (entry : Lns) : LnsRef × Bytes × Bytes × Option TunnelRef :=
  (entry.ref, entry.peername, entry.entname, entry.t)

end Request

/-! ## The request -/

structure Daemon.LnsApart (state : Daemon) : Prop where
  distinct : ((state.lnslist ++ state.deflns.toList).map Lns.ref).Nodup

theorem runs_lnsApart {env : Env} {condition : Daemon → Input → Prop} {state : Daemon}
    (runs : Runs env condition state) : state.LnsApart :=
  ⟨(runs_entriesApart runs).lnss.distinct⟩

section Requests

variable {env : Env} {state : Daemon} {name : Bytes} {done rest : List Setting} {bad : Setting}
  {change : Lns → Lns} {entry : Lns}

theorem writeLns_found {lns : LnsRef} (found : state.lns? lns = some entry) :
    writeLns lns change state = .ok () (state.setLns lns change) :=
  bind_run (deref_ok.mpr ⟨found, rfl⟩)

/-- The LNS entries with a new one in front. -/
def Daemon.pushLns (state : Daemon) (name : Bytes) : Daemon :=
  { state with
    fresh := state.fresh + 1
    lnslist := { ref := state.fresh, entname := name.take strlen } :: state.lnslist }

theorem pushLns_found : (state.pushLns name).lns? state.fresh =
    some { ref := state.fresh, entname := name.take strlen } := by
  unfold Daemon.lns? Daemon.pushLns
  rw [List.cons_append, Keyed.find_cons, if_pos rfl]

theorem lns_request_new (unknown : findLnsByName state name = none) (settings : List Setting) :
    controlHandleLnsAddModify name settings state =
      .ok () ((state.pushLns name).setLns state.fresh fun entry =>
        (applySettings Setting.applyLns entry settings).1) := by
  have looked : lnsEntry name state = .ok state.fresh (state.pushLns name) := by
    unfold lnsEntry
    rw [bind_get, unknown]
    rfl
  exact (bind_run looked).trans (writeLns_found pushLns_found)

theorem found_listed (known : findLnsByName state name = some entry) :
    entry ∈ state.lnslist ++ state.deflns.toList := by
  unfold findLnsByName at known
  split at known
  · exact List.mem_append_right _ (by simp [known])
  · exact List.mem_append_left _ (List.mem_of_find?_eq_some known)

theorem lns_request_found (apart : state.LnsApart) (known : findLnsByName state name = some entry)
    (settings : List Setting) :
    controlHandleLnsAddModify name settings state =
      .ok () (state.setLns entry.ref fun entry =>
        (applySettings Setting.applyLns entry settings).1) := by
  have looked : lnsEntry name state = .ok entry.ref state := by
    unfold lnsEntry
    rw [bind_get, known]
    rfl
  have found : state.lns? entry.ref = some entry :=
    Keyed.find_of_mem apart.distinct (found_listed known)
  exact (bind_run looked).trans (writeLns_found found)

end Requests

/-! ### Two requests -/

end Xl2tpd
