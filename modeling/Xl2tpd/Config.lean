import Xl2tpd.State

/-!
# Configuration options

The options of the configuration file and of the add requests, after their text has been read. The
first one that does not fit ends the work and leaves the earlier changes in place.
-/

namespace Xl2tpd

set_option autoImplicit false

/-- A line `word = value`; `rejected` is one that no entry takes and that changes nothing. -/
inductive Setting
  | exclusive (value : Bool)
  | autodial (value : Bool)
  | redial (value : Bool)
  | redialTimeout (value : Nat)
  | maxRedials (value : Nat)
  | lns (host : Host)
  | ipRange (range : Option IpRange)
  | localIpRange (range : Option IpRange)
  | lac (range : Option IpRange)
  | assignIp (value : Bool)
  | localIp (addr : Nat)
  | remoteIp (addr : Nat)
  | defaultroute (value : Bool)
  | lengthBit (value : Bool)
  | hiddenBit (value : Bool)
  | requirePap (value : Bool)
  | requireChap (value : Bool)
  | requireAuthentication (value : Bool)
  | refusePap (value : Bool)
  | refuseChap (value : Bool)
  | refuseAuthentication (value : Bool)
  | unixAuthentication (value : Bool)
  | name (value : Bytes)
  | hostname (value : Bytes)
  | pppDebug (value : Bool)
  | passPeer (value : Bool)
  | pppoptfile (value : Bytes)
  | callRws (value : Int)
  | tunnelRws (value : Int)
  | flowBit (value : Bool)
  | challenge (value : Bool)
  | txBps (value : Nat)
  | rxBps (value : Nat)
  | bps (value : Nat)
  | rejected
  deriving DecidableEq, Repr

def strlen : Nat := 100

/-- `set_rws` for calls: `set_int` takes no negative number, and its failure is not looked at. -/
def setCallRws (callRws value : Int) : Int × Bool :=
  if value < -1 then (callRws, false)
  else if value < 0 then (callRws, true)
  else (value, true)

/-- `set_rws` for tunnels: the window is looked at after it is set. -/
def setTunnelRws (tunRws value : Int) : Int × Bool :=
  if value < -1 then (tunRws, false)
  else if value < 0 then (tunRws, 1 ≤ tunRws)
  else (value, 1 ≤ value)

def setFlow (callRws : Int) (value : Bool) : Int :=
  if value then (if callRws < 0 then 0 else callRws) else -1

/-- `set_range`: a new range goes to the end; a failure loses the list. -/
def setRange (ranges : List IpRange) : Option IpRange → List IpRange × Bool
  | some range => (ranges ++ [range], true)
  | none => ([], false)

def Setting.applyLns (entry : Lns) : Setting → Lns × Bool
  | .exclusive value => ({ entry with exclusive := value }, true)
  | .ipRange range =>
      let (ranges, success) := setRange entry.range range
      ({ entry with range := ranges }, success)
  | .localIpRange range =>
      if entry.localaddr ≠ 0 then (entry, false)
      else
        let (ranges, success) := setRange entry.localrange range
        ({ entry with localrange := ranges }, success)
  | .lac range =>
      let (ranges, success) := setRange entry.lacs range
      ({ entry with lacs := ranges }, success)
  | .assignIp value => ({ entry with assignIp := value }, true)
  | .localIp addr =>
      if entry.localrange ≠ [] then (entry, false) else ({ entry with localaddr := addr }, true)
  | .lengthBit value => ({ entry with lbit := value }, true)
  | .hiddenBit value => ({ entry with hbit := value }, true)
  | .requirePap value => ({ entry with papRequire := value }, true)
  | .requireChap value => ({ entry with chapRequire := value }, true)
  | .requireAuthentication value => ({ entry with authpeer := value }, true)
  | .refusePap value => ({ entry with papRefuse := value }, true)
  | .refuseChap value => ({ entry with chapRefuse := value }, true)
  | .refuseAuthentication value => ({ entry with authself := !value }, true)
  | .unixAuthentication value => ({ entry with passwdauth := value }, true)
  | .name value => ({ entry with authname := value.take strlen }, true)
  | .hostname value => ({ entry with hostname := value.take strlen }, true)
  | .pppDebug value => ({ entry with debug := value }, true)
  | .passPeer value => ({ entry with passPeer := value }, true)
  | .pppoptfile value => ({ entry with pppoptfile := value.take strlen }, true)
  | .callRws value =>
      let (window, success) := setCallRws entry.callRws value
      ({ entry with callRws := window }, success)
  | .tunnelRws value =>
      let (window, success) := setTunnelRws entry.tunRws value
      ({ entry with tunRws := window }, success)
  | .flowBit value => ({ entry with callRws := setFlow entry.callRws value }, true)
  | .challenge value => ({ entry with challenge := value }, true)
  | .txBps value => if value < 1 then (entry, false) else ({ entry with txspeed := value }, true)
  | .rxBps value => if value < 1 then (entry, false) else ({ entry with rxspeed := value }, true)
  | .bps value =>
      if value < 1 then (entry, false)
      else ({ entry with rxspeed := value, txspeed := value }, true)
  | _ => (entry, false)

def Setting.applyLac (entry : Lac) : Setting → Lac × Bool
  | .autodial value => ({ entry with autodial := value }, true)
  | .redial value => ({ entry with redial := value }, true)
  | .redialTimeout value =>
      if value < 1 then (entry, false) else ({ entry with rtimeout := value }, true)
  | .maxRedials value => if value < 1 then (entry, false) else ({ entry with rmax := value }, true)
  | .lns host => ({ entry with lns := entry.lns ++ [host] }, true)
  | .localIp addr => ({ entry with localaddr := addr }, true)
  | .remoteIp addr => ({ entry with remoteaddr := addr }, true)
  | .defaultroute value => ({ entry with defaultroute := value }, true)
  | .lengthBit value => ({ entry with lbit := value }, true)
  | .hiddenBit value => ({ entry with hbit := value }, true)
  | .requirePap value => ({ entry with papRequire := value }, true)
  | .requireChap value => ({ entry with chapRequire := value }, true)
  | .requireAuthentication value => ({ entry with authpeer := value }, true)
  | .refusePap value => ({ entry with papRefuse := value }, true)
  | .refuseChap value => ({ entry with chapRefuse := value }, true)
  | .refuseAuthentication value => ({ entry with authself := !value }, true)
  | .name value => ({ entry with authname := value.take strlen }, true)
  | .hostname value => ({ entry with hostname := value.take strlen }, true)
  | .pppDebug value => ({ entry with debug := value }, true)
  | .passPeer value => ({ entry with passPeer := value }, true)
  | .pppoptfile value => ({ entry with pppoptfile := value.take strlen }, true)
  | .callRws value =>
      let (window, success) := setCallRws entry.callRws value
      ({ entry with callRws := window }, success)
  | .tunnelRws value =>
      let (window, success) := setTunnelRws entry.tunRws value
      ({ entry with tunRws := window }, success)
  | .flowBit value => ({ entry with callRws := setFlow entry.callRws value }, true)
  | .challenge value => ({ entry with challenge := value }, true)
  | .txBps value => if value < 1 then (entry, false) else ({ entry with txspeed := value }, true)
  | .rxBps value => if value < 1 then (entry, false) else ({ entry with rxspeed := value }, true)
  | .bps value =>
      if value < 1 then (entry, false)
      else ({ entry with rxspeed := value, txspeed := value }, true)
  | _ => (entry, false)

/-- `parse_one_line` over the options of a request. -/
def applySettings {Entry : Type} (apply : Entry → Setting → Entry × Bool) (entry : Entry) :
    List Setting → Entry × Bool
  | [] => (entry, true)
  | setting :: rest =>
      let (changed, success) := apply entry setting
      if success then applySettings apply changed rest else (changed, false)

end Xl2tpd
