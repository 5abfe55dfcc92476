import Xl2tpd.Memory

/-!
# Access control, address pool and tunnel authentication
-/

namespace Xl2tpd

set_option autoImplicit false

def IpRange.contains (range : IpRange) (addr : Nat) : Bool :=
  range.start ≤ addr && addr ≤ range.stop

/-- The sense of the last range that contains the address. -/
def lastSense (initial : Bool) (ranges : List IpRange) (addr : Nat) : Bool :=
  ranges.foldl (fun sense range => if range.contains addr then range.allow else sense) initial

def getLns (env : Env) (state : Daemon) (tunnel : Tunnel) : Option LnsRef :=
  match (state.lnslist ++ state.deflns.toList).find? fun entry =>
      lastSense false entry.lacs tunnel.peer.addr with
  | some entry => some entry.ref
  | none => if env.accesscontrol then none else state.deflns.map Lns.ref

/-! ## Address pool -/

def addrHashSize : Nat := 256

def ipUsed (uaddr : Nat → List Nat) (addr : Nat) : Bool :=
  (uaddr (addr % addrHashSize)).contains addr

def reserveAddr (addr : Nat) : Prog Unit :=
  modify fun state =>
    if ipUsed state.uaddr addr then state
    else
      { state with
        uaddr := Function.update state.uaddr (addr % addrHashSize)
          (addr :: state.uaddr (addr % addrHashSize)) }

def unreserveAddr (addr : Nat) : Prog Unit :=
  modify fun state =>
    { state with
      uaddr := Function.update state.uaddr (addr % addrHashSize)
        ((state.uaddr (addr % addrHashSize)).filter fun entry => entry ≠ addr) }

/-- The scan of one ALLOW range: `count` addresses from `first` on. -/
def scanAddr (uaddr : Nat → List Nat) (following : List IpRange) (first : Nat) :
    Nat → Option Nat
  | 0 => none
  | count + 1 =>
      if !ipUsed uaddr first && lastSense true following first then some first
      else scanAddr uaddr following (first + 1) count

/-- `get_addr`. Behind a range that ends at the largest address the counter wraps to zero. -/
def getAddr (uaddr : Nat → List Nat) : List IpRange → Prog Nat
  | [] => pure 0
  | range :: following =>
      if !range.allow then getAddr uaddr following
      else if range.stop + 1 < 2 ^ 32 then
        match scanAddr uaddr following range.start (range.stop + 1 - range.start) with
        | some addr => pure addr
        | none => getAddr uaddr following
      else
        match scanAddr uaddr following range.start (2 ^ 32 - range.start) with
        | some addr => pure addr
        | none =>
            match scanAddr uaddr following 0 (2 ^ 32) with
            | some addr => pure addr
            | none => throw .diverges

/-! ## Challenges -/

def mdSigSize : Nat := 16

def vectorSize : Nat := 16

def mkChallenge (env : Env) (length : Nat) : Prog Bytes := getEntropy env length

/-- The name we go by and the name we know the peer by, from the entry that owns
the tunnel. -/
def challengeNames (env : Env) (tunnel : Tunnel) : Prog (Option (Bytes × Bytes)) :=
  match tunnel.lns, tunnel.lac with
  | some lns, _ => do
      let entry ← readLns lns
      pure (some (if entry.hostname ≠ [] then entry.hostname else env.hostname,
        if entry.peername ≠ [] then entry.peername else tunnel.hostname))
  | none, some lac => do
      let entry ← readLac lac
      pure (some (if entry.hostname ≠ [] then entry.hostname else env.hostname,
        if entry.peername ≠ [] then entry.peername else tunnel.hostname))
  | none, none => pure none

/-- `MD5 (ss, secret, challenge)`. -/
def Env.response (env : Env) (ss : Nat) (secret challenge : Bytes) : Bytes :=
  List.ofFn (env.md5 (UInt8.ofNat ss :: (secret ++ challenge)))

def Challenge.answer (env : Env) (secret : Bytes) (chal : Challenge) : Challenge :=
  { chal with
    secret := secret
    response := env.response chal.ss secret (chal.challenge.getD [])
    challenged := true }

/-- Which of a tunnel's two challenges a pointer denotes. -/
inductive ChalSide
  | us | them
  deriving DecidableEq, Repr

def Tunnel.setChal (tunnel : Tunnel) (side : ChalSide) (change : Challenge → Challenge) : Tunnel :=
  match side with
  | .us => { tunnel with chalUs := change tunnel.chalUs }
  | .them => { tunnel with chalThem := change tunnel.chalThem }

/-- `handle_challenge`, true when it returns 0. -/
def handleChallenge (env : Env) (t : TunnelRef) (side : ChalSide) : Prog Bool := do
  let tunnel ← readTunnel t
  match ← challengeNames env tunnel with
  | none => pure false
  | some (us, them) =>
      match env.getSecret us them with
      | none => pure false
      | some secret => do
          writeTunnel t fun tunnel => tunnel.setChal side (Challenge.answer env secret)
          pure true

/-! ## Hidden AVPs -/

def hostBytes (value : UInt16) : Bytes :=
  [UInt8.ofNat (value.toNat % 256), UInt8.ofNat (value.toNat / 256)]

def xorBytes (first second : Bytes) : Bytes :=
  (first.zip second).map fun pair => pair.1 ^^^ pair.2

/-- The decryption loop; the digest of a segment is taken from the cipher text before it. -/
def decryptSegments (env : Env) (secret : Bytes) : Nat → Bytes → Bytes → Bytes
  | 0, _, cipher => cipher
  | fuel + 1, digest, cipher =>
      if cipher = [] then []
      else
        xorBytes (cipher.take mdSigSize) digest ++
          decryptSegments env secret fuel
            (List.ofFn (env.md5 (secret ++ cipher.take mdSigSize))) (cipher.drop mdSigSize)

/-- `decrypt_avp` on an AVP with a swapped header: the buffer from the new header on, two octets
further, or nothing on failure. -/
def decryptAvp (env : Env) (chal : Challenge) (data : Bytes) : Option Bytes :=
  match chal.vector with
  | none => none
  | some vector =>
      let length := hostWord data 0
      let attr := hostWord data 4
      let olen := (length &&& 0x0FFF).toNat
      let digest := List.ofFn (env.md5 (netBytes attr ++ chal.secret ++ vector))
      let plain := decryptSegments env chal.secret olen digest ((data.take olen).drop 6)
      let len := (netWord plain 0).toNat + 6
      if len + 2 > olen then none
      else
        some (hostBytes (UInt16.ofNat len ||| (length &&& 0xB000)) ++ hostBytes (hostWord data 2) ++
          hostBytes attr ++ plain.drop 2 ++ data.drop olen)

def encryptSegments (env : Env) (secret : Bytes) : Nat → Bytes → Bytes → Bytes
  | 0, _, plain => plain
  | blocks + 1, digest, plain =>
      let cipher := xorBytes (plain.take mdSigSize) digest
      cipher ++ encryptSegments env secret blocks (List.ofFn (env.md5 (secret ++ cipher)))
        (plain.drop mdSigSize)

/-- The size an AVP of `len` octets has once it is hidden. -/
def hiddenLength (len : Nat) : Nat := ((len - 6 + 1) / 16 + 1) * 16 + 6

/-- `encrypt_avp`: `data` runs from two spare octets, with the AVP of `len` octets behind them. The
new header lies over these and the first four of the old one, whose last two become the length of
the hidden value. -/
def encryptAvp (env : Env) (chal : Challenge) (len : Nat) (data : Bytes) : Bytes :=
  let length := hiddenLength len
  let flags := netWord data 2 &&& 0xF000
  let data := overwrite data 0 (netBytes (UInt16.ofNat length ||| flags ||| 0x4000))
  let data := overwrite data 2 ((data.drop 4).take 2)
  let attr := (data.drop 6).take 2
  let data := overwrite data 4 attr
  let data := overwrite data 6 (netBytes (UInt16.ofNat (len - 6)))
  let digest := List.ofFn (env.md5 (attr ++ chal.secret ++ (chal.vector.getD []).take vectorSize))
  data.take 6 ++
    encryptSegments env chal.secret ((length - 6) / 16) digest ((data.take length).drop 6) ++
    data.drop length

/-- The decryption loop of `decrypt_avp`, an octet at a time. -/
def decryptOctets (env : Env) (secret : Bytes) : Nat → Bytes → Bytes → Bytes → Bytes
  | _, _, _, [] => []
  | cnt, digest, saved, octet :: rest =>
      let digest := if cnt ≥ mdSigSize then List.ofFn (env.md5 (secret ++ saved)) else digest
      let cnt := if cnt ≥ mdSigSize then 0 else cnt
      let segment := (octet :: rest).take mdSigSize
      let saved := if cnt = 0 then overwrite saved 0 segment else saved
      (octet ^^^ digest.getD cnt 0) :: decryptOctets env secret (cnt + 1) digest saved rest

/-- `decrypt_avp` on the buffer from the old header on; `saved` is `saved_segment` on entry. -/
def decryptAvpInPlace (env : Env) (chal : Challenge) (saved data : Bytes) : Option Bytes :=
  match chal.vector with
  | none => none
  | some vector =>
      let olen := (hostWord data 0 &&& 0x0FFF).toNat
      let attr := hostWord data 4
      let digest := List.ofFn (env.md5 (netBytes attr ++ chal.secret ++ vector))
      let data := data.take 6 ++
        decryptOctets env chal.secret 0 digest saved ((data.take olen).drop 6) ++ data.drop olen
      let flags := hostWord data 0 &&& 0xF000 &&& ~~~0x4000
      let len := (netWord data 6).toNat + 6
      if len + 2 > olen then none
      else
        let data := overwrite data 6 ((data.drop 4).take 2)
        let data := overwrite data 4 ((data.drop 2).take 2)
        some (overwrite data 2 (hostBytes (UInt16.ofNat len ||| flags)))

end Xl2tpd
