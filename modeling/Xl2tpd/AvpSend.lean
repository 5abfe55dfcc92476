import Xl2tpd.State

/-!
# Building AVPs

Each function returns the octets that its namesake of `avpsend.c` appends to the
outgoing buffer.
-/

namespace Xl2tpd

set_option autoImplicit false

def mbit : UInt16 := 0x8000

def ourL2tpVersion : UInt16 := 0x100

def firmwareRev : UInt16 := 0x0690

def vendorName : Bytes := text "xelerance.com"

def maxAvpSize : Nat := 1023

def addNonmandatoryHeader (length : UInt16) (type : UInt16) : Bytes :=
  netBytes length ++ netBytes 0 ++ netBytes type

def addHeader (length : UInt16) (type : UInt16) : Bytes :=
  addNonmandatoryHeader (length ||| mbit) type

def netInt (value : Int) : Bytes := netLong (value % 2 ^ 32).toNat

def addMessageTypeAvp (type : MsgType) : Bytes :=
  addHeader 8 0 ++ netBytes (UInt16.ofNat type.toNat)

def addProtocolAvp : Bytes := addHeader 8 2 ++ netBytes ourL2tpVersion

def addFrameCapsAvp (caps : Nat) : Bytes :=
  addHeader 10 3 ++ netBytes 0 ++ netBytes (UInt16.ofNat caps)

def addBearerCapsAvp (caps : Nat) : Bytes :=
  addHeader 10 4 ++ netBytes 0 ++ netBytes (UInt16.ofNat caps)

def addFirmwareAvp : Bytes := addNonmandatoryHeader 8 6 ++ netBytes firmwareRev

def addHostnameAvp (hostname : Bytes) : Bytes :=
  let name := hostname.take (maxAvpSize - 6)
  addHeader (UInt16.ofNat (6 + name.length)) 7 ++ name

def addVendorAvp : Bytes :=
  addNonmandatoryHeader (UInt16.ofNat (6 + vendorName.length)) 8 ++ vendorName

def addTunnelidAvp (tid : UInt16) : Bytes := addHeader 8 9 ++ netBytes tid

def addAvpRws (rws : Int) : Bytes := addHeader 8 10 ++ netBytes (UInt16.ofNat rws.toNat)

def addChallengeAvp (challenge : Bytes) : Bytes :=
  addHeader (UInt16.ofNat (6 + challenge.length)) 11 ++ challenge

def addChalrespAvp (response : Bytes) : Bytes :=
  addHeader (UInt16.ofNat (6 + response.length)) 13 ++ response

def addRandvectAvp (vector : Bytes) : Bytes :=
  addHeader (UInt16.ofNat (6 + vector.length)) 36 ++ vector

def addResultCodeAvp (result error : Int) (message : Bytes) : Bytes :=
  addHeader (UInt16.ofNat (10 + message.length)) 1 ++ netBytes (UInt16.ofInt result) ++
    netBytes (UInt16.ofInt error) ++ message

def addCallidAvp (callid : UInt16) : Bytes := addHeader 8 14 ++ netBytes callid

def addSernoAvp (serno : Nat) : Bytes := addHeader 10 15 ++ netLong serno

def addMinbpsAvp (speed : Int) : Bytes := addHeader 10 16 ++ netInt speed

def addMaxbpsAvp (speed : Int) : Bytes := addHeader 10 17 ++ netInt speed

def addBearerAvp (bearer : Int) : Bytes := addHeader 10 18 ++ netInt bearer

def addFrameAvp (frame : Int) : Bytes := addHeader 10 19 ++ netInt frame

def addNumberAvp (number : Bytes) : Bytes :=
  addHeader (UInt16.ofNat (6 + number.length)) 21 ++ number

def addTxspeedAvp (speed : Int) : Bytes := addHeader 10 24 ++ netInt speed

def addRxspeedAvp (speed : Int) : Bytes := addNonmandatoryHeader 10 38 ++ netInt speed

end Xl2tpd
