import Ppaass.Agent.Error
import Ppaass.Lib.Framed

/-!
# SOCKS5 messages and codecs

`agent/src/transport/socks/message` and `agent/src/transport/socks/codec.rs`. The decoders work on a
read buffer with the operations of `Framed`, which panic where those of `bytes` do.
-/

namespace Ppaass.Agent

open Wire Framed

def SOCKS_V5 : UInt8 := 5

def SOCKS_V4 : UInt8 := 4

def IPV4_FLAG : UInt8 := 1

def IPV6_FLAG : UInt8 := 4

def DOMAIN_FLAG : UInt8 := 3

/-! ## Addresses -/

inductive Socks5Address where
  | ip (addr : SocketAddr)
  | domain (host : String) (port : UInt16)
  deriving DecidableEq, Repr

def Socks5Address.toUnified : Socks5Address → PpaassUnifiedAddress
  | .ip addr => .ip addr
  | .domain host port => .domain host port

def Socks5Address.ofUnified : PpaassUnifiedAddress → Socks5Address
  | .ip addr => .ip addr
  | .domain host port => .domain host port

/-- `From<Socks5Address> for Bytes`. -/
def Socks5Address.toBytes : Socks5Address → Bytes
  | .ip (.v4 v4 port) => [IPV4_FLAG] ++ v4.octets ++ beBytes 2 port.toNat
  | .ip (.v6 v6 port _ _) => [IPV6_FLAG] ++ v6.octets ++ beBytes 2 port.toNat
  | .domain host port =>
    [DOMAIN_FLAG] ++ [UInt8.ofNat host.utf8ByteSize] ++ utf8 host ++ beBytes 2 port.toNat

section
variable {σ ε : Type} (fail : ParseError → ε)

/-- The check before a part of an address is read. -/
def require (n : Nat) : CodecM σ ε Unit := do
  let remaining ← remaining
  if remaining < n then
    throw (.err (fail (.inputExhausted
      s!"Input bytes exhausted, remaining: {remaining}, require: {n}")))

def parseIpv4 : CodecM σ ε Socks5Address := do
  require fail 6
  let a ← getU8
  let b ← getU8
  let c ← getU8
  let d ← getU8
  return .ip (.v4 ⟨a, b, c, d⟩ (← getU16))

def parseIpv6 : CodecM σ ε Socks5Address := do
  require fail 18
  let a ← getU16
  let b ← getU16
  let c ← getU16
  let d ← getU16
  let e ← getU16
  let f ← getU16
  let g ← getU16
  let h ← getU16
  return .ip (.v6 ⟨a, b, c, d, e, f, g, h⟩ (← getU16) 0 0)

/-- The host a domain name's bytes stand for. -/
def domainName (bytes : Bytes) : String :=
  let text := fromUtf8Lossy bytes
  if text == "0" then "127.0.0.1" else text

def parseDomain : CodecM σ ε Socks5Address := do
  require fail 1
  let domainNameLength ← getU8
  require fail (domainNameLength.toNat + 2)
  let domainNameBytes ← splitTo domainNameLength.toNat
  return .domain (domainName domainNameBytes) (← getU16)

def parseAddressOfType (addressType : UInt8) : CodecM σ ε Socks5Address :=
  if addressType == IPV4_FLAG then parseIpv4 fail
  else if addressType == IPV6_FLAG then parseIpv6 fail
  else if addressType == DOMAIN_FLAG then parseDomain fail
  else throw (.err (fail (.invalidFormat s!"Invalid address type: {addressType}")))

/-- `Socks5Address::parse`. -/
def Socks5Address.parse : CodecM σ ε Socks5Address := do
  if (← remaining) == 0 then
    throw (.err (fail (.inputExhausted "Input bytes exhausted, remaining: 0")))
  let addressType ← getU8
  parseAddressOfType fail addressType

end

/-! ## Method selection -/

inductive Socks5AuthMethod where
  | noAuthenticationRequired
  | gssApi
  | usernameAndPassword
  | ianaAssigned
  | reservedForPrivateMethods
  | noAcceptableMethods
  deriving DecidableEq, Repr

namespace Socks5AuthMethod

def ofU8 (v : UInt8) : Socks5AuthMethod :=
  if v == 0 then noAuthenticationRequired
  else if v == 1 then gssApi
  else if v == 2 then usernameAndPassword
  else if v == 3 then ianaAssigned
  else if v == 8 then reservedForPrivateMethods
  else if v == 16 then noAcceptableMethods
  else noAuthenticationRequired

def toU8 : Socks5AuthMethod → UInt8
  | noAuthenticationRequired => 0
  | gssApi => 1
  | usernameAndPassword => 2
  | ianaAssigned => 3
  | reservedForPrivateMethods => 8
  | noAcceptableMethods => 16

end Socks5AuthMethod

structure Socks5AuthCommand where
  methods : List Socks5AuthMethod
  deriving DecidableEq, Repr

structure Socks5AuthCommandResult where
  method : Socks5AuthMethod
  deriving DecidableEq, Repr

namespace Socks5AuthCommandContentCodec

def getMethods : Nat → CodecM Unit Socks5DecodeError (List Socks5AuthMethod)
  | 0 => return []
  | n + 1 => do
    let method ← getU8
    let methods ← getMethods n
    return .ofU8 method :: methods

/-- `decode` once the buffer holds two bytes. -/
def decodeMethods : CodecM Unit Socks5DecodeError (Option Socks5AuthCommand) := do
  let version ← getU8
  if version != SOCKS_V5 then throw (.err (.invalidVersion version))
  let methodsNumber ← getU8
  let methods ← getMethods methodsNumber.toNat
  return some ⟨methods⟩

def decode : CodecM Unit Socks5DecodeError (Option Socks5AuthCommand) := do
  if (← remaining) < 2 then return none else decodeMethods

def encode (item : Socks5AuthCommandResult) : CodecM Unit Socks5EncodeError Unit := do
  putU8 SOCKS_V5
  putU8 item.method.toU8

end Socks5AuthCommandContentCodec

/-! ## Requests -/

inductive Socks5InitCommandType where
  | connect
  | bind
  | udpAssociate
  deriving DecidableEq, Repr

def Socks5InitCommandType.tryFrom (v : UInt8) : Except Socks5DecodeError Socks5InitCommandType :=
  if v == 1 then .ok .connect
  else if v == 2 then .ok .bind
  else if v == 3 then .ok .udpAssociate
  else .error (.invalidInitCommandType v)

inductive Socks5InitCommandResultStatus where
  | succeeded
  | failure
  | connectionNotAllowedByRuleSet
  | networkUnReachable
  | hostUnReachable
  | connectionRefused
  | ttlExpired
  | commandNotSupported
  | addressTypeNotSupported
  | unassigned
  deriving DecidableEq, Repr

def Socks5InitCommandResultStatus.toU8 : Socks5InitCommandResultStatus → UInt8
  | succeeded => 0
  | failure => 1
  | connectionNotAllowedByRuleSet => 2
  | networkUnReachable => 3
  | hostUnReachable => 4
  | connectionRefused => 5
  | ttlExpired => 6
  | commandNotSupported => 7
  | addressTypeNotSupported => 8
  | unassigned => 9

structure Socks5InitCommand where
  requestType : Socks5InitCommandType
  dstAddress : Socks5Address
  deriving DecidableEq, Repr

structure Socks5InitCommandResult where
  status : Socks5InitCommandResultStatus
  bindAddress : Option Socks5Address
  deriving DecidableEq, Repr

namespace Socks5InitCommandContentCodec

/-- `decode` once the buffer holds four bytes. -/
def decodeRequest : CodecM Unit Socks5DecodeError (Option Socks5InitCommand) := do
  let version ← getU8
  if version != SOCKS_V5 then throw (.err (.invalidVersion version))
  let requestType ← getU8
  let requestType ← orThrow id (Socks5InitCommandType.tryFrom requestType)
  let _ ← getU8
  let dstAddress ← Socks5Address.parse .parse
  return some ⟨requestType, dstAddress⟩

def decode : CodecM Unit Socks5DecodeError (Option Socks5InitCommand) := do
  if (← remaining) < 4 then return none else decodeRequest

def encode (item : Socks5InitCommandResult) : CodecM Unit Socks5EncodeError Unit := do
  putU8 5
  putU8 item.status.toU8
  putU8 0
  match item.bindAddress with
  | some bindAddress => put bindAddress.toBytes
  | none => return ()

end Socks5InitCommandContentCodec

/-! ## UDP packets -/

structure Socks5UdpDataPacket where
  frag : UInt8
  address : Socks5Address
  data : Bytes
  deriving DecidableEq, Repr

namespace Socks5UdpDataPacket

def requirePacket (n : Nat) : CodecM Unit Socks5DecodeError Unit := do
  if (← remaining) < n then
    throw (.err (.noRemaining "No remaining to convert socks5 udp packet"))

/-- `TryFrom<Bytes>`; the data is what is left in the buffer. -/
def tryFrom : CodecM Unit Socks5DecodeError Socks5UdpDataPacket := do
  requirePacket 1
  requirePacket 2
  let _ ← getU16
  requirePacket 1
  let frag ← getU8
  let address ← Socks5Address.parse .parse
  return ⟨frag, address, (← get).2⟩

/-- `From<Socks5UdpDataPacket> for Bytes`. -/
def toBytes (packet : Socks5UdpDataPacket) : Bytes :=
  beBytes 2 0 ++ [packet.frag] ++ packet.address.toBytes ++ packet.data

end Socks5UdpDataPacket

end Ppaass.Agent
