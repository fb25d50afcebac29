import Ppaass.Lib.Bytes

/-!
# Addresses, payloads and messages (`common/src/message`, `common/src/error.rs`)

The values the agent and the proxy exchange, under the source's names. `PpaassMessage P` is the
shape of both `PpaassAgentMessage` and `PpaassProxyMessage`, which differ in the payload type only;
`CodecPpaassMessage` is the envelope that is put on the wire. The `generate...` functions are those
of `PpaassMessageGenerator`, with the random message id as an argument; they never fail.
-/

namespace Ppaass

open Wire

/-! ## Addresses -/

/-- `std::net::Ipv4Addr`. -/
structure Ipv4Addr where
  a : UInt8
  b : UInt8
  c : UInt8
  d : UInt8
  deriving DecidableEq, Repr

/-- `std::net::Ipv6Addr`, by its eight 16-bit segments. -/
structure Ipv6Addr where
  a : UInt16
  b : UInt16
  c : UInt16
  d : UInt16
  e : UInt16
  f : UInt16
  g : UInt16
  h : UInt16
  deriving DecidableEq, Repr

def Ipv4Addr.octets (ip : Ipv4Addr) : Bytes := [ip.a, ip.b, ip.c, ip.d]

def Ipv6Addr.segments (ip : Ipv6Addr) : List UInt16 :=
  [ip.a, ip.b, ip.c, ip.d, ip.e, ip.f, ip.g, ip.h]

def Ipv6Addr.octets (ip : Ipv6Addr) : Bytes := ip.segments.flatMap fun s => beBytes 2 s.toNat

/-- `std::net::SocketAddr`. -/
inductive SocketAddr where
  | v4 (ip : Ipv4Addr) (port : UInt16)
  | v6 (ip : Ipv6Addr) (port : UInt16) (flowinfo scopeId : UInt32)
  deriving DecidableEq, Repr

/-- `SocketAddr::ip().is_loopback()`. -/
def SocketAddr.isLoopback : SocketAddr → Bool
  | .v4 ip _ => ip.a == 127
  | .v6 ip _ _ _ => ip == ⟨0, 0, 0, 0, 0, 0, 0, 1⟩

/-- `SocketAddr::ip().is_unspecified()`. -/
def SocketAddr.isUnspecified : SocketAddr → Bool
  | .v4 ip _ => ip == ⟨0, 0, 0, 0⟩
  | .v6 ip _ _ _ => ip == ⟨0, 0, 0, 0, 0, 0, 0, 0⟩

inductive PpaassUnifiedAddress where
  | ip (addr : SocketAddr)
  | domain (host : String) (port : UInt16)
  deriving DecidableEq, Repr

/-! ## Payloads -/

inductive AgentTcpPayload where
  | init (srcAddress dstAddress : PpaassUnifiedAddress)
  | data (content : Bytes)
  deriving DecidableEq, Repr

inductive ProxyTcpInitFailureReason where
  | canNotConnectToDestination
  | general
  deriving DecidableEq, Repr

inductive ProxyTcpInitResult where
  | success (tunnelId : String)
  | fail (reason : ProxyTcpInitFailureReason)
  deriving DecidableEq, Repr

inductive ProxyTcpPayload where
  | init (srcAddress dstAddress : PpaassUnifiedAddress) (result : ProxyTcpInitResult)
  | data (content : Bytes)
  deriving DecidableEq, Repr

structure AgentUdpPayload where
  srcAddress : PpaassUnifiedAddress
  dstAddress : PpaassUnifiedAddress
  data : Bytes
  needResponse : Bool
  deriving DecidableEq, Repr

structure ProxyUdpPayload where
  srcAddress : PpaassUnifiedAddress
  dstAddress : PpaassUnifiedAddress
  data : Bytes
  deriving DecidableEq, Repr

inductive PpaassAgentMessagePayload where
  | tcp (payload : AgentTcpPayload)
  | udp (payload : AgentUdpPayload)
  deriving DecidableEq, Repr

inductive PpaassProxyMessagePayload where
  | tcp (payload : ProxyTcpPayload)
  | udp (payload : ProxyUdpPayload)
  deriving DecidableEq, Repr

/-! ## Messages -/

inductive PpaassMessagePayloadEncryption where
  | plain
  | aes (token : Bytes)
  deriving DecidableEq, Repr

/-- `PpaassMessagePayloadEncryptionSelector::select`. -/
def PpaassMessagePayloadEncryption.select (_userToken : String) :
    (encryptionToken : Option Bytes) → PpaassMessagePayloadEncryption
  | none => .plain
  | some token => .aes token

structure PpaassMessage (P : Type) where
  messageId : String
  userToken : String
  encryption : PpaassMessagePayloadEncryption
  payload : P
  deriving DecidableEq, Repr

abbrev PpaassAgentMessage := PpaassMessage PpaassAgentMessagePayload

abbrev PpaassProxyMessage := PpaassMessage PpaassProxyMessagePayload

/-- The envelope on the wire; `payload` is the serialized and, under `aes`, encrypted payload. -/
structure CodecPpaassMessage where
  messageId : String
  userToken : String
  encryption : PpaassMessagePayloadEncryption
  payload : Bytes
  deriving DecidableEq, Repr

/-- What a message says, without how its payload travels. -/
def PpaassMessage.content {P : Type} (m : PpaassMessage P) : String × String × P :=
  (m.messageId, m.userToken, m.payload)

/-! ## `PpaassMessageGenerator` -/

section
variable (messageId userToken : String)

def generateAgentTcpInitMessage (srcAddress dstAddress : PpaassUnifiedAddress)
    (encryption : PpaassMessagePayloadEncryption) : PpaassAgentMessage :=
  ⟨messageId, userToken, encryption, .tcp (.init srcAddress dstAddress)⟩

def generateProxyTcpInitMessage (srcAddress dstAddress : PpaassUnifiedAddress)
    (encryption : PpaassMessagePayloadEncryption) (result : ProxyTcpInitResult) :
    PpaassProxyMessage :=
  ⟨messageId, userToken, encryption, .tcp (.init srcAddress dstAddress result)⟩

def generateAgentTcpDataMessage (encryption : PpaassMessagePayloadEncryption) (data : Bytes) :
    PpaassAgentMessage :=
  ⟨messageId, userToken, encryption, .tcp (.data data)⟩

def generateProxyTcpDataMessage (encryption : PpaassMessagePayloadEncryption) (data : Bytes) :
    PpaassProxyMessage :=
  ⟨messageId, userToken, encryption, .tcp (.data data)⟩

def generateAgentUdpDataMessage (encryption : PpaassMessagePayloadEncryption)
    (srcAddress dstAddress : PpaassUnifiedAddress) (data : Bytes) (needResponse : Bool) :
    PpaassAgentMessage :=
  ⟨messageId, userToken, encryption, .udp ⟨srcAddress, dstAddress, data, needResponse⟩⟩

def generateProxyUdpDataMessage (encryption : PpaassMessagePayloadEncryption)
    (srcAddress dstAddress : PpaassUnifiedAddress) (data : Bytes) : PpaassProxyMessage :=
  ⟨messageId, userToken, encryption, .udp ⟨srcAddress, dstAddress, data⟩⟩

end

/-! ## Errors -/

/-- The debug text of an error of the standard library or of another crate. -/
abbrev StdIoError := String
abbrev BincodeError := String
abbrev ConcreteRsaError := String
abbrev RsaPkcs8Error := String
abbrev RsaPkcs8SpkiError := String

/-- The error of `Decoder::decode_eof`. -/
def bytesRemainingOnStream : StdIoError :=
  "Custom \x7b kind: Other, error: \"bytes remaining on stream\" \x7d"

inductive AesError where
  | unPad
  | pad
  deriving DecidableEq, Repr

inductive RsaError where
  | notFound (userToken : String)
  | concreteRsa (e : ConcreteRsaError)
  | io (e : StdIoError)
  | pkcs8Spki (e : RsaPkcs8SpkiError)
  | pkcs8 (e : RsaPkcs8Error)
  deriving DecidableEq, Repr

inductive CryptoError where
  | aes (e : AesError)
  | rsa (e : RsaError)
  deriving DecidableEq, Repr

inductive EncoderError where
  | io (e : StdIoError)
  | crypto (e : CryptoError)
  deriving DecidableEq, Repr

inductive DecoderError where
  | io (e : StdIoError)
  | invalidMessageFlag (message : String)
  | crypto (e : CryptoError)
  deriving DecidableEq, Repr

inductive CommonError where
  | decoder (e : DecoderError)
  | encoder (e : EncoderError)
  | io (e : StdIoError)
  | crypto (e : CryptoError)
  | other (message : String)
  deriving DecidableEq, Repr

end Ppaass
