import Ppaass.Common.Message
import Ppaass.Lib.BlockMode
import Ppaass.Lib.Framed

/-!
# The connection codecs (`common/src/codec`, `common/src/crypto`)

`Libs` holds what the code takes from other crates (`rsa`, `aes`/`ecb`, `flate2`, `bincode`), as
functions that may fail. The two codecs of the source are one text with the payload types swapped;
`ConnectionCodec.decode` and `ConnectionCodec.encode` are that text and
`PpaassAgentConnectionCodec`, `PpaassProxyConnectionCodec` its two instances.

A frame is `PPAASS_FLAG`, a compression byte, the big-endian 64-bit length of the body and the body.
`decodeBody` and `encodeBody`, with the functions before each of them, are the parts of `decode` and
`encode` that read or make a body and touch neither the buffer nor the status.
-/

namespace Ppaass

open Wire Framed BlockMode

/-! ## Other crates -/

/-- `bincode` at a type. -/
structure Serde (α : Type) where
  serialize : α → Except BincodeError ByteVec
  deserialize : Bytes → Except BincodeError α

abbrev AesKey := Block 32

structure Libs where
  RsaPublicKey : Type
  RsaPrivateKey : Type
  /-- the randomness one RSA encryption draws -/
  OsRng : Type
  rsaEncrypt : RsaPublicKey → OsRng → Bytes → Except ConcreteRsaError Bytes
  rsaDecrypt : RsaPrivateKey → Bytes → Except ConcreteRsaError Bytes
  /-- AES-256 in ECB mode with PKCS #7 padding -/
  aes256Ecb : PaddedCipher AesKey
  gzEncode : Bytes → Except StdIoError ByteVec
  gzDecode : Bytes → Except StdIoError Bytes
  codecMessage : Serde CodecPpaassMessage
  agentPayload : Serde PpaassAgentMessagePayload
  proxyPayload : Serde PpaassProxyMessagePayload

/-- `TryFrom<Bytes>` of `make_as_bytes!`. -/
def Serde.tryFromBytes {α : Type} (s : Serde α) (value : Bytes) : Except CommonError α :=
  (s.deserialize value).mapError fun e =>
    .other s!"Fail to deserialize bytes to object because of error: {e}"

/-- `TryInto<Bytes>` of `make_as_bytes!`. -/
def Serde.tryIntoBytes {α : Type} (s : Serde α) (value : α) : Except CommonError ByteVec :=
  (s.serialize value).mapError fun e =>
    .other s!"Fail to serialize object to bytes because of error: {e}"

/-! ## `crypto/aes.rs` -/

def BLOCK_SIZE : Nat := 32

section
variable (libs : Libs)

/-- The state is the buffer `target`. A token that is not 32 bytes long panics where the key is
built. -/
def encryptWithAes (encryptionToken : Bytes) : EStateM (Fault AesError) Bytes Bytes := do
  let originalLen := (← get).length
  let paddingLen := (originalLen / BLOCK_SIZE + 1) * BLOCK_SIZE
  modify (· ++ List.replicate (paddingLen - originalLen) 0)
  if h : encryptionToken.length = 32 then
    match libs.aes256Ecb.encryptPaddedMut ⟨encryptionToken, h⟩ (← get) originalLen with
    | some (target, len) =>
      set target
      return target.take len
    | none => throw (.err .pad)
  else throw (.panic "invalid AES-256 key length")

def decryptWithAes (encryptionToken : Bytes) : EStateM (Fault AesError) Bytes Bytes := do
  if h : encryptionToken.length = 32 then
    match libs.aes256Ecb.decryptPaddedMut ⟨encryptionToken, h⟩ (← get) with
    | some (target, len) =>
      set target
      return target.take len
    | none => throw (.err .unPad)
  else throw (.panic "invalid AES-256 key length")

/-! ## `crypto/rsa.rs` -/

structure RsaCrypto where
  privateKey : libs.RsaPrivateKey
  publicKey : libs.RsaPublicKey

/-- `RsaCryptoFetcher::fetch`. -/
abbrev RsaCryptoFetcher := (userToken : String) → Except RsaError (Option (RsaCrypto libs))

end

namespace RsaCrypto

variable {libs : Libs} (crypto : RsaCrypto libs)

def encrypt (rng : libs.OsRng) (target : Bytes) : Except RsaError Bytes :=
  (libs.rsaEncrypt crypto.publicKey rng target).mapError .concreteRsa

def decrypt (target : Bytes) : Except RsaError Bytes :=
  (libs.rsaDecrypt crypto.privateKey target).mapError .concreteRsa

end RsaCrypto

/-! ## `codec` -/

/-- `"__PPAASS__"`. -/
def PPAASS_FLAG : Bytes := [95, 95, 80, 80, 65, 65, 83, 83, 95, 95]

/-- The flag, a `u8` and a `u64`. -/
def HEADER_LENGTH : Nat := PPAASS_FLAG.length + 1 + 8

def COMPRESS_FLAG : UInt8 := 1

def UN_COMPRESS_FLAG : UInt8 := 1

inductive DecodeStatus where
  | head
  | data (compressed : Bool) (bodyLength : UInt64)
  deriving DecidableEq, Repr

structure ConnectionCodec (libs : Libs) where
  rsaCryptoFetcher : RsaCryptoFetcher libs
  compress : Bool
  status : DecodeStatus

/-- Whether `BytesMut::reserve(additional)` on a buffer of `len` bytes returns (otherwise it
panics). -/
abbrev Reserve := (len additional : Nat) → Bool

/-- `reserve` always returns. -/
def Reserve.unobserved : Reserve := fun _ _ => true

namespace ConnectionCodec

variable {libs : Libs}

def new (compress : Bool) (rsaCryptoFetcher : RsaCryptoFetcher libs) : ConnectionCodec libs :=
  { rsaCryptoFetcher, compress, status := .head }

/-- `src.reserve(additional)`. -/
def reserve (policy : Reserve) (additional : Nat) :
    CodecM (ConnectionCodec libs) CommonError Unit := do
  if policy (← remaining) additional then return ()
  else throw (.panic "capacity overflow")

def setStatus (status : DecodeStatus) : CodecM (ConnectionCodec libs) CommonError Unit :=
  modify fun (c, buf) => ({ c with status }, buf)

/-- An error of a body, with the codec and the buffer as they are. -/
def orFault {α : Type} : Except (Fault CommonError) α → CodecM (ConnectionCodec libs) CommonError α
  | .ok a => pure a
  | .error f => throw f

/-- `fetch(&user_token)`, where an unknown token is an error. -/
def fetchCrypto (fetcher : RsaCryptoFetcher libs) (userToken : String) :
    Except CommonError (RsaCrypto libs) :=
  match fetcher userToken with
  | .error e => .error (.crypto (.rsa e))
  | .ok none => .error (.crypto (.rsa (.notFound userToken)))
  | .ok (some rsaCrypto) => .ok rsaCrypto

/-- `decode`'s match on the payload's encryption. -/
def decryptPayload (rsaCrypto : RsaCrypto libs) (encryptedMessagePayload : Bytes) :
    PpaassMessagePayloadEncryption → Except (Fault CommonError) Bytes
  | .plain => return encryptedMessagePayload
  | .aes encryptionToken => do
    let originalEncryptionToken ←
      (rsaCrypto.decrypt encryptionToken).mapError fun e => Fault.err (.crypto (.rsa e))
    match (decryptWithAes libs originalEncryptionToken).run encryptedMessagePayload with
    | .ok payload _ => return payload
    | .error (.err e) _ => throw (.err (.crypto (.aes e)))
    | .error (.panic what) _ => throw (.panic what)

/-- `decode`'s branch on the compression byte. -/
def decompress (libs : Libs) (compressed : Bool) (bodyBytes : Bytes) :
    Except (Fault CommonError) Bytes :=
  if compressed then (libs.gzDecode bodyBytes).mapError fun e => Fault.err (.decoder (.io e))
  else return bodyBytes

/-- A body's envelope and its decrypted payload bytes. -/
def decodeBody (fetcher : RsaCryptoFetcher libs) (compressed : Bool) (bodyBytes : Bytes) :
    Except (Fault CommonError) (CodecPpaassMessage × Bytes) := do
  let messageBytes ← decompress libs compressed bodyBytes
  let encryptedMessage ← (libs.codecMessage.tryFromBytes messageBytes).mapError Fault.err
  let rsaCrypto ← (fetchCrypto fetcher encryptedMessage.userToken).mapError Fault.err
  let decryptPayloadBytes ←
    decryptPayload rsaCrypto encryptedMessage.payload encryptedMessage.encryption
  return (encryptedMessage, decryptPayloadBytes)

section
variable {P : Type} (policy : Reserve) (payload : Serde P)

/-- `decode` once the status is `Data`. -/
def decodeData (compressed : Bool) (bodyLength : UInt64) :
    CodecM (ConnectionCodec libs) CommonError (Option (PpaassMessage P)) := do
  if (← remaining) < bodyLength.toNat then
    reserve policy bodyLength.toNat
    return none
  else
    setStatus (.data compressed bodyLength)
    let bodyBytes ← splitTo bodyLength.toNat
    let (message, decryptPayloadBytes) ←
      orFault (decodeBody (← codec).rsaCryptoFetcher compressed bodyBytes)
    setStatus .head
    reserve policy HEADER_LENGTH
    let messagePayload ← orThrow id (payload.tryFromBytes decryptPayloadBytes)
    return some ⟨message.messageId, message.userToken, message.encryption, messagePayload⟩

/-- `Decoder::decode`. -/
def decodeWith : CodecM (ConnectionCodec libs) CommonError (Option (PpaassMessage P)) := do
  match (← codec).status with
  | .head =>
    if (← remaining) < HEADER_LENGTH then
      reserve policy HEADER_LENGTH
      return none
    else
      let ppaassFlag ← splitTo PPAASS_FLAG.length
      if PPAASS_FLAG ≠ ppaassFlag then
        throw (.err (.decoder (.invalidMessageFlag
          s!"The incoming message is not begin with {PPAASS_FLAG}")))
      else
        let compressed := (← getU8) == 1
        let bodyLength ← getU64
        reserve policy bodyLength.toNat
        setStatus (.data compressed bodyLength)
        decodeData policy payload compressed bodyLength
  | .data compressed bodyLength => decodeData policy payload compressed bodyLength

/-- `decode` where `reserve` is not observable. -/
def decode : CodecM (ConnectionCodec libs) CommonError (Option (PpaassMessage P)) :=
  decodeWith Reserve.unobserved payload

/-- `encode`'s match on the payload's encryption. -/
def encryptPayload (rsaCrypto : RsaCrypto libs) (rng : libs.OsRng) (originalPayload : P) :
    PpaassMessagePayloadEncryption →
      Except (Fault CommonError) (Bytes × PpaassMessagePayloadEncryption)
  | .plain => do
    let originalMessagePayload ← (payload.tryIntoBytes originalPayload).mapError Fault.err
    return (originalMessagePayload.bytes, .plain)
  | .aes originalToken => do
    let encryptedPayloadEncryptionToken ←
      (rsaCrypto.encrypt rng originalToken).mapError fun e => Fault.err (.crypto (.rsa e))
    let originalMessagePayload ← (payload.tryIntoBytes originalPayload).mapError Fault.err
    match (encryptWithAes libs originalToken).run originalMessagePayload.bytes with
    | .ok messagePayloadData _ =>
      return (messagePayloadData, .aes encryptedPayloadEncryptionToken)
    | .error (.err e) _ => throw (.err (.encoder (.crypto (.aes e))))
    | .error (.panic what) _ => throw (.panic what)

/-- The body of a message's frame. -/
def encodeBody (fetcher : RsaCryptoFetcher libs) (compress : Bool) (rng : libs.OsRng)
    (originalMessage : PpaassMessage P) : Except (Fault CommonError) ByteVec := do
  let rsaCrypto ← (fetchCrypto fetcher originalMessage.userToken).mapError Fault.err
  let (encryptedPayloadBytes, encryptedPayloadEncryptionType) ←
    encryptPayload payload rsaCrypto rng originalMessage.payload originalMessage.encryption
  let messageToEncode : CodecPpaassMessage :=
    ⟨originalMessage.messageId, originalMessage.userToken, encryptedPayloadEncryptionType,
      encryptedPayloadBytes⟩
  let resultBytes ← (libs.codecMessage.tryIntoBytes messageToEncode).mapError Fault.err
  if compress then (libs.gzEncode resultBytes.bytes).mapError fun e => Fault.err (.io e)
  else return resultBytes

/-- `Encoder::encode`. -/
def encode (rng : libs.OsRng) (originalMessage : PpaassMessage P) :
    CodecM (ConnectionCodec libs) CommonError Unit := do
  put PPAASS_FLAG
  if (← codec).compress then
    putU8 COMPRESS_FLAG
  else
    putU8 UN_COMPRESS_FLAG
  let resultBytes ← orFault
    (encodeBody payload (← codec).rsaCryptoFetcher (← codec).compress rng originalMessage)
  putU64 (UInt64.ofNat resultBytes.bytes.length)
  put resultBytes.bytes

end

end ConnectionCodec

/-- `codec/agent.rs`: it runs on the proxy, decodes agent messages and encodes proxy messages. -/
abbrev PpaassAgentConnectionCodec := ConnectionCodec

namespace PpaassAgentConnectionCodec

variable {libs : Libs}

def decode : CodecM (PpaassAgentConnectionCodec libs) CommonError (Option PpaassAgentMessage) :=
  ConnectionCodec.decode libs.agentPayload

def encode (rng : libs.OsRng) (originalMessage : PpaassProxyMessage) :
    CodecM (PpaassAgentConnectionCodec libs) CommonError Unit :=
  ConnectionCodec.encode libs.proxyPayload rng originalMessage

end PpaassAgentConnectionCodec

/-- `codec/proxy.rs`: it runs on the agent, decodes proxy messages and encodes agent messages. -/
abbrev PpaassProxyConnectionCodec := ConnectionCodec

namespace PpaassProxyConnectionCodec

variable {libs : Libs}

def decode : CodecM (PpaassProxyConnectionCodec libs) CommonError (Option PpaassProxyMessage) :=
  ConnectionCodec.decode libs.proxyPayload

def encode (rng : libs.OsRng) (originalMessage : PpaassAgentMessage) :
    CodecM (PpaassProxyConnectionCodec libs) CommonError Unit :=
  ConnectionCodec.encode libs.agentPayload rng originalMessage

end PpaassProxyConnectionCodec

end Ppaass
