import Ppaass.Common.Codec
import Ppaass.Lib.Gzip

/-!
# A concrete instance of the other crates

The formats `bincode` gives the messages: integers little endian, a variant behind its 32-bit
index, a string or a byte string behind its 64-bit length. A `SocketAddr` of version 6 is written
without its flow information and scope id, so that it is read back only where both are 0.

`Reference.libs` completes them with gzip in stored blocks, RSA on one byte at a time with a fixed
small modulus, and an exclusive-or block cipher, each of which obeys the laws the codecs rely on.
-/

namespace Ppaass

open Wire BlockMode

/-! ## Laws of the other crates -/

/-- What is serialized of `a` is deserialized to `a`. -/
def Serde.RoundTripsAt {α : Type} (s : Serde α) (a : α) : Prop :=
  ∀ v, s.serialize a = .ok v → s.deserialize v.bytes = .ok a

/-- `gunzip` undoes `gzip`. -/
def Libs.GzipRoundTrips (libs : Libs) : Prop :=
  ∀ b z, libs.gzEncode b = .ok z → libs.gzDecode z.bytes = .ok b

/-- `gunzip` fails on bytes that do not begin with the magic. -/
def Libs.GunzipMagic (libs : Libs) : Prop :=
  ∀ b d, libs.gzDecode b = .ok d → b.take 2 = [0x1f, 0x8b]

/-- The tenth byte of a gzip header is the operating system; `flate2` writes 255, unknown. -/
def Libs.GzipSystemUnknown (libs : Libs) : Prop :=
  ∀ b z, libs.gzEncode b = .ok z → z.bytes[9]? = some 255

/-- An envelope begins with its message id: the length in 64 bits, little endian, and the UTF-8
bytes. -/
def Libs.EnvelopeLayout (libs : Libs) : Prop :=
  ∀ m v, libs.codecMessage.serialize m = .ok v →
    ∃ rest, v.bytes = leBytes 8 m.messageId.utf8ByteSize ++ (utf8 m.messageId ++ rest)

def Libs.EnvelopeRoundTrips (libs : Libs) : Prop := ∀ m, libs.codecMessage.RoundTripsAt m

/-- The AES block function is, per key, a permutation of 16-byte blocks, applied block by block. -/
def Libs.AesPermutes (libs : Libs) : Prop :=
  ∃ cipher : BlockCipher AesKey 16, libs.aes256Ecb = cipher.ecb

/-- PKCS #1 v1.5 encryption: 11 bytes at least are added to what is encrypted, here a token. -/
def Libs.RsaPads (libs : Libs) : Prop :=
  ∀ key rng (token encrypted : Bytes), token.length = 32 →
    libs.rsaEncrypt key rng token = .ok encrypted → token.length + 11 ≤ encrypted.length

/-- A user token known to both sides, whose keys are a pair: what the sender encrypts the receiver
decrypts. -/
def PairedAt {libs : Libs} (sender receiver : RsaCryptoFetcher libs) (userToken : String) : Prop :=
  ∃ s r, sender userToken = .ok (some s) ∧ receiver userToken = .ok (some r) ∧
    ∀ rng token encrypted, s.encrypt rng token = .ok encrypted → r.decrypt encrypted = .ok token

/-! ## Formats -/

namespace Bincode

def bool : Format Bool :=
  (Format.le 1).filterMap (fun b => if b then 1 else 0) fun
    | 0 => some false
    | 1 => some true
    | _ => none

def u16 : Format UInt16 := (Format.le 2).map UInt16.toNat UInt16.ofNat

def string : Format String := Format.text 8

def bytes : Format Bytes := Format.blob 8

def variant {α β : Type} (s : Format α) (t : Format β) : Format (α ⊕ β) := Format.either 4 s t

def ipv4Addr : Format Ipv4Addr :=
  (Format.take 4).filterMap Ipv4Addr.octets fun
    | [a, b, c, d] => some ⟨a, b, c, d⟩
    | _ => none

def ipv6Addr : Format Ipv6Addr :=
  (Format.take 16).filterMap Ipv6Addr.octets fun bs =>
    let s (i : Nat) : UInt16 := UInt16.ofNat (ofBe ((bs.drop (2 * i)).take 2))
    some ⟨s 0, s 1, s 2, s 3, s 4, s 5, s 6, s 7⟩

def socketAddr : Format SocketAddr :=
  (variant (ipv4Addr.pair u16) (ipv6Addr.pair u16)).map
    (fun
      | .v4 ip port => .inl (ip, port)
      | .v6 ip port _ _ => .inr (ip, port))
    (fun
      | .inl (ip, port) => .v4 ip port
      | .inr (ip, port) => .v6 ip port 0 0)

def unifiedAddress : Format PpaassUnifiedAddress :=
  (variant socketAddr (string.pair u16)).map
    (fun
      | .ip addr => .inl addr
      | .domain host port => .inr (host, port))
    (fun
      | .inl addr => .ip addr
      | .inr (host, port) => .domain host port)

def agentTcpPayload : Format AgentTcpPayload :=
  (variant (unifiedAddress.pair unifiedAddress) bytes).map
    (fun
      | .init srcAddress dstAddress => .inl (srcAddress, dstAddress)
      | .data content => .inr content)
    (fun
      | .inl (srcAddress, dstAddress) => .init srcAddress dstAddress
      | .inr content => .data content)

def failureReason : Format ProxyTcpInitFailureReason :=
  (variant Format.unit Format.unit).map
    (fun
      | .canNotConnectToDestination => .inl ()
      | .general => .inr ())
    (fun
      | .inl _ => .canNotConnectToDestination
      | .inr _ => .general)

def initResult : Format ProxyTcpInitResult :=
  (variant string failureReason).map
    (fun
      | .success tunnelId => .inl tunnelId
      | .fail reason => .inr reason)
    (fun
      | .inl tunnelId => .success tunnelId
      | .inr reason => .fail reason)

def proxyTcpPayload : Format ProxyTcpPayload :=
  (variant (unifiedAddress.pair (unifiedAddress.pair initResult)) bytes).map
    (fun
      | .init srcAddress dstAddress result => .inl (srcAddress, dstAddress, result)
      | .data content => .inr content)
    (fun
      | .inl (srcAddress, dstAddress, result) => .init srcAddress dstAddress result
      | .inr content => .data content)

def agentUdpPayload : Format AgentUdpPayload :=
  (unifiedAddress.pair (unifiedAddress.pair (bytes.pair bool))).map
    (fun p => (p.srcAddress, p.dstAddress, p.data, p.needResponse))
    (fun (srcAddress, dstAddress, data, needResponse) =>
      ⟨srcAddress, dstAddress, data, needResponse⟩)

def proxyUdpPayload : Format ProxyUdpPayload :=
  (unifiedAddress.pair (unifiedAddress.pair bytes)).map
    (fun p => (p.srcAddress, p.dstAddress, p.data))
    (fun (srcAddress, dstAddress, data) => ⟨srcAddress, dstAddress, data⟩)

def agentPayload : Format PpaassAgentMessagePayload :=
  (variant agentTcpPayload agentUdpPayload).map
    (fun
      | .tcp payload => .inl payload
      | .udp payload => .inr payload)
    (fun
      | .inl payload => .tcp payload
      | .inr payload => .udp payload)

def proxyPayload : Format PpaassProxyMessagePayload :=
  (variant proxyTcpPayload proxyUdpPayload).map
    (fun
      | .tcp payload => .inl payload
      | .udp payload => .inr payload)
    (fun
      | .inl payload => .tcp payload
      | .inr payload => .udp payload)

def encryption : Format PpaassMessagePayloadEncryption :=
  (variant Format.unit bytes).map
    (fun
      | .plain => .inl ()
      | .aes token => .inr token)
    (fun
      | .inl _ => .plain
      | .inr token => .aes token)

def codecMessage : Format CodecPpaassMessage :=
  (string.pair (string.pair (encryption.pair bytes))).map
    (fun m => (m.messageId, m.userToken, m.encryption, m.payload))
    (fun (messageId, userToken, encryption, payload) => ⟨messageId, userToken, encryption, payload⟩)

theorem put_codecMessage (m : CodecPpaassMessage) :
    codecMessage.put m = leBytes 8 m.messageId.utf8ByteSize ++ utf8 m.messageId ++
      (string.put m.userToken ++ (encryption.put m.encryption ++ bytes.put m.payload)) := rfl

/-! ## Validity -/

theorem valid_bytes {bs : Bytes} (h : (bytes.put bs).length ≤ isizeMax) : bytes.Valid bs := by
  refine Format.valid_blob ?_
  change (leBytes 8 bs.length ++ bs).length ≤ isizeMax at h
  rw [List.length_append, leBytes_length, isizeMax] at h
  omega

theorem valid_string {s : String} (h : (string.put s).length ≤ isizeMax) : string.Valid s :=
  ⟨valid_bytes h, ofUtf8_utf8 s⟩

theorem valid_encryption {e : PpaassMessagePayloadEncryption}
    (h : (encryption.put e).length ≤ isizeMax) : encryption.Valid e := by
  cases e with
  | plain => exact ⟨⟨show 0 < 256 ^ 4 by decide, trivial⟩, rfl⟩
  | aes token =>
    refine ⟨⟨show 1 < 256 ^ 4 by decide, valid_bytes ?_⟩, rfl⟩
    change (leBytes 4 1 ++ bytes.put token).length ≤ isizeMax at h
    rw [List.length_append] at h
    omega

/-- Every envelope that fits an allocation survives its format. -/
theorem valid_codecMessage {m : CodecPpaassMessage} (h : (codecMessage.put m).length ≤ isizeMax) :
    codecMessage.Valid m := by
  change (string.put m.messageId ++ (string.put m.userToken ++ (encryption.put m.encryption ++
    bytes.put m.payload))).length ≤ isizeMax at h
  simp only [List.length_append] at h
  have h1 : (string.put m.messageId).length ≤ isizeMax := by omega
  have h2 : (string.put m.userToken).length ≤ isizeMax := by omega
  have h3 : (encryption.put m.encryption).length ≤ isizeMax := by omega
  have h4 : (bytes.put m.payload).length ≤ isizeMax := by omega
  exact ⟨⟨valid_string h1, valid_string h2, valid_encryption h3, valid_bytes h4⟩, rfl⟩

/-- So does every payload that is TCP data. -/
theorem valid_agentData {content : Bytes}
    (h : (agentPayload.put (.tcp (.data content))).length ≤ isizeMax) :
    agentPayload.Valid (.tcp (.data content)) := by
  change (leBytes 4 0 ++ (leBytes 4 1 ++ bytes.put content)).length ≤ isizeMax at h
  simp only [List.length_append] at h
  have hb : (bytes.put content).length ≤ isizeMax := by omega
  exact ⟨⟨show 0 < 256 ^ 4 by decide, ⟨show 1 < 256 ^ 4 by decide, valid_bytes hb⟩, rfl⟩, rfl⟩

end Bincode

/-! ## The instance -/

def Serde.ofFormat {α : Type} (t : Format α) : Serde α where
  serialize a :=
    match ByteVec.ofBytes? (t.put a) with
    | some v => .ok v
    | none => .error "SizeLimit"
  deserialize bs :=
    match t.get bs with
    | some (a, _) => .ok a
    | none => .error "UnexpectedEof"

theorem Serde.ofFormat_put {α : Type} {t : Format α} {a : α} {v : ByteVec}
    (h : (Serde.ofFormat t).serialize a = .ok v) : v.bytes = t.put a := by
  simp only [Serde.ofFormat] at h
  split at h
  · rename_i hv
    cases h
    exact ByteVec.ofBytes?_eq_some hv
  · cases h

theorem Serde.ofFormat_roundTripsAt {α : Type} {t : Format α} {a : α} (h : t.Valid a) :
    (Serde.ofFormat t).RoundTripsAt a := by
  intro v hv
  have hget := t.get_put a [] h
  rw [List.append_nil] at hget
  rw [Serde.ofFormat_put hv]
  simp only [Serde.ofFormat, hget]

namespace Reference

/-- A byte under RSA with modulus 3233 and exponents 17 and 2753. -/
def rsaEncryptByte (b : UInt8) : Bytes := leBytes 2 (b.toNat ^ 17 % 3233)

def rsaDecryptPair (lo hi : UInt8) : UInt8 := UInt8.ofNat (ofLe [lo, hi] ^ 2753 % 3233)

def rsaDecrypt : Bytes → Option Bytes
  | [] => some []
  | [_] => none
  | lo :: hi :: bs => (rsaDecrypt bs).map (rsaDecryptPair lo hi :: ·)

theorem rsaDecryptPair_encrypt (b : UInt8) :
    rsaDecryptPair (UInt8.ofNat (b.toNat ^ 17 % 3233))
      (UInt8.ofNat (b.toNat ^ 17 % 3233 / 256)) = b := by
  have h : ∀ n < 256, rsaDecryptPair (UInt8.ofNat (n ^ 17 % 3233))
      (UInt8.ofNat (n ^ 17 % 3233 / 256)) = UInt8.ofNat n := by decide +kernel
  rw [h b.toNat b.toNat_lt, UInt8.ofNat_toNat]

theorem rsaDecrypt_encrypt (bs : Bytes) : rsaDecrypt (bs.flatMap rsaEncryptByte) = some bs := by
  induction bs with
  | nil => rfl
  | cons b bs ih =>
    simp only [List.flatMap_cons, rsaEncryptByte, leBytes, List.cons_append, List.nil_append,
      rsaDecrypt, rsaDecryptPair_encrypt]
    rw [show bs.flatMap _ = bs.flatMap rsaEncryptByte from rfl, ih]
    rfl

/-- The exclusive or of a block and the first half of the key. -/
def xorBlock (key : AesKey) (b : Block 16) : Block 16 :=
  ⟨List.zipWith (· ^^^ ·) b.1 (key.1.take 16), by simp [b.2, key.2]⟩

theorem zipWith_xor_xor (bs ks : Bytes) (h : bs.length ≤ ks.length) :
    List.zipWith (· ^^^ ·) (List.zipWith (· ^^^ ·) bs ks) ks = bs := by
  induction bs generalizing ks with
  | nil => simp
  | cons b bs ih =>
    cases ks with
    | nil => simp at h
    | cons k ks =>
      rw [List.zipWith_cons_cons, List.zipWith_cons_cons, ih ks (by simpa using h),
        UInt8.xor_assoc, UInt8.xor_self, UInt8.xor_zero]

theorem xorBlock_xorBlock (key : AesKey) (b : Block 16) : xorBlock key (xorBlock key b) = b :=
  Subtype.ext (zipWith_xor_xor b.1 (key.1.take 16) (by simp [b.2, key.2]))

def cipher : BlockCipher AesKey 16 where
  encrypt := xorBlock
  decrypt := xorBlock
  decrypt_encrypt := xorBlock_xorBlock
  encrypt_decrypt := xorBlock_xorBlock

def libs : Libs where
  RsaPublicKey := Unit
  RsaPrivateKey := Unit
  OsRng := Unit
  rsaEncrypt _ _ bs := .ok (bs.flatMap rsaEncryptByte)
  rsaDecrypt _ bs := match rsaDecrypt bs with
    | some plain => .ok plain
    | none => .error "Decryption"
  aes256Ecb := cipher.ecb
  gzEncode bs := match ByteVec.ofBytes? (Gzip.gzip bs) with
    | some v => .ok v
    | none => .error "out of memory"
  gzDecode bs := match Gzip.gunzip bs with
    | some plain => .ok plain
    | none => .error "invalid gzip header"
  codecMessage := Serde.ofFormat Bincode.codecMessage
  agentPayload := Serde.ofFormat Bincode.agentPayload
  proxyPayload := Serde.ofFormat Bincode.proxyPayload

/-- A fetcher that knows one user token. -/
def fetcher (known : String) : RsaCryptoFetcher libs := fun userToken =>
  .ok (if userToken = known then some ⟨(), ()⟩ else none)

/-- Two messages of the user `user1`. -/
def hello : PpaassAgentMessage := generateAgentTcpDataMessage "m1" "user1" .plain [104, 105]

def bye : PpaassAgentMessage := generateAgentTcpDataMessage "m2" "user1" .plain []

theorem gzEncode_eq {b : Bytes} {z : ByteVec} (h : libs.gzEncode b = .ok z) :
    z.bytes = Gzip.gzip b := by
  simp only [libs] at h
  split at h
  · rename_i hv
    cases h
    exact ByteVec.ofBytes?_eq_some hv
  · cases h

theorem gzipRoundTrips : libs.GzipRoundTrips := by
  intro b z h
  rw [gzEncode_eq h]
  simp only [libs, Gzip.gunzip_gzip]

theorem envelopeRoundTrips : libs.EnvelopeRoundTrips := by
  intro m v hv
  have hput := Serde.ofFormat_put hv
  exact Serde.ofFormat_roundTripsAt (Bincode.valid_codecMessage (hput ▸ v.len_le)) v hv

theorem gunzipMagic : libs.GunzipMagic := by
  intro b d h
  simp only [libs] at h
  split at h
  · rename_i hd
    exact Gzip.gunzip_magic hd
  · cases h

theorem gzipSystemUnknown : libs.GzipSystemUnknown := by
  intro b z h
  rw [gzEncode_eq h]
  rfl

theorem envelopeLayout : libs.EnvelopeLayout := by
  intro m v h
  rw [Serde.ofFormat_put h, Bincode.put_codecMessage, List.append_assoc]
  exact ⟨_, rfl⟩

theorem agentData_roundTripsAt (content : Bytes) :
    libs.agentPayload.RoundTripsAt (.tcp (.data content)) := by
  intro v hv
  have hput := Serde.ofFormat_put hv
  exact Serde.ofFormat_roundTripsAt (Bincode.valid_agentData (hput ▸ v.len_le)) v hv

theorem aesPermutes : libs.AesPermutes := ⟨cipher, rfl⟩

theorem rsaPads : libs.RsaPads := by
  intro key rng token encrypted htoken h
  cases h
  have hlen : (token.flatMap rsaEncryptByte).length = token.length * 2 := by
    rw [List.length_flatMap]
    simp [rsaEncryptByte, List.map_const']
  omega

theorem pairedAt (known : String) : PairedAt (fetcher known) (fetcher known) known := by
  refine ⟨⟨(), ()⟩, ⟨(), ()⟩, by simp [fetcher], by simp [fetcher], ?_⟩
  intro rng token encrypted h
  cases h
  simp only [RsaCrypto.decrypt, libs, rsaDecrypt_encrypt]
  rfl

end Reference

end Ppaass
