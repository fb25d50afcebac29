import Ppaass.Common.Proof.Panics

/-!
# What a message under a token looks like on the wire

A message that is encoded under a 32-byte token never panics where the AES key is set up, and where
`encode` succeeds the payload field of its frame is the AES ciphertext of the serialized payload
under that token (`Ciphered`, `encode_ciphered`).
-/

namespace Ppaass.ConnectionCodec

open Wire Framed BlockMode

variable {libs : Libs} {P : Type} {cipher : BlockCipher AesKey 16}

/-- The frame of a message whose payload field is the ciphertext of its payload under the token. -/
inductive Ciphered (c : ConnectionCodec libs) (cipher : BlockCipher AesKey 16) (payload : Serde P)
    (token : Block 32) (m : PpaassMessage P) (frame : Bytes) : Prop
  | intro {v : ByteVec} {encrypted : Bytes} {message : CodecPpaassMessage} {envelope body : ByteVec}
      (serializes : payload.serialize m.payload = .ok v)
      (message_eq : message =
        ⟨m.messageId, m.userToken, .aes encrypted, cipher.ciphertext token v.bytes⟩)
      (envelopes : libs.codecMessage.serialize message = .ok envelope)
      (compresses : if c.compress then libs.gzEncode envelope.bytes = .ok body else envelope = body)
      (frame_eq : frame = (bodyFrame c.compress body).bytes)

/-- **The key set-up never fails** on a token of 32 bytes. -/
theorem encryptPayload_ne_panic (hc : libs.aes256Ecb = cipher.ecb) (payload : Serde P)
    (rsaCrypto : RsaCrypto libs) (rng : libs.OsRng) (p : P) (token : Block 32) (what : String) :
    encryptPayload payload rsaCrypto rng p (.aes token.1) ≠ .error (.panic what) := by
  intro h
  obtain h | ⟨encrypted, -, h⟩ := bind_eq_error.1 h
  · exact mapError_ne_panic h
  obtain h | ⟨v, -, h⟩ := bind_eq_error.1 h
  · exact mapError_ne_panic (f := id) h
  rw [run_encryptWithAes hc token.2 v.bytes] at h
  cases h

theorem encodeBody_ne_panic (hc : libs.aes256Ecb = cipher.ecb) (payload : Serde P)
    (fetcher : RsaCryptoFetcher libs) (compress : Bool) (rng : libs.OsRng) {m : PpaassMessage P}
    {token : Block 32} (hm : m.encryption = .aes token.1) (what : String) :
    encodeBody payload fetcher compress rng m ≠ .error (.panic what) := by
  intro h
  obtain h | ⟨rsaCrypto, -, h⟩ := bind_eq_error.1 h
  · exact mapError_ne_panic (f := id) h
  obtain h | ⟨sealed, -, h⟩ := bind_eq_error.1 h
  · rw [hm] at h
    exact encryptPayload_ne_panic hc payload rsaCrypto rng _ token what h
  obtain h | ⟨envelope, -, h⟩ := bind_eq_error.1 h
  · exact mapError_ne_panic (f := id) h
  cases compress with
  | true => exact mapError_ne_panic h
  | false => cases h

/-- What is sealed under a token is the ciphertext. -/
theorem Seals.ciphertext (hc : libs.aes256Ecb = cipher.ecb) {payload : Serde P}
    {rsaCrypto : RsaCrypto libs} {rng : libs.OsRng} {p : P} {token : Block 32}
    {sealed : Bytes × PpaassMessagePayloadEncryption}
    (h : Seals payload rsaCrypto rng p (.aes token.1) sealed) :
    ∃ v encrypted, payload.serialize p = .ok v ∧
      sealed = (cipher.ciphertext token v.bytes, .aes encrypted) := by
  cases h with
  | aes hrsa hp haes =>
    rw [run_encryptWithAes hc token.2] at haes
    cases haes
    exact ⟨_, _, hp, rfl⟩

/-- Whatever the codec and its buffer, `encode` appends a frame that carries a ciphertext, or fails
with an error of a library. It does not panic. -/
def EncodesCiphered (libs : Libs) (cipher : BlockCipher AesKey 16) (payload : Serde P)
    (token : Block 32) (m : PpaassMessage P) : Prop :=
  ∀ (rng : libs.OsRng) (c : ConnectionCodec libs) (dst : Bytes),
    (∃ frame, (encode payload rng m).run (c, dst) = .ok () (c, dst ++ frame) ∧
      Ciphered c cipher payload token m frame) ∨
    ∃ e, (encode payload rng m).run (c, dst) = .error (.err e) (c, dst ++ stray c.compress)

/-- **A message under a token is encoded to a ciphertext.** -/
theorem encode_ciphered (hc : libs.aes256Ecb = cipher.ecb) (payload : Serde P)
    {m : PpaassMessage P} {token : Block 32} (hm : m.encryption = .aes token.1) :
    EncodesCiphered libs cipher payload token m := by
  intro rng c dst
  rw [run_encode]
  cases hbody : encodeBody payload c.rsaCryptoFetcher c.compress rng m with
  | error f =>
    cases f with
    | err e => exact .inr ⟨e, rfl⟩
    | panic what => exact (encodeBody_ne_panic hc payload _ _ rng hm what hbody).elim
  | ok body =>
    obtain ⟨known, seals, serializes, compresses⟩ := encodeBody_eq_ok.1 hbody
    rw [hm] at seals
    obtain ⟨v, encrypted, hv, rfl⟩ := seals.ciphertext hc
    exact .inl ⟨_, rfl, hv, rfl, serializes, compresses, rfl⟩

end Ppaass.ConnectionCodec
