import Ppaass.Common.Proof.Aes

/-!
# The body of a frame

`Sends` and `Opens` list the library calls between a message and the body of its frame, in each
direction: a body is made exactly when all calls of `Sends` succeed (`encodeBody_eq_ok`) and opened
exactly when all calls of `Opens` succeed (`decodeBody_eq_ok`).

`Sends.opens`: under the laws of the libraries, a body that was made is opened, by a side that holds
the paired keys, to the serialized payload it was made from.
-/

namespace Ppaass.ConnectionCodec

open Wire Framed

variable {libs : Libs} {P : Type}

theorem mapError_eq_ok {δ ε α : Type} {f : δ → ε} {x : Except δ α} {a : α} :
    x.mapError f = .ok a ↔ x = .ok a := by
  cases x <;> simp [Except.mapError]

theorem except_bind_eq_ok {ε α β : Type} {x : Except ε α} {f : α → Except ε β} {b : β} :
    x >>= f = .ok b ↔ ∃ a, x = .ok a ∧ f a = .ok b := by
  cases x <;> simp [bind, Except.bind]

theorem fetchCrypto_eq_ok {fetcher : RsaCryptoFetcher libs} {userToken : String}
    {rsaCrypto : RsaCrypto libs} :
    fetchCrypto fetcher userToken = .ok rsaCrypto ↔ fetcher userToken = .ok (some rsaCrypto) := by
  unfold fetchCrypto
  rcases fetcher userToken with e | _ | r <;> simp

/-! ## Making a body -/

/-- The calls that turn a payload, under an encryption, into the envelope's payload and encryption
succeed. -/
inductive Seals (payload : Serde P) (rsaCrypto : RsaCrypto libs) (rng : libs.OsRng) (p : P) :
    PpaassMessagePayloadEncryption → Bytes × PpaassMessagePayloadEncryption → Prop
  | plain {v : ByteVec} (hp : payload.serialize p = .ok v) :
      Seals payload rsaCrypto rng p .plain (v.bytes, .plain)
  | aes {v : ByteVec} {token encrypted ciphertext target : Bytes}
      (hrsa : rsaCrypto.encrypt rng token = .ok encrypted)
      (hp : payload.serialize p = .ok v)
      (haes : (encryptWithAes libs token).run v.bytes = .ok ciphertext target) :
      Seals payload rsaCrypto rng p (.aes token) (ciphertext, .aes encrypted)

theorem encryptPayload_eq_ok {payload : Serde P} {rsaCrypto : RsaCrypto libs} {rng : libs.OsRng}
    {p : P} {e : PpaassMessagePayloadEncryption} {r : Bytes × PpaassMessagePayloadEncryption} :
    encryptPayload payload rsaCrypto rng p e = .ok r ↔ Seals payload rsaCrypto rng p e r := by
  cases e with
  | plain =>
    simp only [encryptPayload, except_bind_eq_ok, mapError_eq_ok, Serde.tryIntoBytes]
    constructor
    · rintro ⟨v, hp, hr⟩
      cases hr
      exact .plain hp
    · intro h
      cases h with
      | plain hp => exact ⟨_, hp, rfl⟩
  | aes token =>
    simp only [encryptPayload, except_bind_eq_ok, mapError_eq_ok, Serde.tryIntoBytes]
    constructor
    · rintro ⟨encrypted, hrsa, v, hp, hr⟩
      split at hr <;> cases hr
      rename_i haes
      exact .aes hrsa hp haes
    · intro h
      cases h with
      | aes hrsa hp haes => exact ⟨_, hrsa, _, hp, by rw [haes]; rfl⟩

/-- Every library call on the way from a message to its body succeeds, and `body` is what comes
out. -/
inductive Sends (payload : Serde P) (fetcher : RsaCryptoFetcher libs) (compress : Bool)
    (rng : libs.OsRng) (m : PpaassMessage P) (body : ByteVec) : Prop
  | intro {rsaCrypto : RsaCrypto libs} {sealed : Bytes × PpaassMessagePayloadEncryption}
      {envelope : ByteVec} (known : fetcher m.userToken = .ok (some rsaCrypto))
      (seals : Seals payload rsaCrypto rng m.payload m.encryption sealed)
      (serializes :
        libs.codecMessage.serialize ⟨m.messageId, m.userToken, sealed.2, sealed.1⟩ = .ok envelope)
      (compresses : if compress then libs.gzEncode envelope.bytes = .ok body else envelope = body)

/-- The user token is known, and RSA, serialization, AES and gzip do not fail on the message. -/
def Sendable (payload : Serde P) (fetcher : RsaCryptoFetcher libs) (compress : Bool)
    (rng : libs.OsRng) (m : PpaassMessage P) : Prop :=
  ∃ body, Sends payload fetcher compress rng m body

theorem encodeBody_eq_ok {payload : Serde P} {fetcher : RsaCryptoFetcher libs} {compress : Bool}
    {rng : libs.OsRng} {m : PpaassMessage P} {body : ByteVec} :
    encodeBody payload fetcher compress rng m = .ok body ↔
      Sends payload fetcher compress rng m body := by
  have hlast : ∀ envelope : ByteVec,
      (if compress = true then
          (libs.gzEncode envelope.bytes).mapError fun e => Fault.err (CommonError.io e)
        else pure envelope) = .ok body ↔
      if compress then libs.gzEncode envelope.bytes = .ok body else envelope = body := by
    intro envelope
    cases compress <;> simp [mapError_eq_ok, pure, Except.pure]
  simp only [encodeBody, except_bind_eq_ok, mapError_eq_ok, fetchCrypto_eq_ok,
    encryptPayload_eq_ok, Serde.tryIntoBytes, hlast]
  constructor
  · rintro ⟨rsaCrypto, known, sealed, seals, envelope, serializes, compresses⟩
    exact ⟨known, seals, serializes, compresses⟩
  · rintro ⟨known, seals, serializes, compresses⟩
    exact ⟨_, known, _, seals, _, serializes, compresses⟩

/-! ## Opening a body -/

/-- The calls that turn the envelope's payload, under an encryption, into the payload's bytes
succeed. -/
inductive Unseals (rsaCrypto : RsaCrypto libs) (sealed : Bytes) :
    PpaassMessagePayloadEncryption → Bytes → Prop
  | plain : Unseals rsaCrypto sealed .plain sealed
  | aes {encrypted token payloadBytes target : Bytes}
      (hrsa : rsaCrypto.decrypt encrypted = .ok token)
      (haes : (decryptWithAes libs token).run sealed = .ok payloadBytes target) :
      Unseals rsaCrypto sealed (.aes encrypted) payloadBytes

theorem decryptPayload_eq_ok {rsaCrypto : RsaCrypto libs} {sealed payloadBytes : Bytes}
    {e : PpaassMessagePayloadEncryption} :
    decryptPayload rsaCrypto sealed e = .ok payloadBytes ↔
      Unseals rsaCrypto sealed e payloadBytes := by
  cases e with
  | plain =>
    constructor
    · intro h
      cases h
      exact .plain
    · intro h
      cases h
      rfl
  | aes encrypted =>
    simp only [decryptPayload, except_bind_eq_ok, mapError_eq_ok]
    constructor
    · rintro ⟨token, hrsa, h⟩
      split at h <;> cases h
      rename_i haes
      exact .aes hrsa haes
    · intro h
      cases h with
      | aes hrsa haes => exact ⟨_, hrsa, by rw [haes]; rfl⟩

theorem decompress_eq_ok {compressed : Bool} {body messageBytes : Bytes} :
    decompress libs compressed body = .ok messageBytes ↔
      if compressed then libs.gzDecode body = .ok messageBytes else body = messageBytes := by
  cases compressed <;> simp [decompress, mapError_eq_ok, pure, Except.pure]

/-- Every library call on the way from a body to the payload's bytes succeeds. -/
inductive Opens (fetcher : RsaCryptoFetcher libs) (compressed : Bool) (body : Bytes)
    (message : CodecPpaassMessage) (payloadBytes : Bytes) : Prop
  | intro {messageBytes : Bytes} {rsaCrypto : RsaCrypto libs}
      (decompresses : if compressed then libs.gzDecode body = .ok messageBytes
        else body = messageBytes)
      (deserializes : libs.codecMessage.deserialize messageBytes = .ok message)
      (known : fetcher message.userToken = .ok (some rsaCrypto))
      (unseals : Unseals rsaCrypto message.payload message.encryption payloadBytes)

theorem decodeBody_eq_ok {fetcher : RsaCryptoFetcher libs} {compressed : Bool} {body : Bytes}
    {message : CodecPpaassMessage} {payloadBytes : Bytes} :
    decodeBody fetcher compressed body = .ok (message, payloadBytes) ↔
      Opens fetcher compressed body message payloadBytes := by
  simp only [decodeBody, except_bind_eq_ok, mapError_eq_ok, fetchCrypto_eq_ok,
    decryptPayload_eq_ok, decompress_eq_ok, Serde.tryFromBytes, pure, Except.pure,
    Except.ok.injEq, Prod.mk.injEq]
  constructor
  · rintro ⟨messageBytes, decompresses, _, deserializes, rsaCrypto, known, _, unseals, rfl, rfl⟩
    exact ⟨decompresses, deserializes, known, unseals⟩
  · rintro ⟨decompresses, deserializes, known, unseals⟩
    exact ⟨_, decompresses, _, deserializes, _, known, _, unseals, rfl, rfl⟩

/-! ## Round trip -/

/-- What travels sealed is unsealed with the paired keys. -/
theorem Seals.unseals {payload : Serde P} {s r : RsaCrypto libs} {rng : libs.OsRng} {p : P}
    {e : PpaassMessagePayloadEncryption} {sealed : Bytes × PpaassMessagePayloadEncryption}
    (haes : libs.AesPermutes)
    (hpair : ∀ rng token encrypted, s.encrypt rng token = .ok encrypted →
      r.decrypt encrypted = .ok token)
    (h : Seals payload s rng p e sealed) :
    ∃ v, payload.serialize p = .ok v ∧ Unseals r sealed.1 sealed.2 v.bytes := by
  cases h with
  | plain hp => exact ⟨_, hp, .plain⟩
  | aes hrsa hp henc =>
    obtain ⟨target, hdec⟩ := decrypt_encryptWithAes haes henc
    exact ⟨_, hp, .aes (hpair _ _ _ hrsa) hdec⟩

/-- **A body is opened to what it was made from**, by a receiver that decompresses exactly what the
sender compressed. The envelope carries the payload and the encryption as they were sealed. -/
theorem Sends.opens {payload : Serde P} {sender receiver : RsaCryptoFetcher libs}
    {compress : Bool} {rng : libs.OsRng} {m : PpaassMessage P} {body : ByteVec}
    (hgzip : libs.GzipRoundTrips) (henv : libs.EnvelopeRoundTrips) (haes : libs.AesPermutes)
    (hpair : PairedAt sender receiver m.userToken)
    (h : Sends payload sender compress rng m body) :
    ∃ (rsaCrypto : RsaCrypto libs) (sealed : Bytes × PpaassMessagePayloadEncryption) (v : ByteVec),
      Seals payload rsaCrypto rng m.payload m.encryption sealed ∧
      Opens receiver compress body.bytes ⟨m.messageId, m.userToken, sealed.2, sealed.1⟩ v.bytes ∧
      payload.serialize m.payload = .ok v := by
  obtain ⟨known, seals, serializes, compresses⟩ := h
  rename_i rsaCrypto sealed envelope
  obtain ⟨s, r, hs, hr, hsr⟩ := hpair
  cases hs.symm.trans known
  obtain ⟨v, hv, unseals⟩ := seals.unseals haes hsr
  refine ⟨rsaCrypto, sealed, v, seals, ⟨?_, henv _ _ serializes, hr, unseals⟩, hv⟩
  cases compress with
  | true => exact hgzip _ _ compresses
  | false => exact congrArg ByteVec.bytes compresses.symm

end Ppaass.ConnectionCodec
