import Ppaass.Common.Proof.RoundTrip

/-!
# Where the decoders panic

`awaitBody` is the part of `decode` that reads the header and waits for the body (`decodeWith_eq`).
With a `reserve` that panics beyond `isizeMax` it panics exactly where a body is announced that does
not fit beside the bytes already there (`header_safe_iff`). What follows panics exactly where the
token of the body decrypts to a key of another length than 32 (`body_safe_iff`).
-/

namespace Ppaass

open Wire Framed

/-- `reserve` panics where the buffer would be larger than an allocation may be. -/
def Reserve.bounded : Reserve := fun len additional => decide (len + additional ≤ isizeMax)

namespace ConnectionCodec

variable {libs : Libs} {P : Type}

/-! ## The header -/

section
variable (policy : Reserve)

/-- `decode` in the status `Data`, up to the body. -/
def awaitData (compressed : Bool) (bodyLength : UInt64) :
    CodecM (ConnectionCodec libs) CommonError (Option (Bool × Bytes)) := do
  if (← remaining) < bodyLength.toNat then
    reserve policy bodyLength.toNat
    return none
  else
    setStatus (.data compressed bodyLength)
    return some (compressed, ← splitTo bodyLength.toNat)

/-- `decode` up to the body: the compression flag and the body, or none where it is not there. -/
def awaitBody : CodecM (ConnectionCodec libs) CommonError (Option (Bool × Bytes)) := do
  match (← codec).status with
  | .head =>
    if (← remaining) < HEADER_LENGTH then
      reserve policy HEADER_LENGTH
      return none
    else
      let ppaassFlag ← splitTo PPAASS_FLAG.length
      if PPAASS_FLAG ≠ ppaassFlag then
        throw (.err (.decoder (.invalidMessageFlag
          s!"The incoming message is not begin with {PPAASS_FLAG}")))
      else
        let compressed := (← getU8) == 1
        let bodyLength ← getU64
        reserve policy bodyLength.toNat
        setStatus (.data compressed bodyLength)
        awaitData policy compressed bodyLength
  | .data compressed bodyLength => awaitData policy compressed bodyLength

/-- `decode` once it has the body. -/
def readBody (payload : Serde P) :
    Option (Bool × Bytes) → CodecM (ConnectionCodec libs) CommonError (Option (PpaassMessage P))
  | none => return none
  | some (compressed, bodyBytes) => do
    let (message, decryptPayloadBytes) ←
      orFault (decodeBody (← codec).rsaCryptoFetcher compressed bodyBytes)
    setStatus .head
    reserve policy HEADER_LENGTH
    let messagePayload ← orThrow id (payload.tryFromBytes decryptPayloadBytes)
    return some ⟨message.messageId, message.userToken, message.encryption, messagePayload⟩

theorem decodeData_eq (payload : Serde P) (compressed : Bool) (bodyLength : UInt64) :
    (decodeData policy payload compressed bodyLength :
      CodecM (ConnectionCodec libs) CommonError _) =
      awaitData policy compressed bodyLength >>= readBody policy payload := by
  simp only [decodeData, awaitData, bind_assoc]
  congr 1
  funext n
  split
  · simp [readBody]
  · simp [readBody]

/-- **`decode` waits for the body and reads it.** -/
theorem decodeWith_eq (payload : Serde P) :
    (decodeWith policy payload : CodecM (ConnectionCodec libs) CommonError _) =
      awaitBody policy >>= readBody policy payload := by
  simp only [decodeWith, awaitBody, bind_assoc]
  congr 1
  funext c
  cases c.status with
  | data compressed bodyLength => exact decodeData_eq policy payload compressed bodyLength
  | head =>
    simp only [bind_assoc]
    congr 1
    funext n
    split
    · simp [readBody]
    · simp only [bind_assoc]
      congr 1
      funext ppaassFlag
      split
      · rfl
      · simp only [bind_assoc, decodeData_eq]

end

section
variable {c : ConnectionCodec libs} {buf : Bytes}

theorem run_reserve_bounded (additional : Nat) :
    (reserve Reserve.bounded additional).run (c, buf) =
      if buf.length + additional ≤ isizeMax then .ok () (c, buf)
      else .error (.panic "capacity overflow") (c, buf) := by
  simp only [reserve, Reserve.bounded, EStateM.run_bind, run_remaining, decide_eq_true_eq]
  split <;> rfl

/-- Waiting for a body panics where the body does not fit beside a part of it. -/
theorem awaitData_panics_iff (compressed : Bool) (n : UInt64) :
    Panics ((awaitData Reserve.bounded compressed n).run (c, buf)) ↔
      buf.length < n.toNat ∧ isizeMax < buf.length + n.toNat := by
  simp only [awaitData, EStateM.run_bind, run_remaining]
  by_cases hlen : buf.length < n.toNat
  · rw [if_pos hlen, EStateM.run_bind, run_reserve_bounded]
    by_cases hfit : buf.length + n.toNat ≤ isizeMax
    · rw [if_pos hfit]
      exact iff_of_false (fun ⟨_, _, h⟩ => by cases h) fun h => Nat.not_lt.2 hfit h.2
    · rw [if_neg hfit]
      exact iff_of_true ⟨_, _, rfl⟩ ⟨hlen, Nat.not_le.1 hfit⟩
  · rw [if_neg hlen, EStateM.run_bind, run_setStatus]
    dsimp only
    rw [EStateM.run_bind, run_splitTo _ (Nat.not_lt.1 hlen)]
    exact iff_of_false (fun ⟨_, _, h⟩ => by cases h) fun h => hlen h.1

/-- The body that is announced, in the header or in the status, fits beside the bytes that are there
when room is made for it. -/
def BodyFits (c : ConnectionCodec libs) (buf : Bytes) : Prop :=
  match c.status with
  | .head => ∀ flag n rest, buf = header flag n ++ rest → rest.length + n.toNat ≤ isizeMax
  | .data _ n => buf.length < n.toNat → buf.length + n.toNat ≤ isizeMax

theorem header_inj {flag flag' : UInt8} {n n' : UInt64} {rest rest' : Bytes}
    (h : header flag n ++ rest = header flag' n' ++ rest') :
    flag = flag' ∧ n = n' ∧ rest = rest' := by
  obtain ⟨hheader, hrest⟩ := List.append_inj h (by simp)
  rw [header, header] at hheader
  obtain ⟨hflag, hn⟩ := List.cons.inj (List.append_cancel_left hheader)
  have hbe := congrArg (fun bs => UInt64.ofNat (ofBe bs)) hn
  simp only [ofNat_ofBe_beBytes8] at hbe
  exact ⟨hflag, hbe, hrest⟩

/-- A header whose body fits puts the codec in the status `Data`. -/
theorem awaitBody_header (hs : c.status = .head) {policy : Reserve} (flag : UInt8) (n : UInt64)
    (rest : Bytes) : (awaitBody policy).run (c, header flag n ++ rest) =
      (do
        reserve policy n.toNat
        setStatus (.data (flag == 1) n)
        awaitData policy (flag == 1) n).run (c, rest) := by
  have hlen : ¬ (header flag n ++ rest).length < HEADER_LENGTH := by simp
  simp only [awaitBody, EStateM.run_bind, run_codec, hs, run_remaining, hlen, if_false,
    splitTo_header, ne_eq, not_true_eq_false, List.cons_append, run_getU8, getU64_header]

theorem awaitBody_badFlag (hs : c.status = .head) {policy : Reserve}
    (h : HEADER_LENGTH ≤ buf.length) (hf : PPAASS_FLAG ≠ buf.take PPAASS_FLAG.length) :
    (awaitBody policy).run (c, buf) =
      .error (.err (.decoder (.invalidMessageFlag
        s!"The incoming message is not begin with {PPAASS_FLAG}")))
        (c, buf.drop PPAASS_FLAG.length) := by
  have hlen : PPAASS_FLAG.length ≤ buf.length := by simp only [HEADER_LENGTH] at h; omega
  simp only [awaitBody, EStateM.run_bind, run_codec, hs, run_remaining, Nat.not_lt.2 h, if_false,
    run_splitTo c hlen, ne_eq, hf, not_false_eq_true, if_true, run_throw]

theorem awaitBody_panics_iff :
    Panics ((awaitBody Reserve.bounded).run (c, buf)) ↔ ¬ BodyFits c buf := by
  cases hs : c.status with
  | data compressed n =>
    simp only [awaitBody, EStateM.run_bind, run_codec, hs, BodyFits, awaitData_panics_iff,
      Classical.not_imp, Nat.not_le]
  | head =>
    by_cases hlen : buf.length < HEADER_LENGTH
    · have hfit : buf.length + HEADER_LENGTH ≤ isizeMax := by
        have : HEADER_LENGTH + HEADER_LENGTH ≤ isizeMax := by decide
        omega
      refine iff_of_false ?_ (not_not.2 ?_)
      · rintro ⟨what, st, h⟩
        simp [awaitBody, hs, hlen, run_reserve_bounded, hfit] at h
      · simp only [BodyFits, hs]
        rintro flag n rest rfl
        simp at hlen
    have hle := Nat.not_lt.1 hlen
    by_cases hf : buf.take PPAASS_FLAG.length = PPAASS_FLAG
    · obtain ⟨flag, n, rest, rfl⟩ := exists_header hle hf
      rw [awaitBody_header hs]
      have hfits : BodyFits c (header flag n ++ rest) ↔ rest.length + n.toNat ≤ isizeMax := by
        simp only [BodyFits, hs]
        refine ⟨fun h => h flag n rest rfl, ?_⟩
        rintro h flag' n' rest' heq
        obtain ⟨-, rfl, rfl⟩ := header_inj heq
        exact h
      rw [hfits, EStateM.run_bind, run_reserve_bounded]
      by_cases hfit : rest.length + n.toNat ≤ isizeMax
      · rw [if_pos hfit]
        dsimp only
        rw [EStateM.run_bind, run_setStatus]
        dsimp only
        rw [awaitData_panics_iff]
        exact iff_of_false (fun h => Nat.not_lt.2 hfit h.2) (not_not.2 hfit)
      · rw [if_neg hfit]
        exact iff_of_true ⟨_, _, rfl⟩ hfit
    · refine iff_of_false ?_ (not_not.2 ?_)
      · rintro ⟨what, st, h⟩
        rw [awaitBody_badFlag hs hle (Ne.symm hf)] at h
        cases h
      · simp only [BodyFits, hs]
        rintro flag n rest rfl
        exact (hf (by simp [header])).elim

end

/-- **No bytes operation panics before the body is there** exactly where the announced body fits, in
every state of the codec and for every buffer, of both decoders. -/
theorem header_safe_iff (libs : Libs) (c : ConnectionCodec libs) (buf : Bytes) :
    (decodeWith Reserve.bounded libs.agentPayload).run (c, buf) =
      (awaitBody Reserve.bounded >>= readBody Reserve.bounded libs.agentPayload).run (c, buf) ∧
    (decodeWith Reserve.bounded libs.proxyPayload).run (c, buf) =
      (awaitBody Reserve.bounded >>= readBody Reserve.bounded libs.proxyPayload).run (c, buf) ∧
    (¬ Panics ((awaitBody Reserve.bounded).run (c, buf)) ↔ BodyFits c buf) := by
  rw [decodeWith_eq, decodeWith_eq, awaitBody_panics_iff, not_not]
  exact ⟨rfl, rfl, Iff.rfl⟩

/-- A new codec, and a header that announces 2 ^ 63 bytes. -/
theorem huge_body_panics :
    Panics ((decodeWith Reserve.bounded Reference.libs.agentPayload).run
      (ConnectionCodec.new true (Reference.fetcher "user1"), header 1 0x8000000000000000)) := by
  have hnot : ¬ BodyFits (ConnectionCodec.new true (Reference.fetcher "user1"))
      (header 1 0x8000000000000000) := by
    intro h
    have hfit := h 1 0x8000000000000000 [] (by simp)
    exact absurd hfit (by decide)
  obtain ⟨what, st, hpanic⟩ := awaitBody_panics_iff.2 hnot
  rw [decodeWith_eq]
  exact ⟨what, st, run_bind_error hpanic⟩

/-! ## The body -/

theorem bind_eq_error {ε α β : Type} {x : Except ε α} {f : α → Except ε β} {e : ε} :
    x >>= f = .error e ↔ x = .error e ∨ ∃ a, x = .ok a ∧ f a = .error e := by
  cases x <;> simp [bind, Except.bind]

/-- An error of a library is no panic. -/
theorem mapError_ne_panic {δ ε α : Type} {f : δ → ε} {x : Except δ α} {what : String} :
    (x.mapError fun e => Fault.err (f e)) ≠ .error (.panic what) := by
  cases x <;> simp [Except.mapError]

theorem decryptWithAes_panics_iff (libs : Libs) (token msg : Bytes) :
    (∃ what st, (decryptWithAes libs token).run msg = .error (.panic what) st) ↔
      token.length ≠ 32 := by
  by_cases h : token.length = 32
  · refine iff_of_false ?_ (not_not.2 h)
    rintro ⟨what, st, hrun⟩
    simp only [decryptWithAes, dif_pos h, EStateM.run_bind, EStateM.run_get] at hrun
    split at hrun <;> cases hrun
  · refine iff_of_true ⟨"invalid AES-256 key length", msg, ?_⟩ h
    simp only [decryptWithAes, dif_neg h]
    rfl

/-- The token decrypts, if at all, to a key of 32 bytes. -/
def TokenFits (rsaCrypto : RsaCrypto libs) : PpaassMessagePayloadEncryption → Prop
  | .plain => True
  | .aes encrypted => ∀ token, rsaCrypto.decrypt encrypted = .ok token → token.length = 32

theorem decryptPayload_panics_iff {rsaCrypto : RsaCrypto libs} (sealed : Bytes)
    {e : PpaassMessagePayloadEncryption} :
    (∃ what, decryptPayload rsaCrypto sealed e = .error (.panic what)) ↔
      ¬ TokenFits rsaCrypto e := by
  cases e with
  | plain =>
    refine iff_of_false ?_ (not_not.2 trivial)
    rintro ⟨what, h⟩
    cases h
  | aes encrypted =>
    rcases hrsa : rsaCrypto.decrypt encrypted with e | token
    · refine iff_of_false ?_ (not_not.2 fun token htoken => by rw [hrsa] at htoken; cases htoken)
      rintro ⟨what, h⟩
      simp only [decryptPayload, hrsa] at h
      cases h
    · have hfits : TokenFits rsaCrypto (.aes encrypted) ↔ token.length = 32 := by
        refine ⟨fun h => h token hrsa, fun h token' htoken' => ?_⟩
        rw [hrsa] at htoken'
        cases htoken'
        exact h
      rw [hfits, ← ne_eq, ← decryptWithAes_panics_iff libs token sealed]
      constructor
      · rintro ⟨what, h⟩
        obtain h | ⟨token', htoken', h⟩ := bind_eq_error.1 h
        · exact (mapError_ne_panic h).elim
        rw [mapError_eq_ok, hrsa] at htoken'
        cases htoken'
        split at h <;> cases h
        exact ⟨what, _, by assumption⟩
      · rintro ⟨what, st, h⟩
        refine ⟨what, bind_eq_error.2 (.inr ⟨token, mapError_eq_ok.2 hrsa, ?_⟩)⟩
        rw [h]
        rfl

/-- What the token of the body decrypts to is a key, where the body gets that far. -/
def KeyFits (fetcher : RsaCryptoFetcher libs) (compressed : Bool) (body : Bytes) : Prop :=
  ∀ messageBytes message rsaCrypto,
    (if compressed then libs.gzDecode body = .ok messageBytes else body = messageBytes) →
    libs.codecMessage.deserialize messageBytes = .ok message →
    fetcher message.userToken = .ok (some rsaCrypto) → TokenFits rsaCrypto message.encryption

theorem decodeBody_panics_iff {fetcher : RsaCryptoFetcher libs} {compressed : Bool}
    {body : Bytes} : (∃ what, decodeBody fetcher compressed body = .error (.panic what)) ↔
      ¬ KeyFits fetcher compressed body := by
  constructor
  · rintro ⟨what, h⟩ hfits
    obtain h | ⟨messageBytes, decompresses, h⟩ := bind_eq_error.1 h
    · unfold decompress at h
      split at h
      · exact mapError_ne_panic h
      · cases h
    obtain h | ⟨message, deserializes, h⟩ := bind_eq_error.1 h
    · exact mapError_ne_panic h
    obtain h | ⟨rsaCrypto, known, h⟩ := bind_eq_error.1 h
    · exact mapError_ne_panic h
    obtain h | ⟨payloadBytes, -, h⟩ := bind_eq_error.1 h
    · simp only [mapError_eq_ok, Serde.tryFromBytes, fetchCrypto_eq_ok, decompress_eq_ok] at *
      exact (decryptPayload_panics_iff _).1 ⟨what, h⟩
        (hfits messageBytes message rsaCrypto decompresses deserializes known)
    · cases h
  · intro hfits
    simp only [KeyFits, Classical.not_forall] at hfits
    obtain ⟨messageBytes, message, rsaCrypto, decompresses, deserializes, known, htoken⟩ := hfits
    obtain ⟨what, hpanic⟩ := (decryptPayload_panics_iff message.payload).2 htoken
    refine ⟨what, ?_⟩
    refine bind_eq_error.2 (.inr ⟨messageBytes, decompress_eq_ok.2 decompresses, ?_⟩)
    refine bind_eq_error.2 (.inr ⟨message, ?_, ?_⟩)
    · simp only [mapError_eq_ok, Serde.tryFromBytes, deserializes]
    refine bind_eq_error.2 (.inr ⟨rsaCrypto, ?_, ?_⟩)
    · simp only [mapError_eq_ok, fetchCrypto_eq_ok, known]
    · exact bind_eq_error.2 (.inl hpanic)

/-- The bytes complete a frame: all of it on a new codec, or its body after the header. -/
def Completes (c : ConnectionCodec libs) (f : Frame) (front : Bytes) : Prop :=
  c.status = .head ∧ front = f.bytes ∨
    c.status = .data (f.flag == 1) f.bodyLength ∧ front = f.body

theorem decode_panics_iff (payload : Serde P) {c : ConnectionCodec libs} {f : Frame} {front : Bytes}
    (h : Completes c f front) (rest : Bytes) :
    Panics ((decode payload).run (c, front ++ rest)) ↔
      ¬ KeyFits c.rsaCryptoFetcher (f.flag == 1) f.body := by
  have hrun : (decode payload).run (c, front ++ rest) =
      afterBody payload c (f.flag == 1) f.bodyLength f.body rest := by
    rcases h with ⟨hs, rfl⟩ | ⟨hs, rfl⟩
    · exact decode_frame payload hs f rest
    · exact decode_body payload hs f.len_eq
  rw [hrun, ← decodeBody_panics_iff, afterBody]
  cases decodeBody c.rsaCryptoFetcher (f.flag == 1) f.body with
  | error e =>
    constructor
    · rintro ⟨what, st, h⟩
      cases h
      exact ⟨what, rfl⟩
    · rintro ⟨what, h⟩
      cases h
      exact ⟨what, _, rfl⟩
  | ok r =>
    refine iff_of_false ?_ (by simp)
    rintro ⟨what, st, h⟩
    dsimp only at h
    split at h <;> cases h

/-- **A frame is decoded or refused, without a panic,** exactly where the token of its body
decrypts, if it comes to that, to the 32 bytes of a key. Both decoders. -/
theorem body_safe_iff (libs : Libs) (c : ConnectionCodec libs) (f : Frame) (front rest : Bytes)
    (h : Completes c f front) :
    (¬ Panics (PpaassAgentConnectionCodec.decode.run (c, front ++ rest)) ↔
      KeyFits c.rsaCryptoFetcher (f.flag == 1) f.body) ∧
    (¬ Panics (PpaassProxyConnectionCodec.decode.run (c, front ++ rest)) ↔
      KeyFits c.rsaCryptoFetcher (f.flag == 1) f.body) := by
  unfold PpaassAgentConnectionCodec.decode PpaassProxyConnectionCodec.decode
  rw [decode_panics_iff _ h, decode_panics_iff _ h, not_not]
  exact ⟨Iff.rfl, Iff.rfl⟩

/-- The body of the frame of `hello`, which decodes. -/
theorem body_safe_hello : ∃ body : ByteVec,
    referenceFrame Reference.hello = (bodyFrame true body).bytes ∧
      KeyFits (Reference.fetcher "user1") true body.bytes := by
  have henc := encodes_referenceFrame (m := Reference.hello) (by decide +kernel)
  obtain ⟨rng, body, -, hframe⟩ := henc.sends
  obtain ⟨m, hdec, -⟩ := decodes_of_encodes Reference.gzipRoundTrips Reference.envelopeRoundTrips
    Reference.aesPermutes (travels_agentData "m1" .plain [104, 105]) henc true
  refine ⟨body, hframe, ?_⟩
  refine ((body_safe_iff Reference.libs (ConnectionCodec.new true (Reference.fetcher "user1"))
    (bodyFrame true body) (bodyFrame true body).bytes [] (.inl ⟨rfl, rfl⟩)).1).1 ?_
  rintro ⟨what, st, hpanic⟩
  rw [List.append_nil, PpaassAgentConnectionCodec.decode] at hpanic
  rw [Decodes, hframe] at hdec
  exact absurd (hdec.symm.trans hpanic) (by simp)

/-- A token that decrypts to one byte. -/
def shortToken : CodecPpaassMessage :=
  ⟨"m1", "user1", .aes (Reference.rsaEncryptByte 1), []⟩

/-- The frame of an envelope that is not compressed. -/
def plainFrame (v : ByteVec) : Frame := { bodyFrame false v with flag := 0 }

theorem short_token_panics : ∃ v, Reference.libs.codecMessage.serialize shortToken = .ok v ∧
    Panics (PpaassAgentConnectionCodec.decode.run
      (ConnectionCodec.new true (Reference.fetcher "user1"), (plainFrame v).bytes)) ∧
    Panics (PpaassProxyConnectionCodec.decode.run
      (ConnectionCodec.new true (Reference.fetcher "user1"), (plainFrame v).bytes)) := by
  obtain ⟨v, hv⟩ : ∃ v, Reference.libs.codecMessage.serialize shortToken = .ok v := by
    have hok : (Reference.libs.codecMessage.serialize shortToken).isOk = true := by decide +kernel
    cases hser : Reference.libs.codecMessage.serialize shortToken with
    | ok v => exact ⟨v, rfl⟩
    | error e =>
      rw [hser] at hok
      cases hok
  have hnot : ¬ KeyFits (Reference.fetcher "user1") false v.bytes := by
    intro h
    have htoken := h v.bytes shortToken ⟨(), ()⟩ rfl (Reference.envelopeRoundTrips _ _ hv)
      (by simp [Reference.fetcher, shortToken])
    exact absurd (htoken [1] (by decide +kernel)) (by decide)
  have hpanic : ∀ {P : Type} (payload : Serde P), Panics ((decode payload).run
      (ConnectionCodec.new true (Reference.fetcher "user1"), (plainFrame v).bytes)) := by
    intro P payload
    have h := (decode_panics_iff payload (c := ConnectionCodec.new true (Reference.fetcher "user1"))
      (.inl ⟨rfl, rfl⟩ : Completes _ (plainFrame v) (plainFrame v).bytes) []).2 hnot
    rwa [List.append_nil] at h
  exact ⟨v, hv, hpanic _, hpanic _⟩

end ConnectionCodec

end Ppaass
