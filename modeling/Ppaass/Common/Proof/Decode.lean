import Ppaass.Common.Codec

/-!
# What one call of `decode` does

`decode` on a buffer does one of four things: it asks for more (`decode_head_short`,
`decode_data_short`), it refuses the flag (`decode_badFlag`), it enters the status `Data`
(`decode_header`) or it takes a whole body off the buffer (`decode_body`, whose result is
`afterBody`). Everything below follows from these, by cases on the status (`decode_head_cases`,
`decode_data_cases`).

* `incremental`: `decode` commutes with appending bytes to the buffer.
* `decode_frame`: on a fresh codec a whole frame is decoded to `afterBody` of its body.
-/

namespace Ppaass.ConnectionCodec

open Wire Framed

variable {libs : Libs} {P : Type}

/-! ## Frames -/

/-- The first `HEADER_LENGTH` bytes of a frame. -/
def header (flag : UInt8) (bodyLength : UInt64) : Bytes :=
  PPAASS_FLAG ++ flag :: beBytes 8 bodyLength.toNat

/-- A frame: its length field holds the length of its body. -/
structure Frame where
  flag : UInt8
  bodyLength : UInt64
  body : Bytes
  len_eq : body.length = bodyLength.toNat

def Frame.bytes (f : Frame) : Bytes := header f.flag f.bodyLength ++ f.body

@[simp] theorem header_length (flag : UInt8) (bodyLength : UInt64) :
    (header flag bodyLength).length = HEADER_LENGTH := by
  simp [header, HEADER_LENGTH, PPAASS_FLAG]

theorem Frame.bytes_length (f : Frame) :
    f.bytes.length = HEADER_LENGTH + f.bodyLength.toNat := by
  rw [Frame.bytes, List.length_append, header_length, f.len_eq]

/-- `HEADER_LENGTH` bytes that begin with the flag are a header. -/
theorem exists_header {buf : Bytes} (h : HEADER_LENGTH ≤ buf.length)
    (hf : buf.take PPAASS_FLAG.length = PPAASS_FLAG) :
    ∃ flag bodyLength rest, buf = header flag bodyLength ++ rest := by
  have hlen : (buf.drop PPAASS_FLAG.length).length ≠ 0 := by
    simp only [List.length_drop, HEADER_LENGTH] at h ⊢
    omega
  obtain ⟨flag, tail, htail⟩ := List.exists_cons_of_length_pos (Nat.pos_of_ne_zero hlen)
  have h8 : (tail.take 8).length = 8 := by
    have := congrArg List.length htail
    simp only [List.length_drop, List.length_cons, List.length_take, HEADER_LENGTH] at this h ⊢
    omega
  have hn : ofBe (tail.take 8) < 2 ^ 64 := by
    have := ofBe_lt (tail.take 8)
    rw [h8] at this
    exact this
  refine ⟨flag, UInt64.ofNat (ofBe (tail.take 8)), tail.drop 8, ?_⟩
  have hbe := beBytes_ofBe (tail.take 8)
  rw [h8] at hbe
  rw [header, UInt64.toNat_ofNat', Nat.mod_eq_of_lt hn, hbe, List.append_assoc, List.cons_append,
    List.take_append_drop, ← htail]
  conv => lhs; rw [← List.take_append_drop PPAASS_FLAG.length buf, hf]

/-! ## The steps of `decode` -/

section
variable (c : ConnectionCodec libs) (buf : Bytes)

@[simp] theorem run_reserve (n : Nat) :
    (reserve Reserve.unobserved n).run (c, buf) = .ok () (c, buf) := by
  simp [reserve, Reserve.unobserved]

@[simp] theorem run_setStatus (status : DecodeStatus) :
    (setStatus status).run (c, buf) = .ok () ({ c with status }, buf) := rfl

@[simp] theorem run_orFault_ok {α : Type} (a : α) :
    (orFault (.ok a)).run (c, buf) = .ok a (c, buf) := rfl

@[simp] theorem run_orFault_error {α : Type} (f : Fault CommonError) :
    (orFault (α := α) (.error f)).run (c, buf) = .error f (c, buf) := rfl

end

/-- What `decode` returns, and leaves, once it has taken a whole body off the buffer. The status is
reset after `decodeBody` and before the payload is deserialized. -/
def afterBody (payload : Serde P) (c : ConnectionCodec libs) (compressed : Bool)
    (bodyLength : UInt64) (body rest : Bytes) :
    EStateM.Result (Fault CommonError) (ConnectionCodec libs × Bytes) (Option (PpaassMessage P)) :=
  match decodeBody c.rsaCryptoFetcher compressed body with
  | .error f => .error f ({ c with status := .data compressed bodyLength }, rest)
  | .ok (message, decryptPayloadBytes) =>
    match payload.tryFromBytes decryptPayloadBytes with
    | .error e => .error (.err e) ({ c with status := .head }, rest)
    | .ok messagePayload =>
      .ok (some ⟨message.messageId, message.userToken, message.encryption, messagePayload⟩)
        ({ c with status := .head }, rest)

section
variable (payload : Serde P) {c : ConnectionCodec libs} {buf : Bytes}

theorem run_decodeData_short {compressed : Bool} {n : UInt64} (h : buf.length < n.toNat) :
    (decodeData Reserve.unobserved payload compressed n).run (c, buf) = .ok none (c, buf) := by
  simp [decodeData, h]

theorem run_decodeData_body {compressed : Bool} {n : UInt64} {body rest : Bytes}
    (h : body.length = n.toNat) :
    (decodeData Reserve.unobserved payload compressed n).run (c, body ++ rest) =
      afterBody payload c compressed n body rest := by
  have hlt : ¬ (body ++ rest).length < n.toNat := by simp [h]
  have hsplit : ∀ c : ConnectionCodec libs,
      (splitTo n.toNat : CodecM _ CommonError Bytes).run (c, body ++ rest) =
        .ok body (c, rest) := by
    intro c
    rw [run_splitTo c (by simp [h]), List.take_left' h, List.drop_left' h]
  simp only [decodeData, EStateM.run_bind, run_remaining, hlt, if_false, run_setStatus, hsplit,
    run_codec, afterBody]
  cases decodeBody c.rsaCryptoFetcher compressed body with
  | error f => rfl
  | ok r =>
    obtain ⟨message, bytes⟩ := r
    simp only [run_orFault_ok, run_setStatus, run_reserve]
    cases payload.tryFromBytes bytes <;> rfl

theorem decode_head_short (hs : c.status = .head) (h : buf.length < HEADER_LENGTH) :
    (decode payload).run (c, buf) = .ok none (c, buf) := by
  simp [decode, decodeWith, hs, h]

theorem decode_badFlag (hs : c.status = .head) (h : HEADER_LENGTH ≤ buf.length)
    (hf : PPAASS_FLAG ≠ buf.take PPAASS_FLAG.length) :
    (decode payload).run (c, buf) =
      .error (.err (.decoder (.invalidMessageFlag
        s!"The incoming message is not begin with {PPAASS_FLAG}")))
        (c, buf.drop PPAASS_FLAG.length) := by
  have hlen : PPAASS_FLAG.length ≤ buf.length := by simp only [HEADER_LENGTH] at h; omega
  simp only [decode, decodeWith, EStateM.run_bind, run_codec, hs, run_remaining,
    Nat.not_lt.2 h, if_false, run_splitTo c hlen, ne_eq, hf, not_false_eq_true, if_true, run_throw]

theorem decode_data {compressed : Bool} {n : UInt64} (hs : c.status = .data compressed n) :
    (decode payload).run (c, buf) =
      (decodeData Reserve.unobserved payload compressed n).run (c, buf) := by
  simp only [decode, decodeWith, EStateM.run_bind, run_codec, hs]

theorem decode_data_short {compressed : Bool} {n : UInt64} (hs : c.status = .data compressed n)
    (h : buf.length < n.toNat) : (decode payload).run (c, buf) = .ok none (c, buf) := by
  rw [decode_data payload hs, run_decodeData_short payload h]

theorem decode_body {compressed : Bool} {n : UInt64} {body rest : Bytes}
    (hs : c.status = .data compressed n) (h : body.length = n.toNat) :
    (decode payload).run (c, body ++ rest) = afterBody payload c compressed n body rest := by
  rw [decode_data payload hs, run_decodeData_body payload h]

theorem splitTo_header (flag : UInt8) (n : UInt64) (rest : Bytes) :
    (splitTo PPAASS_FLAG.length : CodecM _ CommonError Bytes).run (c, header flag n ++ rest) =
      .ok PPAASS_FLAG (c, flag :: beBytes 8 n.toNat ++ rest) := by
  rw [run_splitTo c (by simp [header]), header, List.append_assoc, List.take_left, List.drop_left]

theorem getU64_header (n : UInt64) (rest : Bytes) :
    (getU64 : CodecM _ CommonError UInt64).run (c, beBytes 8 n.toNat ++ rest) =
      .ok n (c, rest) := by
  rw [run_getU64 c (by simp), List.take_left' (beBytes_length 8 _),
    List.drop_left' (beBytes_length 8 _), ofNat_ofBe_beBytes8]

/-- A header puts the codec in the status `Data` and is gone. -/
theorem decode_header (hs : c.status = .head) (flag : UInt8) (n : UInt64) (rest : Bytes) :
    (decode payload).run (c, header flag n ++ rest) =
      (decode payload).run ({ c with status := .data (flag == 1) n }, rest) := by
  have hlen : ¬ (header flag n ++ rest).length < HEADER_LENGTH := by simp
  rw [decode_data payload (c := { c with status := .data (flag == 1) n }) rfl]
  simp only [decode, decodeWith, EStateM.run_bind, run_codec, hs, run_remaining, hlen, if_false,
    splitTo_header, ne_eq, not_true_eq_false, List.cons_append, run_getU8, getU64_header,
    run_reserve, run_setStatus]

/-- **A whole frame** on a fresh codec. -/
theorem decode_frame (hs : c.status = .head) (f : Frame) (rest : Bytes) :
    (decode payload).run (c, f.bytes ++ rest) =
      afterBody payload c (f.flag == 1) f.bodyLength f.body rest := by
  rw [Frame.bytes, List.append_assoc, decode_header payload hs, decode_body payload rfl f.len_eq]
  rfl

/-- A fresh codec decodes exactly these bytes to the message. -/
def Decodes (c : ConnectionCodec libs) (frame : Bytes) (m : PpaassMessage P) : Prop :=
  (decode payload).run (c, frame) = .ok (some m) (c, [])

/-! ## The decoder -/

/-- What a call that takes a body leaves: the codec at the start of a frame if it returns a message,
and never a request for more. -/
theorem afterBody_ok {compressed : Bool} {n : UInt64} {body rest buf' : Bytes}
    {m : Option (PpaassMessage P)} {c' : ConnectionCodec libs}
    (h : afterBody payload c compressed n body rest = .ok m (c', buf')) :
    m.isSome ∧ c' = { c with status := .head } ∧ buf' = rest := by
  unfold afterBody at h
  split at h
  · cases h
  · split at h <;> cases h
    exact ⟨rfl, rfl, rfl⟩

theorem exists_body {n : Nat} (h : ¬ buf.length < n) :
    ∃ body rest, buf = body ++ rest ∧ body.length = n :=
  ⟨buf.take n, buf.drop n, (List.take_append_drop n buf).symm, by simp; omega⟩

/-- What a call in the status `Data` does. -/
theorem decode_data_cases {compressed : Bool} {n : UInt64} (hs : c.status = .data compressed n)
    (buf : Bytes) :
    (buf.length < n.toNat ∧ (decode payload).run (c, buf) = .ok none (c, buf)) ∨
    ∃ body rest, buf = body ++ rest ∧ body.length = n.toNat ∧
      (decode payload).run (c, buf) = afterBody payload c compressed n body rest := by
  by_cases hn : buf.length < n.toNat
  · exact .inl ⟨hn, decode_data_short payload hs hn⟩
  · obtain ⟨body, rest, rfl, hbody⟩ := exists_body hn
    exact .inr ⟨body, rest, rfl, hbody, decode_body payload hs hbody⟩

/-- What a call on a fresh codec does. -/
theorem decode_head_cases (hs : c.status = .head) (buf : Bytes) :
    (buf.length < HEADER_LENGTH ∧ (decode payload).run (c, buf) = .ok none (c, buf)) ∨
    (∃ f s, (decode payload).run (c, buf) = .error f s) ∨
    ∃ flag n rest, buf = header flag n ++ rest ∧ (decode payload).run (c, buf) =
      (decode payload).run ({ c with status := .data (flag == 1) n }, rest) := by
  by_cases hlen : buf.length < HEADER_LENGTH
  · exact .inl ⟨hlen, decode_head_short payload hs hlen⟩
  have hle := Nat.not_lt.1 hlen
  by_cases hf : buf.take PPAASS_FLAG.length = PPAASS_FLAG
  · obtain ⟨flag, n, rest, rfl⟩ := exists_header hle hf
    exact .inr (.inr ⟨flag, n, rest, rfl, decode_header payload hs flag n rest⟩)
  · exact .inr (.inl ⟨_, _, decode_badFlag payload hs hle (Ne.symm hf)⟩)

/-- A message taken in the status `Data` took the rest of its frame. -/
theorem decode_data_some {c' : ConnectionCodec libs} {buf' : Bytes} {m : PpaassMessage P}
    {compressed : Bool} {n : UInt64} (hs : c.status = .data compressed n)
    (h : (decode payload).run (c, buf) = .ok (some m) (c', buf')) :
    c' = { c with status := .head } ∧ ∃ body, body.length = n.toNat ∧ buf = body ++ buf' := by
  obtain ⟨-, hrun⟩ | ⟨body, rest, rfl, hbody, hrun⟩ := decode_data_cases payload hs buf
  · rw [hrun] at h
    cases h
  · rw [hrun] at h
    obtain ⟨-, rfl, rfl⟩ := afterBody_ok payload h
    exact ⟨rfl, body, hbody, rfl⟩

/-- A message taken on a fresh codec took exactly one frame. -/
theorem decode_head_some {c' : ConnectionCodec libs} {buf' : Bytes} {m : PpaassMessage P}
    (hs : c.status = .head) (h : (decode payload).run (c, buf) = .ok (some m) (c', buf')) :
    c' = c ∧ ∃ f : Frame, buf = f.bytes ++ buf' := by
  obtain ⟨-, hrun⟩ | ⟨f, s, hrun⟩ | ⟨flag, n, rest, rfl, hrun⟩ := decode_head_cases payload hs buf
  · rw [hrun] at h
    cases h
  · rw [hrun] at h
    cases h
  · rw [hrun] at h
    obtain ⟨rfl, body, hbody, rfl⟩ := decode_data_some payload rfl h
    refine ⟨?_, ⟨flag, n, body, hbody⟩, by simp [Frame.bytes]⟩
    rw [← hs]

/-- A frame may have an empty body, so that its message costs no byte in the status `Data`. -/
def statusRank : DecodeStatus → Nat
  | .head => 0
  | .data _ _ => 1

def decoder : Decoder (ConnectionCodec libs) CommonError (PpaassMessage P) where
  decode := decode payload
  rank c := statusRank c.status
  progress := by
    intro c buf m c' buf' h
    cases hs : c.status with
    | head =>
      obtain ⟨rfl, f, rfl⟩ := decode_head_some payload hs h
      have := f.bytes_length
      simp only [hs, HEADER_LENGTH, List.length_append] at this ⊢
      omega
    | data compressed n =>
      obtain ⟨rfl, body, -, rfl⟩ := decode_data_some payload hs h
      simp only [statusRank, List.length_append]
      omega

/-! ## Appending bytes -/

theorem afterBody_append (compressed : Bool) (n : UInt64) (body rest more : Bytes) :
    afterBody payload c compressed n body (rest ++ more) =
      (decoder payload).extend more (afterBody payload c compressed n body rest) := by
  unfold afterBody
  cases decodeBody c.rsaCryptoFetcher compressed body with
  | error f => rfl
  | ok r =>
    dsimp only
    cases payload.tryFromBytes r.2 <;> rfl

theorem decode_append_data {compressed : Bool} {n : UInt64} (hs : c.status = .data compressed n)
    (more : Bytes) :
    (decode payload).run (c, buf ++ more) =
      (decoder payload).extend more ((decode payload).run (c, buf)) := by
  obtain ⟨-, hrun⟩ | ⟨body, rest, rfl, hbody, hrun⟩ := decode_data_cases payload hs buf
  · rw [hrun]
    rfl
  · rw [hrun, List.append_assoc, decode_body payload hs hbody, afterBody_append]

/-- **`decode` commutes with appending bytes** to the buffer, in each status and on any input. -/
theorem incremental : (@decoder libs P payload).Incremental := by
  intro c buf more
  change (decode payload).run (c, buf ++ more) =
    (decoder payload).extend more ((decode payload).run (c, buf))
  cases hs : c.status with
  | data compressed n => exact decode_append_data payload hs more
  | head =>
    by_cases hlen : buf.length < HEADER_LENGTH
    · rw [decode_head_short payload hs hlen]
      rfl
    have hle := Nat.not_lt.1 hlen
    have hflag : PPAASS_FLAG.length ≤ buf.length := by simp only [HEADER_LENGTH] at hle; omega
    by_cases hf : buf.take PPAASS_FLAG.length = PPAASS_FLAG
    · obtain ⟨flag, n, rest, rfl⟩ := exists_header hle hf
      rw [List.append_assoc, decode_header payload hs, decode_header payload hs]
      exact decode_append_data payload rfl more
    · have htake : (buf ++ more).take PPAASS_FLAG.length = buf.take PPAASS_FLAG.length :=
        List.take_append_of_le_length hflag
      rw [decode_badFlag payload hs hle (Ne.symm hf),
        decode_badFlag payload hs (by simp; omega) (by rw [htake]; exact Ne.symm hf),
        List.drop_append_of_le_length hflag]
      rfl

end

end Ppaass.ConnectionCodec
