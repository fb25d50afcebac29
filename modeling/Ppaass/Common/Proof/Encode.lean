import Ppaass.Common.Proof.Body
import Ppaass.Common.Proof.Decode

/-!
# What one call of `encode` does

`run_encode`: a call that succeeds appends one frame; one that fails appends the flag and the
compression byte, which `encode` writes before its first fallible step.

* `encode_neutral`: `encode` leaves the codec as it was, whatever it returns.
* `buffer_frames_iff`: over any sequence of calls the write buffer holds, at every point, the frames
  of the calls that succeeded and nothing else, exactly when every call is sendable.
-/

namespace Ppaass.ConnectionCodec

open Wire Framed

variable {libs : Libs} {P : Type}

/-! ## Frames written -/

/-- The frame `encode` puts around a body. -/
def bodyFrame (compress : Bool) (body : ByteVec) : Frame where
  flag := if compress then COMPRESS_FLAG else UN_COMPRESS_FLAG
  bodyLength := UInt64.ofNat body.bytes.length
  body := body.bytes
  len_eq := body.toNat_length.symm

/-- What `encode` has written before its first fallible step. -/
def stray (compress : Bool) : Bytes :=
  PPAASS_FLAG ++ [if compress then COMPRESS_FLAG else UN_COMPRESS_FLAG]

theorem run_encode (payload : Serde P) (rng : libs.OsRng) (m : PpaassMessage P)
    (c : ConnectionCodec libs) (dst : Bytes) :
    (encode payload rng m).run (c, dst) =
      match encodeBody payload c.rsaCryptoFetcher c.compress rng m with
      | .ok body => .ok () (c, dst ++ (bodyFrame c.compress body).bytes)
      | .error f => .error f (c, dst ++ stray c.compress) := by
  cases hc : c.compress <;>
    simp only [encode, EStateM.run_bind, run_put, run_codec, hc, if_true, Bool.false_eq_true,
      if_false, run_putU8] <;>
    cases encodeBody payload c.rsaCryptoFetcher _ rng m with
    | error f => simp [stray]
    | ok body => simp [Frame.bytes, header, bodyFrame]

/-- A call of `encode`: the randomness it draws and its message. -/
abbrev Call (libs : Libs) (P : Type) := libs.OsRng × PpaassMessage P

def encodeCall (payload : Serde P) (call : Call libs P) :
    CodecM (ConnectionCodec libs) CommonError Unit :=
  encode payload call.1 call.2

/-- A call of `encode` leaves the codec as it was. -/
theorem encode_neutral (payload : Serde P) : Conn.Neutral (@encodeCall libs P payload) := by
  intro call c dst
  rw [encodeCall, run_encode]
  cases encodeBody payload c.rsaCryptoFetcher c.compress call.1 call.2 <;> rfl

/-! ## Frames that arrive -/

/-- A codec's `encode`, on an empty buffer, writes the frame. -/
def Encodes (payload : Serde P) (c : ConnectionCodec libs) (m : PpaassMessage P) (frame : Bytes) :
    Prop :=
  ∃ rng, (encode payload rng m).run (c, []) = .ok () (c, frame)

theorem Encodes.sends {payload : Serde P} {c : ConnectionCodec libs} {m : PpaassMessage P}
    {frame : Bytes} (h : Encodes payload c m frame) :
    ∃ rng body, Sends payload c.rsaCryptoFetcher c.compress rng m body ∧
      frame = (bodyFrame c.compress body).bytes := by
  obtain ⟨rng, h⟩ := h
  rw [run_encode] at h
  cases hbody : encodeBody payload c.rsaCryptoFetcher c.compress rng m with
  | error f =>
    rw [hbody] at h
    cases h
  | ok body =>
    rw [hbody] at h
    cases h
    exact ⟨rng, body, encodeBody_eq_ok.1 hbody, rfl⟩

/-- A whole frame whose body opens is decoded to its content. -/
theorem decodes_of_opens {payload : Serde P} {c : ConnectionCodec libs} (hs : c.status = .head)
    {f : Frame} {message : CodecPpaassMessage} {v : Bytes} {p : P}
    (hopen : Opens c.rsaCryptoFetcher (f.flag == 1) f.body message v)
    (hp : payload.deserialize v = .ok p) :
    Decodes payload c f.bytes ⟨message.messageId, message.userToken, message.encryption, p⟩ := by
  have hdec := decode_frame payload hs f []
  rw [List.append_nil, afterBody, decodeBody_eq_ok.2 hopen] at hdec
  simp only [Serde.tryFromBytes, hp, Except.mapError] at hdec
  rw [Decodes, hdec, ← hs]

/-- What both sides of a connection assume of the libraries and of one message: the token's keys
are a pair, and the payload survives its serialization. -/
structure Travels (payload : Serde P) (sender receiver : RsaCryptoFetcher libs)
    (m : PpaassMessage P) : Prop where
  paired : PairedAt sender receiver m.userToken
  serde : payload.RoundTripsAt m.payload

/-- A compressed frame is decoded to its message, except for the encryption, which is the one that
was sealed. -/
theorem decodes_sealed {payload : Serde P} {sender receiver : RsaCryptoFetcher libs}
    (hgzip : libs.GzipRoundTrips) (henv : libs.EnvelopeRoundTrips) (haes : libs.AesPermutes)
    {m : PpaassMessage P} (hm : Travels payload sender receiver m) {frame : Bytes}
    (h : Encodes payload (ConnectionCodec.new true sender) m frame) (compress : Bool) :
    ∃ (rsaCrypto : RsaCrypto libs) (rng : libs.OsRng)
        (sealed : Bytes × PpaassMessagePayloadEncryption),
      Seals payload rsaCrypto rng m.payload m.encryption sealed ∧
      Decodes payload (ConnectionCodec.new compress receiver) frame
        ⟨m.messageId, m.userToken, sealed.2, m.payload⟩ := by
  obtain ⟨rng, body, hsends, rfl⟩ := h.sends
  obtain ⟨rsaCrypto, sealed, v, hseals, hopen, hv⟩ := hsends.opens hgzip henv haes hm.paired
  have hdec := decodes_of_opens (c := ConnectionCodec.new compress receiver)
    (f := bodyFrame true body) rfl hopen (hm.serde v hv)
  exact ⟨rsaCrypto, rng, sealed, hseals, hdec⟩

/-- A compressed frame is decoded to the content of its message. -/
theorem decodes_of_encodes {payload : Serde P} {sender receiver : RsaCryptoFetcher libs}
    (hgzip : libs.GzipRoundTrips) (henv : libs.EnvelopeRoundTrips) (haes : libs.AesPermutes)
    {m : PpaassMessage P} (hm : Travels payload sender receiver m) {frame : Bytes}
    (h : Encodes payload (ConnectionCodec.new true sender) m frame) (compress : Bool) :
    ∃ m', Decodes payload (ConnectionCodec.new compress receiver) frame m' ∧
      m'.content = m.content := by
  obtain ⟨rsaCrypto, rng, sealed, -, hdec⟩ := decodes_sealed hgzip henv haes hm h compress
  exact ⟨_, hdec, rfl⟩

/-! ## Sequences of calls -/

/-- The write buffer after a sequence of calls; a call that fails does not stop the ones after
it. -/
def bufferAfter (payload : Serde P) (c : ConnectionCodec libs) (dst : Bytes)
    (calls : List (Call libs P)) : Bytes :=
  (calls.foldl (fun st call =>
    match (encodeCall payload call).run st with
    | .ok _ st' | .error _ st' => st') (c, dst)).2

/-- The frame of a call that succeeds, which is what it writes to an empty buffer, and nothing for
one that fails. -/
def frameOf (payload : Serde P) (c : ConnectionCodec libs)
    (call : Call libs P) : Bytes :=
  match (encodeCall payload call).run (c, []) with
  | .ok _ (_, frame) => frame
  | .error _ _ => []

section
variable {payload : Serde P} {c : ConnectionCodec libs}

theorem bufferAfter_cons (dst : Bytes) (call : Call libs P)
    (calls : List (Call libs P)) :
    bufferAfter payload c dst (call :: calls) =
      bufferAfter payload c
        (match encodeBody payload c.rsaCryptoFetcher c.compress call.1 call.2 with
        | .ok body => dst ++ (bodyFrame c.compress body).bytes
        | .error _ => dst ++ stray c.compress) calls := by
  rw [bufferAfter, List.foldl_cons, encodeCall, run_encode]
  cases encodeBody payload c.rsaCryptoFetcher c.compress call.1 call.2 <;> rfl

theorem frameOf_eq (call : Call libs P) :
    frameOf payload c call =
      match encodeBody payload c.rsaCryptoFetcher c.compress call.1 call.2 with
      | .ok body => (bodyFrame c.compress body).bytes
      | .error _ => [] := by
  rw [frameOf, encodeCall, run_encode]
  cases encodeBody payload c.rsaCryptoFetcher c.compress call.1 call.2 <;> rfl

/-- A call whose body is made writes its frame. -/
theorem encodes_frameOf {call : Call libs P}
    (h : (encodeBody payload c.rsaCryptoFetcher c.compress call.1 call.2).isOk = true) :
    Encodes payload c call.2 (frameOf payload c call) := by
  refine ⟨call.1, ?_⟩
  rw [frameOf_eq, run_encode]
  cases hbody : encodeBody payload c.rsaCryptoFetcher c.compress call.1 call.2 with
  | error f =>
    rw [hbody] at h
    cases h
  | ok body => rfl

/-- The instance's codec with compression, for the user `user1`. -/
def referenceCodec : ConnectionCodec Reference.libs :=
  ConnectionCodec.new true (Reference.fetcher "user1")

/-- Its frame of an agent message. -/
def referenceFrame (m : PpaassAgentMessage) : Bytes :=
  frameOf Reference.libs.agentPayload referenceCodec ((), m)

theorem encodes_referenceFrame {m : PpaassAgentMessage}
    (h : (encodeBody Reference.libs.agentPayload (Reference.fetcher "user1") true () m).isOk =
      true) :
    Encodes Reference.libs.agentPayload referenceCodec m (referenceFrame m) :=
  @encodes_frameOf _ _ _ referenceCodec ((), m) h

theorem travels_agentData (messageId : String) (encryption : PpaassMessagePayloadEncryption)
    (data : Bytes) : Travels Reference.libs.agentPayload (Reference.fetcher "user1")
      (Reference.fetcher "user1")
      (generateAgentTcpDataMessage messageId "user1" encryption data) :=
  ⟨Reference.pairedAt "user1", Reference.agentData_roundTripsAt data⟩

/-- Calls that all succeed write their frames one after another. -/
theorem bufferAfter_sendable {calls : List (Call libs P)} (dst : Bytes)
    (h : ∀ call ∈ calls, Sendable payload c.rsaCryptoFetcher c.compress call.1 call.2) :
    bufferAfter payload c dst calls = dst ++ calls.flatMap (frameOf payload c) := by
  induction calls generalizing dst with
  | nil => exact (List.append_nil dst).symm
  | cons call calls ih =>
    obtain ⟨body, hbody⟩ := h call List.mem_cons_self
    rw [bufferAfter_cons, encodeBody_eq_ok.2 hbody, ih _ fun call' h' =>
      h call' (List.mem_cons_of_mem call h'), List.flatMap_cons, frameOf_eq,
      encodeBody_eq_ok.2 hbody, List.append_assoc]

theorem stray_ne_nil (compress : Bool) : stray compress ≠ [] := by simp [stray, PPAASS_FLAG]

/-- At every point of a sequence of calls the buffer holds its first contents and the frames of the
calls that succeeded. -/
def HoldsFrames (payload : Serde P) (c : ConnectionCodec libs) (dst : Bytes)
    (calls : List (Call libs P)) : Prop :=
  ∀ k, bufferAfter payload c dst (calls.take k) =
    dst ++ (calls.take k).flatMap (frameOf payload c)

theorem holdsFrames_iff (dst : Bytes) (calls : List (Call libs P)) :
    HoldsFrames payload c dst calls ↔
      ∀ call ∈ calls, Sendable payload c.rsaCryptoFetcher c.compress call.1 call.2 := by
  constructor
  · intro h
    induction calls generalizing dst with
    | nil => simp
    | cons call calls ih =>
      have h1 := h 1
      rw [List.take_succ_cons, List.take_zero, bufferAfter_cons, List.flatMap_cons,
        List.flatMap_nil, List.append_nil, frameOf_eq] at h1
      cases hbody : encodeBody payload c.rsaCryptoFetcher c.compress call.1 call.2 with
      | error f =>
        rw [hbody] at h1
        exact absurd (List.append_cancel_left h1) (stray_ne_nil _)
      | ok body =>
        intro call' hmem
        cases hmem with
        | head => exact ⟨body, encodeBody_eq_ok.1 hbody⟩
        | tail _ hmem =>
          refine ih (dst ++ (bodyFrame c.compress body).bytes) (fun k => ?_) call' hmem
          have hk := h (k + 1)
          rwa [List.take_succ_cons, bufferAfter_cons, List.flatMap_cons, frameOf_eq, hbody,
            ← List.append_assoc] at hk
  · exact fun h k => bufferAfter_sendable dst fun call hmem => h call (List.mem_of_mem_take hmem)

end

/-- **The write buffer holds whole frames only, exactly when no call fails**, for both codecs. -/
theorem buffer_frames_iff (libs : Libs) (c : ConnectionCodec libs) (dst : Bytes) :
    (∀ calls, HoldsFrames libs.agentPayload c dst calls ↔ ∀ call ∈ calls,
      Sendable libs.agentPayload c.rsaCryptoFetcher c.compress call.1 call.2) ∧
    (∀ calls, HoldsFrames libs.proxyPayload c dst calls ↔ ∀ call ∈ calls,
      Sendable libs.proxyPayload c.rsaCryptoFetcher c.compress call.1 call.2) :=
  ⟨holdsFrames_iff dst, holdsFrames_iff dst⟩

/-- A message of an unknown user leaves the flag and the compression byte in the buffer. -/
theorem unknown_user_leaves_bytes :
    let c := ConnectionCodec.new true (Reference.fetcher "user1")
    let m := generateAgentTcpDataMessage "m1" "nobody" .plain [1, 2, 3]
    bufferAfter Reference.libs.agentPayload c [] [((), m)] = PPAASS_FLAG ++ [1] ∧
      ¬ HoldsFrames Reference.libs.agentPayload c [] [((), m)] := by
  have hbuf : bufferAfter Reference.libs.agentPayload
      (ConnectionCodec.new true (Reference.fetcher "user1")) []
      [((), generateAgentTcpDataMessage "m1" "nobody" .plain [1, 2, 3])] = PPAASS_FLAG ++ [1] := rfl
  refine ⟨hbuf, fun h => ?_⟩
  have h1 := h 1
  rw [List.take_of_length_le (by simp), hbuf] at h1
  have hframe : frameOf Reference.libs.agentPayload
      (ConnectionCodec.new true (Reference.fetcher "user1"))
      ((), generateAgentTcpDataMessage "m1" "nobody" .plain [1, 2, 3]) = [] := rfl
  rw [List.flatMap_cons, hframe] at h1
  exact absurd h1 (by decide)

end Ppaass.ConnectionCodec
