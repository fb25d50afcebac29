import Ppaass.Common.Proof.Encode

/-!
# Streams of frames

What a codec makes of a stream of bytes, however the stream is cut into reads.

* `segmentation_independent`: two ways of cutting the same bytes give the same messages, error,
  status and leftover; each message takes one frame, and the number of calls is bounded.
* `truncation_detected_iff`: a stream that ends inside a frame ends in an error, except where it is
  cut exactly between header and body: there the header is gone from the buffer and the end of the
  stream looks clean.
* `bad_frame_skipped_iff`: a frame that cannot be decoded is skipped only where all stages before
  the payload's deserialization succeed; otherwise the status stays `Data`.
-/

namespace Ppaass.ConnectionCodec

open Wire Framed

variable {libs : Libs} {P Q : Type}

/-! ## Frame boundaries -/

/-- What is left of a stream behind its last whole frame, from the codec's status and buffer. -/
def Tail (c : ConnectionCodec libs) (buf tail : Bytes) : Prop :=
  match c.status with
  | .head => tail = buf
  | .data compressed n => ∃ flag, compressed = (flag == 1) ∧ tail = header flag n ++ buf

/-- The bytes read so far begin with one frame for each message, and the codec stands behind
them. -/
structure AtFrames (bytes : Bytes)
    (conn : Conn (ConnectionCodec libs) CommonError (PpaassMessage P)) : Prop where
  stopped : conn.Stopped
  frames : ∃ frames : List Frame, frames.length = conn.items.length ∧
    ∃ tail, bytes = frames.flatMap Frame.bytes ++ tail ∧
      (conn.fault = none → Tail conn.codec conn.readBuf tail)

section
variable (payload : Serde P) {c : ConnectionCodec libs} {buf : Bytes}

theorem tail_of_none {c' : ConnectionCodec libs} {buf' tail : Bytes}
    (h : (decode payload).run (c, buf) = .ok none (c', buf')) (ht : Tail c buf tail) :
    Tail c' buf' tail := by
  cases hs : c.status with
  | data compressed n =>
    obtain ⟨-, hrun⟩ | ⟨body, rest, rfl, -, hrun⟩ := decode_data_cases payload hs buf
    · rw [hrun] at h
      cases h
      exact ht
    · rw [hrun] at h
      exact absurd (afterBody_ok payload h).1 (by simp)
  | head =>
    obtain ⟨-, hrun⟩ | ⟨f, s, hrun⟩ | ⟨flag, n, rest, rfl, hrun⟩ :=
      decode_head_cases payload hs buf
    · rw [hrun] at h
      cases h
      exact ht
    · rw [hrun] at h
      cases h
    · simp only [Tail, hs] at ht
      rw [hrun] at h
      obtain ⟨-, hrun⟩ | ⟨body, rest, rfl, -, hrun⟩ := decode_data_cases payload
        (c := { c with status := .data (flag == 1) n }) rfl rest
      · rw [hrun] at h
        cases h
        exact ⟨flag, rfl, ht⟩
      · rw [hrun] at h
        exact absurd (afterBody_ok payload h).1 (by simp)

/-- A call that returns a message moves the boundary behind one more frame. -/
theorem tail_of_some {c' : ConnectionCodec libs} {buf' tail : Bytes} {m : PpaassMessage P}
    (h : (decode payload).run (c, buf) = .ok (some m) (c', buf')) (ht : Tail c buf tail) :
    c'.status = .head ∧ ∃ f : Frame, tail = f.bytes ++ buf' := by
  cases hs : c.status with
  | data compressed n =>
    obtain ⟨rfl, body, hbody, rfl⟩ := decode_data_some payload hs h
    simp only [Tail, hs] at ht
    obtain ⟨flag, -, rfl⟩ := ht
    exact ⟨rfl, ⟨flag, n, body, hbody⟩, (List.append_assoc _ _ _).symm⟩
  | head =>
    simp only [Tail, hs] at ht
    subst ht
    obtain ⟨rfl, f, hf⟩ := decode_head_some payload hs h
    exact ⟨hs, f, hf⟩

/-- One action keeps the boundary. -/
theorem atFrames_act {ω : Type} {encode : ω → CodecM (ConnectionCodec libs) CommonError Unit}
    (he : Conn.Neutral encode)
    {conn conn' : Conn (ConnectionCodec libs) CommonError (PpaassMessage P)} {a : Act ω}
    {bytes : Bytes} (h : Conn.act (decoder payload) encode conn a = some conn')
    (hI : AtFrames bytes conn) : AtFrames (bytes ++ a.bytes) conn' := by
  obtain ⟨hst, frames, hlen, tail, rfl, ht⟩ := hI
  cases a with
  | read chunk =>
    simp only [Conn.act] at h
    split at h
    · rename_i hr
      cases h
      refine ⟨fun hf => absurd hr.2 hf, frames, hlen, tail ++ chunk, by simp [Act.bytes],
        fun hf => ?_⟩
      have ht := ht hf
      cases hs : conn.codec.status with
      | head =>
        simp only [Tail, hs] at ht ⊢
        rw [ht]
      | data compressed n =>
        simp only [Tail, hs] at ht ⊢
        obtain ⟨flag, hflag, rfl⟩ := ht
        exact ⟨flag, hflag, List.append_assoc _ _ _⟩
    · cases h
  | poll =>
    simp only [Conn.act] at h
    split at h
    · rename_i hr
      have hf : conn.fault = none := by
        by_contra hf
        exact absurd (hr.symm.trans (hst hf)) (by decide)
      rw [Act.bytes, List.append_nil]
      rcases hdec : (decoder payload).decode.run (conn.codec, conn.readBuf) with
        ⟨_ | m, c', buf'⟩ | ⟨f, c', buf'⟩ <;> rw [hdec] at h <;> cases h
      · exact ⟨fun hf' => absurd hf hf', frames, hlen, tail, rfl,
          fun _ => tail_of_none payload hdec (ht hf)⟩
      · obtain ⟨hs', f, rfl⟩ := tail_of_some payload hdec (ht hf)
        refine ⟨fun hf' => absurd hf hf', frames ++ [f], by simp [hlen], buf', by simp, fun _ => ?_⟩
        simp only [Tail, hs']
      · exact ⟨fun _ => rfl, frames, hlen, tail, rfl, fun hf' => by simp at hf'⟩
    · cases h
  | write w =>
    have hn := he w conn.codec conn.writeBuf
    simp only [Conn.act] at h
    rw [Act.bytes, List.append_nil]
    rcases hw : (encode w).run (conn.codec, conn.writeBuf) with ⟨_, c', buf'⟩ | ⟨f, c', buf'⟩ <;>
      rw [hw] at h hn <;> cases h <;> subst hn <;> exact ⟨hst, frames, hlen, tail, rfl, ht⟩

/-- Every run from a fresh codec stands behind whole frames. -/
theorem atFrames_run {ω : Type} {encode : ω → CodecM (ConnectionCodec libs) CommonError Unit}
    (he : Conn.Neutral encode) (hs : c.status = .head)
    {conn : Conn (ConnectionCodec libs) CommonError (PpaassMessage P)} {acts : List (Act ω)}
    (h : Conn.run (decoder payload) encode (Conn.new c) acts = some conn) :
    AtFrames (readBytes acts) conn := by
  refine Conn.run_induction (I := fun acts conn => AtFrames (readBytes acts) conn) ?_ ?_ h
  · refine ⟨fun hf => absurd rfl hf, [], rfl, [], rfl, fun _ => ?_⟩
    simp only [Conn.new, Tail, hs]
  · intro acts conn a conn' hI ha
    rw [readBytes_append, readBytes_cons, readBytes_nil, List.append_nil]
    exact atFrames_act payload he ha hI

theorem flatMap_frames_length (frames : List Frame) :
    HEADER_LENGTH * frames.length ≤ (frames.flatMap Frame.bytes).length := by
  induction frames with
  | nil => simp
  | cons f frames ih =>
    have := f.bytes_length
    rw [List.flatMap_cons, List.length_append, List.length_cons, Nat.mul_succ]
    omega

/-! ## Any bytes, any segmentation -/

/-- Two ways of cutting the same bytes into reads are read alike, and end alike. -/
def CutIndependent (c : ConnectionCodec libs) : Prop :=
  ∀ chunks chunks' : List Bytes, chunks.flatten = chunks'.flatten →
    let r := (decoder payload).readLoop c [] chunks
    let r' := (decoder payload).readLoop c [] chunks'
    r.items = r'.items ∧ r.fault = r'.fault ∧ r.codec.status = r'.codec.status ∧
      r.leftover = r'.leftover ∧
      (decoder payload).stream c [] chunks = (decoder payload).stream c [] chunks'

/-- A call of `decode` that returns a message stands behind exactly one frame more than the calls
before it, of `HEADER_LENGTH` bytes and its body. -/
def TakesFrames (outbound : Serde Q) (c : ConnectionCodec libs) : Prop :=
  ∀ acts conn, Conn.run (decoder payload) (encodeCall outbound) (Conn.new c) acts = some conn →
    ∀ conn', Conn.act (decoder payload) (encodeCall outbound) conn .poll = some conn' →
      conn'.items ≠ conn.items → ∃ (frames : List Frame) (f : Frame),
        frames.length = conn.items.length ∧ conn'.items.length = conn.items.length + 1 ∧
        readBytes acts = frames.flatMap Frame.bytes ++ f.bytes ++ conn'.readBuf ∧
        f.bytes.length = HEADER_LENGTH + f.bodyLength.toNat

/-- The number of calls of `decode` is bounded by the reads and the bytes they read. -/
def Terminates (outbound : Serde Q) (c : ConnectionCodec libs) : Prop :=
  ∀ acts conn, Conn.run (decoder payload) (encodeCall outbound) (Conn.new c) acts = some conn →
    Conn.polls acts ≤ Conn.reads acts + (readBytes acts).length / HEADER_LENGTH

theorem cutIndependent (hs : c.status = .head) : CutIndependent payload c := by
  intro chunks chunks' h
  have hrest : (decoder payload).AtRest c [] := decode_head_short payload hs (by decide)
  obtain ⟨h1, h2, h3, h4⟩ := (incremental payload).readLoop_eq_drain chunks hrest
  obtain ⟨h1', h2', h3', h4'⟩ := (incremental payload).readLoop_eq_drain chunks' hrest
  rw [← h] at h1' h2' h3' h4'
  refine ⟨h1.trans h1'.symm, h2.trans h2'.symm, ?_, h4.trans h4'.symm, ?_⟩
  · rw [h3, h3']
  · rw [(incremental payload).stream_eq hrest, (incremental payload).stream_eq hrest, h]

theorem takesFrames (outbound : Serde Q) (hs : c.status = .head) :
    TakesFrames payload outbound c := by
  intro acts conn hrun conn' hpoll hitems
  obtain ⟨hst, frames, hlen, tail, hbytes, ht⟩ :=
    atFrames_run payload (encode_neutral outbound) hs hrun
  simp only [Conn.act] at hpoll
  split at hpoll
  · rename_i hr
    have hf : conn.fault = none := by
      by_contra hf
      exact absurd (hr.symm.trans (hst hf)) (by decide)
    rcases hdec : (decoder payload).decode.run (conn.codec, conn.readBuf) with
      ⟨_ | m, c', buf'⟩ | ⟨f, c', buf'⟩ <;> rw [hdec] at hpoll <;> cases hpoll
    · exact absurd rfl hitems
    · obtain ⟨-, f, rfl⟩ := tail_of_some payload hdec (ht hf)
      refine ⟨frames, f, hlen, by simp, ?_, f.bytes_length⟩
      rw [hbytes, List.append_assoc]
    · exact absurd rfl hitems
  · cases hpoll

theorem terminates (outbound : Serde Q) (hs : c.status = .head) :
    Terminates payload outbound c := by
  intro acts conn hrun
  obtain ⟨-, frames, hlen, tail, hbytes, -⟩ :=
    atFrames_run payload (encode_neutral outbound) hs hrun
  have hpolls := Conn.run_polls hrun
  have hframes := flatMap_frames_length frames
  have hitems : conn.items.length ≤ (readBytes acts).length / HEADER_LENGTH := by
    rw [Nat.le_div_iff_mul_le (by decide), hbytes, List.length_append, ← hlen, Nat.mul_comm]
    omega
  omega

end

/-- **Segmentation independence**, for both decoders, on arbitrary bytes and with arbitrary
libraries. `PpaassAgentConnectionCodec` reads agent messages and writes proxy messages,
`PpaassProxyConnectionCodec` the other way round. -/
theorem segmentation_independent (libs : Libs) (compress : Bool)
    (fetcher : RsaCryptoFetcher libs) :
    let c := ConnectionCodec.new compress fetcher
    (CutIndependent libs.agentPayload c ∧ TakesFrames libs.agentPayload libs.proxyPayload c ∧
      Terminates libs.agentPayload libs.proxyPayload c) ∧
    (CutIndependent libs.proxyPayload c ∧ TakesFrames libs.proxyPayload libs.agentPayload c ∧
      Terminates libs.proxyPayload libs.agentPayload c) :=
  ⟨⟨cutIndependent _ rfl, takesFrames _ _ rfl, terminates _ _ rfl⟩,
    ⟨cutIndependent _ rfl, takesFrames _ _ rfl, terminates _ _ rfl⟩⟩

/-! ## Valid frames -/

section
variable (payload : Serde P) {c : ConnectionCodec libs}

/-- Frames that are decoded one by one are drained one after another. -/
theorem drain_frames {frames : List Bytes} {ms : List (PpaassMessage P)}
    (h : List.Forall₂ (Decodes payload c) frames ms) (tail : Bytes) :
    (decoder payload).drain c (frames.flatten ++ tail) =
      { (decoder payload).drain c tail with
        items := ms ++ ((decoder payload).drain c tail).items } := by
  induction h with
  | nil => simp
  | cons hframe _ ih =>
    rw [List.flatten_cons, List.append_assoc,
      Decoder.drain_some ((incremental payload).more_some hframe _), List.nil_append, ih]
    rfl

/-! ## Truncation -/

/-- Where a drain of the front of one more frame stops. -/
theorem drain_cut (hs : c.status = .head) (f : Frame) {cut rest : Bytes}
    (hcut : cut ++ rest = f.bytes) (hrest : rest ≠ []) :
    (decoder payload).drain c cut =
      if cut.length < HEADER_LENGTH then ⟨[], none, c, cut⟩
      else ⟨[], none, { c with status := .data (f.flag == 1) f.bodyLength },
        cut.drop HEADER_LENGTH⟩ := by
  split
  · rename_i hlen
    exact Decoder.drain_none (decode_head_short payload hs hlen)
  · rename_i hlen
    have hle := Nat.not_lt.1 hlen
    have htake : cut.take HEADER_LENGTH = header f.flag f.bodyLength := by
      rw [← List.take_append_of_le_length hle, hcut, Frame.bytes,
        List.take_left' (header_length _ _)]
    have hcut' : cut = header f.flag f.bodyLength ++ cut.drop HEADER_LENGTH := by
      conv => lhs; rw [← List.take_append_drop HEADER_LENGTH cut, htake]
    have hlength := congrArg List.length hcut
    have hpos := List.length_pos_iff.2 hrest
    rw [List.length_append, f.bytes_length] at hlength
    have hshort : (cut.drop HEADER_LENGTH).length < f.bodyLength.toNat := by
      rw [List.length_drop]
      omega
    have hdec := decode_header payload hs f.flag f.bodyLength (cut.drop HEADER_LENGTH)
    rw [← hcut', decode_data_short payload rfl hshort] at hdec
    exact Decoder.drain_none hdec

/-- A stream that ends inside a frame: the reads hold the frames of `ms` and then `cut`, a proper
non-empty front part of one more valid frame with a body. -/
def TruncatedIn (c : ConnectionCodec libs) (ms : List (PpaassMessage P)) (cut : Bytes)
    (chunks : List Bytes) : Prop :=
  ∃ frames rest m, List.Forall₂ (Decodes payload c) frames ms ∧
    Decodes payload c (cut ++ rest) m ∧ HEADER_LENGTH < (cut ++ rest).length ∧
    cut ≠ [] ∧ rest ≠ [] ∧ chunks.flatten = frames.flatten ++ cut

/-- The stream yields the messages and then an error. -/
def Detected (c : ConnectionCodec libs) (ms : List (PpaassMessage P)) (chunks : List Bytes) :
    Prop :=
  ((decoder payload).stream c [] chunks).1 = ms ∧
    ((decoder payload).stream c [] chunks).2 ≠ .clean

theorem detected_iff (hs : c.status = .head) {ms : List (PpaassMessage P)} {cut : Bytes}
    {chunks : List Bytes} (h : TruncatedIn payload c ms cut chunks) :
    Detected payload c ms chunks ↔ cut.length ≠ HEADER_LENGTH := by
  obtain ⟨frames, rest, m, hframes, hframe, hbody, hcut, hrest, hchunks⟩ := h
  obtain ⟨-, f, hf⟩ := decode_head_some payload hs hframe
  rw [List.append_nil] at hf
  have hat : (decoder payload).AtRest c [] := decode_head_short payload hs (by decide)
  unfold Detected
  rw [(incremental payload).stream_eq hat, List.nil_append, hchunks, Decoder.finish,
    drain_frames payload hframes, drain_cut payload hs f hf hrest]
  split
  · rename_i hlen
    simp only [List.append_nil, true_and]
    exact ⟨fun _ => by omega, fun _ => by simp⟩
  · rename_i hlen
    simp only [List.append_nil, true_and, List.drop_eq_nil_iff]
    split
    · rename_i hle
      exact ⟨fun h => absurd rfl h, fun h => absurd (by omega) h⟩
    · rename_i hle
      exact ⟨fun _ => by omega, fun _ => by simp⟩

end

/-- **Truncation is detected, except right behind a header**, by both decoders and for every
chunking. -/
theorem truncation_detected_iff (libs : Libs) (compress : Bool) (fetcher : RsaCryptoFetcher libs)
    (cut : Bytes) (chunks : List Bytes) :
    let c := ConnectionCodec.new compress fetcher
    (∀ ms, TruncatedIn libs.agentPayload c ms cut chunks →
      (Detected libs.agentPayload c ms chunks ↔ cut.length ≠ HEADER_LENGTH)) ∧
    (∀ ms, TruncatedIn libs.proxyPayload c ms cut chunks →
      (Detected libs.proxyPayload c ms chunks ↔ cut.length ≠ HEADER_LENGTH)) :=
  ⟨fun _ h => detected_iff _ rfl h, fun _ h => detected_iff _ rfl h⟩

/-- A codec with the same keys decodes the frame of `hello`. -/
theorem exists_decodes_hello : ∃ m, Decodes Reference.libs.agentPayload referenceCodec
    (referenceFrame Reference.hello) m := by
  have henc : Encodes Reference.libs.agentPayload referenceCodec Reference.hello
      (referenceFrame Reference.hello) := encodes_referenceFrame (by decide +kernel)
  obtain ⟨m, hm, -⟩ := decodes_of_encodes Reference.gzipRoundTrips Reference.envelopeRoundTrips
    Reference.aesPermutes (travels_agentData "m1" .plain [104, 105]) henc true
  exact ⟨m, hm⟩

/-- The frame of `hello` cut behind `n` bytes. -/
theorem truncatedIn_hello {n : Nat} (hn : 0 < n)
    (hlen : n < (referenceFrame Reference.hello).length) :
    TruncatedIn Reference.libs.agentPayload referenceCodec []
      ((referenceFrame Reference.hello).take n) [(referenceFrame Reference.hello).take n] := by
  obtain ⟨m, hm⟩ := exists_decodes_hello
  have hframe : HEADER_LENGTH < (referenceFrame Reference.hello).length := by decide +kernel
  refine ⟨[], (referenceFrame Reference.hello).drop n, m, .nil, ?_, ?_, ?_, ?_, by simp⟩
  · rwa [List.take_append_drop]
  · rwa [List.take_append_drop]
  · intro h
    have := congrArg List.length h
    rw [List.length_take, List.length_nil] at this
    omega
  · simpa using hlen

/-- A cut inside the header is detected. -/
theorem truncation_detected_hello :
    Detected Reference.libs.agentPayload referenceCodec []
      [(referenceFrame Reference.hello).take 10] :=
  ((truncation_detected_iff Reference.libs true (Reference.fetcher "user1")
    ((referenceFrame Reference.hello).take 10) [(referenceFrame Reference.hello).take 10]).1 []
    (truncatedIn_hello (by decide) (by decide +kernel))).2 (by decide +kernel)

/-- A cut right behind the header is not. -/
theorem header_cut_not_detected :
    let cut := (referenceFrame Reference.hello).take HEADER_LENGTH
    TruncatedIn Reference.libs.agentPayload referenceCodec [] cut [cut] ∧
      ¬ Detected Reference.libs.agentPayload referenceCodec [] [cut] := by
  have hcut : TruncatedIn Reference.libs.agentPayload referenceCodec []
      ((referenceFrame Reference.hello).take HEADER_LENGTH)
      [(referenceFrame Reference.hello).take HEADER_LENGTH] :=
    truncatedIn_hello (by decide) (by decide +kernel)
  exact ⟨hcut, fun h => (detected_iff _ rfl hcut).1 h (by decide +kernel)⟩

/-! ## Bad frames -/

section
variable (payload : Serde P) {c : ConnectionCodec libs}

/-- The frame is refused, it and nothing else is consumed, and the codec is as new. -/
def Skipped (c : ConnectionCodec libs) (f : Frame) (rest : Bytes) : Prop :=
  ∃ e, (decode payload).run (c, f.bytes ++ rest) = .error (.err e) (c, rest)

/-- `decode` does not return `Ok`. -/
def Fails (c : ConnectionCodec libs) (f : Frame) (rest : Bytes) : Prop :=
  ∀ r st, (decode payload).run (c, f.bytes ++ rest) ≠ .ok r st

theorem skipped_iff (hs : c.status = .head) {f : Frame} {rest : Bytes}
    (h : Fails payload c f rest) :
    Skipped payload c f rest ↔
      ∃ message payloadBytes,
        Opens c.rsaCryptoFetcher (f.flag == 1) f.body message payloadBytes := by
  unfold Fails at h
  simp only [← decodeBody_eq_ok]
  unfold Skipped
  rw [decode_frame payload hs f rest, afterBody] at *
  cases hbody : decodeBody c.rsaCryptoFetcher (f.flag == 1) f.body with
  | error e =>
    simp only [reduceCtorEq, exists_false, iff_false]
    rintro ⟨e', he'⟩
    have hc := congrArg ConnectionCodec.status (congrArg Prod.fst (EStateM.Result.error.inj he').2)
    rw [hs] at hc
    cases hc
  | ok r =>
    simp only [hbody] at h
    have hc : { c with status := .head } = c := by rw [← hs]
    cases hp : payload.tryFromBytes r.2 with
    | error e => exact ⟨fun _ => ⟨_, _, rfl⟩, fun _ => ⟨e, by simp only [hp, hc]⟩⟩
    | ok p =>
      simp only [hp] at h
      exact absurd rfl (h _ _)

end

/-- **A bad frame is skipped exactly when only its payload is bad**: gunzip, the envelope's
deserialization, the user token, RSA and AES all succeed on it. -/
theorem bad_frame_skipped_iff (libs : Libs) (compress : Bool) (fetcher : RsaCryptoFetcher libs)
    (f : Frame) (rest : Bytes) :
    let c := ConnectionCodec.new compress fetcher
    (Fails libs.agentPayload c f rest → (Skipped libs.agentPayload c f rest ↔
      ∃ message payloadBytes, Opens fetcher (f.flag == 1) f.body message payloadBytes)) ∧
    (Fails libs.proxyPayload c f rest → (Skipped libs.proxyPayload c f rest ↔
      ∃ message payloadBytes, Opens fetcher (f.flag == 1) f.body message payloadBytes)) :=
  ⟨fun h => skipped_iff _ rfl h, fun h => skipped_iff _ rfl h⟩

/-- The frame of an envelope whose payload is empty. -/
def emptyPayloadFrame : Frame :=
  let body := Gzip.gzip (Bincode.codecMessage.put ⟨"m1", "user1", .plain, []⟩)
  ⟨1, UInt64.ofNat body.length, body, by decide +kernel⟩

theorem bad_frame_skipped_emptyPayload :
    Skipped Reference.libs.agentPayload referenceCodec emptyPayloadFrame [] := by
  have hbody : decodeBody (Reference.fetcher "user1") (emptyPayloadFrame.flag == 1)
      emptyPayloadFrame.body = .ok (⟨"m1", "user1", .plain, []⟩, []) := by decide +kernel
  refine ((bad_frame_skipped_iff Reference.libs true (Reference.fetcher "user1")
    emptyPayloadFrame []).1 ?_).2 ⟨_, _, decodeBody_eq_ok.1 hbody⟩
  intro r st h
  have hfetcher : (ConnectionCodec.new true (Reference.fetcher "user1")).rsaCryptoFetcher =
    Reference.fetcher "user1" := rfl
  rw [decode_frame _ rfl, afterBody, hfetcher, hbody] at h
  cases h

/-- Behind a frame with an empty body, which is no gzip, the good frame of `hello` is not decoded:
the codec takes the empty body again and again. -/
theorem empty_body_blocks :
    let c := referenceCodec
    let bad : Frame := ⟨1, 0, [], rfl⟩
    let good := referenceFrame Reference.hello
    let e := Fault.err (CommonError.decoder (.io "invalid gzip header"))
    (decode Reference.libs.agentPayload).run (c, bad.bytes ++ good) =
        .error e ({ c with status := .data true 0 }, good) ∧
      (decode Reference.libs.agentPayload).run ({ c with status := .data true 0 }, good) =
        .error e ({ c with status := .data true 0 }, good) ∧
      ¬ Skipped Reference.libs.agentPayload c bad good := by
  intro c bad good e
  have hbad : (decode Reference.libs.agentPayload).run (c, bad.bytes ++ good) =
      .error e ({ c with status := .data true 0 }, good) := decode_frame _ rfl bad good
  have hagain : (decode Reference.libs.agentPayload).run
      ({ c with status := .data true 0 }, [] ++ good) =
      afterBody Reference.libs.agentPayload { c with status := .data true 0 } true 0 [] good :=
    decode_body _ rfl rfl
  refine ⟨hbad, hagain, ?_⟩
  rintro ⟨e', he'⟩
  rw [hbad] at he'
  have hstatus := congrArg ConnectionCodec.status
    (congrArg Prod.fst (EStateM.Result.error.inj he').2)
  cases hstatus

end Ppaass.ConnectionCodec
