import Ppaass.Common.Proof.Stream

/-!
# Round trips

* `session_round_trip`: with compression on, any number of encoded messages, cut into reads in any
  way and with calls of `encode` on the receiver's codec between its reads, arrive in order.
* `self_describing_iff`: a single frame tells its reader whether it is compressed exactly when the
  sender compresses; without compression the flag says it is compressed all the same.
* `encryption_restored_iff`: a decoded message has the encryption it was sent under only without
  AES: under AES it has the encrypted token in place of the token.
-/

namespace Ppaass.ConnectionCodec

open Wire Framed

variable {libs : Libs} {P Q : Type}

/-! ## Sessions -/

/-- The reader of `frames` obtains the contents of `ms`, no error, the status `Head` and an empty
buffer: however the frames are cut into reads, and in every run that comes to rest behind them,
whatever calls of `encode` it makes between; and every run so far goes on to one that does. -/
def ReceivesAll (inbound : Serde P) (outbound : Serde Q) (c : ConnectionCodec libs)
    (ms : List (PpaassMessage P)) (frames : List Bytes) : Prop :=
  (∀ chunks : List Bytes, chunks.flatten = frames.flatten →
    let r := (decoder inbound).readLoop c [] chunks
    r.items.map PpaassMessage.content = ms.map PpaassMessage.content ∧ r.fault = none ∧
      r.codec.status = .head ∧ r.leftover = []) ∧
  (∀ acts conn, Conn.run (decoder inbound) (encodeCall outbound) (Conn.new c) acts = some conn →
    readBytes acts = frames.flatten → conn.readable = false →
    conn.items.map PpaassMessage.content = ms.map PpaassMessage.content ∧ conn.fault = none ∧
      conn.codec.status = .head ∧ conn.readBuf = []) ∧
  (∀ acts conn, Conn.run (decoder inbound) (encodeCall outbound) (Conn.new c) acts = some conn →
    ∀ more, readBytes acts ++ more = frames.flatten → ∃ acts' conn',
      Conn.run (decoder inbound) (encodeCall outbound) (Conn.new c) (acts ++ acts') = some conn' ∧
        readBytes acts' = more ∧ conn'.readable = false)

/-- Frames that decode one by one are all received. -/
theorem receivesAll {inbound : Serde P} (outbound : Serde Q) {c : ConnectionCodec libs}
    (hs : c.status = .head) {ms ms' : List (PpaassMessage P)} {frames : List Bytes}
    (h : List.Forall₂ (Decodes inbound c) frames ms')
    (hc : ms'.map PpaassMessage.content = ms.map PpaassMessage.content) :
    ReceivesAll inbound outbound c ms frames := by
  have hrest : (decoder inbound).AtRest c [] := decode_head_short inbound hs (by decide)
  have hdrain : (decoder inbound).drain c frames.flatten = ⟨ms', none, c, []⟩ := by
    have := drain_frames inbound h []
    rwa [List.append_nil, hrest.drain, List.append_nil] at this
  refine ⟨fun chunks hchunks => ?_, fun acts conn hrun hbytes hend => ?_,
    fun acts conn hrun more hbytes => ?_⟩
  · obtain ⟨h1, h2, h3, h4⟩ := (incremental inbound).readLoop_eq_drain chunks hrest
    rw [List.nil_append, hchunks, hdrain] at h1 h2 h3 h4
    exact ⟨by rw [h1, hc], h2, by rw [h3, hs], h4⟩
  · have heq := Conn.run_new_eq (incremental inbound) (encode_neutral outbound) hrest hrun hend
    rw [hbytes, hdrain] at heq
    obtain ⟨h1, h2, h3, h4⟩ := Yield.mk.inj heq
    exact ⟨by rw [h1, hc], h2, by rw [h3, hs], h4⟩
  · exact Conn.exists_complete (incremental inbound) (encode_neutral outbound) hrest hrun
      (by rw [hbytes, hdrain])

/-- The frames of a session: message by message what the sender's `encode` wrote. -/
def Session (payload : Serde P) (sender receiver : RsaCryptoFetcher libs)
    (ms : List (PpaassMessage P)) (frames : List Bytes) : Prop :=
  List.Forall₂ (fun m frame => Travels payload sender receiver m ∧
    Encodes payload (ConnectionCodec.new true sender) m frame) ms frames

theorem Session.decodes {payload : Serde P} {sender receiver : RsaCryptoFetcher libs}
    (hgzip : libs.GzipRoundTrips) (henv : libs.EnvelopeRoundTrips) (haes : libs.AesPermutes)
    {ms : List (PpaassMessage P)} {frames : List Bytes}
    (h : Session payload sender receiver ms frames) :
    ∃ ms', List.Forall₂ (Decodes payload (ConnectionCodec.new true receiver)) frames ms' ∧
      ms'.map PpaassMessage.content = ms.map PpaassMessage.content := by
  induction h with
  | nil => exact ⟨[], .nil, rfl⟩
  | cons hm _ ih =>
    obtain ⟨m', hdec, hcontent⟩ := decodes_of_encodes hgzip henv haes hm.1 hm.2 true
    obtain ⟨ms', hdecs, hcontents⟩ := ih
    exact ⟨m' :: ms', .cons hdec hdecs, by rw [List.map_cons, List.map_cons, hcontent, hcontents]⟩

/-- **Session round trip**, in both directions, with compression on. -/
theorem session_round_trip (libs : Libs) (hgzip : libs.GzipRoundTrips)
    (henv : libs.EnvelopeRoundTrips) (haes : libs.AesPermutes)
    (sender receiver : RsaCryptoFetcher libs) :
    (∀ ms frames, Session libs.agentPayload sender receiver ms frames →
      ReceivesAll libs.agentPayload libs.proxyPayload (ConnectionCodec.new true receiver)
        ms frames) ∧
    (∀ ms frames, Session libs.proxyPayload sender receiver ms frames →
      ReceivesAll libs.proxyPayload libs.agentPayload (ConnectionCodec.new true receiver)
        ms frames) := by
  refine ⟨fun ms frames h => ?_, fun ms frames h => ?_⟩
  all_goals
    obtain ⟨ms', hdecs, hcontents⟩ := h.decodes hgzip henv haes
    exact receivesAll _ rfl hdecs hcontents

/-- Three messages, one of them under AES, read one byte at a time. -/
theorem session_round_trip_hello :
    let secret := generateAgentTcpDataMessage "m3" "user1" (.aes Reference.aesToken) [104, 105]
    let frames := [referenceFrame Reference.hello, referenceFrame Reference.bye,
      referenceFrame secret]
    let r := (decoder Reference.libs.agentPayload).readLoop referenceCodec []
      (frames.flatten.map fun b => [b])
    r.items.map PpaassMessage.content =
        [("m1", "user1", .tcp (.data [104, 105])), ("m2", "user1", .tcp (.data [])),
          ("m3", "user1", .tcp (.data [104, 105]))] ∧
      r.fault = none ∧ r.codec.status = .head ∧ r.leftover = [] := by
  intro secret frames
  have hsession : Session Reference.libs.agentPayload (Reference.fetcher "user1")
      (Reference.fetcher "user1") [Reference.hello, Reference.bye, secret] frames :=
    .cons ⟨travels_agentData "m1" .plain [104, 105], encodes_referenceFrame (by decide +kernel)⟩
      (.cons ⟨travels_agentData "m2" .plain [], encodes_referenceFrame (by decide +kernel)⟩
        (.cons ⟨travels_agentData "m3" _ [104, 105], encodes_referenceFrame (by decide +kernel)⟩
          .nil))
  exact ((session_round_trip Reference.libs Reference.gzipRoundTrips Reference.envelopeRoundTrips
    Reference.aesPermutes (Reference.fetcher "user1") (Reference.fetcher "user1")).1 _ _
    hsession).1 _ (by rw [← List.flatMap_def, List.flatMap_singleton'])

/-! ## Single frames -/

/-- The bytes are what gzip makes of some bytes. -/
def GzipCompressed (libs : Libs) (body : Bytes) : Prop :=
  ∃ plain z, libs.gzEncode plain = .ok z ∧ z.bytes = body

/-- The receiver gets the message back, and the compression byte is 1 exactly when the body is
compressed. -/
def SelfDescribing (payload : Serde P) (receiver : ConnectionCodec libs) (m : PpaassMessage P)
    (frame : Bytes) : Prop :=
  (∃ m', Decodes payload receiver frame m' ∧ m'.content = m.content) ∧
    (frame[PPAASS_FLAG.length]? = some 1 ↔ GzipCompressed libs (frame.drop HEADER_LENGTH))

theorem bodyFrame_flag (compress : Bool) (body : ByteVec) :
    (bodyFrame compress body).bytes[PPAASS_FLAG.length]? = some 1 := by
  cases compress <;> rfl

theorem bodyFrame_drop (compress : Bool) (body : ByteVec) :
    (bodyFrame compress body).bytes.drop HEADER_LENGTH = body.bytes :=
  List.drop_left' (header_length _ _)

/-- Only an envelope whose message id has a length that ends in the magic looks like gzip. -/
theorem envelope_magic (hlayout : libs.EnvelopeLayout) {m : CodecPpaassMessage} {v : ByteVec}
    (h : libs.codecMessage.serialize m = .ok v) (hmagic : v.bytes.take 2 = [0x1f, 0x8b]) :
    m.messageId.utf8ByteSize % 65536 = 0x8b1f := by
  obtain ⟨rest, hv⟩ := hlayout m v h
  rw [hv, List.take_append_of_le_length (by simp)] at hmagic
  simp only [leBytes, List.take_succ_cons, List.take_zero, List.cons.injEq, and_true] at hmagic
  have h0 := congrArg UInt8.toNat hmagic.1
  have h1 := congrArg UInt8.toNat hmagic.2
  rw [UInt8.toNat_ofNat'] at h0 h1
  have h0' : m.messageId.utf8ByteSize % 256 = 0x1f := h0
  have h1' : m.messageId.utf8ByteSize / 256 % 256 = 0x8b := h1
  omega

/-- No envelope is gzip output: where its tenth byte would have to be 255 it has a byte of the
message id. -/
theorem envelope_not_gzip (hgzip : libs.GzipRoundTrips) (hmagic : libs.GunzipMagic)
    (hsystem : libs.GzipSystemUnknown) (hlayout : libs.EnvelopeLayout) {m : CodecPpaassMessage}
    {v : ByteVec} (h : libs.codecMessage.serialize m = .ok v) :
    ¬ GzipCompressed libs v.bytes := by
  rintro ⟨plain, z, hz, hbytes⟩
  have hlen := envelope_magic hlayout h (hbytes ▸ hmagic _ _ (hgzip _ _ hz))
  have hsys := hsystem _ _ hz
  obtain ⟨rest, hv⟩ := hlayout m v h
  have hsize : 1 < (utf8 m.messageId).length := by rw [utf8_length]; omega
  rw [hbytes, hv, List.getElem?_append_right (by simp), leBytes_length,
    List.getElem?_append_left hsize, List.getElem?_eq_getElem hsize, Option.some.injEq] at hsys
  exact ne_255_of_mem_utf8 (List.getElem_mem hsize) hsys

/-- The receiver takes the frame of an uncompressed body for a compressed one, and fails. -/
theorem decode_uncompressed_error (payload : Serde P) (hmagic : libs.GunzipMagic)
    (hlayout : libs.EnvelopeLayout) {m : CodecPpaassMessage} {v : ByteVec}
    (h : libs.codecMessage.serialize m = .ok v)
    (hid : m.messageId.utf8ByteSize % 65536 ≠ 0x8b1f) {c : ConnectionCodec libs}
    (hs : c.status = .head) :
    ∃ f st, (decode payload).run (c, (bodyFrame false v).bytes) = .error f st := by
  have hdec := decode_frame payload hs (bodyFrame false v) []
  rw [List.append_nil, afterBody] at hdec
  cases hbody : decodeBody c.rsaCryptoFetcher ((bodyFrame false v).flag == 1)
      (bodyFrame false v).body with
  | error f =>
    rw [hbody] at hdec
    exact ⟨f, _, hdec⟩
  | ok r =>
    obtain ⟨decompresses⟩ := decodeBody_eq_ok.1 hbody
    exact absurd (envelope_magic hlayout h (hmagic _ _ decompresses)) hid

/-- What the two sides of a link assume of the libraries. -/
structure LinkLaws (libs : Libs) : Prop where
  gzip : libs.GzipRoundTrips
  magic : libs.GunzipMagic
  system : libs.GzipSystemUnknown
  layout : libs.EnvelopeLayout
  envelope : libs.EnvelopeRoundTrips
  aes : libs.AesPermutes

theorem selfDescribing_iff {payload : Serde P} {sender receiver : RsaCryptoFetcher libs}
    (laws : LinkLaws libs) {m : PpaassMessage P} (hm : Travels payload sender receiver m)
    (senderCompress receiverCompress : Bool) {frame : Bytes}
    (h : Encodes payload (ConnectionCodec.new senderCompress sender) m frame) :
    (SelfDescribing payload (ConnectionCodec.new receiverCompress receiver) m frame ↔
      senderCompress = true) ∧
    (senderCompress = false → m.messageId.utf8ByteSize % 65536 ≠ 0x8b1f →
      ∃ f st, (decode payload).run (ConnectionCodec.new receiverCompress receiver, frame) =
        .error f st) := by
  cases senderCompress with
  | true =>
    refine ⟨⟨fun _ => rfl, fun _ =>
      ⟨decodes_of_encodes laws.gzip laws.envelope laws.aes hm h _, ?_⟩⟩,
      fun hc => absurd hc (by decide)⟩
    obtain ⟨rng, body, ⟨-, -, -, compresses⟩, rfl⟩ := h.sends
    exact ⟨fun _ => ⟨_, body, compresses, (bodyFrame_drop true body).symm⟩,
      fun _ => bodyFrame_flag true body⟩
  | false =>
    obtain ⟨rng, body, ⟨-, -, serializes, compresses⟩, rfl⟩ := h.sends
    cases compresses
    refine ⟨⟨fun hself => ?_, fun hc => absurd hc (by decide)⟩, fun _ hid => ?_⟩
    · have hz := hself.2.1 (bodyFrame_flag false _)
      rw [show (ConnectionCodec.new false sender).compress = false from rfl, bodyFrame_drop] at hz
      exact absurd hz
        (envelope_not_gzip laws.gzip laws.magic laws.system laws.layout serializes)
    · exact decode_uncompressed_error payload laws.magic laws.layout serializes hid rfl

/-- **Frames are self-describing exactly when the sender compresses**, whatever the receiver's
setting, in both directions. Without compression the receiver fails on every message whose id has
not 35615 bytes modulo 65536. -/
theorem self_describing_iff (libs : Libs) (laws : LinkLaws libs)
    (sender receiver : RsaCryptoFetcher libs) (senderCompress receiverCompress : Bool)
    (frame : Bytes) :
    let s := ConnectionCodec.new senderCompress sender
    let r := ConnectionCodec.new receiverCompress receiver
    (∀ m, Travels libs.agentPayload sender receiver m → Encodes libs.agentPayload s m frame →
      (SelfDescribing libs.agentPayload r m frame ↔ senderCompress = true) ∧
      (senderCompress = false → m.messageId.utf8ByteSize % 65536 ≠ 0x8b1f →
        ∃ f st, PpaassAgentConnectionCodec.decode.run (r, frame) = .error f st)) ∧
    (∀ m, Travels libs.proxyPayload sender receiver m → Encodes libs.proxyPayload s m frame →
      (SelfDescribing libs.proxyPayload r m frame ↔ senderCompress = true) ∧
      (senderCompress = false → m.messageId.utf8ByteSize % 65536 ≠ 0x8b1f →
        ∃ f st, PpaassProxyConnectionCodec.decode.run (r, frame) = .error f st)) :=
  ⟨fun _ hm h => selfDescribing_iff laws hm _ _ h, fun _ hm h => selfDescribing_iff laws hm _ _ h⟩

theorem Reference.linkLaws : LinkLaws Reference.libs where
  gzip := Reference.gzipRoundTrips
  magic := Reference.gunzipMagic
  system := Reference.gzipSystemUnknown
  layout := Reference.envelopeLayout
  envelope := Reference.envelopeRoundTrips
  aes := Reference.aesPermutes

/-- A receiver without compression reads the frame of a sender with compression. -/
theorem self_describing_hello :
    SelfDescribing Reference.libs.agentPayload
      (ConnectionCodec.new false (Reference.fetcher "user1")) Reference.hello
      (referenceFrame Reference.hello) :=
  ((self_describing_iff Reference.libs Reference.linkLaws (Reference.fetcher "user1")
    (Reference.fetcher "user1") true false (referenceFrame Reference.hello)).1 Reference.hello
    (travels_agentData "m1" .plain [104, 105])
    (encodes_referenceFrame (by decide +kernel))).1.2 rfl

/-- The frame of `hello` without compression is refused by every peer. -/
theorem uncompressed_not_self_describing :
    let s := ConnectionCodec.new false (Reference.fetcher "user1")
    let frame := frameOf Reference.libs.agentPayload s ((), Reference.hello)
    Encodes Reference.libs.agentPayload s Reference.hello frame ∧
      ¬ SelfDescribing Reference.libs.agentPayload
        (ConnectionCodec.new false (Reference.fetcher "user1")) Reference.hello frame := by
  intro s frame
  have henc : Encodes Reference.libs.agentPayload s Reference.hello frame :=
    @encodes_frameOf _ _ _ s ((), Reference.hello) (by decide +kernel)
  refine ⟨henc, fun hself => ?_⟩
  obtain ⟨rng, body, ⟨-, -, serializes, compresses⟩, hframe⟩ := henc.sends
  cases compresses
  obtain ⟨m', hdec, -⟩ := hself.1
  obtain ⟨f, st, herr⟩ := decode_uncompressed_error Reference.libs.agentPayload
    Reference.gunzipMagic Reference.envelopeLayout serializes
    (c := ConnectionCodec.new false (Reference.fetcher "user1"))
    (show Reference.hello.messageId.utf8ByteSize % 65536 ≠ 0x8b1f by decide +kernel) rfl
  rw [Decodes, hframe] at hdec
  exact absurd (hdec.symm.trans herr) (by simp)

/-! ## The encryption of a message -/

/-- The message that is decoded has the encryption it was encoded under, and a reply under that
encryption can be encoded wherever the libraries do not fail on it. -/
def Restores (inbound : Serde P) (outbound : Serde Q) (receiver : RsaCryptoFetcher libs)
    (m : PpaassMessage P) (frame : Bytes) : Prop :=
  ∃ m', Decodes inbound (ConnectionCodec.new true receiver) frame m' ∧
    m'.encryption = m.encryption ∧
    ∀ rng messageId p,
      Sendable outbound receiver true rng ⟨messageId, m.userToken, m.encryption, p⟩ →
      Sendable outbound receiver true rng ⟨messageId, m'.userToken, m'.encryption, p⟩

/-- No reply can be encoded under the encryption of the message that is decoded. -/
def ReplyFails (inbound : Serde P) (outbound : Serde Q) (receiver : RsaCryptoFetcher libs)
    (frame : Bytes) : Prop :=
  ∃ m', Decodes inbound (ConnectionCodec.new true receiver) frame m' ∧
    ∀ rng messageId p,
      ¬ Sendable outbound receiver true rng ⟨messageId, m'.userToken, m'.encryption, p⟩

theorem Decodes.unique {payload : Serde P} {c : ConnectionCodec libs} {frame : Bytes}
    {m m' : PpaassMessage P} (h : Decodes payload c frame m) (h' : Decodes payload c frame m') :
    m = m' := by
  unfold Decodes at h h'
  rw [h] at h'
  cases h'
  rfl

/-- An encrypted token is no token. -/
theorem Seals.encrypted_length (hrsa : libs.RsaPads) {payload : Serde P}
    {rsaCrypto : RsaCrypto libs} {rng : libs.OsRng} {p : P} {token : Bytes}
    {sealed : Bytes × PpaassMessagePayloadEncryption}
    (h : Seals payload rsaCrypto rng p (.aes token) sealed) :
    token.length = 32 ∧ ∃ encrypted, sealed.2 = .aes encrypted ∧ 43 ≤ encrypted.length := by
  cases h with
  | aes hencrypt hp haes =>
    have htoken := encryptWithAes_token haes
    have hpads := hrsa _ _ _ _ htoken (mapError_eq_ok.1 hencrypt)
    rw [htoken] at hpads
    exact ⟨htoken, _, rfl, hpads⟩

/-- Only a token of 32 bytes can be sent under. -/
theorem Sendable.token_length {payload : Serde P} {fetcher : RsaCryptoFetcher libs}
    {compress : Bool} {rng : libs.OsRng} {m : PpaassMessage P} {token : Bytes}
    (h : Sendable payload fetcher compress rng m) (hm : m.encryption = .aes token) :
    token.length = 32 := by
  obtain ⟨body, known, seals, -, -⟩ := h
  rw [hm] at seals
  cases seals with
  | aes hencrypt hp haes => exact encryptWithAes_token haes

theorem restores_iff (inbound : Serde P) (outbound : Serde Q)
    {sender receiver : RsaCryptoFetcher libs} (hgzip : libs.GzipRoundTrips)
    (henv : libs.EnvelopeRoundTrips) (haes : libs.AesPermutes) (hrsa : libs.RsaPads)
    {m : PpaassMessage P} {frame : Bytes} (hm : Travels inbound sender receiver m)
    (h : Encodes inbound (ConnectionCodec.new true sender) m frame) :
    (Restores inbound outbound receiver m frame ↔ m.encryption = .plain) ∧
      (m.encryption ≠ .plain → ReplyFails inbound outbound receiver frame) := by
  obtain ⟨rsaCrypto, rng, sealed, hseals, hdec⟩ := decodes_sealed hgzip henv haes hm h true
  cases henc : m.encryption with
  | plain =>
    rw [henc] at hseals
    refine ⟨⟨fun _ => rfl, fun _ => ⟨_, hdec, ?_, ?_⟩⟩, fun hne => absurd rfl hne⟩
    · cases hseals
      exact henc.symm
    · intro rng' messageId p hsendable
      rw [henc] at hsendable
      cases hseals
      exact hsendable
  | aes token =>
    rw [henc] at hseals
    obtain ⟨htoken, encrypted, hsealed, hlen⟩ := hseals.encrypted_length hrsa
    refine ⟨⟨fun hrestores => ?_, fun hplain => by cases hplain⟩, fun _ => ⟨_, hdec, ?_⟩⟩
    · obtain ⟨m', hdec', hsame, -⟩ := hrestores
      cases hdec.unique hdec'
      -- the token would be its own ciphertext
      rw [hsealed, henc] at hsame
      cases hsame
      omega
    · intro rng' messageId p hsendable
      have := hsendable.token_length hsealed
      omega

/-- **Decoding restores the encryption exactly for messages that are not encrypted**, in both
directions. What is decoded from a message under AES has the token as RSA encrypted it, and no reply
can be encoded under that. -/
theorem encryption_restored_iff (libs : Libs) (hgzip : libs.GzipRoundTrips)
    (henv : libs.EnvelopeRoundTrips) (haes : libs.AesPermutes) (hrsa : libs.RsaPads)
    (sender receiver : RsaCryptoFetcher libs) (frame : Bytes) :
    (∀ m, Travels libs.agentPayload sender receiver m →
      Encodes libs.agentPayload (ConnectionCodec.new true sender) m frame →
      (Restores libs.agentPayload libs.proxyPayload receiver m frame ↔ m.encryption = .plain) ∧
        (m.encryption ≠ .plain → ReplyFails libs.agentPayload libs.proxyPayload receiver frame)) ∧
    (∀ m, Travels libs.proxyPayload sender receiver m →
      Encodes libs.proxyPayload (ConnectionCodec.new true sender) m frame →
      (Restores libs.proxyPayload libs.agentPayload receiver m frame ↔ m.encryption = .plain) ∧
        (m.encryption ≠ .plain → ReplyFails libs.proxyPayload libs.agentPayload receiver frame)) :=
  ⟨fun _ hm h => restores_iff _ _ hgzip henv haes hrsa hm h,
    fun _ hm h => restores_iff _ _ hgzip henv haes hrsa hm h⟩

/-- The encryption of `hello` is restored. -/
theorem encryption_restored_hello :
    Restores Reference.libs.agentPayload Reference.libs.proxyPayload (Reference.fetcher "user1")
      Reference.hello (referenceFrame Reference.hello) :=
  (((encryption_restored_iff Reference.libs Reference.gzipRoundTrips Reference.envelopeRoundTrips
    Reference.aesPermutes Reference.rsaPads (Reference.fetcher "user1") (Reference.fetcher "user1")
    (referenceFrame Reference.hello)).1 Reference.hello (travels_agentData "m1" .plain [104, 105])
    (encodes_referenceFrame (by decide +kernel))).1).2 rfl

/-- An encrypted message is decoded, to one with another encryption. -/
theorem aes_encryption_not_restored :
    let m := generateAgentTcpDataMessage "m1" "user1" (.aes Reference.aesToken) [104, 105]
    Encodes Reference.libs.agentPayload referenceCodec m (referenceFrame m) ∧
      ¬ Restores Reference.libs.agentPayload Reference.libs.proxyPayload (Reference.fetcher "user1")
        m (referenceFrame m) := by
  intro m
  have henc : Encodes Reference.libs.agentPayload referenceCodec m (referenceFrame m) :=
    encodes_referenceFrame (by decide +kernel)
  refine ⟨henc, fun hrestores => ?_⟩
  have hiff := (restores_iff Reference.libs.agentPayload Reference.libs.proxyPayload
    Reference.gzipRoundTrips Reference.envelopeRoundTrips Reference.aesPermutes Reference.rsaPads
    (travels_agentData "m1" (.aes Reference.aesToken) [104, 105]) henc).1
  cases hiff.1 hrestores

end Ppaass.ConnectionCodec
