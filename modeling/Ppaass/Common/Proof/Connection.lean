import Ppaass.Common.Connection
import Ppaass.Common.Proof.Ciphertext

/-!
# What a connection does to its links

Where the peer's codec decodes what this one encodes (`Conveys`), a call at a connection is a step
of two links of messages: `Step.carries`, and `Poll.carries` for a round of `poll_next` that answers
nothing yet. An `encode` that fails breaks the link.
-/

namespace Ppaass

open Wire Framed

namespace ConnectionCodec

variable {libs : Libs} {P : Type} {payload : Serde P}

/-- The keys and the compression of the codec are these. -/
def Configured (rsaCryptoFetcher : RsaCryptoFetcher libs) (compress : Bool)
    (c : ConnectionCodec libs) : Prop :=
  c.rsaCryptoFetcher = rsaCryptoFetcher ∧ c.compress = compress

/-- `decode` leaves them as they are. -/
theorem decode_keeps (payload : Serde P) {rsaCryptoFetcher : RsaCryptoFetcher libs}
    {compress : Bool} (c : ConnectionCodec libs) (buf : Bytes)
    (h : c.Configured rsaCryptoFetcher compress) :
    (stateAfter (decode payload) (c, buf)).1.Configured rsaCryptoFetcher compress := by
  have hdata : ∀ (c : ConnectionCodec libs) compressed n buf, c.status = .data compressed n →
      c.Configured rsaCryptoFetcher compress →
      (stateAfter (decode payload) (c, buf)).1.Configured rsaCryptoFetcher compress := by
    intro c compressed n buf hs hc
    unfold stateAfter
    obtain ⟨-, hrun⟩ | ⟨body, rest, -, -, hrun⟩ := decode_data_cases payload hs buf
    · rw [hrun]
      exact hc
    · rw [hrun, afterBody]
      cases decodeBody c.rsaCryptoFetcher compressed body with
      | error f => exact hc
      | ok r => cases hp : payload.tryFromBytes r.2 <;> simp only [hp] <;> exact hc
  cases hs : c.status with
  | data compressed n => exact hdata c compressed n buf hs h
  | head =>
    by_cases hlen : buf.length < HEADER_LENGTH
    · rw [stateAfter, decode_head_short payload hs hlen]
      exact h
    have hle := Nat.not_lt.1 hlen
    by_cases hf : buf.take PPAASS_FLAG.length = PPAASS_FLAG
    · obtain ⟨flag, n, rest, rfl⟩ := exists_header hle hf
      rw [stateAfter, decode_header payload hs]
      exact hdata { c with status := .data (flag == 1) n } _ n rest rfl h
    · rw [stateAfter, decode_badFlag payload hs hle (Ne.symm hf)]
      exact h

/-- What the sender encodes of a message the receiver decodes to it. -/
def Conveys (payload : Serde P) (sender receiver : ConnectionCodec libs) (m : PpaassMessage P) :
    Prop :=
  ∀ rng dst frame, (encode payload rng m).run (sender, dst) = .ok () (sender, dst ++ frame) →
    ∃ m', Decodes payload receiver frame m' ∧ m'.content = m.content

/-- With compression, what travels is conveyed. -/
theorem conveys_of_travels (hgzip : libs.GzipRoundTrips) (henv : libs.EnvelopeRoundTrips)
    (haes : libs.AesPermutes) {c : ConnectionCodec libs}
    {sender receiver : RsaCryptoFetcher libs} (hc : c.Configured sender true) (compress : Bool)
    {m : PpaassMessage P} (hm : Travels payload sender receiver m) :
    Conveys payload c (ConnectionCodec.new compress receiver) m := by
  intro rng dst frame hrun
  refine decodes_of_encodes hgzip henv haes hm ⟨rng, ?_⟩ compress
  rw [run_encode] at hrun ⊢
  rw [hc.1, hc.2] at hrun
  cases hbody : encodeBody payload sender true rng m with
  | error f =>
    rw [hbody] at hrun
    cases hrun
  | ok body =>
    rw [hbody] at hrun
    have hframe : (bodyFrame true body).bytes = frame := by
      injection hrun with _ hst
      exact List.append_cancel_left (Prod.ext_iff.1 hst).2
    rw [← hframe]
    simp only [ConnectionCodec.new, hbody]
    rfl

theorem Decodes.drain {c : ConnectionCodec libs} {frame : Bytes} {m : PpaassMessage P}
    (h : Decodes payload c frame m) (hs : c.status = .head) :
    (decoder payload).drain c frame = ⟨[m], none, c, []⟩ := by
  have hrest : (decoder payload).AtRest c [] := decode_head_short payload hs (by decide)
  have hrun : (decoder payload).decode.run (c, frame) = .ok (some m) (c, []) := h
  rw [Decoder.drain_some hrun, hrest.drain]

/-- Bytes that are too few for a header wait for more. -/
theorem drain_short {c : ConnectionCodec libs} {bytes : Bytes} (hs : c.status = .head)
    (h : bytes.length < HEADER_LENGTH) : (decoder payload).drain c bytes = ⟨[], none, c, bytes⟩ :=
  Decoder.AtRest.drain (decode_head_short payload hs h)

theorem stray_short (compress : Bool) : (stray compress).length < HEADER_LENGTH := by
  simp [stray, HEADER_LENGTH, PPAASS_FLAG]

end ConnectionCodec

/-! ## Calls -/

namespace ConnectionEvent

variable {A B : Type}

/-- What a call takes from the link of messages. -/
def recv : ConnectionEvent A B → Option (RecvEvent (String × String × A))
  | .next none => some .eof
  | .next (some (.ok message)) => some (.read [message.content])
  | .next (some (.error _)) => some .error
  | _ => none

/-- What a call gives to the link of messages. -/
def sent : ConnectionEvent A B → Option (SendEvent (String × String × B))
  | .feed message r => some (.feed [message.content] (Except.isOk r))
  | .flush r => some (.flush (Except.isOk r))
  | .close r => some (.close (Except.isOk r))
  | _ => none

end ConnectionEvent

namespace PpaassConnection

open ConnectionCodec

variable {libs : Libs} {A B : Type} {inbound : Serde A} {outbound : Serde B}

/-- A byte link that carries messages to a codec which began as `receiver`. -/
abbrev CarriesTo (payload : Serde A) (receiver : ConnectionCodec libs) :=
  Carries (decoder payload) PpaassMessage.content receiver

theorem heard_of_answered {p : Polled CommonError (PpaassMessage A)}
    {r : Option (Except CommonError (PpaassMessage A))} (h : answered p = some r) :
    (ConnectionEvent.next r : ConnectionEvent A B).recv = some (p.heard PpaassMessage.content) := by
  rcases p with _ | (e | what) | i <;> cases h <;> rfl

/-- What an `encode` that returns has written: its frame, or what it writes before it fails. -/
theorem encode_eq_ok {payload : Serde A} {rng : libs.OsRng} {m : PpaassMessage A}
    {c codec : ConnectionCodec libs} {dst bytes : Bytes}
    (h : (encode payload rng m).run (c, dst) = .ok () (codec, dst ++ bytes)) : codec = c := by
  rw [run_encode] at h
  cases hbody : encodeBody payload c.rsaCryptoFetcher c.compress rng m with
  | error f => simp [hbody] at h
  | ok body =>
    simp only [hbody, EStateM.Result.ok.injEq, Prod.mk.injEq, true_and] at h
    exact h.1.symm

theorem encode_eq_error {payload : Serde A} {rng : libs.OsRng} {m : PpaassMessage A}
    {c codec : ConnectionCodec libs} {dst bytes : Bytes} {f : Fault CommonError}
    (h : (encode payload rng m).run (c, dst) = .error f (codec, dst ++ bytes)) :
    codec = c ∧ bytes = stray c.compress := by
  rw [run_encode] at h
  cases hbody : encodeBody payload c.rsaCryptoFetcher c.compress rng m with
  | ok body => simp [hbody] at h
  | error e =>
    simp only [hbody, EStateM.Result.error.injEq, Prod.mk.injEq, List.append_cancel_left_eq] at h
    exact ⟨h.2.1.symm, h.2.2.symm⟩

section
variable {c c' : PpaassConnection libs} {peer : Reader (ConnectionCodec libs)}
  {receiver receiver' : ConnectionCodec libs} {spoiled spoiled' : Bool}
  {cin : Channel (String × String × A)} {cout : Channel (String × String × B)}

/-- **A call at a connection** is a step of the two links of messages; where `encode` fails the link
breaks first, and stays spoiled. -/
theorem Step.carries {e : ConnectionEvent A B} (hstep : Step inbound outbound c e c')
    (hin : CarriesTo inbound receiver spoiled c.inner c.input cin)
    (hout : CarriesTo outbound receiver' spoiled' peer c.output cout)
    (hhead : receiver'.status = .head)
    (hcalm : ∀ m r, e = .feed m r → spoiled' = false ∧ c.output.closed = false)
    (hconveys : ∀ m, e = .feed m (.ok ()) → Conveys outbound c.inner.codec receiver' m) :
    ∃ cin' cout₀ cout' spoiled'', cin.Recvs e.recv cin' ∧ (cout₀ = cout ∨ cout.Break cout₀) ∧
      cout₀.Sends e.sent cout' ∧ CarriesTo inbound receiver spoiled c'.inner c'.input cin' ∧
      CarriesTo outbound receiver' spoiled'' peer c'.output cout' ∧
      (spoiled'' = true → spoiled' = true ∨ ∃ xs, .feed xs false ∈ e.sent) := by
  have hd : (decoder outbound : Decoder (ConnectionCodec libs) _ _).Incremental :=
    incremental outbound
  cases hstep with
  | next hround hr =>
    have hheard : ∃ cin', cin.Recv _ cin' ∧ _ := hin.round (incremental inbound) hround
    obtain ⟨cin', hrecv, hin'⟩ := hheard
    refine ⟨cin', cout, cout, spoiled', ?_, .inl rfl, rfl, hin', hout, .inl⟩
    rw [heard_of_answered hr]
    exact hrecv
  | ready message e hsend =>
    obtain ⟨cout', hs, hout'⟩ := hout.fails hd hsend [message.content]
    exact ⟨cin, cout, cout', spoiled', rfl, .inl rfl, hs, hin, hout', .inl⟩
  | @encoded _ _ _ _ message rng codec bytes hencode hsend =>
    obtain rfl := encode_eq_ok hencode
    obtain ⟨rfl, hopen⟩ := hcalm _ _ rfl
    obtain ⟨m', hdec, hcontent⟩ := hconveys message rfl rng _ bytes hencode
    obtain ⟨cout', hs, hout'⟩ := hout.feed hd (hdec.drain hhead) hopen hsend
    rw [hcontent] at hs
    exact ⟨cin, cout, cout', false, rfl, .inl rfl, hs, hin, hout', .inl⟩
  | @refused inner _ _ _ message rng codec bytes e hencode hsend =>
    obtain ⟨rfl, rfl⟩ := encode_eq_error hencode
    obtain ⟨rfl, hopen⟩ := hcalm _ _ rfl
    have hdrain : (decoder outbound).drain receiver' (stray inner.codec.compress) = _ :=
      drain_short hhead (stray_short inner.codec.compress)
    obtain ⟨cout₀, cout', hbreak, hs, hout'⟩ := hout.spoil hd (by rw [hdrain]) (by rw [hdrain])
      hopen hsend [message.content]
    exact ⟨cin, cout₀, cout', true, rfl, .inr hbreak, hs, hin, hout', fun _ => .inr ⟨_, rfl⟩⟩
  | flush hsend =>
    obtain ⟨cout', hs, hout'⟩ := hout.flush hd hsend
    exact ⟨cin, cout, cout', spoiled', rfl, .inl rfl, hs, hin, hout', .inl⟩
  | close hsend =>
    obtain ⟨cout', hs, hout'⟩ := hout.close hd hsend
    exact ⟨cin, cout, cout', spoiled', rfl, .inl rfl, hs, hin, hout', .inl⟩

/-- The same of a call or none. -/
theorem Steps.carries {e : Option (ConnectionEvent A B)} (hsteps : Steps inbound outbound c e c')
    (hin : CarriesTo inbound receiver spoiled c.inner c.input cin)
    (hout : CarriesTo outbound receiver' spoiled' peer c.output cout)
    (hhead : receiver'.status = .head)
    (hcalm : ∀ m r, e = some (.feed m r) → spoiled' = false ∧ c.output.closed = false)
    (hconveys : ∀ m, e = some (.feed m (.ok ())) → Conveys outbound c.inner.codec receiver' m) :
    ∃ cin' cout₀ cout' spoiled'', cin.Recvs (e.bind ConnectionEvent.recv) cin' ∧
      (cout₀ = cout ∨ cout.Break cout₀) ∧ cout₀.Sends (e.bind ConnectionEvent.sent) cout' ∧
      CarriesTo inbound receiver spoiled c'.inner c'.input cin' ∧
      CarriesTo outbound receiver' spoiled'' peer c'.output cout' ∧
      (spoiled'' = true → spoiled' = true ∨
        ∃ xs, .feed xs false ∈ e.bind ConnectionEvent.sent) := by
  cases e with
  | none =>
    obtain rfl : c' = c := hsteps
    exact ⟨cin, cout, cout, spoiled', rfl, .inl rfl, rfl, hin, hout, .inl⟩
  | some e =>
    have hstep : Step inbound outbound c e c' := hsteps
    exact hstep.carries hin hout hhead (fun m r he => hcalm m r (congrArg some he))
      fun m he => hconveys m (congrArg some he)

/-- A round of `poll_next` that goes on is no step of the links of messages. -/
theorem Poll.carries (hpoll : Poll inbound c c')
    (hin : CarriesTo inbound receiver spoiled c.inner c.input cin) :
    CarriesTo inbound receiver spoiled c'.inner c'.input cin ∧ c'.output = c.output := by
  cases hpoll with
  | mk h => exact ⟨hin.round (incremental inbound) h, rfl⟩

/-! Where the links of messages can take a step, the connection can. -/

theorem exists_next (hin : CarriesTo inbound receiver spoiled c.inner c.input cin)
    (hbroken : cin.broken = false) {r : Option (Except CommonError (PpaassMessage A))}
    {cin' : Channel (String × String × A)}
    (hrecv : cin.Recvs (ConnectionEvent.next r : ConnectionEvent A B).recv cin') :
    (∃ r' c', Step inbound outbound c (.next r') c') ∨ ∃ c', Poll inbound c c' := by
  have hround : ∃ p inner input,
      Reader.Round (decode inbound) .io bytesRemaining c.inner c.input p inner input := by
    rcases r with _ | e | m
    · exact hin.exists_round (incremental inbound) hbroken (by simp) hrecv _ _
    · exact hin.exists_round (incremental inbound) hbroken (by simp) hrecv _ _
    · exact hin.exists_round (incremental inbound) hbroken (by simp) hrecv _ _
  obtain ⟨p, inner, input, hround⟩ := hround
  cases p with
  | none => exact .inr ⟨_, .mk hround⟩
  | some p =>
    cases hr : answered p with
    | some r' => exact .inl ⟨r', _, .next hround hr⟩
    | none =>
      -- only a panic answers nothing
      rcases p with _ | (e | what) | i
      · cases hr
      · cases hr
      · exact (hin.round_ne_panic (incremental inbound) hround what rfl).elim
      · cases hr

theorem exists_feed (rng : libs.OsRng) {m : PpaassMessage B}
    (hpanic : ∀ what, encodeBody outbound c.inner.codec.rsaCryptoFetcher c.inner.codec.compress rng
      m ≠ .error (.panic what)) : ∃ r c', Step inbound outbound c (.feed m r) c' := by
  have hrun := run_encode outbound rng m c.inner.codec c.output.pending
  cases hbody : encodeBody outbound c.inner.codec.rsaCryptoFetcher c.inner.codec.compress rng m with
  | ok body =>
    rw [hbody] at hrun
    obtain ⟨output, hsend⟩ := Channel.exists_feed c.output
      (bodyFrame c.inner.codec.compress body).bytes
    exact ⟨_, _, .encoded hrun hsend⟩
  | error f =>
    rw [hbody] at hrun
    obtain ⟨output, hsend⟩ := Channel.exists_feed c.output (stray c.inner.codec.compress)
    cases f with
    | err e => exact ⟨_, _, .refused hrun hsend⟩
    | panic what => exact (hpanic what hbody).elim

theorem exists_flush : ∃ c', Step inbound outbound c (.flush (.ok ())) c' := by
  obtain ⟨output, hsend⟩ := Channel.exists_flush c.output
  exact ⟨_, .flush hsend⟩

theorem exists_close : ∃ c', Step inbound outbound c (.close (.ok ())) c' := by
  obtain ⟨output, hsend⟩ := Channel.exists_close c.output
  exact ⟨_, .close hsend⟩

end

/-! ## Links of which all is written -/

section
variable {inner : Reader (ConnectionCodec libs)} {input output : Channel UInt8}
  {codec : ConnectionCodec libs} {isReadable : Bool} {frame : Bytes}

open Channel

theorem feed_flowing (read rest : Bytes) {m : PpaassMessage B}
    (h : Encodes outbound inner.codec m frame) :
    Step inbound outbound ⟨inner, input, .flowing read rest false⟩ (.feed m (.ok ()))
      ⟨inner, input, .flowing read (rest ++ frame) false⟩ := by
  obtain ⟨rng, hrun⟩ := h
  have hpending : (flowing read rest false).pending = [] := by simp [flowing, pending]
  have hencode : (encode outbound rng m).run (inner.codec, (flowing read rest false).pending) =
      .ok () (inner.codec, (flowing read rest false).pending ++ frame) := by
    rw [hpending]
    exact hrun
  exact .encoded hencode (flowing_feed read rest frame)

theorem flush_flowing (read rest : Bytes) (closed : Bool) :
    Step inbound outbound ⟨inner, input, .flowing read rest closed⟩ (.flush (.ok ()))
      ⟨inner, input, .flowing read rest closed⟩ :=
  .flush (flowing_flush read rest closed)

theorem close_flowing (read rest : Bytes) (closed : Bool) :
    Step inbound outbound ⟨inner, input, .flowing read rest closed⟩ (.close (.ok ()))
      ⟨inner, input, .flowing read rest true⟩ :=
  .close (flowing_close read rest closed)

/-- A message that has come is read, and heard. -/
theorem next_flowing (hs : codec.status = .head) {m : PpaassMessage A}
    (h : Decodes inbound codec frame m) (read : Bytes) (closed : Bool) :
    ∃ c, Poll inbound ⟨.waiting codec isReadable, .flowing read frame closed, output⟩ c ∧
      Step inbound outbound c (.next (some (.ok m)))
        ⟨.waiting codec true, .flowing (read ++ frame) [] closed, output⟩ := by
  have hempty : (decode inbound).run (codec, []) = .ok none (codec, []) :=
    decode_head_short inbound hs (by decide)
  have hne : frame ≠ [] := by
    rintro rfl
    rw [Decodes, hempty] at h
    cases h
  exact ⟨_, .mk (Reader.round_read hempty hne closed), .next (Reader.round_item h) rfl⟩

/-- The end is heard. -/
theorem end_flowing (hs : codec.status = .head) (read : Bytes) :
    ∃ c, Poll inbound ⟨.waiting codec isReadable, .flowing read [] true, output⟩ c ∧
      Step inbound outbound c (.next none)
        ⟨⟨codec, [], false, true, false⟩, .flowing read [] true, output⟩ := by
  have hempty : (decode inbound).run (codec, []) = .ok none (codec, []) :=
    decode_head_short inbound hs (by decide)
  exact ⟨_, .mk (Reader.round_eof hempty), .next (Reader.round_end hempty) rfl⟩

end

/-! ## The codec's configuration -/

section
variable {c c' : PpaassConnection libs} {fetcher : RsaCryptoFetcher libs} {compress : Bool}

theorem Step.configured {e : ConnectionEvent A B} (hstep : Step inbound outbound c e c')
    (h : c.inner.codec.Configured fetcher compress) :
    c'.inner.codec.Configured fetcher compress := by
  cases hstep with
  | next hround _ => exact hround.keeps _ (decode_keeps inbound) h
  | encoded hencode _ =>
    obtain rfl := encode_eq_ok hencode
    exact h
  | refused hencode _ =>
    obtain ⟨rfl, -⟩ := encode_eq_error hencode
    exact h
  | ready | flush | close => exact h

theorem Steps.configured {e : Option (ConnectionEvent A B)} (hsteps : Steps inbound outbound c e c')
    (h : c.inner.codec.Configured fetcher compress) :
    c'.inner.codec.Configured fetcher compress := by
  cases e with
  | none =>
    obtain rfl : c' = c := hsteps
    exact h
  | some e => exact Step.configured hsteps h

theorem Poll.configured (hpoll : Poll inbound c c')
    (h : c.inner.codec.Configured fetcher compress) :
    c'.inner.codec.Configured fetcher compress := by
  cases hpoll with
  | mk hround => exact hround.keeps _ (decode_keeps inbound) h

end

end PpaassConnection

end Ppaass
