import Ppaass.Common.Proof.Connection
import Ppaass.Common.Proof.RoundTrip
import Ppaass.Lib.Jam

/-!
# A direction of a connection without compression

The encoder writes the flag of a compressed body whether it compresses or not, and so the peer fails
at the first frame of a sender without compression. `Silenced` says that such a direction of a
connection carries nothing: whatever is sent there, nothing is heard.
-/

namespace Ppaass

open Wire Framed

namespace ConnectionCodec

variable {libs : Libs} {P : Type} {payload : Serde P}

/-- A codec at a frame without compression has failed, and has decoded nothing. -/
theorem drain_uncompressed (hmagic : libs.GunzipMagic) (hlayout : libs.EnvelopeLayout)
    {c receiver : ConnectionCodec libs} (hc : c.compress = false) (hs : receiver.status = .head)
    {rng : libs.OsRng} {m : PpaassMessage P} {codec : ConnectionCodec libs} {dst frame : Bytes}
    (hrun : (encode payload rng m).run (c, dst) = .ok () (codec, dst ++ frame))
    (hid : m.messageId.utf8ByteSize % 65536 ≠ 0x8b1f) :
    ((decoder payload).drain receiver frame).items = [] ∧
      ((decoder payload).drain receiver frame).fault ≠ none := by
  rw [run_encode, hc] at hrun
  cases hbody : encodeBody payload c.rsaCryptoFetcher false rng m with
  | error f =>
    rw [hbody] at hrun
    cases hrun
  | ok body =>
    rw [hbody] at hrun
    have hframe : (bodyFrame false body).bytes = frame := by
      injection hrun with _ hst
      exact List.append_cancel_left (Prod.ext_iff.1 hst).2
    obtain ⟨-, -, serializes, compresses⟩ := encodeBody_eq_ok.1 hbody
    cases compresses
    obtain ⟨f, st, herr⟩ := decode_uncompressed_error payload hmagic hlayout serializes hid hs
    rw [hframe] at herr
    have hdecode : (decoder payload).decode.run (receiver, frame) = .error f st := herr
    rw [Decoder.drain_error hdecode]
    exact ⟨rfl, Option.some_ne_none f⟩

end ConnectionCodec

/-! ## A direction that carries nothing -/

section
variable {libs : Libs} {A B : Type}

/-- Nothing of what was `sent` can be heard: the link is jammed, and its reader has not read a
message. -/
structure Silenced (payload : Serde A) (receiver : ConnectionCodec libs)
    (sent : List (SendEvent (String × String × A))) (heard : List (RecvEvent (String × String × A)))
    (inner : Reader (ConnectionCodec libs)) (bytes : Channel UInt8) : Prop where
  jams : Jams (ConnectionCodec.decoder payload) receiver (∃ x ∈ sent, x.failed = true) bytes
  unheard : ∀ x ∈ heard, x.taken = []
  unread : heard = [] → Unread (ConnectionCodec.decoder payload) receiver inner bytes

namespace Silenced

open ConnectionCodec

variable {inbound : Serde A} {outbound : Serde B} {c c' : PpaassConnection libs}
  {receiver : ConnectionCodec libs} {peer : Reader (ConnectionCodec libs)}

theorem new {payload : Serde A} (hs : receiver.status = .head) :
    Silenced payload receiver [] [] (Reader.new receiver) .empty where
  jams := jams_empty (decode_head_short payload hs (by decide))
  unheard := by simp
  unread _ := unread_new

/-- **A call at the end that sends** adds nothing that can be heard. -/
theorem send {sent : List (SendEvent (String × String × B))}
    {heard : List (RecvEvent (String × String × B))} (hmagic : libs.GunzipMagic)
    (hlayout : libs.EnvelopeLayout) (h : Silenced outbound receiver sent heard peer c.output)
    (hs : receiver.status = .head) {e : ConnectionEvent A B}
    (hstep : PpaassConnection.Step inbound outbound c e c')
    (hcompress : ∀ m r, e = .feed m r → c.inner.codec.compress = false)
    (hcalm : ∀ m r, e = .feed m r → ∀ x ∈ sent, x.failed = false)
    (hid : ∀ m r, e = .feed m r → m.messageId.utf8ByteSize % 65536 ≠ 0x8b1f) :
    Silenced outbound receiver (sent ++ e.sent.toList) heard peer c'.output := by
  have hd : (decoder outbound : Decoder (ConnectionCodec libs) _ _).Incremental :=
    incremental outbound
  have hgrow : (∃ x ∈ sent, x.failed = true) → ∃ x ∈ sent ++ e.sent.toList, x.failed = true :=
    fun ⟨x, hx, hf⟩ => ⟨x, List.mem_append_left _ hx, hf⟩
  -- a send that feeds nothing
  have hquiet : ∀ {x output}, c.output.Send x output → x.fed = [] → output = c'.output →
      Silenced outbound receiver (sent ++ e.sent.toList) heard peer c'.output := by
    intro x output hsend hnil heq
    subst heq
    have hfed : c'.output.fed = c.output.fed := (hsend.fed_of_nil hnil).1
    refine ⟨(h.jams.mono hgrow).of_fed hfed, h.unheard, fun hnone => ?_⟩
    have hunread := h.unread hnone
    rwa [Unread, ← hsend.read] at hunread
  have hfeeds : ∀ {xs output}, (¬ ∃ x ∈ sent, x.failed = true) →
      ((decoder outbound).drain receiver xs).items = [] →
      (((decoder outbound).drain receiver xs).fault ≠ none ∨
        ∃ x ∈ sent ++ e.sent.toList, x.failed = true) →
      c.output.Send (.feed xs true) output → output = c'.output →
      Silenced outbound receiver (sent ++ e.sent.toList) heard peer c'.output := by
    intro xs output hstuck hitems hjam hsend heq
    subst heq
    refine ⟨h.jams.feed hd hstuck hitems hjam hsend, h.unheard, fun hnone => ?_⟩
    have hunread := h.unread hnone
    rwa [Unread, ← hsend.read] at hunread
  cases hstep with
  | next hround _ => simpa [ConnectionEvent.sent] using h
  | ready message e hsend => exact hquiet hsend rfl rfl
  | flush hsend => exact hquiet hsend rfl rfl
  | close hsend => exact hquiet hsend rfl rfl
  | @encoded _ _ _ _ message rng codec bytes hencode hsend =>
    have hstuck : ¬ ∃ x ∈ sent, x.failed = true := by
      rintro ⟨x, hx, hf⟩
      rw [hcalm _ _ rfl x hx] at hf
      cases hf
    obtain ⟨hitems, hfault⟩ := drain_uncompressed hmagic hlayout (hcompress _ _ rfl) hs
      hencode (hid _ _ rfl)
    exact hfeeds hstuck hitems (.inl hfault) hsend rfl
  | @refused inner _ _ _ message rng codec bytes e hencode hsend =>
    obtain ⟨rfl, rfl⟩ := PpaassConnection.encode_eq_error hencode
    have hstuck : ¬ ∃ x ∈ sent, x.failed = true := by
      rintro ⟨x, hx, hf⟩
      rw [hcalm _ _ rfl x hx] at hf
      cases hf
    have hdrain : (decoder outbound).drain receiver (stray inner.codec.compress) = _ :=
      drain_short hs (stray_short inner.codec.compress)
    refine hfeeds hstuck (by rw [hdrain]) (.inr ?_) hsend rfl
    exact ⟨.feed [message.content] false,
      by simp [ConnectionEvent.sent, Except.isOk, Except.toBool], rfl⟩

/-- **A call at the end that reads** hears no message. -/
theorem recv {sent : List (SendEvent (String × String × A))}
    {heard : List (RecvEvent (String × String × A))}
    (h : Silenced inbound receiver sent heard c.inner c.input) {e : ConnectionEvent A B}
    (hstep : PpaassConnection.Step inbound outbound c e c')
    (hfirst : ∀ r, e = .next r → heard = []) :
    Silenced inbound receiver sent (heard ++ e.recv.toList) c'.inner c'.input := by
  have hd : (decoder inbound : Decoder (ConnectionCodec libs) _ _).Incremental :=
    incremental inbound
  cases hstep with
  | @next _ _ _ _ _ p r hround hr =>
    have hunread := h.unread (hfirst r rfl)
    obtain ⟨hfed, hnone⟩ := h.jams.round hd hunread hround
    rw [PpaassConnection.heard_of_answered hr, hfirst r rfl]
    refine ⟨h.jams.of_fed hfed, ?_, by simp⟩
    rcases p with _ | (e | what) | i
    · simp [Polled.heard, RecvEvent.taken]
    · simp [Polled.heard, RecvEvent.taken]
    · simp [Polled.heard, RecvEvent.taken]
    · exact (hnone i rfl).elim
  | ready | flush | close => simpa [ConnectionEvent.recv] using h
  | encoded hencode _ =>
    obtain rfl := PpaassConnection.encode_eq_ok hencode
    simpa [ConnectionEvent.recv] using h
  | refused hencode _ =>
    obtain ⟨rfl, -⟩ := PpaassConnection.encode_eq_error hencode
    simpa [ConnectionEvent.recv] using h

/-- **A call, or none, at the end that sends.** -/
theorem sends {sent : List (SendEvent (String × String × B))}
    {heard : List (RecvEvent (String × String × B))} {e : Option (ConnectionEvent A B)}
    (hmagic : libs.GunzipMagic) (hlayout : libs.EnvelopeLayout)
    (h : Silenced outbound receiver sent heard peer c.output) (hs : receiver.status = .head)
    (hsteps : PpaassConnection.Steps inbound outbound c e c')
    (hcompress : ∀ m r, e = some (.feed m r) → c.inner.codec.compress = false)
    (hcalm : ∀ m r, e = some (.feed m r) → ∀ x ∈ sent, x.failed = false)
    (hid : ∀ m r, e = some (.feed m r) → m.messageId.utf8ByteSize % 65536 ≠ 0x8b1f) :
    Silenced outbound receiver (sent ++ (e.bind ConnectionEvent.sent).toList) heard peer
      c'.output := by
  cases e with
  | none =>
    obtain rfl : c' = c := hsteps
    simpa using h
  | some e =>
    apply h.send hmagic hlayout hs hsteps
    · exact fun m r he => hcompress m r (congrArg some he)
    · exact fun m r he => hcalm m r (congrArg some he)
    · exact fun m r he => hid m r (congrArg some he)

/-- **A call, or none, at the end that reads.** -/
theorem recvs {sent : List (SendEvent (String × String × A))}
    {heard : List (RecvEvent (String × String × A))} {e : Option (ConnectionEvent A B)}
    (h : Silenced inbound receiver sent heard c.inner c.input)
    (hsteps : PpaassConnection.Steps inbound outbound c e c')
    (hfirst : ∀ r, e = some (.next r) → heard = []) :
    Silenced inbound receiver sent (heard ++ (e.bind ConnectionEvent.recv).toList) c'.inner
      c'.input := by
  cases e with
  | none =>
    obtain rfl : c' = c := hsteps
    simpa using h
  | some e => exact h.recv hsteps fun r he => hfirst r (congrArg some he)

theorem poll {sent : List (SendEvent (String × String × A))}
    (h : Silenced inbound receiver sent [] c.inner c.input)
    (hpoll : PpaassConnection.Poll inbound c c') :
    Silenced inbound receiver sent [] c'.inner c'.input := by
  cases hpoll with
  | mk hround =>
    obtain ⟨hfed, hunread⟩ := h.jams.round (incremental inbound) (h.unread rfl) hround
    exact ⟨h.jams.of_fed hfed, by simp, fun _ => hunread⟩

theorem «break» {payload : Serde A} {sent : List (SendEvent (String × String × A))}
    {heard : List (RecvEvent (String × String × A))} {bytes bytes' : Channel UInt8}
    (h : Silenced payload receiver sent heard peer bytes) (hb : bytes.Break bytes') :
    Silenced payload receiver sent heard peer bytes' := by
  refine ⟨h.jams.of_fed hb.fed, h.unheard, fun hnone => ?_⟩
  have hunread := h.unread hnone
  rwa [Unread, ← hb.read] at hunread

end Silenced

end

end Ppaass
