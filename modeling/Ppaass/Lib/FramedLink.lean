import Ppaass.Lib.Channel
import Ppaass.Lib.Framed

/-!
# Messages over a byte link

A sender appends the frames that `encode` makes of its messages to a byte link, and a `Reader`
takes them off at the other end: `Round` is one round of its loop, which answers an item, a fault or
the end of the stream, or reads some bytes and goes on.

`Carries` ties the byte link and its reader to a link of messages. Each step of the byte link is one
of the link of messages, or none of it: `Carries.feed`, `Carries.send`, `Carries.spoil`,
`Carries.fails`, `Carries.break` and `Carries.round`. `Carries.exists_round` is the way back: where
the link of messages has something to hear, the reader can go on.
-/

namespace Framed

open Wire

/-! ## The reader -/

/-- What a call leaves of the codec and the buffer. -/
def stateAfter {σ ε α : Type} (x : CodecM σ ε α) (st : σ × Bytes) : σ × Bytes :=
  match x.run st with
  | .ok _ st | .error _ st => st

/-- The read half of a framed stream. -/
structure Reader (σ : Type) where
  codec : σ
  buffer : Bytes
  isReadable : Bool
  eof : Bool
  hasErrored : Bool

/-- What a poll of the stream answers: the end, a fault, or an item. -/
abbrev Polled (ε ι : Type) := Option (Except (Fault ε) ι)

namespace Reader

variable {σ ε ι : Type}

/-- A stream of which nothing is read yet. -/
def new (codec : σ) : Reader σ := ⟨codec, [], false, false, false⟩

/-- A stream that has used up what was read. -/
def waiting (codec : σ) (isReadable : Bool) : Reader σ := ⟨codec, [], isReadable, false, false⟩

/-- How a round begins: with an answer, or with a reader that has to read first. At end of file
`decode` is called once more, and may leave no bytes. -/
def next (decode : CodecM σ ε (Option ι)) (remaining : ε) (r : Reader σ) :
    (Polled ε ι × Reader σ) ⊕ Reader σ :=
  if r.hasErrored then .inl (none, { r with isReadable := false, hasErrored := false })
  else if !r.isReadable then .inr r
  else
    match decode.run (r.codec, r.buffer) with
    | .ok (some i) (codec, buffer) => .inl (some (.ok i), { r with codec, buffer })
    | .error f (codec, buffer) =>
      .inl (some (.error f), { r with codec, buffer, hasErrored := true })
    | .ok none (codec, buffer) =>
      if !r.eof then .inr { r with codec, buffer, isReadable := false }
      else if buffer.isEmpty then .inl (none, { r with codec, buffer, isReadable := false })
      else .inl (some (.error (.err remaining)), { r with codec, buffer, hasErrored := true })

/-- One round of the loop: an answer, or `none` where the loop goes on. A socket's error is passed
on as `io` of it. -/
inductive Round (decode : CodecM σ ε (Option ι)) (io : String → ε) (remaining : ε) :
    Reader σ → Channel UInt8 → Option (Polled ε ι) → Reader σ → Channel UInt8 → Prop
  | answer {r r' : Reader σ} {c : Channel UInt8} {a : Polled ε ι}
      (h : r.next decode remaining = .inl (a, r')) : Round decode io remaining r c (some a) r' c
  | read {r r' : Reader σ} {c c' : Channel UInt8} {bytes : Bytes}
      (h : r.next decode remaining = .inr r') (hne : bytes ≠ []) (hr : c.Recv (.read bytes) c') :
      Round decode io remaining r c none
        { r' with buffer := r'.buffer ++ bytes, eof := false, isReadable := true } c'
  | eof {r r' : Reader σ} {c c' : Channel UInt8} (h : r.next decode remaining = .inr r')
      (heof : r'.eof = false) (hr : c.Recv .eof c') :
      Round decode io remaining r c none { r' with eof := true, isReadable := true } c'
  | eofAgain {r r' : Reader σ} {c c' : Channel UInt8} (h : r.next decode remaining = .inr r')
      (heof : r'.eof = true) (hr : c.Recv .eof c') : Round decode io remaining r c (some none) r' c'
  | error {r r' : Reader σ} {c c' : Channel UInt8} (h : r.next decode remaining = .inr r')
      (e : String) (hr : c.Recv .error c') :
      Round decode io remaining r c (some (some (.error (.err (io e)))))
        { r' with hasErrored := true } c'

/-- What `decode` keeps of its state, a round keeps. -/
theorem Round.keeps {decode : CodecM σ ε (Option ι)} {io : String → ε} {remaining : ε}
    {r r' : Reader σ} {c c' : Channel UInt8} {p : Option (Polled ε ι)} (K : σ → Prop)
    (hdecode : ∀ codec buffer, K codec → K (stateAfter decode (codec, buffer)).1)
    (h : Round decode io remaining r c p r' c') (hr : K r.codec) : K r'.codec := by
  have hnext : K ((r.next decode remaining).elim (fun a => a.2.codec) fun r => r.codec) := by
    have hst := hdecode r.codec r.buffer hr
    unfold stateAfter at hst
    unfold next
    split
    · exact hr
    · split
      · exact hr
      · cases hd : decode.run (r.codec, r.buffer) with
        | error f st =>
          rw [hd] at hst
          exact hst
        | ok item st =>
          rw [hd] at hst
          obtain ⟨codec, buffer⟩ := st
          cases item with
          | some i => exact hst
          | none =>
            dsimp only
            split
            · exact hst
            · split <;> exact hst
  cases h with
  | answer hn | read hn _ _ | eof hn _ _ | eofAgain hn _ _ | error hn _ _ =>
    rw [hn] at hnext
    exact hnext

section
variable {decode : CodecM σ ε (Option ι)} {io : String → ε} {remaining : ε} {codec : σ}
  {isReadable : Bool} {read : Bytes}

theorem next_waiting (h : decode.run (codec, []) = .ok none (codec, [])) :
    (waiting codec isReadable).next decode remaining = .inr (waiting codec false) := by
  cases isReadable <;> simp [waiting, next, h]

/-- A reader that waits reads what there is, -/
theorem round_read (h : decode.run (codec, []) = .ok none (codec, [])) {bytes : Bytes}
    (hne : bytes ≠ []) (closed : Bool) :
    Round decode io remaining (waiting codec isReadable) (.flowing read bytes closed) none
      ⟨codec, bytes, true, false, false⟩ (.flowing (read ++ bytes) [] closed) :=
  .read (next_waiting h) hne (Channel.flowing_read read bytes closed)

/-- takes an item off it, -/
theorem round_item {bytes : Bytes} {item : ι} {c : Channel UInt8}
    (h : decode.run (codec, bytes) = .ok (some item) (codec, [])) :
    Round decode io remaining ⟨codec, bytes, true, false, false⟩ c (some (some (.ok item)))
      (waiting codec true) c :=
  .answer (by simp [waiting, next, h])

/-- hears that there is no more, -/
theorem round_eof (h : decode.run (codec, []) = .ok none (codec, [])) :
    Round decode io remaining (waiting codec isReadable) (.flowing read [] true) none
      ⟨codec, [], true, true, false⟩ (.flowing read [] true) :=
  .eof (next_waiting h) rfl (Channel.flowing_eof read)

/-- and answers so. -/
theorem round_end (h : decode.run (codec, []) = .ok none (codec, [])) {c : Channel UInt8} :
    Round decode io remaining ⟨codec, [], true, true, false⟩ c (some none)
      ⟨codec, [], false, true, false⟩ c :=
  .answer (by simp [next, h])

end

end Reader

/-- How an answer looks on a link of messages. -/
def Polled.heard {ε ι V : Type} (val : ι → V) : Polled ε ι → RecvEvent V
  | none => .eof
  | some (.ok i) => .read [val i]
  | some (.error _) => .error

/-! ## Drains of prefixes -/

namespace Decoder.Incremental

variable {σ ε ι : Type} {d : Decoder σ ε ι} {s : σ} {front bytes : Bytes}

theorem fault_of_prefix (hd : d.Incremental) (hle : front <+: bytes)
    (hf : (d.drain s bytes).fault = none) : (d.drain s front).fault = none := by
  obtain ⟨more, rfl⟩ := hle
  rw [hd.drain_append] at hf
  cases hfront : (d.drain s front).fault with
  | none => rfl
  | some f => simp [hfront] at hf

theorem items_of_prefix (hd : d.Incremental) (hle : front <+: bytes) :
    (d.drain s front).items <+: (d.drain s bytes).items := by
  obtain ⟨more, rfl⟩ := hle
  rw [hd.drain_append]
  cases (d.drain s front).fault with
  | none => exact List.prefix_append _ _
  | some f => exact List.prefix_rfl

end Decoder.Incremental

/-! ## A link of messages -/

section
variable {σ ε ι V : Type} (d : Decoder σ ε ι) (val : ι → V) (s₀ : σ)

/-- The reader has answered `items`, and goes on with what is left of the bytes it has read. -/
def Reads (items : List ι) (r : Reader σ) (bytes : Bytes) : Prop :=
  ∀ more, d.drain s₀ (bytes ++ more) =
    { d.drain r.codec (r.buffer ++ more) with
      items := items ++ (d.drain r.codec (r.buffer ++ more)).items }

/-- The byte link and its reader carry the messages of `c`, of which none is late. The link is
`spoiled` once bytes that are no frame went into it: then it counts as broken, and no more frames
follow. -/
structure Carries (spoiled : Bool) (r : Reader σ) (bytes : Channel UInt8) (c : Channel V) :
    Prop where
  clean : (d.drain s₀ bytes.fed).fault = none
  whole : spoiled = false → (d.drain s₀ bytes.fed).codec = s₀ ∧ (d.drain s₀ bytes.fed).buf = []
  fed : c.fed = (d.drain s₀ bytes.fed).items.map val
  written : c.written = (d.drain s₀ bytes.written).items.map val
  read : ∃ items, c.read = items.map val ∧ Reads d s₀ items r bytes.read
  late : bytes.late = [] ∧ c.late = []
  closed : c.closed = bytes.closed
  broken : c.broken = (bytes.broken || spoiled)
  eof : r.eof = true → bytes.broken = true ∨ bytes.closed = true ∧ bytes.read = bytes.fed
  errored : r.hasErrored = true → c.broken = true
  /-- a reader that has to read first has taken off all it could -/
  settled : r.isReadable = false → c.broken = true ∨ d.AtRest r.codec r.buffer

end

section
variable {σ ε ι V : Type} {d : Decoder σ ε ι} {val : ι → V} {s₀ : σ} {spoiled : Bool}
  {r r' : Reader σ} {bytes bytes' : Channel UInt8} {c : Channel V}

theorem carries_empty (hrest : d.AtRest s₀ []) :
    Carries d val s₀ false (Reader.new s₀) .empty .empty where
  clean := by simp [Channel.empty, hrest.drain]
  whole := by simp [Channel.empty, hrest.drain]
  fed := by simp [Channel.empty, hrest.drain]
  written := by simp [Channel.empty, hrest.drain]
  read := ⟨[], rfl, fun more => by simp [Channel.empty, Reader.new]⟩
  late := ⟨rfl, rfl⟩
  closed := rfl
  broken := rfl
  eof := by simp [Reader.new]
  errored := by simp [Reader.new]
  settled _ := .inr hrest

namespace Carries

theorem broken_of_bytes (h : Carries d val s₀ spoiled r bytes c) (hb : bytes.broken = true) :
    c.broken = true := by
  rw [h.broken, hb, Bool.true_or]

/-! ## What is sent -/

/-- **A step of the sender**, where the frames after it are those of the messages after it. -/
theorem sends (hd : d.Incremental) (h : Carries d val s₀ spoiled r bytes c) {e : SendEvent UInt8}
    {e' : SendEvent V} (hs : bytes.Send e bytes')
    (hclean : (d.drain s₀ bytes'.fed).fault = none)
    (hwhole : spoiled = false →
      (d.drain s₀ bytes'.fed).codec = s₀ ∧ (d.drain s₀ bytes'.fed).buf = [])
    (hfed : (d.drain s₀ bytes'.fed).items.map val = c.fed ++ e'.fed)
    (hclose : e' = .close true ↔ e = .close true)
    (hopen : bytes.closed = false ∨ e.fed = [] ∧ e'.fed = [])
    (hflush : e' = .flush true → e = .flush true) (hsound : e'.failed = true → c.broken = true) :
    ∃ c', c.Send e' c' ∧ Carries d val s₀ spoiled r bytes' c' := by
  have hwritten : c.written <+: (d.drain s₀ bytes'.written).items.map val := by
    rw [h.written]
    exact (hd.items_of_prefix hs.written).map val
  let c' : Channel V := {
    fed := (d.drain s₀ bytes'.fed).items.map val
    written := (d.drain s₀ bytes'.written).items.map val
    read := c.read
    late := []
    closed := bytes'.closed
    broken := c.broken
    written_fed := (hd.items_of_prefix bytes'.written_fed).map val
    read_written := c.read_written.trans hwritten
    closed_written := fun hc => by rw [bytes'.closed_written hc]
    late_closed := fun _ => rfl }
  have hc : c.closed = true → e.fed = [] ∧ e'.fed = [] := by
    intro hc
    rw [h.closed] at hc
    exact hopen.resolve_left (by rw [hc]; simp)
  have hbytes : bytes'.late = [] := by
    rw [hs.late, h.late.1]
    split
    · next hclosed => rw [(hc (h.closed.trans hclosed)).1, List.append_nil]
    · rfl
  refine ⟨c', ?_, ?_⟩
  · exact {
      fed := by
        rw [show c'.fed = _ from hfed]
        split
        · next hclosed => rw [(hc hclosed).2, List.append_nil]
        · rfl
      late := by
        rw [h.late.2]
        split
        · next hclosed => rw [(hc hclosed).2]; rfl
        · rfl
      written := hwritten
      read := rfl
      broken := rfl
      closed := by rw [show c'.closed = bytes'.closed from rfl, hs.closed, h.closed, hclose]
      flushed := fun he => by
        rw [show c'.written = (d.drain s₀ bytes'.written).items.map val from rfl,
          hs.flushed (hflush he)]
      sound := fun hf => .inl (hsound hf) }
  · exact {
      clean := hclean
      whole := hwhole
      fed := rfl
      written := rfl
      read := by rw [hs.read]; exact h.read
      late := ⟨hbytes, rfl⟩
      closed := rfl
      broken := by rw [hs.broken]; exact h.broken
      eof := fun hr => (h.eof hr).imp (fun hb => hs.broken.trans hb) fun ⟨hc, hall⟩ =>
        ⟨hs.closed.2 (.inl hc), by rw [hs.read, hall, hs.fed_of_closed hc]⟩
      errored := h.errored
      settled := h.settled }

/-- A step that feeds nothing. -/
theorem sends_nothing (hd : d.Incremental) (h : Carries d val s₀ spoiled r bytes c)
    {e : SendEvent UInt8} {e' : SendEvent V} (hs : bytes.Send e bytes') (he : e.fed = [])
    (he' : e'.fed = []) (hclose : e' = .close true ↔ e = .close true)
    (hflush : e' = .flush true → e = .flush true)
    (hfailed : e'.failed = e.failed) :
    ∃ c', c.Send e' c' ∧ Carries d val s₀ spoiled r bytes' c' := by
  have hfed : bytes'.fed = bytes.fed := (hs.fed_of_nil he).1
  apply h.sends hd hs
  · rw [hfed]
    exact h.clean
  · rw [hfed]
    exact h.whole
  · rw [hfed, he', List.append_nil, h.fed]
  · exact hclose
  · exact .inr ⟨he, he'⟩
  · exact hflush
  · intro hf
    have hsound := hs.sound (hfailed ▸ hf)
    exact h.broken_of_bytes (hsound.resolve_right fun hlate => hlate h.late.1)

theorem flush (hd : d.Incremental) (h : Carries d val s₀ spoiled r bytes c) {ok : Bool}
    (hs : bytes.Send (.flush ok) bytes') :
    ∃ c', c.Send (.flush ok) c' ∧ Carries d val s₀ spoiled r bytes' c' := by
  apply h.sends_nothing hd hs <;> simp [SendEvent.fed, SendEvent.failed]

theorem close (hd : d.Incremental) (h : Carries d val s₀ spoiled r bytes c) {ok : Bool}
    (hs : bytes.Send (.close ok) bytes') :
    ∃ c', c.Send (.close ok) c' ∧ Carries d val s₀ spoiled r bytes' c' := by
  apply h.sends_nothing hd hs <;> simp [SendEvent.fed, SendEvent.failed]

/-- A message that is not fed, since the byte link has failed. -/
theorem fails (hd : d.Incremental) (h : Carries d val s₀ spoiled r bytes c) {xs : Bytes}
    (hs : bytes.Send (.feed xs false) bytes') (vs : List V) :
    ∃ c', c.Send (.feed vs false) c' ∧ Carries d val s₀ spoiled r bytes' c' := by
  apply h.sends_nothing hd hs <;> simp [SendEvent.fed, SendEvent.failed]

/-- **A frame is a message.** -/
theorem feed (hd : d.Incremental) (h : Carries d val s₀ false r bytes c) {frame : Bytes} {i : ι}
    (hframe : d.drain s₀ frame = ⟨[i], none, s₀, []⟩) (hopen : bytes.closed = false)
    (hs : bytes.Send (.feed frame true) bytes') :
    ∃ c', c.Send (.feed [val i] true) c' ∧ Carries d val s₀ false r bytes' c' := by
  obtain ⟨hcodec, hbuf⟩ := h.whole rfl
  have hdrain : d.drain s₀ bytes'.fed =
      ⟨(d.drain s₀ bytes.fed).items ++ [i], none, s₀, []⟩ := by
    rw [hs.fed_of_open hopen, SendEvent.fed, hd.drain_append, h.clean, hcodec, hbuf,
      List.nil_append, hframe]
  apply h.sends hd hs
  · rw [hdrain]
  · rw [hdrain]
    exact fun _ => ⟨rfl, rfl⟩
  · rw [hdrain, h.fed, List.map_append]
    rfl
  · simp
  · exact .inl hopen
  · simp
  · simp [SendEvent.failed]

/-! ## What breaks -/

/-- The byte link fails, or is given up: the link of messages fails. -/
theorem breaks (h : Carries d val s₀ spoiled r bytes c) {c' : Channel V} (hc : c.Break c')
    {spoiled' : Bool} (hbroken : (bytes.broken || spoiled') = true)
    (hwhole : spoiled' = false → spoiled = false) : Carries d val s₀ spoiled' r bytes c' where
  clean := h.clean
  whole := fun hs => h.whole (hwhole hs)
  fed := hc.fed.trans h.fed
  written := hc.written.trans h.written
  read := by rw [hc.read]; exact h.read
  late := ⟨h.late.1, hc.late.trans h.late.2⟩
  closed := hc.closed.trans h.closed
  broken := by rw [hc.broken, hbroken]
  eof := h.eof
  errored _ := hc.broken
  settled _ := .inl hc.broken

theorem «break» (h : Carries d val s₀ spoiled r bytes c) (hb : bytes.Break bytes') :
    ∃ c', c.Break c' ∧ Carries d val s₀ spoiled r bytes' c' := by
  obtain ⟨c', hc⟩ := Channel.exists_break c
  refine ⟨c', hc, ?_⟩
  exact {
    clean := by rw [hb.fed]; exact h.clean
    whole := by rw [hb.fed]; exact h.whole
    fed := by rw [hb.fed, hc.fed, h.fed]
    written := by rw [hb.written, hc.written, h.written]
    read := by rw [hb.read, hc.read]; exact h.read
    late := ⟨hb.late.trans h.late.1, hc.late.trans h.late.2⟩
    closed := by rw [hb.closed, hc.closed, h.closed]
    broken := by rw [hb.broken, hc.broken, Bool.true_or]
    eof := fun _ => .inl hb.broken
    errored := fun _ => hc.broken
    settled := fun _ => .inl hc.broken }

/-- **What is fed and is no frame spoils the link**: the link of messages fails, and the message is
not fed. -/
theorem spoil (hd : d.Incremental) (h : Carries d val s₀ false r bytes c) {stray : Bytes}
    (hclean : (d.drain s₀ stray).fault = none) (hitems : (d.drain s₀ stray).items = [])
    (hopen : bytes.closed = false) (hs : bytes.Send (.feed stray true) bytes') (vs : List V) :
    ∃ c₁ c', c.Break c₁ ∧ c₁.Send (.feed vs false) c' ∧ Carries d val s₀ true r bytes' c' := by
  obtain ⟨hcodec, hbuf⟩ := h.whole rfl
  have hdrain : (d.drain s₀ bytes'.fed).fault = none ∧
      (d.drain s₀ bytes'.fed).items = (d.drain s₀ bytes.fed).items := by
    rw [hs.fed_of_open hopen, SendEvent.fed, hd.drain_append, h.clean, hcodec, hbuf,
      List.nil_append]
    exact ⟨hclean, by simp [hitems]⟩
  obtain ⟨c₁, hc₁⟩ := Channel.exists_break c
  have h₁ : Carries d val s₀ true r bytes c₁ := h.breaks hc₁ (by simp) (by simp)
  obtain ⟨c', hsend, hc'⟩ :
      ∃ c', c₁.Send (.feed vs false) c' ∧ Carries d val s₀ true r bytes' c' := by
    apply h₁.sends hd hs hdrain.1
    · simp
    · rw [hdrain.2, ← h₁.fed]
      exact (List.append_nil _).symm
    · simp
    · exact .inl hopen
    · simp
    · exact fun _ => hc₁.broken
  exact ⟨c₁, c', hc₁, hsend, hc'⟩

/-! ## What is read -/

/-- The reader has not come to a fault. -/
theorem decode_clean (hd : d.Incremental) (h : Carries d val s₀ spoiled r bytes c) {f : Fault ε}
    {st : σ × Bytes} : d.decode.run (r.codec, r.buffer) ≠ .error f st := by
  intro hdec
  obtain ⟨items, -, hreads⟩ := h.read
  have hf := hd.fault_of_prefix bytes.read_fed h.clean
  have hdrain := hreads []
  rw [List.append_nil, List.append_nil, Decoder.drain_error hdec] at hdrain
  rw [hdrain] at hf
  cases hf

end Carries

/-- A call that asks for more leaves what is read as it was. -/
theorem Reads.none (hd : d.Incremental) {items : List ι} {bs buffer : Bytes} {codec : σ}
    (h : Reads d s₀ items r bs) (hdec : d.decode.run (r.codec, r.buffer) = .ok none (codec, buffer))
    {r' : Reader σ} (hcodec : r'.codec = codec) (hbuffer : r'.buffer = buffer) :
    Reads d s₀ items r' bs := by
  intro more
  rw [h more, hcodec, hbuffer, Decoder.drain_congr (hd.more_none hdec more)]

theorem Reads.some (hd : d.Incremental) {items : List ι} {bs buffer : Bytes} {codec : σ} {i : ι}
    (h : Reads d s₀ items r bs)
    (hdec : d.decode.run (r.codec, r.buffer) = .ok (some i) (codec, buffer)) {r' : Reader σ}
    (hcodec : r'.codec = codec) (hbuffer : r'.buffer = buffer) :
    Reads d s₀ (items ++ [i]) r' bs := by
  intro more
  rw [h more, hcodec, hbuffer, Decoder.drain_some (hd.more_some hdec more)]
  simp

theorem Reads.drain {items : List ι} {bs : Bytes} (h : Reads d s₀ items r bs) :
    d.drain s₀ bs = { d.drain r.codec r.buffer with
      items := items ++ (d.drain r.codec r.buffer).items } := by
  simpa using h []

namespace Carries

/-- The reader takes an item off. -/
theorem take (hd : d.Incremental) (h : Carries d val s₀ spoiled r bytes c) {i : ι} {codec : σ}
    {buffer : Bytes} (hdec : d.decode.run (r.codec, r.buffer) = .ok (some i) (codec, buffer))
    {r' : Reader σ} (hr : r' = { r with codec, buffer }) (hreadable : r.isReadable = true) :
    ∃ c', c.Recv (.read [val i]) c' ∧ Carries d val s₀ spoiled r' bytes c' := by
  subst hr
  obtain ⟨items, hread, hreads⟩ := h.read
  have hreads' : Reads d s₀ (items ++ [i]) { r with codec, buffer } bytes.read :=
    hreads.some hd hdec rfl rfl
  have hle : c.read ++ [val i] <+: c.written := by
    have hfront : items ++ [i] <+: (d.drain s₀ bytes.read).items := by
      rw [hreads'.drain]
      exact List.prefix_append _ _
    have hall := (hfront.trans (hd.items_of_prefix bytes.read_written)).map val
    rw [h.written, hread]
    simpa using hall
  obtain ⟨c', hc'⟩ := Channel.exists_read hle
  refine ⟨c', hc', ?_⟩
  exact {
    clean := h.clean
    whole := h.whole
    fed := hc'.fed.trans h.fed
    written := hc'.written.trans h.written
    read := ⟨items ++ [i], by simp [hc'.read, RecvEvent.taken, hread], hreads'⟩
    late := ⟨h.late.1, hc'.late.trans h.late.2⟩
    closed := hc'.closed.trans h.closed
    broken := hc'.broken.trans h.broken
    eof := h.eof
    errored := fun he => hc'.broken.trans (h.errored he)
    settled := fun hn => by
      rw [show r.isReadable = false from hn] at hreadable
      cases hreadable }

/-- The reader of a link of which all is read, and nothing can be taken off. -/
theorem all_read (h : Carries d val s₀ spoiled r bytes c) (hall : bytes.read = bytes.fed)
    {codec : σ} {buffer : Bytes}
    (hdec : d.decode.run (r.codec, r.buffer) = .ok none (codec, buffer)) :
    c.read = c.fed ∧ (spoiled = false → buffer = []) := by
  obtain ⟨items, hread, hreads⟩ := h.read
  have hdrain : d.drain s₀ bytes.fed = ⟨items, none, codec, buffer⟩ := by
    rw [← hall, hreads.drain, Decoder.drain_none hdec]
    simp
  refine ⟨by rw [hread, h.fed, hdrain], fun hs => ?_⟩
  have hwhole := (h.whole hs).2
  rwa [hdrain] at hwhole

/-- **An answer without a read.** -/
theorem answer (hd : d.Incremental) (h : Carries d val s₀ spoiled r bytes c) {remaining : ε}
    {p : Polled ε ι} (hn : r.next d.decode remaining = .inl (p, r')) :
    ∃ c', c.Recv (p.heard val) c' ∧ Carries d val s₀ spoiled r' bytes c' := by
  unfold Reader.next at hn
  split at hn
  · next herr =>
    -- the error before this is what ends the stream
    cases hn
    refine ⟨c, Channel.recv_eof (.inl (h.errored herr)), ?_⟩
    exact { h with
      errored := by simp
      settled := fun _ => .inl (h.errored herr) }
  · next herr =>
    split at hn
    · cases hn
    · next hreadable =>
      simp only [Bool.not_eq_true, Bool.not_eq_false'] at hreadable
      split at hn
      · next i codec buffer hdec =>
        cases hn
        exact h.take hd hdec rfl hreadable
      · next f codec buffer hdec => exact (h.decode_clean hd hdec).elim
      · next codec buffer hdec =>
        obtain ⟨items, hread, hreads⟩ := h.read
        split at hn
        · cases hn
        · next heof =>
          simp only [Bool.not_eq_true, Bool.not_eq_false'] at heof
          split at hn
          · next hempty =>
            cases hn
            refine ⟨c, Channel.recv_eof ((h.eof heof).imp h.broken_of_bytes fun ⟨hc, hall⟩ =>
              ⟨h.closed.trans hc, (h.all_read hall hdec).1⟩), ?_⟩
            exact { h with
              read := ⟨items, hread, hreads.none hd hdec rfl rfl⟩
              settled := fun _ => .inr (hd.atRest hdec) }
          · next hbytes =>
            cases hn
            have hbroken : c.broken = true := by
              rcases h.eof heof with hb | ⟨-, hall⟩
              · exact h.broken_of_bytes hb
              · cases hs : spoiled with
                | true => rw [h.broken, hs, Bool.or_true]
                | false =>
                  rw [(h.all_read hall hdec).2 hs] at hbytes
                  simp at hbytes
            refine ⟨c, Channel.recv_error hbroken, ?_⟩
            exact { h with
              read := ⟨items, hread, hreads.none hd hdec rfl rfl⟩
              errored := fun _ => hbroken
              settled := fun _ => .inl hbroken }

/-- A reader that has to read first. -/
theorem waits (hd : d.Incremental) (h : Carries d val s₀ spoiled r bytes c) {remaining : ε}
    (hn : r.next d.decode remaining = .inr r') :
    Carries d val s₀ spoiled r' bytes c ∧ r'.isReadable = false ∧ r'.hasErrored = false := by
  unfold Reader.next at hn
  split at hn
  · cases hn
  · next herr =>
    simp only [Bool.not_eq_true] at herr
    split at hn
    · next hreadable =>
      cases hn
      exact ⟨h, by simpa using hreadable, herr⟩
    · split at hn
      · cases hn
      · cases hn
      · next codec buffer hdec =>
        obtain ⟨items, hread, hreads⟩ := h.read
        split at hn
        · cases hn
          refine ⟨?_, rfl, herr⟩
          exact { h with
            read := ⟨items, hread, hreads.none hd hdec rfl rfl⟩
            settled := fun _ => .inr (hd.atRest hdec) }
        · split at hn <;> cases hn

/-- The byte link has been read, and nothing is answered yet. -/
theorem received (h : Carries d val s₀ spoiled r bytes c) {e : RecvEvent UInt8}
    (hr : bytes.Recv e bytes') (hcodec : r'.codec = r.codec)
    (hbuffer : r'.buffer = r.buffer ++ e.taken)
    (heof : r'.eof = true → bytes'.broken = true ∨ bytes'.closed = true ∧ bytes'.read = bytes'.fed)
    (herr : r'.hasErrored = true → c.broken = true)
    (hsettled : r'.isReadable = false → c.broken = true ∨ d.AtRest r'.codec r'.buffer) :
    Carries d val s₀ spoiled r' bytes' c where
  clean := by rw [hr.fed]; exact h.clean
  whole := by rw [hr.fed]; exact h.whole
  fed := by rw [hr.fed]; exact h.fed
  written := by rw [hr.written]; exact h.written
  read := by
    obtain ⟨items, hread, hreads⟩ := h.read
    refine ⟨items, hread, fun more => ?_⟩
    rw [hr.read, List.append_assoc, hreads (e.taken ++ more), hcodec, hbuffer, List.append_assoc]
  late := ⟨hr.late.trans h.late.1, h.late.2⟩
  closed := h.closed.trans hr.closed.symm
  broken := by rw [hr.broken]; exact h.broken
  eof := heof
  errored := herr
  settled := hsettled

/-- The end of the byte link is that of the messages, if nothing can be taken off any more. -/
theorem ended (h : Carries d val s₀ spoiled r bytes c)
    (hend : bytes.broken = true ∨ bytes.closed = true ∧ bytes.read = bytes.fed)
    (hsettled : c.broken = true ∨ d.AtRest r.codec r.buffer) :
    c.broken = true ∨ c.closed = true ∧ c.read = c.fed := by
  rcases hend with hb | ⟨hclosed, hall⟩
  · exact .inl (h.broken_of_bytes hb)
  · rcases hsettled with hb | hrest
    · exact .inl hb
    · exact .inr ⟨h.closed.trans hclosed, (h.all_read hall hrest).1⟩

/-- **One round of the reader** is an event of the link of messages where it answers, and none where
it goes on. -/
theorem round (hd : d.Incremental) (h : Carries d val s₀ spoiled r bytes c) {io : String → ε}
    {remaining : ε} {p : Option (Polled ε ι)}
    (hround : Reader.Round d.decode io remaining r bytes p r' bytes') :
    match p with
    | none => Carries d val s₀ spoiled r' bytes' c
    | some p => ∃ c', c.Recv (p.heard val) c' ∧ Carries d val s₀ spoiled r' bytes' c' := by
  cases hround with
  | answer hn => exact h.answer hd hn
  | read hn hne hr =>
    obtain ⟨hw, -, herr⟩ := h.waits hd hn
    refine hw.received hr rfl rfl (fun he => by cases he) (fun he => ?_) fun he => by cases he
    rw [show _ = true from he] at herr
    cases herr
  | eof hn heof hr =>
    obtain ⟨hw, -, herr⟩ := h.waits hd hn
    refine hw.received hr rfl (List.append_nil _).symm (fun _ => hr.eof_after rfl) (fun he => ?_)
      fun he => by cases he
    rw [show _ = true from he] at herr
    cases herr
  | eofAgain hn heof hr =>
    obtain ⟨hw, hreadable, -⟩ := h.waits hd hn
    have hsettled := hw.settled hreadable
    refine ⟨c, Channel.recv_eof (hw.ended (hr.eof rfl) hsettled), ?_⟩
    exact hw.received hr rfl (List.append_nil _).symm (fun _ => hr.eof_after rfl) hw.errored
      fun _ => hsettled
  | error hn e hr =>
    obtain ⟨hw, -, -⟩ := h.waits hd hn
    have hbroken : c.broken = true := h.broken_of_bytes (hr.sound rfl)
    refine ⟨c, Channel.recv_error hbroken, ?_⟩
    refine hw.received hr rfl (List.append_nil _).symm (fun _ => .inl ?_) (fun _ => hbroken)
      fun _ => .inl hbroken
    exact hr.broken.trans (hr.sound rfl)

/-- The reader does not panic. -/
theorem round_ne_panic (hd : d.Incremental) (h : Carries d val s₀ spoiled r bytes c)
    {io : String → ε} {remaining : ε} {p : Polled ε ι}
    (hround : Reader.Round d.decode io remaining r bytes (some p) r' bytes') (what : String) :
    p ≠ some (.error (.panic what)) := by
  cases hround with
  | answer hn =>
    unfold Reader.next at hn
    split at hn
    · cases hn
      simp
    · split at hn
      · cases hn
      · split at hn
        · cases hn
          simp
        · next f codec buffer hdec => exact (h.decode_clean hd hdec).elim
        · split at hn
          · cases hn
          · split at hn <;> cases hn <;> simp
  | eofAgain _ _ _ => simp
  | error _ e _ => simp

/-- **The reader is not stuck**: where the link of messages has not failed and has something to
hear, there is a next round. -/
theorem exists_round (hd : d.Incremental) (h : Carries d val s₀ spoiled r bytes c)
    (hbroken : c.broken = false) {e : RecvEvent V} {c' : Channel V} (he : e ≠ .read [])
    (hc : c.Recv e c') (io : String → ε) (remaining : ε) :
    ∃ p r' bytes', Reader.Round d.decode io remaining r bytes p r' bytes' := by
  cases hn : r.next d.decode remaining with
  | inl a => exact ⟨_, _, _, .answer hn⟩
  | inr r' =>
    obtain ⟨hw, hreadable, -⟩ := h.waits hd hn
    obtain ⟨rest, hrest⟩ := bytes.read_written
    cases rest with
    | cons b rest =>
      -- there are bytes to read
      have hle : bytes.read ++ [b] <+: bytes.written := ⟨rest, by rw [← hrest]; simp⟩
      obtain ⟨bytes', hr⟩ := Channel.exists_read hle
      exact ⟨_, _, _, .read hn (List.cons_ne_nil b []) hr⟩
    | nil =>
      -- all that is written is read, and taken off: only the end is left
      rw [List.append_nil] at hrest
      have hatRest : d.AtRest r'.codec r'.buffer := by
        rcases hw.settled hreadable with hb | hatRest
        · rw [hbroken] at hb
          cases hb
        · exact hatRest
      have hall : c.read = c.written := by
        obtain ⟨items, hread, hreads⟩ := hw.read
        rw [hread, h.written, ← hrest, hreads.drain, hatRest.drain]
        simp
      have heof : bytes.closed = true := by
        cases e with
        | read xs =>
          have hlen := c'.read_written.length_le
          rw [hc.read, hc.written, ← hall, List.length_append, RecvEvent.taken] at hlen
          have hxs : xs = [] := List.eq_nil_of_length_eq_zero (by omega)
          exact (he (congrArg _ hxs)).elim
        | eof =>
          rcases hc.eof rfl with hb | ⟨hclosed, -⟩
          · rw [hbroken] at hb
            cases hb
          · rwa [h.closed] at hclosed
        | error =>
          have := hc.sound rfl
          rw [hbroken] at this
          cases this
      have hr : bytes.Recv .eof bytes :=
        Channel.recv_eof (.inr ⟨heof, hrest.trans (bytes.closed_written heof)⟩)
      cases heof' : r'.eof with
      | false => exact ⟨_, _, _, .eof hn heof' hr⟩
      | true => exact ⟨_, _, _, .eofAgain hn heof' hr⟩

end Carries

end

end Framed
