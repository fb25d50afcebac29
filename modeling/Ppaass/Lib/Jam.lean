import Ppaass.Lib.FramedLink

/-!
# A byte link from which nothing can be taken

Where the first bytes that are fed to a link make the decoder of its reader fail, no item comes out
of it, whatever is fed afterwards. `Jams` says so of the link; `Unread` of a reader that has
answered nothing yet. A round of such a reader answers no item (`Jams.round`).
-/

namespace Framed

open Wire

section
variable {σ ε ι : Type} (d : Decoder σ ε ι) (s₀ : σ)

/-- There is no item among the bytes that are fed, and there will be none: the decoder has failed,
or the sender has, which is `stuck`. -/
structure Jams (stuck : Prop) (bytes : Channel UInt8) : Prop where
  items : (d.drain s₀ bytes.fed).items = []
  jammed : bytes.fed = [] ∨ (d.drain s₀ bytes.fed).fault ≠ none ∨ stuck

/-- The reader has answered nothing, and goes on with what is left of the bytes it has read. -/
abbrev Unread (r : Reader σ) (bytes : Channel UInt8) : Prop := Reads d s₀ [] r bytes.read

end

section
variable {σ ε ι : Type} {d : Decoder σ ε ι} {s₀ : σ} {stuck stuck' : Prop} {r r' : Reader σ}
  {bytes bytes' : Channel UInt8}

theorem jams_empty (hrest : d.AtRest s₀ []) : Jams d s₀ stuck .empty where
  items := by simp [Channel.empty, hrest.drain]
  jammed := .inl rfl

theorem unread_new : Unread d s₀ (Reader.new s₀) .empty := by
  intro more
  simp [Channel.empty, Reader.new]

namespace Jams

theorem mono (h : Jams d s₀ stuck bytes) (hle : stuck → stuck') : Jams d s₀ stuck' bytes :=
  ⟨h.items, h.jammed.imp_right (Or.imp_right hle)⟩

theorem of_fed (h : Jams d s₀ stuck bytes) (hfed : bytes'.fed = bytes.fed) :
    Jams d s₀ stuck bytes' := by
  constructor <;> rw [hfed]
  · exact h.items
  · exact h.jammed

/-- **What is fed to a jammed link stays in it**, if what comes first jams it. -/
theorem feed (hd : d.Incremental) (h : Jams d s₀ stuck bytes) (hstuck : ¬ stuck) {xs : Bytes}
    (hitems : (d.drain s₀ xs).items = []) (hjam : (d.drain s₀ xs).fault ≠ none ∨ stuck')
    (hs : bytes.Send (.feed xs true) bytes') : Jams d s₀ stuck' bytes' := by
  cases hclosed : bytes.closed with
  | true => exact (h.mono fun hs => (hstuck hs).elim).of_fed (hs.fed_of_closed hclosed)
  | false =>
  have hfed : bytes'.fed = bytes.fed ++ xs := hs.fed_of_open hclosed
  rcases h.jammed with hnil | hfault | hs
  · rw [hnil, List.nil_append] at hfed
    constructor <;> rw [hfed]
    · exact hitems
    · exact .inr hjam
  · -- the decoder stops before it comes to what is new
    obtain ⟨f, hf⟩ := Option.ne_none_iff_exists'.1 hfault
    have hdrain : d.drain s₀ bytes'.fed =
        { d.drain s₀ bytes.fed with buf := (d.drain s₀ bytes.fed).buf ++ xs } := by
      rw [hfed, hd.drain_append, hf]
    constructor <;> rw [hdrain]
    · exact h.items
    · exact .inr (.inl hfault)
  · exact (hstuck hs).elim

/-- A reader of a jammed link comes to no item. -/
theorem decode_ne_some (hd : d.Incremental) (h : Jams d s₀ stuck bytes) (hr : Unread d s₀ r bytes)
    {i : ι} {st : σ × Bytes} : d.decode.run (r.codec, r.buffer) ≠ .ok (some i) st := by
  intro hdec
  obtain ⟨codec, buffer⟩ := st
  have hle := hd.items_of_prefix (s := s₀) bytes.read_fed
  rw [h.items, hr.drain, Decoder.drain_some hdec] at hle
  have := hle.length_le
  simp at this

/-- **A round of the reader answers no item**; where it goes on the link is as it was. -/
theorem round (hd : d.Incremental) (h : Jams d s₀ stuck bytes) (hr : Unread d s₀ r bytes)
    {io : String → ε} {remaining : ε} {p : Option (Polled ε ι)}
    (hround : Reader.Round d.decode io remaining r bytes p r' bytes') :
    bytes'.fed = bytes.fed ∧
      match p with
      | none => Unread d s₀ r' bytes'
      | some p => ∀ i, p ≠ some (.ok i) := by
  have hwaits : ∀ {r₁}, r.next d.decode remaining = .inr r₁ → Unread d s₀ r₁ bytes := by
    intro r₁ hn
    unfold Reader.next at hn
    split at hn
    · cases hn
    · split at hn
      · cases hn
        exact hr
      · split at hn
        · cases hn
        · cases hn
        · next codec buffer hdec =>
          split at hn
          · cases hn
            exact hr.none hd hdec rfl rfl
          · split at hn <;> cases hn
  cases hround with
  | answer hn =>
    refine ⟨rfl, fun i hi => ?_⟩
    subst hi
    unfold Reader.next at hn
    split at hn
    · cases hn
    · split at hn
      · cases hn
      · split at hn
        · next hdec => exact h.decode_ne_some hd hr hdec
        · cases hn
        · split at hn
          · cases hn
          · split at hn <;> cases hn
  | read hn _ hrecv =>
    refine ⟨hrecv.fed, fun more => ?_⟩
    rw [hrecv.read, RecvEvent.taken, List.append_assoc, hwaits hn, List.append_assoc]
  | eof hn _ hrecv =>
    have hread : bytes'.read = bytes.read := hrecv.read.trans (List.append_nil _)
    refine ⟨hrecv.fed, fun more => ?_⟩
    rw [hread, hwaits hn]
  | eofAgain _ _ hrecv => exact ⟨hrecv.fed, fun i hi => by cases hi⟩
  | error _ _ hrecv => exact ⟨hrecv.fed, fun i hi => by cases hi⟩

end Jams

end

end Framed
