import Mathlib.Data.List.Induction
import Ppaass.Lib.Bytes

/-!
# Framed streams

A codec is a state and two operations on it: `decode` takes at most one message off the front of a
read buffer, `encode` appends one to a write buffer (`CodecM`, which keeps the state and the buffer
on an error too). A stream reader appends what a read returned to the buffer and calls `decode`
until it asks for more (`Decoder.drain`, `Decoder.readLoop`).

* `Decoder` carries the proof that a call which returns a message comes closer to the end of the
  buffer, so that `drain` is total.
* `Decoder.Incremental`: `decode` commutes with appending bytes to the buffer. From it, how the
  input was cut into reads is not observable (`readLoop_eq_drain`, `stream_eq`).
* `pollReads`: the calls up to the first item. `TakesOff`: the item does not depend on the cut.
* `Conn.run`: reads, single `decode` calls and `encode` calls on one codec in any order. When
  `encode` leaves the codec as it was, a run at rest has read what `drain` reads (`Conn.run_eq`).
-/

namespace Framed

open Wire

/-- Why a call does not return `Ok`: it returns `Err`, or it panics. -/
inductive Fault (ε : Type) where
  | err (e : ε)
  | panic (what : String)
  deriving DecidableEq, Repr

/-- A codec operation: it works on the codec's state `σ` and a buffer, and keeps both on a fault. -/
abbrev CodecM (σ ε α : Type) := EStateM (Fault ε) (σ × Bytes) α

/-! ## Buffer operations -/

section
variable {σ ε : Type}

def remaining : CodecM σ ε Nat := do return (← get).2.length

/-- The first `n` bytes, taken off the buffer; it panics on a shorter one. -/
def splitTo (n : Nat) : CodecM σ ε Bytes := do
  let (s, buf) ← get
  if n ≤ buf.length then
    set (s, buf.drop n)
    return buf.take n
  else throw (.panic "split_to out of bounds")

/-- An unsigned big-endian integer of `k` bytes; it panics on a shorter buffer. -/
def getUInt (k : Nat) : CodecM σ ε Nat := do return ofBe (← splitTo k)

def getU8 : CodecM σ ε UInt8 := do return UInt8.ofNat (← getUInt 1)

def getU16 : CodecM σ ε UInt16 := do return UInt16.ofNat (← getUInt 2)

def getU64 : CodecM σ ε UInt64 := do return UInt64.ofNat (← getUInt 8)

def put (bs : Bytes) : CodecM σ ε Unit := modify fun (s, buf) => (s, buf ++ bs)

def putU8 (b : UInt8) : CodecM σ ε Unit := put [b]

def putU16 (n : UInt16) : CodecM σ ε Unit := put (beBytes 2 n.toNat)

def putU64 (n : UInt64) : CodecM σ ε Unit := put (beBytes 8 n.toNat)

def codec : CodecM σ ε σ := do return (← get).1

def setCodec (s : σ) : CodecM σ ε Unit := modify fun (_, buf) => (s, buf)

/-- The `?` operator on a `Result`: its error becomes `f` of it. -/
def orThrow {δ α : Type} (f : δ → ε) : Except δ α → CodecM σ ε α
  | .ok a => pure a
  | .error e => throw (.err (f e))

variable (s s' : σ) (buf : Bytes)

@[simp] theorem run_map {α β : Type} (f : α → β) (x : CodecM σ ε α) (st : σ × Bytes) :
    (f <$> x).run st = match x.run st with
      | .ok a st' => .ok (f a) st'
      | .error e st' => .error e st' := by
  rw [← bind_pure_comp, EStateM.run_bind]
  cases x.run st <;> rfl

/-- A fault is the fault of the whole. -/
theorem run_bind_error {α β : Type} {x : CodecM σ ε α} {f : α → CodecM σ ε β} {e : Fault ε}
    {st st' : σ × Bytes} (h : x.run st = .error e st') : (x >>= f).run st = .error e st' := by
  rw [EStateM.run_bind, h]

@[simp] theorem run_throw {α : Type} (f : Fault ε) (st : σ × Bytes) :
    (throw f : CodecM σ ε α).run st = .error f st := rfl

@[simp] theorem run_remaining :
    (remaining : CodecM σ ε Nat).run (s, buf) = .ok buf.length (s, buf) := rfl

@[simp] theorem run_codec : (codec : CodecM σ ε σ).run (s, buf) = .ok s (s, buf) := rfl

@[simp] theorem run_setCodec :
    (setCodec s' : CodecM σ ε Unit).run (s, buf) = .ok () (s', buf) := rfl

@[simp] theorem run_put (bs : Bytes) :
    (put bs : CodecM σ ε Unit).run (s, buf) = .ok () (s, buf ++ bs) := rfl

@[simp] theorem run_putU8 (b : UInt8) :
    (putU8 b : CodecM σ ε Unit).run (s, buf) = .ok () (s, buf ++ [b]) := rfl

@[simp] theorem run_putU16 (n : UInt16) :
    (putU16 n : CodecM σ ε Unit).run (s, buf) = .ok () (s, buf ++ beBytes 2 n.toNat) := rfl

@[simp] theorem run_putU64 (n : UInt64) :
    (putU64 n : CodecM σ ε Unit).run (s, buf) = .ok () (s, buf ++ beBytes 8 n.toNat) := rfl

@[simp] theorem run_orThrow_ok {δ α : Type} (f : δ → ε) (a : α) :
    (orThrow f (.ok a) : CodecM σ ε α).run (s, buf) = .ok a (s, buf) := rfl

@[simp] theorem run_orThrow_error {δ α : Type} (f : δ → ε) (e : δ) :
    (orThrow f (.error e) : CodecM σ ε α).run (s, buf) = .error (.err (f e)) (s, buf) := rfl

variable {buf}

theorem run_splitTo {n : Nat} (h : n ≤ buf.length) :
    (splitTo n : CodecM σ ε Bytes).run (s, buf) = .ok (buf.take n) (s, buf.drop n) := by
  simp [splitTo, h]

theorem run_getUInt {k : Nat} (h : k ≤ buf.length) :
    (getUInt k : CodecM σ ε Nat).run (s, buf) = .ok (ofBe (buf.take k)) (s, buf.drop k) := by
  simp [getUInt, run_splitTo s h]

@[simp] theorem run_getU8 (b : UInt8) :
    (getU8 : CodecM σ ε UInt8).run (s, b :: buf) = .ok b (s, buf) := by
  simp [getU8, run_getUInt, ofBe, ofLe]

theorem run_getU16 (h : 2 ≤ buf.length) :
    (getU16 : CodecM σ ε UInt16).run (s, buf) =
      .ok (UInt16.ofNat (ofBe (buf.take 2))) (s, buf.drop 2) := by
  simp [getU16, run_getUInt s h]

@[simp] theorem run_getU8_nil : (getU8 : CodecM σ ε UInt8).run (s, []) =
    .error (.panic "split_to out of bounds") (s, []) := rfl

@[simp] theorem run_getU16_beBytes (n : UInt16) :
    (getU16 : CodecM σ ε UInt16).run (s, beBytes 2 n.toNat ++ buf) = .ok n (s, buf) := by
  have hn := n.toNat_lt
  rw [run_getU16 s (by simp), List.take_left' (beBytes_length 2 _),
    List.drop_left' (beBytes_length 2 _), ofBe_beBytes, Nat.mod_eq_of_lt (by simpa using hn),
    UInt16.ofNat_toNat]

/-- The call panics. -/
def Panics {α : Type} (r : EStateM.Result (Fault ε) (σ × Bytes) α) : Prop :=
  ∃ what st, r = .error (.panic what) st

theorem run_getU64 (h : 8 ≤ buf.length) :
    (getU64 : CodecM σ ε UInt64).run (s, buf) =
      .ok (UInt64.ofNat (ofBe (buf.take 8))) (s, buf.drop 8) := by
  simp [getU64, run_getUInt s h]

end

/-! ## The first item -/

section
variable {σ ε ι : Type} (decode : CodecM σ ε (Option ι))

/-- Appends reads to the buffer and calls `decode` after each, until a call returns an item or a
fault: how the last call ended, and the reads that were not made. -/
def pollReads (s : σ) (buf : Bytes) :
    List Bytes → EStateM.Result (Fault ε) (σ × Bytes) (Option ι) × List Bytes
  | [] => (.ok none (s, buf), [])
  | chunk :: chunks =>
    match decode.run (s, buf ++ chunk) with
    | .ok none (s', buf') => pollReads s' buf' chunks
    | r => (r, chunks)

/-- The calls ask for more until the reads hold all of `front`; the call after that returns `i` and
leaves the bytes that come after `front` in the buffer. -/
def TakesOff (s : σ) (front : Bytes) (i : ι) (reads : List Bytes) : Prop :=
  ∃ pre chunk post, reads = pre ++ chunk :: post ∧ pre.flatten.length < front.length ∧
    front.length ≤ (pre ++ [chunk]).flatten.length ∧
    pollReads decode s [] reads =
      (.ok (some i) (s, (pre ++ [chunk]).flatten.drop front.length), post)

/-- A call that asks for more keeps the codec and the buffer. -/
def Waits (s : σ) : Prop :=
  ∀ buf st, decode.run (s, buf) = .ok none st → st = (s, buf)

variable {decode} {s : σ} {buf : Bytes}

theorem pollReads_none {s' : σ} {buf' chunk : Bytes} {chunks : List Bytes}
    (h : decode.run (s, buf ++ chunk) = .ok none (s', buf')) :
    pollReads decode s buf (chunk :: chunks) = pollReads decode s' buf' chunks := by
  rw [pollReads, h]

theorem pollReads_some {st : σ × Bytes} {chunk : Bytes} {chunks : List Bytes} {i : ι}
    (h : decode.run (s, buf ++ chunk) = .ok (some i) st) :
    pollReads decode s buf (chunk :: chunks) = (.ok (some i) st, chunks) := by
  rw [pollReads, h]

/-- Reads after each of which `decode` asks for more. -/
theorem pollReads_wait {pre : List Bytes} (rest : List Bytes)
    (h : ∀ reads, reads <+: pre → reads ≠ [] →
      decode.run (s, buf ++ reads.flatten) = .ok none (s, buf ++ reads.flatten)) :
    pollReads decode s buf (pre ++ rest) = pollReads decode s (buf ++ pre.flatten) rest := by
  induction pre generalizing buf with
  | nil => simp
  | cons chunk pre ih =>
    have hone := h [chunk] (by simp) (by simp)
    rw [List.flatten_cons, List.flatten_nil, List.append_nil] at hone
    rw [List.cons_append, pollReads_none hone, ih, List.flatten_cons, List.append_assoc]
    intro reads hreads hne
    have := h (chunk :: reads) ((List.prefix_cons_inj chunk).2 hreads) (by simp)
    simpa [List.append_assoc] using this

/-- Where the calls stop after `chunk`, they asked for more before. -/
theorem pollReads_waited (hwait : Waits decode s) {pre post : List Bytes} {chunk : Bytes}
    {r : EStateM.Result (Fault ε) (σ × Bytes) (Option ι)}
    (h : pollReads decode s buf (pre ++ chunk :: post) = (r, post)) :
    ∀ reads, reads <+: pre → reads ≠ [] →
      decode.run (s, buf ++ reads.flatten) = .ok none (s, buf ++ reads.flatten) := by
  induction pre generalizing buf with
  | nil => exact fun reads hreads hne => (hne (List.prefix_nil.1 hreads)).elim
  | cons first pre ih =>
    have hfirst : decode.run (s, buf ++ first) = .ok none (s, buf ++ first) := by
      rw [List.cons_append, pollReads] at h
      split at h
      · rename_i s' buf' hdec
        rw [hdec, hwait _ _ hdec]
      · have hlen := congrArg (fun r => r.2.length) h
        simp at hlen
        omega
    rw [List.cons_append, pollReads_none hfirst] at h
    rintro (_ | ⟨c, reads⟩) hreads hne
    · exact (hne rfl).elim
    obtain ⟨rfl, hsub⟩ := List.cons_prefix_cons.1 hreads
    rw [List.flatten_cons, ← List.append_assoc]
    by_cases hnil : reads = []
    · subst hnil
      simpa using hfirst
    · exact ih h reads hsub hnil

/-- The read that completes `front`. -/
theorem exists_completing {front more : Bytes} (hne : front ≠ []) {reads : List Bytes}
    (h : reads.flatten = front ++ more) :
    ∃ pre chunk post, reads = pre ++ chunk :: post ∧ pre.flatten.length < front.length ∧
      front.length ≤ (pre ++ [chunk]).flatten.length := by
  have hpos := List.length_pos_iff.2 hne
  have hlen : front.length ≤ reads.flatten.length := by
    rw [h, List.length_append]
    omega
  clear h
  induction reads using List.reverseRecOn with
  | nil =>
    rw [List.flatten_nil, List.length_nil] at hlen
    omega
  | append_singleton reads chunk ih =>
    by_cases hfull : front.length ≤ reads.flatten.length
    · obtain ⟨pre, c, post, rfl, hlt, hle⟩ := ih hfull
      exact ⟨pre, c, post ++ [chunk], by simp, hlt, hle⟩
    · exact ⟨reads, chunk, [], rfl, Nat.not_le.1 hfull, hlen⟩

/-- **An item is taken off however it was cut into reads**, if and only if no call before the last
of its bytes does anything but wait. -/
theorem takesOff_iff (hwait : Waits decode s) {front more : Bytes} {i : ι}
    (hwhole : ∀ more, decode.run (s, front ++ more) = .ok (some i) (s, more)) (hne : front ≠ [])
    {reads : List Bytes} (hflat : reads.flatten = front ++ more) :
    TakesOff decode s front i reads ↔
      ∀ pre, pre <+: reads → pre ≠ [] → pre.flatten.length < front.length →
        decode.run (s, pre.flatten) = .ok none (s, pre.flatten) := by
  constructor
  · rintro ⟨pre, chunk, post, rfl, hlt, hle, hrun⟩ pre' hpre' hne' hlt'
    have hsub : pre' <+: pre := by
      refine List.prefix_of_prefix_length_le hpre' (List.prefix_append _ _) ?_
      by_contra hlen
      have hlong : pre ++ [chunk] <+: pre' := by
        refine List.prefix_of_prefix_length_le ⟨post, by simp⟩ hpre' ?_
        rw [List.length_append, List.length_singleton]
        omega
      obtain ⟨tail, rfl⟩ := hlong
      rw [List.flatten_append, List.length_append] at hlt'
      omega
    exact pollReads_waited hwait hrun pre' hsub hne'
  · intro hnone
    obtain ⟨pre, chunk, post, rfl, hlt, hle⟩ := exists_completing hne hflat
    refine ⟨pre, chunk, post, rfl, hlt, hle, ?_⟩
    have hpre : ∀ reads, reads <+: pre → reads ≠ [] →
        decode.run (s, [] ++ reads.flatten) = .ok none (s, [] ++ reads.flatten) := by
      intro reads hreads hne'
      obtain ⟨tail, rfl⟩ := hreads
      refine hnone reads (by simp) hne' (Nat.lt_of_le_of_lt ?_ hlt)
      simp
    have hfull : pre.flatten ++ chunk =
        front ++ (pre ++ [chunk]).flatten.drop front.length := by
      have htake := congrArg (List.take front.length) hflat
      rw [List.take_left' rfl, show (pre ++ chunk :: post) = (pre ++ [chunk]) ++ post by simp,
        List.flatten_append, List.take_append_of_le_length hle] at htake
      conv_rhs => rw [← htake]
      rw [List.length_take, Nat.min_eq_left hle, List.take_append_drop]
      simp
    rw [pollReads_wait _ hpre, List.nil_append]
    exact pollReads_some (by rw [hfull, hwhole])

end

/-! ## The read loop -/

/-- A decoder whose messages each take bytes off the buffer or lower the rank of its state. -/
structure Decoder (σ ε ι : Type) where
  decode : CodecM σ ε (Option ι)
  rank : σ → Nat
  progress : ∀ {s buf i s' buf'}, decode.run (s, buf) = .ok (some i) (s', buf') →
    buf'.length + rank s' < buf.length + rank s

/-- What a decoder has made of its input: the messages, the fault that stopped it if any, and the
codec and buffer it stands at. -/
structure Yield (σ ε ι : Type) where
  items : List ι
  fault : Option (Fault ε)
  codec : σ
  buf : Bytes

/-- How a stream ends at end of file. -/
inductive StreamEnd (ε : Type) where
  | clean
  | bytesRemaining
  | fault (f : Fault ε)

namespace Decoder

variable {σ ε ι : Type} (d : Decoder σ ε ι)

/-- Calls `decode` until it asks for more bytes or faults. -/
def drain (s : σ) (buf : Bytes) : Yield σ ε ι :=
  match _h : d.decode.run (s, buf) with
  | .ok none (s', buf') => ⟨[], none, s', buf'⟩
  | .ok (some i) (s', buf') => { drain s' buf' with items := i :: (drain s' buf').items }
  | .error f (s', buf') => ⟨[], some f, s', buf'⟩
termination_by buf.length + d.rank s
decreasing_by all_goals exact d.progress _h

variable {d}

theorem drain_none {s s' : σ} {buf buf' : Bytes}
    (h : d.decode.run (s, buf) = .ok none (s', buf')) : d.drain s buf = ⟨[], none, s', buf'⟩ := by
  rw [drain]; split <;> simp_all

theorem drain_some {s s' : σ} {buf buf' : Bytes} {i : ι}
    (h : d.decode.run (s, buf) = .ok (some i) (s', buf')) :
    d.drain s buf = { d.drain s' buf' with items := i :: (d.drain s' buf').items } := by
  rw [drain]; split <;> simp_all

theorem drain_error {s s' : σ} {buf buf' : Bytes} {f : Fault ε}
    (h : d.decode.run (s, buf) = .error f (s', buf')) :
    d.drain s buf = ⟨[], some f, s', buf'⟩ := by
  rw [drain]; split <;> simp_all

/-- `drain` sees its arguments through `decode` only. -/
theorem drain_congr {s s' : σ} {buf buf' : Bytes}
    (h : d.decode.run (s, buf) = d.decode.run (s', buf')) : d.drain s buf = d.drain s' buf' := by
  rcases hr : d.decode.run (s', buf') with ⟨_ | i, t, b⟩ | ⟨f, t, b⟩
  · rw [drain_none hr, drain_none (h.trans hr)]
  · rw [drain_some hr, drain_some (h.trans hr)]
  · rw [drain_error hr, drain_error (h.trans hr)]

end Decoder

/-- A yield and the reads that were not made because of its fault. -/
structure ReadYield (σ ε ι : Type) extends Yield σ ε ι where
  unread : List Bytes

/-- The bytes not consumed: the read buffer, then the reads not made. -/
def ReadYield.leftover {σ ε ι : Type} (r : ReadYield σ ε ι) : Bytes :=
  r.buf ++ r.unread.flatten

namespace Decoder

variable {σ ε ι : Type} (d : Decoder σ ε ι)

/-- Appends each read to the buffer and drains it, up to the first fault. -/
def readLoop (s : σ) (buf : Bytes) : List Bytes → ReadYield σ ε ι
  | [] => { items := [], fault := none, codec := s, buf := buf, unread := [] }
  | chunk :: chunks =>
    let r := d.drain s (buf ++ chunk)
    match r.fault with
    | some _ => { r with unread := chunks }
    | none =>
      let r' := readLoop r.codec r.buf chunks
      { r' with items := r.items ++ r'.items }

/-- At end of file `decode` is called until it returns no message; bytes still in the buffer are an
error then. -/
def finish (s : σ) (buf : Bytes) : List ι × StreamEnd ε :=
  let r := d.drain s buf
  (r.items, match r.fault with
    | some f => .fault f
    | none => if r.buf = [] then .clean else .bytesRemaining)

/-- The messages of a stream that is read to its end, and how it ends. -/
def stream (s : σ) (buf : Bytes) (chunks : List Bytes) : List ι × StreamEnd ε :=
  let r := d.readLoop s buf chunks
  match r.fault with
  | some f => (r.items, .fault f)
  | none =>
    let e := d.finish r.codec r.buf
    (r.items ++ e.1, e.2)

/-! ## Incremental decoders -/

/-- What a call returns with `more` after the buffer, from what it returns without: a call that
asked for more is made again. -/
def extend (more : Bytes) :
    EStateM.Result (Fault ε) (σ × Bytes) (Option ι) →
      EStateM.Result (Fault ε) (σ × Bytes) (Option ι)
  | .ok none (s, buf) => d.decode.run (s, buf ++ more)
  | .ok (some i) (s, buf) => .ok (some i) (s, buf ++ more)
  | .error f (s, buf) => .error f (s, buf ++ more)

/-- Appending bytes to the buffer commutes with `decode`. -/
def Incremental : Prop :=
  ∀ s buf more, d.decode.run (s, buf ++ more) = d.extend more (d.decode.run (s, buf))

/-- `decode` asks for more bytes and changes nothing. -/
def AtRest (s : σ) (buf : Bytes) : Prop := d.decode.run (s, buf) = .ok none (s, buf)

variable {d}

theorem AtRest.drain {s : σ} {buf : Bytes} (h : d.AtRest s buf) :
    d.drain s buf = ⟨[], none, s, buf⟩ := drain_none h

namespace Incremental

theorem more_none (hd : d.Incremental) {s s' : σ} {buf buf' : Bytes}
    (h : d.decode.run (s, buf) = .ok none (s', buf')) (more : Bytes) :
    d.decode.run (s, buf ++ more) = d.decode.run (s', buf' ++ more) := by
  rw [hd, h, extend]

theorem more_some (hd : d.Incremental) {s s' : σ} {buf buf' : Bytes} {i : ι}
    (h : d.decode.run (s, buf) = .ok (some i) (s', buf')) (more : Bytes) :
    d.decode.run (s, buf ++ more) = .ok (some i) (s', buf' ++ more) := by
  rw [hd, h, extend]

theorem more_error (hd : d.Incremental) {s s' : σ} {buf buf' : Bytes} {f : Fault ε}
    (h : d.decode.run (s, buf) = .error f (s', buf')) (more : Bytes) :
    d.decode.run (s, buf ++ more) = .error f (s', buf' ++ more) := by
  rw [hd, h, extend]

/-- A decoder that asked for more bytes asks again until some arrive. -/
theorem atRest (hd : d.Incremental) {s s' : σ} {buf buf' : Bytes}
    (h : d.decode.run (s, buf) = .ok none (s', buf')) : d.AtRest s' buf' := by
  have := hd.more_none h []
  rw [List.append_nil, List.append_nil, h] at this
  exact this.symm

theorem drain_atRest (hd : d.Incremental) (s : σ) (buf : Bytes)
    (hf : (d.drain s buf).fault = none) :
    d.AtRest (d.drain s buf).codec (d.drain s buf).buf := by
  induction s, buf using Decoder.drain.induct d with
  | case1 s buf s' buf' h =>
    rw [drain_none h]
    exact hd.atRest h
  | case2 s buf i s' buf' h ih =>
    rw [drain_some h] at hf ⊢
    exact ih hf
  | case3 s buf f s' buf' h =>
    rw [drain_error h] at hf
    cases hf

/-- **Draining a longer buffer** continues where draining its front stopped. -/
theorem drain_append (hd : d.Incremental) (s : σ) (buf more : Bytes) :
    d.drain s (buf ++ more) =
      match (d.drain s buf).fault with
      | some _ => { d.drain s buf with buf := (d.drain s buf).buf ++ more }
      | none =>
        let r := d.drain (d.drain s buf).codec ((d.drain s buf).buf ++ more)
        { r with items := (d.drain s buf).items ++ r.items } := by
  induction s, buf using Decoder.drain.induct d with
  | case1 s buf s' buf' h =>
    rw [drain_none h, drain_congr (hd.more_none h more)]
    simp
  | case2 s buf i s' buf' h ih =>
    rw [drain_some (hd.more_some h more), drain_some h, ih]
    dsimp only
    split <;> simp
  | case3 s buf f s' buf' h =>
    rw [drain_error (hd.more_error h more), drain_error h]

/-- **The cut into reads is not observable**: reading `chunks` gives what one read of all their
bytes gives, the leftover bytes included. -/
theorem readLoop_eq_drain (hd : d.Incremental) (chunks : List Bytes) :
    ∀ {s : σ} {buf : Bytes}, d.AtRest s buf →
      (d.readLoop s buf chunks).items = (d.drain s (buf ++ chunks.flatten)).items ∧
      (d.readLoop s buf chunks).fault = (d.drain s (buf ++ chunks.flatten)).fault ∧
      (d.readLoop s buf chunks).codec = (d.drain s (buf ++ chunks.flatten)).codec ∧
      (d.readLoop s buf chunks).leftover = (d.drain s (buf ++ chunks.flatten)).buf := by
  induction chunks with
  | nil =>
    intro s buf h
    simp [readLoop, h.drain, ReadYield.leftover]
  | cons chunk chunks ih =>
    intro s buf h
    have happ := hd.drain_append s (buf ++ chunk) chunks.flatten
    rw [List.append_assoc, ← List.flatten_cons] at happ
    rw [happ, readLoop]
    cases hf : (d.drain s (buf ++ chunk)).fault with
    | some f => simp [hf, ReadYield.leftover]
    | none =>
      obtain ⟨h1, h2, h3, h4⟩ := ih (hd.drain_atRest s (buf ++ chunk) hf)
      simp only [h1, h2, h3, true_and]
      exact h4

/-- Where a read loop stops without a fault, all input has been read. -/
theorem readLoop_unread {s : σ} {buf : Bytes} {chunks : List Bytes}
    (hf : (d.readLoop s buf chunks).fault = none) :
    (d.readLoop s buf chunks).unread = [] := by
  induction chunks generalizing s buf with
  | nil => rfl
  | cons chunk chunks ih =>
    rw [readLoop] at hf ⊢
    cases h : (d.drain s (buf ++ chunk)).fault with
    | some f => simp [h] at hf
    | none =>
      simp only [h] at hf ⊢
      exact ih hf

/-- **The end of a stream** is that of its bytes read at once. -/
theorem stream_eq (hd : d.Incremental) {s : σ} {buf : Bytes} (h : d.AtRest s buf)
    (chunks : List Bytes) :
    d.stream s buf chunks = d.finish s (buf ++ chunks.flatten) := by
  obtain ⟨h1, h2, h3, h4⟩ := hd.readLoop_eq_drain chunks h
  unfold stream finish
  cases hf : (d.readLoop s buf chunks).fault with
  | some f => simp only [h1, ← h2, hf]
  | none =>
    have hbuf : (d.readLoop s buf chunks).buf = (d.drain s (buf ++ chunks.flatten)).buf := by
      rw [← h4, ReadYield.leftover, readLoop_unread hf, List.flatten_nil, List.append_nil]
    have hrest := hd.drain_atRest s (buf ++ chunks.flatten) (h2 ▸ hf)
    simp only [h3, hbuf, hrest.drain, h1, ← h2, hf, List.append_nil]

end Incremental

end Decoder

/-! ## Reads and writes on one codec -/

/-- A connection: one codec, its two buffers, whether the read buffer may still hold a message, and
what has been read. -/
structure Conn (σ ε ι : Type) where
  codec : σ
  readBuf : Bytes
  writeBuf : Bytes
  readable : Bool
  items : List ι
  fault : Option (Fault ε)

/-- One action on a connection. -/
inductive Act (ω : Type) where
  /-- a read returned these bytes -/
  | read (chunk : Bytes)
  /-- one call of `decode` -/
  | poll
  /-- one call of `encode` -/
  | write (w : ω)

/-- The bytes an action reads. -/
def Act.bytes {ω : Type} : Act ω → Bytes
  | .read chunk => chunk
  | .poll => []
  | .write _ => []

/-- The bytes that a run reads. -/
def readBytes {ω : Type} (acts : List (Act ω)) : Bytes := (acts.map Act.bytes).flatten

@[simp] theorem readBytes_nil {ω : Type} : readBytes ([] : List (Act ω)) = [] := rfl

@[simp] theorem readBytes_cons {ω : Type} (a : Act ω) (acts : List (Act ω)) :
    readBytes (a :: acts) = a.bytes ++ readBytes acts := by
  simp [readBytes]

@[simp] theorem readBytes_append {ω : Type} (acts acts' : List (Act ω)) :
    readBytes (acts ++ acts') = readBytes acts ++ readBytes acts' := by
  simp [readBytes]

@[simp] theorem readBytes_polls {ω : Type} (n : Nat) :
    readBytes (List.replicate n (.poll : Act ω)) = [] := by
  simp [readBytes, Act.bytes]

namespace Conn

variable {σ ε ι ω : Type}

/-- A fresh connection of a codec. -/
def new (s : σ) : Conn σ ε ι := ⟨s, [], [], false, [], none⟩

/-- An action, where the reader allows it: it reads only when `decode` has asked for more, and calls
`decode` only after a read or a message; after a fault it does neither. -/
def act (d : Decoder σ ε ι) (encode : ω → CodecM σ ε Unit) (c : Conn σ ε ι) :
    Act ω → Option (Conn σ ε ι)
  | .read chunk =>
    if c.readable = false ∧ c.fault = none then
      some { c with readBuf := c.readBuf ++ chunk, readable := true }
    else none
  | .poll =>
    if c.readable = true then
      match d.decode.run (c.codec, c.readBuf) with
      | .ok none (s, buf) => some { c with codec := s, readBuf := buf, readable := false }
      | .ok (some i) (s, buf) => some { c with codec := s, readBuf := buf, items := c.items ++ [i] }
      | .error f (s, buf) =>
        some { c with codec := s, readBuf := buf, readable := false, fault := some f }
    else none
  | .write w =>
    match (encode w).run (c.codec, c.writeBuf) with
    | .ok _ (s, buf) | .error _ (s, buf) => some { c with codec := s, writeBuf := buf }

def run (d : Decoder σ ε ι) (encode : ω → CodecM σ ε Unit) (c : Conn σ ε ι)
    (acts : List (Act ω)) : Option (Conn σ ε ι) :=
  acts.foldlM (act d encode) c

/-- What a connection has read once the bytes `more` are read too. -/
def outcome (d : Decoder σ ε ι) (c : Conn σ ε ι) (more : Bytes) : Yield σ ε ι :=
  match c.fault with
  | some _ => ⟨c.items, c.fault, c.codec, c.readBuf ++ more⟩
  | none =>
    let r := d.drain c.codec (c.readBuf ++ more)
    { r with items := c.items ++ r.items }

/-- Between reads the decoder is at rest. -/
def Settled (d : Decoder σ ε ι) (c : Conn σ ε ι) : Prop :=
  c.readable = false → c.fault = none → d.AtRest c.codec c.readBuf

/-- A reader that stopped at a fault is not readable. -/
def Stopped (c : Conn σ ε ι) : Prop := c.fault ≠ none → c.readable = false

variable {d : Decoder σ ε ι} {encode : ω → CodecM σ ε Unit}

/-- What holds of a connection, and of the actions that led to it, at the start and after each
action holds at the end of every run. -/
theorem run_induction {I : List (Act ω) → Conn σ ε ι → Prop} {c : Conn σ ε ι} (h0 : I [] c)
    (hstep : ∀ acts c1 a c2, I acts c1 → act d encode c1 a = some c2 → I (acts ++ [a]) c2)
    {acts : List (Act ω)} {c' : Conn σ ε ι} (h : run d encode c acts = some c') : I acts c' := by
  induction acts using List.reverseRecOn generalizing c' with
  | nil =>
    cases h
    exact h0
  | append_singleton acts a ih =>
    simp only [run, List.foldlM_append, Option.bind_eq_bind, Option.bind_eq_some_iff] at h
    obtain ⟨c1, h1, h2⟩ := h
    exact hstep acts c1 a c' (ih h1) (by simpa using h2)

/-- The number of calls of `decode` in a run. -/
def polls (acts : List (Act ω)) : Nat := acts.countP fun | .poll => true | _ => false

/-- The number of reads in a run. -/
def reads (acts : List (Act ω)) : Nat := acts.countP fun | .read _ => true | _ => false

/-- **Every call of `decode` is paid for** by a read or by a message. -/
theorem run_polls {c' : Conn σ ε ι} {s : σ} {acts : List (Act ω)}
    (h : run d encode (Conn.new s) acts = some c') :
    polls acts ≤ reads acts + c'.items.length := by
  suffices hI : polls acts + (if c'.readable then 1 else 0) ≤ reads acts + c'.items.length by omega
  refine run_induction (I := fun acts c => polls acts + (if c.readable then 1 else 0) ≤
    reads acts + c.items.length) (by simp [polls, reads, Conn.new]) ?_ h
  intro acts c1 a c2 hI ha
  simp only [polls, reads, List.countP_append, List.countP_singleton] at hI ⊢
  cases a with
  | read chunk =>
    simp only [act] at ha
    split at ha <;> cases ha
    rename_i hr
    simp only [hr.1] at hI
    simp at hI ⊢
    omega
  | poll =>
    simp only [act] at ha
    split at ha
    · rename_i hr
      rcases hdec : d.decode.run (c1.codec, c1.readBuf) with ⟨_ | i, s, buf⟩ | ⟨f, s, buf⟩ <;>
        rw [hdec] at ha <;> cases ha <;> simp [hr] at hI ⊢ <;> omega
    · cases ha
  | write w =>
    simp only [act] at ha
    rcases hw : (encode w).run (c1.codec, c1.writeBuf) with ⟨_, s, buf⟩ | ⟨f, s, buf⟩ <;>
      rw [hw] at ha <;> cases ha <;> simpa using hI

/-- Calls of `decode` alone bring the reader to a point where it does not call `decode`. -/
theorem exists_settle (d : Decoder σ ε ι) (encode : ω → CodecM σ ε Unit) (c : Conn σ ε ι) :
    ∃ n c', run d encode c (List.replicate n .poll) = some c' ∧ c'.readable = false := by
  rcases hr : c.readable with _ | _
  · exact ⟨0, c, rfl, hr⟩
  obtain ⟨s, buf, wb, r, items, fault⟩ := c
  dsimp only at hr
  subst hr
  induction s, buf using Decoder.drain.induct d generalizing items with
  | case1 s buf s' buf' h =>
    refine ⟨1, ⟨s', buf', wb, false, items, fault⟩, ?_, rfl⟩
    simp [run, act, h]
  | case2 s buf i s' buf' h ih =>
    obtain ⟨n, c', hc', hread⟩ := ih (items ++ [i])
    refine ⟨n + 1, c', ?_, hread⟩
    rw [run] at hc' ⊢
    rw [List.replicate_succ, List.foldlM_cons, act, if_pos rfl]
    simpa [h] using hc'
  | case3 s buf f s' buf' h =>
    refine ⟨1, ⟨s', buf', wb, false, items, some f⟩, ?_, rfl⟩
    simp [run, act, h]

theorem run_append (c : Conn σ ε ι) (acts acts' : List (Act ω)) :
    run d encode c (acts ++ acts') =
      (run d encode c acts).bind fun c' => run d encode c' acts' := by
  simp [run, List.foldlM_append]

/-- An `encode` that leaves the codec's state as it was, whether it fails or not. -/
def Neutral (encode : ω → CodecM σ ε Unit) : Prop :=
  ∀ w s buf, match (encode w).run (s, buf) with
    | .ok _ st => st.1 = s
    | .error _ st => st.1 = s

/-- One action keeps the outcome. -/
theorem act_outcome (hd : d.Incremental) (he : Neutral encode) {c c' : Conn σ ε ι} {a : Act ω}
    (h : act d encode c a = some c') (hs : Settled d c) (ht : Stopped c) :
    (∀ more, outcome d c' more = outcome d c (a.bytes ++ more)) ∧ Settled d c' ∧ Stopped c' := by
  cases a with
  | read chunk =>
    simp only [act] at h
    split at h
    · rename_i hr
      cases h
      exact ⟨fun more => by simp [outcome, hr.2, Act.bytes], fun hc => by simp at hc,
        fun hf => absurd hr.2 hf⟩
    · cases h
  | poll =>
    simp only [act] at h
    split at h
    · rename_i hr
      have hf : c.fault = none := by
        by_contra hf
        rw [ht hf] at hr
        cases hr
      rcases hdec : d.decode.run (c.codec, c.readBuf) with ⟨_ | i, s, buf⟩ | ⟨f, s, buf⟩ <;>
        rw [hdec] at h <;> cases h
      · refine ⟨fun more => ?_, fun _ _ => hd.atRest hdec, fun hf' => absurd hf hf'⟩
        simp only [outcome, hf, Act.bytes, List.nil_append]
        rw [Decoder.drain_congr (hd.more_none hdec more)]
      · refine ⟨fun more => ?_, fun hr' => absurd (hr.symm.trans hr') (by decide),
          fun hf' => absurd hf hf'⟩
        simp only [outcome, hf, Act.bytes, List.nil_append]
        rw [Decoder.drain_some (hd.more_some hdec more)]
        simp
      · refine ⟨fun more => ?_, fun _ hf' => absurd hf' (by simp), fun _ => rfl⟩
        simp only [outcome, hf, Act.bytes, List.nil_append]
        rw [Decoder.drain_error (hd.more_error hdec more)]
        simp
    · cases h
  | write w =>
    have hn := he w c.codec c.writeBuf
    simp only [act] at h
    rcases hw : (encode w).run (c.codec, c.writeBuf) with ⟨_, s, buf⟩ | ⟨f, s, buf⟩ <;>
      rw [hw] at h hn <;> cases h <;> subst hn <;>
      exact ⟨fun more => by simp [outcome, Act.bytes], hs, ht⟩

/-- **A run reads what its reads hold**: single calls of `decode` with calls of `encode` between
them, from a decoder at rest to one at rest, read what draining all the bytes reads. -/
theorem run_eq (hd : d.Incremental) (he : Neutral encode) {c c' : Conn σ ε ι}
    {acts : List (Act ω)} (h : run d encode c acts = some c') (hs : Settled d c)
    (ht : Stopped c) (hend : c'.readable = false) :
    (⟨c'.items, c'.fault, c'.codec, c'.readBuf⟩ : Yield σ ε ι) =
      outcome d c (readBytes acts) := by
  induction acts generalizing c with
  | nil =>
    simp only [run, List.foldlM_nil, Option.pure_def, Option.some.injEq] at h
    subst h
    simp only [readBytes_nil, outcome, List.append_nil]
    cases hf : c.fault with
    | some f => simp
    | none => simp [(hs hend hf).drain]
  | cons a acts ih =>
    simp only [run, List.foldlM_cons, Option.bind_eq_bind, Option.bind_eq_some_iff] at h
    obtain ⟨c1, h1, h2⟩ := h
    obtain ⟨ho, hs1, ht1⟩ := act_outcome hd he h1 hs ht
    rw [ih h2 hs1 ht1, ho, readBytes_cons]

variable {s : σ}

/-- A run on a fresh connection, once it calls `decode` no more, has read what draining all its
bytes reads. -/
theorem run_new_eq (hd : d.Incremental) (he : Neutral encode) (hrest : d.AtRest s [])
    {c' : Conn σ ε ι} {acts : List (Act ω)} (h : run d encode (Conn.new s) acts = some c')
    (hend : c'.readable = false) :
    (⟨c'.items, c'.fault, c'.codec, c'.readBuf⟩ : Yield σ ε ι) = d.drain s (readBytes acts) := by
  rw [run_eq hd he h (fun _ _ => hrest) (fun hf => absurd rfl hf) hend]
  simp [outcome, Conn.new]

/-- **No run is stuck**: where draining the input meets no fault, every run goes on to read all of
it and come to rest. -/
theorem exists_complete (hd : d.Incremental) (he : Neutral encode) (hrest : d.AtRest s [])
    {c : Conn σ ε ι} {acts : List (Act ω)} (h : run d encode (Conn.new s) acts = some c)
    {more : Bytes} (hf : (d.drain s (readBytes acts ++ more)).fault = none) :
    ∃ acts' c', run d encode (Conn.new s) (acts ++ acts') = some c' ∧ readBytes acts' = more ∧
      c'.readable = false := by
  obtain ⟨n, c1, h1, hr1⟩ := exists_settle d encode c
  have hrun1 : run d encode (Conn.new s) (acts ++ List.replicate n .poll) = some c1 := by
    rw [run_append, h, Option.bind_some, h1]
  have hf1 : c1.fault = none := by
    have heq := congrArg Yield.fault (run_new_eq hd he hrest hrun1 hr1)
    rw [readBytes_append, readBytes_polls, List.append_nil] at heq
    rw [hd.drain_append] at hf
    cases hfront : (d.drain s (readBytes acts)).fault with
    | none => exact heq.trans hfront
    | some f => simp [hfront] at hf
  obtain ⟨m, c2, h2, hr2⟩ :=
    exists_settle d encode { c1 with readBuf := c1.readBuf ++ more, readable := true }
  refine ⟨List.replicate n .poll ++ ([.read more] ++ List.replicate m .poll), c2, ?_, ?_, hr2⟩
  · rw [← List.append_assoc, run_append, hrun1, Option.bind_some, run_append]
    simp only [run, List.foldlM_cons, List.foldlM_nil, act, hr1, hf1, and_self, if_true] at h2 ⊢
    simpa using h2
  · simp [Act.bytes]

end Conn

end Framed
