import Mathlib.Data.List.Flatten
import Mathlib.Data.List.Infix

/-!
# Reliable first-in-first-out links

A `Channel` is one direction of a connection: what was given to the sink at one end (`fed`), how
much of that the sink has written to the link (`written`), and how much of that was read at the
other end (`read`). A sink that is closed still takes what it is given, and writes none of it
(`late`). A link may fail (`broken`) at any moment. While it has not, and nothing was late, no send
or read fails, and the reader sees the end only where the sink is closed and everything is read.

`SentBy` and `ReadBy` tie a channel to the histories of the two ends; every step keeps them
(`SentBy.send`, `ReadBy.recv` and their companions). In a history that is `InTime` nothing is fed to
a closed sink.
-/

structure Channel (A : Type) where
  fed : List A
  written : List A
  read : List A
  /-- what was fed after the sink was closed -/
  late : List A
  closed : Bool
  broken : Bool
  written_fed : written <+: fed
  read_written : read <+: written
  closed_written : closed = true → written = fed
  late_closed : closed = false → late = []

/-- What a sender did, and whether it succeeded. -/
inductive SendEvent (A : Type) where
  | feed (xs : List A) (ok : Bool)
  | flush (ok : Bool)
  | close (ok : Bool)

/-- What a reader saw. -/
inductive RecvEvent (A : Type) where
  | read (xs : List A)
  | eof
  | error

namespace SendEvent

variable {A : Type}

/-- What the event adds to the sink. -/
def fed : SendEvent A → List A
  | .feed xs true => xs
  | _ => []

def failed : SendEvent A → Bool
  | .feed _ ok => !ok
  | .flush ok => !ok
  | .close ok => !ok

end SendEvent

/-- What the event takes from the link. -/
def RecvEvent.taken {A : Type} : RecvEvent A → List A
  | .read xs => xs
  | _ => []

namespace Channel

variable {A : Type}

def empty : Channel A where
  fed := []
  written := []
  read := []
  late := []
  closed := false
  broken := false
  written_fed := List.prefix_rfl
  read_written := List.prefix_rfl
  closed_written _ := rfl
  late_closed _ := rfl

theorem read_fed (c : Channel A) : c.read <+: c.fed := c.read_written.trans c.written_fed

/-- What the sink holds and has not written. -/
def pending (c : Channel A) : List A := c.fed.drop c.written.length ++ c.late

/-! ## Steps -/

/-- A send. Whenever the sink is polled, it may write some of what it holds; only a flush that
succeeds promises that all is written. -/
structure Send (c : Channel A) (e : SendEvent A) (c' : Channel A) : Prop where
  fed : c'.fed = if c.closed then c.fed else c.fed ++ e.fed
  late : c'.late = if c.closed then c.late ++ e.fed else []
  written : c.written <+: c'.written
  read : c'.read = c.read
  broken : c'.broken = c.broken
  closed : c'.closed = true ↔ c.closed = true ∨ e = .close true
  flushed : e = .flush true → c'.written = c'.fed
  /-- a send fails only on a broken link, or where the sink holds what came too late -/
  sound : e.failed = true → c.broken = true ∨ c.late ≠ []

structure Recv (c : Channel A) (e : RecvEvent A) (c' : Channel A) : Prop where
  fed : c'.fed = c.fed
  late : c'.late = c.late
  written : c'.written = c.written
  read : c'.read = c.read ++ e.taken
  broken : c'.broken = c.broken
  closed : c'.closed = c.closed
  eof : e = .eof → c.broken = true ∨ c.closed = true ∧ c.read = c.fed
  /-- a read fails on a broken link only -/
  sound : e = .error → c.broken = true

/-- The link fails. -/
structure Break (c c' : Channel A) : Prop where
  fed : c'.fed = c.fed
  late : c'.late = c.late
  written : c'.written = c.written
  read : c'.read = c.read
  closed : c'.closed = c.closed
  broken : c'.broken = true

/-- A send, or no step of this channel. -/
def Sends (c : Channel A) : Option (SendEvent A) → Channel A → Prop
  | none, c' => c' = c
  | some e, c' => c.Send e c'

def Recvs (c : Channel A) : Option (RecvEvent A) → Channel A → Prop
  | none, c' => c' = c
  | some e, c' => c.Recv e c'

/-- Nothing more is written of a closed sink. -/
theorem Send.fed_of_closed {c c' : Channel A} {e : SendEvent A} (h : c.Send e c')
    (hc : c.closed = true) : c'.fed = c.fed := by
  rw [h.fed, if_pos hc]

theorem Send.fed_of_open {c c' : Channel A} {e : SendEvent A} (h : c.Send e c')
    (hc : c.closed = false) : c'.fed = c.fed ++ e.fed := by
  simp [h.fed, hc]

/-- A send that feeds nothing. -/
theorem Send.fed_of_nil {c c' : Channel A} {e : SendEvent A} (h : c.Send e c') (he : e.fed = []) :
    c'.fed = c.fed ∧ c'.late = c.late := by
  rw [h.fed, h.late, he, List.append_nil, List.append_nil, ite_self]
  cases hc : c.closed with
  | true => exact ⟨rfl, rfl⟩
  | false => exact ⟨rfl, (c.late_closed hc).symm⟩

theorem Recv.eof_after {c c' : Channel A} {e : RecvEvent A} (h : c.Recv e c') (he : e = .eof) :
    c'.broken = true ∨ c'.closed = true ∧ c'.read = c'.fed := by
  rw [h.broken, h.closed, h.read, h.fed, he, RecvEvent.taken, List.append_nil]
  · exact h.eof he
  · exact nofun

/-! ## The histories of the two ends -/

/-- Nothing is fed after the sink is closed. -/
def InTime (ss : List (SendEvent A)) : Prop :=
  ss.Pairwise fun x y => (∃ xs, y = .feed xs true) → x ≠ .close true

structure SentBy (c : Channel A) (ss : List (SendEvent A)) : Prop where
  all : c.fed ++ c.late = ss.flatMap SendEvent.fed
  late : InTime ss → c.late = []
  closed : c.closed = true ↔ .close true ∈ ss
  sound : ∀ e ∈ ss, e.failed = true → c.broken = true ∨ c.late ≠ []

structure ReadBy (c : Channel A) (rs : List (RecvEvent A)) : Prop where
  read : c.read = rs.flatMap RecvEvent.taken
  eof : .eof ∈ rs → c.broken = true ∨ c.closed = true ∧ c.read = c.fed
  sound : .error ∈ rs → c.broken = true

variable {c c' : Channel A} {ss ss' : List (SendEvent A)} {rs : List (RecvEvent A)}

theorem inTime_nil : InTime ([] : List (SendEvent A)) := List.Pairwise.nil

theorem InTime.append (h : InTime ss) (h' : InTime ss') (hopen : .close true ∉ ss) :
    InTime (ss ++ ss') := by
  refine List.pairwise_append.2 ⟨h, h', fun x hx y _ _ hclose => ?_⟩
  exact hopen (hclose ▸ hx)

theorem inTime_of_open (hopen : .close true ∉ ss) : InTime ss := by
  refine List.pairwise_of_forall_mem_list fun x hx y _ _ hclose => ?_
  exact hopen (hclose ▸ hx)

theorem InTime.snoc {e : SendEvent A} (h : InTime ss)
    (he : ∀ xs, e = .feed xs true → .close true ∉ ss) : InTime (ss ++ [e]) := by
  refine List.pairwise_append.2 ⟨h, List.pairwise_singleton _ _, fun x hx y hy hfeed hclose => ?_⟩
  obtain rfl := List.mem_singleton.1 hy
  obtain ⟨xs, hxs⟩ := hfeed
  exact he xs hxs (hclose ▸ hx)

/-- What the sink has taken comes first of what was sent. -/
theorem SentBy.fed_le (h : c.SentBy ss) : c.fed <+: ss.flatMap SendEvent.fed := ⟨c.late, h.all⟩

/-- Where nothing was late, the sink has taken all that was sent. -/
theorem SentBy.fed (h : c.SentBy ss) (hss : InTime ss) : c.fed = ss.flatMap SendEvent.fed := by
  rw [← h.all, h.late hss, List.append_nil]

theorem SentBy.broken (h : c.SentBy ss) (hss : InTime ss) {e : SendEvent A} (he : e ∈ ss)
    (hf : e.failed = true) : c.broken = true :=
  (h.sound e he hf).resolve_right fun hlate => hlate (h.late hss)

theorem sentBy_empty : (empty : Channel A).SentBy [] := by
  constructor <;> simp [empty]

theorem readBy_empty : (empty : Channel A).ReadBy [] := by
  constructor <;> simp [empty]

theorem SentBy.send {e : SendEvent A} (h : c.SentBy ss) (hs : c.Send e c') :
    c'.SentBy (ss ++ [e]) where
  all := by
    rw [List.flatMap_append, ← h.all, hs.fed, hs.late]
    cases hc : c.closed with
    | true => simp
    | false => simp [c.late_closed hc]
  late := by
    intro hss
    obtain ⟨hbefore, -, hlast⟩ := List.pairwise_append.1 hss
    cases hc : c.closed with
    | false => simp [hs.late, hc]
    | true =>
      have hnil : e.fed = [] := by
        rcases e with ⟨xs, _ | _⟩ | _ | _ <;> try rfl
        exact (hlast _ (h.closed.1 hc) _ (List.mem_singleton.2 rfl) ⟨xs, rfl⟩ rfl).elim
      rw [(hs.fed_of_nil hnil).2, h.late hbefore]
  closed := by
    rw [hs.closed, h.closed, List.mem_append, List.mem_singleton]
    exact or_congr Iff.rfl eq_comm
  sound := by
    intro x hx hf
    have hkept : c.late ≠ [] → c'.late ≠ [] := by
      intro hlate
      cases hc : c.closed with
      | false => exact (hlate (c.late_closed hc)).elim
      | true => simp [hs.late, hc, hlate]
    rw [hs.broken]
    rcases List.mem_append.1 hx with hx | hx
    · exact (h.sound x hx hf).imp_right hkept
    · rw [List.mem_singleton] at hx
      exact (hs.sound (hx ▸ hf)).imp_right hkept

theorem SentBy.recv {e : RecvEvent A} (h : c.SentBy ss) (hr : c.Recv e c') : c'.SentBy ss where
  all := by rw [hr.fed, hr.late, h.all]
  late hss := hr.late.trans (h.late hss)
  closed := by rw [hr.closed, h.closed]
  sound := by rw [hr.broken, hr.late]; exact h.sound

theorem SentBy.break (h : c.SentBy ss) (hb : c.Break c') : c'.SentBy ss where
  all := by rw [hb.fed, hb.late, h.all]
  late hss := hb.late.trans (h.late hss)
  closed := by rw [hb.closed, h.closed]
  sound := fun _ _ _ => .inl hb.broken

theorem ReadBy.send {e : SendEvent A} (h : c.ReadBy rs) (hs : c.Send e c') : c'.ReadBy rs where
  read := hs.read.trans h.read
  eof := by
    intro he
    rcases h.eof he with hb | ⟨hc, hr⟩
    · exact .inl (hs.broken.trans hb)
    · exact .inr ⟨hs.closed.2 (.inl hc), by rw [hs.read, hs.fed_of_closed hc, hr]⟩
  sound := by rw [hs.broken]; exact h.sound

theorem ReadBy.recv {e : RecvEvent A} (h : c.ReadBy rs) (hr : c.Recv e c') :
    c'.ReadBy (rs ++ [e]) where
  read := by rw [hr.read, h.read, List.flatMap_append]; simp
  eof := by
    intro he
    have hend : c.broken = true ∨ c.closed = true ∧ c.read = c.fed := by
      rcases List.mem_append.1 he with he | he
      · exact h.eof he
      · exact hr.eof (List.mem_singleton.1 he).symm
    rcases hend with hb | ⟨hc, heq⟩
    · exact .inl (hr.broken.trans hb)
    · -- nothing is left to read
      have hle := c'.read_fed.length_le
      rw [hr.read, hr.fed, ← heq, List.length_append] at hle
      have hnil : e.taken = [] := List.eq_nil_of_length_eq_zero (by omega)
      exact .inr ⟨hr.closed.trans hc, by rw [hr.read, hnil, List.append_nil, hr.fed, heq]⟩
  sound := by
    intro he
    rw [hr.broken]
    rcases List.mem_append.1 he with he | he
    · exact h.sound he
    · exact hr.sound (List.mem_singleton.1 he).symm

theorem ReadBy.break (h : c.ReadBy rs) (hb : c.Break c') : c'.ReadBy rs where
  read := hb.read.trans h.read
  eof := fun _ => .inl hb.broken
  sound := fun _ => hb.broken

theorem SentBy.sends {e : Option (SendEvent A)} (h : c.SentBy ss) (hs : c.Sends e c') :
    c'.SentBy (ss ++ e.toList) := by
  cases e with
  | none =>
    cases hs
    simpa using h
  | some e => exact h.send hs

theorem SentBy.recvs {e : Option (RecvEvent A)} (h : c.SentBy ss) (hr : c.Recvs e c') :
    c'.SentBy ss := by
  cases e with
  | none => cases hr; exact h
  | some e => exact h.recv hr

theorem ReadBy.sends {e : Option (SendEvent A)} (h : c.ReadBy rs) (hs : c.Sends e c') :
    c'.ReadBy rs := by
  cases e with
  | none => cases hs; exact h
  | some e => exact h.send hs

theorem ReadBy.recvs {e : Option (RecvEvent A)} (h : c.ReadBy rs) (hr : c.Recvs e c') :
    c'.ReadBy (rs ++ e.toList) := by
  cases e with
  | none =>
    cases hr
    simpa using h
  | some e => exact h.recv hr

/-! ## Conversations -/

/-- A first item that satisfies `first`, and then only such as satisfy `rest`. -/
structure Opens (first rest : A → Prop) (xs : List A) : Prop where
  head : ∀ x ∈ xs.head?, first x
  tail : ∀ x ∈ xs.tail, rest x

theorem opens_nil {first rest : A → Prop} : Opens first rest [] := ⟨nofun, nofun⟩

theorem opens_cons {first rest : A → Prop} {x : A} {xs : List A} (hx : first x)
    (hxs : ∀ y ∈ xs, rest y) : Opens first rest (x :: xs) := by
  refine ⟨fun y hy => ?_, hxs⟩
  rwa [← Option.some.inj hy]

theorem Opens.of_prefix {first rest : A → Prop} {xs ys : List A} (h : Opens first rest xs)
    (hle : ys <+: xs) : Opens first rest ys := by
  obtain ⟨zs, rfl⟩ := hle
  cases ys with
  | nil => exact opens_nil
  | cons y ys => exact ⟨h.head, fun x hx => h.tail x (List.mem_append_left _ hx)⟩

theorem Opens.of_map {B : Type} {f : B → A} {first rest : A → Prop} {ys : List B}
    (h : Opens first rest (ys.map f)) : Opens (fun y => first (f y)) (fun y => rest (f y)) ys := by
  cases ys with
  | nil => exact opens_nil
  | cons y ys => exact opens_cons (h.head _ rfl) fun x hx => h.tail _ (List.mem_map_of_mem hx)

theorem Opens.append {first rest : A → Prop} {xs ys : List A} (h : Opens first rest xs)
    (hnil : xs = [] → ys = []) (hys : ∀ y ∈ ys, rest y) : Opens first rest (xs ++ ys) := by
  cases xs with
  | nil => rw [hnil rfl]; exact opens_nil
  | cons x xs =>
    exact ⟨h.head, fun z hz => (List.mem_append.1 hz).elim (h.tail z) (hys z)⟩

/-! ## What is enabled -/

theorem exists_feed (c : Channel A) (xs : List A) : ∃ c', c.Send (.feed xs true) c' := by
  cases hc : c.closed with
  | true =>
    refine ⟨{ c with
      late := c.late ++ xs
      late_closed := fun h => by rw [hc] at h; cases h }, ?_⟩
    constructor <;> simp [SendEvent.fed, SendEvent.failed, hc]
  | false =>
    refine ⟨{ c with
      fed := c.fed ++ xs
      written_fed := c.written_fed.trans (List.prefix_append _ _)
      closed_written := fun h => by rw [hc] at h; cases h }, ?_⟩
    constructor <;> simp [SendEvent.fed, SendEvent.failed, hc, c.late_closed hc]

/-- Everything is written. -/
theorem exists_flush (c : Channel A) : ∃ c', c.Send (.flush true) c' := by
  refine ⟨{ c with
    written := c.fed
    written_fed := List.prefix_rfl
    read_written := c.read_fed
    closed_written := fun _ => rfl }, ?_⟩
  constructor <;> simp [SendEvent.fed, SendEvent.failed, c.written_fed]
  exact c.late_closed

theorem exists_close (c : Channel A) : ∃ c', c.Send (.close true) c' := by
  refine ⟨{ c with
    written := c.fed
    closed := true
    written_fed := List.prefix_rfl
    read_written := c.read_fed
    closed_written := fun _ => rfl
    late_closed := fun h => by cases h }, ?_⟩
  constructor <;> simp [SendEvent.fed, SendEvent.failed, c.written_fed]
  exact c.late_closed

theorem exists_break (c : Channel A) : ∃ c', c.Break c' :=
  ⟨{ c with broken := true }, rfl, rfl, rfl, rfl, rfl, rfl⟩

/-- What is written can be read. -/
theorem exists_read {xs : List A} (h : c.read ++ xs <+: c.written) :
    ∃ c', c.Recv (.read xs) c' := by
  refine ⟨{ c with
    read := c.read ++ xs
    read_written := h }, ?_⟩
  constructor <;> simp [RecvEvent.taken]

/-- The end and a failure take nothing. -/
theorem recv_eof (h : c.broken = true ∨ c.closed = true ∧ c.read = c.fed) : c.Recv .eof c := by
  constructor <;> simp [RecvEvent.taken, h]

theorem recv_error (h : c.broken = true) : c.Recv .error c := by
  constructor <;> simp [RecvEvent.taken, h]

/-- A closed channel has something to read, or its end. -/
theorem exists_recv (h : c.closed = true) :
    (∃ x c', c.Recv (.read [x]) c') ∨ ∃ c', c.Recv .eof c' := by
  obtain ⟨rest, hrest⟩ := c.read_written
  cases rest with
  | nil =>
    rw [List.append_nil, c.closed_written h] at hrest
    exact .inr ⟨c, by constructor <;> simp [RecvEvent.taken, h, hrest]⟩
  | cons x rest =>
    refine .inl ⟨x, { c with
      read := c.read ++ [x]
      read_written := ⟨rest, by rw [← hrest]; simp⟩ }, ?_⟩
    constructor <;> simp [RecvEvent.taken]

/-! ## Links of which all is written -/

/-- A link that has not failed and has written all it was given: `read`, and `rest` after it. -/
def flowing (read rest : List A) (closed : Bool) : Channel A where
  fed := read ++ rest
  written := read ++ rest
  read := read
  late := []
  closed := closed
  broken := false
  written_fed := List.prefix_rfl
  read_written := List.prefix_append _ _
  closed_written _ := rfl
  late_closed _ := rfl

section
variable (read rest : List A) (closed : Bool)

theorem flowing_feed (xs : List A) :
    (flowing read rest false).Send (.feed xs true) (flowing read (rest ++ xs) false) := by
  constructor <;> simp [flowing, SendEvent.fed, SendEvent.failed]

theorem flowing_flush :
    (flowing read rest closed).Send (.flush true) (flowing read rest closed) := by
  constructor <;> simp [flowing, SendEvent.fed, SendEvent.failed]

theorem flowing_close : (flowing read rest closed).Send (.close true) (flowing read rest true) := by
  constructor <;> simp [flowing, SendEvent.fed, SendEvent.failed]

theorem flowing_read :
    (flowing read rest closed).Recv (.read rest) (flowing (read ++ rest) [] closed) := by
  constructor <;> simp [flowing, RecvEvent.taken]

theorem flowing_eof : (flowing read [] true).Recv .eof (flowing read [] true) :=
  recv_eof (.inr ⟨rfl, (List.append_nil _).symm⟩)

end

end Channel
