import Ppaass.Lib.Channel
import Ppaass.Lib.Tasks

/-!
# Pumps

A pump is a task that reads one link and writes another: what it feeds to its sink stands for the
values it has read, in order, each once. `Pump.assertion` says when such a task may read and feed;
from it, at every point of a run the values fed are among the first ones read (`outValues_le`).
`Pump.forward_spec` proves it of a `Forward`, from what its parts do.
-/

open Prog

structure Pump (S : Sig) (A B V : Type) where
  /-- the operations of the task -/
  op : S.Op → Prop
  /-- what an event reads and writes -/
  recv : Event S → Option (RecvEvent A)
  sent : Event S → Option (SendEvent B)
  /-- the values an item stands for, if it is of the kind that is passed on -/
  inValue : A → Option (List V)
  outValue : B → Option (List V)

namespace Pump

variable {S : Sig} {A B V : Type} (p : Pump S A B V)

/-! ## What a trace has read and written -/

def recvs (t : Trace S) : List (RecvEvent A) := t.filterMap p.recv

def sents (t : Trace S) : List (SendEvent B) := t.filterMap p.sent

def taken (t : Trace S) : List A := (p.recvs t).flatMap RecvEvent.taken

def fed (t : Trace S) : List B := (p.sents t).flatMap SendEvent.fed

def inValues (xs : List A) : List V := xs.flatMap fun x => (p.inValue x).getD []

def outValues (xs : List B) : List V := xs.flatMap fun x => (p.outValue x).getD []

/-- No send has failed, and the sink is not closed. -/
def Open (t : Trace S) : Prop :=
  ∀ e ∈ p.sents t, e.failed = false ∧ ∀ ok, e ≠ .close ok

/-- All that was read has been fed. -/
structure Idle (t : Trace S) : Prop where
  opened : p.Open t
  values : p.outValues (p.fed t) = p.inValues (p.taken t)

/-- The items `xs` are all that was read and has not been fed. -/
structure Holding (xs : List B) (t : Trace S) : Prop where
  opened : p.Open t
  valid : ∀ x ∈ xs, (p.outValue x).isSome
  values : p.outValues (p.fed t ++ xs) = p.inValues (p.taken t)

/-- There is no more to come: the end, an error, or an item of another kind was read. -/
def AtEnd (t : Trace S) : Prop :=
  .eof ∈ p.recvs t ∨ .error ∈ p.recvs t ∨ ∃ a ∈ p.taken t, p.inValue a = none

/-- A send has failed, or all that was read is written and the sink is closed. -/
def Finished (t : Trace S) : Prop :=
  (∃ e ∈ p.sents t, e.failed = true) ∨
    p.outValues (p.fed t) = p.inValues (p.taken t) ∧ p.AtEnd t ∧ .close true ∈ p.sents t

/-- When an event may happen. -/
structure Allowed (e : Event S) (t : Trace S) : Prop where
  recv : p.recv e ≠ none → p.Idle t
  feed : ∀ {xs ok}, p.sent e = some (.feed xs ok) → p.Holding xs t

/-- Reads where all is fed, feeds what was read, and does nothing else. -/
def assertion : Assertion S
  | none, _ => True
  | some op, t => p.op op ∧ ∀ a, p.Allowed ⟨op, a⟩ t

variable {p} {t : Trace S} {e : Event S}

@[simp] theorem recvs_snoc : p.recvs (t ++ [e]) = p.recvs t ++ (p.recv e).toList := by
  cases h : p.recv e <;> simp [recvs, h]

@[simp] theorem sents_snoc : p.sents (t ++ [e]) = p.sents t ++ (p.sent e).toList := by
  cases h : p.sent e <;> simp [sents, h]

theorem taken_snoc :
    p.taken (t ++ [e]) = p.taken t ++ (p.recv e).toList.flatMap RecvEvent.taken := by
  simp [taken]

theorem fed_snoc : p.fed (t ++ [e]) = p.fed t ++ (p.sent e).toList.flatMap SendEvent.fed := by
  simp [fed]

@[simp] theorem inValues_append (xs ys : List A) :
    p.inValues (xs ++ ys) = p.inValues xs ++ p.inValues ys := List.flatMap_append ..

@[simp] theorem outValues_append (xs ys : List B) :
    p.outValues (xs ++ ys) = p.outValues xs ++ p.outValues ys := List.flatMap_append ..

theorem idle_nil : p.Idle [] := ⟨fun _ h => (List.not_mem_nil h).elim, rfl⟩

/-! ## What an event changes -/

theorem Open.snoc (h : p.Open t) (he : ∀ x ∈ p.sent e, x.failed = false ∧ ∀ ok, x ≠ .close ok) :
    p.Open (t ++ [e]) := by
  intro x hx
  rw [sents_snoc, List.mem_append, Option.mem_toList] at hx
  exact hx.elim (h x) (he x)

/-- An event that neither reads nor writes. -/
theorem Idle.quiet (h : p.Idle t) (hr : p.recv e = none) (hs : p.sent e = none) :
    p.Idle (t ++ [e]) :=
  ⟨h.opened.snoc (by simp [hs]), by simpa [fed_snoc, taken_snoc, hr, hs] using h.values⟩

theorem Idle.flush (h : p.Idle t) (hr : p.recv e = none) (hs : p.sent e = some (.flush true)) :
    p.Idle (t ++ [e]) :=
  ⟨h.opened.snoc (by simp [hs, SendEvent.failed]),
    by simpa [fed_snoc, taken_snoc, hr, hs, SendEvent.fed] using h.values⟩

theorem Holding.quiet {xs : List B} (h : p.Holding xs t) (hr : p.recv e = none)
    (hs : p.sent e = none) : p.Holding xs (t ++ [e]) :=
  ⟨h.opened.snoc (by simp [hs]), h.valid, by simpa [fed_snoc, taken_snoc, hr, hs] using h.values⟩

/-- What was read is to be fed. -/
theorem Idle.read {xs : List A} {ys : List B} (h : p.Idle t) (hr : p.recv e = some (.read xs))
    (hs : p.sent e = none) (hvalid : ∀ y ∈ ys, (p.outValue y).isSome)
    (hval : p.outValues ys = p.inValues xs) : p.Holding ys (t ++ [e]) :=
  ⟨h.opened.snoc (by simp [hs]), hvalid,
    by simp [fed_snoc, taken_snoc, hr, hs, RecvEvent.taken, h.values, hval]⟩

theorem Holding.feed {xs : List B} (h : p.Holding xs t) (hr : p.recv e = none)
    (hs : p.sent e = some (.feed xs true)) : p.Idle (t ++ [e]) :=
  ⟨h.opened.snoc (by simp [hs, SendEvent.failed]),
    by simpa [fed_snoc, taken_snoc, hr, hs, SendEvent.fed] using h.values⟩

/-- Where the stream is at its end: all that was read has been fed. -/
structure Ended (p : Pump S A B V) (t : Trace S) : Prop extends p.Idle t where
  atEnd : p.AtEnd t

theorem Idle.eof (h : p.Idle t) (hr : p.recv e = some .eof) (hs : p.sent e = none) :
    p.Ended (t ++ [e]) :=
  ⟨⟨h.opened.snoc (by simp [hs]),
    by simpa [fed_snoc, taken_snoc, hr, hs, RecvEvent.taken] using h.values⟩,
    .inl (by simp [hr])⟩

theorem Idle.error (h : p.Idle t) (hr : p.recv e = some .error) (hs : p.sent e = none) :
    p.Ended (t ++ [e]) :=
  ⟨⟨h.opened.snoc (by simp [hs]),
    by simpa [fed_snoc, taken_snoc, hr, hs, RecvEvent.taken] using h.values⟩,
    .inr (.inl (by simp [hr]))⟩

/-- An item that is not passed on. -/
theorem Idle.other {a : A} (h : p.Idle t) (hr : p.recv e = some (.read [a])) (hs : p.sent e = none)
    (ha : p.inValue a = none) : p.Ended (t ++ [e]) :=
  ⟨⟨h.opened.snoc (by simp [hs]),
    by simpa [fed_snoc, taken_snoc, hr, hs, RecvEvent.taken, inValues, ha] using h.values⟩,
    .inr (.inr ⟨a, by simp [taken_snoc, hr, RecvEvent.taken], ha⟩)⟩

theorem finished_of_failed {x : SendEvent B} (hs : p.sent e = some x) (hx : x.failed = true) :
    p.Finished (t ++ [e]) := .inl ⟨x, by simp [hs], hx⟩

theorem AtEnd.snoc (h : p.AtEnd t) : p.AtEnd (t ++ [e]) := by
  rcases h with h | h | ⟨a, ha, hv⟩
  · exact .inl (by simp [h])
  · exact .inr (.inl (by simp [h]))
  · exact .inr (.inr ⟨a, by simp [taken_snoc, ha], hv⟩)

theorem Ended.close {ok : Bool} (h : p.Ended t) (hr : p.recv e = none)
    (hs : p.sent e = some (.close ok)) : p.Finished (t ++ [e]) := by
  cases ok with
  | false => exact finished_of_failed hs rfl
  | true =>
    refine .inr ⟨?_, h.atEnd.snoc, by simp [hs]⟩
    simpa [fed_snoc, taken_snoc, hr, hs, SendEvent.fed] using h.values

/-- A finished pump stays so where no more is read or fed. -/
theorem Finished.snoc (h : p.Finished t) (hr : p.recv e = none)
    (hs : ∀ x ∈ p.sent e, x.fed = []) : p.Finished (t ++ [e]) := by
  rcases h with ⟨x, hx, hf⟩ | ⟨hv, hend, hclose⟩
  · exact .inl ⟨x, by simp [hx], hf⟩
  · refine .inr ⟨?_, hend.snoc, by simp [hclose]⟩
    have hnil : (p.sent e).toList.flatMap SendEvent.fed = [] := by
      cases hse : p.sent e with
      | none => rfl
      | some x => simpa using hs x hse
    simpa [fed_snoc, taken_snoc, hr, hnil] using hv

/-! ## Programs of one event -/

/-- The program is one event, which reads nothing and writes what `sent` says of its answer. -/
structure Does {α : Type} (p : Pump S A B V) (q : Prog S α) (sent : α → Option (SendEvent B)) :
    Prop where
  spec {Q : α → Trace S → Prop} {t : Trace S}
    (hfeed : ∀ {a xs ok}, sent a = some (.feed xs ok) → p.Holding xs t)
    (hQ : ∀ a e, p.recv e = none → p.sent e = sent a → Q a (t ++ [e])) : wp p.assertion q Q t

theorem does_perform {op : S.Op} (hop : p.op op) (hr : ∀ a, p.recv ⟨op, a⟩ = none) :
    p.Does (perform op) fun a => p.sent ⟨op, a⟩ where
  spec hfeed hQ := ⟨⟨hop, fun a => ⟨fun h => (h (hr a)).elim, hfeed⟩⟩, fun a => hQ a _ (hr a) rfl⟩

theorem allow_read {op : S.Op} (hop : p.op op) (ht : p.Idle t) (h : ∀ a, p.sent ⟨op, a⟩ = none) :
    p.assertion (some op) t :=
  ⟨hop, fun a => ⟨fun _ => ht, fun {xs ok} hs => by rw [h a] at hs; cases hs⟩⟩

/-! ## Runs -/

/-- **What is fed is what was read, in order**: not all of it yet, perhaps. -/
theorem outValues_le (h : Respects p.assertion t) :
    p.outValues (p.fed t) <+: p.inValues (p.taken t) ∧
      ∀ x ∈ p.fed t, (p.outValue x).isSome := by
  induction h with
  | nil => exact ⟨List.prefix_rfl, fun _ h => (List.not_mem_nil h).elim⟩
  | @snoc t e _ he ih =>
    obtain ⟨hle, hvalid⟩ := ih
    have hin : p.inValues (p.taken t) <+: p.inValues (p.taken (t ++ [e])) := by
      rw [taken_snoc, inValues_append]
      exact List.prefix_append _ _
    have hkeep : (p.sent e).toList.flatMap SendEvent.fed = [] →
        p.outValues (p.fed (t ++ [e])) <+: p.inValues (p.taken (t ++ [e])) ∧
          ∀ x ∈ p.fed (t ++ [e]), (p.outValue x).isSome := by
      intro hnil
      rw [fed_snoc, hnil, List.append_nil]
      exact ⟨hle.trans hin, hvalid⟩
    rcases hs : p.sent e with _ | (⟨xs, _ | _⟩ | ok | ok)
    · exact hkeep (by rw [hs]; rfl)
    · exact hkeep (by rw [hs]; rfl)
    · have hhold := (he.2 e.ans).feed hs
      have hfed : p.fed (t ++ [e]) = p.fed t ++ xs := by simp [fed_snoc, hs, SendEvent.fed]
      rw [hfed]
      refine ⟨?_, fun x hx => ?_⟩
      · rw [hhold.values]
        exact hin
      · exact (List.mem_append.1 hx).elim (hvalid x) (hhold.valid x)
    · exact hkeep (by rw [hs]; rfl)
    · exact hkeep (by rw [hs]; rfl)

/-- A pump feeds nothing to its sink once it has closed that. -/
theorem inTime (h : Respects p.assertion t) : Channel.InTime (p.sents t) := by
  induction h with
  | nil => exact Channel.inTime_nil
  | @snoc t e _ he ih =>
    rw [sents_snoc]
    cases hs : p.sent e with
    | none => simpa using ih
    | some x =>
      refine ih.snoc fun xs hx hclose => ?_
      have hhold := (he.2 e.ans).feed (hx ▸ hs)
      exact (hhold.opened _ hclose).2 true rfl

/-- **A pump that has finished over links that have not failed** has passed on all there was, and
its sink is closed. -/
theorem Finished.complete {cin : Channel A} {cout : Channel B} {rs : List (RecvEvent A)}
    {ss : List (SendEvent B)} (h : p.Finished t) (hread : cin.ReadBy (rs ++ p.recvs t))
    (hsent : cout.SentBy (ss ++ p.sents t)) (htime : Channel.InTime (ss ++ p.sents t))
    (hin : cin.broken = false) (hout : cout.broken = false)
    (hvalid : ∀ a ∈ p.taken t, p.inValue a ≠ none) :
    p.outValues (p.fed t) = p.inValues (p.taken t) ∧ cin.read = cin.fed ∧ cout.closed = true := by
  rcases h with ⟨e, he, hf⟩ | ⟨hvalues, hend, hclose⟩
  · rw [hsent.broken htime (List.mem_append_right _ he) hf] at hout
    cases hout
  · refine ⟨hvalues, ?_, hsent.closed.2 (List.mem_append_right _ hclose)⟩
    rcases hend with heof | herr | ⟨a, ha, hnone⟩
    · rcases hread.eof (List.mem_append_right _ heof) with hb | ⟨-, hall⟩
      · rw [hb] at hin
        cases hin
      · exact hall
    · rw [hread.sound (List.mem_append_right _ herr)] at hin
      cases hin
    · exact (hvalid a ha hnone).elim

/-- **A forwarding is a pump**: `items` are what is fed for an item of the stream. -/
theorem forward_spec {ι ε : Type} {f : Forward S ι ε} (items : ι → List B)
    (hpending : p.Does f.pending fun _ => none)
    (hflush : p.Does f.flush fun r => some (.flush (Except.isOk r)))
    (hfeed : ∀ i, p.Does (f.feed i) fun r => some (.feed (items i) (Except.isOk r)))
    (hclose : p.Does f.close fun r => some (.close (Except.isOk r)))
    (hnext : ∀ t, p.Idle t → wp p.assertion f.next (fun item t =>
      item.elim (p.Ended t) fun i => p.Holding (items i) t) t) (ht : p.Idle t) :
    wp p.assertion f.run (fun _ => p.Finished) t := by
  refine Forward.wp_run p.Idle p.Idle ht (fun _ _ => trivial) (fun t ht => ?_) fun t ht => ?_
  · refine hpending.spec (fun h => by cases h) fun b e hr hs => ?_
    have ht := ht.quiet hr hs
    cases b with
    | false => exact ht
    | true =>
      refine hflush.spec (fun h => by cases h) fun r e hr hs => ?_
      cases r with
      | ok => exact ht.flush hr hs
      | error => exact finished_of_failed hs rfl
  · refine wp_mono (hnext t ht) fun item t h => ?_
    cases item with
    | none => exact hclose.spec (fun h => by cases h) fun r e hr hs => h.close hr hs
    | some i =>
      refine (hfeed i).spec (fun {_ _ _} hs => by cases hs; exact h) fun r e hr hs => ?_
      cases r with
      | ok => exact h.feed hr hs
      | error => exact finished_of_failed hs rfl

/-- Closing the sink again changes nothing, nor does what reads and writes nothing. -/
theorem Finished.does {α : Type} {q : Prog S α} {sent : α → Option (SendEvent B)}
    (hq : p.Does q sent) (hs : ∀ a, ∀ x ∈ sent a, ∃ ok, x = .close ok) (h : p.Finished t) :
    wp p.assertion q (fun _ => p.Finished) t := by
  refine hq.spec (fun {a _ _} ha => ?_) fun a e hr he => ?_
  · obtain ⟨ok, hx⟩ := hs a _ ha
    cases hx
  · refine h.snoc hr fun x hx => ?_
    obtain ⟨ok, rfl⟩ := hs a x (he ▸ hx)
    rfl

/-- A task that forwards and then closes the sink once more. -/
theorem forward_close_spec {ι ε : Type} {f : Forward S ι ε} (items : ι → List B)
    (hpending : p.Does f.pending fun _ => none)
    (hflush : p.Does f.flush fun r => some (.flush (Except.isOk r)))
    (hfeed : ∀ i, p.Does (f.feed i) fun r => some (.feed (items i) (Except.isOk r)))
    (hclose : p.Does f.close fun r => some (.close (Except.isOk r)))
    (hnext : ∀ t, p.Idle t → wp p.assertion f.next (fun item t =>
      item.elim (p.Ended t) fun i => p.Holding (items i) t) t) :
    wp p.assertion (do let _ ← f.run; let _ ← f.close) (fun _ => p.Finished) [] := by
  have hrun := forward_spec items hpending hflush hfeed hclose hnext p.idle_nil
  refine wp_bind.2 (wp_mono hrun fun _ t ht => wp_bind.2 ?_)
  exact ht.does hclose fun a x hx => ⟨_, (Option.some.inj hx).symm⟩

end Pump
