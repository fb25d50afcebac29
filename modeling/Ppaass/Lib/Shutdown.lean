import Ppaass.Lib.Pump

/-!
# When a pump closes its sink

`Pump.ordered` says of a task that it is a pump and closes its sink only where its stream has ended
and all of it is fed, or where a send has failed. Then a closed sink tells the truth about the
stream (`ordered_closed`): over links that have not failed the stream has ended, and all of it has
been passed on (`Finished.upstream`).
-/

open Prog

namespace Pump

variable {S : Sig} {A B V : Type} (p : Pump S A B V)

/-- When the sink may be closed. -/
def closing : Assertion S
  | none, _ => True
  | some op, t => ∀ a ok, p.sent ⟨op, a⟩ = some (.close ok) →
    p.recv ⟨op, a⟩ = none ∧ (p.Ended t ∨ p.Finished t)

/-- A pump that closes its sink where it may. -/
def ordered : Assertion S := fun o t => p.assertion o t ∧ p.closing o t

/-- The operation does not close the sink. -/
def LeavesOpen (op : S.Op) : Prop := ∀ a ok, p.sent ⟨op, a⟩ ≠ some (.close ok)

variable {p} {t : Trace S} {α : Type} {Q : α → Trace S → Prop}

/-! ## Programs -/

theorem closing_of_only {q : Prog S α} (h : Only p.LeavesOpen q) :
    wp p.closing q (fun _ _ => True) t := by
  apply wp_only (fun _ => True) h trivial
  · exact fun _ _ => trivial
  · exact fun t op _ hop => ⟨fun a ok hclose => (hop a ok hclose).elim, fun _ => trivial⟩

/-- A program of a pump that leaves the sink open. -/
theorem ordered_of_only {q : Prog S α} (h : wp p.assertion q Q t) (hq : Only p.LeavesOpen q) :
    wp p.ordered q Q t :=
  wp_mono (wp_and h (closing_of_only hq)) fun _ _ h => h.1

/-- The program closes the sink in order wherever it is a pump's. -/
def ClosesInOrder (p : Pump S A B V) (q : Prog S α) : Prop :=
  ∀ {Q t}, wp p.assertion q Q t → p.Ended t ∨ p.Finished t → wp p.ordered q Q t

theorem closesInOrder_perform {op : S.Op} (hr : ∀ a, p.recv ⟨op, a⟩ = none) :
    p.ClosesInOrder (perform op) :=
  fun h ht => ⟨⟨h.1, fun a _ _ => ⟨hr a, ht⟩⟩, h.2⟩

/-- **A forwarding closes its sink in order**, under what `forward_spec` asks of its parts. -/
theorem forward_ordered {ι ε : Type} {f : Forward S ι ε} (items : ι → List B)
    (hpending : p.Does f.pending fun _ => none)
    (hflush : p.Does f.flush fun r => some (.flush (Except.isOk r)))
    (hfeed : ∀ i, p.Does (f.feed i) fun r => some (.feed (items i) (Except.isOk r)))
    (hclose : p.Does f.close fun r => some (.close (Except.isOk r)))
    (hnext : ∀ t, p.Idle t → wp p.assertion f.next (fun item t =>
      item.elim (p.Ended t) fun i => p.Holding (items i) t) t)
    (hopen : Only p.LeavesOpen f.pending ∧ Only p.LeavesOpen f.flush ∧ Only p.LeavesOpen f.next ∧
      ∀ i, Only p.LeavesOpen (f.feed i))
    (horder : p.ClosesInOrder f.close) (ht : p.Idle t) :
    wp p.ordered f.run (fun _ => p.Finished) t := by
  obtain ⟨hpending', hflush', hnext', hfeed'⟩ := hopen
  refine Forward.wp_run p.Idle p.Idle ht (fun _ _ => ⟨trivial, trivial⟩) (fun t ht => ?_)
    fun t ht => ?_
  · refine ordered_of_only (hpending.spec (fun h => by cases h) fun b e hr hs => ?_) hpending'
    have ht := ht.quiet hr hs
    cases b with
    | false => exact ht
    | true =>
      refine ordered_of_only (hflush.spec (fun h => by cases h) fun r e hr hs => ?_) hflush'
      cases r with
      | ok => exact ht.flush hr hs
      | error => exact finished_of_failed hs rfl
  · refine wp_mono (ordered_of_only (hnext t ht) hnext') fun item t h => ?_
    cases item with
    | none =>
      exact horder (hclose.spec (fun h => by cases h) fun r e hr hs => h.close hr hs) (.inl h)
    | some i =>
      refine ordered_of_only ((hfeed i).spec (fun {_ _ _} hs => by cases hs; exact h)
        fun r e hr hs => ?_) (hfeed' i)
      cases r with
      | ok => exact h.feed hr hs
      | error => exact finished_of_failed hs rfl

/-- A task that has finished closes its sink again. -/
theorem Finished.close_ordered {q : Prog S α} {sent : α → Option (SendEvent B)} (hq : p.Does q sent)
    (hs : ∀ a, ∀ x ∈ sent a, ∃ ok, x = .close ok) (horder : p.ClosesInOrder q) (h : p.Finished t) :
    wp p.ordered q (fun _ => p.Finished) t :=
  horder (h.does hq hs) (.inr h)

/-- A task that forwards and then closes the sink once more. -/
theorem forward_close_ordered {ι ε : Type} {f : Forward S ι ε} (items : ι → List B)
    (hpending : p.Does f.pending fun _ => none)
    (hflush : p.Does f.flush fun r => some (.flush (Except.isOk r)))
    (hfeed : ∀ i, p.Does (f.feed i) fun r => some (.feed (items i) (Except.isOk r)))
    (hclose : p.Does f.close fun r => some (.close (Except.isOk r)))
    (hnext : ∀ t, p.Idle t → wp p.assertion f.next (fun item t =>
      item.elim (p.Ended t) fun i => p.Holding (items i) t) t)
    (hopen : Only p.LeavesOpen f.pending ∧ Only p.LeavesOpen f.flush ∧ Only p.LeavesOpen f.next ∧
      ∀ i, Only p.LeavesOpen (f.feed i))
    (horder : p.ClosesInOrder f.close) :
    wp p.ordered (do let _ ← f.run; let _ ← f.close) (fun _ => p.Finished) [] := by
  have hrun := forward_ordered items hpending hflush hfeed hclose hnext hopen horder p.idle_nil
  refine wp_bind.2 (wp_mono hrun fun _ t ht => wp_bind.2 ?_)
  exact ht.close_ordered hclose (fun a x hx => ⟨_, (Option.some.inj hx).symm⟩) horder

/-! ## Runs -/

/-- Where the sink is closed the task has finished. -/
def ClosedIsFinished (p : Pump S A B V) (t : Trace S) : Prop :=
  ∀ ok, .close ok ∈ p.sents t → p.Finished t

/-- **Where the sink is closed the task has finished**, at every point of a run. -/
theorem ordered_closed (h : Respects p.ordered t) : p.ClosedIsFinished t := by
  induction h with
  | nil => exact fun ok hmem => (List.not_mem_nil hmem).elim
  | @snoc t e _ he ih =>
    obtain ⟨hallowed, hclosing⟩ := he
    intro ok hmem
    rw [sents_snoc, List.mem_append, Option.mem_toList] at hmem
    by_cases hbefore : ∃ ok, .close ok ∈ p.sents t
    · -- it was closed before, so nothing is read or fed any more
      obtain ⟨ok', hbefore⟩ := hbefore
      have hnot : ¬ p.Open t := fun hopen => (hopen _ hbefore).2 ok' rfl
      apply (ih ok' hbefore).snoc
      · by_contra hr
        exact hnot ((hallowed.2 e.ans).recv hr).opened
      · intro x hx
        rcases x with ⟨xs, _ | _⟩ | ok | ok
        · rfl
        · exact (hnot ((hallowed.2 e.ans).feed hx).opened).elim
        · rfl
        · rfl
    · rcases hmem with hmem | hsent
      · exact (hbefore ⟨ok, hmem⟩).elim
      · obtain ⟨hr, hended | hfinished⟩ := hclosing e.ans ok hsent
        · exact hended.close hr hsent
        · apply hfinished.snoc hr
          intro x hx
          cases hsent.symm.trans hx
          rfl

/-! ## Links -/

/-- **Behind a finished pump over links that have not failed** the stream has ended and all of it
has been passed on. -/
theorem Finished.upstream {cin : Channel A} {cout : Channel B} {rs : List (RecvEvent A)}
    {ss : List (SendEvent B)} (h : p.Finished t) (hread : cin.ReadBy (rs ++ p.recvs t))
    (hsent : cout.SentBy (ss ++ p.sents t)) (htime : Channel.InTime (ss ++ p.sents t))
    (hin : cin.broken = false) (hout : cout.broken = false)
    (hvalid : ∀ a ∈ p.taken t, p.inValue a ≠ none) :
    p.outValues (p.fed t) = p.inValues (p.taken t) ∧ cin.closed = true ∧ cin.read = cin.fed := by
  obtain ⟨hvalues, hall, -⟩ := h.complete hread hsent htime hin hout hvalid
  refine ⟨hvalues, ?_, hall⟩
  rcases h with ⟨e, he, hf⟩ | ⟨-, heof | herr | ⟨a, ha, hnone⟩, -⟩
  · rw [hsent.broken htime (List.mem_append_right _ he) hf] at hout
    cases hout
  · rcases hread.eof (List.mem_append_right _ heof) with hb | ⟨hclosed, -⟩
    · rw [hb] at hin
      cases hin
    · exact hclosed
  · rw [hread.sound (List.mem_append_right _ herr)] at hin
    cases hin
  · exact (hvalid a ha hnone).elim

end Pump
