import Ppaass.Lib.Pump

/-!
# What a main program says before its tasks take over

A main program exchanges some messages with its peer, and then the tasks it has spawned use the same
links. `Dialog.At` says what the trace of the main program has heard and said and which tasks it has
spawned. `Tasks.history` is what the main program and one task have done to a link, in order:
`history_step` says that a step of the tasks adds its event to it, if the main program leaves the
link alone once it has spawned the task (`Spec.Uses`).
-/

open Prog

/-! ## Dialogs -/

/-- How the events of a main program are seen by its peer. -/
structure Dialog (S : Sig) (A B P : Type) where
  recv : Event S → Option (RecvEvent A)
  sent : Event S → Option (SendEvent B)
  payload : B → P
  spawn : Tasks.Spawn S

namespace Dialog

variable {S : Sig} {A B P : Type} (d : Dialog S A B P)

/-- The trace has heard `got`, has said `said`, and has spawned `running`. -/
structure At (got : List (RecvEvent A)) (said : List P) (running : List Side) (t : Trace S) :
    Prop where
  got : t.filterMap d.recv = got
  said : ((t.filterMap d.sent).flatMap SendEvent.fed).map d.payload = said
  running : ∀ side, Tasks.Spawned d.spawn side t ↔ side ∈ running

variable {d} {got : List (RecvEvent A)} {said : List P} {running : List Side} {t : Trace S}
  {e : Event S}

theorem at_nil : d.At [] [] [] [] := ⟨rfl, rfl, fun side => by simp [Tasks.spawned_nil]⟩

theorem spawned_of_none {side : Side} (hspawn : d.spawn e.op = none) :
    Tasks.Spawned d.spawn side (t ++ [e]) ↔ Tasks.Spawned d.spawn side t := by
  rw [Tasks.spawned_snoc, hspawn]
  simp

/-- An event that hears, says and spawns nothing. -/
theorem At.quiet (h : d.At got said running t) (hr : d.recv e = none)
    (hs : ∀ x ∈ d.sent e, x.fed = []) (hspawn : d.spawn e.op = none) :
    d.At got said running (t ++ [e]) := by
  refine ⟨by simp [hr, h.got], ?_, fun side => (spawned_of_none hspawn).trans (h.running side)⟩
  rw [← h.said]
  cases hse : d.sent e with
  | none => simp [hse]
  | some x => simp [hse, hs x hse]

theorem At.hear {r : RecvEvent A} (h : d.At got said running t) (hr : d.recv e = some r)
    (hs : d.sent e = none) (hspawn : d.spawn e.op = none) :
    d.At (got ++ [r]) said running (t ++ [e]) :=
  ⟨by simp [hr, h.got], by simp [hs, h.said],
    fun side => (spawned_of_none hspawn).trans (h.running side)⟩

theorem At.say {x : B} (h : d.At got said running t) (hr : d.recv e = none)
    (hs : d.sent e = some (.feed [x] true)) (hspawn : d.spawn e.op = none) :
    d.At got (said ++ [d.payload x]) running (t ++ [e]) :=
  ⟨by simp [hr, h.got], by simp [hs, SendEvent.fed, h.said],
    fun side => (spawned_of_none hspawn).trans (h.running side)⟩

theorem At.spawn {side : Side} {p : Prog S Unit} (h : d.At got said running t)
    (hr : d.recv e = none) (hs : d.sent e = none) (hspawn : d.spawn e.op = some (side, p)) :
    d.At got said (running ++ [side]) (t ++ [e]) := by
  refine ⟨by simp [hr, h.got], by simp [hs, h.said], fun s => ?_⟩
  rw [Tasks.spawned_snoc, h.running s, List.mem_append, List.mem_singleton, hspawn]
  simp [eq_comm]

end Dialog

/-! ## Histories -/

namespace Tasks

variable {S : Sig} {α B : Type} {spawn : Spawn S} {spec : Spec S α} {g g' : Tasks S α}
  {f : Event S → Option B} {side who : Side} {e : Event S}

/-- What the main program, and then the task `side`, have done, as seen by `f`. -/
def history (g : Tasks S α) (f : Event S → Option B) (side : Side) : List B :=
  (g.trace none).filterMap f ++ (g.trace (some side)).filterMap f

/-- Only the main program and the task `side` do what `f` sees, and the main program only as long as
it has not spawned the task. -/
structure Spec.Uses (spec : Spec S α) (spawn : Spawn S) (f : Event S → Option B) (side : Side) :
    Prop where
  main : ∀ {op a t}, spec.assertion none (some op) t → f ⟨op, a⟩ ≠ none → ¬ Spawned spawn side t
  other : ∀ {s op a t}, s ≠ side → spec.assertion (some s) (some op) t → f ⟨op, a⟩ = none

theorem Holds.trace_eq_nil (h : Holds spawn spec g) (hside : ¬ Spawned spawn side g.main.trace) :
    g.trace (some side) = [] := by
  rw [← h.spawned side, not_not] at hside
  simp [trace, hside]

/-- **A step adds its event to the history.** -/
theorem Holds.history_step (h : Holds spawn spec g) (hspec : spec.Sound spawn)
    (huses : spec.Uses spawn f side) {who : Option Side} (hstep : Step spawn g who (some e) g') :
    g'.history f side = g.history f side ++ (f e).toList := by
  have hallowed := h.allowed hstep
  unfold history
  rw [h.trace_step hspec hstep, h.trace_step hspec hstep]
  rcases who with _ | s
  · -- the main program
    rw [if_pos rfl, if_neg (by simp), after, List.filterMap_append]
    cases hfe : f e with
    | none => simp [hfe]
    | some b =>
      have hspeaks : f ⟨e.op, e.ans⟩ ≠ none := by
        rw [show f ⟨e.op, e.ans⟩ = some b from hfe]
        simp
      rw [h.trace_eq_nil (huses.main hallowed hspeaks)]
      simp [hfe]
  · rw [if_neg (by simp)]
    by_cases hs : s = side
    · subst hs
      rw [if_pos rfl, after, List.filterMap_append, ← List.append_assoc]
      cases hfe : f e <;> simp [hfe]
    · rw [if_neg (by simpa using Ne.symm hs), huses.other hs hallowed]
      simp

/-- What the history shows is an event. -/
theorem mem_history {b : B} (h : b ∈ g.history f side) : ∃ e ∈ g.events, f e = some b := by
  unfold history at h
  obtain ⟨e, he, hfe⟩ : ∃ e, e ∈ g.trace none ++ g.trace (some side) ∧ f e = some b := by
    rw [← List.filterMap_append] at h
    exact List.mem_filterMap.1 h
  refine ⟨e, ?_, hfe⟩
  unfold events
  rcases List.mem_append.1 he with he | he
  · simp [he]
  · cases side <;> simp [he]

theorem Holds.history_silent (h : Holds spawn spec g) (hspec : spec.Sound spawn)
    {who : Option Side} (hstep : Step spawn g who none g') :
    g'.history f side = g.history f side := by
  have htrace : ∀ s, g'.trace s = g.trace s := fun s => by
    rw [h.trace_step hspec hstep, after]
    split
    · next hs => rw [hs]
    · rfl
  rw [history, history, htrace, htrace]

end Tasks
