import Ppaass.Lib.Dialog

/-!
# Nothing is fed after a failure

A main program and the task it has spawned send to one link. `Spec.Steady` says that each of them
feeds a message only where none of its own sends has failed and it has closed nothing, and that the
main program spawns only there. Then no message is fed once any send to the link has failed, or the
link is closed (`Holds.feed_calm`), at any point of a run (`Holds.hushed_step`).
-/

open Prog

section
variable {S : Sig} {B : Type} (f : Event S → Option (SendEvent B))

/-- No send has failed, and none is a close. -/
def Unspoilt (xs : List (SendEvent B)) : Prop :=
  ∀ x ∈ xs, x.failed = false ∧ ∀ ok, x ≠ .close ok

/-- No send of the trace has failed or closed the link. -/
def Calm (t : Trace S) : Prop := Unspoilt (t.filterMap f)

/-- The operation feeds a message, or spawns a task. -/
def Commits (spawn : Tasks.Spawn S) (op : S.Op) : Prop :=
  (∃ a xs ok, f ⟨op, a⟩ = some (.feed xs ok)) ∨ spawn op ≠ none

/-- Messages are fed, and tasks spawned, only where no send has failed. -/
def steady (spawn : Tasks.Spawn S) : Assertion S
  | none, _ => True
  | some op, t => Commits f spawn op → Calm f t

variable {f} {spawn : Tasks.Spawn S} {t : Trace S} {e : Event S}

theorem calm_nil : Calm f [] := by simp [Calm, Unspoilt]

theorem calm_snoc :
    Calm f (t ++ [e]) ↔ Calm f t ∧ ∀ x ∈ f e, x.failed = false ∧ ∀ ok, x ≠ .close ok := by
  unfold Calm Unspoilt
  cases hfe : f e with
  | none => simp [hfe]
  | some x =>
    simp only [List.filterMap_append, List.filterMap_cons, hfe, List.filterMap_nil, List.mem_append,
      List.mem_singleton, Option.mem_some_iff]
    grind

theorem Calm.quiet (h : Calm f t) (he : f e = none) : Calm f (t ++ [e]) :=
  calm_snoc.2 ⟨h, by simp [he]⟩

theorem Calm.sent {x : SendEvent B} (h : Calm f t) (he : f e = some x) (hx : x.failed = false)
    (hclose : ∀ ok, x ≠ .close ok) : Calm f (t ++ [e]) :=
  calm_snoc.2 ⟨h, by rw [he]; rintro _ ⟨⟩; exact ⟨hx, hclose⟩⟩

theorem steady_of_not {op : S.Op} (hf : ∀ a, f ⟨op, a⟩ = none) (hspawn : spawn op = none) :
    steady f spawn (some op) t := by
  rintro (⟨a, xs, ok, ha⟩ | hne)
  · rw [hf a] at ha
    cases ha
  · exact (hne hspawn).elim

/-- No message of a history comes after a failure. -/
def Hushed (xs : List (SendEvent B)) : Prop :=
  xs.Pairwise fun x y => (∃ ys ok, y = .feed ys ok) → x.failed = false

theorem hushed_nil : Hushed ([] : List (SendEvent B)) := List.Pairwise.nil

theorem Hushed.snoc {xs : List (SendEvent B)} {y : SendEvent B} (h : Hushed xs)
    (hy : (∃ ys ok, y = .feed ys ok) → ∀ x ∈ xs, x.failed = false) : Hushed (xs ++ [y]) := by
  refine List.pairwise_append.2 ⟨h, List.pairwise_singleton _ _, ?_⟩
  intro x hx z hz hfeed
  obtain rfl := List.mem_singleton.1 hz
  exact hy hfeed x hx

end

namespace Tasks

variable {S : Sig} {α B : Type} {spawn : Spawn S} {spec : Spec S α} {g g' : Tasks S α}
  {f : Event S → Option (SendEvent B)} {side : Side} {who : Option Side} {e : Event S}

/-- The main program and the task `side`, which use the link one after the other, are steady. -/
structure Spec.Steady (spec : Spec S α) (spawn : Spawn S) (f : Event S → Option (SendEvent B))
    (side : Side) : Prop where
  uses : spec.Uses spawn f side
  main : ∀ {op t}, spec.assertion none (some op) t → steady f spawn (some op) t
  task : ∀ {op a t xs ok}, spec.assertion (some side) (some op) t →
    f ⟨op, a⟩ = some (.feed xs ok) → Calm f t
  spawns : ∀ {op a}, spawn op ≠ none → f ⟨op, a⟩ = none

/-- Where the task is there, no send of the main program has failed. -/
theorem Holds.calm_of_spawned (h : Holds spawn spec g) (hs : spec.Steady spawn f side)
    (hspawned : Spawned spawn side g.main.trace) : Calm f g.main.trace := by
  have hrespects : Respects (spec.assertion none) g.main.trace := h.respects none
  generalize g.main.trace = t at hrespects hspawned
  induction hrespects with
  | nil => exact (spawned_nil side hspawned).elim
  | @snoc t e _ hallowed ih =>
    by_cases hbefore : Spawned spawn side t
    · -- the main program has left the link alone since
      refine (ih hbefore).quiet ?_
      by_contra hne
      exact hs.uses.main hallowed hne hbefore
    · obtain hbefore' | ⟨p, hp⟩ := spawned_snoc.1 hspawned
      · exact (hbefore hbefore').elim
      · have hop : spawn e.op ≠ none := by simp [hp]
        exact (hs.main hallowed (.inr hop)).quiet (hs.spawns hop)

/-- **A message is fed only where no send to the link has failed** and it is not closed, by
whichever of the two. -/
theorem Holds.feed_calm (h : Holds spawn spec g) (hs : spec.Steady spawn f side)
    (hstep : Step spawn g who (some e) g') {xs : List B} {ok : Bool}
    (he : f e = some (.feed xs ok)) : Unspoilt (g.history f side) := by
  have hallowed := h.allowed hstep
  have hne : f ⟨e.op, e.ans⟩ ≠ none := by
    rw [show f ⟨e.op, e.ans⟩ = _ from he]
    simp
  intro x hx
  unfold history at hx
  rcases List.mem_append.1 hx with hmain | htask
  · cases who with
    | none => exact hs.main hallowed (.inl ⟨e.ans, xs, ok, he⟩) x hmain
    | some s =>
      have hside : s = side := by
        by_contra hside
        exact hne (hs.uses.other hside hallowed)
      subst hside
      have hthere : g.task s ≠ none := by
        cases hstep with
        | task hth _ => simp [hth]
      exact h.calm_of_spawned hs ((h.spawned s).1 hthere) x hmain
  · cases who with
    | none =>
      rw [h.trace_eq_nil (hs.uses.main hallowed hne)] at htask
      simp at htask
    | some s =>
      have hside : s = side := by
        by_contra hside
        exact hne (hs.uses.other hside hallowed)
      subst hside
      exact hs.task hallowed he x htask

/-- **A step adds no message to a history that has failed.** -/
theorem Holds.hushed_step (hsound : spec.Sound spawn) (h : Holds spawn spec g)
    (hs : spec.Steady spawn f side) {e : Option (Event S)} (hstep : Step spawn g who e g')
    (hq : Hushed (g.history f side)) : Hushed (g'.history f side) := by
  cases e with
  | none =>
    rw [h.history_silent hsound hstep]
    exact hq
  | some e =>
    rw [h.history_step hsound hs.uses hstep]
    cases hfe : f e with
    | none => simpa using hq
    | some x =>
      apply hq.snoc
      rintro ⟨ys, ok, rfl⟩ x hx
      exact (h.feed_calm hs hstep hfe x hx).1

end Tasks
