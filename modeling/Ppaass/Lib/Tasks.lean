import Mathlib.Logic.Function.Basic
import Ppaass.Lib.Prog

/-!
# Forwarding, and tasks that spawn tasks

`Forward.run` moves the items of a stream into a sink. `Tasks` is a program (`main`) together with
the two it may spawn (`up` and `down`): they take steps in any order. `Tasks.Holds.step` says that a
step of any of them keeps what holds of each.
-/

open Prog

/-! ## Forwarding a stream into a sink -/

/-- A stream and a sink, by the programs that poll them. -/
structure Forward (S : Sig) (ι ε : Type) where
  /-- whether the stream has nothing to give yet -/
  pending : Prog S Bool
  next : Prog S (Option ι)
  feed : ι → Prog S (Except ε Unit)
  flush : Prog S (Except ε Unit)
  close : Prog S (Except ε Unit)

namespace Forward

variable {S : Sig} {ι ε : Type} (f : Forward S ι ε)

/-- While the stream is pending the sink is flushed. -/
def flushPending : Prog S (Except ε Unit) := do
  if ← f.pending then f.flush else return .ok ()

/-- An item goes into the sink; at the end of the stream the sink is closed. -/
def deliver : Option ι → Prog S (Unit ⊕ Except ε Unit)
  | none => do return .inr (← f.close)
  | some item => do
    match ← f.feed item with
    | .ok () => return .inl ()
    | .error e => return .inr (.error e)

/-- `StreamExt::forward`. -/
def run : Prog S (Except ε Unit) :=
  iterate (fun () => do
    match ← f.flushPending with
    | .ok () => f.deliver (← f.next)
    | .error e => return .inr (.error e)) ()

variable {f} {Inv : Assertion S} {Q : Except ε Unit → Trace S → Prop} {t : Trace S}

/-- **Forwarding with an invariant**: `J` holds before each item, and `K` where the stream is asked
for it. -/
theorem wp_run (J K : Trace S → Prop) (hJ : J t) (hnone : ∀ t, J t → Inv none t)
    (hpending : ∀ t, J t →
      wp Inv f.pending (fun b t => if b then wp Inv f.flush (Then (fun _ => K) Q) t else K t) t)
    (hnext : ∀ t, K t → wp Inv f.next (fun
      | none, t => wp Inv f.close Q t
      | some item, t => wp Inv (f.feed item) (Then (fun _ => J) Q) t) t) :
    wp Inv f.run Q t := by
  refine wp_iterate (fun _ => J) hJ fun _ t hJ => ⟨hnone t hJ, ?_⟩
  have hitem : ∀ t, K t → wp Inv (f.next >>= f.deliver) (Sum.elim (fun _ => J) Q) t := by
    intro t hK
    rw [wp_bind_eq]
    refine wp_mono (hnext t hK) fun item t h => ?_
    cases item with
    | none => exact wp_bind.2 h
    | some item =>
      refine wp_bind.2 (wp_mono h fun r t hr => ?_)
      cases r <;> exact hr
  rw [wp_bind_eq, flushPending, wp_bind_eq]
  refine wp_mono (hpending t hJ) fun b t hb => ?_
  cases b with
  | false => exact hitem t hb
  | true =>
    refine wp_mono hb fun r t hr => ?_
    cases r with
    | ok u => exact hitem t hr
    | error e => exact hr

/-- A forwarding performs the operations of its parts. -/
theorem only_run {P : S.Op → Prop} (hpending : Only P f.pending) (hnext : Only P f.next)
    (hfeed : ∀ item, Only P (f.feed item)) (hflush : Only P f.flush) (hclose : Only P f.close) :
    Only P f.run := by
  refine only_iterate (fun _ => only_bind (only_bind hpending fun b => ?_) fun r => ?_) ()
  · cases b with
    | false => exact only_pure _
    | true => exact hflush
  · cases r with
    | error e => exact only_pure _
    | ok =>
      refine only_bind hnext fun item => ?_
      cases item with
      | none => exact only_bind hclose fun _ => only_pure _
      | some item => exact only_bind (hfeed item) fun r => by cases r <;> exact only_pure _

/-! ### Runs to the end -/

section
variable {E : Type} {answer : E → Event S → E → Prop} {s s₁ s₂ s₃ s₄ : E} {r : Except ε Unit}

/-- An item that is there is fed. -/
theorem exec_run_item {item : ι} (hpending : Exec answer f.pending s false s₁)
    (hnext : Exec answer f.next s₁ (some item) s₂)
    (hfeed : Exec answer (f.feed item) s₂ (.ok ()) s₃)
    (hrest : Exec answer f.run s₃ r s₄) : Exec answer f.run s r s₄ := by
  have hflush : Exec answer f.flushPending s (.ok ()) s₁ := exec_bind.2 ⟨_, _, hpending, .ret _ _⟩
  have hdeliver : Exec answer (f.deliver (some item)) s₂ (.inl ()) s₃ :=
    exec_bind.2 ⟨_, _, hfeed, .ret _ _⟩
  exact .again (exec_bind.2 ⟨_, _, hflush, exec_bind.2 ⟨_, _, hnext, hdeliver⟩⟩) hrest

/-- At the end of the stream the sink is closed. -/
theorem exec_run_end (hpending : Exec answer f.pending s false s₁)
    (hnext : Exec answer f.next s₁ none s₂) (hclose : Exec answer f.close s₂ r s₃) :
    Exec answer f.run s r s₃ := by
  have hflush : Exec answer f.flushPending s (.ok ()) s₁ := exec_bind.2 ⟨_, _, hpending, .ret _ _⟩
  have hdeliver : Exec answer (f.deliver none) s₂ (.inr r) s₃ :=
    exec_bind.2 ⟨_, _, hclose, .ret _ _⟩
  exact .leave (exec_bind.2 ⟨_, _, hflush, exec_bind.2 ⟨_, _, hnext, hdeliver⟩⟩) (.ret _ _)

end

end Forward

/-! ## A program and the two it spawns -/

inductive Side where
  | up
  | down
  deriving DecidableEq, Repr

structure Tasks (S : Sig) (α : Type) where
  main : Thread S α
  task : Side → Option (Thread S Unit)

namespace Tasks

variable {S : Sig} {α : Type}

/-- Only the main program, which has not begun. -/
def new (p : Prog S α) : Tasks S α := ⟨Thread.new p, fun _ => none⟩

/-- The trace of the main program (`none`) or of a spawned one. -/
def trace (g : Tasks S α) : Option Side → Trace S
  | none => g.main.trace
  | some side => (g.task side).elim [] Thread.trace

/-- What all tasks have done. -/
def events (g : Tasks S α) : Trace S := g.trace none ++ g.trace (some .up) ++ g.trace (some .down)

theorem mem_events {g : Tasks S α} {who : Option Side} {e : Event S} (h : e ∈ g.trace who) :
    e ∈ g.events := by
  unfold events
  rcases who with _ | _ | _ <;> simp [h]

/-- Which operations spawn a task, and which program it runs. -/
abbrev Spawn (S : Sig) := S.Op → Option (Side × Prog S Unit)

variable (spawn : Spawn S)

/-- The tasks after an event of the main program. -/
def spawned (g : Tasks S α) (e : Option (Event S)) : Tasks S α :=
  match e.bind fun e => spawn e.op with
  | none => g
  | some (side, p) => { g with task := Function.update g.task side (some (Thread.new p)) }

/-- One of the tasks takes a step; `none` is the main program. -/
inductive Step : Tasks S α → Option Side → Option (Event S) → Tasks S α → Prop
  | main {g : Tasks S α} {e : Option (Event S)} {th : Thread S α} (h : Thread.Step g.main e th) :
      Step g none e (spawned spawn { g with main := th } e)
  | task {g : Tasks S α} {e : Option (Event S)} {side : Side} {th th' : Thread S Unit}
      (hside : g.task side = some th) (h : Thread.Step th e th') :
      Step g (some side) e { g with task := Function.update g.task side (some th') }

/-- A specification of each task. -/
structure Spec (S : Sig) (α : Type) where
  assertion : Option Side → Assertion S
  mainPost : α → Trace S → Prop
  post : Side → Trace S → Prop

/-- The main program has spawned this task. -/
def Spawned (side : Side) (t : Trace S) : Prop := ∃ e ∈ t, ∃ p, spawn e.op = some (side, p)

/-- A specification that holds of what is spawned, and by which each task is spawned once. -/
structure Spec.Sound (spec : Spec S α) : Prop where
  spawns : ∀ {op side p}, spawn op = some (side, p) →
    wp (spec.assertion (some side)) p (fun _ => spec.post side) []
  once : ∀ {op side p t}, spawn op = some (side, p) → spec.assertion none (some op) t →
    ¬ Spawned spawn side t

/-- Two specifications at once. -/
def Spec.and (spec spec' : Spec S α) : Spec S α where
  assertion side op t := spec.assertion side op t ∧ spec'.assertion side op t
  mainPost a t := spec.mainPost a t ∧ spec'.mainPost a t
  post side t := spec.post side t ∧ spec'.post side t

/-- What holds of the tasks. -/
structure Holds (spec : Spec S α) (g : Tasks S α) : Prop where
  main : g.main.Holds (spec.assertion none) spec.mainPost
  task : ∀ {side th}, g.task side = some th →
    th.Holds (spec.assertion (some side)) fun _ => spec.post side
  spawned : ∀ side, g.task side ≠ none ↔ Spawned spawn side g.main.trace

variable {spawn} {spec : Spec S α} {g g' : Tasks S α} {side : Option Side} {e : Option (Event S)}

@[simp] theorem spawned_main (e : Option (Event S)) : (g.spawned spawn e).main = g.main := by
  unfold spawned
  split <;> rfl

/-- Tasks that have returned take no step. -/
theorem Step.not_ret {a : α} (hstep : Step spawn g side e g') (hmain : g.main.prog = .ret a) :
    ¬ ∀ side th, g.task side = some th → th.prog = .ret () := by
  intro htask
  cases hstep with
  | main h => exact h.not_ret a hmain
  | task hside h => exact h.not_ret () (htask _ _ hside)

theorem spawned_nil (side : Side) : ¬ Spawned spawn side [] := by simp [Spawned]

theorem spawned_snoc {side : Side} {t : Trace S} {e : Event S} :
    Spawned spawn side (t ++ [e]) ↔ Spawned spawn side t ∨ ∃ p, spawn e.op = some (side, p) := by
  simp [Spawned, or_and_right, exists_or]

theorem Spec.Sound.and {spec' : Spec S α} (h : spec.Sound spawn)
    (h' : ∀ {op side p}, spawn op = some (side, p) →
      wp (spec'.assertion (some side)) p (fun _ => spec'.post side) []) :
    (spec.and spec').Sound spawn where
  spawns hop := wp_and (h.spawns hop) (h' hop)
  once hop hallowed := h.once hop hallowed.1

theorem Holds.new {p : Prog S α} (h : wp (spec.assertion none) p spec.mainPost []) :
    Holds spawn spec (Tasks.new p) where
  main := .new h
  task := by simp [Tasks.new]
  spawned := by simp [Tasks.new, Thread.new, spawned_nil]

/-- **A step of any task keeps what holds of all.** -/
theorem Holds.step (hspec : spec.Sound spawn) (h : Holds spawn spec g)
    (hstep : Step spawn g side e g') : Holds spawn spec g' := by
  cases hstep with
  | @task e side th th' hside hs =>
    refine { h with
      task := fun {s x} hx => ?_
      spawned := fun s => ?_ }
    · by_cases hss : s = side
      · subst hss
        simp only [Function.update_self, Option.some.injEq] at hx
        exact hx ▸ (h.task hside).step hs
      · simp only [Function.update_of_ne hss] at hx
        exact h.task hx
    · rw [← h.spawned s]
      by_cases hss : s = side
      · subst hss
        simp [hside]
      · simp [Function.update_of_ne hss]
  | @main e th hs =>
    have hmain := h.main.step hs
    have htrace := hs.trace
    unfold Tasks.spawned
    split
    · next hnone =>
      refine { h with
        main := hmain
        spawned := fun s => ?_ }
      show g.task s ≠ none ↔ Spawned spawn s th.trace
      rw [h.spawned s, htrace]
      cases e with
      | none => exact Iff.rfl
      | some e =>
        rw [after, spawned_snoc, show spawn e.op = none from hnone]
        simp
    · next side p hsome =>
      cases e with
      | none => cases hsome
      | some e =>
        have hop : spawn e.op = some (side, p) := hsome
        refine {
          main := hmain
          task := fun {s x} hx => ?_
          spawned := fun s => ?_ }
        · by_cases hss : s = side
          · subst hss
            simp only [Function.update_self, Option.some.injEq] at hx
            exact hx ▸ .new (hspec.spawns hop)
          · simp only [Function.update_of_ne hss] at hx
            exact h.task hx
        · show Function.update g.task side _ s ≠ none ↔ Spawned spawn s th.trace
          rw [htrace, after, spawned_snoc, hop]
          by_cases hss : s = side
          · subst hss
            simp
          · rw [Function.update_of_ne hss, h.spawned s]
            simp [Ne.symm hss]

/-- The operation of a step is one that the task's assertion allows. -/
theorem Holds.allowed {e : Event S} (h : Holds spawn spec g)
    (hstep : Step spawn g side (some e) g') : spec.assertion side (some e.op) (g.trace side) := by
  cases hstep with
  | main hs => exact h.main.allowed hs
  | task hside hs =>
    rw [trace, hside]
    exact (h.task hside).allowed hs

theorem Holds.respects (h : Holds spawn spec g) (side : Option Side) :
    Respects (spec.assertion side) (g.trace side) := by
  cases side with
  | none => exact h.main.respects
  | some side =>
    cases hside : g.task side with
    | none => simpa [trace, hside] using Respects.nil
    | some th => simpa [trace, hside] using (h.task hside).respects

/-- **A step adds its event to one of the traces.** -/
theorem Holds.trace_step (hspec : spec.Sound spawn) (h : Holds spawn spec g)
    (hstep : Step spawn g side e g') (side' : Option Side) :
    g'.trace side' = if side' = side then after (g.trace side) e else g.trace side' := by
  cases hstep with
  | @task e side th th' hside hs =>
    by_cases hss : side' = some side
    · subst hss
      simp [trace, hside, hs.trace]
    · rw [if_neg hss]
      cases side' with
      | none => rfl
      | some s => simp [trace, Function.update_of_ne (fun hs => hss (congrArg some hs) : s ≠ side)]
  | @main e th hs =>
    cases side' with
    | none => simpa [trace] using hs.trace
    | some s =>
      rw [if_neg (by simp), trace, trace, Tasks.spawned]
      split
      · rfl
      · next side p hsome =>
        by_cases hss : s = side
        · -- the task was not there before
          subst hss
          cases e with
          | none => cases hsome
          | some e =>
            have hnot := hspec.once hsome (h.main.allowed hs)
            rw [← h.spawned s, not_not] at hnot
            simp [hnot, Thread.new]
        · simp [Function.update_of_ne hss]

theorem Holds.events_subset (hspec : spec.Sound spawn) (h : Holds spawn spec g)
    (hstep : Step spawn g side e g') : g.events ⊆ g'.events := by
  have htrace : ∀ who, g.trace who ⊆ g'.trace who := by
    intro who x hx
    rw [h.trace_step hspec hstep]
    split
    · next hwho =>
      subst hwho
      unfold after
      split <;> simp [hx]
    · exact hx
  unfold events
  intro x hx
  simp only [List.mem_append] at hx ⊢
  exact hx.imp (Or.imp (@htrace _ x) (@htrace _ x)) (@htrace _ x)

/-- A task that performs an operation takes a step with any answer. -/
theorem Step.answers {op : S.Op} {a : S.Ans op} (h : Step spawn g side (some ⟨op, a⟩) g')
    (a' : S.Ans op) : ∃ g'', Step spawn g side (some ⟨op, a'⟩) g'' := by
  cases h with
  | main hs =>
    obtain ⟨⟨p, t⟩, task⟩ := g
    cases hs with
    | mk _ hs =>
      cases hs with
      | vis _ k _ => exact ⟨_, .main (.mk t (.vis (S := S) op k a'))⟩
  | @task _ side th th' hside hs =>
    obtain ⟨p, t⟩ := th
    cases hs with
    | mk _ hs =>
      cases hs with
      | vis _ k _ => exact ⟨_, .task hside (.mk t (.vis (S := S) op k a'))⟩

/-- The task has returned, with its postcondition. -/
def Spec.Done (spec : Spec S α) (g : Tasks S α) : Option Side → Prop
  | none => ∃ a, spec.mainPost a (g.trace none)
  | some side => spec.post side (g.trace (some side))

/-- **Progress** of a task that is there. -/
theorem Holds.progress (h : Holds spawn spec g) (who : Option Side)
    (hthere : ∀ side, who = some side → Spawned spawn side g.main.trace) :
    spec.Done g who ∨ (∃ g', Step spawn g who none g') ∨
      ∃ op, spec.assertion who (some op) (g.trace who) ∧
        ∀ a, ∃ g', Step spawn g who (some ⟨op, a⟩) g' := by
  cases who with
  | none =>
    rcases h.main.progress with ⟨a, -, ha⟩ | ⟨th, hth⟩ | ⟨op, hop, hstep⟩
    · exact .inl ⟨a, ha⟩
    · exact .inr (.inl ⟨_, .main hth⟩)
    · refine .inr (.inr ⟨op, hop, fun a => ?_⟩)
      obtain ⟨th, hth⟩ := hstep a
      exact ⟨_, .main hth⟩
  | some side =>
    obtain ⟨th, hside⟩ := Option.ne_none_iff_exists'.1 ((h.spawned side).2 (hthere side rfl))
    have htrace : g.trace (some side) = th.trace := by simp [trace, hside]
    rw [Spec.Done, htrace]
    rcases (h.task hside).progress with ⟨a, -, ha⟩ | ⟨th', hth⟩ | ⟨op, hop, hstep⟩
    · exact .inl ha
    · exact .inr (.inl ⟨_, .task hside hth⟩)
    · refine .inr (.inr ⟨op, hop, fun a => ?_⟩)
      obtain ⟨th', hth⟩ := hstep a
      exact ⟨_, .task hside hth⟩

end Tasks
