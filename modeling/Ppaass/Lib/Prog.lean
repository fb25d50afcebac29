import Mathlib.Logic.Relation

/-!
# Programs with effects

A `Prog S α` performs operations of the signature `S` and returns an `α`: it has returned (`ret`),
performs an operation and goes on with its answer (`vis`), or runs a loop (`loop`). Who answers is
left open: to a program an answer is any answer.

* `Step`: one step of a program, silent (a loop is entered) or an event (an operation and its
  answer). A `Thread` is a program with the trace of its events.
* `wp`: what holds of a program at a trace, with an assertion for the points where it still runs and
  a postcondition. `wp_bind` is the sequence rule, `wp_only` the frame rule, and `wp_step` says that
  a step keeps it, so that it holds of every thread a run reaches (`Thread.Holds.step`).
* `Exec`: a program run to its end by an environment that answers.
-/

/-- Operations and the types of their answers. -/
structure Sig where
  Op : Type
  Ans : Op → Type

inductive Prog (S : Sig) : Type → Type 1
  | ret {α : Type} (a : α) : Prog S α
  | vis {α : Type} (e : S.Op) (k : S.Ans e → Prog S α) : Prog S α
  /-- run `body` again and again, until it leaves the loop with a value -/
  | loop {σ β α : Type} (body : σ → Prog S (σ ⊕ β)) (s : σ) (k : β → Prog S α) : Prog S α

/-- An operation with the answer it got. -/
structure Event (S : Sig) where
  op : S.Op
  ans : S.Ans op

abbrev Trace (S : Sig) := List (Event S)

namespace Prog

variable {S : Sig} {α β γ : Type}

/-! ## The monad -/

def bind : Prog S α → (α → Prog S β) → Prog S β
  | ret a, f => f a
  | vis e k, f => vis e fun a => (k a).bind f
  | loop body s k, f => loop body s fun b => (k b).bind f

instance : Monad (Prog S) where
  pure := ret
  bind := bind

/-- One operation. -/
def perform (e : S.Op) : Prog S (S.Ans e) := vis e ret

/-- `body` until it leaves the loop. -/
def iterate {σ : Type} (body : σ → Prog S (σ ⊕ β)) (s : σ) : Prog S β := loop body s ret

theorem bind_ret (p : Prog S α) : p.bind ret = p := by
  induction p with
  | ret a => rfl
  | vis e k ih => exact congrArg (vis e) (funext ih)
  | loop body s k _ ih => exact congrArg (loop body s) (funext ih)

theorem bind_assoc (p : Prog S α) (f : α → Prog S β) (g : β → Prog S γ) :
    (p.bind f).bind g = p.bind fun a => (f a).bind g := by
  induction p with
  | ret a => rfl
  | vis e k ih => exact congrArg (vis e) (funext fun a => ih a f)
  | loop body s k _ ih => exact congrArg (loop body s) (funext fun b => ih b f)

/-! ## Steps -/

/-- A program enters a loop, or an operation is answered. -/
inductive Step : Prog S α → Option (Event S) → Prog S α → Prop
  | vis (e : S.Op) (k : S.Ans e → Prog S α) (a : S.Ans e) : Step (.vis e k) (some ⟨e, a⟩) (k a)
  | loop {σ β : Type} (body : σ → Prog S (σ ⊕ β)) (s : σ) (k : β → Prog S α) :
      Step (.loop body s k) none
        ((body s).bind fun | .inl s' => .loop body s' k | .inr b => k b)

/-! ## What holds of a program -/

/-- What is asserted of a trace where a program stands at an operation (`some op`) or at the head
of a loop (`none`). -/
abbrev Assertion (S : Sig) := Option S.Op → Trace S → Prop

section
variable (Inv : Assertion S)

/-- At every point where the program still runs, `Inv` holds of the trace; where it has returned,
`Q` does. A loop has an invariant `J` of its own. -/
def wp {α : Type} : Prog S α → (α → Trace S → Prop) → Trace S → Prop
  | ret a, Q, t => Q a t
  | vis e k, Q, t => Inv (some e) t ∧ ∀ a, wp (k a) Q (t ++ [⟨e, a⟩])
  | @loop _ σ _ _ body s k, Q, t =>
    ∃ J : σ → Trace S → Prop, J s t ∧ ∀ s t, J s t → Inv none t ∧
      wp (body s) (Sum.elim J fun b => wp (k b) Q) t

variable {Inv} {Q Q' : α → Trace S → Prop} {t : Trace S}

@[simp] theorem wp_ret (a : α) : wp Inv (ret a) Q t ↔ Q a t := Iff.rfl

@[simp] theorem wp_pure (a : α) : wp Inv (pure a) Q t ↔ Q a t := Iff.rfl

@[simp] theorem wp_vis (e : S.Op) (k : S.Ans e → Prog S α) :
    wp Inv (vis e k) Q t ↔ Inv (some e) t ∧ ∀ a, wp Inv (k a) Q (t ++ [⟨e, a⟩]) := Iff.rfl

@[simp] theorem wp_perform (e : S.Op) {Q : S.Ans e → Trace S → Prop} :
    wp Inv (perform e) Q t ↔ Inv (some e) t ∧ ∀ a, Q a (t ++ [⟨e, a⟩]) := Iff.rfl

theorem wp_mono {Inv' : Assertion S} {p : Prog S α} (h : wp Inv p Q t)
    (hQ : ∀ a t, Q a t → Q' a t) (hInv : ∀ o t, Inv o t → Inv' o t := by exact fun _ _ h => h) :
    wp Inv' p Q' t := by
  induction p generalizing t with
  | ret a => exact hQ a t h
  | vis e k ih => exact ⟨hInv _ _ h.1, fun a => ih a (h.2 a) hQ⟩
  | loop body s k ihb ihk =>
    obtain ⟨J, hs, hJ⟩ := h
    refine ⟨J, hs, fun s t hst => ⟨hInv _ _ (hJ s t hst).1, ihb s (hJ s t hst).2 fun r t hr => ?_⟩⟩
    cases r with
    | inl s' => exact hr
    | inr b => exact ihk b hr hQ

/-- **Conjunction**: two things that hold of a program hold of it together. -/
theorem wp_and {Inv' : Assertion S} {p : Prog S α} (h : wp Inv p Q t) (h' : wp Inv' p Q' t) :
    wp (fun o t => Inv o t ∧ Inv' o t) p (fun a t => Q a t ∧ Q' a t) t := by
  induction p generalizing t with
  | ret a => exact ⟨h, h'⟩
  | vis e k ih => exact ⟨⟨h.1, h'.1⟩, fun a => ih a (h.2 a) (h'.2 a)⟩
  | loop body s k ihb ihk =>
    obtain ⟨J, hs, hJ⟩ := h
    obtain ⟨J', hs', hJ'⟩ := h'
    refine ⟨fun s t => J s t ∧ J' s t, ⟨hs, hs'⟩, fun s t hst => ?_⟩
    refine ⟨⟨(hJ s t hst.1).1, (hJ' s t hst.2).1⟩, ?_⟩
    refine wp_mono (ihb s (hJ s t hst.1).2 (hJ' s t hst.2).2) fun r t hr => ?_
    cases r with
    | inl s' => exact hr
    | inr b => exact ihk b hr.1 hr.2

/-- **Sequencing.** -/
theorem wp_bind {p : Prog S α} {f : α → Prog S β} {Q : β → Trace S → Prop} :
    wp Inv (p.bind f) Q t ↔ wp Inv p (fun a t => wp Inv (f a) Q t) t := by
  induction p generalizing t with
  | ret a => exact Iff.rfl
  | vis e k ih => exact and_congr Iff.rfl (forall_congr' fun a => ih a)
  | loop body s k ihb ihk =>
    have hk : ∀ b t, wp Inv ((k b).bind f) Q t ↔ wp Inv (k b) (fun a t => wp Inv (f a) Q t) t :=
      fun b t => ihk b
    constructor
    · rintro ⟨J, hs, hJ⟩
      refine ⟨J, hs, fun s t hst => ⟨(hJ s t hst).1, wp_mono (hJ s t hst).2 fun r t hr => ?_⟩⟩
      cases r with
      | inl s' => exact hr
      | inr b => exact (hk b t).1 hr
    · rintro ⟨J, hs, hJ⟩
      refine ⟨J, hs, fun s t hst => ⟨(hJ s t hst).1, wp_mono (hJ s t hst).2 fun r t hr => ?_⟩⟩
      cases r with
      | inl s' => exact hr
      | inr b => exact (hk b t).2 hr

@[simp] theorem wp_bind_eq {p : Prog S α} {f : α → Prog S β} {Q : β → Trace S → Prop} :
    wp Inv (p >>= f) Q t ↔ wp Inv p (fun a t => wp Inv (f a) Q t) t := wp_bind

/-- A loop with an invariant. -/
theorem wp_iterate {σ : Type} {body : σ → Prog S (σ ⊕ β)} {s : σ} {Q : β → Trace S → Prop}
    (J : σ → Trace S → Prop) (hs : J s t)
    (hJ : ∀ s t, J s t → Inv none t ∧
      wp Inv (body s) (Sum.elim J Q) t) :
    wp Inv (iterate body s) Q t := by
  refine ⟨J, hs, fun s t hst => ⟨(hJ s t hst).1, wp_mono (hJ s t hst).2 fun r t hr => ?_⟩⟩
  cases r <;> exact hr

/-- The trace after a step. -/
def after (t : Trace S) : Option (Event S) → Trace S
  | none => t
  | some e => t ++ [e]

/-- **A step keeps what holds.** -/
theorem wp_step {p p' : Prog S α} {e : Option (Event S)} (hstep : Step p e p')
    (h : wp Inv p Q t) : wp Inv p' Q (after t e) := by
  cases hstep with
  | vis e k a => exact h.2 a
  | loop body s k =>
    obtain ⟨J, hs, hJ⟩ := h
    refine wp_bind.2 (wp_mono (hJ s t hs).2 fun r t hr => ?_)
    cases r with
    | inl s' => exact ⟨J, hr, hJ⟩
    | inr b => exact hr

/-- A program stands at an operation or a loop, where the assertion holds, or has returned. -/
theorem wp_inv {p : Prog S α} (h : wp Inv p Q t) :
    (∃ o, Inv o t) ∨ ∃ a, p = ret a ∧ Q a t := by
  cases p with
  | ret a => exact .inr ⟨a, rfl, h⟩
  | vis e k => exact .inl ⟨_, h.1⟩
  | loop body s k =>
    obtain ⟨J, hs, hJ⟩ := h
    exact .inl ⟨_, (hJ s t hs).1⟩

end

/-! ## Which operations a program performs -/

/-- Every operation of the program satisfies `P`. -/
def Only (P : S.Op → Prop) {α : Type} : Prog S α → Prop
  | ret _ => True
  | vis e k => P e ∧ ∀ a, Only P (k a)
  | loop body _ k => (∀ s, Only P (body s)) ∧ ∀ b, Only P (k b)

section
variable {P : S.Op → Prop}

@[simp] theorem only_ret (a : α) : Only P (ret a : Prog S α) := trivial

@[simp] theorem only_pure (a : α) : Only P (pure a : Prog S α) := trivial

@[simp] theorem only_perform (e : S.Op) : Only P (perform e) ↔ P e :=
  ⟨fun h => h.1, fun h => ⟨h, fun _ => trivial⟩⟩

theorem only_mono {P' : S.Op → Prop} {p : Prog S α} (h : Only P p) (hP : ∀ e, P e → P' e) :
    Only P' p := by
  induction p with
  | ret a => trivial
  | vis e k ih => exact ⟨hP e h.1, fun a => ih a (h.2 a)⟩
  | loop body s k ihb ihk => exact ⟨fun s => ihb s (h.1 s), fun b => ihk b (h.2 b)⟩

theorem only_bind {p : Prog S α} {f : α → Prog S β} (hp : Only P p) (hf : ∀ a, Only P (f a)) :
    Only P (p >>= f) := by
  induction p with
  | ret a => exact hf a
  | vis e k ih => exact ⟨hp.1, fun a => ih a (hp.2 a) hf⟩
  | loop body s k _ ih => exact ⟨hp.1, fun b => ih b (hp.2 b) hf⟩

/-- The operations of the first part are among those of the whole. -/
theorem only_of_bind {p : Prog S α} {f : α → Prog S β} (h : Only P (p >>= f)) : Only P p := by
  change Only P (p.bind f) at h
  induction p with
  | ret a => exact only_ret a
  | vis e k ih => exact ⟨h.1, fun a => ih a (h.2 a)⟩
  | loop body s k _ ih => exact ⟨h.1, fun b => ih b (h.2 b)⟩

theorem only_iterate {σ : Type} {body : σ → Prog S (σ ⊕ β)} (h : ∀ s, Only P (body s)) (s : σ) :
    Only P (iterate body s) := ⟨h, fun _ => trivial⟩

/-- **Frame**: what every operation in `P` keeps, a program of such operations keeps. -/
theorem wp_only {Inv : Assertion S} {p : Prog S α} {t : Trace S} (R : Trace S → Prop)
    (h : Only P p) (hR : R t) (hnone : ∀ t, R t → Inv none t)
    (hop : ∀ t e, R t → P e → Inv (some e) t ∧ ∀ a, R (t ++ [⟨e, a⟩])) :
    wp Inv p (fun _ t => R t) t := by
  induction p generalizing t with
  | ret a => exact hR
  | vis e k ih =>
    obtain ⟨hi, ha⟩ := hop t e hR h.1
    exact ⟨hi, fun a => ih a (h.2 a) (ha a)⟩
  | loop body s k ihb ihk =>
    refine ⟨fun _ => R, hR, fun s t hst => ⟨hnone t hst, wp_mono (ihb s (h.1 s) hst) ?_⟩⟩
    intro r t hr
    cases r with
    | inl s' => exact hr
    | inr b => exact ihk b (h.2 b) hr

end

theorem only_true (p : Prog S α) : Only (fun _ => True) p := by
  induction p with
  | ret a => trivial
  | vis e k ih => exact ⟨trivial, ih⟩
  | loop body s k ihb ihk => exact ⟨ihb, ihk⟩

/-- What asserts nothing holds of every program. -/
theorem wp_true (p : Prog S α) (t : Trace S) :
    wp (fun _ _ => True) p (fun _ _ => True) t :=
  wp_only (fun _ => True) (only_true p) trivial (fun _ _ => trivial) fun _ _ _ _ =>
    ⟨trivial, fun _ => trivial⟩

/-! ## Errors -/

/-- An operation, in a program that may fail. -/
def call {ε : Type} (e : S.Op) : ExceptT ε (Prog S) (S.Ans e) := ExceptT.lift (perform e)

/-- `K` of what went well, `Q` of an error. -/
def Then {ε : Type} (K : α → Trace S → Prop) (Q : Except ε β → Trace S → Prop) :
    Except ε α → Trace S → Prop
  | .ok a, t => K a t
  | .error e, t => Q (.error e) t

/-- `K` of what went well, `E` where it failed. -/
def OkOr {ε : Type} (K : α → Trace S → Prop) (E : Trace S → Prop) : Except ε α → Trace S → Prop
  | .ok a, t => K a t
  | .error _, t => E t

/-- The `?` operator on a `Result`: its error becomes `f` of it. -/
def orFail {ε δ : Type} (f : δ → ε) : Except δ α → ExceptT ε (Prog S) α
  | .ok a => pure a
  | .error e => throw (f e)

section
variable {Inv : Assertion S} {t : Trace S} {ε δ : Type}

@[simp] theorem then_ok {K : α → Trace S → Prop} {Q : Except ε β → Trace S → Prop} (a : α) :
    Then K Q (.ok a) t ↔ K a t := Iff.rfl

@[simp] theorem then_error {K : α → Trace S → Prop} {Q : Except ε β → Trace S → Prop} (e : ε) :
    Then K Q (.error e) t ↔ Q (.error e) t := Iff.rfl

@[simp] theorem wp_map {f : α → β} {p : Prog S α} {Q : β → Trace S → Prop} :
    wp Inv (f <$> p) Q t ↔ wp Inv p (fun a t => Q (f a) t) t := wp_bind

theorem wp_run_bind {x : ExceptT ε (Prog S) α} {f : α → ExceptT ε (Prog S) β}
    {Q : Except ε β → Trace S → Prop} :
    wp Inv (x >>= f).run Q t ↔ wp Inv x.run (Then (fun a => wp Inv (f a).run Q) Q) t := by
  rw [ExceptT.run_bind, wp_bind_eq]
  refine ⟨fun h => wp_mono h fun r t hr => ?_, fun h => wp_mono h fun r t hr => ?_⟩ <;>
    cases r <;> exact hr

@[simp] theorem okOr_ok {K : α → Trace S → Prop} {E : Trace S → Prop} (a : α) :
    OkOr K E (.ok a : Except ε α) t ↔ K a t := Iff.rfl

@[simp] theorem okOr_error {K : α → Trace S → Prop} {E : Trace S → Prop} (e : ε) :
    OkOr K E (.error e) t ↔ E t := Iff.rfl

/-- **Sequencing of what may fail.** -/
theorem wp_run_seq {x : ExceptT ε (Prog S) α} {f : α → ExceptT ε (Prog S) β}
    {K : α → Trace S → Prop} {E : Trace S → Prop} {Q : Except ε β → Trace S → Prop}
    (hx : wp Inv x.run (OkOr K E) t) (hok : ∀ a t, K a t → wp Inv (f a).run Q t)
    (herr : ∀ e t, E t → Q (.error e) t) : wp Inv (x >>= f).run Q t := by
  refine wp_run_bind.2 (wp_mono hx fun r t hr => ?_)
  cases r with
  | ok a => exact hok a t hr
  | error e => exact herr e t hr

@[simp] theorem wp_lift {p : Prog S α} {Q : Except ε α → Trace S → Prop} :
    wp Inv (ExceptT.lift p : ExceptT ε (Prog S) α).run Q t ↔ wp Inv p (fun a => Q (.ok a)) t :=
  wp_map

@[simp] theorem wp_orFail (f : δ → ε) (r : Except δ α) {Q : Except ε α → Trace S → Prop} :
    wp Inv (orFail f r : ExceptT ε (Prog S) α).run Q t ↔ Q (r.mapError f) t := by
  cases r <;> exact Iff.rfl

section
variable {P : S.Op → Prop}

theorem only_run_bind {x : ExceptT ε (Prog S) α} {f : α → ExceptT ε (Prog S) β}
    (hx : Only P x.run) (hf : ∀ a, Only P (f a).run) : Only P (x >>= f).run := by
  rw [ExceptT.run_bind]
  refine only_bind hx fun r => ?_
  cases r with
  | ok a => exact hf a
  | error e => exact only_pure _

theorem only_lift {p : Prog S α} (hp : Only P p) :
    Only P (ExceptT.lift p : ExceptT ε (Prog S) α).run := only_bind hp fun _ => trivial

theorem only_orFail (f : δ → ε) (r : Except δ α) :
    Only P (orFail f r : ExceptT ε (Prog S) α).run := by
  cases r <;> exact trivial

end

end

end Prog

/-! ## Threads -/

/-- The events of a trace respect an assertion: it held where each operation was performed. -/
inductive Respects {S : Sig} (Inv : Prog.Assertion S) : Trace S → Prop
  | nil : Respects Inv []
  | snoc {t : Trace S} {e : Event S} (h : Respects Inv t) (he : Inv (some e.op) t) :
      Respects Inv (t ++ [e])

theorem Respects.at {S : Sig} {Inv : Prog.Assertion S} {t pre post : Trace S} {e : Event S}
    (h : Respects Inv t) (ht : t = pre ++ e :: post) : Inv (some e.op) pre := by
  induction h generalizing post with
  | nil => simp at ht
  | @snoc t e' _ he ih =>
    rcases List.eq_nil_or_concat post with rfl | ⟨post', e'', rfl⟩
    · obtain ⟨rfl, h⟩ := List.append_inj' ht rfl
      cases h
      exact he
    · rw [List.concat_eq_append, ← List.cons_append, ← List.append_assoc] at ht
      exact ih (List.append_inj' ht rfl).1

/-- Every event was allowed where it was performed. -/
theorem Respects.mem {S : Sig} {Inv : Prog.Assertion S} {t : Trace S} {e : Event S}
    (h : Respects Inv t) (he : e ∈ t) : ∃ t', t' <+: t ∧ Inv (some e.op) t' := by
  obtain ⟨pre, post, rfl⟩ := List.append_of_mem he
  exact ⟨pre, List.prefix_append _ _, h.at rfl⟩

theorem Respects.mono {S : Sig} {Inv Inv' : Prog.Assertion S} {t : Trace S} (h : Respects Inv t)
    (hle : ∀ o t, Inv o t → Inv' o t) : Respects Inv' t := by
  induction h with
  | nil => exact .nil
  | snoc _ he ih => exact .snoc ih (hle _ _ he)

/-- What no allowed event shows, the trace does not show. -/
theorem Respects.filterMap_eq_nil {S : Sig} {Inv : Prog.Assertion S} {t : Trace S} {B : Type}
    {f : Event S → Option B} (h : Respects Inv t)
    (hf : ∀ op a t, Inv (some op) t → f ⟨op, a⟩ = none) : t.filterMap f = [] := by
  refine List.filterMap_eq_nil_iff.2 fun e he => ?_
  obtain ⟨t', -, hallowed⟩ := h.mem he
  exact hf _ _ _ hallowed

/-- A program and the events behind it. -/
structure Thread (S : Sig) (α : Type) where
  prog : Prog S α
  trace : Trace S

namespace Thread

variable {S : Sig} {α : Type}

/-- A thread that has not begun. -/
def new (p : Prog S α) : Thread S α := ⟨p, []⟩

inductive Step : Thread S α → Option (Event S) → Thread S α → Prop
  | mk {p p' : Prog S α} {e : Option (Event S)} (t : Trace S) (h : Prog.Step p e p') :
      Step ⟨p, t⟩ e ⟨p', Prog.after t e⟩

/-- The thread has returned. -/
def done (th : Thread S α) : Bool :=
  match th.prog with
  | .ret _ => true
  | _ => false

/-- What holds of a thread: of the events behind it, and of the program it still has to run. -/
structure Holds (Inv : Prog.Assertion S) (Q : α → Trace S → Prop) (th : Thread S α) : Prop where
  respects : Respects Inv th.trace
  wp : th.prog.wp Inv Q th.trace

variable {Inv : Prog.Assertion S} {Q : α → Trace S → Prop} {th th' : Thread S α}

theorem Holds.new {p : Prog S α} (h : p.wp Inv Q []) : (Thread.new p).Holds Inv Q := ⟨.nil, h⟩

theorem Step.trace {e : Option (Event S)} (h : Step th e th') :
    th'.trace = Prog.after th.trace e := by
  cases h
  rfl

/-- A thread performs its next operation. -/
theorem Step.performs (op : S.Op) (a : S.Ans op) {k : S.Ans op → Prog S α}
    (h : th.prog = .vis op k) : Step th (some ⟨op, a⟩) ⟨k a, th.trace ++ [⟨op, a⟩]⟩ := by
  obtain ⟨prog, t⟩ := th
  cases h
  exact .mk t (.vis op k a)

/-- A thread that has returned takes no step. -/
theorem Step.not_ret {e : Option (Event S)} (h : Step th e th') (a : α) : th.prog ≠ .ret a := by
  obtain ⟨t, hs⟩ := h
  cases hs <;> exact nofun

theorem Holds.allowed {e : Event S} (h : th.Holds Inv Q) (hstep : Step th (some e) th') :
    Inv (some e.op) th.trace := by
  obtain ⟨-, hwp⟩ := h
  cases hstep with
  | mk t hs =>
    cases hs with
    | vis e k a => exact hwp.1

/-- **A step keeps what holds of a thread.** -/
theorem Holds.step {e : Option (Event S)} (h : th.Holds Inv Q) (hstep : Step th e th') :
    th'.Holds Inv Q := by
  obtain ⟨hr, hwp⟩ := h
  cases hstep with
  | @mk p p' e t hs =>
    refine ⟨?_, Prog.wp_step hs hwp⟩
    cases hs with
    | vis e k a => exact .snoc hr hwp.1
    | loop body s k => exact hr

theorem done_iff : th.done = true ↔ ∃ a, th.prog = .ret a := by
  unfold done
  split <;> simp_all

/-- **Progress**: a thread has returned, enters a loop, or awaits the answer of an operation. -/
theorem Holds.progress (h : th.Holds Inv Q) :
    (∃ a, th.prog = .ret a ∧ Q a th.trace) ∨ (∃ th', Step th none th') ∨
      ∃ op, Inv (some op) th.trace ∧ ∀ a, ∃ th', Step th (some ⟨op, a⟩) th' := by
  obtain ⟨prog, trace⟩ := th
  have hwp := h.wp
  cases prog with
  | ret a => exact .inl ⟨a, rfl, hwp⟩
  | vis e k => exact .inr (.inr ⟨e, hwp.1, fun a => ⟨_, .mk trace (.vis e k a)⟩⟩)
  | loop body i k => exact .inr (.inl ⟨_, .mk trace (.loop body i k)⟩)

theorem Holds.done (h : th.Holds Inv Q) (hd : th.done = true) : ∃ a, Q a th.trace := by
  obtain ⟨a, ha⟩ := done_iff.1 hd
  have := h.wp
  rw [ha] at this
  exact ⟨a, this⟩

end Thread

namespace Prog

variable {S : Sig} {α β : Type}

/-! ## Runs to the end -/

/-- The program returns, with the environment's state going from the first to the last; `answer`
says what the environment may answer, and its state after that. -/
inductive Exec {E : Type} (answer : E → Event S → E → Prop) :
    {α : Type} → Prog S α → E → α → E → Prop
  | ret {α : Type} (a : α) (s : E) : Exec answer (ret a) s a s
  | vis {α : Type} {e : S.Op} {k : S.Ans e → Prog S α} {a : S.Ans e} {s s' s'' : E} {b : α}
      (h : answer s ⟨e, a⟩ s') (hk : Exec answer (k a) s' b s'') : Exec answer (vis e k) s b s''
  | again {α σ β : Type} {body : σ → Prog S (σ ⊕ β)} {i i' : σ} {k : β → Prog S α}
      {s s' s'' : E} {b : α} (h : Exec answer (body i) s (.inl i') s')
      (hk : Exec answer (loop body i' k) s' b s'') : Exec answer (loop body i k) s b s''
  | leave {α σ β : Type} {body : σ → Prog S (σ ⊕ β)} {i : σ} {c : β} {k : β → Prog S α}
      {s s' s'' : E} {b : α} (h : Exec answer (body i) s (.inr c) s')
      (hk : Exec answer (k c) s' b s'') : Exec answer (loop body i k) s b s''

section
variable {E : Type} {answer : E → Event S → E → Prop} {s s'' : E}

@[simp] theorem exec_ret {a b : α} : Exec answer (ret a) s b s'' ↔ b = a ∧ s'' = s := by
  constructor
  · intro h
    cases h
    exact ⟨rfl, rfl⟩
  · rintro ⟨rfl, rfl⟩
    exact .ret _ _

@[simp] theorem exec_vis {e : S.Op} {k : S.Ans e → Prog S α} {b : α} :
    Exec answer (vis e k) s b s'' ↔ ∃ a s', answer s ⟨e, a⟩ s' ∧ Exec answer (k a) s' b s'' := by
  constructor
  · intro h
    cases h with
    | vis h hk => exact ⟨_, _, h, hk⟩
  · rintro ⟨a, s', h, hk⟩
    exact .vis h hk

theorem exec_perform {e : S.Op} {a : S.Ans e} (h : answer s ⟨e, a⟩ s'') :
    Exec answer (perform e) s a s'' := .vis h (.ret _ _)

/-- A loop's body is run once, and then the loop again or what follows it. -/
theorem exec_loop {σ : Type} {body : σ → Prog S (σ ⊕ β)} {i : σ} {k : β → Prog S α} {b : α} :
    Exec answer (loop body i k) s b s'' ↔ ∃ r s', Exec answer (body i) s r s' ∧
      match r with
      | .inl i' => Exec answer (loop body i' k) s' b s''
      | .inr c => Exec answer (k c) s' b s'' := by
  constructor
  · intro h
    cases h with
    | again h hk => exact ⟨_, _, h, hk⟩
    | leave h hk => exact ⟨_, _, h, hk⟩
  · rintro ⟨r, s', h, hk⟩
    cases r with
    | inl i' => exact .again h hk
    | inr c => exact .leave h hk

/-- **Sequencing.** -/
theorem exec_bind {p : Prog S α} {f : α → Prog S β} {b : β} :
    Exec answer (p.bind f) s b s'' ↔
      ∃ a s', Exec answer p s a s' ∧ Exec answer (f a) s' b s'' := by
  constructor
  · intro h
    generalize hq : p.bind f = q at h
    induction h generalizing p with
    | ret c s =>
      cases p with
      | ret a => exact ⟨a, s, .ret a s, (show f a = .ret c from hq) ▸ .ret c s⟩
      | vis e k => cases hq
      | loop body i k => cases hq
    | @vis _ e k a s s' s'' b h hk ih =>
      cases p with
      | ret c => exact ⟨c, s, .ret c s, (show f c = .vis e k from hq) ▸ .vis h hk⟩
      | vis e' k' =>
        cases hq
        obtain ⟨c, s1, h1, h2⟩ := ih rfl
        exact ⟨c, s1, .vis h h1, h2⟩
      | loop body i k' => cases hq
    | @again _ _ _ body i i' k s s' s'' b h hk _ ih =>
      cases p with
      | ret c => exact ⟨c, s, .ret c s, (show f c = .loop body i k from hq) ▸ .again h hk⟩
      | vis e' k' => cases hq
      | loop body' j k' =>
        cases hq
        obtain ⟨c, s1, h1, h2⟩ := ih (p := .loop body i' k') rfl
        exact ⟨c, s1, .again h h1, h2⟩
    | @leave _ _ _ body i d k s s' s'' b h hk _ ih =>
      cases p with
      | ret c => exact ⟨c, s, .ret c s, (show f c = .loop body i k from hq) ▸ .leave h hk⟩
      | vis e' k' => cases hq
      | loop body' j k' =>
        cases hq
        obtain ⟨c, s1, h1, h2⟩ := ih rfl
        exact ⟨c, s1, .leave h h1, h2⟩
  · rintro ⟨a, s', h, hf⟩
    induction h with
    | ret a s => exact hf
    | vis h hk ih => exact .vis h (ih hf)
    | again h hk _ ih => exact .again h (ih hf)
    | leave h hk _ ih => exact .leave h (ih hf)

end

end Prog
