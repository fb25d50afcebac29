import Mathlib.Logic.Relation
import Ppaass.Lib.Select
import Ppaass.Lib.Tasks

/-!
# Programs in an environment

An environment is a relation `answer`: from which state it may answer an event, and to which it goes
then. `Exec` (a program run to its end) is one way to look at it; here are the others.

* `wpIn`: what holds of a program in a state of its environment, with an assertion for the points
  where the program still runs. `wpIn_bind` is the sequence rule and `wpIn_step` says that a step,
  answered by the environment, keeps it.
* `Always`: total correctness. Every run ends, and none of them gets stuck. `Always.bind` is the
  sequence rule and `Always.iterate` that of a loop with a measure; a run that ends is one of them
  (`Always.exec`), and there is one (`Always.exists_exec`).
* `Thread.In`, `Select.In` and `Tasks.In`: the steps of one program, of two until one of them
  returns, and of one with those it spawns. What runs to its end is such a sequence of steps
  (`Thread.reaches_of_exec`, `Select.reaches_of_exec`, `Tasks.reaches_of_exec`).
-/

open Prog

namespace Prog

variable {S : Sig} {α β E ε δ : Type}

/-- `K` of what went well, `Q` of an error. -/
def ThenIn (K : α → E → Prop) (Q : Except ε β → E → Prop) : Except ε α → E → Prop
  | .ok a, s => K a s
  | .error e, s => Q (.error e) s

section
variable (answer : E → Event S → E → Prop) (C : Option S.Op → E → Prop)

/-- The environment answers a step: it stays as it is, or answers the event. -/
def Moves (s : E) : Option (Event S) → E → Prop
  | none, s' => s' = s
  | some e, s' => answer s e s'

/-- At every point where the program still runs, `C` holds of the environment's state; where it has
returned, `Q` does. -/
def wpIn {α : Type} : Prog S α → (α → E → Prop) → E → Prop
  | ret a, Q, s => Q a s
  | vis e k, Q, s => C (some e) s ∧ ∀ a s', answer s ⟨e, a⟩ s' → wpIn (k a) Q s'
  | @loop _ σ _ _ body i k, Q, s =>
    ∃ J : σ → E → Prop, J i s ∧ ∀ i s, J i s → C none s ∧
      wpIn (body i) (Sum.elim J fun b => wpIn (k b) Q) s

variable {answer C} {C' : Option S.Op → E → Prop} {Q Q' : α → E → Prop} {s s' : E}

theorem wpIn_mono {p : Prog S α} (h : wpIn answer C p Q s) (hQ : ∀ a s, Q a s → Q' a s)
    (hC : ∀ o s, C o s → C' o s := by exact fun _ _ h => h) : wpIn answer C' p Q' s := by
  induction p generalizing s with
  | ret a => exact hQ a s h
  | vis e k ih => exact ⟨hC _ _ h.1, fun a s' ha => ih a (h.2 a s' ha) hQ⟩
  | loop body i k ihb ihk =>
    obtain ⟨J, hi, hJ⟩ := h
    refine ⟨J, hi, fun i s his => ⟨hC _ _ (hJ i s his).1, ihb i (hJ i s his).2 fun r s hr => ?_⟩⟩
    cases r with
    | inl i' => exact hr
    | inr b => exact ihk b hr hQ

/-- **Sequencing.** -/
theorem wpIn_bind {p : Prog S α} {f : α → Prog S β} {Q : β → E → Prop}
    (h : wpIn answer C p (fun a s => wpIn answer C (f a) Q s) s) : wpIn answer C (p >>= f) Q s := by
  change wpIn answer C (p.bind f) Q s
  induction p generalizing s with
  | ret a => exact h
  | vis e k ih => exact ⟨h.1, fun a s' ha => ih a (h.2 a s' ha)⟩
  | loop body i k _ ihk =>
    obtain ⟨J, hi, hJ⟩ := h
    refine ⟨J, hi, fun i s his => ⟨(hJ i s his).1, wpIn_mono (hJ i s his).2 fun r s hr => ?_⟩⟩
    cases r with
    | inl i' => exact hr
    | inr b => exact ihk b hr

theorem wpIn_run_bind {x : ExceptT ε (Prog S) α} {f : α → ExceptT ε (Prog S) β}
    {Q : Except ε β → E → Prop}
    (h : wpIn answer C x.run (ThenIn (fun a s => wpIn answer C (f a).run Q s) Q) s) :
    wpIn answer C (x >>= f).run Q s := by
  rw [ExceptT.run_bind]
  refine wpIn_bind (wpIn_mono h fun r s hr => ?_)
  cases r <;> exact hr

theorem wpIn_lift {p : Prog S α} {Q : Except ε α → E → Prop}
    (h : wpIn answer C p (fun a s => Q (.ok a) s) s) :
    wpIn answer C (ExceptT.lift p : ExceptT ε (Prog S) α).run Q s := wpIn_bind h

/-- A loop with an invariant. -/
theorem wpIn_iterate {σ : Type} {body : σ → Prog S (σ ⊕ β)} {i : σ} {Q : β → E → Prop}
    (J : σ → E → Prop) (hi : J i s)
    (hJ : ∀ i s, J i s → C none s ∧ wpIn answer C (body i) (Sum.elim J Q) s) :
    wpIn answer C (iterate body i) Q s := by
  refine ⟨J, hi, fun i s his => ⟨(hJ i s his).1, wpIn_mono (hJ i s his).2 fun r s hr => ?_⟩⟩
  cases r <;> exact hr

/-- **A step keeps what holds**, if the environment answers it. -/
theorem wpIn_step {p p' : Prog S α} {e : Option (Event S)} (hstep : Step p e p')
    (he : Moves answer s e s') (h : wpIn answer C p Q s) : wpIn answer C p' Q s' := by
  cases hstep with
  | vis e k a => exact h.2 a s' he
  | loop body i k =>
    obtain ⟨J, hi, hJ⟩ := h
    cases he
    refine wpIn_bind (wpIn_mono (hJ i s hi).2 fun r s hr => ?_)
    cases r with
    | inl i' => exact ⟨J, hr, hJ⟩
    | inr b => exact hr

theorem allowed_of_threadStep {th th' : Thread S α} {e : Event S}
    (hstep : Thread.Step th (some e) th') (h : wpIn answer C th.prog Q s) : C (some e.op) s := by
  cases hstep with
  | mk t hs =>
    cases hs with
    | vis op k a => exact h.1

theorem wpIn_threadStep {th th' : Thread S α} {e : Option (Event S)} (hstep : Thread.Step th e th')
    (he : Moves answer s e s') (h : wpIn answer C th.prog Q s) : wpIn answer C th'.prog Q s' := by
  cases hstep with
  | mk t hs => exact wpIn_step hs he h

end

theorem Step.enter {σ : Type} (body : σ → Prog S (σ ⊕ β)) (i : σ) (k : β → Prog S α) :
    Step (.loop body i k) none ((body i).bind (Sum.elim (fun i => .loop body i k) k)) := by
  refine Eq.mp (congrArg (fun f => Step _ none ((body i).bind f)) (funext fun r => ?_))
    (Step.loop body i k)
  cases r <;> rfl

/-! ## Runs to the end -/

section
variable {answer : E → Event S → E → Prop} {s s' s'' : E}

variable (answer) in
/-- The program performs an operation that the environment answers. -/
def Answerable : Option S.Op → E → Prop
  | none, _ => False
  | some op, s => ∃ a s', answer s ⟨op, a⟩ s'

/-- **A program without loops, whose every operation is answered, runs to its end.** -/
theorem exists_exec {p : Prog S α} {Q : α → E → Prop}
    (h : wpIn answer (Answerable answer) p Q s) : ∃ b s', Exec answer p s b s' ∧ Q b s' := by
  induction p generalizing s with
  | ret a => exact ⟨a, s, .ret a s, h⟩
  | vis e k ih =>
    obtain ⟨⟨a, s', ha⟩, hk⟩ := h
    obtain ⟨b, s'', hexec, hQ⟩ := ih a (hk a s' ha)
    exact ⟨b, s'', .vis ha hexec, hQ⟩
  | loop body i k =>
    obtain ⟨J, hi, hJ⟩ := h
    exact (hJ i s hi).1.elim

theorem Exec.bind {p : Prog S α} {f : α → Prog S β} {a : α} {b : β} (hp : Exec answer p s a s')
    (hf : Exec answer (f a) s' b s'') : Exec answer (p >>= f) s b s'' :=
  exec_bind.2 ⟨a, s', hp, hf⟩

end

theorem Exec.run_bind {answer : E → Event S → E → Prop} {s s' s'' : E} {x : ExceptT ε (Prog S) α}
    {f : α → ExceptT ε (Prog S) β} {a : α} {r : Except ε β} (hx : Exec answer x.run s (.ok a) s')
    (hf : Exec answer (f a).run s' r s'') : Exec answer (x >>= f).run s r s'' := by
  rw [ExceptT.run_bind]
  exact hx.bind hf

/-! ## Every run ends -/

section
variable (answer : E → Event S → E → Prop) (Q : α → E → Prop)

/-- **Total correctness**: in the environment every run of the program ends, and there `Q` holds. -/
inductive Always : Prog S α → E → Prop
  | ret {a : α} {s : E} (h : Q a s) : Always (ret a) s
  | vis {e : S.Op} {k : S.Ans e → Prog S α} {s : E} (h : ∃ a s', answer s ⟨e, a⟩ s')
      (hk : ∀ a s', answer s ⟨e, a⟩ s' → Always (k a) s') : Always (vis e k) s
  | loop {σ β : Type} {body : σ → Prog S (σ ⊕ β)} {i : σ} {k : β → Prog S α} {s : E}
      (h : Always ((body i).bind (Sum.elim (fun i => .loop body i k) k)) s) :
      Always (.loop body i k) s

end

namespace Always

variable {answer : E → Event S → E → Prop} {Q Q' : α → E → Prop} {s s' : E}

theorem mono {p : Prog S α} (h : Always answer Q p s) (hQ : ∀ a s, Q a s → Q' a s) :
    Always answer Q' p s := by
  induction h with
  | ret h => exact .ret (hQ _ _ h)
  | vis h _ ih => exact .vis h ih
  | loop _ ih => exact .loop ih

/-- **Sequencing.** -/
theorem bind {p : Prog S α} {f : α → Prog S β} {R : β → E → Prop}
    (h : Always answer (fun a s => Always answer R (f a) s) p s) :
    Always answer R (p >>= f) s := by
  change Always answer R (p.bind f) s
  induction h with
  | ret h => exact h
  | vis h _ ih => exact .vis h ih
  | @loop σ γ body i k s _ ih =>
    have hrest : ∀ r, (Sum.elim (fun i => .loop body i k) k r : Prog S α).bind f =
        Sum.elim (fun i => .loop body i fun c => (k c).bind f) (fun c => (k c).bind f) r := by
      intro r
      cases r <;> rfl
    rw [bind_assoc, funext hrest] at ih
    exact .loop ih

theorem run_bind {x : ExceptT ε (Prog S) α} {f : α → ExceptT ε (Prog S) β}
    {R : Except ε β → E → Prop}
    (h : Always answer (ThenIn (fun a s => Always answer R (f a).run s) R) x.run s) :
    Always answer R (x >>= f).run s := by
  rw [ExceptT.run_bind]
  refine bind (h.mono fun r s hr => ?_)
  cases r with
  | ok a => exact hr
  | error e => exact .ret hr

theorem lift {p : Prog S α} {R : Except ε α → E → Prop}
    (h : Always answer (fun a => R (.ok a)) p s) :
    Always answer R (ExceptT.lift p : ExceptT ε (Prog S) α).run s :=
  bind (h.mono fun _ _ ha => .ret ha)

/-- A loop, whose rounds keep `J` and make the measure smaller. -/
theorem iterate {σ : Type} {body : σ → Prog S (σ ⊕ β)} {i : σ} {R : β → E → Prop}
    (J : σ → E → Prop) (μ : σ → E → Nat) (hi : J i s)
    (hJ : ∀ i s, J i s → Always answer
      (Sum.elim (fun i' s' => J i' s' ∧ μ i' s' < μ i s) R) (body i) s) :
    Always answer R (iterate body i) s := by
  induction hn : μ i s using Nat.strongRecOn generalizing i s with
  | _ n ih =>
    refine .loop (bind ((hJ i s hi).mono fun r s' hr => ?_))
    cases r with
    | inl i' => exact ih _ (hn ▸ hr.2) hr.1 rfl
    | inr b => exact .ret hr

/-- A run that ends is one of those. -/
theorem exec {p : Prog S α} {a : α} (hexec : Exec answer p s a s') (h : Always answer Q p s) :
    Q a s' := by
  induction h generalizing s' with
  | ret h =>
    obtain ⟨rfl, rfl⟩ := exec_ret.1 hexec
    exact h
  | vis _ _ ih =>
    obtain ⟨a', s₁, ha, hk⟩ := exec_vis.1 hexec
    exact ih a' s₁ ha hk
  | loop _ ih =>
    obtain ⟨r, s₁, hbody, hrest⟩ := exec_loop.1 hexec
    refine ih (exec_bind.2 ⟨r, s₁, hbody, ?_⟩)
    cases r <;> exact hrest

/-- There is a run, and it ends. -/
theorem exists_exec {p : Prog S α} (h : Always answer Q p s) :
    ∃ a s', Exec answer p s a s' ∧ Q a s' := by
  induction h with
  | ret h => exact ⟨_, _, .ret _ _, h⟩
  | vis h _ ih =>
    obtain ⟨a, s', ha⟩ := h
    obtain ⟨b, s'', hexec, hb⟩ := ih a s' ha
    exact ⟨b, s'', .vis ha hexec, hb⟩
  | loop _ ih =>
    obtain ⟨b, s'', hexec, hb⟩ := ih
    obtain ⟨r, s', hbody, hrest⟩ := exec_bind.1 hexec
    refine ⟨b, s'', ?_, hb⟩
    cases r with
    | inl i' => exact .again hbody hrest
    | inr c => exact .leave hbody hrest

/-- Where it is said what every run comes to, there is a run that comes to it. -/
theorem exec_of_eq {p : Prog S α} {a : α}
    (h : Always answer (fun b t => b = a ∧ t = s') p s) : Exec answer p s a s' := by
  obtain ⟨b, t, hexec, rfl, rfl⟩ := h.exists_exec
  exact hexec

/-- Two specifications have a run in common. -/
theorem exists_both {p : Prog S α} (h : Always answer Q p s) (h' : Always answer Q' p s) :
    ∃ a s', Q a s' ∧ Q' a s' := by
  obtain ⟨a, s', hexec, ha⟩ := h.exists_exec
  exact ⟨a, s', ha, h'.exec hexec⟩

end Always

end Prog

/-! ## One program in an environment -/

namespace Thread

variable {S : Sig} {α E : Type} (answer : E → Event S → E → Prop)

/-- A step, answered by the environment. -/
inductive In : Thread S α × E → Thread S α × E → Prop
  | mk {th th' : Thread S α} {e : Option (Event S)} {s s' : E} (h : th.Step e th')
      (he : Moves answer s e s') : In (th, s) (th', s')

/-- Any number of steps. -/
abbrev Reaches : Thread S α × E → Thread S α × E → Prop := Relation.ReflTransGen (In answer)

variable {answer}

/-- **What runs to its end does so in steps.** -/
theorem reaches_of_exec {β : Type} {p : Prog S β} {b : β} {s s' : E} (h : Exec answer p s b s')
    (k : β → Prog S α) (t : Trace S) :
    ∃ t', Reaches answer (⟨p.bind k, t⟩, s) (⟨k b, t'⟩, s') := by
  induction h generalizing t with
  | ret b s => exact ⟨t, .refl⟩
  | @vis _ e k' a s s' s'' b h _ ih =>
    obtain ⟨t', ht'⟩ := ih k (t ++ [⟨e, a⟩])
    exact ⟨t', .head (.mk (.mk t (.vis e _ a)) h) ht'⟩
  | @again γ σ δ body i i' k' s s' s'' b _ _ ihb ihk =>
    obtain ⟨t₁, h₁⟩ := ihb (Sum.elim (fun i => .loop body i fun c => (k' c).bind k)
      fun c => (k' c).bind k) t
    obtain ⟨t₂, h₂⟩ := ihk k t₁
    exact ⟨t₂, .head (.mk (.mk t (.enter body i _)) rfl) (h₁.trans h₂)⟩
  | @leave γ σ δ body i c k' s s' s'' b _ _ ihb ihk =>
    obtain ⟨t₁, h₁⟩ := ihb (Sum.elim (fun i => .loop body i fun c => (k' c).bind k)
      fun c => (k' c).bind k) t
    obtain ⟨t₂, h₂⟩ := ihk k t₁
    exact ⟨t₂, .head (.mk (.mk t (.enter body i _)) rfl) (h₁.trans h₂)⟩

/-- What a program has done since was answered. -/
theorem Reaches.mem_trace {x y : Thread S α × E} (h : Reaches answer x y) {e : Event S}
    (he : e ∈ y.1.trace) : e ∈ x.1.trace ∨ ∃ s s', answer s e s' := by
  induction h with
  | refl => exact .inl he
  | tail _ hin ih =>
    obtain @⟨_, _, e', s, s', hstep, hmoves⟩ := hin
    rw [hstep.trace] at he
    cases e' with
    | none => exact ih he
    | some e' =>
      rcases List.mem_append.1 he with he | he
      · exact ih he
      · obtain rfl := List.mem_singleton.1 he
        exact .inr ⟨s, s', hmoves⟩

end Thread

/-! ## Two programs in one environment -/

namespace Select

variable {S : Sig} {α E : Type} (answer : E → Event S → E → Prop)

/-- A step of one of the two, answered by the environment. -/
inductive In : Select S α × E → Select S α × E → Prop
  | mk {a a' : Select S α} {e : Option (Event S)} {s s' : E} (h : a.Step e a')
      (he : Moves answer s e s') : In (a, s) (a', s')

/-- Any number of steps. -/
abbrev Reaches : Select S α × E → Select S α × E → Prop := Relation.ReflTransGen (In answer)

variable {answer} {left : Thread S α}

/-- **What runs to its end does so in steps**, while the other program waits. -/
theorem reaches_of_exec {β : Type} (hleft : left.done = false) {p : Prog S β} {b : β} {s s' : E}
    (h : Exec answer p s b s') (k : β → Prog S α) (t : Trace S) :
    ∃ t', Reaches answer (⟨left, ⟨p.bind k, t⟩⟩, s) (⟨left, ⟨k b, t'⟩⟩, s') := by
  obtain ⟨t', ht'⟩ := Thread.reaches_of_exec h k t
  let beside : Thread S α × E → Select S α × E := fun x => (⟨left, x.1⟩, x.2)
  refine ⟨t', ht'.lift beside ?_⟩
  rintro _ _ ⟨hstep, hmoves⟩
  exact .mk (.right hleft hstep) hmoves

/-- A round that does not leave its loop takes it back to the head. -/
theorem reaches_again {σ β : Type} (hleft : left.done = false) {body : σ → Prog S (σ ⊕ β)}
    {i i' : σ} {s s' : E} (h : Exec answer (body i) s (.inl i') s') (k : β → Prog S α)
    (t : Trace S) :
    ∃ t', Reaches answer (⟨left, ⟨.loop body i k, t⟩⟩, s) (⟨left, ⟨.loop body i' k, t'⟩⟩, s') := by
  obtain ⟨t', ht'⟩ := reaches_of_exec hleft h (Sum.elim (fun i => .loop body i k) k) t
  exact ⟨t', .head (.mk (.right hleft (.mk t (.enter body i k))) rfl) ht'⟩

end Select

/-! ## A program and the two it spawns -/

namespace Tasks

variable {S : Sig} {α E : Type} (spawn : Spawn S) (answer : E → Event S → E → Prop)

/-- A step of one of them, and of the environment. -/
inductive In : Tasks S α × E → Tasks S α × E → Prop
  | mk {g g' : Tasks S α} {who : Option Side} {e : Option (Event S)} {s s' : E}
      (h : Step spawn g who e g') (he : Moves answer s e s') : In (g, s) (g', s')

/-- Any number of steps. -/
abbrev Reaches : Tasks S α × E → Tasks S α × E → Prop := Relation.ReflTransGen (In spawn answer)

variable {spawn answer} {g : Tasks S α} {s s' : E}

/-- The main program performs its next operation. -/
theorem in_main (op : S.Op) (a : S.Ans op) {k : S.Ans op → Prog S α} (hg : g.main.prog = .vis op k)
    (h : answer s ⟨op, a⟩ s') :
    In spawn answer (g, s) (spawned spawn
      { g with main := ⟨k a, g.main.trace ++ [⟨op, a⟩]⟩ } (some ⟨op, a⟩), s') :=
  .mk (.main (.performs op a hg)) h

/-- **A task that runs to its end does so in steps**, while the others wait. -/
theorem reaches_of_exec (side : Side) {p : Prog S Unit} {t : Trace S}
    (hth : g.task side = some ⟨p, t⟩) (h : Exec answer p s () s') :
    ∃ t', Reaches spawn answer (g, s)
        ({ g with task := Function.update g.task side (some ⟨.ret (), t'⟩) }, s') ∧
      ∀ e ∈ t', e ∈ t ∨ ∃ s s', answer s e s' := by
  obtain ⟨t', hreach⟩ := Thread.reaches_of_exec h .ret t
  let beside : Thread S Unit × E → Tasks S α × E := fun x =>
    ({ g with task := Function.update g.task side (some x.1) }, x.2)
  have hstart : beside (⟨p.bind .ret, t⟩, s) = (g, s) := by
    simp only [beside, bind_ret, ← hth, Function.update_eq_self]
  refine ⟨t', ?_, fun e he => hreach.mem_trace he⟩
  rw [← hstart]
  refine hreach.lift beside ?_
  rintro _ _ @⟨th, th', e, s₁, s₂, hstep, hmoves⟩
  have htask : Step spawn (beside (th, s₁)).1 (some side) e _ :=
    .task (Function.update_self ..) hstep
  rw [Function.update_idem] at htask
  exact .mk htask hmoves

end Tasks
