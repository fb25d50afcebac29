import Ppaass.Lib.Tasks

/-!
# Values that were drawn before they are used

A program draws values (`draws`, of an event) and uses them (`uses`, of an operation): random keys,
for one. `Draw.Sound` says that wherever the program is started, each value it uses has been drawn
before; a sound program may be followed by another (`Sound.bind`).

`Tasks.Drawn` is the same of a main program and the tasks it has spawned, which use what the main
program has drawn. A step of any of them keeps it.
-/

open Prog

structure Draw (S : Sig) (V : Type) where
  uses : S.Op → Option V
  draws : Event S → Option V

namespace Draw

variable {S : Sig} {V α β ε : Type} (d : Draw S V)

/-- The values that were drawn. -/
def drawn (t : Trace S) : List V := t.filterMap d.draws

/-- The values that were used. -/
def used (t : Trace S) : List V := t.filterMap fun e => d.uses e.op

/-- A value is used only once it is drawn. -/
def fresh : Assertion S
  | none, _ => True
  | some op, t => ∀ v ∈ d.uses op, v ∈ d.drawn t

/-- The operation uses no other value than this. -/
def UsesOnly (o : Option V) (op : S.Op) : Prop := ∀ v ∈ d.uses op, v ∈ o

/-- No other value than this is used. -/
def only (o : Option V) : Assertion S
  | none, _ => True
  | some op, _ => d.UsesOnly o op

def Sound (p : Prog S α) : Prop := ∀ t, wp d.fresh p (fun _ _ => True) t

variable {d}

theorem drawn_mono {t : Trace S} {e : Event S} {v : V} (h : v ∈ d.drawn t) :
    v ∈ d.drawn (t ++ [e]) := by
  unfold drawn at h ⊢
  rw [List.filterMap_append]
  exact List.mem_append_left _ h

theorem usesOnly_of_none {o : Option V} {op : S.Op} (h : d.uses op = none) : d.UsesOnly o op := by
  intro v hv
  rw [h] at hv
  cases hv

theorem fresh_of_none {op : S.Op} {t : Trace S} (h : d.uses op = none) : d.fresh (some op) t := by
  intro v hv
  rw [h] at hv
  cases hv

/-- What uses only a value that is drawn. -/
theorem wp_fresh_of_only {o : Option V} {p : Prog S α} {t : Trace S}
    (h : Only (d.UsesOnly o) p) (ho : ∀ v ∈ o, v ∈ d.drawn t) :
    wp d.fresh p (fun _ _ => True) t := by
  have hkeep : wp d.fresh p (fun _ t => ∀ v ∈ o, v ∈ d.drawn t) t := by
    apply wp_only _ h ho (fun t ht => trivial)
    intro t op ht hop
    exact ⟨fun v hv => ht v (hop v hv), fun a v hv => drawn_mono (ht v hv)⟩
  exact wp_mono hkeep fun _ _ _ => trivial

/-- A program that uses no value is sound. -/
theorem sound_of_only {p : Prog S α} (h : Only (d.UsesOnly none) p) : d.Sound p :=
  fun t => wp_fresh_of_only h (by simp)

theorem Sound.bind {p : Prog S α} {f : α → Prog S β} (hp : d.Sound p) (hf : ∀ a, d.Sound (f a)) :
    d.Sound (p >>= f) := by
  intro t
  rw [wp_bind_eq]
  exact wp_mono (hp t) fun a t _ => hf a t

theorem Sound.run_bind {x : ExceptT ε (Prog S) α} {f : α → ExceptT ε (Prog S) β}
    (hx : d.Sound x.run) (hf : ∀ a, d.Sound (f a).run) : d.Sound (x >>= f).run := by
  rw [ExceptT.run_bind]
  refine hx.bind fun r => ?_
  cases r with
  | ok a => exact hf a
  | error e => exact fun t => trivial

/-- The trace of a sound program uses what it has drawn. -/
theorem used_of_respects {t : Trace S} (h : Respects d.fresh t) {v : V} (hv : v ∈ d.used t) :
    v ∈ d.drawn t := by
  obtain ⟨e, he, hev⟩ := List.mem_filterMap.1 hv
  obtain ⟨t', ⟨rest, rfl⟩, hfresh⟩ := h.mem he
  unfold drawn
  rw [List.filterMap_append]
  exact List.mem_append_left _ (hfresh v hev)

theorem used_of_only {t : Trace S} {o : Option V} (h : Respects (d.only o) t) {v : V}
    (hv : v ∈ d.used t) : v ∈ o := by
  obtain ⟨e, he, hev⟩ := List.mem_filterMap.1 hv
  obtain ⟨t', -, honly⟩ := h.mem he
  exact honly v hev

end Draw

/-! ## A main program and the tasks it spawns -/

namespace Tasks

variable {S : Sig} {V α : Type} (d : Draw S V) (spawn : Spawn S)

/-- Each task uses at most the value that it was spawned with. -/
def SpawnsOnly : Prop :=
  ∀ {op side p}, spawn op = some (side, p) → wp (d.only (d.uses op)) p (fun _ _ => True) []

/-- The main program uses what it has drawn, and so does each task it has spawned. -/
structure Drawn (g : Tasks S α) : Prop where
  main : g.main.Holds d.fresh fun _ _ => True
  task : ∀ {side th}, g.task side = some th → ∃ o : Option V,
    (∀ v ∈ o, v ∈ d.drawn g.main.trace) ∧ th.Holds (d.only o) fun _ _ => True

variable {d spawn} {g g' : Tasks S α} {side : Option Side} {e : Option (Event S)}

theorem Drawn.new {p : Prog S α} (h : d.Sound p) : Drawn d (Tasks.new p) where
  main := .new (h [])
  task := by simp [Tasks.new]

/-- **A step of any task keeps it.** -/
theorem Drawn.step (hspawn : SpawnsOnly d spawn) (h : Drawn d g) (hstep : Step spawn g side e g') :
    Drawn d g' := by
  cases hstep with
  | @task e side th th' hside hs =>
    refine { h with task := fun {s x} hx => ?_ }
    by_cases hss : s = side
    · subst hss
      simp only [Function.update_self, Option.some.injEq] at hx
      subst hx
      obtain ⟨o, ho, hth⟩ := h.task hside
      exact ⟨o, ho, hth.step hs⟩
    · simp only [Function.update_of_ne hss] at hx
      exact h.task hx
  | @main e th hs =>
    have hmain := h.main.step hs
    have hgrow : ∀ v, v ∈ d.drawn g.main.trace → v ∈ d.drawn th.trace := by
      intro v hv
      rw [hs.trace]
      cases e with
      | none => exact hv
      | some e => exact Draw.drawn_mono hv
    have htask : ∀ {s x}, g.task s = some x → ∃ o : Option V,
        (∀ v ∈ o, v ∈ d.drawn th.trace) ∧ x.Holds (d.only o) fun _ _ => True := by
      intro s x hx
      obtain ⟨o, ho, hth⟩ := h.task hx
      exact ⟨o, fun v hv => hgrow v (ho v hv), hth⟩
    unfold spawned
    split
    · exact ⟨hmain, htask⟩
    · next side p hsome =>
      refine ⟨hmain, fun {s x} hx => ?_⟩
      by_cases hss : s = side
      · -- the task that was spawned just now
        subst hss
        simp only [Function.update_self, Option.some.injEq] at hx
        subst hx
        cases e with
        | none => cases hsome
        | some e =>
          exact ⟨d.uses e.op, fun v hv => hgrow v (h.main.allowed hs v hv), .new (hspawn hsome)⟩
      · simp only [Function.update_of_ne hss] at hx
        exact htask hx

/-- What a step uses the main program has drawn before. -/
theorem Drawn.allowed {e : Event S} (h : Drawn d g) (hstep : Step spawn g side (some e) g') :
    ∀ v ∈ d.uses e.op, v ∈ d.drawn g.main.trace := by
  intro v hv
  cases hstep with
  | main hs => exact h.main.allowed hs v hv
  | task hside hs =>
    obtain ⟨o, ho, hth⟩ := h.task hside
    exact ho v (hth.allowed hs v hv)

/-- Whatever is used, by any of the tasks, was drawn by the main program. -/
theorem Drawn.used_main (h : Drawn d g) {v : V} (hv : v ∈ d.used g.events) :
    v ∈ d.drawn g.main.trace := by
  have htask : ∀ side, v ∈ d.used (g.trace (some side)) → v ∈ d.drawn g.main.trace := by
    intro side hv
    cases hside : g.task side with
    | none => simp [trace, hside, Draw.used] at hv
    | some th =>
      obtain ⟨o, ho, hth⟩ := h.task hside
      rw [trace, hside] at hv
      exact ho v (Draw.used_of_only hth.respects hv)
  simp only [events, Draw.used, List.filterMap_append, List.mem_append] at hv
  obtain (hv | hv) | hv := hv
  · exact Draw.used_of_respects h.main.respects hv
  · exact htask .up hv
  · exact htask .down hv

/-- **Whatever is used, by any of the tasks, was drawn.** -/
theorem Drawn.used_drawn (h : Drawn d g) {v : V} (hv : v ∈ d.used g.events) :
    v ∈ d.drawn g.events := by
  have hmain := h.used_main hv
  simp only [events, Draw.drawn, List.filterMap_append, List.mem_append]
  exact .inl (.inl hmain)

end Tasks
