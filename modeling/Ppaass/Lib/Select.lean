import Ppaass.Lib.Prog

/-!
# Two programs, until one of them returns

`Select` runs two programs in turns, in any order; as soon as one has returned the other is dropped.
What holds of each of them holds along every run (`Select.Holds.step`).
-/

open Prog

structure Select (S : Sig) (α : Type) where
  left : Thread S α
  right : Thread S α

namespace Select

variable {S : Sig} {α : Type}

def new (p q : Prog S α) : Select S α := ⟨.new p, .new q⟩

/-- One of the two has returned. -/
def done (s : Select S α) : Bool := s.left.done || s.right.done

/-- One of the two takes a step, while neither has returned. -/
inductive Step : Select S α → Option (Event S) → Select S α → Prop
  | left {s : Select S α} {e : Option (Event S)} {th : Thread S α} (hright : s.right.done = false)
      (h : Thread.Step s.left e th) : Step s e { s with left := th }
  | right {s : Select S α} {e : Option (Event S)} {th : Thread S α} (hleft : s.left.done = false)
      (h : Thread.Step s.right e th) : Step s e { s with right := th }

/-- What holds of the two. -/
structure Holds (Inv Inv' : Assertion S) (Q Q' : α → Trace S → Prop) (s : Select S α) : Prop where
  left : s.left.Holds Inv Q
  right : s.right.Holds Inv' Q'

variable {Inv Inv' : Assertion S} {Q Q' : α → Trace S → Prop} {s s' : Select S α}

theorem Holds.new {p q : Prog S α} (hp : wp Inv p Q []) (hq : wp Inv' q Q' []) :
    (Select.new p q).Holds Inv Inv' Q Q' := ⟨.new hp, .new hq⟩

/-- **A step keeps what holds of the two.** -/
theorem Holds.step {e : Option (Event S)} (h : s.Holds Inv Inv' Q Q') (hstep : Step s e s') :
    s'.Holds Inv Inv' Q Q' := by
  cases hstep with
  | left hright hs => exact { h with left := h.left.step hs }
  | right hleft hs => exact { h with right := h.right.step hs }

end Select
