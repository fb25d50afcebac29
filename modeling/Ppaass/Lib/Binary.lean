import Ppaass.Lib.Bytes

/-!
# Binary formats

A `Format` writes a value as bytes and reads one back from the front of a byte string. It carries
its law: what was written for a `Valid` value is read back as that value, whatever follows. The
combinators keep the law, so a record's or a variant's format is lawful by construction. `Fits` is
for values that are valid unless they are too long to be written.
-/

namespace Wire

structure Format (α : Type) where
  put : α → Bytes
  get : Bytes → Option (α × Bytes)
  /-- the values that survive the format -/
  Valid : α → Prop
  get_put : ∀ a rest, Valid a → get (put a ++ rest) = some (a, rest)

namespace Format

variable {α β : Type}

/-- `k` bytes, little endian. -/
def le (k : Nat) : Format Nat where
  put n := leBytes k n
  get bs := if k ≤ bs.length then some (ofLe (bs.take k), bs.drop k) else none
  Valid n := n < 256 ^ k
  get_put n rest h := by
    rw [if_pos (by simp), List.take_left' (leBytes_length k n),
      List.drop_left' (leBytes_length k n), ofLe_leBytes, Nat.mod_eq_of_lt h]

/-- Bytes that are known to be `k` in number. -/
def take (k : Nat) : Format Bytes where
  put bs := bs
  get bs := if k ≤ bs.length then some (bs.take k, bs.drop k) else none
  Valid bs := bs.length = k
  get_put bs rest h := by
    rw [if_pos (by simp [h]), List.take_left' h, List.drop_left' h]

/-- The values of `f` that `g` reads back. -/
def filterMap (t : Format α) (f : β → α) (g : α → Option β) : Format β where
  put b := t.put (f b)
  get bs := (t.get bs).bind fun (a, rest) => (g a).map fun b => (b, rest)
  Valid b := t.Valid (f b) ∧ g (f b) = some b
  get_put b rest h := by
    simp only [t.get_put _ _ h.1, Option.bind_some, h.2, Option.map_some]

/-- A format for `β` through one for `α`. -/
def map (t : Format α) (f : β → α) (g : α → β) : Format β :=
  t.filterMap f fun a => some (g a)

/-- A value whose format depends on the value before it. -/
def sigma (s : Format α) (t : α → Format β) : Format (α × β) where
  put p := s.put p.1 ++ (t p.1).put p.2
  get bs := (s.get bs).bind fun (a, rest) =>
    ((t a).get rest).map fun (b, rest') => ((a, b), rest')
  Valid p := s.Valid p.1 ∧ (t p.1).Valid p.2
  get_put p rest h := by
    simp only [List.append_assoc, s.get_put _ _ h.1, Option.bind_some, (t p.1).get_put _ _ h.2,
      Option.map_some]

/-- One value after another. -/
def pair (s : Format α) (t : Format β) : Format (α × β) := s.sigma fun _ => t

/-- A variant: a tag of `k` bytes, 0 or 1, then the value. -/
def either (k : Nat) (s : Format α) (t : Format β) : Format (α ⊕ β) where
  put
    | .inl a => (le k).put 0 ++ s.put a
    | .inr b => (le k).put 1 ++ t.put b
  get bs := ((le k).get bs).bind fun
    | (0, rest) => (s.get rest).map fun (a, rest') => (.inl a, rest')
    | (1, rest) => (t.get rest).map fun (b, rest') => (.inr b, rest')
    | _ => none
  Valid
    | .inl a => (le k).Valid 0 ∧ s.Valid a
    | .inr b => (le k).Valid 1 ∧ t.Valid b
  get_put v rest h := by
    cases v with
    | inl a =>
      rw [List.append_assoc, (le k).get_put _ _ h.1, Option.bind_some]
      simp only [s.get_put _ _ h.2, Option.map_some]
    | inr b =>
      rw [List.append_assoc, (le k).get_put _ _ h.1, Option.bind_some]
      simp only [t.get_put _ _ h.2, Option.map_some]

def unit : Format Unit where
  put _ := []
  get bs := some ((), bs)
  Valid _ := True
  get_put _ _ _ := rfl

/-- A byte string behind its length in `k` bytes. -/
def blob (k : Nat) : Format Bytes :=
  ((le k).sigma take).map (fun bs => (bs.length, bs)) fun p => p.2

/-- A string in UTF-8 behind its length in `k` bytes. -/
def text (k : Nat) : Format String := (blob k).filterMap utf8 ofUtf8

theorem valid_blob {k : Nat} {bs : Bytes} (h : bs.length < 256 ^ k) : (blob k).Valid bs :=
  ⟨⟨h, rfl⟩, rfl⟩

/-! ## Values that fit -/

/-- If it is written in at most `n` bytes, it survives. -/
def Fits (t : Format α) (n : Nat) (a : α) : Prop := (t.put a).length ≤ n → t.Valid a

section
variable {s : Format α} {t : Format β} {n k : Nat}

theorem fits_pair {p : α × β} (ha : s.Fits n p.1) (hb : t.Fits n p.2) : (s.pair t).Fits n p := by
  intro h
  have hlen : (s.put p.1).length + (t.put p.2).length ≤ n := by
    rw [← List.length_append]
    exact h
  exact ⟨ha (by omega), hb (by omega)⟩

theorem fits_inl {a : α} (ha : s.Fits n a) : (either k s t).Fits n (.inl a) := by
  intro h
  have hlen : ((le k).put 0).length + (s.put a).length ≤ n := by
    rw [← List.length_append]
    exact h
  exact ⟨show 0 < 256 ^ k by positivity, ha (by omega)⟩

theorem fits_inr {b : β} (hk : 0 < k) (hb : t.Fits n b) : (either k s t).Fits n (.inr b) := by
  intro h
  have hlen : ((le k).put 1).length + (t.put b).length ≤ n := by
    rw [← List.length_append]
    exact h
  exact ⟨Nat.one_lt_pow (by omega) (by decide), hb (by omega)⟩

theorem fits_filterMap {f : β → α} {g : α → Option β} {b : β} (h : s.Fits n (f b))
    (hg : g (f b) = some b) : (s.filterMap f g).Fits n b := fun hlen => ⟨h hlen, hg⟩

theorem fits_map {f : β → α} {g : α → β} {b : β} (h : s.Fits n (f b)) (hg : g (f b) = b) :
    (s.map f g).Fits n b := fits_filterMap h (congrArg some hg)

theorem fits_take {bs : Bytes} (h : bs.length = k) : (take k).Fits n bs := fun _ => h

theorem fits_le {m : Nat} (h : m < 256 ^ k) : (le k).Fits n m := fun _ => h

theorem fits_unit : unit.Fits n () := fun _ => trivial

theorem fits_blob {bs : Bytes} (h : n < 256 ^ k) : (blob k).Fits n bs := by
  intro hlen
  apply valid_blob
  change (leBytes k bs.length ++ bs).length ≤ n at hlen
  rw [List.length_append] at hlen
  omega

theorem fits_text {str : String} (h : n < 256 ^ k) : (text k).Fits n str :=
  fits_filterMap (fits_blob h) (ofUtf8_utf8 str)

end

end Format

end Wire
