import Ppaass.Lib.BlockMode

/-!
# What ECB mode shows

A block of a ciphertext depends on the block of the padded message at its place and on nothing else,
and a different block gives a different one. So blocks of ciphertexts under one key are equal
exactly where those of the padded messages are (`BlockCipher.ciphertext_blocks`), in one message or
between two, and ciphertexts are equal exactly where the messages are
(`BlockCipher.ciphertext_inj`).
-/

namespace BlockMode

open Wire

/-- The bytes at the place of the `i`-th block, none past the end. -/
def blockAt (n i : Nat) (buf : Bytes) : Bytes := (buf.drop (n * i)).take n

/-- A message with its padding. -/
def padded (n : Nat) (msg : Bytes) : Bytes :=
  msg ++ padding (n * (msg.length / n + 1) - msg.length)

section
variable {n : Nat} {f : Block n → Block n}

theorem blockAt_succ (n i : Nat) (buf : Bytes) :
    blockAt n (i + 1) buf = blockAt n i (buf.drop n) := by
  rw [blockAt, blockAt, List.drop_drop, Nat.mul_succ, Nat.add_comm]

theorem blockAt_length {i k : Nat} {buf : Bytes} (hi : i < k) (hbuf : buf.length = n * k) :
    (blockAt n i buf).length = n := by
  have hle : n * (i + 1) ≤ n * k := Nat.mul_le_mul_left n hi
  rw [Nat.mul_succ] at hle
  rw [blockAt, List.length_take, List.length_drop, hbuf]
  omega

theorem blockAt_past {i k : Nat} {buf : Bytes} (hi : k ≤ i) (hbuf : buf.length = n * k) :
    blockAt n i buf = [] := by
  have hle : n * k ≤ n * i := Nat.mul_le_mul_left n hi
  rw [blockAt, List.drop_eq_nil_of_le (by omega), List.take_nil]

theorem padded_length_eq (hn : 0 < n) (msg : Bytes) :
    (padded n msg).length = n * (msg.length / n + 1) := by
  have hpad := BlockCipher.padded_length hn msg.length
  rw [padded, List.length_append, padding, List.length_replicate]
  omega

/-- **A block is the image of the block at its place.** -/
theorem ecb_blockAt {i k : Nat} {buf : Bytes} (hi : i < k) (hbuf : buf.length = n * k) :
    blockAt n i (ecb f k buf) = (f ⟨blockAt n i buf, blockAt_length hi hbuf⟩).1 := by
  induction k generalizing i buf with
  | zero => cases hi
  | succ k ih =>
    rw [Nat.mul_succ] at hbuf
    have hfirst : (buf.take n).length = n := by
      rw [List.length_take]
      omega
    have hrest : (buf.drop n).length = n * k := by
      rw [List.length_drop]
      omega
    rw [ecb, dif_pos hfirst]
    cases i with
    | zero => simp [blockAt, List.take_left' (f ⟨buf.take n, hfirst⟩).2]
    | succ i =>
      simp only [blockAt_succ, List.drop_left' (f ⟨buf.take n, hfirst⟩).2]
      exact ih (Nat.lt_of_succ_lt_succ hi) hrest

end

namespace BlockCipher

variable {Key : Type} {n : Nat} {c : BlockCipher Key n}

theorem encrypt_inj {key : Key} {a b : Block n} : c.encrypt key a = c.encrypt key b ↔ a = b := by
  refine ⟨fun h => ?_, fun h => h ▸ rfl⟩
  rw [← c.decrypt_encrypt key a, h, c.decrypt_encrypt]

/-- **Blocks of ciphertexts are equal where those of the messages are.** -/
theorem ciphertext_blocks (hn : 0 < n) (key : Key) (x y : Bytes) (i j : Nat) :
    blockAt n i (c.ciphertext key x) = blockAt n j (c.ciphertext key y) ↔
      blockAt n i (padded n x) = blockAt n j (padded n y) := by
  have hx := padded_length_eq hn x
  have hy := padded_length_eq hn y
  have hcx := ciphertext_length (c := c) hn key x
  have hcy := ciphertext_length (c := c) hn key y
  have hne : ∀ {b : Bytes}, b.length = n → b ≠ [] := by
    rintro b hb rfl
    rw [← hb] at hn
    exact Nat.lt_irrefl 0 hn
  by_cases hi : i < x.length / n + 1
  · by_cases hj : j < y.length / n + 1
    · unfold ciphertext
      rw [← padded, ← padded, ecb_blockAt hi hx, ecb_blockAt hj hy, ← Subtype.ext_iff, encrypt_inj,
        Subtype.ext_iff]
    · rw [blockAt_past (Nat.not_lt.1 hj) hcy, blockAt_past (Nat.not_lt.1 hj) hy]
      exact iff_of_false (hne (blockAt_length hi hcx)) (hne (blockAt_length hi hx))
  · rw [blockAt_past (Nat.not_lt.1 hi) hcx, blockAt_past (Nat.not_lt.1 hi) hx]
    by_cases hj : j < y.length / n + 1
    · exact iff_of_false (hne (blockAt_length hj hcy)).symm (hne (blockAt_length hj hy)).symm
    · rw [blockAt_past (Nat.not_lt.1 hj) hcy, blockAt_past (Nat.not_lt.1 hj) hy]

theorem ciphertext_inj (hn : 0 < n) (hn' : n < 256) {key : Key} {x y : Bytes} :
    c.ciphertext key x = c.ciphertext key y ↔ x = y := by
  refine ⟨fun h => ?_, fun h => h ▸ rfl⟩
  obtain ⟨plain, hplain, hx⟩ := decrypt_encrypt_ecb (c := c) hn hn' key x
  obtain ⟨plain', hplain', hy⟩ := decrypt_encrypt_ecb (c := c) hn hn' key y
  rw [h, hplain'] at hplain
  obtain ⟨hsame, hlen⟩ := Prod.mk.inj (Option.some.inj hplain)
  rw [← hx, ← hy, hsame, hlen]

end BlockCipher

end BlockMode
