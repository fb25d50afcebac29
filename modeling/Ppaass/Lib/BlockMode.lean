import Ppaass.Lib.Bytes

/-!
# Block ciphers in ECB mode with PKCS #7 padding

`BlockCipher Key n` is, per key, a permutation of `n`-byte blocks. `BlockCipher.ecb` applies it
block by block in place, pads a message on encryption and checks and strips the padding on
decryption, as an interface (`PaddedCipher`) that leaves open how it is done.

* `decrypt_encrypt_ecb`: decrypting what was encrypted gives the message back.
* `ciphertext_of_decrypt`: what can be decrypted is the ciphertext of what it is decrypted to.
* `ofPerm`: the cipher of a family of permutations.
-/

namespace BlockMode

open Wire

abbrev Block (n : Nat) := {b : Bytes // b.length = n}

/-- A permutation of `n`-byte blocks for each key. -/
structure BlockCipher (Key : Type) (n : Nat) where
  encrypt : Key → Block n → Block n
  decrypt : Key → Block n → Block n
  decrypt_encrypt : ∀ k b, decrypt k (encrypt k b) = b
  encrypt_decrypt : ∀ k b, encrypt k (decrypt k b) = b

/-- In-place encryption and decryption of a buffer. Both give the buffer's new contents and the
length of its front part that is the result, or fail. -/
structure PaddedCipher (Key : Type) where
  /-- the message is the first `msgLen` bytes of the buffer -/
  encryptPaddedMut : Key → (buf : Bytes) → (msgLen : Nat) → Option (Bytes × Nat)
  decryptPaddedMut : Key → (buf : Bytes) → Option (Bytes × Nat)

/-! ## Block by block -/

/-- `f` on the first `k` blocks of a buffer. -/
def ecb {n : Nat} (f : Block n → Block n) : Nat → Bytes → Bytes
  | 0, buf => buf
  | k + 1, buf =>
    if h : (buf.take n).length = n then (f ⟨buf.take n, h⟩).1 ++ ecb f k (buf.drop n) else buf

section
variable {n : Nat} {f g : Block n → Block n}

@[simp] theorem ecb_length (k : Nat) (buf : Bytes) : (ecb f k buf).length = buf.length := by
  induction k generalizing buf with
  | zero => rfl
  | succ k ih =>
    rw [ecb]
    split
    · rename_i h
      have hn : n ≤ buf.length := by simpa using h
      rw [List.length_append, (f _).2, ih, List.length_drop]
      omega
    · rfl

theorem ecb_ecb (hgf : ∀ b, g (f b) = b) (k : Nat) (buf : Bytes) :
    ecb g k (ecb f k buf) = buf := by
  induction k generalizing buf with
  | zero => rfl
  | succ k ih =>
    by_cases h : (buf.take n).length = n
    · have hlen := (f ⟨buf.take n, h⟩).2
      have htake : ((f ⟨buf.take n, h⟩).1 ++ ecb f k (buf.drop n)).take n =
          (f ⟨buf.take n, h⟩).1 := List.take_left' hlen
      have hdrop : ((f ⟨buf.take n, h⟩).1 ++ ecb f k (buf.drop n)).drop n =
          ecb f k (buf.drop n) := List.drop_left' hlen
      rw [ecb, ecb, dif_pos h, dif_pos (by rw [htake]; exact hlen), hdrop, ih]
      have hblock : (⟨((f ⟨buf.take n, h⟩).1 ++ ecb f k (buf.drop n)).take n, by
          rw [htake]; exact hlen⟩ : Block n) = f ⟨buf.take n, h⟩ := Subtype.ext htake
      rw [hblock, hgf, List.take_append_drop]
    · simp only [ecb, dif_neg h]

/-- Blocks past the first `k` are not touched. -/
theorem ecb_append (k : Nat) {a : Bytes} (b : Bytes) (h : a.length = n * k) :
    ecb f k (a ++ b) = ecb f k a ++ b := by
  induction k generalizing a with
  | zero => rfl
  | succ k ih =>
    rw [Nat.mul_succ] at h
    have htake : (a ++ b).take n = a.take n := List.take_append_of_le_length (by omega)
    have hdrop : (a ++ b).drop n = a.drop n ++ b := List.drop_append_of_le_length (by omega)
    have hlen : (a.take n).length = n := by simp; omega
    simp only [ecb, htake, hdrop, dif_pos hlen]
    rw [ih (by simp; omega), List.append_assoc]

end

/-! ## Padding -/

/-- `p` bytes of value `p`. -/
def padding (p : Nat) : Bytes := List.replicate p (UInt8.ofNat p)

/-- The length of a padded message without its padding of 1 to `n` bytes, each of which holds the
number of them. -/
def unpad (n : Nat) (buf : Bytes) : Option Nat :=
  match buf.getLast? with
  | none => none
  | some p =>
    if p.toNat = 0 ∨ n < p.toNat then none
    else if (buf.drop (buf.length - p.toNat)).all (· == p) then some (buf.length - p.toNat)
    else none

theorem unpad_padding {n p : Nat} (msg : Bytes) (hp : 0 < p) (hpn : p ≤ n) (hn : n < 256) :
    unpad n (msg ++ padding p) = some msg.length := by
  have hto : (UInt8.ofNat p).toNat = p := by rw [UInt8.toNat_ofNat']; omega
  have hlast : (msg ++ padding p).getLast? = some (UInt8.ofNat p) := by
    simp [padding, List.getLast?_append, List.getLast?_replicate, Nat.ne_of_gt hp]
  have hlen : (msg ++ padding p).length - p = msg.length := by simp [padding]
  simp only [unpad, hlast, hto, hlen]
  rw [if_neg (by omega), List.drop_left, if_pos (by simp [padding])]

/-- A message with padding is as long as the message and 1 to `n` bytes more, and ends with the
padding. -/
theorem unpad_eq_some {n len : Nat} {buf : Bytes} (h : unpad n buf = some len)
    (hbuf : n ≤ buf.length) :
    ∃ p, 0 < p ∧ p ≤ n ∧ len + p = buf.length ∧ buf = buf.take len ++ padding p := by
  unfold unpad at h
  split at h
  · cases h
  · rename_i p _
    split at h
    · cases h
    · rename_i hp
      split at h
      · rename_i hall
        cases h
        refine ⟨p.toNat, by omega, by omega, by omega, ?_⟩
        have htail : buf.drop (buf.length - p.toNat) = padding p.toNat := by
          rw [padding, UInt8.ofNat_toNat]
          refine List.eq_replicate_iff.2 ⟨?_, ?_⟩
          · rw [List.length_drop]
            omega
          · intro b hb
            exact beq_iff_eq.1 (List.all_eq_true.1 hall b hb)
        rw [← htail, List.take_append_drop]
      · cases h

/-! ## The mode -/

namespace BlockCipher

variable {Key : Type} {n : Nat} (c : BlockCipher Key n)

/-- The mode: encryption needs room for the padded message in the buffer and leaves what follows it
alone, decryption takes whole blocks only. -/
def ecb : PaddedCipher Key where
  encryptPaddedMut key buf msgLen :=
    let k := msgLen / n + 1
    if msgLen ≤ buf.length ∧ n * k ≤ buf.length then
      some (BlockMode.ecb (c.encrypt key) k
        (buf.take msgLen ++ padding (n * k - msgLen) ++ buf.drop (n * k)), n * k)
    else none
  decryptPaddedMut key buf :=
    if buf.length % n = 0 then
      let plain := BlockMode.ecb (c.decrypt key) (buf.length / n) buf
      (unpad n plain).map fun len => (plain, len)
    else none

/-- The ciphertext of a message. -/
def ciphertext (key : Key) (msg : Bytes) : Bytes :=
  BlockMode.ecb (c.encrypt key) (msg.length / n + 1)
    (msg ++ padding (n * (msg.length / n + 1) - msg.length))

variable {c}

theorem padded_length (hn : 0 < n) (len : Nat) :
    len < n * (len / n + 1) ∧ n * (len / n + 1) ≤ len + n := by
  have hdiv := Nat.div_add_mod len n
  have hmod := Nat.mod_lt len hn
  rw [Nat.mul_succ]
  omega

theorem ciphertext_length (hn : 0 < n) (key : Key) (msg : Bytes) :
    (c.ciphertext key msg).length = n * (msg.length / n + 1) := by
  have := padded_length hn msg.length
  simp only [ciphertext, ecb_length, List.length_append, padding, List.length_replicate]
  omega

/-- With room for the padded message, the front of the buffer becomes its ciphertext and the rest
stays. -/
theorem encryptPaddedMut_eq (hn : 0 < n) (key : Key) (msg rest : Bytes)
    (h : n * (msg.length / n + 1) ≤ (msg ++ rest).length) :
    c.ecb.encryptPaddedMut key (msg ++ rest) msg.length =
      some (c.ciphertext key msg ++ (msg ++ rest).drop (n * (msg.length / n + 1)),
        n * (msg.length / n + 1)) := by
  have hpad := padded_length hn msg.length
  simp only [ecb, ciphertext, List.take_left]
  rw [if_pos ⟨by simp, h⟩, ecb_append]
  simp only [List.length_append, padding, List.length_replicate]
  omega

/-- **Decryption undoes encryption.** -/
theorem decrypt_encrypt_ecb (hn : 0 < n) (hn' : n < 256) (key : Key) (msg : Bytes) :
    ∃ plain, c.ecb.decryptPaddedMut key (c.ciphertext key msg) = some (plain, msg.length) ∧
      plain.take msg.length = msg := by
  have hpad := padded_length hn msg.length
  have hlen : (c.ciphertext key msg).length = n * (msg.length / n + 1) :=
    ciphertext_length hn key msg
  refine ⟨msg ++ padding (n * (msg.length / n + 1) - msg.length), ?_, List.take_left⟩
  simp only [ecb, hlen, Nat.mul_mod_right, if_true, Nat.mul_div_cancel_left _ hn]
  rw [ciphertext, ecb_ecb (c.decrypt_encrypt key),
    unpad_padding msg (by omega) (by omega) hn']
  rfl

/-- A buffer that can be decrypted has a block at least. -/
theorem decryptPaddedMut_eq_some {key : Key} {buf plain : Bytes} {len : Nat}
    (h : c.ecb.decryptPaddedMut key buf = some (plain, len)) :
    ∃ k, buf.length = n * (k + 1) ∧ plain = BlockMode.ecb (c.decrypt key) (k + 1) buf ∧
      ∃ p, 0 < p ∧ p ≤ n ∧ len + p = buf.length ∧ plain = plain.take len ++ padding p := by
  simp only [ecb] at h
  split at h
  · rename_i hmod
    obtain ⟨l, hl, hplain⟩ := Option.map_eq_some_iff.1 h
    cases hplain
    have hdiv : n * (buf.length / n) = buf.length :=
      Nat.mul_div_cancel' (Nat.dvd_of_mod_eq_zero hmod)
    cases hk : buf.length / n with
    | zero =>
      -- no block, so there is no last byte
      rw [hk, Nat.mul_zero] at hdiv
      have hnil : buf = [] := List.eq_nil_of_length_eq_zero hdiv.symm
      rw [hk, hnil] at hl
      cases hl
    | succ k =>
      rw [hk] at hdiv hl
      have hlen : (BlockMode.ecb (c.decrypt key) (k + 1) buf).length = buf.length := ecb_length _ _
      have hblock : n ≤ buf.length := by
        rw [← hdiv, Nat.mul_succ]
        omega
      obtain ⟨p, hp, hpn, hsum, heq⟩ := unpad_eq_some hl (by rw [hlen]; exact hblock)
      rw [hlen] at hsum
      exact ⟨k, hdiv.symm, rfl, p, hp, hpn, hsum, heq⟩
  · cases h

/-- **Encryption undoes decryption.** -/
theorem ciphertext_of_decrypt {key : Key} {buf plain : Bytes} {len : Nat}
    (h : c.ecb.decryptPaddedMut key buf = some (plain, len)) :
    c.ciphertext key (plain.take len) = buf := by
  obtain ⟨k, hbuf, hplain, p, hp, hpn, hsum, heq⟩ := decryptPaddedMut_eq_some h
  have hlen : plain.length = buf.length := by rw [hplain, ecb_length]
  have htake : (plain.take len).length = len := by
    rw [List.length_take]
    omega
  -- the padding is shorter than two blocks, so it fills the last one
  have hdiv : len / n = k := by
    rw [Nat.mul_succ] at hbuf
    refine Nat.div_eq_of_lt_le ?_ ?_
    · rw [Nat.mul_comm]
      omega
    · rw [Nat.mul_comm, Nat.mul_succ]
      omega
  have hpad : n * (k + 1) - len = p := by omega
  calc c.ciphertext key (plain.take len)
      = BlockMode.ecb (c.encrypt key) (k + 1) (plain.take len ++ padding p) := by
        rw [ciphertext, htake, hdiv, hpad]
    _ = BlockMode.ecb (c.encrypt key) (k + 1)
          (BlockMode.ecb (c.decrypt key) (k + 1) buf) := by rw [← heq, hplain]
    _ = buf := ecb_ecb (c.encrypt_decrypt key) (k + 1) buf

/-- The cipher of a family of permutations. -/
def ofPerm (f : Key → Equiv.Perm (Block n)) : BlockCipher Key n where
  encrypt key := f key
  decrypt key := (f key).symm
  decrypt_encrypt key b := (f key).symm_apply_apply b
  encrypt_decrypt key b := (f key).apply_symm_apply b

end BlockCipher

end BlockMode
