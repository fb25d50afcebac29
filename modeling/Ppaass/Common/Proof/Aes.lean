import Ppaass.Common.Bincode

/-!
# AES encryption of a payload (`common/src/crypto/aes.rs`)

`run_encryptWithAes` and `run_decryptWithAes` give both functions under a block cipher that is a
permutation per key.

* `aes_inverse`: decryption of what `encrypt_with_aes` returns gives the payload back, whatever its
  length, and encryption of what `decrypt_with_aes` returns gives the ciphertext back.
* `targetDecrypts_iff`: the buffer that `encrypt_with_aes` leaves behind is longer than the
  ciphertext for half of the lengths, and can be decrypted for the others only.
-/

namespace Ppaass

open Wire Framed BlockMode

variable {libs : Libs} {cipher : BlockCipher AesKey 16}

/-- The zeros `encrypt_with_aes` adds leave room for the padding. -/
theorem padding_fits (len : Nat) :
    16 * (len / 16 + 1) ≤ len + ((len / BLOCK_SIZE + 1) * BLOCK_SIZE - len) := by
  unfold BLOCK_SIZE
  omega

/-- What is left of the zeros behind the ciphertext: a block of 16 or nothing. -/
def surplus (len : Nat) : Nat := (len / BLOCK_SIZE + 1) * BLOCK_SIZE - 16 * (len / 16 + 1)

theorem surplus_eq (len : Nat) : surplus len = if 16 ≤ len % 32 then 0 else 16 := by
  unfold surplus BLOCK_SIZE
  split <;> omega

/-- With a 32-byte token encryption returns the ciphertext, and leaves it at the front of the
buffer. -/
theorem run_encryptWithAes (hc : libs.aes256Ecb = cipher.ecb) {token : Bytes}
    (h : token.length = 32) (msg : Bytes) :
    (encryptWithAes libs token).run msg = .ok (cipher.ciphertext ⟨token, h⟩ msg)
      (cipher.ciphertext ⟨token, h⟩ msg ++ List.replicate (surplus msg.length) 0) := by
  have hroom := padding_fits msg.length
  have henc := BlockCipher.encryptPaddedMut_eq (c := cipher) (by decide) ⟨token, h⟩ msg
    (List.replicate ((msg.length / BLOCK_SIZE + 1) * BLOCK_SIZE - msg.length) 0)
    (by simpa using hroom)
  have hlen := BlockCipher.ciphertext_length (c := cipher) (by decide) ⟨token, h⟩ msg
  have hpad := (BlockCipher.padded_length (by decide : 0 < 16) msg.length).1
  have hrest : (msg ++ List.replicate ((msg.length / BLOCK_SIZE + 1) * BLOCK_SIZE - msg.length)
      (0 : UInt8)).drop (16 * (msg.length / 16 + 1)) = List.replicate (surplus msg.length) 0 := by
    rw [List.drop_append, List.drop_eq_nil_of_le (Nat.le_of_lt hpad), List.nil_append,
      List.drop_replicate, surplus]
    congr 1
    omega
  rw [hrest] at henc
  simp only [encryptWithAes, EStateM.run_bind, EStateM.run_get, EStateM.run_modify, dif_pos h, hc,
    henc, EStateM.run_set, EStateM.run_pure, List.take_left' hlen]

theorem run_decryptWithAes (hc : libs.aes256Ecb = cipher.ecb) {token : Bytes}
    (h : token.length = 32) (msg : Bytes) :
    ∃ target, (decryptWithAes libs token).run (cipher.ciphertext ⟨token, h⟩ msg) =
      .ok msg target := by
  obtain ⟨plain, hdec, htake⟩ :=
    BlockCipher.decrypt_encrypt_ecb (c := cipher) (by decide) (by decide) ⟨token, h⟩ msg
  refine ⟨plain, ?_⟩
  simp only [decryptWithAes, dif_pos h, EStateM.run_bind, EStateM.run_get, hc, hdec,
    EStateM.run_set, EStateM.run_pure, htake]

/-- A token of another length than 32 panics, so encryption that returns had a good one. -/
theorem encryptWithAes_token {token msg ciphertext target : Bytes}
    (h : (encryptWithAes libs token).run msg = .ok ciphertext target) : token.length = 32 := by
  by_contra hlen
  simp only [encryptWithAes, EStateM.run_bind, EStateM.run_get, EStateM.run_modify,
    dif_neg hlen] at h
  cases h

/-- **Decryption undoes encryption.** -/
theorem decrypt_encryptWithAes (hc : libs.AesPermutes) {token msg ciphertext target : Bytes}
    (h : (encryptWithAes libs token).run msg = .ok ciphertext target) :
    ∃ target', (decryptWithAes libs token).run ciphertext = .ok msg target' := by
  obtain ⟨cipher, hc⟩ := hc
  have htoken := encryptWithAes_token h
  rw [run_encryptWithAes hc htoken msg] at h
  cases h
  exact run_decryptWithAes hc htoken msg

/-- What is decrypted is the front of the buffer's plaintext. -/
theorem decryptWithAes_eq_ok (hc : libs.aes256Ecb = cipher.ecb) {token buf msg target : Bytes}
    (h : token.length = 32) (hdec : (decryptWithAes libs token).run buf = .ok msg target) :
    ∃ plain len, cipher.ecb.decryptPaddedMut ⟨token, h⟩ buf = some (plain, len) ∧
      msg = plain.take len := by
  simp only [decryptWithAes, dif_pos h, EStateM.run_bind, EStateM.run_get, hc] at hdec
  cases hmut : cipher.ecb.decryptPaddedMut ⟨token, h⟩ buf with
  | none =>
    rw [hmut] at hdec
    cases hdec
  | some result =>
    rw [hmut] at hdec
    cases hdec
    exact ⟨_, _, rfl, rfl⟩

/-! ## Encryption and decryption -/

/-- **Encryption and decryption are inverse on every length.** -/
theorem aes_inverse (libs : Libs) (haes : libs.AesPermutes) (token : Bytes)
    (htoken : token.length = 32) :
    (∀ msg, ∃ ciphertext target,
      (encryptWithAes libs token).run msg = .ok ciphertext target ∧
      ciphertext.length = 16 * (msg.length / 16 + 1) ∧
      ∃ target', (decryptWithAes libs token).run ciphertext = .ok msg target') ∧
    ∀ ciphertext msg target', (decryptWithAes libs token).run ciphertext = .ok msg target' →
      ∃ target, (encryptWithAes libs token).run msg = .ok ciphertext target := by
  obtain ⟨cipher, hc⟩ := haes
  constructor
  · intro msg
    have hlen := BlockCipher.ciphertext_length (c := cipher) (by decide) ⟨token, htoken⟩ msg
    exact ⟨_, _, run_encryptWithAes hc htoken msg, hlen, run_decryptWithAes hc htoken msg⟩
  · intro ciphertext msg target' hdec
    obtain ⟨plain, len, hmut, rfl⟩ := decryptWithAes_eq_ok hc htoken hdec
    have henc := run_encryptWithAes hc htoken (plain.take len)
    rw [BlockCipher.ciphertext_of_decrypt hmut] at henc
    exact ⟨_, henc⟩

namespace Reference

def aesToken : Bytes := (List.range 32).map UInt8.ofNat

/-- "hello" with its padding. -/
def helloBlock : Block 16 := ⟨[104, 101, 108, 108, 111] ++ padding 11, by decide⟩

/-- What AES-256 makes of `helloBlock` under `aesToken`. -/
def helloCipherBlock : Block 16 :=
  ⟨[145, 104, 68, 135, 195, 76, 52, 86, 235, 78, 144, 28, 239, 136, 74, 30], by decide⟩

def zeroBlock : Block 16 := ⟨List.replicate 16 0, by decide⟩

/-- What AES-256 makes `zeroBlock` of under `aesToken`. -/
def zeroPlainBlock : Block 16 :=
  ⟨[109, 159, 8, 235, 42, 46, 39, 122, 180, 137, 132, 207, 241, 171, 154, 9], by decide⟩

/-- A permutation that agrees with AES-256 under `aesToken` on these blocks. -/
def knownAnswers : Libs :=
  { Reference.libs with aes256Ecb := (BlockCipher.ofPerm fun _ : AesKey =>
      (Equiv.swap zeroPlainBlock zeroBlock).trans (Equiv.swap helloBlock helloCipherBlock)).ecb }

theorem knownAnswers_aesPermutes : knownAnswers.AesPermutes := ⟨_, rfl⟩

end Reference

/-- With the known answers of the cipher. -/
theorem aes_inverse_hello :
    (∀ msg, ∃ ciphertext target,
      (encryptWithAes Reference.knownAnswers Reference.aesToken).run msg = .ok ciphertext target ∧
      ciphertext.length = 16 * (msg.length / 16 + 1) ∧
      ∃ target', (decryptWithAes Reference.knownAnswers Reference.aesToken).run ciphertext =
        .ok msg target') ∧
    ∀ ciphertext msg target',
      (decryptWithAes Reference.knownAnswers Reference.aesToken).run ciphertext = .ok msg target' →
        ∃ target, (encryptWithAes Reference.knownAnswers Reference.aesToken).run msg =
          .ok ciphertext target :=
  aes_inverse Reference.knownAnswers Reference.knownAnswers_aesPermutes Reference.aesToken
    (by decide)

/-! ## The buffer that is left -/

/-- The buffer that encryption leaves behind is decrypted to the message. -/
def TargetDecrypts (libs : Libs) (token msg : Bytes) : Prop :=
  ∃ ciphertext target, (encryptWithAes libs token).run msg = .ok ciphertext target ∧
    ∃ target', (decryptWithAes libs token).run target = .ok msg target'

/-- What a buffer is decrypted to lacks a block of it at most. -/
theorem length_le_of_decrypt (hc : libs.aes256Ecb = cipher.ecb) {token buf msg target : Bytes}
    (h : token.length = 32) (hdec : (decryptWithAes libs token).run buf = .ok msg target) :
    buf.length ≤ msg.length + 16 := by
  obtain ⟨plain, len, hmut, rfl⟩ := decryptWithAes_eq_ok hc h hdec
  obtain ⟨k, hbuf, hplain, p, hp, hpn, hsum, heq⟩ := BlockCipher.decryptPaddedMut_eq_some hmut
  have hlen : plain.length = buf.length := by rw [hplain, ecb_length]
  rw [List.length_take, hlen]
  omega

/-- A block of zeros behind the ciphertext is not the message's. -/
theorem TargetDecrypts.surplus_eq_zero (hc : libs.aes256Ecb = cipher.ecb) {token msg : Bytes}
    (htoken : token.length = 32) (h : TargetDecrypts libs token msg) : surplus msg.length = 0 := by
  obtain ⟨ciphertext, target, henc, target', hdec⟩ := h
  rw [run_encryptWithAes hc htoken msg] at henc
  cases henc
  have hle := length_le_of_decrypt hc htoken hdec
  rw [List.length_append, BlockCipher.ciphertext_length (by decide), List.length_replicate] at hle
  have hpad := (BlockCipher.padded_length (by decide : 0 < 16) msg.length).1
  rw [surplus_eq] at hle ⊢
  split
  · rfl
  · rename_i hmod
    rw [if_neg hmod] at hle
    omega

/-- **The buffer is decrypted to the message exactly where the zeros that encryption adds are no
longer than the padding**: a length of 16 to 31 modulo 32. -/
theorem targetDecrypts_iff (libs : Libs) (haes : libs.AesPermutes) (token : Bytes)
    (htoken : token.length = 32) (msg : Bytes) :
    TargetDecrypts libs token msg ↔ 16 ≤ msg.length % 32 := by
  obtain ⟨cipher, hc⟩ := haes
  constructor
  · intro h
    have hzero := h.surplus_eq_zero hc htoken
    rw [surplus_eq] at hzero
    by_contra hmod
    rw [if_neg hmod] at hzero
    cases hzero
  · intro hmod
    have henc := run_encryptWithAes hc htoken msg
    rw [surplus_eq, if_pos hmod, List.replicate_zero, List.append_nil] at henc
    exact ⟨_, _, henc, run_decryptWithAes hc htoken msg⟩

/-- The buffer of "hello". -/
theorem targetDecrypts_hello :
    TargetDecrypts Reference.knownAnswers Reference.aesToken [104, 101, 108, 108, 111] ↔
      16 ≤ 5 % 32 :=
  targetDecrypts_iff Reference.knownAnswers Reference.knownAnswers_aesPermutes Reference.aesToken
    (by decide) [104, 101, 108, 108, 111]

/-- Behind the ciphertext of "hello" there is a block of zeros. -/
theorem hello_target_not_decrypted :
    ¬ ∀ (libs : Libs), libs.AesPermutes → ∀ token : Bytes, token.length = 32 → ∀ msg : Bytes,
      TargetDecrypts libs token msg := by
  intro hall
  have h := hall Reference.knownAnswers Reference.knownAnswers_aesPermutes Reference.aesToken
    (by decide) [104, 101, 108, 108, 111]
  obtain ⟨cipher, hc⟩ := Reference.knownAnswers_aesPermutes
  exact absurd (h.surplus_eq_zero hc (by decide)) (by decide)

end Ppaass
