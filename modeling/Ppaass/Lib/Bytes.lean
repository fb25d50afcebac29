import Mathlib.Data.Nat.Basic
import Mathlib.Tactic.IntervalCases
import Mathlib.Tactic.Ring

/-!
# Byte strings and fixed-width integers

`Bytes` is the contents of a byte buffer. `leBytes k n` and `beBytes k n` are the `k`-byte
little- and big-endian forms of `n` (reduced modulo `256 ^ k`, as a fixed-width write does);
`ofLe` and `ofBe` read a byte string back. The four round trips are `ofLe_leBytes`,
`leBytes_ofLe`, `ofBe_beBytes` and `beBytes_ofBe`.

`ByteVec` is an owned byte vector: no allocation exceeds `isizeMax` bytes, so its length fits
every 64-bit length field (`ByteVec.toNat_length`).
-/

namespace Wire

abbrev Bytes := List UInt8

/-! ## Little endian -/

def leBytes : Nat → Nat → Bytes
  | 0, _ => []
  | k + 1, n => UInt8.ofNat n :: leBytes k (n / 256)

def ofLe : Bytes → Nat
  | [] => 0
  | b :: bs => b.toNat + 256 * ofLe bs

@[simp] theorem leBytes_length (k n : Nat) : (leBytes k n).length = k := by
  induction k generalizing n with
  | zero => rfl
  | succ k ih => simp [leBytes, ih]

theorem ofLe_leBytes (k n : Nat) : ofLe (leBytes k n) = n % 256 ^ k := by
  induction k generalizing n with
  | zero => simp [leBytes, ofLe, Nat.mod_one]
  | succ k ih =>
    have hpow : 256 ^ (k + 1) = 256 * 256 ^ k := Nat.pow_succ'
    rw [leBytes, ofLe, ih, UInt8.toNat_ofNat', hpow, Nat.mod_mul]

theorem ofLe_lt (bs : Bytes) : ofLe bs < 256 ^ bs.length := by
  induction bs with
  | nil => simp [ofLe]
  | cons b bs ih =>
    have hb := b.toNat_lt
    rw [ofLe, List.length_cons, Nat.pow_succ']
    omega

theorem leBytes_ofLe (bs : Bytes) : leBytes bs.length (ofLe bs) = bs := by
  induction bs with
  | nil => rfl
  | cons b bs ih =>
    have hb := b.toNat_lt
    have hhead : UInt8.ofNat (b.toNat + 256 * ofLe bs) = b := by
      apply UInt8.toNat_inj.1
      rw [UInt8.toNat_ofNat']
      omega
    rw [List.length_cons, leBytes, ofLe, hhead,
      show (b.toNat + 256 * ofLe bs) / 256 = ofLe bs by omega, ih]

/-! ## Big endian -/

def beBytes (k n : Nat) : Bytes := (leBytes k n).reverse

def ofBe (bs : Bytes) : Nat := ofLe bs.reverse

@[simp] theorem beBytes_length (k n : Nat) : (beBytes k n).length = k := by simp [beBytes]

theorem ofBe_beBytes (k n : Nat) : ofBe (beBytes k n) = n % 256 ^ k := by
  rw [ofBe, beBytes, List.reverse_reverse, ofLe_leBytes]

theorem ofBe_lt (bs : Bytes) : ofBe bs < 256 ^ bs.length := by
  simpa [ofBe] using ofLe_lt bs.reverse

theorem beBytes_ofBe (bs : Bytes) : beBytes bs.length (ofBe bs) = bs := by
  have h := leBytes_ofLe bs.reverse
  rw [List.length_reverse] at h
  rw [beBytes, ofBe, h, List.reverse_reverse]

/-- A 64-bit length survives its big-endian form. -/
theorem ofNat_ofBe_beBytes8 (n : UInt64) : UInt64.ofNat (ofBe (beBytes 8 n.toNat)) = n := by
  have hn := n.toNat_lt
  rw [ofBe_beBytes, Nat.mod_eq_of_lt (by simpa using hn), UInt64.ofNat_toNat]

/-- Two bytes are the big-endian form of a 16-bit number. -/
theorem exists_beBytes2 {bs : Bytes} (h : 2 ≤ bs.length) :
    ∃ (n : UInt16) (rest : Bytes), bs = beBytes 2 n.toNat ++ rest := by
  have hlen : (bs.take 2).length = 2 := by simp [h]
  have hlt := ofBe_lt (bs.take 2)
  have hbe := beBytes_ofBe (bs.take 2)
  rw [hlen] at hlt hbe
  refine ⟨UInt16.ofNat (ofBe (bs.take 2)), bs.drop 2, ?_⟩
  rw [UInt16.toNat_ofNat', Nat.mod_eq_of_lt (by simpa using hlt), hbe, List.take_append_drop]

/-! ## Text -/

/-- The UTF-8 bytes of a string. -/
def utf8 (s : String) : Bytes := s.toByteArray.data.toList

/-- `String::from_utf8`. -/
def ofUtf8 (bs : Bytes) : Option String := String.fromUTF8? ⟨bs.toArray⟩

/-- A UTF-8 sequence that is not complete: how many bytes are missing, between what bounds the next
one lies, and the bits so far. -/
structure Utf8Pending where
  missing : Nat
  low : UInt8
  high : UInt8
  bits : Nat

/-- A first byte: the character it is, or the sequence it begins. -/
def utf8Start (b : UInt8) : List Char × Option Utf8Pending :=
  let bits := b.toNat
  if b < 0x80 then ([Char.ofNat bits], none)
  else if 0xc2 ≤ b ∧ b ≤ 0xdf then ([], some ⟨1, 0x80, 0xbf, bits % 32⟩)
  else if b = 0xe0 then ([], some ⟨2, 0xa0, 0xbf, bits % 16⟩)
  else if b = 0xed then ([], some ⟨2, 0x80, 0x9f, bits % 16⟩)
  else if 0xe1 ≤ b ∧ b ≤ 0xef then ([], some ⟨2, 0x80, 0xbf, bits % 16⟩)
  else if b = 0xf0 then ([], some ⟨3, 0x90, 0xbf, bits % 8⟩)
  else if b = 0xf4 then ([], some ⟨3, 0x80, 0x8f, bits % 8⟩)
  else if 0xf1 ≤ b ∧ b ≤ 0xf3 then ([], some ⟨3, 0x80, 0xbf, bits % 8⟩)
  else (['\uFFFD'], none)

/-- A byte that does not continue a sequence ends it with U+FFFD and is a first byte itself. -/
def utf8Next (b : UInt8) : Option Utf8Pending → List Char × Option Utf8Pending
  | none => utf8Start b
  | some p =>
    let bits := p.bits * 64 + b.toNat % 64
    if p.low ≤ b ∧ b ≤ p.high then
      if p.missing = 1 then ([Char.ofNat bits], none)
      else ([], some ⟨p.missing - 1, 0x80, 0xbf, bits⟩)
    else ('\uFFFD' :: (utf8Start b).1, (utf8Start b).2)

def lossyChars : Option Utf8Pending → Bytes → List Char
  | none, [] => []
  | some _, [] => ['\uFFFD']
  | p, b :: bs => (utf8Next b p).1 ++ lossyChars (utf8Next b p).2 bs

/-- `String::from_utf8_lossy`. -/
def fromUtf8Lossy (bs : Bytes) : String := String.ofList (lossyChars none bs)

example : fromUtf8Lossy [0x61, 0xe2, 0x82, 0xac, 0xe2, 0x82, 0x62, 0xff] = "a€\uFFFDb\uFFFD" := by
  decide +kernel

@[simp] theorem utf8_length (s : String) : (utf8 s).length = s.utf8ByteSize := rfl

@[simp] theorem ofUtf8_utf8 (s : String) : ofUtf8 (utf8 s) = some s := by
  have hvalid : (⟨(utf8 s).toArray⟩ : ByteArray).IsValidUTF8 := s.isValidUTF8
  rw [ofUtf8, String.fromUTF8?, dif_pos hvalid]
  rfl

theorem utf8_eq_flatMap (s : String) : utf8 s = s.toList.flatMap String.utf8EncodeChar := by
  rw [utf8, ← String.utf8Encode_toList, List.utf8Encode]
  simp

theorem utf8_append (s t : String) : utf8 (s ++ t) = utf8 s ++ utf8 t := by
  rw [utf8_eq_flatMap, utf8_eq_flatMap, utf8_eq_flatMap, String.toList_append, List.flatMap_append]

theorem utf8_of_ofUtf8 {bs : Bytes} {s : String} (h : ofUtf8 bs = some s) : utf8 s = bs := by
  unfold ofUtf8 String.fromUTF8? at h
  split at h
  · cases h
    rfl
  · cases h

theorem toNat_ofNat_of_lt {n : Nat} (h : n < 256) : (UInt8.ofNat n).toNat = n := by
  rw [UInt8.toNat_ofNat', Nat.mod_eq_of_lt h]

theorem utf8Start_two {k : Nat} (h : 2 ≤ k) (h' : k < 32) :
    utf8Start (UInt8.ofNat (k + 0xc0)) = ([], some ⟨1, 0x80, 0xbf, k⟩) := by
  interval_cases k <;> rfl

theorem utf8Start_three {k : Nat} (h : k < 16) : utf8Start (UInt8.ofNat (k + 0xe0)) =
    ([], some ⟨2, if k = 0 then 0xa0 else 0x80, if k = 13 then 0x9f else 0xbf, k⟩) := by
  interval_cases k <;> rfl

theorem utf8Start_four {k : Nat} (h : k ≤ 4) : utf8Start (UInt8.ofNat (k + 0xf0)) =
    ([], some ⟨3, if k = 0 then 0x90 else 0x80, if k = 4 then 0x8f else 0xbf, k⟩) := by
  interval_cases k <;> rfl

section
variable {low high : UInt8} {bits k : Nat} {bs : Bytes} (hlow : low.toNat ≤ k + 0x80)
  (hhigh : k + 0x80 ≤ high.toNat) (hk : k < 64)
include hlow hhigh hk

/-- A byte of six bits continues a sequence. -/
theorem utf8Next_continue (missing : Nat) :
    utf8Next (UInt8.ofNat (k + 0x80)) (some ⟨missing, low, high, bits⟩) =
      if missing = 1 then ([Char.ofNat (bits * 64 + k)], none)
      else ([], some ⟨missing - 1, 0x80, 0xbf, bits * 64 + k⟩) := by
  have hn := toNat_ofNat_of_lt (show k + 0x80 < 256 by omega)
  have hin : low ≤ UInt8.ofNat (k + 0x80) ∧ UInt8.ofNat (k + 0x80) ≤ high := by
    rw [UInt8.le_iff_toNat_le, UInt8.le_iff_toNat_le, hn]
    exact ⟨hlow, hhigh⟩
  have hbits : (k + 0x80) % 64 = k := by omega
  rw [utf8Next, if_pos hin, hn, hbits]

theorem lossyChars_last : lossyChars (some ⟨1, low, high, bits⟩) (UInt8.ofNat (k + 0x80) :: bs) =
    Char.ofNat (bits * 64 + k) :: lossyChars none bs := by
  rw [lossyChars, utf8Next_continue hlow hhigh hk, if_pos rfl, List.singleton_append]

theorem lossyChars_more (missing : Nat) :
    lossyChars (some ⟨missing + 2, low, high, bits⟩) (UInt8.ofNat (k + 0x80) :: bs) =
      lossyChars (some ⟨missing + 1, 0x80, 0xbf, bits * 64 + k⟩) bs := by
  rw [lossyChars, utf8Next_continue hlow hhigh hk, if_neg (by omega), List.nil_append]
  rfl

end

theorem lossyChars_utf8EncodeChar (c : Char) (bs : Bytes) :
    lossyChars none (String.utf8EncodeChar c ++ bs) = c :: lossyChars none bs := by
  have hc : Char.ofNat c.val.toNat = c := Char.ofNat_toNat c
  have hrange : c.val.toNat < 0xd800 ∨ (0xdfff < c.val.toNat ∧ c.val.toNat < 0x110000) := c.valid
  unfold String.utf8EncodeChar
  dsimp only
  generalize c.val.toNat = v at *
  split
  · have h1 : (UInt8.ofNat v).toNat = v := toNat_ofNat_of_lt (by omega)
    have hlt : UInt8.ofNat v < 0x80 := by
      rw [UInt8.lt_iff_toNat_lt, h1]
      change v < 128
      omega
    simp [lossyChars, utf8Next, utf8Start, hlt, h1, hc]
  split
  · rw [Nat.mod_eq_of_lt (show v / 64 < 0x20 by omega), List.cons_append, lossyChars, utf8Next,
      utf8Start_two (by omega) (by omega), List.nil_append, List.cons_append,
      lossyChars_last (by simp) (by simp; omega) (by omega), Nat.div_add_mod' v 64, hc,
      List.nil_append]
  split
  · rw [Nat.mod_eq_of_lt (show v / 4096 < 0x10 by omega), List.cons_append, lossyChars, utf8Next,
      utf8Start_three (by omega), List.nil_append, List.cons_append,
      lossyChars_more (by split <;> simp; omega) (by split <;> simp <;> omega) (by omega) 0,
      List.cons_append, lossyChars_last (by simp) (by simp; omega) (by omega), List.nil_append,
      show (v / 4096 * 64 + v / 64 % 64) * 64 + v % 64 = v by omega, hc]
  · rw [Nat.mod_eq_of_lt (show v / 262144 < 0x08 by omega), List.cons_append, lossyChars, utf8Next,
      utf8Start_four (by omega), List.nil_append, List.cons_append,
      lossyChars_more (by split <;> simp; omega) (by split <;> simp <;> omega) (by omega) 1,
      List.cons_append, lossyChars_more (by simp) (by simp; omega) (by omega) 0,
      List.cons_append, lossyChars_last (by simp) (by simp; omega) (by omega), List.nil_append,
      show ((v / 262144 * 64 + v / 4096 % 64) * 64 + v / 64 % 64) * 64 + v % 64 = v by omega, hc]

/-- **UTF-8 is read back** as the string it was made from. -/
theorem fromUtf8Lossy_utf8 (s : String) : fromUtf8Lossy (utf8 s) = s := by
  have hchars : ∀ cs : List Char, lossyChars none (cs.flatMap String.utf8EncodeChar) = cs := by
    intro cs
    induction cs with
    | nil => rfl
    | cons c cs ih => rw [List.flatMap_cons, lossyChars_utf8EncodeChar, ih]
  rw [fromUtf8Lossy, utf8_eq_flatMap, hchars, String.ofList_toList]

theorem ofNat_ne_255 {n : Nat} (h : n % 256 ≠ 255) : UInt8.ofNat n ≠ 255 := by
  intro hn
  have := congrArg UInt8.toNat hn
  rw [UInt8.toNat_ofNat'] at this
  exact h this

/-- No byte of UTF-8 is 255. -/
theorem ne_255_of_mem_utf8 {s : String} {b : UInt8} (h : b ∈ utf8 s) : b ≠ 255 := by
  rw [utf8_eq_flatMap, List.mem_flatMap] at h
  obtain ⟨c, -, hb⟩ := h
  unfold String.utf8EncodeChar at hb
  dsimp only at hb
  -- one to four bytes, each below 248
  split at hb
  · rw [List.mem_singleton] at hb
    rw [hb]
    exact ofNat_ne_255 (by omega)
  split at hb
  · simp only [List.mem_cons, List.not_mem_nil, or_false] at hb
    rcases hb with rfl | rfl <;> exact ofNat_ne_255 (by omega)
  split at hb
  · simp only [List.mem_cons, List.not_mem_nil, or_false] at hb
    rcases hb with rfl | rfl | rfl <;> exact ofNat_ne_255 (by omega)
  · simp only [List.mem_cons, List.not_mem_nil, or_false] at hb
    rcases hb with rfl | rfl | rfl | rfl <;> exact ofNat_ne_255 (by omega)

/-! ## Owned byte vectors -/

/-- `isize::MAX` on a 64-bit target: no allocation is larger. -/
def isizeMax : Nat := 2 ^ 63 - 1

/-- An owned byte vector. -/
structure ByteVec where
  bytes : Bytes
  len_le : bytes.length ≤ isizeMax

namespace ByteVec

/-- The vector of a byte string that fits an allocation. -/
def ofBytes? (bs : Bytes) : Option ByteVec :=
  if h : bs.length ≤ isizeMax then some ⟨bs, h⟩ else none

theorem ofBytes?_eq_some {bs : Bytes} {v : ByteVec} (h : ofBytes? bs = some v) : v.bytes = bs := by
  unfold ofBytes? at h
  split at h
  · cases h; rfl
  · cases h

theorem toNat_length (v : ByteVec) : (UInt64.ofNat v.bytes.length).toNat = v.bytes.length := by
  have h := v.len_le
  unfold isizeMax at h
  rw [UInt64.toNat_ofNat']
  omega

end ByteVec

end Wire
