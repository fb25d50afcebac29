import Mathlib.Logic.Function.Iterate
import Ppaass.Lib.Binary

/-!
# The gzip container with stored blocks

`gzip` writes a gzip member whose deflate stream has stored blocks only; `gunzip` reads such members
and checks their trailer. `gunzip_gzip`: reading undoes writing, on inputs of any length.
-/

namespace Gzip

open Wire

/-! ## CRC-32 -/

def crcBit (c : Nat) : Nat := if c % 2 = 1 then (c >>> 1) ^^^ 0xEDB88320 else c >>> 1

def crc32 (bs : Bytes) : Nat :=
  (bs.foldl (fun c b => crcBit^[8] (c ^^^ b.toNat)) 0xFFFFFFFF) ^^^ 0xFFFFFFFF

/-! ## Deflate with stored blocks -/

/-- The most bytes a stored block holds. -/
def blockMax : Nat := 65535

/-- A stored block's length, the complement of its length and its bytes. -/
def stored : Format Bytes :=
  (((Format.le 2).pair (Format.le 2)).sigma fun p => Format.take p.1).filterMap
    (fun bs => ((bs.length, blockMax - bs.length), bs))
    fun p => if p.1.1 + p.1.2 = blockMax then some p.2 else none

theorem valid_stored {bs : Bytes} (h : bs.length ≤ blockMax) : stored.Valid bs := by
  unfold blockMax at h
  refine ⟨⟨⟨?_, ?_⟩, rfl⟩, ?_⟩
  · change bs.length < 256 ^ 2
    omega
  · change blockMax - bs.length < 256 ^ 2
    unfold blockMax
    omega
  · have hsum : bs.length + (blockMax - bs.length) = blockMax := by
      unfold blockMax
      omega
    exact if_pos hsum

/-- `k` full blocks, then the final block. -/
def deflate : Nat → Bytes → Bytes
  | 0, bs => 1 :: stored.put bs
  | k + 1, bs => 0 :: stored.put (bs.take blockMax) ++ deflate k (bs.drop blockMax)

def inflate : Nat → Bytes → Option (Bytes × Bytes)
  | 0, _ => none
  | _, [] => none
  | k + 1, tag :: bs =>
    if tag = 1 then stored.get bs
    else if tag = 0 then
      (stored.get bs).bind fun (d, rest) =>
        (inflate k rest).map fun (d', rest') => (d ++ d', rest')
    else none

theorem deflate_length (k : Nat) (bs : Bytes) : k < (deflate k bs).length := by
  induction k generalizing bs with
  | zero => simp [deflate]
  | succ k ih =>
    have := ih (bs.drop blockMax)
    simp only [deflate, List.length_append, List.length_cons]
    omega

theorem inflate_deflate {k fuel : Nat} {bs : Bytes} (rest : Bytes) (hfuel : k < fuel)
    (hk : bs.length ≤ (k + 1) * blockMax) :
    inflate fuel (deflate k bs ++ rest) = some (bs, rest) := by
  induction k generalizing fuel bs with
  | zero =>
    obtain ⟨fuel, rfl⟩ : ∃ n, fuel = n + 1 := ⟨fuel - 1, by omega⟩
    rw [deflate, List.cons_append, inflate, if_pos rfl]
    exact stored.get_put bs rest (valid_stored (by simpa using hk))
  | succ k ih =>
    obtain ⟨fuel, rfl⟩ : ∃ n, fuel = n + 1 := ⟨fuel - 1, by omega⟩
    have hrec : inflate fuel (deflate k (bs.drop blockMax) ++ rest) =
        some (bs.drop blockMax, rest) := by
      refine ih (by omega) ?_
      rw [Nat.succ_mul] at hk
      rw [List.length_drop]
      omega
    rw [deflate, List.append_assoc, List.cons_append, inflate, if_neg (by decide), if_pos rfl,
      stored.get_put _ _ (valid_stored (by simp [blockMax])), Option.bind_some]
    simp only [hrec, Option.map_some, List.take_append_drop]

/-! ## The container -/

/-- The trailer: the checksum and the length, both reduced to 32 bits. -/
def trailer (bs : Bytes) : Bytes := leBytes 4 (crc32 bs) ++ leBytes 4 bs.length

/-- Magic, deflate, no flags, no modification time, no extra flags, unknown system. -/
def memberHeader : Bytes := [0x1f, 0x8b, 8, 0, 0, 0, 0, 0, 0, 255]

def gzip (bs : Bytes) : Bytes :=
  memberHeader ++ (deflate (bs.length / blockMax) bs ++ trailer bs)

def gunzip (bs : Bytes) : Option Bytes :=
  if bs.take 4 = memberHeader.take 4 then
    (inflate bs.length (bs.drop memberHeader.length)).bind fun (d, rest) =>
      if rest.take 8 = trailer d then some d else none
  else none

/-- **Reading undoes writing.** -/
theorem gunzip_gzip (bs : Bytes) : gunzip (gzip bs) = some bs := by
  have htrailer : (trailer bs).take 8 = trailer bs := List.take_of_length_le (by simp [trailer])
  have hlen := deflate_length (bs.length / blockMax) bs
  have hblocks : bs.length ≤ (bs.length / blockMax + 1) * blockMax := by
    unfold blockMax
    omega
  have hinfl : inflate (gzip bs).length ((gzip bs).drop memberHeader.length) =
      some (bs, trailer bs) := by
    rw [show (gzip bs).drop memberHeader.length = _ from List.drop_left]
    refine inflate_deflate _ ?_ hblocks
    simp only [gzip, List.length_append]
    omega
  have htake : (gzip bs).take 4 = memberHeader.take 4 := rfl
  rw [gunzip, if_pos htake, hinfl]
  simp [htrailer]

/-- What is read begins with the magic bytes. -/
theorem gunzip_magic {bs d : Bytes} (h : gunzip bs = some d) : bs.take 2 = [0x1f, 0x8b] := by
  unfold gunzip at h
  split at h
  · rename_i htake
    have := congrArg (List.take 2) htake
    rwa [List.take_take] at this
  · cases h

end Gzip
