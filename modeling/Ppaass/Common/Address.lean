import Ppaass.Common.Message

/-!
# Addresses as text (`common/src/message/address.rs`)

How the standard library writes addresses, and the `Display` of `PpaassUnifiedAddress`.
-/

namespace Ppaass

open Wire

def Ipv4Addr.display (ip : Ipv4Addr) : String := s!"{ip.a}.{ip.b}.{ip.c}.{ip.d}"

/-- `{:x}` -/
def hex (n : UInt16) : String := String.ofList (Nat.toDigits 16 n.toNat)

def hexGroups (segments : List UInt16) : String := ":".intercalate (segments.map hex)

/-- The first of the longest runs of zero segments, by its start and its length. -/
def zeroSpan (segments : List UInt16) : Nat × Nat :=
  let spans := (List.range segments.length).map fun i =>
    (i, ((segments.drop i).takeWhile (· == 0)).length)
  spans.foldl (fun longest span => if longest.2 < span.2 then span else longest) (0, 0)

def Ipv6Addr.display (ip : Ipv6Addr) : String :=
  if ip.segments.take 5 == [0, 0, 0, 0, 0] && ip.f == 0xffff then
    s!"::ffff:{ip.g.toNat / 256}.{ip.g.toNat % 256}.{ip.h.toNat / 256}.{ip.h.toNat % 256}"
  else
    let (start, len) := zeroSpan ip.segments
    if 1 < len then
      s!"{hexGroups (ip.segments.take start)}::{hexGroups (ip.segments.drop (start + len))}"
    else hexGroups ip.segments

def SocketAddr.display : SocketAddr → String
  | .v4 ip port => s!"{ip.display}:{port}"
  | .v6 ip port _ scopeId =>
    if scopeId == 0 then s!"[{ip.display}]:{port}" else s!"[{ip.display}%{scopeId}]:{port}"

def PpaassUnifiedAddress.display : PpaassUnifiedAddress → String
  | .ip addr => addr.display
  | .domain host port => s!"{host}:{port}"

example : SocketAddr.display (.v6 ⟨0x2001, 0xdb8, 0, 0, 1, 0, 0, 1⟩ 443 0 0) =
    "[2001:db8::1:0:0:1]:443" := by decide +kernel

/-- The error of `ToSocketAddrs for PpaassUnifiedAddress` from that of the name's resolution. -/
def invalidData (e : StdIoError) : StdIoError :=
  s!"Custom \x7b kind: InvalidData, error: Io({e}) \x7d"

/-! ## The dotted form -/

theorem Ipv4Addr.toList_display (ip : Ipv4Addr) : ip.display.toList =
    Nat.toDigits 10 ip.a.toNat ++ '.' :: (Nat.toDigits 10 ip.b.toNat ++ '.' ::
      (Nat.toDigits 10 ip.c.toNat ++ '.' :: Nat.toDigits 10 ip.d.toNat)) := by
  simp [Ipv4Addr.display, toString, String.toList_append]

/-- No digit is a dot. -/
theorem dot_notMem_toDigits (n : UInt8) : '.' ∉ Nat.toDigits 10 n.toNat := by
  intro h
  have hdigit := Nat.isDigit_of_mem_toDigits (by omega) (by omega) h
  cases hdigit

theorem toDigits_inj {a b : UInt8} (h : Nat.toDigits 10 a.toNat = Nat.toDigits 10 b.toNat) :
    a = b := by
  have hdigits := congrArg (Nat.ofDigitChars 10 · 0) h
  simp only [Nat.ofDigitChars_ten_toDigits] at hdigits
  exact UInt8.toNat_inj.1 hdigits

theorem toDigits_length (n : UInt8) : (Nat.toDigits 10 n.toNat).length ≤ 3 := by
  have hn := n.toNat_lt
  exact (Nat.length_toDigits_le_iff (by omega) (by omega)).2 (by omega)

/-- The text before the first dot, and the text after it. -/
theorem digits_dot_inj {a b : UInt8} {xs ys : List Char}
    (h : Nat.toDigits 10 a.toNat ++ '.' :: xs = Nat.toDigits 10 b.toNat ++ '.' :: ys) :
    a = b ∧ xs = ys := by
  have hsplit : ∀ {us vs : List Char}, '.' ∉ us → '.' ∉ vs → us ++ '.' :: xs = vs ++ '.' :: ys →
      us = vs ∧ xs = ys := by
    intro us vs hu hv huv
    rcases List.append_eq_append_iff.1 huv with ⟨ws, rfl, hws⟩ | ⟨ws, rfl, hws⟩ <;>
      rcases ws with _ | ⟨w, ws⟩ <;> simp_all
  obtain ⟨hdigits, hrest⟩ := hsplit (dot_notMem_toDigits a) (dot_notMem_toDigits b) h
  exact ⟨toDigits_inj hdigits, hrest⟩

/-- **The dotted form of an address is that of no other.** -/
theorem Ipv4Addr.display_inj {x y : Ipv4Addr} : x.display = y.display ↔ x = y := by
  refine ⟨fun h => ?_, congrArg _⟩
  have hlist := congrArg String.toList h
  rw [toList_display, toList_display] at hlist
  obtain ⟨ha, hlist⟩ := digits_dot_inj hlist
  obtain ⟨hb, hlist⟩ := digits_dot_inj hlist
  obtain ⟨hc, hd⟩ := digits_dot_inj hlist
  cases x
  cases y
  simp only [Ipv4Addr.mk.injEq]
  exact ⟨ha, hb, hc, toDigits_inj hd⟩

theorem Ipv4Addr.dot_mem_display (ip : Ipv4Addr) : '.' ∈ ip.display.toList := by
  rw [toList_display]
  simp

/-- A dotted form has at most fifteen characters, so that its length is a byte. -/
theorem Ipv4Addr.display_size (ip : Ipv4Addr) : ip.display.utf8ByteSize ≤ 255 := by
  have hsize : ∀ cs : List Char, (cs.flatMap String.utf8EncodeChar).length ≤ 4 * cs.length := by
    intro cs
    induction cs with
    | nil => simp
    | cons c cs ih =>
      have hc := c.utf8Size_le_four
      rw [List.flatMap_cons, List.length_append, String.length_utf8EncodeChar, List.length_cons]
      omega
  have hlen : ip.display.toList.length ≤ 15 := by
    have ha := toDigits_length ip.a
    have hb := toDigits_length ip.b
    have hc := toDigits_length ip.c
    have hd := toDigits_length ip.d
    rw [toList_display]
    simp only [List.length_append, List.length_cons]
    omega
  have hutf8 := hsize ip.display.toList
  rw [← utf8_eq_flatMap, utf8_length] at hutf8
  omega

end Ppaass
