import Ppaass.Agent.Socks

/-!
# What `Socks5Address::parse` accepts

`AddressAt b a rest` is the grammar: `b` is an address that stands for `a`, and then `rest`. `parse`
takes an address off the buffer where there is one (`parse_of_addressAt`), and returns an error and
never panics where there is none (`parse_of_not_addressAt`).

* `AddressLength b k`: `b` is long enough for the address of `k` bytes that its first byte (and, for
  a domain, its second) announces; `AddressAt.readsAt`: the values of an address are those at their
  positions, and what follows its `k` bytes is the rest.
* `sentBack_iff`: an address that was parsed is parsed again from its own bytes, unless it is a
  domain whose text has more than 255 bytes of UTF-8.
-/

namespace Ppaass.Agent

open Wire Framed

/-- The bytes of an address, followed by others. -/
inductive AddressAt : Bytes → Socks5Address → Bytes → Prop
  | ipv4 (a b c d : UInt8) (port : UInt16) (rest : Bytes) :
      AddressAt (IPV4_FLAG :: a :: b :: c :: d :: (beBytes 2 port.toNat ++ rest))
        (.ip (.v4 ⟨a, b, c, d⟩ port)) rest
  | ipv6 (ip : Ipv6Addr) (port : UInt16) (rest : Bytes) :
      AddressAt (IPV6_FLAG :: (ip.octets ++ (beBytes 2 port.toNat ++ rest)))
        (.ip (.v6 ip port 0 0)) rest
  | domain (n : UInt8) (name : Bytes) (hname : name.length = n.toNat) (port : UInt16)
      (rest : Bytes) :
      AddressAt (DOMAIN_FLAG :: n :: (name ++ (beBytes 2 port.toNat ++ rest)))
        (.domain (domainName name) port) rest

section
variable {σ ε : Type} (fail : ParseError → ε) (s : σ) {b rest : Bytes} {a : Socks5Address}

theorem run_require {n : Nat} {buf : Bytes} (h : n ≤ buf.length) :
    (require fail n : CodecM σ ε Unit).run (s, buf) = .ok () (s, buf) := by
  simp [require, Nat.not_lt.2 h]

theorem run_require_short {n : Nat} {buf : Bytes} (h : buf.length < n) :
    (require fail n : CodecM σ ε Unit).run (s, buf) = .error (.err (fail (.inputExhausted
      s!"Input bytes exhausted, remaining: {buf.length}, require: {n}"))) (s, buf) := by
  simp [require, h]

theorem run_parseIpv4 (a b c d : UInt8) (port : UInt16) (rest : Bytes) :
    (parseIpv4 fail).run (s, a :: b :: c :: d :: (beBytes 2 port.toNat ++ rest)) =
      .ok (.ip (.v4 ⟨a, b, c, d⟩ port)) (s, rest) := by
  simp [parseIpv4, run_require]

theorem run_parseIpv6 (ip : Ipv6Addr) (port : UInt16) (rest : Bytes) :
    (parseIpv6 fail).run (s, ip.octets ++ (beBytes 2 port.toNat ++ rest)) =
      .ok (.ip (.v6 ip port 0 0)) (s, rest) := by
  have hlen : 18 ≤ (ip.octets ++ (beBytes 2 port.toNat ++ rest)).length := by
    simp [Ipv6Addr.octets, Ipv6Addr.segments]
    omega
  simp only [parseIpv6, EStateM.run_bind, run_require fail s hlen]
  simp [Ipv6Addr.octets, Ipv6Addr.segments]

theorem run_parseDomain (n : UInt8) (name : Bytes) (hname : name.length = n.toNat) (port : UInt16)
    (rest : Bytes) :
    (parseDomain fail).run (s, n :: (name ++ (beBytes 2 port.toNat ++ rest))) =
      .ok (.domain (domainName name) port) (s, rest) := by
  have hlen : n.toNat + 2 ≤ (name ++ (beBytes 2 port.toNat ++ rest)).length := by
    simp [hname]
  have hone : 1 ≤ (n :: (name ++ (beBytes 2 port.toNat ++ rest))).length := by simp
  have hsplit : (splitTo n.toNat : CodecM σ ε Bytes).run
      (s, name ++ (beBytes 2 port.toNat ++ rest)) = .ok name (s, beBytes 2 port.toNat ++ rest) := by
    rw [run_splitTo s (by simp [hname]), List.take_left' hname, List.drop_left' hname]
  simp only [parseDomain, EStateM.run_bind, run_require fail s hone, run_getU8,
    run_require fail s hlen, hsplit]
  simp

/-- **An address is taken off the buffer.** -/
theorem parse_of_addressAt (h : AddressAt b a rest) :
    (Socks5Address.parse fail).run (s, b) = .ok a (s, rest) := by
  cases h with
  | ipv4 a b c d port =>
    simp [Socks5Address.parse, parseAddressOfType, run_parseIpv4]
  | ipv6 ip port =>
    simp [Socks5Address.parse, parseAddressOfType, run_parseIpv6, IPV6_FLAG, IPV4_FLAG]
  | domain n name hname port =>
    simp [Socks5Address.parse, parseAddressOfType, run_parseDomain _ _ n name hname, DOMAIN_FLAG,
      IPV6_FLAG, IPV4_FLAG]

theorem AddressAt.append (h : AddressAt b a rest) (more : Bytes) :
    AddressAt (b ++ more) a (rest ++ more) := by
  cases h with
  | ipv4 a b c d port => simpa using AddressAt.ipv4 a b c d port (rest ++ more)
  | ipv6 ip port => simpa using AddressAt.ipv6 ip port (rest ++ more)
  | domain n name hname port => simpa using AddressAt.domain n name hname port (rest ++ more)

/-- What is parsed is determined by the bytes. -/
theorem AddressAt.unique {a' : Socks5Address} {rest' : Bytes} (h : AddressAt b a rest)
    (h' : AddressAt b a' rest') : a = a' ∧ rest = rest' := by
  have hrun := parse_of_addressAt (fun e : ParseError => e) () h
  rw [parse_of_addressAt (fun e : ParseError => e) () h'] at hrun
  cases hrun
  exact ⟨rfl, rfl⟩

/-- No part of an address is one. -/
theorem not_addressAt_part {front tail : Bytes} (h : AddressAt (front ++ tail) a [])
    (htail : tail ≠ []) : ∀ a' rest', ¬ AddressAt front a' rest' := by
  intro a' rest' h'
  have hrest := ((h'.append tail).unique h).2
  exact htail (List.append_eq_nil_iff.1 hrest).2

/-- An address whose bytes stand for it: the bytes have no room for a flow label, a scope or a long
name, and the name `0` is another's. -/
def Socks5Address.Sendable : Socks5Address → Prop
  | .ip (.v4 _ _) => True
  | .ip (.v6 _ _ flowinfo scopeId) => flowinfo = 0 ∧ scopeId = 0
  | .domain host _ => host.utf8ByteSize ≤ 255 ∧ host ≠ "0"

/-- **The bytes of an address are an address.** -/
theorem addressAt_toBytes {a : Socks5Address} (h : a.Sendable) (rest : Bytes) :
    AddressAt (a.toBytes ++ rest) a rest := by
  match a, h with
  | .ip (.v4 ip port), _ =>
    simpa [Socks5Address.toBytes, Ipv4Addr.octets] using
      AddressAt.ipv4 ip.a ip.b ip.c ip.d port rest
  | .ip (.v6 ip port _ _), ⟨rfl, rfl⟩ =>
    simpa [Socks5Address.toBytes] using AddressAt.ipv6 ip port rest
  | .domain host port, ⟨hsize, hzero⟩ =>
    have hlen : (utf8 host).length = (UInt8.ofNat host.utf8ByteSize).toNat := by
      rw [toNat_ofNat_of_lt (by omega), utf8_length]
    have hname : domainName (utf8 host) = host := by
      simp [domainName, fromUtf8Lossy_utf8, hzero]
    have hat := AddressAt.domain (UInt8.ofNat host.utf8ByteSize) (utf8 host) hlen port rest
    rw [hname] at hat
    simpa [Socks5Address.toBytes] using hat

/-- Sixteen bytes are the octets of an IPv6 address. -/
theorem exists_ipv6_octets {bs : Bytes} (h : 16 ≤ bs.length) :
    ∃ (ip : Ipv6Addr) (rest : Bytes), bs = ip.octets ++ rest := by
  have hdrop : ∀ {bs rest : Bytes} {n : UInt16} {k : Nat}, bs = beBytes 2 n.toNat ++ rest →
      k + 2 ≤ bs.length → k ≤ rest.length := by
    intro bs rest n k hbs hk
    rw [hbs, List.length_append, beBytes_length] at hk
    omega
  obtain ⟨a, r₁, h₁⟩ := exists_beBytes2 (by omega : 2 ≤ bs.length)
  have l₁ := hdrop (k := 14) h₁ (by omega)
  obtain ⟨b, r₂, h₂⟩ := exists_beBytes2 (by omega : 2 ≤ r₁.length)
  have l₂ := hdrop (k := 12) h₂ (by omega)
  obtain ⟨c, r₃, h₃⟩ := exists_beBytes2 (by omega : 2 ≤ r₂.length)
  have l₃ := hdrop (k := 10) h₃ (by omega)
  obtain ⟨d, r₄, h₄⟩ := exists_beBytes2 (by omega : 2 ≤ r₃.length)
  have l₄ := hdrop (k := 8) h₄ (by omega)
  obtain ⟨e, r₅, h₅⟩ := exists_beBytes2 (by omega : 2 ≤ r₄.length)
  have l₅ := hdrop (k := 6) h₅ (by omega)
  obtain ⟨f, r₆, h₆⟩ := exists_beBytes2 (by omega : 2 ≤ r₅.length)
  have l₆ := hdrop (k := 4) h₆ (by omega)
  obtain ⟨g, r₇, h₇⟩ := exists_beBytes2 (by omega : 2 ≤ r₆.length)
  have l₇ := hdrop (k := 2) h₇ (by omega)
  obtain ⟨i, r₈, h₈⟩ := exists_beBytes2 (by omega : 2 ≤ r₇.length)
  refine ⟨⟨a, b, c, d, e, f, g, i⟩, r₈, ?_⟩
  rw [h₁, h₂, h₃, h₄, h₅, h₆, h₇, h₈]
  simp [Ipv6Addr.octets, Ipv6Addr.segments]

/-! ## How long an address is -/

/-- The length of the address that a buffer begins with. -/
inductive AddressLength : Bytes → Nat → Prop
  | ipv4 {b : Bytes} (h : 6 ≤ b.length) : AddressLength (1 :: b) 7
  | ipv6 {b : Bytes} (h : 18 ≤ b.length) : AddressLength (4 :: b) 19
  | domain (n : UInt8) {b : Bytes} (h : n.toNat + 2 ≤ b.length) :
      AddressLength (3 :: n :: b) (n.toNat + 4)

/-- A buffer that is long enough begins with an address. -/
theorem AddressLength.exists_addressAt {k : Nat} (h : AddressLength b k) :
    ∃ a rest, AddressAt b a rest := by
  cases h with
  | @ipv4 b hlen =>
    obtain ⟨x, y, z, w, b', rfl⟩ : ∃ x y z w b', b = x :: y :: z :: w :: b' := by
      rcases b with _ | ⟨x, _ | ⟨y, _ | ⟨z, _ | ⟨w, b'⟩⟩⟩⟩ <;>
        first | exact ⟨_, _, _, _, _, rfl⟩ | simp at hlen
    have hport : 2 ≤ b'.length := by
      simp at hlen
      omega
    obtain ⟨port, rest, rfl⟩ := exists_beBytes2 hport
    exact ⟨_, _, .ipv4 x y z w port rest⟩
  | ipv6 hlen =>
    obtain ⟨ip, b', rfl⟩ := exists_ipv6_octets (Nat.le_trans (by omega) hlen)
    have hport : 2 ≤ b'.length := by
      simp [Ipv6Addr.octets, Ipv6Addr.segments] at hlen
      omega
    obtain ⟨port, rest, rfl⟩ := exists_beBytes2 hport
    exact ⟨_, _, .ipv6 ip port rest⟩
  | @domain n b hlen =>
    have hport : 2 ≤ (b.drop n.toNat).length := by
      rw [List.length_drop]
      omega
    obtain ⟨port, rest, hrest⟩ := exists_beBytes2 hport
    have hname : (b.take n.toNat).length = n.toNat := by
      rw [List.length_take]
      omega
    have hat := AddressAt.domain n (b.take n.toNat) hname port rest
    rw [← hrest, List.take_append_drop] at hat
    exact ⟨_, _, hat⟩

/-- **A buffer is long enough for the address it begins with, or `parse` returns an error.** -/
theorem addressLength_or_error (b : Bytes) : (∃ k, AddressLength b k) ∨
    ∃ e st, (Socks5Address.parse fail).run (s, b) = .error (.err (fail e)) st := by
  rcases b with _ | ⟨t, b⟩
  · exact .inr ⟨_, _, rfl⟩
  have hparse : (Socks5Address.parse fail).run (s, t :: b) =
      (parseAddressOfType fail t).run (s, b) := by simp [Socks5Address.parse]
  rw [hparse, parseAddressOfType]
  by_cases h4 : t = IPV4_FLAG
  · subst h4
    rw [if_pos (by simp)]
    by_cases hlen : 6 ≤ b.length
    · exact .inl ⟨_, .ipv4 hlen⟩
    · exact .inr ⟨_, _, run_bind_error (run_require_short fail s (Nat.not_le.1 hlen))⟩
  rw [if_neg (by simpa using h4)]
  by_cases h6 : t = IPV6_FLAG
  · subst h6
    rw [if_pos (by simp)]
    by_cases hlen : 18 ≤ b.length
    · exact .inl ⟨_, .ipv6 hlen⟩
    · exact .inr ⟨_, _, run_bind_error (run_require_short fail s (Nat.not_le.1 hlen))⟩
  rw [if_neg (by simpa using h6)]
  by_cases hd : t = DOMAIN_FLAG
  · subst hd
    rw [if_pos (by simp)]
    rcases b with _ | ⟨n, b⟩
    · exact .inr ⟨_, _, run_bind_error (run_require_short fail s (by simp))⟩
    by_cases hlen : n.toNat + 2 ≤ b.length
    · exact .inl ⟨_, .domain n hlen⟩
    · have hone : 1 ≤ (n :: b).length := by simp
      obtain ⟨e, hshort⟩ : ∃ e, (require fail (n.toNat + 2)).run (s, b) =
          .error (.err (fail e)) (s, b) :=
        ⟨_, run_require_short fail s (Nat.not_le.1 hlen)⟩
      have hrun : (parseDomain fail).run (s, n :: b) = .error (.err (fail e)) (s, b) := by
        simp [parseDomain, run_require fail s hone, hshort]
      exact .inr ⟨e, _, hrun⟩
  · rw [if_neg (by simpa using hd)]
    exact .inr ⟨_, _, rfl⟩

/-- **There is an address at the front of the buffer, or `parse` returns an error.** -/
theorem addressAt_or_error (b : Bytes) : (∃ a rest, AddressAt b a rest) ∨
    ∃ e st, (Socks5Address.parse fail).run (s, b) = .error (.err (fail e)) st := by
  rcases addressLength_or_error fail s b with ⟨k, hk⟩ | herr
  · exact .inl hk.exists_addressAt
  · exact .inr herr

/-- Where there is no address `parse` returns an error. -/
theorem parse_of_not_addressAt (h : ∀ a rest, ¬ AddressAt b a rest) :
    ∃ e st, (Socks5Address.parse fail).run (s, b) = .error (.err (fail e)) st := by
  rcases addressAt_or_error fail s b with ⟨a, rest, hat⟩ | herr
  · exact (h a rest hat).elim
  · exact herr

variable {fail s} in
/-- What is parsed is an address at the front of the buffer. -/
theorem addressAt_of_parse {st : σ × Bytes} (h : (Socks5Address.parse fail).run (s, b) = .ok a st) :
    ∃ rest, st = (s, rest) ∧ AddressAt b a rest := by
  rcases addressAt_or_error fail s b with ⟨a', rest, hat⟩ | ⟨e, st', herr⟩
  · rw [parse_of_addressAt fail s hat] at h
    cases h
    exact ⟨rest, rfl, hat⟩
  · rw [herr] at h
    cases h

end

/-! ## What is read where -/

/-- The values of an address are those at their positions in the buffer. -/
def ReadsAt (b : Bytes) : Socks5Address → Prop
  | .ip (.v4 ip port) => ip.octets = (b.drop 1).take 4 ∧ port.toNat = ofBe ((b.drop 5).take 2)
  | .ip (.v6 ip port flowinfo scopeId) =>
    ip.segments.map UInt16.toNat =
      (List.range 8).map (fun i => ofBe ((b.drop (1 + 2 * i)).take 2)) ∧
    port.toNat = ofBe ((b.drop 17).take 2) ∧ flowinfo = 0 ∧ scopeId = 0
  | .domain host port => ∃ n, b[1]? = some n ∧
    host = domainName ((b.drop 2).take n.toNat) ∧ port.toNat = ofBe ((b.drop (n.toNat + 2)).take 2)

section
variable {b rest : Bytes} {a : Socks5Address} {k : Nat}

theorem ofBe_beBytes2 (n : UInt16) : ofBe (beBytes 2 n.toNat) = n.toNat := by
  have hn := n.toNat_lt
  rw [ofBe_beBytes, Nat.mod_eq_of_lt (by simpa using hn)]

theorem ofBe_two (n : UInt16) : ofBe [UInt8.ofNat (n.toNat / 256), n.toUInt8] = n.toNat := by
  simpa [beBytes, leBytes] using ofBe_beBytes2 n

/-- A 16-bit number behind `k` bytes. -/
theorem ofBe_take_two (front : Bytes) (hk : front.length = k) (n : UInt16) (rest : Bytes) :
    ofBe (((front ++ (beBytes 2 n.toNat ++ rest)).drop k).take 2) = n.toNat := by
  rw [List.drop_left' hk, List.take_left' (beBytes_length 2 _), ofBe_beBytes2]

theorem AddressAt.readsAt (h : AddressAt b a rest) :
    ∃ k, AddressLength b k ∧ rest = b.drop k ∧ ReadsAt b a := by
  cases h with
  | ipv4 x y z w port =>
    refine ⟨7, .ipv4 (by simp), by simp [beBytes, leBytes], rfl, ?_⟩
    exact (ofBe_take_two [IPV4_FLAG, x, y, z, w] rfl port rest).symm
  | ipv6 ip port =>
    have hlen : ip.octets.length = 16 := by simp [Ipv6Addr.octets, Ipv6Addr.segments]
    refine ⟨19, .ipv6 (by simp [hlen]; omega), ?_, ?_, ?_, rfl, rfl⟩
    · simp [List.drop_append, hlen, beBytes, leBytes]
    · simp [Ipv6Addr.octets, Ipv6Addr.segments, List.range_succ, beBytes, leBytes, ofBe_two]
    · exact (ofBe_take_two (IPV6_FLAG :: ip.octets) (by simp [hlen]) port rest).symm
  | domain n name hname port =>
    refine ⟨n.toNat + 4, .domain n (by simp [hname]), ?_, n, rfl, ?_, ?_⟩
    · simp [← hname, List.drop_append]
    · rw [List.drop_succ_cons, List.drop_succ_cons, List.drop_zero, List.take_left' hname]
    · exact (ofBe_take_two (DOMAIN_FLAG :: n :: name) (by simp [hname]) port rest).symm

end

/-! ## Sending an address back -/

/-- What is sent for a parsed address, through `PpaassUnifiedAddress` as in both replies, is parsed
as the same address, all of it, and the length byte of a domain is the number of bytes that
follow. -/
def SentBack (a : Socks5Address) : Prop :=
  (∀ (σ : Type) (s : σ), (Socks5Address.parse id).run
    (s, (Socks5Address.ofUnified a.toUnified).toBytes) = .ok a (s, [])) ∧
  ∀ host port, a = .domain host port → ∃ n : UInt8, n.toNat = (utf8 host).length ∧
    (Socks5Address.ofUnified a.toUnified).toBytes =
      DOMAIN_FLAG :: n :: (utf8 host ++ beBytes 2 port.toNat)

/-- The text of a domain has at most 255 bytes; any other buffer fits. -/
def DomainFits (b : Bytes) : Prop :=
  ∀ n rest, b = DOMAIN_FLAG :: n :: rest →
    (fromUtf8Lossy (rest.take n.toNat)).utf8ByteSize ≤ 255

section
variable {b rest : Bytes} {a : Socks5Address}

/-- A name is never read as `0`. -/
theorem domainName_ne_zero (bytes : Bytes) : domainName bytes ≠ "0" := by
  by_cases h : fromUtf8Lossy bytes = "0"
  · simp [domainName, h]
  · simp [domainName, h]

/-- Which addresses can be parsed: their bytes stand for them if the host is short enough. -/
theorem AddressAt.sendable (h : AddressAt b a rest)
    (hsize : ∀ host port, a = .domain host port → host.utf8ByteSize ≤ 255) : a.Sendable := by
  cases h with
  | ipv4 => trivial
  | ipv6 => exact ⟨rfl, rfl⟩
  | domain n name hname port =>
    exact ⟨hsize _ _ rfl, domainName_ne_zero name⟩

theorem Socks5Address.ofUnified_toUnified (a : Socks5Address) : .ofUnified a.toUnified = a := by
  cases a <;> rfl

/-- The name that replaces `0` is short. -/
theorem domainName_le_iff (bytes : Bytes) :
    (domainName bytes).utf8ByteSize ≤ 255 ↔ (fromUtf8Lossy bytes).utf8ByteSize ≤ 255 := by
  by_cases h : fromUtf8Lossy bytes = "0"
  · simp only [domainName, h, beq_self_eq_true, if_true]
    decide
  · simp [domainName, h]

/-- A domain's length byte is at most 255, so a longer host is read back with another length. -/
theorem AddressAt.host_le {host : String} {port : UInt16}
    (h : AddressAt (Socks5Address.domain host port).toBytes (.domain host port) []) :
    host.utf8ByteSize ≤ 255 := by
  obtain ⟨k, hk, hrest, -⟩ := h.readsAt
  have hlen : (Socks5Address.domain host port).toBytes.length = host.utf8ByteSize + 4 := by
    simp [Socks5Address.toBytes, utf8_length]
  have hdrop : (Socks5Address.domain host port).toBytes.length ≤ k :=
    List.drop_eq_nil_iff.1 hrest.symm
  rw [hlen] at hdrop
  simp only [Socks5Address.toBytes, List.cons_append, List.nil_append] at hk
  cases hk with
  | domain n hb =>
    have := (UInt8.ofNat host.utf8ByteSize).toNat_lt
    omega

theorem Socks5Address.Sendable.sentBack (h : a.Sendable) : SentBack a := by
  refine ⟨fun σ s => ?_, fun host port ha => ?_⟩
  · have hat := addressAt_toBytes h []
    rw [List.append_nil] at hat
    rw [a.ofUnified_toUnified, parse_of_addressAt id s hat]
  · subst ha
    refine ⟨UInt8.ofNat host.utf8ByteSize, ?_, ?_⟩
    · rw [toNat_ofNat_of_lt (Nat.lt_succ_of_le h.1), utf8_length]
    · simp [Socks5Address.toBytes, Socks5Address.ofUnified, Socks5Address.toUnified]

theorem SentBack.host_le {host : String} {port : UInt16} (h : SentBack (.domain host port)) :
    host.utf8ByteSize ≤ 255 := by
  have hparse := h.1 Unit ()
  rw [Socks5Address.ofUnified_toUnified] at hparse
  obtain ⟨rest, hst, hat⟩ := addressAt_of_parse hparse
  cases hst
  exact hat.host_le

/-- The hosts of the addresses that a buffer can begin with. -/
theorem AddressAt.domainFits_iff (h : AddressAt b a rest) :
    DomainFits b ↔ ∀ host port, a = .domain host port → host.utf8ByteSize ≤ 255 := by
  cases h with
  | ipv4 => exact ⟨fun _ _ _ ha => (by cases ha), fun _ _ _ hb => (by cases hb)⟩
  | ipv6 => exact ⟨fun _ _ _ ha => (by cases ha), fun _ _ _ hb => (by cases hb)⟩
  | domain n name hname port =>
    constructor
    · intro hfits host port' ha
      cases ha
      have hsize := hfits n _ rfl
      rw [List.take_left' hname] at hsize
      exact (domainName_le_iff name).2 hsize
    · intro hhost n' rest' hb
      cases hb
      rw [List.take_left' hname]
      exact (domainName_le_iff name).1 (hhost _ _ rfl)

/-- **An accepted address can be sent back exactly where a domain's text has at most 255 bytes.** -/
theorem sentBack_iff {σ ε : Type} (fail : ParseError → ε) (s : σ) (b : Bytes) (a : Socks5Address)
    (st : σ × Bytes) (h : (Socks5Address.parse fail).run (s, b) = .ok a st) :
    SentBack a ↔ DomainFits b := by
  obtain ⟨rest, -, hat⟩ := addressAt_of_parse h
  rw [hat.domainFits_iff]
  constructor
  · intro hback host port ha
    subst ha
    exact hback.host_le
  · intro hhost
    exact (hat.sendable hhost).sentBack

/-- The request of `1.2.3.4`, port 80. -/
theorem sentBack_ipv4 :
    SentBack (.ip (.v4 ⟨1, 2, 3, 4⟩ 80)) ↔ DomainFits [1, 1, 2, 3, 4, 0, 80] :=
  sentBack_iff (fun e => e) () [1, 1, 2, 3, 4, 0, 80] _ ((), []) (by rfl)

/-- A domain of 86 bytes that are not UTF-8, port 80: its text is 86 replacement characters, which
are 258 bytes. -/
def unprintableDomain : Bytes := DOMAIN_FLAG :: 86 :: (List.replicate 86 255 ++ beBytes 2 80)

/-- The text of `unprintableDomain` is sent with length byte 2. -/
theorem unprintable_not_sent_back :
    ¬ ∀ (b : Bytes) (a : Socks5Address) (st : Unit × Bytes),
      (Socks5Address.parse id).run ((), b) = .ok a st → SentBack a := by
  intro hall
  have hat : AddressAt unprintableDomain (.domain (domainName (List.replicate 86 255)) 80) [] := by
    have hat := AddressAt.domain 86 (List.replicate 86 255) (by decide) 80 []
    rw [List.append_nil] at hat
    exact hat
  have hle := (hall _ _ _ (parse_of_addressAt id () hat)).host_le
  rw [domainName_le_iff] at hle
  exact absurd hle (by decide +kernel)

end

end Ppaass.Agent
