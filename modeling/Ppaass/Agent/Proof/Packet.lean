import Ppaass.Agent.Proof.Address
import Ppaass.Agent.Transport

/-!
# Which datagrams are packets

A datagram is a packet where an address follows its three bytes of header, and the data is what
follows the address (`udpPacket_eq_ok`). What the agent sends is read back as it was
(`udpPacket_toBytes`).
-/

namespace Ppaass.Agent

open Wire Framed

section
variable {b rest : Bytes} {a : Socks5Address} {packet : Socks5UdpDataPacket}

theorem run_requirePacket {n : Nat} (h : n ≤ b.length) :
    (Socks5UdpDataPacket.requirePacket n).run ((), b) = .ok () ((), b) := by
  simp [Socks5UdpDataPacket.requirePacket, Nat.not_lt.2 h]

/-- A datagram with a header: its address is read next, and the data is what is left. -/
theorem tryFrom_header (x y frag : UInt8) (b : Bytes) :
    Socks5UdpDataPacket.tryFrom.run ((), x :: y :: frag :: b) =
      (do let address ← Socks5Address.parse .parse
          return ⟨frag, address, (← get).2⟩ :
        CodecM Unit Socks5DecodeError Socks5UdpDataPacket).run ((), b) := by
  have hlen : 2 ≤ (x :: y :: frag :: b).length := by simp
  have hone : 1 ≤ (x :: y :: frag :: b).length := by simp
  have hfrag : 1 ≤ (frag :: b).length := by simp
  simp only [Socks5UdpDataPacket.tryFrom, EStateM.run_bind, run_requirePacket hlen,
    run_requirePacket hone, run_getU16 () hlen, List.drop_succ_cons, List.drop_zero,
    run_requirePacket hfrag, run_getU8]

theorem udpPacket_of_addressAt (x y frag : UInt8) (h : AddressAt b a rest) :
    udpPacket (x :: y :: frag :: b) = .ok ⟨frag, a, rest⟩ := by
  have hrun : Socks5UdpDataPacket.tryFrom.run ((), x :: y :: frag :: b) =
      .ok ⟨frag, a, rest⟩ ((), rest) := by
    rw [tryFrom_header, EStateM.run_bind, parse_of_addressAt _ _ h]
    rfl
  rw [udpPacket, hrun]

/-- **A datagram is a packet where its header is followed by an address.** -/
theorem udpPacket_eq_ok : udpPacket b = .ok packet ↔
    ∃ x y address, b = x :: y :: packet.frag :: address ∧
      AddressAt address packet.address packet.data := by
  constructor
  · intro h
    rcases b with _ | ⟨x, _ | ⟨y, _ | ⟨frag, b⟩⟩⟩
    · cases h
    · cases h
    · cases h
    · rcases addressAt_or_error Socks5DecodeError.parse () b with ⟨a, rest, hat⟩ | ⟨e, st, herr⟩
      · rw [udpPacket_of_addressAt x y frag hat] at h
        cases h
        exact ⟨x, y, b, rfl, hat⟩
      · rw [udpPacket, tryFrom_header, run_bind_error herr] at h
        cases h
  · rintro ⟨x, y, address, rfl, hat⟩
    exact udpPacket_of_addressAt x y packet.frag hat

/-- **A packet that is sent is read back.** -/
theorem udpPacket_toBytes (h : packet.address.Sendable) :
    udpPacket packet.toBytes = .ok packet := by
  refine udpPacket_eq_ok.2 ⟨0, 0, packet.address.toBytes ++ packet.data, ?_,
    addressAt_toBytes h packet.data⟩
  simp [Socks5UdpDataPacket.toBytes, beBytes, leBytes]

theorem tryFrom_eq_ok : (∃ st, Socks5UdpDataPacket.tryFrom.run ((), b) = .ok packet st) ↔
    udpPacket b = .ok packet := by
  constructor
  · rintro ⟨st, h⟩
    rw [udpPacket, h]
  · intro h
    unfold udpPacket at h
    split at h
    · rename_i heq
      cases h
      exact ⟨_, heq⟩
    · cases h
    · cases h

/-- **Every packet whose address is sendable is converted to bytes and back**, with the same frag,
address and data. -/
theorem tryFrom_toBytes (packet : Socks5UdpDataPacket) (h : packet.address.Sendable) :
    ∃ st, Socks5UdpDataPacket.tryFrom.run ((), packet.toBytes) = .ok packet st :=
  tryFrom_eq_ok.2 (udpPacket_toBytes h)

/-- A packet for `a:80` with the data 1, 2. -/
theorem tryFrom_toBytes_domain : ∃ st, Socks5UdpDataPacket.tryFrom.run
    ((), (⟨7, .domain "a" 80, [1, 2]⟩ : Socks5UdpDataPacket).toBytes) =
      .ok ⟨7, .domain "a" 80, [1, 2]⟩ st :=
  tryFrom_toBytes ⟨7, .domain "a" 80, [1, 2]⟩ ⟨by decide, by decide⟩

/-- **`parse` accepts exactly the buffers that begin with an address and takes exactly that
address**: it never panics (which is what reading past the end does), its values are those at their
positions, and the data of a packet is the datagram without its header and its address. -/
theorem parse_exact {σ ε : Type} (fail : ParseError → ε) (s : σ) (b : Bytes) :
    (∀ what st, (Socks5Address.parse fail).run (s, b) ≠ .error (.panic what) st) ∧
    ((∃ a st, (Socks5Address.parse fail).run (s, b) = .ok a st) ↔ ∃ k, AddressLength b k) ∧
    (∀ a st, (Socks5Address.parse fail).run (s, b) = .ok a st →
      ∃ k, AddressLength b k ∧ st = (s, b.drop k) ∧ ReadsAt b a) ∧
    ∀ packet st, Socks5UdpDataPacket.tryFrom.run ((), b) = .ok packet st →
      ∃ k, AddressLength (b.drop 3) k ∧ packet.data = b.drop (3 + k) := by
  refine ⟨?_, ⟨?_, ?_⟩, ?_, ?_⟩
  · intro what st hpanic
    rcases addressAt_or_error fail s b with ⟨a, rest, hat⟩ | ⟨e, st', herr⟩
    · rw [parse_of_addressAt fail s hat] at hpanic
      cases hpanic
    · rw [herr] at hpanic
      cases hpanic
  · rintro ⟨a, st, h⟩
    obtain ⟨rest, -, hat⟩ := addressAt_of_parse h
    obtain ⟨k, hk, -⟩ := hat.readsAt
    exact ⟨k, hk⟩
  · rintro ⟨k, hk⟩
    obtain ⟨a, rest, hat⟩ := hk.exists_addressAt
    exact ⟨a, _, parse_of_addressAt fail s hat⟩
  · intro a st h
    obtain ⟨rest, rfl, hat⟩ := addressAt_of_parse h
    obtain ⟨k, hk, rfl, hreads⟩ := hat.readsAt
    exact ⟨k, hk, rfl, hreads⟩
  · intro packet st h
    obtain ⟨x, y, address, rfl, hat⟩ := udpPacket_eq_ok.1 (tryFrom_eq_ok.1 ⟨st, h⟩)
    obtain ⟨k, hk, hrest, -⟩ := hat.readsAt
    refine ⟨k, hk, ?_⟩
    rw [hrest, Nat.add_comm]
    rfl

end

end Ppaass.Agent
