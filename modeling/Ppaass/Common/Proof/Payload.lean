import Ppaass.Common.Bincode

/-!
# Which payloads survive their format

`bincode` writes the address of an IPv6 socket without its flow information and its scope id. A
payload that can be serialized is read back as it was if its addresses have none (`Flowless`):
`agentPayload_roundTripsAt` and `proxyPayload_roundTripsAt`.
-/

namespace Ppaass

open Wire

/-! ## Addresses -/

/-- There is no flow information and no scope id. -/
def SocketAddr.Flowless : SocketAddr → Prop
  | .v4 _ _ => True
  | .v6 _ _ flowinfo scopeId => flowinfo = 0 ∧ scopeId = 0

def PpaassUnifiedAddress.Flowless : PpaassUnifiedAddress → Prop
  | .ip addr => addr.Flowless
  | .domain _ _ => True

def PpaassAgentMessagePayload.Flowless : PpaassAgentMessagePayload → Prop
  | .tcp (.init srcAddress dstAddress) => srcAddress.Flowless ∧ dstAddress.Flowless
  | .tcp (.data _) => True
  | .udp payload => payload.srcAddress.Flowless ∧ payload.dstAddress.Flowless

def PpaassProxyMessagePayload.Flowless : PpaassProxyMessagePayload → Prop
  | .tcp (.init srcAddress dstAddress _) => srcAddress.Flowless ∧ dstAddress.Flowless
  | .tcp (.data _) => True
  | .udp payload => payload.srcAddress.Flowless ∧ payload.dstAddress.Flowless

namespace Bincode

open Format

theorem fits_string (s : String) : string.Fits isizeMax s := fits_text (by decide)

theorem fits_bytes (bs : Bytes) : bytes.Fits isizeMax bs := fits_blob (by decide)

theorem fits_u16 (n : UInt16) : u16.Fits isizeMax n :=
  fits_map (fits_le n.toNat_lt) n.ofNat_toNat

theorem fits_bool (b : Bool) : bool.Fits isizeMax b := by
  cases b <;> exact fits_filterMap (fits_le (by decide)) rfl

theorem fits_ipv4Addr (ip : Ipv4Addr) : ipv4Addr.Fits isizeMax ip :=
  fits_filterMap (fits_take rfl) rfl

/-- A segment is read back. -/
theorem ofBe_segment (s : UInt16) : UInt16.ofNat (ofBe (beBytes 2 s.toNat)) = s := by
  rw [ofBe_beBytes, Nat.mod_eq_of_lt (show s.toNat < 256 ^ 2 from s.toNat_lt), UInt16.ofNat_toNat]

theorem fits_ipv6Addr (ip : Ipv6Addr) : ipv6Addr.Fits isizeMax ip := by
  apply fits_filterMap (fits_take rfl)
  have hsegment : ∀ i (s : UInt16), (ip.octets.drop (2 * i)).take 2 = beBytes 2 s.toNat →
      UInt16.ofNat (ofBe ((ip.octets.drop (2 * i)).take 2)) = s := by
    intro i s h
    rw [h, ofBe_segment]
  simp only [hsegment 0 ip.a rfl, hsegment 1 ip.b rfl, hsegment 2 ip.c rfl, hsegment 3 ip.d rfl,
    hsegment 4 ip.e rfl, hsegment 5 ip.f rfl, hsegment 6 ip.g rfl, hsegment 7 ip.h rfl]

theorem fits_socketAddr {addr : SocketAddr} (h : addr.Flowless) :
    socketAddr.Fits isizeMax addr := by
  cases addr with
  | v4 ip port => exact fits_map (fits_inl (fits_pair (fits_ipv4Addr ip) (fits_u16 port))) rfl
  | v6 ip port flowinfo scopeId =>
    obtain ⟨rfl, rfl⟩ := h
    exact fits_map (fits_inr (by decide) (fits_pair (fits_ipv6Addr ip) (fits_u16 port))) rfl

theorem fits_unifiedAddress {addr : PpaassUnifiedAddress} (h : addr.Flowless) :
    unifiedAddress.Fits isizeMax addr := by
  cases addr with
  | ip addr => exact fits_map (fits_inl (fits_socketAddr h)) rfl
  | domain host port =>
    exact fits_map (fits_inr (by decide) (fits_pair (fits_string host) (fits_u16 port))) rfl

/-! ## Payloads -/

theorem fits_initResult (result : ProxyTcpInitResult) : initResult.Fits isizeMax result := by
  rcases result with tunnelId | (_ | _)
  · exact fits_map (fits_inl (fits_string tunnelId)) rfl
  · exact fits_map (fits_inr (by decide) (fits_map (fits_inl fits_unit) rfl)) rfl
  · exact fits_map (fits_inr (by decide) (fits_map (fits_inr (by decide) fits_unit) rfl)) rfl

theorem fits_agentPayload {payload : PpaassAgentMessagePayload} (h : payload.Flowless) :
    agentPayload.Fits isizeMax payload := by
  rcases payload with (⟨srcAddress, dstAddress⟩ | content) | payload
  · have htcp : agentTcpPayload.Fits isizeMax (.init srcAddress dstAddress) :=
      fits_map (fits_inl (fits_pair (fits_unifiedAddress h.1) (fits_unifiedAddress h.2))) rfl
    exact fits_map (fits_inl htcp) rfl
  · have htcp : agentTcpPayload.Fits isizeMax (.data content) :=
      fits_map (fits_inr (by decide) (fits_bytes content)) rfl
    exact fits_map (fits_inl htcp) rfl
  · have hudp : agentUdpPayload.Fits isizeMax payload :=
      fits_map (fits_pair (fits_unifiedAddress h.1) (fits_pair (fits_unifiedAddress h.2)
        (fits_pair (fits_bytes payload.data) (fits_bool payload.needResponse)))) rfl
    exact fits_map (fits_inr (by decide) hudp) rfl

theorem fits_proxyPayload {payload : PpaassProxyMessagePayload} (h : payload.Flowless) :
    proxyPayload.Fits isizeMax payload := by
  rcases payload with (⟨srcAddress, dstAddress, result⟩ | content) | payload
  · have htcp : proxyTcpPayload.Fits isizeMax (.init srcAddress dstAddress result) :=
      fits_map (fits_inl (fits_pair (fits_unifiedAddress h.1)
        (fits_pair (fits_unifiedAddress h.2) (fits_initResult result)))) rfl
    exact fits_map (fits_inl htcp) rfl
  · have htcp : proxyTcpPayload.Fits isizeMax (.data content) :=
      fits_map (fits_inr (by decide) (fits_bytes content)) rfl
    exact fits_map (fits_inl htcp) rfl
  · have hudp : proxyUdpPayload.Fits isizeMax payload :=
      fits_map (fits_pair (fits_unifiedAddress h.1) (fits_pair (fits_unifiedAddress h.2)
        (fits_bytes payload.data))) rfl
    exact fits_map (fits_inr (by decide) hudp) rfl

end Bincode

/-! ## Round trips -/

/-- What fits an allocation if it is serialized survives. -/
theorem Serde.roundTripsAt_of_fits {α : Type} {t : Format α} {a : α} (h : t.Fits isizeMax a) :
    (Serde.ofFormat t).RoundTripsAt a := by
  intro v hv
  have hput := Serde.ofFormat_put hv
  exact Serde.ofFormat_roundTripsAt (h (hput ▸ v.len_le)) v hv

namespace Reference

theorem agentPayload_roundTripsAt {payload : PpaassAgentMessagePayload} (h : payload.Flowless) :
    libs.agentPayload.RoundTripsAt payload :=
  Serde.roundTripsAt_of_fits (Bincode.fits_agentPayload h)

theorem proxyPayload_roundTripsAt {payload : PpaassProxyMessagePayload} (h : payload.Flowless) :
    libs.proxyPayload.RoundTripsAt payload :=
  Serde.roundTripsAt_of_fits (Bincode.fits_proxyPayload h)

end Reference

end Ppaass
