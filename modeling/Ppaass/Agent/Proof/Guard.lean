import Ppaass.Agent.Proof.Socks

/-!
# The guard on destinations

Which destinations the agent asks the proxy for (`asks_connect_iff`, `asks_request_iff`), and what
the three ways to name an IPv4 address come to: a SOCKS5 request with the address or with its dotted
form, and an HTTP CONNECT to its dotted form. The guard on addresses knows every loopback address
and the unspecified one, the guards on names know two texts (`guard_iff`).
-/

namespace Ppaass.Agent

open Wire Framed Prog

/-- The operation asks the proxy for no tunnel. -/
def AgentOp.NoInit : AgentOp → Prop
  | .proxyFeed message => ∀ src dst, message.payload ≠ .tcp (.init src dst)
  | _ => True

/-- Some run asks the proxy for a tunnel. -/
def Asks {α : Type} (x : AgentM α) : Prop := ¬ Only AgentOp.NoInit x.run

section
variable {α β : Type}

theorem Asks.bind {x : AgentM α} (h : Asks x) (f : α → AgentM β) : Asks (x >>= f) := by
  intro honly
  rw [ExceptT.run_bind] at honly
  exact h (only_of_bind honly)

theorem not_asks_throw (f : Fault AgentError) : ¬ Asks (throw f : AgentM α) := fun h => h trivial

/-- What follows a check asks where the check passes. -/
theorem asks_orFail {r : Except AgentError α} {f : α → AgentM β} (hf : ∀ a, Asks (f a)) :
    Asks (orFail .err r >>= f) ↔ ∃ a, r = .ok a := by
  cases r with
  | ok a => exact iff_of_true (hf a) ⟨a, rfl⟩
  | error e => exact iff_of_false (not_asks_throw (.err e)) (by simp)

variable (config : AgentConfig) (client : String) (src dst : PpaassUnifiedAddress)

/-- The handshake asks once the proxy is connected. -/
theorem asks_initTunnel : Asks (initTunnel config client src dst) := by
  intro h
  have htoken := h.2 ⟨List.replicate 32 0, by simp⟩
  have hid := htoken.2 ""
  have hconnected := hid.2 (some (.ok ()))
  have hset := hconnected.2 (.ok ())
  exact hset.1 src dst rfl

theorem asks_connect_iff (a : Socks5Address) :
    Asks (Socks5ClientTransport.execCommand config src ⟨.connect, a⟩) ↔
      Socks5ClientTransport.checkDestination a.toUnified = .ok () := by
  have hconnect : Asks (Socks5ClientTransport.handleConnectCommand config src a.toUnified) ↔
      ∃ u, Socks5ClientTransport.checkDestination a.toUnified = .ok u :=
    asks_orFail fun _ => (asks_initTunnel config _ src _).bind _
  have hexec : Asks (Socks5ClientTransport.execCommand config src ⟨.connect, a⟩) ↔
      Asks (Socks5ClientTransport.handleConnectCommand config src a.toUnified) := by
    refine ⟨fun h => ?_, fun h => h.bind _⟩
    by_contra hnot
    exact h (only_run_bind (not_not.1 hnot) fun _ => only_pure _)
  rw [hexec, hconnect]
  exact ⟨fun ⟨(), hu⟩ => hu, fun h => ⟨(), h⟩⟩

theorem asks_request_iff (http : HttpLib) (request : http.Request) :
    Asks (HttpClientTransport.handleRequest http config src request) ↔
      ∃ r, target http request = .ok r :=
  asks_orFail fun _ => (asks_initTunnel config _ src _).bind _

end

/-! ## IPv4 destinations -/

section
variable {a : Ipv4Addr} {p : UInt16}

theorem checkDestination_v4 : Socks5ClientTransport.checkDestination (.ip (.v4 a p)) = .ok () ↔
    a.a ≠ 127 ∧ a ≠ ⟨0, 0, 0, 0⟩ := by
  simp only [Socks5ClientTransport.checkDestination, SocketAddr.isLoopback,
    SocketAddr.isUnspecified, beq_iff_eq, ne_eq]
  split
  · simp_all
  · split <;> simp_all

/-- The two addresses whose text the guards on names know. -/
theorem display_eq_listed : (a.display = "0.0.0.1" ↔ a = ⟨0, 0, 0, 1⟩) ∧
    (a.display = "127.0.0.1" ↔ a = ⟨127, 0, 0, 1⟩) := by
  rw [← Ipv4Addr.display_inj, ← Ipv4Addr.display_inj]
  exact ⟨Iff.rfl, Iff.rfl⟩

theorem display_ne_of_no_dot {text : String} (h : '.' ∉ text.toList) : a.display ≠ text := by
  rintro rfl
  exact h a.dot_mem_display

theorem checkDestination_dotted :
    Socks5ClientTransport.checkDestination (.domain a.display p) = .ok () ↔
      a ≠ ⟨0, 0, 0, 1⟩ ∧ a ≠ ⟨127, 0, 0, 1⟩ := by
  have hlocal : a.display ≠ "localhost" := display_ne_of_no_dot (by decide)
  simp [Socks5ClientTransport.checkDestination, display_eq_listed, hlocal]

/-- `a:p`, the target of a CONNECT. -/
def dottedTarget (a : Ipv4Addr) (p : UInt16) : String := s!"{a.display}:{p}"

theorem target_dotted (http : HttpLib) {request : http.Request} {url : Url}
    (hmethod : (http.method request).toLower = CONNECT_METHOD)
    (htarget : http.requestTarget request = dottedTarget a p)
    (hurl : http.parseUrl (HTTPS_SCHEMA ++ SCHEMA_SEP ++ dottedTarget a p) = .ok url)
    (hhost : url.host = some a.display) :
    (∃ r, target http request = .ok r) ↔ a ≠ ⟨0, 0, 0, 1⟩ ∧ a ≠ ⟨127, 0, 0, 1⟩ := by
  have hrequest : requestUrl http request =
      .ok (HTTPS_SCHEMA ++ SCHEMA_SEP ++ dottedTarget a p, none) := by
    simp [requestUrl, hmethod, htarget]
  have htarget : target http request =
      (urlDestination url).bind fun dstAddress => .ok (dstAddress, none) := by
    rw [target, hrequest]
    change (((http.parseUrl _).mapError _).bind _ : Except AgentError _) = _
    rw [hurl]
    rfl
  rw [htarget, urlDestination, hhost]
  simp only [beq_iff_eq, Bool.or_eq_true, display_eq_listed]
  by_cases h : a = ⟨0, 0, 0, 1⟩ ∨ a = ⟨127, 0, 0, 1⟩
  · rw [if_pos h]
    exact iff_of_false (fun ⟨_, hr⟩ => by cases hr) fun hne => h.elim hne.1 hne.2
  · rw [if_neg h]
    exact iff_of_true ⟨_, rfl⟩ (not_or.1 h)

/-- The SOCKS5 request for a tunnel. -/
def connectBytes (reserved : UInt8) (dst : Socks5Address) : Bytes :=
  SOCKS_V5 :: 1 :: reserved :: dst.toBytes

theorem decode_connectBytes (reserved : UInt8) {dst : Socks5Address} (h : dst.Sendable) :
    Socks5InitCommandContentCodec.decode.run ((), connectBytes reserved dst) =
      .ok (some ⟨.connect, dst⟩) ((), []) := by
  have hreq := requestOf_toBytes (show Socks5InitCommandType.tryFrom 1 = .ok .connect from rfl)
    reserved h
  have hrun := Socks5InitCommandContentCodec.decode_request hreq []
  rwa [List.append_nil] at hrun

theorem sendable_dotted : (Socks5Address.domain a.display p).Sendable :=
  ⟨a.display_size, display_ne_of_no_dot (by decide)⟩

/-- What is to hold of the three ways to name `a`, by whether each is asked for: they are treated
alike, and none is asked for where `a` is a loopback address or the unspecified one. -/
structure SameGuard (a : Ipv4Addr) (byAddress byName byHttp : Prop) : Prop where
  name_iff : byAddress ↔ byName
  http_iff : byName ↔ byHttp
  refused : a.a = 127 ∨ a = ⟨0, 0, 0, 0⟩ → ¬ byAddress ∧ ¬ byName ∧ ¬ byHttp

/-- The addresses that every guard lists, and those that none does. -/
def GuardedAlike (a : Ipv4Addr) : Prop :=
  a = ⟨127, 0, 0, 1⟩ ∨ a.a ≠ 127 ∧ a ≠ ⟨0, 0, 0, 0⟩ ∧ a ≠ ⟨0, 0, 0, 1⟩

theorem sameGuard_iff : SameGuard a (a.a ≠ 127 ∧ a ≠ ⟨0, 0, 0, 0⟩)
    (a ≠ ⟨0, 0, 0, 1⟩ ∧ a ≠ ⟨127, 0, 0, 1⟩) (a ≠ ⟨0, 0, 0, 1⟩ ∧ a ≠ ⟨127, 0, 0, 1⟩) ↔
      GuardedAlike a := by
  constructor
  · rintro ⟨hname, -, hrefused⟩
    by_cases h1 : a = ⟨127, 0, 0, 1⟩
    · exact .inl h1
    -- refused by its name, a loopback or unspecified address is 0.0.0.1 or 127.0.0.1
    have haddress : a.a ≠ 127 ∧ a ≠ ⟨0, 0, 0, 0⟩ := by
      by_contra hnot
      have hloop : a.a = 127 ∨ a = ⟨0, 0, 0, 0⟩ := by
        by_contra hor
        exact hnot (not_or.1 hor)
      obtain ⟨-, hbyName, -⟩ := hrefused hloop
      refine hbyName ⟨?_, h1⟩
      rintro rfl
      simp at hloop
    exact .inr ⟨haddress.1, haddress.2, (hname.1 haddress).1⟩
  · rintro (rfl | ⟨h127, h0, h1⟩)
    · exact ⟨by decide, Iff.rfl, fun _ => by decide⟩
    · have h127' : a ≠ ⟨127, 0, 0, 1⟩ := by
        rintro rfl
        exact h127 rfl
      exact ⟨iff_of_true ⟨h127, h0⟩ ⟨h1, h127'⟩, Iff.rfl, fun h => (h.elim h127 h0).elim⟩

/-- **The guard knows an address under each of its names** for 127.0.0.1 and for every address that
is no loopback address, not unspecified and not 0.0.0.1, and for no other. -/
theorem guard_iff (http : HttpLib) (config : AgentConfig) (src : PpaassUnifiedAddress)
    (reserved : UInt8) {request : http.Request} {url : Url}
    (hmethod : (http.method request).toLower = CONNECT_METHOD)
    (htarget : http.requestTarget request = dottedTarget a p)
    (hurl : http.parseUrl (HTTPS_SCHEMA ++ SCHEMA_SEP ++ dottedTarget a p) = .ok url)
    (hhost : url.host = some a.display) :
    ∃ byAddress byName,
      Socks5InitCommandContentCodec.decode.run ((), connectBytes reserved (.ip (.v4 a p))) =
        .ok (some byAddress) ((), []) ∧
      Socks5InitCommandContentCodec.decode.run ((), connectBytes reserved (.domain a.display p)) =
        .ok (some byName) ((), []) ∧
      (SameGuard a (Asks (Socks5ClientTransport.execCommand config src byAddress))
        (Asks (Socks5ClientTransport.execCommand config src byName))
        (Asks (HttpClientTransport.handleRequest http config src request)) ↔ GuardedAlike a) := by
  refine ⟨_, _, decode_connectBytes reserved trivial,
    decode_connectBytes reserved sendable_dotted, ?_⟩
  rw [asks_connect_iff, asks_connect_iff, asks_request_iff,
    target_dotted http hmethod htarget hurl hhost]
  simp only [Socks5Address.toUnified, checkDestination_v4, checkDestination_dotted]
  exact sameGuard_iff

end

/-- The URL of a CONNECT to `a:80`. -/
def dottedUrl (a : Ipv4Addr) : Url :=
  ⟨HTTPS_SCHEMA, some a.display, some 80, HTTPS_SCHEMA ++ SCHEMA_SEP ++ dottedTarget a 80⟩

theorem connect_method (target : String) (url : Url) :
    ((HttpLib.connect target url).method ()).toLower = CONNECT_METHOD := by
  rw [← String.toList_inj]
  change (String.map Char.toLower "CONNECT").toList = _
  rw [String.toList_map]
  decide

theorem connect_parseUrl (target : String) (url : Url) :
    (HttpLib.connect target url).parseUrl url.text = .ok url := if_pos rfl

/-- At 1.2.3.4, which no guard lists. -/
theorem guard_iff_public : SameGuard ⟨1, 2, 3, 4⟩
    (Asks (Socks5ClientTransport.execCommand ⟨"user1", none⟩ (.domain "client" 1)
      ⟨.connect, .ip (.v4 ⟨1, 2, 3, 4⟩ 80)⟩))
    (Asks (Socks5ClientTransport.execCommand ⟨"user1", none⟩ (.domain "client" 1)
      ⟨.connect, .domain (Ipv4Addr.display ⟨1, 2, 3, 4⟩) 80⟩))
    (Asks (HttpClientTransport.handleRequest
      (.connect (dottedTarget ⟨1, 2, 3, 4⟩ 80) (dottedUrl ⟨1, 2, 3, 4⟩)) ⟨"user1", none⟩
      (.domain "client" 1) ())) := by
  obtain ⟨byAddress, byName, hAddress, hName, h⟩ :=
    guard_iff (.connect (dottedTarget ⟨1, 2, 3, 4⟩ 80) (dottedUrl ⟨1, 2, 3, 4⟩)) ⟨"user1", none⟩
      (.domain "client" 1) 0 (connect_method _ _) rfl (connect_parseUrl _ _) rfl
  have hv4 : (Socks5Address.ip (.v4 ⟨1, 2, 3, 4⟩ 80)).Sendable := trivial
  rw [decode_connectBytes 0 hv4] at hAddress
  rw [decode_connectBytes 0 sendable_dotted] at hName
  cases hAddress
  cases hName
  exact h.2 (.inr (by decide))

/-- 127.0.0.2 is refused by its address and asked for by its name. -/
theorem loopback_asked_by_name :
    ¬ Asks (Socks5ClientTransport.execCommand ⟨"user1", none⟩ (.domain "client" 1)
      ⟨.connect, .ip (.v4 ⟨127, 0, 0, 2⟩ 80)⟩) ∧
    Asks (Socks5ClientTransport.execCommand ⟨"user1", none⟩ (.domain "client" 1)
      ⟨.connect, .domain (Ipv4Addr.display ⟨127, 0, 0, 2⟩) 80⟩) ∧
    Asks (HttpClientTransport.handleRequest
      (.connect (dottedTarget ⟨127, 0, 0, 2⟩ 80) (dottedUrl ⟨127, 0, 0, 2⟩)) ⟨"user1", none⟩
      (.domain "client" 1) ()) := by
  refine ⟨?_, ?_, ?_⟩
  · rw [asks_connect_iff, Socks5Address.toUnified, checkDestination_v4]
    decide
  · rw [asks_connect_iff, Socks5Address.toUnified, checkDestination_dotted]
    decide
  · have htarget := target_dotted
      (.connect (dottedTarget ⟨127, 0, 0, 2⟩ 80) (dottedUrl ⟨127, 0, 0, 2⟩))
      (connect_method _ _) rfl (connect_parseUrl _ _) rfl
    exact (asks_request_iff _ _ _ _).2 (htarget.2 (by decide))

end Ppaass.Agent
