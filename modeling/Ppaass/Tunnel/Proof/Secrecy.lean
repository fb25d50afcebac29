import Ppaass.Agent.Proof.Encryption
import Ppaass.Common.Proof.Ciphertext
import Ppaass.Proxy.Proof.Encryption

/-!
# No plaintext between the agent and the proxy

In every state that the two servers reach, whatever their clients and destinations do and whatever
messages the peers send them: each message that was passed to `encode` is under a token of 32 bytes
that the task of its own connection has drawn, and its frame carries the ciphertext under it.
-/

namespace Ppaass.Tunnel

open Wire Prog BlockMode ConnectionCodec
open Agent (AgentServer)
open Proxy (ProxyServer)

/-- **No plaintext and no downgrade** on the links between the agent and the proxy. -/
theorem links_ciphered {http : Agent.HttpLib} {agentConfig : Agent.AgentConfig}
    {proxyConfig : Proxy.ProxyConfig} {agent : AgentServer} {proxy : ProxyServer}
    (hagent : agent.Reachable http agentConfig) (hproxy : proxy.Reachable proxyConfig)
    {libs : Libs} {cipher : BlockCipher AesKey 16} (hc : libs.aes256Ecb = cipher.ecb) :
    (∀ c ∈ agent.connections, ∀ message r, ⟨.proxyFeed message, r⟩ ∈ c.events →
      ∃ token : Block 32, ⟨.random32Bytes, token⟩ ∈ c.events ∧
        message.encryption = .aes token.1 ∧
        EncodesCiphered libs cipher libs.agentPayload token message) ∧
    (∀ g ∈ proxy.transports, ∀ message r, ⟨.agentFeed message, r⟩ ∈ g.events →
      ∃ token : Block 32, ⟨.random32Bytes, token⟩ ∈ g.events ∧
        message.encryption = .aes token.1 ∧
        EncodesCiphered libs cipher libs.proxyPayload token message) := by
  constructor
  · intro c hmem message r hfed
    have hused : message.encryption ∈ Agent.encryptionDraw.used c.events :=
      List.mem_filterMap.2 ⟨_, hfed, rfl⟩
    have hdrawn := (AgentServer.reachable_drawn hagent c hmem).used_drawn hused
    obtain ⟨token, heq, htoken⟩ := Agent.mem_drawn hdrawn
    exact ⟨token, htoken, heq, encode_ciphered hc _ heq⟩
  · intro g hmem message r hfed
    have hused : message.encryption ∈ Proxy.encryptionDraw.used g.events :=
      List.mem_filterMap.2 ⟨_, hfed, rfl⟩
    have hdrawn := (ProxyServer.reachable_drawn hproxy g hmem).used_drawn hused
    obtain ⟨token, heq, htoken⟩ := Proxy.mem_drawn hdrawn
    exact ⟨token, htoken, heq, encode_ciphered hc _ heq⟩

/-- The main program of a lone transport performs its next operation. -/
theorem reachable_main {config : Proxy.ProxyConfig} {n : UInt64} {g : Proxy.TransportTasks}
    (op : Proxy.ProxyOp) (a : op.Ans) {k : op.Ans → Prog Proxy.proxySig _}
    (h : ProxyServer.Reachable config ⟨n, [g]⟩) (hg : g.main.prog = .vis op k) :
    ProxyServer.Reachable config ⟨ProxyServer.counted n (some ⟨op, a⟩),
      [Tasks.spawned Proxy.spawn { g with main := ⟨k a, g.main.trace ++ [⟨op, a⟩]⟩ }
        (some ⟨op, a⟩)]⟩ :=
  .tail h ⟨_, .task n [] [] (.main (.performs (S := Proxy.proxySig) op a hg))⟩

theorem last_mem_events {g : Proxy.TransportTasks}
    {p : Prog Proxy.proxySig (Except Proxy.ProxyServerError Unit)} {t : Trace Proxy.proxySig}
    {e : Event Proxy.proxySig} :
    e ∈ Tasks.events (Tasks.spawned Proxy.spawn { g with main := ⟨p, t ++ [e]⟩ } (some e)) := by
  simp [Tasks.events, Tasks.trace]

/-- The proxy's answer to a request that came in plain, for a destination that does not answer. -/
theorem links_ciphered_refusal : ∃ config proxy, ProxyServer.Reachable config proxy ∧
    ∃ g ∈ proxy.transports, ∃ message, ⟨.agentFeed message, .ok ()⟩ ∈ g.events ∧
      ∃ token : Block 32, message.encryption = .aes token.1 := by
  let token : Block 32 := ⟨List.replicate 32 7, rfl⟩
  let request := generateAgentTcpInitMessage "m1" "user1" (.ip (.v4 ⟨10, 0, 0, 1⟩ 5000))
    (.ip (.v4 ⟨1, 2, 3, 4⟩ 80)) .plain
  have h0 : ProxyServer.Reachable ⟨none, none, none⟩ ⟨0, [Tasks.new (Proxy.ProxyServer.serve _)]⟩ :=
    .single ⟨_, .accept _ _⟩
  have h1 := reachable_main .fetchAdd () h0 rfl
  have h2 := reachable_main .newUuid "t1" h1 rfl
  have h3 := reachable_main .agentNext (some (.ok request)) h2 rfl
  have h4 := reachable_main .random32Bytes token h3 rfl
  have h5 := reachable_main (.tcpConnect _) none h4 rfl
  have h6 := reachable_main .newUuid "m2" h5 rfl
  have h7 := reachable_main (.agentFeed _) (.ok ()) h6 rfl
  obtain ⟨token', -, htoken, -⟩ := (@links_ciphered .none ⟨"user1", none⟩ _ _ _ .refl h7
    Reference.libs _ rfl).2 _ (List.mem_singleton.2 rfl) _ (.ok ()) last_mem_events
  exact ⟨_, _, h7, _, List.mem_singleton.2 rfl, _, last_mem_events, token', htoken⟩

end Ppaass.Tunnel
