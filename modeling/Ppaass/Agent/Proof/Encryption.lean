import Ppaass.Agent.Proof.Operations
import Ppaass.Lib.Drawn

/-!
# The encryption of what the agent sends

Each message that the agent feeds to the proxy connection travels under a token that the task of
this client connection has drawn: in the handshake, for the data of the relays (the relay task is
spawned with the token), and for the datagrams of an association.

`Connection.Drawn` says so of a connection, and `Connection.Drawn.step` that every step keeps it,
whatever the client, the proxy and the rest of the world answer.
-/

namespace Ppaass.Agent

open Wire Prog BlockMode
open Framed (Fault)

/-- A random token is the encryption that is drawn; messages, and the relay task, use one. -/
def encryptionDraw : Draw agentSig PpaassMessagePayloadEncryption where
  uses
    | .proxyFeed message => some message.encryption
    | .spawnClientToProxy payloadEncryption => some payloadEncryption
    | _ => none
  draws
    | ⟨.random32Bytes, token⟩ => some (.aes token.1)
    | _ => none

/-- The token was drawn. -/
theorem mem_drawn {t : Trace agentSig} {encryption : PpaassMessagePayloadEncryption}
    (h : encryption ∈ encryptionDraw.drawn t) :
    ∃ token : Block 32, encryption = .aes token.1 ∧ ⟨.random32Bytes, token⟩ ∈ t := by
  obtain ⟨⟨op, a⟩, he, hv⟩ := List.mem_filterMap.1 h
  cases op <;> first
    | cases hv; done
    | exact ⟨_, (Option.some.inj hv).symm, he⟩

/-- The operation uses no encryption. -/
abbrev Silent : AgentOp → Prop := encryptionDraw.UsesOnly none

/-- The operation uses no other encryption than this. -/
abbrev Under (payloadEncryption : PpaassMessagePayloadEncryption) : AgentOp → Prop :=
  encryptionDraw.UsesOnly (some payloadEncryption)

theorem under_of_eq {payloadEncryption : PpaassMessagePayloadEncryption} {op : AgentOp}
    (h : encryptionDraw.uses op = some payloadEncryption) : Under payloadEncryption op := by
  intro v hv
  rw [h] at hv
  exact hv

open Draw (usesOnly_of_none)

/-! ## The main task -/

section
variable {α : Type} (config : AgentConfig)

/-- A token is drawn, and what follows uses nothing else. -/
theorem sound_randomEncryption {f : PpaassMessagePayloadEncryption → AgentM α}
    (hf : ∀ token : Block 32, Only (Under (.aes token.1)) (f (.aes token.1)).run) :
    encryptionDraw.Sound (randomEncryption config >>= f).run := by
  intro t
  rw [wp_run_bind, randomEncryption, wp_run_bind, wp_awaitM]
  refine ⟨Draw.fresh_of_none rfl, fun token => ?_⟩
  refine Draw.wp_fresh_of_only (hf token) fun v hv => ?_
  cases hv
  rw [Draw.drawn, List.filterMap_append]
  exact List.mem_append_right _ (List.mem_singleton.2 rfl)

theorem sound_initTunnel (client : String) (srcAddress dstAddress : PpaassUnifiedAddress) :
    encryptionDraw.Sound (initTunnel config client srcAddress dstAddress).run := by
  refine sound_randomEncryption config fun token => ?_
  refine only_run_bind ((only_awaitM _).2 (usesOnly_of_none rfl)) fun messageId =>
    only_run_bind (only_createConnection (usesOnly_of_none rfl) (usesOnly_of_none rfl) config)
      fun _ => ?_
  refine only_run_bind (only_lift (only_proxySend (under_of_eq rfl) (usesOnly_of_none rfl)))
    fun r => only_run_bind (only_orFail _ r) fun _ => ?_
  exact only_run_bind ((only_awaitM _).2 (usesOnly_of_none rfl)) fun r => only_orFail _ _

theorem sound_tcpRelay (info : ClientTransportTcpDataRelay) :
    encryptionDraw.Sound (tcpRelay config info).run := by
  refine sound_randomEncryption config fun token => ?_
  have hinit :
      Only (Under (.aes token.1)) (sendInitData config (.aes token.1) info.initData).run := by
    cases info.initData with
    | none => exact only_pure _
    | some initData =>
      exact only_run_bind ((only_awaitM _).2 (usesOnly_of_none rfl)) fun messageId =>
        only_run_bind (only_lift (only_proxySend (under_of_eq rfl) (usesOnly_of_none rfl)))
          fun r => only_orFail _ r
  exact only_run_bind hinit fun _ =>
    only_run_bind ((only_awaitM (.spawnClientToProxy _)).2 (under_of_eq rfl)) fun _ =>
    (only_awaitM .spawnProxyToClient).2 (usesOnly_of_none rfl)

/-! ## The handshakes -/

theorem sound_replySucceeded (bindAddress : Socks5Address) :
    encryptionDraw.Sound (Socks5ClientTransport.replySucceeded bindAddress).run :=
  Draw.sound_of_only (only_clientReply (fun _ => usesOnly_of_none rfl) _ _ _ _)

theorem sound_orFail {δ : Type} (f : δ → Fault AgentError) (r : Except δ α) :
    encryptionDraw.Sound (orFail f r : AgentM α).run :=
  Draw.sound_of_only (only_orFail f r)

theorem sound_pure (a : α) : encryptionDraw.Sound (pure a : AgentM α).run := fun _ => trivial

theorem sound_framedNext {σ ε ι : Type} (decode : Framed.CodecM σ ε (Option ι))
    (io : StdIoError → ε) (f : ReadFrame σ) :
    encryptionDraw.Sound
      (ExceptT.lift (ReadFrame.framedNext decode io f) : AgentM _).run :=
  Draw.sound_of_only (only_lift (ReadFrame.only_framedNext _ _ (usesOnly_of_none rfl) f))

theorem sound_execCommand (srcAddress : PpaassUnifiedAddress) (command : Socks5InitCommand) :
    encryptionDraw.Sound (Socks5ClientTransport.execCommand config srcAddress command).run := by
  unfold Socks5ClientTransport.execCommand
  split
  · exact fun _ => trivial
  · refine Draw.Sound.run_bind ?_ fun info => sound_pure _
    refine Draw.Sound.run_bind (Draw.sound_of_only ((only_awaitM _).2 (usesOnly_of_none rfl)))
      fun r => (sound_orFail _ r).run_bind fun _ => ?_
    refine Draw.Sound.run_bind (Draw.sound_of_only ((only_awaitM _).2 (usesOnly_of_none rfl)))
      fun r => (sound_orFail _ r).run_bind fun localAddr => ?_
    exact (sound_replySucceeded _).run_bind fun _ => sound_pure _
  · refine Draw.Sound.run_bind ?_ fun info => sound_pure _
    refine (sound_orFail _ _).run_bind fun _ => (sound_initTunnel config _ _ _).run_bind
      fun tunnelId => ?_
    exact (sound_replySucceeded _).run_bind fun _ => sound_pure _

theorem sound_socks5Handshake (srcAddress : PpaassUnifiedAddress) (initialBuf : Bytes) :
    encryptionDraw.Sound
      (Socks5ClientTransport.handshake config srcAddress initialBuf).run := by
  refine Draw.Sound.run_bind ?_ fun _ => Draw.Sound.run_bind ?_ fun command =>
    sound_execCommand config srcAddress command
  · refine (sound_framedNext _ _ _).run_bind fun r => (sound_orFail _ _).run_bind fun _ => ?_
    exact Draw.sound_of_only (only_clientReply (fun _ => usesOnly_of_none rfl) _ _ _ _)
  · exact (sound_framedNext _ _ _).run_bind fun r => sound_orFail _ _

theorem sound_httpHandshake (http : HttpLib) (srcAddress : PpaassUnifiedAddress)
    (initialBuf : Bytes) :
    encryptionDraw.Sound
      (HttpClientTransport.handshake http config srcAddress initialBuf).run := by
  refine (sound_framedNext _ _ _).run_bind fun r => (sound_orFail _ _).run_bind
    fun httpMessage => Draw.Sound.run_bind ?_ fun info => sound_pure _
  refine (sound_orFail _ _).run_bind fun target => (sound_initTunnel config _ _ _).run_bind
    fun tunnelId => ?_
  dsimp only
  split
  · exact Draw.Sound.run_bind (Draw.sound_of_only
      (only_clientReply (fun _ => usesOnly_of_none rfl) _ _ _ _)) fun _ => sound_pure _
  · exact sound_pure _

/-- **The task of a client connection is sound.** -/
theorem sound_handleClientConnection (http : HttpLib) (clientSocketAddress : SocketAddr) :
    encryptionDraw.Sound (handleClientConnection http config clientSocketAddress).run := by
  refine Draw.Sound.run_bind (Draw.sound_of_only (only_dispatch (usesOnly_of_none rfl))) fun r => ?_
  refine Draw.Sound.run_bind ?_ fun info => ?_
  · cases r.1 with
    | socks5 => exact sound_socks5Handshake config _ _
    | http => exact sound_httpHandshake config http _ _
    | socks4 => exact sound_httpHandshake config http _ _
  · cases info with
    | tcp info => exact (sound_tcpRelay config info).run_bind fun _ => sound_pure _
    | udp info => exact sound_pure _

end

/-! ## The relay tasks -/

/-- The messages of the relay travel under the encryption it was spawned with. -/
theorem relayClientToProxy_under (userToken : String)
    (payloadEncryption : PpaassMessagePayloadEncryption) (t : Trace agentSig) :
    wp (encryptionDraw.only (some payloadEncryption))
      (relayClientToProxy userToken payloadEncryption) (fun _ _ => True) t := by
  refine wp_bind.2 (wp_mono (Forward.wp_run (Q := fun _ _ => True) (fun _ => True) (fun _ => True)
    trivial (fun _ _ => trivial) (fun t _ => ?_) (fun t _ => ?_)) fun _ t _ => ?_)
  · -- whether the client has sent anything
    refine (wp_await _).2 ⟨usesOnly_of_none rfl, fun b => ?_⟩
    cases b with
    | false => exact trivial
    | true => exact (wp_await _).2 ⟨usesOnly_of_none rfl, fun r => by cases r <;> exact trivial⟩
  · refine wp_bind.2 ((wp_await _).2 ⟨usesOnly_of_none rfl, fun r => ?_⟩)
    rcases r with e | _ | ⟨b, bs⟩
    · exact (wp_await _).2 ⟨usesOnly_of_none rfl, fun _ => trivial⟩
    · exact (wp_await _).2 ⟨usesOnly_of_none rfl, fun _ => trivial⟩
    · refine wp_bind.2 ((wp_await _).2 ⟨usesOnly_of_none rfl, fun messageId => ?_⟩)
      exact (wp_await _).2 ⟨under_of_eq rfl, fun r => by cases r <;> exact trivial⟩
  · exact wp_bind.2 ((wp_await _).2 ⟨usesOnly_of_none rfl, fun _ => trivial⟩)

theorem spawnsOnly (config : AgentConfig) : Tasks.SpawnsOnly encryptionDraw (spawn config) := by
  intro op side p hspawn
  cases op <;> try (cases hspawn; done)
  · cases hspawn
    exact relayClientToProxy_under _ _ []
  · cases hspawn
    have hsilent : Only Silent relayProxyToClient :=
      only_relayProxyToClient (usesOnly_of_none rfl) (usesOnly_of_none rfl)
        (fun _ => usesOnly_of_none rfl) (usesOnly_of_none rfl) (usesOnly_of_none rfl)
    exact wp_mono (wp_only (fun _ => True) hsilent trivial (fun _ _ => trivial)
      fun _ _ _ hop => ⟨hop, fun _ => trivial⟩) fun _ _ _ => trivial

/-! ## Associations -/

theorem sound_relayUdpData (config : AgentConfig)
    (clientUdpRestrictAddress : PpaassUnifiedAddress) :
    encryptionDraw.Sound (relayUdpData config clientUdpRestrictAddress).run := by
  refine sound_randomEncryption config fun token => only_iterate (fun _ => ?_) ()
  refine only_bind (only_run_bind ((only_awaitM _).2 (usesOnly_of_none rfl)) fun r =>
    only_run_bind (only_orFail _ r) fun received => ?_) fun r => only_pure _
  obtain ⟨datagram, clientUdpAddress⟩ := received
  dsimp only
  split
  · exact only_pure _
  refine only_run_bind (only_orFail _ _) fun packet => ?_
  refine only_run_bind ((only_awaitM _).2 (usesOnly_of_none rfl)) fun messageId =>
    only_run_bind (only_createConnection (usesOnly_of_none rfl) (usesOnly_of_none rfl) config)
      fun _ => ?_
  refine only_run_bind (only_lift (only_proxySend (under_of_eq rfl) (usesOnly_of_none rfl)))
    fun r => only_run_bind (only_orFail _ r) fun _ => ?_
  refine only_run_bind ((only_awaitM _).2 (usesOnly_of_none rfl)) fun r => ?_
  cases r with
  | none => exact only_pure _
  | some proxyUdpMessage =>
    exact only_run_bind (only_orFail _ _) fun message =>
      only_run_bind (only_udpReply (fun _ => usesOnly_of_none rfl)
        (fun _ _ => usesOnly_of_none rfl) message) fun _ => only_pure _

theorem sound_checkUdpRelayTcpConnection : encryptionDraw.Sound checkUdpRelayTcpConnection.run :=
  Draw.sound_of_only (only_checkUdpRelayTcpConnection (usesOnly_of_none rfl))

/-! ## Connections -/

/-- Whatever a task or a branch of the connection uses was drawn. -/
structure Connection.Drawn (c : Connection) : Prop where
  tasks : Tasks.Drawn encryptionDraw c.tasks
  association : ∀ a, c.association = some a →
    a.Holds encryptionDraw.fresh encryptionDraw.fresh (fun _ _ => True) fun _ _ => True

variable {http : HttpLib} {config : AgentConfig} {c c' : Connection}

theorem Connection.Drawn.accepted (clientSocketAddress : SocketAddr) :
    (Connection.accepted http config clientSocketAddress).Drawn where
  tasks := .new (sound_handleClientConnection config http clientSocketAddress)
  association a ha := by cases ha

/-- **Every step keeps it.** -/
theorem Connection.Drawn.step {e : Option (Event agentSig)} (h : c.Drawn)
    (hstep : c.Step config e c') : c'.Drawn := by
  cases hstep with
  | task hs => exact { h with tasks := h.tasks.step (spawnsOnly config) hs }
  | udpRelay hmain hnone =>
    refine { h with association := fun a ha => ?_ }
    cases ha
    exact .new (sound_checkUdpRelayTcpConnection []) (sound_relayUdpData config _ [])
  | associated ha hs =>
    refine { h with association := fun a' ha' => ?_ }
    cases ha'
    exact (h.association _ ha).step hs

theorem Connection.Drawn.used_drawn (h : c.Drawn) {v : PpaassMessagePayloadEncryption}
    (hv : v ∈ encryptionDraw.used c.events) : v ∈ encryptionDraw.drawn c.events := by
  unfold Connection.events Draw.used at hv
  unfold Connection.events Draw.drawn
  rw [List.filterMap_append, List.mem_append] at hv ⊢
  rcases hv with hv | hv
  · exact .inl (h.tasks.used_drawn hv)
  · refine .inr ?_
    cases ha : c.association with
    | none => simp [ha] at hv
    | some a =>
      simp only [ha, Option.elim_some, List.filterMap_append, List.mem_append] at hv ⊢
      exact hv.imp (Draw.used_of_respects (h.association a ha).left.respects)
        (Draw.used_of_respects (h.association a ha).right.respects)

theorem AgentServer.reachable_drawn {s : AgentServer} (h : s.Reachable http config) :
    ∀ c ∈ s.connections, c.Drawn := by
  induction h with
  | refl => simp
  | tail _ hs ih =>
    intro c hc
    cases hs with
    | accept cs addr =>
      rcases List.mem_append.1 hc with hc | hc
      · exact ih c hc
      · exact List.mem_singleton.1 hc ▸ .accepted addr
    | @connection pre post c₀ c₁ e hstep =>
      rcases List.mem_append.1 hc with hc | hc
      · exact ih c (List.mem_append_left _ hc)
      · rcases List.mem_cons.1 hc with rfl | hc
        · exact (ih c₀ (by simp)).step hstep
        · exact ih c (List.mem_append_right _ (List.mem_cons_of_mem _ hc))

end Ppaass.Agent
