import Ppaass.Lib.Drawn
import Ppaass.Proxy.Proof.Operations
import Ppaass.Proxy.Server

/-!
# The encryption of what the proxy sends

Each message that the proxy feeds to the agent connection travels under the token that the task of
this connection has drawn: the answer to a request for a tunnel, the data of the relay (the relay
task is spawned with the token), and the reply to a datagram. The encryption of the agent's message
is not used.
-/

namespace Ppaass.Proxy

open Wire Prog BlockMode

/-- A random token is the encryption that is drawn; messages, and the relay task, use one. -/
def encryptionDraw : Draw proxySig PpaassMessagePayloadEncryption where
  uses
    | .agentFeed message => some message.encryption
    | .spawnDstToAgent _ payloadEncryption => some payloadEncryption
    | _ => none
  draws
    | ⟨.random32Bytes, token⟩ => some (.aes token.1)
    | _ => none

/-- The token was drawn. -/
theorem mem_drawn {t : Trace proxySig} {encryption : PpaassMessagePayloadEncryption}
    (h : encryption ∈ encryptionDraw.drawn t) :
    ∃ token : Block 32, encryption = .aes token.1 ∧ ⟨.random32Bytes, token⟩ ∈ t := by
  obtain ⟨⟨op, a⟩, he, hv⟩ := List.mem_filterMap.1 h
  cases op <;> first
    | cases hv; done
    | exact ⟨_, (Option.some.inj hv).symm, he⟩

/-- The operation uses no other encryption than this. -/
abbrev Under (payloadEncryption : PpaassMessagePayloadEncryption) : ProxyOp → Prop :=
  encryptionDraw.UsesOnly (some payloadEncryption)

theorem under_of_eq {payloadEncryption : PpaassMessagePayloadEncryption} {op : ProxyOp}
    (h : encryptionDraw.uses op = some payloadEncryption) : Under payloadEncryption op := by
  intro v hv
  rw [h] at hv
  exact hv

open Draw (usesOnly_of_none)

/-! ## The main task -/

section
variable (config : ProxyConfig)

theorem only_tcpHandler_under (request : TcpHandlerRequest) :
    Only (Under request.payloadEncryption) (TcpHandler.exec config request).run := by
  refine only_mono (only_tcpHandler_performs config request) fun op hop => ?_
  cases op <;> first
    | exact hop.elim
    | exact usesOnly_of_none rfl
    | (obtain ⟨messageId, result, rfl⟩ := hop
       exact under_of_eq rfl)

theorem only_udpHandler_under (request : UdpHandlerRequest) :
    Only (Under request.payloadEncryption) (UdpHandler.exec config request).run := by
  refine only_mono (only_udpHandler_performs config request) fun op hop => ?_
  cases op <;> first
    | exact hop.elim
    | exact usesOnly_of_none rfl
    | (obtain ⟨messageId, data, rfl⟩ := hop
       exact under_of_eq rfl)

theorem only_execTcp_under (transportId userToken : String)
    (payloadEncryption : PpaassMessagePayloadEncryption) (payload : AgentTcpPayload) :
    Only (Under payloadEncryption)
      (Transport.execTcp config transportId userToken payloadEncryption payload).run := by
  cases payload with
  | init srcAddress dstAddress =>
    refine only_run_bind (only_lift (only_tcpHandler_under config
      { transportId, userToken, srcAddress, dstAddress, payloadEncryption })) fun r => ?_
    cases r with
    | ok => exact only_pure _
    | error e => exact (only_awaitM .fetchSub).2 (usesOnly_of_none rfl)
  | data content => exact only_pure _

theorem only_execUdp_under (transportId userToken : String)
    (payloadEncryption : PpaassMessagePayloadEncryption) (payload : AgentUdpPayload) :
    Only (Under payloadEncryption)
      (Transport.execUdp config transportId userToken payloadEncryption payload).run := by
  refine only_run_bind (only_lift (only_udpHandler_under config
    { transportId, userToken, payloadEncryption
      srcAddress := payload.srcAddress
      dstAddress := payload.dstAddress
      udpData := payload.data
      needResponse := payload.needResponse })) fun r => ?_
  cases r with
  | ok => exact (only_awaitM .fetchSub).2 (usesOnly_of_none rfl)
  | error e =>
    exact only_run_bind ((only_awaitM .fetchSub).2 (usesOnly_of_none rfl)) fun _ => only_pure _

/-- **A token is drawn for the agent's message, and what follows uses nothing else.** -/
theorem sound_exec (transportId : String) :
    encryptionDraw.Sound (Transport.exec config transportId).run := by
  refine Draw.Sound.run_bind (Draw.sound_of_only ((only_awaitM _).2 (usesOnly_of_none rfl)))
    fun r => ?_
  cases r with
  | none => exact fun _ => trivial
  | some agentMessage =>
    refine Draw.Sound.run_bind (Draw.sound_of_only (only_orFail _ _)) fun agentMessage t => ?_
    rw [wp_run_bind, wp_awaitM]
    refine ⟨Draw.fresh_of_none rfl, fun token => ?_⟩
    refine Draw.wp_fresh_of_only (o := some (.aes token.1)) ?_ fun v hv => ?_
    · dsimp only
      split
      · exact only_execTcp_under config _ _ _ _
      · exact only_execUdp_under config _ _ _ _
    · cases hv
      rw [Draw.drawn, List.filterMap_append]
      exact List.mem_append_right _ (List.mem_singleton.2 rfl)

theorem sound_serve : encryptionDraw.Sound (ProxyServer.serve config) := by
  refine Draw.Sound.bind (Draw.sound_of_only ((only_await .fetchAdd).2 (usesOnly_of_none rfl)))
    fun _ => ?_
  exact Draw.Sound.bind (Draw.sound_of_only ((only_await .newUuid).2 (usesOnly_of_none rfl)))
    fun transportId => sound_exec config transportId

end

/-! ## The relay tasks -/

/-- The messages of the relay travel under the encryption it was spawned with. -/
theorem relayDstToAgent_under (userToken : String)
    (payloadEncryption : PpaassMessagePayloadEncryption) (t : Trace proxySig) :
    wp (encryptionDraw.only (some payloadEncryption))
      (TcpHandler.relayDstToAgent userToken payloadEncryption) (fun _ _ => True) t := by
  refine wp_bind.2 (wp_mono (Forward.wp_run (Q := fun _ _ => True) (fun _ => True) (fun _ => True)
    trivial (fun _ _ => trivial) (fun t _ => ?_) (fun t _ => ?_)) fun _ t _ => ?_)
  · -- whether the destination has sent anything
    refine (wp_await _).2 ⟨usesOnly_of_none rfl, fun b => ?_⟩
    cases b with
    | false => exact trivial
    | true => exact (wp_await _).2 ⟨usesOnly_of_none rfl, fun r => by cases r <;> exact trivial⟩
  · refine wp_bind.2 ((wp_await _).2 ⟨usesOnly_of_none rfl, fun r => ?_⟩)
    rcases r with e | _ | ⟨b, bs⟩
    · exact (wp_await _).2 ⟨usesOnly_of_none rfl, fun _ => trivial⟩
    · exact (wp_await _).2 ⟨usesOnly_of_none rfl, fun _ => trivial⟩
    · refine wp_bind.2 ((wp_await _).2 ⟨usesOnly_of_none rfl, fun messageId => ?_⟩)
      exact (wp_await _).2 ⟨under_of_eq rfl, fun r => by cases r <;> exact trivial⟩
  · refine wp_bind.2 ((wp_await _).2 ⟨usesOnly_of_none rfl, fun _ => ?_⟩)
    exact wp_bind.2 ((wp_await _).2 ⟨usesOnly_of_none rfl, fun _ => trivial⟩)

theorem spawnsOnly : Tasks.SpawnsOnly encryptionDraw spawn := by
  intro op side p hspawn
  cases op <;> try (cases hspawn; done)
  · cases hspawn
    refine wp_mono (wp_only (P := AgentToDstOp) (fun _ => True) only_relayAgentToDst trivial
      (fun _ _ => trivial) fun _ op _ hop => ⟨?_, fun _ => trivial⟩) fun _ _ _ => trivial
    cases op <;> first
      | exact hop.elim
      | exact usesOnly_of_none rfl
  · cases hspawn
    exact relayDstToAgent_under _ _ []

/-! ## The server -/

theorem ProxyServer.reachable_drawn {config : ProxyConfig} {s : ProxyServer}
    (h : Reachable config s) : ∀ g ∈ s.transports, Tasks.Drawn encryptionDraw g := by
  induction h with
  | refl => simp [ProxyServer.new]
  | tail _ hs ih =>
    intro g hg
    obtain ⟨l, hs⟩ := hs
    cases hs with
    | accept n ts =>
      rcases List.mem_append.1 hg with hg | hg
      · exact ih g hg
      · exact List.mem_singleton.1 hg ▸ .new (sound_serve config)
    | @task n pre post g₀ g₁ side e hstep =>
      rcases List.mem_append.1 hg with hg | hg
      · exact ih g (List.mem_append_left _ hg)
      · rcases List.mem_cons.1 hg with rfl | hg
        · exact (ih g₀ (by simp)).step spawnsOnly hstep
        · exact ih g (List.mem_append_right _ (List.mem_cons_of_mem _ hg))

end Ppaass.Proxy
