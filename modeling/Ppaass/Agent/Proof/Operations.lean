import Ppaass.Agent.Connection

/-!
# What the parts of the agent do

The operations that reading a client through `Framed`, answering it, connecting to the proxy,
sending a message there and relaying datagrams perform.
-/

namespace Ppaass.Agent

open Wire Prog
open Framed (CodecM)

variable {P : AgentOp → Prop}

/-! ## The client -/

namespace ReadFrame

variable {σ ε ι : Type} (decode : CodecM σ ε (Option ι)) (io : StdIoError → ε)

theorem only_readMore (hread : P .clientRead) (f : ReadFrame σ) :
    Only (S := agentSig) P (readMore (ι := ι) io f) := by
  refine only_bind ((only_await _).2 hread) fun r => ?_
  rcases r with e | _ | ⟨b, bs⟩
  · exact only_pure _
  · dsimp only
    split <;> exact only_pure _
  · exact only_pure _

theorem only_framedNext (hread : P .clientRead) (f : ReadFrame σ) :
    Only (S := agentSig) P (framedNext decode io f) := by
  refine only_iterate (fun f => ?_) f
  unfold pollRound
  split
  · exact only_pure _
  · split
    · exact only_readMore io hread f
    · split
      · exact only_pure _
      · rcases decoded decode f with ⟨_ | r, f'⟩
        · exact only_readMore io hread _
        · exact only_pure _

end ReadFrame

theorem only_clientReply {σ ε : Type} (hsend : ∀ bytes, P (.clientSend bytes))
    (encode : CodecM σ ε Unit) (codec : σ) (io : StdIoError → ε) (fail : ε → AgentError) :
    Only P (clientReply encode codec io fail).run := by
  unfold clientReply
  split
  · exact only_run_bind ((only_awaitM _).2 (hsend _)) fun r => only_orFail _ r
  · exact only_pure _
  · exact only_pure _

theorem only_dispatch (hread : P .clientRead) : Only P dispatch.run := by
  refine only_run_bind (only_lift (ReadFrame.only_framedNext _ _ hread _)) fun r => ?_
  obtain ⟨item, frame⟩ := r
  rcases item with _ | _ | protocol
  · exact only_pure _
  · rename_i fault
    cases fault <;> exact only_pure _
  · cases protocol <;> exact only_pure _

/-! ## The proxy -/

theorem only_createConnection (hconnect : P .proxyConnect) (hnodelay : P .proxySetNodelay)
    (config : AgentConfig) : Only P (createConnection config).run := by
  refine only_run_bind ((only_awaitM _).2 hconnect) fun r => ?_
  rcases r with _ | e | _
  · exact only_pure _
  · exact only_pure _
  · exact only_run_bind ((only_awaitM _).2 hnodelay) fun r => only_orFail _ r

theorem only_proxySend {message : PpaassAgentMessage} (hfeed : P (.proxyFeed message))
    (hflush : P .proxyFlush) : Only (S := agentSig) P (proxySend message) := by
  refine only_bind ((only_await _).2 hfeed) fun r => ?_
  cases r with
  | ok => exact (only_await .proxyFlush).2 hflush
  | error e => exact only_pure _

/-! ## The relay tasks -/

theorem only_relayProxyToClient (hpending : P .pending) (hnext : P .proxyNext)
    (hfeed : ∀ bytes, P (.clientFeed bytes)) (hflush : P .clientFlush) (hclose : P .clientClose) :
    Only (S := agentSig) P relayProxyToClient := by
  refine only_bind (Forward.only_run ?_ ?_ ?_ ?_ ?_) fun _ => only_bind ?_ fun _ => only_pure _
  · exact (only_await .pending).2 hpending
  · refine only_bind ((only_await _).2 hnext) fun r => ?_
    rcases r with _ | _ | _ <;> exact only_pure _
  · exact fun bytes => (only_await (.clientFeed bytes)).2 (hfeed bytes)
  · exact (only_await .clientFlush).2 hflush
  · exact (only_await .clientClose).2 hclose
  · exact (only_await .clientClose).2 hclose

/-! ## Datagrams -/

theorem only_toSocketAddrs (hlookup : ∀ a, P (.lookup a)) (address : PpaassUnifiedAddress) :
    Only (S := agentSig) P (toSocketAddrs address) := by
  cases address with
  | ip addr => exact only_pure _
  | domain host port => exact only_bind ((only_await _).2 (hlookup _)) fun _ => only_pure _

theorem only_udpReply (hlookup : ∀ a, P (.lookup a))
    (hsend : ∀ data addrs, P (.udpSendTo data addrs))
    (proxyUdpMessage : PpaassProxyMessage) : Only P (udpReply proxyUdpMessage).run := by
  unfold udpReply
  split
  · exact only_run_bind (only_lift (only_toSocketAddrs hlookup _)) fun r =>
      only_run_bind (only_orFail _ r) fun addrs =>
      only_run_bind ((only_awaitM _).2 (hsend _ _)) fun r => only_orFail _ r
  · exact only_pure _

theorem only_checkUdpRelayTcpConnection (hread : P .clientRead) :
    Only P checkUdpRelayTcpConnection.run := by
  refine only_iterate (fun _ => only_bind ((only_await _).2 hread) fun r => ?_) _
  rcases r with e | _ | _ <;> exact only_pure _

end Ppaass.Agent
