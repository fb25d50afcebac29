import Mathlib.Data.List.Basic
import Ppaass.Agent.Proof.Operations
import Ppaass.Agent.Proof.Socks
import Ppaass.Lib.Environment

/-!
# What the hand-overs of a client connection keep

Four readers take over the connection of a SOCKS5 client in turn: the dispatcher, the reader of the
method selection, the reader of the request, and the relay. The first hands on what it has read; the
other two drop what is left in their buffers.

`TcpNetwork` is what surrounds a connection whose tunnel the proxy grants. The other relay task is
no part of it: it neither reads the client nor sends to the proxy (`relayProxyToClient_apart`).
-/

namespace Ppaass.Agent

open Wire Prog
open Framed (Fault CodecM)

/-! ## The network -/

structure TcpNetwork where
  /-- what the reads of the client's connection give, before its end -/
  reads : List Bytes
  /-- what was fed to the connection with the proxy -/
  sent : List PpaassAgentMessagePayload
  /-- the relay task that was spawned, by its encryption -/
  relay : Option PpaassMessagePayloadEncryption

namespace TcpNetwork

def start (reads : List Bytes) : TcpNetwork := ⟨reads, [], none⟩

/-- Nothing fails on the way to the proxy, and the proxy grants the tunnel. -/
inductive Answers : TcpNetwork → Event agentSig → TcpNetwork → Prop
  | newUuid (n : TcpNetwork) (id : String) : Answers n ⟨.newUuid, id⟩ n
  | random32Bytes (n : TcpNetwork) (token : BlockMode.Block 32) :
      Answers n ⟨.random32Bytes, token⟩ n
  | pending (n : TcpNetwork) (b : Bool) : Answers n ⟨.pending, b⟩ n
  | clientRead {n : TcpNetwork} {chunk : Bytes} {rest : List Bytes} (h : n.reads = chunk :: rest) :
      Answers n ⟨.clientRead, .ok chunk⟩ { n with reads := rest }
  | clientEof {n : TcpNetwork} (h : n.reads = []) : Answers n ⟨.clientRead, .ok []⟩ n
  | clientSend (n : TcpNetwork) (bytes : Bytes) : Answers n ⟨.clientSend bytes, .ok ()⟩ n
  | proxyConnect (n : TcpNetwork) : Answers n ⟨.proxyConnect, some (.ok ())⟩ n
  | proxySetNodelay (n : TcpNetwork) : Answers n ⟨.proxySetNodelay, .ok ()⟩ n
  | proxyNext (n : TcpNetwork) (messageId userToken tunnelId : String)
      (encryption : PpaassMessagePayloadEncryption) (srcAddress dstAddress : PpaassUnifiedAddress) :
      Answers n ⟨.proxyNext, some (.ok ⟨messageId, userToken, encryption,
        .tcp (.init srcAddress dstAddress (.success tunnelId))⟩)⟩ n
  | proxyFeed (n : TcpNetwork) (message : PpaassAgentMessage) :
      Answers n ⟨.proxyFeed message, .ok ()⟩ { n with sent := n.sent ++ [message.payload] }
  | proxyFlush (n : TcpNetwork) : Answers n ⟨.proxyFlush, .ok ()⟩ n
  | proxyClose (n : TcpNetwork) (r : Except CommonError Unit) : Answers n ⟨.proxyClose, r⟩ n
  | udpBind (n : TcpNetwork) (addr : String) (r : Except StdIoError Unit) :
      Answers n ⟨.udpBind addr, r⟩ n
  | udpLocalAddr (n : TcpNetwork) (r : Except StdIoError SocketAddr) :
      Answers n ⟨.udpLocalAddr, r⟩ n
  | spawnClientToProxy (n : TcpNetwork) (payloadEncryption : PpaassMessagePayloadEncryption) :
      Answers n ⟨.spawnClientToProxy payloadEncryption, ()⟩
        { n with relay := some payloadEncryption }
  | spawnProxyToClient (n : TcpNetwork) : Answers n ⟨.spawnProxyToClient, ()⟩ n

end TcpNetwork

open TcpNetwork (Answers)

/-- The client's connection can always be read, if only to its end. -/
theorem TcpNetwork.exists_clientRead (n : TcpNetwork) : ∃ a n', n.Answers ⟨.clientRead, a⟩ n' := by
  cases hreads : n.reads with
  | nil => exact ⟨_, _, .clientEof hreads⟩
  | cons chunk rest => exact ⟨_, _, .clientRead hreads⟩

/-! ## What is to be conserved -/

/-- A method-selection message. -/
inductive MethodSelection : Bytes → Prop
  | mk (n : UInt8) (methods : Bytes) (h : methods.length = n.toNat) :
      MethodSelection (SOCKS_V5 :: n :: methods)

theorem MethodSelection.exists_cons {auth : Bytes} (h : MethodSelection auth) :
    ∃ bs, auth = SOCKS_V5 :: bs := by
  cases h
  exact ⟨_, rfl⟩

/-- The proxy was asked for a tunnel to the destination, and then sent this data and no other. -/
def Relayed (srcAddress dstAddress : PpaassUnifiedAddress) (data : Bytes) (n : TcpNetwork) : Prop :=
  ∃ parts : List Bytes, n.sent = .tcp (.init srcAddress dstAddress) ::
    parts.map (fun part => .tcp (.data part)) ∧ parts.flatten = data

/-- Every run of the handshake succeeds, and every run of the relay task that it spawns relays the
payload and nothing else to the destination, up to the end of the client's connection. -/
def Conserves (http : HttpLib) (config : AgentConfig) (clientSocketAddress : SocketAddr)
    (dstAddress : PpaassUnifiedAddress) (payload : Bytes) (reads : List Bytes) : Prop :=
  Always Answers (fun r n => r = .ok none ∧ ∃ payloadEncryption,
      n.relay = some payloadEncryption ∧
      Always Answers (fun _ => Relayed (.ip clientSocketAddress) dstAddress payload)
        (relayClientToProxy config.getUserToken payloadEncryption) n)
    (handleClientConnection http config clientSocketAddress).run (.start reads)

/-- A read ends here. -/
def Boundary (reads : List Bytes) (k : Nat) : Prop :=
  ∃ pre post, reads = pre ++ post ∧ pre.flatten.length = k

/-! ## Reading the client -/

section
variable {n : TcpNetwork}

theorem always_awaitM (e : AgentOp) {Q : Except (Fault AgentError) e.Ans → TcpNetwork → Prop}
    (hanswer : ∃ a n', n.Answers ⟨e, a⟩ n') (h : ∀ a n', n.Answers ⟨e, a⟩ n' → Q (.ok a) n') :
    Always Answers Q (awaitM e).run n :=
  .vis hanswer fun a n' ha => .ret (h a n' ha)

namespace ReadFrame

variable {σ ε ι : Type} {decode : CodecM σ ε (Option ι)} (io : StdIoError → ε)
  {codec codec' : σ} {chunk buf : Bytes} {item : ι} {rest : List Bytes}

/-- An item that is in the buffer is taken from there. -/
theorem framedNext_buffered (hdecode : decode.run (codec, chunk) = .ok (some item) (codec', buf)) :
    Always Answers (fun r n' => r.1 = some (.ok item) ∧ r.2.buffer = buf ∧ n' = n)
      (framedNext decode io (.fromParts codec chunk)) n := by
  refine .loop ?_
  have hround : pollRound decode io (fromParts codec chunk) = .ret (.inr (some (.ok item),
      { fromParts codec chunk with codec := codec', buffer := buf })) := by
    simp [pollRound, fromParts, decoded, hdecode]
    rfl
  rw [hround]
  exact .ret ⟨rfl, rfl, rfl⟩

/-- An item that is read is taken from the buffer, where the rest of the read stays. -/
theorem framedNext_read (hreads : n.reads = chunk :: rest) (hne : chunk ≠ [])
    (hdecode : decode.run (codec, chunk) = .ok (some item) (codec', buf)) :
    Always Answers (fun r n' => r.1 = some (.ok item) ∧ r.2.buffer = buf ∧
      n' = { n with reads := rest }) (framedNext decode io (.new codec)) n := by
  obtain ⟨b, bs, rfl⟩ := List.exists_cons_of_ne_nil hne
  refine .loop (.bind (.bind (.vis ⟨_, _, .clientRead hreads⟩ fun a n' ha => ?_)))
  cases ha with
  | clientEof h => cases hreads.symm.trans h
  | clientRead h =>
    cases hreads.symm.trans h
    exact .ret (.ret (framedNext_buffered io hdecode))

/-! An item that is read on a new `Framed` takes bytes off the client's connection. -/

section
variable (n : TcpNetwork) {decode : CodecM Unit ε (Option ι)}

/-- Something was read since `n`, or nothing is in the buffer. -/
structure Reading (f : ReadFrame Unit) (m : TcpNetwork) : Prop where
  sent : m.sent = n.sent
  suffix : m.reads <:+ n.reads
  read : m.reads.flatten.length < n.reads.flatten.length ∨ f.buffer = [] ∧ f.hasErrored = false

/-- An item was read, if there is one. -/
structure HasRead (r : Polled ε ι × ReadFrame Unit) (m : TcpNetwork) : Prop where
  sent : m.sent = n.sent
  suffix : m.reads <:+ n.reads
  read : ∀ item, r.1 = some (.ok item) → m.reads.flatten.length < n.reads.flatten.length

/-- How many rounds are left at most. -/
def rounds (f : ReadFrame Unit) (m : TcpNetwork) : Nat :=
  2 * m.reads.length + if f.eof then 0 else 1

variable {n} {f : ReadFrame Unit} {m : TcpNetwork}

theorem Reading.readMore (hne : ∀ c ∈ n.reads, c ≠ []) (h : Reading n f m) :
    Always Answers (Sum.elim (fun f' m' => Reading n f' m' ∧ rounds f' m' < rounds f m)
      (HasRead (ε := ε) (ι := ι) n)) (ReadFrame.readMore io f) m := by
  refine .bind (.vis m.exists_clientRead fun a m' ha => .ret ?_)
  cases ha with
  | clientEof hreads =>
    dsimp only
    split
    · exact .ret ⟨h.sent, h.suffix, fun item hitem => by cases hitem⟩
    · next heof => exact .ret ⟨⟨h.sent, h.suffix, h.read⟩, by simp [rounds, heof, hreads]⟩
  | @clientRead chunk rest hreads =>
    have hmem : chunk ∈ n.reads := h.suffix.subset (by simp [hreads])
    obtain ⟨b, bs, rfl⟩ := List.exists_cons_of_ne_nil (hne chunk hmem)
    have hlen : m.reads.flatten.length ≤ n.reads.flatten.length := by
      obtain ⟨pre, hpre⟩ := h.suffix
      rw [← hpre, List.flatten_append, List.length_append]
      omega
    have hshorter : rest.flatten.length < m.reads.flatten.length := by
      rw [hreads, List.flatten_cons, List.length_append, List.length_cons]
      omega
    refine .ret ⟨⟨h.sent, ?_, .inl (by simpa using hshorter.trans_le hlen)⟩, ?_⟩
    · exact .trans ⟨[b :: bs], by simp [hreads]⟩ h.suffix
    · show 2 * rest.length + 1 < rounds f m
      rw [rounds, hreads, List.length_cons]
      omega

/-- A call of `decode`: it finds an item only where something was read. -/
theorem Reading.decoded (hempty : decode.run ((), []) = .ok none ((), [])) (h : Reading n f m) :
    HasRead n (ReadFrame.decoded decode f) m ∧ ((ReadFrame.decoded decode f).1 = none →
      Reading n (ReadFrame.decoded decode f).2 m ∧ (ReadFrame.decoded decode f).2.eof = f.eof) := by
  rcases h.read with hread | ⟨hbuffer, herrored⟩
  · refine ⟨⟨h.sent, h.suffix, fun _ _ => hread⟩, fun _ => ⟨⟨h.sent, h.suffix, .inl hread⟩, ?_⟩⟩
    unfold ReadFrame.decoded
    split <;> rfl
  · have hnone : ReadFrame.decoded decode f = (none, { f with codec := (), buffer := [] }) := by
      rw [ReadFrame.decoded, hbuffer, hempty]
      rfl
    rw [hnone]
    exact ⟨⟨h.sent, h.suffix, fun item hitem => (by cases hitem)⟩,
      fun _ => ⟨⟨h.sent, h.suffix, .inr ⟨rfl, herrored⟩⟩, rfl⟩⟩

theorem Reading.pollRound (hempty : decode.run ((), []) = .ok none ((), []))
    (hne : ∀ c ∈ n.reads, c ≠ []) (h : Reading n f m) :
    Always Answers (Sum.elim (fun f' m' => Reading n f' m' ∧ rounds f' m' < rounds f m)
      (HasRead (ε := ε) (ι := ι) n)) (ReadFrame.pollRound decode io f) m := by
  obtain ⟨hitem, hnext⟩ := h.decoded hempty
  unfold ReadFrame.pollRound
  split
  · exact .ret ⟨h.sent, h.suffix, fun item hitem => by cases hitem⟩
  split
  · exact h.readMore io hne
  split
  · -- the end of the client's connection
    refine .ret ?_
    show HasRead n (ReadFrame.decodedEof decode io f) m
    unfold ReadFrame.decodedEof
    rcases hd : ReadFrame.decoded decode f with ⟨_ | r, f'⟩
    · dsimp only
      split <;> exact ⟨h.sent, h.suffix, fun item hitem => by cases hitem⟩
    · rw [hd] at hitem
      exact hitem
  · rcases hd : ReadFrame.decoded decode f with ⟨_ | r, f'⟩
    · rw [hd] at hnext
      obtain ⟨hreading, heof⟩ := hnext rfl
      have hreading' : Reading n { f' with isReadable := false } m :=
        ⟨hreading.sent, hreading.suffix, hreading.read⟩
      have hrounds : rounds { f' with isReadable := false } m = rounds f m := by
        simp [rounds, show f'.eof = f.eof from heof]
      rw [← hrounds]
      exact hreading'.readMore io hne
    · rw [hd] at hitem
      exact .ret hitem

/-- **What is read on a new `Framed` is taken off the connection.** -/
theorem framedNext_shrinks (hempty : decode.run ((), []) = .ok none ((), []))
    (hne : ∀ c ∈ n.reads, c ≠ []) :
    Always Answers (HasRead n) (framedNext decode io (.new ())) n :=
  .iterate (Reading n) rounds ⟨rfl, List.suffix_rfl, .inr ⟨rfl, rfl⟩⟩
    fun _ _ h => h.pollRound io hempty hne

end

end ReadFrame

/-! ## The handshake -/

/-- The dispatcher hands on what it has read. -/
theorem dispatch_always {chunk : Bytes} {rest : List Bytes} {clientProtocol : ClientProtocol}
    (hreads : n.reads = chunk :: rest) (hne : chunk ≠ [])
    (hdecode : SwitchClientProtocolDecoder.decode.run ((), chunk) =
      .ok (some clientProtocol) ((), chunk)) (hprotocol : clientProtocol ≠ .socks4) :
    Always Answers (fun r n' => r = .ok (clientProtocol, chunk) ∧ n' = { n with reads := rest })
      dispatch.run n := by
  refine .run_bind (.lift ((ReadFrame.framedNext_read .io hreads hne hdecode).mono ?_))
  rintro ⟨item, frame⟩ n' ⟨rfl, rfl, rfl⟩
  cases clientProtocol with
  | http => exact .ret ⟨rfl, rfl⟩
  | socks5 => exact .ret ⟨rfl, rfl⟩
  | socks4 => exact absurd rfl hprotocol

theorem dispatch_socks5 {chunk bs : Bytes} {rest : List Bytes} (hreads : n.reads = chunk :: rest)
    (hchunk : chunk = SOCKS_V5 :: bs) :
    Always Answers (fun r n' => r = .ok (.socks5, chunk) ∧ n' = { n with reads := rest })
      dispatch.run n := by
  subst hchunk
  exact dispatch_always hreads (List.cons_ne_nil _ _) rfl (by simp)

namespace Socks5ClientTransport

/-- The method selection is answered, and what follows it is dropped. -/
theorem authenticate_always {auth : Bytes} (hauth : MethodSelection auth) (more : Bytes) :
    Always Answers (fun r n' => r = .ok () ∧ n' = n) (authenticate (auth ++ more)).run n := by
  obtain ⟨k, methods, hlen⟩ := hauth
  have hdecode := Socks5AuthCommandContentCodec.decode_methods
    (show k.toNat ≤ (methods ++ more).length by simp [hlen])
  refine .run_bind (.lift ((ReadFrame.framedNext_buffered .io hdecode).mono ?_))
  rintro ⟨item, frame⟩ n' ⟨rfl, -, rfl⟩
  refine .run_bind (.ret (.run_bind (always_awaitM _ ⟨_, _, .clientSend _ _⟩ fun a n' ha => ?_)))
  cases ha
  exact .ret ⟨rfl, rfl⟩

/-- A request that comes with one read is taken off it, and what follows it is dropped. -/
theorem readCommand_always {init : Bytes} {command : Socks5InitCommand}
    (hinit : RequestOf init command) {more : Bytes} {rest : List Bytes}
    (hreads : n.reads = (init ++ more) :: rest) :
    Always Answers (fun r n' => r = .ok command ∧ n' = { n with reads := rest })
      readCommand.run n := by
  have hne : init ++ more ≠ [] := by
    cases hinit
    simp
  have hdecode := Socks5InitCommandContentCodec.decode_request hinit more
  refine .run_bind (.lift ((ReadFrame.framedNext_read .io hreads hne hdecode).mono ?_))
  rintro ⟨item, frame⟩ n' ⟨rfl, -, rfl⟩
  exact .ret ⟨rfl, rfl⟩

/-- A request that is read takes bytes off the client's connection. -/
theorem readCommand_shrinks (hne : ∀ c ∈ n.reads, c ≠ []) :
    Always Answers (fun r n' => n'.sent = n.sent ∧ n'.reads <:+ n.reads ∧ ∀ command,
      r = .ok command → n'.reads.flatten.length < n.reads.flatten.length) readCommand.run n := by
  refine .run_bind (.lift ((ReadFrame.framedNext_shrinks .io
    (Socks5InitCommandContentCodec.decode_short (by simp)) hne).mono ?_))
  rintro ⟨item, frame⟩ n' h
  rcases item with _ | ⟨_ | _⟩ | command
  · exact .ret ⟨h.sent, h.suffix, fun command hr => by cases hr⟩
  · exact .ret ⟨h.sent, h.suffix, fun command hr => by cases hr⟩
  · exact .ret ⟨h.sent, h.suffix, fun command hr => by cases hr⟩
  · exact .ret ⟨h.sent, h.suffix, fun command' hr => h.read command rfl⟩

end Socks5ClientTransport

/-! ## The tunnel -/

theorem createConnection_always (config : AgentConfig) :
    Always Answers (fun r n' => r = .ok () ∧ n' = n) (createConnection config).run n := by
  refine .run_bind (always_awaitM .proxyConnect ⟨_, _, .proxyConnect n⟩ fun a n' ha => ?_)
  cases ha
  refine .run_bind (always_awaitM .proxySetNodelay ⟨_, _, .proxySetNodelay n⟩ fun a n' ha => ?_)
  cases ha
  exact .ret ⟨rfl, rfl⟩

theorem proxySend_always (message : PpaassAgentMessage) :
    Always Answers (fun r n' => r = .ok () ∧ n' = { n with sent := n.sent ++ [message.payload] })
      (proxySend message) n := by
  refine .bind (.vis ⟨_, _, .proxyFeed n message⟩ fun a n' ha => .ret ?_)
  cases ha
  refine .vis ⟨_, _, .proxyFlush _⟩ fun a n' ha => .ret ?_
  cases ha
  exact ⟨rfl, rfl⟩

/-- The tunnel is asked for, and granted. -/
theorem initTunnel_always (config : AgentConfig) (client : String)
    (srcAddress dstAddress : PpaassUnifiedAddress) :
    Always Answers (fun r n' => (∃ tunnelId, r = .ok tunnelId) ∧
      n' = { n with sent := n.sent ++ [.tcp (.init srcAddress dstAddress)] })
      (initTunnel config client srcAddress dstAddress).run n := by
  refine .run_bind (.run_bind (always_awaitM .random32Bytes
    ⟨_, _, .random32Bytes n ⟨List.replicate 32 0, rfl⟩⟩ fun token n' ha => ?_))
  cases ha
  refine .ret (.run_bind (always_awaitM .newUuid ⟨_, _, .newUuid n ""⟩ fun messageId n' ha => ?_))
  cases ha
  refine .run_bind ((createConnection_always config).mono ?_)
  rintro r n' ⟨rfl, rfl⟩
  refine .run_bind (.lift ((proxySend_always _).mono ?_))
  rintro r n'' ⟨rfl, rfl⟩
  refine .run_bind (.ret (.run_bind (always_awaitM .proxyNext
    ⟨_, _, .proxyNext _ "" "" "" .plain (.domain "" 0) (.domain "" 0)⟩ fun a n' ha => ?_)))
  cases ha
  exact .ret ⟨⟨_, rfl⟩, rfl⟩

namespace Socks5ClientTransport

theorem replySucceeded_always (bindAddress : Socks5Address) :
    Always Answers (fun r n' => r = .ok () ∧ n' = n) (replySucceeded bindAddress).run n := by
  refine .run_bind (always_awaitM (.clientSend _) ⟨_, _, .clientSend n _⟩ fun a n' ha => ?_)
  cases ha
  exact .ret ⟨rfl, rfl⟩

/-- **A tunnel to an allowed destination** is asked for once, with no data to be sent first. -/
theorem handleConnectCommand_always (config : AgentConfig)
    (srcAddress dstAddress : PpaassUnifiedAddress) :
    Always Answers (fun r n' => (checkDestination dstAddress = .ok () → ∃ info, r = .ok info) ∧
      ∀ info, r = .ok info → info.initData = none ∧
        n' = { n with sent := n.sent ++ [.tcp (.init srcAddress dstAddress)] })
      (handleConnectCommand config srcAddress dstAddress).run n := by
  refine .run_bind ?_
  cases hcheck : checkDestination dstAddress with
  | error e => exact .ret ⟨fun h => (by cases h), fun info h => (by cases h)⟩
  | ok u =>
    refine .ret (.run_bind ((initTunnel_always config "socks5" srcAddress dstAddress).mono ?_))
    rintro r n' ⟨⟨tunnelId, rfl⟩, rfl⟩
    refine .run_bind ((replySucceeded_always _).mono ?_)
    rintro r n' ⟨rfl, rfl⟩
    exact .ret ⟨fun _ => ⟨_, rfl⟩, fun info h => (by cases h; exact ⟨rfl, rfl⟩)⟩

/-- Whatever is requested, a tunnel that it gives was asked for in this way. -/
theorem execCommand_always (config : AgentConfig) (srcAddress : PpaassUnifiedAddress)
    (command : Socks5InitCommand) :
    Always Answers (fun r n' =>
      (command.requestType = .connect → checkDestination command.dstAddress.toUnified = .ok () →
        ∃ info, r = .ok (.tcp info)) ∧
      ∀ info, r = .ok (.tcp info) → info.initData = none ∧
        n' = { n with sent := n.sent ++ [.tcp (.init srcAddress command.dstAddress.toUnified)] })
      (execCommand config srcAddress command).run n := by
  obtain ⟨requestType, dstAddress⟩ := command
  cases requestType with
  | connect =>
    refine .run_bind ((handleConnectCommand_always config srcAddress _).mono ?_)
    rintro (e | info) n' ⟨hallowed, hinfo⟩
    · refine ⟨fun _ h => ?_, fun info h => (by cases h)⟩
      obtain ⟨info, h⟩ := hallowed h
      cases h
    · exact .ret ⟨fun _ _ => ⟨info, rfl⟩, fun info' h => (by cases h; exact hinfo info rfl)⟩
  | bind => exact .ret ⟨fun h => (by cases h), fun info h => (by cases h)⟩
  | udpAssociate =>
    refine .run_bind (.run_bind (always_awaitM (.udpBind _) ⟨_, _, .udpBind n _ (.ok ())⟩
      fun bound n' ha => ?_))
    cases ha
    cases bound with
    | error e => exact .run_bind (.ret ⟨fun h => (by cases h), fun info h => (by cases h)⟩)
    | ok u =>
      refine .run_bind (.ret (.run_bind (always_awaitM .udpLocalAddr
        ⟨_, _, .udpLocalAddr n (.error "")⟩ fun addr n' ha => ?_)))
      cases ha
      cases addr with
      | error e => exact .run_bind (.ret ⟨fun h => (by cases h), fun info h => (by cases h)⟩)
      | ok addr =>
        refine .run_bind (.ret (.run_bind ((replySucceeded_always _).mono ?_)))
        rintro r n' ⟨rfl, rfl⟩
        exact .ret (.ret ⟨fun h => (by cases h), fun info h => (by cases h)⟩)

end Socks5ClientTransport

/-! ## The relay -/

/-- What is sent before the relay starts. -/
def initPayloads (initData : Option Bytes) : List PpaassAgentMessagePayload :=
  initData.toList.map fun data => .tcp (.data data)

theorem sendInitData_always (config : AgentConfig)
    (payloadEncryption : PpaassMessagePayloadEncryption) (initData : Option Bytes) :
    Always Answers (fun r n' => r = .ok () ∧
      n' = { n with sent := n.sent ++ initPayloads initData })
      (sendInitData config payloadEncryption initData).run n := by
  cases initData with
  | none => exact .ret ⟨rfl, by simp [initPayloads]⟩
  | some data =>
    refine .run_bind (always_awaitM .newUuid ⟨_, _, .newUuid n ""⟩ fun messageId n' ha => ?_)
    cases ha
    refine .run_bind (.lift ((proxySend_always _).mono ?_))
    rintro r n' ⟨rfl, rfl⟩
    exact .ret ⟨rfl, rfl⟩

/-- The relay task is spawned, behind the data that is to be sent first. -/
theorem tcpRelay_always (config : AgentConfig) (info : ClientTransportTcpDataRelay) :
    Always Answers (fun r n' => r = .ok () ∧ ∃ payloadEncryption,
      n' = ⟨n.reads, n.sent ++ initPayloads info.initData, some payloadEncryption⟩)
      (tcpRelay config info).run n := by
  refine .run_bind (.run_bind (always_awaitM .random32Bytes
    ⟨_, _, .random32Bytes n ⟨List.replicate 32 0, rfl⟩⟩ fun token n' ha => ?_))
  cases ha
  refine .ret (.run_bind ((sendInitData_always config _ info.initData).mono ?_))
  rintro r n' ⟨rfl, rfl⟩
  refine .run_bind (always_awaitM (.spawnClientToProxy _) ⟨_, _, .spawnClientToProxy _ _⟩
    fun a n' ha => ?_)
  cases ha
  refine always_awaitM .spawnProxyToClient ⟨_, _, .spawnProxyToClient _⟩ fun a n' ha => ?_
  cases ha
  exact ⟨rfl, _, rfl⟩

/-- This data was sent since `n`, and nothing else. -/
def SentData (n : TcpNetwork) (data : Bytes) (m : TcpNetwork) : Prop :=
  ∃ parts : List Bytes, m.sent = n.sent ++ parts.map (fun part => .tcp (.data part)) ∧
    parts.flatten = data

theorem SentData.feed {m : TcpNetwork} {data : Bytes} (h : SentData n data m) (part : Bytes)
    {reads : List Bytes} {relay : Option PpaassMessagePayloadEncryption} :
    SentData n (data ++ part) ⟨reads, m.sent ++ [.tcp (.data part)], relay⟩ := by
  obtain ⟨parts, hsent, hdata⟩ := h
  exact ⟨parts ++ [part], by simp [hsent], by simp [hdata]⟩

/-- A read is relayed as it is, and the end of the connection closes that with the proxy. -/
theorem clientToProxy_next (userToken : String)
    (payloadEncryption : PpaassMessagePayloadEncryption) (hne : ∀ c ∈ n.reads, c ≠ [])
    {m : TcpNetwork} {done : List Bytes} (hdone : n.reads = done ++ m.reads)
    (hm : SentData n done.flatten m) :
    Always Answers (Sum.elim (fun _ m' => (∃ done, n.reads = done ++ m'.reads ∧
        SentData n done.flatten m') ∧ m'.reads.length < m.reads.length)
      fun _ => SentData n n.reads.flatten)
      ((clientToProxy userToken payloadEncryption).next >>=
        (clientToProxy userToken payloadEncryption).deliver) m := by
  refine .bind (.bind (.vis m.exists_clientRead fun a m' ha => .ret ?_))
  cases ha with
  | clientEof hreads =>
    refine .ret (.bind (.vis ⟨_, _, .proxyClose m (.ok ())⟩ fun a m' ha => .ret (.ret ?_)))
    cases ha
    rw [hreads, List.append_nil] at hdone
    rw [hdone]
    exact hm
  | @clientRead chunk rest hreads =>
    have hmem : chunk ∈ n.reads := by simp [hdone, hreads]
    obtain ⟨b, bs, rfl⟩ := List.exists_cons_of_ne_nil (hne chunk hmem)
    refine .bind (.vis ⟨_, _, .newUuid _ ""⟩ fun messageId m' ha => .ret (.ret ?_))
    cases ha
    refine .bind (.vis ⟨_, _, .proxyFeed _ _⟩ fun a m' ha => .ret ?_)
    cases ha
    refine .ret ⟨⟨done ++ [b :: bs], ?_, ?_⟩, ?_⟩
    · simp [hdone, hreads]
    · rw [List.flatten_append, List.flatten_singleton]
      exact hm.feed (b :: bs)
    · simp [hreads]

theorem clientToProxy_always (userToken : String)
    (payloadEncryption : PpaassMessagePayloadEncryption) (hne : ∀ c ∈ n.reads, c ≠ []) :
    Always Answers (fun _ => SentData n n.reads.flatten)
      (clientToProxy userToken payloadEncryption).run n := by
  refine .iterate (fun _ m => ∃ done, n.reads = done ++ m.reads ∧ SentData n done.flatten m)
    (fun _ m => m.reads.length) ⟨[], rfl, [], by simp, rfl⟩ ?_
  rintro i m ⟨done, hdone, hm⟩
  have hnext := clientToProxy_next userToken payloadEncryption hne hdone hm
  -- the sink is flushed where nothing is there to be read yet
  refine .bind (.bind (.vis ⟨_, _, .pending m false⟩ fun b m' ha => .ret ?_))
  cases ha
  cases b with
  | false => exact .ret hnext
  | true =>
    refine .vis ⟨_, _, .proxyFlush m⟩ fun a m' ha => .ret ?_
    cases ha
    exact hnext

/-- **What is left of the client's connection is relayed.** -/
theorem relayClientToProxy_always (userToken : String)
    (payloadEncryption : PpaassMessagePayloadEncryption) (hne : ∀ c ∈ n.reads, c ≠ []) :
    Always Answers (fun _ => SentData n n.reads.flatten)
      (relayClientToProxy userToken payloadEncryption) n := by
  refine .bind ((clientToProxy_always userToken payloadEncryption hne).mono fun r m hm => ?_)
  refine .bind (.vis ⟨_, _, .proxyClose m (.ok ())⟩ fun a m' ha => .ret (.ret ?_))
  cases ha
  exact hm

end

theorem relayProxyToClient_apart :
    Only (S := agentSig) (fun op => op ≠ .clientRead ∧ ∀ message, op ≠ .proxyFeed message)
      relayProxyToClient := by
  apply only_relayProxyToClient <;> simp

/-! ## The whole connection -/

section
variable (http : HttpLib) (config : AgentConfig) (srcAddress : PpaassUnifiedAddress)
  (clientSocketAddress : SocketAddr) {n : TcpNetwork} {auth init : Bytes}
  {command : Socks5InitCommand} {rest : List Bytes}

namespace Socks5ClientTransport

/-- Where the method selection comes with a read of its own, the handshake succeeds, and drops what
has come with the request. -/
theorem handshake_lockstep (hauth : MethodSelection auth) (hinit : RequestOf init command)
    (hconnect : command.requestType = .connect)
    (hallowed : checkDestination command.dstAddress.toUnified = .ok ()) {more : Bytes}
    (hreads : n.reads = (init ++ more) :: rest) :
    Always Answers (fun r n' => ∃ info, r = .ok (.tcp info) ∧ info.initData = none ∧
      n' = ⟨rest, n.sent ++ [.tcp (.init srcAddress command.dstAddress.toUnified)], n.relay⟩)
      (handshake config srcAddress auth).run n := by
  have hauthenticate := authenticate_always (n := n) hauth []
  rw [List.append_nil] at hauthenticate
  refine .run_bind (hauthenticate.mono ?_)
  rintro r n' ⟨rfl, rfl⟩
  refine .run_bind ((readCommand_always hinit hreads).mono ?_)
  rintro r n' ⟨rfl, rfl⟩
  refine (execCommand_always config srcAddress command).mono ?_
  rintro r n' ⟨hsucceeds, hinfo⟩
  obtain ⟨info, rfl⟩ := hsucceeds hconnect hallowed
  obtain ⟨hinit, hn'⟩ := hinfo info rfl
  exact ⟨info, rfl, hinit, hn'⟩

/-- Where more comes with the method selection, any tunnel is asked for by what is read after. -/
theorem handshake_pipelined (hauth : MethodSelection auth) (more : Bytes)
    (hne : ∀ c ∈ n.reads, c ≠ []) :
    Always Answers (fun r n' => ∀ info, r = .ok (.tcp info) → info.initData = none ∧
      n'.reads.flatten.length < n.reads.flatten.length ∧ n'.reads <:+ n.reads ∧
      ∃ dstAddress, n'.sent = n.sent ++ [.tcp (.init srcAddress dstAddress)])
      (handshake config srcAddress (auth ++ more)).run n := by
  refine .run_bind ((authenticate_always hauth more).mono ?_)
  rintro r n' ⟨rfl, rfl⟩
  refine .run_bind ((readCommand_shrinks hne).mono ?_)
  rintro r n' ⟨hsent, hsuffix, hread⟩
  cases r with
  | error e => exact fun info h => (by cases h)
  | ok command =>
    refine (execCommand_always config srcAddress command).mono ?_
    rintro r n'' ⟨_, hinfo⟩ info hr
    obtain ⟨hinit, rfl⟩ := hinfo info hr
    exact ⟨hinit, hread command rfl, hsuffix, _, by rw [hsent]⟩

end Socks5ClientTransport

/-- The connection of a client that speaks SOCKS5, by what its handshake comes to. -/
theorem connection_always {chunk bs : Bytes} (hchunk : chunk = SOCKS_V5 :: bs)
    {R : Except (Fault AgentError) ClientTransportDataRelayInfo → TcpNetwork → Prop}
    {Q : Except (Fault AgentError) (Option ClientTransportUdpDataRelay) → TcpNetwork → Prop}
    (h : Always Answers R
      (Socks5ClientTransport.handshake config (.ip clientSocketAddress) chunk).run (.start rest))
    (htcp : ∀ info n, R (.ok (.tcp info)) n → info.initData = none ∧
      ∀ payloadEncryption, Q (.ok none) { n with relay := some payloadEncryption })
    (hudp : ∀ info n, R (.ok (.udp info)) n → Q (.ok (some info)) n)
    (herror : ∀ e n, R (.error e) n → Q (.error e) n) :
    Always Answers Q (handleClientConnection http config clientSocketAddress).run
      (.start (chunk :: rest)) := by
  refine .run_bind ((dispatch_socks5 rfl hchunk).mono ?_)
  rintro r n' ⟨rfl, rfl⟩
  refine .run_bind (h.mono fun r n' hr => ?_)
  rcases r with e | info | info
  · exact herror e n' hr
  · obtain ⟨hinit, hQ⟩ := htcp info n' hr
    refine .run_bind ((tcpRelay_always config info).mono ?_)
    rintro r n'' ⟨rfl, payloadEncryption, rfl⟩
    rw [hinit, initPayloads, Option.toList_none, List.map_nil, List.append_nil]
    exact .ret (hQ payloadEncryption)
  · exact .ret (hudp info n' hr)

end

/-! ## The grouping into reads -/

section
variable {a b chunk : Bytes} {reads rest : List Bytes} {k : Nat}

theorem boundary_cons : Boundary (chunk :: rest) k ↔
    k = 0 ∨ ∃ j, Boundary rest j ∧ k = chunk.length + j := by
  constructor
  · rintro ⟨pre, post, hreads, rfl⟩
    cases pre with
    | nil => exact .inl rfl
    | cons c pre =>
      obtain ⟨rfl, rfl⟩ := List.cons.inj hreads
      exact .inr ⟨_, ⟨pre, post, rfl, rfl⟩, by simp⟩
  · rintro (rfl | ⟨j, ⟨pre, post, rfl, rfl⟩, rfl⟩)
    · exact ⟨[], _, rfl, rfl⟩
    · exact ⟨chunk :: pre, post, rfl, by simp⟩

theorem Boundary.zero : Boundary reads 0 := ⟨[], reads, rfl, rfl⟩

theorem boundary_nil : Boundary [] k ↔ k = 0 := by
  constructor
  · rintro ⟨pre, post, hnil, rfl⟩
    rw [(List.append_eq_nil_iff.1 hnil.symm).1]
    rfl
  · rintro rfl
    exact .zero

theorem boundary_tail : Boundary (chunk :: rest) (chunk.length + k) ↔ Boundary rest k := by
  constructor
  · intro h
    rcases boundary_cons.1 h with h | ⟨j, hj, heq⟩
    · obtain rfl : k = 0 := by omega
      exact .zero
    · obtain rfl : k = j := by omega
      exact hj
  · intro h
    exact boundary_cons.2 (.inr ⟨k, h, rfl⟩)

/-- The first read ends where nothing more comes with it. -/
theorem boundary_first {more : Bytes} (ha : a ≠ []) :
    Boundary ((a ++ more) :: rest) a.length ↔ more = [] := by
  have hpos : 0 < a.length := List.length_pos_iff.2 ha
  constructor
  · intro h
    rcases boundary_cons.1 h with h | ⟨j, -, heq⟩
    · omega
    · rw [List.length_append] at heq
      exact List.length_eq_zero_iff.1 (by omega)
  · rintro rfl
    exact boundary_cons.2 (.inr ⟨0, .zero, by simp⟩)

/-- What no read cuts comes with the first read. -/
theorem first_read (hreads : reads.flatten = a ++ b) (hne : ∀ c ∈ reads, c ≠ []) (ha : a ≠ [])
    (hinside : ∀ k, Boundary reads k → ¬ (0 < k ∧ k < a.length)) :
    ∃ more rest, reads = (a ++ more) :: rest ∧ more ++ rest.flatten = b := by
  cases reads with
  | nil => exact absurd (List.append_eq_nil_iff.1 hreads.symm).1 ha
  | cons chunk rest =>
    have hpos : 0 < chunk.length := List.length_pos_iff.2 (hne chunk List.mem_cons_self)
    have hlen := hinside chunk.length (boundary_cons.2 (.inr ⟨0, .zero, rfl⟩))
    have hprefix : chunk <+: a ++ b := ⟨rest.flatten, hreads⟩
    obtain ⟨more, rfl⟩ : a <+: chunk :=
      List.prefix_of_prefix_length_le (List.prefix_append a b) hprefix (by omega)
    exact ⟨more, rest, rfl, by simpa using hreads⟩

end

/-! ## What the handshake conserves -/

theorem data_injective :
    Function.Injective (fun part : Bytes => PpaassAgentMessagePayload.tcp (.data part)) := by
  intro part part' h
  cases h
  rfl

section
variable {srcAddress srcAddress' dstAddress dstAddress' : PpaassUnifiedAddress}
  {data data' : Bytes} {n m : TcpNetwork}

theorem SentData.unique (h : SentData n data m) (h' : SentData n data' m) : data = data' := by
  obtain ⟨parts, hsent, rfl⟩ := h
  obtain ⟨parts', hsent', rfl⟩ := h'
  have hparts := List.append_cancel_left (hsent.symm.trans hsent')
  rw [List.map_injective_iff.2 data_injective hparts]

/-- **The data that a task relays** is what is left of the client's connection. -/
theorem sends_iff (userToken : String) (payloadEncryption : PpaassMessagePayloadEncryption)
    (hne : ∀ c ∈ n.reads, c ≠ []) :
    Always Answers (fun _ => SentData n data) (relayClientToProxy userToken payloadEncryption) n ↔
      n.reads.flatten = data := by
  have hsends := relayClientToProxy_always (n := n) userToken payloadEncryption hne
  constructor
  · intro h
    obtain ⟨_, m, hdata, hreads⟩ := h.exists_both hsends
    exact hreads.unique hdata
  · rintro rfl
    exact hsends

theorem SentData.relayed (h : SentData n data m)
    (hn : n.sent = [.tcp (.init srcAddress dstAddress)]) :
    Relayed srcAddress dstAddress data m := by
  obtain ⟨parts, hsent, hdata⟩ := h
  exact ⟨parts, by rw [hsent, hn]; rfl, hdata⟩

theorem Relayed.sentData (h : Relayed srcAddress dstAddress data m)
    (hn : n.sent = [.tcp (.init srcAddress dstAddress)]) : SentData n data m := by
  obtain ⟨parts, hsent, hdata⟩ := h
  exact ⟨parts, by rw [hsent, hn]; rfl, hdata⟩

theorem Relayed.unique (h : Relayed srcAddress dstAddress data m)
    (h' : Relayed srcAddress' dstAddress' data' m) : data = data' := by
  obtain ⟨parts, hsent, rfl⟩ := h
  obtain ⟨parts', hsent', rfl⟩ := h'
  have hparts := (List.cons.inj (hsent.symm.trans hsent')).2
  rw [List.map_injective_iff.2 data_injective hparts]

theorem relays_iff (userToken : String) (payloadEncryption : PpaassMessagePayloadEncryption)
    (hn : n.sent = [.tcp (.init srcAddress dstAddress)]) (hne : ∀ c ∈ n.reads, c ≠ []) :
    Always Answers (fun _ => Relayed srcAddress dstAddress data)
      (relayClientToProxy userToken payloadEncryption) n ↔ n.reads.flatten = data := by
  rw [← sends_iff userToken payloadEncryption hne]
  exact ⟨fun h => h.mono fun _ _ hm => hm.sentData hn, fun h => h.mono fun _ _ hm => hm.relayed hn⟩

end

section
variable (http : HttpLib) (config : AgentConfig) (clientSocketAddress : SocketAddr)
  {auth init payload : Bytes} {command : Socks5InitCommand} {reads rest : List Bytes}

/-- What comes with the request is lost. -/
theorem conserves_lockstep (hauth : MethodSelection auth) (hinit : RequestOf init command)
    (hconnect : command.requestType = .connect)
    (hallowed : Socks5ClientTransport.checkDestination command.dstAddress.toUnified = .ok ())
    {more : Bytes} (hne : ∀ c ∈ rest, c ≠ []) (hpayload : more ++ rest.flatten = payload) :
    Conserves http config clientSocketAddress command.dstAddress.toUnified payload
      (auth :: (init ++ more) :: rest) ↔ more = [] := by
  have hlost : rest.flatten = payload ↔ more = [] := by
    rw [← hpayload]
    exact List.self_eq_append_left
  obtain ⟨bs, hbs⟩ := hauth.exists_cons
  have hrun : Always Answers (fun r n => r = .ok none ∧ ∃ payloadEncryption,
      n = ⟨rest, [.tcp (.init (.ip clientSocketAddress) command.dstAddress.toUnified)],
        some payloadEncryption⟩) (handleClientConnection http config clientSocketAddress).run
      (.start (auth :: (init ++ more) :: rest)) := by
    refine connection_always http config clientSocketAddress hbs
      (Socks5ClientTransport.handshake_lockstep config _ hauth hinit hconnect hallowed rfl) ?_ ?_ ?_
    · rintro info n ⟨info', heq, hinfo, rfl⟩
      cases heq
      exact ⟨hinfo, fun payloadEncryption => ⟨rfl, payloadEncryption, rfl⟩⟩
    · rintro info n ⟨info', heq, -⟩
      cases heq
    · rintro e n ⟨info', heq, -⟩
      cases heq
  rw [← hlost]
  constructor
  · intro h
    obtain ⟨r, n, ⟨-, payloadEncryption, -, hrelays⟩, hn⟩ := h.exists_both hrun
    obtain ⟨-, payloadEncryption', rfl⟩ := hn
    exact (relays_iff _ _ rfl hne).1 hrelays
  · intro hflatten
    refine hrun.mono ?_
    rintro r n ⟨rfl, payloadEncryption, rfl⟩
    exact ⟨rfl, payloadEncryption, rfl, (relays_iff _ _ rfl hne).2 hflatten⟩

/-- What comes with the method selection is lost, and the request is to be read from the rest. -/
theorem not_conserves_pipelined (hauth : MethodSelection auth) (more : Bytes)
    (dstAddress : PpaassUnifiedAddress) (hne : ∀ c ∈ rest, c ≠ [])
    (hlen : rest.flatten.length ≤ payload.length) :
    ¬ Conserves http config clientSocketAddress dstAddress payload ((auth ++ more) :: rest) := by
  obtain ⟨bs, hbs⟩ : ∃ bs, auth ++ more = SOCKS_V5 :: bs := by
    cases hauth
    exact ⟨_, rfl⟩
  have hrun : Always Answers (fun r n => r = .ok none →
      n.reads.flatten.length < rest.flatten.length ∧ n.reads <:+ rest ∧
      ∃ dstAddress, n.sent = [.tcp (.init (.ip clientSocketAddress) dstAddress)])
      (handleClientConnection http config clientSocketAddress).run
      (.start ((auth ++ more) :: rest)) := by
    refine connection_always http config clientSocketAddress hbs
      (Socks5ClientTransport.handshake_pipelined config _ hauth more hne) ?_ ?_ ?_
    · intro info n h
      obtain ⟨hinfo, hread⟩ := h info rfl
      exact ⟨hinfo, fun _ _ => hread⟩
    · intro info n h heq
      cases heq
    · intro e n h heq
      cases heq
  intro h
  obtain ⟨r, n, ⟨rfl, payloadEncryption, hrelay, hrelays⟩, hn⟩ := h.exists_both hrun
  obtain ⟨hshorter, hsuffix, dstAddress', hsent⟩ := hn rfl
  obtain ⟨_, m, hrelayed, hdata⟩ := hrelays.exists_both
    (relayClientToProxy_always _ _ fun c hc => hne c (hsuffix.subset hc))
  have hpayload : payload = n.reads.flatten := hrelayed.unique (hdata.relayed hsent)
  rw [← hpayload] at hshorter
  omega

/-- **When the handshake conserves the bytes of the client**: what the readers of the method
selection and of the request have left in their buffers is dropped, so that each of the two must end
with a read. -/
theorem conserves_iff (hauth : MethodSelection auth) (hinit : RequestOf init command)
    (hconnect : command.requestType = .connect)
    (hallowed : Socks5ClientTransport.checkDestination command.dstAddress.toUnified = .ok ())
    (hreads : reads.flatten = auth ++ init ++ payload) (hne : ∀ c ∈ reads, c ≠ [])
    (hinside : ∀ k, Boundary reads k → ¬ (0 < k ∧ k < auth.length) ∧
      ¬ (auth.length < k ∧ k < (auth ++ init).length)) :
    Conserves http config clientSocketAddress command.dstAddress.toUnified payload reads ↔
      Boundary reads auth.length ∧ Boundary reads (auth ++ init).length := by
  have hauthne : auth ≠ [] := by
    cases hauth
    exact List.cons_ne_nil _ _
  have hinitne : init ≠ [] := by
    cases hinit
    exact List.cons_ne_nil _ _
  rw [List.append_assoc] at hreads
  simp only [List.length_append] at hinside ⊢
  obtain ⟨more, rest, rfl, hrest⟩ := first_read hreads hne hauthne fun k hk => (hinside k hk).1
  rw [boundary_first hauthne]
  by_cases hmore : more = []
  · -- the method selection comes with a read of its own, and so the request with the next
    subst hmore
    rw [List.append_nil] at hinside hne ⊢
    rw [List.nil_append] at hrest
    have hnext := fun c hc => hne c (List.mem_cons_of_mem _ hc)
    obtain ⟨more, rest', rfl, hpayload⟩ := first_read hrest hnext hinitne fun k hk h =>
      (hinside _ (boundary_tail.2 hk)).2 (by omega)
    rw [boundary_tail, boundary_first hinitne, conserves_lockstep http config clientSocketAddress
      hauth hinit hconnect hallowed (fun c hc => hnext c (List.mem_cons_of_mem _ hc)) hpayload]
    exact ⟨fun h => ⟨rfl, h⟩, fun h => h.2⟩
  · have hcut := (hinside _ (boundary_cons.2 (.inr ⟨0, .zero, rfl⟩))).2
    have hpos : 0 < more.length := List.length_pos_iff.2 hmore
    have hlen := congrArg List.length hrest
    simp only [List.length_append] at hcut hlen
    have hlost := not_conserves_pipelined http config clientSocketAddress hauth more
      command.dstAddress.toUnified (fun c hc => hne c (List.mem_cons_of_mem _ hc))
      (show rest.flatten.length ≤ payload.length by omega)
    exact iff_of_false hlost fun h => hmore h.1

end

/-- The one method "no authentication". -/
theorem methodSelection_noAuthentication : MethodSelection [5, 1, 0] := .mk 1 [0] rfl

open Socks5InitCommandContentCodec (connectRequest connectRequest_of)

/-- A client that waits for each reply. -/
theorem conserves_waiting :
    Conserves .none ⟨"user1", none⟩ (.v4 ⟨192, 168, 0, 2⟩ 5000) (.ip (.v4 ⟨1, 2, 3, 4⟩ 80))
      [104, 105] [[5, 1, 0], connectRequest, [104, 105]] := by
  refine (conserves_iff .none ⟨"user1", none⟩ _ methodSelection_noAuthentication connectRequest_of
    rfl rfl rfl ?_ ?_).2 ⟨?_, ?_⟩
  · simp [connectRequest]
  · intro k hk
    simp [boundary_cons, boundary_nil, connectRequest] at hk ⊢
    omega
  · exact boundary_cons.2 (.inr ⟨0, .zero, rfl⟩)
  · exact boundary_cons.2 (.inr ⟨10, boundary_cons.2 (.inr ⟨0, .zero, rfl⟩), rfl⟩)

/-- A client that sends its first bytes with the request. -/
theorem early_payload_lost :
    MethodSelection [5, 1, 0] ∧
    RequestOf connectRequest ⟨.connect, .ip (.v4 ⟨1, 2, 3, 4⟩ 80)⟩ ∧
    Socks5ClientTransport.checkDestination (.ip (.v4 ⟨1, 2, 3, 4⟩ 80)) = .ok () ∧
    [[5, 1, 0], connectRequest ++ [104, 105]].flatten = [5, 1, 0] ++ connectRequest ++ [104, 105] ∧
    (∀ k, Boundary [[5, 1, 0], connectRequest ++ [104, 105]] k →
      ¬ (0 < k ∧ k < 3) ∧ ¬ (3 < k ∧ k < ([5, 1, 0] ++ connectRequest).length)) ∧
    ¬ Conserves .none ⟨"user1", none⟩ (.v4 ⟨192, 168, 0, 2⟩ 5000) (.ip (.v4 ⟨1, 2, 3, 4⟩ 80))
      [104, 105] [[5, 1, 0], connectRequest ++ [104, 105]] := by
  refine ⟨methodSelection_noAuthentication, connectRequest_of, rfl, rfl, ?_, ?_⟩
  · intro k hk
    simp [boundary_cons, boundary_nil, connectRequest] at hk ⊢
    omega
  · intro h
    cases (conserves_lockstep .none _ _ methodSelection_noAuthentication connectRequest_of rfl rfl
      (show ∀ c ∈ ([] : List Bytes), c ≠ [] by simp)
      (show [104, 105] ++ ([] : List Bytes).flatten = [104, 105] from rfl)).1 h

end Ppaass.Agent
