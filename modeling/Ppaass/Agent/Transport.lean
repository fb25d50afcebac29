import Ppaass.Agent.Http
import Ppaass.Agent.Socks
import Ppaass.Lib.BlockMode
import Ppaass.Lib.Tasks

/-!
# The agent (`agent/src/transport`, `agent/src/connection.rs`, `agent/src/server.rs`)

Each task of the source is a program over `AgentOp`, as those of the proxy are over `ProxyOp`.
`handleClientConnection` is the task of one accepted client connection: the dispatcher looks at the
first byte, the handshake of its protocol learns the destination and asks the proxy for it, and
`tcpRelay` spawns the two relay tasks `relayClientToProxy` and `relayProxyToClient`.

The handshakes read the client through `Framed`: `framedNext` is its `next`, with the read buffer
and its flags (`ReadFrame`) as state. A panic of the source is the fault `panic`.
-/

namespace Ppaass.Agent

open Wire Framed BlockMode Prog

/-! ## Operations -/

inductive AgentOp where
  | newUuid
  | random32Bytes
  /-- whether the stream that is forwarded has nothing to give yet -/
  | pending
  /-- the client connection: reads, the replies of the handshakes, and the sink of the relay -/
  | clientRead
  | clientSend (bytes : Bytes)
  | clientFeed (bytes : Bytes)
  | clientFlush
  | clientClose
  /-- the proxy connection; connecting may time out -/
  | proxyConnect
  | proxySetNodelay
  | proxyNext
  | proxyFeed (message : PpaassAgentMessage)
  | proxyFlush
  | proxyClose
  /-- the UDP socket of an association -/
  | udpBind (addr : String)
  | udpLocalAddr
  | udpRecvFrom
  | udpSendTo (data : Bytes) (addrs : List SocketAddr)
  /-- name resolution of `host:port` -/
  | lookup (address : String)
  /-- `tokio::spawn` of a relay task -/
  | spawnClientToProxy (payloadEncryption : PpaassMessagePayloadEncryption)
  | spawnProxyToClient

def AgentOp.Ans : AgentOp → Type
  | newUuid => String
  | random32Bytes => Block 32
  | pending => Bool
  | clientRead => Except StdIoError Bytes
  | clientSend _ | clientFeed _ | clientFlush | clientClose | proxySetNodelay | udpBind _
  | udpSendTo _ _ => Except StdIoError Unit
  | proxyConnect => Option (Except StdIoError Unit)
  | proxyNext => Option (Except CommonError PpaassProxyMessage)
  | proxyFeed _ | proxyFlush | proxyClose => Except CommonError Unit
  | udpLocalAddr => Except StdIoError SocketAddr
  | udpRecvFrom => Except StdIoError (Bytes × SocketAddr)
  | lookup _ => Except StdIoError (List SocketAddr)
  | spawnClientToProxy _ | spawnProxyToClient => Unit

abbrev agentSig : Sig := ⟨AgentOp, AgentOp.Ans⟩

abbrev AgentM := ExceptT (Fault AgentError) (Prog agentSig)

def await (e : AgentOp) : Prog agentSig e.Ans := perform (S := agentSig) e

def awaitM (e : AgentOp) : AgentM e.Ans := call (S := agentSig) e

section
variable {P : AgentOp → Prop} {Inv : Assertion agentSig} {t : Trace agentSig}

@[simp] theorem only_await (e : AgentOp) : Only (S := agentSig) P (await e) ↔ P e :=
  only_perform (S := agentSig) e

@[simp] theorem only_awaitM (e : AgentOp) : Only (S := agentSig) P (awaitM e).run ↔ P e :=
  only_perform (S := agentSig) e

@[simp] theorem wp_await (e : AgentOp) {Q : e.Ans → Trace agentSig → Prop} :
    wp Inv (await e) Q t ↔ Inv (some e) t ∧ ∀ a, Q a (t ++ [⟨e, a⟩]) :=
  wp_perform (S := agentSig) e

@[simp] theorem wp_awaitM (e : AgentOp)
    {Q : Except (Fault AgentError) e.Ans → Trace agentSig → Prop} :
    wp Inv (awaitM e).run Q t ↔ Inv (some e) t ∧ ∀ a, Q (.ok a) (t ++ [⟨e, a⟩]) :=
  wp_perform (S := agentSig) e

end

/-! ## Configuration -/

structure AgentConfig where
  userToken : String
  connectToProxyTimeout : Option UInt64

def AgentConfig.getUserToken (config : AgentConfig) : String := config.userToken

def AgentConfig.getConnectToProxyTimeout (config : AgentConfig) : UInt64 :=
  config.connectToProxyTimeout.getD 20

/-! ## `Framed` -/

/-- The read half of a `Framed`. -/
structure ReadFrame (σ : Type) where
  codec : σ
  buffer : Bytes
  isReadable : Bool
  eof : Bool
  hasErrored : Bool

namespace ReadFrame

variable {σ ε ι : Type} (decode : CodecM σ ε (Option ι)) (io : StdIoError → ε)

/-- `Framed::new` and `Framed::with_capacity`. -/
def new (codec : σ) : ReadFrame σ := ⟨codec, [], false, false, false⟩

/-- `Framed::from_parts` with a read buffer that has been allocated. -/
def fromParts (codec : σ) (readBuf : Bytes) : ReadFrame σ := ⟨codec, readBuf, true, false, false⟩

/-- What a poll answers: no item, a fault, or an item. -/
abbrev Polled (ε ι : Type) := Option (Except (Fault ε) ι)

/-- A call of `decode`. -/
def decoded (f : ReadFrame σ) : Polled ε ι × ReadFrame σ :=
  match decode.run (f.codec, f.buffer) with
  | .ok item (codec, buffer) => (item.map .ok, { f with codec, buffer })
  | .error e (codec, buffer) => (some (.error e), { f with codec, buffer, hasErrored := true })

/-- A call of `decode_eof`: `decode`, after which no bytes may be left. -/
def decodedEof (f : ReadFrame σ) : Polled ε ι × ReadFrame σ :=
  match decoded decode f with
  | (some r, f) => (some r, f)
  | (none, f) =>
    if f.buffer.isEmpty then (none, { f with isReadable := false })
    else (some (.error (.err (io bytesRemainingOnStream))), { f with hasErrored := true })

/-- A read of the socket into the buffer. -/
def readMore (f : ReadFrame σ) : Prog agentSig (ReadFrame σ ⊕ (Polled ε ι × ReadFrame σ)) := do
  match ← await .clientRead with
  | .error e => return .inr (some (.error (.err (io e))), { f with hasErrored := true })
  | .ok [] =>
    if f.eof then return .inr (none, f)
    else return .inl { f with eof := true, isReadable := true }
  | .ok (b :: bs) =>
    return .inl { f with buffer := f.buffer ++ b :: bs, eof := false, isReadable := true }

/-- One round of the loop of `poll_next`. -/
def pollRound (f : ReadFrame σ) : Prog agentSig (ReadFrame σ ⊕ (Polled ε ι × ReadFrame σ)) :=
  if f.hasErrored then return .inr (none, { f with isReadable := false, hasErrored := false })
  else if !f.isReadable then readMore io f
  else if f.eof then return .inr (decodedEof decode io f)
  else
    match decoded decode f with
    | (some r, f) => return .inr (some r, f)
    | (none, f) => readMore io { f with isReadable := false }

/-- `next`. -/
def framedNext (f : ReadFrame σ) : Prog agentSig (Polled ε ι × ReadFrame σ) :=
  iterate (pollRound decode io) f

end ReadFrame

/-- The first item of a connection, or the error of the agent. -/
def firstItem {ε ι : Type} (fail : ε → AgentError) : ReadFrame.Polled ε ι →
    Except (Fault AgentError) ι
  | none => .error (.err (.network .connectionExhausted))
  | some (.ok item) => .ok item
  | some (.error (.err e)) => .error (.err (fail e))
  | some (.error (.panic what)) => .error (.panic what)

/-- `SinkExt::send` on the client's `Framed`, whose write buffer is empty. -/
def clientReply {σ ε : Type} (encode : CodecM σ ε Unit) (codec : σ) (io : StdIoError → ε)
    (fail : ε → AgentError) : AgentM Unit :=
  match encode.run (codec, []) with
  | .ok () (_, bytes) => do orFail (fun e => .err (fail (io e))) (← awaitM (.clientSend bytes))
  | .error (.err e) _ => throw (.err (fail e))
  | .error (.panic what) _ => throw (.panic what)

/-! ## The proxy connection -/

/-- `ProxyConnectionFactory::create_connection`. -/
def createConnection (config : AgentConfig) : AgentM Unit := do
  match ← awaitM .proxyConnect with
  | none => throw (.err (.network (.timeout config.getConnectToProxyTimeout)))
  | some (.error e) => throw (.err (.network (.tcpConnect e)))
  | some (.ok ()) =>
    orFail (fun e => .err (.network (.propertyModification e))) (← awaitM .proxySetNodelay)

/-- `SinkExt::send` on the proxy connection. -/
def proxySend (message : PpaassAgentMessage) : Prog agentSig (Except CommonError Unit) := do
  match ← await (.proxyFeed message) with
  | .ok () => await .proxyFlush
  | .error e => return .error e

def randomEncryption (config : AgentConfig) : AgentM PpaassMessagePayloadEncryption := do
  let token ← awaitM .random32Bytes
  return .select config.getUserToken (some token.1)

/-- `{:?}` -/
def failureReason : ProxyTcpInitFailureReason → String
  | .canNotConnectToDestination => "CanNotConnectToDestination"
  | .general => "General"

/-- The tunnel of the proxy's first message, which has to be a success. -/
def tunnelIdOf (client : String) (srcAddress : PpaassUnifiedAddress) :
    Option (Except CommonError PpaassProxyMessage) → Except (Fault AgentError) String
  | none => .error (.err (.network .connectionExhausted))
  | some (.error e) => .error (.err (.common e))
  | some (.ok proxyMessage) =>
    match proxyMessage.payload with
    | .tcp (.init _ _ (.success tunnelId)) => .ok tunnelId
    | .tcp (.init _ _ (.fail reason)) =>
      .error (.err (.invalidProxyResponse
        (s!"Client {client} tcp connection [{srcAddress.display}] fail to initialize tcp " ++
          s!"connection with proxy because of reason: {failureReason reason}")))
    | _ => .error (.err (.invalidProxyResponse "Not a tcp init response."))

/-- Connects to the proxy and asks for a tunnel: the part that the two handshakes have in common but
for the name of the client's protocol. -/
def initTunnel (config : AgentConfig) (client : String)
    (srcAddress dstAddress : PpaassUnifiedAddress) : AgentM String := do
  let payloadEncryption ← randomEncryption config
  let messageId ← awaitM .newUuid
  createConnection config
  orFail (fun e => .err (.common e)) (← ExceptT.lift (proxySend
    (generateAgentTcpInitMessage messageId config.getUserToken srcAddress dstAddress
      payloadEncryption)))
  orFail id (tunnelIdOf client srcAddress (← awaitM .proxyNext))

/-! ## Relays -/

structure ClientTransportTcpDataRelay where
  tunnelId : String
  srcAddress : PpaassUnifiedAddress
  dstAddress : PpaassUnifiedAddress
  initData : Option Bytes

structure ClientTransportUdpDataRelay where
  clientUdpRestrictAddress : PpaassUnifiedAddress

inductive ClientTransportDataRelayInfo where
  | tcp (info : ClientTransportTcpDataRelay)
  | udp (info : ClientTransportUdpDataRelay)

/-- The data message of a read, none at end of file. -/
def clientMessage (userToken : String) (payloadEncryption : PpaassMessagePayloadEncryption) :
    Except StdIoError Bytes → Prog agentSig (Option PpaassAgentMessage)
  | .ok (b :: bs) => do
    let messageId ← await .newUuid
    return some (generateAgentTcpDataMessage messageId userToken payloadEncryption (b :: bs))
  | _ => return none

def clientToProxy (userToken : String) (payloadEncryption : PpaassMessagePayloadEncryption) :
    Forward agentSig PpaassAgentMessage CommonError where
  pending := await .pending
  next := do clientMessage userToken payloadEncryption (← await .clientRead)
  feed message := await (.proxyFeed message)
  flush := await .proxyFlush
  close := await .proxyClose

/-- The data of a message, unless it is something else. -/
def tcpData (message : PpaassProxyMessage) : Option Bytes :=
  match message.payload with
  | .tcp (.data content) => some content
  | _ => none

/-- What goes to the client: TCP data, up to the first message that is something else. -/
def proxyToClient : Forward agentSig Bytes StdIoError where
  pending := await .pending
  next := do
    match ← await .proxyNext with
    | some (.ok proxyMessage) => return tcpData proxyMessage
    | _ => return none
  feed bytes := await (.clientFeed bytes)
  flush := await .clientFlush
  close := await .clientClose

def relayClientToProxy (userToken : String) (payloadEncryption : PpaassMessagePayloadEncryption) :
    Prog agentSig Unit := do
  let _ ← (clientToProxy userToken payloadEncryption).run
  let _ ← await .proxyClose

def relayProxyToClient : Prog agentSig Unit := do
  let _ ← proxyToClient.run
  let _ ← await .clientClose

/-- The data that the proxy is to send first. -/
def sendInitData (config : AgentConfig) (payloadEncryption : PpaassMessagePayloadEncryption) :
    Option Bytes → AgentM Unit
  | none => return ()
  | some initData => do
    let messageId ← awaitM .newUuid
    orFail (fun e => .err (.common e)) (← ExceptT.lift (proxySend
      (generateAgentTcpDataMessage messageId config.getUserToken payloadEncryption initData)))

/-- `ClientTransportRelay::tcp_relay`. -/
def tcpRelay (config : AgentConfig) (info : ClientTransportTcpDataRelay) : AgentM Unit := do
  let payloadEncryption ← randomEncryption config
  sendInitData config payloadEncryption info.initData
  awaitM (.spawnClientToProxy payloadEncryption)
  awaitM .spawnProxyToClient

/-! ## UDP associations (`transport/socks/mod.rs`) -/

/-- `to_socket_addrs` and `collect`. -/
def toSocketAddrs : PpaassUnifiedAddress → Prog agentSig (Except StdIoError (List SocketAddr))
  | .ip addr => return .ok [addr]
  | .domain host port => do
    return (← await (.lookup s!"{host}:{port}")).mapError invalidData

/-- Sends a UDP reply back to the client. -/
def udpReply (proxyUdpMessage : PpaassProxyMessage) : AgentM Unit :=
  match proxyUdpMessage.payload with
  | .udp ⟨srcAddress, dstAddress, data⟩ => do
    let packet : Socks5UdpDataPacket := ⟨0, .ofUnified dstAddress, data⟩
    let srcSocketAddress ← orFail (fun e => .err (.io e))
      (← ExceptT.lift (toSocketAddrs srcAddress))
    orFail (fun e => .err (.io e)) (← awaitM (.udpSendTo packet.toBytes srcSocketAddress))
  | _ => throw (.err (.invalidProxyResponse "Not a udp data."))

/-- One packet of the client, over a proxy connection of its own. It answers whether the association
goes on. -/
def relayUdpPacket (config : AgentConfig) (clientUdpRestrictAddress : PpaassUnifiedAddress)
    (payloadEncryption : PpaassMessagePayloadEncryption) (packet : Socks5UdpDataPacket) :
    AgentM Bool := do
  let messageId ← awaitM .newUuid
  createConnection config
  orFail (fun e => .err (.common e)) (← ExceptT.lift (proxySend
    (generateAgentUdpDataMessage messageId config.getUserToken payloadEncryption
      clientUdpRestrictAddress packet.address.toUnified packet.data true)))
  match ← awaitM .proxyNext with
  | none => return false
  | some proxyUdpMessage => do
    udpReply (← orFail (fun e => .err (.common e)) proxyUdpMessage)
    return true

/-- A datagram's packet, or the error of the agent. -/
def udpPacket (datagram : Bytes) : Except (Fault AgentError) Socks5UdpDataPacket :=
  match Socks5UdpDataPacket.tryFrom.run ((), datagram) with
  | .ok packet _ => .ok packet
  | .error (.err e) _ => .error (.err (.decode (.socks5 e)))
  | .error (.panic what) _ => .error (.panic what)

/-- One round of `relay_udp_data`, which answers whether the association goes on. -/
def relayUdpRound (config : AgentConfig) (clientUdpRestrictAddress : PpaassUnifiedAddress)
    (payloadEncryption : PpaassMessagePayloadEncryption) : AgentM Bool := do
  let (datagram, clientUdpAddress) ←
    orFail (fun e => .err (.network (.clientUdpRecv e))) (← awaitM .udpRecvFrom)
  if clientUdpRestrictAddress != .ip clientUdpAddress then return true
  else do
    let packet ← orFail id (udpPacket datagram)
    relayUdpPacket config clientUdpRestrictAddress payloadEncryption packet

/-- Goes on with the loop, or leaves it. -/
def loopRound : Except (Fault AgentError) Bool → Unit ⊕ Except (Fault AgentError) Unit
  | .ok true => .inl ()
  | .ok false => .inr (.ok ())
  | .error e => .inr (.error e)

def relayUdpData (config : AgentConfig) (clientUdpRestrictAddress : PpaassUnifiedAddress) :
    AgentM Unit := do
  let payloadEncryption ← randomEncryption config
  ExceptT.mk (iterate (fun _ => do
    return loopRound (← (relayUdpRound config clientUdpRestrictAddress payloadEncryption).run)) ())

/-- What the spawns start. -/
def spawn (config : AgentConfig) : Tasks.Spawn agentSig
  | .spawnClientToProxy payloadEncryption =>
    some (.up, relayClientToProxy config.getUserToken payloadEncryption)
  | .spawnProxyToClient => some (.down, relayProxyToClient)
  | _ => none

/-! ## The SOCKS5 handshake (`transport/socks/mod.rs`) -/

namespace Socks5ClientTransport

/-- The destinations that `handle_connect_command` refuses. -/
def checkDestination : PpaassUnifiedAddress → Except AgentError Unit
  | .ip socketAddr =>
    if socketAddr.isLoopback then
      .error (.other s!"Loopback address is not allowed: {socketAddr.display}")
    else if socketAddr.isUnspecified then
      .error (.other s!"Unspecified address is not allowed: {socketAddr.display}")
    else .ok ()
  | .domain host _ =>
    if host == "0.0.0.1" || host == "127.0.0.1" || host == "localhost" then
      .error (.other "0.0.0.1 or 127.0.0.1 is not a valid destination address")
    else .ok ()

/-- Sends the result of a request, `succeeded` with an address. -/
def replySucceeded (bindAddress : Socks5Address) : AgentM Unit :=
  clientReply (Socks5InitCommandContentCodec.encode ⟨.succeeded, some bindAddress⟩) () .io
    fun e => .encode (.socks5 e)

def handleConnectCommand (config : AgentConfig) (srcAddress dstAddress : PpaassUnifiedAddress) :
    AgentM ClientTransportTcpDataRelay := do
  orFail .err (checkDestination dstAddress)
  let tunnelId ← initTunnel config "socks5" srcAddress dstAddress
  replySucceeded (.ofUnified dstAddress)
  return { tunnelId, srcAddress, dstAddress, initData := none }

def handleUdpAssociateCommand (clientUdpRestrictAddress : PpaassUnifiedAddress) :
    AgentM ClientTransportUdpDataRelay := do
  orFail (fun e => .err (.io e)) (← awaitM (.udpBind "0.0.0.0:0"))
  let localAddr ← orFail (fun e => .err (.io e)) (← awaitM .udpLocalAddr)
  replySucceeded (.ip localAddr)
  return { clientUdpRestrictAddress }

def handleBindCommand : AgentM ClientTransportDataRelayInfo :=
  throw (.panic "not implemented: Still not implement the socks5 bind command")

/-- Reads the method selection, which may be in the dispatcher's buffer, and answers it. -/
def authenticate (initialBuf : Bytes) : AgentM Unit := do
  let (item, _) ← ExceptT.lift (ReadFrame.framedNext Socks5AuthCommandContentCodec.decode .io
    (.fromParts () initialBuf))
  let _ ← orFail id (firstItem (fun e => .decode (.socks5 e)) item)
  clientReply (Socks5AuthCommandContentCodec.encode ⟨.noAuthenticationRequired⟩) () .io
    fun e => .encode (.socks5 e)

/-- Reads the request, on a new `Framed`. -/
def readCommand : AgentM Socks5InitCommand := do
  let (item, _) ← ExceptT.lift (ReadFrame.framedNext Socks5InitCommandContentCodec.decode .io
    (.new ()))
  orFail id (firstItem (fun e => .decode (.socks5 e)) item)

def execCommand (config : AgentConfig) (srcAddress : PpaassUnifiedAddress)
    (command : Socks5InitCommand) : AgentM ClientTransportDataRelayInfo :=
  match command.requestType with
  | .bind => handleBindCommand
  | .udpAssociate => do
    return .udp (← handleUdpAssociateCommand command.dstAddress.toUnified)
  | .connect => do
    return .tcp (← handleConnectCommand config srcAddress command.dstAddress.toUnified)

def handshake (config : AgentConfig) (srcAddress : PpaassUnifiedAddress) (initialBuf : Bytes) :
    AgentM ClientTransportDataRelayInfo := do
  authenticate initialBuf
  let socks5InitCommand ← readCommand
  execCommand config srcAddress socks5InitCommand

end Socks5ClientTransport

/-! ## The HTTP handshake (`transport/http/mod.rs`) -/

namespace HttpClientTransport

variable (http : HttpLib)

/-- The handshake once the request is read. -/
def handleRequest (config : AgentConfig) (srcAddress : PpaassUnifiedAddress)
    (httpMessage : http.Request) : AgentM ClientTransportTcpDataRelay := do
  let (dstAddress, initData) ← orFail .err (target http httpMessage)
  let tunnelId ← initTunnel config "http" srcAddress dstAddress
  if initData.isNone then
    clientReply (HttpCodec.encode http httpConnectSuccessResponse) http.requestDecoder .io
      fun e => .encode (.http e)
  return { tunnelId, srcAddress, dstAddress, initData }

def handshake (config : AgentConfig) (srcAddress : PpaassUnifiedAddress) (initialBuf : Bytes) :
    AgentM ClientTransportDataRelayInfo := do
  let (item, _) ← ExceptT.lift (ReadFrame.framedNext (HttpCodec.decode http) .io
    (.fromParts http.requestDecoder initialBuf))
  let httpMessage ← orFail id (firstItem (fun e => .decode (.http e)) item)
  return .tcp (← handleRequest http config srcAddress httpMessage)

end HttpClientTransport

/-! ## The dispatcher (`transport/dispatcher.rs`) -/

inductive ClientProtocol where
  | http
  | socks5
  | socks4
  deriving DecidableEq, Repr

/-- Looks at the first byte and leaves it in the buffer. -/
def SwitchClientProtocolDecoder.decode : CodecM Unit DecoderError (Option ClientProtocol) := do
  let (_, src) ← get
  match src with
  | [] => return none
  | protocolFlag :: _ =>
    if protocolFlag == SOCKS_V5 then return some .socks5
    else if protocolFlag == SOCKS_V4 then return some .socks4
    else return some .http

/-- The protocol of the client and the bytes read so far. -/
def dispatch : AgentM (ClientProtocol × Bytes) := do
  let (item, frame) ← ExceptT.lift (ReadFrame.framedNext SwitchClientProtocolDecoder.decode .io
    (.new ()))
  match item with
  | some (.ok .socks4) => throw (.err (.decode .unsupportProtocol))
  | some (.ok clientProtocol) => return (clientProtocol, frame.buffer)
  | some (.error (.err e)) => throw (.err (.decode e))
  | some (.error (.panic what)) => throw (.panic what)
  | none => throw (.err (.decode .unknownProtocol))

/-! ## `server.rs` -/

def handshake (http : HttpLib) (config : AgentConfig) (srcAddress : PpaassUnifiedAddress)
    (initialBuf : Bytes) : ClientProtocol → AgentM ClientTransportDataRelayInfo
  | .socks5 => Socks5ClientTransport.handshake config srcAddress initialBuf
  | _ => HttpClientTransport.handshake http config srcAddress initialBuf

/-- The task of an accepted client connection, up to the relaying of UDP packets: it returns the
association where the client asked for one. -/
def handleClientConnection (http : HttpLib) (config : AgentConfig)
    (clientSocketAddress : SocketAddr) : AgentM (Option ClientTransportUdpDataRelay) := do
  let (clientProtocol, initialBuf) ← dispatch
  match ← handshake http config (.ip clientSocketAddress) initialBuf clientProtocol with
  | .tcp info => do
    tcpRelay config info
    return none
  | .udp info => return some info

end Ppaass.Agent
