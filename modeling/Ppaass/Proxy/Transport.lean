import Ppaass.Common.Address
import Ppaass.Lib.BlockMode
import Ppaass.Lib.Tasks

/-!
# The proxy (`proxy/src/transport`, `proxy/src/server.rs`)

Each task of the source is a program over `ProxyOp`: its awaits, its use of the shared counter and
its spawns are operations, and whatever may answer one is the type of its answer.
`ProxyServer.serve` is the task of one accepted agent connection; `relayAgentToDst` and
`relayDstToAgent` are the two tasks that `TcpHandler.exec` spawns.

A socket's read answers the bytes read, none of them at end of file. A connection is read through
its codec (`agentNext`), which answers what `next` does. Log lines are left out.
-/

namespace Ppaass.Proxy

open Wire BlockMode Prog

/-! ## Operations -/

def MAX_UDP_PACKET_SIZE : Nat := 65535

def LOCAL_UDP_BIND_ADDR : String := "0.0.0.0:0"

/-- What `recv` stores into a buffer of `MAX_UDP_PACKET_SIZE` bytes. -/
abbrev Datagram := { data : Bytes // data.length ≤ MAX_UDP_PACKET_SIZE }

inductive ProxyOp where
  /-- `transport_number` -/
  | fetchAdd
  | fetchSub
  | newUuid
  | random32Bytes
  /-- whether the stream that is forwarded has nothing to give yet -/
  | pending
  /-- the agent connection -/
  | agentNext
  | agentFeed (message : PpaassProxyMessage)
  | agentFlush
  | agentClose
  /-- name resolution of `host:port` -/
  | lookup (address : String)
  /-- the destination connection; connecting may time out -/
  | tcpConnect (addrs : List SocketAddr)
  | setNodelay
  | setLinger
  | dstRead
  | dstFeed (bytes : Bytes)
  | dstFlush
  | dstClose
  /-- the destination's UDP socket; connecting and receiving may time out -/
  | udpBind (addr : String)
  | udpConnect (addrs : List SocketAddr)
  | udpSend (data : Bytes)
  | udpRecv
  /-- `tokio::spawn` of a relay task -/
  | spawnAgentToDst
  | spawnDstToAgent (userToken : String) (payloadEncryption : PpaassMessagePayloadEncryption)

def ProxyOp.Ans : ProxyOp → Type
  | fetchAdd | fetchSub | spawnAgentToDst | spawnDstToAgent _ _ => Unit
  | newUuid => String
  | random32Bytes => Block 32
  | pending => Bool
  | agentNext => Option (Except CommonError PpaassAgentMessage)
  | agentFeed _ | agentFlush | agentClose => Except CommonError Unit
  | lookup _ => Except StdIoError (List SocketAddr)
  | tcpConnect _ | udpConnect _ => Option (Except StdIoError Unit)
  | setNodelay | setLinger | dstFeed _ | dstFlush | dstClose | udpBind _ | udpSend _ =>
    Except StdIoError Unit
  | dstRead => Except StdIoError Bytes
  | udpRecv => Option (Except StdIoError Datagram)

abbrev proxySig : Sig := ⟨ProxyOp, ProxyOp.Ans⟩

/-! ## Configuration and errors -/

structure ProxyConfig where
  dstConnectTimeout : Option UInt64
  dstUdpRecvTimeout : Option UInt64
  dstUdpConnectTimeout : Option UInt64

def ProxyConfig.getDstConnectTimeout (config : ProxyConfig) : UInt64 :=
  config.dstConnectTimeout.getD 20

def ProxyConfig.getDstUdpRecvTimeout (config : ProxyConfig) : UInt64 :=
  config.dstUdpRecvTimeout.getD 5

def ProxyConfig.getDstUdpConnectTimeout (config : ProxyConfig) : UInt64 :=
  config.dstUdpConnectTimeout.getD 5

inductive ProxyServerError where
  | stdIo (e : StdIoError)
  | common (e : CommonError)
  | other (message : String)
  deriving DecidableEq, Repr

abbrev ProxyM := ExceptT ProxyServerError (Prog proxySig)

def await (e : ProxyOp) : Prog proxySig e.Ans := perform (S := proxySig) e

def awaitM (e : ProxyOp) : ProxyM e.Ans := call (S := proxySig) e

section
variable {α : Type} {P : ProxyOp → Prop} {Inv : Assertion proxySig} {t : Trace proxySig}

@[simp] theorem only_await (e : ProxyOp) : Only (S := proxySig) P (await e) ↔ P e :=
  only_perform (S := proxySig) e

@[simp] theorem only_awaitM (e : ProxyOp) : Only (S := proxySig) P (awaitM e).run ↔ P e :=
  only_perform (S := proxySig) e

@[simp] theorem wp_await (e : ProxyOp) {Q : e.Ans → Trace proxySig → Prop} :
    wp Inv (await e) Q t ↔ Inv (some e) t ∧ ∀ a, Q a (t ++ [⟨e, a⟩]) :=
  wp_perform (S := proxySig) e

@[simp] theorem wp_awaitM (e : ProxyOp)
    {Q : Except ProxyServerError e.Ans → Trace proxySig → Prop} :
    wp Inv (awaitM e).run Q t ↔ Inv (some e) t ∧ ∀ a, Q (.ok a) (t ++ [⟨e, a⟩]) :=
  wp_perform (S := proxySig) e

end

/-! ## Parts -/

/-- `SinkExt::send` on the agent connection. -/
def agentSend (message : PpaassProxyMessage) : Prog proxySig (Except CommonError Unit) := do
  match ← await (.agentFeed message) with
  | .ok () => await .agentFlush
  | .error e => return .error e

/-- `to_socket_addrs` and `collect`. -/
def toSocketAddrs : PpaassUnifiedAddress → Prog proxySig (Except StdIoError (List SocketAddr))
  | .ip addr => return .ok [addr]
  | .domain host port => do
    return (← await (.lookup s!"{host}:{port}")).mapError invalidData

/-! ## `transport/tcp.rs` -/

structure TcpHandlerRequest where
  transportId : String
  userToken : String
  srcAddress : PpaassUnifiedAddress
  dstAddress : PpaassUnifiedAddress
  payloadEncryption : PpaassMessagePayloadEncryption

namespace TcpHandler

def initDstConnection (config : ProxyConfig) (transportId : String)
    (dstAddress : PpaassUnifiedAddress) : ProxyM Unit := do
  let dstSocketAddress ← orFail .stdIo (← ExceptT.lift (toSocketAddrs dstAddress))
  match ← awaitM (.tcpConnect dstSocketAddress) with
  | none =>
    throw (.other (s!"Transport {transportId} connect to tcp destination " ++
      s!"[{dstAddress.display}] timeout in [{config.getDstConnectTimeout}] seconds."))
  | some connected => do
    orFail .stdIo connected
    orFail .stdIo (← awaitM .setNodelay)
    orFail .stdIo (← awaitM .setLinger)

def unwrapToRawTcpData (message : PpaassAgentMessage) : Except CommonError Bytes :=
  match message.payload with
  | .tcp (.data content) => .ok content
  | _ => .error (.other (s!"Fail to unwrap raw data from agent message because of invalid " ++
      s!"payload type: {reprStr message}"))

/-- What goes to the destination: TCP data, up to the first message that is something else. -/
def agentToDst : Forward proxySig Bytes StdIoError where
  pending := await .pending
  next := do
    match ← await .agentNext with
    | some (.ok agentMessage) => return (unwrapToRawTcpData agentMessage).toOption
    | _ => return none
  feed bytes := await (.dstFeed bytes)
  flush := await .dstFlush
  close := await .dstClose

/-- The data message of a read, none at end of file. -/
def dstMessage (userToken : String) (payloadEncryption : PpaassMessagePayloadEncryption) :
    Except StdIoError Bytes → Prog proxySig (Option PpaassProxyMessage)
  | .ok (b :: bs) => do
    let messageId ← await .newUuid
    return some (generateProxyTcpDataMessage messageId userToken payloadEncryption (b :: bs))
  | _ => return none

def dstToAgent (userToken : String) (payloadEncryption : PpaassMessagePayloadEncryption) :
    Forward proxySig PpaassProxyMessage CommonError where
  pending := await .pending
  next := do dstMessage userToken payloadEncryption (← await .dstRead)
  feed message := await (.agentFeed message)
  flush := await .agentFlush
  close := await .agentClose

def relayAgentToDst : Prog proxySig Unit := do
  let _ ← agentToDst.run
  let _ ← await .dstClose

def relayDstToAgent (userToken : String) (payloadEncryption : PpaassMessagePayloadEncryption) :
    Prog proxySig Unit := do
  let _ ← (dstToAgent userToken payloadEncryption).run
  await .fetchSub
  let _ ← await .agentClose

/-- `tcp_init_fail_message` and `tcp_init_success_message`. -/
def tcpInitMessage (request : TcpHandlerRequest) (messageId : String)
    (result : ProxyTcpInitResult) : PpaassProxyMessage :=
  generateProxyTcpInitMessage messageId request.userToken request.srcAddress request.dstAddress
    request.payloadEncryption result

def exec (config : ProxyConfig) (request : TcpHandlerRequest) : ProxyM Unit := do
  match ← ExceptT.lift (initDstConnection config request.transportId request.dstAddress).run with
  | .error e => do
    let messageId ← awaitM .newUuid
    orFail .common (← ExceptT.lift
      (agentSend (tcpInitMessage request messageId (.fail .canNotConnectToDestination))))
    throw e
  | .ok () => do
    let messageId ← awaitM .newUuid
    orFail .common (← ExceptT.lift
      (agentSend (tcpInitMessage request messageId (.success request.transportId))))
    awaitM .spawnAgentToDst
    awaitM (.spawnDstToAgent request.userToken request.payloadEncryption)

end TcpHandler

/-! ## `transport/udp.rs` -/

structure UdpHandlerRequest where
  transportId : String
  userToken : String
  srcAddress : PpaassUnifiedAddress
  dstAddress : PpaassUnifiedAddress
  udpData : Bytes
  payloadEncryption : PpaassMessagePayloadEncryption
  needResponse : Bool

namespace UdpHandler

variable (config : ProxyConfig) (request : UdpHandlerRequest)

def connectTimeout : ProxyServerError :=
  .other (s!"Transport {request.transportId} connect to destination udp socket " ++
    s!"[{request.dstAddress.display}] timeout in [{config.getDstUdpConnectTimeout}] seconds.")

def recvTimeout : ProxyServerError :=
  .other (s!"Transport {request.transportId} receive data from destination udp socket " ++
    s!"[{request.dstAddress.display}] timeout in [{config.getDstUdpRecvTimeout}] seconds.")

/-- The agent connection is closed before an error is returned. -/
def failClosed {α : Type} (e : ProxyServerError) : ProxyM α := do
  let _ ← awaitM .agentClose
  throw e

/-- One round of the receive loop, with what was received before. -/
def recvRound (udpData : Bytes) : Prog proxySig (Bytes ⊕ Except ProxyServerError Bytes) := do
  match ← await .udpRecv with
  | none => return .inr (← (failClosed (recvTimeout config request)).run)
  | some (.error e) => return .inr (.error (.stdIo e))
  | some (.ok ⟨[], _⟩) => return .inr (.ok udpData)
  | some (.ok ⟨b :: bs, _⟩) =>
    let udpData := udpData ++ b :: bs
    if (b :: bs).length < MAX_UDP_PACKET_SIZE then return .inr (.ok udpData)
    else return .inl udpData

/-- Binds and connects the socket and sends the agent's data. -/
def sendToDst : ProxyM Unit := do
  orFail .stdIo (← awaitM (.udpBind LOCAL_UDP_BIND_ADDR))
  let dstSocketAddrs ← orFail .stdIo (← ExceptT.lift (toSocketAddrs request.dstAddress))
  match ← awaitM (.udpConnect dstSocketAddrs) with
  | none => failClosed (connectTimeout config request)
  | some (.error e) => failClosed (.stdIo e)
  | some (.ok ()) => do
    match ← awaitM (.udpSend request.udpData) with
    | .ok () => return ()
    | .error e => failClosed (.stdIo e)

/-- Sends what was received to the agent; a failure to send is not an error. -/
def respond (udpData : Bytes) : ProxyM Unit := do
  if udpData.isEmpty then return ()
  else
    let messageId ← awaitM .newUuid
    let _ ← ExceptT.lift (agentSend (generateProxyUdpDataMessage messageId request.userToken
      request.payloadEncryption request.srcAddress request.dstAddress udpData))

def recvAndRespond : ProxyM Unit := do
  let udpData ← ExceptT.mk (iterate (recvRound config request) [])
  respond request udpData

def exec : ProxyM Unit := do
  sendToDst config request
  if request.needResponse then recvAndRespond config request
  let _ ← awaitM .agentClose

end UdpHandler

/-! ## `transport/mod.rs` -/

namespace Transport

def execTcp (config : ProxyConfig) (transportId userToken : String)
    (payloadEncryption : PpaassMessagePayloadEncryption) : AgentTcpPayload → ProxyM Unit
  | .init srcAddress dstAddress => do
    match ← ExceptT.lift (TcpHandler.exec config
      { transportId, userToken, srcAddress, dstAddress, payloadEncryption }).run with
    | .ok () => return ()
    | .error _ => awaitM .fetchSub
  | .data _ =>
    throw (.other s!"Transport {transportId} expect to receive tcp init message but it is not")

def execUdp (config : ProxyConfig) (transportId userToken : String)
    (payloadEncryption : PpaassMessagePayloadEncryption) (payload : AgentUdpPayload) :
    ProxyM Unit := do
  match ← ExceptT.lift (UdpHandler.exec config
    { transportId, userToken, payloadEncryption
      srcAddress := payload.srcAddress
      dstAddress := payload.dstAddress
      udpData := payload.data
      needResponse := payload.needResponse }).run with
  | .ok () => awaitM .fetchSub
  | .error e => do
    awaitM .fetchSub
    throw e

def exec (config : ProxyConfig) (transportId : String) : ProxyM Unit := do
  match ← awaitM .agentNext with
  | none => return ()
  | some agentMessage => do
    let agentMessage ← orFail .common agentMessage
    let encryptionToken ← awaitM .random32Bytes
    let payloadEncryption :=
      PpaassMessagePayloadEncryption.select agentMessage.userToken (some encryptionToken.1)
    match agentMessage.payload with
    | .tcp payload => execTcp config transportId agentMessage.userToken payloadEncryption payload
    | .udp payload => execUdp config transportId agentMessage.userToken payloadEncryption payload

end Transport

/-! ## `server.rs` -/

/-- The task of an accepted agent connection. -/
def ProxyServer.serve (config : ProxyConfig) : Prog proxySig (Except ProxyServerError Unit) := do
  await .fetchAdd
  let transportId ← await .newUuid
  (Transport.exec config transportId).run

/-- What the spawns start. -/
def spawn : Tasks.Spawn proxySig
  | .spawnAgentToDst => some (.up, TcpHandler.relayAgentToDst)
  | .spawnDstToAgent userToken payloadEncryption =>
    some (.down, TcpHandler.relayDstToAgent userToken payloadEncryption)
  | _ => none

end Ppaass.Proxy
