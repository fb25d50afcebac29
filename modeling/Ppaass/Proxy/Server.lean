import Mathlib.Logic.Relation
import Ppaass.Proxy.Transport

/-!
# The running proxy

`ProxyServer` is the shared counter and the transports of all agent connections accepted so far.
They run side by side: a step is a new connection or one event of one task of one transport, with
any answer.
-/

namespace Ppaass.Proxy

open Prog

/-- A transport: the task of its connection and the relay tasks it spawned. -/
abbrev TransportTasks := Tasks proxySig (Except ProxyServerError Unit)

structure ProxyServer where
  transportNumber : UInt64
  transports : List TransportTasks

namespace ProxyServer

/-- `ProxyServer::new`. -/
def new : ProxyServer := ⟨0, []⟩

/-- The counter after an event. -/
def counted (transportNumber : UInt64) : Option (Event proxySig) → UInt64
  | some ⟨.fetchAdd, _⟩ => transportNumber + 1
  | some ⟨.fetchSub, _⟩ => transportNumber - 1
  | _ => transportNumber

inductive Label where
  | accept
  | task (side : Option Side) (e : Option (Event proxySig))

inductive Step (config : ProxyConfig) : ProxyServer → Label → ProxyServer → Prop
  | accept (n : UInt64) (ts : List TransportTasks) :
      Step config ⟨n, ts⟩ .accept ⟨n, ts ++ [Tasks.new (serve config)]⟩
  | task (n : UInt64) (pre post : List TransportTasks) {t t' : TransportTasks}
      {side : Option Side} {e : Option (Event proxySig)} (h : Tasks.Step spawn t side e t') :
      Step config ⟨n, pre ++ t :: post⟩ (.task side e) ⟨counted n e, pre ++ t' :: post⟩

end ProxyServer

/-! ## Live transports -/

def isFetchAdd (e : Event proxySig) : Bool := match e.op with | .fetchAdd => true | _ => false

def isFetchSub (e : Event proxySig) : Bool := match e.op with | .fetchSub => true | _ => false

/-- The transport has incremented the counter. -/
def started (t : TransportTasks) : Bool := t.main.trace.any isFetchAdd

/-- `Transport::exec` has returned, and so has the relay task from the destination to the agent
where one was spawned. -/
def finished (t : TransportTasks) : Bool :=
  t.main.done && (t.task .down).all Thread.done

/-- Started and not finished. -/
def live (t : TransportTasks) : Bool := started t && !finished t

def ProxyServer.liveTransports (s : ProxyServer) : Nat := s.transports.countP live

/-! ## First events -/

/-- A first event with which `Transport::exec` does not return at once. -/
def served : Option (Except CommonError PpaassAgentMessage) → Bool
  | some (.ok message) =>
    match message.payload with
    | .tcp (.init _ _) => true
    | .tcp (.data _) => false
    | .udp _ => true
  | _ => false

/-- A step that is not the first event of a transport, or one where that event is served. -/
def ProxyServer.Label.served : ProxyServer.Label → Bool
  | .task none (some ⟨.agentNext, answer⟩) => Proxy.served answer
  | _ => true

/-! ## Runs -/

namespace ProxyServer

/-- A state the server can reach. -/
def Reachable (config : ProxyConfig) : ProxyServer → Prop :=
  Relation.ReflTransGen (fun s s' => ∃ l, Step config s l s') new

/-- A state the server can reach by steps at which every first event is served. -/
def ReachableServed (config : ProxyConfig) : ProxyServer → Prop :=
  Relation.ReflTransGen (fun s s' => ∃ l, Step config s l s' ∧ l.served = true) new

end ProxyServer

end Ppaass.Proxy
