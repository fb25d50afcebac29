import Ppaass.Agent.Proof.Client
import Ppaass.Agent.Proof.Endpoint
import Ppaass.Agent.Proof.HttpHandover
import Ppaass.Common.Proof.Duplex
import Ppaass.Common.Proof.Keys
import Ppaass.Common.Proof.Panics
import Ppaass.Proxy.Proof.Boundary
import Ppaass.Proxy.Proof.Pending
import Ppaass.Tunnel.Proof.Attribution
import Ppaass.Tunnel.Proof.Repeats
import Ppaass.Tunnel.Proof.Secrecy
import Ppaass.Tunnel.Proof.Shutdown
import Ppaass.Tunnel.Proof.Success
import Ppaass.Tunnel.Proof.Uncompressed
import Ppaass.Tunnel.System
