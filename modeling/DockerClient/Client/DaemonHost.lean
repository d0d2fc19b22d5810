import DockerClient.Daemon.Scene
import DockerClient.Resource.Network

/-
**Where the ports of containers can be reached.**

* `DaemonHost.Place`, `DaemonHost.place?` — what an endpoint says of it;
* `DaemonHost.ofBridge` — the host that the record of the bridge network names;
* `DaemonHost.find` — the host: that of a TCP endpoint, and for a daemon on the same machine
  `localhost`, or, in a container, the gateway of the bridge network.
-/

set_option relaxedAutoImplicit false
set_option autoImplicit false

namespace DockerClient.DaemonHost

/-- What an endpoint says of where its daemon is. -/
inductive Place where
  | named (host : String)
  | sameMachine
deriving DecidableEq, Repr

/-- The schemes of endpoints on the same machine. -/
def localSchemes : List String := ["unix", "npipe"]

/-- What a host says of where its daemon is. -/
def place? (host : String) : Option Place :=
  let (scheme, rest) := Endpoint.schemeAndRest host
  if Endpoint.tcpSchemes.contains scheme then some (.named (Endpoint.namedHost rest))
  else if localSchemes.contains scheme then some .sameMachine
  else none

/-- The host of a daemon on the same machine, outside of containers. -/
def localHost : String := "localhost"

/-- What is said of a bridge network without a gateway. -/
def noGateway : String := "bridge network has no gateway, using localhost"

/-- The host that the record of the bridge network names. -/
def ofBridge (record : NetworkRecord) : Option String := record.gateway?.filter (· ≠ "")

/-- The host of a daemon on the same machine, in a container. -/
def fromBridge (listens : Route → Bool) (link : Link) (s : Scene) :
    Except Error String × Scene :=
  match s.call listens link Call.inspectBridge with
  | (.error e, s) => (.error (e.addContext "inspecting the bridge network"), s)
  | (.ok record, s) =>
      match ofBridge record with
      | some gateway => (.ok gateway, s)
      | none => (.ok localHost, s.note (.warned noGateway))

/-- Where the ports of containers can be reached; the link is needed in containers alone. -/
def find (listens : Route → Bool) (inContainer : Bool) (host : String)
    (link : Except Error Link) (s : Scene) : Except Error String × Scene :=
  match place? host with
  | none => (.error (.invalidArgument (.hostUnknown host)), s)
  | some (.named h) => (.ok h, s)
  | some .sameMachine =>
      if inContainer then
        match link with
        | .error e => (.error e, s)
        | .ok link => fromBridge listens link s
      else (.ok localHost, s)

end DockerClient.DaemonHost
