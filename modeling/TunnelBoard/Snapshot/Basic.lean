import TunnelBoard.Fault
import TunnelBoard.Snapshot.Counts
import TunnelBoard.Json.Basic

/-!
# Snapshots of a server

A snapshot is what the dashboard knows of a server at one time.  It is read from
the entries of a mapping that the server sends and can be written back under the
same names.  Entries that are missing or of no use give the values of the empty
snapshot.
-/

namespace TunnelBoard

structure Snapshot where
  version : Text
  bindPort : Nat
  httpPort : Nat
  httpsPort : Nat
  muxPort : Nat
  kcpPort : Nat
  quicPort : Nat
  subdomainHost : Text
  maxPoolCount : Nat
  maxPortsPerClient : Nat
  heartbeatTimeout : Nat
  allowedPorts : Text
  tlsForced : Bool
  trafficIn : Nat
  trafficOut : Nat
  connections : Nat
  clients : Nat
  proxies : Counts
deriving DecidableEq, Repr

namespace Snapshot

/-- The snapshot of a server that nothing is known of. -/
def empty : Snapshot :=
  { version := []
    bindPort := 0
    httpPort := 0
    httpsPort := 0
    muxPort := 0
    kcpPort := 0
    quicPort := 0
    subdomainHost := []
    maxPoolCount := 0
    maxPortsPerClient := 0
    heartbeatTimeout := 0
    allowedPorts := []
    tlsForced := false
    trafficIn := 0
    trafficOut := 0
    connections := 0
    clients := 0
    proxies := [] }

/-- The bytes received and sent together. -/
def trafficTotal (s : Snapshot) : Nat := s.trafficIn + s.trafficOut

/-!
# Reading
-/

/-- The text that stands under a name; a value that counts as absent is the empty text. -/
def textAt (name : Text) (entries : List (Value × Value)) : Text :=
  match Value.lookup name entries with
  | some v => if v.isTruthy then v.plain else []
  | none => []

def counterAt (name : Text) (entries : List (Value × Value)) : Nat :=
  (Value.lookup name entries).elim 0 Counter.ofValue

/-- Whether the truth value true itself stands under a name. -/
def flagAt (name : Text) (entries : List (Value × Value)) : Bool :=
  match Value.lookup name entries with
  | some (.bool b) => b
  | _ => false

def countsAt (name : Text) (entries : List (Value × Value)) : Counts :=
  (Value.lookup name entries).elim [] Counts.ofValue

def ofEntries (entries : List (Value × Value)) : Snapshot :=
  { version := textAt "version" entries
    bindPort := counterAt "bindPort" entries
    httpPort := counterAt "vhostHTTPPort" entries
    httpsPort := counterAt "vhostHTTPSPort" entries
    muxPort := counterAt "tcpmuxHTTPConnectPort" entries
    kcpPort := counterAt "kcpBindPort" entries
    quicPort := counterAt "quicBindPort" entries
    subdomainHost := textAt "subdomainHost" entries
    maxPoolCount := counterAt "maxPoolCount" entries
    maxPortsPerClient := counterAt "maxPortsPerClient" entries
    heartbeatTimeout := counterAt "heartbeatTimeout" entries
    allowedPorts := textAt "allowPortsStr" entries
    tlsForced := flagAt "tlsForce" entries
    trafficIn := counterAt "totalTrafficIn" entries
    trafficOut := counterAt "totalTrafficOut" entries
    connections := counterAt "curConns" entries
    clients := counterAt "clientCounts" entries
    proxies := countsAt "proxyTypeCount" entries }

/-- The snapshot in a value, which has to be a mapping. -/
def ofValue : Value → Except Fault Snapshot
  | .map entries => .ok (ofEntries entries)
  | v => .error (.payloadNotMapping v.kindName)

/-!
# Writing
-/

def countFields (counts : Counts) : List (Text × Json) :=
  counts.map fun (name, n) => (name, .int n)

/-- The fields of a snapshot under the names the server uses, in its order. -/
def fields (s : Snapshot) : List (Text × Json) :=
  [ ("version", .text s.version)
  , ("bindPort", .int s.bindPort)
  , ("vhostHTTPPort", .int s.httpPort)
  , ("vhostHTTPSPort", .int s.httpsPort)
  , ("tcpmuxHTTPConnectPort", .int s.muxPort)
  , ("kcpBindPort", .int s.kcpPort)
  , ("quicBindPort", .int s.quicPort)
  , ("subdomainHost", .text s.subdomainHost)
  , ("maxPoolCount", .int s.maxPoolCount)
  , ("maxPortsPerClient", .int s.maxPortsPerClient)
  , ("heartbeatTimeout", .int s.heartbeatTimeout)
  , ("allowPortsStr", .text s.allowedPorts)
  , ("tlsForce", .bool s.tlsForced)
  , ("totalTrafficIn", .int s.trafficIn)
  , ("totalTrafficOut", .int s.trafficOut)
  , ("curConns", .int s.connections)
  , ("clientCounts", .int s.clients)
  , ("proxyTypeCount", .object (countFields s.proxies)) ]

def toJson (s : Snapshot) : Json := .object s.fields

end Snapshot
end TunnelBoard
