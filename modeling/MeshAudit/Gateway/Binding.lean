import MeshAudit.Gateway.Glob
import MeshAudit.Mesh.Key
import MeshAudit.Text.Blank
import MeshAudit.Text.Lowercase

/-!
# Host bindings of gateways

A gateway lists servers, each with a port and with host names. Every host name of a server is a
binding of its own, named by the position of the server and by its place among the texts of the
server's host list.
-/

namespace MeshAudit

/-- A number as a signed 64-bit integer, the nearer end of the range for one outside it. -/
def Number.toInt64 : Number → Int
  | .integer n => max Text.minInt64 (min Text.maxInt64 n)
  | .float x => x.toInt64

/-- A host name exposed on a port by a server of a gateway. -/
structure HostBinding where
  /-- The gateway. -/
  owner : ObjectKey
  /-- The port. -/
  port : Int
  /-- The host name in lower case, possibly with stars. -/
  hostname : String
  /-- Position of the server. -/
  server : Nat
  /-- Place among the host names of the server. -/
  host : Nat
  deriving DecidableEq, Repr

namespace HostBinding

/-- The binding of a host name in any case. -/
def ofName (owner : ObjectKey) (port : Int) (name : String) (server host : Nat) : HostBinding :=
  ⟨owner, port, Text.lowercase name, server, host⟩

/-- Place of the host name in the gateway. -/
def path (binding : HostBinding) : String :=
  s!"spec/servers[{binding.server}]/hosts[{binding.host}]"

/-- Whether two bindings can both answer for some host name: they share the port, and one host name
is a lone star or stands for the other. The regular expression of a host name is taken to compile,
whatever its size. -/
def overlaps (binding other : HostBinding) : Bool :=
  binding.port = other.port &&
    (binding.hostname = "*" || other.hostname = "*" ||
      globMatches binding.hostname other.hostname || globMatches other.hostname binding.hostname)

/-- Overlap goes both ways. -/
theorem overlaps_comm (binding other : HostBinding) :
    binding.overlaps other = other.overlaps binding := by
  simp only [overlaps, eq_comm (a := binding.port)]
  grind

end HostBinding

/-- Port of a server: a number without its fraction, or a text that is a number; else zero. -/
def portNumber (server : Value) : Int :=
  match server.follow? ["port", "number"] with
  | some (.number n) => n.toInt64
  | some (.string s) => (Text.readInt64? (Text.trim s.toList)).getD 0
  | _ => 0

/-- Bindings of the server at a position. A server that is no object has none. -/
def serverBindings (owner : ObjectKey) (server : Value × Nat) : List HostBinding :=
  match server.1 with
  | .object fields =>
    (textItems (fields.lookup "hosts")).zipIdx.map fun host =>
      .ofName owner (portNumber server.1) host.1.2 server.2 host.2
  | _ => []

/-- Bindings of a gateway in the order of its text. -/
def hostBindings (gateway : MeshObject) : List HostBinding :=
  match gateway.body? ["servers"] with
  | some (.array servers) => servers.zipIdx.flatMap (serverBindings (.ofObject gateway))
  | _ => []

end MeshAudit
