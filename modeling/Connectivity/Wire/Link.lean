import Connectivity.Json.Decoder
import Connectivity.Link
/-! Addresses, routes and link configuration in JSON. -/
namespace Connectivity

open Json

namespace AddressFamily

def name : AddressFamily → String
  | ipv4 => "ipv4"
  | ipv6 => "ipv6"

def names : List (String × AddressFamily) := [ipv4, ipv6].map (fun f => (f.name, f))

def toJson (f : AddressFamily) : Json := .string f.name
def decode : Decoder AddressFamily := decodeName names

end AddressFamily

namespace AddressKind

def name : AddressKind → String
  | unicast => "unicast"
  | gateway => "gateway"
  | dns => "dns"

def names : List (String × AddressKind) := [unicast, gateway, dns].map (fun k => (k.name, k))

def toJson (k : AddressKind) : Json := .string k.name
def decode : Decoder AddressKind := decodeName names

end AddressKind

namespace NetAddress

def toJson (a : NetAddress) : Json := .record [
  ("kind", a.kind.toJson),
  ("family", a.family.toJson),
  ("prefix_length", .natural a.prefixLength.toNat),
  ("address", .string a.address),
  ("netmask", .string a.netmask),
  ("hostname", .string a.hostname)]

def fields : List Field := [
  .of "kind" AddressKind.decode,
  .of "family" AddressFamily.decode,
  .of "prefix_length" decodeWord8,
  .of "address" decodeString,
  .of "netmask" decodeString,
  .of "hostname" decodeString]

def decode : Decoder NetAddress := fun v => do
  let met ← meet fields v
  let kind ← needed met "kind" AddressKind.decode
  let family ← needed met "family" AddressFamily.decode
  let prefixLength ← needed met "prefix_length" decodeWord8
  let address ← needed met "address" decodeString
  let netmask ← optional met "netmask" decodeString ""
  let hostname ← optional met "hostname" decodeString ""
  return { kind, family, prefixLength, address, netmask, hostname }

end NetAddress

namespace Route

def toJson (r : Route) : Json := .record [
  ("iface", .string r.iface),
  ("destination", r.destination.toJson),
  ("gateway", r.gateway.toJson),
  ("has_gateway", .bool r.hasGateway),
  ("is_default_route", .bool r.isDefaultRoute)]

def fields : List Field := [
  .of "iface" decodeString,
  .of "destination" NetAddress.decode,
  .of "gateway" NetAddress.decode,
  .of "has_gateway" decodeBool,
  .of "is_default_route" decodeBool]

def decode : Decoder Route := fun v => do
  let met ← meet fields v
  let iface ← needed met "iface" decodeString
  let destination ← needed met "destination" NetAddress.decode
  let gateway ← needed met "gateway" NetAddress.decode
  let hasGateway ← optional met "has_gateway" decodeBool false
  let isDefaultRoute ← optional met "is_default_route" decodeBool false
  return { iface, destination, gateway, hasGateway, isDefaultRoute }

end Route

namespace LinkInfo

def toJson (l : LinkInfo) : Json := .record [
  ("iface_name", .string l.ifaceName),
  ("addresses", .array (l.addresses.map NetAddress.toJson)),
  ("routes", .array (l.routes.map Route.toJson)),
  ("dns_servers", .array (l.nameServers.map NetAddress.toJson)),
  ("domain", .string l.domain),
  ("mtu", .natural l.mtu.toNat)]

def fields : List Field := [
  .of "iface_name" decodeString,
  .of "addresses" (decodeList NetAddress.decode),
  .of "routes" (decodeList Route.decode),
  .of "dns_servers" (decodeList NetAddress.decode),
  .of "domain" decodeString,
  .of "mtu" decodeWord16]

def decode : Decoder LinkInfo := fun v => do
  let met ← meet fields v
  let ifaceName ← needed met "iface_name" decodeString
  let addresses ← optional met "addresses" (decodeList NetAddress.decode) []
  let routes ← optional met "routes" (decodeList Route.decode) []
  let nameServers ← optional met "dns_servers" (decodeList NetAddress.decode) []
  let domain ← optional met "domain" decodeString ""
  let mtu ← optional met "mtu" decodeWord16 0
  return { ifaceName, addresses, routes, nameServers, domain, mtu }

end LinkInfo

end Connectivity
