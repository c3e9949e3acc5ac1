/-!
# Header kinds

The kinds of header a packet is parsed into, and those among them that carry a
time to live.
-/
namespace OpenFlow

inductive HeaderKind where
  | ether
  | vlan
  | mpls
  | ipv4
deriving DecidableEq, Repr

namespace HeaderKind

def rank : HeaderKind → Nat
  | .ether => 0
  | .vlan => 1
  | .mpls => 2
  | .ipv4 => 3

instance : Ord HeaderKind where
  compare j k := compare j.rank k.rank

def text : HeaderKind → String
  | .ether => "ETHER"
  | .vlan => "VLAN"
  | .mpls => "MPLS"
  | .ipv4 => "IPv4"

end HeaderKind

inductive TtlHeader where
  | mpls
  | ipv4
deriving DecidableEq, Repr

namespace TtlHeader

def kind : TtlHeader → HeaderKind
  | .mpls => .mpls
  | .ipv4 => .ipv4

def text (header : TtlHeader) : String := header.kind.text

end TtlHeader

/-- The one way an action fails: decrementing a time to live that is already zero. -/
inductive ActionError where
  | invalidTtl (header : TtlHeader)
deriving DecidableEq, Repr

def ActionError.message : ActionError → String
  | .invalidTtl header => "invalid TTL on " ++ header.text ++ " header"

end OpenFlow
