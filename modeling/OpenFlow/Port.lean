/-!
# Ports, groups and packet-in reasons

A destination is a concrete port or one of the reserved logical ports. On the
wire the reserved ports take the eight highest numbers, so a concrete port that
carries one of these numbers stands for the same destination as a reserved one
without being equal to it.
-/
namespace OpenFlow

inductive PortNo where
  | number (n : UInt32)
  | inPort
  | table
  | normal
  | flood
  | all
  | controller
  | localPort
  | any
deriving DecidableEq, Repr

namespace PortNo

/-- The highest number a physical or virtual port may use. -/
def maxNumber : UInt32 := 0xFFFFFF00

def wire : PortNo → UInt32
  | .number n => n
  | .inPort => 0xFFFFFFF8
  | .table => 0xFFFFFFF9
  | .normal => 0xFFFFFFFA
  | .flood => 0xFFFFFFFB
  | .all => 0xFFFFFFFC
  | .controller => 0xFFFFFFFD
  | .localPort => 0xFFFFFFFE
  | .any => 0xFFFFFFFF

def ofWire (w : UInt32) : PortNo :=
  if w = 0xFFFFFFF8 then .inPort
  else if w = 0xFFFFFFF9 then .table
  else if w = 0xFFFFFFFA then .normal
  else if w = 0xFFFFFFFB then .flood
  else if w = 0xFFFFFFFC then .all
  else if w = 0xFFFFFFFD then .controller
  else if w = 0xFFFFFFFE then .localPort
  else if w = 0xFFFFFFFF then .any
  else .number w

/-- Concrete ports come first, by number, then the reserved ones in this order. -/
def rank : PortNo → Nat
  | .number n => n.toNat
  | .inPort => UInt32.size
  | .table => UInt32.size + 1
  | .normal => UInt32.size + 2
  | .flood => UInt32.size + 3
  | .all => UInt32.size + 4
  | .controller => UInt32.size + 5
  | .localPort => UInt32.size + 6
  | .any => UInt32.size + 7

instance : Ord PortNo where
  compare p q := compare p.rank q.rank

def text : PortNo → String
  | .number n => n.toNat.repr
  | .inPort => "in_port"
  | .table => "table"
  | .normal => "normal"
  | .flood => "flood"
  | .all => "all"
  | .controller => "controller"
  | .localPort => "local"
  | .any => "any"

end PortNo

/-- The number of a group table entry. -/
structure GroupId where
  number : UInt32
deriving DecidableEq, Repr

namespace GroupId

instance : Ord GroupId where
  compare g h := compare g.number h.number

def text (group : GroupId) : String := group.number.toNat.repr

end GroupId

/-- Why a packet is handed to the controller. -/
inductive PacketInReason where
  | noMatch
  | action
  | invalidTtl
deriving DecidableEq, Repr

def PacketInReason.text : PacketInReason → String
  | .noMatch => "no_match"
  | .action => "action"
  | .invalidTtl => "invalid_ttl"

end OpenFlow
