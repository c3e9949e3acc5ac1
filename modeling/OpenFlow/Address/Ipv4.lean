import OpenFlow.Text.Octet

/-!
# IPv4 addresses

Four octets, most significant first. Addresses are ordered octet by octet,
which is the order of the 32-bit numbers they stand for.
-/
namespace OpenFlow

structure Ipv4Addr where
  a : UInt8
  b : UInt8
  c : UInt8
  d : UInt8
deriving DecidableEq, Repr, Inhabited

namespace Ipv4Addr

def unspecified : Ipv4Addr := ⟨0, 0, 0, 0⟩

def localBroadcast : Ipv4Addr := ⟨255, 255, 255, 255⟩

def bytes (address : Ipv4Addr) : List UInt8 :=
  [address.a, address.b, address.c, address.d]

def ofBytes? : List UInt8 → Option Ipv4Addr
  | [a, b, c, d] => some ⟨a, b, c, d⟩
  | _ => none

theorem ofBytes?_bytes (address : Ipv4Addr) : ofBytes? address.bytes = some address := rfl

theorem ofBytes?_eq_some_iff {bytes : List UInt8} {address : Ipv4Addr} :
    ofBytes? bytes = some address ↔ bytes = address.bytes := by
  constructor
  · intro read
    unfold ofBytes? at read
    split at read
    · cases read
      rfl
    · simp at read
  · rintro rfl
    rfl

instance : Ord Ipv4Addr where
  compare x y :=
    (compare x.a y.a).then <| (compare x.b y.b).then <| (compare x.c y.c).then (compare x.d y.d)

def toUInt32 (address : Ipv4Addr) : UInt32 :=
  address.a.toUInt32 <<< 24 ||| address.b.toUInt32 <<< 16 ||| address.c.toUInt32 <<< 8 |||
    address.d.toUInt32

def ofUInt32 (number : UInt32) : Ipv4Addr where
  a := (number >>> 24).toUInt8
  b := (number >>> 16).toUInt8
  c := (number >>> 8).toUInt8
  d := number.toUInt8

/-- Dotted decimal without leading zeros. -/
def text (address : Ipv4Addr) : String :=
  ".".intercalate (address.bytes.map fun byte => byte.toNat.repr)

/-- The dotted text with the name of the type around it. -/
def labelled (address : Ipv4Addr) : String :=
  "Ipv4Addr(" ++ address.text ++ ")"

inductive ParseError where
  | octet (fault : Text.OctetFault)
  | malformed (text : String)
deriving DecidableEq, Repr

def ParseError.message : ParseError → String
  | .octet fault => fault.message
  | .malformed text => "malformed ip: " ++ text

/-- Every piece is read before the pieces are counted. -/
def parse (text : String) : Except ParseError Ipv4Addr := do
  let octets ← (text.toList.splitOn '.').mapM fun piece =>
    (Text.readOctet 10 piece).mapError ParseError.octet
  match ofBytes? octets with
  | some address => .ok address
  | none => .error (.malformed text)

end Ipv4Addr

end OpenFlow
