import OpenFlow.Text.Hex
import OpenFlow.Text.Octet

/-!
# MAC addresses

Six octets in transmission order. Addresses are ordered octet by octet, which
is the order of the 48-bit numbers they stand for.
-/
namespace OpenFlow

structure MacAddr where
  a : UInt8
  b : UInt8
  c : UInt8
  d : UInt8
  e : UInt8
  f : UInt8
deriving DecidableEq, Repr, Inhabited

namespace MacAddr

def zero : MacAddr := ⟨0, 0, 0, 0, 0, 0⟩

def broadcast : MacAddr := ⟨255, 255, 255, 255, 255, 255⟩

def bytes (address : MacAddr) : List UInt8 :=
  [address.a, address.b, address.c, address.d, address.e, address.f]

def ofBytes? : List UInt8 → Option MacAddr
  | [a, b, c, d, e, f] => some ⟨a, b, c, d, e, f⟩
  | _ => none

theorem ofBytes?_bytes (address : MacAddr) : ofBytes? address.bytes = some address := rfl

theorem ofBytes?_eq_some_iff {bytes : List UInt8} {address : MacAddr} :
    ofBytes? bytes = some address ↔ bytes = address.bytes := by
  constructor
  · intro read
    unfold ofBytes? at read
    split at read
    · cases read
      rfl
    · simp at read
  · rintro rfl
    rfl

instance : Ord MacAddr where
  compare x y :=
    (compare x.a y.a).then <| (compare x.b y.b).then <| (compare x.c y.c).then <|
      (compare x.d y.d).then <| (compare x.e y.e).then (compare x.f y.f)

/-- Two upper-case hexadecimal digits for each octet, separated by colons. -/
def text (address : MacAddr) : String :=
  ":".intercalate (address.bytes.map fun byte => Text.hex 2 byte.toNat)

/-- The colon-separated text with the name of the type around it. -/
def labelled (address : MacAddr) : String :=
  "MacAddr(" ++ address.text ++ ")"

inductive ParseError where
  | octet (piece : String)
  | count (found : Nat)
deriving DecidableEq, Repr

def ParseError.message : ParseError → String
  | .octet piece => "bad octet: " ++ piece
  | .count found => "incorrect number of bytes: " ++ found.repr

/-- Every piece is read before the pieces are counted. -/
def parse (text : String) : Except ParseError MacAddr := do
  let octets ← (text.toList.splitOn ':').mapM fun piece =>
    (Text.readOctet 16 piece).mapError fun _ => ParseError.octet (String.ofList piece)
  match ofBytes? octets with
  | some address => .ok address
  | none => .error (.count octets.length)

end MacAddr

end OpenFlow
