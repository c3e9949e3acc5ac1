/-!
# Documents

The tree of values that configuration and state are exchanged in, and the two
directions between it and a type.

A structure is written as a record of its fields. It is read from a record,
where other fields are ignored, or from a list of its fields in their order. A
variant without data is written as its name, one with data as a record with its
name as the only field. Nothing is cut to size on reading: an integer outside
the range of its type is refused.
-/
namespace OpenFlow

inductive Document where
  | null
  | bool (value : Bool)
  | int (value : Int)
  /-- A number that is not written as an integer. -/
  | fraction (mantissa : Int) (exponent : Nat)
  | text (value : String)
  | list (items : List Document)
  | record (fields : List (String × Document))
deriving Inhabited

inductive DocumentError where
  | mismatch
  | emptyLabelStack
deriving DecidableEq, Repr

namespace DocumentError

/-- The reason, where there is more to say than that the document does not fit. -/
def message? : DocumentError → Option String
  | .mismatch => none
  | .emptyLabelStack => some "MPLS tag with an empty label stack"

end DocumentError

/-- Types that have a form as a document. -/
class Serial (α : Type) where
  encode : α → Document
  decode : Document → Except DocumentError α

export Serial (encode decode)

namespace Document

def field? (name : String) : Document → Option Document
  | .record fields => fields.lookup name
  | _ => none

/-- The named fields in their order, all of which have to be there. -/
def fields (names : List String) : Document → Except DocumentError (List Document)
  | .record fields =>
    names.mapM fun name =>
      match fields.lookup name with
      | some value => .ok value
      | none => .error .mismatch
  | .list items => if items.length = names.length then .ok items else .error .mismatch
  | _ => .error .mismatch

/-- The named fields in their order, any of which may be left out. -/
def optionalFields (names : List String) :
    Document → Except DocumentError (List (Option Document))
  | .record fields => .ok (names.map fun name => fields.lookup name)
  | .list items =>
    if items.length ≤ names.length then
      .ok (items.map some ++ List.replicate (names.length - items.length) none)
    else .error .mismatch
  | _ => .error .mismatch

/-- An optional field that is absent takes its default; one that is there has to fit. -/
def orDefault {α : Type} [Serial α] (default : α) : Option Document → Except DocumentError α
  | none => .ok default
  | some document => decode document

def variant (name : String) (data : Document) : Document := .record [(name, data)]

/-- The name of a variant without data. -/
def unit? : Document → Option String
  | .text name => some name
  | .record [(name, .null)] => some name
  | _ => none

end Document

/-- Read the variant of a plain enumeration. -/
def decodeName {α : Type} (table : List (String × α)) (document : Document) :
    Except DocumentError α :=
  match document.unit?.bind fun name => table.lookup name with
  | some value => .ok value
  | none => .error .mismatch

def decodeNat (bound : Nat) : Document → Except DocumentError Nat
  | .int value =>
    if 0 ≤ value ∧ value < bound then .ok value.toNat else .error .mismatch
  | _ => .error .mismatch

theorem decodeNat_int {bound n : Nat} (small : n < bound) :
    decodeNat bound (.int n) = .ok n := by
  simp [decodeNat, small]

instance : Serial UInt8 where
  encode n := .int n.toNat
  decode document := (decodeNat UInt8.size document).map UInt8.ofNat

instance : Serial UInt16 where
  encode n := .int n.toNat
  decode document := (decodeNat UInt16.size document).map UInt16.ofNat

instance : Serial UInt32 where
  encode n := .int n.toNat
  decode document := (decodeNat UInt32.size document).map UInt32.ofNat

instance : Serial UInt64 where
  encode n := .int n.toNat
  decode document := (decodeNat UInt64.size document).map UInt64.ofNat

instance : Serial Bool where
  encode := .bool
  decode
    | .bool value => .ok value
    | _ => .error .mismatch

instance : Serial String where
  encode := .text
  decode
    | .text value => .ok value
    | _ => .error .mismatch

instance {α : Type} [Serial α] : Serial (Option α) where
  encode
    | none => .null
    | some value => encode value
  decode
    | .null => .ok none
    | document => (decode document).map some

instance {α : Type} [Serial α] : Serial (List α) where
  encode values := .list (values.map encode)
  decode
    | .list items => items.mapM decode
    | _ => .error .mismatch

end OpenFlow
