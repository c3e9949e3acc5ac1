import OpenFlow.Header.Kind
import OpenFlow.Port

/-!
# Layers of errors

An error is a variant of some enumeration. Its first layer is the name of the
variant; when the variant wraps one other error and is not marked as a leaf,
the layers of that error follow. Data that is no error never shows, so of the
other variants only the shape is kept.
-/
namespace OpenFlow

inductive ErrorValue where
  /-- A variant without fields. -/
  | unit (name : String)
  /-- A variant around one other error. -/
  | wrapping (name : String) (cause : ErrorValue)
  /-- A variant marked as the last layer, whatever it holds. -/
  | leaf (name : String)
  /-- A variant with several positional fields. -/
  | tuple (name : String) (arity : Nat)
  /-- A variant with named fields. -/
  | record (name : String) (fields : List String)
deriving DecidableEq, Repr

/-- The fields that a variant is declared with. -/
inductive VariantFields where
  | unit
  | positional (arity : Nat)
  | named (fields : List String)
deriving DecidableEq, Repr

/-- A variant as it is declared. -/
structure Variant where
  name : String
  fields : VariantFields
  isLeaf : Bool
deriving DecidableEq, Repr

namespace ErrorValue

def name : ErrorValue → String
  | .unit name | .wrapping name _ | .leaf name | .tuple name _ | .record name _ => name

/-- The next error in the chain. -/
def cause? : ErrorValue → Option ErrorValue
  | .wrapping _ cause => some cause
  | _ => none

/-- The names met on the way inward, outermost first. -/
def layers : ErrorValue → List String
  | .wrapping name cause => name :: cause.layers
  | .unit name | .leaf name | .tuple name _ | .record name _ => [name]

theorem layers_eq (error : ErrorValue) :
    error.layers = error.name :: (error.cause?.map layers).getD [] := by
  cases error <;> rfl

/-- An error with the given layers. -/
def chain (outermost : String) : List String → ErrorValue
  | [] => .unit outermost
  | next :: rest => .wrapping outermost (chain next rest)

/-- A value of a declared variant. What is inside matters only to a variant that has one positional
field and is not marked as a leaf. -/
def ofVariant (variant : Variant) (inside : ErrorValue) : ErrorValue :=
  if variant.isLeaf then .leaf variant.name
  else
    match variant.fields with
    | .unit => .unit variant.name
    | .positional 1 => .wrapping variant.name inside
    | .positional arity => .tuple variant.name arity
    | .named fields => .record variant.name fields

theorem name_ofVariant (variant : Variant) (inside : ErrorValue) :
    (ofVariant variant inside).name = variant.name := by
  unfold ofVariant
  split
  · rfl
  · split <;> rfl

theorem cause?_ofVariant (variant : Variant) (inside : ErrorValue) :
    (ofVariant variant inside).cause? =
      if variant.fields = .positional 1 ∧ variant.isLeaf = false then some inside else none := by
  unfold ofVariant
  split
  · simp_all [cause?]
  · split <;> simp_all [cause?]

end ErrorValue

/-- A packet could not be sent. -/
inductive SendError where
  | badPort (port : PortNo)
deriving DecidableEq, Repr

namespace SendError

def message : SendError → String
  | .badPort port => "no such port: " ++ port.text

def value : SendError → ErrorValue
  | .badPort _ => .leaf "BadPort"

end SendError

def TtlHeader.value : TtlHeader → ErrorValue
  | .mpls => .unit "Mpls"
  | .ipv4 => .unit "Ipv4"

def ActionError.value : ActionError → ErrorValue
  | .invalidTtl header => .wrapping "InvalidTtl" header.value

end OpenFlow
