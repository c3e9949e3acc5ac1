import OpenFlow.Diagnostic.ErrorValue

/-!
# Error traces

A trace collects the names of error layers, up to its capacity. A name that no
longer fits is dropped, and the trace says from then on that it is not whole.
-/
namespace OpenFlow

structure ErrorTrace (capacity : Nat) where
  entries : List String
  truncated : Bool
  fits : entries.length ≤ capacity
deriving DecidableEq, Repr

namespace ErrorTrace

variable {capacity : Nat}

def empty : ErrorTrace capacity := ⟨[], false, Nat.zero_le _⟩

instance : Inhabited (ErrorTrace capacity) := ⟨empty⟩

/-- The trace after an append; a failed append hands it back as its error. -/
abbrev Outcome (capacity : Nat) : Type := Except (ErrorTrace capacity) (ErrorTrace capacity)

/-- The trace that is kept, whether or not the append succeeded. -/
def Outcome.trace : Outcome capacity → ErrorTrace capacity
  | .ok trace => trace
  | .error trace => trace

def Outcome.succeeded : Outcome capacity → Bool
  | .ok _ => true
  | .error _ => false

def appendName (trace : ErrorTrace capacity) (name : String) : Outcome capacity :=
  if room : trace.entries.length < capacity then
    .ok { trace with
      entries := trace.entries ++ [name]
      fits := by simpa [Nat.succ_le_iff] using room }
  else .error { trace with truncated := true }

/-- Append every layer of an error, up to the first that does not fit. -/
def append (trace : ErrorTrace capacity) (error : ErrorValue) : Outcome capacity :=
  error.layers.foldlM appendName trace

def ofError (error : ErrorValue) : Outcome capacity := empty.append error

def text (trace : ErrorTrace capacity) : String :=
  "/".intercalate trace.entries ++ if trace.truncated then "/..." else ""

end ErrorTrace

end OpenFlow
