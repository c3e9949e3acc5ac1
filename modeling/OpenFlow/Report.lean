import OpenFlow.Action.Set
import OpenFlow.Text.Columns

/-!
# Tables for people

A table has a heading with a heavy rule under it, a line of column titles with
a light rule under it, and a line for each entry. The rules have no cells, so
the titles and the entries are aligned separately.
-/
namespace OpenFlow.Report

def columns : Text.ColumnStyle := ⟨2, 2⟩

def ruleOf (mark : Char) : String := String.ofList (List.replicate 70 mark)

def heavyRule : String := ruleOf '='

def lightRule : String := ruleOf '-'

/-- The lines of a table, from its heading, its titles and its entries. -/
def table (heading : String) (titles : Text.Line) (entries : List Text.Line) : List Text.Line :=
  [⟨[], heading⟩, ⟨[], heavyRule⟩, titles, ⟨[], lightRule⟩] ++ entries

/-- The text of aligned lines, each with its line break. -/
def layOut (lines : List Text.Line) : String :=
  String.join ((columns.format lines).map fun line => line ++ "\n")

def labelText (entry : LabelEntry) : String :=
  entry.label.toNat.repr ++ "/tc=" ++ entry.tc.toNat.repr ++ "/ttl=" ++ entry.ttl.toNat.repr
    ++ if entry.bos then "/bos" else ""

def fieldsText : HeaderTag → String
  | .ether header =>
    "dst=" ++ header.dst.text ++ " src=" ++ header.src.text ++ " type="
      ++ Text.hex 4 header.etherType.toNat
  | .vlan tag =>
    "vid=" ++ tag.vid.toNat.repr ++ " pcp=" ++ tag.pcp.toNat.repr ++ " type="
      ++ Text.hex 4 tag.etherType.toNat
  | .mpls tag =>
    "type=" ++ Text.hex 4 tag.etherType.toNat ++ " labels=["
      ++ ",".intercalate (tag.entries.map labelText) ++ "]"
  | .ipv4 header =>
    "src=" ++ header.src.text ++ " dst=" ++ header.dst.text ++ " proto=" ++ header.proto.toNat.repr
      ++ " dscp=" ++ header.dscp.toNat.repr ++ " ecn=" ++ header.ecn.toNat.repr

/-- The time to live in decimal, or a dash. -/
def ttlText : Option UInt8 → String
  | some ttl => ttl.toNat.repr
  | none => "-"

def headerLine (index : Nat) (tag : HeaderTag) : Text.Line :=
  ⟨[index.repr, tag.kind.text, ttlText tag.ttl?], fieldsText tag⟩

def headerLines (stack : HeaderStack) : List Text.Line :=
  table "Headers" ⟨["IDX", "KIND", "TTL"], "FIELDS"⟩ (stack.tags.mapIdx headerLine)

def headers (stack : HeaderStack) : String := layOut (headerLines stack)

def actionLine (action : Action) : Text.Line := ⟨[action.slot.text], action.text⟩

def actionSetLines (set : ActionSet) : List Text.Line :=
  table "Action Set" ⟨["SLOT"], "ACTION"⟩ (set.toList.map actionLine)

def actionSet (set : ActionSet) : String := layOut (actionSetLines set)

theorem length_headerLines (stack : HeaderStack) :
    (headerLines stack).length = stack.size + 4 := by
  simp [headerLines, table, HeaderStack.size]

theorem length_actionSetLines (set : ActionSet) :
    (actionSetLines set).length = set.size + 4 := by
  simp [actionSetLines, table, ActionSet.size]

/-- A writer of bounded size ran out of room. -/
inductive WriteError where
  | full
deriving DecidableEq, Repr

def WriteError.message : WriteError → String
  | .full => "writer full"

/-- Write a text to a writer that holds at most `limit` bytes. -/
def writeWithin (limit : Nat) (text : String) : Except WriteError String :=
  if text.utf8ByteSize ≤ limit then .ok text else .error .full

end OpenFlow.Report
