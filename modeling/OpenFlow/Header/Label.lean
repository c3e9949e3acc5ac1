/-!
# MPLS label stacks

An MPLS tag holds one label or more, outermost first. The outermost label is
kept apart from the others, so a tag without labels cannot be written down.
-/
namespace OpenFlow

/-- A label with its traffic class, bottom-of-stack bit and time to live. -/
structure LabelEntry where
  label : UInt32
  tc : UInt8
  bos : Bool
  ttl : UInt8
deriving DecidableEq, Repr, Inhabited

structure MplsTag where
  etherType : UInt16
  outermost : LabelEntry
  inner : List LabelEntry
deriving DecidableEq, Repr

namespace MplsTag

def single (etherType : UInt16) (entry : LabelEntry) : MplsTag := ⟨etherType, entry, []⟩

def entries (tag : MplsTag) : List LabelEntry := tag.outermost :: tag.inner

def ofEntries? (etherType : UInt16) : List LabelEntry → Option MplsTag
  | [] => none
  | outermost :: inner => some ⟨etherType, outermost, inner⟩

def size (tag : MplsTag) : Nat := tag.entries.length

def push (tag : MplsTag) (entry : LabelEntry) : MplsTag :=
  { tag with outermost := entry, inner := tag.entries }

theorem entries_push (tag : MplsTag) (entry : LabelEntry) :
    (tag.push entry).entries = entry :: tag.entries := rfl

/-- The removed label and the tag without it, unless it is the only label. -/
def pop? (tag : MplsTag) : Option (LabelEntry × MplsTag) :=
  match tag.inner with
  | [] => none
  | next :: others => some (tag.outermost, { tag with outermost := next, inner := others })

theorem pop?_push (tag : MplsTag) (entry : LabelEntry) :
    (tag.push entry).pop? = some (entry, tag) := rfl

/-- Overwrite the outermost label. -/
def withOutermost (tag : MplsTag) (entry : LabelEntry) : MplsTag :=
  { tag with outermost := entry }

/-- Overwrite the label at a position; a position past the end changes nothing. -/
def withEntry (tag : MplsTag) (index : Nat) (entry : LabelEntry) : MplsTag :=
  match index with
  | 0 => tag.withOutermost entry
  | index + 1 => { tag with inner := tag.inner.set index entry }

end MplsTag

end OpenFlow
