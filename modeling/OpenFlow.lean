import OpenFlow.Document.Action
import OpenFlow.Engine.Resolution
import OpenFlow.Report
import OpenFlow.Sample
import OpenFlow.Proofs.ActionList.Sequencing
import OpenFlow.Proofs.ActionList.Exhaustion
import OpenFlow.Proofs.ActionList.Dispatch
import OpenFlow.Proofs.ActionSet.Refinement
import OpenFlow.Proofs.ActionSet.Disposition
import OpenFlow.Proofs.Header.CopyTtl
import OpenFlow.Proofs.Header.Encapsulation
import OpenFlow.Proofs.ActionList.Bracket
import OpenFlow.Proofs.Header.Kinds
import OpenFlow.Proofs.ActionList.Layering
import OpenFlow.Proofs.Noninterference
import OpenFlow.Proofs.Header.Rewriting
import OpenFlow.Proofs.ActionSet.Assignment
import OpenFlow.Proofs.ActionSet.SlotMap
import OpenFlow.Proofs.Document.RoundTrip
import OpenFlow.Proofs.Document.HeaderForm
import OpenFlow.Proofs.ActionSet.NormalForm
import OpenFlow.Proofs.Header.Retiming
import OpenFlow.Proofs.ActionList.Shape
import OpenFlow.Proofs.ActionList.Conservation
import OpenFlow.Proofs.ActionList.BottomOfStack
import OpenFlow.Proofs.ActionList.TtlBound
import OpenFlow.Proofs.ActionSet.Shown
import OpenFlow.Proofs.FieldRange
import OpenFlow.Proofs.ActionList.Absence
import OpenFlow.Proofs.Carried
import OpenFlow.Proofs.Header.LabelStacks
import OpenFlow.Proofs.FaultFree
import OpenFlow.Proofs.ActionSet.EarlySlots
import OpenFlow.Proofs.ActionList.TtlBudget
import OpenFlow.Proofs.ActionList.RepeatedCopy
import OpenFlow.Proofs.Header.SingleSlot
import OpenFlow.Proofs.Header.FieldWrites
import OpenFlow.Proofs.ActionList.RepeatedPush
import OpenFlow.Proofs.Header.Lookup
import OpenFlow.Proofs.Diagnostic.Truncation
import OpenFlow.Proofs.Header.InPlace
import OpenFlow.Proofs.Address.Ipv4
import OpenFlow.Proofs.Address.Mac
import OpenFlow.Proofs.Address.RoundTrip
import OpenFlow.Proofs.Action.Text
import OpenFlow.Proofs.Report.Titles
import OpenFlow.Proofs.Address.Order
import OpenFlow.Proofs.WireNumber
