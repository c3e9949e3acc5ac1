import OpenFlow.Config
import OpenFlow.Diagnostic.ErrorValue
import OpenFlow.Packet

/-!
# What a run leaves behind

The engine acts on its surroundings in four ways: it sends a packet to a port,
which may refuse it, runs a packet through a group, and writes to a log. A
journal lists these events in the order they happened.
-/
namespace OpenFlow

inductive LogLevel where
  | note
  | warn
  | error
deriving DecidableEq, Repr

def LogLevel.text : LogLevel → String
  | .note => "[NOTE]"
  | .warn => "[WARN]"
  | .error => "[ERROR]"

inductive Event where
  | sent (dst : PortNo) (packet : Packet)
  | refused (dst : PortNo) (packet : Packet)
  | applied (group : GroupId) (packet : Packet)
  | logged (level : LogLevel) (message : String)
  | printed (line : String)
deriving DecidableEq, Repr

abbrev Journal : Type := List Event

namespace Journal

def sends (journal : Journal) : List (PortNo × Packet) :=
  journal.filterMap fun
    | .sent dst packet => some (dst, packet)
    | _ => none

/-- Every packet handed to a port, whether or not the port took it. -/
def attempts (journal : Journal) : List (PortNo × Packet) :=
  journal.filterMap fun
    | .sent dst packet | .refused dst packet => some (dst, packet)
    | _ => none

/-- The packets sent to a port; a different port with the same number on the wire does not count. -/
def sentTo (journal : Journal) (port : PortNo) : List Packet :=
  (journal.sends.filter fun entry => entry.1 = port).map Prod.snd

def groups (journal : Journal) : List (GroupId × Packet) :=
  journal.filterMap fun
    | .applied group packet => some (group, packet)
    | _ => none

def log (journal : Journal) : List (LogLevel × String) :=
  journal.filterMap fun
    | .logged level message => some (level, message)
    | _ => none

@[simp]
theorem sends_append (first second : Journal) :
    sends (first ++ second) = first.sends ++ second.sends :=
  List.filterMap_append

@[simp]
theorem attempts_append (first second : Journal) :
    attempts (first ++ second) = first.attempts ++ second.attempts :=
  List.filterMap_append

@[simp]
theorem groups_append (first second : Journal) :
    groups (first ++ second) = first.groups ++ second.groups :=
  List.filterMap_append

@[simp]
theorem log_append (first second : Journal) : log (first ++ second) = first.log ++ second.log :=
  List.filterMap_append

/-- All that was printed, each message on a line of its own. -/
def printed (journal : Journal) : String :=
  String.join (journal.map fun
    | .printed line => line ++ "\n"
    | _ => "")

@[simp]
theorem printed_append (first second : Journal) :
    printed (first ++ second) = first.printed ++ second.printed := by
  simp only [printed, List.map_append, String.join_append]

end Journal

/-- Where log messages go. -/
inductive Logger where
  | record
  | print
  | discard
deriving DecidableEq, Repr

def Logger.log (logger : Logger) (level : LogLevel) (message : String) : Journal :=
  match logger with
  | .record => [.logged level message]
  | .print => [.printed (level.text ++ " " ++ message)]
  | .discard => []

/-- Logging hands no packet on. -/
@[simp]
theorem Logger.views_log (logger : Logger) (level : LogLevel) (message : String) :
    Journal.sends (logger.log level message) = [] ∧
    Journal.attempts (logger.log level message) = [] ∧
    Journal.groups (logger.log level message) = [] := by
  cases logger <;> exact ⟨rfl, rfl, rfl⟩

theorem Logger.level_of_mem_log {logger : Logger} {level : LogLevel} {message : String}
    {entry : LogLevel × String} (member : entry ∈ Journal.log (logger.log level message)) :
    entry.1 = level := by
  cases logger
  case record => rw [List.mem_singleton.mp member]
  all_goals cases member

/-- The surroundings of a run: its configuration, the ports that refuse packets, and the log. -/
structure Datapath where
  config : Config := {}
  badPorts : List PortNo := []
  logger : Logger := .record
deriving DecidableEq, Repr

namespace Datapath

/-- Ports are told apart by their numbers on the wire. -/
def refuses (datapath : Datapath) (port : PortNo) : Bool :=
  datapath.badPorts.any fun bad => bad.wire = port.wire

theorem refuses_iff {datapath : Datapath} {port : PortNo} :
    datapath.refuses port = true ↔ ∃ bad ∈ datapath.badPorts, bad.wire = port.wire := by
  simp [refuses]

/-- Hand a packet to a port; a refusal is logged and otherwise ignored. -/
def transmit (datapath : Datapath) (port : PortNo) (packet : Packet) : Journal :=
  if datapath.refuses port then
    .refused port packet :: datapath.logger.log .warn
      ("output to " ++ port.text ++ ": " ++ (SendError.badPort port).message)
  else [.sent port packet]

@[simp]
theorem groups_transmit (datapath : Datapath) (port : PortNo) (packet : Packet) :
    Journal.groups (datapath.transmit port packet) = [] := by
  unfold transmit
  split
  · cases datapath.logger <;> rfl
  · rfl

@[simp]
theorem attempts_transmit (datapath : Datapath) (port : PortNo) (packet : Packet) :
    Journal.attempts (datapath.transmit port packet) = [(port, packet)] := by
  unfold transmit
  split
  · cases datapath.logger <;> rfl
  · rfl

theorem sends_transmit (datapath : Datapath) (port : PortNo) (packet : Packet) :
    Journal.sends (datapath.transmit port packet) =
      if datapath.refuses port then [] else [(port, packet)] := by
  unfold transmit
  split
  · cases datapath.logger <;> rfl
  · rfl

theorem level_of_mem_log_transmit {datapath : Datapath} {port : PortNo} {packet : Packet}
    {entry : LogLevel × String} (member : entry ∈ Journal.log (datapath.transmit port packet)) :
    entry.1 = .warn := by
  unfold transmit at member
  split at member
  · cases logger : datapath.logger <;> simp_all [Logger.log, Journal.log]
  · cases member

/-- A recorded transmission leaves one event, or two when the port refuses the packet. -/
theorem transmit_eq_of_recording {datapath : Datapath} (recording : datapath.logger = .record)
    (port : PortNo) (packet : Packet) :
    datapath.transmit port packet =
      if ∃ bad ∈ datapath.badPorts, bad.wire = port.wire then
        [.refused port packet, .logged .warn
          ("output to " ++ port.text ++ ": " ++ (SendError.badPort port).message)]
      else [.sent port packet] := by
  simp only [transmit, refuses_iff, recording, Logger.log]

end Datapath

end OpenFlow
