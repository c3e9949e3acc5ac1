import OpenFlow.Proofs.ActionList.Shown
import OpenFlow.Proofs.ActionSet.Refinement

/-!
# What a resolution shows

Resolving an action set shows the packet it drops or hands on, and those that ports and groups
were handed on the way. It applies the actions of the set as an action list does, so it
shows nothing but what the run over that list shows.
-/
namespace OpenFlow

/-- The packet that is dropped, or the one that was handed on. -/
def Resolution.packet : Resolution → Packet
  | .drop packet => packet
  | .effect last => last.packet

/-- The property holds of the packet that the resolution ends with and of all that it hands to a
port, whether or not the port takes them, or to a group. -/
structure Run.ResolvesOnly (holds : Packet → Prop) (run : Run Resolution) : Prop where
  resolved : ∀ resolution, run.result = .ok resolution → holds resolution.packet
  attempted : ∀ handed ∈ run.journal.attempts, holds handed.2
  grouped : ∀ handed ∈ run.journal.groups, holds handed.2

namespace Datapath

variable {datapath : Datapath} {packet : Packet} {holds : Packet → Prop}

/-- Resolving a set ends with the packet that the run over its actions ends with. -/
theorem map_packet_of_applySet (datapath : Datapath) (packet : Packet) :
    (datapath.applySet packet).result.map Resolution.packet =
      (datapath.applyList { packet with actionSet := .empty }
        (Action.upToDispatch packet.actionSet.toList)).result.map Prod.fst := by
  rw [applySet, resolve_eq_applyList]
  cases succeeded : (datapath.applyList { packet with actionSet := .empty }
      (Action.upToDispatch packet.actionSet.toList)).result with
  | error error => rfl
  | ok returned =>
    obtain ⟨last, effects⟩ := returned
    -- Either nothing was handed on, or the packet was, by the last action that was applied.
    rcases Action.upToDispatch_cases packet.actionSet.toList with
      quiet | ⟨before, action, cut, quiet, dispatching⟩
    · obtain rfl := effects_eq_nil_of_quiet quiet succeeded
      rfl
    · rw [cut] at succeeded
      obtain ⟨effect, rfl, held⟩ := effects_eq_singleton_of_dispatch quiet dispatching succeeded
      exact congrArg Except.ok held

theorem resolvesOnly_of_showsOnly
    (shows : (datapath.applyList { packet with actionSet := .empty }
      (Action.upToDispatch packet.actionSet.toList)).ShowsOnly holds) :
    (datapath.applySet packet).ResolvesOnly holds := by
  have journal : (datapath.applySet packet).journal =
      (datapath.applyList { packet with actionSet := .empty }
        (Action.upToDispatch packet.actionSet.toList)).journal := by
    rw [applySet, resolve_eq_applyList]
  refine ⟨?_, journal ▸ shows.attempted, journal ▸ shows.grouped⟩
  intro resolution succeeded
  have ended := map_packet_of_applySet datapath packet
  rw [succeeded] at ended
  obtain ⟨⟨last, effects⟩, returned, same⟩ := Run.map_eq_ok_iff.mp ended.symm
  rw [← same]
  exact shows.returned last effects returned

theorem resolvesOnly_of_applySet
    (kept : ∀ action ∈ packet.actionSet.toList, ∀ packet next : Packet, holds packet →
      action.transform datapath.config.vlanDefaults packet = .ok next → holds next)
    (marked : ∀ packet, holds packet → holds { packet with packetInReason := some .invalidTtl })
    (initial : holds { packet with actionSet := .empty }) :
    (datapath.applySet packet).ResolvesOnly holds := by
  apply resolvesOnly_of_showsOnly
  apply showsOnly_of_applyList _ marked initial
  intro action member
  exact kept action ((Action.upToDispatch_prefix _).subset member)

end Datapath

end OpenFlow
