import OpenFlow.Proofs.ActionSet.Disposition
import OpenFlow.Proofs.ActionSet.NormalForm

/-!
# Slots that come before a failure

Only decrements of a time to live can fail, and their slots come before those of the actions
that overwrite a time to live or a field and of those that hand the packet on. So the actions
up to the decrements tell whether a set fails, and all that a failing set leaves behind is
theirs: no later slot can bring about a failure, keep it from happening, or show in it.
-/
namespace OpenFlow

namespace ActionSlot

/-- The slots up to those of the decrements, in their order. -/
def untilDecrements : List ActionSlot :=
  [.copyTtlIn, .popVlan, .popMpls, .pushMpls, .pushVlan, .copyTtlOut, .decMplsTtl, .decNwTtl]

theorem mem_untilDecrements_iff {slot : ActionSlot} :
    slot ∈ untilDecrements ↔ slot < .setMplsTtl := by
  rw [lt_iff]
  cases slot <;> simp [untilDecrements, stage, detail]

theorem lt_of_lt_of_not_lt {slot early late : ActionSlot} (before : early < slot)
    (notBefore : ¬ late < slot) : early < late := by
  simp only [lt_iff_rank_lt] at *
  omega

end ActionSlot

namespace ActionSet

/-- The actions that are applied before the slot is reached. -/
def before (set : ActionSet) (slot : ActionSlot) : List Action :=
  set.toList.filter fun action => action.slot < slot

/-- The actions that are applied from the slot on. -/
def since (set : ActionSet) (slot : ActionSlot) : List Action :=
  set.toList.filter fun action => ¬ action.slot < slot

variable {set other : ActionSet} {slot : ActionSlot} {action : Action}

theorem slot_lt_of_mem_before (member : action ∈ set.before slot) : action.slot < slot := by
  simpa using (List.mem_filter.mp member).2

theorem not_slot_lt_of_mem_since (member : action ∈ set.since slot) : ¬ action.slot < slot := by
  simpa using (List.mem_filter.mp member).2

/-- A set is applied in two parts, whatever the slot it is cut at. -/
theorem before_append_since (set : ActionSet) (slot : ActionSlot) :
    set.before slot ++ set.since slot = set.toList := by
  -- Filtering keeps the order within the two parts; across the cut it is that of the slots.
  have inOrder : (set.before slot ++ set.since slot).Pairwise fun a b => a.slot < b.slot := by
    refine List.pairwise_append.mpr ⟨set.sorted.filter _, set.sorted.filter _, ?_⟩
    intro early memberEarly late memberLate
    exact ActionSlot.lt_of_lt_of_not_lt (slot_lt_of_mem_before memberEarly)
      (not_slot_lt_of_mem_since memberLate)
  refine eq_of_sorted inOrder set.sorted fun action => ?_
  by_cases early : action.slot < slot <;> simp [before, since, early]

/-- Sets that hold the same in the slots before this one apply the same actions before it. -/
theorem before_congr (same : ∀ early, early < slot → set.get? early = other.get? early) :
    set.before slot = other.before slot := by
  refine eq_of_sorted (set.sorted.filter _) (other.sorted.filter _) fun action => ?_
  simp only [before, List.mem_filter, mem_toList_iff, decide_eq_true_eq]
  constructor
  · rintro ⟨held, early⟩
    exact ⟨same action.slot early ▸ held, early⟩
  · rintro ⟨held, early⟩
    exact ⟨(same action.slot early).symm ▸ held, early⟩

end ActionSet

namespace Action

variable {action : Action}

theorem quiet_of_slot_lt (early : action.slot < .setMplsTtl) : action.dispatches = false := by
  have listed := ActionSlot.mem_untilDecrements_iff.mpr early
  rw [Action.dispatches_eq]
  cases slot : action.slot <;> simp_all [ActionSlot.untilDecrements]

theorem slot_lt_of_decrement (header : TtlHeader) :
    header.decrement.slot < .setMplsTtl := by
  cases header <;> decide

end Action

namespace Datapath

variable {datapath : Datapath} {packet : Packet} {set other : ActionSet} {error : ActionError}

/-- From the slots after the decrements on, no action can fail. -/
theorem exists_ok_of_since (datapath : Datapath) (packet : Packet) (set : ActionSet) :
    ∃ last effects, (datapath.applyList packet
      (Action.upToDispatch (set.since .setMplsTtl))).result = .ok (last, effects) := by
  refine exists_ok_of_no_decrement fun header member => ?_
  have late := (Action.upToDispatch_prefix _).subset member
  exact ActionSet.not_slot_lt_of_mem_since late (Action.slot_lt_of_decrement header)

/-- Resolving a set starts with a run over its actions up to the decrements. -/
theorem resolve_eq_append (datapath : Datapath) (packet : Packet) (set : ActionSet) :
    datapath.resolve packet set.toList = (do
      let (middle, early) ← datapath.applyList packet (set.before .setMplsTtl)
      let (last, late) ← datapath.applyList middle (Action.upToDispatch (set.since .setMplsTtl))
      pure (.ofEffects last (early ++ late))) := by
  -- The group and the output come late, so the cut at the dispatching action is in the second part.
  have quiet : ∀ action ∈ set.before .setMplsTtl, action.dispatches = false :=
    fun action member => Action.quiet_of_slot_lt (ActionSet.slot_lt_of_mem_before member)
  rw [resolve_eq_applyList, ← set.before_append_since .setMplsTtl,
    Action.upToDispatch_append_of_quiet quiet, ← Run.bind_pure_eq, applyList_append]
  simp

/-- A set fails as its actions up to the decrements do, and leaves what they leave. -/
theorem resolve_of_error
    (failed : (datapath.applyList packet (set.before .setMplsTtl)).result = .error error) :
    datapath.resolve packet set.toList =
      ⟨(datapath.applyList packet (set.before .setMplsTtl)).journal, .error error⟩ := by
  rw [resolve_eq_append, Run.bind_of_error failed]

theorem resolve_eq_error_iff :
    (datapath.resolve packet set.toList).result = .error error ↔
      (datapath.applyList packet (set.before .setMplsTtl)).result = .error error := by
  constructor
  · intro failed
    cases early : (datapath.applyList packet (set.before .setMplsTtl)).result with
    | error cause =>
      rw [resolve_of_error early] at failed
      cases failed
      rfl
    | ok value =>
      -- Once the decrements are behind, the rest of the set is resolved without a failure.
      obtain ⟨middle, effects⟩ := value
      obtain ⟨last, late, returned⟩ := datapath.exists_ok_of_since middle set
      rw [resolve_eq_append, Run.bind_of_ok early] at failed
      dsimp only at failed
      rw [Run.bind_of_ok returned] at failed
      cases failed
  · intro early
    rw [resolve_of_error early]

/-- A set that fails can be exchanged for any other with the same actions up to the decrements. -/
theorem resolve_eq_of_before (alike : set.before .setMplsTtl = other.before .setMplsTtl)
    (failed : (datapath.resolve packet set.toList).result = .error error) :
    datapath.resolve packet other.toList = datapath.resolve packet set.toList := by
  have early : (datapath.applyList packet (set.before .setMplsTtl)).result = .error error :=
    resolve_eq_error_iff.mp failed
  have earlyToo : (datapath.applyList packet (other.before .setMplsTtl)).result = .error error := by
    rwa [← alike]
  rw [resolve_of_error early, resolve_of_error earlyToo, alike]

/-- A set that fails applies no group and sends one marked copy to the controller. -/
theorem disposes_of_resolve_error (emptied : packet.actionSet = .empty)
    (failed : (datapath.resolve packet set.toList).result = .error error) :
    datapath.Disposes set (datapath.resolve packet set.toList).journal (.error error) := by
  rw [resolve_eq_applyList] at failed ⊢
  exact disposes_of_error emptied (Run.map_eq_error_iff.mp failed)

/-- Whether a set fails, and on which header, is told by its slots up to the decrements. Sets that
agree in these leave the same journal when they fail: the packet is sent to the controller once,
as the same copy, and no group is applied. -/
theorem failure_told_by_early_slots (datapath : Datapath) (packet : Packet)
    (set other : ActionSet)
    (same : ∀ slot ∈ ActionSlot.untilDecrements, set.get? slot = other.get? slot) :
    let run := datapath.applySet { packet with actionSet := set }
    let twin := datapath.applySet { packet with actionSet := other }
    (∀ error, run.result = .error error ↔ twin.result = .error error) ∧
    ∀ error, run.result = .error error →
      run.journal = twin.journal ∧ run.journal.groups = [] ∧
      ∃ copy, run.journal.attempts = [(datapath.config.controller, copy)] ∧
        copy.packetInReason = some .invalidTtl ∧ copy.actionSet = .empty := by
  intro run twin
  have alike : set.before .setMplsTtl = other.before .setMplsTtl :=
    ActionSet.before_congr fun slot early =>
      same slot (ActionSlot.mem_untilDecrements_iff.mpr early)
  refine ⟨fun error => ⟨fun failed => ?_, fun failed => ?_⟩, fun error failed => ?_⟩
  · exact (congrArg Run.result (resolve_eq_of_before alike failed)).trans failed
  · exact (congrArg Run.result (resolve_eq_of_before alike.symm failed)).trans failed
  · -- Both runs start from the packet with its set emptied.
    have exchanged : twin = run := resolve_eq_of_before alike failed
    obtain ⟨copy, groups, attempts, reason, emptied⟩ := disposes_of_resolve_error rfl failed
    exact ⟨congrArg Run.journal exchanged.symm, groups, copy, attempts, reason, emptied⟩

/-- Neither the time to live that one set would write nor the group of the other is reached: with
no time to live left, both fail at the label that was pushed onto the packet. -/
theorem failure_told_by_early_slots_unset_ttl :
    let packet := Sample.packet [Sample.ether, Sample.ipv4 0]
    let set := ActionSet.ofList [.output (.number 3), .setMplsTtl 64, .setNwTtl 64, .decMplsTtl,
      .pushMpls EtherType.mpls]
    let other := ActionSet.ofList [.decMplsTtl, .group ⟨7⟩, .setField (.ipDscp 9), .setQueue 4,
      .pushMpls EtherType.mpls]
    let run := applySet {} { packet with actionSet := set }
    let twin := applySet {} { packet with actionSet := other }
    (∀ slot ∈ ActionSlot.untilDecrements, set.get? slot = other.get? slot) ∧
    run.result = .error (.invalidTtl .mpls) ∧ twin.result = .error (.invalidTtl .mpls) ∧
    run.journal = twin.journal ∧ run.journal.groups = [] := by
  intro packet set other run twin
  have same : ∀ slot ∈ ActionSlot.untilDecrements, set.get? slot = other.get? slot := by decide
  have failed : run.result = .error (.invalidTtl .mpls) := rfl
  obtain ⟨fails, leaves⟩ := failure_told_by_early_slots {} packet set other same
  obtain ⟨journal, groups, -⟩ := leaves _ failed
  exact ⟨same, failed, (fails _).mp failed, journal, groups⟩

end Datapath

end OpenFlow
