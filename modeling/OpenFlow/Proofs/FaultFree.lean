import OpenFlow.Proofs.ActionSet.Shown
import OpenFlow.Proofs.Header.LabelStacks

/-!
# No access fails

Each action of a run finds its tags and labels by position, and lowers a time to live by
subtraction. The headers of a packet whose MPLS tags can be built go through all this without
a fault: they are header stacks at every stage of the run, and on header stacks each access
is in bounds.
-/
namespace OpenFlow

/-- The walk ends as it should, with an action that fails or with headers, but not in a fault,
and on its way there is no MPLS tag without labels. -/
structure Walk.EndsIn (walk : Walk) (result : Except ActionError Packet) : Prop where
  outcome : walk.outcome = Checked.ofResult (result.map fun last => last.headers.raw)
  faultless : ∀ fault, walk.outcome ≠ .error (.fault fault)
  labelled : ∀ stage ∈ walk.stages, stage.Labelled

namespace RawStack

variable {defaults : VlanDefaults} {packet next : Packet} {action : Action} {actions : List Action}

theorem walk_raw_of_error {error : ActionError}
    (failed : action.transform defaults packet = .error error) :
    packet.headers.raw.walk defaults (action :: actions) =
      ⟨[packet.headers.raw], .error (.failed error)⟩ := by
  have stopped := action.onHeaders_raw defaults packet
  rw [failed] at stopped
  simp only [walk, stopped]
  rfl

theorem walk_raw_of_ok (moved : action.transform defaults packet = .ok next) :
    packet.headers.raw.walk defaults (action :: actions) =
      ⟨packet.headers.raw :: (next.headers.raw.walk defaults actions).stages,
        (next.headers.raw.walk defaults actions).outcome⟩ := by
  have advanced := action.onHeaders_raw defaults packet
  rw [moved] at advanced
  simp only [walk, advanced]
  rfl

/-- Every stage is a header stack again. -/
theorem exists_raw_of_mem_walk {stage : RawStack}
    (member : stage ∈ (packet.headers.raw.walk defaults actions).stages) :
    ∃ headers : HeaderStack, headers.raw = stage := by
  -- The rest of the walk starts from the headers of the next packet.
  induction actions generalizing packet with
  | nil => exact ⟨packet.headers, (List.mem_singleton.mp member).symm⟩
  | cons action rest ih =>
    cases moved : action.transform defaults packet with
    | error error =>
      rw [walk_raw_of_error moved] at member
      exact ⟨packet.headers, (List.mem_singleton.mp member).symm⟩
    | ok next =>
      rw [walk_raw_of_ok moved] at member
      rcases List.mem_cons.mp member with first | later
      · exact ⟨packet.headers, first.symm⟩
      · exact ih later

end RawStack

namespace Datapath

variable {datapath : Datapath} {packet : Packet} {actions : List Action}

theorem outcome_walk (datapath : Datapath) (packet : Packet) (actions : List Action) :
    (packet.headers.raw.walk datapath.config.vlanDefaults actions).outcome =
      Checked.ofResult (((datapath.applyList packet actions).result.map Prod.fst).map
        fun last => last.headers.raw) := by
  -- An action fails on both or on neither, and then both stop.
  induction actions generalizing packet with
  | nil => rfl
  | cons action rest ih =>
    cases moved : action.transform datapath.config.vlanDefaults packet with
    | error error =>
      rw [RawStack.walk_raw_of_error moved, applyList_cons_of_error moved]
      rfl
    | ok next =>
      rw [RawStack.walk_raw_of_ok moved, applyList_cons_of_ok moved, ih]
      cases (datapath.applyList next rest).result <;> rfl

theorem showsOnly_stages (datapath : Datapath) (packet : Packet) (actions : List Action) :
    (datapath.applyList packet actions).ShowsOnly fun shown => shown.headers.raw ∈
      (packet.headers.raw.walk datapath.config.vlanDefaults actions).stages := by
  induction actions generalizing packet with
  | nil =>
    apply showsOnly_nil
    exact List.mem_singleton_self packet.headers.raw
  | cons action rest ih =>
    cases moved : action.transform datapath.config.vlanDefaults packet with
    | error error =>
      apply showsOnly_of_error moved
      rw [RawStack.walk_raw_of_error moved]
      exact List.mem_singleton_self packet.headers.raw
    | ok next =>
      rw [RawStack.walk_raw_of_ok moved]
      apply showsOnly_of_ok moved
      · exact List.mem_cons_self
      · -- The stages of the rest are stages of the whole.
        apply (ih next).mono
        intro shown later
        exact List.mem_cons_of_mem packet.headers.raw later

theorem endsIn_walk (datapath : Datapath) (packet : Packet) (actions : List Action) :
    (packet.headers.raw.walk datapath.config.vlanDefaults actions).EndsIn
      ((datapath.applyList packet actions).result.map Prod.fst) := by
  have ended := outcome_walk datapath packet actions
  refine ⟨ended, ?_, ?_⟩
  · intro fault faulty
    rw [ended] at faulty
    cases returned : (datapath.applyList packet actions).result with
    | error error => simp [returned, Except.map] at faulty
    | ok last => simp [returned, Except.map] at faulty
  · intro stage member
    obtain ⟨headers, rfl⟩ := RawStack.exists_raw_of_mem_walk member
    exact (RawStack.built_raw headers).labelled

/-- No label stack that can be built is empty, and looking at its outermost label and changing it
never fails. Stacks of headers that are built with such tags are those of packets, and an action
list and an action set go through them without a fault: every position they access is within
bounds, every time to live they lower is positive, and every MPLS tag in what they return, report
and hand on has a label. -/
theorem accesses_stay_in_bounds (datapath : Datapath) :
    (∀ tag : RawMpls, tag.Reachable → tag.labels ≠ [] ∧ (∃ entry, tag.outermost = .ok entry) ∧
      ∀ change, ∃ after, tag.edit change = .ok after) ∧
    ∀ stack : RawStack, stack.Built → (∃ headers : HeaderStack, headers.raw = stack) ∧
      ∀ (packet : Packet) (actions : List Action), packet.headers.raw = stack →
        let defaults := datapath.config.vlanDefaults
        let listed := datapath.applyList packet actions
        let listWalk := stack.walk defaults actions
        let resolved := datapath.applySet packet
        let setWalk := stack.walk defaults (Action.upToDispatch packet.actionSet.toList)
        listWalk.EndsIn (listed.result.map Prod.fst) ∧
        listed.ShowsOnly (fun shown => shown.headers.raw ∈ listWalk.stages) ∧
        setWalk.EndsIn (resolved.result.map Resolution.packet) ∧
        resolved.ResolvesOnly fun shown => shown.headers.raw ∈ setWalk.stages := by
  constructor
  · intro tag reachable
    exact ⟨reachable.labels_ne_nil, reachable.exists_outermost, reachable.exists_edit⟩
  · intro stack built
    refine ⟨built.exists_raw, ?_⟩
    rintro packet actions rfl defaults listed listWalk resolved setWalk
    refine ⟨endsIn_walk datapath packet actions, showsOnly_stages datapath packet actions, ?_, ?_⟩
    · -- A set is resolved as the list of its actions runs, from the packet with the set emptied.
      simp only [resolved, map_packet_of_applySet]
      exact endsIn_walk datapath { packet with actionSet := .empty } _
    · apply resolvesOnly_of_showsOnly
      exact showsOnly_stages datapath { packet with actionSet := .empty } _

/-- The only label is popped with its tag, and then there is none to pop. A new one is pushed, with
a time to live that can be lowered once. -/
theorem accesses_stay_in_bounds_last_label :
    let datapath : Datapath := {}
    let label : MplsTag := .single EtherType.mpls ⟨7, 0, true, 1⟩
    let packet :=
      { Sample.packet [Sample.ether, .mpls label, Sample.ipv4 1] with
        actionSet := .ofList [.popMpls, .group ⟨7⟩] }
    let actions := [.popMpls, .popMpls, .pushMpls EtherType.mpls, .copyTtlOut, .decMplsTtl,
      .decMplsTtl]
    let stack := packet.headers.raw
    let walk := stack.walk datapath.config.vlanDefaults actions
    label.raw.Reachable ∧ stack.Built ∧
    walk.stages.map List.length = [3, 2, 2, 3, 3, 3] ∧
    walk.outcome = .error (.failed (.invalidTtl .mpls)) ∧
    (∀ stage ∈ walk.stages, stage.Labelled) ∧
    (∃ after, label.raw.edit .pop = .ok after) ∧
    (stack.walk datapath.config.vlanDefaults [.popMpls, .group ⟨7⟩]).EndsIn
      ((datapath.applySet packet).result.map Resolution.packet) := by
  intro datapath label packet actions stack walk
  have reachable : label.raw.Reachable := .single _ _
  have built : stack.Built := RawStack.built_raw packet.headers
  obtain ⟨tags, started⟩ := accesses_stay_in_bounds datapath
  obtain ⟨-, -, changes⟩ := tags label.raw reachable
  obtain ⟨-, runs⟩ := started stack built
  obtain ⟨listed, -, resolved, -⟩ := runs packet actions rfl
  exact ⟨reachable, built, by decide +kernel, rfl, listed.labelled, changes .pop, resolved⟩

/-- A tag without labels would not get through. -/
example :
    (RawStack.walk {} [.mpls ⟨EtherType.mpls, []⟩] [.decMplsTtl]).outcome =
      .error (.fault .position) := by
  rfl

end Datapath

end OpenFlow
