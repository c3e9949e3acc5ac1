import OpenFlow.Proofs.ActionList.Sequencing
import OpenFlow.Sample

/-!
# Exhausted times to live

A run over an action list fails exactly when it reaches a decrement of a time to
live that is zero by then. The point of failure is unique. Everything before it
has happened, the packet is redirected to the controller once as it stands
there, and nothing after it happens.
-/
namespace OpenFlow.Datapath

/-- The run gets through `before` to a decrement of a time to live that has run out. -/
structure ExhaustedAt (datapath : Datapath) (packet : Packet) (actions : List Action)
    (header : TtlHeader) (before after : List Action) (reached : Packet) : Prop where
  split : actions = before ++ header.decrement :: after
  reaches : ∃ effects, (datapath.applyList packet before).result = .ok (reached, effects)
  exhausted : reached.headers.ttl? header = some 0

variable {datapath : Datapath} {packet reached reached' : Packet}
variable {actions before after before' after' : List Action} {header header' : TtlHeader}

/-- A packet whose time to live has run out is handed to the controller with its headers as they
were. -/
theorem attempts_decrement_of_exhausted (exhausted : packet.headers.ttl? header = some 0) :
    (datapath.applyAction header.decrement packet).journal.attempts =
      [(datapath.config.controller, { packet with packetInReason := some .invalidTtl })] := by
  rw [applyAction_of_error (Action.transform_decrement_of_exhausted exhausted)]
  exact datapath.attempts_redirect _ packet

theorem ExhaustedAt.applyList_eq
    (point : datapath.ExhaustedAt packet actions header before after reached) :
    datapath.applyList packet actions =
      ⟨(datapath.applyList packet before).journal ++
        datapath.redirect (.invalidTtl header) reached, .error (.invalidTtl header)⟩ := by
  obtain ⟨rfl, ⟨effects, reaches⟩, exhausted⟩ := point
  rw [applyList_append_of_ok reaches,
    applyList_cons_of_error (Action.transform_decrement_of_exhausted exhausted)]
  rfl

/-- The copy for the controller is the last that a failed run hands to a port. -/
theorem ExhaustedAt.attempts_eq
    (point : datapath.ExhaustedAt packet actions header before after reached) :
    (datapath.applyList packet actions).journal.attempts =
      (datapath.applyList packet before).journal.attempts ++
        [(datapath.config.controller, { reached with packetInReason := some .invalidTtl })] := by
  rw [point.applyList_eq, Journal.attempts_append, attempts_redirect]

/-- A failed run has a point of failure: the first action of the list that fails. -/
theorem exists_exhaustedAt {error : ActionError}
    (failed : (datapath.applyList packet actions).result = .error error) :
    ∃ header before after reached, error = .invalidTtl header ∧
      datapath.ExhaustedAt packet actions header before after reached := by
  induction actions generalizing packet with
  | nil => cases failed
  | cons action rest ih =>
    cases moved : action.transform datapath.config.vlanDefaults packet with
    | error cause =>
      -- The first action fails: the run stops before it has gone through anything.
      rw [applyList_cons_of_error moved] at failed
      cases failed
      obtain ⟨header, rfl, rfl, exhausted⟩ := Action.transform_eq_error_iff.mp moved
      exact ⟨header, [], rest, packet, rfl, rfl, ⟨[], rfl⟩, exhausted⟩
    | ok next =>
      -- The rest fails: its point of failure is that of the whole list, one action further in.
      have later : (datapath.applyList next rest).result = .error error := by
        rw [applyList_cons_of_ok moved] at failed
        exact Run.map_eq_error_iff.mp failed
      obtain ⟨header, before, after, reached, rfl, split, ⟨effects, reaches⟩, exhausted⟩ :=
        ih later
      refine ⟨header, action :: before, after, reached, rfl, ?_, ?_, exhausted⟩
      · rw [split, List.cons_append]
      · refine ⟨action.effects packet ++ effects, ?_⟩
        rw [applyList_cons_of_ok moved, reaches]
        rfl

/-- A run gets through its list or to a point of failure. -/
theorem exists_ok_or_exhaustedAt (datapath : Datapath) (packet : Packet) (actions : List Action) :
    (∃ last effects, (datapath.applyList packet actions).result = .ok (last, effects)) ∨
    ∃ header before after reached,
      datapath.ExhaustedAt packet actions header before after reached := by
  cases returned : (datapath.applyList packet actions).result with
  | ok value => exact .inl ⟨value.1, value.2, rfl⟩
  | error error =>
    obtain ⟨header, before, after, reached, -, point⟩ := exists_exhaustedAt returned
    exact .inr ⟨header, before, after, reached, point⟩

/-- Only decrements fail, so a list without them is run to its end. -/
theorem exists_ok_of_no_decrement (none : ∀ header, TtlHeader.decrement header ∉ actions) :
    ∃ last effects, (datapath.applyList packet actions).result = .ok (last, effects) := by
  rcases exists_ok_or_exhaustedAt datapath packet actions with
    through | ⟨header, before, after, reached, point⟩
  · exact through
  · exact absurd (by simp [point.split]) (none header)

/-- A run that gets to a point of failure does not get past it. -/
theorem ExhaustedAt.eq_nil_of_append {more : List Action}
    (point : datapath.ExhaustedAt packet actions header before after reached)
    (other : datapath.ExhaustedAt packet actions header' (before ++ more) after' reached') :
    more = [] := by
  cases more with
  | nil => rfl
  | cons action more =>
    -- The other run would have to get past the decrement that `point` stops at.
    have splits := point.split.symm.trans other.split
    simp only [List.append_assoc, List.cons_append, List.append_cancel_left_eq,
      List.cons.injEq] at splits
    obtain ⟨rfl, -⟩ := splits
    have stuck : datapath.ExhaustedAt packet (before ++ header.decrement :: more)
        header before more reached := ⟨rfl, point.reaches, point.exhausted⟩
    obtain ⟨effects, reaches⟩ := other.reaches
    rw [stuck.applyList_eq] at reaches
    cases reaches

theorem ExhaustedAt.unique
    (point : datapath.ExhaustedAt packet actions header before after reached)
    (other : datapath.ExhaustedAt packet actions header' before' after' reached') :
    header' = header ∧ before' = before ∧ after' = after ∧ reached' = reached := by
  have same : before' = before := by
    -- One of the two parts is the beginning of the other.
    rcases List.append_eq_append_iff.mp (point.split.symm.trans other.split) with
      ⟨more, longer, -⟩ | ⟨more, longer, -⟩
    · subst longer
      rw [point.eq_nil_of_append other, List.append_nil]
    · subst longer
      rw [other.eq_nil_of_append point, List.append_nil]
  subst same
  -- The same beginning reaches the same packet, since a run has one result.
  have tails := point.split.symm.trans other.split
  simp only [List.append_cancel_left_eq, List.cons.injEq] at tails
  obtain ⟨effects, reaches⟩ := point.reaches
  obtain ⟨effects', reaches'⟩ := other.reaches
  rw [reaches] at reaches'
  cases reaches'
  exact ⟨(TtlHeader.decrement_injective tails.1).symm, rfl, tails.2.symm, rfl⟩

theorem redirect_eq_of_recording (recording : datapath.logger = .record) (header : TtlHeader)
    (packet : Packet) :
    datapath.redirect (.invalidTtl header) packet =
      .logged .note ("InvalidTtl/" ++ header.value.name ++ ": packet from port "
          ++ packet.inPort.text ++ " sent to " ++ datapath.config.controller.text) ::
        datapath.transmit datapath.config.controller
          { packet with packetInReason := some .invalidTtl } := by
  simp only [redirect, recording, Logger.log, List.singleton_append]
  cases header <;> rfl

/-- A run fails on a header exactly when it gets to a decrement of that header with a time to
live of zero. There is only one such point, and the journal is the one of the run up to it,
followed by one note and one attempt to send the packet to the controller. -/
theorem applyList_eq_invalidTtl_iff (datapath : Datapath) (recording : datapath.logger = .record)
    (packet : Packet) (actions : List Action) (header : TtlHeader) :
    ((datapath.applyList packet actions).result = .error (.invalidTtl header) ↔
      ∃ before after reached,
        datapath.ExhaustedAt packet actions header before after reached) ∧
    ∀ before after reached, datapath.ExhaustedAt packet actions header before after reached →
      (∀ header' before' after' reached',
        datapath.ExhaustedAt packet actions header' before' after' reached' →
          header' = header ∧ before' = before ∧ after' = after ∧ reached' = reached) ∧
      (datapath.applyList packet actions).journal =
        (datapath.applyList packet before).journal ++
          .logged .note ("InvalidTtl/" ++ header.value.name ++ ": packet from port "
            ++ reached.inPort.text ++ " sent to " ++ datapath.config.controller.text) ::
          let dst := datapath.config.controller
          let copy := { reached with packetInReason := some .invalidTtl }
          if ∃ bad ∈ datapath.badPorts, bad.wire = dst.wire then
            [.refused dst copy, .logged .warn
              ("output to " ++ dst.text ++ ": " ++ (SendError.badPort dst).message)]
          else [.sent dst copy] := by
  refine ⟨⟨fun failed => ?_, ?_⟩, fun before after reached point => ⟨?_, ?_⟩⟩
  · obtain ⟨header', before, after, reached, named, point⟩ := exists_exhaustedAt failed
    cases named
    exact ⟨before, after, reached, point⟩
  · rintro ⟨before, after, reached, point⟩
    rw [point.applyList_eq]
  · intro header' before' after' reached' other
    exact point.unique other
  · rw [point.applyList_eq, redirect_eq_of_recording recording, transmit_eq_of_recording recording]

/-- The second decrement runs out; the refused redirect is the last that happens. -/
theorem applyList_eq_invalidTtl_second_decrement :
    let datapath : Datapath := { badPorts := [.number 0xFFFFFFFD] }
    let reached := Sample.packet [Sample.ether, Sample.ipv4 0]
    let actions := [.decNwTtl, .output (.number 3), .decNwTtl, .output (.number 4)]
    let run := datapath.applyList (Sample.packet [Sample.ether, Sample.ipv4 1]) actions
    run.result = .error (.invalidTtl .ipv4) ∧
    run.journal = [.sent (.number 3) reached,
      .logged .note "InvalidTtl/Ipv4: packet from port 1 sent to controller",
      .refused .controller { reached with packetInReason := some .invalidTtl },
      .logged .warn "output to controller: no such port: controller"] := by
  intro datapath reached actions run
  have point : datapath.ExhaustedAt (Sample.packet [Sample.ether, Sample.ipv4 1]) actions .ipv4
      [.decNwTtl, .output (.number 3)] [.output (.number 4)] reached :=
    ⟨rfl, ⟨[.output (.number 3) reached], rfl⟩, rfl⟩
  obtain ⟨fails, records⟩ := applyList_eq_invalidTtl_iff datapath rfl
    (Sample.packet [Sample.ether, Sample.ipv4 1]) actions .ipv4
  exact ⟨fails.mpr ⟨_, _, _, point⟩, (records _ _ _ point).2⟩

end OpenFlow.Datapath
