import OpenFlow.Proofs.Report.ReadBack

/-!
# Titles above their columns

The rule under the titles ends their columns, so the titles are as far apart as they are long, and
the entries as far as their widest cells ask for. Entries start their cells at the same offsets, but
the titles do so only if in each column the widest cell happens to be as long as the title.
-/
namespace OpenFlow.Report

open Text

variable {titles : Line} {entries : List Line} {column : Nat}

/-- The cells of every entry start where the titles do. -/
def TitlesAligned (text : String) : Prop :=
  ∀ line ∈ entryLines text, (titleLine? text).map cellStarts = some (cellStarts line)

/-- The cells of all entries start at the same offsets. -/
def EntriesAligned (text : String) : Prop :=
  ∀ line ∈ entryLines text, ∀ other ∈ entryLines text, cellStarts line = cellStarts other

theorem blockWidth_eq_iff (long : columns.minimum < cellLength column titles) :
    columns.blockWidth [titles] column = columns.blockWidth entries column ↔
      widest column entries = cellLength column titles := by
  have alone : widest column [titles] = cellLength column titles := Nat.max_zero _
  rw [ColumnStyle.blockWidth, ColumnStyle.blockWidth, alone]
  omega

section

variable {heading : String} (tabular : Tabular heading titles entries)

include tabular

theorem entriesAligned_layOut : EntriesAligned (layOut (table heading titles entries)) := by
  intro line inside other insideToo
  rw [cellStarts_entries tabular line inside, cellStarts_entries tabular other insideToo]

theorem titlesAligned_layOut_iff
    (long : ∀ column < titles.cells.length, columns.minimum < cellLength column titles) :
    TitlesAligned (layOut (table heading titles entries)) ↔
      entries = [] ∨
        ∀ column < titles.cells.length, widest column entries = cellLength column titles := by
  have each : ∀ line ∈ entryLines (layOut (table heading titles entries)),
      (titleLine? (layOut (table heading titles entries))).map cellStarts = some (cellStarts line) ↔
        ∀ column < titles.cells.length, widest column entries = cellLength column titles := by
    intro line inside
    rw [cellStarts_titles tabular, cellStarts_entries tabular line inside, Option.some.injEq,
      startsFrom_inj]
    exact forall₂_congr fun column below => blockWidth_eq_iff (long column below)
  have empty : entryLines (layOut (table heading titles entries)) = [] ↔ entries = [] := by
    rw [entryLines_layOut tabular, List.map_eq_nil_iff]
  -- Every entry asks for the same, so one of them decides.
  rw [TitlesAligned, forall₂_congr each, ← empty]
  cases entryLines (layOut (table heading titles entries)) with
  | nil => exact iff_of_true (fun _ inside => absurd inside List.not_mem_nil) (.inl rfl)
  | cons line others =>
    exact ⟨fun all => .inr (all line List.mem_cons_self),
      fun found _ _ => found.resolve_left (List.cons_ne_nil line others)⟩

end

/-! ### Header stacks -/

section

variable (stack : HeaderStack) {p : Line → Prop}

theorem forall_mem_headerLines :
    (∀ line ∈ stack.tags.mapIdx headerLine, p line) ↔
      ∀ index (below : index < stack.tags.length), p (headerLine index stack.tags[index]) := by
  rw [List.forall_mem_iff_getElem]
  simp only [List.length_mapIdx, List.getElem_mapIdx]

theorem exists_mem_headerLines :
    (∃ line ∈ stack.tags.mapIdx headerLine, p line) ↔
      ∃ index, ∃ below : index < stack.tags.length, p (headerLine index stack.tags[index]) := by
  rw [List.exists_mem_iff_getElem]
  simp only [List.length_mapIdx, List.getElem_mapIdx]

/-- Positions have three digits at most, and some have three. -/
theorem widest_index_iff :
    widest 0 (stack.tags.mapIdx headerLine) = 3 ↔ 100 < stack.size ∧ stack.size ≤ 1000 := by
  have atMost : ∀ index, index.repr.length ≤ 3 ↔ index < 1000 := fun index =>
    Nat.length_repr_le_iff (by decide)
  have atLeast : ∀ index, 3 ≤ index.repr.length ↔ 100 ≤ index := by
    intro index
    have fewer : index.repr.length ≤ 2 ↔ index < 100 := Nat.length_repr_le_iff (by decide)
    omega
  rw [widest_eq_iff (by decide), forall_mem_headerLines, exists_mem_headerLines]
  change (∀ index < stack.size, index.repr.length ≤ 3) ∧
    (∃ index, ∃ _ : index < stack.size, 3 ≤ index.repr.length) ↔ _
  simp only [atMost, atLeast, exists_prop]
  constructor
  · rintro ⟨small, index, below, large⟩
    have last := small (stack.size - 1) (by omega)
    omega
  · rintro ⟨many, few⟩
    exact ⟨fun index below => by omega, 100, many, Nat.le_refl 100⟩

theorem widest_kind_iff :
    widest 1 (stack.tags.mapIdx headerLine) = 4 ↔
      stack.tags ≠ [] ∧ ∀ tag ∈ stack.tags, tag.kind ≠ .ether := by
  have atMost : ∀ kind : HeaderKind, kind.text.length ≤ 4 ↔ kind ≠ .ether := by
    intro kind
    cases kind <;> decide
  have atLeast : ∀ kind : HeaderKind, 4 ≤ kind.text.length := by
    intro kind
    cases kind <;> decide
  rw [widest_eq_iff (by decide), forall_mem_headerLines, exists_mem_headerLines,
    List.forall_mem_iff_getElem, ← List.length_pos_iff, and_comm]
  refine and_congr ?_ (forall₂_congr fun index below => atMost _)
  exact ⟨fun ⟨index, below, _⟩ => Nat.zero_lt_of_lt below, fun some => ⟨0, some, atLeast _⟩⟩

theorem three_le_length_ttlText_iff (ttl? : Option UInt8) :
    3 ≤ (ttlText ttl?).length ↔ ∃ ttl ∈ ttl?, 100 ≤ ttl.toNat := by
  cases ttl? with
  | none => simpa [ttlText] using (by decide : "-".length < 3)
  | some ttl =>
    have fewer : ttl.toNat.repr.length ≤ 2 ↔ ttl.toNat < 100 := Nat.length_repr_le_iff (by decide)
    simp only [ttlText, Option.mem_some_iff, exists_eq_left']
    omega

theorem length_ttlText_le (ttl? : Option UInt8) : (ttlText ttl?).length ≤ 3 := by
  cases ttl? with
  | none => decide
  | some ttl => exact (Nat.length_repr_le_iff (by decide)).mpr (Nat.lt_trans ttl.toNat_lt (by decide))

theorem widest_ttl_iff :
    widest 2 (stack.tags.mapIdx headerLine) = 3 ↔
      ∃ tag ∈ stack.tags, ∃ ttl ∈ tag.ttl?, 100 ≤ ttl.toNat := by
  rw [widest_eq_iff (by decide), forall_mem_headerLines, exists_mem_headerLines,
    List.exists_mem_iff_getElem]
  refine (and_iff_right fun _ _ => length_ttlText_le _).trans ?_
  exact exists_congr fun index => exists_congr fun below => three_le_length_ttlText_iff _

theorem titlesAligned_headers_iff :
    TitlesAligned (headers stack) ↔
      stack.tags = [] ∨
        100 < stack.size ∧ stack.size ≤ 1000 ∧ (∀ tag ∈ stack.tags, tag.kind ≠ .ether) ∧
          ∃ tag ∈ stack.tags, ∃ ttl ∈ tag.ttl?, 100 ≤ ttl.toNat := by
  have threeColumns : ∀ p : Nat → Prop, (∀ column < 3, p column) ↔ p 0 ∧ p 1 ∧ p 2 := by
    intro p
    simp only [Nat.forall_lt_succ_left', Nat.not_lt_zero, false_imp_iff, imp_true_iff, and_true]
  have titlesLong : ∀ column < 3,
      columns.minimum < cellLength column ⟨["IDX", "KIND", "TTL"], "FIELDS"⟩ := by decide
  rw [headers, headerLines, titlesAligned_layOut_iff (tabular_headers stack) titlesLong]
  refine (or_congr List.mapIdx_eq_nil_iff (threeColumns _)).trans ?_
  change _ ∨ widest 0 _ = 3 ∧ widest 1 _ = 4 ∧ widest 2 _ = 3 ↔ _
  rw [widest_index_iff, widest_kind_iff, widest_ttl_iff]
  -- That there are tags follows from their number.
  tauto

end

/-! ### Action sets -/

theorem five_le_length_text (slot : ActionSlot) : 5 ≤ slot.text.length := by
  have name : 5 ≤ slot.name.length := by
    cases slot with
    | setField kind => exact (by decide : 5 ≤ "set_field".length)
    | experimenter id => exact (by decide : 5 ≤ "experimenter".length)
    | _ => decide
  rw [ActionSlot.text_eq, withArgument, String.length_append]
  omega

theorem titlesAligned_actionSet_iff (set : ActionSet) :
    TitlesAligned (actionSet set) ↔ set.toList = [] := by
  have titlesLong : ∀ column < 1, columns.minimum < cellLength column ⟨["SLOT"], "ACTION"⟩ := by
    decide
  rw [actionSet, actionSetLines, titlesAligned_layOut_iff (tabular_actionSet set) titlesLong,
    List.map_eq_nil_iff]
  refine or_iff_left_of_imp fun same => ?_
  -- The shortest slot is longer than the title above it.
  have slots : widest 0 (set.toList.map actionLine) = 4 := same 0 Nat.one_pos
  have narrow := List.forall_mem_map.mp (widest_le_iff.mp (Nat.le_of_eq slots))
  refine List.eq_nil_iff_forall_not_mem.mpr fun action inside => ?_
  exact absurd (Nat.le_trans (five_le_length_text action.slot) (narrow action inside)) (by decide)

/-- The entries of a printed table start their cells at the same offsets. The titles start at these
offsets if and only if there are no entries, or a stack has from 101 to 1000 tags, no Ethernet
header among them, and some time to live has three digits. -/
theorem printed_titles_aligned_iff (stack : HeaderStack) (set : ActionSet) :
    (EntriesAligned (headers stack) ∧
      (TitlesAligned (headers stack) ↔
        stack.tags = [] ∨
          100 < stack.size ∧ stack.size ≤ 1000 ∧ (∀ tag ∈ stack.tags, tag.kind ≠ .ether) ∧
            ∃ tag ∈ stack.tags, ∃ ttl ∈ tag.ttl?, 100 ≤ ttl.toNat)) ∧
    EntriesAligned (actionSet set) ∧
      (TitlesAligned (actionSet set) ↔ set.toList = []) :=
  ⟨⟨entriesAligned_layOut (tabular_headers stack), titlesAligned_headers_iff stack⟩,
    entriesAligned_layOut (tabular_actionSet set), titlesAligned_actionSet_iff set⟩

/-- The kind of an Ethernet header is longer than the title above it, and its position shorter. -/
theorem not_titlesAligned_of_ethernet_header :
    let header : EtherHeader := ⟨MacAddr.broadcast, MacAddr.zero, EtherType.ipv4⟩
    ¬ TitlesAligned (headers ⟨[.ether header]⟩) := by
  intro header aligned
  obtain none | ⟨many, -⟩ := (titlesAligned_headers_iff _).mp aligned
  · cases none
  · exact absurd many (by decide)

end OpenFlow.Report
