import Mathlib.Order.Basic
import Mathlib.Order.Lattice
import OpenFlow.Proofs.Text.Cells

/-!
# Blocks of aligned lines

Lines with the same number of cells that stand between lines without cells make a block. All lines
of a block are padded to the same widths, those of its widest cells, whatever stands above and below
the block. So their cells start at the same offsets, and where two blocks have columns of different
widths the cells of one start elsewhere than those of the other.
-/
namespace OpenFlow.Text

variable {style : ColumnStyle} {column count start : Nat} {text : String} {line : Line}
  {above below front back block : List Line} {widths other : Nat → Nat}

/-! ### Padded lines -/

/-- A line with its cells padded to the widths of their columns. -/
def Line.padded (widths : Nat → Nat) (line : Line) : String :=
  String.join (line.cells.mapIdx fun column cell => padTo (widths column) cell) ++ line.last

/-- Texts in columns of these widths, with a last one behind. -/
def placeFrom (start : Nat) (widths : Nat → Nat) (last : String) : List String → List Cell
  | [] => [⟨start, last⟩]
  | cell :: cells =>
    ⟨start, cell⟩ :: placeFrom (start + widths 0) (fun column => widths (column + 1)) last cells

/-- The offsets of so many columns of these widths and of what is behind them. -/
def startsFrom (start : Nat) (widths : Nat → Nat) : Nat → List Nat
  | 0 => [start]
  | count + 1 => start :: startsFrom (start + widths 0) (fun column => widths (column + 1)) count

structure Line.IsPhrases (line : Line) : Prop where
  cells : ∀ cell ∈ line.cells, IsPhrase cell
  last : IsPhrase line.last

theorem map_text_placeFrom (start : Nat) (widths : Nat → Nat) (last : String)
    (cells : List String) :
    (placeFrom start widths last cells).map Cell.text = cells ++ [last] := by
  induction cells generalizing start widths with
  | nil => rfl
  | cons cell cells ih => rw [placeFrom, List.map_cons, ih, List.cons_append]

theorem map_start_placeFrom (start : Nat) (widths : Nat → Nat) (last : String)
    (cells : List String) :
    (placeFrom start widths last cells).map Cell.start = startsFrom start widths cells.length := by
  induction cells generalizing start widths with
  | nil => rfl
  | cons cell cells ih => rw [placeFrom, List.map_cons, ih, List.length_cons, startsFrom]

theorem startsFrom_inj :
    startsFrom start widths count = startsFrom start other count ↔
      ∀ column < count, widths column = other column := by
  induction count generalizing start widths other with
  | zero => simp [startsFrom]
  | succ count ih =>
    rw [startsFrom, startsFrom, List.cons_inj_right, Nat.forall_lt_succ_left']
    -- The second offset tells the width of the first column.
    have second : ∀ (start : Nat) (widths : Nat → Nat),
        (startsFrom start widths count).head? = some start := by
      cases count <;> exact fun _ _ => rfl
    constructor
    · intro same
      have first : start + widths 0 = start + other 0 := by
        have heads := congrArg List.head? same
        rw [second, second] at heads
        exact Option.some.inj heads
      rw [first] at same
      exact ⟨Nat.add_left_cancel first, ih.mp same⟩
    · rintro ⟨first, others⟩
      rw [first]
      exact ih.mpr others

theorem toList_padded_cons (widths : Nat → Nat) (cell last : String) (cells : List String) :
    (Line.padded widths ⟨cell :: cells, last⟩).toList =
      cell.toList ++ (List.replicate (widths 0 - cell.length) ' ' ++
        (Line.padded (fun column => widths (column + 1)) ⟨cells, last⟩).toList) := by
  rw [Line.padded, List.mapIdx_cons, String.join_cons, padTo, String.append_assoc,
    String.append_assoc, String.toList_append, String.toList_append, String.toList_ofList]
  rfl

/-- A padded line starts with a phrase. -/
theorem exists_phrase_padded (widths : Nat → Nat) (phrases : line.IsPhrases) :
    ∃ phrase rest, IsPhrase phrase ∧ (line.padded widths).toList = phrase.toList ++ rest := by
  obtain ⟨cells, last⟩ := line
  cases cells with
  | nil => exact ⟨last, [], phrases.last, by simp [Line.padded]⟩
  | cons cell cells =>
    have isPhrase := phrases.cells cell List.mem_cons_self
    exact ⟨cell, _, isPhrase, toList_padded_cons widths cell last cells⟩

/-- The cells of a padded line are the texts it is made of, each where its column starts. -/
theorem cellsFrom_padded (phrases : line.IsPhrases)
    (wide : ∀ column, cellLength column line + 2 ≤ widths column) :
    cellsFrom start [] 0 (line.padded widths).toList =
      placeFrom start widths line.last line.cells := by
  obtain ⟨cells, last⟩ := line
  induction cells generalizing start widths with
  | nil =>
    have alone : (Line.padded widths ⟨[], last⟩).toList = last.toList ++ [] := by simp [Line.padded]
    rw [alone, cellsFrom_phrase phrases.last, cellsFrom, if_pos Nat.two_pos]
    simp [placeFrom]
  | cons cell cells ih =>
    obtain ⟨first, others⟩ := List.forall_mem_cons.mp phrases.cells
    have room : cell.length + 2 ≤ widths 0 := wide 0
    have roomBehind : ∀ column,
        cellLength column ⟨cells, last⟩ + 2 ≤ widths (column + 1) := fun column => wide (column + 1)
    have behind : Line.IsPhrases ⟨cells, last⟩ := ⟨others, phrases.last⟩
    obtain ⟨phrase, rest, isPhrase, next⟩ :=
      exists_phrase_padded (fun column => widths (column + 1)) behind
    -- The phrase behind the blanks ends the cell, where the next column starts.
    have width : cell.length + (0 + (widths 0 - cell.length)) = widths 0 := by omega
    rw [toList_padded_cons, cellsFrom_phrase first, cellsFrom_replicate, next,
      cellsFrom_of_two_le isPhrase (by omega), ← next, ih behind roomBehind, String.ofList_toList,
      String.length_toList, Nat.add_assoc, width, placeFrom]

theorem cells_padded (phrases : line.IsPhrases)
    (wide : ∀ column, cellLength column line + 2 ≤ widths column) :
    cells (line.padded widths) = placeFrom 0 widths line.last line.cells :=
  cellsFrom_padded phrases wide

theorem not_mem_newline_padded (widths : Nat → Nat) (phrases : line.IsPhrases) :
    '\n' ∉ (line.padded widths).toList := by
  obtain ⟨cells, last⟩ := line
  induction cells generalizing widths with
  | nil => simpa [Line.padded] using phrases.last.not_mem_newline
  | cons cell cells ih =>
    obtain ⟨first, others⟩ := List.forall_mem_cons.mp phrases.cells
    rw [toList_padded_cons, List.mem_append, List.mem_append, List.mem_replicate]
    have behind := ih (fun column => widths (column + 1)) ⟨others, phrases.last⟩
    have blank : '\n' ≠ ' ' := by decide
    exact fun inside => inside.elim first.not_mem_newline fun inside =>
      inside.elim (fun filled => blank filled.2) behind

/-! ### Blocks -/

/-- The length of the widest cell of a column. -/
def widest (column : Nat) (block : List Line) : Nat :=
  block.foldr (fun line width => max (cellLength column line) width) 0

def ColumnStyle.blockWidth (style : ColumnStyle) (block : List Line) (column : Nat) : Nat :=
  max style.minimum (widest column block) + style.padding

/-- Nothing is next, or a line without cells. -/
def Barred (lines : List Line) : Prop := ∀ line ∈ lines.head?, line.cells = []

theorem widest_le_iff {width : Nat} :
    widest column block ≤ width ↔ ∀ line ∈ block, cellLength column line ≤ width := by
  induction block with
  | nil => simp [widest]
  | cons line block ih =>
    rw [List.forall_mem_cons, ← ih]
    exact Nat.max_le

theorem widest_of_split (column : Nat) (front : List Line) (line : Line) (back : List Line) :
    max (widest column front.reverse) (widest column (line :: back)) =
      widest column (front ++ line :: back) := by
  refine eq_of_forall_ge_iff fun width => ?_
  rw [Nat.max_le, widest_le_iff, widest_le_iff, widest_le_iff, List.forall_mem_append]
  simp only [List.mem_reverse]

theorem le_widest_iff {width : Nat} (positive : 0 < width) :
    width ≤ widest column block ↔ ∃ line ∈ block, width ≤ cellLength column line := by
  have below : ∀ length, width ≤ length ↔ ¬ length ≤ width - 1 := by omega
  rw [below, widest_le_iff]
  push Not
  simp only [Nat.sub_lt_iff_lt_add' positive, Nat.lt_add_one_iff, Nat.add_comm 1]

theorem widest_eq_iff {width : Nat} (positive : 0 < width) :
    widest column block = width ↔
      (∀ line ∈ block, cellLength column line ≤ width) ∧
        ∃ line ∈ block, width ≤ cellLength column line := by
  rw [Nat.le_antisymm_iff, widest_le_iff, le_widest_iff positive]

theorem blockWidth_wide (style : ColumnStyle) (inside : line ∈ block) (column : Nat) :
    cellLength column line + style.padding ≤ style.blockWidth block column := by
  have bound := widest_le_iff.mp (Nat.le_refl (widest column block)) line inside
  exact Nat.add_le_add_right (Nat.le_trans bound (Nat.le_max_right _ _)) _

theorem runWidth_append (same : ∀ line ∈ block, column < line.cells.length)
    (barred : Barred below) : runWidth column (block ++ below) = widest column block := by
  have present : ∀ line ∈ block, decide (column < line.cells.length) = true :=
    fun line inside => decide_eq_true (same line inside)
  have stopped : below.takeWhile (fun line => column < line.cells.length) = [] := by
    cases below with
    | nil => rfl
    | cons next below =>
      have none : next.cells = [] := barred next rfl
      simp [none]
  rw [runWidth, List.takeWhile_append_of_pos present, stopped, List.append_nil]
  rfl

section

variable (barredAbove : Barred above) (barredBelow : Barred below)

include barredAbove barredBelow

/-- A line within a block is padded to the widths of the block. -/
theorem formatLine_of_block (same : ∀ other ∈ front ++ line :: back, other.cells.length = count) :
    style.formatLine (front.reverse ++ above) line (back ++ below) =
      line.padded (style.blockWidth (front ++ line :: back)) := by
  have padded : ∀ column < line.cells.length,
      style.width column (front.reverse ++ above) line (back ++ below) =
        style.blockWidth (front ++ line :: back) column := by
    intro column inside
    have present : ∀ other ∈ front ++ line :: back, column < other.cells.length := by
      intro other member
      rw [same other member, ← same line (by simp)]
      exact inside
    obtain ⟨inFront, inBack⟩ := List.forall_mem_append.mp present
    rw [ColumnStyle.width, ← List.cons_append, runWidth_append inBack barredBelow,
      runWidth_append (fun other member => inFront other (List.mem_reverse.mp member)) barredAbove,
      widest_of_split]
    rfl
  -- Columns the line has no cell in do not matter.
  rw [ColumnStyle.formatLine, Line.padded]
  congr 2
  exact List.mapIdx_eq_mapIdx_iff.mpr fun column inside => by rw [padded column inside]

theorem formatFrom_split (same : ∀ other ∈ front ++ back, other.cells.length = count) :
    style.formatFrom (front.reverse ++ above) (back ++ below) =
      back.map (Line.padded (style.blockWidth (front ++ back))) ++
        style.formatFrom ((front ++ back).reverse ++ above) below := by
  induction back generalizing front with
  | nil => rw [List.append_nil, List.map_nil, List.nil_append, List.nil_append]
  | cons line back ih =>
    -- One line goes from the back of the block to its front, and the block stays what it is.
    have moved : front ++ line :: back = front ++ [line] ++ back := by simp
    have stillSame : ∀ other ∈ front ++ [line] ++ back, other.cells.length = count := moved ▸ same
    have later := ih stillSame
    rw [← moved, List.reverse_append, List.reverse_singleton, List.append_assoc] at later
    rw [List.cons_append, ColumnStyle.formatFrom, formatLine_of_block barredAbove barredBelow same,
      List.map_cons, List.cons_append]
    exact congrArg _ later

theorem formatFrom_block (style : ColumnStyle)
    (same : ∀ line ∈ block, line.cells.length = count) :
    style.formatFrom above (block ++ below) =
      block.map (Line.padded (style.blockWidth block)) ++
        style.formatFrom (block.reverse ++ above) below := by
  have all : ∀ line ∈ [] ++ block, line.cells.length = count := same
  exact formatFrom_split barredAbove barredBelow all

end

/-- A line without cells is its text. -/
theorem formatFrom_bar (style : ColumnStyle) (text : String) (above below : List Line) :
    style.formatFrom above (⟨[], text⟩ :: below) =
      text :: style.formatFrom (⟨[], text⟩ :: above) below := by
  simp [ColumnStyle.formatFrom, ColumnStyle.formatLine]

end OpenFlow.Text
