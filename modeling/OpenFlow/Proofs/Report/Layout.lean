import OpenFlow.Proofs.Text.Blocks
import OpenFlow.Report

/-!
# Tables laid out

The titles of a table are a block of one line, and its entries are a block below. Each block is
aligned on its own, because the rules around it have no cells. So every entry is read back as the
texts it was made of, and the entries start their cells at the same offsets, which need not be those
of the titles.
-/
namespace OpenFlow.Report

open Text

variable {heading : String} {titles : Line} {entries : List Line} {count : Nat}

/-- The third line of a printed table. -/
def titleLine? (text : String) : Option String := (lines text)[2]?

/-- The lines of a printed table from the fifth on. -/
def entryLines (text : String) : List String := (lines text).drop 4

/-- What can be read again from a table: phrases in cells, in as many columns as there are titles,
under a heading of one line. -/
structure Tabular (heading : String) (titles : Line) (entries : List Line) : Prop where
  oneLine : '\n' ∉ heading.toList
  titlePhrases : titles.IsPhrases
  entryPhrases : ∀ entry ∈ entries, entry.IsPhrases
  sameCount : ∀ entry ∈ entries, entry.cells.length = titles.cells.length

theorem barred_bar (text : String) (others : List Line) : Barred (⟨[], text⟩ :: others) := by
  intro line next
  rw [← Option.some.inj next]

theorem barred_nil : Barred [] := fun _ next => by cases next

/-- The lines of a table, the titles and the entries each padded to widths of their own. -/
def aligned (heading : String) (titles : Line) (entries : List Line) : List String :=
  [heading, heavyRule, titles.padded (columns.blockWidth [titles]), lightRule] ++
    entries.map (Line.padded (columns.blockWidth entries))

theorem format_table (heading : String)
    (same : ∀ entry ∈ entries, entry.cells.length = count) :
    columns.format (table heading titles entries) = aligned heading titles entries := by
  have alone : ∀ line ∈ [titles], line.cells.length = titles.cells.length :=
    List.forall_mem_singleton.mpr rfl
  have upper := formatFrom_block (barred_bar heavyRule [⟨[], heading⟩])
    (barred_bar lightRule entries) columns alone
  have lower := formatFrom_block
    (barred_bar lightRule [titles, ⟨[], heavyRule⟩, ⟨[], heading⟩]) barred_nil columns same
  rw [List.append_nil, ColumnStyle.formatFrom, List.append_nil] at lower
  calc columns.format (table heading titles entries)
    _ = heading :: heavyRule :: columns.formatFrom [⟨[], heavyRule⟩, ⟨[], heading⟩]
          ([titles] ++ ⟨[], lightRule⟩ :: entries) := by
      rw [ColumnStyle.format, table, List.cons_append, List.cons_append, formatFrom_bar,
        formatFrom_bar]
      rfl
    _ = aligned heading titles entries := by
      rw [upper, formatFrom_bar]
      exact congrArg ([heading, heavyRule, _, lightRule] ++ ·) lower

theorem not_mem_newline_rule {mark : Char} (other : mark ≠ '\n') : '\n' ∉ (ruleOf mark).toList := by
  rw [ruleOf, String.toList_ofList, List.mem_replicate]
  exact fun inside => other inside.2.symm

section

variable (tabular : Tabular heading titles entries)

include tabular

theorem lines_layOut :
    lines (layOut (table heading titles entries)) = aligned heading titles entries := by
  rw [layOut, format_table heading tabular.sameCount]
  refine lines_join ?_
  rw [aligned, List.forall_mem_append, List.forall_mem_map]
  refine ⟨?_, fun entry inside => not_mem_newline_padded _ (tabular.entryPhrases entry inside)⟩
  simp only [List.forall_mem_cons]
  exact ⟨tabular.oneLine, not_mem_newline_rule (by decide),
    not_mem_newline_padded _ tabular.titlePhrases, not_mem_newline_rule (by decide), by simp⟩

theorem join_lines_layOut :
    String.join ((lines (layOut (table heading titles entries))).map fun line => line ++ "\n") =
      layOut (table heading titles entries) := by
  rw [lines_layOut tabular, layOut, format_table heading tabular.sameCount]

/-- Every line of a table is printed as one line. -/
theorem length_lines_layOut :
    (lines (layOut (table heading titles entries))).length =
      (table heading titles entries).length := by
  rw [lines_layOut tabular, ← format_table heading tabular.sameCount, ColumnStyle.length_format]

theorem entryLines_layOut :
    entryLines (layOut (table heading titles entries)) =
      entries.map (Line.padded (columns.blockWidth entries)) := by
  rw [entryLines, lines_layOut tabular]
  rfl

theorem cells_entry {entry : Line} (inside : entry ∈ entries) :
    cells (entry.padded (columns.blockWidth entries)) =
      placeFrom 0 (columns.blockWidth entries) entry.last entry.cells :=
  cells_padded (tabular.entryPhrases entry inside) (blockWidth_wide columns inside)

/-- Every entry is read back as its cells and the text behind them. -/
theorem cellTexts_entries :
    (entryLines (layOut (table heading titles entries))).map cellTexts =
      entries.map fun entry => entry.cells ++ [entry.last] := by
  rw [entryLines_layOut tabular, List.map_map]
  refine List.map_congr_left fun entry inside => ?_
  rw [Function.comp_apply, cellTexts, cells_entry tabular inside, map_text_placeFrom]

theorem cellStarts_entries :
    ∀ line ∈ entryLines (layOut (table heading titles entries)),
      cellStarts line = startsFrom 0 (columns.blockWidth entries) titles.cells.length := by
  rw [entryLines_layOut tabular, List.forall_mem_map]
  intro entry inside
  rw [cellStarts, cells_entry tabular inside, map_start_placeFrom, tabular.sameCount entry inside]

theorem cellStarts_titles :
    (titleLine? (layOut (table heading titles entries))).map cellStarts =
      some (startsFrom 0 (columns.blockWidth [titles]) titles.cells.length) := by
  have wide := blockWidth_wide columns (List.mem_singleton_self titles)
  rw [titleLine?, lines_layOut tabular]
  refine congrArg some ?_
  rw [cellStarts, cells_padded tabular.titlePhrases wide, map_start_placeFrom]

end

end OpenFlow.Report
