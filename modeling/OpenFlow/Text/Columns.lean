/-!
# Elastic columns

A line is a list of cells, each closed by a tab, and the text after the last
tab. A column runs through consecutive lines that have a closed cell in its
place, and all cells of one run are padded to the same width. A line without
that cell ends the run, so a rule between two blocks aligns them separately.
-/
namespace OpenFlow.Text

structure Line where
  cells : List String
  last : String
deriving DecidableEq, Repr

/-- How cells are widened: no narrower than `minimum`, then `padding` blanks. -/
structure ColumnStyle where
  minimum : Nat
  padding : Nat
deriving DecidableEq, Repr

def cellLength (column : Nat) (line : Line) : Nat :=
  (line.cells[column]?.getD "").length

/-- The widest cell of a column in the lines up to the first that lacks it. -/
def runWidth (column : Nat) (lines : List Line) : Nat :=
  (lines.takeWhile fun line => column < line.cells.length).foldr
    (fun line width => max (cellLength column line) width) 0

/-- The width of a column at `line`, with the lines above it nearest first. -/
def ColumnStyle.width (style : ColumnStyle) (column : Nat) (above : List Line) (line : Line)
    (below : List Line) : Nat :=
  max style.minimum (max (runWidth column above) (runWidth column (line :: below))) + style.padding

def padTo (width : Nat) (cell : String) : String :=
  cell ++ String.ofList (List.replicate (width - cell.length) ' ')

def ColumnStyle.formatLine (style : ColumnStyle) (above : List Line) (line : Line)
    (below : List Line) : String :=
  String.join (line.cells.mapIdx fun column cell =>
    padTo (style.width column above line below) cell) ++ line.last

def ColumnStyle.formatFrom (style : ColumnStyle) : List Line → List Line → List String
  | _, [] => []
  | above, line :: below =>
    style.formatLine above line below :: style.formatFrom (line :: above) below

def ColumnStyle.format (style : ColumnStyle) (lines : List Line) : List String :=
  style.formatFrom [] lines

theorem ColumnStyle.length_formatFrom (style : ColumnStyle) (above lines : List Line) :
    (style.formatFrom above lines).length = lines.length := by
  induction lines generalizing above with
  | nil => rfl
  | cons line below ih => simp [formatFrom, ih]

theorem ColumnStyle.length_format (style : ColumnStyle) (lines : List Line) :
    (style.format lines).length = lines.length :=
  style.length_formatFrom [] lines

end OpenFlow.Text
