import Mathlib.Data.List.Basic
import OpenFlow.Text.Columns

/-!
# Reading printed lines

A printed text is read line by line, and a line cell by cell. Two blanks or more in a row end a
cell, and a single blank belongs to the cell it is in. So words with single blanks between them are
read as one cell, and a line that was padded with at least two blanks behind each cell is read as
the cells it was made of, each where its column starts.
-/
namespace OpenFlow.Text

variable {start blanks : Nat} {cell chars rest : List Char} {text other value : String}

/-! ### Lines -/

/-- The lines of the rest of a text, with what was read of the first of them. -/
def linesFrom (line : List Char) : List Char → List String
  | [] => if line = [] then [] else [String.ofList line]
  | c :: rest =>
    if c = '\n' then String.ofList line :: linesFrom [] rest else linesFrom (line ++ [c]) rest

def lines (text : String) : List String := linesFrom [] text.toList

theorem linesFrom_append (line rest : List Char) (unbroken : '\n' ∉ chars) :
    linesFrom line (chars ++ rest) = linesFrom (line ++ chars) rest := by
  induction chars generalizing line with
  | nil => rw [List.append_nil, List.nil_append]
  | cons c chars ih =>
    obtain ⟨other, unbroken⟩ := not_or.mp (List.mem_cons.not.mp unbroken)
    rw [List.cons_append, linesFrom, if_neg (Ne.symm other), ih _ unbroken, List.append_assoc,
      List.singleton_append]

theorem lines_join {written : List String} (unbroken : ∀ line ∈ written, '\n' ∉ line.toList) :
    lines (String.join (written.map fun line => line ++ "\n")) = written := by
  have split : ∀ line : String, (line ++ "\n").toList = line.toList ++ ['\n'] := fun line =>
    String.toList_append
  induction written with
  | nil => rfl
  | cons line written ih =>
    obtain ⟨first, others⟩ := List.forall_mem_cons.mp unbroken
    rw [lines, List.map_cons, String.join_cons, String.toList_append, split, List.append_assoc,
      linesFrom_append _ _ first, List.singleton_append, linesFrom, if_pos rfl, List.nil_append,
      String.ofList_toList]
    exact congrArg (line :: ·) (ih others)

/-! ### Cells -/

/-- A cell of a line, with the offset of its first character. -/
structure Cell where
  start : Nat
  text : String
deriving DecidableEq, Repr

/-- The cells of the rest of a line, with what was read of the first of them and the number of
blanks read since. -/
def cellsFrom (start : Nat) (cell : List Char) (blanks : Nat) : List Char → List Cell
  | [] =>
    if blanks < 2 then [⟨start, String.ofList (cell ++ List.replicate blanks ' ')⟩]
    else [⟨start, String.ofList cell⟩, ⟨start + cell.length + blanks, ""⟩]
  | c :: rest =>
    if c = ' ' then cellsFrom start cell (blanks + 1) rest
    else if blanks < 2 then cellsFrom start (cell ++ List.replicate blanks ' ' ++ [c]) 0 rest
    else ⟨start, String.ofList cell⟩ :: cellsFrom (start + cell.length + blanks) [c] 0 rest

def cells (line : String) : List Cell := cellsFrom 0 [] 0 line.toList

def cellTexts (line : String) : List String := (cells line).map Cell.text

def cellStarts (line : String) : List Nat := (cells line).map Cell.start

example : cells "set_queue  set_queue:7" = [⟨0, "set_queue"⟩, ⟨11, "set_queue:7"⟩] := by decide

/-- Blanks behind a cell are counted. -/
theorem cellsFrom_replicate (count : Nat) :
    cellsFrom start cell blanks (List.replicate count ' ' ++ rest) =
      cellsFrom start cell (blanks + count) rest := by
  induction count generalizing blanks with
  | zero => rfl
  | succ count ih =>
    rw [List.replicate_succ, List.cons_append, cellsFrom, if_pos rfl, ih, Nat.add_right_comm]
    rfl

theorem cellsFrom_append (unspaced : ' ' ∉ chars) :
    cellsFrom start cell 0 (chars ++ rest) = cellsFrom start (cell ++ chars) 0 rest := by
  induction chars generalizing cell with
  | nil => rw [List.append_nil, List.nil_append]
  | cons c chars ih =>
    obtain ⟨other, unspaced⟩ := not_or.mp (List.mem_cons.not.mp unspaced)
    rw [List.cons_append, cellsFrom, if_neg (Ne.symm other), if_pos Nat.two_pos, ih unspaced,
      List.replicate_zero, List.append_nil, List.append_assoc, List.singleton_append]

/-! ### Words and phrases -/

def Unspaced (text : String) : Prop := ∀ c ∈ text.toList, c.isWhitespace = false

instance (text : String) : Decidable (Unspaced text) :=
  decidable_of_iff (text.toList.all fun c => !c.isWhitespace) (by simp [Unspaced])

structure IsWord (text : String) : Prop where
  nonempty : text ≠ ""
  unspaced : Unspaced text

instance (text : String) : Decidable (IsWord text) :=
  decidable_of_iff (text ≠ "" ∧ Unspaced text)
    ⟨fun ⟨nonempty, unspaced⟩ => ⟨nonempty, unspaced⟩, fun word => ⟨word.nonempty, word.unspaced⟩⟩

/-- Words with single blanks between them. -/
inductive IsPhrase : String → Prop where
  | word {text : String} (word : IsWord text) : IsPhrase text
  | next {text other : String} (phrase : IsPhrase text) (word : IsWord other) :
      IsPhrase (text ++ " " ++ other)

theorem Unspaced.not_mem (unspaced : Unspaced text) {c : Char} (white : c.isWhitespace = true) :
    c ∉ text.toList := fun inside => by
  rw [unspaced c inside] at white
  cases white

theorem Unspaced.append (first : Unspaced text) (second : Unspaced other) :
    Unspaced (text ++ other) := fun c inside => by
  rw [String.toList_append, List.mem_append] at inside
  exact inside.elim (first c) (second c)

theorem Unspaced.intercalate (separator : Unspaced text) {pieces : List String}
    (unspaced : ∀ piece ∈ pieces, Unspaced piece) : Unspaced (text.intercalate pieces) := by
  induction pieces with
  | nil => exact fun c inside => absurd inside (by simp)
  | cons piece pieces ih =>
    obtain ⟨first, others⟩ := List.forall_mem_cons.mp unspaced
    cases pieces with
    | nil => simpa using first
    | cons next pieces =>
      rw [String.intercalate_cons_cons]
      exact (first.append separator).append (ih others)

theorem IsWord.append (word : IsWord text) (unspaced : Unspaced other) :
    IsWord (text ++ other) := by
  refine ⟨fun empty => word.nonempty ?_, word.unspaced.append unspaced⟩
  rw [← String.toList_inj, String.toList_append] at empty
  exact String.toList_inj.mp (List.append_eq_nil_iff.mp empty).1

theorem IsPhrase.append (phrase : IsPhrase text) (unspaced : Unspaced other) :
    IsPhrase (text ++ other) := by
  cases phrase with
  | word word => exact .word (word.append unspaced)
  | next phrase word =>
    rw [String.append_assoc]
    exact .next phrase (word.append unspaced)

/-- A phrase goes on with a value behind its label. -/
theorem IsPhrase.labelled (phrase : IsPhrase text) (label : String) (word : IsWord label)
    (unspaced : Unspaced value) : IsPhrase (text ++ (" " ++ label) ++ value) := by
  rw [← String.append_assoc]
  exact (IsPhrase.next phrase word).append unspaced

theorem IsPhrase.not_mem_newline (phrase : IsPhrase text) : '\n' ∉ text.toList := by
  induction phrase with
  | word word => exact word.unspaced.not_mem rfl
  | next phrase word ih =>
    have blank : '\n' ∉ " ".toList := by decide
    simp only [String.toList_append, List.mem_append, not_or]
    exact ⟨⟨ih, blank⟩, word.unspaced.not_mem rfl⟩

/-- A word starts with a character that is no blank. -/
theorem IsWord.exists_cons (word : IsWord text) :
    ∃ c chars, text.toList = c :: chars ∧ c ≠ ' ' := by
  cases listed : text.toList with
  | nil => exact absurd (String.toList_inj.mp listed) word.nonempty
  | cons c chars =>
    refine ⟨c, chars, rfl, fun same => ?_⟩
    exact word.unspaced.not_mem rfl (by rw [listed, same]; exact List.mem_cons_self)

theorem IsPhrase.exists_cons (phrase : IsPhrase text) :
    ∃ c chars, text.toList = c :: chars ∧ c ≠ ' ' := by
  induction phrase with
  | word word => exact word.exists_cons
  | @next text last phrase word ih =>
    obtain ⟨c, chars, listed, other⟩ := ih
    refine ⟨c, chars ++ " ".toList ++ last.toList, ?_, other⟩
    rw [String.toList_append, String.toList_append, listed, List.cons_append, List.cons_append]

/-- A word goes on with the cell behind fewer than two blanks. -/
theorem cellsFrom_word (word : IsWord text) (few : blanks < 2) :
    cellsFrom start cell blanks (text.toList ++ rest) =
      cellsFrom start (cell ++ List.replicate blanks ' ' ++ text.toList) 0 rest := by
  have unspaced : ' ' ∉ text.toList := word.unspaced.not_mem rfl
  obtain ⟨c, chars, listed, other⟩ := word.exists_cons
  rw [listed] at unspaced ⊢
  have unspacedBehind : ' ' ∉ chars := fun inside => unspaced (List.mem_cons_of_mem c inside)
  rw [List.cons_append, cellsFrom, if_neg other, if_pos few, cellsFrom_append unspacedBehind,
    List.append_assoc _ [c], List.singleton_append]

theorem cellsFrom_phrase (phrase : IsPhrase text) :
    cellsFrom start [] 0 (text.toList ++ rest) = cellsFrom start text.toList 0 rest := by
  induction phrase generalizing rest with
  | word word => exact cellsFrom_word word Nat.two_pos
  | next phrase word ih =>
    have blank : " ".toList = [' '] := rfl
    rw [String.toList_append, String.toList_append, blank, List.append_assoc, List.append_assoc, ih,
      List.singleton_append, cellsFrom, if_pos rfl, cellsFrom_word word Nat.one_lt_two]
    rfl

/-- Behind two blanks a phrase is read as a cell of its own. -/
theorem cellsFrom_of_two_le (phrase : IsPhrase text) (many : 2 ≤ blanks) :
    cellsFrom start cell blanks (text.toList ++ rest) =
      ⟨start, String.ofList cell⟩ ::
        cellsFrom (start + cell.length + blanks) [] 0 (text.toList ++ rest) := by
  obtain ⟨c, chars, listed, other⟩ := phrase.exists_cons
  rw [listed, List.cons_append, cellsFrom, cellsFrom, if_neg other, if_neg other,
    if_neg (Nat.not_lt.mpr many), if_pos Nat.two_pos]
  rfl

end OpenFlow.Text
