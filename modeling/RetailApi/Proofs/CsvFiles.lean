import RetailApi.Base.JsText
import RetailApi.Catalog.Formats

/-! A CSV file is read back as it was written, but for the apostrophe that keeps a cell from being a formula. -/

namespace Catalog

open CsvReader List

variable {reader : CsvReader} {letters rest : List Char}

/-- A cell ends where the text does, at a comma or at the end of a line. -/
def CellEnd (rest : List Char) : Prop := ∀ letter ∈ rest.head?, letter = ',' ∨ letter = '\r'

theorem read_plain (plain : letters.any (· ∈ ['"', ',', '\r', '\n']) = false) :
    reader.read false (letters ++ rest) = { reader with cell := reader.cell ++ letters }.read false rest := by
  induction letters generalizing reader with
  | nil => simp
  | cons letter letters inner =>
    rw [any_cons, Bool.or_eq_false_iff] at plain
    simp only [mem_cons, not_mem_nil, or_false, decide_eq_false_iff_not, not_or] at plain
    obtain ⟨⟨quote, comma, back, line⟩, plain⟩ := plain
    rw [cons_append, CsvReader.read, if_neg Bool.false_ne_true, if_neg quote, if_neg comma,
      if_neg (not_or.mpr ⟨line, back⟩), inner (by simpa using plain), put, append_assoc]
    rfl

/-- Inside quotes a quote is read where two are written, and one alone ends the cell. -/
theorem read_quoted (ends : CellEnd rest) : reader.read true (doubleQuotes letters ++ '"' :: rest) =
    { reader with cell := reader.cell ++ letters }.read false rest := by
  induction letters generalizing reader with
  | nil =>
    have alone : rest.head? ≠ some '"' := by
      intro quote
      rcases ends '"' quote with comma | line
      · cases comma
      · cases line
    rw [doubleQuotes, flatMap_nil, nil_append, CsvReader.read, if_pos rfl, if_pos rfl, if_neg alone, append_nil]
  | cons letter letters inner =>
    have put_eq : ({ reader.put letter with cell := (reader.put letter).cell ++ letters } : CsvReader) =
        { reader with cell := reader.cell ++ letter :: letters } := by
      rw [put, append_assoc]
      rfl
    rw [← put_eq, ← inner, doubleQuotes, flatMap_cons, ← doubleQuotes, append_assoc]
    by_cases quote : letter = '"'
    · subst quote
      rw [if_pos rfl, cons_append, CsvReader.read, if_pos rfl, if_pos rfl]
      rfl
    · rw [if_neg quote, singleton_append, CsvReader.read, if_pos rfl, if_neg quote]

theorem read_cell (ends : CellEnd rest) (start : reader.cell = []) :
    reader.read false (quoteCell letters ++ rest) = { reader with cell := letters }.read false rest := by
  unfold quoteCell
  split
  · rw [cons_append, cons_append, append_assoc, singleton_append, CsvReader.read, if_neg Bool.false_ne_true, if_pos rfl,
      read_quoted ends, start, nil_append]
  · next plain => rw [read_plain (Bool.eq_false_iff.mpr plain), start, nil_append]

/-- The row of a file that holds these cells. -/
def csvLine (cells : List (List Char)) : List Char := [','].intercalate (cells.map quoteCell)

theorem read_row (cells : List (List Char)) (filled : cells ≠ []) (ends : ∀ letter ∈ rest.head?, letter = '\r')
    (start : reader.cell = []) : ∃ front last, cells = front ++ [last] ∧ reader.read false (csvLine cells ++ rest) =
      { reader with row := reader.row ++ front.map String.ofList, cell := last }.read false rest := by
  induction cells generalizing reader with
  | nil => exact absurd rfl filled
  | cons cell cells inner =>
    cases cells with
    | nil =>
      refine ⟨[], cell, rfl, ?_⟩
      rw [csvLine, map_singleton, intercalate_singleton, read_cell (fun letter front => .inr (ends letter front)) start]
      simp
    | cons next later =>
      obtain ⟨front, last, whole, read⟩ := @inner { reader with row := reader.row ++ [String.ofList cell], cell := [] }
        (cons_ne_nil next later) rfl
      refine ⟨cell :: front, last, by rw [whole, cons_append], ?_⟩
      have line : csvLine (cell :: next :: later) ++ rest = quoteCell cell ++ ',' :: (csvLine (next :: later) ++ rest) := by
        simp [csvLine, intercalate_cons_cons]
      have comma : CellEnd (',' :: (csvLine (next :: later) ++ rest)) := fun letter front => .inl (Option.some.inj front.symm)
      rw [line, read_cell comma start, CsvReader.read,
        if_neg Bool.false_ne_true, if_neg (by decide), if_pos rfl]
      refine Eq.trans read ?_
      simp

theorem read_rows (rows : List (List (List Char))) (done : List (List String))
    (filled : ∀ row ∈ rows, ∃ cell ∈ row, cell ≠ []) :
    (({ rows := done } : CsvReader).read false (['\r', '\n'].intercalate (rows.map csvLine))).finish =
      done ++ rows.map (map String.ofList) := by
  induction rows generalizing done with
  | nil => simp [CsvReader.read, finish]
  | cons row rows inner =>
    obtain ⟨some_, member, letters⟩ := filled row (.head _)
    cases rows with
    | nil =>
      obtain ⟨front, last, whole, read⟩ := @read_row { rows := done } [] row (ne_nil_of_mem member) (by simp) rfl
      rw [append_nil] at read
      rw [map_singleton, intercalate_singleton, read, CsvReader.read, finish, if_pos]
      · simp [endRow, endCell, whole]
      · cases front with
        | nil =>
          rw [whole, nil_append, mem_singleton] at member
          exact .inl (member ▸ letters)
        | cons cell front => exact .inr (by simp)
    | cons next later =>
      have text : ['\r', '\n'].intercalate ((row :: next :: later).map csvLine) =
          csvLine row ++ '\r' :: '\n' :: ['\r', '\n'].intercalate ((next :: later).map csvLine) := by
        simp [intercalate_cons_cons]
      obtain ⟨front, last, whole, read⟩ := @read_row { rows := done }
        ('\r' :: '\n' :: ['\r', '\n'].intercalate ((next :: later).map csvLine)) row (ne_nil_of_mem member)
        (fun letter front => Option.some.inj front.symm) rfl
      have line : ({ rows := done, row := [] ++ front.map String.ofList, cell := last } : CsvReader).endRow =
          { rows := done ++ [row.map String.ofList] } := by simp [endRow, endCell, whole]
      rw [text, read, CsvReader.read, if_neg Bool.false_ne_true, if_neg (by decide), if_neg (by decide), if_pos (.inr rfl),
        if_pos ⟨rfl, rfl⟩, tail_cons, line, inner _ fun other later => filled other (.tail _ later)]
      simp

/-- A string cell as a reader of the file sees it. -/
def shownCell (cell : String) : String := if startsFormula cell.toList then "'" ++ cell else cell

theorem guardFormula_eq (cell : String) : guardFormula cell.toList = (shownCell cell).toList := by
  unfold guardFormula shownCell
  split
  · rw [String.toList_append]
  · rfl

theorem shownCell_filled {cell} (filled : JsString.trimmed cell ≠ "") : JsString.trimmed (shownCell cell) ≠ "" := by
  unfold shownCell
  split
  · exact JsString.trimmed_ne_empty (by rw [String.toList_append]; exact .head _) (by decide : JsString.isSpace (Char.ofNat 39) = false)
  · exact filled

theorem shownCell_safe (cell : String) : startsFormula (shownCell cell).toList = false := by
  unfold shownCell
  split
  · rw [String.toList_append]
    rfl
  · next safe => exact Bool.eq_false_iff.mpr safe

/-- Every row comes back, with an apostrophe in front of what would be a formula; no cell of the file is one. -/
theorem csv_round_trip (rows : List (List String)) (filled : ∀ row ∈ rows, ∃ cell ∈ row, JsString.trimmed cell ≠ "") :
    let file := String.ofList (Char.ofNat 0xFEFF :: ['\r', '\n'].intercalate (rows.map fun row => csvRow (row.map .text)))
    parseCsv file = rows.map (map shownCell) ∧ ∀ row ∈ parseCsv file, ∀ cell ∈ row, startsFormula cell.toList = false := by
  intro file
  have lines : (rows.map fun row => csvRow (row.map .text)) = (rows.map (map fun cell => guardFormula cell.toList)).map csvLine := by
    simp [csvLine, csvRow, Function.comp_def, csvCell]
  have shown : parseCsv file = rows.map (map shownCell) := by
    have read := read_rows (rows.map (map fun cell => guardFormula cell.toList)) [] ?cells
    case cells =>
      intro row member
      obtain ⟨row, listed, rfl⟩ := mem_map.mp member
      obtain ⟨cell, inside, letters⟩ := filled row listed
      refine ⟨_, mem_map_of_mem inside, fun empty => shownCell_filled letters ?_⟩
      rw [guardFormula_eq, String.toList_eq_nil_iff] at empty
      rw [empty]
      rfl
    rw [← lines, nil_append, map_map] at read
    simp only [parseCsv, file, String.toList_ofList, head?_cons, if_pos, tail_cons, read]
    simp only [guardFormula_eq, Function.comp_def, map_map, String.ofList_toList]
    apply filter_eq_self.mpr
    intro row member
    obtain ⟨row, listed, rfl⟩ := mem_map.mp member
    obtain ⟨cell, inside, letters⟩ := filled row listed
    exact any_eq_true.mpr ⟨_, mem_map_of_mem inside, decide_eq_true (shownCell_filled letters)⟩
  refine ⟨shown, fun row member cell inside => ?_⟩
  rw [shown] at member
  obtain ⟨row, _, rfl⟩ := mem_map.mp member
  obtain ⟨cell, _, rfl⟩ := mem_map.mp inside
  exact shownCell_safe cell

theorem csv_round_trip_formula : parseCsv (String.ofList (Char.ofNat 0xFEFF :: ['\r', '\n'].intercalate
    ([["=1+1", "a,\"b\"\r\n"]].map fun row => csvRow (row.map .text)))) = [["'=1+1", "a,\"b\"\r\n"]] :=
  (csv_round_trip [["=1+1", "a,\"b\"\r\n"]] (by simp; decide)).1

end Catalog
