import Mathlib.Data.List.Indexes
import Jayvee.Ast.Basic

/-! # The table interpreter

`TableInterpreterExecutor` of `table-interpreter-executor.ts`. It binds each
declared column to a sheet column, by the header row or by position, and keeps
a data row only when every bound cell is valid for its column's valuetype. On
a rectangular sheet it fails only when there is no header row to read or the
sheet is narrower than the declaration; otherwise each kept row is the
projection of a data row onto the bound columns, and the row assertion never
fails.
-/

namespace Jayvee

variable {T V : Type}

/-- Modelled from the spec: a rectangular grid of raw string cells. -/
structure Sheet where
  data : List (List String)
  numberOfColumns : Nat
  rectangular : ∀ row ∈ data, row.length = numberOfColumns

namespace Sheet

def getNumberOfRows (sheet : Sheet) : Nat := sheet.data.length

def getNumberOfColumns (sheet : Sheet) : Nat := sheet.numberOfColumns

def getHeaderRow (sheet : Sheet) : List String := sheet.data.headD []

theorem getHeaderRow_length (sheet : Sheet) (h : 0 < sheet.getNumberOfRows) :
    sheet.getHeaderRow.length = sheet.getNumberOfColumns := by
  obtain ⟨data, n, hrect⟩ := sheet
  cases data with
  | nil => simp [getNumberOfRows] at h
  | cons row _ => exact hrect row (List.mem_cons_self _ _)

end Sheet

structure ValuetypeAssignment (T : Type) where
  name : String
  type : T

structure ColumnDefinitionEntry (V : Type) where
  sheetColumnIndex : Nat
  columnName : String
  valuetype : V

/-- Modelled from the spec: a named, typed column of a table. -/
structure ColumnInformation (V : Type) where
  name : String
  type : V

/-- Modelled from the spec: every row has as many cells as there are columns. -/
structure Table (V : Type) where
  columnInformation : List (ColumnInformation V)
  data : List (List String)
  data_length : ∀ row ∈ data, row.length = columnInformation.length

structure ExecutionError where
  message : String
  property : String

abbrev TableRow (width : Nat) := {tableRow : List String // tableRow.length = width}

/-- `array[index] = value` on a JavaScript array: past its end the array grows,
with holes (`none`) before `index`. -/
def arraySet {α : Type} (array : List (Option α)) (index : Nat) (value : α) : List (Option α) :=
  if index < array.length then array.set index (some value)
  else array ++ List.replicate (index - array.length) none ++ [some value]

@[simp] theorem arraySet_length_self {α : Type} (array : List (Option α)) (value : α) :
    arraySet array array.length value = array ++ [some value] := by
  simp [arraySet]

namespace TableInterpreterExecutor

section Executor

variable (createValuetype : T → V) (isValid : V → String → Bool)

def validateTableCell (sheetRow : List String) (state : Bool × List (Option String))
    (entry : Nat × ColumnDefinitionEntry V) : Bool × List (Option String) :=
  if !isValid entry.2.valuetype (sheetRow.getD entry.2.sheetColumnIndex "") then (true, state.2)
  else (state.1, arraySet state.2 entry.1 (sheetRow.getD entry.2.sheetColumnIndex ""))

/-- An invalid row gives `undefined`; a holey array would be read with `getD`. -/
def constructAndValidateTableRow (sheetRow : List String)
    (columnEntries : List (ColumnDefinitionEntry V)) :
    Except String (Option (TableRow columnEntries.length)) :=
  let result := columnEntries.enum.foldl (validateTableCell isValid sheetRow) (false, [])
  if result.1 then pure none
  else if h : result.2.length = columnEntries.length then
    pure (some ⟨result.2.map (·.getD ""), by simpa using h⟩)
  else throw assertionError

def validateSheetRow (header : Bool) (columnEntries : List (ColumnDefinitionEntry V))
    (tableData : List (TableRow columnEntries.length)) (row : Nat × List String) :
    Except String (List (TableRow columnEntries.length)) :=
  if header && row.1 == 0 then pure tableData
  else do
    match ← constructAndValidateTableRow isValid row.2 columnEntries with
    | none => pure tableData
    | some tableRow => pure (tableData ++ [tableRow])

def constructAndValidateTableData (sheet : Sheet) (header : Bool)
    (columnEntries : List (ColumnDefinitionEntry V)) :
    Except String (List (TableRow columnEntries.length)) :=
  sheet.data.enum.foldlM (validateSheetRow isValid header columnEntries) []

def deriveColumnDefinitionEntriesWithoutHeader (columnDefinitions : List (ValuetypeAssignment T)) :
    List (ColumnDefinitionEntry V) :=
  columnDefinitions.mapIdx fun columnDefinitionIndex columnDefinition =>
    ⟨columnDefinitionIndex, columnDefinition.name, createValuetype columnDefinition.type⟩

/-- A declared column whose name no header cell carries is omitted. -/
def deriveColumnDefinitionEntriesFromHeader (columnDefinitions : List (ValuetypeAssignment T))
    (headerRow : List String) : List (ColumnDefinitionEntry V) :=
  columnDefinitions.filterMap fun columnDefinition =>
    (headerRow.findIdx? (· == columnDefinition.name)).map fun indexOfMatchingHeader =>
      ⟨indexOfMatchingHeader, columnDefinition.name, createValuetype columnDefinition.type⟩

/-- The first half of `execute`: the column entries, or the error returned instead. -/
def deriveColumnDefinitionEntries (inputSheet : Sheet) (header : Bool)
    (columnDefinitions : List (ValuetypeAssignment T)) :
    Except ExecutionError (List (ColumnDefinitionEntry V)) :=
  if header then
    if inputSheet.getNumberOfRows < 1 then
      .error ⟨"The input sheet is empty and thus has no header", "header"⟩
    else .ok (deriveColumnDefinitionEntriesFromHeader createValuetype columnDefinitions
      inputSheet.getHeaderRow)
  else if inputSheet.getNumberOfColumns < columnDefinitions.length then
    .error ⟨"There are " ++ toString columnDefinitions.length ++
      " column definitions but the input sheet only has " ++
      toString inputSheet.getNumberOfColumns ++ " columns", "columns"⟩
  else .ok (deriveColumnDefinitionEntriesWithoutHeader createValuetype columnDefinitions)

/-- The outer `Except` is a thrown assertion, the inner one the returned `R.Result`. -/
def execute (inputSheet : Sheet) (header : Bool)
    (columnDefinitions : List (ValuetypeAssignment T)) :
    Except String (Except ExecutionError (Table V)) :=
  match deriveColumnDefinitionEntries createValuetype inputSheet header columnDefinitions with
  | .error e => pure (.error e)
  | .ok columnEntries => do
    let tableData ← constructAndValidateTableData isValid inputSheet header columnEntries
    pure (.ok ⟨columnEntries.map fun columnEntry => ⟨columnEntry.columnName, columnEntry.valuetype⟩,
      tableData.map (·.val), by
        simp only [List.mem_map, List.length_map]
        rintro _ ⟨r, -, rfl⟩
        exact r.2⟩)

def projectRow (columnEntries : List (ColumnDefinitionEntry V)) (sheetRow : List String) :
    Option (List String) :=
  if columnEntries.all fun e => isValid e.valuetype (sheetRow.getD e.sheetColumnIndex "") then
    some (columnEntries.map fun e => sheetRow.getD e.sheetColumnIndex "")
  else none

end Executor

section Spec

variable (createValuetype : T → V) (isValid : V → String → Bool)

/-- The sheet column each kept declaration binds to, as the spec describes it:
by the first header cell equal to its name, or by position. -/
def boundColumns (header : Bool) (headerRow : List String)
    (columnDefinitions : List (ValuetypeAssignment T)) : List (ValuetypeAssignment T × Nat) :=
  if header then
    (columnDefinitions.filter (·.name ∈ headerRow)).map fun d => (d, headerRow.indexOf d.name)
  else columnDefinitions.enum.map Prod.swap

@[simp] theorem boundColumns_true (headerRow : List String)
    (columnDefinitions : List (ValuetypeAssignment T)) :
    boundColumns true headerRow columnDefinitions =
      (columnDefinitions.filter (·.name ∈ headerRow)).map fun d => (d, headerRow.indexOf d.name) :=
  rfl

@[simp] theorem boundColumns_false (headerRow : List String)
    (columnDefinitions : List (ValuetypeAssignment T)) :
    boundColumns false headerRow columnDefinitions = columnDefinitions.enum.map Prod.swap :=
  rfl

def dataRows (sheet : Sheet) (header : Bool) : List (List String) :=
  if header then sheet.data.tail else sheet.data

/-- The rows the spec keeps: each data row whose bound cells are all valid,
projected onto the bound columns. -/
def selectedRows (bound : List (ValuetypeAssignment T × Nat)) (rows : List (List String)) :
    List (List String) :=
  rows.filterMap fun row =>
    if bound.all fun p => isValid (createValuetype p.1.type) (row.getD p.2 "") then
      some (bound.map fun p => row.getD p.2 "")
    else none

def boundEntry (binding : ValuetypeAssignment T × Nat) : ColumnDefinitionEntry V :=
  ⟨binding.2, binding.1.name, createValuetype binding.1.type⟩

end Spec

variable {createValuetype : T → V} {isValid : V → String → Bool}

theorem foldl_validateTableCell_fst (sheetRow : List String)
    (columnEntries : List (ColumnDefinitionEntry V)) (k : Nat)
    (state : Bool × List (Option String)) :
    ((columnEntries.enumFrom k).foldl (validateTableCell isValid sheetRow) state).1 =
      (state.1 ||
        !columnEntries.all fun e => isValid e.valuetype (sheetRow.getD e.sheetColumnIndex "")) := by
  induction columnEntries generalizing k state with
  | nil => simp
  | cons e rest ih =>
    rw [List.enumFrom_cons, List.foldl_cons, ih]
    unfold validateTableCell
    split <;> simp_all

theorem foldl_validateTableCell_snd (sheetRow : List String)
    (columnEntries : List (ColumnDefinitionEntry V)) (invalidRow : Bool)
    (tableRow : List (Option String))
    (h : (columnEntries.all fun e =>
      isValid e.valuetype (sheetRow.getD e.sheetColumnIndex "")) = true) :
    ((columnEntries.enumFrom tableRow.length).foldl (validateTableCell isValid sheetRow)
      (invalidRow, tableRow)).2 =
      tableRow ++ columnEntries.map fun e => some (sheetRow.getD e.sheetColumnIndex "") := by
  induction columnEntries generalizing tableRow with
  | nil => simp
  | cons e rest ih =>
    simp only [List.all_cons, Bool.and_eq_true] at h
    have hk : tableRow.length + 1 =
        (tableRow ++ [some (sheetRow.getD e.sheetColumnIndex "")]).length := by simp
    rw [List.enumFrom_cons, List.foldl_cons]
    simp only [validateTableCell, h.1, Bool.not_true, Bool.false_eq_true, ↓reduceIte,
      arraySet_length_self]
    rw [hk, ih _ h.2]
    simp

theorem constructAndValidateTableRow_val (sheetRow : List String)
    (columnEntries : List (ColumnDefinitionEntry V)) :
    ∃ tableRow, constructAndValidateTableRow isValid sheetRow columnEntries = .ok tableRow ∧
      tableRow.map Subtype.val = projectRow isValid columnEntries sheetRow := by
  have hfst := @foldl_validateTableCell_fst _ isValid sheetRow columnEntries 0 (false, [])
  unfold constructAndValidateTableRow projectRow
  cases hall : columnEntries.all fun e => isValid e.valuetype (sheetRow.getD e.sheetColumnIndex "")
  · simp only [hall, Bool.not_false, Bool.or_true] at hfst
    simp [List.enum, hfst]
  · have hsnd := foldl_validateTableCell_snd sheetRow columnEntries false [] hall
    simp only [hall, Bool.not_true, Bool.or_false] at hfst
    simp only [List.enum, List.length_nil] at hfst hsnd ⊢
    simp [hfst, hsnd, Function.comp_def]

theorem validateSheetRow_val (header : Bool) (columnEntries : List (ColumnDefinitionEntry V))
    (tableData : List (TableRow columnEntries.length)) (row : Nat × List String) :
    ∃ tableData', validateSheetRow isValid header columnEntries tableData row = .ok tableData' ∧
      tableData'.map Subtype.val = tableData.map Subtype.val ++
        if header && row.1 == 0 then [] else (projectRow isValid columnEntries row.2).toList := by
  unfold validateSheetRow
  split_ifs
  · exact ⟨tableData, rfl, by simp⟩
  · obtain ⟨tableRow, hrow, hval⟩ := @constructAndValidateTableRow_val _ isValid row.2
      columnEntries
    rw [hrow, ok_bind, ← hval]
    cases tableRow <;> simp

theorem foldlM_validateSheetRow (header : Bool) (columnEntries : List (ColumnDefinitionEntry V))
    (rows : List (List String)) (k : Nat) (tableData : List (TableRow columnEntries.length))
    (hk : header = false ∨ 0 < k) :
    ∃ out, (rows.enumFrom k).foldlM (validateSheetRow isValid header columnEntries) tableData =
        .ok out ∧
      out.map Subtype.val =
        tableData.map Subtype.val ++ rows.filterMap (projectRow isValid columnEntries) := by
  induction rows generalizing k tableData with
  | nil => exact ⟨tableData, rfl, by simp⟩
  | cons row rest ih =>
    have hskip : (header && k == 0) = false := by rcases hk with rfl | hk <;> simp; omega
    obtain ⟨next, hnext, hval⟩ := @validateSheetRow_val _ isValid header columnEntries
      tableData (k, row)
    obtain ⟨out, hout, hval'⟩ := ih (k + 1) next (hk.imp_right fun _ => k.succ_pos)
    refine ⟨out, by rw [List.enumFrom_cons, List.foldlM_cons, hnext, ok_bind, hout], ?_⟩
    rw [hval', hval, hskip]
    cases h : projectRow isValid columnEntries row <;> simp [h]

theorem constructAndValidateTableData_val (sheet : Sheet) (header : Bool)
    (columnEntries : List (ColumnDefinitionEntry V)) :
    ∃ tableData, constructAndValidateTableData isValid sheet header columnEntries = .ok tableData ∧
      tableData.map Subtype.val =
        (dataRows sheet header).filterMap (projectRow isValid columnEntries) := by
  unfold constructAndValidateTableData dataRows
  cases header with
  | false => exact foldlM_validateSheetRow false columnEntries sheet.data 0 [] (.inl rfl)
  | true =>
    cases sheet.data with
    | nil => exact ⟨[], rfl, rfl⟩
    | cons row rest =>
      simpa [List.enum_cons, List.foldlM_cons, validateSheetRow] using
        @foldlM_validateSheetRow _ isValid true columnEntries rest 1 [] (.inr Nat.one_pos)

theorem findIdx?_beq_eq (headerRow : List String) (name : String) :
    headerRow.findIdx? (· == name) =
      if name ∈ headerRow then some (headerRow.indexOf name) else none := by
  split_ifs with h
  · exact List.findIdx?_eq_some_iff_findIdx_eq.mpr ⟨List.indexOf_lt_length.mpr h, rfl⟩
  · exact List.findIdx?_eq_none_iff.mpr fun x hx => by simp [ne_of_mem_of_not_mem hx h]

theorem deriveColumnDefinitionEntriesFromHeader_eq
    (columnDefinitions : List (ValuetypeAssignment T)) (headerRow : List String) :
    deriveColumnDefinitionEntriesFromHeader createValuetype columnDefinitions headerRow =
      (boundColumns true headerRow columnDefinitions).map (boundEntry createValuetype) := by
  induction columnDefinitions with
  | nil => rfl
  | cons d rest ih =>
    simp only [deriveColumnDefinitionEntriesFromHeader, boundColumns_true] at ih ⊢
    rw [List.filterMap_cons, List.filter_cons, findIdx?_beq_eq]
    by_cases h : d.name ∈ headerRow <;> simp [h, ih, boundEntry]

theorem deriveColumnDefinitionEntriesWithoutHeader_eq
    (columnDefinitions : List (ValuetypeAssignment T)) (headerRow : List String) :
    deriveColumnDefinitionEntriesWithoutHeader createValuetype columnDefinitions =
      (boundColumns false headerRow columnDefinitions).map (boundEntry createValuetype) := by
  simp only [deriveColumnDefinitionEntriesWithoutHeader, boundColumns_false,
    List.mapIdx_eq_enum_map, List.map_map]
  rfl

theorem projectRow_boundEntry (bound : List (ValuetypeAssignment T × Nat))
    (sheetRow : List String) :
    projectRow isValid (bound.map (boundEntry createValuetype)) sheetRow =
      if bound.all fun p => isValid (createValuetype p.1.type) (sheetRow.getD p.2 "") then
        some (bound.map fun p => sheetRow.getD p.2 "")
      else none := by
  simp only [projectRow, List.all_eq, List.forall_mem_map, List.map_map]
  rfl

theorem deriveColumnDefinitionEntries_error_iff (inputSheet : Sheet) (header : Bool)
    (columnDefinitions : List (ValuetypeAssignment T)) :
    (∃ e, deriveColumnDefinitionEntries createValuetype inputSheet header columnDefinitions =
        .error e) ↔
      header = true ∧ inputSheet.getNumberOfRows = 0 ∨
        header = false ∧ inputSheet.getNumberOfColumns < columnDefinitions.length := by
  unfold deriveColumnDefinitionEntries
  cases header <;> split_ifs <;> simp_all

theorem deriveColumnDefinitionEntries_ok {inputSheet : Sheet} {header : Bool}
    {columnDefinitions : List (ValuetypeAssignment T)}
    {columnEntries : List (ColumnDefinitionEntry V)}
    (h : deriveColumnDefinitionEntries createValuetype inputSheet header columnDefinitions =
      .ok columnEntries) :
    columnEntries = (boundColumns header inputSheet.getHeaderRow columnDefinitions).map
        (boundEntry createValuetype) ∧
      ∀ p ∈ boundColumns header inputSheet.getHeaderRow columnDefinitions,
        p.2 < inputSheet.getNumberOfColumns := by
  unfold deriveColumnDefinitionEntries at h
  cases header with
  | true =>
    rw [if_pos rfl] at h
    split_ifs at h with hrows
    cases h
    refine ⟨deriveColumnDefinitionEntriesFromHeader_eq _ _, ?_⟩
    simp only [boundColumns_true, List.mem_map, List.mem_filter, decide_eq_true_eq]
    rintro _ ⟨d, ⟨-, hd⟩, rfl⟩
    exact inputSheet.getHeaderRow_length (by omega) ▸ List.indexOf_lt_length.mpr hd
  | false =>
    rw [if_neg Bool.false_ne_true] at h
    split_ifs at h with hcols
    cases h
    refine ⟨deriveColumnDefinitionEntriesWithoutHeader_eq _ _, ?_⟩
    simp only [boundColumns_false, List.mem_map]
    rintro _ ⟨p, hp, rfl⟩
    exact (List.fst_lt_of_mem_enum hp).trans_le (by omega)

/-- On every rectangular sheet `execute` never throws. It returns an error
exactly when the header row is missing or the sheet is narrower than the
declaration; otherwise the table's columns are the bound declarations, each
bound to a sheet column in range, and its rows are the projections of the data
rows whose bound cells are all valid. -/
theorem execute_table (inputSheet : Sheet) (header : Bool)
    (columnDefinitions : List (ValuetypeAssignment T)) :
    ∃ result, execute createValuetype isValid inputSheet header columnDefinitions = .ok result ∧
      ((∃ e, result = .error e) ↔ header = true ∧ inputSheet.getNumberOfRows = 0 ∨
          header = false ∧ inputSheet.getNumberOfColumns < columnDefinitions.length) ∧
      ∀ table, result = .ok table →
        (∀ p ∈ boundColumns header inputSheet.getHeaderRow columnDefinitions,
          p.2 < inputSheet.getNumberOfColumns) ∧
        table.columnInformation =
          (boundColumns header inputSheet.getHeaderRow columnDefinitions).map
            (fun p => ⟨p.1.name, createValuetype p.1.type⟩) ∧
        table.data = selectedRows createValuetype isValid
          (boundColumns header inputSheet.getHeaderRow columnDefinitions)
          (dataRows inputSheet header) := by
  rw [← @deriveColumnDefinitionEntries_error_iff _ _ createValuetype]
  unfold execute
  cases hd : deriveColumnDefinitionEntries createValuetype inputSheet header columnDefinitions with
  | error e => exact ⟨.error e, rfl, by simp, fun _ h => nomatch h⟩
  | ok columnEntries =>
    obtain ⟨hentries, hlt⟩ := deriveColumnDefinitionEntries_ok hd
    obtain ⟨tableData, htd, hval⟩ :=
      @constructAndValidateTableData_val _ isValid inputSheet header columnEntries
    simp only [htd, ok_bind, pure_eq_ok]
    refine ⟨_, rfl, by simp, ?_⟩
    rintro table ⟨⟩
    refine ⟨hlt, by simp [hentries, boundEntry], ?_⟩
    show tableData.map Subtype.val = _
    rw [hval, hentries, selectedRows]
    exact congrArg (List.filterMap · _) (funext (projectRow_boundEntry _))

/- The spec's two sheets: an invalid integer cell drops its row, and a sheet
narrower than the declaration is an error. -/
example : (execute id (fun integer (s : String) => !integer || s.data.all Char.isDigit)
    ⟨[["Id", "Name"], ["1", "Ann"], ["x", "Bob"]], 2, by decide⟩ true
    [⟨"Id", true⟩, ⟨"Name", false⟩]).map (·.map (·.data)) = .ok (.ok [["1", "Ann"]]) := rfl

example : (execute id (fun _ _ => true) ⟨[["1", "Ann"]], 2, by decide⟩ false
    [⟨"Id", true⟩, ⟨"Name", false⟩, ⟨"Age", true⟩]).map (·.map (·.data)) =
    .ok (.error
      ⟨"There are 3 column definitions but the input sheet only has 2 columns", "columns"⟩) :=
  rfl

end TableInterpreterExecutor

end Jayvee
