import TunnelOptions.Proofs.Toml.Keys
import TunnelOptions.Proofs.Toml.Values

/-!
# Lines read back

The lines of a plain table are its header and a pair for each entry. They are read as the statements
they were written for.

Writing goes from tables to lines and reading from lines to statements, so they do not meet by
themselves. The statements of a table (`statementsOf`) are put between the two: that a table is
written as their lines is one half, and that lines are read as their statements is the other. The
second half is about one line at a time. It says what is left to read behind the line, so that lines
and blocks of lines can be put one behind the other.

* `Statement.write`, `statementsOf`: the line of a statement, and the statements of a table.
* `tableBlocks_eq`: a plain table is written as those statements.
* `readStatement_write`: a line is read as its statement.
* `readStatements_line`, `readStatements_lines`: one line more, and any number of them, up to what
  stands behind.
* `readStatements_document`: two blocks with an empty line between them.
-/

set_option autoImplicit false

namespace TunnelOptions.Toml

/-! ## Lines

A table that holds other tables has more than one block of lines. A plain one has none inside, and
its entries have a line each. -/

/-- The line of a statement. -/
def Statement.write : Statement → List Char
  | .pair path value => Key.writePath path ++ " = ".toList ++ value.write
  | .table path => tableHeader path
  | .row path => rowHeader path

/-- The lines of some statements. -/
def writeLines (statements : List Statement) : List Char :=
  (statements.map Statement.write).flatMap line

/-- The statements of a table without tables inside: its header, and a pair for each entry. -/
def statementsOf (path : List String) (table : Table) : List Statement :=
  .table path :: table.map fun entry => .pair [entry.1] entry.2

/-- Statements that plain tables consist of: headers that are not too long to be read, and pairs of
one key and a plain value. Rows are not among them. -/
inductive Statement.Plain : Statement → Prop where
  | pair (key : String) {value : Value} (hvalue : value.Plain) : Plain (.pair [key] value)
  | table {path : List String} (hne : path ≠ []) (hlength : path.length ≤ Key.maxParts) :
    Plain (.table path)

theorem plain_of_mem_statementsOf {path : List String} (hne : path ≠ [])
    (hlength : path.length ≤ Key.maxParts) {table : Table}
    (htable : ∀ entry ∈ table, entry.2.Plain) :
    ∀ statement ∈ statementsOf path table, statement.Plain := by
  intro statement hstatement
  rcases List.mem_cons.1 hstatement with rfl | hpair
  · exact .table hne hlength
  · obtain ⟨entry, hentry, rfl⟩ := List.mem_map.1 hpair
    exact .pair entry.1 (htable entry hentry)

/-! ## Writing

Only the case of an array needs a look at the value, for an array of nothing but tables would be
written as blocks. -/

theorem partOf_plain (path : List String) (key : String) {value : Value} (hvalue : value.Plain) :
    partOf path key value = { lines := [writePair key value.write] } := by
  cases hvalue with
  | string s => rfl
  | integer n => rfl
  | boolean b => rfl
  | strings items =>
    have htables : allTables (items.map Value.string) = false := by
      cases items with
      | nil => rfl
      | cons s items => rfl
    rw [partOf, htables]
    rfl

/-- The entries of a plain table have a line each. -/
theorem partsOf_plain (path : List String) {table : Table}
    (htable : ∀ entry ∈ table, entry.2.Plain) :
    partsOf path table
      = table.map fun entry => { lines := [writePair entry.1 entry.2.write] } := by
  induction table with
  | nil => rfl
  | cons entry table ih =>
    rw [partsOf, partOf_plain path entry.1 (htable entry List.mem_cons_self),
      ih fun other hother => htable other (List.mem_cons_of_mem entry hother), List.map_cons]

/-- **A plain table is one block, with the lines of its statements.** -/
theorem tableBlocks_eq (path : List String) {table : Table}
    (htable : ∀ entry ∈ table, entry.2.Plain) :
    tableBlocks path table = [writeLines (statementsOf path table)] := by
  have hlines : (partsOf path table).flatMap Part.lines
      = table.map fun entry => (Statement.pair [entry.1] entry.2).write := by
    rw [partsOf_plain path htable, List.flatMap_map, List.map_eq_flatMap]
    rfl
  have hblocks : (partsOf path table).flatMap Part.blocks = [] := by
    rw [partsOf_plain path htable, List.flatMap_map, List.flatMap_eq_nil_iff]
    exact fun entry _ => rfl
  have hheader : (table.isEmpty || !(table.map fun entry =>
      (Statement.pair [entry.1] entry.2).write).isEmpty) = true := by
    cases table with
    | nil => rfl
    | cons entry table => rfl
  simp only [tableBlocks, blocksOf, hlines, hblocks, hheader, if_true, List.append_nil]
  rw [writeLines, statementsOf, List.map_cons, List.map_map]
  rfl

/-! ## Reading

One unit of fuel goes for each line, so that what is left after some lines is the fuel for what
stands behind them, and there is always some left at the end. -/

/-- **A pair is read as it was written.** -/
theorem readPair_write (key : String) {value : Value} (hvalue : value.Plain) {c : Char}
    (hc : isStop c = true) (rest : List Char) :
    readPair readValue ((Statement.pair [key] value).write ++ c :: rest)
      = some (([key], value), c :: rest) := by
  obtain ⟨d, ds, hds, hd⟩ := hvalue.write_eq_cons
  have hpath : Key.readPath (Key.writePath [key] ++ ' ' :: '=' :: ' ' :: (value.write ++ c :: rest))
      = some ([key], '=' :: ' ' :: (value.write ++ c :: rest)) :=
    Key.readParts_writePath (List.cons_ne_nil key []) (by simp [Key.maxParts]) (by decide) _
      (by simp [skipBlanks, isBlank])
  have hblanks : skipBlanks (' ' :: (value.write ++ c :: rest)) = value.write ++ c :: rest := by
    rw [hds, List.cons_append]
    exact skipBlanks_cons hd _
  have hline : (Statement.pair [key] value).write ++ c :: rest
      = Key.writePath [key] ++ ' ' :: '=' :: ' ' :: (value.write ++ c :: rest) := by
    simp [Statement.write]
  rw [hline, readPair, hpath]
  simp only [Option.bind_eq_bind, Option.bind_some, readChar, if_true, hblanks,
    readValue_write hvalue hc rest]

/-- A dotted key is read between the brackets of a header. -/
theorem readPath_header {path : List String} (hne : path ≠ [])
    (hlength : path.length ≤ Key.maxParts) (rest : List Char) :
    Key.readPath (Key.writePath path ++ ']' :: rest) = some (path, ']' :: rest) :=
  Key.readParts_writePath hne hlength (by decide) rest (by simp [skipBlanks, isBlank])

/-- A dotted key starts like its first part. -/
theorem Key.writePath_eq_cons {path : List String} (hne : path ≠ []) :
    ∃ c cs, Key.writePath path = c :: cs ∧ Key.isOpening c = true := by
  match path with
  | [] => exact absurd rfl hne
  | [key] => exact Key.write_eq_cons key
  | key :: next :: path =>
    obtain ⟨c, cs, hwrite, hc⟩ := Key.write_eq_cons key
    refine ⟨c, cs ++ '.' :: Key.writePath (next :: path), ?_, hc⟩
    rw [Key.writePath, hwrite, List.cons_append]
    exact List.cons_ne_nil next path

/-- **A line is read as its statement.** -/
theorem readStatement_write {statement : Statement} (h : statement.Plain) (rest : List Char) :
    readStatement (line statement.write ++ rest) = some (statement, rest) := by
  cases h with
  | @pair key value hvalue =>
    have hpair := readPair_write key hvalue (c := '\n') rfl rest
    have hline : line (Statement.pair [key] value).write ++ rest
        = (Statement.pair [key] value).write ++ '\n' :: rest := by
      rw [line, List.append_assoc, List.singleton_append]
    obtain ⟨c, cs, hwrite, hc⟩ := Key.writePath_eq_cons (List.cons_ne_nil key [])
    have hbracket : c ≠ '[' := ne_of_apply_ne Key.isOpening (by rw [hc]; decide)
    have hstart : (Statement.pair [key] value).write ++ '\n' :: rest
        = c :: (cs ++ " = ".toList ++ value.write ++ '\n' :: rest) := by
      rw [Statement.write, hwrite]
      rfl
    rw [hline]
    rw [hstart] at hpair ⊢
    unfold readStatement
    split
    · rename_i heq
      exact absurd (List.cons.inj heq).1 hbracket
    · rename_i heq
      exact absurd (List.cons.inj heq).1 hbracket
    · rw [hpair]
      rfl
  | @table path hne hlength =>
    obtain ⟨c, cs, hwrite, hc⟩ := Key.writePath_eq_cons hne
    have hbracket : c ≠ '[' := ne_of_apply_ne Key.isOpening (by rw [hc]; decide)
    have hpath := readPath_header hne hlength ('\n' :: rest)
    -- Only one bracket stands in front, since a key does not start with one.
    have hline : line (Statement.table path).write ++ rest
        = '[' :: (Key.writePath path ++ ']' :: '\n' :: rest) := by
      simp [line, Statement.write, tableHeader]
    rw [hline]
    rw [hwrite, List.cons_append] at hpath ⊢
    unfold readStatement
    split
    · rename_i heq
      exact absurd (List.cons.inj (List.cons.inj heq).2).1 hbracket
    · rename_i heq
      rw [← (List.cons.inj heq).2, hpath]
      rfl
    · rename_i hother
      exact absurd rfl (hother _)

/-- A line does not start with a blank, nor is it silent. -/
theorem Statement.Plain.write_eq_cons {statement : Statement} (h : statement.Plain) :
    ∃ c cs, statement.write = c :: cs ∧ isBlank c = false ∧ isSilent c = false := by
  cases h with
  | @pair key value hvalue =>
    obtain ⟨c, cs, hwrite, hc⟩ := Key.writePath_eq_cons (List.cons_ne_nil key [])
    have hsilent : isSilent c = false := by
      have hmark : c ≠ '#' := ne_of_apply_ne Key.isOpening (by rw [hc]; decide)
      have hfeed : c ≠ '\n' := ne_of_apply_ne Key.isOpening (by rw [hc]; decide)
      have hreturn : c ≠ '\r' := ne_of_apply_ne Key.isOpening (by rw [hc]; decide)
      simp [isSilent, hmark, hfeed, hreturn]
    exact ⟨c, _, by rw [Statement.write, hwrite]; rfl, Key.isBlank_of_isOpening hc, hsilent⟩
  | table hne hlength => exact ⟨'[', _, rfl, rfl, rfl⟩

/-- **One line more is one statement more.** -/
theorem readStatements_line {statement : Statement} (h : statement.Plain) (fuel : Nat)
    (rest : List Char) :
    readStatements (fuel + 1) (line statement.write ++ rest)
      = (readStatements fuel rest).map (statement :: ·) := by
  obtain ⟨c, cs, hwrite, hblank, hsilent⟩ := h.write_eq_cons
  have hread := readStatement_write h rest
  have hline : line statement.write ++ rest = c :: (cs ++ '\n' :: rest) := by
    rw [line, hwrite, List.append_assoc, List.cons_append, List.singleton_append]
  have hblanks := skipBlanks_cons hblank (cs ++ '\n' :: rest)
  rw [hline] at hread ⊢
  simp only [readStatements, hblanks, hsilent, Bool.false_eq_true, if_false, hread,
    Option.bind_eq_bind, Option.bind_some]
  cases readStatements fuel rest with
  | none => rfl
  | some statements => rfl

/-- **Lines are read as their statements**, and then what stands behind them is. -/
theorem readStatements_lines {statements : List Statement}
    (h : ∀ statement ∈ statements, statement.Plain) (fuel : Nat) (rest : List Char) :
    readStatements (statements.length + fuel) (writeLines statements ++ rest)
      = (readStatements fuel rest).map (statements ++ ·) := by
  induction statements with
  | nil =>
    rw [List.length_nil, Nat.zero_add]
    cases hread : readStatements fuel rest with
    | none => rw [Option.map_none]; exact hread
    | some statements => rw [Option.map_some]; exact hread
  | cons statement statements ih =>
    have hlines := ih fun other hother => h other (List.mem_cons_of_mem statement hother)
    have hwrite : writeLines (statement :: statements) ++ rest
        = line statement.write ++ (writeLines statements ++ rest) := by
      rw [writeLines, List.map_cons, List.flatMap_cons, List.append_assoc, writeLines]
    have hfuel : (statement :: statements).length + fuel = statements.length + fuel + 1 := by
      rw [List.length_cons, Nat.add_right_comm]
    rw [hwrite, hfuel, readStatements_line (h statement List.mem_cons_self), hlines, Option.map_map]
    rfl

/-- Every line has a line break at least. -/
theorem length_le_writeLines (statements : List Statement) :
    statements.length ≤ (writeLines statements).length := by
  induction statements with
  | nil => exact Nat.le_refl 0
  | cons statement statements ih =>
    rw [writeLines] at ih ⊢
    simp only [List.map_cons, List.flatMap_cons, line, List.length_append, List.length_cons,
      List.length_nil]
    omega

/-- **Two blocks are read as the statements of both.** -/
theorem readStatements_document {first second : List Statement}
    (hfirst : ∀ statement ∈ first, statement.Plain)
    (hsecond : ∀ statement ∈ second, statement.Plain) :
    readStatements ((document [writeLines first, writeLines second]).length + 1)
        (document [writeLines first, writeLines second])
      = some (first ++ second) := by
  have htext : document [writeLines first, writeLines second]
      = writeLines first ++ '\n' :: (writeLines second ++ []) := by
    simp [document, List.intercalate, List.intersperse]
  -- The lines of both blocks, the empty line between them, and one more look at the end.
  have hlength : ∃ fuel, (document [writeLines first, writeLines second]).length + 1
      = first.length + (second.length + (fuel + 1) + 1) := by
    have hle₁ := length_le_writeLines first
    have hle₂ := length_le_writeLines second
    rw [htext]
    simp only [List.length_append, List.length_cons, List.length_nil]
    exact ⟨(writeLines first).length - first.length
      + ((writeLines second).length - second.length), by omega⟩
  obtain ⟨fuel, hfuel⟩ := hlength
  have hgap : ∀ more fuel, readStatements (fuel + 1) ('\n' :: more) = readStatements fuel more :=
    fun more fuel => rfl
  have hend : readStatements (fuel + 1) [] = some [] := rfl
  rw [hfuel, htext, readStatements_lines hfirst, hgap, readStatements_lines hsecond, hend,
    Option.map_some, Option.map_some, List.append_nil]

end TunnelOptions.Toml
