import VertexTestbed.Host.RunLog
import VertexTestbed.Lib.CutRecords
import VertexTestbed.Lib.LittleEndian

/-!
# The rows file

What `RunLog.start` and `flush` write, in each of the three formats, and `recover_rows`. A text file
is a list of characters: everything in it is ASCII, so a character is a byte.

How a float is packed, written and read is the interpreter's business and a parameter,
`FloatFormat`. `finite` marks the numbers that are floats; the laws are asked of these only.
-/

namespace VertexTestbed.Host

open CutRecords

/-- The text of a file, or of a part of it. -/
abbrev Text := List Char

/-! ### Floats -/

/-- `struct` with `d`, `repr` and `float`: a finite number survives both, and is written without a
separator, a newline, a bracket or a blank. -/
structure FloatFormat (K : Type*) where
  finite : K → Prop
  pack : K → Bytes
  unpack : Bytes → K
  repr : K → Text
  float : Text → Option K
  pack_length : ∀ v, (pack v).length = 8
  unpack_pack : ∀ v, finite v → unpack (pack v) = v
  float_repr : ∀ v, finite v → float (repr v) = some v
  repr_plain : ∀ v, finite v → ∀ ch ∈ repr v,
    ch ∉ [',', '\r', '\n', '[', ']'] ∧ ch.isWhitespace = false
  /-- No beginning of the first column's name is a number, the empty one included. -/
  float_timestamp : ∀ p, p <+: "timestamp".toList → float p = none

variable {K : Type*} (F : FloatFormat K)

/-! ### Writing -/

/-- `LogFormat`. -/
inductive LogFormat where
  | binary
  | csv
  | jsonl
  deriving DecidableEq

/-- A file, by its mode. -/
inductive RowsFile where
  | bytes (b : Bytes)
  | text (t : Text)
  deriving DecidableEq

/-- What a crash leaves of it. -/
def RowsFile.cut (n : ℕ) : RowsFile → RowsFile
  | bytes b => bytes (b.take n)
  | text t => text (t.take n)

/-- `_pack`. -/
def packRow (row : List K) : Bytes :=
  row.flatMap F.pack

/-- The numbers of a row and commas between them. -/
def commaRow (row : List K) : Text :=
  [','].intercalate (row.map F.repr)

/-- A row as `csv.writer` writes it. -/
def csvLine (row : List K) : Text :=
  commaRow F row ++ ['\r', '\n']

/-- A row as `json.dumps` writes it, and a newline. -/
def jsonLine (row : List K) : Text :=
  '[' :: (commaRow F row ++ [']', '\n'])

/-- The header line of a csv file. -/
def csvHeader (info : RunMeta) : Text :=
  [','].intercalate (info.columnNames.map String.toList) ++ ['\n']

/-- The rows file of a log, with these rows written to it. -/
def rowsFile (fmt : LogFormat) (info : RunMeta) (rows : List (List K)) : RowsFile :=
  match fmt with
  | .binary => .bytes (rows.flatMap (packRow F))
  | .csv => .text (csvHeader info ++ rows.flatMap (csvLine F))
  | .jsonl => .text (rows.flatMap (jsonLine F))

/-! ### Reading -/

/-- The numbers of a packed row. -/
def unpackRow (ncols : ℕ) (record : Bytes) : List K :=
  (List.range ncols).map fun j ↦ F.unpack (fieldAt record (j * 8) 8)

/-- `recover_rows` of a `.bin` file: whole records only. -/
def recoverBinary (ncols : ℕ) (blob : Bytes) : List (List K) :=
  (List.range (blob.length / (ncols * 8))).map fun i ↦
    unpackRow F ncols (fieldAt blob (i * (ncols * 8)) (ncols * 8))

/-- A line as `csv.reader` reads it, where nothing is quoted. -/
def csvFields (line : Text) : List Text :=
  if line = [] then [] else line.splitOn ','

/-- `[float(x) for x in row]`, `none` where one of them raises `ValueError`. -/
def floatRow (row : List Text) : Option (List K) :=
  row.mapM F.float

/-- `recover_rows` of a `.csv` file: the header is skipped, and so is what is not all numbers. -/
def recoverCsv (text : Text) : List (List K) :=
  match (fileLines text).map csvFields with
  | [] => []
  | first :: rest =>
    (if first.head? = some "timestamp".toList then rest else first :: rest).filterMap (floatRow F)

/-- `line.strip()`. -/
def strip (line : Text) : Text :=
  ((line.dropWhile Char.isWhitespace).reverse.dropWhile Char.isWhitespace).reverse

/-- `json.loads`, of a line that is the beginning of an array of numbers: it raises unless the array
is closed. -/
def jsonLoads (line : Text) : Option (List K) :=
  match line with
  | '[' :: rest =>
    if rest.getLast? = some ']' then
      if rest.dropLast = [] then some [] else floatRow F (rest.dropLast.splitOn ',')
    else none
  | _ => none

/-- `recover_rows` of a `.jsonl` file. -/
def recoverJsonl (text : Text) : List (List K) :=
  (fileLines text).filterMap fun line ↦
    if strip line = [] then none else jsonLoads F (strip line)

/-- `recover_rows`, of a file with this suffix and with the run's metadata at hand. -/
def recoverRows (fmt : LogFormat) (info : RunMeta) : RowsFile → List (List K)
  | .bytes blob => recoverBinary F info.recordWidth blob
  | .text text => if fmt = .csv then recoverCsv F text else recoverJsonl F text

/-! ### A row read back -/

section Rows

variable {F}

/-- Every number of a row is a float. -/
def FiniteRow (F : FloatFormat K) (row : List K) : Prop :=
  ∀ v ∈ row, F.finite v

/-- A row of finite numbers is read back. -/
theorem floatRow_repr {row : List K} (h : FiniteRow F row) :
    floatRow F (row.map F.repr) = some row := by
  induction row with
  | nil => rfl
  | cons v row ih =>
    rw [List.map_cons, floatRow, List.mapM_cons, F.float_repr v (h v List.mem_cons_self)]
    rw [floatRow] at ih
    rw [ih fun w hw ↦ h w (List.mem_cons_of_mem _ hw)]
    rfl

/-- What a row is written with. -/
theorem mem_commaRow {row : List K} (h : FiniteRow F row) {ch : Char} (hch : ch ∈ commaRow F row) :
    ch ∉ ['\r', '\n', '[', ']'] ∧ ch.isWhitespace = false := by
  obtain rfl | ⟨text, htext, hmem⟩ := mem_intercalate hch
  · decide
  · obtain ⟨v, hv, rfl⟩ := List.mem_map.mp htext
    obtain ⟨hplain, hblank⟩ := F.repr_plain v (h v hv) ch hmem
    exact ⟨fun hin ↦ hplain (List.mem_cons_of_mem _ hin), hblank⟩

/-- A row with a number in it is no empty line. -/
theorem commaRow_ne_nil {row : List K} (h : FiniteRow F row) (hne : row ≠ []) :
    commaRow F row ≠ [] := by
  obtain ⟨v, row, rfl⟩ := List.exists_cons_of_ne_nil hne
  have hrepr : F.repr v ≠ [] := by
    intro hempty
    have hround := F.float_repr v (h v List.mem_cons_self)
    rw [hempty, F.float_timestamp [] List.nil_prefix] at hround
    cases hround
  rw [commaRow, List.map_cons]
  cases row with
  | nil => rwa [List.map_nil, List.intercalate_singleton]
  | cons w row => simp [List.intercalate_cons_cons]

/-- A row is cut at its commas: no number has one. -/
theorem splitOn_commaRow {row : List K} (h : FiniteRow F row) (hne : row ≠ []) :
    (commaRow F row).splitOn ',' = row.map F.repr := by
  refine List.splitOn_intercalate ',' ?_ (by simpa using hne)
  intro text htext hcomma
  obtain ⟨v, hv, rfl⟩ := List.mem_map.mp htext
  exact (F.repr_plain v (h v hv) _ hcomma).1 List.mem_cons_self

/-- **A whole line of a csv file reads as its row.** -/
theorem floatRow_commaRow {row : List K} (h : FiniteRow F row) (hne : row ≠ []) :
    floatRow F (csvFields (commaRow F row)) = some row := by
  rw [csvFields, if_neg (commaRow_ne_nil h hne), splitOn_commaRow h hne, floatRow_repr h]

/-- A json line has no blank to strip. -/
theorem strip_of_no_blank {line : Text} (h : ∀ ch ∈ line, ch.isWhitespace = false) :
    strip line = line := by
  have hdrop : ∀ l : Text, (∀ ch ∈ l, ch.isWhitespace = false) →
      l.dropWhile Char.isWhitespace = l := by
    intro l hl
    cases l with
    | nil => rfl
    | cons ch l =>
      rw [List.dropWhile_cons, if_neg (by simp [hl ch List.mem_cons_self])]
  rw [strip, hdrop line h, hdrop _ fun ch hch ↦ h ch (List.mem_reverse.mp hch),
    List.reverse_reverse]

/-- The array of a row. -/
theorem jsonLoads_row {row : List K} (h : FiniteRow F row) (hne : row ≠ []) :
    jsonLoads F ('[' :: (commaRow F row ++ [']'])) = some row := by
  rw [jsonLoads, if_pos (by simp), List.dropLast_concat, if_neg (commaRow_ne_nil h hne),
    splitOn_commaRow h hne, floatRow_repr h]

/-- **The beginning of an array is no array.** -/
theorem jsonLoads_of_cut {row : List K} (h : FiniteRow F row) {line : Text}
    (hbegins : line <+: '[' :: (commaRow F row ++ [']']))
    (hshort : line.length < ('[' :: (commaRow F row ++ [']'])).length) :
    jsonLoads F line = none := by
  cases line with
  | nil => rfl
  | cons c rest =>
    obtain ⟨rfl, hrest⟩ := List.cons_prefix_cons.mp hbegins
    have hinner : rest <+: commaRow F row :=
      List.prefix_of_prefix_length_le hrest (List.prefix_append _ _) (by simp at hshort; omega)
    have hopen : rest.getLast? ≠ some ']' := by
      intro hclosed
      have hmem := hinner.subset (List.mem_of_getLast? hclosed)
      exact (mem_commaRow h hmem).1 (by simp)
    rw [jsonLoads, if_neg hopen]

/-! ### A file read back -/

/-- Each row of a CSV file is one line. -/
theorem fileLines_csv {rows : List (List K)} (h : ∀ row ∈ rows, FiniteRow F row) (tail : Text) :
    fileLines (rows.flatMap (csvLine F) ++ tail) = rows.map (commaRow F) ++ fileLines tail := by
  induction rows with
  | nil => rfl
  | cons row rows ih =>
    have hrow := h row List.mem_cons_self
    rw [List.flatMap_cons, csvLine, List.append_assoc, List.append_assoc, List.cons_append,
      List.cons_append, List.nil_append,
      fileLines_append_crlf (fun hr ↦ (mem_commaRow hrow hr).1 (by simp))
        (fun hn ↦ (mem_commaRow hrow hn).1 (by simp)),
      ih fun r hr ↦ h r (List.mem_cons_of_mem _ hr)]
    rfl

/-- The characters of the line of a json row. -/
theorem mem_jsonRow {row : List K} (h : FiniteRow F row) {ch : Char}
    (hch : ch ∈ '[' :: (commaRow F row ++ [']'])) :
    ch ≠ '\r' ∧ ch ≠ '\n' ∧ ch.isWhitespace = false := by
  obtain rfl | hch := List.mem_cons.mp hch
  · decide
  · obtain hch | hch := List.mem_append.mp hch
    · obtain ⟨hplain, hblank⟩ := mem_commaRow h hch
      exact ⟨fun hcr ↦ hplain (by simp [hcr]), fun hlf ↦ hplain (by simp [hlf]), hblank⟩
    · obtain rfl := List.mem_singleton.mp hch
      decide

/-- Each row of a JSON lines file is one line. -/
theorem fileLines_json {rows : List (List K)} (h : ∀ row ∈ rows, FiniteRow F row) (tail : Text) :
    fileLines (rows.flatMap (jsonLine F) ++ tail) =
      rows.map (fun row ↦ '[' :: (commaRow F row ++ [']'])) ++ fileLines tail := by
  induction rows with
  | nil => rfl
  | cons row rows ih =>
    have hrow := h row List.mem_cons_self
    have hline : (row :: rows).flatMap (jsonLine F) ++ tail =
        ('[' :: (commaRow F row ++ [']'])) ++ '\n' :: (rows.flatMap (jsonLine F) ++ tail) := by
      simp [jsonLine]
    rw [hline, fileLines_append_lf (fun hr ↦ (mem_jsonRow hrow hr).1 rfl)
      (fun hn ↦ (mem_jsonRow hrow hn).2.1 rfl), ih fun r hr ↦ h r (List.mem_cons_of_mem _ hr)]
    rfl

variable (F) in
/-- The row that the rest of a csv line reads as, if it reads as one. -/
def csvRest (tail : Text) : Option (List K) :=
  (fileLines tail).head?.bind fun line ↦ floatRow F (csvFields line)

/-- What `recover_rows` makes of the lines behind the header. -/
theorem filterMap_csv {rows : List (List K)} (h : ∀ row ∈ rows, FiniteRow F row ∧ row ≠ [])
    {tail : Text} (htail : (fileLines tail).length ≤ 1) :
    ((fileLines (rows.flatMap (csvLine F) ++ tail)).map csvFields).filterMap (floatRow F) =
      rows ++ (csvRest F tail).toList := by
  have hwhole : ((rows.map (commaRow F)).map csvFields).filterMap (floatRow F) = rows := by
    rw [List.map_map, List.filterMap_map]
    have hsome : ∀ row ∈ rows, (floatRow F ∘ csvFields ∘ commaRow F) row = some row :=
      fun row hrow ↦ floatRow_commaRow (h row hrow).1 (h row hrow).2
    rw [List.filterMap_congr hsome, List.filterMap_some]
  have hrest : ((fileLines tail).map csvFields).filterMap (floatRow F) =
      (csvRest F tail).toList := by
    rw [csvRest]
    rcases hlines : fileLines tail with _ | ⟨line, lines⟩
    · rfl
    · rw [hlines] at htail
      obtain rfl : lines = [] := List.eq_nil_of_length_eq_zero (by simpa using htail)
      rw [List.map_singleton, List.head?_cons, Option.bind_some]
      rcases hread : floatRow F (csvFields line) with _ | row
      · simp [hread]
      · simp [hread]
  rw [fileLines_csv fun row hrow ↦ (h row hrow).1, List.map_append, List.filterMap_append, hwhole,
    hrest]

/-- What `recover_rows` makes of the lines of a json file. -/
theorem recoverJsonl_append {rows : List (List K)} (h : ∀ row ∈ rows, FiniteRow F row ∧ row ≠ [])
    (tail : Text) :
    recoverJsonl F (rows.flatMap (jsonLine F) ++ tail) = rows ++ recoverJsonl F tail := by
  have hline : ∀ row ∈ rows, strip ('[' :: (commaRow F row ++ [']'])) =
      '[' :: (commaRow F row ++ [']']) := fun row hrow ↦
    strip_of_no_blank fun ch hch ↦ (mem_jsonRow (h row hrow).1 hch).2.2
  have hwhole : (rows.map fun row ↦ '[' :: (commaRow F row ++ [']'])).filterMap (fun line ↦
      if strip line = [] then none else jsonLoads F (strip line)) = rows := by
    rw [List.filterMap_map]
    have hsome : ∀ row ∈ rows, ((fun line ↦ if strip line = [] then none else
        jsonLoads F (strip line)) ∘ fun row ↦ '[' :: (commaRow F row ++ [']'])) row = some row := by
      intro row hrow
      rw [Function.comp_apply, hline row hrow, if_neg (by simp),
        jsonLoads_row (h row hrow).1 (h row hrow).2]
    rw [List.filterMap_congr hsome, List.filterMap_some]
  rw [recoverJsonl, fileLines_json fun row hrow ↦ (h row hrow).1, List.filterMap_append, hwhole,
    recoverJsonl]

/-- **The rest of a json line is its row or nothing.** -/
theorem recoverJsonl_rest {row : List K} (h : FiniteRow F row) (hne : row ≠ []) {tail : Text}
    (htail : tail <+: jsonLine F row) (hshort : tail.length < (jsonLine F row).length) :
    recoverJsonl F tail = [] ∨ recoverJsonl F tail = [row] := by
  set line : Text := '[' :: (commaRow F row ++ [']']) with hlinedef
  have hend : jsonLine F row = line ++ ['\n'] := by simp [jsonLine, hlinedef]
  rw [hend] at htail hshort
  obtain ⟨hbegins, hlines⟩ := fileLines_of_prefix_lf (fun hr ↦ (mem_jsonRow h hr).1 rfl)
    (fun hn ↦ (mem_jsonRow h hn).2.1 rfl) htail hshort
  obtain rfl | hlines := hlines
  · exact .inl rfl
  have hstrip : strip tail = tail :=
    strip_of_no_blank fun ch hch ↦ (mem_jsonRow h (hbegins.subset hch)).2.2
  have hread : recoverJsonl F tail =
      (if tail = [] then none else jsonLoads F tail).toList := by
    rw [recoverJsonl, hlines, List.filterMap_cons, hstrip]
    cases (if tail = [] then none else jsonLoads F tail) with
    | none => rfl
    | some row => rfl
  by_cases hnil : tail = []
  · rw [hread, if_pos hnil]
    exact .inl rfl
  rw [hread, if_neg hnil]
  by_cases hwhole : tail = line
  · rw [hwhole, jsonLoads_row h hne]
    exact .inr rfl
  · have hlt : tail.length < line.length := by
      refine lt_of_le_of_ne hbegins.length_le fun hlen ↦ hwhole ?_
      exact hbegins.eq_of_length hlen
    rw [jsonLoads_of_cut h hbegins hlt]
    exact .inl rfl

/-- The packed rows of a log read back, with anything shorter than a row behind them. -/
theorem recoverBinary_append {ncols : ℕ} (hpos : 0 < ncols) {rows : List (List K)}
    (h : ∀ row ∈ rows, FiniteRow F row ∧ row.length = ncols) {tail : Bytes}
    (hshort : tail.length < ncols * 8) :
    recoverBinary F ncols (rows.flatMap (packRow F) ++ tail) = rows := by
  have hpacked : ∀ row : List K, (packRow F row).length = row.length * 8 := by
    intro row
    simp [packRow, List.length_flatMap, F.pack_length]
  have hlength : (rows.flatMap (packRow F)).length = rows.length * (ncols * 8) := by
    have hmap : rows.map (fun row ↦ (packRow F row).length) = rows.map fun _ ↦ ncols * 8 :=
      List.map_congr_left fun row hrow ↦ by rw [hpacked, (h row hrow).2]
    rw [List.length_flatMap, hmap]
    simp
  -- A tail shorter than a record does not count.
  have hcount : (rows.flatMap (packRow F) ++ tail).length / (ncols * 8) = rows.length := by
    rw [List.length_append, hlength, Nat.add_comm, Nat.add_mul_div_right _ _ (by omega),
      Nat.div_eq_of_lt hshort, Nat.zero_add]
  have hunpack : ∀ row, FiniteRow F row → row.length = ncols →
      unpackRow F ncols (packRow F row) = row := by
    intro row hrow hwidth
    refine List.ext_getElem (by simp [unpackRow, hwidth]) fun j hj hj' ↦ ?_
    have hcell : fieldAt (packRow F row) (j * 8) 8 = F.pack row[j] := by
      have hfield := fieldAt_flatMap (w := 8) (fun v _ ↦ F.pack_length v)
        (List.getElem?_eq_getElem hj') (j := 0) (n := 8) le_rfl
      rw [Nat.add_zero] at hfield
      rw [packRow, hfield, fieldAt, List.drop_zero, List.take_of_length_le (F.pack_length _).le]
    simp only [unpackRow, List.getElem_map, List.getElem_range]
    rw [hcell, F.unpack_pack _ (hrow _ (List.getElem_mem hj'))]
  rw [recoverBinary, hcount]
  refine List.ext_getElem (by simp) fun i hi hi' ↦ ?_
  obtain ⟨hrow, hwidth⟩ := h _ (List.getElem_mem hi')
  have hin : i * (ncols * 8) + ncols * 8 ≤ (rows.flatMap (packRow F)).length := by
    rw [hlength, ← Nat.succ_mul]
    exact Nat.mul_le_mul_right _ hi'
  have hrecord : fieldAt (rows.flatMap (packRow F) ++ tail) (i * (ncols * 8)) (ncols * 8) =
      packRow F rows[i] := by
    have hfield := fieldAt_flatMap (w := ncols * 8)
      (fun row hrow ↦ by rw [hpacked, (h row hrow).2]) (List.getElem?_eq_getElem hi') (j := 0)
      (n := ncols * 8) (by omega)
    rw [Nat.add_zero] at hfield
    rw [fieldAt_append_of_le hin, hfield, fieldAt, List.drop_zero, List.take_of_length_le]
    rw [hpacked, hwidth]
  simp only [List.getElem_map, List.getElem_range]
  rw [hrecord, hunpack _ hrow hwidth]

end Rows

/-! ### The header -/

/-- A name without a newline in it. -/
def PlainName (name : String) : Prop :=
  (name.toList.all fun ch ↦ ch != '\r' && ch != '\n') = true

instance (name : String) : Decidable (PlainName name) :=
  inferInstanceAs (Decidable (_ = _))

/-- Plain names make plain names. -/
theorem PlainName.append {s t : String} (hs : PlainName s) (ht : PlainName t) :
    PlainName (s ++ t) := by
  rw [PlainName, String.toList_append, List.all_append, hs, ht]
  rfl

/-- A plain name ends no line. -/
theorem PlainName.not_mem {name : String} (h : PlainName name) {ch : Char}
    (hch : ch ∈ name.toList) : ch ≠ '\r' ∧ ch ≠ '\n' := by
  simpa using List.all_eq_true.mp h ch hch

/-- The number of a node is a plain name. -/
theorem plainName_toString (nid : ℕ) : PlainName (toString nid) := by
  rw [PlainName, List.all_eq_true]
  intro ch hch
  rw [Nat.toString_eq_repr, Nat.toList_repr] at hch
  have hdigit := Nat.isDigit_of_mem_toDigits (b := 10) (by decide) (by decide) hch
  have hr : ch ≠ '\r' := by
    rintro rfl
    cases hdigit
  have hn : ch ≠ '\n' := by
    rintro rfl
    cases hdigit
  simp [hr, hn]

/-- The names of a log's columns are plain. -/
theorem plainName_columnNames (c : RegisteredController) (is_relay : Bool) (neighbors : List ℕ) :
    ∀ name ∈ (runMeta c is_relay neighbors).columnNames, PlainName name := by
  have hheads : ∀ c ∈ RegisteredController.registry, ∀ is_relay : Bool,
      ∀ name ∈ (runMeta c is_relay []).headColumns, PlainName name := by
    decide +kernel
  have hhead : ∀ name ∈ (runMeta c is_relay neighbors).headColumns, PlainName name :=
    hheads c c.mem_registry is_relay
  have hliterals : ∀ name ∈ ["rx_", "seq_", "rssi_", "_", "P", "Q"], PlainName name := by
    decide +kernel
  intro name hname
  obtain hname | hname := List.mem_append.mp hname
  · exact hhead name hname
  · obtain ⟨nid, -, hname⟩ := List.mem_flatMap.mp hname
    have hid := plainName_toString nid
    obtain hvalue | hflag := List.mem_append.mp hname
    · rw [valueColumns] at hvalue
      split_ifs at hvalue with hdim
      · obtain rfl := List.mem_singleton.mp hvalue
        exact hid
      · obtain ⟨suffix, hsuffix, rfl⟩ := List.mem_map.mp hvalue
        have hcoord : suffix ∈ ["rx_", "seq_", "rssi_", "_", "P", "Q"] := by
          have := List.mem_of_mem_take hsuffix
          simp only [coordSuffix, List.mem_cons, List.not_mem_nil, or_false] at this
          obtain rfl | rfl := this
          · decide
          · decide
        exact (hid.append (hliterals _ (by decide))).append (hliterals _ hcoord)
    · simp only [List.mem_cons, List.not_mem_nil, or_false] at hflag
      obtain rfl | rfl | rfl := hflag
      · exact PlainName.append (hliterals _ (by decide)) hid
      · exact PlainName.append (hliterals _ (by decide)) hid
      · exact PlainName.append (hliterals _ (by decide)) hid

/-- The header line, up to its newline. -/
def headerLine (info : RunMeta) : Text :=
  [','].intercalate (info.columnNames.map String.toList)

/-- It starts with the column that `recover_rows` looks for. -/
theorem headerLine_timestamp (info : RunMeta) :
    ∃ rest, headerLine info = "timestamp".toList ++ ',' :: rest := by
  refine ⟨[','].intercalate ("device_timestamp".toList ::
    ((info.timing_columns ++ info.state_columns ++
      info.neighbors.flatMap (neighborColumns info.dim)).map String.toList)), ?_⟩
  rw [headerLine, RunMeta.columnNames, RunMeta.headColumns]
  simp only [List.cons_append, List.nil_append, List.map_cons, List.append_assoc]
  rw [List.intercalate_cons_cons]
  simp

/-- The header is one line. -/
theorem headerLine_plain {info : RunMeta} (hplain : ∀ name ∈ info.columnNames, PlainName name) :
    '\r' ∉ headerLine info ∧ '\n' ∉ headerLine info := by
  have hmem : ∀ ch ∈ headerLine info, ch ≠ '\r' ∧ ch ≠ '\n' := by
    intro ch hch
    obtain rfl | ⟨text, htext, hin⟩ := mem_intercalate hch
    · decide
    · obtain ⟨name, hname, rfl⟩ := List.mem_map.mp htext
      exact (hplain name hname).not_mem hin
  exact ⟨fun h ↦ (hmem _ h).1 rfl, fun h ↦ (hmem _ h).2 rfl⟩

/-- The first field of a line that starts with it. -/
theorem csvFields_timestamp (rest : Text) :
    (csvFields ("timestamp".toList ++ ',' :: rest)).head? = some "timestamp".toList := by
  rw [csvFields, if_neg (by simp), List.splitOn_append_cons_self_of_not_mem (by decide)]
  rfl

/-- Behind a whole header. -/
theorem recoverCsv_header {info : RunMeta} (hplain : ∀ name ∈ info.columnNames, PlainName name)
    (rest : Text) :
    recoverCsv F (csvHeader info ++ rest) =
      ((fileLines rest).map csvFields).filterMap (floatRow F) := by
  obtain ⟨hr, hn⟩ := headerLine_plain hplain
  have hlines : fileLines (csvHeader info ++ rest) = headerLine info :: fileLines rest := by
    rw [csvHeader, ← headerLine, List.append_assoc]
    exact fileLines_append_lf hr hn rest
  obtain ⟨tail, htail⟩ := headerLine_timestamp info
  rw [recoverCsv, hlines, List.map_cons]
  dsimp only
  rw [htail, csvFields_timestamp, if_pos rfl]

/-- **Of a header that is cut short nothing is recovered.** -/
theorem recoverCsv_cut_header {info : RunMeta}
    (hplain : ∀ name ∈ info.columnNames, PlainName name) {tail : Text}
    (htail : tail <+: csvHeader info) : recoverCsv F tail = [] := by
  obtain ⟨hr, hn⟩ := headerLine_plain hplain
  by_cases hwhole : tail = csvHeader info
  · have hnothing := recoverCsv_header (F := F) hplain []
    rw [List.append_nil] at hnothing
    rw [hwhole, hnothing]
    rfl
  have hshort : tail.length < (csvHeader info).length :=
    lt_of_le_of_ne htail.length_le fun hlen ↦ hwhole (htail.eq_of_length hlen)
  obtain ⟨hbegins, hlines⟩ := fileLines_of_prefix_lf hr hn htail hshort
  obtain rfl | hlines := hlines
  · rfl
  obtain ⟨rest, hrest⟩ := headerLine_timestamp info
  rw [hrest] at hbegins
  rw [recoverCsv, hlines, List.map_singleton]
  dsimp only
  have hskip : (csvFields tail).head? = some "timestamp".toList →
      List.filterMap (floatRow F) (if (csvFields tail).head? = some "timestamp".toList then []
        else [csvFields tail]) = [] := fun hfirst ↦ by
    rw [if_pos hfirst]
    rfl
  -- Either the cut came behind the first name, which is then skipped, or what is left is no number.
  obtain hwithin | ⟨q, rfl⟩ := List.prefix_or_prefix_of_prefix hbegins (List.prefix_append _ _)
  · have hread : floatRow F [tail] = none := by
      rw [floatRow, List.mapM_cons, F.float_timestamp tail hwithin]
      rfl
    have hne : tail ≠ [] := by
      rintro rfl
      cases hlines
    have hfields : csvFields tail = [tail] := by
      rw [csvFields, if_neg hne, List.splitOn_eq_singleton fun hcomma ↦
        absurd (hwithin.subset hcomma) (by decide)]
    by_cases hfirst : (csvFields tail).head? = some "timestamp".toList
    · exact hskip hfirst
    · rw [if_neg hfirst, hfields, List.filterMap_cons, hread]
      rfl
  · refine hskip ?_
    have hq := (List.prefix_append_right_inj _).mp hbegins
    cases q with
    | nil => decide
    | cons c q =>
      obtain ⟨rfl, -⟩ := List.cons_prefix_cons.mp hq
      exact csvFields_timestamp q

/-! ### A file that was cut -/

section Cut

variable {F} {info : RunMeta} {rows : List (List K)}

variable (F) in
/-- The rows of a log whose file can be read back. -/
def GoodRows (info : RunMeta) (rows : List (List K)) : Prop :=
  ∀ row ∈ rows, FiniteRow F row ∧ row.length = info.recordWidth

/-- No row is empty. -/
theorem recordWidth_pos (info : RunMeta) : 0 < info.recordWidth := by
  rw [RunMeta.recordWidth]
  omega

/-- Good rows are finite, and not empty. -/
theorem GoodRows.ne_nil (h : GoodRows F info rows) :
    ∀ row ∈ rows, FiniteRow F row ∧ row ≠ [] := by
  intro row hrow
  refine ⟨(h row hrow).1, ?_⟩
  rintro rfl
  have hwidth := (h [] hrow).2
  have hpos := recordWidth_pos info
  rw [List.length_nil] at hwidth
  omega

/-- So are the first of them. -/
theorem GoodRows.begun (h : GoodRows F info rows) {done : List (List K)}
    (hbegun : done <+: rows) : GoodRows F info done :=
  fun row hrow ↦ h row (hbegun.subset hrow)

/-- A file that was not cut. -/
theorem recoverRows_whole (hplain : ∀ name ∈ info.columnNames, PlainName name)
    (h : GoodRows F info rows) (fmt : LogFormat) :
    recoverRows F fmt info (rowsFile F fmt info rows) = rows := by
  cases fmt with
  | binary =>
    have hshort : ([] : Bytes).length < info.recordWidth * 8 := by
      have := recordWidth_pos info
      simp
      omega
    have hread := recoverBinary_append (recordWidth_pos info) h hshort
    rwa [List.append_nil] at hread
  | csv =>
    have hshort : (fileLines ([] : Text)).length ≤ 1 := by decide
    have hread := filterMap_csv h.ne_nil hshort
    rw [List.append_nil] at hread
    rw [rowsFile, recoverRows, if_pos rfl, recoverCsv_header F hplain, hread]
    exact List.append_nil rows
  | jsonl =>
    have hread := recoverJsonl_append h.ne_nil []
    rw [List.append_nil] at hread
    rw [rowsFile, recoverRows, if_neg (by decide), hread]
    exact List.append_nil rows

/-- A binary file: the whole records. -/
theorem recover_cut_binary (h : GoodRows F info rows) (n : ℕ) :
    recoverRows F .binary info ((rowsFile F .binary info rows).cut n) =
      (cut (packRow F) rows n).1 := by
  rw [rowsFile, RowsFile.cut, recoverRows, take_flatMap]
  refine recoverBinary_append (recordWidth_pos info) (h.begun (cut_done rows n)) ?_
  obtain ⟨hnil, -⟩ | ⟨row, rest, hrows, -, hshort⟩ := cut_tail (packRow F) rows n
  · rw [hnil]
    have := recordWidth_pos info
    simp
    omega
  · have hmem : row ∈ rows := hrows ▸ List.mem_append_right _ List.mem_cons_self
    have hpacked : (packRow F row).length = info.recordWidth * 8 := by
      rw [packRow, List.length_flatMap, ← (h row hmem).2]
      simp [F.pack_length]
    rwa [hpacked] at hshort

/-- A json file: a prefix. -/
theorem recover_cut_json (h : GoodRows F info rows) (n : ℕ) :
    recoverRows F .jsonl info ((rowsFile F .jsonl info rows).cut n) <+: rows := by
  rw [rowsFile, RowsFile.cut, recoverRows, if_neg (by decide), take_flatMap,
    recoverJsonl_append (h.begun (cut_done rows n)).ne_nil]
  obtain ⟨hnil, hbegun⟩ | ⟨row, rest, hrows, hbegins, hshort⟩ :=
    cut_tail (jsonLine F) rows n
  · rw [hnil, show recoverJsonl F [] = [] from rfl, List.append_nil]
    exact hbegun
  · have hmem : row ∈ rows := hrows ▸ List.mem_append_right _ List.mem_cons_self
    obtain ⟨hrow, hne⟩ := h.ne_nil row hmem
    obtain hnone | hsome := recoverJsonl_rest hrow hne hbegins hshort
    · rw [hnone, List.append_nil]
      exact cut_done rows n
    · rw [hsome]
      exact ⟨rest, by rw [List.append_assoc, List.singleton_append, ← hrows]⟩

/-- **A csv file: the whole lines, and what the rest of the next one reads as.** -/
theorem recover_cut_csv (hplain : ∀ name ∈ info.columnNames, PlainName name)
    (h : GoodRows F info rows) (n : ℕ) :
    recoverRows F .csv info ((rowsFile F .csv info rows).cut n) =
      (cut (csvLine F) rows (n - (csvHeader info).length)).1 ++
        (csvRest F (cut (csvLine F) rows (n - (csvHeader info).length)).2).toList := by
  set m := n - (csvHeader info).length with hm
  rw [rowsFile, RowsFile.cut, recoverRows, if_pos rfl]
  -- Behind the whole rows there is at most one line more, the beginning of the next row.
  have hrest : (fileLines (cut (csvLine F) rows m).2).length ≤ 1 := by
    obtain ⟨hnil, -⟩ | ⟨row, rest, hrows, hbegins, hshort⟩ := cut_tail (csvLine F) rows m
    · rw [hnil]
      decide
    · have hmem : row ∈ rows := hrows ▸ List.mem_append_right _ List.mem_cons_self
      have hrow := (h row hmem).1
      obtain hnil | ⟨-, hline⟩ | hline := fileLines_of_prefix_crlf
        (fun hr ↦ (mem_commaRow hrow hr).1 (by simp)) (fun hn ↦ (mem_commaRow hrow hn).1 (by simp))
        hbegins hshort
      · rw [hnil]
        decide
      · rw [hline]
        rfl
      · rw [hline]
        rfl
  by_cases hheader : n ≤ (csvHeader info).length
  · -- The cut came in the header, so no row is there at all.
    have hzero : m = 0 := by omega
    have hnothing : (cut (csvLine F) rows 0).1 = [] ∧ (cut (csvLine F) rows 0).2 = [] := by
      cases rows with
      | nil => exact ⟨rfl, rfl⟩
      | cons row rows =>
        rw [cut, if_neg (by simp [csvLine])]
        exact ⟨rfl, rfl⟩
    rw [List.take_append_of_le_length hheader, hzero, hnothing.1, hnothing.2,
      recoverCsv_cut_header F hplain (List.take_prefix _ _)]
    rfl
  · rw [List.take_append, List.take_of_length_le (by omega), ← hm, take_flatMap,
      recoverCsv_header F hplain,
      filterMap_csv (h.begun (cut_done rows m)).ne_nil hrest]

end Cut

/-! ### Recovering a log -/

/-- The rows file of a log as it is on disk: what was flushed. -/
def RunLog.file (log : RunLog K) (fmt : LogFormat) : RowsFile :=
  rowsFile F fmt log.info log.written

/-- Only what was logged is recovered: a prefix of the rows if the file is cut at byte `n`, all of
them from the file of the closed log; and an append that raises leaves the count and the buffer. -/
structure RecoversLogged [Field K] (fmt : LogFormat) (log : RunLog K) (n : ℕ) : Prop where
  cut : recoverRows F fmt log.info ((log.file F fmt).cut n) <+: log.rows
  whole : recoverRows F fmt log.info (log.close.file F fmt) = log.rows
  raised : ∀ s e, (log.append s).2 = some e →
    (log.append s).1.count = log.count ∧ (log.append s).1.buf = log.buf

/-- What the cut leaves of a csv row does not read as numbers, or reads as the row. -/
def CutReadsRight (log : RunLog K) (n : ℕ) : Prop :=
  let rest := cut (csvLine F) log.written (n - (csvHeader log.info).length)
  ∀ row, csvRest F rest.2 = some row → log.written[rest.1.length]? = some row

/-- A log of any appends. -/
def loggedRun [Field K] (c : RegisteredController) (is_relay : Bool) (neighbors : List ℕ)
    (flush_every : ℕ) (h : 1 ≤ flush_every) (ss : List (Sample K)) : RunLog K :=
  (RunLog.start (runMeta c is_relay neighbors) flush_every h).appendAll ss

section Logged

variable {F} [Field K] {c : RegisteredController} {is_relay : Bool} {neighbors : List ℕ}
  {flush_every : ℕ} {hflush : 1 ≤ flush_every} {ss : List (Sample K)}

/-- A log that is fed samples stays well shaped, and keeps what it was made with. -/
theorem loggedRun_inv :
    (loggedRun c is_relay neighbors flush_every hflush ss).WellShaped ∧
      (loggedRun c is_relay neighbors flush_every hflush ss).info = runMeta c is_relay neighbors ∧
      (loggedRun c is_relay neighbors flush_every hflush ss).started = true :=
  RunLog.appendAll_inv (by intro row hrow; cases hrow) ss

/-- **Only what was logged is recovered, unless a csv file is cut where the rest of a row reads as
another row.** -/
theorem recoversLogged_iff (F : FloatFormat K) (fmt : LogFormat) (c : RegisteredController)
    (is_relay : Bool) (neighbors : List ℕ) (flush_every : ℕ) (hflush : 1 ≤ flush_every)
    (ss : List (Sample K))
    (hfinite : ∀ row ∈ (loggedRun c is_relay neighbors flush_every hflush ss).rows,
      FiniteRow F row) (n : ℕ) :
    RecoversLogged F fmt (loggedRun c is_relay neighbors flush_every hflush ss) n ↔
      (fmt = .csv → CutReadsRight F (loggedRun c is_relay neighbors flush_every hflush ss) n) := by
  set log := loggedRun c is_relay neighbors flush_every hflush ss
  obtain ⟨hshape, hinfo, hstarted⟩ : log.WellShaped ∧ log.info = runMeta c is_relay neighbors ∧
    log.started = true := loggedRun_inv
  have hplain : ∀ name ∈ log.info.columnNames, PlainName name := by
    rw [hinfo]
    exact plainName_columnNames c is_relay neighbors
  have hrows : GoodRows F log.info log.rows := fun row hrow ↦ ⟨hfinite row hrow, hshape row hrow⟩
  have hbegun : log.written <+: log.rows := List.prefix_append _ _
  have hwritten : GoodRows F log.info log.written := hrows.begun hbegun
  have hclosed : log.close.info = log.info := by
    rw [RunLog.close, if_pos hstarted]
    exact RunLog.flush_info log
  have hwhole : recoverRows F fmt log.info (log.close.file F fmt) = log.rows := by
    rw [RunLog.file, RunLog.close_written hstarted, hclosed]
    exact recoverRows_whole hplain hrows fmt
  have hraised : ∀ s e, (log.append s).2 = some e →
      (log.append s).1.count = log.count ∧ (log.append s).1.buf = log.buf := by
    intro s e he
    obtain ⟨-, -, happend⟩ | ⟨e', happend⟩ := log.append_cases s
    · rw [happend] at he
      cases he
    · rw [happend]
      exact ⟨rfl, rfl⟩
  -- Binary records have a fixed width and a line of JSON ends in a bracket; a line of CSV shows no
  -- end.
  have hcut : recoverRows F fmt log.info ((log.file F fmt).cut n) <+: log.rows ↔
      (fmt = .csv → CutReadsRight F log n) := by
    cases fmt with
    | binary =>
      refine iff_of_true ?_ fun h ↦ (by cases h)
      rw [RunLog.file, recover_cut_binary hwritten]
      exact (cut_done _ n).trans hbegun
    | csv =>
      rw [RunLog.file, recover_cut_csv hplain hwritten, RunLog.rows, recovered_prefix_iff]
      · exact ⟨fun h _ ↦ h, fun h ↦ h rfl⟩
      · intro hnil
        rw [hnil]
        rfl
    | jsonl =>
      exact iff_of_true ((recover_cut_json hwritten n).trans hbegun) fun h ↦ (by cases h)
  exact ⟨fun h ↦ hcut.mp h.cut, fun h ↦ ⟨hcut.mpr h, hwhole, hraised⟩⟩

end Logged

/-! ### A wrong last sample -/

/-- The value of some decimal digits. -/
def digitsValue (digits : Text) : ℕ :=
  digits.foldl (fun n ch ↦ 10 * n + (ch.toNat - '0'.toNat)) 0

/-- `float`, of an unsigned decimal. -/
def parseDecimal (text : Text) : Option ℚ :=
  let whole := text.takeWhile Char.isDigit
  if whole = [] then none
  else
    match text.dropWhile Char.isDigit with
    | [] => some (digitsValue whole)
    | '.' :: frac =>
      if frac.all Char.isDigit then
        some (digitsValue whole + digitsValue frac / 10 ^ frac.length)
      else none
    | _ => none

/-- Three floats as the interpreter packs, writes and reads them. -/
def threeFloats : FloatFormat ℚ where
  finite v := v ∈ [0, 1, 25 / 2]
  pack v :=
    if v = 1 then [0, 0, 0, 0, 0, 0, 0xF0, 0x3F]
    else if v = 25 / 2 then [0, 0, 0, 0, 0, 0, 0x29, 0x40]
    else [0, 0, 0, 0, 0, 0, 0, 0]
  unpack b :=
    if b = [0, 0, 0, 0, 0, 0, 0xF0, 0x3F] then 1
    else if b = [0, 0, 0, 0, 0, 0, 0x29, 0x40] then 25 / 2
    else 0
  repr v := (if v = 1 then "1.0" else if v = 25 / 2 then "12.5" else "0.0").toList
  float := parseDecimal
  pack_length v := by
    split_ifs <;> rfl
  unpack_pack := by decide +kernel
  float_repr := by decide +kernel
  repr_plain v hv ch hch := by
    have hplain : ∀ v : ℚ, v ∈ [0, 1, 25 / 2] →
        (((if v = 1 then "1.0" else if v = 25 / 2 then "12.5" else "0.0").toList).all fun ch ↦
          !([',', '\r', '\n', '[', ']'].contains ch) && !ch.isWhitespace) = true := by
      decide +kernel
    simpa using List.all_eq_true.mp (hplain v hv) ch hch
  float_timestamp p hp := by
    have hinits : ∀ p ∈ "timestamp".toList.inits, parseDecimal p = none := by decide +kernel
    exact hinits p ((List.mem_inits p _).mpr hp)

/-- One sample of a scalar agent without neighbours. -/
def loggedSample : Sample ℚ where
  t_s := 1
  channels := [0, 0, 25 / 2]
  neighbor_vstates := []
  neighbor_fresh := []
  device_t_s := none
  neighbor_seq := []
  neighbor_rssi := []
  timing := []

/-- Its log, flushed after every sample. -/
def oneSampleLog : RunLog ℚ :=
  loggedRun .finiteTimeAdaptive false [] 1 le_rfl [loggedSample]

theorem oneSampleLog_rows : oneSampleLog.rows = [[1, 1, 0, 0, 25 / 2]] := by
  decide +kernel

/-- Four samples. -/
def loggedSamples : List (Sample ℚ) :=
  [{ loggedSample with t_s := 0 }, loggedSample, { loggedSample with t_s := 25 / 2 }, loggedSample]

/-- Their log, flushed after every third. -/
def samplesLog : RunLog ℚ :=
  loggedRun .finiteTimeAdaptive false [] 3 (by decide) loggedSamples

theorem samplesLog_finite : ∀ row ∈ samplesLog.rows, FiniteRow threeFloats row := by
  have hfloats : ∀ row ∈ samplesLog.rows, ∀ v ∈ row, v ∈ [(0 : ℚ), 1, 25 / 2] := by decide +kernel
  exact hfloats

/-- Behind the second number of the third row nothing is read of it: `12.5,12.5,` ends in an empty
field. -/
theorem samplesLog_cutReadsRight : CutReadsRight threeFloats samplesLog 103 := by
  have hrest : csvRest threeFloats
      (cut (csvLine threeFloats) samplesLog.written (103 - (csvHeader samplesLog.info).length)).2 =
        none := by
    decide +kernel
  intro row hrow
  rw [hrest] at hrow
  cases hrow

/-- Of the four rows three are in the file, and two of them in front of the cut. -/
theorem recoversLogged_iff_csv :
    RecoversLogged threeFloats .csv samplesLog 103 ∧
      recoverRows threeFloats .csv samplesLog.info ((samplesLog.file threeFloats .csv).cut 103) =
        [[0, 0, 0, 0, 25 / 2], [1, 1, 0, 0, 25 / 2]] :=
  ⟨(recoversLogged_iff threeFloats .csv .finiteTimeAdaptive false [] 3 (by decide) loggedSamples
    samplesLog_finite 103).mpr fun _ ↦ samplesLog_cutReadsRight, by decide +kernel⟩

/-- **Cut within its last number, the row is recovered with another one**: of `12.5` the file keeps
`12`. -/
theorem cut_number_recovered :
    oneSampleLog.rows = [[1, 1, 0, 0, 25 / 2]] ∧
      recoverRows threeFloats .csv oneSampleLog.info ((oneSampleLog.file threeFloats .csv).cut 67) =
        [[1, 1, 0, 0, 12]] ∧
      ¬RecoversLogged threeFloats .csv oneSampleLog 67 := by
  have hrecovered : recoverRows threeFloats .csv oneSampleLog.info
      ((oneSampleLog.file threeFloats .csv).cut 67) = [[1, 1, 0, 0, 12]] := by
    decide +kernel
  refine ⟨oneSampleLog_rows, hrecovered, fun h ↦ ?_⟩
  have hbegun := h.cut
  rw [hrecovered, oneSampleLog_rows] at hbegun
  revert hbegun
  decide +kernel

end VertexTestbed.Host
