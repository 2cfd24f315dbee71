import VertexTestbed.Numeric
import VertexTestbed.Host.Recording

/-!
# Loading a log

`analysis/units.py` and `load_node` of `analysis/load.py`. A log is loaded into columns by name, and
the columns of a log whose metadata says `scaled_int` are converted by what their name says they
are; a log that says `engineering` is taken as it is. `record` and `recordReport` decide what really
stands in each column.
-/

namespace VertexTestbed.Host

variable {K : Type*} [Field K] [LinearOrder K] [FloorRing K]

/-! ### Names -/

/-- `name.startswith(p)`. -/
def startsWith (p name : String) : Bool :=
  p.toList.isPrefixOf name.toList

/-- `name.isdigit()`, for the names of a log. -/
def isdigit (name : String) : Bool :=
  !name.toList.isEmpty && name.toList.all Char.isDigit

/-- `_scaled_columns`: every relay column of the registry, once. -/
def scaledColumns : List String :=
  RegisteredController.registry.foldl (fun out c ↦
    c.relayColumns.foldl (fun out name ↦ if name ∈ out then out else out ++ [name]) out) []

/-- `PASSTHROUGH_COLUMNS`. -/
def passthroughColumns : List String := ["timestamp", "device_timestamp"]

/-- `PASSTHROUGH_PREFIXES`. -/
def passthroughPrefixes : List String := ["rx_", "seq_", "rssi_"]

/-- The columns that go through as they are. -/
def isPassthrough (name : String) : Bool :=
  passthroughColumns.contains name || passthroughPrefixes.any fun p ↦ startsWith p name

/-- The columns that are converted, unless they go through. -/
def isScaled (name : String) : Bool :=
  scaledColumns.contains name || isdigit name

/-! ### Conversion -/

/-- `dequantize`. -/
def dequantize (v : K) : K :=
  v / scaleFactor

/-- What `normalize_run` raises. -/
inductive UnitError where
  /-- `UnknownColumn`, with the columns as the message lists them. -/
  | unknownColumn (names : List String)
  /-- `ValueError` of `convert_value`. -/
  | notInt32
  deriving DecidableEq

/-- `convert_value`. -/
def convertValue (frm dest : UnitSystem) (v : K) : Except UnitError K :=
  match frm, dest with
  | .scaledInt, .engineering => .ok (dequantize v)
  | .engineering, .scaledInt =>
    if FitsI32 (quantize v) then .ok (quantize v : K) else .error .notInt32
  | _, _ => .ok v

/-- The columns of a run, by name, and the units its metadata claims. -/
structure RunPayload (K : Type*) where
  units : UnitSystem
  data : List (String × List K)
  deriving DecidableEq

/-- What becomes of one column. -/
def convertColumn (frm dest : UnitSystem) (entry : String × List K) :
    Except UnitError (String × List K) :=
  if isPassthrough entry.1 then .ok entry
  else if isScaled entry.1 then do
    let column ← entry.2.mapM (convertValue frm dest)
    return (entry.1, column)
  else .ok entry

/-- The columns that are neither. -/
def unknownColumns (data : List (String × List K)) : List String :=
  (data.map Prod.fst).filter fun name ↦ !isPassthrough name && !isScaled name

/-- `sorted`, of names: by code points. -/
def sortedNames (names : List String) : List String :=
  names.insertionSort (· ≤ ·)

/-- `normalize_run`. -/
def normalizeRun (dest : UnitSystem) (run : RunPayload K) : Except UnitError (RunPayload K) :=
  if run.units = dest then .ok { run with units := dest }
  else do
    let converted ← run.data.mapM (convertColumn run.units dest)
    if unknownColumns run.data ≠ [] then
      .error (.unknownColumn (sortedNames (unknownColumns run.data)))
    else .ok ⟨dest, converted⟩

/-! ### Loading -/

/-- The numbers of a row under a name. -/
def cellsNamed (names : List String) (name : String) (row : List K) : List K :=
  ((names.zip row).filter fun cell ↦ cell.1 == name).map Prod.snd

/-- `data` of `load_node`: the names in the order they first occur, each with its numbers. -/
def columnData (names : List String) (rows : List (List K)) : List (String × List K) :=
  names.eraseDups.map fun name ↦ (name, rows.flatMap (cellsNamed names name))

/-- `load_node`, from the recovered rows on. -/
def loadNode (info : RunMeta) (rows : List (List K)) : Except UnitError (RunPayload K) :=
  normalizeRun .engineering ⟨info.units, columnData info.columnNames rows⟩

/-! ### What each name is -/

section Cells

omit [LinearOrder K] [FloorRing K]

theorem isdigit_toString (nid : ℕ) : isdigit (toString nid) = true := by
  rw [isdigit, Nat.toString_eq_repr, Nat.toList_repr]
  simp [List.isEmpty_eq_false_iff, Nat.toDigits_ne_nil, List.all_eq_true]
  intro ch hch
  exact Nat.isDigit_of_mem_toDigits (by decide) (by decide) hch

/-- The names and prefixes that are spelled out start with letters. -/
theorem spelled_out_head : ∀ name ∈ passthroughColumns ++ (passthroughPrefixes ++ scaledColumns),
    ∃ c rest, name.toList = c :: rest ∧ c.isDigit = false := by
  have hheads : ∀ name ∈ passthroughColumns ++ (passthroughPrefixes ++ scaledColumns),
      (name.toList.head?.map Char.isDigit) = some false := by
    decide +kernel
  intro name hname
  obtain ⟨c, hc, hdigit⟩ := Option.map_eq_some_iff.mp (hheads name hname)
  obtain ⟨rest, hrest⟩ := List.head?_eq_some_iff.mp hc
  exact ⟨c, rest, hrest, hdigit⟩

/-- **A name that starts with a digit is none of them.** -/
theorem not_spelled_out {name : String} {ch : Char} {tail : List Char}
    (hname : name.toList = ch :: tail) (hdigit : ch.isDigit = true) :
    isPassthrough name = false ∧ scaledColumns.contains name = false := by
  have hne : ∀ p ∈ passthroughColumns ++ (passthroughPrefixes ++ scaledColumns),
      ¬p.toList <+: name.toList := by
    rintro p hp ⟨suffix, hsuffix⟩
    obtain ⟨c, rest, hc, hletter⟩ := spelled_out_head p hp
    rw [hc, hname, List.cons_append] at hsuffix
    rw [(List.cons.inj hsuffix).1, hdigit] at hletter
    cases hletter
  have hcontains : ∀ names ⊆ passthroughColumns ++ (passthroughPrefixes ++ scaledColumns),
      names.contains name = false := by
    intro names hsub
    by_contra hmem
    rw [Bool.not_eq_false, List.contains_iff_mem] at hmem
    exact hne name (hsub hmem) List.prefix_rfl
  have hprefixes : (passthroughPrefixes.any fun p ↦ startsWith p name) = false := by
    rw [List.any_eq_false]
    intro p hp hstarts
    exact hne p (List.mem_append_right _ (List.mem_append_left _ hp))
      (List.isPrefixOf_iff_prefix.mp hstarts)
  refine ⟨?_, hcontains _ fun n hn ↦ List.mem_append_right _ (List.mem_append_right _ hn)⟩
  rw [isPassthrough, hprefixes, hcontains _ fun n hn ↦ List.mem_append_left _ hn]
  rfl

/-- How a neighbour's number starts. -/
theorem toString_head (nid : ℕ) :
    ∃ ch tail, (toString nid).toList = ch :: tail ∧ ch.isDigit = true := by
  have hdigits : (toString nid).toList = Nat.toDigits 10 nid := by
    rw [Nat.toString_eq_repr, Nat.toList_repr]
  obtain ⟨ch, tail, hhead⟩ := List.exists_cons_of_ne_nil (Nat.toDigits_ne_nil (n := nid) (b := 10))
  refine ⟨ch, tail, hdigits.trans hhead, ?_⟩
  exact Nat.isDigit_of_mem_toDigits (b := 10) (by decide) (by decide)
    (hhead ▸ List.mem_cons_self)

/-- The column of a neighbour under a scalar law is converted. -/
theorem value_column (nid : ℕ) :
    isPassthrough (toString nid) = false ∧ isScaled (toString nid) = true := by
  obtain ⟨ch, tail, hname, hdigit⟩ := toString_head nid
  refine ⟨(not_spelled_out hname hdigit).1, ?_⟩
  rw [isScaled, isdigit_toString, Bool.or_true]

/-- **The columns of a neighbour with two coordinates are known to nobody.** -/
theorem coordinate_column (nid : ℕ) (c : String) :
    isPassthrough (toString nid ++ "_" ++ c) = false ∧
      isScaled (toString nid ++ "_" ++ c) = false := by
  obtain ⟨ch, tail, hname, hdigit⟩ := toString_head nid
  have happend : (toString nid ++ "_" ++ c).toList = ch :: (tail ++ ("_".toList ++ c.toList)) := by
    rw [String.toList_append, String.toList_append, hname, List.append_assoc, List.cons_append]
  obtain ⟨hpass, hscaled⟩ := not_spelled_out happend hdigit
  refine ⟨hpass, ?_⟩
  have hunderscore : (tail ++ ("_".toList ++ c.toList)).all Char.isDigit = false := by
    rw [List.all_append, List.all_append, show "_".toList.all Char.isDigit = false by decide,
      Bool.false_and, Bool.and_false]
  rw [isScaled, hscaled, isdigit, happend, List.all_cons, hunderscore]
  simp

/-- The flag, number and RSSI columns of a neighbour go through. -/
theorem flag_columns (nid : ℕ) :
    isPassthrough ("rx_" ++ toString nid) = true ∧ isPassthrough ("seq_" ++ toString nid) = true ∧
      isPassthrough ("rssi_" ++ toString nid) = true := by
  have hstarts : ∀ p ∈ passthroughPrefixes, isPassthrough (p ++ toString nid) = true := by
    intro p hp
    have hprefix : startsWith p (p ++ toString nid) = true := by
      rw [startsWith, String.toList_append]
      exact List.isPrefixOf_iff_prefix.mpr (List.prefix_append _ _)
    rw [isPassthrough, List.any_eq_true.mpr ⟨p, hp, hprefix⟩, Bool.or_true]
  exact ⟨hstarts _ (by decide), hstarts _ (by decide), hstarts _ (by decide)⟩

/-! ### What becomes of a cell -/

/-- What a number under a name becomes when a scaled log is loaded. -/
def convertCell (name : String) (v : K) : K :=
  if !isPassthrough name && isScaled name then dequantize v else v

theorem convertColumn_scaled [LinearOrder K] [FloorRing K] (entry : String × List K) :
    convertColumn .scaledInt .engineering entry =
      .ok (entry.1, entry.2.map (convertCell entry.1)) := by
  have hmap : entry.2.mapM (convertValue .scaledInt .engineering) =
      (.ok (entry.2.map dequantize) : Except UnitError (List K)) :=
    List.mapM_pure
  have hsame : (!isPassthrough entry.1 && isScaled entry.1) = false →
      entry.2.map (convertCell entry.1) = entry.2 := by
    intro h
    have hid : convertCell (K := K) entry.1 = id := by
      funext v
      rw [convertCell, h]
      rfl
    rw [hid, List.map_id]
  rw [convertColumn]
  by_cases hpass : isPassthrough entry.1 = true
  · rw [if_pos hpass, hsame (by simp [hpass])]
  · by_cases hscaled : isScaled entry.1 = true
    · have hconvert : convertCell (K := K) entry.1 = dequantize := by
        funext v
        rw [convertCell, if_pos (by simp [hpass, hscaled])]
      rw [if_neg hpass, if_pos hscaled, hmap, hconvert]
      rfl
    · rw [if_neg hpass, if_neg hscaled, hsame (by simp [hscaled])]

/-- **Loading a scaled log converts every cell by its name, or rejects the log for the names it
does not know.** -/
theorem loadNode_scaled [LinearOrder K] [FloorRing K] {info : RunMeta}
    (hunits : info.units = .scaledInt) (rows : List (List K)) :
    loadNode info rows =
      if unknownColumns (columnData info.columnNames rows) ≠ [] then
        .error (.unknownColumn (sortedNames (unknownColumns (columnData info.columnNames rows))))
      else .ok ⟨.engineering, (columnData info.columnNames rows).map fun entry ↦
        (entry.1, entry.2.map (convertCell entry.1))⟩ := by
  have hmap : (columnData info.columnNames rows).mapM (convertColumn .scaledInt .engineering) =
      (.ok ((columnData info.columnNames rows).map fun entry ↦
        (entry.1, entry.2.map (convertCell entry.1))) :
          Except UnitError (List (String × List K))) := by
    rw [funext convertColumn_scaled]
    exact List.mapM_pure
  rw [loadNode, normalizeRun, hunits, if_neg (by simp), hmap]
  rfl

theorem loadNode_engineering [LinearOrder K] [FloorRing K] {info : RunMeta}
    (hunits : info.units = .engineering) (rows : List (List K)) :
    loadNode info rows = .ok ⟨.engineering, columnData info.columnNames rows⟩ := by
  rw [loadNode, normalizeRun, hunits, if_pos rfl]

omit [Field K] in
/-- Rows whose cells are converted by name load as converted columns. -/
theorem columnData_zipWith (names : List String) (rows : List (List K)) (f : String → K → K) :
    columnData names (rows.map (List.zipWith f names)) =
      (columnData names rows).map fun entry ↦ (entry.1, entry.2.map (f entry.1)) := by
  have hcells : ∀ name row, cellsNamed names name (List.zipWith f names row) =
      (cellsNamed names name row).map (f name) := by
    intro name row
    have hzip : names.zip (List.zipWith f names row) =
        (names.zip row).map fun cell ↦ (cell.1, f cell.1 cell.2) := by
      induction names generalizing row with
      | nil => rfl
      | cons n names ih =>
        cases row with
        | nil => rfl
        | cons v row => simp [ih]
    rw [cellsNamed, hzip, List.filter_map, cellsNamed, List.map_map, List.map_map]
    refine List.map_congr_left fun cell hcell ↦ ?_
    have hname : cell.1 = name := by simpa using (List.mem_filter.mp hcell).2
    rw [Function.comp_apply, Function.comp_apply, hname]
  rw [columnData, columnData, List.map_map]
  refine List.map_congr_left fun name _ ↦ ?_
  rw [Function.comp_apply, List.flatMap_map, List.map_flatMap]
  simp only [hcells]

omit [Field K] in
theorem unknownColumns_columnData {names : List String} (rows : List (List K)) :
    unknownColumns (columnData names rows) = [] ↔
      ∀ name ∈ names, isPassthrough name = true ∨ isScaled name = true := by
  have hnames : (columnData names rows).map Prod.fst = names.eraseDups := by
    rw [columnData, List.map_map]
    exact List.map_id _
  rw [unknownColumns, hnames, List.filter_eq_nil_iff]
  simp only [List.mem_eraseDups, Bool.and_eq_true, Bool.not_eq_true', not_and_or,
    Bool.not_eq_false]

/-! ### Rows in engineering units -/

/-- A local tick with the neighbours' values in engineering units, like its channels. -/
def tickInUnits (x : Tick K) : Sample K :=
  { tickSample x with neighbor_vstates := x.vstates.map fun v : ℤ ↦ dequantize (v : K) }

/-- A report with its channels and the neighbours' values in engineering units. -/
def reportInUnits (r : StateReport) (rx_time_us : Option ℤ) : Sample K :=
  { reportSample r rx_time_us with
    channels := (reportChannels r).map fun v : ℤ ↦ dequantize (v : K)
    neighbor_vstates := r.neighbor_vstates.map fun v : ℤ ↦ dequantize (v : K) }

/-- The cells of a block convert to the block in engineering units, under a scalar law. -/
theorem convert_block (nid i : ℕ) (r : StateReport) (rx_time_us : Option ℤ) :
    List.zipWith convertCell (neighborColumns 1 nid)
        (neighborCells 1 (reportSample r rx_time_us : Sample K) i) =
      neighborCells 1 (reportInUnits r rx_time_us) i := by
  obtain ⟨hpass, hscaled⟩ := value_column nid
  obtain ⟨hrx, hseq, hrssi⟩ := flag_columns nid
  have hconvert : ∀ v : K, convertCell (toString nid) v = dequantize v := fun v ↦
    if_pos (by rw [hpass, hscaled]; rfl)
  have hkeep : ∀ name, isPassthrough name = true → ∀ v : K, convertCell name v = v :=
    fun name hname v ↦ if_neg (by rw [hname]; exact Bool.false_ne_true)
  have hvalue : ∀ o : Option ℤ, dequantize ((o.map (Int.cast : ℤ → K)).getD 0) =
      (o.map fun v : ℤ ↦ dequantize (v : K)).getD 0 := by
    rintro (_ | v)
    · simp [dequantize]
    · rfl
  rw [neighborColumns, valueColumns, if_pos rfl, neighborCells, neighborCells]
  simp only [List.range_one, List.map_cons, List.map_nil, List.cons_append, List.nil_append,
    List.zipWith_cons_cons, List.zipWith_nil_left, hconvert, hkeep _ hrx, hkeep _ hseq,
    hkeep _ hrssi, reportSample, reportInUnits, List.getD_eq_getElem?_getD, List.getElem?_map,
    hvalue]

/-- Block by block. -/
theorem convert_blocks (neighbors : List ℕ) (r : StateReport) (rx_time_us : Option ℤ) :
    List.zipWith convertCell (neighbors.flatMap (neighborColumns 1))
        ((List.range neighbors.length).flatMap
          (neighborCells 1 (reportSample r rx_time_us : Sample K))) =
      (List.range neighbors.length).flatMap (neighborCells 1 (reportInUnits r rx_time_us)) := by
  have hfrom : ∀ (l : List ℕ) (start : ℕ),
      List.zipWith convertCell (l.flatMap (neighborColumns 1))
          ((List.range' start l.length).flatMap
            (neighborCells 1 (reportSample r rx_time_us : Sample K))) =
        (List.range' start l.length).flatMap (neighborCells 1 (reportInUnits r rx_time_us)) := by
    intro l
    induction l with
    | nil => exact fun _ ↦ rfl
    | cons nid l ih =>
      intro start
      rw [List.length_cons, List.range'_succ, List.flatMap_cons, List.flatMap_cons,
        List.flatMap_cons, List.zipWith_append, convert_block, ih]
      rw [neighborColumns_length (.inl rfl), neighborCells_length]
  rw [List.range_eq_range']
  exact hfrom neighbors 0

/-- The channels of a report are all converted. -/
theorem relay_columns_scaled (c : RegisteredController) :
    ∀ name ∈ c.relayColumns, isPassthrough name = false ∧ isScaled name = true := by
  cases c
  · decide +kernel
  · decide +kernel
  · decide +kernel

theorem convert_channels {names : List String}
    (hnames : ∀ name ∈ names, isPassthrough name = false ∧ isScaled name = true) {vs : List ℤ}
    (hlength : vs.length = names.length) :
    List.zipWith convertCell names (vs.map (Int.cast : ℤ → K)) =
      vs.map fun v : ℤ ↦ dequantize (v : K) := by
  induction names generalizing vs with
  | nil =>
    rw [List.eq_nil_of_length_eq_zero hlength]
    rfl
  | cons name names ih =>
    obtain ⟨hpass, hscaled⟩ := hnames name List.mem_cons_self
    cases vs with
    | nil => cases hlength
    | cons v vs =>
      rw [List.map_cons, List.zipWith_cons_cons, List.map_cons,
        ih (fun n hn ↦ hnames n (List.mem_cons_of_mem _ hn)) (Nat.succ.inj hlength), convertCell,
        if_pos (by simp [hpass, hscaled])]

/-- The whole row of a report converts, where no neighbour has two coordinates. -/
theorem convert_row {c : RegisteredController} {neighbors : List ℕ}
    (h : neighbors = [] ∨ c.dim = 1) {r : StateReport} {rx_time_us : Option ℤ}
    (hcheck : (runMeta c true neighbors).check (reportSample r rx_time_us : Sample K) = none) :
    List.zipWith convertCell (runMeta c true neighbors).columnNames
        ((runMeta c true neighbors).row (reportSample r rx_time_us : Sample K)) =
      (runMeta c true neighbors).row (reportInUnits r rx_time_us) := by
  obtain ⟨-, hchannels⟩ := RunMeta.check_eq_none.mp hcheck
  have hlength : (reportChannels r).length = c.relayColumns.length := by
    simpa [reportSample, runMeta] using hchannels
  have hhead : List.zipWith convertCell (runMeta c true neighbors).headColumns
      (headCells (reportSample r rx_time_us : Sample K)) =
        headCells (reportInUnits r rx_time_us) := by
    have htimes : ∀ name ∈ passthroughColumns, ∀ v : K, convertCell name v = v := by
      intro name hname v
      rw [convertCell, isPassthrough, List.contains_iff_mem.mpr hname]
      rfl
    change List.zipWith convertCell ("timestamp" :: "device_timestamp" :: c.relayColumns)
      (_ :: _ :: (reportChannels r).map Int.cast) =
        _ :: _ :: (reportChannels r).map fun v : ℤ ↦ dequantize (v : K)
    rw [List.zipWith_cons_cons, List.zipWith_cons_cons, htimes _ (by decide), htimes _ (by decide),
      convert_channels (relay_columns_scaled c) hlength]
    rfl
  have hblocks : List.zipWith convertCell (neighbors.flatMap (neighborColumns c.dim))
      ((List.range neighbors.length).flatMap
        (neighborCells c.dim (reportSample r rx_time_us : Sample K))) =
      (List.range neighbors.length).flatMap (neighborCells c.dim (reportInUnits r rx_time_us)) := by
    obtain rfl | hdim := h
    · rfl
    · rw [hdim]
      exact convert_blocks neighbors r rx_time_us
  have hwidth : (runMeta c true neighbors).headColumns.length =
      (headCells (reportSample r rx_time_us : Sample K)).length := by
    simp [RunMeta.headColumns, headCells, reportSample, runMeta, hlength]
  rw [RunMeta.columnNames, RunMeta.row, RunMeta.row, List.zipWith_append hwidth, hhead]
  exact congrArg _ hblocks

omit [Field K] in
/-- A row is determined by the columns it loads as. -/
theorem columnData_injective {names : List String} {row row' : List K}
    (hrow : row.length = names.length) (hrow' : row'.length = names.length)
    (h : columnData names [row] = columnData names [row']) : row = row' := by
  have hcells : ∀ name ∈ names, cellsNamed names name row = cellsNamed names name row' := by
    intro name hname
    have hentry := List.map_inj_left.mp h name (List.mem_eraseDups.mpr hname)
    simpa using congrArg Prod.snd hentry
  clear h
  induction names generalizing row row' with
  | nil => rw [List.eq_nil_of_length_eq_zero hrow, List.eq_nil_of_length_eq_zero hrow']
  | cons n names ih =>
    obtain ⟨v, row, rfl⟩ := List.exists_cons_of_length_eq_add_one hrow
    obtain ⟨v', row', rfl⟩ := List.exists_cons_of_length_eq_add_one hrow'
    have hown : ∀ (name : String) (v : K) (row : List K), cellsNamed (n :: names) name (v :: row) =
        (if n = name then [v] else []) ++ cellsNamed names name row := by
      intro name v row
      rw [cellsNamed, List.zip_cons_cons, List.filter_cons, cellsNamed]
      by_cases hname : n = name
      · simp [hname]
      · simp [hname]
    have hhead := hcells n List.mem_cons_self
    rw [hown, hown, if_pos rfl, if_pos rfl, List.singleton_append, List.singleton_append] at hhead
    obtain ⟨rfl, -⟩ := List.cons.inj hhead
    rw [ih (Nat.succ.inj hrow) (Nat.succ.inj hrow') fun name hname ↦ ?_]
    have hcell := hcells name (List.mem_cons_of_mem _ hname)
    rw [hown, hown] at hcell
    exact List.append_cancel_left hcell

end Cells

/-! ### Which logs load in engineering units -/

omit [LinearOrder K] [FloorRing K] in
/-- What a log of accepted samples holds. -/
theorem start_appendAll_rows {α : Type*} {info : RunMeta} {flush_every : ℕ} (h : 1 ≤ flush_every)
    {f : α → Sample K} {xs : List α} (hchecks : ∀ x ∈ xs, info.check (f x) = none) :
    ((RunLog.start info flush_every h).appendAll (xs.map f)).rows =
      xs.map fun x ↦ info.row (f x) := by
  have hsamples : ∀ s ∈ xs.map f, info.check s = none := by
    intro s hs
    obtain ⟨x, hx, rfl⟩ := List.mem_map.mp hs
    exact hchecks x hx
  rw [RunLog.appendAll_rows rfl hsamples, List.map_map]
  rfl

variable (K)

/-- What a relay has recorded loads, and as the same rows in engineering units. -/
def RelayLoads (info : RunMeta) : Prop :=
  ∀ (flush_every : ℕ) (h : 1 ≤ flush_every) (rs : List (StateReport × Option ℤ)),
    (∀ r ∈ rs, info.check (reportSample r.1 r.2 : Sample K) = none) →
      loadNode info ((RunLog.start info flush_every h).appendAll
          (rs.map fun r ↦ reportSample r.1 r.2)).rows =
        .ok ⟨.engineering, columnData info.columnNames
          (rs.map fun r ↦ info.row (reportInUnits r.1 r.2 : Sample K))⟩

/-- What a local agent has recorded loads, and as the same rows in engineering units. -/
def LocalLoads (info : RunMeta) : Prop :=
  ∀ (flush_every : ℕ) (h : 1 ≤ flush_every) (xs : List (Tick K)),
    (∀ x ∈ xs, info.check (tickSample x) = none) →
      loadNode info ((RunLog.start info flush_every h).appendAll (xs.map tickSample)).rows =
        .ok ⟨.engineering, columnData info.columnNames
          (xs.map fun x ↦ info.row (tickInUnits x))⟩

/-- Every log of an agent of either kind loads in engineering units. -/
def LoadsInUnits (c : RegisteredController) (is_relay : Bool) (neighbors : List ℕ) : Prop :=
  if is_relay then RelayLoads K (runMeta c true neighbors)
  else LocalLoads K (runMeta c false neighbors)

variable {K}

/-- The columns of a relay's log are all known, where no neighbour has two coordinates. -/
theorem relay_names_known {c : RegisteredController} {neighbors : List ℕ}
    (h : neighbors = [] ∨ c.dim = 1) :
    ∀ name ∈ (runMeta c true neighbors).columnNames,
      isPassthrough name = true ∨ isScaled name = true := by
  intro name hname
  obtain hhead | hblock := List.mem_append.mp hname
  · obtain htime | hstate := List.mem_append.mp hhead
    · left
      rw [isPassthrough, List.contains_iff_mem.mpr (by
        simpa [runMeta, passthroughColumns] using htime)]
      rfl
    · exact .inr (relay_columns_scaled c name hstate).2
  · obtain rfl | hdim := h
    · cases hblock
    · obtain ⟨nid, -, hmem⟩ := List.mem_flatMap.mp hblock
      obtain ⟨hrx, hseq, hrssi⟩ := flag_columns nid
      have hcolumns : neighborColumns (runMeta c true neighbors).dim nid =
          [toString nid, "rx_" ++ toString nid, "seq_" ++ toString nid,
            "rssi_" ++ toString nid] := by
        rw [show (runMeta c true neighbors).dim = 1 from hdim]
        rfl
      rw [hcolumns] at hmem
      simp only [List.mem_cons, List.not_mem_nil, or_false] at hmem
      obtain rfl | rfl | rfl | rfl := hmem
      · exact .inr (value_column nid).2
      · exact .inl hrx
      · exact .inl hseq
      · exact .inl hrssi

/-- Such a log loads in engineering units. -/
theorem relay_loads {c : RegisteredController} {neighbors : List ℕ}
    (h : neighbors = [] ∨ c.dim = 1) : RelayLoads K (runMeta c true neighbors) := by
  intro flush_every hflush rs hchecks
  rw [start_appendAll_rows hflush hchecks, loadNode_scaled rfl,
    if_neg (not_not.mpr ((unknownColumns_columnData _).mpr (relay_names_known h))),
    ← columnData_zipWith, List.map_map]
  congr 3
  exact List.map_congr_left fun r hr ↦ convert_row h (hchecks r hr)

/-- **With a neighbour of two coordinates even an empty log is rejected.** -/
theorem not_relay_loads {c : RegisteredController} {nid : ℕ} {neighbors : List ℕ}
    (hdim : c.dim = 2) : ¬RelayLoads K (runMeta c true (nid :: neighbors)) := by
  intro hloads
  have hload := hloads 25 (by decide) [] (by simp)
  have hname : toString nid ++ "_" ++ "P" ∈ (runMeta c true (nid :: neighbors)).columnNames := by
    refine List.mem_append_right _ (List.mem_flatMap.mpr ⟨nid, List.mem_cons_self, ?_⟩)
    rw [show (runMeta c true (nid :: neighbors)).dim = 2 from hdim]
    exact List.mem_cons_self
  have hunknown : unknownColumns (columnData (K := K)
      (runMeta c true (nid :: neighbors)).columnNames []) ≠ [] := by
    intro hknown
    obtain ⟨hpass, hscaled⟩ := coordinate_column nid "P"
    obtain hthrough | hconverted := (unknownColumns_columnData _).mp hknown _ hname
    · rw [hpass] at hthrough
      cases hthrough
    · rw [hscaled] at hconverted
      cases hconverted
  rw [start_appendAll_rows (by decide) (by simp), List.map_nil, loadNode_scaled rfl,
    if_pos hunknown] at hload
  cases hload

/-- A local agent's log without neighbours has nothing to convert. -/
theorem local_loads (c : RegisteredController) : LocalLoads K (runMeta c false []) := by
  intro flush_every hflush xs hchecks
  rw [start_appendAll_rows hflush hchecks, loadNode_engineering rfl]
  rfl

/-- A tick of a local agent whose neighbours are all at one wire unit. -/
def unitTick (c : RegisteredController) (neighbors : List ℕ) : Tick K where
  t_s := 0
  channels := List.replicate c.columnNames.length 0
  vstates := List.replicate (c.dim * neighbors.length) 1
  fresh := []
  seq := []
  rssi := []
  last_timing := List.replicate (runMeta c false neighbors).timing_columns.length 0

/-- **With a neighbour its first value column is left in wire units.** -/
theorem not_local_loads {c : RegisteredController} {neighbors : List ℕ}
    (hdim : c.dim = 1 ∨ c.dim = 2) (hmany : neighbors ≠ []) :
    ¬LocalLoads K (runMeta c false neighbors) := by
  intro hloads
  set info := runMeta c false neighbors with hinfo
  have hpos : 0 < neighbors.length := List.length_pos_of_ne_nil hmany
  have hcheck : info.check (tickSample (unitTick c neighbors) : Sample K) = none :=
    RunMeta.check_eq_none.mpr ⟨by simp [tickSample, unitTick, hinfo], by
      simp [tickSample, unitTick, hinfo, runMeta]⟩
  have hcheck' : info.check (tickInUnits (unitTick c neighbors) : Sample K) = none := hcheck
  have hload := hloads 25 (by decide) [unitTick c neighbors] (by simpa using hcheck)
  rw [start_appendAll_rows (by decide) (by simpa using hcheck), loadNode_engineering rfl] at hload
  have hdata := congrArg RunPayload.data (Except.ok.inj hload)
  have hwidth : info.columnNames.length = info.recordWidth := RunMeta.columnNames_length hdim
  have hrow := columnData_injective ((RunMeta.row_length hcheck).trans hwidth.symm)
    ((RunMeta.row_length hcheck').trans hwidth.symm) hdata
  -- The first cell of the first neighbour: one as recorded, a millionth in engineering units.
  have hcell := congrArg (fun row ↦ row[info.position 0 0]?) hrow
  have hdimpos : 0 < c.dim := by
    obtain hdim | hdim := hdim
    · omega
    · omega
  have hvalues : (List.replicate (c.dim * neighbors.length) (1 : ℤ))[0]? = some 1 :=
    List.getElem?_replicate_of_lt (Nat.mul_pos hdimpos hpos)
  have hfirst : ∀ s : Sample K,
      (neighborCells c.dim s 0)[0]? = some (s.neighbor_vstates.getD 0 0) := by
    intro s
    rw [neighborCells, List.getElem?_append_left (by simpa using hdimpos), List.getElem?_map,
      List.getElem?_range hdimpos]
    simp
  simp only [RunMeta.row_block hcheck hpos (Nat.succ_pos _),
    RunMeta.row_block hcheck' hpos (Nat.succ_pos _)] at hcell
  rw [show info.dim = c.dim from rfl, hfirst, hfirst] at hcell
  simp only [tickInUnits, tickSample, unitTick, List.getD_eq_getElem?_getD, List.getElem?_map,
    hvalues, Option.map_some, Option.getD_some, Int.cast_one] at hcell
  norm_num [dequantize, scaleFactor] at hcell

/-- **Exactly the agents without neighbours, and the relays of a scalar law, log what loads in
engineering units.** -/
theorem loadsInUnits_iff (c : RegisteredController) (is_relay : Bool) (neighbors : List ℕ) :
    LoadsInUnits K c is_relay neighbors ↔
      neighbors = [] ∨ is_relay = true ∧ c.dim = 1 := by
  have hdim : c.dim = 1 ∨ c.dim = 2 := by
    cases c
    · exact .inl rfl
    · exact .inr rfl
    · exact .inr rfl
  cases is_relay with
  | true =>
    rw [LoadsInUnits, if_pos rfl]
    refine ⟨fun hloads ↦ ?_, fun h ↦ relay_loads (h.imp_right And.right)⟩
    cases neighbors with
    | nil => exact .inl rfl
    | cons nid neighbors =>
      obtain hone | htwo := hdim
      · exact .inr ⟨rfl, hone⟩
      · exact absurd hloads (not_relay_loads htwo)
  | false =>
    rw [LoadsInUnits, if_neg Bool.false_ne_true]
    constructor
    · intro hloads
      by_contra hno
      exact not_local_loads hdim (fun hempty ↦ hno (.inl hempty)) hloads
    · rintro (rfl | ⟨hrelay, -⟩)
      · exact local_loads c
      · cases hrelay

/-- A local agent whose neighbour `2` is at `22.3`, of which it records the integer. -/
def mixedTick : Tick ℚ where
  t_s := 1
  channels := [22, 22, 0]
  vstates := [22300000]
  fresh := [true]
  seq := [7]
  rssi := [-60]
  last_timing := []

/-- **The row mixes units**: loaded as engineering units, the agent is at `22` and its neighbour at
`22300000`. A relay under a law of two coordinates is not loaded at all. -/
theorem local_log_mixes_units :
    let info := runMeta .finiteTimeAdaptive false [2]
    loadNode info ((RunLog.start info 25 (by decide)).appendAll [tickSample mixedTick]).rows =
        .ok ⟨.engineering, [("timestamp", [1]), ("device_timestamp", [1]), ("state", [22]),
          ("vstate", [22]), ("vartheta", [0]), ("2", [22300000]), ("rx_2", [1]), ("seq_2", [7]),
          ("rssi_2", [-60])]⟩ ∧
      loadNode (K := ℚ) (runMeta .microgridAdaptive true [2]) [] =
        .error (.unknownColumn ["2_P", "2_Q"]) ∧
      ¬LoadsInUnits ℚ .finiteTimeAdaptive false [2] := by
  refine ⟨by decide +kernel, by decide +kernel, ?_⟩
  exact not_local_loads (.inl rfl) (by decide)

end VertexTestbed.Host
