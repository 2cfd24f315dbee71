import Mathlib

/-!
# The run log

`agent/runlog.py` and what decides its layout: the registry of `controllers/`, and the part of
`AgentService._start` that fills in `RunMeta`. A row is a list of numbers; `column_names` and `row`
lay names and numbers out the same way, a head and then one block a neighbour, and `row_block` and
`column_block` say where the block of a neighbour lies in each.

The rows of a log are kept as rows here, `written` those in the file and `buf` those that wait for
the next flush; what the file looks like is in `Host.RowFiles`.
-/

namespace VertexTestbed.Host

/-! ### The registry -/

/-- The classes that `register` decorates. -/
inductive RegisteredController where
  | finiteTimeAdaptive
  | microgridAdaptive
  | microgridLC
  deriving DecidableEq

namespace RegisteredController

/-- `name`. -/
def name : RegisteredController → String
  | finiteTimeAdaptive => "finite_time_adaptive"
  | microgridAdaptive => "microgrid_adaptive"
  | microgridLC => "microgrid_lc"

/-- `dim`. -/
def dim : RegisteredController → ℕ
  | finiteTimeAdaptive => 1
  | microgridAdaptive => 2
  | microgridLC => 2

/-- `coords`. -/
def coords : RegisteredController → List String
  | finiteTimeAdaptive => []
  | microgridAdaptive => ["P", "Q"]
  | microgridLC => ["P", "Q"]

/-- `COMMON_CHANNELS`. -/
def commonChannels : List String :=
  ["g_P", "g_Q", "mu_P", "mu_Q", "muapp_P", "muapp_Q", "sigma_P", "sigma_Q", "c", "theta",
    "saturated", "trig", "watchdog"]

/-- `channels`. -/
def channels : RegisteredController → List String
  | finiteTimeAdaptive => ["vartheta"]
  | microgridAdaptive => commonChannels ++ ["vartheta", "updates"]
  | microgridLC => commonChannels ++ ["S1", "S2", "updates"]

/-- `column_names`, of the controller. -/
def columnNames (c : RegisteredController) : List String :=
  let base :=
    if c.dim = 1 then ["state", "vstate"]
    else ["state", "vstate"].flatMap fun w ↦ c.coords.map fun x ↦ w ++ "_" ++ x
  base ++ c.channels

/-- `RELAY_STATES`. -/
def relayStates : List String := ["state_P", "state_Q", "vstate_P", "vstate_Q"]

/-- `relay_columns`: by default every column. -/
def relayColumns : RegisteredController → List String
  | finiteTimeAdaptive => finiteTimeAdaptive.columnNames
  | microgridAdaptive => relayStates ++ ["vartheta"]
  | microgridLC => relayStates ++ ["S1", "S2"]

/-- `logs_timing`. -/
def logsTiming : RegisteredController → Bool
  | finiteTimeAdaptive => false
  | microgridAdaptive => true
  | microgridLC => true

/-- `REGISTRY.values()`. -/
def registry : List RegisteredController := [finiteTimeAdaptive, microgridAdaptive, microgridLC]

/-- Every registered controller is in the registry. -/
theorem mem_registry (c : RegisteredController) : c ∈ registry := by
  cases c
  · decide
  · decide
  · decide

end RegisteredController

/-! ### The layout -/

/-- The two unit systems of `analysis/units.py`. -/
inductive UnitSystem where
  | engineering
  | scaledInt
  deriving DecidableEq

/-- `RunMeta`, the part that the layout and the units of a log follow from. -/
structure RunMeta where
  neighbors : List ℕ
  dim : ℕ
  state_columns : List String
  timing_columns : List String
  units : UnitSystem

/-- The `RunMeta` of `_start`, for an agent of either kind. -/
def runMeta (c : RegisteredController) (is_relay : Bool) (neighbors : List ℕ) : RunMeta where
  neighbors := neighbors
  dim := c.dim
  state_columns := if is_relay then c.relayColumns else c.columnNames
  timing_columns := if !is_relay && c.logsTiming then ["realized_h", "cpu_us"] else []
  units := if is_relay then .scaledInt else .engineering

/-- `COORD_SUFFIX`. -/
def coordSuffix : List String := ["P", "Q"]

/-- The value columns of one neighbour. -/
def valueColumns (dim nid : ℕ) : List String :=
  if dim = 1 then [toString nid] else (coordSuffix.take dim).map fun c ↦ toString nid ++ "_" ++ c

/-- The columns of one neighbour. -/
def neighborColumns (dim nid : ℕ) : List String :=
  valueColumns dim nid ++ ["rx_" ++ toString nid, "seq_" ++ toString nid, "rssi_" ++ toString nid]

namespace RunMeta

/-- The columns ahead of the neighbours'. -/
def headColumns (m : RunMeta) : List String :=
  ["timestamp", "device_timestamp"] ++ m.timing_columns ++ m.state_columns

/-- `column_names`. -/
def columnNames (m : RunMeta) : List String :=
  m.headColumns ++ m.neighbors.flatMap (neighborColumns m.dim)

/-- `record_width`, of this log. -/
def recordWidth (m : RunMeta) : ℕ :=
  2 + m.timing_columns.length + m.state_columns.length + (3 + m.dim) * m.neighbors.length

end RunMeta

/-! ### A row -/

variable {K : Type*} [Field K]

/-- The arguments of `append`. -/
structure Sample (K : Type*) where
  t_s : K
  channels : List K
  neighbor_vstates : List K
  neighbor_fresh : List Bool
  device_t_s : Option K
  neighbor_seq : List K
  neighbor_rssi : List K
  timing : List K

/-- The numbers of neighbour `i`: `dim` values out of the flat list, the arrival flag, the sequence
number and the RSSI, zero past the end of each list. -/
def neighborCells (dim : ℕ) (s : Sample K) (i : ℕ) : List K :=
  (List.range dim).map (fun c ↦ s.neighbor_vstates.getD (i * dim + c) 0) ++
    [if s.neighbor_fresh.getD i false then 1 else 0, s.neighbor_seq.getD i 0,
      s.neighbor_rssi.getD i 0]

/-- The numbers ahead of the neighbours'. -/
def headCells (s : Sample K) : List K :=
  [s.t_s, s.device_t_s.getD s.t_s] ++ s.timing ++ s.channels

/-- The row that `append` builds. -/
def RunMeta.row (m : RunMeta) (s : Sample K) : List K :=
  headCells s ++ (List.range m.neighbors.length).flatMap (neighborCells m.dim s)

/-- What `append` raises, with what its message says. -/
inductive AppendError where
  | notStarted
  | timing (got : ℕ) (declared : List String)
  | channels (got : ℕ) (declared : List String)
  deriving DecidableEq

/-- The checks of `append`. -/
def RunMeta.check (m : RunMeta) (s : Sample K) : Option AppendError :=
  if s.timing.length ≠ m.timing_columns.length then
    some (.timing s.timing.length m.timing_columns)
  else if s.channels.length ≠ m.state_columns.length then
    some (.channels s.channels.length m.state_columns)
  else none

omit [Field K] in
/-- A sample is taken exactly when it has a value for every timing and every state column. -/
theorem RunMeta.check_eq_none {m : RunMeta} {s : Sample K} :
    m.check s = none ↔
      s.timing.length = m.timing_columns.length ∧
        s.channels.length = m.state_columns.length := by
  rw [check]
  split_ifs with htiming hchannels
  · exact ⟨fun h ↦ (by cases h), fun h ↦ absurd h.1 htiming⟩
  · exact ⟨fun h ↦ (by cases h), fun h ↦ absurd h.2 hchannels⟩
  · exact ⟨fun _ ↦ ⟨not_not.mp htiming, not_not.mp hchannels⟩, fun _ ↦ rfl⟩

/-! ### Where a neighbour's block lies -/

omit [Field K] in
/-- The block of an element, in a list of blocks of one width. -/
theorem getElem?_flatMap {α β : Type*} {f : α → List β} {w : ℕ} {l : List α}
    (hwidth : ∀ a ∈ l, (f a).length = w) {k : ℕ} {a : α} (hk : l[k]? = some a) {j : ℕ}
    (hj : j < w) : (l.flatMap f)[k * w + j]? = (f a)[j]? := by
  induction l generalizing k with
  | nil => cases hk
  | cons b l ih =>
    have hb := hwidth b List.mem_cons_self
    rw [List.flatMap_cons]
    cases k with
    | zero =>
      obtain rfl := Option.some.inj hk
      rw [Nat.zero_mul, Nat.zero_add, List.getElem?_append_left (by omega)]
    | succ k =>
      have hshift : (k + 1) * w + j = (f b).length + (k * w + j) := by
        rw [hb, Nat.succ_mul]
        omega
      rw [hshift, List.getElem?_append_right (Nat.le_add_right _ _), Nat.add_sub_cancel_left]
      exact ih (fun a ha ↦ hwidth a (List.mem_cons_of_mem _ ha)) hk

/-- A neighbour has as many cells as coordinates, and three more. -/
theorem neighborCells_length (dim : ℕ) (s : Sample K) (i : ℕ) :
    (neighborCells dim s i).length = dim + 3 := by
  simp [neighborCells]

omit [Field K] in
/-- And as many columns. -/
theorem neighborColumns_length {dim : ℕ} (hdim : dim = 1 ∨ dim = 2) (nid : ℕ) :
    (neighborColumns dim nid).length = dim + 3 := by
  obtain rfl | rfl := hdim
  · rfl
  · rfl

namespace RunMeta

/-- How many columns lie ahead of the neighbours'. -/
def headWidth (m : RunMeta) : ℕ :=
  2 + m.timing_columns.length + m.state_columns.length

/-- The position of cell `j` of neighbour `k`. -/
def position (m : RunMeta) (k j : ℕ) : ℕ :=
  m.headWidth + (k * (m.dim + 3) + j)

/-- In the row of an accepted sample. -/
theorem row_block {m : RunMeta} {s : Sample K} (h : m.check s = none) {k j : ℕ}
    (hk : k < m.neighbors.length) (hj : j < m.dim + 3) :
    (m.row s)[m.position k j]? = (neighborCells m.dim s k)[j]? := by
  obtain ⟨htiming, hchannels⟩ := check_eq_none.mp h
  have hhead : (headCells s).length = m.headWidth := by
    simp [headCells, headWidth, htiming, hchannels]
    omega
  rw [row, position, ← hhead, List.getElem?_append_right (Nat.le_add_right _ _),
    Nat.add_sub_cancel_left]
  exact getElem?_flatMap (fun i _ ↦ neighborCells_length m.dim s i) (List.getElem?_range hk) hj

omit [Field K] in
/-- And in the list of columns. -/
theorem column_block {m : RunMeta} (hdim : m.dim = 1 ∨ m.dim = 2) {k j nid : ℕ}
    (hk : m.neighbors[k]? = some nid) (hj : j < m.dim + 3) :
    m.columnNames[m.position k j]? = (neighborColumns m.dim nid)[j]? := by
  have hhead : m.headColumns.length = m.headWidth := by
    simp [headColumns, headWidth]
    omega
  rw [columnNames, position, ← hhead, List.getElem?_append_right (Nat.le_add_right _ _),
    Nat.add_sub_cancel_left]
  exact getElem?_flatMap (fun nid _ ↦ neighborColumns_length hdim nid) hk hj

/-- A row is as wide as its log says, and has as many numbers as there are columns. -/
theorem row_length {m : RunMeta} {s : Sample K} (h : m.check s = none) :
    (m.row s).length = m.recordWidth := by
  obtain ⟨htiming, hchannels⟩ := check_eq_none.mp h
  simp [row, headCells, recordWidth, neighborCells_length, htiming, hchannels]
  ring

omit [Field K] in
/-- So a row has a cell for every column. -/
theorem columnNames_length {m : RunMeta} (hdim : m.dim = 1 ∨ m.dim = 2) :
    m.columnNames.length = m.recordWidth := by
  have hblocks : (m.neighbors.flatMap (neighborColumns m.dim)).length =
      m.neighbors.length * (m.dim + 3) := by
    simp [List.length_flatMap, neighborColumns_length hdim]
  rw [columnNames, List.length_append, hblocks, headColumns, recordWidth]
  simp only [List.length_append, List.length_cons, List.length_nil]
  ring

end RunMeta

/-! ### The log -/

/-- `RunLog`, between two calls: the rows that `flush` has written and those that it has not. -/
structure RunLog (K : Type*) where
  info : RunMeta
  flush_every : ℕ
  /-- Whether the file is open. -/
  started : Bool
  written : List (List K)
  buf : List (List K)
  count : ℕ
  since_flush : ℕ
  /-- The test of the constructor. -/
  flush_every_pos : 1 ≤ flush_every

namespace RunLog

/-- Every row of the log, in the order they were appended. -/
def rows (log : RunLog K) : List (List K) :=
  log.written ++ log.buf

/-- `start`, of a new log. The counters are set once more there, the buffer is not. -/
def start (info : RunMeta) (flush_every : ℕ) (h : 1 ≤ flush_every) : RunLog K :=
  ⟨info, flush_every, true, [], [], 0, 0, h⟩

/-- `flush`. -/
def flush (log : RunLog K) : RunLog K :=
  if !log.started || log.buf.isEmpty then { log with since_flush := 0 }
  else { log with written := log.written ++ log.buf, buf := [], since_flush := 0 }

/-- `append` behind its checks. -/
def push (log : RunLog K) (row : List K) : RunLog K :=
  let log := { log with
    buf := log.buf ++ [row], count := log.count + 1, since_flush := log.since_flush + 1 }
  if log.flush_every ≤ log.since_flush then log.flush else log

/-- `append`: the log afterwards and what was raised. -/
def append (log : RunLog K) (s : Sample K) : RunLog K × Option AppendError :=
  if !log.started then (log, some .notStarted)
  else
    match log.info.check s with
    | some e => (log, some e)
    | none => (log.push (log.info.row s), none)

/-- `close`. -/
def close (log : RunLog K) : RunLog K :=
  if log.started then { log.flush with started := false } else log

omit [Field K] in
/-- A flush moves rows from the buffer to the file, and loses none. -/
@[simp]
theorem flush_rows (log : RunLog K) : log.flush.rows = log.rows := by
  rw [flush]
  split_ifs
  · rfl
  · simp [rows]

omit [Field K] in
@[simp]
theorem flush_info (log : RunLog K) : log.flush.info = log.info := by
  rw [flush]
  split_ifs
  · rfl
  · rfl

omit [Field K] in
@[simp]
theorem flush_started (log : RunLog K) : log.flush.started = log.started := by
  rw [flush]
  split_ifs
  · rfl
  · rfl

omit [Field K] in
@[simp]
theorem flush_count (log : RunLog K) : log.flush.count = log.count := by
  rw [flush]
  split_ifs
  · rfl
  · rfl

omit [Field K] in
/-- A row goes behind those that there are. -/
@[simp]
theorem push_rows (log : RunLog K) (row : List K) : (log.push row).rows = log.rows ++ [row] := by
  rw [push]
  split_ifs
  · rw [flush_rows]
    simp [rows]
  · simp [rows]

omit [Field K] in
@[simp]
theorem push_info (log : RunLog K) (row : List K) : (log.push row).info = log.info := by
  rw [push]
  split_ifs
  · simp
  · rfl

omit [Field K] in
@[simp]
theorem push_started (log : RunLog K) (row : List K) :
    (log.push row).started = log.started := by
  rw [push]
  split_ifs
  · simp
  · rfl

omit [Field K] in
@[simp]
theorem push_count (log : RunLog K) (row : List K) : (log.push row).count = log.count + 1 := by
  rw [push]
  split_ifs
  · simp
  · rfl

/-- **An append either adds its row at the end or raises and leaves the log alone.** -/
theorem append_cases (log : RunLog K) (s : Sample K) :
    (log.started = true ∧ log.info.check s = none ∧
        log.append s = (log.push (log.info.row s), none)) ∨
      ∃ e, log.append s = (log, some e) := by
  rw [append]
  by_cases hstarted : log.started = true
  · rw [if_neg (by simp [hstarted])]
    rcases hcheck : log.info.check s with _ | e
    · exact .inl ⟨hstarted, rfl, rfl⟩
    · exact .inr ⟨e, rfl⟩
  · rw [if_pos (by simp [hstarted])]
    exact .inr ⟨.notStarted, rfl⟩

/-- A sample that is taken is one row. -/
theorem append_of_check {log : RunLog K} {s : Sample K} (hstarted : log.started = true)
    (hcheck : log.info.check s = none) :
    log.append s = (log.push (log.info.row s), none) := by
  rw [append, if_neg (by simp [hstarted]), hcheck]

/-- A run of appends. What one of them raises, the caller counts and goes on. -/
def appendAll (log : RunLog K) (ss : List (Sample K)) : RunLog K :=
  ss.foldl (fun log s ↦ (log.append s).1) log

/-- **A log of accepted samples has one row for each, in order.** -/
theorem appendAll_rows {log : RunLog K} (hstarted : log.started = true) {ss : List (Sample K)}
    (hchecks : ∀ s ∈ ss, log.info.check s = none) :
    (log.appendAll ss).rows = log.rows ++ ss.map log.info.row := by
  induction ss generalizing log with
  | nil => simp [appendAll]
  | cons s ss ih =>
    have happend := append_of_check hstarted (hchecks s List.mem_cons_self)
    have hrest : ∀ s' ∈ ss, (log.append s).1.info.check s' = none := fun s' hs' ↦ by
      rw [happend, push_info]
      exact hchecks s' (List.mem_cons_of_mem _ hs')
    have hopen : (log.append s).1.started = true := by rw [happend, push_started, hstarted]
    have hrows := ih hopen hrest
    rw [appendAll, List.foldl_cons, ← appendAll, hrows, happend]
    simp

/-- Every row of a log is as wide as its metadata says. -/
def WellShaped (log : RunLog K) : Prop :=
  ∀ row ∈ log.rows, row.length = log.info.recordWidth

@[simp]
theorem append_info (log : RunLog K) (s : Sample K) : (log.append s).1.info = log.info := by
  obtain ⟨-, -, happend⟩ | ⟨e, happend⟩ := log.append_cases s
  · rw [happend, push_info]
  · rw [happend]

@[simp]
theorem append_started (log : RunLog K) (s : Sample K) :
    (log.append s).1.started = log.started := by
  obtain ⟨-, -, happend⟩ | ⟨e, happend⟩ := log.append_cases s
  · rw [happend, push_started]
  · rw [happend]

/-- A log of well-shaped rows stays one, whatever it is given. -/
theorem WellShaped.append {log : RunLog K} (h : log.WellShaped) (s : Sample K) :
    (log.append s).1.WellShaped := by
  intro row hrow
  rw [append_info]
  obtain ⟨-, hcheck, happend⟩ | ⟨e, happend⟩ := log.append_cases s
  · rw [happend, push_rows, List.mem_append, List.mem_singleton] at hrow
    obtain hrow | rfl := hrow
    · exact h row hrow
    · exact RunMeta.row_length hcheck
  · rw [happend] at hrow
    exact h row hrow

/-- What appends leave as it was and keep, whether they raise or not. -/
theorem appendAll_inv {log : RunLog K} (h : log.WellShaped) (ss : List (Sample K)) :
    (log.appendAll ss).WellShaped ∧ (log.appendAll ss).info = log.info ∧
      (log.appendAll ss).started = log.started := by
  induction ss generalizing log with
  | nil => exact ⟨h, rfl, rfl⟩
  | cons s ss ih =>
    obtain ⟨hshape, hinfo, hstarted⟩ := ih (h.append s)
    rw [appendAll, List.foldl_cons, ← appendAll]
    exact ⟨hshape, hinfo.trans (append_info log s), hstarted.trans (append_started log s)⟩

omit [Field K] in
/-- A closed log has every row in its file. -/
theorem close_written {log : RunLog K} (h : log.started = true) : log.close.written = log.rows := by
  rw [close, if_pos h, flush, h, rows]
  rcases hbuf : log.buf with _ | ⟨row, buf⟩
  · simp
  · simp

end RunLog

end VertexTestbed.Host
