import VertexTestbed.Numeric
import VertexTestbed.Host.RunLog
import VertexTestbed.Host.StateReport

/-!
# From a tick and from a report to a row

`AgentService._record` and `_record_report`. The controller's channels of a local tick are in
engineering units; the neighbours' values of the same tick are the integers that `snapshot` holds,
as received. A report is integers throughout. Which of the three layouts its channels have follows
from the tail that the frame carried.
-/

namespace VertexTestbed.Host

variable {K : Type*} [Field K]

/-! ### Local ticks -/

/-- The arguments of `on_sample`. -/
structure Tick (K : Type*) where
  t_s : K
  channels : List K
  vstates : List ℤ
  fresh : List Bool
  seq : List ℕ
  rssi : List ℤ
  last_timing : List K

/-- The arguments that a tick is appended with. -/
def tickSample (x : Tick K) : Sample K where
  t_s := x.t_s
  channels := x.channels
  neighbor_vstates := x.vstates.map Int.cast
  neighbor_fresh := x.fresh
  device_t_s := none
  neighbor_seq := x.seq.map Nat.cast
  neighbor_rssi := x.rssi.map Int.cast
  timing := x.last_timing

/-- `_record`. -/
def record (log : RunLog K) (x : Tick K) : RunLog K × Option AppendError :=
  log.append (tickSample x)

/-! ### Reports -/

/-- `channels`. A decoded report has the whole of a tail or nothing of it. -/
def reportChannels (r : StateReport) : List ℤ :=
  match r.state_Q, r.S1_hat with
  | none, _ => [r.state, r.vstate, r.vartheta]
  | some state_Q, none => [r.state, state_Q, r.vstate, r.vstate_Q.getD 0, r.vartheta]
  | some state_Q, some S1_hat =>
    [r.state, state_Q, r.vstate, r.vstate_Q.getD 0, S1_hat, r.S2_hat.getD 0]

/-- The arguments that a report is appended with, received at `rx_time_us` on the host's clock. -/
def reportSample (r : StateReport) (rx_time_us : Option ℤ) : Sample K :=
  let device_t_s : K := r.t_us / 1000000
  { t_s := rx_time_us.elim device_t_s fun t ↦ t / 1000000
    channels := (reportChannels r).map Int.cast
    neighbor_vstates := r.neighbor_vstates.map Int.cast
    neighbor_fresh := r.neighbor_fresh
    device_t_s := some device_t_s
    neighbor_seq := r.neighbor_seq.map Int.cast
    neighbor_rssi := r.neighbor_rssi.map Int.cast
    timing := [] }

/-- `_record_report`: the log afterwards, and the exception that was counted instead of raised. -/
def recordReport (log : RunLog K) (r : StateReport) (rx_time_us : Option ℤ) :
    RunLog K × Option AppendError :=
  log.append (reportSample r rx_time_us)

/-- The cells of neighbour `k` in the row of a report. -/
theorem neighborCells_reportSample (dim : ℕ) (r : StateReport) (rx_time_us : Option ℤ) (k : ℕ) :
    neighborCells dim (reportSample r rx_time_us : Sample K) k =
      (List.range dim).map (fun c ↦ ((r.neighbor_vstates.getD (k * dim + c) 0 : ℤ) : K)) ++
        [if r.neighbor_fresh.getD k false then 1 else 0, ((r.neighbor_seq.getD k 0 : ℤ) : K),
          ((r.neighbor_rssi.getD k 0 : ℤ) : K)] := by
  have hint : ∀ o : Option ℤ, (o.map Int.cast).getD (0 : K) = ((o.getD 0 : ℤ) : K) := by
    rintro (_ | v)
    · simp
    · rfl
  simp [neighborCells, reportSample, hint]

end VertexTestbed.Host
