import VertexTestbed.Host.BleLifecycle

/-!
# Starting and stopping several transports

`MultiTransport.start` and `stop` (`transports/multi.py`) over the members' own: the BLE transport
of `BleLifecycle`, and the UDP and the loopback transports, modelled here as far as their `start`
and `stop` go. `MultiTransport` is over any type of member and knows of one only its `start` and its
`stop`, as in the source; a member is named by its position in the list.

A start that fails stops the members started before it and raises. It does not stop **the member
that failed**, which is not on the list of the started ones yet, and a later `stop` does not reach
it either (`stop_of_started_eq_nil`). `start_allOrNothing_iff` says exactly when a failed start
leaves nothing behind all the same. A cancellation is no `Exception`, so it stops nobody.

What counts as left is the radio, a reader in the event loop and a subscription to the bus. A BLE or
UDP transport that failed also keeps the callback it was given, to which nothing is delivered
without a reader.

The constructor's refusals, of fewer than two members and of two with one name, are left out: the
results are for any number of members. So are the media themselves, and what is published on them.
-/

namespace VertexTestbed.Host

open Raising

/-! ### Several members -/

/-- `start` and `stop` of a transport: what they raise, and the transport they leave. -/
structure Lifecycle (M : Type) where
  start : M → Except TransportError Unit × M
  stop : M → Except TransportError Unit × M

/-- `MultiTransport`; `started` is `_started`, and `last_error` that of `stats`. -/
structure MultiTransport (n : ℕ) (M : Type) where
  members : Fin n → M
  started : List (Fin n)
  last_error : Option TransportError

namespace MultiTransport

variable {n : ℕ} {M : Type}

/-- As constructed. -/
def new (members : Fin n → M) : MultiTransport n M :=
  ⟨members, [], none⟩

/-- An operation of one member. -/
def onMember (op : M → Except TransportError Unit × M) (i : Fin n) :
    Raising (MultiTransport n M) TransportError Unit :=
  ofRun fun s ↦
    ((op (s.members i)).1,
      { s with members := Function.update s.members i (op (s.members i)).2 })

variable (L : Lifecycle M)

/-- The handler of `start`: stop whatever did start. -/
def unwind : Raising (MultiTransport n M) TransportError Unit := do
  let s ← get
  forM s.started.reverse fun i ↦ swallow (onMember L.stop i)
  modify fun s ↦ { s with started := [] }

/-- One round of the loop of `start`. -/
def startMember (i : Fin n) : Raising (MultiTransport n M) TransportError Unit := do
  tryCatch (onMember L.start i) fun e ↦
    if e.isException then do
      unwind L
      throw e
    else throw e
  modify fun s ↦ { s with started := s.started ++ [i] }

/-- `start`. -/
def start : Raising (MultiTransport n M) TransportError Unit :=
  forM (List.finRange n) (startMember L)

/-- One round of the loop of `stop`, which collects the errors. -/
def stopMember (errors : List TransportError) (i : Fin n) :
    Raising (MultiTransport n M) TransportError (List TransportError) :=
  tryCatch
    (do
      onMember L.stop i
      pure errors)
    fun e ↦ if e.isException then pure (errors ++ [e]) else throw e

/-- `stop`. -/
def stop : Raising (MultiTransport n M) TransportError Unit := do
  let s ← get
  let errors ← s.started.reverse.foldlM (stopMember L) []
  modify fun s ↦
    { s with started := [], last_error := if errors = [] then s.last_error else errors.head? }

variable {L}

/-! ### Stopping each of a list -/

/-- The members with an operation done to those on a list. -/
def touched (op : M → Except TransportError Unit × M) (ps : List (Fin n)) (members : Fin n → M) :
    Fin n → M :=
  fun i ↦ if i ∈ ps then (op (members i)).2 else members i

/-- An operation on no members touches none. -/
theorem touched_nil (op : M → Except TransportError Unit × M) (members : Fin n → M) :
    touched op [] members = members := by
  funext i
  simp [touched]

/-- One member more: the rest of the list does not touch it again. -/
theorem touched_cons {op : M → Except TransportError Unit × M} {p : Fin n} {ps : List (Fin n)}
    (hp : p ∉ ps) (members : Fin n → M) :
    touched op ps (Function.update members p (op (members p)).2) =
      touched op (p :: ps) members := by
  funext i
  by_cases hi : i = p
  · subst hi
    simp [touched, hp]
  · simp [touched, hi]

/-- The order of the members does not matter. -/
theorem touched_reverse (op : M → Except TransportError Unit × M) (ps : List (Fin n))
    (members : Fin n → M) : touched op ps.reverse members = touched op ps members := by
  funext i
  simp [touched]

/-- An operation on a member changes that member and nothing else. -/
theorem exec_onMember (op : M → Except TransportError Unit × M) (i : Fin n)
    (s : MultiTransport n M) :
    (onMember op i).exec s = ((op (s.members i)).1,
      { s with members := Function.update s.members i (op (s.members i)).2 }) :=
  rfl

/-- What a stop raises is an exception. -/
def Calm (L : Lifecycle M) (m : M) : Prop :=
  ∀ e, (L.stop m).1 = .error e → e.isException = true

/-- A member that stops calmly raises nothing. -/
theorem exec_swallow_stop {i : Fin n} {s : MultiTransport n M} (h : Calm L (s.members i)) :
    (swallow (onMember L.stop i)).exec s = (.ok (),
      { s with members := Function.update s.members i (L.stop (s.members i)).2 }) := by
  have hrun := exec_onMember L.stop i s
  cases hout : (L.stop (s.members i)).1 with
  | ok a =>
    rw [hout] at hrun
    exact exec_tryCatch_of_ok hrun
  | error e =>
    rw [hout] at hrun
    rw [swallow, exec_tryCatch_of_error hrun, if_pos (h e hout)]
    rfl

/-- **Every member on the list is stopped**, whatever their stops raise. -/
theorem exec_stopEach {ps : List (Fin n)} (hnodup : ps.Nodup) {s : MultiTransport n M}
    (hcalm : ∀ i ∈ ps, Calm L (s.members i)) :
    exec (forM ps fun i ↦ swallow (onMember L.stop i)) s =
      (.ok (), { s with members := touched L.stop ps s.members }) := by
  induction ps generalizing s with
  | nil => rw [touched_nil]; rfl
  | cons p ps ih =>
    obtain ⟨hp, hnodup⟩ := List.nodup_cons.mp hnodup
    rw [List.forM_cons, exec_bind_of_ok (exec_swallow_stop (hcalm p List.mem_cons_self)),
      ih hnodup, touched_cons hp]
    intro i hi
    have hne : i ≠ p := fun h ↦ hp (h ▸ hi)
    simpa only [Function.update_of_ne hne] using hcalm i (List.mem_cons_of_mem p hi)

/-- **What was started is stopped again**, and nothing else is touched. -/
theorem exec_unwind {s : MultiTransport n M} (hnodup : s.started.Nodup)
    (hcalm : ∀ i ∈ s.started, Calm L (s.members i)) :
    (unwind L).exec s =
      (.ok (), { s with members := touched L.stop s.started s.members, started := [] }) := by
  rw [unwind, exec_bind_of_ok (exec_get s), exec_bind_of_ok
    (exec_stopEach (List.nodup_reverse.mpr hnodup) fun i hi ↦ hcalm i (List.mem_reverse.mp hi)),
    exec_modify, touched_reverse]

/-! ### Starting each of a list -/

/-- A member that starts is noted as started. -/
theorem exec_startMember_of_ok {p : Fin n} {s : MultiTransport n M}
    (h : (L.start (s.members p)).1 = .ok ()) :
    (startMember L p).exec s = (.ok (),
      { s with
        members := Function.update s.members p (L.start (s.members p)).2
        started := s.started ++ [p] }) := by
  have hrun := exec_onMember L.start p s
  rw [h] at hrun
  rw [startMember, exec_bind_of_ok (exec_tryCatch_of_ok hrun), exec_modify]

/-- A list of members that all start. -/
theorem exec_startEach {ps : List (Fin n)} (hnodup : ps.Nodup) {s : MultiTransport n M}
    (hok : ∀ i ∈ ps, (L.start (s.members i)).1 = .ok ()) :
    exec (forM ps (startMember L)) s = (.ok (),
      { s with members := touched L.start ps s.members, started := s.started ++ ps }) := by
  induction ps generalizing s with
  | nil =>
    rw [touched_nil, List.append_nil]
    rfl
  | cons p ps ih =>
    obtain ⟨hp, hnodup⟩ := List.nodup_cons.mp hnodup
    rw [List.forM_cons, exec_bind_of_ok (exec_startMember_of_ok (hok p List.mem_cons_self)),
      ih hnodup, touched_cons hp, List.append_assoc]
    · rfl
    intro i hi
    have hne : i ≠ p := fun h ↦ hp (h ▸ hi)
    simpa only [Function.update_of_ne hne] using hok i (List.mem_cons_of_mem p hi)

/-- A member that fails: those started before it are stopped. -/
theorem exec_startMember_of_exception {p : Fin n} {s : MultiTransport n M} {e : TransportError}
    (h : (L.start (s.members p)).1 = .error e) (he : e.isException = true)
    (hnodup : s.started.Nodup) (hp : p ∉ s.started)
    (hcalm : ∀ i ∈ s.started, Calm L (s.members i)) :
    (startMember L p).exec s = (.error e,
      { s with
        members := touched L.stop s.started
          (Function.update s.members p (L.start (s.members p)).2)
        started := [] }) := by
  have hrun := exec_onMember L.start p s
  rw [h] at hrun
  have hcalm' : ∀ i ∈ s.started,
      Calm L (Function.update s.members p (L.start (s.members p)).2 i) := by
    intro i hi
    have hne : i ≠ p := fun hip ↦ hp (hip ▸ hi)
    simpa only [Function.update_of_ne hne] using hcalm i hi
  have hunwind := exec_unwind (L := L)
    (s := { s with members := Function.update s.members p (L.start (s.members p)).2 })
    hnodup hcalm'
  refine exec_bind_of_error ?_
  rw [exec_tryCatch_of_error hrun, if_pos he, exec_bind_of_ok hunwind, exec_throw]

/-- A member whose start is cancelled: nobody is stopped. -/
theorem exec_startMember_of_cancelled {p : Fin n} {s : MultiTransport n M} {e : TransportError}
    (h : (L.start (s.members p)).1 = .error e) (he : e.isException = false) :
    (startMember L p).exec s = (.error e,
      { s with members := Function.update s.members p (L.start (s.members p)).2 }) := by
  have hrun := exec_onMember L.start p s
  rw [h] at hrun
  refine exec_bind_of_error ?_
  rw [exec_tryCatch_of_error hrun, if_neg (by rw [he]; decide), exec_throw]

/-- The members before one, and those behind it. -/
theorem finRange_split (p : Fin n) :
    ∃ pre post, List.finRange n = pre ++ p :: post ∧ pre.Nodup ∧ ∀ i, i ∈ pre ↔ i < p := by
  obtain ⟨pre, post, hsplit⟩ := List.append_of_mem (List.mem_finRange p)
  have hsorted : (pre ++ p :: post).Pairwise (· < ·) :=
    hsplit ▸ (List.sortedLT_finRange n).pairwise
  obtain ⟨hpre, hpost, hbetween⟩ := List.pairwise_append.mp hsorted
  refine ⟨pre, post, hsplit, hpre.imp fun h ↦ h.ne, fun i ↦ ⟨?_, fun hi ↦ ?_⟩⟩
  · exact fun hi ↦ hbetween i hi p List.mem_cons_self
  · have hmem : i ∈ pre ++ p :: post := hsplit ▸ List.mem_finRange i
    obtain hmem | hmem := List.mem_append.mp hmem
    · exact hmem
    · obtain rfl | hmem := List.mem_cons.mp hmem
      · exact absurd hi (lt_irrefl i)
      · exact absurd hi ((List.pairwise_cons.mp hpost).1 i hmem).not_gt

/-! ### How a start ends -/

variable {members : Fin n → M}

/-- Every member starts. -/
theorem start_of_ok (hok : ∀ i, (L.start (members i)).1 = .ok ()) :
    (start L).exec (new members) =
      (.ok (), ⟨fun i ↦ (L.start (members i)).2, List.finRange n, none⟩) := by
  have htouched : touched L.start (List.finRange n) members = fun i ↦ (L.start (members i)).2 := by
    funext i
    simp [touched]
  rw [start, exec_startEach (List.nodup_finRange n) fun i _ ↦ hok i]
  simp only [new, htouched, List.nil_append]

/-- A start whose members before `p` all start gets to `p`, and there it ends if `p` raises. -/
theorem exists_reached {p : Fin n} (hok : ∀ i < p, (L.start (members i)).1 = .ok ()) :
    ∃ s : MultiTransport n M, s.started.Nodup ∧ (∀ i, i ∈ s.started ↔ i < p) ∧
      (∀ i < p, s.members i = (L.start (members i)).2) ∧
      (∀ i, ¬i < p → s.members i = members i) ∧
      ∀ e t, (startMember L p).exec s = (.error e, t) →
        (start L).exec (new members) = (.error e, t) := by
  obtain ⟨pre, post, hsplit, hnodup, hpre⟩ := finRange_split p
  have hbefore : exec (forM pre (startMember L)) (new members) =
      (.ok (), ⟨touched L.start pre members, pre, none⟩) :=
    exec_startEach hnodup fun i hi ↦ hok i ((hpre i).mp hi)
  refine ⟨⟨touched L.start pre members, pre, none⟩, hnodup, hpre, fun i hi ↦ ?_, fun i hi ↦ ?_,
    fun e t hfails ↦ ?_⟩
  · exact if_pos ((hpre i).mpr hi)
  · exact if_neg fun h ↦ hi ((hpre i).mp h)
  · rw [start, hsplit, List.forM_append, exec_bind_of_ok hbefore, List.forM_cons]
    exact exec_bind_of_error hfails

/-- **The first member that fails**: the start raises what that member raised, stops those before
it, and leaves it as it failed. -/
theorem start_of_exception {p : Fin n} {e : TransportError}
    (hok : ∀ i < p, (L.start (members i)).1 = .ok ())
    (hp : (L.start (members p)).1 = .error e) (he : e.isException = true)
    (hcalm : ∀ i < p, Calm L (L.start (members i)).2) :
    ∃ t : MultiTransport n M, (start L).exec (new members) = (.error e, t) ∧ t.started = [] ∧
      (∀ i < p, t.members i = (L.stop (L.start (members i)).2).2) ∧
      t.members p = (L.start (members p)).2 ∧ ∀ i, p < i → t.members i = members i := by
  obtain ⟨s, hnodup, hstarted, hearlier, hothers, hends⟩ := exists_reached hok
  have hself := hothers p (lt_irrefl p)
  rw [← hself] at hp
  have hfails := exec_startMember_of_exception hp he hnodup
    (fun h ↦ lt_irrefl p ((hstarted p).mp h)) fun i hi ↦ by
      rw [hearlier i ((hstarted i).mp hi)]
      exact hcalm i ((hstarted i).mp hi)
  refine ⟨_, hends e _ hfails, rfl, fun i hi ↦ ?_, ?_, fun i hi ↦ ?_⟩
  · simp only [touched, if_pos ((hstarted i).mpr hi), Function.update_of_ne hi.ne, hearlier i hi]
  · simp only [touched, if_neg fun h ↦ lt_irrefl p ((hstarted p).mp h), Function.update_self,
      hself]
  · simp only [touched, if_neg fun h ↦ ((hstarted i).mp h).not_gt hi,
      Function.update_of_ne hi.ne', hothers i hi.not_gt]

/-- **A start that is cancelled** leaves the members before it started. -/
theorem start_of_cancelled {p : Fin n} {e : TransportError}
    (hok : ∀ i < p, (L.start (members i)).1 = .ok ())
    (hp : (L.start (members p)).1 = .error e) (he : e.isException = false) :
    ∃ t : MultiTransport n M, (start L).exec (new members) = (.error e, t) ∧
      (∀ i < p, t.members i = (L.start (members i)).2) ∧
      t.members p = (L.start (members p)).2 ∧ ∀ i, p < i → t.members i = members i := by
  obtain ⟨s, -, -, hearlier, hothers, hends⟩ := exists_reached hok
  have hself := hothers p (lt_irrefl p)
  rw [← hself] at hp
  refine ⟨_, hends e _ (exec_startMember_of_cancelled hp he), fun i hi ↦ ?_, ?_, fun i hi ↦ ?_⟩
  · simp only [Function.update_of_ne hi.ne, hearlier i hi]
  · simp only [Function.update_self, hself]
  · simp only [Function.update_of_ne hi.ne', hothers i hi.not_gt]

/-! ### Stopping -/

/-- A member is stopped whatever its error was. -/
theorem exec_stopMember {i : Fin n} {s : MultiTransport n M} (h : Calm L (s.members i))
    (errors : List TransportError) :
    ∃ errors', (stopMember L errors i).exec s = (.ok errors',
      { s with members := Function.update s.members i (L.stop (s.members i)).2 }) := by
  have hrun := exec_onMember L.stop i s
  cases hout : (L.stop (s.members i)).1 with
  | ok a =>
    rw [hout] at hrun
    exact ⟨errors, exec_tryCatch_of_ok ((exec_bind_of_ok hrun).trans (exec_pure _ _))⟩
  | error e =>
    rw [hout] at hrun
    refine ⟨errors ++ [e], ?_⟩
    rw [stopMember, exec_tryCatch_of_error (exec_bind_of_error hrun), if_pos (h e hout), exec_pure]

/-- So is each of a list of members. -/
theorem exec_stopMembers {ps : List (Fin n)} (hnodup : ps.Nodup) {s : MultiTransport n M}
    (hcalm : ∀ i ∈ ps, Calm L (s.members i)) (errors : List TransportError) :
    ∃ errors', (ps.foldlM (stopMember L) errors).exec s =
      (.ok errors', { s with members := touched L.stop ps s.members }) := by
  induction ps generalizing s errors with
  | nil =>
    rw [touched_nil]
    exact ⟨errors, rfl⟩
  | cons p ps ih =>
    obtain ⟨hp, hnodup⟩ := List.nodup_cons.mp hnodup
    obtain ⟨errors₁, hfirst⟩ := exec_stopMember (hcalm p List.mem_cons_self) errors
    rw [List.foldlM_cons, exec_bind_of_ok hfirst, ← touched_cons hp]
    refine ih hnodup (fun i hi ↦ ?_) errors₁
    have hne : i ≠ p := fun h ↦ hp (h ▸ hi)
    simpa only [Function.update_of_ne hne] using hcalm i (List.mem_cons_of_mem p hi)

/-- **A stop stops every started member**, and goes on when one raises. -/
theorem exec_stop {s : MultiTransport n M} (hnodup : s.started.Nodup)
    (hcalm : ∀ i ∈ s.started, Calm L (s.members i)) :
    ∃ t : MultiTransport n M, (stop L).exec s = (.ok (), t) ∧ t.started = [] ∧
      t.members = touched L.stop s.started s.members := by
  obtain ⟨errors, hrun⟩ := exec_stopMembers (List.nodup_reverse.mpr hnodup)
    (fun i hi ↦ hcalm i (List.mem_reverse.mp hi)) []
  refine ⟨{ s with
    members := touched L.stop s.started.reverse s.members
    started := []
    last_error := if errors = [] then s.last_error else errors.head? }, ?_, rfl,
    touched_reverse L.stop s.started s.members⟩
  rw [stop, exec_bind_of_ok (exec_get s), exec_bind_of_ok hrun, exec_modify]

/-- With no member on the list, a stop changes none: neither the second of two, nor the one behind a
start that failed. -/
theorem stop_of_started_eq_nil {s : MultiTransport n M} (h : s.started = []) :
    ((stop L).exec s).2.members = s.members := by
  obtain ⟨t, ht, -, hmembers⟩ := exec_stop (L := L) (s := s) (by rw [h]; exact List.nodup_nil)
    (by simp [h])
  rw [ht, hmembers, h, touched_nil]

end MultiTransport

/-! ### The media -/

/-- How `create_datagram_endpoint` ends. -/
inductive EndpointCreation where
  | created
  | raised
  | cancelled
  deriving DecidableEq

/-- What the world does at the calls of a `UdpTransport`; `setup` is all that is done to the socket
before it becomes an endpoint, and `close_releases` says that the endpoint is gone when `close` is
through with it, or has raised. -/
structure UdpWorld where
  socket : Bool
  setup : Bool
  endpoint : EndpointCreation
  close_raises : Bool
  close_releases : Bool

/-- `UdpTransport`, with the reader that the endpoint has in the event loop. -/
structure UdpTransport where
  transport : Bool
  on_receive : Bool
  reader : Bool

namespace UdpTransport

/-- As constructed. -/
def new : UdpTransport :=
  ⟨false, false, false⟩

/-- `start`. -/
def start (w : UdpWorld) : Raising UdpTransport TransportError Unit := do
  if (← get).transport then pure ()
  else
    modify fun s ↦ { s with on_receive := true }
    throwIf (w.socket = false) .socket
    -- Whatever is raised here, no endpoint has the socket yet.
    throwIf (w.setup = false) .socket
    match w.endpoint with
    | .created => modify fun s ↦ { s with transport := true, reader := true }
    | .raised => throw .endpoint
    | .cancelled => throw .cancelled

/-- `stop`. -/
def stop (w : UdpWorld) : Raising UdpTransport TransportError Unit := do
  whenState (·.transport) do
    modify fun s ↦ { s with reader := s.reader && !w.close_releases }
    throwIf (w.close_raises = true) .close_socket
    modify fun s ↦ { s with transport := false }
  modify fun s ↦ { s with on_receive := false }

end UdpTransport

/-- `LoopbackTransport`, with its subscription to the bus. -/
structure LoopbackTransport where
  started : Bool
  subscribed : Bool

namespace LoopbackTransport

/-- As constructed. -/
def new : LoopbackTransport :=
  ⟨false, false⟩

/-- `start`; `attached` says that the bus has a subscriber under the node's id. -/
def start (attached : Bool) : Raising LoopbackTransport TransportError Unit := do
  if (← get).started then pure ()
  else
    throwIf (attached = true) .attached
    modify fun s ↦ { s with subscribed := true }
    modify fun s ↦ { s with started := true }

/-- `stop`. -/
def stop : Raising LoopbackTransport TransportError Unit := do
  modify fun s ↦ { s with subscribed := false }
  modify fun s ↦ { s with started := false }

end LoopbackTransport

/-- A transport to be constructed: its medium, its arguments, and the world it will meet. -/
inductive Medium where
  | ble (c : BleConfig) (w : BleWorld) (left : Radio)
  | udp (w : UdpWorld)
  | loopback (attached : Bool)

/-- A member. -/
inductive Member where
  | ble (c : BleConfig) (w : BleWorld) (t : BleTransport)
  | udp (w : UdpWorld) (t : UdpTransport)
  | loopback (attached : Bool) (t : LoopbackTransport)

/-- The transport as constructed. -/
def Medium.new : Medium → Member
  | ble c w left => .ble c w (.new c left)
  | udp w => .udp w .new
  | loopback attached => .loopback attached .new

namespace Member

/-- `start`, by the medium. -/
def start : Member → Except TransportError Unit × Member
  | ble c w t =>
    let r := (BleTransport.start c w).exec t
    (r.1, ble c w r.2)
  | udp w t =>
    let r := (UdpTransport.start w).exec t
    (r.1, udp w r.2)
  | loopback attached t =>
    let r := (LoopbackTransport.start attached).exec t
    (r.1, loopback attached r.2)

/-- `stop`, by the medium. -/
def stop : Member → Except TransportError Unit × Member
  | ble c w t =>
    let r := (BleTransport.stop w).exec t
    (r.1, ble c w r.2)
  | udp w t =>
    let r := (UdpTransport.stop w).exec t
    (r.1, udp w r.2)
  | loopback attached t =>
    let r := LoopbackTransport.stop.exec t
    (r.1, loopback attached r.2)

/-- The transports as members. -/
def lifecycle : Lifecycle Member :=
  ⟨start, stop⟩

/-- **Nothing is left**: no advertising, no scanning, no subscription and no reader. -/
def Quiet : Member → Prop
  | ble _ _ t => BleTransport.Quiet t
  | udp _ t => t.reader = false
  | loopback _ t => t.subscribed = false

/-- The radio of a member advertises. -/
def advertising : Member → Bool
  | .ble _ _ t => t.radio.advertising
  | .udp _ _ => false
  | .loopback _ _ => false

/-- A quiet member does not advertise. -/
theorem Quiet.advertising {m : Member} (h : m.Quiet) : m.advertising = false := by
  cases m with
  | ble c w t => exact BleTransport.Quiet.radio_advertising h
  | udp w t => rfl
  | loopback attached t => rfl

/-- The member is started. -/
def Up : Member → Prop
  | ble c _ t => BleTransport.Running c t
  | udp _ t => t.transport = true ∧ t.reader = true
  | loopback _ t => t.started = true ∧ t.subscribed = true

/-- A member that is up is not quiet. -/
theorem Up.not_quiet {m : Member} (h : m.Up) : ¬m.Quiet := by
  intro hq
  cases m with
  | ble c w t =>
    exact Bool.false_ne_true
      ((BleTransport.Quiet.reader hq).symm.trans (BleTransport.Running.reader h))
  | udp w t => exact Bool.false_ne_true (hq.symm.trans h.2)
  | loopback attached t => exact Bool.false_ne_true (hq.symm.trans h.2)

end Member

namespace Medium

/-- Everything in the start goes well. -/
def Starts : Medium → Prop
  | ble c w _ => BleTransport.Starts c w
  | udp w => w.socket = true ∧ w.setup = true ∧ w.endpoint = .created
  | loopback attached => attached = false

/-- The start puts the radio on the air. -/
def Airs : Medium → Prop
  | ble c w _ => BleTransport.Airs c w
  | udp _ => False
  | loopback _ => False

/-- The start is cancelled. -/
def Cancelled : Medium → Prop
  | ble _ _ _ => False
  | udp w => w.socket = true ∧ w.setup = true ∧ w.endpoint = .cancelled
  | loopback _ => False

/-- What the stop behind a start asks for is done. -/
def Releases : Medium → Prop
  | ble c w _ => BleTransport.Releases c w
  | udp w => w.close_releases = true
  | loopback _ => True

/-- A new member is quiet. -/
theorem quiet_new (m : Medium) : m.new.Quiet := by
  cases m with
  | ble c w left => exact ⟨rfl, rfl, rfl⟩
  | udp w => rfl
  | loopback attached => rfl

/-- A start in which everything goes well, and the stop behind it. -/
theorem start_of_starts {m : Medium} (h : m.Starts) :
    m.new.start.1 = .ok () ∧ m.new.start.2.Up ∧
      MultiTransport.Calm Member.lifecycle m.new.start.2 ∧
      (m.new.start.2.stop.2.Quiet ↔ m.Releases) := by
  cases m with
  | ble c w left =>
    obtain ⟨_, hok, -, hrun⟩ | ⟨_, -, -, hnot, -⟩ := (BleTransport.start_spec left).cases rfl
    · refine ⟨hok, hrun, fun e he ↦ ?_, ?_⟩
      · obtain ⟨_, hstop, -⟩ | ⟨e', hstop, hexc, -⟩ := BleTransport.stop_spec.cases hrun
        · exact absurd (hstop.symm.trans he) nofun
        · cases hstop.symm.trans he
          exact hexc
      · obtain ⟨_, -, hquiet⟩ | ⟨_, -, -, hquiet⟩ := BleTransport.stop_spec.cases hrun
        · exact hquiet
        · exact hquiet
    · exact absurd h hnot
  | udp w =>
    obtain ⟨socket, setup, endpoint, raises, releases⟩ := w
    obtain ⟨rfl, rfl, rfl⟩ := h
    refine ⟨rfl, ⟨rfl, rfl⟩, fun e he ↦ ?_, ?_⟩
    · cases raises with
      | false => cases he
      | true =>
        cases he
        rfl
    · change (_ : Bool) = false ↔ releases = true
      cases raises <;> cases releases <;> decide
  | loopback attached =>
    obtain rfl : attached = false := h
    refine ⟨rfl, ⟨rfl, rfl⟩, fun e he ↦ ?_, iff_of_true rfl trivial⟩
    cases he

/-- A start in which something goes wrong raises; it leaves something on exactly if it has put the
radio on the air, and what it raises is no exception exactly if it is cancelled. -/
theorem start_of_not_starts {m : Medium} (h : ¬m.Starts) :
    ∃ e, m.new.start.1 = .error e ∧ (m.new.start.2.Quiet ↔ ¬m.Airs) ∧
      (e.isException = false ↔ m.Cancelled) := by
  cases m with
  | ble c w left =>
    obtain ⟨_, -, hstarts, -⟩ | ⟨e, herror, hexc, -, hair, hoff⟩ :=
      (BleTransport.start_spec left).cases rfl
    · exact absurd hstarts h
    · refine ⟨e, herror, ⟨fun hq ha ↦ ?_, fun ha ↦ (hoff ha).quiet⟩, ?_⟩
      · exact Bool.false_ne_true
          ((BleTransport.Quiet.radio_advertising hq).symm.trans (hair ha).radio_advertising)
      · exact iff_of_false (by rw [hexc]; decide) id
  | udp w =>
    obtain ⟨socket, setup, endpoint, raises, releases⟩ := w
    cases socket with
    | false =>
      refine ⟨.socket, rfl, iff_of_true rfl id, iff_of_false (by decide) fun hc ↦ ?_⟩
      cases hc.1
    | true =>
      cases setup with
      | false =>
        refine ⟨.socket, rfl, iff_of_true rfl id, iff_of_false (by decide) fun hc ↦ ?_⟩
        cases hc.2.1
      | true =>
        cases endpoint with
        | created => exact absurd ⟨rfl, rfl, rfl⟩ h
        | raised =>
          refine ⟨.endpoint, rfl, iff_of_true rfl id, iff_of_false (by decide) fun hc ↦ ?_⟩
          cases hc.2.2
        | cancelled => exact ⟨.cancelled, rfl, iff_of_true rfl id, iff_of_true rfl ⟨rfl, rfl, rfl⟩⟩
  | loopback attached =>
    obtain rfl : attached = true := Bool.eq_true_of_not_eq_false h
    exact ⟨.attached, rfl, iff_of_true rfl id, iff_of_false (by decide) id⟩

end Medium

/-! ### All or nothing -/

namespace MultiTransport

variable {n : ℕ}

/-- **All or nothing**: the start returns with every member started, or it raises with nothing left
of any. -/
def AllOrNothing (r : Except TransportError Unit × MultiTransport n Member) : Prop :=
  (r.1 = .ok () ∧ ∀ i, (r.2.members i).Up) ∨
    ((∃ e, r.1 = .error e) ∧ ∀ i, (r.2.members i).Quiet)

/-- A start that fails at the member `p` is all or nothing exactly if `p` has not put a radio on the
air, the stops of the members before it do what they ask for, and it is no cancellation with members
before it. -/
theorem allOrNothing_iff_at {media : Fin n → Medium} {p : Fin n} (hp : ¬(media p).Starts)
    (hbefore : ∀ i < p, (media i).Starts) :
    AllOrNothing ((start Member.lifecycle).exec (new fun i ↦ (media i).new)) ↔
      ¬(media p).Airs ∧ (∀ i < p, (media i).Releases) ∧ ((media p).Cancelled → ∀ i, ¬i < p) := by
  obtain ⟨e, herror, hquiet, hcancelled⟩ := Medium.start_of_not_starts hp
  have hok : ∀ i < p, (Member.lifecycle.start (media i).new).1 = .ok () :=
    fun i hi ↦ (Medium.start_of_starts (hbefore i hi)).1
  cases he : e.isException with
  | true =>
    obtain ⟨t, hrun, -, hearlier, hself, hlater⟩ := start_of_exception hok herror he
      fun i hi ↦ (Medium.start_of_starts (hbefore i hi)).2.2.1
    have hnot : ¬(media p).Cancelled := fun h ↦ by
      rw [hcancelled.mpr h] at he
      cases he
    rw [hrun]
    constructor
    · rintro (⟨hbad, -⟩ | ⟨-, hall⟩)
      · cases hbad
      · refine ⟨hquiet.mp (hself ▸ hall p), fun i hi ↦ ?_, fun h ↦ absurd h hnot⟩
        exact (Medium.start_of_starts (hbefore i hi)).2.2.2.mp (hearlier i hi ▸ hall i)
    · rintro ⟨hair, hreleases, -⟩
      refine Or.inr ⟨⟨e, rfl⟩, fun i ↦ ?_⟩
      obtain hi | rfl | hi := lt_trichotomy i p
      · rw [hearlier i hi]
        exact (Medium.start_of_starts (hbefore i hi)).2.2.2.mpr (hreleases i hi)
      · rw [hself]
        exact hquiet.mpr hair
      · rw [hlater i hi]
        exact (media i).quiet_new
  | false =>
    obtain ⟨t, hrun, hearlier, hself, hlater⟩ := start_of_cancelled hok herror he
    -- A cancellation is no `Exception`, so nothing is unwound.
    have hyes := hcancelled.mp he
    rw [hrun]
    constructor
    · rintro (⟨hbad, -⟩ | ⟨-, hall⟩)
      · cases hbad
      · -- A member that was started before it is up, and nobody has stopped it.
        have hfirst : ∀ i, ¬i < p := fun i hi ↦
          (Medium.start_of_starts (hbefore i hi)).2.1.not_quiet (hearlier i hi ▸ hall i)
        exact ⟨hquiet.mp (hself ▸ hall p), fun i hi ↦ absurd hi (hfirst i), fun _ ↦ hfirst⟩
    · rintro ⟨hair, -, hfirst⟩
      refine Or.inr ⟨⟨e, rfl⟩, fun i ↦ ?_⟩
      obtain hi | rfl | hi := lt_trichotomy i p
      · exact absurd hi (hfirst hyes i)
      · rw [hself]
        exact hquiet.mpr hair
      · rw [hlater i hi]
        exact (media i).quiet_new

/-- **When starting several transports is all or nothing**, over radios that are off to begin with
(`BleTransport.new`): whichever member is the first to fail, it has not put a radio on the air; the
stops of the members started before it do what they ask for; and, if its start was cancelled, there
are none. -/
theorem start_allOrNothing_iff (media : Fin n → Medium) :
    AllOrNothing ((start Member.lifecycle).exec (new fun i ↦ (media i).new)) ↔
      ∀ p, ¬(media p).Starts → (∀ i < p, (media i).Starts) →
        ¬(media p).Airs ∧ (∀ i < p, (media i).Releases) ∧
          ((media p).Cancelled → ∀ i, ¬i < p) := by
  constructor
  · exact fun h p hp hbefore ↦ (allOrNothing_iff_at hp hbefore).mp h
  · intro h
    by_cases hall : ∀ i, (media i).Starts
    · left
      rw [start_of_ok fun i ↦ (Medium.start_of_starts (hall i)).1]
      exact ⟨rfl, fun i ↦ (Medium.start_of_starts (hall i)).2.1⟩
    · -- The first member that fails.
      obtain ⟨p, hp, hmin⟩ := wellFounded_lt.has_min {p | ¬(media p).Starts} (not_forall.mp hall)
      have hbefore : ∀ i < p, (media i).Starts := fun i hi ↦ by
        by_contra hfails
        exact hmin i hfails hi
      exact (allOrNothing_iff_at hp hbefore).mpr (h p hp hbefore)

/-! ### A bridge whose controller refuses the scan parameters -/

/-- `HciStatus.INVALID_PARAMETERS`. -/
def INVALID_PARAMETERS : ℕ := 0x12

/-- A controller that accepts every command but `LE Set Scan Parameters`. -/
def refusingController : BleWorld where
  opens := true
  answer
    | .scan_parameters => .status INVALID_PARAMETERS
    | _ => .status SUCCESS
  tx_power := some 12
  adds_reader := true
  remove_reader := .removed
  close_raises := false
  close_silences := true

/-- The two members of a bridge, on the socket that the service holds. -/
def bridge : Fin 2 → Medium :=
  ![.ble { node_id := 21, sock := true } refusingController ⟨false, false, [], none, none, false⟩,
    .udp ⟨true, true, .created, false, true⟩]

/-- **The bridge raises and goes on advertising**, also behind a stop: the controller refuses a
command behind the one that put it on the air. -/
theorem bridge_left_advertising :
    let r := (start Member.lifecycle).exec (new fun i ↦ (bridge i).new)
    r.1 = .error (.command (.status INVALID_PARAMETERS)) ∧
      (((stop Member.lifecycle).exec r.2).2.members 0).advertising = true ∧ ¬AllOrNothing r := by
  have herror : ((start Member.lifecycle).exec (new fun i ↦ (bridge i).new)).1 =
      .error (.command (.status INVALID_PARAMETERS)) := by
    decide +kernel
  refine ⟨herror, by decide +kernel, ?_⟩
  rintro (⟨hok, -⟩ | ⟨-, hquiet⟩)
  · rw [herror] at hok
    cases hok
  · have hair : (((start Member.lifecycle).exec
        (new fun i ↦ (bridge i).new)).2.members 0).advertising = true := by
      decide +kernel
    exact Bool.false_ne_true ((Member.Quiet.advertising (hquiet 0)).symm.trans hair)

end MultiTransport

end VertexTestbed.Host
