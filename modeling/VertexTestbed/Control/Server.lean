import VertexTestbed.Lib.Runs
import VertexTestbed.Control.Transport

/-!
# The agent's control server

`control/server.py`: every connection has a task of its own, `_serve`, which reads a request, awaits
the handler of its command, writes the reply and goes on. What a handler raises becomes a reply. A
line that is no request is answered once, and the connection is closed; one that `json.loads` gives
up on closes it without an answer.

The tasks of several connections take turns at every `await`, so a run is any order of their steps:
a request is read (`receive`), the handler that runs for it comes to its end with any outcome
(`finish`), a task is cancelled. `history` is a ghost: what was answered, on which connection, and
whether it could be written.

* `connections_served`: over every order of steps, a connection is answered its own requests, each
once and in order, and the counters count what the history holds.
* `remote_calls_agree_iff`: requests over a connection do what the handlers do when they are called
one after another, and the peer reads what they return, exactly when every reply can be written and
the stream allows its line.
-/

namespace VertexTestbed.Control

open JsonText Runs

variable {K : Type}

/-- What `_serve` replies. -/
inductive Answer (K : Type) where
  /-- To a line that is no request. -/
  | malformed (e : ProtocolError)
  /-- To a request without a handler. -/
  | unsupported (req : Request K)
  /-- To a request whose handler returned a reply, or raised: `{type(exc).__name__}: {exc}`. -/
  | handled (req : Request K) (outcome : Except String (Response K × Option Bytes))

/-- How a `_serve` ends. -/
inductive Ending where
  | clean
  | protocolError
  | reset
  | cancelled
  /-- `ValueError` of `write_response`, which nothing catches. -/
  | valueError (message : String)
  /-- `ValueError` of `json.loads` on a request's line, which nothing catches either. -/
  | notConverted
  deriving DecidableEq

/-- A connection and its `_serve`. `handling` is the request whose handler is running. -/
structure Connection (K : Type) where
  reader : StreamReader
  handling : Option (Request K)
  written : List Bytes
  ended : Option Ending

/-- `ControlServer`. -/
structure ControlServer (K : Type) where
  served : ℕ
  errors : ℕ
  connections : ℕ → Connection K
  history : List (ℕ × Answer K × Bool)

/-- The next step of a task. `drains`: the connection takes what is written. -/
inductive ServerEvent (K : Type) where
  /-- The read of the `i`th connection is over. `arrives`: it was not reset. -/
  | receive (i : ℕ) (arrives drains : Bool)
  /-- The handler that runs for the `i`th connection is over. -/
  | finish (i : ℕ) (outcome : Except String (Response K × Option Bytes)) (drains : Bool)
  | cancel (i : ℕ)

namespace Answer

/-- The request that is answered. -/
def request : Answer K → Option (Request K)
  | malformed _ => none
  | unsupported req => some req
  | handled req _ => some req

/-- Whether `errors` counts it. -/
def isError : Answer K → Bool
  | handled _ (.ok _) => false
  | _ => true

/-- Whether a handler ran for it. -/
def isHandled : Answer K → Bool
  | handled _ _ => true
  | _ => false

end Answer

section Serve

variable (F : NumberText K) [DecidableEq K] [IntCast K]
/- The commands that have a handler, and the text of a `ProtocolError`. -/
variable (commands : List Command) (text : ProtocolError → String)

/-- `fail(f"unsupported command {req.command!r}; this build serves {sorted(self.handlers)}")`. -/
def unsupportedText (commands : List Command) (req : Request K) : String :=
  let sorted := (commands.map Command.name).insertionSort (· ≤ ·)
  let quoted := sorted.map fun name ↦ "'" ++ name ++ "'"
  let available := ", ".intercalate quoted
  let name := req.command.name
  s!"unsupported command '{name}'; this build serves [{available}]"

/-- The reply, with its payload. -/
def Answer.reply : Answer K → Response K × Option Bytes
  | malformed e => (fail s!"protocol error: {text e}", none)
  | unsupported req => (fail (unsupportedText commands req), none)
  | handled _ (.error why) => (fail why, none)
  | handled _ (.ok reply) => reply

/-- `await write_response(writer, resp, blob)`: the connection, and whether it was written. -/
def Connection.write (c : Connection K) (reply : Response K × Option Bytes) (drains : Bool) :
    Connection K × Bool :=
  match write_response F reply.1 reply.2 with
  | .error message => ({ c with ended := some (.valueError message) }, false)
  | .ok wire =>
    if drains then ({ c with written := c.written ++ [wire] }, true)
    else ({ c with ended := some .reset }, false)

/-- An answer is written. Behind one to a line that is no request, `_serve` returns. -/
def Connection.answer (c : Connection K) (a : Answer K) (drains : Bool) : Connection K × Bool :=
  let (c, written) := c.write F (a.reply commands text) drains
  if a.request.isSome then (c, written)
  else ({ c with ended := some (c.ended.getD .protocolError) }, written)

namespace ControlServer

/-- `_serve` answers on the `i`th connection, which is `c`. -/
def answer (s : ControlServer K) (i : ℕ) (c : Connection K) (a : Answer K) (drains : Bool) :
    ControlServer K :=
  let (c, written) := c.answer F commands text a drains
  { served := if a.isHandled ∧ written then s.served + 1 else s.served
    errors := if a.isError then s.errors + 1 else s.errors
    connections := Function.update s.connections i c
    history := s.history ++ [(i, a, written)] }

/-- The task of the `i`th connection is over. -/
def close (s : ControlServer K) (i : ℕ) (ending : Ending) : ControlServer K :=
  { s with
    connections := Function.update s.connections i
      { s.connections i with
        handling := none
        ended := some ((s.connections i).ended.getD ending) } }

/-- `_serve`, from its read to the handler's call. -/
def receive (s : ControlServer K) (i : ℕ) (arrives drains : Bool) : ControlServer K :=
  let c := s.connections i
  if c.ended.isSome ∨ c.handling.isSome then s
  else if arrives = false then s.close i .reset
  else
    match read_request F c.reader with
    | .error (.protocol e) => s.answer F commands text i c (.malformed e) drains
    | .error .valueError => s.close i .notConverted
    | .ok none => s.close i .clean
    | .ok (some (req, reader)) =>
      if req.command ∈ commands then
        { s with
          connections :=
            Function.update s.connections i { c with reader := reader, handling := some req } }
      else s.answer F commands text i { c with reader := reader } (.unsupported req) drains

/-- `_serve`, from the handler's end to the next read. -/
def finish (s : ControlServer K) (i : ℕ) (outcome : Except String (Response K × Option Bytes))
    (drains : Bool) : ControlServer K :=
  let c := s.connections i
  match c.handling with
  | none => s
  | some req =>
    s.answer F commands text i { c with handling := none } (.handled req outcome) drains

/-- The next step. -/
def step (s : ControlServer K) : ServerEvent K → ControlServer K
  | .receive i arrives drains => s.receive F commands text i arrives drains
  | .finish i outcome drains => s.finish F commands text i outcome drains
  | .cancel i => s.close i .cancelled

/-- A server whose connections bring these streams. -/
def init (streams : ℕ → StreamReader) : ControlServer K where
  served := 0
  errors := 0
  connections i := ⟨streams i, none, [], none⟩
  history := []

/-- What was answered on the `i`th connection. -/
def own (s : ControlServer K) (i : ℕ) : List (Answer K × Bool) :=
  (s.history.filter fun h ↦ h.1 = i).map Prod.snd

end ControlServer

/-! ### What a connection is answered -/

/-- Reading one request after another off a stream. -/
inductive ReadsOff (start : StreamReader) : List (Request K) → StreamReader → Prop
  | nil : ReadsOff start [] start
  | snoc {reqs : List (Request K)} {req : Request K} {s s' : StreamReader}
      (h : ReadsOff start reqs s) (hread : read_request F s = .ok (some (req, s'))) :
      ReadsOff start (reqs ++ [req]) s'

/-- **A connection is answered its own requests, each once and in order.** -/
structure Tended (start : StreamReader) (own : List (Answer K × Bool)) (c : Connection K) :
    Prop where
  /-- What its stream brings is answered, but for a request whose handler is running, or was when
  the task was cancelled. -/
  reads : ∃ last : Option (Request K),
    ReadsOff F start (own.filterMap (fun a ↦ a.1.request) ++ last.toList) c.reader ∧
      (c.ended = none → last = c.handling)
  /-- The answers are on the wire, in order. -/
  written : ((own.filter fun a ↦ a.2).map fun a ↦ a.1.reply commands text).mapM
    (fun m ↦ write_response F m.1 m.2) = .ok c.written
  /-- Only the last answer can be lost, or be to a line that is no request. -/
  complete : ∀ a ∈ own.dropLast, a.2 = true ∧ a.1.request.isSome
  going_on : c.ended = none → ∀ a ∈ own, a.2 = true ∧ a.1.request.isSome

variable {F commands text}

omit [DecidableEq K] [IntCast K] in
/-- A write goes through, or ends the connection. -/
theorem Connection.write_cases (c : Connection K) (reply : Response K × Option Bytes)
    (drains : Bool) :
    (∃ wire, write_response F reply.1 reply.2 = .ok wire ∧
      c.write F reply drains = ({ c with written := c.written ++ [wire] }, true)) ∨
    ∃ ending, c.write F reply drains = ({ c with ended := some ending }, false) := by
  rw [Connection.write]
  rcases hwrite : write_response F reply.1 reply.2 with message | wire
  · exact .inr ⟨.valueError message, rfl⟩
  · cases drains with
    | false => exact .inr ⟨.reset, rfl⟩
    | true => exact .inl ⟨wire, rfl, rfl⟩

/-- A new connection has been answered nothing. -/
theorem tended_init (start : StreamReader) :
    Tended F commands text start [] ⟨start, none, [], none⟩ where
  reads := ⟨none, .nil, fun _ ↦ rfl⟩
  written := rfl
  complete := by simp
  going_on := by simp

variable {start : StreamReader} {own : List (Answer K × Bool)} {c : Connection K}

/-- A task that is over leaves what was answered. -/
theorem Tended.close (h : Tended F commands text start own c) {c' : Connection K}
    (hreader : c'.reader = c.reader) (hwritten : c'.written = c.written)
    (hended : c'.ended ≠ none) : Tended F commands text start own c' where
  reads := by
    obtain ⟨last, hreads, -⟩ := h.reads
    exact ⟨last, hreader ▸ hreads, fun hnone ↦ absurd hnone hended⟩
  written := hwritten ▸ h.written
  complete := h.complete
  going_on hnone := absurd hnone hended

/-- A request is read, and its handler runs. -/
theorem Tended.handle (h : Tended F commands text start own c) (hopen : c.ended = none)
    (hidle : c.handling = none) {req : Request K} {reader : StreamReader}
    (hread : read_request F c.reader = .ok (some (req, reader))) :
    Tended F commands text start own { c with reader := reader, handling := some req } where
  reads := by
    obtain ⟨last, hreads, hlast⟩ := h.reads
    obtain rfl := (hlast hopen).trans hidle
    rw [Option.toList_none, List.append_nil] at hreads
    exact ⟨some req, hreads.snoc hread, fun _ ↦ rfl⟩
  written := h.written
  complete := h.complete
  going_on := h.going_on

variable (F commands text) in
omit [DecidableEq K] [IntCast K] in
/-- What an answer does to its connection. -/
theorem Connection.answer_cases (c : Connection K) (a : Answer K) (drains : Bool) :
    (c.answer F commands text a drains).1.reader = c.reader ∧
    (c.answer F commands text a drains).1.handling = c.handling ∧
    ((∃ wire, write_response F (a.reply commands text).1 (a.reply commands text).2 = .ok wire ∧
        (c.answer F commands text a drains).1.written = c.written ++ [wire] ∧
        (c.answer F commands text a drains).2 = true) ∨
      (c.answer F commands text a drains).1.written = c.written ∧
        (c.answer F commands text a drains).1.ended ≠ none ∧
        (c.answer F commands text a drains).2 = false) ∧
    ((c.answer F commands text a drains).1.ended = none → a.request.isSome) := by
  rw [Connection.answer]
  rcases c.write_cases (F := F) (a.reply commands text) drains with
    ⟨wire, hwrite, hc⟩ | ⟨ending, hc⟩
  · rw [hc]
    cases a.request with
    | none => exact ⟨rfl, rfl, .inl ⟨wire, hwrite, rfl, rfl⟩, fun h ↦ absurd h (by simp)⟩
    | some req => exact ⟨rfl, rfl, .inl ⟨wire, hwrite, rfl, rfl⟩, fun _ ↦ rfl⟩
  · rw [hc]
    cases a.request with
    | none => exact ⟨rfl, rfl, .inr ⟨rfl, by simp, rfl⟩, fun h ↦ absurd h (by simp)⟩
    | some req => exact ⟨rfl, rfl, .inr ⟨rfl, by simp, rfl⟩, fun _ ↦ rfl⟩

/-- **An answer is added behind those that were written.** -/
theorem Tended.answer (h : Tended F commands text start own c) (hopen : c.ended = none)
    {c' : Connection K} (hidle : c'.handling = none) (hsame : c'.written = c.written)
    {a : Answer K} {drains : Bool}
    (hreads : ReadsOff F start (own.filterMap (fun a ↦ a.1.request) ++ a.request.toList)
      c'.reader) :
    Tended F commands text start (own ++ [(a, (c'.answer F commands text a drains).2)])
      (c'.answer F commands text a drains).1 := by
  obtain ⟨hreader, hhandling, hwrite, hended⟩ :=
    Connection.answer_cases F commands text c' a drains
  have hall := h.going_on hopen
  refine ⟨⟨none, ?_, fun _ ↦ ?_⟩, ?_, ?_, fun hnone ↦ ?_⟩
  · rw [Option.toList_none, List.append_nil, List.filterMap_append, hreader]
    cases hreq : a.request with
    | none => simpa [hreq] using hreads
    | some req => simpa [hreq] using hreads
  · rw [hhandling, hidle]
  · rcases hwrite with ⟨wire, hwire, hwritten, htrue⟩ | ⟨hwritten, -, hfalse⟩
    · have hlast : ([(a, true)].filter fun a : Answer K × Bool ↦ a.2) = [(a, true)] := rfl
      simp only [htrue, hwritten, hsame, List.filter_append, hlast, List.map_append,
        List.mapM_append,
        h.written, List.map_cons, List.map_nil, List.mapM_cons, List.mapM_nil, hwire]
      rfl
    · have hlast : ([(a, false)].filter fun a : Answer K × Bool ↦ a.2) = [] := rfl
      simp only [hfalse, hwritten, hsame, List.filter_append, hlast, List.append_nil, h.written]
  · rw [List.dropLast_concat]
    exact hall
  · rw [List.forall_mem_append, List.forall_mem_singleton]
    refine ⟨hall, ?_, hended hnone⟩
    rcases hwrite with ⟨-, -, -, htrue⟩ | ⟨-, hsome, -⟩
    · exact htrue
    · exact absurd hnone hsome

/-! ### Every order of steps -/

/-- What a handler's end brought. -/
def Answer.outcome : Answer K → Option (Except String (Response K × Option Bytes))
  | handled _ outcome => some outcome
  | _ => none

/-- A handler runs for the requests that have one. -/
def Answer.Fair (commands : List Command) : Answer K → Prop
  | malformed _ => True
  | unsupported req => req.command ∉ commands
  | handled req _ => req.command ∈ commands

/-- The outcome that a step brings to the `i`th connection. -/
def ServerEvent.outcomeFor (i : ℕ) :
    ServerEvent K → Option (Except String (Response K × Option Bytes))
  | finish j outcome _ => if j = i then some outcome else none
  | _ => none

namespace ControlServer

/-- What every step keeps. -/
structure Inv (F : NumberText K) (commands : List Command) (text : ProtocolError → String)
    (streams : ℕ → StreamReader) (es : List (ServerEvent K)) (s : ControlServer K) : Prop where
  errors : s.errors = s.history.countP fun h ↦ h.2.1.isError
  served : s.served = s.history.countP fun h ↦ h.2.1.isHandled && h.2.2
  fair : ∀ h ∈ s.history, h.2.1.Fair commands
  running : ∀ i, ∀ req ∈ (s.connections i).handling,
    req.command ∈ commands ∧ (s.connections i).ended = none
  tended : ∀ i, Tended F commands text (streams i) (s.own i) (s.connections i)
  outcomes : ∀ i, ((s.own i).filterMap fun a ↦ a.1.outcome).Sublist
    (es.filterMap fun e ↦ e.outcomeFor i)

variable {streams : ℕ → StreamReader} {es : List (ServerEvent K)} {s : ControlServer K}

/-- Nor has any connection of a new server. -/
theorem inv_init : Inv F commands text streams [] (init streams) where
  errors := rfl
  served := rfl
  fair := by simp [init]
  running := by simp [init]
  tended i := tended_init (streams i)
  outcomes _ := List.Sublist.refl _

/-- A step that answers nothing. -/
theorem Inv.of_connection (h : Inv F commands text streams es s) (i : ℕ) (e : ServerEvent K)
    {c : Connection K} (hrunning : ∀ req ∈ c.handling, req.command ∈ commands ∧ c.ended = none)
    (htended : Tended F commands text (streams i) (s.own i) c) :
    Inv F commands text streams (es ++ [e])
      { s with connections := Function.update s.connections i c } where
  errors := h.errors
  served := h.served
  fair := h.fair
  running j := by
    rcases eq_or_ne j i with rfl | hne
    · simpa using hrunning
    · simpa [hne] using h.running j
  tended j := by
    show Tended F commands text (streams j) (s.own j) (Function.update s.connections i c j)
    rcases eq_or_ne j i with rfl | hne
    · simpa using htended
    · simpa [hne] using h.tended j
  outcomes j := by
    rw [List.filterMap_append]
    exact (h.outcomes j).trans (List.sublist_append_left _ _)

omit [DecidableEq K] [IntCast K] in
/-- An answer changes its own connection only. -/
theorem connections_answer (s : ControlServer K) (i j : ℕ) (c : Connection K) (a : Answer K)
    (drains : Bool) : (s.answer F commands text i c a drains).connections j =
      if j = i then (c.answer F commands text a drains).1 else s.connections j := by
  exact Function.update_apply _ _ _ _

omit [DecidableEq K] [IntCast K] in
/-- And is noted under that connection only. -/
theorem own_answer (s : ControlServer K) (i j : ℕ) (c : Connection K) (a : Answer K)
    (drains : Bool) : (s.answer F commands text i c a drains).own j =
      if j = i then s.own j ++ [(a, (c.answer F commands text a drains).2)] else s.own j := by
  rw [own, answer, List.filter_append, List.map_append, own]
  rcases eq_or_ne j i with rfl | hne
  · simp
  · simp [hne, hne.symm]

/-- A step that answers. -/
theorem Inv.answer (h : Inv F commands text streams es s) {i : ℕ} {e : ServerEvent K}
    {c : Connection K} {a : Answer K} {drains : Bool} (hopen : (s.connections i).ended = none)
    (hidle : c.handling = none) (hsame : c.written = (s.connections i).written)
    (hfair : a.Fair commands) (houtcome : ∀ outcome ∈ a.outcome, e.outcomeFor i = some outcome)
    (hreads : ReadsOff F (streams i)
      ((s.own i).filterMap (fun a ↦ a.1.request) ++ a.request.toList) c.reader) :
    Inv F commands text streams (es ++ [e]) (s.answer F commands text i c a drains) where
  errors := by
    show (if a.isError then s.errors + 1 else s.errors) = _
    rw [ControlServer.answer, List.countP_append, ← h.errors]
    cases herror : a.isError <;> simp [herror]
  served := by
    rw [ControlServer.answer, List.countP_append, ← h.served]
    rcases c.answer F commands text a drains with ⟨c', written⟩
    cases hh : a.isHandled <;> cases written <;> simp [hh]
  fair := by
    show ∀ x ∈ s.history ++ [_], _
    rw [List.forall_mem_append, List.forall_mem_singleton]
    exact ⟨h.fair, hfair⟩
  running j := by
    rw [connections_answer]
    rcases eq_or_ne j i with rfl | hne
    · obtain ⟨-, hhandling, -⟩ := Connection.answer_cases F commands text c a drains
      rw [if_pos rfl, hhandling, hidle]
      simp
    · simpa [hne] using h.running j
  tended j := by
    rw [own_answer, connections_answer]
    rcases eq_or_ne j i with rfl | hne
    · rw [if_pos rfl, if_pos rfl]
      exact (h.tended j).answer hopen hidle hsame hreads
    · simpa [hne] using h.tended j
  -- What the handlers returned on a connection is a sublist of what the events brought there.
  outcomes j := by
    rw [own_answer, List.filterMap_append]
    have hsub := h.outcomes j
    rcases eq_or_ne j i with rfl | hne
    · rw [if_pos rfl, List.filterMap_append]
      cases hout : a.outcome with
      | none => simpa [hout] using hsub.trans (List.sublist_append_left _ _)
      | some outcome => simpa [hout, houtcome outcome hout] using hsub
    · rw [if_neg hne]
      exact hsub.trans (List.sublist_append_left _ _)

/-- **One step**, of whichever task. -/
theorem Inv.step (h : Inv F commands text streams es s) (e : ServerEvent K) :
    Inv F commands text streams (es ++ [e]) (s.step F commands text e) := by
  -- a task with no step to take leaves everything
  have hsame (i : ℕ) : Inv F commands text streams (es ++ [e]) s := by
    simpa using h.of_connection i e (h.running i) (h.tended i)
  have hclose (i : ℕ) (ending : Ending) :
      Inv F commands text streams (es ++ [e]) (s.close i ending) :=
    h.of_connection i e (by simp) ((h.tended i).close rfl rfl (by simp))
  cases e with
  | cancel i => exact hclose i .cancelled
  | finish i outcome drains =>
    rw [ControlServer.step, finish]
    cases hhandling : (s.connections i).handling with
    | none => exact hsame i
    | some req =>
      obtain ⟨hcommand, hopen⟩ := h.running i req hhandling
      obtain ⟨last, hreads, hlast⟩ := (h.tended i).reads
      rw [hlast hopen, hhandling] at hreads
      refine h.answer hopen rfl rfl hcommand (fun out hout ↦ ?_) hreads
      rw [← Option.some.inj hout]
      exact if_pos rfl
  | receive i arrives drains =>
    rw [ControlServer.step, receive]
    split
    · exact hsame i
    · rename_i hready
      obtain ⟨hopen, hidle⟩ :
          (s.connections i).ended = none ∧ (s.connections i).handling = none := by
        simpa using hready
      obtain ⟨last, hreads, hlast⟩ := (h.tended i).reads
      rw [hlast hopen, hidle, Option.toList_none, List.append_nil] at hreads
      split
      · exact hclose i .reset
      split
      · refine h.answer hopen hidle rfl trivial (by simp [Answer.outcome]) ?_
        simpa [Answer.request] using hreads
      · exact hclose i .notConverted
      · exact hclose i .clean
      · rename_i req reader hread
        split
        · rename_i hcommand
          refine h.of_connection i _ ?_ ((h.tended i).handle hopen hidle hread)
          rintro _ ⟨⟩
          exact ⟨hcommand, hopen⟩
        · rename_i hcommand
          exact h.answer hopen hidle rfl hcommand (by simp [Answer.outcome]) (hreads.snoc hread)

variable (F commands text) in
/-- **The invariant holds along every run of the server.** -/
theorem inv_run (streams : ℕ → StreamReader) (es : List (ServerEvent K)) :
    Inv F commands text streams es
      (run (ControlServer.step F commands text) (init streams) es) := by
  induction es using List.reverseRecOn with
  | nil => exact inv_init
  | append_singleton es e ih =>
    rw [run_concat]
    exact ih.step e

end ControlServer

/-! ### Connections do not meet -/

/-- Whose step it is. -/
def ServerEvent.conn : ServerEvent K → ℕ
  | receive i _ _ => i
  | finish i _ _ => i
  | cancel i => i

namespace ControlServer

/-- Two servers show the same on the `i`th connection. -/
def SameOn (i : ℕ) (s t : ControlServer K) : Prop :=
  s.connections i = t.connections i ∧ s.own i = t.own i

/-- An event of another connection leaves connection `i` where it was. -/
theorem SameOn.step_other {i : ℕ} {s t : ControlServer K} (h : SameOn i s t) {e : ServerEvent K}
    (he : e.conn ≠ i) : SameOn i (s.step F commands text e) t := by
  have hupdate {c : Connection K} : Function.update s.connections e.conn c i = t.connections i := by
    rw [Function.update_of_ne he.symm]
    exact h.1
  have hanswer {c : Connection K} {a : Answer K} {drains : Bool} :
      SameOn i (s.answer F commands text e.conn c a drains) t := by
    refine ⟨?_, ?_⟩
    · rw [connections_answer, if_neg he.symm]
      exact h.1
    · rw [own_answer, if_neg he.symm]
      exact h.2
  cases e with
  | cancel j => exact ⟨hupdate, h.2⟩
  | finish j outcome drains =>
    rw [step, finish]
    split
    · exact h
    · exact hanswer
  | receive j arrives drains =>
    rw [step, receive]
    split
    · exact h
    split
    · exact ⟨hupdate, h.2⟩
    split
    · exact hanswer
    · exact ⟨hupdate, h.2⟩
    · exact ⟨hupdate, h.2⟩
    split
    · exact ⟨hupdate, h.2⟩
    · exact hanswer

/-- An event of its own moves it the same way in both servers. -/
theorem SameOn.step_own {s t : ControlServer K} (e : ServerEvent K) (h : SameOn e.conn s t) :
    SameOn e.conn (s.step F commands text e) (t.step F commands text e) := by
  obtain ⟨hconnection, hown⟩ := h
  -- What an event does to its connection depends on that connection alone.
  have hupdate {i : ℕ} {c : Connection K} :
      Function.update s.connections i c i = Function.update t.connections i c i := by
    rw [Function.update_self, Function.update_self]
  have hanswer {c : Connection K} {a : Answer K} {drains : Bool} :
      SameOn e.conn (s.answer F commands text e.conn c a drains)
        (t.answer F commands text e.conn c a drains) := by
    refine ⟨?_, ?_⟩
    · rw [connections_answer, connections_answer, if_pos rfl, if_pos rfl]
    · rw [own_answer, own_answer, if_pos rfl, if_pos rfl, hown]
  have hclose {ending : Ending} :
      SameOn e.conn (s.close e.conn ending) (t.close e.conn ending) := by
    refine ⟨?_, hown⟩
    rw [close, close, hconnection]
    exact hupdate
  cases e with
  | cancel j => exact hclose
  | finish j outcome drains =>
    simp only [step, finish, ServerEvent.conn] at hconnection hanswer ⊢
    rw [hconnection]
    split
    · exact ⟨hconnection, hown⟩
    · exact hanswer
  | receive j arrives drains =>
    simp only [step, receive, ServerEvent.conn] at hconnection hanswer hclose ⊢
    rw [hconnection]
    split
    · exact ⟨hconnection, hown⟩
    split
    · exact hclose
    split
    · exact hanswer
    · exact hclose
    · exact hclose
    split
    · exact ⟨hupdate, hown⟩
    · exact hanswer

/-- The steps of the other tasks can be left out. -/
theorem run_filter {i : ℕ} {s t : ControlServer K} (h : SameOn i s t) (es : List (ServerEvent K)) :
    SameOn i (run (ControlServer.step F commands text) s es)
      (run (ControlServer.step F commands text) t (es.filter fun e ↦ e.conn = i)) := by
  induction es generalizing s t with
  | nil => exact h
  | cons e es ih =>
    rcases eq_or_ne e.conn i with rfl | hne
    · rw [List.filter_cons_of_pos (by simp)]
      exact ih h.step_own
    · rw [List.filter_cons_of_neg (by simpa using hne)]
      exact ih (h.step_other hne)

end ControlServer

variable (F commands text)

/-- **Every order of steps of any number of connections**: a connection is answered its own
requests, each once and in order, and what the others do leaves no trace on it. The counters count
the answers. -/
theorem connections_served (streams : ℕ → StreamReader) (es : List (ServerEvent K)) :
    let s := run (ControlServer.step F commands text) (.init streams) es
    s.errors = s.history.countP (fun h ↦ h.2.1.isError) ∧
    s.served = s.history.countP (fun h ↦ h.2.1.isHandled && h.2.2) ∧
    (∀ h ∈ s.history, h.2.1.Fair commands) ∧
    ∀ i, Tended F commands text (streams i) (s.own i) (s.connections i) ∧
      ((s.own i).filterMap fun a ↦ a.1.outcome).Sublist (es.filterMap fun e ↦ e.outcomeFor i) ∧
      ControlServer.SameOn i s
        (run (ControlServer.step F commands text) (.init streams)
          (es.filter fun e ↦ e.conn = i)) := by
  have h := ControlServer.inv_run F commands text streams es
  exact ⟨h.errors, h.served, h.fair, fun i ↦
    ⟨h.tended i, h.outcomes i, ControlServer.run_filter ⟨rfl, rfl⟩ es⟩⟩

/-! ### Calls over a connection -/

variable {σ : Type}

/-- `CommandHandler`, with what it does to the agent. -/
abbrev CommandHandler (K σ : Type) :=
  List (String × Json K) → σ → Except String (Response K × Option Bytes) × σ

/-- What a request comes to where the handlers are. -/
def call (handlers : List (Command × CommandHandler K σ)) (req : Request K) (agent : σ) :
    Answer K × σ :=
  match handlers.lookup req.command with
  | none => (.unsupported req, agent)
  | some handler => (.handled req (handler req.args agent).1, (handler req.args agent).2)

/-- Requests, one after another. -/
def calls (handlers : List (Command × CommandHandler K σ)) :
    List (Request K) → σ → List (Answer K) × σ
  | [], agent => ([], agent)
  | req :: reqs, agent =>
    let (a, agent) := call handlers req agent
    let (as, agent) := calls handlers reqs agent
    (a :: as, agent)

/-- `_serve` on a connection that is never reset, as long as it has turns: a request is read, its
handler is awaited, its reply is written. -/
def serve (handlers : List (Command × CommandHandler K σ)) :
    ℕ → ControlServer K → σ → ControlServer K × σ
  | 0, s, agent => (s, agent)
  | turns + 1, s, agent =>
    let commands := handlers.map Prod.fst
    let s := s.receive F commands text 0 true true
    let running := (s.connections 0).handling.bind fun req ↦
      (handlers.lookup req.command).map fun handler ↦ handler req.args agent
    match running with
    | none => serve handlers turns s agent
    | some (outcome, agent) =>
      serve handlers turns (s.finish F commands text 0 outcome true) agent

variable {F text} {handlers : List (Command × CommandHandler K σ)}

variable (handlers) in
omit [DecidableEq K] [IntCast K] in
/-- The commands served are those with a handler. -/
theorem mem_commands_iff (command : Command) :
    command ∈ handlers.map Prod.fst ↔ (handlers.lookup command).isSome := by
  rw [List.lookup_isSome_iff, List.mem_map]
  refine exists_congr fun p ↦ and_congr_right fun _ ↦ ?_
  rw [beq_iff_eq, eq_comm]

variable (text handlers) in
/-- A turn that reads a request answers what the request comes to. -/
theorem serve_of_read {s : ControlServer K} (hopen : (s.connections 0).ended = none)
    (hidle : (s.connections 0).handling = none) {req : Request K} {reader : StreamReader}
    (hread : read_request F (s.connections 0).reader = .ok (some (req, reader))) (turns : ℕ)
    (agent : σ) :
    serve F text handlers (turns + 1) s agent =
      serve F text handlers turns
        (s.answer F (handlers.map Prod.fst) text 0 { s.connections 0 with reader := reader }
          (call handlers req agent).1 true) (call handlers req agent).2 := by
  have hready : ¬((s.connections 0).ended.isSome ∨ (s.connections 0).handling.isSome) := by
    simp [hopen, hidle]
  have hmem := mem_commands_iff handlers req.command
  rw [serve, ControlServer.receive]
  simp only [if_neg hready, Bool.true_eq_false, if_false, hread]
  cases hlookup : handlers.lookup req.command with
  | none =>
    rw [hlookup] at hmem
    have hhandling : ((s.answer F (handlers.map Prod.fst) text 0
        { s.connections 0 with reader := reader } (.unsupported req) true).connections 0).handling =
          none := by
      rw [ControlServer.connections_answer, if_pos rfl,
        (Connection.answer_cases _ _ _ _ _ _).2.1, hidle]
    simp only [if_neg (mt hmem.1 (by simp)), call, hlookup, hhandling, Option.bind_none]
  | some handler =>
    rw [hlookup] at hmem
    simp only [if_pos (hmem.2 rfl), call, hlookup, Function.update_self, Option.bind_some,
      Option.map_some, ControlServer.finish]
    rw [ControlServer.answer, ControlServer.answer]
    simp only [Function.update_idem, hidle]

/-- A turn at the end of the stream ends the task. -/
theorem serve_of_nil {s : ControlServer K} (hopen : (s.connections 0).ended = none)
    (hidle : (s.connections 0).handling = none)
    (hread : read_request F (s.connections 0).reader = .ok none) (turns : ℕ) (agent : σ) :
    serve F text handlers (turns + 1) s agent =
      serve F text handlers turns (s.close 0 .clean) agent := by
  have hready : ¬((s.connections 0).ended.isSome ∨ (s.connections 0).handling.isSome) := by
    simp [hopen, hidle]
  have hhandling : ((s.close 0 .clean).connections 0).handling = none := by
    simp [ControlServer.close]
  rw [serve, ControlServer.receive]
  simp only [if_neg hready, Bool.true_eq_false, if_false, hread, hhandling, Option.bind_none]

/-- A task that has ended has no more turns. -/
theorem serve_of_ended {s : ControlServer K} (hended : (s.connections 0).ended.isSome)
    (hidle : (s.connections 0).handling = none) (turns : ℕ) (agent : σ) :
    serve F text handlers turns s agent = (s, agent) := by
  induction turns with
  | zero => rfl
  | succ turns ih =>
    rw [serve, ControlServer.receive]
    simp only [hended, true_or, if_true, hidle, Option.bind_none, ih]

omit [DecidableEq K] [IntCast K] in
/-- The agent is left with the request that was served last. -/
theorem call_request (req : Request K) (agent : σ) :
    (call handlers req agent).1.request = some req := by
  rw [call]
  cases handlers.lookup req.command <;> rfl

/-- Whether a reply can be written. -/
def writable (F : NumberText K) (m : Response K × Option Bytes) : Bool :=
  (write_response F m.1 m.2).isOk

omit [DecidableEq K] [IntCast K] in
/-- A message is writable exactly when the writer has bytes for it. -/
theorem writable_iff {m : Response K × Option Bytes} :
    writable F m = true ↔ ∃ wire, write_response F m.1 m.2 = .ok wire := by
  rw [writable]
  cases write_response F m.1 m.2 with
  | error message => exact ⟨fun h ↦ absurd h Bool.false_ne_true, by rintro ⟨wire, ⟨⟩⟩⟩
  | ok wire => exact ⟨fun _ ↦ ⟨wire, rfl⟩, fun _ ↦ rfl⟩

omit [DecidableEq K] [IntCast K] in
/-- An answer that can be written leaves the connection as it was. -/
theorem answer_of_writable {c : Connection K} {a : Answer K}
    (hreq : a.request.isSome) {commands : List Command} {wire : Bytes}
    (hwrite : write_response F (a.reply commands text).1 (a.reply commands text).2 = .ok wire) :
    c.answer F commands text a true = ({ c with written := c.written ++ [wire] }, true) := by
  rw [Connection.answer, Connection.write, hwrite]
  simp only [if_true, if_pos hreq]

omit [DecidableEq K] [IntCast K] in
/-- An answer that cannot be written ends its connection. -/
theorem answer_of_not_writable {c : Connection K} {a : Answer K} {commands : List Command}
    (hwrite : writable F (a.reply commands text) = false) (hreq : a.request.isSome) :
    ∃ message, c.answer F commands text a true =
      ({ c with ended := some (.valueError message) }, false) := by
  rw [writable] at hwrite
  rcases hresult : write_response F (a.reply commands text).1 (a.reply commands text).2 with
    message | wire
  · refine ⟨message, ?_⟩
    rw [Connection.answer, Connection.write, hresult]
    simp only [if_pos hreq]
  · rw [hresult] at hwrite
    cases hwrite

omit [DecidableEq K] [IntCast K] in
/-- What an answer leaves on its connection, and what it adds to the counters. -/
theorem connections_answer_zero (s : ControlServer K) {c c' : Connection K} {a : Answer K}
    {commands : List Command} {written : Bool}
    (h : c.answer F commands text a true = (c', written)) :
    (s.answer F commands text 0 c a true).connections 0 = c' ∧
    (s.answer F commands text 0 c a true).errors =
      s.errors + [a].countP Answer.isError ∧
    (s.answer F commands text 0 c a true).served =
      s.served + [a].countP fun a ↦ a.isHandled && written := by
  rw [ControlServer.answer, h]
  refine ⟨by simp, ?_, ?_⟩
  · cases herror : a.isError <;> simp [herror]
  · cases hhandled : a.isHandled <;> cases written <;> simp [hhandled]

/-- The replies to some requests. -/
def replies (text : ProtocolError → String) (handlers : List (Command × CommandHandler K σ))
    (reqs : List (Request K)) (agent : σ) : List (Response K × Option Bytes) :=
  (calls handlers reqs agent).1.map (Answer.reply (handlers.map Prod.fst) text)

/-- From `s`, the task came to the end of its stream and did what the calls do. -/
structure ServedAs (handlers : List (Command × CommandHandler K σ)) (reqs : List (Request K))
    (agent : σ) (s : ControlServer K) (result : ControlServer K × σ) : Prop where
  effect : result.2 = (calls handlers reqs agent).2
  ended : (result.1.connections 0).ended = some .clean
  errors : result.1.errors = s.errors + (calls handlers reqs agent).1.countP Answer.isError
  served : result.1.served = s.served + (calls handlers reqs agent).1.countP Answer.isHandled

variable (text handlers) in
/-- **The task serves the requests on its stream as if they were called**, up to the first reply
that cannot be written. -/
theorem serve_requests {limit : ℕ} {reqs : List (Request K)}
    (hreqs : ∀ req ∈ reqs, (req.Valid F ∧ (req.headerLine F).length ≤ MAX_LINE) ∧
      (req.headerLine F).length ≤ limit) {s : ControlServer K}
    (hopen : (s.connections 0).ended = none) (hidle : (s.connections 0).handling = none)
    (hlimit : (s.connections 0).reader.limit = limit)
    (hunread : (s.connections 0).reader.unread = reqs.flatMap (requestFraming F).wire)
    {turns : ℕ} (hturns : reqs.length < turns) (agent : σ) :
    (∃ wires, ((replies text handlers reqs agent).takeWhile (writable F)).mapM
        (fun m ↦ write_response F m.1 m.2) = .ok wires ∧
      ((serve F text handlers turns s agent).1.connections 0).written =
        (s.connections 0).written ++ wires) ∧
    ((∀ m ∈ replies text handlers reqs agent, writable F m = true) →
      ServedAs handlers reqs agent s (serve F text handlers turns s agent)) := by
  induction reqs generalizing s turns agent with
  | nil =>
    obtain ⟨turns, rfl⟩ : ∃ t, turns = t + 1 := ⟨turns - 1, by simp at hturns; omega⟩
    have hread : read_request F (s.connections 0).reader = .ok none :=
      (requestFraming F).read_nil _ hunread
    rw [serve_of_nil hopen hidle hread, serve_of_ended (by simp [ControlServer.close])
      (by simp [ControlServer.close])]
    refine ⟨⟨[], rfl, ?_⟩, fun _ ↦ ⟨rfl, ?_, rfl, rfl⟩⟩
    · simp [ControlServer.close]
    · simp [ControlServer.close, hopen]
  | cons req reqs ih =>
    obtain ⟨turns, rfl⟩ : ∃ t, turns = t + 1 := ⟨turns - 1, by simp at hturns; omega⟩
    rw [List.length_cons, Nat.add_lt_add_iff_right] at hturns
    rw [List.forall_mem_cons] at hreqs
    obtain ⟨⟨hreq, hshort⟩, hreqs⟩ := hreqs
    rw [List.flatMap_cons, Framing.wire, List.append_assoc, List.cons_append] at hunread
    obtain ⟨reader, hread, hrest, hlimit'⟩ :=
      (requestFraming F).read_short req _ _ hreq hunread (hlimit ▸ hshort)
    have hserve := serve_of_read text handlers hopen hidle hread turns agent
    have hsome : (call handlers req agent).1.request.isSome := by
      rw [call_request]
      rfl
    rcases hcall : call handlers req agent with ⟨a, agent'⟩
    obtain ⟨c, hc⟩ : ∃ c : Connection K, c = { s.connections 0 with reader := reader } := ⟨_, rfl⟩
    simp only [requestFraming, hcall, ← hc] at hserve hsome
    have hcalls : calls handlers (req :: reqs) agent =
        (a :: (calls handlers reqs agent').1, (calls handlers reqs agent').2) := by
      rw [calls, hcall]
    have hreplies : replies text handlers (req :: reqs) agent =
        a.reply (handlers.map Prod.fst) text :: replies text handlers reqs agent' := by
      rw [replies, hcalls]
      rfl
    have hcidle : c.handling = none := by rw [hc]; exact hidle
    have hcwritten : c.written = (s.connections 0).written := by rw [hc]
    rw [hserve, hreplies]
    cases hwrite : writable F (a.reply (handlers.map Prod.fst) text) with
    | false =>
      -- the task ends there, and what was written is what was written before
      obtain ⟨message, hanswer⟩ := answer_of_not_writable (c := c) hwrite hsome
      obtain ⟨hconnection, -, -⟩ := connections_answer_zero s hanswer
      rw [serve_of_ended (by rw [hconnection]; rfl) (by rw [hconnection]; exact hcidle),
        List.takeWhile_cons_of_neg (by simp [hwrite]), hconnection]
      refine ⟨⟨[], rfl, by rw [List.append_nil]; exact hcwritten⟩, fun hall ↦ ?_⟩
      rw [hall _ List.mem_cons_self] at hwrite
      cases hwrite
    | true =>
      obtain ⟨wire, hwire⟩ := writable_iff.1 hwrite
      have hanswer := answer_of_writable (c := c) hsome hwire
      obtain ⟨hconnection, herrors, hserved⟩ := connections_answer_zero s hanswer
      obtain ⟨⟨wires, hmap, hwritten⟩, hserves⟩ := ih hreqs (by rw [hconnection, hc]; exact hopen)
        (by rw [hconnection]; exact hcidle) (by rw [hconnection, hc]; exact hlimit'.trans hlimit)
        (by rw [hconnection, hc]; exact hrest) hturns agent'
      rw [hconnection] at hwritten
      rw [List.takeWhile_cons_of_pos hwrite, List.forall_mem_cons]
      refine ⟨⟨wire :: wires, ?_, ?_⟩, fun hall ↦ ?_⟩
      · rw [List.mapM_cons, hwire, hmap]
        rfl
      · rw [hwritten, hcwritten, List.append_assoc, List.singleton_append]
      · obtain ⟨heffect, hended, herr, hser⟩ := hserves hall.2
        have hcount (p : Answer K → Bool) : (calls handlers (req :: reqs) agent).1.countP p =
            [a].countP p + (calls handlers reqs agent').1.countP p := by
          rw [hcalls, ← List.countP_append]
          rfl
        simp only [Bool.and_true] at hserved
        refine ⟨by rw [heffect, hcalls], hended, ?_, ?_⟩
        · rw [herr, herrors, hcount, Nat.add_assoc]
        · rw [hser, hserved, hcount, Nat.add_assoc]

variable (F text handlers)

/-- **A call over a connection is a call**: the requests of a stream, however it is cut into chunks,
do to the agent what they do one after another where it is, and their replies are read back,
exactly when each can be written and is on a line that the stream allows. -/
theorem remote_calls_agree_iff (limit : ℕ) (reqs : List (Request K)) (agent : σ) {turns : ℕ}
    (hturns : reqs.length < turns) (chunks : List Bytes)
    (hreqs : ∀ req ∈ reqs, (req.Valid F ∧ (req.headerLine F).length ≤ MAX_LINE) ∧
      (req.headerLine F).length ≤ limit)
    (hreplies : ∀ m ∈ replies text handlers reqs agent,
      m.1.Valid F ∧ (m.1.headerLine F).length ≤ MAX_LINE)
    (hchunks : chunks.flatten = reqs.flatMap (write_request F)) :
    let start := ControlServer.init fun _ ↦ openStream limit chunks
    let result := serve F text handlers turns start agent
    ((∀ m ∈ replies text handlers reqs agent, writable F m = true) →
      ServedAs handlers reqs agent start result) ∧
    ∀ back : List Bytes, back.flatten = (result.1.connections 0).written.flatten →
      (readAll (readReply F) (openStream limit back) =
          .ok ((replies text handlers reqs agent).map carried) ↔
        ∀ m ∈ replies text handlers reqs agent,
          writable F m = true ∧ (m.1.headerLine F).length ≤ limit) := by
  intro start result
  have hunread : (start.connections 0).reader.unread = reqs.flatMap (requestFraming F).wire := by
    rw [show (start.connections 0).reader.unread = chunks.flatten from rfl, hchunks]
    congr 1
    funext req
    exact encode_request_eq req
  obtain ⟨⟨wires, hmap, hwritten⟩, hserves⟩ := serve_requests text handlers hreqs
    (s := start) rfl rfl rfl hunread hturns agent
  refine ⟨hserves, fun back hback ↦ ?_⟩
  obtain ⟨hpay, hflatten⟩ := flatten_of_mapM_write F hmap
  have hfits : ∀ m ∈ (replies text handlers reqs agent).takeWhile (writable F),
      (replyFraming F).Fits m := fun m hm ↦
    ⟨hreplies m (List.takeWhile_subset _ hm), hpay m hm⟩
  have hwire : (openStream limit back).unread =
      ((replies text handlers reqs agent).takeWhile (writable F)).flatMap
        (replyFraming F).wire := by
    rw [← hflatten, show (openStream limit back).unread = back.flatten from rfl, hback, hwritten]
    rfl
  have hread := (replyFraming F).readAll_iff hfits hwire
  constructor
  · intro hall
    -- what was read is all that was written, and so nothing ended the task before
    have hlength := congrArg List.length ((replyFraming F).readAll_eq_ok hfits hwire hall)
    rw [List.length_map, List.length_map] at hlength
    have hself := (List.takeWhile_prefix (writable F)).eq_of_length hlength.symm
    rw [hself] at hread
    exact fun m hm ↦ ⟨List.takeWhile_eq_self_iff.1 hself m hm, hread.1 hall m hm⟩
  · intro hall
    have hself := List.takeWhile_eq_self_iff.2 fun m hm ↦ (hall m hm).1
    rw [hself] at hread
    exact hread.2 fun m hm ↦ (hall m hm).2

omit F text handlers in
/-- An agent that counts its starts and has one file. -/
def countingHandlers : List (Command × CommandHandler ℚ ℕ) :=
  [(.start, fun _ n ↦ (.ok (ok [], none), n + 1)), (.fetch, fun _ n ↦ (.ok threeBytes, n))]

/-- A start, a file, and a command that the agent does not serve. -/
def mixedRequests : List (Request ℚ) := [startHalf, request .fetch [], request .stop []]

theorem mixedRequests_fit : ∀ req ∈ mixedRequests,
    (req.Valid halfText ∧ (req.headerLine halfText).length ≤ MAX_LINE) ∧
      (req.headerLine halfText).length ≤ DEFAULT_LIMIT := by
  have hle : DEFAULT_LIMIT ≤ MAX_LINE := by decide
  have hfits {req : Request ℚ} (hvalid : req.Valid halfText)
      (hlength : (req.headerLine halfText).length ≤ DEFAULT_LIMIT) :
      (req.Valid halfText ∧ (req.headerLine halfText).length ≤ MAX_LINE) ∧
        (req.headerLine halfText).length ≤ DEFAULT_LIMIT :=
    ⟨⟨hvalid, hlength.trans hle⟩, hlength⟩
  simp only [mixedRequests, List.forall_mem_cons, List.not_mem_nil, IsEmpty.forall_iff,
    implies_true, and_true]
  exact ⟨hfits startHalf_fits.1 startHalf_fits.2,
    hfits ⟨rfl, List.nodup_nil, trivial⟩ (by decide +kernel),
    hfits ⟨rfl, List.nodup_nil, trivial⟩ (by decide +kernel)⟩

theorem mixedReplies_eq : replies (fun _ ↦ "") countingHandlers mixedRequests 0 =
    [(ok [], none), threeBytes,
      (fail "unsupported command 'stop'; this build serves ['fetch', 'start']", none)] := by
  rfl

theorem mixedReplies_fit : ∀ m ∈ replies (fun _ ↦ "") countingHandlers mixedRequests 0,
    m.1.Valid halfText ∧ (m.1.headerLine halfText).length ≤ DEFAULT_LIMIT ∧
      writable halfText m = true := by
  have hzero : halfText.Converts 0 := halfText.converts_of_short (by decide)
  rw [mixedReplies_eq]
  simp only [List.forall_mem_cons, List.not_mem_nil, IsEmpty.forall_iff, implies_true, and_true]
  exact ⟨⟨⟨rfl, ⟨List.nodup_nil, trivial⟩, hzero⟩, by decide +kernel, rfl⟩,
    ⟨threeBytes_fits.1, threeBytes_fits.2, by decide +kernel⟩,
    ⟨⟨rfl, ⟨List.nodup_nil, trivial⟩, hzero⟩, by decide +kernel, rfl⟩⟩

theorem remote_calls_agree_iff_mixed :
    let start := ControlServer.init fun _ ↦
      openStream DEFAULT_LIMIT (mixedRequests.map (write_request halfText))
    let result := serve halfText (fun _ ↦ "") countingHandlers 4 start 0
    ServedAs countingHandlers mixedRequests 0 start result ∧
      readAll (readReply halfText)
          (openStream DEFAULT_LIMIT [(result.1.connections 0).written.flatten]) =
        .ok ((replies (fun _ ↦ "") countingHandlers mixedRequests 0).map carried) := by
  have hle : DEFAULT_LIMIT ≤ MAX_LINE := by decide
  obtain ⟨hserves, hread⟩ := remote_calls_agree_iff halfText (fun _ ↦ "") countingHandlers
    DEFAULT_LIMIT mixedRequests 0 (by decide : mixedRequests.length < 4)
    (mixedRequests.map (write_request halfText)) mixedRequests_fit
    (fun m hm ↦ ⟨(mixedReplies_fit m hm).1, (mixedReplies_fit m hm).2.1.trans hle⟩)
    List.flatMap_def.symm
  exact ⟨hserves fun m hm ↦ (mixedReplies_fit m hm).2.2,
    (hread _ List.flatten_singleton).2 fun m hm ↦
      ⟨(mixedReplies_fit m hm).2.2, (mixedReplies_fit m hm).2.1⟩⟩

end Serve
end VertexTestbed.Control
