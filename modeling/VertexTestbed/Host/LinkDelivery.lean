import VertexTestbed.Host.LinkAccounting

/-!
# Delivery from the rows of a log

`NodeRun.link_delivery` (`analysis/load.py`): a delivery figure from the column of last sequence
numbers, beside the one of `LinkMonitor`, which sees every packet. Both run over one history, the
receptions a neighbour table was given row by row.

A packet that is followed by another one in its row is in no row. That loses deliveries, but the
first row that hears the neighbour loses losses too: the numbers it runs through are no part of the
sampled window. `link_delivery_le_iff` weighs the one against the other.
-/

namespace VertexTestbed.Host

open Runs

/-! ### The analysis -/

/-- The figures that `link_delivery` returns. -/
structure DeliveryFigure where
  expected : ℕ
  received : ℕ
  lost : ℕ
  delivery_ratio : ℚ
  stale_prefix : ℕ
  bunching_suspected : Bool
  seq_jumps : ℕ
  exact_delivery_ratio : Option ℚ
  deriving DecidableEq

/-- What `link_delivery` returns: nothing, a series that is no run, or figures. -/
inductive LinkDelivery where
  | empty
  | inconsistent (expected received stale_prefix : ℕ)
  | figure (f : DeliveryFigure)
  deriving DecidableEq

/-- `round(q, 4)`. -/
def roundFour (q : ℚ) : ℚ := roundHalfEven (q * 10000) / 10000

/-- The sequence numbers in view, from the smallest on, and how many rows that leaves out. -/
def dropStale (seqs : List ℕ) : List ℕ × ℕ :=
  let stale := seqs.idxOf (seqs.min?.getD 0)
  (seqs.drop stale, stale)

/-- `span`: the numbers from the first to the last, modulo `2 ^ 16`. -/
def seqSpan (seqs : List ℕ) : ℕ :=
  ((((seqs.getLastD 0 : ℕ) : ℤ) - (seqs.headD 0 : ℕ)) % 65536).toNat + 1

/-- `jumps`: the steps between rows that skip a number, but not too many. -/
def seqJumps (seqs : List ℕ) : ℕ :=
  (seqs.zip seqs.tail).countP fun e ↦
    decide (1 < ((e.2 : ℤ) - e.1) % 65536) && decide (((e.2 : ℤ) - e.1) % 65536 < 1000)

/-- `link_delivery`, of a column and the exact ratio if the metadata has one. -/
def link_delivery (raw : List ℕ) (exact : Option ℚ) : LinkDelivery :=
  let seqs := raw.filter (· ≠ 0)
  if seqs.length < 2 then .empty
  else
    let stale := (dropStale seqs).2
    let seqs := (dropStale seqs).1
    if seqs.length < 2 then .empty
    else
      let span := seqSpan seqs
      let received := seqs.toFinset.card
      if span < received then .inconsistent span received stale
      else
        .figure
          { expected := span
            received := received
            lost := span - received
            delivery_ratio := if span ≠ 0 then roundFour (received / span) else 0
            stale_prefix := stale
            bunching_suspected := decide (0 < seqJumps seqs)
            seq_jumps := seqJumps seqs
            exact_delivery_ratio := exact }

/-! ### Rows that sample the last number -/

/-- The last number heard, row by row, from `a` on. -/
def lastSeen : ℕ → List (List ℕ) → List ℕ
  | _, [] => []
  | a, row :: rows => row.getLastD a :: lastSeen (row.getLastD a) rows

/-- The last number of each row that heard one. -/
def sampled (rows : List (List ℕ)) : List ℕ :=
  (rows.filter fun row ↦ !row.isEmpty).map fun row ↦ row.getLastD 0

/-- An interval in which nothing arrived adds no row. -/
@[simp]
theorem sampled_nil_cons (rows : List (List ℕ)) : sampled ([] :: rows) = sampled rows := rfl

/-- One in which something arrived adds its last number. -/
@[simp]
theorem sampled_cons_cons (s : ℕ) (row : List ℕ) (rows : List (List ℕ)) :
    sampled ((s :: row) :: rows) = row.getLastD s :: sampled rows := by
  rw [sampled, List.filter_cons_of_pos rfl, List.map_cons, List.getLastD_cons]
  rfl

/-- The sampled numbers are some of the numbers heard, in order. -/
theorem sampled_sublist (rows : List (List ℕ)) : (sampled rows).Sublist rows.flatten := by
  induction rows with
  | nil => exact List.Sublist.slnil
  | cons row rows ih =>
    cases row with
    | nil => exact ih
    | cons s row =>
      rw [sampled_cons_cons, List.flatten_cons]
      exact (List.singleton_sublist.2 List.getLastD_mem_cons).append ih

theorem getLastD_append {α : Type*} (l₁ l₂ : List α) (a : α) :
    (l₁ ++ l₂).getLastD a = l₂.getLastD (l₁.getLastD a) := by
  induction l₁ generalizing a with
  | nil => rfl
  | cons x l₁ ih => rw [List.cons_append, List.getLastD_cons, ih, List.getLastD_cons]

/-- The column ends in the last number heard. -/
theorem lastSeen_getLastD (a : ℕ) (rows : List (List ℕ)) :
    (lastSeen a rows).getLastD a = rows.flatten.getLastD a := by
  induction rows generalizing a with
  | nil => rfl
  | cons row rows ih => rw [lastSeen, List.getLastD_cons, ih, List.flatten_cons, getLastD_append]

/-- So do the sampled numbers. -/
theorem sampled_getLastD (a : ℕ) (rows : List (List ℕ)) :
    (sampled rows).getLastD a = rows.flatten.getLastD a := by
  induction rows generalizing a with
  | nil => rfl
  | cons row rows ih =>
    cases row with
    | nil => exact ih a
    | cons s row =>
      rw [sampled_cons_cons, List.getLastD_cons, ih, List.flatten_cons, getLastD_append,
        List.getLastD_cons]

/-- The numbers in view are those of the rows that heard one. -/
theorem toFinset_lastSeen (a : ℕ) (rows : List (List ℕ)) :
    (a :: lastSeen a rows).toFinset = (a :: sampled rows).toFinset := by
  induction rows generalizing a with
  | nil => rfl
  | cons row rows ih =>
    cases row with
    | nil =>
      rw [lastSeen, List.getLastD_nil, sampled_nil_cons, ← ih a]
      simp
    | cons s row =>
      rw [lastSeen, sampled_cons_cons, List.getLastD_cons, List.toFinset_cons, ih,
        ← List.toFinset_cons]

/-- Once a number was heard, the column does not go back. -/
theorem lastSeen_pairwise {a : ℕ} {rows : List (List ℕ)}
    (h : (a :: rows.flatten).Pairwise (· < ·)) : (a :: lastSeen a rows).Pairwise (· ≤ ·) := by
  induction rows generalizing a with
  | nil => exact List.pairwise_singleton _ _
  | cons row rows ih =>
    rw [List.flatten_cons] at h
    have hle : a ≤ row.getLastD a := by
      rcases List.mem_cons.1 (List.getLastD_mem_cons (l := row) (a := a)) with heq | hmem
      · exact heq.ge
      · exact ((List.pairwise_cons.1 h).1 _ (List.mem_append_left _ hmem)).le
    have hnext : (row.getLastD a :: rows.flatten).Pairwise (· < ·) := by
      rw [← List.cons_append, List.pairwise_append] at h
      exact List.pairwise_cons.2 ⟨h.2.2 _ List.getLastD_mem_cons, h.2.1⟩
    have hrest := ih hnext
    rw [lastSeen]
    refine List.pairwise_cons.2 ⟨fun b hb ↦ ?_, hrest⟩
    rcases List.mem_cons.1 hb with rfl | hmem
    · exact hle
    · exact hle.trans ((List.pairwise_cons.1 hrest).1 b hmem)

/-- The rows from the first one on that heard the neighbour. -/
def heardOn (rows : List (List ℕ)) : List (List ℕ) :=
  rows.dropWhile List.isEmpty

/-- The rows before hear nothing, and the column has its zeros there. -/
theorem lastSeen_filter {rows : List (List ℕ)} (h : (0 :: rows.flatten).Pairwise (· < ·)) :
    (lastSeen 0 rows).filter (· ≠ 0) =
      match heardOn rows with
      | [] => []
      | row :: rest => row.getLastD 0 :: lastSeen (row.getLastD 0) rest := by
  induction rows with
  | nil => rfl
  | cons row rows ih =>
    cases row with
    | nil => exact ih h
    | cons s row =>
      have hmono := lastSeen_pairwise h
      rw [lastSeen] at hmono ⊢
      have hpos : 0 < (s :: row).getLastD 0 := by
        rw [List.getLastD_cons]
        exact (List.pairwise_cons.1 h).1 _ (List.mem_append_left _ List.getLastD_mem_cons)
      rw [List.filter_eq_self.2]
      · rfl
      · intro b hb
        have hle : (s :: row).getLastD 0 ≤ b := by
          rcases List.mem_cons.1 hb with rfl | hmem
          · exact le_rfl
          · exact (List.pairwise_cons.1 (List.pairwise_cons.1 hmono).2).1 b hmem
        exact decide_eq_true (Nat.pos_iff_ne_zero.1 (hpos.trans_le hle))

/-! ### What the analysis makes of such a column -/

/-- Increasing numbers are no more than the range they span. -/
theorem length_le_of_increasing {a : ℕ} {l : List ℕ} (h : (a :: l).Pairwise (· < ·)) :
    a + l.length ≤ l.getLastD a := by
  induction l generalizing a with
  | nil => exact le_rfl
  | cons b l ih =>
    have hlt : a < b := (List.pairwise_cons.1 h).1 b List.mem_cons_self
    have hrest := ih (List.pairwise_cons.1 h).2
    rw [List.getLastD_cons, List.length_cons]
    omega

/-- A column that does not go back has no stale prefix. -/
theorem dropStale_of_pairwise {a : ℕ} {l : List ℕ} (h : (a :: l).Pairwise (· ≤ ·)) :
    dropStale (a :: l) = (a :: l, 0) := by
  have hmin : (a :: l).min? = some a := by
    rw [List.min?_eq_some_iff]
    refine ⟨List.mem_cons_self, fun b hb ↦ ?_⟩
    rcases List.mem_cons.1 hb with rfl | hmem
    · exact le_rfl
    · exact (List.pairwise_cons.1 h).1 b hmem
  rw [dropStale, hmin, Option.getD_some, List.idxOf_cons_self]
  rfl

/-- Leaving out the rows before loses nothing. -/
theorem heardOn_spec (rows : List (List ℕ)) :
    (heardOn rows).flatten = rows.flatten ∧ sampled (heardOn rows) = sampled rows ∧
      ∀ row rest, heardOn rows = row :: rest → row ≠ [] := by
  induction rows with
  | nil => exact ⟨rfl, rfl, fun _ _ h ↦ by cases h⟩
  | cons row rows ih =>
    cases row with
    | nil => exact ih
    | cons s row => exact ⟨rfl, rfl, fun _ _ h ↦ by cases h; exact List.cons_ne_nil _ _⟩

/-- `expected`: the numbers from the first row that heard the neighbour on. -/
def window (rows : List (List ℕ)) : ℕ :=
  rows.flatten.getLastD 0 - (sampled rows).headD 0 + 1

/-- The numbers before the window, from the first one heard. -/
def headRun (rows : List (List ℕ)) : ℕ :=
  (sampled rows).headD 0 - rows.flatten.headD 0

/-- The packets that are in no row: another one of their row follows. -/
def hidden (rows : List (List ℕ)) : ℕ :=
  rows.flatten.length - (sampled rows).length

/-- The first row that heard the neighbour, and what is behind it. -/
theorem exists_first_row {rows : List (List ℕ)} (h : rows.flatten ≠ []) :
    ∃ s row rest, heardOn rows = (s :: row) :: rest ∧
      rows.flatten = s :: (row ++ rest.flatten) ∧
      sampled rows = row.getLastD s :: sampled rest := by
  obtain ⟨hflatten, hsampled, hne⟩ := heardOn_spec rows
  rcases hfirst : heardOn rows with _ | ⟨_ | ⟨s, row⟩, rest⟩
  · rw [hfirst] at hflatten
    exact absurd hflatten.symm h
  · exact absurd rfl (hne _ _ hfirst)
  · rw [hfirst] at hflatten hsampled
    refine ⟨s, row, rest, rfl, hflatten.symm, ?_⟩
    rw [← hsampled, sampled_cons_cons]

/-- There is room for the rows in the window. -/
theorem sampled_length_le {rows : List (List ℕ)} (h : rows.flatten.Pairwise (· < ·)) :
    (sampled rows).length ≤ window rows := by
  have hsorted := h.sublist (sampled_sublist rows)
  rw [window, ← sampled_getLastD]
  rcases hrows : sampled rows with _ | ⟨f, fs⟩
  · exact Nat.zero_le _
  · rw [hrows] at hsorted
    have := length_le_of_increasing hsorted
    rw [List.getLastD_cons, List.headD_cons, List.length_cons]
    omega

/-- **What the analysis returns on a history of increasing numbers**: the rows that heard the
neighbour, over the window. It never finds the series inconsistent. -/
theorem link_delivery_of_increasing {rows : List (List ℕ)}
    (h : (0 :: rows.flatten).Pairwise (· < ·)) (hle : ∀ s ∈ rows.flatten, s ≤ 65535)
    (exact : Option ℚ) :
    link_delivery (lastSeen 0 rows) exact = .empty ∨
      rows.flatten ≠ [] ∧ ∃ jumps, link_delivery (lastSeen 0 rows) exact =
        .figure
          { expected := window rows
            received := (sampled rows).length
            lost := window rows - (sampled rows).length
            delivery_ratio := roundFour ((sampled rows).length / window rows)
            stale_prefix := 0
            bunching_suspected := decide (0 < jumps)
            seq_jumps := jumps
            exact_delivery_ratio := exact } := by
  have hfilter := lastSeen_filter h
  by_cases hheard : rows.flatten = []
  · have hnone : heardOn rows = [] := by
      rcases hfirst : heardOn rows with _ | ⟨row, rest⟩
      · rfl
      · obtain ⟨hflatten, -, hne⟩ := heardOn_spec rows
        rw [hheard, hfirst, List.flatten_cons, List.append_eq_nil_iff] at hflatten
        exact absurd hflatten.1 (hne _ _ hfirst)
    rw [hnone] at hfilter
    refine Or.inl ?_
    rw [link_delivery, hfilter]
    rfl
  · obtain ⟨s, row, rest, hfirst, hflatten, hsampled⟩ := exists_first_row hheard
    rw [hfirst] at hfilter
    dsimp only at hfilter
    rw [List.getLastD_cons] at hfilter
    set f := row.getLastD s with hf
    -- From the first row on the sampled numbers increase, inside the numbers heard.
    have hincreasing : (f :: rest.flatten).Pairwise (· < ·) := by
      rw [hflatten, ← List.cons_append, ← List.cons_append] at h
      have happend := List.pairwise_append.1 h
      refine List.pairwise_cons.2 ⟨?_, happend.2.1⟩
      exact happend.2.2 _ (List.mem_cons_of_mem _ List.getLastD_mem_cons)
    have hrows : (f :: sampled rest).Pairwise (· < ·) :=
      hincreasing.sublist ((sampled_sublist rest).cons_cons f)
    have hlast : rest.flatten.getLastD f = rows.flatten.getLastD 0 := by
      rw [hflatten, List.getLastD_cons, getLastD_append]
    have hmem : rest.flatten.getLastD f ≤ 65535 := by
      rw [hlast]
      refine hle _ ?_
      rw [hflatten, List.getLastD_cons]
      exact List.getLastD_mem_cons
    have hlen : f ≤ rest.flatten.getLastD f :=
      (Nat.le_add_right _ _).trans (length_le_of_increasing hincreasing)
    have hspan : seqSpan (f :: lastSeen f rest) = window rows := by
      rw [seqSpan, window, List.getLastD_cons, lastSeen_getLastD, hsampled, ← hlast]
      show ((((rest.flatten.getLastD f : ℕ) : ℤ) - (f : ℕ)) % 65536).toNat + 1 =
        rest.flatten.getLastD f - f + 1
      omega
    have hcard : (f :: lastSeen f rest).toFinset.card = (sampled rows).length := by
      rw [toFinset_lastSeen, hsampled]
      exact List.toFinset_card_of_nodup (hrows.imp ne_of_lt)
    have hfits : ¬window rows < (sampled rows).length :=
      not_lt.2 (sampled_length_le (List.pairwise_cons.1 h).2)
    have hpos : window rows ≠ 0 := Nat.succ_ne_zero _
    rw [link_delivery, hfilter, dropStale_of_pairwise (lastSeen_pairwise hincreasing)]
    dsimp only
    by_cases hshort : (f :: lastSeen f rest).length < 2
    · exact Or.inl (if_pos hshort)
    · refine Or.inr ⟨hheard, seqJumps (f :: lastSeen f rest), ?_⟩
      rw [if_neg hshort, if_neg hshort, hspan, hcard, if_neg hfits, if_pos hpos]

/-- The head and the window are the numbers from the first one heard to the last. -/
theorem window_add_headRun {rows : List (List ℕ)} (hne : rows.flatten ≠ [])
    (h : rows.flatten.Pairwise (· < ·)) :
    window rows + headRun rows = rows.flatten.getLastD 0 - rows.flatten.headD 0 + 1 := by
  obtain ⟨s, row, rest, -, hflatten, hsampled⟩ := exists_first_row hne
  have hfirst : s ≤ row.getLastD s := by
    rw [hflatten, List.pairwise_cons] at h
    rcases List.mem_cons.1 (List.getLastD_mem_cons (l := row) (a := s)) with heq | hmem
    · exact heq.ge
    · exact (h.1 _ (List.mem_append_left _ hmem)).le
  have hlast : row.getLastD s ≤ rows.flatten.getLastD 0 := by
    have hsorted := h.sublist (sampled_sublist rows)
    rw [hsampled] at hsorted
    have := length_le_of_increasing hsorted
    rw [← sampled_getLastD, hsampled, List.getLastD_cons]
    omega
  have hhead : rows.flatten.headD 0 = s := by
    rw [hflatten]
    rfl
  rw [window, headRun, hhead, hsampled, List.headD_cons]
  omega

/-! ### What the monitor makes of it -/

/-- The packets the monitor takes for late ones, behind the accepted number `a`: from the first step
beyond `2 ^ 16 - 1024` on, all of them. -/
def rejected : ℕ → List ℕ → ℕ
  | _, [] => 0
  | a, s :: seqs => if 64512 < s - a then seqs.length + 1 else rejected s seqs

/-- The numbers the monitor does not expect, behind the accepted number `a`: those a step beyond its
window skips, and those behind the last accepted one. -/
def unexpected : ℕ → List ℕ → ℕ
  | _, [] => 0
  | a, s :: seqs =>
    if 64512 < s - a then seqs.getLastD s - a
    else (if 1024 < s - a then s - a - 1 else 0) + unexpected s seqs

/-- No more numbers are rejected than arrived. -/
theorem rejected_le (a : ℕ) (seqs : List ℕ) : rejected a seqs ≤ seqs.length := by
  induction seqs generalizing a with
  | nil => exact le_rfl
  | cons s seqs ih =>
    rw [rejected]
    split_ifs
    · exact le_rfl
    · exact (ih s).trans (Nat.le_succ _)

variable {ι : Type*}

/-- The branch of a packet that is ahead of the last accepted one. -/
theorem arrival_of_lt {a s : ℕ} (hlt : a < s) (hle : s ≤ 65535) :
    arrival 1024 (some a) s =
      if 64512 < s - a then .reordered else if 1024 < s - a then .reset else .next (s - a) := by
  have hgap : ((s : ℤ) - a) % 65536 = (s - a : ℕ) := by omega
  rw [arrival, hgap, if_neg (by omega), Int.toNat_natCast]
  by_cases hfar : 64512 < s - a
  · rw [if_pos (by omega), if_pos hfar]
  · rw [if_neg (by omega), if_neg hfar]
    by_cases hreset : 1024 < s - a
    · rw [if_pos (by omega), if_pos hreset]
    · rw [if_neg (by omega), if_neg hreset]

/-- Once a packet is rejected, the ones behind it are. -/
theorem run_rejected {k : Link} {a : ℕ} (hk : k.last = some a) {os : List (Observation ι)}
    (hfar : ∀ o ∈ os, 64512 + a < o.1.seq) :
    (run (Link.hear 1024) k os).stats.received = k.stats.received ∧
      (run (Link.hear 1024) k os).stats.expected = k.stats.expected := by
  induction os generalizing k with
  | nil => exact ⟨rfl, rfl⟩
  | cons o os ih =>
    have hseq := hfar o List.mem_cons_self
    have harrival : arrival 1024 k.last o.1.seq = .reordered := by
      rw [hk, arrival_of_lt (by omega) o.1.seq_le, if_pos (by omega)]
    have hlast : (k.hear 1024 o).last = some a := by
      rw [Link.hear, harrival]
      exact hk
    have hcount : (k.hear 1024 o).stats.received = k.stats.received ∧
        (k.hear 1024 o).stats.expected = k.stats.expected := by
      rw [Link.hear, harrival]
      exact ⟨Nat.add_sub_cancel _ _, rfl⟩
    obtain ⟨hreceived, hexpected⟩ := ih hlast fun o ho ↦ hfar o (List.mem_cons_of_mem _ ho)
    rw [run_cons, hreceived, hexpected]
    exact hcount

/-- **The books of increasing numbers**: what was received and rejected are the packets, what was
expected and unexpected are the numbers up to the last one. -/
theorem run_increasing {k : Link} {a : ℕ} (hk : k.last = some a) {os : List (Observation ι)}
    (h : (a :: os.map (·.1.seq)).Pairwise (· < ·)) :
    (run (Link.hear 1024) k os).stats.received + rejected a (os.map (·.1.seq)) =
        k.stats.received + os.length ∧
      (run (Link.hear 1024) k os).stats.expected + unexpected a (os.map (·.1.seq)) =
        k.stats.expected + ((os.map (·.1.seq)).getLastD a - a) := by
  induction os generalizing k a with
  | nil => simp [rejected, unexpected]
  | cons o os ih =>
    rw [List.map_cons] at h ⊢
    have hlt : a < o.1.seq := (List.pairwise_cons.1 h).1 _ List.mem_cons_self
    have hrest := (List.pairwise_cons.1 h).2
    have hend := length_le_of_increasing hrest
    have harrival := arrival_of_lt hlt o.1.seq_le
    rw [← hk] at harrival
    rw [rejected, unexpected, List.getLastD_cons, List.length_cons]
    -- A jump this far looks like a late packet to the monitor, and so does everything behind it.
    by_cases hfar : 64512 < o.1.seq - a
    · have hall : ∀ o' ∈ o :: os, 64512 + a < o'.1.seq := by
        intro o' ho'
        rcases List.mem_cons.1 ho' with rfl | hmem
        · omega
        · have := (List.pairwise_cons.1 hrest).1 _ (List.mem_map_of_mem hmem)
          omega
      obtain ⟨hreceived, hexpected⟩ := run_rejected hk hall
      rw [hreceived, hexpected, if_pos hfar, if_pos hfar, List.length_map]
      exact ⟨rfl, rfl⟩
    · rw [if_neg hfar] at harrival ⊢
      rw [if_neg hfar]
      have hmoves : (arrival 1024 k.last o.1.seq).keepsLast = false := by
        rw [harrival]
        split_ifs
        · rfl
        · rfl
      have hlast : (k.hear 1024 o).last = some o.1.seq := by
        rw [Link.hear, hmoves]
        rfl
      have hreceived : (k.hear 1024 o).stats.received = k.stats.received + 1 := by
        rw [Link.hear]
        dsimp only
        rw [LinkStats.count_received, hmoves]
        rfl
      have hexpected : (k.hear 1024 o).stats.expected +
          (if 1024 < o.1.seq - a then o.1.seq - a - 1 else 0) =
            k.stats.expected + (o.1.seq - a) := by
        by_cases hreset : 1024 < o.1.seq - a
        · rw [Link.hear, harrival, if_pos hreset, if_pos hreset]
          show k.stats.expected + 1 + (o.1.seq - a - 1) = _
          omega
        · rw [Link.hear, harrival, if_neg hreset, if_neg hreset]
          rfl
      obtain ⟨ihreceived, ihexpected⟩ := ih hlast hrest
      rw [run_cons]
      constructor <;> omega

/-- The books of a link that heard increasing numbers from the first one on. -/
theorem run_silent_increasing {os : List (Observation ι)} (hne : os ≠ [])
    (h : (os.map (·.1.seq)).Pairwise (· < ·)) :
    let st := (run (Link.hear 1024) .silent os).stats
    let seqs := os.map (·.1.seq)
    st.received + rejected (seqs.headD 0) seqs.tail = seqs.length ∧
      st.expected + unexpected (seqs.headD 0) seqs.tail = seqs.getLastD 0 - seqs.headD 0 + 1 ∧
      0 < st.expected := by
  intro st seqs
  obtain ⟨o, os, rfl⟩ := List.exists_cons_of_ne_nil hne
  -- The first packet opens the books, the others are ahead of it.
  obtain ⟨hreceived, hexpected⟩ :=
    run_increasing (k := Link.silent.hear 1024 o) (a := o.1.seq) rfl h
  have hbooks : st.expected = st.received + st.lost := (Link.balanced_run 1024 (o :: os)).expected
  have hrejected := rejected_le o.1.seq (os.map (·.1.seq))
  have hreceived : st.received + rejected o.1.seq (os.map (·.1.seq)) = 1 + os.length := hreceived
  have hexpected : st.expected + unexpected o.1.seq (os.map (·.1.seq)) =
      1 + ((os.map (·.1.seq)).getLastD o.1.seq - o.1.seq) := hexpected
  have hlast : seqs.getLastD 0 = (os.map (·.1.seq)).getLastD o.1.seq := List.getLastD_cons
  rw [List.length_map] at hrejected
  refine ⟨?_, ?_, by omega⟩
  · show st.received + rejected o.1.seq (os.map (·.1.seq)) = ((o :: os).map (·.1.seq)).length
    rw [hreceived, List.length_map, List.length_cons, Nat.add_comm]
  · show st.expected + unexpected o.1.seq (os.map (·.1.seq)) = seqs.getLastD 0 - o.1.seq + 1
    rw [hexpected, hlast, Nat.add_comm]

/-! ### One history for both -/

variable [DecidableEq ι]

/-- The sequence numbers a row heard from a neighbour. -/
def numbersOf (nid : ι) (row : List (Reception ι)) : List ℕ :=
  (row.filter fun r ↦ r.packet.node_id = nid).map fun r ↦ r.packet.seq

namespace ReceiveTable

omit [DecidableEq ι] in
/-- `last_seq`, of one neighbour. -/
def lastSeq (t : ReceiveTable ι) (nid : ι) : ℕ :=
  ((t.records nid).map HeardRecord.seq).getD 0

/-- The column `seq_<nid>` of a log: a row is written behind the receptions of its interval. -/
def seqColumn (nid : ι) (t : ReceiveTable ι) (rows : List (List (Reception ι))) : List ℕ :=
  (trail (run observe) t rows).map fun t ↦ t.lastSeq nid

/-- What one reception does to the column and the link of a declared neighbour. -/
theorem observe_neighbor {t : ReceiveTable ι} {nid : ι} (hnid : nid ∈ t.neighbor_ids)
    (r : Reception ι) :
    (t.observe r).neighbor_ids = t.neighbor_ids ∧
      (t.observe r).monitor.reorder_window = t.monitor.reorder_window ∧
      (t.observe r).lastSeq nid =
        (if r.packet.node_id = nid then r.packet.seq else t.lastSeq nid) ∧
      (t.observe r).monitor.link nid =
        if r.packet.node_id = nid then
          (t.monitor.link nid).hear t.monitor.reorder_window (r.packet, some r.rx_time_us)
        else t.monitor.link nid := by
  rw [observe]
  by_cases hdeclared : r.packet.node_id ∈ t.neighbor_ids
  · rw [if_pos hdeclared]
    refine ⟨rfl, rfl, ?_, ?_⟩
    · rw [lastSeq]
      dsimp only
      by_cases hsender : r.packet.node_id = nid
      · rw [if_pos hsender, ← hsender, Function.update_self]
        rfl
      · rw [if_neg hsender, Function.update_of_ne (Ne.symm hsender)]
        rfl
    · by_cases hsender : r.packet.node_id = nid
      · rw [if_pos hsender, ← hsender]
        exact LinkMonitor.link_receive_self t.monitor (r.packet, some r.rx_time_us)
      · rw [if_neg hsender]
        exact LinkMonitor.link_receive_of_ne t.monitor (r.packet, some r.rx_time_us) hsender
  · have hsender : r.packet.node_id ≠ nid := by
      rintro rfl
      exact hdeclared hnid
    rw [if_neg hdeclared, if_neg hsender, if_neg hsender]
    exact ⟨rfl, rfl, rfl, rfl⟩

/-- The packets of a neighbour, as its link hears them. -/
def observations (nid : ι) (rs : List (Reception ι)) : List (Observation ι) :=
  (rs.filter fun r ↦ r.packet.node_id = nid).map fun r ↦ (r.packet, some r.rx_time_us)

/-- A packet of the node is the first of its numbers and of what the monitor sees. -/
theorem cons_of_sender {nid : ι} {r : Reception ι} (h : r.packet.node_id = nid)
    (rs : List (Reception ι)) :
    numbersOf nid (r :: rs) = r.packet.seq :: numbersOf nid rs ∧
      observations nid (r :: rs) = (r.packet, some r.rx_time_us) :: observations nid rs := by
  rw [numbersOf, observations, List.filter_cons_of_pos (by simpa using h)]
  exact ⟨rfl, rfl⟩

/-- A packet of another node is none of them. -/
theorem cons_of_other {nid : ι} {r : Reception ι} (h : r.packet.node_id ≠ nid)
    (rs : List (Reception ι)) :
    numbersOf nid (r :: rs) = numbersOf nid rs ∧
      observations nid (r :: rs) = observations nid rs := by
  rw [numbersOf, observations, List.filter_cons_of_neg (by simpa using h)]
  exact ⟨rfl, rfl⟩

/-- The monitor sees the numbers of the node. -/
theorem map_observations (nid : ι) (rs : List (Reception ι)) :
    (observations nid rs).map (·.1.seq) = numbersOf nid rs := by
  rw [observations, numbersOf, List.map_map]
  rfl

/-- What the receptions of a row, or of a whole log, do. -/
theorem run_neighbor {t : ReceiveTable ι} {nid : ι} (hnid : nid ∈ t.neighbor_ids)
    (rs : List (Reception ι)) :
    (run observe t rs).neighbor_ids = t.neighbor_ids ∧
      (run observe t rs).lastSeq nid = (numbersOf nid rs).getLastD (t.lastSeq nid) ∧
      (run observe t rs).monitor.link nid =
        run (Link.hear t.monitor.reorder_window) (t.monitor.link nid) (observations nid rs) := by
  induction rs generalizing t with
  | nil => exact ⟨rfl, rfl, rfl⟩
  | cons r rs ih =>
    obtain ⟨hids, hwindow, hlast, hlink⟩ := observe_neighbor hnid r
    obtain ⟨ihids, ihlast, ihlink⟩ := ih (t := t.observe r) (hids ▸ hnid)
    rw [run_cons, ihids, ihlast, ihlink, hids, hwindow, hlast, hlink]
    by_cases hsender : r.packet.node_id = nid
    · rw [if_pos hsender, if_pos hsender, (cons_of_sender hsender rs).1,
        (cons_of_sender hsender rs).2, List.getLastD_cons]
      exact ⟨rfl, rfl, rfl⟩
    · rw [if_neg hsender, if_neg hsender, (cons_of_other hsender rs).1,
        (cons_of_other hsender rs).2]
      exact ⟨rfl, rfl, rfl⟩

/-- The column samples the numbers heard. -/
theorem seqColumn_eq {t : ReceiveTable ι} {nid : ι} (hnid : nid ∈ t.neighbor_ids)
    (rows : List (List (Reception ι))) :
    seqColumn nid t rows = lastSeen (t.lastSeq nid) (rows.map (numbersOf nid)) := by
  induction rows generalizing t with
  | nil => rfl
  | cons row rows ih =>
    obtain ⟨hids, hlast, -⟩ := run_neighbor hnid row
    rw [List.map_cons, lastSeen, ← hlast, ← ih (t := run observe t row) (hids ▸ hnid)]
    rfl

/-- The numbers of a run are those of its intervals, one after another. -/
theorem numbersOf_flatten (nid : ι) (rows : List (List (Reception ι))) :
    numbersOf nid rows.flatten = (rows.map (numbersOf nid)).flatten := by
  rw [numbersOf, List.filter_flatten, List.map_flatten, List.map_map]
  rfl

end ReceiveTable

/-! ### The two figures -/

/-- **The hidden packets cover the head**: what the sampled figure leaves out weighs at least what
it leaves out of the denominator. The two right-hand terms of each side are about steps beyond the
monitor's window. -/
def HiddenCovers (rows : List (List ℕ)) : Prop :=
  (sampled rows).length * headRun rows +
      rejected (rows.flatten.headD 0) rows.flatten.tail * window rows ≤
    hidden rows * window rows +
      (sampled rows).length * unexpected (rows.flatten.headD 0) rows.flatten.tail

instance (rows : List (List ℕ)) : Decidable (HiddenCovers rows) :=
  inferInstanceAs (Decidable (_ ≤ _))

/-- Two quotients whose terms differ by what each side leaves out. -/
theorem ratio_le_iff {S E R W d h r U : ℕ} (hE : 0 < E) (hW : 0 < W) (hreceived : R + r = S + h)
    (hexpected : E + U = W + d) :
    (S : ℚ) / W ≤ R / E ↔ S * d + r * W ≤ h * W + S * U := by
  have hS : S * E + S * U = S * W + S * d := by rw [← mul_add, hexpected, mul_add]
  have hR : R * W + r * W = S * W + h * W := by rw [← add_mul, hreceived, add_mul]
  rw [div_le_div_iff₀ (Nat.cast_pos.2 hW) (Nat.cast_pos.2 hE)]
  norm_cast
  constructor
  · intro h
    omega
  · intro h
    omega

/-- **Where the figure is a floor**: the monitor rejects nothing, and the first row that hears the
neighbour runs through no more numbers than there are hidden packets. A first row of one packet, or
of consecutive ones, is such a row. -/
theorem hiddenCovers_of_headRun_le {rows : List (List ℕ)} (h : rows.flatten.Pairwise (· < ·))
    (hrejected : rejected (rows.flatten.headD 0) rows.flatten.tail = 0)
    (hhead : headRun rows ≤ hidden rows) : HiddenCovers rows := by
  rw [HiddenCovers, hrejected, Nat.zero_mul, Nat.add_zero]
  calc (sampled rows).length * headRun rows
      ≤ window rows * hidden rows := Nat.mul_le_mul (sampled_length_le h) hhead
    _ = hidden rows * window rows := Nat.mul_comm _ _
    _ ≤ _ := Nat.le_add_right _ _

/-- **The log-derived delivery figure and the monitor's.** Whatever receptions a table is given,
in rows: if the numbers it hears from a declared neighbour increase from 1, then a figure that
`link_delivery` returns from that neighbour's column is the rounded share of the rows that heard it
in the window, and this share is at most the monitor's ratio for the same receptions if and only if
the hidden packets cover the head; which they do where the monitor rejects nothing and the first row
that hears the neighbour runs through no more numbers than there are hidden packets. -/
theorem link_delivery_le_iff (neighbor_ids : List ι) (max_age_us : ℤ) (dim : ℕ) (hold : Bool)
    {nid : ι} (hnid : nid ∈ neighbor_ids) (rows : List (List (Reception ι)))
    (hincreasing : (0 :: (rows.map (numbersOf nid)).flatten).Pairwise (· < ·)) (exact : Option ℚ)
    {f : DeliveryFigure}
    (hf : link_delivery (ReceiveTable.seqColumn nid (.init neighbor_ids max_age_us dim hold 1024)
      rows) exact = .figure f) :
    f.delivery_ratio = roundFour (f.received / f.expected) ∧
      ((f.received : ℚ) / f.expected ≤
          ((run ReceiveTable.observe (.init neighbor_ids max_age_us dim hold 1024)
            rows.flatten).monitor.link nid).stats.delivery_ratio ↔
        HiddenCovers (rows.map (numbersOf nid))) ∧
      let heard := rows.map (numbersOf nid)
      rejected (heard.flatten.headD 0) heard.flatten.tail = 0 → headRun heard ≤ hidden heard →
        HiddenCovers heard := by
  have hid : nid ∈ (ReceiveTable.init neighbor_ids max_age_us dim hold 1024).neighbor_ids := hnid
  obtain ⟨-, -, hlink⟩ := ReceiveTable.run_neighbor hid rows.flatten
  rw [ReceiveTable.seqColumn_eq hid] at hf
  rw [hlink]
  -- From here on both figures are about the numbers that were heard, interval by interval.
  set heard := rows.map (numbersOf nid) with hheard
  set os := ReceiveTable.observations nid rows.flatten with hos
  have hnumbers : os.map (·.1.seq) = heard.flatten := by
    rw [hos, ReceiveTable.map_observations, ReceiveTable.numbersOf_flatten]
  have hle : ∀ s ∈ heard.flatten, s ≤ 65535 := by
    intro s hs
    rw [← hnumbers] at hs
    obtain ⟨o, -, rfl⟩ := List.mem_map.1 hs
    exact o.1.seq_le
  rcases link_delivery_of_increasing hincreasing hle exact with hempty | ⟨hne, jumps, hfigure⟩
  · exact absurd (hempty.symm.trans hf) (by simp)
  · cases hfigure.symm.trans hf
    have hsorted : heard.flatten.Pairwise (· < ·) := (List.pairwise_cons.1 hincreasing).2
    refine ⟨rfl, ?_, hiddenCovers_of_headRun_le hsorted⟩
    have hos_ne : os ≠ [] := by
      intro hnil
      rw [hnil] at hnumbers
      exact hne hnumbers.symm
    obtain ⟨hreceived, hexpected, hpos⟩ :=
      run_silent_increasing hos_ne (by rw [hnumbers]; exact hsorted)
    rw [hnumbers] at hreceived hexpected
    have hratio : (run (Link.hear 1024) .silent os).stats.delivery_ratio =
        (run (Link.hear 1024) .silent os).stats.received /
          (run (Link.hear 1024) .silent os).stats.expected := if_neg hpos.ne'
    show ((sampled heard).length : ℚ) / window heard ≤
      (run (Link.hear 1024) .silent os).stats.delivery_ratio ↔ _
    rw [hratio]
    -- The two ratios differ by what the log hides in numerator and denominator.
    refine ratio_le_iff hpos (Nat.succ_pos _) ?_ ?_
    · have hfewer := (sampled_sublist heard).length_le
      rw [hreceived, hidden]
      omega
    · rw [hexpected, window_add_headRun hne hsorted]

/-! ### A bunched start -/

theorem seq_two_le : 2 ≤ 65535 := by decide

theorem seq_three_le : 3 ≤ 65535 := by decide

theorem seq_ten_le : 10 ≤ 65535 := by decide

theorem seq_eleven_le : 11 ≤ 65535 := by decide

/-- A reception of neighbour 1. -/
def numbered (seq : ℕ) (hseq : seq ≤ 65535) : Reception ℕ :=
  ⟨ReceiveTable.samplePacket seq hseq 10 ReceiveTable.sampleValue_fits, seq, none⟩

/-- A bunch behind the first row: packets 2 and 3 come in one row. -/
def bunchedLater : List (List (Reception ℕ)) :=
  [[], [numbered 1 ReceiveTable.seq_one_le], [numbered 2 seq_two_le, numbered 3 seq_three_le]]

theorem link_delivery_bunchedLater :
    (2 : ℚ) / 3 ≤ ((run ReceiveTable.observe (.init [1] 1000 1 true 1024)
        bunchedLater.flatten).monitor.link 1).stats.delivery_ratio :=
  ((link_delivery_le_iff [1] 1000 1 true (show 1 ∈ [1] by decide) bunchedLater (by decide) none
    (f := ⟨3, 2, 1, 6667 / 10000, 0, true, 1, none⟩) (by decide +kernel)).2.1).2 (by decide)

/-- Packets 1 and 10 come in the first row, packet 11 in the second. -/
def bunchedStart : List (List (Reception ℕ)) :=
  [[numbered 1 ReceiveTable.seq_one_le, numbered 10 seq_ten_le], [numbered 11 seq_eleven_le]]

/-- **The figure of a bunched start is no floor**: nothing seems lost, and eight packets are. -/
theorem bunchedStart_overstated :
    link_delivery (ReceiveTable.seqColumn 1 (.init [1] 1000 1 true 1024) bunchedStart) none =
        .figure ⟨2, 2, 0, 1, 0, false, 0, none⟩ ∧
      ((run ReceiveTable.observe (.init [1] 1000 1 true 1024)
        bunchedStart.flatten).monitor.link 1).stats.delivery_ratio = 3 / 11 := by
  decide +kernel

end VertexTestbed.Host
