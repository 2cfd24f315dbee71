import Mathlib

/-!
# Files of records, cut anywhere

A file is the concatenation of encoded records; a crash leaves its first `n` symbols. `cut` says
what that is in terms of records: those that are there whole, and what is there of the next one.

A reader that returns the whole records and, possibly, one more that it read out of the rest returns
a prefix of the records exactly when that one is the next record (`recovered_prefix_iff`). So all
that a format has to answer for is what its reader makes of the beginning of a record.
-/

namespace CutRecords

variable {α β : Type*} (enc : α → List β)

/-- The records that are whole within the first `n` symbols, and what is left of the next one. -/
def cut : List α → ℕ → List α × List β
  | [], _ => ([], [])
  | a :: as, n =>
    if (enc a).length ≤ n then
      ((a :: (cut as (n - (enc a).length)).1), (cut as (n - (enc a).length)).2)
    else ([], (enc a).take n)

variable {enc}

/-- **A cut file is its whole records and the beginning of one more.** -/
theorem take_flatMap (records : List α) (n : ℕ) :
    (records.flatMap enc).take n =
      (cut enc records n).1.flatMap enc ++ (cut enc records n).2 := by
  induction records generalizing n with
  | nil => simp [cut]
  | cons a as ih =>
    rw [List.flatMap_cons, cut]
    split_ifs with h
    · rw [List.take_append, List.take_of_length_le h, ih, List.flatMap_cons, List.append_assoc]
    · rw [List.take_append_of_le_length (by omega)]
      rfl

/-- What is left is nothing, or a proper beginning of the record that follows the whole ones. -/
theorem cut_tail (enc : α → List β) (records : List α) (n : ℕ) :
    (cut enc records n).2 = [] ∧ (cut enc records n).1 <+: records ∨
      ∃ a rest, records = (cut enc records n).1 ++ a :: rest ∧
        (cut enc records n).2 <+: enc a ∧ (cut enc records n).2.length < (enc a).length := by
  induction records generalizing n with
  | nil => exact .inl ⟨rfl, List.prefix_rfl⟩
  | cons a as ih =>
    rw [cut]
    split_ifs with h
    · obtain ⟨hnil, hbegun⟩ | ⟨b, rest, hrest, hbegins, hshort⟩ := ih (n - (enc a).length)
      · exact .inl ⟨hnil, List.cons_prefix_cons.mpr ⟨rfl, hbegun⟩⟩
      · exact .inr ⟨b, rest, congrArg (a :: ·) hrest, hbegins, hshort⟩
    · refine .inr ⟨a, as, rfl, List.take_prefix _ _, ?_⟩
      rw [List.length_take]
      omega

theorem cut_done (records : List α) (n : ℕ) : (cut enc records n).1 <+: records := by
  obtain ⟨-, hbegun⟩ | ⟨a, rest, hrest, -⟩ := cut_tail enc records n
  · exact hbegun
  · exact ⟨a :: rest, hrest.symm⟩

/-- **What a reader may make of the rest of a record.** The records read back are a prefix of those
written exactly when the one read out of the rest, if there is one, is the next. -/
theorem recovered_prefix_iff (records more : List α) (n : ℕ) {extra : Option α}
    (hextra : (cut enc records n).2 = [] → extra = none) :
    (cut enc records n).1 ++ extra.toList <+: records ++ more ↔
      ∀ a, extra = some a → records[(cut enc records n).1.length]? = some a := by
  obtain ⟨hnil, hbegun⟩ | ⟨b, rest, hrest, -, -⟩ := cut_tail enc records n
  · rw [hextra hnil]
    refine ⟨fun _ a ha ↦ (by cases ha), fun _ ↦ ?_⟩
    rw [Option.toList_none, List.append_nil]
    exact hbegun.trans (List.prefix_append _ _)
  · set done := (cut enc records n).1
    have hnext : records[done.length]? = some b := by
      rw [hrest, List.getElem?_append_right le_rfl, Nat.sub_self]
      rfl
    rw [hnext, hrest, List.append_assoc, List.prefix_append_right_inj]
    cases extra with
    | none => exact ⟨fun _ a ha ↦ (by cases ha), fun _ ↦ List.nil_prefix⟩
    | some a =>
      rw [Option.toList_some, List.cons_append, List.cons_prefix_cons]
      constructor
      · rintro ⟨rfl, -⟩ a' ha'
        exact ha'
      · intro h
        exact ⟨(Option.some.inj (h a rfl)).symm, List.nil_prefix⟩

/-! ### Lines -/

/-- The lines of a text, without their ends: the text behind the last newline is a line unless it is
empty. -/
def splitLines : List Char → List (List Char)
  | [] => []
  | c :: text =>
    if c = '\n' then [] :: splitLines text
    else
      match splitLines text with
      | [] => [[c]]
      | line :: lines => (c :: line) :: lines

/-- A line ends at its newline. -/
theorem splitLines_append_newline {line : List Char} (h : '\n' ∉ line) (rest : List Char) :
    splitLines (line ++ '\n' :: rest) = line :: splitLines rest := by
  induction line with
  | nil => rw [List.nil_append, splitLines, if_pos rfl]
  | cons c line ih =>
    obtain ⟨hc, hline⟩ := not_or.mp (mt List.mem_cons.mpr h)
    rw [List.cons_append, splitLines, if_neg (Ne.symm hc), ih hline]

/-- Or at the end of the text. -/
theorem splitLines_of_not_mem {line : List Char} (h : '\n' ∉ line) (hne : line ≠ []) :
    splitLines line = [line] := by
  induction line with
  | nil => exact absurd rfl hne
  | cons c line ih =>
    obtain ⟨hc, hline⟩ := not_or.mp (mt List.mem_cons.mpr h)
    rw [splitLines, if_neg (Ne.symm hc)]
    cases line with
    | nil => rfl
    | cons d line => rw [ih hline (List.cons_ne_nil d line)]

/-- Universal newlines: `\r\n` and a lone `\r` are newlines too. -/
def universalNewlines : List Char → List Char
  | '\r' :: '\n' :: text => '\n' :: universalNewlines text
  | '\r' :: text => '\n' :: universalNewlines text
  | c :: text => c :: universalNewlines text
  | [] => []

theorem universalNewlines_append {line : List Char} (h : '\r' ∉ line) (rest : List Char) :
    universalNewlines (line ++ rest) = line ++ universalNewlines rest := by
  induction line with
  | nil => rfl
  | cons c line ih =>
    obtain ⟨hc, hline⟩ := not_or.mp (mt List.mem_cons.mpr h)
    rw [List.cons_append, universalNewlines, ih hline, List.cons_append]
    · rintro text rfl
      exact fun _ ↦ hc rfl
    · exact fun h ↦ hc h.symm

/-- The lines of a file that was opened as text. -/
def fileLines (text : List Char) : List (List Char) :=
  splitLines (universalNewlines text)

section Lines

variable {line : List Char} (hr : '\r' ∉ line) (hn : '\n' ∉ line)

include hr hn

theorem fileLines_append_crlf (rest : List Char) :
    fileLines (line ++ '\r' :: '\n' :: rest) = line :: fileLines rest := by
  rw [fileLines, universalNewlines_append hr, universalNewlines, splitLines_append_newline hn,
    fileLines]

theorem fileLines_append_lf (rest : List Char) :
    fileLines (line ++ '\n' :: rest) = line :: fileLines rest := by
  have hlf : universalNewlines ('\n' :: rest) = '\n' :: universalNewlines rest := by
    rw [universalNewlines]
    · rintro text hcr
      cases hcr
    · intro hcr
      cases hcr
  rw [fileLines, universalNewlines_append hr, hlf, splitLines_append_newline hn, fileLines]

theorem fileLines_of_plain (hne : line ≠ []) : fileLines line = [line] := by
  have hself : universalNewlines line = line := by
    have happend := universalNewlines_append hr []
    rwa [List.append_nil, universalNewlines, List.append_nil] at happend
  rw [fileLines, hself, splitLines_of_not_mem hn hne]

theorem fileLines_append_cr : fileLines (line ++ ['\r']) = [line] := by
  have hcr : universalNewlines ['\r'] = ['\n'] := rfl
  rw [fileLines, universalNewlines_append hr, hcr, splitLines_append_newline hn]
  rfl

/-- The beginning of a line that ends with `\r\n`. -/
theorem fileLines_of_prefix_crlf {tail : List Char} (htail : tail <+: line ++ ['\r', '\n'])
    (hshort : tail.length < (line ++ ['\r', '\n']).length) :
    tail = [] ∨ (tail <+: line ∧ fileLines tail = [tail]) ∨ fileLines tail = [line] := by
  by_cases hnil : tail = []
  · exact .inl hnil
  right
  by_cases hbegins : tail <+: line
  · exact .inl ⟨hbegins, fileLines_of_plain (fun h ↦ hr (hbegins.subset h))
      (fun h ↦ hn (hbegins.subset h)) hnil⟩
  · right
    -- Longer than the line and shorter than its end: the carriage return is the last character.
    obtain ⟨rest, hrest⟩ := (List.prefix_of_prefix_length_le (List.prefix_append line _) htail
      (by
        by_contra hlt
        exact hbegins (List.prefix_of_prefix_length_le htail (List.prefix_append line _)
          (by omega))))
    subst hrest
    obtain ⟨last, hlast⟩ := List.prefix_append_right_inj line |>.mp htail
    cases rest with
    | nil => exact absurd (by simp) hbegins
    | cons c rest =>
      obtain ⟨rfl, hrest⟩ := List.cons.inj hlast
      cases rest with
      | nil => exact fileLines_append_cr hr hn
      | cons d rest => simp at hshort

/-- The beginning of a line that ends with `\n`. -/
theorem fileLines_of_prefix_lf {tail : List Char} (htail : tail <+: line ++ ['\n'])
    (hshort : tail.length < (line ++ ['\n']).length) :
    tail <+: line ∧ (tail = [] ∨ fileLines tail = [tail]) := by
  have hbegins : tail <+: line :=
    List.prefix_of_prefix_length_le htail (List.prefix_append line _) (by simp at hshort; omega)
  refine ⟨hbegins, ?_⟩
  by_cases hnil : tail = []
  · exact .inl hnil
  · exact .inr (fileLines_of_plain (fun h ↦ hr (hbegins.subset h)) (fun h ↦ hn (hbegins.subset h))
      hnil)

end Lines

/-- What joined texts consist of. -/
theorem mem_intercalate {x c : β} {ls : List (List β)} (h : c ∈ [x].intercalate ls) :
    c = x ∨ ∃ l ∈ ls, c ∈ l := by
  induction ls with
  | nil => cases h
  | cons l ls ih =>
    cases ls with
    | nil =>
      rw [List.intercalate_singleton] at h
      exact .inr ⟨l, List.mem_cons_self, h⟩
    | cons l' ls =>
      rw [List.intercalate_cons_cons, List.mem_append, List.mem_append, List.mem_singleton] at h
      obtain (h | h) | h := h
      · exact .inr ⟨l, List.mem_cons_self, h⟩
      · exact .inl h
      · obtain rfl | ⟨l₀, hl₀, hc⟩ := ih h
        · exact .inl rfl
        · exact .inr ⟨l₀, List.mem_cons_of_mem _ hl₀, hc⟩

end CutRecords
