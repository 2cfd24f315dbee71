import Mathlib.Data.List.TakeWhile
import Mathlib.Order.Lattice

/-!
# Agendas

What is still to be done, each thing with the time it is due at, in the order in which it will be
done: the earlier first, and of two that are due at one time the one that was entered first. That is
the order of a heap whose entries carry a deadline and a running number.

`enter` puts a thing in its place. Among the things of one kind an entry that is due last of them
goes to the end (`filter_enter`), so things of one kind that are entered in the order of their
deadlines are done in the order in which they were entered.
-/

namespace Agenda

variable {T α : Type*} [LinearOrder T]

/-- What comes before something that is due at a time. -/
def due (t : T) (l : List (T × α)) : List (T × α) :=
  l.takeWhile (·.1 ≤ t)

/-- What comes behind it. -/
def later (t : T) (l : List (T × α)) : List (T × α) :=
  l.dropWhile (·.1 ≤ t)

/-- A new entry, behind all that is due no later. -/
def enter (t : T) (a : α) (l : List (T × α)) : List (T × α) :=
  due t l ++ (t, a) :: later t l

/-- No entry is due before one that stands in front of it. -/
def Ordered (l : List (T × α)) : Prop := l.Pairwise (·.1 ≤ ·.1)

theorem due_append_later (t : T) (l : List (T × α)) : due t l ++ later t l = l :=
  List.takeWhile_append_dropWhile

theorem le_of_mem_due {t : T} {l : List (T × α)} {x : T × α} (h : x ∈ due t l) : x.1 ≤ t := by
  simpa using List.mem_takeWhile_imp h

theorem mem_of_mem_due {t : T} {l : List (T × α)} {x : T × α} (h : x ∈ due t l) : x ∈ l :=
  (List.takeWhile_sublist _).mem h

theorem mem_of_mem_later {t : T} {l : List (T × α)} {x : T × α} (h : x ∈ later t l) : x ∈ l :=
  (List.dropWhile_sublist _).mem h

/-- What is left behind a time is due behind it. -/
theorem lt_of_mem_later {t : T} {l : List (T × α)} (hl : Ordered l) {x : T × α}
    (h : x ∈ later t l) : t < x.1 := by
  have hrest : Ordered (later t l) := List.Pairwise.sublist (List.dropWhile_sublist _) hl
  have hhead := List.head?_dropWhile_not (fun y : T × α ↦ decide (y.1 ≤ t)) l
  rw [← later] at hhead
  cases hlater : later t l with
  | nil =>
    rw [hlater] at h
    exact absurd h List.not_mem_nil
  | cons y ys =>
    rw [hlater] at h hrest hhead
    have hy : t < y.1 := by simpa using hhead
    obtain rfl | hx := List.mem_cons.1 h
    · exact hy
    · exact hy.trans_le (List.rel_of_pairwise_cons hrest hx)

theorem mem_enter {t : T} {a : α} {l : List (T × α)} {x : T × α} :
    x ∈ enter t a l ↔ x = (t, a) ∨ x ∈ l := by
  rw [enter, List.mem_append, List.mem_cons, or_left_comm, ← List.mem_append, due_append_later]

theorem ordered_later {l : List (T × α)} (hl : Ordered l) (t : T) : Ordered (later t l) :=
  List.Pairwise.sublist (List.dropWhile_sublist _) hl

theorem ordered_enter {l : List (T × α)} (hl : Ordered l) (t : T) (a : α) :
    Ordered (enter t a l) := by
  refine List.pairwise_append.2 ⟨List.Pairwise.sublist (List.takeWhile_sublist _) hl,
    List.pairwise_cons.2 ⟨fun x hx ↦ (lt_of_mem_later hl hx).le, ordered_later hl t⟩,
    fun x hx y hy ↦ ?_⟩
  have hxt := le_of_mem_due hx
  obtain rfl | hy := List.mem_cons.1 hy
  · exact hxt
  · exact hxt.trans (lt_of_mem_later hl hy).le

/-- **Entered last of its kind.** When nothing of its kind is due later, the entry goes to the end
of its kind. -/
theorem filter_enter {l : List (T × α)} (hl : Ordered l) {t : T} {a : α} {kind : α → Bool}
    (ha : kind a = true) (hlast : ∀ x ∈ l, kind x.2 = true → x.1 ≤ t) :
    ((enter t a l).map Prod.snd).filter kind = (l.map Prod.snd).filter kind ++ [a] := by
  have hlater : ((later t l).map Prod.snd).filter kind = [] := by
    refine List.filter_eq_nil_iff.2 fun b hb hkind ↦ ?_
    obtain ⟨x, hx, rfl⟩ := List.mem_map.1 hb
    exact absurd (hlast x (mem_of_mem_later hx) hkind) (lt_of_mem_later hl hx).not_ge
  have hsplit : (l.map Prod.snd).filter kind = ((due t l).map Prod.snd).filter kind := by
    conv_lhs => rw [← due_append_later t l]
    rw [List.map_append, List.filter_append, hlater, List.append_nil]
  rw [hsplit, enter, List.map_append, List.filter_append, List.map_cons, List.filter_cons_of_pos ha,
    hlater]

/-- An entry of another kind. -/
theorem filter_enter_of_not {l : List (T × α)} {t : T} {a : α} {kind : α → Bool}
    (ha : kind a = false) :
    ((enter t a l).map Prod.snd).filter kind = (l.map Prod.snd).filter kind := by
  rw [enter, List.map_append, List.filter_append, List.map_cons,
    List.filter_cons_of_neg (by simp [ha]), ← List.filter_append, ← List.map_append,
    due_append_later]

theorem perm_enter (t : T) (a : α) (l : List (T × α)) : (enter t a l).Perm ((t, a) :: l) := by
  refine List.perm_middle.trans (.cons _ ?_)
  rw [due_append_later]

end Agenda
