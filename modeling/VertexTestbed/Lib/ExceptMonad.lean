import Mathlib

/-!
# Computations that may fail

What it takes for a chain of computations in `Except`, or one over a list, to return a value: each
link returns one. `except_bind_eq_ok` and `getElem_of_mapM_eq_ok` take a result apart, and
`except_bind_isOk` and `mapM_isOk` say when there is one.
-/

namespace VertexTestbed

theorem except_bind_eq_ok {ε α β : Type} {x : Except ε α} {f : α → Except ε β} {r : β} :
    (x >>= f) = .ok r ↔ ∃ a, x = .ok a ∧ f a = .ok r := by
  cases x with
  | error e => simp [bind, Except.bind]
  | ok a => simp [bind, Except.bind]

/-- The list a `mapM` returns, position by position. -/
theorem getElem_of_mapM_eq_ok {ε α β : Type} {f : α → Except ε β} {as : List α} {bs : List β}
    (h : as.mapM f = .ok bs) :
    bs.length = as.length ∧
      ∀ (i : ℕ) (a : α), as[i]? = some a → ∃ b, bs[i]? = some b ∧ f a = .ok b := by
  induction as generalizing bs with
  | nil =>
    cases h
    exact ⟨rfl, fun i a ha ↦ by simp at ha⟩
  | cons a as ih =>
    rw [List.mapM_cons, except_bind_eq_ok] at h
    obtain ⟨b, hb, h⟩ := h
    rw [except_bind_eq_ok] at h
    obtain ⟨bs', hbs, h⟩ := h
    cases h
    obtain ⟨hlen, hget⟩ := ih hbs
    refine ⟨by simp [hlen], fun i x hx ↦ ?_⟩
    cases i with
    | zero =>
      obtain rfl := Option.some.inj hx
      exact ⟨b, rfl, hb⟩
    | succ i => exact hget i x hx

/-- A sequence goes through when each of them does. -/
theorem except_bind_isOk {ε α β : Type} {x : Except ε α} {f : α → Except ε β} {P : Prop}
    (hf : ∀ a, (∃ b, f a = .ok b) ↔ P) : (∃ b, (x >>= f) = .ok b) ↔ (∃ a, x = .ok a) ∧ P := by
  constructor
  · rintro ⟨b, h⟩
    obtain ⟨a, ha, hb⟩ := except_bind_eq_ok.1 h
    exact ⟨⟨a, ha⟩, (hf a).1 ⟨b, hb⟩⟩
  · rintro ⟨⟨a, ha⟩, hP⟩
    obtain ⟨b, hb⟩ := (hf a).2 hP
    exact ⟨b, except_bind_eq_ok.2 ⟨a, ha, hb⟩⟩

theorem except_pure_isOk {ε α : Type} {a : α} : (∃ b, (pure a : Except ε α) = .ok b) ↔ True :=
  ⟨fun _ ↦ trivial, fun _ ↦ ⟨a, rfl⟩⟩

theorem mapM_isOk {ε α β : Type} {f : α → Except ε β} {as : List α} :
    (∃ bs, as.mapM f = .ok bs) ↔ ∀ a ∈ as, ∃ b, f a = .ok b := by
  induction as with
  | nil => exact ⟨fun _ a ha ↦ absurd ha List.not_mem_nil, fun _ ↦ ⟨[], rfl⟩⟩
  | cons a as ih =>
    rw [List.mapM_cons, List.forall_mem_cons, ← ih]
    refine except_bind_isOk fun b ↦ ?_
    rw [except_bind_isOk fun bs ↦ except_pure_isOk, and_true]

end VertexTestbed
