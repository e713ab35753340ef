import Mathlib.Data.List.Basic
import Mathlib.Data.List.Induction

/-! # Where an element of `xs ++ [x]` stands: last, or inside `xs` -/

namespace List

variable {α : Type}

theorem concat_eq_append_cons {xs before after : List α} {x y : α} :
    xs ++ [x] = before ++ y :: after ↔
      (xs = before ∧ x = y ∧ after = []) ∨
        ∃ after', after = after' ++ [x] ∧ xs = before ++ y :: after' := by
  constructor
  · intro h
    rcases eq_nil_or_concat' after with rfl | ⟨after', z, rfl⟩
    · obtain ⟨hxs, hx⟩ := append_inj' h rfl
      exact Or.inl ⟨hxs, singleton_inj.mp hx, rfl⟩
    · rw [← cons_append, ← append_assoc] at h
      obtain ⟨hxs, hx⟩ := append_inj' h rfl
      exact Or.inr ⟨after', by rw [singleton_inj.mp hx], hxs⟩
  · rintro (⟨rfl, rfl, rfl⟩ | ⟨after', rfl, rfl⟩)
    · rfl
    · simp

end List
