import Mathlib.Logic.Function.Iterate
import KungfuTora.Misc.Machine

/-!
# Numbers taken from a counter

A component of a machine's state that is advanced whenever a number is taken from it. However
the steps that take numbers lie among the others, the numbers of a run follow on one another
(`Machine.counted`). `value` is what is taken at a stand of the counter: the stand itself, or
the next one where the counter is advanced first.
-/

variable {ν τ σ ε ο : Type}

/-- The first `n` numbers from the stand `x` on. -/
def taken (next : ν → ν) (value : ν → τ) (x : ν) (n : Nat) : List τ :=
  (List.range n).map fun i => value (next^[i] x)

section Taken

variable (next : ν → ν) (value : ν → τ) (x : ν)

@[simp] theorem taken_zero : taken next value x 0 = [] := rfl

@[simp] theorem taken_one : taken next value x 1 = [value x] := rfl

@[simp] theorem length_taken (n : Nat) : (taken next value x n).length = n := by
  simp [taken]

theorem taken_add (m n : Nat) :
    taken next value x (m + n) = taken next value x m ++ taken next value (next^[m] x) n := by
  unfold taken
  rw [List.range_add, List.map_append, List.map_map]
  congr 1
  apply List.map_congr_left
  intro i _
  show value (next^[m + i] x) = _
  rw [Nat.add_comm, Function.iterate_add_apply]

end Taken

namespace Machine

variable (M : Machine σ ε ο)

/-- What a step logs it takes from the counter, which is advanced as often. -/
structure Counts (counter : σ → ν) (next : ν → ν) (value : ν → τ) (f : σ → ε → List τ) (s : σ)
    (e : ε) : Prop where
  log : f s e = taken next value (counter s) (f s e).length
  advanced : counter (M.step s e).1 = next^[(f s e).length] (counter s)

variable {M} {counter : σ → ν} {next : ν → ν} {value : ν → τ} {f : σ → ε → List τ}

/-- A step that takes no number. -/
theorem Counts.none {s : σ} {e : ε} (hlog : f s e = []) (h : counter (M.step s e).1 = counter s) :
    M.Counts counter next value f s e where
  log := by rw [hlog]; rfl
  advanced := by rw [hlog]; exact h

/-- A step that takes one. -/
theorem Counts.one {s : σ} {e : ε} (hlog : f s e = [value (counter s)])
    (h : counter (M.step s e).1 = next (counter s)) : M.Counts counter next value f s e where
  log := by rw [hlog]; rfl
  advanced := by rw [hlog]; exact h

/-- The numbers of a run. -/
theorem counted {s : σ} {es : List ε}
    (h : ∀ s, ∀ e ∈ es, M.Counts counter next value f s e) :
    M.logFrom f s es = taken next value (counter s) (M.logFrom f s es).length ∧
      counter (M.execFrom s es) = next^[(M.logFrom f s es).length] (counter s) := by
  induction es generalizing s with
  | nil => exact ⟨rfl, rfl⟩
  | cons e es ih =>
    obtain ⟨he, hes⟩ : (∀ s, M.Counts counter next value f s e) ∧
        ∀ s, ∀ e ∈ es, M.Counts counter next value f s e :=
      ⟨fun s => h s e List.mem_cons_self, fun s e he => h s e (List.mem_cons_of_mem _ he)⟩
    obtain ⟨hlog, hadvanced⟩ := he s
    obtain ⟨hrest, hend⟩ := ih (s := (M.step s e).1) hes
    rw [hadvanced] at hrest hend
    have hsplit : M.logFrom f s (e :: es) = f s e ++ M.logFrom f (M.step s e).1 es := rfl
    rw [hsplit, List.length_append]
    constructor
    · rw [taken_add, ← hlog, ← hrest]
    · rw [Nat.add_comm, Function.iterate_add_apply]
      exact hend

end Machine
