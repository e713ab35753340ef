import KungfuTora.Misc.Store

/-!
# Operations that overwrite

A family of operations on a state, each of which overwrites what an earlier one with the same
key has written, while operations with different keys commute. Carrying out a list of them
again changes nothing (`foldl_idem`).
-/

variable {σ ω κ α β : Type}

structure Overwrites (op : σ → ω → σ) (key : ω → κ) : Prop where
  same : ∀ s {v w}, key v = key w → op (op s v) w = op s w
  other : ∀ s {v w}, key v ≠ key w → op (op s v) w = op (op s w) v

namespace Overwrites

variable {op : σ → ω → σ} {key : ω → κ}

/-- An operation is lost if a later one has its key. -/
theorem foldl_lost (h : Overwrites op key) {w : ω} {ws : List ω} (hw : key w ∈ ws.map key) (s : σ) :
    ws.foldl op (op s w) = ws.foldl op s := by
  induction ws generalizing s with
  | nil => simp at hw
  | cons v ws ih =>
    rw [List.foldl_cons, List.foldl_cons]
    by_cases hkey : key w = key v
    · rw [h.same s hkey]
    · rw [h.other s hkey]
      apply ih
      simpa [hkey] using hw

/-- So is a list of operations whose keys all occur later. -/
theorem foldl_foldl (h : Overwrites op key) {ws ws' : List ω}
    (hkeys : ∀ w ∈ ws', key w ∈ ws.map key) (s : σ) :
    ws.foldl op (ws'.foldl op s) = ws.foldl op s := by
  induction ws' generalizing s with
  | nil => rfl
  | cons w ws' ih =>
    obtain ⟨hw, hrest⟩ := List.forall_mem_cons.mp hkeys
    rw [List.foldl_cons, ih hrest, h.foldl_lost hw]

theorem foldl_idem (h : Overwrites op key) (ws : List ω) (s : σ) :
    ws.foldl op (ws.foldl op s) = ws.foldl op s :=
  h.foldl_foldl (fun _ hw => List.mem_map_of_mem hw) s

end Overwrites

namespace Store

variable [DecidableEq κ]

/-- Assignments overwrite. -/
theorem set_overwrites (key : ω → κ) (val : ω → α) :
    Overwrites (fun (m : Store κ α) w => m.set (key w) (val w)) key where
  same := by
    intro m v w hkey
    funext k
    simp only [set_apply, hkey]
    split <;> rfl
  other := by
    intro m v w hkey
    exact m.set_comm _ _ hkey

/-- So do changes that leave no trace of an earlier one. -/
theorem modify_overwrites (key : ω → κ) (f : ω → α → α)
    (hf : ∀ v w a, f w (f v a) = f w a) :
    Overwrites (fun (m : Store κ α) w => m.modify (key w) (f w)) key where
  same := by
    intro m v w hkey
    funext k
    simp only [modify_apply, hkey]
    by_cases hk : k = key w
    · simp only [if_pos hk, Option.map_map]
      congr 1
      funext a
      exact hf v w a
    · simp only [if_neg hk]
  other := by
    intro m v w hkey
    exact m.modify_comm _ _ hkey

end Store
