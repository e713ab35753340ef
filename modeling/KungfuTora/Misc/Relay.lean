import Mathlib.Data.List.Chain
import KungfuTora.Misc.Machine

/-!
# Relays

A baton that is handed on through a machine's run. It is taken up once, then each leg follows
on the one before, and it can be dropped at any time. `legs` logs the legs that a step begins,
`held` is the leg under way, if any. Whatever else the machine does, the legs of a run are a
path, and at most the last of them is under way (`Machine.relayed`).
-/

variable {τ σ ε ο : Type}

/-- Legs, each of which follows on the one before. -/
structure IsPath (starts : τ → Prop) (follows : τ → τ → Prop) (legs : List τ) : Prop where
  head : ∀ x ∈ legs.head?, starts x
  chain : legs.IsChain follows

namespace IsPath

variable {starts : τ → Prop} {follows : τ → τ → Prop} {legs : List τ} {x y : τ}

theorem nil : IsPath starts follows [] := ⟨by simp, .nil⟩

theorem single (hx : starts x) : IsPath starts follows [x] := ⟨by simpa using hx, .singleton x⟩

theorem concat (h : IsPath starts follows (legs ++ [x])) (hy : follows x y) :
    IsPath starts follows (legs ++ [x] ++ [y]) where
  head := by
    intro z hz
    apply h.head z
    cases legs with
    | nil => exact hz
    | cons w legs => exact hz
  chain := by
    apply h.chain.append (.singleton y)
    intro z hz w hw
    rw [List.getLast?_concat, Option.mem_some_iff] at hz
    rw [List.head?_singleton, Option.mem_some_iff] at hw
    rw [← hz, ← hw]
    exact hy

end IsPath

/-- What a step does with the baton: which leg is under way after it, and which it begins.
`fresh` and `fresh'` say that the baton has not been taken up before the step and after it. -/
inductive Hands (starts : τ → Prop) (follows : τ → τ → Prop) (fresh fresh' : Prop)
    (held : List τ) : List τ → List τ → Prop where
  | rests (h : fresh' → fresh) : Hands starts follows fresh fresh' held held []
  /-- The first leg may be over at once. -/
  | takes {y : τ} {held' : List τ} (h : fresh) (h' : ¬ fresh') (hy : starts y)
      (hheld : held' <:+ [y]) : Hands starts follows fresh fresh' held held' [y]
  | hands {x y : τ} {held' : List τ} (h : fresh' → fresh) (hx : held = [x]) (hy : follows x y)
      (hheld : held' <:+ [y]) : Hands starts follows fresh fresh' held held' [y]
  | drops {x : τ} (h : fresh' → fresh) (hx : held = [x]) :
      Hands starts follows fresh fresh' held [] []

/-- Where a relay stands after the legs of a run. -/
structure Relayed (starts : τ → Prop) (follows : τ → τ → Prop) (fresh : Prop) (held legs : List τ) :
    Prop where
  path : IsPath starts follows legs
  last : held <:+ legs
  one : held.length ≤ 1
  untouched : fresh → legs = []

section Relayed

variable {starts : τ → Prop} {follows : τ → τ → Prop} {fresh fresh' : Prop}
  {held held' legs begun : List τ}

/-- A baton that has not been taken up is not under way. -/
theorem Relayed.not_held (h : Relayed starts follows fresh held legs) (hfresh : fresh) :
    held = [] := by
  have hlast := h.last
  rw [h.untouched hfresh] at hlast
  exact List.suffix_nil.mp hlast

theorem length_le_one_of_suffix {x : τ} (h : held <:+ [x]) : held.length ≤ 1 := h.length_le

theorem Relayed.step (h : Relayed starts follows fresh held legs)
    (hstep : Hands starts follows fresh fresh' held held' begun) :
    Relayed starts follows fresh' held' (legs ++ begun) := by
  cases hstep with
  | rests hfresh =>
    rw [List.append_nil]
    exact ⟨h.path, h.last, h.one, fun hf => h.untouched (hfresh hf)⟩
  | takes hfresh hfresh' hy hheld =>
    rw [h.untouched hfresh, List.nil_append]
    exact ⟨.single hy, hheld, length_le_one_of_suffix hheld, fun hf => absurd hf hfresh'⟩
  | @hands x y _ hfresh hx hy hheld =>
    obtain ⟨before, rfl⟩ : ∃ before, before ++ [x] = legs := hx ▸ h.last
    refine ⟨h.path.concat hy, hheld.trans (List.suffix_append _ _),
      length_le_one_of_suffix hheld, ?_⟩
    intro hf
    simpa using h.untouched (hfresh hf)
  | drops hfresh hx =>
    rw [List.append_nil]
    exact ⟨h.path, List.nil_suffix, Nat.zero_le 1, fun hf => h.untouched (hfresh hf)⟩

end Relayed

namespace Machine

variable (M : Machine σ ε ο) {starts : τ → Prop} {follows : τ → τ → Prop} (fresh : σ → Prop)
  (held : σ → List τ) (legs : σ → ε → List τ)

/-- The relay rule: a step needs to be looked at only where at most one leg is under way, and
none before the baton is taken up. -/
theorem relayed (hinit : held M.init = [])
    (hstep : ∀ s e, (held s).length ≤ 1 → (fresh s → held s = []) →
      Hands starts follows (fresh s) (fresh (M.step s e).1) (held s) (held (M.step s e).1)
        (legs s e))
    (es : List ε) :
    Relayed starts follows (fresh (M.exec es)) (held (M.exec es)) (M.log legs es) := by
  induction es using List.reverseRecOn with
  | nil =>
    rw [exec_nil, log_nil, hinit]
    exact ⟨.nil, List.nil_suffix, Nat.zero_le 1, fun _ => rfl⟩
  | append_singleton es e ih =>
    rw [exec_concat, log_concat]
    exact ih.step (hstep _ e ih.one ih.not_held)

end Machine
