import KungfuTora.Misc.Machine

/-!
# Merging streams of messages

Messages of several streams reach a machine in some merged order, each with data that it is
delivered with. Where messages of different streams commute, and equal messages act alike,
only the order within each stream matters: two merges of the same streams leave the same
view of the state, and everything observed on the way is the same (`Merging.agree`).
-/

namespace Machine

variable {σ ε ε' ο τ α β ι κ : Type}

/-- The machine that reads its events through `f`. -/
def through (M : Machine σ ε ο) (f : ε' → ε) : Machine σ ε' ο where
  init := M.init
  step := fun s e => M.step s (f e)

theorem execFrom_through (M : Machine σ ε ο) (f : ε' → ε) (s : σ) (es : List ε') :
    (M.through f).execFrom s es = M.execFrom s (es.map f) := by
  unfold execFrom
  rw [List.foldl_map]
  rfl

theorem logFrom_through (M : Machine σ ε ο) (f : ε' → ε) (g : σ → ε → List τ) (s : σ)
    (es : List ε') :
    (M.through f).logFrom (fun s e => g s (f e)) s es = M.logFrom g s (es.map f) := by
  induction es generalizing s with
  | nil => rfl
  | cons e es ih =>
    show g s (f e) ++ (M.through f).logFrom _ (M.step s (f e)).1 es = _
    rw [ih]
    rfl

/-- `message` is what is delivered, `stream` the stream it belongs to. `view` is compared of
the states, `observe` of the steps; `Inv` holds wherever admitted events lead. -/
structure Merging (M : Machine σ ε ο) (message : ε → β) (stream : β → ι) (view : σ → α)
    (observe : κ → σ → ε → List τ) (Inv : σ → Prop) (Admitted : ε → Prop) : Prop where
  keeps : ∀ {s e}, Inv s → Admitted e → Inv (M.step s e).1
  /-- Equal messages act alike where the view is the same. -/
  alike : ∀ {s s' e e'}, Inv s → Inv s' → view s = view s' → Admitted e → message e = message e' →
    view (M.step s e).1 = view (M.step s' e').1 ∧ ∀ k, observe k s e = observe k s' e'
  /-- Messages of different streams commute. -/
  commute : ∀ {s e e'}, Inv s → Admitted e → Admitted e' →
    stream (message e) ≠ stream (message e') →
      view (M.step (M.step s e).1 e').1 = view (M.step (M.step s e').1 e).1 ∧
        ∀ k, observe k s e ++ observe k (M.step s e).1 e' =
          observe k s e' ++ observe k (M.step s e').1 e

/-- Two runs that leave the same view and observe the same. -/
structure Agree (M : Machine σ ε ο) (view : σ → α) (observe : κ → σ → ε → List τ)
    (s s' : σ) (l l' : List ε) : Prop where
  view : view (M.execFrom s l) = view (M.execFrom s' l')
  observed : ∀ k, M.logFrom (observe k) s l = M.logFrom (observe k) s' l'

namespace Merging

variable {M : Machine σ ε ο} {message : ε → β} {stream : β → ι} {view : σ → α}
  {observe : κ → σ → ε → List τ} {Inv : σ → Prop} {Admitted : ε → Prop} {s s' : σ}

/-- One run from two states with the same view. -/
theorem congr (h : Merging M message stream view observe Inv Admitted) (hs : Inv s)
    (hs' : Inv s') (hview : view s = view s') {l : List ε} (hl : ∀ e ∈ l, Admitted e) :
    Agree M view observe s s' l l := by
  induction l generalizing s s' with
  | nil => exact ⟨hview, fun _ => rfl⟩
  | cons e l ih =>
    obtain ⟨he, hl⟩ := List.forall_mem_cons.mp hl
    obtain ⟨hstep, hobserve⟩ := h.alike hs hs' hview he rfl
    have hrest := ih (h.keeps hs he) (h.keeps hs' he) hstep hl
    refine ⟨hrest.view, ?_⟩
    intro k
    show observe k s e ++ _ = observe k s' e ++ _
    rw [hobserve k, hrest.observed k]

/-- A message can come before a block of messages of other streams. -/
theorem forward (h : Merging M message stream view observe Inv Admitted) (hs : Inv s)
    {before : List ε} {e : ε} {after : List ε}
    (hadmitted : ∀ d ∈ before ++ e :: after, Admitted d)
    (hothers : ∀ d ∈ before, stream (message d) ≠ stream (message e)) :
    Agree M view observe s s (before ++ e :: after) (e :: (before ++ after)) := by
  induction before generalizing s with
  | nil => exact ⟨rfl, fun _ => rfl⟩
  | cons d before ih =>
    obtain ⟨hd, hrest⟩ := List.forall_mem_cons.mp hadmitted
    obtain ⟨hother, hothers⟩ := List.forall_mem_cons.mp hothers
    have he : Admitted e := hrest e (by simp)
    have hmoved := ih (h.keeps hs hd) hrest hothers
    obtain ⟨hview, hobserve⟩ := h.commute hs hd he hother
    have hlater : ∀ c ∈ before ++ after, Admitted c := by
      intro c hc
      refine hrest c ?_
      rcases List.mem_append.mp hc with hc | hc
      · exact List.mem_append_left _ hc
      · exact List.mem_append_right _ (List.mem_cons_of_mem _ hc)
    have hswapped :=
      h.congr (h.keeps (h.keeps hs hd) he) (h.keeps (h.keeps hs he) hd) hview hlater
    refine ⟨hmoved.view.trans hswapped.view, ?_⟩
    intro k
    calc M.logFrom (observe k) s (d :: (before ++ e :: after))
        = observe k s d ++ M.logFrom (observe k) (M.step s d).1 (before ++ e :: after) := rfl
      _ = observe k s d ++ (observe k (M.step s d).1 e ++
            M.logFrom (observe k) (M.step (M.step s d).1 e).1 (before ++ after)) := by
          rw [hmoved.observed k]
          rfl
      _ = observe k s e ++ (observe k (M.step s e).1 d ++
            M.logFrom (observe k) (M.step (M.step s e).1 d).1 (before ++ after)) := by
          rw [hswapped.observed k, ← List.append_assoc, hobserve k, List.append_assoc]
      _ = M.logFrom (observe k) s (e :: (d :: before ++ after)) := rfl

/-- Merges of the same streams agree. -/
theorem agree [DecidableEq ι] (h : Merging M message stream view observe Inv Admitted) (hs : Inv s)
    (hs' : Inv s') (hview : view s = view s') {l l' : List ε} (hl : ∀ e ∈ l, Admitted e)
    (hl' : ∀ e ∈ l', Admitted e)
    (hstreams : ∀ i, (l.map message).filter (fun m => stream m = i) =
      (l'.map message).filter fun m => stream m = i) :
    Agree M view observe s s' l l' := by
  induction l generalizing s s' l' with
  | nil =>
    have hnil : l' = [] := by
      cases l' with
      | nil => rfl
      | cons e l' => simpa using hstreams (stream (message e))
    rw [hnil]
    exact ⟨hview, fun _ => rfl⟩
  | cons e l ih =>
    obtain ⟨he, hl⟩ := List.forall_mem_cons.mp hl
    -- the first message of its stream in `l'` is the same one, other streams come before it
    have hfirst := hstreams (stream (message e))
    rw [List.map_cons, List.filter_cons_of_pos (by simp)] at hfirst
    obtain ⟨msgs, msgs', hsplit, hothers, -, hrest⟩ := List.filter_eq_cons_iff.mp hfirst.symm
    obtain ⟨before, tail, rfl, rfl, htail⟩ := List.map_eq_append_iff.mp hsplit
    obtain ⟨e', after, rfl, hmessage, rfl⟩ := List.map_eq_cons_iff.mp htail
    have hbefore : ∀ d ∈ before, stream (message d) ≠ stream (message e') := by
      intro d hd hsame
      refine hothers (message d) (List.mem_map_of_mem hd) ?_
      rw [hsame, hmessage]
      simp
    have hforward := h.forward hs' hl' hbefore
    have hlater : ∀ d ∈ before ++ after, Admitted d := by
      intro d hd
      refine hl' d ?_
      rcases List.mem_append.mp hd with hd | hd
      · exact List.mem_append_left _ hd
      · exact List.mem_append_right _ (List.mem_cons_of_mem _ hd)
    obtain ⟨hstep, hobserve⟩ := h.alike hs hs' hview he hmessage.symm
    have hagree := ih (h.keeps hs he) (h.keeps hs' (hl' e' (by simp))) hstep hl hlater ?_
    · refine ⟨hagree.view.trans hforward.view.symm, ?_⟩
      intro k
      rw [hforward.observed k]
      show observe k s e ++ _ = observe k s' e' ++ _
      rw [hobserve k, hagree.observed k]
    · intro i
      have hi := hstreams i
      simp only [List.map_append, List.map_cons, List.filter_append, List.filter_cons,
        hmessage] at hi
      rw [List.map_append, List.filter_append]
      by_cases hstream : stream (message e) = i
      · -- in the stream itself nothing comes before
        have hempty : (before.map message).filter (fun m => stream m = i) = [] := by
          rw [List.filter_eq_nil_iff]
          intro m hm
          rw [← hstream]
          exact hothers m hm
        simpa [hstream, hempty] using hi
      · simpa [hstream] using hi

end Merging

end Machine
