import KungfuTora.Misc.Store

/-!
# Event machines

A deterministic system that answers each event with a new state and a list of
outputs. Whatever the environment decides (an answer, a return code, a clock) is
part of the event, so a run is the list of its events.

`exec` is the state a run ends in. `log f` collects what `f` reads off every step
of a run, so that the history of a run is an ordinary list. `Along P` says that
`P` holds of every step. `invariant` is the induction for what a run preserves,
`table_eq_ofWrites` the one for a table that a run only assigns to, `table_eq_first` the one for
a table that a run only adds to.
-/

structure Machine (σ ε ο : Type) where
  init : σ
  step : σ → ε → σ × List ο

namespace Machine

variable {σ ε ο τ : Type} (M : Machine σ ε ο)

def execFrom (s : σ) (es : List ε) : σ := es.foldl (fun s e => (M.step s e).1) s

/-- The state after a run. -/
def exec (es : List ε) : σ := M.execFrom M.init es

/-- What the event after a run puts out. -/
def outputs (es : List ε) (e : ε) : List ο := (M.step (M.exec es) e).2

/-- What `f` reads off the steps of a run that starts in `s`. -/
def logFrom (f : σ → ε → List τ) : σ → List ε → List τ
  | _, [] => []
  | s, e :: es => f s e ++ logFrom f (M.step s e).1 es

/-- What `f` reads off the steps of a run. -/
def log (f : σ → ε → List τ) (es : List ε) : List τ := M.logFrom f M.init es

@[simp] theorem exec_nil : M.exec [] = M.init := rfl

theorem execFrom_append (s : σ) (es es' : List ε) :
    M.execFrom s (es ++ es') = M.execFrom (M.execFrom s es) es' := by
  simp [execFrom]

theorem exec_append (es es' : List ε) :
    M.exec (es ++ es') = M.execFrom (M.exec es) es' :=
  M.execFrom_append M.init es es'

@[simp] theorem exec_concat (es : List ε) (e : ε) :
    M.exec (es ++ [e]) = (M.step (M.exec es) e).1 := by
  rw [exec_append]; rfl

@[simp] theorem log_nil (f : σ → ε → List τ) : M.log f [] = [] := rfl

theorem logFrom_append (f : σ → ε → List τ) (s : σ) (es es' : List ε) :
    M.logFrom f s (es ++ es') = M.logFrom f s es ++ M.logFrom f (M.execFrom s es) es' := by
  induction es generalizing s with
  | nil => rfl
  | cons e es ih => simp [logFrom, ih, execFrom]

theorem log_append (f : σ → ε → List τ) (es es' : List ε) :
    M.log f (es ++ es') = M.log f es ++ M.logFrom f (M.exec es) es' :=
  M.logFrom_append f M.init es es'

theorem logFrom_concat (f : σ → ε → List τ) (s : σ) (es : List ε) (e : ε) :
    M.logFrom f s (es ++ [e]) = M.logFrom f s es ++ f (M.execFrom s es) e := by
  simp [logFrom_append, logFrom]

@[simp] theorem log_concat (f : σ → ε → List τ) (es : List ε) (e : ε) :
    M.log f (es ++ [e]) = M.log f es ++ f (M.exec es) e :=
  M.logFrom_concat f M.init es e

/-- A run split at one of its events. -/
theorem log_append_cons (f : σ → ε → List τ) (es : List ε) (e : ε) (es' : List ε) :
    M.log f (es ++ e :: es') =
      M.log f es ++ (f (M.exec es) e ++ M.logFrom f (M.exec (es ++ [e])) es') := by
  rw [log_append, exec_concat]
  rfl

theorem execFrom_exec_concat (es : List ε) (e : ε) (es' : List ε) :
    M.execFrom (M.exec (es ++ [e])) es' = M.exec (es ++ e :: es') := by
  rw [← exec_append, ← List.append_cons]

theorem mem_logFrom (f : σ → ε → List τ) (s : σ) (es : List ε) (x : τ) :
    x ∈ M.logFrom f s es ↔
      ∃ before e after, es = before ++ e :: after ∧ x ∈ f (M.execFrom s before) e := by
  induction es generalizing s with
  | nil => simp [logFrom]
  | cons e es ih =>
    simp only [logFrom, List.mem_append, ih]
    constructor
    · rintro (h | ⟨before, e', after, rfl, h⟩)
      · exact ⟨[], e, es, rfl, h⟩
      · exact ⟨e :: before, e', after, rfl, h⟩
    · rintro ⟨before, e', after, heq, h⟩
      cases before with
      | nil =>
        obtain ⟨rfl, rfl⟩ := List.cons.inj heq
        exact Or.inl h
      | cons d before =>
        obtain ⟨rfl, rfl⟩ := List.cons.inj heq
        exact Or.inr ⟨before, e', after, rfl, h⟩

/-- What is in the log of a run was read off one of its steps. -/
theorem mem_log (f : σ → ε → List τ) (es : List ε) (x : τ) :
    x ∈ M.log f es ↔
      ∃ before e after, es = before ++ e :: after ∧ x ∈ f (M.exec before) e :=
  M.mem_logFrom f M.init es x

theorem mem_log_append (f : σ → ε → List τ) {es : List ε} {x : τ} (es' : List ε)
    (h : x ∈ M.log f es) : x ∈ M.log f (es ++ es') := by
  rw [log_append]
  exact List.mem_append_left _ h

theorem map_logFrom {τ' : Type} (f : σ → ε → List τ) (g : τ → τ') (s : σ) (es : List ε) :
    (M.logFrom f s es).map g = M.logFrom (fun s e => (f s e).map g) s es := by
  induction es generalizing s with
  | nil => rfl
  | cons e es ih =>
    show (f s e ++ M.logFrom f _ es).map g = _
    rw [List.map_append, ih]
    rfl

/-- What is made of a log piece by piece can be made of it as a whole. -/
theorem logFrom_hom {τ' : Type} (f : σ → ε → List τ) {h : List τ → List τ'} (hnil : h [] = [])
    (happend : ∀ xs ys, h (xs ++ ys) = h xs ++ h ys) (s : σ) (es : List ε) :
    M.logFrom (fun s e => h (f s e)) s es = h (M.logFrom f s es) := by
  induction es generalizing s with
  | nil => exact hnil.symm
  | cons e es ih =>
    show h (f s e) ++ M.logFrom (fun s e => h (f s e)) _ es = h (f s e ++ M.logFrom f _ es)
    rw [happend, ih]

/-- A log that reads off each event what the event alone determines. -/
theorem logFrom_eq_flatMap (f : σ → ε → List τ) (g : ε → List τ) {s : σ} {es : List ε}
    (h : ∀ before e after, es = before ++ e :: after → f (M.execFrom s before) e = g e) :
    M.logFrom f s es = es.flatMap g := by
  induction es generalizing s with
  | nil => rfl
  | cons e es ih =>
    have hfirst : f s e = g e := h [] e es rfl
    have hrest : M.logFrom f (M.step s e).1 es = es.flatMap g := by
      apply ih
      intro before e' after heq
      exact h (e :: before) e' after (by rw [heq]; rfl)
    rw [List.flatMap_cons, ← hfirst, ← hrest]
    rfl

/-- A property of everything in a log is decided entry by entry, also where the entries
are of a finite type. -/
instance decideLog (f : σ → ε → List τ) (es : List ε) (P : τ → Prop) [DecidablePred P] :
    Decidable (∀ x ∈ M.log f es, P x) :=
  List.decidableBAll P _

/-! ## Properties of every step -/

end Machine

/-- `P before e` holds of every event `e` of a run, `before` being the events it
comes after. -/
def Along {ε : Type} (P : List ε → ε → Prop) (es : List ε) : Prop :=
  ∀ before e after, es = before ++ e :: after → P before e

namespace Along

variable {ε : Type} {P Q : List ε → ε → Prop}

theorem nil : Along P [] := by
  intro before e after h
  simp at h

theorem cons_iff (e : ε) (es : List ε) :
    Along P (e :: es) ↔ P [] e ∧ Along (fun before => P (e :: before)) es := by
  constructor
  · intro h
    refine ⟨h [] e es rfl, ?_⟩
    intro before e' after heq
    exact h (e :: before) e' after (by rw [heq]; rfl)
  · rintro ⟨he, hes⟩ before e' after heq
    cases before with
    | nil =>
      obtain ⟨rfl, -⟩ := List.cons.inj heq
      exact he
    | cons d before =>
      obtain ⟨rfl, htail⟩ := List.cons.inj heq
      exact hes before e' after htail

/-- What a step may read is decided by looking at it, also where it is of a finite type. -/
instance decideRead (o : Option τ) (P : τ → Prop) [DecidablePred P] :
    Decidable (∀ x ∈ o, P x) :=
  Option.decidableForallMem o

instance decide : {P : List ε → ε → Prop} → [∀ before e, Decidable (P before e)] →
    (es : List ε) → Decidable (Along P es)
  | _, _, [] => .isTrue nil
  | P, _, e :: es =>
    have : Decidable (Along (fun before => P (e :: before)) es) := decide es
    decidable_of_iff' _ (cons_iff e es)

theorem concat_iff (es : List ε) (e : ε) : Along P (es ++ [e]) ↔ Along P es ∧ P es e := by
  constructor
  · intro h
    refine ⟨?_, h es e [] rfl⟩
    intro before e' after heq
    exact h before e' (after ++ [e]) (by simp [heq])
  · rintro ⟨hes, he⟩ before e' after heq
    rcases List.concat_eq_append_cons.mp heq with ⟨rfl, rfl, -⟩ | ⟨after', -, rfl⟩
    · exact he
    · exact hes before e' after' rfl

theorem of_append {es es' : List ε} (h : Along P (es ++ es')) : Along P es := by
  intro before e after heq
  exact h before e (after ++ es') (by simp [heq])

theorem and {es : List ε} (hP : Along P es) (hQ : Along Q es) :
    Along (fun before e => P before e ∧ Q before e) es :=
  fun before e after heq => ⟨hP before e after heq, hQ before e after heq⟩

end Along

namespace Machine

variable {σ ε ο τ : Type} (M : Machine σ ε ο)

/-- The invariant rule: what holds at the start and is preserved by every step that
meets the environment's obligations `A` holds after every run whose steps meet them. -/
theorem invariant {A : List ε → ε → Prop} {I : List ε → σ → Prop} (init : I [] M.init)
    (step : ∀ es e, I es (M.exec es) → A es e → I (es ++ [e]) (M.step (M.exec es) e).1) :
    ∀ es, Along A es → I es (M.exec es) := by
  intro es
  induction es using List.reverseRecOn with
  | nil => intro _; exact init
  | append_singleton es e ih =>
    intro h
    obtain ⟨hes, he⟩ := (Along.concat_iff es e).mp h
    rw [exec_concat]
    exact step es e (ih hes) he

/-- The invariant rule for a machine whose steps preserve `I` whatever the environment does. -/
theorem always {I : List ε → σ → Prop} (init : I [] M.init)
    (step : ∀ es e, I es (M.exec es) → I (es ++ [e]) (M.step (M.exec es) e).1) (es : List ε) :
    I es (M.exec es) := by
  apply M.invariant (A := fun _ _ => True) init
  · intro es e h _
    exact step es e h
  · intro _ _ _ _
    trivial

/-- A table that every step changes by assignments alone is the store that the run's log
of these assignments writes. -/
theorem table_eq_ofWrites {κ α : Type} [DecidableEq κ] (table : σ → Store κ α)
    (f : σ → ε → List τ) (key : τ → κ) (val : τ → α) (init : table M.init = Store.empty)
    (step : ∀ s e,
      table (M.step s e).1 = (f s e).foldl (fun m w => m.set (key w) (val w)) (table s)) :
    ∀ es, table (M.exec es) = Store.ofWrites ((M.log f es).map fun w => (key w, val w)) := by
  intro es
  induction es using List.reverseRecOn with
  | nil => exact init
  | append_singleton es e ih =>
    rw [exec_concat, log_concat, step, ih, List.map_append, Store.ofWrites_append,
      List.foldl_map]

/-- A table that every step only adds to, under keys that are not taken yet, holds of each key
the first of the run's entries that has it. -/
theorem table_eq_first {κ : Type} [DecidableEq κ] (table : σ → κ → Option τ) (key : τ → κ)
    (f : σ → ε → List τ) (init : ∀ k, table M.init k = none)
    (step : ∀ es e k, table (M.step (M.exec es) e).1 k =
      (table (M.exec es) k).or ((f (M.exec es) e).find? fun a => key a = k))
    (es : List ε) (k : κ) : table (M.exec es) k = (M.log f es).find? fun a => key a = k := by
  induction es using List.reverseRecOn with
  | nil => exact init k
  | append_singleton es e ih =>
    rw [exec_concat, log_concat, step, ih, List.find?_append]

/-! ## Replacing events by several smaller ones -/

/-- A machine that carries out each event of another one as several events of its
own, through the embedding `φ` of states, reaches the embedded state. -/
theorem execFrom_expand {σ' ε' ο' : Type} (N : Machine σ' ε' ο') (φ : σ → σ')
    (expand : ε → List ε') (h : ∀ s e, N.execFrom (φ s) (expand e) = φ (M.step s e).1)
    (s : σ) (es : List ε) :
    N.execFrom (φ s) (es.flatMap expand) = φ (M.execFrom s es) := by
  induction es generalizing s with
  | nil => rfl
  | cons e es ih =>
    rw [List.flatMap_cons, execFrom_append, h, ih]
    rfl

/-- If in addition the several events log together what the one does, the logs of whole
runs agree. -/
theorem logFrom_expand {σ' ε' ο' : Type} (N : Machine σ' ε' ο') (φ : σ → σ')
    (expand : ε → List ε') (h : ∀ s e, N.execFrom (φ s) (expand e) = φ (M.step s e).1)
    (f : σ → ε → List τ) (f' : σ' → ε' → List τ)
    (hlog : ∀ s e, N.logFrom f' (φ s) (expand e) = f s e) (s : σ) (es : List ε) :
    N.logFrom f' (φ s) (es.flatMap expand) = M.logFrom f s es := by
  induction es generalizing s with
  | nil => rfl
  | cons e es ih =>
    rw [List.flatMap_cons, logFrom_append, hlog, h, ih]
    rfl

end Machine
