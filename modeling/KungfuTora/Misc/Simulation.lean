import KungfuTora.Misc.Machine

/-!
# Simulations between event machines

`N` follows a run of `M`: what it does upon an event is read off the step of `M`, so it may
leave events out, delay them or split them up. A relation of the two states that every step
keeps holds after every run (`simulation`), and logs that agree step by step agree over the
run. `M` may be ahead of `N`: `pending` is what it has logged and `N` has not yet
(`simulation_ahead`). Or it is behind: `owed` is what `N` has logged already
(`simulation_behind`).

Erasing events is the case in which `N` is `M` itself and takes some of the events only
(`erasure`).
-/

namespace Machine

variable {σ σ' ε ε' ο ο' τ : Type} (M : Machine σ ε ο) (N : Machine σ' ε' ο')

/-- What follows one step. -/
structure Follows (R : List ε → σ → σ' → Prop) (g : σ → ε → List τ) (g' : σ' → ε' → List τ)
    (pending : σ → σ' → List τ) (es : List ε) (e : ε) (s' : σ') (es' : List ε') : Prop where
  states : R (es ++ [e]) (M.step (M.exec es) e).1 (N.execFrom s' es')
  logs : pending (M.exec es) s' ++ g (M.exec es) e =
    N.logFrom g' s' es' ++ pending (M.step (M.exec es) e).1 (N.execFrom s' es')

/-- The simulation rule, for a machine that logs ahead of the one that follows it. -/
theorem simulation_ahead {A : List ε → ε → Prop} {R : List ε → σ → σ' → Prop}
    (f : σ → ε → List ε') (g : σ → ε → List τ) (g' : σ' → ε' → List τ)
    (pending : σ → σ' → List τ) (init : R [] M.init N.init) (nothing : pending M.init N.init = [])
    (step : ∀ es e s', R es (M.exec es) s' → A es e →
      M.Follows N R g g' pending es e s' (f (M.exec es) e)) :
    ∀ es, Along A es →
      R es (M.exec es) (N.exec (M.log f es)) ∧
        M.log g es = N.log g' (M.log f es) ++ pending (M.exec es) (N.exec (M.log f es)) := by
  intro es
  induction es using List.reverseRecOn with
  | nil => exact fun _ => ⟨init, nothing.symm⟩
  | append_singleton es e ih =>
    intro h
    obtain ⟨hes, he⟩ := (Along.concat_iff es e).mp h
    obtain ⟨hrel, hlog⟩ := ih hes
    obtain ⟨hstates, hlogs⟩ := step es e _ hrel he
    rw [exec_concat, log_concat, log_concat, exec_append, log_append]
    refine ⟨hstates, ?_⟩
    rw [hlog, List.append_assoc, hlogs, List.append_assoc]

/-- The simulation rule, for a machine that logs behind the one that follows it. -/
theorem simulation_behind {R : σ → σ' → Prop} (f : σ → ε → List ε') (g : σ → ε → List τ)
    (g' : σ' → ε' → List τ) (owed : σ → List τ) (init : R M.init N.init)
    (nothing : owed M.init = [])
    (step : ∀ s e s', R s s' →
      R (M.step s e).1 (N.execFrom s' (f s e)) ∧
        g s e ++ owed (M.step s e).1 = owed s ++ N.logFrom g' s' (f s e)) (es : List ε) :
    R (M.exec es) (N.exec (M.log f es)) ∧
      M.log g es ++ owed (M.exec es) = N.log g' (M.log f es) := by
  induction es using List.reverseRecOn with
  | nil => exact ⟨init, nothing⟩
  | append_singleton es e ih =>
    obtain ⟨hrel, hlog⟩ := ih
    obtain ⟨hstates, hlogs⟩ := step (M.exec es) e _ hrel
    rw [exec_concat, log_concat, log_concat, exec_append, log_append]
    refine ⟨hstates, ?_⟩
    rw [List.append_assoc, hlogs, ← List.append_assoc, hlog]

/-- The simulation rule. -/
theorem simulation {A : List ε → ε → Prop} {R : List ε → σ → σ' → Prop} (f : σ → ε → List ε')
    (g : σ → ε → List τ) (g' : σ' → ε' → List τ) (init : R [] M.init N.init)
    (step : ∀ es e s', R es (M.exec es) s' → A es e →
      R (es ++ [e]) (M.step (M.exec es) e).1 (N.execFrom s' (f (M.exec es) e)) ∧
        g (M.exec es) e = N.logFrom g' s' (f (M.exec es) e)) :
    ∀ es, Along A es →
      R es (M.exec es) (N.exec (M.log f es)) ∧ M.log g es = N.log g' (M.log f es) := by
  intro es hes
  have h := M.simulation_ahead N (A := A) (R := R) f g g' (fun _ _ => []) init rfl ?_ es hes
  · simpa only [List.append_nil] using h
  · intro es e s' hrel he
    obtain ⟨hstates, hlogs⟩ := step es e s' hrel he
    exact ⟨hstates, by simpa only [List.nil_append, List.append_nil] using hlogs⟩

/-- The simulation rule for two machines that take the same events. -/
theorem lockstep {N : Machine σ' ε ο'} {A : List ε → ε → Prop} {R : List ε → σ → σ' → Prop}
    (g : σ → ε → List τ) (g' : σ' → ε → List τ) (init : R [] M.init N.init)
    (step : ∀ es e s', R es (M.exec es) s' → A es e →
      R (es ++ [e]) (M.step (M.exec es) e).1 (N.step s' e).1 ∧ g (M.exec es) e = g' s' e) :
    ∀ es, Along A es → R es (M.exec es) (N.exec es) ∧ M.log g es = N.log g' es := by
  intro es hes
  have hsame : M.log (fun _ e => [e]) es = es := by
    rw [log, M.logFrom_eq_flatMap _ (fun e => [e]) fun _ _ _ _ => rfl, List.flatMap_singleton']
  have h := M.simulation N (A := A) (R := R) (fun _ e => [e]) g g' init ?_ es hes
  · rwa [hsame] at h
  · intro es e s' hrel he
    obtain ⟨hstates, hlogs⟩ := step es e s' hrel he
    exact ⟨hstates, hlogs.trans (List.append_nil _).symm⟩

/-- Events that change nothing of what `R` relates and log nothing can be erased from a run. -/
theorem erasure {A : List ε → ε → Prop} {R : List ε → σ → σ → Prop} (keep : ε → Bool)
    (g : σ → ε → List τ) (init : R [] M.init M.init)
    (erased : ∀ es e s', R es (M.exec es) s' → A es e → keep e = false →
      R (es ++ [e]) (M.step (M.exec es) e).1 s' ∧ g (M.exec es) e = [])
    (kept : ∀ es e s', R es (M.exec es) s' → A es e → keep e = true →
      R (es ++ [e]) (M.step (M.exec es) e).1 (M.step s' e).1 ∧ g (M.exec es) e = g s' e) :
    ∀ es, Along A es →
      R es (M.exec es) (M.exec (es.filter keep)) ∧ M.log g es = M.log g (es.filter keep) := by
  intro es hes
  have hfilter : M.log (fun _ e => if keep e then [e] else []) es = es.filter keep := by
    rw [log, M.logFrom_eq_flatMap _ (fun e => if keep e then [e] else []) fun _ _ _ _ => rfl]
    clear hes
    induction es with
    | nil => rfl
    | cons e es ih => cases he : keep e <;> simp [he, ih]
  rw [← hfilter]
  apply M.simulation M (A := A) (R := R) (fun _ e => if keep e then [e] else []) g g init _ es hes
  intro es e s' hrel he
  cases hkeep : keep e with
  | false => exact erased es e s' hrel he hkeep
  | true =>
    obtain ⟨hstates, hlogs⟩ := kept es e s' hrel he hkeep
    refine ⟨hstates, ?_⟩
    rw [hlogs]
    exact (List.append_nil _).symm

end Machine
