import Mathlib.Data.List.Nodup

/-!
# Chains of calls

Calls made one after another as `ok = ok && call` makes them: the first call that fails ends
the chain, and the calls after it are not made. `called` are the calls a chain makes. A chain
reaches everything it has to reach, and reports no failure but of a call that matters, on the
condition `EndsWell`.
-/

/-- `r && call`: a call that puts something out is made only if `r` is true. -/
def andAlso {ο : Type} (r call : Bool × List ο) : Bool × List ο :=
  if r.1 then (call.1, r.2 ++ call.2) else r

namespace Chain

variable {ι ο : Type}

/-- The calls that a chain makes. -/
def called (ok : ι → Bool) : List ι → List ι
  | [] => []
  | i :: is => if ok i then i :: called ok is else [i]

/-- The first call to fail, if there is one, is needed, and none of those after it is. -/
def EndsWell (ok : ι → Bool) (needed : ι → Prop) : List ι → Prop
  | [] => True
  | i :: is => if ok i then EndsWell ok needed is else needed i ∧ ∀ j ∈ is, ¬ needed j

instance decideEndsWell (ok : ι → Bool) (needed : ι → Prop) [DecidablePred needed] :
    (is : List ι) → Decidable (EndsWell ok needed is)
  | [] => .isTrue trivial
  | i :: is =>
    have : Decidable (EndsWell ok needed is) := decideEndsWell ok needed is
    inferInstanceAs (Decidable (if ok i then EndsWell ok needed is else _))

variable (ok : ι → Bool) (needed : ι → Prop)

/-- A chain puts out what its calls do, and its result is that of all the calls in it. -/
theorem foldl_andAlso (act : ι → List ο) (r : Bool × List ο) (is : List ι) :
    is.foldl (fun r i => andAlso r (ok i, act i)) r =
      if r.1 then (is.all ok, r.2 ++ (called ok is).flatMap act) else r := by
  induction is generalizing r with
  | nil =>
    cases r with
    | mk done outs => cases done <;> simp [called]
  | cons i is ih =>
    rw [List.foldl_cons, ih]
    cases hr : r.1 with
    | false => simp [andAlso, hr]
    | true =>
      cases hi : ok i <;> simp [andAlso, called, hr, hi]

theorem called_sublist (is : List ι) : (called ok is).Sublist is := by
  induction is with
  | nil => exact List.Sublist.refl []
  | cons i is ih =>
    unfold called
    split
    · exact ih.cons_cons i
    · exact (List.nil_sublist is).cons_cons i

/-- Of calls to different addressees, what reaches `i` is what the call to it puts out, if
that call is made. -/
theorem flatMap_called [DecidableEq ι] {is : List ι} (hnodup : is.Nodup) (act : ι → List ο)
    (i : ι) [Decidable (i ∈ called ok is)] :
    ((called ok is).flatMap fun j => if j = i then act j else []) =
      if i ∈ called ok is then act i else [] := by
  have hcalled : (called ok is).Nodup := hnodup.sublist (called_sublist ok is)
  have hothers : ∀ js : List ι, i ∉ js →
      (js.flatMap fun j => if j = i then act j else []) = [] := by
    intro js hi
    apply List.flatMap_eq_nil_iff.mpr
    intro j hj
    apply if_neg
    rintro rfl
    exact hi hj
  by_cases hi : i ∈ called ok is
  · rw [if_pos hi]
    obtain ⟨before, after, heq⟩ := List.append_of_mem hi
    rw [heq] at hcalled ⊢
    obtain ⟨hbefore, hafter⟩ : i ∉ before ∧ i ∉ after := by
      have := List.nodup_middle.mp hcalled
      simpa [not_or] using (List.nodup_cons.mp this).1
    rw [List.flatMap_append, List.flatMap_cons, hothers before hbefore, hothers after hafter,
      if_pos rfl, List.nil_append, List.append_nil]
  · rw [if_neg hi]
    exact hothers _ hi

/-- A chain makes every call that is needed, and succeeds exactly when these calls do. -/
structure Complete (is : List ι) : Prop where
  made : ∀ i ∈ is, needed i → i ∈ called ok is
  result : is.all ok = true ↔ ∀ i ∈ is, needed i → ok i = true

variable {ok needed}

theorem complete_cons_of_ok {i : ι} {is : List ι} (hi : i ∉ is) (hok : ok i = true) :
    Complete ok needed (i :: is) ↔ Complete ok needed is := by
  have hcalled : called ok (i :: is) = i :: called ok is := by
    rw [called, if_pos hok]
  have hall : (i :: is).all ok = is.all ok := by
    rw [List.all_cons, hok, Bool.true_and]
  constructor
  · rintro ⟨hmade, hresult⟩
    constructor
    · intro j hj hneeded
      have hne : j ≠ i := fun heq => hi (heq ▸ hj)
      have hmem : j ∈ i :: called ok is := hcalled ▸ hmade j (List.mem_cons_of_mem _ hj) hneeded
      exact (List.mem_cons.mp hmem).resolve_left hne
    · rw [← hall, hresult, List.forall_mem_cons]
      exact and_iff_right fun _ => hok
  · rintro ⟨hmade, hresult⟩
    constructor
    · intro j hj hneeded
      rw [hcalled]
      rcases List.mem_cons.mp hj with rfl | hj
      · exact List.mem_cons_self
      · exact List.mem_cons_of_mem _ (hmade j hj hneeded)
    · rw [hall, hresult, List.forall_mem_cons]
      exact (and_iff_right fun _ => hok).symm

theorem complete_cons_of_not_ok {i : ι} {is : List ι} (hi : i ∉ is) (hok : ok i = false) :
    Complete ok needed (i :: is) ↔ needed i ∧ ∀ j ∈ is, ¬ needed j := by
  have hcalled : called ok (i :: is) = [i] := by
    rw [called, hok]
    rfl
  have hall : ¬ (i :: is).all ok = true := by
    simp [hok]
  constructor
  · rintro ⟨hmade, hresult⟩
    have hlast : ∀ j ∈ is, ¬ needed j := by
      intro j hj hneeded
      have hmem : j ∈ [i] := hcalled ▸ hmade j (List.mem_cons_of_mem _ hj) hneeded
      exact hi (List.mem_singleton.mp hmem ▸ hj)
    refine ⟨?_, hlast⟩
    -- a failure that nobody needed would be reported all the same
    by_contra hidle
    apply hall
    apply hresult.mpr
    intro j hj hneeded
    rcases List.mem_cons.mp hj with rfl | hj
    · exact absurd hneeded hidle
    · exact absurd hneeded (hlast j hj)
  · rintro ⟨hneeded, hlast⟩
    refine ⟨?_, fun h => absurd h hall, ?_⟩
    · intro j hj hjneeded
      rw [hcalled]
      rcases List.mem_cons.mp hj with rfl | hj
      · exact List.mem_singleton_self j
      · exact absurd hjneeded (hlast j hj)
    · intro h
      exact absurd (h i List.mem_cons_self hneeded) (by simp [hok])

theorem complete_iff_endsWell {is : List ι} (hnodup : is.Nodup) :
    Complete ok needed is ↔ EndsWell ok needed is := by
  induction is with
  | nil => exact ⟨fun _ => trivial, fun _ => ⟨by simp, by simp⟩⟩
  | cons i is ih =>
    obtain ⟨hi, his⟩ := List.nodup_cons.mp hnodup
    unfold EndsWell
    by_cases hok : ok i = true
    · rw [if_pos hok, complete_cons_of_ok hi hok, ih his]
    · have hfails : ok i = false := by simpa using hok
      rw [if_neg hok, complete_cons_of_not_ok hi hfails]

end Chain
