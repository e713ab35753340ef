import KungfuTora.Misc.Concat

/-!
# Keyed stores

A keyed container as the partial function it denotes, with the insertions that
`std::map` and `std::unordered_map` offer: `set` (assignment through
`operator[]`), `emplace` (insert if absent) and `subscript` (a read through
`operator[]`, which inserts a default). Nothing is ever erased.

A store that is only assigned to is determined by the list of its assignments
(`ofWrites`): the last one of a key is the one that is found. Two stores filled
from one list, one by identifier and one by a second key, are inverse to each
other when identifiers and keys are both unrepeated (`inverse_of_nodup`).
-/

/-- A keyed container: what each present key holds. -/
abbrev Store (κ α : Type) := κ → Option α

namespace Store

variable {κ α β ω : Type} [DecidableEq κ]

def empty : Store κ α := fun _ => none

/-- `m[k] = a`. -/
def set (m : Store κ α) (k : κ) (a : α) : Store κ α :=
  fun k' => if k' = k then some a else m k'

/-- `m.emplace(k, a)`: an existing entry is kept. -/
def emplace (m : Store κ α) (k : κ) (a : α) : Store κ α :=
  if (m k).isSome then m else m.set k a

/-- `m[k]` as an expression: the entry, and the store with a default put in if
there was none. -/
def subscript (m : Store κ α) (k : κ) (default : α) : α × Store κ α :=
  ((m k).getD default, m.emplace k default)

/-- `m[k]` changed in place by `f`, if there is such an entry. -/
def modify (m : Store κ α) (k : κ) (f : α → α) : Store κ α :=
  fun k' => if k' = k then (m k').map f else m k'

omit [DecidableEq κ] in
@[simp] theorem empty_apply (k : κ) : (empty : Store κ α) k = none := rfl

theorem set_apply (m : Store κ α) (k k' : κ) (a : α) :
    m.set k a k' = if k' = k then some a else m k' := rfl

@[simp] theorem set_same (m : Store κ α) (k : κ) (a : α) : m.set k a k = some a := by
  simp [set_apply]

@[simp] theorem set_other (m : Store κ α) {k k' : κ} (a : α) (h : k' ≠ k) :
    m.set k a k' = m k' := by
  simp [set_apply, h]

theorem ite_set_apply (p : Prop) [Decidable p] (m : Store κ α) (k k' : κ) (a : α) :
    (if p then m.set k a else m) k' = if k' = k ∧ p then some a else m k' := by
  by_cases hp : p <;> simp [hp, set_apply]

theorem set_isSome (m : Store κ α) (k k' : κ) (a : α) :
    (m.set k a k').isSome ↔ k' = k ∨ (m k').isSome := by
  rw [set_apply]
  split <;> simp_all

theorem emplace_apply (m : Store κ α) (k k' : κ) (a : α) :
    m.emplace k a k' = if k' = k then (m k).or (some a) else m k' := by
  unfold emplace
  by_cases hk : k' = k
  · subst hk
    cases h : m k' <;> simp [h]
  · split <;> simp [hk]

theorem emplace_isSome (m : Store κ α) (k k' : κ) (a : α) :
    (m.emplace k a k').isSome ↔ k' = k ∨ (m k').isSome := by
  rw [emplace_apply]
  split <;> simp_all

theorem modify_apply (m : Store κ α) (k k' : κ) (f : α → α) :
    m.modify k f k' = if k' = k then (m k').map f else m k' := rfl

@[simp] theorem modify_isSome (m : Store κ α) (k k' : κ) (f : α → α) :
    (m.modify k f k').isSome = (m k').isSome := by
  rw [modify_apply]
  split <;> simp

/-- What `f` does not change is not changed by `modify`. -/
theorem modify_map (m : Store κ α) (k k' : κ) (f : α → α) (g : α → β) (h : ∀ a, g (f a) = g a) :
    (m.modify k f k').map g = (m k').map g := by
  rw [modify_apply]
  split
  · cases m k' <;> simp [h]
  · rfl

/-! ## Writes of different keys -/

theorem set_comm (m : Store κ α) {k k' : κ} (a b : α) (h : k ≠ k') :
    (m.set k a).set k' b = (m.set k' b).set k a := by
  funext j
  simp only [set_apply]
  by_cases hj : j = k
  · have hj' : j ≠ k' := hj.trans_ne h
    simp only [if_pos hj, if_neg hj']
  · simp only [if_neg hj]

theorem modify_comm (m : Store κ α) {k k' : κ} (f g : α → α) (h : k ≠ k') :
    (m.modify k f).modify k' g = (m.modify k' g).modify k f := by
  funext j
  simp only [modify_apply]
  by_cases hj : j = k
  · have hj' : j ≠ k' := hj.trans_ne h
    simp only [if_pos hj, if_neg hj']
  · simp only [if_neg hj]

theorem set_modify_comm (m : Store κ α) {k k' : κ} (a : α) (f : α → α) (h : k ≠ k') :
    (m.set k a).modify k' f = (m.modify k' f).set k a := by
  funext j
  simp only [set_apply, modify_apply]
  by_cases hj : j = k
  · have hj' : j ≠ k' := hj.trans_ne h
    simp only [if_pos hj, if_neg hj']
  · simp only [if_neg hj]

/-- Assignments to other keys do not change an entry. -/
theorem foldl_set_other {ws : List ω} {key : ω → κ} (val : ω → α) {k : κ}
    (h : ∀ w ∈ ws, key w ≠ k) (m : Store κ α) :
    ws.foldl (fun m w => m.set (key w) (val w)) m k = m k := by
  induction ws generalizing m with
  | nil => rfl
  | cons w ws ih =>
    rw [List.foldl_cons, ih fun v hv => h v (List.mem_cons_of_mem w hv)]
    exact set_other m (val w) (h w List.mem_cons_self).symm

/-- An assignment can be made before assignments to other keys. -/
theorem foldl_set_set {ws : List ω} {key : ω → κ} (val : ω → α) {k : κ} (a : α)
    (h : ∀ w ∈ ws, key w ≠ k) (m : Store κ α) :
    ws.foldl (fun m w => m.set (key w) (val w)) (m.set k a) =
      (ws.foldl (fun m w => m.set (key w) (val w)) m).set k a := by
  induction ws generalizing m with
  | nil => rfl
  | cons w ws ih =>
    rw [List.foldl_cons, List.foldl_cons,
      set_comm m a (val w) (h w List.mem_cons_self).symm]
    exact ih (fun v hv => h v (List.mem_cons_of_mem w hv)) _

/-- Two lists of assignments without a common key can be made in either order. -/
theorem foldl_set_comm {ws ws' : List ω} {key : ω → κ} (val : ω → α)
    (h : ∀ w ∈ ws, ∀ w' ∈ ws', key w ≠ key w') (m : Store κ α) :
    ws'.foldl (fun m w => m.set (key w) (val w)) (ws.foldl (fun m w => m.set (key w) (val w)) m) =
      ws.foldl (fun m w => m.set (key w) (val w))
        (ws'.foldl (fun m w => m.set (key w) (val w)) m) := by
  induction ws generalizing m with
  | nil => rfl
  | cons w ws ih =>
    rw [List.foldl_cons, List.foldl_cons, ih fun v hv => h v (List.mem_cons_of_mem w hv)]
    rw [foldl_set_set val (val w) fun w' hw' => (h w List.mem_cons_self w' hw').symm]

/-- Every entry of the store satisfies `P`. -/
def All (P : κ → α → Prop) (m : Store κ α) : Prop := ∀ k a, m k = some a → P k a

namespace All

variable {P Q : κ → α → Prop} {m : Store κ α}

omit [DecidableEq κ] in
theorem empty : (Store.empty : Store κ α).All P := by
  intro k a h
  simp at h

omit [DecidableEq κ] in
theorem mono (h : m.All P) (hPQ : ∀ k a, P k a → Q k a) : m.All Q :=
  fun k a hk => hPQ k a (h k a hk)

theorem set (h : m.All P) {k : κ} {a : α} (ha : P k a) : (m.set k a).All P := by
  intro k' b hb
  rw [set_apply] at hb
  split at hb
  · rename_i hk
    rw [hk, ← Option.some.inj hb]
    exact ha
  · exact h k' b hb

theorem emplace (h : m.All P) {k : κ} {a : α} (ha : P k a) : (m.emplace k a).All P := by
  unfold Store.emplace
  split
  · exact h
  · exact h.set ha

/-- Assigning entries that satisfy `P` keeps it true of all entries. -/
theorem foldl_set {ws : List ω} {key : ω → κ} {val : ω → α} (h : m.All P)
    (hws : ∀ w ∈ ws, P (key w) (val w)) :
    (ws.foldl (fun m w => m.set (key w) (val w)) m).All P := by
  induction ws generalizing m with
  | nil => exact h
  | cons w ws ih =>
    apply ih
    · exact h.set (hws w List.mem_cons_self)
    · intro w' hw'
      exact hws w' (List.mem_cons_of_mem w hw')

end All

/-! ## Stores given by their writes -/

/-- The store that a list of assignments leaves behind. -/
def ofWrites (ws : List (κ × α)) : Store κ α :=
  ws.foldl (fun m w => m.set w.1 w.2) empty

@[simp] theorem ofWrites_nil : ofWrites ([] : List (κ × α)) = empty := rfl

@[simp] theorem ofWrites_concat (ws : List (κ × α)) (w : κ × α) :
    ofWrites (ws ++ [w]) = (ofWrites ws).set w.1 w.2 := by
  simp [ofWrites]

theorem ofWrites_append (ws ws' : List (κ × α)) :
    ofWrites (ws ++ ws') = ws'.foldl (fun m w => m.set w.1 w.2) (ofWrites ws) := by
  simp [ofWrites]

/-- Of the `w` in `ws` with `key w = k`, the last one has `val w = a`. -/
def LastOf (ws : List ω) (key : ω → κ) (k : κ) (val : ω → α) (a : α) : Prop :=
  ∃ before w after, ws = before ++ w :: after ∧ key w = k ∧ val w = a ∧ ∀ v ∈ after, key v ≠ k

omit [DecidableEq κ] in
/-- Two keys that pick out the same elements have the same last one. -/
theorem LastOf.congr {ws : List ω} {key : ω → κ} {k : κ} {key' : ω → β} {k' : β} {val : ω → α}
    {a : α} (h : LastOf ws key k val a) (hkey : ∀ w ∈ ws, key w = k ↔ key' w = k') :
    LastOf ws key' k' val a := by
  obtain ⟨before, w, after, rfl, hw, hval, hafter⟩ := h
  refine ⟨before, w, after, rfl, (hkey w (by simp)).mp hw, hval, ?_⟩
  intro v hv hv'
  exact hafter v hv ((hkey v (by simp [hv])).mpr hv')

omit [DecidableEq κ] in
/-- When no two elements have the same value, an element is the last one with its key if
and only if its key does not come again. -/
theorem lastOf_iff_of_nodup {before after : List ω} {w : ω} {key : ω → κ} {val : ω → α}
    (hnodup : ((before ++ w :: after).map val).Nodup) :
    LastOf (before ++ w :: after) key (key w) val (val w) ↔ ∀ v ∈ after, key v ≠ key w := by
  constructor
  · rintro ⟨before', w', after', heq, -, hval, hafter⟩
    rw [List.map_append, List.map_cons, List.nodup_append, List.nodup_cons] at hnodup
    obtain ⟨-, ⟨hnot, -⟩, hapart⟩ := hnodup
    rcases List.append_eq_append_iff.mp heq with ⟨mid, rfl, hmid⟩ | ⟨mid, rfl, hmid⟩
    · cases mid with
      | nil =>
        obtain ⟨-, rfl⟩ := List.cons.inj hmid
        exact hafter
      | cons v mid =>
        obtain ⟨rfl, rfl⟩ := List.cons.inj hmid
        exact absurd (List.mem_map.mpr ⟨w', by simp, hval⟩) hnot
    · cases mid with
      | nil =>
        obtain ⟨-, rfl⟩ := List.cons.inj hmid
        exact hafter
      | cons v mid =>
        obtain ⟨rfl, rfl⟩ := List.cons.inj hmid
        have hmem : val w' ∈ (before' ++ w' :: mid).map val := List.mem_map.mpr ⟨w', by simp, rfl⟩
        exact absurd hval (hapart _ hmem _ List.mem_cons_self)
  · intro h
    exact ⟨before, w, after, rfl, rfl, rfl, h⟩

/-- The entry found is the last one written. -/
theorem ofWrites_map_eq_some_iff (ws : List ω) (key : ω → κ) (val : ω → α) (k : κ) (a : α) :
    ofWrites (ws.map fun w => (key w, val w)) k = some a ↔ LastOf ws key k val a := by
  induction ws using List.reverseRecOn with
  | nil => simp [LastOf]
  | append_singleton ws w ih =>
    rw [List.map_append, List.map_singleton, ofWrites_concat, set_apply]
    constructor
    · intro h
      split at h
      · rename_i hk
        exact ⟨ws, w, [], rfl, hk.symm, Option.some.inj h, by simp⟩
      · rename_i hk
        obtain ⟨before, v, after, rfl, hv, hval, hafter⟩ := ih.mp h
        refine ⟨before, v, after ++ [w], by simp, hv, hval, ?_⟩
        intro w' hw'
        rcases List.mem_append.mp hw' with hw' | hw'
        · exact hafter w' hw'
        · rw [List.mem_singleton.mp hw']
          exact Ne.symm hk
    · rintro ⟨before, v, after, heq, hv, hval, hafter⟩
      rcases List.concat_eq_append_cons.mp heq with ⟨-, rfl, -⟩ | ⟨after', rfl, rfl⟩
      · rw [if_pos hv.symm, hval]
      · rw [if_neg (Ne.symm (hafter w (by simp)))]
        exact ih.mpr ⟨before, v, after', rfl, hv, hval, fun w' hw' => hafter w' (by simp [hw'])⟩

instance [DecidableEq α] (ws : List ω) (key : ω → κ) (k : κ) (val : ω → α) (a : α) :
    Decidable (LastOf ws key k val a) :=
  decidable_of_iff _ (ofWrites_map_eq_some_iff ws key val k a)

theorem mem_of_ofWrites {ws : List (κ × α)} {k : κ} {a : α} (h : ofWrites ws k = some a) :
    (k, a) ∈ ws := by
  have hmap : ofWrites (ws.map fun w => (w.1, w.2)) k = some a := by
    rw [List.map_id'']
    · exact h
    · exact fun _ => rfl
  obtain ⟨before, w, after, rfl, rfl, rfl, -⟩ := (ofWrites_map_eq_some_iff _ _ _ _ _).mp hmap
  simp

/-- When all writes of a key that come after some point agree, that value is found. -/
theorem ofWrites_append_of_forall (ws ws' : List (κ × α)) {k : κ} {a : α} (h : (k, a) ∈ ws')
    (hall : ∀ b, (k, b) ∈ ws' → b = a) : ofWrites (ws ++ ws') k = some a := by
  induction ws' using List.reverseRecOn with
  | nil => simp at h
  | append_singleton ws' w ih =>
    rw [← List.append_assoc, ofWrites_concat, set_apply]
    by_cases hk : k = w.1
    · rw [if_pos hk, hall w.2 (by simp [hk])]
    · rw [if_neg hk]
      apply ih
      · rcases List.mem_append.mp h with h | h
        · exact h
        · exact absurd (by rw [← List.mem_singleton.mp h]) hk
      · intro b hb
        exact hall b (List.mem_append_left _ hb)

theorem ofWrites_of_forall {ws : List (κ × α)} {k : κ} {a : α} (h : (k, a) ∈ ws)
    (hall : ∀ b, (k, b) ∈ ws → b = a) : ofWrites ws k = some a :=
  ofWrites_append_of_forall [] ws h hall

/-! ## Two indexes of one list -/

section Index

variable [DecidableEq β]

/-- Stores filled from one list, from identifiers to records and from record keys
back to identifiers, are inverse when neither identifiers nor keys repeat. -/
theorem inverse_of_nodup (ws : List ω) (ident : ω → κ) (record : ω → α) (key : α → β)
    (hident : ∀ v ∈ ws, ∀ w ∈ ws, ident v = ident w → v = w)
    (hkey : ∀ v ∈ ws, ∀ w ∈ ws, key (record v) = key (record w) → v = w) :
    let records : Store κ α := ofWrites (ws.map fun w => (ident w, record w))
    let keys : Store β κ := ofWrites (ws.map fun w => (key (record w), ident w))
    (∀ w ∈ ws, ∃ a, records (ident w) = some a ∧ keys (key a) = some (ident w)) ∧
    (∀ b k, keys b = some k →
      (∃ a, records k = some a ∧ key a = b) ∧
      ∀ k' a', records k' = some a' → key a' = b → k' = k) := by
  intro records keys
  have hrecords : ∀ w ∈ ws, records (ident w) = some (record w) := by
    intro w hw
    refine ofWrites_of_forall (List.mem_map.mpr ⟨w, hw, rfl⟩) ?_
    intro a ha
    obtain ⟨v, hv, hva⟩ := List.mem_map.mp ha
    simp only [Prod.mk.injEq] at hva
    rw [← hva.2, hident v hv w hw hva.1]
  have hkeys : ∀ w ∈ ws, keys (key (record w)) = some (ident w) := by
    intro w hw
    refine ofWrites_of_forall (List.mem_map.mpr ⟨w, hw, rfl⟩) ?_
    intro k hk
    obtain ⟨v, hv, hvk⟩ := List.mem_map.mp hk
    simp only [Prod.mk.injEq] at hvk
    rw [← hvk.2, hkey v hv w hw hvk.1]
  refine ⟨fun w hw => ⟨record w, hrecords w hw, hkeys w hw⟩, ?_⟩
  intro b k hb
  obtain ⟨w, hw, hwb⟩ := List.mem_map.mp (mem_of_ofWrites hb)
  simp only [Prod.mk.injEq] at hwb
  obtain ⟨rfl, rfl⟩ := hwb
  refine ⟨⟨record w, hrecords w hw, rfl⟩, ?_⟩
  intro k' a' hk' ha'
  obtain ⟨v, hv, hvk⟩ := List.mem_map.mp (mem_of_ofWrites hk')
  simp only [Prod.mk.injEq] at hvk
  obtain ⟨rfl, rfl⟩ := hvk
  rw [hkey v hv w hw ha']

end Index

end Store
