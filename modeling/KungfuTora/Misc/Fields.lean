import Mathlib.Algebra.Ring.Nat
import Mathlib.Data.List.Basic

/-!
# Tagged fields between separators

A record as one text: each value stands behind a tag of its own, and a separator stands
between the fields. A text reads as some values exactly if it is their text and none of
them contains the separator (`splitFields_eq_some_iff`); so the text of a record can be
read at all exactly if no value does (`splitFields_joinFields`).
-/

variable {α : Type} [DecidableEq α] {sep : α} {tags values : List (List α)}

/-- The text of a record. -/
def joinFields (sep : α) (tags values : List (List α)) : List α :=
  [sep].intercalate (List.zipWith (· ++ ·) tags values)

/-- Each part without its tag. -/
def readFields : List (List α) → List (List α) → Option (List (List α))
  | [], [] => some []
  | tag :: tags, part :: parts => do
    let value ← part.dropPrefix? tag
    let values ← readFields tags parts
    return value :: values
  | _, _ => none

/-- The values that a text has behind the tags. -/
def splitFields (sep : α) (tags : List (List α)) (text : List α) : Option (List (List α)) :=
  readFields tags (text.splitOn sep)

theorem dropPrefix?_eq_some (part tag value : List α) :
    part.dropPrefix? tag = some value ↔ part = tag ++ value := by
  rw [List.dropPrefix?_eq_some_iff]
  constructor
  · rintro ⟨tag', rfl, htag⟩
    rw [eq_of_beq htag]
  · rintro rfl
    exact ⟨tag, rfl, beq_self_eq_true tag⟩

theorem readFields_eq_some_iff {parts : List (List α)} :
    readFields tags parts = some values ↔
      values.length = tags.length ∧ parts = List.zipWith (· ++ ·) tags values := by
  induction tags generalizing parts values with
  | nil =>
    cases parts <;> cases values <;> simp [readFields]
  | cons tag tags ih =>
    cases parts with
    | nil => cases values <;> simp [readFields]
    | cons part parts =>
      simp only [readFields, Option.bind_eq_bind, Option.bind_eq_some_iff, Option.pure_def,
        Option.some.injEq, ih, dropPrefix?_eq_some]
      constructor
      · rintro ⟨value, rfl, rest, ⟨hlength, rfl⟩, rfl⟩
        exact ⟨by simp [hlength], rfl⟩
      · rintro ⟨hlength, hparts⟩
        cases values with
        | nil => simp at hlength
        | cons value rest =>
          obtain ⟨hpart, hrest⟩ := List.cons.inj hparts
          exact ⟨value, hpart, rest, ⟨Nat.succ.inj hlength, hrest⟩, rfl⟩

/-- No part between separators contains one. -/
theorem not_mem_of_mem_splitOn {text part : List α} (h : part ∈ text.splitOn sep) :
    sep ∉ part := by
  induction text generalizing part with
  | nil =>
    rw [List.splitOn_nil, List.mem_singleton] at h
    simp [h]
  | cons a text ih =>
    rw [List.splitOn_cons_eq_if_modifyHead] at h
    split at h
    · rcases List.mem_cons.mp h with rfl | h
      · simp
      · exact ih h
    · rename_i ha
      cases hparts : text.splitOn sep with
      | nil => exact absurd hparts (List.splitOn_ne_nil sep text)
      | cons first rest =>
        rw [hparts] at h ih
        rcases List.mem_cons.mp h with rfl | h
        · have hfirst := ih List.mem_cons_self
          have hne : sep ≠ a := fun heq => ha (by simp [heq])
          simp [hfirst, hne]
        · exact ih (List.mem_cons_of_mem _ h)

omit [DecidableEq α] in
theorem mem_zipWith_append_iff (hlength : values.length = tags.length)
    (htags : ∀ tag ∈ tags, sep ∉ tag) :
    (∀ part ∈ List.zipWith (· ++ ·) tags values, sep ∉ part) ↔ ∀ value ∈ values, sep ∉ value := by
  induction tags generalizing values with
  | nil =>
    obtain rfl : values = [] := List.length_eq_zero_iff.mp hlength
    simp
  | cons tag tags ih =>
    cases values with
    | nil => simp at hlength
    | cons value values =>
      obtain ⟨htag, htags⟩ := List.forall_mem_cons.mp htags
      simp only [List.zipWith_cons_cons, List.forall_mem_cons, List.mem_append, htag, false_or,
        ih (Nat.succ.inj hlength) htags]

omit [DecidableEq α] in
/-- What is in a text of parts. -/
theorem mem_intercalate {parts : List (List α)} {a : α} (h : a ∈ [sep].intercalate parts) :
    a = sep ∨ ∃ part ∈ parts, a ∈ part := by
  induction parts with
  | nil => simp at h
  | cons part parts ih =>
    cases parts with
    | nil => exact Or.inr ⟨part, by simp, by simpa using h⟩
    | cons next parts =>
      rw [List.intercalate_cons_cons, List.mem_append, List.mem_append, List.mem_singleton] at h
      rcases h with (h | h) | h
      · exact Or.inr ⟨part, List.mem_cons_self, h⟩
      · exact Or.inl h
      · refine (ih h).imp_right ?_
        rintro ⟨other, hother, ha⟩
        exact ⟨other, List.mem_cons_of_mem _ hother, ha⟩

/-- What a text reads as is what it is the text of. -/
theorem splitFields_eq_some_iff (hne : tags ≠ []) (htags : ∀ tag ∈ tags, sep ∉ tag)
    {text : List α} :
    splitFields sep tags text = some values ↔
      values.length = tags.length ∧ (∀ value ∈ values, sep ∉ value) ∧
        text = joinFields sep tags values := by
  unfold splitFields joinFields
  rw [readFields_eq_some_iff]
  refine and_congr_right fun hlength => ?_
  rw [← mem_zipWith_append_iff hlength htags]
  constructor
  · intro hparts
    rw [← hparts]
    exact ⟨fun part hpart => not_mem_of_mem_splitOn hpart, (List.intercalate_splitOn sep).symm⟩
  · rintro ⟨hnone, rfl⟩
    refine List.splitOn_intercalate sep hnone ?_
    cases tags with
    | nil => exact absurd rfl hne
    | cons tag tags =>
      cases values with
      | nil => simp at hlength
      | cons value values => simp

/-- How often the separator occurs in the text of a record. -/
theorem count_intercalate (parts : List (List α)) :
    ([sep].intercalate parts).count sep = (parts.length - 1) + (parts.map (List.count sep)).sum := by
  induction parts with
  | nil => rfl
  | cons part parts ih =>
    cases parts with
    | nil => simp
    | cons next parts =>
      rw [List.intercalate_cons_cons, List.count_append, List.count_append, ih]
      simp only [List.count_singleton_self, List.length_cons, List.map_cons, List.sum_cons]
      omega

/-- The text of a record can be read exactly if no value contains the separator. -/
theorem splitFields_joinFields (hne : tags ≠ []) (htags : ∀ tag ∈ tags, sep ∉ tag)
    (hlength : values.length = tags.length) :
    (splitFields sep tags (joinFields sep tags values)).isSome ↔ ∀ value ∈ values, sep ∉ value := by
  constructor
  · intro h
    obtain ⟨read, hread⟩ := Option.isSome_iff_exists.mp h
    obtain ⟨hlength', hnone, htext⟩ := (splitFields_eq_some_iff hne htags).mp hread
    -- both texts have as many separators, and those of `read` stand between its fields only
    have hparts := (mem_zipWith_append_iff hlength' htags).mpr hnone
    have hcount := congrArg (List.count sep) htext
    simp only [joinFields, count_intercalate, List.length_zipWith, hlength, hlength'] at hcount
    have hzero : (List.map (List.count sep) (List.zipWith (· ++ ·) tags read)).sum = 0 := by
      rw [List.sum_eq_zero_iff_forall_eq_nat]
      intro n hn
      obtain ⟨part, hpart, rfl⟩ := List.mem_map.mp hn
      exact List.count_eq_zero.mpr (hparts part hpart)
    rw [hzero, Nat.add_left_cancel_iff, List.sum_eq_zero_iff_forall_eq_nat] at hcount
    refine (mem_zipWith_append_iff hlength htags).mp ?_
    intro part hpart
    exact List.count_eq_zero.mp (hcount _ (List.mem_map_of_mem hpart))
  · intro hnone
    rw [(splitFields_eq_some_iff hne htags).mpr ⟨hlength, hnone, rfl⟩]
    rfl
