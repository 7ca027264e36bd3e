/-!
# Tables

Finite maps that keep the order in which their keys were first set.
-/

namespace BodyCall

structure Table (κ α : Type) where
  entries : List (κ × α) := []

namespace Table

variable {κ α : Type} [DecidableEq κ]

def empty : Table κ α := ⟨[]⟩

def lookup (k : κ) : List (κ × α) → Option α
  | [] => none
  | (k', a) :: rest => if k' = k then some a else lookup k rest

/-- Replaces the first entry under a key, or adds one at the end. -/
def assign (k : κ) (a : α) : List (κ × α) → List (κ × α)
  | [] => [(k, a)]
  | (k', a') :: rest => if k' = k then (k, a) :: rest else (k', a') :: assign k a rest

def get? (t : Table κ α) (k : κ) : Option α := lookup k t.entries

def set (t : Table κ α) (k : κ) (a : α) : Table κ α := ⟨assign k a t.entries⟩

def erase (t : Table κ α) (k : κ) : Table κ α := ⟨t.entries.filter fun e => decide (e.1 ≠ k)⟩

def keys (t : Table κ α) : List κ := t.entries.map (·.1)

def values (t : Table κ α) : List α := t.entries.map (·.2)

def size (t : Table κ α) : Nat := t.entries.length

theorem lookup_assign (k k' : κ) (a : α) (entries : List (κ × α)) :
    lookup k' (assign k a entries) = if k = k' then some a else lookup k' entries := by
  induction entries with
  | nil => simp [assign, lookup]
  | cons e rest ih =>
    obtain ⟨k₁, a₁⟩ := e
    by_cases h : k₁ = k
    · subst h
      by_cases h' : k₁ = k' <;> simp [assign, lookup, h']
    · by_cases h' : k₁ = k'
      · subst h'
        have : k ≠ k₁ := fun e => h e.symm
        simp [assign, lookup, h, this]
      · simp [assign, lookup, h, h', ih]

@[simp] theorem get?_set (t : Table κ α) (k k' : κ) (a : α) :
    (t.set k a).get? k' = if k = k' then some a else t.get? k' :=
  lookup_assign k k' a t.entries

@[simp] theorem get?_empty (k : κ) : (empty : Table κ α).get? k = none := rfl

theorem lookup_append (k : κ) (earlier later : List (κ × α)) :
    lookup k (earlier ++ later) = (lookup k earlier).or (lookup k later) := by
  induction earlier with
  | nil => rfl
  | cons e rest ih =>
    rw [List.cons_append, lookup, lookup]
    split
    next => rfl
    next => exact ih

theorem lookup_filter_ne (k k' : κ) (entries : List (κ × α)) :
    lookup k' (entries.filter fun e => decide (e.1 ≠ k)) =
      if k = k' then none else lookup k' entries := by
  induction entries with
  | nil => simp [lookup]
  | cons e rest ih =>
    obtain ⟨k₁, a₁⟩ := e
    by_cases h : k₁ = k
    · subst h
      by_cases h' : k₁ = k' <;> simp_all [lookup]
    · by_cases h' : k₁ = k'
      · subst h'
        have : k ≠ k₁ := fun e => h e.symm
        simp [lookup, h, this]
      · simp_all [lookup]

@[simp] theorem get?_erase (t : Table κ α) (k k' : κ) :
    (t.erase k).get? k' = if k = k' then none else t.get? k' :=
  lookup_filter_ne k k' t.entries

/-- A new key comes after the others. -/
theorem entries_set_of_new {t : Table κ α} {k : κ} (new : k ∉ t.keys) (a : α) :
    (t.set k a).entries = t.entries ++ [(k, a)] := by
  obtain ⟨entries⟩ := t
  simp only [keys, set] at new ⊢
  induction entries with
  | nil => rfl
  | cons e rest ih =>
    rw [List.map_cons, List.mem_cons, not_or] at new
    rw [assign, if_neg fun same => new.1 same.symm, ih new.2, List.cons_append]

theorem keys_set_of_new {t : Table κ α} {k : κ} (new : k ∉ t.keys) (a : α) :
    (t.set k a).keys = t.keys ++ [k] := by
  rw [keys, entries_set_of_new new, List.map_append]
  rfl

theorem get?_eq_none_iff (t : Table κ α) (k : κ) : t.get? k = none ↔ k ∉ t.keys := by
  obtain ⟨entries⟩ := t
  simp only [keys, get?]
  induction entries with
  | nil => simp [lookup]
  | cons e rest ih =>
    obtain ⟨k', a'⟩ := e
    by_cases same : k' = k
    · simp [lookup, same]
    · have other : k ≠ k' := fun h => same h.symm
      simp [lookup, same, other, ih]

theorem keys_set_of_old {t : Table κ α} {k : κ} (old : k ∈ t.keys) (a : α) :
    (t.set k a).keys = t.keys := by
  obtain ⟨entries⟩ := t
  simp only [keys, set] at old ⊢
  induction entries with
  | nil => cases old
  | cons e rest ih =>
    obtain ⟨k', a'⟩ := e
    by_cases same : k' = k
    · simp [assign, same]
    · have later : k ∈ rest.map (·.1) := by
        rcases List.mem_cons.mp old with here | later
        · exact absurd here.symm same
        · exact later
      rw [assign, if_neg same, List.map_cons, ih later]
      rfl

theorem nodup_keys_set {t : Table κ α} (distinct : t.keys.Nodup) (k : κ) (a : α) :
    (t.set k a).keys.Nodup := by
  by_cases old : k ∈ t.keys
  · rw [keys_set_of_old old]
    exact distinct
  · rw [keys_set_of_new old, List.nodup_append]
    refine ⟨distinct, by simp, ?_⟩
    rintro k' among k'' here rfl
    exact old (List.mem_singleton.mp here ▸ among)

theorem mem_values {t : Table κ α} {k : κ} {a : α} (found : t.get? k = some a) : a ∈ t.values := by
  obtain ⟨entries⟩ := t
  simp only [values, get?] at found ⊢
  induction entries with
  | nil => cases found
  | cons e rest ih =>
    obtain ⟨k', a'⟩ := e
    rw [lookup] at found
    split at found
    next =>
      cases found
      exact List.mem_cons_self
    next => exact List.mem_cons_of_mem a' (ih found)

/-- Setting a key loses no value but the one that is there. -/
theorem mem_values_set {t : Table κ α} {b : α} (among : b ∈ t.values) (k : κ) (a : α) :
    b ∈ (t.set k a).values ∨ t.get? k = some b := by
  obtain ⟨entries⟩ := t
  simp only [values, set, get?] at among ⊢
  induction entries with
  | nil => cases among
  | cons e rest ih =>
    obtain ⟨k', a'⟩ := e
    by_cases same : k' = k
    · rcases List.mem_cons.mp among with rfl | later
      · exact .inr (by rw [lookup, if_pos same])
      · exact .inl (by rw [assign, if_pos same]; exact List.mem_cons_of_mem a later)
    · rw [assign, if_neg same, lookup, if_neg same]
      rcases List.mem_cons.mp among with rfl | later
      · exact .inl List.mem_cons_self
      · exact (ih later).imp_left (List.mem_cons_of_mem a')

/-- In a table without two entries under one key every value can be looked up. -/
theorem get?_of_mem_values {t : Table κ α} (distinct : t.keys.Nodup) {a : α} (among : a ∈ t.values) :
    ∃ k, t.get? k = some a := by
  obtain ⟨entries⟩ := t
  simp only [keys, values, get?] at distinct among ⊢
  induction entries with
  | nil => cases among
  | cons e rest ih =>
    obtain ⟨k, a'⟩ := e
    rw [List.map_cons, List.nodup_cons] at distinct
    rcases List.mem_cons.mp among with rfl | later
    · exact ⟨k, by simp [lookup]⟩
    · obtain ⟨k', found⟩ := ih distinct.2 later
      refine ⟨k', ?_⟩
      rw [lookup, if_neg]
      · exact found
      · rintro rfl
        have absent := (get?_eq_none_iff ⟨rest⟩ k).mpr distinct.1
        rw [get?, found] at absent
        cases absent

end Table

end BodyCall
