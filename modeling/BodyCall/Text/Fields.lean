/-!
# Fields of a separated list
-/

namespace BodyCall.Text

/-- The parts between the separators. There is one more of them than there are separators. -/
def fields (sep : Char) : List Char → List (List Char)
  | [] => [[]]
  | c :: cs =>
    if c = sep then [] :: fields sep cs
    else match fields sep cs with
      | [] => [[c]]
      | first :: rest => (c :: first) :: rest

theorem fields_ne_nil (sep : Char) (cs : List Char) : fields sep cs ≠ [] := by
  cases cs with
  | nil => simp [fields]
  | cons c cs =>
    simp only [fields]
    split
    · simp
    · split <;> simp

theorem fields_append (sep : Char) (a b : List Char) :
    fields sep (a ++ sep :: b) = fields sep a ++ fields sep b := by
  induction a with
  | nil => simp [fields]
  | cons c a ih =>
    simp only [List.cons_append, fields]
    split
    · simp [ih]
    · rw [ih]
      cases h : fields sep a with
      | nil => exact absurd h (fields_ne_nil sep a)
      | cons first rest => rfl

theorem fields_eq_splitOn (sep : Char) (cs : List Char) : fields sep cs = cs.splitOn sep := by
  induction cs with
  | nil => rfl
  | cons c cs ih =>
    rw [List.splitOn_cons_eq_if_modifyHead, ← ih]
    by_cases here : c = sep
    · simp [fields, here]
    · cases behind : fields sep cs with
      | nil => exact absurd behind (fields_ne_nil sep cs)
      | cons first rest => simp [fields, here, behind]

theorem fields_of_not_mem {sep : Char} {cs : List Char} (h : sep ∉ cs) : fields sep cs = [cs] := by
  rw [fields_eq_splitOn, List.splitOn_eq_singleton h]

theorem fields_map {sep : Char} {f : Char → Char} (same : ∀ c, f c = sep ↔ c = sep)
    (cs : List Char) : fields sep (cs.map f) = (fields sep cs).map (List.map f) := by
  induction cs with
  | nil => rfl
  | cons c cs ih =>
    by_cases here : c = sep
    · simp [fields, here, (same sep).mpr rfl, ih]
    · cases behind : fields sep cs with
      | nil => exact absurd behind (fields_ne_nil sep cs)
      | cons first rest => simp [fields, here, same, ih, behind]

end BodyCall.Text
