import BodyCall.Text.Ranges

/-!
# White space at the ends of a text
-/

namespace BodyCall.Text

/-- The property White_Space. -/
def blankRanges : Ranges :=
  [(0x0009, 0x000D), (0x0020, 0x0020), (0x0085, 0x0085), (0x00A0, 0x00A0), (0x1680, 0x1680),
    (0x2000, 0x200A), (0x2028, 0x2029), (0x202F, 0x202F), (0x205F, 0x205F), (0x3000, 0x3000)]

def isBlank (c : Char) : Bool := blankRanges.contains c

def trimLeft (cs : List Char) : List Char := cs.dropWhile isBlank

def trimRight (cs : List Char) : List Char := (cs.reverse.dropWhile isBlank).reverse

def trim (cs : List Char) : List Char := trimRight (trimLeft cs)

@[simp] theorem trim_nil : trim [] = [] := rfl

theorem trimLeft_of_not_blank {cs : List Char} (h : ∀ c ∈ cs, isBlank c = false) :
    trimLeft cs = cs := by
  cases cs with
  | nil => rfl
  | cons c rest => simp [trimLeft, h c List.mem_cons_self]

theorem trimRight_of_not_blank {cs : List Char} (h : ∀ c ∈ cs, isBlank c = false) :
    trimRight cs = cs := by
  have reversed : trimLeft cs.reverse = cs.reverse :=
    trimLeft_of_not_blank fun c among => h c (List.mem_reverse.mp among)
  change (trimLeft cs.reverse).reverse = cs
  rw [reversed, List.reverse_reverse]

theorem trim_of_not_blank {cs : List Char} (h : ∀ c ∈ cs, isBlank c = false) : trim cs = cs := by
  rw [trim, trimLeft_of_not_blank h, trimRight_of_not_blank h]

theorem trimRight_append_blank {v : List Char} (right : ∀ c ∈ v, isBlank c = true)
    (cs : List Char) : trimRight (cs ++ v) = trimRight cs := by
  have blank : ∀ c ∈ v.reverse, isBlank c = true := fun c among =>
    right c (List.mem_reverse.mp among)
  rw [trimRight, List.reverse_append, List.dropWhile_append_of_pos blank, trimRight]

theorem trim_padded {u v : List Char} (left : ∀ c ∈ u, isBlank c = true)
    (right : ∀ c ∈ v, isBlank c = true) (cs : List Char) : trim (u ++ cs ++ v) = trim cs := by
  rw [trim, trimLeft, List.append_assoc, List.dropWhile_append_of_pos left, List.dropWhile_append]
  split
  next all_blank =>
    -- nothing is left of `cs`, so that `v` goes from the left
    have none_left : trimLeft cs = [] := List.isEmpty_iff.mp all_blank
    have gone : (v ++ []).dropWhile isBlank = [] := List.dropWhile_append_of_pos right
    rw [List.append_nil] at gone
    rw [gone, trim, none_left]
  next => exact trimRight_append_blank right _

theorem trim_map {f : Char → Char} (same : ∀ c, isBlank (f c) = isBlank c) (cs : List Char) :
    trim (cs.map f) = (trim cs).map f := by
  have alike : isBlank ∘ f = isBlank := funext same
  simp [trim, trimLeft, trimRight, List.dropWhile_map, ← List.map_reverse, alike]

end BodyCall.Text
