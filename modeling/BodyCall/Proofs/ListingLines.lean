import BodyCall.Sequence

/-!
# The lines of a listing

A listing has one line for each instruction: its index in a column of its own, and its text. Strings and
messages are quoted, and a quoted text has no line break, so that only the names of scopes and modules
can bring one into a line. Main statement: without line breaks in these, the lines of a listing are the
listed instructions, each behind its index.
-/

namespace BodyCall

/-- The names of a module and of those around it, from the outermost inwards. -/
def Module.names : Module → List String
  | top _ name _ => [name]
  | inside parent _ name _ => parent.names ++ [name]

/-- The names that an instruction shows have no line break. Its strings and messages may have some. -/
def Instr.NamesUnbroken : Instr → Prop
  | define scope => '\n' ∉ scope.name.toList ∧ '\n' ∉ scope.file.toList
  | put (.object m) => ∀ name ∈ m.names, '\n' ∉ name.toList
  | _ => True

def lines (s : String) : List String := (s.split '\n').toList.map String.Slice.copy

/-- The number at the start of a line, behind its blanks. -/
def lineIndex (line : String) : Nat :=
  Nat.ofDigitChars 10 ((line.toList.dropWhile fun c => c = ' ').takeWhile Char.isDigit) 0

/-! ## Texts without line breaks -/

theorem unbroken_digits (n : Nat) : '\n' ∉ Nat.toDigits 10 n :=
  Text.unbroken_toDigits (by decide) (by decide) n

theorem toList_toString (n : Nat) : (toString n).toList = Nat.toDigits 10 n := Nat.toList_repr

theorem unbroken_nat (n : Nat) : '\n' ∉ (toString n).toList := toList_toString n ▸ unbroken_digits n

theorem unbroken_int (n : Int) : '\n' ∉ (toString n).toList := by
  cases n with
  | ofNat n => exact unbroken_nat n
  | negSucc n =>
    change '\n' ∉ ("-" ++ toString (n + 1)).toList
    rw [String.toList_append, List.mem_append]
    exact not_or.mpr ⟨by decide, unbroken_nat (n + 1)⟩

/-- The names of a module run through to its qualified name. -/
theorem Module.unbroken_qualifiedName {m : Module} (names : ∀ name ∈ m.names, '\n' ∉ name.toList) :
    '\n' ∉ m.qualifiedName.toList := by
  induction m with
  | top id name kind => exact names name List.mem_cons_self
  | inside parent id name kind ih =>
    have outer := ih fun other among => names other (List.mem_append_left [name] among)
    have own := names name (List.mem_append_right parent.names List.mem_cons_self)
    simp [qualifiedName, outer, own]

theorem Module.unbroken_text {m : Module} (names : ∀ name ∈ m.names, '\n' ∉ name.toList) :
    '\n' ∉ m.text.toList := by
  have qualified := unbroken_qualifiedName names
  unfold text
  split
  · simp [qualified]
  · exact qualified
  · exact qualified

theorem Scope.unbroken_text {scope : Scope} (name : '\n' ∉ scope.name.toList)
    (file : '\n' ∉ scope.file.toList) : '\n' ∉ scope.text.toList := by
  have kind : '\n' ∉ scope.kind.text.toList := by cases scope.kind <;> decide
  simp [text, kind, name, file, unbroken_digits]

theorem Value.unbroken_text {v : Value} (names : (Instr.put v).NamesUnbroken) :
    '\n' ∉ v.text.toList := by
  cases v with
  | nil => decide
  | bool b => cases b <;> decide
  | int n => exact unbroken_int n
  | str s => exact Text.unbroken_quote s
  | object m => exact Module.unbroken_text names

theorem Instr.unbroken_text {i : Instr} (names : i.NamesUnbroken) : '\n' ∉ i.text.toList := by
  cases i with
  | line n => simp [text, unbroken_digits]
  | put v => simp [text, Value.unbroken_text names]
  | putSelf | pushFrame | popFrame => decide
  | define scope => simp [text, Scope.unbroken_text names.1 names.2]
  | raise message => simp [text, Text.unbroken_quote]

/-! ## Lines with their index -/

theorem listingLine_toList (index : Nat) (i : Instr) :
    (listingLine index i).toList =
      List.leftpad 4 ' ' (Nat.toDigits 10 index) ++ [' ', ' '] ++ i.text.toList := by
  have width : index.repr.length = (Nat.toDigits 10 index).length := by
    rw [← Nat.toList_repr, String.length_toList]
  simp [listingLine, padLeft, List.leftpad, width]

theorem unbroken_listingLine (index : Nat) {i : Instr} (names : i.NamesUnbroken) :
    '\n' ∉ (listingLine index i).toList := by
  rw [listingLine_toList]
  simp [List.leftpad, unbroken_digits, i.unbroken_text names]

theorem lineIndex_listingLine (index : Nat) (i : Instr) :
    lineIndex (listingLine index i) = index := by
  have digits : ∀ c ∈ Nat.toDigits 10 index, c.isDigit = true := fun c among =>
    Nat.isDigit_of_mem_toDigits (by decide) (by decide) among
  have blanks (k : Nat) : ∀ c ∈ List.replicate k ' ', decide (c = ' ') = true := by
    simp [List.mem_replicate]
  have starts (rest : List Char) : (Nat.toDigits 10 index ++ rest).dropWhile (fun c => c = ' ') =
      Nat.toDigits 10 index ++ rest := by
    cases found : Nat.toDigits 10 index with
    | nil => exact absurd found Nat.toDigits_ne_nil
    | cons d ds =>
      have first : d.isDigit = true := digits d (found ▸ List.mem_cons_self)
      have visible : d ≠ ' ' := by
        rintro rfl
        exact absurd first (by decide)
      simp [visible]
  have behind : ([' ', ' '] ++ i.text.toList).takeWhile Char.isDigit = [] := rfl
  unfold lineIndex
  rw [listingLine_toList, List.leftpad, List.append_assoc, List.append_assoc,
    List.dropWhile_append_of_pos (blanks _), starts, List.takeWhile_append_of_pos digits, behind,
    List.append_nil, Nat.ofDigitChars_ten_toDigits]

/-- The lines of a listing are the listed instructions, as the code puts them. -/
theorem lines_listing {instrs : List Instr} (some_instrs : instrs ≠ [])
    (names : ∀ i ∈ instrs, i.NamesUnbroken) :
    lines (listing instrs) = instrs.mapIdx listingLine := by
  have unbroken : ∀ line ∈ instrs.mapIdx listingLine, '\n' ∉ line.toList := by
    intro line among
    obtain ⟨index, inside, rfl⟩ := List.mem_mapIdx.mp among
    exact unbroken_listingLine index (names _ (List.getElem_mem inside))
  have split := String.toList_split_intercalate unbroken
  rw [if_neg (by simp [some_instrs])] at split
  exact split

/-- Without instructions a listing is empty. Otherwise, if no name breaks a line, there are as many
lines as instructions, and each consists of the index of its instruction, filled up with blanks to four
characters on the left, of two blanks and of the text of the instruction. The index can be read off. -/
theorem listing_by_lines (s : Sequence) :
    (s.instrs = [] → s.listing = "") ∧
    (s.instrs ≠ [] → (∀ i ∈ s.instrs, i.NamesUnbroken) →
      (lines s.listing).length = s.instrs.length ∧
      ∀ index i, s.instrs[index]? = some i → ∃ line, (lines s.listing)[index]? = some line ∧
        line.toList = List.leftpad 4 ' ' (Nat.toDigits 10 index) ++ [' ', ' '] ++ i.text.toList ∧
        lineIndex line = index) := by
  refine ⟨fun empty => ?_, fun some_instrs names => ?_⟩
  · rw [Sequence.listing, empty]
    rfl
  · rw [Sequence.listing, lines_listing some_instrs names]
    refine ⟨List.length_mapIdx, fun index i here => ⟨listingLine index i, ?_, ?_, ?_⟩⟩
    · rw [List.getElem?_mapIdx, here]
      rfl
    · exact listingLine_toList index i
    · exact lineIndex_listingLine index i

/-- A string with a line break and what looks like the next line does not add a line. -/
theorem forged_listing_by_lines :
    let m : Module := .inside (.top 0 "Shop" .plain) 1 "Widget" .singleton
    let s : Sequence := ⟨0, "shop.rb", 1, false,
      [.put (.str "a\n   1  put_self"), .define ⟨0, .classBody, "Widget", "shop.rb", 2⟩,
        .put (.object m), .raise "no\n"], ⟨0, true⟩⟩
    s.instrs ≠ [] ∧ (∀ i ∈ s.instrs, i.NamesUnbroken) ∧ (lines s.listing).length = 4 := by
  intro m s
  have some_instrs : s.instrs ≠ [] := List.cons_ne_nil _ _
  have names : ∀ i ∈ s.instrs, i.NamesUnbroken := by
    intro i among
    simp only [s, List.mem_cons, List.not_mem_nil, or_false] at among
    obtain rfl | rfl | rfl | rfl := among
    · trivial
    · exact ⟨by decide, by decide⟩
    · change ∀ name ∈ ["Shop", "Widget"], '\n' ∉ name.toList
      decide
    · trivial
  obtain ⟨-, unbroken⟩ := listing_by_lines s
  exact ⟨some_instrs, names, (unbroken some_instrs names).1⟩

end BodyCall
