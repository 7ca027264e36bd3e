import BodyCall.LogRecord
import Mathlib.Data.List.Forall2

/-!
# Switch words

Reading a list of debug switches turns the comma into a union: what two lists with a comma between
them switch on, and complain about, is what either does. So a list means what its parts mean. The order
of the parts and their number do not matter, nor do the white space around a part, the case of its
ASCII letters, and parts that are empty or unknown, but for the complaint about an unknown one.
-/

namespace BodyCall.DebugSwitches

open Text

/-- The word that a part is read as. -/
def word (part : String) : String := String.ofList (lowercase (trim part.toList))

/-- The parts of a list, as they stand between its commas. -/
def parts (s : String) : List String := (s.split ',').toList.map String.Slice.copy

/-- A list with these parts. -/
def joined (parts : List String) : String := ",".intercalate parts

def executionWords : List String := ["exec", "execution", "all"]

def irWords : List String := ["ir", "all"]

def knownWords : List String := ["", "exec", "execution", "ir", "all"]

/-- No part of the text switches anything on: each is empty or unknown. -/
def Idle (s : String) : Prop := ∀ p ∈ parts s, word p ∉ executionWords ++ irWords

/-- `q` is `p` with other white space around it, and with ASCII letters in another case. -/
def Respelled (p q : String) : Prop :=
  ∃ u a v : List Char, (∀ c ∈ u, isBlank c = true) ∧ (∀ c ∈ v, isBlank c = true) ∧
    q.toList = u ++ a ++ v ∧ a.map Char.toLower = p.toList.map Char.toLower

/-! ## Words of joined lists -/

theorem words_eq (s : String) : words s = (parts s).map word := by
  rw [parts, String.toList_split_char, words, fields_eq_splitOn, List.map_map]
  apply List.map_congr_left
  intro part _
  rw [Function.comp_apply, word, String.toList_ofList]

theorem words_append (a b : String) : words (a ++ "," ++ b) = words a ++ words b := by
  have apart : (a ++ "," ++ b).toList = a.toList ++ ',' :: b.toList := by simp
  rw [words, apart, fields_append, List.map_append, words, words]

theorem words_empty : words "" = [""] := rfl

theorem words_joined {ps : List String} (some_parts : ps ≠ []) :
    words (joined ps) = ps.flatMap words := by
  induction ps with
  | nil => exact absurd rfl some_parts
  | cons p rest ih =>
    cases rest with
    | nil => simp [joined]
    | cons q rest =>
      have first : joined (p :: q :: rest) = p ++ "," ++ joined (q :: rest) :=
        String.intercalate_cons_cons
      rw [first, words_append, ih (List.cons_ne_nil q rest)]
      rfl

/-- A word of a list is a word of one of its parts. Only a list without parts has an empty word of its
own. -/
theorem mem_words_joined {w : String} (some_text : w ≠ "") (ps : List String) :
    w ∈ words (joined ps) ↔ ∃ p ∈ ps, w ∈ words p := by
  by_cases none_left : ps = []
  · simp [none_left, joined, words_empty, some_text]
  · rw [words_joined none_left, List.mem_flatMap]

/-! ## Words however they are spelled -/

/-- The word of a part that is given as characters. -/
def readPart (part : List Char) : String := String.ofList (lowercase (trim part))

theorem readPart_map_toLower (cs : List Char) : readPart (cs.map Char.toLower) = readPart cs := by
  rw [readPart, trim_map isBlank_toLower, lowercase_map_toLower, readPart]

theorem readPart_padded {u v : List Char} (left : ∀ c ∈ u, isBlank c = true)
    (right : ∀ c ∈ v, isBlank c = true) (a : List Char) : readPart (u ++ a ++ v) = readPart a := by
  rw [readPart, trim_padded left right, readPart]

theorem not_blank_comma {u : List Char} (blank : ∀ c ∈ u, isBlank c = true) : ',' ∉ u :=
  fun among => absurd (blank ',' among) (by decide)

/-- White space at the ends of a list is trimmed off with that of its outermost parts. -/
theorem fields_padded {u v : List Char} (left : ∀ c ∈ u, isBlank c = true)
    (right : ∀ c ∈ v, isBlank c = true) (a : List Char) :
    (fields ',' (u ++ a ++ v)).map readPart = (fields ',' a).map readPart := by
  by_cases comma : ',' ∈ a
  · -- `u` goes with the first part, and what follows that has padding on its right only
    obtain ⟨first, rest, rfl, single⟩ := List.eq_append_cons_of_mem comma
    have shorter : rest.length < (first ++ ',' :: rest).length := by simp; omega
    have behind := fields_padded (u := []) (v := v) nofun right rest
    have before := readPart_padded (u := u) (v := []) left nofun first
    have alone : ',' ∉ u ++ first := by simp [not_blank_comma left, single]
    have regroup : u ++ (first ++ ',' :: rest) ++ v = u ++ first ++ ',' :: (rest ++ v) := by simp
    rw [List.append_nil] at before
    rw [List.nil_append] at behind
    rw [regroup, fields_append, fields_append, fields_of_not_mem alone, fields_of_not_mem single,
      List.map_append, List.map_append, behind, List.map_singleton, List.map_singleton, before]
  · have alone : ',' ∉ u ++ a ++ v := by simp [not_blank_comma left, not_blank_comma right, comma]
    rw [fields_of_not_mem alone, fields_of_not_mem comma, List.map_singleton, List.map_singleton,
      readPart_padded left right]
termination_by a.length

theorem words_respelled {p q : String} (same : Respelled p q) : words q = words p := by
  obtain ⟨u, a, v, left, right, spelling, letters⟩ := same
  have comma (c : Char) : c.toLower = ',' ↔ c = ',' := toLower_eq_iff (by decide)
  have lowered (cs : List Char) :
      (fields ',' (cs.map Char.toLower)).map readPart = (fields ',' cs).map readPart := by
    rw [fields_map comma, List.map_map]
    exact List.map_congr_left fun part _ => readPart_map_toLower part
  calc words q = (fields ',' (u ++ a ++ v)).map readPart := by rw [← spelling]; rfl
    _ = (fields ',' a).map readPart := fields_padded left right a
    _ = (fields ',' (p.toList.map Char.toLower)).map readPart := by rw [← letters, lowered]
    _ = words p := lowered p.toList

/-! ## What words switch on -/

/-- A switch that is off at first, and that each of these words turns on. -/
structure TurnedOnBy (switch : DebugSwitches → Bool) (names : List String) : Prop where
  off : switch off = false
  union : ∀ a b : DebugSwitches, switch (a.union b) = (switch a || switch b)
  word : ∀ w, (ofWord? w).any switch = true ↔ w ∈ names

theorem execution_turnedOn : TurnedOnBy execution executionWords where
  off := rfl
  union _ _ := rfl
  word w := by
    unfold ofWord? executionWords
    grind [DebugSwitches.off]

theorem ir_turnedOn : TurnedOnBy ir irWords where
  off := rfl
  union _ _ := rfl
  word w := by
    unfold ofWord? irWords
    grind [DebugSwitches.off]

/-- Both switches are told apart by what turns them on. -/
theorem eq_of_switches {a b : DebugSwitches}
    (same : ∀ switch names, TurnedOnBy switch names → (switch a = true ↔ switch b = true)) :
    a = b := by
  have execution_same := Bool.eq_iff_iff.mpr (same _ _ execution_turnedOn)
  have ir_same := Bool.eq_iff_iff.mpr (same _ _ ir_turnedOn)
  cases a
  cases b
  cases execution_same
  cases ir_same
  rfl

namespace TurnedOnBy

variable {switch : DebugSwitches → Bool} {names : List String} (h : TurnedOnBy switch names)

include h

theorem fold (known : List DebugSwitches) (start : DebugSwitches) :
    switch (known.foldl DebugSwitches.union start) = (switch start || known.any switch) := by
  induction known generalizing start with
  | nil => simp
  | cons d rest ih => rw [List.foldl_cons, ih, h.union, List.any_cons, Bool.or_assoc]

theorem parse_iff (s : String) : switch (parse s) = true ↔ ∃ w ∈ words s, w ∈ names := by
  rw [parse, h.fold, h.off, Bool.false_or, List.any_eq_true]
  constructor
  · rintro ⟨d, known, on⟩
    obtain ⟨w, among, found⟩ := List.mem_filterMap.mp known
    exact ⟨w, among, (h.word w).mp (by rw [found]; exact on)⟩
  · rintro ⟨w, among, named⟩
    obtain ⟨d, found, on⟩ := (Option.any_eq_true _ _).mp ((h.word w).mpr named)
    exact ⟨d, List.mem_filterMap.mpr ⟨w, among, found⟩, on⟩

theorem parts_iff (s : String) :
    switch (parse s) = true ↔ ∃ p ∈ parts s, DebugSwitches.word p ∈ names := by
  rw [h.parse_iff, words_eq]
  constructor
  · rintro ⟨w, among, named⟩
    obtain ⟨p, part, rfl⟩ := List.mem_map.mp among
    exact ⟨p, part, named⟩
  · rintro ⟨p, part, named⟩
    exact ⟨_, List.mem_map_of_mem part, named⟩

theorem append_iff (a b : String) :
    switch (parse (a ++ "," ++ b)) = true ↔ switch (parse a) = true ∨ switch (parse b) = true := by
  rw [h.parse_iff, h.parse_iff, h.parse_iff, words_append]
  simp only [List.mem_append, or_and_right, exists_or]

theorem joined_iff (ps : List String) :
    switch (parse (joined ps)) = true ↔ ∃ p ∈ ps, switch (parse p) = true := by
  have nameless : "" ∉ names := fun empty => by simpa [ofWord?, h.off] using (h.word "").mpr empty
  have some_text (w : String) (named : w ∈ names) : w ≠ "" := fun empty => nameless (empty ▸ named)
  simp only [h.parse_iff]
  constructor
  · rintro ⟨w, among, named⟩
    obtain ⟨p, part, within⟩ := (mem_words_joined (some_text w named) ps).mp among
    exact ⟨p, part, w, within, named⟩
  · rintro ⟨p, part, w, within, named⟩
    exact ⟨w, (mem_words_joined (some_text w named) ps).mpr ⟨p, part, within⟩, named⟩

end TurnedOnBy

theorem unknownWords_eq (s : String) :
    unknownWords s = ((parts s).map word).filter fun w => w ∉ knownWords := by
  rw [unknownWords, words_eq]
  apply List.filter_congr
  intro w _
  unfold ofWord? knownWords
  grind

theorem bits_testBit (d : DebugSwitches) (k : Nat) :
    d.bits.testBit k = true ↔ k = 0 ∧ d.execution = true ∨ k = 1 ∧ d.ir = true := by
  obtain ⟨execution, ir⟩ := d
  rcases k with _ | _ | k
  · cases execution <;> cases ir <;> decide
  · cases execution <;> cases ir <;> decide
  · have small : bits ⟨execution, ir⟩ < 2 ^ (k + 2) := by
      have few : bits ⟨execution, ir⟩ < 2 ^ 2 := by cases execution <;> cases ir <;> decide
      exact Nat.lt_of_lt_of_le few (Nat.pow_le_pow_right Nat.two_pos (by omega))
    simp [Nat.testBit_lt_two_pow small]

/-! ## Lists and their parts -/

theorem parse_append (a b : String) : parse (a ++ "," ++ b) = (parse a).union (parse b) := by
  apply eq_of_switches
  intro switch names h
  rw [h.append_iff, h.union, Bool.or_eq_true]

theorem unknownWords_append (a b : String) :
    unknownWords (a ++ "," ++ b) = unknownWords a ++ unknownWords b := by
  rw [unknownWords, words_append, List.filter_append, unknownWords, unknownWords]

theorem words_joined_respelled {ps qs : List String} (same : List.Forall₂ Respelled ps qs) :
    words (joined qs) = words (joined ps) := by
  have each : qs.map words = ps.map words := by
    induction same with
    | nil => rfl
    | cons part _ ih => rw [List.map_cons, List.map_cons, words_respelled part, ih]
  cases same with
  | nil => rfl
  | cons =>
    rw [words_joined (List.cons_ne_nil _ _), words_joined (List.cons_ne_nil _ _), List.flatMap_def,
      List.flatMap_def, each]

theorem parse_idle {s : String} (idle : Idle s) : parse s = off := by
  have no_word (p : String) (part : p ∈ parts s) := List.mem_append.not.mp (idle p part)
  have no_execution : (parse s).execution ≠ true := fun on => by
    obtain ⟨p, part, named⟩ := (execution_turnedOn.parts_iff s).mp on
    exact no_word p part (.inl named)
  have no_ir : (parse s).ir ≠ true := fun on => by
    obtain ⟨p, part, named⟩ := (ir_turnedOn.parts_iff s).mp on
    exact no_word p part (.inr named)
  cases found : parse s with
  | mk execution ir =>
    rw [found] at no_execution no_ir
    have execution_off : execution = false := eq_false_of_ne_true no_execution
    have ir_off : ir = false := eq_false_of_ne_true no_ir
    rw [execution_off, ir_off]
    rfl

/-- Joining lists by a comma unites what they switch on, and puts their complaints one after the other.
Lists with the same parts switch on the same, in any order and number. A list whose parts are spelled
otherwise means and complains about the same. Idle parts can be put in anywhere, and parts that are put
in switch nothing off. A switch is on if a part has one of its words, and there are no others. Each
part that is neither empty nor known is complained about in its place, by its word. -/
theorem parse_by_parts :
    (∀ a b, parse (a ++ "," ++ b) = (parse a).union (parse b) ∧
      unknownWords (a ++ "," ++ b) = unknownWords a ++ unknownWords b) ∧
    (∀ ps qs, (∀ p, p ∈ ps ↔ p ∈ qs) → parse (joined ps) = parse (joined qs)) ∧
    (∀ ps qs, List.Forall₂ Respelled ps qs → parse (joined qs) = parse (joined ps) ∧
      unknownWords (joined qs) = unknownWords (joined ps)) ∧
    (∀ ps idle qs, Idle idle → parse (joined (ps ++ idle :: qs)) = parse (joined (ps ++ qs))) ∧
    (∀ ps qs, ps ⊆ qs → (parse (joined ps)).union (parse (joined qs)) = parse (joined qs)) ∧
    ∀ s,
      ((parse s).execution = true ↔ ∃ p ∈ parts s, word p ∈ ["exec", "execution", "all"]) ∧
      ((parse s).ir = true ↔ ∃ p ∈ parts s, word p ∈ ["ir", "all"]) ∧
      (∀ k, (parse s).bits.testBit k = true ↔
        k = 0 ∧ (parse s).execution = true ∨ k = 1 ∧ (parse s).ir = true) ∧
      (Reading.ofVariables (some s) none).settings.debug = parse s ∧
      (Reading.ofVariables (some s) none).records =
        (((parts s).map word).filter fun w => w ∉ ["", "exec", "execution", "ir", "all"]).map
          .unknownFlag := by
  refine ⟨fun a b => ⟨parse_append a b, unknownWords_append a b⟩, ?_, ?_, ?_, ?_, fun s => ?_⟩
  · intro ps qs same
    apply eq_of_switches
    intro switch names h
    simp only [h.joined_iff, same]
  · intro ps qs same
    have words_same := words_joined_respelled same
    exact ⟨by rw [parse, words_same, parse], by rw [unknownWords, words_same, unknownWords]⟩
  · intro ps idle qs nothing
    apply eq_of_switches
    intro switch names h
    have stays_off : switch (parse idle) ≠ true := by
      rw [parse_idle nothing, h.off]
      exact Bool.false_ne_true
    simp [h.joined_iff, or_and_right, exists_or, stays_off]
  · intro ps qs within
    apply eq_of_switches
    intro switch names h
    rw [h.union, Bool.or_eq_true, or_iff_right_iff_imp, h.joined_iff, h.joined_iff]
    exact fun ⟨p, part, on⟩ => ⟨p, within part, on⟩
  · refine ⟨execution_turnedOn.parts_iff s, ir_turnedOn.parts_iff s, bits_testBit _, rfl, ?_⟩
    exact congrArg (List.map LogRecord.unknownFlag) (unknownWords_eq s)

/-- One list in another order, in other letters, with a part in it that is not known, and cut short. -/
theorem shouted_parse_by_parts :
    let ps := ["exec", "ir", "exec"]
    let qs := ["ir", "exec"]
    let shouted := ["\tIR ", "eXec"]
    ((∀ p, p ∈ ps ↔ p ∈ qs) ∧ parse (joined ps) = parse (joined qs)) ∧
    (List.Forall₂ Respelled qs shouted ∧ parse (joined shouted) = parse (joined qs)) ∧
    (Idle " Warp" ∧ parse (joined ["ir", " Warp", "exec"]) = parse (joined qs)) ∧
    (["ir"] ⊆ qs ∧ (parse (joined ["ir"])).union (parse (joined qs)) = parse (joined qs)) := by
  intro ps qs shouted
  obtain ⟨-, order, spelling, insertion, more, -⟩ := parse_by_parts
  have same_parts : ∀ p, p ∈ ps ↔ p ∈ qs := by simp [ps, qs, or_comm]
  have respelled : List.Forall₂ Respelled qs shouted :=
    .cons ⟨['\t'], ['I', 'R'], [' '], List.all_eq_true.mp rfl, List.all_eq_true.mp rfl, rfl, by decide⟩
      (.cons ⟨[], ['e', 'X', 'e', 'c'], [], nofun, nofun, rfl, by decide⟩ .nil)
  have idle : Idle " Warp" := by
    intro p part
    have read : words " Warp" = ["warp"] := by decide
    have among : word p ∈ words " Warp" := words_eq " Warp" ▸ List.mem_map_of_mem part
    rw [read] at among
    have only : word p = "warp" := List.mem_singleton.mp among
    rw [only]
    decide
  have fewer : ["ir"] ⊆ qs := by simp [qs]
  exact ⟨⟨same_parts, order ps qs same_parts⟩,
    ⟨respelled, (spelling qs shouted respelled).1⟩,
    ⟨idle, insertion ["ir"] " Warp" ["exec"] idle⟩,
    ⟨fewer, more ["ir"] qs fewer⟩⟩

end BodyCall.DebugSwitches
