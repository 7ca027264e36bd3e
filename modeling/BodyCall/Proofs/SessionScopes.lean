import BodyCall.Proofs.Invariants
import BodyCall.Session.Plain

/-!
# The scopes of a session

A session makes its scopes one after the other, each with the next identity. What it has named,
prepared and installed defines no other scopes, so no run comes to one that the session has not made.
-/

namespace BodyCall

/-- The scopes are told apart by their identities, and all code defines only these. -/
structure Scoped (scopes : List Scope) (st : Store) : Prop where
  numbered : ∀ scope ∈ scopes, scope.id < st.nextScope
  identified : ∀ scope ∈ scopes, ∀ scope' ∈ scopes, scope.id = scope'.id → scope = scope'
  named : ∀ name scope, st.registry.scopes.get? name = some scope → scope ∈ scopes
  prepared : ∀ id l, st.registry.sources.get? id = some (.prepared l) → l.StaysIn (· ∈ scopes)
  sequences : ∀ name seq, st.registry.sequences.get? name = some seq → seq.StaysIn (· ∈ scopes)
  installed : st.Installs fun l => l.StaysIn (· ∈ scopes)

/-! ## Code that is written down -/

theorem mem_of_mapM_ok {α β ε : Type} {f : α → Except ε β} {as : List α} {bs : List β}
    (mapped : as.mapM f = .ok bs) {b : β} (among : b ∈ bs) : ∃ a ∈ as, f a = .ok b := by
  induction as generalizing bs with
  | nil =>
    cases mapped
    cases among
  | cons a rest ih =>
    rw [List.mapM_cons] at mapped
    cases first : f a with
    | error e =>
      rw [first] at mapped
      cases mapped
    | ok b' =>
      cases later : rest.mapM f with
      | error e =>
        rw [first, later] at mapped
        cases mapped
      | ok bs' =>
        rw [first, later] at mapped
        cases mapped
        rcases List.mem_cons.mp among with rfl | among
        · exact ⟨a, List.mem_cons_self, first⟩
        · obtain ⟨a', among, same⟩ := ih later among
          exact ⟨a', List.mem_cons_of_mem a among, same⟩

namespace Registry

variable {g : Registry}

theorem instr_define {i : InstrLiteral} {scope : Scope} (read : g.instr i = .ok (.define scope)) :
    ∃ name, g.scopes.get? name = some scope := by
  cases i with
  | define name =>
    cases found : g.scopes.find name with
    | error name =>
      rw [instr, found] at read
      cases read
    | ok scope' =>
      rw [instr, found] at read
      cases read
      exact ⟨name, Table.find_ok found⟩
  | put v =>
    cases value : g.value v <;> rw [instr, value] at read <;> cases read
  | line _ | putSelf | pushFrame | popFrame | raise _ => cases read

/-- Code that is read defines scopes that have a name. -/
theorem lowered_stays {explicit : Bool} {instrs : List InstrLiteral} {l : Lowered}
    (read : g.lowered explicit instrs = .ok l) :
    l.StaysIn fun scope => ∃ name, g.scopes.get? name = some scope := by
  unfold lowered at read
  cases mapped : instrs.mapM g.instr with
  | error name =>
    rw [mapped] at read
    cases read
  | ok is =>
    rw [mapped] at read
    cases read
    intro scope among
    obtain ⟨i, -, read⟩ := mem_of_mapM_ok mapped among
    exact instr_define read

end Registry

namespace Scoped

variable {scopes : List Scope} {st st' : Store}

theorem lowered (h : Scoped scopes st) {explicit : Bool} {instrs : List InstrLiteral} {l : Lowered}
    (read : st.registry.lowered explicit instrs = .ok l) : l.StaysIn (· ∈ scopes) := by
  intro scope among
  obtain ⟨name, found⟩ := Registry.lowered_stays read scope among
  exact h.named name scope found

theorem source (h : Scoped scopes st) {s : SourceLiteral} {l : Lowered}
    (read : st.registry.source s = .ok (.prepared l)) : l.StaysIn (· ∈ scopes) := by
  cases s with
  | scripted lowerings => cases read
  | prepared explicit instrs =>
    cases found : st.registry.lowered explicit instrs with
    | error name =>
      rw [Registry.source, found] at read
      cases read
    | ok l' =>
      rw [Registry.source, found] at read
      cases read
      exact h.lowered found

theorem scripted (h : Scoped scopes st) {script : LoweringScript} {l : Lowered}
    (answer : (script.lowering st.registry).result = .answered (.ok l)) :
    l.StaysIn (· ∈ scopes) := by
  have ended : script.result.read st.registry = .answered (.ok l) := by
    unfold LoweringScript.lowering at answer
    split at answer
    · exact answer
    · split at answer
      · exact answer
      · cases answer
  cases result : script.result with
  | lowered explicit instrs =>
    rw [result, LoweringEnd.read] at ended
    split at ended
    next l' read =>
      cases ended
      exact h.lowered read
    next => cases ended
  | refused reason =>
    rw [result] at ended
    cases ended
  | panicked message =>
    rw [result] at ended
    cases ended

/-- Whatever a source of the session answers, defines scopes of the session. -/
theorem answers (h : Scoped scopes st) {scope : Scope} {n : Nat} {l : Lowered}
    (answer : (Registry.lowering scope n st).result = .answered (.ok l)) :
    l.StaysIn (· ∈ scopes) := by
  unfold Registry.lowering at answer
  split at answer
  next source there =>
    cases source with
    | prepared l' =>
      have accepted : l'.checked = .ok l := SourceEnd.answered.inj answer
      rw [Lowered.checked_ok accepted]
      exact h.prepared _ _ there
    | scripted lowerings =>
      rw [Source.lowering] at answer
      split at answer
      next script _ => exact h.scripted answer
      next =>
        cases answer
        exact fun scope among => absurd among List.not_mem_nil
  next => cases answer

/-! ## Changes of the store -/

theorem start : Scoped [] {} where
  numbered _ among := absurd among List.not_mem_nil
  identified _ among := absurd among List.not_mem_nil
  named _ _ found := by cases found
  prepared _ _ found := by cases found
  sequences _ _ found := by cases found
  installed _ _ found := by cases found

theorem of_same (h : Scoped scopes st) (ids : st.nextScope ≤ st'.nextScope)
    (named : st'.registry.scopes = st.registry.scopes)
    (sources : st'.registry.sources = st.registry.sources)
    (sequences : st'.registry.sequences = st.registry.sequences)
    (installed : st'.installed = st.installed) : Scoped scopes st' where
  numbered scope among := Nat.lt_of_lt_of_le (h.numbered scope among) ids
  identified := h.identified
  named := named ▸ h.named
  prepared := sources ▸ h.prepared
  sequences := sequences ▸ h.sequences
  installed id seq found := h.installed id seq (installed ▸ found)

theorem forget (h : Scoped scopes st) (what : Holding) (name : String) :
    Scoped scopes { st with registry := PlainStep.forget what name st.registry } := by
  cases what with
  | engine | method => exact h.of_same (Nat.le_refl _) rfl rfl rfl rfl
  | sequence =>
    refine { h with sequences := fun name' seq found => ?_ }
    have found : (st.registry.sequences.erase name).get? name' = some seq := found
    rw [Table.get?_erase] at found
    split at found
    · cases found
    · exact h.sequences name' seq found

theorem sequence (h : Scoped scopes st) {seq : Sequence} (stays : seq.StaysIn (· ∈ scopes))
    (name : String) : Scoped scopes { st with
      registry := { st.registry with sequences := st.registry.sequences.set name seq } } := by
  refine { h with sequences := fun name' seq' found => ?_ }
  rw [Table.get?_set] at found
  split at found
  · cases found
    exact stays
  · exact h.sequences name' seq' found

theorem install (h : Scoped scopes st) {b : Body} {seq : Sequence}
    (stays : seq.StaysIn (· ∈ scopes)) : Scoped scopes (st.install b seq) := by
  refine { h with installed := fun id seq' found => ?_ }
  rw [Store.install, Table.get?_set] at found
  split at found
  · cases found
    exact stays
  · exact h.installed id seq' found

/-- The identity of a new scope is not taken. -/
theorem scope (h : Scoped scopes st) {scope : Scope} (new : scope.id = st.nextScope)
    {source : Source} (stays : ∀ l, source = .prepared l → l.StaysIn (· ∈ scopes))
    (name : String) : Scoped (scope :: scopes) { st with
      nextScope := st.nextScope + 1
      registry := { st.registry with
        scopes := st.registry.scopes.set name scope
        sources := st.registry.sources.set scope.id source } } := by
  have more {l : Lowered} (stays : l.StaysIn (· ∈ scopes)) : l.StaysIn (· ∈ scope :: scopes) :=
    fun inner among => List.mem_cons_of_mem scope (stays inner among)
  refine ⟨fun scope' among => ?_, fun scope' among scope'' among' same => ?_,
    fun name' scope' found => ?_, fun id l found => ?_, fun name' seq found => ?_,
    fun id seq found => more (h.installed id seq found)⟩
  · rcases List.mem_cons.mp among with rfl | older
    · exact new ▸ Nat.lt_succ_self _
    · exact Nat.lt_succ_of_lt (h.numbered scope' older)
  · rcases List.mem_cons.mp among with rfl | older <;>
      rcases List.mem_cons.mp among' with rfl | older'
    · rfl
    · have lower := h.numbered scope'' older'
      omega
    · have lower := h.numbered scope' older
      omega
    · exact h.identified scope' older scope'' older' same
  · rw [Table.get?_set] at found
    split at found
    · cases found
      exact List.mem_cons_self
    · exact List.mem_cons_of_mem scope (h.named name' scope' found)
  · rw [Table.get?_set] at found
    split at found
    · cases found
      exact more (stays l rfl)
    · exact more (h.prepared id l found)
  · exact more (h.sequences name' seq found)

/-- Runs of the session only define scopes of the session. -/
def invariant (scopes : List Scope) : Invariant Registry.lowering where
  holds := Scoped scopes
  known _ _ := True
  apt _ := True
  fits _ _ := True
  part := (· ∈ scopes)
  kept _ _ := trivial
  ready h _ _ found := ⟨trivial, h.installed _ _ found⟩
  found _ _ _ _ := ⟨trivial, trivial⟩
  asked _ _ _ _ := trivial
  counted h same := h.of_same (Nat.le_of_eq same.nextScope.symm) (congrArg _ same.registry)
    (congrArg _ same.registry) (congrArg _ same.registry) same.installed
  installed h _ _ h₀ _ answered :=
    have ⟨_, answer⟩ := answered.result
    h.install (h₀.answers answer)
  defined _ _ h _ _ _ := h.of_same (Nat.le_refl _) rfl rfl rfl rfl
  called h _ := h.of_same (Nat.le_refl _) rfl rfl rfl rfl
  returned _ h := h.of_same (Nat.le_refl _) rfl rfl rfl rfl

end Scoped

end BodyCall
