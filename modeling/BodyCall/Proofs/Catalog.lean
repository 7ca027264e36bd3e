import BodyCall.Proofs.Visits

/-!
# What an engine has defined

An engine has a body for each scope whose definition has been executed on it, whatever came of that,
and for no other. The body is made at the first of these visits, inside the module that its
invocation had as receiver, and it is the one that every later visit runs.
-/

namespace BodyCall

theorem Store.defined_defining (st : Store) (engine engine' : Nat) (b : Body) :
    (Interpreter.defining st engine b).defined engine' =
      if engine = engine' then (st.defined engine).set b.scope.id b else st.defined engine' :=
  Store.defined_define _ engine engine' b.scope b

theorem Store.get?_defining (st : Store) (engine id : Nat) (b : Body) :
    ((Interpreter.defining st engine b).defined engine).get? id =
      if b.scope.id = id then some b else (st.defined engine).get? id := by
  rw [defined_defining, if_pos rfl, Table.get?_set]

/-- The visits on one engine. -/
def visitsOn (engine : Nat) (vs : List Visit) : List Visit := vs.filter (·.engine = engine)

/-- The identities of the scopes whose definitions were visited on one engine, in order. -/
def scopesOn (engine : Nat) (vs : List Visit) : List Nat := (visitsOn engine vs).map (·.scope.id)

theorem scopesOn_append (engine : Nat) (vs ws : List Visit) :
    scopesOn engine (vs ++ ws) = scopesOn engine vs ++ scopesOn engine ws := by
  simp [scopesOn, visitsOn]

theorem visitsOn_here {engine : Nat} {v : Visit} (vs : List Visit) (here : v.engine = engine) :
    visitsOn engine (vs ++ [v]) = visitsOn engine vs ++ [v] := by
  simp [visitsOn, here]

theorem scopesOn_here {engine : Nat} {v : Visit} (vs : List Visit) (here : v.engine = engine) :
    scopesOn engine (vs ++ [v]) = scopesOn engine vs ++ [v.scope.id] := by
  rw [scopesOn, visitsOn_here vs here, List.map_append]
  rfl

theorem scopesOn_old {engine : Nat} {v : Visit} {vs : List Visit} (here : v.engine = engine)
    (old : v.scope.id ∈ scopesOn engine vs) :
    (scopesOn engine (vs ++ [v])).eraseDups = (scopesOn engine vs).eraseDups := by
  have none_new : [v.scope.id].removeAll (scopesOn engine vs) = [] := by simp [List.removeAll, old]
  rw [scopesOn_here vs here, List.eraseDups_append, none_new, List.eraseDups_nil, List.append_nil]

theorem scopesOn_new {engine : Nat} {v : Visit} {vs : List Visit} (here : v.engine = engine)
    (new : v.scope.id ∉ scopesOn engine vs) :
    (scopesOn engine (vs ++ [v])).eraseDups = (scopesOn engine vs).eraseDups ++ [v.scope.id] := by
  have one_new : [v.scope.id].removeAll (scopesOn engine vs) = [v.scope.id] := by
    simp [List.removeAll, new]
  rw [scopesOn_here vs here, List.eraseDups_append, one_new]
  rfl

/-- What an engine has defined after some visits. -/
structure Catalogued (engine : Nat) (vs : List Visit) (st : Store) : Prop where
  keys : (st.defined engine).keys = (scopesOn engine vs).eraseDups
  visited : ∀ v ∈ visitsOn engine vs, st.definition? engine v.scope = some v.body
  known : ∀ {id b}, (st.defined engine).get? id = some b → b.id < st.nextBody ∧ b.scope.id = id ∧
    ∃ v ∈ visitsOn engine vs, v.scope = b.scope ∧ v.body = b
  distinct : ∀ {id id' b b'}, (st.defined engine).get? id = some b →
    (st.defined engine).get? id' = some b' → b.id = b'.id → id = id'

namespace Catalogued

variable {engine : Nat} {vs : List Visit} {st st' : Store}

theorem start (undefined : st.defined engine = .empty) : Catalogued engine [] st where
  keys := by rw [undefined]; rfl
  visited _ among := absurd among List.not_mem_nil
  known found := by rw [undefined] at found; cases found
  distinct found := by rw [undefined] at found; cases found

theorem kept (h : Catalogued engine vs st) (same : st'.defined engine = st.defined engine)
    (ids : st.nextBody ≤ st'.nextBody) : Catalogued engine vs st' where
  keys := by rw [same]; exact h.keys
  visited v among := by rw [Store.definition?, same]; exact h.visited v among
  known found := by
    rw [same] at found
    obtain ⟨older, rest⟩ := h.known found
    exact ⟨Nat.lt_of_lt_of_le older ids, rest⟩
  distinct found found' := by
    rw [same] at found found'
    exact h.distinct found found'

theorem unknown_iff (h : Catalogued engine vs st) (scope : Scope) :
    st.definition? engine scope = none ↔ scope.id ∉ scopesOn engine vs := by
  rw [Store.definition?, Table.get?_eq_none_iff, h.keys, List.mem_eraseDups]

theorem elsewhere {v : Visit} (h : Catalogued engine vs st) (other : v.engine ≠ engine) :
    Catalogued engine (vs ++ [v]) st := by
  have same : visitsOn engine (vs ++ [v]) = visitsOn engine vs := by
    simp [visitsOn, other]
  refine ⟨?_, ?_, ?_, h.distinct⟩
  · rw [scopesOn, same]
    exact h.keys
  · rw [same]
    exact h.visited
  · rw [same]
    exact h.known

theorem again {v : Visit} (h : Catalogued engine vs st) (here : v.engine = engine)
    (found : st.definition? engine v.scope = some v.body) : Catalogued engine (vs ++ [v]) st where
  keys := by
    have old : v.scope.id ∈ scopesOn engine vs := by
      refine Classical.byContradiction fun new => ?_
      rw [(h.unknown_iff v.scope).mpr new] at found
      cases found
    rw [h.keys, scopesOn_old here old]
  visited w among := by
    rw [visitsOn_here vs here] at among
    rcases List.mem_append.mp among with before | last
    · exact h.visited w before
    · rw [List.mem_singleton.mp last]
      exact found
  known found := by
    obtain ⟨older, same, w, among, origin⟩ := h.known found
    exact ⟨older, same, w, visitsOn_here vs here ▸ List.mem_append_left _ among, origin⟩
  distinct := h.distinct

/-- The first visit of a scope defines a body that is new. -/
theorem first {v : Visit} (h : Catalogued engine vs st) (here : v.engine = engine)
    (absent : st.definition? engine v.scope = none) (new : v.body.id = st.nextBody)
    (scope : v.body.scope = v.scope) :
    Catalogued engine (vs ++ [v]) (Interpreter.defining st engine v.body) where
  keys := by
    have unseen := (h.unknown_iff v.scope).mp absent
    have new_key : v.scope.id ∉ (st.defined engine).keys := by
      rw [h.keys, List.mem_eraseDups]
      exact unseen
    rw [Store.defined_defining, if_pos rfl, scope, Table.keys_set_of_new new_key, h.keys,
      scopesOn_new here unseen]
  visited w among := by
    have unseen := (h.unknown_iff v.scope).mp absent
    rw [visitsOn_here vs here] at among
    rw [Store.definition?, Store.get?_defining, scope]
    rcases List.mem_append.mp among with before | last
    · have other : v.scope.id ≠ w.scope.id := fun same =>
        unseen (same ▸ List.mem_map_of_mem before)
      rw [if_neg other]
      exact h.visited w before
    · rw [List.mem_singleton.mp last, if_pos rfl]
  known {id b} found := by
    have more := visitsOn_here vs here
    rw [Store.get?_defining, scope] at found
    by_cases same : v.scope.id = id
    · rw [if_pos same] at found
      cases found
      have among : v ∈ visitsOn engine (vs ++ [v]) :=
        more ▸ List.mem_append_right _ List.mem_cons_self
      exact ⟨new ▸ Nat.lt_succ_self _, scope ▸ same, v, among, scope.symm, rfl⟩
    · rw [if_neg same] at found
      obtain ⟨older, same, w, among, origin⟩ := h.known found
      exact ⟨Nat.lt_succ_of_lt older, same, w, more ▸ List.mem_append_left _ among, origin⟩
  distinct {id id' b b'} found found' same := by
    rw [Store.get?_defining] at found found'
    split at found <;> split at found'
    next here here' => exact here.symm.trans here'
    -- what was there before is older than the new body
    next =>
      cases found
      have older := (h.known found').1
      omega
    next =>
      cases found'
      have older := (h.known found).1
      omega
    next => exact h.distinct found found' same

theorem visit {v : Visit} (h : Catalogued engine vs v.state.store) :
    Catalogued engine (vs ++ [v]) v.opened.store := by
  cases found : v.state.store.definition? v.engine v.scope with
  | some b =>
    rw [Visit.opened_of_known found]
    by_cases here : v.engine = engine
    · exact h.again here (by rw [Visit.body_of_known found, ← here, found])
    · exact h.elsewhere here
  | none =>
    have body := Visit.body_of_absent found
    rw [Visit.opened_of_absent found]
    by_cases here : v.engine = engine
    · rw [here] at found ⊢
      exact h.first here found (congrArg Body.id body) (congrArg Body.scope body)
    · refine (h.elsewhere here).kept ?_ (Nat.le_succ _)
      rw [Store.defined_defining, if_neg here]

theorem passes {ws : List Visit} (h : Catalogued engine vs st) (way : Passes st ws st') :
    Catalogued engine (vs ++ ws) st' := by
  -- on the way: what is catalogued so far is the invariant
  induction way generalizing vs with
  | rest kept =>
    rw [List.append_nil]
    exact h.kept (by rw [Store.defined, kept.definitions]; rfl) kept.ids
  | @visit st st' v rest kept later ih =>
    have here := h.kept (by rw [Store.defined, kept.definitions]; rfl) kept.ids
    have next := ih here.visit
    rw [List.append_assoc] at next
    exact next

end Catalogued

/-! ## Histories -/

/-- The stores that the use of engines leads to, with all visits so far. Bodies are invoked and
sequences are run, of any programs, on any engines, from any contexts and with any end, or up to some
depth of calls; in between, all but what has been defined may change. The given engine starts with
nothing defined. -/
inductive History (engine : Nat) : List Visit → Store → Prop where
  | start {st : Store} (undefined : st.defined engine = .empty) : History engine [] st
  | invoked {vs : List Visit} {s : State} (history : History engine vs s.store)
      (source : Scope → Nat → Store → Lowering) (depth : Nat) (b : Body) (c : Call) (block : Block) :
      History engine
        (vs ++
          b.visits ((Env.interpreting source).reach depth) (Env.visitsAt source depth) c block s)
        (b.invoke ((Env.interpreting source).reach depth) c block s).2.store
  | interpreted {vs : List Visit} {s : State} (history : History engine vs s.store)
      (source : Scope → Nat → Store → Lowering) (depth : Nat) (h : Handle) (i : Invocation)
      (seq : Sequence) :
      History engine (vs ++ Env.visitsAt source depth h i seq s)
        ((Env.interpreting source).interpretAt depth h i seq s).2.store
  | elsewhere {vs : List Visit} {st st' : Store} (history : History engine vs st)
      (kept : st.Kept st') : History engine vs st'

theorem History.passes {engine : Nat} {vs : List Visit} {st : Store}
    (history : History engine vs st) :
    ∃ st₀ : Store, st₀.defined engine = .empty ∧ Passes st₀ vs st := by
  induction history with
  | @start st undefined => exact ⟨st, undefined, .refl st⟩
  | invoked _ source depth b c block ih =>
    obtain ⟨st₀, undefined, way⟩ := ih
    exact ⟨st₀, undefined, way.trans (b.invoke_passes (Env.interpretAt_passes depth) c block _)⟩
  | interpreted _ source depth h i seq ih =>
    obtain ⟨st₀, undefined, way⟩ := ih
    exact ⟨st₀, undefined, way.trans (Env.interpretAt_passes depth h i seq _)⟩
  | elsewhere _ kept ih =>
    obtain ⟨st₀, undefined, way⟩ := ih
    exact ⟨st₀, undefined, way.keep kept⟩

theorem History.catalogued {engine : Nat} {vs : List Visit} {st : Store}
    (history : History engine vs st) : Catalogued engine vs st := by
  obtain ⟨st₀, undefined, way⟩ := history.passes
  exact (Catalogued.start undefined).passes way

/-- The visit makes the module of its scope. -/
structure Visit.Makes (v : Visit) : Prop where
  name : v.body.implementationClass.name = v.scope.name
  kind : v.body.implementationClass.kind = v.scope.kind.moduleKind
  parent : v.body.implementationClass.parent? = v.invocation.call.receiver.module?
  qualifiedName : v.body.implementationClass.qualifiedName =
    match v.invocation.call.receiver.module? with
    | some parent => parent.qualifiedName ++ "::" ++ v.scope.name
    | none => v.scope.name

theorem Visit.makes {v : Visit} (absent : v.state.store.definition? v.engine v.scope = none) :
    v.Makes := by
  have made : v.body.implementationClass = Module.nested v.invocation.call.receiver.module?
      v.state.store.nextModule v.scope.name v.scope.kind.moduleKind :=
    congrArg Body.implementationClass (body_of_absent absent)
  constructor <;> rw [made] <;> cases v.invocation.call.receiver.module? <;> rfl

/-- How what an engine has defined comes from the visits so far. -/
structure Catalog (engine : Nat) (vs : List Visit) (st : Store) : Prop where
  /-- There is a body for each scope that was visited, once. -/
  scopes : (st.defined engine).keys = (scopesOn engine vs).eraseDups
  count : (st.defined engine).size = (scopesOn engine vs).eraseDups.length
  /-- Nothing that is defined goes away. -/
  grows : ∀ more st', History engine (vs ++ more) st' →
    (st.defined engine).keys <+: (st'.defined engine).keys
  /-- Each visit has run the body that the engine still has for the scope. -/
  bodies : ∀ v ∈ visitsOn engine vs, st.definition? engine v.scope = some v.body ∧
    v.body.scope = v.scope ∧
    v.run = v.body.invoke v.reach (Interpreter.definitionCall v.body) .absent v.opened
  /-- Scopes do not share bodies. -/
  apart : ∀ v ∈ visitsOn engine vs, ∀ w ∈ visitsOn engine vs, v.scope ≠ w.scope →
    ∀ b b' : Body, st.definition? engine v.scope = some b →
      st.definition? engine w.scope = some b' → b.id ≠ b'.id
  /-- So it is while runs go on: a visit adds its scope before anything else can happen, and the
  first visit of a scope makes its module. -/
  begun : ∀ before v after, vs = before ++ v :: after → v.engine = engine →
    (v.state.store.defined engine).keys = (scopesOn engine before).eraseDups ∧
    (v.opened.store.defined engine).keys = (scopesOn engine (before ++ [v])).eraseDups ∧
    v.opened.store.definition? engine v.scope = st.definition? engine v.scope ∧
    (v.scope.id ∉ scopesOn engine before → v.Makes)

theorem mem_visitsOn {engine : Nat} {vs : List Visit} {v : Visit} :
    v ∈ visitsOn engine vs ↔ v ∈ vs ∧ v.engine = engine := by
  simp [visitsOn]

theorem History.grows {engine : Nat} {vs more : List Visit} {st st' : Store}
    (history : History engine vs st) (history' : History engine (vs ++ more) st') :
    (st.defined engine).keys <+: (st'.defined engine).keys := by
  rw [history.catalogued.keys, history'.catalogued.keys, scopesOn_append, List.eraseDups_append]
  exact List.prefix_append _ _

/-- After any history of an engine, what it has defined is what its visits so far tell, provided that
their scopes are told apart by their identities. -/
theorem History.catalog {engine : Nat} {vs : List Visit} {st : Store}
    (history : History engine vs st)
    (identified : ∀ v ∈ vs, ∀ w ∈ vs, v.scope.id = w.scope.id → v.scope = w.scope) :
    Catalog engine vs st := by
  have all := history.catalogued
  have body (v : Visit) (among : v ∈ visitsOn engine vs) : v.body.scope = v.scope := by
    obtain ⟨-, id, w, origin, scope, -⟩ := all.known (all.visited v among)
    rw [← scope] at id ⊢
    exact identified w (mem_visitsOn.mp origin).1 v (mem_visitsOn.mp among).1 id
  refine ⟨all.keys, ?_, fun more st' history' => history.grows history', ?_, ?_, ?_⟩
  · rw [← all.keys]
    exact (List.length_map _).symm
  · intro v among
    exact ⟨all.visited v among, body v among, v.run_eq⟩
  · intro v first w second other b b' found found' same
    exact other (identified v (mem_visitsOn.mp first).1 w (mem_visitsOn.mp second).1
      (all.distinct found found' same))
  · rintro before v after rfl here
    obtain ⟨st₀, undefined, way⟩ := history.passes
    obtain ⟨arrived, -⟩ := way.split
    have sofar := (Catalogued.start undefined).passes arrived
    have begun := sofar.visit
    have among : v ∈ visitsOn engine (before ++ [v]) :=
      mem_visitsOn.mpr ⟨List.mem_append_right _ List.mem_cons_self, here⟩
    have among' : v ∈ visitsOn engine (before ++ v :: after) :=
      mem_visitsOn.mpr ⟨List.mem_append_right _ List.mem_cons_self, here⟩
    have same := (begun.visited v among).trans (all.visited v among').symm
    refine ⟨sofar.keys, begun.keys, same, fun new => ?_⟩
    rw [← here] at new sofar
    exact Visit.makes ((sofar.unknown_iff v.scope).mpr new)

/-- Two bodies define a scope that cannot be lowered, one after the other. Both visits fail, and the
engine has the scope once, inside the first of the two. -/
theorem History.shared_scope_catalog :
    let inner : Scope := ⟨2, .classBody, "Inner", "a.rb", 3⟩
    let a : Module := .top 0 "A" .classLike
    let b : Module := .top 1 "B" .plain
    ∃ vs st, History 0 vs st ∧
      vs.map (fun v => (v.engine, v.invocation.call.receiver, v.scope)) =
        [(0, .object a, inner), (0, .object b, inner)] ∧
      (st.defined 0).keys = [2] ∧
      ∃ body : Body, st.definition? 0 inner = some body ∧
        body.implementationClass.qualifiedName = "A::Inner" := by
  intro inner a b
  let source : Scope → Nat → Store → Lowering := fun scope _ _ =>
    .prepared (if scope = inner then ⟨[.popFrame], true⟩ else ⟨[.define inner], false⟩)
  let outer (m : Module) : Body := ⟨m.id, ⟨m.id, .classBody, m.name, "a.rb", 1⟩, m, ⟨0, true⟩⟩
  let call (m : Module) : Call := ⟨none, .object m, m, ""⟩
  let s : State := ⟨⟨{}, 0, [], []⟩, { nextModule := 2, nextBody := 2 }, []⟩
  obtain ⟨vs, st, history, told, ids⟩ : ∃ vs st, History 0 vs st ∧
      vs.map (fun v => (v.engine, v.invocation.call.receiver, v.scope)) =
        [(0, .object a, inner), (0, .object b, inner)] ∧ (scopesOn 0 vs).eraseDups = [2] := by
    have start : History 0 [] s.store := .start rfl
    exact ⟨_, _, .invoked (.invoked start source 3 (outer a) (call a) .absent) source 3 (outer b)
      (call b) .absent, by decide +kernel, by decide +kernel⟩
  have one_scope (v : Visit) (among : v ∈ vs) : v.scope = inner := by
    have here := List.mem_map_of_mem
      (f := fun v : Visit => (v.engine, v.invocation.call.receiver, v.scope)) among
    rw [told] at here
    simp only [List.mem_cons, Prod.mk.injEq, List.not_mem_nil, or_false] at here
    rcases here with ⟨-, -, scope⟩ | ⟨-, -, scope⟩ <;> exact scope
  have catalog := history.catalog fun v among w among' _ =>
    (one_scope v among).trans (one_scope w among').symm
  refine ⟨vs, st, history, told, catalog.scopes.trans ids, ?_⟩
  cases vs with
  | nil => cases told
  | cons v later =>
    rw [List.map_cons, List.cons.injEq, Prod.mk.injEq, Prod.mk.injEq] at told
    obtain ⟨⟨engine, receiver, scope⟩, -⟩ := told
    obtain ⟨found, -⟩ := catalog.bodies v (mem_visitsOn.mpr ⟨List.mem_cons_self, engine⟩)
    obtain ⟨-, -, -, makes⟩ := catalog.begun [] v later rfl engine
    have name := (makes List.not_mem_nil).qualifiedName
    rw [receiver, scope] at name
    exact ⟨v.body, scope ▸ found, name⟩

end BodyCall
