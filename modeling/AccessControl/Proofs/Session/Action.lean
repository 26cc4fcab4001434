import AccessControl.Proofs.Enforcer.Action
import AccessControl.Session.Basic

/-!
# Session actions

What the actions of a session do, as equations between the session before and the one after, in
the way of the actions of an enforcer.  Objects are added at the end and keep their numbers.
What is reported is never told apart.
-/

namespace AccessControl

namespace SessionAction

variable {α β : Type}

/-- The result of an action of a session, and the session after it. -/
def perform (a : SessionAction α) (s : Session) : Except Failure α × Session := a.run.run s

@[simp] theorem perform_pure (x : α) (s : Session) :
  perform (pure x) s = (.ok x, s)
  := rfl

@[simp] theorem perform_get (s : Session) :
  perform get s = (.ok s, s)
  := rfl

@[simp] theorem perform_modify (f : Session → Session) (s : Session) :
  perform (modify f) s = (.ok (), f s)
  := rfl

@[simp] theorem perform_lift (x : Except Failure α) (s : Session) :
  perform (liftM x) s = (x, s)
  := by
  cases x <;> rfl

/-- The second of two actions is performed where the first ends, unless that fails. -/
@[simp] theorem perform_bind (a : SessionAction α) (f : α → SessionAction β) (s : Session) :
  perform (a >>= f) s =
    match perform a s with
    | (.ok x, s) => perform (f x) s
    | (.error failure, s) => (.error failure, s)
  := by
  change StateT.run (a.run >>= ExceptT.bindCont f : StateM Session _) s = _
  rw [StateT.run_bind]
  change (ExceptT.bindCont f (perform a s).1).run (perform a s).2 = _
  rcases perform a s with ⟨x | x, s'⟩ <;> rfl

@[simp] theorem perform_map (f : α → β) (a : SessionAction α) (s : Session) :
  perform (f <$> a) s = ((perform a s).1.map f, (perform a s).2)
  := by
  rw [map_eq_pure_bind, perform_bind]
  rcases perform a s with ⟨x | x, s'⟩ <;> rfl

end SessionAction

namespace Session

open SessionAction

/-! ### Objects -/

theorem perform_allocate (object : SessionObject) (s : Session) :
  (allocate object).perform s =
    (.ok s.objects.length, { s with objects := s.objects ++ [object] })
  := rfl

theorem perform_store (id : Nat) (object : SessionObject) (s : Session) :
  (store id object).perform s = (.ok (), { s with objects := s.objects.set id object })
  := rfl

theorem perform_keep (events : List LogEvent) (s : Session) :
  ∃ log, (keep events).perform s = (.ok (), { s with log })
  := by
  rw [keep, perform_modify]
  split
  · exact ⟨s.log, rfl⟩
  · exact ⟨_, rfl⟩

section Lookup

variable {s : Session} {id : Nat}

theorem perform_modelAt {m : Model} (h : s.objects[id]? = some (.model m)) :
  (modelAt id).perform s = (.ok m, s)
  := by
  rw [modelAt]
  simp [h]

theorem perform_sourceAt {source : Source} (h : s.objects[id]? = some (.source source)) :
  (sourceAt id).perform s = (.ok source, s)
  := by
  rw [sourceAt]
  simp [h]

theorem perform_graphAt {g : RoleGraph} (h : s.objects[id]? = some (.graph g)) :
  (graphAt id).perform s = (.ok g, s)
  := by
  rw [graphAt]
  simp [h]

theorem perform_wiringAt {w : Wiring} (h : s.objects[id]? = some (.enforcer w)) :
  (wiringAt id).perform s = (.ok w, s)
  := by
  rw [wiringAt]
  simp [h]

end Lookup

/-! ### Role graphs -/

/-- Graphs of numbers that stand for graphs are found. -/
theorem perform_graphsAt
    {s : Session} {known : List (String × Nat)}
    (h : ∀ entry ∈ known, ∃ g, s.objects[entry.2]? = some (.graph g)) :
  ∃ graphs, (graphsAt known).perform s = (.ok graphs, s)
  := by
  induction known with
  | nil => exact ⟨[], rfl⟩
  | cons entry rest ih =>
      obtain ⟨⟨g, hg⟩, hrest⟩ := List.forall_mem_cons.mp h
      obtain ⟨graphs, hgraphs⟩ := ih hrest
      use (entry.1, g) :: graphs
      rw [graphsAt]
      simp [perform_graphAt hg, hgraphs, Except.map]

/-- Graphs that are put back never fail to be, and no object is lost. -/
theorem perform_storeGraphs (known : List (String × Nat)) (graphs : RoleGraphs) (s : Session) :
  ∃ numbers s', (storeGraphs known graphs).perform s = (.ok numbers, s') ∧
    s.objects.length ≤ s'.objects.length
  := by
  induction graphs generalizing s with
  | nil => exact ⟨[], s, rfl, Nat.le_refl _⟩
  | cons entry rest ih =>
      obtain ⟨key, g⟩ := entry
      rw [storeGraphs]
      cases known.lookup key with
      | some id =>
          obtain ⟨numbers, s', hrest, hlength⟩ := ih { s with objects := s.objects.set id (.graph g) }
          rw [List.length_set] at hlength
          use (key, id) :: numbers, s'
          simp [perform_store, hrest, hlength, Except.map]
      | none =>
          obtain ⟨numbers, s', hrest, hlength⟩ := ih { s with objects := s.objects ++ [.graph g] }
          rw [List.length_append] at hlength
          use (key, s.objects.length) :: numbers, s'
          simp only [perform_bind, perform_allocate, hrest, perform_pure]
          exact ⟨trivial, by omega⟩

/-- Graphs of an enforcer that had none become new objects. -/
theorem perform_storeGraphs_new (graphs : RoleGraphs) (s : Session) :
  ∃ numbers, (storeGraphs [] graphs).perform s =
      (.ok numbers, { s with objects := s.objects ++ graphs.map fun entry => .graph entry.2 }) ∧
    ∀ entry ∈ numbers, ∃ g,
      (s.objects ++ graphs.map fun entry => .graph entry.2)[entry.2]? = some (.graph g)
  := by
  induction graphs generalizing s with
  | nil =>
      use []
      simp [storeGraphs]
  | cons entry rest ih =>
      obtain ⟨key, g⟩ := entry
      obtain ⟨numbers, hrest, hnumbers⟩ := ih { s with objects := s.objects ++ [.graph g] }
      use (key, s.objects.length) :: numbers
      rw [storeGraphs]
      simp only [List.append_assoc, List.singleton_append] at hrest hnumbers
      constructor
      · simp [perform_allocate, hrest, Except.map]
      · apply List.forall_mem_cons.mpr ⟨_, hnumbers⟩
        use g
        simp

/-! ### Enforcers -/

/-- An enforcer is put together from parts that are there. -/
theorem perform_assemble
    {s : Session} {w : Wiring} {m : Model} {source : Option Source}
    (hmodel : s.objects[w.model]? = some (.model m))
    (hgraphs : ∀ entry ∈ w.graphs, ∃ g, s.objects[entry.2]? = some (.graph g))
    (hsource : SessionAction.perform (w.source.mapM sourceAt) s = (.ok source, s)) :
  ∃ e, (assemble w).perform s = (.ok e, s) ∧ e.kind = w.enforcer.kind ∧ e.model = m ∧
    e.source = source ∧ e.files = s.files
  := by
  obtain ⟨graphs, hgraphs⟩ := perform_graphsAt hgraphs
  refine ⟨{ w.enforcer with
    model := m, graphs, source, files := s.files, log := [], traces := [] }, ?_, rfl, rfl, rfl, rfl⟩
  rw [assemble]
  simp [perform_modelAt hmodel, hgraphs, hsource, Except.map]

section Dismantle

variable {w : Wiring} (hsink : w.sink = none) (e : Enforcer) (s : Session)

include hsink

/-- The parts of an enforcer without a sink can be put back, and no object is lost. -/
theorem perform_dismantle :
  ∃ w' s', (dismantle w e).perform s = (.ok w', s') ∧ w'.enforcer.kind = e.kind ∧
    s.objects.length ≤ s'.objects.length
  := by
  obtain ⟨numbers, s₁, hgraphs, hlength⟩ := perform_storeGraphs w.graphs e.graphs
    { s with objects := s.objects.set w.model (.model e.model) }
  rw [List.length_set] at hlength
  rw [dismantle]
  simp only [perform_bind, perform_store, hgraphs, hsink, deliver]
  split
  case h_1 id source _ _ =>
    obtain ⟨log, hlog⟩ := perform_keep e.log
      { s₁ with objects := s₁.objects.set id (.source source), files := e.files }
    simp only [perform_bind, perform_store, perform_modify, hlog, perform_pure]
    refine ⟨_, _, rfl, rfl, ?_⟩
    rwa [List.length_set]
  case h_2 =>
    obtain ⟨log, hlog⟩ := perform_keep e.log { s₁ with files := e.files }
    simp only [perform_bind, perform_pure, perform_modify, hlog]
    exact ⟨_, _, rfl, rfl, hlength⟩

/-- The parts of an enforcer that had none but its model are there when it has been put back. -/
theorem perform_dismantle_new
    (hmodel : w.model < s.objects.length) (hgraphs : w.graphs = []) (hsource : w.source = none) :
  ∃ w' s', (dismantle w e).perform s = (.ok w', s') ∧
    w'.enforcer.kind = e.kind ∧ w'.model = w.model ∧ w'.sink = none ∧ s'.files = e.files ∧
    s'.objects[w.model]? = some (.model e.model) ∧
    ∀ entry ∈ w'.graphs, ∃ g, s'.objects[entry.2]? = some (.graph g)
  := by
  obtain ⟨numbers, hstore, hnumbers⟩ := perform_storeGraphs_new e.graphs
    { s with objects := s.objects.set w.model (.model e.model) }
  obtain ⟨log, hlog⟩ := perform_keep e.log
    { s with
      objects := s.objects.set w.model (.model e.model)
        ++ e.graphs.map fun entry => .graph entry.2
      files := e.files }
  rw [dismantle]
  simp only [perform_bind, perform_store, hgraphs, hstore, hsource, hsink, deliver, perform_pure,
    perform_modify, hlog]
  refine ⟨_, _, rfl, rfl, rfl, rfl, rfl, ?_, hnumbers⟩
  rw [List.getElem?_append_left (by rwa [List.length_set]), List.getElem?_set_self hmodel]

end Dismantle

/-- An action of an enforcer whose parts are there gives what it gives on the enforcer that is
put together from them. -/
theorem perform_onEnforcer
    {α : Type} {s : Session} {id : Nat} {w : Wiring} {e : Enforcer} (action : Action α)
    (hid : s.objects[id]? = some (.enforcer w)) (hsink : w.sink = none)
    (hassemble : (assemble w).perform s = (.ok e, s)) :
  ∃ w' s', (onEnforcer id action).perform s = ((action.perform e).1, s') ∧
    s'.objects[id]? = some (.enforcer w') ∧ w'.enforcer.kind = (action.perform e).2.kind
  := by
  obtain ⟨w', s', hdismantle, hkind, hlength⟩ := perform_dismantle hsink (action.perform e).2 s
  use w', { s' with objects := s'.objects.set id (.enforcer w') }
  have hlt : id < s'.objects.length := by
    obtain ⟨hlt, -⟩ := List.getElem?_eq_some_iff.mp hid
    omega
  rw [onEnforcer]
  simp only [perform_bind, perform_wiringAt hid, hassemble]
  change ((dismantle w (action.perform e).2 >>= _) : SessionAction α).perform s = _ ∧ _
  simp only [perform_bind, hdismantle, perform_store]
  refine ⟨?_, ?_, hkind⟩
  · exact perform_lift (action.perform e).1 _
  · rw [List.getElem?_set_self hlt]

end Session

end AccessControl
