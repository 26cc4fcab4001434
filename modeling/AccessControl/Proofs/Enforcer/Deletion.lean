import AccessControl.Proofs.Domains.Text
import AccessControl.Proofs.Enforcer.InStep

/-!
# Deletions

Whether rows that were removed come back when rows are loaded again from a source that was in
step.  A mutation passes on to the source whatever it removes, but for the one that drops all
rows: then the source still has them.  The main result is `Enforcer.loaded_after_act`.
-/

namespace AccessControl

open AccessControl.Action

/-- A row stands under a key of a model. -/
def Model.Holds (m : Model) (kind : RowKind) (key : String) (row : Row) : Prop :=
  ∃ d, m.find? kind.kind key = some d ∧ row ∈ d.rows

/-- A model in step with kept rows holds those of them for which it has a definition. -/
theorem InStep.holds_iff {m : Model} {kept : List KeptRow} (h : InStep m kept) (kind : RowKind)
    (key : String) (row : Row) :
  m.Holds kind key row ↔ m.has kind.kind key ∧ (key, row) ∈ kept
  := by
  rw [Model.has, Option.isSome_iff_exists, ← KeptRow.mem_under]
  constructor
  · rintro ⟨d, hd, hrow⟩
    exact ⟨⟨d, hd⟩, (h.agrees kind key d hd).perm.mem_iff.mpr hrow⟩
  · rintro ⟨⟨d, hd⟩, hrow⟩
    exact ⟨d, hd, (h.agrees kind key d hd).perm.mem_iff.mp hrow⟩

/-- Models of one shape that are in step with the same rows hold the same rows. -/
theorem InStep.holds_iff_holds {m m' : Model} {kept : List KeptRow} (h : InStep m kept)
    (h' : InStep m' kept) (hshape : m.SameShape m') (kind : RowKind) (key : String) (row : Row) :
  m.Holds kind key row ↔ m'.Holds kind key row
  := by
  rw [h.holds_iff, h'.holds_iff, hshape.has]

namespace Enforcer

/-- Loading gives an enforcer that is in step with its source the rows that it had. -/
theorem Mirrored.holds_loadPolicy {e : Enforcer} (he : Mirrored e) (kind : RowKind) (key : String)
    (row : Row) :
  (loadPolicy.perform e).2.model.Holds kind key row ↔ e.model.Holds kind key row
  := by
  obtain ⟨kept, hsource, hstep⟩ := he.inStep
  obtain ⟨-, -, hstep', hshape⟩ := Mirrored.inStep_loadPolicy he.orderly hsource hstep.nodup
  apply hstep'.holds_iff_holds hstep hshape

/-- Mutations that clear a model drop its rows and leave the source as it is. -/
theorem perform_clears {x : Mutation} (hx : x.clears = true) (e : Enforcer) :
  x.act.perform e = (.ok true, (clearPolicy.perform e).2)
  := by
  cases x with
  | clearPolicy => rfl
  | deleteDomains domains =>
      obtain rfl : domains = [] := List.isEmpty_iff.mp hx
      rfl
  | _ => cases hx

/-- Rows are dropped from an enforcer whose source is in step, and loaded again: all are back. -/
theorem Mirrored.holds_clearPolicy {e : Enforcer} (he : Mirrored e) (kind : RowKind) (key : String)
    (row : Row) :
  ¬ (clearPolicy.perform e).2.model.Holds kind key row ∧
    ((loadPolicy.perform (clearPolicy.perform e).2).2.model.Holds kind key row ↔
      e.model.Holds kind key row)
  := by
  have horderly := Orderly.keeps_clearPolicy e he.orderly
  obtain ⟨kept, hsource, hstep⟩ := he.inStep
  obtain ⟨log, hclear⟩ := perform_clearPolicy e
  rw [hclear] at horderly ⊢
  constructor
  · rintro ⟨d, hd, hrow⟩
    dsimp only at hd
    rw [Model.find?_clearRows, Option.map_eq_some_iff] at hd
    obtain ⟨d, -, rfl⟩ := hd
    cases hrow
  · obtain ⟨-, -, hstep', hshape⟩ :=
      Mirrored.inStep_loadPolicy horderly hsource hstep.nodup
    apply hstep'.holds_iff_holds hstep (hshape.trans (Model.SameShape.clearRows e.model))

/-- Loading the rows again after a mutation, from a source that was in step before it, brings
back nothing that the mutation removed, whatever it returned, and loses nothing: the rows are
those after the mutation.  Only where the mutation drops all rows they are those before it. -/
theorem loaded_after_act {e : Enforcer} (he : Mirrored e) (x : Mutation) :
  let e' := (x.act.perform e).2
  let reloaded := (loadPolicy.perform e').2
  (x.clears = false → ∀ kind key row,
    reloaded.model.Holds kind key row ↔ e'.model.Holds kind key row) ∧
  (x.clears = true → (x.act.perform e).1 = .ok true ∧ ∀ kind key row,
    ¬ e'.model.Holds kind key row ∧
      (reloaded.model.Holds kind key row ↔ e.model.Holds kind key row))
  := by
  intro e' reloaded
  constructor
  · intro hx kind key row
    apply Mirrored.holds_loadPolicy (Mirrored.keeps_act hx e he)
  · intro hx
    dsimp only [reloaded, e']
    rw [perform_clears hx]
    exact ⟨rfl, he.holds_clearPolicy⟩

/-- The rows of a domain that is deleted stay away. -/
theorem loaded_after_act_domain :
  let start := (start (Domains.model [] []) (some (Source.ofRows
    [[.text "p", .text "admin", .text "acme", .text "data", .text "read"],
     [.text "p", .text "admin", .text "umbra", .text "data", .text "read"],
     [.text "g", .text "alice", .text "admin", .text "acme"]]))).perform
      (.initial .full {} none .none {})
  let e' := ((Mutation.deleteDomains [.text "acme"]).act.perform start.2).2
  start.1 = .ok () ∧
    ((Mutation.deleteDomains [.text "acme"]).act.perform start.2).1 = .ok true ∧
    e'.model.rows .policy "p" = .ok [["admin", "umbra", "data", "read"]] ∧
    ∀ kind key row,
      (loadPolicy.perform e').2.model.Holds kind key row ↔ e'.model.Holds kind key row
  := by
  intro start e'
  obtain ⟨events, hm⟩ := Domains.ofText Domains.entries_text
  have hstart : start.1 = .ok () := ok_of_toOption (by decide +kernel)
  have hrows : (Domains.model [] []).RowsFit := by
    rw [← Model.clearRows_ofText hm]
    apply Model.rowsFit_clearRows
  have hmirrored : Mirrored start.2 :=
    Mirrored.start (Model.wellFormed_ofText hm) hrows rfl rfl (Prod.ext hstart rfl)
  refine ⟨hstart, ok_of_toOption (by decide +kernel), ok_of_toOption (by decide +kernel), ?_⟩
  apply (loaded_after_act hmirrored _).1 rfl

/-- When all domains are deleted, the rows are gone from the model but not from the source, and
loading brings them back. -/
theorem deleteDomains_undone :
  let start := (start (Rbac.model [] []) (some (Source.ofRows
    [[.text "p", .text "alice", .text "data", .text "read"]]))).perform
      (.initial .full {} none .none {})
  let e' := ((Mutation.deleteDomains []).act.perform start.2).2
  let reloaded := (loadPolicy.perform e').2
  start.1 = .ok () ∧ start.2.autoSave = true ∧
    start.2.model.rows .policy "p" = .ok [["alice", "data", "read"]] ∧
    ((Mutation.deleteDomains []).act.perform start.2).1 = .ok true ∧
    e'.model.rows .policy "p" = .ok [] ∧
    (loadPolicy.perform e').1 = .ok () ∧
    reloaded.model.rows .policy "p" = .ok [["alice", "data", "read"]]
  := by
  intro start e' reloaded
  refine ⟨?_, rfl, ?_, ?_, ?_, ?_, ?_⟩
  · apply ok_of_toOption (by decide +kernel)
  · apply ok_of_toOption (by decide +kernel)
  · apply ok_of_toOption (by decide +kernel)
  · apply ok_of_toOption (by decide +kernel)
  · apply ok_of_toOption (by decide +kernel)
  · apply ok_of_toOption (by decide +kernel)

end Enforcer

end AccessControl
