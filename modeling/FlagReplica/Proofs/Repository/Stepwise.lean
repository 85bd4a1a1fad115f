import FlagReplica.Proofs.Repository.StoreIndependence
/-!
# What every call keeps

A call touches a repository in three ways only: it looks keys up, writes entries and removes them.
Whatever a relation between a repository before and after says of these three, it says of every call
(`AnyCall.leads`), if it holds where nothing is done and goes on over one thing after another. So to
show that calls keep an invariant, or leave a part of the repository as it is, the three have to be
looked at and no operation again.
-/

namespace FlagReplica.Repository

open Record (kind identifier version)

variable {α β : Type}

/-- A relation between a repository before and after that nothing in a call breaks. -/
structure Stepwise (R : Repository → Repository → Prop) : Prop where
  refl : ∀ r, R r r
  trans : ∀ {r r' r''}, R r r' → R r' r'' → R r r''
  lookUp : ∀ key r, R r ((Repository.lookUp key).run r).state
  put : ∀ key entry r, R r ((ExceptT.run (Repository.put key entry)).run r).state
  remove : ∀ key r, R r ((ExceptT.run (Repository.remove key)).run r).state

/-- A relation between a repository before and after that nothing in a call breaks which writes no
entries but those that are admitted under their keys. -/
structure StepwiseWith (Admits : String → Entry → Prop) (R : Repository → Repository → Prop) :
    Prop where
  refl : ∀ r, R r r
  trans : ∀ {r r' r''}, R r r' → R r' r'' → R r r''
  lookUp : ∀ key r, R r ((Repository.lookUp key).run r).state
  put : ∀ key entry, Admits key entry →
    ∀ r, R r ((ExceptT.run (Repository.put key entry)).run r).state
  remove : ∀ key r, R r ((ExceptT.run (Repository.remove key)).run r).state

/-- What is stored of a kind of things is admitted under the key it is stored under. -/
structure StoresAdmitted (Admits : String → Entry → Prop) (α : Type) [Record α] : Prop where
  entity : ∀ x : α, Admits (entityKey α (identifier x)) (Record.toEntry x)
  listing : ∀ env (xs : List α), Admits (listKey α env) (Record.toListing xs)

theorem Stepwise.admitAll {R : Repository → Repository → Prop} (hR : Stepwise R) :
    StepwiseWith (fun _ _ => True) R where
  refl := hR.refl
  trans := hR.trans
  lookUp := hR.lookUp
  put key entry _ := hR.put key entry
  remove := hR.remove

/-- The action leads from each repository to one related to it. -/
def Leads (R : Repository → Repository → Prop) (a : RepositoryAction α) : Prop :=
  ∀ r, R r (a.run r).state

/-- The write leads from each repository to one related to it, even if it fails. -/
def LeadsWrite (R : Repository → Repository → Prop) (a : RepositoryWrite α) : Prop :=
  Leads R (ExceptT.run a)

variable {Admits : String → Entry → Prop} {R : Repository → Repository → Prop}
variable (hR : StepwiseWith Admits R)

/-! ## Composition -/

namespace Leads

include hR

theorem pure (x : α) : Leads R (Pure.pure x) := hR.refl

theorem bind {a : RepositoryAction α} {f : α → RepositoryAction β} (ha : Leads R a)
    (hf : ∀ x, Leads R (f x)) : Leads R (a >>= f) :=
  fun r => hR.trans (ha r) (hf _ _)

theorem map {a : RepositoryAction α} (f : α → β) (ha : Leads R a) : Leads R (f <$> a) := by
  rw [← bind_pure_comp]
  exact ha.bind hR fun x => pure hR (f x)

theorem notify (n : Notice) : Leads R (Action.notify n) := hR.refl

end Leads

namespace LeadsWrite

include hR

theorem pure (x : α) : LeadsWrite R (Pure.pure x) := hR.refl

theorem bind {a : RepositoryWrite α} {f : α → RepositoryWrite β} (ha : LeadsWrite R a)
    (hf : ∀ x, LeadsWrite R (f x)) : LeadsWrite R (a >>= f) := by
  rw [LeadsWrite, ExceptT.run_bind]
  refine Leads.bind hR ha fun result => ?_
  cases result with
  | ok x => exact hf x
  | error e => exact .pure hR _

theorem lift {a : RepositoryAction α} (h : Leads R a) : LeadsWrite R (ExceptT.lift a) :=
  h.map hR Except.ok

theorem log (level : Level) (text : String) :
    LeadsWrite R (ExceptT.lift (Repository.log level text)) :=
  lift hR (.notify hR _)

/-- A write that tells of its change leads where the write leads. -/
theorem telling {w : RepositoryWrite Bool} (c : Change) (hw : LeadsWrite R w) :
    LeadsWrite R (Repository.telling c w) := by
  refine hw.bind hR fun changed => ?_
  cases changed with
  | true => exact lift hR (.notify hR _)
  | false => exact pure hR ()

theorem forEach {f : α → RepositoryWrite Unit} (xs : List α) (h : ∀ x, LeadsWrite R (f x)) :
    LeadsWrite R (Repository.forEach f xs) := by
  induction xs with
  | nil => exact pure hR ()
  | cons x xs ih => exact (h x).bind hR fun _ => ih

end LeadsWrite

theorem LeadsWrite.state_bind {f : Repository → RepositoryWrite β}
    (h : ∀ r, LeadsWrite R (f r)) : LeadsWrite R (state >>= f) := by
  intro r
  rw [run_state]
  exact h r r

theorem LeadsWrite.ite {p : Prop} [Decidable p] {a a' : RepositoryWrite α} (h : LeadsWrite R a)
    (h' : LeadsWrite R a') : LeadsWrite R (if p then a else a') := by
  split
  · exact h
  · exact h'

/-! ## Calls -/

section Kind

include hR

variable [Record α] (hα : StoresAdmitted Admits α)

theorem leads_get (id : String) : Leads R (get id : RepositoryAction (Option α)) :=
  Leads.bind hR (hR.lookUp _) fun _ => .pure hR _

theorem leads_getAll (env : String) : Leads R (getAll env : RepositoryAction (List α)) :=
  Leads.bind hR (hR.lookUp _) fun _ => .pure hR _

theorem leads_deleteOne (id : String) : LeadsWrite R (deleteOne α id) :=
  .telling hR _ (hR.remove _)

include hα

theorem leads_setOne (x : α) (initial : Bool) : LeadsWrite R (setOne x initial) :=
  .state_bind fun _ => .ite (.log hR _ _) (.telling hR _ (hR.put _ _ (hα.entity x)))

theorem leads_setAll (env : String) (xs : List α) (initial : Bool) :
    LeadsWrite R (setAll env xs initial) := by
  rw [setAll_eq]
  refine .state_bind fun r => .ite (.log hR _ _) ?_
  refine .bind hR (.telling hR _ (hR.put _ _ (hα.listing env xs))) fun _ => ?_
  refine .bind hR (.forEach hR xs fun x => leads_setOne hR hα x initial) fun _ => ?_
  exact .ite (.forEach hR _ fun old => leads_deleteOne hR _) (.pure hR ())

theorem leads_merge (env : String) (x : α) : LeadsWrite R (merge env x) := by
  refine .state_bind fun r => ?_
  dsimp only
  split
  · exact .pure hR ()
  · exact .telling hR _ (hR.put _ _ (hα.listing env _))

theorem leads_removeFrom (env id : String) : LeadsWrite R (removeFrom α env id) := by
  refine .state_bind fun r => ?_
  dsimp only
  split
  · exact .pure hR ()
  · exact .ite (.telling hR _ (hR.put _ _ (hα.listing env _))) (.pure hR ())

theorem Call.leads (call : Call α) : Leads R call.run := by
  cases call with
  | get id => exact (leads_get hR id).map hR _
  | getAll env => exact (leads_getAll hR env).map hR _
  | set x initial => exact (leads_setOne hR hα x initial).map hR _
  | setAll env xs initial => exact (leads_setAll hR hα env xs initial).map hR _
  | merge env x => exact (leads_merge hR hα env x).map hR _
  | delete id => exact (leads_deleteOne hR id).map hR _
  | deleteFrom env id => exact (leads_removeFrom hR hα env id).map hR _

end Kind

include hR in
/-- **What look-ups, writes and removals keep, every call keeps**, as long as flags and segments are
stored as is admitted. -/
theorem AnyCall.leads_with (hflags : StoresAdmitted Admits Flag)
    (hsegments : StoresAdmitted Admits Segment) (call : AnyCall) : Leads R call.run := by
  cases call with
  | flag call => exact (call.leads hR hflags).map hR _
  | segment call => exact (call.leads hR hsegments).map hR _

/-- The same, where all is admitted. -/
theorem AnyCall.leads (hR : Stepwise R) (call : AnyCall) : Leads R call.run :=
  call.leads_with hR.admitAll ⟨fun _ => trivial, fun _ _ => trivial⟩
    ⟨fun _ => trivial, fun _ _ => trivial⟩

end FlagReplica.Repository
