import FlagReplica.Evaluator
import FlagReplica.Proofs.Evaluation.SideBySide
import FlagReplica.Proofs.Evaluation.Termination
import FlagReplica.Proofs.Repository.Agreement
import FlagReplica.Proofs.Repository.Refinement
/-!
# Evaluation on a repository is evaluation on what it lists

Evaluation on a repository looks everything up while it goes, and a look-up touches the cache. Where
the single things and the lists of an environment are in agreement, none of that can be seen:
evaluation comes to what it comes to on the `Snapshot` of the two lists, changes nothing that is
held, and tells nobody but the log (`Shown.reads_serve`, `Shown.reads_evaluate`). A flag that is
listed therefore serves the same whether it is looked up or taken from the list.

`Reads` is what is known of such an action. The pairing `Pairing.reading` carries it through the
whole of evaluation at once.
-/

namespace FlagReplica

open Record (identifier)
open Repository (entityKey listKey)

variable {α β : Type} {room : Finset String} {held : Contents}

/-! ## Actions that only read -/

/-- What notices say was served: flag, target and variation, in the order in which it was told. -/
def servedIn (ns : List Notice) : List (String × String × String) :=
  ns.filterMap fun
    | .served flag target variation => some (flag, target, variation)
    | _ => none

theorem servedIn_append (ns ns' : List Notice) :
    servedIn (ns ++ ns') = servedIn ns ++ servedIn ns' := List.filterMap_append

/-- From a faithful repository with these contents, the action comes to an answer and says that
this was served. It leaves a repository of the same kind. -/
def Reads (room : Finset String) (held : Contents) (a : RepositoryAction α) (x : α)
    (told : List (String × String × String)) : Prop :=
  ∀ r : Repository, r.Faithful room → r.stored? = held →
    (a.run r).value = x ∧ servedIn (a.run r).notices = told ∧
      (a.run r).state.Faithful room ∧ (a.run r).state.stored? = held

namespace Reads

variable {a : RepositoryAction α} {x : α} {told told' : List (String × String × String)}

theorem pure (x : α) : Reads room held (Pure.pure x) x [] := fun _ hr hheld => ⟨rfl, rfl, hr, hheld⟩

theorem bind {f : α → RepositoryAction β} {y : β} (ha : Reads room held a x told)
    (hf : Reads room held (f x) y told') : Reads room held (a >>= f) y (told ++ told') := by
  intro r hr hheld
  obtain ⟨hvalue, htold, hr', hheld'⟩ := ha r hr hheld
  rw [Action.run_bind, hvalue]
  obtain ⟨hvalue', htold', hr'', hheld''⟩ := hf _ hr' hheld'
  exact ⟨hvalue', by rw [servedIn_append, htold, htold'], hr'', hheld''⟩

/-- A sink hears nothing of what is only prepared. -/
theorem before {f : α → RepositoryAction β} {y : β} (ha : Reads room held a x [])
    (hf : Reads room held (f x) y told) : Reads room held (a >>= f) y told := ha.bind hf

/-- A sink hears nothing of what is only made of the answer. -/
theorem after {f : α → RepositoryAction β} {y : β} (ha : Reads room held a x told)
    (hf : Reads room held (f x) y []) : Reads room held (a >>= f) y told := by
  rw [← List.append_nil told]
  exact ha.bind hf

theorem log (level : Level) (text : String) :
    Reads room held (Repository.log level text) () [] := fun _ hr hheld => ⟨rfl, rfl, hr, hheld⟩

/-- The state may be read on the way, whatever is made of it. -/
theorem ofState {f : Repository → RepositoryAction α}
    (h : ∀ r : Repository, r.Faithful room → r.stored? = held → Reads room held (f r) x told) :
    Reads room held (Action.get >>= f) x told := fun r hr hheld => h r hr hheld r hr hheld

theorem get [Record α] (id : String) :
    Reads room held (Repository.get id : RepositoryAction (Option α)) (held.find? id) [] := by
  intro r hr hheld
  obtain ⟨r', hrun, hstored, hr'⟩ := hr.lookUp (entityKey α id)
  rw [Repository.get, bind_pure_comp, Action.run_map, hrun, hheld]
  exact ⟨rfl, rfl, hr', hstored.trans hheld⟩

theorem getAll [Record α] (env : String) :
    Reads room held (Repository.getAll env : RepositoryAction (List α)) (held.listed env) [] := by
  intro r hr hheld
  obtain ⟨r', hrun, hstored, hr'⟩ := hr.lookUp (listKey α env)
  rw [Repository.getAll, bind_pure_comp, Action.run_map, hrun, hheld]
  exact ⟨rfl, rfl, hr', hstored.trans hheld⟩

/-- What is read for each of some things, one after the other. -/
theorem mapM {f : α → RepositoryAction β} {g : α → β} {tells : α → List (String × String × String)}
    (xs : List α) (h : ∀ x ∈ xs, Reads room held (f x) (g x) (tells x)) :
    Reads room held (xs.mapM f) (xs.map g) (xs.flatMap tells) := by
  induction xs with
  | nil =>
    rw [List.mapM_nil]
    exact .pure []
  | cons x xs ih =>
    rw [List.mapM_cons, List.flatMap_cons]
    refine (h x List.mem_cons_self).bind ?_
    exact (ih fun y hy => h y (List.mem_cons_of_mem x hy)).after (.pure _)

end Reads

/-- An action that only reads is like an action without a state if it comes to the same answer. -/
def Pairing.reading (room : Finset String) (held : Contents) : Pairing RepositoryAction Id where
  Alike p a b := Reads room held a b.run [] ∧ p b.run
  pure hx := ⟨.pure _, hx⟩
  bind hab hfg := by
    obtain ⟨hrest, hq⟩ := hfg _ hab.2
    exact ⟨hab.1.before hrest, hq⟩

/-! ## Repositories that show what they list -/

/-- The flags and segments of the lists of an environment. -/
def Contents.snapshot (held : Contents) (env : String) : Snapshot :=
  ⟨held.listed env, held.listed env⟩

/-- What a flag serves among the flags and segments of the lists of an environment. -/
def Contents.serve (held : Contents) (env : String) (t : Target) (f : Flag) :
    Except EvaluationError Variation :=
  (f.serve (held.snapshot env).host (held.snapshot env).budget Watch.none t).run

/-- What is held under single keys is what is listed for the environment, for flags and segments
alike. -/
structure Shown (env : String) (held : Contents) : Prop where
  flags : held.Shows env (byName (held.listed env) : String → Option Flag)
  segments : held.Shows env (byName (held.listed env) : String → Option Segment)

namespace Shown

variable {env : String} (h : Shown env held)

include h

/-- Every look-up finds what is listed. -/
theorem places : (Pairing.reading room held).Places Set.univ Repository.host
    (held.snapshot env).host where
  flag? id _ := by
    have hget : Reads room held (Repository.getFlag id) (held.find? id) [] := .get id
    rw [h.flags.find?_eq] at hget
    exact ⟨hget, fun _ _ _ _ => trivial⟩
  segment? id _ := by
    have hget : Reads room held (Repository.getSegment id) (held.find? id) [] := .get id
    rw [h.segments.find?_eq] at hget
    exact ⟨hget, fun _ _ _ _ => trivial⟩
  log level text := ⟨.log level text, trivial⟩

omit h in
/-- Of what is held there are no more identifiers than there are entries cached and stored. -/
theorem card_le_entries [Record α] {r : Repository} (hheld : r.stored? = held)
    (hone : ∀ id, held (entityKey α id) =
      (byName (held.listed env : List α) id).map Record.toEntry) :
    ((held.listed env : List α).map identifier).toFinset.card ≤
      r.cache.size + r.store.elim 0 (·.working.length) := by
  have hkeys : (((held.listed env : List α).map identifier).toFinset.image (entityKey α)) ⊆
      (r.cache.keys ++ r.store.elim [] (·.working.map (·.1))).toFinset := by
    intro key hkey
    obtain ⟨id, hid, rfl⟩ := Finset.mem_image.mp hkey
    have hstored : (held (entityKey α id)).isSome := by
      rw [hone, Option.isSome_map, Option.isSome_iff_ne_none, Ne, byName_eq_none_iff, not_not]
      exact List.mem_toFinset.mp hid
    rw [← hheld, Repository.stored?] at hstored
    rw [List.mem_toFinset, List.mem_append]
    cases hs : r.store with
    | none =>
      rw [hs] at hstored
      exact .inl ((Table.get?_isSome_iff _ _).mp hstored)
    | some s =>
      rw [hs] at hstored
      exact .inr ((Table.get?_isSome_iff _ _).mp hstored)
  have hinj : Function.Injective (entityKey α) := fun _ _ =>
    (Repository.entityKey_inj α).mp
  calc ((held.listed env : List α).map identifier).toFinset.card
      = (((held.listed env : List α).map identifier).toFinset.image (entityKey α)).card :=
        (Finset.card_image_of_injective _ hinj).symm
    _ ≤ (r.cache.keys ++ r.store.elim [] (·.working.map (·.1))).toFinset.card :=
        Finset.card_le_card hkeys
    _ ≤ (r.cache.keys ++ r.store.elim [] (·.working.map (·.1))).length := List.toFinset_card_le _
    _ = r.cache.size + r.store.elim 0 (·.working.length) := by
      rw [List.length_append, Cache.keys, List.length_map, Cache.size]
      cases r.store <;> simp

variable {f : Flag} (hf : f ∈ held.listed env)

include hf

/-- What the repository allows itself is enough for what it lists, if it lists anything. -/
theorem serve_budget {r : Repository} (hheld : r.stored? = held) (t : Target) :
    (f.serve (held.snapshot env).host r.budget Watch.none t).run = held.serve env t f := by
  let entries := r.cache.size + r.store.elim 0 (·.working.length)
  have hflags : (held.snapshot env).flagIds.card ≤ entries :=
    card_le_entries (α := Flag) hheld h.flags.one
  have hsegments : (held.snapshot env).segmentIds.card ≤ entries :=
    card_le_entries (α := Segment) hheld h.segments.one
  have hpos : 0 < (held.snapshot env).flagIds.card :=
    Finset.card_pos.mpr ⟨_, List.mem_toFinset.mpr (List.mem_map_of_mem hf)⟩
  have hbudget : r.budget = .ofCounts entries entries := rfl
  refine Snapshot.serve_budget ?_ ?_ f
  · calc (held.snapshot env).flagIds.card
        < entries + 1 := Nat.lt_succ_of_le hflags
      _ ≤ r.budget.flags := Nat.le_mul_self _
  · calc (held.snapshot env).segmentIds.card + 1
        < 2 * (entries + 1) := by omega
      _ ≤ r.budget.segments := Nat.mul_le_mul_right _ (by omega)

/-- **A flag that is listed serves what it serves on the snapshot.** -/
theorem reads_serve (t : Target) :
    Reads room held (Repository.serve f t) (held.serve env t f) [] := by
  refine .ofState fun r _ hheld => ?_
  rw [← h.serve_budget hf hheld t]
  exact (Pairing.same_serve h.places (.refl _ t) r.budget (fun _ _ => Pairing.same_pure ())
    fun _ _ => trivial).1

/-- **So it does if it is looked up**, and what is found is the flag that is listed. -/
theorem reads_evaluate (t : Target) : Reads room held (Repository.evaluate f.feature t none)
    ((held.serve env t f).map (f, ·)) [] := by
  have hfound : (held.snapshot env).flag? f.feature = some f :=
    (byName_eq_some_iff h.flags.nodup).mpr ⟨hf, rfl⟩
  refine .ofState fun r _ hheld => ?_
  have hwalk : (Evaluation.evaluate (held.snapshot env).host r.budget f.feature t none).run =
      (f.serve (held.snapshot env).host r.budget Watch.none t).run.map (f, ·) := by
    simp only [Evaluation.evaluate, Evaluation.walk, Snapshot.host, hfound]
    rfl
  rw [← h.serve_budget hf hheld t, ← hwalk]
  exact (Pairing.same_walk h.places (.refl _ t) r.budget (fun _ _ => Pairing.same_pure ())
    trivial none).1

end Shown

end FlagReplica
