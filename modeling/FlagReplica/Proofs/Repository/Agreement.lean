import FlagReplica.Proofs.Repository.ByName
import FlagReplica.Proofs.Repository.Frame
/-!
# Single things and their list

Every flag and every segment is held twice, under its own key and in the list of its environment,
and the two are written by separate calls that each decide for themselves whether a write is
outdated. Contents `Shows` a table of things by identifier if both say the same: under each key is
what the table has, and the list has every thing of the table once.

A list that is pulled, a thing that is stored and merged, and a thing that is deleted and taken off
each lead from contents that show a table to contents that show another, and that other table says
what the write did: `Shows.setAll`, `Shows.setAndMerge`, `Shows.deleteAndRemove`. The two copies
make the same decision each time because they had the same version to decide on.
-/

namespace FlagReplica

open Record (identifier version)

variable {α : Type} [Record α]

/-- A table with a thing in it, unless the one it has of the same identifier is as new. -/
def accept (t : String → Option α) (x : α) : String → Option α :=
  if (t (identifier x)).any (version x ≤ version ·) then t
  else Function.update t (identifier x) (some x)

theorem accept_self (t : String → Option α) (x : α) :
    accept t x (identifier x) =
      if (t (identifier x)).any (version x ≤ version ·) then t (identifier x) else some x := by
  unfold accept
  split
  · rfl
  · rw [Function.update_self]

theorem accept_of_ne (t : String → Option α) {x : α} {id : String} (h : id ≠ identifier x) :
    accept t x id = t id := by
  unfold accept
  split
  · rfl
  · rw [Function.update_of_ne h]

namespace Contents

open Repository

variable {env : String} {t : String → Option α} {held held' : Contents} {x : α} {xs : List α}

/-- Under its own key, each thing is as the table says. -/
def Singles (t : String → Option α) (held : Contents) : Prop :=
  ∀ id, held (entityKey α id) = (t id).map Record.toEntry

namespace Singles

theorem of_keeps {β : Type} {a : ContentsAction β} (h : Singles t held)
    (ha : Keeps (Set.range (entityKey α)) a) : Singles t (a.run held).state :=
  fun id => (ha held ⟨id, rfl⟩).trans (h id)

variable [LawfulRecord α]

theorem find?_eq (h : Singles t held) (id : String) : held.find? id = t id := by
  rw [find?, h]
  cases t id with
  | none => rfl
  | some x => exact LawfulRecord.ofEntry?_toEntry x

/-- A write is outdated by what is held exactly if it is by the table. -/
theorem isOutdated_eq (h : Singles t held) (x : α) :
    isOutdated false (held (entityKey α (identifier x))) (version x) =
      (t (identifier x)).any (version x ≤ version ·) := by
  rw [isOutdated, h, Bool.not_false, Bool.true_and, Option.any_map]
  simp only [LawfulRecord.version_toEntry]

/-- **A thing is stored where it is accepted.** -/
theorem setOne (h : Singles t held) (x : α) :
    Singles (accept t x) ((Contents.setOne x false).run held).state := by
  rw [state_setOne, h.isOutdated_eq, accept]
  by_cases hold : (t (identifier x)).any (version x ≤ version ·)
  · rw [if_pos hold, if_pos hold]
    exact h
  · rw [if_neg hold, if_neg hold]
    intro id
    rw [Function.update_apply, Function.update_apply, h id]
    simp only [entityKey_inj]
    split <;> rfl

end Singles

/-- Under its own key and in the list of the environment, each thing is as the table says. -/
structure Shows (env : String) (t : String → Option α) (held : Contents) : Prop where
  one : ∀ id, held (entityKey α id) = (t id).map Record.toEntry
  list : byName (held.listed env) = t
  nodup : ((held.listed env : List α).map identifier).Nodup

theorem listed_congr (h : held' (listKey α env) = held (listKey α env)) :
    (held'.listed env : List α) = held.listed env := by
  rw [listed, listed, h]

/-- Contents of nothing show nothing. -/
theorem shows_nothing : Shows env (fun _ => none : String → Option α) nothing where
  one _ := rfl
  list := rfl
  nodup := List.nodup_nil

/-- The pulled list is the new table. -/
theorem listed_update [LawfulRecord α] :
    (listed (Function.update held (listKey α env) (some (Record.toListing xs))) env : List α) =
      xs := by
  rw [listed, Function.update_self, Option.bind_some, LawfulRecord.ofListing?_toListing,
    Option.getD_some]

namespace Shows

theorem congr (h : Shows env t held) (heq : Set.EqOn held' held (keysOf α)) :
    Shows env t held' where
  one id := (heq (entityKey_mem_keysOf id)).trans (h.one id)
  list := by rw [listed_congr (heq (listKey_mem_keysOf env)), h.list]
  nodup := by rw [listed_congr (heq (listKey_mem_keysOf env))]; exact h.nodup

/-- What keeps the keys of a kind keeps what is shown of it. -/
theorem of_keeps {β : Type} {a : ContentsAction β} (h : Shows env t held)
    (ha : Keeps (keysOf α) a) : Shows env t (a.run held).state :=
  h.congr (ha held)

theorem mem_listed_iff (h : Shows env t held) {id : String} :
    x ∈ held.listed env ∧ identifier x = id ↔ t id = some x := by
  rw [← h.list]
  exact (byName_eq_some_iff h.nodup).symm

theorem find?_eq [LawfulRecord α] (h : Shows env t held) (id : String) :
    held.find? id = t id := Singles.find?_eq h.one id

/-- A write is outdated by what is held exactly if it is by what is shown. -/
theorem isOutdated_eq [LawfulRecord α] (h : Shows env t held) (x : α) :
    isOutdated false (held (entityKey α (identifier x))) (version x) =
      (t (identifier x)).any (version x ≤ version ·) := Singles.isOutdated_eq h.one x

end Shows

/-! ## Lists -/

omit [Record α] in
/-- What is done for each of some things is done for the first one, and then for the others. -/
theorem state_forM_cons (f : α → ContentsAction Unit) (x : α) (xs : List α) (held : Contents) :
    (((x :: xs).forM f).run held).state = ((xs.forM f).run ((f x).run held).state).state := rfl

/-- After a run of writes that are never outdated, the last word is that of the writes. -/
theorem state_forM_setOne (hxs : (xs.map identifier).Nodup) (held : Contents) (id : String) :
    ((xs.forM fun x => setOne x true).run held).state (entityKey α id) =
      ((byName xs id).map Record.toEntry).or (held (entityKey α id)) := by
  induction xs generalizing held with
  | nil => rfl
  | cons x xs ih =>
    rw [List.map_cons, List.nodup_cons] at hxs
    have hfirst : ((setOne x true).run held).state =
        Function.update held (entityKey α (identifier x)) (some (Record.toEntry x)) :=
      state_setOne x true held
    rw [state_forM_cons, ih hxs.2, hfirst, byName_cons]
    by_cases hid : identifier x = id
    · -- the identifier does not come again, so nothing overwrites the first write
      rw [if_pos hid, ← hid, byName_eq_none_iff.mpr hxs.1, Function.update_self]
      rfl
    · have hne : entityKey α id ≠ entityKey α (identifier x) := by
        rw [Ne, entityKey_inj]
        exact Ne.symm hid
      rw [if_neg hid, Function.update_of_ne hne]

theorem state_forM_deleteOne (olds : List α) (held : Contents) (id : String) :
    ((olds.forM fun old => deleteOne α (identifier old)).run held).state (entityKey α id) =
      if byName olds id = none then held (entityKey α id) else none := by
  induction olds generalizing held with
  | nil => rfl
  | cons old olds ih =>
    rw [state_forM_cons, ih, state_deleteOne, byName_cons]
    by_cases hid : identifier old = id
    · rw [if_pos hid, hid, Function.update_self, ite_self]
      rfl
    · have hne : entityKey α id ≠ entityKey α (identifier old) := by
        rw [Ne, entityKey_inj]
        exact Ne.symm hid
      rw [if_neg hid, Function.update_of_ne hne]

/-- An initial load holds the list, then each thing in it, and then drops what is missing. -/
theorem state_setAll_initial (env : String) (xs : List α) (held : Contents) :
    ((setAll env xs true).run held).state =
      (((missingFrom xs (held.listed env)).forM fun old => deleteOne α (identifier old)).run
        ((xs.forM fun x => setOne x true).run
          (Function.update held (listKey α env) (some (Record.toListing xs)))).state).state := rfl

/-- An initial load holds its list, and nothing that it does after that touches a list. -/
theorem state_setAll_listKey :
    ((setAll env xs true).run held).state (listKey α env) = some (Record.toListing xs) := by
  have hsets : Keeps (Set.range (listKey α)) (xs.forM fun x => setOne x true) :=
    .forM xs fun _ _ => keeps_setOne (entityKey_notMem_range_listKey _) true
  have hdeletes : Keeps (Set.range (listKey α))
      ((missingFrom xs (held.listed env)).forM fun old => deleteOne α (identifier old)) :=
    .forM _ fun _ _ => keeps_deleteOne (entityKey_notMem_range_listKey _)
  rw [state_setAll_initial, hdeletes _ ⟨env, rfl⟩, hsets _ ⟨env, rfl⟩, Function.update_self]

/-- The list of an initial load is the list that is held then. -/
theorem listed_setAll [LawfulRecord α] :
    (listed ((setAll env xs true).run held).state env : List α) = xs := by
  rw [listed, state_setAll_listKey, Option.bind_some, LawfulRecord.ofListing?_toListing,
    Option.getD_some]

/-- After an initial load, a thing of the list is as the list has it, one that only the list before
had is gone, and any other is as it was. -/
theorem state_setAll_entityKey (hxs : (xs.map identifier).Nodup) (id : String) :
    ((setAll env xs true).run held).state (entityKey α id) =
      ((byName xs id).map Record.toEntry).or
        (if byName (held.listed env : List α) id = none then held (entityKey α id) else none) := by
  rw [state_setAll_initial, state_forM_deleteOne, state_forM_setOne hxs, byName_missingFrom,
    Function.update_of_ne (entityKey_ne_listKey α α id env)]
  cases byName xs id with
  | some x => rfl
  | none => rfl

/-- **An initial load makes its list what is shown.** -/
theorem Shows.setAll [LawfulRecord α] (h : Shows env t held) (hxs : (xs.map identifier).Nodup) :
    Shows env (byName xs) ((Contents.setAll env xs true).run held).state := by
  refine ⟨fun id => ?_, by rw [listed_setAll], by rw [listed_setAll]; exact hxs⟩
  rw [state_setAll_entityKey hxs, h.list, h.one]
  cases byName xs id with
  | some x => rfl
  | none =>
    -- what the new list has no name for is dropped if the old list had one, and only the list
    -- says so: the entry is found because it was shown
    cases t id with
    | none => rfl
    | some y => rfl

/-! ## Single things -/

/-- **What is stored and merged is accepted in both places or in neither.** -/
theorem Shows.setAndMerge [LawfulRecord α] (h : Shows env t held) (x : α) :
    Shows env (accept t x)
      ((do setOne x false; merge env x : ContentsAction Unit).run held).state := by
  have hkept : Keeps (Set.range (listKey α)) (setOne x false) :=
    keeps_setOne (entityKey_notMem_range_listKey _) false
  have hlisted : (listed ((setOne x false).run held).state env : List α) = held.listed env :=
    listed_congr (hkept held ⟨env, rfl⟩)
  rw [Action.run_bind, state_merge, hlisted, state_setOne, h.isOutdated_eq, accept]
  by_cases hold : (t (identifier x)).any (version x ≤ version ·)
  · have hrefused : merged? x (held.listed env) = none := by
      rw [merged?_eq_none_iff, h.list]
      exact hold
    rw [if_pos hold, if_pos hold, hrefused]
    exact h
  · rw [if_neg hold, if_neg hold]
    cases hmerged : merged? x (held.listed env) with
    | none =>
      rw [merged?_eq_none_iff, h.list] at hmerged
      exact absurd hmerged hold
    | some zs =>
      dsimp only
      refine ⟨fun id => ?_, ?_, ?_⟩
      · rw [Function.update_of_ne (entityKey_ne_listKey α α id env), Function.update_apply,
          Function.update_apply, h.one]
        simp only [entityKey_inj]
        split <;> rfl
      · rw [listed_update, byName_merged hmerged, h.list]
      · rw [listed_update]
        exact nodup_merged h.nodup hmerged

/-- Taking an identifier off the list leaves the rest of the list, whether it was on it or not. -/
theorem listed_removeFrom [LawfulRecord α] (env id : String) (held : Contents) :
    (listed ((removeFrom α env id).run held).state env : List α) =
      (held.listed env).filter fun x => identifier x ≠ id := by
  rw [state_removeFrom]
  cases hxs : (held (listKey α env)).bind (Record.ofListing? (α := α)) with
  | none =>
    rw [listed, hxs]
    rfl
  | some xs =>
    have hlisted : held.listed env = xs := by rw [listed, hxs, Option.getD_some]
    rw [hlisted]
    dsimp only
    split
    · exact listed_update
    · next hkept =>
      rw [hlisted, eq_comm, ← List.length_filter_eq_length_iff.trans List.filter_eq_self.symm]
      exact not_not.mp hkept

/-- **What is deleted and taken off is gone from both places.** -/
theorem Shows.deleteAndRemove [LawfulRecord α] (h : Shows env t held) (id : String) :
    Shows env (Function.update t id none)
      ((do deleteOne α id; removeFrom α env id : ContentsAction Unit).run held).state := by
  have hlisted : (listed ((deleteOne α id).run held).state env : List α) = held.listed env :=
    listed_congr (keeps_deleteOne (entityKey_notMem_range_listKey _) held ⟨env, rfl⟩)
  have hkept : Keeps (Set.range (entityKey α)) (removeFrom α env id) :=
    keeps_removeFrom (listKey_notMem_range_entityKey _) id
  rw [Action.run_bind]
  refine ⟨fun id' => ?_, ?_, ?_⟩
  · rw [hkept _ ⟨id', rfl⟩, state_deleteOne, Function.update_apply, Function.update_apply, h.one]
    simp only [entityKey_inj]
    split <;> rfl
  · rw [listed_removeFrom, hlisted, byName_filter, h.list]
  · rw [listed_removeFrom, hlisted]
    exact h.nodup.sublist (List.filter_sublist.map _)

end Contents

end FlagReplica
