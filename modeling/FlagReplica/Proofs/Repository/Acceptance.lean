import FlagReplica.Proofs.Repository.Refresh
/-!
# What an accepted list leaves

A store may fail at any of its operations. A list write that comes upon a failure has stored a part
of its list by then, and says that it failed. If it says that it went well, none of its parts
failed, and the store holds all that the write comes to (`Lands`). Without a store no write fails,
but what there is no room for is pushed out, so there it is only certain that nothing is held that
the write does not leave.

`Takes` says both of a list that takes the place of the list of its environment, and
`takes_of_setAll_ok` that an authoritative list does whenever its write says that it went well.
-/

namespace FlagReplica.Repository

open Contents (Within)
open Record (kind identifier version)

variable {α : Type} [Record α] {r : Repository} {env : String} {xs : List α}

/-! ## Writes over a store that may fail -/

/-- If the write goes well over a store, the store then holds what the action on contents leaves. -/
def Lands (w : RepositoryWrite Unit) (b : ContentsAction Unit) : Prop :=
  ∀ r s, r.store = some s → ((ExceptT.run w).run r).value = .ok () →
    ∃ s', ((ExceptT.run w).run r).state.store = some s' ∧ s'.get? = (b.run s.get?).state

namespace Lands

theorem pure : Lands (Pure.pure ()) (Pure.pure ()) := fun _ s hs _ => ⟨s, hs, rfl⟩

theorem bind {w w' : RepositoryWrite Unit} {b b' : ContentsAction Unit} (h : Lands w b)
    (h' : Lands w' b') : Lands (do w; w') (do b; b') := by
  intro r s hs hok
  rw [ExceptT.run_bind, Action.run_bind] at hok ⊢
  cases hvalue : ((ExceptT.run w).run r).value with
  | error e =>
    rw [hvalue] at hok
    cases hok
  | ok u =>
    rw [hvalue] at hok
    obtain ⟨s', hs', hheld⟩ := h r s hs hvalue
    rw [Action.run_bind, ← hheld]
    exact h' _ s' hs' hok

theorem forEach {β : Type} {f : β → RepositoryWrite Unit} {g : β → ContentsAction Unit}
    (xs : List β) (h : ∀ x, Lands (f x) (g x)) : Lands (Repository.forEach f xs) (xs.forM g) := by
  induction xs with
  | nil => exact .pure
  | cons x xs ih => exact (h x).bind ih

/-- A write that tells of its change goes well only if the write does. -/
theorem telling {w : RepositoryWrite Bool} {b : ContentsAction Unit} (c : Change)
    (h : ∀ r s changed, r.store = some s → ((ExceptT.run w).run r).value = .ok changed →
      ∃ s', ((ExceptT.run w).run r).state.store = some s' ∧ s'.get? = (b.run s.get?).state) :
    Lands (Repository.telling c w) b := by
  intro r s hs hok
  cases hvalue : ((ExceptT.run w).run r).value with
  | error e =>
    rw [Repository.telling, ExceptT.run_bind, Action.run_bind, hvalue] at hok
    cases hok
  | ok changed =>
    rw [run_telling hvalue]
    exact h r s changed hs hvalue

theorem put (key : String) (entry : Entry) (c : Change) :
    Lands (Repository.telling c (Repository.put key entry)) (Contents.put key entry c) := by
  refine telling c fun r s changed hs hok => ?_
  rw [run_put_of_some hs] at hok ⊢
  split at hok
  · next hsame =>
    rw [if_pos hsame]
    exact ⟨s, hs, (Function.update_eq_self_iff.mpr hsame.symm).symm⟩
  · next hother =>
    split at hok
    · cases hok
    · next hset =>
      rw [if_neg hother, if_neg hset]
      refine ⟨_, rfl, funext fun l => ?_⟩
      exact (Table.get?_put s.working key l entry).trans (Function.update_apply _ _ _ _).symm

theorem remove (key : String) (c : Change) :
    Lands (Repository.telling c (Repository.remove key)) (Contents.drop key c) := by
  refine telling c fun r s changed hs hok => ?_
  rw [run_remove_of_some hs] at hok ⊢
  split at hok
  · next habsent =>
    rw [if_pos habsent]
    exact ⟨s, hs, (Function.update_eq_self_iff.mpr habsent.symm).symm⟩
  · next hpresent =>
    split at hok
    · cases hok
    · next hremove =>
      rw [if_neg hpresent, if_neg hremove]
      refine ⟨_, rfl, funext fun l => ?_⟩
      exact (Table.get?_erase s.working key l).trans (Function.update_apply _ _ _ _).symm

end Lands

/-- **An authoritative list that is accepted** is stored as on contents. -/
theorem stored?_setAll_of_ok {s : Store} (hs : r.store = some s)
    (hok : ((ExceptT.run (setAll env xs true)).run r).value = .ok ()) :
    ((ExceptT.run (setAll env xs true)).run r).state.stored? =
      ((Contents.setAll env xs true).run r.stored?).state := by
  have hheld : r.stored? = s.get? := by
    funext key
    rw [stored?, hs]
  have hlist : Lands
      (telling (.listStored (kind α) env) (put (listKey α env) (Record.toListing xs)))
      (Contents.put (listKey α env) (Record.toListing xs) (.listStored (kind α) env)) := .put _ _ _
  have hsets : Lands (forEach (fun x => setOne x true) xs)
      (xs.forM fun x => Contents.setOne x true) := .forEach xs fun _ => .put _ _ _
  -- what is missing is settled before anything is written
  have hdeletes : Lands
      (forEach (fun old => deleteOne α (identifier old))
        (missingFrom xs (Contents.listed r.stored? env)))
      ((missingFrom xs (Contents.listed r.stored? env)).forM fun old =>
        Contents.deleteOne α (identifier old)) := .forEach _ fun _ => .remove _ _
  have hlands : ∃ s', ((ExceptT.run (setAll env xs true)).run r).state.store = some s' ∧
      s'.get? = ((Contents.setAll env xs true).run r.stored?).state := by
    rw [setAll_eq, run_state] at hok ⊢
    rw [hheld] at hdeletes hok ⊢
    exact (hlist.bind (hsets.bind hdeletes)) r s hs hok
  obtain ⟨s', hs', hleft⟩ := hlands
  funext key
  rw [stored?, hs', ← hleft]

/-! ## Lists that take their place -/

/-- There is a place for what the list comes to: a store, or a cache with room for what it holds and
for what is written. -/
def HasPlace (env : String) (xs : List α) (r : Repository) : Prop :=
  r.hasStore = true ∨ ∃ room, r.cache.Fits room ∧
    keysWritten ((ExceptT.run (setAll env xs true)).run r).notices ⊆ room

/-- From a repository before to one after, a list took the place of the list of its environment. -/
structure Takes (env : String) (xs : List α) (before after : Repository) : Prop where
  /-- Nothing is held that the list does not leave. -/
  within : Within after.stored? ((Contents.setAll env xs true).run before.stored?).state
  /-- If there is a place for it, all that it leaves is held. -/
  whole : before.HasPlace env xs →
    after.stored? = ((Contents.setAll env xs true).run before.stored?).state
  /-- So the environment has the list, in its order, -/
  list : before.HasPlace env xs → Contents.listed after.stored? env = xs
  /-- and everything in a list that names nothing twice is held by itself. -/
  found : before.HasPlace env xs → (xs.map identifier).Nodup →
    ∀ x ∈ xs, Contents.find? after.stored? (identifier x) = some x
  /-- What was listed before and is not in the list is held no more. -/
  gone : ∀ old ∈ (Contents.listed before.stored? env : List α),
    identifier old ∉ xs.map identifier → after.stored? (entityKey α (identifier old)) = none

/-- If there is a place for it, all that an accepted list leaves is held. -/
theorem HasPlace.stored?_setAll (hplace : r.HasPlace env xs)
    (hok : ((ExceptT.run (setAll env xs true)).run r).value = .ok ()) :
    ((ExceptT.run (setAll env xs true)).run r).state.stored? =
      ((Contents.setAll env xs true).run r.stored?).state := by
  cases hs : r.store with
  | some s => exact stored?_setAll_of_ok hs hok
  | none =>
    obtain ⟨room, hfits, hroom⟩ := hplace.resolve_left (by simp [hasStore, hs])
    have hr : r.Faithful room :=
      ⟨(Honest.of_cache hs).available, (Honest.of_cache hs).copies, fun _ => hfits⟩
    obtain ⟨-, hstored, -⟩ := (followsWrite_setAll env xs true).run_eq hr hroom
    rw [hstored, Action.run_map]

/-- Nothing is held that an accepted list does not leave. -/
theorem within_setAll_of_ok (hok : ((ExceptT.run (setAll env xs true)).run r).value = .ok ()) :
    Within ((ExceptT.run (setAll env xs true)).run r).state.stored?
      ((Contents.setAll env xs true).run r.stored?).state := by
  cases hs : r.store with
  | some s => exact .of_eq (stored?_setAll_of_ok hs hok)
  | none => exact ((Honest.of_cache hs).setAll env xs).2.2

/-- **A list that is accepted takes its place.** -/
theorem takes_of_setAll_ok [LawfulRecord α]
    (hok : ((ExceptT.run (setAll env xs true)).run r).value = .ok ()) :
    Takes env xs r ((ExceptT.run (setAll env xs true)).run r).state := by
  have hwithin := within_setAll_of_ok hok
  refine ⟨hwithin, fun hplace => hplace.stored?_setAll hok, fun hplace => ?_,
    fun hplace hxs x hx => ?_, fun old hold hmissing => ?_⟩
  · rw [hplace.stored?_setAll hok, Contents.listed_setAll]
  · have hname : byName xs (identifier x) = some x := (byName_eq_some_iff hxs).mpr ⟨hx, rfl⟩
    rw [hplace.stored?_setAll hok, Contents.find?, Contents.state_setAll_entityKey hxs, hname,
      Option.map_some, Option.some_or, Option.bind_some, LawfulRecord.ofEntry?_toEntry]
  · -- what the list leaves has nothing of it, and no more is held
    have hgone : ((Contents.setAll env xs true).run r.stored?).state
        (entityKey α (identifier old)) = none := by
      rw [Contents.state_setAll_initial, Contents.state_forM_deleteOne, byName_missingFrom,
        if_pos (byName_eq_none_iff.mpr hmissing), if_neg]
      rw [byName_eq_none_iff, not_not]
      exact List.mem_map_of_mem hold
    by_contra hsome
    exact hwithin.ne_none hsome hgone

end FlagReplica.Repository
