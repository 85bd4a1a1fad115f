import FlagReplica.Proofs.Cache.Content
import FlagReplica.Proofs.Repository.Contents
/-!
# Repositories that show what they hold

A repository is `Faithful` if nothing gets between what is held and who asks for it: either it has a
store that is available, and every copy in its cache is what the store holds, or it has none, and
its cache has room for every key that is written. Under this condition the three ways in which a
repository touches what it holds (`lookUp`, `put`, `remove`) do the same with a store and without
one, and keep the condition: `Faithful.lookUp`, `Faithful.put`, `Faithful.remove`.

All of what a store and a cache do differently is dealt with here. Above it only
`Repository.stored?` is spoken of.
-/

namespace FlagReplica

namespace Repository

variable {r : Repository} {s : Store} {key : String} {entry : Entry}

theorem run_state {α : Type} (f : Repository → RepositoryWrite α) (r : Repository) :
    (ExceptT.run (state >>= f)).run r = (ExceptT.run (f r)).run r := rfl

theorem run_onStore (a : StoreAction Unit) (hs : r.store = some s) :
    let o := (ExceptT.run a).run s
    (ExceptT.run (onStore a)).run r = ⟨o.value, { r with store := some o.state }, o.notices⟩ := by
  obtain ⟨cache, store, clock⟩ := r
  cases hs
  rfl

/-- An operation of the store is carried out, or fails and leaves everything as it was. -/
theorem run_onStore_require (op : StoreOperation) (f : Store → Store) (hs : r.store = some s) :
    (ExceptT.run (onStore (do Store.require op; ExceptT.lift (.modify f)))).run r =
      if op ∈ s.unavailable then ⟨.error (.storage (op.name ++ " failed")), r, []⟩
      else ⟨.ok (), { r with store := some (f s) }, []⟩ := by
  have hrun : (ExceptT.run (do Store.require op; ExceptT.lift (.modify f))).run s =
      if op ∈ s.unavailable then ⟨.error (.storage (op.name ++ " failed")), s, []⟩
      else ⟨.ok (), f s, []⟩ := by
    rw [Store.require]
    by_cases hop : op ∈ s.unavailable
    · simp [hop]
    · simp [hop]
  rw [run_onStore _ hs, hrun]
  split
  · rw [← hs]
  · rfl

/-- **A write over a store** does nothing if the entry is there, and fails if the store does. -/
theorem run_put_of_some (hs : r.store = some s) :
    (ExceptT.run (put key entry)).run r =
      if s.get? key = some entry then ⟨.ok false, r, []⟩
      else if .set ∈ s.unavailable then ⟨.error (.storage "set failed"), r, []⟩
      else ⟨.ok true, { r with
        cache := r.cache.invalidate (r.clock + 1) key
        store := some { s with working := s.working.put key entry }
        clock := r.clock + 1 }, []⟩ := by
  have hstored : r.stored? key = s.get? key := by rw [stored?, hs]
  rw [put, run_state, if_neg (by simp [hs]), hstored]
  by_cases hsame : s.get? key = some entry
  · rw [if_pos hsame, if_pos hsame]
    rfl
  · rw [if_neg hsame, if_neg hsame, ExceptT.run_bind, Action.run_bind, Store.set,
      run_onStore_require .set _ hs]
    by_cases hset : .set ∈ s.unavailable
    · simp only [if_pos hset]
      rfl
    · simp only [if_neg hset]
      rfl

/-- **A removal over a store** does nothing if nothing is there, and fails if the store does. -/
theorem run_remove_of_some (hs : r.store = some s) :
    (ExceptT.run (remove key)).run r =
      if s.get? key = none then ⟨.ok false, r, []⟩
      else if .remove ∈ s.unavailable then ⟨.error (.storage "remove failed"), r, []⟩
      else ⟨.ok true, { r with
        cache := r.cache.invalidate (r.clock + 1) key
        store := some { s with working := s.working.erase key }
        clock := r.clock + 1 }, []⟩ := by
  have hstored : r.stored? key = s.get? key := by rw [stored?, hs]
  rw [remove, run_state, if_neg (by simp [hs]), hstored]
  by_cases habsent : s.get? key = none
  · rw [if_pos habsent, if_pos (by simp [habsent])]
    rfl
  · rw [if_neg habsent, if_neg (by simpa using habsent), ExceptT.run_bind, Action.run_bind,
      Store.remove, run_onStore_require .remove _ hs]
    by_cases hremove : .remove ∈ s.unavailable
    · simp only [if_pos hremove]
      rfl
    · simp only [if_neg hremove]
      rfl

theorem run_put_of_store (hs : r.store = some s) (havailable : s.unavailable = []) :
    (ExceptT.run (put key entry)).run r =
      if s.get? key = some entry then ⟨.ok false, r, []⟩
      else ⟨.ok true, { r with
        cache := r.cache.invalidate (r.clock + 1) key
        store := some { s with working := s.working.put key entry }
        clock := r.clock + 1 }, []⟩ := by
  have hset : .set ∉ s.unavailable := by rw [havailable]; exact List.not_mem_nil
  rw [run_put_of_some hs, if_neg hset]

theorem run_remove_of_store (hs : r.store = some s) (havailable : s.unavailable = []) :
    (ExceptT.run (remove key)).run r =
      if s.get? key = none then ⟨.ok false, r, []⟩
      else ⟨.ok true, { r with
        cache := r.cache.invalidate (r.clock + 1) key
        store := some { s with working := s.working.erase key }
        clock := r.clock + 1 }, []⟩ := by
  have hremove : .remove ∉ s.unavailable := by rw [havailable]; exact List.not_mem_nil
  rw [run_remove_of_some hs, if_neg hremove]

theorem run_put_of_cache (hs : r.store = none) :
    (ExceptT.run (put key entry)).run r =
      ⟨.ok (r.cache.set (r.clock + 1) key entry).1,
        { r with cache := (r.cache.set (r.clock + 1) key entry).2, clock := r.clock + 1 }, []⟩ := by
  rw [put, run_state, if_pos (by simp [hs])]
  rfl

theorem run_remove_of_cache (hs : r.store = none) :
    (ExceptT.run (remove key)).run r =
      ⟨.ok (r.cache.peek? key).isSome,
        { r with cache := (r.cache.remove (r.clock + 1) key).2, clock := r.clock + 1 }, []⟩ := by
  have hvalue : (r.cache.remove (r.clock + 1) key).1 = r.cache.peek? key := Cache.fst_remove
  rw [remove, run_state, if_pos (by simp [hs]), ← hvalue]
  rfl

/-- A look-up finds a copy, or else what the store holds, of which it then keeps a copy. -/
theorem run_lookUp (key : String) (r : Repository) :
    (lookUp key).run r =
      match (r.cache.get key).1, r.store.bind (·.get? key) with
      | some entry, _ => ⟨some entry, { r with cache := (r.cache.get key).2 }, []⟩
      | none, none => ⟨none, { r with cache := (r.cache.get key).2 }, []⟩
      | none, some entry =>
        ⟨some entry, { r with cache := (r.cache.get key).2.fill key entry }, []⟩ := by
  have hcopy : (onCache (Cache.get key)).run r =
      ⟨(r.cache.get key).1, { r with cache := (r.cache.get key).2 }, []⟩ := rfl
  rw [lookUp, Action.run_bind, hcopy]
  cases (r.cache.get key).1 with
  | some entry => rfl
  | none =>
    cases hfound : r.store.bind (·.get? key) with
    | none =>
      simp only [Action.run_bind, Action.run_get, hfound]
      rfl
    | some entry =>
      simp only [Action.run_bind, Action.run_get, hfound]
      rfl

/-! ## Faithful repositories -/

/-- Nothing gets between what is held and who asks for it. -/
structure Faithful (room : Finset String) (r : Repository) : Prop where
  available : ∀ s, r.store = some s → s.unavailable = []
  copies : ∀ s, r.store = some s → ∀ key e, r.cache.peek? key = some e → s.get? key = some e
  fits : r.store = none → r.cache.Fits room

variable {room : Finset String}

section Modes

variable {cache : Cache String Entry} {clock : Time}

theorem stored?_of_cache : (⟨cache, none, clock⟩ : Repository).stored? = cache.peek? := rfl

theorem stored?_of_store : (⟨cache, some s, clock⟩ : Repository).stored? = s.get? := rfl

theorem faithful_of_cache (h : cache.Fits room) : Faithful room ⟨cache, none, clock⟩ where
  available _ hs := by cases hs
  copies _ hs := by cases hs
  fits _ := h

theorem faithful_of_store (havailable : s.unavailable = [])
    (hcopies : ∀ key e, cache.peek? key = some e → s.get? key = some e) :
    Faithful room ⟨cache, some s, clock⟩ where
  available _ hs := by cases hs; exact havailable
  copies _ hs := by cases hs; exact hcopies
  fits hs := by cases hs

theorem faithful_empty {capacity : Nat} (h : room.card ≤ max capacity 1) :
    (Repository.empty capacity).Faithful room :=
  faithful_of_cache (Cache.Fits.empty h)

theorem faithful_withStore (capacity : Nat) :
    (Repository.withStore capacity .empty).Faithful room :=
  faithful_of_store rfl fun _ _ he => by cases he

end Modes

/-- The cache may be replaced by one with other copies, if there is a store, and otherwise by one
with the same entries. -/
theorem Faithful.recache (hr : r.Faithful room) (cache : Cache String Entry)
    (hcopies : ∀ s, r.store = some s → ∀ key e, cache.peek? key = some e → s.get? key = some e)
    (hfits : r.store = none → cache.Fits room ∧ ∀ l, cache.peek? l = r.cache.peek? l) :
    ({ r with cache := cache } : Repository).stored? = r.stored? ∧
      ({ r with cache := cache } : Repository).Faithful room := by
  refine ⟨funext fun l => ?_, hr.available, hcopies, fun hs => (hfits hs).1⟩
  cases hs : r.store with
  | none => simp only [stored?, hs, (hfits hs).2]
  | some s => simp only [stored?, hs]

/-- **A look-up finds what is held**, and leaves it as it is. -/
theorem Faithful.lookUp (hr : r.Faithful room) (key : String) :
    ∃ r' : Repository, (Repository.lookUp key).run r = ⟨r.stored? key, r', []⟩ ∧
      r'.stored? = r.stored? ∧ r'.Faithful room := by
  have hget := hr.recache (r.cache.get key).2
    (fun s hs l e he => hr.copies s hs l e (Cache.peek?_snd_get.symm.trans he))
    (fun hs => ⟨(hr.fits hs).snd_get, fun l => Cache.peek?_snd_get⟩)
  rw [run_lookUp, Cache.fst_get]
  cases hp : r.cache.peek? key with
  | some e =>
    have hvalue : r.stored? key = some e := by
      cases hs : r.store with
      | none => rw [stored?, hs]; exact hp
      | some s => rw [stored?, hs]; exact hr.copies s hs key e hp
    exact ⟨_, by rw [hvalue], hget⟩
  | none =>
    cases hfound : r.store.bind (·.get? key) with
    | none =>
      have hvalue : r.stored? key = none := by
        cases hs : r.store with
        | none => rw [stored?, hs]; exact hp
        | some s => rw [stored?, hs]; rw [hs] at hfound; exact hfound
      exact ⟨_, by rw [hvalue], hget⟩
    | some e =>
      obtain ⟨s, hs, he⟩ := Option.bind_eq_some_iff.mp hfound
      have hvalue : r.stored? key = some e := by rw [stored?, hs]; exact he
      refine ⟨_, by rw [hvalue], hr.recache _ (fun s' hs' l e' he' => ?_) (fun hs' => ?_)⟩
      · -- what is found among the copies is the new one, or was a copy before
        rw [hs, Option.some.injEq] at hs'
        rcases Cache.eq_or_peek?_of_fill he' with ⟨rfl, rfl⟩ | hold
        · exact hs' ▸ he
        · exact hr.copies s' (hs' ▸ hs) l e' (Cache.peek?_snd_get.symm.trans hold)
      · rw [hs] at hs'
        cases hs'

/-- Whether a write of an entry is a change does not depend on the room. -/
theorem Faithful.value_put (hr : r.Faithful room) (key : String) (entry : Entry) :
    ((ExceptT.run (Repository.put key entry)).run r).value =
      .ok (decide (r.stored? key ≠ some entry)) := by
  obtain ⟨cache, store, clock⟩ := r
  cases store with
  | none =>
    rw [run_put_of_cache rfl, Cache.fst_set, stored?_of_cache]
  | some s =>
    rw [run_put_of_store rfl (hr.available s rfl), stored?_of_store]
    split
    · next h => simp [h]
    · next h => simp [h]

/-- **A write of an entry** holds it, and says whether that is a change. A change needs room for
the key. -/
theorem Faithful.put (hr : r.Faithful room) (key : String) (entry : Entry)
    (hroom : r.stored? key ≠ some entry → key ∈ room) :
    ∃ r' : Repository,
      (ExceptT.run (Repository.put key entry)).run r =
        ⟨.ok (decide (r.stored? key ≠ some entry)), r', []⟩ ∧
      r'.stored? = Function.update r.stored? key (some entry) ∧ r'.Faithful room := by
  obtain ⟨cache, store, clock⟩ := r
  cases store with
  | none =>
    have hfits : cache.Fits room := hr.fits rfl
    rw [run_put_of_cache rfl, Cache.fst_set, stored?_of_cache]
    by_cases h : cache.peek? key = some entry
    · -- the clock is read, but what is cached is not even used
      refine ⟨⟨cache, none, clock + 1⟩, ?_, ?_, faithful_of_cache hfits⟩
      · simp [h, Cache.snd_set_of_eq h]
      · rw [stored?_of_cache, ← h, Function.update_eq_self]
    · have hmem : key ∈ room := hroom h
      refine ⟨⟨(cache.insert key entry).touch (clock + 1), none, clock + 1⟩, ?_, ?_, ?_⟩
      · simp [h, Cache.snd_set_of_ne h]
      · funext l
        rw [stored?_of_cache, Cache.peek?_touch, hfits.peek?_insert hmem, Function.update_apply]
      · refine faithful_of_cache (Cache.Fits.touch ?_)
        rw [hfits.insert_eq hmem]
        exact hfits.put hmem entry
  | some s =>
    have havailable : s.unavailable = [] := hr.available s rfl
    rw [run_put_of_store rfl havailable, stored?_of_store]
    by_cases h : s.get? key = some entry
    · refine ⟨_, by rw [if_pos h]; simp [h], ?_, hr⟩
      rw [stored?_of_store, ← h, Function.update_eq_self]
    · refine ⟨⟨cache.invalidate (clock + 1) key,
        some { s with working := s.working.put key entry }, clock + 1⟩, ?_, ?_,
        faithful_of_store havailable ?_⟩
      · rw [if_neg h]
        simp [h]
      · funext l
        rw [stored?_of_store, Function.update_apply]
        exact Table.get?_put s.working key l entry
      · intro l e he
        rw [Cache.peek?_invalidate] at he
        split at he
        · cases he
        · next hl =>
          refine (Table.get?_put s.working key l entry).trans ?_
          rw [if_neg hl]
          exact hr.copies s rfl l e he

/-- **A removal** leaves nothing under the key, and says whether that is a change. -/
theorem Faithful.remove (hr : r.Faithful room) (key : String) :
    ∃ r' : Repository,
      (ExceptT.run (Repository.remove key)).run r =
        ⟨.ok (decide (r.stored? key ≠ none)), r', []⟩ ∧
      r'.stored? = Function.update r.stored? key none ∧ r'.Faithful room := by
  obtain ⟨cache, store, clock⟩ := r
  cases store with
  | none =>
    have hfits : cache.Fits room := hr.fits rfl
    rw [run_remove_of_cache rfl, stored?_of_cache]
    refine ⟨⟨(cache.remove (clock + 1) key).2, none, clock + 1⟩, ?_, ?_,
      faithful_of_cache hfits.snd_remove⟩
    · cases cache.peek? key <;> rfl
    · funext l
      rw [stored?_of_cache, Cache.peek?_snd_remove, Function.update_apply]
  | some s =>
    have havailable : s.unavailable = [] := hr.available s rfl
    rw [run_remove_of_store rfl havailable, stored?_of_store]
    by_cases h : s.get? key = none
    · refine ⟨_, by rw [if_pos h]; simp [h], ?_, hr⟩
      rw [stored?_of_store, ← h, Function.update_eq_self]
    · refine ⟨⟨cache.invalidate (clock + 1) key,
        some { s with working := s.working.erase key }, clock + 1⟩, ?_, ?_,
        faithful_of_store havailable ?_⟩
      · rw [if_neg h]
        simp [h]
      · funext l
        rw [stored?_of_store, Function.update_apply]
        exact Table.get?_erase s.working key l
      · intro l e he
        rw [Cache.peek?_invalidate] at he
        split at he
        · cases he
        · next hl =>
          refine (Table.get?_erase s.working key l).trans ?_
          rw [if_neg hl]
          exact hr.copies s rfl l e he

/-! ## Flushes -/

/-- A flush leaves the repository as it is, or makes a snapshot of the store. -/
theorem state_persistIfChanged (havailable : ∀ s, r.store = some s → s.unavailable = []) :
    ((ExceptT.run persistIfChanged).run r).state = r ∨
      ∃ s, r.store = some s ∧ ((ExceptT.run persistIfChanged).run r).state =
        { r with
          store := some { s with persisted := s.working, persistedAt := some (r.clock + 1) }
          clock := r.clock + 1 } := by
  obtain ⟨⟨entries, capacity, updatedAt⟩, store, clock⟩ := r
  cases store with
  | none => exact .inl rfl
  | some s =>
    cases updatedAt with
    | none => exact .inl rfl
    | some updatedAt =>
      rw [persistIfChanged, run_state]
      dsimp only
      by_cases h : isPersisted updatedAt s
      · rw [if_pos h]
        exact .inl rfl
      · rw [if_neg h]
        obtain ⟨working, persisted, persistedAt, unavailable⟩ := s
        cases havailable _ rfl
        exact .inr ⟨_, rfl, rfl⟩

/-- **A flush changes nothing that is held.** -/
theorem Faithful.persistIfChanged (hr : r.Faithful room) :
    ((ExceptT.run Repository.persistIfChanged).run r).state.stored? = r.stored? ∧
      ((ExceptT.run Repository.persistIfChanged).run r).state.Faithful room := by
  rcases state_persistIfChanged hr.available with h | ⟨s, hs, h⟩
  · rw [h]
    exact ⟨rfl, hr⟩
  · rw [h]
    obtain ⟨cache, store, clock⟩ := r
    cases hs
    exact ⟨rfl, faithful_of_store (hr.available s rfl) (hr.copies s rfl)⟩

/-! ## New repositories -/

/-- A repository with nothing in it yet, over a new store of its own or without one. -/
inductive Fresh : Repository → Prop
  | withStore (capacity : Nat) : Fresh (.withStore capacity .empty)
  | empty (capacity : Nat) : Fresh (.empty capacity)

/-- Without a store, there is room for the keys that notices tell were written. -/
def HasRoom (ns : List Notice) (r : Repository) : Prop :=
  r.store = none → (keysWritten ns).card ≤ r.cache.capacity

theorem Fresh.faithful {ns : List Notice} (h : r.Fresh) (hroom : r.HasRoom ns) :
    r.Faithful (keysWritten ns) := by
  cases h with
  | withStore capacity => exact faithful_withStore capacity
  | empty capacity => exact faithful_empty (hroom rfl)

theorem Fresh.stored?_eq (h : r.Fresh) : r.stored? = Contents.nothing := by
  cases h <;> rfl

end Repository

end FlagReplica
