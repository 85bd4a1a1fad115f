import FlagReplica.Proofs.Repository.Flushing
import FlagReplica.Proofs.Repository.Refresh
/-!
# What stands under a key

Four families of keys share each table of a repository, and what stands under a key is of the
family that its text begins with: under the key of a flag stands that flag, under the key of a list
stands a list. This holds of the cache, of the working set of the store and of its last snapshot,
whatever is done to a new repository and whatever the identifiers hold (`entries_inPlace`).

No operation looks at what it finds to see whether it is of the right kind, so all of them rely on
it. A write keeps it because every kind of things is stored under its own key (`StoresAdmitted`). A
look-up brings copies of what the store holds into the cache, a flush takes what is held into the
snapshot and going back takes it out again, so each of the three tables may get what another one
has, and the invariant has to be of all three (`Placed`).
-/

namespace FlagReplica

/-! ## Families of keys -/

/-- What the keys of things like this one begin with. -/
def Entry.family : Entry → String
  | .flag _ => "flag/"
  | .segment _ => "segment/"
  | .flags _ => "flags/"
  | .segments _ => "segments/"

/-- The identifier of a single thing. A list has none. -/
def Entry.identifier? : Entry → Option String
  | .flag f => some f.feature
  | .segment s => some s.identifier
  | .flags _ | .segments _ => none

/-- The key is one of the family, and names the thing if it is a single one. -/
def Entry.InPlace (key : String) (e : Entry) : Prop :=
  ∃ name, key = e.family ++ name ∧ ∀ id ∈ e.identifier?, name = id

/-- All that is held is held under a key of its own. -/
def Contents.InPlace (held : Contents) : Prop := ∀ key e, held key = some e → e.InPlace key

/-- The key of a name in the family of an entry. -/
def Entry.keyOf (name : String) : Entry → Key
  | .flag _ => .entity .flag name
  | .segment _ => .entity .segment name
  | .flags _ => .listing .flag name
  | .segments _ => .listing .segment name

theorem Entry.text_keyOf (name : String) (e : Entry) : (e.keyOf name).text = e.family ++ name := by
  cases e <;> rfl

/-- **No text is a key of two families**, nor one of two names in a family. -/
theorem Entry.family_append_inj {e e' : Entry} {name name' : String}
    (h : e.family ++ name = e'.family ++ name') : e.family = e'.family ∧ name = name' := by
  rw [← e.text_keyOf, ← e'.text_keyOf] at h
  have hkey : e.keyOf name = e'.keyOf name' := Key.text_injective h
  cases e <;> cases e' <;> cases hkey <;> exact ⟨rfl, rfl⟩

namespace Repository

variable {r : Repository} {s : Store}

/-! ## The invariant -/

/-- All that is cached, held by the store or saved in its snapshot is under a key of its own, and
nothing the store does fails. -/
structure Placed (r : Repository) : Prop where
  available : ∀ s, r.store = some s → s.unavailable = []
  cached : Contents.InPlace r.cache.peek?
  held : ∀ s, r.store = some s → Contents.InPlace s.get?
  saved : ∀ s, r.store = some s → Contents.InPlace s.persisted.get?

theorem placed_of_store (hs : r.store = some s) (havailable : s.unavailable = [])
    (hcached : Contents.InPlace r.cache.peek?) (hheld : Contents.InPlace s.get?)
    (hsaved : Contents.InPlace s.persisted.get?) : r.Placed where
  available s' hs' := by
    obtain rfl : s = s' := Option.some.inj (hs.symm.trans hs')
    exact havailable
  cached := hcached
  held s' hs' := by
    obtain rfl : s = s' := Option.some.inj (hs.symm.trans hs')
    exact hheld
  saved s' hs' := by
    obtain rfl : s = s' := Option.some.inj (hs.symm.trans hs')
    exact hsaved

theorem Fresh.placed (h : r.Fresh) : r.Placed := by
  cases h with
  | withStore capacity => exact placed_of_store rfl rfl nofun nofun nofun
  | empty capacity => exact ⟨nofun, nofun, nofun, nofun⟩

/-- A cache that holds all in place may take the place of the cache. -/
theorem Placed.recache (h : r.Placed) {cache : Cache String Entry} {clock : Time}
    (hcache : Contents.InPlace cache.peek?) :
    Placed { r with cache := cache, clock := clock } :=
  ⟨h.available, hcache, h.held, h.saved⟩

theorem Placed.lookUp (h : r.Placed) (key : String) :
    Placed ((Repository.lookUp key).run r).state := by
  have hget : Contents.InPlace (r.cache.get key).2.peek? := by
    intro l e he
    rw [Cache.peek?_snd_get] at he
    exact h.cached l e he
  rw [run_lookUp]
  split
  · exact h.recache hget
  · exact h.recache hget
  · next entry _ hfound =>
    obtain ⟨s, hs, hentry⟩ := Option.bind_eq_some_iff.mp hfound
    refine h.recache fun l e he => ?_
    rcases Cache.eq_or_peek?_of_fill he with ⟨rfl, rfl⟩ | hold
    · exact h.held s hs _ _ hentry
    · exact hget l e hold

/-- What a store holds may be changed under a key, if what is held there afterwards is in place. -/
theorem Placed.rewrite (h : r.Placed) (hs : r.store = some s) (key : String)
    {working : Table String Entry} (hworking : Contents.InPlace working.get?) :
    Placed { r with
      cache := r.cache.invalidate (r.clock + 1) key
      store := some { s with working := working }
      clock := r.clock + 1 } := by
  refine placed_of_store rfl (h.available s hs) (fun l e he => ?_) hworking (h.saved s hs)
  rw [Cache.peek?_invalidate] at he
  split at he
  · cases he
  · exact h.cached l e he

theorem Placed.put (h : r.Placed) {key : String} {entry : Entry} (hentry : entry.InPlace key) :
    Placed ((ExceptT.run (Repository.put key entry)).run r).state := by
  cases hs : r.store with
  | none =>
    rw [run_put_of_cache hs]
    refine h.recache fun l e he => ?_
    by_cases hsame : r.cache.peek? key = some entry
    · rw [Cache.snd_set_of_eq hsame] at he
      exact h.cached l e he
    · rw [Cache.snd_set_of_ne hsame, Cache.peek?_touch] at he
      rcases Cache.eq_or_peek?_of_insert he with ⟨rfl, rfl⟩ | hold
      · exact hentry
      · exact h.cached l e hold
  | some s =>
    rw [run_put_of_store hs (h.available s hs)]
    split
    · exact h
    · refine h.rewrite hs key fun l e he => ?_
      rw [Table.get?_put] at he
      split at he
      · next hl =>
        cases he
        exact hl ▸ hentry
      · exact h.held s hs l e he

theorem Placed.remove (h : r.Placed) (key : String) :
    Placed ((ExceptT.run (Repository.remove key)).run r).state := by
  cases hs : r.store with
  | none =>
    rw [run_remove_of_cache hs]
    refine h.recache fun l e he => ?_
    rw [Cache.peek?_snd_remove] at he
    split at he
    · cases he
    · exact h.cached l e he
  | some s =>
    rw [run_remove_of_store hs (h.available s hs)]
    split
    · exact h
    · refine h.rewrite hs key fun l e he => ?_
      rw [Table.get?_erase] at he
      split at he
      · cases he
      · exact h.held s hs l e he

theorem stepwise_placed : StepwiseWith (fun key e => e.InPlace key) fun r r' =>
    r.Placed → r'.Placed where
  refl _ := id
  trans h h' := h' ∘ h
  lookUp key _ h := h.lookUp key
  put _ _ hentry _ h := h.put hentry
  remove key _ h := h.remove key

/-! ## Runs -/

theorem storesAdmitted_flag :
    StoresAdmitted (fun key e => e.InPlace key) Flag where
  entity f := ⟨f.feature, rfl, fun _ hid => Option.some.inj hid⟩
  listing env _ := ⟨env, rfl, nofun⟩

theorem storesAdmitted_segment :
    StoresAdmitted (fun key e => e.InPlace key) Segment where
  entity g := ⟨g.identifier, rfl, fun _ hid => Option.some.inj hid⟩
  listing env _ := ⟨env, rfl, nofun⟩

theorem Placed.load (h : r.Placed) : Placed ((ExceptT.run Repository.load).run r).state := by
  obtain ⟨cache, store, clock⟩ := r
  cases store with
  | none => exact h
  | some s =>
    have hsaved : Contents.InPlace s.persisted.get? := h.saved s rfl
    obtain ⟨working, persisted, persistedAt, unavailable⟩ := s
    cases h.available _ rfl
    -- what was saved is held now, and no copy is left
    exact placed_of_store rfl rfl nofun hsaved hsaved

theorem Placed.flush (h : r.Placed) :
    Placed ((ExceptT.run persistIfChanged).run r).state := by
  rcases state_persistIfChanged h.available with hsame | ⟨s, hs, hsaved⟩
  · rw [hsame]
    exact h
  · rw [hsaved]
    exact placed_of_store rfl (h.available s hs) h.cached (h.held s hs) (h.held s hs)

/-- **Every act leaves everything in its place.** -/
theorem Act.placed_after (act : Act) (h : r.Placed) : (act.after r).Placed := by
  cases act with
  | call c => exact c.leads_with stepwise_placed storesAdmitted_flag storesAdmitted_segment r h
  | load => exact h.load
  | flush => exact h.flush

theorem placed_after (acts : List Act) (h : r.Placed) : (after acts r).Placed := by
  induction acts generalizing r with
  | nil => exact h
  | cons act acts ih => exact ih (act.placed_after h)

/-- A new repository has a store after a run exactly if it had one, and copies are of what the store
holds. -/
theorem Fresh.copies_after (h : r.Fresh) (acts : List Act) :
    (after acts r).hasStore = r.hasStore ∧
      ∀ s, (after acts r).store = some s →
        ∀ key e, (after acts r).cache.peek? key = some e → s.get? key = some e := by
  cases h with
  | withStore capacity =>
    obtain ⟨s, htracked⟩ := tracked_after acts (tracked_withStore capacity)
    refine ⟨by rw [hasStore, htracked.store]; rfl, fun s' hs' => ?_⟩
    rw [htracked.store] at hs'
    cases hs'
    exact htracked.copies
  | empty capacity =>
    have hnone := store_after_eq_none (r := .empty capacity) rfl acts
    refine ⟨by rw [hasStore, hnone]; rfl, fun s hs => ?_⟩
    rw [hnone] at hs
    cases hs

/-- **Everything stands in its place.** Take a new repository, over a store of its own or without
one and whatever the capacity of its cache, and do anything to it: read and write flags, segments
and lists, go back to the snapshot, flush. Then each entry of the cache, of the store and of its
snapshot is under a key of its own family, a single flag or segment under its identifier. No text is
a key of two families or two names. And every copy in the cache is what the store holds. -/
theorem entries_inPlace (h : r.Fresh) (acts : List Act) :
    let r' := after acts r
    (Contents.InPlace r'.cache.peek? ∧ r'.hasStore = r.hasStore ∧
      ∀ s, r'.store = some s → Contents.InPlace s.get? ∧ Contents.InPlace s.persisted.get? ∧
        ∀ key e, r'.cache.peek? key = some e → s.get? key = some e) ∧
      ∀ (e e' : Entry) (name name' : String), e.family ++ name = e'.family ++ name' →
        e.family = e'.family ∧ name = name' := by
  intro r'
  have hplaced : r'.Placed := placed_after acts h.placed
  obtain ⟨hstore, hcopies⟩ := h.copies_after acts
  exact ⟨⟨hplaced.cached, hstore, fun s hs =>
    ⟨hplaced.held s hs, hplaced.saved s hs, hcopies s hs⟩⟩,
    fun _ _ _ _ => Entry.family_append_inj⟩

/-- A flag whose name reads as the key of a segment, and a list of an environment whose name reads
as one of a flag, that are flushed, dropped, gone back to and read again. -/
def slashedActs : List Act := [
  .call (.flag (.set (bareFlag "/segment/a") false)),
  .call (.segment (.setAll "flag/" [bareSegment "s/a" 1] true)), .flush,
  .call (.flag (.delete "/segment/a")), .load, .call (.flag (.get "/segment/a"))]

theorem entries_inPlace_slashed :
    let opened := Repository.withStore 1 .empty
    let r' := after slashedActs opened
    opened.Fresh ∧ Contents.InPlace r'.cache.peek? ∧
      (∃ s, r'.store = some s ∧ Contents.InPlace s.get? ∧ Contents.InPlace s.persisted.get? ∧
        s.get? "flag//segment/a" = r'.cache.peek? "flag//segment/a") ∧
      r'.cache.peek? "flag//segment/a" = some (.flag (bareFlag "/segment/a")) ∧
      r'.stored? "segments/flag/" = some (.segments [bareSegment "s/a" 1]) := by
  intro opened r'
  have hcached : r'.cache.peek? "flag//segment/a" = some (.flag (bareFlag "/segment/a")) := by
    decide +kernel
  obtain ⟨⟨hinPlace, hstore, hheld⟩, -⟩ := entries_inPlace (.withStore 1) slashedActs
  obtain ⟨s, hs⟩ : ∃ s, r'.store = some s := Option.isSome_iff_exists.mp hstore
  obtain ⟨hworking, hsaved, hcopies⟩ := hheld s hs
  refine ⟨.withStore 1, hinPlace, ⟨s, hs, hworking, hsaved, ?_⟩, hcached, by decide +kernel⟩
  rw [hcached]
  exact hcopies _ _ hcached

end Repository

end FlagReplica
