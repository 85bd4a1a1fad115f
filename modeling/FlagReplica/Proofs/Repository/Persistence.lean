import FlagReplica.Proofs.Repository.Stepwise
/-!
# What was flushed is what is restored

A flush is left out if nothing was written since the last one, and whether anything was is told from
two points in time: when the cache last changed, and when the store last persisted. Nothing is lost
by that (`restored_eq_flushed`): once a flush has answered, whatever is done short of another one, a
repository that goes back to the last snapshot comes to what it would have come to right after the
flush, on every sequence of calls. That holds of the same repository and of a new one over the same
store.

What carries this is `Tracked`: a repository whose times say that nothing is to be flushed holds
what the snapshot holds. A write that changes the store makes the cache newer than the snapshot,
even if it had no copy to drop. A look-up fills the cache and leaves its time alone, so it neither
hides a change nor feigns one.
-/

namespace FlagReplica

namespace Repository

variable {r r' r'' : Repository} {s : Store}

/-! ## Repositories over a store -/

/-- The repository is over this store, nothing the store does fails, and its last snapshot was made
in the past. -/
structure Over (r : Repository) (s : Store) : Prop where
  store : r.store = some s
  available : s.unavailable = []
  past : ∀ t ∈ s.persistedAt, t ≤ r.clock

/-- Nothing changed since the last snapshot, as far as the times tell. -/
def Quiet (r : Repository) (s : Store) : Prop := ∀ t ∈ r.cache.updatedAt, isPersisted t s

/-- Copies are what the store holds, and a change since the last snapshot shows. -/
structure Tracked (r : Repository) (s : Store) : Prop extends Over r s where
  copies : ∀ key e, r.cache.peek? key = some e → s.get? key = some e
  saved : r.Quiet s → s.persisted = s.working

theorem Over.stored?_eq (h : r.Over s) : r.stored? = s.get? := by
  funext key
  rw [stored?, h.store]

theorem Over.reopen (h : r.Over s) (capacity : Nat) : (r.reopen capacity).Over s :=
  ⟨h.store, h.available, h.past⟩

/-- What changes now is newer than the last snapshot. -/
theorem Over.not_isPersisted (h : r.Over s) : ¬ isPersisted (r.clock + 1) s := by
  rw [isPersisted]
  cases hat : s.persistedAt with
  | none => exact Bool.false_ne_true
  | some t =>
    have hpast : t ≤ r.clock := h.past t hat
    simpa using Nat.lt_succ_of_le hpast

/-- A store keeps nothing from who asks for it, whatever the room. -/
theorem Tracked.faithful (h : r.Tracked s) (room : Finset String) : r.Faithful room := by
  obtain ⟨⟨hs, havailable, -⟩, hcopies, -⟩ := h
  obtain ⟨cache, store, clock⟩ := r
  cases hs
  exact faithful_of_store havailable hcopies

theorem tracked_withStore (capacity : Nat) :
    (Repository.withStore capacity .empty).Tracked .empty where
  store := rfl
  available := rfl
  past _ ht := by cases ht
  copies _ _ he := by cases he
  saved _ := rfl

/-! ## Look-ups, writes and removals -/

/-- A tracked repository stays one, over a store with the same snapshot. -/
def KeepsSnapshot (r r' : Repository) : Prop :=
  ∀ s, r.Tracked s → ∃ s', r'.Tracked s' ∧ s'.persisted = s.persisted

theorem KeepsSnapshot.refl (r : Repository) : KeepsSnapshot r r := fun s hr => ⟨s, hr, rfl⟩

theorem KeepsSnapshot.trans (h : KeepsSnapshot r r') (h' : KeepsSnapshot r' r'') :
    KeepsSnapshot r r'' := by
  intro s hr
  obtain ⟨s', hr', hs'⟩ := h s hr
  obtain ⟨s'', hr'', hs''⟩ := h' s' hr'
  exact ⟨s'', hr'', hs''.trans hs'⟩

/-- A look-up leaves the store and the times as they are. -/
theorem lookUp_frame (key : String) (r : Repository) :
    ((lookUp key).run r).state.store = r.store ∧
      ((lookUp key).run r).state.clock = r.clock ∧
      ((lookUp key).run r).state.cache.updatedAt = r.cache.updatedAt := by
  rw [run_lookUp]
  split
  · exact ⟨rfl, rfl, Cache.updatedAt_snd_get⟩
  · exact ⟨rfl, rfl, Cache.updatedAt_snd_get⟩
  · exact ⟨rfl, rfl, Cache.updatedAt_fill.trans Cache.updatedAt_snd_get⟩

theorem keepsSnapshot_lookUp (key : String) (r : Repository) :
    KeepsSnapshot r ((lookUp key).run r).state := by
  intro s hr
  obtain ⟨hstore, hclock, hupdated⟩ := lookUp_frame key r
  have hfaithful : ((lookUp key).run r).state.Faithful ∅ := by
    obtain ⟨r', hrun, -, hr'⟩ := (hr.faithful ∅).lookUp key
    rw [hrun]
    exact hr'
  refine ⟨s, ⟨⟨hstore.trans hr.store, hr.available, ?_⟩, ?_, fun hquiet => hr.saved ?_⟩, rfl⟩
  · rw [hclock]
    exact hr.past
  · exact hfaithful.copies s (hstore.trans hr.store)
  · rwa [Quiet, hupdated] at hquiet

/-- **A change shows**: what is written to the store under a key leaves the snapshot alone, and
makes the cache newer than it. -/
theorem keepsSnapshot_rewrite (key : String) (working : Table String Entry)
    (hs : r.store = some s) (hother : ∀ l, l ≠ key → working.get? l = s.working.get? l) :
    KeepsSnapshot r { r with
      cache := r.cache.invalidate (r.clock + 1) key
      store := some { s with working := working }
      clock := r.clock + 1 } := by
  intro s₀ hr
  obtain rfl : s = s₀ := Option.some.inj (hs.symm.trans hr.store)
  refine ⟨_, ⟨⟨rfl, hr.available, fun t ht => ?_⟩, fun l e he => ?_, fun hquiet => ?_⟩, rfl⟩
  · exact Nat.le_succ_of_le (hr.past t ht)
  · -- the copy under the key is gone, and all others are of what did not change
    rw [Cache.peek?_invalidate] at he
    split at he
    · cases he
    · next hl => exact (hother l hl).trans (hr.copies l e he)
  · -- the working set and the snapshot part here, so the times must tell
    exact absurd (hquiet _ rfl) hr.not_isPersisted

theorem keepsSnapshot_put (key : String) (entry : Entry) (r : Repository) :
    KeepsSnapshot r ((ExceptT.run (put key entry)).run r).state := by
  intro s hr
  rw [run_put_of_store hr.store hr.available]
  split
  · exact ⟨s, hr, rfl⟩
  · refine keepsSnapshot_rewrite key _ hr.store (fun l hl => ?_) s hr
    rw [Table.get?_put, if_neg hl]

theorem keepsSnapshot_remove (key : String) (r : Repository) :
    KeepsSnapshot r ((ExceptT.run (remove key)).run r).state := by
  intro s hr
  rw [run_remove_of_store hr.store hr.available]
  split
  · exact ⟨s, hr, rfl⟩
  · refine keepsSnapshot_rewrite key _ hr.store (fun l hl => ?_) s hr
    rw [Table.get?_erase, if_neg hl]

theorem stepwise_keepsSnapshot : Stepwise KeepsSnapshot where
  refl := .refl
  trans := .trans
  lookUp := keepsSnapshot_lookUp
  put := keepsSnapshot_put
  remove := keepsSnapshot_remove

/-! ## Going back and flushing -/

theorem run_load (h : r.Over s) :
    (ExceptT.run load).run r = ⟨.ok (), { r with
      cache := r.cache.purge (r.clock + 1)
      store := some { s with working := s.persisted }
      clock := r.clock + 1 }, []⟩ := by
  obtain ⟨cache, store, clock⟩ := r
  obtain ⟨working, persisted, persistedAt, unavailable⟩ := s
  obtain ⟨hs, havailable, -⟩ := h
  cases hs
  cases havailable
  rfl

/-- **Going back to the snapshot** drops every copy, and leaves a tracked repository whatever the
cache held. -/
theorem tracked_load (h : r.Over s) :
    ((ExceptT.run load).run r).value = .ok () ∧
      ((ExceptT.run load).run r).state.Tracked { s with working := s.persisted } := by
  rw [run_load h]
  refine ⟨rfl, ⟨rfl, h.available, fun t ht => ?_⟩, fun _ _ he => ?_, fun _ => rfl⟩
  · exact Nat.le_succ_of_le (h.past t ht)
  · cases he

theorem keepsSnapshot_load (r : Repository) :
    KeepsSnapshot r ((ExceptT.run load).run r).state :=
  fun _ hr => ⟨_, (tracked_load hr.toOver).2, rfl⟩

theorem run_persistIfChanged_of_quiet (h : r.Over s) (hquiet : r.Quiet s) :
    ((ExceptT.run persistIfChanged).run r).value = .ok false ∧
      ((ExceptT.run persistIfChanged).run r).state = r := by
  obtain ⟨⟨entries, capacity, updatedAt⟩, store, clock⟩ := r
  cases h.store
  cases updatedAt with
  | none => exact ⟨rfl, rfl⟩
  | some updatedAt =>
    rw [persistIfChanged, run_state]
    dsimp only
    rw [if_pos (hquiet updatedAt rfl)]
    exact ⟨rfl, rfl⟩

theorem run_persistIfChanged_of_not_quiet (h : r.Over s) (hquiet : ¬ r.Quiet s) :
    ((ExceptT.run persistIfChanged).run r).value = .ok true ∧
      ((ExceptT.run persistIfChanged).run r).state = { r with
        store := some { s with persisted := s.working, persistedAt := some (r.clock + 1) }
        clock := r.clock + 1 } := by
  obtain ⟨⟨entries, capacity, updatedAt⟩, store, clock⟩ := r
  obtain ⟨working, persisted, persistedAt, unavailable⟩ := s
  obtain ⟨hs, havailable, -⟩ := h
  cases hs
  cases havailable
  cases updatedAt with
  | none => exact absurd (fun _ ht => by cases ht) hquiet
  | some updatedAt =>
    have hnew : ¬ isPersisted updatedAt ⟨working, persisted, persistedAt, []⟩ := by
      refine fun hold => hquiet fun t ht => ?_
      cases ht
      exact hold
    rw [persistIfChanged, run_state]
    dsimp only
    rw [if_neg hnew]
    exact ⟨rfl, rfl⟩

/-- **After a flush the snapshot is what is held**, whether the flush was needed or not. -/
theorem tracked_persistIfChanged (hr : r.Tracked s) :
    ∃ b s', ((ExceptT.run persistIfChanged).run r).value = .ok b ∧
      ((ExceptT.run persistIfChanged).run r).state.Tracked s' ∧ s'.persisted = s'.working := by
  by_cases hquiet : r.Quiet s
  · -- the flush is left out, which is right only because of what is tracked
    obtain ⟨hvalue, hstate⟩ := run_persistIfChanged_of_quiet hr.toOver hquiet
    rw [hstate]
    exact ⟨false, s, hvalue, hr, hr.saved hquiet⟩
  · obtain ⟨hvalue, hstate⟩ := run_persistIfChanged_of_not_quiet hr.toOver hquiet
    rw [hstate]
    refine ⟨true, _, hvalue, ⟨⟨rfl, hr.available, fun t ht => ?_⟩, hr.copies, fun _ => rfl⟩, rfl⟩
    cases ht
    exact le_rfl

/-! ## Runs -/

/-- What is done to a repository over a store. -/
inductive Act
  | call (c : AnyCall)
  | load
  | flush
  deriving DecidableEq, Repr

/-- The repository after an act, which may have failed. -/
def Act.after (act : Act) (r : Repository) : Repository :=
  match act with
  | .call c => (c.run.run r).state
  | .load => ((ExceptT.run Repository.load).run r).state
  | .flush => ((ExceptT.run persistIfChanged).run r).state

/-- The repository after one act after the other. -/
def after (acts : List Act) (r : Repository) : Repository := acts.foldl (fun r act => act.after r) r

/-- The repository as it is when its use begins: new over a new store, or back at the last snapshot
of a store that does not fail. -/
inductive Opened : Repository → Prop
  | fresh (capacity : Nat) : Opened (.withStore capacity .empty)
  | loaded {r : Repository} {s : Store} (h : r.Over s) :
    Opened ((ExceptT.run Repository.load).run r).state

theorem Opened.tracked (h : Opened r) : ∃ s, r.Tracked s := by
  cases h with
  | fresh capacity => exact ⟨_, tracked_withStore capacity⟩
  | loaded h => exact ⟨_, (tracked_load h).2⟩

/-- **Every act keeps a repository tracked.** -/
theorem Act.tracked_after (act : Act) (hr : r.Tracked s) : ∃ s', (act.after r).Tracked s' := by
  cases act with
  | call c =>
    obtain ⟨s', hr', -⟩ := c.leads stepwise_keepsSnapshot r s hr
    exact ⟨s', hr'⟩
  | load => exact ⟨_, (tracked_load hr.toOver).2⟩
  | flush =>
    obtain ⟨-, s', -, hr', -⟩ := tracked_persistIfChanged hr
    exact ⟨s', hr'⟩

theorem tracked_after (acts : List Act) (hr : r.Tracked s) : ∃ s', (after acts r).Tracked s' := by
  induction acts generalizing r s with
  | nil => exact ⟨s, hr⟩
  | cons act acts ih =>
    obtain ⟨s', hr'⟩ := act.tracked_after hr
    exact ih hr'

/-- **Only a flush makes a snapshot.** -/
theorem keepsSnapshot_after (acts : List Act) (hflush : Act.flush ∉ acts) (r : Repository) :
    KeepsSnapshot r (after acts r) := by
  induction acts generalizing r with
  | nil => exact .refl r
  | cons act acts ih =>
    rw [List.mem_cons, not_or] at hflush
    have hact : KeepsSnapshot r (act.after r) := by
      cases act with
      | call c => exact c.leads stepwise_keepsSnapshot r
      | load => exact keepsSnapshot_load r
      | flush => exact absurd rfl hflush.1
    exact hact.trans (ih hflush.2 _)

/-- What tracked repositories come to depends on what their stores hold alone. -/
theorem Tracked.seen_eq {s' : Store} (hr : r.Tracked s) (hr' : r'.Tracked s')
    (hworking : s'.working = s.working) (calls : List AnyCall) :
    ((answers calls).run r').seen = ((answers calls).run r).seen := by
  have hheld : r'.stored? = r.stored? := by
    rw [hr.stored?_eq, hr'.stored?_eq]
    funext key
    rw [Store.get?, Store.get?, hworking]
  rw [(hr.faithful _).seen_answers, (hr'.faithful _).seen_answers, hheld]

/-- **What was flushed is what is restored.** Let a repository over a store that does not fail be
used in any way, and then be flushed. The flush succeeds, whether there was something to flush or
not. And whatever is done after it short of another flush, going back to the snapshot succeeds, on
the repository as well as on a new one over the same store, and from there every sequence of calls
gets the answers, gives the notices and leaves the contents that it would have right after the
flush. -/
theorem restored_eq_flushed (h : Opened r) (acts later : List Act) (hlater : Act.flush ∉ later)
    (capacity : Nat) :
    let flush := (ExceptT.run persistIfChanged).run (after acts r)
    let reload := (ExceptT.run load).run (after later flush.state)
    let reopened := (ExceptT.run load).run ((after later flush.state).reopen capacity)
    (∃ b, flush.value = .ok b) ∧ reload.value = .ok () ∧ reopened.value = .ok () ∧
      ∀ calls : List AnyCall,
        ((answers calls).run reload.state).seen = ((answers calls).run flush.state).seen ∧
        ((answers calls).run reopened.state).seen = ((answers calls).run flush.state).seen := by
  obtain ⟨s₀, hopened⟩ := h.tracked
  obtain ⟨s₁, hused⟩ := tracked_after acts hopened
  obtain ⟨b, s₂, hvalue, hflushed, hsnapshot⟩ := tracked_persistIfChanged hused
  obtain ⟨s₃, hdirty, hkept⟩ := keepsSnapshot_after later hlater _ s₂ hflushed
  obtain ⟨hreload, hreloaded⟩ := tracked_load hdirty.toOver
  obtain ⟨hreopen, hreopened⟩ := tracked_load (hdirty.toOver.reopen capacity)
  -- the last snapshot is the one of the flush, and that is what was held then
  have hworking : s₃.persisted = s₂.working := hkept.trans hsnapshot
  exact ⟨⟨b, hvalue⟩, hreload, hreopen, fun calls =>
    ⟨hflushed.seen_eq hreloaded hworking calls, hflushed.seen_eq hreopened hworking calls⟩⟩

/-- Writes and reads up to a flush. -/
def earlyActs : List Act := [
  .call (.segment (.setAll "e" [bareSegment "a" 1, bareSegment "b" 1] true)), .flush,
  .call (.segment (.get "a")), .call (.segment (.set (bareSegment "b" 2) false))]

/-- Writes after the flush, which are lost. -/
def lateActs : List Act := [
  .call (.segment (.set (bareSegment "a" 5) false)), .call (.segment (.delete "b")),
  .call (.segment (.getAll "e"))]

/-- What a new repository over the store finds is what was flushed, and the late writes had an
effect. -/
theorem restored_eq_flushed_lateActs :
    Act.flush ∉ lateActs ∧
    (let flushed := ((ExceptT.run persistIfChanged).run
        (after earlyActs (.withStore 1 .empty))).state
      let reopened := ((ExceptT.run load).run ((after lateActs flushed).reopen 1)).state
      (after lateActs flushed).stored? "segment/b" = none ∧
      flushed.stored? "segment/b" = some (.segment (bareSegment "b" 2)) ∧
      ((getSegment "b").run reopened).value = some (bareSegment "b" 2) ∧
      ∀ calls, ((answers calls).run reopened).seen = ((answers calls).run flushed).seen) := by
  have hlate : Act.flush ∉ lateActs := by decide
  have h := restored_eq_flushed (.fresh 1) earlyActs lateActs hlate 1
  refine ⟨hlate, by decide +kernel, by decide +kernel, by decide +kernel, fun calls => ?_⟩
  exact (h.2.2.2 calls).2

end Repository

end FlagReplica
