import FlagReplica.Proofs.Repository.Persistence
/-!
# When there is something to flush

A flush that is not needed is left out, and the answer tells whether it was. It was needed exactly
if something changed since the last one that was (`Repository.flushes_iff_changed`): the repository
went back to the snapshot, or some write left an entry other than it was, on any sequence of acts
over a store of its own. Reads do not count, with all that they bring into the cache and push out
of it. Nor do writes that are discarded, that write what is there, or that delete what is not.
Needed or not, a flush leaves a snapshot of what is held (`Tracked.flush`).

A call may write many entries, and change one and then change it back. That counts, though the call
as a whole changes nothing, so a change is looked for in the parts of a call, each on one entry
(`Call.parts`). The data is in the store, while the time that tells of a change is in the cache.
What carries the result is that the two move together in each part (`Shows`), and that no time is
ahead of the clock (`Dated`).
-/

namespace FlagReplica.Repository

open Record (kind identifier version)

variable {α : Type} [Record α] {r : Repository} {s : Store}

/-! ## Parts of a call -/

/-- What a call does to a repository one after the other, each on one entry. -/
def Call.parts (call : Call α) (r : Repository) : List (RepositoryWrite Unit) :=
  match call with
  | .get id => [ExceptT.lift ((fun _ => ()) <$> (Repository.get id : RepositoryAction (Option α)))]
  | .getAll env =>
    [ExceptT.lift ((fun _ => ()) <$> (Repository.getAll env : RepositoryAction (List α)))]
  | .set x initial => [setOne x initial]
  | .setAll env xs initial =>
    if isOutdated initial (r.stored? (listKey α env)) (newest (xs.map version)) then []
    else
      telling (.listStored (kind α) env) (put (listKey α env) (Record.toListing xs)) ::
        (xs.map (setOne · initial) ++
          if initial then
            (missingFrom xs (Contents.listed r.stored? env)).map fun old =>
              deleteOne α (identifier old)
          else [])
  | .merge env x => [Repository.merge env x]
  | .delete id => [deleteOne α id]
  | .deleteFrom env id => [removeFrom α env id]

/-- What a call on flags or segments does one after the other. -/
def AnyCall.parts (call : AnyCall) (r : Repository) : List (RepositoryWrite Unit) :=
  match call with
  | .flag call => call.parts r
  | .segment call => call.parts r

/-- Of some parts that are done one after the other, one leaves other contents than it finds. -/
def SomeAlters : List (RepositoryWrite Unit) → Repository → Prop
  | [], _ => False
  | part :: rest, r =>
    let r' := ((ExceptT.run part).run r).state
    r'.stored? ≠ r.stored? ∨ SomeAlters rest r'

theorem forEach_append {β : Type} (f : β → RepositoryWrite Unit) (xs ys : List β) :
    forEach f (xs ++ ys) = (do forEach f xs; forEach f ys) := by
  induction xs with
  | nil => exact (pure_bind _ _).symm
  | cons x xs ih =>
    rw [List.cons_append, forEach, forEach, ih, bind_assoc]

theorem forEach_id_map {β : Type} (f : β → RepositoryWrite Unit) (xs : List β) :
    forEach id (xs.map f) = forEach f xs := by
  induction xs with
  | nil => rfl
  | cons x xs ih => rw [List.map_cons, forEach, forEach, ih, id]

theorem forEach_id_singleton (w : RepositoryWrite Unit) : forEach id [w] = w := bind_pure w

/-- A list write is done part by part. -/
theorem state_setAll (env : String) (xs : List α) (initial : Bool) (r : Repository) :
    ((ExceptT.run (setAll env xs initial)).run r).state =
      ((ExceptT.run (forEach id ((Call.setAll env xs initial).parts r))).run r).state := by
  rw [setAll_eq, run_state, Call.parts]
  split
  · rfl
  · rw [forEach, forEach_append, forEach_id_map]
    cases initial with
    | true => rw [if_pos rfl, if_pos rfl, forEach_id_map, id]
    | false => rfl

/-- **A call comes to what its parts come to**, done one after the other. -/
theorem Call.state_run (call : Call α) (r : Repository) :
    (call.run.run r).state = ((ExceptT.run (forEach id (call.parts r))).run r).state := by
  cases call with
  | setAll env xs initial =>
    rw [Call.run, Action.run_map]
    exact state_setAll env xs initial r
  | get id | getAll env =>
    rw [Call.run, Action.run_map, parts, forEach_id_singleton]
    rfl
  | _ => rw [Call.run, Action.run_map, parts, forEach_id_singleton]

theorem AnyCall.state_run (call : AnyCall) (r : Repository) :
    (call.run.run r).state = ((ExceptT.run (forEach id (call.parts r))).run r).state := by
  cases call with
  | flag call =>
    rw [AnyCall.run, Action.run_map]
    exact call.state_run r
  | segment call =>
    rw [AnyCall.run, Action.run_map]
    exact call.state_run r

/-! ## Parts show what they change -/

/-- The repository is over this store, and nothing in it is newer than its clock. -/
structure Dated (r : Repository) (s : Store) : Prop extends Over r s where
  dated : ∀ t ∈ r.cache.updatedAt, t ≤ r.clock

/-- The write succeeds, and there is nothing to flush after it exactly if there was nothing before
it and the contents are what they were. -/
def Shows (w : RepositoryWrite Unit) : Prop :=
  ∀ r s, r.Dated s → let o := (ExceptT.run w).run r
    o.value = .ok () ∧
      ∃ s', o.state.Dated s' ∧ (o.state.Quiet s' ↔ r.Quiet s ∧ o.state.stored? = r.stored?)

/-- What leaves the store and the times alone changes nothing. -/
theorem Dated.of_frame {r' : Repository} (h : r.Dated s) (hstore : r'.store = r.store)
    (hclock : r'.clock = r.clock) (hupdated : r'.cache.updatedAt = r.cache.updatedAt) :
    r'.Dated s ∧ (r'.Quiet s ↔ r.Quiet s ∧ r'.stored? = r.stored?) := by
  have hover : r'.Over s := ⟨hstore.trans h.store, h.available, by rw [hclock]; exact h.past⟩
  have hheld : r'.stored? = r.stored? := by rw [hover.stored?_eq, h.stored?_eq]
  refine ⟨⟨hover, ?_⟩, ?_⟩
  · rw [hupdated, hclock]
    exact h.dated
  · rw [Quiet, Quiet, hupdated]
    exact (and_iff_left hheld).symm

/-- **What is written to the store is newer than the snapshot.** -/
theorem Dated.rewrite (h : r.Dated s) (key : String) {working : Table String Entry}
    (hne : working.get? key ≠ s.get? key) :
    let r' : Repository := { r with
      cache := r.cache.invalidate (r.clock + 1) key
      store := some { s with working := working }
      clock := r.clock + 1 }
    r'.Dated { s with working := working } ∧
      (r'.Quiet { s with working := working } ↔ r.Quiet s ∧ r'.stored? = r.stored?) := by
  intro r'
  have hover : r'.Over { s with working := working } :=
    ⟨rfl, h.available, fun t ht => Nat.le_succ_of_le (h.past t ht)⟩
  refine ⟨⟨hover, fun t ht => ?_⟩, iff_of_false (fun hquiet => ?_) fun hsame => ?_⟩
  · cases ht
    exact le_rfl
  · exact h.not_isPersisted (hquiet _ rfl)
  · rw [hover.stored?_eq, h.stored?_eq] at hsame
    exact hne (congrFun hsame.2 key)

theorem shows_pure : Shows (pure ()) :=
  fun _ s h => ⟨rfl, s, h.of_frame rfl rfl rfl⟩

theorem shows_log (level : Level) (text : String) : Shows (ExceptT.lift (log level text)) :=
  fun _ s h => ⟨rfl, s, h.of_frame rfl rfl rfl⟩

/-- A look-up fills the cache and shows nothing. -/
theorem shows_lookUp {β : Type} (key : String) (f : Option Entry → β) :
    Shows (ExceptT.lift ((fun _ => ()) <$> (f <$> lookUp key))) := by
  intro r s h
  obtain ⟨hstore, hclock, hupdated⟩ := lookUp_frame key r
  exact ⟨rfl, s, h.of_frame hstore hclock hupdated⟩

/-- A write of what is there does nothing, and one of anything else makes the cache new. -/
theorem Over.run_put (h : r.Over s) (key : String) (entry : Entry) (c : Change) :
    (ExceptT.run (telling c (put key entry))).run r =
      if r.stored? key = some entry then ⟨.ok (), r, []⟩
      else ⟨.ok (), { r with
        cache := r.cache.invalidate (r.clock + 1) key
        store := some { s with working := s.working.put key entry }
        clock := r.clock + 1 }, [.changed c]⟩ := by
  have hrun : (ExceptT.run (put key entry)).run r = _ := run_put_of_store h.store h.available
  rw [← h.stored?_eq] at hrun
  by_cases hsame : r.stored? key = some entry
  · rw [if_pos hsame] at hrun ⊢
    rw [run_telling (by rw [hrun]), hrun]
    rfl
  · rw [if_neg hsame] at hrun ⊢
    rw [run_telling (by rw [hrun]), hrun]
    rfl

/-- A removal of what is not there does nothing, and one of what is makes the cache new. -/
theorem Over.run_remove (h : r.Over s) (key : String) (c : Change) :
    (ExceptT.run (telling c (remove key))).run r =
      if r.stored? key = none then ⟨.ok (), r, []⟩
      else ⟨.ok (), { r with
        cache := r.cache.invalidate (r.clock + 1) key
        store := some { s with working := s.working.erase key }
        clock := r.clock + 1 }, [.changed c]⟩ := by
  have hrun : (ExceptT.run (remove key)).run r = _ := run_remove_of_store h.store h.available
  rw [← h.stored?_eq] at hrun
  by_cases habsent : r.stored? key = none
  · rw [if_pos habsent] at hrun ⊢
    rw [run_telling (by rw [hrun]), hrun]
    rfl
  · rw [if_neg habsent] at hrun ⊢
    rw [run_telling (by rw [hrun]), hrun]
    rfl

theorem shows_put (key : String) (entry : Entry) (c : Change) :
    Shows (telling c (put key entry)) := by
  intro r s h
  rw [h.run_put]
  split
  · exact ⟨rfl, s, h.of_frame rfl rfl rfl⟩
  · next hother =>
    refine ⟨rfl, _, h.rewrite key ?_⟩
    rw [Table.get?_put, if_pos rfl, ← h.stored?_eq]
    exact Ne.symm hother

theorem shows_remove (key : String) (c : Change) : Shows (telling c (remove key)) := by
  intro r s h
  rw [h.run_remove]
  split
  · exact ⟨rfl, s, h.of_frame rfl rfl rfl⟩
  · next hpresent =>
    refine ⟨rfl, _, h.rewrite key ?_⟩
    rw [Table.get?_erase, if_pos rfl, ← h.stored?_eq]
    exact Ne.symm hpresent

theorem Shows.state_bind {f : Repository → RepositoryWrite Unit} (h : ∀ r, Shows (f r)) :
    Shows (state >>= f) := by
  intro r s hr
  rw [run_state]
  exact h r r s hr

theorem Shows.ite {p : Prop} [Decidable p] {w w' : RepositoryWrite Unit} (h : Shows w)
    (h' : Shows w') : Shows (if p then w else w') := by
  split
  · exact h
  · exact h'

theorem shows_setOne (x : α) (initial : Bool) : Shows (setOne x initial) :=
  .state_bind fun _ => .ite (shows_log _ _) (shows_put _ _ _)

theorem shows_deleteOne (id : String) : Shows (deleteOne α id) := shows_remove _ _

theorem shows_merge (env : String) (x : α) : Shows (merge env x) := by
  refine .state_bind fun r => ?_
  dsimp only
  split
  · exact shows_pure
  · exact shows_put _ _ _

theorem shows_removeFrom (env id : String) : Shows (removeFrom α env id) := by
  refine .state_bind fun r => ?_
  dsimp only
  split
  · exact shows_pure
  · exact .ite (shows_put _ _ _) shows_pure

/-- **Every part of every call shows what it changes.** -/
theorem Call.shows (call : Call α) (r : Repository) : ∀ part ∈ call.parts r, Shows part := by
  cases call with
  | get id =>
    rw [parts, List.forall_mem_singleton, Repository.get, bind_pure_comp]
    exact shows_lookUp _ _
  | getAll env =>
    rw [parts, List.forall_mem_singleton, Repository.getAll, bind_pure_comp]
    exact shows_lookUp _ _
  | set x initial => exact List.forall_mem_singleton.mpr (shows_setOne x initial)
  | setAll env xs initial =>
    rw [parts]
    split
    · exact List.forall_mem_nil _
    · refine List.forall_mem_cons.mpr ⟨shows_put _ _ _, List.forall_mem_append.mpr ⟨?_, ?_⟩⟩
      · exact List.forall_mem_map.mpr fun x _ => shows_setOne x initial
      · split
        · exact List.forall_mem_map.mpr fun old _ => shows_deleteOne _
        · exact List.forall_mem_nil _
  | merge env x => exact List.forall_mem_singleton.mpr (shows_merge env x)
  | delete id => exact List.forall_mem_singleton.mpr (shows_deleteOne id)
  | deleteFrom env id => exact List.forall_mem_singleton.mpr (shows_removeFrom env id)

theorem AnyCall.shows (call : AnyCall) (r : Repository) : ∀ part ∈ call.parts r, Shows part := by
  cases call with
  | flag call => exact call.shows r
  | segment call => exact call.shows r

/-- **There is nothing to flush after some parts** exactly if there was nothing before them and none
of them alters what is held. -/
theorem Dated.forEach {parts : List (RepositoryWrite Unit)} (h : r.Dated s)
    (hparts : ∀ part ∈ parts, Shows part) :
    let r' := ((ExceptT.run (forEach id parts)).run r).state
    ∃ s', r'.Dated s' ∧ (r'.Quiet s' ↔ r.Quiet s ∧ ¬ SomeAlters parts r) := by
  induction parts generalizing r s with
  | nil => exact ⟨s, h, (and_iff_left not_false).symm⟩
  | cons part parts ih =>
    rw [List.forall_mem_cons] at hparts
    obtain ⟨hvalue, s₁, hdated, hquiet⟩ := hparts.1 r s h
    obtain ⟨s₂, hdated', hquiet'⟩ := ih hdated hparts.2
    have hstate : ((ExceptT.run (Repository.forEach id (part :: parts))).run r).state =
        ((ExceptT.run (Repository.forEach id parts)).run
          ((ExceptT.run part).run r).state).state := by
      rw [Repository.forEach, ExceptT.run_bind, Action.run_bind, id, hvalue]
    rw [hstate]
    refine ⟨s₂, hdated', ?_⟩
    rw [hquiet', hquiet, SomeAlters, not_or, ne_eq, not_not, and_assoc]

/-! ## Acts -/

/-- The act changes what is held: it goes back to the snapshot, or some part of a call alters an
entry. -/
def Act.Changes (act : Act) (r : Repository) : Prop :=
  match act with
  | .call c => SomeAlters (c.parts r) r
  | .load => True
  | .flush => False

/-- What a flush of the repository is answered. -/
def flushed (r : Repository) : Except Error Bool := ((ExceptT.run persistIfChanged).run r).value

/-- Over a store that does not fail a flush succeeds, and is needed unless the times say that
nothing changed. -/
theorem Over.flushed_eq (h : r.Over s) :
    (∃ b, r.flushed = .ok b) ∧ (r.flushed = .ok true ↔ ¬ r.Quiet s) := by
  by_cases hquiet : r.Quiet s
  · have hflushed : r.flushed = .ok false := (run_persistIfChanged_of_quiet h hquiet).1
    refine ⟨⟨false, hflushed⟩, iff_of_false ?_ (not_not_intro hquiet)⟩
    simp [hflushed]
  · have hflushed : r.flushed = .ok true := (run_persistIfChanged_of_not_quiet h hquiet).1
    exact ⟨⟨true, hflushed⟩, iff_of_true hflushed hquiet⟩

/-- **After an act there is nothing to flush** exactly if it changed nothing, and there was nothing
before or the act is a flush. -/
theorem Dated.act (h : r.Dated s) (act : Act) :
    ∃ s', (act.after r).Dated s' ∧
      ((act.after r).Quiet s' ↔ ¬ act.Changes r ∧ (r.Quiet s ∨ act = .flush)) := by
  cases act with
  | call c =>
    obtain ⟨s', hdated, hquiet⟩ := h.forEach (c.shows r)
    rw [Act.after, c.state_run]
    refine ⟨s', hdated, hquiet.trans ?_⟩
    simp [Act.Changes, and_comm]
  | load =>
    rw [Act.after, run_load h.toOver]
    refine ⟨_, ⟨⟨rfl, h.available, fun t ht => Nat.le_succ_of_le (h.past t ht)⟩, fun t ht => ?_⟩,
      iff_of_false (fun hquiet => ?_) fun hsame => hsame.1 trivial⟩
    · cases ht
      exact le_rfl
    · exact h.not_isPersisted (hquiet _ rfl)
  | flush =>
    have hnone : ¬ Act.flush.Changes r ∧ (r.Quiet s ∨ Act.flush = .flush) := ⟨id, .inr rfl⟩
    by_cases hquiet : r.Quiet s
    · rw [Act.after, (run_persistIfChanged_of_quiet h.toOver hquiet).2]
      exact ⟨s, h, iff_of_true hquiet hnone⟩
    · -- the snapshot is as new as the clock, and nothing is newer than that
      rw [Act.after, (run_persistIfChanged_of_not_quiet h.toOver hquiet).2]
      refine ⟨_, ⟨⟨rfl, h.available, fun t ht => ?_⟩, fun t ht => ?_⟩,
        iff_of_true (fun t ht => ?_) hnone⟩
      · cases ht
        exact le_rfl
      · exact Nat.le_succ_of_le (h.dated t ht)
      · exact decide_eq_true (Nat.le_succ_of_le (h.dated t ht))

/-! ## Runs -/

/-- Among the acts is one that changed what is held, and no flush after it was needed. -/
def ChangedSinceFlush (acts : List Act) (r : Repository) : Prop :=
  ∃ early act late, acts = early ++ act :: late ∧ act.Changes (after early r) ∧
    ∀ between rest, late = between ++ .flush :: rest →
      (after (early ++ act :: between) r).flushed ≠ .ok true

theorem after_concat (acts : List Act) (act : Act) (r : Repository) :
    after (acts ++ [act]) r = act.after (after acts r) := List.foldl_concat _ _ _ _

theorem not_changedSinceFlush_nil : ¬ ChangedSinceFlush [] r := by
  rintro ⟨early, act, late, heq, -⟩
  exact List.append_ne_nil_of_right_ne_nil _ (List.cons_ne_nil _ _) heq.symm

/-- A list with one thing more splits at that thing or before it. -/
theorem concat_eq_append_cons_iff {β : Type} {xs before after : List β} {x y : β} :
    xs ++ [x] = before ++ y :: after ↔
      (before = xs ∧ y = x ∧ after = []) ∨
        ∃ rest, after = rest ++ [x] ∧ xs = before ++ y :: rest := by
  constructor
  · intro h
    rcases List.eq_nil_or_concat after with rfl | ⟨rest, last, rfl⟩
    · obtain ⟨rfl, hlast⟩ := List.append_inj' h rfl
      cases hlast
      exact .inl ⟨rfl, rfl, rfl⟩
    · rw [List.concat_eq_append, ← List.cons_append, ← List.append_assoc] at h
      obtain ⟨rfl, hlast⟩ := List.append_inj' h rfl
      cases hlast
      exact .inr ⟨rest, List.concat_eq_append, rfl⟩
  · rintro (⟨rfl, rfl, rfl⟩ | ⟨rest, rfl, rfl⟩)
    · rfl
    · rw [List.append_assoc, List.cons_append]

/-- **One act more** either changed something itself, or leaves the change before it unless it is a
flush that was needed. -/
theorem changedSinceFlush_concat (acts : List Act) (act : Act) :
    ChangedSinceFlush (acts ++ [act]) r ↔ act.Changes (after acts r) ∨
      ChangedSinceFlush acts r ∧ ¬ (act = .flush ∧ (after acts r).flushed = .ok true) := by
  constructor
  · rintro ⟨early, change, late, heq, hchange, hlate⟩
    rcases concat_eq_append_cons_iff.mp heq with ⟨rfl, rfl, -⟩ | ⟨late, rfl, rfl⟩
    · exact .inl hchange
    · refine .inr ⟨⟨early, change, late, rfl, hchange, fun between rest hsplit => ?_⟩, ?_⟩
      · exact hlate between (rest ++ [act]) (by rw [hsplit, List.append_assoc, List.cons_append])
      · rintro ⟨rfl, hneeded⟩
        exact hlate late [] rfl hneeded
  · rintro (hchange | ⟨⟨early, change, late, rfl, hchange, hlate⟩, hlast⟩)
    · refine ⟨acts, act, [], rfl, hchange, fun between rest hsplit => ?_⟩
      exact absurd hsplit.symm (List.append_ne_nil_of_right_ne_nil _ (List.cons_ne_nil _ _))
    · refine ⟨early, change, late ++ [act], by rw [List.append_assoc, List.cons_append], hchange,
        fun between rest hsplit => ?_⟩
      -- the flush after the change is the last act, or one of those before it
      rcases concat_eq_append_cons_iff.mp hsplit with ⟨rfl, rfl, -⟩ | ⟨rest, -, rfl⟩
      · exact fun hneeded => hlast ⟨rfl, hneeded⟩
      · exact hlate between rest rfl

/-- **There is nothing to flush after some acts** exactly if nothing changed since the last flush
that was needed. -/
theorem Dated.after (h : r.Dated s) (hquiet : r.Quiet s) (acts : List Act) :
    ∃ s', (Repository.after acts r).Dated s' ∧
      ((Repository.after acts r).Quiet s' ↔ ¬ ChangedSinceFlush acts r) := by
  induction acts using List.reverseRecOn with
  | nil => exact ⟨s, h, iff_of_true hquiet not_changedSinceFlush_nil⟩
  | append_singleton acts act ih =>
    obtain ⟨s₁, hdated, hchanged⟩ := ih
    obtain ⟨s₂, hdated', hquiet'⟩ := hdated.act act
    rw [after_concat]
    refine ⟨s₂, hdated', hquiet'.trans ?_⟩
    -- a flush at this point is needed exactly if something changed before it
    have hneeded : (Repository.after acts r).flushed = .ok true ↔ ChangedSinceFlush acts r := by
      rw [hdated.flushed_eq.2, hchanged, not_not]
    rw [changedSinceFlush_concat, hneeded, hchanged]
    tauto

theorem dated_withStore (capacity : Nat) :
    (Repository.withStore capacity .empty).Dated .empty where
  store := rfl
  available := rfl
  past _ ht := by cases ht
  dated _ ht := by cases ht

theorem dated_after (capacity : Nat) (acts : List Act) :
    let opened := Repository.withStore capacity .empty
    ∃ s, (after acts opened).Dated s ∧
      ((after acts opened).Quiet s ↔ ¬ ChangedSinceFlush acts opened) :=
  (dated_withStore capacity).after (fun _ ht => by cases ht) acts

/-- **Over a store of its own** a flush succeeds, and is needed exactly if something changed since
the last one that was. -/
theorem flushed_after (capacity : Nat) (acts : List Act) :
    let opened := Repository.withStore capacity .empty
    (∃ b, (after acts opened).flushed = .ok b) ∧
      ((after acts opened).flushed = .ok true ↔ ChangedSinceFlush acts opened) := by
  intro opened
  obtain ⟨s, hdated, hchanged⟩ := dated_after capacity acts
  obtain ⟨hanswer, hneeded⟩ := hdated.flushed_eq
  refine ⟨hanswer, ?_⟩
  rw [hneeded, hchanged, not_not]

/-- **A flush leaves a snapshot of what is held.** It changes nothing of that, and if the flush was
not needed it changes nothing at all, for the snapshot was one already. -/
theorem Tracked.flush (h : r.Tracked s) :
    let r' := Act.flush.after r
    ∃ s', r'.store = some s' ∧ s'.persisted = s'.working ∧ s'.get? = r.stored? ∧
      (r.flushed = .ok false → r' = r) := by
  intro r'
  by_cases hquiet : r.Quiet s
  · have hsame : r' = r := (run_persistIfChanged_of_quiet h.toOver hquiet).2
    exact ⟨s, hsame ▸ h.store, h.saved hquiet, h.stored?_eq.symm, fun _ => hsame⟩
  · obtain ⟨hvalue, hstate⟩ := run_persistIfChanged_of_not_quiet h.toOver hquiet
    have hstore : r'.store =
        some { s with persisted := s.working, persistedAt := some (r.clock + 1) } :=
      congrArg Repository.store hstate
    refine ⟨_, hstore, rfl, h.stored?_eq.symm, fun hflushed => ?_⟩
    cases hvalue.symm.trans hflushed

/-! ## Calls that change nothing -/

/-- On what is held, a write of the thing is discarded, or stores what is there. -/
def LeavesOne (x : α) (initial : Bool) (held : Contents) : Prop :=
  isOutdated initial (held (entityKey α (identifier x))) (version x) ∨
    held (entityKey α (identifier x)) = some (Record.toEntry x)

/-- On what is held, the call is a read, a write that is discarded or that stores what is there, or
deletes what is not there. -/
def Call.Idle (call : Call α) (held : Contents) : Prop :=
  match call with
  | .get _ | .getAll _ => True
  | .set x initial => LeavesOne x initial held
  | .setAll env xs initial =>
    isOutdated initial (held (listKey α env)) (newest (xs.map version)) ∨
      held (listKey α env) = some (Record.toListing xs) ∧ ∀ x ∈ xs, LeavesOne x initial held
  | .merge env x => merged? x (held.listed env) = none
  | .delete id => held (entityKey α id) = none
  | .deleteFrom env id => ∀ x ∈ (held.listed env : List α), identifier x ≠ id

/-- The call on flags or segments is one that changes nothing. -/
def AnyCall.Idle (call : AnyCall) (held : Contents) : Prop :=
  match call with
  | .flag call => call.Idle held
  | .segment call => call.Idle held

/-- Parts that leave the contents they find each find the same, and none alters them. -/
theorem not_someAlters {parts : List (RepositoryWrite Unit)}
    (h : ∀ part ∈ parts, ((ExceptT.run part).run r).state = r) : ¬ SomeAlters parts r := by
  induction parts with
  | nil => exact id
  | cons part parts ih =>
    rw [List.forall_mem_cons] at h
    rw [SomeAlters, h.1]
    exact not_or.mpr ⟨not_not_intro rfl, ih h.2⟩

theorem Over.not_someAlters_lookUp {β : Type} (h : r.Over s) (key : String)
    (f : Option Entry → β) :
    ¬ SomeAlters [ExceptT.lift ((fun _ => ()) <$> (f <$> lookUp key))] r := by
  obtain ⟨hstore, -⟩ := lookUp_frame key r
  have hheld : ((lookUp key).run r).state.stored? = r.stored? := by
    rw [h.stored?_eq]
    funext l
    rw [stored?, hstore, h.store]
  exact not_or.mpr ⟨not_not_intro hheld, id⟩

theorem Over.state_setOne (h : r.Over s) {x : α} {initial : Bool}
    (hx : LeavesOne x initial r.stored?) :
    ((ExceptT.run (setOne x initial)).run r).state = r := by
  rw [setOne, run_state]
  dsimp only
  split
  · rfl
  · next hnewer =>
    have hput := h.run_put (entityKey α (identifier x)) (Record.toEntry x)
      (.stored (kind α) (identifier x))
    rw [if_pos (hx.resolve_left hnewer)] at hput
    exact congrArg (fun o => o.state) hput

/-- **An idle call alters nothing** in any of its parts. -/
theorem Call.not_someAlters [LawfulRecord α] (call : Call α) (h : r.Over s)
    (hidle : call.Idle r.stored?) : ¬ SomeAlters (call.parts r) r := by
  cases call with
  | get id =>
    rw [parts, Repository.get, bind_pure_comp]
    exact h.not_someAlters_lookUp _ _
  | getAll env =>
    rw [parts, Repository.getAll, bind_pure_comp]
    exact h.not_someAlters_lookUp _ _
  | set x initial =>
    exact Repository.not_someAlters (List.forall_mem_singleton.mpr (h.state_setOne hidle))
  | setAll env xs initial =>
    rw [parts]
    split
    · exact id
    · next hnewer =>
      obtain ⟨hlist, hxs⟩ := hidle.resolve_left hnewer
      -- a list in the place of itself leaves nothing to delete
      have hmissing : missingFrom xs (Contents.listed r.stored? env) = [] := by
        rw [Contents.listed, hlist, Option.bind_some, LawfulRecord.ofListing?_toListing,
          Option.getD_some, missingFrom, List.filter_eq_nil_iff]
        intro x hx
        simpa using ⟨x, hx, rfl⟩
      rw [hmissing, List.map_nil, ite_self, List.append_nil]
      refine Repository.not_someAlters (List.forall_mem_cons.mpr ⟨?_, ?_⟩)
      · rw [h.run_put, if_pos hlist]
      · exact List.forall_mem_map.mpr fun x hx => h.state_setOne (hxs x hx)
  | merge env x =>
    refine Repository.not_someAlters (List.forall_mem_singleton.mpr ?_)
    have hnone : merged? x (((r.stored? (listKey α env)).bind Record.ofListing?).getD []) = none :=
      hidle
    rw [Repository.merge, run_state]
    dsimp only
    rw [hnone]
    rfl
  | delete id =>
    refine Repository.not_someAlters (List.forall_mem_singleton.mpr ?_)
    have habsent : r.stored? (entityKey α id) = none := hidle
    have hremove := h.run_remove (entityKey α id) (.deleted (kind α) id)
    rw [if_pos habsent] at hremove
    exact congrArg (fun o => o.state) hremove
  | deleteFrom env id =>
    refine Repository.not_someAlters (List.forall_mem_singleton.mpr ?_)
    have hkept : ∀ x ∈ (((r.stored? (listKey α env)).bind Record.ofListing?).getD [] : List α),
        identifier x ≠ id := hidle
    rw [removeFrom, run_state]
    dsimp only
    split
    · rfl
    · next xs hxs =>
      rw [hxs, Option.getD_some] at hkept
      rw [List.filter_eq_self.mpr (by simpa using hkept), if_neg (not_not_intro rfl)]
      rfl

theorem AnyCall.not_changes (call : AnyCall) (h : r.Over s) (hidle : call.Idle r.stored?) :
    ¬ (Act.call call).Changes r := by
  cases call with
  | flag call => exact call.not_someAlters h hidle
  | segment call => exact call.not_someAlters h hidle

/-! ## Without a store -/

theorem stepwise_noStore : Stepwise fun r r' => r.store = none → r'.store = none where
  refl _ := id
  trans h h' := h' ∘ h
  lookUp key r := by rw [(lookUp_frame key r).1]; exact id
  put key entry r hs := by rw [run_put_of_cache hs]; exact hs
  remove key r hs := by rw [run_remove_of_cache hs]; exact hs

theorem run_load_of_cache (hs : r.store = none) :
    (ExceptT.run load).run r = ⟨.ok (), r, []⟩ := by
  obtain ⟨cache, store, clock⟩ := r
  cases hs
  rfl

theorem run_persistIfChanged_of_cache (hs : r.store = none) :
    (ExceptT.run persistIfChanged).run r = ⟨.ok false, r, []⟩ := by
  obtain ⟨cache, store, clock⟩ := r
  cases hs
  rfl

theorem store_after_eq_none (hs : r.store = none) (acts : List Act) :
    (after acts r).store = none := by
  induction acts generalizing r with
  | nil => exact hs
  | cons act acts ih =>
    refine ih (r := act.after r) ?_
    cases act with
    | call c => exact c.leads stepwise_noStore r hs
    | load => rw [Act.after, run_load_of_cache hs, hs]
    | flush => rw [Act.after, run_persistIfChanged_of_cache hs, hs]

/-- **A flush is needed exactly if something changed.** Do anything to a new repository over a
store of its own, whatever the capacity of its cache. Then a flush succeeds, and finds that it is
needed if and only if, since the last one that was or since the start, the repository went back to
the snapshot or some write left an entry other than it found it. Needed or not, it leaves a snapshot
that is the working set, which holds what was held before; one that is not needed leaves everything
as it was. After a call that only reads, is discarded, stores what is there or deletes what is not,
a flush finds what it would have found before. Without a store no flush ever is needed. -/
theorem flushes_iff_changed (capacity : Nat) (acts : List Act) :
    let opened := Repository.withStore capacity .empty
    (∃ b, (after acts opened).flushed = .ok b) ∧
      ((after acts opened).flushed = .ok true ↔ ChangedSinceFlush acts opened) ∧
      (∃ s, (after (acts ++ [.flush]) opened).store = some s ∧ s.persisted = s.working ∧
        s.get? = (after acts opened).stored? ∧
        ((after acts opened).flushed = .ok false →
          after (acts ++ [.flush]) opened = after acts opened)) ∧
      (∀ call : AnyCall, call.Idle (after acts opened).stored? →
        (after (acts ++ [.call call]) opened).flushed = (after acts opened).flushed) ∧
      (after acts (.empty capacity)).flushed = .ok false := by
  intro opened
  obtain ⟨⟨b, hb⟩, hneeded⟩ := flushed_after capacity acts
  refine ⟨⟨b, hb⟩, hneeded, ?_, fun call hidle => ?_, ?_⟩
  · obtain ⟨s, htracked⟩ := tracked_after acts (tracked_withStore capacity)
    rw [after_concat]
    exact htracked.flush
  · obtain ⟨s, hdated, -⟩ := dated_after capacity acts
    have hsame : ChangedSinceFlush (acts ++ [.call call]) opened ↔
        ChangedSinceFlush acts opened := by
      rw [changedSinceFlush_concat, or_iff_right (call.not_changes hdated.toOver hidle)]
      exact and_iff_left fun hflush => Act.noConfusion hflush.1
    obtain ⟨⟨b', hb'⟩, hneeded'⟩ := flushed_after capacity (acts ++ [.call call])
    rw [← hneeded, ← hneeded', hb, hb'] at hsame
    have hanswer : b' = b := Bool.eq_iff_iff.mpr (by simpa using hsame)
    rw [hb, hb', hanswer]
  · have hnoStore : (after acts (.empty capacity)).store = none := store_after_eq_none rfl acts
    rw [flushed, run_persistIfChanged_of_cache hnoStore]

/-- A list that names a segment twice is stored, flushed, and stored again, which comes to what was
there but writes the segment twice on the way. -/
def listAgainActs : List Act :=
  let call : Act := .call (.segment (.setAll "e" [bareSegment "a" 2, bareSegment "a" 1] true))
  [call, .flush, call]

/-- That has to be flushed, and a discarded write after it makes no difference. The flush leaves what
was held in the snapshot. -/
theorem flushes_iff_changed_listAgainActs :
    let opened := Repository.withStore 1 .empty
    let call : AnyCall := .segment (.set (bareSegment "a" 1) false)
    call.Idle (after listAgainActs opened).stored? ∧
      (after listAgainActs opened).stored? "segment/a" =
        (after (listAgainActs.take 2) opened).stored? "segment/a" ∧
      (after (listAgainActs.take 2) opened).flushed = .ok false ∧
      ChangedSinceFlush listAgainActs opened ∧
      (after (listAgainActs ++ [.call call]) opened).flushed = .ok true ∧
      ∃ s, (after (listAgainActs ++ [.flush]) opened).store = some s ∧
        s.persisted.get? = (after listAgainActs opened).stored? := by
  intro opened call
  have hidle : call.Idle (after listAgainActs opened).stored? := .inl (by decide +kernel)
  have hneeded : (after listAgainActs opened).flushed = .ok true := by decide +kernel
  obtain ⟨-, hchanged, ⟨s, hstore, hsnapshot, hheld, -⟩, hcall, -⟩ :=
    flushes_iff_changed 1 listAgainActs
  refine ⟨hidle, by decide +kernel, by decide +kernel, hchanged.mp hneeded,
    (hcall call hidle).trans hneeded, s, hstore, ?_⟩
  rw [hsnapshot]
  exact hheld

end FlagReplica.Repository
