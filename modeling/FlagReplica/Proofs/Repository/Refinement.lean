import FlagReplica.Proofs.Repository.Faithful
/-!
# A repository does what is done to its contents

An action on a repository `Follows` an action on contents if, from a repository that is faithful, it
comes to the same answer, gives the same notices, and leaves a repository that holds what the
contents then are. The room that a faithful repository without a store needs is a set of keys, and
an action has to be followed only as long as its notices tell of no key outside it. A bound on the
whole of a run is so a bound on each of its parts.

Every operation of the repository follows its namesake on contents. So what is proved of contents
holds of every repository, whichever way it holds them.
-/

namespace FlagReplica

variable {α β : Type} {room : Finset String}

/-- What an action on a repository comes to, with only the contents of the repository. -/
def Outcome.seen (o : Outcome Notice Repository α) : Outcome Notice Contents α :=
  ⟨o.value, o.state.stored?, o.notices⟩

namespace Repository

open Record (kind identifier version)

/-- The action comes to what the action on contents comes to. -/
def Follows (room : Finset String) (a : RepositoryAction α) (b : ContentsAction α) : Prop :=
  ∀ r : Repository, r.Faithful room → keysWritten (a.run r).notices ⊆ room →
    (a.run r).seen = b.run r.stored? ∧ (a.run r).state.Faithful room

/-- The write succeeds, and comes to what the action on contents comes to. -/
def FollowsWrite (room : Finset String) (a : RepositoryWrite α) (b : ContentsAction α) : Prop :=
  Follows room (ExceptT.run a) (Except.ok <$> b)

/-! ## Composition -/

namespace Follows

/-- What an action that follows comes to, part by part. -/
theorem run_eq {a : RepositoryAction α} {b : ContentsAction α} (h : Follows room a b)
    {r : Repository} (hr : r.Faithful room) (hw : keysWritten (a.run r).notices ⊆ room) :
    (a.run r).value = (b.run r.stored?).value ∧
      (a.run r).state.stored? = (b.run r.stored?).state ∧ (a.run r).state.Faithful room := by
  obtain ⟨hseen, hafter⟩ := h r hr hw
  exact ⟨congrArg (fun o => o.value) hseen, congrArg (fun o => o.state) hseen, hafter⟩

theorem pure (x : α) : Follows room (pure x) (pure x) := fun _ hr _ => ⟨rfl, hr⟩

theorem bind {a : RepositoryAction α} {b : ContentsAction α} {f : α → RepositoryAction β}
    {g : α → ContentsAction β} (ha : Follows room a b) (hf : ∀ x, Follows room (f x) (g x)) :
    Follows room (a >>= f) (b >>= g) := by
  intro r hr hw
  rw [Action.run_bind, keysWritten_append, Finset.union_subset_iff] at hw
  obtain ⟨hab, hr'⟩ := ha r hr hw.1
  obtain ⟨hfg, hr''⟩ := hf (a.run r).value (a.run r).state hr' hw.2
  refine ⟨?_, hr''⟩
  rw [Action.run_bind b, ← hab]
  simp only [Outcome.seen] at hfg ⊢
  rw [← hfg]
  rfl

theorem map {a : RepositoryAction α} {b : ContentsAction α} (f : α → β) (h : Follows room a b) :
    Follows room (f <$> a) (f <$> b) := by
  rw [← bind_pure_comp, ← bind_pure_comp]
  exact h.bind fun x => .pure (f x)

theorem notify (n : Notice) : Follows room (Action.notify n) (Action.notify n) :=
  fun _ hr _ => ⟨rfl, hr⟩

theorem lookUp (key : String) : Follows room (Repository.lookUp key) ((· key) <$> Action.get) := by
  intro r hr _
  obtain ⟨r', hrun, hstored, hr'⟩ := hr.lookUp key
  rw [hrun, Action.run_map]
  exact ⟨by simp [Outcome.seen, hstored], hr'⟩

/-- Following goes on over a list of things to do. -/
theorem mapM {f : α → RepositoryAction β} {g : α → ContentsAction β} (xs : List α)
    (h : ∀ x ∈ xs, Follows room (f x) (g x)) : Follows room (xs.mapM f) (xs.mapM g) := by
  induction xs with
  | nil =>
    rw [List.mapM_nil, List.mapM_nil]
    exact .pure []
  | cons x xs ih =>
    rw [List.mapM_cons, List.mapM_cons]
    refine (h x List.mem_cons_self).bind fun y => ?_
    exact (ih fun z hz => h z (List.mem_cons_of_mem _ hz)).bind fun ys => .pure (y :: ys)

end Follows

namespace FollowsWrite

theorem pure (x : α) : FollowsWrite room (Pure.pure x) (Pure.pure x) := by
  rw [FollowsWrite, map_pure]
  exact Follows.pure _

theorem bind {a : RepositoryWrite α} {b : ContentsAction α} {f : α → RepositoryWrite β}
    {g : α → ContentsAction β} (ha : FollowsWrite room a b)
    (hf : ∀ x, FollowsWrite room (f x) (g x)) : FollowsWrite room (a >>= f) (b >>= g) := by
  -- the case of a failure never comes, but the two sides have to agree on it all the same
  have hcont : ∀ x : Except Error α, Follows room
      (match x with | .ok x => ExceptT.run (f x) | .error e => Pure.pure (.error e))
      (match x with | .ok x => Except.ok <$> g x | .error e => Pure.pure (.error e)) := by
    intro x
    cases x with
    | ok x => exact hf x
    | error e => exact .pure _
  have hboth := Follows.bind ha hcont
  simp only [bind_map_left] at hboth
  rw [FollowsWrite, ExceptT.run_bind, map_bind]
  refine (congrArg₂ (Follows room) ?_ rfl).mp hboth
  refine congrArg₂ _ rfl (funext fun x => ?_)
  cases x with
  | ok x => rfl
  | error e => rfl

theorem lift {a : RepositoryAction α} {b : ContentsAction α} (h : Follows room a b) :
    FollowsWrite room (ExceptT.lift a) b := h.map Except.ok

theorem state_bind {f : Repository → RepositoryWrite β} {g : Contents → ContentsAction β}
    (h : ∀ r, FollowsWrite room (f r) (g r.stored?)) :
    FollowsWrite room (state >>= f) (Action.get >>= g) := by
  intro r hr hw
  rw [run_state] at hw ⊢
  rw [map_bind]
  exact h r r hr hw

theorem ite {p : Prop} [Decidable p] {a a' : RepositoryWrite α} {b b' : ContentsAction α}
    (h : FollowsWrite room a b) (h' : FollowsWrite room a' b') :
    FollowsWrite room (if p then a else a') (if p then b else b') := by
  split
  · exact h
  · exact h'

theorem forEach {f : α → RepositoryWrite Unit} {g : α → ContentsAction Unit} (xs : List α)
    (h : ∀ x ∈ xs, FollowsWrite room (f x) (g x)) :
    FollowsWrite room (Repository.forEach f xs) (xs.forM g) := by
  induction xs with
  | nil => exact .pure ()
  | cons x xs ih =>
    exact (h x List.mem_cons_self).bind fun _ => ih fun y hy => h y (List.mem_cons_of_mem _ hy)

end FollowsWrite

/-! ## Changes and their notices -/

/-- Does a write, and tells of a change if it was one. -/
def telling (c : Change) (w : RepositoryWrite Bool) : RepositoryWrite Unit := do
  if ← w then ExceptT.lift (changed c)

theorem run_telling {c : Change} {w : RepositoryWrite Bool} {r : Repository} {b : Bool}
    (h : ((ExceptT.run w).run r).value = .ok b) :
    (ExceptT.run (telling c w)).run r =
      ⟨.ok (), ((ExceptT.run w).run r).state,
        ((ExceptT.run w).run r).notices ++ if b then [.changed c] else []⟩ := by
  rw [telling, ExceptT.run_bind, Action.run_bind, h]
  cases b <;> rfl

/-- **A write of an entry** follows, for a change is told with its key. -/
theorem followsWrite_put (key : Key) {c : Change} (entry : Entry) (hc : c.written? = some key) :
    FollowsWrite room (telling c (put key.text entry)) (Contents.put key.text entry c) := by
  intro r hr hw
  have hvalue := hr.value_put key.text entry
  rw [run_telling hvalue] at hw ⊢
  -- a write that changes something is told by its key, and what is told is in the room
  have hroom : r.stored? key.text ≠ some entry → key.text ∈ room := by
    intro hne
    rw [if_pos (by simpa using hne), keysWritten_append, Finset.union_subset_iff] at hw
    exact hw.2 (mem_keysWritten_changed hc)
  obtain ⟨r', hrun, hstored, hr'⟩ := hr.put key.text entry hroom
  rw [hrun, Action.run_map]
  refine ⟨?_, hr'⟩
  simp only [Outcome.seen, hstored, List.nil_append, decide_eq_true_eq, ite_not]
  rfl

/-- **A removal** follows. -/
theorem followsWrite_remove (key : String) (c : Change) :
    FollowsWrite room (telling c (remove key)) (Contents.drop key c) := by
  intro r hr _
  obtain ⟨r', hrun, hstored, hr'⟩ := hr.remove key
  rw [run_telling (by rw [hrun]), hrun, Action.run_map]
  refine ⟨?_, hr'⟩
  simp only [Outcome.seen, hstored, List.nil_append, decide_eq_true_eq, ite_not]
  rfl

theorem followsWrite_log (level : Level) (text : String) :
    FollowsWrite room (ExceptT.lift (log level text)) (Contents.log level text) :=
  .lift (.notify _)

/-! ## The operations -/

variable [Record α]

/-- **A read of a single thing** follows. -/
theorem follows_get (id : String) :
    Follows room (get id : RepositoryAction (Option α))
      ((fun held => held.find? id) <$> Action.get) := by
  have hlook : Follows room (lookUp (entityKey α id)) _ := .lookUp _
  have h := hlook.map fun e => (e.bind Record.ofEntry? : Option α)
  rw [← comp_map] at h
  rw [get, bind_pure_comp]
  exact h

/-- **A read of a list** follows. -/
theorem follows_getAll (env : String) :
    Follows room (getAll env : RepositoryAction (List α))
      ((fun held => held.listed env) <$> Action.get) := by
  have hlook : Follows room (lookUp (listKey α env)) _ := .lookUp _
  have h := hlook.map fun e => ((e.bind Record.ofListing?).getD [] : List α)
  rw [← comp_map] at h
  rw [getAll, bind_pure_comp]
  exact h

theorem Faithful.value_get {r : Repository} (hr : r.Faithful room) (id : String) :
    ((get id : RepositoryAction (Option α)).run r).value = Contents.find? r.stored? id := by
  obtain ⟨r', hrun, -⟩ := hr.lookUp (entityKey α id)
  rw [get, bind_pure_comp, Action.run_map, hrun]
  rfl

theorem Faithful.value_getAll {r : Repository} (hr : r.Faithful room) (env : String) :
    ((getAll env : RepositoryAction (List α)).run r).value = Contents.listed r.stored? env := by
  obtain ⟨r', hrun, -⟩ := hr.lookUp (listKey α env)
  rw [getAll, bind_pure_comp, Action.run_map, hrun]
  rfl

theorem followsWrite_setOne (x : α) (initial : Bool) :
    FollowsWrite room (setOne x initial) (Contents.setOne x initial) :=
  .state_bind fun _ => .ite (followsWrite_log _ _)
    (followsWrite_put (.entity (kind α) (identifier x)) _ rfl)

theorem followsWrite_deleteOne (id : String) :
    FollowsWrite room (deleteOne α id) (Contents.deleteOne α id) :=
  followsWrite_remove _ _

/-- A list write is the write of the list entry, and then of each thing in it. -/
theorem setAll_eq (env : String) (xs : List α) (initial : Bool) : setAll env xs initial = (do
    let r ← state
    if isOutdated initial (r.stored? (listKey α env)) (newest (xs.map version)) then
      ExceptT.lift (log .trace "discarding list write of outdated version")
    else
      telling (.listStored (kind α) env) (put (listKey α env) (Record.toListing xs))
      forEach (fun x => setOne x initial) xs
      if initial then
        forEach (fun old => deleteOne α (identifier old))
          (missingFrom xs (Contents.listed r.stored? env))) := by
  simp only [setAll, telling, bind_assoc]
  refine congrArg _ (funext fun r => ?_)
  split
  · rfl
  · refine congrArg _ (funext fun b => ?_)
    cases b with
    | false =>
      rw [if_neg Bool.false_ne_true, if_neg Bool.false_ne_true, pure_bind]
      rfl
    | true =>
      rw [if_pos rfl, if_pos rfl]
      rfl

theorem followsWrite_setAll (env : String) (xs : List α) (initial : Bool) :
    FollowsWrite room (setAll env xs initial) (Contents.setAll env xs initial) := by
  rw [setAll_eq]
  refine .state_bind fun r => .ite (followsWrite_log _ _) ?_
  refine (followsWrite_put (.listing (kind α) env) _ rfl).bind fun _ => ?_
  refine (FollowsWrite.forEach xs fun x _ => followsWrite_setOne x initial).bind fun _ => ?_
  exact .ite (.forEach _ fun old _ => followsWrite_deleteOne _) (.pure ())

theorem followsWrite_merge (env : String) (x : α) :
    FollowsWrite room (merge env x) (Contents.merge env x) := by
  refine .state_bind fun r => ?_
  dsimp only [Contents.listed]
  cases merged? x (((r.stored? (listKey α env)).bind Record.ofListing?).getD []) with
  | none => exact .pure ()
  | some xs => exact followsWrite_put (.listing (kind α) env) _ rfl

theorem followsWrite_removeFrom (env id : String) :
    FollowsWrite room (removeFrom α env id) (Contents.removeFrom α env id) := by
  refine .state_bind fun r => ?_
  dsimp only
  cases (r.stored? (listKey α env)).bind (Record.ofListing? (α := α)) with
  | none => exact .pure ()
  | some xs => exact .ite (followsWrite_put (.listing (kind α) env) _ rfl) (.pure ())

end Repository

end FlagReplica
