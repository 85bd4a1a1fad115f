import FlagReplica.Proofs.Repository.Refinement
/-!
# A store does not show

Whether a repository has a store makes no difference to what can be seen of it, as long as a
repository without one has room for all that is written: every sequence of calls gets the same
answers and gives the same notices (`answers_eq`). What a store and a cache do differently, copies
that are kept on reads, dropped on writes and pushed out at any time, stays inside.

Both repositories follow the same actions on contents, and both start with nothing.
-/

namespace FlagReplica

namespace Repository

/-- A call of a repository that concerns one kind of thing. -/
inductive Call (α : Type)
  | get (id : String)
  | getAll (env : String)
  | set (x : α) (initial : Bool)
  | setAll (env : String) (xs : List α) (initial : Bool)
  | merge (env : String) (x : α)
  | delete (id : String)
  | deleteFrom (env id : String)
  deriving DecidableEq, Repr

/-- What a call is answered. -/
inductive Answer (α : Type)
  | one (x : Option α)
  | list (xs : List α)
  | done (result : Except Error Unit)

/-- A call that concerns flags or segments. -/
inductive AnyCall
  | flag (call : Call Flag)
  | segment (call : Call Segment)
  deriving DecidableEq, Repr

/-- What a call that concerns flags or segments is answered. -/
inductive AnyAnswer
  | flag (answer : Answer Flag)
  | segment (answer : Answer Segment)

section Kind

variable {α : Type} [Record α]

/-- Does what is called for. -/
def Call.run : Call α → RepositoryAction (Answer α)
  | .get id => .one <$> Repository.get id
  | .getAll env => .list <$> Repository.getAll env
  | .set x initial => .done <$> (setOne x initial).run
  | .setAll env xs initial => .done <$> (Repository.setAll env xs initial).run
  | .merge env x => .done <$> (Repository.merge env x).run
  | .delete id => .done <$> (deleteOne α id).run
  | .deleteFrom env id => .done <$> (removeFrom α env id).run

/-- Does what is called for to the contents of a repository. -/
def Call.runOnContents : Call α → ContentsAction (Answer α)
  | .get id => (fun held => .one (held.find? id)) <$> Action.get
  | .getAll env => (fun held => .list (held.listed env)) <$> Action.get
  | .set x initial => (fun _ => .done (.ok ())) <$> Contents.setOne x initial
  | .setAll env xs initial => (fun _ => .done (.ok ())) <$> Contents.setAll env xs initial
  | .merge env x => (fun _ => .done (.ok ())) <$> Contents.merge env x
  | .delete id => (fun _ => .done (.ok ())) <$> Contents.deleteOne α id
  | .deleteFrom env id => (fun _ => .done (.ok ())) <$> Contents.removeFrom α env id

variable {room : Finset String}

omit [Record α] in
theorem FollowsWrite.done {a : RepositoryWrite Unit} {b : ContentsAction Unit}
    (h : FollowsWrite room a b) :
    Follows room (Answer.done <$> a.run : RepositoryAction (Answer α))
      ((fun _ => .done (.ok ())) <$> b) := by
  have hdone := Follows.map (Answer.done (α := α)) h
  rwa [← comp_map] at hdone

/-- **Every call follows.** -/
theorem Call.follows (call : Call α) : Follows room call.run call.runOnContents := by
  cases call with
  | get id =>
    have hget : Follows room (Repository.get id : RepositoryAction (Option α)) _ := follows_get id
    have h := hget.map Answer.one
    rwa [← comp_map] at h
  | getAll env =>
    have hget : Follows room (Repository.getAll env : RepositoryAction (List α)) _ :=
      follows_getAll env
    have h := hget.map Answer.list
    rwa [← comp_map] at h
  | set x initial => exact (followsWrite_setOne x initial).done
  | setAll env xs initial => exact (followsWrite_setAll env xs initial).done
  | merge env x => exact (followsWrite_merge env x).done
  | delete id => exact (followsWrite_deleteOne id).done
  | deleteFrom env id => exact (followsWrite_removeFrom env id).done

end Kind

/-- Does what is called for. At flags, a `Call` is one of `getFlag`, `getFlags`, `setFlag`,
`setFlags`, `mergeFlag`, `deleteFlag` and `deleteFlags`, and at segments one of their namesakes. -/
def AnyCall.run : AnyCall → RepositoryAction AnyAnswer
  | .flag call => .flag <$> call.run
  | .segment call => .segment <$> call.run

/-- Does what is called for to the contents of a repository. -/
def AnyCall.runOnContents : AnyCall → ContentsAction AnyAnswer
  | .flag call => .flag <$> call.runOnContents
  | .segment call => .segment <$> call.runOnContents

theorem AnyCall.follows {room : Finset String} (call : AnyCall) :
    Follows room call.run call.runOnContents := by
  cases call with
  | flag call => exact call.follows.map AnyAnswer.flag
  | segment call => exact call.follows.map AnyAnswer.segment

/-- Does what is called for, one call after the other. -/
def answers (calls : List AnyCall) : RepositoryAction (List AnyAnswer) := calls.mapM AnyCall.run

/-- To do some things after others is to do them from where the others end. -/
theorem run_mapM_append {ν σ γ δ : Type} (f : γ → Action ν σ δ) (xs ys : List γ) (s : σ) :
    (((xs ++ ys).mapM f).run s).state = ((ys.mapM f).run ((xs.mapM f).run s).state).state ∧
    (((xs ++ ys).mapM f).run s).notices =
      ((xs.mapM f).run s).notices ++ ((ys.mapM f).run ((xs.mapM f).run s).state).notices := by
  rw [List.mapM_append, Action.run_bind, Action.run_bind]
  simp

/-- A part of the calls writes no key that all of them do not write. -/
theorem keysWritten_answers_subset {done calls : List AnyCall} (h : done <+: calls)
    (r : Repository) : keysWritten ((answers done).run r).notices ⊆
      keysWritten ((answers calls).run r).notices := by
  obtain ⟨rest, rfl⟩ := h
  obtain ⟨-, hnotices⟩ := run_mapM_append AnyCall.run done rest r
  rw [answers, answers, hnotices, keysWritten_append]
  exact Finset.subset_union_left

/-- What calls come to depends on what is held alone. -/
theorem Faithful.seen_answers {r : Repository} (calls : List AnyCall)
    (hr : r.Faithful (keysWritten ((answers calls).run r).notices)) :
    ((answers calls).run r).seen = (calls.mapM AnyCall.runOnContents).run r.stored? :=
  (Follows.mapM calls (fun call _ => call.follows) r hr subset_rfl).1

/-- **A repository with nothing in it and room for what is written** comes to what contents of
nothing come to. -/
theorem seen_answers {r : Repository} (calls : List AnyCall)
    (hr : r.Faithful (keysWritten ((answers calls).run r).notices))
    (hnothing : r.stored? = Contents.nothing) :
    ((answers calls).run r).seen = (calls.mapM AnyCall.runOnContents).run Contents.nothing := by
  rw [← hnothing]
  exact hr.seen_answers calls

/-- **A store does not show.** Any sequence of calls on a new repository over a store of its own,
with a cache of any capacity, gets the same answers and gives the same notices in the same order as
on a new repository without a store, if the cache of that one has the capacity for the keys that
are written. -/
theorem answers_eq (capacity roomy : Nat) (calls : List AnyCall)
    (hroom : (keysWritten ((answers calls).run (.empty roomy)).notices).card ≤
      (Repository.empty roomy).cache.capacity) :
    ((answers calls).run (.withStore capacity .empty)).value =
        ((answers calls).run (.empty roomy)).value ∧
      ((answers calls).run (.withStore capacity .empty)).notices =
        ((answers calls).run (.empty roomy)).notices := by
  have hstore := seen_answers calls (faithful_withStore capacity) rfl
  have hcache := seen_answers calls (faithful_empty hroom) rfl
  have hseen := hstore.trans hcache.symm
  simp only [Outcome.seen, Outcome.mk.injEq] at hseen
  exact ⟨hseen.1, hseen.2.2⟩

/-- A segment with nobody in it. -/
def bareSegment (identifier : String) (version : Int64) : Segment :=
  ⟨identifier, none, [], [], [], version⟩

/-- Calls that write three keys, read them after each other, and discard a write that comes late. -/
def pressingCalls : List AnyCall := [
  .segment (.setAll "e" [bareSegment "a" 2, bareSegment "b" 1] true), .segment (.get "a"),
  .segment (.get "b"), .segment (.set (bareSegment "a" 1) false),
  .segment (.merge "e" (bareSegment "b" 3)), .segment (.getAll "e"),
  .segment (.deleteFrom "e" "a"), .segment (.delete "a"), .segment (.get "a")]

/-- A cache of one entry before a store does not show against a cache of three. -/
theorem answers_eq_pressingCalls :
    (keysWritten ((answers pressingCalls).run (.empty 3)).notices).card = 3 ∧
    ((answers pressingCalls).run (.withStore 1 .empty)).value =
      ((answers pressingCalls).run (.empty 3)).value := by
  have hcard : (keysWritten ((answers pressingCalls).run (.empty 3)).notices).card = 3 := by
    decide +kernel
  exact ⟨hcard, (answers_eq 1 3 pressingCalls hcard.le).1⟩

end Repository

end FlagReplica
