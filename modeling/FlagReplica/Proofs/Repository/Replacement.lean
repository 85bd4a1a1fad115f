import FlagReplica.Proofs.Repository.Agreement
import FlagReplica.Proofs.Repository.Persistence
/-!
# An authoritative list is all there is

An authoritative list takes the place of the list of its environment, whatever was done to the
repository before, and whatever the versions say (`Repository.replaces_of_acts`). Right after it the
environment lists what the list has, in its order, everything in it is found under its own
identifier, and what only the list before had is found no more. The list before may have come about
in any way. It may name one thing twice, or list things that were stored otherwise since.

The write is made of three parts that each leave out what makes no difference, and a part that is
left out must not take a later one with it. What it comes to on contents is `state_setAll_listKey`
and `state_setAll_entityKey`, which ask nothing of what was held. A repository comes to the same as
long as it has room for what is written, and that lasts over any acts (`Faithful.after`).
-/

namespace FlagReplica.Repository

open Record (identifier)

variable {α : Type} [Record α] {r : Repository} {room : Finset String} {env : String} {xs : List α}

/-! ## One list -/

/-- From a repository before to one after, a list took the place of the list of an environment. -/
structure Replaces (env : String) (xs : List α) (before after : Repository) : Prop where
  /-- The environment lists what the list has, in its order. -/
  list : ((getAll env).run after).value = xs
  /-- Everything in the list is found under its identifier. -/
  found : ∀ x ∈ xs, ((get (identifier x)).run after).value = some x
  /-- What was listed before and is not in the list is found no more. -/
  gone : ∀ old ∈ (((getAll env).run before).value : List α), identifier old ∉ xs.map identifier →
    ((get (identifier old) : RepositoryAction (Option α)).run after).value = none

/-- **An authoritative list replaces the list of its environment** in any repository that shows what
it holds. -/
theorem Faithful.replaces [LawfulRecord α] (hr : r.Faithful room) (hxs : (xs.map identifier).Nodup)
    (hroom : keysWritten ((ExceptT.run (setAll env xs true)).run r).notices ⊆ room) :
    let o := (ExceptT.run (setAll env xs true)).run r
    o.value = .ok () ∧ Replaces env xs r o.state := by
  intro o
  obtain ⟨hvalue, hstored, hafter⟩ := (followsWrite_setAll env xs true).run_eq hr hroom
  rw [Action.run_map] at hvalue hstored
  -- what is found under an identifier, by what the two lists have of it
  have hfound (id : String) : ((get id : RepositoryAction (Option α)).run o.state).value =
      (((byName xs id).map Record.toEntry).or
        (if byName (Contents.listed r.stored? env : List α) id = none then
          r.stored? (entityKey α id) else none)).bind Record.ofEntry? := by
    rw [hafter.value_get, Contents.find?, hstored, Contents.state_setAll_entityKey hxs]
  refine ⟨hvalue, ⟨?_, fun x hx => ?_, fun old hold hmissing => ?_⟩⟩
  · rw [hafter.value_getAll, hstored, Contents.listed_setAll]
  · have hname : byName xs (identifier x) = some x := (byName_eq_some_iff hxs).mpr ⟨hx, rfl⟩
    rw [hfound, hname, Option.map_some, Option.some_or, Option.bind_some,
      LawfulRecord.ofEntry?_toEntry]
  · rw [hr.value_getAll] at hold
    have hlisted : byName (Contents.listed r.stored? env : List α) (identifier old) ≠ none := by
      rw [Ne, byName_eq_none_iff, not_not]
      exact List.mem_map_of_mem hold
    rw [hfound, byName_eq_none_iff.mpr hmissing, if_neg hlisted]
    rfl

/-! ## After any acts -/

/-- Does what the act does, whatever it is answered. -/
def Act.run : Act → RepositoryAction Unit
  | .call c => (fun _ => ()) <$> c.run
  | .load => (fun _ => ()) <$> ExceptT.run Repository.load
  | .flush => (fun _ => ()) <$> ExceptT.run persistIfChanged

/-- Does one act after the other. -/
def performs (acts : List Act) : RepositoryAction Unit := acts.forM Act.run

theorem Act.state_run (act : Act) (r : Repository) : (act.run.run r).state = act.after r := by
  cases act <;> rw [Act.run, Action.run_map] <;> rfl

theorem notices_performs_cons (act : Act) (acts : List Act) (r : Repository) :
    ((performs (act :: acts)).run r).notices =
      (act.run.run r).notices ++ ((performs acts).run (act.after r)).notices := by
  rw [← act.state_run]
  rfl

/-- Going back to the snapshot drops every copy, and without a store there is nothing to go back
to. -/
theorem Faithful.load (hr : r.Faithful room) :
    ((ExceptT.run Repository.load).run r).state.Faithful room := by
  obtain ⟨cache, store, clock⟩ := r
  cases store with
  | none => exact hr
  | some s =>
    obtain ⟨working, persisted, persistedAt, unavailable⟩ := s
    cases hr.available _ rfl
    exact faithful_of_store rfl fun _ _ he => by cases he

/-- **An act leaves a repository that shows what it holds**, if there is room for what it writes. -/
theorem Faithful.act (hr : r.Faithful room) (act : Act)
    (hroom : keysWritten (act.run.run r).notices ⊆ room) : (act.after r).Faithful room := by
  cases act with
  | call c =>
    rw [Act.run, Action.run_map] at hroom
    exact (c.follows.run_eq hr hroom).2.2
  | load => exact hr.load
  | flush => exact hr.persistIfChanged.2

/-- **So do acts one after the other.** -/
theorem Faithful.after (hr : r.Faithful room) (acts : List Act)
    (hroom : keysWritten ((performs acts).run r).notices ⊆ room) :
    (Repository.after acts r).Faithful room := by
  induction acts generalizing r with
  | nil => exact hr
  | cons act acts ih =>
    rw [notices_performs_cons, keysWritten_append, Finset.union_subset_iff] at hroom
    exact ih (hr.act act hroom.1) hroom.2

theorem notices_performs_append (acts acts' : List Act) (r : Repository) :
    ((performs (acts ++ acts')).run r).notices =
      ((performs acts).run r).notices ++
        ((performs acts').run (Repository.after acts r)).notices := by
  induction acts generalizing r with
  | nil => rfl
  | cons act acts ih =>
    rw [List.cons_append, notices_performs_cons, notices_performs_cons, ih, List.append_assoc]
    rfl

/-- Before the last of some acts, a new repository with room for what they all write shows what it
holds, and there is room for what the last one writes. -/
theorem Fresh.before_last (hr : r.Fresh) {acts : List Act} {act : Act}
    (hroom : r.HasRoom ((performs (acts ++ [act])).run r).notices) :
    let room := keysWritten ((performs (acts ++ [act])).run r).notices
    (Repository.after acts r).Faithful room ∧
      keysWritten (act.run.run (Repository.after acts r)).notices ⊆ room := by
  intro room
  have hlast : ((performs [act]).run (Repository.after acts r)).notices =
      (act.run.run (Repository.after acts r)).notices := by
    rw [notices_performs_cons]
    exact List.append_nil _
  have hwritten : room = keysWritten ((performs acts).run r).notices ∪
      keysWritten (act.run.run (Repository.after acts r)).notices := by
    rw [← keysWritten_append, ← hlast, ← notices_performs_append]
  refine ⟨(hr.faithful hroom).after acts ?_, ?_⟩
  · exact Finset.subset_union_left.trans hwritten.symm.subset
  · exact Finset.subset_union_right.trans hwritten.symm.subset

/-- **An authoritative list is all there is.** Let anything be done to a new repository, over a
store of its own or with room for the keys that are written, and then an authoritative list of
flags that names nothing twice be stored for an environment. That succeeds, the environment then
lists these flags in this order, each of them is found, and of those it listed before no other is.
The same holds of segments. -/
theorem replaces_of_acts (r : Repository) (acts : List Act) (env : String) (hr : r.Fresh) :
    let before := after acts r
    (∀ fs : List Flag, (fs.map (·.feature)).Nodup →
      r.HasRoom ((performs (acts ++ [.call (.flag (.setAll env fs true))])).run r).notices →
      let o := (ExceptT.run (setFlags env fs true)).run before
      o.value = .ok () ∧ Replaces env fs before o.state) ∧
    ∀ gs : List Segment, (gs.map (·.identifier)).Nodup →
      r.HasRoom ((performs (acts ++ [.call (.segment (.setAll env gs true))])).run r).notices →
      let o := (ExceptT.run (setSegments env gs true)).run before
      o.value = .ok () ∧ Replaces env gs before o.state := by
  refine ⟨fun fs hfs hroom => ?_, fun gs hgs hroom => ?_⟩
  · obtain ⟨hbefore, hwritten⟩ := hr.before_last hroom
    simp only [Act.run, AnyCall.run, Call.run, Action.run_map] at hwritten
    exact hbefore.replaces hfs hwritten
  · obtain ⟨hbefore, hwritten⟩ := hr.before_last hroom
    simp only [Act.run, AnyCall.run, Call.run, Action.run_map] at hwritten
    exact hbefore.replaces hgs hwritten

/-- A list that names a segment twice, and a segment stored besides that it does not list. -/
def untidyActs : List Act := [
  .call (.segment (.setAll "e" [bareSegment "a" 5, bareSegment "b" 5, bareSegment "b" 6] false)),
  .call (.segment (.set (bareSegment "c" 1) false)), .flush, .load,
  .call (.segment (.merge "e" (bareSegment "a" 7)))]

/-- An older list takes the place of that one in a cache without a store. -/
theorem replaces_of_acts_untidyActs :
    let call : Act := .call (.segment (.setAll "e" [bareSegment "c" 1, bareSegment "a" 2] true))
    let before := after untidyActs (.empty 4)
    let o := (ExceptT.run (setSegments "e" [bareSegment "c" 1, bareSegment "a" 2] true)).run before
    ([bareSegment "c" 1, bareSegment "a" 2].map (·.identifier)).Nodup ∧
      (keysWritten ((performs (untidyActs ++ [call])).run (.empty 4)).notices).card = 4 ∧
      ((getSegments "e").run before).value =
        [bareSegment "a" 7, bareSegment "b" 5, bareSegment "b" 6] ∧
      o.value = .ok () ∧ Replaces "e" [bareSegment "c" 1, bareSegment "a" 2] before o.state := by
  intro call before o
  have hnames : ([bareSegment "c" 1, bareSegment "a" 2].map (·.identifier)).Nodup := by decide
  have hcard :
      (keysWritten ((performs (untidyActs ++ [call])).run (.empty 4)).notices).card = 4 := by
    decide +kernel
  have h := (replaces_of_acts (.empty 4) untidyActs "e" (.empty 4)).2 _ hnames fun _ => hcard.le
  exact ⟨hnames, hcard, by decide +kernel, h⟩

end FlagReplica.Repository
