import FlagReplica.Proofs.Repository.Agreement
import FlagReplica.Proofs.Repository.Changes
/-!
# What an authoritative list leaves

An authoritative list deletes what the list before it named and it does not. It knows of that list
only what the repository still holds of it. A store holds all of it. A cache without one may have
pushed the list out and kept something that the list named, and then nobody deletes that any more:
`Repository.serves_dropped` is a run in which a flag is served after a list without it.

Nothing else is served on. As long as no list is replaced that was `Lost` in this way, what a list
does not name is gone right after it (`Repository.absent_of_refresh`), and with a store, or with room
for what is written, no list is ever lost (`findsLists_of_faithful`). What carries this over a cache
that pushes entries out at any time is that it holds only a part of what is said to be held
(`Contents.Within`): a list that is there still names all there is (`ListedOnly`).
-/

namespace FlagReplica

open Record (kind identifier version)

namespace Contents

open Repository

variable {α : Type} [Record α] {env : String} {held held' : Contents} {xs : List α}

/-! ## Parts of contents -/

/-- The first holds nothing that the second does not hold. -/
def Within (held held' : Contents) : Prop := ∀ key e, held key = some e → held' key = some e

namespace Within

theorem refl (held : Contents) : Within held held := fun _ _ h => h

theorem of_eq (h : held = held') : Within held held' := h ▸ refl held

theorem trans {held'' : Contents} (h : Within held held') (h' : Within held' held'') :
    Within held held'' := fun key e he => h' key e (h key e he)

theorem update (h : Within held held') (key : String) (entry : Option Entry) :
    Within (Function.update held key entry) (Function.update held' key entry) := by
  intro l e he
  by_cases hl : l = key
  · subst hl
    rw [Function.update_self] at he ⊢
    exact he
  · rw [Function.update_of_ne hl] at he ⊢
    exact h l e he

theorem ne_none (h : Within held held') {key : String} (hkey : held key ≠ none) :
    held' key ≠ none := by
  obtain ⟨e, he⟩ := Option.ne_none_iff_exists'.mp hkey
  rw [h key e he]
  exact Option.some_ne_none e

end Within

/-! ## Lists that name all there is -/

variable (α) in
/-- Whatever is held of a kind is named by the list of the environment, if that is held. -/
def ListedOnly (env : String) (held : Contents) : Prop :=
  ∀ id, held (entityKey α id) ≠ none → held (listKey α env) ≠ none →
    id ∈ (held.listed env : List α).map identifier

variable (α) in
/-- The list of the environment is not held, but something of its kind is. -/
def Lost (env : String) (held : Contents) : Prop :=
  held (listKey α env) = none ∧ ∃ id, held (entityKey α id) ≠ none

theorem not_lost_of_ne_none (h : held (listKey α env) ≠ none) : ¬ Lost α env held :=
  fun hlost => h hlost.1

theorem ListedOnly.congr (h : ListedOnly α env held) (heq : Set.EqOn held' held (keysOf α)) :
    ListedOnly α env held' := by
  intro id hone hlist
  rw [heq (entityKey_mem_keysOf id)] at hone
  rw [heq (listKey_mem_keysOf env)] at hlist
  rw [listed_congr (heq (listKey_mem_keysOf env))]
  exact h id hone hlist

/-- **What is forgotten does no harm.** A list that is still there is the list that was there. -/
theorem ListedOnly.within (h : ListedOnly α env held) (hwithin : Within held' held) :
    ListedOnly α env held' := by
  intro id hone hlist
  have hlisted : (held'.listed env : List α) = held.listed env := by
    obtain ⟨e, he⟩ := Option.ne_none_iff_exists'.mp hlist
    exact listed_congr (he.trans (hwithin _ e he).symm)
  rw [hlisted]
  exact h id (hwithin.ne_none hone) (hwithin.ne_none hlist)

theorem Lost.congr (h : Lost α env held') (heq : Set.EqOn held' held (keysOf α)) :
    Lost α env held := by
  obtain ⟨hlist, id, hone⟩ := h
  exact ⟨(heq (listKey_mem_keysOf env)).symm.trans hlist, id,
    heq (entityKey_mem_keysOf id) ▸ hone⟩

/-- **An authoritative list leaves nothing that it does not name**, unless the list before it was
lost. -/
theorem mem_of_setAll (h : ListedOnly α env held) (hfound : ¬ Lost α env held)
    (hxs : (xs.map identifier).Nodup) {id : String}
    (hone : ((setAll env xs true).run held).state (entityKey α id) ≠ none) :
    id ∈ xs.map identifier := by
  by_contra hid
  rw [← byName_eq_none_iff] at hid
  rw [state_setAll_entityKey hxs, hid, Option.map_none, Option.none_or] at hone
  -- it was held before, so the list before named it, and then it was deleted
  split at hone
  · next hprevious =>
    have hlist : held (listKey α env) ≠ none := fun hlist => hfound ⟨hlist, id, hone⟩
    exact byName_eq_none_iff.mp hprevious (h id hone hlist)
  · exact hone rfl

theorem listedOnly_setAll [LawfulRecord α] (h : ListedOnly α env held)
    (hfound : ¬ Lost α env held) (hxs : (xs.map identifier).Nodup) :
    ListedOnly α env ((setAll env xs true).run held).state := by
  intro id hone _
  rw [listed_setAll]
  exact mem_of_setAll h hfound hxs hone

/-- An authoritative list is not lost itself. -/
theorem not_lost_setAll (env : String) (xs : List α) (held : Contents) :
    ¬ Lost α env ((setAll env xs true).run held).state := by
  refine not_lost_of_ne_none ?_
  rw [state_setAll_listKey]
  exact Option.some_ne_none _

end Contents

namespace Repository

open Contents

/-! ## Repositories that may forget -/

/-- What is found in a repository is held there. Unlike in one that is `Faithful`, what was written
may be gone. -/
structure Honest (r : Repository) : Prop where
  available : ∀ s, r.store = some s → s.unavailable = []
  copies : ∀ s, r.store = some s → ∀ key e, r.cache.peek? key = some e → s.get? key = some e

variable {r : Repository} {room : Finset String} {held : Contents}

theorem Faithful.honest (hr : r.Faithful room) : r.Honest := ⟨hr.available, hr.copies⟩

theorem Fresh.honest (hr : r.Fresh) : r.Honest := by
  cases hr with
  | withStore capacity => exact (faithful_withStore capacity : Faithful ∅ _).honest
  | empty capacity => exact (faithful_empty (Nat.zero_le _) : Faithful ∅ _).honest

namespace Honest

theorem of_cache (hs : r.store = none) : r.Honest where
  available s h := by rw [hs] at h; cases h
  copies s h := by rw [hs] at h; cases h

/-- With a store, nothing is forgotten. -/
theorem faithful (hr : r.Honest) (hs : r.store ≠ none) : r.Faithful room :=
  ⟨hr.available, hr.copies, fun h => absurd h hs⟩

/-- A look-up finds what is held, and leaves it as it is. -/
theorem lookUp (hr : r.Honest) (key : String) :
    ((Repository.lookUp key).run r).value = r.stored? key ∧
      ((Repository.lookUp key).run r).state.stored? = r.stored? ∧
      ((Repository.lookUp key).run r).state.Honest := by
  by_cases hs : r.store = none
  · obtain ⟨cache, store, clock⟩ := r
    cases hs
    rw [run_lookUp, Cache.fst_get, stored?_of_cache]
    have hsame : (cache.get key).2.peek? = cache.peek? := funext fun _ => Cache.peek?_snd_get
    cases hp : cache.peek? key with
    | some e => exact ⟨rfl, hsame, .of_cache rfl⟩
    | none => exact ⟨rfl, hsame, .of_cache rfl⟩
  · obtain ⟨r', hrun, hstored, hr'⟩ := (hr.faithful hs : r.Faithful ∅).lookUp key
    rw [hrun]
    exact ⟨rfl, hstored, hr'.honest⟩

/-- A write succeeds, and afterwards nothing else is found than was held, or was written. -/
theorem put (hr : r.Honest) (key : String) (entry : Entry) :
    let o := (ExceptT.run (Repository.put key entry)).run r
    (∃ b, o.value = .ok b) ∧ o.state.Honest ∧
      Within o.state.stored? (Function.update r.stored? key (some entry)) := by
  by_cases hs : r.store = none
  · obtain ⟨cache, store, clock⟩ := r
    cases hs
    rw [run_put_of_cache rfl]
    -- what is still cached under another key was there before, whatever was pushed out
    refine ⟨⟨_, rfl⟩, .of_cache rfl, fun l e he => ?_⟩
    rw [stored?_of_cache, Function.update_apply]
    rw [stored?_of_cache] at he
    by_cases hsame : cache.peek? key = some entry
    · rw [Cache.snd_set_of_eq hsame] at he
      split
      · next hl => rwa [← hsame, ← hl]
      · exact he
    · rw [Cache.snd_set_of_ne hsame, Cache.peek?_touch] at he
      exact Cache.peek?_of_insert he
  · obtain ⟨r', hrun, hstored, hr'⟩ :=
      (hr.faithful hs : r.Faithful {key}).put key entry fun _ => Finset.mem_singleton_self key
    rw [hrun]
    exact ⟨⟨_, rfl⟩, hr'.honest, .of_eq hstored⟩

/-- A removal succeeds, and nothing is held under the key afterwards. -/
theorem remove (hr : r.Honest) (key : String) :
    let o := (ExceptT.run (Repository.remove key)).run r
    (∃ b, o.value = .ok b) ∧ o.state.Honest ∧
      o.state.stored? = Function.update r.stored? key none := by
  by_cases hs : r.store = none
  · obtain ⟨cache, store, clock⟩ := r
    cases hs
    rw [run_remove_of_cache rfl]
    refine ⟨⟨_, rfl⟩, .of_cache rfl, funext fun l => ?_⟩
    rw [stored?_of_cache, stored?_of_cache, Cache.peek?_snd_remove, Function.update_apply]
  · obtain ⟨r', hrun, hstored, hr'⟩ := (hr.faithful hs : r.Faithful ∅).remove key
    rw [hrun]
    exact ⟨⟨_, rfl⟩, hr'.honest, hstored⟩

end Honest

/-! ## Writes to repositories that may forget -/

/-- The write succeeds, and leaves a part of what the action on contents leaves. -/
def Sheds (w : RepositoryWrite Unit) (b : ContentsAction Unit) : Prop :=
  ∀ (r : Repository) (held : Contents), r.Honest → Within r.stored? held →
    ((ExceptT.run w).run r).value = .ok () ∧ ((ExceptT.run w).run r).state.Honest ∧
      Within ((ExceptT.run w).run r).state.stored? (b.run held).state

namespace Sheds

theorem pure : Sheds (Pure.pure ()) (Pure.pure ()) := fun _ _ hr h => ⟨rfl, hr, h⟩

theorem bind {w w' : RepositoryWrite Unit} {b b' : ContentsAction Unit} (h : Sheds w b)
    (h' : Sheds w' b') : Sheds (do w; w') (do b; b') := by
  intro r held hr hheld
  obtain ⟨hvalue, hr', hheld'⟩ := h r held hr hheld
  rw [ExceptT.run_bind, Action.run_bind, Action.run_bind, hvalue]
  exact h' _ _ hr' hheld'

theorem forEach {γ : Type} {f : γ → RepositoryWrite Unit} {g : γ → ContentsAction Unit}
    (xs : List γ) (h : ∀ x, Sheds (f x) (g x)) : Sheds (Repository.forEach f xs) (xs.forM g) := by
  induction xs with
  | nil => exact .pure
  | cons x xs ih => exact (h x).bind ih

theorem put (key : String) (entry : Entry) (c : Change) :
    Sheds (telling c (Repository.put key entry)) (Contents.put key entry c) := by
  intro r held hr hheld
  obtain ⟨⟨b, hvalue⟩, hr', hwithin⟩ := hr.put key entry
  rw [run_telling hvalue]
  exact ⟨rfl, hr', hwithin.trans (hheld.update key _)⟩

theorem remove (key : String) (c : Change) :
    Sheds (telling c (Repository.remove key)) (Contents.drop key c) := by
  intro r held hr hheld
  obtain ⟨⟨b, hvalue⟩, hr', hstored⟩ := hr.remove key
  rw [run_telling hvalue]
  exact ⟨rfl, hr', (Within.of_eq hstored).trans (hheld.update key _)⟩

end Sheds

section Kind

variable {α : Type} [Record α] {env : String} {xs : List α}

theorem sheds_setOne (x : α) : Sheds (setOne x true) (Contents.setOne x true) :=
  Sheds.put (entityKey α (identifier x)) (Record.toEntry x) (.stored (kind α) (identifier x))

theorem sheds_deleteOne (id : String) : Sheds (deleteOne α id) (Contents.deleteOne α id) :=
  .remove _ _

/-- **An authoritative list is stored** as on contents, but for what is pushed out on the way. -/
theorem Honest.setAll (hr : r.Honest) (env : String) (xs : List α) :
    let o := (ExceptT.run (Repository.setAll env xs true)).run r
    o.value = .ok () ∧ o.state.Honest ∧
      Within o.state.stored? ((Contents.setAll env xs true).run r.stored?).state := by
  have hlist : Sheds
      (telling (.listStored (kind α) env) (Repository.put (listKey α env) (Record.toListing xs)))
      (Contents.put (listKey α env) (Record.toListing xs) (.listStored (kind α) env)) := .put _ _ _
  have hsets : Sheds (forEach (fun x => setOne x true) xs)
      (xs.forM fun x => Contents.setOne x true) := .forEach xs sheds_setOne
  -- what is deleted is settled before anything is pushed out
  have hdeletes : Sheds
      (forEach (fun old => deleteOne α (identifier old)) (missingFrom xs (listed r.stored? env)))
      ((missingFrom xs (listed r.stored? env)).forM fun old =>
        Contents.deleteOne α (identifier old)) := .forEach _ fun _ => sheds_deleteOne _
  rw [setAll_eq, run_state]
  exact (hlist.bind (hsets.bind hdeletes)) r r.stored? hr (.refl _)

/-! ## Refreshes -/

/-- The call reads, or stores an authoritative list of the environment that names nothing twice. -/
def Call.Refreshes (env : String) : Call α → Prop
  | .get _ | .getAll _ => True
  | .setAll e xs initial => e = env ∧ initial = true ∧ (xs.map identifier).Nodup
  | _ => False

/-- The list that the call replaces is not lost. -/
def Call.FindsList (env : String) (held : Contents) : Call α → Prop
  | .setAll .. => ¬ Lost α env held
  | _ => True

variable {call : Call α}

/-- **A refresh does what it does to contents**, but for what is pushed out. -/
theorem Honest.step (hr : r.Honest) (hcall : call.Refreshes env) :
    (call.run.run r).state.Honest ∧
      Within (call.run.run r).state.stored? (call.runOnContents.run r.stored?).state := by
  cases call with
  | get id =>
    obtain ⟨-, hstored, hr'⟩ := hr.lookUp (entityKey α id)
    exact ⟨hr', .of_eq hstored⟩
  | getAll env' =>
    obtain ⟨-, hstored, hr'⟩ := hr.lookUp (listKey α env')
    exact ⟨hr', .of_eq hstored⟩
  | setAll env' xs initial =>
    obtain ⟨rfl, rfl, -⟩ := hcall
    obtain ⟨-, hr', hwithin⟩ := hr.setAll env' xs
    exact ⟨hr', hwithin⟩
  | set x initial | merge env' x | delete id | deleteFrom env' id => exact hcall.elim

theorem Call.listedOnly [LawfulRecord α] (hcall : call.Refreshes env)
    (h : ListedOnly α env held) (hfinds : call.FindsList env held) :
    ListedOnly α env (call.runOnContents.run held).state := by
  cases call with
  | get id | getAll env' => exact h
  | setAll env' xs initial =>
    obtain ⟨rfl, rfl, hxs⟩ := hcall
    exact listedOnly_setAll h hfinds hxs
  | set x initial | merge env' x | delete id | deleteFrom env' id => exact hcall.elim

theorem Call.not_lost (hcall : call.Refreshes env) (h : ¬ Lost α env held) :
    ¬ Lost α env (call.runOnContents.run held).state := by
  cases call with
  | get id | getAll env' => exact h
  | setAll env' xs initial =>
    obtain ⟨rfl, rfl, -⟩ := hcall
    exact not_lost_setAll env' xs held
  | set x initial | merge env' x | delete id | deleteFrom env' id => exact hcall.elim

theorem Call.findsList_of_not_lost (call : Call α) (h : ¬ Lost α env held) :
    call.FindsList env held := by
  cases call with
  | setAll env' xs initial => exact h
  | get id | getAll env' | set x initial | merge env' x | delete id | deleteFrom env' id =>
    exact trivial

end Kind

/-- The call reads, or stores an authoritative list of the environment that names nothing twice. -/
def AnyCall.Refreshes (env : String) : AnyCall → Prop
  | .flag call => call.Refreshes env
  | .segment call => call.Refreshes env

/-- The list that the call replaces is not lost. -/
def AnyCall.FindsList (env : String) (held : Contents) : AnyCall → Prop
  | .flag call => call.FindsList env held
  | .segment call => call.FindsList env held

/-- No list that one of the calls replaces is lost. -/
def FindsLists (env : String) : Repository → List AnyCall → Prop
  | _, [] => True
  | r, call :: calls =>
    call.FindsList env r.stored? ∧ FindsLists env (call.run.run r).state calls

/-- Every list of the environment that is held names all that is held of its kind. -/
structure Refreshed (env : String) (r : Repository) : Prop where
  honest : r.Honest
  flags : ListedOnly Flag env r.stored?
  segments : ListedOnly Segment env r.stored?

variable {env : String} {call : AnyCall} {calls done rest : List AnyCall}

theorem Fresh.refreshed (hr : r.Fresh) : Refreshed env r where
  honest := hr.honest
  flags _ h := absurd (congrFun hr.stored?_eq _) h
  segments _ h := absurd (congrFun hr.stored?_eq _) h

/-- **One refresh** keeps it so. -/
theorem Refreshed.step (h : Refreshed env r) (hcall : call.Refreshes env)
    (hfinds : call.FindsList env r.stored?) : Refreshed env (call.run.run r).state := by
  cases call with
  | flag call =>
    obtain ⟨hr', hwithin⟩ := h.honest.step hcall
    have hothers : Set.EqOn (call.runOnContents.run r.stored?).state r.stored? (keysOf Segment) :=
      call.keeps (notMem_keysOf_of_kind (by decide)) r.stored?
    exact ⟨hr', (call.listedOnly hcall h.flags hfinds).within hwithin,
      (h.segments.congr hothers).within hwithin⟩
  | segment call =>
    obtain ⟨hr', hwithin⟩ := h.honest.step hcall
    have hothers : Set.EqOn (call.runOnContents.run r.stored?).state r.stored? (keysOf Flag) :=
      call.keeps (notMem_keysOf_of_kind (by decide)) r.stored?
    exact ⟨hr', (h.flags.congr hothers).within hwithin,
      (call.listedOnly hcall h.segments hfinds).within hwithin⟩

theorem state_answers_cons (call : AnyCall) (calls : List AnyCall) (r : Repository) :
    ((answers (call :: calls)).run r).state =
      ((answers calls).run (call.run.run r).state).state := by
  rw [answers, List.mapM_cons]
  rfl

/-- **Refreshes one after the other** keep it so. -/
theorem Refreshed.answers (h : Refreshed env r) (hcalls : ∀ call ∈ done, call.Refreshes env)
    (hfinds : FindsLists env r (done ++ rest)) :
    Refreshed env ((answers done).run r).state ∧
      FindsLists env ((answers done).run r).state rest := by
  induction done generalizing r with
  | nil => exact ⟨h, hfinds⟩
  | cons call done ih =>
    obtain ⟨hfirst, hothers⟩ := hfinds
    rw [state_answers_cons]
    exact ih (h.step (hcalls call List.mem_cons_self) hfirst)
      (fun c hc => hcalls c (List.mem_cons_of_mem _ hc)) hothers

/-! ## Room for what is written -/

/-- No list of the environment is lost. -/
structure Keeping (env : String) (held : Contents) : Prop where
  flags : ¬ Lost Flag env held
  segments : ¬ Lost Segment env held

theorem Keeping.findsList (h : Keeping env held) (call : AnyCall) :
    call.FindsList env held := by
  cases call with
  | flag call => exact call.findsList_of_not_lost h.flags
  | segment call => exact call.findsList_of_not_lost h.segments

theorem Keeping.step (h : Keeping env held) (hcall : call.Refreshes env) :
    Keeping env (call.runOnContents.run held).state := by
  cases call with
  | flag call =>
    have hothers : Set.EqOn (call.runOnContents.run held).state held (keysOf Segment) :=
      call.keeps (notMem_keysOf_of_kind (by decide)) held
    exact ⟨call.not_lost hcall h.flags, fun hlost => h.segments (hlost.congr hothers)⟩
  | segment call =>
    have hothers : Set.EqOn (call.runOnContents.run held).state held (keysOf Flag) :=
      call.keeps (notMem_keysOf_of_kind (by decide)) held
    exact ⟨fun hlost => h.flags (hlost.congr hothers), call.not_lost hcall h.segments⟩

/-- **With room for what is written, no list is lost.** -/
theorem findsLists_of_faithful (hr : r.Faithful room) (hkeeping : Keeping env r.stored?)
    (hcalls : ∀ call ∈ calls, call.Refreshes env)
    (hroom : keysWritten ((Repository.answers calls).run r).notices ⊆ room) :
    FindsLists env r calls := by
  induction calls generalizing r with
  | nil => trivial
  | cons call calls ih =>
    rw [Repository.answers, List.mapM_cons, Action.run_bind, keysWritten_append,
      Finset.union_subset_iff, Action.run_bind, keysWritten_append,
      Finset.union_subset_iff] at hroom
    obtain ⟨hfirst, hothers, -⟩ := hroom
    obtain ⟨-, hstored, hr'⟩ := call.follows.run_eq hr hfirst
    have hkeeping' : Keeping env (call.run.run r).state.stored? := by
      rw [hstored]
      exact hkeeping.step (hcalls call List.mem_cons_self)
    exact ⟨hkeeping.findsList call,
      ih hr' hkeeping' (fun c hc => hcalls c (List.mem_cons_of_mem _ hc)) hothers⟩

theorem Fresh.keeping (hr : r.Fresh) : Keeping env r.stored? := by
  rw [hr.stored?_eq]
  exact ⟨fun hlost => hlost.2.elim fun _ h => h rfl, fun hlost => hlost.2.elim fun _ h => h rfl⟩

/-! ## What is served -/

theorem Honest.value_get {α : Type} [Record α] (hr : r.Honest) {id : String}
    (h : r.stored? (entityKey α id) = none) :
    ((Repository.get id : RepositoryAction (Option α)).run r).value = none := by
  obtain ⟨hvalue, -, -⟩ := hr.lookUp (entityKey α id)
  rw [Repository.get, bind_pure_comp, Action.run_map, hvalue, h]
  rfl

/-- **Right after an authoritative list**, nothing is found that it does not name. -/
theorem Honest.value_get_setAll {α : Type} [Record α] {xs : List α} (hr : r.Honest)
    (h : ListedOnly α env r.stored?) (hfinds : ¬ Lost α env r.stored?)
    (hxs : (xs.map identifier).Nodup) {id : String} (hid : id ∉ xs.map identifier) :
    ((Repository.get id : RepositoryAction (Option α)).run
      ((ExceptT.run (Repository.setAll env xs true)).run r).state).value = none := by
  obtain ⟨-, hr', hwithin⟩ := hr.setAll env xs
  refine hr'.value_get ?_
  by_contra hone
  exact hid (mem_of_setAll h hfinds hxs (hwithin.ne_none hone))

/-- **An authoritative list deletes what it does not name.** On a new repository, over a store of
its own or without one, and with a cache of any capacity, calls read, and store authoritative lists
of flags and of segments of one environment. If there is a store, or room for the keys that are
written, or else if no list that is replaced was pushed out while something it may have named was
not, then right after each list nothing is served of its kind that it does not name. -/
theorem absent_of_refresh (env : String) (r : Repository) (calls : List AnyCall) (hr : r.Fresh)
    (hcalls : ∀ call ∈ calls, call.Refreshes env)
    (hkept : r.HasRoom ((answers calls).run r).notices ∨ FindsLists env r calls) :
    ∀ done call rest, calls = done ++ call :: rest →
      let after := (call.run.run ((answers done).run r).state).state
      (∀ fs, call = .flag (.setAll env fs true) →
        ∀ id ∉ fs.map (·.feature), ((getFlag id).run after).value = none) ∧
      ∀ gs, call = .segment (.setAll env gs true) →
        ∀ id ∉ gs.map (·.identifier), ((getSegment id).run after).value = none := by
  have hfinds : FindsLists env r calls := by
    rcases hkept with hroom | hfinds
    · exact findsLists_of_faithful (hr.faithful hroom) hr.keeping hcalls subset_rfl
    · exact hfinds
  rintro done call rest rfl after
  obtain ⟨hbefore, hcall, -⟩ := hr.refreshed.answers
    (fun c hc => hcalls c (List.mem_append_left _ hc)) hfinds
  have hrefreshes : call.Refreshes env := hcalls call (by simp)
  refine ⟨?_, ?_⟩
  · rintro fs rfl id hid
    exact hbefore.honest.value_get_setAll hbefore.flags hcall hrefreshes.2.2 hid
  · rintro gs rfl id hid
    exact hbefore.honest.value_get_setAll hbefore.segments hcall hrefreshes.2.2 hid

/-- A list that is replaced by a shorter one, and read in between. -/
def shorteningCalls : List AnyCall := [
  .segment (.setAll "e" [bareSegment "a" 1] true), .segment (.getAll "e")]

/-- A cache of two is too small for the three keys, but it keeps the list. -/
theorem absent_of_refresh_shorteningCalls :
    let call : AnyCall := .segment (.setAll "e" [bareSegment "b" 1] true)
    let after := (call.run.run ((answers shorteningCalls).run (.empty 2)).state).state
    (keysWritten ((answers (shorteningCalls ++ [call])).run (.empty 2)).notices).card = 3 ∧
      FindsLists "e" (.empty 2) (shorteningCalls ++ [call]) ∧
      ((getSegment "a").run after).value = none := by
  intro call after
  have hcalls : ∀ c ∈ shorteningCalls ++ [call], c.Refreshes "e" := by
    simp [shorteningCalls, call, AnyCall.Refreshes, Call.Refreshes]
  have hfinds : FindsLists "e" (.empty 2) (shorteningCalls ++ [call]) := by
    refine ⟨fun hlost => hlost.2.elim fun _ h => h rfl, trivial, ?_, trivial⟩
    exact not_lost_of_ne_none (by decide +kernel)
  have h := absent_of_refresh "e" (.empty 2) (shorteningCalls ++ [call]) (.empty 2) hcalls
    (.inr hfinds) shorteningCalls call [] rfl
  exact ⟨by decide +kernel, hfinds, h.2 _ rfl "a" (by decide)⟩

/-- A flag of which nothing matters but its name. -/
def bareFlag (feature : String) : Flag := { (default : Flag) with feature }

/-- **A flag is served that the list does not name**: the list before it, of three flags, was pushed
out of a cache of three by the flags it names, so nobody knows to delete the others. -/
theorem serves_dropped :
    let first : AnyCall :=
      .flag (.setAll "e" [bareFlag "a", bareFlag "b", bareFlag "c"] true)
    let second : AnyCall := .flag (.setAll "e" [bareFlag "a"] true)
    (∀ call ∈ [first, second], call.Refreshes "e") ∧ "c" ∉ [bareFlag "a"].map (·.feature) ∧
      ((getFlag "c").run ((answers [first, second]).run (.empty 3)).state).value =
        some (bareFlag "c") := by
  intro first second
  have hcalls : ∀ call ∈ [first, second], call.Refreshes "e" := by
    simp [first, second, AnyCall.Refreshes, Call.Refreshes, bareFlag, identifier]
  exact ⟨hcalls, by decide, by decide +kernel⟩

end Repository

end FlagReplica
