import FlagReplica.Proofs.Repository.Replacement
/-!
# A write touches what it names

All that a repository holds shares one table, one order of use and, if there is one, one store, and
still a call changes no answer but those about the keys that it names (`Repository.finds_of_acts`):
a write of a single thing its identifier, a change of a list its environment, a write of a whole
list both of these, and an authoritative one the identifiers that the list before it had. Whatever
the identifiers and environments hold, they are of a flag or of a segment, and of a single thing or
of a list, and never of two of these.

`Names` reads the keys off the call and, for an authoritative list, off what was listed before.
-/

namespace FlagReplica

open Record (kind identifier version)

/-- What kind of thing is under a key. -/
def Key.kind : Key → EntityKind
  | .entity kind _ => kind
  | .listing kind _ => kind

namespace Repository

/-! ## The keys of a call -/

section Kind

variable {α : Type} [Record α] {key : Key}

/-- The call names the key, where environments list what they do. -/
def Call.Names (listed : String → List α) (key : Key) : Call α → Prop
  | .get _ => False
  | .getAll _ => False
  | .set x _ => key = .entity (kind α) (identifier x)
  | .setAll env xs initial => key = .listing (kind α) env ∨
      ∃ id, key = .entity (kind α) id ∧
        (id ∈ xs.map identifier ∨ initial ∧ id ∈ (listed env).map identifier)
  | .merge env _ => key = .listing (kind α) env
  | .delete id => key = .entity (kind α) id
  | .deleteFrom env _ => key = .listing (kind α) env

/-- A call names keys of its kind only. -/
theorem Call.kind_of_names {listed : String → List α} {call : Call α} (h : call.Names listed key) :
    key.kind = kind α := by
  cases call with
  | get id | getAll env => exact h.elim
  | set x initial | merge env x | delete id | deleteFrom env id => rw [h]; rfl
  | setAll env xs initial =>
    rcases h with rfl | ⟨id, rfl, -⟩
    · rfl
    · rfl

theorem entityKey_notMem_singleton {id : String} (h : key ≠ .entity (kind α) id) :
    entityKey α id ∉ ({key.text} : Set String) := by
  intro hmem
  exact h (Key.text_injective (Set.mem_singleton_iff.mp hmem)).symm

theorem listKey_notMem_singleton {env : String} (h : key ≠ .listing (kind α) env) :
    listKey α env ∉ ({key.text} : Set String) := by
  intro hmem
  exact h (Key.text_injective (Set.mem_singleton_iff.mp hmem)).symm

end Kind

end Repository

/-! ## What is held under other keys -/

namespace Contents

open Repository

variable {α : Type} [Record α] {held : Contents} {env : String} {xs : List α} {keys : Set String}

/-- A list write leaves a key alone that is not that of the list, nor of a thing in it, nor, if the
list is authoritative, of one that was listed before. -/
theorem eqOn_setAll (hlist : listKey α env ∉ keys)
    (hxs : ∀ x ∈ xs, entityKey α (identifier x) ∉ keys) {initial : Bool}
    (holds : initial → ∀ old ∈ (held.listed env : List α), entityKey α (identifier old) ∉ keys) :
    Set.EqOn ((setAll env xs initial).run held).state held keys := by
  have hdeletes : Keeps keys (if initial then
      (missingFrom xs (held.listed env)).forM fun old => deleteOne α (identifier old)
      else pure ()) := by
    cases initial with
    | false => exact .pure ()
    | true =>
      refine .forM _ fun old hold => keeps_deleteOne (holds rfl old ?_)
      exact (List.mem_filter.mp hold).1
  -- what was listed is looked at before anything is written, and is a given from then on
  have hwrites : Keeps keys (do
      put (listKey α env) (Record.toListing xs) (.listStored (kind α) env)
      xs.forM fun x => setOne x initial
      if initial then
        (missingFrom xs (held.listed env)).forM fun old => deleteOne α (identifier old)) :=
    (Keeps.put hlist _ _).bind fun _ =>
      (Keeps.forM xs fun x hx => keeps_setOne (hxs x hx) initial).bind fun _ => hdeletes
  rw [setAll, run_read]
  exact Keeps.ite (.log _ _) hwrites held

/-- **A call leaves alone what is held under a key that it does not name.** -/
theorem state_eq_of_not_names {call : Call α} {key : Key}
    (h : ¬ call.Names (fun env => held.listed env) key) :
    (call.runOnContents.run held).state key.text = held key.text := by
  cases call with
  | get id | getAll env => rfl
  | set x initial =>
    exact (keeps_setOne (entityKey_notMem_singleton h) initial).map _ held rfl
  | delete id => exact (keeps_deleteOne (entityKey_notMem_singleton h)).map _ held rfl
  | merge env x => exact (keeps_merge (listKey_notMem_singleton h) x).map _ held rfl
  | deleteFrom env id => exact (keeps_removeFrom (listKey_notMem_singleton h) id).map _ held rfl
  | setAll env xs initial =>
    rw [Call.Names, not_or] at h
    obtain ⟨hlist, hsingle⟩ := h
    have hnot (id : String)
        (hid : id ∈ xs.map identifier ∨ initial ∧ id ∈ (held.listed env : List α).map identifier) :
        entityKey α id ∉ ({key.text} : Set String) := by
      refine entityKey_notMem_singleton ?_
      rintro rfl
      exact hsingle ⟨id, rfl, hid⟩
    rw [Call.runOnContents, Action.run_map]
    exact eqOn_setAll (listKey_notMem_singleton hlist)
      (fun x hx => hnot _ (.inl (List.mem_map_of_mem hx)))
      (fun hinitial old hold => hnot _ (.inr ⟨hinitial, List.mem_map_of_mem hold⟩)) rfl

end Contents

/-! ## What is found under other keys -/

/-- The call that reads what is under a key. -/
def Key.read : Key → Repository.AnyCall
  | .entity .flag id => .flag (.get id)
  | .entity .segment id => .segment (.get id)
  | .listing .flag env => .flag (.getAll env)
  | .listing .segment env => .segment (.getAll env)

namespace Repository

variable {r r' : Repository} {room : Finset String} {key : Key} {call : AnyCall}

/-- What is found under a key. -/
def finds (r : Repository) (key : Key) : AnyAnswer := (key.read.run.run r).value

section Kind

variable {α : Type} [Record α] {id env : String}

theorem Faithful.value_get_congr (hr : r.Faithful room) (hr' : r'.Faithful room)
    (h : r'.stored? (entityKey α id) = r.stored? (entityKey α id)) :
    ((get id : RepositoryAction (Option α)).run r').value =
      ((get id : RepositoryAction (Option α)).run r).value := by
  rw [hr'.value_get, hr.value_get, Contents.find?, Contents.find?, h]

theorem Faithful.value_getAll_congr (hr : r.Faithful room) (hr' : r'.Faithful room)
    (h : r'.stored? (listKey α env) = r.stored? (listKey α env)) :
    ((getAll env : RepositoryAction (List α)).run r').value =
      ((getAll env : RepositoryAction (List α)).run r).value := by
  rw [hr'.value_getAll, hr.value_getAll, Contents.listed_congr h]

end Kind

/-- What is found under a key is what is held under it, and nothing else. -/
theorem Faithful.finds_congr (hr : r.Faithful room) (hr' : r'.Faithful room)
    (h : r'.stored? key.text = r.stored? key.text) : r'.finds key = r.finds key := by
  rcases key with ⟨_ | _, id⟩ | ⟨_ | _, env⟩
  · have hget := hr.value_get_congr (α := Flag) hr' h
    exact congrArg (fun f => AnyAnswer.flag (.one f)) hget
  · have hget := hr.value_get_congr (α := Segment) hr' h
    exact congrArg (fun s => AnyAnswer.segment (.one s)) hget
  · have hlist := hr.value_getAll_congr (α := Flag) hr' h
    exact congrArg (fun fs => AnyAnswer.flag (.list fs)) hlist
  · have hlist := hr.value_getAll_congr (α := Segment) hr' h
    exact congrArg (fun ss => AnyAnswer.segment (.list ss)) hlist

/-- The kind of thing that the call is about. -/
def AnyCall.kind : AnyCall → EntityKind
  | .flag _ => .flag
  | .segment _ => .segment

/-- The call names the key, by what the repository lists. -/
def AnyCall.Names (r : Repository) (key : Key) : AnyCall → Prop
  | .flag call => call.Names (fun env => ((getFlags env).run r).value) key
  | .segment call => call.Names (fun env => ((getSegments env).run r).value) key

theorem AnyCall.kind_of_names (h : call.Names r key) : key.kind = call.kind := by
  cases call with
  | flag call => exact Call.kind_of_names h
  | segment call => exact Call.kind_of_names h

/-- **A call leaves alone what is found under a key that it does not name**, where there is room for
what it writes. -/
theorem Faithful.finds_of_not_names (hr : r.Faithful room)
    (hroom : keysWritten (call.run.run r).notices ⊆ room) (h : ¬ call.Names r key) :
    (call.run.run r).state.finds key = r.finds key := by
  obtain ⟨-, hstored, hr'⟩ := call.follows.run_eq hr hroom
  refine hr.finds_congr hr' ?_
  rw [hstored]
  cases call with
  | flag call =>
    have hlisted : (fun env => ((getFlags env).run r).value) =
        fun env => Contents.listed r.stored? env := funext fun env => hr.value_getAll env
    rw [AnyCall.Names, hlisted] at h
    rw [AnyCall.runOnContents, Action.run_map]
    exact Contents.state_eq_of_not_names h
  | segment call =>
    have hlisted : (fun env => ((getSegments env).run r).value) =
        fun env => Contents.listed r.stored? env := funext fun env => hr.value_getAll env
    rw [AnyCall.Names, hlisted] at h
    rw [AnyCall.runOnContents, Action.run_map]
    exact Contents.state_eq_of_not_names h

/-- **What is taken off a list is what has the identifier**, and the rest keeps its order. -/
theorem Faithful.value_getAll_deleteFrom {α : Type} [Record α] [LawfulRecord α]
    (hr : r.Faithful room) (env id : String)
    (hroom : keysWritten ((Call.deleteFrom env id : Call α).run.run r).notices ⊆ room) :
    ((getAll env : RepositoryAction (List α)).run
        ((Call.deleteFrom env id : Call α).run.run r).state).value =
      (((getAll env : RepositoryAction (List α)).run r).value).filter
        fun x => identifier x ≠ id := by
  obtain ⟨-, hstored, hr'⟩ := (Call.deleteFrom env id : Call α).follows.run_eq hr hroom
  rw [hr'.value_getAll, hr.value_getAll, hstored, Call.runOnContents, Action.run_map]
  exact Contents.listed_removeFrom env id r.stored?

/-- **Each call touches what it names and nothing else.** After any acts on a new repository, over a
store of its own or with room for the keys that are written, a call changes no answer but those to
reads of the keys that it names, and none about things of the other kind. A read names none, and
what a deletion leaves of a list is what has another identifier, in the order of the list. -/
theorem finds_of_acts (r : Repository) (acts : List Act) (call : AnyCall) (hr : r.Fresh)
    (hroom : r.HasRoom ((performs (acts ++ [.call call])).run r).notices) :
    let before := after acts r
    let o := call.run.run before
    (∀ key, ¬ call.Names before key → o.state.finds key = before.finds key) ∧
      (∀ key, key.kind ≠ call.kind → o.state.finds key = before.finds key) ∧
      (∀ env id, call = .flag (.deleteFrom env id) → ((getFlags env).run o.state).value =
        (((getFlags env).run before).value).filter fun f => f.feature ≠ id) ∧
      ∀ env id, call = .segment (.deleteFrom env id) → ((getSegments env).run o.state).value =
        (((getSegments env).run before).value).filter fun s => s.identifier ≠ id := by
  intro before o
  obtain ⟨hbefore, hwritten⟩ := hr.before_last hroom
  rw [Act.run, Action.run_map] at hwritten
  have hothers (key : Key) (h : ¬ call.Names before key) : o.state.finds key = before.finds key :=
    hbefore.finds_of_not_names hwritten h
  refine ⟨hothers, fun key hkind => hothers key fun h => hkind (AnyCall.kind_of_names h), ?_, ?_⟩
  · rintro env id rfl
    rw [AnyCall.run, Action.run_map] at hwritten
    exact hbefore.value_getAll_deleteFrom env id hwritten
  · rintro env id rfl
    rw [AnyCall.run, Action.run_map] at hwritten
    exact hbefore.value_getAll_deleteFrom env id hwritten

/-- A flag, a segment, an environment and a part of one identifier that are all called the same. -/
def namesakeActs : List Act := [
  .call (.segment (.setAll "e" [bareSegment "e" 1, bareSegment "s/e" 1, bareSegment "b" 1] true)),
  .call (.flag (.setAll "e" [⟨"e", .string, .on, "off", .variation "on", [], [], [], [], 1⟩] true)),
  .flush, .call (.segment (.delete "b")), .call (.segment (.getAll "e"))]

/-- One of two namesakes is taken off the list, which leaves the other and both flags alone. Then an
authoritative list drops what was listed, and leaves alone what was not. -/
theorem finds_of_acts_namesakeActs :
    let before := after namesakeActs (.empty 6)
    let taken : AnyCall := .segment (.deleteFrom "e" "e")
    let replaced : AnyCall := .segment (.setAll "e" [bareSegment "e" 2] true)
    (keysWritten ((performs (namesakeActs ++ [.call replaced])).run (.empty 6)).notices).card = 6 ∧
      ¬ taken.Names before (.entity .segment "e") ∧
      (taken.run.run before).state.finds (.entity .segment "e") =
        before.finds (.entity .segment "e") ∧
      ((getSegments "e").run (taken.run.run before).state).value =
        [bareSegment "s/e" 1, bareSegment "b" 1] ∧
      ¬ replaced.Names before (.entity .segment "c") ∧
      (replaced.run.run before).state.finds (.entity .segment "c") =
        before.finds (.entity .segment "c") ∧
      (replaced.run.run before).state.finds (.entity .flag "e") =
        before.finds (.entity .flag "e") := by
  intro before taken replaced
  have hcard : (keysWritten ((performs (namesakeActs ++ [.call replaced])).run
      (.empty 6)).notices).card = 6 := by
    decide +kernel
  have hcard' : (keysWritten ((performs (namesakeActs ++ [.call taken])).run
      (.empty 6)).notices).card = 6 := by
    decide +kernel
  have hlisted : ((getSegments "e").run before).value =
      [bareSegment "e" 1, bareSegment "s/e" 1, bareSegment "b" 1] := by
    decide +kernel
  have htaken : ¬ taken.Names before (.entity .segment "e") := by
    simp [taken, AnyCall.Names, Call.Names]
  have hreplaced : ¬ replaced.Names before (.entity .segment "c") := by
    simp [replaced, AnyCall.Names, Call.Names, hlisted, bareSegment, identifier, kind]
  obtain ⟨hothers, -, -, hrest⟩ :=
    finds_of_acts (.empty 6) namesakeActs taken (.empty 6) fun _ => hcard'.le
  obtain ⟨hothers', hkind, -, -⟩ :=
    finds_of_acts (.empty 6) namesakeActs replaced (.empty 6) fun _ => hcard.le
  refine ⟨hcard, htaken, hothers _ htaken, ?_, hreplaced, hothers' _ hreplaced,
    hkind (.entity .flag "e") (by decide)⟩
  rw [hrest "e" "e" rfl, hlisted]
  decide

end Repository

end FlagReplica
