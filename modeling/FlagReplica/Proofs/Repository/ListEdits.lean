import FlagReplica.Proofs.Repository.Replacement
/-!
# Edits of a list

The control plane reports changes one at a time, and each report edits the list of an environment: a
single thing is put into it, or an identifier is taken off it. Both read the whole list and write
the whole list, so an edit might undo what another one did. It does not if the two concern different
identifiers: in whichever order edits are made, each has its effect (`keeps_effects_of_acts`). The
list may be in any state before, and may name one thing several times.

An edit of a list has two parts. It changes what is in its place already (`Edit.inPlace`), and a
merge may add one thing at the end (`Edit.appended?`). The first parts commute, and whether there is
something to add is decided by the list before all edits. So of a sequence of edits all that depends
on the order is the order of what was added (`edited_eq`).
-/

namespace FlagReplica.Repository

open Record (identifier version)

/-- A single thing that is put into a list, or an identifier that is taken off it. -/
inductive Edit (α : Type)
  | merge (x : α)
  | remove (id : String)
  deriving DecidableEq, Repr

variable {α : Type} [Record α]

/-! ## One list -/

/-- A list with a thing in the place of the first one of its identifier, unless that one is as
new. -/
def replaced (x : α) : List α → List α
  | [] => []
  | y :: ys =>
    if identifier y = identifier x then
      if version x ≤ version y then y :: ys else x :: ys
    else y :: replaced x ys

namespace Edit

/-- The identifier that the edit concerns. -/
def name : Edit α → String
  | .merge x => identifier x
  | .remove id => id

/-- The call that makes the edit. -/
def call (env : String) : Edit α → Call α
  | .merge x => .merge env x
  | .remove id => .deleteFrom env id

/-- The list that the edit makes of a list. -/
def onList : Edit α → List α → List α
  | .merge x, xs => (merged? x xs).getD xs
  | .remove id, xs => xs.filter fun x => identifier x ≠ id

/-- The part of the edit that adds nothing. -/
def inPlace : Edit α → List α → List α
  | .merge x, xs => replaced x xs
  | .remove id, xs => xs.filter fun x => identifier x ≠ id

/-- What the edit adds at the end. -/
def appended? (xs : List α) : Edit α → Option α
  | .merge x => if identifier x ∈ xs.map identifier then none else some x
  | .remove _ => none

end Edit

/-- The list that edits make of a list, one after the other. -/
def edited (es : List (Edit α)) (xs : List α) : List α := es.foldl (fun xs e => e.onList xs) xs

/-- Two lists that differ in the order of what was added to a third one at most. -/
def SameUpToAppended (before xs ys : List α) : Prop :=
  ∃ kept new new', xs = kept ++ new ∧ ys = kept ++ new' ∧ new.Perm new' ∧
    ∀ x ∈ new, identifier x ∉ before.map identifier

section List

variable {x y : α} {xs ys : List α} {e e' : Edit α} {es es' : List (Edit α)}

/-- A thing that is put in its place leaves the identifiers as they are. -/
theorem map_identifier_replaced (x : α) (xs : List α) :
    (replaced x xs).map identifier = xs.map identifier := by
  induction xs with
  | nil => rfl
  | cons y ys ih =>
    unfold replaced
    split
    · next hy =>
      split
      · rfl
      · rw [List.map_cons, List.map_cons, hy]
    · rw [List.map_cons, List.map_cons, ih]

theorem replaced_of_notMem (h : identifier x ∉ xs.map identifier) : replaced x xs = xs := by
  induction xs with
  | nil => rfl
  | cons y ys ih =>
    rw [List.map_cons, List.mem_cons, not_or] at h
    rw [replaced, if_neg (Ne.symm h.1), ih h.2]

/-- A thing is not put in its place where it has none. -/
theorem replaced_append (h : identifier x ∉ ys.map identifier) (xs : List α) :
    replaced x (xs ++ ys) = replaced x xs ++ ys := by
  induction xs with
  | nil => exact replaced_of_notMem h
  | cons z zs ih =>
    rw [List.cons_append, replaced, replaced, ih]
    split
    · split <;> rfl
    · rfl

/-- Nothing else moves. -/
theorem getElem?_replaced (h : identifier y ≠ identifier x) (xs : List α) (i : Nat) :
    (replaced x xs)[i]? = some y ↔ xs[i]? = some y := by
  induction xs generalizing i with
  | nil => rfl
  | cons z zs ih =>
    rw [replaced]
    split
    · next hz =>
      split
      · rfl
      · cases i with
        | zero =>
          rw [List.getElem?_cons_zero, List.getElem?_cons_zero, Option.some.injEq,
            Option.some.injEq]
          constructor
          · rintro rfl
            exact absurd rfl h
          · rintro rfl
            exact absurd hz h
        | succ i => rfl
    · cases i with
      | zero => rfl
      | succ i => exact ih i

/-- A merge puts a thing in its place, or adds it. -/
theorem merged?_getD (x : α) (xs : List α) :
    (merged? x xs).getD xs = replaced x xs ++ (Edit.appended? xs (.merge x)).toList := by
  induction xs with
  | nil => rfl
  | cons y ys ih =>
    rw [merged?, replaced]
    by_cases hy : identifier y = identifier x
    · have hmem : identifier x ∈ (y :: ys).map identifier := by simp [hy]
      rw [if_pos hy, if_pos hy, Edit.appended?, if_pos hmem, Option.toList_none, List.append_nil]
      split <;> rfl
    · have hmem : identifier x ∈ (y :: ys).map identifier ↔ identifier x ∈ ys.map identifier := by
        simp [Ne.symm hy]
      have hrest : ((merged? x ys).map (y :: ·)).getD (y :: ys) = y :: (merged? x ys).getD ys := by
        cases merged? x ys <;> rfl
      rw [if_neg hy, if_neg hy, hrest, ih, List.cons_append]
      simp only [Edit.appended?, hmem]

namespace Edit

/-- **An edit has two parts.** -/
theorem onList_eq (e : Edit α) (xs : List α) :
    e.onList xs = e.inPlace xs ++ (e.appended? xs).toList := by
  cases e with
  | merge x => exact merged?_getD x xs
  | remove id => exact (List.append_nil _).symm

/-- An edit leaves the other identifiers in the list. -/
theorem mem_inPlace_iff {id : String} (h : id ≠ e.name) (xs : List α) :
    id ∈ (e.inPlace xs).map identifier ↔ id ∈ xs.map identifier := by
  cases e with
  | merge x => rw [inPlace, map_identifier_replaced]
  | remove id' =>
    simp only [inPlace, List.mem_map, List.mem_filter, decide_eq_true_eq]
    constructor
    · rintro ⟨x, ⟨hx, -⟩, rfl⟩
      exact ⟨x, hx, rfl⟩
    · rintro ⟨x, hx, rfl⟩
      exact ⟨x, ⟨hx, h⟩, rfl⟩

/-- An edit leaves alone what it does not concern. -/
theorem inPlace_append (h : e.name ∉ ys.map identifier) (xs : List α) :
    e.inPlace (xs ++ ys) = e.inPlace xs ++ ys := by
  cases e with
  | merge x => exact replaced_append h xs
  | remove id =>
    have hkept : ys.filter (fun y => identifier y ≠ id) = ys := by
      rw [List.filter_eq_self]
      intro y hy
      have hne : identifier y ≠ id := by
        rintro rfl
        exact h (List.mem_map_of_mem hy)
      simpa using hne
    rw [inPlace, inPlace, List.filter_append, hkept]

theorem name_of_appended? (h : e.appended? xs = some x) :
    identifier x = e.name ∧ e.name ∉ xs.map identifier := by
  cases e with
  | merge y =>
    rw [appended?] at h
    split at h
    · cases h
    · next hmem =>
      cases h
      exact ⟨rfl, hmem⟩
  | remove id => cases h

/-- Whether an edit adds something depends on the identifiers alone. -/
theorem appended?_congr (h : e.name ∈ xs.map identifier ↔ e.name ∈ ys.map identifier) :
    e.appended? xs = e.appended? ys := by
  cases e with
  | merge x =>
    rw [name] at h
    simp only [appended?, h]
  | remove id => rfl

end Edit

/-! ## Different identifiers -/

theorem replaced_comm (h : identifier x ≠ identifier y) (xs : List α) :
    replaced x (replaced y xs) = replaced y (replaced x xs) := by
  induction xs with
  | nil => rfl
  | cons z zs ih =>
    by_cases hx : identifier z = identifier x
    · have hy : identifier z ≠ identifier y := fun hz => h (hx.symm.trans hz)
      simp only [replaced, if_neg hy, if_pos hx]
      split
      · rw [replaced, if_neg hy]
      · rw [replaced, if_neg h]
    · by_cases hy : identifier z = identifier y
      · simp only [replaced, if_neg hx, if_pos hy]
        split
        · rw [replaced, if_neg hx]
        · rw [replaced, if_neg (Ne.symm h)]
      · simp only [replaced, if_neg hx, if_neg hy, ih]

theorem replaced_filter {id : String} (h : identifier x ≠ id) (xs : List α) :
    replaced x (xs.filter fun y => identifier y ≠ id) =
      (replaced x xs).filter fun y => identifier y ≠ id := by
  induction xs with
  | nil => rfl
  | cons z zs ih =>
    by_cases hz : identifier z = id
    · have hx : identifier z ≠ identifier x := fun hzx => h (hzx.symm.trans hz)
      rw [List.filter_cons, if_neg (by simp [hz]), replaced, if_neg hx, List.filter_cons,
        if_neg (by simp [hz]), ih]
    · rw [List.filter_cons, if_pos (by simp [hz]), replaced, replaced]
      by_cases hx : identifier z = identifier x
      · rw [if_pos hx, if_pos hx]
        split
        · rw [List.filter_cons, if_pos (by simp [hz])]
        · rw [List.filter_cons, if_pos (by simp [h])]
      · rw [if_neg hx, if_neg hx, List.filter_cons, if_pos (by simp [hz]), ih]

/-- **Edits of different identifiers commute** in what they change in its place. -/
theorem Edit.inPlace_comm (h : e.name ≠ e'.name) (xs : List α) :
    e.inPlace (e'.inPlace xs) = e'.inPlace (e.inPlace xs) := by
  cases e with
  | merge x =>
    cases e' with
    | merge y => exact replaced_comm h xs
    | remove id => exact replaced_filter h xs
  | remove id =>
    cases e' with
    | merge y => exact (replaced_filter (Ne.symm h) xs).symm
    | remove id' => exact List.filter_comm _ _ xs

/-- The parts in place, one after the other. -/
def editedInPlace (es : List (Edit α)) (xs : List α) : List α :=
  es.foldl (fun xs e => e.inPlace xs) xs

theorem mem_editedInPlace_iff {id : String} (h : id ∉ es.map Edit.name) (xs : List α) :
    id ∈ (editedInPlace es xs).map identifier ↔ id ∈ xs.map identifier := by
  induction es generalizing xs with
  | nil => rfl
  | cons e es ih =>
    rw [List.map_cons, List.mem_cons, not_or] at h
    rw [editedInPlace, List.foldl_cons]
    exact (ih h.2 _).trans (Edit.mem_inPlace_iff h.1 xs)

/-- What is added has the names of the edits. -/
theorem notMem_appended {id : String} (h : id ∉ es.map Edit.name) (xs : List α) :
    id ∉ (es.filterMap (·.appended? xs)).map identifier := by
  intro hid
  obtain ⟨x, hx, rfl⟩ := List.mem_map.mp hid
  obtain ⟨e, he, hadded⟩ := List.mem_filterMap.mp hx
  rw [(Edit.name_of_appended? hadded).1] at h
  exact h (List.mem_map_of_mem he)

/-- **A sequence of edits has two parts as well**, if no identifier comes twice: what was there is
edited in its place, and what the list before has no name for is added in the order of the edits. -/
theorem edited_eq (h : (es.map Edit.name).Nodup) (xs : List α) :
    edited es xs = editedInPlace es xs ++ es.filterMap (·.appended? xs) := by
  induction es using List.reverseRecOn with
  | nil => exact (List.append_nil xs).symm
  | append_singleton es e ih =>
    rw [List.map_append, List.nodup_append] at h
    have hnew : e.name ∉ es.map Edit.name := fun he => h.2.2 _ he _ (by simp) rfl
    have hadded := notMem_appended hnew xs
    have hname : e.name ∈ (edited es xs).map identifier ↔ e.name ∈ xs.map identifier := by
      rw [ih h.1, List.map_append, List.mem_append, mem_editedInPlace_iff hnew]
      exact or_iff_left hadded
    calc edited (es ++ [e]) xs
        = e.onList (edited es xs) := List.foldl_append
      _ = e.inPlace (edited es xs) ++ (e.appended? (edited es xs)).toList := e.onList_eq _
      _ = e.inPlace (editedInPlace es xs) ++ es.filterMap (·.appended? xs) ++
            (e.appended? xs).toList := by
          rw [Edit.appended?_congr hname, ih h.1, Edit.inPlace_append hadded]
      _ = editedInPlace (es ++ [e]) xs ++ (es ++ [e]).filterMap (·.appended? xs) := by
          rw [editedInPlace, editedInPlace, List.foldl_append, List.filterMap_append,
            List.append_assoc]
          cases hlast : e.appended? xs <;> simp [hlast]

theorem editedInPlace_perm (h : (es.map Edit.name).Nodup) (hperm : es.Perm es') (xs : List α) :
    editedInPlace es xs = editedInPlace es' xs := by
  refine hperm.foldl_eq' (fun e he e' he' zs => ?_) xs
  by_cases heq : e = e'
  · rw [heq]
  · have hne : e.name ≠ e'.name := fun hname => heq (List.inj_on_of_nodup_map h he he' hname)
    exact Edit.inPlace_comm (Ne.symm hne) zs

/-- **In whichever order edits of different identifiers are made**, they come to the same up to the
order of what they add. -/
theorem sameUpToAppended_edited (h : (es.map Edit.name).Nodup) (hperm : es.Perm es')
    (xs : List α) : SameUpToAppended xs (edited es xs) (edited es' xs) := by
  refine ⟨editedInPlace es xs, es.filterMap (·.appended? xs), es'.filterMap (·.appended? xs),
    edited_eq h xs, ?_, hperm.filterMap _, ?_⟩
  · rw [editedInPlace_perm h hperm, edited_eq ((hperm.map _).nodup_iff.mp h)]
  · intro x hx
    obtain ⟨e, -, hadded⟩ := List.mem_filterMap.mp hx
    obtain ⟨hname, hnew⟩ := Edit.name_of_appended? hadded
    rwa [hname]

/-- Of two edits one of which takes off, not even that depends on the order. -/
theorem edited_pair_comm (h : e.name ≠ e'.name)
    (hremove : (∃ id, e = .remove id) ∨ ∃ id, e' = .remove id) (xs : List α) :
    edited [e, e'] xs = edited [e', e] xs := by
  have hnodup : ([e, e'].map Edit.name).Nodup := by simpa using h
  have hnodup' : ([e', e].map Edit.name).Nodup := by simpa using Ne.symm h
  have hadded : [e, e'].filterMap (·.appended? xs) = [e', e].filterMap (·.appended? xs) := by
    have hnone (id : String) : (Edit.remove id).appended? xs = none := rfl
    obtain ⟨id, rfl⟩ | ⟨id, rfl⟩ := hremove
    · rfl
    · simp only [List.filterMap_cons, List.filterMap_nil, hnone]
  rw [edited_eq hnodup, edited_eq hnodup', hadded, editedInPlace_perm hnodup (.swap e' e [])]

/-! ## One merge -/

/-- **A merge leaves every other thing where it is.** -/
theorem Edit.getElem?_onList_merge (h : identifier y ≠ identifier x) (xs : List α) (i : Nat) :
    ((Edit.merge x).onList xs)[i]? = some y ↔ xs[i]? = some y := by
  rw [onList_eq, inPlace, ← getElem?_replaced h xs i]
  by_cases hi : i < (replaced x xs).length
  · rw [List.getElem?_append_left hi]
  · -- past the list there is only what was added
    have hnone : (replaced x xs)[i]? = none := List.getElem?_eq_none (by omega)
    rw [List.getElem?_append_right (by omega), hnone]
    refine iff_of_false (fun hy => ?_) (fun hy => by cases hy)
    have hmem := Option.mem_toList.mp (List.mem_of_getElem? hy)
    exact h ((name_of_appended? hmem).1)

theorem Edit.nodup_onList_merge (x : α) (h : (xs.map identifier).Nodup) :
    (((Edit.merge x).onList xs).map identifier).Nodup := by
  rw [onList]
  cases hmerged : merged? x xs with
  | none => exact h
  | some zs => exact nodup_merged h hmerged

end List

/-! ## The list of an environment -/

variable {r : Repository} {room : Finset String} {env : String} {act : Call α → Act}

/-- The act does what the call does. -/
def DoesCalls (act : Call α → Act) : Prop := ∀ c : Call α, (act c).run = (fun _ => ()) <$> c.run

theorem doesCalls_flag : DoesCalls fun c : Call Flag => .call (.flag c) := fun c => by
  rw [Act.run, AnyCall.run, ← comp_map, Function.comp_def]

theorem doesCalls_segment : DoesCalls fun c : Call Segment => .call (.segment c) := fun c => by
  rw [Act.run, AnyCall.run, ← comp_map, Function.comp_def]

/-- **An edit of a list** that is held makes its list of it. -/
theorem Faithful.listed_edit [LawfulRecord α] (hr : r.Faithful room) (hact : DoesCalls act)
    (e : Edit α) (hroom : keysWritten ((act (e.call env)).run.run r).notices ⊆ room) :
    Contents.listed ((act (e.call env)).after r).stored? env =
      e.onList (Contents.listed r.stored? env) := by
  rw [hact, Action.run_map] at hroom
  obtain ⟨-, hstored, -⟩ := (e.call env).follows.run_eq hr hroom
  rw [← Act.state_run, hact, Action.run_map, hstored]
  cases e with
  | merge x =>
    rw [Edit.call, Call.runOnContents, Action.run_map, Contents.state_merge, Edit.onList]
    cases merged? x (Contents.listed r.stored? env) with
    | none => rfl
    | some xs => exact Contents.listed_update
  | remove id =>
    rw [Edit.call, Call.runOnContents, Action.run_map]
    exact Contents.listed_removeFrom env id r.stored?

/-- **So do edits one after the other.** -/
theorem Faithful.listed_edits [LawfulRecord α] (hr : r.Faithful room) (hact : DoesCalls act)
    (es : List (Edit α))
    (hroom : keysWritten ((performs (es.map fun e => act (e.call env))).run r).notices ⊆ room) :
    Contents.listed (Repository.after (es.map fun e => act (e.call env)) r).stored? env =
      edited es (Contents.listed r.stored? env) := by
  induction es generalizing r with
  | nil => rfl
  | cons e es ih =>
    rw [List.map_cons, notices_performs_cons, keysWritten_append, Finset.union_subset_iff] at hroom
    have hrest := ih (hr.act _ hroom.1) hroom.2
    rw [hr.listed_edit hact e hroom.1] at hrest
    exact hrest

/-! ## After any acts -/

/-- Any acts, and then edits of the list of an environment. -/
def editing (act : Call α → Act) (acts : List Act) (env : String) (es : List (Edit α)) :
    List Act := acts ++ es.map fun e => act (e.call env)

/-- The repository has room for what acts write, if it has no store. -/
def HasRoomFor (acts : List Act) (r : Repository) : Prop :=
  r.HasRoom ((performs acts).run r).notices

/-- The list of an environment after acts. -/
def listAfter (α : Type) [Record α] (r : Repository) (env : String) (acts : List Act) : List α :=
  ((getAll env).run (after acts r)).value

theorem Fresh.listAfter_editing [LawfulRecord α] (hr : r.Fresh) (hact : DoesCalls act)
    {acts : List Act} {es : List (Edit α)} (hroom : r.HasRoomFor (editing act acts env es)) :
    listAfter α r env (editing act acts env es) = edited es (listAfter α r env acts) := by
  have hwritten := notices_performs_append acts (es.map fun e => act (e.call env)) r
  have hacts : keysWritten ((performs acts).run r).notices ⊆
      keysWritten ((performs (editing act acts env es)).run r).notices := by
    rw [editing, hwritten, keysWritten_append]
    exact Finset.subset_union_left
  have hedits : keysWritten
      ((performs (es.map fun e => act (e.call env))).run (Repository.after acts r)).notices ⊆
      keysWritten ((performs (editing act acts env es)).run r).notices := by
    rw [editing, hwritten, keysWritten_append]
    exact Finset.subset_union_right
  have hbefore := (hr.faithful hroom).after acts hacts
  have hafter := hbefore.after _ hedits
  have hsplit : Repository.after (editing act acts env es) r =
      Repository.after (es.map fun e => act (e.call env)) (Repository.after acts r) := List.foldl_append
  rw [listAfter, listAfter, hsplit, hafter.value_getAll, hbefore.value_getAll,
    hbefore.listed_edits hact es hedits]

/-- Edits of a list that concern different identifiers keep each other's effects. -/
structure KeepsEffects (act : Call α → Act) (r : Repository) (env : String) (acts : List Act) :
    Prop where
  /-- Two edits in either order. -/
  pair : ∀ e e' : Edit α, e.name ≠ e'.name →
    r.HasRoomFor (editing act acts env [e, e']) → r.HasRoomFor (editing act acts env [e', e]) →
    SameUpToAppended (listAfter α r env acts) (listAfter α r env (editing act acts env [e, e']))
      (listAfter α r env (editing act acts env [e', e]))
  /-- Two edits in either order, of which one takes off. -/
  pair_remove : ∀ e e' : Edit α, e.name ≠ e'.name →
    (∃ id, e = .remove id) ∨ (∃ id, e' = .remove id) →
    r.HasRoomFor (editing act acts env [e, e']) → r.HasRoomFor (editing act acts env [e', e]) →
    listAfter α r env (editing act acts env [e, e']) =
      listAfter α r env (editing act acts env [e', e])
  /-- Any number of edits in any order. -/
  perm : ∀ es es' : List (Edit α), (es.map Edit.name).Nodup → es.Perm es' →
    r.HasRoomFor (editing act acts env es) → r.HasRoomFor (editing act acts env es') →
    SameUpToAppended (listAfter α r env acts) (listAfter α r env (editing act acts env es))
        (listAfter α r env (editing act acts env es')) ∧
      ∀ x, x ∈ listAfter α r env (editing act acts env es) ↔
        x ∈ listAfter α r env (editing act acts env es')
  /-- A merge leaves everything of another identifier where it is. -/
  in_place : ∀ (x : α), r.HasRoomFor (editing act acts env [.merge x]) →
    ∀ (y : α) (i : Nat), identifier y ≠ identifier x →
      ((listAfter α r env (editing act acts env [.merge x]))[i]? = some y ↔
        (listAfter α r env acts)[i]? = some y)
  /-- And it does not bring an identifier a second time. -/
  nodup : ∀ (x : α), r.HasRoomFor (editing act acts env [.merge x]) →
    ((listAfter α r env acts).map identifier).Nodup →
    ((listAfter α r env (editing act acts env [.merge x])).map identifier).Nodup

theorem SameUpToAppended.mem_iff {before xs ys : List α} (h : SameUpToAppended before xs ys)
    (x : α) : x ∈ xs ↔ x ∈ ys := by
  obtain ⟨kept, new, new', rfl, rfl, hperm, -⟩ := h
  rw [List.mem_append, List.mem_append, hperm.mem_iff]

theorem Fresh.keepsEffects [LawfulRecord α] (hr : r.Fresh) (hact : DoesCalls act)
    (acts : List Act) : KeepsEffects act r env acts where
  pair e e' hne hroom hroom' := by
    rw [hr.listAfter_editing hact hroom, hr.listAfter_editing hact hroom']
    exact sameUpToAppended_edited (by simpa using hne) (.swap e' e []) _
  pair_remove e e' hne hremove hroom hroom' := by
    rw [hr.listAfter_editing hact hroom, hr.listAfter_editing hact hroom']
    exact edited_pair_comm hne hremove _
  perm es es' hnodup hperm hroom hroom' := by
    rw [hr.listAfter_editing hact hroom, hr.listAfter_editing hact hroom']
    have hsame := sameUpToAppended_edited hnodup hperm (listAfter α r env acts)
    exact ⟨hsame, hsame.mem_iff⟩
  in_place x hroom y i hne := by
    rw [hr.listAfter_editing hact hroom]
    exact Edit.getElem?_onList_merge hne _ i
  nodup x hroom h := by
    rw [hr.listAfter_editing hact hroom]
    exact Edit.nodup_onList_merge x h

/-- **Edits of a list do not undo each other.** Let anything be done to a new repository, over a
store of its own or with room for the keys that are written. Then edits of the flags of an
environment that concern different identifiers come to the same in every order, but for the order
of what they add; and a merge leaves every other flag of the list where it is. The same holds of
segments. -/
theorem keeps_effects_of_acts (r : Repository) (acts : List Act) (env : String) (hr : r.Fresh) :
    KeepsEffects (fun c : Call Flag => .call (.flag c)) r env acts ∧
      KeepsEffects (fun c : Call Segment => .call (.segment c)) r env acts :=
  ⟨hr.keepsEffects doesCalls_flag acts, hr.keepsEffects doesCalls_segment acts⟩

/-- Two segments that are added to a list that names one twice, and that one taken off it, in two
orders. -/
theorem keeps_effects_of_acts_untidyActs :
    let act : Call Segment → Act := fun c => .call (.segment c)
    let c := bareSegment "c" 1
    let d := bareSegment "d" 2
    let first := editing act untidyActs "e" [.merge c, .remove "b", .merge d]
    let second := editing act untidyActs "e" [.merge d, .merge c, .remove "b"]
    (Repository.empty 4).HasRoomFor first ∧ (Repository.empty 4).HasRoomFor second ∧
      listAfter Segment (.empty 4) "e" first = [bareSegment "a" 7, c, d] ∧
      listAfter Segment (.empty 4) "e" second = [bareSegment "a" 7, d, c] ∧
      SameUpToAppended (listAfter Segment (.empty 4) "e" untidyActs)
        (listAfter Segment (.empty 4) "e" first) (listAfter Segment (.empty 4) "e" second) := by
  intro act c d first second
  have hfirst : (keysWritten ((performs first).run (.empty 4)).notices).card = 4 := by
    decide +kernel
  have hsecond : (keysWritten ((performs second).run (.empty 4)).notices).card = 4 := by
    decide +kernel
  have hperm : [Edit.merge c, .remove "b", .merge d].Perm [.merge d, .merge c, .remove "b"] := by
    decide
  have h := (keeps_effects_of_acts (.empty 4) untidyActs "e" (.empty 4)).2.perm _ _ (by decide)
    hperm (fun _ => hfirst.le) (fun _ => hsecond.le)
  exact ⟨fun _ => hfirst.le, fun _ => hsecond.le, by decide +kernel, by decide +kernel, h.1⟩

end FlagReplica.Repository
