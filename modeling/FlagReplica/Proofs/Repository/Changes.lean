import FlagReplica.Proofs.Repository.Reports
import FlagReplica.Proofs.Repository.StoreIndependence
/-!
# Every change is told, and nothing else

Callers see the entries before and after a call, and the changes that the call told, and the one
follows from the other (`Repository.changes_of_run`): a thing was stored exactly if its own entry is
there and differs, it was deleted exactly if its entry is gone, and each is told once. `Call.Made`
says it for one change, of the entries alone.
-/

namespace FlagReplica

open Record (kind identifier version)

namespace Repository

open Contents

section Kind

variable {α : Type} [Record α]

/-- The lists that the call stores name nothing twice. -/
def Call.NamesOnce : Call α → Prop
  | .setAll _ xs _ => (xs.map identifier).Nodup
  | _ => True

/-- Whether the call stores the list of an environment, or something in it. -/
def Call.storesList (env : String) : Call α → Bool
  | .setAll e _ _ | .merge e _ => e = env
  | _ => false

/-- Whether the call takes an identifier off the list of an environment. -/
def Call.takesOff (env id : String) : Call α → Bool
  | .deleteFrom e i => e = env ∧ i = id
  | _ => false

/-- What the call might tell of, in order. -/
def Call.mayTell (held : Contents) : Call α → List Change
  | .get _ | .getAll _ => []
  | .set x _ => [.stored (kind α) (identifier x)]
  | .setAll env xs initial => listChanges env xs initial (held.listed env)
  | .merge env _ => [.listStored (kind α) env]
  | .delete id => [.deleted (kind α) id]
  | .deleteFrom env id => [.removed (kind α) env id]

/-- By what is held before and after a call, the change is one that the call made: a thing's own
entry is a new one, or was there and is gone; the list that the call stores differs, where none
differs from an empty one; the identifier that the call takes off the list was on it and is not any
more. -/
def Call.Made (call : Call α) (held held' : Contents) : Change → Prop
  | .stored kind id => held' (Key.entity kind id).text ≠ held (Key.entity kind id).text ∧
      held' (Key.entity kind id).text ≠ none
  | .deleted kind id => held (Key.entity kind id).text ≠ none ∧
      held' (Key.entity kind id).text = none
  | .listStored kind' env => kind' = kind α ∧ call.storesList env ∧
      held' (listKey α env) ≠ held (listKey α env)
  | .removed kind' env id => kind' = kind α ∧ call.takesOff env id ∧
      id ∈ (held.listed env : List α).map identifier ∧
      id ∉ (held'.listed env : List α).map identifier

instance (call : Call α) (held held' : Contents) : DecidablePred (call.Made held held')
  | .stored .. => inferInstanceAs (Decidable (_ ∧ _))
  | .deleted .. => inferInstanceAs (Decidable (_ ∧ _))
  | .listStored .. => inferInstanceAs (Decidable (_ ∧ _))
  | .removed .. => inferInstanceAs (Decidable (_ ∧ _))

variable {call : Call α} {held : Contents}

theorem Call.reports (hcall : call.NamesOnce) (hheld : ListsOnce α held) :
    Reports (call.mayTell held) call.runOnContents held := by
  cases call with
  | get id => exact .map _ (.read (.pure _))
  | getAll env => exact .map _ (.read (.pure _))
  | set x initial => exact .map _ (reports_setOne x initial)
  | setAll env xs initial => exact .map _ (reports_setAll env initial hcall (hheld env))
  | merge env x => exact .map _ (reports_merge env x)
  | delete id => exact .map _ (reports_deleteOne id)
  | deleteFrom env id => exact .map _ (reports_removeFrom env id)

theorem Call.nodup_keys_mayTell (hcall : call.NamesOnce) (hheld : ListsOnce α held) :
    ((call.mayTell held).map Change.key).Nodup := by
  cases call with
  | setAll env xs initial => exact nodup_keys_listChanges env initial hcall (hheld env)
  | get id | getAll env => exact List.nodup_nil
  | set x initial | merge env x | delete id | deleteFrom env id => exact List.nodup_singleton _

theorem Call.listStored_mem_mayTell {kind' : EntityKind} {env : String} :
    .listStored kind' env ∈ call.mayTell held ↔ kind' = kind α ∧ call.storesList env := by
  cases call with
  | setAll env' xs initial =>
    cases initial <;> simp [mayTell, storesList, listChanges, @eq_comm _ env env']
  | merge env' x => simp [mayTell, storesList, @eq_comm _ env env']
  | get id | getAll env' | set x initial | delete id | deleteFrom env' id =>
    simp [mayTell, storesList]

theorem Call.removed_mem_mayTell {kind' : EntityKind} {env id : String} :
    .removed kind' env id ∈ call.mayTell held ↔ kind' = kind α ∧ call.takesOff env id := by
  cases call with
  | deleteFrom env' id' =>
    simp [mayTell, takesOff, @eq_comm _ env env', @eq_comm _ id id']
  | setAll env' xs initial => cases initial <;> simp [mayTell, takesOff, listChanges]
  | get id | getAll env' | set x initial | delete id | merge env' x => simp [mayTell, takesOff]

/-- **A call tells of what it made**, and alters nothing else that it might tell of. -/
theorem Call.mayTell_iff [LawfulRecord α] (hcall : call.NamesOnce) (hheld : ListsOnce α held)
    (c : Change) :
    c ∈ call.mayTell held ∧ c.Altered held (call.runOnContents.run held).state ↔
      call.Made held (call.runOnContents.run held).state c := by
  have hreports := call.reports hcall hheld
  cases c with
  | stored kind' id => exact hreports.stored_iff id
  | deleted kind' id => exact hreports.deleted_iff id
  | listStored kind' env =>
    rw [listStored_mem_mayTell, and_assoc]
    refine and_congr_right fun hkind => and_congr_right fun _ => ?_
    subst hkind
    rfl
  | removed kind' env id =>
    rw [removed_mem_mayTell, and_assoc]
    refine and_congr_right fun hkind => and_congr_right fun htakes => ?_
    subst hkind
    cases call with
    | deleteFrom env' id' =>
      obtain ⟨rfl, rfl⟩ : env' = env ∧ id' = id := by simpa [takesOff] using htakes
      exact removeFrom_altered_iff held env' id'
    | get id' | getAll env' | set x initial | setAll env' xs initial | merge env' x
    | delete id' => cases htakes

/-- **Each change is told once** if the call made it, and never otherwise. -/
theorem Call.count_changesIn [LawfulRecord α] (hcall : call.NamesOnce)
    (hheld : ListsOnce α held) (c : Change) :
    (changesIn (call.runOnContents.run held).notices).count c =
      if call.Made held (call.runOnContents.run held).state c then 1 else 0 := by
  rw [(call.reports hcall hheld).count_eq (call.nodup_keys_mayTell hcall hheld)]
  exact if_congr (mayTell_iff hcall hheld c) rfl rfl

/-- **An initial load tells in order**: the list, what was stored in the order of the list, what was
deleted in the order of the list before. -/
theorem changesIn_setAll [LawfulRecord α] (env : String) {xs : List α}
    (hxs : (xs.map identifier).Nodup) (hheld : ListsOnce α held) :
    let call : Call α := .setAll env xs true
    changesIn (call.runOnContents.run held).notices =
      (Change.listStored (kind α) env :: (xs.map (fun x => .stored (kind α) (identifier x)) ++
        (held.listed env : List α).map fun old => .deleted (kind α) (identifier old))).filter
          (call.Made held (call.runOnContents.run held).state ·) := by
  intro call
  let made := call.Made held (call.runOnContents.run held).state
  have hmade : ∀ c, c ∈ call.mayTell held ∧ c.Altered held (call.runOnContents.run held).state ↔
      made c := call.mayTell_iff hxs hheld
  have htold : changesIn (call.runOnContents.run held).notices =
      (call.mayTell held).filter (made ·) := by
    rw [(call.reports hxs hheld).told]
    refine List.filter_congr fun c hc => decide_eq_decide.mpr ?_
    rw [← hmade c, and_iff_right hc]
  -- what was deleted is missing from the new list, so it is found in the list before as well
  have hmissing : ∀ old ∈ (held.listed env : List α),
      made (.deleted (kind α) (identifier old)) → identifier old ∉ xs.map identifier := by
    intro old _ hdeleted
    obtain ⟨other, hother, hid⟩ := deleted_mem_listChanges.mp ((hmade _).mpr hdeleted).1
    exact hid ▸ (mem_missingFrom.mp hother).2
  have hdeleted : ((missingFrom xs (held.listed env)).map fun old =>
      Change.deleted (kind α) (identifier old)).filter (made ·) =
      ((held.listed env : List α).map fun old =>
        Change.deleted (kind α) (identifier old)).filter (made ·) := by
    rw [List.filter_map, List.filter_map, missingFrom, List.filter_filter]
    refine congrArg _ (List.filter_congr fun old hold => ?_)
    by_cases h : made (.deleted (kind α) (identifier old))
    · simpa [h] using hmissing old hold h
    · simp [h]
  calc changesIn (call.runOnContents.run held).notices
      = (listChanges env xs true (held.listed env)).filter (made ·) := htold
    _ = (Change.listStored (kind α) env :: (xs.map (fun x => .stored (kind α) (identifier x)) ++
        (held.listed env : List α).map fun old => .deleted (kind α) (identifier old))).filter
          (made ·) := by
      rw [listChanges, if_pos rfl, List.filter_cons, List.filter_append, hdeleted,
        ← List.filter_append, List.filter_cons]

/-! ## Lists name nothing twice -/

/-- **A call leaves lists that name nothing twice** if it stores no other. -/
theorem Call.listsOnce [LawfulRecord α] (hcall : call.NamesOnce) (hheld : ListsOnce α held) :
    ListsOnce α (call.runOnContents.run held).state := by
  cases call with
  | get id | getAll env => exact hheld
  | set x initial =>
    exact hheld.congr (keeps_setOne (entityKey_notMem_range_listKey _) initial held)
  | delete id => exact hheld.congr (keeps_deleteOne (entityKey_notMem_range_listKey _) held)
  | setAll env xs initial => exact hheld.setAll hcall initial
  | merge env x => exact hheld.merge x
  | deleteFrom env id => exact hheld.removeFrom id

/-- A call keeps the keys of other kinds. -/
theorem Call.keeps {keys : Set String} (h : ∀ key ∈ keysOf α, key ∉ keys) (call : Call α) :
    Keeps keys call.runOnContents := by
  cases call with
  | get id | getAll env => exact .map _ fun _ _ _ => rfl
  | set x initial => exact (keeps_setOne (h _ (entityKey_mem_keysOf _)) initial).map _
  | delete id => exact (keeps_deleteOne (h _ (entityKey_mem_keysOf _))).map _
  | setAll env xs initial => exact (keeps_setAll h env xs initial).map _
  | merge env x => exact (keeps_merge (h _ (listKey_mem_keysOf env)) x).map _
  | deleteFrom env id => exact (keeps_removeFrom (h _ (listKey_mem_keysOf env)) id).map _

theorem Call.listsOnce_of_kind {β : Type} [Record β] (hkind : kind α ≠ kind β) (call : Call α)
    (hheld : ListsOnce β held) : ListsOnce β (call.runOnContents.run held).state :=
  hheld.congr ((call.keeps (notMem_keysOf_of_kind hkind) held).mono Set.subset_union_right)

end Kind

/-- The lists that the call stores name nothing twice. -/
def AnyCall.NamesOnce : AnyCall → Prop
  | .flag call => call.NamesOnce
  | .segment call => call.NamesOnce

/-- By what is held before and after a call, the change is one that the call made. -/
def AnyCall.Made : AnyCall → Contents → Contents → Change → Prop
  | .flag call => call.Made
  | .segment call => call.Made

instance (call : AnyCall) (held held' : Contents) : DecidablePred (call.Made held held') :=
  match call with
  | .flag call => inferInstanceAs (DecidablePred (call.Made held held'))
  | .segment call => inferInstanceAs (DecidablePred (call.Made held held'))

theorem AnyCall.listsOnce {call : AnyCall} {held : Contents} (hcall : call.NamesOnce)
    (hheld : ListsOnce Flag held ∧ ListsOnce Segment held) :
    ListsOnce Flag (call.runOnContents.run held).state ∧
      ListsOnce Segment (call.runOnContents.run held).state := by
  cases call with
  | flag call => exact ⟨Call.listsOnce hcall hheld.1, call.listsOnce_of_kind (by decide) hheld.2⟩
  | segment call =>
    exact ⟨call.listsOnce_of_kind (by decide) hheld.1, Call.listsOnce hcall hheld.2⟩

theorem listsOnce_of_calls {calls : List AnyCall} (hcalls : ∀ call ∈ calls, call.NamesOnce)
    {held : Contents} (hheld : ListsOnce Flag held ∧ ListsOnce Segment held) :
    let o := (calls.mapM AnyCall.runOnContents).run held
    ListsOnce Flag o.state ∧ ListsOnce Segment o.state := by
  induction calls generalizing held with
  | nil => exact hheld
  | cons call calls ih =>
    have hrest := ih (fun c hc => hcalls c (List.mem_cons_of_mem _ hc))
      (AnyCall.listsOnce (hcalls call List.mem_cons_self) hheld)
    rw [List.mapM_cons]
    simpa using hrest

theorem AnyCall.count_changesIn {call : AnyCall} {held : Contents} (hcall : call.NamesOnce)
    (hheld : ListsOnce Flag held ∧ ListsOnce Segment held) (c : Change) :
    (changesIn (call.runOnContents.run held).notices).count c =
      if call.Made held (call.runOnContents.run held).state c then 1 else 0 := by
  cases call with
  | flag call =>
    rw [runOnContents, Action.run_map]
    exact Call.count_changesIn hcall hheld.1 c
  | segment call =>
    rw [runOnContents, Action.run_map]
    exact Call.count_changesIn hcall hheld.2 c

/-- **A call in the middle of a run** comes to what it comes to on contents, in which no list names
anything twice. -/
theorem seen_call {r : Repository} {done rest : List AnyCall} {call : AnyCall} (hr : r.Fresh)
    (hcalls : ∀ c ∈ done, c.NamesOnce)
    (hroom : r.HasRoom ((answers (done ++ call :: rest)).run r).notices) :
    let before := ((answers done).run r).state
    (∃ room, before.Faithful room) ∧
      (ListsOnce Flag before.stored? ∧ ListsOnce Segment before.stored?) ∧
      (call.run.run before).seen = call.runOnContents.run before.stored? := by
  intro before
  let room := keysWritten ((answers (done ++ call :: rest)).run r).notices
  have hfollows : Follows room (answers done) (done.mapM AnyCall.runOnContents) :=
    .mapM done fun call _ => call.follows
  obtain ⟨-, hstored, hbefore⟩ := hfollows.run_eq (hr.faithful hroom)
    (keysWritten_answers_subset (List.prefix_append done (call :: rest)) r)
  have hwritten : keysWritten (call.run.run before).notices ⊆ room := by
    have hprefix : done ++ [call] <+: done ++ call :: rest :=
      (List.prefix_append_right_inj done).mpr (List.prefix_append [call] rest)
    have hsub := keysWritten_answers_subset hprefix r
    rw [answers, (run_mapM_append AnyCall.run done [call] r).2, keysWritten_append] at hsub
    refine Finset.Subset.trans ?_ (Finset.union_subset_iff.mp hsub).2
    rw [List.mapM_cons, List.mapM_nil, Action.run_bind, keysWritten_append]
    exact Finset.subset_union_left
  refine ⟨⟨room, hbefore⟩, ?_, (call.follows before hbefore hwritten).1⟩
  rw [hstored, hr.stored?_eq]
  exact listsOnce_of_calls hcalls ⟨.nothing, .nothing⟩

/-- **Callers are told of each change once, and of nothing else.** On a new repository, over a store
of its own or with room for the keys that are written, each call of a run tells of every change that
it made exactly once, and of no other. An initial load tells first of the list, then of what it
stored in the order of its list, then of what it deleted in the order of the list before. The lists
that are stored are only taken to name nothing twice. -/
theorem changes_of_run (r : Repository) (calls : List AnyCall) (hr : r.Fresh)
    (hcalls : ∀ call ∈ calls, call.NamesOnce)
    (hroom : r.HasRoom ((answers calls).run r).notices) :
    ∀ done call rest, calls = done ++ call :: rest →
      let before := ((answers done).run r).state
      let o := call.run.run before
      let made := call.Made before.stored? o.state.stored?
      (∀ c, (changesIn o.notices).count c = if made c then 1 else 0) ∧
      (∀ env fs, call = .flag (.setAll env fs true) →
        let previous := ((getFlags env).run before).value
        changesIn o.notices =
          (.listStored .flag env :: (fs.map (fun f => .stored .flag f.feature) ++
            previous.map fun f => .deleted .flag f.feature)).filter (made ·)) ∧
      ∀ env gs, call = .segment (.setAll env gs true) →
        let previous := ((getSegments env).run before).value
        changesIn o.notices =
          (.listStored .segment env :: (gs.map (fun g => .stored .segment g.identifier) ++
            previous.map fun g => .deleted .segment g.identifier)).filter (made ·) := by
  rintro done call rest rfl before o made
  have hcall : call.NamesOnce := hcalls call (by simp)
  obtain ⟨⟨room, hbefore⟩, honce, hseen⟩ := seen_call hr
    (fun c hc => hcalls c (List.mem_append_left _ hc)) hroom
  have hstate : o.state.stored? = (call.runOnContents.run before.stored?).state :=
    congrArg (fun o => o.state) hseen
  have hnotices : o.notices = (call.runOnContents.run before.stored?).notices :=
    congrArg (fun o => o.notices) hseen
  dsimp only [made]
  rw [hstate, hnotices]
  refine ⟨AnyCall.count_changesIn hcall honce, ?_, ?_⟩
  · rintro env fs rfl
    have hlisted : ((getFlags env).run before).value = listed before.stored? env :=
      hbefore.value_getAll env
    rw [AnyCall.runOnContents, Action.run_map, hlisted]
    exact changesIn_setAll env hcall honce.1
  · rintro env gs rfl
    have hlisted : ((getSegments env).run before).value = listed before.stored? env :=
      hbefore.value_getAll env
    rw [AnyCall.runOnContents, Action.run_map, hlisted]
    exact changesIn_setAll env hcall honce.2

/-- A list, of which one segment is deleted by itself before another list comes. -/
def relistedCalls : List AnyCall := [
  .segment (.setAll "e" [bareSegment "a" 2, bareSegment "b" 1, bareSegment "d" 1] true),
  .segment (.delete "b")]

/-- The segment that stays and the one that was deleted before are not told of again. -/
theorem changes_of_run_relistedCalls :
    let call : AnyCall := .segment (.setAll "e" [bareSegment "a" 2, bareSegment "c" 1] true)
    (keysWritten ((answers (relistedCalls ++ [call])).run (.empty 5)).notices).card = 5 ∧
      (let before := ((answers relistedCalls).run (.empty 5)).state
       let o := call.run.run before
       (∀ c, (changesIn o.notices).count c =
          if call.Made before.stored? o.state.stored? c then 1 else 0) ∧
        changesIn o.notices = [.listStored .segment "e", .stored .segment "c",
          .deleted .segment "d"]) := by
  intro call
  have hcard : (keysWritten ((answers (relistedCalls ++ [call])).run (.empty 5)).notices).card =
      5 := by
    decide +kernel
  have hcalls : ∀ call' ∈ relistedCalls ++ [call], call'.NamesOnce := by
    simp [relistedCalls, call, AnyCall.NamesOnce, Call.NamesOnce, bareSegment, identifier]
  have h := changes_of_run (.empty 5) (relistedCalls ++ [call]) (.empty 5) hcalls
    (fun _ => hcard.le) relistedCalls call [] rfl
  exact ⟨hcard, h.1, by decide +kernel⟩

end Repository

end FlagReplica
