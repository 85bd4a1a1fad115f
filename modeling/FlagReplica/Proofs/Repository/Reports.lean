import FlagReplica.Proofs.Repository.Agreement
/-!
# What operations tell

Whether an operation changes anything is decided in several places: by the version, by comparing
with what is there, by how long a list is after something was taken off it. An action on contents
`Reports` a list of changes, in the order in which it might tell of them, if it tells of just those
whose entries it alters, and alters no others. Whatever was decided where, that is all that a
caller can see of it.

No key comes twice in such a list, so that what one part of an operation alters no other part does:
`Reports.bind`. That holds as long as no list names anything twice (`ListsOnce`).
-/

namespace FlagReplica

open Record (kind identifier version)
open Repository (entityKey listKey isOutdated missingFrom merged?)

/-- The key of the entry that a change is about. -/
def Change.key : Change → String
  | .stored kind id | .deleted kind id => (Key.entity kind id).text
  | .listStored kind env | .removed kind env _ => (Key.listing kind env).text

/-- The entry that a change is about is not what it was before. -/
def Change.Altered (held held' : Contents) (c : Change) : Prop := held' c.key ≠ held c.key

instance (held held' : Contents) : DecidablePred (Change.Altered held held') :=
  fun c => inferInstanceAs (Decidable (held' c.key ≠ held c.key))

/-- The changes that notices tell of, in their order. -/
def changesIn (ns : List Notice) : List Change :=
  ns.filterMap fun
    | .changed c => some c
    | _ => none

theorem changesIn_append (ns ns' : List Notice) :
    changesIn (ns ++ ns') = changesIn ns ++ changesIn ns' := List.filterMap_append

namespace Contents

variable {α β γ : Type}

/-- Of these changes, which it might tell of, the action tells of those whose entries it alters. If
it alters one, the entry is there afterwards or gone as the change says. It alters no others. -/
structure Reports (cs : List Change) (a : ContentsAction β) (held : Contents) : Prop where
  told : changesIn (a.run held).notices = cs.filter (Change.Altered held (a.run held).state ·)
  leaves : ∀ c ∈ cs, c.Altered held (a.run held).state →
    ((a.run held).state c.key).isSome = c.written?.isSome
  keeps : ∀ key, key ∉ cs.map Change.key → (a.run held).state key = held key

namespace Reports

variable {cs cs' : List Change} {a : ContentsAction β} {held : Contents}

/-- What changes nothing may be said to report anything. -/
theorem of_same (hstate : (a.run held).state = held) (htold : changesIn (a.run held).notices = []) :
    Reports cs a held where
  told := by
    rw [htold, hstate, eq_comm, List.filter_eq_nil_iff]
    exact fun c _ hc => of_decide_eq_true hc rfl
  leaves c _ hc := absurd (congrFun hstate c.key) hc
  keeps key _ := congrFun hstate key

theorem pure (x : β) : Reports cs (Pure.pure x) held := of_same rfl rfl

theorem log (level : Level) (text : String) : Reports cs (Contents.log level text) held :=
  of_same rfl rfl

/-- What the contents are may be looked at first. -/
theorem read {f : Contents → ContentsAction β} (h : Reports cs (f held) held) :
    Reports cs (Action.get >>= f) held := ⟨h.told, h.leaves, h.keeps⟩

theorem ite {p : Prop} [Decidable p] {b : ContentsAction β} (ha : Reports cs a held)
    (hb : Reports cs b held) : Reports cs (if p then a else b) held := by
  split
  · exact ha
  · exact hb

/-- What writes one entry, and tells of it if it was another before, reports that. -/
theorem of_update {c : Change} {entry : Option Entry} {a : ContentsAction Unit}
    (hrun : a.run held = ⟨(), Function.update held c.key entry,
      if held c.key = entry then [] else [.changed c]⟩)
    (hentry : entry.isSome = c.written?.isSome) : Reports [c] a held := by
  have hself : Function.update held c.key entry c.key = entry := Function.update_self ..
  refine ⟨?_, fun d hd _ => ?_, fun key hkey => ?_⟩ <;> rw [hrun] <;> dsimp only
  · by_cases hsame : held c.key = entry
    · simp [changesIn, Change.Altered, hsame]
    · simp [changesIn, Change.Altered, hsame, eq_comm]
  · rw [List.mem_singleton.mp hd, hself, hentry]
  · exact Function.update_of_ne (by simpa using hkey) _ _

theorem bind {f : β → ContentsAction γ} (ha : Reports cs a held)
    (hf : Reports cs' (f (a.run held).value) (a.run held).state)
    (hkeys : ((cs ++ cs').map Change.key).Nodup) : Reports (cs ++ cs') (a >>= f) held := by
  rw [List.map_append, List.nodup_append] at hkeys
  -- an entry of the first list is as the first part leaves it, and one of the second as it was
  have hfirst : ∀ c ∈ cs, ((a >>= f).run held).state c.key = (a.run held).state c.key :=
    fun c hc => hf.keeps c.key fun hmem => hkeys.2.2 _ (List.mem_map_of_mem hc) _ hmem rfl
  have hsecond : ∀ c ∈ cs', (a.run held).state c.key = held c.key :=
    fun c hc => ha.keeps c.key fun hmem => hkeys.2.2 _ hmem _ (List.mem_map_of_mem hc) rfl
  refine ⟨?_, fun c hc halt => ?_, fun key hkey => ?_⟩
  · rw [Action.run_bind, changesIn_append, ha.told, hf.told, List.filter_append]
    refine congrArg₂ _ (List.filter_congr fun c hc => ?_) (List.filter_congr fun c hc => ?_)
    · exact decide_eq_decide.mpr (by rw [Change.Altered, Change.Altered, ← hfirst c hc]; rfl)
    · exact decide_eq_decide.mpr (by rw [Change.Altered, Change.Altered, ← hsecond c hc])
  · rcases List.mem_append.mp hc with hc | hc
    · rw [Change.Altered, hfirst c hc] at halt
      rw [hfirst c hc]
      exact ha.leaves c hc halt
    · rw [Change.Altered, ← hsecond c hc] at halt
      exact hf.leaves c hc halt
  · rw [List.map_append, List.mem_append, not_or] at hkey
    exact (hf.keeps key hkey.2).trans (ha.keeps key hkey.1)

theorem map (f : β → γ) (ha : Reports cs a held) : Reports cs (f <$> a) held := by
  refine ⟨?_, ?_, ?_⟩ <;> rw [Action.run_map]
  · exact ha.told
  · exact ha.leaves
  · exact ha.keeps

/-- What is done for each of some things is reported in their order, if it is about another entry
each time. -/
theorem forM {f : α → ContentsAction Unit} {tell : α → Change} (xs : List α)
    (hkeys : ((xs.map tell).map Change.key).Nodup)
    (h : ∀ x ∈ xs, ∀ held, Reports [tell x] (f x) held) (held : Contents) :
    Reports (xs.map tell) (xs.forM f) held := by
  induction xs generalizing held with
  | nil => exact .pure ()
  | cons x xs ih =>
    have hrest := ih hkeys.of_cons (fun y hy => h y (List.mem_cons_of_mem x hy))
    exact (h x List.mem_cons_self held).bind (hrest _) hkeys

/-- **Each is told once** if the entry is another, and never otherwise. -/
theorem count_eq (h : Reports cs a held) (hkeys : (cs.map Change.key).Nodup) (c : Change) :
    (changesIn (a.run held).notices).count c =
      if c ∈ cs ∧ c.Altered held (a.run held).state then 1 else 0 := by
  rw [h.told, (hkeys.of_map.filter _).count]
  simp only [List.mem_filter, decide_eq_true_eq]

end Reports

/-! ## The operations -/

section Operations

variable {held : Contents}

variable [Record α]

theorem reports_setOne (x : α) (initial : Bool) :
    Reports [.stored (kind α) (identifier x)] (setOne x initial) held :=
  .read (.ite (.log _ _) (.of_update rfl rfl))

theorem reports_deleteOne (id : String) :
    Reports [.deleted (kind α) id] (deleteOne α id) held := .of_update rfl rfl

theorem reports_merge (env : String) (x : α) :
    Reports [.listStored (kind α) env] (merge env x) held := by
  refine .read ?_
  cases merged? x (held.listed env) with
  | none => exact .pure ()
  | some xs => exact .of_update rfl rfl

theorem reports_removeFrom (env id : String) :
    Reports [.removed (kind α) env id] (removeFrom α env id) held := by
  refine .read ?_
  dsimp only
  cases (held (listKey α env)).bind (Record.ofListing? (α := α)) with
  | none => exact .pure ()
  | some xs => exact .ite (.of_update rfl rfl) (.pure ())

/-- What a list write might tell of: the list, each thing in it, and in an initial load each thing
of the list before that it no longer holds. -/
def listChanges (env : String) (xs : List α) (initial : Bool) (previous : List α) : List Change :=
  .listStored (kind α) env :: (xs.map (fun x => .stored (kind α) (identifier x)) ++
    if initial then (missingFrom xs previous).map fun old => .deleted (kind α) (identifier old)
    else [])

variable {xs previous : List α}

theorem mem_missingFrom {old : α} : old ∈ missingFrom xs previous ↔
    old ∈ previous ∧ identifier old ∉ xs.map identifier := by
  simp [missingFrom]

theorem deleted_mem_listChanges {env id : String} :
    .deleted (kind α) id ∈ listChanges env xs true previous ↔
      ∃ old ∈ missingFrom xs previous, identifier old = id := by
  simp [listChanges]

/-- No two of these are about one entry. -/
theorem nodup_keys_listChanges (env : String) (initial : Bool) (hxs : (xs.map identifier).Nodup)
    (hprevious : (previous.map identifier).Nodup) :
    ((listChanges env xs initial previous).map Change.key).Nodup := by
  let missing := if initial then missingFrom xs previous else []
  have hids : ((xs ++ missing).map identifier).Nodup := by
    rw [List.map_append, List.nodup_append]
    cases initial with
    | true =>
      refine ⟨hxs, hprevious.sublist (List.filter_sublist.map _), fun id hid id' hid' => ?_⟩
      obtain ⟨old, hold, rfl⟩ := List.mem_map.mp hid'
      exact ne_of_mem_of_not_mem hid (mem_missingFrom.mp hold).2
    | false => exact ⟨hxs, List.nodup_nil, fun _ _ _ hid' => absurd hid' List.not_mem_nil⟩
  have hkeys : (listChanges env xs initial previous).map Change.key =
      listKey α env :: ((xs ++ missing).map identifier).map (entityKey α) := by
    rw [listChanges, List.map_cons, List.map_append, List.map_append, List.map_append]
    cases initial with
    | true => simp only [missing, if_true, List.map_map]; rfl
    | false => simp only [missing, List.map_map]; rfl
  rw [hkeys, List.nodup_cons]
  refine ⟨fun hmem => ?_, hids.map fun _ _ => (Repository.entityKey_inj α).mp⟩
  obtain ⟨id, -, hid⟩ := List.mem_map.mp hmem
  exact Repository.entityKey_ne_listKey α α id env hid

theorem reports_setAll (env : String) (initial : Bool) (hxs : (xs.map identifier).Nodup)
    (hheld : ((held.listed env : List α).map identifier).Nodup) :
    Reports (listChanges env xs initial (held.listed env)) (setAll env xs initial) held := by
  have hkeys := nodup_keys_listChanges env initial hxs hheld
  have hput : Reports [.listStored (kind α) env]
      (put (listKey α env) (Record.toListing xs) (.listStored (kind α) env)) held :=
    .of_update rfl rfl
  refine .read (.ite (.log _ _) (hput.bind ?_ hkeys))
  have hrest := hkeys.of_cons
  rw [List.map_append, List.nodup_append] at hrest
  refine (Reports.forM xs hrest.1 (fun x _ _ => reports_setOne x initial) _).bind ?_ hkeys.of_cons
  cases initial with
  | true => exact .forM _ hrest.2.1 (fun old _ _ => reports_deleteOne (identifier old)) _
  | false => exact .pure ()

end Operations

namespace Reports

variable {cs : List Change} {a : ContentsAction β} {held : Contents} {kind : EntityKind}

/-- An entry of a single thing is altered by storing the thing or by deleting it, and which of the
two it was can be told from whether it is there. -/
theorem mem_of_altered (h : Reports cs a held) {id : String}
    (haltered : (a.run held).state (Key.entity kind id).text ≠ held (Key.entity kind id).text) :
    (.stored kind id ∈ cs ∧ (a.run held).state (Key.entity kind id).text ≠ none) ∨
      .deleted kind id ∈ cs ∧ (a.run held).state (Key.entity kind id).text = none := by
  have hmem : (Key.entity kind id).text ∈ cs.map Change.key := by
    by_contra hmem
    exact haltered (h.keeps _ hmem)
  obtain ⟨c, hc, hkey⟩ := List.mem_map.mp hmem
  have hleaves := h.leaves c hc (by rw [Change.Altered, hkey]; exact haltered)
  rw [hkey] at hleaves
  cases c with
  | stored kind' id' =>
    cases Key.text_injective hkey
    exact .inl ⟨hc, Option.isSome_iff_ne_none.mp hleaves⟩
  | deleted kind' id' =>
    cases Key.text_injective hkey
    exact .inr ⟨hc, Option.not_isSome_iff_eq_none.mp (Bool.eq_false_iff.mp hleaves)⟩
  | listStored kind' env => cases Key.text_injective hkey
  | removed kind' env id' => cases Key.text_injective hkey

/-- **A thing is reported as stored** if its entry is there and is another. -/
theorem stored_iff (h : Reports cs a held) (id : String) :
    .stored kind id ∈ cs ∧ (Change.stored kind id).Altered held (a.run held).state ↔
      (a.run held).state (Key.entity kind id).text ≠ held (Key.entity kind id).text ∧
        (a.run held).state (Key.entity kind id).text ≠ none := by
  constructor
  · rintro ⟨hc, haltered⟩
    exact ⟨haltered, Option.isSome_iff_ne_none.mp (h.leaves _ hc haltered)⟩
  · rintro ⟨haltered, hthere⟩
    rcases h.mem_of_altered haltered with ⟨hc, -⟩ | ⟨-, hgone⟩
    · exact ⟨hc, haltered⟩
    · exact absurd hgone hthere

/-- **A thing is reported as deleted** if its entry was there and is gone. -/
theorem deleted_iff (h : Reports cs a held) (id : String) :
    .deleted kind id ∈ cs ∧ (Change.deleted kind id).Altered held (a.run held).state ↔
      held (Key.entity kind id).text ≠ none ∧
        (a.run held).state (Key.entity kind id).text = none := by
  constructor
  · rintro ⟨hc, haltered⟩
    have hgone : (a.run held).state (Key.entity kind id).text = none :=
      Option.not_isSome_iff_eq_none.mp (Bool.eq_false_iff.mp (h.leaves _ hc haltered))
    exact ⟨fun hnone => haltered (hgone.trans hnone.symm), hgone⟩
  · rintro ⟨hthere, hgone⟩
    have haltered : (a.run held).state (Key.entity kind id).text ≠
        held (Key.entity kind id).text := fun hsame => hthere (hsame.symm.trans hgone)
    rcases h.mem_of_altered haltered with ⟨-, hthere'⟩ | ⟨hc, -⟩
    · exact absurd hgone hthere'
    · exact ⟨hc, haltered⟩

end Reports

/-- **Taking an identifier off a list** alters the list exactly if the identifier was on it, and it
is on it no longer. -/
theorem removeFrom_altered_iff [Record α] [LawfulRecord α] (held : Contents) (env id : String) :
    ((removeFrom α env id).run held).state (listKey α env) ≠ held (listKey α env) ↔
      id ∈ (held.listed env : List α).map identifier ∧
        id ∉ (listed ((removeFrom α env id).run held).state env : List α).map identifier := by
  have hoff : id ∉ (listed ((removeFrom α env id).run held).state env : List α).map identifier := by
    rw [listed_removeFrom]
    simp
  rw [and_iff_left hoff]
  constructor
  · intro haltered
    by_contra hid
    refine haltered ?_
    rw [state_removeFrom]
    cases hxs : (held (listKey α env)).bind (Record.ofListing? (α := α)) with
    | none => rfl
    | some xs =>
      have hlisted : held.listed env = xs := by rw [listed, hxs, Option.getD_some]
      rw [hlisted] at hid
      have hall : xs.filter (fun x => identifier x ≠ id) = xs :=
        List.filter_eq_self.mpr fun x hx => decide_eq_true fun h =>
          hid (h ▸ List.mem_map_of_mem hx)
      dsimp only
      rw [hall, if_neg (not_not.mpr rfl)]
  · intro hid hsame
    rw [listed_congr hsame] at hoff
    exact hoff hid

/-- No list of the kind names anything twice. -/
def ListsOnce (α : Type) [Record α] (held : Contents) : Prop :=
  ∀ env, ((held.listed env : List α).map identifier).Nodup

namespace ListsOnce

variable [Record α] {held held' : Contents} {env : String} {xs : List α}

theorem nothing : ListsOnce α nothing := fun _ => List.nodup_nil

theorem congr (h : ListsOnce α held)
    (hkeys : Set.EqOn held' held (Set.range (listKey α))) : ListsOnce α held' := by
  intro env
  rw [listed_congr (hkeys ⟨env, rfl⟩)]
  exact h env

variable [LawfulRecord α]

theorem update (h : ListsOnce α held) (hxs : (xs.map identifier).Nodup) :
    ListsOnce α (Function.update held (listKey α env) (some (Record.toListing xs))) := by
  intro env'
  by_cases henv : env' = env
  · rw [henv, listed_update]
    exact hxs
  · rw [listed_congr (Function.update_of_ne (mt (Repository.listKey_inj α).mp henv) _ _)]
    exact h env'

theorem setAll (h : ListsOnce α held) (hxs : (xs.map identifier).Nodup) (initial : Bool) :
    ListsOnce α ((Contents.setAll env xs initial).run held).state := by
  rw [Contents.setAll, run_read]
  by_cases hold : isOutdated initial (held (listKey α env)) (newest (xs.map version))
  · rw [if_pos hold]
    exact h
  · rw [if_neg hold]
    -- once the list is held, only single things are written
    have hone (id : String) : entityKey α id ∉ Set.range (listKey α) :=
      Repository.entityKey_notMem_range_listKey id
    have hrest : Keeps (Set.range (listKey α)) (do
        xs.forM fun x => setOne x initial
        if initial then
          (missingFrom xs (held.listed env)).forM fun old => deleteOne α (identifier old)) :=
      (Keeps.forM xs fun x _ => keeps_setOne (hone _) initial).bind fun _ =>
        .ite (.forM _ fun old _ => keeps_deleteOne (hone _)) (.pure ())
    exact (h.update hxs).congr (hrest _)

theorem merge (h : ListsOnce α held) (x : α) :
    ListsOnce α ((Contents.merge env x).run held).state := by
  rw [state_merge]
  cases hmerged : merged? x (held.listed env) with
  | none => exact h
  | some zs => exact h.update (nodup_merged (h env) hmerged)

theorem removeFrom (h : ListsOnce α held) (id : String) :
    ListsOnce α ((Contents.removeFrom α env id).run held).state := by
  rw [state_removeFrom]
  cases hxs : (held (listKey α env)).bind (Record.ofListing? (α := α)) with
  | none => exact h
  | some xs =>
    have hlisted : held.listed env = xs := by rw [listed, hxs, Option.getD_some]
    dsimp only
    split
    · exact h.update ((hlisted ▸ h env).sublist (List.filter_sublist.map _))
    · exact h

end ListsOnce

end Contents

end FlagReplica
