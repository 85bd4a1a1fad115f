import FlagReplica.Proofs.Repository.Agreement
import FlagReplica.Proofs.Sync.Writes
/-!
# Synchronization keeps single things and lists in agreement

Whatever the writes of synchronization, in whatever order, and whatever the control plane answers in
between, each flag and each segment is held alike under its own key and in the list of the
environment (`SyncWrite.listsWhatItHas_of_run`). The writes themselves compare versions one copy at
a time. They cannot come to different decisions, because the invariant hands both the same version.
-/

namespace FlagReplica

open Record (identifier)
open Repository (keysOf notMem_keysOf_of_kind listKey_mem_keysOf entityKey_mem_keysOf)

/-! ## What the writes leave alone -/

namespace Contents

section Frame

variable {α : Type} [Record α] {keys : Set String}

theorem keeps_storePulled (h : ∀ key ∈ keysOf α, key ∉ keys) (env what : String)
    (answer : Except Error (List α)) : Keeps keys (storePulled env what answer) := by
  cases answer with
  | ok xs => exact (keeps_setAll h env xs true).bind fun _ => .pure true
  | error e => exact (Keeps.log _ _).bind fun _ => .pure false

theorem keeps_deleteAnnounced (h : ∀ key ∈ keysOf α, key ∉ keys) (env : String) (e : PushEvent) :
    Keeps keys (deleteAnnounced α env e) :=
  (keeps_deleteOne (h _ (entityKey_mem_keysOf _))).bind fun _ =>
    keeps_removeFrom (h _ (listKey_mem_keysOf env)) _

theorem keeps_storeFetched (h : ∀ key ∈ keysOf α, key ∉ keys) (env : String)
    (answer : Except Error α) : Keeps keys (storeFetched env answer) := by
  cases answer with
  | ok x =>
    exact (keeps_setOne (h _ (entityKey_mem_keysOf _)) false).bind fun _ =>
      keeps_merge (h _ (listKey_mem_keysOf env)) x
  | error e => exact .log _ _

end Frame

theorem flag_notMem_segment : ∀ key ∈ keysOf Flag, key ∉ keysOf Segment :=
  notMem_keysOf_of_kind (by decide)

theorem segment_notMem_flag : ∀ key ∈ keysOf Segment, key ∉ keysOf Flag :=
  notMem_keysOf_of_kind (by decide)

/-! ## What they maintain -/

/-- There is a table that is shown. -/
def Agrees (α : Type) [Record α] (env : String) (held : Contents) : Prop :=
  ∃ t : String → Option α, held.Shows env t

namespace Agrees

variable {α β : Type} [Record α] {env : String} {held : Contents}

theorem of_keeps {a : ContentsAction β} (h : Agrees α env held) (ha : Keeps (keysOf α) a) :
    Agrees α env (a.run held).state := by
  obtain ⟨t, ht⟩ := h
  exact ⟨t, ht.of_keeps ha⟩

variable [LawfulRecord α]

theorem storePulled {answer : Except Error (List α)} (h : Agrees α env held) (what : String)
    (hxs : ∀ xs, answer = .ok xs → (xs.map identifier).Nodup) :
    Agrees α env ((Contents.storePulled env what answer).run held).state := by
  cases answer with
  | ok xs =>
    obtain ⟨t, ht⟩ := h
    exact ⟨byName xs, ht.setAll (hxs xs rfl)⟩
  | error e => exact h

theorem deleteAnnounced (h : Agrees α env held) (e : PushEvent) :
    Agrees α env ((Contents.deleteAnnounced α env e).run held).state := by
  obtain ⟨t, ht⟩ := h
  exact ⟨_, ht.deleteAndRemove e.identifier⟩

theorem storeFetched (h : Agrees α env held) (answer : Except Error α) :
    Agrees α env ((Contents.storeFetched env answer).run held).state := by
  cases answer with
  | ok x =>
    obtain ⟨t, ht⟩ := h
    exact ⟨_, ht.setAndMerge x⟩
  | error e => exact h

end Agrees

/-- Flags and segments are each held alike under their own keys and in the list. -/
def InAgreement (env : String) (held : Contents) : Prop :=
  Agrees Flag env held ∧ Agrees Segment env held

/-- The action leaves contents that are in agreement in agreement. -/
def Maintains {α : Type} (env : String) (a : ContentsAction α) : Prop :=
  ∀ held : Contents, InAgreement env held → InAgreement env (a.run held).state

namespace Maintains

variable {α β : Type} {env : String}

theorem bind {a : ContentsAction α} {f : α → ContentsAction β} (ha : Maintains env a)
    (hf : ∀ x, Maintains env (f x)) : Maintains env (a >>= f) :=
  fun held h => hf _ _ (ha held h)

theorem map {a : ContentsAction α} (f : α → β) (ha : Maintains env a) : Maintains env (f <$> a) :=
  fun held h => by
    rw [Action.run_map]
    exact ha held h

theorem forM {f : α → ContentsAction Unit} (xs : List α) (hf : ∀ x ∈ xs, Maintains env (f x)) :
    Maintains env (xs.forM f) := by
  induction xs with
  | nil => exact fun _ h => h
  | cons x xs ih =>
    exact (hf x List.mem_cons_self).bind fun _ => ih fun y hy => hf y (List.mem_cons_of_mem _ hy)

end Maintains

variable {env : String}

theorem inAgreement_nothing (env : String) : InAgreement env nothing :=
  ⟨⟨_, shows_nothing⟩, ⟨_, shows_nothing⟩⟩

/-- Only an announced deletion writes anything before it is asked what to write. -/
theorem maintains_receive (e : PushEvent) : Maintains env (receive env e) := by
  obtain ⟨domain, event, id, v⟩ := e
  intro held h
  cases domain with
  | flag =>
    cases event with
    | delete =>
      exact ⟨h.1.deleteAnnounced _, h.2.of_keeps (keeps_deleteAnnounced flag_notMem_segment _ _)⟩
    | create => exact h
    | update => exact h
  | segment =>
    cases event with
    | delete =>
      exact ⟨h.1.of_keeps (keeps_deleteAnnounced segment_notMem_flag _ _), h.2.deleteAnnounced _⟩
    | create => exact h
    | update => exact h
  | unknown => cases event <;> exact h

theorem maintains_storeFetched_flag (answer : Except Error Flag) :
    Maintains env (storeFetched env answer) := fun _ h =>
  ⟨h.1.storeFetched answer, h.2.of_keeps (keeps_storeFetched flag_notMem_segment _ _)⟩

theorem maintains_storeFetched_segment (answer : Except Error Segment) :
    Maintains env (storeFetched env answer) := fun _ h =>
  ⟨h.1.of_keeps (keeps_storeFetched segment_notMem_flag _ _), h.2.storeFetched answer⟩

theorem maintains_handleEvent (e : PushEvent) (flag : Except Error Flag)
    (segment : Except Error Segment) : Maintains env (handleEvent env e flag segment) := by
  refine (maintains_receive e).bind fun asked => ?_
  rcases asked with _ | _ | _
  · exact fun _ h => h
  · exact maintains_storeFetched_flag flag
  · exact maintains_storeFetched_segment segment

end Contents

/-! ## Runs -/

namespace SyncWrite

open Contents

variable {env : String}

/-- **Every write of synchronization maintains the agreement.** -/
theorem maintains {w : SyncWrite} (hw : w.NamesOnce) : Maintains env (w.runOnContents env) := by
  cases w with
  | flagsPulled answer =>
    refine Maintains.map _ fun held h => ⟨h.1.storePulled _ ?_, ?_⟩
    · rintro xs rfl
      exact hw
    · exact h.2.of_keeps (keeps_storePulled flag_notMem_segment _ _ _)
  | segmentsPulled answer =>
    refine Maintains.map _ fun held h => ⟨?_, h.2.storePulled _ ?_⟩
    · exact h.1.of_keeps (keeps_storePulled segment_notMem_flag _ _ _)
    · rintro xs rfl
      exact hw
  | received e => exact (maintains_receive e).map _
  | flagFetched answer => exact maintains_storeFetched_flag answer
  | segmentFetched answer => exact maintains_storeFetched_segment answer
  | followed e flag segment => exact maintains_handleEvent e flag segment
  | flushed => exact fun _ h => h

theorem maintains_runAll {ws : List SyncWrite} (hws : ∀ w ∈ ws, w.NamesOnce) :
    Maintains env (runAllOnContents env ws) :=
  .forM ws fun w hw => maintains (hws w hw)

end SyncWrite

/-- What the repository lists, it lists once, and it is what it has under single keys. At flags
`getAll` is `getFlags` and `get` is `getFlag`, and at segments their namesakes. -/
structure Repository.ListsWhatItHas (α : Type) [Record α] (env : String) (r : Repository) :
    Prop where
  once : (((getAll env : RepositoryAction (List α)).run r).value.map identifier).Nodup
  alike : ∀ id (x : α), ((get id).run r).value = some x ↔
    x ∈ ((getAll env).run r).value ∧ identifier x = id

theorem Repository.Faithful.listsWhatItHas {α : Type} [Record α] [LawfulRecord α] {env : String}
    {r : Repository} {room : Finset String} (hr : r.Faithful room)
    (h : Contents.Agrees α env r.stored?) : r.ListsWhatItHas α env := by
  obtain ⟨t, ht⟩ := h
  refine ⟨?_, fun id x => ?_⟩
  · rw [hr.value_getAll]
    exact ht.nodup
  · rw [hr.value_getAll, hr.value_get, ht.find?_eq, ht.mem_listed_iff]

namespace SyncWrite

/-- **Single things and lists never part.** On a new repository, over a store of its own or with
room for the keys that are written, any run of the writes of synchronization for an environment
leaves, after each of its steps, flags and segments that are listed once each and found alike. The
lists that are pulled are only taken to name nothing twice. -/
theorem listsWhatItHas_of_run (env : String) (r : Repository) (ws : List SyncWrite)
    (hr : r.Fresh) (hnames : ∀ w ∈ ws, w.NamesOnce)
    (hroom : r.HasRoom ((runAll env ws).run r).notices) :
    ∀ done, done <+: ws →
      ((runAll env done).run r).state.ListsWhatItHas Flag env ∧
      ((runAll env done).run r).state.ListsWhatItHas Segment env := by
  intro done hdone
  obtain ⟨hstored, hafter⟩ := runAll_eq env done (hr.faithful hroom)
    (keysWritten_runAll_subset hdone r)
  rw [hr.stored?_eq] at hstored
  have hin : Contents.InAgreement env ((runAll env done).run r).state.stored? := by
    rw [hstored]
    exact maintains_runAll (fun w hw => hnames w (hdone.subset hw)) _
      (Contents.inAgreement_nothing env)
  exact ⟨hafter.listsWhatItHas hin.1, hafter.listsWhatItHas hin.2⟩

/-- A flag of which nothing matters but its name and version. -/
def flagAt (feature : String) (version : Int64) : Flag :=
  { (default : Flag) with feature, version }

/-- Writes that come late, go by another name, and take back what others wrote. -/
def unrulyWrites : List SyncWrite := [
  .flagsPulled (.ok [flagAt "a" 2, flagAt "b" 1]),
  .followed ⟨.flag, .update, "b", 3⟩ (.ok (flagAt "c" 1)) (.error .unauthorized),
  .flagFetched (.ok (flagAt "b" 1)), .received ⟨.flag, .delete, "a", 0⟩,
  .flagFetched (.ok (flagAt "a" 1)), .flagsPulled (.ok [flagAt "c" 0])]

/-- Four keys are written, and a cache of four is enough at the end of it. -/
theorem listsWhatItHas_unrulyWrites :
    (keysWritten ((runAll "e" unrulyWrites).run (.empty 4)).notices).card = 4 ∧
    ((runAll "e" unrulyWrites).run (.empty 4)).state.ListsWhatItHas Flag "e" := by
  have hcard : (keysWritten ((runAll "e" unrulyWrites).run (.empty 4)).notices).card = 4 := by
    decide +kernel
  have hnames : ∀ w ∈ unrulyWrites, w.NamesOnce := by
    simp [unrulyWrites, NamesOnce, flagAt]
  exact ⟨hcard, (listsWhatItHas_of_run "e" (.empty 4) unrulyWrites (.empty 4) hnames
    (fun _ => hcard.le) unrulyWrites (List.prefix_refl _)).1⟩

end SyncWrite

end FlagReplica
