import FlagReplica.Proofs.Cache.Content
import Mathlib.Data.List.Nodup
import Mathlib.Data.List.Induction
/-!
# Runs of a cache

A run is one operation after the other, each at a time of its own, on a cache that begins empty. A
`Turn` is an operation together with the cache that it finds, so that what an operation does can be
said of the turn alone, and a history is a list of turns.

Every turn comes to the same three things (`Turn.keys_after`): some keys leave because the operation
removes them, the key that the operation uses moves to the front, and of this line-up as many stay
as there is room for. A cache that a run leads to is `Sound`: no key comes twice, and no more keys
are there than the capacity allows, which is at least one.
-/

namespace FlagReplica.Cache

variable {κ α : Type}

/-- What can be done to a cache. -/
inductive Op (κ α : Type)
  | set (k : κ) (v : α)
  | get (k : κ)
  | contains (k : κ)
  | remove (k : κ)
  | invalidate (k : κ)
  | fill (k : κ) (v : α)
  | update (k : κ) (f : Option α → Option α)
  | keys
  | size
  | resize (capacity : Nat)
  | purge

/-- An operation, when it is done, and the cache that it finds. -/
structure Turn (κ α : Type) where
  before : Cache κ α
  now : Time
  op : Op κ α

section Run

variable [DecidableEq κ] [BEq α]

/-- The cache that an operation leaves. Who asks what is there without using it leaves it as it
is. -/
def Op.after (now : Time) (c : Cache κ α) : Op κ α → Cache κ α
  | .set k v => (c.set now k v).2
  | .get k => (c.get k).2
  | .remove k => (c.remove now k).2
  | .invalidate k => c.invalidate now k
  | .fill k v => c.fill k v
  | .update k f => (c.update now k f).2
  | .resize capacity => (c.resize now capacity).2
  | .purge => c.purge now
  | .contains _ | .keys | .size => c

/-- The cache that the turn leaves. -/
def Turn.after (t : Turn κ α) : Cache κ α := t.op.after t.now t.before

/-- The cache after operations, one after the other, each at its time. -/
def afterAll (c : Cache κ α) (ops : List (Time × Op κ α)) : Cache κ α :=
  ops.foldl (fun c op => op.2.after op.1 c) c

/-- The turns of operations, one after the other. -/
def turns (c : Cache κ α) : List (Time × Op κ α) → List (Turn κ α)
  | [] => []
  | (now, op) :: ops => ⟨c, now, op⟩ :: turns (op.after now c) ops

theorem afterAll_append_singleton (c : Cache κ α) (ops : List (Time × Op κ α)) (now : Time)
    (op : Op κ α) :
    c.afterAll (ops ++ [(now, op)]) = (⟨c.afterAll ops, now, op⟩ : Turn κ α).after := by
  rw [afterAll, List.foldl_append]
  rfl

theorem turns_append_singleton (c : Cache κ α) (ops : List (Time × Op κ α)) (now : Time)
    (op : Op κ α) :
    c.turns (ops ++ [(now, op)]) = c.turns ops ++ [⟨c.afterAll ops, now, op⟩] := by
  induction ops generalizing c with
  | nil => rfl
  | cons first ops ih =>
    have hrest := ih (first.2.after first.1 c)
    simp only [List.cons_append, turns, hrest]
    rfl

end Run

/-! ## Uses -/

section Uses

variable [DecidableEq κ] [BEq α]

/-- What a write of a value writes: nothing if an equal value is there. -/
def news? (c : Cache κ α) (k : κ) (v : α) : Option (κ × α) :=
  if c.peek? k == some v then none else some (k, v)

/-- The key and the value that the turn writes. A write or an update writes if that changes the
entry, and what is filled in is written if the key was absent. -/
def Turn.written? (t : Turn κ α) : Option (κ × α) :=
  match t.op with
  | .set k v => t.before.news? k v
  | .update k f => (f (t.before.peek? k)).bind (t.before.news? k)
  | .fill k v => if t.before.contains k then none else some (k, v)
  | _ => none

/-- The key that the turn uses: the one that it writes, or the one that it looks up and finds. -/
def Turn.used? (t : Turn κ α) : Option κ :=
  match t.op with
  | .get k => if t.before.contains k then some k else none
  | _ => t.written?.map (·.1)

/-- The operation removes the key by name, or all keys. -/
def Op.Removes (k : κ) : Op κ α → Prop
  | .remove l | .invalidate l => k = l
  | .purge => True
  | _ => False

instance (k : κ) (op : Op κ α) : Decidable (op.Removes k) := by
  cases op <;> unfold Op.Removes <;> infer_instance

/-- The capacity that the operation leaves. -/
def Op.capacity (n : Nat) : Op κ α → Nat
  | .resize capacity => max capacity 1
  | _ => n

/-- The keys as they would stand if there were room for all of them: the one that is used comes
first, and what is removed is gone. -/
def Turn.lineUp (t : Turn κ α) : List κ :=
  match t.used? with
  | some k => k :: t.before.keys.filter (· ≠ k)
  | none => t.before.keys.filter (¬ t.op.Removes ·)

end Uses

/-! ## What a turn does -/

section Effect

variable [DecidableEq κ] [BEq α] {c : Cache κ α} {k : κ} {v : α} {now : Time}

omit [BEq α] in
theorem contains_iff : c.contains k = true ↔ k ∈ c.keys := Table.get?_isSome_iff c.entries k

theorem Turn.capacity_after (t : Turn κ α) :
    t.after.capacity = t.op.capacity t.before.capacity := by
  obtain ⟨c, now, op⟩ := t
  cases op with
  | set k v =>
    simp only [after, Op.after, Op.capacity, set]
    split <;> rfl
  | get k =>
    simp only [after, Op.after, Op.capacity, get]
    split <;> rfl
  | remove k =>
    simp only [after, Op.after, Op.capacity, remove]
    split <;> rfl
  | fill k v =>
    simp only [after, Op.after, Op.capacity, fill]
    split <;> rfl
  | update k f =>
    simp only [after, Op.after, Op.capacity, update, set]
    split
    · split <;> rfl
    · rfl
  | resize capacity =>
    simp only [after, Op.after, Op.capacity, resize]
    split <;> rfl
  | invalidate k | purge => rfl
  | contains k | keys | size => rfl

/-- What a turn does to the entries, whatever the operation. -/
inductive Turn.Effect (t : Turn κ α) : Prop
  /-- A value is written, and what there is no room for is pushed out. -/
  | writes (k : κ) (v : α) (written : t.written? = some (k, v)) (used : t.used? = some k)
      (entries : t.after.entries = (t.before.entries.put k v).take t.after.capacity)
  /-- A key is looked up and found. -/
  | finds (k : κ) (v : α) (unwritten : t.written? = none) (used : t.used? = some k)
      (found : t.before.peek? k = some v) (entries : t.after.entries = t.before.entries.put k v)
      (capacity : t.after.capacity = t.before.capacity)
  /-- What the operation removes is gone, and nothing else changes. -/
  | removes (unwritten : t.written? = none) (unused : t.used? = none)
      (entries : t.after.entries = t.before.entries.filter fun e => ¬ t.op.Removes e.1)
      (capacity : t.after.capacity = t.before.capacity)
  /-- What there is no room for under another capacity is pushed out. -/
  | resizes (capacity : Nat) (op : t.op = .resize capacity)
      (entries : t.after.entries = t.before.entries.take t.after.capacity)

omit [BEq α] in
theorem filter_of_not_removes {op : Op κ α} (h : ∀ k, ¬ op.Removes k) (t : Table κ α) :
    t.filter (fun e => ¬ op.Removes e.1) = t := by
  rw [List.filter_eq_self]
  intro e _
  simpa using h e.1

/-- A turn that does nothing does nothing else. -/
theorem effect_of_unchanged {t : Turn κ α} (hremoves : ∀ l, ¬ t.op.Removes l)
    (hwritten : t.written? = none) (hused : t.used? = none) (h : t.after = t.before) :
    t.Effect := by
  refine .removes hwritten hused ?_ (by rw [h])
  rw [h, filter_of_not_removes hremoves]

/-- **A value is written** unless an equal one is there, and then nothing is done. -/
theorem effect_of_set {t : Turn κ α} (hremoves : ∀ l, ¬ t.op.Removes l)
    (hused : t.used? = t.written?.map (·.1)) (hwritten : t.written? = t.before.news? k v)
    (h : t.after = (t.before.set t.now k v).2) : t.Effect := by
  by_cases heq : t.before.peek? k == some v
  · have hnone : t.written? = none := by rw [hwritten, news?, if_pos heq]
    refine effect_of_unchanged hremoves hnone (by rw [hused, hnone, Option.map_none]) ?_
    rw [h, set, if_pos heq]
  · have hsome : t.written? = some (k, v) := by rw [hwritten, news?, if_neg heq]
    refine .writes k v hsome (by rw [hused, hsome, Option.map_some]) ?_
    rw [h, set, if_neg heq]
    rfl

/-- **A key is removed**, whether it was there or not. -/
theorem effect_of_erase {t : Turn κ α} (hremoves : ∀ l, t.op.Removes l ↔ l = k)
    (hwritten : t.written? = none) (hused : t.used? = none)
    (hcapacity : t.after.capacity = t.before.capacity)
    (h : t.after.entries = t.before.entries.erase k) : t.Effect := by
  refine .removes hwritten hused ?_ hcapacity
  rw [h]
  refine List.filter_congr fun e _ => ?_
  simp only [hremoves, ne_eq]

omit [BEq α] in
theorem erase_of_peek?_eq_none (h : c.peek? k = none) : c.entries.erase k = c.entries := by
  refine List.filter_eq_self.mpr fun e he => ?_
  have hnot : k ∉ c.keys := by
    rw [← contains_iff, contains, h]
    simp
  have hne : e.1 ≠ k := by
    rintro rfl
    exact hnot (List.mem_map_of_mem he)
  simpa using hne

/-- **What a turn does** is one of four things. -/
theorem Turn.effect (t : Turn κ α) : t.Effect := by
  have hcapacity := t.capacity_after
  obtain ⟨c, now, op⟩ := t
  cases op with
  | contains k | keys | size => exact effect_of_unchanged (fun _ h => h) rfl rfl rfl
  | set k v => exact effect_of_set (fun _ h => h) rfl rfl rfl
  | update k f =>
    cases hf : f (c.peek? k) with
    | none =>
      refine effect_of_unchanged (fun _ h => h) ?_ ?_ ?_
      · simp only [written?, hf, Option.bind_none]
      · simp only [used?, written?, hf, Option.bind_none, Option.map_none]
      · simp only [after, Op.after, Cache.update, hf]
    | some v =>
      refine effect_of_set (k := k) (v := v) (fun _ h => h) rfl ?_ ?_
      · simp only [written?, hf, Option.bind_some]
      · simp only [after, Op.after, Cache.update, hf]
  | fill k v =>
    by_cases hk : c.contains k
    · have hwritten : (⟨c, now, .fill k v⟩ : Turn κ α).written? = none := if_pos hk
      refine effect_of_unchanged (fun _ h => h) hwritten ?_ (if_pos hk)
      simp only [used?, hwritten, Option.map_none]
    · have hwritten : (⟨c, now, .fill k v⟩ : Turn κ α).written? = some (k, v) := if_neg hk
      refine .writes k v hwritten ?_ ?_
      · simp only [used?, hwritten, Option.map_some]
      · rw [hcapacity]
        simp only [after, Op.after, Cache.fill, if_neg hk]
        rfl
  | get k =>
    cases hk : c.peek? k with
    | none =>
      refine effect_of_unchanged (fun _ h => h) rfl ?_ ?_
      · simp [used?, Cache.contains, hk]
      · simp only [after, Op.after, Cache.get, hk]
    | some v =>
      refine .finds k v rfl ?_ hk ?_ hcapacity
      · simp [used?, Cache.contains, hk]
      · simp only [after, Op.after, Cache.get, hk]
  | remove k =>
    refine effect_of_erase (fun _ => Iff.rfl) rfl rfl hcapacity ?_
    cases hk : c.peek? k with
    | some v => simp only [after, Op.after, Cache.remove, hk, Cache.touch]
    | none =>
      -- nothing is under the key, so that nothing is taken out either
      simp only [after, Op.after, Cache.remove, hk, erase_of_peek?_eq_none hk]
  | invalidate k => exact effect_of_erase (fun _ => Iff.rfl) rfl rfl rfl rfl
  | purge =>
    refine .removes rfl rfl ?_ rfl
    simp [after, Op.after, Cache.purge, Cache.touch, Op.Removes]
  | resize capacity =>
    refine .resizes capacity rfl ?_
    rw [hcapacity]
    simp only [after, Op.after, Cache.resize, Op.capacity]
    split <;> rfl

end Effect

/-! ## Sound caches -/

section Sound

variable [DecidableEq κ]

/-- What every run keeps: no key comes twice, there are no more than the capacity allows, and it
allows one at least. -/
structure Sound (c : Cache κ α) : Prop where
  nodup : c.keys.Nodup
  length_le : c.keys.length ≤ c.capacity
  pos : 1 ≤ c.capacity

omit [DecidableEq κ] in
theorem sound_empty (capacity : Nat) : (empty capacity : Cache κ α).Sound where
  nodup := List.nodup_nil
  length_le := Nat.zero_le _
  pos := Nat.le_max_right _ _

variable [BEq α]

theorem Turn.lineUp_of_used {t : Turn κ α} {k : κ} (h : t.used? = some k) :
    t.lineUp = k :: t.before.keys.filter (· ≠ k) := by rw [lineUp, h]

theorem Turn.lineUp_of_unused {t : Turn κ α} (h : t.used? = none) :
    t.lineUp = t.before.keys.filter (¬ t.op.Removes ·) := by rw [lineUp, h]

/-- A key that is there only moves, so that the line-up is no longer than before. -/
theorem length_lineUp_le {t : Turn κ α} {k : κ} (h : t.used? = some k) (hk : k ∈ t.before.keys) :
    t.lineUp.length ≤ t.before.keys.length := by
  have hlt : (t.before.keys.filter (· ≠ k)).length < t.before.keys.length := by
    rw [List.length_filter_lt_length_iff_exists]
    exact ⟨k, hk, by simp⟩
  rw [Turn.lineUp_of_used h, List.length_cons]
  omega

/-- **The keys after a turn** are those of the line-up for which there is room. -/
theorem Turn.keys_after {t : Turn κ α} (hbefore : t.before.Sound) :
    t.after.keys = t.lineUp.take t.after.capacity := by
  obtain ⟨k, v, -, hused, hentries⟩ | ⟨k, v, -, hused, hfound, hentries, hcapacity⟩ |
    ⟨-, hunused, hentries, hcapacity⟩ | ⟨n, hop, hentries⟩ := t.effect
  · rw [keys, hentries, List.map_take, Table.keys_put, lineUp_of_used hused]
    rfl
  · have hkeys : t.after.keys = t.lineUp := by
      rw [keys, hentries, Table.keys_put, lineUp_of_used hused]
      rfl
    have hmem : k ∈ t.before.keys := contains_iff.mp (by rw [contains, hfound]; rfl)
    have hle := length_lineUp_le hused hmem
    have hroom := hbefore.length_le
    rw [hkeys, List.take_of_length_le (by omega)]
  · have hkeys : t.after.keys = t.lineUp := by
      rw [keys, hentries, lineUp_of_unused hunused, keys, List.filter_map]
      rfl
    have hle : t.lineUp.length ≤ t.before.keys.length := by
      rw [lineUp_of_unused hunused]
      exact List.length_filter_le _ _
    have hroom := hbefore.length_le
    rw [hkeys, List.take_of_length_le (by omega)]
  · have hunused : t.used? = none := by simp only [used?, written?, hop, Option.map_none]
    have hlineUp : t.lineUp = t.before.keys := by
      rw [lineUp_of_unused hunused, List.filter_eq_self]
      intro l _
      simp [hop, Op.Removes]
    rw [keys, hentries, List.map_take, hlineUp]
    rfl

theorem Turn.nodup_lineUp {t : Turn κ α} (hbefore : t.before.Sound) : t.lineUp.Nodup := by
  cases hused : t.used? with
  | some k =>
    rw [lineUp_of_used hused, List.nodup_cons]
    exact ⟨by simp, hbefore.nodup.filter _⟩
  | none =>
    rw [lineUp_of_unused hused]
    exact hbefore.nodup.filter _

theorem Sound.after {t : Turn κ α} (hbefore : t.before.Sound) : t.after.Sound where
  nodup := by
    rw [Turn.keys_after hbefore]
    exact (Turn.nodup_lineUp hbefore).sublist (List.take_sublist _ _)
  length_le := by
    rw [Turn.keys_after hbefore]
    exact List.length_take_le _ _
  pos := by
    rw [t.capacity_after]
    cases t.op with
    | resize n => exact Nat.le_max_right _ _
    | _ => exact hbefore.pos

/-- **Every run of a cache** that begins empty leads to a sound one. -/
theorem sound_afterAll (capacity : Nat) (ops : List (Time × Op κ α)) :
    ((empty capacity).afterAll ops).Sound := by
  induction ops using List.reverseRecOn with
  | nil => exact sound_empty capacity
  | append_singleton ops op ih =>
    rw [afterAll_append_singleton]
    exact Sound.after (t := ⟨_, op.1, op.2⟩) ih

end Sound

end FlagReplica.Cache
