import FlagReplica.Proofs.Cache.Run
import Mathlib.Data.List.Pairwise
/-!
# The cache forgets what was not used for longest

Nothing in a cache says when a key was used: there is the order of the entries, and no more. So when
a key was last used is read off the history (`lastUse`), the turns that were taken since the cache
was empty, and so is the value that was last written (`lastWritten`). `LeastRecent` says what the
cache has to do with its history, and above all that its keys stand in the order of their last uses.

A turn keeps this for a simple reason. Its line-up is in the order of the last uses, this turn
included (`LeastRecent.pairwise_lineUp`), and what stays is the first part of the line-up. So a key
that leaves though it is not removed was used before all of those that stay (`evicts_of_left`).
-/

namespace FlagReplica

variable {κ α : Type} [DecidableEq κ]

namespace Table

/-- What is found among the entries of some keys is found among all of them. -/
theorem get?_of_get?_filter {t : Table κ α} {p : κ → Bool} {k : κ} {v : α}
    (h : get? (t.filter fun e => p e.1) k = some v) : t.get? k = some v := by
  induction t with
  | nil => exact h
  | cons e t ih =>
    rw [get?_cons]
    cases hp : p e.1 with
    | true =>
      rw [List.filter_cons, if_pos hp, get?_cons] at h
      by_cases he : e.1 = k
      · rwa [if_pos he] at h ⊢
      · rw [if_neg he] at h ⊢
        exact ih h
    | false =>
      -- an entry that is left out is not the one that was found
      rw [List.filter_cons, if_neg (by simp [hp])] at h
      have hkeys : k ∈ (t.filter fun e => p e.1).map (·.1) := by
        rw [← get?_isSome_iff, h, Option.isSome_some]
      obtain ⟨e', he', rfl⟩ := List.mem_map.mp hkeys
      have hne : e.1 ≠ e'.1 := by
        intro heq
        have htrue := (List.mem_filter.mp he').2
        rw [← heq, hp] at htrue
        exact absurd htrue Bool.false_ne_true
      rw [if_neg hne]
      exact ih h

end Table

namespace Cache

variable [BEq α]

/-! ## The history of a key -/

/-- When a key was last used: the number of the last turn that uses it. -/
def lastUse (past : List (Turn κ α)) (k : κ) : Option Nat :=
  (past.zipIdx.filter (·.1.used? = some k)).getLast?.map (·.2)

/-- The value that was last written to a key. -/
def lastWritten (past : List (Turn κ α)) (k : κ) : Option α :=
  ((past.filterMap (·.written?)).filter (·.1 = k)).getLast?.map (·.2)

/-- The capacity after a history that began with another one. -/
def capacityAfter (capacity : Nat) (past : List (Turn κ α)) : Nat :=
  past.foldl (fun n t => t.op.capacity n) (max capacity 1)

/-- Both keys were used, and the first one after the second. -/
def UsedAfter (past : List (Turn κ α)) (k l : κ) : Prop :=
  ∃ i j, lastUse past k = some i ∧ lastUse past l = some j ∧ j < i

/-- What a cache has to do with its history. -/
structure LeastRecent (capacity : Nat) (past : List (Turn κ α)) (c : Cache κ α) : Prop where
  capacity_eq : c.capacity = capacityAfter capacity past
  nodup : c.keys.Nodup
  length_le : c.keys.length ≤ c.capacity
  mem_keys : ∀ k, k ∈ c.keys ↔ c.contains k = true
  used : ∀ k ∈ c.keys, (lastUse past k).isSome
  /-- The keys are in the order of their last uses, the latest one first. -/
  decreasing : c.keys.Pairwise (UsedAfter past)
  value : ∀ k v, c.peek? k = some v → lastWritten past k = some v

/-- The turn brings more than there is room for: another key into a full cache, or a capacity that
is too small. -/
def Turn.Overflows (t : Turn κ α) : Prop :=
  (∃ k v, t.written? = some (k, v) ∧ t.before.contains k = false ∧
    t.before.size = t.before.capacity) ∨
  ∃ capacity, t.op = .resize capacity ∧ max capacity 1 < t.before.size

/-- The turn pushes a key out: it brings too much, what stays was used after that key, and there is
not one place that is left empty. -/
structure Turn.Evicts (past : List (Turn κ α)) (t : Turn κ α) (k : κ) : Prop where
  overflows : t.Overflows
  size_after : t.after.size = t.after.capacity
  oldest : ∀ l ∈ t.after.keys, UsedAfter (past ++ [t]) l k

section History

variable {past : List (Turn κ α)} {t : Turn κ α} {k l : κ} {v : α}

theorem lastUse_append_singleton :
    lastUse (past ++ [t]) k = if t.used? = some k then some past.length else lastUse past k := by
  unfold lastUse
  rw [List.zipIdx_append, List.filter_append]
  by_cases h : t.used? = some k
  · simp [h]
  · simp [h]

theorem lastWritten_of_written (h : t.written? = some (k, v)) :
    lastWritten (past ++ [t]) k = some v := by
  simp [lastWritten, List.filterMap_append, List.filter_append, h]

theorem lastWritten_of_ne (h : ∀ v, t.written? ≠ some (k, v)) :
    lastWritten (past ++ [t]) k = lastWritten past k := by
  unfold lastWritten
  rw [List.filterMap_append, List.filter_append]
  cases hw : t.written? with
  | none => simp [hw]
  | some e =>
    have hne : e.1 ≠ k := by
      rintro rfl
      exact h e.2 hw
    simp [hw, hne]

/-- A use is one of the turns that were taken. -/
theorem lt_length_of_lastUse {n : Nat} (h : lastUse past k = some n) : n < past.length := by
  obtain ⟨e, he, rfl⟩ := Option.map_eq_some_iff.mp h
  have hmem : e ∈ past.zipIdx := (List.mem_filter.mp (List.mem_of_getLast? he)).1
  have hlt := List.snd_lt_of_mem_zipIdx hmem
  omega

/-- A use of a third key changes nothing between two. -/
theorem UsedAfter.append_singleton (h : UsedAfter past k l) (hk : t.used? ≠ some k)
    (hl : t.used? ≠ some l) : UsedAfter (past ++ [t]) k l := by
  obtain ⟨i, j, hi, hj, hlt⟩ := h
  refine ⟨i, j, ?_, ?_, hlt⟩
  · rw [lastUse_append_singleton, if_neg hk, hi]
  · rw [lastUse_append_singleton, if_neg hl, hj]

/-- The key of the last turn is used after every other. -/
theorem usedAfter_of_used (hk : t.used? = some k) (hl : (lastUse past l).isSome) (hne : l ≠ k) :
    UsedAfter (past ++ [t]) k l := by
  obtain ⟨j, hj⟩ := Option.isSome_iff_exists.mp hl
  have hlt := lt_length_of_lastUse hj
  refine ⟨past.length, j, ?_, ?_, hlt⟩
  · rw [lastUse_append_singleton, if_pos hk]
  · rw [lastUse_append_singleton, if_neg ?_, hj]
    rw [hk]
    exact fun h => hne (Option.some.inj h).symm

end History

/-! ## One turn -/

omit [DecidableEq κ] in
/-- What does not come first came after it, and so the first part is full. -/
theorem of_notMem_take {R : κ → κ → Prop} {ks : List κ} {n : Nat} {k : κ} (h : ks.Pairwise R)
    (hk : k ∈ ks) (hn : k ∉ ks.take n) :
    (ks.take n).length = n ∧ n < ks.length ∧ ∀ l ∈ ks.take n, R l k := by
  have hlt : n < ks.length := by
    by_contra hle
    rw [List.take_of_length_le (by omega)] at hn
    exact hn hk
  have hdrop : k ∈ ks.drop n := by
    rw [← List.take_append_drop n ks, List.mem_append] at hk
    exact hk.resolve_left hn
  rw [← List.take_append_drop n ks, List.pairwise_append] at h
  refine ⟨?_, hlt, fun l hl => h.2.2 l hl k hdrop⟩
  rw [List.length_take]
  omega

section Step

variable {capacity : Nat} {past : List (Turn κ α)} {t : Turn κ α}

theorem LeastRecent.sound (h : LeastRecent capacity past t.before)
    (hpos : 1 ≤ t.before.capacity) : t.before.Sound := ⟨h.nodup, h.length_le, hpos⟩

/-- What is in the line-up was used. -/
theorem LeastRecent.used_lineUp (h : LeastRecent capacity past t.before) :
    ∀ k ∈ t.lineUp, (lastUse (past ++ [t]) k).isSome := by
  intro k hk
  rw [lastUse_append_singleton]
  split
  · rfl
  · next hunused =>
    refine h.used k ?_
    cases hused : t.used? with
    | some l =>
      rw [Turn.lineUp_of_used hused, List.mem_cons] at hk
      rcases hk with rfl | hk
      · exact absurd hused hunused
      · exact (List.mem_filter.mp hk).1
    | none =>
      rw [Turn.lineUp_of_unused hused] at hk
      exact (List.mem_filter.mp hk).1

/-- **The line-up of a turn is in the order of the last uses**, the use of this turn among them. -/
theorem LeastRecent.pairwise_lineUp (h : LeastRecent capacity past t.before) :
    t.lineUp.Pairwise (UsedAfter (past ++ [t])) := by
  cases hused : t.used? with
  | some k =>
    rw [Turn.lineUp_of_used hused, List.pairwise_cons]
    constructor
    · intro l hl
      obtain ⟨hl, hne⟩ := List.mem_filter.mp hl
      exact usedAfter_of_used hused (h.used l hl) (by simpa using hne)
    · refine (h.decreasing.filter _).imp_of_mem fun {l m} hl hm hlm => ?_
      have hother : ∀ l ∈ t.before.keys.filter (· ≠ k), t.used? ≠ some l := by
        intro l hl heq
        rw [hused, Option.some.injEq] at heq
        simp [heq] at hl
      exact hlm.append_singleton (hother l hl) (hother m hm)
  | none =>
    rw [Turn.lineUp_of_unused hused]
    refine (h.decreasing.filter _).imp fun hlm => ?_
    exact hlm.append_singleton (by simp [hused]) (by simp [hused])

/-- What is there after a turn was written by it, or was there before and was not written. -/
theorem LeastRecent.value_after (h : LeastRecent capacity past t.before) {k : κ} {v : α}
    (hv : t.after.peek? k = some v) : lastWritten (past ++ [t]) k = some v := by
  obtain ⟨l, w, hwritten, -, hentries⟩ | ⟨l, w, hunwritten, -, hfound, hentries, -⟩ |
    ⟨hunwritten, -, hentries, -⟩ | ⟨n, hop, hentries⟩ := t.effect
  · rw [peek?, hentries] at hv
    have hput := Table.get?_of_get?_take hv
    rw [Table.get?_put] at hput
    by_cases hl : k = l
    · rw [if_pos hl] at hput
      rw [lastWritten_of_written (by rw [hwritten, hl]), hput]
    · rw [if_neg hl] at hput
      rw [lastWritten_of_ne (by simp [hwritten, Ne.symm hl])]
      exact h.value k v hput
  · rw [lastWritten_of_ne (by simp [hunwritten])]
    rw [peek?, hentries, Table.get?_put] at hv
    refine h.value k v ?_
    by_cases hl : k = l
    · rw [if_pos hl] at hv
      rw [hl, hfound, hv]
    · rwa [if_neg hl] at hv
  · rw [lastWritten_of_ne (by simp [hunwritten])]
    rw [peek?, hentries] at hv
    exact h.value k v (Table.get?_of_get?_filter (p := fun l => ¬ t.op.Removes l) hv)
  · have hunwritten : t.written? = none := by simp only [Turn.written?, hop]
    rw [lastWritten_of_ne (by simp [hunwritten])]
    rw [peek?, hentries] at hv
    exact h.value k v (Table.get?_of_get?_take hv)

/-- **One turn** keeps a cache in agreement with its history. -/
theorem LeastRecent.after (h : LeastRecent capacity past t.before)
    (hpos : 1 ≤ t.before.capacity) : LeastRecent capacity (past ++ [t]) t.after := by
  have hkeys := Turn.keys_after (h.sound hpos)
  have hsound := (h.sound hpos).after
  refine ⟨?_, hsound.nodup, hsound.length_le, fun k => contains_iff.symm, ?_, ?_, ?_⟩
  · rw [capacityAfter, List.foldl_append, t.capacity_after, h.capacity_eq]
    rfl
  · intro k hk
    rw [hkeys] at hk
    exact h.used_lineUp k (List.mem_of_mem_take hk)
  · rw [hkeys]
    exact h.pairwise_lineUp.sublist (List.take_sublist _ _)
  · intro k v hv
    exact h.value_after hv

/-- A line-up that is too long comes from a turn that brings too much. -/
theorem Turn.overflows_of_lt (hbefore : t.before.Sound) (h : t.after.capacity < t.lineUp.length) :
    t.Overflows := by
  have hsize : t.before.size = t.before.keys.length := (List.length_map _).symm
  have hroom := hbefore.length_le
  obtain ⟨k, v, hwritten, hused, -⟩ | ⟨k, v, -, hused, hfound, -, hcapacity⟩ |
    ⟨-, hunused, -, hcapacity⟩ | ⟨n, hop, -⟩ := t.effect
  · have hcapacity : t.after.capacity = t.before.capacity := by
      rw [t.capacity_after]
      cases hop : t.op with
      | resize n => simp [written?, hop] at hwritten
      | _ => rfl
    have hk : k ∉ t.before.keys := by
      intro hk
      have hle := length_lineUp_le hused hk
      omega
    rw [lineUp_of_used hused, List.length_cons] at h
    have hfilter := List.length_filter_le (· ≠ k) t.before.keys
    refine .inl ⟨k, v, hwritten, ?_, by omega⟩
    rwa [← contains_iff, Bool.not_eq_true] at hk
  · -- a key that is found only moves
    have hk : k ∈ t.before.keys := contains_iff.mp (by rw [contains, hfound]; rfl)
    have hle := length_lineUp_le hused hk
    omega
  · rw [lineUp_of_unused hunused] at h
    have hfilter := List.length_filter_le (¬ t.op.Removes ·) t.before.keys
    omega
  · refine .inr ⟨n, hop, ?_⟩
    have hunused : t.used? = none := by simp only [used?, written?, hop, Option.map_none]
    rw [lineUp_of_unused hunused, t.capacity_after, hop, Op.capacity] at h
    have hfilter := List.length_filter_le (¬ t.op.Removes ·) t.before.keys
    rw [hop] at hfilter
    omega

/-- **A key that leaves is removed or pushed out.** -/
theorem evicts_of_left (h : LeastRecent capacity past t.before) (hpos : 1 ≤ t.before.capacity)
    {k : κ} (hk : k ∈ t.before.keys) (hleft : k ∉ t.after.keys) :
    t.op.Removes k ∨ t.Evicts past k := by
  have hkeys := Turn.keys_after (h.sound hpos)
  by_cases hline : k ∈ t.lineUp
  · right
    rw [hkeys] at hleft
    obtain ⟨hlength, hlt, hoverall⟩ := of_notMem_take h.pairwise_lineUp hline hleft
    refine ⟨Turn.overflows_of_lt (h.sound hpos) hlt, ?_, ?_⟩
    · rw [← hlength, ← hkeys, size, keys, List.length_map]
    · rwa [hkeys]
  · left
    cases hused : t.used? with
    | some l =>
      rw [Turn.lineUp_of_used hused] at hline
      by_cases hl : k = l <;> simp [hl, hk] at hline
    | none =>
      rw [Turn.lineUp_of_unused hused] at hline
      simpa [hk] using hline

end Step

/-! ## Every run -/

/-- **What every run leads to** agrees with the history of the run. -/
theorem leastRecent_afterAll (capacity : Nat) (ops : List (Time × Op κ α)) :
    LeastRecent capacity ((empty capacity).turns ops) ((empty capacity).afterAll ops) := by
  induction ops using List.reverseRecOn with
  | nil =>
    refine ⟨rfl, List.nodup_nil, Nat.zero_le _, fun k => contains_iff.symm, ?_, List.Pairwise.nil,
      ?_⟩
    · intro k hk
      exact absurd hk List.not_mem_nil
    · intro k v hv
      cases hv
  | append_singleton ops op ih =>
    rw [turns_append_singleton, afterAll_append_singleton]
    exact LeastRecent.after (t := ⟨_, op.1, op.2⟩) ih (sound_afterAll capacity ops).pos

/-- **The cache forgets what was not used for longest.** After every run its keys are in the order
of their last uses and hold what was last written to them; and a turn after it takes away what it
removes, and else only what it has no room for, the keys that were not used for longest. -/
theorem forgets_least_recent (capacity : Nat) (ops : List (Time × Op κ α)) :
    let c := (empty capacity : Cache κ α).afterAll ops
    let past := (empty capacity : Cache κ α).turns ops
    LeastRecent capacity past c ∧
      ∀ (now : Time) (op : Op κ α), let t : Turn κ α := ⟨c, now, op⟩
        ∀ k ∈ c.keys, k ∉ t.after.keys → op.Removes k ∨ t.Evicts past k := by
  intro c past
  have hrecent := leastRecent_afterAll capacity ops
  refine ⟨hrecent, ?_⟩
  intro now op t k hk hleft
  exact evicts_of_left (t := t) hrecent (sound_afterAll capacity ops).pos hk hleft

/-- A look-up keeps a key from being pushed out, and an equal write does not. -/
theorem forgets_least_recent_rewritten :
    let c := (empty 2 : Cache Nat Nat).afterAll
      [(1, .set 1 10), (2, .set 2 20), (3, .get 1), (4, .set 2 20)]
    let past := (empty 2 : Cache Nat Nat).turns
      [(1, .set 1 10), (2, .set 2 20), (3, .get 1), (4, .set 2 20)]
    let t : Turn Nat Nat := ⟨c, 5, .set 3 30⟩
    c.keys = [1, 2] ∧ t.after.keys = [3, 1] ∧ t.Evicts past 2 := by
  intro c past t
  have hkeys : c.keys = [1, 2] := by decide
  have hafter : t.after.keys = [3, 1] := by decide
  have hleft := (forgets_least_recent 2 _).2 5 (.set 3 30) 2 (by decide : 2 ∈ c.keys)
    (by decide : 2 ∉ t.after.keys)
  exact ⟨hkeys, hafter, hleft.resolve_left fun hremoves => hremoves⟩

end Cache

end FlagReplica
