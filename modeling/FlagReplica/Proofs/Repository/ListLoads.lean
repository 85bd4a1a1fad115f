import FlagReplica.Proofs.Repository.Newest
import FlagReplica.Proofs.Repository.Refresh
/-!
# Lists that come in any order

A list that is not authoritative is stored unless it is outdated, and for that it is as new as its
newest member. If it is stored, so is each thing in it that is newer than what is there. If not,
nothing in it is looked at. So lists that come in any order do not all converge to the newest of
each thing: one that is discarded for its other members takes a newer thing with it, or one that is
held nowhere (`Repository.discards_newer`).

What does hold is that the lists that were taken converge, and that everything they have of an
identifier counts (`Repository.leavesNewest_of_lists`). A list is taken if it is newer than all that
came before it (`taken`), discarded ones included, since none of these is newer than the last that
was taken. What is found is then the newest of all lists just where nothing newer was discarded.
-/

namespace FlagReplica

open Record (identifier version)

variable {α : Type} [Record α] {lists : List (List α)} {xs : List α} {x : α} {id : String}

/-! ## Lists that are taken -/

/-- The list is newer than others, as lists go by their newest member. -/
def IsNewerList (xs : List α) (lists : List (List α)) : Prop :=
  ∀ ys ∈ lists, newest (ys.map version) < newest (xs.map version)

instance (xs : List α) (lists : List (List α)) : Decidable (IsNewerList xs lists) :=
  inferInstanceAs (Decidable (∀ ys ∈ lists, newest (ys.map version) < newest (xs.map version)))

/-- Of lists that come one after the other, those that are newer than all before them. -/
def taken (lists : List (List α)) : List (List α) :=
  (List.range lists.length).filterMap fun n =>
    lists[n]?.filter fun xs => IsNewerList xs (lists.take n)

theorem taken_append_singleton (lists : List (List α)) (xs : List α) :
    taken (lists ++ [xs]) = taken lists ++ if IsNewerList xs lists then [xs] else [] := by
  have hbefore : (List.range lists.length).filterMap (fun n =>
      (lists ++ [xs])[n]?.filter fun ys => IsNewerList ys ((lists ++ [xs]).take n)) =
        taken lists := by
    refine List.filterMap_congr fun n hn => ?_
    have hlt : n < lists.length := List.mem_range.mp hn
    rw [List.getElem?_append_left hlt, List.take_append_of_le_length hlt.le]
  have hlast : (lists ++ [xs])[lists.length]?.filter
      (fun ys => IsNewerList ys ((lists ++ [xs]).take lists.length)) =
        if IsNewerList xs lists then some xs else none := by
    rw [List.getElem?_concat_length, List.take_left, Option.filter_some]
    simp only [decide_eq_true_eq]
  rw [taken, List.length_append, List.length_singleton, List.range_succ, List.filterMap_append,
    hbefore, List.filterMap_cons, List.filterMap_nil, hlast]
  by_cases hnewer : IsNewerList xs lists
  · rw [if_pos hnewer, if_pos hnewer]
  · rw [if_neg hnewer, if_neg hnewer]

theorem mem_flatten_of_taken (h : x ∈ (taken lists).flatten) : x ∈ lists.flatten := by
  obtain ⟨xs, hxs, hx⟩ := List.mem_flatten.mp h
  obtain ⟨n, -, hn⟩ := List.mem_filterMap.mp hxs
  have hmem : xs ∈ lists := List.mem_of_getElem? (Option.eq_some_of_filter_eq_some hn)
  exact List.mem_flatten.mpr ⟨xs, hmem, hx⟩

/-- The thing is the newest of its identifier that the lists have. -/
def IsNewestOf (lists : List (List α)) (id : String) (x : α) : Prop :=
  x ∈ lists.flatten ∧ identifier x = id ∧
    ∀ y ∈ lists.flatten, identifier y = id → version y ≤ version x

/-- Nothing of an identifier that was discarded is newer than what was taken of it. -/
def NothingLost (lists : List (List α)) (id : String) : Prop :=
  ∀ y ∈ lists.flatten, identifier y = id →
    ∃ x ∈ (taken lists).flatten, identifier x = id ∧ version y ≤ version x

/-- **The newest of the lists taken is the newest of all** just where nothing newer was
discarded. -/
theorem FirstNewest.isNewestOf_iff {x? : Option α} (h : FirstNewest (taken lists).flatten id x?)
    (hid : id ∈ lists.flatten.map identifier) :
    (∃ x, x? = some x ∧ IsNewestOf lists id x) ↔ NothingLost lists id := by
  constructor
  · rintro ⟨x, rfl, -, hx, hle⟩ y hy hyid
    exact ⟨x, h.mem.1, hx, hle y hy hyid⟩
  · intro hlost
    obtain ⟨y, hy, hyid⟩ := List.mem_map.mp hid
    obtain ⟨z, hz, hzid, -⟩ := hlost y hy hyid
    cases x? with
    | none => exact absurd hzid (h z hz)
    | some x =>
      obtain ⟨hx, hxid⟩ := h.mem
      refine ⟨x, rfl, mem_flatten_of_taken hx, hxid, fun y hy hyid => ?_⟩
      obtain ⟨z, hz, hzid, hle⟩ := hlost y hy hyid
      exact Int64.le_trans hle (h.le hz hzid)

/-! ## What lists do to the contents -/

namespace Contents

open Repository

variable {t : String → Option α} {held : Contents} {env : String}

/-- What is held is what lists left that came one after the other: single things are the newest of
the lists taken, and a list is outdated if one of all lists is as new. -/
structure Loaded (env : String) (lists : List (List α)) (held : Contents) : Prop where
  singles : Singles (newestOf (taken lists).flatten) held
  outdated_iff : ∀ v, (held (listKey α env)).any (fun e => v ≤ e.version) = true ↔
    ∃ ys ∈ lists, v ≤ newest (ys.map version)

theorem loaded_nothing : Loaded env ([] : List (List α)) nothing where
  singles _ := rfl
  outdated_iff v := by simp [nothing]

/-- Single writes one after the other are accepted one after the other. -/
theorem Singles.forM_setOne [LawfulRecord α] (h : Singles t held) (xs : List α) :
    Singles (xs.foldl accept t) ((xs.forM fun x => Contents.setOne x false).run held).state := by
  induction xs generalizing t held with
  | nil => exact h
  | cons x xs ih =>
    rw [state_forM_cons]
    exact ih (h.setOne x)

/-- A list that is not outdated is held, and then each thing in it is written. -/
theorem state_setAll_of_not_outdated
    (h : ¬ isOutdated false (held (listKey α env)) (newest (xs.map version))) :
    ((setAll env xs false).run held).state = ((xs.forM fun x => setOne x false).run
      (Function.update held (listKey α env) (some (Record.toListing xs)))).state := by
  rw [setAll, run_read, if_neg h]
  rfl

/-- One that is leaves everything as it is. -/
theorem state_setAll_of_outdated
    (h : isOutdated false (held (listKey α env)) (newest (xs.map version))) :
    ((setAll env xs false).run held).state = held := by
  rw [setAll, run_read, if_pos h]
  rfl

/-- **One more list** is taken if it is newer than all before it, and else discarded. -/
theorem Loaded.setAll [LawfulRecord α] (h : Loaded env lists held) (xs : List α) :
    Loaded env (lists ++ [xs]) ((Contents.setAll env xs false).run held).state := by
  have houtdated : isOutdated false (held (listKey α env)) (newest (xs.map version)) = true ↔
      ¬ IsNewerList xs lists := by
    rw [isOutdated, Bool.not_false, Bool.true_and, h.outdated_iff]
    simp [IsNewerList, Int64.not_lt]
  by_cases hnewer : IsNewerList xs lists
  · rw [state_setAll_of_not_outdated fun hold => houtdated.mp hold hnewer]
    refine ⟨?_, fun v => ?_⟩
    · have hsingles : Singles (newestOf (taken lists).flatten)
          (Function.update held (listKey α env) (some (Record.toListing xs))) := by
        intro id
        rw [Function.update_of_ne (entityKey_ne_listKey α α id env)]
        exact h.singles id
      rw [taken_append_singleton, if_pos hnewer, List.flatten_append, List.flatten_singleton,
        newestOf, List.foldl_append]
      exact hsingles.forM_setOne xs
    · have hkeeps : Keeps (Set.range (listKey α)) (xs.forM fun x => setOne x false) :=
        .forM xs fun _ _ => keeps_setOne (entityKey_notMem_range_listKey _) false
      rw [hkeeps _ ⟨env, rfl⟩, Function.update_self, Option.any_some,
        LawfulRecord.version_toListing, decide_eq_true_iff]
      constructor
      · intro hle
        exact ⟨xs, by simp, hle⟩
      · -- the list is newer than all before it, so what one of them outdates it outdates too
        rintro ⟨ys, hys, hle⟩
        rcases List.mem_append.mp hys with hys | hys
        · exact Int64.le_trans hle (Int64.le_of_lt (hnewer ys hys))
        · rwa [← List.mem_singleton.mp hys]
  · rw [state_setAll_of_outdated (houtdated.mpr hnewer)]
    refine ⟨?_, fun v => ?_⟩
    · rw [taken_append_singleton, if_neg hnewer, List.append_nil]
      exact h.singles
    · rw [h.outdated_iff]
      constructor
      · rintro ⟨ys, hys, hle⟩
        exact ⟨ys, List.mem_append_left _ hys, hle⟩
      · rintro ⟨ys, hys, hle⟩
        rcases List.mem_append.mp hys with hys | hys
        · exact ⟨ys, hys, hle⟩
        · -- what the discarded list outdates is outdated by the one it was discarded for
          rw [List.mem_singleton.mp hys] at hle
          simp only [IsNewerList, not_forall] at hnewer
          obtain ⟨zs, hzs, hold⟩ := hnewer
          exact ⟨zs, hzs, Int64.le_trans hle (Int64.not_lt.mp hold)⟩

/-- **Lists that come one after the other.** -/
theorem loaded_of_lists [LawfulRecord α] (env : String) (lists : List (List α)) :
    Loaded env lists ((lists.mapM fun xs =>
      Except.ok (ε := Error) <$> Contents.setAll env xs false).run nothing).state := by
  induction lists using List.reverseRecOn with
  | nil => exact loaded_nothing
  | append_singleton lists xs ih =>
    have hlast := ih.setAll xs
    rw [(run_mapM_append _ lists [xs] nothing).1]
    simpa using hlast

end Contents

/-! ## What lists leave in a repository -/

namespace Repository

/-- Stores lists of an environment one after the other, none of them as authoritative. At flags each
is stored by `setFlags`, and at segments by `setSegments`. -/
def storeLists (env : String) (lists : List (List α)) :
    RepositoryAction (List (Except Error Unit)) :=
  lists.mapM fun xs => (setAll env xs false).run

/-- What lists leave that came one after the other. -/
structure LeavesNewest (lists : List (List α)) (r : Repository) : Prop where
  /-- Under an identifier the first of the newest is found that the lists taken have of it. -/
  found : ∀ id, FirstNewest (taken lists).flatten id ((get id).run r).value
  /-- An identifier that the lists have is found, and as new as any of them has it, just if nothing
  newer of it was discarded. -/
  newest_iff : ∀ id ∈ lists.flatten.map identifier,
    (∃ x, ((get id).run r).value = some x ∧ IsNewestOf lists id x) ↔ NothingLost lists id

theorem Fresh.leavesNewest [LawfulRecord α] {r : Repository} (hr : r.Fresh) (env : String)
    (lists : List (List α)) (hroom : r.HasRoom ((storeLists env lists).run r).notices) :
    LeavesNewest lists ((storeLists env lists).run r).state := by
  let room := keysWritten ((storeLists env lists).run r).notices
  have hfollows : Follows room (storeLists env lists) _ :=
    .mapM lists fun xs _ => followsWrite_setAll env xs false
  obtain ⟨-, hstored, hafter⟩ := hfollows.run_eq (hr.faithful hroom) subset_rfl
  have hloaded := Contents.loaded_of_lists env lists
  rw [← hr.stored?_eq, ← hstored] at hloaded
  have hfound (id : String) : FirstNewest (taken lists).flatten id
      ((get id).run ((storeLists env lists).run r).state).value := by
    rw [hafter.value_get, hloaded.singles.find?_eq]
    exact firstNewest_newestOf _ id
  exact ⟨hfound, fun id hid => (hfound id).isNewestOf_iff hid⟩

/-- **Lists converge to the newest of what was taken.** Let lists of flags be stored for an
environment on a new repository, over a store of its own or with room for the keys that are written,
in any order and none of them as authoritative. In the end the first of the newest is found that the
lists taken have of an identifier. It is the newest that all lists have of it just where no
discarded list had a newer one. The same holds of segments. -/
theorem leavesNewest_of_lists (env : String) (r : Repository) (hr : r.Fresh) :
    (∀ lists : List (List Flag), r.HasRoom ((storeLists env lists).run r).notices →
      LeavesNewest lists ((storeLists env lists).run r).state) ∧
    ∀ lists : List (List Segment), r.HasRoom ((storeLists env lists).run r).notices →
      LeavesNewest lists ((storeLists env lists).run r).state :=
  ⟨fun lists hroom => hr.leavesNewest env lists hroom,
    fun lists hroom => hr.leavesNewest env lists hroom⟩

/-- Lists of which the second comes late. -/
def lateLists : List (List Segment) := [
  [bareSegment "a" 5, bareSegment "b" 1], [bareSegment "a" 4, bareSegment "b" 1],
  [bareSegment "b" 3, bareSegment "a" 6]]

/-- The second list is discarded, and nothing newer with it. -/
theorem leavesNewest_of_lists_lateLists :
    (keysWritten ((storeLists "e" lateLists).run (.empty 3)).notices).card = 3 ∧
      taken lateLists = [[bareSegment "a" 5, bareSegment "b" 1],
        [bareSegment "b" 3, bareSegment "a" 6]] ∧
      NothingLost lateLists "b" ∧
      ∃ s, ((getSegment "b").run ((storeLists "e" lateLists).run (.empty 3)).state).value = some s ∧
        IsNewestOf lateLists "b" s := by
  have hcard : (keysWritten ((storeLists "e" lateLists).run (.empty 3)).notices).card = 3 := by
    decide +kernel
  have hlost : NothingLost lateLists "b" := by
    unfold NothingLost
    decide
  have h := (leavesNewest_of_lists "e" (.empty 3) (.empty 3)).2 lateLists fun _ => hcard.le
  exact ⟨hcard, by decide, hlost, (h.newest_iff "b" (by decide)).mpr hlost⟩

/-- **A discarded list takes a newer flag with it**, and one that is found nowhere else. The list
before it is newer on account of another flag. -/
theorem discards_newer :
    let flag (feature : String) (version : Int64) : Flag := { bareFlag feature with version }
    let lists := [[flag "a" 5, flag "b" 1], [flag "b" 3, flag "c" 4]]
    let r' := ((storeLists "e" lists).run (.empty 4)).state
    (∀ fs ∈ lists, (fs.map (·.feature)).Nodup) ∧
      (keysWritten ((storeLists "e" lists).run (.empty 4)).notices).card = 3 ∧
      ((getFlag "b").run r').value = some (flag "b" 1) ∧ ((getFlag "c").run r').value = none ∧
      ¬ ∃ f, ((getFlag "b").run r').value = some f ∧ IsNewestOf lists "b" f := by
  intro flag lists r'
  have hfound : ((getFlag "b").run r').value = some (flag "b" 1) := by decide +kernel
  refine ⟨by decide, by decide +kernel, hfound, by decide +kernel, ?_⟩
  rintro ⟨f, hf, -, -, hnewest⟩
  obtain rfl : flag "b" 1 = f := Option.some.inj (hfound.symm.trans hf)
  have hle : (3 : Int64) ≤ 1 := hnewest (flag "b" 3) (by decide) rfl
  exact absurd hle (by decide)

end Repository

end FlagReplica
