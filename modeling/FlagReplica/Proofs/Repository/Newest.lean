import FlagReplica.Proofs.Repository.Agreement
import FlagReplica.Proofs.Repository.StoreIndependence
/-!
# Writes converge to the newest

Single writes may come in any order, late, twice and in between reads and merges: what is held of an
identifier is at each point the newest that was written of it, and of those of one version the first
(`FirstNewest`). A write is told exactly if it raises the greatest version of its identifier
(`raises`). So once equal versions of an identifier stand for equal things, the order in which they
were written is forgotten (`HoldsNewest.of_updates`).

The guard compares a write with what is held, and what is held is by induction the newest so far.
That a merge, a read or a write of the other kind leaves single things alone is said once for all of
them by `Contents.Accepts`.
-/

namespace FlagReplica

open Record (kind identifier version)

variable {α β : Type} [Record α] {ws vs : List α} {x y : α} {id : String}

/-! ## The newest of what was written -/

/-- The first of those that have the greatest version among the things of an identifier, if there
are any. -/
def FirstNewest (ws : List α) (id : String) : Option α → Prop
  | none => ∀ y ∈ ws, identifier y ≠ id
  | some x => ∃ before after, ws = before ++ x :: after ∧ identifier x = id ∧
      (∀ y ∈ before, identifier y = id → version y < version x) ∧
      ∀ y ∈ after, identifier y = id → version y ≤ version x

/-- The thing is newer than all others of its identifier. -/
def IsNewer (x : α) (ws : List α) : Prop :=
  ∀ y ∈ ws, identifier y = identifier x → version y < version x

instance (x : α) (ws : List α) : Decidable (IsNewer x ws) :=
  inferInstanceAs (Decidable (∀ y ∈ ws, identifier y = identifier x → version y < version x))

/-- How many of some writes, one after the other, raise the greatest version of an identifier, which
the first one of the identifier does as well. -/
def raises (ws : List α) (id : String) : Nat :=
  (List.range ws.length).countP fun n =>
    ws[n]?.any fun x => identifier x = id ∧ IsNewer x (ws.take n)

/-- Things of one identifier and version are the same. -/
def VersionsAgree (ws : List α) : Prop :=
  ∀ x ∈ ws, ∀ y ∈ ws, identifier x = identifier y → version x = version y → x = y

namespace FirstNewest

theorem mem (h : FirstNewest ws id (some x)) : x ∈ ws ∧ identifier x = id := by
  obtain ⟨before, after, rfl, hid, -, -⟩ := h
  exact ⟨List.mem_append_right before List.mem_cons_self, hid⟩

theorem le (h : FirstNewest ws id (some x)) (hy : y ∈ ws) (hid : identifier y = id) :
    version y ≤ version x := by
  obtain ⟨before, after, rfl, -, hbefore, hafter⟩ := h
  rcases List.mem_append.mp hy with hy | hy
  · exact Int64.le_of_lt (hbefore y hy hid)
  · rcases List.mem_cons.mp hy with rfl | hy
    · exact Int64.le_refl _
    · exact hafter y hy hid

/-- **The order of writes is forgotten** where things of one identifier and version are the same. -/
theorem eq_of_mem_iff {x? y? : Option α} (hx : FirstNewest ws id x?) (hy : FirstNewest vs id y?)
    (hagree : VersionsAgree ws) (hmem : ∀ z, z ∈ vs ↔ z ∈ ws) : x? = y? := by
  cases x? with
  | none =>
    cases y? with
    | none => rfl
    | some y => exact absurd hy.mem.2 (hx y ((hmem y).mp hy.mem.1))
  | some x =>
    cases y? with
    | none => exact absurd hx.mem.2 (hy x ((hmem x).mpr hx.mem.1))
    | some y =>
      obtain ⟨hxw, hxid⟩ := hx.mem
      obtain ⟨hyv, hyid⟩ := hy.mem
      have hyw : y ∈ ws := (hmem y).mp hyv
      have hversion : version x = version y :=
        Int64.le_antisymm (hy.le ((hmem x).mpr hxw) hxid) (hx.le hyw hyid)
      rw [hagree x hxw y hyw (hxid.trans hyid.symm) hversion]

end FirstNewest

/-! ## Accepting writes -/

/-- What is there after some writes, each of which is accepted unless it is outdated. -/
def newestOf (ws : List α) : String → Option α := ws.foldl accept fun _ => none

theorem newestOf_append_singleton (ws : List α) (x : α) :
    newestOf (ws ++ [x]) = accept (newestOf ws) x := List.foldl_append

/-- **What is accepted is the newest.** -/
theorem firstNewest_newestOf (ws : List α) (id : String) :
    FirstNewest ws id (newestOf ws id) := by
  induction ws using List.reverseRecOn with
  | nil => exact fun y hy => absurd hy List.not_mem_nil
  | append_singleton ws x ih =>
    rw [newestOf_append_singleton]
    by_cases hid : id = identifier x
    · subst hid
      rw [accept_self]
      cases ht : newestOf ws (identifier x) with
      | none =>
        rw [ht] at ih
        exact ⟨ws, [], rfl, rfl, fun y hy hyid => absurd hyid (ih y hy),
          fun y hy => absurd hy List.not_mem_nil⟩
      | some y =>
        rw [ht] at ih
        rw [Option.any_some]
        by_cases hle : version x ≤ version y
        · rw [if_pos (decide_eq_true hle)]
          obtain ⟨before, after, rfl, hyid, hbefore, hafter⟩ := ih
          refine ⟨before, after ++ [x], by simp, hyid, hbefore, fun z hz hzid => ?_⟩
          rcases List.mem_append.mp hz with hz | hz
          · exact hafter z hz hzid
          · rw [List.mem_singleton.mp hz]
            exact hle
        · rw [if_neg (by simpa using hle)]
          refine ⟨ws, [], rfl, rfl, fun z hz hzid => ?_, fun y hy => absurd hy List.not_mem_nil⟩
          exact Int64.lt_of_le_of_lt (ih.le hz hzid) (Int64.not_le.mp hle)
    · rw [accept_of_ne _ hid]
      have hother : ∀ y ∈ [x], identifier y ≠ id := by
        intro y hy
        rw [List.mem_singleton.mp hy]
        exact Ne.symm hid
      cases ht : newestOf ws id with
      | none =>
        rw [ht] at ih
        intro y hy
        rcases List.mem_append.mp hy with hy | hy
        · exact ih y hy
        · exact hother y hy
      | some y =>
        rw [ht] at ih
        obtain ⟨before, after, rfl, hyid, hbefore, hafter⟩ := ih
        refine ⟨before, after ++ [x], by simp, hyid, hbefore, fun z hz hzid => ?_⟩
        rcases List.mem_append.mp hz with hz | hz
        · exact hafter z hz hzid
        · exact absurd hzid (hother z hz)

/-- A write is outdated exactly if it is not newer than what was written before. -/
theorem any_newestOf_iff (ws : List α) (x : α) :
    (newestOf ws (identifier x)).any (version x ≤ version ·) = true ↔ ¬ IsNewer x ws := by
  have h := firstNewest_newestOf ws (identifier x)
  cases ht : newestOf ws (identifier x) with
  | none =>
    rw [ht] at h
    have hnewer : IsNewer x ws := fun y hy hid => absurd hid (h y hy)
    simp [hnewer]
  | some z =>
    rw [ht] at h
    rw [Option.any_some, decide_eq_true_iff]
    constructor
    · intro hle hnewer
      obtain ⟨hz, hid⟩ := h.mem
      exact Int64.not_le.mpr (hnewer z hz hid) hle
    · intro hold
      by_contra hlt
      refine hold fun y hy hid => ?_
      exact Int64.lt_of_le_of_lt (h.le hy hid) (Int64.not_le.mp hlt)

theorem raises_append_singleton (ws : List α) (x : α) (id : String) :
    raises (ws ++ [x]) id =
      raises ws id + if identifier x = id ∧ IsNewer x ws then 1 else 0 := by
  have hbefore : (List.range ws.length).countP (fun n => (ws ++ [x])[n]?.any fun y =>
        identifier y = id ∧ IsNewer y ((ws ++ [x]).take n)) = raises ws id := by
    refine List.countP_congr fun n hn => ?_
    have hlt : n < ws.length := List.mem_range.mp hn
    rw [List.getElem?_append_left hlt, List.take_append_of_le_length hlt.le]
  have hlast : (ws ++ [x])[ws.length]? = some x := by simp
  rw [raises, List.length_append, List.length_singleton, List.range_succ, List.countP_append,
    hbefore, List.countP_singleton, hlast, Option.any_some, List.take_left]
  simp only [decide_eq_true_eq]

/-! ## What single writes do -/

namespace Contents

open Repository

variable {t : String → Option α} {held : Contents}

/-- The action accepts one thing, or none: single things are afterwards as the table says that has
it, and the thing is told to be stored if it was not outdated. -/
def Accepts (x? : Option α) (a : ContentsAction β) : Prop :=
  ∀ (t : String → Option α) (held : Contents), Singles t held →
    Singles (x?.elim t (accept t)) (a.run held).state ∧
    ∀ id, (a.run held).notices.count (.changed (.stored (kind α) id)) =
      x?.elim 0 fun x =>
        if identifier x = id ∧ ¬ (t (identifier x)).any (version x ≤ version ·) then 1 else 0

theorem Accepts.map {γ : Type} {x? : Option α} {a : ContentsAction β} (f : β → γ)
    (h : Accepts x? a) : Accepts x? (f <$> a) := by
  intro t held ht
  rw [Action.run_map]
  exact h t held ht

/-- What leaves single things alone and tells of none accepts none. -/
theorem accepts_none {a : ContentsAction β} (hkeeps : Keeps (Set.range (entityKey α)) a)
    (hsilent : ∀ held id, .changed (.stored (kind α) id) ∉ (a.run held).notices) :
    Accepts (none : Option α) a :=
  fun _ held ht => ⟨ht.of_keeps hkeeps, fun id => List.count_eq_zero.mpr (hsilent held id)⟩

/-- A write that is not outdated is a change. -/
theorem notices_setOne [LawfulRecord α] (ht : Singles t held) (x : α) :
    ((setOne x false).run held).notices =
      if (t (identifier x)).any (version x ≤ version ·) then
        [.log .trace "discarding write of outdated version"]
      else [.changed (.stored (kind α) (identifier x))] := by
  rw [setOne, run_read, ht.isOutdated_eq]
  by_cases hold : (t (identifier x)).any (version x ≤ version ·)
  · rw [if_pos hold, if_pos hold]
    rfl
  · have hchange : held (entityKey α (identifier x)) ≠ some (Record.toEntry x) := by
      intro hsame
      rw [ht, Option.map_eq_some_iff] at hsame
      obtain ⟨y, hy, hentry⟩ := hsame
      have hversion : version y = version x := by
        rw [← LawfulRecord.version_toEntry, hentry, LawfulRecord.version_toEntry]
      -- what is held is of the same version, so the write would be outdated
      rw [hy, Option.any_some, hversion] at hold
      exact hold (decide_eq_true (Int64.le_refl _))
    rw [if_neg hold, if_neg hold]
    exact if_neg hchange

/-- **A single write accepts its thing.** -/
theorem accepts_setOne [LawfulRecord α] (x : α) : Accepts (some x) (setOne x false) := by
  intro t held ht
  refine ⟨ht.setOne x, fun id => ?_⟩
  rw [notices_setOne ht, Option.elim_some]
  by_cases hold : (t (identifier x)).any (version x ≤ version ·)
  · rw [if_pos hold, if_neg fun h => h.2 hold]
    rfl
  · rw [if_neg hold, List.count_singleton]
    by_cases hid : identifier x = id
    · subst hid
      simp [hold]
    · simp [hid]

/-- **A merge accepts nothing**, for it writes a list. -/
theorem accepts_merge {γ : Type} [Record γ] (env : String) (x : γ) :
    Accepts (none : Option α) (merge env x) := by
  refine accepts_none (keeps_merge ?_ x) fun held id => ?_
  · rintro ⟨id, h⟩
    exact entityKey_ne_listKey α γ id env h
  · rw [merge, run_read]
    cases merged? x (held.listed env) with
    | none => exact List.not_mem_nil
    | some xs =>
      change _ ∉ if _ then [] else [_]
      split <;> simp

/-- A single write of another kind accepts nothing. -/
theorem accepts_setOne_of_kind {γ : Type} [Record γ] (hkind : kind α ≠ kind γ) (x : γ) :
    Accepts (none : Option α) (setOne x false) := by
  refine accepts_none (keeps_setOne ?_ false) fun held id => ?_
  · rintro ⟨id, h⟩
    exact entityKey_ne_of_kind hkind id (identifier x) h
  · rw [setOne, run_read]
    split
    · simp [log]
    · change _ ∉ if _ then [] else [_]
      split <;> simp [hkind]

end Contents

/-! ## Runs -/

namespace Repository

open Contents (Accepts)

/-- The call reads, stores a single thing unless it is outdated, or merges. -/
def Call.IsUpdate : Call α → Prop
  | .get _ => True
  | .getAll _ => True
  | .set _ initial => initial = false
  | .merge _ _ => True
  | _ => False

/-- The thing that a call stores by itself. -/
def Call.set? : Call α → Option α
  | .set x _ => some x
  | _ => none

namespace AnyCall

/-- The call reads, stores a single thing unless it is outdated, or merges. -/
def IsUpdate : AnyCall → Prop
  | .flag call => call.IsUpdate
  | .segment call => call.IsUpdate

/-- The flag that a call stores by itself. -/
def setFlag? : AnyCall → Option Flag
  | .flag call => call.set?
  | .segment _ => none

/-- The segment that a call stores by itself. -/
def setSegment? : AnyCall → Option Segment
  | .flag _ => none
  | .segment call => call.set?

end AnyCall

/-- A read accepts nothing. -/
theorem accepts_read (f : Contents → β) :
    Accepts (none : Option α) (f <$> Action.get : ContentsAction β) :=
  (Contents.accepts_none (fun _ _ _ => rfl) fun _ _ => List.not_mem_nil).map f

theorem Call.accepts [LawfulRecord α] {call : Call α} (h : call.IsUpdate) :
    Accepts call.set? call.runOnContents := by
  cases call with
  | get id => exact accepts_read _
  | getAll env => exact accepts_read _
  | set x initial =>
    obtain rfl : initial = false := h
    exact (Contents.accepts_setOne x).map _
  | merge env x => exact (Contents.accepts_merge env x).map _
  | setAll _ _ _ => exact h.elim
  | delete _ => exact h.elim
  | deleteFrom _ _ => exact h.elim

theorem Call.accepts_of_kind {γ : Type} [Record γ] (hkind : kind α ≠ kind γ) {call : Call γ}
    (h : call.IsUpdate) : Accepts (none : Option α) call.runOnContents := by
  cases call with
  | get id => exact accepts_read _
  | getAll env => exact accepts_read _
  | set x initial =>
    obtain rfl : initial = false := h
    exact (Contents.accepts_setOne_of_kind hkind x).map _
  | merge env x => exact (Contents.accepts_merge env x).map _
  | setAll _ _ _ => exact h.elim
  | delete _ => exact h.elim
  | deleteFrom _ _ => exact h.elim

theorem AnyCall.accepts_flag {call : AnyCall} (h : call.IsUpdate) :
    Accepts call.setFlag? call.runOnContents := by
  cases call with
  | flag call => exact (Call.accepts h).map _
  | segment call => exact (Call.accepts_of_kind (by decide) h).map _

theorem AnyCall.accepts_segment {call : AnyCall} (h : call.IsUpdate) :
    Accepts call.setSegment? call.runOnContents := by
  cases call with
  | flag call => exact (Call.accepts_of_kind (by decide) h).map _
  | segment call => exact (Call.accepts h).map _

/-- **After some calls** single things are the newest of what the calls stored, and as often as one
was newer than all before, that was told. -/
theorem singles_of_accepts (set? : AnyCall → Option α) {calls : List AnyCall}
    (h : ∀ call ∈ calls, Accepts (set? call) call.runOnContents) :
    Contents.Singles (newestOf (calls.filterMap set?))
        ((calls.mapM AnyCall.runOnContents).run Contents.nothing).state ∧
      ∀ id, ((calls.mapM AnyCall.runOnContents).run Contents.nothing).notices.count
        (.changed (.stored (kind α) id)) = raises (calls.filterMap set?) id := by
  induction calls using List.reverseRecOn with
  | nil => exact ⟨fun _ => rfl, fun _ => rfl⟩
  | append_singleton calls call ih =>
    obtain ⟨hsingles, htold⟩ := ih fun c hc => h c (List.mem_append_left _ hc)
    obtain ⟨hsingles', htold'⟩ := h call (by simp) _ _ hsingles
    obtain ⟨hstate, hnotices⟩ :=
      run_mapM_append AnyCall.runOnContents calls [call] Contents.nothing
    rw [hstate, hnotices, List.filterMap_append]
    simp only [List.mapM_cons, List.mapM_nil, Action.run_bind, Action.run_pure, List.append_nil,
      List.count_append, htold, htold']
    cases hset : set? call with
    | none =>
      rw [hset] at hsingles'
      simpa [hset] using hsingles'
    | some x =>
      rw [hset] at hsingles'
      rw [List.filterMap_cons_some hset, List.filterMap_nil, newestOf_append_singleton]
      refine ⟨hsingles', fun id => ?_⟩
      rw [raises_append_singleton, Option.elim_some]
      simp only [any_newestOf_iff, not_not]

/-- A repository holds the newest of what was written, and as often as the greatest version of an
identifier was raised, that was told. -/
structure HoldsNewest (ws : List α) (o : Outcome Notice Repository β) : Prop where
  newest : ∀ id, FirstNewest ws id ((get id).run o.state).value
  told : ∀ id, o.notices.count (.changed (.stored (kind α) id)) = raises ws id

variable {r : Repository} {room : Finset String}

/-- **What holds of contents holds of a repository** that has room for what is written. -/
theorem holdsNewest_of_accepts [LawfulRecord α] (set? : AnyCall → Option α)
    {calls : List AnyCall} (hr : r.Faithful room) (hnothing : r.stored? = Contents.nothing)
    (hw : keysWritten ((answers calls).run r).notices ⊆ room)
    (h : ∀ call ∈ calls, Accepts (set? call) call.runOnContents) :
    HoldsNewest (calls.filterMap set?) ((answers calls).run r) := by
  have hfollows : Follows room (answers calls) (calls.mapM AnyCall.runOnContents) :=
    .mapM calls fun call _ => call.follows
  obtain ⟨hseen, hafter⟩ := hfollows r hr hw
  rw [hnothing] at hseen
  have hstored : ((answers calls).run r).state.stored? =
      ((calls.mapM AnyCall.runOnContents).run Contents.nothing).state :=
    congrArg (fun o => o.state) hseen
  have hnotices : ((answers calls).run r).notices =
      ((calls.mapM AnyCall.runOnContents).run Contents.nothing).notices :=
    congrArg (fun o => o.notices) hseen
  obtain ⟨hsingles, htold⟩ := singles_of_accepts set? h
  refine ⟨fun id => ?_, fun id => ?_⟩
  · rw [hafter.value_get, hstored, hsingles.find?_eq id]
    exact firstNewest_newestOf _ id
  · rw [hnotices]
    exact htold id

/-- **Single writes converge to the newest**, in any order. On a new repository, over a store of its
own or with room for the keys that are written, after each of some updates the first of the newest
things that were stored of an identifier is found under it, and it was told once for each that was
newer than all before. If the same updates come in another order, on whatever such repository, the
same is found in the end, as long as things of one identifier and version are the same. -/
theorem holdsNewest_of_updates (r : Repository) (calls : List AnyCall) (hr : r.Fresh)
    (hcalls : ∀ call ∈ calls, call.IsUpdate)
    (hroom : r.HasRoom ((answers calls).run r).notices) :
    (∀ done, done <+: calls →
      HoldsNewest (done.filterMap AnyCall.setFlag?) ((answers done).run r) ∧
      HoldsNewest (done.filterMap AnyCall.setSegment?) ((answers done).run r)) ∧
    ∀ (r' : Repository) (calls' : List AnyCall), r'.Fresh → calls'.Perm calls →
      r'.HasRoom ((answers calls').run r').notices →
      (VersionsAgree (calls.filterMap AnyCall.setFlag?) → ∀ id,
        ((getFlag id).run ((answers calls').run r').state).value =
          ((getFlag id).run ((answers calls).run r).state).value) ∧
      (VersionsAgree (calls.filterMap AnyCall.setSegment?) → ∀ id,
        ((getSegment id).run ((answers calls').run r').state).value =
          ((getSegment id).run ((answers calls).run r).state).value) := by
  have hholds : ∀ {r : Repository} {calls done : List AnyCall}, r.Fresh →
      (∀ call ∈ calls, call.IsUpdate) → r.HasRoom ((answers calls).run r).notices →
      done <+: calls → HoldsNewest (done.filterMap AnyCall.setFlag?) ((answers done).run r) ∧
        HoldsNewest (done.filterMap AnyCall.setSegment?) ((answers done).run r) := by
    intro r calls done hr hcalls hroom hdone
    have hfaithful := hr.faithful hroom
    have hw := keysWritten_answers_subset hdone r
    have hupdate : ∀ call ∈ done, call.IsUpdate := fun call hcall => hcalls call (hdone.subset hcall)
    exact ⟨holdsNewest_of_accepts _ hfaithful hr.stored?_eq hw fun call hcall =>
        AnyCall.accepts_flag (hupdate call hcall),
      holdsNewest_of_accepts _ hfaithful hr.stored?_eq hw fun call hcall =>
        AnyCall.accepts_segment (hupdate call hcall)⟩
  refine ⟨fun done hdone => hholds hr hcalls hroom hdone, ?_⟩
  intro r' calls' hr' hperm hroom'
  have hcalls' : ∀ call ∈ calls', call.IsUpdate :=
    fun call hcall => hcalls call (hperm.mem_iff.mp hcall)
  obtain ⟨hflags, hsegments⟩ := hholds hr hcalls hroom List.prefix_rfl
  obtain ⟨hflags', hsegments'⟩ := hholds hr' hcalls' hroom' List.prefix_rfl
  refine ⟨fun hagree id => ?_, fun hagree id => ?_⟩
  · exact ((hflags.newest id).eq_of_mem_iff (hflags'.newest id) hagree
      fun _ => (hperm.filterMap _).mem_iff).symm
  · exact ((hsegments.newest id).eq_of_mem_iff (hsegments'.newest id) hagree
      fun _ => (hperm.filterMap _).mem_iff).symm

/-- Updates of which one comes late, with a read and a merge in between. -/
def lateCalls : List AnyCall := [
  .segment (.set (bareSegment "a" 2) false), .segment (.get "a"),
  .segment (.set (bareSegment "a" 1) false), .segment (.merge "e" (bareSegment "a" 0)),
  .segment (.set (bareSegment "a" 3) false), .segment (.set (bareSegment "b" (-1)) false)]

/-- Three keys are written. A store and the order turned around change nothing of what is found. -/
theorem holdsNewest_lateCalls :
    (keysWritten ((answers lateCalls).run (.empty 3)).notices).card = 3 ∧
    HoldsNewest (lateCalls.filterMap AnyCall.setSegment?) ((answers lateCalls).run (.empty 3)) ∧
    ∀ id, ((getSegment id).run ((answers lateCalls.reverse).run (.withStore 1 .empty)).state).value =
      ((getSegment id).run ((answers lateCalls).run (.empty 3)).state).value := by
  have hcard : (keysWritten ((answers lateCalls).run (.empty 3)).notices).card = 3 := by
    decide +kernel
  have hupdates : ∀ call ∈ lateCalls, call.IsUpdate := by
    simp [lateCalls, AnyCall.IsUpdate, Call.IsUpdate]
  have hagree : VersionsAgree (lateCalls.filterMap AnyCall.setSegment?) := by
    unfold VersionsAgree
    decide
  have h := holdsNewest_of_updates (.empty 3) lateCalls (.empty 3) hupdates fun _ => hcard.le
  obtain ⟨hholds, horder⟩ := h
  have hreversed := horder (.withStore 1 .empty) lateCalls.reverse (.withStore 1)
    (List.reverse_perm lateCalls) fun hstore => absurd hstore (Option.some_ne_none _)
  exact ⟨hcard, (hholds lateCalls List.prefix_rfl).2, hreversed.2 hagree⟩

end Repository

end FlagReplica
