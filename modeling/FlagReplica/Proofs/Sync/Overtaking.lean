import FlagReplica.Proofs.Sync.Convergence
import FlagReplica.Proofs.Sync.Moves
/-!
# Polling beside a stream

Polling and streaming write to one repository, and what either stores was answered some steps
before. A flag that was fetched is stored only if it is newer than what is there. A list that was
pulled is stored as it is, so a list that others have overtaken, by storing flags while it was on
its way, can take a flag back to an older version or drop it. `Exchange.goes_back` is a run in which
it does: polling asks before the stream connects, and is answered, but stores the answer only after
the stream has followed an event.

Nothing else goes back. At a source that deletes nothing and whose versions do not fall, no other
move makes any flag older, whatever happened before (`Exchange.never_older`). What carries this is
that everything held and everything on its way is `Behind` the source, and that a list that was not
overtaken is ahead of what is held.
-/

namespace FlagReplica

open Relation (ReflTransGen)

/-! ## Tables that are behind others -/

/-- Whatever the first table has, the second has as new. -/
def Behind (t u : FlagTable) : Prop :=
  ∀ id f, t id = some f → ∃ g, u id = some g ∧ f.version ≤ g.version

namespace Behind

variable {t u v : FlagTable} {f : Flag}

theorem refl (t : FlagTable) : Behind t t := fun _ f hf => ⟨f, hf, Int64.le_refl _⟩

theorem trans (htu : Behind t u) (huv : Behind u v) : Behind t v := by
  intro id f hf
  obtain ⟨g, hg, hfg⟩ := htu id f hf
  obtain ⟨k, hk, hgk⟩ := huv id g hg
  exact ⟨k, hk, Int64.le_trans hfg hgk⟩

/-- A flag that replaces an older one leaves the table ahead. -/
theorem put (h : ∀ g, t f.feature = some g → g.version ≤ f.version) :
    Behind t (Function.update t f.feature (some f)) := by
  intro id g hg
  by_cases hid : id = f.feature
  · subst hid
    exact ⟨f, Function.update_self _ _ _, h g hg⟩
  · exact ⟨g, by rw [Function.update_of_ne hid, hg], Int64.le_refl _⟩

/-- **A flag that is accepted leaves the table ahead**, for one that is not newer is not. -/
theorem accept (t : FlagTable) (f : Flag) : Behind t (accept t f) := by
  unfold FlagReplica.accept
  split
  · exact refl t
  · next hnew =>
    refine put fun g hg => ?_
    have hname : t (Record.identifier f) = some g := hg
    rw [hname, Option.any_some, decide_eq_true_iff] at hnew
    exact Int64.le_of_lt (Int64.not_le.mp hnew)

/-- What is accepted stays behind what the table and the flag are behind. -/
theorem of_accept (ht : Behind t u) (hf : ∃ g, u f.feature = some g ∧ f.version ≤ g.version) :
    Behind (FlagReplica.accept t f) u := by
  intro id g hg
  by_cases hid : id = Record.identifier f
  · subst hid
    rw [accept_self] at hg
    split at hg
    · exact ht _ g hg
    · cases hg
      exact hf
  · rw [accept_of_ne t hid] at hg
    exact ht id g hg

end Behind

/-! ## Steps -/

/-- A list of flags that was answered and is not stored yet. -/
structure PendingList where
  flags : List Flag
  /-- Whether others have stored flags since. -/
  overtaken : Bool
  deriving DecidableEq

/-- A synchronizer with its source, and the answers that are on their way. -/
structure Exchange where
  /-- The flags of the control plane, by identifier. -/
  source : FlagTable
  synchronizer : Synchronizer
  lists : Puller → Option PendingList
  /-- A flag that was answered and is not stored yet. -/
  flag : Option Flag
  /-- The notices given, oldest first. -/
  told : List Notice

/-- Whether the move stores flags. -/
def Move.storesFlags : Move → Bool
  | .flagsPulled _ (.ok _) => true
  | .flagFetched (.ok _) => true
  | _ => false

/-- Whether the move ends the flags' half of someone's pull. -/
def Move.endsPullOf (who : Puller) : Move → Bool
  | .flagsPulled who' _ => who' = who
  | _ => false

namespace Exchange

/-- A synchronizer at its start, before anything is asked for. -/
def start (config : SyncConfig) (hasConnector : Bool) (source : FlagTable) (r : Repository) :
    Exchange :=
  ⟨source, .initial config hasConnector r, fun _ => none, none, []⟩

/-- The lists that are on their way after a move. -/
def listsAfter (x : Exchange) (m : Move) (who : Puller) : Option PendingList :=
  if m.endsPullOf who then none
  else (x.lists who).map fun l => { l with overtaken := l.overtaken || m.storesFlags }

/-- The exchange after a move. -/
def after (x : Exchange) (m : Move) (a : SyncAction Unit) : Exchange where
  source := x.source
  synchronizer := (a.run x.synchronizer).state
  lists := x.listsAfter m
  flag := match m with
    | .flagFetched _ => none
    | _ => x.flag
  told := x.told ++ (a.run x.synchronizer).notices

/-- The move brings what was answered. Sessions are granted for one environment, and no deletion of
a flag is announced, for there is none. -/
def carries (env : String) (x : Exchange) : Move → Bool
  | .authenticated (.ok session) => session.environment = env
  | .flagsPulled who (.ok fs) => (x.lists who).map (·.flags) = some fs
  | .flagFetched (.ok f) => x.flag = some f
  | .received (.event e) => e.domain ≠ .flag || e.event ≠ .delete
  | _ => true

/-- The move stores a list that others have overtaken. -/
def storesOvertaken (x : Exchange) : Move → Bool
  | .flagsPulled who (.ok _) => (x.lists who).any (·.overtaken)
  | _ => false

/-- The move stores no list that others have overtaken. -/
def isCalm (x : Exchange) (m : Move) : Bool := !x.storesOvertaken m

/-- A step of an exchange, with moves of a sort. The control plane answers at one moment, and what
it answered is stored by a move that may come at any later one. -/
inductive Step (env : String) (sort : Exchange → Move → Bool) (x : Exchange) : Exchange → Prop
  /-- A flag is put at the source. It is not older than the one in its place. -/
  | put {f : Flag} (h : ∀ g, x.source f.feature = some g → g.version ≤ f.version) :
      Step env sort x { x with source := Function.update x.source f.feature (some f) }
  /-- A pull is answered with all the flags of the source as it is now. -/
  | listed {who : Puller} {session : Session} {segments : Half} {fs : List Flag}
      (hpull : x.synchronizer.pulling? who = some (session, ⟨.asked, segments⟩))
      (hnone : x.lists who = none) (h : Lists x.source fs) :
      Step env sort x { x with lists := Function.update x.lists who (some ⟨fs, false⟩) }
  /-- A flag that was asked for is answered from the source as it is now. -/
  | answered {session : Session} {id : String} {f : Flag}
      (hstream : x.synchronizer.stream = .fetching session .flag id) (hnone : x.flag = none)
      (h : x.source id = some f) : Step env sort x { x with flag := some f }
  | moved {m : Move} {a : SyncAction Unit} (hact : x.synchronizer.act? m = some a)
      (hcarries : x.carries env m) (hsort : sort x m) : Step env sort x (x.after m a)

variable {env : String} {room : Finset String} {sort : Exchange → Move → Bool}
  {x y : Exchange} {t : FlagTable} {m : Move} {a : SyncAction Unit} {who : Puller}

/-- Steps with moves of one sort are steps with moves of any that has them. -/
theorem Step.mono {sort' : Exchange → Move → Bool} (h : Step env sort x y)
    (hsort : ∀ x m, sort x m → sort' x m) : Step env sort' x y := by
  cases h with
  | put h => exact .put h
  | listed hpull hnone h => exact .listed hpull hnone h
  | answered hstream hnone h => exact .answered hstream hnone h
  | moved hact hcarries hm => exact .moved hact hcarries (hsort _ _ hm)

theorem told_after (x : Exchange) (m : Move) (a : SyncAction Unit) :
    (x.after m a).told = x.told ++ (a.run x.synchronizer).notices := rfl

theorem grantsIn_of_carries (h : x.carries env m) : m.GrantsIn env := by
  unfold Move.GrantsIn
  split
  · exact of_decide_eq_true h
  · trivial

/-- A list that a move stores was on its way. -/
theorem list_of_carries {fs : List Flag} (h : x.carries env (.flagsPulled who (.ok fs))) :
    ∃ l, x.lists who = some l ∧ l.flags = fs :=
  Option.map_eq_some_iff.mp (of_decide_eq_true h)

/-! ## What is held and what is on its way -/

/-- What is held and what is on its way is behind the source, and what is held is behind a list that
was not overtaken. -/
structure InOrder (x : Exchange) (t : FlagTable) : Prop where
  keyed : x.source.Keyed
  held : Behind t x.source
  list : ∀ who l, x.lists who = some l → (l.flags.map (·.feature)).Nodup ∧
    Behind (byName l.flags) x.source ∧ (l.overtaken = false → Behind t (byName l.flags))
  flag : ∀ f, x.flag = some f → ∃ g, x.source f.feature = some g ∧ f.version ≤ g.version

/-- The table after a move. -/
def tableAfter (t : FlagTable) : Move → FlagTable
  | .flagsPulled _ (.ok fs) => byName fs
  | .flagFetched (.ok f) => accept t f
  | _ => t

theorem tableAfter_of_not_storesFlags (h : m.storesFlags = false) : tableAfter t m = t := by
  unfold tableAfter
  split
  · cases h
  · cases h
  · rfl

/-- A list that is on its way after a move was so before, and if it is not overtaken then no flags
were stored. -/
theorem of_listsAfter {l : PendingList} (h : x.listsAfter m who = some l) :
    ∃ l', x.lists who = some l' ∧ l'.flags = l.flags ∧
      (l.overtaken = false → l'.overtaken = false ∧ m.storesFlags = false) := by
  unfold listsAfter at h
  split at h
  · cases h
  · obtain ⟨l', hl', rfl⟩ := Option.map_eq_some_iff.mp h
    exact ⟨l', hl', rfl, Bool.or_eq_false_iff.mp⟩

namespace InOrder

theorem put {f : Flag} (h : x.InOrder t)
    (hf : ∀ g, x.source f.feature = some g → g.version ≤ f.version) :
    InOrder { x with source := Function.update x.source f.feature (some f) } t where
  keyed id g hg := by
    dsimp only at hg
    rw [Function.update_apply] at hg
    split at hg
    · next hid =>
      cases hg
      exact hid.symm
    · exact h.keyed id g hg
  held := h.held.trans (.put hf)
  list who l hl := by
    obtain ⟨hnodup, hbehind, hahead⟩ := h.list who l hl
    exact ⟨hnodup, hbehind.trans (.put hf), hahead⟩
  flag g hg := by
    obtain ⟨k, hk, hgk⟩ := h.flag g hg
    obtain ⟨k', hk', hkk'⟩ := Behind.put hf _ k hk
    exact ⟨k', hk', Int64.le_trans hgk hkk'⟩

theorem listed {fs : List Flag} (h : x.InOrder t) (hfs : Lists x.source fs) :
    InOrder { x with lists := Function.update x.lists who (some ⟨fs, false⟩) } t where
  keyed := h.keyed
  held := h.held
  list who' l hl := by
    dsimp only at hl
    rw [Function.update_apply] at hl
    split at hl
    · cases hl
      refine ⟨hfs.1, hfs.2 ▸ .refl _, fun _ => ?_⟩
      exact hfs.2 ▸ h.held
    · exact h.list who' l hl
  flag := h.flag

theorem answered {id : String} {f : Flag} (h : x.InOrder t) (hf : x.source id = some f) :
    InOrder { x with flag := some f } t where
  keyed := h.keyed
  held := h.held
  list := h.list
  flag g hg := by
    cases hg
    exact ⟨f, h.keyed id f hf ▸ hf, Int64.le_refl _⟩

/-- **A move leaves things in order**, whatever it stores. -/
theorem moved (h : x.InOrder t) (hcarries : x.carries env m) :
    (x.after m a).InOrder (tableAfter t m) where
  keyed := h.keyed
  held := by
    unfold tableAfter
    split
    · next who fs =>
      obtain ⟨l, hl, rfl⟩ := list_of_carries hcarries
      exact (h.list who l hl).2.1
    · next f => exact h.held.of_accept (h.flag f (of_decide_eq_true hcarries))
    · exact h.held
  list who l hl := by
    obtain ⟨l', hl', hflags, hovertaken⟩ := of_listsAfter hl
    obtain ⟨hnodup, hbehind, hahead⟩ := h.list who l' hl'
    rw [← hflags]
    refine ⟨hnodup, hbehind, fun hl => ?_⟩
    obtain ⟨hl', hstores⟩ := hovertaken hl
    rw [tableAfter_of_not_storesFlags hstores]
    exact hahead hl'
  flag f hf := by
    have hbefore : x.flag = some f := by
      simp only [after] at hf
      split at hf
      · cases hf
      · exact hf
    exact h.flag f hbefore

/-- **Nothing goes back** unless the list was overtaken. -/
theorem behind_tableAfter (h : x.InOrder t) (hcarries : x.carries env m)
    (hcalm : x.isCalm m) : Behind t (tableAfter t m) := by
  unfold tableAfter
  split
  · next who fs =>
    obtain ⟨l, hl, rfl⟩ := list_of_carries hcarries
    refine (h.list who l hl).2.2 ?_
    simpa [isCalm, storesOvertaken, hl] using hcalm
  · exact .accept _ _
  · exact .refl t

end InOrder

/-- A write that has nothing to do with flags leaves the table as it is. -/
theorem shows_of_sparesFlags {held : Contents} (h : held.Shows env t) {w : SyncWrite}
    (hw : w.SparesFlags) :
    Contents.Shows env t ((SyncWrite.runAllOnContents env [w]).run held).state :=
  h.of_keeps (Contents.keeps_of_sparesFlags hw)

/-- **What a move writes is what the table then says.** -/
theorem shows_tableAfter {held : Contents} (h : held.Shows env t) (hcarries : x.carries env m)
    (hnodup : ∀ who l, x.lists who = some l → (l.flags.map (·.feature)).Nodup) :
    Contents.Shows env (tableAfter t m)
      ((SyncWrite.runAllOnContents env m.writes).run held).state := by
  cases m with
  | flagsPulled who answer =>
    cases answer with
    | ok fs =>
      obtain ⟨l, hl, rfl⟩ := list_of_carries hcarries
      exact h.setAll (hnodup who l hl)
    | error e => exact h
  | flagFetched answer =>
    cases answer with
    | ok f => exact h.setAndMerge f
    | error e => exact h
  | received item =>
    cases item with
    | event e =>
      by_cases hdomain : e.domain = .flag
      · have hevent : e.event ≠ .delete := by simpa [carries, hdomain] using hcarries
        exact (h.receive_other hdomain hevent).2
      · exact shows_of_sparesFlags h (w := .received e) hdomain
    | failure e => exact h
    | finished => exact h
  | segmentsPulled who answer => exact shows_of_sparesFlags h (w := .segmentsPulled answer) trivial
  | segmentFetched answer => exact shows_of_sparesFlags h (w := .segmentFetched answer) trivial
  | wake who =>
    cases who with
    | flush => exact shows_of_sparesFlags h (w := .flushed) trivial
    | auth => exact h
    | poll => exact h
    | stream => exact h
  | authenticated answer => exact h
  | proceed who => exact h
  | askSegments who => exact h
  | connected answer => exact h
  | crash => exact h
  | cancel => exact h

/-! ## Runs -/

/-- The repository is faithful, shows the table, and all is in order. -/
structure Inv (room : Finset String) (env : String) (x : Exchange) (t : FlagTable) : Prop
    extends x.InOrder t where
  faithful : x.synchronizer.repository.Faithful room
  sessions : x.synchronizer.SessionsIn env
  shows : Contents.Shows env t x.synchronizer.repository.stored?

/-- What was told is not taken back. -/
theorem Step.keysWritten_subset (h : Step env sort x y) :
    keysWritten x.told ⊆ keysWritten y.told := by
  cases h with
  | put h => exact subset_rfl
  | listed hpull hnone h => exact subset_rfl
  | answered hstream hnone h => exact subset_rfl
  | moved hact hcarries hsort =>
    rw [told_after, keysWritten_append]
    exact Finset.subset_union_left

theorem keysWritten_subset_of_run (h : ReflTransGen (Step env sort) x y) :
    keysWritten x.told ⊆ keysWritten y.told := by
  induction h with
  | refl => exact subset_rfl
  | tail _ hstep ih => exact ih.trans hstep.keysWritten_subset

/-- **A step keeps the invariant**, and goes nowhere back unless it stores an overtaken list. -/
theorem Step.inv (h : Step env sort x y) (hx : x.Inv room env t)
    (hroom : keysWritten y.told ⊆ room) :
    ∃ u, y.Inv room env u ∧ ((∀ m, sort x m → x.isCalm m) → Behind t u) := by
  cases h with
  | put h => exact ⟨t, ⟨hx.put h, hx.faithful, hx.sessions, hx.shows⟩, fun _ => .refl t⟩
  | listed hpull hnone h =>
    exact ⟨t, ⟨hx.toInOrder.listed h, hx.faithful, hx.sessions, hx.shows⟩, fun _ => .refl t⟩
  | answered hstream hnone h =>
    exact ⟨t, ⟨hx.toInOrder.answered h, hx.faithful, hx.sessions, hx.shows⟩, fun _ => .refl t⟩
  | @moved m a hact hcarries hsort =>
    obtain ⟨hsessions, hrepository, hkeys⟩ :=
      Synchronizer.performs_act hx.sessions (grantsIn_of_carries hcarries) hact _ hx.sessions
    rw [told_after, keysWritten_append, Finset.union_subset_iff, hkeys] at hroom
    obtain ⟨hstored, hfaithful⟩ := SyncWrite.runAll_eq env m.writes hx.faithful hroom.2
    rw [← hrepository] at hstored hfaithful
    have hshows := shows_tableAfter hx.shows hcarries fun who l hl => (hx.list who l hl).1
    rw [← hstored] at hshows
    exact ⟨tableAfter t m, ⟨hx.toInOrder.moved hcarries, hfaithful, hsessions, hshows⟩,
      fun hcalm => hx.toInOrder.behind_tableAfter hcarries (hcalm m hsort)⟩

/-- **A run keeps the invariant**, and goes nowhere back if it stores no overtaken list. -/
theorem inv_of_run (h : ReflTransGen (Step env sort) x y) (hx : x.Inv room env t)
    (hroom : keysWritten y.told ⊆ room) :
    ∃ u, y.Inv room env u ∧ ((∀ z m, sort z m → z.isCalm m) → Behind t u) := by
  induction h with
  | refl => exact ⟨t, hx, fun _ => .refl t⟩
  | @tail y z _ hstep ih =>
    obtain ⟨u, hy, hback⟩ := ih (hstep.keysWritten_subset.trans hroom)
    obtain ⟨v, hz, hback'⟩ := hstep.inv hy hroom
    exact ⟨v, hz, fun hcalm => (hback hcalm).trans (hback' (hcalm y))⟩

/-- The flag that is found under an identifier. -/
def getFlag (x : Exchange) (id : String) : Option Flag :=
  ((Repository.getFlag id).run x.synchronizer.repository).value

theorem Inv.getFlag_eq (h : x.Inv room env t) (id : String) : x.getFlag id = t id :=
  (h.faithful.value_get id).trans (h.shows.find?_eq id)

theorem inv_start {config : SyncConfig} {hasConnector : Bool} {source : FlagTable} {r : Repository}
    (hr : r.Faithful room) (hnothing : r.stored? = Contents.nothing) (hsource : source.Keyed) :
    (start config hasConnector source r).Inv room env fun _ => none where
  keyed := hsource
  held := nofun
  list := nofun
  flag := nofun
  faithful := hr
  sessions := Synchronizer.sessionsIn_initial config hasConnector r
  shows := by
    have hstored : (start config hasConnector source r).synchronizer.repository.stored? =
        Contents.nothing := hnothing
    rw [hstored]
    exact Contents.shows_nothing

/-- **Only an overtaken list takes a flag back.** Let polling and streaming have come to any point,
in any order of their steps, on a new repository, over a store of its own or with room for the keys
that are written, while the source deleted nothing and no version fell. As long as from there on no
list is stored that was overtaken, every flag that is found stays there, and gets no older. -/
theorem never_older (env : String) (config : SyncConfig) (hasConnector : Bool)
    (source : FlagTable) (r : Repository) (x y : Exchange) (hr : r.Fresh) (hsource : source.Keyed)
    (hrun : ReflTransGen (Step env fun _ _ => true) (start config hasConnector source r) x)
    (hrest : ReflTransGen (Step env isCalm) x y)
    (hroom : r.HasRoom y.told) :
    ∀ id f, x.getFlag id = some f → ∃ g, y.getFlag id = some g ∧ f.version ≤ g.version := by
  have hstart : (start config hasConnector source r).Inv (keysWritten y.told) env fun _ => none :=
    inv_start (hr.faithful hroom) hr.stored?_eq hsource
  obtain ⟨t, hx, -⟩ := inv_of_run hrun hstart (keysWritten_subset_of_run hrest)
  obtain ⟨u, hy, hback⟩ := inv_of_run hrest hx subset_rfl
  have hbehind : Behind t u := hback fun _ _ hcalm => hcalm
  intro id f hf
  rw [hx.getFlag_eq] at hf
  obtain ⟨g, hg, hversion⟩ := hbehind id f hf
  exact ⟨g, (hy.getFlag_eq id).trans hg, hversion⟩

/-! ## A run that goes back -/

/-- The exchange after a move, if it is possible. -/
def next (x : Exchange) (m : Move) : Exchange :=
  match x.synchronizer.act? m with
  | some a => x.after m a
  | none => x

/-- The exchange after some moves. -/
def play (x : Exchange) (ms : List Move) : Exchange := ms.foldl next x

/-- Whether moves of a sort are possible one after the other. -/
def canPlay (env : String) (sort : Exchange → Move → Bool) : Exchange → List Move → Bool
  | _, [] => true
  | x, m :: ms => (x.synchronizer.act? m).isSome && x.carries env m && sort x m &&
      canPlay env sort (x.next m) ms

theorem run_play {ms : List Move} (h : canPlay env sort x ms) :
    ReflTransGen (Step env sort) x (x.play ms) := by
  induction ms generalizing x with
  | nil => exact .refl
  | cons m ms ih =>
    rw [canPlay, Bool.and_eq_true, Bool.and_eq_true, Bool.and_eq_true] at h
    obtain ⟨⟨⟨hact, hcarries⟩, hsort⟩, hrest⟩ := h
    obtain ⟨a, ha⟩ := Option.isSome_iff_exists.mp hact
    have hnext : x.next m = x.after m a := by rw [next, ha]
    exact .head (hnext ▸ .moved ha hcarries hsort) (ih hrest)

theorem source_play (x : Exchange) (ms : List Move) : (x.play ms).source = x.source := by
  induction ms generalizing x with
  | nil => rfl
  | cons m ms ih =>
    have hnext : (x.next m).source = x.source := by
      unfold next
      split <;> rfl
    exact (ih (x.next m)).trans hnext

namespace Overtaking

open SyncWrite (flagAt)

/-- The list with the flag as it was first has been answered to one who pulls. -/
def listed (x : Exchange) (who : Puller) : Exchange :=
  { x with lists := Function.update x.lists who (some ⟨[flagAt "a" 1], false⟩) }

/-- A pull is answered in both its halves. -/
def pulled (who : Puller) : List Move :=
  [.flagsPulled who (.ok [flagAt "a" 1]), .askSegments who, .segmentsPulled who (.ok [])]

/-- The source as it was first. -/
def source : FlagTable := Function.update (fun _ => none) "a" (some (flagAt "a" 1))

def start : Exchange := .start .default true source (.empty 3)

/-- Polling asks for the first time. -/
def asking : Exchange := start.play [.authenticated (.ok ⟨"token", "e"⟩), .proceed .poll]

/-- Polling has stored the first list and asks again. -/
def polling : Exchange := (listed asking .poll).play (pulled .poll ++ [.wake .poll])

/-- Polling is answered, but the stream connects first and asks as well. -/
def connected : Exchange := (listed polling .poll).play [.proceed .stream, .connected (.ok ())]

/-- The stream has caught up. -/
def listening : Exchange := (listed connected .stream).play (pulled .stream)

/-- The flag was replaced, and the stream is told. -/
def fetching : Exchange :=
  ({ listening with source := Function.update listening.source "a" (some (flagAt "a" 2)) } :
    Exchange).play [.received (.event ⟨.flag, .update, "a", 2⟩)]

/-- The stream has stored the new flag. -/
def followed : Exchange :=
  ({ fetching with flag := some (flagAt "a" 2) } : Exchange).play
    [.flagFetched (.ok (flagAt "a" 2))]

/-- Polling has stored the list that was on its way all the while. -/
def finish : Exchange := followed.play [.flagsPulled .poll (.ok [flagAt "a" 1])]

theorem source_keyed : source.Keyed := by
  intro id f hf
  rw [source, Function.update_apply] at hf
  split at hf
  · next hid =>
    cases hf
    exact hid.symm
  · cases hf

theorem step_listed {x : Exchange}
    (hpull : x.synchronizer.pulling? who = some (⟨"token", "e"⟩, ⟨.asked, .unasked⟩))
    (hnone : x.lists who = none) (hsource : x.source = source) : Step "e" sort x (listed x who) := by
  refine .listed hpull hnone ?_
  rw [hsource]
  exact lists_singleton (flagAt "a" 1)

theorem source_asking : asking.source = source := source_play _ _

theorem source_polling : polling.source = source := (source_play _ _).trans source_asking

theorem source_connected : connected.source = source := (source_play _ _).trans source_polling

theorem source_listening : listening.source = source := (source_play _ _).trans source_connected

theorem source_fetching : fetching.source "a" = some (flagAt "a" 2) := by
  rw [fetching, source_play]
  exact Function.update_self "a" (some (flagAt "a" 2)) listening.source

/-- Polling comes to its second pull. -/
theorem run_polling : ReflTransGen (Step "e" fun _ _ => true) start polling := by
  have hasking : ReflTransGen (Step "e" fun _ _ => true) start asking :=
    run_play (by decide +kernel)
  have hlisted : Step "e" (fun _ _ => true) asking (listed asking .poll) :=
    step_listed (by decide +kernel) (by decide +kernel) source_asking
  have hpolling : ReflTransGen (Step "e" fun _ _ => true) (listed asking .poll) polling :=
    run_play (by decide +kernel)
  exact (hasking.tail hlisted).trans hpolling

/-- While its answer is on its way, the stream comes to follow an event, and all is calm. -/
theorem run_followed : ReflTransGen (Step "e" isCalm) polling followed := by
  have hlisted : Step "e" isCalm polling (listed polling .poll) :=
    step_listed (by decide +kernel) (by decide +kernel) source_polling
  have hconnected : ReflTransGen (Step "e" isCalm) (listed polling .poll) connected :=
    run_play (by decide +kernel)
  have hcaught : Step "e" isCalm connected (listed connected .stream) :=
    step_listed (by decide +kernel) (by decide +kernel) source_connected
  have hlistening : ReflTransGen (Step "e" isCalm) (listed connected .stream) listening :=
    run_play (by decide +kernel)
  have hput : Step "e" isCalm listening
      { listening with source := Function.update listening.source "a" (some (flagAt "a" 2)) } := by
    refine .put (f := flagAt "a" 2) fun g hg => ?_
    have hold : listening.source "a" = some (flagAt "a" 1) := by
      rw [source_listening]
      exact Function.update_self _ _ _
    cases hold.symm.trans hg
    decide
  have hfetching : ReflTransGen (Step "e" isCalm)
      { listening with source := Function.update listening.source "a" (some (flagAt "a" 2)) }
      fetching := run_play (by decide +kernel)
  have hstream : fetching.synchronizer.stream = .fetching ⟨"token", "e"⟩ .flag "a" := by
    decide +kernel
  have hanswered : Step "e" isCalm fetching { fetching with flag := some (flagAt "a" 2) } :=
    .answered hstream (by decide +kernel) source_fetching
  have hfollowed : ReflTransGen (Step "e" isCalm)
      { fetching with flag := some (flagAt "a" 2) } followed := run_play (by decide +kernel)
  exact ((((((ReflTransGen.single hlisted).trans hconnected).tail hcaught).trans
    hlistening).tail hput).trans hfetching).tail hanswered |>.trans hfollowed

/-- The answer that is stored last was overtaken. -/
theorem run_finish : ReflTransGen (Step "e" fun _ _ => true) followed finish :=
  run_play (by decide +kernel)

end Overtaking

/-- While the stream follows an event the flag that polling has stored is replaced by a newer one,
and not by the answer to polling that is on its way. -/
theorem never_older_followed :
    ReflTransGen (Step "e" fun _ _ => true) Overtaking.start Overtaking.polling ∧
    ReflTransGen (Step "e" isCalm) Overtaking.polling Overtaking.followed ∧
    (Repository.empty 3).HasRoom Overtaking.followed.told ∧
    Overtaking.polling.getFlag "a" = some (SyncWrite.flagAt "a" 1) ∧
    ∃ g, Overtaking.followed.getFlag "a" = some g ∧ (1 : Int64) ≤ g.version := by
  have hroom : (Repository.empty 3).HasRoom Overtaking.followed.told := fun _ => by decide +kernel
  have hbefore : Overtaking.polling.getFlag "a" = some (SyncWrite.flagAt "a" 1) := by
    decide +kernel
  have h := never_older "e" .default true Overtaking.source (.empty 3) Overtaking.polling
    Overtaking.followed (.empty 3) Overtaking.source_keyed Overtaking.run_polling
    Overtaking.run_followed hroom
  exact ⟨Overtaking.run_polling, Overtaking.run_followed, hroom, hbefore, h "a" _ hbefore⟩

/-- **A list that was overtaken goes back.** The flag was found with its second version, and then is
found with its first. -/
theorem goes_back :
    ∃ x y, Overtaking.source.Keyed ∧
      ReflTransGen (Step "e" fun _ _ => true)
        (.start .default true Overtaking.source (.empty 3)) x ∧
      ReflTransGen (Step "e" fun _ _ => true) x y ∧ (Repository.empty 3).HasRoom y.told ∧
      x.getFlag "a" = some (SyncWrite.flagAt "a" 2) ∧
      y.getFlag "a" = some (SyncWrite.flagAt "a" 1) := by
  have hany : ReflTransGen (Step "e" fun _ _ => true) Overtaking.polling Overtaking.followed :=
    ReflTransGen.mono (fun _ _ hstep => hstep.mono fun _ _ _ => rfl) _ _ Overtaking.run_followed
  exact ⟨Overtaking.followed, Overtaking.finish, Overtaking.source_keyed,
    Overtaking.run_polling.trans hany, Overtaking.run_finish, fun _ => by decide +kernel,
    by decide +kernel, by decide +kernel⟩

end Exchange

end FlagReplica
