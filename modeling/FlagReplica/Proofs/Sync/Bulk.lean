import FlagReplica.Proofs.Evaluation.Answers
import FlagReplica.Proofs.Sync.Agreement
/-!
# Evaluating all flags is evaluating each

All flags of an environment are evaluated from the list of the environment, and a single flag is
evaluated from what is under its own key. Under either way lie the same single flags and segments,
which prerequisites and clauses look up. What synchronization wrote keeps the two in agreement, so
nobody can tell the two ways apart, neither by the variations nor by what a sink is told
(`SyncWrite.evaluateAll_eq_of_run`).

A sink is handed the flag that was evaluated, and on the one way that is the flag of the list, on the
other the flag that was found. So what has to be seen is that they are one flag, and not only flags
of one name (`Shown.resolved_eq`).
-/

namespace FlagReplica

variable {room : Finset String} {held : Contents} {env : String}

/-- What a flag serves among the flags and segments of the lists of an environment, with the flag,
if it serves anything. -/
def Contents.served (held : Contents) (env : String) (t : Target) (f : Flag) :
    Option (Flag × Variation) := (held.serve env t f).toOption.map (f, ·)

/-- The calls of a sink, if there is one, that is told of what a flag serves. -/
def Contents.calls (held : Contents) (env : String) (sink : Option Sink) (t : Target) (f : Flag) :
    List (List Notice) := (Audience.always sink).hears t (held.served env t f).toList

section Shown

variable (h : Shown env held) (t : Target) {r : Repository} (hr : r.Faithful room)
  (hheld : r.stored? = held)

include h hr hheld

/-- **A flag of the list that is looked up** resolves to what it serves, and is the flag of the
list. -/
theorem Shown.resolved_eq {f : Flag} (hf : f ∈ held.listed env) :
    ((Repository.evaluate f.feature t none).run r).value.toOption = held.served env t f := by
  rw [(h.reads_evaluate hf t r hr hheld).1, Contents.served]
  cases held.serve env t f <;> rfl

/-- **Flags of the list that are taken as they are** serve the same, one after the other. -/
theorem Shown.servedAlong_eq {fs : List Flag} (hfs : ∀ f ∈ fs, f ∈ held.listed env) :
    Evaluator.servedAlong t fs r = fs.filterMap (held.served env t) := by
  induction fs generalizing r with
  | nil => rfl
  | cons f fs ih =>
    rw [List.forall_mem_cons] at hfs
    obtain ⟨hvalue, -, hr', hheld'⟩ := h.reads_serve hfs.1 t r hr hheld
    rw [Evaluator.servedAlong, hvalue, ih hr' hheld' hfs.2, List.filterMap_cons, ← Contents.served]
    cases held.served env t f <;> rfl

end Shown

namespace Evaluator

variable (h : Shown env held) (t : Target)

include h

/-- A single flag, looked up with nobody to be told. -/
theorem reads_evaluate {f : Flag} (hf : f ∈ held.listed env) :
    Reads room held (evaluate none f.feature t) (held.serve env t f) [] := by
  refine (h.reads_evaluate hf t).before ?_
  cases held.serve env t f with
  | error e => exact .pure _
  | ok v => exact (Reads.log _ _).before (.pure _)

variable {r : Repository} (hr : r.Faithful room) (hheld : r.stored? = held)

include hr hheld

variable (sink : Option Sink)

/-- **Of all flags of the environment** a sink is told as of each by itself. -/
theorem overheard_evaluateAll :
    Overheard ((held.listed env).flatMap (held.calls env sink t))
      ((evaluateAll none env t).run r) ((evaluateAll sink env t).run r) ∧
    ((evaluateAll none env t).run r).value =
      (held.listed env).filterMap fun f => (held.serve env t f).toOption.map (f.feature, ·) := by
  have hlist : Reads room held (Repository.getFlags env) (held.listed env) [] := .getAll env
  obtain ⟨hflags, -, hr', hheld'⟩ := hlist r hr hheld
  have hserved : servedAlong t (held.listed env) ((Repository.getFlags env).run r).state =
      (held.listed env).filterMap (held.served env t) :=
    h.servedAlong_eq t hr' hheld' fun _ hf => hf
  refine ⟨?_, ?_⟩
  · have hall := overheard_all (.always sink) t r env
    rwa [Query.resolved, hflags, hserved, Audience.hears_always, ← Audience.always_none,
      serveInTurn_always, serveInTurn_always] at hall
  · have hvalue := value_serveInTurn t (held.listed env) ((Repository.getFlags env).run r).state
    rw [hserved, ← Audience.always_none, serveInTurn_always, List.map_filterMap] at hvalue
    rw [evaluateAll, Action.run_bind, hflags]
    refine hvalue.trans (List.filterMap_congr fun f _ => ?_)
    rw [Contents.served, Option.map_map]
    rfl

/-- **Of a flag of the list** that is looked up a sink is told if it serves anything. -/
theorem overheard_alone {f : Flag} (hf : f ∈ held.listed env) :
    Overheard (held.calls env sink t f) ((evaluate none f.feature t).run r)
      ((evaluate sink f.feature t).run r) := by
  have hone := overheard_variation (.always sink) f.feature t r none
  rwa [h.resolved_eq t hr hheld hf, Audience.now_always] at hone

/-- **Of flags that are looked up one after the other** a sink is told as of each by itself. -/
theorem overheard_inTurn {fs : List Flag} (hfs : ∀ f ∈ fs, f ∈ held.listed env) :
    Overheard (fs.flatMap (held.calls env sink t))
      ((fs.mapM fun f => evaluate none f.feature t).run r)
      ((fs.mapM fun f => evaluate sink f.feature t).run r) := by
  induction fs generalizing r with
  | nil => exact .refl rfl
  | cons f fs ih =>
    rw [List.forall_mem_cons] at hfs
    obtain ⟨-, -, hr', hheld'⟩ := reads_evaluate h t hfs.1 r hr hheld
    rw [List.flatMap_cons, List.mapM_cons, List.mapM_cons]
    exact (overheard_alone h t hr hheld sink hfs.1).bind ((ih hr' hheld' hfs.2).map _)

end Evaluator

namespace SyncWrite

/-- **What synchronization leaves is shown**, and faithfully. -/
theorem shown_of_run {env : String} {r : Repository} {ws : List SyncWrite} (hr : r.Fresh)
    (hnames : ∀ w ∈ ws, w.NamesOnce) (hroom : r.HasRoom ((runAll env ws).run r).notices) :
    let r' := ((runAll env ws).run r).state
    Shown env r'.stored? ∧ ∃ room, r'.Faithful room := by
  obtain ⟨hstored, hafter⟩ := runAll_eq env ws (hr.faithful hroom) subset_rfl
  refine ⟨?_, _, hafter⟩
  obtain ⟨⟨flags, hflags⟩, segments, hsegments⟩ : Contents.InAgreement env
      ((runAll env ws).run r).state.stored? := by
    rw [hstored, hr.stored?_eq]
    exact maintains_runAll hnames _ (Contents.inAgreement_nothing env)
  exact ⟨hflags.list ▸ hflags, hsegments.list ▸ hsegments⟩

/-- **Evaluating all flags comes to the same as evaluating each.** After any run of the writes of
synchronization, on a new repository over a store of its own or with room for the keys that are
written, the evaluation of all flags of the environment gives what the single evaluations give that
succeed, in the order of the list. The sink is told the same in the same order, be the flags
evaluated each by itself or one after the other: it is handed the flag, the target and the variation
of each that resolved, once, and all else is as without a sink. What a single evaluation finds is the
flag that is listed. -/
theorem evaluateAll_eq_of_run (env : String) (r : Repository) (ws : List SyncWrite)
    (hr : r.Fresh) (hnames : ∀ w ∈ ws, w.NamesOnce)
    (hroom : r.HasRoom ((runAll env ws).run r).notices) (sink : Option Sink) (t : Target) :
    let r' := ((runAll env ws).run r).state
    let flags := ((Repository.getFlags env).run r').value
    let all (sink : Option Sink) := (Evaluator.evaluateAll sink env t).run r'
    let alone (sink : Option Sink) (f : Flag) := (Evaluator.evaluate sink f.feature t).run r'
    let inTurn (sink : Option Sink) :=
      (flags.mapM fun f => Evaluator.evaluate sink f.feature t).run r'
    let calls (f : Flag) := (Audience.always sink).hears t
      ((Repository.evaluate f.feature t none).run r').value.toOption.toList
    (all sink).value =
        flags.filterMap (fun f => (alone sink f).value.toOption.map (f.feature, ·)) ∧
      servedIn (all sink).notices = flags.flatMap (fun f => servedIn (alone sink f).notices) ∧
      (inTurn sink).value = flags.map (fun f => (alone sink f).value) ∧
      servedIn (inTurn sink).notices = servedIn (all sink).notices ∧
      (∀ f ∈ flags, ∀ g v,
        ((Repository.evaluate f.feature t none).run r').value = .ok (g, v) → g = f) ∧
      Overheard (flags.flatMap calls) (all none) (all sink) ∧
      Overheard (flags.flatMap calls) (inTurn none) (inTurn sink) ∧
      ∀ f ∈ flags, Overheard (calls f) (alone none f) (alone sink f) := by
  intro r' flags all alone inTurn calls
  obtain ⟨hshown, room, hr'⟩ := shown_of_run hr hnames hroom
  have hflags : flags = Contents.listed r'.stored? env := hr'.value_getAll env
  have hlisted : ∀ f ∈ flags, f ∈ (Contents.listed r'.stored? env : List Flag) :=
    fun f hf => hflags ▸ hf
  have hcalls : ∀ f ∈ flags, calls f = Contents.calls r'.stored? env sink t f := fun f hf => by
    rw [Contents.calls, ← hshown.resolved_eq t hr' rfl (hlisted f hf)]
  have hcallsAll : flags.flatMap calls = flags.flatMap (Contents.calls r'.stored? env sink t) :=
    List.flatMap_congr hcalls
  obtain ⟨hall, hallValue⟩ := Evaluator.overheard_evaluateAll hshown t hr' rfl sink
  rw [← hflags, ← hcallsAll] at hall
  have hinTurn := Evaluator.overheard_inTurn hshown t hr' rfl sink hlisted
  rw [← hcallsAll] at hinTurn
  have halone : ∀ f ∈ flags, Overheard (calls f) (alone none f) (alone sink f) := fun f hf => by
    rw [hcalls f hf]
    exact Evaluator.overheard_alone hshown t hr' rfl sink (hlisted f hf)
  -- answers do not depend on the sink, and without one they are those of the snapshot
  have hquiet : ∀ f ∈ flags, Reads room r'.stored? (Evaluator.evaluate none f.feature t)
      (Contents.serve r'.stored? env t f) [] :=
    fun f hf => Evaluator.reads_evaluate hshown t (hlisted f hf)
  have hvalue : ∀ f ∈ flags, (alone sink f).value = Contents.serve r'.stored? env t f :=
    fun f hf => (halone f hf).value.trans (hquiet f hf r' hr' rfl).1
  refine ⟨?_, ?_, ?_, ?_, fun f hf g v hg => ?_, hall, hinTurn, halone⟩
  · rw [hall.value, hallValue, ← hflags]
    exact List.filterMap_congr fun f hf => by rw [hvalue f hf]
  · rw [hall.servedIn_eq, List.flatMap_assoc]
    exact List.flatMap_congr fun f hf => (halone f hf).servedIn_eq.symm
  · rw [hinTurn.value, (Reads.mapM flags hquiet r' hr' rfl).1]
    exact List.map_congr_left fun f hf => (hvalue f hf).symm
  · rw [hinTurn.servedIn_eq, hall.servedIn_eq]
  · have hfound := hshown.resolved_eq t hr' rfl (hlisted f hf)
    rw [hg, Contents.served] at hfound
    obtain ⟨w, -, hsame⟩ := Option.map_eq_some_iff.mp hfound.symm
    exact (congrArg Prod.fst hsame).symm

/-- A list with a flag that requires another and one that nothing can be made of, and an event about
the first. -/
def shopWrites : List SyncWrite := [
  .flagsPulled (.ok [Snapshot.plainFlag "shop" ["base"],
    { Snapshot.plainFlag "bare" [] with variations := [] }, Snapshot.plainFlag "base" []]),
  .followed ⟨.flag, .update, "shop", 2⟩
    (.ok { Snapshot.plainFlag "shop" ["base"] with version := 2 }) (.error .unauthorized),
  .segmentsPulled (.ok [])]

/-- The flag that comes to nothing is left out, and no variation is told of it. A sink that fails at
the first flag is told of the other one all the same. -/
theorem evaluateAll_eq_of_run_shopWrites :
    (keysWritten ((runAll "e" shopWrites).run (.empty 5)).notices).card = 5 ∧
      (let r' := ((runAll "e" shopWrites).run (.empty 5)).state
       let flags := ((Repository.getFlags "e").run r').value
       let ann := Target.ofIdentifier "ann"
       let sink : Option Sink := some ⟨fun f _ _ => f.feature = "shop"⟩
       let all (sink : Option Sink) := (Evaluator.evaluateAll sink "e" ann).run r'
       let alone (f : Flag) := (Evaluator.evaluate sink f.feature ann).run r'
       let calls (f : Flag) := (Audience.always sink).hears ann
         ((Repository.evaluate f.feature ann none).run r').value.toOption.toList
       (all sink).value = flags.filterMap (fun f => (alone f).value.toOption.map (f.feature, ·)) ∧
         servedIn (all sink).notices = flags.flatMap (fun f => servedIn (alone f).notices) ∧
         servedIn (all sink).notices = [("shop", "ann", "yes"), ("base", "ann", "yes")] ∧
         Overheard (flags.flatMap calls) (all none) (all sink) ∧
         flags.flatMap calls =
           [[.served "shop" "ann" "yes", .log .warn "analytics sink panicked"],
             [.served "base" "ann" "yes"]]) := by
  have hcard : (keysWritten ((runAll "e" shopWrites).run (.empty 5)).notices).card = 5 := by
    decide +kernel
  have hnames : ∀ w ∈ shopWrites, w.NamesOnce := by
    simp [shopWrites, NamesOnce, Snapshot.plainFlag]
  obtain ⟨hall, htold, -, -, -, hoverheard, -⟩ :=
    evaluateAll_eq_of_run "e" (.empty 5) shopWrites (.empty 5) hnames
      (fun _ => hcard.le) (some ⟨fun f _ _ => f.feature = "shop"⟩) (.ofIdentifier "ann")
  exact ⟨hcard, hall, htold, by decide +kernel, hoverheard, by decide +kernel⟩

end SyncWrite

end FlagReplica
