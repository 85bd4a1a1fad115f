import FlagReplica.Proofs.Evaluation.Explanation
import FlagReplica.Proofs.Repository.Evaluation
/-!
# What a sink is told

A sink is told of variations while flags are evaluated, and it may fail at that. `Overheard` compares
an outcome that was reached with a sink with the one that is reached without: the answer and the
repository are the same, and among the notices there are, in order, those of the calls of the sink.
What one call leaves there is `told`, and it depends on all that the sink was handed, for that
decides whether it fails.

A sink may also fail at one call and not at the next one that is handed the same, so what is
compared is an `Audience`, a sink that may change from call to call. Evaluation by itself tells
nobody, whatever the repository holds (`servedIn_serve`, `servedIn_evaluate`), so a sink hears
nothing of prerequisites or of flags that came to nothing.
-/

namespace FlagReplica

variable {α β : Type}

/-! ## Evaluation tells nobody -/

/-- An action that gives no notice of a variation, paired with any other. -/
def Pairing.quiet : Pairing RepositoryAction RepositoryAction where
  Alike p a _ := ∀ r, servedIn (a.run r).notices = [] ∧ p (a.run r).value
  pure hx := fun _ => ⟨rfl, hx⟩
  bind hab hfg := by
    intro r
    obtain ⟨hquiet, hp⟩ := hab r
    obtain ⟨hquiet', hq⟩ := hfg _ hp (Action.run _ r).state
    rw [Action.run_bind]
    exact ⟨by rw [servedIn_append, hquiet, hquiet', List.append_nil], hq⟩

namespace Repository

theorem notices_lookUp (key : String) (r : Repository) : ((lookUp key).run r).notices = [] := by
  rw [run_lookUp]
  split <;> rfl

theorem notices_get [Record α] (id : String) (r : Repository) :
    ((get id : RepositoryAction (Option α)).run r).notices = [] := by
  rw [get, bind_pure_comp, Action.run_map, notices_lookUp]

theorem notices_getAll [Record α] (env : String) (r : Repository) :
    ((getAll env : RepositoryAction (List α)).run r).notices = [] := by
  rw [getAll, bind_pure_comp, Action.run_map, notices_lookUp]

theorem places_quiet : Pairing.quiet.Places Set.univ host host where
  flag? id _ := by
    intro r
    have hnotices : ((getFlag id).run r).notices = [] := notices_get id r
    exact ⟨congrArg servedIn hnotices, fun _ _ _ _ => trivial⟩
  segment? id _ := by
    intro r
    have hnotices : ((getSegment id).run r).notices = [] := notices_get id r
    exact ⟨congrArg servedIn hnotices, fun _ _ _ _ => trivial⟩
  log level text := fun _ => ⟨rfl, trivial⟩

/-- What is read of a repository is the repository. -/
theorem run_get_bind (f : Repository → RepositoryAction α) (r : Repository) :
    (Action.get >>= f).run r = (f r).run r := rfl

/-- **A flag that is evaluated tells nobody.** -/
theorem servedIn_serve (f : Flag) (t : Target) (r : Repository) :
    servedIn ((serve f t).run r).notices = [] := by
  rw [serve, run_get_bind]
  exact (Pairing.same_serve places_quiet (.refl _ t) r.budget (fun _ _ => Pairing.same_pure ())
    (fun _ _ => trivial) r).1

/-- **Nor does one that is looked up for it.** -/
theorem servedIn_evaluate (flagId : String) (t : Target) (expected : Option FlagKind)
    (r : Repository) : servedIn ((evaluate flagId t expected).run r).notices = [] := by
  rw [evaluate, run_get_bind]
  exact (Pairing.same_walk places_quiet (.refl _ t) r.budget (fun _ _ => Pairing.same_pure ())
    trivial expected r).1

/-- An explanation leaves everything as the evaluation does. -/
theorem run_explain (flagId : String) (t : Target) (expected : Option FlagKind) (r : Repository) :
    ∃ trace, (explain flagId t expected).run r =
      ⟨(((evaluate flagId t expected).run r).value, trace),
        ((evaluate flagId t expected).run r).state,
        ((evaluate flagId t expected).run r).notices⟩ := by
  have h := congrArg (fun a => Action.run a r)
    (explain_eq_evaluate host r.budget flagId t expected)
  rw [Action.run_map, Action.run_map, Outcome.mk.injEq] at h
  obtain ⟨hvalue, hstate, hnotices⟩ := h
  have hresult : ((Evaluation.explain host r.budget flagId t expected).run r).value.1 =
      ((Evaluation.evaluate host r.budget flagId t expected).run r).value :=
    congrArg Prod.fst hvalue
  rw [explain, evaluate, run_get_bind, run_get_bind, ← hresult, ← hstate, ← hnotices]
  exact ⟨_, rfl⟩

end Repository

/-! ## Audiences -/

/-- Nobody, or a sink that may be another one at each of its calls. -/
def Audience : Type := Option (Nat → Sink)

namespace Audience

/-- Nobody is told anything. -/
def nobody : Audience := none

/-- A sink that stays the same, if there is one. -/
def always (sink : Option Sink) : Audience := sink.map fun s _ => s

/-- The sink at the next call. -/
def now (a : Audience) : Option Sink := Option.map (fun sinks => sinks 0) a

/-- The audience after a call. -/
def later (a : Audience) : Audience := Option.map (fun sinks n => sinks (n + 1)) a

theorem always_none : always none = nobody := rfl

@[simp] theorem now_nobody : nobody.now = none := rfl

@[simp] theorem later_nobody : nobody.later = nobody := rfl

@[simp] theorem now_always (sink : Option Sink) : (always sink).now = sink := by
  cases sink <;> rfl

@[simp] theorem later_always (sink : Option Sink) : (always sink).later = always sink := by
  cases sink <;> rfl

theorem isSome_now (a : Audience) : a.now.isSome = a.isSome := by
  cases a <;> rfl

theorem isSome_later (a : Audience) : a.later.isSome = a.isSome := by
  cases a <;> rfl

end Audience

/-- The notices of one call of a sink, if there is one: that it is told, and that it fails. -/
def told (sink : Option Sink) (f : Flag) (t : Target) (v : Variation) : List Notice :=
  match sink with
  | none => []
  | some s =>
    .served f.feature t.identifier v.identifier ::
      if s.fails f t v then [.log .warn "analytics sink panicked"] else []

/-- The notices of the calls of an audience that is told of flags and what they serve. -/
def Audience.hears (t : Target) : Audience → List (Flag × Variation) → List (List Notice)
  | _, [] => []
  | a, (f, v) :: rest => told a.now f t v :: a.later.hears t rest

/-- Who is told of one more flag, or of none, is told of the rest after it. -/
theorem Audience.hears_append (a : Audience) (t : Target) (one : Option (Flag × Variation))
    (rest : List (Flag × Variation)) :
    a.hears t (one.toList ++ rest) =
      a.hears t one.toList ++ (if one.isNone then a else a.later).hears t rest := by
  cases one with
  | none => rfl
  | some p => rfl

/-- A sink that stays the same hears of each thing what it would hear of that alone. -/
theorem Audience.hears_always (sink : Option Sink) (t : Target)
    (resolve? : α → Option (Flag × Variation)) (xs : List α) :
    (always sink).hears t (xs.filterMap resolve?) =
      xs.flatMap fun x => (always sink).hears t (resolve? x).toList := by
  induction xs with
  | nil => rfl
  | cons x xs ih =>
    rw [List.filterMap_eq_flatMap_toList] at ih ⊢
    rw [List.flatMap_cons, List.flatMap_cons, hears_append, later_always, ite_self, ih]

/-- Some lists of notices among others, each as a whole and in order. -/
inductive Inserted : List (List Notice) → List Notice → List Notice → Prop
  | nil : Inserted [] [] []
  | keep {blocks ns ns'} (n : Notice) (h : Inserted blocks ns ns') :
    Inserted blocks (n :: ns) (n :: ns')
  | insert {blocks ns ns'} (block : List Notice) (h : Inserted blocks ns ns') :
    Inserted (block :: blocks) ns (block ++ ns')

namespace Inserted

variable {blocks blocks' : List (List Notice)} {ns ns' ms ms' : List Notice}

theorem refl (ns : List Notice) : Inserted [] ns ns := by
  induction ns with
  | nil => exact .nil
  | cons n ns ih => exact .keep n ih

theorem single (block : List Notice) : Inserted [block] [] block := by
  have h := Inserted.insert block .nil
  rwa [List.append_nil] at h

theorem append (h : Inserted blocks ns ns') (h' : Inserted blocks' ms ms') :
    Inserted (blocks ++ blocks') (ns ++ ms) (ns' ++ ms') := by
  induction h with
  | nil => exact h'
  | keep n _ ih => exact .keep n ih
  | insert block _ ih =>
    rw [List.append_assoc]
    exact .insert block ih

/-- A sink hears what is inserted, and what is said between. -/
theorem servedIn_eq (h : Inserted blocks ns ns') (hquiet : servedIn ns = []) :
    servedIn ns' = blocks.flatMap servedIn := by
  induction h with
  | nil => rfl
  | keep n _ ih =>
    have hsplit := servedIn_append [n]
    rw [← List.singleton_append, hsplit, List.append_eq_nil_iff] at hquiet
    rw [← List.singleton_append, hsplit, hquiet.1, ih hquiet.2, List.nil_append]
  | insert block _ ih =>
    rw [servedIn_append, ih hquiet, List.flatMap_cons]

end Inserted

theorem servedIn_told (sink : Option Sink) (f : Flag) (t : Target) (v : Variation) :
    servedIn (told sink f t v) =
      if sink.isSome then [(f.feature, t.identifier, v.identifier)] else [] := by
  cases sink with
  | none => rfl
  | some s =>
    unfold told
    dsimp only
    split <;> rfl

/-- What an audience hears of is named in the order in which it is told. -/
theorem servedIn_hears (a : Audience) (t : Target) (served : List (Flag × Variation)) :
    (a.hears t served).flatMap servedIn =
      if a.isSome then served.map fun p => (p.1.feature, t.identifier, p.2.identifier) else [] := by
  induction served generalizing a with
  | nil =>
    rw [Audience.hears, List.flatMap_nil, List.map_nil, ite_self]
  | cons p served ih =>
    rw [Audience.hears, List.flatMap_cons, servedIn_told, ih, a.isSome_now, a.isSome_later]
    cases a with
    | none => rfl
    | some sinks => rfl

/-! ## Outcomes with and without a sink -/

/-- An outcome is the one without a sink, but for the notices of the sink's calls. -/
structure Overheard (blocks : List (List Notice)) (quiet loud : Outcome Notice Repository α) :
    Prop where
  value : loud.value = quiet.value
  state : loud.state = quiet.state
  notices : Inserted blocks quiet.notices loud.notices
  /-- Without a sink nothing is told. -/
  quiet : servedIn quiet.notices = []

namespace Overheard

variable {blocks blocks' : List (List Notice)}

/-- An outcome in which nothing is told. -/
theorem refl {o : Outcome Notice Repository α} (h : servedIn o.notices = []) :
    Overheard [] o o := ⟨rfl, rfl, .refl _, h⟩

/-- **Actions one after the other.** -/
theorem bind {a a' : RepositoryAction α} {f f' : α → RepositoryAction β} {r : Repository}
    (h : Overheard blocks (a.run r) (a'.run r))
    (hf : Overheard blocks' ((f (a.run r).value).run (a.run r).state)
      ((f' (a.run r).value).run (a.run r).state)) :
    Overheard (blocks ++ blocks') ((a >>= f).run r) ((a' >>= f').run r) := by
  rw [Action.run_bind, Action.run_bind, h.value, h.state]
  refine ⟨hf.value, hf.state, h.notices.append hf.notices, ?_⟩
  rw [servedIn_append, h.quiet, hf.quiet, List.append_nil]

theorem map {a a' : RepositoryAction α} {r : Repository} (g : α → β)
    (h : Overheard blocks (a.run r) (a'.run r)) :
    Overheard blocks ((g <$> a).run r) ((g <$> a').run r) := by
  rw [Action.run_map, Action.run_map, h.value, h.state]
  exact ⟨rfl, rfl, h.notices, h.quiet⟩

/-- **What a sink hears** is what was inserted. -/
theorem servedIn_eq {quiet loud : Outcome Notice Repository α} (h : Overheard blocks quiet loud) :
    servedIn loud.notices = blocks.flatMap servedIn := h.notices.servedIn_eq h.quiet

end Overheard

namespace Evaluator

theorem run_notify (sink : Option Sink) (f : Flag) (t : Target) (v : Variation) (r : Repository) :
    (notify sink f t v).run r = ⟨(), r, told sink f t v⟩ := by
  cases sink with
  | none => rfl
  | some s =>
    unfold notify told
    dsimp only
    split <;> rfl

theorem overheard_notify (a : Audience) (f : Flag) (t : Target) (v : Variation) (r : Repository) :
    Overheard (a.hears t [(f, v)]) ((notify none f t v).run r) ((notify a.now f t v).run r) := by
  rw [run_notify, run_notify]
  exact ⟨rfl, rfl, .single _, rfl⟩

/-- **A flag that resolved is told once**, and one that did not is not told. -/
theorem overheard_finish (a : Audience) (t : Target)
    (result : Except EvaluationError (Flag × Variation)) (r : Repository) :
    Overheard (a.hears t result.toOption.toList) ((finish none t result).run r)
      ((finish a.now t result).run r) := by
  cases result with
  | error e => exact .refl rfl
  | ok p =>
    have hlog : Overheard [] ((Repository.log .trace "evaluated a flag").run r)
        ((Repository.log .trace "evaluated a flag").run r) := .refl rfl
    have hnotify := overheard_notify a p.1 t p.2 r
    exact hlog.bind (hnotify.map fun _ => Except.ok p.2)

/-! ## Flags one after the other -/

/-- What each of some flags serves, as far as it serves something, with an audience that is told of
one after the other. -/
def serveInTurn (t : Target) : Audience → List Flag → RepositoryAction (List (String × Variation))
  | _, [] => return []
  | a, f :: fs => do
    let served ← serveEach a.now t [f]
    return served ++ (← serveInTurn t (if served.isEmpty then a else a.later) fs)

/-- What some flags serve, evaluated one after the other. -/
def servedAlong (t : Target) : List Flag → Repository → List (Flag × Variation)
  | [], _ => []
  | f :: fs, r =>
    let o := (Repository.serve f t).run r
    (o.value.toOption.map (f, ·)).toList ++ servedAlong t fs o.state

theorem mem_of_servedAlong {t : Target} {fs : List Flag} {r : Repository} {p : Flag × Variation}
    (h : p ∈ servedAlong t fs r) : p.1 ∈ fs := by
  induction fs generalizing r with
  | nil => exact absurd h List.not_mem_nil
  | cons f fs ih =>
    rw [servedAlong, List.mem_append] at h
    rcases h with h | h
    · obtain ⟨v, -, rfl⟩ := Option.map_eq_some_iff.mp (Option.mem_toList.mp h)
      exact List.mem_cons_self
    · exact List.mem_cons_of_mem f (ih h)

theorem run_serveEach_singleton (sink : Option Sink) (t : Target) (f : Flag) (r : Repository) :
    (serveEach sink t [f]).run r =
      let o := (Repository.serve f t).run r
      match o.value with
      | .ok v => ⟨[(f.feature, v)], o.state, o.notices ++ told sink f t v⟩
      | .error e => ⟨[], o.state,
          o.notices ++ [.log .warn ("skipping flag that failed to evaluate: " ++ e.message)]⟩ := by
  unfold serveEach
  rw [Action.run_bind]
  dsimp only
  cases ((Repository.serve f t).run r).value with
  | error e => rfl
  | ok v =>
    dsimp only
    rw [Action.run_bind, run_notify, serveEach]
    simp

theorem serveEach_cons (sink : Option Sink) (t : Target) (f : Flag) (fs : List Flag) :
    serveEach sink t (f :: fs) = (do
      let served ← serveEach sink t [f]
      return served ++ (← serveEach sink t fs)) := by
  simp only [serveEach, bind_assoc]
  refine congrArg _ (funext fun result => ?_)
  cases result with
  | ok v => simp only [bind_assoc, pure_bind, List.singleton_append]
  | error e => simp only [bind_assoc, pure_bind, List.nil_append, bind_pure]

/-- A sink that stays the same is told as the evaluator tells it. -/
theorem serveInTurn_always (sink : Option Sink) (t : Target) :
    serveInTurn t (.always sink) = serveEach sink t := by
  funext fs
  induction fs with
  | nil => rfl
  | cons f fs ih =>
    rw [serveInTurn, serveEach_cons sink t f fs, Audience.now_always]
    refine congrArg _ (funext fun served => ?_)
    rw [Audience.later_always, ite_self, ih]

/-- One flag by itself, with nobody to be told. -/
theorem value_serveEach_singleton (t : Target) (f : Flag) (r : Repository) :
    let one := ((Repository.serve f t).run r).value.toOption.map (f, ·)
    ((serveEach none t [f]).run r).value = one.toList.map (fun p => (p.1.feature, p.2)) ∧
      ((serveEach none t [f]).run r).state = ((Repository.serve f t).run r).state := by
  rw [run_serveEach_singleton]
  dsimp only
  cases ((Repository.serve f t).run r).value with
  | error e => exact ⟨rfl, rfl⟩
  | ok v => exact ⟨rfl, rfl⟩

theorem overheard_serveEach_singleton (a : Audience) (t : Target) (f : Flag) (r : Repository) :
    let one := ((Repository.serve f t).run r).value.toOption.map (f, ·)
    Overheard (a.hears t one.toList) ((serveEach none t [f]).run r)
      ((serveEach a.now t [f]).run r) := by
  have hserve := Repository.servedIn_serve f t r
  rw [run_serveEach_singleton, run_serveEach_singleton]
  dsimp only
  cases ((Repository.serve f t).run r).value with
  | error e =>
    refine .refl ?_
    rw [servedIn_append, hserve]
    rfl
  | ok v =>
    refine ⟨rfl, rfl, ?_, ?_⟩
    · exact (Inserted.refl _).append (.single _)
    · rw [servedIn_append, hserve]
      rfl

/-- **Each flag that serves something is told once**, in the order of the list. -/
theorem overheard_serveInTurn (a : Audience) (t : Target) (fs : List Flag) (r : Repository) :
    Overheard (a.hears t (servedAlong t fs r)) ((serveInTurn t .nobody fs).run r)
      ((serveInTurn t a fs).run r) := by
  induction fs generalizing a r with
  | nil => exact .refl rfl
  | cons f fs ih =>
    have hone := overheard_serveEach_singleton a t f r
    obtain ⟨hvalue, hstate⟩ := value_serveEach_singleton t f r
    rw [servedAlong, Audience.hears_append]
    refine hone.bind ?_
    rw [hvalue, hstate, Audience.later_nobody, ite_self]
    -- whether a flag served something is seen by what was made of it
    cases ((Repository.serve f t).run r).value with
    | error e => exact (ih a _).map _
    | ok v => exact (ih a.later _).map _

/-- **What they serve** is what they are told to serve. -/
theorem value_serveInTurn (t : Target) (fs : List Flag) (r : Repository) :
    ((serveInTurn t .nobody fs).run r).value =
      (servedAlong t fs r).map fun p => (p.1.feature, p.2) := by
  induction fs generalizing r with
  | nil => rfl
  | cons f fs ih =>
    obtain ⟨hvalue, hstate⟩ := value_serveEach_singleton t f r
    have hrest := ih ((Repository.serve f t).run r).state
    rw [serveInTurn, Audience.later_nobody, Action.run_bind, Audience.now_nobody, servedAlong,
      List.map_append, ← hrest, ← hvalue, ← hstate]
    dsimp only
    rw [ite_self]
    rfl

end Evaluator

end FlagReplica
