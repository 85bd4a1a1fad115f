import FlagReplica.Proofs.Sync.Effects
/-!
# When the first synchronization is over

A synchronizer is ready when some pull stored the flags and the segments, each half of it in the
same pull, before the thread died if it has (`Course.isInitialized_iff`). So it stays ready whatever
comes later, and if the thread dies first it never gets ready, and whoever waits for it learns that.

What carries this along a course is that a pull remembers how its halves came out
(`Remembers`), and that the first outcome that is recorded stays (`Outcomes`). That a half was
stored is no more than an answer in all this. What the answer says is true (`stores_of_half`): the
list of the half took the place of the list before it.
-/

namespace FlagReplica

/-- How a half of a pull came out, if it was answered. -/
def Half.result? : Half → Option Bool
  | .answered stored => some stored
  | _ => none

theorem Pull.half_answer (p : Pull) (kind kind' : EntityKind) (stored : Bool) :
    ((p.answer kind stored).half kind').result? =
      if kind = kind' then some stored else (p.half kind').result? := by
  cases kind <;> cases kind' <;> rfl

theorem Pull.outcome?_eq (p : Pull) :
    p.outcome? = match (p.half .flag).result?, (p.half .segment).result? with
      | some flags, some segments => some (flags && segments)
      | _, _ => none := by
  obtain ⟨flags, segments⟩ := p
  cases flags <;> cases segments <;> rfl

/-! ## Halves along a course -/

section Halves

variable {who : Puller} {kind : EntityKind} {m : Moment} {past now : List Moment}

theorem halfOf_cons (who : Puller) (kind : EntityKind) (m : Moment) (past : List Moment) :
    halfOf who kind (m :: past) =
      if m.begins who then none else (m.half? who kind).or (halfOf who kind past) := by
  unfold halfOf
  by_cases h : m.begins who
  · rw [if_pos h, List.takeWhile_cons, if_neg (by simp [h])]
    rfl
  · rw [if_neg h, List.takeWhile_cons, if_pos (by simp [h]), List.findSome?_cons]
    cases m.half? who kind <;> rfl

theorem pullOf_cons_of_begins (h : m.begins who = true) : pullOf who (m :: past) = none := by
  rw [pullOf, halfOf_cons, if_pos h]

/-- What neither begins someone's pull nor answers a half of it leaves it as it is. -/
theorem pullOf_cons_of_same (hbegins : m.begins who = false)
    (hhalf : ∀ kind, m.half? who kind = none) : pullOf who (m :: past) = pullOf who past := by
  simp only [pullOf, halfOf_cons, hbegins, hhalf, Bool.false_eq_true, if_false, Option.none_or]

/-- A pull that has the halves of a course came out as they did. -/
theorem pullOf_eq_outcome? {p : Pull}
    (h : ∀ kind, halfOf who kind past = (p.half kind).result?) : pullOf who past = p.outcome? := by
  rw [pullOf, h, h]
  exact p.outcome?_eq.symm

theorem hasPanicked_cons : hasPanicked (m :: past) = (m.what.panics || hasPanicked past) := rfl

theorem hasPanicked_of_suffix (h : now <:+ past) (hnow : hasPanicked now = true) :
    hasPanicked past = true := by
  obtain ⟨m, hm, hpanics⟩ := List.any_eq_true.mp hnow
  exact List.any_eq_true.mpr ⟨m, h.subset hm, hpanics⟩

/-- A course in which some pull stored both is one already, or its last moment makes it one. -/
theorem hasPulled_cons_iff : HasPulled (m :: past) ↔
    HasPulled past ∨
      hasPanicked (m :: past) = false ∧ ∃ who, pullOf who (m :: past) = some true := by
  constructor
  · rintro ⟨now, who, hsuffix, hlives, hpull⟩
    rcases List.suffix_cons_iff.mp hsuffix with rfl | hpast
    · exact .inr ⟨hlives, who, hpull⟩
    · exact .inl ⟨now, who, hpast, hlives, hpull⟩
  · rintro (⟨now, who, hsuffix, hlives, hpull⟩ | ⟨hlives, who, hpull⟩)
    · exact ⟨now, who, hsuffix.trans (List.suffix_cons _ _), hlives, hpull⟩
    · exact ⟨m :: past, who, List.suffix_rfl, hlives, hpull⟩

theorem HasPulled.of_suffix (h : HasPulled now) (hsuffix : now <:+ past) : HasPulled past := by
  obtain ⟨then', who, hthen, hlives, hpull⟩ := h
  exact ⟨then', who, hthen.trans hsuffix, hlives, hpull⟩

end Halves

namespace Synchronizer

variable {s s' : Synchronizer} {w : Happening} {rs : List Request} {past : List Moment}
  {who : Puller} {session : Session} {p : Pull} {m : Moment}

/-! ## Pulls -/

theorem pulling?_atPull (s : Synchronizer) (who who' : Puller) (session : Session) (p : Pull) :
    (s.atPull who session p).pulling? who' =
      if who = who' then some (session, p) else s.pulling? who' := by
  cases who <;> cases who' <;> rfl

theorem pulling?_pastPull (s : Synchronizer) (who who' : Puller) (session : Session) :
    (s.pastPull who session).pulling? who' =
      if who = who' then none else s.pulling? who' := by
  cases who <;> cases who' <;> rfl

theorem pulling?_afterHalf (s : Synchronizer) (who who' : Puller) (session : Session) (p : Pull) :
    (s.afterHalf who session p).pulling? who' =
      if who = who' then (if p.outcome? = none then some (session, p) else none)
      else s.pulling? who' := by
  unfold afterHalf
  rcases p.outcome? with _ | _ | _
  · rw [pulling?_atPull, if_pos rfl]
  · rw [pulling?_pastPull, if_neg (Option.some_ne_none _)]
  · rw [pulling?_pastPull, if_neg (Option.some_ne_none _)]
    rfl

theorem begins_of_half? {x : Puller × EntityKind × Bool} (h : w.half? s = some x) (who : Puller)
    (rs : List Request) : w.begins who rs = false := by
  obtain ⟨-, htick, hconnects, -, -⟩ := plain_of_half? h
  cases who with
  | poll => rw [Happening.begins, htick, Bool.false_and]
  | stream => rw [Happening.begins, hconnects, Bool.false_and]

/-- An answer to a half of a pull is an answer to no other half. -/
theorem halfFor?_of_half? {who' : Puller} {kind : EntityKind} {stored : Bool}
    (hw : w.half? s = some (who', kind, stored)) (who : Puller) (kind' : EntityKind) :
    w.halfFor? s who kind' = if who' = who ∧ kind = kind' then some stored else none := by
  rw [Happening.halfFor?, hw]

/-- The pull goes on from one that was under way, with the half that was answered, if any was. -/
def GoesOn (s : Synchronizer) (w : Happening) (who : Puller) (session : Session) (p : Pull) :
    Prop :=
  ∃ q, s.pulling? who = some (session, q) ∧
    ∀ kind, (p.half kind).result? = (w.halfFor? s who kind).or (q.half kind).result?

/-- Someone of whose pull nothing was answered goes on as before, or is at no pull any more. -/
theorem goesOn_of_same (hhalf : ∀ kind, w.halfFor? s who kind = none)
    (hsame : s'.pulling? who = s.pulling? who ∨ s'.pulling? who = none)
    (hpull : s'.pulling? who = some (session, p)) : GoesOn s w who session p := by
  rcases hsame with hsame | hnone
  · refine ⟨p, hsame ▸ hpull, fun kind => ?_⟩
    rw [hhalf, Option.none_or]
  · rw [hnone] at hpull
    cases hpull

/-- The pull of which a half was answered goes on with it, and the other pull as before. -/
theorem goesOn_of_half {who' : Puller} {kind : EntityKind} {stored : Bool} {session' : Session}
    {q : Pull} (r : Repository) (hw : w.half? s = some (who', kind, stored))
    (hold : s.pulling? who' = some (session', q))
    (hpull : ({ s with repository := r }.afterHalf who' session' (q.answer kind stored)).pulling?
      who = some (session, p)) : GoesOn s w who session p := by
  have hhalf := halfFor?_of_half? hw who
  rw [pulling?_afterHalf] at hpull
  by_cases hwho : who' = who
  · rw [if_pos hwho] at hpull
    split at hpull
    · cases hpull
      refine ⟨q, hwho ▸ hold, fun kind' => ?_⟩
      rw [hhalf, Pull.half_answer]
      by_cases hkind : kind = kind'
      · simp [hwho, hkind]
      · simp [hkind]
    · cases hpull
  · rw [if_neg hwho] at hpull
    refine goesOn_of_same (fun kind' => ?_) (.inl rfl) hpull
    rw [hhalf, if_neg fun h => hwho h.1]

/-- **A pull is begun, or goes on.** -/
theorem Effect.pulling (h : Effect s w rs s') (hpull : s'.pulling? who = some (session, p)) :
    (w.begins who rs = true ∧ p = .start) ∨
      (w.begins who rs = false ∧ GoesOn s w who session p) := by
  cases h with
  | outside r | closing | flushed r hflush | granted session' hauth | refused e hauth
  | askedAgain hauth | followed e r hstream | leftAuth hauth | leftFlush hflush =>
    exact .inr ⟨by cases who <;> rfl, goesOn_of_same (fun _ => rfl) (.inl rfl) hpull⟩
  | skipped hw hup =>
    refine .inr ⟨by cases hw <;> cases who <;> rfl, goesOn_of_same (fun _ => ?_) ?_ hpull⟩
    · cases hw <;> rfl
    · cases who with
      | poll => exact .inr rfl
      | stream => exact .inl rfl
  | polled hw hdown =>
    cases who with
    | poll =>
      cases hpull
      exact .inl ⟨by cases hw <;> rfl, rfl⟩
    | stream =>
      refine .inr ⟨by cases hw <;> rfl, goesOn_of_same (fun _ => ?_) (.inl rfl) hpull⟩
      cases hw <;> rfl
  | @askedSegments who' session' flags hasked =>
    refine .inr ⟨by cases who <;> rfl, ?_⟩
    by_cases hwho : who' = who
    · rw [pulling?_atPull, if_pos hwho] at hpull
      cases hpull
      exact ⟨_, hwho ▸ hasked, fun kind => by cases kind <;> rfl⟩
    · rw [pulling?_atPull, if_neg hwho] at hpull
      exact goesOn_of_same (fun _ => rfl) (.inl rfl) hpull
  | answered r hw hold hasked =>
    exact .inr ⟨begins_of_half? hw who [], goesOn_of_half r hw hold hpull⟩
  | connecting hw =>
    refine .inr ⟨by cases hw <;> cases who <;> rfl, goesOn_of_same (fun _ => ?_) ?_ hpull⟩
    · cases hw <;> rfl
    · cases who with
      | poll => exact .inl rfl
      | stream => exact .inr rfl
  | connected hstream =>
    cases who with
    | poll => exact .inr ⟨rfl, goesOn_of_same (fun _ => rfl) (.inl rfl) hpull⟩
    | stream =>
      cases hpull
      exact .inl ⟨rfl, rfl⟩
  | refusedStream e hstream | fetching e r kind hstream | failed e hstream | finished hstream
  | flagFetched answer r hstream | segmentFetched answer r hstream | leftStream hstream
  | gaveUp hstream =>
    refine .inr ⟨by cases who <;> rfl, goesOn_of_same (fun _ => rfl) ?_ hpull⟩
    cases who with
    | poll => exact .inl rfl
    | stream => exact .inr rfl
  | leftPoll hpoll hidle =>
    refine .inr ⟨by cases who <;> rfl, goesOn_of_same (fun _ => rfl) ?_ hpull⟩
    cases who with
    | poll => exact .inr rfl
    | stream => exact .inl rfl
  | crashed halive | died halive | cancelled halive => cases who <;> cases hpull

/-- Whoever is at a pull remembers how its halves came out. -/
def Remembers (past : List Moment) (s : Synchronizer) : Prop :=
  ∀ who session p, s.pulling? who = some (session, p) →
    ∀ kind, halfOf who kind past = (p.half kind).result?

theorem remembers_initial (config : SyncConfig) (hasConnector : Bool) (r : Repository)
    (past : List Moment) : Remembers past (initial config hasConnector r) := by
  intro who session p hpull
  cases who with
  | poll => cases hpull
  | stream =>
    rw [initial, pulling?] at hpull
    split at hpull
    · next h => split at h <;> cases h
    · cases hpull

/-- **Whatever happens, pulls remember.** -/
theorem Remembers.step {o : Outcome Notice Synchronizer Unit} (h : Remembers past s)
    (heffect : Effect s w (requestsIn o.notices) s') : Remembers (⟨s, w, o⟩ :: past) s' := by
  intro who session p hpull kind
  rw [halfOf_cons]
  rcases heffect.pulling hpull with ⟨hbegins, rfl⟩ | ⟨hbegins, q, hq, hresults⟩
  · rw [Moment.begins, Moment.requests, hbegins, if_pos rfl]
    cases kind <;> rfl
  · rw [Moment.begins, Moment.requests, hbegins, if_neg Bool.false_ne_true, h who session q hq]
    exact (hresults kind).symm

/-! ## Outcomes -/

theorem readiness_afterHalf (s : Synchronizer) (who : Puller) (session : Session) (p : Pull) :
    (s.afterHalf who session p).readiness =
      if p.outcome? = some true then s.readiness.or (some (.ok ())) else s.readiness := by
  unfold afterHalf
  rcases p.outcome? with _ | _ | _ <;> cases who <;> rfl

/-- **What is recorded of the first synchronization** is recorded by a death, or by an answer that
ends a pull, and by nothing else. -/
theorem Effect.readiness (h : Effect s w rs s') :
    (w.panics = true ∧ s.isAlive = true ∧ s' = s.dead) ∨
    (w.panics = false ∧ w.half? s = none ∧ s'.readiness = s.readiness) ∨
    (w.panics = false ∧ ∃ who kind stored session p, w.half? s = some (who, kind, stored) ∧
      s.pulling? who = some (session, p) ∧ s'.readiness =
        if (p.answer kind stored).outcome? = some true then s.readiness.or (some (.ok ()))
        else s.readiness) := by
  cases h with
  | crashed halive | died halive => exact .inl ⟨rfl, halive, rfl⟩
  | @answered w who kind stored session p r hw hpull hasked =>
    obtain ⟨-, -, -, -, hpanics⟩ := plain_of_half? hw
    exact .inr (.inr ⟨hpanics, who, kind, stored, session, p, hw, hpull,
      readiness_afterHalf _ who session _⟩)
  | skipped hw hup => exact .inr (.inl (by cases hw <;> exact ⟨rfl, rfl, rfl⟩))
  | polled hw hdown => exact .inr (.inl (by cases hw <;> exact ⟨rfl, rfl, rfl⟩))
  | connecting hw => exact .inr (.inl (by cases hw <;> exact ⟨rfl, rfl, rfl⟩))
  | @askedSegments who session flags hpull =>
    exact .inr (.inl ⟨rfl, rfl, by cases who <;> rfl⟩)
  | _ => exact .inr (.inl ⟨rfl, rfl, rfl⟩)

theorem pulling?_of_not_isAlive (hover : s.isAlive = false) : s.pulling? who = none := by
  obtain ⟨-, hpoll, hstream, -⟩ := isAlive_eq_false_iff.mp hover
  cases who with
  | poll => rw [pulling?, hpoll]
  | stream => rw [pulling?, hstream]

/-- Once all activities are over they stay so, for nobody is left to do anything. -/
theorem Effect.not_isAlive (h : Effect s w rs s') (hover : s.isAlive = false) :
    s'.isAlive = false := by
  obtain ⟨hauth, hpoll, hstream, hflush⟩ := isAlive_eq_false_iff.mp hover
  cases h with
  | outside r | closing => exact hover
  | flushed r h | leftFlush h => cases hflush.symm.trans h
  | granted session h | refused e h | askedAgain h | leftAuth h => cases hauth.symm.trans h
  | skipped hw _ | polled hw _ =>
    cases hw with
    | first h _ => cases hpoll.symm.trans h
    | again h => cases hpoll.symm.trans h
  | askedSegments h | answered _ _ h _ => cases (pulling?_of_not_isAlive hover).symm.trans h
  | connecting hw =>
    cases hw with
    | first h _ _ => cases hstream.symm.trans h
    | again h => cases hstream.symm.trans h
  | connected h | refusedStream _ h | followed _ _ h | fetching _ _ _ h | failed _ h | finished h
  | flagFetched _ _ h | segmentFetched _ _ h | gaveUp h => cases hstream.symm.trans h
  | crashed h | died h | cancelled h => cases hover.symm.trans h
  | leftPoll h _ => exact absurd hpoll h
  | leftStream h =>
    rcases h with h | ⟨session, h⟩
    · cases hstream.symm.trans h
    · cases hstream.symm.trans h

/-- What is recorded of the first synchronization is how the course says that it ended. -/
structure Outcomes (past : List Moment) (s : Synchronizer) : Prop where
  halted : hasPanicked past = true → s.isAlive = false
  recorded : hasPanicked past = true → s.readiness ≠ none
  failed : ∀ e, s.readiness = some (.error e) → e = .synchronizerPanicked ∧ hasPanicked past = true
  ready : s.readiness = some (.ok ()) ↔ HasPulled past

theorem outcomes_initial (config : SyncConfig) (hasConnector : Bool) (r : Repository) :
    Outcomes [.first config hasConnector r] (initial config hasConnector r) where
  halted h := by cases h
  recorded h := by cases h
  failed e h := by cases h
  ready := by
    refine ⟨nofun, fun h => ?_⟩
    rcases hasPulled_cons_iff.mp h with ⟨now, who, hsuffix, -, hpull⟩ | ⟨-, who, hpull⟩
    · rw [List.suffix_nil.mp hsuffix] at hpull
      cases hpull
    · cases who <;> cases hpull

theorem isAlive_dead (s : Synchronizer) : s.dead.isAlive = false := rfl

section Step

variable {o : Outcome Notice Synchronizer Unit}

/-- What answers no half of a pull brings no pull to its end. -/
theorem hasPulled_cons_of_not_half (hpanics : w.panics = false) (hhalf : w.half? s = none) :
    HasPulled (⟨s, w, o⟩ :: past) ↔ HasPulled past := by
  refine ⟨fun h => ?_, fun h => h.of_suffix (List.suffix_cons _ _)⟩
  rcases hasPulled_cons_iff.mp h with hpast | ⟨hlives, who, hpull⟩
  · exact hpast
  · rw [hasPanicked_cons, hpanics, Bool.false_or] at hlives
    have hnone : ∀ kind, (⟨s, w, o⟩ : Moment).half? who kind = none := fun kind => by
      rw [Moment.half?, Happening.halfFor?, hhalf]
    by_cases hbegins : (⟨s, w, o⟩ : Moment).begins who = true
    · rw [pullOf_cons_of_begins hbegins] at hpull
      cases hpull
    · rw [pullOf_cons_of_same (Bool.eq_false_iff.mpr hbegins) hnone] at hpull
      exact ⟨past, who, List.suffix_rfl, hlives, hpull⟩

/-- What answers a half of a pull brings that pull to its end, if it was the last half. -/
theorem hasPulled_cons_of_half {kind : EntityKind} {stored : Bool} (hmemory : Remembers past s)
    (hpanics : w.panics = false) (hlives : hasPanicked past = false)
    (hw : w.half? s = some (who, kind, stored)) (hpull : s.pulling? who = some (session, p)) :
    HasPulled (⟨s, w, o⟩ :: past) ↔
      HasPulled past ∨ (p.answer kind stored).outcome? = some true := by
  have hbegins : ∀ who', (⟨s, w, o⟩ : Moment).begins who' = false :=
    fun who' => begins_of_half? hw who' _
  have hlives' : hasPanicked (⟨s, w, o⟩ :: past) = false := by
    rw [hasPanicked_cons, hpanics, hlives]
    rfl
  have hhalf : ∀ who' kind', (⟨s, w, o⟩ : Moment).half? who' kind' =
      if who = who' ∧ kind = kind' then some stored else none := halfFor?_of_half? hw
  have hthis : pullOf who (⟨s, w, o⟩ :: past) = (p.answer kind stored).outcome? := by
    refine pullOf_eq_outcome? fun kind' => ?_
    rw [halfOf_cons, hbegins, if_neg Bool.false_ne_true, hhalf, Pull.half_answer,
      hmemory who session p hpull]
    by_cases hkind : kind = kind'
    · simp [hkind]
    · simp [hkind]
  have hothers : ∀ who', who ≠ who' → pullOf who' (⟨s, w, o⟩ :: past) = pullOf who' past :=
    fun who' hne => pullOf_cons_of_same (hbegins who') fun kind' => by
      rw [hhalf, if_neg fun h => hne h.1]
  rw [hasPulled_cons_iff, ← hthis]
  constructor
  · rintro (hpast | ⟨-, who', hpull'⟩)
    · exact .inl hpast
    · by_cases hwho : who = who'
      · exact .inr (hwho ▸ hpull')
      · rw [hothers who' hwho] at hpull'
        exact .inl ⟨past, who', List.suffix_rfl, hlives, hpull'⟩
  · rintro (hpast | hpull')
    · exact .inl hpast
    · exact .inr ⟨hlives', who, hpull'⟩

/-- Nothing that comes with a death or after it brings a pull to its end. -/
theorem hasPulled_cons_of_panics (hpanics : w.panics = true) :
    HasPulled (⟨s, w, o⟩ :: past) ↔ HasPulled past := by
  refine ⟨fun h => ?_, fun h => h.of_suffix (List.suffix_cons _ _)⟩
  rcases hasPulled_cons_iff.mp h with hpast | ⟨hlives, -⟩
  · exact hpast
  · rw [hasPanicked_cons, hpanics] at hlives
    cases hlives

/-- A death is recorded if nothing was. -/
theorem Outcomes.died (h : Outcomes past s) (hpanics : w.panics = true) :
    Outcomes (⟨s, w, o⟩ :: past) s.dead := by
  have hpanicked : hasPanicked (⟨s, w, o⟩ :: past) = true := by rw [hasPanicked_cons, hpanics]; rfl
  have hready : s.dead.readiness = s.readiness.or (some (.error .synchronizerPanicked)) := rfl
  refine ⟨fun _ => isAlive_dead s, fun _ hnone => ?_, fun e he => ⟨?_, hpanicked⟩, ?_⟩
  · rw [hready] at hnone
    cases hs : s.readiness <;> rw [hs] at hnone <;> cases hnone
  · rw [hready] at he
    rcases Option.or_eq_some_iff.mp he with hbefore | ⟨-, hnew⟩
    · exact (h.failed e hbefore).1
    · cases hnew
      rfl
  · rw [hasPulled_cons_of_panics hpanics, ← h.ready, hready]
    cases hs : s.readiness with
    | none => exact ⟨nofun, nofun⟩
    | some outcome => exact Iff.rfl

/-- An answer to a half of a pull is recorded if nothing was, and if both halves went well. -/
theorem Outcomes.answered {kind : EntityKind} {stored : Bool} (h : Outcomes past s)
    (hmemory : Remembers past s) (hpanics : w.panics = false)
    (hw : w.half? s = some (who, kind, stored)) (hpull : s.pulling? who = some (session, p))
    (hready : s'.readiness =
      if (p.answer kind stored).outcome? = some true then s.readiness.or (some (.ok ()))
      else s.readiness) : Outcomes (⟨s, w, o⟩ :: past) s' := by
  -- who pulls is alive, so nothing has died yet
  have hlives : hasPanicked past = false := by
    by_contra hdied
    have hnone : s.pulling? who = none :=
      pulling?_of_not_isAlive (h.halted (Bool.not_eq_false _ ▸ hdied))
    rw [hnone] at hpull
    cases hpull
  have hlives' : hasPanicked (⟨s, w, o⟩ :: past) = false := by
    rw [hasPanicked_cons, hpanics, hlives]
    rfl
  have hbefore : s.readiness = none ∨ s.readiness = some (.ok ()) := by
    rcases hs : s.readiness with _ | e | _
    · exact .inl rfl
    · exact absurd (h.failed e hs).2 (by rw [hlives]; exact Bool.false_ne_true)
    · exact .inr rfl
  refine ⟨fun hdied => ?_, fun hdied => ?_, fun e he => ?_, ?_⟩
  · exact absurd (hlives'.symm.trans hdied) Bool.false_ne_true
  · exact absurd (hlives'.symm.trans hdied) Bool.false_ne_true
  · rw [hready] at he
    rcases hbefore with hs | hs <;> rw [hs] at he <;> split at he <;> cases he
  -- what was recorded first stays, so a pull that went well changes nothing if another one had
  · rw [hasPulled_cons_of_half hmemory hpanics hlives hw hpull, ← h.ready, hready]
    by_cases houtcome : (p.answer kind stored).outcome? = some true
    · rw [if_pos houtcome]
      rcases hbefore with hs | hs <;> rw [hs] <;> exact ⟨fun _ => .inr houtcome, fun _ => rfl⟩
    · rw [if_neg houtcome, or_iff_left houtcome]

/-- **Whatever happens, what is recorded is how the course says that it ended.** -/
theorem Outcomes.step (h : Outcomes past s) (hmemory : Remembers past s)
    (heffect : Effect s w (requestsIn o.notices) s') : Outcomes (⟨s, w, o⟩ :: past) s' := by
  rcases heffect.readiness with ⟨hpanics, halive, rfl⟩ | ⟨hpanics, hhalf, hsame⟩ |
    ⟨hpanics, who, kind, stored, session, p, hw, hpull, hready⟩
  · exact h.died hpanics
  · have hpanicked : hasPanicked (⟨s, w, o⟩ :: past) = hasPanicked past := by
      rw [hasPanicked_cons, hpanics, Bool.false_or]
    refine ⟨fun hdied => ?_, ?_, ?_, ?_⟩
    · exact heffect.not_isAlive (h.halted (hpanicked ▸ hdied))
    · rw [hpanicked, hsame]
      exact h.recorded
    · rw [hpanicked, hsame]
      exact h.failed
    · rw [hasPulled_cons_of_not_half hpanics hhalf, hsame]
      exact h.ready
  · exact h.answered hmemory hpanics hw hpull hready

end Step

end Synchronizer

/-! ## Courses -/

namespace Course

variable {config : SyncConfig} {hasConnector : Bool} {r : Repository}
  {past earlier : List Moment} {now : Moment} {s : Synchronizer}

open Synchronizer (Effect)

/-- A moment of a course is its first one, or has an effect on what a course comes to before it. -/
theorem moment_of_suffix (h : Course config hasConnector r past s)
    (hsuffix : now :: earlier <:+ past) :
    (now = .first config hasConnector r ∧ earlier = []) ∨
      Course config hasConnector r earlier now.before ∧
        Effect now.before now.what now.requests now.outcome.state := by
  induction h with
  | started =>
    rcases List.suffix_cons_iff.mp hsuffix with heq | hnil
    · cases heq
      exact .inl ⟨rfl, rfl⟩
    · cases List.suffix_nil.mp hnil
  | happened hpast h ih =>
    rcases List.suffix_cons_iff.mp hsuffix with heq | hin
    · cases heq
      exact .inr ⟨hpast, Synchronizer.effect_of_happen h⟩
    · exact ih hin

/-- **Where a course says that a half of a pull was stored, it was.** -/
theorem stores_of_half (h : Course config hasConnector r past s) (hsuffix : now :: earlier <:+ past)
    {who : Puller} {kind : EntityKind} (hhalf : now.half? who kind = some true) :
    now.Stores who kind := by
  rcases h.moment_of_suffix hsuffix with ⟨rfl, -⟩ | ⟨-, heffect⟩
  · cases hhalf
  · exact heffect.stores hhalf

theorem remembers (h : Course config hasConnector r past s) : s.Remembers past := by
  induction h with
  | started => exact Synchronizer.remembers_initial config hasConnector r _
  | happened hpast h ih => exact ih.step (Synchronizer.effect_of_happen h)

theorem outcomes (h : Course config hasConnector r past s) : s.Outcomes past := by
  induction h with
  | started => exact Synchronizer.outcomes_initial config hasConnector r
  | happened hpast h ih => exact ih.step hpast.remembers (Synchronizer.effect_of_happen h)

/-- **A synchronizer is ready exactly if some pull stored the flags and the segments**, both in the
same pull, before the thread died if it has. In any course, however fetches, connections, events and
polls came out and in whatever order, it is ready exactly then; it stays ready however the course
goes on; and if the thread dies before that, it is never ready, and whoever waits for it is told
that the thread died. A half of a pull counts as stored only if its list came, and took the place of
the list before it. -/
theorem isInitialized_iff (h : Course config hasConnector r past s) :
    (s.isInitialized = true ↔ HasPulled past) ∧
      (s.isInitialized = true → ∀ later s', Course config hasConnector r (later ++ past) s' →
        s'.isInitialized = true) ∧
      (∀ death earlier, death :: earlier <:+ past → death.what.panics = true →
        ¬ HasPulled earlier →
        s.isInitialized = false ∧ s.initialization = .error .synchronizerPanicked) ∧
      ∀ now earlier who kind, now :: earlier <:+ past → now.half? who kind = some true →
        now.Stores who kind := by
  have hready : ∀ {past s}, Course config hasConnector r past s →
      (s.isInitialized = true ↔ HasPulled past) := fun h => by
    rw [← h.outcomes.ready, Synchronizer.isInitialized]
    split
    · next hs => rw [hs]; exact ⟨fun _ => rfl, fun _ => rfl⟩
    · next hs => exact ⟨nofun, fun hok => absurd hok hs⟩
  -- what the course says of its pulls only grows as it goes on
  refine ⟨hready h, fun hs later s' h' => ?_, fun death earlier hsuffix hpanics hnot => ?_,
    fun now earlier who kind hsuffix hhalf => h.stores_of_half hsuffix hhalf⟩
  · exact (hready h').mpr (((hready h).mp hs).of_suffix (List.suffix_append later past))
  · have hdied : hasPanicked past = true :=
      hasPanicked_of_suffix hsuffix (by rw [hasPanicked_cons, hpanics]; rfl)
    have hnever : ¬ HasPulled past := by
      rintro ⟨now, who, hnow, hlives, hpull⟩
      -- the pull ended before the death, or else the death would be among what came before its end
      rcases List.suffix_or_suffix_of_suffix hnow hsuffix with hin | hin
      · rcases List.suffix_cons_iff.mp hin with rfl | hin
        · rw [hasPanicked_cons, hpanics] at hlives
          cases hlives
        · exact hnot ⟨now, who, hin, hlives, hpull⟩
      · have := hasPanicked_of_suffix hin (by rw [hasPanicked_cons, hpanics]; rfl)
        rw [hlives] at this
        cases this
    have hfalse : s.isInitialized = false := by
      rw [← Bool.not_eq_true, hready h]
      exact hnever
    refine ⟨hfalse, ?_⟩
    rcases hs : s.readiness with _ | e | _
    · exact absurd hs (h.outcomes.recorded hdied)
    · rw [Synchronizer.initialization, hs, (h.outcomes.failed e hs).1]
      rfl
    · exact absurd (h.outcomes.ready.mp hs) hnever

/-- One pull gets the flags only, and the next one the segments only. -/
def halvesApart : List Happening :=
  [.move (.authenticated (.ok ⟨"token", "e"⟩)), .move (.proceed .poll)] ++
    answersTo .poll (.ok []) (.error .unauthorized) ++ [.move (.wake .poll)] ++
    answersTo .poll (.error .unauthorized) (.ok [])

/-- The two halves are no pull that stored both. A pull that does makes the synchronizer ready, and
its lists took their places. A death instead makes the synchronizer never ready. -/
theorem isInitialized_iff_halvesApart :
    let apart := courseOf .default false (.empty 2) halvesApart
    let whole := courseOf .default false (.empty 2)
      (halvesApart ++ [.move (.wake .poll)] ++ answersTo .poll (.ok []) (.ok []))
    let dead := courseOf .default false (.empty 2) (halvesApart ++ [.death])
    ¬ HasPulled apart.1 ∧ HasPulled whole.1 ∧
      (∀ now earlier who kind, now :: earlier <:+ whole.1 → now.half? who kind = some true →
        now.Stores who kind) ∧
      dead.2.initialization = .error .synchronizerPanicked := by
  intro apart whole dead
  have hcourse := course_courseOf .default false (.empty 2)
  have hapart : ¬ HasPulled apart.1 := by
    rw [← (isInitialized_iff (hcourse halvesApart)).1]
    decide +kernel
  have hwhole : HasPulled whole.1 :=
    (isInitialized_iff (hcourse _)).1.mp (by decide +kernel)
  have hdead : dead.1 = ⟨apart.2, .death, Synchronizer.die.run apart.2⟩ :: apart.1 := rfl
  have hnever := (isInitialized_iff (hcourse (halvesApart ++ [.death]))).2.2.1
    ⟨apart.2, .death, Synchronizer.die.run apart.2⟩ apart.1 (hdead ▸ List.suffix_rfl) rfl hapart
  exact ⟨hapart, hwhole, (isInitialized_iff (hcourse _)).2.2.2, hnever.2⟩

end Course

end FlagReplica
