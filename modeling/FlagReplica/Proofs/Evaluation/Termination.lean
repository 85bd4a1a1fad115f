import FlagReplica.Proofs.Evaluation.Membership
import FlagReplica.Proofs.Evaluation.Trail
/-!
# Evaluation ends

Flags name flags and segments name segments, in whatever circles, and the searches follow the names
through what is stored, not down a structure that gets smaller. They end because of what they keep
on their trails. `Flag.seekPrerequisites` and `Segment.seek` are these searches with one trail each,
which every search shares with those below it, and which come to nothing if they would have to go
deeper than they may. `bottomsOut` says that they never come to nothing: no identifier is on a trail
twice, so no trail is longer than there are flags or segments stored, and one more for the one that
the search starts at, which need not be stored. All that an answer of evaluation says is said with
so many levels, and more levels change nothing.

The searches answer as `Flag.prerequisitesMetWithin` and `Segment.containsWithin` do. Segments take
one level more than their trail is long: a segment that is on the trail already is asked for its
lists once more before the search turns back.
-/

namespace FlagReplica

variable (s : Snapshot) (b : Budget) (t : Target)

/-- The snapshot as a place for what keeps a trail. -/
def Snapshot.trailHost : Host TrailAction where
  flag? id := pure (s.flag? id)
  segment? id := pure (s.segment? id)
  log _ _ := pure ()

/-- Whether the target is in the segment, with the segments being asked about on the trail. -/
def Segment.seek : Nat → Segment → TrailAction Bool
  | 0, _ => failure
  | levels + 1, g =>
    if isListed g.excluded t then pure false
    else if isListed g.included t then pure true
    else do
      if g.identifier ∈ (← Trail.held) then pure false
      else
        Trail.within g.identifier (g.rules.anyM fun c =>
          c.holdsWith (isMemberBy s.trailHost (Segment.seek levels)) t)

/-- Whether the prerequisites of a flag are met, with the flags above on the trail. -/
def Flag.seekPrerequisites : Nat → Flag → TrailAction Bool
  | 0, _ => failure
  | levels + 1, f =>
    Trail.within f.feature (f.prerequisites.allM fun p => do
      if p.feature ∈ (← Trail.held) then pure false
      else
        match ← s.trailHost.flag? p.feature with
        | none => pure false
        | some g =>
          let met ←
            if g.prerequisites.isEmpty then pure true else Flag.seekPrerequisites levels g
          pure (met && Flag.accepts p (g.serveByState s.host b Watch.none t).run))

namespace Snapshot

open Trail (Returns Restores IsSimple)

/-- The identifiers that flags are stored under. -/
def flagIds : Finset String := (s.flags.map (·.feature)).toFinset

/-- The identifiers that segments are stored under. -/
def segmentIds : Finset String := (s.segments.map (·.identifier)).toFinset

variable {s b t} {f : Flag} {g : Segment} {c : Clause} {id : String}

theorem feature_mem_flagIds (hf : s.flag? id = some f) : id ∈ s.flagIds := by
  obtain rfl := feature_of_flag? hf
  exact List.mem_toFinset.mpr (List.mem_map_of_mem (List.mem_of_find?_eq_some hf))

theorem identifier_mem_segmentIds (hg : s.segment? id = some g) : id ∈ s.segmentIds := by
  obtain rfl := identifier_of_segment? hg
  exact List.mem_toFinset.mpr (List.mem_map_of_mem (List.mem_of_find?_eq_some hg))

/-! ## Segments -/

variable {visiting : List String} {fits : List String → Prop} {n m : Nat}

theorem returns_isMemberBy {a : Segment → TrailAction Bool} {q : Segment → Id Bool}
    (h : ∀ id g, s.segment? id = some g → Returns fits visiting (a g) (q g).run)
    (ids : List String) :
    Returns fits visiting (isMemberBy s.trailHost a ids) (isMemberBy s.host q ids).run := by
  rw [run_isMemberBy]
  refine .anyM ids fun id _ => ?_
  refine (Returns.pure (s.segment? id)).bind ?_
  cases hg : s.segment? id with
  | none => exact (Returns.pure ()).bind (.pure false)
  | some g => exact h id g hg

theorem returns_holdsWith {member : List String → TrailAction Bool} {q : List String → Id Bool}
    (h : ∀ ids, Returns fits visiting (member ids) (q ids).run) (c : Clause) :
    Returns fits visiting (c.holdsWith member t) (c.holdsWith q t).run := by
  have hanswer : Returns fits visiting (c.answer? member t) (c.answer? q t).run := by
    unfold Clause.answer?
    cases c.values with
    | nil => exact .pure none
    | cons first values =>
      dsimp only
      split
      · exact (h _).map some rfl
      · exact .pure _
  exact hanswer.map c.settle rfl

/-- **One step of the search through segments**: it does with the trail what `containsWithin` does
with its list. -/
theorem returns_seek_succ (hfits : g.identifier ∉ visiting → fits (g.identifier :: visiting))
    (hbelow : g.identifier ∉ visiting → ∀ id h, s.segment? id = some h →
      Returns fits (g.identifier :: visiting) (h.seek s t n)
        (h.containsWithin s.host t m (g.identifier :: visiting)).run) :
    Returns fits visiting (g.seek s t (n + 1))
      (g.containsWithin s.host t (m + 1) visiting).run := by
  unfold Segment.seek Segment.containsWithin
  split
  · exact .pure false
  · split
    · exact .pure true
    · refine Returns.held.bind ?_
      split
      · exact .pure false
      · next hout =>
        refine .within (hfits hout) ?_
        rw [run_anyM]
        exact .anyM _ fun c _ => returns_holdsWith (returns_isMemberBy (hbelow hout)) c

/-- **The search through segments comes to an answer** at a segment that is stored, if it may go one
level deeper than there are segments that are not on the trail. -/
theorem returns_seek (htrail : IsSimple s.segmentIds visiting) (hg : s.segment? id = some g)
    (hn : (s.unasked visiting).card < n) (hm : (s.unasked visiting).card < m) :
    Returns (IsSimple s.segmentIds) visiting (g.seek s t n)
      (g.containsWithin s.host t m visiting).run := by
  induction n generalizing m visiting id g with
  | zero => omega
  | succ n ih =>
    -- a level down there is one segment fewer that is not on the trail
    obtain ⟨m, rfl⟩ : ∃ k, m = k + 1 := Nat.exists_eq_succ_of_ne_zero (by omega)
    obtain rfl := identifier_of_segment? hg
    have hcons : g.identifier ∉ visiting → IsSimple s.segmentIds (g.identifier :: visiting) :=
      htrail.cons (identifier_mem_segmentIds hg)
    refine returns_seek_succ hcons fun hout id h hh => ?_
    have hdeeper := card_unasked_cons_lt hg hout
    exact ih (hcons hout) hh (by omega) (by omega)

/-- So it does where it starts, at a segment that need not be stored. -/
theorem returns_seek_nil (hn : s.segmentIds.card + 1 < n) (hm : 0 < m)
    (hdeep : s.segmentIds.Nonempty → s.segmentIds.card + 1 < m) (g : Segment) :
    Returns (IsSimple s.segmentIds) [] (g.seek s t n) (g.containsWithin s.host t m []).run := by
  obtain ⟨n, rfl⟩ : ∃ k, n = k + 1 := Nat.exists_eq_succ_of_ne_zero (by omega)
  obtain ⟨m, rfl⟩ : ∃ k, m = k + 1 := Nat.exists_eq_succ_of_ne_zero (by omega)
  refine returns_seek_succ (fun _ => Trail.isSimple_singleton g.identifier) fun _ id h hh => ?_
  have hcard : (s.unasked [g.identifier]).card ≤ s.segmentIds.card := Finset.card_filter_le _ _
  have hm' := hdeep ⟨id, identifier_mem_segmentIds hh⟩
  exact returns_seek (Trail.isSimple_singleton g.identifier) hh (by omega) (by omega)

/-! ## Prerequisites -/

variable {path : List String} {b' : Budget}

/-- **One step of the search through prerequisites**: it does with the trail what
`prerequisitesMetWithin` does with its list. -/
theorem returns_seekPrerequisites_succ (hfits : fits (f.feature :: path))
    (hserve : ∀ g : Flag, g.serveByState s.host b Watch.none t =
      g.serveByState s.host b' Watch.none t)
    (hbelow : ∀ id ∉ f.feature :: path, ∀ g, s.flag? id = some g →
      Returns fits (f.feature :: path) (g.seekPrerequisites s b t n)
        (g.prerequisitesMetWithin s.host b' t m (f.feature :: path)).run) :
    Returns fits path (f.seekPrerequisites s b t (n + 1))
      (f.prerequisitesMetWithin s.host b' t (m + 1) path).run := by
  rw [prerequisitesMetWithin_succ]
  unfold Flag.seekPrerequisites
  refine .within hfits (.allM _ fun p _ => Returns.held.bind ?_)
  by_cases hmem : p.feature ∈ f.feature :: path
  · simp only [hmem, if_true, not_true, decide_false, Bool.false_and]
    exact .pure false
  · simp only [hmem, if_false, not_false_iff, decide_true, Bool.true_and]
    refine (Returns.pure (s.flag? p.feature)).bind ?_
    cases hg : s.flag? p.feature with
    | none => exact .pure false
    | some g =>
      rw [Option.any_some, ← hserve]
      dsimp only
      cases g.prerequisites.isEmpty with
      | true => exact (Returns.pure true).bind (.pure _)
      | false => exact (hbelow p.feature hmem g hg).bind (.pure _)

/-- **The search through prerequisites comes to an answer** at a flag that is stored, if it may go
as deep as there are flags that are not on the trail. -/
theorem returns_seekPrerequisites (htrail : IsSimple s.flagIds path)
    (hf : s.flag? f.feature = some f) (hpath : f.feature ∉ path)
    (hserve : ∀ g : Flag, g.serveByState s.host b Watch.none t =
      g.serveByState s.host b' Watch.none t)
    (hn : (s.unvisited path).card ≤ n) (hm : (s.unvisited path).card ≤ m) :
    Returns (IsSimple s.flagIds) path (f.seekPrerequisites s b t n)
      (f.prerequisitesMetWithin s.host b' t m path).run := by
  induction n generalizing m path f with
  | zero =>
    -- the flag itself is stored and not on the trail, so there is a level left for it
    have := card_unvisited_cons_lt hf hpath
    omega
  | succ n ih =>
    have hdeeper := card_unvisited_cons_lt hf hpath
    obtain ⟨m, rfl⟩ : ∃ k, m = k + 1 := Nat.exists_eq_succ_of_ne_zero (by omega)
    have hcons := htrail.cons (feature_mem_flagIds hf) hpath
    refine returns_seekPrerequisites_succ hcons hserve fun id hid g hg => ?_
    obtain rfl := feature_of_flag? hg
    exact ih hcons hg hid (by omega) (by omega)

/-- So it does where it starts, at a flag that need not be stored. -/
theorem returns_seekPrerequisites_nil
    (hserve : ∀ g : Flag, g.serveByState s.host b Watch.none t =
      g.serveByState s.host b' Watch.none t)
    (hn : s.flagIds.card < n) (hm : s.flagIds.card < m) (f : Flag) :
    Returns (IsSimple s.flagIds) [] (f.seekPrerequisites s b t n)
      (f.prerequisitesMetWithin s.host b' t m []).run := by
  obtain ⟨n, rfl⟩ : ∃ k, n = k + 1 := Nat.exists_eq_succ_of_ne_zero (by omega)
  obtain ⟨m, rfl⟩ : ∃ k, m = k + 1 := Nat.exists_eq_succ_of_ne_zero (by omega)
  have hstart : IsSimple s.flagIds [f.feature] := Trail.isSimple_singleton f.feature
  refine returns_seekPrerequisites_succ hstart hserve fun id hid g hg => ?_
  obtain rfl := feature_of_flag? hg
  have hcard : (s.unvisited [f.feature]).card ≤ s.flagIds.card := Finset.card_filter_le _ _
  exact returns_seekPrerequisites hstart hg hid hserve (by omega) (by omega)

/-! ## Trails are left as they were found -/

theorem restores_seek (n : Nat) (g : Segment) : Restores (g.seek s t n) := by
  induction n generalizing g with
  | zero => exact .failure
  | succ n ih =>
    have hmember (ids : List String) :
        Restores (isMemberBy s.trailHost (Segment.seek s t n) ids) := by
      refine .anyM ids fun id => (Restores.pure (s.segment? id)).bind fun found => ?_
      cases found with
      | none => exact (Restores.pure ()).bind fun _ => .pure false
      | some h => exact ih h
    have hclause (c : Clause) :
        Restores (c.holdsWith (isMemberBy s.trailHost (Segment.seek s t n)) t) := by
      refine .map c.settle ?_
      unfold Clause.answer?
      cases c.values with
      | nil => exact .pure none
      | cons first values => exact .ite ((hmember _).map some) (.pure _)
    unfold Segment.seek
    refine .ite (.pure false) (.ite (.pure true) (Restores.held.bind fun _ => ?_))
    exact .ite (.pure false) (.within (.anyM _ hclause))

theorem restores_seekPrerequisites (n : Nat) (f : Flag) :
    Restores (f.seekPrerequisites s b t n) := by
  induction n generalizing f with
  | zero => exact .failure
  | succ n ih =>
    unfold Flag.seekPrerequisites
    refine .within (.allM _ fun p => Restores.held.bind fun _ => .ite (.pure false) ?_)
    refine (Restores.pure (s.flag? p.feature)).bind fun found => ?_
    cases found with
    | none => exact .pure false
    | some g =>
      exact .ite ((Restores.pure true).bind fun _ => .pure _) ((ih g).bind fun _ => .pure _)

/-! ## More levels change nothing -/

section Budget

variable {m : Type → Type} [Monad m] {h : Host m}

theorem findMapped_congr (hmember : isMember h b t = isMember h b' t)
    (entries : List VariationMap) :
    Flag.findMapped h b t entries = Flag.findMapped h b' t entries := by
  induction entries with
  | nil => rfl
  | cons entry entries ih => simp only [Flag.findMapped, hmember, ih]

theorem findMatching_congr (hmember : isMember h b t = isMember h b' t)
    (rules : List ServingRule) :
    Flag.findMatching h b t rules = Flag.findMatching h b' t rules := by
  induction rules with
  | nil => rfl
  | cons rule rules ih => simp only [Flag.findMatching, Clause.holds, hmember, ih]

/-- **A flag by itself goes as deep as the segments it names**, and no deeper. -/
theorem serveByState_congr (hmember : isMember h b t = isMember h b' t) (watch : Watch m)
    (f : Flag) : f.serveByState h b watch t = f.serveByState h b' watch t := by
  simp only [Flag.serveByState, Flag.serveOn, Flag.serveByRules, findMapped_congr hmember,
    findMatching_congr hmember]

end Budget

/-- As deep as a search through segments can get. -/
theorem segmentIds_card_lt_budget :
    0 < s.budget.segments ∧
      (s.segmentIds.Nonempty → s.segmentIds.card + 1 < s.budget.segments) := by
  have hcard : s.segmentIds.card ≤ s.segments.length :=
    (List.toFinset_card_le _).trans (List.length_map _).le
  refine ⟨Nat.mul_pos (Nat.succ_pos _) (Nat.succ_pos _), fun hstored => ?_⟩
  have hpos : 0 < s.segmentIds.card := Finset.card_pos.mpr hstored
  calc s.segmentIds.card + 1
      < 2 * (s.segments.length + 1) := by omega
    _ ≤ s.budget.segments := Nat.mul_le_mul_right _ (by omega)

/-- As deep as a search through prerequisites can get. -/
theorem flagIds_card_lt_budget : s.flagIds.card < s.budget.flags := by
  calc s.flagIds.card
      ≤ s.flags.length := (List.toFinset_card_le _).trans (List.length_map _).le
    _ < s.flags.length + 1 := Nat.lt_succ_self _
    _ ≤ s.budget.flags := Nat.le_mul_self _

section Deep

variable (hflags : s.flagIds.card < b.flags) (hsegments : s.segmentIds.card + 1 < b.segments)

include hsegments in
theorem returns_seek_budget (g : Segment) :
    Returns (IsSimple s.segmentIds) [] (g.seek s t b.segments)
      (g.contains s.host s.budget t).run :=
  returns_seek_nil hsegments segmentIds_card_lt_budget.1 segmentIds_card_lt_budget.2 g

include hsegments in
theorem isMember_budget : isMember s.host b t = isMember s.host s.budget t := by
  have hcontains (g : Segment) : g.contains s.host b t = g.contains s.host s.budget t := by
    have hdeep := returns_seek_nil (t := t) hsegments (Nat.zero_lt_of_lt hsegments)
      (fun _ => hsegments) g
    exact hdeep.unique (returns_seek_budget hsegments g)
  simp only [isMember, hcontains]

include hsegments in
theorem serveByState_budget (f : Flag) : f.serveByState s.host b Watch.none t =
    f.serveByState s.host s.budget Watch.none t :=
  serveByState_congr (isMember_budget hsegments) Watch.none f

include hflags hsegments in
theorem returns_seekPrerequisites_budget (f : Flag) :
    Returns (IsSimple s.flagIds) [] (f.seekPrerequisites s b t b.flags)
      (f.prerequisitesMet s.host s.budget t).run :=
  returns_seekPrerequisites_nil (serveByState_budget hsegments) hflags flagIds_card_lt_budget f

include hflags hsegments in
theorem prerequisitesMet_budget (f : Flag) :
    f.prerequisitesMet s.host b t = f.prerequisitesMet s.host s.budget t :=
  (returns_seekPrerequisites_nil (fun _ => rfl) hflags hflags f).unique
    (returns_seekPrerequisites_budget hflags hsegments f)

include hflags hsegments in
/-- **An evaluation is the same with more levels.** -/
theorem serve_budget (f : Flag) :
    f.serve s.host b Watch.none t = f.serve s.host s.budget Watch.none t := by
  simp only [Flag.serve, Flag.resolve, prerequisitesMet_budget hflags hsegments,
    serveByState_budget hsegments]

end Deep

/-- **Evaluation ends.** With a level for each flag stored and one more, and two more than there are
segments stored, neither search comes to nothing, from whatever flag or segment it starts. The
trails it has are without circles and no longer than there are flags or segments stored, and one
more, and every search leaves the trail that it finds. Its answers are those of evaluation, which
comes to the same with so many levels as with any that are more. -/
theorem bottomsOut (s : Snapshot) (t : Target) (b : Budget)
    (hflags : s.flagIds.card < b.flags) (hsegments : s.segmentIds.card + 1 < b.segments) :
    (∀ f : Flag, Returns (fun path => path.Nodup ∧ path.length ≤ s.flagIds.card + 1) []
      (f.seekPrerequisites s b t b.flags) (f.prerequisitesMet s.host s.budget t).run) ∧
    (∀ g : Segment, Returns (fun visiting => visiting.Nodup ∧
        visiting.length ≤ s.segmentIds.card + 1) []
      (g.seek s t b.segments) (g.contains s.host s.budget t).run) ∧
    (∀ levels (f : Flag), Restores (f.seekPrerequisites s b t levels)) ∧
    (∀ levels (g : Segment), Restores (g.seek s t levels)) ∧
    (∀ f : Flag, f.serve s.host b Watch.none t = f.serve s.host s.budget Watch.none t) ∧
    ∀ flagId expected, Evaluation.evaluate s.host b flagId t expected =
      Evaluation.evaluate s.host s.budget flagId t expected := by
  refine ⟨fun f => ?_, fun g => ?_, restores_seekPrerequisites, restores_seek,
    serve_budget hflags hsegments, fun flagId expected => ?_⟩
  · exact (returns_seekPrerequisites_budget hflags hsegments f).mono fun _ htrail =>
      ⟨htrail.nodup, htrail.length_le⟩
  · exact (returns_seek_budget hsegments g).mono fun _ htrail =>
      ⟨htrail.nodup, htrail.length_le⟩
  · simp only [Evaluation.evaluate, Evaluation.walk, serve_budget hflags hsegments]

/-- Two flags and two segments, each pair in a circle. -/
def rings : Snapshot where
  flags := [plainFlag "left" ["right"], plainFlag "right" ["left"]]
  segments := circle.segments

/-- A search that starts outside comes upon the circle of flags, and one that starts on the circle
of segments comes around it and finds the target. -/
theorem bottomsOut_rings :
    rings.flagIds.card = 2 ∧ rings.segmentIds.card = 2 ∧
    Returns (fun path => path.Nodup ∧ path.length ≤ 3) []
      ((plainFlag "new" ["left"]).seekPrerequisites rings ⟨3, 4⟩ (.ofIdentifier "ann") 3) false ∧
    Returns (fun visiting => visiting.Nodup ∧ visiting.length ≤ 3) []
      ((club "staff" false "team" []).seek rings (.ofIdentifier "ann") 4) true := by
  have hmet : ((plainFlag "new" ["left"]).prerequisitesMet rings.host rings.budget
      (.ofIdentifier "ann")).run = false := by decide +kernel
  have hin : ((club "staff" false "team" []).contains rings.host rings.budget
      (.ofIdentifier "ann")).run = true := by decide +kernel
  have h := bottomsOut rings (.ofIdentifier "ann") ⟨3, 4⟩ (by decide) (by decide)
  exact ⟨by decide, by decide, hmet ▸ h.1 (plainFlag "new" ["left"]),
    hin ▸ h.2.1 (club "staff" false "team" [])⟩

end Snapshot

end FlagReplica
