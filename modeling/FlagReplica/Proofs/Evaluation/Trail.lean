import FlagReplica.Evaluation.Evaluate
import Mathlib.Data.Finset.Card
/-!
# Searches that keep a trail

The searches through prerequisites and segments carry along which flags or segments they are below.
Here that is a stack which all of them share: a search puts its own identifier on it, asks, and
takes the identifier off again before it answers (`Trail.within`). A search that would have to go
deeper than it may comes to nothing, so that going too deep cannot be taken for an answer.

`Returns` says what a search comes to from a given trail, that it leaves the trail as it found it,
and what may have been on the trail meanwhile. `Restores` says of every trail whatsoever that it is
left as it was found.
-/

namespace FlagReplica

/-- A stack of identifiers, the innermost first, and what it held each time it had grown. -/
structure Trail where
  now : List String
  past : List (List String)
  deriving DecidableEq, Repr

/-- What is done with a trail, and comes to nothing if it would have to go too deep. -/
abbrev TrailAction := StateT Trail Option

namespace Trail

variable {α β : Type}

/-- What is on the trail. -/
def held : TrailAction (List String) := (·.now) <$> get

/-- Puts an identifier on the trail. -/
def enter (id : String) : TrailAction Unit :=
  modify fun trail => ⟨id :: trail.now, (id :: trail.now) :: trail.past⟩

/-- Takes the innermost identifier off the trail. -/
def leave : TrailAction Unit := modify fun trail => { trail with now := trail.now.tail }

/-- Does something below an identifier. -/
def within (id : String) (a : TrailAction α) : TrailAction α := do
  enter id
  let x ← a
  leave
  return x

variable {fits : List String → Prop} {now : List String} {id : String} {a : TrailAction α} {x : α}

/-! ## What comes of an action -/

/-- The action comes to this from a trail that holds so much, leaves the trail as it is, and had it
hold only what fits whenever it had grown. -/
def Returns (fits : List String → Prop) (now : List String) (a : TrailAction α) (x : α) : Prop :=
  ∀ past, ∃ more, a.run ⟨now, past⟩ = some (x, ⟨now, more ++ past⟩) ∧ ∀ trail ∈ more, fits trail

namespace Returns

theorem mono {fits' : List String → Prop} (h : Returns fits now a x)
    (hfits : ∀ trail, fits trail → fits' trail) : Returns fits' now a x := by
  intro past
  obtain ⟨more, hrun, hmore⟩ := h past
  exact ⟨more, hrun, fun trail htrail => hfits trail (hmore trail htrail)⟩

theorem pure (x : α) : Returns fits now (Pure.pure x) x :=
  fun _ => ⟨[], rfl, fun _ htrail => absurd htrail List.not_mem_nil⟩

theorem bind {f : α → TrailAction β} {y : β} (ha : Returns fits now a x)
    (hf : Returns fits now (f x) y) : Returns fits now (a >>= f) y := by
  intro past
  obtain ⟨more, hrun, hmore⟩ := ha past
  obtain ⟨more', hrun', hmore'⟩ := hf (more ++ past)
  refine ⟨more' ++ more, ?_, fun trail htrail => ?_⟩
  · rw [StateT.run_bind, hrun, List.append_assoc]
    exact hrun'
  · rcases List.mem_append.mp htrail with htrail | htrail
    · exact hmore' trail htrail
    · exact hmore trail htrail

theorem map {y : β} (f : α → β) (h : Returns fits now a x) (hy : f x = y) :
    Returns fits now (f <$> a) y := by
  rw [← bind_pure_comp, ← hy]
  exact h.bind (.pure (f x))

/-- What is on the trail is what it holds. -/
theorem held : Returns fits now Trail.held now :=
  fun _ => ⟨[], rfl, fun _ htrail => absurd htrail List.not_mem_nil⟩

/-- **What is done below an identifier** comes to the same, if the identifier may be there. -/
theorem within (hid : fits (id :: now)) (h : Returns fits (id :: now) a x) :
    Returns fits now (Trail.within id a) x := by
  intro past
  obtain ⟨more, hrun, hmore⟩ := h ((id :: now) :: past)
  refine ⟨more ++ [id :: now], ?_, fun trail htrail => ?_⟩
  · have henter : (enter id).run ⟨now, past⟩ = some ((), ⟨id :: now, (id :: now) :: past⟩) := rfl
    rw [Trail.within, StateT.run_bind, henter, Option.bind_eq_bind, Option.bind_some,
      StateT.run_bind, hrun, List.append_assoc]
    rfl
  · rcases List.mem_append.mp htrail with htrail | htrail
    · exact hmore trail htrail
    · exact List.mem_singleton.mp htrail ▸ hid

/-- An action comes to one thing. -/
theorem unique {fits' : List String → Prop} {y : α} (hx : Returns fits now a x)
    (hy : Returns fits' now a y) : x = y := by
  obtain ⟨more, hrun, -⟩ := hx []
  obtain ⟨more', hrun', -⟩ := hy []
  rw [hrun, Option.some.injEq, Prod.mk.injEq] at hrun'
  exact hrun'.1

theorem anyM {p : α → TrailAction Bool} {q : α → Bool} (xs : List α)
    (h : ∀ x ∈ xs, Returns fits now (p x) (q x)) : Returns fits now (xs.anyM p) (xs.any q) := by
  induction xs with
  | nil => exact .pure false
  | cons x xs ih =>
    refine (h x List.mem_cons_self).bind ?_
    rw [List.any_cons]
    cases q x with
    | true => exact .pure true
    | false => exact ih fun y hy => h y (List.mem_cons_of_mem x hy)

theorem allM {p : α → TrailAction Bool} {q : α → Bool} (xs : List α)
    (h : ∀ x ∈ xs, Returns fits now (p x) (q x)) : Returns fits now (xs.allM p) (xs.all q) := by
  induction xs with
  | nil => exact .pure true
  | cons x xs ih =>
    refine (h x List.mem_cons_self).bind ?_
    rw [List.all_cons]
    cases q x with
    | true => exact ih fun y hy => h y (List.mem_cons_of_mem x hy)
    | false => exact .pure false

end Returns

/-! ## What is left of a trail -/

/-- Whatever trail the action finds, it leaves it as it was if it comes to anything. -/
def Restores (a : TrailAction α) : Prop :=
  ∀ trail x trail', a.run trail = some (x, trail') → trail'.now = trail.now

namespace Restores

theorem pure (x : α) : Restores (Pure.pure x) := by
  intro trail y trail' h
  cases h
  rfl

theorem failure : Restores (failure : TrailAction α) := by
  intro trail x trail' h
  cases h

theorem held : Restores Trail.held := by
  intro trail x trail' h
  cases h
  rfl

theorem bind {f : α → TrailAction β} (ha : Restores a) (hf : ∀ x, Restores (f x)) :
    Restores (a >>= f) := by
  intro trail y trail'' h
  rw [StateT.run_bind] at h
  obtain ⟨⟨x, trail'⟩, hrun, hrest⟩ := Option.bind_eq_some_iff.mp h
  exact (hf x trail' y trail'' hrest).trans (ha trail x trail' hrun)

theorem map (f : α → β) (h : Restores a) : Restores (f <$> a) := by
  rw [← bind_pure_comp]
  exact h.bind fun x => .pure (f x)

theorem ite {p : Prop} [Decidable p] {b : TrailAction α} (ha : Restores a) (hb : Restores b) :
    Restores (if p then a else b) := by
  split
  · exact ha
  · exact hb

/-- **What was put on the trail is taken off again.** -/
theorem within (h : Restores a) : Restores (Trail.within id a) := by
  intro trail x trail'' hrun
  have henter : (enter id).run trail =
      some ((), ⟨id :: trail.now, (id :: trail.now) :: trail.past⟩) := rfl
  rw [Trail.within, StateT.run_bind, henter, Option.bind_eq_bind, Option.bind_some,
    StateT.run_bind] at hrun
  obtain ⟨⟨y, trail'⟩, hbelow, hrest⟩ := Option.bind_eq_some_iff.mp hrun
  have hkept : trail'.now = id :: trail.now := h _ y trail' hbelow
  cases hrest
  change trail'.now.tail = trail.now
  rw [hkept, List.tail_cons]

theorem anyM {p : α → TrailAction Bool} (xs : List α) (h : ∀ x, Restores (p x)) :
    Restores (xs.anyM p) := by
  induction xs with
  | nil => exact .pure false
  | cons x xs ih =>
    refine (h x).bind fun found => ?_
    cases found with
    | true => exact .pure true
    | false => exact ih

theorem allM {p : α → TrailAction Bool} (xs : List α) (h : ∀ x, Restores (p x)) :
    Restores (xs.allM p) := by
  induction xs with
  | nil => exact .pure true
  | cons x xs ih =>
    refine (h x).bind fun holds => ?_
    cases holds with
    | true => exact ih
    | false => exact .pure false

end Restores

/-! ## Trails without circles -/

/-- No identifier is on the trail twice, and all but the outermost are known. -/
structure IsSimple (known : Finset String) (trail : List String) : Prop where
  nodup : trail.Nodup
  known : ∀ id ∈ trail.dropLast, id ∈ known

variable {known : Finset String} {trail : List String}

/-- A search starts below an identifier that need not be known. -/
theorem isSimple_singleton (id : String) : IsSimple known [id] :=
  ⟨List.nodup_singleton id, fun _ h => absurd h List.not_mem_nil⟩

/-- It goes on to identifiers that are known, and not on the trail. -/
theorem IsSimple.cons (h : IsSimple known trail) (hknown : id ∈ known) (hid : id ∉ trail) :
    IsSimple known (id :: trail) := by
  refine ⟨List.nodup_cons.mpr ⟨hid, h.nodup⟩, ?_⟩
  cases trail with
  | nil => exact fun _ h => absurd h List.not_mem_nil
  | cons outer trail =>
    rw [List.dropLast_cons_cons]
    intro other hother
    rcases List.mem_cons.mp hother with rfl | hother
    · exact hknown
    · exact h.known other hother

/-- **A trail without circles is no longer than there are identifiers**, and one more. -/
theorem IsSimple.length_le (h : IsSimple known trail) : trail.length ≤ known.card + 1 := by
  have hnodup : trail.dropLast.Nodup := h.nodup.sublist (List.dropLast_sublist trail)
  have hlength : trail.dropLast.length ≤ known.card := by
    rw [← List.toFinset_card_of_nodup hnodup]
    exact Finset.card_le_card fun id hid => h.known id (List.mem_toFinset.mp hid)
  rw [List.length_dropLast] at hlength
  omega

end Trail

end FlagReplica
