import FlagReplica.Proofs.Repository.Agreement
import FlagReplica.Sync.Apply
/-!
# Keeping track of a source that runs ahead

The control plane changes its flags and announces each change by an event. When an event is followed
the flag may have changed again, so a flag that is fetched can be newer than its event, and what is
held can be newer than the next events about it.

What is held of an identifier `Tracks` the source if it is what the source has, or a deletion of it
is still announced, or it is still announced and older than what the source has. Changes of the
source keep this (`Tracks.alter`), and so does each way in which an event is followed: a deletion
(`tracks_deleted`), a version that is known already (`Tracks.known`), and a flag that was fetched
(`Tracks.accepted`) or not found (`Tracks.unanswered`). Versions are compared only where no deletion
is waiting, which is why they may start again after one.
-/

namespace FlagReplica

/-- Flags by identifier. -/
abbrev FlagTable := String → Option Flag

/-- Every flag is under its own name. -/
def FlagTable.Keyed (source : FlagTable) : Prop := ∀ id f, source id = some f → f.feature = id

/-- A change of what the control plane has, with the event that announces it. A flag is replaced by
newer ones only, and one that was deleted may come back with any version. -/
inductive Alters (source : FlagTable) : PushEvent → FlagTable → Prop
  | put (f : Flag) (event : EventKind) (hevent : event ≠ .delete)
      (hnewer : ∀ g, source f.feature = some g → g.version < f.version) :
      Alters source ⟨.flag, event, f.feature, f.version⟩
        (Function.update source f.feature (some f))
  | delete (id : String) (version : Int64) :
      Alters source ⟨.flag, .delete, id, version⟩ (Function.update source id none)

/-- The source is as the event says. -/
def Tells (source : FlagTable) (e : PushEvent) : Prop :=
  if e.event = .delete then source e.identifier = none
  else ∃ f, source e.identifier = some f ∧ f.version = e.version

/-- The last of the events about each flag says how it is. -/
def Announced (source : FlagTable) : List PushEvent → Prop
  | [] => True
  | e :: es =>
    e.domain = .flag ∧ (e.identifier ∉ es.map (·.identifier) → Tells source e) ∧
      Announced source es

/-- What is held of an identifier is what the source has, or an event will still have it
looked at. -/
inductive Tracks (source : FlagTable) (es : List PushEvent) (id : String) (c : Option Flag) : Prop
  | same (h : c = source id)
  /-- It is going to be deleted, whatever it is. -/
  | doomed (e : PushEvent) (he : e ∈ es) (hid : e.identifier = id) (hdelete : e.event = .delete)
  /-- It is going to be replaced, for it is older. -/
  | behind (e : PushEvent) (he : e ∈ es) (hid : e.identifier = id)
      (holder : ∀ g, c = some g → ∃ f, source id = some f ∧ g.version < f.version)

variable {source source' : FlagTable} {e : PushEvent} {es : List PushEvent} {id : String}
  {c : Option Flag}

/-! ## Changes of the source -/

namespace Alters

theorem domain_eq (h : Alters source e source') : e.domain = .flag := by
  cases h <;> rfl

/-- A change concerns the flag it is announced for, and no other. -/
theorem of_ne (h : Alters source e source') (hid : id ≠ e.identifier) :
    source' id = source id := by
  cases h with
  | put f event hevent hnewer => exact Function.update_of_ne hid _ _
  | delete id' version => exact Function.update_of_ne hid _ _

theorem tells (h : Alters source e source') : Tells source' e := by
  cases h with
  | put f event hevent hnewer =>
    rw [Tells, if_neg hevent]
    exact ⟨f, Function.update_self _ _ _, rfl⟩
  | delete id version =>
    rw [Tells, if_pos rfl]
    exact Function.update_self _ _ _

theorem keyed (h : Alters source e source') (hs : source.Keyed) : source'.Keyed := by
  intro id f hf
  cases h with
  | put g event hevent hnewer =>
    rw [Function.update_apply] at hf
    split at hf
    · next hid =>
      cases hf
      exact hid.symm
    · exact hs id f hf
  | delete id' version =>
    rw [Function.update_apply] at hf
    split at hf
    · cases hf
    · exact hs id f hf

end Alters

theorem Tells.congr (h : Tells source e) (heq : source' e.identifier = source e.identifier) :
    Tells source' e := by
  unfold Tells at h ⊢
  rwa [heq]

/-- **A change is announced** after all that was. -/
theorem Announced.alter {last : PushEvent} (h : Announced source es)
    (ha : Alters source last source') : Announced source' (es ++ [last]) := by
  induction es with
  | nil => exact ⟨ha.domain_eq, fun _ => ha.tells, trivial⟩
  | cons e es ih =>
    obtain ⟨hdomain, htells, hes⟩ := h
    rw [List.cons_append]
    refine ⟨hdomain, fun hlast => ?_, ih hes⟩
    rw [List.map_append, List.mem_append, not_or] at hlast
    have hne : e.identifier ≠ last.identifier := by simpa using hlast.2
    exact (htells hlast.1).congr (ha.of_ne hne)

/-- **What tracked the source before a change tracks it after.** -/
theorem Tracks.alter {last : PushEvent} (h : Tracks source es id c)
    (ha : Alters source last source') : Tracks source' (es ++ [last]) id c := by
  have hlast : last ∈ es ++ [last] := List.mem_append_right _ List.mem_cons_self
  by_cases hid : id = last.identifier
  · -- the change concerns what is tracked, so its own event is one that is waiting
    cases ha with
    | delete id' version => exact .doomed _ hlast hid.symm rfl
    | put f event hevent hnewer =>
      cases h with
      | doomed e he hide hdelete => exact .doomed e (List.mem_append_left _ he) hide hdelete
      | same h =>
        refine .behind _ hlast hid.symm fun g hg => ⟨f, ?_, hnewer g ?_⟩
        · rw [hid, Function.update_self]
        · rw [← hg, h, hid]
      | behind e he hide holder =>
        refine .behind _ hlast hid.symm fun g hg => ⟨f, ?_, ?_⟩
        · rw [hid, Function.update_self]
        · obtain ⟨f', hf', hlt⟩ := holder g hg
          rw [hid] at hf'
          exact Int64.lt_trans hlt (hnewer f' hf')
  · have hsource : source' id = source id := ha.of_ne hid
    cases h with
    | same h => exact .same (h.trans hsource.symm)
    | doomed e he hide hdelete => exact .doomed e (List.mem_append_left _ he) hide hdelete
    | behind e he hide holder =>
      refine .behind e (List.mem_append_left _ he) hide fun g hg => ?_
      rw [hsource]
      exact holder g hg

/-! ## Events that are followed -/

/-- Where nothing is waiting, what tracks the source is what the source has. -/
theorem Tracks.eq_of_quiet (h : Tracks source es id c) (hes : ∀ e ∈ es, e.identifier ≠ id) :
    c = source id := by
  cases h with
  | same h => exact h
  | doomed e he hid hdelete => exact absurd hid (hes e he)
  | behind e he hid holder => exact absurd hid (hes e he)

/-- An event says nothing about another flag. -/
theorem Tracks.of_cons_of_ne (h : Tracks source (e :: es) id c) (hne : e.identifier ≠ id) :
    Tracks source es id c := by
  have hin : ∀ e' ∈ e :: es, e'.identifier = id → e' ∈ es := by
    intro e' he' hid
    rcases List.mem_cons.mp he' with rfl | he'
    · exact absurd hid hne
    · exact he'
  cases h with
  | same h => exact .same h
  | doomed e' he' hid hdelete => exact .doomed e' (hin e' he' hid) hid hdelete
  | behind e' he' hid holder => exact .behind e' (hin e' he' hid) hid holder

/-- **An event that is no deletion was not needed, or was the last one.** Either what is held tracks
the source without it, or it is behind and nothing else is waiting. -/
theorem Tracks.of_cons (h : Tracks source (e :: es) id c) (hevent : e.event ≠ .delete) :
    Tracks source es id c ∨
      (∀ e' ∈ es, e'.identifier ≠ id) ∧
        ∀ g, c = some g → ∃ f, source id = some f ∧ g.version < f.version := by
  cases h with
  | same h => exact .inl (.same h)
  | doomed e' he' hid hdelete =>
    rcases List.mem_cons.mp he' with rfl | he'
    · exact absurd hdelete hevent
    · exact .inl (.doomed e' he' hid hdelete)
  | behind e' he' hid holder =>
    by_cases hes : ∃ e'' ∈ es, e''.identifier = id
    · obtain ⟨e'', he'', hid''⟩ := hes
      exact .inl (.behind e'' he'' hid'' holder)
    · exact .inr ⟨fun e'' he'' hid'' => hes ⟨e'', he'', hid''⟩, holder⟩

/-- **After a deletion** that was announced nothing is held, and that is right, or an event about
something that came after it is still waiting. -/
theorem tracks_deleted (h : Announced source (e :: es)) (hevent : e.event = .delete) :
    Tracks source es e.identifier none := by
  obtain ⟨-, htells, -⟩ := h
  by_cases hes : e.identifier ∈ es.map (·.identifier)
  · obtain ⟨e', he', hid⟩ := List.mem_map.mp hes
    exact .behind e' he' hid nofun
  · have hnone := htells hes
    rw [Tells, if_pos hevent] at hnone
    exact .same hnone.symm

/-- **A version that is known already** need not be fetched: nothing newer has been announced, or
another event will tell. -/
theorem Tracks.known (h : Tracks source (e :: es) e.identifier c)
    (hannounced : Announced source (e :: es)) (hevent : e.event ≠ .delete)
    (hknown : Repository.isKnown (c.map (·.version)) e) : Tracks source es e.identifier c := by
  rcases h.of_cons hevent with h | ⟨hquiet, holder⟩
  · exact h
  · obtain ⟨-, htells, -⟩ := hannounced
    have hlast : e.identifier ∉ es.map (·.identifier) := by
      rintro hes
      obtain ⟨e', he', hid⟩ := List.mem_map.mp hes
      exact hquiet e' he' hid
    have hnow := htells hlast
    rw [Tells, if_neg hevent] at hnow
    obtain ⟨f, hf, hversion⟩ := hnow
    cases c with
    | none => simp [Repository.isKnown] at hknown
    | some g =>
      obtain ⟨f', hf', hlt⟩ := holder g rfl
      obtain rfl : f = f' := Option.some.inj (hf.symm.trans hf')
      have hle : e.version ≤ g.version := by
        simp only [Repository.isKnown, Option.map_some, Option.any_some, Bool.and_eq_true,
          decide_eq_true_eq] at hknown
        exact hknown.2
      rw [hversion] at hlt
      exact absurd (Int64.lt_of_lt_of_le hlt hle) Int64.lt_irrefl

/-- **A flag that was fetched** is taken unless what is held is as new. -/
theorem Tracks.accepted {f : Flag} (h : Tracks source (e :: es) id c) (hevent : e.event ≠ .delete)
    (hf : Tracks source es id (some f)) :
    Tracks source es id (if c.any (f.version ≤ ·.version) then c else some f) := by
  split
  · next hrefused =>
    rcases h.of_cons hevent with h | ⟨hquiet, holder⟩
    · exact h
    · -- with nothing waiting the answer is what the source has, and that is newer
      have hsource : some f = source id := hf.eq_of_quiet hquiet
      cases c with
      | none => simp at hrefused
      | some g =>
        obtain ⟨f', hf', hlt⟩ := holder g rfl
        obtain rfl : f = f' := Option.some.inj (hsource.trans hf')
        rw [Option.any_some, decide_eq_true_eq] at hrefused
        exact absurd (Int64.lt_of_lt_of_le hlt hrefused) Int64.lt_irrefl
  · exact hf

/-- **A flag that was not found** leaves what is held. -/
theorem Tracks.unanswered (h : Tracks source (e :: es) id c) (hevent : e.event ≠ .delete)
    (hnone : Tracks source es id none) : Tracks source es id c := by
  rcases h.of_cons hevent with h | ⟨hquiet, holder⟩
  · exact h
  · have hsource : none = source id := hnone.eq_of_quiet hquiet
    cases c with
    | none => exact hnone
    | some g =>
      obtain ⟨f, hf, -⟩ := holder g rfl
      rw [← hsource] at hf
      cases hf

end FlagReplica
