import FlagReplica.Proofs.Repository.Contents
import Mathlib.Data.Set.Function
/-!
# What a write leaves alone

An action on contents `Keeps` a set of keys if it leaves what is held under each of them as it is.
Every operation on one kind of thing keeps the keys of any other, and within its kind an operation
on single things keeps the lists, and one on lists the single things.
-/

namespace FlagReplica

namespace Repository

/-- The keys of a kind of thing, single and in lists. -/
def keysOf (α : Type) [Record α] : Set String :=
  Set.range (entityKey α) ∪ Set.range (listKey α)

section KeysOf

variable {α : Type} [Record α]

theorem entityKey_mem_keysOf (id : String) : entityKey α id ∈ keysOf α := .inl ⟨id, rfl⟩

theorem listKey_mem_keysOf (env : String) : listKey α env ∈ keysOf α := .inr ⟨env, rfl⟩

/-- **Two kinds have no key in common.** -/
theorem notMem_keysOf_of_kind {β : Type} [Record β] (h : Record.kind α ≠ Record.kind β) :
    ∀ key ∈ keysOf α, key ∉ keysOf β := by
  rintro key (⟨a, rfl⟩ | ⟨a, rfl⟩) (⟨b, hb⟩ | ⟨b, hb⟩)
  · exact entityKey_ne_of_kind h a b hb.symm
  · exact entityKey_ne_listKey α β a b hb.symm
  · exact listKey_ne_entityKey α β a b hb.symm
  · exact listKey_ne_of_kind h a b hb.symm

theorem entityKey_notMem_range_listKey (id : String) :
    entityKey α id ∉ Set.range (listKey α) := by
  rintro ⟨env, h⟩
  exact listKey_ne_entityKey α α env id h

theorem listKey_notMem_range_entityKey (env : String) :
    listKey α env ∉ Set.range (entityKey α) := by
  rintro ⟨id, h⟩
  exact entityKey_ne_listKey α α id env h

end KeysOf

end Repository

namespace Contents

open Record (kind identifier version)
open Repository (entityKey listKey keysOf entityKey_mem_keysOf listKey_mem_keysOf)

variable {α β : Type} {keys : Set String}

/-- The action leaves what is held under these keys as it is. -/
def Keeps (keys : Set String) (a : ContentsAction α) : Prop :=
  ∀ held : Contents, Set.EqOn (a.run held).state held keys

namespace Keeps

theorem pure (x : α) : Keeps keys (Pure.pure x) := fun _ _ _ => rfl

theorem bind {a : ContentsAction α} {f : α → ContentsAction β} (ha : Keeps keys a)
    (hf : ∀ x, Keeps keys (f x)) : Keeps keys (a >>= f) := by
  intro held key hkey
  rw [Action.run_bind]
  exact (hf _ _ hkey).trans (ha held hkey)

theorem map {a : ContentsAction α} (f : α → β) (ha : Keeps keys a) : Keeps keys (f <$> a) := by
  rw [← bind_pure_comp]
  exact ha.bind fun x => .pure (f x)

/-- What is kept whatever is held is kept by what looks at it first. -/
theorem read {f : Contents → ContentsAction β} (hf : ∀ held, Keeps keys (f held)) :
    Keeps keys (Action.get >>= f) := fun held => hf held held

theorem ite {p : Prop} [Decidable p] {a b : ContentsAction α} (ha : Keeps keys a)
    (hb : Keeps keys b) : Keeps keys (if p then a else b) := by
  split
  · exact ha
  · exact hb

theorem log (level : Level) (text : String) : Keeps keys (Contents.log level text) :=
  fun _ _ _ => rfl

theorem put {key : String} (hkey : key ∉ keys) (entry : Entry) (c : Change) :
    Keeps keys (Contents.put key entry c) :=
  fun _ _ hl => Function.update_of_ne (ne_of_mem_of_not_mem hl hkey) _ _

theorem drop {key : String} (hkey : key ∉ keys) (c : Change) : Keeps keys (Contents.drop key c) :=
  fun _ _ hl => Function.update_of_ne (ne_of_mem_of_not_mem hl hkey) _ _

theorem forM {f : α → ContentsAction Unit} (xs : List α) (hf : ∀ x ∈ xs, Keeps keys (f x)) :
    Keeps keys (xs.forM f) := by
  induction xs with
  | nil => exact .pure ()
  | cons x xs ih =>
    refine (hf x List.mem_cons_self).bind fun _ => ?_
    exact ih fun y hy => hf y (List.mem_cons_of_mem _ hy)

end Keeps

/-! ## The operations -/

variable [Record α]

theorem keeps_setOne {x : α} (h : entityKey α (identifier x) ∉ keys) (initial : Bool) :
    Keeps keys (setOne x initial) :=
  .read fun _ => .ite (.log _ _) (.put h _ _)

theorem keeps_deleteOne {id : String} (h : entityKey α id ∉ keys) : Keeps keys (deleteOne α id) :=
  .drop h _

theorem keeps_merge {env : String} (h : listKey α env ∉ keys) (x : α) :
    Keeps keys (merge env x) := by
  refine .read fun held => ?_
  cases Repository.merged? x (held.listed env) with
  | none => exact .pure ()
  | some xs => exact .put h _ _

theorem keeps_removeFrom {env : String} (h : listKey α env ∉ keys) (id : String) :
    Keeps keys (removeFrom α env id) := by
  refine .read fun held => ?_
  dsimp only
  cases (held (listKey α env)).bind (Record.ofListing? (α := α)) with
  | none => exact .pure ()
  | some xs => exact .ite (.put h _ _) (.pure ())

/-- **A list write keeps the keys of other kinds.** -/
theorem keeps_setAll (h : ∀ key ∈ keysOf α, key ∉ keys) (env : String) (xs : List α)
    (initial : Bool) : Keeps keys (setAll env xs initial) := by
  refine .read fun held => .ite (.log _ _) ?_
  refine (Keeps.put (h _ (listKey_mem_keysOf env)) _ _).bind fun _ => ?_
  refine (Keeps.forM xs fun x _ => keeps_setOne (h _ (entityKey_mem_keysOf _)) _).bind fun _ => ?_
  exact .ite (.forM _ fun old _ => keeps_deleteOne (h _ (entityKey_mem_keysOf _))) (.pure ())

end Contents

end FlagReplica
