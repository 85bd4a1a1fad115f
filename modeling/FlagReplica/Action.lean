/-!
# Actions

What the library does to its state it does as a value: an action takes a state and comes to an
answer, the state after it and the notices it gave on the way, oldest first. Notices are data like
the answer, so what was logged, stored or asked for in which order can be said of an action without
running anything.

The laws of monads hold (`instLawfulMonad`), since notices are only ever added at the end.
-/

namespace FlagReplica

/-- What an action comes to. -/
structure Outcome (ν σ α : Type) where
  value : α
  state : σ
  /-- The notices given, oldest first. -/
  notices : List ν
  deriving Repr

/-- A step of a state, with an answer and notices. -/
def Action (ν σ α : Type) : Type := σ → Outcome ν σ α

namespace Action

variable {ν σ α β : Type}

/-- What the action comes to from a state. -/
def run (a : Action ν σ α) (s : σ) : Outcome ν σ α := a s

instance : Monad (Action ν σ) where
  pure x := fun s => ⟨x, s, []⟩
  bind a f := fun s =>
    let o := a s
    let p := f o.value o.state
    ⟨p.value, p.state, o.notices ++ p.notices⟩

/-- Two actions that come to the same from every state are the same. -/
theorem ext {a b : Action ν σ α} (h : ∀ s, a.run s = b.run s) : a = b := funext h

@[simp] theorem run_pure (x : α) (s : σ) : (pure x : Action ν σ α).run s = ⟨x, s, []⟩ := rfl

@[simp] theorem run_bind (a : Action ν σ α) (f : α → Action ν σ β) (s : σ) :
    (a >>= f).run s =
      ⟨((f (a.run s).value).run (a.run s).state).value,
        ((f (a.run s).value).run (a.run s).state).state,
        (a.run s).notices ++ ((f (a.run s).value).run (a.run s).state).notices⟩ := rfl

instance instLawfulMonad : LawfulMonad (Action ν σ) :=
  LawfulMonad.mk' (Action ν σ)
    (fun a => ext fun s => by
      show (⟨(a s).value, (a s).state, (a s).notices ++ []⟩ : Outcome ν σ _) = a s
      simp)
    (fun x f => ext fun s => by
      show (⟨(f x s).value, (f x s).state, [] ++ (f x s).notices⟩ : Outcome ν σ _) = f x s
      simp)
    (fun a f g => ext fun s => by simp [List.append_assoc])

@[simp] theorem run_map (f : α → β) (a : Action ν σ α) (s : σ) :
    (f <$> a).run s = ⟨f (a.run s).value, (a.run s).state, (a.run s).notices⟩ := by
  rw [← bind_pure_comp, run_bind]
  simp

/-- The state. -/
def get : Action ν σ σ := fun s => ⟨s, s, []⟩

/-- Puts a state in the place of the one before. -/
def set (s : σ) : Action ν σ Unit := fun _ => ⟨(), s, []⟩

/-- Changes the state. -/
def modify (f : σ → σ) : Action ν σ Unit := fun s => ⟨(), f s, []⟩

/-- Changes the state and answers. -/
def modifyGet (f : σ → α × σ) : Action ν σ α := fun s => ⟨(f s).1, (f s).2, []⟩

/-- Gives a notice. -/
def notify (n : ν) : Action ν σ Unit := fun s => ⟨(), s, [n]⟩

@[simp] theorem run_get (s : σ) : (get : Action ν σ σ).run s = ⟨s, s, []⟩ := rfl
@[simp] theorem run_set (s t : σ) : (set t : Action ν σ Unit).run s = ⟨(), t, []⟩ := rfl
@[simp] theorem run_modify (f : σ → σ) (s : σ) :
    (modify f : Action ν σ Unit).run s = ⟨(), f s, []⟩ := rfl
@[simp] theorem run_modifyGet (f : σ → α × σ) (s : σ) :
    (modifyGet f : Action ν σ α).run s = ⟨(f s).1, (f s).2, []⟩ := rfl
@[simp] theorem run_notify (n : ν) (s : σ) :
    (notify n : Action ν σ Unit).run s = ⟨(), s, [n]⟩ := rfl

/-- The action on a part of a larger state. -/
def zoom {τ : Type} (part : τ → σ) (put : σ → τ → τ) (a : Action ν σ α) : Action ν τ α := fun t =>
  let o := a (part t)
  ⟨o.value, put o.state t, o.notices⟩

@[simp] theorem run_zoom {τ : Type} (part : τ → σ) (put : σ → τ → τ) (a : Action ν σ α) (t : τ) :
    (zoom part put a).run t =
      ⟨(a.run (part t)).value, put (a.run (part t)).state t, (a.run (part t)).notices⟩ := rfl

end Action

end FlagReplica
