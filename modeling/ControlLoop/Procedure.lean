import ControlLoop.Journal

/-!
# Procedures on a device

A procedure starts from a state, writes events, and ends in a result or an error and a new state. An error does not undo
anything: the state and the events it had reached remain. The run of a sequence follows from the run of its first part,
by whether that ended in a result or in an error, and a loop whose rounds leave the state as it is writes the events of
its rounds one after the other.
-/

namespace ControlLoop

set_option autoImplicit false

/-- A procedure on a state `σ` that writes events `ω` and may fail with `ε`. -/
structure Procedure (ω σ ε α : Type) where
  run : σ → Journal ω (Except ε α × σ)

namespace Procedure

variable {ω σ ε ε' α β : Type}

def result (a : α) : Procedure ω σ ε α := ⟨fun s => ⟨(.ok a, s), []⟩⟩

/-- Goes on with `f` if the first part gave a result. -/
def andThen (t : Procedure ω σ ε α) (f : α → Procedure ω σ ε β) : Procedure ω σ ε β where
  run s := match t.run s with
    | ⟨(.ok a, s'), events⟩ => let rest := (f a).run s'; ⟨rest.value, events ++ rest.events⟩
    | ⟨(.error e, s'), events⟩ => ⟨(.error e, s'), events⟩

instance : Monad (Procedure ω σ ε) where
  pure := result
  bind := andThen

def fail (e : ε) : Procedure ω σ ε α := ⟨fun s => ⟨(.error e, s), []⟩⟩

def ofExcept : Except ε α → Procedure ω σ ε α
  | .ok a => pure a
  | .error e => fail e

def write (event : ω) : Procedure ω σ ε Unit := ⟨fun s => ⟨(.ok (), s), [event]⟩⟩

def read : Procedure ω σ ε σ := ⟨fun s => ⟨(.ok s, s), []⟩⟩

def modify (f : σ → σ) : Procedure ω σ ε Unit := ⟨fun s => ⟨(.ok (), f s), []⟩⟩

/-- Runs a procedure and takes its error as a value. -/
def attempt (t : Procedure ω σ ε α) : Procedure ω σ ε' (Except ε α) where
  run s := ⟨(.ok (t.run s).value.1, (t.run s).value.2), (t.run s).events⟩

/-- Runs `f` on one element after the other, up to the first that fails. -/
def forEach (f : α → Procedure ω σ ε Unit) : List α → Procedure ω σ ε Unit
  | [] => pure ()
  | a :: rest => do
    f a
    forEach f rest

@[simp] theorem run_pure (a : α) (s : σ) : (pure a : Procedure ω σ ε α).run s = ⟨(.ok a, s), []⟩ := rfl

@[simp] theorem run_bind (t : Procedure ω σ ε α) (f : α → Procedure ω σ ε β) (s : σ) :
    (t >>= f).run s = match t.run s with
      | ⟨(.ok a, s'), events⟩ => ⟨((f a).run s').value, events ++ ((f a).run s').events⟩
      | ⟨(.error e, s'), events⟩ => ⟨(.error e, s'), events⟩ := rfl

@[simp] theorem forEach_nil (f : α → Procedure ω σ ε Unit) : forEach f [] = pure () := rfl

@[simp] theorem forEach_cons (f : α → Procedure ω σ ε Unit) (a : α) (rest : List α) :
    forEach f (a :: rest) = f a >>= fun _ => forEach f rest := rfl

@[simp] theorem run_ite (p : Prop) [Decidable p] (t u : Procedure ω σ ε α) (s : σ) :
    (if p then t else u).run s = if p then t.run s else u.run s := by
  split <;> rfl

@[simp] theorem run_fail (e : ε) (s : σ) : (fail e : Procedure ω σ ε α).run s = ⟨(.error e, s), []⟩ := rfl

@[simp] theorem run_ofExcept_ok (a : α) (s : σ) :
    (ofExcept (.ok a) : Procedure ω σ ε α).run s = ⟨(.ok a, s), []⟩ := rfl

@[simp] theorem run_ofExcept_error (e : ε) (s : σ) :
    (ofExcept (.error e) : Procedure ω σ ε α).run s = ⟨(.error e, s), []⟩ := rfl

@[simp] theorem run_write (event : ω) (s : σ) : (write event : Procedure ω σ ε Unit).run s = ⟨(.ok (), s), [event]⟩ := rfl

@[simp] theorem run_read (s : σ) : (read : Procedure ω σ ε σ).run s = ⟨(.ok s, s), []⟩ := rfl

@[simp] theorem run_modify (f : σ → σ) (s : σ) : (modify f : Procedure ω σ ε Unit).run s = ⟨(.ok (), f s), []⟩ := rfl

@[simp] theorem run_attempt (t : Procedure ω σ ε α) (s : σ) :
    (attempt t : Procedure ω σ ε' (Except ε α)).run s = ⟨(.ok (t.run s).value.1, (t.run s).value.2), (t.run s).events⟩ :=
  rfl

theorem run_bind_of_ok {p : Procedure ω σ ε α} {f : α → Procedure ω σ ε β} {s s' : σ} {a : α} {events : List ω}
    (h : p.run s = ⟨(.ok a, s'), events⟩) :
    (p >>= f).run s = ⟨((f a).run s').value, events ++ ((f a).run s').events⟩ := by
  rw [run_bind, h]

theorem run_bind_of_error {p : Procedure ω σ ε α} {f : α → Procedure ω σ ε β} {s s' : σ} {e : ε} {events : List ω}
    (h : p.run s = ⟨(.error e, s'), events⟩) : (p >>= f).run s = ⟨(.error e, s'), events⟩ := by
  rw [run_bind, h]

theorem run_ofExcept (reply : Except ε α) (s : σ) : (ofExcept reply : Procedure ω σ ε α).run s = ⟨(reply, s), []⟩ := by
  cases reply with
  | ok a => exact run_ofExcept_ok a s
  | error e => exact run_ofExcept_error e s

/-- A last part that only changes the result. -/
theorem run_bind_pure (p : Procedure ω σ ε α) (f : α → β) (s : σ) :
    (p >>= fun a => pure (f a)).run s = ⟨((p.run s).value.1.map f, (p.run s).value.2), (p.run s).events⟩ := by
  rcases h : p.run s with ⟨⟨reply, s'⟩, events⟩
  cases reply with
  | ok a =>
    rw [run_bind_of_ok h, run_pure, List.append_nil]
    rfl
  | error e =>
    rw [run_bind_of_error h]
    rfl

theorem run_forEach_of_unchanged {f : α → Procedure ω σ ε Unit} {g : α → List ω} {s : σ}
    (h : ∀ a, (f a).run s = ⟨(.ok (), s), g a⟩) (l : List α) : (forEach f l).run s = ⟨(.ok (), s), l.flatMap g⟩ := by
  induction l with
  | nil => rfl
  | cons a rest ih => rw [forEach_cons, run_bind_of_ok (h a), ih, List.flatMap_cons]

end Procedure

end ControlLoop
