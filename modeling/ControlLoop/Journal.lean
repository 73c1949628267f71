/-!
# Journals and log lines

A journal is a value together with the events that were written on the way to it, in order. Sequencing two journals
appends their events, so a law about the events of a long run follows from the laws of its parts.
-/

namespace ControlLoop

set_option autoImplicit false

universe u

structure Journal (ω : Type) (α : Type u) where
  value : α
  events : List ω

namespace Journal

variable {ω : Type} {α β : Type u}

def write (event : ω) : Journal ω PUnit := ⟨⟨⟩, [event]⟩

instance : Monad (Journal ω) where
  pure a := ⟨a, []⟩
  bind j f := ⟨(f j.value).value, j.events ++ (f j.value).events⟩

@[simp] theorem value_pure (a : α) : (pure a : Journal ω α).value = a := rfl

@[simp] theorem events_pure (a : α) : (pure a : Journal ω α).events = [] := rfl

@[simp] theorem value_bind (j : Journal ω α) (f : α → Journal ω β) : (j >>= f).value = (f j.value).value := rfl

@[simp] theorem events_bind (j : Journal ω α) (f : α → Journal ω β) :
    (j >>= f).events = j.events ++ (f j.value).events := rfl

@[simp] theorem value_map (f : α → β) (j : Journal ω α) : (f <$> j).value = f j.value := rfl

@[simp] theorem events_map (f : α → β) (j : Journal ω α) : (f <$> j).events = j.events := List.append_nil j.events

instance : LawfulMonad (Journal ω) := LawfulMonad.mk' _
  (fun j => by cases j; simp [Functor.map])
  (fun a f => by simp [bind, pure])
  (fun j f g => by simp [bind, List.append_assoc])

/-- The same journal with its events seen as events of another kind. -/
def mapEvents {ω' : Type} (g : ω → ω') (j : Journal ω α) : Journal ω' α := ⟨j.value, j.events.map g⟩

end Journal

/-! ## Log lines -/

namespace Log

inductive Level where
  | error
  | warn
  | info
  | debug
  | trace
deriving DecidableEq, Repr

def Level.name : Level → String
  | .error => "ERROR"
  | .warn => "WARN"
  | .info => "INFO"
  | .debug => "DEBUG"
  | .trace => "TRACE"

structure Line where
  level : Level
  text : String
deriving DecidableEq, Repr

def Line.render (line : Line) : String := line.level.name ++ " " ++ line.text

end Log

end ControlLoop
