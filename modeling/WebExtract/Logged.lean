import WebExtract.Event

/-!
# Computations that emit events

`Logged α` is a value with the events emitted on the way to it, in order. `Run σ ε α` is a
computation that may also read and update a state `σ` of its caller, and may fail with an `ε`;
a failure keeps the state and the events up to it. Both are lawful monads.
-/
namespace WebExtract

structure Logged (α : Type u) where
  value : α
  events : List Event

namespace Logged

variable {α β γ : Type u}

def bind (x : Logged α) (f : α → Logged β) : Logged β :=
  ⟨(f x.value).value, x.events ++ (f x.value).events⟩

instance : Monad Logged where
  pure a := ⟨a, []⟩
  bind := bind

def emit (e : Event) : Logged PUnit := ⟨⟨⟩, [e]⟩

@[simp] theorem value_pure (a : α) : (pure a : Logged α).value = a := rfl

@[simp] theorem events_pure (a : α) : (pure a : Logged α).events = [] := rfl

@[simp] theorem value_bind (x : Logged α) (f : α → Logged β) :
    (x >>= f).value = (f x.value).value := rfl

@[simp] theorem events_bind (x : Logged α) (f : α → Logged β) :
    (x >>= f).events = x.events ++ (f x.value).events := rfl

@[simp] theorem value_map (f : α → β) (x : Logged α) : (f <$> x).value = f x.value := rfl

@[simp] theorem events_map (f : α → β) (x : Logged α) : (f <$> x).events = x.events :=
  List.append_nil x.events

instance : LawfulMonad Logged := LawfulMonad.mk' _
  (fun x => by cases x; simp [Functor.map, bind])
  (fun _ _ => rfl)
  (fun x f g => by simp [Bind.bind, bind, List.append_assoc])

end Logged

/-- How a computation ended. -/
structure Outcome (σ : Type) (ε α : Type) where
  result : Except ε α
  state : σ
  events : List Event

/-- A computation that starts in a state. -/
@[ext] structure Run (σ : Type) (ε α : Type) where
  run : σ → Outcome σ ε α

namespace Run

variable {σ ε α β γ : Type}

/-- Goes on with `f` after a result; a failure ends the computation. -/
def andThen (o : Outcome σ ε α) (f : α → Run σ ε β) : Outcome σ ε β :=
  match o with
  | ⟨.error e, s, events⟩ => ⟨.error e, s, events⟩
  | ⟨.ok a, s, events⟩ =>
    let o' := (f a).run s
    ⟨o'.result, o'.state, events ++ o'.events⟩

instance : Monad (Run σ ε) where
  pure a := ⟨fun s => ⟨.ok a, s, []⟩⟩
  bind x f := ⟨fun s => andThen (x.run s) f⟩

def fail (e : ε) : Run σ ε α := ⟨fun s => ⟨.error e, s, []⟩⟩

def emit (e : Event) : Run σ ε PUnit := ⟨fun s => ⟨.ok ⟨⟩, s, [e]⟩⟩

/-- A computation that cannot fail and does not touch the state. -/
def ofLogged (x : Logged α) : Run σ ε α := ⟨fun s => ⟨.ok x.value, s, x.events⟩⟩

/-- A result that is there already. -/
def ofExcept (r : Except ε α) : Run σ ε α := ⟨fun s => ⟨r, s, []⟩⟩

def get : Run σ ε σ := ⟨fun s => ⟨.ok s, s, []⟩⟩

def set (s : σ) : Run σ ε PUnit := ⟨fun _ => ⟨.ok ⟨⟩, s, []⟩⟩

/-- The same computation with its failure seen through `f`. -/
def mapError {ε' : Type} (f : ε → ε') (x : Run σ ε α) : Run σ ε' α :=
  ⟨fun s =>
    let o := x.run s
    ⟨o.result.mapError f, o.state, o.events⟩⟩

@[simp] theorem run_pure (a : α) (s : σ) : (pure a : Run σ ε α).run s = ⟨.ok a, s, []⟩ := rfl

@[simp] theorem run_bind (x : Run σ ε α) (f : α → Run σ ε β) (s : σ) :
    (x >>= f).run s = andThen (x.run s) f := rfl

@[simp] theorem andThen_ok (a : α) (s : σ) (events : List Event) (f : α → Run σ ε β) :
    andThen ⟨.ok a, s, events⟩ f =
      ⟨((f a).run s).result, ((f a).run s).state, events ++ ((f a).run s).events⟩ := rfl

@[simp] theorem andThen_error (e : ε) (s : σ) (events : List Event) (f : α → Run σ ε β) :
    andThen (⟨.error e, s, events⟩ : Outcome σ ε α) f = ⟨.error e, s, events⟩ := rfl

theorem bind_pure (x : Run σ ε α) : (x >>= fun a => (pure a : Run σ ε α)) = x := by
  ext1
  funext s
  rw [run_bind]
  obtain ⟨r, s', events⟩ := x.run s
  cases r <;> simp

theorem bind_assoc (x : Run σ ε α) (f : α → Run σ ε β) (g : β → Run σ ε γ) :
    x >>= f >>= g = x >>= fun a => f a >>= g := by
  ext1
  funext s
  simp only [run_bind]
  obtain ⟨r, s', events⟩ := x.run s
  cases r with
  | error e => rfl
  | ok a =>
    simp only [andThen_ok, run_bind]
    obtain ⟨r', s'', events'⟩ := (f a).run s'
    cases r' <;> simp

instance : LawfulMonad (Run σ ε) := LawfulMonad.mk' _
  bind_pure
  (fun a f => by ext1; funext s; simp)
  bind_assoc

end Run

end WebExtract
