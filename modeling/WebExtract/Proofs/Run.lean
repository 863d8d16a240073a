import Mathlib.Data.List.Forall2
import WebExtract.Logged

/-!
# Rules for computations

What can be said of a computation without following the state through it, with one rule for each way
to put computations together.

* `x.Gives a`: `a` is the result of `x` from some state. A result of a composed computation is
  taken apart into results of its parts (`Gives.bind`, `Gives.mapM`).
* `x.Steady`: whether `x` has a result, and which, does not depend on the state. What a steady
  computation gives from some state it gives from every state.
* `x.Always r`: `x` ends with `r`, a result or a failure, from every state.
* `x.Settled`: `x` has one result, from every state, and leaves the state as it is.
* `x.Agrees y`: from every state, `x` and `y` come to the same result and the same state. In what is
  put together from computations, any of them can be replaced by one that agrees with it
  (`Agrees.bind`, `Agrees.mapM`, and `forall₂_inTurn` for computations made in turn).
* `Closed P`: `P` holds of what is put together from computations that satisfy it. Being steady and
  being settled are such properties.

A failure that is seen through a function is the same failure for the parts of a computation
(`mapError_bind`, `mapError_mapM`).
-/
namespace WebExtract.Run

variable {σ ε ε' α β : Type}

@[simp] theorem run_map (f : α → β) (x : Run σ ε α) (s : σ) :
    (f <$> x).run s = ⟨(x.run s).result.map f, (x.run s).state, (x.run s).events⟩ := by
  rw [map_eq_pure_bind, run_bind]
  obtain ⟨r, s', events⟩ := x.run s
  cases r <;> simp [Except.map]

@[simp] theorem run_emit (e : Event) (s : σ) :
    (emit e : Run σ ε PUnit).run s = ⟨.ok ⟨⟩, s, [e]⟩ := rfl

@[simp] theorem run_ofLogged (x : Logged α) (s : σ) :
    (ofLogged x : Run σ ε α).run s = ⟨.ok x.value, s, x.events⟩ := rfl

@[simp] theorem run_ofExcept (r : Except ε α) (s : σ) : (ofExcept r).run s = ⟨r, s, []⟩ := rfl

@[simp] theorem run_fail (e : ε) (s : σ) : (fail e : Run σ ε α).run s = ⟨.error e, s, []⟩ := rfl

/-- From one state, two computations in a row come to the second's result, or to the first's
failure. -/
theorem result_bind (x : Run σ ε α) (f : α → Run σ ε β) (s : σ) :
    ((x >>= f).run s).result =
      (x.run s).result.bind fun a => ((f a).run (x.run s).state).result := by
  rw [run_bind]
  obtain ⟨r, s', events⟩ := x.run s
  cases r <;> rfl

/-! ## Results -/

def Gives (x : Run σ ε α) (a : α) : Prop := ∃ s, (x.run s).result = .ok a

theorem Gives.eq_of_pure {a b : α} (h : (pure a : Run σ ε α).Gives b) : b = a := by
  obtain ⟨s, h⟩ := h
  simp only [run_pure, Except.ok.injEq] at h
  exact h.symm

theorem Gives.eq_of_ofLogged {x : Logged α} {b : α} (h : (ofLogged x : Run σ ε α).Gives b) :
    b = x.value := by
  obtain ⟨s, h⟩ := h
  simp only [run_ofLogged, Except.ok.injEq] at h
  exact h.symm

theorem Gives.bind {x : Run σ ε α} {f : α → Run σ ε β} {b : β} (h : (x >>= f).Gives b) :
    ∃ a, x.Gives a ∧ (f a).Gives b := by
  obtain ⟨s, h⟩ := h
  rw [result_bind] at h
  cases hx : (x.run s).result with
  | error e => rw [hx] at h; cases h
  | ok a => rw [hx] at h; exact ⟨a, ⟨s, hx⟩, ⟨(x.run s).state, h⟩⟩

theorem Gives.mapM {f : α → Run σ ε β} : ∀ {l : List α} {bs : List β}, (l.mapM f).Gives bs →
    List.Forall₂ (fun a b => (f a).Gives b) l bs
  | [], bs, h => by
    rw [List.mapM_nil] at h
    rw [h.eq_of_pure]
    exact .nil
  | a :: l, bs, h => by
    rw [List.mapM_cons] at h
    obtain ⟨b, hb, h⟩ := h.bind
    obtain ⟨bs', hbs, h⟩ := h.bind
    rw [h.eq_of_pure]
    exact .cons hb hbs.mapM

/-! ## Steady computations -/

def Steady (x : Run σ ε α) : Prop := ∀ s s', (x.run s).result = (x.run s').result

theorem Steady.result_eq {x : Run σ ε α} (hx : x.Steady) {a : α} (h : x.Gives a) (s : σ) :
    (x.run s).result = .ok a := by
  obtain ⟨s', h⟩ := h
  rw [hx s s', h]

def Always (x : Run σ ε α) (r : Except ε α) : Prop := ∀ s, (x.run s).result = r

theorem Steady.always {x : Run σ ε α} (hx : x.Steady) {s : σ} {r : Except ε α}
    (h : (x.run s).result = r) : x.Always r := fun s' => (hx s' s).trans h

theorem always_pure (a : α) : (pure a : Run σ ε α).Always (.ok a) := fun _ => rfl

theorem always_emit (e : Event) : (emit e : Run σ ε PUnit).Always (.ok ⟨⟩) := fun _ => rfl

theorem Always.bind {x : Run σ ε α} {f : α → Run σ ε β} {a : α} {r : Except ε β}
    (hx : x.Always (.ok a)) (hf : (f a).Always r) : (x >>= f).Always r := by
  intro s
  rw [result_bind, hx s]
  exact hf _

theorem Always.bind_error {x : Run σ ε α} {e : ε} (hx : x.Always (.error e))
    (f : α → Run σ ε β) : (x >>= f).Always (.error e) := by
  intro s
  rw [result_bind, hx s]
  rfl

/-! ## Settled computations -/

def Settled (x : Run σ ε α) : Prop :=
  ∃ a, ∀ s, (x.run s).result = .ok a ∧ (x.run s).state = s

/-! ## Computations in turn -/

/-- The same but for what was reported. -/
def Same (o o' : Outcome σ ε α) : Prop := o.result = o'.result ∧ o.state = o'.state

def Agrees (x y : Run σ ε α) : Prop := ∀ s, Same (x.run s) (y.run s)

theorem Agrees.refl (x : Run σ ε α) : x.Agrees x := fun _ => ⟨rfl, rfl⟩

theorem Agrees.symm {x y : Run σ ε α} (h : x.Agrees y) : y.Agrees x :=
  fun s => ⟨(h s).1.symm, (h s).2.symm⟩

theorem Agrees.trans {x y z : Run σ ε α} (h : x.Agrees y) (h' : y.Agrees z) : x.Agrees z :=
  fun s => ⟨(h s).1.trans (h' s).1, (h s).2.trans (h' s).2⟩

theorem Agrees.always {x y : Run σ ε α} (h : x.Agrees y) {r : Except ε α} (hy : y.Always r) :
    x.Always r := fun s => (h s).1.trans (hy s)

theorem Agrees.ofLogged_bind {x y : Logged α} (h : x.value = y.value) {f g : α → Run σ ε β}
    (hf : (f x.value).Agrees (g x.value)) : (ofLogged x >>= f).Agrees (ofLogged y >>= g) := by
  intro s
  simp only [run_bind, run_ofLogged, andThen_ok, ← h]
  exact hf s

theorem Agrees.bind {x y : Run σ ε α} (h : x.Agrees y) {f g : α → Run σ ε β}
    (hf : ∀ a, (f a).Agrees (g a)) : (x >>= f).Agrees (y >>= g) := by
  intro s
  have hs := h s
  rw [run_bind, run_bind]
  generalize x.run s = o at hs ⊢
  generalize y.run s = o' at hs ⊢
  obtain ⟨r, t, events⟩ := o
  obtain ⟨r', t', events'⟩ := o'
  obtain ⟨rfl, rfl⟩ := hs
  cases r with
  | error e => exact ⟨rfl, rfl⟩
  | ok a => exact hf a t

theorem Agrees.mapM {f g : α → Run σ ε β} : ∀ {l : List α}, (∀ a ∈ l, (f a).Agrees (g a)) →
    (l.mapM f).Agrees (l.mapM g)
  | [], _ => by
    rw [List.mapM_nil, List.mapM_nil]
    exact .refl _
  | a :: l, h => by
    rw [List.forall_mem_cons] at h
    rw [List.mapM_cons, List.mapM_cons]
    exact h.1.bind fun b => (Agrees.mapM h.2).bind fun bs => .refl _

/-- The outcomes of computations of which each starts in the state that the one before it left, also
if that one failed. -/
def inTurn : List (Run σ ε α) → σ → List (Outcome σ ε α)
  | [], _ => []
  | x :: xs, s => x.run s :: inTurn xs (x.run s).state

theorem forall₂_inTurn {xs ys : List (Run σ ε α)} (h : List.Forall₂ Agrees xs ys) (s : σ) :
    List.Forall₂ Same (inTurn xs s) (inTurn ys s) := by
  induction h generalizing s with
  | nil => exact .nil
  | cons hxy _ ih =>
    refine .cons (hxy s) ?_
    -- The rests start in one state, since the heads agree on the state they leave.
    rw [(hxy s).2]
    exact ih _

theorem result_inTurn {xs : List (Run σ ε α)} {rs : List (Except ε α)}
    (h : List.Forall₂ Always xs rs) (s : σ) : (inTurn xs s).map Outcome.result = rs := by
  induction h generalizing s with
  | nil => rfl
  | cons hx _ ih => rw [inTurn, List.map_cons, hx s, ih]

/-! ## Properties kept by putting computations together -/

structure Closed (P : ∀ α : Type, Run σ ε α → Prop) : Prop where
  ofLogged : ∀ {α : Type} (x : Logged α), P α (ofLogged x)
  bind : ∀ {α β : Type} {x : Run σ ε α} {f : α → Run σ ε β}, P α x → (∀ a, P β (f a)) →
    P β (x >>= f)

namespace Closed

variable {P : ∀ α : Type, Run σ ε α → Prop}

theorem pure (hP : Closed P) (a : α) : P α (Pure.pure a) := hP.ofLogged ⟨a, []⟩

theorem emit (hP : Closed P) (e : Event) : P PUnit (Run.emit e) := hP.ofLogged (Logged.emit e)

theorem mapM (hP : Closed P) {f : α → Run σ ε β} (h : ∀ a, P β (f a)) :
    ∀ l : List α, P (List β) (l.mapM f)
  | [] => by rw [List.mapM_nil]; exact hP.pure []
  | a :: l => by
    rw [List.mapM_cons]
    exact hP.bind (h a) fun b => hP.bind (hP.mapM h l) fun bs => hP.pure (b :: bs)

end Closed

theorem closed_steady : Closed (σ := σ) (ε := ε) fun _ x => x.Steady where
  ofLogged _ := fun _ _ => rfl
  bind hx hf := by
    intro s s'
    rw [result_bind, result_bind, hx s s']
    congr 1
    funext a
    exact hf a _ _

theorem closed_settled : Closed (σ := σ) (ε := ε) fun _ x => x.Settled where
  ofLogged x := ⟨x.value, fun _ => ⟨rfl, rfl⟩⟩
  bind := by
    rintro α β x f ⟨a, ha⟩ hf
    obtain ⟨b, hb⟩ := hf a
    refine ⟨b, fun s => ?_⟩
    have h := ha s
    rw [run_bind]
    generalize x.run s = o at h ⊢
    obtain ⟨r, s', events⟩ := o
    obtain ⟨rfl, rfl⟩ := h
    exact hb s'

theorem Steady.mapError {x : Run σ ε α} (hx : x.Steady) (f : ε → ε') : (x.mapError f).Steady := by
  intro s s'
  simp only [Run.mapError, hx s s']

/-! ## Failures seen otherwise -/

section

variable (f : ε → ε')

@[simp] theorem run_mapError (x : Run σ ε α) (s : σ) : (x.mapError f).run s =
    ⟨(x.run s).result.mapError f, (x.run s).state, (x.run s).events⟩ := rfl

theorem mapError_pure (a : α) : (pure a : Run σ ε α).mapError f = pure a := rfl

theorem mapError_ofLogged (x : Logged α) : (ofLogged x : Run σ ε α).mapError f = ofLogged x := rfl

theorem mapError_bind (x : Run σ ε α) (g : α → Run σ ε β) :
    (x >>= g).mapError f = x.mapError f >>= fun a => (g a).mapError f := by
  ext1
  funext s
  simp only [run_mapError, run_bind]
  obtain ⟨r, s', events⟩ := x.run s
  cases r <;> rfl

theorem mapError_mapM (g : α → Run σ ε β) (l : List α) :
    (l.mapM g).mapError f = l.mapM fun a => (g a).mapError f := by
  induction l with
  | nil => rw [List.mapM_nil, List.mapM_nil, mapError_pure]
  | cons a l ih => simp only [List.mapM_cons, mapError_bind, mapError_pure, ih]

end

end WebExtract.Run
