import Mathlib.Data.List.TakeWhile

/-!
# Rules for readers

A reader takes what is unread and returns what it read and what is left, or fails. A reader with
steps that are counted down (`fuel`) has enough of them if every step leaves less unread. Such a
proof takes readers in a row apart (`bind_eq_ok_iff`) and compares them on what they can return
(`bind_congr_of_ok`, `mapM_congr`).
-/
namespace WebExtract.Reader

variable {ε α β : Type} {x : Except ε α}

theorem bind_eq_ok_iff {f : α → Except ε β} {b : β} :
    x >>= f = .ok b ↔ ∃ a, x = .ok a ∧ f a = .ok b := by
  cases x with
  | error e => simp [bind, Except.bind]
  | ok a => simp [bind, Except.bind]

/-- What comes second matters for the results of the first only. -/
theorem bind_congr_of_ok {f g : α → Except ε β} (h : ∀ a, x = .ok a → f a = g a) :
    x >>= f = x >>= g := by
  cases x with
  | error e => rfl
  | ok a => exact h a rfl

theorem mapM_congr {m : Type → Type} [Monad m] [LawfulMonad m] {f g : α → m β} {l : List α}
    (h : ∀ a ∈ l, f a = g a) : l.mapM f = l.mapM g := by
  induction l with
  | nil => rfl
  | cons a l ih =>
    rw [List.forall_mem_cons] at h
    rw [List.mapM_cons, List.mapM_cons, h.1, ih h.2]

theorem length_dropWhile_cons_le {p : α → Bool} {a : α} (h : p a = true) (l : List α) :
    ((a :: l).dropWhile p).length ≤ l.length := by
  rw [List.dropWhile_cons_of_pos h]
  exact List.length_dropWhile_le p l

end WebExtract.Reader
