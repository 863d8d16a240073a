import WebExtract.Text.Ascii
import WebExtract.Text.Quoted

/-!
# Quoted texts are unambiguous

A quoted text says where it ends and what it quotes, whatever comes after it: the closing quote is
the first one that is no part of an escape, and the escapes of different characters differ.

`unescape` reads one escaped character back, so no two characters have escapes of which one begins
like the other.

**Results.**
* `number_toDigits`: the digits of a number in base sixteen are read back as that number.
* `unescape_escapeChar`: an escaped character is read back, with any rest.
* `quote_append_inj`: two quoted texts with rests are equal only if the texts and the rests are.
-/
namespace WebExtract.Text

/-! ## Hexadecimal digits -/

theorem hexValue_digitChar : ∀ {n : Nat}, n < 16 → hexValue n.digitChar = n := by
  decide

theorem number_append (base : Nat) (ds : List Char) (d : Char) :
    number base (ds ++ [d]) = number base ds * base + hexValue d := by
  simp [number]

theorem number_toDigits (n : Nat) : number 16 (Nat.toDigits 16 n) = n := by
  induction n using Nat.base_induction 16 (by decide) with
  | single m hm =>
    rw [Nat.toDigits_of_lt_base hm]
    simp [number, hexValue_digitChar hm]
  | digit m k hk hm ih =>
    rw [← Nat.toDigits_append_toDigits (by decide) hm hk, Nat.toDigits_of_lt_base hk,
      number_append, ih, hexValue_digitChar hk]
    omega

theorem brace_not_mem_toDigits (n : Nat) : '\x7d' ∉ Nat.toDigits 16 n := by
  induction n using Nat.base_induction 16 (by decide) with
  | single m hm =>
    rw [Nat.toDigits_of_lt_base hm, List.mem_singleton]
    exact (Nat.digitChar_ne '\x7d' (by decide)).symm
  | digit m k hk hm ih =>
    rw [← Nat.toDigits_append_toDigits (by decide) hm hk, Nat.toDigits_of_lt_base hk,
      List.mem_append, List.mem_singleton, not_or]
    exact ⟨ih, (Nat.digitChar_ne '\x7d' (by decide)).symm⟩

/-! ## Reading escapes back -/

/-- The character that an escape stands for, and what follows; the backslash is read already. -/
def unescapeCode : List Char → Option (Char × List Char)
  | 'n' :: cs => some ('\n', cs)
  | 'r' :: cs => some ('\r', cs)
  | 't' :: cs => some ('\t', cs)
  | '0' :: cs => some ('\x00', cs)
  | 'u' :: '\x7b' :: cs =>
    let digits := cs.takeWhile (· ≠ '\x7d')
    some (.ofNat (number 16 digits), cs.drop (digits.length + 1))
  | c :: cs => some (c, cs)
  | [] => none

def unescape : List Char → Option (Char × List Char)
  | [] => none
  | c :: cs => if c = '\\' then unescapeCode cs else some (c, cs)

theorem unescapeCode_codePoint (c : Char) (cs : List Char) :
    unescapeCode ('u' :: '\x7b' :: (Nat.toDigits 16 c.toNat ++ '\x7d' :: cs)) = some (c, cs) := by
  have hdigits : (Nat.toDigits 16 c.toNat ++ '\x7d' :: cs).takeWhile (· ≠ '\x7d') =
      Nat.toDigits 16 c.toNat := by
    rw [List.takeWhile_append_of_pos]
    · simp
    · intro d hd
      have hne : d ≠ '\x7d' := by
        rintro rfl
        exact brace_not_mem_toDigits c.toNat hd
      simpa using hne
  simp only [unescapeCode, hdigits, number_toDigits, Char.ofNat_toNat]
  simp

theorem unescape_escapeChar (c : Char) (cs : List Char) :
    unescape (escapeChar c ++ cs) = some (c, cs) := by
  by_cases hquote : c = '"'
  · subst hquote; rfl
  by_cases hback : c = '\\'
  · subst hback; rfl
  by_cases hn : c = '\n'
  · subst hn; rfl
  by_cases hr : c = '\r'
  · subst hr; rfl
  by_cases ht : c = '\t'
  · subst ht; rfl
  by_cases hnul : c = '\x00'
  · subst hnul; rfl
  simp only [escapeChar, hquote, hback, hn, hr, ht, hnul, if_false]
  split
  · simp [unescape, hback]
  · simpa [unescape] using unescapeCode_codePoint c cs

theorem escapeChar_append_inj {c c' : Char} {cs cs' : List Char}
    (h : escapeChar c ++ cs = escapeChar c' ++ cs') : c = c' ∧ cs = cs' := by
  have hread := unescape_escapeChar c cs
  rw [h, unescape_escapeChar c' cs'] at hread
  cases hread
  exact ⟨rfl, rfl⟩

/-- An escape does not begin with a quote, so no quote inside a quoted text can end it. -/
theorem escapeChar_append_ne_quote (c : Char) (cs cs' : List Char) :
    escapeChar c ++ cs ≠ '"' :: cs' := by
  intro h
  have hread := unescape_escapeChar c cs
  rw [h] at hread
  cases hread
  cases h

/-! ## Quoted texts -/

theorem escaped_append_inj {s t cs cs' : List Char}
    (h : s.flatMap escapeChar ++ '"' :: cs = t.flatMap escapeChar ++ '"' :: cs') :
    s = t ∧ cs = cs' := by
  induction s generalizing t with
  | nil =>
    cases t with
    | nil => simpa using h
    | cons c t =>
      rw [List.flatMap_cons, List.append_assoc] at h
      exact (escapeChar_append_ne_quote c _ _ h.symm).elim
  | cons c s ih =>
    cases t with
    | nil =>
      rw [List.flatMap_cons, List.append_assoc] at h
      exact (escapeChar_append_ne_quote c _ _ h).elim
    | cons c' t =>
      simp only [List.flatMap_cons, List.append_assoc] at h
      obtain ⟨rfl, hrest⟩ := escapeChar_append_inj h
      obtain ⟨rfl, hcs⟩ := ih hrest
      exact ⟨rfl, hcs⟩

theorem quote_append_inj {s t : String} {cs cs' : List Char}
    (h : quote s ++ cs = quote t ++ cs') : s = t ∧ cs = cs' := by
  simp only [quote, List.cons_append, List.append_assoc, List.nil_append, List.cons.injEq,
    true_and] at h
  obtain ⟨hst, hcs⟩ := escaped_append_inj h
  exact ⟨String.toList_inj.1 hst, hcs⟩

end WebExtract.Text
