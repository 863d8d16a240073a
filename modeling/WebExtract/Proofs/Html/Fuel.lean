import Mathlib.Data.List.TakeWhile
import WebExtract.Html.Page

/-!
# The reader of pages has fuel enough

Tags and pages are read in steps that are counted down (`fuel`). Each step passes a character or
more, so a text of length `n` takes no more than `n` of them.

**Results.**
* `Scan.attributes_eq_of_lt`: how much fuel the attributes of a tag get makes no difference, once it
  is more than the length of the text.
* `Scan.length_of_tokens`: what is left after the next tokens is shorter.
* `readTokens_eq_of_le`: the same for the tokens of a page.
-/
namespace WebExtract.Html

namespace Scan

/-! ## Text -/

theorem length_decodedText_le (inAttribute : Bool) (stop : List Char → Bool) (nul : Char)
    (skip : Nat) (cs : List Char) :
    (decodedText inAttribute stop nul skip cs).2.length ≤ cs.length := by
  fun_induction decodedText inAttribute stop nul skip cs <;> grind

/-- A text that does not stop at once loses its first character. -/
theorem length_decodedText_cons_le {inAttribute : Bool} {stop : List Char → Bool} {nul c : Char}
    {cs : List Char} (h : stop (c :: cs) = false) :
    (decodedText inAttribute stop nul 0 (c :: cs)).2.length ≤ cs.length := by
  unfold decodedText
  grind [length_decodedText_le]

theorem length_rawText_le (stop : List Char → Bool) (cs : List Char) :
    (rawText stop cs).2.length ≤ cs.length := by
  fun_induction rawText stop cs <;> grind

theorem length_scriptText_le (state : ScriptState) (cs : List Char) :
    (scriptText state cs).2.length ≤ cs.length := by
  fun_induction scriptText state cs <;> grind

/-! ## Tags -/

variable {cs rest : List Char}

theorem length_of_attributeValue {value : List Char} (h : attributeValue cs = some (value, rest)) :
    rest.length ≤ cs.length := by
  unfold attributeValue at h
  grind [length_decodedText_le]

theorem length_of_oneAttribute {c : Char} {a : String × String}
    (h : oneAttribute c cs = some (a, rest)) : rest.length ≤ cs.length := by
  unfold oneAttribute at h
  grind [List.length_dropWhile_le, Option.bind_eq_some_iff, → length_of_attributeValue]

theorem length_of_attributes {done as : List (String × String)} {fuel : Nat} {closed : Bool}
    (h : attributes done fuel cs = some (as, closed, rest)) : rest.length < cs.length := by
  fun_induction attributes done fuel cs <;> grind [→ length_of_oneAttribute]

/-- With steps enough, their number does not matter. -/
theorem attributes_eq_of_lt {done : List (String × String)} {m n : Nat} {cs : List Char}
    (hm : cs.length < m) (hn : cs.length < n) : attributes done m cs = attributes done n cs := by
  induction m generalizing done n cs with
  | zero => omega
  | succ m ih =>
    obtain ⟨n, rfl⟩ := Nat.exists_eq_add_one_of_ne_zero (n := n) (by omega)
    unfold attributes
    grind [→ length_of_oneAttribute]

theorem length_of_tag {t : Tag} (h : tag cs = some (t, rest)) : rest.length < cs.length := by
  unfold tag at h
  grind [List.length_dropWhile_le, Option.bind_eq_some_iff, → length_of_attributes]

/-! ## Comments and declarations -/

theorem length_commentBody_le (cs : List Char) : (commentBody cs).2.length ≤ cs.length := by
  fun_induction commentBody cs <;> grind

theorem length_comment_le (cs : List Char) : (comment cs).2.length ≤ cs.length := by
  unfold comment
  grind [length_commentBody_le]

theorem length_bogusComment_le (cs : List Char) : (bogusComment cs).2.length ≤ cs.length := by
  have := List.length_dropWhile_le (fun c : Char => decide (c ≠ '>')) cs
  simp only [bogusComment, List.length_drop]
  omega

theorem length_sectionBody_le (cs : List Char) : (sectionBody cs).2.length ≤ cs.length := by
  fun_induction sectionBody cs <;> grind

theorem length_restOfDoctype_le (d : Doctype) (cs : List Char) :
    (restOfDoctype d cs).2.length ≤ cs.length := by
  have := List.length_dropWhile_le (fun c : Char => decide (c ≠ '>')) cs
  simp only [restOfDoctype, List.length_drop]
  omega

theorem length_quotedId_le (quote : Char) (cs : List Char) :
    (quotedId quote cs).2.1.length ≤ cs.length := by
  unfold quotedId
  grind [List.length_dropWhile_le]

theorem length_doctypeSystem_le (d : Doctype) (optional : Bool) (cs : List Char) :
    (doctypeSystem d optional cs).2.length ≤ cs.length := by
  unfold doctypeSystem
  grind [List.length_dropWhile_le, length_quotedId_le, length_restOfDoctype_le]

theorem length_doctypePublic_le (d : Doctype) (cs : List Char) :
    (doctypePublic d cs).2.length ≤ cs.length := by
  unfold doctypePublic
  grind [List.length_dropWhile_le, length_quotedId_le, length_restOfDoctype_le,
    length_doctypeSystem_le]

theorem length_doctype_le (cs : List Char) : (doctype cs).2.length ≤ cs.length := by
  unfold doctype
  grind [List.length_dropWhile_le, length_restOfDoctype_le, length_doctypePublic_le,
    length_doctypeSystem_le]

/-! ## Tokens -/

theorem length_declaration_le (inForeign : Bool) (cs : List Char) :
    (declaration inForeign cs).2.length ≤ cs.length := by
  unfold declaration
  grind [length_comment_le, length_doctype_le, length_sectionBody_le, length_bogusComment_le]

theorem length_afterLess_le (inForeign : Bool) (cs : List Char) :
    (afterLess inForeign cs).2.length ≤ cs.length := by
  unfold afterLess
  grind [length_declaration_le, length_bogusComment_le, → length_of_tag]

theorem length_textThenEnd_lt {read : List Char × List Char} (h : read.2.length ≤ cs.length)
    (hcs : cs ≠ []) : (textThenEnd read).2.length < cs.length := by
  have hpos : 0 < cs.length := List.length_pos_iff.2 hcs
  unfold textThenEnd
  grind [→ length_of_tag]

theorem length_of_tokens (reading : Reading) (inForeign : Bool) (hcs : cs ≠ []) :
    (tokens reading inForeign cs).2.length < cs.length := by
  have hpos : 0 < cs.length := List.length_pos_iff.2 hcs
  unfold tokens
  split
  case h_1 => exact hpos
  case h_2 => exact length_textThenEnd_lt (length_scriptText_le _ cs) hcs
  case h_3 => exact length_textThenEnd_lt (length_rawText_le _ cs) hcs
  case h_4 => exact length_textThenEnd_lt (length_decodedText_le _ _ _ 0 cs) hcs
  case h_5 =>
    split
    case h_1 => exact Nat.lt_succ_of_le (length_afterLess_le inForeign _)
    case h_2 hne =>
      obtain ⟨c, cs, rfl⟩ := List.exists_cons_of_ne_nil hcs
      have hc : c ≠ '<' := fun h => hne cs (congrArg (· :: cs) h)
      exact Nat.lt_succ_of_le (length_decodedText_cons_le (by simpa using hc))

end Scan

/-- The text of a page is read to its end. -/
theorem readTokens_eq_of_le {m n : Nat} {cs : List Char} (hm : cs.length ≤ m)
    (hn : cs.length ≤ n) : readTokens m cs = readTokens n cs := by
  induction m generalizing n cs with
  | zero =>
    obtain rfl := List.length_eq_zero_iff.1 (Nat.le_zero.1 hm)
    cases n <;> rfl
  | succ m ih =>
    cases cs with
    | nil => cases n <;> rfl
    | cons c cs =>
      obtain ⟨n, rfl⟩ := Nat.exists_eq_add_one_of_ne_zero (n := n) (by grind)
      refine bind_congr fun b => ?_
      have hlt := Scan.length_of_tokens b.reading b.inForeign (List.cons_ne_nil c cs)
      simp only [List.length_cons] at hm hn hlt
      simp only
      rw [ih (n := n) (by omega) (by omega)]

end WebExtract.Html
