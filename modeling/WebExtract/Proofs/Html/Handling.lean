import Mathlib.Data.List.TakeWhile
import WebExtract.Proofs.Html.Rules

/-!
# Every token is handled to its end

A rule may ask for its token again, which the rule of another state then gets. `potential` bounds
how often that can happen: it counts the open elements and, at the end of the page, the open
templates, and adds a rank of the mode that falls wherever the mode changes without an element
being closed. Between the parts of a table modes change in both directions, towards the part that
is done with the token, so the rank there is the distance from that part; on the way inwards an
element is opened with each mode, which is why the distance counts twice.

Text found in a table is put in place before the token that follows it is handled, and can open
any number of elements. That takes one step, after which the state is `Settled`.

**Results.**
* `Build.lowers_step`: from a settled state a rule asks only for its own token, and in a settled
  state of less potential.
* `Build.settles_step`: so does the first step from any state.
* `Build.handles_iff`: `handleFully`, whose steps are counted down, is what the rules do with the
  token when each is asked as long as it demands.
-/
namespace WebExtract.Html

open WebExtract.Dom

/-! ## The potential of a state -/

def isHtmlEnd : Token → Bool
  | .endTag tag => tag.name = "html"
  | _ => false

def isTableStart : Token → Bool
  | .startTag tag => tag.name = "table"
  | _ => false

def isCharacters : Token → Bool
  | .null | .blanks _ | .text _ => true
  | _ => false

/-- Which of the modes inside a table is done with a token, counted from the outside. -/
def tableGoal : Token → Nat
  | .startTag tag =>
    if tag.name = "col" then 0
    else if tag.name = "tr" then 2
    else if ["td", "th"].contains tag.name then 3
    else 1
  | _ => 1

/-- The rank of the mode at a place inside a table. A table inside a table closes the outer one from
any place. -/
def tableRank (t : Token) (place : Nat) : Nat :=
  if isTableStart t then 9 else 2 * ((place - tableGoal t) + (tableGoal t - place)) + 1

/-- How many more changes of mode a token can bring about. -/
def rank (t : Token) : Mode → Nat
  | .initial => 9
  | .beforeHtml => 8
  | .beforeHead => 6
  | .inHead => 4
  | .afterHead => 3
  | .inBody => if isHtmlEnd t then 1 else 0
  | .afterBody => if isHtmlEnd t then 0 else 1
  | .afterAfterBody => 2
  | .inColumnGroup => tableRank t 0
  | .inTable => tableRank t 1
  | .inTableBody => tableRank t 2
  | .inRow => tableRank t 3
  | .inCell => tableRank t 4
  | .inCaption | .inSelect | .inSelectInTable | .inTemplate => 9
  | .inFrameset | .afterFrameset | .afterAfterFrameset => 0

/-- An element that holds nothing but text is closed before the mode applies. -/
def runRank (t : Token) (m : Mode) : TextRun → Nat
  | .none => rank t m
  | .inElement => 10
  | .inTable _ => 0

/-- Only the end of the page closes templates one after the other. -/
def weight (t : Token) (templateModes : List Mode) : Nat :=
  if t = .eof then 9 * templateModes.length else 0

def potential (t : Token) (b : Builder) : Nat :=
  b.stack.length + weight t b.templateModes + runRank t b.mode b.textRun

/-- No text found in a table is to be dealt with before the token. -/
def Settled (t : Token) (b : Builder) : Prop :=
  ∀ found, b.textRun = .inTable found → isCharacters t = true

def Below (t : Token) (n : Nat) (b : Builder) : Prop := Settled t b ∧ potential t b < n

/-- A rule that asks for a token asks for the one it was given, in a state that satisfies `P`. -/
def Leads (t : Token) (P : Builder → Prop) (x : Build Step) (b : Builder) : Prop :=
  ∀ t', (x b).1 = .again t' → t' = t ∧ P (x b).2

variable {t : Token} {P : Builder → Prop} {n : Nat} {b : Builder} {α : Type}

/-! ## Ranks -/

theorem tableGoal_le (t : Token) : tableGoal t ≤ 3 := by
  unfold tableGoal
  grind

theorem isTableStart_of_part {tag : Tag} (h : tag.name ∈ tablePartNames) :
    isTableStart (.startTag tag) = false := by
  simp [tablePartNames] at h
  grind [isTableStart]

theorem tableGoal_start_le_two {tag : Tag} (htd : tag.name ≠ "td") (hth : tag.name ≠ "th") :
    tableGoal (.startTag tag) ≤ 2 := by
  simp only [tableGoal]
  grind

theorem tableGoal_start_le_one {tag : Tag} (htr : tag.name ≠ "tr") (htd : tag.name ≠ "td")
    (hth : tag.name ≠ "th") : tableGoal (.startTag tag) ≤ 1 := by
  simp only [tableGoal]
  grind

theorem tableRank_pos (t : Token) (place : Nat) : 0 < tableRank t place := by
  unfold tableRank
  split <;> omega

theorem tableRank_eq (h : isTableStart t = false) (place : Nat) :
    tableRank t place = 2 * ((place - tableGoal t) + (tableGoal t - place)) + 1 :=
  if_neg (by simp [h])

theorem tableRank_one_lt (h : isTableStart t = false) : tableRank t 1 < 9 := by
  have hgoal := tableGoal_le t
  rw [tableRank_eq h]
  omega

/-- On the way out of a table the rank falls up to the goal. -/
theorem tableRank_lt_succ {place : Nat} (h : isTableStart t = false)
    (hgoal : tableGoal t ≤ place) : tableRank t place < tableRank t (place + 1) := by
  rw [tableRank_eq h, tableRank_eq h]
  omega

theorem tableRank_le_succ {place : Nat} (hgoal : tableGoal t ≤ place) :
    tableRank t place ≤ tableRank t (place + 1) := by
  unfold tableRank
  split <;> omega

/-- On the way in it falls by two, since an element is opened with each step. -/
theorem tableRank_succ_lt {place : Nat} (h : isTableStart t = false)
    (hgoal : place < tableGoal t) : tableRank t (place + 1) + 1 < tableRank t place := by
  rw [tableRank_eq h, tableRank_eq h]
  omega

theorem tableRank_one_le_zero (hgoal : tableGoal t ≠ 0) : tableRank t 1 ≤ tableRank t 0 := by
  unfold tableRank
  split <;> omega

theorem rank_inBody_le (t : Token) : rank t .inBody ≤ 1 := by
  simp only [rank]
  split <;> omega

theorem rank_le (t : Token) (m : Mode) : rank t m ≤ 9 := by
  have hgoal := tableGoal_le t
  cases m <;> simp only [rank, tableRank] <;> grind

@[simp]
theorem below_iff (h : b.textRun = .none) :
    Below t n b ↔ b.stack.length + weight t b.templateModes + rank t b.mode < n := by
  simp [Below, Settled, potential, runRank, h]

theorem Below.withStack {stack : List NodeId} (h : Below t n b)
    (hle : stack.length ≤ b.stack.length) : Below t n { b with stack } := by
  refine ⟨h.1, Nat.lt_of_le_of_lt ?_ h.2⟩
  simp only [potential]
  omega

/-! ## Rules step by step -/

@[simp]
theorem leads_bind {x : Build α} {f : α → Build Step} :
    Leads t P (x >>= f) b ↔ Leads t P (f (x b).1) (x b).2 := Iff.rfl

@[simp high]
theorem leads_get {f : Builder → Build Step} : Leads t P (get >>= f) b ↔ Leads t P (f b) b :=
  Iff.rfl

@[simp]
theorem leads_done : Leads t P (pure .done) b := by
  intro t' h
  cases h

@[simp]
theorem leads_map_done {x : Build α} : Leads t P ((fun _ => .done) <$> x) b := by
  intro t' h
  cases h

@[simp]
theorem leads_again : Leads t P (pure (.again t)) b ↔ P b := by
  constructor
  · intro h
    exact (h t rfl).2
  · intro h t' ht
    cases ht
    exact ⟨rfl, h⟩

@[simp]
theorem leads_map_again {x : Build α} :
    Leads t P ((fun _ => .again t) <$> x) b ↔ P (x b).2 :=
  leads_again

@[simp]
theorem leads_ite {p : Prop} [Decidable p] {x y : Build Step} :
    Leads t P (if p then x else y) b ↔ (p → Leads t P x b) ∧ (¬p → Leads t P y b) := by
  split <;> simp [*]

/-! ## What actions do -/

@[simp]
theorem get_apply : (get : Build Builder) b = (b, b) := rfl

@[simp]
theorem pure_apply {a : α} : (pure a : Build α) b = (a, b) := rfl

@[simp]
theorem modify_apply {g : Builder → Builder} : (modify g : Build PUnit) b = (⟨⟩, g b) := rfl

@[simp]
theorem bind_apply {β : Type} {x : Build α} {f : α → Build β} :
    (x >>= f) b = f (x b).1 (x b).2 := rfl

namespace Build

@[simp]
theorem setMode_apply {m : Mode} : setMode m b = (⟨⟩, { b with mode := m }) := rfl

@[simp]
theorem pop_apply : pop b = (⟨⟩, { b with stack := b.stack.tail }) := rfl

@[simp]
theorem clearFormatting_apply : clearFormatting b =
    (⟨⟩, { b with formatting := (b.formatting.dropWhile fun f => !f.isMarker).drop 1 }) := rfl

@[simp]
theorem popThrough_apply {p : Builder → NodeId → Bool} : popThrough p b =
    (⟨⟩, { b with stack := (b.stack.dropWhile fun n => !p b n).drop 1 }) := rfl

@[simp]
theorem popThroughNamed_apply {name : String} : popThroughNamed name b =
    (⟨⟩, { b with stack := (b.stack.dropWhile fun n => !b.isNamed name n).drop 1 }) := rfl

@[simp]
theorem popToAmong_apply {names : List String} : popToAmong names b =
    (⟨⟩, { b with stack := b.stack.dropWhile fun n => !b.isAmong names n }) := rfl

@[simp]
theorem closeImplied_apply : closeImplied b =
    (⟨⟩, { b with stack := b.stack.dropWhile (b.isAmong impliedEndNames) }) := rfl

theorem createElement_state (b : Builder) (vocabulary : Vocabulary) (name : String)
    (attributes : List Attribute) :
    ∃ store, (createElement vocabulary name attributes b).2 = { b with store } := by
  by_cases h : vocabulary = .html ∧ name = "template"
  · simp [createElement, h]
    exact ⟨_, rfl⟩
  · simp [createElement, h]
    exact ⟨_, rfl⟩

theorem insertImplied_state (b : Builder) (name : String) : ∃ node store,
    (insertImplied name b).2 = { b with store, stack := node :: b.stack } := by
  obtain ⟨store, h⟩ := createElement_state b .html name []
  simp [insertImplied, insertOpen, insertClosed, insertNodeAt, push, h]
  exact ⟨_, _, rfl⟩

@[simp]
theorem stack_insertImplied {name : String} :
    (insertImplied name b).2.stack.length = b.stack.length + 1 := by
  obtain ⟨node, store, h⟩ := insertImplied_state b name
  simp [h]

@[simp]
theorem templateModes_insertImplied {name : String} :
    (insertImplied name b).2.templateModes = b.templateModes := by
  obtain ⟨node, store, h⟩ := insertImplied_state b name
  simp [h]

@[simp]
theorem textRun_insertImplied {name : String} :
    (insertImplied name b).2.textRun = b.textRun := by
  obtain ⟨node, store, h⟩ := insertImplied_state b name
  simp [h]

end Build

namespace Builder

theorem pos_of_inScopeBy {isEnd p : NodeId → Bool} {l : List NodeId}
    (h : inScopeBy isEnd p l = true) : 0 < l.length := by
  cases l with
  | nil => cases h
  | cons => simp

theorem pos_of_hasOpen {name : String} (h : b.hasOpen name = true) : 0 < b.stack.length := by
  obtain ⟨n, hn, -⟩ := List.any_eq_true.1 h
  exact List.length_pos_of_mem hn

theorem pos_of_currentIsNamed {name : String} (h : b.currentIsNamed name = true) :
    0 < b.stack.length := by
  unfold currentIsNamed at h
  cases hs : b.stack with
  | nil => simp [hs] at h
  | cons => simp

end Builder

theorem length_dropWhile_sub_lt {α : Type} {l : List α} (h : 0 < l.length) (p : α → Bool) :
    (l.dropWhile p).length - 1 < l.length := by
  have := List.length_dropWhile_le p l
  omega

namespace Rules

open Build Builder

theorem createRoot_state (b : Builder) (attributes : List Attribute) : ∃ node store,
    (createRoot attributes b).2 = { b with store, stack := node :: b.stack } := by
  obtain ⟨store, h⟩ := createElement_state b .html "html" attributes
  simp [createRoot, push, h]

@[simp]
theorem stack_createRoot {attributes : List Attribute} :
    (createRoot attributes b).2.stack.length = b.stack.length + 1 := by
  obtain ⟨node, store, h⟩ := createRoot_state b attributes
  simp [h]

@[simp]
theorem templateModes_createRoot {attributes : List Attribute} :
    (createRoot attributes b).2.templateModes = b.templateModes := by
  obtain ⟨node, store, h⟩ := createRoot_state b attributes
  simp [h]

@[simp]
theorem textRun_createRoot {attributes : List Attribute} :
    (createRoot attributes b).2.textRun = b.textRun := by
  obtain ⟨node, store, h⟩ := createRoot_state b attributes
  simp [h]

theorem below_resetMode (hrun : b.textRun = .none)
    (hn : b.stack.length + weight t b.templateModes + 9 < n) : Below t n (resetMode b).2 := by
  have hrank := rank_le t (modeFor b b.stack)
  refine (below_iff (b := { b with mode := modeFor b b.stack }) hrun).2 ?_
  dsimp only
  omega

@[simp]
theorem leads_againIn {m : Mode} : Leads t P (again m t) b ↔ P { b with mode := m } :=
  leads_again

theorem leads_inHead_content {tag : Tag} (h : tag.name ∈ headContentNames) :
    Leads (.startTag tag) P (inHead (.startTag tag)) b := by
  simp [inHead]
  simp [headContentNames] at h
  grind

theorem leads_inHead_template {tag : Tag} (h : tag.name = "template") :
    Leads (.endTag tag) P (inHead (.endTag tag)) b := by
  simp [inHead, h]

theorem lowers_inHead (hrun : b.textRun = .none)
    (hn : b.stack.length + weight t b.templateModes + rank t .inHead ≤ n) :
    Leads t (Below t n) (inHead t) b := by
  cases t <;> simp [inHead, leaveHead, hrun, rank] at hn ⊢ <;> omega

theorem lowers_endInTemplate (hrun : b.textRun = .none)
    (hn : b.stack.length + 9 * (b.templateModes.length - 1) + 9 ≤ n) :
    Leads .eof (Below .eof n) endInTemplate b := by
  refine leads_get.2 (leads_ite.2 ⟨fun hopen => ?_, fun _ => leads_done⟩)
  have hlt := length_dropWhile_sub_lt (pos_of_hasOpen hopen) fun n => !b.isNamed "template" n
  simp
  refine below_resetMode hrun ?_
  simp [weight]
  omega

/-- Only the end of the page and the end tag of the root are handled again after the body. -/
theorem leads_inBody_done (heof : t ≠ .eof) (hhtml : isHtmlEnd t = false) :
    Leads t P (inBody t) b := by
  cases t with
  | startTag tag => simpa [inBody] using leads_inHead_content
  | endTag tag =>
    simp [isHtmlEnd] at hhtml
    simp [inBody, hhtml]
  | eof => exact absurd rfl heof
  | _ => simp [inBody]

theorem lowers_inBody (hrun : b.textRun = .none)
    (hn : b.stack.length + weight t b.templateModes + rank t .inBody ≤ n) :
    Leads t (Below t n) (inBody t) b := by
  by_cases heof : t = .eof
  · subst heof
    refine leads_get.2 (leads_ite.2 ⟨fun hmodes => lowers_endInTemplate hrun ?_, ?_⟩)
    · simp [weight, rank, isHtmlEnd] at hn hmodes
      have := List.length_pos_iff.2 hmodes
      omega
    · simp
  by_cases hhtml : isHtmlEnd t = true
  · cases t with
    | endTag tag =>
      simp [isHtmlEnd] at hhtml
      simp [inBody, hhtml, hrun, rank, isHtmlEnd] at hn ⊢
      omega
    | _ => cases hhtml
  · exact leads_inBody_done heof (by simpa using hhtml)

/-- A change of the state afterwards that keeps it below the bound. -/
theorem lowers_then {x : Build Step} {g : Builder → Builder}
    (hg : ∀ b, Below t n b → Below t n (g b)) (h : Leads t (Below t n) x b) :
    Leads t (Below t n) (x >>= fun step => modify g >>= fun _ => pure step) b := fun t' ht =>
  have ⟨he, hb⟩ := h t' ht
  ⟨he, hg _ hb⟩

theorem lowers_foster (heof : t ≠ .eof) (hhtml : isHtmlEnd t = false) :
    Leads t (Below t n) (foster t) b :=
  lowers_then (fun _ hb => hb) (leads_inBody_done heof hhtml)

theorem lowers_charactersInTable (h : isCharacters t = true)
    (hn : b.stack.length + weight t b.templateModes < n) :
    Leads t (Below t n) (charactersInTable t) b := by
  refine leads_get.2 (leads_ite.2 ⟨fun _ => ?_, fun _ => ?_⟩)
  · simp [Below, Settled, potential, runRank]
    exact ⟨h, hn⟩
  · cases t with
    | null | blanks | text => exact lowers_foster (by simp) rfl
    | _ => cases h

theorem lowers_inTable (hrun : b.textRun = .none)
    (hn : b.stack.length + weight t b.templateModes + rank t .inTable ≤ n) :
    Leads t (Below t n) (inTable t) b := by
  cases t with
  | startTag tag =>
    have hscope := List.length_dropWhile_le (fun n => !b.isAmong tableScopeNames n) b.stack
    simp [inTable, hrun]
    refine fun _ _ => ⟨?_, fun _ _ _ _ => ⟨?_, fun _ _ _ => ⟨?_, fun _ => ⟨?_, ?_⟩⟩⟩⟩
    · intro hcol
      simp [rank, tableRank, isTableStart, tableGoal, hcol] at hn ⊢
      omega
    · rintro (hname | hname | hname) <;>
      · simp [rank, tableRank, isTableStart, tableGoal, hname] at hn ⊢
        omega
    · intro hname hopen
      have hlt := length_dropWhile_sub_lt (pos_of_inScopeBy hopen) fun n => !b.isNamed "table" n
      simp [rank, tableRank, isTableStart, hname] at hn
      refine below_resetMode rfl ?_
      simp
      omega
    · rintro (hname | hname | hname) <;>
      exact leads_inHead_content (by simp [headContentNames, hname])
    · exact fun _ _ _ _ _ => lowers_foster (by simp) rfl
  | endTag tag =>
    simp [inTable]
    intro _ _ hhtml _
    exact ⟨leads_inHead_template, fun _ => lowers_foster (by simp) (by simp [isHtmlEnd, hhtml])⟩
  | eof => exact lowers_inBody hrun (by simp [rank, isHtmlEnd, tableRank] at hn ⊢; omega)
  | null | blanks | text =>
    exact lowers_charactersInTable rfl
      (by simp [rank, isTableStart, tableRank, tableGoal] at hn ⊢; omega)
  | _ => simp [inTable]

theorem lowers_inTableText {found : List Token} (h : isCharacters t = true) :
    Leads t (Below t n) (inTableText found t) b := by
  cases t with
  | null | blanks | text => simp [inTableText]
  | _ => cases h

theorem settles_inTableText {found : List Token} (h : isCharacters t = false) :
    Leads t (Settled t) (inTableText found t) b := by
  cases t with
  | null | blanks | text => cases h
  | _ => simp [inTableText, Settled]

theorem lowers_text (hn : b.stack.length + weight t b.templateModes + 10 ≤ n) :
    Leads t (Below t n) (text t) b := by
  have hrank := rank_le t b.mode
  cases t <;> simp [text]
  omega

theorem lowers_inCaption (hrun : b.textRun = .none)
    (hn : b.stack.length + weight t b.templateModes + rank t .inCaption ≤ n) :
    Leads t (Below t n) (inCaption t) b := by
  have hrank := rank_inBody_le t
  simp only [rank] at hn
  have hbody : Leads t (Below t n) (inBody t) b := lowers_inBody hrun (by omega)
  have himplied := List.length_dropWhile_le (b.isAmong impliedEndNames) b.stack
  have hclosed (h : isTableStart t = false) (p : NodeId → Bool) :
      ((b.stack.dropWhile (b.isAmong impliedEndNames)).dropWhile p).length - 1 +
        weight t b.templateModes + rank t .inTable < n := by
    have hcaption := List.length_dropWhile_le p (b.stack.dropWhile (b.isAmong impliedEndNames))
    have hlt : rank t .inTable < 9 := tableRank_one_lt h
    omega
  cases t with
  | startTag tag =>
    simp [inCaption, hrun]
    exact ⟨fun hpart _ => hclosed (isTableStart_of_part hpart) _, fun _ => hbody⟩
  | endTag tag =>
    simp [inCaption, hrun]
    exact ⟨fun _ _ => hclosed rfl _, fun _ _ _ _ _ => hbody⟩
  | _ => simpa [inCaption] using hbody

theorem lowers_inColumnGroup (hrun : b.textRun = .none)
    (hn : b.stack.length + weight t b.templateModes + rank t .inColumnGroup ≤ n) :
    Leads t (Below t n) (inColumnGroup t) b := by
  have hrank := rank_inBody_le t
  have hpos := tableRank_pos t 0
  simp only [rank] at hn
  have hbody : Leads t (Below t n) (inBody t) b := lowers_inBody hrun (by omega)
  have hleave (hgoal : tableGoal t ≠ 0) (h : b.currentIsNamed "colgroup" = true) :
      b.stack.length - 1 + weight t b.templateModes + rank t .inTable < n := by
    have hpos := pos_of_currentIsNamed h
    have hle : rank t .inTable ≤ tableRank t 0 := tableRank_one_le_zero hgoal
    omega
  cases t with
  | startTag tag =>
    simp [inColumnGroup, hrun]
    exact ⟨fun _ => hbody, fun _ hcol => ⟨fun htemplate =>
      leads_inHead_content (by simp [headContentNames, htemplate]),
      fun _ => hleave (by simp [tableGoal, hcol]; grind)⟩⟩
  | endTag tag =>
    simp [inColumnGroup, hrun]
    exact fun _ _ => ⟨leads_inHead_template, fun _ => hleave (by simp [tableGoal])⟩
  | eof => simpa [inColumnGroup] using hbody
  | blanks | comment => simp [inColumnGroup]
  | _ => simpa [inColumnGroup, hrun] using hleave (by simp [tableGoal])

theorem lowers_inTableBody (hrun : b.textRun = .none)
    (hn : b.stack.length + weight t b.templateModes + rank t .inTableBody ≤ n) :
    Leads t (Below t n) (inTableBody t) b := by
  have hpop := List.length_dropWhile_le (fun n => !b.isAmong bodyContext n) b.stack
  simp only [rank] at hn
  have htable (hgoal : tableGoal t ≤ 1) : Leads t (Below t n) (inTable t) b := by
    have hle : rank t .inTable ≤ tableRank t 2 := tableRank_le_succ hgoal
    exact lowers_inTable hrun (by omega)
  have hleave (h : isTableStart t = false) (hgoal : tableGoal t ≤ 1) :
      (b.stack.dropWhile fun n => !b.isAmong bodyContext n).length - 1 +
        weight t b.templateModes + rank t .inTable < n := by
    have hlt : rank t .inTable < tableRank t 2 := tableRank_lt_succ h hgoal
    omega
  cases t with
  | startTag tag =>
    simp [inTableBody, hrun]
    refine fun htr => ⟨?_, fun htd hth => ⟨fun hpart _ => ?_, fun _ => ?_⟩⟩
    · intro hcell
      have hstart : isTableStart (.startTag tag) = false := by grind [isTableStart]
      have hgoal : tableGoal (.startTag tag) = 3 := by
        simp only [tableGoal]
        grind
      have hlt : rank (.startTag tag) .inRow + 1 < tableRank (.startTag tag) 2 :=
        tableRank_succ_lt hstart (by omega)
      omega
    · exact hleave (isTableStart_of_part hpart) (tableGoal_start_le_one htr htd hth)
    · exact htable (tableGoal_start_le_one htr htd hth)
  | endTag tag =>
    simp [inTableBody, hrun]
    exact fun _ _ _ => ⟨fun _ _ => hleave rfl (Nat.le_refl 1),
      fun _ _ _ _ => htable (Nat.le_refl 1)⟩
  | _ => exact htable (Nat.le_refl 1)

theorem lowers_inRow (hrun : b.textRun = .none)
    (hn : b.stack.length + weight t b.templateModes + rank t .inRow ≤ n) :
    Leads t (Below t n) (inRow t) b := by
  have hpop := List.length_dropWhile_le (fun n => !b.isAmong rowContext n) b.stack
  simp only [rank] at hn
  have htable (hgoal : tableGoal t ≤ 1) : Leads t (Below t n) (inTable t) b := by
    have hle : rank t .inTable ≤ tableRank t 2 := tableRank_le_succ hgoal
    have hle' : tableRank t 2 ≤ tableRank t 3 := tableRank_le_succ (by omega)
    exact lowers_inTable hrun (by omega)
  have hleave (h : isTableStart t = false) (hgoal : tableGoal t ≤ 2) :
      (b.stack.dropWhile fun n => !b.isAmong rowContext n).length - 1 +
        weight t b.templateModes + rank t .inTableBody < n := by
    have hlt : rank t .inTableBody < tableRank t 3 := tableRank_lt_succ h hgoal
    omega
  cases t with
  | startTag tag =>
    simp [inRow, hrun]
    refine fun htd hth => ⟨fun hpart _ => ?_, fun hpart => htable ?_⟩
    · exact hleave (isTableStart_of_part hpart) (tableGoal_start_le_two htd hth)
    · refine tableGoal_start_le_one (fun htr => hpart ?_) htd hth
      simp [htr, tablePartNames]
  | endTag tag =>
    simp [inRow, hrun]
    exact fun _ => ⟨fun _ _ => hleave rfl (Nat.le_succ 1), fun _ =>
      ⟨fun _ _ _ => hleave rfl (Nat.le_succ 1), fun _ _ _ _ _ _ => htable (Nat.le_refl 1)⟩⟩
  | _ => exact htable (Nat.le_refl 1)

theorem lowers_inCell (hrun : b.textRun = .none)
    (hn : b.stack.length + weight t b.templateModes + rank t .inCell ≤ n) :
    Leads t (Below t n) (inCell t) b := by
  have hrank := rank_inBody_le t
  have hpos := tableRank_pos t 4
  simp only [rank] at hn
  have hbody : Leads t (Below t n) (inBody t) b := lowers_inBody hrun (by omega)
  have himplied := List.length_dropWhile_le (b.isAmong impliedEndNames) b.stack
  have hclosed (h : isTableStart t = false) (p : NodeId → Bool) :
      ((b.stack.dropWhile (b.isAmong impliedEndNames)).dropWhile p).length - 1 +
        weight t b.templateModes + rank t .inRow < n := by
    have hcell := List.length_dropWhile_le p (b.stack.dropWhile (b.isAmong impliedEndNames))
    have hlt : rank t .inRow < tableRank t 4 := tableRank_lt_succ h (tableGoal_le t)
    omega
  cases t with
  | startTag tag =>
    simp [inCell, hrun]
    exact ⟨fun hpart _ => hclosed (isTableStart_of_part hpart) _, fun _ => hbody⟩
  | endTag tag =>
    simp [inCell, hrun]
    exact fun _ _ _ _ _ _ _ => ⟨fun _ _ => hclosed rfl _, fun _ => hbody⟩
  | _ => exact hbody

theorem lowers_inSelect (hrun : b.textRun = .none)
    (hn : b.stack.length + weight t b.templateModes + rank t .inSelect ≤ n) :
    Leads t (Below t n) (inSelect t) b := by
  have hrank := rank_inBody_le t
  simp only [rank] at hn
  have hbody : Leads t (Below t n) (inBody t) b := lowers_inBody hrun (by omega)
  cases t with
  | startTag tag =>
    simp [inSelect, hrun]
    refine ⟨fun _ => hbody, fun _ _ _ _ _ => ⟨fun _ hopen => ?_, fun _ _ _ hname => ?_⟩⟩
    · have hlt := length_dropWhile_sub_lt (pos_of_inScopeBy hopen) fun n => !b.isNamed "select" n
      refine below_resetMode rfl ?_
      simp
      omega
    · rcases hname with hname | hname <;>
      exact leads_inHead_content (by simp [headContentNames, hname])
  | endTag tag =>
    simp [inSelect]
    exact fun _ _ _ => leads_inHead_template
  | eof => exact hbody
  | _ => simp [inSelect]

theorem lowers_inSelectInTable (hrun : b.textRun = .none)
    (hn : b.stack.length + weight t b.templateModes + rank t .inSelectInTable ≤ n) :
    Leads t (Below t n) (inSelectInTable t) b := by
  have hselect : Leads t (Below t n) (inSelect t) b := lowers_inSelect hrun hn
  have hrank := rank_inBody_le t
  simp only [rank] at hn
  have hleave : Below t n (resetMode
      { b with
        stack := (b.stack.dropWhile fun n => !b.isNamed "select" n).tail
        textRun := .none }).2 := by
    rcases Nat.eq_zero_or_pos b.stack.length with hempty | hpos
    · have hnil := List.length_eq_zero_iff.1 hempty
      simp [resetMode, modeFor, hnil]
      omega
    · have hlt := length_dropWhile_sub_lt hpos fun n => !b.isNamed "select" n
      refine below_resetMode rfl ?_
      simp
      omega
  cases t with
  | startTag tag =>
    simp [inSelectInTable, hrun]
    exact ⟨fun _ => hleave, fun _ _ _ _ _ _ _ _ => hselect⟩
  | endTag tag =>
    simp [inSelectInTable, hrun]
    exact ⟨fun _ _ => hleave, fun _ _ _ _ _ _ _ _ => hselect⟩
  | _ => exact hselect

theorem lowers_initial (hrun : b.textRun = .none)
    (hn : b.stack.length + weight t b.templateModes + rank t .initial ≤ n) :
    Leads t (Below t n) (initial t) b := by
  simp only [rank] at hn
  cases t <;> simp [initial, hrun, rank] <;> omega

theorem lowers_beforeHtml (hrun : b.textRun = .none)
    (hn : b.stack.length + weight t b.templateModes + rank t .beforeHtml ≤ n) :
    Leads t (Below t n) (beforeHtml t) b := by
  simp only [rank] at hn
  cases t <;> simp [beforeHtml, hrun, rank] <;> omega

theorem lowers_beforeHead (hrun : b.textRun = .none)
    (hn : b.stack.length + weight t b.templateModes + rank t .beforeHead ≤ n) :
    Leads t (Below t n) (beforeHead t) b := by
  simp only [rank] at hn
  cases t with
  | startTag tag =>
    simp [beforeHead, hrun, rank]
    exact ⟨fun hname => leads_inBody_done (by simp) rfl, fun _ _ => by omega⟩
  | _ =>
    simp [beforeHead, hrun, rank]
    try omega

theorem lowers_afterHead (hrun : b.textRun = .none)
    (hn : b.stack.length + weight t b.templateModes + rank t .afterHead ≤ n) :
    Leads t (Below t n) (afterHead t) b := by
  have hrank := rank_inBody_le t
  simp only [rank] at hn
  cases t with
  | startTag tag =>
    simp [afterHead, hrun]
    refine ⟨fun _ => leads_inBody_done (by simp) rfl, fun _ _ _ => ⟨fun hname => ?_, ?_⟩⟩
    · cases b.head with
      | none => exact leads_inHead_content hname
      | some head =>
        exact lowers_then (fun b hb => hb.withStack List.length_erase_le)
          (leads_inHead_content hname)
    · intro _ _
      omega
  | endTag tag =>
    simp [afterHead, hrun]
    exact ⟨leads_inHead_template, fun _ _ => by omega⟩
  | blanks | comment => simp [afterHead]
  | _ =>
    simp [afterHead, hrun]
    omega

theorem lowers_replaceTemplateMode {m : Mode} (hrun : b.textRun = .none) (ht : t ≠ .eof)
    (hm : rank t m < 9) (hn : b.stack.length + 9 ≤ n) :
    Leads t (Below t n) (replaceTemplateMode m t) b := by
  simp [replaceTemplateMode, hrun, weight, ht]
  omega

theorem lowers_inTemplate (hrun : b.textRun = .none)
    (hn : b.stack.length + weight t b.templateModes + rank t .inTemplate ≤ n) :
    Leads t (Below t n) (inTemplate t) b := by
  simp only [rank] at hn
  cases t with
  | startTag tag =>
    simp [inTemplate]
    have hn' : b.stack.length + 9 ≤ n := by omega
    have hrank := rank_inBody_le (.startTag tag)
    have hreplace {m : Mode} (hm : rank (.startTag tag) m < 9) :=
      lowers_replaceTemplateMode hrun (by simp) hm hn'
    refine ⟨leads_inHead_content, fun _ => ⟨?_, fun _ _ _ _ _ => ⟨?_, fun _ => ⟨?_, fun _ =>
      ⟨?_, fun _ _ => hreplace (by omega)⟩⟩⟩⟩⟩
    · rintro (hname | hname | hname | hname | hname) <;>
      exact hreplace (by simp [rank, tableRank, isTableStart, tableGoal, hname])
    · exact fun hname => hreplace (by simp [rank, tableRank, isTableStart, tableGoal, hname])
    · exact fun hname => hreplace (by simp [rank, tableRank, isTableStart, tableGoal, hname])
    · rintro (hname | hname) <;>
      exact hreplace (by simp [rank, tableRank, isTableStart, tableGoal, hname])
  | endTag tag => simpa [inTemplate] using leads_inHead_template
  | eof =>
    simp [weight] at hn
    exact lowers_endInTemplate hrun (by omega)
  | blanks | text | comment => exact leads_inBody_done (by simp) rfl
  | _ => simp [inTemplate]

theorem lowers_afterBody (hrun : b.textRun = .none)
    (hn : b.stack.length + weight t b.templateModes + rank t .afterBody ≤ n) :
    Leads t (Below t n) (afterBody t) b := by
  cases t with
  | startTag tag =>
    simp [afterBody, hrun, rank, isHtmlEnd] at hn ⊢
    exact ⟨fun _ => leads_inBody_done (by simp) rfl, fun _ => hn⟩
  | endTag tag =>
    simp [afterBody, hrun, rank, isHtmlEnd] at hn ⊢
    intro hname
    simp [hname] at hn ⊢
    omega
  | blanks => exact leads_inBody_done (by simp) rfl
  | comment | eof => simp [afterBody]
  | _ =>
    simp [afterBody, hrun, rank, isHtmlEnd] at hn ⊢
    omega

theorem lowers_afterAfterBody (hrun : b.textRun = .none)
    (hn : b.stack.length + weight t b.templateModes + rank t .afterAfterBody ≤ n) :
    Leads t (Below t n) (afterAfterBody t) b := by
  have hrank := rank_inBody_le t
  simp only [rank] at hn
  cases t with
  | startTag tag =>
    simp [afterAfterBody, hrun]
    exact ⟨fun _ => leads_inBody_done (by simp) rfl, fun _ => by omega⟩
  | blanks => exact leads_inBody_done (by simp) rfl
  | comment | eof => simp [afterAfterBody]
  | _ =>
    simp [afterAfterBody, hrun]
    omega

theorem lowers_inFrameset : Leads t (Below t n) (inFrameset t) b := by
  cases t with
  | startTag tag =>
    simp [inFrameset]
    exact ⟨fun _ => leads_inBody_done (by simp) rfl, fun _ _ _ hname =>
      leads_inHead_content (by simp [headContentNames, hname])⟩
  | _ => simp [inFrameset]

theorem lowers_afterFrameset : Leads t (Below t n) (afterFrameset t) b := by
  cases t with
  | startTag tag =>
    simp [afterFrameset]
    exact ⟨fun _ => leads_inBody_done (by simp) rfl, fun _ hname =>
      leads_inHead_content (by simp [headContentNames, hname])⟩
  | _ => simp [afterFrameset]

theorem lowers_afterAfterFrameset : Leads t (Below t n) (afterAfterFrameset t) b := by
  cases t with
  | startTag tag =>
    simp [afterAfterFrameset]
    exact ⟨fun _ => leads_inBody_done (by simp) rfl, fun _ hname =>
      leads_inHead_content (by simp [headContentNames, hname])⟩
  | blanks => exact leads_inBody_done (by simp) rfl
  | _ => simp [afterAfterFrameset]

theorem lowers_inMode {m : Mode} (hrun : b.textRun = .none)
    (hn : b.stack.length + weight t b.templateModes + rank t m ≤ n) :
    Leads t (Below t n) (inMode m t) b := by
  cases m with
  | initial => exact lowers_initial hrun hn
  | beforeHtml => exact lowers_beforeHtml hrun hn
  | beforeHead => exact lowers_beforeHead hrun hn
  | inHead => exact lowers_inHead hrun hn
  | afterHead => exact lowers_afterHead hrun hn
  | inBody => exact lowers_inBody hrun hn
  | inTable => exact lowers_inTable hrun hn
  | inCaption => exact lowers_inCaption hrun hn
  | inColumnGroup => exact lowers_inColumnGroup hrun hn
  | inTableBody => exact lowers_inTableBody hrun hn
  | inRow => exact lowers_inRow hrun hn
  | inCell => exact lowers_inCell hrun hn
  | inSelect => exact lowers_inSelect hrun hn
  | inSelectInTable => exact lowers_inSelectInTable hrun hn
  | inTemplate => exact lowers_inTemplate hrun hn
  | afterBody => exact lowers_afterBody hrun hn
  | inFrameset => exact lowers_inFrameset
  | afterFrameset => exact lowers_afterFrameset
  | afterAfterBody => exact lowers_afterAfterBody hrun hn
  | afterAfterFrameset => exact lowers_afterAfterFrameset

theorem lowers_ruleFor (hsettled : Settled t b) (hn : potential t b ≤ n) :
    Leads t (Below t n) (ruleFor b t) b := by
  unfold ruleFor
  cases hrun : b.textRun with
  | none =>
    simp only [potential, runRank, hrun] at hn
    exact lowers_inMode hrun hn
  | inElement =>
    simp only [potential, runRank, hrun] at hn
    exact lowers_text hn
  | inTable found => exact lowers_inTableText (hsettled found hrun)

/-! ## Foreign content -/

theorem leads_breakOut
    (h : ∀ stack, stack.length ≤ b.stack.length → Leads t P (ruleFor b t) { b with stack }) :
    Leads t P (breakOut t) b :=
  leads_bind.2 (leads_get.2 (h _ (List.length_dropWhile_le _ _)))

theorem leads_endInForeign {tag : Tag} {first : Bool} {ns : List NodeId}
    (h : Leads (.endTag tag) P (ruleFor b (.endTag tag)) b) :
    Leads (.endTag tag) P (endInForeign tag first ns) b := by
  fun_induction endInForeign tag first ns with
  | case1 => simp
  | case2 => simp
  | case3 first m ns _ ih =>
    refine leads_get.2 ?_
    cases b.element? m with
    | none => exact ih
    | some e =>
      simp
      exact ⟨fun _ _ => h, fun _ _ => ih⟩

theorem leads_foreign
    (h : ∀ stack, stack.length ≤ b.stack.length → Leads t P (ruleFor b t) { b with stack }) :
    Leads t P (foreign t) b := by
  cases t with
  | startTag tag =>
    simp [foreign]
    exact fun _ => leads_breakOut h
  | endTag tag =>
    simp [foreign]
    exact ⟨fun _ => leads_breakOut h, fun _ _ =>
      leads_endInForeign (h b.stack (Nat.le_refl _))⟩
  | _ => simp [foreign]

end Rules

/-! ## Steps -/

namespace Build

/-- In a step the rule is the one of the state it starts from, with no more elements open. -/
theorem leads_step
    (h : ∀ stack, stack.length ≤ b.stack.length →
      Leads t P (Rules.ruleFor b t) { b with stack }) :
    Leads t P (step t) b := by
  simp [step]
  exact ⟨fun _ => Rules.leads_foreign h, fun _ => h b.stack (Nat.le_refl _)⟩

/-- Each step but the last lowers the potential. -/
theorem lowers_step (hsettled : Settled t b) :
    Leads t (Below t (potential t b)) (step t) b := by
  refine leads_step fun stack hle => Rules.lowers_ruleFor (b := { b with stack }) hsettled ?_
  simp only [potential]
  omega

/-- The text found in a table is dealt with in the first step. -/
theorem settles_step (t : Token) (b : Builder) : Leads t (Settled t) (step t) b := by
  by_cases hsettled : Settled t b
  · exact fun t' h => (lowers_step hsettled t' h).imp_right And.left
  · have ⟨found, hrun, ht⟩ : ∃ found, b.textRun = .inTable found ∧ isCharacters t = false := by
      simpa [Settled] using hsettled
    refine leads_step fun stack _ => ?_
    simp only [Rules.ruleFor, hrun]
    exact Rules.settles_inTableText ht

/-! ## Handling -/

/-- `b'` is the state in which the rules are done with the token, asked again as often as they
demand. -/
inductive Handles : Token → Builder → Builder → Prop
  | done {t : Token} {b b' : Builder} (h : step t b = (.done, b')) : Handles t b b'
  | again {t t' : Token} {b b' b'' : Builder} (h : step t b = (.again t', b'))
      (hs : Handles t' b' b'') : Handles t b b''

theorem Handles.unique {b' b'' : Builder} (h : Handles t b b') (h' : Handles t b b'') :
    b' = b'' := by
  induction h with
  | done h =>
    cases h' with
    | done h' => exact congrArg Prod.snd (h.symm.trans h')
    | again h' => cases h.symm.trans h'
  | again h _ ih =>
    cases h' with
    | done h' => cases h.symm.trans h'
    | again h' hs =>
      cases h.symm.trans h'
      exact ih hs

theorem potential_le (t : Token) (b : Builder) :
    potential t b ≤ b.stack.length + 9 * b.templateModes.length + 10 := by
  have hrank := rank_le t b.mode
  have hweight : weight t b.templateModes ≤ 9 * b.templateModes.length := by
    unfold weight
    split <;> omega
  unfold potential
  cases b.textRun <;> simp only [runRank] <;> omega

/-- With more steps than the potential the rules are done with the token. -/
theorem handles_handle (hsettled : Settled t b) (hn : potential t b < n) :
    Handles t b (handle n t b).2 := by
  induction n generalizing b with
  | zero => omega
  | succ n ih =>
    cases hstep : step t b with
    | mk s b' =>
      cases s with
      | done => exact .done (by simp [handle, hstep])
      | again t' =>
        obtain ⟨rfl, hbelow⟩ := lowers_step hsettled t' (by rw [hstep])
        simp only [handle, bind_apply, hstep] at hbelow ⊢
        exact .again hstep (ih hbelow.1 (by have := hbelow.2; omega))

theorem handles_handleFully (t : Token) (b : Builder) : Handles t b (handleFully t b).2 := by
  cases hstep : step t b with
  | mk s b' =>
    cases s with
    | done => exact .done (by simp [handleFully, hstep])
    | again t' =>
      obtain ⟨rfl, hsettled⟩ := settles_step t b t' (by rw [hstep])
      have hpotential := potential_le t' b'
      simp only [handleFully, bind_apply, get_apply, hstep] at hsettled ⊢
      exact .again hstep (handles_handle hsettled (by omega))

/-- Handling a token ends, and only once the rules are done with it. -/
theorem handles_iff {b' : Builder} : Handles t b b' ↔ (handleFully t b).2 = b' := by
  constructor
  · exact (handles_handleFully t b).unique
  · rintro rfl
    exact handles_handleFully t b

end Build

end WebExtract.Html
