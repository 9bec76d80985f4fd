import FileSearch.Proofs.Regex.Plain
import FileSearch.Regex.Dialect
import FileSearch.Regex.Parse

/-!
# Patterns without operators

Every character of a pattern that holds none of `metacharacters` is read as itself, so the pattern
denotes its letters one after the other, whatever the settings say of lines (`ofPattern_letters`).
-/

namespace FileSearch.Regex


-- ---------------------------------------------------------------------------
-- The items of a group
-- ---------------------------------------------------------------------------

namespace OpenGroup

/-- The items of the branch that is being read. -/
def contents (g : OpenGroup) : List Expr := g.settle.settledItems.reverse

/-- The sets of the places the branch has so far. -/
def placeSets (g : OpenGroup) : List CharSet := g.contents.flatMap Expr.placeSets

/-- The letters that run before the last item are a literal among the items. -/
theorem placeSets_settledItems (g : OpenGroup) :
    g.settledItems.reverse.flatMap Expr.placeSets
      = g.items.reverse.flatMap Expr.placeSets ++ g.run.reverse.map (Expr.letterSet g.runFolded) := by
  unfold settledItems
  split
  · simp [*]
  · simp [Expr.placeSets]

theorem plain_settledItems {g : OpenGroup} :
    (∀ e ∈ g.settledItems, e.Plain) ↔ ∀ e ∈ g.items, e.Plain := by
  unfold settledItems
  split
  · rfl
  · simp [Expr.Plain.literal]

/-- A literal goes on with the letters before it, or ends them. -/
theorem settle_literal (g : OpenGroup) (text : List Nat) (folded : Bool) :
    ({ g with last := some (.literal text folded) } : OpenGroup).settle =
      if g.runFolded = folded ∨ g.run = [] then
        { g with run := text.reverse ++ g.run, runFolded := folded, last := none }
      else
        { g with items := g.settledItems, run := text.reverse, runFolded := folded, last := none } := by
  simp only [settle, Bool.or_eq_true, decide_eq_true_eq, List.isEmpty_iff]
  rfl

/-- An item that is pushed comes after those before it. -/
theorem placeSets_push (g : OpenGroup) {e : Expr} (he : e.Plain) :
    (g.push e).placeSets = g.placeSets ++ e.placeSets := by
  unfold placeSets contents push
  generalize g.settle = g'
  cases he with
  | literal text folded =>
    rw [settle_literal]
    split
    next hsame =>
      rw [placeSets_settledItems, placeSets_settledItems]
      rcases hsame with hfolded | hrun
      · simp [Expr.placeSets, hfolded]
      · simp [Expr.placeSets, hrun]
    · rw [placeSets_settledItems]
      simp [Expr.placeSets]
  | set s hempty hfull =>
    change (Expr.set s :: g'.settledItems).reverse.flatMap Expr.placeSets = _
    simp

theorem plain_push {g : OpenGroup} (hg : ∀ e ∈ g.contents, e.Plain) {e : Expr} (he : e.Plain) :
    ∀ e' ∈ (g.push e).contents, e'.Plain := by
  unfold contents push at *
  simp only [List.mem_reverse] at hg ⊢
  generalize g.settle = g' at *
  cases he with
  | literal text folded =>
    rw [settle_literal]
    split
    · have hitems : ∀ e ∈ g'.items, e.Plain := plain_settledItems.mp hg
      exact plain_settledItems.mpr hitems
    · exact plain_settledItems.mpr hg
  | set s hempty hfull =>
    exact List.forall_mem_cons.mpr ⟨.set s hempty hfull, hg⟩

theorem finish_eq {g : OpenGroup} (hbranches : g.branches = []) (hcaptures : g.captures = false) :
    g.finish = Expr.sequence g.contents := by
  simp [finish, endBranch, hbranches, hcaptures, Expr.alternatives, contents]


/-- What the settings say matters for the items that are read, not for what becomes of them. -/
theorem settle_settings (g : OpenGroup) (s : Settings) :
    ({ g with settings := s } : OpenGroup).settle = { g.settle with settings := s } := by
  obtain ⟨_, _, _, _, _, _, last⟩ := g
  cases last with
  | none => rfl
  | some e =>
    cases e with
    | literal text folded =>
      simp only [settle]
      split <;> rfl
    | _ => rfl

theorem push_settings (g : OpenGroup) (s : Settings) (e : Expr) :
    ({ g with settings := s } : OpenGroup).push e = { g.push e with settings := s } := by
  rw [push, push, settle_settings]

/-- An item that is pushed leaves all but the items alone. -/
theorem push_frame (g : OpenGroup) (e : Expr) :
    (g.push e).settings = g.settings ∧ (g.push e).branches = g.branches ∧
      (g.push e).captures = g.captures := by
  obtain ⟨_, _, _, _, _, _, last⟩ := g
  cases last with
  | none => exact ⟨rfl, rfl, rfl⟩
  | some e =>
    cases e with
    | literal text folded =>
      simp only [push, settle]
      split <;> exact ⟨rfl, rfl, rfl⟩
    | _ => exact ⟨rfl, rfl, rfl⟩


-- ---------------------------------------------------------------------------
-- A run of letters
-- ---------------------------------------------------------------------------

/-- The group with the letters of a text after what it holds. -/
def writeLetters (g : OpenGroup) (text : List Char) : OpenGroup :=
  text.foldl (fun g c => g.push (g.settings.literal c.toNat)) g

theorem writeLetters_frame (g : OpenGroup) (text : List Char) :
    (g.writeLetters text).branches = g.branches ∧ (g.writeLetters text).captures = g.captures := by
  induction text generalizing g with
  | nil => exact ⟨rfl, rfl⟩
  | cons c rest ih =>
    obtain ⟨-, hbranches, hcaptures⟩ := push_frame g (g.settings.literal c.toNat)
    exact (ih _).imp (·.trans hbranches) (·.trans hcaptures)

/-- Of the settings, letters need none but whether to fold. -/
theorem writeLetters_settings (g : OpenGroup) {s : Settings} (hs : s.fold = g.settings.fold)
    (text : List Char) :
    ({ g with settings := s } : OpenGroup).writeLetters text
      = { g.writeLetters text with settings := s } := by
  induction text generalizing g with
  | nil => rfl
  | cons c rest ih =>
    have hletter : s.literal c.toNat = g.settings.literal c.toNat := by
      simp only [Settings.literal, hs]
    simp only [writeLetters, List.foldl_cons] at ih ⊢
    rw [hletter, push_settings, ih _ (by rw [(push_frame g _).1, hs])]

theorem placeSets_writeLetters {g : OpenGroup} {text : List Char}
    (h : ∀ c ∈ text, (g.settings.literal c.toNat).Plain) :
    (g.writeLetters text).placeSets
      = g.placeSets ++ text.flatMap fun c => (g.settings.literal c.toNat).placeSets := by
  induction text generalizing g with
  | nil => simp [writeLetters]
  | cons c rest ih =>
    rw [List.forall_mem_cons] at h
    have hsettings := (push_frame g (g.settings.literal c.toNat)).1
    have hrest := ih (g := g.push (g.settings.literal c.toNat)) (by rw [hsettings]; exact h.2)
    rw [hsettings, placeSets_push g h.1, List.append_assoc] at hrest
    rw [List.flatMap_cons]
    exact hrest

theorem plain_writeLetters {g : OpenGroup} {text : List Char} (hg : ∀ e ∈ g.contents, e.Plain)
    (h : ∀ c ∈ text, (g.settings.literal c.toNat).Plain) :
    ∀ e ∈ (g.writeLetters text).contents, e.Plain := by
  induction text generalizing g with
  | nil => exact hg
  | cons c rest ih =>
    rw [List.forall_mem_cons] at h
    refine ih (plain_push hg h.1) ?_
    rw [(push_frame g _).1]
    exact h.2

end OpenGroup


-- ---------------------------------------------------------------------------
-- Characters that stand for themselves
-- ---------------------------------------------------------------------------

/-- The characters that can mean something else than themselves. -/
def metacharacters : List Char :=
  ['\\', '^', '$', '.', '|', '?', '*', '+', '(', ')', '[', ']', '\x7b', '\x7d']

variable {c : Char} {rest : List Char}

theorem readToken_letter (hc : c ∉ metacharacters) :
    readToken (c :: rest) = .ok (.literal c.toNat, 1) := by
  unfold readToken
  split <;> simp_all [metacharacters]

/-- The only character respelled is the slash. -/
theorem respell_letter (hc : c ∉ metacharacters) :
    Dialect.respell 0 false (c :: rest)
      = (if c = '/' then ['\\', '/'] else [c]) ++ Dialect.respell 0 false rest := by
  simp only [Dialect.respell]
  split <;> simp_all [metacharacters]

/-- A text of such characters is read as its letters. -/
theorem parseRest_letters {text : List Char} (h : ∀ c ∈ text, c ∉ metacharacters)
    (whole : List Char) (st : ParseState) :
    parseRest whole 0 st (Dialect.respell 0 false text)
      = ({ st with group := st.group.writeLetters text } : ParseState).finish whole := by
  induction text generalizing st with
  | nil => rfl
  | cons c rest ih =>
    rw [List.forall_mem_cons] at h
    have hrest := ih h.2 (st.push (st.group.settings.literal c.toNat))
    rw [respell_letter h.1]
    by_cases hslash : c = '/'
    · subst hslash
      rw [if_pos rfl]
      exact hrest
    · rw [if_neg hslash, List.singleton_append, parseRest, readToken_letter h.1]
      exact hrest

/-- The letters of a text one after the other. -/
def Expr.letters (fold : Bool) (text : List Char) : Expr :=
  .sequence (({ settings := { fold } } : OpenGroup).writeLetters text).contents

theorem finish_letters (s : Settings) (whole text : List Char) :
    ({ group := ({ settings := s } : OpenGroup).writeLetters text } : ParseState).finish whole
      = .ok (.letters s.fold text) := by
  obtain ⟨hbranches, hcaptures⟩ := OpenGroup.writeLetters_frame { settings := s } text
  have hcontents : (({ settings := s } : OpenGroup).writeLetters text).contents
      = (({ settings := { fold := s.fold } } : OpenGroup).writeLetters text).contents := by
    have hsettings := OpenGroup.writeLetters_settings { settings := { fold := s.fold } } (s := s) rfl
      text
    rw [hsettings, OpenGroup.contents, OpenGroup.settle_settings]
    rfl
  change Except.ok (OpenGroup.finish _) = _
  rw [OpenGroup.finish_eq hbranches hcaptures, hcontents, Expr.letters]

/-- A pattern of such characters denotes its letters, whatever the settings say of lines. -/
theorem ofPattern_letters {text : List Char} (hne : text ≠ [])
    (h : ∀ c ∈ text, c ∉ metacharacters) (s : Settings) (multiline : Bool) :
    Expr.ofPattern text s multiline = .ok (.letters s.fold text) := by
  unfold Expr.ofPattern Dialect.normalize parse
  rw [if_neg (by simpa using hne)]
  cases multiline with
  | false => exact (parseRest_letters h _ _).trans (finish_letters s _ text)
  | true =>
    exact (parseRest_letters h _ { group := { settings := { s with multiline := true } } }).trans
      (finish_letters { s with multiline := true } _ text)

/-- The search for letters looks for the set of each in its place, unless they are too many. -/
theorem searcher_letters {fold : Bool} {text : List Char}
    (h : ∀ c ∈ text, (({ fold } : Settings).literal c.toNat).Plain) :
    (Expr.letters fold text).searcher =
      if (Expr.letters fold text).isTooLarge then .error .tooLarge
      else .ok fun haystack => (straight (text.flatMap fun c =>
        (({ fold } : Settings).literal c.toNat).placeSets)).program.search haystack 0 := by
  have hnone : ∀ e ∈ ({ settings := { fold } } : OpenGroup).contents, e.Plain :=
    fun e he => absurd he (List.not_mem_nil)
  have hplain := OpenGroup.plain_writeLetters hnone h
  have hsets := OpenGroup.placeSets_writeLetters (g := { settings := { fold } }) h
  rw [Expr.letters, Expr.searcher_sequence hplain]
  change (if _ then _ else Except.ok fun haystack =>
    (straight (OpenGroup.placeSets _)).program.search haystack 0) = _
  rw [hsets]
  rfl

end FileSearch.Regex
