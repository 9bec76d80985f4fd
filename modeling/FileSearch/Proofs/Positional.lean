import FileSearch.Proofs.Arguments
import Mathlib.Algebra.Group.Int.Defs
import Mathlib.Data.List.Infix

/-!
# Positional arguments

Five arguments of which the first four are no options are three switches, a concurrency and a
pattern. They are accepted exactly if each of the first four is; the pattern may be anything. What is
refused is named in the message, in the order of the arguments, and nothing else is: no text about
one argument holds the name of another, and no name spans two texts.
-/

namespace FileSearch


-- ---------------------------------------------------------------------------
-- Words of a joined text
-- ---------------------------------------------------------------------------

namespace Text

/-- A word does not reach over a character it does not hold. -/
theorem infix_append_cons_iff {word before after : List Char} {separator : Char}
    (h : separator ∉ word) :
    word <:+: before ++ separator :: after ↔ word <:+: before ∨ word <:+: after := by
  rw [List.infix_append_iff, List.infix_cons_iff]
  constructor
  · rintro (hbefore | (hbegins | hafter) | ⟨front, back, rfl, hfront, hback⟩)
    · exact .inl hbefore
    · rcases List.prefix_cons_iff.mp hbegins with rfl | ⟨rest, rfl, -⟩
      · exact .inr (List.nil_infix)
      · exact absurd List.mem_cons_self h
    · exact .inr hafter
    · rcases List.prefix_cons_iff.mp hback with rfl | ⟨rest, rfl, -⟩
      · rw [List.append_nil]
        exact .inl hfront.isInfix
      · exact absurd (List.mem_append_right front List.mem_cons_self) h
  · rintro (hbefore | hafter)
    · exact .inl hbefore
    · exact .inr (.inl (.inr hafter))

/-- A word of a joined text is a word of one of the parts. -/
theorem infix_intercalate_iff {word : String} (hne : word ≠ "") (hsemicolon : ';' ∉ word.toList)
    (hblank : ' ' ∉ word.toList) (parts : List String) :
    word.toList <:+: ("; ".intercalate parts).toList ↔
      ∃ part ∈ parts, word.toList <:+: part.toList := by
  have hnil : ¬ word.toList <:+: [] := by simpa using hne
  rw [String.toList_intercalate]
  induction parts with
  | nil => simpa using hne
  | cons first rest ih =>
    cases rest with
    | nil => simp
    | cons second others =>
      have hjoined : "; ".toList.intercalate ((first :: second :: others).map String.toList)
          = first.toList ++ ';' :: ([] ++ ' ' ::
              "; ".toList.intercalate ((second :: others).map String.toList)) := by
        simp [List.intercalate_cons_cons]
      rw [hjoined, infix_append_cons_iff hsemicolon, infix_append_cons_iff hblank,
        List.exists_mem_cons_iff]
      exact or_congr Iff.rfl ((or_iff_right hnil).trans ih)

end Text


-- ---------------------------------------------------------------------------
-- Checks and what they complain of
-- ---------------------------------------------------------------------------

namespace Checked

/-- The texts of the issues of a check. -/
def complaints {α : Type} (checked : Checked α) : List String :=
  (issues checked).map Issue.message

theorem issues_inside {α : Type} (step : PathStep) (checked : Checked α) :
    issues (inside step checked) = (issues checked).map fun i => { i with path := step :: i.path } := by
  cases checked <;> rfl

/-- At a position that has a name, every issue is described with the name before it. -/
theorem describe_inside {α : Type} {n : Nat} {name : String}
    (hname : Config.positionalNames[n]? = some name) (checked : Checked α) :
    (issues (inside (.index n) checked)).map Issue.describe
      = checked.complaints.map (name ++ ": " ++ ·) := by
  rw [issues_inside, complaints, List.map_map, List.map_map]
  refine List.map_congr_left fun issue _ => ?_
  simp [Issue.describe, hname]

end Checked

namespace Value

/-- Whether an argument is one of the two that a switch may be. -/
def isSwitch (s : String) : Bool := s = "0" || s = "1"

theorem checkSwitch_text (s : String) :
    (text s).checkSwitch = if isSwitch s then .ok (s = "1") else .refuse "must be 0 or 1" := by
  by_cases hzero : s = "0"
  · simp [hzero, checkSwitch, isSwitch]
  · by_cases hone : s = "1"
    · simp [hone, checkSwitch, isSwitch]
    · simp [checkSwitch, isSwitch, hzero, hone]

theorem checkSwitch_text_eq_ok_iff {s : String} {b : Bool} :
    (text s).checkSwitch = .ok b ↔ isSwitch s ∧ (b ↔ s = "1") := by
  rw [checkSwitch_text]
  cases isSwitch s with
  | true => cases b <;> simp
  | false => simp [Checked.refuse]

theorem complaints_checkSwitch (s : String) :
    (text s).checkSwitch.complaints = if isSwitch s then [] else ["must be 0 or 1"] := by
  rw [checkSwitch_text]
  split <;> rfl

end Value

namespace Concurrency

/-- What may be said of a concurrency. -/
def texts : List String :=
  ["concurrency must be a positive integer", "concurrency must be an integer",
    "concurrency must be at least 1", "concurrency is too large"]

theorem checkNumber_error {n : Number} {issues : List Issue} (h : checkNumber n = .error issues) :
    issues ≠ [] ∧ ∀ i ∈ issues, i.message ∈ texts := by
  unfold checkNumber at h
  repeat' split at h
  all_goals cases h
  all_goals simp [texts, notInteger, tooSmall, tooLarge]

theorem checkDigits_error {argument : String} {issues : List Issue}
    (h : checkDigits argument = .error issues) :
    issues ≠ [] ∧ ∀ i ∈ issues, i.message ∈ texts := by
  simp only [checkDigits] at h
  split at h
  · cases h
    simp [texts]
  · exact checkNumber_error h

end Concurrency


-- ---------------------------------------------------------------------------
-- The five arguments
-- ---------------------------------------------------------------------------

namespace Config

theorem combine_error {caseInsensitive multiline negate : Checked Bool}
    {concurrency : Checked Number} {pattern : Checked String} {issues : List Issue}
    (h : combine caseInsensitive multiline negate concurrency pattern = .error issues) :
    issues = Checked.issues caseInsensitive ++ Checked.issues multiline ++ Checked.issues negate
      ++ Checked.issues concurrency ++ Checked.issues pattern := by
  unfold combine at h
  split at h
  · cases h
  · cases h
    rfl

/-- The name of an argument that is not accepted. -/
def unlessAccepted (accepted : Bool) (name : String) : List String :=
  if accepted then [] else [name]

/-- The names of those of the first four arguments that are not accepted, in their order. -/
def offending (ignoreCase multiline negate concurrency : String) : List String :=
  unlessAccepted (Value.isSwitch ignoreCase) "ignore_case" ++
    unlessAccepted (Value.isSwitch multiline) "multiline" ++
    unlessAccepted (Value.isSwitch negate) "negate" ++
    unlessAccepted (Concurrency.checkDigits concurrency).isOk "concurrency"

/-- What is said of an argument that is not accepted. -/
def complaintsAbout (concurrency name : String) : List String :=
  if name = "concurrency" then (Concurrency.checkDigits concurrency).complaints
  else ["must be 0 or 1"]

/-- What may be said of an argument. -/
def textsAbout (name : String) : List String :=
  if name = "concurrency" then Concurrency.texts else ["must be 0 or 1"]

/-- A text about an argument holds the name of no other one. -/
theorem infix_text_iff : ∀ name ∈ positionalNames, ∀ about ∈ positionalNames.take 4,
    ∀ text ∈ textsAbout about,
      name.toList <:+: (about ++ ": " ++ text).toList ↔ name = about := by
  decide +kernel

theorem positionalNames_words : ∀ name ∈ positionalNames,
    name ≠ "" ∧ ';' ∉ name.toList ∧ ' ' ∉ name.toList ∧
      ¬ name.toList <:+: "Invalid arguments:".toList := by
  decide +kernel

variable (ignoreCase multiline negate concurrency pattern : String)

theorem mem_unlessAccepted {accepted : Bool} {name name' : String} :
    name ∈ unlessAccepted accepted name' ↔ accepted = false ∧ name = name' := by
  cases accepted <;> simp [unlessAccepted]

theorem offending_eq_nil_iff : offending ignoreCase multiline negate concurrency = [] ↔
    Value.isSwitch ignoreCase ∧ Value.isSwitch multiline ∧ Value.isSwitch negate ∧
      (Concurrency.checkDigits concurrency).isOk := by
  simp [offending, unlessAccepted]

theorem mem_take_of_mem_offending {name : String}
    (h : name ∈ offending ignoreCase multiline negate concurrency) :
    name ∈ positionalNames.take 4 := by
  simp only [offending, List.mem_append, mem_unlessAccepted] at h
  rcases h with ((⟨-, rfl⟩ | ⟨-, rfl⟩) | ⟨-, rfl⟩) | ⟨-, rfl⟩
  all_goals simp [positionalNames]

theorem complaintsAbout_of_offending {name : String}
    (h : name ∈ offending ignoreCase multiline negate concurrency) :
    complaintsAbout concurrency name ≠ [] ∧
      ∀ text ∈ complaintsAbout concurrency name, text ∈ textsAbout name := by
  by_cases hname : name = "concurrency"
  · subst hname
    have hrefused : (Concurrency.checkDigits concurrency).isOk = false := by
      simpa [offending, mem_unlessAccepted] using h
    cases hcheck : Concurrency.checkDigits concurrency with
    | ok n =>
      rw [hcheck] at hrefused
      cases hrefused
    | error issues =>
      obtain ⟨hne, htexts⟩ := Concurrency.checkDigits_error hcheck
      simpa [complaintsAbout, textsAbout, hcheck, Checked.complaints, Checked.issues, hne]
        using htexts
  · simp [complaintsAbout, textsAbout, hname]

theorem checkFive_eq_ok_iff {c : Config} :
    checkFive (.text ignoreCase) (.text multiline) (.text negate) (.text concurrency)
        (.text pattern) = .ok c ↔
      offending ignoreCase multiline negate concurrency = [] ∧
        (c.caseInsensitive ↔ ignoreCase = "1") ∧ (c.multiline ↔ multiline = "1") ∧
        (c.negate ↔ negate = "1") ∧ Concurrency.checkDigits concurrency = .ok c.concurrency ∧
        c.pattern = pattern := by
  have hdigits : Concurrency.checkArgument (.text concurrency)
      = Concurrency.checkDigits concurrency := rfl
  have htext : (Value.text pattern).checkText = .ok c.pattern ↔ c.pattern = pattern := by
    simp [Value.checkText, eq_comm]
  simp only [checkFive, combine_eq_ok_iff, Checked.inside_eq_ok_iff, hdigits, htext,
    Value.checkSwitch_text_eq_ok_iff, offending_eq_nil_iff]
  constructor
  · rintro ⟨⟨hi, hic⟩, ⟨hm, hmc⟩, ⟨hn, hnc⟩, hd, hp⟩
    exact ⟨⟨hi, hm, hn, by rw [hd]; rfl⟩, hic, hmc, hnc, hd, hp⟩
  · rintro ⟨⟨hi, hm, hn, -⟩, hic, hmc, hnc, hd, hp⟩
    exact ⟨⟨hi, hic⟩, ⟨hm, hmc⟩, ⟨hn, hnc⟩, hd, hp⟩

theorem offending_ne_nil {issues : List Issue}
    (h : checkFive (.text ignoreCase) (.text multiline) (.text negate) (.text concurrency)
      (.text pattern) = .error issues) :
    offending ignoreCase multiline negate concurrency ≠ [] := by
  intro hnil
  obtain ⟨-, -, -, hd⟩ := offending_eq_nil_iff _ _ _ _ |>.mp hnil
  cases hcheck : Concurrency.checkDigits concurrency with
  | error issues =>
    rw [hcheck] at hd
    cases hd
  | ok n =>
    have haccepted := (checkFive_eq_ok_iff ignoreCase multiline negate concurrency pattern
      (c := ⟨ignoreCase = "1", multiline = "1", negate = "1", n, pattern⟩)).mpr
        ⟨hnil, by simp, by simp, by simp, hcheck, rfl⟩
    cases h.symm.trans haccepted

theorem describe_checkSwitch (s : String) {name : String} (hname : name ≠ "concurrency") :
    (Value.text s).checkSwitch.complaints.map (name ++ ": " ++ ·)
      = (unlessAccepted (Value.isSwitch s) name).flatMap fun name =>
          (complaintsAbout concurrency name).map (name ++ ": " ++ ·) := by
  rw [Value.complaints_checkSwitch]
  cases Value.isSwitch s <;> simp [unlessAccepted, complaintsAbout, hname]

theorem describe_checkDigits :
    (Concurrency.checkDigits concurrency).complaints.map ("concurrency" ++ ": " ++ ·)
      = (unlessAccepted (Concurrency.checkDigits concurrency).isOk "concurrency").flatMap
          fun name => (complaintsAbout concurrency name).map (name ++ ": " ++ ·) := by
  cases hcheck : Concurrency.checkDigits concurrency with
  | ok n => rfl
  | error issues =>
    simp [unlessAccepted, complaintsAbout, hcheck, Except.isOk, Except.toBool]

/-- Every issue is described as one about an argument that is not accepted. -/
theorem describe_checkFive {issues : List Issue}
    (h : checkFive (.text ignoreCase) (.text multiline) (.text negate) (.text concurrency)
      (.text pattern) = .error issues) :
    issues.map Issue.describe = (offending ignoreCase multiline negate concurrency).flatMap
      fun name => (complaintsAbout concurrency name).map (name ++ ": " ++ ·) := by
  have hpattern : Checked.issues (Checked.inside (.index 4) (Value.text pattern).checkText) = [] :=
    rfl
  have hdigits : Concurrency.checkArgument (.text concurrency)
      = Concurrency.checkDigits concurrency := rfl
  rw [combine_error h, hpattern, List.append_nil, hdigits]
  simp only [List.map_append, Checked.describe_inside (n := 0) rfl,
    Checked.describe_inside (n := 1) rfl, Checked.describe_inside (n := 2) rfl,
    Checked.describe_inside (n := 3) rfl]
  rw [describe_checkSwitch concurrency ignoreCase (by decide),
    describe_checkSwitch concurrency multiline (by decide),
    describe_checkSwitch concurrency negate (by decide), describe_checkDigits]
  simp only [offending, List.flatMap_append]

/-- The message about arguments that are not accepted names them and no others. -/
theorem infix_message_iff {name : String} (hname : name ∈ positionalNames) :
    name.toList <:+: ("Invalid arguments: " ++
        "; ".intercalate ((offending ignoreCase multiline negate concurrency).flatMap
          fun name => (complaintsAbout concurrency name).map (name ++ ": " ++ ·))).toList ↔
      name ∈ offending ignoreCase multiline negate concurrency := by
  obtain ⟨hne, hsemicolon, hblank, hheader⟩ := positionalNames_words name hname
  have hsplit : ∀ text : String, ("Invalid arguments: " ++ text).toList
      = "Invalid arguments:".toList ++ ' ' :: text.toList := by
    intro text
    simp
  rw [hsplit, Text.infix_append_cons_iff hblank, or_iff_right hheader,
    Text.infix_intercalate_iff hne hsemicolon hblank]
  constructor
  · rintro ⟨part, hpart, hinfix⟩
    obtain ⟨about, habout, hmem⟩ := List.mem_flatMap.mp hpart
    obtain ⟨text, htext, rfl⟩ := List.mem_map.mp hmem
    have hallowed := (complaintsAbout_of_offending _ _ _ _ habout).2 text htext
    have htake := mem_take_of_mem_offending _ _ _ _ habout
    rw [(infix_text_iff name hname about htake text hallowed).mp hinfix]
    exact habout
  · intro hoffending
    obtain ⟨hne, htexts⟩ := complaintsAbout_of_offending _ _ _ _ hoffending
    obtain ⟨text, rest, hcons⟩ := List.exists_cons_of_ne_nil hne
    have hmem : text ∈ complaintsAbout concurrency name := hcons ▸ List.mem_cons_self
    refine ⟨name ++ ": " ++ text, ?_, ?_⟩
    · exact List.mem_flatMap.mpr ⟨name, hoffending, List.mem_map_of_mem hmem⟩
    · have htake := mem_take_of_mem_offending _ _ _ _ hoffending
      exact (infix_text_iff name hname name htake text (htexts text hmem)).mpr rfl

theorem ofArguments_five (default : Number)
    (hoptions : ∀ arg ∈ [ignoreCase, multiline, negate, concurrency],
      arg.toList.head? ≠ some '-') :
    ofArguments [ignoreCase, multiline, negate, concurrency, pattern] default
      = (checkFive (.text ignoreCase) (.text multiline) (.text negate) (.text concurrency)
          (.text pattern)).mapError invalidArguments := by
  have hpositional : isPositional [ignoreCase, multiline, negate, concurrency, pattern] := by
    simpa [isPositional] using hoptions
  rw [ofArguments, if_pos hpositional, ofPositional]
  simp only [List.map_cons, List.map_nil, checkPositional]
  cases checkFive (.text ignoreCase) (.text multiline) (.text negate) (.text concurrency)
    (.text pattern) <;> rfl

/-- Arguments are accepted, and then ask for a number of slots in range, or they are refused with one
code. Five arguments of which the first four are no options are accepted exactly if three switches
and a concurrency stand before the pattern, and then say what they spell. If they are refused, the
message is about the arguments that are not accepted, in their order, and names no other argument. -/
theorem ofArguments_by_grammar (args : List String) (default : Number) :
    ((∃ c i, ofArguments args default = .ok c ∧ c.concurrency.toInt? = some i ∧
        1 ≤ i ∧ i ≤ 2 ^ 53 - 1) ∨
      ∃ failure, ofArguments args default = .error failure ∧ failure.code = .invalidInput) ∧
    ∀ ignoreCase multiline negate concurrency pattern,
      args = [ignoreCase, multiline, negate, concurrency, pattern] →
      (∀ arg ∈ [ignoreCase, multiline, negate, concurrency], arg.toList.head? ≠ some '-') →
      ((ofArguments args default).isOk ↔
        (∀ arg ∈ [ignoreCase, multiline, negate], arg = "0" ∨ arg = "1") ∧
          (Concurrency.checkDigits concurrency).isOk) ∧
      (∀ c, ofArguments args default = .ok c →
        (c.caseInsensitive ↔ ignoreCase = "1") ∧ (c.multiline ↔ multiline = "1") ∧
          (c.negate ↔ negate = "1") ∧ Concurrency.checkDigits concurrency = .ok c.concurrency ∧
          c.pattern = pattern) ∧
      ∀ failure, ofArguments args default = .error failure →
        let refused := offending ignoreCase multiline negate concurrency
        refused ≠ [] ∧
        failure.message = "Invalid arguments: " ++ "; ".intercalate (refused.flatMap fun name =>
          (complaintsAbout concurrency name).map (name ++ ": " ++ ·)) ∧
        (∀ name ∈ refused, complaintsAbout concurrency name ≠ []) ∧
        ∀ name ∈ positionalNames,
          name.toList <:+: failure.message.toList ↔ name ∈ refused := by
  refine ⟨?_, ?_⟩
  · cases hresult : ofArguments args default with
    | ok c =>
      obtain ⟨i, hi, hlow, hhigh⟩ := ofArguments_ok hresult
      exact .inl ⟨c, i, rfl, hi, hlow, hhigh⟩
    | error failure => exact .inr ⟨failure, rfl, ofArguments_error hresult⟩
  · rintro ignoreCase multiline negate concurrency pattern rfl hoptions
    have haccepted : (offending ignoreCase multiline negate concurrency = [] ↔
        (∀ arg ∈ [ignoreCase, multiline, negate], arg = "0" ∨ arg = "1") ∧
          (Concurrency.checkDigits concurrency).isOk) := by
      simp [offending_eq_nil_iff, Value.isSwitch, and_assoc]
    rw [ofArguments_five _ _ _ _ _ default hoptions]
    cases hcheck : checkFive (.text ignoreCase) (.text multiline) (.text negate)
      (.text concurrency) (.text pattern) with
    | ok c =>
      obtain ⟨hnil, hspelled⟩ := (checkFive_eq_ok_iff ..).mp hcheck
      refine ⟨⟨fun _ => haccepted.mp hnil, fun _ => rfl⟩, ?_, fun failure h => ?_⟩
      · intro c' h
        cases h
        exact hspelled
      · cases h
    | error issues =>
      have hne := offending_ne_nil _ _ _ _ _ hcheck
      refine ⟨⟨fun h => ?_, fun h => absurd (haccepted.mpr h) hne⟩, fun c h => ?_, ?_⟩
      · cases h
      · cases h
      · intro failure h refused
        cases h
        have hmessage : (invalidArguments issues).message = "Invalid arguments: " ++
            "; ".intercalate (refused.flatMap fun name =>
              (complaintsAbout concurrency name).map (name ++ ": " ++ ·)) := by
          rw [← describe_checkFive _ _ _ _ _ hcheck]
          rfl
        refine ⟨hne, hmessage, fun name h => (complaintsAbout_of_offending _ _ _ _ h).1, ?_⟩
        intro name hname
        rw [hmessage]
        exact infix_message_iff _ _ _ _ hname

/-- Of three switches the second is in order, and the pattern begins with a dash. -/
theorem ofArguments_by_grammar_two_refused :
    let args := ["yes", "1", "", "8", "-x"]
    args = ["yes", "1", "", "8", "-x"] ∧
      (∀ arg ∈ ["yes", "1", "", "8"], arg.toList.head? ≠ some '-') ∧
      ∃ failure, ofArguments args (.real 4) = .error failure ∧ failure.code = .invalidInput ∧
        "negate" ∈ positionalNames ∧ "negate".toList <:+: failure.message.toList ∧
        ¬ "multiline".toList <:+: failure.message.toList := by
  intro args
  have hoptions : ∀ arg ∈ ["yes", "1", "", "8"], arg.toList.head? ≠ some '-' := by decide
  obtain ⟨hresult, hfive⟩ := ofArguments_by_grammar args (.real 4)
  obtain ⟨haccepted, -, hrefused⟩ := hfive "yes" "1" "" "8" "-x" rfl hoptions
  refine ⟨rfl, hoptions, ?_⟩
  rcases hresult with ⟨c, -, hok, -⟩ | ⟨failure, herror, hcode⟩
  · rw [hok] at haccepted
    exact absurd ((haccepted.mp rfl).1 "yes" (by decide)) (by decide)
  · obtain ⟨-, -, -, hnames⟩ := hrefused failure herror
    have hname : "negate" ∈ positionalNames := by decide
    refine ⟨failure, herror, hcode, hname, (hnames "negate" hname).mpr ?_, fun hinfix => ?_⟩
    · simp [offending, mem_unlessAccepted, Value.isSwitch]
    · have hmem := (hnames "multiline" (by decide)).mp hinfix
      simp [offending, mem_unlessAccepted, Value.isSwitch] at hmem

end Config

end FileSearch
