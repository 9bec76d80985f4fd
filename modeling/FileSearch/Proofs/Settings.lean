import FileSearch.Proofs.Number
import FileSearch.Proofs.Text.Integer

/-!
# What settings say

Each setting has documented values, which may have blanks around them. A documented value is read
as what it says, and no warning is given. Of the other values a level and a policy are refused with
one warning, and so is a number that does not even begin with one in range; the default stands in
for them. But a number in range is read whatever follows it, and a switch or a detail that says
nothing falls back to its default, both without a warning (`RuntimeSettings.load_reads`).
-/

namespace FileSearch


-- ---------------------------------------------------------------------------
-- Words
-- ---------------------------------------------------------------------------

namespace Text

/-- A text is a word, in letters of either case, with blanks around it. -/
def SaysWord (word : String) (text : List Char) : Prop :=
  ∃ letters, IsPadded letters text ∧ letters.map Char.toLower = word.toList

theorem toLower_of_isBlank {c : Char} (h : isBlank c) : c.toLower = c := by
  refine dif_neg fun ⟨hlow, hhigh⟩ => ?_
  have hletter : 65 ≤ c.toNat ∧ c.toNat ≤ 90 := ⟨hlow, hhigh⟩
  simp only [isBlank, Bool.or_eq_true, Bool.and_eq_true, decide_eq_true_eq] at h
  omega

end Text

namespace RuntimeSettings

open Text

theorem normalize_eq_iff {raw word : String} (hword : word.toList.any isBlank = false) :
    normalize raw = word ↔ SaysWord word raw.toList := by
  rw [← String.toList_inj, normalize, String.toList_ofList]
  constructor
  · exact fun h => ⟨trimChars raw.toList, isPadded_trimChars _, h⟩
  · rintro ⟨letters, hpadded, hletters⟩
    rw [hpadded.trimChars_eq fun c hc => ?_, hletters]
    by_contra hblank
    have hmem : c.toLower ∈ word.toList := hletters ▸ List.mem_map_of_mem hc
    rw [toLower_of_isBlank (by simpa using hblank)] at hmem
    exact hblank (by simpa using List.any_eq_false.mp hword c hmem)

end RuntimeSettings


-- ---------------------------------------------------------------------------
-- Documented values
-- ---------------------------------------------------------------------------

/-- What a setting is set to. -/
inductive SettingValue where
  | level (l : LogLevel)
  | policy (p : FileErrorPolicy)
  | number (n : Number)
  | switch (on : Bool)
  | detail (d : PathDetail)
  deriving DecidableEq

namespace Setting

open Text

/-- The largest number for a setting that is one. The least is 1. -/
def limit? : Setting → Option Nat
  | maxFileSize => some RuntimeSettings.maxFileSizeCeiling
  | concurrency => some RuntimeSettings.maxDefaultConcurrency
  | logLevel | fileErrorPolicy | diagnostics | diagnosticsDetail => none

/-- What stands in for a setting on a machine of so many processors. -/
def fallback (processors : Number) : Setting → SettingValue
  | logLevel => .level .warning
  | fileErrorPolicy => .policy .fail
  | maxFileSize => .number (.ofNat RuntimeSettings.defaultMaxFileSize)
  | concurrency => .number (RuntimeSettings.optimalParallelism processors)
  | diagnostics => .switch false
  | diagnosticsDetail => .detail .hidden

/-- The documented values of a setting, and what they say. -/
inductive Says (raw : String) : Setting → SettingValue → Prop
  | level (l : LogLevel) (h : SaysWord l.name raw.toList) : Says raw logLevel (.level l)
  | policy (p : FileErrorPolicy) (h : SaysWord p.name raw.toList) :
      Says raw fileErrorPolicy (.policy p)
  | number {setting : Setting} {limit n : Nat} {word : List Char}
      (hlimit : setting.limit? = some limit) (hpadded : IsPadded word raw.toList)
      (hword : IsInteger n word) (hlow : 1 ≤ n) (hhigh : n ≤ limit) :
      Says raw setting (.number (.real n))
  | on {word : String} (hword : word ∈ ["1", "true", "yes"]) (h : SaysWord word raw.toList) :
      Says raw diagnostics (.switch true)
  | off {word : String} (hword : word ∈ ["0", "false", "no"]) (h : SaysWord word raw.toList) :
      Says raw diagnostics (.switch false)
  | detail (d : PathDetail) (h : IsPadded (toString d.toNat).toList raw.toList) :
      Says raw diagnosticsDetail (.detail d)

/-- What is read without a warning from values that need not be documented. -/
inductive Misread (raw : String) : Setting → SettingValue → Prop
  | number {setting : Setting} {limit n : Nat} (hlimit : setting.limit? = some limit)
      (hbegins : BeginsWith n raw.toList) (hlow : 1 ≤ n) (hhigh : n ≤ limit) :
      Misread raw setting (.number (.real n))
  | switch : Misread raw diagnostics (.switch false)
  | detail : Misread raw diagnosticsDetail (.detail .hidden)

/-- A text that holds more than digits, signs and blanks says no number. -/
theorem not_says_of_mem {raw : String} {setting : Setting} {limit : Nat} {c : Char}
    (hlimit : setting.limit? = some limit) (hc : c ∈ raw.toList) (hblank : isBlank c = false)
    (hother : ¬ (c.isDigit ∨ c = '+' ∨ c = '-')) (v : SettingValue) : ¬ Says raw setting v := by
  rintro (⟨l, _⟩ | ⟨p, _⟩ | ⟨_, hpadded, hword, _, _⟩ | _ | _ | _)
  case number =>
    obtain ⟨before, after, htext, hbefore, hafter⟩ := hpadded
    rw [htext, List.mem_append, List.mem_append] at hc
    rcases hc with (hc | hc) | hc
    · exact Bool.eq_false_iff.mp hblank (hbefore c hc)
    · exact hother (hword.of_mem hc)
    · exact Bool.eq_false_iff.mp hblank (hafter c hc)
  all_goals cases hlimit

end Setting

/-- The value of each setting. -/
def RuntimeSettings.value (s : RuntimeSettings) : Setting → SettingValue
  | .logLevel => .level s.logLevel
  | .fileErrorPolicy => .policy s.fileErrorPolicy
  | .maxFileSize => .number s.maxFileSize
  | .concurrency => .number s.defaultConcurrency
  | .diagnostics => .switch s.diagnostics
  | .diagnosticsDetail => .detail s.diagnosticsDetail


-- ---------------------------------------------------------------------------
-- Warnings
-- ---------------------------------------------------------------------------

namespace Setting

/-- How a warning about a setting begins. -/
def header (setting : Setting) : List Char := ("Invalid " ++ setting.key ++ " value: ").toList

theorem mem_all (setting : Setting) : setting ∈ all := by
  cases setting <;> decide

theorem eq_of_header_prefix : ∀ s ∈ all, ∀ t ∈ all, s.header <+: t.header → s = t := by
  decide +kernel

end Setting

/-- Whether an entry is a warning about a setting. -/
def LogEntry.warnsOf (e : LogEntry) (setting : Setting) : Bool :=
  e.level = .warning && setting.header.isPrefixOf e.message.toList

/-- A warning is about the one setting it names at its beginning. -/
theorem LogEntry.warnsOf_iff {message : String} {s t : Setting}
    (h : t.header <+: message.toList) : (RuntimeSettings.warn message).warnsOf s ↔ s = t := by
  have hstart : (RuntimeSettings.warn message).warnsOf s ↔ s.header <+: message.toList := by
    simp [warnsOf, RuntimeSettings.warn]
  rw [hstart]
  constructor
  · intro hs
    rcases List.prefix_or_prefix_of_prefix hs h with hle | hle
    · exact Setting.eq_of_header_prefix s s.mem_all t t.mem_all hle
    · exact (Setting.eq_of_header_prefix t t.mem_all s s.mem_all hle).symm
  · rintro rfl
    exact h

namespace RuntimeSettings

open Text Setting

variable {env : Environment} {processors : Number} {raw : String} {setting : Setting}

theorem valueOf?_eq_some_iff :
    valueOf? env setting = some raw ↔ env setting.key = some raw ∧ raw ≠ "" := by
  simp [valueOf?, Option.filter_eq_some_iff]

theorem valueOf?_eq_none_iff :
    valueOf? env setting = none ↔ env setting.key = none ∨ env setting.key = some "" := by
  cases h : env setting.key <;> simp [valueOf?, h, Option.filter]

/-- A reading that left the default in place and gave one warning about the setting. -/
def Refused {α : Type} (setting : Setting) (default : α) (r : Reading α) : Prop :=
  ∃ message, setting.header <+: message.toList ∧ r = (default, [warn message])

/-- A word is read if it is one of those to choose from, and refused otherwise. -/
theorem readChoice_cases {α : Type} (default : α) (defaultName : String)
    (choice : String → Option α) (hset : valueOf? env setting = some raw) :
    (∃ a, choice (normalize raw) = some a ∧
      readChoice env setting default defaultName choice = (a, [])) ∨
    choice (normalize raw) = none ∧
      Refused setting default (readChoice env setting default defaultName choice) := by
  unfold readChoice
  rw [hset]
  cases hchoice : choice (normalize raw) with
  | some a => exact .inl ⟨a, rfl, by simp [hchoice]⟩
  | none =>
    refine .inr ⟨rfl, _, ?_, by simp only [hchoice]; rfl⟩
    simp [header]

/-- A number is read if the text begins with one in range, and refused otherwise. -/
theorem readNumber_cases (default : Number) {limit : Nat} (hlimit : limit < 2 ^ 53)
    (hset : valueOf? env setting = some raw) :
    (∃ n : Nat, BeginsWith n raw.toList ∧ 1 ≤ n ∧ n ≤ limit ∧
      readNumber env setting default 1 limit = (.real n, [])) ∨
    (∀ n : Nat, BeginsWith n raw.toList → 1 ≤ n → ¬ n ≤ limit) ∧
      Refused setting default (readNumber env setting default 1 limit) := by
  unfold readNumber
  rw [hset]
  cases hint : leadingInt? raw with
  | none =>
    refine .inr ⟨fun n hn _ => ?_, _, ?_, by simp only [hint]; rfl⟩
    · rw [leadingInt?_eq_some_iff.mpr hn] at hint
      cases hint
    · simp [header]
  | some n =>
    by_cases hrange : n < 1 ∨ (limit : Int) < n
    · refine .inr ⟨fun m hm hlow => ?_, _, ?_, by simp [hint, hrange]; rfl⟩
      · obtain rfl : (m : Int) = n :=
          Option.some.inj ((leadingInt?_eq_some_iff.mpr hm).symm.trans hint)
        omega
      · simp [header]
    · have hn : ((n.toNat : Nat) : Int) = n := by omega
      refine .inl ⟨n.toNat, ?_, by omega, by omega, ?_⟩
      · rw [hn]
        exact leadingInt?_eq_some_iff.mp hint
      · rw [← Number.ofNat_of_lt (by omega)]
        simp [hint, hrange]


-- ---------------------------------------------------------------------------
-- Readings
-- ---------------------------------------------------------------------------

/-- A documented value is read as what it says, and any other as what it is taken for; one that is
taken for nothing is refused. -/
structure Reads (raw : String) (setting : Setting) (default : SettingValue)
    (r : Reading SettingValue) : Prop where
  said : ∀ v, Says raw setting v → r = (v, [])
  misread : (∀ v, ¬ Says raw setting v) → ∀ v, Misread raw setting v → r = (v, [])
  refused : (∀ v, ¬ Misread raw setting v) → (∀ v, ¬ Says raw setting v) → Refused setting default r

/-- What is read, as the value of a setting. -/
def Reading.as {α : Type} (wrap : α → SettingValue) (r : Reading α) : Reading SettingValue :=
  (wrap r.1, r.2)

theorem Refused.as {α : Type} {default : α} {r : Reading α} (h : Refused setting default r)
    (wrap : α → SettingValue) : Refused setting (wrap default) (Reading.as wrap r) := by
  obtain ⟨message, hheader, rfl⟩ := h
  exact ⟨message, hheader, rfl⟩

theorem ofName?_eq_some_iff {name : String} {l : LogLevel} :
    LogLevel.ofName? name = some l ↔ l.name = name := by
  constructor
  · intro h
    simpa using List.find?_some h
  · rintro rfl
    cases l <;> decide +kernel

theorem policy?_eq_some_iff {name : String} {p : FileErrorPolicy} :
    policy? name = some p ↔ p.name = name := by
  constructor
  · intro h
    unfold policy? at h
    split at h <;> cases h <;> rfl
  · rintro rfl
    cases p <;> rfl

/-- A choice among words reads the words that have a documented meaning, and no others. -/
theorem reads_choice {α : Type} {name : α → String} {choice : String → Option α}
    {wrap : α → SettingValue} (default : α) (hset : valueOf? env setting = some raw)
    (hchoice : ∀ word a, choice word = some a ↔ name a = word)
    (hname : ∀ a, (name a).toList.any isBlank = false)
    (hmeaning : ∀ v, Says raw setting v ↔ ∃ a, v = wrap a ∧ SaysWord (name a) raw.toList)
    (hmisread : ∀ v, ¬ Misread raw setting v) :
    Reads raw setting (wrap default)
      (Reading.as wrap (readChoice env setting default (name default) choice)) := by
  have hsaid (a : α) : choice (normalize raw) = some a ↔ SaysWord (name a) raw.toList := by
    rw [hchoice, eq_comm, normalize_eq_iff (hname a)]
  rcases readChoice_cases default (name default) choice hset with
    ⟨a, ha, hread⟩ | ⟨hnone, hrefused⟩
  · have hsaidA : Says raw setting (wrap a) := (hmeaning _).mpr ⟨a, rfl, (hsaid a).mp ha⟩
    refine ⟨fun v hv => ?_, fun hno => absurd hsaidA (hno _), fun _ hno => absurd hsaidA (hno _)⟩
    obtain ⟨b, rfl, hb⟩ := (hmeaning v).mp hv
    obtain rfl : a = b := Option.some.inj (ha.symm.trans ((hsaid b).mpr hb))
    rw [hread]
    rfl
  · refine ⟨fun v hv => ?_, fun _ v hv => absurd hv (hmisread v), fun _ _ => hrefused.as wrap⟩
    obtain ⟨b, -, hb⟩ := (hmeaning v).mp hv
    rw [(hsaid b).mpr hb] at hnone
    cases hnone

/-- A number is read off the front of a text, whether or not the text says nothing else. -/
theorem reads_number {limit : Nat} (default : Number) (hset : valueOf? env setting = some raw)
    (hlimit : setting.limit? = some limit) (hsmall : limit < 2 ^ 53) :
    Reads raw setting (.number default)
      (Reading.as .number (readNumber env setting default 1 limit)) := by
  have hsaid (v : SettingValue) (h : Says raw setting v) : Misread raw setting v := by
    cases h with
    | number hlimit hpadded hword hlow hhigh =>
      exact .number hlimit (hword.beginsWith hpadded) hlow hhigh
    | level | policy | on | off | detail => cases hlimit
  have hinv (v : SettingValue) (h : Misread raw setting v) :
      ∃ n : Nat, v = .number (.real n) ∧ BeginsWith n raw.toList ∧ 1 ≤ n ∧ n ≤ limit := by
    cases h with
    | @number _ top n htop hbegins hlow hhigh =>
      obtain rfl : limit = top := Option.some.inj (hlimit.symm.trans htop)
      exact ⟨n, rfl, hbegins, hlow, hhigh⟩
    | switch | detail => cases hlimit
  rcases readNumber_cases default hsmall hset with
    ⟨n, hbegins, hlow, hhigh, hread⟩ | ⟨hnone, hrefused⟩
  · have hmisread (v : SettingValue) (h : Misread raw setting v) :
        Reading.as .number (readNumber env setting default 1 limit) = (v, []) := by
      obtain ⟨m, rfl, hm, -, -⟩ := hinv v h
      obtain rfl : n = m := by
        have hboth := (leadingInt?_eq_some_iff.mpr hbegins).symm.trans
          (leadingInt?_eq_some_iff.mpr hm)
        simpa using hboth
      rw [hread]
      rfl
    exact ⟨fun v hv => hmisread v (hsaid v hv), fun _ => hmisread,
      fun hno => absurd (.number hlimit hbegins hlow hhigh) (hno _)⟩
  · have hno (v : SettingValue) : ¬ Misread raw setting v := fun h => by
      obtain ⟨n, -, hbegins, hlow, hhigh⟩ := hinv v h
      exact hnone n hbegins hlow hhigh
    exact ⟨fun v hv => absurd (hsaid v hv) (hno v), fun _ v hv => absurd hv (hno v),
      fun _ _ => hrefused.as _⟩

/-- A switch is on at the words for it, and off at every other text. -/
theorem reads_switch (hset : valueOf? env .diagnostics = some raw) :
    Reads raw .diagnostics (.switch false) (.switch (readSwitch env .diagnostics), []) := by
  have hnormal {word : String} (hword : word ∈ ["1", "true", "yes", "0", "false", "no"]) :
      normalize raw = word ↔ SaysWord word raw.toList := by
    refine normalize_eq_iff ?_
    revert word
    decide +kernel
  have hread : readSwitch env .diagnostics = ["1", "true", "yes"].contains (normalize raw) := by
    simp only [readSwitch, hset]
  have hoff (h : normalize raw ∉ ["1", "true", "yes"]) : readSwitch env .diagnostics = false := by
    rw [hread, Bool.eq_false_iff]
    exact fun hmem => h (List.contains_iff_mem.mp hmem)
  have hapart : ∀ word ∈ ["0", "false", "no"], word ∉ ["1", "true", "yes"] := by
    decide
  refine ⟨fun v hv => ?_, fun hno v hv => ?_, fun hno => absurd .switch (hno _)⟩
  · cases hv with
    | number hlimit => cases hlimit
    | on hword h =>
      rw [hread, (hnormal (List.mem_append_left ["0", "false", "no"] hword)).mpr h,
        List.contains_iff_mem.mpr hword]
    | off hword h =>
      rw [hoff]
      rw [(hnormal (List.mem_append_right ["1", "true", "yes"] hword)).mpr h]
      exact hapart _ hword
  · cases hv with
    | number hlimit => cases hlimit
    | switch =>
      rw [hoff fun hmem => hno _ (.on hmem ((hnormal ?_).mp rfl))]
      exact List.mem_append_left ["0", "false", "no"] hmem

/-- A detail is read from its digit, and nothing is shown at every other text. -/
theorem reads_detail (hset : valueOf? env .diagnosticsDetail = some raw) :
    Reads raw .diagnosticsDetail (.detail .hidden)
      (.detail (readDetail env .diagnosticsDetail), []) := by
  have htrim (d : PathDetail) :
      trim raw = toString d.toNat ↔ IsPadded (toString d.toNat).toList raw.toList := by
    rw [← String.toList_inj, trim, String.toList_ofList,
      trimChars_eq_iff (isNumeral_toString d.toNat).not_blank]
  have hread (d : PathDetail) (h : trim raw = toString d.toNat) :
      readDetail env .diagnosticsDetail = d := by
    simp only [readDetail, hset, h]
    cases d <;> rfl
  refine ⟨fun v hv => ?_, fun hno v hv => ?_, fun hno => absurd .detail (hno _)⟩
  · cases hv with
    | number hlimit => cases hlimit
    | detail d h => rw [hread d ((htrim d).mpr h)]
  · cases hv with
    | number hlimit => cases hlimit
    | detail =>
      have hother (d : PathDetail) : trim raw ≠ toString d.toNat := fun h =>
        hno _ (.detail d ((htrim d).mp h))
      have hhidden : readDetail env .diagnosticsDetail = .hidden := by
        simp only [readDetail, hset]
        split
        case h_1 h => exact absurd h (hother .full)
        case h_2 h => exact absurd h (hother .digest)
        case h_3 => rfl
      rw [hhidden]


-- ---------------------------------------------------------------------------
-- All settings
-- ---------------------------------------------------------------------------

/-- The reading of one setting. -/
def reading (env : Environment) (processors : Number) : Setting → Reading SettingValue
  | .logLevel => Reading.as .level (readChoice env .logLevel .warning "warning" LogLevel.ofName?)
  | .fileErrorPolicy => Reading.as .policy (readChoice env .fileErrorPolicy .fail "fail" policy?)
  | .maxFileSize => Reading.as .number
    (readNumber env .maxFileSize (.ofNat defaultMaxFileSize) 1 maxFileSizeCeiling)
  | .concurrency => Reading.as .number
    (readNumber env .concurrency (optimalParallelism processors) 1 maxDefaultConcurrency)
  | .diagnostics => (.switch (readSwitch env .diagnostics), [])
  | .diagnosticsDetail => (.detail (readDetail env .diagnosticsDetail), [])

theorem value_load (env : Environment) (processors : Number) (setting : Setting) :
    (load env processors).1.value setting = (reading env processors setting).1 := by
  cases setting <;> rfl

theorem warnings_load (env : Environment) (processors : Number) :
    (load env processors).2 = all.flatMap fun s => (reading env processors s).2 := by
  simp [load, all, reading, Reading.as]

theorem reading_of_unset (hset : valueOf? env setting = none) :
    reading env processors setting = (setting.fallback processors, []) := by
  cases setting <;>
    simp [reading, Reading.as, readChoice, readNumber, readSwitch, readDetail, hset, fallback]

theorem reads_reading (hset : valueOf? env setting = some raw) :
    Reads raw setting (setting.fallback processors) (reading env processors setting) := by
  cases setting with
  | logLevel =>
    refine reads_choice .warning hset (fun _ _ => ofName?_eq_some_iff) ?_ (fun v => ?_) nofun
    · intro l
      cases l <;> decide +kernel
    · exact ⟨fun | .level l h => ⟨l, rfl, h⟩, fun ⟨l, hv, h⟩ => hv ▸ .level l h⟩
  | fileErrorPolicy =>
    refine reads_choice .fail hset (fun _ _ => policy?_eq_some_iff) ?_ (fun v => ?_) nofun
    · intro p
      cases p <;> decide +kernel
    · exact ⟨fun | .policy p h => ⟨p, rfl, h⟩, fun ⟨p, hv, h⟩ => hv ▸ .policy p h⟩
  | maxFileSize => exact reads_number _ hset rfl (by decide)
  | concurrency => exact reads_number _ hset rfl (by decide)
  | diagnostics => exact reads_switch hset
  | diagnosticsDetail => exact reads_detail hset

/-- A reading gives no warning, or its default and one. -/
theorem reading_cases (env : Environment) (processors : Number) (setting : Setting) :
    (reading env processors setting).2 = [] ∨
      Refused setting (setting.fallback processors) (reading env processors setting) := by
  cases hset : valueOf? env setting with
  | none => exact .inl (by rw [reading_of_unset hset])
  | some raw =>
    have hreads : Reads raw setting _ (reading env processors setting) := reads_reading hset
    by_cases hsaid : ∃ v, Says raw setting v
    · obtain ⟨v, hv⟩ := hsaid
      exact .inl (by rw [hreads.said v hv])
    · by_cases hmisread : ∃ v, Misread raw setting v
      · obtain ⟨v, hv⟩ := hmisread
        exact .inl (by rw [hreads.misread (not_exists.mp hsaid) v hv])
      · exact .inr (hreads.refused (not_exists.mp hmisread) (not_exists.mp hsaid))

/-- Every warning of a reading is about its setting. -/
theorem warnsOf_of_mem {e : LogEntry} (h : e ∈ (reading env processors setting).2) (s : Setting) :
    e.warnsOf s ↔ s = setting := by
  rcases reading_cases env processors setting with hnone | ⟨message, hheader, hread⟩
  · rw [hnone] at h
    cases h
  · rw [hread, List.mem_singleton] at h
    rw [h]
    exact LogEntry.warnsOf_iff hheader

/-- The warnings about a setting are those of its reading. -/
theorem filter_warnings_load (env : Environment) (processors : Number) (setting : Setting) :
    (load env processors).2.filter (·.warnsOf setting) = (reading env processors setting).2 := by
  have hone (s : Setting) : (reading env processors s).2.filter (·.warnsOf setting) =
      if s = setting then (reading env processors s).2 else [] := by
    split
    case isTrue heq =>
      exact List.filter_eq_self.mpr fun e he => (warnsOf_of_mem he setting).mpr heq.symm
    case isFalse hne =>
      exact List.filter_eq_nil_iff.mpr fun e he => fun h =>
        hne ((warnsOf_of_mem he setting).mp h).symm
  simp only [warnings_load, List.filter_flatMap, hone]
  cases setting <;> simp [all]

/-- What is read for a setting, and which warnings there are about it, over all values. -/
theorem load_reads (env : Environment) (processors : Number) (setting : Setting) :
    let loaded := load env processors
    let value := loaded.1.value setting
    let warnings := loaded.2.filter (·.warnsOf setting)
    (∀ e ∈ loaded.2, ∃ s, ∀ t, e.warnsOf t ↔ t = s) ∧
    (env setting.key = none ∨ env setting.key = some "" →
      value = setting.fallback processors ∧ warnings = []) ∧
    ∀ raw, env setting.key = some raw → raw ≠ "" →
      (∀ v, Says raw setting v → value = v ∧ warnings = []) ∧
      ((∀ v, ¬ Says raw setting v) →
        (∀ v, Misread raw setting v → value = v ∧ warnings = []) ∧
        ((∀ v, ¬ Misread raw setting v) →
          value = setting.fallback processors ∧ ∃ e, warnings = [e])) := by
  simp only [value_load, filter_warnings_load]
  refine ⟨fun e he => ?_, fun hunset => ?_, fun raw hraw hne => ?_⟩
  · rw [warnings_load] at he
    obtain ⟨s, -, hs⟩ := List.mem_flatMap.mp he
    exact ⟨s, warnsOf_of_mem hs⟩
  · rw [reading_of_unset (valueOf?_eq_none_iff.mpr hunset)]
    exact ⟨rfl, rfl⟩
  · have hreads : Reads raw setting _ (reading env processors setting) :=
      reads_reading (valueOf?_eq_some_iff.mpr ⟨hraw, hne⟩)
    refine ⟨fun v hv => ?_, fun hno => ⟨fun v hv => ?_, fun hnone => ?_⟩⟩
    · rw [hreads.said v hv]
      exact ⟨rfl, rfl⟩
    · rw [hreads.misread hno v hv]
      exact ⟨rfl, rfl⟩
    · obtain ⟨message, -, hread⟩ := hreads.refused hnone hno
      rw [hread]
      exact ⟨rfl, warn message, rfl⟩

/-- An environment that sets a single variable. -/
def setTo (setting : Setting) (raw : String) : Environment := fun key =>
  if key = setting.key then some raw else none

theorem load_reads_three_values :
    ((load (setTo .logLevel " Debug ") (.real 4)).1.value .logLevel = .level .debug ∧
      (load (setTo .logLevel " Debug ") (.real 4)).2.filter (·.warnsOf .logLevel) = []) ∧
    ((load (setTo .concurrency "8 or 9") (.real 4)).1.value .concurrency = .number (.real 8) ∧
      (load (setTo .concurrency "8 or 9") (.real 4)).2.filter (·.warnsOf .concurrency) = []) ∧
    ((load (setTo .fileErrorPolicy "skip") (.real 4)).1.value .fileErrorPolicy = .policy .fail ∧
      ∃ e, (load (setTo .fileErrorPolicy "skip") (.real 4)).2.filter
        (·.warnsOf .fileErrorPolicy) = [e]) := by
  refine ⟨?_, ?_, ?_⟩
  · refine ((load_reads _ _ .logLevel).2.2 " Debug " rfl (by decide)).1 _ (.level .debug ?_)
    exact ⟨"Debug".toList, ⟨[' '], [' '], rfl, by simp [isBlank], by simp [isBlank]⟩, by decide⟩
  · refine (((load_reads _ _ .concurrency).2.2 "8 or 9" rfl (by decide)).2 ?_).1 _ ?_
    · exact not_says_of_mem (c := 'o') rfl (by decide) (by decide) (by decide)
    · refine .number (n := 8) rfl ⟨[], ['8'], " or 9".toList, rfl, by simp, ?_, by simp⟩
        (by decide) (by decide)
      exact .unsigned (n := 8) ⟨by decide, by simp, by decide⟩
  · refine (((load_reads _ _ .fileErrorPolicy).2.2 "skip" rfl (by decide)).2 ?_).2 nofun
    rintro _ (_ | ⟨p, h⟩ | ⟨hlimit⟩)
    case policy =>
      have hname : normalize "skip" = p.name := by
        refine (normalize_eq_iff ?_).mpr h
        cases p <;> decide +kernel
      revert hname
      cases p <;> decide +kernel
    case number => cases hlimit

/-- A number with a unit behind it says nothing, yet the number is used and no warning given. -/
theorem number_before_unit :
    (∀ v, ¬ Says "10MB" .maxFileSize v) ∧
    (load (setTo .maxFileSize "10MB") (.real 1)).1.value .maxFileSize = .number (.real 10) ∧
    (load (setTo .maxFileSize "10MB") (.real 1)).2 = [] := by
  refine ⟨?_, by decide +kernel, by decide +kernel⟩
  exact not_says_of_mem (c := 'M') rfl (by decide) (by decide) (by decide)

end RuntimeSettings

end FileSearch
