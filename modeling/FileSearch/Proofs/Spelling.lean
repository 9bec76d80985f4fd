import FileSearch.Proofs.Concurrency

/-!
# Ways to write a configuration

A configuration can be written as five positional arguments, or as options in any order followed by
`--` and the pattern. Either is read back as the configuration, whatever the pattern begins with, and
no list of arguments can be read in both forms.
-/

namespace FileSearch

/-- An option as it may be written: a switch by its letter or its name, the concurrency with its
value as the next argument or behind an equals sign. -/
inductive WrittenOption where
  | i
  | ignoreCase
  | multiline
  | negate
  | j (count : Nat)
  | concurrency (count : Nat)
  | concurrencyInline (count : Nat)
  deriving DecidableEq, Repr

namespace WrittenOption

def arguments : WrittenOption → List String
  | i => ["-i"]
  | ignoreCase => ["--ignore-case"]
  | multiline => ["--multiline"]
  | negate => ["--negate"]
  | j count => ["-j", toString count]
  | concurrency count => ["--concurrency", toString count]
  | concurrencyInline count => ["--concurrency=" ++ toString count]

def option : WrittenOption → OptionName
  | i | ignoreCase => .ignoreCase
  | multiline => .multiline
  | negate => .negate
  | j _ | concurrency _ | concurrencyInline _ => .concurrency

def count? : WrittenOption → Option Nat
  | i | ignoreCase | multiline | negate => none
  | j count | concurrency count | concurrencyInline count => some count

end WrittenOption


-- ---------------------------------------------------------------------------
-- Digits as arguments
-- ---------------------------------------------------------------------------

theorem head?_toString_ne_dash (n : Nat) : (toString n).toList.head? ≠ some '-' := by
  intro hdash
  have hdigit := Text.isDigit_of_mem_toString (List.mem_of_mem_head? hdash)
  exact absurd hdigit (by decide)

theorem looksLikeOption_toString (n : Nat) : looksLikeOption (toString n) = false := by
  have hhead := head?_toString_ne_dash n
  unfold looksLikeOption
  split
  · next heq =>
    rw [heq] at hhead
    simp at hhead
  · rfl

namespace Concurrency

theorem checkDigits_toString {n : Nat} (hpositive : 1 ≤ n) (hexact : n ≤ 2 ^ 53 - 1) :
    checkDigits (toString n) = .ok (.real n) :=
  checkDigits_eq_ok_iff.mpr ⟨_, n, .refl _, Text.isNumeral_toString n,
    checkNumber_ofNat.mpr ⟨hpositive, hexact, rfl⟩⟩

end Concurrency


-- ---------------------------------------------------------------------------
-- Options
-- ---------------------------------------------------------------------------

namespace OptionValues

variable (v : OptionValues)

/-- The values after some options were read. -/
def storeAll (written : List WrittenOption) : OptionValues :=
  written.foldl (fun v w => v.store (w.count?.map toString) w.option) v

/-- Whether an option was given. -/
def given (v : OptionValues) : OptionName → Bool
  | .ignoreCase => v.ignoreCase
  | .multiline => v.multiline
  | .negate => v.negate
  | .concurrency => v.concurrency.isSome

@[simp] theorem positionals_store (value : Option String) (o : OptionName) :
    (v.store value o).positionals = v.positionals := by
  cases o <;> rfl

/-- An option that is accepted is stored. -/
theorem exists_of_use_ok {v v' : OptionValues} {u : OptionUse} (h : v.use u = .ok v') :
    ∃ o, v' = v.store u.value o := by
  unfold use at h
  cases hoption : u.option with
  | none => simp [hoption] at h
  | some o =>
    refine ⟨o, ?_⟩
    rw [hoption] at h
    grind

theorem use_concurrency {u : OptionUse} {n : Nat} (hoption : u.option = some .concurrency)
    (hvalue : u.value = some (toString n)) :
    v.use u = .ok (v.store (some (toString n)) .concurrency) := by
  simp only [use, hoption, hvalue, OptionName.takesValue, decide_true, Option.isNone_some,
    Option.any_some, looksLikeOption_toString, Bool.not_true, Bool.false_and, Bool.and_false,
    Bool.false_eq_true, if_false]

theorem ofTokens_concurrency {u : OptionUse} {n : Nat} (hoption : u.option = some .concurrency)
    (hvalue : u.value = some (toString n)) (rest : List ArgumentToken) :
    v.ofTokens (.option u :: rest)
      = (v.store (some (toString n)) .concurrency).ofTokens rest := by
  rw [ofTokens, v.use_concurrency hoption hvalue]

/-- An option is read and stored, and what stands behind it is read as if it came first. -/
theorem ofTokens_written (w : WrittenOption) (rest : List (List Char)) :
    v.ofTokens (readArguments .open (w.arguments.map String.toList ++ rest)) =
      (v.store (w.count?.map toString) w.option).ofTokens (readArguments .open rest) := by
  cases w with
  | i => rfl
  | ignoreCase => rfl
  | multiline => rfl
  | negate => rfl
  | j count =>
    have hread : readArguments .open ((WrittenOption.j count).arguments.map String.toList ++ rest)
        = .option { OptionUse.short 'j' with value := some (String.ofList (toString count).toList) }
          :: readArguments .open rest := rfl
    rw [hread]
    exact v.ofTokens_concurrency rfl (congrArg some String.ofList_toList) _
  | concurrency count =>
    have hread : readArguments .open
          ((WrittenOption.concurrency count).arguments.map String.toList ++ rest)
        = .option
            { OptionUse.long OptionName.concurrency.long.toList with
              value := some (String.ofList (toString count).toList) }
          :: readArguments .open rest := rfl
    rw [hread]
    exact v.ofTokens_concurrency rfl (congrArg some String.ofList_toList) _
  | concurrencyInline count =>
    -- the name ends at the first equals sign, whatever stands behind it
    have hread : readArguments .open
          ((WrittenOption.concurrencyInline count).arguments.map String.toList ++ rest)
        = .option
            ((OptionUse.long OptionName.concurrency.long.toList).withInlineValue
              (toString count).toList)
          :: readArguments .open rest := by
      simp only [WrittenOption.arguments, List.map_singleton, String.toList_append]
      rfl
    rw [hread]
    exact v.ofTokens_concurrency rfl (congrArg some String.ofList_toList) _

theorem ofTokens_arguments (written : List WrittenOption) (rest : List (List Char)) :
    v.ofTokens (readArguments .open
        ((written.flatMap WrittenOption.arguments).map String.toList ++ rest)) =
      (v.storeAll written).ofTokens (readArguments .open rest) := by
  induction written generalizing v with
  | nil => rfl
  | cons w others ih =>
    rw [List.flatMap_cons, List.map_append, List.append_assoc, ofTokens_written, ih]
    rfl

theorem positionals_storeAll (written : List WrittenOption) :
    (v.storeAll written).positionals = v.positionals := by
  induction written generalizing v with
  | nil => rfl
  | cons w others ih =>
    exact (ih _).trans (v.positionals_store _ _)

/-- An option is there after the others exactly if it is one of them or was there before. -/
theorem given_storeAll (written : List WrittenOption) (o : OptionName) :
    (v.storeAll written).given o = (v.given o || written.any (·.option = o)) := by
  induction written generalizing v with
  | nil => simp [storeAll]
  | cons w others ih =>
    have hstore : (v.store (w.count?.map toString) w.option).given o
        = (v.given o || decide (w.option = o)) := by
      cases w <;> cases o <;> simp [store, given, WrittenOption.option, WrittenOption.count?]
    rw [List.any_cons, ← Bool.or_assoc, ← hstore]
    exact ih _

/-- If all of them give one number, that is the number in the end. -/
theorem concurrency_storeAll {written : List WrittenOption} {n : Nat}
    (hwritten : ∀ w ∈ written, ∀ k, w.count? = some k → k = n)
    (hv : v.concurrency = none ∨ v.concurrency = some (toString n)) :
    (v.storeAll written).concurrency = none ∨
      (v.storeAll written).concurrency = some (toString n) := by
  induction written generalizing v with
  | nil => exact hv
  | cons w others ih =>
    rw [List.forall_mem_cons] at hwritten
    refine ih _ hwritten.2 ?_
    cases w with
    | i | ignoreCase | multiline | negate => exact hv
    | j k | concurrency k | concurrencyInline k =>
      obtain rfl := hwritten.1 k rfl
      exact .inr rfl

/-- Reading further never drops a positional argument. -/
theorem positionals_prefix {tokens : List ArgumentToken} {v v' : OptionValues}
    (h : v.ofTokens tokens = .ok v') : v.positionals <+: v'.positionals := by
  induction tokens generalizing v with
  | nil =>
    cases h
    exact List.prefix_refl _
  | cons token rest ih =>
    cases token with
    | positional text => exact (List.prefix_append _ _).trans (ih h)
    | option u =>
      rw [ofTokens] at h
      cases huse : v.use u with
      | error e =>
        rw [huse] at h
        cases h
      | ok stored =>
        rw [huse] at h
        obtain ⟨o, rfl⟩ := exists_of_use_ok huse
        exact v.positionals_store u.value o ▸ ih h

end OptionValues


-- ---------------------------------------------------------------------------
-- Configurations
-- ---------------------------------------------------------------------------

namespace Config

/-- A switch as a positional argument. -/
def switchText (on : Bool) : String := if on then "1" else "0"

/-- A configuration with its number of slots as five positional arguments. -/
def positionalArguments (c : Config) (count : Nat) : List String :=
  [switchText c.caseInsensitive, switchText c.multiline, switchText c.negate, toString count,
    c.pattern]

/-- Options that say the same as the configuration: those switches are given that are on, and the
concurrency is what they give or, if they give none, the default. -/
structure WrittenAs (c : Config) (count : Nat) (default : Number) (written : List WrittenOption) :
    Prop where
  ignoreCase : written.any (·.option = .ignoreCase) = c.caseInsensitive
  multiline : written.any (·.option = .multiline) = c.multiline
  negate : written.any (·.option = .negate) = c.negate
  count_eq : ∀ w ∈ written, ∀ k, w.count? = some k → k = count
  default_eq : written.any (·.option = .concurrency) = false → default = c.concurrency

variable {c : Config} {count : Nat} {default : Number}

theorem checkSwitch_switchText (on : Bool) :
    (Value.text (switchText on)).checkSwitch = .ok on := by
  cases on <;> rfl

theorem isPositional_positionalArguments (c : Config) (count : Nat) :
    isPositional (c.positionalArguments count) = true := by
  have hswitch (on : Bool) : (switchText on).toList.head? ≠ some '-' := by
    cases on <;> decide
  simp only [isPositional, positionalArguments, List.take_succ_cons, List.take_zero, List.all_cons,
    List.all_nil, bne_iff_ne, Bool.and_eq_true, decide_eq_true_eq, List.length_cons, List.length_nil]
  exact ⟨trivial, hswitch _, hswitch _, hswitch _, head?_toString_ne_dash count, trivial⟩

/-- The dashes that end the options stand fourth of five, where a positional argument has none. -/
theorem not_isPositional (front : List String) (pattern : String) :
    isPositional (front ++ ["--", pattern]) = false := by
  by_cases hlength : front.length = 3
  · match front, hlength with
    | [a, b, d], _ => simp [isPositional]
  · simp [isPositional, hlength]

section

variable (hdigits : Concurrency.checkDigits (toString count) = .ok c.concurrency)
include hdigits

theorem ofPositional_positionalArguments : ofPositional (c.positionalArguments count) = .ok c := by
  have hcount : Concurrency.checkArgument (.text (toString count)) = .ok c.concurrency := hdigits
  have hchecked : checkPositional (.list ((c.positionalArguments count).map .text)) = .ok c := by
    simp only [positionalArguments, List.map_cons, List.map_nil, checkPositional, checkFive,
      checkSwitch_switchText, hcount]
    rfl
  rw [ofPositional, hchecked]

variable (hnumber : Concurrency.checkNumber c.concurrency = .ok c.concurrency)
  {written : List WrittenOption} (hwritten : c.WrittenAs count default written)
include hnumber hwritten

theorem ofOptions_written :
    ofOptions (written.flatMap WrittenOption.arguments ++ ["--", c.pattern]) default = .ok c := by
  let v : OptionValues := OptionValues.storeAll {} written
  have hread : OptionValues.ofArguments
        (written.flatMap WrittenOption.arguments ++ ["--", c.pattern]) =
      .ok { v with positionals := [c.pattern] } := by
    have hnone : v.positionals = [] := OptionValues.positionals_storeAll {} written
    have hrest : readArguments .open (["--", c.pattern].map String.toList)
        = [.positional (String.ofList c.pattern.toList)] := rfl
    rw [OptionValues.ofArguments, List.map_append, OptionValues.ofTokens_arguments, hrest,
      String.ofList_toList]
    change Except.ok { v with positionals := v.positionals ++ [c.pattern] } = _
    rw [hnone, List.nil_append]
  have hgiven (o : OptionName) : v.given o = written.any (·.option = o) := by
    rw [OptionValues.given_storeAll]
    cases o <;> rfl
  have hchosen : chosenConcurrency v.concurrency default = .ok c.concurrency := by
    rcases OptionValues.concurrency_storeAll {} hwritten.count_eq (.inl rfl) with hnone | hsome
    · have hdefault := hwritten.default_eq (by rw [← hgiven, OptionValues.given, hnone]; rfl)
      change v.concurrency = none at hnone
      rw [hnone, hdefault]
      rfl
    · change v.concurrency = some (toString count) at hsome
      rw [hsome]
      exact hdigits
  have hignore : v.ignoreCase = c.caseInsensitive := (hgiven .ignoreCase).trans hwritten.ignoreCase
  have hmultiline : v.multiline = c.multiline := (hgiven .multiline).trans hwritten.multiline
  have hnegate : v.negate = c.negate := (hgiven .negate).trans hwritten.negate
  simp only [ofOptions, hread, ofOptionValues, hchosen, hnumber, hignore, hmultiline, hnegate]
  rfl

end

theorem readArguments_positional {arg : List Char} (h : arg.head? ≠ some '-')
    (rest : List (List Char)) :
    readArguments .open (arg :: rest) =
      .positional (String.ofList arg) :: readArguments .open rest := by
  have hread : readArgument arg = ([.positional (String.ofList arg)], .open) := by
    unfold readArgument
    split <;> simp_all
  rw [readArguments, hread]
  rfl

/-- Of arguments in the positional form at least four are no options. -/
theorem ofOptions_positional {args : List String} (h : isPositional args) (default : Number) :
    ∃ failure, ofOptions args default = .error failure := by
  match args, h with
  | [a, b, d, e, last], h =>
    simp only [isPositional, List.take_succ_cons, List.take_zero, List.all_cons, List.all_nil,
      bne_iff_ne, Bool.and_eq_true] at h
    obtain ⟨-, ha, hb, hd, he, -⟩ := h
    rw [ofOptions]
    cases hvalues : OptionValues.ofArguments [a, b, d, e, last] with
    | error err => exact ⟨_, rfl⟩
    | ok v =>
      have hfour : [a, b, d, e] <+: v.positionals := by
        have htokens : OptionValues.ofTokens {}
            (readArguments .open ([a, b, d, e, last].map String.toList)) = .ok v := hvalues
        simp only [List.map_cons, readArguments_positional ha, readArguments_positional hb,
          readArguments_positional hd, readArguments_positional he, String.ofList_toList] at htokens
        exact OptionValues.positionals_prefix
          (v := { positionals := [a, b, d, e] }) htokens
      obtain ⟨more, hmore⟩ := hfour
      refine ⟨invalidInput
        ("Expected exactly one pattern argument, got " ++ toString v.positionals.length), ?_⟩
      simp only [ofOptionValues, ← hmore]
      rfl

/-- A configuration with an exact number of slots is read back from its five positional arguments,
and from options that say the same, in any order, with `--` and the pattern behind them. Arguments
of the positional form are refused as options. -/
theorem arguments_round_trip (c : Config) (count : Nat) (default : Number)
    (hconcurrency : c.concurrency = .real count) (hpositive : 1 ≤ count)
    (hexact : count ≤ 2 ^ 53 - 1) :
    ofArguments (c.positionalArguments count) default = .ok c ∧
      (∀ written, c.WrittenAs count default written →
        ofArguments (written.flatMap WrittenOption.arguments ++ ["--", c.pattern]) default
          = .ok c) ∧
      ∀ args, isPositional args → ∃ failure, ofOptions args default = .error failure := by
  have hdigits : Concurrency.checkDigits (toString count) = .ok c.concurrency :=
    hconcurrency ▸ Concurrency.checkDigits_toString hpositive hexact
  have hnumber : Concurrency.checkNumber c.concurrency = .ok c.concurrency :=
    hconcurrency ▸ Concurrency.checkNumber_natCast hpositive hexact
  refine ⟨?_, ?_, fun args hargs => ofOptions_positional hargs default⟩
  · rw [ofArguments, isPositional_positionalArguments, if_pos rfl]
    exact ofPositional_positionalArguments hdigits
  · intro written hwritten
    rw [ofArguments, not_isPositional, if_neg Bool.false_ne_true]
    exact ofOptions_written hdigits hnumber hwritten

/-- The pattern is the name of an option that is on. -/
def dashedPattern : Config where
  caseInsensitive := true
  multiline := false
  negate := true
  concurrency := .real (12 : Nat)
  pattern := "--negate"

theorem arguments_round_trip_dashed_pattern :
    dashedPattern.concurrency = .real (12 : Nat) ∧ 1 ≤ 12 ∧ 12 ≤ 2 ^ 53 - 1 ∧
      dashedPattern.WrittenAs 12 (.real 4) [.negate, .j 12, .i] ∧
      isPositional ["1", "0", "1", "12", "--negate"] ∧
      ofArguments ["1", "0", "1", "12", "--negate"] (.real 4) = .ok dashedPattern ∧
      ofArguments ["--negate", "-j", "12", "-i", "--", "--negate"] (.real 4) = .ok dashedPattern ∧
      ∃ failure, ofOptions ["1", "0", "1", "12", "--negate"] (.real 4) = .error failure := by
  have hwritten : dashedPattern.WrittenAs 12 (.real 4) [.negate, .j 12, .i] :=
    { ignoreCase := by decide
      multiline := by decide
      negate := by decide
      count_eq := by simp [WrittenOption.count?]
      default_eq := by decide }
  obtain ⟨hfive, hoptions, hrefused⟩ :=
    dashedPattern.arguments_round_trip 12 (.real 4) rfl (by decide) (by decide)
  have hpositional : dashedPattern.positionalArguments 12 = ["1", "0", "1", "12", "--negate"] := by
    decide
  have harguments : [.negate, .j 12, .i].flatMap WrittenOption.arguments
      = ["--negate", "-j", "12", "-i"] := by decide
  rw [hpositional] at hfive
  have hread := hoptions _ hwritten
  rw [harguments] at hread
  have hform : isPositional ["1", "0", "1", "12", "--negate"] := by decide
  exact ⟨rfl, by decide, by decide, hwritten, hform, hfive, hread, hrefused _ hform⟩

end Config

end FileSearch
