import FileSearch.Arguments

/-!
# Accepted and refused arguments

Whatever is wrong with the arguments and whichever check finds it, they are refused with the same
code. Arguments that are accepted ask for a number of slots in range, though the default that may
stand in for the option is checked no earlier than the arguments are.
-/

namespace FileSearch

namespace Concurrency

theorem checkNumber_ok {n m : Number} (h : checkNumber n = .ok m) :
    ∃ i, m.toInt? = some i ∧ 1 ≤ i ∧ i ≤ maxExact := by
  unfold checkNumber at h
  cases hn : n.toInt? with
  | none => simp [hn] at h
  | some i =>
    simp only [hn] at h
    split at h
    · cases h
    case isFalse hlarge =>
      split at h
      · cases h
      · split at h
        · cases h
        case isFalse hsmall =>
          cases h
          exact ⟨i, hn, by omega, by omega⟩

theorem checkDigits_ok {argument : String} {m : Number} (h : checkDigits argument = .ok m) :
    ∃ i, m.toInt? = some i ∧ 1 ≤ i ∧ i ≤ maxExact := by
  simp only [checkDigits] at h
  split at h
  · cases h
  · exact checkNumber_ok h

theorem checkArgument_ok {v : Value} {m : Number} (h : checkArgument v = .ok m) :
    ∃ i, m.toInt? = some i ∧ 1 ≤ i ∧ i ≤ maxExact := by
  unfold checkArgument at h
  split at h
  · cases h
  · exact checkDigits_ok h

end Concurrency

namespace Checked

theorem inside_eq_ok_iff {α : Type} {step : PathStep} {checked : Checked α} {a : α} :
    inside step checked = .ok a ↔ checked = .ok a := by
  cases checked <;> simp [inside]

end Checked

namespace Config

/-- A configuration is put together if and only if all its parts went through. -/
theorem combine_eq_ok_iff {caseInsensitive multiline negate : Checked Bool}
    {concurrency : Checked Number} {pattern : Checked String} {c : Config} :
    combine caseInsensitive multiline negate concurrency pattern = .ok c ↔
      caseInsensitive = .ok c.caseInsensitive ∧ multiline = .ok c.multiline ∧
        negate = .ok c.negate ∧ concurrency = .ok c.concurrency ∧ pattern = .ok c.pattern := by
  constructor
  · intro h
    unfold combine at h
    split at h
    · cases h
      exact ⟨rfl, rfl, rfl, rfl, rfl⟩
    · cases h
  · rintro ⟨rfl, rfl, rfl, rfl, rfl⟩
    rfl

theorem checkPositional_ok {v : Value} {c : Config} (h : checkPositional v = .ok c) :
    ∃ i, c.concurrency.toInt? = some i ∧ 1 ≤ i ∧ i ≤ Concurrency.maxExact := by
  unfold checkPositional at h
  split at h
  · obtain ⟨-, -, -, hconcurrency, -⟩ := combine_eq_ok_iff.mp h
    exact Concurrency.checkArgument_ok (Checked.inside_eq_ok_iff.mp hconcurrency)
  · cases h
  · cases h
  · cases h

theorem ofPositional_ok {args : List String} {c : Config} (h : ofPositional args = .ok c) :
    ∃ i, c.concurrency.toInt? = some i ∧ 1 ≤ i ∧ i ≤ Concurrency.maxExact := by
  unfold ofPositional at h
  split at h
  case h_1 hchecked =>
    cases h
    exact checkPositional_ok hchecked
  · cases h

/-- What options and one pattern are read as. -/
theorem ofOptionValues_eq_ok_iff {v : OptionValues} {default : Number} {c : Config} :
    ofOptionValues v default = .ok c ↔
      v.positionals = [c.pattern] ∧ c.caseInsensitive = v.ignoreCase ∧
        c.multiline = v.multiline ∧ c.negate = v.negate ∧
        ∃ n, chosenConcurrency v.concurrency default = .ok n ∧
          Concurrency.checkNumber n = .ok c.concurrency := by
  constructor
  · intro h
    unfold ofOptionValues at h
    split at h
    case h_2 => cases h
    case h_1 pattern hpattern =>
      split at h
      case h_1 => cases h
      case h_2 n hn =>
        split at h
        case h_2 => cases h
        case h_1 c' hcombined =>
          cases h
          obtain ⟨hcase, hmultiline, hnegate, hconcurrency, htext⟩ :=
            combine_eq_ok_iff.mp hcombined
          cases htext
          exact ⟨hpattern, (Except.ok.inj hcase).symm, (Except.ok.inj hmultiline).symm,
            (Except.ok.inj hnegate).symm, n, hn, Checked.inside_eq_ok_iff.mp hconcurrency⟩
  · rintro ⟨hpattern, hcase, hmultiline, hnegate, n, hn, hcheck⟩
    have hcombined : combine (.ok v.ignoreCase) (.ok v.multiline) (.ok v.negate)
        (Checked.inside (.field "concurrency") (Concurrency.checkNumber n)) (.ok c.pattern)
        = .ok c := by
      rw [combine_eq_ok_iff, hcheck, hcase, hmultiline, hnegate]
      exact ⟨rfl, rfl, rfl, rfl, rfl⟩
    simp only [ofOptionValues, hpattern, hn, hcombined]

theorem ofOptionValues_ok {v : OptionValues} {default : Number} {c : Config}
    (h : ofOptionValues v default = .ok c) :
    ∃ i, c.concurrency.toInt? = some i ∧ 1 ≤ i ∧ i ≤ Concurrency.maxExact := by
  obtain ⟨-, -, -, -, n, -, hcheck⟩ := ofOptionValues_eq_ok_iff.mp h
  exact Concurrency.checkNumber_ok hcheck

/-- Accepted arguments ask for a number of slots in range, whatever the default is. -/
theorem ofArguments_ok {args : List String} {default : Number} {c : Config}
    (h : ofArguments args default = .ok c) :
    ∃ i, c.concurrency.toInt? = some i ∧ 1 ≤ i ∧ i ≤ Concurrency.maxExact := by
  unfold ofArguments at h
  split at h
  · exact ofPositional_ok h
  · unfold ofOptions at h
    split at h
    · exact ofOptionValues_ok h
    · cases h

theorem ofOptionValues_error {v : OptionValues} {default : Number} {failure : Failure}
    (h : ofOptionValues v default = .error failure) : failure.code = .invalidInput := by
  unfold ofOptionValues at h
  split at h
  · split at h
    · cases h
      rfl
    · split at h
      · cases h
      · cases h
        rfl
  · cases h
    rfl

/-- Refused arguments have one code, in either form. -/
theorem ofArguments_error {args : List String} {default : Number} {failure : Failure}
    (h : ofArguments args default = .error failure) : failure.code = .invalidInput := by
  unfold ofArguments at h
  split at h
  · unfold ofPositional at h
    split at h
    · cases h
    · cases h
      rfl
  · unfold ofOptions at h
    split at h
    · exact ofOptionValues_error h
    · cases h
      rfl

end Config

end FileSearch
