import FileSearch.Proofs.Command
import FileSearch.Proofs.Concurrency
import FileSearch.Proofs.Positional
import FileSearch.Proofs.ReadFailure
import FileSearch.Proofs.Settings

/-!
# Limits

Whatever the environment says, the settings are in range. So the default number of slots is no reason
to refuse any arguments, and a file that is read as a whole is never given to the matcher unless it
fits into a single text of one character per byte (`Command.settings_protect`). The contents count
for this, not the size that was reported.
-/

namespace FileSearch


-- ---------------------------------------------------------------------------
-- Settings
-- ---------------------------------------------------------------------------

/-- An exact whole number between two bounds. -/
def Number.Between (low high : Nat) (x : Number) : Prop :=
  ∃ n : Nat, x = .real n ∧ low ≤ n ∧ n ≤ high

namespace RuntimeSettings

/-- Every setting is one that can be worked with. -/
structure InRange (s : RuntimeSettings) : Prop where
  maxFileSize : s.maxFileSize.Between 1 maxFileSizeCeiling
  defaultConcurrency : s.defaultConcurrency.Between 1 maxDefaultConcurrency
  logLevel : s.logLevel ∈ LogLevel.all
  fileErrorPolicy : s.fileErrorPolicy.name ∈ ["fail", "ignore"]
  diagnosticsDetail : s.diagnosticsDetail.toNat ≤ 2

theorem readNumber_between {env : Environment} {setting : Setting} {default : Number} {limit : Nat}
    (hlimit : limit < 2 ^ 53) (hdefault : default.Between 1 limit) :
    (readNumber env setting default 1 limit).1.Between 1 limit := by
  cases hset : valueOf? env setting with
  | none => simpa [readNumber, hset] using hdefault
  | some raw =>
    rcases readNumber_cases default hlimit hset with
      ⟨n, -, hlow, hhigh, hread⟩ | ⟨-, message, -, hread⟩
    · rw [hread]
      exact ⟨n, rfl, hlow, hhigh⟩
    · rw [hread]
      exact hdefault

theorem optimalParallelism_between (processors : Int) :
    (optimalParallelism (.real processors)).Between 1 32 := by
  have hone : Number.ofNat 1 = .real (1 : Nat) := Number.ofNat_of_lt (by decide)
  have hmany : Number.ofNat 32 = .real (32 : Nat) := Number.ofNat_of_lt (by decide)
  unfold optimalParallelism
  rw [hone, hmany]
  split
  · exact ⟨1, rfl, by decide, by decide⟩
  case isFalse hlow =>
    split
    · exact ⟨32, rfl, by decide, by decide⟩
    case isFalse hhigh =>
      simp only [Number.lt, decide_eq_true_eq] at hlow hhigh
      have hlow : 1 ≤ processors := by exact_mod_cast not_lt.mp hlow
      have hhigh : processors ≤ 32 := by exact_mod_cast not_lt.mp hhigh
      obtain ⟨n, rfl⟩ := Int.eq_ofNat_of_zero_le (by omega : 0 ≤ processors)
      exact ⟨n, by simp, by omega, by omega⟩

theorem load_inRange (env : Environment) (processors : Int) :
    (load env (.real processors)).1.InRange where
  maxFileSize := by
    refine readNumber_between (by decide) ⟨_, Number.ofNat_of_lt ?_, ?_, ?_⟩ <;> decide
  defaultConcurrency := by
    obtain ⟨n, hn, hlow, hhigh⟩ := optimalParallelism_between processors
    have hwide : n ≤ maxDefaultConcurrency := hhigh.trans (by decide)
    exact readNumber_between (by decide) ⟨n, hn, hlow, hwide⟩
  logLevel := by
    cases (load env (.real processors)).1.logLevel <;> decide
  fileErrorPolicy := by
    cases (load env (.real processors)).1.fileErrorPolicy <;> decide
  diagnosticsDetail := by
    cases (load env (.real processors)).1.diagnosticsDetail <;> decide

end RuntimeSettings


-- ---------------------------------------------------------------------------
-- The default number of slots
-- ---------------------------------------------------------------------------

namespace Config

variable {args : List String} {default other : Number} {c : Config}

/-- A default in range takes the place of any other: the arguments give the same configuration, or
the same but for the number of slots, which is the default then. -/
theorem ofArguments_default (hdefault : Concurrency.checkNumber default = .ok default)
    (h : ofArguments args other = .ok c) :
    ofArguments args default = .ok c ∨
      ofArguments args default = .ok { c with concurrency := default } := by
  unfold ofArguments at h ⊢
  split at h
  case isTrue hpositional =>
    rw [if_pos hpositional]
    exact .inl h
  case isFalse hoptions =>
    rw [if_neg hoptions]
    unfold ofOptions at h ⊢
    cases hvalues : OptionValues.ofArguments args with
    | error e =>
      rw [hvalues] at h
      cases h
    | ok v =>
      rw [hvalues] at h
      obtain ⟨hpattern, hcase, hmultiline, hnegate, n, hn, hcheck⟩ :=
        ofOptionValues_eq_ok_iff.mp h
      cases hgiven : v.concurrency with
      | none =>
        refine .inr (ofOptionValues_eq_ok_iff.mpr
          ⟨hpattern, hcase, hmultiline, hnegate, default, ?_, hdefault⟩)
        rw [hgiven]
        rfl
      | some argument =>
        refine .inl (ofOptionValues_eq_ok_iff.mpr
          ⟨hpattern, hcase, hmultiline, hnegate, n, ?_, hcheck⟩)
        rw [hgiven] at hn ⊢
        exact hn

end Config


-- ---------------------------------------------------------------------------
-- Files read as a whole
-- ---------------------------------------------------------------------------

/-- A text of one character per byte has one unit for each. -/
theorem unitCount_byteView (bytes : Bytes) : Text.unitCount (byteView bytes) = bytes.length := by
  have hone (b : UInt8) : Text.unitsOf (Char.ofNat b.toNat) = [b.toNat] := by
    have hsmall : b.toNat ≤ 0xFFFF := by
      have := b.toNat_lt
      omega
    simp only [Text.unitsOf, toNat_ofNat_byte, hsmall, if_true]
  rw [Text.unitCount, Text.units, byteView, List.flatMap_map]
  simp [hone]

namespace ScanOptions

variable {o : ScanOptions} {limit : Nat} {path : String} {opening : Opening} {file : OpenFile}
  {stat : FileStat} {bytes : Bytes} {thrown : Thrown}

/-- What fits into the limit is given to the matcher, and nothing else it would say counts. What is
larger is refused, unread if that can be told beforehand. -/
structure KeepsTo (o : ScanOptions) (limit : Nat) (path : String) : Prop where
  tested : ∀ opening, ∀ haystack ∈ (o.loop path opening).tested, haystack.length ≤ limit ∧
    Text.unitCount (byteView haystack) ≤ RuntimeSettings.maxFileSizeCeiling
  untested : ∀ (opening : Opening) (m : Matcher),
    (∀ b : Bytes, b.length ≤ limit → m.search b = o.matcher.search b ∧
      m.test b = o.matcher.test b) →
    ({ o with matcher := m }.scan path opening).result = (o.scan path opening).result
  accepted : ∀ (file : OpenFile) (stat : FileStat) (bytes : Bytes), file.stat = .ok stat →
    stat.isDirectory = false → o.maxFileSize.lt stat.size = false → file.contents = .ok bytes →
    bytes.length ≤ limit → (o.loop path (.ok file)).tested = [bytes] ∧
      (o.scan path (.ok file)).result
        = .scanned path (Report.ofContent o.mode.negated o.matcher path bytes)
  refused : ∀ (file : OpenFile) (stat : FileStat), file.stat = .ok stat →
    stat.isDirectory = false →
    (o.maxFileSize.lt stat.size = true ∨
      ∃ bytes, file.contents = .ok bytes ∧ limit < bytes.length) →
    ∃ failure, (o.scan path (.ok file)).result = .failed path failure ∧
      failure.code = .tooLarge ∧ failure.path = some path
  unread : ∀ (file : OpenFile) (stat : FileStat), file.stat = .ok stat →
    o.maxFileSize.lt stat.size = true → (file.readLimited o.maxFileSize path).reads = 0

/-- What has been read is no longer than the limit, whatever the size was said to be. -/
theorem length_le_of_readLimited (hlimit : limit < 2 ^ 53)
    (h : (file.readLimited (.real limit) path).outcome = .ok bytes) : bytes.length ≤ limit := by
  unfold OpenFile.readLimited at h
  split at h
  · cases h
  · split at h
    · cases h
    · split at h
      · cases h
      · split at h
        · cases h
        case h_2 contents hcontents =>
          simp only at h
          split at h
          · cases h
          case isFalse hsmall =>
            cases h
            rw [Number.real_lt_ofNat_iff hlimit] at hsmall
            exact not_lt.mp hsmall

/-- Contents that fit are read, unless the size that was reported does not. -/
theorem readLimited_of_fits (hlimit : limit < 2 ^ 53) (hstat : file.stat = .ok stat)
    (hregular : stat.isDirectory = false) (hsize : (Number.real limit).lt stat.size = false)
    (hcontents : file.contents = .ok bytes) (hfits : bytes.length ≤ limit) :
    file.readLimited (.real limit) path = { outcome := .ok bytes, reads := 1 } := by
  have hsmall : (Number.real limit).lt (.ofNat bytes.length) = false := by
    rw [← Bool.not_eq_true, Number.real_lt_ofNat_iff hlimit]
    exact not_lt.mpr hfits
  simp [OpenFile.readLimited, hstat, hregular, hsize, hcontents, hsmall]

theorem mem_tested_iff (hmode : o.mode.readsLines = false) {haystack : Bytes} :
    haystack ∈ (o.loop path opening).tested ↔ ∃ file, opening = .ok file ∧
      (file.readLimited o.maxFileSize path).outcome = .ok haystack := by
  cases opening with
  | error thrown => simp [loop]
  | ok file =>
    simp only [loop, hmode, Bool.false_eq_true, if_false]
    cases hread : (file.readLimited o.maxFileSize path).outcome with
    | error thrown => simp [hread]
    | ok content => simp [hread, eq_comm]

/-- A scan of a whole file that meets an error fails with it. -/
theorem result_of_meets (hmode : o.mode.readsLines = false) (h : o.Meets path opening thrown) :
    (o.scan path opening).result = .failed path (thrown.toFileFailure path) := by
  have hended : o.endedBefore opening = [] := by
    cases opening <;> simp [endedBefore, hmode]
  rw [result_scan_eq_loop, h.stopsAt.failed (not_settles hended)]
  rfl

theorem ofContent_congr {m m' : Matcher} {content : Bytes}
    (h : m'.search content = m.search content ∧ m'.test content = m.test content)
    (negated : Bool) :
    Report.ofContent negated m' path content = Report.ofContent negated m path content := by
  simp only [Report.ofContent, Report.wholeFile, Report.wholeFileNegated, h.1, h.2]

theorem keepsTo (hmode : o.mode.readsLines = false) (hmax : o.maxFileSize = .real limit)
    (hceiling : limit ≤ RuntimeSettings.maxFileSizeCeiling) (path : String) :
    o.KeepsTo limit path := by
  have hlimit : limit < 2 ^ 53 := hceiling.trans_lt (by decide)
  have hlength {file : OpenFile} {content : Bytes}
      (hread : (file.readLimited o.maxFileSize path).outcome = .ok content) :
      content.length ≤ limit :=
    length_le_of_readLimited hlimit (hmax ▸ hread)
  refine ⟨fun opening haystack htested => ?_, fun opening m hm => ?_,
    fun file stat bytes hstat hregular hsize hcontents hfits => ?_,
    fun file stat hstat hregular hlarge => ?_, fun file stat hstat hlarge => ?_⟩
  · obtain ⟨file, -, hread⟩ := (mem_tested_iff hmode).mp htested
    rw [unitCount_byteView]
    exact ⟨hlength hread, (hlength hread).trans hceiling⟩
  · rw [result_scan_eq_loop, result_scan_eq_loop]
    cases opening with
    | error thrown => rfl
    | ok file =>
      simp only [loop, hmode, Bool.false_eq_true, if_false]
      cases hread : (file.readLimited o.maxFileSize path).outcome with
      | error thrown => rfl
      | ok content => simp only [ofContent_congr (hm content (hlength hread))]
  · rw [hmax] at hsize
    have hread : file.readLimited (.real limit) path = { outcome := .ok bytes, reads := 1 } :=
      readLimited_of_fits hlimit hstat hregular hsize hcontents hfits
    rw [result_scan_eq_loop]
    simp [loop, hmode, hmax, hread, resultOf]
  · cases hsize : o.maxFileSize.lt stat.size with
    | true =>
      exact ⟨_, result_of_meets hmode (.size hmode hstat hregular hsize), rfl, rfl⟩
    | false =>
      obtain ⟨bytes, hcontents, hlong⟩ := hlarge.resolve_left (by simp [hsize])
      have hgrown : o.maxFileSize.lt (.ofNat bytes.length) = true := by
        rw [hmax, Number.real_lt_ofNat_iff hlimit]
        exact hlong
      exact ⟨_, result_of_meets hmode (.grown hmode hstat hregular hsize hcontents hgrown), rfl,
        rfl⟩
  · simp only [OpenFile.readLimited, hstat, hlarge, if_true]
    split <;> rfl

end ScanOptions


-- ---------------------------------------------------------------------------
-- The command
-- ---------------------------------------------------------------------------

namespace Command

open RuntimeSettings

theorem maxFileSize_of_ofInvocation {i : Invocation} {c : Command} (h : ofInvocation i = .ok c) :
    c.job.options.maxFileSize = (settings i).maxFileSize := by
  simp only [ofInvocation] at h
  split at h
  · cases h
  · split at h
    · cases h
    case h_2 job hjob =>
      cases h
      obtain ⟨m, -, hoptions⟩ := ScanJob.options_of_ofConfig hjob
      rw [hoptions]
      rfl

/-- On every machine and in every environment the settings are in range. Arguments that are accepted
with any default number of slots are accepted with the one that was set, which at most takes the
place of the other. The limit for files is the one the scans of the command have; under it, a scan of
whole files keeps to it for every path, whatever is found there and whatever size it is said to
have. -/
theorem settings_protect (arguments : List String) (environment : Environment)
    (processors : Int) :
    let i : Invocation := { arguments, environment, processors := .real processors }
    let s := settings i
    s.InRange ∧
    (∀ other c, Config.ofArguments arguments other = .ok c →
      Config.ofArguments arguments s.defaultConcurrency = .ok c ∨
      Config.ofArguments arguments s.defaultConcurrency
        = .ok { c with concurrency := s.defaultConcurrency }) ∧
    (∀ command, ofInvocation i = .ok command →
      command.job.options.maxFileSize = s.maxFileSize) ∧
    ∀ (limit : Nat) (o : ScanOptions), s.maxFileSize = .real limit →
      o.maxFileSize = s.maxFileSize → o.mode.readsLines = false → ∀ path, o.KeepsTo limit path := by
  intro i s
  have hrange : s.InRange := load_inRange environment processors
  refine ⟨hrange, fun other c h => ?_, fun command h => maxFileSize_of_ofInvocation h,
    fun limit o hlimit hmax hmode path => ?_⟩
  · obtain ⟨n, hn, hlow, hhigh⟩ := hrange.defaultConcurrency
    refine Config.ofArguments_default ?_ h
    rw [hn]
    exact Concurrency.checkNumber_natCast hlow (hhigh.trans (by decide))
  · obtain ⟨n, hn, -, hhigh⟩ := hrange.maxFileSize
    obtain rfl : n = limit := by simpa [hn] using hlimit
    exact ScanOptions.keepsTo hmode (hmax.trans hlimit) hhigh path

/-- A file of four bytes that is said to be empty. -/
def grownFile : OpenFile where
  stat := .ok { size := .real 0 }
  chunks := []
  contents := .ok [0x61, 0x62, 0x63, 0x64]

/-- Searches whole files of at most three bytes; everything matches. -/
def atMostThree : ScanOptions where
  matcher := .ofSearch "" "" fun _ => some { start := 0, stop := 0 }
  mode := .wholeFile
  maxFileSize := .real (3 : Nat)

theorem settings_protect_grown_file :
    let i : Invocation :=
      { arguments := ["--multiline", "b"], environment := setTo .maxFileSize "3",
        processors := .real 64 }
    (∃ c, Config.ofArguments i.arguments (settings i).defaultConcurrency = .ok c) ∧
    ∃ failure, (atMostThree.scan "f" (.ok grownFile)).result = .failed "f" failure ∧
      failure.code = .tooLarge ∧ failure.path = some "f" := by
  intro i
  obtain ⟨-, hdefault, -, hkeeps⟩ :=
    settings_protect ["--multiline", "b"] (setTo .maxFileSize "3") 64
  have hone : Config.ofArguments i.arguments (.real 1) = .ok
      { caseInsensitive := false, multiline := true, negate := false, concurrency := .real 1,
        pattern := "b" } := by
    rfl
  have hmax : (settings i).maxFileSize = .real (3 : Nat) := by decide +kernel
  constructor
  · rcases hdefault _ _ hone with h | h
    · exact ⟨_, h⟩
    · exact ⟨_, h⟩
  · exact (hkeeps 3 atMostThree hmax hmax.symm rfl "f").refused grownFile _ rfl rfl
      (.inr ⟨_, rfl, by decide⟩)

end Command

end FileSearch
