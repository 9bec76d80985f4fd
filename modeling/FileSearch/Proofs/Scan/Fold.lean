import FileSearch.Proofs.Scan.Delivery
import FileSearch.Proofs.Scan.Paths
import FileSearch.Proofs.Scan.Progress

/-!
# A run as a fold

With files that do not change and a stream that takes every write, a run comes to what a fold over
the paths comes to, one after the other: in whatever order the files are done, and however many at
once (`Scan.refines_fold`).
-/

namespace FileSearch

namespace ScanStage

variable {p : ScanPlan} {st st' : ScanStage}


-- ---------------------------------------------------------------------------
-- Paths
-- ---------------------------------------------------------------------------

/-- Every path that was taken is that of a result found, or of a task whose file is not done. -/
def Traced (p : ScanPlan) (st : ScanStage) : Prop :=
  (st.pulled.map fun path => (p.scan path).result).Perm
    (st.found ++ (unread st.pool).map fun path => (p.scan path).result)

theorem traced_iff : Traced p st ↔ st.Traces (fun path => (p.scan path).result) id := by
  simp [Traced, Traces]

theorem traced_of_moves (hlog : p.log.Reliable) (hmoves : Relation.ReflTransGen (Move p) st st')
    (hs : st.Sound) (h : Traced p st) : Traced p st' :=
  traced_iff.mpr (traces_of_moves hlog (fun _ => rfl) hmoves hs (traced_iff.mp h))


-- ---------------------------------------------------------------------------
-- Error lines
-- ---------------------------------------------------------------------------

/-- The error lines are those of the files that failed. -/
def Logged (st : ScanStage) : Prop :=
  st.logLines.filter LogLevel.error.marks
    = st.tally.failures.map fun failure => (ScanPlan.failureEntry failure).line

/-- The error lines that an entry leaves. -/
theorem filter_written (hlog : p.log.Reliable) (hadmits : p.log.threshold.admits .error)
    (e : LogEntry) :
    (p.log.written e).filter LogLevel.error.marks = if e.level = .error then [e.line] else [] := by
  rw [hlog.written_eq]
  by_cases hlevel : e.level = .error
  · simp [hlevel, hadmits, LogLevel.marks_line]
  · split <;> simp [hlevel, LogLevel.marks_line]

theorem Move.logged (hlog : p.log.Reliable) (hadmits : p.log.threshold.admits .error)
    (hmove : st.Move p st') (h : st.Logged) : st'.Logged := by
  cases hmove with
  | noted hlevel =>
    unfold Logged at h ⊢
    rw [List.filter_append, filter_written hlog hadmits, if_neg hlevel, List.append_nil]
    exact h
  | pulled => exact h
  | sourceEnded => exact h
  | sourceFailed => exact h
  | lost => exact h
  | @unreadable index path failure =>
    unfold Logged at h ⊢
    have hlevel : (ScanPlan.failureEntry failure).level = .error := rfl
    rw [List.filter_append, filter_written hlog hadmits, if_pos hlevel, h]
    simp [Tally.record]
  | handed => exact h
  | streamed => exact h
  | accepted => exact h
  | rejected => exact h
  | closed => exact h

theorem logged_of_moves (hlog : p.log.Reliable) (hadmits : p.log.threshold.admits .error)
    (hmoves : Relation.ReflTransGen (Move p) st st') (hs : st.Sound) (h : st.Logged) : st'.Logged :=
  preserved_of_moves Logged (fun hmove _ h => hmove.logged hlog hadmits h) hmoves hs h

end ScanStage


-- ---------------------------------------------------------------------------
-- Orderly runs
-- ---------------------------------------------------------------------------

/-- How often a source has come to its end. -/
def SourceState.ends : SourceState → Nat
  | .open => 0
  | .ended | .failed _ => 1

namespace Scan

variable {p : ScanPlan} {s s' : Scan} {b : ScanBooks} {all lines rest left : List PathLine}
  {e : ScanEvent} {events : List ScanEvent} {count : Nat} {result : Except Thrown Summary}

/-- A run that has taken so many events, with the lines it was given and those that are left. An event
takes a line, ends the list, finds a result or has a block acknowledged. -/
structure Orderly (p : ScanPlan) (all : List PathLine) (count : Nat) (s : Scan)
    (lines : List PathLine) (b : ScanBooks) : Prop where
  accounts : (s.stage b).Accounts p.toScanJob
  traced : ScanStage.Traced p (s.stage b)
  logged : p.log.threshold.admits .error → (s.stage b).Logged
  healthy : s.sink.Healthy
  taken : all.filterMap PathLine.path? = b.pulled ++ lines.filterMap PathLine.path?
  source : s.pool.source = .open ∨ s.pool.source = .ended ∧ lines = []
  count_le : count + lines.length
    ≤ all.length + s.pool.source.ends + b.found.length + b.ledger.acknowledged.length

theorem foundBy_scanned (hlog : p.log.Reliable) {index : Nat} {path : String}
    (htask : s.task? index = some { path }) :
    s.foundBy p (.scanned index) = some (index, (p.scan path).result) := by
  rw [foundBy_of_task htask, fileOutcome_reliable hlog]
  rfl

theorem acknowledged_of_mem_told (hnext : Occurs s lines e rest) {e' : StreamEvent}
    (h : .stream e' ∈ (s.told p e).sinkEvents) : e' = .acknowledged := by
  have hclosing : .stream e' ∉ (s.advance p e).closing := by
    unfold closing
    split
    · split <;> simp
    · simp
  have hpassed : .stream e' ∈ s.passedOn p e := (List.mem_append.mp h).resolve_right hclosing
  cases hnext with
  | line => cases hpassed
  | linesEnded => cases hpassed
  | @scanned _ index path htask =>
    unfold passedOn at hpassed
    split at hpassed <;> simp_all
  | acknowledged =>
    have honly : s.passedOn p (.stream .acknowledged) = [.stream .acknowledged] := rfl
    rw [honly] at hpassed
    simpa using hpassed

theorem length_acknowledged_lt (hs : (s.stage b).Sound) (hl : (s.stage b).Ledgered)
    (hbusy : s.sink.stream.outstanding) :
    b.ledger.acknowledged.length <
      (b.enter s.sink (s.told p (.stream .acknowledged))).ledger.acknowledged.length := by
  obtain ⟨block, more, hcons⟩ := List.exists_cons_of_ne_nil ((outstanding_iff hs).mp hbusy)
  have hopen : b.ledger.unanswered = [block.bytes] := by
    rw [unanswered_eq hl, hcons]
    rfl
  have hopening : s.sink.opening (.stream .acknowledged) = [.acknowledged] := by
    simp [Sink.opening, OutputStream.step, hbusy]
  let first := b.ledger.enter .acknowledged
  have hfirst : first.acknowledged = b.ledger.acknowledged ++ [block.bytes] := by
    simp [first, SinkLedger.enter, hopen]
  let event : SinkEvent ScanCaller := .stream .acknowledged
  let later := (s.sink.step event).2.delivered.map .passed
    ++ (s.sink.step event).2.answers.map .answered
    ++ (s.sink.step event).1.history (s.advance p (.stream .acknowledged)).closing
  have hhistory : s.sink.history (s.told p (.stream .acknowledged)).sinkEvents
      = .acknowledged :: later := by
    change s.sink.moments event ++ _ = _
    simp [Sink.moments, hopening, event, later]
  have hlater : (b.enter s.sink (s.told p (.stream .acknowledged))).ledger = first.enterAll later := by
    simp only [ScanBooks.enter, hhistory]
    rfl
  have hlength := (first.acknowledged_prefix later).length_le
  rw [hfirst, List.length_append, List.length_singleton] at hlength
  rw [hlater]
  omega

theorem taken_step (h : Orderly p all count s lines b) (hnext : Occurs s lines e rest) :
    all.filterMap PathLine.path?
      = (b.enter s.sink (s.told p e)).pulled ++ rest.filterMap PathLine.path? := by
  rw [h.taken]
  cases hnext with
  | @line line rest hasks =>
    cases line with
    | path path => simp [ScanBooks.enter, told, pulledBy, hasks, PathLine.path?]
    | blank => simp [ScanBooks.enter, told, pulledBy, PathLine.path?, List.filterMap_cons]
  | linesEnded => simp [ScanBooks.enter, told, pulledBy]
  | scanned => simp [ScanBooks.enter, told, pulledBy]
  | acknowledged => simp [ScanBooks.enter, told, pulledBy]

theorem count_step (hlog : p.log.Reliable) (h : Orderly p all count s lines b)
    (hrunning : s.phase = .running) (hnext : Occurs s lines e rest) :
    count + 1 + rest.length
      ≤ all.length + (s.step p e).pool.source.ends + (b.enter s.sink (s.told p e)).found.length
        + (b.enter s.sink (s.told p e)).ledger.acknowledged.length := by
  have hcount := h.count_le
  have hsource := source_step h.accounts.sound hrunning hlog hnext
  have hfound : (b.enter s.sink (s.told p e)).found.length
      = b.found.length + (s.told p e).found.length := List.length_append
  have hacknowledged : b.ledger.acknowledged.length
      ≤ (b.enter s.sink (s.told p e)).ledger.acknowledged.length :=
    (SinkLedger.acknowledged_prefix ..).length_le
  rw [hsource, hfound]
  cases hnext with
  | line =>
    simp only [List.length_cons, sourceAfter] at hcount ⊢
    omega
  | linesEnded hasks =>
    have hopen : s.pool.source.ends = 0 := by
      have hsource := (Pool.asks_iff.mp hasks).1
      cases hstate : s.pool.source with
      | «open» => rfl
      | ended => simp [hstate, SourceState.isOpen] at hsource
      | failed thrown => simp [hstate, SourceState.isOpen] at hsource
    have hended : (s.sourceAfter .linesEnded).ends = 1 := rfl
    omega
  | @scanned _ index path htask =>
    have hone : (s.told p (.scanned index)).found.length = 1 := by
      simp [told, foundBy_scanned hlog htask]
    simp only [sourceAfter]
    omega
  | acknowledged hbusy =>
    have hmore := length_acknowledged_lt (p := p) h.accounts.sound h.accounts.ledgered hbusy
    simp only [sourceAfter]
    omega

theorem Orderly.step (hlog : p.log.Reliable) (h : Orderly p all count s lines b)
    (hrunning : s.phase = .running) (hnext : Occurs s lines e rest) :
    Orderly p all (count + 1) (s.step p e) rest (b.enter s.sink (s.told p e)) := by
  obtain ⟨hchain, hsink, -⟩ := step_moves (p := p) h.accounts.sound hrunning e
  refine ⟨ScanStage.accounts_of_moves hchain h.accounts,
    ScanStage.traced_of_moves hlog hchain h.accounts.sound h.traced,
    fun hadmits =>
      ScanStage.logged_of_moves hlog hadmits hchain h.accounts.sound (h.logged hadmits), ?_,
    taken_step h hnext, ?_, count_step hlog h hrunning hnext⟩
  · rw [hsink]
    exact h.healthy.run fun e' he' => acknowledged_of_mem_told hnext he'
  · rw [source_step h.accounts.sound hrunning hlog hnext]
    cases hnext with
    | line hasks =>
      refine .inl (h.source.resolve_right ?_)
      simp
    | linesEnded => exact .inr ⟨rfl, rfl⟩
    | scanned => exact h.source
    | acknowledged => exact h.source

/-- Whatever order the events come in, the run stays orderly; it is still going on, or has ended. -/
theorem Reaches.orderly (hreach : Reaches p s lines events s' left) (hlog : p.log.Reliable)
    (h : Orderly p all count s lines b) (hrunning : s.phase = .running)
    (hsettled : s.pool.settled = false) :
    ∃ b', Orderly p all (count + events.length) s' left b' ∧
      ((s'.phase = .running ∧ s'.pool.settled = false) ∨
        ∃ result, s'.Ended p.toScanJob result) := by
  induction hreach generalizing count b with
  | here => exact ⟨b, h, .inl ⟨hrunning, hsettled⟩⟩
  | @next s s' lines rest left e events hopen hnext hlater ih =>
    have hstep := h.step hlog hrunning hnext
    obtain ⟨-, -, hcases⟩ := step_moves (p := p) h.accounts.sound hrunning e
    have hlength : count + (e :: events).length = count + 1 + events.length := by
      rw [List.length_cons]
      omega
    rw [hlength]
    rcases hcases with ⟨hphase, hpool⟩ | ⟨result, hended⟩
    · exact ih hstep hphase hpool
    · cases hlater with
      | here => exact ⟨_, hstep, .inr ⟨result, hended⟩⟩
      | next hopen' => cases hopen'.symm.trans (result?_eq_some.mpr hended.1)

/-- Every path is found at most once, and every result found is acknowledged at most once. -/
theorem Orderly.count_bound (h : Orderly p all count s lines b) : count ≤ 3 * all.length + 1 := by
  have hcount := h.count_le
  have hends : s.pool.source.ends ≤ 1 := by
    cases s.pool.source <;> simp [SourceState.ends]
  have hpaths : b.pulled.length ≤ all.length := by
    have htaken := congrArg List.length h.taken
    have hle : (all.filterMap PathLine.path?).length ≤ all.length := List.length_filterMap_le ..
    rw [List.length_append] at htaken
    omega
  have hfound : b.found.length ≤ b.pulled.length := by
    have htraced := h.traced.length_eq
    simp only [List.length_map, List.length_append] at htraced
    change b.pulled.length = b.found.length + _ at htraced
    omega
  have hacknowledged : b.ledger.acknowledged.length ≤ b.found.length := by
    have hall := offered_eq h.accounts.ledgered h.healthy.broken
    have hlength := congrArg List.length (hall.symm.trans (offered_found h.accounts.ledgered))
    have hle : ((b.found.map (·.block)).filter (!·.isEmpty)).length ≤ (b.found.map (·.block)).length :=
      List.length_filter_le ..
    rw [List.length_append] at hlength
    rw [List.length_map] at hle
    omega
  omega

/-- An orderly run ends well, and has found just what scanning the paths comes to. -/
theorem Orderly.ended (h : Orderly p all count s lines b) (hlog : p.log.Reliable)
    (hended : s.Ended p.toScanJob result) :
    s.pool.failures = [] ∧ (∃ summary, result = .ok summary) ∧
      b.found.Perm ((all.filterMap PathLine.path?).map fun path => (p.scan path).result) := by
  obtain ⟨-, hsettled, hverdict⟩ := hended
  have hfailures : s.pool.failures = [] := h.accounts.blamed.unbroken hlog h.healthy.broken
  cases hverdict with
  | unlogged hfault =>
    rw [hlog] at hfault
    cases hfault
  | sourceFailed hsource =>
    rcases h.source with hstate | ⟨hstate, -⟩
    · rw [hstate] at hsource
      cases hsource
    · rw [hstate] at hsource
      cases hsource
  | taskFailed hsource hcons =>
    rw [hfailures] at hcons
    cases hcons
  | summed hsource =>
    obtain rfl : lines = [] := by
      rcases h.source with hstate | ⟨-, hlines⟩
      · rw [hstate] at hsource
        cases hsource
      · exact hlines
    have htaken : all.filterMap PathLine.path? = b.pulled := by simpa using h.taken
    have hnone := ScanStage.unread_of_settled hsettled
    have htraced := h.traced
    change (b.pulled.map fun path => (p.scan path).result).Perm
      (b.found ++ (ScanStage.unread s.pool).map fun path => (p.scan path).result) at htraced
    rw [hnone, List.map_nil, List.append_nil] at htraced
    rw [htaken]
    exact ⟨hfailures, ⟨_, rfl⟩, htraced.symm⟩

/-- The summary and the output of an orderly run are those of its paths, taken in their order. -/
theorem Orderly.summary_delivered (h : Orderly p all count s lines b) (hlog : p.log.Reliable)
    {summary : Summary} (hended : s.Ended p.toScanJob (.ok summary)) :
    let results := (all.filterMap PathLine.path?).map fun path => (p.scan path).result
    summary = (Tally.of results).summary p.policy ∧
      s.delivered.Perm ((results.filter (·.isMatched)).map (·.block)) := by
  intro results
  obtain ⟨-, -, hfound⟩ := h.ended hlog hended
  obtain ⟨hsummary, hdelivered, -, -⟩ := summary_accounts h.accounts hended
  constructor
  · rw [hsummary]
    exact Tally.summary_of_perm hfound p.policy
  · rw [hdelivered]
    exact (hfound.filter _).map _

/-- The error lines of an orderly run are those of the paths whose files failed. -/
theorem Orderly.errorLines (h : Orderly p all count s lines b) (hlog : p.log.Reliable)
    (hadmits : p.log.threshold.admits .error) (hended : s.Ended p.toScanJob result) :
    let results := (all.filterMap PathLine.path?).map fun path => (p.scan path).result
    (s.logLines.filter LogLevel.error.marks).Perm
      ((results.filterMap (·.failure?)).map fun failure => (ScanPlan.failureEntry failure).line) := by
  intro results
  obtain ⟨hfailures, -, hfound⟩ := h.ended hlog hended
  obtain ⟨recorded, htally, hrecorded⟩ := tally_of_settled h.accounts hfailures hended.2.1
  have hlines : s.logLines.filter LogLevel.error.marks
      = s.tally.failures.map fun failure => (ScanPlan.failureEntry failure).line :=
    h.logged hadmits
  rw [hlines, htally, Tally.of_eq]
  exact ((hrecorded.trans hfound).filterMap _).map _

theorem ofConfig_ok {c : Config} {maxFileSize : Number} {policy : FileErrorPolicy}
    {diagnostics : Diagnostics} {log : Log} {job : ScanJob}
    (h : ScanJob.ofConfig c maxFileSize policy diagnostics log = .ok job) :
    job.concurrency = c.concurrency ∧ job.policy = policy ∧ job.log = log := by
  unfold ScanJob.ofConfig at h
  cases hmatcher : Matcher.compile c.pattern c.matchOptions with
  | error failure => simp [hmatcher] at h
  | ok matcher =>
    simp only [hmatcher, Except.ok.injEq] at h
    subst h
    exact ⟨rfl, rfl, rfl⟩

/-- A run begins with all lines before it. -/
theorem exists_start (hlog : p.log.Reliable) {n : Int} (hn : p.concurrency.toInt? = some n)
    (hpos : 1 ≤ n) (lines : List PathLine) :
    ∃ s₀, start p {} = .ok s₀ ∧ s₀.phase = .running ∧ s₀.pool.settled = false ∧
      Orderly p lines 0 s₀ lines {} := by
  let entry := ScanPlan.startEntry p.toScanJob
  let s₀ : Scan :=
    { pool := { limit := n.toNat }, sink := .fresh false false, logLines := p.log.written entry }
  refine ⟨s₀, start_new hlog hn hpos false false, rfl, rfl, new_accounts _ (by omega) false false _,
    List.Perm.refl _, ?_, ⟨rfl, rfl, rfl, rfl⟩, rfl, .inl rfl, ?_⟩
  · intro hadmits
    have hlevel : entry.level ≠ .error := by simp [entry, ScanPlan.startEntry, ScanPlan.entry]
    have hlines := ScanStage.filter_written hlog hadmits entry
    rw [if_neg hlevel] at hlines
    exact hlines
  · simp [s₀, SourceState.ends]

/-- Take any configuration with a pattern that compiles, any number of slots, any files and any list of
paths. The run starts; in whatever order it goes on, only so many events can come, and until it has a
result some event can come next. Its result is the summary of a fold over the paths, one after the
other; the stream got the reports that hold anything, each in one write; and the log, if it takes
errors, has one line for every path whose file failed. -/
theorem refines_fold {c : Config} {maxFileSize : Number} {policy : FileErrorPolicy}
    {diagnostics : Diagnostics} {threshold : LogThreshold} {job : ScanJob} {n : Int}
    (hjob : ScanJob.ofConfig c maxFileSize policy diagnostics { threshold } = .ok job)
    (hconcurrency : c.concurrency.toInt? = some n) (hpos : 1 ≤ n) (files : String → Opening)
    (lines : List PathLine) :
    let p : ScanPlan := { job with files }
    let paths := lines.filterMap PathLine.path?
    let results := paths.map fun path => (p.scan path).result
    ∃ s₀, start p {} = .ok s₀ ∧ ∀ events s left, Reaches p s₀ lines events s left →
      events.length ≤ 3 * lines.length + 1 ∧
      (s.result? = none → ∃ e rest, Occurs s left e rest) ∧
      ∀ result, s.result? = some result → ∃ summary : Summary, result = .ok summary ∧
        summary = (results.foldl Tally.record {}).summary policy ∧
        s.delivered.Perm ((results.map (·.block)).filter (!·.isEmpty)) ∧
        s.delivered.length = summary.filesMatched ∧
        summary.filesScanned + summary.filesFailed = paths.length ∧
        summary.filesMatched = results.countP (·.isMatched) ∧
        summary.filesFailed = results.countP (!·.isScanned) ∧
        summary.matched = decide (0 < summary.filesMatched) ∧
        summary.exitCode.toNat
          = (if results.any (·.isMatched) || (results.any (!·.isScanned) && policy = .fail) then 1
            else 0) ∧
        (threshold.admits .error →
          (s.logLines.filter LogLevel.error.marks).Perm
            ((results.filterMap (·.failure?)).map fun failure =>
              (ScanPlan.failureEntry failure).line)) := by
  intro p paths results
  obtain ⟨hnumber, hpolicy, hthreshold⟩ := ofConfig_ok hjob
  have hlog : p.log.Reliable := by
    change job.log.Reliable
    rw [hthreshold]
    exact Log.reliable_of_threshold threshold
  have hslots : p.concurrency.toInt? = some n := by
    change job.concurrency.toInt? = some n
    rw [hnumber]
    exact hconcurrency
  obtain ⟨s₀, hstart, hrunning, hsettled, horderly⟩ := exists_start hlog hslots hpos lines
  refine ⟨s₀, hstart, fun events s left hreach => ?_⟩
  obtain ⟨b, hb, hcases⟩ := hreach.orderly hlog horderly hrunning hsettled
  have hbound := hb.count_bound
  refine ⟨by omega, ?_, ?_⟩
  · intro hnone
    rcases hcases with ⟨-, hpool⟩ | ⟨result, hended⟩
    · exact exists_occurs hb.accounts.sound hpool left
    · cases hnone.symm.trans (result?_eq_some.mpr hended.1)
  · intro result hresult
    have hsettled := result?_eq_some.mp hresult
    obtain ⟨result', hended⟩ : ∃ result', s.Ended p.toScanJob result' := by
      refine hcases.resolve_left ?_
      rintro ⟨hphase, -⟩
      cases hphase.symm.trans hsettled
    cases hended.1.symm.trans hsettled
    obtain ⟨-, ⟨summary, rfl⟩, -⟩ := hb.ended hlog hended
    obtain ⟨hsummary, hdelivered⟩ := hb.summary_delivered hlog hended
    have hfold : summary = (Tally.of results).summary policy := hpolicy ▸ hsummary
    have hmatched : summary.filesMatched = results.countP (·.isMatched) := by
      rw [hfold, Tally.summary, Tally.of_eq]
    refine ⟨summary, rfl, hfold, ?_, ?_, ?_, hmatched, ?_, ?_, ?_, ?_⟩
    · have hhonest : ∀ r ∈ results, r.isMatched = !r.block.isEmpty := by
        intro r hr
        obtain ⟨path, -, rfl⟩ := List.mem_map.mp hr
        exact job.options.isMatched_scan path (files path)
      rw [FileResult.filter_block hhonest]
      exact hdelivered
    · rw [hdelivered.length_eq, List.length_map, hmatched, List.countP_eq_length_filter]
    · have hall := Tally.length_filterMap_failure? results
      simp only [hfold, Tally.summary, Tally.of_eq]
      rw [hall, List.length_map]
    · rw [hfold]
      exact Tally.length_failures_of results
    · rw [hfold]
      rfl
    · rw [hfold]
      exact Tally.exitCode_summary_of results policy
    · intro hadmits
      have hadmits' : p.log.threshold.admits .error := by
        change job.log.threshold.admits .error
        rw [hthreshold]
        exact hadmits
      exact hb.errorLines hlog hadmits' hended

theorem eq_ok_of_isSome {ε α : Type} {x : Except ε α} (h : x.toOption.isSome) (a : α) :
    x = .ok (x.toOption.getD a) := by
  cases x with
  | error e => simp [Except.toOption] at h
  | ok b => rfl

/-- Looks for the files without an `a`, two at a time. -/
def letterSearch : Config where
  caseInsensitive := false
  multiline := false
  negate := true
  concurrency := .real 2
  pattern := "a"

def letterJob : ScanJob :=
  (ScanJob.ofConfig letterSearch (.real 1) .fail { enabled := false, detail := .hidden }
    {}).toOption.getD reportAll

/-- There is one file; it is empty. -/
def emptyFile (path : String) : Opening :=
  if path = "g" then .ok { stat := .error (.value .absent), chunks := [], contents := .ok [] }
  else .error (.fault { message := "ENOENT" })

def letterScan (events : List ScanEvent) : Scan :=
  ((start { letterJob with files := emptyFile } {}).toOption.getD
      { pool := { limit := 0 }, sink := {} }).play letterJob
    (events.map fun event => { files := emptyFile, event })

/-- The second of two paths is done first, and the list ends before its report is written. -/
def letterEvents : List ScanEvent :=
  [.line (.path "f"), .line (.path "g"), .scanned 1, .scanned 0, .linesEnded, .stream .acknowledged]

theorem refines_fold_second_first :
    ∃ job s₀ s summary,
      ScanJob.ofConfig letterSearch (.real 1) .fail { enabled := false, detail := .hidden } {}
        = .ok job ∧
      start { job with files := emptyFile } {} = .ok s₀ ∧
      Reaches { job with files := emptyFile } s₀ [.path "f", .path "g"] letterEvents s [] ∧
      s.result? = some (.ok summary) ∧ summary.filesScanned + summary.filesFailed = 2 ∧
      s.delivered.length = summary.filesMatched := by
  have hjob : ScanJob.ofConfig letterSearch (.real 1) .fail { enabled := false, detail := .hidden } {}
      = .ok letterJob := eq_ok_of_isSome (by decide +kernel) reportAll
  obtain ⟨s₀, hstart, hruns⟩ :=
    refines_fold hjob (n := 2) rfl (by decide) emptyFile [.path "f", .path "g"]
  obtain rfl : letterScan [] = s₀ := by
    have hsame : start { letterJob with files := emptyFile } {} = .ok (letterScan []) :=
      eq_ok_of_isSome (by decide +kernel) { pool := { limit := 0 }, sink := {} }
    exact Except.ok.inj (hsame.symm.trans hstart)
  have hopen {s : Scan} (h : s.result?.isNone) : s.result? = none := Option.isNone_iff_eq_none.mp h
  have htask {s : Scan} {index : Nat} {path : String}
      (h : (s.task? index).any fun t => t.path = path && t.report.isNone) :
      s.task? index = some { path } := by
    cases hs : s.task? index with
    | none => simp [hs] at h
    | some t =>
      obtain ⟨path', report?⟩ := t
      simp_all
  have hsecond : (letterScan (letterEvents.take 2)).task? 1 = some { path := "g" } :=
    htask (by decide +kernel)
  have hfirst : (letterScan (letterEvents.take 3)).task? 0 = some { path := "f" } :=
    htask (by decide +kernel)
  have hreach : Reaches { letterJob with files := emptyFile } (letterScan [])
      [.path "f", .path "g"] letterEvents (letterScan letterEvents) [] :=
    .next (hopen (by decide +kernel)) (.line (by decide +kernel)) <|
    .next (hopen (by decide +kernel)) (.line (by decide +kernel)) <|
    .next (hopen (by decide +kernel)) (.scanned hsecond) <|
    .next (hopen (by decide +kernel)) (.scanned hfirst) <|
    .next (hopen (by decide +kernel)) (.linesEnded (by decide +kernel)) <|
    .next (hopen (by decide +kernel)) (.acknowledged (by decide +kernel)) .here
  obtain ⟨-, -, hresults⟩ := hruns _ _ _ hreach
  obtain ⟨result, hresult⟩ : ∃ result, (letterScan letterEvents).result? = some result :=
    Option.isSome_iff_exists.mp (by decide +kernel)
  obtain ⟨summary, rfl, -, -, hdelivered, hcount, -⟩ := hresults result hresult
  exact ⟨letterJob, _, _, summary, hjob, hstart, hreach, hresult, hcount, hdelivered⟩

end Scan

end FileSearch
