import FileSearch.Proofs.Diagnostics.Outline
import FileSearch.Proofs.Scan.Accounts

/-!
# Secrecy

With paths hidden, what is published tells the outcomes and nothing else. Two runs that meet the same
events, except for the paths that are listed, and whose files come to the same ends publish the same.
The runs go in step all the time: their pools differ in paths and reports, and their sinks in the
bytes of blocks, but on these depends neither what is started and ended nor when.
-/

namespace FileSearch

namespace Diagnostics

variable {d : Diagnostics} (hhidden : d.detail = .hidden)

include hhidden

theorem started_hidden (path path' : String) : d.started path = d.started path' := by
  simp [started, PathDetail.show?, hhidden]

theorem finished_hidden (path path' : String) {outcome outcome' : Except Thrown FileResult}
    (hending : FileEnding.of outcome = .of outcome') :
    d.finished path outcome = d.finished path' outcome' := by
  simp [finished, PathDetail.show?, hhidden, hending]

theorem flatMap_started_hidden {tasks tasks' : List (Nat × ScanTask)}
    (hlength : tasks.length = tasks'.length) :
    (tasks.flatMap fun t => d.started t.2.path) = tasks'.flatMap fun t => d.started t.2.path := by
  have hall (tasks : List (Nat × ScanTask)) : (tasks.flatMap fun t => d.started t.2.path)
      = (List.replicate tasks.length (d.started "")).flatten := by
    induction tasks with
    | nil => rfl
    | cons t rest ih =>
      rw [List.flatMap_cons, ih, started_hidden hhidden t.2.path ""]
      rfl
  rw [hall, hall, hlength]

end Diagnostics

/-- What is left of a task without path and report: whether it has a report, and of a match. -/
def ScanTask.sketch (task : ScanTask) : Option Bool := task.report.map (·.matched)

/-- The event without the path that is listed. -/
def ScanEvent.unnamed : ScanEvent → ScanEvent
  | .line (.path _) => .line (.path "")
  | e => e

namespace ScanEvent

theorem exists_of_unnamed_path {e : ScanEvent} {path : String}
    (h : (ScanEvent.line (.path path)).unnamed = e.unnamed) : ∃ path', e = .line (.path path') := by
  match e with
  | .line (.path path') => exact ⟨path', rfl⟩
  | .line .blank | .linesEnded | .linesFailed _ | .scanned _ | .stream _ => cases h

/-- Without a path the events are the same. -/
theorem eq_of_unnamed {e e' : ScanEvent} (h : e.unnamed = e'.unnamed)
    (hpath : ∀ path, e ≠ .line (.path path)) : e = e' := by
  match e, e' with
  | .line (.path path), _ => exact absurd rfl (hpath path)
  | .line .blank, .line .blank => rfl
  | .linesEnded, .linesEnded => rfl
  | .linesFailed _, .linesFailed _ => exact h
  | .scanned _, .scanned _ => exact h
  | .stream _, .stream _ => exact h

end ScanEvent

/-- How the work on a file ended, as events tell it. -/
def TaskFinding.ending (f : TaskFinding) : FileEnding := .of f.outcome

namespace FileEnding

variable {outcome outcome' : Except Thrown FileResult}

/-- A file that has been scanned ends as no other does. -/
theorem exists_of_scanned {path : String} {report : Report}
    (h : FileEnding.of (.ok (.scanned path report)) = .of outcome) :
    ∃ path' report', outcome = .ok (.scanned path' report') ∧ report.matched = report'.matched := by
  match outcome with
  | .ok (.scanned path' report') => exact ⟨path', report', rfl, FileEnding.scanned.inj h⟩
  | .ok (.failed path' failure) => cases h
  | .error thrown => cases h

end FileEnding

namespace Scan

variable {job : ScanJob} {p q : ScanPlan} {s t : Scan}

/-- A report holds something exactly if it is of a match. -/
theorem isEmpty_block {path r : String} {report : Report}
    (houtcome : s.fileOutcome p path = .ok (.scanned r report)) :
    report.block.isEmpty = !report.matched := by
  have hresult : (p.scan path).result = .scanned r report := result_of_fileOutcome houtcome
  have hhonest : (p.scan path).result.isMatched = !(p.scan path).result.block.isEmpty :=
    p.options.isMatched_scan path (p.files path)
  rw [hresult] at hhonest
  have hmatched : report.matched = !report.block.isEmpty := hhonest
  simp [hmatched]

/-- Two running scans that cannot be told apart without paths and contents. -/
structure Alike (s t : Scan) : Prop where
  pool : s.pool.outline ScanTask.sketch = t.pool.outline ScanTask.sketch
  sink : s.sink.hollow = t.sink.hollow
  events : s.events = t.events
  running : s.phase = .running ∧ t.phase = .running

namespace Alike

theorem refl (hrunning : s.phase = .running) : s.Alike s := ⟨rfl, rfl, rfl, hrunning, hrunning⟩

/-- Both have a task or none has, and if one has a report so has the other. -/
theorem task_cases (h : s.Alike t) (index : Nat) :
    (s.task? index = none ∧ t.task? index = none) ∨
      (∃ path path', s.task? index = some { path } ∧ t.task? index = some { path := path' }) ∨
      ∃ path path' report report', report.matched = report'.matched ∧
        s.task? index = some { path, report := some report } ∧
        t.task? index = some { path := path', report := some report' } := by
  have htask : (s.task? index).map ScanTask.sketch = (t.task? index).map ScanTask.sketch := by
    simp only [task?, ← Pool.lookup_outline, h.pool]
  cases hs : s.task? index with
  | none =>
    cases ht : t.task? index with
    | none => exact .inl ⟨rfl, rfl⟩
    | some task' => simp [hs, ht] at htask
  | some task =>
    cases ht : t.task? index with
    | none => simp [hs, ht] at htask
    | some task' =>
      obtain ⟨path, report?⟩ := task
      obtain ⟨path', report?'⟩ := task'
      simp only [hs, ht, Option.map_some, Option.some.injEq, ScanTask.sketch] at htask
      cases report? with
      | none =>
        cases report?' with
        | none => exact .inr (.inl ⟨path, path', rfl, rfl⟩)
        | some report' => simp at htask
      | some report =>
        cases report?' with
        | none => simp at htask
        | some report' =>
          have hmatched : report.matched = report'.matched := by simpa using htask
          exact .inr (.inr ⟨path, path', report, report', hmatched, rfl, rfl⟩)

theorem asks (h : s.Alike t) : s.pool.asks = t.pool.asks := by
  rw [← Pool.asks_outline ScanTask.sketch, h.pool, Pool.asks_outline]

theorem settled (h : s.Alike t) : s.pool.settled = t.pool.settled := by
  rw [← Pool.settled_outline ScanTask.sketch, h.pool, Pool.settled_outline]

/-- Log lines are not looked at. -/
theorem logged (h : s.Alike t) (lines lines' : List String) :
    { s with logLines := lines }.Alike { t with logLines := lines' } :=
  ⟨h.pool, h.sink, h.events, h.running⟩

variable (hp : p.toScanJob = job) (hq : q.toScanJob = job)
  (hhidden : job.diagnostics.detail = .hidden)

include hp hq hhidden

theorem takeUp (h : s.Alike t) {e e' : PoolEvent ScanTask}
    (he : e.outline ScanTask.sketch = e'.outline ScanTask.sketch) :
    (s.takeUp p (s.pool.step e)).Alike (t.takeUp q (t.pool.step e')) := by
  obtain ⟨hpool, hlength⟩ := Pool.step_congr h.pool he
  have hdiagnostics : p.diagnostics = q.diagnostics := by rw [hp, hq]
  refine ⟨hpool, h.sink, ?_, h.running⟩
  simp only [Scan.takeUp, h.events, hdiagnostics]
  rw [Diagnostics.flatMap_started_hidden (by rw [hq]; exact hhidden) hlength]

theorem finishTask (h : s.Alike t) (index : Nat) (path path' : String)
    {outcome outcome' : Except Thrown FileResult} (hending : FileEnding.of outcome = .of outcome') :
    (s.finishTask p index path outcome).Alike (t.finishTask q index path' outcome') := by
  have hdiagnostics : p.diagnostics = q.diagnostics := by rw [hp, hq]
  have hdetail : q.diagnostics.detail = .hidden := by rw [hq]; exact hhidden
  obtain ⟨hpool, hevents⟩ := finishTask_eq p s index path outcome
  obtain ⟨hpool', hevents'⟩ := finishTask_eq q t index path' outcome'
  obtain ⟨hsink, hphase⟩ := finishTask_frame (p := p) s index path outcome
  obtain ⟨hsink', hphase'⟩ := finishTask_frame (p := q) t index path' outcome'
  have hfinished : PoolEvent.outline ScanTask.sketch (.finished index (ScanTask.fault? p.log outcome))
      = PoolEvent.outline ScanTask.sketch (.finished index (ScanTask.fault? q.log outcome')) := rfl
  obtain ⟨hnext, hlength⟩ := Pool.step_congr h.pool hfinished
  refine ⟨?_, ?_, ?_, hphase.trans h.running.1, hphase'.trans h.running.2⟩
  · rw [hpool, hpool']
    exact hnext
  · rw [hsink, hsink']
    exact h.sink
  · rw [hevents, hevents', h.events, hdiagnostics,
      Diagnostics.finished_hidden hdetail path path' hending,
      Diagnostics.flatMap_started_hidden hdetail hlength]

theorem receive (h : s.Alike t) (a : SinkAnswer ScanCaller) :
    (s.receive p a).Alike (t.receive q a) := by
  unfold Scan.receive
  cases a.call.caller with
  | run => simpa [sinkClosed, h.running.1, h.running.2] using h
  | task index =>
    rcases h.task_cases index with ⟨hs, ht⟩ | ⟨path, path', hs, ht⟩ |
      ⟨path, path', report, report', hmatched, hs, ht⟩
    · simpa [hs, ht] using h
    · simpa [hs, ht] using h
    · simp only [hs, ht]
      refine h.finishTask hp hq hhidden index path path' ?_
      cases a.outcome with
      | ok _ => simp [FileEnding.of, hmatched]
      | error failure => rfl

theorem receiveAll (h : s.Alike t) (answers : List (SinkAnswer ScanCaller)) :
    (answers.foldl (Scan.receive p) s).Alike (answers.foldl (Scan.receive q) t) := by
  induction answers generalizing s t with
  | nil => exact h
  | cons a rest ih => exact ih (h.receive hp hq hhidden a)

theorem absorb (h : s.Alike t) {next next' : Sink ScanCaller × SinkOutput ScanCaller}
    (hnext : Sink.gist next = Sink.gist next') : (s.absorb p next).Alike (t.absorb q next') := by
  obtain ⟨hsink, hanswers⟩ := Prod.mk.inj hnext
  have htaken : { s with sink := next.1, delivered := s.delivered ++ next.2.delivered }.Alike
      { t with sink := next'.1, delivered := t.delivered ++ next'.2.delivered } :=
    ⟨h.pool, hsink, h.events, h.running⟩
  unfold Scan.absorb
  rw [hanswers]
  exact htaken.receiveAll hp hq hhidden _

theorem failSource (h : s.Alike t) (reason : Reason) :
    (s.failSource p reason).Alike (t.failSource q reason) :=
  h.takeUp hp hq hhidden rfl

theorem takeBlank (h : s.Alike t) : (s.takeLine p .blank).Alike (t.takeLine q .blank) := by
  have hlog : p.log = q.log := by rw [hp, hq]
  simp only [takeLine, record_eq, h.asks, hlog]
  cases t.pool.asks with
  | false => exact h
  | true =>
    cases q.log.refused PathLine.skipped with
    | none => exact h.logged _ _
    | some thrown => exact (h.logged _ _).failSource hp hq hhidden thrown

/-- The work on the files of a task is done, with the same end. -/
theorem fileScanned (h : s.Alike t) {index : Nat} {path path' : String}
    (hending : FileEnding.of (s.fileOutcome p path) = .of (t.fileOutcome q path')) :
    (s.fileScanned p index path).Alike (t.fileScanned q index path') := by
  by_cases hreport : ∃ r report, s.fileOutcome p path = .ok (.scanned r report)
  · obtain ⟨r, report, houtcome⟩ := hreport
    obtain ⟨r', report', houtcome', hmatched⟩ : ∃ r' report',
        t.fileOutcome q path' = .ok (.scanned r' report') ∧ report.matched = report'.matched :=
      FileEnding.exists_of_scanned (houtcome ▸ hending)
    obtain ⟨lines, hscan⟩ := fileScanned_handed (p := p) index houtcome
    obtain ⟨lines', hscan'⟩ := fileScanned_handed (p := q) index houtcome'
    have hupdate {u : Scan} (report : Report) :
        (u.pool.update index fun t => { t with report := some report }).outline ScanTask.sketch
          = (u.pool.outline ScanTask.sketch).update index fun _ => some report.matched :=
      Pool.update_outline _ _ _ fun _ => rfl
    have hblock : report.block.isEmpty = report'.block.isEmpty := by
      rw [isEmpty_block houtcome, isEmpty_block houtcome', hmatched]
    rw [hscan, hscan']
    refine absorb hp hq hhidden ?_ (Sink.write_congr h.sink _ hblock)
    refine ⟨?_, h.sink, h.events, h.running⟩
    rw [hupdate, hupdate, h.pool, hmatched]
  · have hreport' : ¬∃ r report, t.fileOutcome q path' = .ok (.scanned r report) := by
      rintro ⟨r', report', houtcome'⟩
      obtain ⟨r, report, houtcome, -⟩ := FileEnding.exists_of_scanned (houtcome' ▸ hending.symm)
      exact hreport ⟨r, report, houtcome⟩
    obtain ⟨lines, hscan⟩ := fileScanned_ended (p := p) index rfl
      fun r report houtcome => hreport ⟨r, report, houtcome⟩
    obtain ⟨lines', hscan'⟩ := fileScanned_ended (p := q) index rfl
      fun r report houtcome => hreport' ⟨r, report, houtcome⟩
    rw [hscan, hscan']
    exact (h.logged lines lines').finishTask hp hq hhidden index path path' hending

theorem advance (h : s.Alike t) {e e' : ScanEvent} (he : e.unnamed = e'.unnamed)
    (hdone : (s.doneBy p e).map (·.ending) = (t.doneBy q e').map (·.ending)) :
    (s.advance p e).Alike (t.advance q e') := by
  cases e with
  | line line =>
    cases line with
    | path path =>
      obtain ⟨path', rfl⟩ : ∃ path', e' = .line (.path path') := ScanEvent.exists_of_unnamed_path he
      exact h.takeUp hp hq hhidden rfl
    | blank =>
      obtain rfl := ScanEvent.eq_of_unnamed he (by simp)
      exact h.takeBlank hp hq hhidden
  | linesEnded =>
    obtain rfl := ScanEvent.eq_of_unnamed he (by simp)
    exact h.takeUp hp hq hhidden rfl
  | linesFailed reason =>
    obtain rfl := ScanEvent.eq_of_unnamed he (by simp)
    exact h.failSource hp hq hhidden reason
  | scanned index =>
    obtain rfl := ScanEvent.eq_of_unnamed he (by simp)
    rcases h.task_cases index with ⟨hs, ht⟩ | ⟨path, path', hs, ht⟩ |
      ⟨path, path', report, report', -, hs, ht⟩
    · simpa [Scan.advance, hs, ht] using h
    · have hending : FileEnding.of (s.fileOutcome p path) = .of (t.fileOutcome q path') := by
        simpa [doneBy, hs, ht, TaskFinding.ending] using hdone
      simpa [Scan.advance, hs, ht] using h.fileScanned hp hq hhidden hending
    · simpa [Scan.advance, hs, ht] using h
  | stream e =>
    obtain rfl := ScanEvent.eq_of_unnamed he (by simp)
    exact h.absorb hp hq hhidden (Sink.onStream_congr h.sink e)

omit hp hq hhidden

/-- The same events end the work on a file. -/
theorem isSome_doneBy (h : s.Alike t) {e e' : ScanEvent} (he : e.unnamed = e'.unnamed) :
    (s.doneBy p e).isSome = (t.doneBy q e').isSome := by
  cases e with
  | line line =>
    cases line with
    | path path =>
      obtain ⟨path', rfl⟩ : ∃ path', e' = .line (.path path') := ScanEvent.exists_of_unnamed_path he
      rfl
    | blank =>
      obtain rfl := ScanEvent.eq_of_unnamed he (by simp)
      rfl
  | scanned index =>
    obtain rfl := ScanEvent.eq_of_unnamed he (by simp)
    rcases h.task_cases index with ⟨hs, ht⟩ | ⟨path, path', hs, ht⟩ |
      ⟨path, path', report, report', -, hs, ht⟩ <;>
      simp [doneBy, hs, ht]
  | linesEnded | linesFailed reason | stream e =>
    obtain rfl := ScanEvent.eq_of_unnamed he (by simp)
    rfl

end Alike


-- ---------------------------------------------------------------------------
-- Runs
-- ---------------------------------------------------------------------------

variable {b c : ScanBooks} (hhidden : job.diagnostics.detail = .hidden)

/-- The closing of a settled pool publishes nothing. -/
theorem events_closeIfDone (hs : (s.stage b).Sound) (hrunning : s.phase = .running)
    (hsettled : s.pool.settled) :
    (s.closeIfDone p).events = s.events ∧ ∃ result, (s.closeIfDone p).phase = .settled result := by
  obtain ⟨lines, result, heq, -, -⟩ := closeIfDone_moves (p := p) hs hrunning hsettled
  rw [heq]
  exact ⟨rfl, result, rfl⟩

include hhidden

/-- Scans that are alike take steps that are, or end together having published the same. -/
theorem Alike.step (h : s.Alike t) (hs : (s.stage b).Sound) (ht : (t.stage c).Sound)
    (hp : p.toScanJob = job) (hq : q.toScanJob = job) {e e' : ScanEvent}
    (he : e.unnamed = e'.unnamed)
    (hdone : (s.doneBy p e).map (·.ending) = (t.doneBy q e').map (·.ending)) :
    (s.step p e).Alike (t.step q e') ∨
      (s.step p e).events = (t.step q e').events ∧
        ∃ result result', (s.step p e).phase = .settled result ∧
          (t.step q e').phase = .settled result' := by
  have hnext := h.advance hp hq hhidden he hdone
  rw [step_of_running h.running.1, step_of_running h.running.2]
  cases hsettled : (s.advance p e).pool.settled with
  | false =>
    rw [closeIfDone_of_not_settled hnext.running.1 hsettled,
      closeIfDone_of_not_settled hnext.running.2 (hnext.settled ▸ hsettled)]
    exact .inl hnext
  | true =>
    obtain ⟨hchain, -, -⟩ := advance_moves (p := p) hs e
    obtain ⟨hchain', -, -⟩ := advance_moves (p := q) ht e'
    obtain ⟨hevents, result, hresult⟩ := events_closeIfDone (p := p)
      (ScanStage.sound_of_moves hchain hs) hnext.running.1 hsettled
    obtain ⟨hevents', result', hresult'⟩ := events_closeIfDone (p := q)
      (ScanStage.sound_of_moves hchain' ht) hnext.running.2 (hnext.settled ▸ hsettled)
    exact .inr ⟨by rw [hevents, hevents', hnext.events], result, result', hresult, hresult'⟩

/-- Runs that begin alike, meet the same events but for paths and find the same ends of files publish
the same. -/
theorem Alike.events_play (h : s.Alike t) (hs : (s.stage b).Sound) (ht : (t.stage c).Sound)
    {moments moments' : List ScanMoment}
    (hmoments : moments.map (·.event.unnamed) = moments'.map (·.event.unnamed))
    (hfindings : (s.findings job moments).map (·.ending) = (t.findings job moments').map (·.ending)) :
    (s.play job moments).events = (t.play job moments').events := by
  induction moments generalizing s t b c moments' with
  | nil =>
    obtain rfl : moments' = [] := by simpa using hmoments.symm
    exact h.events
  | cons m rest ih =>
    cases moments' with
    | nil => simp at hmoments
    | cons m' rest' =>
      rw [List.map_cons, List.map_cons, List.cons.injEq] at hmoments
      obtain ⟨he, hrest⟩ := hmoments
      let p : ScanPlan := { job with files := m.files }
      let q : ScanPlan := { job with files := m'.files }
      have hfound : s.findings job (m :: rest)
          = (s.doneBy p m.event).toList ++ (s.step p m.event).findings job rest := by
        simp [findings, result?_of_running h.running.1, p]
      have hfound' : t.findings job (m' :: rest')
          = (t.doneBy q m'.event).toList ++ (t.step q m'.event).findings job rest' := by
        simp [findings, result?_of_running h.running.2, q]
      have hlength : ((s.doneBy p m.event).toList.map (·.ending)).length
          = ((t.doneBy q m'.event).toList.map (·.ending)).length := by
        have hsome := h.isSome_doneBy (p := p) (q := q) he
        cases hs' : s.doneBy p m.event <;> cases ht' : t.doneBy q m'.event <;> simp_all
      rw [hfound, hfound', List.map_append, List.map_append] at hfindings
      obtain ⟨hnow, hlater⟩ := List.append_inj hfindings hlength
      have hdone : (s.doneBy p m.event).map (·.ending) = (t.doneBy q m'.event).map (·.ending) := by
        simpa [Option.toList_map] using congrArg List.head? hnow
      obtain ⟨hchain, -, -⟩ := step_moves (p := p) hs h.running.1 m.event
      obtain ⟨hchain', -, -⟩ := step_moves (p := q) ht h.running.2 m'.event
      rw [play, play]
      rcases h.step hhidden hs ht (p := p) (q := q) rfl rfl he hdone with
        hnext | ⟨hevents, result, result', hresult, hresult'⟩
      · exact ih hnext (ScanStage.sound_of_moves hchain hs) (ScanStage.sound_of_moves hchain' ht)
          hrest hlater
      · rw [(play_of_settled job hresult rest).1, (play_of_settled job hresult' rest').1]
        exact hevents

end Scan

end FileSearch
