import FileSearch.Proofs.Diagnostics.Outcomes

/-!
# The account of the tasks

The events of a run are its marks, as far as the settings show them. A task starts when it gets a
slot and ends when its file has failed or the sink has answered, with what came of it; a rejection by
the sink is what the pool notes of the task. Steps keep this account, whatever happens and whenever,
and whether or not entries can be logged.
-/

namespace FileSearch

/-- What the pool notes of a task that ends. -/
def TaskMark.noted? (log : Log) : TaskMark → Option TaskFailure
  | started _ _ => none
  | ended index _ outcome =>
    (ScanTask.fault? log outcome).map fun t => { index, error := t.asError }

/-- The marks of what the pool has done so far, and what is published of them. -/
structure Booked (job : ScanJob) (marks : List TaskMark) (pulled : List String) (s : Scan) :
    Prop where
  events_eq : s.events = marks.map (TaskMark.event job.diagnostics.detail)
  balanced : Balanced s.pool.limit marks s.pool.started (s.pool.live.map fun t => (t.1, t.2.path))
  pulled_eq : marks.filterMap TaskMark.startedPath? ++ s.pool.waiting.toList.map (·.path) = pulled
  failures_eq : s.pool.failures = marks.filterMap (TaskMark.noted? job.log)


-- ---------------------------------------------------------------------------
-- Tasks that start and end
-- ---------------------------------------------------------------------------

/-- The marks of tasks that start. -/
def startMarks (tasks : List (Nat × ScanTask)) : List TaskMark :=
  tasks.map fun t => .started t.1 t.2.path

theorem notMem_startMarks {tasks : List (Nat × ScanTask)} :
    ∀ m ∈ startMarks tasks, ∀ index path outcome, m ≠ .ended index path outcome := by
  intro m hm index path outcome
  obtain ⟨t, -, rfl⟩ := List.mem_map.mp hm
  simp

theorem startedPaths_startMarks (tasks : List (Nat × ScanTask)) :
    (startMarks tasks).filterMap TaskMark.startedPath? = tasks.map (·.2.path) := by
  rw [startMarks, List.filterMap_map, ← List.filterMap_eq_map]
  rfl

theorem noted_startMarks (log : Log) (tasks : List (Nat × ScanTask)) :
    (startMarks tasks).filterMap (TaskMark.noted? log) = [] := by
  rw [startMarks, List.filterMap_map]
  exact List.filterMap_eq_nil_iff.mpr fun _ _ => rfl

theorem Diagnostics.flatMap_started {d : Diagnostics} (hpublishes : d.publishes)
    (tasks : List (Nat × ScanTask)) :
    (tasks.flatMap fun t => d.started t.2.path)
      = (startMarks tasks).map (TaskMark.event d.detail) := by
  induction tasks with
  | nil => rfl
  | cons t rest ih =>
    rw [List.flatMap_cons, ih, Diagnostics.started, if_pos hpublishes]
    rfl

theorem Diagnostics.finished_eq {d : Diagnostics} (hpublishes : d.publishes) {path : String}
    {outcome : Except Thrown FileResult} (hpath : ∀ result, outcome = .ok result → result.path = path)
    (index : Nat) : d.finished path outcome = [TaskMark.event d.detail (.ended index path outcome)] := by
  simp only [Diagnostics.finished, hpublishes, if_true, TaskMark.event]
  cases outcome with
  | error thrown => rfl
  | ok result => simp [hpath result rfl]

namespace Booked

variable {p : ScanPlan} {s : Scan} {marks : List TaskMark} {pulled : List String}

/-- An item starts if there is one and a slot is free. -/
theorem start {limit count : Nat} {live : List (Nat × ScanTask)}
    (h : Balanced limit marks count (live.map fun t => (t.1, t.2.path))) (item? : Option ScanTask)
    (hroom : item?.isSome → live.length < limit) :
    let tasks := item?.toList.map fun item => (count, item)
    Balanced limit (marks ++ startMarks tasks) (count + item?.toList.length)
      ((live ++ tasks).map fun t => (t.1, t.2.path)) := by
  cases item? with
  | none => simpa [startMarks] using h
  | some item =>
    have hstart := h.start (by simpa using hroom rfl) item.path
    simpa [startMarks] using hstart

/-- A path is taken from the list, and its task starts if there is a slot. -/
theorem takePath (h : Booked p.toScanJob marks pulled s)
    (hpublishes : p.diagnostics.publishes) (hasks : s.pool.asks) (path : String) :
    ∃ next, (∀ m ∈ next, ∀ index q outcome, m ≠ .ended index q outcome) ∧
      Booked p.toScanJob (marks ++ next) (pulled ++ [path])
        (s.takeLine p (.path path)) := by
  obtain ⟨-, hnone⟩ := Pool.asks_iff.mp hasks
  have hpulled := h.pulled_eq
  rw [hnone] at hpulled
  refine ⟨startMarks (s.pool.step (.delivered { path })).2, notMem_startMarks, ?_⟩
  cases hslot : s.pool.hasSlot with
  | true =>
    have hstep : s.pool.step (.delivered { path }) = s.pool.start { path } := by
      rw [Pool.step_delivered hasks, if_pos hslot]
    have hroom : s.pool.live.length < s.pool.limit := of_decide_eq_true hslot
    exact {
      events_eq := by
        simp only [Scan.takeLine, Scan.takeUp, hstep, Diagnostics.flatMap_started hpublishes,
          h.events_eq, List.map_append]
      balanced := by
        simp only [Scan.takeLine, Scan.takeUp, hstep]
        exact start h.balanced (some { path }) fun _ => hroom
      pulled_eq := by
        simp only [Scan.takeLine, Scan.takeUp, hstep, List.filterMap_append,
          startedPaths_startMarks, ← hpulled]
        simp [Pool.start]
      failures_eq := by
        simp only [Scan.takeLine, Scan.takeUp, hstep, List.filterMap_append,
          noted_startMarks, ← h.failures_eq]
        simp [Pool.start] }
  | false =>
    have hstep : s.pool.step (.delivered { path }) = ({ s.pool with waiting := some { path } }, []) := by
      rw [Pool.step_delivered hasks, hslot]
      rfl
    exact {
      events_eq := by simp [Scan.takeLine, Scan.takeUp, hstep, startMarks, h.events_eq]
      balanced := by
        simpa [Scan.takeLine, Scan.takeUp, hstep, startMarks] using h.balanced
      pulled_eq := by
        simp only [Scan.takeLine, Scan.takeUp, hstep, ← hpulled]
        simp [startMarks]
      failures_eq := by simp [Scan.takeLine, Scan.takeUp, hstep, startMarks, h.failures_eq] }

/-- A task ends, and the item that waits takes its slot. -/
theorem finishTask (h : Booked p.toScanJob marks pulled s)
    (hpublishes : p.diagnostics.publishes) (hpool : s.pool.WellFormed) {index : Nat}
    {task : ScanTask} (htask : s.pool.live.lookup index = some task)
    (outcome : Except Thrown FileResult)
    (hpath : ∀ result, outcome = .ok result → result.path = task.path) :
    ∃ next, (∀ m ∈ next, ∀ i q o, m ≠ .ended i q o) ∧
      Booked p.toScanJob (marks ++ [.ended index task.path outcome] ++ next) pulled
        (s.finishTask p index task.path outcome) := by
  let failure := ScanTask.fault? p.log outcome
  let next := s.pool.step (.finished index failure)
  have hlive := Pool.isLive_of_lookup htask
  have hfinished := Pool.step_finished hpool hlive failure
  have hstarts := Pool.starts_finished hpool hlive failure
  obtain ⟨hpoolEq, hevents⟩ := Scan.finishTask_eq p s index task.path outcome
  have hmem : (index, task.path) ∈ s.pool.live.map fun t => (t.1, t.2.path) :=
    List.mem_map_of_mem (f := fun t : Nat × ScanTask => (t.1, t.2.path)) (Pool.mem_of_lookup htask)
  refine ⟨startMarks next.2, notMem_startMarks, ?_⟩
  exact {
    events_eq := by
      rw [hevents, Diagnostics.finished_eq hpublishes hpath index,
        Diagnostics.flatMap_started hpublishes, h.events_eq, List.map_append, List.map_append]
      rfl
    balanced := by
      have hended := h.balanced.finish hmem outcome
      rw [List.filter_map] at hended
      have hroom : (s.pool.live.filter (·.1 != index)).length < s.pool.limit :=
        Nat.lt_of_lt_of_le (Pool.length_filter_lt hlive) hpool.length_le
      rw [hpoolEq, hfinished]
      simp only [next, hstarts]
      exact start hended s.pool.waiting fun _ => hroom
    pulled_eq := by
      have hpulled := h.pulled_eq
      rw [hpoolEq, hfinished]
      simp only [next, hstarts]
      rw [List.filterMap_append, List.filterMap_append, startedPaths_startMarks, ← hpulled]
      simp [TaskMark.startedPath?, Function.comp_def]
    failures_eq := by
      rw [hpoolEq, hfinished, List.filterMap_append, List.filterMap_append, noted_startMarks,
        List.append_nil, ← h.failures_eq]
      simp only [Pool.finish, failure, List.filterMap_cons, List.filterMap_nil, TaskMark.noted?]
      cases ScanTask.fault? p.log outcome <;> rfl }

end Booked


-- ---------------------------------------------------------------------------
-- Steps
-- ---------------------------------------------------------------------------

namespace Scan

variable {p : ScanPlan} {s s' : Scan} {b : ScanBooks} {job : ScanJob} {pulled : List String}
  {found : List TaskFinding} {answers : List (SinkAnswer ScanCaller)}

/-- The events of a scan are an account of its tasks. -/
def Marked (job : ScanJob) (pulled : List String) (found : List TaskFinding)
    (answers : List (SinkAnswer ScanCaller)) (s : Scan) : Prop :=
  ∃ marks, Booked job marks pulled s ∧ Justified marks found answers ∧
    Findings found s.pool.live s.pool.started

namespace Marked

/-- The account is of the tasks and the events; anything else may change. -/
theorem congr (h : s.Marked job pulled found answers) (hevents : s'.events = s.events)
    (hpool : ∃ source, s'.pool = { s.pool with source }) : s'.Marked job pulled found answers := by
  obtain ⟨marks, hbooked, hjustified, hfindings⟩ := h
  obtain ⟨source, hpool⟩ := hpool
  refine ⟨marks, ?_, hjustified, by rw [hpool]; exact hfindings⟩
  exact {
    events_eq := hevents.trans hbooked.events_eq
    balanced := by rw [hpool]; exact hbooked.balanced
    pulled_eq := by rw [hpool]; exact hbooked.pulled_eq
    failures_eq := by rw [hpool]; exact hbooked.failures_eq }

/-- The findings when a task has ended. -/
theorem findings_finished {pool : Pool ScanTask} (hpool : pool.WellFormed)
    (hwaiting : ∀ t ∈ pool.waiting, t.report = none) {index : Nat} (hlive : pool.isLive index)
    (failure : Option Thrown)
    (h : Findings found (pool.live.filter (·.1 != index)) pool.started) :
    Findings found (pool.step (.finished index failure)).1.live
      (pool.step (.finished index failure)).1.started := by
  rw [Pool.step_finished hpool hlive]
  exact h.startAll hwaiting

end Marked

variable (hpublishes : p.diagnostics.publishes)

include hpublishes

theorem takePath_marked (h : s.Marked p.toScanJob pulled found answers) (path : String) :
    (s.takeLine p (.path path)).Marked p.toScanJob
      (pulled ++ (s.pulledBy (.line (.path path))).toList) found answers := by
  cases hasks : s.pool.asks with
  | false =>
    have hstep : s.pool.step (.delivered { path }) = (s.pool, []) := by
      simp [Pool.step, hasks]
    have hpulled : pulled ++ (s.pulledBy (.line (.path path))).toList = pulled := by
      simp [pulledBy, hasks]
    rw [hpulled]
    exact h.congr (by simp [takeLine, takeUp, hstep]) ⟨s.pool.source, by simp [takeLine, takeUp, hstep]⟩
  | true =>
    obtain ⟨marks, hbooked, hjustified, hfindings⟩ := h
    obtain ⟨next, hnext, hbooked⟩ := hbooked.takePath hpublishes hasks path
    have hpulled : (s.pulledBy (.line (.path path))).toList = [path] := by simp [pulledBy, hasks]
    rw [hpulled]
    refine ⟨_, hbooked, hjustified.start hnext, ?_⟩
    simp only [takeLine, takeUp, Pool.step_delivered hasks]
    cases s.pool.hasSlot with
    | true => exact hfindings.start rfl
    | false => exact hfindings

/-- The file of a task is done, and there is no report of it. -/
theorem unreported_marked (hs : (s.stage b).Sound) (h : s.Marked p.toScanJob pulled found answers)
    {index : Nat} {path : String} (htask : s.task? index = some { path })
    {outcome : Except Thrown FileResult}
    (houtcome : (∃ failure, outcome = .ok (.failed path failure)) ∨ ∃ thrown, outcome = .error thrown) :
    (s.finishTask p index path outcome).Marked p.toScanJob pulled
      (found ++ [⟨index, path, outcome⟩]) answers := by
  obtain ⟨marks, hbooked, hjustified, hfindings⟩ := h
  have hpool : s.pool.WellFormed := hs.pool
  have hmem : (index, { path }) ∈ s.pool.live := Pool.mem_of_lookup htask
  have hpath : ∀ result, outcome = .ok result → result.path = path := by
    rcases houtcome with ⟨failure, rfl⟩ | ⟨thrown, rfl⟩ <;> simp [FileResult.path]
  obtain ⟨next, hnext, hbooked⟩ := hbooked.finishTask hpublishes hpool htask outcome hpath
  refine ⟨_, hbooked, (hjustified.endUnreported houtcome).start hnext, ?_⟩
  have hothers : ∀ t ∈ s.pool.live.filter (·.1 != index), t.1 ≠ index := fun t ht => by
    simpa using (List.mem_filter.mp ht).2
  rw [(finishTask_eq p s index path outcome).1]
  exact Marked.findings_finished hpool hs.unscanned (Pool.isLive_of_lookup htask) _
    ((hfindings.finish index).find (hpool.lt_started _ hmem) (hfindings.unread _ hmem rfl) hothers ..)

/-- The sink has answered a task. -/
theorem receive_marked {a : SinkAnswer ScanCaller} {due : List (SinkAnswer ScanCaller)}
    (hs : (s.stage b (a :: due)).Sound) (h : s.Marked p.toScanJob pulled found answers) :
    (s.receive p a).Marked p.toScanJob pulled found (answers ++ [a]) := by
  obtain ⟨marks, hbooked, hjustified, hfindings⟩ := h
  obtain ⟨index, path, report, hcall, htask, hreceive⟩ := receive_eq (p := p) hs
  obtain ⟨call, answer⟩ := a
  obtain rfl : call = ScanTask.call index := hcall
  have hpool : s.pool.WellFormed := hs.pool
  have hmem : (index, { path, report := some report }) ∈ s.pool.live := Pool.mem_of_lookup htask
  have hfound : ⟨index, path, .ok (.scanned path report)⟩ ∈ found :=
    hfindings.reported _ hmem report rfl
  obtain ⟨next, hnext, hbooked⟩ := hbooked.finishTask hpublishes hpool htask
    (ScanTask.outcome path report answer)
    (by cases answer <;> simp [ScanTask.outcome, FileResult.path])
  rw [hreceive]
  refine ⟨_, hbooked, (hjustified.answer hfound answer).start hnext, ?_⟩
  rw [(finishTask_eq p s index path _).1]
  exact Marked.findings_finished hpool hs.unscanned (Pool.isLive_of_lookup htask) _
    (hfindings.finish index)

theorem receiveAll_marked {due : List (SinkAnswer ScanCaller)} (hs : (s.stage b due).Sound)
    (h : s.Marked p.toScanJob pulled found answers) :
    (due.foldl (receive p) s).Marked p.toScanJob pulled found (answers ++ due) := by
  induction due generalizing s answers with
  | nil => simpa using h
  | cons a rest ih =>
    have hnext := receive_marked hpublishes hs h
    rw [List.append_cons]
    exact ih ((receive_move (p := p) hs).1.sound hs) hnext

/-- The report of a file is handed in. -/
theorem handed_marked (hs : (s.stage b).Sound) (h : s.Marked p.toScanJob pulled found answers)
    {index : Nat} {path : String} {report : Report} (htask : s.task? index = some { path })
    (hresult : (p.scan path).result = .scanned path report) :
    let write : SinkEvent ScanCaller := .write (.task index) report.block
    Marked p.toScanJob pulled (found ++ [⟨index, path, .ok (.scanned path report)⟩])
      (answers ++ (s.sink.history [write]).filterMap SinkMoment.answer?)
      ({ s with
          pool := s.pool.update index fun t => { t with report := some report } }.absorb p
        (s.sink.step write)) := by
  intro write
  obtain ⟨marks, hbooked, hjustified, hfindings⟩ := h
  have hpool : s.pool.WellFormed := hs.pool
  have hmem : (index, { path }) ∈ s.pool.live := Pool.mem_of_lookup htask
  have hanswers : (s.sink.history [write]).filterMap SinkMoment.answer?
      = (s.sink.step write).2.answers := by
    rw [Sink.history_cons, Sink.history_nil, List.append_nil, Sink.answers_moments]
  rw [hanswers]
  refine receiveAll_marked hpublishes ((write_move hs htask hresult).sound hs)
    ⟨marks, ?_, hjustified.report index path report,
      hfindings.report hpool.nodup hmem (hpool.lt_started _ hmem) report⟩
  have hopen : (s.pool.update index fun t => { t with report := some report }).live.map
      (fun t => (t.1, t.2.path)) = s.pool.live.map fun t => (t.1, t.2.path) := by
    simp only [Pool.update, List.map_map]
    refine List.map_congr_left fun t _ => ?_
    simp only [Function.comp_apply]
    split <;> rfl
  exact {
    events_eq := hbooked.events_eq
    balanced := by
      show Balanced _ _ _ ((s.pool.update index _).live.map _)
      rw [hopen]
      exact hbooked.balanced
    pulled_eq := hbooked.pulled_eq
    failures_eq := hbooked.failures_eq }

/-- The work on the file of a task is done. -/
theorem fileScanned_marked (hs : (s.stage b).Sound)
    (h : s.Marked p.toScanJob pulled found answers) {index : Nat} {path : String}
    (htask : s.task? index = some { path }) :
    (s.fileScanned p index path).Marked p.toScanJob pulled
      (found ++ (s.doneBy p (.scanned index)).toList)
      (answers ++ (s.sink.history (s.passedOn p (.scanned index))).filterMap SinkMoment.answer?) := by
  have hdone : s.doneBy p (.scanned index)
      = some ⟨index, path, s.fileOutcome p path⟩ := by simp [doneBy, htask]
  have hfound := foundBy_of_task (p := p) htask
  have hlogged (lines : List String) :
      ({ s with logLines := lines }.stage b).Sound ∧
        { s with logLines := lines }.Marked p.toScanJob pulled found answers :=
    ⟨⟨hs.pool, hs.core, hs.unscanned, hs.calls_perm⟩, h.congr rfl ⟨s.pool.source, rfl⟩⟩
  have hunreported
      (houtcome : (∃ failure, s.fileOutcome p path = .ok (.failed path failure)) ∨
        ∃ thrown, s.fileOutcome p path = .error thrown) :
      (s.fileScanned p index path).Marked p.toScanJob pulled
        (found ++ (s.doneBy p (.scanned index)).toList)
        (answers ++ (s.sink.history (s.passedOn p (.scanned index))).filterMap
          SinkMoment.answer?) := by
    have hreport : ∀ q report, s.fileOutcome p path ≠ .ok (.scanned q report) := by
      rcases houtcome with ⟨failure, heq⟩ | ⟨thrown, heq⟩ <;> simp [heq]
    obtain ⟨lines, hscan⟩ := fileScanned_ended index rfl hreport
    have hpassed : s.passedOn p (.scanned index) = [] := by
      rcases houtcome with ⟨failure, heq⟩ | ⟨thrown, heq⟩ <;>
        simp [passedOn, hfound, heq, Except.toOption]
    obtain ⟨hs₁, h₁⟩ := hlogged lines
    rw [hscan, hdone, hpassed]
    simpa using unreported_marked hpublishes hs₁ h₁ htask houtcome
  cases houtcome : s.fileOutcome p path with
  | error thrown => exact hunreported (.inr ⟨thrown, houtcome⟩)
  | ok result =>
    have hpath := path_of_fileOutcome houtcome
    cases result with
    | failed q failure =>
      obtain rfl : q = path := hpath
      exact hunreported (.inl ⟨failure, houtcome⟩)
    | scanned q report =>
      obtain rfl : q = path := hpath
      obtain ⟨lines, hscan⟩ := fileScanned_handed index houtcome
      have hpassed : s.passedOn p (.scanned index) = [.write (.task index) report.block] := by
        simp [passedOn, hfound, houtcome, Except.toOption]
      obtain ⟨hs₁, h₁⟩ := hlogged lines
      rw [hscan, hdone, houtcome, hpassed]
      exact handed_marked hpublishes hs₁ h₁ htask (result_of_fileOutcome houtcome)

omit hpublishes

/-- The list of paths fails. -/
theorem failSource_marked (h : s.Marked p.toScanJob pulled found answers) (reason : Reason) :
    (s.failSource p reason).Marked p.toScanJob pulled found answers := by
  cases hasks : s.pool.asks with
  | false =>
    refine h.congr ?_ ⟨s.pool.source, ?_⟩ <;> simp [failSource, takeUp, Pool.step, hasks]
  | true =>
    refine h.congr ?_ ⟨.failed (ScanPlan.pathsError reason), ?_⟩ <;>
      simp [failSource, takeUp, Pool.step, hasks]

/-- A blank line is skipped, or the list fails with it if that cannot be logged. -/
theorem takeBlank_marked (h : s.Marked p.toScanJob pulled found answers) :
    (s.takeLine p .blank).Marked p.toScanJob pulled found answers := by
  have hlogged : { s with logLines := s.logLines ++ p.log.written PathLine.skipped }.Marked
      p.toScanJob pulled found answers := h.congr rfl ⟨s.pool.source, rfl⟩
  simp only [takeLine, record_eq]
  cases s.pool.asks with
  | false => exact h
  | true =>
    cases p.log.refused PathLine.skipped with
    | none => exact hlogged
    | some thrown => exact failSource_marked hlogged thrown

include hpublishes

/-- What an event leads to before the pool is looked at. -/
theorem advance_marked (hs : (s.stage b).Sound)
    (h : s.Marked p.toScanJob pulled found answers) (e : ScanEvent) :
    (s.advance p e).Marked p.toScanJob (pulled ++ (s.pulledBy e).toList)
      (found ++ (s.doneBy p e).toList)
      (answers ++ (s.sink.history (s.passedOn p e)).filterMap SinkMoment.answer?) := by
  have hnothing (hpulled : s.pulledBy e = none) (hdone : s.doneBy p e = none)
      (hpassed : s.passedOn p e = [])
      (h : (s.advance p e).Marked p.toScanJob pulled found answers) :
      (s.advance p e).Marked p.toScanJob (pulled ++ (s.pulledBy e).toList)
        (found ++ (s.doneBy p e).toList)
        (answers ++ (s.sink.history (s.passedOn p e)).filterMap SinkMoment.answer?) := by
    simpa [hpulled, hdone, hpassed] using h
  cases e with
  | line line =>
    cases line with
    | path path =>
      have htaken := takePath_marked hpublishes h path
      simpa [doneBy, foundBy, passedOn, advance] using htaken
    | blank => exact hnothing rfl rfl rfl (takeBlank_marked h)
  | linesEnded =>
    cases hasks : s.pool.asks with
    | false =>
      refine hnothing rfl rfl rfl (h.congr ?_ ⟨s.pool.source, ?_⟩) <;>
        simp [advance, takeUp, Pool.step, hasks]
    | true =>
      refine hnothing rfl rfl rfl (h.congr ?_ ⟨.ended, ?_⟩) <;>
        simp [advance, takeUp, Pool.step, hasks]
  | linesFailed reason => exact hnothing rfl rfl rfl (failSource_marked h reason)
  | scanned index =>
    have hidle (hdone : s.doneBy p (.scanned index) = none)
        (hfound : s.foundBy p (.scanned index) = none)
        (hadvance : s.advance p (.scanned index) = s) :=
      hnothing rfl hdone (by simp [passedOn, hfound]) (by rw [hadvance]; exact h)
    cases htask : s.task? index with
    | none =>
      exact hidle (by simp [doneBy, htask]) (by simp [foundBy, htask]) (by simp [advance, htask])
    | some task =>
      obtain ⟨path, report?⟩ := task
      cases report? with
      | some report =>
        exact hidle (by simp [doneBy, htask]) (by simp [foundBy, htask]) (by simp [advance, htask])
      | none =>
        have hadvance : s.advance p (.scanned index) = s.fileScanned p index path := by
          simp [advance, htask]
        have hpulled : pulled ++ (s.pulledBy (.scanned index)).toList = pulled := List.append_nil _
        rw [hadvance, hpulled]
        exact fileScanned_marked hpublishes hs h htask
  | stream e =>
    let next := s.sink.onStream e
    let s₁ : Scan := { s with sink := next.1, delivered := s.delivered ++ next.2.delivered }
    have hs₁ := (stream_move (p := p) hs e).sound hs
    have h₁ : s₁.Marked p.toScanJob pulled found answers :=
      h.congr rfl ⟨s.pool.source, rfl⟩
    have hanswers : (s.sink.history (s.passedOn p (.stream e))).filterMap SinkMoment.answer?
        = next.2.answers := by
      have hpassed : s.passedOn p (.stream e) = [.stream e] := rfl
      rw [hpassed, Sink.history_cons, Sink.history_nil, List.append_nil, Sink.answers_moments]
      rfl
    have hall := receiveAll_marked hpublishes hs₁ h₁
    rw [hanswers]
    simpa [pulledBy, doneBy, advance, absorb] using hall

omit hpublishes

/-- The sink answers its closing to the run. -/
theorem caller_of_close {sink : Sink ScanCaller} (hqueue : sink.queue = []) :
    ∀ a ∈ (sink.history [.close .run]).filterMap SinkMoment.answer?, a.call.caller = .run := by
  intro a ha
  rw [Sink.history_cons, Sink.history_nil, List.append_nil, Sink.answers_moments] at ha
  simp only [Sink.step, Sink.close, Sink.awaitLast, hqueue, List.isEmpty_nil, if_true, Sink.reply,
    List.mergeSort_singleton, List.map_cons, List.map_nil, List.mem_singleton] at ha
  rw [ha]

include hpublishes

/-- Every step keeps the account. -/
theorem step_marked (hs : (s.stage b).Sound) (hrunning : s.phase = .running)
    (h : s.Marked p.toScanJob pulled found answers) (e : ScanEvent) :
    (s.step p e).Marked p.toScanJob (pulled ++ (s.told p e).pulled)
      (found ++ (s.doneBy p e).toList)
      (answers ++ (s.sink.history (s.told p e).sinkEvents).filterMap SinkMoment.answer?) := by
  have hadvanced := advance_marked hpublishes hs h e
  obtain ⟨hchain, hsink, hphase⟩ := advance_moves (p := p) hs e
  rw [hrunning] at hphase
  rw [step_of_running hrunning]
  simp only [told, Sink.history_append, List.filterMap_append, ← hsink]
  cases hsettled : (s.advance p e).pool.settled with
  | false =>
    have hclosing : (s.advance p e).closing = [] := by simp [closing, hphase, hsettled]
    rw [closeIfDone_of_not_settled hphase hsettled, hclosing]
    simpa using hadvanced
  | true =>
    have hsound := ScanStage.sound_of_moves hchain hs
    have hclosing : (s.advance p e).closing = [.close .run] := by simp [closing, hphase, hsettled]
    have hqueue : (s.advance p e).sink.queue = [] :=
      queue_eq_nil hsound (Pool.live_of_settled hsettled)
    obtain ⟨lines, result, heq, -, -⟩ := closeIfDone_moves hsound hphase hsettled
    obtain ⟨marks, hbooked, hjustified, hfindings⟩ := hadvanced
    rw [hclosing, ← List.append_assoc]
    have hclosed : (s.advance p e).Marked p.toScanJob (pulled ++ (s.pulledBy e).toList)
        (found ++ (s.doneBy p e).toList)
        (answers ++ (s.sink.history (s.passedOn p e)).filterMap SinkMoment.answer? ++
          ((s.advance p e).sink.history [.close .run]).filterMap SinkMoment.answer?) :=
      ⟨marks, hbooked, hjustified.answerRun (caller_of_close hqueue), hfindings⟩
    rw [heq]
    exact hclosed.congr rfl ⟨_, rfl⟩

omit hpublishes

/-- A run keeps the account to its end. -/
theorem play_marked (hpublishes : job.diagnostics.publishes)
    (hs : (s.stage b).Sound) (hrunning : s.phase = .running)
    (h : s.Marked job pulled found answers) (moments : List ScanMoment) :
    (s.play job moments).Marked job (pulled ++ (s.history job moments).pulled)
      (found ++ s.findings job moments)
      (answers ++ (s.sink.history (s.history job moments).sinkEvents).filterMap
        SinkMoment.answer?) := by
  induction moments generalizing s b pulled found answers with
  | nil => simpa [play, history, findings] using h
  | cons m rest ih =>
    let p : ScanPlan := { job with files := m.files }
    have hresult : s.result?.isSome = false := by simp [result?_of_running hrunning]
    have hhistory : s.history job (m :: rest)
        = (s.told p m.event).append ((s.step p m.event).history job rest) := by
      simp [history, hresult, p]
    have hfindings : s.findings job (m :: rest)
        = (s.doneBy p m.event).toList ++ (s.step p m.event).findings job rest := by
      simp [findings, hresult, p]
    have hmarked := step_marked (p := p) hpublishes hs hrunning h m.event
    obtain ⟨hchain, hsink, hnext⟩ := step_moves (p := p) hs hrunning m.event
    rw [hhistory, hfindings, play]
    simp only [ScanHistory.append, Sink.history_append, ← hsink, List.filterMap_append,
      ← List.append_assoc]
    rcases hnext with ⟨hphase, -⟩ | ⟨result, hphase, -⟩
    · exact ih (ScanStage.sound_of_moves hchain hs) hphase hmarked
    · obtain ⟨hplay, hnone⟩ := play_of_settled job hphase rest
      rw [hplay, hnone, findings_of_settled job hphase rest]
      simpa using hmarked

/-- A run begins with nothing to account for. -/
theorem new_marked (job : ScanJob) (limit : Nat) (ended destroyed : Bool)
    (logLines : List String) :
    ({ pool := { limit }, sink := .fresh ended destroyed, logLines } : Scan).Marked job [] [] [] :=
  ⟨[], ⟨rfl, .nothing, rfl, rfl⟩, ⟨by simp, by simp, by simp⟩,
    ⟨List.nodup_nil, by simp, by simp, by simp⟩⟩

end Scan

end FileSearch
