import FileSearch.Proofs.Output.Order

/-!
# Demands on a sink

A call of a sink asks for every block offered up to it, its own included. It is answered well exactly
if the stream has acknowledged all of these, and with the failure that broke the sink if it has not
(`Sink.run_settles`).
-/

namespace FileSearch

/-- A call, and the blocks that hold anything up to it. -/
structure SinkDemand (κ : Type) where
  call : SinkCall κ
  blocks : List Bytes

variable {κ : Type}

namespace SinkDemand

/-- Whether all that a call asks for is acknowledged. -/
def isMet (acknowledged : List Bytes) (d : SinkDemand κ) : Bool := d.blocks.isPrefixOf acknowledged

/-- The answer that a call comes to if nothing more is acknowledged. -/
def verdict (acknowledged : List Bytes) (failure : Failure) (d : SinkDemand κ) : SinkAnswer κ where
  call := d.call
  outcome := if d.isMet acknowledged then .ok () else .error failure

theorem isMet_iff {acknowledged : List Bytes} {d : SinkDemand κ} :
    d.isMet acknowledged ↔ d.blocks <+: acknowledged :=
  List.isPrefixOf_iff_prefix

theorem isMet_mono {acknowledged later : List Bytes} {d : SinkDemand κ}
    (hd : d.isMet acknowledged) (hlater : acknowledged <+: later) : d.isMet later := by
  rw [isMet_iff] at hd ⊢
  exact hd.trans hlater

theorem not_isMet_of_length {acknowledged : List Bytes} {d : SinkDemand κ}
    (hlength : acknowledged.length < d.blocks.length) : ¬ d.isMet acknowledged := by
  intro hmet
  have hle := (isMet_iff.mp hmet).length_le
  omega

end SinkDemand


-- ---------------------------------------------------------------------------
-- Demands of a history
-- ---------------------------------------------------------------------------

namespace SinkLedger

/-- What the calls in a list of moments ask for. -/
def demands (l : SinkLedger κ) : List (SinkMoment κ) → List (SinkDemand κ)
  | [] => []
  | m :: rest =>
    (m.call?.toList.map fun call => { call, blocks := (l.enter m).offered })
      ++ (l.enter m).demands rest

@[simp] theorem demands_nil (l : SinkLedger κ) : l.demands [] = [] := rfl

theorem demands_cons (l : SinkLedger κ) (m : SinkMoment κ) (rest : List (SinkMoment κ)) :
    l.demands (m :: rest)
      = (m.call?.toList.map fun call => { call, blocks := (l.enter m).offered })
        ++ (l.enter m).demands rest := rfl

theorem demands_append (l : SinkLedger κ) (xs ys : List (SinkMoment κ)) :
    l.demands (xs ++ ys) = l.demands xs ++ (l.enterAll xs).demands ys := by
  induction xs generalizing l with
  | nil => rfl
  | cons m rest ih => simp [demands_cons, ih]

theorem map_call_demands (l : SinkLedger κ) (moments : List (SinkMoment κ)) :
    (l.demands moments).map (·.call) = moments.filterMap SinkMoment.call? := by
  induction moments generalizing l with
  | nil => rfl
  | cons m rest ih => cases m <;> simp [demands_cons, List.filterMap_cons, ih]

/-- What the stream and the answers add to a history asks for nothing. -/
theorem demands_eq_nil (l : SinkLedger κ) {moments : List (SinkMoment κ)}
    (h : ∀ m ∈ moments, m.call? = none) : l.demands moments = [] := by
  induction moments generalizing l with
  | nil => rfl
  | cons m rest ih =>
    rw [demands_cons, h m List.mem_cons_self]
    exact ih _ fun m hm => h m (List.mem_cons_of_mem _ hm)

theorem answers_enterAll_cons (l : SinkLedger κ) (m : SinkMoment κ) (answers : List (SinkAnswer κ)) :
    (l.enterAll (m :: answers.map .answered)).answers = (l.enter m).answers ++ answers := by
  simp [enterAll_answered]

end SinkLedger

namespace QueuedBlock

/-- What the calls ask for that wait in a queue, where `before` was offered ahead of it. -/
def demands (before : List Bytes) : List (QueuedBlock κ) → List (SinkDemand κ)
  | [] => []
  | b :: rest =>
    (b.waiting.map fun call => { call, blocks := before ++ [b.bytes] })
      ++ demands (before ++ [b.bytes]) rest

theorem demands_append (before : List Bytes) (xs ys : List (QueuedBlock κ)) :
    demands before (xs ++ ys)
      = demands before xs ++ demands (before ++ xs.map (·.bytes)) ys := by
  induction xs generalizing before with
  | nil => simp [demands]
  | cons b rest ih => simp [demands, ih]

theorem map_call_demands (before : List Bytes) (queue : List (QueuedBlock κ)) :
    (demands before queue).map (·.call) = queue.flatMap (·.waiting) := by
  induction queue generalizing before with
  | nil => rfl
  | cons b rest ih => simp [demands, ih, Function.comp_def]

/-- A call that joins a queue asks for all that is in it. -/
theorem demands_await (call : SinkCall κ) (before : List Bytes) {queue : List (QueuedBlock κ)}
    (hqueue : queue ≠ []) :
    demands before (await call queue)
      = demands before queue ++ [{ call, blocks := before ++ queue.map (·.bytes) }] := by
  fun_induction await call queue generalizing before with
  | case1 => exact absurd rfl hqueue
  | case2 b => simp [demands]
  | case3 b rest hrest ih =>
    have hne : rest ≠ [] := fun hnil => hrest hnil
    simp [demands, ih _ hne]

/-- Nothing that waits has been acknowledged. -/
theorem not_isMet_of_mem_demands {before : List Bytes} {queue : List (QueuedBlock κ)}
    {d : SinkDemand κ} (hd : d ∈ demands before queue) : ¬ d.isMet before := by
  apply SinkDemand.not_isMet_of_length
  induction queue generalizing before with
  | nil => simp [demands] at hd
  | cons b rest ih =>
    rw [demands] at hd
    rcases List.mem_append.mp hd with hd | hd
    · obtain ⟨call, -, rfl⟩ := List.mem_map.mp hd
      simp
    · have hlater := ih hd
      simp only [List.length_append, List.length_singleton] at hlater
      omega

end QueuedBlock


-- ---------------------------------------------------------------------------
-- Settlements
-- ---------------------------------------------------------------------------

/-- All demands so far: those that were met are answered well, those that were not with the failure
that broke the sink, and the others wait. -/
structure SinkLedger.Settles (l : SinkLedger κ) (demands met lost : List (SinkDemand κ))
    (failure : Failure) (c : SinkCore κ) : Prop where
  demands_perm : demands.Perm (met ++ (lost ++ QueuedBlock.demands l.acknowledged c.queue))
  answers_perm : l.answers.Perm (SinkCall.answerAll (met.map (·.call)) (.ok ())
    ++ SinkCall.answerAll (lost.map (·.call)) (.error failure))
  met_isMet : ∀ d ∈ met, d.isMet l.acknowledged
  lost_not_isMet : ∀ d ∈ lost, ¬ d.isMet l.acknowledged
  broken_eq : lost ≠ [] → c.broken = some failure
  /-- A broken sink lacks the acknowledgement of a block. -/
  length_lt : c.broken.isSome → l.acknowledged.length < l.offered.length

namespace SinkLedger.Settles

variable {l l' : SinkLedger κ} {c c' : SinkCore κ} {demands met lost : List (SinkDemand κ)}
  {failure : Failure}

theorem lost_eq_nil (h : l.Settles demands met lost failure c) (hbroken : c.broken = none) :
    lost = [] := by
  cases hlost : lost with
  | nil => rfl
  | cons d rest =>
    have hsome := h.broken_eq (by simp [hlost])
    rw [hbroken] at hsome
    cases hsome

/-- As long as nothing is lost, no failure stands out. -/
theorem of_nothing_lost (h : l.Settles demands met [] failure c) (f : Failure) :
    l.Settles demands met [] f c :=
  { h with
    answers_perm := by simpa [SinkCall.answerAll] using h.answers_perm
    broken_eq := by simp }

/-- A broken sink has lost its demands to what broke it. -/
theorem of_broken (h : l.Settles demands met lost failure c) {f : Failure}
    (hbroken : c.broken = some f) : l.Settles demands met lost f c := by
  by_cases hlost : lost = []
  · subst hlost
    exact h.of_nothing_lost f
  · have hsame : some failure = some f := (h.broken_eq hlost).symm.trans hbroken
    cases hsame
    exact h

/-- A call is made and waits at the end of the queue. -/
theorem wait (h : l.Settles demands met lost failure c) {d : SinkDemand κ}
    (hacknowledged : l'.acknowledged = l.acknowledged) (hanswers : l'.answers = l.answers)
    (hqueue : QueuedBlock.demands l.acknowledged c'.queue
      = QueuedBlock.demands l.acknowledged c.queue ++ [d])
    (hbroken : c'.broken = c.broken) (hlength : c.broken = none) :
    l'.Settles (demands ++ [d]) met lost failure c' where
  demands_perm := by
    rw [hacknowledged, hqueue]
    simpa using h.demands_perm.append_right [d]
  answers_perm := by
    rw [hanswers]
    exact h.answers_perm
  met_isMet := by
    rw [hacknowledged]
    exact h.met_isMet
  lost_not_isMet := by
    rw [hacknowledged]
    exact h.lost_not_isMet
  broken_eq hlost := by
    rw [hbroken]
    exact h.broken_eq hlost
  length_lt hsome := by simp [hbroken, hlength] at hsome

/-- A call is made and answered well at once. -/
theorem meet (h : l.Settles demands met lost failure c) {d : SinkDemand κ}
    (hacknowledged : l'.acknowledged = l.acknowledged)
    (hanswers : l'.answers = l.answers ++ [{ call := d.call, outcome := .ok () }])
    (hmet : d.isMet l.acknowledged) (hbroken : c.broken = none) :
    l'.Settles (demands ++ [d]) (met ++ [d]) lost failure c where
  demands_perm := by
    obtain rfl := h.lost_eq_nil hbroken
    have hperm := h.demands_perm.append_right [d]
    rw [hacknowledged]
    refine hperm.trans ?_
    simp only [List.nil_append, List.append_assoc]
    exact (List.perm_append_comm).append_left met
  answers_perm := by
    obtain rfl := h.lost_eq_nil hbroken
    have hperm := h.answers_perm.append_right [{ call := d.call, outcome := .ok () }]
    rw [hanswers]
    simpa [SinkCall.answerAll] using hperm
  met_isMet := by
    rw [hacknowledged]
    intro d' hd'
    rcases List.mem_append.mp hd' with hd' | hd'
    · exact h.met_isMet d' hd'
    · obtain rfl := List.mem_singleton.mp hd'
      exact hmet
  lost_not_isMet := by
    rw [hacknowledged]
    exact h.lost_not_isMet
  broken_eq := h.broken_eq
  length_lt hsome := by simp [hbroken] at hsome

/-- A call is made and fails at once. -/
theorem lose (h : l.Settles demands met lost failure c) {d : SinkDemand κ}
    (hacknowledged : l'.acknowledged = l.acknowledged)
    (hanswers : l'.answers = l.answers ++ [{ call := d.call, outcome := .error failure }])
    (hqueue : c.queue = []) (hqueue' : c'.queue = []) (hbroken : c'.broken = some failure)
    (hblocks : l.acknowledged.length < d.blocks.length)
    (hlength : l'.acknowledged.length < l'.offered.length) :
    l'.Settles (demands ++ [d]) met (lost ++ [d]) failure c' where
  demands_perm := by
    have hperm := h.demands_perm.append_right [d]
    rw [hqueue] at hperm
    rw [hqueue']
    simpa [QueuedBlock.demands] using hperm
  answers_perm := by
    have hperm := h.answers_perm.append_right [{ call := d.call, outcome := .error failure }]
    rw [hanswers]
    simpa [SinkCall.answerAll] using hperm
  met_isMet := by
    rw [hacknowledged]
    exact h.met_isMet
  lost_not_isMet := by
    rw [hacknowledged]
    intro d' hd'
    rcases List.mem_append.mp hd' with hd' | hd'
    · exact h.lost_not_isMet d' hd'
    · obtain rfl := List.mem_singleton.mp hd'
      exact SinkDemand.not_isMet_of_length hblocks
  broken_eq _ := hbroken
  length_lt _ := hlength

/-- The stream answers: some calls at the front of the queue are answered well, those behind them
fail, and the rest waits on. -/
theorem resolve (h : l.Settles demands met lost failure c) (hbroken : c.broken = none)
    (served refused : List (SinkDemand κ)) {answers : List (SinkAnswer κ)} {f : Failure}
    (hgrown : l.acknowledged <+: l'.acknowledged)
    (hqueue : QueuedBlock.demands l.acknowledged c.queue
      = served ++ (refused ++ QueuedBlock.demands l'.acknowledged c'.queue))
    (hanswers : l'.answers = l.answers ++ answers)
    (hperm : answers.Perm (SinkCall.answerAll (served.map (·.call)) (.ok ())
      ++ SinkCall.answerAll (refused.map (·.call)) (.error f)))
    (hserved : ∀ d ∈ served, d.isMet l'.acknowledged)
    (hrefused : ∀ d ∈ refused, ¬ d.isMet l'.acknowledged)
    (hfailed : refused ≠ [] → c'.broken = some f)
    (hlength : c'.broken.isSome → l'.acknowledged.length < l'.offered.length) :
    l'.Settles demands (met ++ served) refused f c' where
  demands_perm := by
    obtain rfl := h.lost_eq_nil hbroken
    have hdemands := h.demands_perm
    rw [hqueue] at hdemands
    simpa using hdemands
  answers_perm := by
    obtain rfl := h.lost_eq_nil hbroken
    have hbefore := h.answers_perm
    rw [hanswers]
    simp only [SinkCall.answerAll, List.map_nil, List.append_nil, List.map_append] at hbefore hperm ⊢
    rw [List.append_assoc]
    exact hbefore.append hperm
  met_isMet d hd := by
    rcases List.mem_append.mp hd with hd | hd
    · exact SinkDemand.isMet_mono (h.met_isMet d hd) hgrown
    · exact hserved d hd
  lost_not_isMet := hrefused
  broken_eq := hfailed
  length_lt := hlength

theorem filter_isMet (h : l.Settles demands met lost failure c) :
    (demands.filter (·.isMet l.acknowledged)).Perm met := by
  have hmet : met.filter (·.isMet l.acknowledged) = met :=
    List.filter_eq_self.mpr h.met_isMet
  have hlost : lost.filter (·.isMet l.acknowledged) = [] :=
    List.filter_eq_nil_iff.mpr h.lost_not_isMet
  have hwaiting : (QueuedBlock.demands l.acknowledged c.queue).filter (·.isMet l.acknowledged) = [] :=
    List.filter_eq_nil_iff.mpr fun _ hd => QueuedBlock.not_isMet_of_mem_demands hd
  have hperm := h.demands_perm.filter (·.isMet l.acknowledged)
  rw [List.filter_append, List.filter_append, hmet, hlost, hwaiting] at hperm
  simpa using hperm

/-- The calls answered well are those whose demands are met. -/
theorem answered_well (h : l.Settles demands met lost failure c) :
    ((l.answers.filter (·.outcome.isOk)).map (·.call)).Perm
      ((demands.filter (·.isMet l.acknowledged)).map (·.call)) := by
  have hperm := h.answers_perm.filter (·.outcome.isOk)
  have hok : (SinkCall.answerAll (met.map (·.call)) (.ok ())).filter (·.outcome.isOk)
      = SinkCall.answerAll (met.map (·.call)) (.ok ()) := by
    refine List.filter_eq_self.mpr fun a ha => ?_
    rw [SinkCore.mem_answerAll ha]
    rfl
  have herror : (SinkCall.answerAll (lost.map (·.call)) (.error failure)).filter (·.outcome.isOk)
      = [] := by
    refine List.filter_eq_nil_iff.mpr fun a ha => ?_
    rw [SinkCore.mem_answerAll ha]
    simp [Except.isOk, Except.toBool]
  rw [List.filter_append, hok, herror, List.append_nil] at hperm
  have hcalls := hperm.map (·.call)
  rw [SinkCore.map_call_answerAll] at hcalls
  exact hcalls.trans (h.filter_isMet.map (·.call)).symm

/-- With nothing queued every call has its answer. -/
theorem answers_verdict (h : l.Settles demands met lost failure c) (hqueue : c.queue = []) :
    l.answers.Perm (demands.map (SinkDemand.verdict l.acknowledged failure)) := by
  have hmet : met.map (SinkDemand.verdict l.acknowledged failure)
      = SinkCall.answerAll (met.map (·.call)) (.ok ()) := by
    rw [SinkCall.answerAll, List.map_map]
    exact List.map_congr_left fun d hd => by simp [SinkDemand.verdict, h.met_isMet d hd]
  have hlost : lost.map (SinkDemand.verdict l.acknowledged failure)
      = SinkCall.answerAll (lost.map (·.call)) (.error failure) := by
    rw [SinkCall.answerAll, List.map_map]
    exact List.map_congr_left fun d hd => by simp [SinkDemand.verdict, h.lost_not_isMet d hd]
  have hdemands := h.demands_perm
  rw [hqueue, QueuedBlock.demands, List.append_nil] at hdemands
  have hverdicts := hdemands.map (SinkDemand.verdict l.acknowledged failure)
  rw [List.map_append, hmet, hlost] at hverdicts
  exact h.answers_perm.trans hverdicts.symm

/-- What breaks a sink is an output error; to a sink that is whole any will do. -/
theorem exists_failure (h : l.Settles demands met lost failure c) (hc : c.Sound)
    (hqueue : c.queue = []) :
    ∃ failure : Failure, failure.code = .outputFailed ∧
      l.answers.Perm (demands.map (SinkDemand.verdict l.acknowledged failure)) := by
  cases hbroken : c.broken with
  | some f => exact ⟨f, hc.code_eq f hbroken, (h.of_broken hbroken).answers_verdict hqueue⟩
  | none =>
    obtain rfl := h.lost_eq_nil hbroken
    exact ⟨Sink.streamClosed, rfl, (h.of_nothing_lost Sink.streamClosed).answers_verdict hqueue⟩

end SinkLedger.Settles

namespace SinkCore

variable {c c' : SinkCore κ} {l : SinkLedger κ} {moments : List (SinkMoment κ)}
  {demands met lost : List (SinkDemand κ)} {failure : Failure}

theorem Turn.settles (h : c.Turn moments c') (hc : c.Sound) (hl : l.Fits c)
    (hs : l.Settles demands met lost failure c) :
    ∃ met' lost' failure',
      (l.enterAll moments).Settles (demands ++ l.demands moments) met' lost' failure' c' := by
  cases h with
  | quiet => exact ⟨met, lost, failure, by simpa using hs⟩
  | @answered call block hqueue hblock =>
    cases hbroken : c.broken with
    | none =>
      obtain rfl := hblock.resolve_right (by simp [hbroken])
      have hoffered := hl.offered_eq hbroken
      rw [hqueue, List.map_nil, List.append_nil] at hoffered
      refine ⟨_, _, _, hs.meet (d := { call, blocks := l.offered }) rfl ?_ ?_ hbroken⟩
      · simp [SinkLedger.enter, standing, hbroken]
      · exact SinkDemand.isMet_iff.mpr (by simp [hoffered])
    | some f =>
      have hshort := hs.length_lt (by simp [hbroken])
      have hlonger : l.offered.length
          ≤ (if block.isEmpty then l.offered else l.offered ++ [block]).length := by
        split <;> simp
      refine ⟨_, _, _, (hs.of_broken hbroken).lose
        (d := { call, blocks := if block.isEmpty then l.offered else l.offered ++ [block] })
        rfl ?_ hqueue hqueue hbroken ?_ ?_⟩
      · simp [SinkLedger.enter, standing, hbroken]
      · exact Nat.lt_of_lt_of_le hshort hlonger
      · exact Nat.lt_of_lt_of_le hshort hlonger
  | @joined call hqueue =>
    have hbroken := hc.broken_eq_none hqueue
    refine ⟨_, _, _, hs.wait (d := { call, blocks := l.offered }) rfl rfl ?_ rfl hbroken⟩
    rw [hl.offered_eq hbroken]
    exact QueuedBlock.demands_await call _ hqueue
  | @queued call block hblock hbroken hqueue =>
    have hempty : block.isEmpty = false := by simpa using hblock
    simp only [SinkLedger.demands_cons, SinkLedger.enterAll_cons, SinkLedger.enter, hempty]
    refine ⟨_, _, _, hs.wait (d := { call, blocks := l.offered ++ [block] }) rfl rfl ?_ rfl hbroken⟩
    rw [hl.offered_eq hbroken]
    exact QueuedBlock.demands_append ..
  | @passed call block hblock hbroken hqueue =>
    have hempty : block.isEmpty = false := by simpa using hblock
    simp only [SinkLedger.demands_cons, SinkLedger.enterAll_cons, SinkLedger.enter, hempty]
    refine ⟨_, _, _, hs.wait (d := { call, blocks := l.offered ++ [block] }) rfl rfl ?_ rfl hbroken⟩
    have hoffered := hl.offered_eq hbroken
    rw [hqueue, List.map_nil, List.append_nil] at hoffered
    rw [hoffered, hqueue]
    rfl
  | @refused call block f hblock hbroken hqueue hcode =>
    have hempty : block.isEmpty = false := by simpa using hblock
    have hoffered := hl.offered_eq hbroken
    rw [hqueue, List.map_nil, List.append_nil] at hoffered
    obtain rfl := hs.lost_eq_nil hbroken
    simp only [SinkLedger.demands_cons, SinkLedger.enterAll_cons, SinkLedger.enter, hempty]
    refine ⟨_, _, _, (hs.of_nothing_lost f).lose
      (d := { call, blocks := l.offered ++ [block] }) rfl rfl hqueue rfl rfl ?_ ?_⟩
    · simp [hoffered]
    · simp [hoffered]
  | @drained b answers hqueue hanswers =>
    have hbroken := hc.broken_eq_none (by simp [hqueue])
    have hopen : l.unanswered = [b.bytes] := by simp [hl.unanswered_eq, hqueue]
    rw [SinkLedger.demands_eq_nil _ (by simp), List.append_nil]
    refine ⟨_, [], failure, hs.resolve hbroken (QueuedBlock.demands l.acknowledged [b]) []
      ?_ ?_ (SinkLedger.answers_enterAll_cons ..) ?_ ?_ (by simp) (by simp) (by simp [count, hbroken])⟩
    · simp [SinkLedger.enter, SinkLedger.enterAll_answered, hopen]
    · simp [hqueue, QueuedBlock.demands]
    · simpa [QueuedBlock.map_call_demands, SinkCall.answerAll] using hanswers
    · simp [SinkLedger.enter, SinkLedger.enterAll_answered, hopen, QueuedBlock.demands,
        SinkDemand.isMet_iff]
  | @advanced b next rest answers hqueue hanswers =>
    have hbroken := hc.broken_eq_none (by simp [hqueue])
    have hopen : l.unanswered = [b.bytes] := by simp [hl.unanswered_eq, hqueue]
    rw [SinkLedger.demands_eq_nil _ (by simp), List.append_nil]
    refine ⟨_, [], failure, hs.resolve hbroken (QueuedBlock.demands l.acknowledged [b]) []
      ?_ ?_ (SinkLedger.answers_enterAll_cons ..) ?_ ?_ (by simp) (by simp) (by simp [count, hbroken])⟩
    · simp [SinkLedger.enter, SinkLedger.enterAll_answered, hopen]
    · simp [SinkLedger.enter, SinkLedger.enterAll_answered, hopen, hqueue, QueuedBlock.demands]
    · simpa [QueuedBlock.map_call_demands, SinkCall.answerAll] using hanswers
    · simp [SinkLedger.enter, SinkLedger.enterAll_answered, hopen, QueuedBlock.demands,
        SinkDemand.isMet_iff]
  | @cutOff b next rest answers f hqueue hcode hanswers =>
    have hbroken := hc.broken_eq_none (by simp [hqueue])
    have hopen : l.unanswered = [b.bytes] := by simp [hl.unanswered_eq, hqueue]
    have hoffered := hl.offered_eq hbroken
    rw [hqueue] at hoffered
    rw [SinkLedger.demands_eq_nil _ (by simp), List.append_nil]
    refine ⟨_, _, f, hs.resolve hbroken (QueuedBlock.demands l.acknowledged [b])
      (QueuedBlock.demands (l.acknowledged ++ [b.bytes]) (next :: rest))
      ?_ ?_ (SinkLedger.answers_enterAll_cons ..) ?_ ?_ ?_ (fun _ => rfl) ?_⟩
    · simp [SinkLedger.enter, SinkLedger.enterAll_answered, hopen]
    · simp [hqueue, QueuedBlock.demands, breakWith]
    · simpa [QueuedBlock.map_call_demands, SinkCall.answerAll] using hanswers
    · simp [SinkLedger.enter, SinkLedger.enterAll_answered, hopen, QueuedBlock.demands,
        SinkDemand.isMet_iff]
    · intro d hd
      have hunmet := QueuedBlock.not_isMet_of_mem_demands hd
      simpa [SinkLedger.enter, SinkLedger.enterAll_answered, hopen] using hunmet
    · intro _
      simp [SinkLedger.enter, SinkLedger.enterAll_answered, hopen, hoffered]
  | @failed answers f hqueue hcode hanswers =>
    have hbroken := hc.broken_eq_none hqueue
    have hoffered := hl.offered_eq hbroken
    rw [SinkLedger.demands_eq_nil _ (by simp), List.append_nil]
    refine ⟨_, _, f, hs.resolve hbroken [] (QueuedBlock.demands l.acknowledged c.queue)
      ?_ ?_ (SinkLedger.answers_enterAll_cons ..) ?_ (by simp) ?_ (fun _ => rfl) ?_⟩
    · simp [SinkLedger.enter, SinkLedger.enterAll_answered]
    · simp [QueuedBlock.demands, breakWith]
    · simpa [QueuedBlock.map_call_demands, SinkCall.answerAll, waiting] using hanswers
    · intro d hd
      have hunmet := QueuedBlock.not_isMet_of_mem_demands hd
      simpa [SinkLedger.enter, SinkLedger.enterAll_answered] using hunmet
    · intro _
      have hpos := List.length_pos_iff.mpr hqueue
      simpa [SinkLedger.enter, SinkLedger.enterAll_answered, hoffered] using hpos

end SinkCore

namespace Sink

theorem fresh_settles (ended destroyed : Bool) (failure : Failure) :
    ({} : SinkLedger κ).Settles [] [] [] failure (fresh ended destroyed : Sink κ).core :=
  ⟨List.Perm.refl _, List.Perm.refl _, by simp, by simp, by simp, by simp [core, fresh]⟩

/-- The induction over a run: at the end of every event all demands so far are accounted for. -/
theorem run_settles {s : Sink κ} {l : SinkLedger κ} (hs : s.core.Sound) (hl : l.Fits s.core)
    {demands met lost : List (SinkDemand κ)} {failure : Failure}
    (hd : l.Settles demands met lost failure s.core) (events : List (SinkEvent κ)) :
    ∃ met' lost' failure',
      (l.enterAll (s.history events)).Settles (demands ++ l.demands (s.history events))
        met' lost' failure' (s.run events).core := by
  induction events generalizing s l demands met lost failure with
  | nil =>
    refine ⟨met, lost, failure, ?_⟩
    rw [history_nil, SinkLedger.demands_nil, List.append_nil]
    exact hd
  | cons e rest ih =>
    have hturn := step_turn hs e
    obtain ⟨met₁, lost₁, failure₁, hd₁⟩ := hturn.settles hs hl hd
    obtain ⟨met₂, lost₂, failure₂, hd₂⟩ := ih (hturn.sound hs) (hturn.fits hs hl) hd₁
    refine ⟨met₂, lost₂, failure₂, ?_⟩
    rw [history_cons, SinkLedger.enterAll_append, SinkLedger.demands_append, ← List.append_assoc]
    exact hd₂

end Sink

end FileSearch
