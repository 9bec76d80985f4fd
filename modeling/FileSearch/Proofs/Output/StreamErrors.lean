import FileSearch.Proofs.Output.FailStop

/-!
# Errors of the stream

A sink that has heard of an error of its stream passes nothing on, and a block offered after that is
never accepted. Calls that bring no block are another matter: they ask only for what was offered
before, and succeed if the stream had acknowledged all of it (`Sink.rejects_after_error`). So a flush
of an idle sink succeeds although its stream has failed (`Sink.idle_flush_succeeds_after_error`).
-/

namespace FileSearch

variable {κ : Type}

namespace Sink

variable {s : Sink κ}


-- ---------------------------------------------------------------------------
-- Sinks that have heard of an error
-- ---------------------------------------------------------------------------

theorem refusal?_of_heard (h : s.heard.isSome) : ∃ failure, s.refusal? = some failure := by
  obtain ⟨fault, hfault⟩ := Option.isSome_iff_exists.mp h
  exact ⟨writeFailed fault, by simp [refusal?, hfault]⟩

theorem handOver_of_heard (h : s.heard.isSome) (round : Nat) :
    (s.handOver round).1.heard = s.heard ∧ (s.handOver round).2.1 = [] := by
  unfold handOver
  split
  · exact ⟨rfl, rfl⟩
  · obtain ⟨failure, hrefusal⟩ := refusal?_of_heard h
    rw [hrefusal]
    exact ⟨rfl, rfl⟩

theorem awaitLast_heard (s : Sink κ) (call : SinkCall κ) :
    (s.awaitLast call).1.heard = s.heard ∧ (s.awaitLast call).2.delivered = [] := by
  unfold awaitLast
  split <;> exact ⟨rfl, rfl⟩

theorem write_of_heard (h : s.heard.isSome) (caller : κ) (block : Bytes) :
    (s.write caller block).1.heard = s.heard ∧ (s.write caller block).2.delivered = [] := by
  simp only [write]
  split
  · exact awaitLast_heard ..
  · split
    · exact handOver_of_heard (s := { s with queue := s.queue ++ [_] }) h 0
    · exact ⟨rfl, rfl⟩

theorem answered_of_heard (h : s.heard.isSome) (answer : Except Fault Unit) :
    (s.answered answer).1.heard = s.heard ∧ (s.answered answer).2.delivered = [] := by
  cases answer with
  | error fault => exact ⟨rfl, rfl⟩
  | ok _ =>
    cases hqueue : s.queue with
    | nil => simp [answered, hqueue]
    | cons b rest =>
      let s₁ : Sink κ := { s with
        queue := rest
        bytesWritten := s.bytesWritten + b.bytes.length
        blocksWritten := s.blocksWritten + 1 }
      have hanswered : s.answered (.ok ()) = (s₁.handOver 3).1.reply (s₁.handOver 3).2.1
          (b.answers 0 (.ok ()) ++ (s₁.handOver 3).2.2) := by
        simp [answered, hqueue, s₁]
      rw [hanswered]
      exact handOver_of_heard (s := s₁) h 3

/-- What a stream event comes to, once it has been heard. -/
theorem onStream_of_heard {e : StreamEvent}
    (h : ({ s with stream := (s.stream.step e).1 }.hear (s.stream.step e).2.error).heard.isSome) :
    (s.onStream e).1.heard.isSome ∧ (s.onStream e).2.delivered = [] := by
  simp only [onStream]
  split
  · exact ⟨h, rfl⟩
  · obtain ⟨hheard, hdelivered⟩ := answered_of_heard h _
    exact ⟨hheard ▸ h, hdelivered⟩

theorem hear_of_heard (h : s.heard.isSome) (error : Option Fault) : (s.hear error).heard.isSome := by
  unfold hear
  split
  · obtain ⟨fault, hfault⟩ := Option.isSome_iff_exists.mp h
    simp [hfault]
  · exact h

/-- An error that the stream reports is heard by a sink that listens. -/
theorem heard_of_error {e : StreamEvent} (hlistening : s.listening)
    (herror : (s.onStream e).2.errors ≠ []) :
    (s.onStream e).1.heard.isSome ∧ (s.onStream e).2.delivered = [] := by
  apply onStream_of_heard
  have hsome : (s.stream.step e).2.error.isSome := by
    cases herr : (s.stream.step e).2.error with
    | none => exact absurd (by simp [onStream, herr]) herror
    | some fault => rfl
  simp only [hear, hlistening, if_true]
  cases s.heard <;> simp [hsome]

theorem step_of_heard (h : s.heard.isSome) (e : SinkEvent κ) :
    (s.step e).1.heard.isSome ∧ (s.step e).2.delivered = [] := by
  cases e with
  | write caller block =>
    obtain ⟨hheard, hdelivered⟩ := write_of_heard h caller block
    exact ⟨hheard ▸ h, hdelivered⟩
  | flush caller =>
    obtain ⟨hheard, hdelivered⟩ := awaitLast_heard s { caller, kind := .flush }
    exact ⟨hheard ▸ h, hdelivered⟩
  | close caller =>
    obtain ⟨hheard, hdelivered⟩ := awaitLast_heard s { caller, kind := .close }
    exact ⟨hheard ▸ h, hdelivered⟩
  | stream e =>
    exact onStream_of_heard (hear_of_heard (s := { s with stream := (s.stream.step e).1 }) h _)

/-- A sink that has heard of an error passes nothing on any more. -/
theorem passed_of_heard (h : s.heard.isSome) (events : List (SinkEvent κ)) :
    (s.history events).filterMap SinkMoment.passed? = [] := by
  induction events generalizing s with
  | nil => rfl
  | cons e rest ih =>
    obtain ⟨hheard, hdelivered⟩ := step_of_heard h e
    rw [history_cons, List.filterMap_append, passed_moments, hdelivered, ih hheard]
    rfl

end Sink


-- ---------------------------------------------------------------------------
-- Calls made after an error
-- ---------------------------------------------------------------------------

namespace SinkLedger

/-- A call asks for all that was offered before it. -/
theorem offered_prefix_of_mem_demands {l : SinkLedger κ} {moments : List (SinkMoment κ)}
    {d : SinkDemand κ} (hd : d ∈ l.demands moments) : l.offered <+: d.blocks := by
  induction moments generalizing l with
  | nil => simp at hd
  | cons m rest ih =>
    have hgrown : l.offered <+: (l.enter m).offered := by
      rw [show l.enter m = l.enterAll [m] from rfl, offered_enterAll]
      exact List.prefix_append ..
    rw [demands_cons] at hd
    rcases List.mem_append.mp hd with hd | hd
    · obtain ⟨call, -, rfl⟩ := List.mem_map.mp hd
      exact hgrown
    · exact hgrown.trans (ih hd)

end SinkLedger

namespace Sink

/-- A sink listens to its stream, and the stream reports an error. From then on nothing is passed to
the stream. What a later call asks for is met only if it brings no block, nor does any call between
the error and it, and all that was offered before the error is acknowledged. When the stream has
answered every write, the calls that are not met have failed with an output error, and the others
have succeeded. -/
theorem rejects_after_error (ended destroyed : Bool) (before after : List (SinkEvent κ))
    (e : StreamEvent) (hlistening : ((fresh ended destroyed : Sink κ).run before).listening)
    (herror : (((fresh ended destroyed : Sink κ).run before).onStream e).2.errors ≠ []) :
    let past : List (SinkMoment κ) := (fresh ended destroyed).history (before ++ [.stream e])
    let later := ((fresh ended destroyed : Sink κ).run (before ++ [.stream e])).history after
    let ledger := SinkLedger.of (past ++ later)
    later.filterMap SinkMoment.passed? = [] ∧
    (∀ d ∈ (SinkLedger.of past).demands later,
      (SinkLedger.of past).offered <+: d.blocks ∧
      (d.isMet ledger.acknowledged → d.blocks = (SinkLedger.of past).offered)) ∧
    (ledger.unanswered = [] → ∃ failure : Failure, failure.code = .outputFailed ∧
      ledger.answers.Perm ((({} : SinkLedger κ).demands (past ++ later)).map
        (SinkDemand.verdict ledger.acknowledged failure))) := by
  intro past later ledger
  have hheard : ((fresh ended destroyed : Sink κ).run (before ++ [.stream e])).heard.isSome := by
    rw [run_append]
    exact (heard_of_error hlistening herror).1
  have hpassed : later.filterMap SinkMoment.passed? = [] := passed_of_heard hheard after
  have hhistory : past ++ later
      = (fresh ended destroyed).history (before ++ [.stream e] ++ after) :=
    (history_append ..).symm
  obtain ⟨hsound, hfits, hadmits⟩ := run_fits (fresh_sound ended destroyed)
    (fresh_fits ended destroyed) (before ++ [.stream e] ++ after : List (SinkEvent κ))
  rw [← hhistory] at hfits hadmits
  change ledger.Fits _ at hfits
  -- What is acknowledged in the end was passed, and so offered, before the error came.
  have hacknowledged : ledger.acknowledged <+: (SinkLedger.of past).offered := by
    have hsteady : ledger.Steady := SinkLedger.steady_empty.enterAll hadmits
    have hearlier : (SinkLedger.of past).Steady :=
      SinkLedger.steady_empty.enterAll (hadmits.of_prefix (List.prefix_append ..))
    obtain ⟨failed, hsplit, -⟩ := hsteady.passed_eq
    have hsame : ledger.passed = (SinkLedger.of past).passed := by
      change (SinkLedger.enterAll {} (past ++ later)).passed = _
      rw [SinkLedger.enterAll_append, SinkLedger.passed_enterAll, hpassed, List.append_nil]
      rfl
    have hfirst : ledger.acknowledged <+: (SinkLedger.of past).passed := by
      rw [← hsame, hsplit, List.append_assoc]
      exact List.prefix_append ..
    exact hfirst.trans hearlier.in_order
  refine ⟨hpassed, ?_, ?_⟩
  · intro d hd
    have hoffered := SinkLedger.offered_prefix_of_mem_demands hd
    refine ⟨hoffered, fun hmet => ?_⟩
    have hblocks := (SinkDemand.isMet_iff.mp hmet).trans hacknowledged
    exact hblocks.eq_of_length_le hoffered.length_le
  · intro hanswered
    obtain ⟨met, lost, failure, hsettles⟩ := run_settles (fresh_sound ended destroyed)
      (fresh_fits ended destroyed) (fresh_settles ended destroyed streamClosed)
      (before ++ [.stream e] ++ after : List (SinkEvent κ))
    rw [← hhistory, List.nil_append] at hsettles
    exact hsettles.exists_failure hsound (hfits.queue_eq_nil hanswered)

/-- The stream is destroyed with an error. -/
def boom : StreamEvent := .destroyed (some "boom")

/-- A block and its acknowledgement, before the stream breaks with nothing under way. -/
def wroteOne : List (SinkEvent Nat) := [.write 0 [0x61], .stream .acknowledged]

def askedLater : List (SinkEvent Nat) := [.flush 1, .write 2 [0x62], .flush 3, .write 4 []]

theorem rejects_after_error_wrote_one :
    let broken : Sink Nat := (fresh false false).run (wroteOne ++ [.stream boom])
    let failure := writeFailed { message := "boom" }
    ((fresh false false).run wroteOne).listening ∧
    (((fresh false false).run wroteOne).onStream boom).2.errors ≠ [] ∧
    (broken.history askedLater).filterMap SinkMoment.passed? = [] ∧
    (broken.history askedLater).filterMap SinkMoment.answer?
      = [{ call := { caller := 1, kind := .flush }, outcome := .ok () },
        { call := { caller := 2, kind := .write }, outcome := .error failure },
        { call := { caller := 3, kind := .flush }, outcome := .error failure },
        { call := { caller := 4, kind := .write }, outcome := .error failure }] := by
  have hlistening : ((fresh false false).run wroteOne).listening := by cbv
  have herror : (((fresh false false).run wroteOne).onStream boom).2.errors ≠ [] := by
    have hboom : (((fresh false false).run wroteOne).onStream boom).2.errors
        = [{ message := "boom" }] := by cbv
    rw [hboom]
    exact List.cons_ne_nil _ _
  have hpassed := (rejects_after_error false false wroteOne askedLater boom hlistening herror).1
  exact ⟨hlistening, herror, hpassed, by cbv⟩

/-- Not every flush after an error fails: nothing was written to the stream before, so there is
nothing it could ask for. -/
theorem idle_flush_succeeds_after_error :
    ¬ ∀ (before after : List (SinkEvent Nat)) (e : StreamEvent),
      ((fresh false false : Sink Nat).run before).listening →
      (((fresh false false : Sink Nat).run before).onStream e).2.errors ≠ [] →
      ∀ a ∈ (((fresh false false : Sink Nat).run (before ++ [.stream e])).history after).filterMap
        SinkMoment.answer?,
      ∃ failure : Failure, a.outcome = .error failure ∧ failure.code = .outputFailed := by
  intro hall
  have herror : ((fresh false false : Sink Nat).onStream boom).2.errors ≠ [] := by
    have hboom : ((fresh false false : Sink Nat).onStream boom).2.errors
        = [{ message := "boom" }] := by cbv
    rw [hboom]
    exact List.cons_ne_nil _ _
  have hanswers : ((((fresh false false : Sink Nat).run ([] ++ [.stream boom])).history
      [.flush 0]).filterMap SinkMoment.answer?)
      = [{ call := { caller := 0, kind := .flush }, outcome := .ok () }] := by cbv
  have hmem := List.mem_singleton_self
    ({ call := { caller := 0, kind := .flush }, outcome := .ok () } : SinkAnswer Nat)
  rw [← hanswers] at hmem
  obtain ⟨failure, houtcome, -⟩ := hall [] [.flush 0] boom rfl herror _ hmem
  cases houtcome

end Sink

end FileSearch
