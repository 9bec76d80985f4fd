import FileSearch.Proofs.Output.Turn

/-!
# The order of blocks

Blocks reach the stream whole, in the order of the calls and one at a time: a block is passed on only
when every block before it was acknowledged (`Sink.serializes`). The ledger of what has come to pass
fits the state of the sink after every turn; whatever a turn passes to the stream is what that ledger
admits next.
-/

namespace FileSearch

variable {κ : Type}


-- ---------------------------------------------------------------------------
-- What a ledger admits
-- ---------------------------------------------------------------------------

namespace SinkLedger

/-- A block may be passed on once all blocks before it are acknowledged, and it is the next one in the
order of the calls. Nothing else is asked of what comes to pass. -/
def Admits (l : SinkLedger κ) : SinkMoment κ → Prop
  | .passed block => l.acknowledged = l.passed ∧ l.passed ++ [block] <+: l.offered
  | .called _ _ | .acknowledged | .failed | .answered _ => True

def AdmitsAll (l : SinkLedger κ) : List (SinkMoment κ) → Prop
  | [] => True
  | m :: rest => l.Admits m ∧ (l.enter m).AdmitsAll rest

@[simp] theorem admitsAll_nil (l : SinkLedger κ) : l.AdmitsAll [] := trivial

@[simp] theorem admitsAll_cons (l : SinkLedger κ) (m : SinkMoment κ) (rest : List (SinkMoment κ)) :
    l.AdmitsAll (m :: rest) ↔ l.Admits m ∧ (l.enter m).AdmitsAll rest := Iff.rfl

theorem admitsAll_append (l : SinkLedger κ) (xs ys : List (SinkMoment κ)) :
    l.AdmitsAll (xs ++ ys) ↔ l.AdmitsAll xs ∧ (l.enterAll xs).AdmitsAll ys := by
  induction xs generalizing l with
  | nil => simp
  | cons m rest ih => simp [ih, and_assoc]

@[simp] theorem admitsAll_answered (l : SinkLedger κ) (answers : List (SinkAnswer κ)) :
    l.AdmitsAll (answers.map .answered) := by
  induction answers generalizing l with
  | nil => trivial
  | cons a rest ih => exact ⟨trivial, ih _⟩

theorem AdmitsAll.of_prefix {l : SinkLedger κ} {past all : List (SinkMoment κ)}
    (h : l.AdmitsAll all) (hpast : past <+: all) : l.AdmitsAll past := by
  obtain ⟨rest, rfl⟩ := hpast
  exact ((admitsAll_append ..).mp h).1

/-- The blocks passed on are those acknowledged, and perhaps one more that has failed or is not
answered. -/
structure Steady (l : SinkLedger κ) : Prop where
  in_order : l.passed <+: l.offered
  passed_eq : ∃ failed, l.passed = l.acknowledged ++ failed ++ l.unanswered
    ∧ (failed ++ l.unanswered).length ≤ 1

theorem eq_nil_of_length_le_one {xs ys : List Bytes} {block : Bytes}
    (h : (xs ++ block :: ys).length ≤ 1) : xs = [] ∧ ys = [] := by
  simp only [List.length_append, List.length_cons] at h
  constructor <;> apply List.eq_nil_of_length_eq_zero <;> omega

theorem steady_empty : ({} : SinkLedger κ).Steady := ⟨List.prefix_rfl, [], rfl, by simp⟩

theorem Steady.enter {l : SinkLedger κ} (h : l.Steady) {m : SinkMoment κ} (hm : l.Admits m) :
    (l.enter m).Steady := by
  obtain ⟨horder, failed, hpassed, hlength⟩ := h
  cases m with
  | called call block =>
    refine ⟨?_, failed, hpassed, hlength⟩
    simp only [SinkLedger.enter]
    split
    · exact horder
    · exact horder.trans (List.prefix_append ..)
  | passed block =>
    obtain ⟨hall, hnext⟩ := hm
    have hnone : failed = [] ∧ l.unanswered = [] := by
      have hlen := congrArg List.length hpassed
      rw [← hall] at hlen
      simp only [List.length_append] at hlen
      constructor <;> apply List.eq_nil_of_length_eq_zero <;> omega
    refine ⟨hnext, [], ?_, ?_⟩
    · simp [SinkLedger.enter, hall, hnone.2]
    · simp [SinkLedger.enter, hnone.2]
  | acknowledged =>
    cases hopen : l.unanswered with
    | nil => exact ⟨horder, failed, by simp [SinkLedger.enter, hopen, hpassed],
        by simpa [SinkLedger.enter, hopen] using hlength⟩
    | cons block rest =>
      rw [hopen] at hlength
      obtain ⟨rfl, rfl⟩ := eq_nil_of_length_le_one hlength
      exact ⟨horder, [], by simp [SinkLedger.enter, hopen, hpassed], by simp [SinkLedger.enter, hopen]⟩
  | failed =>
    cases hopen : l.unanswered with
    | nil => exact ⟨horder, failed, by simp [SinkLedger.enter, hopen, hpassed],
        by simpa [SinkLedger.enter, hopen] using hlength⟩
    | cons block rest =>
      rw [hopen] at hlength
      obtain ⟨rfl, rfl⟩ := eq_nil_of_length_le_one hlength
      exact ⟨horder, [block], by simp [SinkLedger.enter, hopen, hpassed],
        by simp [SinkLedger.enter, hopen]⟩
  | answered a => exact ⟨horder, failed, hpassed, hlength⟩

theorem Steady.enterAll {l : SinkLedger κ} (h : l.Steady) {moments : List (SinkMoment κ)}
    (hm : l.AdmitsAll moments) : (l.enterAll moments).Steady := by
  induction moments generalizing l with
  | nil => exact h
  | cons m rest ih => exact ih (h.enter hm.1) hm.2

end SinkLedger


-- ---------------------------------------------------------------------------
-- Ledger and sink
-- ---------------------------------------------------------------------------

/-- What the ledger knows of the state of the sink. -/
structure SinkLedger.Fits (l : SinkLedger κ) (c : SinkCore κ) : Prop where
  unanswered_eq : l.unanswered = (c.queue.map (·.bytes)).take 1
  passed_eq : c.broken = none → l.passed = l.acknowledged ++ l.unanswered
  offered_eq : c.broken = none → l.offered = l.acknowledged ++ c.queue.map (·.bytes)
  blocksWritten_eq : c.blocksWritten = l.acknowledged.length
  bytesWritten_eq : c.bytesWritten = l.acknowledged.flatten.length
  calls_perm : (l.answers.map (·.call) ++ c.waiting).Perm l.calls
  broken_of_error : ∀ a ∈ l.answers, ∀ failure, a.outcome = .error failure →
    c.broken = some failure

/-- Once the stream has answered every write, no block is left. -/
theorem SinkLedger.Fits.queue_eq_nil {l : SinkLedger κ} {c : SinkCore κ} (h : l.Fits c)
    (hanswered : l.unanswered = []) : c.queue = [] := by
  cases hqueue : c.queue with
  | nil => rfl
  | cons b rest =>
    have hopen := h.unanswered_eq
    rw [hanswered, hqueue] at hopen
    cases hopen

namespace SinkCore

variable {c c' : SinkCore κ} {l : SinkLedger κ} {moments : List (SinkMoment κ)}

theorem Turn.admitsAll (h : c.Turn moments c') (hc : c.Sound) (hl : l.Fits c) :
    l.AdmitsAll moments := by
  cases h with
  | quiet => trivial
  | answered => exact ⟨trivial, trivial, trivial⟩
  | joined => exact ⟨trivial, trivial⟩
  | queued => exact ⟨trivial, trivial⟩
  | @passed call block hblock hbroken hqueue =>
    have hopen : l.unanswered = [] := by simp [hl.unanswered_eq, hqueue]
    have hpassed := hl.passed_eq hbroken
    have hoffered := hl.offered_eq hbroken
    simp only [hopen, hqueue, List.map_nil, List.append_nil] at hpassed hoffered
    refine ⟨trivial, ⟨hpassed.symm, ?_⟩, trivial⟩
    simp [SinkLedger.enter, hblock, hpassed, hoffered]
  | refused => exact ⟨trivial, trivial, trivial⟩
  | drained => exact ⟨trivial, SinkLedger.admitsAll_answered ..⟩
  | @advanced b next rest answers hqueue hanswers =>
    have hbroken := hc.broken_eq_none (by simp [hqueue])
    have hopen : l.unanswered = [b.bytes] := by simp [hl.unanswered_eq, hqueue]
    have hpassed := hl.passed_eq hbroken
    have hoffered := hl.offered_eq hbroken
    refine ⟨trivial, ⟨?_, ?_⟩, SinkLedger.admitsAll_answered ..⟩
    · simp [SinkLedger.enter, hpassed, hopen]
    · simp [SinkLedger.enter, hpassed, hoffered, hopen, hqueue]
  | cutOff => exact ⟨trivial, SinkLedger.admitsAll_answered ..⟩
  | failed => exact ⟨trivial, SinkLedger.admitsAll_answered ..⟩

theorem Turn.fits (h : c.Turn moments c') (hc : c.Sound) (hl : l.Fits c) :
    (l.enterAll moments).Fits c' := by
  have hcalls : ((l.enterAll moments).answers.map (·.call) ++ c'.waiting).Perm
      (l.enterAll moments).calls := by
    rw [SinkLedger.answers_enterAll, SinkLedger.calls_enterAll, List.map_append, List.append_assoc]
    refine (h.calls_perm.append_left _).trans ?_
    rw [← List.append_assoc]
    exact hl.calls_perm.append_right _
  have herror : ∀ a ∈ (l.enterAll moments).answers, ∀ failure, a.outcome = .error failure →
      c'.broken = some failure := by
    intro a ha failure hfailure
    rw [SinkLedger.answers_enterAll] at ha
    rcases List.mem_append.mp ha with ha | ha
    · exact h.broken_mono hc (hl.broken_of_error a ha failure hfailure)
    · exact h.broken_of_error ha hfailure
  have hblocks := hl.blocksWritten_eq
  have hbytes := hl.bytesWritten_eq
  have hopen := hl.unanswered_eq
  cases h with
  | quiet => exact hl
  | answered hqueue hblock =>
    refine ⟨hopen, hl.passed_eq, ?_, hblocks, hbytes, hcalls, herror⟩
    intro hbroken
    obtain rfl := hblock.resolve_right (by simp [hbroken])
    exact hl.offered_eq hbroken
  | joined hqueue =>
    refine ⟨?_, hl.passed_eq, ?_, hblocks, hbytes, hcalls, herror⟩
    · simpa [SinkLedger.enter] using hopen
    · intro hbroken
      simpa [SinkLedger.enter] using hl.offered_eq hbroken
  | queued hblock hbroken hqueue =>
    refine ⟨?_, hl.passed_eq, ?_, hblocks, hbytes, hcalls, herror⟩
    · obtain ⟨b, rest, hcons⟩ := List.exists_cons_of_ne_nil hqueue
      simpa [SinkLedger.enter, hcons] using hopen
    · simp [SinkLedger.enter, hblock, hl.offered_eq hbroken]
  | passed hblock hbroken hqueue =>
    have hpassed := hl.passed_eq hbroken
    have hoffered := hl.offered_eq hbroken
    rw [hqueue] at hopen hoffered
    refine ⟨?_, ?_, ?_, hblocks, hbytes, hcalls, herror⟩
    · simp [SinkLedger.enter, hopen]
    · simp [SinkLedger.enter, hpassed]
    · simp [SinkLedger.enter, hblock, hoffered]
  | refused hblock hbroken hqueue =>
    refine ⟨?_, by simp [breakWith], by simp [breakWith], hblocks, hbytes, hcalls, herror⟩
    simp [SinkLedger.enter, breakWith, hopen, hqueue]
  | @drained b answers hqueue =>
    have hbroken := hc.broken_eq_none (by simp [hqueue])
    have hpassed := hl.passed_eq hbroken
    have hoffered := hl.offered_eq hbroken
    rw [hqueue] at hopen hoffered
    refine ⟨?_, ?_, ?_, ?_, ?_, hcalls, herror⟩
    · simp [SinkLedger.enter, SinkLedger.enterAll_answered, hopen]
    · simp [SinkLedger.enter, SinkLedger.enterAll_answered, hopen, hpassed]
    · simp [SinkLedger.enter, SinkLedger.enterAll_answered, hopen, hoffered]
    · simp [SinkLedger.enter, SinkLedger.enterAll_answered, hopen, hblocks, count]
    · simp [SinkLedger.enter, SinkLedger.enterAll_answered, hopen, hbytes, count]
  | @advanced b next rest answers hqueue =>
    have hbroken := hc.broken_eq_none (by simp [hqueue])
    have hpassed := hl.passed_eq hbroken
    have hoffered := hl.offered_eq hbroken
    rw [hqueue] at hopen hoffered
    refine ⟨?_, ?_, ?_, ?_, ?_, hcalls, herror⟩
    · simp [SinkLedger.enter, SinkLedger.enterAll_answered, hopen]
    · simp [SinkLedger.enter, SinkLedger.enterAll_answered, hopen, hpassed]
    · simp [SinkLedger.enter, SinkLedger.enterAll_answered, hopen, hoffered]
    · simp [SinkLedger.enter, SinkLedger.enterAll_answered, hopen, hblocks, count]
    · simp [SinkLedger.enter, SinkLedger.enterAll_answered, hopen, hbytes, count]
  | @cutOff b next rest answers failure hqueue =>
    rw [hqueue] at hopen
    refine ⟨?_, by simp [breakWith], by simp [breakWith], ?_, ?_, hcalls, herror⟩
    · simp [SinkLedger.enter, SinkLedger.enterAll_answered, hopen, breakWith]
    · simp [SinkLedger.enter, SinkLedger.enterAll_answered, hopen, hblocks, count, breakWith]
    · simp [SinkLedger.enter, SinkLedger.enterAll_answered, hopen, hbytes, count, breakWith]
  | failed hqueue =>
    refine ⟨?_, by simp [breakWith], by simp [breakWith], ?_, ?_, hcalls, herror⟩
    · simp [SinkLedger.enter, SinkLedger.enterAll_answered, hopen, breakWith]
    · simpa [SinkLedger.enter, SinkLedger.enterAll_answered, breakWith] using hblocks
    · simpa [SinkLedger.enter, SinkLedger.enterAll_answered, breakWith] using hbytes

end SinkCore

namespace Sink

/-- A new sink on a stream with no write under way. -/
def fresh (ended destroyed : Bool) : Sink κ := { stream := { ended, destroyed } }

theorem fresh_sound (ended destroyed : Bool) : (fresh ended destroyed : Sink κ).core.Sound :=
  ⟨rfl, by simp [core, fresh], by simp [core, fresh], by simp [core, fresh]⟩

theorem fresh_fits (ended destroyed : Bool) :
    ({} : SinkLedger κ).Fits (fresh ended destroyed : Sink κ).core :=
  ⟨rfl, fun _ => rfl, fun _ => rfl, rfl, rfl, List.Perm.refl _, by simp⟩

/-- The induction over a run: each step is a turn, which the ledger so far admits and fits. -/
theorem run_fits {s : Sink κ} {l : SinkLedger κ} (hs : s.core.Sound) (hl : l.Fits s.core)
    (events : List (SinkEvent κ)) :
    (s.run events).core.Sound ∧ (l.enterAll (s.history events)).Fits (s.run events).core ∧
      l.AdmitsAll (s.history events) := by
  induction events generalizing s l with
  | nil => exact ⟨hs, hl, trivial⟩
  | cons e rest ih =>
    have hturn := step_turn hs e
    obtain ⟨hsound, hfits, hadmits⟩ := ih (hturn.sound hs) (hturn.fits hs hl)
    rw [run_cons, history_cons, SinkLedger.enterAll_append, SinkLedger.admitsAll_append]
    exact ⟨hsound, hfits, hturn.admitsAll hs hl, hadmits⟩

/-- Whatever calls and stream events a sink sees, in any order, at every moment: the blocks passed to
the stream are the first of those offered, each whole and in order; all of them but at most one are
acknowledged; and a block is passed on only when all before it are acknowledged. The counters tell
what is acknowledged, and once the stream has answered every write no call is left without answer. -/
theorem serializes (ended destroyed : Bool) (events : List (SinkEvent κ)) :
    let s : Sink κ := (fresh ended destroyed).run events
    let history : List (SinkMoment κ) := (fresh ended destroyed).history events
    let ledger := SinkLedger.of history
    (∀ past, past <+: history →
      (SinkLedger.of past).passed <+: (SinkLedger.of past).offered ∧
      (SinkLedger.of past).acknowledged <+: (SinkLedger.of past).passed ∧
      (SinkLedger.of past).unanswered.length ≤ 1 ∧
      (SinkLedger.of past).passed.length ≤ (SinkLedger.of past).acknowledged.length + 1) ∧
    (∀ past block, past ++ [.passed block] <+: history →
      (SinkLedger.of past).acknowledged = (SinkLedger.of past).passed ∧
      (SinkLedger.of past).passed ++ [block] <+: (SinkLedger.of past).offered) ∧
    s.blocksWritten = ledger.acknowledged.length ∧
    s.bytesWritten = ledger.acknowledged.flatten.length ∧
    (ledger.unanswered = [] → (ledger.answers.map (·.call)).Perm ledger.calls) := by
  intro s history ledger
  obtain ⟨hsound, hfits, hadmits⟩ :=
    run_fits (fresh_sound ended destroyed) (fresh_fits ended destroyed) events
  refine ⟨?_, ?_, hfits.blocksWritten_eq, hfits.bytesWritten_eq, ?_⟩
  · intro past hpast
    have hsteady : (SinkLedger.of past).Steady :=
      SinkLedger.steady_empty.enterAll (hadmits.of_prefix hpast)
    obtain ⟨failed, hpassed, hlength⟩ := hsteady.passed_eq
    have hcount := congrArg List.length hpassed
    simp only [List.length_append] at hcount hlength
    refine ⟨hsteady.in_order, ?_, by omega, by omega⟩
    rw [hpassed, List.append_assoc]
    exact List.prefix_append ..
  · intro past block hpast
    have hnext := (SinkLedger.admitsAll_append ..).mp (hadmits.of_prefix hpast)
    exact hnext.2.1
  · intro hanswered
    have hqueue : s.core.queue = [] := hfits.queue_eq_nil hanswered
    have hcalls := hfits.calls_perm
    rw [show s.core.waiting = [] by simp [SinkCore.waiting, hqueue], List.append_nil] at hcalls
    exact hcalls

end Sink

end FileSearch
