import FileSearch.Proofs.Output.Demands
import Mathlib.Data.List.Permutation

/-!
# A sink stops at the first failure

The first call that fails ends all work of a sink: nothing is passed to the stream any more, and
whatever waits then or is asked for later fails in the same way (`Sink.fail_stop`). Answers that an
event brings about are ordered by their rounds, and good ones come before bad ones.
-/

namespace FileSearch

variable {κ : Type}


-- ---------------------------------------------------------------------------
-- The order of answers
-- ---------------------------------------------------------------------------

/-- Behind a bad answer there are only answers like it. -/
def SinkAnswer.Precedes (a b : SinkAnswer κ) : Prop :=
  ∀ failure, a.outcome = .error failure → b.outcome = .error failure

theorem SinkAnswer.precedes_of_ok {a b : SinkAnswer κ} (ha : a.outcome = .ok ()) : a.Precedes b := by
  intro failure hfailure
  rw [ha] at hfailure
  cases hfailure

namespace QueuedBlock

theorem mem_answers {b : QueuedBlock κ} {round : Nat} {outcome : Except Failure Unit}
    {x : Nat × SinkAnswer κ} (hx : x ∈ b.answers round outcome) :
    x.1 ≤ round + 2 ∧ x.2.outcome = outcome := by
  obtain ⟨call, -, rfl⟩ := List.mem_map.mp hx
  refine ⟨?_, rfl⟩
  cases call.kind <;> simp [CallKind.delay]

theorem mem_rejections {failure : Failure} {round : Nat} {queue : List (QueuedBlock κ)}
    {x : Nat × SinkAnswer κ} (hx : x ∈ rejections failure round queue) :
    round ≤ x.1 ∧ x.2.outcome = .error failure := by
  induction queue generalizing round with
  | nil => simp [rejections] at hx
  | cons b rest ih =>
    rcases List.mem_append.mp hx with hx | hx
    · obtain ⟨call, -, rfl⟩ := List.mem_map.mp hx
      exact ⟨Nat.le_add_right .., rfl⟩
    · obtain ⟨hround, houtcome⟩ := ih hx
      exact ⟨by omega, houtcome⟩

end QueuedBlock

namespace Sink

/-- Answers are in order if those of a later round may follow those of an earlier one. -/
theorem reply_pairwise (s : Sink κ) (delivered : List Bytes) {answers : List (Nat × SinkAnswer κ)}
    (h : ∀ x ∈ answers, ∀ y ∈ answers, x.1 ≤ y.1 → x.2.Precedes y.2) :
    (s.reply delivered answers).2.answers.Pairwise SinkAnswer.Precedes := by
  have hsorted : (answers.mergeSort fun a b => a.1 ≤ b.1).Pairwise
      fun a b => decide (a.1 ≤ b.1) = true := by
    apply List.pairwise_mergeSort
    · intro a b c hab hbc
      simp only [decide_eq_true_eq] at hab hbc ⊢
      omega
    · intro a b
      simp only [Bool.or_eq_true, decide_eq_true_eq]
      omega
  refine List.pairwise_map.mpr (hsorted.imp_of_mem ?_)
  intro a b ha hb hle
  exact h a (List.mem_mergeSort.mp ha) b (List.mem_mergeSort.mp hb) (of_decide_eq_true hle)

theorem awaitLast_pairwise (s : Sink κ) (call : SinkCall κ) :
    (s.awaitLast call).2.answers.Pairwise SinkAnswer.Precedes := by
  unfold awaitLast
  split
  · simp [reply]
  · exact List.Pairwise.nil

/-- The answers when a block is handed over behind others that are answered well: should the stream
refuse it, its own answers come in later rounds. -/
theorem handOver_pairwise (s : Sink κ) (round : Nat) (before : List (Nat × SinkAnswer κ))
    (hround : ∀ x ∈ before, x.1 < round) (hok : ∀ x ∈ before, x.2.outcome = .ok ()) :
    ((s.handOver round).1.reply (s.handOver round).2.1
      (before ++ (s.handOver round).2.2)).2.answers.Pairwise SinkAnswer.Precedes := by
  have hrejected : (s.handOver round).2.2 = [] ∨
      ∃ failure, (s.handOver round).2.2 = QueuedBlock.rejections failure round s.queue := by
    cases hqueue : s.queue with
    | nil => exact .inl (by simp [handOver, hqueue])
    | cons b rest =>
      rcases handOver_cases hqueue round with htaken | ⟨failure, -, hrefused⟩
      · exact .inl (by rw [htaken])
      · exact .inr ⟨failure, by rw [hrefused]⟩
  apply reply_pairwise
  intro x hx y hy hle
  rcases List.mem_append.mp hx with hx | hx
  · exact SinkAnswer.precedes_of_ok (hok x hx)
  · rcases hrejected with hnone | ⟨failure, hall⟩
    · rw [hnone] at hx
      cases hx
    · rw [hall] at hx hy
      obtain ⟨hlate, hfailed⟩ := QueuedBlock.mem_rejections hx
      intro f hf
      rw [hfailed] at hf
      rcases List.mem_append.mp hy with hy | hy
      · have hearly := hround y hy
        omega
      · rw [(QueuedBlock.mem_rejections hy).2]
        exact hf

theorem write_pairwise (s : Sink κ) (caller : κ) (block : Bytes) :
    (s.write caller block).2.answers.Pairwise SinkAnswer.Precedes := by
  simp only [write]
  split
  · exact awaitLast_pairwise ..
  · split
    · exact handOver_pairwise _ 0 [] (by simp) (by simp)
    · exact List.Pairwise.nil

/-- A block behind an acknowledged one is refused three rounds later, when the calls that waited for
the first have been answered. -/
theorem answered_pairwise (s : Sink κ) (answer : Except Fault Unit) :
    (s.answered answer).2.answers.Pairwise SinkAnswer.Precedes := by
  cases answer with
  | error fault =>
    apply reply_pairwise
    intro x hx y hy _ f hf
    rw [(QueuedBlock.mem_rejections hx).2] at hf
    rw [(QueuedBlock.mem_rejections hy).2]
    exact hf
  | ok _ =>
    simp only [answered]
    split
    · exact List.Pairwise.nil
    · apply handOver_pairwise
      · intro x hx
        have hround := (QueuedBlock.mem_answers hx).1
        omega
      · intro x hx
        exact (QueuedBlock.mem_answers hx).2

theorem step_pairwise (s : Sink κ) (e : SinkEvent κ) :
    (s.step e).2.answers.Pairwise SinkAnswer.Precedes := by
  cases e with
  | write caller block => exact write_pairwise ..
  | flush caller => exact awaitLast_pairwise ..
  | close caller => exact awaitLast_pairwise ..
  | stream e =>
    simp only [step, onStream]
    split
    · exact List.Pairwise.nil
    · exact answered_pairwise ..

end Sink


-- ---------------------------------------------------------------------------
-- What comes after a failure
-- ---------------------------------------------------------------------------

namespace SinkMoment

/-- A call, or an answer with this failure. -/
def Echoes (failure : Failure) : SinkMoment κ → Prop
  | .called _ _ => True
  | .answered a => a.outcome = .error failure
  | .passed _ | .acknowledged | .failed => False

/-- Behind a call that fails only calls come, and answers like its own. -/
def Precedes (m later : SinkMoment κ) : Prop :=
  ∀ a failure, m = .answered a → a.outcome = .error failure → later.Echoes failure

/-- Whether this is what an event leads to, rather than the event itself. -/
@[simp] def follows : SinkMoment κ → Bool
  | .passed _ | .answered _ => true
  | .called _ _ | .acknowledged | .failed => false

theorem precedes_of_ne {m : SinkMoment κ} (hm : ∀ a, m ≠ .answered a) (later : SinkMoment κ) :
    m.Precedes later := by
  intro a _ ha
  exact absurd ha (hm a)

end SinkMoment

theorem SinkCore.Turn.echoes {c c' : SinkCore κ} {moments : List (SinkMoment κ)}
    (h : c.Turn moments c') (hc : c.Sound) {failure : Failure} (hbroken : c.broken = some failure) :
    ∀ m ∈ moments, m.Echoes failure := by
  have hqueue : c.queue = [] := hc.queue_eq_nil (by simp [hbroken])
  cases h with
  | quiet => simp
  | answered => simp [SinkMoment.Echoes, SinkCore.standing, hbroken]
  | joined hne => exact absurd hqueue hne
  | queued _ hnone => simp [hnone] at hbroken
  | passed _ hnone => simp [hnone] at hbroken
  | refused _ hnone => simp [hnone] at hbroken
  | drained h => simp [hqueue] at h
  | advanced h => simp [hqueue] at h
  | cutOff h => simp [hqueue] at h
  | failed hne => exact absurd hqueue hne

namespace Sink

theorem history_echoes {s : Sink κ} (hs : s.core.Sound) {failure : Failure}
    (hbroken : s.core.broken = some failure) (events : List (SinkEvent κ)) :
    ∀ m ∈ s.history events, m.Echoes failure := by
  induction events generalizing s with
  | nil => simp
  | cons e rest ih =>
    have hturn := step_turn hs e
    intro m hm
    rcases List.mem_append.mp hm with hm | hm
    · exact hturn.echoes hs hbroken m hm
    · exact ih (hturn.sound hs) (hturn.broken_mono hs hbroken) m hm

theorem opening_ne_answered (s : Sink κ) (e : SinkEvent κ) :
    ∀ m ∈ s.opening e, ∀ a, m ≠ .answered a := by
  cases e with
  | stream e =>
    simp only [opening]
    split <;> simp
  | _ => simp [opening]

/-- What an event brings about fails at its end, if at all. -/
theorem moments_pairwise (s : Sink κ) (e : SinkEvent κ) :
    (s.moments e).Pairwise SinkMoment.Precedes := by
  have hquiet : ∀ m ∈ s.opening e ++ (s.step e).2.delivered.map .passed, ∀ a, m ≠ .answered a := by
    intro m hm a
    rcases List.mem_append.mp hm with hm | hm
    · exact opening_ne_answered s e m hm a
    · obtain ⟨block, -, rfl⟩ := List.mem_map.mp hm
      simp
  refine List.pairwise_append.mpr ⟨?_, ?_, ?_⟩
  · apply List.pairwise_of_forall_mem_list
    intro m hm later _
    exact SinkMoment.precedes_of_ne (hquiet m hm) later
  · refine List.pairwise_map.mpr ((step_pairwise s e).imp ?_)
    intro a later hprecedes a' failure ha hfailure
    cases ha
    exact hprecedes failure hfailure
  · intro m hm later _
    exact SinkMoment.precedes_of_ne (hquiet m hm) later

theorem history_pairwise {s : Sink κ} (hs : s.core.Sound) (events : List (SinkEvent κ)) :
    (s.history events).Pairwise SinkMoment.Precedes := by
  induction events generalizing s with
  | nil => exact List.Pairwise.nil
  | cons e rest ih =>
    have hturn := step_turn hs e
    refine List.pairwise_append.mpr ⟨moments_pairwise s e, ih (hturn.sound hs), ?_⟩
    intro m hm later hlater a failure ha hfailure
    subst ha
    have hbroken := hturn.broken_of_error (List.mem_filterMap.mpr ⟨_, hm, rfl⟩) hfailure
    exact history_echoes (hturn.sound hs) hbroken rest later hlater

end Sink


-- ---------------------------------------------------------------------------
-- The middle of an event
-- ---------------------------------------------------------------------------

namespace SinkLedger

/-- A ledger that differs from another by writes passed on and answers given. -/
structure Extends (later l : SinkLedger κ) : Prop where
  offered_eq : later.offered = l.offered
  acknowledged_eq : later.acknowledged = l.acknowledged
  calls_eq : later.calls = l.calls
  answers_grown : l.answers <+: later.answers

theorem Extends.refl (l : SinkLedger κ) : l.Extends l := ⟨rfl, rfl, rfl, List.prefix_rfl⟩

theorem Extends.trans {l₁ l₂ l₃ : SinkLedger κ} (h : l₃.Extends l₂) (h' : l₂.Extends l₁) :
    l₃.Extends l₁ where
  offered_eq := h.offered_eq.trans h'.offered_eq
  acknowledged_eq := h.acknowledged_eq.trans h'.acknowledged_eq
  calls_eq := h.calls_eq.trans h'.calls_eq
  answers_grown := h'.answers_grown.trans h.answers_grown

theorem extends_of_follows (l : SinkLedger κ) {moments : List (SinkMoment κ)}
    (h : ∀ m ∈ moments, m.follows) : (l.enterAll moments).Extends l := by
  induction moments generalizing l with
  | nil => exact Extends.refl l
  | cons m rest ih =>
    refine (ih (l.enter m) fun m hm => h m (List.mem_cons_of_mem _ hm)).trans ?_
    have hm := h m List.mem_cons_self
    cases m with
    | passed block => exact ⟨rfl, rfl, rfl, List.prefix_rfl⟩
    | answered a => exact ⟨rfl, rfl, rfl, List.prefix_append ..⟩
    | called call block => simp at hm
    | acknowledged => simp at hm
    | failed => simp at hm

end SinkLedger

theorem SinkCore.Turn.follows {c c' : SinkCore κ} {moments : List (SinkMoment κ)}
    (h : c.Turn moments c') : ∀ m ∈ moments.tail, m.follows := by
  cases h <;> simp

namespace Sink

/-- A history that breaks off in the middle of an event: only what the event leads to is missing. -/
theorem exists_of_history {s : Sink κ} (hs : s.core.Sound) {events : List (SinkEvent κ)}
    {past rest : List (SinkMoment κ)} (h : past ++ rest = s.history events) :
    ∃ before missing, past ++ missing = s.history before ∧ ∀ m ∈ missing, m.follows := by
  induction events generalizing s past with
  | nil =>
    have hnil := (List.append_eq_nil_iff.mp h).1
    exact ⟨[], [], by simp [hnil], by simp⟩
  | cons e events ih =>
    have hturn := step_turn hs e
    rcases List.append_eq_append_iff.mp h with ⟨missing, hmoments, -⟩ | ⟨later, hpast, hlater⟩
    · cases past with
      | nil => exact ⟨[], [], by simp, by simp⟩
      | cons m past =>
        refine ⟨[e], missing, by simp [hmoments], ?_⟩
        intro m' hm'
        apply hturn.follows
        rw [hmoments]
        exact List.mem_append_right _ hm'
    · obtain ⟨before, missing, hbefore, hfollows⟩ := ih (hturn.sound hs) hlater.symm
      refine ⟨e :: before, missing, ?_, hfollows⟩
      rw [hpast, List.append_assoc, hbefore, history_cons]

/-- At every moment the calls answered are among those made, and those answered well among those
whose demands are met. -/
theorem answers_subperm (ended destroyed : Bool) {events : List (SinkEvent κ)}
    {past rest : List (SinkMoment κ)}
    (h : past ++ rest = (fresh ended destroyed : Sink κ).history events) :
    let ledger := SinkLedger.of past
    (ledger.answers.map (·.call)).Subperm ledger.calls ∧
    ((ledger.answers.filter (·.outcome.isOk)).map (·.call)).Subperm
      ((({} : SinkLedger κ).demands past).filter (·.isMet ledger.acknowledged) |>.map (·.call)) := by
  intro ledger
  obtain ⟨before, missing, hbefore, hfollows⟩ := exists_of_history (fresh_sound ended destroyed) h
  obtain ⟨-, hfits, -⟩ := run_fits (fresh_sound ended destroyed) (fresh_fits ended destroyed) before
  obtain ⟨met, lost, failure, hsettles⟩ := run_settles (fresh_sound ended destroyed)
    (fresh_fits ended destroyed) (fresh_settles ended destroyed default) before
  rw [← hbefore, SinkLedger.enterAll_append] at hfits hsettles
  rw [SinkLedger.demands_append, List.nil_append] at hsettles
  change (ledger.enterAll missing).Fits _ at hfits
  change (ledger.enterAll missing).Settles (_ ++ ledger.demands missing) _ _ _ _ at hsettles
  have hextends : (ledger.enterAll missing).Extends ledger :=
    SinkLedger.extends_of_follows ledger hfollows
  have hnothing : ledger.demands missing = [] := by
    apply SinkLedger.demands_eq_nil
    intro m hm
    have hm := hfollows m hm
    cases m <;> simp_all
  have hsub : ledger.answers.Sublist (ledger.enterAll missing).answers :=
    hextends.answers_grown.sublist
  constructor
  · have hcalls := hfits.calls_perm
    rw [hextends.calls_eq] at hcalls
    have hall : ((ledger.enterAll missing).answers.map (·.call)).Subperm ledger.calls :=
      (List.sublist_append_left ..).subperm.trans hcalls.subperm
    exact (hsub.map _).subperm.trans hall
  · have hwell := hsettles.answered_well
    rw [hnothing, List.append_nil, hextends.acknowledged_eq] at hwell
    exact ((hsub.filter _).map _).subperm.trans hwell.subperm

end Sink


-- ---------------------------------------------------------------------------
-- Failures
-- ---------------------------------------------------------------------------

theorem SinkLedger.acknowledged_of_echoes (l : SinkLedger κ) {failure : Failure}
    {moments : List (SinkMoment κ)} (h : ∀ m ∈ moments, m.Echoes failure) :
    (l.enterAll moments).acknowledged = l.acknowledged := by
  induction moments generalizing l with
  | nil => rfl
  | cons m rest ih =>
    have hm := h m List.mem_cons_self
    have hrest := ih (l.enter m) fun m hm => h m (List.mem_cons_of_mem _ hm)
    cases m with
    | called call block => exact hrest
    | answered a => exact hrest
    | passed block => exact hm.elim
    | acknowledged => exact hm.elim
    | failed => exact hm.elim

theorem passed_of_echoes {failure : Failure} {moments : List (SinkMoment κ)}
    (h : ∀ m ∈ moments, m.Echoes failure) : moments.filterMap SinkMoment.passed? = [] := by
  refine List.filterMap_eq_nil_iff.mpr fun m hm => ?_
  have hm := h m hm
  cases m <;> first | rfl | exact hm.elim

theorem answers_of_echoes {failure : Failure} {moments : List (SinkMoment κ)}
    (h : ∀ m ∈ moments, m.Echoes failure) :
    moments.filterMap SinkMoment.answer?
      = SinkCall.answerAll ((moments.filterMap SinkMoment.answer?).map (·.call))
          (.error failure) := by
  rw [SinkCall.answerAll, List.map_map]
  refine (List.map_id _).symm.trans (List.map_congr_left fun a ha => ?_)
  obtain ⟨m, hm, hanswer⟩ := List.mem_filterMap.mp ha
  have hechoes := h m hm
  cases m with
  | answered b =>
    simp only [SinkMoment.answer?, Option.some.injEq] at hanswer
    subst hanswer
    simp only [SinkMoment.Echoes] at hechoes
    simp [← hechoes]
  | _ => simp at hanswer

namespace Sink

/-- The calls that a failing one leaves behind: with those made later, they are all answered, and as
it was. -/
theorem exists_pending (ended destroyed : Bool) {events : List (SinkEvent κ)}
    {past rest : List (SinkMoment κ)} {call : SinkCall κ} {failure : Failure}
    (h : past ++ .answered { call, outcome := .error failure } :: rest
      = (fresh ended destroyed : Sink κ).history events) :
    ∃ pending,
      (SinkLedger.of past).calls.Perm
        ((SinkLedger.of past).answers.map (·.call) ++ call :: pending) ∧
      ((rest.filterMap SinkMoment.answer?).map (·.call)).Perm
        (pending ++ rest.filterMap SinkMoment.call?) := by
  let a : SinkAnswer κ := { call, outcome := .error failure }
  obtain ⟨hsound, hfits, -⟩ :=
    run_fits (fresh_sound ended destroyed) (fresh_fits ended destroyed) events
  have hledger : SinkLedger.of ((fresh ended destroyed : Sink κ).history events)
      = ((SinkLedger.of past).enter (.answered a)).enterAll rest := by
    rw [← h]
    exact SinkLedger.enterAll_append ..
  have hanswers : (SinkLedger.of ((fresh ended destroyed : Sink κ).history events)).answers
      = (SinkLedger.of past).answers ++ [a] ++ rest.filterMap SinkMoment.answer? := by
    rw [hledger, SinkLedger.answers_enterAll]
    rfl
  have hcalls : (SinkLedger.of ((fresh ended destroyed : Sink κ).history events)).calls
      = (SinkLedger.of past).calls ++ rest.filterMap SinkMoment.call? := by
    rw [hledger, SinkLedger.calls_enterAll]
    rfl
  have hidle : ((fresh ended destroyed : Sink κ).run events).core.waiting = [] := by
    have hbroken := hfits.broken_of_error a (by
      change a ∈ (SinkLedger.of ((fresh ended destroyed : Sink κ).history events)).answers
      simp [hanswers]) failure rfl
    simp [SinkCore.waiting, hsound.queue_eq_nil (by simp [hbroken])]
  have hall : ((SinkLedger.of past).answers.map (·.call) ++ [call]
      ++ (rest.filterMap SinkMoment.answer?).map (·.call)).Perm
      ((SinkLedger.of past).calls ++ rest.filterMap SinkMoment.call?) := by
    have hperm := hfits.calls_perm
    rw [hidle, List.append_nil] at hperm
    change (List.map _ (SinkLedger.of _).answers).Perm (SinkLedger.of _).calls at hperm
    rw [hanswers, hcalls, List.map_append, List.map_append] at hperm
    exact hperm
  obtain ⟨waiting, hwaiting, hsub⟩ : ((SinkLedger.of past).answers.map (·.call) ++ [call]).Subperm
      (SinkLedger.of past).calls := by
    have hsplit : (past ++ [.answered a]) ++ rest
        = (fresh ended destroyed : Sink κ).history events := by simpa using h
    have hmade := (answers_subperm ended destroyed hsplit).1
    rw [SinkLedger.of, SinkLedger.enterAll_append] at hmade
    simpa [SinkLedger.of, SinkLedger.enter, a] using hmade
  obtain ⟨pending, hpending⟩ := hsub.exists_perm_append
  have hmade : (SinkLedger.of past).calls.Perm
      ((SinkLedger.of past).answers.map (·.call) ++ [call] ++ pending) :=
    hpending.trans (hwaiting.append_right pending)
  refine ⟨pending, by simpa using hmade, ?_⟩
  have hboth := hall.trans (hmade.append_right (rest.filterMap SinkMoment.call?))
  rw [List.append_assoc _ pending] at hboth
  exact (List.perm_append_left_iff _).mp hboth

/-- Whatever calls and stream events a sink sees, in any order. Once a call has failed, nothing is
passed to the stream and nothing more is acknowledged; all calls that wait at that moment and all
that are made later, of whatever kind and with whatever block, are answered with that same failure.
A call is answered well only if every block offered up to it has been acknowledged, so at all times
the acknowledged blocks are the first of those offered. -/
theorem fail_stop (ended destroyed : Bool) (events : List (SinkEvent κ)) :
    let s : Sink κ := (fresh ended destroyed).run events
    let history : List (SinkMoment κ) := (fresh ended destroyed).history events
    (∀ past call failure rest,
      past ++ .answered { call, outcome := .error failure } :: rest = history →
      rest.filterMap SinkMoment.passed? = [] ∧
      (∃ pending,
        (SinkLedger.of past).calls.Perm
          ((SinkLedger.of past).answers.map (·.call) ++ call :: pending) ∧
        (rest.filterMap SinkMoment.answer?).Perm
          (SinkCall.answerAll (pending ++ rest.filterMap SinkMoment.call?) (.error failure))) ∧
      (SinkLedger.of history).acknowledged = (SinkLedger.of past).acknowledged ∧
      s.bytesWritten = (SinkLedger.of past).acknowledged.flatten.length ∧
      s.blocksWritten = (SinkLedger.of past).acknowledged.length) ∧
    (∀ past, past <+: history →
      (((SinkLedger.of past).answers.filter (·.outcome.isOk)).map (·.call)).Subperm
        ((({} : SinkLedger κ).demands past).filter (·.isMet (SinkLedger.of past).acknowledged)
          |>.map (·.call)) ∧
      (SinkLedger.of past).acknowledged <+: (SinkLedger.of past).offered) := by
  intro s history
  obtain ⟨hsound, hfits, hadmits⟩ :=
    run_fits (fresh_sound ended destroyed) (fresh_fits ended destroyed) events
  constructor
  · intro past call failure rest hhistory
    have hpairwise : history.Pairwise SinkMoment.Precedes :=
      history_pairwise (fresh_sound ended destroyed) events
    rw [← hhistory] at hpairwise
    have hechoes : ∀ m ∈ rest, m.Echoes failure := by
      intro m hm
      have hlater := List.pairwise_cons.mp (List.pairwise_append.mp hpairwise).2.1
      exact hlater.1 m hm _ failure rfl rfl
    have hledger : SinkLedger.of history
        = ((SinkLedger.of past).enter (.answered { call, outcome := .error failure })).enterAll
            rest := by
      rw [← hhistory]
      exact SinkLedger.enterAll_append ..
    have hacknowledged : (SinkLedger.of history).acknowledged
        = (SinkLedger.of past).acknowledged := by
      rw [hledger]
      exact SinkLedger.acknowledged_of_echoes _ hechoes
    refine ⟨passed_of_echoes hechoes, ?_, hacknowledged, ?_, ?_⟩
    · obtain ⟨pending, hmade, hcalls⟩ := exists_pending ended destroyed hhistory
      refine ⟨pending, hmade, ?_⟩
      rw [answers_of_echoes hechoes]
      exact hcalls.map _
    · rw [← hacknowledged]
      exact hfits.bytesWritten_eq
    · rw [← hacknowledged]
      exact hfits.blocksWritten_eq
  · intro past hpast
    obtain ⟨rest, hrest⟩ := hpast
    refine ⟨(answers_subperm ended destroyed hrest).2, ?_⟩
    have hsteady : (SinkLedger.of past).Steady :=
      SinkLedger.steady_empty.enterAll (hadmits.of_prefix ⟨rest, hrest⟩)
    obtain ⟨failed, hpassed, -⟩ := hsteady.passed_eq
    have hfirst : (SinkLedger.of past).acknowledged <+: (SinkLedger.of past).passed := by
      rw [hpassed, List.append_assoc]
      exact List.prefix_append ..
    exact hfirst.trans hsteady.in_order

/-- The first of two blocks fails; a flush and an empty block come later. -/
def failedFirst : List (SinkEvent Nat) :=
  [.write 0 [0x61], .write 1 [0x62], .stream (.failed "full"), .flush 2, .write 3 []]

theorem fail_stop_failed_first :
    let full : Failure := writeFailed { message := "full" }
    let past : List (SinkMoment Nat) :=
      [.called { caller := 0, kind := .write } [0x61], .passed [0x61],
        .called { caller := 1, kind := .write } [0x62], .failed]
    let refused (caller : Nat) (kind : CallKind) : SinkMoment Nat :=
      .answered { call := { caller, kind }, outcome := .error full }
    let rest : List (SinkMoment Nat) :=
      [refused 1 .write, .called { caller := 2, kind := .flush } [], refused 2 .flush,
        .called { caller := 3, kind := .write } [], refused 3 .write]
    past ++ refused 0 .write :: rest = (fresh false false).history failedFirst ∧
    rest.filterMap SinkMoment.passed? = [] ∧
    ((fresh false false).run failedFirst).bytesWritten = 0 := by
  intro full past refused rest
  have hhistory : past ++ refused 0 .write :: rest = (fresh false false).history failedFirst := by
    cbv
  obtain ⟨hpassed, -, -, hbytes, -⟩ := (fail_stop false false failedFirst).1 _ _ _ _ hhistory
  exact ⟨hhistory, hpassed, hbytes⟩

end Sink

end FileSearch
