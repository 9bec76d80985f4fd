import FileSearch.Proofs.Regex.Search
import Mathlib.Algebra.Order.BigOperators.Group.Finset

/-!
# Runs of a program

A run goes through a program from an action to acceptance and takes one byte of the haystack after
the other. The search follows all threads at once and drops some of them on the way: those that come
to a block entered before, and those less preferred than a match. None of them is missed: what the
search finds is a run, and no run begins before it (`Program.search_leftmost`).
-/

namespace FileSearch.Regex


-- ---------------------------------------------------------------------------
-- Runs
-- ---------------------------------------------------------------------------

/-- What an assertion sees at a position. -/
def placeAt (haystack : Bytes) (pos : Nat) : Place where
  before := if pos = 0 then none else haystack[pos - 1]?
  after := haystack[pos]?

/-- An action goes on at a block without taking a byte. -/
inductive Action.Passes (place : Place) : Action → Nat → Prop
  | goto (next : Nat) : Passes place (.goto next) next
  | require {a : Assertion} (next : Nat) (holds : a.holds place) :
      Passes place (.require a next) next

/-- An action takes a byte and goes on at a block. -/
inductive Action.Takes (b : UInt8) : Action → Nat → Prop
  | take {set : CharSet} (next : Nat) (contains : set.contains b.toNat) :
      Takes b (.take set next) next
  | takeByte (next : Nat) : Takes b (.takeByte next) next

/-- A run from an action at a position, and the bytes it takes before it accepts. -/
inductive Program.Run (p : Program) (haystack : Bytes) : Action → Nat → Bytes → Prop
  | accept (pos : Nat) : Run p haystack .accept pos []
  | pass {a action : Action} {next pos : Nat} {taken : Bytes}
      (passes : a.Passes (placeAt haystack pos) next) (mem : action ∈ p.block next)
      (rest : Run p haystack action pos taken) : Run p haystack a pos taken
  | take {a action : Action} {next pos : Nat} {b : UInt8} {taken : Bytes}
      (byte : haystack[pos]? = some b) (takes : a.Takes b next) (mem : action ∈ p.block next)
      (rest : Run p haystack action (pos + 1) taken) : Run p haystack a pos (b :: taken)

/-- A program matches bytes at an index of a haystack. -/
def Program.MatchesAt (p : Program) (haystack : Bytes) (index : Nat) (taken : Bytes) : Prop :=
  p.Run haystack (.goto p.entry) index taken

theorem Action.Passes.not_waits {place : Place} {a : Action} {next : Nat}
    (h : a.Passes place next) : a.waits = false := by
  cases h <;> rfl

theorem Action.Takes.waits {b : UInt8} {a : Action} {next : Nat} (h : a.Takes b next) :
    a.waits := by
  cases h <;> rfl

/-- An action that takes a byte goes on at one block. -/
theorem Action.Takes.next_eq {b : UInt8} {a : Action} {next next' : Nat} (h : a.Takes b next)
    (h' : a.Takes b next') : next = next' := by
  cases h <;> cases h' <;> rfl

namespace Program

variable {p : Program} {haystack : Bytes} {pos : Nat} {taken : Bytes}

theorem run_goto_iff {block : Nat} :
    p.Run haystack (.goto block) pos taken ↔ ∃ a ∈ p.block block, p.Run haystack a pos taken := by
  constructor
  · intro h
    cases h with
    | pass passes mem rest =>
      cases passes
      exact ⟨_, mem, rest⟩
    | take byte takes mem rest => cases takes
  · rintro ⟨a, hmem, hrun⟩
    exact .pass (.goto block) hmem hrun

theorem run_accept_iff : p.Run haystack .accept pos taken ↔ taken = [] := by
  constructor
  · intro h
    cases h with
    | accept => rfl
    | pass passes => cases passes
    | take _ takes => cases takes
  · rintro rfl
    exact .accept pos

theorem run_require_iff {a : Assertion} {next : Nat} :
    p.Run haystack (.require a next) pos taken
      ↔ a.holds (placeAt haystack pos) ∧ p.Run haystack (.goto next) pos taken := by
  constructor
  · intro h
    cases h with
    | pass passes mem rest =>
      cases passes with
      | require _ holds => exact ⟨holds, run_goto_iff.mpr ⟨_, mem, rest⟩⟩
    | take _ takes => cases takes
  · rintro ⟨holds, h⟩
    obtain ⟨action, hmem, hrun⟩ := run_goto_iff.mp h
    exact .pass (.require next holds) hmem hrun

theorem run_takeByte_iff {next : Nat} :
    p.Run haystack (.takeByte next) pos taken
      ↔ ∃ b rest, haystack[pos]? = some b ∧ taken = b :: rest ∧
          p.Run haystack (.goto next) (pos + 1) rest := by
  constructor
  · intro h
    cases h with
    | pass passes => cases passes
    | take byte takes mem rest =>
      cases takes
      exact ⟨_, _, byte, rfl, run_goto_iff.mpr ⟨_, mem, rest⟩⟩
  · rintro ⟨b, rest, byte, rfl, h⟩
    obtain ⟨action, hmem, hrun⟩ := run_goto_iff.mp h
    exact .take byte (.takeByte next) hmem hrun

end Program


-- ---------------------------------------------------------------------------
-- Closed frontiers
-- ---------------------------------------------------------------------------

/-- What comes of an action at a place without taking a byte is in the frontier, or is about to be
followed. -/
structure Frontier.Settles (f : Frontier) (place : Place) (work : List Action) (a : Action) :
    Prop where
  passes : ∀ next, a.Passes place next → next ∈ f.entered ∨ .goto next ∈ work
  waits : a.waits → ∃ start, (a, start) ∈ f.waiting

/-- Of all blocks entered, the actions are to be followed or have been. -/
def Frontier.Closed (f : Frontier) (p : Program) (place : Place) (work : List Action) : Prop :=
  ∀ i ∈ f.entered, ∀ a ∈ p.block i, a ∈ work ∨ f.Settles place work a

/-- Actions have been followed, and so have those of all blocks that were entered. -/
structure Frontier.Followed (f : Frontier) (p : Program) (place : Place) (work : List Action) :
    Prop where
  closed : f.Closed p place []
  settles : ∀ a ∈ work, f.Settles place [] a

/-- A frontier has all that another one has. -/
structure Frontier.Includes (f g : Frontier) : Prop where
  entered : ∀ i ∈ g.entered, i ∈ f.entered
  waiting : ∀ w ∈ g.waiting, w ∈ f.waiting

namespace Frontier

variable {f g : Frontier} {p : Program} {place : Place} {a : Action} {work rest : List Action}

theorem Includes.refl (f : Frontier) : f.Includes f := ⟨fun _ => id, fun _ => id⟩

theorem Includes.trans {h : Frontier} (hfg : f.Includes g) (hgh : g.Includes h) : f.Includes h where
  entered i hi := hfg.entered i (hgh.entered i hi)
  waiting w hw := hfg.waiting w (hgh.waiting w hw)

theorem includes_enter (f : Frontier) (i : Nat) :
    Includes { f with entered := f.entered.insert i } f where
  entered _ hj := Std.HashSet.mem_insert.mpr (.inr hj)
  waiting _ hw := hw

theorem includes_wait (f : Frontier) (w : Action × Nat) :
    Includes { f with waiting := w :: f.waiting } f where
  entered _ hi := hi
  waiting _ hw := List.mem_cons_of_mem w hw

theorem settles_goto {next : Nat} (h : next ∈ f.entered) (place : Place) (work : List Action) :
    f.Settles place work (.goto next) where
  passes i hi := by
    cases hi
    exact .inl h
  waits hwaits := by cases hwaits

theorem closed_empty (p : Program) (place : Place) : Closed {} p place [] :=
  fun _ hi => absurd hi Std.HashSet.not_mem_empty

/-- Once all that was about to be followed has settled, so has an action that led to it. -/
theorem Followed.cons (h : g.Followed p place work) (hincludes : g.Includes f)
    (ha : f.Settles place work a) (hrest : ∀ b ∈ rest, b ∈ work) :
    g.Followed p place (a :: rest) where
  closed := h.closed
  settles := by
    refine List.forall_mem_cons.mpr ⟨⟨fun next hnext => ?_, fun hwaits => ?_⟩,
      fun b hb => h.settles b (hrest b hb)⟩
    · rcases ha.passes next hnext with hentered | hwork
      · exact .inl (hincludes.entered next hentered)
      · exact (h.settles _ hwork).passes next (.goto next)
    · obtain ⟨start, hmem⟩ := ha.waits hwaits
      exact ⟨start, hincludes.waiting _ hmem⟩

theorem Closed.mono {more : List Action} (h : f.Closed p place work)
    (hmore : ∀ a ∈ work, a ∈ more) : f.Closed p place more := by
  intro i hi a ha
  rcases h i hi a ha with hmem | hsettled
  · exact .inl (hmore a hmem)
  · exact .inr ⟨fun next hnext => (hsettled.passes next hnext).imp_right (hmore _), hsettled.waits⟩

/-- Following one action keeps a frontier closed if it settles that action and is about to follow
all actions of a block it enters. -/
theorem Closed.follow (h : f.Closed p place (a :: rest)) (hincludes : g.Includes f)
    (hsettles : g.Settles place work a) (hrest : ∀ b ∈ rest, b ∈ work)
    (hgoto : ∀ next, a = .goto next → next ∈ g.entered)
    (hnew : ∀ i ∈ g.entered, i ∈ f.entered ∨ ∀ b ∈ p.block i, b ∈ work) :
    g.Closed p place work := by
  intro i hi b hb
  rcases hnew i hi with hold | hall
  · rcases h i hold b hb with hmem | hsettled
    · rcases List.mem_cons.mp hmem with rfl | hmem
      · exact .inr hsettles
      · exact .inl (hrest b hmem)
    · refine .inr ⟨fun next hnext => ?_, fun hwaits => ?_⟩
      · rcases hsettled.passes next hnext with hentered | hwork
        · exact .inl (hincludes.entered next hentered)
        · rcases List.mem_cons.mp hwork with heq | hwork
          · exact .inl (hgoto next heq.symm)
          · exact .inr (hrest _ hwork)
      · obtain ⟨start, hmem⟩ := hsettled.waits hwaits
        exact ⟨start, hincludes.waiting _ hmem⟩
  · exact .inl (hall b hb)

/-- When actions have been followed, a run from one of them comes to an action that waits, without
taking a byte. -/
theorem Followed.exists_waiting {haystack : Bytes} {pos : Nat} {taken : Bytes}
    (h : f.Followed p (placeAt haystack pos) work) (ha : a ∈ work)
    (hrun : p.Run haystack a pos taken) :
    ∃ w ∈ f.waiting, w.1.waits ∧ p.Run haystack w.1 pos taken := by
  have hsettles := h.settles a ha
  clear ha
  induction hrun with
  | accept pos =>
    obtain ⟨start, hmem⟩ := hsettles.waits rfl
    exact ⟨_, hmem, rfl, .accept pos⟩
  | pass passes mem rest ih =>
    have hentered := (hsettles.passes _ passes).resolve_right List.not_mem_nil
    exact ih h ((h.closed _ hentered _ mem).resolve_left List.not_mem_nil)
  | take byte takes mem rest _ =>
    obtain ⟨start, hmem⟩ := hsettles.waits takes.waits
    exact ⟨_, hmem, takes.waits, .take byte takes mem rest⟩

end Frontier


-- ---------------------------------------------------------------------------
-- Steps
-- ---------------------------------------------------------------------------

/-- How many steps an action may need: an assertion that holds becomes a `goto`. -/
def Action.steps : Action → Nat
  | .require _ _ => 2
  | _ => 1

theorem Action.one_le_steps (a : Action) : 1 ≤ a.steps := by
  cases a <;> simp [steps]

theorem Action.steps_le (a : Action) : a.steps ≤ 2 := by
  cases a <;> simp [steps]

/-- How many steps actions may need, apart from the blocks that they lead to. -/
def stepsOf : List Action → Nat
  | [] => 0
  | a :: rest => a.steps + stepsOf rest

theorem stepsOf_cons (a : Action) (rest : List Action) :
    stepsOf (a :: rest) = a.steps + stepsOf rest := rfl

theorem stepsOf_append (first second : List Action) :
    stepsOf (first ++ second) = stepsOf first + stepsOf second := by
  induction first with
  | nil => exact (Nat.zero_add _).symm
  | cons a rest ih => rw [List.cons_append, stepsOf_cons, stepsOf_cons, ih, Nat.add_assoc]

theorem stepsOf_le (work : List Action) : stepsOf work ≤ 2 * work.length := by
  induction work with
  | nil => exact Nat.le_refl 0
  | cons a rest ih =>
    have ha := a.steps_le
    rw [stepsOf_cons, List.length_cons]
    omega

theorem eq_nil_of_stepsOf {work : List Action} (h : stepsOf work = 0) : work = [] := by
  cases work with
  | nil => rfl
  | cons a rest =>
    have ha := a.one_le_steps
    rw [stepsOf_cons] at h
    omega

namespace Program

variable {p : Program} {place : Place} {f : Frontier} {work : List Action} {start fuel : Nat}

/-- How many actions there are in the blocks that have not been entered. -/
def unentered (p : Program) (entered : Std.HashSet Nat) : Nat :=
  ∑ i ∈ Finset.range p.blocks.size, if i ∈ entered then 0 else (p.block i).length

theorem block_of_size_le {i : Nat} (h : p.blocks.size ≤ i) : p.block i = [] := by
  simp [block, h]

theorem unentered_insert {entered : Std.HashSet Nat} {i : Nat} (h : i ∉ entered) :
    p.unentered (entered.insert i) + (p.block i).length = p.unentered entered := by
  have hother : ∀ j ≠ i, (if j ∈ entered.insert i then 0 else (p.block j).length)
      = if j ∈ entered then 0 else (p.block j).length := by
    intro j hj
    simp [Ne.symm hj]
  unfold unentered
  by_cases hlt : i < p.blocks.size
  · have hmem := Finset.mem_range.mpr hlt
    rw [← Finset.add_sum_erase _ _ hmem, ← Finset.add_sum_erase _ _ hmem,
      Finset.sum_congr rfl fun j hj => hother j (Finset.ne_of_mem_erase hj)]
    simp [h, Nat.add_comm]
  · rw [block_of_size_le (Nat.not_lt.mp hlt), List.length_nil, Nat.add_zero]
    refine Finset.sum_congr rfl fun j hj => hother j ?_
    rintro rfl
    exact hlt (Finset.mem_range.mp hj)

theorem unentered_le (p : Program) (entered : Std.HashSet Nat) :
    p.unentered entered ≤ p.actionCount := by
  have hfold : ∀ (blocks : List (List Action)) (n : Nat),
      blocks.foldl (fun n b => n + b.length) n
        = n + ∑ i ∈ Finset.range blocks.length, (blocks[i]?.getD []).length := by
    intro blocks n
    induction blocks generalizing n with
    | nil => simp
    | cons b rest ih =>
      rw [List.foldl_cons, ih, List.length_cons, Finset.sum_range_succ']
      simp only [List.getElem?_cons_succ, List.getElem?_cons_zero, Option.getD_some]
      omega
  have hcount : p.actionCount = ∑ i ∈ Finset.range p.blocks.size, (p.block i).length := by
    rw [actionCount, ← Array.foldl_toList, hfold]
    simp [block]
  rw [hcount]
  refine Finset.sum_le_sum fun i _ => ?_
  split
  · exact Nat.zero_le _
  · exact Nat.le_refl _


-- ---------------------------------------------------------------------------
-- Following actions
-- ---------------------------------------------------------------------------

theorem follow_includes (p : Program) (place : Place) (start fuel : Nat) (work : List Action)
    (f : Frontier) : (p.follow place start fuel work f).Includes f := by
  fun_induction Program.follow p place start fuel work f with
  | case1 => exact .refl _
  | case2 => exact .refl _
  | case3 _ _ _ _ _ ih => exact ih
  | case4 _ _ f next _ ih => exact ih.trans (f.includes_enter next)
  | case5 _ _ _ _ _ ih => exact ih
  | case6 _ _ f action _ _ ih => exact ih.trans (f.includes_wait (action, start))

/-- With enough steps all actions are followed. -/
theorem follow_followed (start : Nat) (hfuel : 2 * p.unentered f.entered + stepsOf work ≤ fuel)
    (h : f.Closed p place work) : (p.follow place start fuel work f).Followed p place work := by
  fun_induction Program.follow p place start fuel work f with
  | case1 work f =>
    have hnone : stepsOf work = 0 := by omega
    obtain rfl := eq_nil_of_stepsOf hnone
    exact ⟨h, by simp⟩
  | case2 => exact ⟨h, by simp⟩
  | case3 fuel rest f next hentered ih =>
    have hsteps : stepsOf (.goto next :: rest) = 1 + stepsOf rest := stepsOf_cons ..
    have hgoto : f.Settles place rest (.goto next) := f.settles_goto hentered place rest
    have hclosed := h.follow (.refl f) hgoto (fun _ => id)
      (fun i hi => by cases hi; exact hentered) (fun _ => .inl)
    exact (ih (by omega) hclosed).cons (p.follow_includes ..) hgoto fun _ => id
  | case4 fuel rest f next hentered ih =>
    have hnew : next ∉ f.entered := hentered
    have hsteps : stepsOf (.goto next :: rest) = 1 + stepsOf rest := stepsOf_cons ..
    have hblock := stepsOf_le (p.block next)
    have hleft := unentered_insert (p := p) hnew
    have hself : next ∈ f.entered.insert next := Std.HashSet.mem_insert_self
    have hgoto : Frontier.Settles { f with entered := f.entered.insert next } place
        (p.block next ++ rest) (.goto next) := Frontier.settles_goto hself place _
    have hrest : ∀ b ∈ rest, b ∈ p.block next ++ rest := fun b => List.mem_append_right _
    have hclosed := h.follow (f.includes_enter next) hgoto hrest
      (fun i hi => by cases hi; exact hself)
      (fun i hi => by
        rcases Std.HashSet.mem_insert.mp hi with heq | hold
        · obtain rfl := beq_iff_eq.mp heq
          exact .inr fun b => List.mem_append_left _
        · exact .inl hold)
    have henough := ih (by rw [stepsOf_append]; dsimp only; omega) hclosed
    exact henough.cons (p.follow_includes ..) hgoto hrest
  | case5 fuel rest f a next ih =>
    have hsteps : stepsOf (.require a next :: rest) = 2 + stepsOf rest := stepsOf_cons ..
    have hgoto : stepsOf (.goto next :: rest) = 1 + stepsOf rest := stepsOf_cons ..
    have hrest : ∀ b ∈ rest, b ∈ if a.holds place then .goto next :: rest else rest := by
      intro b hb
      split
      · exact List.mem_cons_of_mem _ hb
      · exact hb
    have hrequire : f.Settles place (if a.holds place then .goto next :: rest else rest)
        (.require a next) := by
      refine ⟨fun i hi => ?_, fun hwaits => by cases hwaits⟩
      cases hi with
      | require _ holds => exact .inr (by simp [holds])
    have hclosed := h.follow (.refl f) hrequire hrest (fun i hi => by cases hi) (fun _ => .inl)
    exact (ih (by split <;> omega) hclosed).cons (p.follow_includes ..) hrequire hrest
  | case6 fuel rest f action hgoto hrequire ih =>
    have hsteps : stepsOf (action :: rest) = action.steps + stepsOf rest := stepsOf_cons ..
    have hone := action.one_le_steps
    have hwait : Frontier.Settles { f with waiting := (action, start) :: f.waiting } place rest
        action := by
      refine ⟨fun i hi => ?_, fun _ => ⟨start, List.mem_cons_self⟩⟩
      cases hi with
      | goto => exact absurd rfl (hgoto _)
      | require => exact absurd rfl (hrequire _ _)
    have hclosed := h.follow (f.includes_wait _) hwait (fun _ => id)
      (fun i hi => absurd hi (hgoto i)) (fun _ => .inl)
    exact (ih (by dsimp only; omega) hclosed).cons (p.follow_includes ..) hwait fun _ => id

/-- A run from an action is one from an action of a list too. -/
def ComesOf (p : Program) (haystack : Bytes) (pos : Nat) (work : List Action) (a : Action) : Prop :=
  ∃ b ∈ work, ∀ taken, p.Run haystack a pos taken → p.Run haystack b pos taken

theorem comesOf_of_mem {haystack : Bytes} {pos : Nat} {a : Action} (h : a ∈ work) :
    p.ComesOf haystack pos work a :=
  ⟨a, h, fun _ => id⟩

theorem ComesOf.trans {haystack : Bytes} {pos : Nat} {work' : List Action} {a : Action}
    (h : p.ComesOf haystack pos work' a) (hwork : ∀ b ∈ work', p.ComesOf haystack pos work b) :
    p.ComesOf haystack pos work a := by
  obtain ⟨b, hb, hrun⟩ := h
  obtain ⟨c, hc, hback⟩ := hwork b hb
  exact ⟨c, hc, fun taken h => hback taken (hrun taken h)⟩

/-- What comes to wait comes of the actions that are followed, with the start of their thread. -/
theorem follow_waiting (p : Program) (haystack : Bytes) (pos start fuel : Nat) (work : List Action)
    (f : Frontier) :
    ∃ new, (p.follow (placeAt haystack pos) start fuel work f).waiting = new ++ f.waiting ∧
      ∀ w ∈ new, w.2 = start ∧ p.ComesOf haystack pos work w.1 := by
  fun_induction Program.follow p (placeAt haystack pos) start fuel work f with
  | case1 => exact ⟨[], rfl, by simp⟩
  | case2 => exact ⟨[], rfl, by simp⟩
  | case3 fuel rest f next hentered ih =>
    obtain ⟨new, heq, hnew⟩ := ih
    refine ⟨new, heq, fun w hw => (hnew w hw).imp_right (·.trans fun b hb => ?_)⟩
    exact comesOf_of_mem (List.mem_cons_of_mem _ hb)
  | case4 fuel rest f next hentered ih =>
    obtain ⟨new, heq, hnew⟩ := ih
    refine ⟨new, heq, fun w hw => (hnew w hw).imp_right (·.trans fun b hb => ?_)⟩
    rcases List.mem_append.mp hb with hb | hb
    · exact ⟨.goto next, List.mem_cons_self, fun taken h => run_goto_iff.mpr ⟨b, hb, h⟩⟩
    · exact comesOf_of_mem (List.mem_cons_of_mem _ hb)
  | case5 fuel rest f a next ih =>
    obtain ⟨new, heq, hnew⟩ := ih
    refine ⟨new, heq, fun w hw => (hnew w hw).imp_right (·.trans fun b hb => ?_)⟩
    by_cases holds : a.holds (placeAt haystack pos)
    · rw [if_pos holds] at hb
      rcases List.mem_cons.mp hb with rfl | hb
      · exact ⟨.require a next, List.mem_cons_self,
          fun taken h => run_require_iff.mpr ⟨holds, h⟩⟩
      · exact comesOf_of_mem (List.mem_cons_of_mem _ hb)
    · rw [if_neg holds] at hb
      exact comesOf_of_mem (List.mem_cons_of_mem _ hb)
  | case6 fuel rest f action _ _ ih =>
    obtain ⟨new, heq, hnew⟩ := ih
    refine ⟨new ++ [(action, start)], by simp [heq], fun w hw => ?_⟩
    rcases List.mem_append.mp hw with hw | hw
    · refine (hnew w hw).imp_right (·.trans fun b hb => ?_)
      exact comesOf_of_mem (List.mem_cons_of_mem _ hb)
    · obtain rfl := List.mem_singleton.mp hw
      exact ⟨rfl, comesOf_of_mem List.mem_cons_self⟩


-- ---------------------------------------------------------------------------
-- What the threads wait for
-- ---------------------------------------------------------------------------

/-- What threads wait for at a position: each action is one of a thread, the later starts come
first, and a run of a thread is one of an action too, with no later start. -/
structure Serves (p : Program) (haystack : Bytes) (pos : Nat) (threads : List Thread)
    (waiting : List (Action × Nat)) : Prop where
  source : ∀ w ∈ waiting, ∃ t ∈ threads, t.start = w.2 ∧
    ∀ taken, p.Run haystack w.1 pos taken → p.Run haystack (.goto t.block) pos taken
  ordered : waiting.Pairwise fun v w => w.2 ≤ v.2
  reached : ∀ t ∈ threads, ∀ taken, p.Run haystack (.goto t.block) pos taken →
    ∃ w ∈ waiting, w.2 ≤ t.start ∧ w.1.waits ∧ p.Run haystack w.1 pos taken

/-- Following a thread that begins no earlier than the others serves it too. -/
theorem Serves.follow {haystack : Bytes} {pos : Nat} {threads : List Thread} {t : Thread}
    (h : p.Serves haystack pos threads f.waiting) (hclosed : f.Closed p (placeAt haystack pos) [])
    (hlast : ∀ u ∈ threads, u.start ≤ t.start) (hfuel : 2 * p.actionCount + 2 ≤ fuel) :
    (p.follow (placeAt haystack pos) t.start fuel [.goto t.block] f).Closed p
        (placeAt haystack pos) [] ∧
      p.Serves haystack pos (threads ++ [t])
        (p.follow (placeAt haystack pos) t.start fuel [.goto t.block] f).waiting := by
  have hunentered := p.unentered_le f.entered
  have hsteps : stepsOf [.goto t.block] = 1 := rfl
  have henough : 2 * p.unentered f.entered + stepsOf [.goto t.block] ≤ fuel := by omega
  have hfollowed := follow_followed t.start henough (hclosed.mono (by simp))
  obtain ⟨new, heq, hnew⟩ := p.follow_waiting haystack pos t.start fuel [.goto t.block] f
  have hbound : ∀ w ∈ new ++ f.waiting, w.2 ≤ t.start := by
    intro w hw
    rcases List.mem_append.mp hw with hw | hw
    · exact (hnew w hw).1.le
    · obtain ⟨u, hu, hstart, -⟩ := h.source w hw
      exact hstart ▸ hlast u hu
  refine ⟨hfollowed.closed, ?_⟩
  constructor
  case source =>
    intro w hw
    rw [heq] at hw
    rcases List.mem_append.mp hw with hw | hw
    · obtain ⟨hstart, a, ha, hrun⟩ := hnew w hw
      obtain rfl := List.mem_singleton.mp ha
      exact ⟨t, by simp, hstart.symm, hrun⟩
    · obtain ⟨u, hu, hserved⟩ := h.source w hw
      exact ⟨u, List.mem_append_left _ hu, hserved⟩
  case ordered =>
    rw [heq]
    refine List.pairwise_append.mpr ⟨?_, h.ordered, fun v hv w hw => ?_⟩
    · exact List.pairwise_of_forall_mem_list fun v hv w hw =>
        (hnew w hw).1.trans (hnew v hv).1.symm |>.le
    · rw [(hnew v hv).1]
      exact hbound w (List.mem_append_right _ hw)
  case reached =>
    intro u hu taken hrun
    rcases List.mem_append.mp hu with hu | hu
    · obtain ⟨w, hw, hserves⟩ := h.reached u hu taken hrun
      exact ⟨w, heq ▸ List.mem_append_right _ hw, hserves⟩
    · obtain rfl := List.mem_singleton.mp hu
      obtain ⟨w, hw, hserves⟩ := hfollowed.exists_waiting List.mem_cons_self hrun
      exact ⟨w, hw, hbound w (heq ▸ hw), hserves⟩

/-- Threads in order of their starts are all served. -/
theorem frontier_serves {haystack : Bytes} {pos : Nat} {threads : List Thread}
    (hordered : threads.Pairwise fun t u => t.start ≤ u.start)
    (hfuel : 2 * p.actionCount + 2 ≤ fuel) :
    p.Serves haystack pos threads (p.frontier fuel (placeAt haystack pos) threads) := by
  suffices h : ((threads.foldl (fun f t =>
        p.follow (placeAt haystack pos) t.start fuel [.goto t.block] f) {}).Closed p
          (placeAt haystack pos) []) ∧
      p.Serves haystack pos threads (p.frontier fuel (placeAt haystack pos) threads) from h.2
  unfold frontier
  -- The last thread is followed last, in the frontier of the others.
  induction threads using List.reverseRecOn with
  | nil => exact ⟨Frontier.closed_empty p _, by constructor <;> simp⟩
  | append_singleton threads t ih =>
    obtain ⟨hfirst, -, hlast⟩ := List.pairwise_append.mp hordered
    obtain ⟨hclosed, hserves⟩ := ih hfirst
    rw [List.foldl_append]
    exact hserves.follow hclosed (fun u hu => hlast u hu t List.mem_cons_self) hfuel

end Program


-- ---------------------------------------------------------------------------
-- The next byte
-- ---------------------------------------------------------------------------

/-- What comes of waiting actions with the next byte: the threads in order of their starts, each of
an action that takes the byte, and a match of the least start that accepts. A thread is dropped for
a match that begins no later. -/
structure Advances (byte : Option UInt8) (waiting : List (Action × Nat)) (threads : List Thread)
    (found : Option Nat) : Prop where
  source : ∀ t ∈ threads, ∃ a b, (a, t.start) ∈ waiting ∧ byte = some b ∧ a.Takes b t.block
  ordered : threads.Pairwise fun t u => t.start ≤ u.start
  accepting : ∀ start, found = some start → (.accept, start) ∈ waiting
  before : ∀ start, found = some start → ∀ t ∈ threads, t.start ≤ start
  taken : ∀ a start b next, (a, start) ∈ waiting → byte = some b → a.Takes b next →
    ⟨next, start⟩ ∈ threads ∨ ∃ first, found = some first ∧ first ≤ start
  accepted : ∀ start, (.accept, start) ∈ waiting → ∃ first, found = some first ∧ first ≤ start

namespace Advances

variable {byte : Option UInt8} {waiting : List (Action × Nat)} {threads : List Thread}
  {found : Option Nat} {a : Action} {b : UInt8} {start next : Nat}

/-- An action that begins no later than the others takes the byte. -/
theorem concat_takes (h : Advances (some b) waiting threads found)
    (hfirst : ∀ w ∈ waiting, start ≤ w.2) (ht : a.Takes b next) :
    Advances (some b) (waiting ++ [(a, start)]) (⟨next, start⟩ :: threads) found where
  source := by
    refine List.forall_mem_cons.mpr ⟨⟨a, b, by simp, rfl, ht⟩, fun t ht => ?_⟩
    obtain ⟨a', b', hmem, hsource⟩ := h.source t ht
    exact ⟨a', b', List.mem_append_left _ hmem, hsource⟩
  ordered := by
    refine List.pairwise_cons.mpr ⟨fun t ht => ?_, h.ordered⟩
    obtain ⟨a', -, hmem, -⟩ := h.source t ht
    exact hfirst _ hmem
  accepting s hs := List.mem_append_left _ (h.accepting s hs)
  before s hs := List.forall_mem_cons.mpr ⟨hfirst _ (h.accepting s hs), h.before s hs⟩
  taken a' s b' next' hmem hbyte ht' := by
    rcases List.mem_append.mp hmem with hmem | hmem
    · exact (h.taken a' s b' next' hmem hbyte ht').imp_left (List.mem_cons_of_mem _)
    · cases List.mem_singleton.mp hmem
      cases hbyte
      exact .inl (ht.next_eq ht' ▸ List.mem_cons_self)
  accepted s hmem := by
    rcases List.mem_append.mp hmem with hmem | hmem
    · exact h.accepted s hmem
    · cases List.mem_singleton.mp hmem
      cases ht

/-- If an action that begins no later than the others accepts, the others are dropped. -/
theorem concat_accept (hfirst : ∀ w ∈ waiting, start ≤ w.2) :
    Advances byte (waiting ++ [(.accept, start)]) [] (some start) where
  source := by simp
  ordered := .nil
  accepting s hs := by
    cases hs
    simp
  before := by simp
  taken a' s b' next' hmem _ ht' := by
    rcases List.mem_append.mp hmem with hmem | hmem
    · exact .inr ⟨start, rfl, hfirst _ hmem⟩
    · cases List.mem_singleton.mp hmem
      cases ht'
  accepted s hmem := by
    rcases List.mem_append.mp hmem with hmem | hmem
    · exact ⟨start, rfl, hfirst _ hmem⟩
    · cases List.mem_singleton.mp hmem
      exact ⟨start, rfl, le_rfl⟩

theorem concat_other (h : Advances byte waiting threads found) (haccept : a ≠ .accept)
    (htakes : ∀ b next, byte = some b → ¬ a.Takes b next) :
    Advances byte (waiting ++ [(a, start)]) threads found where
  source t ht := by
    obtain ⟨a', b', hmem, hsource⟩ := h.source t ht
    exact ⟨a', b', List.mem_append_left _ hmem, hsource⟩
  ordered := h.ordered
  accepting s hs := List.mem_append_left _ (h.accepting s hs)
  before := h.before
  taken a' s b' next' hmem hbyte ht' := by
    rcases List.mem_append.mp hmem with hmem | hmem
    · exact h.taken a' s b' next' hmem hbyte ht'
    · cases List.mem_singleton.mp hmem
      exact absurd ht' (htakes b' next' hbyte)
  accepted s hmem := by
    rcases List.mem_append.mp hmem with hmem | hmem
    · exact h.accepted s hmem
    · cases List.mem_singleton.mp hmem
      exact absurd rfl haccept

end Advances

theorem advance_concat_takes {a : Action} {b : UInt8} {next : Nat} (h : a.Takes b next)
    (waiting : List (Action × Nat)) (start : Nat) :
    advance (some b) (waiting ++ [(a, start)])
      = (⟨next, start⟩ :: (advance (some b) waiting).1, (advance (some b) waiting).2) := by
  cases h with
  | take _ contains => simp [advance, contains]
  | takeByte => simp [advance]

theorem advance_concat_accept (byte : Option UInt8) (waiting : List (Action × Nat)) (start : Nat) :
    advance byte (waiting ++ [(.accept, start)]) = ([], some start) := by
  simp [advance]

theorem advance_concat_other {byte : Option UInt8} {a : Action} (haccept : a ≠ .accept)
    (htakes : ∀ b next, byte = some b → ¬ a.Takes b next) (waiting : List (Action × Nat))
    (start : Nat) : advance byte (waiting ++ [(a, start)]) = advance byte waiting := by
  cases a with
  | accept => exact absurd rfl haccept
  | require a next => simp [advance]
  | goto next => simp [advance]
  | take set next =>
    have hnot : ¬ byte.any (set.contains ·.toNat) := by
      intro hany
      obtain ⟨b, hb, hcontains⟩ := (Option.any_eq_true _ _).mp hany
      exact htakes b next hb (.take next hcontains)
    simp [advance, hnot]
  | takeByte next =>
    have hnone : byte = none := by
      cases byte with
      | none => rfl
      | some b => exact absurd (.takeByte next) (htakes b next rfl)
    simp [advance, hnone]

/-- Waiting actions with the later starts first advance in order. -/
theorem advance_advances (byte : Option UInt8) {waiting : List (Action × Nat)}
    (hordered : waiting.Pairwise fun v w => w.2 ≤ v.2) :
    Advances byte waiting (advance byte waiting).1 (advance byte waiting).2 := by
  induction waiting using List.reverseRecOn with
  | nil => constructor <;> simp [advance]
  | append_singleton waiting w ih =>
    obtain ⟨a, start⟩ := w
    obtain ⟨hbefore, -, hlast⟩ := List.pairwise_append.mp hordered
    have hfirst : ∀ w ∈ waiting, start ≤ w.2 := fun w hw => hlast w hw _ List.mem_cons_self
    by_cases haccept : a = .accept
    · rw [haccept, advance_concat_accept]
      exact .concat_accept hfirst
    · by_cases htakes : ∃ b next, byte = some b ∧ a.Takes b next
      · obtain ⟨b, next, rfl, ht⟩ := htakes
        rw [advance_concat_takes ht]
        exact (ih hbefore).concat_takes hfirst ht
      · have hnone : ∀ b next, byte = some b → ¬ a.Takes b next :=
          fun b next hb ht => htakes ⟨b, next, hb, ht⟩
        rw [advance_concat_other haccept hnone]
        exact (ih hbefore).concat_other haccept hnone


-- ---------------------------------------------------------------------------
-- Searching
-- ---------------------------------------------------------------------------

/-- A span lies in a haystack. -/
structure Span.Within (s : Span) (haystack : Bytes) : Prop where
  start_le : s.start ≤ s.stop
  stop_le : s.stop ≤ haystack.length

namespace Program

/-- The first match of a program in a haystack, of those that begin at `offset` or later: there is
one, and none begins before it, or there is none at all. -/
structure Leftmost (p : Program) (haystack : Bytes) (offset : Nat) (result : Option Span) :
    Prop where
  matched : ∀ s, result = some s → offset ≤ s.start ∧ s.Within haystack ∧
    p.MatchesAt haystack s.start (s.text haystack)
  first : ∀ start taken, offset ≤ start → start ≤ haystack.length →
    p.MatchesAt haystack start taken → ∃ s, result = some s ∧ s.start ≤ start

/-- A search that has come to a position: the threads go on with matches that have begun before
`bound`, and none of those is missed, for a match found or a thread begins no later. -/
structure Searching (p : Program) (haystack : Bytes) (offset pos bound : Nat) (best : Option Span)
    (threads : List Thread) : Prop where
  ordered : threads.Pairwise fun t u => t.start ≤ u.start
  starts : ∀ t ∈ threads, offset ≤ t.start ∧ t.start ≤ pos
  leads : ∀ t ∈ threads, ∀ taken, p.Run haystack (.goto t.block) pos taken →
    p.MatchesAt haystack t.start ((⟨t.start, pos⟩ : Span).text haystack ++ taken)
  matched : ∀ s, best = some s → offset ≤ s.start ∧ s.Within haystack ∧
    p.MatchesAt haystack s.start (s.text haystack)
  stopped : ∀ s, best = some s → s.stop < bound
  before : ∀ s, best = some s → ∀ t ∈ threads, t.start ≤ s.start
  carried : ∀ start taken, offset ≤ start → start < bound → p.MatchesAt haystack start taken →
    (∃ s, best = some s ∧ s.start ≤ start) ∨
      ∃ t ∈ threads, t.start ≤ start ∧ ∃ rest, p.Run haystack (.goto t.block) pos rest

theorem Span.text_succ {haystack : Bytes} {start pos : Nat} {b : UInt8} (h : start ≤ pos)
    (hb : haystack[pos]? = some b) :
    (⟨start, pos + 1⟩ : Span).text haystack = (⟨start, pos⟩ : Span).text haystack ++ [b] := by
  have hdrop : (haystack.drop start)[pos - start]? = some b := by
    rw [List.getElem?_drop, Nat.add_sub_cancel' h, hb]
  simp only [Span.text]
  rw [Nat.succ_sub h, List.take_add_one, hdrop, Option.toList_some]

namespace Searching

variable {p : Program} {haystack : Bytes} {offset pos : Nat} {best : Option Span}
  {threads : List Thread} {fuel : Nat}

/-- While there is no match, a new thread begins. -/
theorem extend (h : p.Searching haystack offset pos pos best threads) (hoffset : offset ≤ pos) :
    p.Searching haystack offset pos (pos + 1) best
      (if best.isNone then threads ++ [⟨p.entry, pos⟩] else threads) := by
  cases best with
  | some s =>
    have hstart := (h.matched s rfl).2.1.start_le
    have hstop := h.stopped s rfl
    exact
      { h with
        stopped := fun s' hs' => Nat.lt_succ_of_lt (h.stopped s' hs')
        carried := fun start taken hoffset' hbound hmatch => by
          rcases Nat.lt_succ_iff_lt_or_eq.mp hbound with hlt | rfl
          · exact h.carried start taken hoffset' hlt hmatch
          · exact .inl ⟨s, rfl, (hstart.trans_lt hstop).le⟩ }
  | none =>
    rw [Option.isNone_none, if_pos rfl]
    constructor
    case ordered =>
      refine List.pairwise_append.mpr ⟨h.ordered, List.pairwise_singleton .., fun t ht u hu => ?_⟩
      rw [List.mem_singleton.mp hu]
      exact (h.starts t ht).2
    case starts =>
      exact List.forall_mem_append.mpr ⟨h.starts, List.forall_mem_singleton.mpr ⟨hoffset, le_rfl⟩⟩
    case leads =>
      refine List.forall_mem_append.mpr
        ⟨h.leads, List.forall_mem_singleton.mpr fun taken hrun => ?_⟩
      simpa [Span.text, MatchesAt] using hrun
    case matched => simp
    case stopped => simp
    case before => simp
    case carried =>
      intro start taken hstart hbound hmatch
      rcases Nat.lt_succ_iff_lt_or_eq.mp hbound with hlt | rfl
      · obtain ⟨t, ht, hserves⟩ :=
          (h.carried start taken hstart hlt hmatch).resolve_left (by simp)
        exact .inr ⟨t, List.mem_append_left _ ht, hserves⟩
      · exact .inr ⟨⟨p.entry, start⟩, by simp, le_rfl, taken, hmatch⟩

/-- What accepts at a position has come to the end of a match. -/
theorem matched_of_accepting {bound start : Nat} {waiting : List (Action × Nat)}
    (h : p.Searching haystack offset pos bound best threads) (hpos : pos ≤ haystack.length)
    (hserves : p.Serves haystack pos threads waiting) (hmem : (.accept, start) ∈ waiting) :
    offset ≤ start ∧ (⟨start, pos⟩ : Span).Within haystack ∧
      p.MatchesAt haystack start ((⟨start, pos⟩ : Span).text haystack) := by
  obtain ⟨t, ht, rfl, hrun⟩ := hserves.source _ hmem
  have hmatch := h.leads t ht [] (hrun [] (.accept pos))
  rw [List.append_nil] at hmatch
  exact ⟨(h.starts t ht).1, ⟨(h.starts t ht).2, hpos⟩, hmatch⟩

/-- A thread with a run goes on, unless a match is found that begins no later. -/
theorem goes_on {waiting : List (Action × Nat)} {next : List Thread} {found : Option Nat}
    (hserves : p.Serves haystack pos threads waiting)
    (hadvances : Advances haystack[pos]? waiting next found) {t : Thread} (ht : t ∈ threads)
    {taken : Bytes} (hrun : p.Run haystack (.goto t.block) pos taken) :
    (∃ first, found = some first ∧ first ≤ t.start) ∨
      ∃ u ∈ next, u.start ≤ t.start ∧
        ∃ rest, p.Run haystack (.goto u.block) (pos + 1) rest := by
  obtain ⟨⟨a, begun⟩, hmem, hbegun, hwaits, hrun⟩ := hserves.reached t ht taken hrun
  cases hrun with
  | accept =>
    obtain ⟨first, hfirst, hle⟩ := hadvances.accepted begun hmem
    exact .inl ⟨first, hfirst, hle.trans hbegun⟩
  | pass passes => exact absurd hwaits (by simp [passes.not_waits])
  | take byte takes haction hrest =>
    rcases hadvances.taken _ _ _ _ hmem byte takes with hthread | ⟨first, hfirst, hle⟩
    · exact .inr ⟨_, hthread, hbegun, _, run_goto_iff.mpr ⟨_, haction, hrest⟩⟩
    · exact .inl ⟨first, hfirst, hle.trans hbegun⟩

/-- Every match that begins up to a position is still carried one byte later. -/
theorem step {waiting : List (Action × Nat)} {next : List Thread} {found : Option Nat}
    (h : p.Searching haystack offset pos (pos + 1) best threads) (hpos : pos ≤ haystack.length)
    (hserves : p.Serves haystack pos threads waiting)
    (hadvances : Advances haystack[pos]? waiting next found) :
    p.Searching haystack offset (pos + 1) (pos + 1) ((found.map (⟨·, pos⟩)).or best) next := by
  -- what a thread goes on from, a byte before
  have hsource : ∀ t ∈ next, ∃ u ∈ threads, u.start = t.start ∧ ∃ b, haystack[pos]? = some b ∧
      ∀ taken, p.Run haystack (.goto t.block) (pos + 1) taken →
        p.Run haystack (.goto u.block) pos (b :: taken) := by
    intro t ht
    obtain ⟨a, b, hmem, hb, htakes⟩ := hadvances.source t ht
    obtain ⟨u, hu, hstart, hrun⟩ := hserves.source _ hmem
    refine ⟨u, hu, hstart, b, hb, fun taken h => hrun _ ?_⟩
    obtain ⟨action, haction, hrest⟩ := run_goto_iff.mp h
    exact .take hb htakes haction hrest
  constructor
  case ordered => exact hadvances.ordered
  case starts =>
    intro t ht
    obtain ⟨u, hu, hstart, -⟩ := hsource t ht
    have hle := h.starts u hu
    exact ⟨hstart ▸ hle.1, hstart ▸ Nat.le_succ_of_le hle.2⟩
  case leads =>
    intro t ht taken hrun
    obtain ⟨u, hu, hstart, b, hb, hback⟩ := hsource t ht
    have hmatch := h.leads u hu _ (hback taken hrun)
    rw [← hstart, Span.text_succ (h.starts u hu).2 hb, List.append_assoc]
    exact hmatch
  case matched =>
    intro s hs
    cases found with
    | none => exact h.matched s hs
    | some start =>
      cases hs
      exact h.matched_of_accepting hpos hserves (hadvances.accepting start rfl)
  case stopped =>
    intro s hs
    cases found with
    | none => exact h.stopped s hs
    | some start =>
      cases hs
      exact Nat.lt_succ_self pos
  case before =>
    intro s hs t ht
    cases found with
    | none =>
      obtain ⟨u, hu, hstart, -⟩ := hsource t ht
      exact hstart ▸ h.before s hs u hu
    | some start =>
      cases hs
      exact hadvances.before start rfl t ht
  case carried =>
    intro start taken hstart hbound hmatch
    rcases h.carried start taken hstart hbound hmatch with ⟨s, hs, hle⟩ | ⟨t, ht, hle, rest, hrun⟩
    · left
      cases found with
      | none => exact ⟨s, hs, hle⟩
      | some first =>
        obtain ⟨t, ht, hfirst, -⟩ := hserves.source _ (hadvances.accepting first rfl)
        exact ⟨_, rfl, hfirst.symm.le.trans ((h.before s hs t ht).trans hle)⟩
    · rcases goes_on hserves hadvances ht hrun with ⟨first, rfl, hfirst⟩ | ⟨u, hu, hbegun, hrest⟩
      · exact .inl ⟨_, rfl, hfirst.trans hle⟩
      · exact .inr ⟨u, hu, hbegun.trans hle, hrest⟩

/-- Without threads, what is found is the first match, if none can begin later. -/
theorem leftmost {bound : Nat} (h : p.Searching haystack offset pos bound best [])
    (hend : best ≠ none ∨ haystack.length < bound) : p.Leftmost haystack offset best where
  matched := h.matched
  first start taken hstart hlength hmatch := by
    rcases Nat.lt_or_ge start bound with hlt | hge
    · exact (h.carried start taken hstart hlt hmatch).resolve_right (by simp)
    · obtain ⟨s, hs⟩ := Option.ne_none_iff_exists'.mp (hend.resolve_right (by omega))
      have hbegin := (h.matched s hs).2.1.start_le
      have hstop := h.stopped s hs
      exact ⟨s, hs, by omega⟩

end Searching

/-- The search behind the byte at a position, if there is one. -/
def searchNext (p : Program) (fuel pos : Nat) (best : Option Span) (threads : List Thread) :
    Bytes → Option Span
  | [] => best
  | b :: rest => p.searchFrom fuel (some b) (pos + 1) best threads rest

theorem searchFrom_idle {p : Program} {pos : Nat} {best : Option Span} {threads : List Thread}
    (hthreads : (if best.isNone then threads ++ [⟨p.entry, pos⟩] else threads) = []) (fuel : Nat)
    (before : Option UInt8) (rest : Bytes) :
    p.searchFrom fuel before pos best threads rest = best := by
  rw [searchFrom.eq_def]
  dsimp only
  rw [hthreads]
  rfl

theorem searchFrom_step {p : Program} {pos fuel : Nat} {before : Option UInt8} {best : Option Span}
    {threads extended next : List Thread} {found : Option Nat} {rest : Bytes}
    (hthreads : (if best.isNone then threads ++ [⟨p.entry, pos⟩] else threads) = extended)
    (hne : extended ≠ [])
    (hnext : advance rest.head? (p.frontier fuel ⟨before, rest.head?⟩ extended) = (next, found)) :
    p.searchFrom fuel before pos best threads rest
      = p.searchNext fuel pos ((found.map (⟨·, pos⟩)).or best) next rest := by
  rw [searchFrom.eq_def]
  dsimp only
  rw [hthreads, if_neg (by simpa using hne), hnext]
  cases found <;> cases rest <;> rfl

/-- At each position the search is over, or comes to the next one and carries all matches on. -/
theorem searchFrom_cases {p : Program} {haystack : Bytes} {offset pos fuel : Nat}
    {best : Option Span} {threads : List Thread} {rest : Bytes}
    (h : p.Searching haystack offset pos pos best threads) (hoffset : offset ≤ pos)
    (hpos : pos ≤ haystack.length) (hrest : haystack.drop pos = rest)
    (hfuel : 2 * p.actionCount + 2 ≤ fuel) :
    p.Leftmost haystack offset
        (p.searchFrom fuel (placeAt haystack pos).before pos best threads rest) ∨
      ∃ best' next, p.Searching haystack offset (pos + 1) (pos + 1) best' next ∧
        (rest = [] → next = []) ∧
        p.searchFrom fuel (placeAt haystack pos).before pos best threads rest
          = p.searchNext fuel pos best' next rest := by
  have hextended := h.extend hoffset
  generalize hthreads : (if best.isNone then threads ++ [⟨p.entry, pos⟩] else threads) = extended
    at hextended
  by_cases hne : extended = []
  · rw [hne] at hthreads hextended
    rw [searchFrom_idle hthreads]
    exact .inl (hextended.leftmost (.inl (by rintro rfl; simp at hthreads)))
  · have hafter : haystack[pos]? = rest.head? := by
      rw [← hrest, List.head?_drop]
    have hserves : p.Serves haystack pos extended _ := frontier_serves hextended.ordered hfuel
    have hadvances := advance_advances haystack[pos]? hserves.ordered
    refine .inr ⟨_, _, hextended.step hpos hserves hadvances, ?_, ?_⟩
    · rintro rfl
      refine List.eq_nil_iff_forall_not_mem.mpr fun t ht => ?_
      obtain ⟨a, b, -, hbyte, -⟩ := hadvances.source t ht
      rw [hafter] at hbyte
      cases hbyte
    · rw [hafter]
      refine searchFrom_step hthreads hne ?_
      rw [← hafter]
      rfl

/-- Searching on from a position finds the first match. -/
theorem searchFrom_leftmost {p : Program} {haystack : Bytes} {offset pos fuel : Nat}
    {best : Option Span} {threads : List Thread} {rest : Bytes}
    (h : p.Searching haystack offset pos pos best threads) (hoffset : offset ≤ pos)
    (hpos : pos ≤ haystack.length) (hrest : haystack.drop pos = rest)
    (hfuel : 2 * p.actionCount + 2 ≤ fuel) :
    p.Leftmost haystack offset
      (p.searchFrom fuel (placeAt haystack pos).before pos best threads rest) := by
  -- Induction on the bytes ahead; what the search carries is kept by every step.
  induction rest generalizing pos best threads with
  | nil =>
    rcases searchFrom_cases h hoffset hpos hrest hfuel with hdone | ⟨best', next, hnext, hnil, heq⟩
    · exact hdone
    · have hend := List.drop_eq_nil_iff.mp hrest
      rw [hnil rfl] at hnext
      rw [heq]
      exact hnext.leftmost (.inr (Nat.lt_succ_of_le hend))
  | cons b rest ih =>
    rcases searchFrom_cases h hoffset hpos hrest hfuel with hdone | ⟨best', next, hnext, -, heq⟩
    · exact hdone
    · have hb : haystack[pos]? = some b := by
        rw [← List.head?_drop, hrest, List.head?_cons]
      have hbefore : (placeAt haystack (pos + 1)).before = some b := hb
      have hdrop : haystack.drop (pos + 1) = rest := by
        rw [← List.tail_drop, hrest, List.tail_cons]
      have hlt := (List.getElem?_eq_some_iff.mp hb).1
      rw [heq, searchNext, ← hbefore]
      exact ih hnext (Nat.le_succ_of_le hoffset) hlt hdrop

/-- A search finds the first match. -/
theorem search_leftmost (p : Program) (haystack : Bytes) {offset : Nat}
    (h : offset ≤ haystack.length) : p.Leftmost haystack offset (p.search haystack offset) := by
  have hstart : p.Searching haystack offset offset offset none [] := by
    constructor <;> simp
    omega
  exact searchFrom_leftmost hstart le_rfl h rfl le_rfl

end Program

end FileSearch.Regex
