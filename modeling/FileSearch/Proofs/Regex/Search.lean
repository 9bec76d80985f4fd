import FileSearch.Regex.Search
import Mathlib.Data.List.Nodup
import Mathlib.Order.Bounds.Basic

/-!
# Searching for a sequence of sets

A program that takes one set after the other has one thread for each place at which the sets may have
begun, and no two of them wait for the same set: how far a thread is tells where it began. So none is
dropped before its time, and the search finds the least place at which the sets are taken
(`Program.Spells.search`).
-/

namespace FileSearch.Regex


-- ---------------------------------------------------------------------------
-- Places where sets are taken
-- ---------------------------------------------------------------------------

/-- As many bytes of a haystack from `start` on as `count` says are taken by the first sets. -/
def TakenUpTo (sets : List CharSet) (haystack : Bytes) (start count : Nat) : Prop :=
  ∀ i < count, ∃ set b, sets[i]? = some set ∧ haystack[start + i]? = some b ∧ set.contains b.toNat

/-- All sets are taken, from `start` on. -/
def TakenAt (sets : List CharSet) (haystack : Bytes) (start : Nat) : Prop :=
  TakenUpTo sets haystack start sets.length

theorem takenUpTo_zero (sets : List CharSet) (haystack : Bytes) (start : Nat) :
    TakenUpTo sets haystack start 0 :=
  fun _ hi => absurd hi (Nat.not_lt_zero _)

theorem takenUpTo_succ {sets : List CharSet} {haystack : Bytes} {start count : Nat} :
    TakenUpTo sets haystack start (count + 1)
      ↔ TakenUpTo sets haystack start count ∧ ∃ set b, sets[count]? = some set ∧
          haystack[start + count]? = some b ∧ set.contains b.toNat := by
  constructor
  · exact fun h => ⟨fun i hi => h i (Nat.lt_succ_of_lt hi), h count (Nat.lt_succ_self _)⟩
  · rintro ⟨h, hlast⟩ i hi
    rcases Nat.lt_succ_iff_lt_or_eq.mp hi with hi | rfl
    · exact h i hi
    · exact hlast

theorem takenAt_cons {set : CharSet} {sets : List CharSet} {haystack : Bytes} {start : Nat} :
    TakenAt (set :: sets) haystack start
      ↔ (∃ b, haystack[start]? = some b ∧ set.contains b.toNat) ∧ TakenAt sets haystack (start + 1) := by
  unfold TakenAt TakenUpTo
  rw [List.length_cons, Nat.forall_lt_succ_left]
  simp [Nat.add_assoc, Nat.add_comm 1]

/-- The sets are taken where bytes of theirs stand one after the other. -/
theorem takenAt_iff_forall₂ {sets : List CharSet} {haystack : Bytes} {start : Nat} :
    TakenAt sets haystack start
      ↔ List.Forall₂ (fun set b => set.contains b.toNat) sets
          ((haystack.drop start).take sets.length) := by
  induction sets generalizing start with
  | nil => simp [TakenAt, TakenUpTo]
  | cons set sets ih =>
    rw [takenAt_cons, ih]
    cases hb : haystack[start]? with
    | none =>
      have hdrop : haystack.drop start = [] :=
        List.drop_eq_nil_of_le (List.getElem?_eq_none_iff.mp hb)
      simp [hdrop]
    | some b =>
      obtain ⟨hlt, rfl⟩ := List.getElem?_eq_some_iff.mp hb
      rw [List.drop_eq_getElem_cons hlt, List.length_cons, List.take_succ_cons, List.forall₂_cons]
      simp
/-- The sets are not taken beyond the end of a haystack. -/
theorem TakenAt.le_length {sets : List CharSet} {haystack : Bytes} {start : Nat}
    (h : TakenAt sets haystack start) (hne : sets ≠ []) :
    start + sets.length ≤ haystack.length := by
  have hpos := List.length_pos_iff.mpr hne
  obtain ⟨-, b, -, hb, -⟩ := h (sets.length - 1) (by omega)
  have hlast := (List.getElem?_eq_some_iff.mp hb).1
  omega


-- ---------------------------------------------------------------------------
-- The waiting threads
-- ---------------------------------------------------------------------------

/-- Whether an action takes a byte or accepts. -/
def Action.waits : Action → Bool
  | .take _ _ | .takeByte _ | .accept => true
  | .require _ _ | .goto _ => false

namespace Program

variable {p : Program} {place : Place} {fuel : Nat}

@[simp] theorem follow_nil (start fuel : Nat) (f : Frontier) :
    p.follow place start fuel [] f = f := by
  cases fuel <;> rfl

/-- A block of one action that waits. -/
theorem follow_single {start block : Nat} {action : Action} {f : Frontier}
    (hblock : p.block block = [action]) (hwaits : action.waits)
    (hnew : f.entered.contains block = false) :
    p.follow place start (fuel + 2) [.goto block] f
      = { entered := f.entered.insert block, waiting := (action, start) :: f.waiting } := by
  cases action with
  | require a next => cases hwaits
  | goto next => cases hwaits
  | take set next => simp [follow, hnew, hblock]
  | takeByte next => simp [follow, hnew, hblock]
  | accept => simp [follow, hnew, hblock]

/-- Threads in different blocks, each of one action that waits, all come to wait. -/
theorem frontier_single {action : Thread → Action} {threads : List Thread}
    (hblock : ∀ t ∈ threads, p.block t.block = [action t])
    (hwaits : ∀ t ∈ threads, (action t).waits)
    (hapart : (threads.map (·.block)).Nodup) :
    p.frontier (fuel + 2) place threads
      = (threads.map fun t => (action t, t.start)).reverse := by
  suffices h : ∀ f : Frontier, (∀ t ∈ threads, f.entered.contains t.block = false) →
      (threads.foldl (fun f t => p.follow place t.start (fuel + 2) [.goto t.block] f) f).waiting
        = (threads.map fun t => (action t, t.start)).reverse ++ f.waiting by
    simpa [frontier] using h {} (by simp)
  intro f hnew
  induction threads generalizing f with
  | nil => rfl
  | cons t rest ih =>
    rw [List.forall_mem_cons] at hblock hwaits hnew
    obtain ⟨hfirst, hrest⟩ := List.nodup_cons.mp hapart
    rw [List.foldl_cons, follow_single hblock.1 hwaits.1 hnew.1, ih hblock.2 hwaits.2 hrest]
    · simp
    · intro t' ht'
      have hne : t.block ≠ t'.block := by
        intro heq
        exact hfirst (List.mem_map.mpr ⟨t', ht', heq.symm⟩)
      simp [hne, hnew.2 t' ht']

end Program


-- ---------------------------------------------------------------------------
-- A step of the threads
-- ---------------------------------------------------------------------------

/-- A thread that waits for a byte goes on if it is of the set. -/
theorem advance_takes {byte : Option UInt8} {α : Type} (set : α → CharSet) (next start : α → Nat)
    (xs : List α) :
    advance byte (xs.map fun x => (Action.take (set x) (next x), start x)).reverse
      = ((xs.filter fun x => byte.any ((set x).contains ·.toNat)).map fun x =>
          ⟨next x, start x⟩, none) := by
  induction xs with
  | nil => rfl
  | cons x rest ih =>
    rw [List.map_cons, List.reverse_cons]
    simp only [advance, List.foldl_append, List.foldl_cons, List.foldl_nil] at ih ⊢
    rw [ih]
    by_cases hx : byte.any ((set x).contains ·.toNat) <;> simp [hx]

/-- If the most preferred thread accepts, all others are dropped. -/
theorem advance_accept (byte : Option UInt8) (start : Nat) (others : List (Action × Nat)) :
    advance byte ((.accept, start) :: others).reverse = ([], some start) := by
  simp [advance]


-- ---------------------------------------------------------------------------
-- Programs that take one set after the other
-- ---------------------------------------------------------------------------

namespace Program

/-- The block of a number has as many sets still to take; the last one accepts. -/
structure Spells (p : Program) (sets : List CharSet) : Prop where
  entry_eq : p.entry = sets.length
  block_zero : p.block 0 = [.accept]
  block_take : ∀ i set, sets[i]? = some set →
    p.block (sets.length - i) = [.take set (sets.length - (i + 1))]

/-- The thread that began at a place and has taken all bytes since. -/
def threadOf (sets : List CharSet) (pos start : Nat) : Thread :=
  ⟨sets.length - (pos - start), start⟩

/-- The places up to `pos` at which the sets may have begun: those from which all bytes so far are
taken. None before them has come to its end. -/
structure Candidates (sets : List CharSet) (haystack : Bytes) (pos : Nat) (starts : List Nat) :
    Prop where
  ascending : starts.Pairwise (· < ·)
  mem_iff : ∀ s, s ∈ starts ↔ s ≤ pos ∧ pos ≤ s + sets.length ∧
    TakenUpTo sets haystack s (pos - s)
  passed : ∀ s, s + sets.length < pos → ¬ TakenAt sets haystack s

namespace Candidates

variable {sets : List CharSet} {haystack : Bytes} {pos : Nat} {starts : List Nat}

/-- The sets may begin at every next place. -/
theorem extend (hascending : starts.Pairwise (· < ·))
    (hmem : ∀ s, s ∈ starts ↔ s < pos ∧ pos ≤ s + sets.length ∧
      TakenUpTo sets haystack s (pos - s))
    (hpassed : ∀ s, s + sets.length < pos → ¬ TakenAt sets haystack s) :
    Candidates sets haystack pos (starts ++ [pos]) where
  ascending := by
    refine List.pairwise_append.mpr ⟨hascending, List.pairwise_singleton .., ?_⟩
    intro s hs s' hs'
    rw [List.mem_singleton.mp hs']
    exact ((hmem s).mp hs).1
  mem_iff s := by
    rw [List.mem_append, List.mem_singleton, hmem]
    constructor
    · rintro (⟨hlt, hend, htaken⟩ | rfl)
      · exact ⟨hlt.le, hend, htaken⟩
      · refine ⟨le_rfl, by omega, ?_⟩
        rw [Nat.sub_self]
        exact takenUpTo_zero sets haystack s
    · rintro ⟨hle, hend, htaken⟩
      rcases Nat.lt_or_eq_of_le hle with hlt | rfl
      · exact .inl ⟨hlt, hend, htaken⟩
      · exact .inr rfl
  passed := hpassed

/-- A place from which all sets are taken now is the first of the candidates. -/
theorem complete (h : Candidates sets haystack pos starts) {s : Nat} (hs : s ∈ starts)
    (hend : s + sets.length = pos) :
    (∃ more, starts = s :: more) ∧ IsLeast {i | TakenAt sets haystack i} s := by
  have htaken : TakenAt sets haystack s := by
    have hupTo := ((h.mem_iff s).mp hs).2.2
    rwa [show pos - s = sets.length by omega] at hupTo
  refine ⟨?_, htaken, fun s' hs' => ?_⟩
  · cases hstarts : starts with
    | nil => simp [hstarts] at hs
    | cons first more =>
      have hfirst : s ≤ first := by
        have hbound := ((h.mem_iff first).mp (by simp [hstarts])).2.1
        omega
      rw [hstarts] at hs
      rcases List.mem_cons.mp hs with rfl | hs
      · exact ⟨more, rfl⟩
      · have hlt := (List.pairwise_cons.mp (hstarts ▸ h.ascending)).1 s hs
        omega
  · by_contra hlt
    exact h.passed s' (by omega) hs'

/-- The threads of the candidates are in different blocks. -/
theorem nodup_blocks (h : Candidates sets haystack pos starts) :
    ((starts.map (threadOf sets pos)).map (·.block)).Nodup := by
  rw [List.map_map]
  refine List.Nodup.map_on ?_ (h.ascending.imp fun hlt => Nat.ne_of_lt hlt)
  intro s hs s' hs' heq
  have hs := (h.mem_iff s).mp hs
  have hs' := (h.mem_iff s').mp hs'
  simp only [Function.comp_apply, threadOf] at heq
  omega

/-- While none is complete, those stay from which the next byte is taken too. -/
theorem next (h : Candidates sets haystack pos starts)
    (hopen : ∀ s ∈ starts, s + sets.length ≠ pos) {b : UInt8} (hb : haystack[pos]? = some b) :
    let left := starts.filter fun s => (sets[pos - s]?.any (·.contains b.toNat))
    left.Pairwise (· < ·) ∧
      (∀ s, s ∈ left ↔ s < pos + 1 ∧ pos + 1 ≤ s + sets.length ∧
        TakenUpTo sets haystack s (pos + 1 - s)) ∧
      ∀ s, s + sets.length < pos + 1 → ¬ TakenAt sets haystack s := by
  refine ⟨h.ascending.filter _, fun s => ?_, fun s hs htaken => ?_⟩
  · rw [List.mem_filter, h.mem_iff]
    constructor
    · rintro ⟨⟨hle, hend, htaken⟩, hnext⟩
      obtain ⟨set, hset, hcontains⟩ := (Option.any_eq_true _ _).mp hnext
      have hlt := (List.getElem?_eq_some_iff.mp hset).1
      refine ⟨by omega, by omega, ?_⟩
      rw [Nat.succ_sub hle, takenUpTo_succ]
      refine ⟨htaken, set, b, hset, ?_, hcontains⟩
      rwa [Nat.add_sub_cancel' hle]
    · rintro ⟨hlt, hend, htaken⟩
      have hle : s ≤ pos := by omega
      rw [Nat.succ_sub hle, takenUpTo_succ] at htaken
      obtain ⟨hbefore, set, b', hset, hb', hcontains⟩ := htaken
      rw [Nat.add_sub_cancel' hle, hb, Option.some.injEq] at hb'
      subst hb'
      exact ⟨⟨hle, by omega, hbefore⟩, by simp [hset, hcontains]⟩
  · rcases Nat.lt_or_eq_of_le (Nat.le_of_lt_succ hs) with hlt | heq
    · exact h.passed s hlt htaken
    · refine hopen s ((h.mem_iff s).mpr ⟨by omega, by omega, ?_⟩) heq
      rwa [show pos - s = sets.length by omega]

/-- If none is complete at the end of the haystack, the sets are not taken anywhere. -/
theorem none_taken (h : Candidates sets haystack pos starts) (hpos : haystack.length ≤ pos)
    (hopen : ∀ s ∈ starts, s + sets.length ≠ pos) (s : Nat) : ¬ TakenAt sets haystack s := by
  intro htaken
  have hne : sets ≠ [] := by
    rintro rfl
    exact hopen pos ((h.mem_iff _).mpr ⟨le_rfl, by simp, by simp [takenUpTo_zero]⟩) (by simp)
  rcases Nat.lt_or_eq_of_le ((htaken.le_length hne).trans hpos) with hlt | heq
  · exact h.passed s hlt htaken
  · refine hopen s ((h.mem_iff s).mpr ⟨by omega, by omega, ?_⟩) heq
    rwa [show pos - s = sets.length by omega]

end Candidates

namespace Spells

variable {p : Program} {sets : List CharSet} {haystack : Bytes} {starts : List Nat} {pos fuel : Nat}

/-- What a candidate waits for: to accept, or to take the set it has come to. -/
def actionOf (sets : List CharSet) (pos : Nat) (t : Thread) : Action :=
  match sets[pos - t.start]? with
  | some set => .take set (sets.length - (pos - t.start + 1))
  | none => .accept

theorem block_threadOf (hp : p.Spells sets) (pos start : Nat) :
    p.block (threadOf sets pos start).block = [actionOf sets pos (threadOf sets pos start)] := by
  unfold actionOf threadOf
  cases hset : sets[pos - start]? with
  | some set => exact hp.block_take _ set hset
  | none =>
    have hlength := List.getElem?_eq_none_iff.mp hset
    rw [Nat.sub_eq_zero_of_le hlength]
    exact hp.block_zero

theorem frontier (hp : p.Spells sets) (h : Candidates sets haystack pos starts) (place : Place) :
    p.frontier (fuel + 2) place (starts.map (threadOf sets pos))
      = (starts.map fun s => (actionOf sets pos (threadOf sets pos s), s)).reverse := by
  have hblock : ∀ t ∈ starts.map (threadOf sets pos), p.block t.block = [actionOf sets pos t] := by
    intro t ht
    obtain ⟨s, -, rfl⟩ := List.mem_map.mp ht
    exact hp.block_threadOf pos s
  have hwaits : ∀ t ∈ starts.map (threadOf sets pos), (actionOf sets pos t).waits := by
    intro t _
    unfold actionOf
    cases sets[pos - t.start]? <;> rfl
  rw [frontier_single hblock hwaits h.nodup_blocks, List.map_map]
  rfl

/-- What the candidates come to with the next byte, and what is found. -/
theorem searchFrom_step (hp : p.Spells sets) (before : Option UInt8) (rest : Bytes)
    (h : Candidates sets haystack pos (starts ++ [pos])) :
    p.searchFrom (fuel + 2) before pos none (starts.map (threadOf sets pos)) rest =
      let next := advance rest.head? ((starts ++ [pos]).map fun s =>
        (actionOf sets pos (threadOf sets pos s), s)).reverse
      let best := next.2.map fun s => ⟨s, pos⟩
      match rest with
      | [] => best
      | b :: rest => p.searchFrom (fuel + 2) (some b) (pos + 1) best next.1 rest := by
  have hthreads : starts.map (threadOf sets pos) ++ [⟨p.entry, pos⟩]
      = (starts ++ [pos]).map (threadOf sets pos) := by
    simp [threadOf, hp.entry_eq]
  rw [Program.searchFrom, Option.isNone_none, if_pos rfl, hthreads, hp.frontier h,
    if_neg (by simp)]
  generalize advance rest.head? _ = next
  obtain ⟨threads, found⟩ := next
  cases found <;> cases rest <;> rfl

theorem searchFrom_done (best : Span) (before : Option UInt8) (rest : Bytes) :
    p.searchFrom fuel before pos (some best) [] rest = some best := by
  cases rest <;> simp [Program.searchFrom]

/-- A complete candidate is the most preferred one, and drops the others. -/
theorem advance_complete (h : Candidates sets haystack pos starts) {s : Nat} (hs : s ∈ starts)
    (hend : s + sets.length = pos) (byte : Option UInt8) :
    advance byte (starts.map fun s => (actionOf sets pos (threadOf sets pos s), s)).reverse
      = ([], some s) := by
  obtain ⟨⟨more, rfl⟩, -⟩ := h.complete hs hend
  have haccept : actionOf sets pos (threadOf sets pos s) = .accept := by
    unfold actionOf threadOf
    rw [List.getElem?_eq_none (by simp only; omega)]
  rw [List.map_cons, haccept, advance_accept]

/-- While none is complete, those go on whose set the next byte is of. -/
theorem advance_open (h : Candidates sets haystack pos starts)
    (hopen : ∀ s ∈ starts, s + sets.length ≠ pos) (byte : Option UInt8) :
    advance byte (starts.map fun s => (actionOf sets pos (threadOf sets pos s), s)).reverse
      = ((starts.filter fun s => byte.any fun b => sets[pos - s]?.any (·.contains b.toNat)).map
          (threadOf sets (pos + 1)), none) := by
  have hset : ∀ s ∈ starts, ∃ set, sets[pos - s]? = some set := by
    intro s hs
    obtain ⟨hle, hend, -⟩ := (h.mem_iff s).mp hs
    have := hopen s hs
    exact ⟨_, List.getElem?_eq_getElem (by omega)⟩
  have hactions : (starts.map fun s => (actionOf sets pos (threadOf sets pos s), s))
      = starts.map fun s =>
          (.take (sets[pos - s]?.getD .empty) (sets.length - (pos + 1 - s)), s) := by
    refine List.map_congr_left fun s hs => ?_
    obtain ⟨set, hset⟩ := hset s hs
    have hle := ((h.mem_iff s).mp hs).1
    simp [actionOf, threadOf, hset, Nat.succ_sub hle]
  have hleft : (starts.filter fun s =>
        byte.any fun b => (sets[pos - s]?.getD .empty).contains b.toNat)
      = starts.filter fun s => byte.any fun b => sets[pos - s]?.any (·.contains b.toNat) := by
    refine List.filter_congr fun s hs => ?_
    obtain ⟨set, hset⟩ := hset s hs
    simp [hset]
  rw [hactions, advance_takes, hleft]
  rfl

/-- The search goes on as long as no candidate is complete, and ends with the first that is. -/
theorem searchFrom (hp : p.Spells sets) (before : Option UInt8) (rest : Bytes)
    (hrest : haystack.drop pos = rest) (h : Candidates sets haystack pos (starts ++ [pos])) :
    (∃ s, IsLeast {i | TakenAt sets haystack i} s ∧
        p.searchFrom (fuel + 2) before pos none (starts.map (threadOf sets pos)) rest
          = some ⟨s, s + sets.length⟩) ∨
      (∀ i, ¬ TakenAt sets haystack i) ∧
        p.searchFrom (fuel + 2) before pos none (starts.map (threadOf sets pos)) rest = none := by
  -- Induction on the bytes ahead; the candidates at each place are what carries it.
  induction rest generalizing pos starts before with
  | nil =>
    rw [hp.searchFrom_step before [] h]
    by_cases hcomplete : ∃ s ∈ starts ++ [pos], s + sets.length = pos
    · obtain ⟨s, hs, hend⟩ := hcomplete
      refine .inl ⟨s, (h.complete hs hend).2, ?_⟩
      simp only [advance_complete h hs hend, Option.map_some, hend]
    · push Not at hcomplete
      refine .inr ⟨h.none_taken (List.drop_eq_nil_iff.mp hrest) hcomplete, ?_⟩
      simp only [advance_open h hcomplete, Option.map_none]
  | cons b rest ih =>
    rw [hp.searchFrom_step before (b :: rest) h]
    have hb : haystack[pos]? = some b := by
      rw [← List.head?_drop, hrest, List.head?_cons]
    have hdrop : haystack.drop (pos + 1) = rest := by
      rw [← List.tail_drop, hrest, List.tail_cons]
    by_cases hcomplete : ∃ s ∈ starts ++ [pos], s + sets.length = pos
    · obtain ⟨s, hs, hend⟩ := hcomplete
      refine .inl ⟨s, (h.complete hs hend).2, ?_⟩
      simp only [advance_complete h hs hend, Option.map_some, searchFrom_done, hend]
    · push Not at hcomplete
      obtain ⟨hascending, hmem, hpassed⟩ := h.next hcomplete hb
      simp only [advance_open h hcomplete, Option.map_none, List.head?_cons, Option.any_some]
      exact ih (some b) hdrop (Candidates.extend hascending hmem hpassed)

/-- What the search of a whole haystack finds: the least place at which the sets are taken. -/
theorem search (hp : p.Spells sets) (haystack : Bytes) :
    (∃ s, IsLeast {i | TakenAt sets haystack i} s ∧
        p.search haystack 0 = some ⟨s, s + sets.length⟩) ∨
      (∀ i, ¬ TakenAt sets haystack i) ∧ p.search haystack 0 = none := by
  have hfirst : Candidates sets haystack 0 ([] ++ [0]) :=
    Candidates.extend .nil (by simp) (by simp)
  exact hp.searchFrom none haystack rfl hfirst

end Spells

end Program

end FileSearch.Regex
