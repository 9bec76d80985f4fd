import FileSearch.Text.Utf8

/-!
# UTF-8 in pieces

Text may be decoded in pieces if each is cut before a sequence that it does not complete
(`Text.decodeChars_settled_append`). Which bytes have to wait is judged by the first of them alone,
and that is enough: where nothing has to wait, no character is under way.
-/

namespace FileSearch.Text

theorem isContinuation_iff {b : UInt8} : isContinuation b ↔ 0x80 ≤ b.toNat ∧ b.toNat ≤ 0xBF := by
  simp [isContinuation, UInt8.le_iff_toNat_le]

theorem announcedLength_eq (b : UInt8) : announcedLength b =
    if 0xC0 ≤ b.toNat && b.toNat ≤ 0xDF then 2
    else if 0xE0 ≤ b.toNat && b.toNat ≤ 0xEF then 3
    else if 0xF0 ≤ b.toNat && b.toNat ≤ 0xF7 then 4
    else 0 := by
  simp [announcedLength, UInt8.le_iff_toNat_le]

theorem announcedLength_le (b : UInt8) : announcedLength b ≤ 4 := by
  rw [announcedLength_eq]
  grind

/-- Only a byte that is no continuation byte announces others. -/
theorem announcedLength_of_continuation {b : UInt8} (h : isContinuation b) :
    announcedLength b = 0 := by
  have hbounds := isContinuation_iff.mp h
  rw [announcedLength_eq]
  grind


-- ---------------------------------------------------------------------------
-- Decoders
-- ---------------------------------------------------------------------------

namespace Decoder

variable {d : Decoder} {b : UInt8} {bytes : Bytes}

/-- The characters of the bytes that are left. -/
def rest (d : Decoder) (bytes : Bytes) : List Char := (d.run bytes).2 ++ (d.run bytes).1.finish

theorem rest_append (d : Decoder) (xs ys : Bytes) :
    d.rest (xs ++ ys) = (d.run xs).2 ++ (d.run xs).1.rest ys := by
  simp [rest, run_append]

theorem rest_cons (d : Decoder) (b : UInt8) (bytes : Bytes) :
    d.rest (b :: bytes) = (d.step b).2 ++ (d.step b).1.rest bytes := by
  simp [rest, run]

theorem rest_of_idle (h : d.missing = 0) (bytes : Bytes) : d.rest bytes = idle.rest bytes := by
  cases bytes with
  | nil => simp [rest, run, finish, h, idle]
  | cons b bytes => simp [rest_cons, step, h, idle]

/-- A decoder that has read the bytes expects continuation bytes only, as many as are left of those
that the first byte of its character announced. -/
structure Follows (d : Decoder) (bytes : Bytes) : Prop where
  low_le : 0x80 ≤ d.low
  high_le : d.high ≤ 0xBF
  under_way : d.missing ≠ 0 → ∃ before lead more, bytes = before ++ lead :: more ∧
    more.all isContinuation ∧ more.length + 1 + d.missing = announcedLength lead

theorem follows_idle (bytes : Bytes) : idle.Follows bytes :=
  ⟨Nat.le_refl _, Nat.le_refl _, fun h => absurd rfl h⟩

theorem start_announced (h : (start b.toNat).1.missing ≠ 0) :
    1 + (start b.toNat).1.missing = announcedLength b := by
  rw [announcedLength_eq]
  unfold start at h ⊢
  generalize b.toNat = n at h ⊢
  grind [idle]

theorem follows_start (bytes : Bytes) (b : UInt8) :
    (start b.toNat).1.Follows (bytes ++ [b]) := by
  have hbounds : 0x80 ≤ (start b.toNat).1.low ∧ (start b.toNat).1.high ≤ 0xBF := by
    unfold start
    grind [idle]
  refine ⟨hbounds.1, hbounds.2, fun h => ⟨bytes, b, [], rfl, rfl, ?_⟩⟩
  simpa using start_announced h

theorem Follows.step (h : d.Follows bytes) (b : UInt8) : (d.step b).1.Follows (bytes ++ [b]) := by
  unfold Decoder.step
  cases hmissing : d.missing with
  | zero => exact follows_start bytes b
  | succ missing =>
    dsimp only
    split
    case isTrue hexpected =>
      split
      · exact follows_idle _
      · obtain ⟨before, lead, more, rfl, hmore, hlength⟩ := h.under_way (by omega)
        have hb : isContinuation b := by
          simp only [Bool.and_eq_true, decide_eq_true_eq] at hexpected
          exact isContinuation_iff.mpr
            ⟨Nat.le_trans h.low_le hexpected.1, Nat.le_trans hexpected.2 h.high_le⟩
        refine ⟨Nat.le_refl _, Nat.le_refl _, fun _ => ⟨before, lead, more ++ [b], by simp, ?_, ?_⟩⟩
        · simp [hmore, hb]
        · simp only [List.length_append, List.length_singleton]
          omega
    case isFalse => exact follows_start bytes b

theorem Follows.run (h : d.Follows bytes) (more : Bytes) :
    (d.run more).1.Follows (bytes ++ more) := by
  induction more generalizing d bytes with
  | nil => simpa [Decoder.run] using h
  | cons b more ih =>
    rw [List.append_cons]
    exact ih (h.step b)

/-- A byte that no sequence goes on with ends the character under way, and is read afresh. -/
theorem Follows.rest_of_break (h : d.Follows bytes) (hb : isContinuation b = false) (more : Bytes) :
    d.rest (b :: more) = d.finish ++ idle.rest (b :: more) := by
  cases hmissing : d.missing with
  | zero => simp [rest_of_idle hmissing, finish, hmissing]
  | succ missing =>
    have hout : ¬ (d.low ≤ b.toNat ∧ b.toNat ≤ d.high) := by
      rintro ⟨hlow, hhigh⟩
      have hcontinuation := isContinuation_iff.mpr
        ⟨Nat.le_trans h.low_le hlow, Nat.le_trans hhigh h.high_le⟩
      exact Bool.false_ne_true (hb.symm.trans hcontinuation)
    have hstep : d.step b = ((start b.toNat).1, replacement :: (start b.toNat).2) := by
      simp [Decoder.step, hmissing, hout]
    have hidle : idle.step b = start b.toNat := rfl
    simp [rest_cons, hstep, hidle, finish, hmissing]

end Decoder

theorem decodeChars_eq (bytes : Bytes) : decodeChars bytes = Decoder.idle.rest bytes := rfl

/-- Bytes are decoded apart from those before them if they begin a character. -/
theorem decodeChars_append_break {b : UInt8} (hb : isContinuation b = false) (xs ys : Bytes) :
    decodeChars (xs ++ b :: ys) = decodeChars xs ++ decodeChars (b :: ys) := by
  have hfollows := (Decoder.follows_idle []).run xs
  simp only [decodeChars_eq]
  rw [Decoder.rest_append, hfollows.rest_of_break hb, ← List.append_assoc]
  rfl

/-- So are they if nothing before them is under way. -/
theorem decodeChars_append_idle {xs : Bytes} (h : (Decoder.idle.run xs).1.missing = 0) (ys : Bytes) :
    decodeChars (xs ++ ys) = decodeChars xs ++ decodeChars ys := by
  have hwhole : Decoder.idle.rest xs = (Decoder.idle.run xs).2 := by
    simp [Decoder.rest, Decoder.finish, h]
  simp only [decodeChars_eq]
  rw [Decoder.rest_append, Decoder.rest_of_idle h, hwhole]


-- ---------------------------------------------------------------------------
-- Unfinished ends
-- ---------------------------------------------------------------------------

/-- The beginning of a sequence that lacks bytes, judged by what its first byte announces. -/
inductive Unfinished : Bytes → Prop
  | intro (lead : UInt8) {more : Bytes} (hmore : more.all isContinuation)
      (hlength : more.length + 1 < announcedLength lead) : Unfinished (lead :: more)

theorem not_continuation_of_lt {lead : UInt8} {length : Nat} (h : length < announcedLength lead) :
    isContinuation lead = false := by
  cases hlead : isContinuation lead with
  | false => rfl
  | true =>
    rw [announcedLength_of_continuation hlead] at h
    cases h

/-- Bytes are all continuation bytes, or some byte is the last that is not. -/
theorem exists_last_lead (bytes : Bytes) :
    bytes.all isContinuation ∨ ∃ before lead more, bytes = before ++ lead :: more ∧
      isContinuation lead = false ∧ more.all isContinuation := by
  induction bytes with
  | nil => exact .inl rfl
  | cons b rest ih =>
    rcases ih with hall | ⟨before, lead, more, rfl, hlead, hmore⟩
    · cases hb : isContinuation b with
      | true => exact .inl (by simp [hb, hall])
      | false => exact .inr ⟨[], b, rest, rfl, hb, hall⟩
    · exact .inr ⟨b :: before, lead, more, rfl, hlead, hmore⟩

theorem unfinishedLength_of_all {bytes : Bytes} (h : bytes.all isContinuation) (count : Nat) :
    unfinishedLength count bytes = 0 := by
  induction bytes generalizing count with
  | nil => rfl
  | cons b rest ih =>
    simp only [List.all_cons, Bool.and_eq_true] at h
    rw [unfinishedLength, if_pos h.1]
    split
    · rfl
    · exact ih h.2 (count + 1)

/-- Up to three continuation bytes are passed on the way back to the last byte that is none. -/
theorem unfinishedLength_append {more : Bytes} (hmore : more.all isContinuation) {count : Nat}
    (hcount : count ≤ 3) (before : Bytes) :
    unfinishedLength count (more ++ before)
      = if count + more.length ≤ 3 then unfinishedLength (count + more.length) before else 0 := by
  induction more generalizing count with
  | nil => simp [hcount]
  | cons b more ih =>
    simp only [List.all_cons, Bool.and_eq_true] at hmore
    rw [List.cons_append, unfinishedLength, if_pos hmore.1, List.length_cons]
    split
    · rw [if_neg (by omega)]
    · rw [ih hmore.2 (by omega), Nat.add_right_comm, Nat.add_assoc]

theorem unfinishedLength_lead {lead : UInt8} (hlead : isContinuation lead = false) {more : Bytes}
    (hmore : more.all isContinuation) (before : Bytes) :
    unfinishedLength 0 (before ++ lead :: more).reverse
      = if more.length + 1 < announcedLength lead then more.length + 1 else 0 := by
  have hle := announcedLength_le lead
  have hmore' : more.reverse.all isContinuation := by simpa using hmore
  have hpassed := unfinishedLength_append hmore' (Nat.zero_le 3) (lead :: before.reverse)
  rw [List.length_reverse, Nat.zero_add] at hpassed
  rw [List.reverse_append, List.reverse_cons, List.append_assoc, List.singleton_append, hpassed,
    unfinishedLength, hlead]
  split
  · rfl
  · rw [if_neg (by omega)]

/-- The bytes in two parts: the second is what does not complete a sequence at the end. -/
structure Parts (bytes ready held : Bytes) : Prop where
  append_eq : bytes = ready ++ held
  held_eq : Unfinished held ∨
    held = [] ∧ ∀ before after, bytes = before ++ after → ¬ Unfinished after

theorem Unfinished.split {held : Bytes} (h : Unfinished held) (ready : Bytes) :
    splitUnfinished (ready ++ held) = (ready, held) := by
  obtain ⟨lead, hmore, hlength⟩ := h
  have hcount := unfinishedLength_lead (not_continuation_of_lt hlength) hmore ready
  rw [if_pos hlength] at hcount
  rw [splitUnfinished, hcount]
  simp

theorem Parts.split {bytes ready held : Bytes} (h : Parts bytes ready held) :
    splitUnfinished bytes = (ready, held) := by
  obtain ⟨rfl, hheld | ⟨rfl, hnone⟩⟩ := h
  · exact hheld.split ready
  · rw [List.append_nil] at hnone ⊢
    have hcount : unfinishedLength 0 ready.reverse = 0 := by
      rcases exists_last_lead ready with hall | ⟨before, lead, more, rfl, hlead, hmore⟩
      · exact unfinishedLength_of_all (by simpa using hall) 0
      · rw [unfinishedLength_lead hlead hmore before, if_neg]
        exact fun hlength => hnone before _ rfl (.intro lead hmore hlength)
    rw [splitUnfinished, hcount]
    simp

theorem parts_split (bytes : Bytes) :
    Parts bytes (splitUnfinished bytes).1 (splitUnfinished bytes).2 := by
  by_cases hend : ∃ before after, bytes = before ++ after ∧ Unfinished after
  · obtain ⟨before, after, rfl, hafter⟩ := hend
    rw [hafter.split before]
    exact ⟨rfl, .inl hafter⟩
  · have hparts : Parts bytes bytes [] := by
      refine ⟨(List.append_nil _).symm, .inr ⟨rfl, fun before after hbytes hafter => ?_⟩⟩
      exact hend ⟨before, after, hbytes, hafter⟩
    rw [hparts.split]
    exact hparts

/-- No sequence that is unfinished at the end begins before bytes that had to wait, or before the end
of bytes of which none had to. -/
theorem Parts.not_unfinished {xs ready held : Bytes} (h : Parts xs ready held) {ys : Bytes}
    (hnone : ∀ before after, held ++ ys = before ++ after → ¬ Unfinished after)
    {before after : Bytes} (hbytes : xs ++ ys = before ++ after) : ¬ Unfinished after := by
  intro hafter
  have hall : ready ++ (held ++ ys) = before ++ after := by
    rw [← List.append_assoc, ← h.append_eq]
    exact hbytes
  rcases List.append_eq_append_iff.mp hall with ⟨left, rfl, hleft⟩ | ⟨left, rfl, rfl⟩
  · exact hnone left after hleft hafter
  · cases left with
    | nil => exact hnone [] _ rfl hafter
    | cons lead left =>
      obtain ⟨hmore, hlength⟩ : (left ++ (held ++ ys)).all isContinuation ∧
          (left ++ (held ++ ys)).length + 1 < announcedLength lead := by
        cases hafter with
        | intro _ hmore hlength => exact ⟨hmore, hlength⟩
      simp only [List.all_append, Bool.and_eq_true] at hmore
      rcases h.held_eq with hheld | ⟨rfl, hend⟩
      · cases hheld with
        | intro lead' _ hlength' =>
          have hlead := not_continuation_of_lt hlength'
          simp [hlead] at hmore
      · refine hend before (lead :: left) (by simpa using h.append_eq) (.intro lead hmore.1 ?_)
        simp only [List.length_append] at hlength
        omega

/-- What has to wait may be put in front of the bytes that come next. -/
theorem splitUnfinished_append (xs ys : Bytes) :
    splitUnfinished (xs ++ ys) =
      ((splitUnfinished xs).1 ++ (splitUnfinished ((splitUnfinished xs).2 ++ ys)).1,
        (splitUnfinished ((splitUnfinished xs).2 ++ ys)).2) := by
  have hxs := parts_split xs
  have hnext := parts_split ((splitUnfinished xs).2 ++ ys)
  refine Parts.split ⟨?_, hnext.held_eq.imp_right fun ⟨hnil, hnone⟩ => ⟨hnil, ?_⟩⟩
  · rw [List.append_assoc, ← hnext.append_eq, ← List.append_assoc, ← hxs.append_eq]
  · exact fun before after hbytes => hxs.not_unfinished hnone hbytes

theorem splitUnfinished_held (bytes : Bytes) :
    (splitUnfinished (splitUnfinished bytes).2).1 = [] := by
  have hparts := congrArg Prod.fst (splitUnfinished_append bytes [])
  simpa using hparts

/-- Where nothing has to wait, no character is under way. -/
theorem Parts.missing_eq {bytes : Bytes} (h : Parts bytes bytes []) :
    (Decoder.idle.run bytes).1.missing = 0 := by
  have hnone : ∀ before after, bytes = before ++ after → ¬ Unfinished after := by
    rcases h.held_eq with hheld | ⟨-, hnone⟩
    · cases hheld
    · exact hnone
  have hfollows := (Decoder.follows_idle []).run bytes
  rw [List.nil_append] at hfollows
  cases hmissing : (Decoder.idle.run bytes).1.missing with
  | zero => rfl
  | succ missing =>
    obtain ⟨before, lead, more, hbytes, hmore, hlength⟩ := hfollows.under_way (by omega)
    exact absurd (.intro lead hmore (by omega)) (hnone before _ hbytes)

/-- Text that is decoded as its bytes arrive, those excepted that have to wait, is the text of all of
them. -/
theorem decodeChars_settled_append (xs ys : Bytes) :
    decodeChars (splitUnfinished (xs ++ ys)).1 =
      decodeChars (splitUnfinished xs).1 ++
        decodeChars (splitUnfinished ((splitUnfinished xs).2 ++ ys)).1 := by
  rw [splitUnfinished_append]
  have hxs := parts_split xs
  have hnext := parts_split ((splitUnfinished xs).2 ++ ys)
  generalize splitUnfinished xs = part at hxs hnext ⊢
  obtain ⟨ready, held⟩ := part
  rcases hxs.held_eq with hheld | ⟨rfl, hnone⟩
  · cases hheld with
    | intro lead hmore hlength =>
      -- What is decoded next is nothing, or begins with the byte that had to wait.
      cases hready : (splitUnfinished (lead :: _ ++ ys)).1 with
      | nil =>
        rw [List.append_nil]
        exact (List.append_nil _).symm
      | cons b more =>
        have hfirst := hnext.append_eq
        rw [hready] at hfirst
        obtain rfl : lead = b := (List.cons.inj hfirst).1
        exact decodeChars_append_break (not_continuation_of_lt hlength) ready _
  · refine decodeChars_append_idle (Parts.missing_eq ⟨(List.append_nil _).symm, .inr ⟨rfl, ?_⟩⟩) _
    rw [hxs.append_eq, List.append_nil] at hnone
    exact hnone

end FileSearch.Text
