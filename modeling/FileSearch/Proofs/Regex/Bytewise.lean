import FileSearch.Proofs.Regex.Run
import FileSearch.Regex.Bytewise
import Mathlib.Data.List.TakeWhile

/-!
# Places in encoded characters

A match of encoded bytes is given in characters. If it begins and ends between characters, what is
given are the characters that the bytes encode, at their place (`Span.exact_inCharacters`). If it
begins inside a character, all is given one character late (`Span.inCharacters_eq`).
-/

namespace FileSearch.Regex


-- ---------------------------------------------------------------------------
-- Programs without sets
-- ---------------------------------------------------------------------------

/-- A block without sets is the same on encoded characters. -/
theorem encodeBlock_of_no_set {actions : List Action}
    (h : ∀ set next, .take set next ∉ actions) (blocks : Array (List Action)) :
    encodeBlock blocks actions = (blocks, actions) := by
  unfold encodeBlock
  induction actions with
  | nil => rfl
  | cons action rest ih =>
    rw [List.foldr_cons, ih fun set next hmem => h set next (List.mem_cons_of_mem _ hmem)]
    cases action with
    | take set next => exact absurd List.mem_cons_self (h set next)
    | takeByte next => rfl
    | require a next => rfl
    | goto next => rfl
    | accept => rfl

/-- A program without sets is the same on encoded characters. -/
theorem Program.encoded_of_no_set {p : Program} (h : ∀ i set next, .take set next ∉ p.block i) :
    p.encoded = p := by
  unfold encoded
  refine List.foldl_fixed' (fun i => ?_) _
  have hset : p.blocks.setIfInBounds i (p.block i) = p.blocks := by
    refine Array.ext (Array.size_setIfInBounds ..) fun j _ hj => ?_
    rw [Array.getElem_setIfInBounds hj]
    split_ifs with heq
    · subst heq
      simp [block, hj]
    · rfl
  simp only [encodeBlock_of_no_set (h i), hset]


-- ---------------------------------------------------------------------------
-- Encoded bytes
-- ---------------------------------------------------------------------------

/-- The characters of bytes, in UTF-8. -/
def encodedView (bytes : Bytes) : Bytes := utf8 (String.ofList (byteView bytes))

/-- The encoding of the character of a byte. -/
def encodeByte (b : UInt8) : Bytes := String.utf8EncodeChar (Char.ofNat b.toNat)

theorem encodedView_eq_flatMap (bytes : Bytes) : encodedView bytes = bytes.flatMap encodeByte := by
  rw [encodedView, utf8, String.toList_ofList, byteView, List.flatMap_map]
  rfl

@[simp] theorem encodedView_nil : encodedView [] = [] := rfl

@[simp] theorem encodedView_cons (b : UInt8) (bytes : Bytes) :
    encodedView (b :: bytes) = encodeByte b ++ encodedView bytes := by
  simp only [encodedView_eq_flatMap, List.flatMap_cons]

@[simp] theorem encodedView_append (xs ys : Bytes) :
    encodedView (xs ++ ys) = encodedView xs ++ encodedView ys := by
  simp only [encodedView_eq_flatMap, List.flatMap_append]

/-- One byte begins the encoding of a character, and the others go on with it. -/
theorem encodeByte_eq (b : UInt8) :
    ∃ lead more, encodeByte b = lead :: more ∧ isContinuation lead = false ∧
      ∀ c ∈ more, isContinuation c := by
  have hbytes : ∀ n < 0x100, (String.utf8EncodeChar (Char.ofNat n)).head?.any (!isContinuation ·) ∧
      ∀ c ∈ (String.utf8EncodeChar (Char.ofNat n)).tail, isContinuation c := by
    decide +kernel
  obtain ⟨hlead, hmore⟩ := hbytes b.toNat b.toNat_lt
  obtain ⟨lead, hhead, hlead⟩ := (Option.any_eq_true _ _).mp hlead
  exact ⟨lead, _, (List.cons_head?_tail hhead).symm, by simpa using hlead, hmore⟩

/-- How many characters begin in encoded bytes. -/
def begun (encoded : Bytes) : Nat := encoded.countP (!isContinuation ·)

theorem begun_append (xs ys : Bytes) : begun (xs ++ ys) = begun xs + begun ys := List.countP_append

theorem begun_encodeByte (b : UInt8) : begun (encodeByte b) = 1 := by
  obtain ⟨lead, more, heq, hlead, hmore⟩ := encodeByte_eq b
  have hnone : more.countP (!isContinuation ·) = 0 :=
    List.countP_eq_zero.mpr fun c hc => by simp [hmore c hc]
  rw [heq, begun, List.countP_cons_of_pos (by simp [hlead]), hnone]

@[simp] theorem begun_encodedView (bytes : Bytes) : begun (encodedView bytes) = bytes.length := by
  induction bytes with
  | nil => rfl
  | cons b bytes ih =>
    rw [encodedView_cons, begun_append, begun_encodeByte, ih, List.length_cons, Nat.add_comm]

theorem begun_take_mono (encoded : Bytes) {i j : Nat} (h : i ≤ j) :
    begun (encoded.take i) ≤ begun (encoded.take j) :=
  (List.take_prefix_take_left h).sublist.countP_le

theorem begun_take_le (bytes : Bytes) (i : Nat) :
    begun ((encodedView bytes).take i) ≤ bytes.length := by
  rw [← begun_encodedView bytes]
  exact (List.take_prefix i _).sublist.countP_le


-- ---------------------------------------------------------------------------
-- Places between characters
-- ---------------------------------------------------------------------------

/-- No character goes on at an offset of encoded bytes. -/
def IsBorder (encoded : Bytes) (offset : Nat) : Prop := ¬ encoded[offset]?.any isContinuation

instance (encoded : Bytes) (offset : Nat) : Decidable (IsBorder encoded offset) :=
  inferInstanceAs (Decidable (¬ _))

/-- What stands before a border is the encoding of as many characters as have begun. -/
theorem IsBorder.encodedView_take {bytes : Bytes} {offset : Nat}
    (h : IsBorder (encodedView bytes) offset) :
    encodedView (bytes.take (begun ((encodedView bytes).take offset)))
      = (encodedView bytes).take offset := by
  induction bytes generalizing offset with
  | nil => simp
  | cons b bytes ih =>
    obtain ⟨lead, more, heq, hlead, hmore⟩ := encodeByte_eq b
    cases offset with
    | zero => simp [begun]
    | succ i =>
      rcases Nat.lt_or_ge (i + 1) (encodeByte b).length with hlt | hge
      · -- inside the encoding of the first byte there is no border
        refine absurd ?_ h
        have hbound : i < more.length := by simpa [heq] using hlt
        rw [encodedView_cons, List.getElem?_append_left hlt, heq, List.getElem?_cons_succ,
          List.getElem?_eq_getElem hbound]
        exact hmore _ (List.getElem_mem hbound)
      · have hrest : IsBorder (encodedView bytes) (i + 1 - (encodeByte b).length) := by
          rw [IsBorder, encodedView_cons, List.getElem?_append_right hge] at h
          exact h
        rw [encodedView_cons, List.take_append, List.take_of_length_le hge, begun_append,
          begun_encodeByte, Nat.add_comm, List.take_succ_cons, encodedView_cons, ih hrest]

/-- Where the encoding of a byte begins there is a border. -/
theorem isBorder_encodedView (xs ys : Bytes) :
    IsBorder (encodedView (xs ++ ys)) (encodedView xs).length := by
  rw [IsBorder, encodedView_append, List.getElem?_append_right le_rfl, Nat.sub_self]
  cases ys with
  | nil => simp
  | cons b ys =>
    obtain ⟨lead, more, heq, hlead, -⟩ := encodeByte_eq b
    simp [heq, hlead]


-- ---------------------------------------------------------------------------
-- Spans in characters
-- ---------------------------------------------------------------------------

namespace Span

variable {s : Span} {haystack bytes : Bytes}

theorem Within.take_append_text (h : s.Within haystack) :
    haystack.take s.start ++ s.text haystack = haystack.take s.stop := by
  rw [text, ← List.take_add, Nat.add_sub_cancel' h.start_le]

theorem head?_text (h : s.start < s.stop) : (s.text haystack).head? = haystack[s.start]? := by
  rw [text, List.head?_take, if_neg (by omega), List.head?_drop]

theorem countCharacters_take (bytes : Bytes) (offset : Nat) :
    countCharacters ((encodedView bytes).take offset)
      = begun ((encodedView bytes).take offset) := by
  have hhead : ((encodedView bytes).take offset).head?.any isContinuation = false := by
    cases bytes with
    | nil => simp
    | cons b bytes =>
      obtain ⟨lead, more, heq, hlead, -⟩ := encodeByte_eq b
      rw [encodedView_cons, heq]
      cases offset <;> simp [hlead]
  rw [countCharacters, hhead]
  rfl

/-- The characters given for encoded bytes: from the one that begins there, or the next one, on. -/
theorem inCharacters_eq (h : s.Within (encodedView bytes))
    (hempty : s.start = s.stop → IsBorder (encodedView bytes) s.start) :
    s.inCharacters (encodedView bytes) = ⟨begun ((encodedView bytes).take s.start),
      begun ((encodedView bytes).take s.stop)
        + if IsBorder (encodedView bytes) s.start then 0 else 1⟩ := by
  have hhead : ((s.text (encodedView bytes)).head?.any isContinuation) = true
      ↔ ¬ IsBorder (encodedView bytes) s.start := by
    rcases Nat.lt_or_eq_of_le h.start_le with hlt | heq
    · rw [head?_text hlt, IsBorder, not_not]
    · have hborder := hempty heq
      rw [text, ← heq, Nat.sub_self, List.take_zero]
      simp [hborder]
  rw [inCharacters, countCharacters_take, countCharacters, ← h.take_append_text, begun_append]
  simp only [hhead, ite_not]
  rw [← Nat.add_assoc]
  rfl

/-- If encoded bytes begin and end between characters, the characters given are those they encode,
at their place. -/
theorem exact_inCharacters (h : s.Within (encodedView bytes))
    (hstart : IsBorder (encodedView bytes) s.start) (hstop : IsBorder (encodedView bytes) s.stop) :
    (s.inCharacters (encodedView bytes)).Within bytes ∧
      encodedView (bytes.take (s.inCharacters (encodedView bytes)).start)
        = (encodedView bytes).take s.start ∧
      encodedView ((s.inCharacters (encodedView bytes)).text bytes)
        = s.text (encodedView bytes) := by
  rw [inCharacters_eq h fun _ => hstart, if_pos hstart, Nat.add_zero]
  have hwithin : (⟨begun ((encodedView bytes).take s.start),
      begun ((encodedView bytes).take s.stop)⟩ : Span).Within bytes :=
    ⟨begun_take_mono _ h.start_le, begun_take_le bytes s.stop⟩
  refine ⟨hwithin, hstart.encodedView_take, ?_⟩
  have hboth := congrArg encodedView hwithin.take_append_text
  simp only [encodedView_append, hstart.encodedView_take, hstop.encodedView_take] at hboth
  exact List.append_cancel_left (hboth.trans h.take_append_text.symm)

end Span


-- ---------------------------------------------------------------------------
-- Searching
-- ---------------------------------------------------------------------------

namespace Program

/-- A match of a program that counts among encoded characters: an empty one is between them. -/
structure Found (p : Program) (encoded : Bytes) (s : Span) : Prop where
  within : s.Within encoded
  matched : p.MatchesAt encoded s.start (s.text encoded)
  border_of_empty : s.start = s.stop → IsBorder encoded s.start

theorem found_of_leftmost {p : Program} {encoded : Bytes} {offset : Nat} {t : Span}
    (h : p.Leftmost encoded offset (some t))
    (hcounts : ¬ (t.start = t.stop && !((encoded.drop t.start).takeWhile isContinuation).isEmpty)) :
    p.Found encoded t := by
  obtain ⟨-, hwithin, hmatched⟩ := h.matched t rfl
  refine ⟨hwithin, hmatched, fun hempty hinside => hcounts ?_⟩
  rw [← List.head?_drop] at hinside
  obtain ⟨b, hb, hcontinues⟩ := (Option.any_eq_true _ _).mp hinside
  obtain ⟨rest, hrest⟩ := List.head?_eq_some_iff.mp hb
  rw [hrest, List.takeWhile_cons_of_pos hcontinues]
  simp [hempty]

/-- In what goes on with a character there is no border. -/
theorem le_of_isBorder {encoded : Bytes} {start border : Nat} (hborder : IsBorder encoded border)
    (hle : start ≤ border) :
    start + ((encoded.drop start).takeWhile isContinuation).length ≤ border := by
  by_contra hlt
  have hin : border - start < ((encoded.drop start).takeWhile isContinuation).length := by omega
  refine hborder ?_
  rw [← Nat.add_sub_cancel' hle, ← List.getElem?_drop,
    ← List.takeWhile_append_dropWhile (p := isContinuation) (l := encoded.drop start),
    List.getElem?_append_left hin, List.getElem?_eq_getElem hin, Option.any_some]
  exact List.mem_takeWhile_imp (List.getElem_mem hin)

theorem searchEncoded_found {p : Program} {encoded : Bytes} {tries offset : Nat} {s : Span}
    (hoffset : offset ≤ encoded.length) (h : p.searchEncoded encoded tries offset = some s) :
    ∃ t, p.Found encoded t ∧ s = t.inCharacters encoded := by
  induction tries generalizing offset with
  | zero => cases h
  | succ tries ih =>
    have hleftmost := p.search_leftmost encoded hoffset
    rw [searchEncoded] at h
    cases hsearch : p.search encoded offset with
    | none => simp [hsearch] at h
    | some t =>
      rw [hsearch] at h hleftmost
      dsimp only at h
      split at h
      · refine ih ?_ h
        have hwithin := (hleftmost.matched t rfl).2.1
        have hstart := hwithin.start_le.trans hwithin.stop_le
        have hinside := (List.takeWhile_prefix (p := isContinuation)
          (l := encoded.drop t.start)).length_le
        rw [List.length_drop] at hinside
        omega
      · exact ⟨t, found_of_leftmost hleftmost ‹_›, (Option.some.inj h).symm⟩

/-- No match that begins between characters is missed, for the search is at no later place. -/
theorem searchEncoded_first {p : Program} {encoded : Bytes} {tries offset border : Nat}
    {taken : Bytes} (hoffset : offset ≤ border) (hlength : border ≤ encoded.length)
    (hborder : IsBorder encoded border) (hmatch : p.MatchesAt encoded border taken)
    (htries : encoded.length < offset + tries) :
    ∃ t, p.Found encoded t ∧ t.start ≤ border ∧
      p.searchEncoded encoded tries offset = some (t.inCharacters encoded) := by
  -- Each try begins later than the one before, so there are enough of them.
  induction tries generalizing offset with
  | zero => omega
  | succ tries ih =>
    have hleftmost := p.search_leftmost encoded (hoffset.trans hlength)
    obtain ⟨t, ht, hle⟩ := hleftmost.first border taken hoffset hlength hmatch
    rw [ht] at hleftmost
    have hlater := (hleftmost.matched t rfl).1
    have hnext := le_of_isBorder hborder hle
    rw [searchEncoded, ht]
    dsimp only
    split
    · rename_i hinside
      simp only [Bool.and_eq_true, Bool.not_eq_true', List.isEmpty_eq_false_iff] at hinside
      have hpos := List.length_pos_iff.mpr hinside.2
      exact ih hnext (by omega)
    · exact ⟨t, found_of_leftmost hleftmost ‹_›, hle, rfl⟩

/-- What a search of the encoded characters of bytes finds are the characters of a match. -/
theorem searchBytewise_found {p : Program} {haystack : Bytes} {s : Span}
    (h : p.searchBytewise haystack = some s) :
    ∃ t, p.Found (encodedView haystack) t ∧ s = t.inCharacters (encodedView haystack) :=
  searchEncoded_found (Nat.zero_le _) h

/-- A match that begins at a character is found, or another one that begins no later. -/
theorem searchBytewise_first {p : Program} {before after taken : Bytes}
    (h : p.MatchesAt (encodedView (before ++ after)) (encodedView before).length taken) :
    ∃ s, p.searchBytewise (before ++ after) = some s ∧ s.start ≤ before.length := by
  have hborder := isBorder_encodedView before after
  have htake : (encodedView (before ++ after)).take (encodedView before).length
      = encodedView before := by
    rw [encodedView_append, List.take_left]
  have hlength : (encodedView before).length ≤ (encodedView (before ++ after)).length := by
    rw [encodedView_append, List.length_append]
    exact Nat.le_add_right ..
  obtain ⟨t, hfound, hle, hsearch⟩ := searchEncoded_first (Nat.zero_le _) hlength hborder h
    (by omega : (encodedView (before ++ after)).length
      < 0 + ((encodedView (before ++ after)).length + 1))
  refine ⟨_, hsearch, ?_⟩
  have hbegun := begun_take_mono (encodedView (before ++ after)) hle
  rw [htake, begun_encodedView] at hbegun
  rw [Span.inCharacters_eq hfound.within hfound.border_of_empty]
  exact hbegun

end Program

end FileSearch.Regex
