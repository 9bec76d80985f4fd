import FileSearch.Proofs.Literal
import FileSearch.Proofs.Regex.Bytewise

/-!
# Spans of matches

What a matcher finds is a span of bytes, and the view of those bytes is the string that the program
of the pattern matches there. A pattern with `\C` can match a part of a character. Then the span is
that of the characters the match touches, and if the match begins inside a character it is one byte
late, and can end behind the haystack (`Matcher.search_spans`).
-/

namespace FileSearch

open Regex

namespace Matcher


-- ---------------------------------------------------------------------------
-- Strings matched in a view
-- ---------------------------------------------------------------------------

/-- The program of an expression matches a string at an index of the view of a haystack. With `\C`
the view is matched as it is encoded. -/
def MatchesView (e : Expr) (p : Program) (haystack : Bytes) (index : Nat) (found : List Char) :
    Prop :=
  if e.mentionsAnyByte then
    p.encoded.MatchesAt (encodedView haystack) (encodedView (haystack.take index)).length
      (utf8 (String.ofList found))
  else ∃ taken, p.MatchesAt haystack index taken ∧ byteView taken = found

/-- A span of the bytes of a haystack, the view of which the program matches at its start. -/
structure ExactSpan (e : Expr) (p : Program) (haystack : Bytes) (s : Span) : Prop where
  within : s.Within haystack
  split : haystack.take s.start ++ s.text haystack ++ haystack.drop s.stop = haystack
  matched : MatchesView e p haystack s.start (byteView (s.text haystack))

/-- A span that stands for a match `t` of encoded bytes which begins or ends inside a character. -/
structure SplitSpan (p : Program) (haystack : Bytes) (t s : Span) : Prop where
  found : p.encoded.Found (encodedView haystack) t
  splits : ¬ (IsBorder (encodedView haystack) t.start ∧ IsBorder (encodedView haystack) t.stop)
  start_eq : s.start = begun ((encodedView haystack).take t.start)
  stop_eq : s.stop = begun ((encodedView haystack).take t.stop)
    + if IsBorder (encodedView haystack) t.start then 0 else 1
  within_iff : s.Within haystack ↔ IsBorder (encodedView haystack) t.start ∨
    begun ((encodedView haystack).take t.stop) < haystack.length

variable {e : Expr} {p : Program} {haystack : Bytes} {s t : Span}

theorem split_of_within (h : s.Within haystack) :
    haystack.take s.start ++ s.text haystack ++ haystack.drop s.stop = haystack := by
  rw [h.take_append_text, List.take_append_drop]

/-- Without `\C` the program is run on the bytes themselves. -/
theorem exactSpan_of_leftmost (he : e.mentionsAnyByte = false)
    (h : p.Leftmost haystack 0 (some s)) : ExactSpan e p haystack s := by
  obtain ⟨-, hwithin, hmatched⟩ := h.matched s rfl
  refine ⟨hwithin, split_of_within hwithin, ?_⟩
  rw [MatchesView, he, if_neg Bool.false_ne_true]
  exact ⟨s.text haystack, hmatched, rfl⟩

theorem exactSpan_of_found (he : e.mentionsAnyByte)
    (h : p.encoded.Found (encodedView haystack) t)
    (hborders : IsBorder (encodedView haystack) t.start ∧ IsBorder (encodedView haystack) t.stop) :
    ExactSpan e p haystack (t.inCharacters (encodedView haystack)) := by
  obtain ⟨hwithin, htake, htext⟩ := Span.exact_inCharacters h.within hborders.1 hborders.2
  refine ⟨hwithin, split_of_within hwithin, ?_⟩
  have hlength : ((encodedView haystack).take t.start).length = t.start :=
    List.length_take_of_le (h.within.start_le.trans h.within.stop_le)
  have hmatched := h.matched
  rw [← htext] at hmatched
  rw [MatchesView, if_pos he, htake, hlength]
  exact hmatched

theorem splitSpan_of_found (h : p.encoded.Found (encodedView haystack) t)
    (hsplits : ¬ (IsBorder (encodedView haystack) t.start ∧
      IsBorder (encodedView haystack) t.stop)) :
    SplitSpan p haystack t (t.inCharacters (encodedView haystack)) := by
  have hbounds := begun_take_mono (encodedView haystack) h.within.start_le
  have hlast := begun_take_le haystack t.stop
  rw [Span.inCharacters_eq h.within h.border_of_empty]
  refine ⟨h, hsplits, rfl, rfl, ?_⟩
  constructor
  · intro hwithin
    by_cases hborder : IsBorder (encodedView haystack) t.start
    · exact .inl hborder
    · have hstop := hwithin.stop_le
      simp only [if_neg hborder] at hstop
      exact .inr hstop
  · intro hin
    refine ⟨hbounds.trans (Nat.le_add_right ..), ?_⟩
    split_ifs with hborder
    · exact hlast
    · exact hin.resolve_left hborder


-- ---------------------------------------------------------------------------
-- What a matcher finds
-- ---------------------------------------------------------------------------

/-- A matcher searches with the program of its pattern. -/
theorem exists_program {pattern : String} {o : MatchOptions} {m : Matcher}
    (hm : compile pattern o = .ok m) :
    ∃ e p, exprOf pattern o = .ok e ∧ e.compile = .ok p ∧
      m = ofSearch pattern o.flags
        (if e.mentionsAnyByte then p.encoded.searchBytewise else (p.search · 0)) := by
  rw [compile, searcher] at hm
  cases he : exprOf pattern o with
  | error _ =>
    rw [he] at hm
    cases hm
  | ok e =>
    cases hp : e.compile with
    | error _ =>
      simp only [he, Except.bind, Expr.searcher, hp] at hm
      cases hm
    | ok p =>
      simp only [he, Except.bind, Expr.searcher, hp] at hm
      cases hm
      exact ⟨e, p, rfl, hp, rfl⟩

/-- What begins at a character is found, or something that begins no later. -/
theorem first_of_matchesView {index : Nat} {found : List Char} (hindex : index ≤ haystack.length)
    (h : MatchesView e p haystack index found) :
    ∃ s, (if e.mentionsAnyByte then p.encoded.searchBytewise else (p.search · 0)) haystack
      = some s ∧ s.start ≤ index := by
  unfold MatchesView at h
  split_ifs at h ⊢ with hany
  · have hfirst := @Program.searchBytewise_first p.encoded (haystack.take index)
      (haystack.drop index) (utf8 (String.ofList found))
    rw [List.take_append_drop, List.length_take_of_le hindex] at hfirst
    exact hfirst h
  · obtain ⟨taken, hmatch, -⟩ := h
    have hleftmost := p.search_leftmost haystack (Nat.zero_le _)
    exact hleftmost.first index taken (Nat.zero_le _) hindex hmatch

/-- A matcher says whether the search finds something, and what it finds is no later than any match
that begins at a byte. It is a span of bytes, the view of which the program matches there, unless
the pattern has `\C` and the match splits a character. -/
theorem search_spans {pattern : String} {o : MatchOptions} {m : Matcher}
    (hm : compile pattern o = .ok m) :
    ∃ e p, exprOf pattern o = .ok e ∧ e.compile = .ok p ∧ ∀ haystack,
      (m.test haystack ↔ m.search haystack ≠ none) ∧
      (∀ index ≤ haystack.length, ∀ found, MatchesView e p haystack index found →
        ∃ s, m.search haystack = some s ∧ s.start ≤ index) ∧
      ∀ s, m.search haystack = some s →
        ExactSpan e p haystack s ∨
          e.mentionsAnyByte ∧ ∃ t, SplitSpan p haystack t s := by
  obtain ⟨e, p, he, hp, rfl⟩ := exists_program hm
  refine ⟨e, p, he, hp, fun haystack => ⟨?_, ?_, ?_⟩⟩
  · exact Option.isSome_iff_ne_none
  · intro index hindex found hfound
    exact first_of_matchesView hindex hfound
  · intro s hs
    cases hany : e.mentionsAnyByte with
    | false =>
      simp only [ofSearch, hany] at hs
      have hleftmost := p.search_leftmost haystack (Nat.zero_le _)
      rw [show p.search haystack 0 = some s from hs] at hleftmost
      exact .inl (exactSpan_of_leftmost hany hleftmost)
    | true =>
      simp only [ofSearch, hany, if_true] at hs
      obtain ⟨t, hfound, rfl⟩ := Program.searchBytewise_found hs
      by_cases hborders : IsBorder (encodedView haystack) t.start ∧
          IsBorder (encodedView haystack) t.stop
      · exact .inl (exactSpan_of_found hany hfound hborders)
      · exact .inr ⟨rfl, t, splitSpan_of_found hfound hborders⟩

theorem search_spans_two_bytes :
    ∃ m, compile "é" {} = .ok m ∧ m.test [0xFF, 0xC3, 0xA9] ∧
      m.search [0xFF, 0xC3, 0xA9] = some ⟨1, 3⟩ ∧
      ∃ e p, exprOf "é" {} = .ok e ∧ e.compile = .ok p ∧
        ExactSpan e p [0xFF, 0xC3, 0xA9] ⟨1, 3⟩ := by
  have hcompiled := (compile_literal (show "é" ≠ "" by decide) (by decide) {}).trans
    (if_neg (by decide +kernel))
  have hsearch : literalSearch false (utf8 "é") [0xFF, 0xC3, 0xA9] = some ⟨1, 3⟩ := by
    refine (literalSearch_finds false (utf8 "é") [0xFF, 0xC3, 0xA9]).eq_some_of_least
      ⟨by decide +kernel, fun offset hoffset => Nat.one_le_iff_ne_zero.mpr ?_⟩
    rintro rfl
    exact absurd hoffset (by decide +kernel)
  obtain ⟨e, p, he, hp, hspans⟩ := search_spans hcompiled
  obtain ⟨htest, -, hfound⟩ := hspans [0xFF, 0xC3, 0xA9]
  have hexpr : e = literalExpr false "é" := by
    have heq : exprOf "é" {} = .ok (literalExpr false "é") := rfl
    rw [he] at heq
    cases heq
    rfl
  have hany : e.mentionsAnyByte = false := by
    rw [hexpr]
    decide +kernel
  refine ⟨_, hcompiled, htest.mpr ?_, hsearch, e, p, he, hp, ?_⟩
  · exact fun hnone => Option.some_ne_none _ (hsearch.symm.trans hnone)
  · exact (hfound _ hsearch).resolve_right fun hsplit => by simp [hany] at hsplit


-- ---------------------------------------------------------------------------
-- A match inside a character
-- ---------------------------------------------------------------------------

/-- The code of `\C\z`. -/
def lastByteCode : Code := ⟨#[.accept, .require .textEnd 0, .takeByte 1], 2⟩

theorem forkFree_lastByteCode : lastByteCode.ForkFree := by
  intro i first second
  rcases i with _ | _ | _ | i <;> simp [lastByteCode]

theorem block_lastByteCode : lastByteCode.program.block 0 = [.accept] ∧
    lastByteCode.program.block 1 = [.require .textEnd 0] ∧
    lastByteCode.program.block 2 = [.takeByte 1] := by
  refine ⟨?_, ?_, ?_⟩
  · exact Code.program_block forkFree_lastByteCode
      (Code.mem_firstStarts (.inr ⟨1, _, rfl, rfl⟩))
  · exact Code.program_block forkFree_lastByteCode
      (Code.mem_firstStarts (.inr ⟨2, _, rfl, rfl⟩))
  · exact Code.program_block forkFree_lastByteCode (Code.mem_firstStarts (.inl rfl))

theorem encoded_lastByteCode : lastByteCode.program.encoded = lastByteCode.program := by
  obtain ⟨h0, h1, h2⟩ := block_lastByteCode
  refine Program.encoded_of_no_set fun i set next => ?_
  rcases i with _ | _ | _ | i
  · simp [h0]
  · simp [h1]
  · simp [h2]
  · rw [Program.block_of_size_le (by simp [Code.program, lastByteCode])]
    exact List.not_mem_nil

/-- The last byte is the only match. -/
theorem matchesAt_lastByteCode {haystack : Bytes} {index : Nat} {taken : Bytes} :
    lastByteCode.program.MatchesAt haystack index taken ↔
      index + 1 = haystack.length ∧ taken = haystack.drop index := by
  obtain ⟨hlast, hend, hfirst⟩ := block_lastByteCode
  have hsteps : lastByteCode.program.MatchesAt haystack index taken ↔
      ∃ b, haystack[index]? = some b ∧ taken = [b] ∧ haystack[index + 1]? = none := by
    rw [Program.MatchesAt, show lastByteCode.program.entry = 2 from rfl]
    simp [Program.run_goto_iff, hfirst, hend, hlast, Program.run_takeByte_iff,
      Program.run_require_iff, Program.run_accept_iff, Assertion.holds, placeAt]
  rw [hsteps]
  constructor
  · rintro ⟨b, hb, rfl, hnone⟩
    obtain ⟨hlt, rfl⟩ := List.getElem?_eq_some_iff.mp hb
    have hge := List.getElem?_eq_none_iff.mp hnone
    refine ⟨by omega, ?_⟩
    rw [List.drop_eq_getElem_cons hlt, List.drop_eq_nil_of_le hge]
  · rintro ⟨hlength, rfl⟩
    have hlt : index < haystack.length := by omega
    refine ⟨haystack[index], List.getElem?_eq_getElem hlt, ?_,
      List.getElem?_eq_none_iff.mpr hlength.ge⟩
    rw [List.drop_eq_getElem_cons hlt, List.drop_eq_nil_of_le hlength.ge]

theorem search_lastByteCode {haystack : Bytes} (hne : haystack ≠ []) :
    lastByteCode.program.search haystack 0 = some ⟨haystack.length - 1, haystack.length⟩ := by
  have hpos := List.length_pos_iff.mpr hne
  have hleftmost := lastByteCode.program.search_leftmost haystack (Nat.zero_le _)
  obtain ⟨s, hs, -⟩ := hleftmost.first (haystack.length - 1) _ (Nat.zero_le _) (by omega)
    (matchesAt_lastByteCode.mpr ⟨by omega, rfl⟩)
  obtain ⟨-, hwithin, hmatched⟩ := hleftmost.matched s hs
  obtain ⟨hstart, htext⟩ := matchesAt_lastByteCode.mp hmatched
  have hlength := congrArg List.length htext
  rw [Span.text, List.length_take, List.length_drop] at hlength
  have hstop := hwithin.stop_le
  rw [hs, Option.some.injEq]
  obtain ⟨start, stop⟩ := s
  simp only at *
  congr 1 <;> omega

/-- The second of the two bytes that encode the only character is found one character late. -/
theorem search_last_byte_behind_end :
    ∃ m, compile "\\C\\z" {} = .ok m ∧ m.search [0xE9] = some ⟨1, 2⟩ ∧
      ¬ (⟨1, 2⟩ : Span).Within [0xE9] := by
  refine ⟨_, rfl, ?_, fun hwithin => absurd hwithin.stop_le (by decide)⟩
  change lastByteCode.program.encoded.searchEncoded [0xC3, 0xA9] 3 0 = some ⟨1, 2⟩
  rw [encoded_lastByteCode, Program.searchEncoded, search_lastByteCode (by decide)]
  rfl

end Matcher

end FileSearch
