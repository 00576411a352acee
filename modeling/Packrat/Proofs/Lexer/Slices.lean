import Packrat.Lexer.Scan
import Packrat.Proofs.Lexer.Search

/-!
# Pieces of a text

A span between two positions of a text holds the characters between them. They can be read from the
first position on (`Cursor.Leads.lexeme_eq`) or cut out of the whole text (`Cursor.Leads.cut_eq`),
so a token that is made where its match is found is the piece of the text that its span says
(`Cursor.Leads.token_eq_cut`). The offsets of positions are the places between characters
(`Cursor.isValid_iff_exists_leads`).
-/

namespace Packrat

open String (utf8Len)

/-! ## Reading by bytes -/

/-- Reading the bytes of some characters reads these characters. -/
theorem Cursor.takeBytes_append (read : String) (passed rest : List Char) :
    takeBytes read (utf8Len passed) (passed ++ rest) = read ++ String.ofList passed := by
  induction passed generalizing read with
  | nil => cases rest <;> simp [takeBytes]
  | cons ch passed ih =>
    have hpos := ch.utf8Size_pos
    rw [List.cons_append, takeBytes, String.utf8Len_cons, if_neg (by omega), Nat.add_sub_cancel, ih,
      String.ofList_cons, String.push_eq_append, String.append_assoc]

namespace Token

/-- Passing the bytes of some characters passes these characters. -/
theorem slice?_skip (read : String) (take : Nat) (before rest : List Char) :
    slice? read (utf8Len before) take (before ++ rest) = slice? read 0 take rest := by
  induction before with
  | nil => rfl
  | cons ch before ih =>
    have hpos := ch.utf8Size_pos
    obtain ⟨n, hn⟩ : ∃ n, utf8Len (ch :: before) = n + 1 :=
      Nat.exists_eq_succ_of_ne_zero (by rw [String.utf8Len_cons]; omega)
    have hleft : n + 1 - ch.utf8Size = utf8Len before := by
      rw [← hn, String.utf8Len_cons, Nat.add_sub_cancel]
    rw [String.utf8Len_cons] at hn
    rw [String.utf8Len_cons, hn, List.cons_append, slice?, if_pos (by omega), hleft, ih]

/-- Taking the bytes of some characters takes these characters. -/
theorem slice?_take (read : String) (passed rest : List Char) :
    slice? read 0 (utf8Len passed) (passed ++ rest) = some (read ++ String.ofList passed) := by
  induction passed generalizing read with
  | nil =>
    rw [String.utf8Len_nil, slice?]
    simp
  | cons ch passed ih =>
    have hpos := ch.utf8Size_pos
    obtain ⟨n, hn⟩ : ∃ n, utf8Len (ch :: passed) = n + 1 :=
      Nat.exists_eq_succ_of_ne_zero (by rw [String.utf8Len_cons]; omega)
    have hleft : n + 1 - ch.utf8Size = utf8Len passed := by
      rw [← hn, String.utf8Len_cons, Nat.add_sub_cancel]
    rw [String.utf8Len_cons] at hn
    rw [String.utf8Len_cons, hn, List.cons_append, slice?, if_pos (by omega), hleft, ih,
      String.ofList_cons, String.push_eq_append, String.append_assoc]

end Token

/-! ## Between positions -/

namespace Cursor

variable {text : String} {c d : Cursor} {n : Nat}

/-- The span between two positions. -/
def upTo (c d : Cursor) : Span := .between c.offset d.offset

/-- The characters between two positions, read from the first. -/
theorem Leads.lexeme_eq (h : c.Leads d) :
    ∃ passed, c.rest = passed ++ d.rest ∧
      c.lexeme (d.offset - c.offset) = String.ofList passed := by
  obtain ⟨passed, hrest, hoffset⟩ := h.passed
  refine ⟨passed, hrest, ?_⟩
  rw [hoffset, Nat.add_sub_cancel_left, lexeme, hrest, takeBytes_append]
  simp

/-- The characters between two positions, cut out of the text. -/
theorem Leads.cut_eq {K : Type} (tag : K) (hc : (start text).Leads c) (h : c.Leads d) :
    (Token.cut text tag (c.upTo d)).text = c.lexeme (d.offset - c.offset) := by
  obtain ⟨before, htext, hbefore⟩ := hc.passed
  obtain ⟨passed, hrest, hoffset⟩ := h.passed
  have hstart : c.offset = utf8Len before := by rw [hbefore, start, Nat.zero_add]
  have hlength : d.offset - c.offset = utf8Len passed := by omega
  have hslice : Token.slice? "" c.offset (d.offset - c.offset) text.toList =
      some (String.ofList passed) := by
    change text.toList = before ++ c.rest at htext
    rw [htext, hrest, hstart, ← hstart, hlength, hstart, Token.slice?_skip, Token.slice?_take]
    simp
  change (Token.slice? "" c.offset (d.offset - c.offset) text.toList).getD "" = _
  rw [hslice, hlength, lexeme, hrest, takeBytes_append]
  simp

/-- A token that is made where its match is found is the piece of the text that its span says. -/
theorem Leads.token_eq_cut {K : Type} {hit : Hit} (hc : (start text).Leads hit.start)
    (h : hit.start.Leads d) (hd : d.offset = hit.span.stop) (tag : K) :
    hit.token tag = Token.cut text tag hit.span := by
  have hlength : d.offset - hit.start.offset = hit.length := by
    rw [hd, Hit.span, Span.stop, Nat.add_sub_cancel_left]
  have hspan : hit.start.upTo d = hit.span := by
    rw [upTo, Span.between, hlength, Hit.span]
  have htext := hc.cut_eq tag h
  rw [hspan, hlength] at htext
  rw [Hit.token, ← htext]
  rfl

/-- The places between the characters of a text are the offsets of its positions. -/
theorem isValid_iff_exists_leads :
    (String.Pos.Raw.mk n).IsValid text ↔ ∃ c, (start text).Leads c ∧ c.offset = n := by
  rw [String.Pos.Raw.isValid_iff_exists_append]
  constructor
  · rintro ⟨s, s', rfl, hn⟩
    have htext : (start (s ++ s')).rest = s.toList ++ s'.toList := String.toList_append
    obtain ⟨c, hc, -, hoffset⟩ := exists_leads htext
    refine ⟨c, hc, ?_⟩
    rw [hoffset, start, Nat.zero_add, String.utf8Len_toList]
    exact (congrArg String.Pos.Raw.byteIdx hn).symm
  · rintro ⟨c, hc, rfl⟩
    obtain ⟨before, htext, hoffset⟩ := hc.passed
    change text.toList = before ++ c.rest at htext
    refine ⟨String.ofList before, String.ofList c.rest, ?_, ?_⟩
    · rw [← String.ofList_append, ← htext, String.ofList_toList]
    · rw [String.rawEndPos_ofList, hoffset, start, Nat.zero_add]

end Cursor

end Packrat
