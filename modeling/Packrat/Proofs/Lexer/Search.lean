import Mathlib.Data.String.Basic
import Packrat.Lexer.Definition

/-!
# Searching a text for a match

The positions of a text follow one another (`Cursor.Leads`): each is one character further than the
one before it, none is passed over, and all see the same whole text (`Cursor.Leads.text_eq`).
`Definition.find` is a search along them. What it finds is the match at the first position where its
matcher matches (`Definition.find_eq_some_iff`), and it finds nothing only if the matcher matches at
none (`Definition.find_eq_none_iff`). So a search from a later position finds the same, as long as
that position is not beyond the match (`Definition.find_of_leads`).

A match ends at a position (`Matcher.ends`), so a scan that goes on after it stays on positions of
the text (`Definition.leads_resume`). That is all that is known of a matcher.
-/

namespace Packrat

open String (utf8Len)

/-! ## Positions -/

namespace Cursor

variable {c d e : Cursor}

/-- Positions that follow one another make a way. -/
theorem Leads.trans (h : c.Leads d) (h' : d.Leads e) : c.Leads e := by
  induction h with
  | refl c => exact h'
  | step _ ih => exact .step (ih h')

/-- The next position follows. -/
theorem leads_next (c : Cursor) : c.Leads c.next := by
  obtain ⟨offset, passed, rest⟩ := c
  cases rest with
  | nil => exact .refl _
  | cons ch rest => exact .step (.refl _)

/-- What lies between two positions. -/
theorem Leads.passed (h : c.Leads d) :
    ∃ passed, c.rest = passed ++ d.rest ∧ d.offset = c.offset + utf8Len passed := by
  induction h with
  | refl c => exact ⟨[], rfl, rfl⟩
  | @step offset _ ch rest d _ ih =>
    obtain ⟨passed, hrest, hoffset⟩ := ih
    dsimp only at hrest hoffset ⊢
    refine ⟨ch :: passed, by rw [hrest, List.cons_append], ?_⟩
    rw [hoffset, String.utf8Len_cons]
    omega

/-- There is a position after any part of the text. -/
theorem exists_leads {passed others : List Char} {c : Cursor} (h : c.rest = passed ++ others) :
    ∃ d, c.Leads d ∧ d.rest = others ∧ d.offset = c.offset + utf8Len passed := by
  induction passed generalizing c with
  | nil => exact ⟨c, .refl c, h, rfl⟩
  | cons ch passed ih =>
    obtain ⟨offset, before, rest⟩ := c
    cases h
    obtain ⟨d, hd, hrest, hoffset⟩ := ih (c := ⟨offset + ch.utf8Size, ch :: before, _⟩) rfl
    refine ⟨d, .step hd, hrest, ?_⟩
    rw [hoffset, String.utf8Len_cons]
    dsimp only
    omega

/-- All positions of a text see the whole of it. -/
theorem Leads.text_eq (h : c.Leads d) : d.text = c.text := by
  induction h with
  | refl c => rfl
  | step _ ih => simpa [text] using ih

/-- Later positions have larger offsets. -/
theorem Leads.offset_le (h : c.Leads d) : c.offset ≤ d.offset := by
  obtain ⟨passed, -, hoffset⟩ := h.passed
  omega

/-- Later positions have no more text before them. -/
theorem Leads.length_le (h : c.Leads d) : d.rest.length ≤ c.rest.length := by
  obtain ⟨passed, hrest, -⟩ := h.passed
  rw [hrest, List.length_append]
  omega

/-- A position with a larger offset has less text before it. -/
theorem Leads.length_lt (h : c.Leads d) (hlt : c.offset < d.offset) :
    d.rest.length < c.rest.length := by
  obtain ⟨passed, hrest, hoffset⟩ := h.passed
  cases passed with
  | nil =>
    rw [String.utf8Len_nil] at hoffset
    omega
  | cons ch passed =>
    rw [hrest, List.cons_append, List.length_cons, List.length_append]
    omega

/-- The offset tells the positions of a text apart. -/
theorem Leads.eq_of_offset_le (h : c.Leads d) (hle : d.offset ≤ c.offset) : d = c := by
  cases h with
  | refl c => rfl
  | @step offset _ ch rest d h =>
    have hstep := h.offset_le
    have hpos := ch.utf8Size_pos
    dsimp only at hstep hle
    omega

/-- Of two positions of a text, the one with the smaller offset comes first. -/
theorem Leads.leads_of_offset_le (hd : c.Leads d) (he : c.Leads e) (hle : d.offset ≤ e.offset) :
    d.Leads e := by
  induction hd with
  | refl c => exact he
  | @step offset _ ch rest d hd ih =>
    cases he with
    | refl =>
      have hstep := hd.offset_le
      have hpos := ch.utf8Size_pos
      dsimp only at hstep hle
      omega
    | step he => exact ih he hle

/-- The text before the last position is empty. -/
theorem Leads.end_of_nil (h : c.Leads d) (hc : c.rest = []) : d = c := by
  cases h with
  | refl c => rfl
  | step h => cases hc

/-- Going on by the bytes up to a position leads there. -/
theorem Leads.advance_eq (h : c.Leads d) : c.advance (d.offset - c.offset) = d := by
  induction h with
  | refl c =>
    obtain ⟨offset, passed, rest⟩ := c
    rw [Nat.sub_self, advance]
    cases rest <;> rfl
  | @step offset _ ch rest d h ih =>
    have hstep := h.offset_le
    have hpos := ch.utf8Size_pos
    dsimp only [advance] at hstep ih ⊢
    rw [skipBytes, if_neg (by omega), Nat.sub_sub]
    exact ih

end Cursor

/-! ## The first match -/

namespace Matcher

variable {m : Matcher} {length : Nat} {c : Cursor}

/-- The match at the first position, from one on, where there is a match. -/
structure FirstMatch (m : Matcher) (c : Cursor) (hit : Hit) : Prop where
  leads : c.Leads hit.start
  matches_start : m.matchAt hit.start = some hit.length
  none_before : ∀ d, c.Leads d → d.offset < hit.start.offset → m.matchAt d = none

/-- A search from a position finds its match if there is one. -/
theorem FirstMatch.here (h : m.matchAt c = some length) : m.FirstMatch c ⟨c, length⟩ where
  leads := .refl c
  matches_start := h
  none_before _ hd hlt := absurd hd.offset_le (Nat.not_le.2 hlt)

/-- A search from a position without a match finds what is found from the next one. -/
theorem FirstMatch.later {offset : Nat} {passed rest : List Char} {ch : Char} {hit : Hit}
    (hnone : m.matchAt ⟨offset, passed, ch :: rest⟩ = none)
    (h : m.FirstMatch ⟨offset + ch.utf8Size, ch :: passed, rest⟩ hit) :
    m.FirstMatch ⟨offset, passed, ch :: rest⟩ hit where
  leads := .step h.leads
  matches_start := h.matches_start
  none_before d hd hlt := by
    cases hd with
    | refl => exact hnone
    | step hd => exact h.none_before d hd hlt

/-- A search finds the first match, and nothing only if there is no match. -/
theorem searchFrom_spec (m : Matcher) (offset : Nat) (passed rest : List Char) :
    match m.searchFrom offset passed rest with
    | some hit => m.FirstMatch ⟨offset, passed, rest⟩ hit
    | none => ∀ d, Cursor.Leads ⟨offset, passed, rest⟩ d → m.matchAt d = none := by
  induction rest generalizing offset passed with
  | nil =>
    rw [searchFrom]
    cases h : m.matchAt ⟨offset, passed, []⟩ with
    | some length => exact .here h
    | none =>
      intro d hd
      rw [hd.end_of_nil rfl, h]
  | cons ch rest ih =>
    rw [searchFrom]
    cases h : m.matchAt ⟨offset, passed, ch :: rest⟩ with
    | some length => exact .here h
    | none =>
      have hrest := ih (offset + ch.utf8Size) (ch :: passed)
      dsimp only
      split
      · next hit hfind =>
        rw [hfind] at hrest
        exact hrest.later h
      · next hfind =>
        rw [hfind] at hrest
        intro d hd
        cases hd with
        | refl => exact h
        | step hd => exact hrest d hd

/-- There is one first match at most. -/
theorem FirstMatch.unique {hit hit' : Hit} (h : m.FirstMatch c hit) (h' : m.FirstMatch c hit') :
    hit = hit' := by
  have hle : ∀ {hit hit' : Hit}, m.FirstMatch c hit → m.FirstMatch c hit' →
      hit.start.offset ≤ hit'.start.offset := by
    intro hit hit' h h'
    by_contra hlt
    have hnone := h.none_before hit'.start h'.leads (by omega)
    rw [h'.matches_start] at hnone
    cases hnone
  obtain ⟨start, length⟩ := hit
  obtain ⟨start', length'⟩ := hit'
  have hstart : start' = start :=
    (h.leads.leads_of_offset_le h'.leads (hle h h')).eq_of_offset_le (hle h' h)
  subst hstart
  have hlength := h.matches_start.symm.trans h'.matches_start
  cases hlength
  rfl

end Matcher

/-! ## Searching for a definition -/

namespace Definition

variable {K : Type} {d : Definition K} {c c' : Cursor} {hit : Hit}

/-- What a definition finds is the first match, and it finds nothing only if there is no match. -/
theorem find_spec (d : Definition K) (c : Cursor) :
    match d.find c with
    | some hit => d.matcher.FirstMatch c hit
    | none => ∀ c', c.Leads c' → d.matcher.matchAt c' = none :=
  d.matcher.searchFrom_spec c.offset c.passed c.rest

/-- **A definition finds the match at the first position where its matcher matches.** -/
theorem find_eq_some_iff : d.find c = some hit ↔ d.matcher.FirstMatch c hit := by
  have hspec := d.find_spec c
  constructor
  · intro h
    rw [h] at hspec
    exact hspec
  · intro h
    cases hfind : d.find c with
    | some other =>
      rw [hfind] at hspec
      rw [hspec.unique h]
    | none =>
      rw [hfind] at hspec
      have hnone := hspec hit.start h.leads
      rw [h.matches_start] at hnone
      cases hnone

/-- A definition finds nothing only if its matcher matches at no position. -/
theorem find_eq_none_iff :
    d.find c = none ↔ ∀ c', c.Leads c' → d.matcher.matchAt c' = none := by
  have hspec := d.find_spec c
  constructor
  · intro h
    rw [h] at hspec
    exact hspec
  · intro h
    cases hfind : d.find c with
    | none => rfl
    | some other =>
      rw [hfind] at hspec
      have hmatch := hspec.matches_start
      rw [h _ hspec.leads] at hmatch
      cases hmatch

/-- **What has been found stays what would be found**, up to the start of the match. -/
theorem find_of_leads (h : d.find c = some hit) (hc : c.Leads c')
    (hle : c'.offset ≤ hit.start.offset) : d.find c' = some hit := by
  have hfirst := find_eq_some_iff.1 h
  refine find_eq_some_iff.2 ⟨hc.leads_of_offset_le hfirst.leads hle, hfirst.matches_start, ?_⟩
  intro e he hlt
  exact hfirst.none_before e (hc.trans he) hlt

/-- Where nothing has been found, nothing is found later. -/
theorem find_none_of_leads (h : d.find c = none) (hc : c.Leads c') : d.find c' = none :=
  find_eq_none_iff.2 fun e he => find_eq_none_iff.1 h e (hc.trans he)

/-- What is found starts at a position of the text. -/
theorem leads_start (h : d.find c = some hit) : c.Leads hit.start :=
  (find_eq_some_iff.1 h).leads

/-- What is found ends at a position of the text. -/
theorem leads_advance (h : d.find c = some hit) :
    hit.start.Leads (hit.start.advance hit.length) ∧
      (hit.start.advance hit.length).offset = hit.span.stop := by
  obtain ⟨e, he, hoffset⟩ := d.matcher.ends (find_eq_some_iff.1 h).matches_start
  have hadvance := he.advance_eq
  rw [hoffset, Nat.add_sub_cancel_left] at hadvance
  rw [hadvance]
  exact ⟨he, hoffset⟩

/-- A scan goes on at a position of the text. -/
theorem leads_resume (h : d.find c = some hit) : hit.start.Leads hit.resume := by
  unfold Hit.resume
  split
  · exact hit.start.leads_next
  · exact (leads_advance h).1

/-- A scan goes on where a match ends that takes up something. -/
theorem offset_resume (h : d.find c = some hit) (hne : hit.length ≠ 0) :
    hit.resume.offset = hit.span.stop := by
  unfold Hit.resume
  rw [if_neg hne]
  exact (leads_advance h).2

/-- A scan that is not at the end has passed the start of the match, and what it took up. -/
theorem resume_progress (h : d.find c = some hit) (hrest : hit.resume.rest ≠ []) :
    hit.start.offset < hit.resume.offset ∧ hit.span.stop ≤ hit.resume.offset := by
  by_cases hzero : hit.length = 0
  · have hnext : hit.resume = hit.start.next := if_pos hzero
    rw [hnext] at hrest ⊢
    obtain ⟨⟨offset, passed, rest⟩, length⟩ := hit
    cases rest with
    | nil => exact absurd rfl hrest
    | cons ch rest =>
      have hpos := ch.utf8Size_pos
      dsimp only [Cursor.next, Hit.span, Span.stop] at hzero ⊢
      omega
  · rw [offset_resume h hzero]
    refine ⟨?_, Nat.le_refl _⟩
    dsimp only [Hit.span, Span.stop]
    omega

end Definition

end Packrat
