import Packrat.Proofs.Lexer.Partition

/-!
# Priority, position by position

A scan compares searches and jumps from match to match; it never asks what matches at a position.
Yet its tokens depend on nothing else. A definition matches at a position or it does not, whatever
the scan has done before, and the first in the list that matches there is the foremost
(`foremost?`). Every token is the match of the foremost definition at its start, and a position that
the scan passes over without a token is one at which no definition matches.

The winner of a step leads what the definitions find from the position of the scan on. So nothing
matches between that position and the winner's match (`Wins.matchAt_eq_none`), and where the match
starts nothing listed before the winner does (`Wins.foremost`). What holds of a whole scan follows
by induction on its steps, since a position beyond a match is one that the scan has yet to come to
(`Definition.resume_leads`). `Scan.Leftmost` collects the law, and `Tokenizer.tokenize_leftmost`
says that every scan obeys it.
-/

namespace Packrat

variable {K : Type}

/-- The foremost definition at a position: of those that match there, the one listed first. -/
def foremost? (definitions : List (Definition K)) (c : Cursor) : Option (Definition K) :=
  definitions.find? fun d => (d.matcher.matchAt c).isSome

/-! ## One step -/

/-- A position that is not the first comes after the next one. -/
theorem Cursor.Leads.next_leads {c q : Cursor} (h : c.Leads q) (hne : c.offset ≠ q.offset) :
    c.next.Leads q := by
  cases h with
  | refl => exact absurd rfl hne
  | step h => exact h

/-- The offset tells apart the positions that follow one. -/
theorem Cursor.Leads.eq_of_offset_eq {c q q' : Cursor} (h : c.Leads q) (h' : c.Leads q')
    (heq : q.offset = q'.offset) : q = q' :=
  (h'.leads_of_offset_le h (Nat.le_of_eq heq.symm)).eq_of_offset_le (Nat.le_of_eq heq)

namespace Definition

variable {d : Definition K} {c q : Cursor} {hit : Hit}

/-- A definition does not match before what it finds. -/
theorem matchAt_eq_none_of_find (h : ∀ hit, d.find c = some hit → q.offset < hit.start.offset)
    (hq : c.Leads q) : d.matcher.matchAt q = none := by
  cases hfind : d.find c with
  | none => exact find_eq_none_iff.1 hfind q hq
  | some hit => exact (find_eq_some_iff.1 hfind).none_before q hq (h hit hfind)

/-- A position from the start of a match on is one that the scan has yet to come to, if the match
does not cover it and is not an empty one that starts there. -/
theorem resume_leads (h : d.find c = some hit) (hq : c.Leads q)
    (hle : hit.start.offset ≤ q.offset) (hcovers : ¬ hit.span.covers q.offset)
    (hempty : hit.span.isEmpty → hit.span.start ≠ q.offset) : hit.resume.Leads q := by
  have hstart : hit.start.Leads q := (leads_start h).leads_of_offset_le hq hle
  by_cases hzero : hit.length = 0
  · have hresume : hit.resume = hit.start.next := if_pos hzero
    rw [hresume]
    exact hstart.next_leads (hempty (by simpa [Span.isEmpty, Hit.span] using hzero))
  · refine (leads_resume h).leads_of_offset_le hstart ?_
    rw [offset_resume h hzero]
    simp only [Span.covers, Bool.and_eq_true, decide_eq_true_eq, not_and, Nat.not_lt] at hcovers
    exact hcovers hle

end Definition

section Wins

variable {definitions : List (Definition K)} {c q : Cursor} {d : Definition K} {hit : Hit}

/-- No definition finds a match that starts before the winner's. -/
theorem Wins.start_le (h : Wins definitions c d hit) :
    ∀ e ∈ definitions, ∀ other, e.find c = some other → hit.start.offset ≤ other.start.offset := by
  obtain ⟨before, after, rfl, hbefore, hafter⟩ := h.leading
  intro e he other hother
  rcases List.mem_append.1 he with he | he
  · exact Nat.le_of_lt (hbefore e he other hother)
  · rcases List.mem_cons.1 he with rfl | he
    · cases h.found.symm.trans hother
      exact Nat.le_refl _
    · exact hafter e he other hother

/-- **Nothing matches between the position of the scan and the winner's match.** -/
theorem Wins.matchAt_eq_none (h : Wins definitions c d hit) (hq : c.Leads q)
    (hlt : q.offset < hit.start.offset) : ∀ e ∈ definitions, e.matcher.matchAt q = none := by
  intro e he
  refine Definition.matchAt_eq_none_of_find (fun other hother => ?_) hq
  exact Nat.lt_of_lt_of_le hlt (h.start_le e he other hother)

/-- **The winner is the foremost definition where its match starts.** -/
theorem Wins.foremost (h : Wins definitions c d hit) :
    foremost? definitions hit.start = some d ∧ d.matcher.matchAt hit.start = some hit.length := by
  have hmatch := (Definition.find_eq_some_iff.1 h.found).matches_start
  obtain ⟨before, after, hsplit, hbefore, -⟩ := h.leading
  refine ⟨List.find?_eq_some_iff_append.2 ⟨by rw [hmatch]; rfl, before, after, hsplit, ?_⟩, hmatch⟩
  intro e he
  rw [Definition.matchAt_eq_none_of_find (hbefore e he) (Definition.leads_start h.found)]
  rfl

end Wins

/-! ## A whole scan -/

/-- The token that the foremost definition at a position makes. -/
structure Token.Foremost (t : Token K) (definitions : List (Definition K)) (c : Cursor)
    (d : Definition K) : Prop where
  start : t.span.start = c.offset
  foremost : foremost? definitions c = some d
  tag : t.tag = d.tag
  length : d.matcher.matchAt c = some t.span.length

/-- The token leaves a position alone: it does not cover it, and is not an empty one that starts
there. -/
def Token.Misses (t : Token K) (byte : Nat) : Prop :=
  ¬ t.span.covers byte ∧ (t.span.isEmpty → t.span.start ≠ byte)

namespace Tokenizer.Scans

variable {definitions : List (Definition K)} {c q : Cursor} {tokens : List (Token K)} {t : Token K}

/-- Every token is the match of the foremost definition at its start. -/
theorem exists_foremost (h : Scans definitions c tokens) (ht : t ∈ tokens) :
    ∃ q d, c.Leads q ∧ t.Foremost definitions q d := by
  obtain ⟨e, d, hit, hlead, hwins, rfl⟩ := h.exists_wins ht
  obtain ⟨hfirst, hmatch⟩ := hwins.foremost
  exact ⟨hit.start, d, hlead.trans (Definition.leads_start hwins.found), rfl, hfirst, rfl, hmatch⟩

/-- Nothing matches at a position that every token leaves alone, up to the end of the text. -/
theorem matchAt_eq_none (h : Scans definitions c tokens) (hq : c.Leads q) (hrest : q.rest ≠ [])
    (hmiss : ∀ t ∈ tokens, t.Misses q.offset) :
    ∀ e ∈ definitions, e.matcher.matchAt q = none := by
  induction h with
  | nothing hnone => exact fun e he => Definition.find_eq_none_iff.1 (hnone e he) q hq
  | @last c d hit hwins hend =>
    obtain ⟨hcovers, hempty⟩ := hmiss _ List.mem_cons_self
    by_cases hlt : q.offset < hit.start.offset
    · exact hwins.matchAt_eq_none hq hlt
    · -- The scan goes on at the end of the text, and the position is not there.
      have hlead := Definition.resume_leads hwins.found hq (by omega) hcovers hempty
      rw [hlead.end_of_nil hend] at hrest
      exact absurd hend hrest
  | @more c d hit tokens hwins _ _ ih =>
    obtain ⟨⟨hcovers, hempty⟩, hothers⟩ := List.forall_mem_cons.1 hmiss
    by_cases hlt : q.offset < hit.start.offset
    · exact hwins.matchAt_eq_none hq hlt
    · exact ih (Definition.resume_leads hwins.found hq (by omega) hcovers hempty) hothers

end Tokenizer.Scans

/-! ## The law -/

/-- What the tokens and gaps of a scan say of the single positions of its text. -/
structure Scan.Leftmost (s : Scan K) (definitions : List (Definition K)) (text : String) :
    Prop where
  /-- A token has the tag of the foremost definition at its start, and the length of its match. -/
  token : ∀ t ∈ s.tokens.toList,
    ∃ c d, (Cursor.start text).Leads c ∧ t.Foremost definitions c d
  /-- No definition matches at a position of the text that the tokens leave alone. -/
  elsewhere : ∀ c, (Cursor.start text).Leads c → c.offset < text.utf8ByteSize →
    (∀ t ∈ s.tokens.toList, t.Misses c.offset) → ∀ d ∈ definitions, d.matcher.matchAt c = none
  /-- At a position in a gap no definition matches, unless the match of the foremost is empty and a
  token. -/
  gap : ∀ gap ∈ s.gaps, ∀ c, (Cursor.start text).Leads c → gap.covers c.offset →
    (∀ d ∈ definitions, d.matcher.matchAt c = none) ∨
      ∃ t ∈ s.tokens.toList, ∃ d, t.Foremost definitions c d ∧ d.matcher.matchAt c = some 0

namespace Tokenizer

variable {definitions : List (Definition K)} {text : String} {tokens : List (Token K)}

/-- There is text after a position whose offset is not that of the end. -/
theorem rest_ne_nil {c : Cursor} (hc : (Cursor.start text).Leads c)
    (hlt : c.offset < text.utf8ByteSize) : c.rest ≠ [] := by
  intro hnil
  have hoffset := Cursor.offset_add_utf8Len hc
  rw [hnil, String.utf8Len_nil] at hoffset
  omega

/-- The tokens of a scan and what they leave over obey the law. -/
theorem Scans.leftmost (h : Scans definitions (Cursor.start text) tokens) :
    Scan.Leftmost ⟨tokens.toArray, gapsFrom text.utf8ByteSize 0 (tokens.map (·.span))⟩
      definitions text := by
  have helsewhere : ∀ c, (Cursor.start text).Leads c → c.offset < text.utf8ByteSize →
      (∀ t ∈ tokens, t.Misses c.offset) → ∀ d ∈ definitions, d.matcher.matchAt c = none :=
    fun c hc hlt hmiss => h.matchAt_eq_none hc (rest_ne_nil hc hlt) hmiss
  constructor
  case token => exact fun t ht => h.exists_foremost ht
  case elsewhere => exact helsewhere
  case gap =>
    intro gap hgap c hc hcovers
    have hinside := h.partitions.inside gap (List.mem_append_right _ hgap)
    have hbetween : gap.start ≤ c.offset ∧ c.offset < gap.stop := by
      simpa [Span.covers] using hcovers
    by_cases hmiss : ∀ t ∈ tokens, t.Misses c.offset
    · exact .inl (helsewhere c hc (by omega) hmiss)
    · -- No token covers a position in a gap, so one that has it is empty and starts there.
      right
      simp only [not_forall] at hmiss
      obtain ⟨t, ht, hhere⟩ := hmiss
      have hcovered : ¬ t.span.covers c.offset :=
        h.partitions.not_covers hgap hcovers t (by simpa using ht)
      obtain ⟨hempty, hstart⟩ : t.span.isEmpty ∧ t.span.start = c.offset := by
        simpa [Token.Misses, hcovered] using hhere
      obtain ⟨q, d, hq, htoken⟩ := h.exists_foremost ht
      have hqc : q = c := hq.eq_of_offset_eq hc (htoken.start.symm.trans hstart)
      subst hqc
      have hzero : t.span.length = 0 := by simpa [Span.isEmpty] using hempty
      exact ⟨t, by simpa using ht, d, htoken, hzero ▸ htoken.length⟩

/-- **The tokens of every text depend on its single positions alone**, on what the matchers of the
definitions say there: each is the match of the foremost definition at its start, no definition
matches at a position that they leave alone, and in a gap a definition matches only behind an empty
match of one listed before it or its own. -/
theorem tokenize_leftmost (t : Tokenizer K) (text : String) :
    (t.tokenize text).Leftmost t.definitions text := by
  obtain ⟨tokens, hscans, htokenize⟩ := t.exists_tokenize text
  rw [htokenize]
  exact hscans.leftmost

-- An `a` in a gap: the empty matches of the definition listed first come before it.
example : ((ofPatterns [('s', "s*"), ('a', "a")]).toOption.map fun t =>
    ((t.tokenize "ab").tokens.toList.map fun t => (t.tag, t.span), (t.tokenize "ab").gaps)) =
    some ([('s', ⟨0, 0⟩), ('s', ⟨1, 0⟩)], [⟨0, 1⟩, ⟨1, 1⟩]) := by decide +kernel

end Tokenizer

end Packrat
