import Packrat.Proofs.Lexer.Scanning
import Packrat.Proofs.Lexer.Slices

/-!
# Tokens and gaps partition a text

The tokens of a scan ascend (`Ascending`): each starts after the start of the one before it and not
before its end. The gaps are what they leave over. Put together in the order of their starts, the
gaps and the tokens that are not empty tile the text (`Tiles`): each begins where the one before it
ends. `pieces` is that list, and what is said about single bytes follows from the tiling.

`Scan.Partitions` collects what a scan owes to its text; `Tokenizer.tokenize_partitions` says that
every scan does so, with as many steps as there are characters, and one more.
-/

namespace Packrat

variable {K : Type}

/-! ## Tilings -/

/-- The spans cover `start..stop` without holes: each begins where the one before it ends, and none
is empty. -/
def Tiles : Nat → List Span → Nat → Prop
  | start, [], stop => start = stop
  | start, s :: rest, stop => s.start = start ∧ 0 < s.length ∧ Tiles s.stop rest stop

namespace Tiles

variable {start stop byte : Nat} {spans : List Span} {s : Span}

/-- A tiling of two parts. -/
theorem append {middle : Nat} {others : List Span} (h : Tiles start spans middle)
    (h' : Tiles middle others stop) : Tiles start (spans ++ others) stop := by
  induction spans generalizing start with
  | nil =>
    cases h
    exact h'
  | cons s rest ih =>
    obtain ⟨hstart, hpos, hrest⟩ := h
    exact ⟨hstart, hpos, ih hrest⟩

/-- A tiling goes forward. -/
theorem le (h : Tiles start spans stop) : start ≤ stop := by
  induction spans generalizing start with
  | nil => exact Nat.le_of_eq h
  | cons s rest ih =>
    obtain ⟨rfl, -, hrest⟩ := h
    have hle := ih hrest
    rw [Span.stop] at hle
    omega

/-- The spans of a tiling are not empty and lie between its ends. -/
theorem bounds (h : Tiles start spans stop) (hs : s ∈ spans) :
    0 < s.length ∧ start ≤ s.start ∧ s.stop ≤ stop := by
  induction spans generalizing start with
  | nil => cases hs
  | cons t rest ih =>
    obtain ⟨rfl, hpos, hrest⟩ := h
    rcases List.mem_cons.1 hs with rfl | hs
    · exact ⟨hpos, Nat.le_refl _, le hrest⟩
    · obtain ⟨hpos', hle, hstop⟩ := ih hrest hs
      rw [Span.stop] at hle
      exact ⟨hpos', by omega, hstop⟩

/-- The spans of a tiling lie one after the other. -/
theorem pairwise (h : Tiles start spans stop) :
    spans.Pairwise fun s t => s.stop ≤ t.start := by
  induction spans generalizing start with
  | nil => exact .nil
  | cons s rest ih =>
    obtain ⟨-, -, hrest⟩ := h
    exact .cons (fun t ht => (bounds hrest ht).2.1) (ih hrest)

/-- Every byte between the ends of a tiling lies in one span. -/
theorem countP_covers (h : Tiles start spans stop) (hstart : start ≤ byte) (hstop : byte < stop) :
    spans.countP (·.covers byte) = 1 := by
  induction spans generalizing start with
  | nil =>
    rw [Tiles] at h
    omega
  | cons s rest ih =>
    obtain ⟨rfl, hpos, hrest⟩ := h
    rw [List.countP_cons]
    by_cases hcovers : byte < s.stop
    · -- The other spans begin after the byte.
      have hothers : rest.countP (·.covers byte) = 0 := by
        refine List.countP_eq_zero.2 fun t ht => ?_
        have hle := (bounds hrest ht).2.1
        simp only [Span.covers, Bool.and_eq_true, decide_eq_true_eq]
        omega
      rw [hothers, if_pos (by simp [Span.covers, hstart, hcovers])]
    · rw [ih hrest (by omega), if_neg (by simp [Span.covers, hcovers])]

end Tiles

/-! ## Gaps -/

/-- Spans of which each starts after the start of the one before it, and not before its end; the
first starts at `start` or later. -/
def Ascending : Nat → List Span → Prop
  | _, [] => True
  | start, s :: rest => start ≤ s.start ∧ Ascending (max s.stop (s.start + 1)) rest

namespace Ascending

variable {start : Nat} {spans : List Span}

/-- The spans start at any earlier position or later. -/
theorem of_le {start' : Nat} (h : Ascending start spans) (hle : start' ≤ start) :
    Ascending start' spans := by
  cases spans with
  | nil => trivial
  | cons s rest => exact ⟨Nat.le_trans hle h.1, h.2⟩

/-- No span starts before the position. -/
theorem start_le {s : Span} (h : Ascending start spans) (hs : s ∈ spans) : start ≤ s.start := by
  induction spans generalizing start with
  | nil => cases hs
  | cons t rest ih =>
    obtain ⟨hle, hrest⟩ := h
    rcases List.mem_cons.1 hs with rfl | hs
    · exact hle
    · have hlt := ih hrest hs
      omega

/-- The spans lie one after the other, and no two start together. -/
theorem pairwise (h : Ascending start spans) :
    spans.Pairwise fun s t => s.stop ≤ t.start ∧ s.start < t.start := by
  induction spans generalizing start with
  | nil => exact .nil
  | cons s rest ih =>
    obtain ⟨-, hrest⟩ := h
    refine .cons (fun t ht => ?_) (ih hrest)
    have hle := hrest.start_le ht
    omega

end Ascending

/-- The gaps and the spans that are not empty, in the order of their starts. -/
def pieces (total : Nat) : (covered : Nat) → List Span → List Span
  | covered, [] => if covered < total then [.between covered total] else []
  | covered, s :: rest =>
    (if covered < s.start then [.between covered s.start] else []) ++
      (if s.isEmpty then [] else [s]) ++ pieces total s.stop rest

section Gaps

variable {total covered : Nat} {spans : List Span} {gap s : Span}

/-- The gaps of ascending spans: what lies before the first, and the gaps after it. -/
theorem gapsFrom_cons {rest : List Span} (h : covered ≤ s.start) :
    gapsFrom total covered (s :: rest) =
      (if covered < s.start then [.between covered s.start] else []) ++
        gapsFrom total s.stop rest := by
  have hmax : max covered s.stop = s.stop := by
    rw [Span.stop]
    omega
  rw [gapsFrom, hmax]
  split <;> rfl

/-- The part before a span, if there is one. -/
theorem tiles_before (h : covered ≤ s.start) :
    Tiles covered (if covered < s.start then [.between covered s.start] else []) s.start := by
  split
  · next hlt =>
    refine ⟨rfl, Nat.sub_pos_of_lt hlt, ?_⟩
    change covered + (s.start - covered) = s.start
    omega
  · change covered = s.start
    omega

/-- The span itself, if it is not empty. -/
theorem tiles_self (s : Span) : Tiles s.start (if s.isEmpty then [] else [s]) s.stop := by
  split
  · next hempty =>
    have hzero : s.length = 0 := by simpa [Span.isEmpty] using hempty
    change s.start = s.start + s.length
    omega
  · next hempty =>
    have hne : s.length ≠ 0 := by simpa [Span.isEmpty] using hempty
    exact ⟨rfl, Nat.pos_of_ne_zero hne, rfl⟩

/-- **Gaps and spans tile what lies between the ends.** -/
theorem tiles_pieces (h : Ascending covered spans) (hstop : ∀ s ∈ spans, s.stop ≤ total)
    (hcovered : covered ≤ total) : Tiles covered (pieces total covered spans) total := by
  induction spans generalizing covered with
  | nil =>
    rw [pieces]
    split
    · next hlt =>
      refine ⟨rfl, Nat.sub_pos_of_lt hlt, ?_⟩
      change covered + (total - covered) = total
      omega
    · change covered = total
      omega
  | cons s rest ih =>
    obtain ⟨hle, hrest⟩ := h
    obtain ⟨hs, hothers⟩ := List.forall_mem_cons.1 hstop
    have htiles := ih (hrest.of_le (Nat.le_max_left _ _)) hothers hs
    exact ((tiles_before hle).append (tiles_self s)).append htiles

/-- The pieces are the spans that are not empty and the gaps. -/
theorem perm_pieces (h : Ascending covered spans) :
    (pieces total covered spans).Perm
      (spans.filter (¬ ·.isEmpty) ++ gapsFrom total covered spans) := by
  induction spans generalizing covered with
  | nil => exact .refl _
  | cons s rest ih =>
    obtain ⟨hle, hrest⟩ := h
    have hperm := ih (hrest.of_le (Nat.le_max_left _ _))
    have hself : (s :: rest).filter (¬ ·.isEmpty) =
        (if s.isEmpty then [] else [s]) ++ rest.filter (¬ ·.isEmpty) := by
      by_cases hempty : s.isEmpty <;> simp [hempty]
    rw [pieces, gapsFrom_cons hle, hself]
    generalize (if covered < s.start then [Span.between covered s.start] else []) = first
    generalize (if s.isEmpty then [] else [s]) = self
    -- The first gap changes places with the spans.
    refine (hperm.append_left _).trans ?_
    have hswap : (first ++ (self ++ rest.filter (¬ ·.isEmpty))).Perm
        (self ++ rest.filter (¬ ·.isEmpty) ++ first) := List.perm_append_comm
    have hall := hswap.append_right (gapsFrom total s.stop rest)
    simpa only [List.append_assoc] using hall

/-- The gaps are pieces, in the same order. -/
theorem gapsFrom_sublist (h : Ascending covered spans) :
    (gapsFrom total covered spans).Sublist (pieces total covered spans) := by
  induction spans generalizing covered with
  | nil => exact .refl _
  | cons s rest ih =>
    obtain ⟨hle, hrest⟩ := h
    rw [gapsFrom_cons hle, pieces, List.append_assoc]
    refine .append (.refl _) ?_
    exact (ih (hrest.of_le (Nat.le_max_left _ _))).trans (List.sublist_append_right _ _)

/-- A gap begins where a span ends, or at the beginning; and it ends where a span starts, or at the
end. -/
theorem gap_ends (h : Ascending covered spans) (hcovered : covered ≤ total)
    (hstop : ∀ s ∈ spans, s.stop ≤ total) (hgap : gap ∈ gapsFrom total covered spans) :
    (gap.start = covered ∨ ∃ s ∈ spans, gap.start = s.stop) ∧
      (gap.stop = total ∨ ∃ s ∈ spans, gap.stop = s.start) := by
  induction spans generalizing covered with
  | nil =>
    rw [gapsFrom] at hgap
    split at hgap
    · rw [List.mem_singleton] at hgap
      subst hgap
      refine ⟨.inl rfl, .inl ?_⟩
      change covered + (total - covered) = total
      omega
    · cases hgap
  | cons s rest ih =>
    obtain ⟨hle, hrest⟩ := h
    obtain ⟨hs, hothers⟩ := List.forall_mem_cons.1 hstop
    rw [gapsFrom_cons hle] at hgap
    rcases List.mem_append.1 hgap with hgap | hgap
    · split at hgap
      · rw [List.mem_singleton] at hgap
        subst hgap
        refine ⟨.inl rfl, .inr ⟨s, List.mem_cons_self, ?_⟩⟩
        change covered + (s.start - covered) = s.start
        omega
      · cases hgap
    · obtain ⟨hstart, hend⟩ := ih (hrest.of_le (Nat.le_max_left _ _)) hs hothers hgap
      refine ⟨.inr ?_, ?_⟩
      · rcases hstart with hstart | ⟨t, ht, hstart⟩
        exacts [⟨s, List.mem_cons_self, hstart⟩, ⟨t, List.mem_cons_of_mem _ ht, hstart⟩]
      · rcases hend with hend | ⟨t, ht, hend⟩
        exacts [.inl hend, .inr ⟨t, List.mem_cons_of_mem _ ht, hend⟩]

/-- No gap begins before what is covered. -/
theorem covered_le_gap (h : Ascending covered spans) (hgap : gap ∈ gapsFrom total covered spans) :
    covered ≤ gap.start := by
  induction spans generalizing covered with
  | nil =>
    rw [gapsFrom] at hgap
    split at hgap
    · rw [List.mem_singleton] at hgap
      exact Nat.le_of_eq (congrArg Span.start hgap).symm
    · cases hgap
  | cons s rest ih =>
    obtain ⟨hle, hrest⟩ := h
    rw [gapsFrom_cons hle] at hgap
    rcases List.mem_append.1 hgap with hgap | hgap
    · split at hgap
      · rw [List.mem_singleton] at hgap
        exact Nat.le_of_eq (congrArg Span.start hgap).symm
      · cases hgap
    · have hlater := ih (hrest.of_le (Nat.le_max_left _ _)) hgap
      rw [Span.stop] at hlater
      omega

/-- A gap lies before a span or after it, also if the span is empty. -/
theorem gap_apart (h : Ascending covered spans) (hgap : gap ∈ gapsFrom total covered spans)
    (hs : s ∈ spans) : gap.stop ≤ s.start ∨ s.stop ≤ gap.start := by
  induction spans generalizing covered with
  | nil => cases hs
  | cons t rest ih =>
    obtain ⟨hle, hrest⟩ := h
    have hrest' := hrest.of_le (Nat.le_max_left _ _)
    rw [gapsFrom_cons hle] at hgap
    rcases List.mem_append.1 hgap with hgap | hgap
    · -- The gap before the first span ends where that begins.
      split at hgap
      · rw [List.mem_singleton] at hgap
        subst hgap
        have hstop : (Span.between covered t.start).stop = t.start := by
          change covered + (t.start - covered) = t.start
          omega
        rw [hstop]
        rcases List.mem_cons.1 hs with rfl | hs
        · exact .inl (Nat.le_refl _)
        · have hlater := hrest.start_le hs
          omega
      · cases hgap
    · rcases List.mem_cons.1 hs with rfl | hs
      · exact .inr (covered_le_gap hrest' hgap)
      · exact ih hrest' hgap hs

end Gaps

/-! ## The tokens of a scan -/

namespace Tokenizer.Scans

variable {definitions : List (Definition K)} {c : Cursor} {tokens : List (Token K)} {t : Token K}

/-- The tokens ascend from the position of the scan on. -/
theorem ascending (h : Scans definitions c tokens) :
    Ascending c.offset (tokens.map (·.span)) := by
  induction h with
  | nothing => trivial
  | last hwins _ => exact ⟨(Definition.leads_start hwins.found).offset_le, trivial⟩
  | more hwins hrest _ ih =>
    obtain ⟨hstart, hstop⟩ := Definition.resume_progress hwins.found hrest
    exact ⟨(Definition.leads_start hwins.found).offset_le, ih.of_le (Nat.max_le.2 ⟨hstop, hstart⟩)⟩

/-- A token is made of the match of a winner, at some position that the scan has come to. -/
theorem exists_wins (h : Scans definitions c tokens) (ht : t ∈ tokens) :
    ∃ (e : Cursor) (d : Definition K) (hit : Hit), c.Leads e ∧ Wins definitions e d hit ∧
      t = hit.token d.tag := by
  induction h with
  | nothing => cases ht
  | last hwins _ =>
    rw [List.mem_singleton] at ht
    exact ⟨_, _, _, .refl _, hwins, ht⟩
  | more hwins _ _ ih =>
    rcases List.mem_cons.1 ht with rfl | ht
    · exact ⟨_, _, _, .refl _, hwins, rfl⟩
    · obtain ⟨e, d, hit, hlead, hrest⟩ := ih ht
      have hstart := Definition.leads_start hwins.found
      exact ⟨e, d, hit, (hstart.trans (Definition.leads_resume hwins.found)).trans hlead, hrest⟩

/-- A token is made of a match that starts and ends at positions of the text. -/
theorem exists_hit (h : Scans definitions c tokens) (ht : t ∈ tokens) :
    ∃ (hit : Hit) (e : Cursor), c.Leads hit.start ∧ hit.start.Leads e ∧ e.offset = hit.span.stop ∧
      t = hit.token t.tag := by
  obtain ⟨c', d, hit, hlead, hwins, rfl⟩ := h.exists_wins ht
  obtain ⟨hend, hoffset⟩ := Definition.leads_advance hwins.found
  exact ⟨hit, _, hlead.trans (Definition.leads_start hwins.found), hend, hoffset, rfl⟩

/-- There is one token at most for every character, and one more. -/
theorem length_le (h : Scans definitions c tokens) : tokens.length ≤ c.rest.length + 1 := by
  induction h with
  | nothing => exact Nat.zero_le _
  | last => exact Nat.le_add_left _ _
  | more hwins hrest _ ih =>
    have hlt := length_resume_lt hwins.found hrest
    rw [List.length_cons]
    omega

end Tokenizer.Scans

/-! ## The texts of the pieces -/

section Texts

variable {text : String} {c : Cursor} {spans : List Span}

/-- The bytes before a position and after it are those of the text. -/
theorem Cursor.offset_add_utf8Len (hc : (Cursor.start text).Leads c) :
    c.offset + String.utf8Len c.rest = text.utf8ByteSize := by
  obtain ⟨before, htext, hoffset⟩ := hc.passed
  change text.toList = before ++ c.rest at htext
  have hlength := congrArg String.utf8Len htext
  rw [String.utf8Len_toList, String.utf8Len_append] at hlength
  change c.offset = 0 + _ at hoffset
  omega

/-- The text that a span of it holds. -/
def textAt (text : String) (s : Span) : String := (Token.cut text () s).text

/-- A span between characters holds a piece of the text, which takes up the bytes that the span
says. -/
theorem textAt_spec {s : Span} (hstart : (String.Pos.Raw.mk s.start).IsValid text)
    (hstop : (String.Pos.Raw.mk s.stop).IsValid text) :
    ∃ before after, text = before ++ textAt text s ++ after ∧ before.utf8ByteSize = s.start ∧
      (textAt text s).utf8ByteSize = s.length := by
  obtain ⟨c, hc, hoffset⟩ := Cursor.isValid_iff_exists_leads.1 hstart
  obtain ⟨e, he, hend⟩ := Cursor.isValid_iff_exists_leads.1 hstop
  have hlength : e.offset - c.offset = s.length := by rw [hend, hoffset, Span.stop]; omega
  have hlead : c.Leads e := hc.leads_of_offset_le he (by rw [hend, hoffset, Span.stop]; omega)
  have hspan : c.upTo e = s := by rw [Cursor.upTo, Span.between, hlength, hoffset]
  obtain ⟨before, htext, hbefore⟩ := hc.passed
  obtain ⟨passed, hpassed, hbytes⟩ := hlead.passed
  have hheld : textAt text s = String.ofList passed := by
    rw [textAt, ← hspan, hc.cut_eq () hlead, hbytes, Nat.add_sub_cancel_left, Cursor.lexeme,
      hpassed, Cursor.takeBytes_append, String.empty_append]
  change text.toList = before ++ c.rest at htext
  change c.offset = 0 + _ at hbefore
  refine ⟨String.ofList before, String.ofList e.rest, ?_, ?_, ?_⟩
  · rw [hheld, ← String.ofList_append, ← String.ofList_append, List.append_assoc, ← hpassed,
      ← htext, String.ofList_toList]
  · rw [← String.utf8Len_toList, String.toList_ofList]
    omega
  · rw [hheld, ← String.utf8Len_toList, String.toList_ofList]
    omega

/-- The texts of a tiling from a position on make up what is left of the text. -/
theorem Tiles.join_textAt (hc : (Cursor.start text).Leads c)
    (h : Tiles c.offset spans text.utf8ByteSize)
    (hvalid : ∀ s ∈ spans, (String.Pos.Raw.mk s.stop).IsValid text) :
    String.join (spans.map (textAt text)) = String.ofList c.rest := by
  induction spans generalizing c with
  | nil =>
    have hoffset := Cursor.offset_add_utf8Len hc
    rw [Tiles] at h
    have hnil : c.rest = [] := String.utf8Len_eq_zero.1 (by omega)
    rw [hnil]
    rfl
  | cons s rest ih =>
    obtain ⟨hstart, hpos, hrest⟩ := h
    obtain ⟨hs, hothers⟩ := List.forall_mem_cons.1 hvalid
    obtain ⟨e, he, hoffset⟩ := Cursor.isValid_iff_exists_leads.1 hs
    have hle : c.offset ≤ e.offset := by
      rw [hoffset, Span.stop]
      omega
    have hlead := hc.leads_of_offset_le he hle
    have hspan : c.upTo e = s := by
      obtain ⟨start, length⟩ := s
      dsimp only [Span.stop] at hstart hoffset
      rw [Cursor.upTo, Span.between, hoffset, hstart, Nat.add_sub_cancel_left]
    obtain ⟨passed, hpassed, hlexeme⟩ := hlead.lexeme_eq
    have htext : textAt text s = String.ofList passed := by
      rw [textAt, ← hspan, hc.cut_eq () hlead, hlexeme]
    rw [← hoffset] at hrest
    rw [List.map_cons, String.join_cons, htext, ih he hrest hothers, hpassed, String.ofList_append]

end Texts

/-! ## The partition -/

/-- What the tokens and gaps of a scan owe to the text. -/
structure Scan.Partitions (s : Scan K) (text : String) : Prop where
  /-- A token is the piece of the text that its span says. -/
  cut : ∀ t ∈ s.tokens.toList, t = Token.cut text t.tag t.span
  /-- Tokens and gaps lie inside the text. -/
  inside : ∀ span ∈ s.tokens.toList.map (·.span) ++ s.gaps, span.stop ≤ text.utf8ByteSize
  /-- Tokens and gaps begin and end between characters. -/
  valid : ∀ span ∈ s.tokens.toList.map (·.span) ++ s.gaps,
    (String.Pos.Raw.mk span.start).IsValid text ∧ (String.Pos.Raw.mk span.stop).IsValid text
  /-- No two tokens start together or overlap. -/
  tokens_ascend : (s.tokens.toList.map (·.span)).Pairwise fun a b =>
    a.stop ≤ b.start ∧ a.start < b.start
  /-- Gaps are not empty. -/
  gaps_pos : ∀ gap ∈ s.gaps, 0 < gap.length
  /-- No two gaps overlap. -/
  gaps_ascend : s.gaps.Pairwise fun a b => a.stop ≤ b.start
  /-- A gap lies before a token or after it. -/
  gaps_apart : ∀ gap ∈ s.gaps, ∀ t ∈ s.tokens.toList,
    gap.stop ≤ t.span.start ∨ t.span.stop ≤ gap.start
  /-- A gap begins at the beginning or where a token ends, and ends at the end or where a token
  starts. -/
  gaps_ends : ∀ gap ∈ s.gaps,
    (gap.start = 0 ∨ ∃ t ∈ s.tokens.toList, gap.start = t.span.stop) ∧
      (gap.stop = text.utf8ByteSize ∨ ∃ t ∈ s.tokens.toList, gap.stop = t.span.start)
  /-- Every byte lies in one token or gap, and only in one. -/
  once : ∀ byte < text.utf8ByteSize,
    (s.tokens.toList.map (·.span) ++ s.gaps).countP (·.covers byte) = 1
  /-- The gaps and the tokens that are not empty tile the text, and their texts make it up. -/
  joined : ∃ spans : List Span,
    spans.Perm ((s.tokens.toList.map (·.span)).filter (¬ ·.isEmpty) ++ s.gaps) ∧
      Tiles 0 spans text.utf8ByteSize ∧ String.join (spans.map (textAt text)) = text
  /-- The scan succeeds if tokens cover every byte, and only then. -/
  succeeded_iff : s.succeeded ↔
    ∀ byte < text.utf8ByteSize, ∃ t ∈ s.tokens.toList, t.span.covers byte
  /-- There is one token at most for every place between characters. -/
  size_le : s.tokens.size ≤ text.length + 1

namespace Scan.Partitions

variable {s : Scan K} {text : String} {gap : Span} {others : List Span} {byte : Nat}

/-- No token covers a byte of a gap. -/
theorem not_covers (h : s.Partitions text) (hgap : gap ∈ s.gaps) (hbyte : gap.covers byte) :
    ∀ t ∈ s.tokens.toList, ¬ t.span.covers byte := by
  intro t ht
  have hapart := h.gaps_apart gap hgap t ht
  simp only [Span.covers, Bool.and_eq_true, decide_eq_true_eq] at hbyte ⊢
  omega

/-- Tokens cover every byte before the first gap. -/
theorem covers_before (h : s.Partitions text) (hgaps : s.gaps = gap :: others)
    (hbyte : byte < gap.start) : ∃ t ∈ s.tokens.toList, t.span.covers byte := by
  have hgap : gap ∈ s.gaps := hgaps ▸ List.mem_cons_self
  have hinside := h.inside gap (List.mem_append_right _ hgap)
  rw [Span.stop] at hinside
  have hcount := h.once byte (by omega)
  obtain ⟨span, hspan, hcovers⟩ := List.countP_pos_iff.1 (hcount ▸ Nat.one_pos)
  rcases List.mem_append.1 hspan with hspan | hspan
  · obtain ⟨t, ht, rfl⟩ := List.mem_map.1 hspan
    exact ⟨t, ht, hcovers⟩
  · -- The other gaps begin after the first.
    have hascend := h.gaps_ascend
    rw [hgaps] at hascend hspan
    have hlater := (List.pairwise_cons.1 hascend).1 span
    simp only [Span.covers, Bool.and_eq_true, decide_eq_true_eq] at hcovers
    rcases List.mem_cons.1 hspan with rfl | hspan
    · omega
    · have hstop := hlater hspan
      rw [Span.stop] at hstop
      omega

/-- A gap ends at the end of the text, or where a token covers the next byte, if no token is
empty. -/
theorem gap_maximal (h : s.Partitions text) (hgap : gap ∈ s.gaps)
    (hpos : ∀ t ∈ s.tokens.toList, 0 < t.span.length) :
    gap.stop = text.utf8ByteSize ∨ ∃ t ∈ s.tokens.toList, t.span.covers gap.stop := by
  rcases (h.gaps_ends gap hgap).2 with hend | ⟨t, ht, hend⟩
  · exact .inl hend
  · refine .inr ⟨t, ht, ?_⟩
    have hlength := hpos t ht
    rw [hend, Span.covers, Span.stop]
    simpa using hlength

end Scan.Partitions

namespace Tokenizer

variable {text : String} {definitions : List (Definition K)} {tokens : List (Token K)}
  {span : Span} {byte : Nat}

/-- The spans of tokens begin and end between characters. -/
theorem Scans.isValid (h : Scans definitions (Cursor.start text) tokens)
    (hspan : span ∈ tokens.map (·.span)) :
    (String.Pos.Raw.mk span.start).IsValid text ∧ (String.Pos.Raw.mk span.stop).IsValid text := by
  obtain ⟨t, ht, rfl⟩ := List.mem_map.1 hspan
  obtain ⟨hit, e, hstart, hend, hoffset, htoken⟩ := h.exists_hit ht
  rw [htoken]
  exact ⟨Cursor.isValid_iff_exists_leads.2 ⟨_, hstart, rfl⟩,
    Cursor.isValid_iff_exists_leads.2 ⟨e, hstart.trans hend, hoffset⟩⟩

/-- An offset between characters lies inside the text. -/
theorem offset_le_of_isValid {n : Nat} (h : (String.Pos.Raw.mk n).IsValid text) :
    n ≤ text.utf8ByteSize := by
  obtain ⟨c, hc, rfl⟩ := Cursor.isValid_iff_exists_leads.1 h
  have hoffset := Cursor.offset_add_utf8Len hc
  omega

/-- The spans of gaps begin and end between characters if those of the tokens do. -/
theorem isValid_of_gap {spans : List Span} (hspans : Ascending 0 spans)
    (hvalid : ∀ s ∈ spans,
      (String.Pos.Raw.mk s.start).IsValid text ∧ (String.Pos.Raw.mk s.stop).IsValid text)
    (hgap : span ∈ gapsFrom text.utf8ByteSize 0 spans) :
    (String.Pos.Raw.mk span.start).IsValid text ∧ (String.Pos.Raw.mk span.stop).IsValid text := by
  have hstop : ∀ s ∈ spans, s.stop ≤ text.utf8ByteSize := fun s hs =>
    offset_le_of_isValid (hvalid s hs).2
  obtain ⟨hstart, hend⟩ := gap_ends hspans (Nat.zero_le _) hstop hgap
  constructor
  · rcases hstart with hstart | ⟨s, hs, hstart⟩
    · rw [hstart]
      exact String.Pos.Raw.isValid_zero
    · rw [hstart]
      exact (hvalid s hs).2
  · rcases hend with hend | ⟨s, hs, hend⟩
    · rw [hend]
      exact String.Pos.Raw.isValid_rawEndPos
    · rw [hend]
      exact (hvalid s hs).1

/-- Empty spans cover no byte. -/
theorem countP_filter_isEmpty (spans : List Span) :
    (spans.filter (¬ ·.isEmpty)).countP (·.covers byte) = spans.countP (·.covers byte) := by
  rw [List.countP_filter]
  refine List.countP_congr fun s _ => ?_
  have hne : s.covers byte → s.length ≠ 0 := by
    intro hcovers
    simp only [Span.covers, Bool.and_eq_true, decide_eq_true_eq] at hcovers
    rw [Span.stop] at hcovers
    omega
  simpa [Span.isEmpty] using hne

/-- The tokens of a scan and what they leave over partition the text. -/
theorem Scans.partitions (h : Scans definitions (Cursor.start text) tokens) :
    Scan.Partitions
      ⟨tokens.toArray, gapsFrom text.utf8ByteSize 0 (tokens.map (·.span))⟩ text := by
  have hascending : Ascending 0 (tokens.map (·.span)) := h.ascending
  have hvalid : ∀ span ∈ tokens.map (·.span) ++
      gapsFrom text.utf8ByteSize 0 (tokens.map (·.span)),
      (String.Pos.Raw.mk span.start).IsValid text ∧
        (String.Pos.Raw.mk span.stop).IsValid text := by
    intro span hspan
    rcases List.mem_append.1 hspan with hspan | hgap
    · exact h.isValid hspan
    · exact isValid_of_gap hascending (fun s hs => h.isValid hs) hgap
  have hinside := fun span hspan => offset_le_of_isValid (hvalid span hspan).2
  have hstop : ∀ s ∈ tokens.map (·.span), s.stop ≤ text.utf8ByteSize := fun s hs =>
    hinside s (List.mem_append_left _ hs)
  -- The pieces tile the text; they are the gaps and the tokens that are not empty.
  have htiles := tiles_pieces hascending hstop (Nat.zero_le _)
  have hperm : (pieces text.utf8ByteSize 0 _).Perm _ := perm_pieces hascending
  have hends : ∀ gap ∈ gapsFrom text.utf8ByteSize 0 (tokens.map (·.span)),
      (gap.start = 0 ∨ ∃ t ∈ tokens, gap.start = t.span.stop) ∧
        (gap.stop = text.utf8ByteSize ∨ ∃ t ∈ tokens, gap.stop = t.span.start) := by
    intro gap hgap
    simpa using gap_ends hascending (Nat.zero_le _) hstop hgap
  have honce : ∀ byte < text.utf8ByteSize, (tokens.map (·.span) ++
      gapsFrom text.utf8ByteSize 0 (tokens.map (·.span))).countP (·.covers byte) = 1 := by
    intro byte hbyte
    rw [List.countP_append, ← countP_filter_isEmpty, ← List.countP_append, ← hperm.countP_eq,
      htiles.countP_covers (Nat.zero_le _) hbyte]
  have hpieces : ∀ gap ∈ gapsFrom text.utf8ByteSize 0 (tokens.map (·.span)), 0 < gap.length :=
    fun gap hgap => (htiles.bounds (hperm.mem_iff.2 (List.mem_append_right _ hgap))).1
  constructor
  case cut =>
    intro t ht
    obtain ⟨hit, e, hstart, hend, hoffset, htoken⟩ := h.exists_hit (by simpa using ht)
    have hspan : t.span = hit.span := congrArg Token.span htoken
    rw [hspan, ← hstart.token_eq_cut hend hoffset t.tag]
    exact htoken
  case inside => simpa using hinside
  case valid => simpa using hvalid
  case tokens_ascend => exact hascending.pairwise
  case gaps_pos => exact hpieces
  case gaps_ascend => exact htiles.pairwise.sublist (gapsFrom_sublist hascending)
  case gaps_apart =>
    intro gap hgap t ht
    exact gap_apart hascending hgap (List.mem_map_of_mem (by simpa using ht))
  case gaps_ends => simpa using hends
  case once => simpa using honce
  case joined =>
    refine ⟨_, hperm, htiles, ?_⟩
    have hstops : ∀ s ∈ pieces text.utf8ByteSize 0 (tokens.map (·.span)),
        (String.Pos.Raw.mk s.stop).IsValid text := by
      intro s hs
      rcases List.mem_append.1 (hperm.mem_iff.1 hs) with hs | hs
      · exact (hvalid s (List.mem_append_left _ (List.mem_filter.1 hs).1)).2
      · exact (hvalid s (List.mem_append_right _ hs)).2
    have hjoin := Tiles.join_textAt (Cursor.Leads.refl _) htiles hstops
    rw [hjoin]
    exact String.ofList_toList
  case succeeded_iff =>
    rw [Scan.succeeded, List.isEmpty_iff]
    dsimp only
    constructor
    · -- Without gaps, the byte that lies in one of the spans lies in a token.
      intro hnil byte hbyte
      have hcount := honce byte hbyte
      rw [hnil, List.append_nil] at hcount
      obtain ⟨s, hs, hcovers⟩ := List.countP_pos_iff.1 (hcount ▸ Nat.one_pos)
      obtain ⟨t, ht, rfl⟩ := List.mem_map.1 hs
      exact ⟨t, by simpa using ht, hcovers⟩
    · -- The first byte of a gap lies in no token.
      intro hall
      refine List.eq_nil_iff_forall_not_mem.2 fun gap hgap => ?_
      have hpos := hpieces gap hgap
      have hle := hinside gap (List.mem_append_right _ hgap)
      rw [Span.stop] at hle
      obtain ⟨t, ht, hcovers⟩ := hall gap.start (by omega)
      have hapart := gap_apart hascending hgap (List.mem_map_of_mem (by simpa using ht))
      simp only [Span.covers, Bool.and_eq_true, decide_eq_true_eq] at hcovers
      rw [Span.stop] at hapart
      omega
  case size_le => exact h.length_le

/-- A scan has the tokens of the relation and what they leave over. -/
theorem exists_tokenize (t : Tokenizer K) (text : String) :
    ∃ tokens, Scans t.definitions (Cursor.start text) tokens ∧
      t.tokenize text =
        ⟨tokens.toArray, gapsFrom text.utf8ByteSize 0 (tokens.map (·.span))⟩ := by
  obtain ⟨tokens, hscans⟩ := exists_scans t.definitions (Cursor.start text)
  have htokens : t.scan text = tokens.toArray := hscans.scanFrom (Nat.lt_succ_self _)
  exact ⟨tokens, hscans, by rw [tokenize, htokens]⟩

/-- **Tokens and gaps partition every text**, whatever the matchers of the definitions, and the scan
takes one step at most for every place between characters: allowed more, it finds the same
tokens. -/
theorem tokenize_partitions (t : Tokenizer K) (text : String) :
    (t.tokenize text).Partitions text ∧
      ∀ extra, scanFrom (text.length + 1 + extra) (t.definitions.map (⟨·, .stale⟩))
        (Cursor.start text) #[] = t.scan text := by
  obtain ⟨tokens, hscans⟩ := exists_scans t.definitions (Cursor.start text)
  have hscan : ∀ extra, scanFrom (text.length + 1 + extra) (t.definitions.map (⟨·, .stale⟩))
      (Cursor.start text) #[] = tokens.toArray := by
    intro extra
    have hlength : (Cursor.start text).rest.length = text.length := rfl
    exact hscans.scanFrom (by omega)
  have htokens : t.scan text = tokens.toArray := hscan 0
  refine ⟨?_, fun extra => (hscan extra).trans htokens.symm⟩
  rw [tokenize, htokens]
  exact hscans.partitions

end Tokenizer

end Packrat
