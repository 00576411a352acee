import Mathlib.Data.List.Chain
import Packrat.Proofs.GrammarText.Lexemes

/-!
# White space in grammar text

White space parts the lexemes of grammar text and says nothing else. `Spacing` is a way to write
lexemes: any white space before the first and after each, as long as two identifiers do not run
together. Whatever the white space is, the text is cut into the lexemes and the white space between
them (`Spacing.tokenize`), because the lexemes and the white space that is there can be told apart
(`Spacing.lexemes_written`).

The converse is about any text. Lexemes that run together, two identifiers or two pieces of white
space, make one lexeme of the same symbol, so every text that is put together of lexemes can be put
together of lexemes that can be told apart (`exists_lexemes_join`), and a text without gaps is put
together of its tokens. So the texts without gaps are the ones that are put together of lexemes
(`gaps_eq_nil_iff`). Any other text has a first gap, and that is what reading reports
(`FirstGap`). `tokenize_spaced` is both directions.
-/

namespace Packrat

/-! ## Texts without gaps -/

/-- If there are no gaps, the spans that are not empty are all the pieces. -/
theorem pieces_of_gapless {total covered : Nat} {spans : List Span} (h : Ascending covered spans)
    (hgaps : gapsFrom total covered spans = []) :
    pieces total covered spans = spans.filter (¬ ·.isEmpty) := by
  induction spans generalizing covered with
  | nil => exact hgaps
  | cons s rest ih =>
    obtain ⟨hle, hrest⟩ := h
    rw [gapsFrom_cons hle, List.append_eq_nil_iff] at hgaps
    rw [pieces, hgaps.1, ih (hrest.of_le (Nat.le_max_left _ _)) hgaps.2]
    by_cases hempty : s.isEmpty <;> simp [hempty]

/-- A text without gaps is put together of its tokens, if none is empty. -/
theorem Tokenizer.Scans.join_of_gapless {K : Type} {definitions : List (Definition K)}
    {text : String} {tokens : List (Token K)} (h : Scans definitions (Cursor.start text) tokens)
    (hpos : ∀ t ∈ tokens, 0 < t.span.length)
    (hgaps : gapsFrom text.utf8ByteSize 0 (tokens.map (·.span)) = []) :
    String.join (tokens.map (·.text)) = text := by
  have hparts := h.partitions
  have hascending : Ascending 0 (tokens.map (·.span)) := h.ascending
  have hfull : (tokens.map (·.span)).filter (¬ ·.isEmpty) = tokens.map (·.span) := by
    refine List.filter_eq_self.2 (List.forall_mem_map.2 fun t ht => ?_)
    have hlength := hpos t ht
    simpa [Span.isEmpty] using Nat.ne_of_gt hlength
  have htiles : Tiles 0 (tokens.map (·.span)) text.utf8ByteSize := by
    have hpieces := tiles_pieces hascending
      (fun s hs => hparts.inside s (List.mem_append_left _ (by simpa using hs))) (Nat.zero_le _)
    rwa [pieces_of_gapless hascending hgaps, hfull] at hpieces
  have hjoin := Tiles.join_textAt (Cursor.Leads.refl _) htiles fun s hs => (h.isValid hs).2
  have htexts : (tokens.map (·.span)).map (textAt text) = tokens.map (·.text) := by
    rw [List.map_map]
    refine List.map_congr_left fun t ht => ?_
    exact (congrArg Token.text (hparts.cut t (by simpa using ht))).symm
  rw [htexts] at hjoin
  exact hjoin.trans String.ofList_toList

namespace GrammarText

/-! ## Lexemes that run together -/

namespace Symbol

variable {s : Symbol} {text text' : List Char} {x : Char}

/-- What a symbol without a spelling of its own begins with, it also goes on with. -/
theorem continues_self (hfree : s.fixed? = none) (h : s.begins x) : s.continues x := by
  cases s with
  | identifier => exact (continuesIdentifier_iff x).2 (.inr h)
  | blank => exact h
  | _ => cases hfree

/-- All symbols but those of identifiers and white space have one spelling. -/
theorem isSome_fixed? (hidentifier : s ≠ .identifier) (hblank : s ≠ .blank) :
    s.fixed?.isSome := by
  cases s with
  | identifier => exact absurd rfl hidentifier
  | blank => exact absurd rfl hblank
  | _ => rfl

/-- Two lexemes of a symbol without a spelling of its own make one. -/
theorem spells_append (hfree : s.fixed? = none) (h : s.spells text) (h' : s.spells text') :
    s.spells (text ++ text') := by
  obtain ⟨x, rest, rfl, hx⟩ := begins_of_spells h
  obtain ⟨y, rest', rfl, hy⟩ := begins_of_spells h'
  have hy' := continues_self hfree hy
  simp only [spells, hfree, List.cons_append, List.all_append, List.all_cons, Bool.and_eq_true]
    at h h' ⊢
  exact ⟨h.1, h.2, hy', h'.2⟩

end Symbol

theorem Lexemes.nil : Lexemes [] := ⟨nofun, .nil⟩

/-- One more lexeme that can be told apart from the next. -/
theorem Lexemes.cons {l : Lexeme} {ls : List Lexeme} (hl : l.symbol.spells l.text.toList)
    (hapart : ∀ l' ∈ ls.head?, l.symbol = l'.symbol → l.symbol.fixed?.isSome) (h : Lexemes ls) :
    Lexemes (l :: ls) :=
  ⟨List.forall_mem_cons.2 ⟨hl, h.spelled⟩, List.isChain_cons.2 ⟨hapart, h.apart⟩⟩

/-- **A text that is put together of lexemes is put together of some that can be told apart.** -/
theorem exists_lexemes_join {ls : List Lexeme} (h : ∀ l ∈ ls, l.symbol.spells l.text.toList) :
    ∃ ls', Lexemes ls' ∧ Lexeme.join ls' = Lexeme.join ls := by
  induction ls with
  | nil => exact ⟨[], .nil, rfl⟩
  | cons l ls ih =>
    obtain ⟨hl, hls⟩ := List.forall_mem_cons.1 h
    obtain ⟨ls', hls', hjoin⟩ := ih hls
    by_cases hapart : ∀ l' ∈ ls'.head?, l.symbol = l'.symbol → l.symbol.fixed?.isSome
    · exact ⟨l :: ls', hls'.cons hl hapart, by simp [hjoin]⟩
    · -- The lexeme runs together with the next, which keeps its symbol.
      simp only [not_forall] at hapart
      obtain ⟨l', hhead, hsame, hfree⟩ := hapart
      obtain ⟨rest, rfl⟩ := List.head?_eq_some_iff.1 hhead
      have hfree : l.symbol.fixed? = none := by simpa using hfree
      have hl' := hls'.spelled l' List.mem_cons_self
      refine ⟨⟨l.symbol, l.text ++ l'.text⟩ :: rest, ⟨?_, ?_⟩, ?_⟩
      · refine List.forall_mem_cons.2 ⟨?_, hls'.tail.spelled⟩
        rw [String.toList_append]
        exact Symbol.spells_append hfree hl (hsame ▸ hl')
      · rw [hsame]
        exact List.isChain_cons.2 (List.isChain_cons.1 hls'.apart)
      · rw [Lexeme.join_cons, String.append_assoc, ← Lexeme.join_cons, hjoin, Lexeme.join_cons]

/-- The tokens of a scan are lexemes, and not empty. -/
theorem spelled_of_scans {c : Cursor} {tokens : List (Token Symbol)} {t : Token Symbol}
    (h : Tokenizer.Scans tokenizer.definitions c tokens) (ht : t ∈ tokens) :
    t.tag.spells t.text.toList ∧ 0 < t.span.length := by
  obtain ⟨e, d, hit, -, hwins, rfl⟩ := h.exists_wins ht
  have hfirst := Definition.find_eq_some_iff.1 hwins.found
  obtain ⟨before, after, hsplit, -⟩ := hwins.leading
  have hmem : d ∈ tokenizer.definitions := hsplit ▸ List.mem_append_right _ List.mem_cons_self
  obtain ⟨s, -, rfl⟩ := List.mem_map.1 hmem
  obtain ⟨text, others, hrest, hlength, hspells⟩ := Symbol.spells_of_matchAt hfirst.matches_start
  obtain ⟨x, rest, htext, -⟩ := Symbol.begins_of_spells hspells
  constructor
  · have hlexeme : (hit.token s.definition.tag).text = String.ofList text := by
      change hit.start.lexeme hit.length = _
      rw [Cursor.lexeme, hrest, hlength, Cursor.takeBytes_append, String.empty_append]
    rw [hlexeme, String.toList_ofList]
    exact hspells
  · change 0 < hit.length
    have hx := x.utf8Size_pos
    rw [hlength, htext, String.utf8Len_cons]
    omega

/-- A text is put together of lexemes. -/
def IsComposed (text : String) : Prop :=
  ∃ ls : List Lexeme, (∀ l ∈ ls, l.symbol.spells l.text.toList) ∧ Lexeme.join ls = text

/-- **The texts without gaps are those that are put together of lexemes.** -/
theorem gaps_eq_nil_iff (text : String) :
    (tokenizer.tokenize text).gaps = [] ↔ IsComposed text := by
  constructor
  · intro hgaps
    obtain ⟨tokens, hscans, htokenize⟩ := tokenizer.exists_tokenize text
    rw [htokenize] at hgaps
    refine ⟨tokens.map Lexeme.ofToken, ?_, ?_⟩
    · exact List.forall_mem_map.2 fun t ht => (spelled_of_scans hscans ht).1
    · rw [Lexeme.join, List.map_map]
      exact hscans.join_of_gapless (fun t ht => (spelled_of_scans hscans ht).2) hgaps
  · rintro ⟨ls, hls, rfl⟩
    obtain ⟨ls', hls', hjoin⟩ := exists_lexemes_join hls
    rw [← hjoin]
    exact hls'.tokenize.2

/-! ## White space between lexemes -/

/-- A way to write lexemes: white space before the first and after each, and not none between two
identifiers. -/
structure Spacing where
  margin : String
  items : List (Lexeme × String)
  margin_blank : Text.allBlank margin
  spelled : ∀ item ∈ items, item.1.symbol.spells item.1.text.toList
  inked : ∀ item ∈ items, item.1.symbol ≠ .blank
  blank : ∀ item ∈ items, Text.allBlank item.2
  apart : items.IsChain fun x y =>
    x.1.symbol = .identifier → y.1.symbol = .identifier → x.2 ≠ ""

/-- The lexeme of white space, if there is some. -/
def Lexeme.ofBlank (text : String) : List Lexeme := if text = "" then [] else [⟨.blank, text⟩]

namespace Spacing

variable {items : List (Lexeme × String)}

/-- The lexemes that are written. -/
def lexemes (s : Spacing) : List Lexeme := s.items.map (·.1)

/-- The text that is written. -/
def text (s : Spacing) : String :=
  s.margin ++ String.join (s.items.map fun item => item.1.text ++ item.2)

/-- Lexemes and the white space after each, if there is some. -/
def written (items : List (Lexeme × String)) : List Lexeme :=
  items.flatMap fun item => item.1 :: Lexeme.ofBlank item.2

/-- All lexemes that are not white space can be written, with one space after each. -/
theorem exists_lexemes_eq {ls : List Lexeme} (hspelled : ∀ l ∈ ls, l.symbol.spells l.text.toList)
    (hinked : ∀ l ∈ ls, l.symbol ≠ .blank) : ∃ s : Spacing, s.lexemes = ls := by
  have hspace : ∀ item ∈ ls.map (·, " "), item.2 = " " := List.forall_mem_map.2 fun _ _ => rfl
  refine ⟨⟨"", ls.map (·, " "), rfl, List.forall_mem_map.2 hspelled, List.forall_mem_map.2 hinked,
    fun item hitem => hspace item hitem ▸ rfl, ?_⟩, ?_⟩
  · refine List.Pairwise.isChain (List.pairwise_of_forall_mem_list fun item hitem _ _ _ _ => ?_)
    rw [hspace item hitem]
    decide
  · rw [lexemes, List.map_map]
    exact List.map_id ls

theorem written_cons (item : Lexeme × String) (items : List (Lexeme × String)) :
    written (item :: items) = item.1 :: (Lexeme.ofBlank item.2 ++ written items) := rfl

theorem join_ofBlank (text : String) : Lexeme.join (Lexeme.ofBlank text) = text := by
  rw [Lexeme.ofBlank]
  split
  · next hempty => exact hempty.symm
  · simp

theorem filter_ofBlank (text : String) :
    (Lexeme.ofBlank text).filter (·.symbol ≠ .blank) = [] := by
  rw [Lexeme.ofBlank]
  split <;> simp

/-- White space can be told apart from what is not. -/
theorem lexemes_ofBlank {text : String} {ls : List Lexeme} (hblank : Text.allBlank text)
    (h : Lexemes ls) (hfirst : ∀ l ∈ ls.head?, l.symbol ≠ .blank) :
    Lexemes (Lexeme.ofBlank text ++ ls) := by
  rw [Lexeme.ofBlank]
  split
  · exact h
  · next hne =>
    refine h.cons ?_ fun l hl hsame => absurd hsame.symm (hfirst l hl)
    obtain ⟨x, rest, htext⟩ : ∃ x rest, text.toList = x :: rest :=
      List.exists_cons_of_ne_nil (by simpa using hne)
    rw [Text.allBlank, htext, List.all_cons, Bool.and_eq_true] at hblank
    simp only [Symbol.spells, Symbol.fixed?, htext, Bool.and_eq_true]
    exact hblank

/-- **Lexemes and the white space between them can be told apart**, if there is some wherever two
identifiers meet. -/
theorem lexemes_written (hspelled : ∀ item ∈ items, item.1.symbol.spells item.1.text.toList)
    (hinked : ∀ item ∈ items, item.1.symbol ≠ .blank)
    (hblank : ∀ item ∈ items, Text.allBlank item.2)
    (hapart : items.IsChain fun x y =>
      x.1.symbol = .identifier → y.1.symbol = .identifier → x.2 ≠ "") :
    Lexemes (written items) ∧ ∀ l ∈ (written items).head?, l.symbol ≠ .blank := by
  induction items with
  | nil => exact ⟨.nil, nofun⟩
  | cons item items ih =>
    obtain ⟨hspells, hspelled⟩ := List.forall_mem_cons.1 hspelled
    obtain ⟨hink, hinked⟩ := List.forall_mem_cons.1 hinked
    obtain ⟨hblank, hblanks⟩ := List.forall_mem_cons.1 hblank
    obtain ⟨hnext, hapart⟩ := List.isChain_cons.1 hapart
    obtain ⟨hrest, hfirst⟩ := ih hspelled hinked hblanks hapart
    rw [written_cons]
    refine ⟨(lexemes_ofBlank hblank hrest hfirst).cons hspells ?_, by simpa using hink⟩
    intro l hl hsame
    by_cases hempty : item.2 = ""
    · -- Nothing is between the lexeme and the next, so not both are identifiers.
      rw [hempty, Lexeme.ofBlank, if_pos rfl, List.nil_append] at hl
      refine Symbol.isSome_fixed? (fun hidentifier => ?_) hink
      cases items with
      | nil => cases hl
      | cons next items =>
        cases hl
        exact hnext next rfl hidentifier (hsame ▸ hidentifier) hempty
    · rw [Lexeme.ofBlank, if_neg hempty] at hl
      cases hl
      exact absurd hsame hink

theorem join_written (items : List (Lexeme × String)) :
    Lexeme.join (written items) = String.join (items.map fun item => item.1.text ++ item.2) := by
  induction items with
  | nil => rfl
  | cons item items ih =>
    rw [written_cons, Lexeme.join_cons, Lexeme.join_append, join_ofBlank, ih, List.map_cons,
      String.join_cons, String.append_assoc]

theorem filter_written (hinked : ∀ item ∈ items, item.1.symbol ≠ .blank) :
    (written items).filter (·.symbol ≠ .blank) = items.map (·.1) := by
  induction items with
  | nil => rfl
  | cons item items ih =>
    obtain ⟨hink, hinked⟩ := List.forall_mem_cons.1 hinked
    rw [written_cons, List.filter_cons_of_pos (by simpa using hink), List.filter_append,
      filter_ofBlank, List.nil_append, ih hinked, List.map_cons]

/-- **Whatever the white space is, the tokens are the lexemes**, and there is no gap. -/
theorem tokenize (s : Spacing) :
    (tokenizer.tokenize s.text).gaps = [] ∧
      ((tokenizer.tokenize s.text).without .blank).toList.map Lexeme.ofToken = s.lexemes := by
  obtain ⟨hwritten, hfirst⟩ := lexemes_written s.spelled s.inked s.blank s.apart
  have hlexemes := lexemes_ofBlank s.margin_blank hwritten hfirst
  have htext : Lexeme.join (Lexeme.ofBlank s.margin ++ written s.items) = s.text := by
    rw [Lexeme.join_append, join_ofBlank, join_written, text]
  rw [← htext]
  refine ⟨hlexemes.tokenize.2, ?_⟩
  rw [hlexemes.without_blank, List.filter_append, filter_ofBlank, List.nil_append,
    filter_written s.inked, lexemes]

end Spacing

/-! ## What reading reports -/

/-- A piece of a text that starts at an offset and has no token in it, the first such, and as long
as can be. -/
structure FirstGap (text : String) (offset : Nat) (snippet : String) : Prop where
  cut : ∃ before after, text = before ++ snippet ++ after ∧ before.utf8ByteSize = offset
  nonempty : snippet ≠ ""
  first : ∀ byte < offset, ∃ t ∈ (tokenizer.tokenize text).tokens.toList, t.span.covers byte
  uncovered : ∀ byte, offset ≤ byte → byte < offset + snippet.utf8ByteSize →
    ∀ t ∈ (tokenizer.tokenize text).tokens.toList, ¬ t.span.covers byte
  maximal : offset + snippet.utf8ByteSize = text.utf8ByteSize ∨
    ∃ t ∈ (tokenizer.tokenize text).tokens.toList,
      t.span.covers (offset + snippet.utf8ByteSize)

/-- The first gap of a scan is the first piece of the text without a token in it. -/
theorem firstGap_of_gaps {text : String} {gap : Span} {others : List Span}
    (hgaps : (tokenizer.tokenize text).gaps = gap :: others) :
    FirstGap text gap.start (textAt text gap) := by
  obtain ⟨tokens, hscans, htokenize⟩ := tokenizer.exists_tokenize text
  have hparts : (tokenizer.tokenize text).Partitions text := by
    rw [htokenize]
    exact hscans.partitions
  have hpos : ∀ t ∈ (tokenizer.tokenize text).tokens.toList, 0 < t.span.length := by
    rw [htokenize]
    exact fun t ht => (spelled_of_scans hscans ht).2
  have hgap : gap ∈ (tokenizer.tokenize text).gaps := hgaps ▸ List.mem_cons_self
  obtain ⟨hstart, hstop⟩ := hparts.valid gap (List.mem_append_right _ hgap)
  obtain ⟨before, after, htext, hbefore, hlength⟩ := textAt_spec hstart hstop
  constructor
  case cut => exact ⟨before, after, htext, hbefore⟩
  case nonempty =>
    intro hempty
    have hgap := hparts.gaps_pos gap hgap
    rw [← hlength, hempty] at hgap
    exact absurd hgap (Nat.lt_irrefl 0)
  case first => exact fun byte hbyte => hparts.covers_before hgaps hbyte
  case uncovered =>
    intro byte hle hlt
    refine hparts.not_covers hgap ?_
    rw [hlength] at hlt
    rw [Span.covers, Bool.and_eq_true, decide_eq_true_eq, decide_eq_true_eq]
    exact ⟨hle, hlt⟩
  case maximal =>
    rw [hlength]
    exact hparts.gap_maximal hgap hpos

/-- Reading tokens never reports a gap. -/
theorem readTokens_ne_unrecognized (tokens : Array (Token Symbol)) (offset : Nat)
    (snippet : String) : readTokens tokens ≠ .error (.unrecognized offset snippet) := by
  rw [readTokens]
  dsimp only
  split <;> exact nofun

/-- White space is put together of lexemes. -/
theorem isComposed_of_allBlank {text : String} (h : Text.allBlank text) : IsComposed text := by
  have hlexemes := Spacing.lexemes_ofBlank h .nil (by simp)
  rw [List.append_nil] at hlexemes
  exact ⟨_, hlexemes.spelled, Spacing.join_ofBlank text⟩

/-- Reading reports the first gap of a text that is not put together of lexemes. -/
theorem read_unrecognized (text : String) :
    (IsComposed text ∧ ∀ offset snippet, read text ≠ .error (.unrecognized offset snippet)) ∨
      ¬ IsComposed text ∧ ∃ offset snippet,
        read text = .error (.unrecognized offset snippet) ∧ FirstGap text offset snippet := by
  cases hblank : Text.allBlank text with
  | true =>
    refine .inl ⟨isComposed_of_allBlank hblank, fun offset snippet h => ?_⟩
    rw [read, if_pos hblank] at h
    cases h
  | false =>
    cases hgaps : (tokenizer.tokenize text).gaps with
    | nil =>
      refine .inl ⟨(gaps_eq_nil_iff text).1 hgaps, fun offset snippet h => ?_⟩
      simp only [read, hblank, hgaps, Bool.false_eq_true, if_false] at h
      exact readTokens_ne_unrecognized _ _ _ h
    | cons gap others =>
      refine .inr ⟨fun hcomposed => ?_, gap.start, textAt text gap, ?_, firstGap_of_gaps hgaps⟩
      · cases hgaps.symm.trans ((gaps_eq_nil_iff text).2 hcomposed)
      · simp only [read, hblank, hgaps, Bool.false_eq_true, if_false]
        rfl

/-- **White space between the lexemes of grammar text says nothing**: however lexemes are spaced,
the text has no gap, and without white space its tokens are the lexemes. And reading reports a gap
just if a text is not put together of lexemes; then it is the first one. -/
theorem tokenize_spaced :
    (∀ s : Spacing, (tokenizer.tokenize s.text).gaps = [] ∧
      ((tokenizer.tokenize s.text).without .blank).toList.map Lexeme.ofToken = s.lexemes) ∧
    ∀ text : String,
      ((∃ offset snippet, read text = .error (.unrecognized offset snippet)) ↔
        ¬ IsComposed text) ∧
      ∀ offset snippet, read text = .error (.unrecognized offset snippet) →
        FirstGap text offset snippet := by
  refine ⟨Spacing.tokenize, fun text => ?_⟩
  rcases read_unrecognized text with ⟨hcomposed, hnever⟩ | ⟨hnot, offset, snippet, hread, hfirst⟩
  · refine ⟨iff_of_false (fun ⟨offset, snippet, h⟩ => hnever offset snippet h)
      (not_not_intro hcomposed), fun offset snippet h => absurd h (hnever offset snippet)⟩
  · refine ⟨iff_of_true ⟨offset, snippet, hread⟩ hnot, fun offset' snippet' h => ?_⟩
    cases hread.symm.trans h
    exact hfirst

end GrammarText

end Packrat
