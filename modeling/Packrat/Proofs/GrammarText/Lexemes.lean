import Packrat.GrammarText.Grammar
import Packrat.Proofs.Lexer.Partition
import Packrat.Proofs.Lexer.Words

/-!
# Lexemes of grammar text

A symbol of grammar text has one spelling, or it is an identifier or white space and goes on as long
as the text does (`Symbol.spells`). At a position where a lexeme begins, the pattern of its symbol
matches just that lexeme (`Symbol.matchAt_of_spells`) and no other pattern matches
(`Symbol.matchAt_eq_none`), because the first character tells the symbols apart.

So a text that is written as lexemes, neither two identifiers nor two pieces of white space next to
one another (`Lexemes`), is cut into these lexemes and has no gap (`Lexemes.tokenize`). What is read
from it are the lexemes that are not white space (`Lexemes.read`).
-/

namespace Packrat.GrammarText

open String (utf8Len)

/-! ## Spellings -/

/-- Whether identifiers begin with a character. -/
def beginsIdentifier (x : Char) : Bool := x.isAlpha || x == '_'

/-- Whether identifiers go on with a character. -/
def continuesIdentifier (x : Char) : Bool := x.isAlphanum || x == '_'

/-- Whether a text is an identifier. -/
def isIdentifier (text : String) : Bool :=
  match text.toList with
  | [] => false
  | x :: rest => beginsIdentifier x && rest.all continuesIdentifier

namespace Symbol

/-- The spelling of a symbol that has only one. -/
def fixed? : Symbol → Option (List Char)
  | .identifier => none
  | .openSquare => some ['[']
  | .closeSquare => some [']']
  | .openRound => some ['(']
  | .closeRound => some [')']
  | .blank => none
  | .ampersand => some ['&']
  | .bang => some ['!']
  | .plus => some ['+']
  | .star => some ['*']
  | .question => some ['?']
  | .bar => some ['|']
  | .arrow => some ['=', '>']
  | .semicolon => some [';']

/-- Whether the lexemes of a symbol begin with a character. -/
def begins : Symbol → Char → Bool
  | .identifier, x => beginsIdentifier x
  | .blank, x => Text.isBlank x
  | s, x => s.fixed?.bind List.head? == some x

/-- Whether the lexemes of a symbol go on as long as there are such characters. -/
def continues : Symbol → Char → Bool
  | .identifier, x => continuesIdentifier x
  | .blank, x => Text.isBlank x
  | _, _ => false

/-- Whether a text is a lexeme of a symbol. -/
def spells (s : Symbol) (text : List Char) : Bool :=
  match s.fixed?, text with
  | some chars, text => chars == text
  | none, [] => false
  | none, x :: rest => s.begins x && rest.all s.continues

theorem spells_identifier (text : String) :
    Symbol.identifier.spells text.toList = isIdentifier text := by
  rw [isIdentifier]
  cases text.toList <;> rfl

end Symbol

/-! ## Characters -/

/-- A code point in a table lies in one of its ranges. -/
theorem exists_range_of_holds {point : Nat} {table : Text.Ranges}
    (h : Text.Ranges.holds point table = true) : ∃ r ∈ table, r.1 ≤ point ∧ point ≤ r.2 := by
  induction table with
  | nil => cases h
  | cons r rest ih =>
    rw [Text.Ranges.holds] at h
    split at h
    · cases h
    · next hlow =>
      split at h
      · next hhigh => exact ⟨r, List.mem_cons_self, by omega, hhigh⟩
      · obtain ⟨r', hr', hbounds⟩ := ih h
        exact ⟨r', List.mem_cons_of_mem r hr', hbounds⟩

theorem beginsIdentifier_iff (x : Char) : beginsIdentifier x = true ↔
    65 ≤ x.toNat ∧ x.toNat ≤ 90 ∨ x.toNat = 95 ∨ 97 ≤ x.toNat ∧ x.toNat ≤ 122 := by
  have hline : x = '_' ↔ x.toNat = 95 := ⟨congrArg Char.toNat, fun h => Char.toNat_inj.1 h⟩
  have hletter : x.isAlpha =
      (decide (65 ≤ x.val ∧ x.val ≤ 90) || decide (97 ≤ x.val) && decide (x.val ≤ 122)) := rfl
  rw [beginsIdentifier, hletter]
  simp only [Bool.or_eq_true, Bool.and_eq_true, decide_eq_true_eq, beq_iff_eq,
    UInt32.le_iff_toNat_le, hline]
  change ((65 ≤ x.toNat ∧ x.toNat ≤ 90) ∨ 97 ≤ x.toNat ∧ x.toNat ≤ 122) ∨ x.toNat = 95 ↔ _
  omega

theorem continuesIdentifier_iff (x : Char) : continuesIdentifier x = true ↔
    48 ≤ x.toNat ∧ x.toNat ≤ 57 ∨ beginsIdentifier x = true := by
  have hmember : x.isAlphanum =
      (x.isAlpha || decide (48 ≤ x.val) && decide (x.val ≤ 57)) := rfl
  rw [continuesIdentifier, hmember, beginsIdentifier]
  simp only [Bool.or_eq_true, Bool.and_eq_true, decide_eq_true_eq, UInt32.le_iff_toNat_le]
  change (_ ∨ 48 ≤ x.toNat ∧ x.toNat ≤ 57) ∨ _ ↔ _
  rw [or_comm (b := 48 ≤ x.toNat ∧ x.toNat ≤ 57), or_assoc]

theorem holds_identifierHead (x : Char) :
    CharSet.holds ⟨[(65, 90), (95, 95), (97, 122)]⟩ x = beginsIdentifier x := by
  rw [Bool.eq_iff_iff, beginsIdentifier_iff]
  simp only [CharSet.holds, Text.Ranges.holds]
  split_ifs <;> simp <;> omega

theorem holds_identifierTail (x : Char) :
    CharSet.holds ⟨[(48, 57), (65, 90), (95, 95), (97, 122)]⟩ x = continuesIdentifier x := by
  rw [Bool.eq_iff_iff, continuesIdentifier_iff, beginsIdentifier_iff]
  simp only [CharSet.holds, Text.Ranges.holds]
  split_ifs <;> simp <;> omega

/-- White space is not part of identifiers. -/
theorem continuesIdentifier_of_isBlank {x : Char} (h : Text.isBlank x = true) :
    continuesIdentifier x = false := by
  obtain ⟨r, hr, hlow, hhigh⟩ := exists_range_of_holds h
  have hapart : ∀ r ∈ Text.blankRanges, r.2 < 48 ∨ 122 < r.1 := by decide
  have hr := hapart r hr
  rw [← Bool.not_eq_true, continuesIdentifier_iff, beginsIdentifier_iff]
  omega

/-- Identifiers do not begin with white space. -/
theorem beginsIdentifier_of_isBlank {x : Char} (h : Text.isBlank x = true) :
    beginsIdentifier x = false := by
  have hnot := continuesIdentifier_of_isBlank h
  rw [Bool.eq_false_iff, Ne, continuesIdentifier_iff] at hnot
  exact Bool.eq_false_iff.2 fun hbegins => hnot (.inr hbegins)

namespace Symbol

variable {s s' : Symbol} {x : Char} {chars text others : List Char} {c : Cursor} {n : Nat}

/-- The symbol whose lexemes begin with a character. -/
def ofFirst? (x : Char) : Option Symbol :=
  if beginsIdentifier x then some .identifier
  else if Text.isBlank x then some .blank
  else all.find? fun s => s.fixed?.bind List.head? == some x

/-- **The first character tells the symbols apart.** -/
theorem ofFirst?_of_begins (h : s.begins x) : ofFirst? x = some s := by
  cases s with
  | identifier => exact if_pos h
  | blank =>
    have hblank : Text.isBlank x = true := h
    simp [ofFirst?, beginsIdentifier_of_isBlank h, hblank]
  | _ =>
    cases beq_iff_eq.1 h
    decide

/-- A lexeme that is followed by a lexeme of another symbol does not go on there. -/
theorem continues_of_begins (h : s'.begins x) (hne : s = s' → s.fixed?.isSome) :
    s.continues x = false := by
  cases s with
  | identifier =>
    cases s' with
    | identifier => cases hne rfl
    | blank => exact continuesIdentifier_of_isBlank h
    | _ =>
      cases beq_iff_eq.1 h
      decide
  | blank =>
    cases s' with
    | identifier =>
      refine Bool.eq_false_iff.2 fun hblank => ?_
      have hbegins : beginsIdentifier x = true := h
      rw [beginsIdentifier_of_isBlank hblank] at hbegins
      cases hbegins
    | blank => cases hne rfl
    | _ =>
      cases beq_iff_eq.1 h
      decide
  | _ => rfl

/-! ## Matches -/

/-- The pattern of a symbol with one spelling is a literal. -/
theorem pattern_of_fixed? (h : s.fixed? = some chars) : s.pattern = .literal chars := by
  cases s <;> cases h <;> decide

/-- A symbol matches what the program of its pattern matches. -/
theorem matchAt_definition (s : Symbol) (c : Cursor) :
    s.definition.matcher.matchAt c = s.pattern.program.matchAt c := rfl

/-- The pattern of a symbol with one spelling matches this spelling. -/
theorem matchAt_of_fixed? (h : s.fixed? = some chars) (c : Cursor) :
    s.definition.matcher.matchAt c =
      if chars <+: c.rest then some (utf8Len chars) else none := by
  rw [matchAt_definition, pattern_of_fixed? h, Pattern.matchAt_literal]

theorem pattern_identifier : pattern .identifier =
    .seq (.char ⟨[(65, 90), (95, 95), (97, 122)]⟩)
      (.rep true 0 none (.char ⟨[(48, 57), (65, 90), (95, 95), (97, 122)]⟩)) := by
  decide

theorem pattern_blank : pattern .blank = .rep true 1 none (.char .blank) := by decide

/-- The pattern of identifiers matches the longest one. -/
theorem matchAt_identifier (c : Cursor) :
    (definition .identifier).matcher.matchAt c =
      match c.rest with
      | [] => none
      | x :: rest =>
        if beginsIdentifier x then
          some (x.utf8Size + utf8Len (rest.takeWhile continuesIdentifier))
        else none := by
  generalize hhead : (⟨[(65, 90), (95, 95), (97, 122)]⟩ : CharSet) = head
  generalize htail : (⟨[(48, 57), (65, 90), (95, 95), (97, 122)]⟩ : CharSet) = tail
  have hprogram : (pattern .identifier).program =
      #[.char head, .fork 2 4, .char tail, .jump 1, .accept] := by
    rw [pattern_identifier, ← hhead, ← htail]
    rfl
  have hfirst : ∀ edge, (pattern .identifier).program.threads edge [1] = [2, 4] := by
    rw [hprogram]
    exact fun edge => rfl
  have hturn : ∀ edge, (pattern .identifier).program.threads edge [3] = [2, 4] := by
    rw [hprogram]
    exact fun edge => rfl
  have hbegin : head.holds = beginsIdentifier := by
    rw [← hhead]
    exact funext holds_identifierHead
  have hcontinue : tail.holds = continuesIdentifier := by
    rw [← htail]
    exact funext holds_identifierTail
  rw [matchAt_definition, ← hbegin, ← hcontinue]
  refine Program.matchAt_word ?_ ?_ ?_ hfirst hturn ?_ ?_ c <;> rw [hprogram]
  · exact fun edge => rfl
  · rfl
  · exact fun x => rfl
  · rfl
  · exact fun x => rfl

/-- The pattern of white space matches as much as there is. -/
theorem matchAt_blank (c : Cursor) :
    (definition .blank).matcher.matchAt c =
      match c.rest with
      | [] => none
      | x :: rest =>
        if Text.isBlank x then some (x.utf8Size + utf8Len (rest.takeWhile Text.isBlank))
        else none := by
  have hprogram : (pattern .blank).program =
      #[.char .blank, .fork 0 2, .accept] := by
    rw [pattern_blank]
    rfl
  have hturn : ∀ edge, (pattern .blank).program.threads edge [1] = [0, 2] := by
    rw [hprogram]
    exact fun edge => rfl
  have hblank : CharSet.blank.holds = Text.isBlank := rfl
  rw [matchAt_definition, ← hblank]
  refine Program.matchAt_word ?_ ?_ ?_ hturn hturn ?_ ?_ c <;> rw [hprogram]
  · exact fun edge => rfl
  · rfl
  · exact fun x => rfl
  · rfl
  · exact fun x => rfl

/-- The pattern of a symbol without a spelling of its own matches the longest lexeme. -/
theorem matchAt_of_free (h : s.fixed? = none) (c : Cursor) :
    s.definition.matcher.matchAt c =
      match c.rest with
      | [] => none
      | x :: rest =>
        if s.begins x then some (x.utf8Size + utf8Len (rest.takeWhile s.continues)) else none := by
  cases s with
  | identifier => exact matchAt_identifier c
  | blank => exact matchAt_blank c
  | _ => cases h

/-- A lexeme begins with a character that the lexemes of its symbol begin with. -/
theorem begins_of_spells (h : s.spells text) : ∃ x rest, text = x :: rest ∧ s.begins x := by
  cases s with
  | identifier | blank =>
    cases text with
    | nil => cases h
    | cons x rest => exact ⟨x, rest, rfl, (Bool.and_eq_true _ _ ▸ h).1⟩
  | _ =>
    cases beq_iff_eq.1 h
    exact ⟨_, _, rfl, rfl⟩

/-- **What a symbol matches is one of its lexemes.** -/
theorem spells_of_matchAt (h : s.definition.matcher.matchAt c = some n) :
    ∃ text others, c.rest = text ++ others ∧ n = utf8Len text ∧ s.spells text := by
  cases hfixed : s.fixed? with
  | some chars =>
    rw [matchAt_of_fixed? hfixed] at h
    split at h
    · next hchars =>
      obtain ⟨others, hothers⟩ := hchars
      cases h
      exact ⟨chars, others, hothers.symm, rfl, by simp [spells, hfixed]⟩
    · cases h
  | none =>
    rw [matchAt_of_free hfixed] at h
    split at h
    · cases h
    · next x rest hrest =>
      split at h
      · next hx =>
        cases h
        refine ⟨x :: rest.takeWhile s.continues, rest.dropWhile s.continues, ?_, ?_, ?_⟩
        · rw [hrest, List.cons_append, List.takeWhile_append_dropWhile]
        · rw [String.utf8Len_cons, Nat.add_comm]
        · simp only [spells, hfixed, hx, Bool.true_and, List.all_takeWhile]
      · cases h

/-- A symbol matches only where one of its lexemes can begin. -/
theorem begins_of_matchAt (h : s.definition.matcher.matchAt c = some n) :
    ∃ x rest, c.rest = x :: rest ∧ s.begins x := by
  obtain ⟨text, others, hrest, -, hspells⟩ := spells_of_matchAt h
  obtain ⟨x, rest, rfl, hx⟩ := begins_of_spells hspells
  exact ⟨x, rest ++ others, hrest, hx⟩

/-- Nothing is found at the end of a text. -/
theorem find_eq_none (h : c.rest = []) : ∀ d ∈ tokenizer.definitions, d.find c = none := by
  intro d hd
  obtain ⟨s, -, rfl⟩ := List.mem_map.1 hd
  refine Definition.find_eq_none_iff.2 fun e he => ?_
  rw [he.end_of_nil h]
  cases hmatch : s.definition.matcher.matchAt c with
  | none => rfl
  | some n =>
    obtain ⟨x, rest, hrest, -⟩ := begins_of_matchAt hmatch
    cases h.symm.trans hrest

/-- **Where a lexeme stands that does not go on, its symbol matches the lexeme.** -/
theorem matchAt_of_spells (h : s.spells text) (hrest : c.rest = text ++ others)
    (hends : ∀ x ∈ others.head?, s.continues x = false) :
    s.definition.matcher.matchAt c = some (utf8Len text) := by
  cases hfixed : s.fixed? with
  | some chars =>
    have htext : chars = text := by simpa [spells, hfixed] using h
    subst htext
    rw [matchAt_of_fixed? hfixed, hrest, if_pos (List.prefix_append chars others)]
  | none =>
    obtain ⟨x, rest, rfl, hx⟩ := begins_of_spells h
    have hall : ∀ y ∈ rest, s.continues y = true := by
      have h := h
      simp only [spells, hfixed, Bool.and_eq_true, List.all_eq_true] at h
      exact h.2
    have hnone : others.takeWhile s.continues = [] := by
      cases others with
      | nil => rfl
      | cons y others => simp [hends y rfl]
    have htake : (rest ++ others).takeWhile s.continues = rest := by
      rw [List.takeWhile_append_of_pos hall, hnone, List.append_nil]
    rw [matchAt_of_free hfixed, hrest]
    simp only [List.cons_append, hx, if_true, htake]
    rw [String.utf8Len_cons, Nat.add_comm]

/-- Where a lexeme stands, no other symbol matches. -/
theorem matchAt_eq_none (hne : s' ≠ s) (h : s.spells text) (hrest : c.rest = text ++ others) :
    s'.definition.matcher.matchAt c = none := by
  cases hmatch : s'.definition.matcher.matchAt c with
  | none => rfl
  | some n =>
    obtain ⟨x, rest, rfl, hx⟩ := begins_of_spells h
    obtain ⟨x', rest', hrest', hx'⟩ := begins_of_matchAt hmatch
    rw [hrest, List.cons_append] at hrest'
    cases hrest'
    have hsame := (ofFirst?_of_begins hx').symm.trans (ofFirst?_of_begins hx)
    exact absurd (Option.some.inj hsame) hne

/-- A symbol wins where one of its lexemes stands. -/
theorem wins_of_spells (h : s.spells text) (hrest : c.rest = text ++ others)
    (hends : ∀ x ∈ others.head?, s.continues x = false) :
    Wins tokenizer.definitions c s.definition ⟨c, utf8Len text⟩ := by
  have hfound : s.definition.find c = some ⟨c, utf8Len text⟩ :=
    Definition.find_eq_some_iff.2 (.here (matchAt_of_spells h hrest hends))
  have hmem : s ∈ all := by cases s <;> decide
  obtain ⟨before, after, hall⟩ := List.append_of_mem hmem
  have hnodup : all.Nodup := by decide
  rw [hall, List.nodup_append, List.nodup_cons] at hnodup
  refine ⟨hfound, before.map definition, after.map definition, ?_, ?_, ?_⟩
  · have hmap := congrArg (List.map definition) hall
    rwa [List.map_append, List.map_cons] at hmap
  · -- The symbols listed before match later if at all.
    intro d hd other hother
    obtain ⟨s', hs', rfl⟩ := List.mem_map.1 hd
    have hne : s' ≠ s := hnodup.2.2 s' hs' s List.mem_cons_self
    have hfirst := Definition.find_eq_some_iff.1 hother
    refine Nat.lt_of_le_of_ne hfirst.leads.offset_le fun hoffset => ?_
    have hmatch := hfirst.matches_start
    rw [hfirst.leads.eq_of_offset_le (Nat.le_of_eq hoffset.symm),
      matchAt_eq_none hne h hrest] at hmatch
    cases hmatch
  · exact fun d _ other hother => (Definition.leads_start hother).offset_le

end Symbol

/-! ## Texts of lexemes -/

/-- A lexeme: its symbol and its text. -/
structure Lexeme where
  symbol : Symbol
  text : String

namespace Lexeme

/-- The lexeme that a token is. -/
def ofToken (t : Token Symbol) : Lexeme := ⟨t.tag, t.text⟩

/-- The text of several lexemes, one after the other. -/
def join (ls : List Lexeme) : String := String.join (ls.map text)

@[simp] theorem join_nil : join [] = "" := rfl

@[simp] theorem join_cons (l : Lexeme) (ls : List Lexeme) : join (l :: ls) = l.text ++ join ls :=
  String.join_cons

@[simp] theorem join_append (ls ls' : List Lexeme) : join (ls ++ ls') = join ls ++ join ls' := by
  rw [join, List.map_append, String.join_append]
  rfl

theorem toList_join (ls : List Lexeme) : (join ls).toList = ls.flatMap (·.text.toList) := by
  rw [join, String.join_eq, String.toList_ofList, List.map_map, List.flatMap_def]
  rfl

end Lexeme

/-- Lexemes that can be told apart once they are written one after the other: two identifiers, or
two pieces of white space, are not next to one another. -/
structure Lexemes (ls : List Lexeme) : Prop where
  spelled : ∀ l ∈ ls, l.symbol.spells l.text.toList
  apart : ls.IsChain fun l l' => l.symbol = l'.symbol → l.symbol.fixed?.isSome

/-- A tiling leaves no gap. -/
theorem gapsFrom_of_tiles {start total : Nat} {spans : List Span} (h : Tiles start spans total) :
    gapsFrom total start spans = [] := by
  induction spans generalizing start with
  | nil =>
    cases h
    simp [gapsFrom]
  | cons s rest ih =>
    obtain ⟨rfl, hpos, hrest⟩ := h
    have hmax : max s.start s.stop = s.stop := Nat.max_eq_right (Nat.le_add_right _ _)
    rw [gapsFrom, if_neg (Nat.lt_irrefl _), hmax, ih hrest]

namespace Lexemes

variable {l : Lexeme} {ls : List Lexeme} {c : Cursor}

theorem tail (h : Lexemes (l :: ls)) : Lexemes ls :=
  ⟨fun l' hl' => h.spelled l' (List.mem_cons_of_mem l hl'), h.apart.of_cons⟩

/-- The first lexeme does not go on after its end. -/
theorem ends (h : Lexemes (l :: ls)) :
    ∀ x ∈ (ls.flatMap (·.text.toList)).head?, l.symbol.continues x = false := by
  cases ls with
  | nil => exact nofun
  | cons l' ls =>
    obtain ⟨y, rest, htext, hy⟩ :=
      Symbol.begins_of_spells (h.spelled l' (List.mem_cons_of_mem l List.mem_cons_self))
    intro x hx
    rw [List.flatMap_cons, htext] at hx
    cases hx
    exact Symbol.continues_of_begins hy (List.isChain_cons_cons.1 h.apart).1

/-- **A text of lexemes is cut into these lexemes**, without a gap between them. -/
theorem scans (h : Lexemes ls) (hrest : c.rest = ls.flatMap (·.text.toList)) :
    ∃ tokens, Tokenizer.Scans tokenizer.definitions c tokens ∧
      tokens.map Lexeme.ofToken = ls ∧
      Tiles c.offset (tokens.map (·.span)) (c.offset + utf8Len c.rest) := by
  induction ls generalizing c with
  | nil =>
    have hend : c.rest = [] := hrest
    refine ⟨[], .nothing (Symbol.find_eq_none hend), rfl, ?_⟩
    rw [hend]
    rfl
  | cons l ls ih =>
    rw [List.flatMap_cons] at hrest
    have hspells := h.spelled l List.mem_cons_self
    obtain ⟨x, rest, htext, -⟩ := Symbol.begins_of_spells hspells
    have hpos : 0 < utf8Len l.text.toList := by
      rw [htext, String.utf8Len_cons]
      have hx := x.utf8Size_pos
      omega
    -- The lexeme wins, its token is the lexeme, and the scan goes on after it.
    have hwins := Symbol.wins_of_spells hspells hrest h.ends
    obtain ⟨d, hd, hdrest, hoffset⟩ := Cursor.exists_leads hrest
    generalize hlength : utf8Len l.text.toList = n at hwins hpos hoffset
    have hresume : Hit.resume ⟨c, n⟩ = d := by
      have hadvance := hd.advance_eq
      rw [hoffset, Nat.add_sub_cancel_left] at hadvance
      rw [Hit.resume, if_neg (Nat.ne_of_gt hpos)]
      exact hadvance
    have htoken : Lexeme.ofToken (Hit.token ⟨c, n⟩ l.symbol.definition.tag) = l := by
      rw [Lexeme.ofToken, Hit.token, Cursor.lexeme, hrest, ← hlength, Cursor.takeBytes_append,
        String.ofList_toList, String.empty_append]
      rfl
    have htotal : c.offset + utf8Len c.rest = d.offset + utf8Len d.rest := by
      rw [hrest, String.utf8Len_append, hlength, hdrest, hoffset, Nat.add_assoc]
    rw [htotal]
    cases ls with
    | nil =>
      have hend : d.rest = [] := hdrest
      refine ⟨_, .last hwins (hresume ▸ hend), congrArg (· :: []) htoken, rfl, hpos, ?_⟩
      rw [hend, hoffset]
      rfl
    | cons l' ls =>
      obtain ⟨tokens, hscans, hmap, htiles⟩ := ih h.tail hdrest
      have hgoes : d.rest ≠ [] := by
        obtain ⟨y, rest', htext', -⟩ :=
          Symbol.begins_of_spells (h.tail.spelled l' List.mem_cons_self)
        rw [hdrest, List.flatMap_cons, htext']
        exact List.cons_ne_nil _ _
      refine ⟨_, .more hwins (hresume ▸ hgoes) (hresume ▸ hscans), ?_, rfl, hpos, ?_⟩
      · rw [List.map_cons, htoken, hmap]
      · have hstop : d.offset = (Hit.token ⟨c, n⟩ l.symbol.definition.tag).span.stop := hoffset
        rw [hstop] at htiles ⊢
        exact htiles

/-- The tokens of a text of lexemes are these lexemes, and there is no gap. -/
theorem tokenize (h : Lexemes ls) :
    (tokenizer.tokenize (Lexeme.join ls)).tokens.toList.map Lexeme.ofToken = ls ∧
      (tokenizer.tokenize (Lexeme.join ls)).gaps = [] := by
  obtain ⟨tokens, hscans, hmap, htiles⟩ :=
    h.scans (c := Cursor.start (Lexeme.join ls)) (Lexeme.toList_join ls)
  have hscan : tokenizer.scan (Lexeme.join ls) = tokens.toArray :=
    hscans.scanFrom (Nat.lt_succ_self _)
  rw [Cursor.offset_add_utf8Len (.refl _)] at htiles
  rw [Tokenizer.tokenize, hscan]
  exact ⟨hmap, gapsFrom_of_tiles htiles⟩

/-- Without the white space, the tokens of a text of lexemes are the others. -/
theorem without_blank (h : Lexemes ls) :
    ((tokenizer.tokenize (Lexeme.join ls)).without .blank).toList.map Lexeme.ofToken =
      ls.filter (·.symbol ≠ .blank) := by
  have hmap := h.tokenize.1
  rw [Scan.without, Array.toList_filter]
  generalize (tokenizer.tokenize (Lexeme.join ls)).tokens.toList = tokens at hmap
  rw [← hmap, List.filter_map]
  rfl

/-- **What is read from a text of lexemes are the lexemes that are not white space**, if there is
one. -/
theorem read (h : Lexemes ls) (hl : l ∈ ls) (hsymbol : l.symbol ≠ .blank) :
    ∃ tokens : Array (Token Symbol), read (Lexeme.join ls) = readTokens tokens ∧
      tokens.toList.map Lexeme.ofToken = ls.filter (·.symbol ≠ .blank) := by
  have hblank : Text.allBlank (Lexeme.join ls) = false := by
    obtain ⟨x, rest, htext, hx⟩ := Symbol.begins_of_spells (h.spelled l hl)
    have hnot : Text.isBlank x = false := by
      refine Bool.eq_false_iff.2 fun hx' => hsymbol ?_
      have hfirst : Symbol.ofFirst? x = some .blank := Symbol.ofFirst?_of_begins (s := .blank) hx'
      exact Option.some.inj ((Symbol.ofFirst?_of_begins hx).symm.trans hfirst)
    have hmem : x ∈ (Lexeme.join ls).toList := by
      rw [Lexeme.toList_join]
      exact List.mem_flatMap.2 ⟨l, hl, htext ▸ List.mem_cons_self⟩
    exact List.all_eq_false.2 ⟨x, hmem, Bool.eq_false_iff.1 hnot⟩
  refine ⟨(tokenizer.tokenize (Lexeme.join ls)).without .blank, ?_, h.without_blank⟩
  simp only [GrammarText.read, hblank, h.tokenize.2, Bool.false_eq_true, if_false]

end Lexemes

end Packrat.GrammarText
