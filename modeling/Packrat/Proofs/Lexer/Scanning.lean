import Packrat.Lexer.Scan
import Packrat.Proofs.Lexer.Search

/-!
# What a scan does

`Tokenizer.Scans` is the scan as a relation, without anything that is kept from one step to the next
and without a bound on the number of steps: every definition is searched for afresh, the winner
becomes a token (`Wins`), and the scan goes on after it until the text ends or nothing is found.

What a lane knows of its next match holds at the position of the scan (`Lane.Knows`). Refreshing a
lane and moving on keep this, so what the lanes have to offer is what fresh searches find
(`Lane.candidate_refresh`), and both ways to scan take the same steps (`Tokenizer.scanFrom_eq`).
`Tokenizer.scan_eq_plainScan` is the statement for whole texts.
-/

namespace Packrat

variable {K : Type}

/-! ## The winner of a step -/

section Earliest

variable {α : Type} {a : α} {hit : Hit} {i : Nat}

/-- The member with this match starts earliest: those before it start later, and those after it do
not start earlier. -/
structure Leading (before after : List (α × Option Hit)) (hit : Hit) : Prop where
  before : ∀ x ∈ before, ∀ other, x.2 = some other → hit.start.offset < other.start.offset
  after : ∀ x ∈ after, ∀ other, x.2 = some other → hit.start.offset ≤ other.start.offset

/-- The winner of a list from its first member and the winner of the rest. -/
theorem earliest_cons (a : α) (hit? : Option Hit) (rest : List (α × Option Hit)) :
    earliest ((a, hit?) :: rest) =
      match hit?, earliest rest with
      | none, none => none
      | none, some (i, b, other) => some (i + 1, b, other)
      | some hit, none => some (0, a, hit)
      | some hit, some (i, b, other) =>
        if other.start.offset < hit.start.offset then some (i + 1, b, other)
        else some (0, a, hit) := by
  cases hit? <;> rfl

/-- There is no earliest match if there is none at all. -/
theorem earliest_eq_none {l : List (α × Option Hit)} (h : earliest l = none) :
    ∀ x ∈ l, x.2 = none := by
  induction l with
  | nil => simp
  | cons x rest ih =>
    obtain ⟨b, hit?⟩ := x
    rw [earliest_cons] at h
    split at h
    · next hrest => exact List.forall_mem_cons.2 ⟨rfl, ih hrest⟩
    · cases h
    · cases h
    · split at h <;> cases h

/-- Nothing is the earliest of no matches. -/
theorem earliest_of_forall_none {l : List (α × Option Hit)} (h : ∀ x ∈ l, x.2 = none) :
    earliest l = none := by
  induction l with
  | nil => rfl
  | cons x rest ih =>
    obtain ⟨b, hit?⟩ := x
    obtain ⟨hnone, hrest⟩ := List.forall_mem_cons.1 h
    cases hnone
    rw [earliest_cons, ih hrest]

/-- The earliest match leads the list. -/
theorem earliest_eq_some {l : List (α × Option Hit)} (h : earliest l = some (i, a, hit)) :
    ∃ before after, l = before ++ (a, some hit) :: after ∧ before.length = i ∧
      Leading before after hit := by
  induction l generalizing i a hit with
  | nil => cases h
  | cons x rest ih =>
    obtain ⟨b, hit?⟩ := x
    rw [earliest_cons] at h
    -- The winner of the rest stays the winner behind a member that does not start as early.
    have hbehind : ∀ {j}, earliest rest = some (j, a, hit) →
        (∀ other, hit? = some other → hit.start.offset < other.start.offset) →
        ∃ before after, (b, hit?) :: rest = before ++ (a, some hit) :: after ∧
          before.length = j + 1 ∧ Leading before after hit := by
      intro j hrest hfirst
      obtain ⟨before, after, rfl, rfl, hlead⟩ := ih hrest
      refine ⟨(b, hit?) :: before, after, rfl, rfl, ?_, hlead.after⟩
      exact List.forall_mem_cons.2 ⟨hfirst, hlead.before⟩
    split at h
    · cases h
    · next hrest =>
      cases h
      exact hbehind hrest (by simp)
    · next hrest =>
      cases h
      refine ⟨[], rest, rfl, rfl, by simp, fun x hx other hother => ?_⟩
      rw [earliest_eq_none hrest x hx] at hother
      cases hother
    · next first j b' other hrest =>
      split at h
      · next hlt =>
        cases h
        exact hbehind hrest (by simpa using hlt)
      · next hge =>
        cases h
        refine ⟨[], rest, rfl, rfl, by simp, fun x hx found hfound => ?_⟩
        obtain ⟨before, after, rfl, -, hlead⟩ := ih hrest
        -- The winner of the rest does not start before the first member, nor does the rest.
        have hothers : other.start.offset ≤ found.start.offset := by
          rcases List.mem_append.1 hx with hx | hx
          · exact Nat.le_of_lt (hlead.before x hx found hfound)
          · rcases List.mem_cons.1 hx with rfl | hx
            · cases hfound
              exact Nat.le_refl _
            · exact hlead.after x hx found hfound
        omega

/-- A match that leads the list is the earliest. -/
theorem earliest_of_leading {before after : List (α × Option Hit)} (h : Leading before after hit) :
    earliest (before ++ (a, some hit) :: after) = some (before.length, a, hit) := by
  induction before with
  | nil =>
    rw [List.nil_append, earliest_cons]
    cases hrest : earliest after with
    | none => rfl
    | some winner =>
      obtain ⟨j, b, other⟩ := winner
      obtain ⟨others, more, rfl, -, -⟩ := earliest_eq_some hrest
      have hle := h.after (b, some other) (by simp) other rfl
      dsimp only
      rw [if_neg (by omega)]
      rfl
  | cons x before ih =>
    obtain ⟨b, hit?⟩ := x
    obtain ⟨hfirst, hbefore⟩ := List.forall_mem_cons.1 h.before
    have hrest := ih ⟨hbefore, h.after⟩
    rw [List.cons_append, earliest_cons, hrest]
    cases hit? with
    | none => rfl
    | some other =>
      dsimp only
      rw [if_pos (hfirst other rfl)]
      rfl

end Earliest

/-- The definition `d` wins a step with a match: its match starts before those of the definitions
listed earlier, and not after those of the definitions listed later. -/
structure Wins (definitions : List (Definition K)) (c : Cursor) (d : Definition K) (hit : Hit) :
    Prop where
  found : d.find c = some hit
  leading : ∃ before after, definitions = before ++ d :: after ∧
    (∀ e ∈ before, ∀ other, e.find c = some other → hit.start.offset < other.start.offset) ∧
    ∀ e ∈ after, ∀ other, e.find c = some other → hit.start.offset ≤ other.start.offset

section Wins

variable {definitions : List (Definition K)} {c : Cursor} {d : Definition K} {hit : Hit} {i : Nat}
  {tag : K}

/-- What the definitions find from a position on, with their tags. -/
def findAll (definitions : List (Definition K)) (c : Cursor) : List (K × Option Hit) :=
  definitions.map fun d => (d.tag, d.find c)

/-- The earliest of what the definitions find is the winner's. -/
theorem wins_of_earliest (h : earliest (findAll definitions c) = some (i, tag, hit)) :
    ∃ d, Wins definitions c d hit ∧ d.tag = tag := by
  obtain ⟨before, after, hsplit, -, hlead⟩ := earliest_eq_some h
  obtain ⟨front, back, rfl, rfl, hback⟩ := List.map_eq_append_iff.1 hsplit
  obtain ⟨d, back, rfl, hd, rfl⟩ := List.map_eq_cons_iff.1 hback
  obtain ⟨htag, hfind⟩ := Prod.mk.inj hd
  refine ⟨d, ⟨hfind, front, back, rfl, fun e he => ?_, fun e he => ?_⟩, htag⟩
  · exact hlead.before (e.tag, e.find c) (List.mem_map_of_mem he)
  · exact hlead.after (e.tag, e.find c) (List.mem_map_of_mem he)

/-- The winner's match is the earliest of what the definitions find. -/
theorem Wins.earliest (h : Wins definitions c d hit) :
    ∃ i, earliest (findAll definitions c) = some (i, d.tag, hit) := by
  obtain ⟨before, after, rfl, hbefore, hafter⟩ := h.leading
  have hlead : Leading (findAll before c) (findAll after c) hit :=
    ⟨by simpa [findAll] using hbefore, by simpa [findAll] using hafter⟩
  refine ⟨(findAll before c).length, ?_⟩
  rw [findAll, List.map_append, List.map_cons, h.found]
  exact earliest_of_leading hlead

end Wins

/-! ## The scan as a relation -/

/-- The tokens of a text from a position on: those of the winners, one after the other, as long as a
definition finds something and the text has not ended. -/
inductive Tokenizer.Scans (definitions : List (Definition K)) : Cursor → List (Token K) → Prop
  | nothing {c : Cursor} : (∀ d ∈ definitions, d.find c = none) → Scans definitions c []
  | last {c : Cursor} {d : Definition K} {hit : Hit} : Wins definitions c d hit →
      hit.resume.rest = [] → Scans definitions c [hit.token d.tag]
  | more {c : Cursor} {d : Definition K} {hit : Hit} {tokens : List (Token K)} :
      Wins definitions c d hit → hit.resume.rest ≠ [] → Scans definitions hit.resume tokens →
      Scans definitions c (hit.token d.tag :: tokens)

namespace Tokenizer

variable {definitions : List (Definition K)} {c : Cursor} {tokens : List (Token K)}

/-- Every step of a scan but the last passes a character. -/
theorem length_resume_lt {d : Definition K} {hit : Hit} (h : d.find c = some hit)
    (hrest : hit.resume.rest ≠ []) : hit.resume.rest.length < c.rest.length := by
  have hstart := Definition.leads_start h
  have hlt := (Definition.leads_resume h).length_lt (Definition.resume_progress h hrest).1
  have hle := hstart.length_le
  omega

/-- The plain scan finds the tokens of the relation, if it may take enough steps. -/
theorem Scans.plainScanFrom (h : Scans definitions c tokens) :
    ∀ {fuel}, c.rest.length < fuel → ∀ before : Array (Token K),
      plainScanFrom definitions fuel c before = before ++ tokens.toArray := by
  induction h with
  | nothing hnone =>
    intro fuel hfuel before
    obtain ⟨fuel, rfl⟩ := Nat.exists_eq_succ_of_ne_zero (by omega : fuel ≠ 0)
    have hall : earliest (findAll definitions _) = none :=
      earliest_of_forall_none (by simpa [findAll] using hnone)
    rw [Tokenizer.plainScanFrom]
    rw [findAll] at hall
    rw [hall]
    simp
  | last hwins hend =>
    intro fuel hfuel before
    obtain ⟨fuel, rfl⟩ := Nat.exists_eq_succ_of_ne_zero (by omega : fuel ≠ 0)
    obtain ⟨i, hi⟩ := hwins.earliest
    rw [findAll] at hi
    rw [Tokenizer.plainScanFrom, hi]
    simp [hend]
  | more hwins hrest _ ih =>
    intro fuel hfuel before
    obtain ⟨fuel, rfl⟩ := Nat.exists_eq_succ_of_ne_zero (by omega : fuel ≠ 0)
    obtain ⟨i, hi⟩ := hwins.earliest
    have hlt := length_resume_lt hwins.found hrest
    rw [findAll] at hi
    rw [Tokenizer.plainScanFrom, hi]
    dsimp only
    rw [if_neg (by simpa using hrest), ih (by omega)]
    simp

/-- The relation has tokens from every position on. -/
theorem exists_scans (definitions : List (Definition K)) (c : Cursor) :
    ∃ tokens, Scans definitions c tokens := by
  -- The text that is left becomes shorter with every step.
  induction hn : c.rest.length using Nat.strong_induction_on generalizing c with
  | _ n ih =>
    cases h : earliest (findAll definitions c) with
    | none => exact ⟨[], .nothing (by simpa [findAll] using earliest_eq_none h)⟩
    | some winner =>
      obtain ⟨i, tag, hit⟩ := winner
      obtain ⟨d, hwins, rfl⟩ := wins_of_earliest h
      by_cases hrest : hit.resume.rest = []
      · exact ⟨_, .last hwins hrest⟩
      · have hlt := length_resume_lt hwins.found hrest
        obtain ⟨tokens, htokens⟩ := ih _ (hn ▸ hlt) hit.resume rfl
        exact ⟨_, .more hwins hrest htokens⟩

/-- The plain scan of a text has the tokens of the relation, and there are no others. -/
theorem scans_iff_plainScan (t : Tokenizer K) (text : String) :
    Scans t.definitions (Cursor.start text) tokens ↔ tokens = (t.plainScan text).toList := by
  have hplain : ∀ {tokens}, Scans t.definitions (Cursor.start text) tokens →
      tokens = (t.plainScan text).toList := by
    intro tokens h
    rw [plainScan, h.plainScanFrom (Nat.lt_succ_self _)]
    simp
  refine ⟨hplain, ?_⟩
  rintro rfl
  obtain ⟨tokens, htokens⟩ := exists_scans t.definitions (Cursor.start text)
  rwa [← hplain htokens]

end Tokenizer

/-! ## What the lanes know -/

namespace Lane

variable {lane : Lane K} {c c' : Cursor}

/-- What a lane knows of its next match is what a search from the position finds. A match that the
scan has passed says nothing. -/
def Knows (lane : Lane K) (c : Cursor) : Prop :=
  match lane.pending with
  | .stale => True
  | .exhausted => lane.definition.find c = none
  | .found hit => c.offset ≤ hit.start.offset → lane.definition.find c = some hit

/-- A search says what there is to know. -/
theorem knows_ofHit? (d : Definition K) (c : Cursor) : Knows ⟨d, .ofHit? (d.find c)⟩ c := by
  cases h : d.find c with
  | none => exact h
  | some hit => exact fun _ => h

/-- Refreshing a lane does not change its definition. -/
@[simp] theorem definition_refresh (c : Cursor) (lane : Lane K) :
    (lane.refresh c).definition = lane.definition := by
  unfold refresh
  split
  · rfl
  · rfl
  · split <;> rfl

/-- A refreshed lane offers what a search finds. -/
theorem candidate_refresh (h : lane.Knows c) :
    (lane.refresh c).candidate = (lane.definition.tag, lane.definition.find c) := by
  have hsearch : Lane.candidate ⟨lane.definition, .ofHit? (lane.definition.find c)⟩ =
      (lane.definition.tag, lane.definition.find c) := by
    rw [candidate]
    cases lane.definition.find c <;> rfl
  obtain ⟨d, pending⟩ := lane
  cases pending with
  | stale => exact hsearch
  | exhausted =>
    have hnone : d.find c = none := h
    rw [refresh, candidate, hnone]
    rfl
  | found hit =>
    rw [refresh]
    dsimp only
    split
    · next hle =>
      have hsome : d.find c = some hit := h hle
      rw [candidate, hsome]
      rfl
    · exact hsearch

/-- A refreshed lane knows its next match. -/
theorem Knows.refresh (h : lane.Knows c) : (lane.refresh c).Knows c := by
  obtain ⟨d, pending⟩ := lane
  cases pending with
  | stale => exact knows_ofHit? d c
  | exhausted => exact h
  | found hit =>
    rw [Lane.refresh]
    dsimp only
    split
    · exact h
    · exact knows_ofHit? d c

/-- What is known of a refreshed lane stays true as the scan moves on. -/
theorem Knows.move (h : lane.Knows c) (hc : c.Leads c') : lane.Knows c' := by
  obtain ⟨d, pending⟩ := lane
  cases pending with
  | stale => trivial
  | exhausted => exact Definition.find_none_of_leads h hc
  | found hit =>
    intro hle
    have hfound : d.find c = some hit := h (Nat.le_trans hc.offset_le hle)
    exact Definition.find_of_leads hfound hc hle

end Lane

/-! ## Both scans -/

namespace Tokenizer

variable {definitions : List (Definition K)} {c : Cursor} {tokens : List (Token K)}

/-- Taking note that a match is used up keeps the definitions. -/
theorem map_definition_modify (lanes : List (Lane K)) (i : Nat) :
    (lanes.modify i Lane.use).map (·.definition) = lanes.map (·.definition) := by
  induction lanes generalizing i with
  | nil => simp
  | cons lane rest ih =>
    cases i with
    | zero => rfl
    | succ i => simp [ih]

/-- **The scan that keeps what it knows takes the steps of the plain scan.** -/
theorem scanFrom_eq (fuel : Nat) {lanes : List (Lane K)} {c : Cursor}
    (h : ∀ lane ∈ lanes, lane.Knows c) (tokens : Array (Token K)) :
    scanFrom fuel lanes c tokens = plainScanFrom (lanes.map (·.definition)) fuel c tokens := by
  induction fuel generalizing lanes c tokens with
  | zero => rfl
  | succ fuel ih =>
    have hoffers : (lanes.map (Lane.refresh c)).map Lane.candidate =
        (lanes.map (·.definition)).map fun d => (d.tag, d.find c) := by
      rw [List.map_map, List.map_map]
      exact List.map_congr_left fun lane hlane => Lane.candidate_refresh (h lane hlane)
    rw [scanFrom, plainScanFrom, hoffers]
    cases hwin : earliest ((lanes.map (·.definition)).map fun d => (d.tag, d.find c)) with
    | none => rfl
    | some winner =>
      obtain ⟨i, tag, hit⟩ := winner
      obtain ⟨d, hwins, rfl⟩ := wins_of_earliest hwin
      have hmove : c.Leads hit.resume :=
        (Definition.leads_start hwins.found).trans (Definition.leads_resume hwins.found)
      dsimp only
      split
      · rfl
      · rw [ih ?_, map_definition_modify, List.map_map]
        · simp [Function.comp_def]
        · -- Used or not, every lane knows its next match where the scan goes on.
          intro lane hlane
          obtain ⟨j, hj, rfl⟩ := List.getElem_of_mem hlane
          rw [List.getElem_modify]
          split
          · trivial
          · rw [List.getElem_map]
            exact ((h _ (List.getElem_mem _)).refresh).move hmove

/-- A scan that knows nothing takes the steps of the plain scan. -/
theorem scanFrom_stale (definitions : List (Definition K)) (fuel : Nat) (c : Cursor)
    (tokens : Array (Token K)) :
    scanFrom fuel (definitions.map (⟨·, .stale⟩)) c tokens =
      plainScanFrom definitions fuel c tokens := by
  rw [scanFrom_eq, List.map_map]
  · simp [Function.comp_def]
  · intro lane hlane
    obtain ⟨d, -, rfl⟩ := List.mem_map.1 hlane
    trivial

/-- A scan finds the tokens of the relation, if it may take enough steps. -/
theorem Scans.scanFrom (h : Scans definitions c tokens) {fuel : Nat}
    (hfuel : c.rest.length < fuel) :
    scanFrom fuel (definitions.map (⟨·, .stale⟩)) c #[] = tokens.toArray := by
  rw [scanFrom_stale, h.plainScanFrom hfuel]
  simp

/-- **A scan finds the tokens that fresh searches at every step find**, whatever the matchers of the
definitions: it has the tokens of the relation and of no other list, and agrees with the plain
scan. -/
theorem scan_eq_plainScan (t : Tokenizer K) (text : String) :
    t.scan text = t.plainScan text ∧
      ∀ tokens, Scans t.definitions (Cursor.start text) tokens ↔ tokens = (t.scan text).toList := by
  have hsame : t.scan text = t.plainScan text := scanFrom_stale t.definitions _ _ _
  refine ⟨hsame, fun tokens => ?_⟩
  rw [hsame]
  exact scans_iff_plainScan t text

end Tokenizer

end Packrat
