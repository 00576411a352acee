import Packrat.Proofs.Evaluation.Trials

/-!
# Positions

Positions never leave the input. Outcomes are put together in several ways: from a start and a
length, with the span of an operand, from the memo table, or with no tokens at all after a
predicate. Yet whatever a parse tries at a position begins there and ends behind it, within the
input, and so does all that it writes down (`Grammar.parseWith_inside`).
-/

namespace Packrat

variable {K N T : Type}

/-- Everything that a run has written down lies within an input of `n` tokens: the outcomes in the
memo table, and the tokens that actions were given. -/
structure Run.Inside [DecidableEq N] (n : Nat) (run : Run N T) : Prop where
  memo : ∀ ⦃name p mode o⦄, run.context.memo.find? name p mode = some o → Outcome.Within n p o
  firings : ∀ f ∈ run.log, f.span.stop ≤ n

/-- A match that is complete has all tokens, and nothing else is a match of a whole parse. -/
theorem Outcome.Within.complete {n : Nat} {o : Outcome T} (h : o.Within n 0) :
    (o.complete n).Within n 0 ∧
      ∀ next span value, o.complete n = .matched next span value → next = n ∧ span = ⟨0, n⟩ := by
  cases o with
  | failed p => exact ⟨h, nofun⟩
  | matched next span value =>
    obtain ⟨-, hnext, rfl⟩ := h
    rw [Outcome.complete]
    split
    · next hall =>
      subst hall
      refine ⟨⟨Nat.zero_le _, hnext, rfl⟩, fun next' span' value' heq => ?_⟩
      cases heq
      exact ⟨rfl, rfl⟩
    · exact ⟨⟨Nat.zero_le _, hnext⟩, nofun⟩

namespace Grammar

variable [DecidableEq N] [ToString K] [ToString N] [Inhabited T] {g : Grammar K N T}
  {input : Array (Token K)}

omit [DecidableEq N] in
/-- Firing logs the span of the match at most. -/
theorem mem_log_fire {id : NodeId} {span : Span} {values : List T} {mode : Mode} {run : Run N T}
    {f : Firing} (h : f ∈ (g.fire input id span values mode run).2.log) :
    f ∈ run.log ∨ f.span = span := by
  have hlog : (g.fire input id span values mode run).2.log = run.log ∨
      (g.fire input id span values mode run).2.log = ⟨id, span, values.length⟩ :: run.log := by
    unfold fire
    split
    · dsimp only
      split
      · exact .inr rfl
      · split <;> exact .inr rfl
    · exact .inl rfl
  rcases hlog with hlog | hlog <;> rw [hlog] at h
  · exact .inl h
  · rcases List.mem_cons.1 h with rfl | h
    exacts [.inr rfl, .inl h]

/-- Actions are given tokens of the input only. -/
theorem invariant_firings (g : Grammar K N T) (input : Array (Token K)) (keep : Keep N T) :
    g.Invariant input keep fun _ run => ∀ f ∈ run.log, f.span.stop ≤ input.size where
  fire _ := fun id span values mode run hstop h f hf => by
    rcases mem_log_fire hf with hold | hnew
    exacts [h f hold, hnew ▸ hstop]
  hit _ _ h := h
  cut _ _ h := h
  enter _ _ _ _ h _ := h
  close _ _ _ _ _ _ _ _ _ h _ _ _ := h

variable [DecidableEq K] {b : Builder K N T} {start : N} {rules : List (Rule N)}

/-- **Positions never leave the input.** Whatever a parse of `n` tokens tries at a position ends: a
match begins at the position and ends behind it, not after the `n` tokens, and a failure is between
the same bounds. All that takes part in it is tried at this position or behind it, so that no length
is the difference of a position and a later one. The memo table has only such outcomes, whatever is
tried, and actions are given tokens that are there. A match of the whole parse has the `n`
tokens. -/
theorem parseWith_inside (hb : b.Made) (hg : b.build start rules = .ok g)
    (input : Array (Token K)) (context : Context N T) (labels : Labels) :
    (∀ ⦃depth active x⦄, g.Tried input context labels depth active x →
      x.position ≤ input.size ∧ x.run.Inside input.size ∧
        EndsWith (Run.Inside input.size) (Outcome.Within input.size x.position)
          (x.result (g.eval input depth))) ∧
    (∀ ⦃depth active x y⦄, g.Tried input context labels (depth + 1) active x →
      g.TakesPart input (g.eval input depth) x y →
        x.position ≤ y.position ∧ EndsWith (Run.Inside input.size)
          (Outcome.Within input.size y.position) (y.result (g.eval input depth))) ∧
    (g.parseWith input context labels).1.Within input.size 0 ∧
    (∀ next span value, (g.parseWith input context labels).1 = .matched next span value →
      next = input.size ∧ span = ⟨0, input.size⟩) ∧
    (g.parseWith input context labels).2.Inside input.size := by
  have hE := Extent.closed_all g input
  have hJ := g.invariant_firings input fun _ _ => true
  have hstart : ∀ f ∈ ({ context := context.reset, labels } : Run N T).log,
      f.span.stop ≤ input.size := nofun
  have hends : ∀ ⦃depth active x⦄, g.Tried input context labels depth active x →
      EndsWith (Run.Inside input.size) (Outcome.Within input.size x.position)
        (x.result (g.eval input depth)) := by
    intro depth active x hx
    obtain ⟨o, run, ho, hfits, hsound, hlog⟩ := hx.endsWell hb hg hE hJ hstart
    exact ⟨o, run, ho, hfits.1, hsound.memo, hlog⟩
  refine ⟨fun depth active x hx => ?_, fun depth active x y hx hy => ?_, ?_⟩
  · obtain ⟨⟨-, hposition, hsound, hlog⟩, -⟩ := hx.placed hb hg hE hJ hstart
    exact ⟨hposition, ⟨hsound.memo, hlog⟩, hends hx⟩
  · obtain ⟨hplaced, hdepth⟩ := hx.placed hb hg hE hJ hstart
    exact ⟨(hplaced.of_takesPart hb hg hE hJ hdepth hy).2.2, hends (hx.beneath hy)⟩
  · obtain ⟨raw, run, -, hparse, ⟨hwithin, -⟩, hsound, hlog⟩ :=
      parseWith_endsWell hb hg hE hJ hstart
    rw [hparse]
    exact ⟨hwithin.complete.1, hwithin.complete.2, hsound.memo, hlog⟩

/-- The rules make a grammar, so every parse stays inside its input, and so does what it tries. -/
theorem parseWith_inside_leftRecursive :
    ∃ g : Grammar Char Char Unit, ofExprs {} 'S' leftRecursive = .ok g ∧
      ∀ input : Array (Token Char), (g.parseWith input {} ∅).2.Inside input.size ∧
        ∃ body depth active, g.Tried input {} ∅ depth active
          (Trial.ofBody ⟨g.startNode, 0, .consuming, { context := Context.reset {} }⟩ body) ∧
            EndsWith (Run.Inside input.size) (Outcome.Within input.size 0)
              (g.eval input depth body 0 .consuming
                { context := (Context.reset {}).countCall.enter g.startNode 0 }) := by
  have hg := eq_ok_of_isSome_toOption isSome_leftRecursive
  obtain ⟨b, rules, hb, hbuild, -⟩ := ofExprs_made hg
  refine ⟨_, hg, fun input => ?_⟩
  obtain ⟨htrials, -, -, -, hinside⟩ := parseWith_inside hb hbuild input {} ∅
  obtain ⟨body, depth, active, -, htried⟩ := exists_tried_startBody hbuild input {} ∅
  exact ⟨hinside, body, depth, active, htried, (htrials htried).2.2⟩

end Grammar

end Packrat
