import Mathlib.Data.Finset.Card
import Mathlib.Data.Finset.Prod
import Mathlib.Data.List.Count
import Packrat.Proofs.Construction
import Packrat.Proofs.Evaluation.Calls
import Packrat.Proofs.Evaluation.Operators
import Packrat.Proofs.Evaluation.Plain

/-!
# What evaluation keeps

The depth of an evaluation is bounded although rules may be left-recursive. Between two calls the
operands descend through the arena, so their number is bounded by the size of the arena. A call that
evaluates the body of its rule enters a pair of a non-terminal and a position that was not in
progress, and only so many pairs are left (`Grammar.free`, `Grammar.free_enter`). `Grammar.need`
counts both: it falls from an operator to what is tried beneath it.

A parse tries operators at positions (`Trial`). A trial is placed (`Grammar.Placed`) if its operator
takes part in parses, its position is within the input, the books know what is in progress and hold
only outcomes within the input and in an extent, and a property `J` of runs holds that firings and
the steps of the books keep (`Grammar.Invariant`). A placed trial ends well if everything placed
beneath it does (`Grammar.Placed.ends`), so by induction on the depth every placed trial does
(`Grammar.evalKeeping_keeps`).
-/

namespace Packrat

variable {K N T : Type}

/-- An operator tried at a position, in a mode and from a run on. -/
structure Trial (N T : Type) where
  node : NodeId
  position : Nat
  mode : Mode
  run : Run N T

/-- What an evaluator makes of a trial. -/
def Trial.result (x : Trial N T) (ev : Evaluator N T) : Option (Outcome T × Run N T) :=
  ev x.node x.position x.mode x.run

/-! ## What is left to enter -/

namespace Grammar

section Measure

variable (g : Grammar K N T)

/-- The non-terminals of a grammar. -/
def callers : Finset NodeId :=
  (g.arena.ids.filter fun id => ((g.arena.get? id).bind Operator.callee?).isSome).toFinset

/-- The number of pairs of a non-terminal and a position up to `n` that are not in progress. -/
def free (n : Nat) (active : Nat → List NodeId) : Nat :=
  ((g.callers ×ˢ Finset.range (n + 1)).filter fun x => x.1 ∉ active x.2).card

/-- A bound on the depth of what is tried from the operator at an id on: every pair that is left to
enter allows for a descent through the arena. -/
def need (n : Nat) (active : Nat → List NodeId) (id : NodeId) : Nat :=
  g.free n active * (g.arena.size + 1) + id.index

variable {g}

/-- A non-terminal is one of the non-terminals. -/
theorem mem_callers {id : NodeId} {name : N} (h : g.arena.get? id = some (.nonTerminal name)) :
    id ∈ g.callers := by
  have hid : id ∈ g.arena.ids := Arena.mem_ids_iff.2 (h ▸ rfl)
  simp [callers, hid, h, Operator.callee?]

/-- There are as many non-terminals as operators that call. -/
theorem card_callers_le : g.callers.card ≤
    (g.arena.operators.toList.filter fun op => op.callee?.isSome).length := by
  refine (List.toFinset_card_le _).trans_eq ?_
  rw [← List.countP_eq_length_filter, ← List.countP_eq_length_filter]
  have hids := congrArg (List.countP fun o => (o.bind Operator.callee?).isSome)
    g.arena.map_get?_ids
  rwa [List.countP_map, List.countP_map] at hids

/-- At most every non-terminal is free at every position. -/
theorem free_le (n : Nat) (active : Nat → List NodeId) :
    g.free n active ≤
      (g.arena.operators.toList.filter fun op => op.callee?.isSome).length * (n + 1) := by
  refine (Finset.card_filter_le _ _).trans ?_
  rw [Finset.card_product, Finset.card_range]
  exact Nat.mul_le_mul_right _ card_callers_le

/-- **Entering a pair leaves fewer to enter.** -/
theorem free_enter {n p : Nat} {id : NodeId} {name : N} {active : Nat → List NodeId}
    (hget : g.arena.get? id = some (.nonTerminal name)) (hp : p ≤ n) (hid : id ∉ active p) :
    g.free n (entering active id p) < g.free n active := by
  refine Finset.card_lt_card ((Finset.ssubset_iff_of_subset ?_).2 ⟨(id, p), ?_, ?_⟩)
  · intro x hx
    rw [Finset.mem_filter] at hx ⊢
    refine ⟨hx.1, fun hmem => hx.2 ?_⟩
    rw [entering]
    split
    · next heq => exact List.mem_cons_of_mem _ (heq ▸ hmem)
    · exact hmem
  · simp [mem_callers hget, hid, Nat.lt_succ_of_le hp]
  · rw [Finset.mem_filter, entering, if_pos rfl]
    exact fun hmem => hmem.2 List.mem_cons_self

/-- The body of a rule needs less once the call is in progress. -/
theorem need_body {n p : Nat} {id body : NodeId} {name : N} {active : Nat → List NodeId}
    (hget : g.arena.get? id = some (.nonTerminal name)) (hp : p ≤ n) (hid : id ∉ active p)
    (hbody : (g.arena.get? body).isSome) :
    g.need n (entering active id p) body < g.need n active id := by
  have hsize := (Arena.isSome_get?_iff.1 hbody).2
  have hroom := Nat.mul_le_mul_right (g.arena.size + 1)
    (Nat.succ_le_of_lt (free_enter hget hp hid))
  rw [Nat.succ_mul] at hroom
  unfold need
  omega

/-- The bound on the depth allows for everything that is left to enter. -/
theorem need_lt_depthBound {n : Nat} {id : NodeId} (hid : (g.arena.get? id).isSome)
    (active : Nat → List NodeId) : g.need n active id < g.depthBound n := by
  have hsize := (Arena.isSome_get?_iff.1 hid).2
  have hroom := Nat.mul_le_mul_right (g.arena.size + 1) (g.free_le n active)
  unfold need depthBound
  rw [Nat.add_mul, Nat.one_mul]
  omega

end Measure

end Grammar

/-! ## Books that are sound -/

/-- The books of a parse of `n` tokens: `active` is in progress, and every outcome in the memo table
is within the input. -/
structure Context.Bounded [DecidableEq N] (n : Nat) (active : Nat → List NodeId)
    (c : Context N T) : Prop where
  active : c.activeAt = active
  memo : ∀ ⦃name p mode o⦄, c.memo.find? name p mode = some o → Outcome.Within n p o

/-- The books of a parse that has just begun. -/
theorem Context.bounded_reset [DecidableEq N] (n : Nat) (c : Context N T) :
    c.reset.Bounded n fun _ => [] where
  active := c.activeAt_reset
  memo name p mode o h := by simp at h

namespace Grammar

variable [DecidableEq N]

/-- The books are bounded, and every match in the memo table is in the extent of the body of its
rule. -/
structure Sound (g : Grammar K N T) (E : Extent) (n : Nat) (active : Nat → List NodeId)
    (c : Context N T) : Prop extends c.Bounded n active where
  covered : ∀ ⦃name body p mode o⦄, c.memo.find? name p mode = some o → g.body? name = some body →
    o.Upto (E body p)

/-- The books of a parse that has just begun are sound. -/
theorem sound_reset (g : Grammar K N T) (E : Extent) (n : Nat) (c : Context N T) :
    g.Sound E n (fun _ => []) c.reset where
  toBounded := c.bounded_reset n
  covered name body p mode o h := by simp at h

/-- Bounded books hold nothing outside the extent of everything. -/
theorem sound_all {g : Grammar K N T} {n : Nat} {active : Nat → List NodeId} {c : Context N T}
    (h : c.Bounded n active) : g.Sound Extent.all n active c :=
  ⟨h, fun _ _ _ _ o _ _ => o.upto_all⟩

/-- Everything in the memo table is of a rule. -/
def Ruled (g : Grammar K N T) (c : Context N T) : Prop :=
  ∀ ⦃name p mode o⦄, c.memo.find? name p mode = some o → (g.body? name).isSome

/-- The memo table is empty at first. -/
theorem ruled_reset (g : Grammar K N T) (c : Context N T) : g.Ruled c.reset :=
  fun name p mode o h => by simp at h

variable [ToString K] [ToString N] [Inhabited T]

/-- A property of runs, given what is in progress, that firings and the steps of the books keep. -/
structure Invariant (g : Grammar K N T) (input : Array (Token K)) (keep : Keep N T)
    (J : (Nat → List NodeId) → Run N T → Prop) : Prop where
  fire : ∀ active, g.FiringKeeps input (J active)
  hit : ∀ ⦃active run⦄, J active run →
    J active { run with context := run.context.countCall.countHit }
  cut : ∀ ⦃active run⦄, J active run →
    J active { run with context := run.context.countCall.countCut }
  enter : ∀ ⦃active run id p⦄, J active run → p ≤ input.size →
    J (entering active id p) { run with context := run.context.countCall.enter id p }
  close : ∀ ⦃active run id p name body mode o⦄ before, J (entering active id p) run →
    p ≤ input.size → g.body? name = some body → o.Within input.size p →
    J active { run with context := .close keep before run.context id name p mode o }

/-- What holds of every run is an invariant. -/
theorem invariant_true (g : Grammar K N T) (input : Array (Token K)) (keep : Keep N T) :
    g.Invariant input keep fun _ _ => True where
  fire _ := fun _ _ _ _ _ _ _ => trivial
  hit _ _ _ := trivial
  cut _ _ _ := trivial
  enter _ _ _ _ _ _ := trivial
  close _ _ _ _ _ _ _ _ _ _ _ _ _ := trivial

/-- Two invariants together. -/
theorem Invariant.and {g : Grammar K N T} {input : Array (Token K)} {keep : Keep N T}
    {J J' : (Nat → List NodeId) → Run N T → Prop} (h : g.Invariant input keep J)
    (h' : g.Invariant input keep J') :
    g.Invariant input keep fun active run => J active run ∧ J' active run where
  fire active := fun _ _ _ _ _ hstop hJ =>
    ⟨h.fire active hstop hJ.1, h'.fire active hstop hJ.2⟩
  hit _ _ hJ := ⟨h.hit hJ.1, h'.hit hJ.2⟩
  cut _ _ hJ := ⟨h.cut hJ.1, h'.cut hJ.2⟩
  enter _ _ _ _ hJ hp := ⟨h.enter hJ.1 hp, h'.enter hJ.2 hp⟩
  close _ _ _ _ _ _ _ _ before hJ hp hbody ho :=
    ⟨h.close before hJ.1 hp hbody ho, h'.close before hJ.2 hp hbody ho⟩

/-- What is in the memo table always has a rule. -/
theorem invariant_ruled (g : Grammar K N T) (input : Array (Token K)) (keep : Keep N T) :
    g.Invariant input keep fun _ run => g.Ruled run.context where
  fire _ := fun id span values mode run _ h => by
    show g.Ruled (g.fire input id span values mode run).2.context
    rw [fire_context]
    exact h
  hit _ _ h := h
  cut _ _ h := h
  enter _ _ _ _ h _ := h
  close _ _ _ _ _ _ _ _ before h _ hbody _ := fun name' p' mode' o' hfind => by
    rcases Context.find?_close hfind with hold | ⟨-, rfl, -, -, -⟩
    exacts [h hold, hbody ▸ rfl]

/-- A trial of an operator that takes part in parses, at a position within the input, and from a run
with sound books and `J`. -/
structure Placed (g : Grammar K N T) (input : Array (Token K)) (E : Extent)
    (J : (Nat → List NodeId) → Run N T → Prop) (active : Nat → List NodeId) (x : Trial N T) :
    Prop where
  live : g.Live x.node
  within : x.position ≤ input.size
  sound : g.Sound E input.size active x.run.context
  kept : J active x.run

/-- A trial ends within the input and in the extent, with sound books and `J`. -/
def EndsWell (g : Grammar K N T) (input : Array (Token K)) (E : Extent)
    (J : (Nat → List NodeId) → Run N T → Prop) (active : Nat → List NodeId) (x : Trial N T)
    (result : Option (Outcome T × Run N T)) : Prop :=
  EndsWith (fun run => g.Sound E input.size active run.context ∧ J active run)
    (Outcome.Fits input.size E x.node x.position) result

/-- What is in progress beneath a trial. -/
def beneath (g : Grammar K N T) (active : Nat → List NodeId) (x : Trial N T) :
    Nat → List NodeId :=
  match g.arena.get? x.node with
  | some (.nonTerminal _) => entering active x.node x.position
  | _ => active

variable {g : Grammar K N T} {input : Array (Token K)} {keep : Keep N T} {E : Extent}
  {J : (Nat → List NodeId) → Run N T → Prop} {active : Nat → List NodeId} {ev : Evaluator N T}

/-- Firing keeps the books. -/
theorem Invariant.fire_sound (hJ : g.Invariant input keep J) (active : Nat → List NodeId) :
    g.FiringKeeps input fun run => g.Sound E input.size active run.context ∧ J active run := by
  rintro id span values mode run hstop ⟨hsound, hkept⟩
  refine ⟨?_, hJ.fire active hstop hkept⟩
  rw [fire_context]
  exact hsound

omit [ToString K] [ToString N] [Inhabited T] in
/-- Writing down an outcome in the extent keeps the books sound. -/
theorem Sound.close {before after : Context N T} {id body : NodeId} {name : N} {p : Nat}
    {mode : Mode} {o : Outcome T} (h : g.Sound E input.size (entering active id p) after)
    (hbody : g.body? name = some body) (ho : o.Fits input.size E body p) :
    g.Sound E input.size active (.close keep before after id name p mode o) where
  active := Context.activeAt_close_of_entering h.active
  memo name' p' mode' o' hfind := by
    rcases Context.find?_close hfind with hold | ⟨-, -, rfl, -, rfl⟩
    exacts [h.memo hold, ho.1]
  covered name' body' p' mode' o' hfind hbody' := by
    rcases Context.find?_close hfind with hold | ⟨-, rfl, rfl, -, rfl⟩
    · exact h.covered hold hbody'
    · rw [hbody] at hbody'
      cases hbody'
      exact ho.2

/-- A call ends well if the body of its rule does, once the call is in progress. -/
theorem Placed.call_ends (hE : E.Closed g input) (hJ : g.Invariant input keep J) {x : Trial N T}
    (hx : g.Placed input E J active x) {name : N} {body : NodeId}
    (hget : g.arena.get? x.node = some (.nonTerminal name)) (hbody : g.body? name = some body)
    (hlive : g.Live body)
    (hev : ∀ y, g.Placed input E J (entering active x.node x.position) y → y.node = body →
      y.position = x.position → x.node ∉ active x.position →
      g.EndsWell input E J (entering active x.node x.position) y (y.result ev)) :
    g.EndsWell input E J active x
      (g.callKeeping input keep ev x.node name x.position x.mode x.run) := by
  obtain ⟨id, p, mode, run⟩ := x
  obtain ⟨-, hp, hsound, hkept⟩ := hx
  dsimp only at hget hp hsound hkept hev ⊢
  have hbeneath : id ∉ run.context.activeAt p → g.EndsWell input E J (entering active id p)
      ⟨body, p, mode, { run with context := run.context.countCall.enter id p }⟩
      (ev body p mode { run with context := run.context.countCall.enter id p }) := by
    refine fun hid => hev ⟨body, p, mode, _⟩ ⟨hlive, hp, ⟨⟨?_, hsound.memo⟩, hsound.covered⟩, ?_⟩
      rfl rfl (hsound.active ▸ hid)
    · exact Context.activeAt_entering hsound.active id p
    · exact hJ.enter hkept hp
  refine endsWith_iff_yields.2 (callKeeping_yields (hE.yield _) (hJ.fire_sound active) hget hbody hp
    (fun hit hfind => ⟨?_, ⟨⟨hsound.active, hsound.memo⟩, hsound.covered⟩, hJ.hit hkept⟩)
    ⟨⟨⟨hsound.active, hsound.memo⟩, hsound.covered⟩, hJ.cut hkept⟩
    (fun hid => endsWith_iff_yields.1 (hbeneath hid)) ?_)
  · exact (fits_iff_yields mode).1 ⟨hsound.memo hfind, hsound.covered hfind hbody⟩
  · rintro inner mid hinner ⟨hsound', hkept'⟩
    have hfits := (fits_iff_yields mode).2 hinner
    exact ⟨hsound'.close hbody hfits, hJ.close _ hkept' hp hbody hfits.1⟩

section Built

variable [DecidableEq K] {b : Builder K N T} {start : N} {rules : List (Rule N)}

/-- **A placed trial ends well if everything placed beneath it does**, from its position on, that
needs less depth. -/
theorem Placed.ends (hb : b.Made) (hg : b.build start rules = .ok g) (hE : E.Closed g input)
    (hJ : g.Invariant input keep J) {x : Trial N T} (hx : g.Placed input E J active x)
    (hev : ∀ y, g.Placed input E J (g.beneath active x) y →
      g.need input.size (g.beneath active x) y.node < g.need input.size active x.node →
      x.position ≤ y.position → g.EndsWell input E J (g.beneath active x) y (y.result ev)) :
    g.EndsWell input E J active x
      (x.result (g.step input (g.callKeeping input keep ev) ev)) := by
  obtain ⟨operator, hget, hops, hcallee⟩ := hx.live.closed hg
  refine step_keeps hE (hJ.fire_sound active) hget hx.within ?_ ?_ ⟨hx.sound, hx.kept⟩
  · intro o ho mode p hle hp run hrun
    -- Beneath an operator with operands nothing more is in progress.
    have hsame : g.beneath active x = active := by
      unfold beneath
      rw [hget]
      cases operator with
      | nonTerminal name => cases ho
      | _ => rfl
    rw [hsame] at hev
    obtain ⟨_, hgeto, -⟩ := (hops o ho).closed hg
    have holder : o.index < x.node.index :=
      Grammar.ordered hb hg hget o ho (Arena.owned_of_get? hgeto).1
    exact hev ⟨o, p, mode, run⟩ ⟨hops o ho, hp, hrun.1, hrun.2⟩
      (Nat.add_lt_add_left holder _) hle
  · rintro name rfl
    obtain ⟨body, hbody, hlive⟩ := hcallee name rfl
    have hsame : g.beneath active x = entering active x.node x.position := by
      unfold beneath
      rw [hget]
    rw [hsame] at hev
    refine hx.call_ends hE hJ hget hbody hlive fun y hy hnode hposition hid => hev y hy ?_ ?_
    · obtain ⟨_, hgetb, -⟩ := hlive.closed hg
      rw [hnode]
      exact need_body hget hx.within hid (hgetb ▸ rfl)
    · exact Nat.le_of_eq hposition.symm

/-- **A placed trial ends well**, if the depth allows for what it needs. -/
theorem evalKeeping_keeps (hb : b.Made) (hg : b.build start rules = .ok g)
    (hE : E.Closed g input) (hJ : g.Invariant input keep J) (depth : Nat) :
    ∀ ⦃active x⦄, g.Placed input E J active x → g.need input.size active x.node < depth →
      g.EndsWell input E J active x (x.result (g.evalKeeping input keep depth)) := by
  induction depth with
  | zero => exact fun _ _ _ hdepth => absurd hdepth (Nat.not_lt_zero _)
  | succ depth ih =>
    intro active x hx hdepth
    exact hx.ends hb hg hE hJ fun y hy hneed _ => ih hy (by omega)

end Built

end Grammar

end Packrat
