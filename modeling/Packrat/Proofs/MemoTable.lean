import Mathlib.Data.List.Perm.Subperm
import Mathlib.Data.List.ProdSigma
import Packrat.Peg.Context

/-!
# The size of a memo table

The size of a memo table is counted over its columns. `Memo.keys` lists the rules, positions and
modes of which it knows an outcome, so that the size is the number of keys
(`Memo.size_eq_length_keys`). To write an outcome down adds its key in front and takes it away
behind (`Memo.keys_insert_perm`): a table that is filled in this way has every key once, and its
size grows only if the key is new (`Memo.size_insert_of_find?_eq_none`).
-/

namespace Packrat

variable {N T : Type}

namespace Memo

/-- The keys of a column at a position. -/
def columnKeys (position : Nat) (column : List (MemoEntry N T)) : List (N × Nat × Mode) :=
  column.map fun e => (e.name, position, e.mode)

/-- The rules, positions and modes of which an outcome is known. -/
def keys (memo : Memo N T) : List (N × Nat × Mode) :=
  memo.columns.toList.flatMap fun x => columnKeys x.1 x.2

@[simp] theorem keys_empty : ({} : Memo N T).keys = [] := rfl

@[simp] theorem size_empty : ({} : Memo N T).size = 0 := rfl

/-- The size is the number of keys. -/
theorem size_eq_length_keys (memo : Memo N T) : memo.size = memo.keys.length := by
  have hcount : ∀ (columns : List (Nat × List (MemoEntry N T))) (count : Nat),
      columns.foldl (fun count x => count + x.2.length) count =
        count + (columns.flatMap fun x => columnKeys x.1 x.2).length := by
    intro columns
    induction columns with
    | nil => exact fun count => rfl
    | cons x rest ih =>
      intro count
      rw [List.foldl_cons, ih, List.flatMap_cons, List.length_append, columnKeys, List.length_map]
      omega
  rw [size, Std.TreeMap.foldl_eq_foldl_toList, hcount, Nat.zero_add, keys]

variable [DecidableEq N] {memo : Memo N T} {name : N} {position : Nat} {mode : Mode}

/-- The keys are those of the outcomes that are found. -/
theorem mem_keys : (name, position, mode) ∈ memo.keys ↔ (memo.find? name position mode).isSome := by
  have hcolumn : ∀ column : List (MemoEntry N T),
      (∃ e ∈ column, e.mode = mode ∧ e.name = name) ↔
        ((column.find? fun e => e.mode = mode ∧ e.name = name).map (·.outcome)).isSome := by
    intro column
    rw [Option.isSome_map, List.find?_isSome]
    simp
  simp only [keys, columnKeys, List.mem_flatMap, List.mem_map, Prod.mk.injEq, Prod.exists,
    Std.TreeMap.mem_toList_iff_getElem?_eq_some]
  rw [find?, ← hcolumn, column, Std.TreeMap.getD_eq_getD_getElem?]
  constructor
  · rintro ⟨_, column, hget, e, he, hname, rfl, hmode⟩
    rw [hget]
    exact ⟨e, he, hmode, hname⟩
  · rintro ⟨e, he, hmode, hname⟩
    cases hget : memo.columns[position]? with
    | none =>
      rw [hget] at he
      cases he
    | some column =>
      rw [hget] at he
      exact ⟨position, column, hget, e, he, hname, rfl, hmode⟩

omit [DecidableEq N] in
/-- The keys are those at a position, and those at the others. -/
theorem keys_perm (memo : Memo N T) (position : Nat) :
    memo.keys.Perm (columnKeys position (memo.column position) ++
      (memo.columns.toList.filter fun x => !(position == x.1)).flatMap
        fun x => columnKeys x.1 x.2) := by
  have hnodup : memo.columns.toList.Nodup :=
    Std.TreeMap.distinct_keys_toList.imp fun hne heq =>
      hne (by rw [heq]; exact Std.ReflCmp.compare_self)
  have hown : (memo.columns.toList.filter fun x => position == x.1).Perm
      (memo.columns[position]?.toList.map (Prod.mk position)) := by
    refine (List.perm_ext_iff_of_nodup (hnodup.filter _) ?_).2 fun x => ?_
    · cases memo.columns[position]? <;> simp
    · obtain ⟨p, column⟩ := x
      simp only [List.mem_filter, Std.TreeMap.mem_toList_iff_getElem?_eq_some, beq_iff_eq,
        List.mem_map, Option.mem_toList, Prod.mk.injEq]
      constructor
      · rintro ⟨hget, rfl⟩
        exact ⟨column, hget, rfl, rfl⟩
      · rintro ⟨_, hget, rfl, rfl⟩
        exact ⟨hget, rfl⟩
  have hsplit := (List.filter_append_perm (fun x => position == x.1) memo.columns.toList).symm
  have hkeys := (hsplit.trans (hown.append_right _)).flatMap_right fun x => columnKeys x.1 x.2
  rw [List.flatMap_append] at hkeys
  have hcolumn : (memo.columns[position]?.toList.map (Prod.mk position)).flatMap
      (fun x => columnKeys x.1 x.2) = columnKeys position (memo.column position) := by
    rw [column, Std.TreeMap.getD_eq_getD_getElem?]
    cases memo.columns[position]? <;> simp [columnKeys]
  rw [hcolumn] at hkeys
  exact hkeys

/-- **Writing an outcome down puts its key in front and takes it away behind.** -/
theorem keys_insert_perm (memo : Memo N T) (name : N) (position : Nat) (mode : Mode)
    (outcome : Outcome T) :
    (memo.insert name position mode outcome).keys.Perm
      ((name, position, mode) :: memo.keys.filter (· ≠ (name, position, mode))) := by
  have hnew : (memo.insert name position mode outcome).keys.Perm
      ((name, position, mode) :: (columnKeys position ((memo.column position).filter
        fun e => ¬ (e.mode = mode ∧ e.name = name)) ++
          (memo.columns.toList.filter fun x => !(position == x.1)).flatMap
            fun x => columnKeys x.1 x.2)) := by
    have hothers : (memo.columns.toList.filter fun x => ¬ position == x.1) =
        memo.columns.toList.filter fun x => !(position == x.1) :=
      List.filter_congr fun x _ => by cases position == x.1 <;> rfl
    rw [← hothers]
    exact Std.TreeMap.toList_insert_perm.flatMap_right _
  refine hnew.trans (.cons _ ?_)
  have hold := (memo.keys_perm position).filter (· ≠ (name, position, mode))
  refine .trans (.of_eq ?_) hold.symm
  rw [List.filter_append]
  congr 1
  · rw [columnKeys, columnKeys, List.filter_map]
    congr 1
    refine List.filter_congr fun e _ => ?_
    simp [and_comm]
  · refine (List.filter_eq_self.2 fun key hkey => ?_).symm
    obtain ⟨x, hx, hkey⟩ := List.mem_flatMap.1 hkey
    obtain ⟨e, -, rfl⟩ := List.mem_map.1 hkey
    have hne : ¬ position = x.1 := by simpa using (List.mem_filter.1 hx).2
    simp [Ne.symm hne]

/-- A table with every key once keeps every key once. -/
theorem nodup_keys_insert (h : memo.keys.Nodup) (outcome : Outcome T) :
    (memo.insert name position mode outcome).keys.Nodup := by
  rw [(memo.keys_insert_perm name position mode outcome).nodup_iff, List.nodup_cons]
  exact ⟨by simp, h.filter _⟩

/-- The size grows by one at most. -/
theorem size_insert_le (memo : Memo N T) (name : N) (position : Nat) (mode : Mode)
    (outcome : Outcome T) : (memo.insert name position mode outcome).size ≤ memo.size + 1 := by
  rw [size_eq_length_keys, size_eq_length_keys, (memo.keys_insert_perm _ _ _ _).length_eq,
    List.length_cons]
  exact Nat.succ_le_succ (List.length_filter_le _ _)

/-- The size grows by one if nothing is overwritten. -/
theorem size_insert_of_find?_eq_none (h : memo.find? name position mode = none)
    (outcome : Outcome T) :
    (memo.insert name position mode outcome).size = memo.size + 1 := by
  have hfresh : memo.keys.filter (· ≠ (name, position, mode)) = memo.keys := by
    refine List.filter_eq_self.2 fun key hkey => ?_
    refine decide_eq_true fun heq => ?_
    rw [heq, mem_keys, h] at hkey
    cases hkey
  rw [size_eq_length_keys, size_eq_length_keys, (memo.keys_insert_perm _ _ _ _).length_eq, hfresh,
    List.length_cons]

/-- A table with every key once is not larger than the number of keys that there can be. -/
theorem size_le_of_modes (modes : List Mode) {names : List N} {n : Nat} (hnodup : memo.keys.Nodup)
    (h : ∀ ⦃name p mode⦄, (memo.find? name p mode).isSome →
      name ∈ names ∧ p ≤ n ∧ mode ∈ modes) :
    memo.size ≤ names.length * ((n + 1) * modes.length) := by
  have hsub : memo.keys ⊆ names ×ˢ List.range (n + 1) ×ˢ modes := by
    rintro ⟨name, p, mode⟩ hkey
    obtain ⟨hname, hp, hmode⟩ := h (mem_keys.1 hkey)
    exact List.mem_product.2
      ⟨hname, List.mem_product.2 ⟨List.mem_range.2 (Nat.lt_succ_of_le hp), hmode⟩⟩
  have hlength := (hnodup.subperm hsub).length_le
  rw [List.length_product, List.length_product, List.length_range] at hlength
  rw [size_eq_length_keys]
  exact hlength

/-- In both modes, there are two keys for each name and position. -/
theorem size_le {names : List N} {n : Nat} (hnodup : memo.keys.Nodup)
    (h : ∀ ⦃name p mode⦄, (memo.find? name p mode).isSome → name ∈ names ∧ p ≤ n) :
    memo.size ≤ 2 * names.length * (n + 1) := by
  have hsize := size_le_of_modes [.consuming, .probing] hnodup fun name p mode hkey =>
    ⟨(h hkey).1, (h hkey).2, by cases mode <;> simp⟩
  have hmodes : names.length * ((n + 1) * [Mode.consuming, Mode.probing].length) =
      2 * names.length * (n + 1) := by
    rw [Nat.mul_comm 2, Nat.mul_assoc, Nat.mul_comm 2]
    rfl
  rwa [hmodes] at hsize

end Memo

end Packrat
