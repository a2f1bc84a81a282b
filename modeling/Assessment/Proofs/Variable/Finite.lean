import Assessment.Proofs.Value.Finite
import Assessment.Proofs.Variable.View

/-!
# Finite stores

A store is finite when the values, the defaults and the correct responses of its variables are, and
the targets of its lookup tables. What a finite store is given that is finite leaves it so: a
variable takes a value as it is, or with its integers as floats, and these are finite.

Widening is the only change that a write makes to a value, so a store stays finite for the same
reason that the double of an integer is finite.

* `LookupTable.Finite.resolve`: what a finite table gives is finite.
* `finite_conform`: what a variable takes for a finite value is finite.
* `Store.Finite.setValue`, `Store.Finite.setDefault`, `Store.Finite.setCorrect` and the others: what
  each operation leaves is finite.
-/

namespace Assessment

/-! ## Lookup tables -/

namespace LookupTable

/-- The targets of a table, the default among them. -/
def targets : LookupTable → List Scalar
  | matching default entries => default.toList ++ entries.map (·.target)
  | interpolation default entries => default.toList ++ entries.map (·.target)

/-- The floats and durations among the targets are finite. -/
def Finite (table : LookupTable) : Prop := ∀ s ∈ table.targets, s.Finite

theorem mem_of_findMatch {entries : List MatchEntry} {key : Int64} {s : Scalar}
    (h : findMatch entries key = some s) : s ∈ entries.map (·.target) := by
  obtain ⟨e, he, rfl⟩ := Option.map_eq_some_iff.1 h
  exact List.mem_map_of_mem (List.mem_of_find?_eq_some he)

/-- The best entry is the best so far or one of the entries. -/
theorem mem_of_bestFrom {x : Float} {e : InterpolationEntry} :
    ∀ {best : Option InterpolationEntry} {entries : List InterpolationEntry},
      bestFrom x best entries = some e → best = some e ∨ e ∈ entries
  | best, [], h => .inl h
  | best, e' :: rest, h => by
    unfold bestFrom at h
    rcases mem_of_bestFrom h with hbest | hmem
    · split_ifs at hbest
      · cases hbest
        exact .inr List.mem_cons_self
      · exact .inl hbest
    · exact .inr (List.mem_cons_of_mem _ hmem)

theorem mem_of_findBand {entries : List InterpolationEntry} {x : Float} {s : Scalar}
    (h : findBand entries x = some s) : s ∈ entries.map (·.target) := by
  obtain ⟨e, he, rfl⟩ := Option.map_eq_some_iff.1 h
  rcases mem_of_bestFrom he with hnone | hmem
  · cases hnone
  · exact List.mem_map_of_mem hmem

/-- A target that is found, or else the default, is a target. -/
theorem finite_ofScalar?_orElse {o default : Option Scalar} {l : List Scalar}
    (hl : ∀ s ∈ default.toList ++ l, s.Finite) (ho : ∀ s, o = some s → s ∈ l) :
    (Value.ofScalar? (o <|> default)).Finite := by
  refine Value.finite_ofScalar? fun s hs => ?_
  cases o with
  | none => exact hl s (List.mem_append_left _ (Option.mem_toList.2 hs))
  | some s' =>
    cases hs
    exact hl s (List.mem_append_right _ (ho s rfl))

/-- **What a finite table gives is finite**, whatever the source. -/
theorem Finite.resolve {table : LookupTable} (h : table.Finite) (source : Value) :
    Ensures Value.Finite (table.resolve source) := by
  cases table with
  | matching default entries =>
    unfold LookupTable.resolve
    dsimp only
    split
    · exact .ok (finite_ofScalar?_orElse (o := none) h fun _ hs => by cases hs)
    · split
      · exact .ok (finite_ofScalar?_orElse h fun _ => mem_of_findMatch)
      · exact .error _
  | interpolation default entries =>
    unfold LookupTable.resolve
    dsimp only
    split
    · exact .ok (finite_ofScalar?_orElse (o := none) h fun _ hs => by cases hs)
    · split
      · exact .ok (finite_ofScalar?_orElse h fun _ => mem_of_findBand)
      · exact .error _

end LookupTable

/-! ## Fitting a value to a signature -/

theorem finite_widenScalar {s : Scalar} (hs : s.Finite) : (widenScalar s).Finite := by
  show (s.toFloat?.getD 0.0).isFinite
  cases h : s.toFloat? with
  | none => decide
  | some x => exact hs.isFinite_toFloat? h

theorem Scalar.Finite.conform? {s s' : Scalar} {t : BaseType} (hs : s.Finite)
    (h : s.conform? t = some s') : s'.Finite := by
  unfold Scalar.conform? at h
  split at h
  · cases h
    exact Numeric.isFinite_toFloat _
  · split_ifs at h
    cases h
    exact hs

theorem Container.finite_conform? {c c' : Container} {t : BaseType} (hc : ∀ s ∈ c.items, s.Finite)
    (h : c.conform? t = some c') : ∀ s ∈ c'.items, s.Finite := by
  unfold Container.conform? at h
  split_ifs at h
  · cases h
    intro s hs
    obtain ⟨x, hx, rfl⟩ := List.mem_map.1 hs
    exact finite_widenScalar (hc x hx)
  · cases h
    exact hc

theorem Value.Finite.conform? {v w : Value} {t : BaseType} (hv : v.Finite)
    (h : v.conform? t = some w) : w.Finite := by
  cases v with
  | null | record _ =>
    cases h
    exact hv
  | single s =>
    obtain ⟨s', hs, rfl⟩ := Option.map_eq_some_iff.1 h
    exact finite_single ((hv s List.mem_cons_self).conform? hs)
  | multiple c | ordered c =>
    obtain ⟨c', hc, rfl⟩ := Option.map_eq_some_iff.1 h
    exact Container.finite_conform? hv hc

/-- **What a variable takes for a finite value is finite.** -/
theorem finite_conform {v : Value} (hv : v.Finite) (id : String) (g : Signature) :
    Ensures Value.Finite (conform id v g) := by
  unfold conform
  dsimp only
  split_ifs
  · exact .ok hv
  · exact .error _
  · split
    · exact .ok hv
    · split
      · rename_i hw
        exact .ok (hv.conform? hw)
      · exact .error _

/-! ## Stores -/

/-- The value and the default of a slot are finite. -/
structure Slot.Finite (t : Slot) : Prop where
  value : t.value.Finite
  default : t.default.Finite

theorem Slot.Finite.reset {t : Slot} (h : t.Finite) : t.reset.Finite := ⟨h.default, h.default⟩

/-- The targets of the declared lookup tables are finite. -/
def Declarations.Finite (d : Declarations) : Prop :=
  ∀ id table bounds, d.results.get? id = some (some table, bounds) → table.Finite

namespace Store

/-- Every value, default and correct response is finite, and every target of a lookup table. -/
structure Finite (s : Store) : Prop where
  slots : ∀ n id t, s.slotIn? n id = some t → t.Finite
  keys : ∀ id v, s.keys.get? id = some v → v.Finite
  tables : s.declarations.Finite

variable {s s' : Store} {id : String} {n : Namespace} {v : Value}

theorem finite_empty : empty.Finite where
  slots n id t h := by cases n <;> cases h
  keys id v h := by cases h
  tables id table bounds h := by cases h

namespace Finite

/-! ## Reading -/

theorem value (h : s.Finite) (id : String) : Ensures Value.Finite (s.value id) := by
  intro v hv
  obtain ⟨n, t, -, ht, rfl⟩ := value_eq_ok_iff.1 hv
  exact (h.slots n id t ht).value

theorem default (h : s.Finite) (id : String) : Ensures Value.Finite (s.default id) := by
  intro v hv
  obtain ⟨n, t, -, ht, rfl⟩ := default_eq_ok_iff.1 hv
  exact (h.slots n id t ht).default

theorem correct (h : s.Finite) (id : String) : Ensures Value.Finite (s.correct id) := by
  intro v hv
  obtain ⟨r, hr, rfl⟩ := map_eq_ok_iff.1 hv
  refine h.keys id r.correct ?_
  rw [get?_keys, response_eq_ok_iff.1 hr]
  rfl

theorem table (h : s.Finite) {o : OutcomeVariable} (ho : s.outcomes.get? id = some o)
    {table : LookupTable} (ht : o.lookupTable = some table) : table.Finite := by
  refine h.tables id table (o.normalMinimum, o.normalMaximum) ?_
  rw [declarations, Table.get?_map, ho, Option.map_some, ht]

/-! ## Writing -/

/-- A change that keeps a slot finite keeps the store so. -/
theorem modifyIn (h : s.Finite) {f : Slot → Slot}
    (hf : ∀ t, s.slotIn? n id = some t → (f t).Finite)
    (hg : ∀ t, (f t).signature = t.signature) : (s.modifyIn n id f).Finite where
  slots m k t ht := by
    rw [slotIn?_modifyIn] at ht
    split_ifs at ht with hm
    · obtain ⟨rfl, rfl⟩ := hm
      obtain ⟨t', ht', rfl⟩ := Option.map_eq_some_iff.1 ht
      exact hf t' ht'
    · exact h.slots m k t ht
  keys k v hv := by
    rw [keys_modifyIn] at hv
    exact h.keys k v hv
  tables := by
    rw [declarations_modifyIn hg]
    exact h.tables

theorem setValue (h : s.Finite) (hv : v.Finite) (hs : s.setValue id v = .ok s') : s'.Finite := by
  obtain ⟨n, t, w, -, ht, hw, rfl⟩ := setValue_eq_ok_iff.1 hs
  refine h.modifyIn (fun t' ht' => ?_) fun _ => rfl
  exact ⟨finite_conform hv id _ w hw, (h.slots n id t' ht').default⟩

theorem setDefault (h : s.Finite) (hv : v.Finite) (hs : s.setDefault id v = .ok s') :
    s'.Finite := by
  obtain ⟨n, t, w, -, ht, hw, rfl⟩ := setDefault_eq_ok_iff.1 hs
  refine h.modifyIn (fun t' ht' => ?_) fun _ => rfl
  exact ⟨(h.slots n id t' ht').value, finite_conform hv id _ w hw⟩

theorem resetToDefault (h : s.Finite) (hs : s.resetToDefault id = .ok s') : s'.Finite := by
  obtain ⟨v, hv, hs⟩ := bind_eq_ok_iff.1 hs
  exact h.setValue (h.default id v hv) hs

theorem setCorrect (h : s.Finite) (hv : v.Finite) (hs : s.setCorrect id v = .ok s') :
    s'.Finite := by
  obtain ⟨r, w, hr, hw, rfl⟩ := setCorrect_eq_ok_iff.1 hs
  refine ⟨fun m k t ht => ?_, fun k u hu => ?_, ?_⟩
  · rw [← get?_slots, slots_modify_correct, get?_slots] at ht
    exact h.slots m k t ht
  · rw [get?_keys, Table.get?_modify] at hu
    split_ifs at hu with hk
    · subst hk
      rw [hr] at hu
      cases hu
      exact finite_conform hv k _ w hw
    · exact h.keys k u (by rw [get?_keys, hu])
  · rw [declarations_modify_correct]
    exact h.tables

theorem resetTemplates (h : s.Finite) : s.resetTemplates.Finite where
  slots m k t ht := by
    rw [slotIn?_resetTemplates] at ht
    split_ifs at ht
    · obtain ⟨t', ht', rfl⟩ := Option.map_eq_some_iff.1 ht
      exact (h.slots m k t' ht').reset
    · exact h.slots m k t ht
  keys := h.keys
  tables := h.tables

end Finite

end Store

end Assessment
