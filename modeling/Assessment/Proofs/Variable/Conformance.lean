import Assessment.Proofs.Variable.Fits
import Mathlib.Data.List.Forall2

/-!
# What a variable takes

A variable takes NULL, and the values of its cardinality that have its base type or that hold
integers where it asks for floats. It takes them as they are, but integers as their doubles, one
for one and in order; what it has taken it takes again without a change. Any other value is refused,
and the fault tells whether the cardinality or the base type is wrong, the cardinality first.

The code is `conform`, through which every write goes; section B.3 of the specification has its
rule.

* `Value.Assignable`, `Value.Becomes`: which values a variable takes, and what becomes of them.
* `conform_eq_ok_iff`, `conform_eq_error_iff`: when a value is taken as another, and how it is
  refused.
* `conform_assignable`: a variable takes exactly the assignable values.
-/

namespace Assessment

/-! ## Assignable values -/

/-- A base type stands for another: it is that one, or integers stand for floats. -/
def BaseType.StandsFor (s t : BaseType) : Prop := s = t ∨ s = .integer ∧ t = .float

/-- A value can be assigned to a variable of a signature: it is NULL, or has the cardinality and, if
there is one, a base type that stands for the base type of the signature. -/
def Value.Assignable (v : Value) (g : Signature) : Prop :=
  v = .null ∨ v.cardinality? = some g.cardinality ∧
    ∀ t, g.baseType = some t → ∃ s, v.baseType? = some s ∧ s.StandsFor t

/-- What becomes of a scalar: itself, or the double of an integer. -/
inductive Scalar.Becomes : Scalar → Scalar → Prop
  | kept (s : Scalar) : Becomes s s
  | widened (n : Int64) : Becomes (.integer n) (.float (Numeric.toFloat n))

/-- What becomes of a value: one of the same shape, its scalars one for one and in order. A record
stays as it is. -/
inductive Value.Becomes : Value → Value → Prop
  | null : Becomes .null .null
  | single {s s' : Scalar} : s.Becomes s' → Becomes (.single s) (.single s')
  | multiple {c c' : Container} :
      List.Forall₂ Scalar.Becomes c.items c'.items → Becomes (.multiple c) (.multiple c')
  | ordered {c c' : Container} :
      List.Forall₂ Scalar.Becomes c.items c'.items → Becomes (.ordered c) (.ordered c')
  | record (fields : Table Scalar) : Becomes (.record fields) (.record fields)

variable {id : String} {g : Signature} {v w : Value} {t : BaseType}

theorem Value.Becomes.refl (v : Value) : v.Becomes v := by
  cases v with
  | null => exact .null
  | single s => exact .single (.kept s)
  | multiple c => exact .multiple (List.forall₂_same.2 fun s _ => .kept s)
  | ordered c => exact .ordered (List.forall₂_same.2 fun s _ => .kept s)
  | record fields => exact .record fields

theorem Value.Becomes.eq_null_iff (h : v.Becomes w) : w = .null ↔ v = .null := by
  cases h <;> simp

/-! ## Fitting to a base type -/

theorem Scalar.isSome_conform?_iff {s : Scalar} :
    (s.conform? t).isSome ↔ s.baseType.StandsFor t := by
  cases s <;> cases t <;> simp [conform?, baseType, BaseType.StandsFor]

theorem Scalar.becomes_conform? {s s' : Scalar} (h : s.conform? t = some s') : s.Becomes s' := by
  unfold conform? at h
  split at h
  · cases h
    exact .widened _
  · obtain ⟨-, rfl⟩ : s.baseType = t ∧ s = s' := by simpa using h
    exact .kept s

theorem Container.isSome_conform?_iff {c : Container} :
    (c.conform? t).isSome ↔ c.baseType.StandsFor t := by
  unfold conform? BaseType.StandsFor
  split_ifs with hw he <;> simp [*]

/-- The elements of a container of integers are integers, so that none is lost. -/
theorem Container.becomes_widen {c : Container} (h : c.baseType = .integer) :
    List.Forall₂ Scalar.Becomes c.items c.widen.items := by
  refine List.forall₂_map_right_iff.2 (List.forall₂_same.2 fun s hs => ?_)
  have hs' : s.baseType = .integer := (c.homogeneous s hs).trans h
  cases s with
  | integer n => exact .widened n
  | _ => cases hs'

theorem Container.becomes_conform? {c c' : Container} (h : c.conform? t = some c') :
    List.Forall₂ Scalar.Becomes c.items c'.items := by
  unfold conform? at h
  split_ifs at h with hw
  · cases h
    exact becomes_widen hw.1
  · cases h
    exact List.forall₂_same.2 fun s _ => .kept s

theorem Value.isSome_conform?_iff (hv : v ≠ .null) (hr : v.cardinality? ≠ some .record) :
    (v.conform? t).isSome ↔ ∃ s, v.baseType? = some s ∧ s.StandsFor t := by
  cases v with
  | null => exact absurd rfl hv
  | record _ => exact absurd rfl hr
  | single s => simp [conform?, baseType?, Scalar.isSome_conform?_iff]
  | multiple c | ordered c => simp [conform?, baseType?, Container.isSome_conform?_iff]

theorem Value.becomes_conform? (h : v.conform? t = some w) : v.Becomes w := by
  cases v with
  | null | record _ =>
    cases h
    exact .refl _
  | single s =>
    obtain ⟨s', hs, rfl⟩ := Option.map_eq_some_iff.1 h
    exact .single (Scalar.becomes_conform? hs)
  | multiple c =>
    obtain ⟨c', hc, rfl⟩ := Option.map_eq_some_iff.1 h
    exact .multiple (Container.becomes_conform? hc)
  | ordered c =>
    obtain ⟨c', hc, rfl⟩ := Option.map_eq_some_iff.1 h
    exact .ordered (Container.becomes_conform? hc)

/-! ## Taking and refusing -/

/-- How a variable is named in the faults of what it does not take. -/
def variableContext (identifier : String) : String := "variable '" ++ identifier ++ "'"

/-- The fault of a value with the right cardinality but without the base type. -/
def wrongBaseType (identifier : String) (v : Value) (t : BaseType) : Fault :=
  .baseTypeMismatch (variableContext identifier) t.name v.describe

/-- The fault of a value with the wrong cardinality. -/
def wrongCardinality (identifier : String) (v : Value) (c : Cardinality) : Fault :=
  .cardinalityMismatch (variableContext identifier) c.name v.describe

theorem conform_null (id : String) (g : Signature) : conform id .null g = .ok .null := rfl

theorem conform_of_cardinality_ne (hv : v ≠ .null) (hc : v.cardinality? ≠ some g.cardinality) :
    conform id v g = .error (wrongCardinality id v g.cardinality) := by
  rw [conform, if_neg (mt Value.cardinality?_eq_none_iff.1 hv), if_pos hc]
  rfl

theorem conform_of_untyped (hc : v.cardinality? = some g.cardinality) (hb : g.baseType = none) :
    conform id v g = .ok v := by
  rw [conform, if_neg (by rw [hc]; exact Option.some_ne_none _), if_neg (not_not_intro hc), hb]

theorem conform_of_typed (hc : v.cardinality? = some g.cardinality) (hb : g.baseType = some t) :
    conform id v g = match v.conform? t with
      | some w => .ok w
      | none => .error (wrongBaseType id v t) := by
  rw [conform, if_neg (by rw [hc]; exact Option.some_ne_none _), if_neg (not_not_intro hc), hb]
  rfl

/-- When a value is taken as another. -/
theorem conform_eq_ok_iff : conform id v g = .ok w ↔
    v = .null ∧ w = .null ∨ v.cardinality? = some g.cardinality ∧
      (g.baseType = none ∧ w = v ∨ ∃ t, g.baseType = some t ∧ v.conform? t = some w) := by
  by_cases hv : v = .null
  · subst hv
    simp [conform_null, Value.cardinality?, eq_comm]
  by_cases hc : v.cardinality? = some g.cardinality
  · cases hb : g.baseType with
    | none => simp [conform_of_untyped hc hb, hv, hc, eq_comm]
    | some t => cases hw : v.conform? t <;> simp [conform_of_typed hc hb, hv, hc, hw]
  · simp [conform_of_cardinality_ne hv hc, hv, hc]

/-- When a value is refused, and how. -/
theorem conform_eq_error_iff {f : Fault} : conform id v g = .error f ↔
    v ≠ .null ∧
      (v.cardinality? ≠ some g.cardinality ∧ f = wrongCardinality id v g.cardinality ∨
        v.cardinality? = some g.cardinality ∧
          ∃ t, g.baseType = some t ∧ v.conform? t = none ∧ f = wrongBaseType id v t) := by
  by_cases hv : v = .null
  · subst hv
    simp [conform_null]
  by_cases hc : v.cardinality? = some g.cardinality
  · cases hb : g.baseType with
    | none => simp [conform_of_untyped hc hb, hc]
    | some t => cases hw : v.conform? t <;> simp [conform_of_typed hc hb, hv, hc, hw, eq_comm]
  · simp [conform_of_cardinality_ne hv hc, hv, hc, eq_comm]

theorem becomes_conform (h : conform id v g = .ok w) : v.Becomes w := by
  rcases conform_eq_ok_iff.1 h with ⟨rfl, rfl⟩ | ⟨-, ⟨-, rfl⟩ | ⟨t, -, hw⟩⟩
  · exact .null
  · exact .refl _
  · exact Value.becomes_conform? hw

/-- Exactly the assignable values are taken. -/
theorem exists_conform_iff (hg : g.cardinality = .record → g.baseType = none) :
    (∃ w, conform id v g = .ok w) ↔ v.Assignable g := by
  by_cases hv : v = .null
  · subst hv
    exact iff_of_true ⟨_, conform_null id g⟩ (.inl rfl)
  rw [Value.Assignable, or_iff_right hv]
  by_cases hc : v.cardinality? = some g.cardinality
  · rw [and_iff_right hc]
    cases hb : g.baseType with
    | none =>
      refine iff_of_true ⟨v, conform_of_untyped hc hb⟩ fun t ht => ?_
      cases ht
    | some t =>
      have hr : v.cardinality? ≠ some .record := fun hr => by
        rw [hg (Option.some.inj (hc.symm.trans hr))] at hb
        cases hb
      simp only [Option.some.injEq, forall_eq', ← Value.isSome_conform?_iff hv hr,
        conform_of_typed hc hb]
      cases v.conform? t <;> simp
  · refine iff_of_false ?_ fun h => hc h.1
    rintro ⟨w, hw⟩
    rw [conform_of_cardinality_ne hv hc] at hw
    cases hw

/-- **A variable takes exactly the assignable values.** A value that is taken is NULL if and only if
what becomes of it is, and else gets the cardinality and the base type; its elements are kept one
for one and in order, each as it is or, an integer, as its double; and the result is taken as it is.
A value is refused for its cardinality, and if that is right for its base type. -/
theorem conform_assignable (id : String) (v : Value) (g : Signature)
    (hg : g.cardinality = .record → g.baseType = none) :
    ((∃ w, conform id v g = .ok w) ↔ v.Assignable g) ∧
      (∀ w, conform id v g = .ok w →
        (w = .null ↔ v = .null) ∧ (v ≠ .null → w.Has g) ∧ v.Becomes w ∧
          ∀ id', conform id' w g = .ok w) ∧
      ∀ f, conform id v g = .error f →
        v.cardinality? ≠ some g.cardinality ∧ f = wrongCardinality id v g.cardinality ∨
          v.cardinality? = some g.cardinality ∧
            ∃ t, g.baseType = some t ∧ f = wrongBaseType id v t := by
  refine ⟨exists_conform_iff hg, fun w hw => ?_, fun f hf => ?_⟩
  · have hfits := conform_fits hg hw
    have hnull := (becomes_conform hw).eq_null_iff
    exact ⟨hnull, fun hv => hfits.resolve_left (mt hnull.1 hv), becomes_conform hw,
      fun _ => conform_of_fits hfits⟩
  · obtain ⟨-, h | ⟨hc, t, hb, -, rfl⟩⟩ := conform_eq_error_iff.1 hf
    · exact .inl h
    · exact .inr ⟨hc, t, hb, rfl⟩

/-- Two whole scores. -/
def wholeScores : Container := ⟨.integer, [.integer 1, .integer 2], by decide⟩

/-- A sequence of floats takes whole scores, and what becomes of them is a sequence of floats. -/
theorem conform_wholeScores :
    ((Cardinality.ordered = .record → some BaseType.float = none) ∧
      Value.Assignable (.ordered wholeScores) ⟨.ordered, some .float⟩) ∧
    ∃ w, conform "SCORES" (.ordered wholeScores) ⟨.ordered, some .float⟩ = .ok w ∧
      w.Has ⟨.ordered, some .float⟩ ∧ Value.Becomes (.ordered wholeScores) w := by
  have hg : Cardinality.ordered = .record → some BaseType.float = none := fun h => by cases h
  have hassignable : Value.Assignable (.ordered wholeScores) ⟨.ordered, some .float⟩ :=
    .inr ⟨rfl, fun t ht => ⟨.integer, rfl, .inr ⟨rfl, (Option.some.inj ht).symm⟩⟩⟩
  obtain ⟨hok, htaken, -⟩ :=
    conform_assignable "SCORES" (.ordered wholeScores) ⟨.ordered, some .float⟩ hg
  obtain ⟨w, hw⟩ := hok.2 hassignable
  obtain ⟨-, hhas, hbecomes, -⟩ := htaken w hw
  exact ⟨⟨hg, hassignable⟩, w, hw, hhas (fun h => by cases h), hbecomes⟩

end Assessment
