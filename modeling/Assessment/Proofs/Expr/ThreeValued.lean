import Assessment.Proofs.Expr.NullOperand
import Mathlib.Data.List.Forall2

/-!
# Logic with NULL

The operands of `and`, `or` and `anyN` are booleans or count as NULL. A completion puts a boolean in
the place of every operand that counts as NULL. Each operator has a condition on the booleans of its
operands, and its value tells what the completions have in common: TRUE where all of them satisfy
the condition, FALSE where none does, and NULL where that is open.

The code is the arms and, or and anyN of `eval_expr`. The junctions stop at the first operand that
decides, which could hide a later one that is a fault or NULL; exactness is stated for operands that
are booleans or count as NULL, where stopping early and going on agree.

* `Junction.value_eq_decisive_iff`, `Junction.value_eq_other_iff`: the two junctions at once.
* `exists_completes_iff`: how many operands are true in some completion.
* `Expr.eval_threeValued`: the operators are exact, whatever the order of their operands.
-/

namespace Assessment

variable {σ : Type} {vs ws : List Value} {bs : List Bool} {d : Bool} {v : Value}

/-! ## Completions -/

/-- A boolean, or what counts as NULL. -/
def Value.IsTruth (v : Value) : Prop := v.isNull = true ∨ ∃ b, v = .ofBool b

/-- Booleans that agree with the operands that do not count as NULL. -/
def Completes (vs : List Value) (bs : List Bool) : Prop :=
  List.Forall₂ (fun v b => v.isNull = true ∨ v = .ofBool b) vs bs

theorem Value.ofBool_inj {b c : Bool} : Value.ofBool b = .ofBool c ↔ b = c := by
  simp [Value.ofBool]

theorem Value.isNull_ofBool (b : Bool) : (Value.ofBool b).isNull = false := rfl

/-- The completion with one boolean for all operands that count as NULL. -/
def completion (d : Bool) (vs : List Value) : List Bool :=
  vs.map fun v => if v.isNull then d else v == .ofBool true

theorem completes_completion (d : Bool) (h : ∀ v ∈ vs, v.IsTruth) :
    Completes vs (completion d vs) := by
  rw [Completes, completion, List.forall₂_map_right_iff, List.forall₂_same]
  intro v hv
  rcases h v hv with hnull | ⟨b, rfl⟩
  · exact .inl hnull
  · refine .inr ?_
    cases b <;> rfl

/-- A completion with a boolean has it from an operand. -/
theorem Completes.exists_of_mem (h : Completes vs bs) (hd : d ∈ bs) :
    ∃ v ∈ vs, v.isNull = true ∨ v = .ofBool d := by
  induction h with
  | nil => cases hd
  | cons hv _ ih =>
    rcases List.mem_cons.1 hd with rfl | hd
    · exact ⟨_, List.mem_cons_self, hv⟩
    · obtain ⟨w, hw, hor⟩ := ih hd
      exact ⟨w, List.mem_cons_of_mem _ hw, hor⟩

/-- A boolean among the operands is in every completion. -/
theorem Completes.mem (h : Completes vs bs) (hd : .ofBool d ∈ vs) : d ∈ bs := by
  induction h with
  | nil => cases hd
  | cons hv _ ih =>
    rcases List.mem_cons.1 hd with rfl | hd
    · rcases hv with hnull | heq
      · cases hnull
      · rw [Value.ofBool_inj.1 heq]
        exact List.mem_cons_self
    · exact List.mem_cons_of_mem _ (ih hd)

/-! ## Junctions -/

/-- The value of a junction for the values of its operands. -/
def Junction.value (j : Junction) (vs : List Value) : Value :=
  if .ofBool j.decisive ∈ vs then .ofBool j.decisive
  else if vs.any Value.isNull then .null
  else .ofBool (!j.decisive)

/-- A junction has its decisive value exactly when every completion does. -/
theorem Junction.value_eq_decisive_iff (j : Junction) (h : ∀ v ∈ vs, v.IsTruth) :
    j.value vs = .ofBool j.decisive ↔ ∀ bs, Completes vs bs → j.decisive ∈ bs := by
  constructor
  · intro hv bs hbs
    refine hbs.mem (Classical.byContradiction fun hmem => ?_)
    rw [Junction.value, if_neg hmem] at hv
    split at hv
    · cases hv
    · exact absurd (Value.ofBool_inj.1 hv) (by simp)
  · intro hall
    -- With the other value for every NULL, the decisive one can only come from an operand.
    have hmem := hall _ (completes_completion (!j.decisive) h)
    obtain ⟨v, hv, heq⟩ := List.mem_map.1 hmem
    split_ifs at heq with hnull
    · simp at heq
    · rcases h v hv with hnull' | ⟨b, rfl⟩
      · exact absurd hnull' hnull
      · have hb : b = j.decisive := by
          rw [← heq]
          cases b <;> rfl
        rw [Junction.value, if_pos (hb ▸ hv)]

/-- A junction has the other value exactly when no completion has the decisive one. -/
theorem Junction.value_eq_other_iff (j : Junction) (h : ∀ v ∈ vs, v.IsTruth) :
    j.value vs = .ofBool (!j.decisive) ↔ ∀ bs, Completes vs bs → j.decisive ∉ bs := by
  constructor
  · intro hv bs hbs hmem
    obtain ⟨v, hvs, hor⟩ := hbs.exists_of_mem hmem
    rw [Junction.value] at hv
    split_ifs at hv with hd hnull
    · exact absurd (Value.ofBool_inj.1 hv) (by simp)
    · cases hv
    · rcases hor with hor | rfl
      · exact hnull (List.any_eq_true.2 ⟨v, hvs, hor⟩)
      · exact hd hvs
  · intro hall
    have hnot := hall _ (completes_completion j.decisive h)
    have hd : .ofBool j.decisive ∉ vs := fun hmem =>
      hnot ((completes_completion j.decisive h).mem hmem)
    have hnull : ¬ vs.any Value.isNull = true := by
      intro hany
      obtain ⟨v, hv, hnull⟩ := List.any_eq_true.1 hany
      exact hnot (List.mem_map.2 ⟨v, hv, by rw [if_pos hnull]⟩)
    rw [Junction.value, if_neg hd, if_neg hnull]

/-! ## Counts -/

/-- How many operands are true. -/
def trues (vs : List Value) : Nat := vs.count (.ofBool true)

/-- How many operands count as NULL. -/
def nulls (vs : List Value) : Nat := vs.countP Value.isNull

theorem trues_cons (v : Value) (vs : List Value) :
    trues (v :: vs) = trues vs + if v = .ofBool true then 1 else 0 := by
  rw [trues, List.count_cons, ← trues]
  simp only [beq_iff_eq]

theorem nulls_cons (v : Value) (vs : List Value) :
    nulls (v :: vs) = nulls vs + if v.isNull = true then 1 else 0 := List.countP_cons

theorem Completes.count_mem (h : Completes vs bs) :
    trues vs ≤ bs.count true ∧ bs.count true ≤ trues vs + nulls vs := by
  induction h with
  | nil => exact ⟨Nat.le_refl _, Nat.le_refl _⟩
  | @cons v b vs bs hv _ ih =>
    rw [trues_cons, nulls_cons, List.count_cons]
    rcases hv with hnull | rfl
    · rw [if_pos hnull, if_neg (by rintro rfl; cases hnull)]
      cases b <;> simp <;> omega
    · rw [Value.isNull_ofBool]
      cases b <;> simp [Value.ofBool_inj] <;> omega

/-- **The counts of the completions**: the operands that are true, and as many more as count as NULL
at most. -/
theorem exists_completes_iff (h : ∀ v ∈ vs, v.IsTruth) (k : Nat) :
    (∃ bs, Completes vs bs ∧ bs.count true = k) ↔ trues vs ≤ k ∧ k ≤ trues vs + nulls vs := by
  constructor
  · rintro ⟨bs, hbs, rfl⟩
    exact hbs.count_mem
  · rintro ⟨hle, hge⟩
    induction vs generalizing k with
    | nil => exact ⟨[], .nil, (Nat.le_zero.1 hge).symm⟩
    | cons v vs ih =>
      obtain ⟨hv, hvs⟩ := List.forall_mem_cons.1 h
      rw [trues_cons] at hle hge
      rw [nulls_cons] at hge
      rcases hv with hnull | ⟨b, rfl⟩
      · rw [if_neg (by rintro rfl; cases hnull)] at hle hge
        rw [if_pos hnull] at hge
        -- The operand counts as NULL: it is false unless the others cannot make up the count.
        by_cases hk : k ≤ trues vs + nulls vs
        · obtain ⟨bs, hbs, rfl⟩ := ih hvs k (by omega) hk
          exact ⟨false :: bs, .cons (.inl hnull) hbs, by simp⟩
        · obtain ⟨bs, hbs, hcount⟩ := ih hvs (k - 1) (by omega) (by omega)
          exact ⟨true :: bs, .cons (.inl hnull) hbs, by simp; omega⟩
      · rw [Value.isNull_ofBool] at hge
        cases b with
        | false =>
          simp only [Value.ofBool_inj, Bool.false_eq_true, if_false] at hle hge
          obtain ⟨bs, hbs, hcount⟩ := ih hvs k (by omega) (by omega)
          exact ⟨false :: bs, .cons (.inr rfl) hbs, by simpa using hcount⟩
        | true =>
          simp only [Bool.false_eq_true, if_true, if_false] at hle hge
          obtain ⟨bs, hbs, hcount⟩ := ih hvs (k - 1) (by omega) (by omega)
          exact ⟨true :: bs, .cons (.inr rfl) hbs, by simp; omega⟩

/-- What holds of the counts of all completions. -/
theorem forall_completes_count_iff (h : ∀ v ∈ vs, v.IsTruth) (P : Nat → Prop) :
    (∀ bs, Completes vs bs → P (bs.count true)) ↔
      ∀ k, trues vs ≤ k → k ≤ trues vs + nulls vs → P k := by
  constructor
  · intro hall k hle hge
    obtain ⟨bs, hbs, rfl⟩ := (exists_completes_iff h k).2 ⟨hle, hge⟩
    exact hall bs hbs
  · intro hall bs hbs
    exact hall _ hbs.count_mem.1 hbs.count_mem.2

/-! ## Counting between bounds -/

variable {lo hi : Int64} {m n : Nat}

theorem countBetween_eq_true_iff :
    countBetween lo hi m n = .ofBool true ↔ lo.toInt ≤ m ∧ (m : Int) + n ≤ hi.toInt := by
  simp only [countBetween, Bool.or_eq_true, Bool.and_eq_true, decide_eq_true_eq]
  split_ifs with h₁ h₂
  · simp only [Value.ofBool_inj, Bool.false_eq_true, false_iff]
    omega
  · exact iff_of_true rfl h₂
  · exact iff_of_false nofun h₂

theorem countBetween_eq_false_iff :
    countBetween lo hi m n = .ofBool false ↔ hi.toInt < m ∨ (m : Int) + n < lo.toInt := by
  simp only [countBetween, Bool.or_eq_true, Bool.and_eq_true, decide_eq_true_eq]
  split_ifs with h₁ h₂
  · exact iff_of_true rfl h₁
  · simp only [Value.ofBool_inj, Bool.true_eq_false, false_iff]
    exact h₁
  · exact iff_of_false nofun h₁

theorem countBetween_cases (lo hi : Int64) (m n : Nat) :
    countBetween lo hi m n = .null ∨ ∃ b, countBetween lo hi m n = .ofBool b := by
  simp only [countBetween]
  split_ifs
  · exact .inr ⟨false, rfl⟩
  · exact .inr ⟨true, rfl⟩
  · exact .inl rfl

/-! ## The three operators -/

/-- What an operator on truth values asks of the booleans of its operands. -/
inductive Condition where
  | junction (j : Junction)
  /-- So many are true. -/
  | count (lo hi : Int64)

namespace Condition

variable {q : Condition}

/-- Whether booleans satisfy a condition. -/
def Holds : Condition → List Bool → Prop
  | junction .all, bs => ∀ b ∈ bs, b = true
  | junction .any, bs => ∃ b ∈ bs, b = true
  | count lo hi, bs => lo.toInt ≤ bs.count true ∧ (bs.count true : Int) ≤ hi.toInt

/-- The bounds of a count are in order. -/
def Ordered : Condition → Prop
  | junction _ => True
  | count lo hi => lo.toInt ≤ hi.toInt

/-- The value of the operator for the values of its operands. -/
def value : Condition → List Value → Value
  | junction j, vs => j.value vs
  | count lo hi, vs => countBetween lo hi (trues vs) (nulls vs)

/-- **A value tells of a condition what the completions have in common**: TRUE exactly where all
satisfy it, FALSE only where none does, and exactly there when the bounds are in order; it is NULL
otherwise. -/
structure Settles (q : Condition) (vs : List Value) (r : Value) : Prop where
  null_or_ofBool : r = .null ∨ ∃ b, r = .ofBool b
  true_iff : r = .ofBool true ↔ ∀ bs, Completes vs bs → q.Holds bs
  of_false : r = .ofBool false → ∀ bs, Completes vs bs → ¬ q.Holds bs
  false_iff : q.Ordered → (r = .ofBool false ↔ ∀ bs, Completes vs bs → ¬ q.Holds bs)

theorem settles_junction (j : Junction) (h : ∀ v ∈ vs, v.IsTruth) :
    (junction j).Settles vs (j.value vs) := by
  have hcases : j.value vs = .null ∨ ∃ b, j.value vs = .ofBool b := by
    rw [Junction.value]
    split_ifs
    · exact .inr ⟨_, rfl⟩
    · exact .inl rfl
    · exact .inr ⟨_, rfl⟩
  have hdecisive := j.value_eq_decisive_iff h
  have hother := j.value_eq_other_iff h
  cases j with
  | all =>
    have htrue (bs : List Bool) : (junction .all).Holds bs ↔ false ∉ bs := by
      simp [Holds]
    have hfalse (bs : List Bool) : ¬ (junction .all).Holds bs ↔ false ∈ bs := by
      rw [htrue, not_not]
    simp only [Junction.decisive, Bool.not_false] at hdecisive hother
    refine ⟨hcases, ?_, ?_, fun _ => ?_⟩
    · simpa only [htrue] using hother
    · simpa only [hfalse] using hdecisive.1
    · simpa only [hfalse] using hdecisive
  | any =>
    have htrue (bs : List Bool) : (junction .any).Holds bs ↔ true ∈ bs := by
      simp [Holds]
    simp only [Junction.decisive, Bool.not_true] at hdecisive hother
    refine ⟨hcases, ?_, ?_, fun _ => ?_⟩
    · simpa only [htrue] using hdecisive
    · simpa only [htrue] using hother.1
    · simpa only [htrue] using hother

theorem settles_count (lo hi : Int64) (h : ∀ v ∈ vs, v.IsTruth) :
    (count lo hi).Settles vs (countBetween lo hi (trues vs) (nulls vs)) := by
  have hall := forall_completes_count_iff h fun k => lo.toInt ≤ k ∧ (k : Int) ≤ hi.toInt
  have hnone := forall_completes_count_iff h fun k => ¬ (lo.toInt ≤ k ∧ (k : Int) ≤ hi.toInt)
  refine ⟨countBetween_cases .., ?_, ?_, ?_⟩
  · rw [countBetween_eq_true_iff]
    refine Iff.trans ⟨fun hb k hle hge => by omega, fun hb => ?_⟩ hall.symm
    have h₁ := hb (trues vs) (Nat.le_refl _) (Nat.le_add_right ..)
    have h₂ := hb (trues vs + nulls vs) (Nat.le_add_right ..) (Nat.le_refl _)
    omega
  · rw [countBetween_eq_false_iff]
    exact fun hb => hnone.2 fun k hle hge => by omega
  · intro hord
    rw [countBetween_eq_false_iff]
    refine Iff.trans ⟨fun hb k hle hge => by omega, fun hb => ?_⟩ hnone.symm
    -- Intervals that overlap share the greater of their lower ends.
    have hle : lo.toInt ≤ hi.toInt := hord
    by_contra hover
    by_cases hlo : lo.toInt ≤ trues vs
    · exact hb (trues vs) (Nat.le_refl _) (Nat.le_add_right ..) (by omega)
    · exact hb lo.toInt.toNat (by omega) (by omega) (by omega)

theorem settles_value (q : Condition) (h : ∀ v ∈ vs, v.IsTruth) : q.Settles vs (q.value vs) := by
  cases q with
  | junction j => exact settles_junction j h
  | count lo hi => exact settles_count lo hi h

/-- The order of the operands makes no difference. -/
theorem value_of_perm (q : Condition) (h : ws.Perm vs) : q.value ws = q.value vs := by
  cases q with
  | junction j => simp only [value, Junction.value, h.mem_iff, h.any_eq]
  | count lo hi => simp only [value, trues, nulls, h.count_eq, h.countP_eq]

end Condition

/-! ## The expressions -/

namespace Expr

open Eval

variable {env : Environment σ} {store : Store} {t u : Trail σ}

theorem runOn_countTrue : ∀ {es : List Expr} {vs : List Value} {t : Trail σ},
    (evalAll env store es).runOn t = (.ok vs, u) → (∀ v ∈ vs, v.IsTruth) →
      (countTrue env store es).runOn t = (.ok (trues vs, nulls vs), u)
  | [], vs, t, hvs, _ => by
    obtain ⟨rfl, rfl⟩ := runOn_evalAll_nil_iff.1 hvs
    rw [countTrue]
    rfl
  | e :: es, vs, t, hvs, h => by
    obtain ⟨v, w, vs, hv, hrest, rfl⟩ := runOn_evalAll_cons_iff.1 hvs
    obtain ⟨htruth, htruths⟩ := List.forall_mem_cons.1 h
    have ih := runOn_countTrue hrest htruths
    rw [countTrue, runOn_bind_of_ok hv, trues_cons, nulls_cons]
    rcases htruth with hnull | ⟨b, rfl⟩
    · rw [if_pos hnull, runOn_bind_of_ok ih, if_pos hnull, if_neg (by rintro rfl; cases hnull)]
      rfl
    · rw [Value.isNull_ofBool, if_neg (by simp), runOn_bind_of_ok (a := b) (by rfl),
        runOn_bind_of_ok ih]
      cases b <;> rfl

/-- A junction that has seen no decisive operand goes on to the value for those seen and those to
come. -/
theorem runOn_evalJunction (j : Junction) :
    ∀ {es : List Expr} (seen : List Value) {vs : List Value} {t : Trail σ},
    (evalAll env store es).runOn t = (.ok vs, u) → (∀ v ∈ vs, v.IsTruth) →
      .ofBool j.decisive ∉ seen →
      ((evalJunction env store j (seen.any Value.isNull) es).runOn t).1 = .ok (j.value (seen ++ vs))
  | [], seen, vs, t, hvs, _, hseen => by
    obtain ⟨rfl, rfl⟩ := runOn_evalAll_nil_iff.1 hvs
    rw [evalJunction, runOn_pure, List.append_nil, Junction.value, if_neg hseen]
  | e :: es, seen, vs, t, hvs, h, hseen => by
    obtain ⟨v, w, vs, hv, hrest, rfl⟩ := runOn_evalAll_cons_iff.1 hvs
    obtain ⟨htruth, htruths⟩ := List.forall_mem_cons.1 h
    rw [evalJunction, runOn_bind_of_ok hv]
    rcases htruth with hnull | ⟨b, rfl⟩
    · have hne : .ofBool j.decisive ∉ seen ++ [v] := by
        simp only [List.mem_append, List.mem_singleton, not_or]
        exact ⟨hseen, by rintro rfl; cases hnull⟩
      have ih := runOn_evalJunction j _ hrest htruths hne
      rw [List.any_append, List.any_cons, hnull, List.append_assoc] at ih
      rw [if_pos hnull]
      simpa using ih
    · rw [Value.isNull_ofBool, if_neg (by simp), runOn_bind_of_ok (a := b) (by rfl)]
      by_cases hb : b = j.decisive
      · rw [if_pos (by simpa using hb), runOn_pure, Junction.value, if_pos (by simp [hb]), hb]
      · have hne : .ofBool j.decisive ∉ seen ++ [.ofBool b] := by
          simp only [List.mem_append, List.mem_singleton, not_or, Value.ofBool_inj]
          exact ⟨hseen, fun heq => hb heq.symm⟩
        have ih := runOn_evalJunction j _ hrest htruths hne
        rw [List.any_append, List.any_cons, Value.isNull_ofBool, List.append_assoc] at ih
        rw [if_neg (by simpa using hb)]
        simpa using ih

/-- The condition of an operator on truth values, where its bounds have values. -/
def condition? (store : Store) : Expr → Option Condition
  | .junction j _ => some (.junction j)
  | .anyN min max _ =>
    match resolveBounds store min max with
    | .ok (some (lo, hi)) => some (.count lo hi)
    | _ => none
  | _ => none

/-- An operator on truth values has the value of its condition. -/
theorem runOn_eval_of_condition? {e : Expr} {q : Condition} (hq : e.condition? store = some q)
    (hvs : (evalAll env store e.operands).runOn t = (.ok vs, u)) (h : ∀ v ∈ vs, v.IsTruth) :
    ((e.eval env store).runOn t).1 = .ok (q.value vs) := by
  unfold condition? at hq
  split at hq
  · cases hq
    rw [eval]
    exact runOn_evalJunction _ [] hvs h (by simp)
  · split at hq
    · rename_i hbounds
      cases hq
      rw [eval, runOn_bind_of_ok (by rw [runOn_ofExcept, hbounds])]
      exact congrArg Prod.fst (runOn_bind_of_ok (runOn_countTrue hvs h))
    · cases hq
  · cases hq

/-- **`and`, `or` and `anyN` are exact three-valued logic.** When the operands have values that are
booleans or count as NULL, the operator has a value, which settles its condition for the
completions; and an expression with the same condition, on operands with the same values in another
order, has the same value. -/
theorem eval_threeValued {e : Expr} {q : Condition} (hq : e.condition? store = some q)
    (hvs : (evalAll env store e.operands).runOn t = (.ok vs, u)) (h : ∀ v ∈ vs, v.IsTruth) :
    ∃ r, ((e.eval env store).runOn t).1 = .ok r ∧ q.Settles vs r ∧
      ∀ {τ : Type} (env' : Environment τ) (store' : Store) (e' : Expr) (t' u' : Trail τ)
        (ws : List Value), e'.condition? store' = some q →
        (evalAll env' store' e'.operands).runOn t' = (.ok ws, u') → ws.Perm vs →
        ((e'.eval env' store').runOn t').1 = .ok r := by
  refine ⟨q.value vs, runOn_eval_of_condition? hq hvs h, q.settles_value h, ?_⟩
  intro τ env' store' e' t' u' ws hq' hws hperm
  rw [runOn_eval_of_condition? hq' hws fun v hv => h v (hperm.mem_iff.1 hv), q.value_of_perm hperm]

/-- TRUE, NULL and an empty text. -/
def openOperands : List Expr := [.literal (.boolean true), .null, .literal (.string "")]

/-- Whether one or two of TRUE, NULL and an empty text are true is open, and stays so when the
operands stand the other way round. -/
theorem eval_anyN_open :
    (Condition.count 1 2).Settles [.ofBool true, .null, .single (.string "")] .null ∧
      (((Expr.anyN (.value 1) (.value 2) openOperands.reverse).eval .replay .empty).runOn
        (.start ⟨[], []⟩)).1 = .ok .null := by
  have hvs : (evalAll .replay .empty openOperands).runOn (.start ⟨[], []⟩) =
      (.ok [.ofBool true, .null, .single (.string "")], .start ⟨[], []⟩) := by
    simp only [openOperands, evalAll, eval]
    rfl
  have hws : (evalAll .replay .empty openOperands.reverse).runOn (.start ⟨[], []⟩) =
      (.ok [.single (.string ""), .null, .ofBool true], .start ⟨[], []⟩) := by
    simp only [openOperands, List.reverse_cons, List.reverse_nil, List.nil_append,
      List.cons_append, evalAll, eval]
    rfl
  have htruth : ∀ v ∈ [Value.ofBool true, .null, .single (.string "")], v.IsTruth := by
    simp [Value.IsTruth, Value.isNull]
  have hvalue : (((Expr.anyN (.value 1) (.value 2) openOperands).eval .replay .empty).runOn
      (.start ⟨[], []⟩)).1 = .ok .null := by
    simp only [openOperands, eval, countTrue]
    rfl
  obtain ⟨r, hr, hsettles, hperm⟩ :=
    eval_threeValued (e := .anyN (.value 1) (.value 2) openOperands) rfl hvs htruth
  rw [hvalue] at hr
  cases hr
  exact ⟨hsettles, hperm _ _ (.anyN (.value 1) (.value 2) _) _ _ _ rfl hws (by decide)⟩

end Expr

end Assessment
