import Assessment.Interchange.Program
import Assessment.Proofs.Interchange.Declaration
import Assessment.Proofs.Interchange.Reading
import Assessment.Proofs.Program.Finite

/-!
# Expressions and programs that are read are finite

A document holds finite numbers alone, and literals and lookup tables are read from them. So the
expressions and programs that a document can give write down finite floats and durations alone.

The conditions `Expr.Finite` and `Program.Finite` are hypotheses of the results on evaluations and
runs. Here they are discharged for everything that is deserialized: a literal is read by
`Scalar::from_json`, which takes no float that is not finite, and so is every target of an inline
table.

* `finite_expression`, `finite_program`: what is read.
* `staysFinite_of_parse?`: so what is read from a text and evaluated or run stays finite.
-/

namespace Assessment.Interchange

open Reading

variable {α : Type}

theorem ensures_orFault {P : α → Prop} {r : Except Fault α} (h : Ensures P r) :
    Ensures P (orFault r) := fun a ha => h a (orFault_eq_ok_iff.1 ha)

theorem finite_ofJson {t : BaseType} {j : Json} (h : j.Representable) :
    Ensures Scalar.Finite (Scalar.ofJson t j) :=
  fun _ hs => (Scalar.wellFormed_ofJson h hs).finite

/-! ## Lookup tables -/

/-- The targets of a draft are representable. -/
def LookupDraft.Representable : LookupDraft → Prop
  | .matching default entries =>
    (∀ j, default = some j → j.Representable) ∧ ∀ e ∈ entries, e.2.Representable
  | .interpolation default entries =>
    (∀ j, default = some j → j.Representable) ∧ ∀ e ∈ entries, e.2.2.Representable

theorem ensures_matchEntry :
    Decoder.Ensures (fun e : Int64 × Json => e.2.Representable) matchEntry :=
  .record (.seq (.map_forall (fun _ _ hj => hj) _) (.required .raw _))

theorem ensures_interpolationEntry :
    Decoder.Ensures (fun e : Float × Bool × Json => e.2.2.Representable) interpolationEntry :=
  .record (.seq (.seq_forall (.map_forall (fun _ _ _ hj => hj) _) _) (.required .raw _))

theorem ensures_lookupDraftOf {type : String} {r : Reading LookupDraft}
    (h : lookupDraftOf type = some r) : r.Ensures LookupDraft.Representable := by
  unfold lookupDraftOf at h
  split at h
  · cases h
    exact .seq (.map (.option .raw _) fun _ hd _ he => ⟨hd, he⟩)
      (.required (.listOf ensures_matchEntry) _)
  · cases h
    exact .seq (.map (.option .raw _) fun _ hd _ he => ⟨hd, he⟩)
      (.required (.listOf ensures_interpolationEntry) _)
  · cases h

theorem finite_defaultTarget {t : BaseType} {o : Option Json}
    (h : ∀ j, o = some j → j.Representable) :
    Ensures (fun o => ∀ s ∈ o.toList, s.Finite) (defaultTarget t o) := by
  cases o with
  | none => exact .ok (by simp)
  | some j => exact .map (finite_ofJson (h j rfl)) fun s hs => by simpa using hs

theorem finite_matchTargets {t : BaseType} : ∀ {l : List (Int64 × Json)},
    (∀ e ∈ l, e.2.Representable) →
      Ensures (fun es => ∀ e ∈ es, e.target.Finite) (matchTargets t l)
  | [], _ => .ok (by simp)
  | (source, j) :: rest, h => by
    obtain ⟨hj, hrest⟩ := List.forall_mem_cons.1 h
    refine .bind (finite_ofJson hj) fun s hs => .bind (finite_matchTargets hrest) fun es hes => ?_
    exact .ok (List.forall_mem_cons.2 ⟨hs, hes⟩)

theorem finite_interpolationTargets {t : BaseType} : ∀ {l : List (Float × Bool × Json)},
    (∀ e ∈ l, e.2.2.Representable) →
      Ensures (fun es => ∀ e ∈ es, e.target.Finite) (interpolationTargets t l)
  | [], _ => .ok (by simp)
  | (bound, inclusive, j) :: rest, h => by
    obtain ⟨hj, hrest⟩ := List.forall_mem_cons.1 h
    refine .bind (finite_ofJson hj) fun s hs => ?_
    refine .bind (finite_interpolationTargets hrest) fun es hes => ?_
    exact .ok (List.forall_mem_cons.2 ⟨hs, hes⟩)

/-- The default and the targets of the entries are finite together. -/
theorem finite_targets {o : Option Scalar} {es : List α} {target : α → Scalar}
    (ho : ∀ s ∈ o.toList, s.Finite) (hes : ∀ e ∈ es, (target e).Finite) :
    ∀ s ∈ o.toList ++ es.map target, s.Finite := by
  intro s hs
  rcases List.mem_append.1 hs with hs | hs
  · exact ho s hs
  · obtain ⟨e, he, rfl⟩ := List.mem_map.1 hs
    exact hes e he

/-- A lookup table of a representable draft is finite. -/
theorem finite_ofType {d : LookupDraft} (h : d.Representable) (t : BaseType) :
    Ensures LookupTable.Finite (d.ofType t) := by
  cases d with
  | matching default entries =>
    refine .bind (finite_defaultTarget h.1) fun o ho => ?_
    exact .bind (finite_matchTargets h.2) fun es hes => .ok (finite_targets ho hes)
  | interpolation default entries =>
    refine .bind (finite_defaultTarget h.1) fun o ho => ?_
    exact .bind (finite_interpolationTargets h.2) fun es hes => .ok (finite_targets ho hes)

/-! ## Expressions -/

theorem finiteAll_iff {l : List Expr} : Expr.FiniteAll l ↔ ∀ e ∈ l, e.Finite := by
  induction l with
  | nil => simp [Expr.FiniteAll]
  | cons e rest ih => simp [Expr.FiniteAll, ih]

/-- The expressions without operands that are no literals write no float down. -/
theorem finite_leaf {kind : String} {r : Reading Expr} (h : leaf kind = some r) :
    r.Ensures Expr.Finite := by
  unfold leaf at h
  split at h
  · cases h
    refine .andThen (P := fun p => p.2.Representable)
      (.seq (.map_forall (fun _ _ hj => hj) _) (.required .raw _)) fun p hp => ?_
    refine ensures_orFault (.map (finite_ofJson hp) fun s hs => ?_)
    rw [Expr.Finite]
    exact hs
  · cases h
    exact .pure (by simp [Expr.Finite])
  · cases h
    exact .map_forall (fun _ => by simp [Expr.Finite]) _
  · cases h
    exact .seq_forall (.map_forall (fun _ _ => by simp [Expr.Finite]) _) _
  · cases h
    exact .map_forall (fun _ => by simp [Expr.Finite]) _
  · cases h
    exact .map_forall (fun _ => by simp [Expr.Finite]) _
  · cases h
    exact .map_forall (fun _ => by simp [Expr.Finite]) _
  · cases h
    exact .map_forall (fun _ => by simp [Expr.Finite]) _
  · cases h
    exact .seq_forall (.seq_forall (.map_forall (fun _ _ _ => by simp [Expr.Finite]) _) _) _
  · cases h
    exact .seq_forall (.map_forall (fun _ _ => by simp [Expr.Finite]) _) _
  · obtain ⟨q, -, rfl⟩ := Option.map_eq_some_iff.1 h
    exact .seq_forall (.map_forall (fun _ _ => by simp [Expr.Finite]) _) _

variable {d : Decoder Expr} {kind : String} {r : Reading Expr}

/-- An expression that evaluates its operands in a way of its own is finite when they are. -/
theorem finite_special (hd : Decoder.Ensures Expr.Finite d) (h : special d kind = some r) :
    r.Ensures Expr.Finite := by
  unfold special at h
  split at h
  · cases h
    have htable : Decoder.Ensures LookupDraft.Representable innerLookupDraft :=
      .tagged fun _ _ => ensures_lookupDraftOf
    refine .andThen (P := fun p => p.1.Finite ∧ p.2.2.Representable) (.seq (.seq_forall
      (.map (.required hd _) fun _ he _ _ ht => ⟨he, ht⟩) _) (.required htable _)) fun p hp => ?_
    refine ensures_orFault (.map (finite_ofType hp.2 _) fun table ht => ?_)
    rw [Expr.Finite]
    exact ⟨ht, hp.1⟩
  · cases h
    exact .map (.required hd _) fun _ he => by rwa [Expr.Finite]
  · cases h
    refine .seq (.map_forall (fun _ l hl => ?_) _) (.required (.listOf hd) _)
    rwa [Expr.Finite, finiteAll_iff]
  · cases h
    exact .map (.required (.listOf hd) _) fun l hl => by rwa [Expr.Finite, finiteAll_iff]
  · cases h
    exact .map (.required (.listOf hd) _) fun l hl => by rwa [Expr.Finite, finiteAll_iff]
  · cases h
    refine .seq (.seq_forall (.map_forall (fun _ _ l hl => ?_) _) _) (.required (.listOf hd) _)
    rwa [Expr.Finite, finiteAll_iff]
  · cases h
    refine .seq (.map_forall (fun _ l hl => ?_) _) (.required (.listOf hd) _)
    rwa [Expr.Finite, finiteAll_iff]
  · cases h
    refine .seq (.map_forall (fun _ l hl => ?_) _) (.list hd _)
    rwa [Expr.Finite, finiteAll_iff]
  · cases h

/-- So is one whose operands are evaluated before its operator is applied. -/
theorem finite_applied (hd : Decoder.Ensures Expr.Finite d) (h : applied d kind = some r) :
    r.Ensures Expr.Finite := by
  unfold applied at h
  split at h
  · cases h
    exact .seq (.map_forall (fun _ e he => by rwa [Expr.Finite]) _) (.required hd _)
  · split at h
    · cases h
      exact .seq (.map_forall (fun _ p hp => by rwa [Expr.Finite]) _) (.required (.pairOf hd) _)
    · split at h
      · cases h
        exact .map (.required (.listOf hd) _) fun l hl => by rwa [Expr.Finite, finiteAll_iff]
      · obtain ⟨op, -, rfl⟩ := Option.map_eq_some_iff.1 h
        exact .map (.list hd _) fun l hl => by rwa [Expr.Finite, finiteAll_iff]

theorem finite_expressionOf (hd : Decoder.Ensures Expr.Finite d)
    (h : expressionOf d kind = some r) : r.Ensures Expr.Finite := by
  unfold expressionOf at h
  cases hleaf : leaf kind with
  | some r' =>
    rw [hleaf] at h
    cases h
    exact finite_leaf hleaf
  | none =>
    cases hspecial : special d kind with
    | some r' =>
      rw [hleaf, hspecial] at h
      cases h
      exact finite_special hd hspecial
    | none =>
      rw [hleaf, hspecial] at h
      exact finite_applied hd h

theorem finite_operandWithin : ∀ fuel, Decoder.Ensures Expr.Finite (operandWithin fuel)
  | 0 => fun _ _ => .error _
  | fuel + 1 => .tagged fun _ _ => finite_expressionOf (finite_operandWithin fuel)

theorem finite_operand : Decoder.Ensures Expr.Finite operand :=
  fun j hj => finite_operandWithin _ j hj

/-- **Expressions that are read are finite.** -/
theorem finite_expression : Decoder.Ensures Expr.Finite expression := fun j hj =>
  Decoder.Ensures.tagged (fun _ _ => finite_expressionOf (finite_operandWithin _)) j hj

/-! ## Programs -/

theorem mem_partsOfAll {b : Statement} :
    ∀ {l : List Statement}, b ∈ Statement.partsOfAll l → ∃ a ∈ l, b ∈ a.parts
  | [], h => by simp [Statement.partsOfAll] at h
  | a :: rest, h => by
    rw [Statement.partsOfAll] at h
    rcases List.mem_append.1 h with h | h
    · exact ⟨a, List.mem_cons_self, h⟩
    · obtain ⟨a', ha', hb⟩ := mem_partsOfAll h
      exact ⟨a', List.mem_cons_of_mem _ ha', hb⟩

theorem mem_branchPartsOfAll {b : Statement} :
    ∀ {l : List Branch}, b ∈ Branch.partsOfAll l → ∃ a ∈ l, b ∈ a.parts
  | [], h => by simp [Branch.partsOfAll] at h
  | a :: rest, h => by
    rw [Branch.partsOfAll] at h
    rcases List.mem_append.1 h with h | h
    · exact ⟨a, List.mem_cons_self, h⟩
    · obtain ⟨a', ha', hb⟩ := mem_branchPartsOfAll h
      exact ⟨a', List.mem_cons_of_mem _ ha', hb⟩

/-- A statement made of finite ones. -/
def MadeFinite (a : Statement) : Prop := ∀ b ∈ a.parts, b.Finite

/-- A statement without others in it is finite when its expression is, if there is one. -/
theorem madeFinite_of_parts {a : Statement} (hp : a.parts = [a]) (h : a.Finite) :
    MadeFinite a := by
  intro b hb
  rw [hp] at hb
  cases List.mem_singleton.1 hb
  exact h

theorem madeFinite_of_source {a : Statement} {e : Expr} (hp : a.parts = [a])
    (hs : a.source? = some e) (he : e.Finite) : MadeFinite a := by
  refine madeFinite_of_parts hp fun e' h => ?_
  cases hs.symm.trans h
  exact he

theorem madeFinite_of_none {a : Statement} (hp : a.parts = [a]) (hs : a.source? = none) :
    MadeFinite a :=
  madeFinite_of_parts hp fun e h => by cases hs.symm.trans h

theorem finite_partsOfAll {l : List Statement} (h : ∀ a ∈ l, MadeFinite a) :
    ∀ b ∈ Statement.partsOfAll l, b.Finite := by
  intro b hb
  obtain ⟨a, ha, hb⟩ := mem_partsOfAll hb
  exact h a ha b hb

variable {d : Decoder Statement} {r : Reading Statement}

theorem finite_branch (hd : Decoder.Ensures MadeFinite d) :
    Decoder.Ensures (fun b : Branch => ∀ a ∈ b.parts, a.Finite) (branch d) := by
  refine .record (.seq (.map_forall (fun _ l hl => ?_) _) (.list hd _))
  rw [Branch.parts]
  exact finite_partsOfAll hl

theorem finite_condition (hd : Decoder.Ensures MadeFinite d) :
    (condition d).Ensures MadeFinite := by
  refine .seq (.seq (.map (.required (finite_branch hd) _) fun b hb others hothers o ho => ?_)
    (.list (finite_branch hd) _)) (.option (.listOf hd) _)
  intro a ha
  rw [Statement.parts] at ha
  rcases List.mem_append.1 ha with ha | ha
  · rcases List.mem_append.1 ha with ha | ha
    · exact hb a ha
    · obtain ⟨b', hb', ha⟩ := mem_branchPartsOfAll ha
      exact hothers b' hb' a ha
  · refine finite_partsOfAll (fun b' hb' => ?_) a ha
    cases o with
    | none => cases hb'
    | some l => exact ho l rfl b' hb'

theorem finite_onVariable {f : String → Expr → Statement}
    (hf : ∀ id e, e.Finite → MadeFinite (f id e)) : (onVariable f).Ensures MadeFinite :=
  .seq (.map_forall hf _) (.required finite_operand _)

/-- A statement is read from finite expressions and from finite statements. -/
theorem finite_statementOf (hd : Decoder.Ensures MadeFinite d) {kind : String}
    (h : statementOf d kind = some r) : r.Ensures MadeFinite := by
  unfold statementOf at h
  split at h
  · cases h
    exact finite_condition hd
  · cases h
    exact finite_condition hd
  · cases h
    exact finite_condition hd
  · cases h
    exact finite_onVariable fun _ _ => madeFinite_of_source (by simp [Statement.parts]) rfl
  · cases h
    exact finite_onVariable fun _ _ => madeFinite_of_source (by simp [Statement.parts]) rfl
  · cases h
    exact finite_onVariable fun _ _ => madeFinite_of_source (by simp [Statement.parts]) rfl
  · cases h
    exact finite_onVariable fun _ _ => madeFinite_of_source (by simp [Statement.parts]) rfl
  · cases h
    refine .seq (.map_forall (fun id o ho => ?_) _) (.option finite_operand _)
    cases o with
    | none => exact madeFinite_of_none (by simp [defaultStatement, Statement.parts]) rfl
    | some e =>
      exact madeFinite_of_source (by simp [defaultStatement, Statement.parts]) rfl (ho e rfl)
  · cases h
    exact finite_onVariable fun _ _ => madeFinite_of_source (by simp [Statement.parts]) rfl
  · cases h
    exact .map_forall (fun _ => madeFinite_of_none (by simp [Statement.parts]) rfl) _
  · cases h
    exact .pure (madeFinite_of_none (by simp [Statement.parts]) rfl)
  · cases h
    exact .pure (madeFinite_of_none (by simp [Statement.parts]) rfl)
  · cases h
    exact .pure (madeFinite_of_none (by simp [Statement.parts]) rfl)
  · cases h
    refine .map (.required (.listOf hd) _) fun l hl => ?_
    rw [MadeFinite, Statement.parts]
    exact finite_partsOfAll hl
  · cases h

theorem finite_innerStatement : ∀ fuel, Decoder.Ensures MadeFinite (innerStatement fuel)
  | 0 => fun _ _ => .error _
  | fuel + 1 => .tagged fun _ _ => finite_statementOf (finite_innerStatement fuel)

theorem finite_statement : Decoder.Ensures MadeFinite statement := fun j hj =>
  Decoder.Ensures.tagged (fun _ _ => finite_statementOf (finite_innerStatement _)) j hj

/-- **Programs that are read are finite.** -/
theorem finite_program : Decoder.Ensures Program.Finite program :=
  .record (.seq (.map_forall (fun _ _ hl => finite_partsOfAll hl) _) (.list finite_statement _))

/-! ## Texts -/

/-- **What is written down in a text stays finite.** Next to a finite session that does not
overflow, an expression that is read from a text gives finite values on finite stores, and a program
that is read from one keeps them finite, run on its own or to make a variant. -/
theorem staysFinite_of_parse? {σ : Type} {env : Environment σ} (he : env.Finite)
    (ho : ¬ env.Overflows) {text : String} {j : Json} (hj : Json.parse? text = some j) :
    (∀ e, expression j = .ok e → ∀ store : Store, store.Finite →
      Eval.Ensures Value.Finite (e.eval env store)) ∧
    ∀ p, program j = .ok p → Exec.Preserves Store.Finite (p.run env) ∧
      ∀ m, Exec.Preserves Store.Finite (instantiate env p m) := by
  have hj := Json.representable_of_parse? hj
  refine ⟨fun e h store hs => e.finite_eval he ho hs (finite_expression j hj e h), fun p h => ?_⟩
  have hp := finite_program j hj p h
  exact ⟨Program.run_finite he ho hp, instantiate_finite he ho hp⟩

end Assessment.Interchange
