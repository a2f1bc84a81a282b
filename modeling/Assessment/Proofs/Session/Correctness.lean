import Assessment.Proofs.Expr.Computation
import Assessment.Proofs.Numeric.Monotone
import Assessment.Proofs.Program.Reachable
import Assessment.Session.Aggregate

/-!
# Correct items

An item is judged twice. Its own program compares each response with its key; a test judges the
result of the item, in which response and outcome variables share one table. The two agree as long
as no outcome variable has taken the place of a keyed response there.

The judgement of a test is `is_correct` on what `from_context` made of the store; the item's own is
the program that matches every response with its key.

* `Store.WellTyped.eval_matchKey`: a response matches its key without fault.
* `ItemSession.isCorrect_iff`: the judgement of a result in terms of the store it was made of.
* `snapshot_isCorrect_iff`: when a test judges an item as its own program would.
-/

namespace Assessment

variable {σ α : Type} {s : Store} {id : String}

/-! ## Tables -/

namespace Table

/-- The entries with keys of some kind. -/
def filter (p : String → Bool) (t : Table α) : Table α :=
  ⟨t.entries.filter fun e => p e.1, t.ordered.filter _⟩

theorem find?_filter (p : String → Bool) (k : String) :
    ∀ l : List (String × α), find? k (l.filter fun e => p e.1) = if p k then find? k l else none
  | [] => by simp [find?]
  | (k', v) :: rest => by
    have ih := find?_filter p k rest
    by_cases h : k = k'
    · subst h
      cases hp : p k <;> simp_all [find?]
    · cases hp : p k' <;> simp_all [find?]

theorem get?_filter (p : String → Bool) (t : Table α) (k : String) :
    (t.filter p).get? k = if p k then t.get? k else none :=
  find?_filter p k t.entries

theorem mem_values_iff {t : Table α} {v : α} : v ∈ t.values ↔ ∃ k, t.get? k = some v := by
  rw [values, List.mem_map]
  constructor
  · rintro ⟨⟨k, _⟩, h, rfl⟩
    exact ⟨k, get?_eq_some_of_mem h⟩
  · rintro ⟨k, h⟩
    exact ⟨(k, v), mem_of_find?_eq_some h, rfl⟩

end Table

/-! ## Matching a key -/

/-- Of the scalars the empty text alone counts as NULL. -/
theorem Value.isNull_single_iff {a : Scalar} : (single a).isNull = true ↔ a = .string "" := by
  cases a with
  | string a =>
    rw [Scalar.string.injEq]
    exact String.isEmpty_iff
  | _ => exact iff_of_false nofun nofun

/-- What counts as NULL is the same as no value that does not. -/
theorem Value.same_of_isNull {v k : Value} (hv : v.isNull) (hk : k.isNull = false) :
    v.same k = false := by
  cases v with
  | null =>
    cases k with
    | null => cases hk
    | single _ | multiple _ | ordered _ | record _ => rfl
  | single a =>
    cases k with
    | single b =>
      obtain rfl := isNull_single_iff.1 hv
      cases b with
      | string b =>
        refine beq_eq_false_iff_ne.2 fun h => ?_
        rw [← h] at hk
        cases hk
      | _ => rfl
    | null | multiple _ | ordered _ | record _ => rfl
  | multiple c =>
    cases k with
    | multiple d =>
      have hc : c.items = [] := List.isEmpty_iff.1 hv
      have hd : d.items ≠ [] := List.isEmpty_eq_false_iff.1 hk
      have hsize : (c.size == d.size) = false := by
        rw [Container.size, hc, beq_eq_false_iff_ne]
        exact fun h => hd (List.length_eq_zero_iff.1 h.symm)
      simp only [same, Container.sameElements, hsize, Bool.and_false, Bool.false_and]
    | null | single _ | ordered _ | record _ => rfl
  | ordered c =>
    cases k with
    | ordered d =>
      have hc : c.items = [] := List.isEmpty_iff.1 hv
      have hd : d.items ≠ [] := List.isEmpty_eq_false_iff.1 hk
      obtain ⟨x, rest, hd⟩ := List.exists_cons_of_ne_nil hd
      rw [same, Container.sameSequence, hc, hd, Container.sameList, Bool.and_false]
      all_goals nofun
    | null | single _ | multiple _ | record _ => rfl
  | record c =>
    cases k with
    | record d =>
      have hc : c.entries = [] := List.isEmpty_iff.1 hv
      have hd : d.entries ≠ [] := List.isEmpty_eq_false_iff.1 hk
      obtain ⟨x, rest, hd⟩ := List.exists_cons_of_ne_nil hd
      rw [same, hc, hd, sameFields]
      all_goals nofun
    | null | single _ | multiple _ | ordered _ => rfl

/-- The comparison of a response with its key. -/
def matchKey (id : String) : Expr := .binary .matching (.variable id none) (.correct id)

/-- A value and a key that fit one signature are compared without fault. -/
theorem matching_of_fits {g : Signature} {v k : Value} (hg : g.Proper) (hv : v.Fits g)
    (hk : k.Fits g) : BinaryOp.matching.apply s v k =
      .ok (if v.isNull || k.isNull then .null else .ofBool (v.same k)) := by
  rw [BinaryOp.apply, unlessEitherNull]
  split_ifs with hn
  · rfl
  · have has {w : Value} (hw : w.Fits g) (h : w.isNull = false) : w.Has g := by
      rcases hw with rfl | hw
      · cases h
      · exact hw
    simp only [Bool.or_eq_true, not_or, Bool.not_eq_true] at hn
    have hv := has hv hn.1
    have hk := has hk hn.2
    have hbase : v.baseType? = k.baseType? := by
      cases ht : g.baseType with
      | some t => rw [hv.baseType t ht, hk.baseType t ht]
      | none =>
        have record {w : Value} (hw : w.Has g) : w.baseType? = none := by
          have hc := hw.cardinality
          rw [hg.1 ht] at hc
          cases w with
          | record _ => rfl
          | null | single _ | multiple _ | ordered _ => cases hc
        rw [record hv, record hk]
    rw [matchValues, if_neg (not_not_intro (hv.cardinality.trans hk.cardinality.symm)),
      requireSameBaseType, if_pos hbase]
    rfl

/-- A response of a well-typed store is compared with its key without fault. -/
theorem Store.WellTyped.eval_matchKey (h : s.WellTyped) (env : Environment σ)
    {r : ResponseVariable} (hr : s.responses.get? id = some r) (t : Trail σ) :
    ((matchKey id).eval env s).runOn t =
      (.ok (if r.value.isNull || r.correct.isNull then .null
        else .ofBool (r.value.same r.correct)), t) := by
  have hslot : s.slotIn? .response id = some r.toSlot := by rw [slotIn?, hr]; rfl
  have hname := namespaceOf?_of_response hr
  have hv : variableValue env.session s id none = .ok r.value := by
    unfold variableValue
    rw [if_pos (by rw [isDeclared, hname]; rfl)]
    exact value_eq_ok_iff.2 ⟨.response, _, hname, hslot, rfl⟩
  have hk : s.correct id = .ok r.correct := by
    rw [correct, response_eq_ok_iff.2 hr]
    rfl
  have hwt := h.slots .response id _ hslot
  have hkey := h.keys id r.correct _ (by rw [get?_keys, hr]; rfl) hslot
  rw [matchKey, Expr.eval, Expr.eval, Expr.eval, hv, hk,
    Eval.runOn_bind_of_ok (Eval.runOn_ofExcept _ t),
    Eval.runOn_bind_of_ok (Eval.runOn_ofExcept _ t), matching_of_fits hwt.proper hwt.value hkey]
  rfl

/-! ## The judgement of an item's own program -/

/-- A number above zero. -/
def Value.AboveZero (v : Value) : Prop :=
  (∃ n : Int64, v = .single (.integer n) ∧ 0 < n.toInt) ∨
    ∃ x : Float, v = .single (.float x) ∧ 0.0 < x

theorem isPositive_iff {v : Value} : ItemSession.isPositive v = true ↔ v.AboveZero := by
  cases v with
  | single a =>
    cases a with
    | integer n =>
      simp [ItemSession.isPositive, Scalar.toFloat?, Value.AboveZero, Numeric.zero_lt_toFloat_iff]
    | float x => simp [ItemSession.isPositive, Scalar.toFloat?, Value.AboveZero]
    | _ => simp [ItemSession.isPositive, Scalar.toFloat?, Value.AboveZero]
  | null | multiple _ | ordered _ | record _ => simp [ItemSession.isPositive, Value.AboveZero]

/-- An expression is true, and leaves the trail alone. -/
def Expr.Holds (env : Environment σ) (s : Store) (t : Trail σ) (e : Expr) : Prop :=
  (e.eval env s).runOn t = (.ok (.ofBool true), t)

namespace Store

/-- A response variable with a correct response that does not count as NULL. -/
def HasKey (s : Store) (id : String) : Prop :=
  ∃ r, s.responses.get? id = some r ∧ r.correct.isNull = false

/-- `SCORE` is a response or an outcome variable with a number above zero. -/
def ScoreAboveZero (s : Store) : Prop :=
  (s.namespaceOf? "SCORE" = some .response ∨ s.namespaceOf? "SCORE" = some .outcome) ∧
    ∃ v, s.value "SCORE" = .ok v ∧ v.AboveZero

/-- Every response with a key matches it; without keys, the score is above zero. -/
def JudgedCorrect (env : Environment σ) (t : Trail σ) (s : Store) : Prop :=
  (∃ id, s.HasKey id) ∧ (∀ id, s.HasKey id → (matchKey id).Holds env s t) ∨
    (∀ id, ¬ s.HasKey id) ∧ s.ScoreAboveZero

/-- No response that is judged shares its name with an outcome variable. -/
structure NothingHidden (s : Store) : Prop where
  keyed : ∀ id, s.HasKey id → s.outcomes.get? id = none
  score : (∀ id, ¬ s.HasKey id) →
    s.responses.get? "SCORE" = none ∨ s.outcomes.get? "SCORE" = none

/-- The store without the response variables that share their names with outcome variables. -/
def withoutHidden (s : Store) : Store :=
  { s with responses := s.responses.filter fun id => !s.outcomes.contains id }

end Store

/-- A response with a key matches it exactly when its value is the same. -/
theorem Store.WellTyped.holds_matchKey_iff (h : s.WellTyped) {env : Environment σ} {t : Trail σ}
    {r : ResponseVariable} (hr : s.responses.get? id = some r) (hk : r.correct.isNull = false) :
    (matchKey id).Holds env s t ↔ r.value.same r.correct = true := by
  rw [Expr.Holds, h.eval_matchKey env hr t, hk, Bool.or_false]
  cases hv : r.value.isNull with
  | true =>
    rw [Value.same_of_isNull hv hk]
    simp [Value.ofBool]
  | false => simp [Value.ofBool]

/-! ## The judgement of a test -/

namespace ItemSession

variable {i : ItemSession} {v : SessionVariable}

/-- Of a shared name the result has the outcome variable. -/
theorem get?_resultsOfStore (s : Store) (id : String) :
    (resultsOfStore s).get? id =
      ((s.outcomes.get? id).map ofOutcome).or ((s.responses.get? id).map ofResponse) := by
  have hfold : resultsOfStore s = (s.outcomes.entries.map fun e => (e.1, ofOutcome e.2)).foldl
      (fun t e => t.insert e.1 e.2) (s.responses.map fun _ => ofResponse) := by
    rw [resultsOfStore, List.foldl_map]
  have hordered : (s.outcomes.entries.map fun e => (e.1, ofOutcome e.2)).Pairwise
      fun a b => a.1 < b.1 := List.pairwise_map.2 s.outcomes.ordered
  rw [hfold, Table.get?_foldl_insert id hordered, Table.find?_map fun _ => ofOutcome,
    Table.get?_map]
  rfl

theorem mem_keyed_iff (hs : s.NothingHidden) (hi : i.results = resultsOfStore s) :
    v ∈ i.keyed ↔ ∃ id r, s.responses.get? id = some r ∧ r.correct.isNull = false ∧
      v = ofResponse r := by
  rw [keyed, List.mem_filter, Table.mem_values_iff, hi, Bool.not_eq_true']
  constructor
  · rintro ⟨⟨id, hid⟩, hv⟩
    rw [get?_resultsOfStore] at hid
    cases ho : s.outcomes.get? id with
    | some o =>
      rw [ho] at hid
      cases hid
      cases hv
    | none =>
      rw [ho] at hid
      obtain ⟨r, hr, rfl⟩ := Option.map_eq_some_iff.1 hid
      exact ⟨id, r, hr, hv, rfl⟩
  · rintro ⟨id, r, hr, hk, rfl⟩
    refine ⟨⟨id, ?_⟩, hk⟩
    rw [get?_resultsOfStore, hs.keyed id ⟨r, hr, hk⟩, hr]
    rfl

/-- The score in a result is that of the store, if there is one. -/
theorem aboveZero_score_iff (hs : s.responses.get? "SCORE" = none ∨ s.outcomes.get? "SCORE" = none)
    (hi : i.results = resultsOfStore s) :
    (i.value "SCORE").AboveZero ↔ s.ScoreAboveZero := by
  rw [value, hi, get?_resultsOfStore, Store.ScoreAboveZero]
  cases hr : s.responses.get? "SCORE" with
  | some r =>
    have ho : s.outcomes.get? "SCORE" = none := hs.resolve_left (by rw [hr]; nofun)
    have hn := Store.namespaceOf?_of_response hr
    have hv : s.value "SCORE" = .ok r.value :=
      Store.value_eq_ok_iff.2 ⟨_, _, hn, by rw [Store.slotIn?, hr]; rfl, rfl⟩
    simp [ho, hn, hv, ofResponse]
  | none =>
    cases ho : s.outcomes.get? "SCORE" with
    | some o =>
      have hn : s.namespaceOf? "SCORE" = some .outcome :=
        Store.namespaceOf?_eq_some_iff.2 (.inr (.inl ⟨rfl, hr, by rw [ho]; rfl⟩))
      have hv : s.value "SCORE" = .ok o.value :=
        Store.value_eq_ok_iff.2 ⟨_, _, hn, by rw [Store.slotIn?, ho]; rfl, rfl⟩
      simp [hn, hv, ofOutcome]
    | none =>
      have hn : ¬ (s.namespaceOf? "SCORE" = some .response ∨
          s.namespaceOf? "SCORE" = some .outcome) := by
        simp [Store.namespaceOf?_eq_some_iff, hr, ho]
      exact iff_of_false (by simp [Value.AboveZero]) fun h => hn h.1

/-- **A result is judged as the store it was made of**, where that hides no response. -/
theorem isCorrect_iff (h : s.WellTyped) (hs : s.NothingHidden) (hi : i.results = resultsOfStore s)
    (env : Environment σ) (t : Trail σ) : i.isCorrect = true ↔ s.JudgedCorrect env t := by
  have hmem {v : SessionVariable} := mem_keyed_iff (v := v) hs hi
  rw [isCorrect, Store.JudgedCorrect]
  by_cases hkey : ∃ id, s.HasKey id
  · have hne : i.keyed.isEmpty = false := by
      obtain ⟨id, r, hr, hk⟩ := hkey
      exact List.isEmpty_eq_false_iff.2 (List.ne_nil_of_mem (hmem.2 ⟨id, r, hr, hk, rfl⟩))
    have hnot : ¬ ((∀ id, ¬ s.HasKey id) ∧ s.ScoreAboveZero) := fun hno => not_exists.2 hno.1 hkey
    rw [hne, if_neg Bool.false_ne_true, List.all_eq_true, or_iff_left hnot]
    constructor
    · rintro hall
      refine ⟨hkey, ?_⟩
      rintro id ⟨r, hr, hk⟩
      exact (h.holds_matchKey_iff hr hk).2 (hall _ (hmem.2 ⟨id, r, hr, hk, rfl⟩))
    · rintro ⟨-, hall⟩ v hv
      obtain ⟨id, r, hr, hk, rfl⟩ := hmem.1 hv
      exact (h.holds_matchKey_iff hr hk).1 (hall id ⟨r, hr, hk⟩)
  · have hnone : ∀ id, ¬ s.HasKey id := not_exists.1 hkey
    have he : i.keyed.isEmpty = true := by
      refine List.isEmpty_iff.2 (List.eq_nil_iff_forall_not_mem.2 fun v hv => ?_)
      obtain ⟨id, r, hr, hk, -⟩ := hmem.1 hv
      exact hnone id ⟨r, hr, hk⟩
    rw [he, if_pos rfl, isPositive_iff, aboveZero_score_iff (hs.score hnone) hi]
    exact ⟨fun hp => .inr ⟨hnone, hp⟩, fun hp => (hp.resolve_left fun hy => hkey hy.1).2⟩

end ItemSession

/-! ## Hidden responses -/

namespace Store

theorem responses_withoutHidden (s : Store) (id : String) :
    s.withoutHidden.responses.get? id =
      if (s.outcomes.get? id).isSome then none else s.responses.get? id := by
  rw [withoutHidden, Table.get?_filter, Table.contains]
  cases (s.outcomes.get? id).isSome <;> rfl

/-- The result of an item does not tell hidden responses from none. -/
theorem resultsOfStore_withoutHidden (s : Store) :
    ItemSession.resultsOfStore s.withoutHidden = ItemSession.resultsOfStore s := by
  refine Table.ext_get? fun id => ?_
  rw [ItemSession.get?_resultsOfStore, ItemSession.get?_resultsOfStore, responses_withoutHidden]
  show ((s.outcomes.get? id).map _).or _ = _
  cases s.outcomes.get? id <;> rfl

theorem nothingHidden_withoutHidden (s : Store) : s.withoutHidden.NothingHidden := by
  have hid (id : String) :
      s.withoutHidden.responses.get? id = none ∨ s.outcomes.get? id = none := by
    rw [responses_withoutHidden]
    cases s.outcomes.get? id
    · exact .inr rfl
    · exact .inl rfl
  refine ⟨fun id ⟨r, hr, _⟩ => (hid id).resolve_left ?_, fun _ => hid "SCORE"⟩
  rw [hr]
  nofun

theorem WellTyped.withoutHidden (h : s.WellTyped) : s.withoutHidden.WellTyped where
  slots n id t ht := by
    cases n with
    | response =>
      refine h.slots .response id t ?_
      rw [slotIn?, responses_withoutHidden] at ht
      split_ifs at ht
      · cases ht
      · exact ht
    | outcome => exact h.slots .outcome id t ht
    | template => exact h.slots .template id t ht
  keys id v t hv ht := by
    rw [get?_keys, responses_withoutHidden] at hv
    rw [slotIn?, responses_withoutHidden] at ht
    split_ifs at hv ht
    · cases hv
    · exact h.keys id v t ((get?_keys s id).trans hv) ht

end Store

open Classical in
/-- **When the two judgements agree.** In a reachable store the match of a response with its key has
no fault. A test judges the result of the item as the item's own program would without the response
variables that an outcome variable hides by its name. So where it hides no response with a key, and
without keys not the score, the judgements agree, and `numberCorrect` counts the items whose own
programs would find every key matched. -/
theorem snapshot_isCorrect_iff (env : Environment σ) (t : Trail σ) :
    (∀ s : Store, s.Reachable →
      (∀ id, s.HasKey id → ∃ v, ((matchKey id).eval env s).runOn t = (.ok v, t) ∧
        (v = .null ∨ ∃ b, v = .ofBool b)) ∧
      ∀ i : ItemSession, i.results = ItemSession.resultsOfStore s →
        (i.isCorrect = true ↔ s.withoutHidden.JudgedCorrect env t) ∧
        (s.NothingHidden → (i.isCorrect = true ↔ s.JudgedCorrect env t))) ∧
      ∀ (test : TestSession) (f : ItemFilter) (origin : ItemSession → Store),
        (∀ i ∈ test.items, (origin i).Reachable ∧ (origin i).NothingHidden ∧
          i.results = ItemSession.resultsOfStore (origin i)) →
        SessionQuery.answer (.count .correct) test f = .ok (.ofInt64 (Int64.ofNat
          ((test.select f).countP fun i => (origin i).JudgedCorrect env t))) := by
  refine ⟨fun s hs => ⟨?_, fun i hi => ⟨?_, fun hn => ?_⟩⟩, fun test f origin horigin => ?_⟩
  · rintro id ⟨r, hr, -⟩
    refine ⟨_, hs.wellTyped.eval_matchKey env hr t, ?_⟩
    split_ifs
    · exact .inl rfl
    · exact .inr ⟨_, rfl⟩
  · rw [← s.resultsOfStore_withoutHidden] at hi
    exact ItemSession.isCorrect_iff hs.wellTyped.withoutHidden s.nothingHidden_withoutHidden hi
      env t
  · exact ItemSession.isCorrect_iff hs.wellTyped hn hi env t
  · have hcount : test.count f .correct =
        (test.select f).countP fun i => (origin i).JudgedCorrect env t := by
      rw [TestSession.count, ← List.countP_eq_length_filter]
      refine List.countP_congr fun i hi => ?_
      obtain ⟨hs, hn, hr⟩ := horigin i (List.mem_of_mem_filter hi)
      rw [decide_eq_true_iff]
      exact ItemSession.isCorrect_iff hs.wellTyped hn hr env t
    rw [SessionQuery.answer, hcount]

/-- A declaration of a response variable with a correct response. -/
def choiceDeclaration : Json :=
  .obj [("identifier", .str "R"), ("cardinality", .str "single"), ("baseType", .str "identifier"),
    ("correctResponse", .str "A")]

/-- A store in which a response has its key as answer. -/
def answeredStore : Store :=
  let s := Store.builtins.declareResponse ⟨"R",
    { Store.plainResponse ⟨.single, some .identifier⟩ with
      correct := .single (.identifier "A") }⟩
  ((Operation.bind (σ := RandomSource.Script) [("R", .str "A")]).run.runOn
    ⟨s, .start ⟨[], []⟩⟩).2.store

theorem reachable_answeredStore : answeredStore.Reachable := by
  have hd : Interchange.responseDeclaration choiceDeclaration = .ok _ := rfl
  exact .operate _ _ (.declareResponse .builtins hd)

theorem hasKey_answeredStore_iff : answeredStore.HasKey id ↔ id = "R" := by
  constructor
  · rintro ⟨r, hr, hk⟩
    have he : answeredStore.responses.entries =
        [("R", _), ("duration", _), ("numAttempts", _)] := rfl
    have hmem := Table.mem_of_find?_eq_some hr
    rw [he] at hmem
    simp only [List.mem_cons, List.not_mem_nil, or_false, Prod.mk.injEq] at hmem
    rcases hmem with ⟨h, -⟩ | ⟨-, rfl⟩ | ⟨-, rfl⟩
    · exact h
    · cases hk
    · cases hk
  · rintro rfl
    exact ⟨_, rfl, rfl⟩

/-- An item whose response has its key as answer is correct, and counted. -/
theorem answeredStore_isCorrect :
    let i := ItemSession.ofStore "Q1" answeredStore
    i.isCorrect = true ∧ answeredStore.JudgedCorrect .replay (.start ⟨[], []⟩) ∧
      SessionQuery.answer (.count .correct) ⟨[i]⟩ ⟨none, [], []⟩ = .ok (.ofInt64 1) := by
  intro i
  have h := snapshot_isCorrect_iff .replay (.start (⟨[], []⟩ : RandomSource.Script))
  have hn : answeredStore.NothingHidden :=
    ⟨fun id hid => by rw [hasKey_answeredStore_iff.1 hid]; rfl,
      fun hno => absurd (hasKey_answeredStore_iff.2 rfl) (hno "R")⟩
  have hc : i.isCorrect = true := rfl
  have hj := (((h.1 answeredStore reachable_answeredStore).2 i rfl).2 hn).1 hc
  have hcount := h.2 ⟨[i]⟩ ⟨none, [], []⟩ (fun _ => answeredStore) fun j hj => by
    rw [List.mem_singleton.1 hj]
    exact ⟨reachable_answeredStore, hn, rfl⟩
  refine ⟨hc, hj, ?_⟩
  have hselect : TestSession.select ⟨[i]⟩ ⟨none, [], []⟩ = [i] := rfl
  rw [hcount, hselect]
  simp only [List.countP_singleton, hj, decide_true, if_true]
  rfl

/-- A declaration of an outcome variable with the same name. -/
def hidingDeclaration : Json :=
  .obj [("identifier", .str "R"), ("cardinality", .str "single"), ("baseType", .str "identifier")]

/-- The store with an outcome variable that has the name of the response. -/
def hidingStore : Store :=
  answeredStore.declareOutcome ⟨"R", Store.plainOutcome ⟨.single, some .identifier⟩ .null⟩

/-- An outcome variable with the name of a response hides that it has its key as answer: the only
key is matched, and the item counts as not correct. -/
theorem hidingStore_not_isCorrect :
    hidingStore.Reachable ∧ (∃ id, hidingStore.HasKey id) ∧
      (∀ id, hidingStore.HasKey id →
        (matchKey id).Holds .replay hidingStore (.start ⟨[], []⟩)) ∧
      (ItemSession.ofStore "Q1" hidingStore).isCorrect = false := by
  have hd : Interchange.outcomeDeclaration hidingDeclaration = .ok _ := rfl
  refine ⟨.declareOutcome reachable_answeredStore hd, ⟨"R", _, rfl, rfl⟩, fun id hid => ?_, rfl⟩
  rw [hasKey_answeredStore_iff.1 hid]
  rfl

end Assessment
