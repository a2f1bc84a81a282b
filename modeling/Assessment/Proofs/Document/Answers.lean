import Assessment.Document
import Assessment.Proofs.Program.Frame

/-!
# What answers cannot reach

Before a candidate answers, an item is prepared: its template variables have their values, its
response variables their correct responses, and all variables their declared defaults. Answers come
after that. They are bound as values of response variables, and scored by a program that writes
nothing of what was prepared, whatever names the kinds of variables share.

The code is `process_item`: `instantiate_template`, then `bind_responses`, then `process_responses`.
What is compared is two runs on the same document, source and operators with any two sets of
answers, so a default or a key that an answer could reach in some item would refute the second
result. Both rest on the frame of a single write (`Change`), so a new kind of statement needs one
more case there and nothing here.

* `ItemDocument.process_eq_ok`: the variant and the preparation after a run are those that the
  template program has left.
* `ItemDocument.process_independent`: two runs that differ in the answers alone have the same
  variant and the same preparation.
-/

namespace Assessment

variable {σ : Type} {s t : Store} {id : String}

/-- What an item has prepared for its candidates. -/
structure Preparation where
  templates : Table Value
  keys : Table Value
  defaults : Namespace → Table Value

/-- The values of the template variables, the correct responses and the declared defaults. -/
def Store.preparation (s : Store) : Preparation := ⟨s.values .template, s.keys, s.defaults⟩

theorem Store.preparation_eq_iff :
    t.preparation = s.preparation ↔
      t.values .template = s.values .template ∧ t.keys = s.keys ∧
        ∀ n, t.defaults n = s.defaults n := by
  simp only [preparation, Preparation.mk.injEq, funext_iff]

/-! ## The steps after the template program -/

/-- An answer is bound to a response variable, also where other variables have its name. -/
theorem Store.preparation_bindResponse {j : Json} (h : s.bindResponse id j = .ok t) :
    t.preparation = s.preparation := by
  obtain ⟨r, hr, h⟩ := bind_eq_ok_iff.1 h
  obtain ⟨v, -, h⟩ := bind_eq_ok_iff.1 h
  obtain ⟨n, slot, w, hn, -, -, rfl⟩ := setValue_eq_ok_iff.1 h
  cases (namespaceOf?_of_response (response_eq_ok_iff.1 hr)).symm.trans hn
  refine preparation_eq_iff.2 ⟨?_, keys_modifyIn, fun _ => map_slots_modifyIn fun _ => rfl⟩
  rw [values, slots_modifyIn_of_ne (by decide), ← values]

theorem Store.preparation_resetOutcomes (s : Store) :
    s.resetOutcomes.preparation = s.preparation := by
  refine preparation_eq_iff.2 ⟨rfl, rfl, fun n => Table.ext_get? fun k => ?_⟩
  simp only [defaults, Table.get?_map, get?_slots, slotIn?_resetOutcomes]
  split_ifs <;> simp [Function.comp_def, Slot.reset]

/-- Outside template processing a statement leaves the preparation alone. -/
theorem Change.preparation_eq {phase : Phase} {a : Statement} (h : Change phase a s t)
    (hp : phase ≠ .template) : t.preparation = s.preparation :=
  Store.preparation_eq_iff.2 ⟨h.templates_eq hp, h.keys_eq hp, h.defaults_eq hp⟩

variable {q : Preparation}

theorem bindAll_preserves_preparation :
    ∀ l : List (String × Json),
      Exec.Preserves (fun s => s.preparation = q) (bindAll l : Exec σ Unit)
  | [] => .pure ()
  | (_, _) :: rest =>
    .bind (.update fun _ _ h hs => (Store.preparation_bindResponse h).trans hs) fun _ =>
      bindAll_preserves_preparation rest

theorem Program.run_preserves_preparation {p : Program} (env : Environment σ)
    (hp : p.phase ≠ .template) : Exec.Preserves (fun s => s.preparation = q) (p.run env) :=
  p.run_preserves fun _ _ _ _ hw hs => (hw.change.preparation_eq hp).trans hs

theorem ItemDocument.processResponses_preserves_preparation (d : ItemDocument)
    (env : Environment σ) :
    Exec.Preserves (fun s => s.preparation = q) (d.processResponses env) := by
  refine .bind (.update fun s t h hs => ?_) fun _ => ?_
  · cases h
    exact s.preparation_resetOutcomes.trans hs
  · cases d.responseProcessing with
    | none => exact .pure _
    | some body => exact Program.run_preserves_preparation env (p := ⟨.response, body⟩) nofun

/-! ## Whole runs -/

variable {random : RandomSource σ} {operators : Registry} {patterns : Pattern.Engine} {m : Nat}
  {source : σ}

/-- The template program alone decides on the variant and the preparation of a run. -/
theorem ItemDocument.process_eq_ok {d : ItemDocument} {responses : Table Json} {run : ItemRun}
    (h : d.process random operators patterns m responses source = .ok run) :
    ∃ prepared : Stage σ,
      (d.instantiate ⟨random, operators, none, patterns⟩ m).runOn ⟨d.store, .start source⟩ =
        (.ok run.variant, prepared) ∧
      run.store.preparation = prepared.store.preparation := by
  obtain ⟨⟨variant, signal⟩, hsteps, rfl⟩ := map_eq_ok_iff.1 h
  obtain ⟨v, prepared, hprepared, hrest⟩ :=
    Exec.runOn_bind_eq_ok_iff.1 (Prod.ext hsteps rfl)
  obtain ⟨_, bound, hbound, hrest⟩ := Exec.runOn_bind_eq_ok_iff.1 hrest
  obtain ⟨_, scored, hscored, hrest⟩ := Exec.runOn_bind_eq_ok_iff.1 hrest
  cases hrest
  have h₁ := bindAll_preserves_preparation responses.entries prepared rfl
  have h₂ :=
    d.processResponses_preserves_preparation ⟨random, operators, none, patterns⟩ bound rfl
  rw [show (bindAll responses.entries).runOn prepared = _ from hbound] at h₁
  rw [hscored] at h₂
  exact ⟨prepared, hprepared, h₂.trans h₁⟩

/-- **Answers reach neither the variant nor the key.** Two runs of an item from the same state of
the random source, with any answers, make the same variant, and leave the template variables with
the same values, the response variables with the same correct responses, and all variables with the
same declared defaults. -/
theorem ItemDocument.process_independent {d : ItemDocument} {answers answers' : Table Json}
    {run run' : ItemRun} (h : d.process random operators patterns m answers source = .ok run)
    (h' : d.process random operators patterns m answers' source = .ok run') :
    run.variant = run'.variant ∧ run.store.values .template = run'.store.values .template ∧
      run.store.keys = run'.store.keys ∧
      ∀ n, run.store.defaults n = run'.store.defaults n := by
  obtain ⟨prepared, hprepared, hq⟩ := process_eq_ok h
  obtain ⟨prepared', hprepared', hq'⟩ := process_eq_ok h'
  obtain ⟨hv, rfl⟩ := Prod.mk.inj (hprepared.symm.trans hprepared')
  exact ⟨Except.ok.inj hv, Store.preparation_eq_iff.1 (hq.trans hq'.symm)⟩

/-- An item that draws a number and asks for it. -/
def drawnNumber : ItemDocument where
  identifier := none
  responses := [⟨"R", Store.plainResponse ⟨.single, some .integer⟩⟩]
  outcomes := [⟨"RIGHT", Store.plainOutcome ⟨.single, some .boolean⟩ .null⟩]
  templates := [⟨"T", ⟨Slot.ofDefault ⟨.single, some .integer⟩ .null⟩⟩]
  templateProcessing := some
    [.assign .template "T" (.randomInteger (.value 1) (.value 10) (.value 1)),
      .setCorrect "R" (.variable "T" none)]
  responseProcessing := some
    [.assign .outcome "RIGHT" (.binary .matching (.variable "R" none) (.correct "R"))]

/-- The item answered with a number, its draw being seven steps above one. -/
def answeredWith (n : Int) : Except Fault ItemRun :=
  drawnNumber.process .scripted .empty .builtin 1 (Table.empty.insert "R" (.int n)) ⟨[7], []⟩

/-- A right and a wrong answer find the same number drawn and the same key. -/
theorem drawnNumber_answered :
    ∃ right wrong, answeredWith 8 = .ok right ∧ answeredWith 3 = .ok wrong ∧
      right.store.value "RIGHT" = .ok (.ofBool true) ∧
      wrong.store.value "RIGHT" = .ok (.ofBool false) ∧ right.variant = wrong.variant ∧
      right.store.values .template = wrong.store.values .template ∧
      right.store.keys = wrong.store.keys := by
  refine ⟨_, _, rfl, rfl, rfl, rfl, ?_⟩
  have right : answeredWith 8 = .ok _ := rfl
  have wrong : answeredWith 3 = .ok _ := rfl
  have h := ItemDocument.process_independent right wrong
  exact ⟨h.1, h.2.1, h.2.2.1⟩

end Assessment
