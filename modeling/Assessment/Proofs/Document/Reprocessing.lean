import Assessment.Proofs.Document.Answers
import Assessment.Proofs.Program.Mention

/-!
# Processing again

A document is processed in two steps: its outcome variables get their defaults, then its program
runs. A run of the program, even one that a fault has cut short, changes current values alone, and
of these the reset undoes what the outcome variables got. So where the response variables are as
before, processing again starts from the same store, and does the same.

The two steps are those of `process_responses` and of `process_outcomes`, with `reset_outcomes`
first. A test has no response variables, so nothing is asked of it; an item may change its own
responses in response processing, and then there is nothing to repeat.

* `Store.resetOutcomes_eq`: what two stores have to share for their resets to be equal.
* `runFresh_repeats`: a run that has left the response variables alone repeats itself.
* `reprocessing_repeats`: items whose responses have kept their values, and tests always, are
  processed again to the same end.
-/

namespace Assessment

variable {σ α β γ δ : Type} {s t : Store} {n : Namespace}

/-! ## What a reset leaves of a store -/

/-- Two tables that agree in two views agree in every view that these determine. -/
theorem Table.map_eq_of_views {l m : Table α} {f : α → β} {g : α → γ} {u : α → δ}
    (hf : l.map (fun _ => f) = m.map fun _ => f) (hg : l.map (fun _ => g) = m.map fun _ => g)
    (hu : ∀ a b, f a = f b → g a = g b → u a = u b) :
    l.map (fun _ => u) = m.map fun _ => u := by
  refine ext_get? fun k => ?_
  have hf := congrArg (Table.get? · k) hf
  have hg := congrArg (Table.get? · k) hg
  simp only [get?_map] at hf hg ⊢
  cases hl : l.get? k with
  | none =>
    rw [hl] at hf
    rw [Option.map_eq_none_iff.1 hf.symm]
  | some a =>
    rw [hl] at hf hg
    obtain ⟨b, hb, hfb⟩ := Option.map_eq_some_iff.1 hf.symm
    rw [hb] at hg ⊢
    exact congrArg some (hu a b hfb.symm (Option.some.inj hg))

/-- Two tables that agree in two views are equal when these determine the values. -/
theorem Table.eq_of_views {l m : Table α} {f : α → β} {g : α → γ}
    (hf : l.map (fun _ => f) = m.map fun _ => f) (hg : l.map (fun _ => g) = m.map fun _ => g)
    (hu : ∀ a b, f a = f b → g a = g b → a = b) : l = m := by
  have h := map_eq_of_views (u := id) hf hg hu
  refine ext_get? fun k => ?_
  simpa using congrArg (Table.get? · k) h

theorem Table.map_map (f : β → γ) (g : α → β) (t : Table α) :
    (t.map fun _ => g).map (fun _ => f) = t.map fun _ a => f (g a) :=
  ext_get? fun k => by simp [Function.comp_def]

namespace Store

/-- What is declared of a slot determines the slot that a reset makes of it. -/
theorem reset_slots_eq (hd : t.declarations = s.declarations) (hp : t.defaults n = s.defaults n) :
    (t.slots n).map (fun _ => Slot.reset) = (s.slots n).map fun _ => Slot.reset := by
  refine Table.map_eq_of_views (congrArg (fun d => d.signatures n) hd) hp fun a b h h' => ?_
  rw [Slot.reset, Slot.reset, h, h']

theorem slots_eq (hd : t.declarations = s.declarations) (hp : t.defaults n = s.defaults n)
    (hv : t.values n = s.values n) : t.slots n = s.slots n := by
  refine Table.eq_of_views (reset_slots_eq hd hp) hv fun a b h h' => ?_
  cases a
  cases b
  simp_all [Slot.reset]

theorem responses_eq (hd : t.declarations = s.declarations) (hk : t.keys = s.keys)
    (hs : t.slots .response = s.slots .response) : t.responses = s.responses := by
  have hm : t.responses.map (fun _ r => (r.mapping, r.areaMapping)) =
      s.responses.map fun _ r => (r.mapping, r.areaMapping) := congrArg Declarations.mappings hd
  have hkeyed := Table.map_eq_of_views (u := fun r : ResponseVariable => (r.toSlot, r.correct))
    hs hk fun _ _ hslot hkey => Prod.ext hslot hkey
  refine Table.eq_of_views hkeyed hm fun a b h h' => ?_
  cases a
  cases b
  simp_all

/-- After a reset an outcome variable is what is declared of it. -/
theorem outcomes_resetOutcomes_eq (hd : t.declarations = s.declarations)
    (hp : t.defaults .outcome = s.defaults .outcome) :
    t.resetOutcomes.outcomes = s.resetOutcomes.outcomes := by
  have hr : t.outcomes.map (fun _ o => (o.lookupTable, o.normalMinimum, o.normalMaximum)) =
      s.outcomes.map fun _ o => (o.lookupTable, o.normalMinimum, o.normalMaximum) :=
    congrArg Declarations.results hd
  have hs : t.outcomes.map (fun _ o => o.toSlot.reset) =
      s.outcomes.map fun _ o => o.toSlot.reset := by
    simpa only [slots, Table.map_map] using reset_slots_eq hd hp
  refine Table.map_eq_of_views (u := fun o : OutcomeVariable => { o with toSlot := o.toSlot.reset })
    hs hr fun a b h h' => ?_
  simp_all

theorem templates_eq (hs : t.slots .template = s.slots .template) :
    t.templates = s.templates :=
  Table.eq_of_views hs hs fun _ _ h _ => congrArg TemplateVariable.mk h

/-- Two stores with the same declarations, the same preparation and the same values of the response
variables are the same once their outcome variables are reset. -/
theorem resetOutcomes_eq (hd : t.declarations = s.declarations)
    (hp : t.preparation = s.preparation) (hv : t.values .response = s.values .response) :
    t.resetOutcomes = s.resetOutcomes := by
  obtain ⟨htemplates, hkeys, hdefaults⟩ := preparation_eq_iff.1 hp
  have hr : t.responses = s.responses := responses_eq hd hkeys (slots_eq hd (hdefaults _) hv)
  have ho := outcomes_resetOutcomes_eq hd (hdefaults .outcome)
  have hm : t.templates = s.templates := templates_eq (slots_eq hd (hdefaults _) htemplates)
  calc t.resetOutcomes = ⟨t.responses, t.resetOutcomes.outcomes, t.templates⟩ := rfl
    _ = ⟨s.responses, s.resetOutcomes.outcomes, s.templates⟩ := by rw [hr, ho, hm]
    _ = s.resetOutcomes := rfl

end Store

/-! ## Runs that repeat themselves -/

/-- A computation repeats itself on a stage: once more from the store that it has left, with the
source as it was at first, it ends the same, leaves the same store and source, and records the
same. -/
def Exec.Repeats (m : Exec σ α) (s : Stage σ) : Prop :=
  ∃ added, (m.runOn s).2.trail.diagnostics = s.trail.diagnostics ++ added ∧
    ∀ notes, m.runOn ⟨(m.runOn s).2.store, ⟨s.trail.source, notes⟩⟩ =
      ((m.runOn s).1,
        ⟨(m.runOn s).2.store, ⟨(m.runOn s).2.trail.source, notes ++ added⟩⟩)

/-- Two runs in tandem under all names differ in what was recorded before them alone. -/
theorem Stage.Tandem.exists_added {a b s t : Stage σ} (h : Stage.Tandem (fun _ => True) a b s t) :
    ∃ added, s.trail.diagnostics = a.trail.diagnostics ++ added ∧
      t = ⟨s.store, ⟨s.trail.source, b.trail.diagnostics ++ added⟩⟩ := by
  obtain ⟨added, hs, ht⟩ := h.trail.notes
  refine ⟨added, hs, ?_⟩
  have hstore := Store.ext_holding fun id => h.agree id trivial
  rw [hstore, h.trail.source, ← ht]

/-- What was recorded before a run of a program makes no difference to it. -/
theorem Program.exists_added (env : Environment σ) (p : Program) (s : Stage σ) :
    ∃ added, ((p.run env).runOn s).2.trail.diagnostics = s.trail.diagnostics ++ added ∧
      ∀ notes, (p.run env).runOn ⟨s.store, ⟨s.trail.source, notes⟩⟩ =
        (((p.run env).runOn s).1, ⟨((p.run env).runOn s).2.store,
          ⟨((p.run env).runOn s).2.trail.source, notes ++ added⟩⟩) := by
  have tandem (notes : List Diagnostic) :=
    p.run_inStep env (fun _ _ => trivial) s ⟨s.store, ⟨s.trail.source, notes⟩⟩
      (.refl (N := fun _ => True) (fun _ _ => rfl) rfl)
  obtain ⟨added, hadded, -⟩ := (tandem []).2.exists_added
  refine ⟨added, hadded, fun notes => ?_⟩
  obtain ⟨hresult, h⟩ := tandem notes
  obtain ⟨added', hadded', hstage⟩ := h.exists_added
  obtain rfl : added = added' := List.append_cancel_left (hadded.symm.trans hadded')
  exact Prod.ext hresult.symm hstage

/-- A run on reset outcome variables is the run of a program. -/
theorem runOn_runFresh (env : Environment σ) (phase : Phase) (l : Option (List Statement))
    (s : Stage σ) :
    (runFresh env phase l).runOn s =
      ((Program.mk phase (l.getD [])).run env).runOn ⟨s.store.resetOutcomes, s.trail⟩ := by
  have hreset : (Exec.update fun s => .ok s.resetOutcomes : Exec σ Unit).runOn s =
      (.ok (), ⟨s.store.resetOutcomes, s.trail⟩) := Exec.runOn_update_of_ok rfl
  rw [runFresh.eq_def, Exec.runOn_bind_of_ok hreset]
  cases l with
  | none => rfl
  | some body => rfl

theorem Store.declarations_resetOutcomes (s : Store) :
    s.resetOutcomes.declarations = s.declarations := by
  have hs (n : Namespace) : (s.resetOutcomes.slots n).map (fun _ t => t.signature) =
      (s.slots n).map fun _ t => t.signature := by
    refine Table.ext_get? fun k => ?_
    simp only [Table.get?_map, get?_slots, slotIn?_resetOutcomes]
    split_ifs <;> simp [Function.comp_def, Slot.reset]
  have hr : s.resetOutcomes.declarations.results = s.declarations.results := 
    Table.ext_get? fun k => by simp [declarations, resetOutcomes, Function.comp_def]
  rw [declarations, declarations, Declarations.mk.injEq]
  exact ⟨funext hs, rfl, hr⟩

/-- A run changes what is declared in no phase. -/
theorem declarations_runFresh (env : Environment σ) (phase : Phase) (l : Option (List Statement))
    (s : Stage σ) :
    ((runFresh env phase l).runOn s).2.store.declarations = s.store.declarations := by
  have h : Exec.Preserves (fun t => t.declarations = s.store.declarations)
      ((Program.mk phase (l.getD [])).run env) :=
    Program.run_preserves fun _ _ _ _ hw h => hw.change.declarations_eq.trans h
  rw [runOn_runFresh]
  exact h _ s.store.declarations_resetOutcomes

theorem preparation_runFresh (env : Environment σ) {phase : Phase} (hp : phase ≠ .template)
    (l : Option (List Statement)) (s : Stage σ) :
    ((runFresh env phase l).runOn s).2.store.preparation = s.store.preparation := by
  have h : Exec.Preserves (fun t => t.preparation = s.store.preparation)
      ((Program.mk phase (l.getD [])).run env) :=
    Program.run_preserves_preparation env hp
  rw [runOn_runFresh]
  exact h _ s.store.preparation_resetOutcomes

/-- A run that has left the values of the response variables alone repeats itself. -/
theorem runFresh_repeats {env : Environment σ} {phase : Phase} {l : Option (List Statement)}
    {s : Stage σ} (hp : phase ≠ .template)
    (hv : ((runFresh env phase l).runOn s).2.store.values .response = s.store.values .response) :
    Exec.Repeats (runFresh env phase l) s := by
  have hreset := Store.resetOutcomes_eq (declarations_runFresh env phase l s)
    (preparation_runFresh env hp l s) hv
  obtain ⟨added, hadded, hnotes⟩ :=
    (Program.mk phase (l.getD [])).exists_added env ⟨s.store.resetOutcomes, s.trail⟩
  refine ⟨added, ?_, fun notes => ?_⟩
  · rw [runOn_runFresh]
    exact hadded
  · rw [runOn_runFresh _ _ _ ⟨_, _⟩, hreset, runOn_runFresh _ _ _ s]
    exact hnotes notes

/-! ## Tests -/

/-- The stores that runs of a test lead to from its own, whether they end in a signal or in a
fault. -/
inductive TestDocument.Reached (d : TestDocument) : Store → Prop
  | start : d.Reached d.store
  | run {σ : Type} {c : Store} (env : Environment σ) (trail : Trail σ) :
      d.Reached c → d.Reached ((d.processOutcomes env).runOn ⟨c, trail⟩).2.store

variable {d : TestDocument} {c : Store}

theorem responses_foldl_declareOutcome (l : List (Declaration OutcomeVariable)) :
    ∀ s : Store, (l.foldl Store.declareOutcome s).responses = s.responses := by
  induction l with
  | nil => exact fun _ => rfl
  | cons o rest ih => exact fun s => ih _

/-- Tests declare no response variables, and no run changes what is declared. -/
theorem TestDocument.Reached.signatures_eq (h : d.Reached c) :
    c.declarations.signatures .response = .empty := by
  induction h with
  | start =>
    have h : d.store.responses = .empty := responses_foldl_declareOutcome _ _
    simp only [Store.declarations, Store.slots, h]
    rfl
  | @run _ c env trail _ ih =>
    have h := declarations_runFresh env .outcome d.outcomeProcessing ⟨c, trail⟩
    rw [← ih]
    exact congrArg (fun d => d.signatures .response) h

theorem Store.values_eq_empty (h : s.declarations.signatures n = .empty) :
    s.values n = .empty := by
  refine Table.ext_get? fun k => ?_
  have hk := congrArg (Table.get? · k) h
  simp only [declarations, Table.get?_map, Table.get?_empty, Option.map_eq_none_iff] at hk
  rw [values, Table.get?_map, hk, Table.get?_empty, Option.map_none]

/-- **Reprocessing is idempotent.** The responses of an item processed again, with the random source
as it was at first, lead to the same signal or fault and to the very same store, if the first run,
however it ended, has left the values of the response variables as they were. The outcomes of a test
processed again do so always, from every store that runs of the test lead to. -/
theorem reprocessing_repeats :
    (∀ (d : ItemDocument) (env : Environment σ) (s : Stage σ),
      ((d.processResponses env).runOn s).2.store.values .response = s.store.values .response →
        Exec.Repeats (d.processResponses env) s) ∧
      ∀ (d : TestDocument) (env : Environment σ) (c : Store) (trail : Trail σ), d.Reached c →
        Exec.Repeats (d.processOutcomes env) ⟨c, trail⟩ := by
  refine ⟨fun d env s hv => runFresh_repeats (by decide) hv, fun d env c trail hc => ?_⟩
  refine runFresh_repeats (by decide) ?_
  have hbefore := Store.values_eq_empty hc.signatures_eq
  have hafter := Store.values_eq_empty (hc.run env trail).signatures_eq
  exact hafter.trans hbefore.symm

/-- Adds a draw to the score, then fails. -/
def tally : List Statement :=
  [.assign .outcome "SCORE" (.variadic .sum
      [.variable "SCORE" none, .randomInteger (.value 1) (.value 6) (.value 1)]),
    .reset "TOTAL"]

/-- The score of a tally. -/
def tallyScore : Declaration OutcomeVariable :=
  ⟨"SCORE", Store.plainOutcome ⟨.single, some .integer⟩ (.single (.integer 0))⟩

/-- An item and a test that tally do not add up when they are processed again. -/
theorem tally_repeats :
    let item : ItemDocument := ⟨none, [], [tallyScore], [], none, some tally⟩
    let test : TestDocument := ⟨none, [tallyScore], some tally⟩
    let itemRun := (item.processResponses .replay).runOn ⟨item.store, .start ⟨[3], []⟩⟩
    let testRun := (test.processOutcomes .replay).runOn ⟨test.store, .start ⟨[3], []⟩⟩
    itemRun.2.store.value "SCORE" = .ok (.single (.integer 4)) ∧
      testRun.2.store.value "SCORE" = .ok (.single (.integer 4)) ∧
      Exec.Repeats (item.processResponses .replay) ⟨item.store, .start ⟨[3], []⟩⟩ ∧
      Exec.Repeats (test.processOutcomes .replay) ⟨testRun.2.store, .start ⟨[3], []⟩⟩ := by
  intro item test itemRun testRun
  refine ⟨rfl, rfl, ?_, ?_⟩
  · exact reprocessing_repeats.1 item .replay _ rfl
  · exact reprocessing_repeats.2 test .replay _ _ (.run _ _ .start)

end Assessment
