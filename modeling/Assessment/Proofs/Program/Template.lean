import Assessment.Program.Template
import Assessment.Proofs.Expr.Trail
import Assessment.Proofs.Program.Write

/-!
# Making a variant is starting over

`cleanAttempt` is one execution of a template program on the store of the entry with its template
variables reset, with the random source and the diagnostics that the attempts before it have left.
The attempt that decides is the first that does not fail its constraint, or the last one allowed.

The code is `instantiate_template` (section B.4.5 of the specification), a loop that keeps a copy of
the context. The statement is about the whole loop: which attempt decides, what it starts from, and
what is left.

* `instantiate_spec`: making a variant gives the result, the store and the diagnostics of the
  attempt that decides, one diagnostic more when that one fails its constraint; what is satisfied
  with few attempts comes out the same with more.
* `instantiate_preserves`: what resets and runs keep of a store, the making of a variant keeps.
-/

namespace Assessment

variable {σ : Type} (env : Environment σ) (p : Program) (entry : Stage σ)

/-! ## Attempts from a clean store -/

/-- The trail that an attempt starts with: the one before it has left it. -/
def attemptTrail : Nat → Trail σ
  | 0 => entry.trail
  | k + 1 => ((p.run env).runOn ⟨entry.store.resetTemplates, attemptTrail k⟩).2.trail

/-- An attempt, counted from zero, on the store of the entry with its template variables reset. -/
def cleanAttempt (k : Nat) : Except Fault Signal × Stage σ :=
  (p.run env).runOn ⟨entry.store.resetTemplates, attemptTrail env p entry k⟩

/-- Attempt `k` decides among `m`: all before it fail their constraint, and it is the last if it
does as well. -/
structure Decides (m k : Nat) : Prop where
  lt : k < m
  rejected : ∀ j < k, (cleanAttempt env p entry j).1 = .ok .constraintFailed
  last : (cleanAttempt env p entry k).1 = .ok .constraintFailed → k + 1 = m

/-- What comes of the attempt that decides: its fault, or the variant with a note when the
constraint does not hold. The store is the one it has left. -/
def conclude (k : Nat) : Except Fault Signal × Stage σ → Except Fault Variant × Stage σ
  | (.error e, s) => (.error e, s)
  | (.ok signal, s) =>
    if signal = .constraintFailed then
      (.ok ⟨k + 1, false, signal⟩, { s with trail :=
        { s.trail with diagnostics := s.trail.diagnostics ++ [.constraintUnsatisfied (k + 1)] } })
    else (.ok ⟨k + 1, true, signal⟩, s)

variable {env p entry} {m k made left : Nat} {s : Stage σ}

/-- One attempt alone decides. -/
theorem Decides.unique {k' : Nat} (h : Decides env p entry m k) (h' : Decides env p entry m k') :
    k = k' := by
  have hle : ∀ {i j}, Decides env p entry m i → Decides env p entry m j → ¬ i < j := by
    intro i j hi hj hlt
    have := hi.last (hj.rejected i hlt)
    have := hj.lt
    omega
  have := hle h h'
  have := hle h' h
  omega

/-! ## The loop -/

/-- An attempt does not depend on what the rejected ones have written. -/
theorem runOn_attempt (hs : made = 0 → s.store = entry.store)
    (ht : s.trail = attemptTrail env p entry made) :
    (attempt env p entry.store made).runOn s = cleanAttempt env p entry made := by
  obtain ⟨store, trail⟩ := s
  cases ht
  cases made with
  | zero =>
    cases hs rfl
    rfl
  | succ made => rfl

/-- After a rejected attempt the trail is the one that the next attempt starts with. -/
theorem trail_cleanAttempt (k : Nat) :
    (cleanAttempt env p entry k).2.trail = attemptTrail env p entry (k + 1) := rfl

theorem conclude_of_failed (h : (cleanAttempt env p entry k).1 = .ok .constraintFailed) :
    conclude k (cleanAttempt env p entry k) =
      (.ok ⟨k + 1, false, .constraintFailed⟩,
        ((Exec.record (.constraintUnsatisfied (k + 1)) : Exec σ Unit).runOn
          (cleanAttempt env p entry k).2).2) := by
  rcases hc : cleanAttempt env p entry k with ⟨r, t⟩
  rw [hc] at h
  cases h
  rfl

variable (env p entry) in
/-- What the loop does after `made` rejected attempts, by induction on the attempts left. -/
theorem runOn_attemptFrom : ∀ (left made : Nat) (s : Stage σ),
    (made = 0 → s.store = entry.store) → s.trail = attemptTrail env p entry made →
    (∀ j < made, (cleanAttempt env p entry j).1 = .ok .constraintFailed) →
    ∃ k, Decides env p entry (made + left + 1) k ∧
      (attemptFrom env p entry.store made left).runOn s = conclude k (cleanAttempt env p entry k)
  | left, made, s, hs, ht, hr => by
    have ha := runOn_attempt hs ht
    rcases hc : cleanAttempt env p entry made with ⟨r, t⟩
    rw [hc] at ha
    by_cases hf : r = .ok .constraintFailed
    · subst hf
      have hfail : (cleanAttempt env p entry made).1 = .ok .constraintFailed := by rw [hc]
      cases left with
      | zero =>
        refine ⟨made, ⟨by omega, hr, fun _ => by omega⟩, ?_⟩
        rw [attemptFrom, Exec.runOn_bind_of_ok ha, conclude_of_failed hfail, hc]
        rfl
      | succ left =>
        have hr' : ∀ j < made + 1, (cleanAttempt env p entry j).1 = .ok .constraintFailed := by
          intro j hj
          by_cases e : j = made
          · rw [e, hfail]
          · exact hr j (by omega)
        have ht' : t.trail = attemptTrail env p entry (made + 1) := by
          rw [← trail_cleanAttempt, hc]
        obtain ⟨k, hk, hrun⟩ := runOn_attemptFrom left (made + 1) t (by omega) ht' hr'
        refine ⟨k, by rwa [show made + (left + 1) + 1 = made + 1 + left + 1 by omega], ?_⟩
        rw [attemptFrom, Exec.runOn_bind_of_ok ha]
        exact hrun
    · -- Whatever is left, this attempt is the one that decides.
      refine ⟨made, ⟨by omega, hr, fun h => absurd (by rw [← h, hc]) hf⟩, ?_⟩
      rw [hc]
      cases r with
      | error e => cases left <;> exact Exec.runOn_bind_of_error ha
      | ok signal =>
        have hne : signal ≠ .constraintFailed := fun e => hf (by rw [e])
        rw [conclude, if_neg hne]
        cases left <;>
          · rw [attemptFrom, Exec.runOn_bind_of_ok ha, if_neg hne]
            rfl

variable (env p entry) in
theorem exists_decides (m : Nat) :
    ∃ k, Decides env p entry (max 1 m) k ∧
      (instantiate env p m).runOn entry = conclude k (cleanAttempt env p entry k) := by
  obtain ⟨k, hk, hrun⟩ := runOn_attemptFrom env p entry (m - 1) 0 entry (fun _ => rfl) rfl
    (by omega)
  refine ⟨k, ?_, hrun⟩
  rwa [show max 1 m = 0 + (m - 1) + 1 by omega]

theorem store_conclude (k : Nat) (c : Except Fault Signal × Stage σ) :
    (conclude k c).2.store = c.2.store := by
  obtain ⟨r, t⟩ := c
  cases r with
  | error e => rfl
  | ok signal =>
    rw [conclude]
    split <;> rfl

/-- **What a reset and a run keep, the making of a variant keeps**: it leaves the store of a single
attempt. -/
theorem instantiate_preserves {P : Store → Prop} (hreset : ∀ s, P s → P s.resetTemplates)
    (hrun : Exec.Preserves P (p.run env)) (m : Nat) : Exec.Preserves P (instantiate env p m) := by
  intro s hs
  obtain ⟨k, -, hk⟩ := exists_decides env p s m
  rw [hk, store_conclude]
  exact hrun _ (hreset _ hs)

/-! ## Diagnostics -/

/-- Programs record diagnostics of operators alone. -/
theorem Program.trail_extends (env : Environment σ) (p : Program) (s : Stage σ) :
    s.trail.Extends ((p.run env).runOn s).2.trail := by
  have hc : Exec.Covers env p.phase (fun _ => True) fun s t : Stage σ => s.trail.Extends t.trail :=
    { refl := fun s => .refl s.trail
      trans := .trans
      eval := fun e s => (Trail.covers_extends env).within_eval e s.trail
      write := fun {_ s _} _ _ => .refl s.trail }
  exact hc.runOn_executeAll p.statements (fun _ _ => trivial) s

theorem attemptTrail_extends (k : Nat) : entry.trail.Extends (attemptTrail env p entry k) := by
  induction k with
  | zero => exact .refl _
  | succ k ih => exact ih.trans (p.trail_extends env ⟨entry.store.resetTemplates, _⟩)

theorem trail_cleanAttempt_extends (k : Nat) :
    entry.trail.Extends (cleanAttempt env p entry k).2.trail := by
  rw [trail_cleanAttempt]
  exact attemptTrail_extends (k + 1)

/-- The notes on a failing constraint that go with a result: one for a variant that is kept. -/
def unsatisfiedNotes : Except Fault Variant → List Diagnostic
  | .ok ⟨attempts, false, _⟩ => [.constraintUnsatisfied attempts]
  | _ => []

/-- What an attempt that decides adds to the diagnostics of operators. -/
theorem notes_conclude (k : Nat) (c : Except Fault Signal × Stage σ)
    (h : entry.trail.Extends c.2.trail) :
    ∃ added, (conclude k c).2.trail.diagnostics = entry.trail.diagnostics ++ added ∧
      added.filter Diagnostic.isUnsatisfied = unsatisfiedNotes (conclude k c).1 := by
  obtain ⟨added, hadded, hnone⟩ := h
  have hfilter : added.filter Diagnostic.isUnsatisfied = [] :=
    List.filter_eq_nil_iff.2 fun d hd => by simp [hnone d hd]
  rcases c with ⟨r, t⟩
  cases r with
  | error e => exact ⟨added, hadded, hfilter⟩
  | ok signal =>
    by_cases hf : signal = .constraintFailed
    · refine ⟨added ++ [.constraintUnsatisfied (k + 1)], ?_, ?_⟩
      · simp only [conclude, if_pos hf] at hadded ⊢
        rw [hadded, List.append_assoc]
      · rw [conclude, if_pos hf, List.filter_append, hfilter]
        rfl
    · rw [conclude, if_neg hf]
      exact ⟨added, hadded, hfilter⟩

/-! ## The specification -/

/-- A satisfied variant says which attempt has decided, and that it did not fail its constraint. -/
theorem conclude_satisfied {c : Except Fault Signal × Stage σ} {v : Variant}
    (h : (conclude k c).1 = .ok v) (hv : v.satisfied = true) :
    v.attempts = k + 1 ∧ c.1 ≠ .ok .constraintFailed := by
  rcases c with ⟨r, t⟩
  cases r with
  | error e => cases h
  | ok signal =>
    by_cases hf : signal = .constraintFailed
    · rw [conclude, if_pos hf] at h
      cases h
      cases hv
    · rw [conclude, if_neg hf] at h
      cases h
      exact ⟨rfl, fun e => hf (Except.ok.inj e)⟩

/-- **Making a variant is starting over until an attempt decides.** With `m` attempts allowed, one
at least, exactly one attempt decides, and the result and the stage are those that follow from it.
There is one note on a failing constraint when the variant is not satisfied, and none otherwise. A
variant that is satisfied comes out the same whenever the attempts it took are allowed. -/
theorem instantiate_spec (env : Environment σ) (p : Program) (entry : Stage σ) (m : Nat) :
    (∃ k, Decides env p entry (max 1 m) k ∧ (∀ j, Decides env p entry (max 1 m) j → j = k) ∧
      (instantiate env p m).runOn entry = conclude k (cleanAttempt env p entry k)) ∧
    (∃ added, ((instantiate env p m).runOn entry).2.trail.diagnostics =
        entry.trail.diagnostics ++ added ∧
      added.filter Diagnostic.isUnsatisfied =
        unsatisfiedNotes ((instantiate env p m).runOn entry).1) ∧
    ∀ v m', ((instantiate env p m).runOn entry).1 = .ok v → v.satisfied = true →
      v.attempts ≤ max 1 m' →
      (instantiate env p m').runOn entry = (instantiate env p m).runOn entry := by
  obtain ⟨k, hk, hrun⟩ := exists_decides env p entry m
  refine ⟨⟨k, hk, fun j hj => hj.unique hk, hrun⟩, ?_, ?_⟩
  · rw [hrun]
    exact notes_conclude k _ (trail_cleanAttempt_extends k)
  · intro v m' hv hsat hle
    rw [hrun] at hv
    obtain ⟨hatt, hne⟩ := conclude_satisfied hv hsat
    obtain ⟨k', hk', hrun'⟩ := exists_decides env p entry m'
    have hk'' : Decides env p entry (max 1 m') k :=
      ⟨by omega, hk.rejected, fun h => absurd h hne⟩
    rw [hrun', hrun, hk'.unique hk'']

/-- A template program that draws an integer up to ten and accepts eight. -/
def drawEight : Program where
  phase := .template
  statements := [.assign .template "T" (.randomInteger (.value 1) (.value 10) (.value 1)),
    .constraint (.binary .matching (.variable "T" none) (.literal (.integer 8)))]

/-- A stage with the variable that `drawEight` writes, and draws of two and of eight to come. -/
def drawEightStage : Stage RandomSource.Script where
  store := Store.empty.declareTemplate ⟨"T", ⟨Slot.ofDefault ⟨.single, some .integer⟩ .null⟩⟩
  trail := .start ⟨[1, 7], []⟩

/-- Two draws are enough for `drawEight` here, so a hundred attempts make the same variant. -/
theorem instantiate_drawEight :
    ((instantiate .replay drawEight 2).runOn drawEightStage).1 = .ok ⟨2, true, .proceed⟩ ∧
      (instantiate .replay drawEight 100).runOn drawEightStage =
        (instantiate .replay drawEight 2).runOn drawEightStage :=
  ⟨rfl, (instantiate_spec .replay drawEight drawEightStage 2).2.2 ⟨2, true, .proceed⟩ 100 rfl rfl
    (by decide)⟩

end Assessment
