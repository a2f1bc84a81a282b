import Assessment.Lookup
import Assessment.Proofs.Numeric.Equality
import Assessment.Proofs.Numeric.Order

/-!
# The bands of an interpolation table

The scan through an interpolation table keeps the best entry so far. What it ends with is the
tightest entry that the source satisfies: no satisfied entry has a greater bound, and none before it
has the same. So the order of the entries counts among equal bounds only, a greater source never has
a lower bound, and of entries in ascending order the source gets the one whose band it is in.

The code is `resolve_interpolation`, one loop that lets an entry take over when its bound is
greater.

* `Chosen`: the tightest entry that a number satisfies, or none when it satisfies none.
* `chosen_bestFrom`: the scan chooses; `Chosen.unique`: there is one choice.
* `LookupTable.resolve_interpolation`: what an interpolation table gives to a number.
-/

namespace Assessment

open Numeric

/-! ## Entries and the numbers that satisfy them -/

namespace InterpolationEntry

variable {e f : InterpolationEntry} {x y : Float}

theorem bound_le_of_admits (h : e.admits x = true) : e.bound ≤ x := by
  rw [admits] at h
  split_ifs at h
  · exact of_decide_eq_true h
  · exact float_le_of_lt (of_decide_eq_true h)

theorem admits_of_le (h : e.admits x = true) (hxy : x ≤ y) : e.admits y = true := by
  rw [admits] at h ⊢
  split_ifs at h ⊢
  · exact decide_eq_true (float_le_trans (of_decide_eq_true h) hxy)
  · exact decide_eq_true (float_lt_of_lt_of_le (of_decide_eq_true h) hxy)

theorem isNaN_bound_of_admits (h : e.admits x = true) : e.bound.isNaN = false :=
  (float_le_iff.1 (bound_le_of_admits h)).1

theorem admits_iff_of_inclusive (he : e.includeBoundary = true) :
    e.admits x = true ↔ e.bound ≤ x := by
  rw [admits, if_pos he, decide_eq_true_iff]

end InterpolationEntry

namespace LookupTable

open InterpolationEntry

variable {l m : List InterpolationEntry} {o p : Option InterpolationEntry}
  {e f : InterpolationEntry} {x y : Float}

/-! ## The tightest entry -/

/-- **The tightest entry** that a number satisfies: those with the same bound come later. -/
structure Tightest (x : Float) (l : List InterpolationEntry) (e : InterpolationEntry) : Prop where
  admits : e.admits x = true
  split : ∃ before after, l = before ++ e :: after ∧
    (∀ b ∈ before, b.admits x = true → b.bound < e.bound) ∧
    ∀ b ∈ after, b.admits x = true → b.bound ≤ e.bound

/-- The tightest entry that a number satisfies, or none when it satisfies none. -/
def Chosen (x : Float) (l : List InterpolationEntry) : Option InterpolationEntry → Prop
  | none => ∀ e ∈ l, e.admits x = false
  | some e => Tightest x l e

namespace Tightest

theorem mem (h : Tightest x l e) : e ∈ l := by
  obtain ⟨-, before, after, rfl, -⟩ := h
  exact List.mem_append_right _ List.mem_cons_self

theorem bound_le (h : Tightest x l e) (hf : f ∈ l) (hx : f.admits x = true) :
    f.bound ≤ e.bound := by
  obtain ⟨he, before, after, rfl, hbefore, hafter⟩ := h
  rcases List.mem_append.1 hf with hf | hf
  · exact float_le_of_lt (hbefore f hf hx)
  · rcases List.mem_cons.1 hf with rfl | hf
    · exact float_le_refl (isNaN_bound_of_admits he)
    · exact hafter f hf hx

/-- An entry in two places before others, of which neither is the first, is not the tightest. -/
theorem unique (he : Tightest x l e) (hf : Tightest x l f) : e = f := by
  obtain ⟨hex, b, a, rfl, hb, ha⟩ := he
  obtain ⟨hfx, b', a', hl, hb', ha'⟩ := hf
  rcases List.append_eq_append_iff.1 hl with ⟨c, rfl, hc⟩ | ⟨c, rfl, hc⟩
  · cases c with
    | nil => exact (List.cons.inj hc).1
    | cons g c =>
      obtain ⟨rfl, rfl⟩ := List.cons.inj hc
      have hlt := hb' e (by simp) hex
      have hle := ha f (by simp) hfx
      exact absurd (float_lt_of_lt_of_le hlt hle) (float_lt_irrefl _)
  · cases c with
    | nil => exact (List.cons.inj hc).1.symm
    | cons g c =>
      obtain ⟨rfl, rfl⟩ := List.cons.inj hc
      have hlt := hb f (by simp) hfx
      have hle := ha' e (by simp) hex
      exact absurd (float_lt_of_lt_of_le hlt hle) (float_lt_irrefl _)

end Tightest

/-! ## What is chosen -/

namespace Chosen

/-- An entry that the number satisfies has a bound up to the one of the chosen entry. -/
theorem exists_bound_le (h : Chosen x l o) (hf : f ∈ l) (hx : f.admits x = true) :
    ∃ e ∈ o, f.bound ≤ e.bound := by
  cases o with
  | none => exact absurd hx (by simp [h f hf])
  | some e => exact ⟨e, rfl, Tightest.bound_le h hf hx⟩

theorem append (h : Chosen x l o)
    (hm : ∀ f ∈ m, f.admits x = true → ∃ e ∈ o, f.bound ≤ e.bound) : Chosen x (l ++ m) o := by
  cases o with
  | none =>
    refine List.forall_mem_append.2 ⟨h, fun f hf => Bool.eq_false_iff.2 fun hx => ?_⟩
    obtain ⟨e, he, -⟩ := hm f hf hx
    cases he
  | some e =>
    obtain ⟨he, before, after, rfl, hbefore, hafter⟩ := h
    refine ⟨he, before, after ++ m, List.append_assoc .., hbefore,
      List.forall_mem_append.2 ⟨hafter, fun f hf hx => ?_⟩⟩
    obtain ⟨g, hg, hle⟩ := hm f hf hx
    exact Option.mem_some.1 hg ▸ hle

theorem cons (h : Chosen x l o) (he : e.admits x = true → ∃ f ∈ o, e.bound < f.bound) :
    Chosen x (e :: l) o := by
  cases o with
  | none =>
    refine List.forall_mem_cons.2 ⟨Bool.eq_false_iff.2 fun hx => ?_, h⟩
    obtain ⟨f, hf, -⟩ := he hx
    cases hf
  | some g =>
    obtain ⟨hg, before, after, rfl, hbefore, hafter⟩ := h
    refine ⟨hg, e :: before, after, rfl, List.forall_mem_cons.2 ⟨fun hx => ?_, hbefore⟩, hafter⟩
    obtain ⟨f, hf, hlt⟩ := he hx
    exact Option.mem_some.1 hf ▸ hlt

theorem unique (h : Chosen x l o) (h' : Chosen x l p) : o = p := by
  cases o with
  | none =>
    cases p with
    | none => rfl
    | some f => exact absurd h'.admits (by simp [h f h'.mem])
  | some e =>
    cases p with
    | none => exact absurd h.admits (by simp [h' e h.mem])
    | some f => rw [Tightest.unique h h']

end Chosen

/-! ## The scan -/

theorem bestFrom_append (l m : List InterpolationEntry) :
    bestFrom x o (l ++ m) = bestFrom x (bestFrom x o l) m := by
  induction l generalizing o with
  | nil => rfl
  | cons e l ih => exact ih

theorem bestFrom_of_not_admits (h : e.admits x = false) : bestFrom x o [e] = o := by
  simp [bestFrom, h]

theorem bestFrom_of_lt (h : e.admits x = true) (hlt : ∀ b ∈ o, b.bound < e.bound) :
    bestFrom x o [e] = some e := by
  cases o with
  | none => simp [bestFrom, h]
  | some b => simp [bestFrom, h, hlt b rfl]

theorem bestFrom_of_not_lt (hlt : ¬f.bound < e.bound) : bestFrom x (some f) [e] = some f := by
  simp [bestFrom, hlt]

/-- One more entry is chosen when the number satisfies it and its bound is above the one so far. -/
theorem Chosen.snoc (h : Chosen x l o) (e : InterpolationEntry) :
    Chosen x (l ++ [e]) (bestFrom x o [e]) := by
  cases hx : e.admits x with
  | false =>
    rw [bestFrom_of_not_admits hx]
    refine h.append fun f hf hfx => ?_
    rw [List.mem_singleton.1 hf, hx] at hfx
    cases hfx
  | true =>
    by_cases hlt : ∀ b ∈ o, b.bound < e.bound
    · rw [bestFrom_of_lt hx hlt]
      refine ⟨hx, l, [], rfl, fun f hf hfx => ?_, nofun⟩
      obtain ⟨b, hb, hle⟩ := h.exists_bound_le hf hfx
      exact float_lt_of_le_of_lt hle (hlt b hb)
    · cases o with
      | none => exact absurd nofun hlt
      | some b =>
        have hnlt : ¬b.bound < e.bound := fun hb => hlt fun _ hc => Option.mem_some.1 hc ▸ hb
        have hle : e.bound ≤ b.bound :=
          (float_not_lt (isNaN_bound_of_admits h.admits) (isNaN_bound_of_admits hx)).1 hnlt
        rw [bestFrom_of_not_lt hnlt]
        exact h.append fun f hf _ => ⟨b, rfl, List.mem_singleton.1 hf ▸ hle⟩

/-- **The scan chooses** the tightest of the entries. -/
theorem chosen_bestFrom (x : Float) (l : List InterpolationEntry) :
    Chosen x l (bestFrom x none l) := by
  induction l using List.reverseRecOn with
  | nil => exact nofun
  | append_singleton l e ih =>
    rw [bestFrom_append]
    exact ih.snoc e

/-! ## Order of the entries, and greater numbers -/

theorem Chosen.perm (h : Chosen x l o) (hlm : l.Perm m)
    (hdistinct : l.Pairwise fun a b => (a.bound == b.bound) = false) : Chosen x m o := by
  cases o with
  | none => exact fun e he => h e (hlm.mem_iff.2 he)
  | some e =>
    obtain ⟨before, after, rfl⟩ := List.append_of_mem (hlm.mem_iff.1 h.mem)
    have hne : ∀ b ∈ before, (b.bound == e.bound) = false := by
      have hm := hdistinct.perm hlm fun {a b} hab => (float_beq_comm b.bound a.bound).trans hab
      exact fun b hb => (List.pairwise_append.1 hm).2.2 b hb e List.mem_cons_self
    refine ⟨h.admits, before, after, rfl, fun b hb hx => ?_, fun b hb hx => ?_⟩
    · have hmem : b ∈ l := hlm.mem_iff.2 (List.mem_append_left _ hb)
      exact float_lt_of_le_of_not_beq (h.bound_le hmem hx) (hne b hb)
    · exact h.bound_le (hlm.mem_iff.2 (List.mem_append_right _ (List.mem_cons_of_mem _ hb))) hx

theorem Chosen.mono (h : Chosen x l (some e)) (hxy : x ≤ y) (h' : Chosen y l o) :
    ∃ f ∈ o, e.bound ≤ f.bound :=
  h'.exists_bound_le (Tightest.mem h) (admits_of_le (Tightest.admits h) hxy)

/-! ## Bands -/

/-- The entry whose band a number is in: from its bound to below the next one. -/
def band? (x : Float) : List InterpolationEntry → Option InterpolationEntry
  | [] => none
  | e :: rest =>
    if e.bound ≤ x ∧ ∀ f ∈ rest.head?, x < f.bound then some e else band? x rest

/-- A number below the first bound of an ascending table is below all of them. -/
theorem lt_bound_of_head? (hasc : l.Pairwise fun a b => a.bound < b.bound)
    (hnext : ∀ f ∈ l.head?, x < f.bound) : ∀ b ∈ l, x < b.bound := by
  cases l with
  | nil => exact nofun
  | cons f l =>
    have hf := hnext f rfl
    exact List.forall_mem_cons.2 ⟨hf, fun b hb =>
      float_lt_of_lt_of_le hf (float_le_of_lt ((List.pairwise_cons.1 hasc).1 b hb))⟩

/-- In an ascending table of inclusive bounds a number is in the band of its tightest entry. -/
theorem chosen_band? (hl : ∀ e ∈ l, e.includeBoundary = true)
    (hasc : l.Pairwise fun a b => a.bound < b.bound) : Chosen x l (band? x l) := by
  induction l with
  | nil => exact nofun
  | cons e l ih =>
    obtain ⟨he, hl⟩ := List.forall_mem_cons.1 hl
    obtain ⟨hlt, htail⟩ := List.pairwise_cons.1 hasc
    have hrest := ih hl htail
    rw [band?]
    split_ifs with hband
    · obtain ⟨hle, hnext⟩ := hband
      refine ⟨(admits_iff_of_inclusive he).2 hle, [], l, rfl, nofun, fun b hb hx => ?_⟩
      have habove := lt_bound_of_head? htail hnext b hb
      exact absurd (float_lt_of_lt_of_le habove (bound_le_of_admits hx)) (float_lt_irrefl _)
    · refine hrest.cons fun hx => ?_
      have hle := (admits_iff_of_inclusive he).1 hx
      -- The next entry has its bound at the number or below, so it is satisfied as well.
      obtain ⟨f, hf, hnlt⟩ : ∃ f ∈ l.head?, ¬x < f.bound := by
        by_contra! hall
        exact hband ⟨hle, hall⟩
      have hmem : f ∈ l := List.mem_of_mem_head? hf
      have hef := hlt f hmem
      have hfx : f.bound ≤ x :=
        (float_not_lt (float_le_iff.1 hle).2.1 (float_lt_iff.1 hef).2.1).1 hnlt
      obtain ⟨g, hg, hfg⟩ :=
        hrest.exists_bound_le hmem ((admits_iff_of_inclusive (hl f hmem)).2 hfx)
      exact ⟨g, hg, float_lt_of_lt_of_le hef hfg⟩

/-- What a table gives to a number is the target of the chosen entry, or else the default. -/
theorem resolve_of_chosen {default : Option Scalar} {source : Value}
    (hx : sourceNumber? source = some x) (ho : Chosen x l o) :
    resolve (.interpolation default l) source =
      .ok (.ofScalar? (o.map (·.target) <|> default)) := by
  have hnull : source.isNull = false := by
    cases source with
    | single s => cases s <;> first | rfl | cases hx
    | _ => cases hx
  have hscan : bestFrom x none l = o := (chosen_bestFrom x l).unique ho
  simp only [resolve, hnull, hx, findBand, hscan, Bool.false_eq_true, if_false]

/-- **What an interpolation table gives to a number.** It is the default when the number satisfies
no entry, and else the target of the tightest entry. The entries may come in any order as long as
their bounds differ; a greater number has a tightest entry with a bound that is no lower; and in an
ascending table of inclusive bounds the tightest entry is the one whose band the number is in. -/
theorem resolve_interpolation (default : Option Scalar) {source : Value} {x : Float}
    (hx : sourceNumber? source = some x) (l : List InterpolationEntry) :
    ((∀ e ∈ l, e.admits x = false) →
      resolve (.interpolation default l) source = .ok (.ofScalar? default)) ∧
    ((∃ e ∈ l, e.admits x = true) → ∃ e, Tightest x l e) ∧
    (∀ e, Tightest x l e →
      resolve (.interpolation default l) source = .ok (.single e.target)) ∧
    (∀ m, l.Perm m → l.Pairwise (fun a b => (a.bound == b.bound) = false) →
      resolve (.interpolation default m) source = resolve (.interpolation default l) source) ∧
    (∀ y e, x ≤ y → Tightest x l e → ∃ f, Tightest y l f ∧ e.bound ≤ f.bound) ∧
    ((∀ e ∈ l, e.includeBoundary = true) → l.Pairwise (fun a b => a.bound < b.bound) →
      resolve (.interpolation default l) source =
        .ok (.ofScalar? ((band? x l).map (·.target) <|> default))) := by
  have hscan := chosen_bestFrom x l
  refine ⟨fun hnone => ?_, fun ⟨f, hf, hfx⟩ => ?_, fun e he => ?_, fun m hlm hdistinct => ?_,
    fun y e hxy he => ?_, fun hl hasc => ?_⟩
  · have hnothing : Chosen x l none := hnone
    rw [resolve_of_chosen hx hnothing]
    rfl
  · obtain ⟨e, he, -⟩ := hscan.exists_bound_le hf hfx
    have hbest : Chosen x l (some e) := Option.mem_def.1 he ▸ hscan
    exact ⟨e, hbest⟩
  · have hbest : Chosen x l (some e) := he
    exact resolve_of_chosen hx hbest
  · rw [resolve_of_chosen hx hscan, resolve_of_chosen hx (hscan.perm hlm hdistinct)]
  · have hbest : Chosen x l (some e) := he
    obtain ⟨f, hf, hle⟩ := hbest.mono hxy (chosen_bestFrom y l)
    have hf' : Chosen y l (some f) := Option.mem_def.1 hf ▸ chosen_bestFrom y l
    exact ⟨f, hf', hle⟩
  · exact resolve_of_chosen hx (chosen_band? hl hasc)

/-- Marks from their least score: a pass needs more than fifty, and so does the note beside it. -/
def marks : List InterpolationEntry :=
  [⟨80.0, true, .identifier "high"⟩, ⟨50.0, false, .identifier "pass"⟩,
    ⟨0.0, true, .identifier "low"⟩, ⟨50.0, false, .identifier "note"⟩]

/-- Fifty points, which satisfy no more than the least mark, and fifty-one, for which the first of
two equal bounds counts. -/
theorem resolve_marks :
    sourceNumber? (.single (.float 50.0)) = some 50.0 ∧
      resolve (.interpolation none marks) (.single (.float 50.0)) =
        .ok (.single (.identifier "low")) ∧
      resolve (.interpolation none marks) (.single (.integer 51)) =
        .ok (.single (.identifier "pass")) := by
  have hfifty : Tightest 50.0 marks ⟨0.0, true, .identifier "low"⟩ :=
    ⟨by decide, marks.take 2, marks.drop 3, rfl, by decide, by decide⟩
  have hmore : Tightest 51.0 marks ⟨50.0, false, .identifier "pass"⟩ :=
    ⟨by decide, marks.take 1, marks.drop 2, rfl, by decide, by decide⟩
  have hnumber : sourceNumber? (.single (.integer 51)) = some 51.0 := by decide
  exact ⟨rfl, (resolve_interpolation none rfl marks).2.2.1 _ hfifty,
    (resolve_interpolation none hnumber marks).2.2.1 _ hmore⟩

end LookupTable

end Assessment
