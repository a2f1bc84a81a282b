import Assessment.Proofs.Numeric.Finite
import Assessment.Proofs.Numeric.Order
import Assessment.Shape

/-!
# Points in polygons

The walk over the vertices of an outline looks at each edge once. Whether it finds the point on an
edge, and whether it crosses an odd number of them, does not depend on their order, so the answer is
one of the closed outline: it does not matter which vertex comes first, nor whether that one stands
at the end again. The edge from a vertex to itself holds that vertex alone, and is never crossed.

The code is `in_polygon` and `on_segment`, in doubles, with all their roundings and overflows: the
law is about the walk, and holds whatever the arithmetic gives.

* `inPolygon_eq_holds`: the walk as a question to the edges.
* `edges_rotate_perm`, `edges_closed_perm`: the edges from another first vertex, and with the first
  one repeated.
* `onSegment_vertex`: an edge holds the vertex it leads to, also where the arithmetic overflows.
* `inPolygon_outline`: the polygon test depends on the closed outline only, and holds of vertices.
-/

namespace Assessment.Shape

open Numeric
open Float.Model (UnpackedFloat)
open Float.Model.UnpackedFloat

/-! ## Edges -/

variable {vertices : List Point} {a b p v : Point}

/-- The edges to each of some vertices from the one before it, which is `previous` for the first. -/
def edgesFrom (previous : Point) : List Point → List (Point × Point)
  | [] => []
  | v :: rest => (v, previous) :: edgesFrom v rest

/-- The edges of a closed outline. -/
def edges (vertices : List Point) : List (Point × Point) :=
  match vertices.getLast? with
  | none => []
  | some last => edgesFrom last vertices

/-- Whether a point lies on an edge, or its ray crosses an odd number of them. -/
def holds (p : Point) (es : List (Point × Point)) : Bool :=
  es.any (fun e => onSegment e.1 e.2 p) || es.countP (fun e => crosses e.1 e.2 p) % 2 == 1

/-- After the edges so far the side of the point is `inside`; the rest turns it over as often as it
is crossed, unless an edge holds the point. -/
theorem walkOutline_eq (p : Point) : ∀ (vertices : List Point) (previous : Point) (inside : Bool),
    walkOutline p previous inside vertices =
      ((edgesFrom previous vertices).any (fun e => onSegment e.1 e.2 p) ||
        (inside ^^ (edgesFrom previous vertices).countP (fun e => crosses e.1 e.2 p) % 2 == 1))
  | [], _, inside => by simp [walkOutline, edgesFrom]
  | v :: rest, previous, inside => by
    rw [walkOutline, edgesFrom, List.any_cons, List.countP_cons]
    by_cases hon : onSegment v previous p
    · simp [hon]
    · rw [if_neg hon, walkOutline_eq p rest]
      simp only [Bool.not_eq_true] at hon
      rw [hon, Bool.false_or]
      congr 1
      by_cases hcross : crosses v previous p
      · simp only [hcross, if_true]
        rcases Nat.mod_two_eq_zero_or_one
          ((edgesFrom v rest).countP fun e => crosses e.1 e.2 p) with h | h
        · have h' : (((edgesFrom v rest).countP fun e => crosses e.1 e.2 p) + 1) % 2 = 1 := by omega
          rw [h, h']
          cases inside <;> rfl
        · have h' : (((edgesFrom v rest).countP fun e => crosses e.1 e.2 p) + 1) % 2 = 0 := by omega
          rw [h, h']
          cases inside <;> rfl
      · simp [hcross]

/-- The polygon test asks about the edges of the closed outline. -/
theorem inPolygon_eq_holds (vertices : List Point) (p : Point) :
    inPolygon vertices p = holds p (edges vertices) := by
  rw [inPolygon, edges]
  cases vertices.getLast? with
  | none => rfl
  | some last =>
    dsimp only
    rw [walkOutline_eq, holds, Bool.false_xor]

/-- The order of the edges does not matter. -/
theorem holds_perm {es fs : List (Point × Point)} (h : es.Perm fs) : holds p es = holds p fs := by
  rw [holds, holds, h.any_eq, h.countP_eq]

theorem edgesFrom_append (previous v : Point) (l m : List Point) :
    edgesFrom previous (l ++ v :: m) = edgesFrom previous l ++
      (v, (previous :: l).getLast (List.cons_ne_nil _ _)) :: edgesFrom v m := by
  induction l generalizing previous with
  | nil => rfl
  | cons w l ih =>
    rw [List.cons_append, edgesFrom, ih, edgesFrom, List.cons_append,
      List.getLast_cons (List.cons_ne_nil _ _)]

theorem edges_cons (v : Point) (rest : List Point) :
    edges (v :: rest) =
      (v, (v :: rest).getLast (List.cons_ne_nil _ _)) :: edgesFrom v rest := by
  rw [edges, List.getLast?_eq_getLast_of_ne_nil (List.cons_ne_nil _ _)]
  rfl

theorem edges_concat (v : Point) (rest : List Point) :
    edges (rest ++ [v]) =
      edgesFrom v rest ++ [(v, (v :: rest).getLast (List.cons_ne_nil _ _))] := by
  rw [edges, List.getLast?_concat]
  exact edgesFrom_append v v rest []

/-- The edges are the same ones, whichever vertex comes first. -/
theorem edges_rotate_perm (vertices : List Point) (k : Nat) :
    (edges (vertices.rotate k)).Perm (edges vertices) := by
  induction k generalizing vertices with
  | zero => rw [List.rotate_zero]
  | succ k ih =>
    cases vertices with
    | nil => rw [List.rotate_nil]
    | cons v rest =>
      rw [List.rotate_cons_succ]
      refine (ih _).trans ?_
      rw [edges_cons, edges_concat]
      exact List.perm_append_singleton _ _

/-- The first vertex at the end again adds the edge from it to itself. -/
theorem edges_closed_perm (v : Point) (rest : List Point) :
    (edges (v :: rest ++ [v])).Perm ((v, v) :: edges (v :: rest)) := by
  rw [edges_concat, edgesFrom, edges_cons, List.getLast_cons (List.cons_ne_nil _ _),
    List.cons_append]
  exact (List.perm_append_singleton _ _).cons _

/-- An edge leads to every vertex. -/
theorem exists_edge (hv : v ∈ vertices) : ∃ previous, (v, previous) ∈ edges vertices := by
  obtain ⟨before, after, rfl⟩ := List.append_of_mem hv
  rw [edges]
  cases h : (before ++ v :: after).getLast? with
  | none => simp at h
  | some last =>
    refine ⟨(last :: before).getLast (List.cons_ne_nil _ _), ?_⟩
    dsimp only
    rw [edgesFrom_append]
    exact List.mem_append_right _ List.mem_cons_self

/-! ## Zero and no number -/

/-- An unpacked double that is zero or no number. -/
def Weightless : UnpackedFloat → Prop
  | .zero _ | .notANumber => True
  | _ => False

theorem weightless_unpack_pack {u : UnpackedFloat} (h : Weightless u) :
    Weightless (Float.Model.pack u).unpack := by
  cases u with
  | zero s => cases s <;> exact trivial
  | notANumber => exact trivial
  | infinity => exact h.elim
  | finite => exact h.elim

theorem normalize_zero (e : ℤ) (s : Sign) : UnpackedFloat.normalize .binary64 0 e s = .zero s := rfl

/-- Unpacked doubles of one rank have no distance that counts. -/
theorem weightless_unpacked_sub {u w : UnpackedFloat} (h : unpackedRank u = unpackedRank w) :
    Weightless (UnpackedFloat.sub .binary64 u w) := by
  cases u with
  | notANumber => exact trivial
  | zero s =>
    cases w with
    | notANumber => exact trivial
    | zero t => cases s <;> cases t <;> exact trivial
    | infinity t => cases t <;> simp [unpackedRank] at h
    | finite t n f hn => cases t <;> simp [unpackedRank] at h
  | infinity s =>
    cases w with
    | notANumber => exact trivial
    | zero t => cases s <;> simp [unpackedRank] at h
    | infinity t => cases s <;> cases t <;> first | exact trivial | simp [unpackedRank] at h
    | finite t n f hn => cases s <;> cases t <;> simp [unpackedRank] at h
  | finite s m e hm =>
    cases w with
    | notANumber => exact trivial
    | zero t => cases s <;> simp [unpackedRank] at h
    | infinity t => cases s <;> cases t <;> simp [unpackedRank] at h
    | finite t n f hn =>
      obtain ⟨rfl, rfl, rfl⟩ : s = t ∧ m = n ∧ e = f := by
        cases s <;> cases t <;> simp [unpackedRank] at h <;> exact ⟨rfl, h.2, h.1⟩
      rw [UnpackedFloat.sub]
      dsimp only
      rw [sub_self, normalize_zero]
      exact trivial

theorem weightless_sub {x y : Float} (h : rank x = rank y) :
    Weightless (x - y).toModel.unpack :=
  weightless_unpack_pack (weightless_unpacked_sub h)

theorem weightless_mul (x : Float) {y : Float} (h : Weightless y.toModel.unpack) :
    Weightless (x * y).toModel.unpack := by
  refine weightless_unpack_pack (u := UnpackedFloat.mul .binary64 x.toModel.unpack y.toModel.unpack)
    ?_
  revert h
  cases y.toModel.unpack <;> cases x.toModel.unpack <;> intro h <;>
    first | exact trivial | exact h.elim

theorem weightless_sub_of_weightless {x y : Float} (hx : Weightless x.toModel.unpack)
    (hy : Weightless y.toModel.unpack) : Weightless (x - y).toModel.unpack := by
  refine weightless_sub ?_
  rw [rank, rank]
  revert hx hy
  cases x.toModel.unpack <;> cases y.toModel.unpack <;> intro hx hy <;>
    first | rfl | exact hx.elim | exact hy.elim

theorem weightless_abs {x : Float} (h : Weightless x.toModel.unpack) :
    Weightless x.abs.toModel.unpack := by
  refine weightless_unpack_pack (u := UnpackedFloat.abs x.toModel.unpack) ?_
  revert h
  cases x.toModel.unpack <;> exact id

theorem not_lt_of_weightless {c x : Float} (hc : 0.0 < c) (h : Weightless x.toModel.unpack) :
    ¬c < x := by
  intro hlt
  have hzero : rank x = rank 0.0 := by
    rw [rank]
    revert h
    cases x.toModel.unpack <;> intro h <;> first | rfl | exact h.elim
  exact lt_asymm (float_lt_iff.1 hc).2.2 (hzero ▸ (float_lt_iff.1 hlt).2.2)

theorem onSegment_iff : onSegment a b p = true ↔
    ¬onLineBound < ((b.1 - a.1) * (p.2 - a.2) - (b.2 - a.2) * (p.1 - a.1)).abs ∧
      (lesser a.1 b.1 ≤ p.1 ∧ p.1 ≤ greater a.1 b.1) ∧
        lesser a.2 b.2 ≤ p.2 ∧ p.2 ≤ greater a.2 b.2 := by
  simp [onSegment, and_assoc]

/-! ## Vertices -/

/-- Whether two points have equal coordinates, zeros of either sign taken as one. -/
def Coincide (a p : Point) : Prop := (a.1 == p.1) = true ∧ (a.2 == p.2) = true

theorem coincide_self (h1 : v.1.isFinite = true) (h2 : v.2.isFinite = true) : Coincide v v :=
  ⟨float_beq_iff.2 ⟨float_isNaN_of_isFinite h1, float_isNaN_of_isFinite h1, rfl⟩,
    float_beq_iff.2 ⟨float_isNaN_of_isFinite h2, float_isNaN_of_isFinite h2, rfl⟩⟩

theorem lesser_le {x y z : Float} (h : (x == z) = true) : lesser x y ≤ z := by
  obtain ⟨hx, hz, hrank⟩ := float_beq_iff.1 h
  have hle : x ≤ z := float_le_iff.2 ⟨hx, hz, hrank.le⟩
  rw [lesser]
  split
  · exact float_le_trans (float_le_of_lt ‹_›) hle
  · exact hle

theorem le_greater {x y z : Float} (h : (x == z) = true) : z ≤ greater x y := by
  obtain ⟨hx, hz, hrank⟩ := float_beq_iff.1 h
  have hle : z ≤ x := float_le_iff.2 ⟨hz, hx, hrank.ge⟩
  rw [greater]
  split
  · exact float_le_trans hle (float_le_of_lt ‹_›)
  · exact hle

/-- An edge holds the vertex it leads to. Where the length of the edge is too great for a double,
the product that tells on which side the vertex lies is no number, and does not tell against it. -/
theorem onSegment_vertex (h : Coincide a p) : onSegment a b p = true := by
  have hx : Weightless (p.1 - a.1).toModel.unpack :=
    weightless_sub (float_beq_iff.1 h.1).2.2.symm
  have hy : Weightless (p.2 - a.2).toModel.unpack :=
    weightless_sub (float_beq_iff.1 h.2).2.2.symm
  have hside := weightless_abs
    (weightless_sub_of_weightless (weightless_mul (b.1 - a.1) hy) (weightless_mul (b.2 - a.2) hx))
  have hbound : 0.0 < onLineBound := by decide +kernel
  exact onSegment_iff.2 ⟨not_lt_of_weightless hbound hside, ⟨lesser_le h.1, le_greater h.1⟩,
    lesser_le h.2, le_greater h.2⟩

/-- The edge from a vertex to itself holds that vertex alone. -/
theorem coincide_of_onSegment_self (h : onSegment v v p = true) : Coincide v p := by
  obtain ⟨-, ⟨hx, hx'⟩, hy, hy'⟩ := onSegment_iff.1 h
  rw [lesser, ite_self] at hx hy
  rw [greater, ite_self] at hx' hy'
  have hequal {x z : Float} (hle : x ≤ z) (hge : z ≤ x) : (x == z) = true := by
    obtain ⟨hx, hz, hle⟩ := float_le_iff.1 hle
    exact float_beq_iff.2 ⟨hx, hz, le_antisymm hle (float_le_iff.1 hge).2.2⟩
  exact ⟨hequal hx hx', hequal hy hy'⟩

/-- The edge from a vertex to itself is not crossed. -/
theorem crosses_self (v p : Point) : crosses v v p = false := by
  rw [crosses, bne_self_eq_false, Bool.false_and]

theorem inPolygon_vertex (hv : v ∈ vertices) (h : Coincide v p) : inPolygon vertices p = true := by
  obtain ⟨previous, hmem⟩ := exists_edge hv
  rw [inPolygon_eq_holds, holds, Bool.or_eq_true]
  exact .inl (List.any_eq_true.2 ⟨_, hmem, onSegment_vertex h⟩)

/-! ## The closed outline -/

theorem inPolygon_rotate (vertices : List Point) (k : Nat) (p : Point) :
    inPolygon (vertices.rotate k) p = inPolygon vertices p := by
  rw [inPolygon_eq_holds, inPolygon_eq_holds, holds_perm (edges_rotate_perm vertices k)]

theorem inPolygon_closed (v : Point) (rest : List Point) (p : Point) :
    inPolygon (v :: rest ++ [v]) p = inPolygon (v :: rest) p := by
  rw [inPolygon_eq_holds, holds_perm (edges_closed_perm v rest)]
  by_cases hon : onSegment v v p = true
  · rw [inPolygon_vertex List.mem_cons_self (coincide_of_onSegment_self hon), holds,
      List.any_cons, hon, Bool.true_or, Bool.true_or]
  · rw [Bool.not_eq_true] at hon
    rw [holds, List.any_cons, hon, Bool.false_or, List.countP_cons, crosses_self]
    exact (inPolygon_eq_holds _ _).symm

/-- **The polygon test depends on the closed outline only.** Every list of vertices gives the answer
of the list that starts at another of them, and of the list with the first one repeated at the end,
for every point; and a vertex with finite coordinates is inside. -/
theorem inPolygon_outline (vertices : List Point) (p : Point) :
    (∀ k, inPolygon (vertices.rotate k) p = inPolygon vertices p) ∧
      (∀ v rest, vertices = v :: rest →
        inPolygon (vertices ++ [v]) p = inPolygon vertices p) ∧
      ∀ v ∈ vertices, v.1.isFinite = true → v.2.isFinite = true →
        inPolygon vertices v = true := by
  refine ⟨fun k => inPolygon_rotate vertices k p, ?_, fun v hv h1 h2 => ?_⟩
  · rintro v rest rfl
    exact inPolygon_closed v rest p
  · exact inPolygon_vertex hv (coincide_self h1 h2)

/-- A triangle whose sides are too long for a double: with its first vertex repeated it holds what
it held, and it holds the vertex at which the product is no number. -/
theorem inPolygon_outline_long :
    let corner : Point := (1.7e308, -1.7e308)
    let rest : List Point := [(0.0, -1.7e308), (-1.7e308, 1.7e308)]
    inPolygon (corner :: rest ++ [corner]) (1.0, 2.0) = inPolygon (corner :: rest) (1.0, 2.0) ∧
      (corner ∈ corner :: rest ∧ corner.1.isFinite = true ∧ corner.2.isFinite = true) ∧
      inPolygon (corner :: rest) corner = true := by
  intro corner rest
  have houtline := inPolygon_outline (corner :: rest) (1.0, 2.0)
  have hfirst : corner.1.isFinite = true := by decide +kernel
  have hsecond : corner.2.isFinite = true := by decide +kernel
  exact ⟨houtline.2.1 corner rest rfl, ⟨List.mem_cons_self, hfirst, hsecond⟩,
    houtline.2.2 corner List.mem_cons_self hfirst hsecond⟩

end Assessment.Shape
