import Assessment.Value.Scalar

/-!
# Containers: scalars of one base type

A container lists scalars that all have its base type; the type carries the proof, where the
`Container` of the program has a constructor that checks it. `includes` counts elements: a list
includes another when it has each scalar at least as often. That is the equality of multisets
(`same_elements`) once for either side, and the operator contains of multisets; `hasRun` is the one
of sequences.

A scalar is taken out where it stands first (`erase`, `removeSame?`), by the equality of scalars.

Headlines:
* `ofList_eq_ok_iff`: a list becomes a container exactly when all its scalars have the base type.
-/

namespace Assessment

/-- Scalars of one base type, in a list. -/
structure Container where
  baseType : BaseType
  items : List Scalar
  homogeneous : ∀ s ∈ items, s.baseType = baseType
deriving DecidableEq

namespace Container

/-- The container without elements. -/
def empty (t : BaseType) : Container := ⟨t, [], by simp⟩

/-- The container of a list; refused at the first scalar of another base type (`Container::new`). -/
def ofList (t : BaseType) (items : List Scalar) : Except Fault Container :=
  match h : items.find? fun s => s.baseType != t with
  | some bad => .error (.mixedBaseTypes t bad.baseType)
  | none => .ok ⟨t, items, fun s hs => by simpa using List.find?_eq_none.1 h s hs⟩

/-- A list becomes a container exactly when all its scalars have the base type. -/
theorem ofList_eq_ok_iff {t : BaseType} {items : List Scalar} {c : Container} :
    ofList t items = .ok c ↔ c.baseType = t ∧ c.items = items := by
  unfold ofList
  split
  · rename_i bad h
    constructor
    · intro e; cases e
    · rintro ⟨ht, hi⟩
      subst ht; subst hi
      have hm := List.mem_of_find?_eq_some h
      have hb := List.find?_some h
      simp [c.homogeneous bad hm] at hb
  · constructor
    · intro e
      cases e
      exact ⟨rfl, rfl⟩
    · rintro ⟨ht, hi⟩
      subst ht; subst hi
      rfl

theorem exists_ofList {t : BaseType} {items : List Scalar} (h : ∀ s ∈ items, s.baseType = t) :
    ∃ c, ofList t items = .ok c ∧ c.items = items :=
  ⟨⟨t, items, h⟩, ofList_eq_ok_iff.2 ⟨rfl, rfl⟩, rfl⟩

/-- How many elements there are. -/
def size (c : Container) : Nat := c.items.length

/-- Whether there is no element. -/
def isEmpty (c : Container) : Bool := c.items.isEmpty

/-- Whether an element is the same as a scalar. -/
def contains (c : Container) (s : Scalar) : Bool := c.items.any fun item => item.same s

/-! ## Removing elements -/

/-- The list without its first element that is the same as `s`; `none` without such an element. -/
def removeSame? (s : Scalar) : List Scalar → Option (List Scalar)
  | [] => none
  | item :: rest => if item.same s then some rest else (removeSame? s rest).map (item :: ·)

theorem mem_of_removeSame? {s x : Scalar} :
    ∀ {l m : List Scalar}, removeSame? s l = some m → x ∈ m → x ∈ l
  | [], _, h, _ => by cases h
  | item :: rest, m, h, hx => by
    unfold removeSame? at h
    split at h
    · cases h
      exact List.mem_cons_of_mem _ hx
    · obtain ⟨r, hr, rfl⟩ := Option.map_eq_some_iff.1 h
      rcases List.mem_cons.1 hx with rfl | hx
      · exact List.mem_cons_self ..
      · exact List.mem_cons_of_mem _ (mem_of_removeSame? hr hx)

/-- The container without its first element that is the same as `s`. -/
def erase (c : Container) (s : Scalar) : Container :=
  match h : removeSame? s c.items with
  | none => c
  | some rest => ⟨c.baseType, rest, fun x hx => c.homogeneous x (mem_of_removeSame? h hx)⟩

/-! ## Comparing containers -/

/-- Whether `outer` has every scalar of `inner`, each at least as often. -/
def includes (outer : List Scalar) : List Scalar → Bool
  | [] => true
  | s :: rest =>
    match removeSame? s outer with
    | some remaining => includes remaining rest
    | none => false

/-- Whether two lists are the same, element by element. -/
def sameList : List Scalar → List Scalar → Bool
  | [], [] => true
  | a :: as, b :: bs => a.same b && sameList as bs
  | _, _ => false

/-- Whether two containers have the same elements, in any order (`same_elements`). -/
def sameElements (a b : Container) : Bool :=
  a.baseType == b.baseType && a.size == b.size && includes b.items a.items

/-- Whether two containers have the same elements in the same order. -/
def sameSequence (a b : Container) : Bool :=
  a.baseType == b.baseType && sameList a.items b.items

/-- Whether a list starts with a sequence. -/
def startsWith : List Scalar → List Scalar → Bool
  | _, [] => true
  | a :: as, b :: bs => a.same b && startsWith as bs
  | [], _ :: _ => false

/-- Whether a sequence occurs as a run of neighbouring elements. -/
def hasRun (inner : List Scalar) : List Scalar → Bool
  | [] => inner.isEmpty
  | a :: as => startsWith (a :: as) inner || hasRun inner as

end Container

end Assessment
