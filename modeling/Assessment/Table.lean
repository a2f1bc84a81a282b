/-!
# Tables: finite maps listed in key order

`Table α` maps strings to values of `α`. Its entries stand in strictly increasing order of their
keys, by code point, so a table is determined by its look-ups and is always listed the same way. The
processor keeps records and the documents it writes in ordered maps, and everything else by name in
maps whose order never shows; both are tables here.

* A table carries the proof that its keys increase, and every operation keeps it; nothing can be
  built that holds a key twice.
* `find?` is the look-up in a list of entries, which need not be a table: the fields of a JSON
  object are looked up with it too.

Headlines:
* `get?_insert`, `get?_modify`, `get?_map`: what each operation does to the look-ups.
* `ext_get?`: two tables with the same look-ups are equal.
* `map_modify`, `map_modify_of_eq`: what a view of the values shows of a change.
-/

namespace Assessment

/-- A finite map from strings, its entries in strictly increasing order of their keys. -/
structure Table (α : Type) where
  entries : List (String × α)
  ordered : entries.Pairwise fun a b => a.1 < b.1
deriving DecidableEq

namespace Table

variable {α β : Type}

/-- The table without entries. -/
def empty : Table α := ⟨[], .nil⟩

instance : Inhabited (Table α) := ⟨empty⟩

/-- The first value listed under `key`. -/
def find? (key : String) : List (String × α) → Option α
  | [] => none
  | (k, v) :: rest => if key = k then some v else find? key rest

/-- The value stored under `key`. -/
def get? (t : Table α) (key : String) : Option α :=
  find? key t.entries

/-- Whether `key` has an entry. -/
def contains (t : Table α) (key : String) : Bool :=
  (t.get? key).isSome

/-- Whether the table has no entry. -/
def isEmpty (t : Table α) : Bool := t.entries.isEmpty

/-- The keys, in order. -/
def keys (t : Table α) : List String := t.entries.map (·.1)

/-- The values, in the order of their keys. -/
def values (t : Table α) : List α := t.entries.map (·.2)

/-! ## Insertion -/

/-- Puts an entry at its place in an ordered list, over an entry of the same key. -/
def insertEntry (key : String) (value : α) : List (String × α) → List (String × α)
  | [] => [(key, value)]
  | (k, v) :: rest =>
    if key < k then (key, value) :: (k, v) :: rest
    else if k < key then (k, v) :: insertEntry key value rest
    else (key, value) :: rest

theorem mem_insertEntry {key : String} {value : α} {x : String × α} :
    ∀ {l : List (String × α)}, x ∈ insertEntry key value l → x = (key, value) ∨ x ∈ l
  | [], h => by simp [insertEntry] at h; simp [h]
  | (k, v) :: rest, h => by
    unfold insertEntry at h
    split at h
    · rcases List.mem_cons.1 h with rfl | h
      · exact .inl rfl
      · exact .inr h
    · split at h
      · rcases List.mem_cons.1 h with rfl | h
        · exact .inr (List.mem_cons_self ..)
        · exact (mem_insertEntry h).imp_right (List.mem_cons_of_mem _)
      · rcases List.mem_cons.1 h with rfl | h
        · exact .inl rfl
        · exact .inr (List.mem_cons_of_mem _ h)

theorem ordered_insertEntry (key : String) (value : α) :
    ∀ {l : List (String × α)}, (l.Pairwise fun a b => a.1 < b.1) →
      (insertEntry key value l).Pairwise fun a b => a.1 < b.1
  | [], _ => by simp [insertEntry]
  | (k, v) :: rest, h => by
    have hk := (List.pairwise_cons.1 h).1
    have hr := (List.pairwise_cons.1 h).2
    unfold insertEntry
    split
    · rename_i hlt
      refine List.pairwise_cons.2 ⟨fun x hx => ?_, h⟩
      rcases List.mem_cons.1 hx with rfl | hx
      · exact hlt
      · exact String.lt_trans hlt (hk x hx)
    · split
      · rename_i hlt
        refine List.pairwise_cons.2 ⟨fun x hx => ?_, ordered_insertEntry key value hr⟩
        rcases mem_insertEntry hx with rfl | hx
        · exact hlt
        · exact hk x hx
      · rename_i h1 h2
        have e : key = k := String.le_antisymm (String.not_lt.1 h2) (String.not_lt.1 h1)
        exact List.pairwise_cons.2 ⟨fun x hx => e ▸ hk x hx, hr⟩

/-- The table with `value` under `key`, whatever was there before. -/
def insert (t : Table α) (key : String) (value : α) : Table α :=
  ⟨insertEntry key value t.entries, ordered_insertEntry key value t.ordered⟩

/-- The table of a list of entries; of two entries with one key the later counts. -/
def ofList (l : List (String × α)) : Table α :=
  l.foldl (fun t e => t.insert e.1 e.2) empty

/-! ## Changing values in place -/

/-- Applies `f` to every entry's value. -/
def map (f : String → α → β) (t : Table α) : Table β where
  entries := t.entries.map fun e => (e.1, f e.1 e.2)
  ordered := List.pairwise_map.2 t.ordered

/-- Applies `f` to the value under `key`; without an entry nothing changes. -/
def modify (t : Table α) (key : String) (f : α → α) : Table α :=
  t.map fun k v => if k = key then f v else v

/-! ## Look-ups -/

@[simp] theorem get?_empty (key : String) : (empty : Table α).get? key = none := rfl

theorem find?_insertEntry (key : String) (value : α) (k : String) :
    ∀ l : List (String × α),
      find? k (insertEntry key value l) = if k = key then some value else find? k l
  | [] => rfl
  | (k', v') :: rest => by
    unfold insertEntry
    split
    · rfl
    · split
      · rename_i hlt
        have hne : k' ≠ key := fun e => String.lt_irrefl _ (e ▸ hlt)
        rw [find?, find?, find?_insertEntry key value k rest]
        by_cases h : k = key
        · simp [h, Ne.symm hne]
        · simp [h]
      · rename_i h1 h2
        have e : key = k' := String.le_antisymm (String.not_lt.1 h2) (String.not_lt.1 h1)
        subst e
        by_cases h : k = key <;> simp [find?, h]

/-- A look-up after an insertion finds the new value under its key and the old ones elsewhere. -/
theorem get?_insert (t : Table α) (key : String) (value : α) (k : String) :
    (t.insert key value).get? k = if k = key then some value else t.get? k :=
  find?_insertEntry key value k t.entries

theorem mem_of_find?_eq_some {k : String} {v : α} :
    ∀ {l : List (String × α)}, find? k l = some v → (k, v) ∈ l
  | [], h => by cases h
  | (k', v') :: rest, h => by
    rw [find?] at h
    split at h
    · rename_i e
      cases h
      rw [e]
      exact List.mem_cons_self
    · exact List.mem_cons_of_mem _ (mem_of_find?_eq_some h)

theorem find?_map (f : String → α → β) (k : String) :
    ∀ l : List (String × α),
      find? k (l.map fun e => (e.1, f e.1 e.2)) = (find? k l).map (f k)
  | [] => rfl
  | (k', v) :: rest => by
    by_cases h : k = k'
    · simp [find?, h]
    · simpa [find?, h] using find?_map f k rest

@[simp] theorem get?_map (f : String → α → β) (t : Table α) (k : String) :
    (t.map f).get? k = (t.get? k).map (f k) :=
  find?_map f k t.entries

/-- A change under `key` is seen under `key` alone. -/
theorem get?_modify (t : Table α) (key : String) (f : α → α) (k : String) :
    (t.modify key f).get? k = if k = key then (t.get? k).map f else t.get? k := by
  rw [modify, get?_map]
  by_cases h : k = key
  · simp [h]
  · simp [h]

/-- A change leaves the keys alone. -/
theorem contains_modify (t : Table α) (key : String) (f : α → α) (k : String) :
    (t.modify key f).contains k = t.contains k := by
  rw [contains, get?_modify, contains]
  split <;> simp

/-! ## A table is its look-ups -/

theorem find?_eq_none_of_lt {k : String} :
    ∀ {l : List (String × α)}, (∀ x ∈ l, k < x.1) → find? k l = none
  | [], _ => rfl
  | (k', v) :: rest, h => by
    have hk : k < k' := h _ (List.mem_cons_self ..)
    have hne : k ≠ k' := fun e => String.lt_irrefl _ (e ▸ hk)
    simpa [find?, hne] using
      find?_eq_none_of_lt fun x hx => h x (List.mem_cons_of_mem _ hx)

theorem find?_eq_some_of_mem {k : String} {v : α} :
    ∀ {l : List (String × α)}, (l.Pairwise fun a b => a.1 < b.1) → (k, v) ∈ l → find? k l = some v
  | (k', v') :: rest, h, hmem => by
    obtain ⟨hk, hr⟩ := List.pairwise_cons.1 h
    rcases List.mem_cons.1 hmem with e | hmem
    · cases e
      simp [find?]
    · have hne : k ≠ k' := fun e => String.lt_irrefl _ (e ▸ hk _ hmem)
      simpa [find?, hne] using find?_eq_some_of_mem hr hmem

theorem get?_eq_some_of_mem {t : Table α} {k : String} {v : α} (h : (k, v) ∈ t.entries) :
    t.get? k = some v :=
  find?_eq_some_of_mem t.ordered h

theorem entries_eq_of_find? :
    ∀ {l m : List (String × α)}, (l.Pairwise fun a b => a.1 < b.1) →
      (m.Pairwise fun a b => a.1 < b.1) → (∀ k, find? k l = find? k m) → l = m
  | [], [], _, _, _ => rfl
  | [], (k, v) :: _, _, _, h => by simpa [find?] using h k
  | (k, v) :: _, [], _, _, h => by simpa [find?] using h k
  | (k, v) :: l, (k', v') :: m, hl, hm, h => by
    have hl' := List.pairwise_cons.1 hl
    have hm' := List.pairwise_cons.1 hm
    have nlt : ¬ k < k' := fun hlt => by
      have hne : k ≠ k' := fun e => String.lt_irrefl _ (e ▸ hlt)
      have := h k
      rw [find?, find?, if_pos rfl, if_neg hne,
        find?_eq_none_of_lt fun x hx => String.lt_trans hlt (hm'.1 x hx)] at this
      cases this
    have ngt : ¬ k' < k := fun hlt => by
      have hne : k' ≠ k := fun e => String.lt_irrefl _ (e ▸ hlt)
      have := h k'
      rw [find?, find?, if_pos rfl, if_neg hne,
        find?_eq_none_of_lt fun x hx => String.lt_trans hlt (hl'.1 x hx)] at this
      cases this
    have e : k = k' := String.le_antisymm (String.not_lt.1 ngt) (String.not_lt.1 nlt)
    subst e
    have hv : v = v' := by simpa [find?] using h k
    subst hv
    rw [entries_eq_of_find? hl'.2 hm'.2 fun x => ?_]
    by_cases hx : x = k
    · rw [hx, find?_eq_none_of_lt hl'.1, find?_eq_none_of_lt hm'.1]
    · simpa [find?, hx] using h x

/-- Two tables with the same look-ups are equal. -/
theorem ext_get? {s t : Table α} (h : ∀ k, s.get? k = t.get? k) : s = t := by
  obtain ⟨l, hl⟩ := s
  obtain ⟨m, hm⟩ := t
  have : l = m := entries_eq_of_find? hl hm h
  subst this
  rfl

/-! ## Tables of lists -/

theorem get?_foldl_insert (k : String) :
    ∀ {l : List (String × α)} {t : Table α}, (l.Pairwise fun a b => a.1 < b.1) →
      (l.foldl (fun t e => t.insert e.1 e.2) t).get? k = (find? k l).or (t.get? k)
  | [], _, _ => rfl
  | (k', v) :: rest, t, h => by
    obtain ⟨hk, hr⟩ := List.pairwise_cons.1 h
    rw [List.foldl_cons, get?_foldl_insert k hr, get?_insert, find?]
    by_cases e : k = k'
    · rw [e, find?_eq_none_of_lt hk]
      simp
    · simp [e]

/-- The entries of a table make up the table again. -/
theorem ofList_entries (t : Table α) : ofList t.entries = t := by
  refine ext_get? fun k => ?_
  rw [ofList, get?_foldl_insert k t.ordered, get?_empty, Option.or_none, get?]

/-! ## Views of a table -/

/-- A view that a change respects sees it as a change of its own. -/
theorem map_modify (g : α → β) {f : α → α} {e : β → β} (h : ∀ v, g (f v) = e (g v))
    (t : Table α) (key : String) :
    (t.modify key f).map (fun _ => g) = (t.map fun _ => g).modify key e := by
  refine ext_get? fun k => ?_
  rw [get?_map, get?_modify, get?_modify, get?_map]
  by_cases hk : k = key
  · cases t.get? k <;> simp [hk, h]
  · simp [hk]

/-- A change is not seen by a view that it leaves alone. -/
theorem map_modify_of_eq (g : α → β) {f : α → α} (h : ∀ v, g (f v) = g v)
    (t : Table α) (key : String) : (t.modify key f).map (fun _ => g) = t.map fun _ => g := by
  refine ext_get? fun k => ?_
  rw [get?_map, get?_modify, get?_map]
  by_cases hk : k = key
  · cases t.get? k <;> simp [hk, h]
  · simp [hk]

end Table

end Assessment
