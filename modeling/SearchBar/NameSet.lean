/-!
# Sets of names

A set of field names is kept as the list of its members in increasing order of code points.  The
order is part of the type, so two sets with the same members are equal (`ext`), and the order in
which names were supplied leaves no trace.
-/

namespace SearchBar

/-- A finite set of names, listed in strictly increasing order of code points. -/
structure NameSet where
  /-- The members in increasing order. -/
  toList : List String
  /-- Each member is less than all that follow it. -/
  increasing : toList.Pairwise (· < ·)
deriving DecidableEq

namespace NameSet

/-- Place a name in an increasing list, unless it is there already. -/
def place (n : String) : List String → List String
  | [] => [n]
  | m :: ms => if n < m then n :: m :: ms else if n = m then m :: ms else m :: place n ms

theorem mem_place {n x : String} {ms : List String} : x ∈ place n ms ↔ x = n ∨ x ∈ ms := by
  induction ms with
  | nil => simp [place]
  | cons m ms ih =>
    rw [place]
    split
    · simp
    · split
      · rename_i h
        subst h
        simp
      · simp only [List.mem_cons, ih]
        exact or_left_comm

theorem pairwise_place {n : String} {ms : List String} (h : ms.Pairwise (· < ·)) :
    (place n ms).Pairwise (· < ·) := by
  induction ms with
  | nil => simp [place]
  | cons m ms ih =>
    have hm := List.pairwise_cons.1 h
    rw [place]
    split
    · rename_i hlt
      refine List.pairwise_cons.2 ⟨fun x hx => ?_, h⟩
      rcases List.mem_cons.1 hx with rfl | hx
      · exact hlt
      · exact String.lt_trans hlt (hm.1 x hx)
    · split
      · exact h
      · rename_i hlt hne
        refine List.pairwise_cons.2 ⟨fun x hx => ?_, ih hm.2⟩
        rcases mem_place.1 hx with rfl | hx
        · exact Decidable.byContradiction fun hn =>
            hne (String.le_antisymm (String.not_lt.1 hn) (String.not_lt.1 hlt))
        · exact hm.1 x hx

/-- The set without members. -/
def empty : NameSet := ⟨[], List.Pairwise.nil⟩

instance : EmptyCollection NameSet := ⟨empty⟩

instance : Inhabited NameSet := ⟨empty⟩

instance : Membership String NameSet := ⟨fun s n => n ∈ s.toList⟩

instance (n : String) (s : NameSet) : Decidable (n ∈ s) :=
  inferInstanceAs (Decidable (n ∈ s.toList))

/-- The set with one more name. -/
def insert (s : NameSet) (n : String) : NameSet :=
  ⟨place n s.toList, pairwise_place s.increasing⟩

/-- The set with every name of a list added. -/
def insertAll (s : NameSet) (names : List String) : NameSet := names.foldl insert s

/-- The set of the names of a list. -/
def ofList (names : List String) : NameSet := empty.insertAll names

/-- The names that are in either set. -/
def union (s t : NameSet) : NameSet := s.insertAll t.toList

/-! ## Membership -/

theorem not_mem_empty (n : String) : n ∉ empty := List.not_mem_nil

theorem mem_insert {n x : String} {s : NameSet} : x ∈ s.insert n ↔ x = n ∨ x ∈ s := mem_place

theorem mem_insertAll {x : String} {names : List String} {s : NameSet} :
    x ∈ s.insertAll names ↔ x ∈ s ∨ x ∈ names := by
  induction names generalizing s with
  | nil => simp [insertAll]
  | cons n ns ih =>
    rw [insertAll, List.foldl_cons, ← insertAll, ih, mem_insert, List.mem_cons]
    rw [or_comm (a := x = n), or_assoc]

theorem mem_ofList {x : String} {names : List String} : x ∈ ofList names ↔ x ∈ names := by
  simp [ofList, mem_insertAll, not_mem_empty]

/-- Sets with the same members are equal. -/
theorem ext {s t : NameSet} (h : ∀ n, n ∈ s ↔ n ∈ t) : s = t := by
  obtain ⟨xs, hx⟩ := s
  obtain ⟨ys, hy⟩ := t
  have hperm : xs.Perm ys :=
    (List.perm_ext_iff_of_nodup (hx.imp String.ne_of_lt) (hy.imp String.ne_of_lt)).2 h
  rw [NameSet.mk.injEq]
  exact hperm.eq_of_pairwise (fun _ _ _ _ hab hba => absurd hba (String.lt_asymm hab)) hx hy

end NameSet

end SearchBar
