import Mathlib.Data.List.Induction
import SearchBar.Parse

/-!
# What clauses add up to

A record is read through three views: its free text, the names of its fields, and the field of one
name.  For each of them there is one equation that says what a clause does (`text_add`, `names_add`,
`get?_add`) and one that says what a list of clauses does (`text_foldl_add`, `names_foldl_add`,
`get?_foldl_add`).  The field of a name is the business of the clauses with that name alone; where
these are keywords, it is what their values grow to (`foldl_renew_keyword`).
-/

namespace SearchBar

/-! ## Views of a field and of a clause -/

/-- The value of a keyword field. -/
def Field.keyword? : Field → Option Value
  | .keyword v => some v
  | .range _ => none

/-- The value of a range field. -/
def Field.range? : Field → Option RangeValue
  | .keyword _ => none
  | .range r => some r

namespace Clause

/-- The piece of free text that a clause adds, if it is free text. -/
def text? : Clause → Option String
  | .plain token | .reserved token | .unregistered token _ => some (Text.trim token)
  | .emptyKeyword _ | .keyword _ _ | .range _ _ => none

/-- The name to whose field a clause gives a value. -/
def name? : Clause → Option String
  | .keyword key _ | .range key _ => some key
  | .plain _ | .reserved _ | .unregistered _ _ | .emptyKeyword _ => none

/-- What a clause makes of the field of a name. -/
def renew (n : String) (f : Option Field) : Clause → Option Field
  | .keyword key value =>
    if key = n then some (.keyword (Value.grow (f.bind Field.keyword?) value)) else f
  | .range key value => if key = n then some (.range (.ofValue value)) else f
  | .plain _ | .reserved _ | .unregistered _ _ | .emptyKeyword _ => f

/-- The value that a clause gives to a keyword. -/
def valueFor? (n : String) : Clause → Option String
  | .keyword key value => if key = n then some value else none
  | .plain _ | .reserved _ | .unregistered _ _ | .emptyKeyword _ | .range _ _ => none

end Clause

namespace Query

/-! ## One clause -/

theorem keyword?_eq (q : Query) (n : String) : q.keyword? n = (q.get? n).bind Field.keyword? := by
  rw [keyword?]
  rcases q.get? n with _ | ⟨_ | _⟩ <;> rfl

theorem range?_eq (q : Query) (n : String) : q.range? n = (q.get? n).bind Field.range? := by
  rw [range?]
  rcases q.get? n with _ | ⟨_ | _⟩ <;> rfl

theorem text_add (q : Query) (c : Clause) : (q.add c).text = q.text ++ c.text?.toList := by
  cases c with
  | plain token => rfl
  | reserved token => rfl
  | unregistered token key => rfl
  | emptyKeyword key => exact (List.append_nil _).symm
  | keyword key value => exact (List.append_nil _).symm
  | range key value => exact (List.append_nil _).symm

theorem names_add (q : Query) (c : Clause) :
    (q.add c).names = q.names ++ c.name?.toList.filter (· ∉ q.names) := by
  have hset : ∀ (n : String) (f : Field),
      (q.set n f).names = q.names ++ [n].filter (· ∉ q.names) := by
    intro n f
    rw [names_set]
    by_cases hn : n ∈ q.names <;> simp [hn]
  cases c with
  | plain token => exact (List.append_nil _).symm
  | reserved token => exact (List.append_nil _).symm
  | unregistered token key => exact (List.append_nil _).symm
  | emptyKeyword key => exact (List.append_nil _).symm
  | keyword key value => exact hset key _
  | range key value => exact hset key _

theorem get?_add (q : Query) (c : Clause) (n : String) :
    (q.add c).get? n = c.renew n (q.get? n) := by
  cases c with
  | plain token => rfl
  | reserved token => rfl
  | unregistered token key => rfl
  | emptyKeyword key => rfl
  | keyword key value =>
    rw [add, get?_set, Clause.renew]
    by_cases hk : key = n
    · subst hk
      rw [if_pos rfl, if_pos rfl, keyword?_eq]
    · rw [if_neg hk, if_neg hk]
  | range key value => rw [add, get?_set, Clause.renew]

/-! ## All clauses -/

theorem text_foldl_add (cs : List Clause) (q : Query) :
    (cs.foldl add q).text = q.text ++ cs.filterMap Clause.text? := by
  induction cs generalizing q with
  | nil => simp
  | cons c cs ih =>
    rw [List.foldl_cons, ih, text_add, List.append_assoc]
    cases h : c.text? with
    | none => rw [List.filterMap_cons_none h]; rfl
    | some t => rw [List.filterMap_cons_some h]; rfl

/-- The names of the clauses come behind those that are there already, in the order in which the
clauses alone would have them. -/
theorem names_foldl_add (cs : List Clause) (q : Query) :
    (cs.foldl add q).names = q.names ++ (cs.foldl add empty).names.filter (· ∉ q.names) := by
  induction cs using List.reverseRecOn with
  | nil => exact (List.append_nil _).symm
  | append_singleton cs c ih =>
    rw [List.foldl_append, List.foldl_append, List.foldl_cons, List.foldl_cons, List.foldl_nil,
      List.foldl_nil, names_add, names_add, ih]
    cases c.name? with
    | none => simp
    | some n =>
      by_cases hq : n ∈ q.names
      · simp [hq]
      · by_cases he : n ∈ (cs.foldl add empty).names <;> simp [hq, he]

theorem get?_foldl_add (cs : List Clause) (q : Query) (n : String) :
    (cs.foldl add q).get? n = cs.foldl (Clause.renew n) (q.get? n) := by
  induction cs generalizing q with
  | nil => rfl
  | cons c cs ih => rw [List.foldl_cons, List.foldl_cons, ih, get?_add]

end Query

/-- What is read off the clauses of a line is read off its tokens. -/
theorem filterMap_clauses {α : Type} {o : Options} {f : Clause → Option α} {g : String → Option α}
    (h : ∀ t, f (Clause.ofToken o t) = g t) (line : String) :
    (clauses line o).filterMap f = (lineTokens line).filterMap g := by
  rw [clauses, List.filterMap_map]
  congr 1
  funext t
  exact h t

/-! ## The field of one name -/

namespace Clause

theorem renew_of_name?_ne {c : Clause} {n : String} (h : c.name? ≠ some n) (f : Option Field) :
    c.renew n f = f := by
  have hne : ∀ {key : String}, some key ≠ some n → key ≠ n := fun h hk => h (congrArg some hk)
  cases c with
  | keyword key value => rw [renew, if_neg (hne h)]
  | range key value => rw [renew, if_neg (hne h)]
  | _ => rfl

theorem isSome_renew_of_name?_eq {c : Clause} {n : String} (h : c.name? = some n)
    (f : Option Field) : (c.renew n f).isSome = true := by
  cases c with
  | keyword key value => rw [renew, if_pos (Option.some.inj h)]; rfl
  | range key value => rw [renew, if_pos (Option.some.inj h)]; rfl
  | _ => exact absurd h (by simp [name?])

/-- A field that is there is never taken away. -/
theorem isSome_foldl_renew {cs : List Clause} {n : String} {f : Option Field}
    (h : f.isSome = true) : (cs.foldl (renew n) f).isSome = true := by
  induction cs generalizing f with
  | nil => exact h
  | cons c cs ih =>
    refine ih ?_
    by_cases hn : c.name? = some n
    · exact isSome_renew_of_name?_eq hn f
    · rw [renew_of_name?_ne hn f]
      exact h

/-- Clauses that give a name no field by themselves leave it whatever field it has. -/
theorem foldl_renew_of_eq_none {cs : List Clause} {n : String}
    (h : cs.foldl (renew n) none = none) (f : Option Field) :
    cs.foldl (renew n) f = f := by
  induction cs with
  | nil => rfl
  | cons c cs ih =>
    rw [List.foldl_cons] at h ⊢
    by_cases hn : c.name? = some n
    · have hsome : (cs.foldl (renew n) (renew n none c)).isSome = true :=
        isSome_foldl_renew (isSome_renew_of_name?_eq hn none)
      rw [h] at hsome
      exact absurd hsome (by decide)
    · rw [renew_of_name?_ne hn] at h ⊢
      exact ih h

/-- Clauses that give a name a range by themselves give it that range whatever field it has. -/
theorem foldl_renew_of_eq_range {cs : List Clause} {n : String} {r : RangeValue}
    (h : cs.foldl (renew n) none = some (.range r)) (f : Option Field) :
    cs.foldl (renew n) f = some (.range r) := by
  induction cs using List.reverseRecOn with
  | nil => simp at h
  | append_singleton cs c ih =>
    rw [List.foldl_append, List.foldl_cons, List.foldl_nil] at h ⊢
    cases c with
    | keyword key value =>
      rw [renew] at h ⊢
      by_cases hk : key = n
      · rw [if_pos hk] at h
        simp at h
      · rw [if_neg hk] at h ⊢
        exact ih h
    | range key value =>
      rw [renew] at h ⊢
      by_cases hk : key = n
      · rw [if_pos hk] at h ⊢
        exact h
      · rw [if_neg hk] at h ⊢
        exact ih h
    | _ => exact ih h

end Clause

/-! ## Growing values -/

namespace Value

/-- A keyword value that has been given more values, one after the other. -/
def growAll (x : Option Value) (vs : List String) : Option Value :=
  vs.foldl (fun x v => some (grow x v)) x

theorem growAll_nil (x : Option Value) : growAll x [] = x := rfl

theorem growAll_cons (x : Option Value) (v : String) (vs : List String) :
    growAll x (v :: vs) = growAll (some (grow x v)) vs := rfl

/-- A list grows by all pieces of every value. -/
theorem growAll_list (ss vs : List String) :
    growAll (some (.list ss)) vs = some (.list (ss ++ vs.flatMap keywordPieces)) := by
  induction vs generalizing ss with
  | nil => simp [growAll_nil]
  | cons v vs ih => rw [growAll_cons, grow, ih, List.append_assoc, List.flatMap_cons]

/-- A single text takes the next value whole, and grows as a list from there. -/
theorem growAll_scalar (s v : String) (vs : List String) :
    growAll (some (.scalar s)) (v :: vs) =
      some (.list (s :: v :: vs.flatMap keywordPieces)) := by
  rw [growAll_cons, grow, growAll_list]
  rfl

end Value

/-- Where all clauses with a name are keywords, its field is what their values grow to. -/
theorem Clause.foldl_renew_keyword {cs : List Clause} {n : String}
    (h : ∀ c ∈ cs, ∀ value, c ≠ .range n value) (x : Option Value) :
    cs.foldl (renew n) (x.map .keyword) =
      (Value.growAll x (cs.filterMap (valueFor? n))).map .keyword := by
  induction cs generalizing x with
  | nil => rfl
  | cons c cs ih =>
    have htail := ih fun d hd => h d (List.mem_cons_of_mem c hd)
    rw [List.foldl_cons]
    cases c with
    | keyword key value =>
      rw [renew]
      by_cases hk : key = n
      · have hx : (x.map Field.keyword).bind Field.keyword? = x := by cases x <;> rfl
        rw [if_pos hk, hx, List.filterMap_cons_some (b := value) (by rw [valueFor?, if_pos hk]),
          Value.growAll_cons]
        exact htail (some (Value.grow x value))
      · rw [if_neg hk, List.filterMap_cons_none (by rw [valueFor?, if_neg hk])]
        exact htail x
    | range key value =>
      have hk : key ≠ n := by
        rintro rfl
        exact h _ List.mem_cons_self value rfl
      rw [renew, if_neg hk]
      exact htail x
    | _ => exact htail x

end SearchBar
