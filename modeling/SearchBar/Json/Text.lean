import SearchBar.Json.Fault

/-!
# Reading JSON texts

Reading the characters between two quotes, from behind the first one to behind the second.  A text
that is wanted must be well formed in all its parts; one that is skipped may hold escapes that name
no character.  A reader gives what it read and the characters left, which are always fewer
(`readText_length`, `skipText_length`).
-/

namespace SearchBar.Json

/-- The value of a hexadecimal digit. -/
def hexValue? (c : Char) : Option Nat :=
  if '0' ≤ c ∧ c ≤ '9' then some (c.toNat - 48)
  else if 'a' ≤ c ∧ c ≤ 'f' then some (c.toNat - 87)
  else if 'A' ≤ c ∧ c ≤ 'F' then some (c.toNat - 55)
  else none

/-- The value of four hexadecimal digits. -/
def hexQuad? (a b c d : Char) : Option Nat :=
  match hexValue? a, hexValue? b, hexValue? c, hexValue? d with
  | some w, some x, some y, some z => some (((w * 16 + x) * 16 + y) * 16 + z)
  | _, _, _, _ => none

/-- The fault of four bytes that are no hexadecimal digits, or are not even there. -/
def quadFault (cs : List Char) : Fault :=
  if byteCount cs < 4 then ⟨.endInText, 0⟩ else ⟨.badEscape, byteCount cs - 4⟩

/-- Read four hexadecimal digits. -/
def readQuad : List Char → Except Fault (Nat × List Char)
  | a :: b :: c :: d :: rest =>
    match hexQuad? a b c d with
    | some n => .ok (n, rest)
    | none => .error (quadFault (a :: b :: c :: d :: rest))
  | cs => .error (quadFault cs)

/-- The character that a letter stands for behind a backslash. -/
def escapeLetter? (c : Char) : Option Char :=
  match c with
  | '"' => some '"'
  | '\\' => some '\\'
  | '/' => some '/'
  | 'b' => some '\x08'
  | 'f' => some '\x0c'
  | 'n' => some '\n'
  | 'r' => some '\r'
  | 't' => some '\t'
  | _ => none

/-- Whether a code unit is the first half of a surrogate pair. -/
def isHighSurrogate (n : Nat) : Bool := 0xD800 ≤ n && n ≤ 0xDBFF

/-- Whether a code unit is the second half of a surrogate pair. -/
def isLowSurrogate (n : Nat) : Bool := 0xDC00 ≤ n && n ≤ 0xDFFF

/-- Read the second half of a surrogate pair, which must be escaped like the first. -/
def readLowHalf (high : Nat) : List Char → Except Fault (Char × List Char)
  | [] => .error (.before .endInText [])
  | ['\\'] => .error (.before .endInText [])
  | '\\' :: 'u' :: rest =>
    match readQuad rest with
    | .error f => .error f
    | .ok (low, rest') =>
      if isLowSurrogate low then
        .ok (Char.ofNat ((high - 0xD800) * 1024 + (low - 0xDC00) + 0x10000), rest')
      else .error (.before .loneSurrogate rest')
  | '\\' :: c :: rest => .error (.past .halfEscape (c :: rest))
  | c :: rest => .error (.past .halfEscape (c :: rest))

/-- Read an escape from behind its backslash. -/
def readEscape : List Char → Except Fault (Char × List Char)
  | [] => .error (.before .endInText [])
  | 'u' :: rest =>
    match readQuad rest with
    | .error f => .error f
    | .ok (n, rest') =>
      if isLowSurrogate n then .error (.before .loneSurrogate rest')
      else if isHighSurrogate n then readLowHalf n rest'
      else .ok (Char.ofNat n, rest')
  | c :: rest =>
    match escapeLetter? c with
    | some e => .ok (e, rest)
    | none => .error (.past .badEscape (c :: rest))

theorem readQuad_length {cs rest : List Char} {n : Nat} (h : readQuad cs = .ok (n, rest)) :
    rest.length < cs.length := by
  unfold readQuad at h
  split at h
  · split at h
    · simp only [Except.ok.injEq, Prod.mk.injEq] at h
      rw [← h.2]
      simp only [List.length_cons]
      omega
    · exact absurd h (by simp)
  · exact absurd h (by simp)

theorem readLowHalf_length {cs rest : List Char} {high : Nat} {c : Char}
    (h : readLowHalf high cs = .ok (c, rest)) : rest.length < cs.length := by
  unfold readLowHalf at h
  split at h
  · exact absurd h (by simp)
  · exact absurd h (by simp)
  · split at h
    · exact absurd h (by simp)
    · rename_i hq
      have := readQuad_length hq
      split at h
      · simp only [Except.ok.injEq, Prod.mk.injEq] at h
        rw [← h.2]
        simp only [List.length_cons]
        omega
      · exact absurd h (by simp)
  · exact absurd h (by simp)
  · exact absurd h (by simp)

theorem readEscape_length {cs rest : List Char} {c : Char} (h : readEscape cs = .ok (c, rest)) :
    rest.length < cs.length := by
  unfold readEscape at h
  split at h
  · exact absurd h (by simp)
  · split at h
    · exact absurd h (by simp)
    · rename_i hq
      have := readQuad_length hq
      split at h
      · exact absurd h (by simp)
      · split at h
        · have := readLowHalf_length h
          simp only [List.length_cons]
          omega
        · simp only [Except.ok.injEq, Prod.mk.injEq] at h
          rw [← h.2]
          simp only [List.length_cons]
          omega
  · split at h
    · simp only [Except.ok.injEq, Prod.mk.injEq] at h
      rw [← h.2]
      simp
    · exact absurd h (by simp)

/-- Read a text from behind its first quote: its characters, and what is left behind its second
quote. -/
def readText : List Char → Except Fault (List Char × List Char)
  | [] => .error (.before .endInText [])
  | c :: cs =>
    if c == '"' then .ok ([], cs)
    else if c == '\\' then
      match h : readEscape cs with
      | .error f => .error f
      | .ok (e, rest) =>
        have := readEscape_length h
        match readText rest with
        | .error f => .error f
        | .ok (text, rest') => .ok (e :: text, rest')
    else if c.toNat < 0x20 then .error (.past .controlCharacter (c :: cs))
    else
      match readText cs with
      | .error f => .error f
      | .ok (text, rest) => .ok (c :: text, rest)
termination_by cs => cs.length

/-- The second quote ends a text. -/
theorem readText_quote (cs : List Char) : readText ('"' :: cs) = .ok ([], cs) := by
  rw [readText]
  rfl

/-- A backslash is read together with the escape behind it. -/
theorem readText_backslash {cs rest : List Char} {e : Char} (h : readEscape cs = .ok (e, rest)) :
    readText ('\\' :: cs) = (readText rest).map fun p => (e :: p.1, p.2) := by
  rw [readText, if_neg (by decide), if_pos (by decide)]
  split
  next f hf => simp [h] at hf
  next e' rest' he =>
    simp only [h, Except.ok.injEq, Prod.mk.injEq] at he
    obtain ⟨rfl, rfl⟩ := he
    cases readText rest <;> rfl

/-- A character that needs no escape stands for itself. -/
theorem readText_plain {c : Char} (cs : List Char) (hq : c ≠ '"') (hb : c ≠ '\\')
    (hc : ¬ c.toNat < 0x20) :
    readText (c :: cs) = (readText cs).map fun p => (c :: p.1, p.2) := by
  rw [readText, if_neg (by simpa using hq), if_neg (by simpa using hb), if_neg hc]
  cases readText cs <;> rfl

theorem readText_length {cs text rest : List Char} (h : readText cs = .ok (text, rest)) :
    rest.length < cs.length := by
  fun_induction readText cs generalizing text rest with
  | case1 => simp at h
  | case2 c cs =>
    simp only [Except.ok.injEq, Prod.mk.injEq] at h
    simp [← h.2]
  | case3 => simp at h
  | case4 => simp at h
  | case5 c cs _ _ e rest₁ _ hlt text₁ rest₂ hr ih =>
    simp only [Except.ok.injEq, Prod.mk.injEq] at h
    have := ih hr
    rw [← h.2]
    simp only [List.length_cons]
    omega
  | case6 => simp at h
  | case7 => simp at h
  | case8 c cs _ _ _ text₁ rest₁ hr ih =>
    simp only [Except.ok.injEq, Prod.mk.injEq] at h
    have := ih hr
    rw [← h.2]
    simp only [List.length_cons]
    omega

/-! ## Texts that are skipped -/

/-- Skip an escape from behind its backslash. -/
def skipEscape : List Char → Except Fault (List Char)
  | [] => .error (.before .endInText [])
  | 'u' :: rest =>
    match readQuad rest with
    | .error f => .error f
    | .ok (_, rest') => .ok rest'
  | c :: rest =>
    match escapeLetter? c with
    | some _ => .ok rest
    | none => .error (.past .badEscape (c :: rest))

theorem skipEscape_length {cs rest : List Char} (h : skipEscape cs = .ok rest) :
    rest.length < cs.length := by
  unfold skipEscape at h
  split at h
  · exact absurd h (by simp)
  · split at h
    · exact absurd h (by simp)
    · rename_i hq
      have := readQuad_length hq
      simp only [Except.ok.injEq] at h
      rw [← h]
      simp only [List.length_cons]
      omega
  · split at h
    · simp only [Except.ok.injEq] at h
      simp [← h]
    · exact absurd h (by simp)

/-- Skip a text from behind its first quote to behind its second. -/
def skipText : List Char → Except Fault (List Char)
  | [] => .error (.before .endInText [])
  | c :: cs =>
    if c == '"' then .ok cs
    else if c == '\\' then
      match h : skipEscape cs with
      | .error f => .error f
      | .ok rest =>
        have := skipEscape_length h
        skipText rest
    else if c.toNat < 0x20 then .error (.before .controlCharacter (c :: cs))
    else skipText cs
termination_by cs => cs.length

theorem skipText_length {cs rest : List Char} (h : skipText cs = .ok rest) :
    rest.length < cs.length := by
  fun_induction skipText cs with
  | case1 => simp at h
  | case2 c cs =>
    simp only [Except.ok.injEq] at h
    simp [← h]
  | case3 => simp at h
  | case4 c cs _ _ rest₁ _ hlt ih =>
    have := ih h
    simp only [List.length_cons]
    omega
  | case5 => simp at h
  | case6 c cs _ _ _ ih =>
    have := ih h
    simp only [List.length_cons]
    omega

end SearchBar.Json
