import SearchBar.Json.Fault

/-!
# Reading JSON numbers

A numeral is a sign, whole digits without a needless zero in front, fraction digits and an exponent.
Its value is a whole number if it has neither of the last two and fits in 64 bits, and otherwise
the binary number that comes from its leading digits and the power of ten they are scaled by.
-/

namespace SearchBar.Json

open Decimal (Binary64)

/-- Whether a character is a decimal digit. -/
def isDigit (c : Char) : Bool := '0' ≤ c && c ≤ '9'

/-- The value of a decimal digit. -/
def digitValue (c : Char) : Nat := c.toNat - 48

/-- The digits at the start of a text, and what follows them. -/
def spanDigits (cs : List Char) : List Char × List Char :=
  (cs.takeWhile isDigit, cs.dropWhile isDigit)

theorem length_dropWhile_le (p : Char → Bool) (cs : List Char) :
    (cs.dropWhile p).length ≤ cs.length :=
  (List.dropWhile_sublist p).length_le

/-! ## Significant digits -/

/-- The largest whole number of 64 bits. -/
def maxNatural : Nat := 0xFFFFFFFFFFFFFFFF

/-- Append digits to a number while it fits in 64 bits; the digits from the first one that does not
fit are left. -/
def absorb (n : Nat) : List Char → Nat × List Char
  | [] => (n, [])
  | d :: ds =>
    if n * 10 + digitValue d ≤ maxNatural then absorb (n * 10 + digitValue d) ds else (n, d :: ds)

/-- The largest power of ten that is a binary number of 64 bits when rounded. -/
def largestPower : Nat := 308

/-- Divide a number by the largest power of ten as often as said, and then by one more power. -/
def shiftDown (power : Nat) : Nat → Binary64 → Option Binary64
  | 0, x => (Binary64.powerOfTen? power).bind x.div?
  | times + 1, x =>
    if x.mantissa = 0 then some x
    else ((Binary64.powerOfTen? largestPower).bind x.div?).bind (shiftDown power times)

/-- The binary number `n * 10 ^ exponent`, computed from the rounded number and the rounded power;
there is none if it is too large. -/
def scale? (n : Nat) (exponent : Int) : Option Binary64 := do
  let x ← Binary64.ofNat? n
  if 0 ≤ exponent then
    if exponent.toNat ≤ largestPower then (Binary64.powerOfTen? exponent.toNat).bind x.mul?
    else if x.mantissa = 0 then some x
    else none
  else
    let places := (-exponent).toNat
    let times := (places - 1) / largestPower
    shiftDown (places - times * largestPower) times x

/-! ## Exponents -/

/-- The largest exponent that is counted: the largest whole number of 32 bits with a sign. -/
def maxExponent : Nat := 0x7FFFFFFF

/-- The value of exponent digits, or the digits left behind the one with which it grows too
large. -/
def exponentValue (n : Nat) : List Char → Except (List Char) Nat
  | [] => .ok n
  | d :: ds =>
    if n * 10 + digitValue d ≤ maxExponent then exponentValue (n * 10 + digitValue d) ds
    else .error ds

/-- The parts of a number from which a binary number is made. -/
structure Significand where
  negative : Bool
  /-- The leading digits, as many as fit in 64 bits. -/
  digits : Nat
  /-- The power of ten by which they are scaled. -/
  exponent : Int

/-- A binary number from its parts, read to the given rest. -/
def Significand.finish (s : Significand) (rest : List Char) : Except Fault (Number × List Char) :=
  match scale? s.digits s.exponent with
  | some x => .ok (.binary s.negative x, rest)
  | none => .error (.before .numberTooLarge rest)

/-- Read an exponent from behind its letter. -/
def readExponent (s : Significand) (cs : List Char) : Except Fault (Number × List Char) :=
  let (negative, cs) := match cs with
    | '+' :: r => (false, r)
    | '-' :: r => (true, r)
    | r => (false, r)
  match cs with
  | [] => .error (.before .endInValue [])
  | c :: r =>
    if !isDigit c then .error (.past .badNumber (c :: r))
    else
      let (ds, rest) := spanDigits (c :: r)
      match exponentValue 0 ds with
      | .ok n =>
        let shift : Int := if negative then -(n : Int) else n
        { s with exponent := s.exponent + shift }.finish rest
      | .error left =>
        if s.digits ≠ 0 && !negative then .error (.before .numberTooLarge (left ++ rest))
        else .ok (.binary s.negative Binary64.zero, rest)

/-- Read what may follow the fraction digits. -/
def readScale (s : Significand) (cs : List Char) : Except Fault (Number × List Char) :=
  match cs with
  | 'e' :: r => readExponent s r
  | 'E' :: r => readExponent s r
  | _ => s.finish cs

/-- Read a fraction from behind its point. -/
def readFraction (s : Significand) (cs : List Char) : Except Fault (Number × List Char) :=
  let (ds, rest) := spanDigits cs
  if ds.isEmpty then
    match rest with
    | [] => .error (.before .endInValue [])
    | _ => .error (.past .badNumber rest)
  else
    let (n, left) := absorb s.digits ds
    let taken : Int := (ds.length - left.length : Nat)
    readScale { s with digits := n, exponent := s.exponent - taken } rest

/-- The size of the least whole number of 64 bits with a sign. -/
def maxNegated : Nat := 0x8000000000000000

/-- A whole number with a sign, if it has the 64 bits it needs; minus zero has not. -/
def wholeNumber? (negative : Bool) (n : Nat) : Option Number :=
  if negative then
    if n = 0 ∨ maxNegated < n then none else some (.integer (-(n : Int)))
  else some (.integer n)

/-- Read what follows the whole digits. -/
def readTail (negative : Bool) (whole : List Char) (cs : List Char) :
    Except Fault (Number × List Char) :=
  let (n, left) := absorb 0 whole
  let s : Significand := ⟨negative, n, (left.length : Int)⟩
  match cs with
  | '.' :: r => readFraction s r
  | 'e' :: r => readExponent s r
  | 'E' :: r => readExponent s r
  | _ =>
    match left, wholeNumber? negative n with
    | [], some number => .ok (number, cs)
    | _, _ => s.finish cs

/-- Read a number from behind its sign. -/
def readMagnitude (negative : Bool) (cs : List Char) : Except Fault (Number × List Char) :=
  match cs with
  | [] => .error (.before .endInValue [])
  | c :: r =>
    if !isDigit c then .error (.past .badNumber cs)
    else if c == '0' then
      match r with
      | d :: _ => if isDigit d then .error (.past .badNumber r) else readTail negative ['0'] r
      | [] => readTail negative ['0'] r
    else
      let (ds, rest) := spanDigits cs
      readTail negative ds rest

/-- Read a number. -/
def readNumber (cs : List Char) : Except Fault (Number × List Char) :=
  match cs with
  | '-' :: r => readMagnitude true r
  | _ => readMagnitude false cs

/-! ## Numbers that are skipped -/

/-- Skip an exponent from behind its letter. -/
def skipExponent (cs : List Char) : Except Fault (List Char) :=
  let cs := match cs with
    | '+' :: r => r
    | '-' :: r => r
    | r => r
  match cs with
  | [] => .error (.before .badNumber [])
  | c :: r => if isDigit c then .ok (r.dropWhile isDigit) else .error (.past .badNumber (c :: r))

/-- Skip what may follow the fraction digits. -/
def skipScale (cs : List Char) : Except Fault (List Char) :=
  match cs with
  | 'e' :: r => skipExponent r
  | 'E' :: r => skipExponent r
  | _ => .ok cs

/-- Skip what may follow the whole digits. -/
def skipTail (cs : List Char) : Except Fault (List Char) :=
  match cs with
  | '.' :: r =>
    let rest := r.dropWhile isDigit
    if (r.takeWhile isDigit).isEmpty then .error (.past .badNumber rest) else skipScale rest
  | _ => skipScale cs

/-- Skip a number from behind its sign. -/
def skipMagnitude (cs : List Char) : Except Fault (List Char) :=
  match cs with
  | [] => .error (.before .badNumber [])
  | c :: r =>
    if !isDigit c then .error (.past .badNumber cs)
    else if c == '0' then
      match r with
      | d :: _ => if isDigit d then .error (.past .badNumber r) else skipTail r
      | [] => .ok []
    else skipTail (r.dropWhile isDigit)

/-- Skip a number. -/
def skipNumber (cs : List Char) : Except Fault (List Char) :=
  match cs with
  | '-' :: r => skipMagnitude r
  | _ => skipMagnitude cs

theorem skipExponent_length {cs rest : List Char} (h : skipExponent cs = .ok rest) :
    rest.length < cs.length := by
  unfold skipExponent at h
  have key : ∀ ds : List Char, (match ds with
      | [] => Except.error (Fault.before .badNumber [])
      | c :: r =>
        if isDigit c then .ok (r.dropWhile isDigit) else .error (.past .badNumber (c :: r)))
        = .ok rest → rest.length < ds.length := by
    intro ds hd
    split at hd
    · exact absurd hd (by simp)
    · split at hd
      · rename_i c r _
        have := length_dropWhile_le isDigit r
        simp only [Except.ok.injEq] at hd
        rw [← hd, List.length_cons]
        omega
      · exact absurd hd (by simp)
  simp only at h
  have := key _ h
  split at this
  · simp only [List.length_cons]
    omega
  · simp only [List.length_cons]
    omega
  · exact this

theorem skipScale_length {cs rest : List Char} (h : skipScale cs = .ok rest) :
    rest.length ≤ cs.length := by
  unfold skipScale at h
  split at h
  · have := skipExponent_length h
    simp only [List.length_cons]
    omega
  · have := skipExponent_length h
    simp only [List.length_cons]
    omega
  · exact Nat.le_of_eq (congrArg List.length (Except.ok.inj h).symm)

theorem skipTail_length {cs rest : List Char} (h : skipTail cs = .ok rest) :
    rest.length ≤ cs.length := by
  unfold skipTail at h
  split at h
  · rename_i r
    have hd := length_dropWhile_le isDigit r
    simp only at h
    split at h
    · exact absurd h (by simp)
    · have := skipScale_length h
      simp only [List.length_cons]
      omega
  · exact skipScale_length h

theorem skipMagnitude_length {cs rest : List Char} (h : skipMagnitude cs = .ok rest) :
    rest.length < cs.length := by
  unfold skipMagnitude at h
  split at h
  · exact absurd h (by simp)
  · rename_i c r
    split at h
    · exact absurd h (by simp)
    · split at h
      · split at h
        · split at h
          · exact absurd h (by simp)
          · have := skipTail_length h
            simp only [List.length_cons] at this ⊢
            omega
        · simp only [Except.ok.injEq] at h
          simp [← h]
      · have := skipTail_length h
        have := length_dropWhile_le isDigit r
        simp only [List.length_cons]
        omega

/-- Skipping a number leaves fewer characters. -/
theorem skipNumber_length {cs rest : List Char} (h : skipNumber cs = .ok rest) :
    rest.length < cs.length := by
  unfold skipNumber at h
  split at h
  · have := skipMagnitude_length h
    simp only [List.length_cons]
    omega
  · exact skipMagnitude_length h

end SearchBar.Json
