import Mathlib.Data.List.Basic
import Mathlib.Tactic

set_option autoImplicit false

namespace PiAutopilot.Protocol

-- A JavaScript string is any sequence of UTF-16 code units; `charCodeAt` reads
-- one unit as a number and `String.fromCharCode` reduces modulo 2^16.
abbrev JsString := List UInt16

-- The source's own string literals are ASCII.
def js (literal : String) : JsString := literal.toList.map fun char => UInt16.ofNat char.toNat

def isHighSurrogate (unit : UInt16) : Bool := 0xd800 ≤ unit.toNat && unit.toNat ≤ 0xdbff

def isLowSurrogate (unit : UInt16) : Bool := 0xdc00 ≤ unit.toNat && unit.toNat ≤ 0xdfff

def startsWith (value pfx : JsString) : Bool := pfx.isPrefixOf value

def endsWith (value suffix : JsString) : Bool := suffix.isSuffixOf value

def includes (value part : JsString) : Bool :=
  match value with
  | [] => part.isPrefixOf []
  | unit :: rest => part.isPrefixOf (unit :: rest) || includes rest part

def splitAt (separator : UInt16) : JsString → List JsString
  | [] => [[]]
  | unit :: rest =>
    if unit = separator then [] :: splitAt separator rest
    else
      match splitAt separator rest with
      | [] => [[unit]]
      | segment :: segments => (unit :: segment) :: segments

inductive TextFormat where
  | plain
  | nonEmpty
  | identifier
  | actionId
  | digest
  | artifactRoot
  | path
  | sourceAnchor
  | decimalNatural
  | gitOid
  | gitRef
  deriving DecidableEq, Repr

def isDigitCode (code : Nat) : Bool := 48 ≤ code && code ≤ 57

variable (value : JsString) (unit : UInt16)

def isHexText (expectedLength : Nat) : Bool :=
  value.length == expectedLength &&
    value.all fun unit => isDigitCode unit.toNat || (97 ≤ unit.toNat && unit.toNat ≤ 102)

def isIdentifierCode (code : Nat) : Bool :=
  (65 ≤ code && code ≤ 90) || (97 ≤ code && code ≤ 122) || isDigitCode code ||
    (code == 45 || code == 46 || code == 58 || code == 95)

def isIdentifier : Bool := !value.isEmpty && value.all fun unit => isIdentifierCode unit.toNat

-- `charCodeAt` past the end is NaN, and both comparisons of NaN are false, so a
-- high surrogate that ends the string is let through.
def isWellFormedUnicode : JsString → Bool
  | [] => true
  | unit :: rest =>
    if isHighSurrogate unit then
      match rest with
      | [] => true
      | following :: tail =>
        if following.toNat < 0xdc00 || following.toNat > 0xdfff then false
        else isWellFormedUnicode tail
    else if isLowSurrogate unit then false
    else isWellFormedUnicode rest

def isRelativePath : Bool :=
  if value.isEmpty || value.head? == some 47 || includes value (js "\\") || includes value [0] then false
  else (splitAt 47 value).all fun segment => !(segment.isEmpty || segment == js "." || segment == js "..")

def isDecimalNatural : Bool :=
  if value == js "0" then true
  else
    match value with
    | [] => false
    | first :: rest =>
      if first.toNat < 49 || first.toNat > 57 then false
      else rest.all fun unit => isDigitCode unit.toNat

def textMatchesFormat (format : TextFormat) : Bool :=
  if !isWellFormedUnicode value then false
  else
    match format with
    | .plain => true
    | .nonEmpty => !value.isEmpty
    | .identifier => isIdentifier value
    | .actionId => startsWith value (js "action:sha256:") && isHexText (value.drop 14) 64
    | .digest => startsWith value (js "sha256:") && isHexText (value.drop 7) 64
    | .artifactRoot => startsWith value (js "sha256:") && isHexText (value.drop 7) 64
    | .path => isRelativePath value
    | .sourceAnchor => startsWith value (js "anchor:") && isIdentifier (value.drop 7)
    | .decimalNatural => isDecimalNatural value
    | .gitOid => isHexText value 40 || isHexText value 64
    | .gitRef =>
      startsWith value (js "refs/") && isRelativePath value && !includes value (js "..") &&
        !endsWith value (js ".") && !endsWith value (js "/")

-- UTF-16 well-formedness proper: every surrogate is half of a pair.
inductive WellFormed : JsString → Prop where
  | nil : WellFormed []
  | scalar (unit : UInt16) (rest : JsString) (notHigh : isHighSurrogate unit = false)
      (notLow : isLowSurrogate unit = false) (tail : WellFormed rest) : WellFormed (unit :: rest)
  | pair (high low : UInt16) (rest : JsString) (isHigh : isHighSurrogate high = true)
      (isLow : isLowSurrogate low = true) (tail : WellFormed rest) : WellFormed (high :: low :: rest)

-- What the UTF-8 encoder makes of a string: each unpaired surrogate becomes U+FFFD.
def replaceUnpaired : JsString → JsString
  | [] => []
  | unit :: rest =>
    if isHighSurrogate unit then
      match rest with
      | [] => [0xfffd]
      | following :: tail =>
        if isLowSurrogate following then unit :: following :: replaceUnpaired tail
        else 0xfffd :: replaceUnpaired (following :: tail)
    else if isLowSurrogate unit then 0xfffd :: replaceUnpaired rest
    else unit :: replaceUnpaired rest

theorem low_not_high (low : isLowSurrogate unit = true) : isHighSurrogate unit = false := by
  simp only [isHighSurrogate, isLowSurrogate, Bool.and_eq_true, decide_eq_true_eq, Bool.and_eq_false_iff, decide_eq_false_iff_not] at low ⊢
  omega

variable (rest : JsString)

def Unpaired : Prop := (isHighSurrogate unit = true ∧ ∀ next ∈ rest.head?, isLowSurrogate next = false) ∨ isLowSurrogate unit = true

-- Every string is read as scalars, surrogate pairs and unpaired surrogates.
theorem utf16_induction {motive : JsString → Prop} (nil : motive [])
    (scalar : ∀ unit rest, isHighSurrogate unit = false → isLowSurrogate unit = false → motive rest → motive (unit :: rest))
    (pair : ∀ high low rest, isHighSurrogate high = true → isLowSurrogate low = true → motive rest → motive (high :: low :: rest))
    (unpaired : ∀ unit rest, Unpaired unit rest → motive rest → motive (unit :: rest))
    (value : JsString) : motive value := by
  induction value using replaceUnpaired.induct with
  | case1 => exact nil
  | case2 unit high => exact unpaired unit [] (.inl ⟨high, by simp⟩) nil
  | case3 unit high following tail low ih => exact pair unit following tail high low ih
  | case4 unit high following tail notLow ih =>
    exact unpaired unit (following :: tail) (.inl ⟨high, by simpa using notLow⟩) ih
  | case5 unit rest _ low ih => exact unpaired unit rest (.inr low) ih
  | case6 unit rest notHigh notLow ih => exact scalar unit rest (by simpa using notHigh) (by simpa using notLow) ih

theorem replace_unpaired_pair {high low : UInt16} {rest : JsString} (isHigh : isHighSurrogate high = true)
    (isLow : isLowSurrogate low = true) :
    replaceUnpaired (high :: low :: rest) = high :: low :: replaceUnpaired rest := by
  simp [replaceUnpaired, isHigh, isLow]

theorem replace_unpaired_scalar (notHigh : isHighSurrogate unit = false) (notLow : isLowSurrogate unit = false) :
    replaceUnpaired (unit :: rest) = unit :: replaceUnpaired rest := by
  rw [replaceUnpaired.eq_def]
  simp [notHigh, notLow]

theorem replace_unpaired_unpaired (unpaired : Unpaired unit rest) : replaceUnpaired (unit :: rest) = 0xfffd :: replaceUnpaired rest := by
  rw [replaceUnpaired.eq_def]
  rcases unpaired with ⟨high, notLow⟩ | low
  · cases rest with
    | nil => simp [high, replaceUnpaired]
    | cons following tail => simp [high, notLow following (by simp)]
  · simp [low, low_not_high unit low]

theorem replace_unpaired_well_formed : WellFormed (replaceUnpaired value) := by
  induction value using utf16_induction with
  | nil => exact .nil
  | scalar unit rest notHigh notLow ih =>
    rw [replace_unpaired_scalar unit rest notHigh notLow]
    exact .scalar unit _ notHigh notLow ih
  | pair high low rest isHigh isLow ih =>
    rw [replace_unpaired_pair isHigh isLow]
    exact .pair high low _ isHigh isLow ih
  | unpaired unit rest unpaired ih =>
    rw [replace_unpaired_unpaired unit rest unpaired]
    exact .scalar _ _ (by decide) (by decide) ih

theorem replace_unpaired_fixed (wellFormed : WellFormed value) : replaceUnpaired value = value := by
  induction wellFormed with
  | nil => rfl
  | scalar unit rest notHigh notLow _ ih => rw [replace_unpaired_scalar unit rest notHigh notLow, ih]
  | pair high low rest isHigh isLow _ ih => rw [replace_unpaired_pair isHigh isLow, ih]

theorem well_formed_iff_fixed : WellFormed value ↔ replaceUnpaired value = value :=
  ⟨replace_unpaired_fixed value, fun fixed => fixed ▸ replace_unpaired_well_formed value⟩

theorem well_formed_scalar_iff (notHigh : isHighSurrogate unit = false)
    (notLow : isLowSurrogate unit = false) : WellFormed (unit :: rest) ↔ WellFormed rest := by
  simp [well_formed_iff_fixed, replace_unpaired_scalar unit rest notHigh notLow]

theorem well_formed_pair_iff {high low : UInt16} {rest : JsString} (isHigh : isHighSurrogate high = true)
    (isLow : isLowSurrogate low = true) : WellFormed (high :: low :: rest) ↔ WellFormed rest := by
  simp [well_formed_iff_fixed, replace_unpaired_pair isHigh isLow]

theorem unpaired_not_well_formed (unpaired : Unpaired unit rest) : ¬ WellFormed (unit :: rest) := by
  rw [well_formed_iff_fixed, replace_unpaired_unpaired unit rest unpaired]
  rintro fixed
  have same : (0xfffd : UInt16) = unit := (List.cons.inj fixed).1
  subst same
  rcases unpaired with ⟨high, _⟩ | low
  · exact absurd high (by decide)
  · exact absurd low (by decide)

theorem unpaired_init {front back : JsString} (unpaired : Unpaired unit (front ++ back)) : Unpaired unit front := by
  rcases unpaired with ⟨high, notLow⟩ | low
  · refine .inl ⟨high, fun next member => notLow next ?_⟩
    cases front with
    | nil => simp at member
    | cons first front => simpa using member
  · exact .inr low

def EndsInHighSurrogate : Prop := ∃ front high, value = front ++ [high] ∧ WellFormed front ∧ isHighSurrogate high = true

-- The only ill-formed strings the check accepts end in one unpaired high surrogate.
theorem is_well_formed_unicode_iff : isWellFormedUnicode value = true ↔ WellFormed value ∨ EndsInHighSurrogate value := by
  induction value using utf16_induction with
  | nil => simp [isWellFormedUnicode, WellFormed.nil]
  | scalar unit rest notHigh notLow ih =>
    have step : isWellFormedUnicode (unit :: rest) = isWellFormedUnicode rest := by
      rw [isWellFormedUnicode.eq_def]
      simp [notHigh, notLow]
    rw [step, ih, well_formed_scalar_iff unit rest notHigh notLow]
    refine or_congr_right ⟨?_, ?_⟩
    · rintro ⟨front, high, rfl, wellFormed, isHigh⟩
      exact ⟨unit :: front, high, rfl, .scalar unit front notHigh notLow wellFormed, isHigh⟩
    · rintro ⟨front, high, same, wellFormed, isHigh⟩
      cases front with
      | nil => simp_all
      | cons first front =>
        obtain ⟨rfl, rfl⟩ := List.cons.inj same
        exact ⟨front, high, rfl, (well_formed_scalar_iff unit front notHigh notLow).mp wellFormed, isHigh⟩
  | pair first second rest isHigh isLow ih =>
    have step : isWellFormedUnicode (first :: second :: rest) = isWellFormedUnicode rest := by
      rw [isWellFormedUnicode]
      simp only [isLowSurrogate, Bool.and_eq_true, decide_eq_true_eq] at isLow
      simp [isHigh]
      omega
    rw [step, ih, well_formed_pair_iff isHigh isLow]
    refine or_congr_right ⟨?_, ?_⟩
    · rintro ⟨front, high, rfl, wellFormed, high⟩
      exact ⟨first :: second :: front, _, rfl, .pair first second front isHigh isLow wellFormed, high⟩
    · rintro ⟨front, high, same, wellFormed, lastHigh⟩
      match front with
      | [] => simp_all
      | [_] =>
        obtain ⟨rfl, rfl, rfl⟩ : first = _ ∧ second = high ∧ rest = [] := by simpa using same
        exact absurd (low_not_high second isLow) (by simp [lastHigh])
      | one :: two :: front =>
        obtain ⟨rfl, rfl, rfl⟩ : first = one ∧ second = two ∧ rest = front ++ [high] := by simpa using same
        exact ⟨front, high, rfl, (well_formed_pair_iff isHigh isLow).mp wellFormed, lastHigh⟩
  | unpaired unit rest unpaired ih =>
    have ends : EndsInHighSurrogate (unit :: rest) ↔ isHighSurrogate unit = true ∧ rest = [] := by
      refine ⟨?_, fun ⟨isHigh, empty⟩ => ⟨[], unit, by simp [empty], .nil, isHigh⟩⟩
      rintro ⟨front, high, same, wellFormed, isHigh⟩
      cases front with
      | nil => simp_all
      | cons first front =>
        obtain ⟨rfl, rfl⟩ := List.cons.inj same
        exact absurd wellFormed (unpaired_not_well_formed unit front (unpaired_init unit unpaired))
    rw [ends, or_iff_right (unpaired_not_well_formed unit rest unpaired), isWellFormedUnicode.eq_def]
    rcases unpaired with ⟨high, notLow⟩ | low
    · cases rest with
      | nil => simp [high]
      | cons following tail =>
        have outside : (following.toNat < 0xdc00 || following.toNat > 0xdfff) = true := by
          have := notLow following (by simp)
          simp only [isLowSurrogate, Bool.and_eq_false_iff, decide_eq_false_iff_not] at this
          simp only [Bool.or_eq_true, decide_eq_true_eq]
          omega
        simp only [high, outside, if_true]
        simp
    · simp [low, low_not_high unit low]

end PiAutopilot.Protocol
