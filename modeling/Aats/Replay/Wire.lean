import Aats.Lib.Calendar
import Aats.Lib.DecimalText
import Aats.Lib.Fallible
import Aats.Replay.EventMerge
import Mathlib.Data.Finset.Dedup

/-!
# The wire values of a replay

`data_platform/replay/derivatives_backtest/wire.py` and the decimals of `contracts.py`: the values
of a dictionary that was read from an artifact, and the checks that admit only the one spelling
of a time and of a decimal.

Each check that reads a text ends by writing what it read and comparing the two, so that it
accepts exactly what the writer writes.

## Main results
* `requireCanonicalUtcTimestamp_eq_ok` — **a time is read from its own text only**.
* `parseCanonicalAccountingDecimal_eq_ok` — **a decimal is read from its own text only**.
-/

namespace Aats.Replay

open Calendar DecimalText Fallible
open Execution (Timestamp)

/-! ### Values -/

/-- A value under a key of a dictionary that was read. Only the kinds of values that a check
admits are told apart, all the others are `other`. -/
inductive WireValue
  | null
  | bool (value : Bool)
  | int (value : ℤ)
  | str (value : String)
  | dict (keys : Finset String) (item : {key // key ∈ keys} → WireValue)
  | other (name : String)

namespace WireValue

/-- `payload.get(key)`. -/
def get : WireValue → String → WireValue
  | dict keys item, key => if h : key ∈ keys then item ⟨key, h⟩ else null
  | _, _ => null

/-- A dictionary with some items, which have different keys. -/
def dictOf (items : List (String × WireValue)) : WireValue :=
  dict (items.map Prod.fst).toFinset fun key => (items.lookup key.1).getD null

theorem get_dictOf (items : List (String × WireValue)) (key : String) :
    (dictOf items).get key = (items.lookup key).getD null := by
  show (if h : key ∈ (items.map Prod.fst).toFinset then _ else null) = _
  split
  · rfl
  · next h =>
    have hnone : items.lookup key = none := by
      rw [List.lookup_eq_none_iff]
      intro p hp
      rw [bne_iff_ne]
      rintro rfl
      exact h (List.mem_toFinset.mpr (List.mem_map_of_mem hp))
    rw [hnone]
    rfl

end WireValue

open WireValue

def requireExactMappingKeys (value : WireValue) (expected : List String) (code : String) :
    Except ContractError WireValue :=
  match value with
  | .dict keys _ => if keys = expected.toFinset then .ok value else .error { code := code }
  | _ => .error { code := code }

theorem dictOf_spec (items : List (String × WireValue)) (expected : List String) (code : String)
    (hkeys : items.map Prod.fst = expected) (hnodup : expected.Nodup) :
    requireExactMappingKeys (dictOf items) expected code = .ok (dictOf items) ∧
      ∀ p ∈ items, (dictOf items).get p.1 = p.2 := by
  subst hkeys
  refine ⟨if_pos rfl, ?_⟩
  rintro ⟨key, value⟩ hmem
  rw [get_dictOf]
  have hlookup : items.lookup key = some value := by
    obtain ⟨before, after, rfl⟩ := List.append_of_mem hmem
    refine List.lookup_eq_some_iff.mpr ⟨before, after, rfl, fun p hp => ?_⟩
    rw [bne_iff_ne]
    rintro rfl
    rw [List.map_append, List.map_cons] at hnodup
    exact (List.nodup_append.mp hnodup).2.2 p.1 (List.mem_map_of_mem hp) p.1 List.mem_cons_self rfl
  rw [hlookup]
  rfl

theorem requireExactMappingKeys_eq_ok {value payload : WireValue} {expected : List String}
    {code : String} : requireExactMappingKeys value expected code = .ok payload ↔
      (∃ item, value = .dict expected.toFinset item) ∧ payload = value := by
  unfold requireExactMappingKeys
  cases value with
  | dict keys item =>
    simp only
    split
    · next hkeys =>
      subst hkeys
      rw [Except.ok.injEq]
      exact ⟨fun h => ⟨⟨item, rfl⟩, h.symm⟩, fun h => h.2.symm⟩
    · next hkeys =>
      refine iff_of_false (by rintro ⟨⟩) ?_
      rintro ⟨⟨item', heq⟩, -⟩
      injection heq with h
      exact hkeys h
  | null | bool | int | str | other =>
    refine iff_of_false (by rintro ⟨⟩) ?_
    rintro ⟨⟨item', heq⟩, -⟩
    cases heq

theorem eq_dictOf {value payload : WireValue} {expected : List String} {code : String}
    (h : requireExactMappingKeys value expected code = .ok payload)
    (items : List (String × WireValue)) (hkeys : items.map Prod.fst = expected)
    (hitems : ∀ p ∈ items, value.get p.1 = p.2) : value = dictOf items := by
  obtain ⟨⟨item, rfl⟩, -⟩ := requireExactMappingKeys_eq_ok.mp h
  subst hkeys
  unfold dictOf
  congr 1
  funext ⟨key, hkey⟩
  have hmem := List.mem_toFinset.mp hkey
  cases hlookup : items.lookup key with
  | none =>
    obtain ⟨p, hp, rfl⟩ := List.mem_map.mp hmem
    have hne := List.lookup_eq_none_iff.mp hlookup p hp
    simp at hne
  | some v =>
    obtain ⟨before, after, heq, -⟩ := List.lookup_eq_some_iff.mp hlookup
    have hv := hitems (key, v) (heq ▸ List.mem_append_right _ List.mem_cons_self)
    rw [WireValue.get, dif_pos hkey] at hv
    exact hv

/-! ### Texts and integers -/

def isHexDigit (c : Char) : Bool := c.isDigit || ('a' ≤ c && c ≤ 'f')

/-- `[a-z0-9]`. -/
def isLowerAlphanum (c : Char) : Bool := c.isDigit || ('a' ≤ c && c ≤ 'z')

/-- `str(uuid.UUID(value)) == value`: the one spelling of a UUID, by its groups of digits. -/
def isCanonicalUuid (text : List Char) : Bool :=
  (text.splitOn '-').map List.length = [8, 4, 4, 4, 12] && text.all (fun c => isHexDigit c || c = '-')

/-- `_SHA256_RE`. -/
def isSha256 (text : List Char) : Bool := text.length = 64 && text.all isHexDigit

theorem admits_ofList {admitted : List Char → Bool} {text : List Char}
    (h : admitted text = true) : admitted (String.ofList text).toList = true := by
  rw [String.toList_ofList]
  exact h

theorem isSha256_replicate {c : Char} (h : isHexDigit c = true) :
    isSha256 (String.ofList (List.replicate 64 c)).toList = true := by
  simp [isSha256, h]

/-- `_IDENTIFIER_RE`. -/
def isIdentifier (text : List Char) : Bool :=
  match text with
  | [] => false
  | first :: rest => isLowerAlphanum first && rest.length ≤ 127 &&
      rest.all (fun c => isLowerAlphanum c || c = '.' || c = '_' || c = '-')

/-- `_PATH_SEGMENT_RE`. -/
def isPathSegment (text : List Char) : Bool :=
  match text with
  | [] => false
  | first :: rest => first.isAlphanum && rest.length ≤ 127 &&
      rest.all (fun c => c.isAlphanum || c = '.' || c = '_' || c = '-')

def windowsReservedBasenames : List (List Char) :=
  ["con".toList, "prn".toList, "aux".toList, "nul".toList] ++
    (List.range 9).map (fun index => "com".toList ++ Nat.toDigits 10 (index + 1)) ++
    (List.range 9).map (fun index => "lpt".toList ++ Nat.toDigits 10 (index + 1))

/-- `PurePosixPath(value).parts` of a relative path. -/
def posixParts (text : List Char) : List (List Char) :=
  (text.splitOn '/').filter fun part => part ≠ [] ∧ part ≠ ['.']

local instance lawfulBEqText : LawfulBEq (List Char) := inferInstance

/-- A relative path that reads the same on all platforms. -/
def isSafeRelativePosixPath (text : List Char) : Bool :=
  text ≠ [] && text.length ≤ 512 && !text.contains '\\' && !text.contains ':' &&
    !text.contains (Char.ofNat 0) && text.head? ≠ some '/' &&
    text.getLast? ≠ some '.' && text.getLast? ≠ some ' ' &&
    ['/'].intercalate (posixParts text) = text && posixParts text ≠ [] &&
    (posixParts text).all fun part =>
      part ≠ [] && part ≠ ['.'] && part ≠ ['.', '.'] && isPathSegment part &&
        part.getLast? ≠ some '.' && part.getLast? ≠ some ' ' &&
        ((part.takeWhile (· ≠ '.')).map Char.toLower) ∉ windowsReservedBasenames

def requireText (admitted : List Char → Bool) (code : String) (value : WireValue)
    (fieldName : String) : Except ContractError String :=
  match value with
  | .str text =>
    if admitted text.toList then .ok text else .error { code := code, field := some fieldName }
  | _ => .error { code := code, field := some fieldName }

def requireCanonicalUuid : WireValue → String → Except ContractError String :=
  requireText isCanonicalUuid "uuid_non_canonical"

def requireSha256 : WireValue → String → Except ContractError String :=
  requireText isSha256 "sha256_non_canonical"

def requireIdentifier : WireValue → String → Except ContractError String :=
  requireText isIdentifier "identifier_non_canonical"

def requireSafeRelativePosixPath : WireValue → String → Except ContractError String :=
  requireText isSafeRelativePosixPath "artifact_relative_path_invalid"

theorem requireText_eq_ok {admitted : List Char → Bool} {code fieldName text : String}
    {value : WireValue} : requireText admitted code value fieldName = .ok text ↔
      value = .str text ∧ admitted text.toList = true := by
  unfold requireText
  cases value with
  | str s =>
    simp only [WireValue.str.injEq]
    split
    · next h =>
      rw [Except.ok.injEq]
      exact ⟨fun heq => ⟨heq, heq ▸ h⟩, fun heq => heq.1⟩
    · next h =>
      refine iff_of_false (by rintro ⟨⟩) ?_
      rintro ⟨rfl, htext⟩
      exact h htext
  | null | bool | int | dict | other =>
    refine iff_of_false (by rintro ⟨⟩) ?_
    rintro ⟨⟨⟩, -⟩

def requireExactInt (value : WireValue) (fieldName : String) (minimum maximum : ℤ) :
    Except ContractError ℤ :=
  match value with
  | .int i =>
    if i < minimum ∨ maximum < i then
      .error { code := "integer_out_of_bounds", field := some fieldName }
    else .ok i
  | _ => .error { code := "integer_out_of_bounds", field := some fieldName }

theorem requireExactInt_eq_ok {value : WireValue} {fieldName : String} {minimum maximum i : ℤ} :
    requireExactInt value fieldName minimum maximum = .ok i ↔
      value = .int i ∧ minimum ≤ i ∧ i ≤ maximum := by
  unfold requireExactInt
  cases value with
  | int j =>
    simp only [WireValue.int.injEq]
    split
    · next h => exact iff_of_false (by rintro ⟨⟩) (by omega)
    · next h =>
      rw [Except.ok.injEq]
      exact ⟨fun heq => ⟨heq, by omega⟩, fun heq => heq.1⟩
  | null | bool | str | dict | other =>
    refine iff_of_false (by rintro ⟨⟩) ?_
    rintro ⟨⟨⟩, -⟩

/-! ### Times

A time counts the microseconds from the first of January of the year one. The integers that are
no time of a `datetime` stand for the values that are none. -/

def microsPerDay : ℕ := 86400000000

/-- The first time after the last year of a `datetime`. -/
def datetimeEnd : ℕ := daysBeforeYear 10000 * microsPerDay

def requireUtcDatetime (ts : Timestamp) (fieldName : String) : Except ContractError Timestamp :=
  if 0 ≤ ts ∧ ts < datetimeEnd then .ok ts
  else .error { code := "timestamp_utc_required", field := some fieldName }

theorem requireUtcDatetime_eq_ok {ts ts' : Timestamp} {fieldName : String} :
    requireUtcDatetime ts fieldName = .ok ts' ↔ (0 ≤ ts ∧ ts < datetimeEnd) ∧ ts' = ts := by
  unfold requireUtcDatetime
  split
  · next h =>
    rw [Except.ok.injEq]
    exact ⟨fun heq => ⟨h, heq.symm⟩, fun heq => heq.2.symm⟩
  · next h => exact iff_of_false (by rintro ⟨⟩) fun heq => h heq.1

def fixedDigits : ℕ → ℕ → List Char
  | 0, _ => []
  | width + 1, n => fixedDigits width (n / 10) ++ [Nat.digitChar (n % 10)]

/-- `strftime("%Y-%m-%dT%H:%M:%S.%fZ")`, of a number of microseconds. -/
def utcText (micros : ℕ) : List Char :=
  let day := ord2ymd (micros / microsPerDay + 1)
  let rest := micros % microsPerDay
  let second := rest / 1000000
  fixedDigits 4 day.1 ++ '-' :: (fixedDigits 2 day.2.1 ++ '-' :: (fixedDigits 2 day.2.2 ++
    'T' :: (fixedDigits 2 (second / 3600) ++ ':' :: (fixedDigits 2 (second / 60 % 60) ++
      ':' :: (fixedDigits 2 (second % 60) ++ '.' :: (fixedDigits 6 (rest % 1000000) ++ ['Z']))))))

def canonicalUtcTimestamp (ts : Timestamp) (fieldName : String) : Except ContractError String := do
  let resolved ← requireUtcDatetime ts fieldName
  return String.ofList (utcText resolved.toNat)

def readFixed (width : ℕ) (text : List Char) : Option (ℕ × List Char) :=
  if (text.take width).length = width ∧ (text.take width).all Char.isDigit then
    some (Nat.ofDigitChars 10 (text.take width) 0, text.drop width)
  else none

def readChar (c : Char) : List Char → Option (List Char)
  | [] => none
  | first :: rest => if first = c then some rest else none

def readDate (text : List Char) : Option ((ℕ × ℕ × ℕ) × List Char) := do
  let (year, text) ← readFixed 4 text
  let text ← readChar '-' text
  let (month, text) ← readFixed 2 text
  let text ← readChar '-' text
  let (day, text) ← readFixed 2 text
  some ((year, month, day), text)

/-- The hour, the minute and the second in front of a text. -/
def readClock (text : List Char) : Option ((ℕ × ℕ × ℕ) × List Char) := do
  let (hour, text) ← readFixed 2 text
  let text ← readChar ':' text
  let (minute, text) ← readFixed 2 text
  let text ← readChar ':' text
  let (second, text) ← readFixed 2 text
  some ((hour, minute, second), text)

/-- `datetime.strptime(value, "%Y-%m-%dT%H:%M:%S.%fZ")`, of a text of the shape of a time. -/
def readUtc (text : List Char) : Option ℕ := do
  let ((year, month, day), text) ← readDate text
  let text ← readChar 'T' text
  let ((hour, minute, second), text) ← readClock text
  let text ← readChar '.' text
  let (micro, text) ← readFixed 6 text
  let text ← readChar 'Z' text
  if text = [] ∧ IsDay year month day ∧ hour < 24 ∧ minute < 60 ∧ second < 60 then
    some ((ymd2ord year month day - 1) * microsPerDay +
      ((hour * 60 + minute) * 60 + second) * 1000000 + micro)
  else none

@[simp] theorem length_fixedDigits (width n : ℕ) : (fixedDigits width n).length = width := by
  induction width generalizing n with
  | zero => rfl
  | succ width ih => simp [fixedDigits, ih]

theorem all_isDigit_fixedDigits (width n : ℕ) :
    (fixedDigits width n).all Char.isDigit = true := by
  induction width generalizing n with
  | zero => rfl
  | succ width ih =>
    have hdigit : (Nat.digitChar (n % 10)).isDigit = true := by
      rw [Nat.isDigit_digitChar, decide_eq_true_eq]
      omega
    rw [fixedDigits, List.all_append, ih, Bool.true_and, List.all_cons, hdigit]
    rfl

theorem ofDigitChars_fixedDigits {width n : ℕ} (h : n < 10 ^ width) :
    Nat.ofDigitChars 10 (fixedDigits width n) 0 = n := by
  induction width generalizing n with
  | zero =>
    rw [pow_zero, Nat.lt_one_iff] at h
    rw [h]
    rfl
  | succ width ih =>
    have hdiv : n / 10 < 10 ^ width := by
      rw [pow_succ] at h
      omega
    rw [fixedDigits, Nat.ofDigitChars_append, ih hdiv,
      Nat.ofDigitChars_cons_digitChar_of_lt_ten (Nat.mod_lt _ (by norm_num)), Nat.ofDigitChars_nil]
    omega

theorem readFixed_append {width n : ℕ} (h : n < 10 ^ width) (rest : List Char) :
    readFixed width (fixedDigits width n ++ rest) = some (n, rest) := by
  have htake : (fixedDigits width n ++ rest).take width = fixedDigits width n :=
    List.take_left' (length_fixedDigits width n)
  have hdrop : (fixedDigits width n ++ rest).drop width = rest :=
    List.drop_left' (length_fixedDigits width n)
  rw [readFixed, htake, hdrop, ofDigitChars_fixedDigits h,
    if_pos ⟨length_fixedDigits width n, all_isDigit_fixedDigits width n⟩]

@[simp] theorem readChar_cons (c : Char) (rest : List Char) : readChar c (c :: rest) = some rest :=
  if_pos rfl

theorem readDate_append {year month day : ℕ} (rest : List Char) (hyear : year < 10 ^ 4)
    (hmonth : month < 10 ^ 2) (hday : day < 10 ^ 2) :
    readDate (fixedDigits 4 year ++ '-' :: (fixedDigits 2 month ++
      '-' :: (fixedDigits 2 day ++ rest))) = some ((year, month, day), rest) := by
  rw [readDate, readFixed_append hyear]
  show (readFixed 2 (fixedDigits 2 month ++ _) >>= _) = _
  rw [readFixed_append hmonth]
  show (readFixed 2 (fixedDigits 2 day ++ _) >>= _) = _
  rw [readFixed_append hday]
  rfl

theorem readClock_append {hour minute second : ℕ} (rest : List Char) (hhour : hour < 10 ^ 2)
    (hminute : minute < 10 ^ 2) (hsecond : second < 10 ^ 2) :
    readClock (fixedDigits 2 hour ++ ':' :: (fixedDigits 2 minute ++
      ':' :: (fixedDigits 2 second ++ rest))) = some ((hour, minute, second), rest) := by
  rw [readClock, readFixed_append hhour]
  show (readFixed 2 (fixedDigits 2 minute ++ _) >>= _) = _
  rw [readFixed_append hminute]
  show (readFixed 2 (fixedDigits 2 second ++ _) >>= _) = _
  rw [readFixed_append hsecond]
  rfl

theorem day_le_of_isDay {year month day : ℕ} (h : IsDay year month day) : day ≤ 31 := by
  have hle : ∀ leap : Bool, ∀ month ≤ 12, daysInMonth leap month ≤ 31 := by decide
  exact h.day_le.trans (hle _ month h.month_le)

theorem readUtc_utcText {micros : ℕ} (h : micros < datetimeEnd) :
    readUtc (utcText micros) = some micros := by
  have hpos : 1 ≤ micros / microsPerDay + 1 := Nat.le_add_left 1 _
  have hday : micros / microsPerDay + 1 ≤ daysBeforeYear (9999 + 1) :=
    Nat.div_lt_of_lt_mul (by rwa [Nat.mul_comm])
  have hvalid := ord2ymd_valid hpos
  have hord := ymd2ord_ord2ymd hpos
  have hyear := ord2ymd_year_le hpos hday
  have hdayLe := day_le_of_isDay hvalid
  have hmonthLe := hvalid.month_le
  have hrest : micros % microsPerDay < 86400000000 := Nat.mod_lt _ (by decide)
  have hsplit : micros / microsPerDay * microsPerDay + micros % microsPerDay = micros :=
    Nat.div_add_mod' micros microsPerDay
  rw [utcText]
  generalize ord2ymd (micros / microsPerDay + 1) = day at *
  generalize micros % microsPerDay = rest at *
  rw [readUtc, readDate_append _ (by omega) (by omega) (by omega)]
  show (readClock (fixedDigits 2 _ ++ ':' :: _) >>= _) = _
  rw [readClock_append _ (by omega) (by omega) (by omega)]
  show (readFixed 6 (fixedDigits 6 _ ++ _) >>= _) = _
  rw [readFixed_append (by omega)]
  refine (if_pos ⟨rfl, hvalid, by omega, by omega, by omega⟩).trans ?_
  rw [hord, Nat.add_sub_cancel]
  have hclock : (rest / 1000000 / 3600 * 60 + rest / 1000000 / 60 % 60) * 60 +
      rest / 1000000 % 60 = rest / 1000000 := by omega
  have hmicros : rest / 1000000 * 1000000 + rest % 1000000 = rest := Nat.div_add_mod' rest 1000000
  rw [hclock, Nat.add_assoc, hmicros, hsplit]

def requireCanonicalUtcTimestamp (value : WireValue) (fieldName : String) :
    Except ContractError Timestamp :=
  let nonCanonical : ContractError := { code := "timestamp_non_canonical", field := some fieldName }
  match value with
  | .str text =>
    match readUtc text.toList with
    | none => .error nonCanonical
    | some parsed => do
      let canonical ← canonicalUtcTimestamp parsed fieldName
      raiseIf (canonical ≠ text) nonCanonical
      return parsed
  | _ => .error nonCanonical

theorem canonicalUtcTimestamp_eq_ok {ts : Timestamp} {fieldName text : String} :
    canonicalUtcTimestamp ts fieldName = .ok text ↔
      (0 ≤ ts ∧ ts < datetimeEnd) ∧ text = String.ofList (utcText ts.toNat) := by
  unfold canonicalUtcTimestamp
  rw [bind_eq_ok]
  constructor
  · rintro ⟨resolved, hres, h⟩
    obtain ⟨hrange, rfl⟩ := requireUtcDatetime_eq_ok.mp hres
    exact ⟨hrange, (pure_eq_ok.mp h).symm⟩
  · rintro ⟨hrange, rfl⟩
    exact ⟨ts, requireUtcDatetime_eq_ok.mpr ⟨hrange, rfl⟩, rfl⟩

theorem requireCanonicalUtcTimestamp_eq_ok {value : WireValue} {fieldName : String}
    {ts : Timestamp} : requireCanonicalUtcTimestamp value fieldName = .ok ts ↔
      ∃ text, canonicalUtcTimestamp ts fieldName = .ok text ∧ value = .str text := by
  unfold requireCanonicalUtcTimestamp
  constructor
  · intro h
    cases value with
    | str text =>
      simp only at h
      split at h
      · cases h
      · next parsed hread =>
        obtain ⟨canonical, hcanonical, h⟩ := bind_eq_ok.mp h
        obtain ⟨⟨⟩, hsame, h⟩ := bind_eq_ok.mp h
        cases pure_eq_ok.mp h
        exact ⟨canonical, hcanonical, by rw [not_not.mp (raiseIf_eq_ok.mp hsame)]⟩
    | null | bool | int | dict | other => cases h
  · rintro ⟨text, hcanonical, rfl⟩
    obtain ⟨⟨hlow, hhigh⟩, htext⟩ := canonicalUtcTimestamp_eq_ok.mp hcanonical
    have hcast : (ts.toNat : ℤ) = ts := Int.toNat_of_nonneg hlow
    have hread : readUtc text.toList = some ts.toNat := by
      rw [htext, String.toList_ofList]
      exact readUtc_utcText (by rwa [← hcast, Nat.cast_lt] at hhigh)
    simp only [hread, hcast, hcanonical, ok_bind, ne_eq, not_true_eq_false,
      raiseIf_of_not _ not_false]
    rfl

/-! ### Decimals -/

/-- A `Decimal`: a finite one, or an infinity or a NaN. -/
inductive Decimal
  | finite (number : Dec)
  | nonFinite (name : List Char)
  deriving DecidableEq, Repr

/-- What a decimal is worth. Two finite decimals are equal for `==` if they are worth the same. -/
def Decimal.value : Decimal → Option ℚ
  | finite number => some number.value
  | nonFinite _ => none

def Decimal.trimmed : Decimal → Decimal
  | finite number => finite number.trimmed
  | nonFinite name => nonFinite name

def maxCanonicalDecimalDigits : ℕ := 256

def maxCanonicalDecimalExponent : ℕ := 256

def maxCanonicalDecimalWireChars : ℕ := 520

def requireFiniteDecimal (value : Decimal) (fieldName : String) : Except ContractError Dec :=
  let outOfBounds : ContractError :=
    { code := "economic_decimal_out_of_bounds", field := some fieldName }
  match value with
  | .nonFinite _ => .error { code := "economic_decimal_non_finite", field := some fieldName }
  | .finite number =>
    if number.coefficient = 0 then .ok Dec.zero
    else do
      raiseIf (maxCanonicalDecimalWireChars < number.digitCount) outOfBounds
      raiseIf (maxCanonicalDecimalDigits < number.trimmed.digitCount ∨
        maxCanonicalDecimalExponent < number.trimmed.exponent.natAbs) outOfBounds
      return number

def requirePositiveDecimal (value : Decimal) (fieldName : String) : Except ContractError Dec := do
  let resolved ← requireFiniteDecimal value fieldName
  raiseIf (resolved.value ≤ 0) { code := fieldName ++ "_invalid" }
  return resolved

def requireNonNegativeDecimal (value : Decimal) (fieldName : String) :
    Except ContractError Dec := do
  let resolved ← requireFiniteDecimal value fieldName
  raiseIf (resolved.value < 0) { code := fieldName ++ "_invalid" }
  return resolved

def canonicalAccountingDecimal (value : Decimal) (fieldName : String) :
    Except ContractError String := do
  let resolved ← requireFiniteDecimal value fieldName
  return String.ofList (canonicalText resolved)

/-- The characters that `str.strip` removes. -/
def isPythonSpace (c : Char) : Bool :=
  (9 ≤ c.toNat && c.toNat ≤ 13) || (28 ≤ c.toNat && c.toNat ≤ 32) || c.toNat = 133 ||
    c.toNat = 160 || c.toNat = 5760 || (8192 ≤ c.toNat && c.toNat ≤ 8202) || c.toNat = 8232 ||
    c.toNat = 8233 || c.toNat = 8239 || c.toNat = 8287 || c.toNat = 12288

/-- The texts of the infinities and of the NaNs, in lower case and after their sign. -/
def isNonFiniteName (text : List Char) : Bool :=
  text = "inf".toList || text = "infinity".toList ||
    ("nan".toList.isPrefixOf text && (text.drop 3).all Char.isDigit) ||
    ("snan".toList.isPrefixOf text && (text.drop 4).all Char.isDigit)

/-- `Decimal(value)`. The digits of other scripts, which the constructor reads as well, are left
out: the text of such a number is written with other digits, so that it is refused either way. -/
def readDecimal (text : List Char) : Option Decimal :=
  let text := text.filter (· ≠ '_')
  match readDec text with
  | some number => some (.finite number)
  | none =>
    if isNonFiniteName ((readSign text).2.map Char.toLower) then some (.nonFinite text) else none

def parseCanonicalAccountingDecimal (value : WireValue) (fieldName : String) :
    Except ContractError Decimal :=
  let nonCanonical : ContractError :=
    { code := "economic_decimal_non_canonical", field := some fieldName }
  match value with
  | .str text => do
    raiseIf (text.toList = [] ∨ maxCanonicalDecimalWireChars < text.toList.length ∨
      text.toList.head?.any isPythonSpace ∨ text.toList.getLast?.any isPythonSpace) nonCanonical
    match readDecimal text.toList with
    | none => .error nonCanonical
    | some resolved => do
      let resolved ← requireFiniteDecimal resolved fieldName
      raiseIf (canonicalText resolved ≠ text.toList) nonCanonical
      return if resolved.coefficient = 0 then .finite Dec.zero else .finite resolved
  | _ => .error { code := "economic_decimal_wire_type_invalid", field := some fieldName }

/-- What `require_finite_decimal` asks of a number. -/
structure Bounded (number : Dec) : Prop where
  digits : number.digitCount ≤ maxCanonicalDecimalWireChars
  trimmedDigits : number.trimmed.digitCount ≤ maxCanonicalDecimalDigits
  exponent : number.trimmed.exponent.natAbs ≤ maxCanonicalDecimalExponent

/-- The number that the check of a decimal hands on: the same, or zero in its one spelling. -/
def Admits (value : Decimal) (number : Dec) : Prop :=
  ∃ given, value = .finite given ∧ ((given.coefficient = 0 ∧ number = Dec.zero) ∨
    (given.coefficient ≠ 0 ∧ number = given ∧ Bounded given))

theorem requireFiniteDecimal_eq_ok {value : Decimal} {fieldName : String} {number : Dec} :
    requireFiniteDecimal value fieldName = .ok number ↔ Admits value number := by
  unfold requireFiniteDecimal Admits
  cases value with
  | nonFinite name =>
    refine iff_of_false (by rintro ⟨⟩) ?_
    rintro ⟨given, ⟨⟩, -⟩
  | finite given =>
    simp only [Decimal.finite.injEq, exists_eq_left']
    by_cases h0 : given.coefficient = 0
    · rw [if_pos h0, Except.ok.injEq]
      constructor
      · exact fun h => .inl ⟨h0, h.symm⟩
      · rintro (⟨-, rfl⟩ | ⟨hne, -⟩)
        · rfl
        · exact absurd h0 hne
    · rw [if_neg h0]
      constructor
      · intro h
        obtain ⟨⟨⟩, hdigits, h⟩ := bind_eq_ok.mp h
        obtain ⟨⟨⟩, hbounds, h⟩ := bind_eq_ok.mp h
        have hdigits := raiseIf_eq_ok.mp hdigits
        have hbounds := raiseIf_eq_ok.mp hbounds
        exact .inr ⟨h0, (pure_eq_ok.mp h).symm, by omega, by omega, by omega⟩
      · rintro (⟨hz, -⟩ | ⟨-, rfl, hbounded⟩)
        · exact absurd hz h0
        · have h₁ := hbounded.digits
          have h₂ := hbounded.trimmedDigits
          have h₃ := hbounded.exponent
          refine bind_eq_ok.mpr ⟨(), raiseIf_eq_ok.mpr (by omega), ?_⟩
          exact bind_eq_ok.mpr ⟨(), raiseIf_eq_ok.mpr (by omega), rfl⟩

theorem Admits.trimmed_eq {value : Decimal} {number : Dec} (h : Admits value number) :
    value.trimmed = .finite number.trimmed := by
  obtain ⟨given, rfl, ⟨h0, rfl⟩ | ⟨-, rfl, -⟩⟩ := h
  · rw [Decimal.trimmed, Dec.trimmed_of_zero h0]
    rfl
  · rfl

theorem Admits.value_eq {value : Decimal} {number : Dec} (h : Admits value number) :
    value.value = some number.value := by
  obtain ⟨given, rfl, ⟨h0, rfl⟩ | ⟨-, rfl, -⟩⟩ := h
  · rw [Decimal.value, Dec.value_eq_zero.mpr h0, Dec.value_zero]
  · rfl

theorem Admits.trimmed {value : Decimal} {number : Dec} (h : Admits value number) :
    Admits value.trimmed number.trimmed := by
  obtain ⟨given, rfl, ⟨h0, rfl⟩ | ⟨h0, rfl, hbounded⟩⟩ := h
  · exact ⟨given.trimmed, rfl, .inl ⟨Dec.trimmed_coefficient_eq_zero.mpr h0, rfl⟩⟩
  · refine ⟨number.trimmed, rfl, .inr ⟨?_, rfl, ?_, ?_, ?_⟩⟩
    · exact fun hz => h0 (Dec.trimmed_coefficient_eq_zero.mp hz)
    · exact hbounded.trimmedDigits.trans (by decide)
    · rw [Dec.trimmed_trimmed]
      exact hbounded.trimmedDigits
    · rw [Dec.trimmed_trimmed]
      exact hbounded.exponent

theorem canonicalAccountingDecimal_eq_ok {value : Decimal} {fieldName text : String} :
    canonicalAccountingDecimal value fieldName = .ok text ↔
      ∃ number, Admits value number ∧ text = String.ofList (canonicalText number) := by
  simp only [canonicalAccountingDecimal, bind_eq_ok, requireFiniteDecimal_eq_ok, pure_eq_ok,
    @eq_comm _ text]

theorem canonicalAccountingDecimal_field {d : Decimal} {fieldName text : String}
    (h : canonicalAccountingDecimal d fieldName = .ok text) (other : String) :
    canonicalAccountingDecimal d other = .ok text :=
  canonicalAccountingDecimal_eq_ok.mpr (canonicalAccountingDecimal_eq_ok.mp h)

theorem canonicalAccountingDecimal_trimmed {d : Decimal} {number : Dec} (h : Admits d number)
    (fieldName : String) :
    canonicalAccountingDecimal d.trimmed fieldName = canonicalAccountingDecimal d fieldName := by
  rw [canonicalAccountingDecimal_eq_ok.mpr ⟨number, h, rfl⟩]
  refine canonicalAccountingDecimal_eq_ok.mpr ⟨number.trimmed, h.trimmed, ?_⟩
  unfold canonicalText
  rw [Dec.trimmed_trimmed]

theorem isPythonSpace_of_mem_canonicalText {number : Dec} {c : Char}
    (h : c ∈ canonicalText number) : isPythonSpace c = false := by
  rcases mem_canonicalText h with hc | rfl | rfl
  · rw [Char.isDigit, Bool.and_eq_true, decide_eq_true_eq, decide_eq_true_eq] at hc
    have h₁ : 48 ≤ c.toNat := hc.1
    have h₂ : c.toNat ≤ 57 := hc.2
    simp only [isPythonSpace, Bool.or_eq_false_iff, Bool.and_eq_false_iff, decide_eq_false_iff_not]
    omega
  · decide
  · decide

theorem readDecimal_canonicalText (number : Dec) :
    readDecimal (canonicalText number) = some (.finite number.trimmed) := by
  have hfilter : (canonicalText number).filter (· ≠ '_') = canonicalText number := by
    refine List.filter_eq_self.mpr fun c hc => ?_
    rw [decide_eq_true_eq]
    rintro rfl
    rcases mem_canonicalText hc with h | h | h
    · cases h
    · cases h
    · cases h
  simp only [readDecimal, hfilter, readDec_canonicalText]

theorem length_canonicalText_of_bounded {number : Dec} (h : Bounded number) :
    (canonicalText number).length ≤ maxCanonicalDecimalWireChars := by
  have hexp : (Nat.toDigits 10 number.trimmed.exponent.natAbs).length ≤ 3 := by
    have hle := h.exponent
    rw [Nat.length_toDigits_le_iff (by norm_num) (by norm_num)]
    exact lt_of_le_of_lt hle (by decide)
  have hdigits := h.trimmedDigits
  have hlen := length_canonicalText_le number
  unfold maxCanonicalDecimalDigits at hdigits
  unfold maxCanonicalDecimalWireChars
  omega

theorem Admits.eq_finite {value : Decimal} {number : Dec} (h : Admits value number)
    (htrim : value.trimmed = value) : value = .finite number ∧ number.trimmed = number := by
  have hnumber := h.trimmed_eq
  rw [htrim] at hnumber
  subst hnumber
  obtain ⟨given, hgiven, ⟨h0, rfl⟩ | ⟨-, rfl, -⟩⟩ := h
  · exact ⟨rfl, rfl⟩
  · exact ⟨hgiven, Decimal.finite.inj hgiven⟩

/-- **A decimal is read from its own text only**, and without zeros at its end. -/
theorem parseCanonicalAccountingDecimal_eq_ok {value : WireValue} {fieldName : String}
    {d : Decimal} : parseCanonicalAccountingDecimal value fieldName = .ok d ↔
      d.trimmed = d ∧
        ∃ text, canonicalAccountingDecimal d fieldName = .ok text ∧ value = .str text := by
  unfold parseCanonicalAccountingDecimal
  constructor
  · intro h
    cases value with
    | str text =>
      obtain ⟨⟨⟩, -, h⟩ := bind_eq_ok.mp h
      cases hread : readDecimal text.toList with
      | none => simp only [hread, reduceCtorEq] at h
      | some resolved =>
        simp only [hread] at h
        obtain ⟨number, hnumber, hrest⟩ := bind_eq_ok.mp h
        obtain ⟨⟨⟩, hsame, hreturn⟩ := bind_eq_ok.mp hrest
        have hsame := not_not.mp (raiseIf_eq_ok.mp hsame)
        -- what was read is the trimmed number, since its text is the canonical one
        rw [← hsame, readDecimal_canonicalText, Option.some.injEq] at hread
        subst hread
        have htrim : (Decimal.finite number.trimmed).trimmed = .finite number.trimmed := by
          rw [Decimal.trimmed, Dec.trimmed_trimmed]
        have hadmits := requireFiniteDecimal_eq_ok.mp hnumber
        obtain ⟨hfinite, hself⟩ := hadmits.eq_finite htrim
        have hd : d = .finite number := by
          rw [← pure_eq_ok.mp hreturn]
          split
          · next h0 => rw [← hself, Dec.trimmed_of_zero h0]
          · rfl
        subst hd
        refine ⟨congrArg Decimal.finite hself, text, ?_, rfl⟩
        refine canonicalAccountingDecimal_eq_ok.mpr ⟨number, hfinite ▸ hadmits, ?_⟩
        rw [hsame, String.ofList_toList]
    | null | bool | int | dict | other => cases h
  · rintro ⟨htrim, text, htext, rfl⟩
    obtain ⟨number, hadmits, rfl⟩ := canonicalAccountingDecimal_eq_ok.mp htext
    obtain ⟨rfl, hself⟩ := hadmits.eq_finite htrim
    have hnumber : requireFiniteDecimal (.finite number) fieldName = .ok number :=
      requireFiniteDecimal_eq_ok.mpr hadmits
    have hlength : (canonicalText number).length ≤ maxCanonicalDecimalWireChars := by
      obtain ⟨given, hgiven, ⟨h0, rfl⟩ | ⟨-, rfl, hbounded⟩⟩ := hadmits
      · decide
      · exact length_canonicalText_of_bounded hbounded
    have hspace : ∀ c, c ∈ canonicalText number → isPythonSpace c = false := fun c hc =>
      isPythonSpace_of_mem_canonicalText hc
    refine bind_eq_ok.mpr ⟨(), raiseIf_eq_ok.mpr ?_, ?_⟩
    · rw [String.toList_ofList]
      rintro (hnil | hlong | hhead | hlast)
      · exact canonicalText_ne_nil number hnil
      · omega
      · obtain ⟨c, hc, hs⟩ := (Option.any_eq_true _ _).mp hhead
        rw [hspace c (List.mem_of_mem_head? hc)] at hs
        cases hs
      · obtain ⟨c, hc, hs⟩ := (Option.any_eq_true _ _).mp hlast
        rw [hspace c (List.mem_of_getLast? hc)] at hs
        cases hs
    · simp only [String.toList_ofList, readDecimal_canonicalText, hself, hnumber, ok_bind, ne_eq,
        not_true_eq_false, raiseIf_of_not _ not_false]
      refine congrArg Except.ok ?_
      split
      · next h0 => rw [← hself, Dec.trimmed_of_zero h0]
      · rfl

theorem canonicalAccountingDecimal_eq_iff {x y : Decimal} {fieldName s t : String}
    (hx : canonicalAccountingDecimal x fieldName = .ok s)
    (hy : canonicalAccountingDecimal y fieldName = .ok t) : s = t ↔ x.value = y.value := by
  obtain ⟨number, hnumber, rfl⟩ := canonicalAccountingDecimal_eq_ok.mp hx
  obtain ⟨other, hother, rfl⟩ := canonicalAccountingDecimal_eq_ok.mp hy
  rw [hnumber.value_eq, hother.value_eq, Option.some.injEq]
  constructor
  · intro h
    -- reading the text gives the trimmed number back
    have htext : canonicalText number = canonicalText other := by
      rw [← String.toList_ofList (l := canonicalText number), h, String.toList_ofList]
    have htrimmed : some number.trimmed = some other.trimmed := by
      rw [← readDec_canonicalText, htext, readDec_canonicalText]
    rw [← Dec.value_trimmed number, Option.some.inj htrimmed, Dec.value_trimmed]
  · intro h
    unfold canonicalText
    rw [Dec.trimmed_eq_of_value_eq h]

theorem parseCanonicalAccountingDecimal_of_text {d : Decimal} {fieldName text : String}
    (h : canonicalAccountingDecimal d fieldName = .ok text) :
    ∃ parsed, parseCanonicalAccountingDecimal (.str text) fieldName = .ok parsed ∧
      parsed.value = d.value := by
  obtain ⟨number, hnumber, -⟩ := canonicalAccountingDecimal_eq_ok.mp h
  refine ⟨d.trimmed, parseCanonicalAccountingDecimal_eq_ok.mpr ⟨?_, text, ?_, rfl⟩, ?_⟩
  · rw [hnumber.trimmed_eq, Decimal.trimmed, Dec.trimmed_trimmed]
  · rw [canonicalAccountingDecimal_trimmed hnumber]
    exact h
  · rw [hnumber.trimmed_eq, hnumber.value_eq]
    exact congrArg some (Dec.value_trimmed number)

/-- **The text of a decimal says what it is worth and nothing else**: every decimal that passes the
check has a text, which is read as a decimal worth the same; two of them have the same text exactly
if they are worth the same; and the texts of decimals are all that is read. -/
theorem canonicalAccountingDecimal_spec (fieldName : String) :
    (∀ x number, requireFiniteDecimal x fieldName = .ok number →
      ∃ text parsed, canonicalAccountingDecimal x fieldName = .ok text ∧
        parseCanonicalAccountingDecimal (.str text) fieldName = .ok parsed ∧
        parsed.value = x.value) ∧
    (∀ x y number other, requireFiniteDecimal x fieldName = .ok number →
      requireFiniteDecimal y fieldName = .ok other →
      (canonicalAccountingDecimal x fieldName = canonicalAccountingDecimal y fieldName ↔
        x.value = y.value)) ∧
    ∀ text, (∃ parsed, parseCanonicalAccountingDecimal (.str text) fieldName = .ok parsed) ↔
      ∃ x, canonicalAccountingDecimal x fieldName = .ok text := by
  have htext : ∀ x number, requireFiniteDecimal x fieldName = .ok number →
      ∃ text, canonicalAccountingDecimal x fieldName = .ok text := fun x number h =>
    ⟨_, canonicalAccountingDecimal_eq_ok.mpr ⟨number, requireFiniteDecimal_eq_ok.mp h, rfl⟩⟩
  refine ⟨?_, ?_, ?_⟩
  · intro x number h
    obtain ⟨text, hx⟩ := htext x number h
    obtain ⟨parsed, hparsed, hvalue⟩ := parseCanonicalAccountingDecimal_of_text hx
    exact ⟨text, parsed, hx, hparsed, hvalue⟩
  · intro x y number other h h'
    obtain ⟨s, hx⟩ := htext x number h
    obtain ⟨t, hy⟩ := htext y other h'
    rw [← canonicalAccountingDecimal_eq_iff hx hy, hx, hy, Except.ok.injEq]
  · intro text
    constructor
    · rintro ⟨parsed, h⟩
      obtain ⟨-, other, hother, heq⟩ := parseCanonicalAccountingDecimal_eq_ok.mp h
      rw [WireValue.str.inj heq]
      exact ⟨parsed, hother⟩
    · rintro ⟨x, hx⟩
      obtain ⟨parsed, hparsed, -⟩ := parseCanonicalAccountingDecimal_of_text hx
      exact ⟨parsed, hparsed⟩

/-- `Decimal("-1.50")` and `Decimal("-15e-1")` have one text. -/
theorem canonicalAccountingDecimal_spec_minusOneAndHalf :
    canonicalAccountingDecimal (.finite ⟨true, 150, -2⟩) "price" =
        canonicalAccountingDecimal (.finite ⟨true, 15, -1⟩) "price" ↔
      (Decimal.finite ⟨true, 150, -2⟩).value = (Decimal.finite ⟨true, 15, -1⟩).value :=
  (canonicalAccountingDecimal_spec "price").2.1 _ _ ⟨true, 150, -2⟩ ⟨true, 15, -1⟩
    (by decide +kernel) (by decide +kernel)

end Aats.Replay
