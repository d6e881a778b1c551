import AutoTrader.Domain.DecimalText

/-! Timestamps and their texts. The ISO text of a UTC datetime is read back as the same instant. -/

namespace AutoTrader.Domain

/-! ### Dates -/

/-- The days since the epoch of a civil date. -/
def daysFromCivil (year month day : ℤ) : ℤ :=
  let y := if month ≤ 2 then year - 1 else year
  let mp := if month ≤ 2 then month + 9 else month - 3
  let yoe := y % 400
  y / 400 * 146097 + (yoe * 365 + yoe / 4 - yoe / 100 + ((153 * mp + 2) / 5 + day - 1)) - 719468

/-- The year of a day of the era. -/
def yearOfEra (doe : ℤ) : ℤ := (doe - doe / 1460 + doe / 36524 - doe / 146096) / 365

/-- The day of that year, from the first of March. -/
def dayOfYear (doe : ℤ) : ℤ := doe - (365 * yearOfEra doe + yearOfEra doe / 4 - yearOfEra doe / 100)

theorem yearOfEra_bounds {doe : ℤ} (hlow : 0 ≤ doe) (hhigh : doe < 146097) : 0 ≤ yearOfEra doe ∧ yearOfEra doe < 400 := by
  unfold yearOfEra
  constructor <;> omega

/-- By the century of the day and the century of the year. -/
theorem dayOfYear_bounds {doe : ℤ} (hlow : 0 ≤ doe) (hhigh : doe < 146097) : 0 ≤ dayOfYear doe ∧ dayOfYear doe < 366 := by
  have hdays : doe / 36524 = 0 ∨ doe / 36524 = 1 ∨ doe / 36524 = 2 ∨ doe / 36524 = 3 ∨ doe / 36524 = 4 := by omega
  unfold dayOfYear yearOfEra
  generalize hyear : (doe - doe / 1460 + doe / 36524 - doe / 146096) / 365 = year
  have hyears : year / 100 = 0 ∨ year / 100 = 1 ∨ year / 100 = 2 ∨ year / 100 = 3 := by omega
  rcases hdays with hday | hday | hday | hday | hday <;> rcases hyears with hcentury | hcentury | hcentury | hcentury <;>
    constructor <;> omega

theorem civilDate_eq (days : ℤ) :
    let era := (days + 719468) / 146097
    let doe := (days + 719468) % 146097
    let mp := (5 * dayOfYear doe + 2) / 153
    let month := if mp < 10 then mp + 3 else mp - 9
    civilDate days = (yearOfEra doe + era * 400 + (if month ≤ 2 then 1 else 0), month,
      dayOfYear doe - (153 * mp + 2) / 5 + 1) := by
  have hdoe : days + 719468 - (days + 719468) / 146097 * 146097 = (days + 719468) % 146097 := by omega
  dsimp only
  unfold civilDate
  dsimp only
  rw [hdoe]
  rfl

theorem civilDate_bounds (days : ℤ) : 1 ≤ (civilDate days).2.1 ∧ (civilDate days).2.1 ≤ 12 ∧ 1 ≤ (civilDate days).2.2 ∧
    (civilDate days).2.2 ≤ 31 := by
  have hlow : 0 ≤ (days + 719468) % 146097 := by omega
  have hday := dayOfYear_bounds hlow (by omega)
  rw [civilDate_eq]
  dsimp only
  generalize dayOfYear ((days + 719468) % 146097) = doy at hday
  refine ⟨?_, ?_, ?_, ?_⟩
  · split <;> omega
  · split <;> omega
  · omega
  · omega

/-- The date of a day is the date of no other day. -/
theorem daysFromCivil_civilDate (days : ℤ) :
    daysFromCivil (civilDate days).1 (civilDate days).2.1 (civilDate days).2.2 = days := by
  have hlow : 0 ≤ (days + 719468) % 146097 := by omega
  have hhigh : (days + 719468) % 146097 < 146097 := by omega
  have hday := dayOfYear_bounds hlow hhigh
  have hyear := yearOfEra_bounds hlow hhigh
  have hdoe : dayOfYear ((days + 719468) % 146097) = (days + 719468) % 146097 -
    (365 * yearOfEra ((days + 719468) % 146097) + yearOfEra ((days + 719468) % 146097) / 4 -
      yearOfEra ((days + 719468) % 146097) / 100) := rfl
  rw [civilDate_eq]
  dsimp only
  generalize dayOfYear ((days + 719468) % 146097) = doy at hday hdoe
  generalize yearOfEra ((days + 719468) % 146097) = yoe at hyear hdoe
  unfold daysFromCivil
  dsimp only
  have hmp : 0 ≤ (5 * doy + 2) / 153 ∧ (5 * doy + 2) / 153 < 12 := by omega
  generalize (5 * doy + 2) / 153 = mp at hmp
  split
  · split
    · omega
    · have hera : (yoe + (days + 719468) / 146097 * 400) / 400 = (days + 719468) / 146097 := by omega
      have hrest : (yoe + (days + 719468) / 146097 * 400) % 400 = yoe := by omega
      simp only [add_zero, hera, hrest, add_sub_cancel_right]
      omega
  · split
    · have hera : (yoe + (days + 719468) / 146097 * 400 + 1 - 1) / 400 = (days + 719468) / 146097 := by omega
      have hrest : (yoe + (days + 719468) / 146097 * 400 + 1 - 1) % 400 = yoe := by omega
      simp only [hera, hrest, sub_add_cancel]
      omega
    · omega

theorem civilDate_year {days : ℤ} (hlow : -719162 ≤ days) (hhigh : days ≤ 2932896) :
    1 ≤ (civilDate days).1 ∧ (civilDate days).1 ≤ 9999 := by
  have hdays := daysFromCivil_civilDate days
  have hbounds := civilDate_bounds days
  generalize civilDate days = date at hdays hbounds
  obtain ⟨year, month, day⟩ := date
  unfold daysFromCivil at hdays
  dsimp only at hdays hbounds ⊢
  constructor
  · by_contra hbefore
    split at hdays <;> omega
  · by_contra hafter
    split at hdays <;> omega

/-! ### Digits of a fixed width -/

/-- A number of exactly so many digits, and the rest of the text. -/
def readFixed (width : ℕ) (text : List Char) : Option (ℤ × List Char) :=
  if (text.take width).length = width ∧ (text.take width).all Char.isDigit = true then
    some (digitsValue (text.take width), text.drop width)
  else none

theorem length_padded {width : ℕ} {n : ℤ} (hwidth : 0 < width) (hhigh : n < 10 ^ width) :
    (padded width n).toList.length = width := by
  have hshort : (Nat.toDigits 10 n.toNat).length ≤ width := by
    rw [Nat.length_toDigits_le_iff (by decide) hwidth]
    have hcast : ((10 ^ width : ℕ) : ℤ) = 10 ^ width := by push_cast; rfl
    have hpos : 0 < 10 ^ width := pow_pos (by decide) width
    omega
  rw [padded]
  rw [String.toList_ofList, List.length_append, List.length_replicate]
  omega

theorem allDigits_padded (width : ℕ) (n : ℤ) : AllDigits (padded width n).toList := by
  rw [padded]
  rw [String.toList_ofList]
  exact (allDigits_zeros _).append (allDigits_toDigits _)

theorem digitsValue_padded (width : ℕ) {n : ℤ} (hlow : 0 ≤ n) : (digitsValue (padded width n).toList : ℤ) = n := by
  rw [padded]
  rw [String.toList_ofList, digitsValue_append, digitsValue_zeros, digitsValue_toDigits, zero_mul, zero_add]
  exact Int.toNat_of_nonneg hlow

theorem readFixed_padded {width : ℕ} {n : ℤ} (hwidth : 0 < width) (hlow : 0 ≤ n) (hhigh : n < 10 ^ width)
    (rest : List Char) : readFixed width ((padded width n).toList ++ rest) = some (n, rest) := by
  have hlength := length_padded hwidth hhigh
  have htake : ((padded width n).toList ++ rest).take width = (padded width n).toList := by
    rw [List.take_append_of_le_length hlength.ge, List.take_of_length_le hlength.le]
  have hdrop : ((padded width n).toList ++ rest).drop width = rest := by
    rw [List.drop_append_of_le_length hlength.ge, List.drop_of_length_le hlength.le, List.nil_append]
  rw [readFixed, htake, hdrop, if_pos ⟨hlength, List.all_eq_true.mpr (allDigits_padded width n)⟩,
    digitsValue_padded width hlow]

/-! ### Instants -/

/-- The instants a `datetime` can hold. -/
def IsDatetime (t : ℤ) : Prop := -62135596800000000 ≤ t ∧ t < 253402300800000000

instance (t : ℤ) : Decidable (IsDatetime t) := inferInstanceAs (Decidable (_ ∧ _))

/-- One character that has to come next. -/
def readChar (c : Char) : List Char → Option (List Char)
  | x :: rest => if x = c then some rest else none
  | [] => none

@[simp] theorem readChar_cons (c : Char) (rest : List Char) : readChar c (c :: rest) = some rest := if_pos rfl

/-- The microseconds after the second, which are left out when there are none. -/
def readMicro : List Char → Option (ℤ × List Char)
  | '.' :: rest => readFixed 6 rest
  | rest => some (0, rest)

/-- The offset of UTC. -/
def utcOffset : List Char := ['+', '0', '0', ':', '0', '0']

/-- `YYYY-MM-DD`, of a date there is, as its days. -/
def readDate (text : List Char) : Option (ℤ × List Char) := do
  let (year, rest) ← readFixed 4 text
  let rest ← readChar '-' rest
  let (month, rest) ← readFixed 2 rest
  let rest ← readChar '-' rest
  let (day, rest) ← readFixed 2 rest
  if 1 ≤ year ∧ civilDate (daysFromCivil year month day) = (year, month, day) then
    some (daysFromCivil year month day, rest)
  else none

/-- `HH:MM:SS`, as its seconds. -/
def readTime (text : List Char) : Option (ℤ × List Char) := do
  let (hour, rest) ← readFixed 2 text
  let rest ← readChar ':' rest
  let (minute, rest) ← readFixed 2 rest
  let rest ← readChar ':' rest
  let (second, rest) ← readFixed 2 rest
  if hour < 24 ∧ minute < 60 ∧ second < 60 then some ((hour * 60 + minute) * 60 + second, rest) else none

/-- `datetime.fromisoformat`, of the texts that `isoformat` writes for UTC. -/
def fromisoformat (text : String) : Option Instant := do
  let (days, rest) ← readDate text.toList
  let rest ← readChar 'T' rest
  let (seconds, rest) ← readTime rest
  let (micro, rest) ← readMicro rest
  if rest = utcOffset then some ((days * 86400 + seconds) * 1000000 + micro) else none

theorem readDate_civil {days : ℤ} (hlow : -719162 ≤ days) (hhigh : days ≤ 2932896) (rest : List Char) :
    readDate ((padded 4 (civilDate days).1).toList ++ '-' :: ((padded 2 (civilDate days).2.1).toList ++ '-' ::
      ((padded 2 (civilDate days).2.2).toList ++ rest))) = some (days, rest) := by
  have hyear := civilDate_year hlow hhigh
  have hdate := civilDate_bounds days
  have hdays := daysFromCivil_civilDate days
  generalize hcivil : civilDate days = date at hyear hdate hdays
  obtain ⟨year, month, day⟩ := date
  dsimp only at hyear hdate hdays ⊢
  unfold readDate
  rw [readFixed_padded (by decide) (by omega) (by omega)]
  simp only [Option.bind_eq_bind, Option.bind_some, readChar_cons]
  rw [readFixed_padded (by decide) (by omega) (by omega)]
  simp only [Option.bind_some, readChar_cons]
  rw [readFixed_padded (by decide) (by omega) (by omega)]
  simp only [Option.bind_some, hdays, hcivil]
  rw [if_pos ⟨hyear.1, trivial⟩]

theorem readTime_seconds {seconds : ℤ} (hlow : 0 ≤ seconds) (hhigh : seconds < 86400) (rest : List Char) :
    readTime ((padded 2 (seconds / 3600)).toList ++ ':' :: ((padded 2 (seconds / 60 % 60)).toList ++ ':' ::
      ((padded 2 (seconds % 60)).toList ++ rest))) = some (seconds, rest) := by
  unfold readTime
  rw [readFixed_padded (by decide) (by omega) (by omega)]
  simp only [Option.bind_eq_bind, Option.bind_some, readChar_cons]
  rw [readFixed_padded (by decide) (by omega) (by omega)]
  simp only [Option.bind_some, readChar_cons]
  rw [readFixed_padded (by decide) (by omega) (by omega)]
  simp only [Option.bind_some]
  rw [if_pos ⟨by omega, by omega, by omega⟩]
  congr 2
  omega

theorem readMicro_isoformat {micro : ℤ} (hlow : 0 ≤ micro) (hhigh : micro < 1000000) :
    readMicro ((if micro = 0 then "" else "." ++ padded 6 micro).toList ++ utcOffset) =
      some (micro, utcOffset) := by
  by_cases hwhole : micro = 0
  · rw [if_pos hwhole, hwhole]
    rfl
  · have hpoint : ".".toList = ['.'] := rfl
    rw [if_neg hwhole, String.toList_append, hpoint, List.append_assoc, List.singleton_append]
    unfold readMicro
    exact readFixed_padded (by decide) hlow hhigh _

theorem fromisoformat_isoformat {t : ℤ} (h : IsDatetime t) : fromisoformat (isoformat t) = some t := by
  obtain ⟨hlow, hhigh⟩ := h
  have htext : (isoformat t).toList =
      (padded 4 (civilDate (t / 1000000 / 86400)).1).toList ++ '-' ::
        ((padded 2 (civilDate (t / 1000000 / 86400)).2.1).toList ++ '-' ::
          ((padded 2 (civilDate (t / 1000000 / 86400)).2.2).toList ++ 'T' ::
            ((padded 2 (t / 1000000 % 86400 / 3600)).toList ++ ':' ::
              ((padded 2 (t / 1000000 % 86400 / 60 % 60)).toList ++ ':' ::
                ((padded 2 (t / 1000000 % 86400 % 60)).toList ++
                  ((if t % 1000000 = 0 then "" else "." ++ padded 6 (t % 1000000)).toList ++ utcOffset)))))) := by
    have hdash : "-".toList = ['-'] := rfl
    have hday : "T".toList = ['T'] := rfl
    have hcolon : ":".toList = [':'] := rfl
    have hoffset : "+00:00".toList = utcOffset := rfl
    unfold isoformat
    simp only [String.toList_append, hdash, hday, hcolon, hoffset, List.append_assoc, List.cons_append, List.nil_append]
  unfold fromisoformat
  rw [htext, readDate_civil (by omega) (by omega)]
  simp only [Option.bind_eq_bind, Option.bind_some, readChar_cons]
  rw [readTime_seconds (by omega) (by omega)]
  simp only [Option.bind_some]
  rw [readMicro_isoformat (by omega) (by omega)]
  simp only [Option.bind_some]
  have hinstant : (t / 1000000 / 86400 * 86400 + t / 1000000 % 86400) * 1000000 + t % 1000000 = t := by omega
  rw [if_pos trivial]
  exact congrArg some hinstant

/-- The text of a datetime tells instants apart. -/
theorem isoformat_injective {a b : Instant} (ha : IsDatetime a) (hb : IsDatetime b) (h : isoformat a = isoformat b) :
    a = b := by
  have hread := fromisoformat_isoformat ha
  rw [h, fromisoformat_isoformat hb] at hread
  exact (Option.some.inj hread).symm

end AutoTrader.Domain
