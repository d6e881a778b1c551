import AutoTrader.Domain.Wire
import Mathlib.Data.List.Induction
import Mathlib.Data.List.TakeDrop
import Mathlib.Tactic.FieldSimp

/-! Decimals and their texts. What is written can be read: `str` gives back the very decimal, and the fixed format
without trailing zeros tells numbers apart, whatever their notation was. -/

namespace AutoTrader.Domain

/-! ### Digits -/

theorem digitsValue_eq (digits : List Char) : digitsValue digits = Nat.ofDigitChars 10 digits 0 :=
  Nat.ofDigitChars_eq_foldl.symm

theorem digitsValue_append (a b : List Char) :
    digitsValue (a ++ b) = digitsValue a * 10 ^ b.length + digitsValue b := by
  rw [digitsValue_eq, digitsValue_eq, digitsValue_eq, Nat.ofDigitChars_append, Nat.ofDigitChars_eq_ofDigitChars_zero]
  ring

theorem digitsValue_toDigits (n : ℕ) : digitsValue (Nat.toDigits 10 n) = n := by
  rw [digitsValue_eq, Nat.ofDigitChars_ten_toDigits]

theorem digitsValue_zeros (n : ℕ) : digitsValue (List.replicate n '0') = 0 := by
  rw [digitsValue_eq, Nat.ofDigitChars_replicate_zero, mul_zero]

/-- All characters are digits. -/
def AllDigits (text : List Char) : Prop := ∀ c ∈ text, c.isDigit = true

/-- A text that does not go on with a digit. -/
def NoDigitNext (rest : List Char) : Prop := ∀ c ∈ rest.head?, c.isDigit = false

theorem allDigits_toDigits (n : ℕ) : AllDigits (Nat.toDigits 10 n) := fun _ hc =>
  Nat.isDigit_of_mem_toDigits (by decide) (by decide) hc

theorem allDigits_zeros (n : ℕ) : AllDigits (List.replicate n '0') := fun c hc => by
  rw [List.eq_of_mem_replicate hc]
  rfl

theorem AllDigits.append {a b : List Char} (ha : AllDigits a) (hb : AllDigits b) : AllDigits (a ++ b) := fun c hc =>
  (List.mem_append.mp hc).elim (ha c) (hb c)

theorem AllDigits.sublist {a b : List Char} (hb : AllDigits b) (h : a.Sublist b) : AllDigits a := fun c hc =>
  hb c (h.subset hc)

theorem noDigitNext_nil : NoDigitNext [] := fun _ hc => nomatch hc

theorem readDigits_append {digits rest : List Char} (hdigits : AllDigits digits) (hrest : NoDigitNext rest) :
    readDigits (digits ++ rest) = (digits, rest) := by
  rw [readDigits, List.span_eq_takeWhile_dropWhile, List.takeWhile_append_of_pos hdigits,
    List.dropWhile_append_of_pos hdigits]
  cases rest with
  | nil => simp
  | cons c rest => simp [hrest c rfl]

theorem readDigits_all {digits : List Char} (hdigits : AllDigits digits) : readDigits digits = (digits, []) := by
  have hread := readDigits_append hdigits noDigitNext_nil
  rwa [List.append_nil] at hread

/-! ### Numerals -/

/-- Digits with a point before the last of them. -/
def numeral (whole fraction : List Char) : List Char :=
  if fraction = [] then whole else whole ++ '.' :: fraction

theorem plain_of_digit {c : Char} (h : c.isDigit = true) : c ≠ '_' ∧ c ≠ '-' ∧ c ≠ '+' ∧ c ≠ '.' := by
  refine ⟨?_, ?_, ?_, ?_⟩ <;> (rintro rfl; revert h; decide)

theorem AllDigits.plain {text : List Char} (h : AllDigits text) : ∀ c ∈ text, c ≠ '_' := fun c hc =>
  (plain_of_digit (h c hc)).1

theorem numeral_plain {whole fraction : List Char} (hwhole : AllDigits whole) (hfraction : AllDigits fraction) :
    ∀ c ∈ numeral whole fraction, c ≠ '_' := by
  intro c hc
  unfold numeral at hc
  split at hc
  · exact hwhole.plain c hc
  · rcases List.mem_append.mp hc with hc | hc
    · exact hwhole.plain c hc
    · rcases List.mem_cons.mp hc with rfl | hc
      · decide
      · exact hfraction.plain c hc

namespace Decimal

theorem numeral_place {digits : List Char} (hne : digits ≠ []) (hall : AllDigits digits) (left : ℤ) :
    ∃ whole fraction, place digits left = numeral whole fraction ∧ whole ≠ [] ∧ AllDigits whole ∧ AllDigits fraction ∧
      digitsValue (whole ++ fraction) = digitsValue digits * 10 ^ (left - digits.length).toNat ∧
        (fraction.length : ℤ) = max 0 (digits.length - left) := by
  have hlength : 0 < digits.length := List.length_pos_iff.mpr hne
  unfold place
  split
  · refine ⟨['0'], List.replicate left.natAbs '0' ++ digits, ?_, by simp, ?_, ?_, ?_, ?_⟩
    · simp [numeral, hne]
    · exact allDigits_zeros 1
    · exact (allDigits_zeros _).append hall
    · rw [digitsValue_append, digitsValue_append, digitsValue_zeros]
      have hzero : (left - digits.length).toNat = 0 := by omega
      simp [hzero, digitsValue]
    · rw [List.length_append, List.length_replicate]
      omega
  · split
    · refine ⟨digits ++ List.replicate (left - digits.length).natAbs '0', [], ?_, by simp [hne], ?_, ?_, ?_, ?_⟩
      · simp [numeral]
      · exact hall.append (allDigits_zeros _)
      · simp [AllDigits]
      · rw [List.append_nil, digitsValue_append, digitsValue_zeros, List.length_replicate, add_zero]
        congr 2
        omega
      · rw [List.length_nil]
        omega
    · refine ⟨digits.take left.natAbs, digits.drop left.natAbs, ?_, ?_, ?_, ?_, ?_, ?_⟩
      · have hdrop : digits.drop left.natAbs ≠ [] := by
          rw [ne_eq, List.drop_eq_nil_iff]
          omega
        rw [numeral, if_neg hdrop]
      · rw [ne_eq, List.take_eq_nil_iff]
        rintro (hzero | hnil)
        · omega
        · exact hne hnil
      · exact hall.sublist (List.take_sublist _ _)
      · exact hall.sublist (List.drop_sublist _ _)
      · rw [List.take_append_drop]
        have hzero : (left - digits.length).toNat = 0 := by omega
        rw [hzero, pow_zero, mul_one]
      · rw [List.length_drop]
        omega

/-- A sign, as it is written. -/
def signText (negative : Bool) : List Char := if negative then ['-'] else []

/-- What may follow the digits: nothing, or an exponent. -/
def exponentText : Option (Bool × List Char) → List Char
  | none => []
  | some (negative, digits) => 'E' :: (if negative then '-' else '+') :: digits

/-- The exponent that is read from it. -/
def exponentValue : Option (Bool × List Char) → ℤ
  | none => 0
  | some (negative, digits) => if negative then -digitsValue digits else digitsValue digits

theorem readSign_signText (negative : Bool) {rest : List Char} (hrest : ∀ c ∈ rest.head?, c ≠ '-' ∧ c ≠ '+') :
    readSign (signText negative ++ rest) = (negative, rest) := by
  cases negative with
  | true => rfl
  | false =>
    cases rest with
    | nil => rfl
    | cons c rest =>
      obtain ⟨hminus, hplus⟩ := hrest c rfl
      simp only [signText, Bool.false_eq_true, if_false, List.nil_append]
      unfold readSign
      split <;> simp_all

theorem noDigitNext_exponent (exponent : Option (Bool × List Char)) : NoDigitNext (exponentText exponent) := by
  cases exponent with
  | none => exact noDigitNext_nil
  | some e =>
    intro c hc
    cases hc
    rfl

theorem exponentText_plain {exponent : Option (Bool × List Char)} (h : ∀ e ∈ exponent, e.2 ≠ [] ∧ AllDigits e.2) :
    ∀ c ∈ exponentText exponent, c ≠ '_' := by
  intro c hc
  cases exponent with
  | none => cases hc
  | some e =>
    rcases List.mem_cons.mp hc with rfl | hc
    · decide
    · rcases List.mem_cons.mp hc with rfl | hc
      · split <;> decide
      · exact (h e rfl).2.plain c hc

/-- A numeral with its sign and its exponent is read back. -/
theorem parse_numeral (negative : Bool) {whole fraction : List Char} (hne : whole ≠ []) (hwhole : AllDigits whole)
    (hfraction : AllDigits fraction) (exponent : Option (Bool × List Char))
    (hexponent : ∀ e ∈ exponent, e.2 ≠ [] ∧ AllDigits e.2) :
    parse (String.ofList (signText negative ++ numeral whole fraction ++ exponentText exponent)) =
      some ⟨negative, digitsValue (whole ++ fraction), exponentValue exponent - fraction.length⟩ := by
  have hplain : (signText negative ++ numeral whole fraction ++ exponentText exponent).filter (· ≠ '_') =
      signText negative ++ (numeral whole fraction ++ exponentText exponent) := by
    rw [List.append_assoc]
    refine List.filter_eq_self.mpr fun c hc => decide_eq_true ?_
    rcases List.mem_append.mp hc with hc | hc
    · cases negative with
      | true =>
        rw [List.mem_singleton.mp hc]
        decide
      | false => cases hc
    · rcases List.mem_append.mp hc with hc | hc
      · exact numeral_plain hwhole hfraction c hc
      · exact exponentText_plain hexponent c hc
  obtain ⟨first, more, rfl⟩ := List.exists_cons_of_ne_nil hne
  have hsign : readSign (signText negative ++ (numeral (first :: more) fraction ++ exponentText exponent)) =
      (negative, numeral (first :: more) fraction ++ exponentText exponent) := by
    refine readSign_signText negative fun c hc => ?_
    have hfirst : c = first := by
      unfold numeral at hc
      split at hc <;> simpa using hc.symm
    have hplainDigit := plain_of_digit (hwhole first List.mem_cons_self)
    rw [hfirst]
    exact ⟨hplainDigit.2.1, hplainDigit.2.2.1⟩
  have hpoint : NoDigitNext ('.' :: fraction ++ exponentText exponent) := by
    intro c hc
    cases hc
    rfl
  have hafter := readDigits_append hfraction (noDigitNext_exponent exponent)
  have hexponentSign (down : Bool) (rest : List Char) :
      readSign ((if down then '-' else '+') :: rest) = (down, rest) := by
    cases down <;> rfl
  unfold parse
  rw [String.toList_ofList, hplain, hsign]
  dsimp only
  by_cases hnil : fraction = []
  · subst hnil
    rw [numeral, if_pos rfl, readDigits_append hwhole (noDigitNext_exponent exponent)]
    cases exponent with
    | none => simp [exponentText, exponentValue]
    | some e =>
      obtain ⟨down, digits⟩ := e
      obtain ⟨hsome, hall⟩ := hexponent (down, digits) rfl
      obtain ⟨d, ds, rfl⟩ := List.exists_cons_of_ne_nil hsome
      simp [exponentText, exponentValue, hexponentSign, readDigits_all hall]
  · rw [numeral, if_neg hnil, List.append_assoc, readDigits_append hwhole hpoint]
    simp only [List.cons_append, hafter]
    cases exponent with
    | none => simp [exponentText, exponentValue]
    | some e =>
      obtain ⟨down, digits⟩ := e
      obtain ⟨hsome, hall⟩ := hexponent (down, digits) rfl
      obtain ⟨d, ds, rfl⟩ := List.exists_cons_of_ne_nil hsome
      simp [exponentText, exponentValue, hexponentSign, readDigits_all hall]

theorem digits_ne_nil (d : Decimal) : d.digits ≠ [] := Nat.toDigits_ne_nil

theorem allDigits_digits (d : Decimal) : AllDigits d.digits := allDigits_toDigits _

theorem digitsValue_digits (d : Decimal) : digitsValue d.digits = d.coefficient := digitsValue_toDigits _

/-- `Decimal(str(d))` is `d`, with its exponent. -/
theorem parse_str (d : Decimal) : parse (String.ofList d.str) = some d := by
  have hlength : 0 < d.digits.length := List.length_pos_iff.mpr d.digits_ne_nil
  unfold str
  dsimp only
  split
  next hplain =>
    obtain ⟨whole, fraction, hplace, hne, hwhole, hfraction, hvalue, hcount⟩ :=
      numeral_place d.digits_ne_nil d.allDigits_digits (d.exponent + d.digits.length)
    have hread := parse_numeral d.negative hne hwhole hfraction none (by simp)
    have hzero : (d.exponent + d.digits.length - d.digits.length).toNat = 0 := by omega
    rw [hzero, pow_zero, mul_one, digitsValue_digits] at hvalue
    rw [exponentText, List.append_nil, ← hplace, hvalue] at hread
    have hexponent : exponentValue none - (fraction.length : ℤ) = d.exponent := by
      simp only [exponentValue]
      omega
    rw [hexponent] at hread
    exact hread
  next =>
    obtain ⟨whole, fraction, hplace, hne, hwhole, hfraction, hvalue, hcount⟩ :=
      numeral_place d.digits_ne_nil d.allDigits_digits 1
    let e : ℤ := d.exponent + d.digits.length - 1
    have hread := parse_numeral d.negative hne hwhole hfraction (some (decide (e < 0), Nat.toDigits 10 e.natAbs))
      (fun _ h => Option.mem_some.mp h ▸ ⟨Nat.toDigits_ne_nil, allDigits_toDigits _⟩)
    have hzero : (1 - (d.digits.length : ℤ)).toNat = 0 := by omega
    rw [hzero, pow_zero, mul_one, digitsValue_digits] at hvalue
    rw [exponentText, ← hplace, hvalue] at hread
    have hexponent : exponentValue (some (decide (e < 0), Nat.toDigits 10 e.natAbs)) - (fraction.length : ℤ) = d.exponent := by
      simp only [exponentValue, digitsValue_toDigits, decide_eq_true_eq]
      split <;> omega
    rw [hexponent] at hread
    simp only [decide_eq_true_eq] at hread
    exact hread

/-! ### The fixed format -/

/-- The number that is read from a text. -/
def textValue (text : List Char) : Option ℚ := (parse (String.ofList text)).map toRat

theorem textValue_numeral (negative : Bool) {whole fraction : List Char} (hne : whole ≠ []) (hwhole : AllDigits whole)
    (hfraction : AllDigits fraction) : textValue (signText negative ++ numeral whole fraction) =
      some ((if negative then -1 else 1) * (digitsValue (whole ++ fraction) : ℚ) * 10 ^ (-(fraction.length : ℤ))) := by
  have hread := parse_numeral negative hne hwhole hfraction none (by simp)
  rw [exponentText, List.append_nil] at hread
  rw [textValue, hread]
  simp [exponentValue, toRat]

/-- The fixed format of a decimal as a numeral of the same value. -/
theorem formatF_numeral (d : Decimal) : ∃ whole fraction, d.formatF = signText d.negative ++ numeral whole fraction ∧
    whole ≠ [] ∧ AllDigits whole ∧ AllDigits fraction ∧
      (if d.negative then -1 else 1) * (digitsValue (whole ++ fraction) : ℚ) * 10 ^ (-(fraction.length : ℤ)) = d.toRat := by
  let e : ℤ := if d.coefficient = 0 then min d.exponent 0 else d.exponent
  obtain ⟨whole, fraction, hplace, hne, hwhole, hfraction, hvalue, hcount⟩ :=
    numeral_place d.digits_ne_nil d.allDigits_digits (e + d.digits.length)
  refine ⟨whole, fraction, congrArg (d.sign ++ ·) hplace, hne, hwhole, hfraction, ?_⟩
  rw [digitsValue_digits] at hvalue
  rw [hvalue, toRat]
  by_cases hzero : d.coefficient = 0
  · simp [hzero]
  · have he : e = d.exponent := if_neg hzero
    have hcombined : ((e + d.digits.length - d.digits.length).toNat : ℤ) + -(fraction.length : ℤ) = d.exponent := by omega
    push_cast
    rw [← hcombined, zpow_add₀ (by norm_num), zpow_natCast]
    ring

theorem textValue_formatF (d : Decimal) : textValue d.formatF = some d.toRat := by
  obtain ⟨whole, fraction, htext, hne, hwhole, hfraction, hvalue⟩ := d.formatF_numeral
  rw [htext, textValue_numeral _ hne hwhole hfraction, hvalue]

theorem stripZeros_value (fuel n : ℕ) : (stripZeros fuel n).1 * 10 ^ (stripZeros fuel n).2 = n := by
  induction fuel generalizing n with
  | zero => simp [stripZeros]
  | succ fuel ih =>
    unfold stripZeros
    split
    next hten =>
      have hrest := ih (n / 10)
      dsimp only
      rw [pow_succ, ← mul_assoc, hrest]
      omega
    next => simp

/-! ### Without trailing zeros -/

theorem rstrip_append_all (text : List Char) {tail : List Char} {c : Char} (h : ∀ x ∈ tail, x = c) :
    rstrip (text ++ tail) c = rstrip text c := by
  unfold rstrip
  rw [List.reverse_append, List.dropWhile_append_of_pos]
  intro x hx
  exact decide_eq_true (h x (List.mem_reverse.mp hx))

theorem rstrip_concat_ne (text : List Char) {x c : Char} (h : x ≠ c) : rstrip (text ++ [x]) c = text ++ [x] := by
  simp [rstrip, h]

theorem rstrip_eq_self {text : List Char} {c : Char} (h : ∀ x ∈ text.getLast?, x ≠ c) : rstrip text c = text := by
  induction text using List.reverseRecOn with
  | nil => rfl
  | append_singleton text x =>
    exact rstrip_concat_ne text (h x (by simp))

/-- A text and the characters that are stripped from it. -/
theorem rstrip_split (text : List Char) (c : Char) :
    ∃ tail, (∀ x ∈ tail, x = c) ∧ text = rstrip text c ++ tail ∧ ∀ x ∈ (rstrip text c).getLast?, x ≠ c := by
  induction text using List.reverseRecOn with
  | nil => exact ⟨[], by simp, rfl, by simp [rstrip]⟩
  | append_singleton text x ih =>
    by_cases hx : x = c
    · obtain ⟨tail, htail, hsplit, hlast⟩ := ih
      have hstrip : rstrip (text ++ [x]) c = rstrip text c := rstrip_append_all text (by simp [hx])
      refine ⟨tail ++ [x], fun y hy => ?_, ?_, hstrip ▸ hlast⟩
      · rcases List.mem_append.mp hy with hy | hy
        · exact htail y hy
        · exact (List.mem_singleton.mp hy).trans hx
      · rw [hstrip, ← List.append_assoc, ← hsplit]
    · rw [rstrip_concat_ne text hx]
      exact ⟨[], by simp, by simp, by simpa using hx⟩

/-- The text without the zeros and the point at its end, when it has a point. -/
def stripPoint (text : List Char) : List Char :=
  if '.' ∈ text then rstrip (rstrip text '0') '.' else text

theorem decimalText_eq (d : Decimal) : d.decimalText =
    if stripPoint d.formatF = [] ∨ stripPoint d.formatF = ['-', '0'] then ['0'] else stripPoint d.formatF := rfl

theorem not_point_of_allDigits {text : List Char} (h : AllDigits text) : '.' ∉ text := fun hmem =>
  (plain_of_digit (h _ hmem)).2.2.2 rfl

theorem not_point_signText (negative : Bool) : '.' ∉ signText negative := by
  cases negative <;> decide

/-- What is stripped of a numeral are zeros of its fraction. -/
theorem stripPoint_numeral (negative : Bool) {whole fraction : List Char} (hne : whole ≠ []) (hwhole : AllDigits whole)
    (hfraction : AllDigits fraction) : stripPoint (signText negative ++ numeral whole fraction) =
      signText negative ++ numeral whole (rstrip fraction '0') := by
  obtain ⟨tail, htail, hsplit, hlast⟩ := rstrip_split fraction '0'
  have hkept : AllDigits (rstrip fraction '0') := by
    rw [hsplit] at hfraction
    exact fun x hx => hfraction x (List.mem_append_left _ hx)
  have hwholeLast : ∀ x ∈ (signText negative ++ whole).getLast?, x ≠ '.' := by
    intro x hx
    rw [List.getLast?_append_of_ne_nil _ hne] at hx
    exact (plain_of_digit (hwhole x (List.mem_of_getLast? hx))).2.2.2
  by_cases hnil : fraction = []
  · subst hnil
    have hpoint : '.' ∉ signText negative ++ whole := fun hmem =>
      (List.mem_append.mp hmem).elim (not_point_signText negative) (not_point_of_allDigits hwhole)
    simp [numeral, stripPoint, rstrip, hpoint]
  · have hpoint : '.' ∈ signText negative ++ numeral whole fraction := by simp [numeral, hnil]
    rw [stripPoint, if_pos hpoint, numeral, if_neg hnil]
    have hzeros : rstrip (signText negative ++ (whole ++ '.' :: fraction)) '0' =
        rstrip (signText negative ++ (whole ++ '.' :: rstrip fraction '0')) '0' := by
      conv_lhs => rw [hsplit]
      rw [← List.cons_append, ← List.append_assoc, ← List.append_assoc, rstrip_append_all _ htail, List.append_assoc]
    rw [hzeros]
    by_cases hempty : rstrip fraction '0' = []
    · rw [hempty, numeral, if_pos rfl, ← List.append_assoc, rstrip_concat_ne _ (by decide),
        rstrip_append_all _ (by simp), rstrip_eq_self hwholeLast]
    · have hends {c : Char} (hc : ∀ x ∈ (rstrip fraction '0').getLast?, x ≠ c) :
          rstrip (signText negative ++ (whole ++ '.' :: rstrip fraction '0')) c =
            signText negative ++ (whole ++ '.' :: rstrip fraction '0') := by
        refine rstrip_eq_self fun x hx => hc x ?_
        rw [← List.append_assoc, List.getLast?_append_of_ne_nil _ (by simp), List.getLast?_cons_of_ne_nil hempty] at hx
        exact hx
      have hdigit : ∀ x ∈ (rstrip fraction '0').getLast?, x ≠ '.' := fun x hx =>
        (plain_of_digit (hkept x (List.mem_of_getLast? hx))).2.2.2
      rw [hends hlast, hends hdigit, numeral, if_neg hempty]

theorem digitsValue_stripped (whole fraction : List Char) :
    (digitsValue (whole ++ rstrip fraction '0') : ℚ) * 10 ^ (-((rstrip fraction '0').length : ℤ)) =
      digitsValue (whole ++ fraction) * 10 ^ (-(fraction.length : ℤ)) := by
  obtain ⟨tail, htail, hsplit, -⟩ := rstrip_split fraction '0'
  have hzeros : tail = List.replicate tail.length '0' := List.eq_replicate_of_mem htail
  have hvalue : digitsValue (whole ++ fraction) = digitsValue (whole ++ rstrip fraction '0') * 10 ^ tail.length := by
    conv_lhs => rw [hsplit, ← List.append_assoc, digitsValue_append, hzeros, digitsValue_zeros, add_zero,
      List.length_replicate]
  have hlength : fraction.length = (rstrip fraction '0').length + tail.length := by
    conv_lhs => rw [hsplit, List.length_append]
  rw [hvalue, hlength]
  push_cast
  rw [neg_add, zpow_add₀ (by norm_num), zpow_neg _ (tail.length : ℤ), zpow_natCast]
  have hpos : (10 : ℚ) ^ tail.length ≠ 0 := pow_ne_zero _ (by norm_num)
  field_simp

theorem textValue_decimalText (d : Decimal) : textValue d.decimalText = some d.toRat := by
  obtain ⟨whole, fraction, htext, hne, hwhole, hfraction, hvalue⟩ := d.formatF_numeral
  obtain ⟨tail, htail, hsplit, -⟩ := rstrip_split fraction '0'
  have hkept : AllDigits (rstrip fraction '0') := by
    rw [hsplit] at hfraction
    exact fun x hx => hfraction x (List.mem_append_left _ hx)
  have hstripped : textValue (stripPoint d.formatF) = some d.toRat := by
    rw [htext, stripPoint_numeral _ hne hwhole hfraction, textValue_numeral _ hne hwhole hkept, mul_assoc,
      digitsValue_stripped, ← mul_assoc, hvalue]
  rw [decimalText_eq]
  split
  next hzero =>
    have hread : textValue ['0'] = some 0 := by decide +kernel
    rcases hzero with hnil | hminus
    · rw [hnil] at hstripped
      exact absurd (hstripped.symm.trans (by decide +kernel : textValue [] = none)) (by simp)
    · rw [hminus] at hstripped
      have hnegative : textValue ['-', '0'] = some 0 := by decide +kernel
      rw [hread, ← hnegative, hstripped]
  next => exact hstripped

/-- The text tells numbers apart. -/
theorem decimalText_injective {a b : Decimal} (h : a.decimalText = b.decimalText) : a.toRat = b.toRat := by
  have hvalues := textValue_decimalText a
  rw [h, textValue_decimalText] at hvalues
  exact (Option.some.inj hvalues).symm

end Decimal

end AutoTrader.Domain
