import StreamingChat.Time.Stamp

/-!
# Written timestamps are read back

A timestamp is written with as many digits as its reader takes at once, and each number is followed
by a character that is no digit. So every part is read as it was written: years with four digits or
a sign, fractions of a second with three, six or nine digits, and the sixtieth second.
-/

namespace StreamingChat.Time

/-! ## Padded numbers -/

theorem isDigit_padded {width value : Nat} {digit : Char} (member : digit ∈ padded width value) :
    digit.isDigit = true := by
  rcases List.mem_append.mp member with zero | given
  · rw [List.eq_of_mem_replicate zero]
    rfl
  · exact Nat.isDigit_of_mem_toDigits (by decide) (by decide) given

theorem exists_padded (width value : Nat) :
    ∃ digit others, padded width value = digit :: others ∧ digit.isDigit = true := by
  cases digits : padded width value with
  | nil => exact absurd (List.append_eq_nil_iff.mp digits).2 Nat.toDigits_ne_nil
  | cons digit others => exact ⟨digit, others, rfl, isDigit_padded (digits ▸ List.mem_cons_self ..)⟩

theorem length_padded {width value : Nat} (short : (Nat.toDigits 10 value).length ≤ width) :
    (padded width value).length = width := by
  simp only [padded, List.length_append, List.length_replicate]
  omega

namespace Stamp

theorem valueOf_padded (width value : Nat) : valueOf (padded width value) = value := by
  have asDigits (digits : List Char) : valueOf digits = Nat.ofDigitChars 10 digits 0 := by
    rw [valueOf, Nat.ofDigitChars_eq_foldl]
    simp only [Nat.mul_comm]
  rw [asDigits, padded, Nat.ofDigitChars_append, Nat.ofDigitChars_replicate_zero, Nat.mul_zero,
    Nat.ofDigitChars_ten_toDigits]

/-! ## Parts of a timestamp -/

theorem bind_of_ok {α β : Type} {reader : StampReader α} {next : α → StampReader β}
    {text rest : List Char} {value : α} (read : reader text = .ok (value, rest)) :
    (reader >>= next) text = next value rest := by
  simp [bind, StateT.bind, Except.bind, read]

theorem blanks_of_trimmed {text : List Char} (trimmed : Text.trimStart text = text) :
    blanks text = .ok ((), text) := by
  have dropped : blanks text = .ok ((), Text.trimStart text) := rfl
  rw [dropped, trimmed]

theorem takeWhile_padded (width value : Nat) {rest : List Char}
    (ends : rest.head?.any Char.isDigit = false) :
    (padded width value ++ rest).takeWhile Char.isDigit = padded width value := by
  have noDigit : rest.takeWhile Char.isDigit = [] := by
    cases rest with
    | nil => rfl
    | cons character rest => exact List.takeWhile_cons_of_neg (by simpa using ends)
  rw [List.takeWhile_append_of_pos fun digit => isDigit_padded, noDigit, List.append_nil]

/-- A padded number is read whole when it has no more digits than are taken. -/
theorem number_padded {limit : Option Nat} {width value : Nat} {rest : List Char}
    (taken : ∀ count ∈ limit, (padded width value).length ≤ count) (small : value ≤ maxNumber)
    (ends : rest.head?.any Char.isDigit = false) :
    number limit (padded width value ++ rest) = .ok (value, rest) := by
  rcases exists_padded width value with ⟨digit, others, split, -⟩
  have present : padded width value ≠ [] := by simp [split]
  have inRange : ¬maxNumber < value := Nat.not_lt.mpr small
  cases limit with
  | none => simp [number, takeWhile_padded width value ends, present, valueOf_padded, inRange]
  | some count =>
      have whole : (padded width value).take count = padded width value :=
        List.take_of_length_le (taken count rfl)
      simp [number, takeWhile_padded width value ends, present, valueOf_padded, inRange, whole]

theorem trimStart_of_visible {first : Char} (visible : Text.isBlank first = false)
    (rest : List Char) : Text.trimStart (first :: rest) = first :: rest :=
  List.dropWhile_cons_of_neg (by simp [visible])

theorem trimStart_padded (width value : Nat) (rest : List Char) :
    Text.trimStart (padded width value ++ rest) = padded width value ++ rest := by
  rcases exists_padded width value with ⟨digit, others, split, isDigit⟩
  have code : 48 ≤ digit.toNat ∧ digit.toNat ≤ 57 := by
    simpa [Char.isDigit, UInt32.le_iff_toNat_le] using isDigit
  have visible : Text.isBlank digit = false := by
    simp [Text.isBlank]
    omega
  rw [split]
  exact trimStart_of_visible visible _

/-- Months, days, hours, minutes and seconds have two digits. -/
theorem bounded_padded {low high value : Nat} (above : low ≤ value) (below : value ≤ high)
    (fits : value < 100) {rest : List Char} (ends : rest.head?.any Char.isDigit = false) :
    bounded low high (padded 2 value ++ rest) = .ok (value, rest) := by
  have short : (Nat.toDigits 10 value).length ≤ 2 :=
    (Nat.length_toDigits_le_iff (by decide) (by decide)).mpr fits
  have taken : ∀ count ∈ some 2, (padded 2 value).length ≤ count := by
    rintro count ⟨⟩
    exact Nat.le_of_eq (length_padded short)
  have small : value ≤ maxNumber := Nat.le_trans (Nat.le_of_lt fits) (by decide)
  refine (bind_of_ok (blanks_of_trimmed (trimStart_padded 2 value rest))).trans ?_
  refine (bind_of_ok (number_padded taken small ends)).trans ?_
  rw [if_pos ⟨above, below⟩]
  rfl

theorem year_writeYear {value : Int} (above : firstYear ≤ value) (below : value ≤ lastYear)
    {rest : List Char} (ends : rest.head?.any Char.isDigit = false) :
    year (writeYear value ++ rest) = .ok (value, rest) := by
  have bounds : -262143 ≤ value ∧ value ≤ 262142 := ⟨above, below⟩
  have limit : maxNumber = 0x7FFFFFFFFFFFFFFF := rfl
  have inRange : -0x80000000 ≤ value ∧ value < 0x80000000 := by omega
  have accepted : (if -0x80000000 ≤ value ∧ value < 0x80000000 then pure value
      else refuse .outOfRange : StampReader Int) rest = .ok (value, rest) := by
    rw [if_pos inRange]
    rfl
  by_cases fourDigits : 0 ≤ value ∧ value ≤ 9999
  · have short : (Nat.toDigits 10 value.toNat).length ≤ 4 :=
      (Nat.length_toDigits_le_iff (by decide) (by decide)).mpr (by omega)
    have taken : ∀ count ∈ some 4, (padded 4 value.toNat).length ≤ count := by
      rintro count ⟨⟩
      exact Nat.le_of_eq (length_padded short)
    have read := number_padded taken (by omega) ends
    have same : (value.toNat : Int) = value := by omega
    rw [writeYear, if_pos fourDigits]
    refine (bind_of_ok (blanks_of_trimmed (trimStart_padded 4 value.toNat rest))).trans ?_
    refine (bind_of_ok (?_ : _ = Except.ok (value, rest))).trans accepted
    -- A digit in front is no sign, so that four digits are read at most.
    rcases exists_padded 4 value.toNat with ⟨digit, others, split, isDigit⟩
    rw [split, List.cons_append] at read ⊢
    split
    · simp_all
    · simp_all
    · simp only [read, Except.map, same]
  · have read : number none (padded 4 value.natAbs ++ rest) = .ok (value.natAbs, rest) :=
      number_padded (by simp) (by omega) ends
    rw [writeYear, if_neg fourDigits, List.cons_append]
    split
    · have same : -(value.natAbs : Int) = value := by omega
      refine (bind_of_ok (blanks_of_trimmed (trimStart_of_visible rfl _))).trans ?_
      refine (bind_of_ok (?_ : _ = Except.ok (value, rest))).trans accepted
      simp only [read, Except.map, same]
    · have same : (value.natAbs : Int) = value := by omega
      refine (bind_of_ok (blanks_of_trimmed (trimStart_of_visible rfl _))).trans ?_
      refine (bind_of_ok (?_ : _ = Except.ok (value, rest))).trans accepted
      simp only [read, Except.map, same]

theorem fraction_writeFraction {nanosecond : Nat} (below : nanosecond < 1000000000)
    {rest : List Char} (ends : rest.head?.any Char.isDigit = false)
    (noPoint : rest.head? ≠ some '.') :
    fraction (writeFraction nanosecond ++ rest) = .ok (nanosecond, rest) := by
  -- A group of digits stands for as many nanoseconds as if zeros followed, up to nine digits.
  have groups {width value : Nat} (positive : 0 < width) (narrow : width ≤ 9)
      (fits : value < 10 ^ width) :
      fraction ('.' :: (padded width value ++ rest)) = .ok (value * 10 ^ (9 - width), rest) := by
    have length := length_padded ((Nat.length_toDigits_le_iff (by decide) positive).mpr fits)
    have taken : ∀ count ∈ some 9, (padded width value).length ≤ count := by
      rintro count ⟨⟩
      exact Nat.le_trans (Nat.le_of_eq length) narrow
    have limit : value ≤ maxNumber := by
      have most : 10 ^ width ≤ 10 ^ 9 := Nat.pow_le_pow_right (by decide) narrow
      have wide : 10 ^ 9 ≤ maxNumber := by decide
      omega
    have noDigit : rest.dropWhile Char.isDigit = rest := by
      cases rest with
      | nil => rfl
      | cons character rest => exact List.dropWhile_cons_of_neg (by simpa using ends)
    simp [fraction, number_padded taken limit ends, takeWhile_padded width value ends, length,
      noDigit, bind, Except.bind]
  rw [writeFraction]
  split
  · rename_i none
    rw [List.nil_append, none]
    unfold fraction
    split
    · exact absurd rfl noPoint
    · rfl
  · split
    · rw [List.cons_append, groups (by decide) (by decide) (by omega)]
      congr 2
      omega
    · split
      · rw [List.cons_append, groups (by decide) (by decide) (by omega)]
        congr 2
        omega
      · rw [List.cons_append, groups (by decide) (by decide) (by omega)]
        congr 2
        omega

theorem mark_cons (character : Char) (rest : List Char) :
    mark character (character :: rest) = .ok ((), rest) :=
  if_pos rfl

theorem separator_cons (rest : List Char) : separator ('T' :: rest) = .ok ((), rest) :=
  rfl

/-- The numbers of a timestamp. -/
def Parts.ofTimestamp (timestamp : Timestamp) : Parts where
  year := timestamp.date.year
  month := timestamp.date.month
  day := timestamp.date.day
  hour := timestamp.time.hour
  minute := timestamp.time.minute
  second := timestamp.time.second
  nanosecond := timestamp.time.nanosecond
  offset := 0

theorem day_le {year : Int} {month day : Nat} (valid : isDate year month day = true) :
    firstYear ≤ year ∧ year ≤ lastYear ∧ 1 ≤ month ∧ month ≤ 12 ∧ 1 ≤ day ∧ day ≤ 31 := by
  have longest : daysInMonth year month ≤ 31 := by
    unfold daysInMonth
    grind
  simp only [isDate, Bool.and_eq_true, decide_eq_true_eq] at valid
  omega

theorem noDigit_writeFraction (nanosecond : Nat) (rest : List Char) :
    (writeFraction nanosecond ++ 'Z' :: rest).head?.any Char.isDigit = false := by
  unfold writeFraction
  split
  · rfl
  · split
    · rfl
    · split <;> rfl

theorem parts_write (timestamp : Timestamp) :
    parts timestamp.write.toList = .ok (.ofTimestamp timestamp, []) := by
  rcases timestamp with ⟨⟨year, month, day, valid⟩,
    ⟨hour, minute, second, nanosecond, hour_lt, minute_lt, second_le, nanosecond_lt⟩⟩
  rcases day_le valid with ⟨firstYear_le, le_lastYear, month_ge, month_le, day_ge, day_le⟩
  have blank {first : Char} {rest : List Char} (visible : Text.isBlank first = false) :
      blanks (first :: rest) = .ok ((), first :: rest) :=
    blanks_of_trimmed (trimStart_of_visible visible rest)
  simp only [Timestamp.write, String.toList_ofList, List.append_assoc]
  refine (bind_of_ok (year_writeYear firstYear_le le_lastYear rfl)).trans ?_
  refine (bind_of_ok (blank rfl)).trans ?_
  refine (bind_of_ok (mark_cons '-' _)).trans ?_
  refine (bind_of_ok (bounded_padded month_ge month_le (by omega) rfl)).trans ?_
  refine (bind_of_ok (blank rfl)).trans ?_
  refine (bind_of_ok (mark_cons '-' _)).trans ?_
  refine (bind_of_ok (bounded_padded day_ge day_le (by omega) rfl)).trans ?_
  refine (bind_of_ok (separator_cons _)).trans ?_
  refine (bind_of_ok (bounded_padded (Nat.zero_le hour) (by omega) (by omega) rfl)).trans ?_
  refine (bind_of_ok (blank rfl)).trans ?_
  refine (bind_of_ok (mark_cons ':' _)).trans ?_
  refine (bind_of_ok (bounded_padded (Nat.zero_le minute) (by omega) (by omega) rfl)).trans ?_
  refine (bind_of_ok (blank rfl)).trans ?_
  refine (bind_of_ok (mark_cons ':' _)).trans ?_
  refine (bind_of_ok (bounded_padded (Nat.zero_le second) second_le (by omega)
    (noDigit_writeFraction nanosecond []))).trans ?_
  refine (bind_of_ok (fraction_writeFraction nanosecond_lt rfl (by simp))).trans ?_
  refine (bind_of_ok (blank rfl)).trans ?_
  rfl

end Stamp

/-- A clock that is not ahead shows the time itself. -/
theorem Timestamp.ofLocal?_zero (date : Date) (time : TimeOfDay) :
    ofLocal? date time 0 = some ⟨date, time⟩ := by
  rcases time with ⟨hour, minute, second, nanosecond, hour_lt, minute_lt, second_le, nanosecond_lt⟩
  have sameDay : ¬(hour : Int) * 60 + minute - 0 < 0 ∧ (hour : Int) * 60 + minute - 0 < 1440 := by
    omega
  have minutes : ((hour * 60 + minute - 0 : Int) % 1440).toNat = hour * 60 + minute := by omega
  have hours : (hour * 60 + minute) / 60 = hour := by omega
  have rest : (hour * 60 + minute) % 60 = minute := by omega
  simp only [ofLocal?, if_neg sameDay.1, if_pos sameDay.2, minutes, hours, rest, Option.map_some]

theorem Stamp.Parts.toTimestamp_ofTimestamp (timestamp : Timestamp) :
    (ofTimestamp timestamp).toTimestamp = .ok timestamp := by
  rcases timestamp with ⟨⟨year, month, day, valid⟩, time⟩
  have date : Date.ofNumbers? year month day = some ⟨year, month, day, valid⟩ := dif_pos valid
  have bounds : time.hour < 24 ∧ time.minute < 60 ∧ time.second ≤ 60 ∧
      time.nanosecond < 1000000000 :=
    ⟨time.hour_lt, time.minute_lt, time.second_le, time.nanosecond_lt⟩
  simp [toTimestamp, ofTimestamp, date, time?, bounds, Timestamp.ofLocal?_zero]

/-- A timestamp is read back from its written form. -/
theorem Timestamp.read_write (timestamp : Timestamp) :
    Timestamp.read timestamp.write = .ok timestamp := by
  simp [Timestamp.read, StateT.run, Stamp.parts_write, bind, Except.bind, Text.trimStart,
    Stamp.Parts.toTimestamp_ofTimestamp]

end StreamingChat.Time
