import Callout.Proofs.Calendar
import Mathlib.Data.List.TakeWhile

/-!
Texts of points in time. A reader takes each number that is written with its zeros and leaves what follows, so
what is written of a point in time is read back as that point if its year is one that dates may have and a leap
second ends a minute. Whatever text is read, it says such a point (`parse_toText_iff`).
-/
namespace Callout.Timestamp

/-! ## Numbers -/

/-- Digits of a certain width that spell a number. -/
structure Spells (width n : Nat) (ds : List Char) : Prop where
  length_eq : ds.length = width
  digit : ∀ d ∈ ds, d.isDigit = true
  worth_eq : worth ds = n

theorem worth_eq_ofDigitChars (ds : List Char) : worth ds = Nat.ofDigitChars 10 ds 0 := by
  simp only [worth, Nat.ofDigitChars, Nat.mul_comm]

theorem worth_zeros (k : Nat) (ds : List Char) : worth (List.replicate k '0' ++ ds) = worth ds := by
  induction k with
  | zero => rfl
  | succ k ih =>
    rw [← ih]
    rfl

/-- A number has at least one digit, with zeros in front or without. -/
theorem spells_padded_length (width n : Nat) :
    Spells (padded width n).toList.length n (padded width n).toList ∧ 0 < (padded width n).toList.length := by
  have some_digit : 0 < (Nat.toDigits 10 n).length := Nat.length_toDigits_pos
  rw [padded, String.toList_ofList]
  refine ⟨⟨rfl,fun d member => ?_,?_⟩,by simp; omega⟩
  · obtain zero | digit := List.mem_append.1 member
    · rw [List.eq_of_mem_replicate zero]
      rfl
    · exact Nat.isDigit_of_mem_toDigits (by decide) (by decide) digit
  · rw [worth_zeros, worth_eq_ofDigitChars, Nat.ofDigitChars_toDigits (by decide) (by decide)]

theorem spells_padded {width n : Nat} (wide : 0 < width) (fits : n < 10 ^ width) :
    Spells width n (padded width n).toList := by
  have short : (Nat.toDigits 10 n).length ≤ width := (Nat.length_toDigits_le_iff (by decide) wide).2 fits
  have length : (padded width n).toList.length = width := by
    rw [padded, String.toList_ofList]
    simp
    omega
  have spelt := (spells_padded_length width n).1
  rwa [length] at spelt

theorem toNat_of_isDigit {c : Char} (digit : c.isDigit = true) : 48 ≤ c.toNat ∧ c.toNat ≤ 57 := by
  simp only [Char.isDigit, Bool.and_eq_true, decide_eq_true_eq] at digit
  exact digit

theorem isBlank_of_isDigit {c : Char} (digit : c.isDigit = true) : Text.isBlank c = false := by
  obtain ⟨low,high⟩ := toNat_of_isDigit digit
  simp only [Text.isBlank, Bool.or_eq_false_iff, Bool.and_eq_false_iff, decide_eq_false_iff_not]
  omega

theorem worth_lt {ds : List Char} (digit : ∀ d ∈ ds, d.isDigit = true) : worth ds < 10 ^ ds.length := by
  -- The bound is carried for every number read so far.
  suffices below : ∀ n, ds.foldl (fun n d => n * 10 + (d.toNat - '0'.toNat)) n < (n + 1) * 10 ^ ds.length by
    simpa [worth] using below 0
  induction ds with
  | nil => simp
  | cons d ds ih =>
    intro n
    obtain ⟨first,rest⟩ := List.forall_mem_cons.1 digit
    have small : d.toNat - '0'.toNat ≤ 9 := by
      have := (toNat_of_isDigit first).2
      have zero : '0'.toNat = 48 := rfl
      omega
    calc (d :: ds).foldl (fun n d => n * 10 + (d.toNat - '0'.toNat)) n
        < (n * 10 + (d.toNat - '0'.toNat) + 1) * 10 ^ ds.length := ih rest _
      _ ≤ ((n + 1) * 10) * 10 ^ ds.length := Nat.mul_le_mul_right _ (by omega)
      _ = (n + 1) * 10 ^ (d :: ds).length := by rw [List.length_cons, Nat.pow_succ, Nat.mul_assoc, Nat.mul_comm 10]

namespace Spells
variable {width n : Nat} {ds : List Char}

theorem cons (spelt : Spells width n ds) (wide : 0 < width) : ∃ d rest, ds = d :: rest ∧ d.isDigit = true := by
  cases ds with
  | nil => exact absurd spelt.length_eq (by simp; omega)
  | cons d rest => exact ⟨d,rest,rfl,spelt.digit d List.mem_cons_self⟩

theorem takeWhile_append (spelt : Spells width n ds) {rest : List Char}
    (stops : ∀ c ∈ rest.head?, c.isDigit = false) : (ds ++ rest).takeWhile Char.isDigit = ds := by
  rw [List.takeWhile_append_of_pos spelt.digit]
  cases rest with
  | nil => simp
  | cons c rest => simp [stops c rfl]

theorem skipBlanks (spelt : Spells width n ds) (wide : 0 < width) (rest : List Char) :
    skipBlanks (ds ++ rest) = ds ++ rest := by
  obtain ⟨d,others,rfl,digit⟩ := spelt.cons wide
  simp [Timestamp.skipBlanks, isBlank_of_isDigit digit]

theorem readNumber (spelt : Spells width n ds) (wide : 0 < width) (rest : List Char) :
    readNumber width (ds ++ rest) = some (n,rest) := by
  have taken : ((ds ++ rest).take width).takeWhile Char.isDigit = ds := by
    rw [List.take_left' spelt.length_eq]
    exact List.takeWhile_eq_self_iff.2 spelt.digit
  simp only [Timestamp.readNumber, spelt.skipBlanks wide, taken]
  obtain ⟨d,others,rfl,-⟩ := spelt.cons wide
  simp [spelt.worth_eq]

theorem readYear (spelt : Spells 4 n ds) (rest : List Char) : readYear (ds ++ rest) = some ((n : Int),rest) := by
  obtain ⟨d,others,rfl,digit⟩ := spelt.cons (by decide)
  have minus : d ≠ '-' := by
    rintro rfl
    exact absurd digit (by decide)
  have plus : d ≠ '+' := by
    rintro rfl
    exact absurd digit (by decide)
  simp only [Timestamp.readYear, spelt.skipBlanks (by decide)]
  split
  · next eq => exact absurd (List.cons.inj eq).1 minus
  · next eq => exact absurd (List.cons.inj eq).1 plus
  · rw [spelt.readNumber (by decide)]
    rfl

/-- A year with a sign has as many digits as there are. -/
theorem readYear_signed (spelt : Spells width n ds) (wide : 0 < width) {rest : List Char}
    (stops : ∀ c ∈ rest.head?, c.isDigit = false) :
    Timestamp.readYear ('-' :: (ds ++ rest)) = some (-(n : Int),rest) ∧
      Timestamp.readYear ('+' :: (ds ++ rest)) = some ((n : Int),rest) := by
  have taken := spelt.takeWhile_append stops
  have solid (c : Char) (solid : Text.isBlank c = false) : Timestamp.skipBlanks (c :: (ds ++ rest)) = c :: (ds ++ rest) := by
    simp [Timestamp.skipBlanks, solid]
  simp only [Timestamp.readYear, solid '-' rfl, solid '+' rfl, taken, spelt.worth_eq]
  obtain ⟨d,others,rfl,-⟩ := spelt.cons wide
  simp

/-- Digits after a point count units of `10 ^ (9 - width)` nanoseconds. -/
theorem readFraction (spelt : Spells width n ds) (wide : 0 < width) (narrow : width ≤ 9) {rest : List Char}
    (stops : ∀ c ∈ rest.head?, c.isDigit = false) :
    readFraction ('.' :: (ds ++ rest)) = some (n * 10 ^ (9 - width),rest) := by
  have taken := spelt.takeWhile_append stops
  have length := spelt.length_eq
  have kept : ds.take 9 = ds := List.take_of_length_le (by omega)
  obtain ⟨d,others,rfl,-⟩ := spelt.cons wide
  simp only [Timestamp.readFraction, taken, kept, spelt.worth_eq, length]
  simp [← length]

end Spells

theorem readMark_cons {mark : Char} (solid : Text.isBlank mark = false) (rest : List Char) :
    readMark mark (mark :: rest) = some rest := by
  simp [readMark, skipBlanks, solid]

theorem readFraction_fractionText {nano : Nat} (fits : nano < 1000000000) :
    readFraction ((fractionText nano).toList ++ ['Z']) = some (nano,['Z']) := by
  have point (width n : Nat) (wide : 0 < width) (narrow : width ≤ 9) (small : n < 10 ^ width)
      (whole : n * 10 ^ (9 - width) = nano) :
      readFraction (("." ++ padded width n).toList ++ ['Z']) = some (nano,['Z']) := by
    rw [String.toList_append, ← whole]
    exact (spells_padded wide small).readFraction wide narrow (by simp)
  simp only [fractionText]
  split
  · next none => simp [readFraction, none]
  · split
    · exact point 3 _ (by decide) (by decide) (by omega) (by omega)
    · split
      · exact point 6 _ (by decide) (by decide) (by omega) (by omega)
      · exact point 9 _ (by decide) (by decide) (by omega) (by omega)

/-! ## Points in time -/

/-- The second is one of the day, and only the last second of a minute is followed by a leap second, as clocks and
texts tell it. -/
structure Regular (t : Timestamp) : Prop where
  second_lt : t.second < 86400
  nano_lt : t.nano < 2000000000
  leap : 1000000000 ≤ t.nano → t.second % 60 = 59

/-- The year is one of the years 0 to 9999. -/
def FourDigit (t : Timestamp) : Prop := 0 ≤ (Date.ofDays t.day).year ∧ (Date.ofDays t.day).year ≤ 9999

instance (t : Timestamp) : Decidable t.FourDigit := inferInstanceAs (Decidable (_ ∧ _))

/-- The year is one of those that dates may have. -/
def InRange (t : Timestamp) : Prop := yearInRange (Date.ofDays t.day).year

instance (t : Timestamp) : Decidable t.InRange := inferInstanceAs (Decidable (_ = true))

theorem FourDigit.inRange {t : Timestamp} (fourDigit : t.FourDigit) : t.InRange := by
  obtain ⟨low,high⟩ := fourDigit
  simp only [InRange, yearInRange, Bool.and_eq_true, decide_eq_true_eq]
  omega

/-- What texts can say: a point in time that is regular, in a year that dates may have. -/
structure Told (t : Timestamp) : Prop where
  regular : t.Regular
  inRange : t.InRange

/-- Without an offset the date and the time of day stay, and a sixtieth second becomes a leap second. -/
theorem ofParts_utc {date : Date} {hour minute second leap : Nat} (nano : Nat) (valid : date.isValid)
    (hours : hour < 24) (minutes : minute < 60) (seconds : second ≤ 60)
    (inRange : yearInRange (Date.ofDays date.toDays).year) (sixtieth : (if second = 60 then 1 else 0) = leap) :
    ofParts date hour minute second nano 0 =
      some ⟨date.toDays,hour * 3600 + minute * 60 + (second - leap),nano + leap * 1000000000⟩ := by
  obtain ⟨clock,clock_eq⟩ : ∃ clock, clock = hour * 3600 + minute * 60 + (second - leap) := ⟨_,rfl⟩
  have small : clock < 86400 := by
    split at sixtieth <;> omega
  have today : date.toDays + (clock : Int) / 86400 = date.toDays := by omega
  have same : ((clock : Int) % 86400).toNat = clock := by omega
  simp only [ofParts, valid, hours, minutes, seconds, and_self, Int.natAbs_zero, Nat.zero_lt_succ, if_true,
    Int.sub_zero, sixtieth, ← clock_eq, today, inRange, same]

theorem ofParts_ofDays {t : Timestamp} (told : t.Told) :
    ofParts (Date.ofDays t.day) (t.second / 3600) (t.second / 60 % 60) (t.second % 60 + t.nano / 1000000000)
      (t.nano % 1000000000) 0 = some t := by
  obtain ⟨⟨seconds,nanos,leap⟩,inRange⟩ := told
  have sixtieth : (if t.second % 60 + t.nano / 1000000000 = 60 then 1 else 0) = t.nano / 1000000000 := by
    split <;> omega
  have second : t.second / 3600 * 3600 + t.second / 60 % 60 * 60 +
      (t.second % 60 + t.nano / 1000000000 - t.nano / 1000000000) = t.second := by
    omega
  have nano : t.nano % 1000000000 + t.nano / 1000000000 * 1000000000 = t.nano := by omega
  rw [ofParts_utc _ (Date.ofDays_isValid inRange) (by omega) (by omega) (by omega)
    (by rwa [Date.toDays_ofDays]) sixtieth, Date.toDays_ofDays, second, nano]

/-! ## From text to text -/

/-- The characters of a date and a time of day in Coordinated Universal Time, from the texts of their parts. -/
def spelling (year month day hour minute second fraction : String) : List Char :=
  year.toList ++ '-' :: (month.toList ++ '-' :: (day.toList ++ 'T' :: (hour.toList ++ ':' ::
    (minute.toList ++ ':' :: (second.toList ++ (fraction.toList ++ ['Z']))))))

theorem toList_toText (t : Timestamp) :
    t.toText.toList = spelling (yearText (Date.ofDays t.day).year) (padded 2 (Date.ofDays t.day).month)
      (padded 2 (Date.ofDays t.day).day) (padded 2 (t.second / 3600)) (padded 2 (t.second / 60 % 60))
      (padded 2 (t.second % 60 + t.nano / 1000000000)) (fractionText (t.nano % 1000000000)) := by
  simp [toText, spelling]

theorem parse_of_spelling {text ys mos ds hs mis ss fs : String} {year : Int} {month day hour minute second nano : Nat}
    {t : Timestamp} (spelt : text.toList = spelling ys mos ds hs mis ss fs)
    (y : ∀ rest, readYear (ys.toList ++ '-' :: rest) = some (year,'-' :: rest))
    (mo : Spells 2 month mos.toList) (d : Spells 2 day ds.toList) (h : Spells 2 hour hs.toList)
    (mi : Spells 2 minute mis.toList) (s : Spells 2 second ss.toList)
    (f : readFraction (fs.toList ++ ['Z']) = some (nano,['Z']))
    (made : ofParts ⟨year,month,day⟩ hour minute second nano 0 = some t) : parse text = some t := by
  have dash (rest : List Char) : readMark '-' ('-' :: rest) = some rest := readMark_cons (by decide) rest
  have colon (rest : List Char) : readMark ':' (':' :: rest) = some rest := readMark_cons (by decide) rest
  rw [parse, spelt]
  -- One step for each part, as the reader takes them.
  refine Option.bind_eq_some_iff.2 ⟨_,y _,?_⟩
  refine Option.bind_eq_some_iff.2 ⟨_,dash _,?_⟩
  refine Option.bind_eq_some_iff.2 ⟨_,mo.readNumber (by decide) _,?_⟩
  refine Option.bind_eq_some_iff.2 ⟨_,dash _,?_⟩
  refine Option.bind_eq_some_iff.2 ⟨_,d.readNumber (by decide) _,?_⟩
  refine Option.bind_eq_some_iff.2 ⟨_,rfl,?_⟩
  refine Option.bind_eq_some_iff.2 ⟨_,h.readNumber (by decide) _,?_⟩
  refine Option.bind_eq_some_iff.2 ⟨_,colon _,?_⟩
  refine Option.bind_eq_some_iff.2 ⟨_,mi.readNumber (by decide) _,?_⟩
  refine Option.bind_eq_some_iff.2 ⟨_,colon _,?_⟩
  refine Option.bind_eq_some_iff.2 ⟨_,s.readNumber (by decide) _,?_⟩
  refine Option.bind_eq_some_iff.2 ⟨_,f,?_⟩
  exact Option.bind_eq_some_iff.2 ⟨_,rfl,made⟩

theorem monthLength_le (year : Int) (month : Nat) : monthLength year month ≤ 31 := by
  simp only [monthLength]
  split <;> (try split) <;> decide

/-- The texts of years are read back, with a sign or without. -/
theorem readYear_yearText (year : Int) (rest : List Char) :
    readYear ((yearText year).toList ++ '-' :: rest) = some (year,'-' :: rest) := by
  obtain ⟨spelt,wide⟩ := spells_padded_length 4 year.natAbs
  obtain ⟨minus,plus⟩ := spelt.readYear_signed wide (by simp : ∀ c ∈ ('-' :: rest).head?, c.isDigit = false)
  simp only [yearText]
  split
  next few =>
    have four := (spells_padded (by decide) (by omega : year.toNat < 10 ^ 4)).readYear ('-' :: rest)
    rwa [Int.toNat_of_nonneg few.1] at four
  next many =>
    rw [String.toList_append]
    split
    next below =>
      rw [show -(year.natAbs : Int) = year by omega] at minus
      exact minus
    next above =>
      rw [show (year.natAbs : Int) = year by omega] at plus
      exact plus

/-- A point in time that is written is read back. -/
theorem parse_toText {t : Timestamp} (told : t.Told) : parse t.toText = some t := by
  have text := toList_toText t
  have whole := ofParts_ofDays told
  have valid := Date.ofDays_isValid told.inRange
  obtain ⟨seconds,nanos,leap⟩ := told.regular
  -- Of the date only its bounds matter from here on.
  generalize Date.ofDays t.day = date at *
  obtain ⟨y,mo,d⟩ := date
  simp only [Date.isValid, Bool.and_eq_true, decide_eq_true_eq] at valid text
  have short := monthLength_le y mo
  exact parse_of_spelling text (readYear_yearText y) (spells_padded (by decide) (by omega))
    (spells_padded (by decide) (by omega)) (spells_padded (by decide) (by omega))
    (spells_padded (by decide) (by omega)) (spells_padded (by decide) (by omega))
    (readFraction_fractionText (by omega)) whole

/-! ## What a text can say -/

theorem readFraction_lt {cs rest : List Char} {nano : Nat} (read : readFraction cs = some (nano,rest)) :
    nano < 1000000000 := by
  simp only [readFraction] at read
  split at read
  · next digits =>
    rw [Option.ite_none_left_eq_some] at read
    obtain ⟨-,same⟩ := read
    cases same
    let kept := (digits.takeWhile Char.isDigit).take 9
    have digit : ∀ d ∈ kept, d.isDigit = true := fun d member =>
      List.mem_takeWhile_imp (List.mem_of_mem_take member)
    have short : kept.length ≤ 9 := by simp [kept]
    calc worth kept * 10 ^ (9 - kept.length)
        < 10 ^ kept.length * 10 ^ (9 - kept.length) :=
          Nat.mul_lt_mul_of_pos_right (worth_lt digit) (Nat.pow_pos (by decide))
      _ = 1000000000 := by rw [← Nat.pow_add, Nat.add_sub_cancel' short]
  · cases read
    decide

theorem readShift_minutes {cs rest : List Char} {shift : Int} (read : readShift cs = some (shift,rest)) :
    shift % 60 = 0 := by
  simp only [readShift] at read
  split at read
  · split at read
    · obtain ⟨⟨minutes,others⟩,-,same⟩ := Option.bind_eq_some_iff.1 read
      cases same
      omega
    · cases read
  · cases read

theorem readOffset_minutes {cs rest : List Char} {offset : Int} (read : readOffset cs = some (offset,rest)) :
    offset % 60 = 0 := by
  simp only [readOffset] at read
  split at read
  · cases read
    rfl
  · cases read
    rfl
  · split at read
    · cases read
      rfl
    · split at read
      · exact readShift_minutes read
      · rw [Option.ite_none_right_eq_some] at read
        obtain ⟨⟨shift,others⟩,shifted,same⟩ := Option.map_eq_some_iff.1 read.2
        cases same
        have := readShift_minutes shifted
        omega
  · cases read

theorem ofParts_regular {date : Date} {hour minute second nano : Nat} {offset : Int} {t : Timestamp}
    (made : ofParts date hour minute second nano offset = some t) (fraction : nano < 1000000000)
    (minutes : offset % 60 = 0) : t.Regular := by
  simp only [ofParts, Option.ite_none_right_eq_some, Option.some.injEq] at made
  obtain ⟨bounds,-,rfl⟩ := made
  -- An offset of whole minutes leaves the second of the minute.
  refine ⟨?_,?_,?_⟩ <;> simp only <;> split <;> omega

theorem ofParts_inRange {date : Date} {hour minute second nano : Nat} {offset : Int} {t : Timestamp}
    (made : ofParts date hour minute second nano offset = some t) : t.InRange := by
  simp only [ofParts, Option.ite_none_right_eq_some, Option.some.injEq] at made
  obtain ⟨-,inRange,rfl⟩ := made
  exact inRange

/-- What a text says is made of its parts: a fraction of a second, and an offset of whole minutes. -/
theorem parse_parts {text : String} {t : Timestamp} (read : parse text = some t) :
    ∃ date hour minute second nano offset, ofParts date hour minute second nano offset = some t ∧
      nano < 1000000000 ∧ offset % 60 = 0 := by
  rw [parse] at read
  obtain ⟨⟨year,cs⟩,-,read⟩ := Option.bind_eq_some_iff.1 read
  obtain ⟨cs,-,read⟩ := Option.bind_eq_some_iff.1 read
  obtain ⟨⟨month,cs⟩,-,read⟩ := Option.bind_eq_some_iff.1 read
  obtain ⟨cs,-,read⟩ := Option.bind_eq_some_iff.1 read
  obtain ⟨⟨day,cs⟩,-,read⟩ := Option.bind_eq_some_iff.1 read
  obtain ⟨cs,-,read⟩ := Option.bind_eq_some_iff.1 read
  obtain ⟨⟨hour,cs⟩,-,read⟩ := Option.bind_eq_some_iff.1 read
  obtain ⟨cs,-,read⟩ := Option.bind_eq_some_iff.1 read
  obtain ⟨⟨minute,cs⟩,-,read⟩ := Option.bind_eq_some_iff.1 read
  obtain ⟨cs,-,read⟩ := Option.bind_eq_some_iff.1 read
  obtain ⟨⟨second,cs⟩,-,read⟩ := Option.bind_eq_some_iff.1 read
  obtain ⟨⟨nano,cs⟩,fraction,read⟩ := Option.bind_eq_some_iff.1 read
  obtain ⟨⟨offset,cs⟩,minutes,read⟩ := Option.bind_eq_some_iff.1 read
  exact ⟨_,_,_,_,_,_,(Option.ite_none_right_eq_some.1 read).2,readFraction_lt fraction,readOffset_minutes minutes⟩

theorem parse_regular {text : String} {t : Timestamp} (read : parse text = some t) : t.Regular := by
  obtain ⟨_,_,_,_,_,_,made,fraction,minutes⟩ := parse_parts read
  exact ofParts_regular made fraction minutes

theorem parse_told {text : String} {t : Timestamp} (read : parse text = some t) : t.Told := by
  obtain ⟨_,_,_,_,_,_,made,-⟩ := parse_parts read
  exact ⟨parse_regular read,ofParts_inRange made⟩

/-- No other points in time are read back. -/
theorem parse_toText_iff {t : Timestamp} : parse t.toText = some t ↔ t.Told :=
  ⟨parse_told,parse_toText⟩

end Callout.Timestamp
