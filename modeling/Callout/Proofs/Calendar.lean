import Callout.Timestamp
import Mathlib.Tactic.IntervalCases

/-!
Days and dates. A day of an era of 400 years is cut into whole centuries, spans of four years and years, and
the number of its year, which comes from one division, is the one that these cuts give. From this the date of
a day is one of the calendar (`Date.ofDays_isValid`), and its days are counted back to that day
(`Date.toDays_ofDays`).
-/
namespace Callout.Timestamp

/-! ## The year of an era -/

/-- The number of the year in which a day of an era falls. -/
def yearOfEra (day : Int) : Int := (day - day / 1460 + day / 36524 - day / 146096) / 365

/-- A day of an era as whole centuries, whole spans of four years, whole years, and days. The last year of a span
has one day more, except for that of the last span of a century, which has it in the last century only. -/
structure Cut (ofEra : Int) where
  century : Int
  span : Int
  year : Int
  day : Int
  century_range : 0 ≤ century ∧ century ≤ 3
  span_range : 0 ≤ span ∧ span ≤ 24
  year_range : 0 ≤ year ∧ year ≤ 3
  day_range : 0 ≤ day ∧ day ≤ 365
  leap : day = 365 → year = 3 ∧ (span = 24 → century = 3)
  sums : ofEra = 36524 * century + 1461 * span + 365 * year + day

namespace Cut
variable {ofEra : Int}

theorem nonempty (low : 0 ≤ ofEra) (high : ofEra < 146097) : Nonempty (Cut ofEra) := by
  obtain ⟨c,r,rfl,c0,c3,r0,r1,last⟩ :
      ∃ c r, ofEra = 36524 * c + r ∧ 0 ≤ c ∧ c ≤ 3 ∧ 0 ≤ r ∧ r ≤ 36524 ∧ (r = 36524 → c = 3) :=
    ⟨min (ofEra / 36524) 3,ofEra - 36524 * min (ofEra / 36524) 3,by omega⟩
  obtain ⟨s,r,rfl,s0,s24,r0,r1⟩ : ∃ s i, r = 1461 * s + i ∧ 0 ≤ s ∧ s ≤ 24 ∧ 0 ≤ i ∧ i ≤ 1460 :=
    ⟨r / 1461,r % 1461,by omega⟩
  obtain ⟨y,d,rfl,y0,y3,d0,d1,full⟩ :
      ∃ y d, r = 365 * y + d ∧ 0 ≤ y ∧ y ≤ 3 ∧ 0 ≤ d ∧ d ≤ 365 ∧ (d = 365 → y = 3) :=
    ⟨min (r / 365) 3,r - 365 * min (r / 365) 3,by omega⟩
  exact ⟨c,s,y,d,⟨c0,c3⟩,⟨s0,s24⟩,⟨y0,y3⟩,⟨d0,d1⟩,fun leap => ⟨full leap,by omega⟩,by omega⟩

/-- The number of the year. -/
def number (k : Cut ofEra) : Int := 100 * k.century + 4 * k.span + k.year

theorem number_range (k : Cut ofEra) : 0 ≤ k.number ∧ k.number < 400 := by
  have := k.century_range
  have := k.span_range
  have := k.year_range
  simp only [number]
  omega

theorem number_div_four (k : Cut ofEra) : k.number / 4 = 25 * k.century + k.span := by
  have := k.year_range
  simp only [number]
  omega

theorem number_div_hundred (k : Cut ofEra) : k.number / 100 = k.century := by
  have := k.span_range
  have := k.year_range
  simp only [number]
  omega

theorem yearOfEra_eq (k : Cut ofEra) : yearOfEra ofEra = k.number := by
  obtain ⟨c,s,y,d,_,_,_,_,_,sums⟩ := k
  have centuries : ofEra / 36524 - ofEra / 146096 = c := by
    by_cases last : ofEra = 146096
    · omega
    · have short : 1461 * s + 365 * y + d < 36524 := by omega
      omega
  -- The leap days before a year may make up one more span of 1460 days, but then its own days are enough.
  obtain ⟨extra,spans,least,most⟩ :
      ∃ extra, ofEra / 1460 = 25 * c + s + extra ∧ 0 ≤ d - extra ∧ d - extra ≤ 364 := by
    by_cases few : 24 * c + s + 365 * y + d < 1460
    · refine ⟨0,?_,?_⟩ <;> omega
    · refine ⟨1,?_,?_⟩ <;> omega
  simp only [yearOfEra, number]
  generalize ofEra / 1460 = p, ofEra / 36524 = q, ofEra / 146096 = r at *
  have whole : ofEra - p + q - r = 365 * (100 * c + 4 * s + y) + (d - extra) := by omega
  omega

theorem day_eq (k : Cut ofEra) : ofEra - (365 * k.number + k.number / 4 - k.number / 100) = k.day := by
  rw [k.number_div_four, k.number_div_hundred]
  simp only [number]
  have := k.sums
  omega

theorem isLeap_of_full (k : Cut ofEra) (full : k.day = 365) (era : Int) : isLeap (k.number + era * 400 + 1) := by
  obtain ⟨third,last⟩ := k.leap full
  have := k.century_range
  have := k.span_range
  simp only [isLeap, number, third, Bool.or_eq_true, Bool.and_eq_true, decide_eq_true_eq]
  omega

end Cut

/-! ## Years that begin in March -/

namespace Date
variable {era year day : Int}

/-- The date of a day of a year that begins in March. -/
def ofMarch (year day : Int) : Date :=
  let monthFromMarch := (5 * day + 2) / 153
  let month := if monthFromMarch < 10 then monthFromMarch + 3 else monthFromMarch - 9
  ⟨year + if month ≤ 2 then 1 else 0,month.toNat,(day - (153 * monthFromMarch + 2) / 5 + 1).toNat⟩

theorem ofMarch_month (first : 0 ≤ day) (last : day ≤ 365) :
    1 ≤ (ofMarch year day).month ∧ (ofMarch year day).month ≤ 12 := by
  simp only [ofMarch]
  omega

theorem ofMarch_day (first : 0 ≤ day) (last : day ≤ 365) (leap : day = 365 → isLeap (year + 1)) :
    1 ≤ (ofMarch year day).day ∧
      (ofMarch year day).day ≤ monthLength (ofMarch year day).year (ofMarch year day).month := by
  obtain ⟨m,eq,low,high⟩ : ∃ m : Int, (5 * day + 2) / 153 = m ∧ 0 ≤ m ∧ m < 12 := ⟨_,rfl,by omega,by omega⟩
  have within : 153 * m ≤ 5 * day + 2 ∧ 5 * day + 2 < 153 * m + 153 := by omega
  simp only [ofMarch, eq]
  interval_cases m
  -- February ends such a year, and its length is the only one that asks for the year.
  case «11» =>
    by_cases full : day = 365
    · simp [monthLength, leap full, full]
    · simp only [monthLength]
      split <;> simp <;> omega
  all_goals simp [monthLength]; omega

/-- The year of a date when years begin in March. -/
def marchYear (d : Date) : Int := if d.month ≤ 2 then d.year - 1 else d.year

/-- The day of a date in such a year. -/
def marchDay (d : Date) : Int := (153 * ((d.month + 9 : Int) % 12) + 2) / 5 + d.day - 1

theorem marchYear_ofMarch (first : 0 ≤ day) : (ofMarch year day).marchYear = year := by
  simp only [marchYear, ofMarch]
  omega

theorem marchDay_ofMarch (first : 0 ≤ day) (last : day ≤ 365) : (ofMarch year day).marchDay = day := by
  have low : 0 ≤ (5 * day + 2) / 153 := by omega
  have high : (5 * day + 2) / 153 < 12 := by omega
  have month : ((ofMarch year day).month + 9 : Int) % 12 = (5 * day + 2) / 153 := by
    simp only [ofMarch]
    omega
  rw [marchDay, month]
  simp only [ofMarch]
  omega

theorem toDays_ofMarch (low : 0 ≤ year) (high : year < 400) (first : 0 ≤ day) (last : day ≤ 365) :
    (ofMarch (year + era * 400) day).toDays =
      era * 146097 + (year * 365 + year / 4 - year / 100 + day) - 719468 := by
  have unfolded (d : Date) : d.toDays = d.marchYear / 400 * 146097 +
      ((d.marchYear - d.marchYear / 400 * 400) * 365 + (d.marchYear - d.marchYear / 400 * 400) / 4 -
        (d.marchYear - d.marchYear / 400 * 400) / 100 + d.marchDay) - 719468 := rfl
  have eras : (year + era * 400) / 400 = era := by omega
  rw [unfolded, marchYear_ofMarch first, marchDay_ofMarch first last, eras, Int.add_sub_cancel]

/-! ## The date of a day -/

theorem ofDays_eq (days : Int) : ∃ era year day : Int,
    ofDays days = ofMarch (year + era * 400) day ∧ 0 ≤ year ∧ year < 400 ∧ 0 ≤ day ∧ day ≤ 365 ∧
      (day = 365 → isLeap (year + era * 400 + 1)) ∧
      days = era * 146097 + (year * 365 + year / 4 - year / 100 + day) - 719468 := by
  let era := (days + 719468) / 146097
  let ofEra := days + 719468 - era * 146097
  obtain ⟨k⟩ : Nonempty (Cut ofEra) := Cut.nonempty (by omega) (by omega)
  obtain ⟨low,high⟩ := k.number_range
  obtain ⟨first,last⟩ := k.day_range
  have day := k.day_eq
  refine ⟨era,k.number,k.day,?_,low,high,first,last,fun full => k.isLeap_of_full full era,by omega⟩
  have unfolded : ofDays days = ofMarch (yearOfEra ofEra + era * 400)
      (ofEra - (365 * yearOfEra ofEra + yearOfEra ofEra / 4 - yearOfEra ofEra / 100)) := rfl
  rw [unfolded, k.yearOfEra_eq, day]

theorem toDays_ofDays (days : Int) : (ofDays days).toDays = days := by
  obtain ⟨era,year,day,eq,low,high,first,last,-,sums⟩ := ofDays_eq days
  rw [eq, toDays_ofMarch low high first last, sums]

theorem ofDays_isValid {days : Int} (inRange : yearInRange (ofDays days).year) : (ofDays days).isValid := by
  obtain ⟨era,year,day,eq,-,-,first,last,leap,-⟩ := ofDays_eq days
  have month : 1 ≤ (ofDays days).month ∧ (ofDays days).month ≤ 12 := eq ▸ ofMarch_month first last
  have date : 1 ≤ (ofDays days).day ∧ (ofDays days).day ≤ monthLength (ofDays days).year (ofDays days).month :=
    eq ▸ ofMarch_day first last leap
  simp [isValid, inRange, month, date]

end Date
end Callout.Timestamp
