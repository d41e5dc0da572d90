import Mathlib
import TransitRevenue.Calendar.Moment
/-!
The day numbering is a bijection between the dates that exist and the integers it reaches:
`Date.epochDays_ofEpochDays` (every day number names a date that numbers back to it) and
`Date.ofEpochDays_epochDays` (a valid date survives the way there and back). From them, the
moment arithmetic keeps instants: writing a moment in UTC does not move it
(`Moment.instant_toUtc`), and truncating that to milliseconds moves it down to the last whole
millisecond (`Moment.instant_toUtc_truncateMillis`). Midnight UTC of a valid date is already
in that form (`Moment.stored_startOfDay`).

The arithmetic behind the day numbers splits an era of 400 years into centuries of 36524 days
and those into leap cycles of 1461; the three-digit decomposition of the year of the era is
what `omega` needs to see the divisions through.
-/

namespace TransitRevenue

namespace Date

/-! ## Years of an era -/

/-- Reading a day of an era back as a year and a day of that (March-based) year lands in
range: the year is one of the era's 400 and the day one of the year's at most 366. -/
theorem yearOfEra_bounds (doe : Int) (h0 : 0 ≤ doe) (h1 : doe ≤ 146096) :
    let yoe := (doe - doe / 1460 + doe / 36524 - doe / 146096) / 365
    0 ≤ yoe ∧ yoe ≤ 399 ∧ 0 ≤ doe - (365 * yoe + yoe / 4 - yoe / 100) ∧
      doe - (365 * yoe + yoe / 4 - yoe / 100) ≤ 365 := by
  intro yoe
  rcases (show doe = 146096 ∨ doe < 146096 by omega) with rfl | hlt
  · decide
  -- the day of the era as century, leap cycle and day of the cycle
  obtain ⟨c, r1, hr1, hr1', hdoe⟩ : ∃ c r1, 0 ≤ r1 ∧ r1 < 36524 ∧ doe = 36524 * c + r1 :=
    ⟨doe / 36524, doe % 36524, by omega, by omega, by omega⟩
  obtain ⟨q, r2, hr2, hr2', hr1e⟩ : ∃ q r2, 0 ≤ r2 ∧ r2 < 1461 ∧ r1 = 1461 * q + r2 :=
    ⟨r1 / 1461, r1 % 1461, by omega, by omega, by omega⟩
  have hc : 0 ≤ c ∧ c ≤ 3 := by omega
  have hq : 0 ≤ q ∧ q ≤ 24 := by omega
  have h1460 : doe / 1460 = 25 * c + q + (24 * c + q + r2) / 1460 := by omega
  have h36524 : doe / 36524 = c := by omega
  have h146096 : doe / 146096 = 0 := by omega
  obtain ⟨k, hk0, hk3, hy, hlo, hhi⟩ :
      ∃ k, 0 ≤ k ∧ k ≤ 3 ∧ yoe = 100 * c + 4 * q + k ∧ 365 * k ≤ r2 ∧ r2 ≤ 365 * k + 365 := by
    refine ⟨(r2 - (24 * c + q + r2) / 1460) / 365, ?_, ?_, ?_, ?_, ?_⟩ <;> omega
  have h4 : yoe / 4 = 25 * c + q := by omega
  have h100 : yoe / 100 = c := by omega
  omega

/-- A day of a year of the era, short of the year's length (366 days only when the year's
February has a 29th), reads back as that year. -/
theorem yearOfEra_inverse (yoe doy : Int) (hy0 : 0 ≤ yoe) (hy1 : yoe ≤ 399) (hd0 : 0 ≤ doy)
    (hd1 : doy ≤ 364 ∨ (doy = 365 ∧ (yoe + 1) % 4 = 0 ∧ ((yoe + 1) % 100 ≠ 0 ∨ yoe = 399))) :
    let doe := 365 * yoe + yoe / 4 - yoe / 100 + doy
    (doe - doe / 1460 + doe / 36524 - doe / 146096) / 365 = yoe := by
  intro doe
  -- the year of the era as century, leap cycle and year of the cycle
  obtain ⟨c, r1, hr1, hr1', hyoe⟩ : ∃ c r1, 0 ≤ r1 ∧ r1 < 100 ∧ yoe = 100 * c + r1 :=
    ⟨yoe / 100, yoe % 100, by omega, by omega, by omega⟩
  obtain ⟨q, k, hk, hk', hr1e⟩ : ∃ q k, 0 ≤ k ∧ k < 4 ∧ r1 = 4 * q + k :=
    ⟨r1 / 4, r1 % 4, by omega, by omega, by omega⟩
  have hc : 0 ≤ c ∧ c ≤ 3 := by omega
  have hq : 0 ≤ q ∧ q ≤ 24 := by omega
  have h4 : yoe / 4 = 25 * c + q := by omega
  have h100 : yoe / 100 = c := by omega
  have hdoe : doe = 36524 * c + 1461 * q + 365 * k + doy := by omega
  have hd2 : doy ≤ 364 ∨ (doy = 365 ∧ k = 3 ∧ (q ≠ 24 ∨ c = 3)) := by
    rcases hd1 with hd | ⟨hd, hl4, hl100⟩
    · exact .inl hd
    · refine .inr ⟨hd, by omega, ?_⟩
      rcases hl100 with h | h <;> omega
  clear hd1
  rcases (show doe = 146096 ∨ doe < 146096 by omega) with h | h
  · omega
  have h36524 : doe / 36524 = c := by omega
  have h146096 : doe / 146096 = 0 := by omega
  have h1460 : doe / 1460 = 25 * c + q + (24 * c + q + 365 * k + doy) / 1460 := by omega
  omega

/-! ## Months counted from March -/

/-- The month counted from March: March is 0 and February 11, so that a leap day ends the
year. -/
def marchMonth (month : Nat) : Int := if month > 2 then (month : Int) - 3 else (month : Int) + 9

/-- A day of a month that exists lands on a day of the March-based year from which the month
reads back, and only the 29th of a leap February reaches the year's 366th day. -/
theorem marchDay_bounds (year : Int) (month day : Nat) (hm1 : 1 ≤ month) (hm2 : month ≤ 12)
    (hd1 : 1 ≤ day) (hd2 : day ≤ monthLength year month) :
    (5 * ((153 * marchMonth month + 2) / 5 + day - 1) + 2) / 153 = marchMonth month ∧
      0 ≤ (153 * marchMonth month + 2) / 5 + day - 1 ∧
      ((153 * marchMonth month + 2) / 5 + day - 1 ≤ 364 ∨
        ((153 * marchMonth month + 2) / 5 + day - 1 = 365 ∧ month = 2 ∧ isLeap year = true)) := by
  interval_cases month <;> simp only [monthLength, marchMonth] at hd2 ⊢
  case «2» =>
    split at hd2
    next hleap =>
      rcases Nat.lt_or_ge day 29 with h | h
      · exact ⟨by omega, by omega, .inl (by omega)⟩
      · exact ⟨by omega, by omega, .inr ⟨by omega, trivial, hleap⟩⟩
    next => omega
  all_goals omega

/-! ## There and back -/

/-- Every day number names a date that numbers back to it. -/
theorem epochDays_ofEpochDays (n : Int) : (ofEpochDays n).epochDays = n := by
  simp only [ofEpochDays, epochDays]
  obtain ⟨era, hera⟩ : ∃ era, era = (n + 719468) / 146097 := ⟨_, rfl⟩
  obtain ⟨doe, hdoe⟩ : ∃ doe, doe = n + 719468 - era * 146097 := ⟨_, rfl⟩
  simp only [← hera, ← hdoe]
  have hdoe' : 0 ≤ doe ∧ doe ≤ 146096 := by omega
  obtain ⟨hy0, hy1, hd0, hd1⟩ := yearOfEra_bounds doe hdoe'.1 hdoe'.2
  obtain ⟨yoe, hyoe⟩ : ∃ yoe, yoe = (doe - doe / 1460 + doe / 36524 - doe / 146096) / 365 :=
    ⟨_, rfl⟩
  simp only [← hyoe] at hy0 hy1 hd0 hd1 ⊢
  obtain ⟨doy, hdoy⟩ : ∃ doy, doy = doe - (365 * yoe + yoe / 4 - yoe / 100) := ⟨_, rfl⟩
  simp only [← hdoy] at hd0 hd1 ⊢
  obtain ⟨mp, hmp⟩ : ∃ mp, mp = (5 * doy + 2) / 153 := ⟨_, rfl⟩
  simp only [← hmp]
  have hmp' : 0 ≤ mp ∧ mp ≤ 11 := by omega
  have hd : ((doy - (153 * mp + 2) / 5 + 1).toNat : Int) = doy - (153 * mp + 2) / 5 + 1 :=
    Int.toNat_of_nonneg (by omega)
  -- March to December stay in the year; January and February end it
  rcases Int.lt_or_le mp 10 with hlt | hge
  · have hm : ((mp + 3).toNat : Int) = mp + 3 := Int.toNat_of_nonneg (by omega)
    have hm2 : ¬ ((mp + 3).toNat ≤ 2) := by omega
    have hy : (yoe + era * 400) / 400 = era := by omega
    simp only [hlt, if_true, show ¬ (mp + 3 ≤ 2) by omega, if_false, hm2, hm, hd, hy,
      show (mp + 3).toNat > 2 by omega, Int.add_sub_cancel]
    omega
  · have hm : ((mp - 9).toNat : Int) = mp - 9 := Int.toNat_of_nonneg (by omega)
    have hm2 : (mp - 9).toNat ≤ 2 := by omega
    have hy : (yoe + era * 400) / 400 = era := by omega
    simp only [show ¬ (mp < 10) by omega, if_false, show mp - 9 ≤ 2 by omega, if_true, hm2, hm, hd,
      show ¬ ((mp - 9).toNat > 2) by omega, Int.add_sub_cancel, Int.sub_add_cancel, hy]
    omega

/-- A date that exists survives numbering and naming its day. -/
theorem ofEpochDays_epochDays (d : Date) (h : d.valid = true) : ofEpochDays d.epochDays = d := by
  obtain ⟨year, month, day⟩ := d
  simp only [valid, Bool.and_eq_true, decide_eq_true_eq] at h
  obtain ⟨⟨⟨⟨⟨hy1, hy2⟩, hm1⟩, hm2⟩, hd1⟩, hd2⟩ := h
  obtain ⟨hmp, hdoy0, hlen⟩ := marchDay_bounds year month day hm1 hm2 hd1 hd2
  simp only [epochDays, ofEpochDays]
  rw [show (if month > 2 then (month : Int) - 3 else (month : Int) + 9) = marchMonth month from rfl]
  obtain ⟨mp, hmp'⟩ : ∃ mp, mp = marchMonth month := ⟨_, rfl⟩
  simp only [← hmp'] at hmp hdoy0 hlen ⊢
  obtain ⟨y, hy⟩ : ∃ y : Int, y = if month ≤ 2 then year - 1 else year := ⟨_, rfl⟩
  simp only [← hy]
  obtain ⟨era, hera⟩ : ∃ era, era = y / 400 := ⟨_, rfl⟩
  obtain ⟨yoe, hyoe⟩ : ∃ yoe, yoe = y - era * 400 := ⟨_, rfl⟩
  obtain ⟨doy, hdoy⟩ : ∃ doy, doy = (153 * mp + 2) / 5 + (day : Int) - 1 := ⟨_, rfl⟩
  simp only [← hera, ← hyoe, ← hdoy] at hmp hdoy0 hlen ⊢
  have hyoe' : 0 ≤ yoe ∧ yoe ≤ 399 := by omega
  -- a 366th day is the 29th of a leap February, which closes a leap year of the era
  have hdoy1 : doy ≤ 364 ∨ (doy = 365 ∧ (yoe + 1) % 4 = 0 ∧ ((yoe + 1) % 100 ≠ 0 ∨ yoe = 399)) := by
    rcases hlen with h | ⟨h, rfl, hleap⟩
    · exact .inl h
    · simp only [isLeap, Bool.and_eq_true, Bool.or_eq_true, bne_iff_ne, ne_eq, beq_iff_eq] at hleap
      simp only [show (2 ≤ 2) = True from propext ⟨fun _ => trivial, fun _ => by omega⟩, if_true] at hy
      refine .inr ⟨h, by omega, ?_⟩
      rcases hleap.2 with h' | h' <;> omega
  have hinv := yearOfEra_inverse yoe doy hyoe'.1 hyoe'.2 hdoy0 hdoy1
  simp only at hinv
  obtain ⟨doe, hdoe⟩ : ∃ doe, doe = yoe * 365 + yoe / 4 - yoe / 100 + doy := ⟨_, rfl⟩
  have hdoe' : 0 ≤ doe ∧ doe ≤ 146096 := by omega
  rw [show 365 * yoe + yoe / 4 - yoe / 100 + doy = doe by omega] at hinv
  simp only [← hdoe, Int.sub_add_cancel, show (era * 146097 + doe) / 146097 = era by omega,
    show era * 146097 + doe - era * 146097 = doe by omega, hinv,
    show doe - (365 * yoe + yoe / 4 - yoe / 100) = doy by omega, hmp,
    show doy - (153 * mp + 2) / 5 + 1 = day by omega, Int.toNat_natCast]
  rcases Nat.lt_or_ge 2 month with hm | hm
  · simp only [marchMonth, show month > 2 from hm, if_true] at hmp'
    simp only [show ¬ (month ≤ 2) by omega, if_false] at hy
    simp only [show mp < 10 by omega, if_true, show ¬ (mp + 3 ≤ 2) by omega, if_false,
      show yoe + era * 400 = year by omega, show (mp + 3).toNat = month by omega]
  · simp only [marchMonth, show ¬ (month > 2) by omega, if_false] at hmp'
    simp only [show month ≤ 2 from hm, if_true] at hy
    simp only [show ¬ (mp < 10) by omega, if_false, show mp - 9 ≤ 2 by omega, if_true,
      show yoe + era * 400 + 1 = year by omega, show (mp - 9).toNat = month by omega]

/-- Two dates that exist and share a day number are the same date. -/
theorem eq_of_epochDays_eq {d d' : Date} (hd : d.valid = true) (hd' : d'.valid = true)
    (h : d.epochDays = d'.epochDays) : d = d' := by
  rw [← ofEpochDays_epochDays d hd, ← ofEpochDays_epochDays d' hd', h]

end Date

namespace Moment

/-! ## Instants -/

/-- Splitting wall-clock microseconds into a date and a time of day loses nothing. -/
theorem localMicros_ofLocalMicros (us : Int) (o : Option Int) :
    (ofLocalMicros us o).localMicros = us := by
  simp only [ofLocalMicros, localMicros, Date.epochDays_ofEpochDays, usDay, usSecond]
  have h := Int.emod_nonneg us (show (86400 * 1000000 : Int) ≠ 0 by decide)
  have h2 := Int.toNat_of_nonneg h
  omega

@[simp] theorem offset_ofLocalMicros (us : Int) (o : Option Int) : (ofLocalMicros us o).offset = o :=
  rfl

@[simp] theorem instant_ofInstant (us o : Int) : (ofInstant us o).instant = us := by
  simp only [instant, ofInstant, localMicros_ofLocalMicros, offset_ofLocalMicros, Option.getD_some]
  omega

@[simp] theorem offset_toUtc (t : Moment) : t.toUtc.offset = some 0 := rfl

/-- Writing a moment in UTC keeps its instant. -/
@[simp] theorem instant_toUtc (t : Moment) : t.toUtc.instant = t.instant := instant_ofInstant _ _

theorem toUtc_toUtc (t : Moment) : t.toUtc.toUtc = t.toUtc := by
  rw [toUtc, instant_toUtc]
  rfl

/-- The form a moment is stored in, UTC truncated to milliseconds, is the same instant moved
down to its last whole millisecond. -/
theorem instant_toUtc_truncateMillis (t : Moment) :
    t.toUtc.truncateMillis.instant = t.instant - t.instant % 1000 := by
  have h := instant_toUtc t
  simp only [toUtc, ofInstant, ofLocalMicros, truncateMillis, instant, localMicros,
    Date.epochDays_ofEpochDays, usDay, usSecond, Option.getD_some] at h ⊢
  have hr := Int.emod_nonneg (t.localMicros - t.offset.getD 0 * 1000000 + 0 * 1000000)
    (show (86400 * 1000000 : Int) ≠ 0 by decide)
  have hr' := Int.toNat_of_nonneg hr
  omega

/-! ## Midnights -/

@[simp] theorem date_startOfDay (d : Date) : (startOfDay d).date = d := rfl

@[simp] theorem instant_startOfDay (d : Date) : (startOfDay d).instant = d.epochDays * usDay := by
  simp [startOfDay, instant, localMicros]

/-- Midnight UTC of a date that exists is already written in UTC. -/
theorem toUtc_startOfDay {d : Date} (hd : d.valid = true) : (startOfDay d).toUtc = startOfDay d := by
  have hsplit : (d.epochDays * usDay + 0 * usSecond) / usDay = d.epochDays ∧
      (d.epochDays * usDay + 0 * usSecond) % usDay = 0 := by
    simp only [usDay, usSecond]
    omega
  rw [toUtc, instant_startOfDay]
  simp only [ofInstant, ofLocalMicros, hsplit.1, hsplit.2, Date.ofEpochDays_epochDays d hd, startOfDay]
  rfl

/-- Midnight UTC of a date that exists is already in stored form. -/
theorem stored_startOfDay {d : Date} (hd : d.valid = true) :
    (startOfDay d).toUtc.truncateMillis = startOfDay d := by
  rw [toUtc_startOfDay hd]
  simp [truncateMillis, startOfDay]

end Moment

end TransitRevenue
