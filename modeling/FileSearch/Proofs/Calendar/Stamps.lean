import FileSearch.Calendar
import FileSearch.Proofs.Json.Scalars

/-!
# Stamps of times

No two days have the same date and no two seconds the same universal time, before 1970 as well
as after it. The stamp of a result file spells the year out and gives two digits to each of the
other parts, so where universal time is kept it is the stamp of one second only.
-/

set_option autoImplicit false

namespace FileSearch.Calendar

structure Counted (day era : Int) (century cycle year month rest : Nat) : Prop where
  century_le : century ≤ 3
  cycle_le : cycle ≤ 24
  year_le : year ≤ 3
  month_le : month ≤ 11
  rest_le : rest ≤ 30
  day_eq : day + epochDays = eraDays * era +
    (centuryDays * century + cycleDays * cycle + yearDays * year +
      ((153 * month + 2) / 5 + rest) : Nat)

def counted (era : Int) (century cycle year month rest : Nat) : Int × Nat × Nat :=
  let march := 400 * era + (100 * century + 4 * cycle + year : Nat)
  if month < 10 then (march, month + 3, rest + 1) else (march + 1, month - 9, rest + 1)

theorem date_counted (day : Int) :
    ∃ era century cycle year month rest, Counted day era century cycle year month rest ∧
      dateOf day = counted era century cycle year month rest := by
  let inEra := ((day + epochDays).fmod eraDays).toNat
  let century := min (inEra / centuryDays) 3
  let inCentury := inEra - century * centuryDays
  let cycle := inCentury / cycleDays
  let inCycle := inCentury - cycle * cycleDays
  let year := min (inCycle / yearDays) 3
  let inYear := inCycle - year * yearDays
  let month := (5 * inYear + 2) / 153
  refine ⟨(day + epochDays).fdiv eraDays, century, cycle, year, month,
    inYear - (153 * month + 2) / 5, ?_, rfl⟩
  obtain ⟨hera, hinEra⟩ : day + epochDays = eraDays * (day + epochDays).fdiv eraDays + inEra ∧
      inEra < 146097 := by
    have hsplit := Int.mul_fdiv_add_fmod (day + epochDays) eraDays
    have hnonneg := Int.fmod_nonneg_of_pos (day + epochDays) (show 0 < eraDays by decide)
    have hless : (day + epochDays).fmod eraDays < 146097 := Int.fmod_lt_of_pos _ (by decide)
    omega
  obtain ⟨hcentury, hcenturies, hinCentury⟩ :
      century ≤ 3 ∧ centuryDays * century + inCentury = inEra ∧ inCentury ≤ 36524 := by
    simp only [century, inCentury, centuryDays]
    omega
  obtain ⟨hcycle, hcycles, hinCycle⟩ :
      cycle ≤ 24 ∧ cycleDays * cycle + inCycle = inCentury ∧ inCycle ≤ 1460 := by
    simp only [cycle, inCycle, cycleDays]
    omega
  obtain ⟨hyear, hyears, hinYear⟩ :
      year ≤ 3 ∧ yearDays * year + inYear = inCycle ∧ inYear ≤ 365 := by
    simp only [year, inYear, yearDays]
    omega
  have hmonth : month ≤ 11 := by omega
  have hfront : (153 * month + 2) / 5 ≤ inYear := by omega
  exact ⟨hcentury, hcycle, hyear, hmonth, by omega, by omega⟩

/-- The years of an era are numbered without gaps. -/
theorem years_unique {era era' : Int} {century century' cycle cycle' year year' : Nat}
    (hcentury : century ≤ 3) (hcycle : cycle ≤ 24) (hyear : year ≤ 3)
    (hcentury' : century' ≤ 3) (hcycle' : cycle' ≤ 24) (hyear' : year' ≤ 3)
    (h : 400 * era + (100 * century + 4 * cycle + year : Nat) =
      400 * era' + (100 * century' + 4 * cycle' + year' : Nat)) :
    era = era' ∧ century = century' ∧ cycle = cycle' ∧ year = year' := by
  obtain rfl : era = era' := by omega
  obtain rfl : century = century' := by omega
  omega

theorem counted_unique {day day' era era' : Int}
    {century century' cycle cycle' year year' month month' rest rest' : Nat}
    (h : Counted day era century cycle year month rest)
    (h' : Counted day' era' century' cycle' year' month' rest')
    (hdate : counted era century cycle year month rest =
      counted era' century' cycle' year' month' rest') : day = day' := by
  have hmonths := h.month_le
  have hmonths' := h'.month_le
  obtain ⟨hyears, rfl, rfl⟩ : 400 * era + (100 * century + 4 * cycle + year : Nat) =
      400 * era' + (100 * century' + 4 * cycle' + year' : Nat) ∧ month = month' ∧ rest = rest' := by
    simp only [counted] at hdate
    split at hdate <;> split at hdate <;> simp only [Prod.mk.injEq] at hdate <;> omega
  obtain ⟨rfl, rfl, rfl, rfl⟩ := years_unique h.century_le h.cycle_le h.year_le h'.century_le
    h'.cycle_le h'.year_le hyears
  have hday := h.day_eq.trans h'.day_eq.symm
  omega

theorem date_injective {day day' : Int} (h : dateOf day = dateOf day') : day = day' := by
  obtain ⟨_, _, _, _, _, _, hcounted, hdate⟩ := date_counted day
  obtain ⟨_, _, _, _, _, _, hcounted', hdate'⟩ := date_counted day'
  rw [hdate, hdate'] at h
  exact counted_unique hcounted hcounted' h

def timeOf (seconds : Int) : Nat := (seconds.fmod 86400).toNat

theorem seconds_split (seconds : Int) :
    seconds = 86400 * seconds.fdiv 86400 + timeOf seconds ∧ timeOf seconds < 86400 := by
  have hsplit := Int.mul_fdiv_add_fmod seconds 86400
  have hnonneg := Int.fmod_nonneg_of_pos seconds (show 0 < 86400 by decide)
  have hless : seconds.fmod 86400 < 86400 := Int.fmod_lt_of_pos _ (by decide)
  rw [timeOf]
  omega

theorem of_seconds_eq (seconds : Int) :
    ofSeconds seconds =
      ⟨(dateOf (seconds.fdiv 86400)).1, (dateOf (seconds.fdiv 86400)).2.1,
        (dateOf (seconds.fdiv 86400)).2.2, timeOf seconds / 3600, timeOf seconds / 60 % 60,
        timeOf seconds % 60⟩ := rfl

theorem time_parts (time : Nat) :
    time = 3600 * (time / 3600) + 60 * (time / 60 % 60) + time % 60 := by
  omega

theorem of_seconds_injective {a b : Int} (h : ofSeconds a = ofSeconds b) : a = b := by
  rw [of_seconds_eq, of_seconds_eq, Calendar.mk.injEq] at h
  obtain ⟨hyear, hmonth, hday, hhour, hminute, hsecond⟩ := h
  have hdays := date_injective (Prod.ext hyear (Prod.ext hmonth hday))
  have htime : timeOf a = timeOf b := by
    rw [time_parts (timeOf a), hhour, hminute, hsecond, ← time_parts]
  rw [(seconds_split a).1, (seconds_split b).1, hdays, htime]

structure Short (c : Calendar) : Prop where
  month : c.month < 100
  day : c.day < 100
  hour : c.hour < 100
  minute : c.minute < 100
  second : c.second < 100

theorem of_seconds_short (seconds : Int) : (ofSeconds seconds).Short := by
  obtain ⟨era, century, cycle, year, month, rest, hcounted, hdate⟩ :=
    date_counted (seconds.fdiv 86400)
  have hmonth := hcounted.month_le
  have hrest := hcounted.rest_le
  have htime := (seconds_split seconds).2
  rw [of_seconds_eq, hdate, counted]
  constructor
  case month => dsimp only; split <;> dsimp only <;> omega
  case day => dsimp only; split <;> dsimp only <;> omega
  all_goals
    dsimp only
    omega

theorem digits_one {n : Nat} (h : n < 10) : Nat.toDigits 10 n = [Nat.digitChar n] := by
  rw [Nat.toDigits_eq_if (by decide), if_pos h]

theorem two_digits (n : Nat) (h : n < 100) :
    (two n).toList = [Nat.digitChar (n / 10), Nat.digitChar (n % 10)] := by
  have htext : (toString n).toList = Nat.toDigits 10 n := by
    rw [show toString n = n.repr from rfl, Nat.repr_eq_ofList_toDigits, String.toList_ofList]
  rw [two]
  split
  · next hone =>
    rw [Nat.div_eq_of_lt hone, Nat.mod_eq_of_lt hone]
    change ("0" ++ toString n).toList = _
    rw [String.toList_append, htext, digits_one hone]
    rfl
  · next hmore =>
    rw [htext, Nat.toDigits_eq_if (by decide), if_neg hmore, digits_one (by omega)]
    rfl

theorem digit_char_injective : ∀ d < 10, ∀ e < 10, Nat.digitChar d = Nat.digitChar e → d = e := by
  decide

theorem two_injective {m n : Nat} (hm : m < 100) (hn : n < 100)
    (h : (two m).toList = (two n).toList) : m = n := by
  rw [two_digits m hm, two_digits n hn] at h
  simp only [List.cons.injEq, and_true] at h
  have htens := digit_char_injective _ (by omega) _ (by omega) h.1
  have hones := digit_char_injective _ (by omega) _ (by omega) h.2
  omega

theorem two_length {n : Nat} (h : n < 100) : (two n).toList.length = 2 := by
  rw [two_digits n h]
  rfl

theorem year_no_slash (year : Int) : '/' ∉ year.repr.toList := by
  intro hmem
  rcases Json.int_char (n := year) hmem with hsign | hdigit
  · cases hsign
  · cases hdigit

theorem result_stamp_list (c : Calendar) :
    c.resultStamp.toList = c.year.repr.toList ++ ((two c.month).toList ++
      ((two c.day).toList ++ ('_' :: ((two c.hour).toList ++ ((two c.minute).toList ++
        (two c.second).toList))))) := by
  simp [resultStamp]

theorem stamp_injective {c d : Calendar} (hc : c.Short) (hd : d.Short)
    (h : c.resultStamp = d.resultStamp) : c = d := by
  have hlist := congrArg String.toList h
  rw [result_stamp_list, result_stamp_list] at hlist
  -- behind the year all stamps have the same length
  obtain ⟨hyear, hlist⟩ := List.append_inj' hlist (by
    simp [two_length hc.month, two_length hc.day, two_length hc.hour, two_length hc.minute,
      two_length hc.second, two_length hd.month, two_length hd.day, two_length hd.hour,
      two_length hd.minute, two_length hd.second])
  obtain ⟨hmonth, hlist⟩ := List.append_inj hlist
    ((two_length hc.month).trans (two_length hd.month).symm)
  obtain ⟨hday, hlist⟩ := List.append_inj hlist
    ((two_length hc.day).trans (two_length hd.day).symm)
  obtain ⟨hhour, hlist⟩ := List.append_inj (List.cons.inj hlist).2
    ((two_length hc.hour).trans (two_length hd.hour).symm)
  obtain ⟨hminute, hsecond⟩ := List.append_inj hlist
    ((two_length hc.minute).trans (two_length hd.minute).symm)
  have hyears := Json.int_injective (String.toList_inj.1 hyear)
  obtain ⟨_, _, _, _, _, _⟩ := c
  obtain ⟨_, _, _, _, _, _⟩ := d
  rw [Calendar.mk.injEq]
  exact ⟨hyears, two_injective hc.month hd.month hmonth, two_injective hc.day hd.day hday,
    two_injective hc.hour hd.hour hhour, two_injective hc.minute hd.minute hminute,
    two_injective hc.second hd.second hsecond⟩

/-- In universal time the stamp of a result file tells the second. -/
theorem result_stamp_injective {a b : Int}
    (h : (ofSeconds a).resultStamp = (ofSeconds b).resultStamp) : a = b :=
  of_seconds_injective (stamp_injective (of_seconds_short a) (of_seconds_short b) h)

theorem two_no_slash (n : Nat) : '/' ∉ (two n).toList := by
  have htext : '/' ∉ (toString n).toList := year_no_slash n
  rw [two]
  split
  · change '/' ∉ ("0" ++ toString n).toList
    rw [String.toList_append, List.mem_append]
    exact not_or.2 ⟨by decide, htext⟩
  · exact htext

theorem result_stamp_no_slash (c : Calendar) : '/' ∉ c.resultStamp.toList := by
  simp [result_stamp_list, year_no_slash, two_no_slash]

end FileSearch.Calendar
