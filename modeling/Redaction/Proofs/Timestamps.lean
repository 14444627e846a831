import Redaction.Proofs.Calendar
import Redaction.Proofs.Fractions

/-!
# What timestamps say

The text of a timestamp is a date-time whose fields are those of its date and of its second of the
day, and reading it gives the second and its nanoseconds back (`dateTime?_json`). RFC 3339 has no
more than four digits for a year and no leap seconds but at the ends of months, while the calendar
goes far beyond (`exists_year_of_five_digits`); what is shown outside of RFC 3339 is just that
(`json_dateTime`).

* `dateTime?_digits`: numbers with their separators are read one after the other.
* `dateTime?_text`: so the text of a timestamp is read if its year has four digits.
* `year_lt_iff`: years in seconds.
-/

namespace Redaction.Render

open Number

/-! ### Parts of texts -/

theorem number?_paddedDigits {width n : Nat} (hwidth : 0 < width) (h : n < 10 ^ width)
    (cs : List Char) : number? width (paddedDigits width n ++ cs) = some (n, cs) := by
  have hlength := length_paddedDigits hwidth h
  have htake : (paddedDigits width n ++ cs).take width = paddedDigits width n :=
    List.take_left' hlength
  have hdrop : (paddedDigits width n ++ cs).drop width = cs := List.drop_left' hlength
  have hdigits : (paddedDigits width n).all Char.isDigit :=
    List.all_eq_true.mpr fun _ => isDigit_of_mem_paddedDigits
  rw [number?, htake, hdrop, if_pos ⟨hlength, hdigits⟩, ofDigitChars_paddedDigits]

/-- A reader goes on behind a number. -/
theorem bind_number? {α : Type} {width n : Nat} (hwidth : 0 < width) (h : n < 10 ^ width)
    (cs : List Char) (k : Nat × List Char → Option α) :
    (number? width (paddedDigits width n ++ cs) >>= k) = k (n, cs) := by
  rw [number?_paddedDigits hwidth h]
  rfl

/-- A reader goes on behind a separator. -/
theorem bind_behind? {α : Type} (c : Char) (cs : List Char) (k : List Char → Option α) :
    (behind? c (c :: cs) >>= k) = k cs := by
  rw [behind?, List.head?_cons, if_pos rfl]
  rfl

/-- **Numbers with their separators are read** as the fields of a date-time. -/
theorem dateTime?_digits {year month day hour minute second n : Nat} (hyear : year < 10 ^ 4)
    (hmonth : month < 10 ^ 2) (hday : day < 10 ^ 2) (hhour : hour < 10 ^ 2)
    (hminute : minute < 10 ^ 2) (hsecond : second < 10 ^ 2) (d : DateTime)
    (hd : d = ⟨⟨year, month, day⟩, hour, minute, second, fractionDigits n⟩) :
    dateTime? (paddedDigits 4 year ++ '-' :: (paddedDigits 2 month ++ '-' :: (paddedDigits 2 day ++
      'T' :: (paddedDigits 2 hour ++ ':' :: (paddedDigits 2 minute ++ ':' ::
        (paddedDigits 2 second ++ (fraction n ++ ['Z']))))))) =
      if d.IsValid then some d else none := by
  have hfraction := fraction?_fraction (n := n) (by decide : 'Z' ≠ '.') (by decide) []
  unfold dateTime?
  refine (bind_number? (by decide) hyear _ _).trans <| (bind_behind? '-' _ _).trans <|
    (bind_number? Nat.two_pos hmonth _ _).trans <| (bind_behind? '-' _ _).trans <|
    (bind_number? Nat.two_pos hday _ _).trans <| (bind_behind? 'T' _ _).trans <|
    (bind_number? Nat.two_pos hhour _ _).trans <| (bind_behind? ':' _ _).trans <|
    (bind_number? Nat.two_pos hminute _ _).trans <| (bind_behind? ':' _ _).trans <|
    (bind_number? Nat.two_pos hsecond _ _).trans ?_
  dsimp only
  rw [hfraction, Option.bind_eq_bind, Option.bind_some]
  simp only [true_and, hd]

namespace Timestamp

variable {t t' : Timestamp}

/-! ### Years in seconds -/

/-- **A timestamp is before a year exactly if it is before its first second.** -/
theorem year_lt_iff (t : Timestamp) (year : Int) :
    t.date.year < year ↔ t.seconds.toInt < 86400 * Date.dayNumber ⟨year, 1, 1⟩ := by
  rw [date, Date.year_ofDays_lt_iff, secondsPerDay]
  omega

/-- The timestamps whose years have four digits. -/
theorem year_iff (t : Timestamp) : (0 ≤ t.date.year ∧ t.date.year ≤ 9999) ↔
    -62167219200 ≤ t.seconds.toInt ∧ t.seconds.toInt ≤ 253402300799 := by
  have hfirst := t.year_lt_iff 0
  have hlast := t.year_lt_iff 10000
  rw [Date.dayNumber_newYear] at hfirst hlast
  norm_num [Date.daysBeforeYear] at hfirst hlast
  omega

/-- The timestamps of the calendar. -/
theorem inCalendar_iff (t : Timestamp) : (firstYear ≤ t.date.year ∧ t.date.year ≤ lastYear) ↔
    -8334601228800 ≤ t.seconds.toInt ∧ t.seconds.toInt ≤ 8210266876799 := by
  have hfirst := t.year_lt_iff (-262143)
  have hlast := t.year_lt_iff 262143
  rw [Date.dayNumber_newYear] at hfirst hlast
  norm_num [Date.daysBeforeYear] at hfirst hlast
  rw [firstYear, lastYear]
  omega

/-! ### The fields of a timestamp -/

/-- The nanoseconds, which are not negative. -/
def nanosNat (t : Timestamp) : Nat := t.nanos.toInt.toNat

/-- **The date-time of a timestamp.** A second of nanoseconds stands for a leap second. -/
def dateTime (t : Timestamp) : DateTime :=
  ⟨t.date, t.secondOfDay / 3600, t.secondOfDay / 60 % 60,
    t.secondOfDay % 60 + t.nanosNat / nanosPerSecond, fractionDigits (t.nanosNat % nanosPerSecond)⟩

/-- The last second of a month. -/
def EndsMonth (t : Timestamp) : Prop :=
  t.seconds.toInt % 86400 = 86399 ∧ t.date.day = Date.daysInMonth t.date.year t.date.month

theorem secondOfDay_lt (t : Timestamp) : t.secondOfDay < 86400 := by
  unfold secondOfDay secondsPerDay
  omega

/-- Whether there are a second of nanoseconds, or two of them in the last second of a minute. -/
theorem hasNanos_iff (t : Timestamp) : t.hasNanos ↔ 0 ≤ t.nanos.toInt ∧ t.nanos.toInt < 2000000000 ∧
    (t.nanos.toInt < 1000000000 ∨ t.seconds.toInt % 60 = 59) := by
  have hminute : t.secondOfDay % 60 = 59 ↔ t.seconds.toInt % 60 = 59 := by
    unfold secondOfDay secondsPerDay
    omega
  have hnanos : (nanosPerSecond : Int) = 1000000000 := rfl
  simp only [hasNanos, Bool.and_eq_true, Bool.or_eq_true, decide_eq_true_eq, beq_iff_eq, hminute,
    hnanos]
  omega

/-- **The date-time of a timestamp is that of its second.** -/
theorem seconds_dateTime (h : t.nanosNat < nanosPerSecond) :
    t.dateTime.seconds = t.seconds.toInt := by
  have hday := Date.dayNumber_ofDays (t.seconds.toInt / secondsPerDay)
  rw [DateTime.seconds, dateTime, date, hday, Nat.div_eq_of_lt h]
  unfold secondOfDay secondsPerDay
  dsimp only
  omega

/-- The fields of the last second of a month. -/
theorem endsMonth_dateTime_iff : t.dateTime.EndsMonth ∧ t.secondOfDay % 60 = 59 ↔ t.EndsMonth := by
  rw [DateTime.EndsMonth, EndsMonth, dateTime]
  unfold secondOfDay secondsPerDay
  dsimp only
  omega

/-- **It is one of RFC 3339** unless it has a leap second before the end of a month. -/
theorem isValid_dateTime_iff (h : t.hasNanos) :
    t.dateTime.IsValid ↔ (t.nanos.toInt < 1000000000 ∨ t.EndsMonth) := by
  obtain ⟨hpos, hlt, hminute⟩ := t.hasNanos_iff.mp h
  have hday := t.secondOfDay_lt
  have hsecond : t.dateTime.second = t.secondOfDay % 60 + t.nanos.toInt.toNat / 1000000000 := rfl
  have hlast : t.secondOfDay % 60 = 59 ↔ t.seconds.toInt % 60 = 59 := by
    unfold secondOfDay secondsPerDay
    omega
  constructor
  · intro hvalid
    rcases hminute with hminute | hminute
    · exact Or.inl hminute
    · by_cases hn : t.nanos.toInt < 1000000000
      · exact Or.inl hn
      · exact Or.inr (endsMonth_dateTime_iff.mp ⟨hvalid.leap (by omega), hlast.mpr hminute⟩)
  · intro hends
    refine ⟨Date.isValid_ofDays _, ?_, ?_, ?_, fun hleap => ?_⟩
    · rw [dateTime]
      dsimp only
      omega
    · rw [dateTime]
      dsimp only
      omega
    · omega
    · rcases hends with hn | hends
      · omega
      · exact (endsMonth_dateTime_iff.mpr hends).1

/-! ### Texts -/

/-- **The text of a timestamp is read as its date-time,** if its year has four digits. -/
theorem dateTime?_text (h : t.hasNanos) (hyear : 0 ≤ t.date.year ∧ t.date.year ≤ 9999) :
    dateTime? t.text = if t.dateTime.IsValid then some t.dateTime else none := by
  obtain ⟨⟨-, hmonth⟩, -, hday⟩ := Date.isValid_ofDays (t.seconds.toInt / secondsPerDay)
  have hday : t.date.day < 10 ^ 2 := by
    refine Nat.lt_of_le_of_lt hday ?_
    unfold Date.daysInMonth
    split_ifs <;> decide
  have hyear' : t.date.year.natAbs < 10 ^ 4 := by omega
  have hmonth : t.date.month < 10 ^ 2 := Nat.lt_of_le_of_lt hmonth (by decide)
  have hsecondOfDay := t.secondOfDay_lt
  have hhour : t.secondOfDay / 3600 < 10 ^ 2 := by omega
  have hminute : t.secondOfDay / 60 % 60 < 10 ^ 2 := by omega
  have hsecond : t.secondOfDay % 60 + t.nanosNat / nanosPerSecond < 10 ^ 2 := by
    have hnanos := (t.hasNanos_iff.mp h).2.1
    unfold nanosNat nanosPerSecond
    omega
  have hread := dateTime?_digits hyear' hmonth hday hhour hminute hsecond t.dateTime
    (n := t.nanosNat % nanosPerSecond) (by rw [dateTime, Int.natAbs_of_nonneg hyear.1])
  rw [← hread, text, dateText, yearText, if_pos hyear, timeText]
  simp only [List.append_assoc, List.cons_append, nanosNat]

/-- A year with a sign is not read. -/
theorem dateTime?_text_eq_none (h : ¬ (0 ≤ t.date.year ∧ t.date.year ≤ 9999)) :
    dateTime? t.text = none := by
  obtain ⟨sign, cs, hsign, htext⟩ : ∃ sign cs, ¬ sign.isDigit ∧ t.text = sign :: cs := by
    rw [text, dateText, yearText, if_neg h]
    refine ⟨_, _, ?_, rfl⟩
    split_ifs <;> decide
  have hnumber : number? 4 (sign :: cs) = none := by simp [number?, hsign]
  rw [htext, dateTime?, hnumber]
  rfl

/-! ### Timestamps in the range of messages -/

/-- **A timestamp as it may be sent:** of the years 1 to 9999, with less than a second of
nanoseconds. -/
structure IsValid (t : Timestamp) : Prop where
  seconds : -62135596800 ≤ t.seconds.toInt ∧ t.seconds.toInt ≤ 253402300799
  nanos : 0 ≤ t.nanos.toInt ∧ t.nanos.toInt ≤ 999999999

theorem IsValid.nanosNat_lt (h : t.IsValid) : t.nanosNat < nanosPerSecond := by
  have hnanos := h.nanos
  unfold nanosNat nanosPerSecond
  omega

theorem IsValid.isWritable (h : t.IsValid) : t.isWritable := by
  obtain ⟨hseconds, hnanos⟩ := h
  have hcalendar := t.inCalendar_iff.mpr (by omega)
  have hnanos := t.hasNanos_iff.mpr (by omega)
  simp [Timestamp.isWritable, hcalendar, hnanos]

theorem IsValid.json_eq (h : t.IsValid) : t.json = .text (String.ofList t.text) :=
  if_pos h.isWritable

theorem IsValid.dateTime?_text (h : t.IsValid) : dateTime? t.text = some t.dateTime := by
  obtain ⟨hseconds, hnanos⟩ := h
  have hhas := t.hasNanos_iff.mpr (by omega)
  rw [Timestamp.dateTime?_text hhas (t.year_iff.mpr (by omega)),
    if_pos ((isValid_dateTime_iff hhas).mpr (Or.inl (by omega)))]

theorem IsValid.cast_nanosNat (h : t.IsValid) : (t.nanosNat : ℚ) = t.nanos.toInt := by
  rw [nanosNat, ← Int.cast_natCast, Int.toNat_of_nonneg h.nanos.1]

theorem IsValid.fraction_dateTime (h : t.IsValid) :
    t.dateTime.fraction = fractionDigits t.nanosNat :=
  congrArg fractionDigits (Nat.mod_eq_of_lt h.nanosNat_lt)

/-- **Valid timestamps of one second and one fraction are the same.** -/
theorem IsValid.eq_of_dateTime (h : t.IsValid) (h' : t'.IsValid) (heq : t.dateTime = t'.dateTime) :
    t = t' := by
  have hseconds := (seconds_dateTime h.nanosNat_lt).symm
  have hfraction := fractionValue_fractionDigits h.nanosNat_lt
  rw [heq, seconds_dateTime h'.nanosNat_lt] at hseconds
  rw [← h.fraction_dateTime, heq, h'.fraction_dateTime,
    fractionValue_fractionDigits h'.nanosNat_lt, div_left_inj' (by positivity), h'.cast_nanosNat,
    h.cast_nanosNat, Int.cast_inj] at hfraction
  obtain ⟨seconds, nanos⟩ := t
  obtain ⟨seconds', nanos'⟩ := t'
  rw [mk.injEq]
  exact ⟨Int64.toInt_inj.mp hseconds, Int32.toInt_inj.mp hfraction.symm⟩

/-- **Every valid timestamp shows as a date-time of RFC 3339 in UTC** that names its second and has
its nanoseconds behind the point, in as few of 0, 3, 6 or 9 digits as will do. Different ones show
differently. -/
theorem dateTime?_json (h : t.IsValid) (h' : t'.IsValid) :
    ∃ cs d, t.json = .text (String.ofList cs) ∧ dateTime? cs = some d ∧
      d.seconds = t.seconds.toInt ∧ fractionValue d.fraction = t.nanos.toInt / 10 ^ 9 ∧
      d.fraction.length ∈ fractionWidths ∧
      (∀ ds : List Char, ds.length ∈ fractionWidths →
        fractionValue ds = t.nanos.toInt / 10 ^ 9 → d.fraction.length ≤ ds.length) ∧
      (t.json = t'.json → t = t') := by
  have hvalue := fractionValue_fractionDigits h.nanosNat_lt
  have hlength := length_fractionDigits h.nanosNat_lt
  refine ⟨t.text, t.dateTime, h.json_eq, h.dateTime?_text, seconds_dateTime h.nanosNat_lt,
    ?_, ?_, fun ds hds hread => ?_, fun heq => ?_⟩
  · rw [h.fraction_dateTime, hvalue, h.cast_nanosNat]
  · rw [h.fraction_dateTime, hlength]
    exact fractionWidth_mem _
  · rw [h.fraction_dateTime]
    exact length_fractionDigits_le h.nanosNat_lt hds (by rw [hread, h.cast_nanosNat])
  · rw [h.json_eq, h'.json_eq, Json.text.injEq] at heq
    have htext : t.text = t'.text := String.ofList_injective heq
    have hread := h.dateTime?_text
    rw [htext, h'.dateTime?_text, Option.some.injEq] at hread
    exact h.eq_of_dateTime h' hread.symm

theorem dateTime?_json_leapDay : (⟨-2077660802, 50000⟩ : Timestamp).IsValid ∧
    ∃ d, (⟨-2077660802, 50000⟩ : Timestamp).json = .text "1904-02-29T23:59:58.000050Z" ∧
      dateTime? "1904-02-29T23:59:58.000050Z".toList = some d ∧ d.seconds = -2077660802 ∧
      fractionValue d.fraction = 50000 / 10 ^ 9 := by
  have h : (⟨-2077660802, 50000⟩ : Timestamp).IsValid := by constructor <;> decide
  obtain ⟨cs, d, hjson, hread, hseconds, hfraction, -, -, -⟩ := dateTime?_json h h
  have hshown : (⟨-2077660802, 50000⟩ : Timestamp).json = .text "1904-02-29T23:59:58.000050Z" := by
    rfl
  have hcs : cs = "1904-02-29T23:59:58.000050Z".toList := by
    rw [← Json.text.inj (hjson.symm.trans hshown), String.toList_ofList]
  exact ⟨h, d, hshown, hcs ▸ hread, hseconds, hfraction⟩

/-! ### All timestamps -/

/-- **What timestamps are shown:** those of the calendar, with the nanoseconds of a second, or of
two in the last second of a minute. -/
structure IsShown (t : Timestamp) : Prop where
  seconds : -8334601228800 ≤ t.seconds.toInt ∧ t.seconds.toInt ≤ 8210266876799
  nanos : 0 ≤ t.nanos.toInt ∧ t.nanos.toInt < 2000000000
  leap : t.nanos.toInt < 1000000000 ∨ t.seconds.toInt % 60 = 59

theorem isWritable_iff (t : Timestamp) : t.isWritable ↔ t.IsShown := by
  have hiff : t.isWritable ↔ (firstYear ≤ t.date.year ∧ t.date.year ≤ lastYear) ∧ t.hasNanos := by
    simp [isWritable]
  rw [hiff, inCalendar_iff, hasNanos_iff]
  exact ⟨fun ⟨hseconds, h0, hlt, hleap⟩ => ⟨hseconds, ⟨h0, hlt⟩, hleap⟩,
    fun h => ⟨h.seconds, h.nanos.1, h.nanos.2, h.leap⟩⟩

/-- **A timestamp shows as null or as a text, and the text is a date-time of RFC 3339 exactly if the
year has four digits** and there is no leap second before the end of a month. -/
theorem json_dateTime (t : Timestamp) : (t.json = .null ∧ ¬ t.IsShown) ∨
    ∃ cs, t.json = .text (String.ofList cs) ∧ t.IsShown ∧
      ((dateTime? cs).isSome ↔
        (-62167219200 ≤ t.seconds.toInt ∧ t.seconds.toInt ≤ 253402300799) ∧
          (t.nanos.toInt < 1000000000 ∨ t.EndsMonth)) := by
  by_cases h : t.isWritable
  · have hnanos : t.hasNanos := (Bool.and_eq_true_iff.mp h).2
    refine Or.inr ⟨t.text, if_pos h, t.isWritable_iff.mp h, ?_⟩
    rw [← t.year_iff, ← isValid_dateTime_iff hnanos]
    by_cases hyear : 0 ≤ t.date.year ∧ t.date.year ≤ 9999
    · rw [Timestamp.dateTime?_text hnanos hyear]
      split_ifs with hvalid <;> simp [hyear, hvalid]
    · simp [dateTime?_text_eq_none hyear, hyear]
  · exact Or.inl ⟨if_neg h, fun hshown => h (t.isWritable_iff.mpr hshown)⟩

/-- **A timestamp behind the year 9999 shows as a text that is no date-time of RFC 3339.** -/
theorem exists_year_of_five_digits : ∃ t : Timestamp,
    t.json = .text "+10000-01-01T00:00:00Z" ∧ t.json ≠ .null ∧
      dateTime? "+10000-01-01T00:00:00Z".toList = none := by
  have hshown : (⟨253402300800, 0⟩ : Timestamp).json = .text "+10000-01-01T00:00:00Z" := rfl
  exact ⟨⟨253402300800, 0⟩, hshown, by rw [hshown]; nofun, by decide⟩

end Timestamp

end Redaction.Render
