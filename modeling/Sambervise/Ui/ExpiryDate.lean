import Sambervise.Calendar.Gregorian
import Sambervise.Ui.UsersPanel

namespace Sambervise.Ui.Users

open Text Model Backend Calendar

/-! The expiry date in the policy section: which texts are read as a day, and the times
that are written for them. -/

/-- The numbers are the year, the month and the day of a date of four digits at most. -/
structure Names (date : Date) (numbers : GInt × GInt × GInt) : Prop where
  inRange : date.year ≤ 9999
  year : numbers.1.toInt = date.year
  month : numbers.2.1.toInt = date.month
  day : numbers.2.2.toInt = date.day

def dashed (year month day : CString) : CString := year ++ 0x2D :: (month ++ 0x2D :: day)

/-- The three parts of a date in decimal digits. -/
structure Parts (date : Date) (year month day : CString) : Prop where
  year : IsNumeral year date.year
  month : IsNumeral month date.month
  day : IsNumeral day date.day

/-- YYYY-MM-DD -/
def IsoDay (date : Date) (text : CString) : Prop :=
  ∃ year month day, text = dashed year month day ∧ Parts date year month day ∧
    year.length = 4 ∧ month.length = 2 ∧ day.length = 2

/-- What GLib documents of its calendar: it has the days of the years 1 to 9999, the
midnight of each, and the times that lie on them. -/
structure GDateTimeUtc.Lawful (calendar : GDateTimeUtc) : Prop where
  newUtc_iff : ∀ (y m d : GInt) (unixTs : GInt64), calendar.newUtc y m d = some unixTs ↔
    ∃ date : Date, Names date (y, m, d) ∧ unixTs.toInt = date.midnight
  formatDay_some : ∀ (unixTs : GInt64) (text : CString),
    calendar.formatDay unixTs = some text →
      ∃ date : Date, date.year ≤ 9999 ∧ date.Covers unixTs.toInt ∧
        ∃ year month day, text = dashed year month day ∧ Parts date year month day
  formatDay_none : ∀ unixTs : GInt64, calendar.formatDay unixTs = none →
    ∀ date : Date, date.Covers unixTs.toInt → 9999 < date.year

/-- What `sscanf` makes of the text are the numbers of a date. -/
def ReadAs (date : Date) (text : CString) : Prop :=
  ∃ numbers, scanDay text = some numbers ∧ Names date numbers

/-! Reading a text -/

theorem scanInt_numeral {digits : CString} {value : Nat} (numeral : IsNumeral digits value)
    (small : value < 2 ^ 31) {rest : CString}
    (ends : ∀ char ∈ rest.head?, asciiIsDigit char = false) :
    scanInt (digits ++ rest) = some (BitVec.ofNat 32 value, rest) := by
  obtain ⟨whole, after⟩ := numeral.cut ends
  have read : strtoll (digits ++ rest) = BitVec.ofNat 64 value := by
    have value_toInt : (BitVec.ofNat 64 value).toInt = value := by
      rw [← BitVec.ofInt_natCast]
      exact toInt_ofInt64 (by omega) (by omega)
    rw [strtoll, numeral.readInt_append ends, ← value_toInt, saturate_toInt]
  obtain ⟨first, others, rfl, digit⟩ := numeral.starts
  have kept : (first :: others ++ rest).dropWhile skipsSpace = first :: others ++ rest :=
    List.dropWhile_cons_of_neg (by simp [skipsSpace_of_digit digit])
  have unsigned :
      ¬((first :: others ++ rest).head? = some 0x2D ∨
        (first :: others ++ rest).head? = some 0x2B) := by
    simp [asciiIsDigit_ne digit 0x2D (by decide), asciiIsDigit_ne digit 0x2B (by decide)]
  unfold scanInt
  simp only [kept, if_neg unsigned, whole, after, read]
  rw [BitVec.setWidth_ofNat_of_le (by decide)]

theorem Parts.readAs {date : Date} {year month day : CString}
    (parts : Parts date year month day) (inRange : date.year ≤ 9999) :
    ReadAs date (dashed year month day) := by
  have month_le := date.month_le
  have day_le := date.day_le_31
  have dash (rest : CString) :
      ∀ char ∈ (0x2D :: rest : CString).head?, asciiIsDigit char = false := by
    intro char member
    cases member
    rfl
  have yearScan := scanInt_numeral parts.year (by omega) (dash (month ++ 0x2D :: day))
  have monthScan := scanInt_numeral parts.month (by omega) (dash day)
  have dayScan := @scanInt_numeral _ _ parts.day (by omega) [] (by simp)
  rw [List.append_nil] at dayScan
  refine ⟨(.ofNat 32 date.year, .ofNat 32 date.month, .ofNat 32 date.day), ?_, ?_⟩
  · unfold scanDay dashed
    simp only [yearScan, Option.bind_eq_bind, Option.bind_some, scanDash, monthScan, dayScan]
    rfl
  · have small {value : Nat} (le : value ≤ 9999) : (BitVec.ofNat 32 value).toInt = value := by
      rw [← BitVec.ofInt_natCast, BitVec.toInt_ofInt, Int.bmod_eq_of_le (by omega) (by omega)]
    exact ⟨inRange, small inRange, small (by omega), small (by omega)⟩

/-! Writing a time -/

def filetime (date : Date) : Int := (date.midnight + 11644473600) * 10000000

section Filetime

variable {calendar : GDateTimeUtc} {date : Date} {text : CString}

theorem filetime_lt (inRange : date.year ≤ 9999) :
    -2 ^ 63 ≤ filetime date ∧ filetime date < 2 ^ 63 - 1 := by
  have days := (date.ordinal_lt_iff 9999).mpr inRange
  rw [show daysOfYears 9999 = 3652059 from rfl] at days
  unfold filetime Date.midnight
  omega

theorem toInt_filetime (inRange : date.year ≤ 9999) {unixTs : GInt64}
    (midnight : unixTs.toInt = date.midnight) :
    ((unixTs + winEpochOffset) * winTicksPerSec).toInt = filetime date := by
  have bounds := filetime_lt inRange
  have offset : winEpochOffset.toInt = 11644473600 := rfl
  have ticks : winTicksPerSec.toInt = 10000000 := rfl
  have sum : (unixTs + winEpochOffset).toInt = date.midnight + 11644473600 := by
    rw [BitVec.toInt_add, midnight, offset]
    unfold filetime at bounds
    exact Int.bmod_eq_of_le (by omega) (by omega)
  rw [BitVec.toInt_mul, sum, ticks]
  exact Int.bmod_eq_of_le (by unfold filetime at bounds; omega)
    (by unfold filetime at bounds; omega)

theorem dateEntryToFiletime_of_readAs (law : calendar.Lawful) (read : ReadAs date text) :
    (dateEntryToFiletime calendar text).toInt = filetime date := by
  obtain ⟨⟨y, m, d⟩, scanned, names⟩ := read
  obtain ⟨bottom, top⟩ := filetime_lt names.inRange
  have fits : (BitVec.ofInt 64 date.midnight).toInt = date.midnight := by
    unfold filetime at bottom top
    exact toInt_ofInt64 (by omega) (by omega)
  have made := (law.newUtc_iff y m d _).mpr ⟨date, names, fits⟩
  rw [dateEntryToFiletime, scanned]
  simp only [made]
  exact toInt_filetime names.inRange fits

theorem dateEntryToFiletime_of_unread (law : calendar.Lawful)
    (unread : ∀ date, ¬ReadAs date text) : dateEntryToFiletime calendar text = maxInt64 := by
  unfold dateEntryToFiletime
  cases scanned : scanDay text with
  | none => rfl
  | some numbers =>
      obtain ⟨y, m, d⟩ := numbers
      cases made : calendar.newUtc y m d with
      | none => simp only [made]
      | some unixTs =>
          obtain ⟨date, names, _⟩ := (law.newUtc_iff y m d unixTs).mp made
          exact absurd ⟨(y, m, d), scanned, names⟩ (unread date)

theorem dateEntryToFiletime_ne_max (law : calendar.Lawful) (read : ReadAs date text) :
    dateEntryToFiletime calendar text ≠ maxInt64 := by
  intro max
  have written := dateEntryToFiletime_of_readAs law read
  obtain ⟨_, _, names⟩ := read
  have below := (filetime_lt names.inRange).2
  rw [max, show maxInt64.toInt = 2 ^ 63 - 1 from rfl] at written
  omega

end Filetime

/-! A calendar that does what GLib's does -/

def twoDigits (value : Nat) : CString :=
  if value < 10 then 0x30 :: formatNat value else formatNat value

def gregorian : GDateTimeUtc where
  newUtc y m d := do
    let date ← Date.ofParts y.toInt.toNat m.toInt.toNat d.toInt.toNat
    if date.year ≤ 9999 then some (BitVec.ofInt 64 date.midnight) else none
  formatDay unixTs :=
    if -62135596800 ≤ unixTs.toInt ∧ unixTs.toInt < 253402300800 then
      let date := Date.ofTime unixTs.toInt
      some (dashed (formatNat date.year) (twoDigits date.month) (twoDigits date.day))
    else none

theorem isNumeral_twoDigits (value : Nat) : IsNumeral (twoDigits value) value := by
  have numeral := isNumeral_formatNat value
  unfold twoDigits
  split
  · refine ⟨List.cons_ne_nil _ _, ?_, ?_⟩
    · intro char member
      rcases List.mem_cons.mp member with zero | digit
      · exact zero ▸ rfl
      · exact numeral.2.1 char digit
    · exact numeral.2.2
  · exact numeral

theorem toInt_ofInt_midnight {date : Date} (inRange : date.year ≤ 9999) :
    (BitVec.ofInt 64 date.midnight).toInt = date.midnight := by
  have bounds := filetime_lt inRange
  unfold filetime at bounds
  exact toInt_ofInt64 (by omega) (by omega)

theorem newUtc_gregorian (y m d : GInt) (unixTs : GInt64) :
    gregorian.newUtc y m d = some unixTs ↔
      ∃ date : Date, Names date (y, m, d) ∧ unixTs.toInt = date.midnight := by
  show ((Date.ofParts y.toInt.toNat m.toInt.toNat d.toInt.toNat).bind fun date =>
    if date.year ≤ 9999 then some (BitVec.ofInt 64 date.midnight) else none) = some unixTs ↔ _
  rw [Option.bind_eq_some_iff]
  constructor
  · rintro ⟨date, made, written⟩
    obtain ⟨year, month, day⟩ := Date.ofParts_eq_some_iff.mp made
    have year_pos := date.year_pos
    have month_pos := date.month_pos
    have day_pos := date.day_pos
    split at written
    next inRange =>
      cases written
      refine ⟨date, ⟨inRange, ?_, ?_, ?_⟩, toInt_ofInt_midnight inRange⟩
      · show y.toInt = date.year
        omega
      · show m.toInt = date.month
        omega
      · show d.toInt = date.day
        omega
    · cases written
  · rintro ⟨date, names, midnight⟩
    have year : y.toInt = date.year := names.year
    have month : m.toInt = date.month := names.month
    have day : d.toInt = date.day := names.day
    refine ⟨date, Date.ofParts_eq_some_iff.mpr (by omega), ?_⟩
    rw [if_pos names.inRange]
    exact congrArg some
      (BitVec.eq_of_toInt_eq ((toInt_ofInt_midnight names.inRange).trans midnight.symm))

theorem gregorian_lawful : gregorian.Lawful where
  newUtc_iff := newUtc_gregorian
  formatDay_some unixTs text shown := by
    unfold gregorian at shown
    dsimp only at shown
    split at shown
    next inRange =>
      cases shown
      have covers := Date.covers_ofTime inRange.1
      refine ⟨Date.ofTime unixTs.toInt, (Date.year_le_9999_iff covers).mpr inRange.2, covers,
        _, _, _, rfl, ?_⟩
      exact
        { year := isNumeral_formatNat _
          month := isNumeral_twoDigits _
          day := isNumeral_twoDigits _ }
    · cases shown
  formatDay_none unixTs hidden date covers := by
    unfold gregorian at hidden
    dsimp only at hidden
    split at hidden
    · cases hidden
    next outside =>
      by_contra early
      exact outside ⟨covers.since, (Date.year_le_9999_iff covers).mp (by omega)⟩

/-! Saving the policy -/

structure CanSavePolicy {calendar : GDateTimeUtc} (panel : UsersPanel calendar)
    (user : Listed SbvUser) (conn : ConnId) : Prop where
  running : panel.crashed = false
  reachable : panel.detailReachable = true
  sensitive : panel.form.savePolicyBtn = true
  selected : panel.selected = some user
  connected : panel.conn = some conn

section SavePolicy

variable {calendar : GDateTimeUtc} {panel : UsersPanel calendar} {user : Listed SbvUser}
  {conn : ConnId}

def policyWrite (panel : UsersPanel calendar) (user : Listed SbvUser) (conn : ConnId)
    (accountExpires : GInt64) : DispatchedWrite (usersKind calendar) :=
  { conn
    target := user
    write :=
      .other (.setPasswordFlags
        (Users.sbvUsersSetPasswordFlags user.obj (panel.form.active .forceChange)
          (panel.form.active .neverExpires) accountExpires)) }

/-- The panel after the event has sent one write more. -/
structure Sent (panel after : UsersPanel calendar)
    (write : DispatchedWrite (usersKind calendar)) : Prop where
  running : after.crashed = false
  inFlight : after.inFlight = panel.inFlight ++ [write]
  dispatched : after.dispatched = panel.dispatched ++ [write]

structure InvalidDate (panel after : UsersPanel calendar) : Prop where
  inFlight : after.inFlight = panel.inFlight
  dispatched : after.dispatched = panel.dispatched
  policyError : after.form.policyError = some (.text (cstr "Invalid date. Use YYYY-MM-DD."))
  sensitive : after.form.savePolicyBtn = true

theorem step_savePolicy (ready : CanSavePolicy panel user conn) :
    panel.step (.buttonClicked .savePolicy) = panel.onButtonClicked .savePolicy := by
  rw [AccountPanel.step, if_neg (by simp [ready.running])]
  exact if_pos ready.reachable

theorem click_savePolicy (ready : CanSavePolicy panel user conn) :
    (usersKind calendar).click user.obj panel.form .savePolicy =
      onSavePolicyClicked calendar user.obj panel.form := if_pos ready.sensitive

theorem sent_savePolicy (ready : CanSavePolicy panel user conn) {accountExpires : GInt64}
    (shown : (if panel.form.active .acctNeverExpires then maxInt64
        else dateEntryToFiletime calendar (panel.form.text .expiresDate)) = accountExpires)
    (valid : panel.form.active .acctNeverExpires = true ∨ accountExpires ≠ maxInt64 ∨
      panel.form.text .expiresDate = []) :
    Sent panel (panel.step (.buttonClicked .savePolicy))
      (policyWrite panel user conn accountExpires) := by
  have clicked : onSavePolicyClicked calendar user.obj panel.form =
      ({ panel.form with policyError := none, savePolicyBtn := false },
        some (.setPasswordFlags
          (Users.sbvUsersSetPasswordFlags user.obj (panel.form.active .forceChange)
            (panel.form.active .neverExpires) accountExpires))) := by
    unfold onSavePolicyClicked
    simp only [shown]
    rw [if_neg]
    rcases valid with never | valid | empty
    · simp [never]
    · simp [valid]
    · simp [empty]
  rw [step_savePolicy ready]
  simp only [AccountPanel.onButtonClicked, ready.selected, ready.connected,
    click_savePolicy ready, clicked]
  exact ⟨ready.running, rfl, rfl⟩

theorem invalidDate_savePolicy (ready : CanSavePolicy panel user conn)
    (expires : panel.form.active .acctNeverExpires = false)
    (unread : dateEntryToFiletime calendar (panel.form.text .expiresDate) = maxInt64)
    (typed : panel.form.text .expiresDate ≠ []) :
    InvalidDate panel (panel.step (.buttonClicked .savePolicy)) := by
  have clicked : onSavePolicyClicked calendar user.obj panel.form =
      ({ panel.form with
          policyError := some (.text (cstr "Invalid date. Use YYYY-MM-DD."))
          savePolicyBtn := true },
        none) := by
    unfold onSavePolicyClicked
    simp only [expires, unread]
    rw [if_pos (by simp [typed])]
  rw [step_savePolicy ready]
  simp only [AccountPanel.onButtonClicked, ready.selected, ready.connected,
    click_savePolicy ready, clicked]
  exact ⟨rfl, rfl, rfl, rfl⟩

theorem sent_or_invalidDate (ready : CanSavePolicy panel user conn) :
    (∃ time, Sent panel (panel.step (.buttonClicked .savePolicy))
        (policyWrite panel user conn time)) ∨
      InvalidDate panel (panel.step (.buttonClicked .savePolicy)) := by
  cases active : panel.form.active .acctNeverExpires with
  | true => exact .inl ⟨_, sent_savePolicy ready rfl (.inl active)⟩
  | false =>
      have shown : (if panel.form.active .acctNeverExpires then maxInt64
          else dateEntryToFiletime calendar (panel.form.text .expiresDate)) =
            dateEntryToFiletime calendar (panel.form.text .expiresDate) :=
        if_neg (by simp [active])
      by_cases unread :
          dateEntryToFiletime calendar (panel.form.text .expiresDate) = maxInt64
      · by_cases empty : panel.form.text .expiresDate = []
        · exact .inl ⟨_, sent_savePolicy ready shown (.inr (.inr empty))⟩
        · exact .inr (invalidDate_savePolicy ready active unread empty)
      · exact .inl ⟨_, sent_savePolicy ready shown (.inr (.inl unread))⟩

theorem IsoDay.length {date : Date} {text : CString} (iso : IsoDay date text) :
    text.length = 10 := by
  obtain ⟨year, month, day, rfl, _, yearWidth, monthWidth, dayWidth⟩ := iso
  simp [dashed, yearWidth, monthWidth, dayWidth]

theorem IsoDay.readAs {date : Date} {text : CString} (iso : IsoDay date text) :
    ReadAs date text := by
  obtain ⟨year, month, day, rfl, parts, width, _⟩ := iso
  have inRange := parts.year.lt
  rw [width] at inRange
  exact parts.readAs (by omega)

/-- The empty text is taken for an account that never expires, and what is not read as a
date is refused. -/
theorem expiryDate_grammar (law : calendar.Lawful) (ready : CanSavePolicy panel user conn)
    (expires : panel.form.active .acctNeverExpires = false) :
    let text := panel.form.text .expiresDate
    let after := panel.step (.buttonClicked .savePolicy)
    (∀ date, IsoDay date text → ∃ time : GInt64, time.toInt = filetime date ∧
        Sent panel after (policyWrite panel user conn time)) ∧
      (text = [] → Sent panel after (policyWrite panel user conn maxInt64)) ∧
      (text ≠ [] → (∀ date, ¬ReadAs date text) → InvalidDate panel after) := by
  dsimp only
  refine ⟨?_, ?_, ?_⟩
  · intro date iso
    have read := iso.readAs
    refine ⟨_, dateEntryToFiletime_of_readAs law read,
      sent_savePolicy ready ?_ (.inr (.inl ?_))⟩
    · rw [expires]
      rfl
    · exact dateEntryToFiletime_ne_max law read
  · intro empty
    refine sent_savePolicy ready ?_ (.inr (.inr empty))
    rw [expires, empty]
    rfl
  · intro typed unread
    exact invalidDate_savePolicy ready expires (dateEntryToFiletime_of_unread law unread) typed

end SavePolicy

def adaListed : Listed SbvUser :=
  { id := 0, listedOver := 0, obj := { dn := some (cstr "CN=Ada,DC=lab") } }

/-- A panel that shows a user, with this text for the day the account expires. -/
def datedPanel (text : CString) : UsersPanel gregorian :=
  { conn := some 0
    outerStack := .split
    detailVisible := true
    selected := some adaListed
    form := Form.setText {} .expiresDate text }

theorem datedPanel_ready (text : CString) : CanSavePolicy (datedPanel text) adaListed 0 :=
  ⟨rfl, rfl, rfl, rfl, rfl⟩

def leapDay : Date :=
  { year := 2024, month := 2, day := 29, year_pos := by decide, month_pos := by decide,
    month_le := by decide, day_pos := by decide, day_le := by decide }

theorem expiryDate_grammar_leapDay :
    ∃ time : GInt64, time.toInt = 133536384000000000 ∧
      Sent (datedPanel (cstr "2024-02-29"))
        ((datedPanel (cstr "2024-02-29")).step (.buttonClicked .savePolicy))
        (policyWrite (datedPanel (cstr "2024-02-29")) adaListed 0 time) := by
  have iso : IsoDay leapDay (cstr "2024-02-29") := by
    refine ⟨cstr "2024", cstr "02", cstr "29", by decide, ⟨?_, ?_, ?_⟩, by decide⟩
    · decide +kernel
    · decide +kernel
    · decide +kernel
  rw [← show filetime leapDay = 133536384000000000 by decide]
  exact (expiryDate_grammar gregorian_lawful (datedPanel_ready _) rfl).1 leapDay iso

/-- The empty text is no day, and is sent as never. -/
theorem empty_text_sent :
    (∀ date, ¬IsoDay date []) ∧
      Sent (datedPanel []) ((datedPanel []).step (.buttonClicked .savePolicy))
        (policyWrite (datedPanel []) adaListed 0 maxInt64) := by
  constructor
  · intro date iso
    exact absurd iso.length (by decide)
  · exact sent_savePolicy (datedPanel_ready _) rfl (.inr (.inr rfl))

end Sambervise.Ui.Users
