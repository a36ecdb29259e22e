import Listening.Instant.Iso
import Listening.Proofs.DateRoundTrip
import Listening.Proofs.TimestampRoundTrip
import Mathlib.Algebra.Ring.Nat

/-!
# Instants there and back as text

An instant is kept as ISO 8601 text, in one of the many forms that are read.
What is read is the instant that was written: digits of a fixed count are read
as the number they show (`Instant.takeDigits_padded`), so are the time of day
with or without decimals (`Instant.clock?_clockText`), the date, which is one
of the calendar (`Instant.date?_dateText`), and the offset
(`Instant.offset?_offsetText`). Only an offset of less than a second does not
come back: it is taken for none, so that the clock shows the same and stands
for another point in time. `Instant.reread` is what is read, and
`Instant.ofIso?_toIso` the round trip of every instant whose clock shows a year
from 1 to 9999.
-/

namespace Listening

namespace Number

/-! ## Digits of a fixed count -/

/-- The characters of a number in at least `width` digits. -/
def padded (width n : Nat) : List Char := (padLeft width (Nat.repr n)).toList

/-- A padded number is its digits after some zeros. -/
theorem padded_eq (width n : Nat) : padded width n
    = List.replicate (width - (Nat.toDigits 10 n).length) '0' ++ Nat.toDigits 10 n := by
  have hdigits : (Nat.repr n).toList = Nat.toDigits 10 n := Nat.toList_repr
  unfold padded padLeft
  rw [String.toList_append, String.toList_ofList, hdigits, ← String.length_toList, hdigits]

/-- The characters of a padded number are digits. -/
theorem isDigit_of_mem_padded {width n : Nat} {c : Char} (h : c ∈ padded width n) :
    c.isDigit = true := by
  rw [padded_eq] at h
  rcases List.mem_append.mp h with hzero | hdigit
  · rw [List.eq_of_mem_replicate hzero]
    decide
  · exact isDigit_of_mem_toDigits hdigit

/-- A number that is small enough has just `width` of them. -/
theorem length_padded {width n : Nat} (hpos : 0 < width) (h : n < 10 ^ width) :
    (padded width n).length = width := by
  have hle := (Nat.length_toDigits_le_iff (by decide : 1 < 10) hpos).mpr h
  rw [padded_eq, List.length_append, List.length_replicate]
  exact Nat.sub_add_cancel hle

/-- The characters of a padded number show the number. -/
theorem digitsValue_padded (width n : Nat) : digitsValue (padded width n) = n := by
  have hzeros : ∀ count, digitsValue (List.replicate count '0' ++ Nat.toDigits 10 n) = n := by
    intro count
    induction count with
    | zero => exact digitsValue_toDigits n
    | succ count ih => exact ih
  rw [padded_eq, hzeros]

end Number

namespace Instant

open Listening.Number (padded)

/-- **The digits of a number are read as the number.** -/
theorem takeDigits_padded {width n : Nat} (hpos : 0 < width) (h : n < 10 ^ width)
    (rest : List Char) : takeDigits width (padded width n ++ rest) = some (n, rest) := by
  have hlen := Number.length_padded hpos h
  have htake : (padded width n ++ rest).take width = padded width n := List.take_left' hlen
  have hall : (padded width n).all Char.isDigit = true :=
    List.all_eq_true.mpr fun c hc => Number.isDigit_of_mem_padded hc
  unfold takeDigits
  simp only [htake, hlen, hall, and_self, if_true, Number.digitsValue_padded,
    List.drop_left' hlen]

/-- A padded number has a first digit. -/
theorem exists_padded_eq_cons (width n : Nat) :
    ∃ c cs, padded width n = c :: cs ∧ c.isDigit = true := by
  cases hdigits : padded width n with
  | nil =>
    have hnil := hdigits
    rw [Number.padded_eq, List.append_eq_nil_iff] at hnil
    exact absurd hnil.2 (by simp)
  | cons c cs => exact ⟨c, cs, rfl, Number.isDigit_of_mem_padded (hdigits ▸ List.mem_cons_self)⟩

/-! ## Times -/

section Clock

variable {colons : Option Bool} {parts : List Nat} {n : Nat}

/-- The last part of a time. -/
theorem clock?_last (hn : n < 100) (more : Nat) :
    clock? colons parts more (padded 2 n) = some ⟨parts ++ [n], 0, false⟩ := by
  have hread := takeDigits_padded (by decide : 0 < 2) hn []
  rw [List.append_nil] at hread
  rw [clock?.eq_def]
  dsimp only
  rw [hread]
  rfl

/-- A part of a time before others. -/
theorem clock?_colon (hcolons : colons.getD true = true) (hn : n < 100) (more : Nat) {c : Char}
    (rest : List Char) :
    clock? colons parts (more + 1) (padded 2 n ++ ':' :: c :: rest)
      = clock? (some true) (parts ++ [n]) more (c :: rest) := by
  have hread := takeDigits_padded (by decide : 0 < 2) hn (':' :: c :: rest)
  have hgiven : colons.getD (':' == ':') = true := hcolons
  rw [clock?.eq_def]
  dsimp only
  rw [hread]
  simp only [Option.bind_eq_bind, Option.bind_some, hgiven]
  rfl

/-- The decimals of a time. -/
theorem decimals?_padded (parts : List Nat) {micros : Nat} (hmicros : micros < 1000000) :
    decimals? parts (padded 6 micros) = some ⟨parts, micros, false⟩ := by
  have hread := takeDigits_padded (by decide : 0 < 6) hmicros []
  rw [List.append_nil] at hread
  unfold decimals?
  rw [Number.length_padded (by decide : 0 < 6) hmicros, Nat.min_self]
  dsimp only
  rw [hread]
  show some (ClockReading.mk parts (micros * Number.tenTo 0) false) = _
  rw [show Number.tenTo 0 = 1 from rfl, Nat.mul_one]

/-- The last part of a time before the decimals. -/
theorem clock?_point (hn : n < 100) (more : Nat) {micros : Nat} (hmicros : micros < 1000000) :
    clock? (some true) parts more (padded 2 n ++ '.' :: padded 6 micros)
      = some ⟨parts ++ [n], micros, false⟩ := by
  have hread := takeDigits_padded (by decide : 0 < 2) hn ('.' :: padded 6 micros)
  have hafter := decimals?_padded (parts ++ [n]) hmicros
  obtain ⟨c, cs, hcons, -⟩ := exists_padded_eq_cons 6 micros
  rw [hcons] at hread hafter ⊢
  rw [clock?.eq_def]
  dsimp only
  rw [hread]
  exact hafter

/-- What a time of day or an offset is written as. -/
theorem toList_clockText (always : Bool) (micros : Nat) : (clockText always micros).toList
    = padded 2 (micros / 1000000 / 3600) ++ ':' :: (padded 2 (micros / 1000000 / 60 % 60)
      ++ ((if always ∨ micros / 1000000 % 60 ≠ 0 ∨ micros % 1000000 ≠ 0 then
            ':' :: padded 2 (micros / 1000000 % 60) else [])
        ++ if micros % 1000000 ≠ 0 then '.' :: padded 6 (micros % 1000000) else [])) := by
  have hcolon : (":" : String).toList = [':'] := rfl
  have hpoint : ("." : String).toList = ['.'] := rfl
  unfold clockText
  simp only [String.toList_append, apply_ite String.toList, hcolon, hpoint, String.toList_empty,
    List.append_assoc, List.cons_append, List.nil_append, padded]

/-- **A time that is written is read** as the same time. -/
theorem clock?_clockText (always : Bool) {micros : Nat} (h : micros < 86400000000) :
    ∃ r : ClockReading, clock? none [] 2 (clockText always micros).toList = some r
      ∧ r.left = false ∧ r.seconds = micros / 1000000 ∧ r.micros = micros % 1000000
      ∧ r.isTimeOfDay = true := by
  obtain ⟨hours, hhours⟩ : ∃ hours, hours = micros / 1000000 / 3600 := ⟨_, rfl⟩
  obtain ⟨minutes, hminutes⟩ : ∃ minutes, minutes = micros / 1000000 / 60 % 60 := ⟨_, rfl⟩
  obtain ⟨seconds, hseconds⟩ : ∃ seconds, seconds = micros / 1000000 % 60 := ⟨_, rfl⟩
  obtain ⟨rest, hrest⟩ : ∃ rest, rest = micros % 1000000 := ⟨_, rfl⟩
  have hparts : hours < 24 ∧ minutes < 60 ∧ seconds < 60
      ∧ hours * 3600 + minutes * 60 + seconds = micros / 1000000 := by omega
  obtain ⟨hhour, hminute, hsecond, hsum⟩ := hparts
  have hfull : (ClockReading.mk [hours, minutes, seconds] rest false).isTimeOfDay = true := by
    simp only [ClockReading.isTimeOfDay, List.all_cons, List.all_nil, hhour, hminute, hsecond,
      decide_true, Bool.and_self]
  obtain ⟨c, cs, hcons, -⟩ := exists_padded_eq_cons 2 minutes
  obtain ⟨d, ds, hcons', -⟩ := exists_padded_eq_cons 2 seconds
  rw [toList_clockText, ← hhours, ← hminutes, ← hseconds, ← hrest]
  -- hours and minutes are there in any case
  have hhead : ∀ tail, clock? none [] 2 (padded 2 hours ++ ':' :: (padded 2 minutes ++ tail))
      = clock? (some true) [hours] 1 (padded 2 minutes ++ tail) := by
    intro tail
    rw [hcons, List.cons_append, clock?_colon rfl (by omega)]
    rfl
  have hmiddle : ∀ tail, clock? (some true) [hours] 1
        (padded 2 minutes ++ ':' :: (padded 2 seconds ++ tail))
      = clock? (some true) [hours, minutes] 0 (padded 2 seconds ++ tail) := by
    intro tail
    rw [hcons', List.cons_append, clock?_colon rfl (by omega)]
    rfl
  rw [hhead]
  by_cases hdecimals : rest ≠ 0
  · refine ⟨⟨[hours, minutes, seconds], rest, false⟩, ?_, rfl, hsum, rfl, hfull⟩
    rw [if_pos (Or.inr (Or.inr hdecimals)), if_pos hdecimals, List.cons_append, hmiddle,
      clock?_point (by omega) 0 (by omega)]
    rfl
  · have hzero : rest = 0 := Decidable.not_not.mp hdecimals
    rw [if_neg hdecimals, List.append_nil]
    by_cases hlong : always ∨ seconds ≠ 0 ∨ rest ≠ 0
    · refine ⟨⟨[hours, minutes, seconds], 0, false⟩, ?_, rfl, hsum, hzero.symm, hzero ▸ hfull⟩
      have hlast := hmiddle []
      rw [List.append_nil] at hlast
      rw [if_pos hlong, hlast, clock?_last (by omega)]
      rfl
    · have hnone : seconds = 0 := Decidable.not_not.mp fun h => hlong (Or.inr (Or.inl h))
      refine ⟨⟨[hours, minutes], 0, false⟩, ?_, rfl, ?_, hzero.symm, ?_⟩
      · rw [if_neg hlong, List.append_nil, clock?_last (by omega)]
        rfl
      · rw [← hsum, hnone, Nat.add_zero]
        rfl
      · simp only [ClockReading.isTimeOfDay, List.all_cons, List.all_nil, hhour, hminute,
          decide_true, Bool.and_self]

/-- Nothing in a time begins an offset. -/
theorem not_beginsOffset_of_mem_clockText {always : Bool} {micros : Nat} {c : Char}
    (h : c ∈ (clockText always micros).toList) : beginsOffset c = false := by
  have hdigit : ∀ width n, c ∈ padded width n → beginsOffset c = false := by
    intro width n hc
    have hvalue := Char.isDigit_iff_toNat.mp (Number.isDigit_of_mem_padded hc)
    refine decide_eq_false ?_
    rintro (rfl | rfl | rfl) <;> revert hvalue <;> decide
  have hpart : ∀ {b : Prop} [Decidable b] {separator : Char} {width n : Nat},
      beginsOffset separator = false → c ∈ (if b then separator :: padded width n else []) →
      beginsOffset c = false := by
    intro b _ separator width n hseparator hc
    split at hc
    · rcases List.mem_cons.mp hc with rfl | hc
      · exact hseparator
      · exact hdigit width n hc
    · exact absurd hc List.not_mem_nil
  rw [toList_clockText] at h
  simp only [List.mem_append, List.mem_cons] at h
  rcases h with hhours | rfl | hminutes | hseconds | hdecimals
  · exact hdigit _ _ hhours
  · decide
  · exact hdigit _ _ hminutes
  · exact hpart (by decide) hseconds
  · exact hpart (by decide) hdecimals

end Clock

/-- An offset is less than a day. -/
def IsOffset (o : Int) : Prop := -day < o ∧ o < day

/-- The offset that is read where one is written: one of less than a second is
taken for none. -/
def readOffset (o : Int) : Int := if o.natAbs < 1000000 then 0 else o

/-- What an offset is written as. -/
theorem toList_offsetText (o : Int) : (offsetText (some o)).toList
    = (if o < 0 then '-' else '+') :: (clockText false o.natAbs).toList := by
  unfold offsetText
  rw [String.toList_append]
  split <;> rfl

/-- **An offset that is written is read.** -/
theorem offset?_offsetText {o : Int} (h : IsOffset o) :
    offset? (offsetText (some o)).toList = some (readOffset o) := by
  have hday : day = 86400000000 := rfl
  unfold IsOffset at h
  rw [hday] at h
  obtain ⟨r, hread, hleft, hseconds, hmicros, -⟩ :=
    clock?_clockText false (by omega : o.natAbs < 86400000000)
  obtain ⟨sign, hsign⟩ : ∃ sign, sign = if o < 0 then '-' else '+' := ⟨_, rfl⟩
  have hnotZ : sign ≠ 'Z' := by
    rw [hsign]
    split <;> decide
  rw [toList_offsetText, ← hsign, offset?.eq_2 _ _ (fun e => absurd e hnotZ),
    if_neg hnotZ, hread]
  -- a whole number of no seconds is taken for none
  have hsize : (if r.seconds = 0 then 0 else r.total)
      = if o.natAbs < 1000000 then 0 else o.natAbs := by
    rw [ClockReading.total, hseconds, hmicros]
    split <;> split <;> omega
  have hsmall : ¬ day ≤ ((if o.natAbs < 1000000 then 0 else o.natAbs : Nat) : Int) := by
    rw [hday]
    split <;> omega
  simp only [Option.bind_eq_bind, Option.bind_some, hleft, hsize, if_neg hsmall,
    Bool.false_eq_true, if_false, Option.some.injEq]
  rw [hsign, readOffset]
  by_cases hneg : o < 0
  · rw [if_pos hneg, if_pos rfl]
    split <;> omega
  · rw [if_neg hneg, if_neg (by decide)]
    split <;> omega

/-! ## Dates -/

/-- What a date is written as. -/
theorem toList_dateText {d : Calendar.Date} {year : Nat} (hyear : d.year = year) :
    (dateText d).toList
      = padded 4 year ++ '-' :: (padded 2 d.month ++ '-' :: padded 2 d.day) := by
  have hhyphen : ("-" : String).toList = ['-'] := rfl
  unfold dateText
  rw [hyear]
  simp only [String.toList_append, hhyphen, List.append_assoc, List.cons_append, List.nil_append,
    padded]
  rfl

theorem length_toList_dateText {d : Calendar.Date} {year : Nat} (hyear : d.year = year)
    (hlast : year < 10000) (hmonth : d.month < 100) (hday : d.day < 100) :
    (dateText d).toList.length = 10 := by
  rw [toList_dateText hyear]
  simp only [List.length_append, List.length_cons,
    Number.length_padded (by decide : 0 < 4) hlast,
    Number.length_padded (by decide : 0 < 2) hmonth,
    Number.length_padded (by decide : 0 < 2) hday]

/-- **A date that is written is read.** -/
theorem date?_dateText {d : Calendar.Date} (hvalid : d.isValid = true)
    (hfirst : Calendar.Date.toDays ⟨1, 1, 1⟩ ≤ d.toDays)
    (hlast : d.toDays < Calendar.Date.toDays ⟨10000, 1, 1⟩)
    (hyear : 1 ≤ d.year ∧ d.year ≤ 9999) : date? (dateText d).toList = some d.toDays := by
  obtain ⟨year, hnat⟩ : ∃ year : Nat, d.year = year := ⟨d.year.toNat, by omega⟩
  obtain ⟨hmonth, hdays⟩ : d.month < 10 ^ 2 ∧ d.day < 10 ^ 2 := by
    have := Calendar.Date.le_of_isValid hvalid
    omega
  obtain ⟨c, cs, hcons, hdigit⟩ := exists_padded_eq_cons 2 d.month
  have hW : c ≠ 'W' := by
    rintro rfl
    exact absurd hdigit (by decide)
  have hrest : padded 2 d.month ++ '-' :: padded 2 d.day
      = c :: (cs ++ '-' :: padded 2 d.day) := by
    rw [hcons]
    rfl
  have hread : monthDate? true year (padded 2 d.month ++ '-' :: padded 2 d.day)
      = some d.toDays := by
    have hlastTwo := takeDigits_padded (by decide : 0 < 2) hdays []
    rw [List.append_nil] at hlastTwo
    unfold monthDate?
    rw [takeDigits_padded (by decide) hmonth]
    simp only [Option.bind_eq_bind, Option.bind_some, takeHyphen, if_true, hlastTwo, ← hnat,
      hvalid]
  rw [toList_dateText hnat]
  unfold date?
  rw [takeDigits_padded (by decide) (by omega)]
  simp only [Option.bind_eq_bind, Option.bind_some]
  rw [hrest] at hread ⊢
  -- a month does not begin like a week
  have hnotW : ∀ more, c :: (cs ++ '-' :: padded 2 d.day) = 'W' :: more → False :=
    fun more e => hW (List.cons.inj e).1
  have hrange : ¬ (year = 0 ∨ d.toDays * day < earliest ∨ latest ≤ d.toDays * day) := by
    have hdaylength : day = 86400000000 := rfl
    rw [earliest, latest, hdaylength]
    omega
  simp only [hread, Option.bind_some, if_neg hrange]

/-- **Where a date ends** that is written and followed by a time. -/
theorem dateLength_dateText {d : Calendar.Date} {year : Nat} (hyear : d.year = year)
    (hlast : year < 10000) (hmonth : d.month < 100) (hday : d.day < 100) (rest : List Char) :
    dateLength ((dateText d).toList ++ 'T' :: rest) = 10 := by
  have hlength : ((dateText d).toList ++ 'T' :: rest).length ≠ 7 := by
    rw [List.length_append, length_toList_dateText hyear hlast hmonth hday]
    omega
  obtain ⟨c, cs, hcons, hdigit⟩ := exists_padded_eq_cons 2 d.month
  have hyears : (padded 4 year).length = 4 := Number.length_padded (by decide) hlast
  have hhyphen : ((dateText d).toList ++ 'T' :: rest)[4]? = some '-' := by
    rw [toList_dateText hyear, List.append_assoc, List.getElem?_append_right (by omega), hyears]
    rfl
  have hnotW : ((dateText d).toList ++ 'T' :: rest)[5]? ≠ some 'W' := by
    rw [toList_dateText hyear, List.append_assoc, List.getElem?_append_right (by omega), hyears,
      hcons]
    intro he
    obtain rfl := Option.some.inj he
    exact absurd hdigit (by decide)
  rw [dateLength, if_neg hlength, if_pos hhyphen, if_neg hnotW]

/-! ## Instants -/

/-- **An instant that a clock can show**: its own clock shows a year from 1 to
9999, and differs from universal time by less than a day. -/
structure OnCalendar (t : Instant) : Prop where
  /-- The first year has begun. -/
  first : earliest ≤ t.shown
  /-- The last one is not over. -/
  last : t.shown < latest
  /-- The offset is one. -/
  offset : ∀ o, t.offset = some o → IsOffset o

/-- **The instant that is read** where one is written. -/
def reread (t : Instant) : Instant :=
  ⟨t.shown - (t.offset.map readOffset).getD 0, t.offset.map readOffset⟩

/-- An instant is read as it was, unless its clock differs from universal time
by a part of a second. -/
theorem reread_eq {t : Instant} (h : ∀ o, t.offset = some o → o = 0 ∨ 1000000 ≤ o.natAbs) :
    t.reread = t := by
  obtain ⟨micros, offset⟩ := t
  cases offset with
  | none => simp [reread, shown]
  | some o =>
    have ho : readOffset o = o := by
      unfold readOffset
      have := h o rfl
      split <;> omega
    simp [reread, shown, ho]

/-- A time of day that is written is read. -/
theorem timeOfDay?_text {micros : Nat} (h : micros < 86400000000) {offset : Option Int}
    (hoffset : ∀ o, offset = some o → IsOffset o) :
    timeOfDay? ((clockText true micros).toList ++ (offsetText offset).toList)
      = some (micros, offset.map readOffset) := by
  obtain ⟨r, hread, hleft, hseconds, hmicros, hday⟩ := clock?_clockText true h
  have htotal : r.total = micros := by
    rw [ClockReading.total, hseconds, hmicros]
    omega
  have hclock : ∀ c ∈ (clockText true micros).toList, (!beginsOffset c) = true :=
    fun c hc => by rw [not_beginsOffset_of_mem_clockText hc]; rfl
  unfold timeOfDay?
  cases offset with
  | none =>
    have hnone : (offsetText none).toList = [] := rfl
    rw [hnone, List.takeWhile_append_of_pos hclock, List.dropWhile_append_of_pos hclock,
      List.takeWhile_nil, List.dropWhile_nil, List.append_nil, hread]
    simp [hday, hleft, htotal]
  | some o =>
    have hsign : beginsOffset (if o < 0 then '-' else '+') = true := by split <;> decide
    have hzone := offset?_offsetText (hoffset o rfl)
    rw [toList_offsetText] at hzone ⊢
    rw [List.takeWhile_append_of_pos hclock, List.dropWhile_append_of_pos hclock,
      List.takeWhile_cons_of_neg (by simp [hsign]), List.dropWhile_cons_of_neg (by simp [hsign]),
      List.append_nil, hread]
    simp [hday, htotal, hzone]

/-- **An instant that is written is read.** -/
theorem ofIso?_toIso {t : Instant} (h : t.OnCalendar) : ofIso? t.toIso = some t.reread := by
  have hdaylength : day = 86400000000 := rfl
  have hearliest : earliest = Calendar.Date.toDays ⟨1, 1, 1⟩ * day := rfl
  have hlatest : latest = Calendar.Date.toDays ⟨10000, 1, 1⟩ * day := rfl
  -- the text is that of a count of days and of a time of day, and each is read on its own
  obtain ⟨days, hdays⟩ : ∃ days, days = t.shown / day := ⟨_, rfl⟩
  obtain ⟨micros, hmicros⟩ : ∃ micros, micros = (t.shown % day).toNat := ⟨_, rfl⟩
  have hfirst := h.first
  have hlast := h.last
  rw [hearliest, hdaylength] at hfirst
  rw [hlatest, hdaylength] at hlast
  rw [hdaylength] at hdays hmicros
  have hsum : days * 86400000000 + micros = t.shown := by omega
  obtain ⟨d, hd⟩ : ∃ d, d = Calendar.Date.ofDays days := ⟨_, rfl⟩
  have hvalid : d.isValid = true := hd ▸ Calendar.Date.isValid_ofDays days
  have hback : d.toDays = days := hd ▸ Calendar.Date.toDays_ofDays days
  have hyear : 1 ≤ d.year ∧ d.year ≤ 9999 :=
    hd ▸ Calendar.Date.year_ofDays (by omega) (by omega)
  obtain ⟨year, hnat⟩ : ∃ year : Nat, d.year = year := ⟨d.year.toNat, by omega⟩
  obtain ⟨hmonth, hday⟩ := Calendar.Date.le_of_isValid hvalid
  have hlength := length_toList_dateText hnat (by omega) (by omega) (by omega)
  have htext : t.toIso.toList = (dateText d).toList
      ++ 'T' :: ((clockText true micros).toList ++ (offsetText t.offset).toList) := by
    have hmark : ("T" : String).toList = ['T'] := rfl
    unfold toIso
    rw [hdaylength, ← hdays, ← hd, ← hmicros]
    simp only [String.toList_append, hmark, List.append_assoc, List.cons_append, List.nil_append]
  have hdate : date? (dateText d).toList = some days :=
    hback ▸ date?_dateText hvalid (by omega) (by omega) hyear
  have htime := timeOfDay?_text (by omega : micros < 86400000000) h.offset
  unfold ofIso?
  simp only [htext, dateLength_dateText hnat (by omega : year < 10000) (by omega) (by omega),
    List.take_left' hlength, List.drop_left' hlength, hdate, htime, Option.bind_eq_bind,
    Option.bind_some]
  rw [reread, hdaylength, hsum]

end Instant

end Listening
