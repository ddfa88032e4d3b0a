import PortableFilter.Proofs.Calendar
import PortableFilter.Proofs.Decimal
import PortableFilter.Proofs.Text
import PortableFilter.ValueStyle

/-! # Reading timestamps from their texts

A timestamp that is read from a text has no parts of a second. The text of such a timestamp is read
back if it has 20 bytes, and it has 20 bytes exactly for the years from 0 to 9999: later and earlier
years are written with a sign. So a text that is read as a timestamp of these years is written in
one way only, however it was written before (`Timestamp.read?_toText`). -/

namespace PortableFilter.Timestamp

/-- The date of a timestamp. -/
def date (timestamp : Timestamp) : Date := Calendar.dateOfDay (timestamp.seconds / 86400)

/-- A timestamp has no parts of a second. It may be the leap second behind the last second of a
minute. -/
def IsWhole (timestamp : Timestamp) : Prop :=
  timestamp.nanos = 0 ∨ timestamp.nanos = nanosPerSecond ∧ timestamp.seconds % 60 = 59

/-- The years whose timestamps are written without a sign. -/
def HasPlainYear (timestamp : Timestamp) : Prop :=
  0 ≤ timestamp.date.year ∧ timestamp.date.year ≤ 9999

instance (timestamp : Timestamp) : Decidable timestamp.HasPlainYear := instDecidableAnd

/-! ## Padded numbers -/

theorem isDigit_of_mem_padded {width n : Nat} : ∀ c ∈ padded width n, c.isDigit := by
  intro c member
  rcases List.mem_append.mp member with zero | digit
  · rw [List.eq_of_mem_replicate zero]
    decide
  · exact Nat.isDigit_of_mem_toDigits (by decide) (by decide) digit

/-- Padding gives at least the wanted number of digits. -/
theorem le_length_padded (width n : Nat) : width ≤ (padded width n).length := by
  rw [padded, List.length_append, List.length_replicate]
  omega

/-- A number that fits is padded to exactly the wanted number of digits. -/
theorem length_padded {width n : Nat} (positive : 0 < width) (fits : n < 10 ^ width) :
    (padded width n).length = width := by
  have short := (Nat.length_toDigits_le_iff (by decide) positive).mpr fits
  rw [padded, List.length_append, List.length_replicate]
  omega

/-- Zeros at the front do not change what digits denote. -/
theorem ofDigits_padded (width n : Nat) : Decimal.ofDigits (padded width n) = n := by
  rw [padded, Decimal.ofDigits_append, Decimal.ofDigits_replicate_zero, Nat.zero_mul, Nat.zero_add]
  exact Nat.ofDigitChars_ten_toDigits

/-- Only so many digits are read as the number has, even if others follow. -/
theorem readDigits?_padded {width n : Nat} (positive : 0 < width) (fits : n < 10 ^ width)
    (rest : List Char) : readDigits? width (padded width n ++ rest) = some (n, rest) := by
  have digits : ((padded width n ++ rest).takeWhile Char.isDigit).take width = padded width n := by
    rw [List.takeWhile_append_of_pos isDigit_of_mem_padded]
    exact List.take_left' (length_padded positive fits)
  have nonempty : padded width n ≠ [] := by
    rw [← List.length_pos_iff, length_padded positive fits]
    exact positive
  rw [readDigits?, digits, if_neg nonempty, ofDigits_padded, List.drop_left]

/-- A padded number starts with a digit. -/
theorem exists_padded_eq_cons {width n : Nat} (positive : 0 < width) :
    ∃ c later, padded width n = c :: later ∧ c.isDigit := by
  have nonempty := Nat.lt_of_lt_of_le positive (le_length_padded width n)
  obtain ⟨c, later, spelled⟩ := List.exists_cons_of_ne_nil (List.length_pos_iff.mp nonempty)
  exact ⟨c, later, spelled, isDigit_of_mem_padded c (spelled ▸ List.mem_cons_self)⟩

/-- No blanks stand before a number. -/
theorem dropWhile_isBlank_padded {width n : Nat} (positive : 0 < width) (rest : List Char) :
    (padded width n ++ rest).dropWhile Text.isBlank = padded width n ++ rest := by
  obtain ⟨c, later, spelled, digit⟩ := @exists_padded_eq_cons width n positive
  rw [spelled, List.cons_append, List.dropWhile_cons, Text.isBlank_eq_false_of_isDigit digit,
    if_neg Bool.false_ne_true]

theorem readField?_padded {n : Nat} (fits : n < 100) (rest : List Char) :
    readField? (padded 2 n ++ rest) = some (n, rest) := by
  rw [readField?, dropWhile_isBlank_padded (by decide), readDigits?_padded (by decide) fits]

/-- A year of four digits is read back. -/
theorem readYear?_yearText {year : Int} (plain : 0 ≤ year ∧ year ≤ 9999) (rest : List Char) :
    readYear? (yearText year ++ rest) = some (year, rest) := by
  have fits : year.toNat < 10 ^ 4 := by omega
  have read := readDigits?_padded (by decide) fits rest
  obtain ⟨c, later, spelled, digit⟩ := @exists_padded_eq_cons 4 year.toNat (by decide)
  rw [yearText, if_pos plain, readYear?, dropWhile_isBlank_padded (by decide)]
  rw [spelled, List.cons_append] at read ⊢
  split
  · rename_i isMinus
    rw [(List.cons.inj isMinus).1] at digit
    exact absurd digit (by decide)
  · rename_i isPlus
    rw [(List.cons.inj isPlus).1] at digit
    exact absurd digit (by decide)
  · rw [read, Option.map_some]
    simp only [Int.ofNat_eq_natCast, Int.toNat_of_nonneg plain.1]

/-! ## The layout of a timestamp -/

/-- The layout of a date and a time of day. -/
def layout (date : Date) (hour minute second : Nat) : List Char :=
  yearText date.year ++ '-' :: (padded 2 date.month ++ '-' :: (padded 2 date.day ++
    'T' :: (padded 2 hour ++ ':' :: (padded 2 minute ++ ':' :: (padded 2 second ++ ['Z'])))))

/-- The second of the day in which a timestamp falls. -/
def inDay (timestamp : Timestamp) : Nat := (timestamp.seconds % 86400).toNat

/-- A timestamp is written as its date and the parts of its second in the day. What is left of a
leap second counts as one more second. -/
theorem chars_eq_layout (timestamp : Timestamp) :
    timestamp.chars = layout timestamp.date (timestamp.inDay / 3600) (timestamp.inDay / 60 % 60)
      (timestamp.inDay % 60 + timestamp.nanos / nanosPerSecond) := by
  simp only [chars, layout, date, inDay, List.append_assoc, List.cons_append]

theorem readMark?_self (mark : Char) (rest : List Char) :
    readMark? mark (mark :: rest) = some rest := if_pos rfl

/-- A field behind its mark is read. -/
theorem readMark?_bind_readField? {β : Type} {n : Nat} (fits : n < 100) (mark : Char)
    (rest : List Char) (next : Nat × List Char → Option β) :
    (readMark? mark (mark :: (padded 2 n ++ rest)) >>= fun text => readField? text >>= next) =
      next (n, rest) := by
  rw [readMark?_self, Option.bind_eq_bind, Option.bind_some, readField?_padded fits]
  rfl

/-- The fields of a date and a time are read from their layout. -/
theorem readChars?_layout {date : Date} {hour minute second : Nat}
    (plain : 0 ≤ date.year ∧ date.year ≤ 9999) (months : date.month < 100) (days : date.day < 100)
    (hours : hour < 100) (minutes : minute < 100) (seconds : second < 100) :
    readChars? (layout date hour minute second) = ofFields? date hour minute second := by
  rw [readChars?, layout, readYear?_yearText plain, Option.bind_eq_bind, Option.bind_some]
  simp only [readMark?_bind_readField? months, readMark?_bind_readField? days,
    readMark?_bind_readField? hours, readMark?_bind_readField? minutes,
    readMark?_bind_readField? seconds]
  rw [readMark?_self, Option.bind_eq_bind, Option.bind_some, if_pos rfl]

/-- All fields but the year have a fixed length. -/
theorem length_layout {date : Date} {hour minute second : Nat} (months : date.month < 100)
    (days : date.day < 100) (hours : hour < 100) (minutes : minute < 100) (seconds : second < 100) :
    (layout date hour minute second).length = (yearText date.year).length + 16 := by
  have two {n : Nat} (fits : n < 100) : (padded 2 n).length = 2 := length_padded (by decide) fits
  simp only [layout, List.length_append, List.length_cons, List.length_nil, two months, two days,
    two hours, two minutes, two seconds]

theorem utf8Size_of_isDigit {c : Char} (digit : c.isDigit) : c.utf8Size = 1 := by
  simp only [Char.isDigit, Bool.and_eq_true, decide_eq_true_eq, ge_iff_le] at digit
  exact Char.utf8Size_eq_one_iff.mpr (UInt32.le_trans digit.2 (by decide))

theorem utf8Size_of_mem_yearText {year : Int} : ∀ c ∈ yearText year, c.utf8Size = 1 := by
  intro c member
  rw [yearText] at member
  split at member
  · exact utf8Size_of_isDigit (isDigit_of_mem_padded c member)
  · rcases List.mem_cons.mp member with sign | digit
    · rw [sign]
      split <;> decide
    · exact utf8Size_of_isDigit (isDigit_of_mem_padded c digit)

/-- All characters of a timestamp take one byte. -/
theorem utf8Size_of_mem_layout {date : Date} {hour minute second : Nat} :
    ∀ c ∈ layout date hour minute second, c.utf8Size = 1 := by
  have digits {n : Nat} : ∀ c ∈ padded 2 n, c.utf8Size = 1 := fun c member =>
    utf8Size_of_isDigit (isDigit_of_mem_padded c member)
  simp only [layout, List.forall_mem_append, List.forall_mem_cons]
  exact ⟨utf8Size_of_mem_yearText, by decide, digits, by decide, digits, by decide, digits,
    by decide, digits, by decide, digits, by decide, List.forall_mem_nil _⟩

/-- A text of such characters takes as many bytes as it has characters. -/
theorem utf8ByteSize_ofList {text : List Char} (single : ∀ c ∈ text, c.utf8Size = 1) :
    (String.ofList text).utf8ByteSize = text.length := by
  induction text with
  | nil => rfl
  | cons c rest inductionHypothesis =>
    rw [List.forall_mem_cons] at single
    rw [String.ofList_cons, String.utf8ByteSize_append, String.utf8ByteSize_singleton, single.1,
      inductionHypothesis single.2, List.length_cons, Nat.add_comm]

/-! ## The fields of a timestamp -/

theorem natCast_inDay (timestamp : Timestamp) :
    (timestamp.inDay : Int) = timestamp.seconds % 86400 :=
  Int.toNat_of_nonneg (Int.emod_nonneg _ (by decide))

theorem inDay_lt (timestamp : Timestamp) : timestamp.inDay < 86400 := by
  have small := Int.emod_lt_of_pos timestamp.seconds (b := 86400) (by decide)
  rw [← natCast_inDay] at small
  exact Int.ofNat_lt.mp small

/-- The second that is written is the 60th only for a leap second. -/
theorem IsWhole.second_cases {timestamp : Timestamp} (whole : timestamp.IsWhole) :
    timestamp.nanos = 0 ∧ timestamp.nanos / nanosPerSecond = 0 ∨
      timestamp.nanos = nanosPerSecond ∧ timestamp.nanos / nanosPerSecond = 1 ∧
        timestamp.inDay % 60 = 59 := by
  rcases whole with none | ⟨leap, last⟩
  · exact .inl ⟨none, by rw [none, Nat.zero_div]⟩
  · have inDay := natCast_inDay timestamp
    exact .inr ⟨leap, by rw [leap]; decide, by omega⟩

/-- Fields are a timestamp exactly if they are a date and a time of the clock within the range of
years. -/
theorem ofFields?_eq_some_iff {date : Date} {hour minute second : Nat} {timestamp : Timestamp} :
    ofFields? date hour minute second = some timestamp ↔
      (firstYear ≤ date.year ∧ date.year ≤ lastYear ∧ Calendar.isDate date ∧
        hour < 24 ∧ minute < 60 ∧ second ≤ 60) ∧
      timestamp.seconds = Calendar.dayNumber date * 86400 +
        (hour * 3600 + minute * 60 + (second - second / 60) : Nat) ∧
      timestamp.nanos = second / 60 * nanosPerSecond := by
  obtain ⟨elapsed, nanos⟩ := timestamp
  rw [ofFields?]
  split
  · rename_i fields
    rw [Option.some.injEq, eq_comm, Timestamp.mk.injEq]
    exact (and_iff_right fields).symm
  · rename_i fields
    exact ⟨fun made => absurd made (by simp), fun made => absurd made.1 fields⟩

/-- The fields of a timestamp make it up again. -/
theorem ofFields?_date {timestamp : Timestamp} (whole : timestamp.IsWhole)
    (early : firstYear ≤ timestamp.date.year) (late : timestamp.date.year ≤ lastYear) :
    ofFields? timestamp.date (timestamp.inDay / 3600) (timestamp.inDay / 60 % 60)
      (timestamp.inDay % 60 + timestamp.nanos / nanosPerSecond) = some timestamp := by
  obtain ⟨isDay, day⟩ := Calendar.dayNumber_dateOfDay (timestamp.seconds / 86400)
  have inDay := natCast_inDay timestamp
  have small := inDay_lt timestamp
  have second := whole.second_cases
  refine ofFields?_eq_some_iff.mpr ⟨⟨early, late, isDay, by omega, by omega, by omega⟩, ?_, ?_⟩
  · rw [date, day]
    omega
  · rcases second with ⟨none, written⟩ | ⟨leap, written, last⟩
    · rw [written, none, Nat.add_zero, Nat.div_eq_of_lt (Nat.mod_lt _ (by decide)), Nat.zero_mul]
    · rw [written, leap, last, Nat.div_self (by decide), Nat.one_mul]

/-- A timestamp that is made from a date and a time of day has this date. -/
theorem date_of_ofFields? {date : Date} {hour minute second : Nat} {timestamp : Timestamp}
    (made : ofFields? date hour minute second = some timestamp) :
    timestamp.IsWhole ∧ timestamp.date = date ∧ firstYear ≤ date.year ∧ date.year ≤ lastYear := by
  obtain ⟨⟨early, late, isDay, hours, minutes, seconds⟩, elapsed, nanos⟩ :=
    ofFields?_eq_some_iff.mp made
  have day : timestamp.seconds / 86400 = Calendar.dayNumber date := by omega
  refine ⟨?_, ?_, early, late⟩
  · rcases Nat.lt_or_eq_of_le seconds with inMinute | leap
    · exact .inl (by rw [nanos, Nat.div_eq_of_lt inMinute, Nat.zero_mul])
    · exact .inr ⟨by rw [nanos, leap, Nat.div_self (by decide), Nat.one_mul], by omega⟩
  · rw [Timestamp.date, day, Calendar.dateOfDay_dayNumber isDay]

/-! ## Reading a timestamp back -/

/-- What is read behind a mark and a field starts with both. -/
theorem exists_of_readMark?_bind_readField? {β : Type} {mark : Char} {text : List Char}
    {next : Nat × List Char → Option β} {result : β}
    (read : (readMark? mark text >>= fun text => readField? text >>= next) = some result) :
    ∃ n rest, next (n, rest) = some result := by
  obtain ⟨rest, -, readsField⟩ := Option.bind_eq_some_iff.mp read
  obtain ⟨⟨n, rest⟩, -, goesOn⟩ := Option.bind_eq_some_iff.mp readsField
  exact ⟨n, rest, goesOn⟩

/-- A timestamp is read from a date and a time of day. -/
theorem exists_ofFields?_of_read? {text : String} {timestamp : Timestamp}
    (read : read? text = some timestamp) :
    ∃ date hour minute second, ofFields? date hour minute second = some timestamp := by
  rw [read?, Option.ite_none_right_eq_some] at read
  obtain ⟨⟨year, _⟩, -, read⟩ := Option.bind_eq_some_iff.mp read.2
  obtain ⟨month, _, read⟩ := exists_of_readMark?_bind_readField? read
  obtain ⟨day, _, read⟩ := exists_of_readMark?_bind_readField? read
  obtain ⟨hour, _, read⟩ := exists_of_readMark?_bind_readField? read
  obtain ⟨minute, _, read⟩ := exists_of_readMark?_bind_readField? read
  obtain ⟨second, _, read⟩ := exists_of_readMark?_bind_readField? read
  obtain ⟨_, -, read⟩ := Option.bind_eq_some_iff.mp read
  rw [Option.ite_none_right_eq_some] at read
  exact ⟨⟨year, month, day⟩, hour, minute, second, read.2⟩

/-- A year is written with four characters exactly if it needs no sign. -/
theorem length_yearText {year : Int} :
    (yearText year).length = 4 ↔ 0 ≤ year ∧ year ≤ 9999 := by
  by_cases plain : 0 ≤ year ∧ year ≤ 9999
  · have fits : year.toNat < 10 ^ 4 := by omega
    rw [yearText, if_pos plain, length_padded (by decide) fits]
    exact iff_of_true rfl plain
  · have long := le_length_padded 4 year.natAbs
    rw [yearText, if_neg plain, List.length_cons]
    exact iff_of_false (by omega) plain

/-- Every field of a timestamp but the year is written with two digits. -/
theorem IsWhole.fields_lt {timestamp : Timestamp} (whole : timestamp.IsWhole) :
    timestamp.date.month < 100 ∧ timestamp.date.day < 100 ∧ timestamp.inDay / 3600 < 100 ∧
      timestamp.inDay / 60 % 60 < 100 ∧
      timestamp.inDay % 60 + timestamp.nanos / nanosPerSecond < 100 := by
  obtain ⟨isDay, -⟩ := Calendar.dayNumber_dateOfDay (timestamp.seconds / 86400)
  obtain ⟨months, days⟩ := Calendar.month_day_le_of_isDate isDay
  have small := inDay_lt timestamp
  have second := whole.second_cases
  exact ⟨Nat.lt_of_le_of_lt months (by decide), Nat.lt_of_le_of_lt days (by decide), by omega,
    by omega, by omega⟩

/-- A timestamp of whole seconds is written with 20 bytes exactly in the years without a sign. -/
theorem utf8ByteSize_toText {timestamp : Timestamp} (whole : timestamp.IsWhole) :
    timestamp.toText.utf8ByteSize = 20 ↔ timestamp.HasPlainYear := by
  obtain ⟨months, days, hours, minutes, seconds⟩ := whole.fields_lt
  rw [toText, chars_eq_layout, utf8ByteSize_ofList utf8Size_of_mem_layout,
    length_layout months days hours minutes seconds, HasPlainYear, ← length_yearText]
  omega

/-- A timestamp of a whole second in a year of four digits is read back. -/
theorem read?_toText_of_plain {timestamp : Timestamp} (whole : timestamp.IsWhole)
    (plain : timestamp.HasPlainYear) : read? timestamp.toText = some timestamp := by
  obtain ⟨months, days, hours, minutes, seconds⟩ := whole.fields_lt
  have early : firstYear ≤ timestamp.date.year := Int.le_trans (by decide) plain.1
  have late : timestamp.date.year ≤ lastYear := Int.le_trans plain.2 (by decide)
  rw [read?, if_pos ((utf8ByteSize_toText whole).mpr plain), toText, String.toList_ofList,
    chars_eq_layout, readChars?_layout plain months days hours minutes seconds,
    ofFields?_date whole early late]

/-- Reading yields timestamps of whole seconds. The text of a timestamp of whole seconds is read
back exactly in the years without a sign. So in these years the texts of one instant have one
common form in every dialect: 20 bytes that are read as this instant and are kept as they are. -/
theorem read?_toText :
    (∀ text timestamp, read? text = some timestamp → timestamp.IsWhole ∧
      firstYear ≤ timestamp.date.year ∧ timestamp.date.year ≤ lastYear) ∧
    (∀ timestamp : Timestamp, timestamp.IsWhole →
      read? timestamp.toText = if timestamp.HasPlainYear then some timestamp else none) ∧
    ∀ text timestamp, read? text = some timestamp → timestamp.HasPlainYear →
      timestamp.toText.utf8ByteSize = 20 ∧ read? timestamp.toText = some timestamp ∧
      ∀ style : ValueStyle, style.scalarText (.text text) = style.quote timestamp.toText ∧
        style.scalarText (.text timestamp.toText) = style.scalarText (.text text) := by
  have whole {text timestamp} (read : read? text = some timestamp) : timestamp.IsWhole := by
    obtain ⟨date, hour, minute, second, made⟩ := exists_ofFields?_of_read? read
    exact (date_of_ofFields? made).1
  refine ⟨?_, ?_, ?_⟩
  · intro text timestamp read
    obtain ⟨date, hour, minute, second, made⟩ := exists_ofFields?_of_read? read
    obtain ⟨whole, dated, years⟩ := date_of_ofFields? made
    exact ⟨whole, dated ▸ years⟩
  · intro timestamp whole
    split
    · rename_i plain
      exact read?_toText_of_plain whole plain
    · rename_i signed
      rw [read?, if_neg (mt (utf8ByteSize_toText whole).mp signed)]
  · intro text timestamp read plain
    have again := read?_toText_of_plain (whole read) plain
    refine ⟨(utf8ByteSize_toText (whole read)).mpr plain, again, ?_⟩
    intro style
    exact ⟨by simp only [ValueStyle.scalarText, read],
      by simp only [ValueStyle.scalarText, read, again]⟩

/-- The leap second at the end of a leap day of the year 0, written with blanks for zeros. -/
theorem read?_toText_leapSecond :
    ∃ timestamp, read? "    0-2-29T23:59:60Z" = some timestamp ∧ timestamp.HasPlainYear ∧
      timestamp.nanos = nanosPerSecond ∧ timestamp.toText = "0000-02-29T23:59:60Z" ∧
      read? timestamp.toText = some timestamp := by
  have read : read? "    0-2-29T23:59:60Z" = some ⟨-719469 * 86400 + 86399, nanosPerSecond⟩ := by
    cbv
  have plain : HasPlainYear ⟨-719469 * 86400 + 86399, nanosPerSecond⟩ := by decide
  exact ⟨_, read, plain, rfl, by cbv, (read?_toText.2.2 _ _ read plain).2.1⟩

end PortableFilter.Timestamp
