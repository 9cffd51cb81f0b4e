import Telescope.Data.Exception
import Telescope.Text.Columns
import Telescope.Text.Edit
import Telescope.Text.Float
import Telescope.Text.Lines

namespace Telescope.Gpu

open Telescope

/-! The log of an NCCL test: its configuration, devices, table and summary. -/

def intOf (text : Text) : Except Error Int :=
  match parseInteger? text with
  | some value => .ok value
  | none => .error (.valueError (lit "invalid literal for int() with base 10: '" ++ text ++ lit "'"))

def floatOf (text : Text) : Except Error FloatValue :=
  match parseFloat? text with
  | some value => .ok value
  | none => .error (.valueError (lit "could not convert string to float: '" ++ text ++ lit "'"))

/-- `match.group(i + 1)` -/
def groupAt (groups : List Text) (i : Nat) : Text := groups.getD i []

/-! The patterns. -/

def sequence : List Regex → Regex
  | [] => .literal []
  | [last] => last
  | pattern :: rest => .seq pattern (sequence rest)

def digitsPattern : Regex := .many1 isDecimal

def signedPattern : Regex := .seq (.alt (.literal ['-']) (.literal [])) digitsPattern

def isNumberChar (c : Char) : Bool := isAsciiDigit c || c = '.'

def numberPattern : Regex := .many1 isNumberChar

def visiblePattern : Regex := .many1 fun c => !isSpace c

def configPattern : Regex :=
  sequence [
    .literal (lit "# nThread "), .group digitsPattern,
    .literal (lit " nGpus "), .group digitsPattern,
    .literal (lit " minBytes "), .group digitsPattern,
    .literal (lit " maxBytes "), .group digitsPattern,
    .literal (lit " step: "), .group digitsPattern,
    .literal (lit "(factor) warmup iters: "), .group digitsPattern,
    .literal (lit " iters: "), .group digitsPattern]

def devicePattern : Regex :=
  sequence [
    .literal (lit "#"), .many1 isSpace, .literal (lit "Rank"), .many1 isSpace, .group digitsPattern,
    .many1 isSpace, .literal (lit "Group"), .many1 isSpace, .group digitsPattern,
    .many1 isSpace, .literal (lit "Pid"), .many1 isSpace, .group digitsPattern,
    .many1 isSpace, .literal (lit "on"), .many1 isSpace, .group visiblePattern,
    .many1 isSpace, .literal (lit "device"), .many1 isSpace, .group digitsPattern,
    .many1 isSpace, .literal (lit "["), .group (.many1 (· ≠ ']')), .literal (lit "]"),
    .many1 isSpace, .group (.many1 (· ≠ '\n'))]

def averagePattern : Regex :=
  sequence [
    .literal (lit "# Avg bus bandwidth"), .many1 isSpace, .literal (lit ":"), .many1 isSpace,
    .group numberPattern]

/-- `isWord` is the class `\w`. -/
def outOfBoundsPattern (isWord : Char → Bool) : Regex :=
  sequence [
    .literal (lit "# Out of bounds values : "), .group digitsPattern, .literal (lit " "),
    .group (.many1 isWord)]

def columnPatterns (isWord : Char → Bool) : List Regex :=
  [digitsPattern, digitsPattern, .many1 isWord, .many1 isWord, signedPattern,
    numberPattern, numberPattern, numberPattern, visiblePattern,
    numberPattern, numberPattern, numberPattern, visiblePattern]

def dataPattern (isWord : Char → Bool) : Regex :=
  .seq (.many isSpace) (.columns (columnPatterns isWord))

/-! The result. -/

def testInfoKeys : List Text :=
  [lit "nThread", lit "nGpus", lit "minBytes", lit "maxBytes", lit "step", lit "warmup_iters",
    lit "iters"]

structure Device where
  rank : Int
  group : Int
  pid : Int
  hostname : Text
  deviceId : Int
  pciId : Text
  gpuName : Text

/-- A row in one of the two lists. -/
structure Entry where
  sizeBytes : Int
  count : Int
  type : Text
  redop : Text
  root : Int
  timeUs : FloatValue
  algbwGbps : FloatValue
  busbwGbps : FloatValue
  wrong : Text

/-- What the two entries of a row have in common. -/
def Entry.shared (entry : Entry) : Int × Int × Text × Text × Int :=
  (entry.sizeBytes, entry.count, entry.type, entry.redop, entry.root)

structure PerformanceData where
  outOfPlace : List Entry
  inPlace : List Entry

structure NcclResult where
  testInfo : List (Text × Int)
  devices : List Device
  performanceData : PerformanceData
  avgBusBandwidthGbps : Option FloatValue
  outOfBounds : Option (Int × Text)

def readTestInfo (content : Text) : Except Error (List (Text × Int)) :=
  match configPattern.search content with
  | none => .ok []
  | some found => testInfoKeys.zipIdx.mapM fun (key, i) => do
      return (key, ← intOf (groupAt found.groups i))

def readDevice (groups : List Text) : Except Error Device := do
  let rank ← intOf (groupAt groups 0)
  let group ← intOf (groupAt groups 1)
  let pid ← intOf (groupAt groups 2)
  let deviceId ← intOf (groupAt groups 4)
  return {
    rank := rank
    group := group
    pid := pid
    hostname := groupAt groups 3
    deviceId := deviceId
    pciId := groupAt groups 5
    gpuName := stripText (groupAt groups 6) }

def readDevices (content : Text) : Except Error (List Device) :=
  (devicePattern.findall (content.length + 1) content).mapM readDevice

/-- The two entries of a matched row. -/
def readRow (groups : List Text) : Except Error (Entry × Entry) := do
  let sizeBytes ← intOf (groupAt groups 0)
  let count ← intOf (groupAt groups 1)
  let root ← intOf (groupAt groups 4)
  let oopTime ← floatOf (groupAt groups 5)
  let oopAlgbw ← floatOf (groupAt groups 6)
  let oopBusbw ← floatOf (groupAt groups 7)
  let ipTime ← floatOf (groupAt groups 9)
  let ipAlgbw ← floatOf (groupAt groups 10)
  let ipBusbw ← floatOf (groupAt groups 11)
  let entry (time algbw busbw : FloatValue) (wrong : Text) : Entry :=
    ⟨sizeBytes, count, groupAt groups 2, groupAt groups 3, root, time, algbw, busbw, wrong⟩
  return (entry oopTime oopAlgbw oopBusbw (groupAt groups 8),
    entry ipTime ipAlgbw ipBusbw (groupAt groups 12))

def header : Text :=
  lit "#       size         count      type   redop    root     time   algbw   busbw #wrong" ++
    lit "     time   algbw   busbw #wrong"

/-- The line ends the table. -/
def isStop (line : Text) : Bool :=
  (lit "# Out of bounds").isPrefixOf (stripText line) ||
    (lit "# Avg bus bandwidth").isPrefixOf (stripText line)

def isComment (line : Text) : Bool := (lit "#").isPrefixOf (stripText line)

def scanLines (isWord : Char → Bool) :
    List Text → Bool → PerformanceData → Except Error PerformanceData
  | [], _, data => .ok data
  | line :: rest, dataStarted, data =>
      if containsText header line then scanLines isWord rest true data
      else if !dataStarted then scanLines isWord rest dataStarted data
      else if isStop line then .ok data
      else if stripText line ≠ [] ∧ !isComment line then
        match (dataPattern isWord).first line with
        | none => scanLines isWord rest dataStarted data
        | some found =>
            match readRow found.groups with
            | .error error => .error error
            | .ok (outOfPlace, inPlace) =>
                scanLines isWord rest dataStarted
                  ⟨data.outOfPlace ++ [outOfPlace], data.inPlace ++ [inPlace]⟩
      else scanLines isWord rest dataStarted data

def readAverage (content : Text) : Except Error (Option FloatValue) :=
  match averagePattern.search content with
  | none => .ok none
  | some found => do return some (← floatOf (groupAt found.groups 0))

def readOutOfBounds (isWord : Char → Bool) (content : Text) : Except Error (Option (Int × Text)) :=
  match (outOfBoundsPattern isWord).search content with
  | none => .ok none
  | some found => do return some (← intOf (groupAt found.groups 0), groupAt found.groups 1)

/-- `content` is what reading the file returns; exceptions are logged and raised again. -/
def parseNcclTestResults (isWord : Char → Bool) (content : Except Error Text) :
    Except Error NcclResult := do
  let content ← content
  let testInfo ← readTestInfo content
  let devices ← readDevices content
  let data ← scanLines isWord (content.splitOn '\n') false ⟨[], []⟩
  let average ← readAverage content
  let outOfBounds ← readOutOfBounds isWord content
  return ⟨testInfo, devices, data, average, outOfBounds⟩

/-! Logs. -/

structure Metrics where
  time : Numeral
  algbw : Numeral
  busbw : Numeral
  wrong : Text
  wrongColumn : IsColumn wrong

/-- A data row; its gaps are any whitespace within the line. -/
structure Row (isWord : Char → Bool) where
  leading : Text
  size : Digits
  count : Digits
  type : Text
  redop : Text
  root : IntegerLiteral
  outOfPlace : Metrics
  inPlace : Metrics
  gap : Nat → Gap
  trailing : Text
  typeWord : type ≠ [] ∧ ∀ c ∈ type, isWord c = true
  redopWord : redop ≠ [] ∧ ∀ c ∈ redop, isWord c = true
  rootSign : root.sign ≠ some false
  leadingBlank : ∀ c ∈ leading, isSpace c = true ∧ c ≠ '\n'
  trailingBlank : ∀ c ∈ trailing, isSpace c = true ∧ c ≠ '\n'
  inLine : ∀ i, '\n' ∉ (gap i).chars

namespace Row

variable {isWord : Char → Bool}

def columns (row : Row isWord) : List Text :=
  [row.size.chars, row.count.chars, row.type, row.redop, row.root.text,
    row.outOfPlace.time.text, row.outOfPlace.algbw.text, row.outOfPlace.busbw.text,
    row.outOfPlace.wrong,
    row.inPlace.time.text, row.inPlace.algbw.text, row.inPlace.busbw.text, row.inPlace.wrong]

def text (row : Row isWord) : Text :=
  row.leading ++ (joinColumns row.gap 0 row.columns ++ row.trailing)

/-- The entry of the row with one of its groups of metrics. -/
def entry (row : Row isWord) (metrics : Metrics) : Entry where
  sizeBytes := digitsValue row.size.chars
  count := digitsValue row.count.chars
  type := row.type
  redop := row.redop
  root := row.root.value
  timeUs := .finite metrics.time.value
  algbwGbps := .finite metrics.algbw.value
  busbwGbps := .finite metrics.busbw.value
  wrong := metrics.wrong

/-- `int` converts the integers of the row. -/
def Fits (row : Row isWord) : Prop :=
  row.size.chars.length ≤ intMaxStrDigits ∧ row.count.chars.length ≤ intMaxStrDigits ∧
    row.root.digits.chars.length ≤ intMaxStrDigits

end Row

/-- Each row once and in order. -/
def performanceData {isWord : Char → Bool} (rows : List (Row isWord)) : PerformanceData where
  outOfPlace := rows.map fun row => row.entry row.outOfPlace
  inPlace := rows.map fun row => row.entry row.inPlace

inductive Line (isWord : Char → Bool) where
  | comment (line : Text) (oneLine : '\n' ∉ line) (starts : isComment line = true)
      (goesOn : isStop line = true → containsText header line = true)
  | blank (line : Text) (oneLine : '\n' ∉ line) (empty : stripText line = [])
  | data (row : Row isWord)

namespace Line

variable {isWord : Char → Bool}

def text : Line isWord → Text
  | .comment line _ _ _ => line
  | .blank line _ _ => line
  | .data row => row.text

def row? : Line isWord → Option (Row isWord)
  | .data row => some row
  | _ => none

end Line

/-- A log: the header line is the first that contains the header, and the summary, if any,
begins with the line that ends the table. -/
structure Log (isWord : Char → Bool) where
  preamble : List Text
  headerLine : Text
  table : List (Line isWord)
  summary : List Text
  preambleLines : ∀ line ∈ preamble, '\n' ∉ line ∧ containsText header line = false
  isHeader : '\n' ∉ headerLine ∧ containsText header headerLine = true
  summaryLines : ∀ line ∈ summary, '\n' ∉ line
  ends : ∀ line ∈ summary.head?, isStop line = true ∧ containsText header line = false

namespace Log

variable {isWord : Char → Bool}

def lines (log : Log isWord) : List Text :=
  log.preamble ++ (log.headerLine :: (log.table.map Line.text ++ log.summary))

def content (log : Log isWord) : Text := joinText ['\n'] log.lines

/-- The data rows before the summary. -/
def rows (log : Log isWord) : List (Row isWord) := log.table.filterMap Line.row?

end Log

/-! The columns of a row. -/

section Columns

variable {isWord : Char → Bool} (wordsVisible : ∀ c, isWord c = true → isSpace c = false)

theorem isColumn_digits (digits : Digits) : IsColumn digits.chars :=
  ⟨digits.nonempty, fun c member => (isDecimal_plain (digits.decimal c member)).1⟩

theorem isColumn_numeral (numeral : Numeral) : IsColumn numeral.text := by
  refine ⟨?_, fun c member => Numeral.isSpace_eq_false (Numeral.mem_text member)⟩
  obtain ⟨whole, fraction, nonempty, digits⟩ := numeral
  cases fraction with
  | none => simpa [Numeral.text] using nonempty
  | some fraction => simp [Numeral.text]

private theorem isColumn_literal (literal : IntegerLiteral) : IsColumn literal.text := by
  obtain ⟨sign, digits⟩ := literal
  have visible := (isColumn_digits digits).2
  match sign with
  | none => exact isColumn_digits digits
  | some true => exact ⟨List.cons_ne_nil _ _, List.forall_mem_cons.mpr ⟨by decide, visible⟩⟩
  | some false => exact ⟨List.cons_ne_nil _ _, List.forall_mem_cons.mpr ⟨by decide, visible⟩⟩

theorem reads_digits (digits : Digits) : digitsPattern.Reads digits.chars :=
  Regex.reads_many1 (fun _ decimal => (isDecimal_plain decimal).1) digits.nonempty digits.decimal

theorem reads_number (numeral : Numeral) : numberPattern.Reads numeral.text := by
  have plain {c : Char} (number : isNumberChar c = true) : isAsciiDigit c = true ∨ c = '.' := by
    simpa [isNumberChar] using number
  apply Regex.reads_many1 (fun _ number => Numeral.isSpace_eq_false (plain number))
    (isColumn_numeral numeral).1
  intro c member
  simpa [isNumberChar] using Numeral.mem_text member

theorem reads_visible {column : Text} (isColumn : IsColumn column) :
    visiblePattern.Reads column := by
  apply Regex.reads_many1 (fun _ visible => by simpa using visible) isColumn.1
  intro c member
  simpa using isColumn.2 c member

private theorem reads_signed {literal : IntegerLiteral} (sign : literal.sign ≠ some false) :
    signedPattern.Reads literal.text := by
  obtain ⟨minus, digits⟩ := literal
  intro rest blank
  have read := reads_digits digits rest blank
  have minusFirst : ∀ c ∈ digits.chars.head?, '-' ≠ c := by
    rintro c first rfl
    exact (isDecimal_plain (digits.decimal '-' (List.mem_of_mem_head? first))).2.2.1 rfl
  cases minus with
  | none =>
      obtain ⟨c, others, chars⟩ := List.exists_cons_of_ne_nil digits.nonempty
      have missed : (Regex.literal ['-']).candidates (digits.chars ++ rest) = [] := by
        rw [chars]
        exact Regex.candidates_literal_cons_ne '-' c (minusFirst c (by simp [chars])) [] _
      have unsigned : (Regex.alt (.literal ['-']) (.literal [])).first (digits.chars ++ rest) =
          some ⟨[], digits.chars ++ rest⟩ :=
        (Regex.first_alt_right missed).trans (Regex.first_literal_append [] _)
      exact Regex.first_seq unsigned read
  | some minus =>
      obtain rfl : minus = true := by simpa using sign
      exact Regex.first_seq (Regex.first_alt_left (Regex.first_literal_append ['-'] _)) read

include wordsVisible

theorem Row.isColumn (row : Row isWord) : ∀ column ∈ row.columns, IsColumn column := by
  have word {text : Text} (isText : text ≠ [] ∧ ∀ c ∈ text, isWord c = true) : IsColumn text :=
    ⟨isText.1, fun c member => wordsVisible c (isText.2 c member)⟩
  have metrics (metrics : Metrics) :
      IsColumn metrics.time.text ∧ IsColumn metrics.algbw.text ∧
        IsColumn metrics.busbw.text ∧ IsColumn metrics.wrong :=
    ⟨isColumn_numeral _, isColumn_numeral _, isColumn_numeral _, metrics.wrongColumn⟩
  have outOfPlace := metrics row.outOfPlace
  have inPlace := metrics row.inPlace
  simp only [columns, List.forall_mem_cons]
  exact ⟨isColumn_digits _, isColumn_digits _, word row.typeWord, word row.redopWord,
    isColumn_literal _, outOfPlace.1, outOfPlace.2.1, outOfPlace.2.2.1, outOfPlace.2.2.2,
    inPlace.1, inPlace.2.1, inPlace.2.2.1, inPlace.2.2.2, nofun⟩

theorem Row.reads (row : Row isWord) :
    List.Forall₂ Regex.Reads (columnPatterns isWord) row.columns := by
  have word {text : Text} (isText : text ≠ [] ∧ ∀ c ∈ text, isWord c = true) :
      (Regex.many1 isWord).Reads text :=
    Regex.reads_many1 wordsVisible isText.1 isText.2
  exact .cons (reads_digits row.size) (.cons (reads_digits row.count)
    (.cons (word row.typeWord) (.cons (word row.redopWord) (.cons (reads_signed row.rootSign)
    (.cons (reads_number _) (.cons (reads_number _) (.cons (reads_number _)
    (.cons (reads_visible row.outOfPlace.wrongColumn)
    (.cons (reads_number _) (.cons (reads_number _) (.cons (reads_number _)
    (.cons (reads_visible row.inPlace.wrongColumn) .nil))))))))))))

private theorem Row.first_text (row : Row isWord) :
    (dataPattern isWord).first row.text = some ⟨row.columns, row.trailing⟩ := by
  have trailing : ∀ c ∈ row.trailing.head?, isSpace c = true :=
    fun c first => (row.trailingBlank c (List.mem_of_mem_head? first)).1
  have spaces := Regex.first_many isSpace row.leading
    (joinColumns row.gap 0 row.columns ++ row.trailing)
    (fun c member => (row.leadingBlank c member).1)
    (Regex.head?_joinColumns row.gap 0 (List.cons_ne_nil _ _) (row.isColumn wordsVisible) _)
  have columns := Regex.first_columns row.gap (row.reads wordsVisible) (List.cons_ne_nil _ _)
    (row.isColumn wordsVisible) 0 trailing
  exact Regex.first_seq spaces columns

/-- The header has as many words as a row, the first of them a `#` that a row cannot hold
before all of the others. -/
theorem Row.containsText_header (row : Row isWord) : containsText header row.text = false := by
  have starts : header = '#' :: header.tail := by
    rw [header, lit_ofList, lit_ofList]
    rfl
  rw [containsText, decide_eq_false_iff_not, starts]
  intro inside
  have words : wordCount false header.tail = 13 := by decide
  have more := wordCount_lt_of_infix (by decide) inside
  rw [Row.text, wordCount_blank (fun c member => (row.leadingBlank c member).1),
    wordCount_joinColumns row.gap (row.isColumn wordsVisible) 0
      (fun c member => (row.trailingBlank c member).1), words] at more
  exact Nat.lt_irrefl 13 more

end Columns

/-! A row is neither a comment nor the end of the table. -/

namespace Row

variable {isWord : Char → Bool} (row : Row isWord)

theorem stripText_text : ∃ c others, stripText row.text = c :: others ∧ c ≠ '#' := by
  obtain ⟨c, digits, chars⟩ := List.exists_cons_of_ne_nil row.size.nonempty
  have digit : isDecimal c = true := row.size.decimal c (chars ▸ List.mem_cons_self)
  have begins : ∃ tail, row.text = row.leading ++ c :: tail := by
    refine ⟨digits ++ ((row.gap 0).chars ++ joinColumns row.gap 1 row.columns.tail) ++
      row.trailing, ?_⟩
    rw [text, columns, chars]
    rfl
  obtain ⟨tail, begins⟩ := begins
  obtain ⟨others, stripped⟩ := strip_cons (isDecimal_plain digit).1 tail
  refine ⟨c, others, ?_, ?_⟩
  · rw [begins, stripText, dropWhile_append_of_all fun c member => (row.leadingBlank c member).1]
    exact stripped
  · rintro rfl
    exact absurd digit (by decide)

theorem isPrefixOf_stripText (marker : Text) :
    ('#' :: marker).isPrefixOf (stripText row.text) = false := by
  obtain ⟨c, others, stripped, notHash⟩ := row.stripText_text
  simp [stripped, List.isPrefixOf, notHash.symm]

private theorem isStop_text : isStop row.text = false := by
  have outOfBounds := row.isPrefixOf_stripText (lit " Out of bounds")
  have average := row.isPrefixOf_stripText (lit " Avg bus bandwidth")
  rw [isStop, Bool.or_eq_false_iff]
  exact ⟨outOfBounds, average⟩

private theorem isComment_text : isComment row.text = false := row.isPrefixOf_stripText []

private theorem newline_not_mem_text (wordsVisible : ∀ c, isWord c = true → isSpace c = false) :
    '\n' ∉ row.text := by
  have columns := newline_not_mem_joinColumns row.inLine (row.isColumn wordsVisible) 0
  rw [text, List.mem_append, List.mem_append, not_or, not_or]
  exact ⟨fun member => (row.leadingBlank _ member).2 rfl, columns,
    fun member => (row.trailingBlank _ member).2 rfl⟩

end Row

/-! Conversions. -/

theorem intOf_succeeds_iff (text : Text) :
    (∃ value, intOf text = .ok value) ↔ (parseInteger? text).isSome := by
  unfold intOf
  cases parseInteger? text with
  | none => simp
  | some value => simp

private theorem floatOf_succeeds_iff (text : Text) :
    (∃ value, floatOf text = .ok value) ↔ (parseFloat? text).isSome := by
  unfold floatOf
  cases parseFloat? text with
  | none => simp
  | some value => simp

theorem length_le_of_intOf (literal : IntegerLiteral) {value : Int}
    (converted : intOf literal.text = .ok value) :
    literal.digits.chars.length ≤ intMaxStrDigits := by
  have read := (intOf_succeeds_iff literal.text).mp ⟨value, converted⟩
  rw [literal.parseInteger?_text] at read
  by_contra long
  rw [if_neg long] at read
  exact nomatch read

namespace Row

variable {isWord : Char → Bool} {row : Row isWord}

theorem readRow_columns (fits : row.Fits) :
    readRow row.columns = .ok (row.entry row.outOfPlace, row.entry row.inPlace) := by
  obtain ⟨size, count, root⟩ := fits
  have sizeRead := IntegerLiteral.parseInteger?_text ⟨none, row.size⟩
  have countRead := IntegerLiteral.parseInteger?_text ⟨none, row.count⟩
  have rootRead := row.root.parseInteger?_text
  rw [if_pos size] at sizeRead
  rw [if_pos count] at countRead
  rw [if_pos root] at rootRead
  simp only [IntegerLiteral.text, IntegerLiteral.value] at sizeRead countRead
  simp only [readRow, groupAt, columns, List.getD_cons_zero, List.getD_cons_succ, intOf, floatOf,
    sizeRead, countRead, rootRead, Numeral.parseFloat?_text]
  rfl

private theorem fits_of_readRow {entries : Entry × Entry}
    (read : readRow row.columns = .ok entries) :
    row.Fits := by
  obtain ⟨size, sizeRead, read⟩ := exists_of_bind_eq_ok read
  obtain ⟨count, countRead, read⟩ := exists_of_bind_eq_ok read
  obtain ⟨root, rootRead, read⟩ := exists_of_bind_eq_ok read
  exact ⟨length_le_of_intOf ⟨none, row.size⟩ sizeRead,
    length_le_of_intOf ⟨none, row.count⟩ countRead, length_le_of_intOf row.root rootRead⟩

end Row

/-! The scan of a log. -/

section Scan

variable {isWord : Char → Bool}

private theorem scanLines_preamble {preamble : List Text}
    (noHeader : ∀ line ∈ preamble, '\n' ∉ line ∧ containsText header line = false)
    (rest : List Text) (data : PerformanceData) :
    scanLines isWord (preamble ++ rest) false data = scanLines isWord rest false data := by
  induction preamble with
  | nil => rfl
  | cons line others induction =>
      obtain ⟨here, later⟩ := List.forall_mem_cons.mp noHeader
      rw [List.cons_append, scanLines, here.2, ← induction later]
      rfl

/-- Lines that are neither rows nor the end of the table change nothing. -/
theorem scanLines_skipped {line : Text} (skipped : stripText line = [] ∨ isComment line = true)
    (goesOn : isStop line = true → containsText header line = true) (rest : List Text)
    (data : PerformanceData) :
    scanLines isWord (line :: rest) true data = scanLines isWord rest true data := by
  rw [scanLines]
  cases found : containsText header line with
  | true => rfl
  | false =>
      have notStop : isStop line = false := by
        cases stop : isStop line with
        | false => rfl
        | true => exact nomatch found.symm.trans (goesOn stop)
      have notRow : ¬ (stripText line ≠ [] ∧ (!isComment line) = true) := by
        rintro ⟨filled, notComment⟩
        rcases skipped with blank | comment
        · exact filled blank
        · simp [comment] at notComment
      rw [notStop, if_neg notRow]
      rfl

private theorem scanLines_summary {summary : List Text}
    (ends : ∀ line ∈ summary.head?, isStop line = true ∧ containsText header line = false)
    (data : PerformanceData) : scanLines isWord summary true data = .ok data := by
  cases summary with
  | nil => rfl
  | cons line rest =>
      obtain ⟨stop, noHeader⟩ := ends line rfl
      rw [scanLines, stop, noHeader]
      rfl

variable (wordsVisible : ∀ c, isWord c = true → isSpace c = false)

include wordsVisible

private theorem scanLines_row (row : Row isWord) (rest : List Text) (data : PerformanceData) :
    scanLines isWord (row.text :: rest) true data =
      match readRow row.columns with
      | .error error => .error error
      | .ok (outOfPlace, inPlace) => scanLines isWord rest true
          ⟨data.outOfPlace ++ [outOfPlace], data.inPlace ++ [inPlace]⟩ := by
  have filled : stripText row.text ≠ [] := by
    obtain ⟨c, others, stripped, notHash⟩ := row.stripText_text
    simp [stripped]
  rw [scanLines, row.containsText_header wordsVisible, row.isStop_text,
    if_pos (And.intro filled (by rw [row.isComment_text]; rfl)), row.first_text wordsVisible]
  rfl

/-- The scan behind the header collects the rows of the table, if each can be read. -/
theorem scanLines_table (table : List (Line isWord)) (rest : List Text) (data : PerformanceData)
    (result : PerformanceData) :
    scanLines isWord (table.map Line.text ++ rest) true data = .ok result ↔
      (∀ row ∈ table.filterMap Line.row?, row.Fits) ∧
        scanLines isWord rest true
          ⟨data.outOfPlace ++ (performanceData (table.filterMap Line.row?)).outOfPlace,
            data.inPlace ++ (performanceData (table.filterMap Line.row?)).inPlace⟩ =
          .ok result := by
  induction table generalizing data with
  | nil => simp [performanceData]
  | cons line others induction =>
      cases line with
      | comment line oneLine starts goesOn =>
          rw [List.map_cons, List.cons_append, Line.text,
            scanLines_skipped (.inr starts) goesOn]
          exact induction data
      | blank line oneLine empty =>
          have notStop : isStop line = true → containsText header line = true := by
            intro stop
            rw [isStop, empty] at stop
            exact absurd stop (by decide)
          rw [List.map_cons, List.cons_append, Line.text, scanLines_skipped (.inl empty) notStop]
          exact induction data
      | data row =>
          rw [List.map_cons, List.cons_append, Line.text, scanLines_row wordsVisible,
            List.filterMap_cons_some (show Line.row? (.data row) = some row from rfl),
            List.forall_mem_cons]
          cases read : readRow row.columns with
          | error error =>
              have notFits : ¬ row.Fits := fun fits =>
                nomatch read.symm.trans (Row.readRow_columns fits)
              simp [notFits]
          | ok entries =>
              have fits := Row.fits_of_readRow read
              obtain rfl := Except.ok.inj (read.symm.trans (Row.readRow_columns fits))
              simp only [induction, fits, true_and, performanceData, List.map_cons,
                List.append_assoc, List.singleton_append]

/-- What the scan of a whole log returns. -/
theorem scanLines_content (log : Log isWord) (result : PerformanceData) :
    scanLines isWord (log.content.splitOn '\n') false ⟨[], []⟩ = .ok result ↔
      (∀ row ∈ log.rows, row.Fits) ∧ performanceData log.rows = result := by
  have table : ∀ line ∈ log.table.map Line.text, '\n' ∉ line := by
    intro text member
    obtain ⟨line, listed, rfl⟩ := List.mem_map.mp member
    cases line with
    | comment line oneLine starts goesOn => exact oneLine
    | blank line oneLine empty => exact oneLine
    | data row => exact row.newline_not_mem_text wordsVisible
  have oneLine : ∀ line ∈ log.lines, '\n' ∉ line := by
    simp only [Log.lines, List.forall_mem_append, List.forall_mem_cons]
    exact ⟨fun line member => (log.preambleLines line member).1, log.isHeader.1, table,
      log.summaryLines⟩
  have split : log.content.splitOn '\n' = log.lines :=
    List.splitOn_intercalate '\n' oneLine (by simp [Log.lines])
  rw [split, Log.lines, scanLines_preamble log.preambleLines, scanLines, if_pos log.isHeader.2,
    scanLines_table wordsVisible, scanLines_summary log.ends, Except.ok.injEq]
  rfl

end Scan

/-! The whole parser. -/

/-- `int` and `float` convert what the patterns around the table capture. -/
structure Readable (isWord : Char → Bool) (content : Text) : Prop where
  testInfo : ∀ found ∈ configPattern.search content, ∀ i < testInfoKeys.length,
    (parseInteger? (groupAt found.groups i)).isSome
  devices : ∀ groups ∈ devicePattern.findall (content.length + 1) content, ∀ i ∈ [0, 1, 2, 4],
    (parseInteger? (groupAt groups i)).isSome
  average : ∀ found ∈ averagePattern.search content,
    (parseFloat? (groupAt found.groups 0)).isSome
  outOfBounds : ∀ found ∈ (outOfBoundsPattern isWord).search content,
    (parseInteger? (groupAt found.groups 0)).isSome

theorem parse_eq_ok_iff (isWord : Char → Bool) (content : Text) (result : NcclResult) :
    parseNcclTestResults isWord (.ok content) = .ok result ↔
      readTestInfo content = .ok result.testInfo ∧ readDevices content = .ok result.devices ∧
        scanLines isWord (content.splitOn '\n') false ⟨[], []⟩ = .ok result.performanceData ∧
        readAverage content = .ok result.avgBusBandwidthGbps ∧
        readOutOfBounds isWord content = .ok result.outOfBounds := by
  constructor
  · intro parsed
    obtain ⟨text, loaded, parsed⟩ := exists_of_bind_eq_ok parsed
    obtain rfl := Except.ok.inj loaded
    obtain ⟨testInfo, infoRead, parsed⟩ := exists_of_bind_eq_ok parsed
    obtain ⟨devices, devicesRead, parsed⟩ := exists_of_bind_eq_ok parsed
    obtain ⟨data, scanned, parsed⟩ := exists_of_bind_eq_ok parsed
    obtain ⟨average, averageRead, parsed⟩ := exists_of_bind_eq_ok parsed
    obtain ⟨outOfBounds, outOfBoundsRead, parsed⟩ := exists_of_bind_eq_ok parsed
    obtain rfl := Except.ok.inj parsed
    exact ⟨infoRead, devicesRead, scanned, averageRead, outOfBoundsRead⟩
  · rintro ⟨infoRead, devicesRead, scanned, averageRead, outOfBoundsRead⟩
    simp only [parseNcclTestResults, bind, Except.bind, infoRead, devicesRead, scanned,
      averageRead, outOfBoundsRead]
    rfl

/-- An optional part of the log that is converted where it is found. -/
theorem optional_succeeds_iff {α β : Type} (convert : Text → Except Error α)
    (value : Match → α → β) (found? : Option Match) :
    (∃ result, (match found? with
      | none => .ok none
      | some found => do return some (value found (← convert (groupAt found.groups 0))) :
        Except Error (Option β)) = .ok result) ↔
      ∀ found ∈ found?, ∃ converted, convert (groupAt found.groups 0) = .ok converted := by
  cases found? with
  | none => simp
  | some found =>
      constructor
      · rintro ⟨result, read⟩ other same
        obtain rfl : found = other := Option.some.inj same
        obtain ⟨converted, conversion, collected⟩ := exists_of_bind_eq_ok read
        exact ⟨converted, conversion⟩
      · intro converts
        obtain ⟨converted, conversion⟩ := converts found rfl
        simp only [conversion]
        exact ⟨_, rfl⟩

theorem readAverage_succeeds_iff (content : Text) :
    (∃ average, readAverage content = .ok average) ↔
      ∀ found ∈ averagePattern.search content, (parseFloat? (groupAt found.groups 0)).isSome := by
  simp only [← floatOf_succeeds_iff]
  exact optional_succeeds_iff floatOf (fun _ value => value) (averagePattern.search content)

theorem readOutOfBounds_succeeds_iff (isWord : Char → Bool) (content : Text) :
    (∃ outOfBounds, readOutOfBounds isWord content = .ok outOfBounds) ↔
      ∀ found ∈ (outOfBoundsPattern isWord).search content,
        (parseInteger? (groupAt found.groups 0)).isSome := by
  simp only [← intOf_succeeds_iff]
  exact optional_succeeds_iff intOf (fun found value => (value, groupAt found.groups 1))
    ((outOfBoundsPattern isWord).search content)

theorem readTestInfo_succeeds_iff (content : Text) :
    (∃ info, readTestInfo content = .ok info) ↔
      ∀ found ∈ configPattern.search content, ∀ i < testInfoKeys.length,
        (parseInteger? (groupAt found.groups i)).isSome := by
  unfold readTestInfo
  cases configPattern.search content with
  | none => simp
  | some found =>
      simp only [mapM_succeeds_iff, ← intOf_succeeds_iff]
      constructor
      · intro converts other same i bound
        obtain rfl : found = other := Option.some.inj same
        have listed : (testInfoKeys[i], i) ∈ testInfoKeys.zipIdx :=
          List.mk_mem_zipIdx_iff_getElem?.mpr (List.getElem?_eq_getElem bound)
        obtain ⟨result, read⟩ := converts _ listed
        obtain ⟨value, conversion, collected⟩ := exists_of_bind_eq_ok read
        exact ⟨value, conversion⟩
      · intro converts (key, i) listed
        obtain ⟨value, conversion⟩ := converts found rfl i
          (by simpa using List.snd_lt_of_mem_zipIdx listed)
        simp only [conversion]
        exact ⟨_, rfl⟩

theorem readDevices_succeeds_iff (content : Text) :
    (∃ devices, readDevices content = .ok devices) ↔
      ∀ groups ∈ devicePattern.findall (content.length + 1) content, ∀ i ∈ [0, 1, 2, 4],
        (parseInteger? (groupAt groups i)).isSome := by
  simp only [readDevices, mapM_succeeds_iff, ← intOf_succeeds_iff]
  apply forall₂_congr
  intro groups member
  constructor
  · rintro ⟨device, read⟩
    obtain ⟨rank, rankRead, read⟩ := exists_of_bind_eq_ok read
    obtain ⟨group, groupRead, read⟩ := exists_of_bind_eq_ok read
    obtain ⟨pid, pidRead, read⟩ := exists_of_bind_eq_ok read
    obtain ⟨deviceId, deviceRead, read⟩ := exists_of_bind_eq_ok read
    simp only [List.forall_mem_cons]
    exact ⟨⟨rank, rankRead⟩, ⟨group, groupRead⟩, ⟨pid, pidRead⟩, ⟨deviceId, deviceRead⟩, nofun⟩
  · simp only [List.forall_mem_cons]
    rintro ⟨⟨rank, rankRead⟩, ⟨group, groupRead⟩, ⟨pid, pidRead⟩, ⟨deviceId, deviceRead⟩, _⟩
    simp only [readDevice, rankRead, groupRead, pidRead, deviceRead]
    exact ⟨_, rfl⟩

private theorem parse_succeeds_iff (isWord : Char → Bool) (content : Text) :
    (∃ result, parseNcclTestResults isWord (.ok content) = .ok result) ↔
      Readable isWord content ∧
        ∃ data, scanLines isWord (content.splitOn '\n') false ⟨[], []⟩ = .ok data := by
  simp only [parse_eq_ok_iff]
  constructor
  · rintro ⟨result, infoRead, devicesRead, scanned, averageRead, outOfBoundsRead⟩
    exact ⟨⟨(readTestInfo_succeeds_iff content).mp ⟨_, infoRead⟩,
      (readDevices_succeeds_iff content).mp ⟨_, devicesRead⟩,
      (readAverage_succeeds_iff content).mp ⟨_, averageRead⟩,
      (readOutOfBounds_succeeds_iff isWord content).mp ⟨_, outOfBoundsRead⟩⟩, _, scanned⟩
  · rintro ⟨readable, data, scanned⟩
    obtain ⟨info, infoRead⟩ := (readTestInfo_succeeds_iff content).mpr readable.testInfo
    obtain ⟨devices, devicesRead⟩ := (readDevices_succeeds_iff content).mpr readable.devices
    obtain ⟨average, averageRead⟩ := (readAverage_succeeds_iff content).mpr readable.average
    obtain ⟨outOfBounds, outOfBoundsRead⟩ :=
      (readOutOfBounds_succeeds_iff isWord content).mpr readable.outOfBounds
    exact ⟨⟨info, devices, data, average, outOfBounds⟩, infoRead, devicesRead, scanned,
      averageRead, outOfBoundsRead⟩

/-- Every row of the table is kept, once and in order, unless something in the log cannot be
converted. -/
theorem parse_keeps_every_row {isWord : Char → Bool}
    (wordsVisible : ∀ c, isWord c = true → isSpace c = false) (log : Log isWord) :
    ((∃ result, parseNcclTestResults isWord (.ok log.content) = .ok result) ↔
      Readable isWord log.content ∧ ∀ row ∈ log.rows, row.Fits) ∧
    ∀ result, parseNcclTestResults isWord (.ok log.content) = .ok result →
      result.performanceData = performanceData log.rows ∧
      result.performanceData.outOfPlace.map Entry.shared =
        result.performanceData.inPlace.map Entry.shared := by
  have scan := scanLines_content wordsVisible log
  constructor
  · rw [parse_succeeds_iff]
    apply and_congr_right
    intro readable
    simp only [scan]
    exact ⟨fun ⟨data, fits, same⟩ => fits, fun fits => ⟨_, fits, rfl⟩⟩
  · intro result parsed
    have scanned := ((parse_eq_ok_iff isWord log.content result).mp parsed).2.2.1
    have same := ((scan result.performanceData).mp scanned).2
    refine ⟨same.symm, ?_⟩
    simp [← same, performanceData, Row.entry, Entry.shared]

/-! A log with two rows and a summary, and one whose row is lost. -/

def asciiWord (c : Char) : Bool :=
  ('A' ≤ c && c ≤ 'Z') || ('a' ≤ c && c ≤ 'z') || isAsciiDigit c || c = '_'

private theorem asciiWord_visible (c : Char) (word : asciiWord c = true) : isSpace c = false := by
  simp only [asciiWord, isAsciiDigit, Bool.or_eq_true, Bool.and_eq_true, decide_eq_true_eq,
    Char.le_def, UInt32.le_iff_toNat_le] at word
  rcases word with word | rfl
  · have ranges : (65 ≤ c.toNat ∧ c.toNat ≤ 90 ∨ 97 ≤ c.toNat ∧ c.toNat ≤ 122) ∨
        48 ≤ c.toNat ∧ c.toNat ≤ 57 := word
    simp only [isSpace, Bool.or_eq_false_iff, Bool.and_eq_false_iff, decide_eq_false_iff_not,
      beq_eq_false_iff_ne]
    omega
  · decide

def sampleMetrics : Metrics where
  time := ⟨['2', '0'], some ['3', '9'], by decide, List.all_eq_true.mp (by decide)⟩
  algbw := ⟨['0'], some ['0', '0'], by decide, List.all_eq_true.mp (by decide)⟩
  busbw := ⟨['0'], some ['0', '0'], by decide, List.all_eq_true.mp (by decide)⟩
  wrong := ['0']
  wrongColumn := ⟨by decide, List.forall_mem_singleton.mpr (by decide)⟩

def sampleRow : Row asciiWord where
  leading := []
  size := digitsOf ['8'] (by decide) (by decide)
  count := digitsOf ['2'] (by decide) (by decide)
  type := ['f', 'l', 'o', 'a', 't']
  redop := ['s', 'u', 'm']
  root := ⟨some true, digitsOf ['1'] (by decide) (by decide)⟩
  outOfPlace := sampleMetrics
  inPlace := sampleMetrics
  gap _ := ⟨[' '], by decide, List.forall_mem_singleton.mpr (by decide)⟩
  trailing := []
  typeWord := ⟨by decide, List.all_eq_true.mp (by decide)⟩
  redopWord := ⟨by decide, List.all_eq_true.mp (by decide)⟩
  rootSign := by decide
  leadingBlank := nofun
  trailingBlank := nofun
  inLine _ := by decide

def sampleLog (preamble : Text) (plain : '\n' ∉ preamble ∧ containsText header preamble = false) :
    Log asciiWord where
  preamble := [preamble]
  headerLine := header
  table := [.data sampleRow]
  summary := []
  preambleLines := List.forall_mem_singleton.mpr plain
  isHeader := ⟨by decide, by decide⟩
  summaryLines := nofun
  ends := nofun

def largerRow : Row asciiWord :=
  { sampleRow with
    size := digitsOf ['1', '6'] (by decide) (by decide)
    count := digitsOf ['4'] (by decide) (by decide)
    trailing := [' ']
    trailingBlank := List.forall_mem_singleton.mpr (by decide) }

def summarisedLog : Log asciiWord where
  preamble := [lit "# nccl-tests"]
  headerLine := header
  table := [.comment (lit "#  (B)  (elements)") (by decide) (by decide) (by decide),
    .data sampleRow, .blank [] (by decide) (by decide), .data largerRow]
  summary := [lit "# Out of bounds values : 0 OK", lit "# Avg bus bandwidth    : 12.5"]
  preambleLines := List.forall_mem_singleton.mpr ⟨by decide, by decide⟩
  isHeader := ⟨by decide, by decide⟩
  summaryLines := by decide
  ends line found := by
    obtain rfl := Option.some.inj found
    exact ⟨by decide, by decide⟩

private theorem summarisedLog_readable : Readable asciiWord summarisedLog.content := by
  have noTestInfo : configPattern.search summarisedLog.content = none := by decide +kernel
  have noDevice :
      devicePattern.findall (summarisedLog.content.length + 1) summarisedLog.content = [] := by
    decide +kernel
  have average : (averagePattern.search summarisedLog.content).map Match.groups =
      some [lit "12.5"] := by decide +kernel
  have outOfBounds : ((outOfBoundsPattern asciiWord).search summarisedLog.content).map
      Match.groups = some [lit "0", lit "OK"] := by decide +kernel
  constructor
  · simp [noTestInfo]
  · simp [noDevice]
  · intro found searched
    rw [show averagePattern.search summarisedLog.content = some found from searched] at average
    rw [Option.some.inj average]
    decide +kernel
  · intro found searched
    rw [show (outOfBoundsPattern asciiWord).search summarisedLog.content = some found from
      searched] at outOfBounds
    rw [Option.some.inj outOfBounds]
    decide +kernel

theorem sample_row_kept :
    ∃ result, parseNcclTestResults asciiWord (.ok summarisedLog.content) = .ok result ∧
      result.performanceData = performanceData [sampleRow, largerRow] := by
  have kept := parse_keeps_every_row asciiWord_visible summarisedLog
  have fits : ∀ row ∈ summarisedLog.rows, row.Fits :=
    List.forall_mem_cons.mpr ⟨⟨by decide, by decide, by decide⟩,
      List.forall_mem_singleton.mpr ⟨by decide, by decide, by decide⟩⟩
  obtain ⟨result, parsed⟩ := kept.1.mpr ⟨summarisedLog_readable, fits⟩
  exact ⟨result, parsed, (kept.2 result parsed).1⟩

def pointLog : Log asciiWord := sampleLog (lit "# Avg bus bandwidth : .") ⟨by decide, by decide⟩

/-- `[0-9.]+` captures a lone point, which is no number. -/
theorem row_lost_behind_point :
    pointLog.rows = [sampleRow] ∧
      ∀ result, parseNcclTestResults asciiWord (.ok pointLog.content) ≠ .ok result := by
  refine ⟨rfl, ?_⟩
  intro result parsed
  have found : (averagePattern.search pointLog.content).map Match.groups = some [['.']] := by
    decide +kernel
  obtain ⟨groups, captured, same⟩ := Option.map_eq_some_iff.mp found
  have averageRead := ((parse_eq_ok_iff asciiWord pointLog.content result).mp parsed).2.2.2.1
  have converts := (readAverage_succeeds_iff pointLog.content).mp ⟨_, averageRead⟩ groups captured
  rw [same] at converts
  exact absurd converts (by decide)

end Telescope.Gpu
