import Telescope.Text.Integer
import Telescope.Text.Language
import Telescope.Terraform.LogLines

namespace Telescope.Terraform

open Telescope

/-! Times in a log: what `timeToSeconds` makes of a written duration, and which
of the time tokens of a progress line the elapsed pattern captures. -/

section Conversion

def Duration.parts : Duration → List (Digits × Char)
  | .hoursMinutesSeconds h m s => [(h, 'h'), (m, 'm'), (s, 's')]
  | .hoursSeconds h s => [(h, 'h'), (s, 's')]
  | .minutesSeconds m s => [(m, 'm'), (s, 's')]
  | .seconds s => [(s, 's')]

def Duration.total : Duration → Nat
  | .hoursMinutesSeconds h m s =>
      3600 * digitsValue h.chars + 60 * digitsValue m.chars + digitsValue s.chars
  | .hoursSeconds h s => 3600 * digitsValue h.chars + digitsValue s.chars
  | .minutesSeconds m s => 60 * digitsValue m.chars + digitsValue s.chars
  | .seconds s => digitsValue s.chars

/-- No number is too long for the conversion to an integer. -/
def Duration.convertible (duration : Duration) : Bool :=
  duration.parts.all fun part => part.1.chars.length ≤ intMaxStrDigits

def Duration.measured (duration : Duration) : Nat :=
  if duration.convertible then duration.total else 0

def isUnit (c : Char) : Bool := c == 'h' || c == 'm' || c == 's'

def partsText (parts : List (Digits × Char)) : Text :=
  parts.flatMap fun part => part.1.chars ++ [part.2]

private theorem Duration.text_eq_partsText (duration : Duration) :
    duration.text = partsText duration.parts := by
  cases duration <;> simp [text, parts, partsText]

private theorem Duration.isUnit_of_mem_parts (duration : Duration) :
    ∀ part ∈ duration.parts, isUnit part.2 = true := by
  cases duration <;> simp [parts, isUnit]

private theorem isDecimal_eq_false_of_isUnit {c : Char} (unit : isUnit c = true) :
    isDecimal c = false := by
  simp only [isUnit, Bool.or_eq_true, beq_iff_eq] at unit
  rcases unit with (rfl | rfl) | rfl <;> decide

private theorem first_timePartPattern (digits : Digits) {unit : Char} (isUnit : isUnit unit = true)
    (rest : Text) :
    timePartPattern.first (digits.chars ++ unit :: rest) =
      some ⟨[digits.chars, [unit]], rest⟩ := by
  have stopped : ∀ c ∈ (unit :: rest).head?, isDecimal c = false := by
    intro c member
    rw [List.head?_cons, Option.mem_some] at member
    exact member ▸ isDecimal_eq_false_of_isUnit isUnit
  have number := Regex.first_group ⟨[], unit :: rest⟩
    (Regex.first_many1 isDecimal digits.chars (unit :: rest) digits.nonempty digits.decimal
      stopped)
  have letter : (Regex.char Terraform.isUnit).first ([unit] ++ rest) = some ⟨[], rest⟩ := by
    simp [Regex.first, Regex.candidates, isUnit]
  exact Regex.first_seq number (Regex.first_group ⟨[], rest⟩ letter)

private theorem findall_timePartPattern (parts : List (Digits × Char))
    (units : ∀ part ∈ parts, isUnit part.2 = true) (fuel : Nat)
    (enough : parts.length ≤ fuel) :
    timePartPattern.findall fuel (partsText parts) =
      parts.map fun part => [part.1.chars, [part.2]] := by
  induction parts generalizing fuel with
  | nil =>
      cases fuel with
      | zero => rfl
      | succ fuel => rfl
  | cons part others induction =>
      cases fuel with
      | zero => exact absurd enough (Nat.not_succ_le_zero _)
      | succ fuel =>
          have found := Regex.search_of_first timePartPattern _ _
            (first_timePartPattern part.1 (units part List.mem_cons_self) (partsText others))
          have later := induction (fun other member =>
            units other (List.mem_cons_of_mem _ member)) fuel (Nat.le_of_succ_le_succ enough)
          have text : partsText (part :: others) =
              part.1.chars ++ part.2 :: partsText others := by
            simp [partsText]
          rw [text, Regex.findall, found, List.map_cons]
          exact congrArg _ later

def partValue (part : Digits × Char) : Nat :=
  if part.2 = 'h' then digitsValue part.1.chars * 3600
  else if part.2 = 'm' then digitsValue part.1.chars * 60
  else if part.2 = 's' then digitsValue part.1.chars
  else 0

private theorem mapM_partSeconds (parts : List (Digits × Char)) :
    (parts.map fun part => [part.1.chars, [part.2]]).mapM partSeconds =
      if parts.all fun part => part.1.chars.length ≤ intMaxStrDigits then
        some (parts.map partValue)
      else none := by
  induction parts with
  | nil => rfl
  | cons part others induction =>
      rw [List.map_cons, List.mapM_cons, induction]
      by_cases short : part.1.chars.length ≤ intMaxStrDigits
      · by_cases allShort :
            (others.all fun part => part.1.chars.length ≤ intMaxStrDigits) = true
        · simp [partSeconds, parseInt?, partValue, short, allShort]
        · simp [partSeconds, parseInt?, short, allShort]
      · simp [partSeconds, parseInt?, short]

private theorem Duration.sum_parts (duration : Duration) :
    (duration.parts.map partValue).sum = duration.total := by
  cases duration <;> simp [parts, partValue, total, Nat.mul_comm, Nat.add_assoc]

private theorem Duration.length_parts_le (duration : Duration) :
    duration.parts.length ≤ duration.text.length + 1 := by
  cases duration <;> simp [parts, text] <;> omega

theorem timeToSeconds_text (duration : Duration) :
    timeToSeconds duration.text = duration.measured := by
  have found := findall_timePartPattern duration.parts duration.isUnit_of_mem_parts _
    duration.length_parts_le
  rw [← duration.text_eq_partsText] at found
  rw [timeToSeconds, found, mapM_partSeconds, Duration.measured, Duration.convertible]
  by_cases convertible :
      (duration.parts.all fun part => part.1.chars.length ≤ intMaxStrDigits) = true
  · simp only [convertible, if_true, duration.sum_parts]
  · simp only [convertible, Bool.false_eq_true, if_false]

end Conversion

/-! A progress line holds arbitrary identifier text before its time, so the
lazy repetition may stop at an earlier token only if that token is itself followed
by `elapsed]`. -/

def Action.progressVerb : Action → Text
  | .create => lit "creating"
  | .destroy => lit "destroying"

/-- `Still creating...` or `Still destroying...` -/
def Action.progressText (action : Action) : Text :=
  lit "Still " ++ (action.progressVerb ++ lit "...")

/-- `T elapsed]` -/
structure Report where
  time : Duration
  spaces : Text
  nonempty : spaces ≠ []
  blank : ∀ c ∈ spaces, isSpace c = true

def Report.text (report : Report) : Text :=
  report.time.text ++ (report.spaces ++ lit "elapsed]")

def reportPattern : Regex :=
  .seq durationPattern (.seq (.many1 isSpace) (.literal (lit "elapsed]")))

private theorem accepts_unitPattern {unit : Char} {body : Regex} {text : Text} :
    (unitPattern unit body).Accepts text ↔
      ∃ (digits : Digits) (rest : Text),
        text = digits.chars ++ unit :: rest ∧ body.Accepts rest := by
  simp only [unitPattern, Regex.accepts_seq, Regex.accepts_many1, Regex.accepts_literal]
  constructor
  · rintro ⟨chars, _, rfl, ⟨nonempty, decimal⟩, _, rest, rfl, rfl, accepted⟩
    exact ⟨⟨chars, nonempty, decimal⟩, rest, rfl, accepted⟩
  · rintro ⟨digits, rest, rfl, accepted⟩
    exact ⟨digits.chars, unit :: rest, rfl, ⟨digits.nonempty, digits.decimal⟩, [unit], rest,
      rfl, rfl, accepted⟩

private theorem accepts_durationPattern {text : Text} :
    durationPattern.Accepts text ↔ ∃ duration : Duration, text = duration.text := by
  simp only [durationPattern, Regex.accepts_group, Regex.accepts_alt, accepts_unitPattern,
    Regex.accepts_literal]
  constructor
  · rintro (⟨h, _, rfl, m, _, rfl, s, _, rfl, rfl⟩ | ⟨h, _, rfl, s, _, rfl, rfl⟩ |
      ⟨m, _, rfl, s, _, rfl, rfl⟩ | ⟨s, _, rfl, rfl⟩)
    · exact ⟨.hoursMinutesSeconds h m s, rfl⟩
    · exact ⟨.hoursSeconds h s, rfl⟩
    · exact ⟨.minutesSeconds m s, rfl⟩
    · exact ⟨.seconds s, rfl⟩
  · rintro ⟨duration, rfl⟩
    cases duration with
    | hoursMinutesSeconds h m s => exact .inl ⟨h, _, rfl, m, _, rfl, s, _, rfl, rfl⟩
    | hoursSeconds h s => exact .inr (.inl ⟨h, _, rfl, s, _, rfl, rfl⟩)
    | minutesSeconds m s => exact .inr (.inr (.inl ⟨m, _, rfl, s, _, rfl, rfl⟩))
    | seconds s => exact .inr (.inr (.inr ⟨s, _, rfl, rfl⟩))

theorem accepts_reportPattern {text : Text} :
    reportPattern.Accepts text ↔ ∃ report : Report, text = report.text := by
  simp only [reportPattern, Regex.accepts_seq, accepts_durationPattern, Regex.accepts_many1,
    Regex.accepts_literal]
  constructor
  · rintro ⟨_, _, rfl, ⟨time, rfl⟩, spaces, _, rfl, ⟨nonempty, blank⟩, rfl⟩
    exact ⟨⟨time, spaces, nonempty, blank⟩, rfl⟩
  · rintro ⟨report, rfl⟩
    exact ⟨_, _, rfl, ⟨report.time, rfl⟩, report.spaces, _, rfl,
      ⟨report.nonempty, report.blank⟩, rfl⟩

theorem elapsedPattern_eq :
    elapsedPattern = .seq (.literal (lit "Still "))
      (.seq (.alt (.literal (lit "creating")) (.literal (lit "destroying")))
        (.seq (.literal (lit "...")) (.seq (.manyLazy (· != '\n')) reportPattern))) := rfl

theorem accepts_elapsedPattern {text : Text} :
    elapsedPattern.Accepts text ↔
      ∃ (action : Action) (between : Text) (report : Report), '\n' ∉ between ∧
        text = action.progressText ++ (between ++ report.text) := by
  have oneLine : ∀ between : Text,
      (∀ c ∈ between, (c != '\n') = true) ↔ '\n' ∉ between := by
    intro between
    constructor
    · intro all member
      exact absurd (all '\n' member) (by decide)
    · intro absent c member
      simpa using fun same : c = '\n' => absent (same ▸ member)
  simp only [elapsedPattern_eq, Regex.accepts_seq, Regex.accepts_alt, Regex.accepts_literal,
    Regex.accepts_manyLazy, accepts_reportPattern, oneLine]
  constructor
  · rintro ⟨_, _, rfl, rfl, verb, _, rfl, isVerb, _, _, rfl, rfl, between, _, rfl, absent,
      report, rfl⟩
    rcases isVerb with rfl | rfl
    · exact ⟨.create, between, report, absent, rfl⟩
    · exact ⟨.destroy, between, report, absent, rfl⟩
  · rintro ⟨action, between, report, absent, rfl⟩
    have isVerb : action.progressVerb = lit "creating" ∨
        action.progressVerb = lit "destroying" := by
      cases action with
      | create => exact .inl rfl
      | destroy => exact .inr rfl
    rw [Action.progressText, List.append_assoc, List.append_assoc]
    exact ⟨_, _, rfl, rfl, _, _, rfl, isVerb, _, _, rfl, rfl, between, _, rfl, absent,
      report, rfl⟩

private theorem accepts_startPattern {text : Text} (accepted : startPattern.Accepts text) :
    ∃ (action : Action) (path : Text), text = path ++ ':' :: ' ' :: action.startVerb := by
  simp only [startPattern, Regex.accepts_seq, Regex.accepts_alt, Regex.accepts_literal]
    at accepted
  obtain ⟨path, _, rfl, -, _, verb, rfl, rfl, isVerb⟩ := accepted
  rcases isVerb with rfl | rfl
  · exact ⟨.create, path, rfl⟩
  · exact ⟨.destroy, path, rfl⟩

/-! No text that reports an elapsed time can start before the whole time of a report
and end inside it. -/

/-- The characters that may stand before a digit inside a duration. -/
def isTimeChar (c : Char) : Bool := isDecimal c || c == 'h' || c == 'm'

theorem Duration.text_eq_append (duration : Duration) :
    ∃ body, duration.text = body ++ ['s'] ∧ ∀ c ∈ body, isTimeChar c = true := by
  have digit (digits : Digits) : ∀ c ∈ digits.chars, isTimeChar c = true := by
    intro c member
    simp [isTimeChar, digits.decimal c member]
  have part (digits : Digits) (unit : Char) (isUnit : isTimeChar unit = true) (rest : Text)
      (others : ∀ c ∈ rest, isTimeChar c = true) :
      ∀ c ∈ digits.chars ++ unit :: rest, isTimeChar c = true :=
    List.forall_mem_append.mpr ⟨digit digits, List.forall_mem_cons.mpr ⟨isUnit, others⟩⟩
  cases duration with
  | hoursMinutesSeconds h m s =>
      exact ⟨h.chars ++ 'h' :: (m.chars ++ 'm' :: s.chars), by simp [text],
        part h 'h' (by decide) _ (part m 'm' (by decide) _ (digit s))⟩
  | hoursSeconds h s =>
      exact ⟨h.chars ++ 'h' :: s.chars, by simp [text], part h 'h' (by decide) _ (digit s)⟩
  | minutesSeconds m s =>
      exact ⟨m.chars ++ 'm' :: s.chars, by simp [text], part m 'm' (by decide) _ (digit s)⟩
  | seconds s => exact ⟨s.chars, rfl, digit s⟩

theorem Duration.colonFree (duration : Duration) : ':' ∉ duration.text := by
  obtain ⟨body, text, timeChars⟩ := duration.text_eq_append
  rw [text, List.mem_append, List.mem_singleton]
  rintro (member | same)
  · exact absurd (timeChars ':' member) (by decide)
  · exact absurd same (by decide)

/-- A completion line cannot announce a start before the text after its time. -/
theorem search_startPattern_completionText (address : Address) (action : Action)
    (duration : Duration) {tail : Text} (colonFree : ':' ∉ tail) :
    startPattern.search (completionText address action duration tail) = none := by
  cases searched : startPattern.search (completionText address action duration tail) with
  | none => rfl
  | some found =>
      exfalso
      obtain ⟨part, ⟨before, after, inside⟩, accepted⟩ :=
        Regex.exists_accepts_of_search searched
      obtain ⟨verb, path, rfl⟩ := accepts_startPattern accepted
      have onlyColon : ':' ∉ ' ' :: (action.completionNoun ++
          (lit " complete after " ++ (duration.text ++ tail))) := by
        cases action <;> simp [Action.completionNoun, lit, duration.colonFree, colonFree]
      have pathFree : ':' ∉ address.text := by
        simp [Address.text, lit, address.colonFree]
      have aligned : address.text ++ ':' :: (' ' :: (action.completionNoun ++
            (lit " complete after " ++ (duration.text ++ tail)))) =
          (before ++ path) ++ ':' :: (' ' :: (verb.startVerb ++ after)) := by
        simpa [completionText, lit] using inside.symm
      rw [List.append_cons_inj_of_notMem pathFree onlyColon] at aligned
      have nouns := aligned.2.2
      cases action <;> cases verb <;>
        simp [Action.completionNoun, Action.startVerb, lit] at nouns

theorem Duration.text_eq_cons (duration : Duration) :
    ∃ head tail, duration.text = head :: tail ∧ isDecimal head = true := by
  have start (digits : Digits) (rest : Text) :
      ∃ head tail, digits.chars ++ rest = head :: tail ∧ isDecimal head = true := by
    obtain ⟨head, tail, chars⟩ := List.exists_cons_of_ne_nil digits.nonempty
    exact ⟨head, tail ++ rest, by rw [chars, List.cons_append],
      digits.decimal head (chars ▸ List.mem_cons_self)⟩
  cases duration with
  | hoursMinutesSeconds h m s => exact start h _
  | hoursSeconds h s => exact start h _
  | minutesSeconds m s => exact start m _
  | seconds s => exact start s _

theorem Report.isDecimal_of_text_eq_cons {report : Report} {tail rest : Text} {head : Char}
    (split : report.text ++ tail = head :: rest) : isDecimal head = true := by
  obtain ⟨digit, digits, time, decimal⟩ := report.time.text_eq_cons
  rw [Report.text, time] at split
  obtain ⟨rfl, -⟩ := List.cons.inj split
  exact decimal

/-- A digit of a report belongs to its time. -/
theorem Report.body_of_digit {report : Report} {body before more : Text} {c : Char}
    (time : report.time.text = body ++ ['s']) (split : report.text = before ++ c :: more)
    (decimal : isDecimal c = true) :
    ∃ after, body = before ++ after ∧
      c :: more = after ++ 's' :: (report.spaces ++ lit "elapsed]") := by
  have marker : (lit "elapsed]").all (fun c => !isDecimal c) = true := by decide
  have noDecimal : c ∉ 's' :: (report.spaces ++ lit "elapsed]") := by
    intro member
    rcases List.mem_cons.mp member with rfl | member
    · exact absurd decimal (by decide)
    · rcases List.mem_append.mp member with inSpaces | inMarker
      · have space := report.blank c inSpaces
        rw [(isDecimal_plain decimal).1] at space
        exact Bool.noConfusion space
      · have rejected := List.all_eq_true.mp marker c inMarker
        simp [decimal] at rejected
  rw [Report.text, time, List.append_assoc, List.singleton_append] at split
  rcases List.append_eq_append_iff.mp split with ⟨after, -, rest⟩ | ⟨after, equal, rest⟩
  · exact absurd (rest ▸ List.mem_append_right after List.mem_cons_self) noDecimal
  · exact ⟨after, equal, rest⟩

/-- The time is not the end of a longer one that starts in the text before it. -/
def Whole (before : Text) (time : Duration) : Prop :=
  ∀ start, start ≠ [] → start <:+ before → ∀ longer : Duration, longer.text ≠ start ++ time.text

theorem Whole.suffix {before after : Text} {time : Duration} (whole : Whole before time)
    (isSuffix : after <:+ before) : Whole after time :=
  fun start nonempty inAfter => whole start nonempty (inAfter.trans isSuffix)

/-- After a space, a bracket or any other character that no time continues with, a
time is whole. -/
theorem whole_of_separator (before : Text) {separator : Char} (time : Duration)
    (notTime : isTimeChar separator = false) : Whole (before ++ [separator]) time := by
  intro start nonempty isSuffix longer equal
  obtain ⟨body, text, timeChars⟩ := longer.text_eq_append
  obtain ⟨timeBody, timeText, -⟩ := time.text_eq_append
  obtain ⟨more, rfl⟩ : ∃ more, start = more ++ [separator] := by
    rcases List.suffix_concat_iff.mp isSuffix with empty | ⟨more, equal, -⟩
    · exact absurd empty nonempty
    · exact ⟨more, equal⟩
  rw [text, timeText, ← List.append_assoc] at equal
  have bodies := (List.append_inj' equal rfl).1
  have member : separator ∈ body := by simp [bodies]
  rw [timeChars separator member] at notTime
  exact Bool.noConfusion notTime

private theorem Report.text_prefix_of_whole {earlier report : Report} {before rest tail : Text}
    (nonempty : before ≠ []) (whole : Whole before report.time)
    (split : earlier.text ++ rest = before ++ (report.text ++ tail)) :
    ∃ more, before = earlier.text ++ more := by
  rcases List.append_eq_append_iff.mp split with ⟨more, equal, -⟩ | ⟨crossing, equal, crossed⟩
  · exact ⟨more, equal⟩
  cases crossing with
  | nil => exact ⟨[], by simpa using equal.symm⟩
  | cons head others =>
      -- The earlier report goes on with the first digit of the later one, and both
      -- times end with the first letter s after it.
      obtain ⟨body, time, timeChars⟩ := earlier.time.text_eq_append
      obtain ⟨laterBody, laterTime, laterChars⟩ := report.time.text_eq_append
      obtain ⟨after, rfl, remaining⟩ :=
        Report.body_of_digit time equal (Report.isDecimal_of_text_eq_cons crossed)
      have inLater : 's' ∉ laterBody :=
        fun member => absurd (laterChars 's' member) (by decide)
      have inAfter : 's' ∉ after :=
        fun member => absurd (timeChars 's' (List.mem_append_right _ member)) (by decide)
      rw [Report.text, laterTime, remaining] at crossed
      simp only [List.append_assoc, List.cons_append, List.nil_append] at crossed
      have same := eq_of_append_cons_eq inLater inAfter crossed
      have longer : earlier.time.text = before ++ report.time.text := by
        rw [time, laterTime, same, List.append_assoc]
      exact absurd longer (whole before nonempty List.suffix_rfl earlier.time)

private theorem first_reportPattern (report : Report) (tail : Text) :
    reportPattern.first (report.text ++ tail) = some ⟨[report.time.text], tail⟩ := by
  have stopped : ∀ c ∈ (lit "elapsed]" ++ tail).head?, isSpace c = false := by
    intro c member
    obtain rfl : 'e' = c := by simpa [lit] using member
    decide
  rw [Report.text, List.append_assoc, List.append_assoc]
  exact Regex.first_seq (first_durationPattern report.time _)
    (Regex.first_seq
      (Regex.first_many1 isSpace report.spaces _ report.nonempty report.blank stopped)
      (Regex.first_literal_append (lit "elapsed]") tail))

private theorem first_progressVerb (action : Action) (tail : Text) :
    (Regex.alt (.literal (lit "creating")) (.literal (lit "destroying"))).first
      (action.progressVerb ++ tail) = some ⟨[], tail⟩ := by
  cases action with
  | create => exact Regex.first_alt_left (Regex.first_literal_append _ _)
  | destroy => exact Regex.first_alt_literal_right 'c' 'd' (by decide) _ _ tail

/-- At a progress phrase the pattern captures the whole time of the first report,
however many digits and time tokens stand before it. -/
theorem first_elapsedPattern (action : Action) (between : Text) (report : Report)
    (tail : Text) (oneLine : '\n' ∉ between) (whole : Whole between report.time)
    (quiet : elapsedPattern.search (action.progressText ++ between) = none) :
    elapsedPattern.first (action.progressText ++ (between ++ (report.text ++ tail))) =
      some ⟨[report.time.text], tail⟩ := by
  have skipped : (Regex.seq (.manyLazy (· != '\n')) reportPattern).first
      (between ++ (report.text ++ tail)) = some ⟨[report.time.text], tail⟩ := by
    refine Regex.first_manyLazy_seq ?_ ?_ (first_reportPattern report tail)
    · intro c member
      simpa using fun same : c = '\n' => oneLine (same ▸ member)
    · intro after nonempty isSuffix
      rw [List.eq_nil_iff_forall_not_mem]
      intro found member
      obtain ⟨consumed, split, accepted⟩ := Regex.accepts_of_mem_candidates member
      obtain ⟨earlier, rfl⟩ := accepts_reportPattern.mp accepted
      obtain ⟨start, rfl⟩ := isSuffix
      obtain ⟨more, rfl⟩ := Report.text_prefix_of_whole nonempty
        (whole.suffix (List.suffix_append start after)) split.symm
      have absent : '\n' ∉ start :=
        fun member => oneLine (List.mem_append_left _ member)
      refine Regex.not_accepts_of_search_eq_none quiet ⟨[], more, ?_⟩
        (accepts_elapsedPattern.mpr ⟨action, start, earlier, absent, rfl⟩)
      simp
  rw [Action.progressText, List.append_assoc, List.append_assoc, elapsedPattern_eq]
  exact Regex.first_seq (Regex.first_literal_append (lit "Still ") _)
    (Regex.first_seq (first_progressVerb action _)
      (Regex.first_seq (Regex.first_literal_append (lit "...") _) skipped))

private theorem Action.isDecimal_eq_false_of_mem_progressText (action : Action) :
    ∀ c ∈ action.progressText, isDecimal c = false := by
  have plain : action.progressText.all (fun c => !isDecimal c) = true := by
    cases action <;> decide
  intro c member
  simpa using List.all_eq_true.mp plain c member

/-- Where no progress phrase starts there is no match, since a phrase holds no digit
and cannot reach into the time that follows. -/
theorem candidates_elapsedPattern_eq_nil {before : Text} (report : Report) (tail : Text)
    (absent : ∀ action : Action, ¬ action.progressText <+: before) :
    elapsedPattern.candidates (before ++ (report.text ++ tail)) = [] := by
  rw [List.eq_nil_iff_forall_not_mem]
  intro found member
  obtain ⟨consumed, split, accepted⟩ := Regex.accepts_of_mem_candidates member
  obtain ⟨action, between, earlier, -, rfl⟩ := accepts_elapsedPattern.mp accepted
  rw [List.append_assoc] at split
  rcases List.append_eq_append_iff.mp split with ⟨crossing, equal, crossed⟩ | ⟨more, equal, -⟩
  · cases crossing with
    | nil => exact absent action (by simp [equal])
    | cons head others =>
        have plain := action.isDecimal_eq_false_of_mem_progressText head (by simp [equal])
        rw [Report.isDecimal_of_text_eq_cons crossed] at plain
        exact Bool.noConfusion plain
  · exact absent action ⟨more, equal.symm⟩

theorem search_elapsedPattern (before : Text) (report : Report) (tail : Text)
    (announced : ∃ action : Action, action.progressText <:+: before)
    (oneLine : '\n' ∉ before) (whole : Whole before report.time)
    (quiet : elapsedPattern.search before = none) :
    elapsedPattern.search (before ++ (report.text ++ tail)) =
      some ⟨[report.time.text], tail⟩ := by
  induction before with
  | nil =>
      obtain ⟨action, inside⟩ := announced
      cases action <;> exact absurd (List.infix_nil.mp inside) (by decide)
  | cons head others induction =>
      by_cases here : ∃ action : Action, action.progressText <+: head :: others
      · obtain ⟨action, between, equal⟩ := here
        rw [← equal] at oneLine whole quiet ⊢
        rw [List.append_assoc]
        apply Regex.search_of_first
        exact first_elapsedPattern action between report tail
          (fun member => oneLine (List.mem_append_right _ member))
          (whole.suffix (List.suffix_append _ between)) quiet
      · have missed := candidates_elapsedPattern_eq_nil report tail (not_exists.mp here)
        rw [List.cons_append] at missed ⊢
        rw [Regex.search_cons_of_missed missed]
        obtain ⟨action, inside⟩ := announced
        have later : action.progressText <:+: others :=
          (List.infix_cons_iff.mp inside).resolve_left fun starts => here ⟨action, starts⟩
        exact induction ⟨action, later⟩ (fun member => oneLine (List.mem_cons_of_mem _ member))
          (whole.suffix (List.suffix_cons head others))
          (Regex.search_eq_none_of_cons quiet)

end Telescope.Terraform
