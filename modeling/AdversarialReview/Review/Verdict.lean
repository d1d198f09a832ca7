import AdversarialReview.Library.JsPattern
import AdversarialReview.Library.JsNormal

/-! The findings of a review text and its verdict, which fails closed on what blocks. -/

namespace AdversarialReview.Review

variable [JsText]

abbrev Line := List Char

def trim (line : Line) : Line := (line.dropWhile jsSpace).rdropWhile jsSpace

def blank (char : Char) : Bool := char = ' ' || char = '\t'

/-- The marker at the start of a line: its character, how often it stands there, what follows. -/
def fenceMarker (line : Line) : Option (Char × Nat × Line) :=
  match line.dropWhile blank with
  | char :: rest =>
    let run := 1 + (rest.takeWhile (· = char)).length
    if (char = '\x60' || char = '~') && 3 ≤ run then
      some (char, run, rest.dropWhile (· = char))
    else none
  | [] => none

def closesFence (line : Line) (opened : Char × Nat) : Bool :=
  (fenceMarker line).any fun (char, run, rest) =>
    char = opened.1 && opened.2 ≤ run && (trim rest).isEmpty

def maskLine (line : Line) : Line := line.map fun char => if char = '\r' then char else ' '

/-- The lines of a text, those of fenced code without their characters. -/
def maskReviewFences : Option (Char × Nat) → List Line → List Line
  | _, [] => []
  | some fence, line :: rest =>
    maskLine line :: maskReviewFences (if closesFence line fence then none else some fence) rest
  | none, line :: rest =>
    match fenceMarker line with
    | some (char, run, _) => maskLine line :: maskReviewFences (some (char, run)) rest
    | none => line :: maskReviewFences none rest

section

open JsPattern

def valueAfter (pattern : JsPattern) (line : Line) : Option Line :=
  ((leaves pattern line).find? fun rest => rest.all inLine).map trim

def fieldNames : List String :=
  ["Category", "File", "Lines", "Problem", "Why it matters", "Recommended fix"]

def boldName (name : String) : JsPattern :=
  seq [text "**", anyCase name, or_ (text ":**") (seq [text "**", many blank, text ":"])]

def sentinelPattern : JsPattern :=
  seq [text "-", many1 jsSpace, anyCase "None",
    or_ (then_ (text ".") (optional (then_ (many1 jsSpace) (many inLine)))) (many jsSpace), ending]

def isSentinel (line : Line) : Bool := JsPattern.leads sentinelPattern line

def listItem : JsPattern :=
  or_ (then_ (one fun char => char = '-' || char = '*' || char = '+') (many1 jsSpace))
    (seq [many1 Char.isDigit, text ".", many1 jsSpace])

end

def isNoneFindingsSentinelOnly (lines : List Line) : Bool :=
  match lines.filter fun line => !(trim line).isEmpty with
  | [] => true
  | first :: others =>
    isSentinel (trim first) && others.all fun line =>
      isSentinel (trim line) ||
        (!(fieldNames.any fun name => JsPattern.test (boldName name) (String.ofList (trim line))) &&
          !JsPattern.leads listItem (trim line) &&
          (first.takeWhile jsSpace).length < (line.takeWhile jsSpace).length)

def unixLines : List Char → List Char
  | '\r' :: '\n' :: rest => '\n' :: unixLines rest
  | char :: rest => char :: unixLines rest
  | [] => []

def isSectionHeading (line : Line) : Bool :=
  JsPattern.leads (.then_ (.text "##") (.many1 blank)) line

def sectionLines (heading : Line → Bool) : List (Line × Line) → Option (List (Line × Line))
  | [] => none
  | (seen, _) :: rest =>
    if isSectionHeading seen && heading seen then
      some (rest.takeWhile fun line => !isSectionHeading line.1)
    else sectionLines heading rest

def linesOf (text : List Char) : List (Line × Line) :=
  let lines := text.splitOn '\n'
  (maskReviewFences none lines).zip lines

def reviewLines (body : List Char) : List (Line × Line) := linesOf (unixLines body)

def extractReviewSection (body : List Char) (heading : Line → Bool) : Option (List Char) :=
  (sectionLines heading (reviewLines body)).map fun lines =>
    ['\n'].intercalate (lines.map Prod.snd)

def isBlockingHeading (line : Line) : Bool :=
  JsPattern.leads (.seq [.text "##", .many1 blank, .anyCase "Blocking", .many1 blank,
    .anyCase "Issue", .optional (.anyCase "s"), .many blank, .ending]) line

def isNonBlockingHeading (line : Line) : Bool :=
  JsPattern.leads (.seq [.text "##", .many1 blank, .anyCase "Non",
    .many1 fun char => char = '-' || blank char, .anyCase "blocking", .many1 blank,
    .anyCase "Issue", .optional (.anyCase "s"), .many blank, .ending]) line

/-- A finding, each of its fields where the text gives it. -/
structure Finding where
  title : Option Line := none
  category : Option Line := none
  file : Option Line := none
  lines : Option Line := none
  problem : Option Line := none
  whyItMatters : Option Line := none
  recommendedFix : Option Line := none

inductive Field where
  | category | file | lines | problem | whyItMatters | recommendedFix
  deriving DecidableEq

def fields : List (String × Field) :=
  fieldNames.zip [.category, .file, .lines, .problem, .whyItMatters, .recommendedFix]

def Finding.get (finding : Finding) : Field → Option Line
  | .category => finding.category
  | .file => finding.file
  | .lines => finding.lines
  | .problem => finding.problem
  | .whyItMatters => finding.whyItMatters
  | .recommendedFix => finding.recommendedFix

def Finding.set (finding : Finding) (field : Field) (value : Line) : Finding :=
  match field with
  | .category => { finding with category := some value }
  | .file => { finding with file := some value }
  | .lines => { finding with lines := some value }
  | .problem => { finding with problem := some value }
  | .whyItMatters => { finding with whyItMatters := some value }
  | .recommendedFix => { finding with recommendedFix := some value }

def bullet : JsPattern := .then_ (.text "-") (.many1 blank)

def matchBoldLabel (raw : Line) : Option (Field × Line) :=
  fields.findSome? fun (name, field) =>
    (valueAfter (.seq [.many blank, .optional bullet, boldName name, .many blank]) raw).map
      fun value => (field, value)

def indentWidth (raw : Line) : Nat :=
  (raw.takeWhile blank).foldl (fun width char => width + if char = '\t' then 4 else 1) 0

/-- What stands before the next `**`. -/
def untilStars : Line → Option Line
  | '*' :: '*' :: _ => some []
  | char :: rest => (untilStars rest).map (char :: ·)
  | [] => none

/-- What stands between `**` and the next `**`, at least one character, on one line. -/
def boldSpan (line : Line) : Option Line :=
  match line with
  | '*' :: '*' :: char :: rest =>
    if (char :: rest).all JsPattern.inLine then (untilStars rest).map (char :: ·) else none
  | _ => none

def dropColon (title : Line) : Line :=
  match (title.rdropWhile blank).reverse with
  | ':' :: rest => rest.reverse.rdropWhile blank
  | _ => title

def parseBulletBoldTitle (raw : Line) : Option Line :=
  ((JsPattern.leaves bullet raw).findSome? boldSpan).map trim |>.filter fun title =>
    JsText.toLowerCase (String.ofList title) |>.toList |> dropColon |> fun normalized =>
      String.ofList normalized ∉
        ["category", "file", "lines", "problem", "why it matters", "recommended fix"]

def bulletTitle (raw : Line) : Option Line :=
  (parseBulletBoldTitle raw).filter fun title => !title.isEmpty

def h3Title (raw : Line) : Option Line :=
  ((JsPattern.leaves (.seq [.many blank, .text "###", .many1 blank]) raw).find? fun rest =>
    !rest.isEmpty && rest.all JsPattern.inLine).map trim

def isFindingBoundary (raw : Line) : Bool := (h3Title raw).isSome || (bulletTitle raw).isSome

def nested (labelIndent : Nat) : List (Line × Line) → List Line × Nat
  | [] => ([], 0)
  | (seen, raw) :: rest =>
    let more := nested labelIndent rest
    if (trim raw).isEmpty then ([] :: more.1, if more.2 = 0 then 0 else more.2 + 1)
    else if indentWidth raw ≤ labelIndent || (matchBoldLabel seen).isSome ||
        isFindingBoundary seen then ([], 0)
    else (trim raw :: more.1, more.2 + 1)

def parseBoldLabel (line : Line × Line) (rest : List (Line × Line)) :
    Option (Field × Line × Nat) :=
  (matchBoldLabel line.1).bind fun (field, value) =>
    let under := nested (indentWidth line.1) rest
    let whole := trim (['\n'].intercalate ((if value.isEmpty then [] else [value]) ++ under.1))
    if whole.isEmpty then none else some (field, whole, under.2)

def cardFields : List (Line × Line) → List Field
  | [] => []
  | line :: rest =>
    if isFindingBoundary line.1 then []
    else ((parseBoldLabel line rest).map Prod.fst).toList ++ cardFields rest

def cardHasRequiredFields (rest : List (Line × Line)) : Bool :=
  Field.file ∈ cardFields rest && Field.problem ∈ cardFields rest

def plainField (name : String) (raw : Line) : Option Line :=
  valueAfter (.seq [.many blank, .optional bullet, .anyCase name, .many blank, .text ":",
    .many blank]) raw

def bulletField (name : String) (raw : Line) : Option Line :=
  valueAfter (.seq [.many blank, bullet, .anyCase name, .many blank, .text ":", .many blank]) raw

def readPlainLine (raw : Line) (findings : List Finding) (current : Option Finding) :
    List Finding × Option Finding :=
  match bulletField "Title" raw with
  | some title => (findings ++ current.toList, some { title := some title })
  | none =>
  match bulletField "File" raw, current with
  | some file, none => (findings, some { file := some file })
  -- A second file behind a bullet starts the next finding.
  | some file, some finding =>
    if finding.file.isSome then (findings ++ [finding], some { file := some file })
    else (findings, some (finding.set .file file))
  | none, none => (findings, none)
  | none, some finding =>
    match plainField "File" raw with
    | some file =>
      (findings, some (if finding.file.isSome then finding else finding.set .file file))
    | none =>
    match (plainField "Lines" raw).filter fun _ => finding.lines.isNone with
    | some value => (findings, some (finding.set .lines value))
    | none =>
    match (plainField "Problem" raw).filter fun _ => finding.problem.isNone with
    | some value => (findings, some (finding.set .problem value))
    | none => (findings, some finding)

def cardTitle (includeIncompleteCards : Bool) (raw : Line) (rest : List (Line × Line))
    (current : Option Finding) : Option Line :=
  let complete := includeIncompleteCards || cardHasRequiredFields rest
  ((h3Title raw).filter fun _ => complete).or ((bulletTitle raw).filter fun _ =>
    complete || current.all fun finding => (finding.problem.getD []).isEmpty)

def readBoldField (line : Line × Line) (rest : List (Line × Line)) (current : Option Finding) :
    Option (Finding × Nat) :=
  (parseBoldLabel line rest).bind fun (field, value, taken) =>
    (current.filter fun finding => (finding.get field).isNone).map fun finding =>
      (finding.set field value, taken)

def readLine (includeIncompleteCards : Bool) (line : Line × Line) (rest : List (Line × Line))
    (findings : List Finding) (current : Option Finding) :
    List Finding × Option Finding × Nat :=
  match cardTitle includeIncompleteCards line.1 rest current with
  | some title => (findings ++ current.toList, some { title := some title }, 0)
  | none =>
    match readBoldField line rest current with
    | some (finding, taken) => (findings, some finding, taken)
    | none =>
      let read := readPlainLine line.1 findings current
      (read.1, read.2, 0)

def readLines (includeIncompleteCards : Bool) :
    Nat → List (Line × Line) → List Finding → Option Finding → List Finding
  | _, [], findings, current => findings ++ current.toList
  | skipped + 1, _ :: rest, findings, current =>
    readLines includeIncompleteCards skipped rest findings current
  | 0, line :: rest, findings, current =>
    let read := readLine includeIncompleteCards line rest findings current
    readLines includeIncompleteCards read.2.2 rest read.1 read.2.1

def bareTitle (line : Line) : Line :=
  let bullet := JsPattern.leaves (.then_ (.text "-") (.many1 jsSpace)) line
  let bare := trim (bullet.head?.getD line)
  trim ((boldSpan bare).getD bare)

def fallbackLine (lines : List Line) : Option Line :=
  let significant := (lines.map trim).filter fun line => !line.isEmpty
  (significant.find? fun line => !isSentinel line).or significant.head?

def findingsOf (includeIncompleteCards : Bool) (cards : List (Line × Line)) : List Finding :=
  let lines := cards.map Prod.fst
  if isNoneFindingsSentinelOnly lines then []
  else
    let findings := readLines includeIncompleteCards 0 cards [] none
    let compactBoldFindings := lines.filterMap bulletTitle
    if !findings.isEmpty then findings
    else if !compactBoldFindings.isEmpty then
      compactBoldFindings.map fun title => { title := some title }
    else
      match (fallbackLine lines).map bareTitle with
      | some fallbackTitle =>
        if fallbackTitle.isEmpty then [] else [{ title := some fallbackTitle }]
      | none => []

def parseReviewFindingsSection (reviewBody : List Char) (heading : Line → Bool)
    (includeIncompleteCards : Bool) : Option (List Finding) :=
  if (trim reviewBody).isEmpty then none
  else (extractReviewSection reviewBody heading).map fun rawSection =>
    let section_ := trim rawSection
    if section_.isEmpty then [] else findingsOf includeIncompleteCards (linesOf section_)

def templatePlaceholderValues : List String :=
  ["<title>", "<path>", "<range>", "<one paragraph>", "<text>"]

/-- A text without the marks in front of it. -/
def dropMarks : List Char → List Char
  | '*' :: '*' :: rest => dropMarks rest
  | '_' :: '_' :: rest => dropMarks rest
  | '\x60' :: rest => dropMarks rest
  | other => other

def dropLastMarks : List Char → List Char
  | [] => []
  | char :: rest => if (dropMarks (char :: rest)).isEmpty then [] else char :: dropLastMarks rest

def isTemplatePlaceholderFinding (finding : Finding) : Bool :=
  let bare (value : Option Line) := trim (dropLastMarks (dropMarks (trim (value.getD []))))
  2 ≤ ([finding.title, finding.file, finding.lines, finding.problem, finding.whyItMatters,
    finding.recommendedFix].filter fun value =>
      JsText.toLowerCase (String.ofList (bare value)) ∈
        templatePlaceholderValues.map JsText.toLowerCase).length

structure FindingCount where
  count : Nat
  known : Bool
  findings : List Finding

def classify (findings : Option (List Finding)) : FindingCount :=
  match findings with
  | none => { count := 0, known := false, findings := [] }
  | some findings =>
    if findings.any isTemplatePlaceholderFinding then { count := 0, known := false, findings := [] }
    else { count := findings.length, known := true, findings }

structure ReviewFindings where
  blocking : FindingCount
  nonBlocking : FindingCount
  findingsCount : Option Nat

def parseReviewFindings (body : String) : ReviewFindings :=
  let normalized := unixLines body.toList
  let blocking := classify (parseReviewFindingsSection normalized isBlockingHeading false)
  let nonBlocking := classify (parseReviewFindingsSection normalized isNonBlockingHeading false)
  { blocking, nonBlocking
    findingsCount := if blocking.known && nonBlocking.known then
      some (blocking.count + nonBlocking.count) else none }

inductive ReviewVerdictKind where
  | requestChanges | commentOnly | approved | unknown
  deriving DecidableEq

section

open JsPattern

/-- A text behind the bullets in front of it; each one takes a character at least. -/
def dropBullets : Nat → List Char → List Char
  | 0, text => text
  | budget + 1, text =>
    match text.dropWhile jsSpace with
    | bullet :: char :: rest =>
      if (bullet = '-' || bullet = '*') && jsSpace char then
        dropBullets budget (rest.dropWhile jsSpace)
      else text
    | _ => text

def normalizeVerdictText (verdict : List Char) : List Char :=
  let plain := verdict.map fun char => if char ∈ ['*', '_', '\x60', '~'] then ' ' else char
  let spaced := trim (JsNormal.collapse false (dropBullets plain.length plain))
  (JsText.toLowerCase (String.ofList spaced)).toList

def normalizeReviewVerdict (verdict : Option (List Char)) : Option ReviewVerdictKind :=
  let text := normalizeVerdictText (verdict.getD [])
  if text.isEmpty then none
  else if "request changes".toList.isPrefixOf text then some .requestChanges
  else if "comment only".toList.isPrefixOf text then some .commentOnly
  else if text = "approve".toList ||
      leads (then_ (JsPattern.text "approved") boundary) text then some .approved
  else some .unknown

/-- The words that keep a line about requested changes a live verdict. -/
def stillBlocking : JsPattern :=
  seq [boundary, JsPattern.oneOf (["not", "never", "still", "remain", "remains", "must", "need",
    "needs", "required", "requires", "unresolved", "unsafe", "broken", "failing", "fail", "fails",
    "regression", "blocker", "blocking", "before merge"].map anyCase), boundary]

def requestChangesWords : JsPattern := then_ (anyCase "request changes") boundary

def resolvedHistory : JsPattern :=
  seq [requestChangesWords, upTo inLine 160, boundary,
    JsPattern.oneOf (["are", "is", "were", "was", "have been", "has been", "have now been",
      "has now been", "now", "already"].map anyCase),
    many1 jsSpace, JsPattern.oneOf (["resolved", "addressed", "fixed", "closed"].map anyCase),
    boundary]

/-- A line that begins with the words but tells what has been settled. -/
def isResolvedRequestChangesProse (normalized : List Char) : Bool :=
  leads requestChangesWords normalized &&
    !(test stillBlocking (String.ofList normalized)) &&
    leads resolvedHistory normalized

def normalizeVerdictSectionLine (verdict : List Char) : Option ReviewVerdictKind :=
  let normalized := normalizeVerdictText verdict
  if normalized.isEmpty then none
  else if isResolvedRequestChangesProse normalized then some .unknown
  else normalizeReviewVerdict (some normalized)

def verdictHeading : JsPattern :=
  seq [lineStart, text "##", many1 jsSpace, anyCase "Verdict", many jsSpace, lineEnd]

def anyHeading : JsPattern := seq [lineStart, text "##", many1 jsSpace]

def verdictLines (reviewBody : List Char) : Option (List Line) :=
  let visible := ['\n'].intercalate (maskReviewFences none (reviewBody.splitOn '\n'))
  (search verdictHeading none visible).map fun (_, remainder) =>
    let section_ := ((search anyHeading none remainder).map Prod.fst).getD remainder
    ((section_.splitOn '\n').map trim).filter fun line => !line.isEmpty

def extractReviewVerdict (reviewBody : String) : Option Line :=
  (verdictLines reviewBody.toList).bind fun lines =>
    let requestChangesLines := lines.filter fun line =>
      normalizeVerdictSectionLine line = some .requestChanges
    let hasPermissiveVerdict := lines.any fun line =>
      normalizeVerdictSectionLine line = some .commentOnly ||
        normalizeVerdictSectionLine line = some .approved
    if !requestChangesLines.isEmpty && hasPermissiveVerdict then requestChangesLines.getLast?
    else
      (lines.reverse.find? fun line => (normalizeVerdictSectionLine line).any (· ≠ .unknown)).or
        lines.getLast?

end

def normalizeEffectiveReviewVerdict (reviewBody : String) : Option ReviewVerdictKind :=
  let normalizedVerdict := normalizeReviewVerdict (extractReviewVerdict reviewBody)
  let blockingIssues := (parseReviewFindings reviewBody).blocking
  if blockingIssues.known && blockingIssues.count = 0 &&
      normalizedVerdict = some .requestChanges then some .commentOnly
  else if blockingIssues.known && 0 < blockingIssues.count &&
      (normalizedVerdict = some .commentOnly || normalizedVerdict = some .approved) then
    some .requestChanges
  else normalizedVerdict

def visibleBlockingLines (body : String) : Option (List Line) :=
  (sectionLines isBlockingHeading (reviewLines (unixLines body.toList))).map fun lines =>
    lines.map Prod.fst

/-- A text with a visible section of blocking issues that is neither blank nor a sentinel. -/
structure StatesBlockers (body : String) (lines : List Line) : Prop where
  visible : visibleBlockingLines body = some lines
  filled : ∃ line ∈ lines, trim line ≠ []
  stated : isNoneFindingsSentinelOnly lines = false

def readBlockingLines (body : String) : Option (List (Line × Line)) :=
  (extractReviewSection (unixLines body.toList) isBlockingHeading).map fun rawSection =>
    linesOf (trim rawSection)

section

variable (includeIncompleteCards : Bool)

def startsFinding (includeIncompleteCards : Bool) (line : Line × Line)
    (rest : List (Line × Line)) : Bool :=
  ((h3Title line.1).isSome && (includeIncompleteCards || cardHasRequiredFields rest)) ||
    (bulletTitle line.1).isSome || (bulletField "Title" line.1).isSome ||
    (bulletField "File" line.1).isSome

def someLineStarts (includeIncompleteCards : Bool) : List (Line × Line) → Bool
  | [] => false
  | line :: rest => startsFinding includeIncompleteCards line rest ||
    someLineStarts includeIncompleteCards rest

omit [JsText] in
theorem readPlainLine_keeps (raw : Line) (findings : List Finding) (finding : Finding) :
    (readPlainLine raw findings (some finding)).2.isSome = true := by
  unfold readPlainLine
  -- The cases are the plain shapes, in the order in which they are tried.
  cases bulletField "Title" raw with
  | some title => rfl
  | none =>
    cases bulletField "File" raw with
    | some file => by_cases filed : finding.file.isSome = true <;> simp [filed]
    | none =>
      cases plainField "File" raw with
      | some file => rfl
      | none =>
        dsimp only
        split
        · rfl
        · split <;> rfl

theorem readLine_keeps (line : Line × Line) (rest : List (Line × Line))
    (findings : List Finding) (finding : Finding) :
    (readLine includeIncompleteCards line rest findings (some finding)).2.1.isSome = true := by
  unfold readLine
  cases cardTitle includeIncompleteCards line.1 rest (some finding) with
  | some title => rfl
  | none =>
    cases readBoldField line rest (some finding) with
    | some read => rfl
    | none => exact readPlainLine_keeps line.1 findings finding

omit [JsText] in
theorem readPlainLine_first (raw : Line) :
    (readPlainLine raw [] none).1 = [] ∧ (readPlainLine raw [] none).2.isSome =
      ((bulletField "Title" raw).isSome || (bulletField "File" raw).isSome) := by
  unfold readPlainLine
  cases bulletField "Title" raw with
  | some title => simp
  | none =>
    cases bulletField "File" raw with
    | some file => simp
    | none => simp

theorem readLine_first (line : Line × Line) (rest : List (Line × Line)) :
    (readLine includeIncompleteCards line rest [] none).1 = [] ∧
      (readLine includeIncompleteCards line rest [] none).2.1.isSome =
        startsFinding includeIncompleteCards line rest ∧
      (readLine includeIncompleteCards line rest [] none).2.2 = 0 := by
  have unlabelled : readBoldField line rest none = none := by
    simp [readBoldField]
  have card : (cardTitle includeIncompleteCards line.1 rest none).isSome =
      (((h3Title line.1).isSome && (includeIncompleteCards || cardHasRequiredFields rest)) ||
        (bulletTitle line.1).isSome) := by
    unfold cardTitle
    cases h3Title line.1 with
    | none => simp
    | some heading =>
      cases includeIncompleteCards || cardHasRequiredFields rest with
      | true => simp
      | false => simp
  obtain ⟨nothing, starts⟩ := readPlainLine_first line.1
  unfold readLine startsFinding
  rw [Bool.or_assoc, ← card, unlabelled]
  cases titled : cardTitle includeIncompleteCards line.1 rest none with
  | some title => simp
  | none => simp [nothing, starts]

theorem readLines_some (lines : List (Line × Line)) (skipped : Nat) (findings : List Finding)
    (finding : Finding) :
    readLines includeIncompleteCards skipped lines findings (some finding) ≠ [] := by
  -- The induction follows the lines; a skipped one changes nothing.
  induction lines generalizing skipped findings finding with
  | nil => cases skipped <;> simp [readLines]
  | cons line rest ih =>
    cases skipped with
    | succ skipped => exact ih skipped findings finding
    | zero =>
      have kept := readLine_keeps includeIncompleteCards line rest
        findings finding
      obtain ⟨next, same⟩ := Option.isSome_iff_exists.mp kept
      have read := ih (readLine includeIncompleteCards line rest findings (some finding)).2.2
        (readLine includeIncompleteCards line rest findings (some finding)).1 next
      simp only [readLines]
      rw [same]
      exact read

theorem readLines_isEmpty (lines : List (Line × Line)) :
    (readLines includeIncompleteCards 0 lines [] none).isEmpty =
      !someLineStarts includeIncompleteCards lines := by
  induction lines with
  | nil => rfl
  | cons line rest ih =>
    obtain ⟨none_yet, starts, taken⟩ :=
      readLine_first includeIncompleteCards line rest
    simp only [readLines, someLineStarts, none_yet, taken]
    cases first : (readLine includeIncompleteCards line rest [] none).2.1 with
    | none =>
      have passed : startsFinding includeIncompleteCards line rest = false := by
        rw [← starts, first]
        rfl
      rw [ih, passed, Bool.false_or]
    | some finding =>
      have started : startsFinding includeIncompleteCards line rest = true := by
        rw [← starts, first]
        rfl
      have some_ := readLines_some includeIncompleteCards rest 0 []
        finding
      simpa [started] using some_

theorem someLineStarts_of_bulletTitle {lines : List (Line × Line)} {line : Line × Line}
    (listed : line ∈ lines) (bold : (bulletTitle line.1).isSome = true) :
    someLineStarts includeIncompleteCards lines = true := by
  induction lines with
  | nil => cases listed
  | cons first rest ih =>
    rcases List.mem_cons.mp listed with rfl | later
    · simp [someLineStarts, startsFinding, bold]
    · simp [someLineStarts, ih later]

end

/-- The lines that are read are not only a sentinel, and one of them starts a finding or the first
one that is no sentinel has a title. -/
structure GivesFinding (lines : List (Line × Line)) : Prop where
  stated : isNoneFindingsSentinelOnly (lines.map Prod.fst) = false
  titled : someLineStarts false lines = true ∨
    ∃ line, fallbackLine (lines.map Prod.fst) = some line ∧ bareTitle line ≠ []

theorem findingsOf_ne_nil_iff (cards : List (Line × Line)) :
    findingsOf false cards ≠ [] ↔ GivesFinding cards := by
  unfold findingsOf
  by_cases sentinel : isNoneFindingsSentinelOnly (cards.map Prod.fst) = true
  · have never : ¬ GivesFinding cards := fun gives => by simp [gives.stated] at sentinel
    simp [sentinel, never]
  have stated : isNoneFindingsSentinelOnly (cards.map Prod.fst) = false := by simpa using sentinel
  have empty := readLines_isEmpty false cards
  cases starts : someLineStarts false cards with
  | true =>
    have gives : GivesFinding cards := ⟨stated, .inl starts⟩
    have read : readLines false 0 cards [] none ≠ [] := by simpa [starts] using empty
    simp [stated, read, gives]
  | false =>
    -- Without a start there is no bold title either, so the first line decides.
    have unbold : (cards.map Prod.fst).filterMap bulletTitle = [] := by
      rw [List.filterMap_eq_nil_iff]
      intro raw listed
      obtain ⟨line, member, rfl⟩ := List.mem_map.mp listed
      by_contra titled
      have bold : (bulletTitle line.1).isSome = true := Option.isSome_iff_ne_none.mpr titled
      have started := someLineStarts_of_bulletTitle false member bold
      simp [starts] at started
    have gives : GivesFinding cards ↔
        ∃ line, fallbackLine (cards.map Prod.fst) = some line ∧ bareTitle line ≠ [] := by
      constructor
      · intro gives
        exact gives.titled.resolve_left (by simp [starts])
      · exact fun titled => ⟨stated, .inr titled⟩
    simp only [starts, Bool.not_false] at empty
    rw [gives]
    cases line : fallbackLine (cards.map Prod.fst) with
    | none => simp [stated, empty, unbold, line]
    | some first => simp [stated, empty, unbold, line]

section

def Blank (text : List Char) : Prop := ∀ char ∈ text, jsSpace char = true

variable {text : List Char}

omit [JsText] in
theorem blank_of_trim (nothing : trim text = []) : Blank text := by
  have front : Blank (text.dropWhile jsSpace) := by
    simpa [trim, Blank, List.rdropWhile_eq_nil_iff] using nothing
  intro char listed
  rw [← List.takeWhile_append_dropWhile (p := jsSpace) (l := text)] at listed
  rcases List.mem_append.mp listed with early | late
  · exact List.mem_takeWhile_imp early
  · exact front char late

omit [JsText] in
theorem trim_of_blank (space : Blank text) : trim text = [] := by
  have front : text.dropWhile jsSpace = [] := List.dropWhile_eq_nil_iff.mpr space
  simp [trim, front]

omit [JsText] in
theorem Blank.unixLines (space : Blank text) :
    Blank (Review.unixLines text) := by
  fun_induction Review.unixLines text with
  | case1 rest ih => simp_all [Blank]
  | case2 char rest other ih => simp_all [Blank]
  | case3 => exact space

omit [JsText] in
theorem Blank.maskReviewFences {lines : List Line} (space : ∀ line ∈ lines, Blank line)
    (fence : Option (Char × Nat)) :
    ∀ line ∈ Review.maskReviewFences fence lines, Blank line := by
  induction lines generalizing fence with
  | nil => simp [Review.maskReviewFences]
  | cons line rest ih =>
    have own := space line List.mem_cons_self
    have others := ih fun line listed => space line (List.mem_cons_of_mem _ listed)
    have masked : Blank (maskLine line) := by
      intro char listed
      obtain ⟨original, member, rfl⟩ := List.mem_map.mp listed
      have gap : jsSpace ' ' = true := by decide
      by_cases carriage : original = '\r'
      · simpa [carriage] using own original member
      · simpa [carriage] using gap
    cases fence with
    | some fence => simpa [Review.maskReviewFences, masked] using others _
    | none =>
      cases marked : fenceMarker line with
      | some marker => simpa [Review.maskReviewFences, marked, masked] using others _
      | none => simpa [Review.maskReviewFences, marked, own] using others _

omit [JsText] in
theorem Blank.splitOn (space : Blank text) :
    ∀ line ∈ text.splitOn '\n', Blank line := by
  induction text with
  | nil => simp [Blank]
  | cons char rest ih =>
    have own := space char List.mem_cons_self
    have others := ih fun char listed => space char (List.mem_cons_of_mem _ listed)
    rw [List.splitOn_cons_eq_if_modifyHead]
    split
    · simpa [Blank] using others
    · cases split : rest.splitOn '\n' with
      | nil => simp
      | cons first later =>
        rw [split] at others
        have head : Blank first := others first List.mem_cons_self
        simp only [List.modifyHead_cons, List.mem_cons, forall_eq_or_imp]
        refine ⟨?_, fun line listed => others line (List.mem_cons_of_mem _ listed)⟩
        simpa [Blank, own] using head

omit [JsText] in
theorem sectionLines_subset {heading : Line → Bool} {lines section_ : List (Line × Line)}
    (found : sectionLines heading lines = some section_) : section_ ⊆ lines := by
  induction lines with
  | nil => simp [sectionLines] at found
  | cons line rest ih =>
    simp only [sectionLines] at found
    split at found
    · cases found
      exact fun other listed => List.mem_cons_of_mem _ ((List.takeWhile_prefix _).subset listed)
    · exact fun other listed => List.mem_cons_of_mem _ (ih found listed)

omit [JsText] in
theorem StatesBlockers.trim_ne_nil {body : String} {lines : List Line}
    (states : StatesBlockers body lines) : trim (unixLines body.toList) ≠ [] := by
  intro nothing
  obtain ⟨line, listed, filled⟩ := states.filled
  obtain ⟨section_, found, same⟩ := Option.map_eq_some_iff.mp states.visible
  rw [← same] at listed
  obtain ⟨pair, member, rfl⟩ := List.mem_map.mp listed
  have blankLines := (blank_of_trim nothing).unixLines.splitOn
  have seen : pair.1 ∈ maskReviewFences none
      ((unixLines (unixLines body.toList)).splitOn '\n') :=
    (List.of_mem_zip (sectionLines_subset found member)).1
  exact filled (trim_of_blank (Blank.maskReviewFences blankLines none _ seen))

end

theorem classify_closed_iff (findings : Option (List Finding)) :
    ((classify findings).known = false ∨ 1 ≤ (classify findings).count) ↔
      findings ≠ some [] := by
  cases findings with
  | none => simp [classify]
  | some findings =>
    cases placeholder : findings.any isTemplatePlaceholderFinding with
    | true =>
      have nonempty : findings ≠ [] := by
        rintro rfl
        simp at placeholder
      simp [classify, placeholder, nonempty]
    | false => simp [classify, placeholder, Nat.one_le_iff_ne_zero]

structure FailsClosed (body : String) : Prop where
  counted : (parseReviewFindings body).blocking.known = false ∨
    1 ≤ (parseReviewFindings body).blocking.count
  kept : normalizeReviewVerdict (extractReviewVerdict body) = some .requestChanges →
    normalizeEffectiveReviewVerdict body ≠ some .commentOnly

theorem request_kept {body : String} (counted : (parseReviewFindings body).blocking.known = false ∨
      1 ≤ (parseReviewFindings body).blocking.count)
    (stated : normalizeReviewVerdict (extractReviewVerdict body) = some .requestChanges) :
    normalizeEffectiveReviewVerdict body = some .requestChanges := by
  have not_lifted : ((parseReviewFindings body).blocking.known &&
      decide ((parseReviewFindings body).blocking.count = 0)) = false := by
    rcases counted with unknown | positive
    · simp [unknown]
    · simp [Nat.one_le_iff_ne_zero.mp positive]
  simp [normalizeEffectiveReviewVerdict, not_lifted, stated]

theorem blocking_findings {body : String} (filled : trim (unixLines body.toList) ≠ []) :
    parseReviewFindingsSection (unixLines body.toList) isBlockingHeading false =
      (readBlockingLines body).map (findingsOf false) := by
  have nothing : findingsOf false (linesOf []) = [] := by rfl
  unfold parseReviewFindingsSection readBlockingLines
  rw [if_neg (by simpa using filled), Option.map_map]
  congr 1
  funext rawSection
  by_cases empty : trim rawSection = []
  · simp [empty, nothing]
  · simp [empty]

/-- A text that states blockers fails closed exactly where the lines that are read of it give a
finding. -/
theorem stated_blockers_iff (body : String) (lines : List Line)
    (states : StatesBlockers body lines) :
    FailsClosed body ↔ ∃ cards, readBlockingLines body = some cards ∧ GivesFinding cards := by
  have parsed := blocking_findings states.trim_ne_nil
  obtain ⟨section_, found, -⟩ := Option.map_eq_some_iff.mp states.visible
  obtain ⟨cards, read⟩ : ∃ cards, readBlockingLines body = some cards := by
    simp [readBlockingLines, extractReviewSection, found]
  have closed : ((parseReviewFindings body).blocking.known = false ∨
      1 ≤ (parseReviewFindings body).blocking.count) ↔ GivesFinding cards := by
    rw [← findingsOf_ne_nil_iff]
    simp only [parseReviewFindings]
    rw [classify_closed_iff, parsed, read]
    simp
  constructor
  · exact fun fails => ⟨cards, read, closed.mp fails.counted⟩
  · rintro ⟨others, same, gives⟩
    have own : cards = others := Option.some.inj (read.symm.trans same)
    have counted := closed.mpr (own ▸ gives)
    exact ⟨counted, fun stated => by simp [request_kept counted stated]⟩

omit [JsText] in
/-- A plain sentence under the heading. -/
theorem stated_blockers_iff_plain :
    letI := JsText.ascii
    FailsClosed "## Blocking issues\nbroken" ↔
      ∃ cards, readBlockingLines "## Blocking issues\nbroken" = some cards ∧
        GivesFinding cards := by
  let _ := JsText.ascii
  exact stated_blockers_iff "## Blocking issues\nbroken" ["broken".toList]
    ⟨by decide +kernel, by decide +kernel, by decide +kernel⟩

omit [JsText] in
/-- Bold marks around a space are a line, but no finding. -/
theorem bold_space_lifts_request :
    letI := JsText.ascii
    StatesBlockers "## Blocking issues\n** **\n## Verdict\nRequest changes" ["** **".toList] ∧
      ¬ FailsClosed "## Blocking issues\n** **\n## Verdict\nRequest changes" := by
  let _ := JsText.ascii
  refine ⟨⟨by decide +kernel, by decide +kernel, by decide +kernel⟩, fun fails => ?_⟩
  exact absurd (fails.kept (by decide +kernel)) (by decide +kernel)

end AdversarialReview.Review
