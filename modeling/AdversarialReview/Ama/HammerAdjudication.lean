import AdversarialReview.Library.JsText

/-! The comment by which a hammer withdraws a finding, and which of them are read back as written. -/

namespace AdversarialReview.Ama.HammerAdjudication

/-- The digest of a text, in hexadecimal. -/
class Sha256 where
  digest : List Char → List Char
  digest_length (text : List Char) : (digest text).length = 64
  digest_hex (text : List Char) : ∀ char ∈ digest text, char ∈ "0123456789abcdef".toList

def trim (text : List Char) : List Char :=
  ((text.dropWhile jsSpace).reverse.dropWhile jsSpace).reverse

def lineEnd (char : Char) : Bool :=
  char = '\n' || char = '\r' || char = '\u2028' || char = '\u2029'

def blank (char : Char) : Bool :=
  char = ' ' || char = '\t'

/-- Carriage returns before a line feed are left out. -/
@[simp] def unixLines : List Char → List Char
  | '\r' :: '\n' :: rest => '\n' :: unixLines rest
  | char :: rest => char :: unixLines rest
  | [] => []

/-- The parts between empty lines. -/
@[simp] def splitBlank : List Char → List (List Char)
  | '\n' :: '\n' :: rest => [] :: splitBlank rest
  | char :: rest =>
    match splitBlank rest with
    | part :: parts => (char :: part) :: parts
    | [] => [[char]]
  | [] => [[]]

/-- The parts with empty lines between them. -/
def joinBlank : List (List Char) → List Char
  | [] => []
  | [part] => part
  | part :: parts => part ++ '\n' :: '\n' :: joinBlank parts

@[simp] def splitLines : List Char → List (List Char)
  | '\n' :: rest => [] :: splitLines rest
  | char :: rest =>
    match splitLines rest with
    | line :: lines => (char :: line) :: lines
    | [] => [[char]]
  | [] => [[]]

def closes (fence text : List Char) : Option (List Char) :=
  let line := text.dropWhile blank
  if fence.isPrefixOf line then
    let rest := (line.drop fence.length).dropWhile blank
    if rest.head?.all lineEnd then some rest else none
  else none

def content (fence : List Char) (lineStart : Bool) :
    List Char → Option (List Char × List Char)
  | [] => if lineStart then (closes fence []).map fun rest => ([], rest) else none
  | char :: text =>
    match if lineStart then closes fence (char :: text) else none with
    | some rest => some ([], rest)
    | none => (content fence (lineEnd char) text).map fun found => (char :: found.1, found.2)

/-- The lengths of a fence that are tried, the longest first. -/
def tryLengths (mark : Char) (body : List Char) : Nat → Option (List Char × List Char)
  | 0 | 1 | 2 => none
  | length + 1 =>
    match content (List.replicate (length + 1) mark) true body with
    | some found => some found
    | none => tryLengths mark body length

def fenced (text : List Char) : Option (List Char × List Char) :=
  let line := text.dropWhile blank
  match line with
  | mark :: _ =>
    if mark = '\x60' || mark = '~' then
      match (line.dropWhile fun char => char ≠ '\n') with
      | _ :: body => tryLengths mark body (line.takeWhile fun char => char = mark).length
      | [] => none
    else none
  | [] => none

def anyFenced : Nat → Bool → List Char → Bool
  | 0, _, _ => false
  | fuel + 1, lineStart, text =>
    match if lineStart then fenced text else none with
    | some (found, rest) => trim found ≠ [] || anyFenced fuel false rest
    | none =>
      match text with
      | [] => false
      | char :: rest => anyFenced fuel (lineEnd char) rest

def hasConcreteExactHeadEvidence (evidence : List Char) : Bool :=
  anyFenced (evidence.length + 1) true evidence

section

variable [Sha256]

def hammerWithdrawnResolution : List Char := "withdrawn-by-hammer".toList

def hamFindingDisputePrefix : List Char := "HAM finding dispute — ".toList

def hammerFinalOperatorDecision : List Char := "Hammers judgement is final".toList

def evidenceDigest (evidence : List Char) : List Char :=
  Sha256.digest (trim evidence)

structure WithdrawalInput where
  reviewRef : List Char
  findingNumber : List Char
  identity : List Char
  headSha : List Char
  findingReviewedHead : List Char
  evidence : List Char

def headerLines (input : WithdrawalInput) (digest : List Char) : List (List Char) :=
  [hamFindingDisputePrefix ++ input.reviewRef ++ " finding=".toList ++ input.findingNumber,
    "Resolution: ".toList ++ hammerWithdrawnResolution,
    "Finding-Identity: ".toList ++ input.identity,
    "Reviewed-Head: ".toList ++ input.headSha,
    "Finding-Reviewed-Head: ".toList ++ input.findingReviewedHead,
    "Evidence-SHA256: ".toList ++ digest]

def footer : List Char :=
  "Adjudication is final: the hammer withdrew this blocking finding ".toList ++
    "with the exact-head evidence above (operator decision 2026-10-10: \"".toList ++
    hammerFinalOperatorDecision ++
    "\"). No re-review is requested; closure continues on this head.".toList

def commentText (input : WithdrawalInput) (digest evidence : List Char) : List Char :=
  ['\n'].intercalate (headerLines input digest) ++ "\n\n".toList ++ evidence ++ "\n\n".toList ++
    footer

def buildWithdrawalComment (input : WithdrawalInput) : List Char :=
  let trimmed := trim input.evidence
  commentText input (evidenceDigest trimmed) trimmed

structure Withdrawal where
  resolution : List Char
  identity : List Char
  headSha : List Char
  findingReviewedHead : List Char
  evidenceSha256 : List Char

def keyChar (char : Char) : Bool :=
  char.isAlphanum || char = '-'

def field? (line : List Char) : Option (List Char × List Char) :=
  let key := line.takeWhile keyChar
  match key, line.dropWhile keyChar with
  | _ :: _, ':' :: ' ' :: value =>
    if value = [] || value.any lineEnd then none
    else some (key.map Char.toLower, trim value)
  | _, _ => none

def lookup (fields : List (List Char × List Char)) (key : String) : Option (List Char) :=
  (fields.reverse.find? fun field => field.1 = key.toList).map Prod.snd

def isHex (length : Nat) (text : List Char) : Bool :=
  text.length = length && text.all fun char => char.toLower ∈ "0123456789abcdef".toList

def parseWithdrawalComment (body : List Char) : Option Withdrawal := do
  let text := unixLines body
  if !hamFindingDisputePrefix.isPrefixOf text then none else
  match splitBlank text with
  | [] => none
  | header :: rest =>
    let fields := ((splitLines header).drop 1).filterMap field?
    let evidence := trim (joinBlank rest.dropLast)
    let resolution ← lookup fields "resolution"
    let identity ← lookup fields "finding-identity"
    let headSha ← lookup fields "reviewed-head"
    let findingReviewedHead ← lookup fields "finding-reviewed-head"
    let evidenceSha256 ← lookup fields "evidence-sha256"
    if resolution ≠ hammerWithdrawnResolution || !isHex 64 identity || !isHex 40 headSha ||
        !isHex 40 findingReviewedHead || !isHex 64 evidenceSha256 ||
        evidenceDigest evidence ≠ evidenceSha256 ||
        !hasConcreteExactHeadEvidence evidence then none
    else some { resolution, identity, headSha, findingReviewedHead, evidenceSha256 }

end

theorem trim_eq (text : List Char) :
    trim text = List.rdropWhile jsSpace (text.dropWhile jsSpace) :=
  rfl

theorem trim_append_space (text : List Char) {char : Char} (space : jsSpace char = true) :
    trim (text ++ [char]) = trim text := by
  rw [trim_eq, trim_eq, List.dropWhile_append]
  cases kept : text.dropWhile jsSpace with
  | nil => simp [space]
  | cons first rest =>
    simp only [List.isEmpty_cons, Bool.false_eq_true, if_false]
    exact List.rdropWhile_concat_pos jsSpace _ _ space

theorem trim_of_no_space {text : List Char} (plain : ∀ char ∈ text, jsSpace char = false) :
    trim text = text := by
  have front : text.dropWhile jsSpace = text := by
    cases text with
    | nil => rfl
    | cons first rest => simp [plain first]
  rw [trim_eq, front, List.rdropWhile_eq_self_iff]
  intro nonempty
  simp [plain _ (List.getLast_mem nonempty)]

theorem unixLines_append {front : List Char} (plain : '\r' ∉ front) (rest : List Char) :
    unixLines (front ++ rest) = front ++ unixLines rest := by
  induction front with
  | nil => rfl
  | cons char front ih =>
    simp only [List.mem_cons, not_or] at plain
    have other : ∀ tail, char = '\r' → front ++ rest = '\n' :: tail → False :=
      fun _ returned _ => plain.1 returned.symm
    rw [List.cons_append, unixLines.eq_2 _ _ other, ih plain.2]
    rfl

theorem unixLines_of_no_return {text : List Char} (plain : '\r' ∉ text) :
    unixLines text = text := by
  simpa [unixLines] using unixLines_append plain []

theorem unixLines_of_plain {text : List Char} (plain : ¬ ['\r', '\n'] <:+: text) :
    unixLines text = text := by
  induction text using unixLines.induct with
  | case1 rest ih => exact absurd ⟨[], rest, rfl⟩ plain
  | case2 char rest other ih =>
    rw [unixLines.eq_2 _ _ other,
      ih fun found => plain (found.trans (List.suffix_cons _ _).isInfix)]
  | case3 => rfl

theorem unixLines_before_feed (text rest : List Char) :
    ∃ front, unixLines (text ++ '\n' :: rest) = front ++ '\n' :: unixLines rest ∧
      (unixLines text = front ∨ unixLines text = front ++ ['\r']) := by
  induction text using unixLines.induct with
  | case1 text ih =>
    obtain ⟨front, read, same⟩ := ih
    refine ⟨'\n' :: front, ?_, ?_⟩
    · simp [unixLines, read]
    · simpa [unixLines] using same
  | case2 char text other ih =>
    obtain ⟨front, read, same⟩ := ih
    rw [unixLines.eq_2 _ _ other]
    by_cases alone : char = '\r' ∧ text = []
    · obtain ⟨rfl, rfl⟩ := alone
      exact ⟨[], by simp [unixLines], .inr (by simp [unixLines])⟩
    · refine ⟨char :: front, ?_, ?_⟩
      · have away : ∀ tail, char = '\r' → text ++ '\n' :: rest = '\n' :: tail → False := by
          intro tail returned feed
          cases text with
          | nil => exact alone ⟨returned, rfl⟩
          | cons first text =>
            cases feed
            exact other _ returned rfl
        rw [List.cons_append, unixLines.eq_2 _ _ away, read]
        rfl
      · simpa using same
  | case3 => exact ⟨[], by simp [unixLines], .inl rfl⟩

theorem splitBlank_ne_nil (text : List Char) : splitBlank text ≠ [] := by
  induction text using splitBlank.induct with
  | case1 rest ih => simp [splitBlank]
  | case2 char rest other part parts found ih =>
    rw [splitBlank.eq_2 _ _ other, found]
    simp
  | case3 char rest other found ih => exact absurd found ih
  | case4 => simp [splitBlank]

theorem splitBlank_cons {char : Char} {text part : List Char} {parts : List (List Char)}
    (other : ∀ rest, char = '\n' → text = '\n' :: rest → False)
    (found : splitBlank text = part :: parts) :
    splitBlank (char :: text) = (char :: part) :: parts := by
  rw [splitBlank.eq_2 _ _ other, found]

theorem splitBlank_of_no_feed {text : List Char} (plain : '\n' ∉ text) :
    splitBlank text = [text] := by
  induction text with
  | nil => rfl
  | cons char text ih =>
    simp only [List.mem_cons, not_or] at plain
    exact splitBlank_cons (fun _ feed _ => plain.1 feed.symm) (ih plain.2)

/-- No empty line is in a text, and none would start at its end. -/
def NoGap : List Char → Prop
  | [] => True
  | [char] => char ≠ '\n'
  | char :: next :: rest => (char = '\n' → next ≠ '\n') ∧ NoGap (next :: rest)

theorem splitBlank_append {front : List Char} (gapless : NoGap front) (rest : List Char) :
    splitBlank (front ++ '\n' :: '\n' :: rest) = front :: splitBlank rest := by
  induction front with
  | nil => rw [List.nil_append, splitBlank]
  | cons char front ih =>
    cases front with
    | nil =>
      refine splitBlank_cons (fun _ feed _ => gapless feed) ?_
      simpa using ih trivial
    | cons next front =>
      refine splitBlank_cons (fun _ feed same => ?_) (ih gapless.2)
      cases same
      exact gapless.1 feed rfl

theorem joinBlank_cons {part : List Char} {parts : List (List Char)} (more : parts ≠ []) :
    joinBlank (part :: parts) = part ++ '\n' :: '\n' :: joinBlank parts := by
  cases parts with
  | nil => exact absurd rfl more
  | cons next parts => rfl

/-- All parts but the one after the last empty line give back what is before it, except that a
line feed at its end goes with the last part. -/
theorem joinBlank_dropLast (text : List Char) {last : List Char} (plain : '\n' ∉ last) :
    ∃ part parts back, splitBlank (text ++ '\n' :: '\n' :: last) = part :: (parts ++ [back]) ∧
      (joinBlank (part :: parts) = text ∨ joinBlank (part :: parts) ++ ['\n'] = text) := by
  induction text using splitBlank.induct with
  | case1 text ih =>
    obtain ⟨part, parts, back, split, joined⟩ := ih
    refine ⟨[], part :: parts, back, ?_, ?_⟩
    · rw [List.cons_append, List.cons_append, splitBlank, split]
      rfl
    · rw [joinBlank_cons (by simp)]
      simpa using joined
  | case4 =>
    exact ⟨[], [], last, by rw [List.nil_append, splitBlank, splitBlank_of_no_feed plain]; rfl,
      .inl rfl⟩
  | case2 char text other first others found ih =>
    by_cases alone : char = '\n' ∧ text = []
    · obtain ⟨rfl, rfl⟩ := alone
      have tail : splitBlank ('\n' :: last) = ['\n' :: last] := by
        refine splitBlank_cons (fun rest _ same => ?_) (splitBlank_of_no_feed plain)
        exact plain (same ▸ List.mem_cons_self)
      exact ⟨[], [], '\n' :: last, by
        rw [List.cons_append, List.nil_append, splitBlank, tail]
        rfl, .inr rfl⟩
    · obtain ⟨part, parts, back, split, joined⟩ := ih
      have away : ∀ rest, char = '\n' → text ++ '\n' :: '\n' :: last = '\n' :: rest → False := by
        intro rest feed same
        cases text with
        | nil => exact alone ⟨feed, rfl⟩
        | cons next text =>
          cases same
          exact other _ feed rfl
      refine ⟨char :: part, parts, back, splitBlank_cons away split, ?_⟩
      have longer : joinBlank ((char :: part) :: parts) = char :: joinBlank (part :: parts) := by
        cases parts <;> rfl
      rw [longer]
      simpa using joined
  | case3 char text other found ih => exact absurd found (splitBlank_ne_nil text)

theorem splitLines_append {line : List Char} (plain : '\n' ∉ line) (rest : List Char) :
    splitLines (line ++ '\n' :: rest) = line :: splitLines rest := by
  induction line with
  | nil => rw [List.nil_append, splitLines]
  | cons char line ih =>
    simp only [List.mem_cons, not_or] at plain
    rw [List.cons_append, splitLines.eq_2 _ _ (Ne.symm plain.1), ih plain.2]

theorem splitLines_of_no_feed {line : List Char} (plain : '\n' ∉ line) :
    splitLines line = [line] := by
  induction line with
  | nil => rfl
  | cons char line ih =>
    simp only [List.mem_cons, not_or] at plain
    rw [splitLines.eq_2 _ _ (Ne.symm plain.1), ih plain.2]

theorem splitLines_intercalate {lines : List (List Char)} (some_ : lines ≠ [])
    (plain : ∀ line ∈ lines, '\n' ∉ line) : splitLines (['\n'].intercalate lines) = lines := by
  induction lines with
  | nil => exact absurd rfl some_
  | cons line lines ih =>
    cases lines with
    | nil => simpa using splitLines_of_no_feed (plain line (by simp))
    | cons next lines =>
      rw [List.intercalate_cons_cons, List.append_assoc, List.singleton_append,
        splitLines_append (plain line (by simp)),
        ih (by simp) fun other listed => plain other (List.mem_cons_of_mem _ listed)]

theorem field?_of {key value : List Char} (named : key ≠ [])
    (keyed : ∀ char ∈ key, keyChar char = true) (given_ : value ≠ [])
    (line : ∀ char ∈ value, lineEnd char = false) :
    field? (key ++ ':' :: ' ' :: value) = some (key.map Char.toLower, trim value) := by
  have colon : keyChar ':' = false := by decide
  have front : (key ++ ':' :: ' ' :: value).takeWhile keyChar = key := by
    rw [List.takeWhile_append_of_pos keyed]
    simp [colon]
  have back : (key ++ ':' :: ' ' :: value).dropWhile keyChar = ':' :: ' ' :: value := by
    rw [List.dropWhile_append_of_pos keyed]
    simp [colon]
  unfold field?
  rw [front, back]
  cases key with
  | nil => exact absurd rfl named
  | cons first key =>
    have none_ : value.any lineEnd = false := by simpa using line
    simp [given_, none_]

theorem noGap_line {line : List Char} (plain : '\n' ∉ line) : NoGap line := by
  induction line with
  | nil => trivial
  | cons char line ih =>
    simp only [List.mem_cons, not_or] at plain
    cases line with
    | nil => exact Ne.symm plain.1
    | cons next line => exact ⟨fun feed => absurd feed.symm plain.1, ih plain.2⟩

theorem noGap_append {line rest : List Char} {char : Char} (plain : '\n' ∉ line)
    (some_ : line ≠ []) (visible : char ≠ '\n') (gapless : NoGap (char :: rest)) :
    NoGap (line ++ '\n' :: char :: rest) := by
  induction line with
  | nil => exact absurd rfl some_
  | cons first line ih =>
    simp only [List.mem_cons, not_or] at plain
    cases line with
    | nil => exact ⟨fun feed => absurd feed.symm plain.1, fun _ => visible, gapless⟩
    | cons next line =>
      exact ⟨fun feed => absurd feed.symm plain.1, ih plain.2 (by simp)⟩

theorem noGap_intercalate {lines : List (List Char)}
    (plain : ∀ line ∈ lines, '\n' ∉ line ∧ line ≠ []) : NoGap (['\n'].intercalate lines) := by
  induction lines with
  | nil => trivial
  | cons line lines ih =>
    have first := plain line (by simp)
    cases lines with
    | nil => simpa using noGap_line first.1
    | cons next lines =>
      have second := plain next (by simp)
      have rest := ih fun other listed => plain other (List.mem_cons_of_mem _ listed)
      rw [List.intercalate_cons_cons, List.append_assoc, List.singleton_append]
      cases next with
      | nil => exact absurd rfl second.2
      | cons char next =>
        rw [List.intercalate_cons_cons_left] at rest ⊢
        exact noGap_append first.1 first.2 (fun feed => second.1 (by simp [feed])) rest

theorem plain_of_any {text : List Char} (none_ : text.any lineEnd = false) :
    ∀ char ∈ text, lineEnd char = false := by
  simpa using none_

theorem hexChar {char : Char} (digit : char.toLower ∈ "0123456789abcdef".toList) :
    jsSpace char = false ∧ lineEnd char = false := by
  unfold Char.toLower at digit
  split at digit
  next upper =>
    have bounds : 65 ≤ char.toNat ∧ char.toNat ≤ 90 := by
      simpa [UInt32.le_iff_toNat_le] using upper
    have spaces : ∀ code ∈ List.range' 65 26,
        ((9 ≤ code && code ≤ 13) || (0x2000 ≤ code && code ≤ 0x200a) ||
          code ∈ [0x20, 0xa0, 0x1680, 0x2028, 0x2029, 0x202f, 0x205f, 0x3000, 0xfeff]) = false := by
      decide
    constructor
    · exact spaces char.toNat (List.mem_range'_1.mpr (by omega))
    · simp only [lineEnd, Bool.or_eq_false_iff, decide_eq_false_iff_not]
      refine ⟨⟨⟨?_, ?_⟩, ?_⟩, ?_⟩ <;> rintro rfl <;> revert bounds <;> decide
  next =>
    have digits : "0123456789abcdef".toList.all
        (fun digit => !jsSpace digit && !lineEnd digit) = true := by decide
    simpa using List.all_eq_true.mp digits char digit

theorem isHex_plain {length : Nat} {text : List Char} (hex : isHex length text = true) :
    (∀ char ∈ text, jsSpace char = false) ∧ ∀ char ∈ text, lineEnd char = false := by
  simp only [isHex, Bool.and_eq_true, List.all_eq_true, decide_eq_true_eq] at hex
  exact ⟨fun char listed => (hexChar (hex.2 char listed)).1,
    fun char listed => (hexChar (hex.2 char listed)).2⟩

theorem isHex_ne_nil {length : Nat} {text : List Char} (hex : isHex (length + 1) text = true) :
    text ≠ [] := by
  rintro rfl
  simp [isHex] at hex

theorem isHex_digest [Sha256] (text : List Char) : isHex 64 (Sha256.digest text) = true := by
  have digits : "0123456789abcdef".toList.all
      (fun digit => digit.toLower ∈ "0123456789abcdef".toList) = true := by decide
  simp only [isHex, Sha256.digest_length, decide_true, Bool.true_and, List.all_eq_true,
    decide_eq_true_eq]
  exact fun char listed => by
    simpa using List.all_eq_true.mp digits char (Sha256.digest_hex text char listed)

section

variable [Sha256] {input : WithdrawalInput}

/-- The parts of a comment are of the form that its helper checks. -/
structure WithdrawalInput.Valid (input : WithdrawalInput) : Prop where
  reviewRef : ∀ char ∈ input.reviewRef, lineEnd char = false
  findingNumber : ∀ char ∈ input.findingNumber, lineEnd char = false
  identity : isHex 64 input.identity = true
  headSha : isHex 40 input.headSha = true
  findingReviewedHead : isHex 40 input.findingReviewedHead = true

omit [Sha256] in
theorem plainLine {key : String} {value : List Char} (keyed : key.toList.any lineEnd = false)
    (line : ∀ char ∈ value, lineEnd char = false) :
    ∀ char ∈ key.toList ++ value, lineEnd char = false := by
  intro char listed
  rcases List.mem_append.mp listed with first | second
  · exact plain_of_any keyed char first
  · exact line char second

omit [Sha256] in
theorem headerLines_plain (valid : input.Valid) {digest : List Char}
    (hex : isHex 64 digest = true) :
    ∀ line ∈ headerLines input digest, (∀ char ∈ line, lineEnd char = false) ∧ line ≠ [] := by
  have dispute : hamFindingDisputePrefix.any lineEnd = false := by decide
  have finding : " finding=".toList.any lineEnd = false := by decide
  have resolution : ("Resolution: ".toList ++ hammerWithdrawnResolution).any lineEnd = false := by
    decide
  have present : hamFindingDisputePrefix ≠ [] := by decide
  intro line listed
  simp only [headerLines, List.mem_cons, List.not_mem_nil, or_false] at listed
  rcases listed with rfl | rfl | rfl | rfl | rfl | rfl
  · refine ⟨fun char member => ?_, by simp [present]⟩
    simp only [List.mem_append] at member
    rcases member with ((one | two) | three) | four
    · exact plain_of_any dispute char one
    · exact valid.reviewRef char two
    · exact plain_of_any finding char three
    · exact valid.findingNumber char four
  · exact ⟨plain_of_any resolution, by decide⟩
  · exact ⟨plainLine (by decide) (isHex_plain valid.identity).2,
      List.append_ne_nil_of_left_ne_nil (by decide) _⟩
  · exact ⟨plainLine (by decide) (isHex_plain valid.headSha).2,
      List.append_ne_nil_of_left_ne_nil (by decide) _⟩
  · exact ⟨plainLine (by decide) (isHex_plain valid.findingReviewedHead).2,
      List.append_ne_nil_of_left_ne_nil (by decide) _⟩
  · exact ⟨plainLine (by decide) (isHex_plain hex).2,
      List.append_ne_nil_of_left_ne_nil (by decide) _⟩

omit [Sha256] in
theorem field?_hex {key : String} {name : List Char} {length : Nat} {value : List Char}
    (named : key.toList = name ++ [':', ' ']) (some_ : name ≠ [])
    (keyed : name.all keyChar = true) (hex : isHex (length + 1) value = true) :
    field? (key.toList ++ value) = some (name.map Char.toLower, value) := by
  have read := field?_of some_ (List.all_eq_true.mp keyed) (isHex_ne_nil hex) (isHex_plain hex).2
  rw [trim_of_no_space (isHex_plain hex).1] at read
  rw [named, List.append_assoc]
  exact read

omit [Sha256] in
theorem fields_headerLines (valid : input.Valid) {digest : List Char}
    (hex : isHex 64 digest = true) :
    ((headerLines input digest).drop 1).filterMap field? =
      [("resolution".toList, hammerWithdrawnResolution),
        ("finding-identity".toList, input.identity), ("reviewed-head".toList, input.headSha),
        ("finding-reviewed-head".toList, input.findingReviewedHead),
        ("evidence-sha256".toList, digest)] := by
  have resolution : field? ("Resolution: ".toList ++ hammerWithdrawnResolution) =
      some ("resolution".toList, hammerWithdrawnResolution) := by decide
  have identity := @field?_hex "Finding-Identity: " "Finding-Identity".toList 63 input.identity
    (by decide) (by decide) (by decide) valid.identity
  have headSha := @field?_hex "Reviewed-Head: " "Reviewed-Head".toList 39 input.headSha
    (by decide) (by decide) (by decide) valid.headSha
  have reviewed := @field?_hex "Finding-Reviewed-Head: " "Finding-Reviewed-Head".toList 39
    input.findingReviewedHead (by decide) (by decide) (by decide) valid.findingReviewedHead
  have evidence := @field?_hex "Evidence-SHA256: " "Evidence-SHA256".toList 63 digest
    (by decide) (by decide) (by decide) hex
  simp only [headerLines, List.drop_succ_cons, List.drop_zero, List.filterMap_cons, resolution,
    identity, headSha, reviewed, evidence, List.filterMap_nil]
  rfl

omit [Sha256] in
theorem feed_of_lineEnd {text : List Char} (plain : ∀ char ∈ text, lineEnd char = false) :
    '\n' ∉ text ∧ '\r' ∉ text :=
  ⟨fun listed => absurd (plain _ listed) (by decide),
    fun listed => absurd (plain _ listed) (by decide)⟩

omit [Sha256] in
theorem mem_intercalate {lines : List (List Char)} {char : Char}
    (listed : char ∈ ['\n'].intercalate lines) : char = '\n' ∨ ∃ line ∈ lines, char ∈ line := by
  induction lines with
  | nil => cases listed
  | cons line lines ih =>
    cases lines with
    | nil => exact .inr ⟨line, by simp, by simpa using listed⟩
    | cons next lines =>
      rw [List.intercalate_cons_cons, List.mem_append, List.mem_append] at listed
      rcases listed with (first | feed) | rest
      · exact .inr ⟨line, by simp, first⟩
      · exact .inl (by simpa using feed)
      · exact (ih rest).imp_right fun ⟨other, member, found⟩ =>
          ⟨other, List.mem_cons_of_mem _ member, found⟩

omit [Sha256] in
theorem header_plain (valid : input.Valid) {digest : List Char} (hex : isHex 64 digest = true) :
    '\r' ∉ ['\n'].intercalate (headerLines input digest) := by
  have lines := headerLines_plain valid hex
  intro listed
  rcases mem_intercalate listed with feed | ⟨line, member, found⟩
  · exact absurd feed (by decide)
  · exact (feed_of_lineEnd (lines line member).1).2 found

omit [Sha256] in
theorem splitBlank_commentText (valid : input.Valid) {digest : List Char}
    (hex : isHex 64 digest = true) (evidence : List Char) :
    ∃ part parts back, splitBlank (unixLines (commentText input digest evidence)) =
        ['\n'].intercalate (headerLines input digest) :: part :: (parts ++ [back]) ∧
      trim (joinBlank (part :: parts)) = trim (unixLines evidence) := by
  have feed : '\n' ∉ footer ∧ '\r' ∉ footer := by decide
  have lines := headerLines_plain valid hex
  have gapless := noGap_intercalate fun line listed =>
    ⟨(feed_of_lineEnd (lines line listed).1).1, (lines line listed).2⟩
  have returned := header_plain valid hex
  obtain ⟨front, read, same⟩ := unixLines_before_feed evidence ('\n' :: footer)
  have tail : unixLines ('\n' :: footer) = '\n' :: footer :=
    unixLines_of_no_return (by simp [feed.2])
  obtain ⟨part, parts, back, split, joined⟩ := joinBlank_dropLast front feed.1
  have whole : unixLines (commentText input digest evidence) =
      ['\n'].intercalate (headerLines input digest) ++ '\n' :: '\n' ::
        (front ++ '\n' :: '\n' :: footer) := by
    have layout : commentText input digest evidence =
        (['\n'].intercalate (headerLines input digest) ++ ['\n', '\n']) ++
          (evidence ++ '\n' :: '\n' :: footer) := by
      simp [commentText]
    rw [layout, unixLines_append (by simp [returned]), read, tail]
    simp
  refine ⟨part, parts, back, ?_, ?_⟩
  · rw [whole, splitBlank_append gapless, split]
  · have feedSpace : jsSpace '\n' = true := by decide
    have returnSpace : jsSpace '\r' = true := by decide
    have trimmed : trim (joinBlank (part :: parts)) = trim front := by
      rcases joined with same | more
      · rw [same]
      · rw [← more, trim_append_space _ feedSpace]
    rcases same with same | more
    · rw [trimmed, same]
    · rw [trimmed, more, trim_append_space _ returnSpace]

/-- A comment with some digest and some evidence is a withdrawal exactly where the evidence, with
its lines ended by line feeds alone, has this digest and is concrete. -/
theorem parse_commentText (valid : input.Valid) {digest : List Char}
    (hex : isHex 64 digest = true) (evidence : List Char) :
    parseWithdrawalComment (commentText input digest evidence) =
      if evidenceDigest (trim (unixLines evidence)) = digest ∧
          hasConcreteExactHeadEvidence (trim (unixLines evidence)) = true then
        some { resolution := hammerWithdrawnResolution, identity := input.identity
               headSha := input.headSha, findingReviewedHead := input.findingReviewedHead
               evidenceSha256 := digest }
      else none := by
  obtain ⟨part, parts, back, split, joined⟩ := splitBlank_commentText valid hex evidence
  have lines := headerLines_plain valid hex
  have read := fields_headerLines valid hex
  have starts : hamFindingDisputePrefix.isPrefixOf
      (unixLines (commentText input digest evidence)) = true := by
    have plain : '\r' ∉ hamFindingDisputePrefix := by decide
    have line : hamFindingDisputePrefix <+: ['\n'].intercalate (headerLines input digest) := by
      unfold headerLines
      rw [List.intercalate_cons_cons]
      simp only [List.append_assoc]
      exact List.prefix_append _ _
    have whole : hamFindingDisputePrefix <+: commentText input digest evidence := by
      refine line.trans ?_
      unfold commentText
      simp only [List.append_assoc]
      exact List.prefix_append _ _
    obtain ⟨rest, front⟩ := whole
    rw [← front, unixLines_append plain, List.isPrefixOf_iff_prefix]
    exact List.prefix_append _ _
  have header : splitLines (['\n'].intercalate (headerLines input digest)) =
      headerLines input digest :=
    splitLines_intercalate (by simp [headerLines]) fun line listed =>
      (feed_of_lineEnd (lines line listed).1).1
  have kept : (part :: (parts ++ [back])).dropLast = part :: parts := by
    rw [← List.cons_append, List.dropLast_concat]
  unfold parseWithdrawalComment
  have found (key : String) (value : List Char)
      (listed : lookup [("resolution".toList, hammerWithdrawnResolution),
        ("finding-identity".toList, input.identity), ("reviewed-head".toList, input.headSha),
        ("finding-reviewed-head".toList, input.findingReviewedHead),
        ("evidence-sha256".toList, digest)] key = some value) := listed
  simp only [starts, split, header, read, kept, joined, found "resolution" _ rfl,
    found "finding-identity" _ rfl, found "reviewed-head" _ rfl,
    found "finding-reviewed-head" _ rfl, found "evidence-sha256" _ rfl]
  by_cases same : evidenceDigest (trim (unixLines evidence)) = digest
  · cases concrete : hasConcreteExactHeadEvidence (trim (unixLines evidence)) <;>
      simp [valid.identity, valid.headSha, valid.findingReviewedHead, hex, same]
  · simp [same]

omit [Sha256] in
theorem trim_trim (text : List Char) : trim (trim text) = trim text := by
  have same := congrArg String.toList (jsTrim_jsTrim (String.ofList text))
  simpa [jsTrim, trim] using same

/-- A withdrawal comment without carriage returns before its line feeds is read back with the
digest of its evidence; with other evidence, up to line ends, it is no withdrawal. -/
theorem withdrawal_round_trip (valid : input.Valid)
    (concrete : hasConcreteExactHeadEvidence (trim input.evidence) = true)
    (plain : ¬ ['\r', '\n'] <:+: trim input.evidence)
    (free : ∀ other, Sha256.digest other = Sha256.digest (trim input.evidence) →
      other = trim input.evidence) :
    parseWithdrawalComment (buildWithdrawalComment input) =
        some { resolution := hammerWithdrawnResolution, identity := input.identity
               headSha := input.headSha, findingReviewedHead := input.findingReviewedHead
               evidenceSha256 := evidenceDigest input.evidence } ∧
      ∀ other, trim (unixLines other) ≠ trim input.evidence →
        parseWithdrawalComment
          (commentText input (evidenceDigest input.evidence) other) = none := by
  have hex : isHex 64 (evidenceDigest input.evidence) = true := isHex_digest _
  have digest : evidenceDigest (trim input.evidence) = evidenceDigest input.evidence := by
    rw [evidenceDigest, evidenceDigest, trim_trim]
  constructor
  · rw [buildWithdrawalComment, digest, parse_commentText valid hex, unixLines_of_plain plain,
      trim_trim, digest, if_pos ⟨rfl, concrete⟩]
  · intro other differs
    rw [parse_commentText valid hex, if_neg]
    rintro ⟨same, -⟩
    refine differs ?_
    rw [evidenceDigest, evidenceDigest, trim_trim] at same
    exact free _ same

end

/-- The evidence of one comment, with line feeds. -/
def fencedEvidence : List Char := "\x60\x60\x60\nx\n\x60\x60\x60".toList

def returnedEvidence : List Char := "\x60\x60\x60\r\nx\r\n\x60\x60\x60".toList

theorem hexDigits {text : List Char}
    (digits : text.all (fun char => char ∈ "0123456789abcdef".toList) = true) :
    ∀ char ∈ text, char ∈ "0123456789abcdef".toList := by
  intro char listed
  simpa using List.all_eq_true.mp digits char listed

@[reducible] def Sha256.recorded : Sha256 where
  digest text :=
    if text = fencedEvidence then
      "a7cc9733bfc37e729c17889589aeeb77".toList ++
      "71a0b95d05977dbcee1ca1107d38a1ee".toList
    else if text = returnedEvidence then
      "8945d454c80337a08c6295cc96bb9618".toList ++
      "50be9562bd8df27f7d25895affcb524d".toList
    else List.replicate 64 '0'
  digest_length text := by
    split
    · decide
    · split <;> decide
  digest_hex text := by
    split
    · exact fun char => hexDigits (by decide) char
    · split
      · exact fun char => hexDigits (by decide) char
      · exact fun char => hexDigits (by decide) char

def sampleInput (evidence : List Char) : WithdrawalInput where
  reviewRef := "review-1".toList
  findingNumber := "1".toList
  identity := List.replicate 64 'a'
  headSha := List.replicate 40 'b'
  findingReviewedHead := List.replicate 40 'c'
  evidence

theorem sampleInput_valid (evidence : List Char) : (sampleInput evidence).Valid where
  reviewRef := plain_of_any (show "review-1".toList.any lineEnd = false by decide)
  findingNumber := plain_of_any (show "1".toList.any lineEnd = false by decide)
  identity := show isHex 64 (List.replicate 64 'a') = true by decide
  headSha := show isHex 40 (List.replicate 40 'b') = true by decide
  findingReviewedHead := show isHex 40 (List.replicate 40 'c') = true by decide

theorem recorded_fenced : Sha256.recorded.digest fencedEvidence =
    "a7cc9733bfc37e729c17889589aeeb77".toList ++ "71a0b95d05977dbcee1ca1107d38a1ee".toList :=
  if_pos rfl

theorem recorded_returned : Sha256.recorded.digest returnedEvidence =
    "8945d454c80337a08c6295cc96bb9618".toList ++ "50be9562bd8df27f7d25895affcb524d".toList :=
  (if_neg (by decide)).trans (if_pos rfl)

theorem recorded_apart :
    Sha256.recorded.digest fencedEvidence ≠ Sha256.recorded.digest returnedEvidence := by
  rw [recorded_fenced, recorded_returned]
  decide

theorem recorded_free {other : List Char}
    (same : Sha256.recorded.digest other = Sha256.recorded.digest fencedEvidence) :
    other = fencedEvidence := by
  by_contra apart
  by_cases returned : other = returnedEvidence
  · subst returned
    exact recorded_apart same.symm
  · have third : Sha256.recorded.digest other = List.replicate 64 '0' :=
      (if_neg apart).trans (if_neg returned)
    rw [third, recorded_fenced] at same
    revert same
    decide

/-- Evidence with carriage returns is accepted, and its comment is not read as a withdrawal. -/
theorem returned_evidence_lost :
    hasConcreteExactHeadEvidence returnedEvidence = true ∧
      (sampleInput returnedEvidence).Valid ∧
      @parseWithdrawalComment Sha256.recorded
        (@buildWithdrawalComment Sha256.recorded (sampleInput returnedEvidence)) = none := by
  have accepted : hasConcreteExactHeadEvidence returnedEvidence = true := by decide
  have returned : trim returnedEvidence = returnedEvidence := by decide
  have read : unixLines returnedEvidence = fencedEvidence := by decide
  have fenced : trim fencedEvidence = fencedEvidence := by decide
  have parsed := @parse_commentText Sha256.recorded (sampleInput returnedEvidence)
    (sampleInput_valid returnedEvidence) (@evidenceDigest Sha256.recorded (trim returnedEvidence))
    (@isHex_digest Sha256.recorded _) (trim returnedEvidence)
  have apart : ¬ @evidenceDigest Sha256.recorded (trim (unixLines (trim returnedEvidence))) =
      @evidenceDigest Sha256.recorded (trim returnedEvidence) := by
    unfold evidenceDigest
    rw [trim_trim, trim_trim, returned, read, fenced]
    exact recorded_apart
  rw [if_neg fun held => apart held.1] at parsed
  exact ⟨accepted, sampleInput_valid returnedEvidence, parsed⟩

theorem withdrawal_round_trip_fenced :
    @parseWithdrawalComment Sha256.recorded
        (@buildWithdrawalComment Sha256.recorded (sampleInput fencedEvidence)) =
        some { resolution := hammerWithdrawnResolution, identity := List.replicate 64 'a'
               headSha := List.replicate 40 'b', findingReviewedHead := List.replicate 40 'c'
               evidenceSha256 := @evidenceDigest Sha256.recorded fencedEvidence } ∧
      ∀ other, trim (unixLines other) ≠ trim fencedEvidence →
        @parseWithdrawalComment Sha256.recorded (@commentText (sampleInput fencedEvidence)
          (@evidenceDigest Sha256.recorded fencedEvidence) other) = none :=
  @withdrawal_round_trip Sha256.recorded (sampleInput fencedEvidence)
    (sampleInput_valid fencedEvidence) (by decide)
    (fun listed => absurd (listed.subset List.mem_cons_self)
      (show '\r' ∉ trim fencedEvidence by decide))
    fun _ same => recorded_free same

end AdversarialReview.Ama.HammerAdjudication
