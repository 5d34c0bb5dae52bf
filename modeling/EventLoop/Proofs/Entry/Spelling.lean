import EventLoop.Proofs.Entry.Settings

/-!
# Reading tokens back

Identifiers, most punctuation characters and groups of such tokens can stand side by side and are still read
back as they were written, as long as something separates each identifier from the next. Literals cannot, and
neither can the characters that begin a comment, a lifetime or a raw text. `Spells` says how such tokens may
be written; the text of an argument is written so, and so is what is printed inside of a group.
-/
namespace EventLoop.Entry

/-! ## Characters -/

/-- Whether a text is an identifier that is not raw. -/
def isPlainWord (text : String) : Bool :=
  match text.toList with
  | [] => false
  | c :: rest => isIdentifierStart c && rest.all isIdentifierContinue

/-- Whether a punctuation character begins neither a comment nor a lifetime nor a raw text. -/
def isMark (c : Char) : Bool := punctuation.contains c && !(['/', '\'', '#'].contains c)

/-- An identifier has a first character. -/
theorem exists_of_isPlainWord {text : String} (plain : isPlainWord text = true) :
    ∃ c rest, text.toList = c :: rest ∧ isIdentifierStart c = true ∧
      ∀ other ∈ c :: rest, isIdentifierContinue other = true := by
  unfold isPlainWord at plain
  cases letters : text.toList with
  | nil =>
    rw [letters] at plain
    cases plain
  | cons c rest =>
    rw [letters] at plain
    obtain ⟨start, all⟩ := Bool.and_eq_true_iff.mp plain
    refine ⟨c, rest, rfl, start, ?_⟩
    rintro other (_ | ⟨_, member⟩)
    · exact isIdentifierContinue_of_start start
    · exact List.all_eq_true.mp all other member

/-- Where the characters that begin an identifier are. -/
theorem toNat_of_start {c : Char} (start : isIdentifierStart c = true) :
    (65 ≤ c.toNat ∧ c.toNat ≤ 122) ∨ 128 ≤ c.toNat ∧ startRanges.holds c = true := by
  unfold isIdentifierStart at start
  split at start
  · refine Or.inl ?_
    rcases Bool.or_eq_true_iff.mp start with alpha | low
    · have spelled : c.isAlpha = (decide ('A'.val ≤ c.val ∧ c.val ≤ 'Z'.val) ||
          (decide ('a'.val ≤ c.val) && decide (c.val ≤ 'z'.val))) := rfl
      have letters : 65 ≤ c.toNat ∧ c.toNat ≤ 90 ∨ 97 ≤ c.toNat ∧ c.toNat ≤ 122 := by
        rw [spelled] at alpha
        simpa [UInt32.le_iff_toNat_le] using alpha
      omega
    · rw [beq_iff_eq.mp low]
      decide
  · exact Or.inr ⟨by omega, start⟩

/-- A character that begins an identifier is none that does not. -/
theorem ne_of_start {c other : Char} (start : isIdentifierStart c = true)
    (none : isIdentifierStart other = false) : c ≠ other := by
  rintro rfl
  rw [none] at start
  cases start

/-- Whatever begins an identifier is no digit. -/
theorem isDecimal_of_start {c : Char} (start : isIdentifierStart c = true) : isDecimal c = false := by
  by_contra digit
  have digits := toNat_of_isDecimal (Bool.not_eq_false _ ▸ digit)
  rcases toNat_of_start start with ascii | ⟨beyond, -⟩
  · omega
  · omega

/-- Whatever begins an identifier is not blank. -/
theorem isBlank_of_start {c : Char} (start : isIdentifierStart c = true) : isBlank c = false := by
  have apart : ∀ code ∈ [0x85, 0xa0, 0x1680, 0x200e, 0x200f, 0x2028, 0x2029, 0x202f, 0x205f, 0x3000] ++
      List.range' 0x2000 11,
      startRanges.any (fun range => range.1 ≤ code && code ≤ range.2) = false := by decide +kernel
  by_contra blank
  rw [Bool.not_eq_false] at blank
  unfold isBlank at blank
  simp only [Bool.or_eq_true, Bool.and_eq_true, beq_iff_eq, decide_eq_true_eq] at blank
  rcases toNat_of_start start with ascii | ⟨beyond, holds⟩
  · omega
  · have free : c.toNat ∉ _ := fun listed => absurd (holds.symm.trans (apart _ listed)) nofun
    simp only [List.mem_append, List.mem_cons, List.mem_range'_1, List.not_mem_nil] at free
    omega

/-- Whatever begins an identifier is no punctuation character. -/
theorem not_punctuation_of_start {c : Char} (start : isIdentifierStart c = true) :
    punctuation.contains c = false := by
  have none : punctuation.all (!isIdentifierStart ·) = true := by decide
  by_contra listed
  have member : c ∈ punctuation := List.contains_iff_mem.mp (Bool.not_eq_false _ ▸ listed)
  have other : isIdentifierStart c = false := by simpa using List.all_eq_true.mp none c member
  exact ne_of_start start other rfl

/-- Whatever begins an identifier is no bracket. -/
theorem brackets_of_start {c : Char} (start : isIdentifierStart c = true) :
    Delimiter.ofOpening? c = none ∧ Delimiter.ofClosing? c = none := by
  have differ {other : Char} (none : isIdentifierStart other = false) : ¬ c = other :=
    ne_of_start start none
  unfold Delimiter.ofOpening? Delimiter.ofClosing?
  rw [if_neg (differ (by decide)), if_neg (differ (by decide)), if_neg (differ (by decide)),
    if_neg (differ (by decide)), if_neg (differ (by decide)), if_neg (differ (by decide))]
  exact ⟨rfl, rfl⟩

/-- Whether a character may not follow an identifier, since a literal, a raw identifier or a lifetime could
begin, or a comment. -/
def isOdd (c : Char) : Bool := ['"', '#', '\'', '/'].contains c

/-- Whatever goes on in an identifier may follow one. -/
theorem isOdd_of_continue {c : Char} (goesOn : isIdentifierContinue c = true) : isOdd c = false := by
  have none : ['"', '#', '\'', '/'].all (!isIdentifierContinue ·) = true := by decide
  by_contra odd
  have listed := List.contains_iff_mem.mp (Bool.not_eq_false _ ▸ odd)
  have other : isIdentifierContinue c = false := by simpa using List.all_eq_true.mp none c listed
  exact absurd (other.symm.trans goesOn) nofun

/-- What may stand after an identifier that is read on its own. -/
structure Apart (text : List Char) : Prop where
  /-- The identifier does not go on. -/
  stops : ∀ c ∈ text.head?, isIdentifierContinue c = false
  /-- Nothing begins that the identifier could be a part of. -/
  clear : ∀ c ∈ text.head?, isOdd c = false

/-- What stands in front of an identifier's rest begins no quoted text either. -/
theorem clear_append {word next : List Char} (goesOn : ∀ c ∈ word, isIdentifierContinue c = true)
    (clear : ∀ c ∈ next.head?, isOdd c = false) : ∀ c ∈ (word ++ next).head?, isOdd c = false := by
  cases word with
  | nil => exact clear
  | cons first word =>
    intro c member
    cases Option.mem_some.mp member
    exact isOdd_of_continue (goesOn first List.mem_cons_self)

/-- A text whose first letters could be part of an identifier, but not what follows them, is not written
there. -/
theorem not_prefix_word {front back word next : List Char} {bad : Char}
    (letters : ∀ c ∈ front, isIdentifierContinue c = true) (odd : isOdd bad = true)
    (goesOn : ∀ c ∈ word, isIdentifierContinue c = true) (apart : Apart next) :
    ¬ (front ++ bad :: back) <+: (word ++ next) := by
  induction front generalizing word with
  | nil =>
    rintro ⟨rest, same⟩
    have clear := clear_append goesOn apart.clear bad (by rw [← same]; rfl)
    exact absurd (clear.symm.trans odd) nofun
  | cons letter front ih =>
    cases word with
    | nil =>
      rintro ⟨rest, same⟩
      have stops := apart.stops letter (by rw [← List.nil_append next, ← same]; rfl)
      exact absurd (stops.symm.trans (letters letter List.mem_cons_self)) nofun
    | cons first word =>
      intro begins
      refine ih (fun c member => letters c (List.mem_cons_of_mem _ member))
        (fun c member => goesOn c (List.mem_cons_of_mem _ member)) ?_
      exact (List.cons_prefix_cons.mp begins).2

/-- A text with a character that may not follow an identifier is not written where an identifier stands.
-/
theorem startsWith_word {text : String} {word next : List Char}
    (odd : (text.toList.dropWhile isIdentifierContinue).head?.any isOdd = true)
    (goesOn : ∀ c ∈ word, isIdentifierContinue c = true) (apart : Apart next) :
    startsWith text (word ++ next) = false := by
  obtain ⟨bad, here, bads⟩ := (Option.any_eq_true _ _).mp odd
  obtain ⟨back, same⟩ := List.head?_eq_some_iff.mp here
  have parts := text.toList.takeWhile_append_dropWhile (p := isIdentifierContinue)
  rw [same] at parts
  refine Bool.eq_false_iff.mpr fun begins => ?_
  have front : (text.toList.takeWhile isIdentifierContinue ++ bad :: back) <+: word ++ next := by
    rw [parts]
    exact List.isPrefixOf_iff_prefix.mp begins
  exact not_prefix_word (fun c member => List.mem_takeWhile_imp member) bads goesOn apart front

/-! ## Leaves -/

/-- A character that may follow an identifier is none that may not. -/
theorem ne_of_clear {c other : Char} (clear : isOdd c = false) (odd : isOdd other = true) : c ≠ other := by
  rintro rfl
  rw [clear] at odd
  cases odd

/-- Nothing raw begins where nothing odd stands. -/
theorem readRaw_of_clear {input : List Char} (quoting : Quoting)
    (clear : ∀ c ∈ input.head?, isOdd c = false) : readRaw quoting input = none := by
  cases input with
  | nil => rfl
  | cons c rest =>
    have quote : c ≠ '"' := ne_of_clear (clear c rfl) rfl
    have hash : c ≠ '#' := ne_of_clear (clear c rfl) rfl
    have hashes : (c :: rest).takeWhile (· == '#') = [] :=
      List.takeWhile_cons_of_neg (by simpa using hash)
    unfold readRaw
    rw [hashes]
    simp [quote]

/-- A number begins with a decimal digit. -/
theorem readNumber_of_letter {c : Char} (letter : isDecimal c = false) (rest : List Char) :
    readFloatDigits (c :: rest) = none ∧ readIntegerDigits (c :: rest) = none := by
  have none : ¬ isDecimal c = true := by
    rw [letter]
    exact Bool.false_ne_true
  have zero {more : List Char} (same : c :: rest = '0' :: more) : False := by
    rw [(List.cons.inj same).1] at letter
    cases letter
  have large {digit : Nat} (value : Bytes.hexValue? c = some digit) : ¬ digit < 10 := by
    have other : ¬ ('0' ≤ c ∧ c ≤ '9') := by simpa [isDecimal] using letter
    unfold Bytes.hexValue? at value
    rw [if_neg other] at value
    split at value
    · cases value
      omega
    · split at value
      · cases value
        omega
      · cases value
  refine ⟨by rw [readFloatDigits, if_neg none], ?_⟩
  unfold readIntegerDigits
  split
  · rename_i same
    exact (zero same).elim
  · rename_i same
    exact (zero same).elim
  · rename_i same
    exact (zero same).elim
  · rw [readDigits, if_neg none]
    split
    · rfl
    · split
      · rename_i value
        rw [if_neg (large value), if_pos rfl]
      · rfl

/-- What begins neither a quoted text nor a number is no literal. -/
theorem readLiteral_of_letter {c : Char} {rest : List Char} (quotation : readQuotation (c :: rest) = none)
    (letter : isDecimal c = false) : readLiteral (c :: rest) = none := by
  obtain ⟨float, integer⟩ := readNumber_of_letter letter rest
  unfold readLiteral
  rw [quotation, float, integer]
  rfl

/-- An identifier is no literal. -/
theorem readLiteral_word {c : Char} {rest next : List Char} (start : isIdentifierStart c = true)
    (goesOn : ∀ other ∈ rest, isIdentifierContinue other = true) (apart : Apart next) :
    readLiteral (c :: (rest ++ next)) = none := by
  have clear := clear_append goesOn apart.clear
  have quoted {other : Char} {more : List Char} (same : c :: (rest ++ next) = other :: more)
      (odd : isIdentifierStart other = false) : False :=
    ne_of_start start odd (List.cons.inj same).1
  have opened {first second : Char} {more : List Char} (same : c :: (rest ++ next) = first :: second :: more)
      (odd : isOdd second = true) : False :=
    ne_of_clear (clear second (by rw [(List.cons.inj same).2]; rfl)) odd rfl
  have raw (quoting : Quoting) {first : Char} {more : List Char}
      (same : c :: (rest ++ next) = first :: 'r' :: more) : readRaw quoting more = none := by
    have behind := (List.cons.inj same).2
    refine readRaw_of_clear quoting ?_
    cases rest with
    | nil =>
      have stops := apart.stops 'r' (by rw [← List.nil_append next, behind]; rfl)
      exact absurd stops (by decide)
    | cons second rest =>
      rw [← (List.cons.inj behind).2]
      exact clear_append (fun other member => goesOn other (List.mem_cons_of_mem _ member)) apart.clear
  have quotation : readQuotation (c :: (rest ++ next)) = none := by
    unfold readQuotation
    split
    · rename_i same
      exact (quoted same (by decide)).elim
    · rename_i same
      rw [← (List.cons.inj same).2]
      exact readRaw_of_clear _ clear
    · rename_i same
      exact (opened same rfl).elim
    · rename_i same
      exact raw _ same
    · rename_i same
      exact (opened same rfl).elim
    · rename_i same
      exact (opened same rfl).elim
    · rename_i same
      exact raw _ same
    · rename_i same
      exact (quoted same (by decide)).elim
    · rfl
  exact readLiteral_of_letter quotation (isDecimal_of_start start)

section Words

variable {c : Char} {rest next : List Char}

/-- A word is read as far as it goes on. -/
theorem readAnyWord_word (start : isIdentifierStart c = true)
    (goesOn : ∀ other ∈ c :: rest, isIdentifierContinue other = true) (apart : Apart next) :
    readAnyWord (c :: rest ++ next) = some (c :: rest, next) := by
  have raw : startsWith "r#" (c :: rest ++ next) = false := startsWith_word (by decide) goesOn apart
  have others : ∀ other ∈ rest, isIdentifierContinue other = true := fun other member =>
    goesOn other (List.mem_cons_of_mem _ member)
  have ends : (rest ++ next).takeWhile isIdentifierContinue = rest ∧
      (rest ++ next).dropWhile isIdentifierContinue = next := by
    rw [List.takeWhile_append_of_pos others, List.dropWhile_append_of_pos others]
    cases next with
    | nil => exact ⟨List.append_nil rest, rfl⟩
    | cons first next =>
      have stops : ¬ isIdentifierContinue first = true := by
        rw [apart.stops first rfl]
        exact Bool.false_ne_true
      rw [List.takeWhile_cons_of_neg stops, List.dropWhile_cons_of_neg stops]
      exact ⟨List.append_nil rest, rfl⟩
  unfold readAnyWord
  rw [raw, if_neg Bool.false_ne_true, List.cons_append, readWord, if_pos start, ends.1, ends.2]

/-- A word that stands apart is read as an identifier. -/
theorem readIdentifier_word (start : isIdentifierStart c = true)
    (goesOn : ∀ other ∈ c :: rest, isIdentifierContinue other = true) (apart : Apart next) :
    readIdentifier (c :: rest ++ next) = some (c :: rest, next) := by
  have odd : ∀ text ∈ ["r\"", "r#\"", "r##", "b\"", "b'", "br\"", "br#", "c\"", "cr\"", "cr#"],
      (text.toList.dropWhile isIdentifierContinue).head?.any isOdd = true := by decide
  unfold readIdentifier
  rw [if_neg, readAnyWord_word start goesOn apart]
  refine Bool.eq_false_iff.mp (List.any_eq_false.mpr fun text member => ?_)
  rw [startsWith_word (odd text member) goesOn apart]
  exact Bool.false_ne_true

/-- An identifier is read as far as it goes. -/
theorem readLeaf_word {text : String} (plain : isPlainWord text = true) (apart : Apart next) :
    readLeaf (text.toList ++ next) = some (.word text, next) := by
  obtain ⟨c, rest, letters, start, goesOn⟩ := exists_of_isPlainWord plain
  have punctuation : readPunctuation (c :: rest ++ next) = none := by
    rw [List.cons_append, readPunctuation, not_punctuation_of_start start]
    split
    · rfl
    · rfl
  have punct : readPunct (c :: rest ++ next) = none := by
    unfold readPunct
    rw [punctuation]
  have literal : readLiteral (c :: rest ++ next) = none :=
    readLiteral_word start (fun other member => goesOn other (List.mem_cons_of_mem _ member)) apart
  rw [letters]
  unfold readLeaf
  rw [literal, punct, readIdentifier_word start goesOn apart, ← letters]
  dsimp only
  rw [String.ofList_toList]

end Words

/-- A punctuation character begins nothing else. -/
theorem of_isMark {c : Char} (mark : isMark c = true) : isBlank c = false ∧ isDecimal c = false ∧
    isIdentifierContinue c = false ∧ c ∉ ['"', 'r', 'b', 'c', '/', '\'', '#', '('] ∧
      Delimiter.ofOpening? c = none ∧ Delimiter.ofClosing? c = none := by
  have facts : (punctuation.filter isMark).all fun c => isBlank c = false ∧ isDecimal c = false ∧
      isIdentifierContinue c = false ∧ c ∉ ['"', 'r', 'b', 'c', '/', '\'', '#', '('] ∧
        Delimiter.ofOpening? c = none ∧ Delimiter.ofClosing? c = none := by decide
  have member : c ∈ punctuation := List.contains_iff_mem.mp (Bool.and_eq_true_iff.mp mark).1
  exact of_decide_eq_true (List.all_eq_true.mp facts c (List.mem_filter.mpr ⟨member, mark⟩))

/-- A text is not written where another character stands. -/
theorem startsWith_of_ne {text : String} {first c : Char} {more : List Char}
    (letters : text.toList = first :: more) (differ : c ≠ first) (rest : List Char) :
    startsWith text (c :: rest) = false := by
  unfold startsWith
  rw [letters, List.isPrefixOf_cons_cons, beq_false_of_ne differ.symm, Bool.false_and]

/-- A punctuation character is read on its own. -/
theorem readLeaf_mark {c : Char} (mark : isMark c = true) (rest : List Char) :
    ∃ joint, readLeaf (c :: rest) = some (.punct c joint, rest) := by
  obtain ⟨-, digit, -, differ, -⟩ := of_isMark mark
  have listed : punctuation.contains c = true := (Bool.and_eq_true_iff.mp mark).1
  simp only [List.mem_cons, List.not_mem_nil, or_false, not_or] at differ
  obtain ⟨quote, isR, isB, isC, slash, apostrophe, -⟩ := differ
  have quotation : readQuotation (c :: rest) = none := by
    unfold readQuotation
    split
    all_goals first
      | rfl
      | rename_i same
        have first := (List.cons.inj same).1
        contradiction
  have literal : readLiteral (c :: rest) = none := readLiteral_of_letter quotation digit
  have comments : startsWith "//" (c :: rest) = false ∧ startsWith "/*" (c :: rest) = false :=
    ⟨startsWith_of_ne rfl slash rest, startsWith_of_ne rfl slash rest⟩
  have reads : readPunctuation (c :: rest) = some (c, rest) := by
    rw [readPunctuation, comments.1, comments.2, listed]
    rfl
  refine ⟨(readPunctuation rest).isSome, ?_⟩
  unfold readLeaf readPunct
  rw [literal, reads]
  dsimp only
  rw [if_neg apostrophe]

/-! ## Steps of reading -/

/-- Where no comment begins, blanks are skipped one after another. -/
theorem skipBlanks_of_ne {c : Char} (slash : c ≠ '/') (fuel : Nat) (rest : List Char) :
    skipBlanks (fuel + 1) (c :: rest) = if isBlank c then skipBlanks fuel rest else c :: rest := by
  have none {text : String} {more : List Char} (letters : text.toList = '/' :: more) :
      startsWith text (c :: rest) = false := startsWith_of_ne letters slash rest
  rw [skipBlanks]
  simp [none (show "//".toList = _ from rfl), none (show "/**/".toList = _ from rfl),
    none (show "/*".toList = _ from rfl)]

/-- No comment of documentation begins without a slash. -/
theorem readDocumentation_of_leaf {c : Char} (slash : c ≠ '/') (rest : List Char) :
    readDocumentation (c :: rest) = none := by
  have none {text : String} {more : List Char} (letters : text.toList = '/' :: more) :
      startsWith text (c :: rest) = false := startsWith_of_ne letters slash rest
  unfold readDocumentation
  simp [none (show "//!".toList = _ from rfl), none (show "/*!".toList = _ from rfl),
    none (show "///".toList = _ from rfl), none (show "/**".toList = _ from rfl)]

namespace Reading

variable {before : List Token} {enclosing : List (Delimiter × List Token)}

/-- What is neither blank nor a comment is read as a token. -/
theorem finish_token {c : Char} (blank : isBlank c = false) (slash : c ≠ '/') (fuel : Nat)
    (rest : List Char) : finish (fuel + 1) ⟨before, enclosing, c :: rest⟩ =
      (readToken ⟨before, enclosing, c :: rest⟩ c rest).bind (finish fuel) := by
  rw [finish]
  dsimp only [List.length_cons]
  rw [skipBlanks_of_ne slash, blank, if_neg Bool.false_ne_true]
  unfold readComment
  dsimp only
  rw [readDocumentation_of_leaf slash]
  dsimp only
  cases readToken ⟨before, enclosing, c :: rest⟩ c rest with
  | none => rfl
  | some reading => rfl

/-- A blank is passed over. -/
theorem finish_blank (fuel : Nat) (rest : List Char) :
    finish fuel ⟨before, enclosing, ' ' :: rest⟩ = finish fuel ⟨before, enclosing, rest⟩ := by
  cases fuel with
  | zero => rfl
  | succ fuel =>
    have passes : skipBlanks (rest.length + 1 + 1) (' ' :: rest) = skipBlanks (rest.length + 1) rest :=
      (skipBlanks_of_ne (by decide) _ rest).trans (if_pos rfl)
    rw [finish, finish]
    dsimp only [List.length_cons]
    rw [passes]

/-- More steps do no harm. -/
theorem finish_mono {fuel more : Nat} {reading : Reading} {result : List Token}
    (reads : finish fuel reading = some result) (le : fuel ≤ more) : finish more reading = some result := by
  induction fuel generalizing more reading with
  | zero => cases reads
  | succ fuel ih =>
    obtain ⟨left, rfl⟩ : ∃ left, more = left + 1 := ⟨more - 1, by omega⟩
    have fits : fuel ≤ left := Nat.le_of_succ_le_succ le
    rw [finish] at reads ⊢
    dsimp only at reads ⊢
    split at reads
    · exact ih reads fits
    · split at reads
      · exact reads
      · split at reads
        · exact ih reads fits
        · cases reads

/-- What is a leaf and no bracket is read as a leaf. -/
theorem readToken_leaf {c : Char} {rest next : List Char} {token : Token} (bracket : c ≠ '(')
    (opening : Delimiter.ofOpening? c = none) (closing : Delimiter.ofClosing? c = none)
    (leaf : readLeaf (c :: rest) = some (token, next)) :
    readToken ⟨before, enclosing, c :: rest⟩ c rest = some ⟨token :: before, enclosing, next⟩ := by
  have failed : startsWith failedExpansion (c :: rest) = false := startsWith_of_ne rfl bracket rest
  unfold readToken
  dsimp only
  rw [failed, if_neg Bool.false_ne_true, opening, closing, leaf]
  rfl

/-- A bracket opens a group if no failed expansion begins. -/
theorem readToken_opening (delimiter : Delimiter) {rest : List Char}
    (clear : ∀ c ∈ rest.head?, isOdd c = false) :
    readToken ⟨before, enclosing, delimiter.opening :: rest⟩ delimiter.opening rest =
      some ⟨[], (delimiter, before) :: enclosing, rest⟩ := by
  have failed : startsWith failedExpansion (delimiter.opening :: rest) = false := by
    refine Bool.eq_false_iff.mpr fun begins => ?_
    have front := List.isPrefixOf_iff_prefix.mp begins
    have behind : ['/'] <+: rest := by
      have short : ['(', '/'] <+: delimiter.opening :: rest :=
        List.IsPrefix.trans (by decide) front
      exact (List.cons_prefix_cons.mp short).2
    obtain ⟨more, same⟩ := behind
    exact ne_of_clear (clear '/' (by rw [← same]; rfl)) rfl rfl
  have opens : Delimiter.ofOpening? delimiter.opening = some delimiter := by
    cases delimiter with
    | parenthesis | bracket | brace => decide
  unfold readToken
  dsimp only
  rw [failed, if_neg Bool.false_ne_true, opens]

/-- A bracket closes the group that it fits. -/
theorem readToken_closing (delimiter : Delimiter) (found : List Token) (rest : List Char) :
    readToken ⟨found, (delimiter, before) :: enclosing, delimiter.closing :: rest⟩ delimiter.closing rest =
      some ⟨.group delimiter found.reverse :: before, enclosing, rest⟩ := by
  have failed : startsWith failedExpansion (delimiter.closing :: rest) = false := by
    refine startsWith_of_ne rfl ?_ rest
    cases delimiter with
    | parenthesis | bracket | brace => decide
  have opens : Delimiter.ofOpening? delimiter.closing = none := by
    cases delimiter with
    | parenthesis | bracket | brace => decide
  have closes : Delimiter.ofClosing? delimiter.closing = some delimiter := by
    cases delimiter with
    | parenthesis | bracket | brace => decide
  unfold readToken
  dsimp only
  rw [failed, if_neg Bool.false_ne_true, opens, closes]
  exact if_pos rfl

end Reading

/-! ## Spelling -/

/-- How tokens may be written: side by side, with blanks in between, and so that an identifier ends where the
next token begins. -/
inductive Spells : List Token → List Char → Prop
  /-- Nothing is written. -/
  | nil : Spells [] []
  /-- A blank comes first. -/
  | blank {tokens : List Token} {text : List Char} (spells : Spells tokens text) :
      Spells tokens (' ' :: text)
  /-- An identifier comes first. -/
  | word {tokens : List Token} {rest : List Char} {text : String} (plain : isPlainWord text = true)
      (stops : ∀ c ∈ rest.head?, isIdentifierContinue c = false) (spells : Spells tokens rest) :
      Spells (.word text :: tokens) (text.toList ++ rest)
  /-- A punctuation character comes first. -/
  | mark {tokens : List Token} {rest : List Char} {c : Char} (joint : Bool) (mark : isMark c = true)
      (spells : Spells tokens rest) : Spells (.punct c joint :: tokens) (c :: rest)
  /-- A group comes first. -/
  | group {content tokens : List Token} {inside rest : List Char} (delimiter : Delimiter)
      (inner : Spells content inside) (spells : Spells tokens rest) :
      Spells (.group delimiter content :: tokens)
        (delimiter.opening :: (inside ++ delimiter.closing :: rest))

namespace Spells

variable {tokens : List Token} {text tail : List Char}

/-- What stands first where tokens are spelled. -/
theorem begins (spells : Spells tokens text) {c : Char} (member : c ∈ text.head?) :
    c = ' ' ∨ isIdentifierStart c = true ∨ isMark c = true ∨
      ∃ delimiter : Delimiter, c = delimiter.opening := by
  cases spells with
  | nil => cases member
  | blank => exact Or.inl (Option.mem_some.mp member).symm
  | word plain =>
    obtain ⟨first, rest, letters, start, -⟩ := exists_of_isPlainWord plain
    rw [letters] at member
    rw [← Option.mem_some.mp member]
    exact Or.inr (Or.inl start)
  | mark joint mark =>
    rw [← Option.mem_some.mp member]
    exact Or.inr (Or.inr (Or.inl mark))
  | group delimiter => exact Or.inr (Or.inr (Or.inr ⟨delimiter, (Option.mem_some.mp member).symm⟩))

/-- No comment, literal or lifetime begins where tokens are spelled. -/
theorem clear (spells : Spells tokens text) (clear : ∀ c ∈ tail.head?, isOdd c = false) :
    ∀ c ∈ (text ++ tail).head?, isOdd c = false := by
  intro c member
  cases text with
  | nil => exact clear c member
  | cons first text =>
    rcases spells.begins member with rfl | start | mark | ⟨delimiter, rfl⟩
    · rfl
    · exact isOdd_of_continue (isIdentifierContinue_of_start start)
    · refine Bool.eq_false_iff.mpr fun odd => (of_isMark mark).2.2.2.1 ?_
      have listed := List.contains_iff_mem.mp odd
      simp only [List.mem_cons, List.not_mem_nil, or_false] at listed ⊢
      tauto
    · cases delimiter with
      | parenthesis | bracket | brace => decide

/-- No byte order mark stands where tokens are spelled. -/
theorem unmarked (spells : Spells tokens text) (rest : List Char) : text ≠ '\ufeff' :: rest := by
  rintro rfl
  rcases spells.begins (Option.mem_some.mpr rfl) with same | start | mark | ⟨delimiter, same⟩
  · cases same
  · exact absurd start (by decide +kernel)
  · exact absurd mark (by decide)
  · cases delimiter with
    | parenthesis | bracket | brace => cases same

/-- What may follow an identifier may also do so if tokens are spelled first. -/
theorem apart (spells : Spells tokens text) (stops : ∀ c ∈ text.head?, isIdentifierContinue c = false)
    (apart : Apart tail) : Apart (text ++ tail) := by
  refine ⟨?_, spells.clear apart.clear⟩
  cases text with
  | nil => exact apart.stops
  | cons => exact stops

end Spells

/-- What is written is read as tokens with the texts of the given ones, in the middle of whatever is being
read. -/
def ReadsBack (tokens : List Token) (text : List Char) : Prop :=
  ∀ {tail : List Char}, Apart tail → ∀ (before : List Token) (enclosing : List (Delimiter × List Token)),
    ∃ found, Token.textsOf found = Token.textsOf tokens ∧ ∀ {fuel : Nat} {result : List Token},
      Reading.finish fuel ⟨found.reverse ++ before, enclosing, tail⟩ = some result →
        Reading.finish (fuel + text.length) ⟨before, enclosing, text ++ tail⟩ = some result

namespace ReadsBack

variable {content tokens : List Token} {inside rest : List Char}

/-- A blank in front of what reads back is passed over. -/
theorem blank (back : ReadsBack tokens rest) : ReadsBack tokens (' ' :: rest) := by
  intro tail apart before enclosing
  obtain ⟨found, same, reads⟩ := back apart before enclosing
  refine ⟨found, same, fun ends => ?_⟩
  rw [List.cons_append, Reading.finish_blank]
  exact Reading.finish_mono (reads ends) (by simp)

/-- A word in front of what reads back is read first, if the text behind it does not go on. -/
theorem word {text : String} (plain : isPlainWord text = true)
    (stops : ∀ c ∈ rest.head?, isIdentifierContinue c = false) (spells : Spells tokens rest)
    (back : ReadsBack tokens rest) : ReadsBack (.word text :: tokens) (text.toList ++ rest) := by
  intro tail apart before enclosing
  obtain ⟨c, letters, same, start, -⟩ := exists_of_isPlainWord plain
  obtain ⟨opening, closing⟩ := brackets_of_start start
  have leaf := readLeaf_word plain (spells.apart stops apart)
  rw [same, List.cons_append] at leaf
  obtain ⟨found, texts, reads⟩ := back apart (.word text :: before) enclosing
  refine ⟨.word text :: found, by rw [Token.textsOf, Token.textsOf, texts], fun {fuel result} ends => ?_⟩
  have step : Reading.finish (fuel + rest.length + 1)
      ⟨before, enclosing, c :: (letters ++ (rest ++ tail))⟩ = some result := by
    rw [Reading.finish_token (isBlank_of_start start) (ne_of_start start (by decide)),
      Reading.readToken_leaf (ne_of_start start (by decide)) opening closing leaf]
    exact reads (by simpa using ends)
  rw [same, List.append_assoc]
  exact Reading.finish_mono step (by rw [List.length_append, List.length_cons]; omega)

/-- A punctuation character in front of what reads back is read first. -/
theorem mark {c : Char} (joint : Bool) (mark : isMark c = true) (back : ReadsBack tokens rest) :
    ReadsBack (.punct c joint :: tokens) (c :: rest) := by
  intro tail apart before enclosing
  obtain ⟨blank, -, -, differ, opening, closing⟩ := of_isMark mark
  have slash : c ≠ '/' := fun here => differ (by rw [here]; decide)
  have bracket : c ≠ '(' := fun here => differ (by rw [here]; decide)
  -- Whether it is joint depends on what follows.
  obtain ⟨found, leaf⟩ := readLeaf_mark mark (rest ++ tail)
  obtain ⟨others, same, reads⟩ := back apart (.punct c found :: before) enclosing
  refine ⟨.punct c found :: others, by rw [Token.textsOf, Token.textsOf, same, Token.texts, Token.texts],
    fun {fuel result} ends => ?_⟩
  have step : Reading.finish (fuel + rest.length + 1) ⟨before, enclosing, c :: (rest ++ tail)⟩ =
      some result := by
    rw [Reading.finish_token blank slash, Reading.readToken_leaf bracket opening closing leaf]
    exact reads (by simpa using ends)
  exact step

/-- A group in front of what reads back is read first, if its content reads back. -/
theorem group (delimiter : Delimiter) (spells : Spells content inside) (inner : ReadsBack content inside)
    (back : ReadsBack tokens rest) : ReadsBack (.group delimiter content :: tokens)
      (delimiter.opening :: (inside ++ delimiter.closing :: rest)) := by
  intro tail apart before enclosing
  have brackets : isBlank delimiter.opening = false ∧ delimiter.opening ≠ '/' ∧
      isBlank delimiter.closing = false ∧ delimiter.closing ≠ '/' ∧
        isIdentifierContinue delimiter.closing = false ∧ isOdd delimiter.closing = false := by
    cases delimiter with
    | parenthesis | bracket | brace => decide
  obtain ⟨blank, slash, blankClosing, slashClosing, stops, clear⟩ := brackets
  have free : Apart (delimiter.closing :: (rest ++ tail)) :=
    ⟨fun c member => Option.mem_some.mp member ▸ stops, fun c member => Option.mem_some.mp member ▸ clear⟩
  obtain ⟨inner', same', readsInner⟩ := inner free [] ((delimiter, before) :: enclosing)
  obtain ⟨others, same, reads⟩ := back apart (.group delimiter inner' :: before) enclosing
  refine ⟨.group delimiter inner' :: others,
    by rw [Token.textsOf, Token.textsOf, same, Token.texts, Token.texts, same'],
    fun {fuel result} ends => ?_⟩
  have closes : Reading.finish (fuel + rest.length + 1)
      ⟨inner'.reverse ++ [], (delimiter, before) :: enclosing, delimiter.closing :: (rest ++ tail)⟩ =
        some result := by
    rw [Reading.finish_token blankClosing slashClosing, Reading.readToken_closing, List.append_nil,
      List.reverse_reverse]
    exact reads (by simpa using ends)
  have opens : Reading.finish (fuel + rest.length + 1 + inside.length + 1)
      ⟨before, enclosing, delimiter.opening :: (inside ++ delimiter.closing :: (rest ++ tail))⟩ =
        some result := by
    rw [Reading.finish_token blank slash, Reading.readToken_opening delimiter (spells.clear free.clear)]
    exact readsInner closes
  rw [List.cons_append, List.append_assoc, List.cons_append]
  exact Reading.finish_mono opens (by rw [List.length_cons, List.length_append, List.length_cons]; omega)

end ReadsBack

namespace Spells

variable {tokens : List Token} {text : List Char}

/-- What is spelled is read back. -/
theorem readsBack (spells : Spells tokens text) : ReadsBack tokens text := by
  induction spells with
  | nil => exact fun _ before enclosing => ⟨[], rfl, fun reads => reads⟩
  | blank _ ih => exact ih.blank
  | word plain stops spells ih => exact ih.word plain stops spells
  | mark joint mark _ ih => exact ih.mark joint mark
  | group delimiter inner _ ihInner ih => exact ihInner.group delimiter inner ih

/-- A blank may also stand at the end. -/
theorem append_blank (spells : Spells tokens text) : Spells tokens (text ++ [' ']) := by
  induction spells with
  | nil => exact .blank .nil
  | blank _ ih => exact .blank ih
  | @word tokens rest text plain stops _ ih =>
    rw [List.append_assoc]
    refine .word plain (fun c member => ?_) ih
    cases rest with
    | nil =>
      rw [← Option.mem_some.mp member]
      decide
    | cons => exact stops c member
  | mark joint mark _ ih => exact .mark joint mark ih
  | @group content tokens inside rest delimiter inner _ _ ih =>
    rw [List.cons_append, List.append_assoc, List.cons_append]
    exact .group delimiter inner ih

end Spells

namespace Token

mutual

/-- Whether a token is an identifier, a harmless punctuation character, or a group of such tokens. -/
def isSimple : Token → Bool
  | word text => isPlainWord text
  | literal _ => false
  | punct char _ => isMark char
  | group _ content => areSimple content

/-- Whether all tokens are of this kind. -/
def areSimple : List Token → Bool
  | [] => true
  | token :: rest => isSimple token && areSimple rest

end

mutual

/-- A token is spelled by its print. -/
theorem spells_print {tokens : List Token} {rest : List Char} : (token : Token) →
    token.isSimple = true → Spells tokens rest →
      (token.isWord = true → ∀ c ∈ rest.head?, isIdentifierContinue c = false) →
        Spells (token :: tokens) (token.print.toList ++ rest)
  | word text, simple, spells, stops => by
    rw [isSimple] at simple
    rw [print]
    exact .word simple (stops rfl) spells
  | literal text, simple, _, _ => by
    rw [isSimple] at simple
    cases simple
  | punct char joint, simple, spells, _ => by
    rw [isSimple] at simple
    rw [print, String.toList_singleton]
    exact .mark joint simple spells
  | group .parenthesis content, simple, spells, _ => by
    rw [isSimple] at simple
    have written : (print (group .parenthesis content)).toList ++ rest =
        Delimiter.parenthesis.opening ::
          ((printAll content).toList ++ Delimiter.parenthesis.closing :: rest) := by
      simp [print, Delimiter.opening, Delimiter.closing]
    rw [written]
    exact .group .parenthesis (spells_printAll content simple) spells
  | group .bracket content, simple, spells, _ => by
    rw [isSimple] at simple
    have written : (print (group .bracket content)).toList ++ rest =
        Delimiter.bracket.opening :: ((printAll content).toList ++ Delimiter.bracket.closing :: rest) := by
      simp [print, Delimiter.opening, Delimiter.closing]
    rw [written]
    exact .group .bracket (spells_printAll content simple) spells
  | group .brace content, simple, spells, _ => by
    rw [isSimple] at simple
    have inner := spells_printAll content simple
    cases content with
    | nil => exact .group .brace (.blank .nil) spells
    | cons first content =>
      have written : (print (group .brace (first :: content))).toList ++ rest =
          Delimiter.brace.opening :: ((' ' :: ((printAll (first :: content)).toList ++ [' '])) ++
            Delimiter.brace.closing :: rest) := by
        simp [print, Delimiter.opening, Delimiter.closing]
      rw [written]
      exact .group .brace (.blank inner.append_blank) spells

/-- Tokens are spelled by their print. -/
theorem spells_printAll : (tokens : List Token) → areSimple tokens = true →
    Spells tokens (printAll tokens).toList
  | [], _ => .nil
  | [token], simple => by
    rw [areSimple, Bool.and_eq_true] at simple
    have alone := spells_print token simple.1 .nil fun _ c member => absurd member (Option.not_mem_none c)
    rw [List.append_nil] at alone
    rw [printAll]
    exact alone
  | token :: next :: rest, simple => by
    rw [areSimple, Bool.and_eq_true] at simple
    have others := spells_printAll (next :: rest) simple.2
    have written : (printAll (token :: next :: rest)).toList = (print token).toList ++
        ((if token.isJoint then "" else " ").toList ++ (printAll (next :: rest)).toList) := by
      rw [printAll, String.toList_append, String.toList_append, List.append_assoc]
    rw [written]
    cases joint : token.isJoint with
    | true =>
      have other : token.isWord = false := by
        cases token with
        | punct => rfl
        | word | literal | group => cases joint
      refine spells_print token simple.1 others fun word => ?_
      rw [other] at word
      cases word
    | false =>
      refine spells_print token simple.1 (.blank others) fun _ c member => ?_
      rw [← Option.mem_some.mp member]
      decide

end

end Token

/-- A group is printed in its brackets. -/
theorem exists_print_group (delimiter : Delimiter) (content : List Token) :
    ∃ rest, (Token.print (.group delimiter content)).toList = delimiter.opening :: rest := by
  cases delimiter with
  | parenthesis => exact ⟨(Token.printAll content).toList ++ [')'], by simp [Token.print, Delimiter.opening]⟩
  | bracket => exact ⟨(Token.printAll content).toList ++ [']'], by simp [Token.print, Delimiter.opening]⟩
  | brace =>
    cases content with
    | nil => exact ⟨[' ', '}'], rfl⟩
    | cons first content =>
      exact ⟨' ' :: ((Token.printAll (first :: content)).toList ++ [' ', '}']),
        by simp [Token.print, Delimiter.opening]⟩

/-- No identifier begins where a token is printed that is none. -/
theorem stops_print {token : Token} (simple : token.isSimple = true) (other : token.isWord = false)
    (rest : List Char) : ∀ c ∈ (token.print.toList ++ rest).head?, isIdentifierContinue c = false := by
  intro c member
  cases token with
  | word => cases other
  | literal =>
    rw [Token.isSimple] at simple
    cases simple
  | punct char joint =>
    rw [Token.isSimple] at simple
    rw [Token.print, String.toList_singleton] at member
    rw [← Option.mem_some.mp member]
    exact (of_isMark simple).2.2.1
  | group delimiter content =>
    obtain ⟨inside, printed⟩ := exists_print_group delimiter content
    rw [printed] at member
    rw [← Option.mem_some.mp member]
    cases delimiter with
    | parenthesis | bracket | brace => decide

/-- The text of an argument spells its tokens. -/
theorem spells_argumentText : (tokens : List Token) → Token.areSimple tokens = true →
    Spells tokens (argumentText tokens).toList
  | [], _ => .nil
  | [token], simple => by
    have alone := Token.spells_printAll [token] simple
    rw [Token.printAll] at alone
    exact alone
  | token :: next :: rest, simple => by
    rw [Token.areSimple, Bool.and_eq_true] at simple
    have others := spells_argumentText (next :: rest) simple.2
    have written : (argumentText (token :: next :: rest)).toList = (Token.print token).toList ++
        ((if token.isWord && next.isWord then " " else "").toList ++
          (argumentText (next :: rest)).toList) := by
      rw [argumentText, String.toList_append, String.toList_append, List.append_assoc]
    rw [written]
    cases words : token.isWord && next.isWord with
    | true =>
      refine Token.spells_print token simple.1 (.blank others) fun _ c member => ?_
      rw [← Option.mem_some.mp member]
      decide
    | false =>
      refine Token.spells_print token simple.1 others fun word => ?_
      rw [word, Bool.true_and] at words
      obtain ⟨more, printed⟩ : ∃ more, (argumentText (next :: rest)).toList = next.print.toList ++ more := by
        cases rest with
        | nil => exact ⟨[], (List.append_nil _).symm⟩
        | cons third rest =>
          rw [argumentText, String.toList_append, String.toList_append, List.append_assoc]
          exact ⟨_, rfl⟩
      rw [printed]
      exact stops_print (Bool.and_eq_true_iff.mp simple.2).1 words more

/-- The text of an argument without literals is read as the tokens of the argument, in their order and
nesting. -/
theorem tokenize_argumentText {tokens : List Token} (simple : Token.areSimple tokens = true) :
    ∃ found, tokenize (argumentText tokens) = some found ∧
      Token.textsOf found = Token.textsOf tokens := by
  have spells := spells_argumentText tokens simple
  have free : Apart [] :=
    ⟨fun c member => absurd member (Option.not_mem_none c), fun c member => absurd member (Option.not_mem_none c)⟩
  obtain ⟨found, same, reads⟩ := spells.readsBack free [] []
  refine ⟨found, ?_, same⟩
  have ends : Reading.finish 1 ⟨found.reverse ++ [], [], []⟩ = some found := by
    simp [Reading.finish, skipBlanks, Reading.readComment, readDocumentation, startsWith]
  have whole := reads ends
  rw [Nat.add_comm, List.append_nil] at whole
  unfold tokenize
  split
  · rename_i rest marked
    exact absurd marked (spells.unmarked rest)
  · exact whole

/-- A literal takes the identifier that follows it for its suffix. -/
example : (tokenize (argumentText [.word "extern", .literal "\"C\"", .word "fn"])).map Token.textsOf =
    some ["extern", "\"C\"fn"] := by decide +kernel

end EventLoop.Entry
