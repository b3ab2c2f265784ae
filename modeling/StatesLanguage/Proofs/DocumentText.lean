import StatesLanguage.Document.Printer
import StatesLanguage.Proofs.Numeral
import StatesLanguage.Proofs.Order
import StatesLanguage.Text

/-!
# Document text that is read back

The reader takes a value from the front of a text and stops where the value ends.  For each
notion of the compact notation (numbers, strings, items, members) there is a lemma that says
so for what is written, and `Document.read_compact` puts them together for documents whose
numbers are integers.
-/

namespace StatesLanguage

namespace Document

open Outcome

/-- A text that may stand after a value: nothing, or what begins with a delimiter. -/
inductive Delimits : List Char → Prop where
  | nil : Delimits []
  | comma (rest : List Char) : Delimits (',' :: rest)
  | bracket (rest : List Char) : Delimits (']' :: rest)
  | brace (rest : List Char) : Delimits ('\x7d' :: rest)

theorem Delimits.digit?_eq_none {rest : List Char} (delimits : Delimits rest) :
    ∀ character ∈ rest.head?, Text.digit? character = none := by
  intro character first
  cases delimits with
  | nil => cases first
  | comma rest | bracket rest | brace rest =>
      cases first
      rfl

theorem Delimits.readFraction {rest : List Char} (delimits : Delimits rest) :
    readFraction rest = .ok (none, rest) := by
  cases delimits with
  | nil | comma rest | bracket rest | brace rest => rfl

theorem Delimits.readPower {rest : List Char} (delimits : Delimits rest) :
    readPower rest = .ok (none, rest) := by
  cases delimits with
  | nil | comma rest | bracket rest | brace rest => rfl

theorem readWhole_of_takeDigits {text rest : List Char} {digits : List Nat}
    (taken : Text.takeDigits text = (digits, rest)) (present : digits ≠ [])
    (unpadded : ∀ second others, digits ≠ 0 :: second :: others) :
    readWhole text = .ok (digits, rest) := by
  rw [readWhole, taken]
  split
  · rename_i same
    cases same
    exact absurd rfl present
  · rename_i second others _ same
    cases same
    exact absurd rfl (unpadded second others)
  · rename_i same
    cases same
    rfl

theorem readNumber_digitText {negative : Bool} {magnitude : Nat} {value : Int}
    (literal : ∀ digits, Text.ofDigits digits = magnitude →
      Number.ofLiteral? ⟨negative, digits, none, none⟩ = some (.integer value))
    {rest : List Char} (delimits : Delimits rest) :
    readNumber negative (Number.digitText magnitude ++ rest) =
      .ok (.number (.integer value), rest) := by
  obtain ⟨digits, each, counted, present, unpadded⟩ := Text.exists_digits magnitude
  have taken := Text.takeDigits_append each delimits.digit?_eq_none
  rw [readNumber, readWhole_of_takeDigits taken present unpadded]
  simp only [bind, Except.bind, delimits.readFraction, delimits.readPower,
    literal digits counted]

/-- A text that begins with a digit is read as a number. -/
theorem readValue_of_digit {character : Char} {digit : Nat}
    (counts : Text.digit? character = some digit) (fuel depth : Nat) (rest : List Char) :
    readValue (fuel + 1) depth (character :: rest) = readNumber false (character :: rest) := by
  obtain ⟨below, rfl⟩ := Text.digit?_eq_some_iff.mp counts
  interval_cases digit <;> rfl

theorem ofLiteral?_nonnegative {digits : List Nat} {magnitude : Nat}
    (counted : Text.ofDigits digits = magnitude) (fits : magnitude < Number.wordLimit) :
    Number.ofLiteral? ⟨false, digits, none, none⟩ = some (.integer magnitude) := by
  simp [Number.ofLiteral?, counted, fits]

theorem ofLiteral?_negative {digits : List Nat} {below : Nat}
    (counted : Text.ofDigits digits = below + 1) (fits : below + 1 ≤ Number.negativeLimit) :
    Number.ofLiteral? ⟨true, digits, none, none⟩ = some (.integer (.negSucc below)) := by
  simp [Number.ofLiteral?, counted, fits, Int.negSucc_eq]

theorem readValue_integer {value : Int} (fits : Number.InRange value) {rest : List Char}
    (delimits : Delimits rest) (fuel depth : Nat) :
    readValue (fuel + 1) depth (Number.integerText value ++ rest) =
      .ok (.number (.integer value), rest) := by
  obtain ⟨lower, upper⟩ := fits
  cases value with
  | ofNat magnitude =>
      have below : magnitude < Number.wordLimit := Int.ofNat_lt.mp upper
      have read := readNumber_digitText
        (fun digits counted => ofLiteral?_nonnegative counted below) delimits
      have numeral := Text.numeral_digitText magnitude
      obtain ⟨first, others, written⟩ := List.exists_cons_of_ne_nil numeral.ne_nil
      obtain ⟨digit, counts⟩ := Option.isSome_iff_exists.mp
        (numeral.isSome_of_mem (written ▸ List.mem_cons_self))
      rw [written] at read
      rw [Number.integerText, written, List.cons_append, readValue_of_digit counts]
      exact read
  | negSucc below =>
      have within : below + 1 ≤ Number.negativeLimit := by omega
      exact readNumber_digitText (fun digits counted => ofLiteral?_negative counted within)
        delimits

theorem readCharacters_plain {character : Char} (unquoted : character ≠ '\x22')
    (unescaped : character ≠ '\x5c') (visible : ¬ character.toNat < 32) (rest : List Char) :
    readCharacters (character :: rest) = prepend character (readCharacters rest) := by
  rw [readCharacters.eq_5 character rest unquoted (fun _ _ _ _ _ same _ => unescaped same)
    (fun _ _ same _ => unescaped same)]
  exact if_neg (not_or.mpr ⟨unescaped, visible⟩)

theorem readCharacters_letter {letter character : Char}
    (stands : simpleEscape? letter = some character) (rest : List Char) :
    readCharacters ('\x5c' :: letter :: rest) = prepend character (readCharacters rest) := by
  have simple : letter ≠ 'u' := by
    rintro rfl
    cases stands
  rw [readCharacters.eq_4 letter rest fun _ _ _ _ _ same _ => simple same, stands]

theorem hexQuad?_of_lt {code : Nat} (control : code < 32) :
    hexQuad? '0' '0' (hexDigit (code / 16)) (hexDigit (code % 16)) = some code := by
  interval_cases code <;> rfl

theorem readCharacters_control {character : Char} (control : character.toNat < 32)
    (rest : List Char) :
    readCharacters ('\x5c' :: 'u' :: '0' :: '0' :: hexDigit (character.toNat / 16) ::
      hexDigit (character.toNat % 16) :: rest) = prepend character (readCharacters rest) := by
  have high : isHighSurrogate character.toNat = false := by
    simp [isHighSurrogate]
    omega
  have low : isLowSurrogate character.toNat = false := by
    simp [isLowSurrogate]
    omega
  rw [readCharacters, hexQuad?_of_lt control]
  simp [high, low, Char.ofNat_toNat]

/-- The ways in which a character is written inside quotes. -/
inductive Escapes : Char → List Char → Prop where
  | letter {character letter : Char} (stands : simpleEscape? letter = some character) :
      Escapes character ['\x5c', letter]
  | control {character : Char} (control : character.toNat < 32) :
      Escapes character ['\x5c', 'u', '0', '0', hexDigit (character.toNat / 16),
        hexDigit (character.toNat % 16)]
  | plain {character : Char} (unquoted : character ≠ '\x22') (unescaped : character ≠ '\x5c')
      (visible : ¬ character.toNat < 32) : Escapes character [character]

theorem escapes_escape (character : Char) : Escapes character (escape character) := by
  unfold escape
  split_ifs with quote backslash backspace formFeed lineFeed carriage tab control
  · subst quote
    exact .letter rfl
  · subst backslash
    exact .letter rfl
  · subst backspace
    exact .letter rfl
  · subst formFeed
    exact .letter rfl
  · subst lineFeed
    exact .letter rfl
  · subst carriage
    exact .letter rfl
  · subst tab
    exact .letter rfl
  · exact .control control
  · exact .plain quote backslash control

theorem Escapes.readCharacters_append {character : Char} {text : List Char}
    (escapes : Escapes character text) (rest : List Char) :
    readCharacters (text ++ rest) = prepend character (readCharacters rest) := by
  cases escapes with
  | letter stands => exact readCharacters_letter stands rest
  | control control => exact readCharacters_control control rest
  | plain unquoted unescaped visible =>
      exact readCharacters_plain unquoted unescaped visible rest

theorem readCharacters_flatMap_escape (text rest : List Char) :
    readCharacters (text.flatMap escape ++ '\x22' :: rest) = .ok (text, rest) := by
  induction text with
  | nil => rfl
  | cons character text induction =>
      rw [List.flatMap_cons, List.append_assoc,
        (escapes_escape character).readCharacters_append, induction]
      rfl

theorem quoted_append (text : String) (rest : List Char) :
    quoted text ++ rest = '\x22' :: (text.toList.flatMap escape ++ '\x22' :: rest) := by
  simp [quoted]

/-- Documents that text can hold: their numbers are integers, their objects are in order,
and their containers nest at most `depth` deep. -/
inductive Writable : Nat → Document → Prop where
  | null (depth : Nat) : Writable depth .null
  | bool (depth : Nat) (value : Bool) : Writable depth (.bool value)
  | integer (depth : Nat) {value : Int} (fits : Number.InRange value) :
      Writable depth (.number (.integer value))
  | string (depth : Nat) (value : String) : Writable depth (.string value)
  | array {depth : Nat} {items : List Document}
      (each : ∀ item, item ∈ items → Writable depth item) :
      Writable (depth + 1) (.array items)
  | object {depth : Nat} {members : List (String × Document)}
      (ascending : Members.Ascending members)
      (each : ∀ name value, (name, value) ∈ members → Writable depth value) :
      Writable (depth + 1) (.object members)

/-- The characters with which text of a document begins. -/
inductive Begins : Char → Prop where
  | letter {character : Char} (letter : character ∈ ['n', 't', 'f']) : Begins character
  | quote : Begins '\x22'
  | minus : Begins '-'
  | digit {character : Char} {value : Nat} (counts : Text.digit? character = some value) :
      Begins character
  | bracket : Begins '['
  | brace : Begins '\x7b'

theorem Writable.exists_begins {depth : Nat} {document : Document}
    (writable : Writable depth document) :
    ∃ first others, compactText document = first :: others ∧ Begins first := by
  cases writable with
  | null => exact ⟨_, _, rfl, .letter (by decide)⟩
  | bool depth value =>
      cases value with
      | false | true => exact ⟨_, _, rfl, .letter (by decide)⟩
  | @integer depth value fits =>
      obtain ⟨first, others, written⟩ :=
        List.exists_cons_of_ne_nil (Text.integerText_ne_nil value)
      refine ⟨first, others, written, ?_⟩
      rcases Text.mem_integerText (written ▸ List.mem_cons_self) with digit | rfl
      · obtain ⟨digit, counts⟩ := Option.isSome_iff_exists.mp digit
        exact .digit counts
      · exact .minus
  | string depth value => exact ⟨_, _, rfl, .quote⟩
  | array each => exact ⟨_, _, rfl, .bracket⟩
  | object ascending each => exact ⟨_, _, rfl, .brace⟩

theorem Begins.isBlank_eq_false {character : Char} (begins : Begins character) :
    Text.isBlank character = false := by
  cases begins with
  | letter letter =>
      simp only [List.mem_cons, List.not_mem_nil, or_false] at letter
      rcases letter with rfl | rfl | rfl <;> rfl
  | quote | minus | bracket | brace => rfl
  | @digit character value counts =>
      obtain ⟨below, rfl⟩ := Text.digit?_eq_some_iff.mp counts
      interval_cases value <;> rfl

theorem Begins.ne {character other : Char} (begins : Begins character)
    (apart : other ∉ ['n', 't', 'f', '\x22', '-', '[', '\x7b'])
    (uncounted : Text.digit? other = none) : character ≠ other := by
  rintro rfl
  cases begins with
  | letter letter => exact apart (List.mem_append_left ['\x22', '-', '[', '\x7b'] letter)
  | quote | minus | bracket | brace => exact apart (by decide)
  | digit counts =>
      rw [uncounted] at counts
      cases counts

theorem Begins.skipBlanks {first : Char} (begins : Begins first) (others : List Char) :
    skipBlanks (first :: others) = first :: others := by
  have visible := begins.isBlank_eq_false
  have unskipped : isBlank first = false := by
    apply Bool.eq_false_iff.mpr
    intro blank
    simp only [isBlank, Bool.or_eq_true, decide_eq_true_eq] at blank
    rcases blank with ((rfl | rfl) | rfl) | rfl <;> cases visible
  rw [Document.skipBlanks, unskipped]
  rfl

theorem readValue_bracket {first : Char} (begins : Begins first) (fuel depth : Nat)
    (others : List Char) :
    readValue (fuel + 1) (depth + 1) ('[' :: first :: others) =
      (readItems fuel depth (first :: others)).map fun read => (.array read.1, read.2) := by
  have opened : first ≠ ']' := begins.ne (by decide) rfl
  have bracket : skipBlanks ('[' :: first :: others) = '[' :: first :: others := rfl
  rw [← bind_ok, readValue, bracket]
  simp only [begins.skipBlanks]
  split
  · rename_i same
    cases same
    exact absurd rfl opened
  · rfl

theorem readValue_quote (fuel depth : Nat) (text : List Char) :
    readValue (fuel + 1) depth ('\x22' :: text) =
      (readCharacters text).map fun read => (.string (String.ofList read.1), read.2) := by
  rw [← bind_ok]
  rfl

theorem readValue_brace (fuel depth : Nat) (text : List Char) :
    readValue (fuel + 1) (depth + 1) ('\x7b' :: '\x22' :: text) =
      (readMembers fuel depth ('\x22' :: text)).map fun read =>
        (ofMembers read.1, read.2) := by
  rw [← bind_ok]
  rfl

theorem compactItems_cons_cons (item second : Document) (items : List Document) :
    compactItems (item :: second :: items) =
      compactText item ++ ',' :: compactItems (second :: items) := rfl

theorem exists_compactItems (item : Document) (items : List Document) :
    ∃ more, compactItems (item :: items) = compactText item ++ more := by
  cases items with
  | nil => exact ⟨[], (List.append_nil _).symm⟩
  | cons second items => exact ⟨_, rfl⟩

theorem compactMembers_cons_cons (name : String) (value : Document)
    (second : String × Document) (members : List (String × Document)) :
    compactMembers ((name, value) :: second :: members) =
      quoted name ++ ':' :: compactText value ++ ',' :: compactMembers (second :: members) :=
  rfl

theorem exists_compactMembers (name : String) (value : Document)
    (members : List (String × Document)) :
    ∃ more, compactMembers ((name, value) :: members) = '\x22' :: more := by
  cases members with
  | nil => exact ⟨_, rfl⟩
  | cons second members => exact ⟨_, rfl⟩

theorem readItems_last {fuel depth : Nat} {text rest : List Char} {item : Document}
    (read : readValue fuel depth text = .ok (item, ']' :: rest)) :
    readItems (fuel + 1) depth text = .ok ([item], rest) := by
  rw [readItems, read]
  rfl

theorem readItems_more {fuel depth : Nat} {text more rest : List Char} {item : Document}
    {items : List Document} (read : readValue fuel depth text = .ok (item, ',' :: more))
    (others : readItems fuel depth more = .ok (items, rest)) :
    readItems (fuel + 1) depth text = .ok (item :: items, rest) := by
  rw [readItems, read]
  change (readItems fuel depth more >>= _) = _
  rw [others]
  rfl

theorem readMembers_quoted (fuel depth : Nat) (name : String) (text : List Char) :
    readMembers (fuel + 1) depth (quoted name ++ ':' :: text) = (do
      let (value, rest) ← readValue fuel depth text
      match Document.skipBlanks rest with
      | '\x7d' :: rest => .ok ([(name, value)], rest)
      | ',' :: rest => do
          let (members, rest) ← readMembers fuel depth rest
          .ok ((name, value) :: members, rest)
      | rest => stopAt rest) := by
  have read := readCharacters_flatMap_escape name.toList (':' :: text)
  rw [quoted_append, readMembers]
  change (readCharacters (_ ++ '\x22' :: ':' :: text) >>= _) = _
  rw [read]
  simp only [bind, Except.bind, String.ofList_toList]
  rfl

theorem readMembers_last {fuel depth : Nat} {name : String} {text rest : List Char}
    {value : Document} (read : readValue fuel depth text = .ok (value, '\x7d' :: rest)) :
    readMembers (fuel + 1) depth (quoted name ++ ':' :: text) = .ok ([(name, value)], rest) := by
  rw [readMembers_quoted, read]
  rfl

theorem readMembers_more {fuel depth : Nat} {name : String} {text more rest : List Char}
    {value : Document} {members : List (String × Document)}
    (read : readValue fuel depth text = .ok (value, ',' :: more))
    (others : readMembers fuel depth more = .ok (members, rest)) :
    readMembers (fuel + 1) depth (quoted name ++ ':' :: text) =
      .ok ((name, value) :: members, rest) := by
  rw [readMembers_quoted, read]
  change (readMembers fuel depth more >>= _) = _
  rw [others]
  rfl

mutual

/-- What is written for a document is read as that document. -/
theorem readValue_compactText : ∀ (fuel depth : Nat) (document : Document) (rest : List Char),
    Writable depth document → Delimits rest → 2 * (compactText document).length < fuel →
      readValue fuel depth (compactText document ++ rest) = .ok (document, rest)
  | 0, _, _, _, _, _, enough => absurd enough (Nat.not_lt_zero _)
  | fuel + 1, depth, document, rest, writable, delimits, enough => by
      cases writable with
      | null => rfl
      | bool depth value =>
          cases value with
          | false | true => rfl
      | integer depth fits => exact readValue_integer fits delimits fuel depth
      | string depth value =>
          rw [compactText, quoted_append, readValue_quote, readCharacters_flatMap_escape,
            Except.map, String.ofList_toList]
      | @array depth items each =>
          cases items with
          | nil => rfl
          | cons item items =>
              simp only [compactText, List.cons_append, List.length_cons,
                List.length_append] at enough
              have read := readItems_compactItems fuel depth item items rest each (by omega)
              obtain ⟨more, written⟩ := exists_compactItems item items
              obtain ⟨first, others, item_written, begins⟩ :=
                (each item List.mem_cons_self).exists_begins
              rw [written, item_written] at read
              rw [compactText, written, item_written]
              simp only [List.cons_append, List.append_assoc, List.nil_append] at read ⊢
              rw [readValue_bracket begins, read]
              rfl
      | @object depth members ascending each =>
          cases members with
          | nil => rfl
          | cons member members =>
              obtain ⟨name, value⟩ := member
              simp only [compactText, List.cons_append, List.length_cons,
                List.length_append] at enough
              have read := readMembers_compactMembers fuel depth name value members rest each
                (by omega)
              obtain ⟨more, written⟩ := exists_compactMembers name value members
              rw [written] at read
              rw [compactText, written]
              simp only [List.cons_append, List.append_assoc, List.nil_append] at read ⊢
              rw [readValue_brace, read, Except.map, ofMembers, ascending.ofList_eq]

theorem readItems_compactItems : ∀ (fuel depth : Nat) (item : Document)
    (items : List Document) (rest : List Char),
    (∀ each, each ∈ item :: items → Writable depth each) →
      2 * (compactItems (item :: items)).length + 1 < fuel →
        readItems fuel depth (compactItems (item :: items) ++ ']' :: rest) =
          .ok (item :: items, rest)
  | 0, _, _, _, _, _, enough => absurd enough (Nat.not_lt_zero _)
  | fuel + 1, depth, item, items, rest, each, enough => by
      obtain ⟨first, others⟩ := List.forall_mem_cons.mp each
      cases items with
      | nil =>
          apply readItems_last
          apply readValue_compactText fuel depth item _ first (.bracket rest)
          simp only [compactItems] at enough
          omega
      | cons second items =>
          rw [compactItems_cons_cons, List.length_append, List.length_cons] at enough
          rw [compactItems_cons_cons, List.append_assoc]
          apply readItems_more
          · exact readValue_compactText fuel depth item _ first (.comma _) (by omega)
          · exact readItems_compactItems fuel depth second items rest others (by omega)

theorem readMembers_compactMembers : ∀ (fuel depth : Nat) (name : String) (value : Document)
    (members : List (String × Document)) (rest : List Char),
    (∀ other each, (other, each) ∈ (name, value) :: members → Writable depth each) →
      2 * (compactMembers ((name, value) :: members)).length + 1 < fuel →
        readMembers fuel depth (compactMembers ((name, value) :: members) ++ '\x7d' :: rest) =
          .ok ((name, value) :: members, rest)
  | 0, _, _, _, _, _, _, enough => absurd enough (Nat.not_lt_zero _)
  | fuel + 1, depth, name, value, members, rest, each, enough => by
      have first := each name value List.mem_cons_self
      cases members with
      | nil =>
          simp only [compactMembers, List.length_append, List.length_cons] at enough
          rw [compactMembers, List.append_assoc]
          apply readMembers_last
          exact readValue_compactText fuel depth value _ first (.brace rest) (by omega)
      | cons second members =>
          obtain ⟨next, following⟩ := second
          have others : ∀ other each, (other, each) ∈ (next, following) :: members →
              Writable depth each :=
            fun other value later => each other value (List.mem_cons_of_mem _ later)
          simp only [compactMembers_cons_cons, List.length_append, List.length_cons] at enough
          rw [compactMembers_cons_cons, List.append_assoc, List.append_assoc]
          apply readMembers_more
          · exact readValue_compactText fuel depth value _ first (.comma _) (by omega)
          · exact readMembers_compactMembers fuel depth next following members rest others
              (by omega)

end

/-- Compact text of a document is read as that document. -/
theorem read_compact {document : Document} (writable : Writable nestingLimit document) :
    read document.compact = .ok document := by
  have value_read := readValue_compactText (2 * (compactText document).length + 2) nestingLimit
    document [] writable .nil (by omega)
  rw [List.append_nil] at value_read
  rw [read, compact, String.toList_ofList, readNested, value_read]
  rfl

end Document

end StatesLanguage
