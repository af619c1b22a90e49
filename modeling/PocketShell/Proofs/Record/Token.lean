import PocketShell.Text.Quoted
import Mathlib.Tactic.SplitIfs

/-!
# Tokens of a record

A record is written with marks, flags and quoted texts, and with nothing between
them.  The reader takes the characters one by one and is either outside of
quotation marks or inside of them.  What was written with tokens is read as the
same tokens again, whatever characters the quoted texts have.
-/

namespace PocketShell

/-- What a record is written with. -/
inductive Token where
  | openBrace
  | closeBrace
  | openBracket
  | closeBracket
  | colon
  | comma
  | flag (value : Bool)
  | quoted (text : String)
deriving DecidableEq, Repr

namespace Token

def chars : Token → List Char
  | .openBrace => ['{']
  | .closeBrace => ['}']
  | .openBracket => ['[']
  | .closeBracket => [']']
  | .colon => [':']
  | .comma => [',']
  | .flag true => ['t', 'r', 'u', 'e']
  | .flag false => ['f', 'a', 'l', 's', 'e']
  | .quoted text => (Text.quote text).toList

def hexValue? (digit : Char) : Option Nat :=
  if '0' ≤ digit ∧ digit ≤ '9' then some (digit.toNat - '0'.toNat)
  else if 'a' ≤ digit ∧ digit ≤ 'f' then some (digit.toNat - 'a'.toNat + 10)
  else if 'A' ≤ digit ∧ digit ≤ 'F' then some (digit.toNat - 'A'.toNat + 10)
  else none

/-- The character whose code point has the four hexadecimal digits. -/
def ofHex? (first second third fourth : Char) : Option Char := do
  let code := 4096 * (← hexValue? first) + 256 * (← hexValue? second) +
    16 * (← hexValue? third) + (← hexValue? fourth)
  if code.isValidChar then some (Char.ofNat code) else none

/-- The character that a letter behind a backslash stands for. -/
def ofLetter? : Char → Option Char
  | '"' => some '"'
  | '\\' => some '\\'
  | '/' => some '/'
  | 'b' => some '\x08'
  | 't' => some '\t'
  | 'n' => some '\n'
  | 'f' => some '\x0c'
  | 'r' => some '\r'
  | _ => none

mutual

/-- The tokens in the characters, from outside of quotation marks on. -/
def read? : List Char → Option (List Token)
  | [] => some []
  | '{' :: rest => (read? rest).map (.openBrace :: ·)
  | '}' :: rest => (read? rest).map (.closeBrace :: ·)
  | '[' :: rest => (read? rest).map (.openBracket :: ·)
  | ']' :: rest => (read? rest).map (.closeBracket :: ·)
  | ':' :: rest => (read? rest).map (.colon :: ·)
  | ',' :: rest => (read? rest).map (.comma :: ·)
  | 't' :: 'r' :: 'u' :: 'e' :: rest => (read? rest).map (.flag true :: ·)
  | 'f' :: 'a' :: 'l' :: 's' :: 'e' :: rest => (read? rest).map (.flag false :: ·)
  | '"' :: rest => readQuoted? [] rest
  | _ => none

/-- The tokens from inside of quotation marks on, behind the characters read there already. -/
def readQuoted? : List Char → List Char → Option (List Token)
  | _, [] => none
  | before, '"' :: rest => (read? rest).map (.quoted (String.ofList before) :: ·)
  | before, '\\' :: 'u' :: first :: second :: third :: fourth :: rest =>
      (ofHex? first second third fourth).bind fun char => readQuoted? (before ++ [char]) rest
  | before, '\\' :: letter :: rest =>
      (ofLetter? letter).bind fun char => readQuoted? (before ++ [char]) rest
  | before, char :: rest =>
      if char.toNat < 0x20 then none else readQuoted? (before ++ [char]) rest

end

section Quoted

variable {before rest : List Char} {char letter : Char}

theorem readQuoted?_of_letter (stands : ofLetter? letter = some char) :
    readQuoted? before ('\\' :: letter :: rest) = readQuoted? (before ++ [char]) rest := by
  have notHex : letter ≠ 'u' := by
    rintro rfl
    contradiction
  rw [readQuoted?, stands]
  · rfl
  · exact fun _ _ _ _ _ isHex => absurd isHex notHex

theorem ofHex?_hexPair : ∀ code < 0x20,
    ofHex? '0' '0' (code / 16).digitChar (code % 16).digitChar = some (Char.ofNat code) := by
  decide

theorem readQuoted?_of_control (control : char.toNat < 0x20) :
    readQuoted? before ('\\' :: 'u' :: '0' :: '0' :: (Text.hexPair char.toNat ++ rest)) =
      readQuoted? (before ++ [char]) rest := by
  have read := ofHex?_hexPair char.toNat control
  rw [Char.ofNat_toNat] at read
  simp only [Text.hexPair, List.cons_append, List.nil_append, readQuoted?, read, Option.bind_some]

theorem readQuoted?_of_plain (notQuote : char ≠ '"') (notBackslash : char ≠ '\\')
    (notControl : ¬ char.toNat < 0x20) :
    readQuoted? before (char :: rest) = readQuoted? (before ++ [char]) rest := by
  rw [readQuoted?, if_neg notControl]
  · exact notQuote
  · simp [notBackslash]
  · simp [notBackslash]

end Quoted

/-- Seven characters are written with a letter behind a backslash, the other controls with their
code, and all others as they are. -/
theorem quotedChar_cases (char : Char) :
    (∃ letter ∈ ['"', '\\', 'b', 't', 'n', 'f', 'r'], ofLetter? letter = some char ∧
        Text.quotedChar char = ['\\', letter]) ∨
      (char.toNat < 0x20 ∧
        Text.quotedChar char = '\\' :: 'u' :: '0' :: '0' :: Text.hexPair char.toNat) ∨
      (char ≠ '"' ∧ char ≠ '\\' ∧ ¬ char.toNat < 0x20 ∧ Text.quotedChar char = [char]) := by
  unfold Text.quotedChar
  split_ifs with quote backslash backspace tab lineFeed formFeed carriageReturn control
  · exact .inl ⟨'"', by decide, congrArg some quote.symm, rfl⟩
  · exact .inl ⟨'\\', by decide, congrArg some backslash.symm, rfl⟩
  · exact .inl ⟨'b', by decide, congrArg some backspace.symm, rfl⟩
  · exact .inl ⟨'t', by decide, congrArg some tab.symm, rfl⟩
  · exact .inl ⟨'n', by decide, congrArg some lineFeed.symm, rfl⟩
  · exact .inl ⟨'f', by decide, congrArg some formFeed.symm, rfl⟩
  · exact .inl ⟨'r', by decide, congrArg some carriageReturn.symm, rfl⟩
  · exact .inr (.inl ⟨control, rfl⟩)
  · exact .inr (.inr ⟨quote, backslash, control, rfl⟩)

theorem readQuoted?_quotedChar (before : List Char) (char : Char) (rest : List Char) :
    readQuoted? before (Text.quotedChar char ++ rest) = readQuoted? (before ++ [char]) rest := by
  rcases quotedChar_cases char with
    ⟨letter, _, stands, written⟩ | ⟨control, written⟩ | ⟨notQuote, notBackslash, notControl, written⟩
  · rw [written]
    exact readQuoted?_of_letter stands
  · rw [written]
    exact readQuoted?_of_control control
  · rw [written]
    exact readQuoted?_of_plain notQuote notBackslash notControl

theorem readQuoted?_flatMap_quotedChar (before chars rest : List Char) :
    readQuoted? before (chars.flatMap Text.quotedChar ++ '"' :: rest) =
      (read? rest).map (.quoted (String.ofList (before ++ chars)) :: ·) := by
  induction chars generalizing before with
  | nil => simp only [List.flatMap_nil, List.nil_append, List.append_nil, readQuoted?]
  | cons char later ih =>
      rw [List.flatMap_cons, List.append_assoc, readQuoted?_quotedChar, ih, List.append_assoc,
        List.singleton_append]

theorem read?_chars_append (token : Token) (rest : List Char) :
    read? (token.chars ++ rest) = (read? rest).map (token :: ·) := by
  cases token with
  | quoted text =>
      have written : (Text.quote text).toList ++ rest =
          '"' :: (text.toList.flatMap Text.quotedChar ++ '"' :: rest) := by
        simp [Text.quote]
      rw [chars, written, read?, readQuoted?_flatMap_quotedChar, List.nil_append,
        String.ofList_toList]
  | flag value => cases value <;> rfl
  | _ => rfl

/-- What is written with the tokens is read as the same tokens. -/
theorem read?_flatMap_chars (tokens : List Token) : read? (tokens.flatMap chars) = some tokens := by
  induction tokens with
  | nil => simp only [List.flatMap_nil, read?]
  | cons token rest ih => rw [List.flatMap_cons, read?_chars_append, ih, Option.map_some]

/-- Whether the character is not a control character below U+0020. -/
def isPlain (char : Char) : Bool :=
  0x20 ≤ char.toNat

theorem all_isPlain_quotedChar (char : Char) : (Text.quotedChar char).all isPlain = true := by
  have letters : ['"', '\\', 'b', 't', 'n', 'f', 'r'].all isPlain = true := by decide
  have codes : ∀ code < 0x20,
      ('\\' :: 'u' :: '0' :: '0' :: Text.hexPair code).all isPlain = true := by
    decide
  rcases quotedChar_cases char with
    ⟨letter, isLetter, _, written⟩ | ⟨control, written⟩ | ⟨_, _, notControl, written⟩
  · have letterPlain : isPlain letter = true := List.all_eq_true.mp letters letter isLetter
    rw [written, List.all_cons, List.all_cons, letterPlain]
    rfl
  · rw [written]
    exact codes char.toNat control
  · rw [written, List.all_cons, List.all_nil, Bool.and_true, isPlain, decide_eq_true_eq]
    exact Nat.le_of_not_lt notControl

theorem all_isPlain_chars (token : Token) : token.chars.all isPlain = true := by
  cases token with
  | quoted text =>
      have inside : (text.toList.flatMap Text.quotedChar).all isPlain = true := by
        simp only [List.all_flatMap, all_isPlain_quotedChar, List.all_eq_true, implies_true]
      rw [chars, Text.quote, String.toList_ofList, List.all_cons, List.all_append, inside]
      rfl
  | flag value => cases value <;> rfl
  | _ => rfl

end Token

end PocketShell
