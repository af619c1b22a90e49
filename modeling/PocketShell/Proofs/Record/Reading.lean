import PocketShell.Proofs.Record.Token
import PocketShell.Reply

/-!
# Reading a record

A record is read in two steps, first its tokens and then the reply that they
make.  Tag and text of a line tell which line it was, unless it is a line that
was typed behind the prompt: of that the record does not tell where the prompt
ends.  Every reply without such a line is read back from its record.
-/

namespace PocketShell

/-- The name of an entry of the kind in the text that shows it. -/
def EntryKind.nameIn? (kind : EntryKind) (shown : String) : Option String :=
  let front := (kind.marker ++ " ").toList
  if front.isPrefixOf shown.toList then some (String.ofList (shown.toList.drop front.length))
  else none

theorem EntryKind.nameIn?_display (kind : EntryKind) (name : String) :
    kind.nameIn? (Line.entry kind name).display = some name := by
  have shown : (Line.entry kind name).display.toList =
      (kind.marker ++ " ").toList ++ name.toList := by
    simp [Line.display]
  have begins : (kind.marker ++ " ").toList.isPrefixOf (Line.entry kind name).display.toList := by
    rw [shown, List.isPrefixOf_iff_prefix]
    exact List.prefix_append _ _
  rw [nameIn?, if_pos begins, shown, List.drop_left, String.ofList_toList]

namespace Line

def isTyped : Line → Bool
  | .command _ _ => true
  | _ => false

/-- The line of the tag that shows the text. -/
def ofTag? (tag shown : String) : Option Line :=
  if tag = "text" then some (.text shown)
  else if tag = "error" then some (.error shown)
  else if tag = "empty" then if shown = "" then some .empty else none
  else if tag = "dir" then (EntryKind.nameIn? .directory shown).map (.entry .directory ·)
  else if tag = "file" then (EntryKind.nameIn? .file shown).map (.entry .file ·)
  else none

theorem ofTag?_tag_display {line : Line} (notTyped : line.isTyped = false) :
    ofTag? line.tag line.display = some line := by
  cases line with
  | command prompt input => contradiction
  | text content => rfl
  | error message => rfl
  | empty => rfl
  | entry kind name =>
      have read := kind.nameIn?_display name
      cases kind <;> simp [ofTag?, tag, read]

def tokens (line : Line) : List Token :=
  [.openBrace, .quoted "kind", .colon, .quoted line.tag, .comma, .quoted "text", .colon,
    .quoted line.display, .closeBrace]

theorem toList_record (line : Line) : line.record.toList = line.tokens.flatMap Token.chars := by
  have kindKey : (Text.quote "kind").toList = "\"kind\"".toList := by decide
  have textKey : (Text.quote "text").toList = "\"text\"".toList := by decide
  simp [record, tokens, Token.chars, kindKey, textKey]

/-- The tokens of the records of the lines, with a comma between any two. -/
def listTokens : List Line → List Token
  | [] => []
  | line :: rest => line.tokens ++ rest.flatMap fun next => .comma :: next.tokens

theorem toList_intercalate_records (lines : List Line) :
    (",".intercalate (lines.map record)).toList = (listTokens lines).flatMap Token.chars := by
  cases lines with
  | nil => rfl
  | cons line rest =>
      -- The induction is on the lines behind the first, each of which has a comma before it.
      induction rest generalizing line with
      | nil => simp [listTokens, toList_record]
      | cons next later ih =>
          have following := ih next
          rw [List.map_cons] at following
          rw [List.map_cons, List.map_cons, String.intercalate_cons_cons, String.toList_append,
            String.toList_append, following, toList_record]
          simp [listTokens, Token.chars]

/-- The lines behind their commas, up to the bracket that closes the list. -/
def readList? : List Token → Option (List Line × List Token)
  | .closeBracket :: rest => some ([], rest)
  | .comma :: .openBrace :: .quoted kindKey :: .colon :: .quoted tag :: .comma ::
      .quoted textKey :: .colon :: .quoted shown :: .closeBrace :: rest =>
      if kindKey = "kind" ∧ textKey = "text" then
        (ofTag? tag shown).bind fun line =>
          (readList? rest).map fun read => (line :: read.1, read.2)
      else none
  | _ => none

theorem readList?_comma_tokens {line : Line} (notTyped : line.isTyped = false)
    (rest : List Token) :
    readList? (.comma :: (line.tokens ++ rest)) =
      (readList? rest).map fun read => (line :: read.1, read.2) := by
  simp only [tokens, List.cons_append, List.nil_append, readList?, and_self, if_true,
    ofTag?_tag_display notTyped, Option.bind_some]

theorem readList?_flatMap_tokens {lines : List Line}
    (noneTyped : ∀ line ∈ lines, line.isTyped = false) (rest : List Token) :
    readList? ((lines.flatMap fun line => .comma :: line.tokens) ++ .closeBracket :: rest) =
      some (lines, rest) := by
  induction lines with
  | nil => rw [List.flatMap_nil, List.nil_append, readList?]
  | cons line later ih =>
      have notTyped : line.isTyped = false := noneTyped line (by simp)
      have following := ih fun other mem => noneTyped other (by simp [mem])
      rw [List.flatMap_cons, List.cons_append, List.cons_append, List.append_assoc,
        readList?_comma_tokens notTyped, following, Option.map_some]

end Line

namespace Reply

def tokens (reply : Reply) : List Token :=
  [.openBrace, .quoted "output", .colon, .openBracket] ++ Line.listTokens reply.lines ++
    [.closeBracket, .comma, .quoted "clear_screen", .colon, .flag reply.clearsScreen, .closeBrace]

theorem toList_record (reply : Reply) :
    reply.record.toList = reply.tokens.flatMap Token.chars := by
  have outputKey : (Text.quote "output").toList = "\"output\"".toList := by decide
  have clearKey : (Text.quote "clear_screen").toList = "\"clear_screen\"".toList := by decide
  have flag : (if reply.clearsScreen then "true" else "false").toList =
      (Token.flag reply.clearsScreen).chars := by
    cases reply.clearsScreen <;> rfl
  simp only [record, String.toList_append, Line.toList_intercalate_records, flag]
  simp [tokens, Token.chars, outputKey, clearKey]

/-- The reply that the tokens make.  A comma is put before the first line, so that every line has
one. -/
def ofTokens? : List Token → Option Reply
  | .openBrace :: .quoted outputKey :: .colon :: .openBracket :: listed =>
      match Line.readList? (if listed.head? = some .closeBracket then listed
        else .comma :: listed) with
      | some (lines, [.comma, .quoted clearKey, .colon, .flag clears, .closeBrace]) =>
          if outputKey = "output" ∧ clearKey = "clear_screen" then some ⟨lines, clears⟩ else none
      | _ => none
  | _ => none

/-- The reply that a record was written for. -/
def ofRecord? (record : String) : Option Reply :=
  (Token.read? record.toList).bind ofTokens?

theorem ofTokens?_tokens {reply : Reply} (noneTyped : ∀ line ∈ reply.lines, line.isTyped = false) :
    ofTokens? reply.tokens = some reply := by
  obtain ⟨lines, clears⟩ := reply
  let closing : List Token := [.comma, .quoted "clear_screen", .colon, .flag clears, .closeBrace]
  have listed : Line.readList? (if (Line.listTokens lines ++ .closeBracket :: closing).head? =
        some .closeBracket then Line.listTokens lines ++ .closeBracket :: closing
      else .comma :: (Line.listTokens lines ++ .closeBracket :: closing)) =
      some (lines, closing) := by
    cases lines with
    | nil => rfl
    | cons line rest =>
        have readAll := Line.readList?_flatMap_tokens noneTyped closing
        rw [List.flatMap_cons, List.cons_append] at readAll
        rw [if_neg (by simp [Line.listTokens, Line.tokens])]
        exact readAll
  simp only [tokens, List.cons_append, List.nil_append, ofTokens?]
  rw [listed]
  rfl

/-- A reply is read back from its record unless a line of it was typed behind the prompt. -/
theorem ofRecord?_record {reply : Reply} (noneTyped : ∀ line ∈ reply.lines, line.isTyped = false) :
    ofRecord? reply.record = some reply := by
  rw [ofRecord?, toList_record, Token.read?_flatMap_chars, Option.bind_some,
    ofTokens?_tokens noneTyped]

theorem not_control_of_mem_record {reply : Reply} {char : Char}
    (mem : char ∈ reply.record.toList) : 0x20 ≤ char.toNat := by
  rw [toList_record, List.mem_flatMap] at mem
  obtain ⟨token, _, mem⟩ := mem
  have plain : Token.isPlain char = true := List.all_eq_true.mp token.all_isPlain_chars char mem
  rwa [Token.isPlain, decide_eq_true_eq] at plain

end Reply

end PocketShell
