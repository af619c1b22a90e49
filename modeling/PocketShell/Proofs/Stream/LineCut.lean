import PocketShell.Proofs.Stream.Input
import PocketShell.Stream.Batch
import Mathlib.Data.List.ReduceOption
import Mathlib.Data.List.TakeWhile
import Mathlib.Logic.ExistsUnique

/-!
# Lines of any bytes

There is one way to cut bytes after every line feed.  The lines that are read are the
parts up to the first that is not UTF-8, each without its line feed and without one
carriage return directly before that.  Both marks are encoded in one byte, so a part
is UTF-8 exactly if it is without them.  What comes after a part that is not UTF-8 is
not read, and so not executed.
-/

namespace PocketShell

namespace Text

/-- The text that bytes encode. -/
def ofBytes? (bytes : List UInt8) : Option String :=
  String.fromUTF8? bytes.toByteArray

theorem ofBytes?_bytes (text : String) : ofBytes? (bytes text) = some text :=
  fromUTF8?_bytes text

theorem bytes_of_ofBytes? {encoded : List UInt8} {text : String}
    (decoded : ofBytes? encoded = some text) : bytes text = encoded := by
  unfold ofBytes? String.fromUTF8? at decoded
  split_ifs at decoded with valid
  cases decoded
  change encoded.toByteArray.data.toList = encoded
  exact List.toList_data_toByteArray

/-- A mark of one byte at the end does not matter for whether bytes are UTF-8. -/
theorem ofBytes?_concat {mark : Char} {byte : UInt8} (ascii : byte.toNat < 128)
    (same : mark.toNat = byte.toNat) (front : List UInt8) :
    ofBytes? (front ++ [byte]) = (ofBytes? front).map (· ++ String.singleton mark) := by
  cases decoded : ofBytes? front with
  | some text =>
      rw [Option.map_some, ← bytes_of_ofBytes? decoded, ← bytes_append_mark ascii same,
        ofBytes?_bytes]
  | none =>
      rw [Option.map_none, Option.eq_none_iff_forall_ne_some]
      intro text whole
      obtain ⟨before, -, encoded⟩ :=
        exists_of_bytes_eq_concat ascii same (bytes_of_ofBytes? whole)
      rw [← encoded, ofBytes?_bytes] at decoded
      contradiction

/-- Without the return at its end, a line of bytes is UTF-8 exactly if it was before. -/
theorem ofBytes?_line (content : List UInt8) :
    ofBytes? (Piece.line 13 ⟨content, true⟩) = (ofBytes? content).map withoutReturn := by
  cases decoded : ofBytes? content with
  | some text => rw [← bytes_of_ofBytes? decoded, line_bytes, ofBytes?_bytes, Option.map_some]
  | none =>
      rw [Option.map_none, Piece.line]
      split_ifs with returns
      · obtain ⟨front, rfl⟩ := List.getLast?_eq_some_iff.mp returns.2
        have same : '\r'.toNat = (13 : UInt8).toNat := rfl
        have undecoded := ofBytes?_concat (by decide) same front
        rw [decoded, eq_comm, Option.map_eq_none_iff] at undecoded
        rwa [List.dropLast_concat]
      · exact decoded

/-- A line without its line feed, and without one return directly before that. -/
def withoutEnding (text : String) : String :=
  if text.toList.getLast? = some '\n' then withoutReturn (String.ofList text.toList.dropLast)
  else text

theorem withoutEnding_append_lineFeed (text : String) :
    withoutEnding (text ++ String.singleton '\n') = withoutReturn text := by
  rw [withoutEnding, String.toList_append, String.toList_singleton,
    if_pos List.getLast?_concat, List.dropLast_concat, String.ofList_toList]

theorem withoutEnding_of_noLineFeed {text : String} (noLineFeed : '\n' ∉ text.toList) :
    withoutEnding text = text :=
  if_neg fun ends => noLineFeed (List.mem_of_getLast? ends)

end Text

namespace Input

/-- The bytes cut after every line feed, where nothing follows the last cut unless some bytes do. -/
inductive CutAtLineFeeds : List UInt8 → List (List UInt8) → Prop
  | nothing : CutAtLineFeeds [] []
  | unended {bytes : List UInt8} (notEmpty : bytes ≠ []) (noLineFeed : 10 ∉ bytes) :
      CutAtLineFeeds bytes [bytes]
  | line {content rest : List UInt8} {parts : List (List UInt8)} (noLineFeed : 10 ∉ content)
      (later : CutAtLineFeeds rest parts) :
      CutAtLineFeeds (content ++ 10 :: rest) ((content ++ [10]) :: parts)

theorem exists_cutAtLineFeeds (bytes : List UInt8) : ∃ parts, CutAtLineFeeds bytes parts := by
  induction bytes using Text.pieces.induct (10 : UInt8) with
  | case1 => exact ⟨[], .nothing⟩
  | case2 item rest unmarked =>
      refine ⟨[item :: rest], .unended (List.cons_ne_nil _ _) fun lineFeed => ?_⟩
      exact absurd (List.dropWhile_eq_nil_iff.mp unmarked 10 lineFeed) (by decide)
  | case3 item rest mark later cut ih =>
      obtain ⟨parts, laterCut⟩ := ih
      have isLineFeed : mark = 10 := by
        have stops := List.head?_dropWhile_not (fun byte => decide (byte ≠ 10)) (item :: rest)
        rw [cut] at stops
        simpa using stops
      rw [← List.takeWhile_append_dropWhile (p := (· ≠ 10)) (l := item :: rest), cut, isLineFeed]
      refine ⟨_, .line (fun lineFeed => ?_) laterCut⟩
      exact absurd (List.mem_takeWhile_imp lineFeed) (by decide)

theorem CutAtLineFeeds.pieces_eq {bytes : List UInt8} {parts : List (List UInt8)}
    (cut : CutAtLineFeeds bytes parts) :
    parts = (Text.pieces 10 bytes).map fun piece =>
      if piece.ended then piece.content ++ [10] else piece.content := by
  induction cut with
  | nothing => rw [Text.pieces_nil, List.map_nil]
  | unended notEmpty noLineFeed => rw [Text.pieces_of_not_mem noLineFeed notEmpty]; rfl
  | line noLineFeed later ih =>
      rw [Text.pieces_append_cons noLineFeed, List.map_cons, ← ih]
      rfl

theorem existsUnique_cutAtLineFeeds (bytes : List UInt8) :
    ∃! parts, CutAtLineFeeds bytes parts := by
  obtain ⟨parts, cut⟩ := exists_cutAtLineFeeds bytes
  exact ⟨parts, cut, fun others otherCut => otherCut.pieces_eq.trans cut.pieces_eq.symm⟩

/-- The texts of the parts up to the first that is not UTF-8. -/
def textsOf (parts : List (List UInt8)) : List String :=
  ((parts.map Text.ofBytes?).takeWhile Option.isSome).reduceOption

theorem textsOf_cons_of_some {part : List UInt8} {text : String}
    (decoded : Text.ofBytes? part = some text) (later : List (List UInt8)) :
    textsOf (part :: later) = text :: textsOf later := by
  simp [textsOf, decoded]

theorem textsOf_cons_of_none {part : List UInt8} (undecoded : Text.ofBytes? part = none)
    (later : List (List UInt8)) : textsOf (part :: later) = [] := by
  simp [textsOf, undecoded]

theorem decodeLines_cons (bytes : List UInt8) (later : List (List UInt8)) :
    decodeLines (bytes :: later) =
      match Text.ofBytes? bytes with
      | some text => text :: decodeLines later
      | none => [] :=
  rfl

/-- The lines are the texts of the parts, each without its ending. -/
theorem CutAtLineFeeds.lines_eq {bytes : List UInt8} {parts : List (List UInt8)}
    (cut : CutAtLineFeeds bytes parts) : lines bytes = (textsOf parts).map Text.withoutEnding := by
  induction cut with
  | nothing => rw [lines, Text.pieces_nil]; rfl
  | @unended bytes notEmpty noLineFeed =>
      rw [lines, Text.pieces_of_not_mem noLineFeed notEmpty, List.map_singleton, decodeLines_cons]
      have wholeLine : Text.Piece.line 13 ⟨bytes, false⟩ = bytes := rfl
      rw [wholeLine]
      cases decoded : Text.ofBytes? bytes with
      | none => rw [textsOf_cons_of_none decoded, List.map_nil]
      | some text =>
          rw [← Text.bytes_of_ofBytes? decoded, Text.lineFeed_mem_bytes_iff] at noLineFeed
          rw [textsOf_cons_of_some decoded, List.map_cons,
            Text.withoutEnding_of_noLineFeed noLineFeed]
          rfl
  | @line content rest parts noLineFeed later ih =>
      have same : '\n'.toNat = (10 : UInt8).toNat := rfl
      have wholeEq := Text.ofBytes?_concat (by decide) same content
      rw [lines, Text.pieces_append_cons noLineFeed, List.map_cons, decodeLines_cons,
        Text.ofBytes?_line, ← lines, ih]
      cases decoded : Text.ofBytes? content with
      | none =>
          rw [decoded, Option.map_none] at wholeEq
          rw [textsOf_cons_of_none wholeEq]
          rfl
      | some text =>
          rw [decoded, Option.map_some] at wholeEq
          rw [textsOf_cons_of_some wholeEq, List.map_cons, Text.withoutEnding_append_lineFeed]
          rfl

theorem textsOf_append_of_none {bad : List UInt8} (undecoded : Text.ofBytes? bad = none)
    (good later : List (List UInt8)) : textsOf (good ++ bad :: later) = textsOf good := by
  induction good with
  | nil => exact textsOf_cons_of_none undecoded later
  | cons part rest ih =>
      rw [List.cons_append]
      cases decoded : Text.ofBytes? part with
      | none => rw [textsOf_cons_of_none decoded, textsOf_cons_of_none decoded]
      | some text => rw [textsOf_cons_of_some decoded, textsOf_cons_of_some decoded, ih]

/-- The first parts of a cut are a cut of the bytes in them. -/
theorem CutAtLineFeeds.of_append {bytes : List UInt8} {first later : List (List UInt8)}
    (cut : CutAtLineFeeds bytes (first ++ later)) : CutAtLineFeeds first.flatten first := by
  induction first generalizing bytes with
  | nil => exact .nothing
  | cons part rest ih =>
      rw [List.cons_append] at cut
      generalize joined : rest ++ later = others at cut
      cases cut with
      | unended notEmpty noLineFeed =>
          obtain ⟨rfl, rfl⟩ := List.append_eq_nil_iff.mp joined
          rw [List.flatten_singleton]
          exact .unended notEmpty noLineFeed
      | line noLineFeed restCut =>
          subst joined
          rw [List.flatten_cons, List.append_assoc]
          exact .line noLineFeed (ih restCut)

/-- Lines are read from any bytes as follows.  The bytes are cut after every line feed, in the one
way there is; the parts up to the first that is not UTF-8 are read, each without its line feed and
without one return directly before that.  From such a part on nothing is read and so nothing is
executed: a batch does the same without it.  Texts without line feeds come back as they were
written with a return and a line feed behind each, or with a line feed if none ends with a
return. -/
theorem lines_exact (bytes : List UInt8) :
    (∃! parts, CutAtLineFeeds bytes parts) ∧
    (∀ parts, CutAtLineFeeds bytes parts →
      lines bytes = ((parts.map Text.ofBytes?).takeWhile Option.isSome).reduceOption.map
        Text.withoutEnding) ∧
    (∀ good bad later, CutAtLineFeeds bytes (good ++ bad :: later) → Text.ofBytes? bad = none →
      lines bytes = lines good.flatten ∧
      ∀ clocks form sink, Batch.runTimed clocks form sink (lines bytes) =
        Batch.runTimed clocks form sink (lines good.flatten)) ∧
    ∀ texts : List String, (∀ text ∈ texts, '\n' ∉ text.toList) →
      lines (Text.bytes (String.join (texts.map (· ++ "\r\n")))) = texts ∧
      ((∀ text ∈ texts, text.toList.getLast? ≠ some '\r') →
        lines (Text.bytes (String.join (texts.map (· ++ "\n")))) = texts) := by
  refine ⟨existsUnique_cutAtLineFeeds bytes, fun _ cut => cut.lines_eq, ?_, ?_⟩
  · intro good bad later cut undecoded
    have sameLines : lines bytes = lines good.flatten := by
      rw [cut.lines_eq, cut.of_append.lines_eq, textsOf_append_of_none undecoded]
    exact ⟨sameLines, fun clocks form sink => by rw [sameLines]⟩
  · intro texts noLineFeed
    exact ⟨lines_bytes_join_return noLineFeed, lines_bytes_join noLineFeed⟩

end Input
end PocketShell
