import PocketShell.Proofs.Stream.Records

/-!
# Sinks with a limit

A sink with a limit takes the beginning of what a sink without one would take, up
to exactly its limit, and wherever the cut falls the batch fails there.  How it
fails depends on what is cut: inside of a record it is the encoding that fails,
and anywhere else, the line feed behind a record included, it is the writing.
-/

namespace PocketShell

theorem extract_zero_of_size_le {bytes : ByteArray} {room : Nat} (fits : bytes.size ≤ room) :
    bytes.extract 0 room = bytes := by
  apply ByteArray.ext
  rw [ByteArray.data_extract]
  exact Array.extract_eq_self_of_le fits

namespace WriteFailure

/-- The failure to write the text where there is room for fewer bytes. -/
def ifOver (failure : WriteFailure) (text : String) (room : Nat) : Option WriteFailure :=
  if text.utf8ByteSize ≤ room then none else some failure

variable {failure : WriteFailure} {text : String} {room : Nat}

theorem ifOver_eq_none_iff : failure.ifOver text room = none ↔ text.utf8ByteSize ≤ room := by
  unfold ifOver
  split <;> simp_all

theorem ifOver_of_le (fits : text.utf8ByteSize ≤ room) : failure.ifOver text room = none :=
  if_pos fits

theorem ifOver_of_lt (exceeds : room < text.utf8ByteSize) :
    failure.ifOver text room = some failure :=
  if_neg (Nat.not_le_of_lt exceeds)

/-- What is written in two parts fails at the part that is too much. -/
theorem ifOver_append (failure : WriteFailure) (text later : String) (room : Nat) :
    failure.ifOver (text ++ later) room =
      (failure.ifOver text room).or (failure.ifOver later (room - text.utf8ByteSize)) := by
  by_cases fits : text.utf8ByteSize ≤ room
  · have sameTest : (text ++ later).utf8ByteSize ≤ room ↔
        later.utf8ByteSize ≤ room - text.utf8ByteSize := by
      rw [String.utf8ByteSize_append]
      omega
    rw [ifOver_of_le fits, Option.none_or]
    simp only [ifOver, sameTest]
  · have exceeds : room < text.utf8ByteSize := by omega
    have allOver : room < (text ++ later).utf8ByteSize := by
      rw [String.utf8ByteSize_append]
      omega
    rw [ifOver_of_lt exceeds, ifOver_of_lt allOver, Option.some_or]

end WriteFailure

namespace ReplyForm

section Records

variable {reply : Reply} {replies rest : List Reply} {position : Nat}

theorem utf8ByteSize_text_record (reply : Reply) :
    (record.text reply).utf8ByteSize = reply.record.utf8ByteSize + 1 :=
  String.utf8ByteSize_append

theorem utf8ByteSize_output_record_cons (reply : Reply) (rest : List Reply) :
    (record.output (reply :: rest)).utf8ByteSize =
      reply.record.utf8ByteSize + 1 + (record.output rest).utf8ByteSize := by
  rw [output_cons, String.utf8ByteSize_append, utf8ByteSize_text_record]

theorem bytes_output_record_cons (reply : Reply) (rest : List Reply) :
    Text.bytes (record.output (reply :: rest)) =
      Text.bytes reply.record ++ 10 :: Text.bytes (record.output rest) := by
  rw [output_cons, text, Text.bytes_append, Text.bytes_append, List.append_assoc]
  rfl

/-- Whether a byte of a stream of records stands inside of a record, and not behind it. -/
def InsideRecord (replies : List Reply) (position : Nat) : Prop :=
  ∃ before reply after, replies = before ++ reply :: after ∧
    (record.output before).utf8ByteSize ≤ position ∧
    position < (record.output before).utf8ByteSize + reply.record.utf8ByteSize

theorem not_insideRecord_nil : ¬ InsideRecord [] position := by
  rintro ⟨before, reply, after, split, _⟩
  simp at split

/-- A byte inside of a record stands in the first record, or behind its line feed inside of one of
the others. -/
theorem insideRecord_cons_iff :
    InsideRecord (reply :: rest) position ↔
      position < reply.record.utf8ByteSize ∨
        reply.record.utf8ByteSize + 1 ≤ position ∧
          InsideRecord rest (position - (reply.record.utf8ByteSize + 1)) := by
  constructor
  · rintro ⟨before, cut, after, split, begins, ends⟩
    cases before with
    | nil =>
        obtain ⟨rfl, _⟩ := List.cons.inj split
        left
        simpa [output_nil] using ends
    | cons first before =>
        obtain ⟨rfl, rfl⟩ := List.cons.inj split
        rw [utf8ByteSize_output_record_cons] at begins ends
        right
        refine ⟨by omega, before, cut, after, rfl, ?_, ?_⟩ <;> omega
  · rintro (first | ⟨behind, before, cut, after, rfl, begins, ends⟩)
    · refine ⟨[], reply, rest, rfl, Nat.zero_le _, ?_⟩
      simpa [output_nil] using first
    · have size := utf8ByteSize_output_record_cons reply before
      refine ⟨reply :: before, cut, after, rfl, ?_, ?_⟩ <;> omega

/-- The bytes of a stream of records that stand in no record are its line feeds. -/
theorem insideRecord_iff_ne_lineFeed
    (within : position < (record.output replies).utf8ByteSize) :
    InsideRecord replies position ↔
      (Text.bytes (record.output replies))[position]? ≠ some 10 := by
  induction replies generalizing position with
  | nil => exact absurd within (Nat.not_lt_zero position)
  | cons reply rest ih =>
      have lengthRecord := Text.length_bytes reply.record
      have noLineFeed : 10 ∉ Text.bytes reply.record :=
        (not_congr Text.lineFeed_mem_bytes_iff).mpr reply.record_on_one_line.1
      rw [utf8ByteSize_output_record_cons] at within
      rw [insideRecord_cons_iff, bytes_output_record_cons]
      rcases Nat.lt_trichotomy position reply.record.utf8ByteSize with inside | atEnd | behind
      · rw [List.getElem?_append_left (by omega)]
        exact iff_of_true (.inl inside) fun found => noLineFeed (List.mem_of_getElem? found)
      · have atLineFeed : position - (Text.bytes reply.record).length = 0 := by omega
        rw [List.getElem?_append_right (by omega), atLineFeed, List.getElem?_cons_zero]
        refine iff_of_false ?_ (fun differs => differs rfl)
        omega
      · have behindLineFeed : position - (Text.bytes reply.record).length =
            position - (reply.record.utf8ByteSize + 1) + 1 := by omega
        have notInFirst : ¬ position < reply.record.utf8ByteSize := by omega
        have afterFirst : reply.record.utf8ByteSize + 1 ≤ position := by omega
        rw [List.getElem?_append_right (by omega), behindLineFeed, List.getElem?_cons_succ,
          ← ih (by omega)]
        simp only [notInFirst, afterFirst, false_or, true_and]

end Records

section Failures

variable {form : ReplyForm} {reply : Reply} {replies : List Reply} {room : Nat}

/-- Why a reply is not written to its end where there is room for so many bytes. -/
def failure? : ReplyForm → Reply → Nat → Option WriteFailure
  | .plain, reply, room => WriteFailure.writing.ifOver (plain.text reply) room
  | .record, reply, room =>
      (WriteFailure.encoding.ifOver reply.record room).or
        (WriteFailure.writing.ifOver "\n" (room - reply.record.utf8ByteSize))

/-- Why replies are not written to their end where there is room for so many bytes. -/
def outputFailure? (form : ReplyForm) : List Reply → Nat → Option WriteFailure
  | [], _ => none
  | reply :: rest, room =>
      (form.failure? reply room).or
        (form.outputFailure? rest (room - (form.text reply).utf8ByteSize))

theorem failure?_eq_none_iff :
    form.failure? reply room = none ↔ (form.text reply).utf8ByteSize ≤ room := by
  cases form with
  | plain => exact WriteFailure.ifOver_eq_none_iff
  | record =>
      have lineFeed : "\n".utf8ByteSize = 1 := rfl
      rw [failure?, Option.or_eq_none_iff, WriteFailure.ifOver_eq_none_iff,
        WriteFailure.ifOver_eq_none_iff, utf8ByteSize_text_record, lineFeed]
      omega

theorem outputFailure?_eq_none_iff :
    form.outputFailure? replies room = none ↔ (form.output replies).utf8ByteSize ≤ room := by
  induction replies generalizing room with
  | nil => simp [outputFailure?, output_nil]
  | cons reply rest ih =>
      rw [outputFailure?, Option.or_eq_none_iff, failure?_eq_none_iff, ih, output_cons,
        String.utf8ByteSize_append]
      omega

theorem failure?_eq_encoding_iff :
    form.failure? reply room = some .encoding ↔
      form = .record ∧ room < reply.record.utf8ByteSize := by
  cases form with
  | plain => simp [failure?, WriteFailure.ifOver]
  | record =>
      by_cases fits : reply.record.utf8ByteSize ≤ room
      · simp [failure?, WriteFailure.ifOver, fits]
      · simp [failure?, WriteFailure.ifOver, fits, Nat.lt_of_not_le fits]

/-- It is the encoding that fails exactly where a record is cut. -/
theorem outputFailure?_eq_encoding_iff :
    form.outputFailure? replies room = some .encoding ↔
      form = .record ∧ InsideRecord replies room := by
  induction replies generalizing room with
  | nil => simp [outputFailure?, not_insideRecord_nil]
  | cons reply rest ih =>
      rw [outputFailure?, Option.or_eq_some_iff, failure?_eq_encoding_iff, failure?_eq_none_iff,
        ih, insideRecord_cons_iff]
      cases form with
      | plain => simp
      | record => simp [utf8ByteSize_text_record]

end Failures

end ReplyForm

namespace Sink

/-- The sink after the text was offered to it, which takes as much of it as there is room for. -/
def offered (sink : Sink) (room : Nat) (text : String) : Sink :=
  ⟨sink.taken ++ text.toUTF8.extract 0 room, some (room - text.utf8ByteSize)⟩

/-- Offering a text in two parts is offering it as a whole. -/
theorem offered_offered (sink : Sink) (room : Nat) (text later : String) :
    (sink.offered room text).offered (room - text.utf8ByteSize) later =
      sink.offered room (text ++ later) := by
  have cut : (text ++ later).toUTF8.extract 0 room =
      text.toUTF8.extract 0 room ++ later.toUTF8.extract 0 (room - text.utf8ByteSize) := by
    simp [String.toUTF8_eq_toByteArray, ByteArray.extract_append]
  have left : room - (text ++ later).utf8ByteSize =
      room - text.utf8ByteSize - later.utf8ByteSize := by
    rw [String.utf8ByteSize_append, Nat.sub_add_eq]
  simp only [offered, cut, left, ByteArray.append_assoc]

/-- Behind a text that fills the sink nothing more is taken. -/
theorem offered_append_of_full {room : Nat} {text : String} (full : room ≤ text.utf8ByteSize)
    (sink : Sink) (later : String) :
    sink.offered room (text ++ later) = sink.offered room text := by
  have nothingLeft : room - text.utf8ByteSize = 0 := Nat.sub_eq_zero_of_le full
  rw [← offered_offered, nothingLeft]
  simp [offered, nothingLeft]

variable {sink : Sink} {room : Nat}

theorem offered_empty (limited : sink.room? = some room) : sink.offered room "" = sink := by
  obtain ⟨taken, _⟩ := sink
  obtain rfl := limited
  have nothing : "".toUTF8.extract 0 room = .empty := extract_zero_of_size_le (Nat.zero_le room)
  rw [offered, nothing, ByteArray.append_empty]
  rfl

theorem write_of_room (limited : sink.room? = some room) (text : String) :
    sink.write text = (sink.offered room text, decide (text.utf8ByteSize ≤ room)) := by
  have size : text.toUTF8.size = text.utf8ByteSize := String.size_toByteArray
  rw [write, writeBytes, limited]
  simp only [size]
  by_cases fits : text.utf8ByteSize ≤ room
  · rw [if_pos fits, offered, extract_zero_of_size_le (size ▸ fits), decide_eq_true fits]
  · have noRoom : room - text.utf8ByteSize = 0 := by omega
    rw [if_neg fits, offered, noRoom, decide_eq_false fits]

theorem writeLines_of_room (limited : sink.room? = some room) (lines : List Line) :
    sink.writeLines lines =
      (sink.offered room (String.join (lines.map (·.display ++ "\n"))),
        WriteFailure.writing.ifOver (String.join (lines.map (·.display ++ "\n"))) room) := by
  induction lines generalizing sink room with
  | nil =>
      have nothing : "".utf8ByteSize ≤ room := Nat.zero_le room
      rw [List.map_nil, String.join_nil, offered_empty limited,
        WriteFailure.ifOver_of_le nothing, writeLines]
  | cons line rest ih =>
      rw [writeLines, write_of_room limited, List.map_cons, String.join_cons,
        WriteFailure.ifOver_append]
      by_cases fits : (line.display ++ "\n").utf8ByteSize ≤ room
      · rw [decide_eq_true fits, WriteFailure.ifOver_of_le fits, Option.none_or]
        simp only
        rw [ih rfl, offered_offered]
      · have exceeds : room < (line.display ++ "\n").utf8ByteSize := by omega
        rw [decide_eq_false fits, WriteFailure.ifOver_of_lt exceeds, Option.some_or,
          offered_append_of_full exceeds.le]

theorem writeRecord_of_room (limited : sink.room? = some room) (reply : Reply) :
    sink.writeRecord reply =
      (sink.offered room (reply.record ++ "\n"), ReplyForm.record.failure? reply room) := by
  rw [writeRecord, write_of_room limited, ReplyForm.failure?]
  by_cases fits : reply.record.utf8ByteSize ≤ room
  · rw [decide_eq_true fits, WriteFailure.ifOver_of_le fits, Option.none_or]
    simp only
    rw [write_of_room rfl, offered_offered]
    by_cases endFits : "\n".utf8ByteSize ≤ room - reply.record.utf8ByteSize
    · rw [decide_eq_true endFits, WriteFailure.ifOver_of_le endFits]
    · rw [decide_eq_false endFits, WriteFailure.ifOver_of_lt (Nat.lt_of_not_le endFits)]
  · have exceeds : room < reply.record.utf8ByteSize := by omega
    rw [decide_eq_false fits, WriteFailure.ifOver_of_lt exceeds, Option.some_or,
      offered_append_of_full exceeds.le]

theorem writeReply_of_room (limited : sink.room? = some room) (form : ReplyForm)
    (reply : Reply) :
    sink.writeReply form reply =
      (sink.offered room (form.text reply), form.failure? reply room) := by
  cases form with
  | plain => exact writeLines_of_room limited reply.lines
  | record => exact writeRecord_of_room limited reply

end Sink

namespace Batch

/-- A batch offers the replies to all lines to its sink, and fails where they do not fit. -/
theorem runFrom_of_room {sink : Sink} {room : Nat} (limited : sink.room? = some room)
    (form : ReplyForm) (clocks : Nat → Clock) (session : Session) (lines : List String) :
    runFrom form clocks session sink lines =
      (sink.offered room (form.output (session.executeTimed clocks lines).2),
        match form.outputFailure? (session.executeTimed clocks lines).2 room with
        | none => .ok (session.executeTimed clocks lines).1
        | some failure => .error failure) := by
  induction lines generalizing clocks session sink room with
  | nil =>
      rw [runFrom, Session.executeTimed, ReplyForm.output_nil, Sink.offered_empty limited]
      rfl
  | cons line rest ih =>
      simp only [runFrom, Sink.writeReply_of_room limited, Session.executeTimed,
        ReplyForm.output_cons, ReplyForm.outputFailure?]
      generalize session.execute (clocks 0) line = executed
      cases stops : form.failure? executed.2 room with
      | none =>
          simp only [Option.none_or]
          rw [ih rfl, Sink.offered_offered]
      | some failure =>
          have exceeds : ¬ (form.text executed.2).utf8ByteSize ≤ room := by
            rw [← ReplyForm.failure?_eq_none_iff, stops]
            simp
          simp only [Option.some_or]
          rw [Sink.offered_append_of_full (by omega)]

/-- Whatever the limit of a sink, a batch behaves by the whole output that an unbounded sink would
have taken.  If it fits, the batch succeeds with all of it.  If not, the batch fails, the sink has
taken as many of its first bytes as it could, and it is the encoding that fails exactly if the
first byte refused stands inside of a record, which then is a byte other than a line feed. -/
theorem runTimed_limited (clocks : Nat → Clock) (form : ReplyForm) (limit : Nat)
    (lines : List String) :
    let executed := Session.new.executeTimed clocks lines
    let whole := (runTimed clocks form .unbounded lines).1.taken
    let cut := runTimed clocks form (.limited limit) lines
    whole = (form.output executed.2).toUTF8 ∧
      (whole.size ≤ limit → cut.1.taken = whole ∧ cut.2 = .ok executed.1) ∧
      (limit < whole.size →
        cut.1.taken = whole.extract 0 limit ∧
          ∃ failure, cut.2 = .error failure ∧
            (failure = .encoding ↔ form = .record ∧ ReplyForm.InsideRecord executed.2 limit) ∧
            (form = .record →
              (ReplyForm.InsideRecord executed.2 limit ↔ whole.data.toList[limit]? ≠ some 10))) := by
  intro executed whole cut
  have wholeEq : whole = (form.output executed.2).toUTF8 := taken_unbounded clocks form lines
  have size : whole.size = (form.output executed.2).utf8ByteSize := by
    rw [wholeEq]
    exact String.size_toByteArray
  have ran : cut = (Sink.offered (.limited limit) limit (form.output executed.2),
      match form.outputFailure? executed.2 limit with
      | none => .ok executed.1
      | some failure => .error failure) := runFrom_of_room rfl form clocks .new lines
  have taken : cut.1.taken = whole.extract 0 limit := by
    rw [ran, wholeEq]
    exact ByteArray.empty_append
  refine ⟨wholeEq, ?_, ?_⟩
  · intro fits
    have noFailure := ReplyForm.outputFailure?_eq_none_iff.mpr (size ▸ fits)
    rw [taken, extract_zero_of_size_le fits, ran, noFailure]
    exact ⟨rfl, rfl⟩
  · intro exceeds
    refine ⟨taken, ?_⟩
    cases stops : form.outputFailure? executed.2 limit with
    | none =>
        have fits := ReplyForm.outputFailure?_eq_none_iff.mp stops
        omega
    | some failure =>
        refine ⟨failure, ?_, ?_, ?_⟩
        · rw [ran, stops]
        · rw [← ReplyForm.outputFailure?_eq_encoding_iff, stops, Option.some.injEq]
        · rintro rfl
          rw [wholeEq]
          exact ReplyForm.insideRecord_iff_ne_lineFeed (size ▸ exceeds)

end Batch

end PocketShell
