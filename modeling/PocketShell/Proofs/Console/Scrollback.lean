import PocketShell.Proofs.Console.Calls
import PocketShell.Proofs.Console.Ring
import PocketShell.Proofs.Session.Effects
import PocketShell.Proofs.Stream.Output

/-!
# The scrollback and its log

A log keeps every line that is shown until the screen is cleared, without bound,
and knows of no editing.  The scrollback of a console is always the tail of the
log of the lines submitted so far.  One submitted line may show more lines than
the scrollback holds; then the scrollback is the tail of what that line showed.
-/

namespace PocketShell

/-- A session with all lines that were shown since the screen was last cleared. -/
structure Log where
  session : Session
  lines : List Line

namespace Log

/-- The log of a new session, which begins with the lines of the banner if there is one. -/
def start (banner : Bool) : Log where
  session := .new
  lines :=
    if banner then
      Wording.welcome.map fun content => if content = "" then .empty else .text content
    else []

/-- The log after a submitted line: empty if the line asks for that, or else with the line behind
the prompt as it was before, and with the lines of the reply. -/
def submit (log : Log) (clock : Clock) (line : String) : Log :=
  let (session, reply) := log.session.execute clock line
  if Command.ofLine? line = some .clear then ⟨session, []⟩
  else ⟨session, log.lines ++ .command log.session.prompt (Text.trim line) :: reply.lines⟩

def submitAll (log : Log) : List (Clock × String) → Log
  | [] => log
  | (clock, line) :: rest => (log.submit clock line).submitAll rest

theorem session_submit (log : Log) (clock : Clock) (line : String) :
    (log.submit clock line).session = (log.session.execute clock line).1 := by
  simp only [submit]
  split <;> rfl

end Log

namespace Console

/-- A console whose session is that of the log, and whose scrollback is the tail of it. -/
structure KeepsLog (console : Console) (log : Log) : Prop where
  session_eq : console.session = log.session
  holdsTail : console.scrollback.HoldsTail log.lines
  capacity_eq : console.scrollback.capacity = scrollbackCapacity

variable {console : Console} {log : Log}

theorem keepsLog_start (banner : Bool) : (start banner).KeepsLog (.start banner) where
  session_eq := rfl
  holdsTail := (Ring.holdsTail_empty scrollbackCapacity (by decide)).extend (openingLines banner)
  capacity_eq := Ring.capacity_extend _ _

theorem KeepsLog.submit (keeps : console.KeepsLog log) (clock : Clock) (line : String) :
    (console.submit clock line).1.KeepsLog (log.submit clock line) := by
  have sessionEq := keeps.session_eq
  have clears := Session.clearsScreen_execute clock console.session line
  by_cases isClear : Command.ofLine? line = some .clear
  · have cleared : (console.submit clock line).1.scrollback = console.scrollback.clear := by
      simp only [Console.submit, clears.mpr isClear, if_true]
    have emptied : (log.submit clock line).lines = [] := by
      simp only [Log.submit, if_pos isClear]
    refine ⟨?_, ?_, ?_⟩
    · rw [Log.session_submit, ← sessionEq]
      rfl
    · rw [cleared, emptied]
      exact Ring.holdsTail_clear _
    · rw [cleared, Ring.capacity_clear, keeps.capacity_eq]
  · have pushed : (console.submit clock line).1.scrollback =
        (console.scrollback.push (.command console.session.prompt (Text.trim line))).extend
          (console.session.execute clock line).2.lines := by
      simp only [Console.submit, if_neg (clears.not.mpr isClear)]
    have appended : (log.submit clock line).lines =
        log.lines ++ [.command console.session.prompt (Text.trim line)] ++
          (console.session.execute clock line).2.lines := by
      simp only [Log.submit, if_neg isClear, ← sessionEq, List.append_assoc,
        List.singleton_append]
    refine ⟨?_, ?_, ?_⟩
    · rw [Log.session_submit, ← sessionEq]
      rfl
    · rw [pushed, appended]
      exact (keeps.holdsTail.push _).extend _
    · rw [pushed, Ring.capacity_extend, Ring.capacity_push, keeps.capacity_eq]

theorem KeepsLog.of_eq {other : Console} (keeps : console.KeepsLog log)
    (session : other.session = console.session)
    (scrollback : other.scrollback = console.scrollback) : other.KeepsLog log where
  session_eq := session.trans keeps.session_eq
  holdsTail := scrollback ▸ keeps.holdsTail
  capacity_eq := scrollback ▸ keeps.capacity_eq

theorem KeepsLog.performAll (keeps : console.KeepsLog log) (calls : List Call) :
    (console.performAll calls).1.KeepsLog (log.submitAll (console.submissions calls)) := by
  induction calls generalizing console log with
  | nil => exact keeps
  | cons call rest ih =>
      simp only [Console.performAll]
      cases submits : console.submission? call with
      | none =>
          obtain ⟨session, scrollback⟩ := perform_of_no_submission submits
          rw [submissions_cons_of_no_submission submits]
          exact ih (keeps.of_eq session scrollback)
      | some submitted =>
          obtain ⟨clock, line⟩ := submitted
          obtain ⟨session, scrollback⟩ := perform_of_submission submits
          rw [submissions_cons_of_submission submits, Log.submitAll]
          exact ih ((keeps.submit clock line).of_eq session scrollback)

theorem KeepsLog.toList_eq (keeps : console.KeepsLog log) :
    console.scrollback.toList =
      log.lines.drop (log.lines.length - min 1000 log.lines.length) := by
  have sameStart : log.lines.length - scrollbackCapacity =
      log.lines.length - min 1000 log.lines.length := by
    rw [scrollbackCapacity]
    omega
  rw [keeps.holdsTail, keeps.capacity_eq, List.rtake, sameStart]

/-- After any calls the scrollback is the last 1000 lines of the log of the submitted lines, or
all of them, and the session is the one that a batch of the submitted lines returns, by whatever
clocks and in whatever form it writes. -/
theorem scrollback_eq_tail_of_log (banner : Bool) (calls : List Call) :
    let console := ((start banner).performAll calls).1
    let submitted := (start banner).submissions calls
    let log := ((Log.start banner).submitAll submitted).lines
    console.scrollback.toList = log.drop (log.length - min 1000 log.length) ∧
      ∀ clocks form,
        (Batch.runTimed clocks form .unbounded (submitted.map Prod.snd)).2 =
          .ok console.session := by
  intro console submitted log
  have keeps : console.KeepsLog ((Log.start banner).submitAll submitted) :=
    (keepsLog_start banner).performAll calls
  refine ⟨keeps.toList_eq, ?_⟩
  intro clocks form
  have executed : console.session =
      (Session.new.executeTimed clocks (submitted.map Prod.snd)).1 :=
    session_performAll clocks (start banner) calls
  rw [Batch.runTimed_unbounded, executed]

end Console

end PocketShell
