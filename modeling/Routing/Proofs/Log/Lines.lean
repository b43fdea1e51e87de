import Routing.Proofs.Calendar
import Routing.Proofs.Log.Files

/-!
The lines of a log. A line ends where a line feed is, and an entry is written as its message is. So
a file has a line for each entry, and one more for each line feed in a message: what stands behind
it is a line like any other, and can be the line of an entry that nobody has written.

    message            lines
    a                  2024-03-09 12:30:05 --- INFO: a
    a                  2024-03-09 12:30:05 --- INFO: a
    b                  b
-/

namespace Routing

open Files Files.Tree

/-! ### Lines of texts -/

/-- The lines of a text: what stands before each line feed, and what is left behind the last. -/
def linesOf (text : String) : List String :=
  let parts := text.toList.splitOn '\n'
  (if parts.getLast? = some [] then parts.dropLast else parts).map String.ofList

/-- A text in which the last line is ended, too. -/
def Ended (text : String) : Prop := text = "" ∨ ∃ cs, text.toList = cs ++ ['\n']

theorem length_splitOn (c : Char) : ∀ cs : List Char, (cs.splitOn c).length = cs.count c + 1
  | [] => by simp
  | d :: cs => by
    have ih := length_splitOn c cs
    rw [List.splitOn_cons_eq_if_modifyHead, List.count_cons]
    split <;> simp_all

/-- Behind the end of a line the next ones start. -/
theorem linesOf_append {a b : String} (h : Ended a) :
    linesOf (a ++ b) = linesOf a ++ linesOf b := by
  rcases h with rfl | ⟨cs, hcs⟩
  · simp [linesOf]
  · have hparts : a.toList.splitOn '\n' = cs.splitOn '\n' ++ [[]] := by
      rw [hcs, List.splitOn_append_cons_self, List.splitOn_nil]
    have hall : (a ++ b).toList.splitOn '\n' = cs.splitOn '\n' ++ b.toList.splitOn '\n' := by
      rw [String.toList_append, hcs, List.append_assoc]
      exact List.splitOn_append_cons_self cs b.toList
    have hne := List.splitOn_ne_nil '\n' b.toList
    rw [linesOf, linesOf, linesOf, hparts, hall, List.getLast?_append_of_ne_nil _ hne,
      List.dropLast_append_of_ne_nil hne]
    split <;> simp

/-- What is ended by a line feed is cut where it has others. -/
theorem linesOf_ended (text : String) :
    linesOf (text ++ "\n") = (text.toList.splitOn '\n').map String.ofList := by
  have hparts : (text ++ "\n").toList.splitOn '\n' = text.toList.splitOn '\n' ++ [[]] := by
    rw [String.toList_append]
    exact List.splitOn_append_cons_self text.toList []
  rw [linesOf, hparts]
  simp

theorem ended_append (a : String) : Ended (a ++ "\n") := .inr ⟨a.toList, String.toList_append⟩

/-! ### Lines of entries -/

open Decimal in
/-- What stands before a message has no line feed. -/
theorem LogEntry.count_line (e : LogEntry) :
    e.line.toList.count '\n' = e.message.toList.count '\n' := by
  have hdigits : ∀ width n, (padded width n).toList.count '\n' = 0 := fun width n =>
    List.count_eq_zero.2 fun hmem => absurd (isDigit_of_mem_padded hmem) (by decide)
  have hyear : (Date.yearText e.timestamp.date.year).toList.count '\n' = 0 := by
    rw [Date.toList_yearText, List.count_append, hdigits]
    refine List.count_eq_zero.2 fun hmem => ?_
    rcases Date.mem_sign hmem with h | h <;> exact absurd h (by decide)
  have hlabel : e.level.label.toList.count '\n' = 0 := by
    cases e.level <;> decide
  simp [line, Date.text, Timestamp.clockText, Date.monthText, Date.dayText, hdigits, hyear, hlabel]

namespace LogWriter

theorem linesOf_logText : ∀ es : List LogEntry,
    linesOf (logText es) = es.flatMap fun e => (e.line.toList.splitOn '\n').map String.ofList
  | [] => by simp [logText, linesOf]
  | e :: es => by
    rw [logText, linesOf_append (ended_append e.line), linesOf_ended, linesOf_logText es,
      List.flatMap_cons]

/-- There is a line for each entry, and one for each line feed in a message. -/
theorem length_linesOf_logText (es : List LogEntry) : (linesOf (logText es)).length =
    es.length + (es.flatMap fun e => e.message.toList).count '\n' := by
  induction es with
  | nil => simp [linesOf, logText]
  | cons e es ih =>
    rw [logText, linesOf_append (ended_append e.line), linesOf_ended, List.length_append, ih,
      List.length_map, length_splitOn, e.count_line, List.length_cons, List.flatMap_cons,
      List.count_append]
    omega

/-- Each entry is a line if no message has a line feed, and then only. -/
theorem linesOf_logText_eq_iff {es : List LogEntry} :
    linesOf (logText es) = es.map LogEntry.line ↔ ∀ e ∈ es, '\n' ∉ e.message.toList := by
  constructor
  · intro h e he hmem
    have hlength := congrArg List.length h
    rw [length_linesOf_logText, List.length_map, Nat.add_eq_left, List.count_eq_zero] at hlength
    exact hlength (List.mem_flatMap.2 ⟨e, he, hmem⟩)
  · intro h
    rw [linesOf_logText, List.map_eq_flatMap]
    refine List.flatMap_congr fun e he => ?_
    have hnone : '\n' ∉ e.line.toList := by
      rw [← List.count_eq_zero, e.count_line, List.count_eq_zero]
      exact h e he
    simp [List.splitOn_eq_singleton hnone]

/-- Without a heading, each file of the log has a line for each of its entries behind the lines that
it had before, and one more for each line feed in their messages. The lines are those of the
entries, one by one, if no message has a line feed, and then only. -/
theorem lines_written {w : LogWriter} {files : Tree} {batches : List (List LogEntry)}
    (hheader : w.header = none)
    (hended : ∀ entry ∈ batches.flatten, Ended ((files.contentAt? (w.fileFor entry)).getD ""))
    (hok : (w.writeBatches files batches).2 = .ok ()) :
    ∀ entry ∈ batches.flatten, ∃ p content, place? (w.fileFor entry) = some p ∧
      (w.writeBatches files batches).1.read (w.fileFor entry) = .ok content ∧
      let before := linesOf ((files.contentAt? (w.fileFor entry)).getD "")
      let entries := w.filed p batches.flatten
      (linesOf content).length = before.length +
        (entries.length + (entries.flatMap fun e => e.message.toList).count '\n') ∧
      (linesOf content = before ++ entries.map LogEntry.line ↔
        ∀ e ∈ entries, '\n' ∉ e.message.toList) := by
  intro entry hentry
  have hfiled := filed_of_writeBatches hok
  obtain ⟨content, hread⟩ := hfiled.readable entry hentry
  obtain ⟨-, p, hlocate, hfile⟩ := read_eq_ok.1 hread
  have hplace := place?_of_locate hlocate
  have hbefore : files.contentAt? (w.fileFor entry) = files.fileAt? p := by
    rw [contentAt?, hplace, Option.bind_some]
  have hne : w.filed p batches.flatten ≠ [] :=
    List.ne_nil_of_mem (List.mem_filter.2 ⟨hentry, by simp [hplace]⟩)
  have hheading : w.heading = "" := by rw [heading, hheader]
  rw [hfiled.fileAt p, if_neg hne, hheading] at hfile
  obtain rfl := Option.some.inj hfile
  have hlines := hended entry hentry
  rw [hbefore] at hlines ⊢
  refine ⟨p, _, hplace, hread, ?_, ?_⟩
  · rw [linesOf_append hlines, List.length_append, length_linesOf_logText]
  · rw [linesOf_append hlines, List.append_right_inj, linesOf_logText_eq_iff]

/-- Two entries of a day, and one of another day between them. -/
theorem lines_written_days :
    let at9 : Timestamp := ⟨1709987405, 0, by decide +kernel⟩
    let at10 : Timestamp := ⟨1710073805, 0, by decide +kernel⟩
    let w : LogWriter := ⟨"log", true, none, none⟩
    let files := (Tree.empty.makeDirectories "log").1
    let first : LogEntry := ⟨at9, .info, "a"⟩
    let last : LogEntry := ⟨at9, .debug, "c"⟩
    let batches : List (List LogEntry) := [[first, ⟨at10, .error, "b"⟩], [last]]
    (w.writeBatches files batches).2 = .ok () ∧
      ∃ content, (w.writeBatches files batches).1.read "log/2024/03/09.log" = .ok content ∧
        linesOf content = [first.line, last.line] := by
  intro at9 at10 w files first last batches
  have hok : (w.writeBatches files batches).2 = .ok () := by decide +kernel
  have hnew : ∀ entry ∈ batches.flatten, files.contentAt? (w.fileFor entry) = none := by
    decide +kernel
  have hended : ∀ entry ∈ batches.flatten, Ended ((files.contentAt? (w.fileFor entry)).getD "") :=
    fun entry hentry => .inl (by rw [hnew entry hentry, Option.getD_none])
  have hpath : w.fileFor first = "log/2024/03/09.log" := by decide +kernel
  have hentries : ∀ p, place? (w.fileFor first) = some p →
      w.filed p batches.flatten = [first, last] := by
    decide +kernel
  have hmem : first ∈ batches.flatten := by simp [batches]
  obtain ⟨p, content, hp, hread, -, hlines⟩ := lines_written rfl hended hok first hmem
  rw [hentries p hp, hnew first hmem] at hlines
  rw [hpath] at hread
  exact ⟨hok, content, hread, hlines.2 (by decide)⟩

/-- A message with a line feed in it: its only entry has two lines, and the second one is the line
of an entry that was not written. -/
theorem linesOf_forged :
    let at9 : Timestamp := ⟨1709987405, 0, by decide +kernel⟩
    let forged : LogEntry := ⟨at9, .error, "b"⟩
    let entry : LogEntry := ⟨at9, .info, "a\n" ++ forged.line⟩
    let w : LogWriter := ⟨"log", true, none, none⟩
    let written := w.writeBatches (Tree.empty.makeDirectories "log").1 [[entry]]
    written.2 = .ok () ∧
    (written.1.read (w.fileFor entry)).map linesOf =
      .ok [(⟨at9, .info, "a"⟩ : LogEntry).line, forged.line] ∧
    (written.1.read (w.fileFor entry)).map linesOf ≠ .ok [entry.line] := by
  decide +kernel

end LogWriter

end Routing
