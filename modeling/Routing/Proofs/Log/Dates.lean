import Routing.Proofs.Calendar
import Routing.Proofs.Log.Files
import Routing.Proofs.Paths

/-!
The files that entries belong to. A file is reached from the directory of the log by the names that
the date gives, and by these names alone. So entries share a file only if their paths are the same,
and with a file for each date they do only if their dates are.

    date           directories      names
    2024-03-09     year, month      2024, 03, 09.log
    2024-03-09     (none)           09.log
-/

namespace Routing

open Files Files.Tree

/-! ### Names that dates give -/

namespace Date

open Decimal

theorem named_padded (width n : Nat) : Files.Named (padded width n) := by
  have hdigit : ∀ c ∈ (padded width n).toList, c.isDigit = true := fun _ => isDigit_of_mem_padded
  obtain ⟨c, hc⟩ := exists_mem_padded width n
  refine named_of_mem hc ?_ fun hslash => absurd (hdigit _ hslash) (by decide)
  rintro rfl
  exact absurd (hdigit _ hc) (by decide)

theorem named_yearText (year : Int) : Files.Named (yearText year) := by
  have hdigits := named_padded 4 year.natAbs
  obtain ⟨c, hc⟩ := exists_mem_padded 4 year.natAbs
  refine named_of_mem (c := c) ?_ ?_ ?_
  · rw [toList_yearText]
    exact List.mem_append_right _ hc
  · rintro rfl
    exact absurd (isDigit_of_mem_padded hc) (by decide)
  · rw [toList_yearText, List.mem_append, not_or]
    refine ⟨fun hslash => ?_, hdigits.whole⟩
    rcases mem_sign hslash with h | h <;> exact absurd h (by decide)

theorem named_dayText (d : Date) : Files.Named (d.dayText ++ ".log") := by
  obtain ⟨c, hc⟩ := exists_mem_padded 2 d.day
  refine named_of_mem (c := c) ?_ ?_ ?_
  · rw [String.toList_append]
    exact List.mem_append_left _ hc
  · rintro rfl
    exact absurd (isDigit_of_mem_padded hc) (by decide)
  · rw [String.toList_append, List.mem_append, not_or]
    exact ⟨(named_padded 2 d.day).whole, by decide⟩

end Date

namespace LogWriter

variable {w : LogWriter} {date date' : Date} {p : Parts}

/-- The name of the file for a date. -/
def nameFor (w : LogWriter) (date : Date) : String := w.filename.getD (date.dayText ++ ".log")

/-- The names on the way from the directory of the log to the file for a date. -/
def namesFor (w : LogWriter) (date : Date) : List String :=
  if w.subDirectories then [Date.yearText date.year, date.monthText, w.nameFor date]
  else [w.nameFor date]

theorem namesFor_ne_nil (w : LogWriter) (date : Date) : w.namesFor date ≠ [] := by
  unfold namesFor
  split <;> simp

/-- The file can be read, so its name names a file. -/
theorem named_nameFor (hname : ∀ name ∈ w.filename, '/' ∉ name.toList)
    (hfile : asksDirectory (w.pathFor date) = false) : Files.Named (w.nameFor date) := by
  rw [pathFor] at hfile
  rw [nameFor]
  cases hfilename : w.filename with
  | none => exact date.named_dayText
  | some name =>
    rw [hfilename] at hfile
    exact named_of_asksDirectory (hname name hfilename) hfile

theorem pieces_pathFor (h : Files.Named (w.nameFor date)) :
    pieces (w.pathFor date) = pieces w.dir ++ w.namesFor date := by
  have hjoin : w.pathFor date = join (w.dirFor date) (w.nameFor date) := rfl
  rw [hjoin, h.pieces_join, dirFor, namesFor]
  split
  · rw [Date.monthText, (Date.named_padded 2 date.month).pieces_join,
      (Date.named_yearText date.year).pieces_join]
    simp
  · rfl

/-- The names give the path. -/
theorem pathFor_of_namesFor (h : w.namesFor date = w.namesFor date') :
    w.pathFor date = w.pathFor date' := by
  have hjoin : ∀ d, w.pathFor d = join (w.dirFor d) (w.nameFor d) := fun _ => rfl
  rw [hjoin, hjoin, dirFor, dirFor]
  unfold namesFor at h
  split at h
  next hdirs =>
    obtain ⟨hyear, hmonth, hfile⟩ : Date.yearText date.year = Date.yearText date'.year ∧
      date.monthText = date'.monthText ∧ w.nameFor date = w.nameFor date' := by simpa using h
    rw [hyear, hmonth, hfile]
  next hdirs =>
    obtain ⟨hfile, -⟩ := List.cons.inj h
    simp [hdirs, hfile]

theorem date_of_namesFor (hdirs : w.subDirectories = true) (hdays : w.filename = none)
    (h : w.namesFor date = w.namesFor date') : date = date' := by
  obtain ⟨hyear, hmonth, hday⟩ : Date.yearText date.year = Date.yearText date'.year ∧
      date.monthText = date'.monthText ∧ date.dayText ++ ".log" = date'.dayText ++ ".log" := by
    simpa [namesFor, hdirs, nameFor, hdays] using h
  have hmonth := Decimal.padded_injective (congrArg String.toList hmonth)
  have hday : date.dayText.toList = date'.dayText.toList := by
    have hlist := congrArg String.toList hday
    rw [String.toList_append, String.toList_append] at hlist
    exact List.append_cancel_right hlist
  cases date
  cases date'
  simp only [Date.mk.injEq]
  exact ⟨Date.yearText_injective hyear, hmonth, Decimal.padded_injective hday⟩

/-! ### Places of files -/

/-- Names that do not lead back are the way down to a place. -/
theorem eq_append_of_enterAll? : ∀ {names : List String} {here p : Parts},
    (∀ name ∈ names, name ≠ "..") → Parts.enterAll? here names = some p → p = here ++ names
  | [], here, p, _, h => by
    obtain rfl := Option.some.inj h
    exact (List.append_nil here).symm
  | name :: names, here, p, hnames, h => by
    obtain ⟨hname, hnames⟩ := List.forall_mem_cons.1 hnames
    rw [Parts.enterAll?, List.foldlM_cons, Parts.enter?, if_neg hname] at h
    split at h
    · rw [eq_append_of_enterAll? hnames h, ← List.append_cons]
    · simp at h

/-- A file is below the directory of the log. -/
theorem exists_place (h : Files.Named (w.nameFor date)) (hp : place? (w.pathFor date) = some p) :
    ∃ base, place? w.dir = some base ∧ p = base ++ w.namesFor date := by
  have hnames : ∀ name ∈ w.namesFor date, name ≠ ".." := by
    intro name hname
    unfold namesFor at hname
    split at hname
    · rcases List.mem_cons.1 hname with rfl | hname
      · exact (Date.named_yearText date.year).forward
      · rcases List.mem_cons.1 hname with rfl | hname
        · exact (Date.named_padded 2 date.month).forward
        · exact List.mem_singleton.1 hname ▸ h.forward
    · exact List.mem_singleton.1 hname ▸ h.forward
  rw [place?, pieces_pathFor h, Parts.enterAll?, List.foldlM_append] at hp
  obtain ⟨base, hbase, hp⟩ := Option.bind_eq_some_iff.1 hp
  exact ⟨base, hbase, eq_append_of_enterAll? hnames hp⟩

/-- Paths that lead to one file have the same names. -/
theorem namesFor_of_place (h : Files.Named (w.nameFor date)) (h' : Files.Named (w.nameFor date'))
    (hp : place? (w.pathFor date) = some p) (hp' : place? (w.pathFor date') = some p) :
    w.namesFor date = w.namesFor date' := by
  obtain ⟨base, hbase, rfl⟩ := exists_place h hp
  obtain ⟨base', hbase', heq⟩ := exists_place h' hp'
  obtain rfl := Option.some.inj (hbase.symm.trans hbase')
  exact List.append_cancel_left heq

/-- With a file for each date, different dates have different files. -/
theorem date_of_place (hdirs : w.subDirectories = true) (hdays : w.filename = none)
    (hp : place? (w.pathFor date) = some p) (hp' : place? (w.pathFor date') = some p) :
    date = date' := by
  have hname : ∀ d : Date, Files.Named (w.nameFor d) := by
    intro d
    rw [nameFor, hdays]
    exact d.named_dayText
  exact date_of_namesFor hdirs hdays (namesFor_of_place (hname _) (hname _) hp hp')

/-- In an empty directory there are no files yet. -/
theorem fileAt?_of_empty {files : Tree} (hdir : files.list w.dir = .ok [])
    (h : Files.Named (w.nameFor date)) (hp : place? (w.pathFor date) = some p) :
    files.fileAt? p = none := by
  obtain ⟨place, hplace, hthere, hnone⟩ := list_eq_ok.1 hdir
  obtain ⟨base, hbase, rfl⟩ := exists_place h hp
  obtain rfl := Option.some.inj (hbase.symm.trans (place?_of_locate hplace))
  obtain ⟨entries, hfind⟩ := hasDirectory_iff.1 hthere
  rw [listing_of_find? hfind, List.map_eq_nil_iff] at hnone
  subst hnone
  cases hnames : w.namesFor date with
  | nil => exact absurd hnames (w.namesFor_ne_nil date)
  | cons name names =>
    rw [fileAt?, at?, find?_append, hfind]
    rfl

/-- In a log that starts in an empty directory, each file holds the heading and then exactly the
entries whose path is that of the file, in their order; every other file is as it was. It makes no
difference how the entries were cut into batches. With a directory for each month and a file for
each day, entries of different dates are in different files. -/
theorem holds_written {w : LogWriter} {files : Tree} {batches : List (List LogEntry)}
    (hdir : files.list w.dir = .ok [])
    (hname : ∀ name ∈ w.filename, '/' ∉ name.toList)
    (hok : (w.writeBatches files batches).2 = .ok ()) :
    let files' := (w.writeBatches files batches).1
    (∀ entry ∈ batches.flatten, files'.read (w.fileFor entry) = .ok (w.heading ++
      logText (batches.flatten.filter fun e => w.fileFor e = w.fileFor entry))) ∧
    (∀ p, (∀ entry ∈ batches.flatten, files'.locate (w.fileFor entry) ≠ .ok p) →
      files'.fileAt? p = files.fileAt? p) ∧
    (∀ batches', batches'.flatten = batches.flatten →
      w.writeBatches files batches' = w.writeBatches files batches) ∧
    (w.subDirectories = true → w.filename = none → ∀ (date date' : Date) (p : Parts),
      place? (w.pathFor date) = some p → place? (w.pathFor date') = some p → date = date') := by
  intro files'
  have hfiled : Filed w files batches.flatten files' := filed_of_writeBatches hok
  have hfile : ∀ e ∈ batches.flatten, Files.Named (w.nameFor e.timestamp.date) ∧
      ∃ p, files'.locate (w.fileFor e) = .ok p ∧ place? (w.fileFor e) = some p := by
    intro e he
    obtain ⟨content, hread⟩ := hfiled.readable e he
    obtain ⟨hasks, p, hp, -⟩ := read_eq_ok.1 hread
    exact ⟨named_nameFor hname hasks, p, hp, place?_of_locate hp⟩
  refine ⟨fun entry hentry => ?_, fun p hp => ?_, fun batches' hbatches => ?_,
    fun hdirs hdays date date' p => date_of_place hdirs hdays⟩
  · obtain ⟨hnamed, p, hlocate, hplace⟩ := hfile entry hentry
    obtain ⟨content, hread⟩ := hfiled.readable entry hentry
    -- Paths that lead to the place of this file are the path of this file.
    have hsame : w.filed p batches.flatten =
        batches.flatten.filter fun e => w.fileFor e = w.fileFor entry := by
      refine List.filter_congr fun e he => decide_eq_decide.2 ⟨fun hp => ?_, fun heq => ?_⟩
      · exact pathFor_of_namesFor (namesFor_of_place (hfile e he).1 hnamed hp hplace)
      · rw [heq, hplace]
    have hne : w.filed p batches.flatten ≠ [] := by
      rw [hsame]
      exact List.ne_nil_of_mem (List.mem_filter.2 ⟨hentry, by simp⟩)
    have hcontent := hfiled.fileAt p
    rw [if_neg hne, fileAt?_of_empty hdir hnamed hplace, hsame] at hcontent
    obtain ⟨hasks, -⟩ := read_eq_ok.1 hread
    exact read_eq_ok.2 ⟨hasks, p, hlocate, hcontent⟩
  · rw [hfiled.fileAt p, if_pos]
    refine List.filter_eq_nil_iff.2 fun e he hplace => ?_
    obtain ⟨-, q, hlocate, hq⟩ := hfile e he
    obtain rfl := Option.some.inj (hq.symm.trans (of_decide_eq_true hplace))
    exact hp e he hlocate
  · rw [writeBatches_eq, hbatches, ← writeBatches_eq]

/-- Two days in turn, over three batches: in files of their own each day has its heading once, and
in one file all entries stand in order. -/
theorem holds_written_days :
    let at9 : Timestamp := ⟨1709987400, 0, by decide +kernel⟩
    let at10 : Timestamp := ⟨1710073800, 0, by decide +kernel⟩
    let first : LogEntry := ⟨at9, .info, "a"⟩
    let second : LogEntry := ⟨at10, .error, "b"⟩
    let files := (Tree.empty.makeDirectories "log").1
    let batches : List (List LogEntry) := [[first, second], [], [⟨at9, .debug, "c"⟩]]
    let days : LogWriter := ⟨"log", true, none, some "# log"⟩
    let single : LogWriter := ⟨"log", false, some "app.log", none⟩
    let files' := (days.writeBatches files batches).1
    files'.read "log/2024/03/09.log" = .ok
      "# log\n2024-03-09 12:30:00 --- INFO: a\n2024-03-09 12:30:00 --- DEBUG: c\n" ∧
    files'.read "log/2024/03/10.log" = .ok "# log\n2024-03-10 12:30:00 --- ERROR: b\n" ∧
    (¬ ∃ p, place? (days.fileFor first) = some p ∧ place? (days.fileFor second) = some p) ∧
    (single.writeBatches files batches).1.read "log/app.log" = .ok ("2024-03-09 12:30:00 --- " ++
      "INFO: a\n2024-03-10 12:30:00 --- ERROR: b\n2024-03-09 12:30:00 --- DEBUG: c\n") := by
  intro at9 at10 first second files batches days single files'
  have hdir : files.list "log" = .ok [] := by decide +kernel
  have hdays : (days.writeBatches files batches).2 = .ok () := by decide +kernel
  have hsingle : (single.writeBatches files batches).2 = .ok () := by decide +kernel
  have hfirst : first ∈ batches.flatten := by simp [batches]
  have hsecond : second ∈ batches.flatten := by simp [batches]
  have hnone : ∀ name ∈ days.filename, '/' ∉ name.toList := by simp [days]
  have hname : ∀ name ∈ single.filename, '/' ∉ name.toList := by simp [single]
  obtain ⟨hread, -, -, hdates⟩ := holds_written hdir hnone hdays
  obtain ⟨hall, -⟩ := holds_written hdir hname hsingle
  refine ⟨?_, ?_, ?_, ?_⟩
  · convert hread first hfirst using 2 <;> decide +kernel
  · convert hread second hsecond using 2 <;> decide +kernel
  · rintro ⟨p, hp, hp'⟩
    exact absurd (hdates rfl rfl _ _ p hp hp') (by decide +kernel)
  · convert hall first hfirst using 2 <;> decide +kernel

end LogWriter

end Routing
