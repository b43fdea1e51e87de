import Routing.Log.Writer
import Routing.Proofs.Parent

/-!
What the files of a log hold. A file that is open could as well be opened again, since that changes
nothing, so it makes no difference how entries are cut into batches. Each file holds its entries in
their order, whatever entries of other files stand between them.

    batches              [a1, b1, b2], [a3]          [a1], [b1, b2, a3]
    opened               a, b, a                     a, b, a
    file a               heading, a1, a3             heading, a1, a3
    file b               heading, b1, b2             heading, b1, b2
-/

namespace Routing

open Files Files.Tree

namespace Files.Tree

/-! ### A file is given its content -/

/-- The content of the file that a path names. -/
def contentAt? (t : Tree) (path : String) : Option String := (place? path).bind t.fileAt?

/-- From one tree to the other a file has been given its content; directories may have been made,
and nothing else has changed. -/
structure Puts (path content : String) (t t' : Tree) : Prop where
  read : t'.read path = .ok content
  others : ∀ p, place? path ≠ some p → t'.fileAt? p = t.fileAt? p
  stays : ∀ p, t.HasDirectory p → t'.HasDirectory p

variable {t t' t'' : Tree} {path content : String}

theorem contentAt?_of_read (h : t.read path = .ok content) : t.contentAt? path = some content := by
  obtain ⟨-, p, hp, hfile⟩ := read_eq_ok.1 h
  rw [contentAt?, place?_of_locate hp]
  exact hfile

theorem Grows.hasDirectory (h : t.Grows t') {p : Parts} (hp : t.HasDirectory p) :
    t'.HasDirectory p := by
  rcases h p with heq | ⟨-, hmade⟩
  · exact heq.trans hp
  · exact hmade

theorem Grows.contentAt? (h : t.Grows t') (path : String) :
    t'.contentAt? path = t.contentAt? path := by
  rw [Tree.contentAt?, Tree.contentAt?, funext h.fileAt?_eq]

theorem puts_of_write (h : t.write path content = .ok t') : Puts path content t t' :=
  ⟨read_write h, fun _ => fileAt?_write h, fun _ => hasDirectory_of_write h⟩

/-- A file that is there already. -/
theorem puts_of_read (h : t.read path = .ok content) : Puts path content t t :=
  ⟨h, fun _ _ => rfl, fun _ => id⟩

theorem Puts.of_grows (h : t.Grows t') (h' : Puts path content t' t'') :
    Puts path content t t'' :=
  ⟨h'.read, fun p hp => (h'.others p hp).trans (h.fileAt?_eq p),
    fun p hp => h'.stays p (h.hasDirectory hp)⟩

theorem Puts.trans {old : String} (h : Puts path old t t') (h' : Puts path content t' t'') :
    Puts path content t t'' :=
  ⟨h'.read, fun p hp => (h'.others p hp).trans (h.others p hp),
    fun p hp => h'.stays p (h.stays p hp)⟩

/-- All files afterwards. -/
theorem Puts.fileAt? (h : Puts path content t t') (p : Parts) :
    t'.fileAt? p = if place? path = some p then some content else t.fileAt? p := by
  split
  next hp =>
    obtain ⟨-, q, hq, hfile⟩ := read_eq_ok.1 h.read
    obtain rfl := Option.some.inj (hp.symm.trans (place?_of_locate hq))
    exact hfile
  next hp => exact h.others p hp

/-- What could be read can still be read, unless it is the file that was given its content. -/
theorem Puts.exists_read (h : Puts path content t t') {other text : String}
    (hread : t.read other = .ok text) : ∃ text', t'.read other = .ok text' := by
  obtain ⟨hasks, p, hp, hfile⟩ := read_eq_ok.1 hread
  obtain ⟨hpass, hwalk⟩ := locate_eq_ok.1 hp
  have hthere := locate_eq_ok.2 ⟨hpass, walk_of_hasDirectory h.stays hwalk⟩
  have hafter := h.fileAt? p
  split at hafter
  · exact ⟨content, read_eq_ok.2 ⟨hasks, p, hthere, hafter⟩⟩
  · exact ⟨text, read_eq_ok.2 ⟨hasks, p, hthere, hafter.trans hfile⟩⟩

/-- Where a file is written that was not found, there was none. -/
theorem contentAt?_of_notFound (hread : t.read path = .error .notFound)
    (hwrite : t.write path content = .ok t') : t.contentAt? path = none := by
  obtain ⟨hasks, p, hp, -, -⟩ := write_eq_ok.1 hwrite
  rw [contentAt?, place?_of_locate hp, Option.bind_some, Option.eq_none_iff_forall_ne_some]
  intro text htext
  rw [read_eq_ok.2 ⟨hasks, p, hp, htext⟩] at hread
  cases hread

end Files.Tree

namespace LogWriter

variable {w : LogWriter} {files files' : Tree} {opened : Option String} {entry : LogEntry}
  {path content text : String}

/-! ### Files that are open -/

theorem append_eq_ok : append files path text = .ok files' ↔
    ∃ content, files.read path = .ok content ∧
      files.write path (content ++ text) = .ok files' :=
  bind_eq_ok

/-- A file that is there is opened without any change. -/
theorem openFile_of_read (w : LogWriter) (h : files.read path = .ok content) :
    w.openFile files path = (files, .ok ()) := by
  rw [openFile, makeDirectories_parent h]
  simp only [h]

/-- A file that has been opened holds what it held before, or else its heading. -/
theorem puts_of_openFile (h : w.openFile files path = (files', .ok ())) :
    Puts path ((files.contentAt? path).getD w.heading) files files' := by
  have hgrows := grows_makeDirectories files (parent path)
  rw [openFile] at h
  generalize files.makeDirectories (parent path) = made at h hgrows
  obtain ⟨made, done⟩ := made
  rw [← hgrows.contentAt? path]
  refine Puts.of_grows hgrows ?_
  cases done with
  | false => simp at h
  | true =>
    dsimp only at h ⊢
    split at h
    next content hread =>
      obtain ⟨rfl, -⟩ := Prod.mk.inj h
      rw [contentAt?_of_read hread]
      exact puts_of_read hread
    next hread =>
      split at h
      next hwrite =>
        obtain ⟨rfl, -⟩ := Prod.mk.inj h
        rw [contentAt?_of_notFound hread hwrite]
        exact puts_of_write hwrite
      · simp at h
    · simp at h

/-- An entry is put behind what its file holds. -/
theorem puts_of_writeEntry (h : w.writeEntry opened files entry = (files', .ok ())) :
    Puts (w.fileFor entry)
      ((files.contentAt? (w.fileFor entry)).getD w.heading ++ (entry.line ++ "\n"))
      files files' := by
  rw [writeEntry] at h
  split at h
  · simp at h
  next ready hready =>
    have happend : append ready (w.fileFor entry) (entry.line ++ "\n") = .ok files' := by
      split at h
      next happend => exact (Prod.mk.inj h).1 ▸ happend
      · simp at h
    obtain ⟨content, hread, hwrite⟩ := append_eq_ok.1 happend
    split at hready
    · obtain ⟨rfl, -⟩ := Prod.mk.inj hready
      rw [contentAt?_of_read hread]
      exact puts_of_write hwrite
    · have hopened := puts_of_openFile hready
      rw [Except.ok.inj (hopened.read.symm.trans hread)]
      exact hopened.trans (puts_of_write hwrite)

/-- It makes no difference whether the file of an entry is open, as long as it is there if it is. -/
theorem writeEntry_opened (h : opened = some (w.fileFor entry) →
    ∃ content, files.read (w.fileFor entry) = .ok content) :
    w.writeEntry opened files entry = w.writeEntry none files entry := by
  rw [writeEntry, writeEntry]
  by_cases hopen : opened = some (w.fileFor entry)
  · obtain ⟨content, hread⟩ := h hopen
    simp [hopen, openFile_of_read w hread]
  · simp [hopen]

/-- What is open at first makes no difference, as long as it is there. -/
theorem writeFrom_opened (entries : List LogEntry)
    (h : ∀ path, opened = some path → ∃ content, files.read path = .ok content) :
    w.writeFrom opened files entries = w.writeFrom none files entries := by
  cases entries with
  | nil => rfl
  | cons entry rest => rw [writeFrom, writeFrom, writeEntry_opened (h _)]

/-! ### Batches -/

/-- Writes batches one after another, up to the first that fails. -/
def writeBatches (w : LogWriter) (files : Tree) :
    List (List LogEntry) → Tree × Except Fault Unit
  | [] => (files, .ok ())
  | batch :: rest =>
    match w.write files batch with
    | (files, .ok ()) => w.writeBatches files rest
    | failed => failed

/-- Entries are written after others as in a batch of their own. -/
theorem writeFrom_append (more : List LogEntry) : ∀ (entries : List LogEntry)
    (opened : Option String) (files : Tree),
    (∀ path, opened = some path → ∃ content, files.read path = .ok content) →
      w.writeFrom opened files (entries ++ more) =
        match w.writeFrom opened files entries with
        | (files, .ok ()) => w.writeFrom none files more
        | failed => failed
  | [], opened, files, h => writeFrom_opened more h
  | entry :: rest, opened, files, h => by
    rw [List.cons_append, writeFrom, writeFrom]
    cases hwrite : w.writeEntry opened files entry with
    | mk made result =>
      cases result with
      | error fault => rfl
      | ok _ =>
        refine writeFrom_append more rest _ made fun path hpath => ?_
        obtain rfl := Option.some.inj hpath
        exact ⟨_, (puts_of_writeEntry hwrite).read⟩

/-- How entries are cut into batches makes no difference. -/
theorem writeBatches_eq (w : LogWriter) : ∀ (batches : List (List LogEntry)) (files : Tree),
    w.writeBatches files batches = w.write files batches.flatten
  | [], files => rfl
  | batch :: rest, files => by
    rw [writeBatches, List.flatten_cons, write, write,
      writeFrom_append rest.flatten batch none files (by simp)]
    split
    · exact writeBatches_eq w rest _
    · rfl

/-! ### What the files hold -/

/-- The entries of the file at a place. -/
def filed (w : LogWriter) (place : Parts) (entries : List LogEntry) : List LogEntry :=
  entries.filter fun e => place? (w.fileFor e) = some place

/-- Entries as they stand in a file, each with the end of its line. -/
def logText : List LogEntry → String
  | [] => ""
  | e :: es => e.line ++ "\n" ++ logText es

theorem logText_append (es es' : List LogEntry) :
    logText (es ++ es') = logText es ++ logText es' := by
  induction es with
  | nil => simp [logText]
  | cons e es ih => simp [logText, ih, String.append_assoc]

/-- The files hold the entries that have been written: each entry can be read, and each file holds
its own ones behind what it held at the start, or else behind its heading. -/
structure Filed (w : LogWriter) (start : Tree) (entries : List LogEntry) (files : Tree) : Prop where
  readable : ∀ e ∈ entries, ∃ content, files.read (w.fileFor e) = .ok content
  fileAt : ∀ p, files.fileAt? p =
    if w.filed p entries = [] then start.fileAt? p
    else some ((start.fileAt? p).getD w.heading ++ logText (w.filed p entries))

variable {start : Tree} {entries : List LogEntry}

theorem filed_refl (w : LogWriter) (start : Tree) : Filed w start [] start :=
  ⟨by simp, by simp [filed]⟩

/-- What a file holds before an entry is put behind it. -/
theorem Filed.getD_fileAt? (h : Filed w start entries files) (p : Parts) :
    (files.fileAt? p).getD w.heading =
      (start.fileAt? p).getD w.heading ++ logText (w.filed p entries) := by
  rw [h.fileAt p]
  split
  next hnil => rw [hnil, logText, String.append_empty]
  · rfl

/-- One more entry. -/
theorem Filed.step (h : Filed w start entries files)
    (hwrite : w.writeEntry opened files entry = (files', .ok ())) :
    Filed w start (entries ++ [entry]) files' := by
  have hputs := puts_of_writeEntry hwrite
  refine ⟨fun e he => ?_, fun p => ?_⟩
  · rcases List.mem_append.1 he with he | he
    · obtain ⟨content, hread⟩ := h.readable e he
      exact hputs.exists_read hread
    · obtain rfl := List.mem_singleton.1 he
      exact ⟨_, hputs.read⟩
  · rw [hputs.fileAt? p, filed, List.filter_append]
    split
    next hp =>
      have hcontent : files.contentAt? (w.fileFor entry) = files.fileAt? p := by
        rw [contentAt?, hp, Option.bind_some]
      have hlast : [entry].filter (fun e => place? (w.fileFor e) = some p) = [entry] := by
        simp [hp]
      rw [hlast, if_neg (by simp), logText_append, hcontent, h.getD_fileAt?, filed,
        String.append_assoc]
      simp [logText]
    next hp =>
      have hlast : [entry].filter (fun e => place? (w.fileFor e) = some p) = [] := by
        simp [hp]
      rw [hlast, List.append_nil]
      exact h.fileAt p

/-- All entries, one after another. -/
theorem Filed.run : ∀ (more : List LogEntry) {entries : List LogEntry} {opened : Option String}
    {files files' : Tree}, Filed w start entries files →
      w.writeFrom opened files more = (files', .ok ()) → Filed w start (entries ++ more) files'
  | [], entries, _, _, _, h, hwrite => by
    obtain ⟨rfl, -⟩ := Prod.mk.inj hwrite
    rwa [List.append_nil]
  | entry :: rest, entries, opened, files, files', h, hwrite => by
    rw [writeFrom] at hwrite
    split at hwrite
    next made hentry =>
      rw [List.append_cons]
      exact Filed.run rest (h.step hentry) hwrite
    next hfailed => exact absurd hwrite (hfailed files')

theorem filed_of_writeBatches {batches : List (List LogEntry)}
    (h : (w.writeBatches files batches).2 = .ok ()) :
    Filed w files batches.flatten (w.writeBatches files batches).1 := by
  rw [writeBatches_eq, write] at h ⊢
  exact (filed_refl w files).run _ (Prod.ext rfl h)

end LogWriter

end Routing
