import Routing.Cache
import Routing.Proofs.Files
import Routing.Proofs.Json.Keeping
import Routing.Proofs.WrittenTable

/-!
What a cache holds. The entry of a key is the text of the file in its place. Saving sets the entry
of its key, clearing removes entries, and nothing else is done to the entry of any key.

    save key table      entry of key      the text of format, key and table
                        other entries     as before, or gone
    clear               all entries       as before, or gone

What is saved is found again, unless its text nests more containers than may be nested. Which
identities the routes get does not matter for what is found.
-/

namespace Routing

open Json

/-! ### Entries -/

namespace CacheEntry

theorem exact_toJson {e : CacheEntry} (h : e.format < 0x100000000) : e.toJson.exact := by
  have hlow : -0x8000000000000000 ≤ (e.format : Int) := by omega
  have hhigh : (e.format : Int) < 0x10000000000000000 := by omega
  simp [toJson, Value.nat, Value.exact, Value.membersExact, e.table.exact_toJson, hlow, hhigh]

theorem recalls_decodeFormat {n : Nat} (h : n < 0x100000000) :
    Recalls (fun _ => decodeFormat) (.nat n) n := by
  intro depth
  have hnumber : (Numeral.ofInt n).toNumber? = some (.whole n) :=
    Numeral.toNumber?_ofInt (by omega) (by omega)
  have hread : decodeFormat (.number (.ofInt n)) = .ok n := by
    rw [decodeFormat]
    simp only [hnumber]
    exact if_pos h
  exact hread

/-- An entry is read back, with other identities for the routes of its table. -/
theorem recalls_decode {e : CacheEntry} (hformat : e.format < 0x100000000) (h : e.table.Sound)
    (id : Nat) : ∃ u : RouteTable,
      u.Alike e.table ∧ Recalls (decode id) e.toJson ⟨e.format, e.key, u⟩ := by
  obtain ⟨u, -, halike, hrecalls⟩ := h.recalls_decode id
  refine ⟨u, halike, Recalls.bind (a := ⟨some e.format, some e.key, some u⟩)
    (recalls_toRecord ?_ (by simp)) rfl⟩
  refine .cons (.bind (recalls_decodeFormat hformat).once rfl) ?_
  refine .cons (.bind (recalls_text e.key).once rfl) ?_
  exact .cons (.bind hrecalls.once rfl) .nil

/-- The table of an entry that is read has been read. -/
theorem exists_decode_of_decode {id depth : Nat} {t : Tree} {e : CacheEntry}
    (h : decode id depth t = .ok e) : ∃ depth t, RouteTable.decode id depth t = .ok e.table := by
  obtain ⟨d, hd, h⟩ := bind_eq_ok.1 h
  obtain ⟨format, -, h⟩ := bind_eq_ok.1 h
  obtain ⟨key, -, h⟩ := bind_eq_ok.1 h
  obtain ⟨table, htable, h⟩ := bind_eq_ok.1 h
  obtain rfl := Except.ok.inj h
  refine toRecord_keeps (P := fun d => ∀ u, d.table = some u →
    ∃ depth t, RouteTable.decode id depth t = .ok u) ?_ (by simp) hd _ (needed_eq_ok.1 htable)
  intro depth name t d d' hd h u hu
  unfold Draft.read at h
  split at h
  · obtain ⟨_, -, h⟩ := bind_eq_ok.1 h
    obtain rfl := Except.ok.inj h
    exact hd u hu
  · obtain ⟨_, -, h⟩ := bind_eq_ok.1 h
    obtain rfl := Except.ok.inj h
    exact hd u hu
  · obtain ⟨_, hread, h⟩ := bind_eq_ok.1 h
    obtain rfl := Except.ok.inj h
    obtain ⟨u', hu', rfl⟩ := once_eq_ok hread
    obtain rfl := Option.some.inj hu
    exact ⟨depth, t, hu'⟩

theorem made_of_decode {id depth : Nat} {t : Tree} {e : CacheEntry}
    (h : decode id depth t = .ok e) : e.table.Made := by
  obtain ⟨_, _, hdecode⟩ := exists_decode_of_decode h
  exact .decoded hdecode

/-- Two entries that differ in nothing but the identities of routes. -/
structure Alike (e e' : CacheEntry) : Prop where
  format : e.format = e'.format
  key : e.key = e'.key
  table : e.table.Alike e'.table

/-- Drafts of entries that differ in nothing but the identities of routes. -/
structure Draft.Alike (d d' : Draft) : Prop where
  format : d.format = d'.format
  key : d.key = d'.key
  table : Option.Rel RouteTable.Alike d.table d'.table

/-- An entry that is read is the same whatever the identities of routes. -/
theorem decode_alike (id id' depth : Nat) (t : Tree) :
    Both Alike (decode id depth t) (decode id' depth t) := by
  refine (both_toRecord (R := Draft.Alike) ?_ ⟨rfl, rfl, .none⟩ depth t).bind ?_
  · intro depth name t d d' h
    unfold Draft.read
    split
    · rw [h.format]
      exact .bind_self fun format => .ok ⟨rfl, h.key, h.table⟩
    · rw [h.key]
      exact .bind_self fun key => .ok ⟨h.format, rfl, h.table⟩
    · exact (both_once h.table (RouteTable.decode_alike id id' depth t)).bind
        fun table table' htable => .ok ⟨h.format, h.key, htable⟩
  · intro d d' h
    rw [h.format, h.key]
    exact .bind_self fun format => .bind_self fun key => (both_needed h.table).bind
      fun table table' htable => .ok ⟨rfl, rfl, htable⟩

end CacheEntry

namespace RouteCache

/-! ### Loading -/

/-- The entry of a key: the text of the file in its place. -/
def stored? (c : RouteCache) (files : Files.Tree) (key : String) : Option String :=
  (Files.place? (c.entryPath key)).bind files.fileAt?

theorem stored?_empty (c : RouteCache) (key : String) : c.stored? .empty key = none := by
  rw [stored?]
  cases Files.place? (c.entryPath key) with
  | none => rfl
  | some p => exact Files.Tree.fileAt?_empty p

theorem stored?_of_read {c : RouteCache} {files : Files.Tree} {key text : String}
    (h : files.read (c.entryPath key) = .ok text) : c.stored? files key = some text := by
  obtain ⟨-, p, hp, hfile⟩ := Files.Tree.read_eq_ok.1 h
  rw [stored?, Files.Tree.place?_of_locate hp]
  exact hfile

/-- What holds of every file before and after holds of every entry. -/
theorem stored?_of_fileAt? {R : Option String → Option String → Prop} (hnone : R none none)
    {files files' : Files.Tree} (h : ∀ p, R (files.fileAt? p) (files'.fileAt? p)) (c : RouteCache)
    (key : String) : R (c.stored? files key) (c.stored? files' key) := by
  rw [stored?, stored?]
  cases Files.place? (c.entryPath key) with
  | none => exact hnone
  | some p => exact h p

/-- What is loaded under a key is the table of its entry. -/
theorem load_eq_some {c : RouteCache} {files : Files.Tree} {id : Nat} {key : String}
    {t : RouteTable} : c.load files id key = some t ↔
      ∃ text, files.read (c.entryPath key) = .ok text ∧
        Json.decode (CacheEntry.decode id) text = .ok ⟨CacheEntry.currentFormat, key, t⟩ := by
  unfold load find
  cases files.read (c.entryPath key) with
  | error refusal => cases refusal <;> simp [Cached.table?]
  | ok text =>
    cases hread : Json.decode (CacheEntry.decode id) text with
    | error fault => simp [Cached.table?, hread]
    | ok entry =>
      obtain ⟨format, key', table⟩ := entry
      by_cases h : format = CacheEntry.currentFormat ∧ key' = key
      · simp [Cached.table?, hread, h]
      · have hne : ¬ (format = CacheEntry.currentFormat ∧ key' = key ∧ table = t) :=
          fun hall => h ⟨hall.1, hall.2.1⟩
        simp [Cached.table?, hread, h, hne]

/-- A table that is loaded has been read. -/
theorem exists_decode_of_load {c : RouteCache} {files : Files.Tree} {id : Nat} {key : String}
    {t : RouteTable} (h : c.load files id key = some t) :
    ∃ depth tree, RouteTable.decode id depth tree = .ok t := by
  obtain ⟨text, -, hdecode⟩ := load_eq_some.1 h
  exact CacheEntry.exists_decode_of_decode (of_decode hdecode)

theorem made_of_load {c : RouteCache} {files : Files.Tree} {id : Nat} {key : String}
    {t : RouteTable} (h : c.load files id key = some t) : t.Made := by
  obtain ⟨_, _, hdecode⟩ := exists_decode_of_load h
  exact .decoded hdecode

/-- Without an entry nothing is loaded. -/
theorem load_eq_none {c : RouteCache} {files : Files.Tree} {key : String}
    (h : c.stored? files key = none) (id : Nat) : c.load files id key = none := by
  rw [Option.eq_none_iff_forall_ne_some]
  intro t ht
  obtain ⟨text, hread, -⟩ := load_eq_some.1 ht
  rw [stored?_of_read hread] at h
  simp at h

/-- Which identities the routes get does not matter for what is loaded. -/
theorem load_alike (c : RouteCache) (files : Files.Tree) (id id' : Nat) (key : String) :
    Option.Rel RouteTable.Alike (c.load files id key) (c.load files id' key) := by
  have hsome : ∀ id id' t, c.load files id key = some t →
      ∃ u, c.load files id' key = some u ∧ t.Alike u := by
    intro id id' t ht
    obtain ⟨text, hread, hdecode⟩ := load_eq_some.1 ht
    have hboth := both_decode (CacheEntry.decode_alike id id') text
    rw [hdecode] at hboth
    generalize hdecode' : Json.decode (CacheEntry.decode id') text = x at hboth
    obtain @⟨_, ⟨format, key', u⟩, halike⟩ := hboth
    obtain ⟨hformat, hkey, htable⟩ := halike
    dsimp only at hformat hkey
    subst hformat hkey
    exact ⟨u, load_eq_some.2 ⟨text, hread, hdecode'⟩, htable⟩
  cases h : c.load files id key with
  | some t =>
    obtain ⟨u, hu, halike⟩ := hsome id id' t h
    rw [hu]
    exact .some halike
  | none =>
    cases h' : c.load files id' key with
    | none => exact .none
    | some u =>
      obtain ⟨t, ht, -⟩ := hsome id' id u h'
      simp [h] at ht

/-! ### Saving -/

/-- What is written for a key and its table. -/
def entryValue (key : String) (table : RouteTable) : Value :=
  CacheEntry.toJson ⟨CacheEntry.currentFormat, key, table⟩

/-- What is written for a key is read as its entry, unless it is nested too deep. -/
theorem decode_entryValue {table : RouteTable} (h : table.Sound) (id : Nat) (key : String) :
    ∃ u : RouteTable, u.Alike table ∧
      Json.decode (CacheEntry.decode id) (entryValue key table).write =
        within (entryValue key table).nesting maxDepth ⟨CacheEntry.currentFormat, key, u⟩ := by
  have hformat : CacheEntry.currentFormat < 0x100000000 := by decide
  obtain ⟨u, halike, hrecalls⟩ := CacheEntry.recalls_decode
    (e := ⟨CacheEntry.currentFormat, key, table⟩) hformat h id
  exact ⟨u, halike, hrecalls.decode_write (CacheEntry.exact_toJson hformat)⟩

/-- What is saved is loaded again, unless it is nested too deep. -/
theorem load_of_read {c : RouteCache} {files : Files.Tree} {key : String} {table : RouteTable}
    (h : table.Sound) (hread : files.read (c.entryPath key) = .ok (entryValue key table).write)
    (id : Nat) : ∃ u : RouteTable, u.Alike table ∧ c.load files id key =
      if (entryValue key table).nesting ≤ maxDepth then some u else none := by
  obtain ⟨u, halike, hdecode⟩ := decode_entryValue h id key
  refine ⟨u, halike, ?_⟩
  by_cases hnesting : (entryValue key table).nesting ≤ maxDepth
  · rw [within, if_pos hnesting] at hdecode
    rw [if_pos hnesting]
    exact load_eq_some.2 ⟨_, hread, hdecode⟩
  · rw [within, if_neg hnesting] at hdecode
    unfold load find
    simp only [hread, hdecode, if_neg hnesting]
    rfl

/-- What saving does: it makes directories, and writes the entry if it can. -/
theorem save_cases (c : RouteCache) (files : Files.Tree) (key : String) (table : RouteTable) :
    ∃ made, files.Grows made ∧ (c.save files key table = (made, .error .files) ∨
      ∃ files', made.write (c.entryPath key) (entryValue key table).write = .ok files' ∧
        c.save files key table = (files', .ok ())) := by
  have hgrows := files.grows_makeDirectories (c.shelfPath key)
  unfold save
  split
  next made heq =>
    rw [heq] at hgrows
    exact ⟨made, hgrows, .inl rfl⟩
  next made heq =>
    rw [heq] at hgrows
    refine ⟨made, hgrows, ?_⟩
    dsimp only
    split
    · exact .inl rfl
    next files' hwrite => exact .inr ⟨files', hwrite, rfl⟩

/-- If saving succeeds, there is a directory for the entry, and the entry is written into it. -/
theorem exists_of_save_ok {c : RouteCache} {files files' : Files.Tree} {key : String}
    {table : RouteTable} (h : c.save files key table = (files', .ok ())) :
    ∃ made, files.makeDirectories (c.shelfPath key) = (made, true) ∧
      made.write (c.entryPath key) (entryValue key table).write = .ok files' := by
  unfold save at h
  split at h
  · simp at h
  next made heq =>
    dsimp only at h
    split at h
    · simp at h
    next files'' hwrite =>
      obtain rfl := (Prod.mk.inj h).1
      exact ⟨made, heq, hwrite⟩

/-- What has been saved is there. -/
theorem read_save {c : RouteCache} {files : Files.Tree} {key : String} {table : RouteTable}
    (h : (c.save files key table).2 = .ok ()) :
    (c.save files key table).1.read (c.entryPath key) = .ok (entryValue key table).write := by
  obtain ⟨made, -, heq | ⟨files', hwrite, heq⟩⟩ := c.save_cases files key table
  · rw [heq] at h
    simp at h
  · rw [heq]
    exact Files.Tree.read_write hwrite

/-- Saving sets the entry of one key, and may remove what is in its way. -/
theorem stored?_save (c : RouteCache) (files : Files.Tree) (key : String) (table : RouteTable)
    (other : String) :
    c.stored? (c.save files key table).1 other = c.stored? files other ∨
      c.stored? (c.save files key table).1 other = none ∨
        c.stored? (c.save files key table).1 other = some (entryValue key table).write := by
  refine stored?_of_fileAt? (R := fun new old => new = old ∨ new = none ∨
    new = some (entryValue key table).write) (.inl rfl) (fun p => ?_) c other
  obtain ⟨made, hgrows, heq | ⟨files', hwrite, heq⟩⟩ := c.save_cases files key table
  · rw [heq]
    exact .inl (hgrows.fileAt?_eq p)
  · obtain ⟨-, place, -, -, rfl⟩ := Files.Tree.write_eq_ok.1 hwrite
    rw [heq, ← hgrows.fileAt?_eq p]
    exact Files.Tree.fileAt?_put_file _ place p made

/-! ### Clearing -/

theorem loses_clearShelf (c : RouteCache) (state : Nat × Files.Tree) (name : String) :
    state.2.Loses (c.clearShelf state name).2 := by
  unfold clearShelf
  dsimp only
  split
  next hremove => exact Files.Tree.loses_removeDirectory hremove
  · exact .refl _

theorem loses_clearKey {c : RouteCache} {files files' : Files.Tree} {key : String} {n : Nat}
    (h : c.clearKey files key = .ok (n, files')) : files.Loses files' := by
  unfold clearKey at h
  split at h
  next hremove =>
    obtain ⟨rfl, rfl⟩ := Prod.mk.inj (Except.ok.inj h)
    exact Files.Tree.loses_removeFile hremove
  · obtain ⟨rfl, rfl⟩ := Prod.mk.inj (Except.ok.inj h)
    exact .refl files
  · simp at h

theorem loses_clearAll {c : RouteCache} {files files' : Files.Tree} {n : Nat}
    (h : c.clearAll files = .ok (n, files')) : files.Loses files' := by
  have hfold : ∀ (names : List String) (state : Nat × Files.Tree),
      state.2.Loses (names.foldl c.clearShelf state).2 := by
    intro names
    induction names with
    | nil => exact fun state => .refl state.2
    | cons name names ih => exact fun state => (c.loses_clearShelf state name).trans (ih _)
  unfold clearAll at h
  split at h
  next names _ =>
    have hlose := hfold names (0, files)
    rwa [Except.ok.inj h] at hlose
  · obtain ⟨rfl, rfl⟩ := Prod.mk.inj (Except.ok.inj h)
    exact .refl files
  · simp at h

theorem loses_clear {c : RouteCache} {files files' : Files.Tree} {key : Option String} {n : Nat}
    (h : c.clear files key = .ok (n, files')) : files.Loses files' := by
  cases key with
  | some key =>
    have hclear : c.clear files (some key) = c.clearKey files key := rfl
    rw [hclear] at h
    exact loses_clearKey h
  | none =>
    have hclear : c.clear files none = c.clearAll files := rfl
    rw [hclear] at h
    exact loses_clearAll h

/-- Clearing removes entries, and changes none. -/
theorem stored?_clear {c : RouteCache} {files files' : Files.Tree} {key : Option String} {n : Nat}
    (h : c.clear files key = .ok (n, files')) (other : String) :
    c.stored? files' other = c.stored? files other ∨ c.stored? files' other = none :=
  stored?_of_fileAt? (R := fun new old => new = old ∨ new = none) (.inl rfl) (loses_clear h) c other

end RouteCache

end Routing
