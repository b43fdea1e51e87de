import Routing.Proofs.Shelves

/-!
A cache is a table of tables. While nothing else uses its directory and every operation succeeds, it
answers as if the tables were kept in a dictionary, whatever is saved, loaded and cleared, and in
whatever order.

    save "blog" t    load "blog"    clear "shop"    clear all    load "blog"
    saved            t              0               1            none

This needs a path that does not lead through a shelf of the directory. Through a shelf, clearing all
may take the path away before it comes to the other shelves, and what lies on the way is counted as
if it were an entry.

    x/3f/..              save "blog", clear all    0, and the entry is still there
    x/3f/v1.json/../..   save "two", clear all     2, one of them v1.json
-/

namespace Routing.RouteCache

open Files Files.Tree

/-! ### The files of a cache -/

section
variable {c : RouteCache} {base : Parts} {files : Tree} {key : String}

theorem pieces_shelfPath (c : RouteCache) (key : String) :
    pieces (c.shelfPath key) = pieces c.dir ++ [shelfOf (hashOf key)] :=
  (plain_shelfOf key).pieces_join c.dir

theorem pieces_entryPath (c : RouteCache) (key : String) :
    pieces (c.entryPath key) = pieces c.dir ++ [shelfOf (hashOf key), fileName key] := by
  have hjoin : c.entryPath key = join (c.shelfPath key) (fileName key) := rfl
  rw [hjoin, (plain_fileName key).pieces_join, pieces_shelfPath, List.append_assoc]
  rfl

theorem asksDirectory_entryPath (c : RouteCache) (key : String) :
    asksDirectory (c.entryPath key) = false :=
  (plain_fileName key).asksDirectory_join (c.shelfPath key)

theorem LiesAt.eq_of_walk (hc : c.LiesAt base) {p : Parts}
    (h : files.walk [] (pieces c.dir) = .ok p) : p = base :=
  Option.some.inj ((enterAll?_of_walk h).symm.trans hc.place)

/-- All ways from the root into the directory go through its place. -/
theorem LiesAt.walk_append (hc : c.LiesAt base) {rest : List String} {p : Parts} :
    files.walk [] (pieces c.dir ++ rest) = .ok p ↔
      files.walk [] (pieces c.dir) = .ok base ∧ files.walk base rest = .ok p := by
  rw [Tree.walk_append]
  constructor
  · rintro ⟨mid, hmid, hrest⟩
    obtain rfl := hc.eq_of_walk hmid
    exact ⟨hmid, hrest⟩
  · rintro ⟨hmid, hrest⟩
    exact ⟨base, hmid, hrest⟩

theorem LiesAt.locate_shelfPath (hc : c.LiesAt base) {p : Parts} :
    files.locate (c.shelfPath key) = .ok p ↔ isPassable (c.shelfPath key) ∧
      files.walk [] (pieces c.dir) = .ok base ∧ files.HasDirectory base ∧
      base ++ [shelfOf (hashOf key)] = p := by
  rw [locate_eq_ok, pieces_shelfPath, hc.walk_append, (plain_shelfOf key).walk_cons, walk,
    Except.ok.injEq]

theorem LiesAt.locate_entryPath (hc : c.LiesAt base) {p : Parts} :
    files.locate (c.entryPath key) = .ok p ↔ isPassable (c.entryPath key) ∧
      files.walk [] (pieces c.dir) = .ok base ∧ files.HasDirectory base ∧
      files.HasDirectory (base ++ [shelfOf (hashOf key)]) ∧
      base ++ [shelfOf (hashOf key), fileName key] = p := by
  rw [locate_eq_ok, pieces_entryPath, hc.walk_append, (plain_shelfOf key).walk_cons,
    (plain_fileName key).walk_cons, walk, Except.ok.injEq, ← List.append_cons]

/-- What is set on a shelf does not change the way to the directory. -/
theorem LiesAt.walk_set (hc : c.LiesAt base) (files : Tree) (node : Option Tree) {shelf : String}
    (hshelf : isShelf shelf) (r : Parts) {p : Parts} :
    (files.set node (base ++ shelf :: r)).walk [] (pieces c.dir) = .ok p ↔
      files.walk [] (pieces c.dir) = .ok p := by
  refine walk_congr fun q hq => Tree.at?_set fun hpre => hc.apart q hq shelf hshelf ?_
  exact List.IsPrefix.trans ⟨r, by simp⟩ hpre

end

/-! ### What the files show -/

/-- The files show exactly what is kept. -/
structure Mirrors (c : RouteCache) (base : Parts) (keys : List String) (files : Tree)
    (kept : List (String × RouteTable)) : Prop extends Shelved c base keys files kept where
  way : ∀ shelf, isShelf shelf → files.HasDirectory (base ++ [shelf]) →
    files.walk [] (pieces c.dir) = .ok base

section
variable {c : RouteCache} {base : Parts} {keys : List String} {files : Tree}
  {kept : List (String × RouteTable)} {key : String}

/-- A file of an entry can be read exactly if something is kept under its key. -/
theorem Mirrors.read_eq_ok_iff (h : Mirrors c base keys files kept) (hc : c.LiesAt base)
    (hkeys : Separate keys) (hkey : key ∈ keys) {text : String} :
    files.read (c.entryPath key) = .ok text ↔
      ∃ table, (key, table) ∈ kept ∧ (entryValue key table).write = text := by
  rw [read_eq_ok]
  constructor
  · rintro ⟨-, p, hp, hfile⟩
    obtain ⟨-, -, -, -, rfl⟩ := hc.locate_entryPath.1 hp
    obtain ⟨table, hmem, heq⟩ :=
      (h.find?_eq_some_iff hkeys hkey).1 (fileAt?_eq_some_iff.1 hfile)
    exact ⟨table, hmem, Tree.file.inj heq⟩
  · rintro ⟨table, hmem, rfl⟩
    have hfind := (h.find?_eq_some_iff hkeys hkey).2 ⟨table, hmem, rfl⟩
    have hchild := hfind
    rw [List.append_cons] at hchild
    have hshelf := hasDirectory_of_child hchild
    have hway := h.way _ (isShelf_shelfOf key) hshelf
    have hlocate := hc.locate_entryPath.2
      ⟨h.passable (key, table) hmem, hway, hasDirectory_of_below hshelf, hshelf, rfl⟩
    exact ⟨asksDirectory_entryPath c key, _, hlocate, fileAt?_eq_some_iff.2 hfind⟩

/-- An entry is written, or it is removed. -/
theorem Mirrors.set (h : Mirrors c base keys files kept) (hc : c.LiesAt base)
    (hkeys : Separate keys) (hkey : key ∈ keys)
    (hdir : files.HasDirectory (base ++ [shelfOf (hashOf key)])) (saved : Option RouteTable)
    (hpass : saved.isSome → isPassable (c.entryPath key)) :
    Mirrors c base keys
      (files.set (saved.map fun table => .file (entryValue key table).write)
        (base ++ [shelfOf (hashOf key), fileName key]))
      (kept.filter (·.1 != key) ++ saved.toList.map fun table => (key, table)) := by
  refine ⟨h.toShelved.set hkeys hkey hdir saved hpass, fun _ _ _ => ?_⟩
  rw [hc.walk_set files _ (isShelf_shelfOf key)]
  exact h.way _ (isShelf_shelfOf key) hdir

/-! ### Saving -/

/-- The shelf of an entry has been made, with all that is missing on the way to it. -/
theorem Mirrors.makeDirectories (h : Mirrors c base keys files kept) (hc : c.LiesAt base)
    {made : Tree} (hmade : files.makeDirectories (c.shelfPath key) = (made, true))
    (hway : made.walk [] (pieces c.dir) = .ok base) (hbase : made.HasDirectory base) :
    Mirrors c base keys made kept := by
  have hpoint : endsInPoint (c.shelfPath key) = false :=
    (plain_shelfOf key).endsInPoint_join c.dir
  obtain ⟨hpass, hpieces⟩ := makeDirectories_eq hpoint hmade
  rw [pieces_shelfPath] at hpieces
  obtain ⟨place, hplace, hlast⟩ := makeWay_append hpieces
  obtain rfl : base = place := Option.some.inj (hc.place.symm.trans hplace)
  have hmid := h.toShelved.makeWay hc.place hc.apart
  generalize (files.makeWay [] (pieces c.dir)).1 = mid at hmid hlast
  rw [makeWay, (plain_shelfOf key).enter?] at hlast
  dsimp only at hlast
  refine ⟨?_, fun _ _ _ => hway⟩
  split at hlast
  · obtain ⟨rfl, -⟩ := Prod.mk.inj hlast
    exact hmid
  · simp at hlast
  next hnone =>
    obtain ⟨rfl, -⟩ := Prod.mk.inj hlast
    have hne : base ≠ base ++ [shelfOf (hashOf key)] := by simp
    exact hmid.makeShelf ((at?_put_empty hnone hne).symm.trans hbase) hnone hpass

/-- A table has been saved under a key. -/
theorem Mirrors.save (h : Mirrors c base keys files kept) (hc : c.LiesAt base)
    (hkeys : Separate keys) (hkey : key ∈ keys) {table : RouteTable} {files' : Tree}
    (hsave : c.save files key table = (files', .ok ())) :
    Mirrors c base keys files' (kept.filter (·.1 != key) ++ [(key, table)]) := by
  obtain ⟨made, hmade, hwrite⟩ := exists_of_save_ok hsave
  obtain ⟨-, p, hp, -, rfl⟩ := write_eq_ok.1 hwrite
  obtain ⟨hpass, hway, hbase, hshelf, rfl⟩ := hc.locate_entryPath.1 hp
  exact (h.makeDirectories hc hmade hway hbase).set hc hkeys hkey hshelf (some table)
    fun _ => hpass

/-! ### Clearing -/

/-- Something is kept under a key exactly if its file can be read. -/
theorem Mirrors.any_iff (h : Mirrors c base keys files kept) (hc : c.LiesAt base)
    (hkeys : Separate keys) (hkey : key ∈ keys) :
    kept.any (·.1 == key) ↔ ∃ text, files.read (c.entryPath key) = .ok text := by
  simp only [h.read_eq_ok_iff hc hkeys hkey, List.any_eq_true, beq_iff_eq]
  constructor
  · rintro ⟨⟨_, table⟩, hmem, rfl⟩
    exact ⟨_, table, hmem, rfl⟩
  · rintro ⟨_, table, hmem, -⟩
    exact ⟨(key, table), hmem, rfl⟩

/-- The entry of a key has been removed, or there was none. -/
theorem Mirrors.clearKey (h : Mirrors c base keys files kept) (hc : c.LiesAt base)
    (hkeys : Separate keys) (hkey : key ∈ keys) {n : Nat} {files' : Tree}
    (hclear : c.clearKey files key = .ok (n, files')) :
    n = (if kept.any (·.1 == key) then 1 else 0) ∧
      Mirrors c base keys files' (kept.filter (·.1 != key)) := by
  have hany := h.any_iff hc hkeys hkey
  unfold RouteCache.clearKey at hclear
  split at hclear
  next removed hremove =>
    obtain ⟨rfl, rfl⟩ := Prod.mk.inj (Except.ok.inj hclear)
    obtain ⟨hread, p, hp, rfl⟩ := removeFile_eq_ok.1 hremove
    obtain ⟨-, -, -, hshelf, rfl⟩ := hc.locate_entryPath.1 hp
    have hset := h.set hc hkeys hkey hshelf none (by simp)
    rw [Option.toList_none, List.map_nil, List.append_nil] at hset
    exact ⟨(if_pos (hany.2 hread)).symm, hset⟩
  next hnone =>
    obtain ⟨rfl, rfl⟩ := Prod.mk.inj (Except.ok.inj hclear)
    have hnot : ¬ kept.any (·.1 == key) := by
      rw [hany]
      rintro ⟨text, hread⟩
      obtain ⟨-, p, hp, -⟩ := read_eq_ok.1 hread
      have hremove := removeFile_eq_ok.2 ⟨⟨text, hread⟩, p, hp, rfl⟩
      simp [hremove] at hnone
    have hsame : kept.filter (·.1 != key) = kept := by
      refine List.filter_eq_self.2 fun e he => bne_iff_ne.2 fun heq => hnot ?_
      exact List.any_eq_true.2 ⟨e, he, beq_iff_eq.2 heq⟩
    rw [hsame]
    exact ⟨(if_neg hnot).symm, h⟩
  · simp at hclear

/-- A shelf has been removed, and its entries have been counted. -/
theorem Mirrors.clearShelf (h : Mirrors c base keys files kept) (hc : c.LiesAt base)
    {shelf : String} {node : Tree} (hmem : (shelf, node) ∈ shelves files base) (n : Nat) :
    c.clearShelf (n, files) shelf =
        (n + (onShelf kept shelf).length, files.prune (base ++ [shelf])) ∧
      Mirrors c base keys (files.prune (base ++ [shelf]))
        (kept.filter fun e => shelfOf (hashOf e.1) != shelf) := by
  obtain ⟨hdir, key, hkey, hpass⟩ := h.shelf _ hmem
  dsimp only at hdir hkey
  subst hkey
  have hshelf : files.HasDirectory (base ++ [shelfOf (hashOf key)]) := by
    rw [HasDirectory, at?, h.find?_eq_some_of_mem hmem, Option.map_some, hdir]
  have hbase := hasDirectory_of_below hshelf
  have hway := h.way _ (isShelf_shelfOf key) hshelf
  have hlocate := hc.locate_shelfPath.2 ⟨hpass, hway, hbase, rfl⟩
  have hlist := list_eq_ok.2 ⟨_, hlocate, hshelf, rfl⟩
  have hremove := removeDirectory_eq_ok.2 ⟨_, hlocate, hshelf, rfl⟩
  have hentries := h.entries _ (isShelf_shelfOf key)
  have hjson : ((files.listing (base ++ [shelfOf (hashOf key)])).map (·.1)).filter
        (fun name => extension? name == some "json") =
      (files.listing (base ++ [shelfOf (hashOf key)])).map (·.1) := by
    refine List.filter_eq_self.2 fun name hname => ?_
    obtain ⟨e, he, rfl⟩ := List.mem_map.1 hname
    obtain ⟨k, -, -, rfl⟩ := mem_onShelf.1 (hentries.mem_iff.1 he)
    exact beq_iff_eq.2 (extension?_fileName k.1)
  refine ⟨?_, h.toShelved.removeShelf hbase (isShelf_shelfOf key), fun _ _ _ => ?_⟩
  · rw [RouteCache.clearShelf]
    rw [shelfPath] at hlist hremove
    simp only [isShelf_shelfOf, hlist, hremove, hjson, List.length_map, hentries.length_eq]
  · rw [prune, hc.walk_set files none (isShelf_shelfOf key)]
    exact hway

/-- All shelves have been removed, one after another. -/
theorem Mirrors.foldl_clearShelf (hc : c.LiesAt base) : ∀ (entries : List (String × Tree))
    {files : Tree} {kept : List (String × RouteTable)}, Mirrors c base keys files kept →
      shelves files base = entries → ∀ n, ∃ files',
        (entries.map (·.1)).foldl c.clearShelf (n, files) = (n + kept.length, files') ∧
          Mirrors c base keys files' []
  | [], files, kept, h, hshelves, n => by
    have hempty : ∀ shelf, isShelf shelf → ¬ files.HasDirectory (base ++ [shelf]) := by
      intro shelf hshelf hdir
      obtain ⟨below, hbelow⟩ := hasDirectory_iff.1 hdir
      rw [find?_shelf hshelf, hshelves] at hbelow
      simp at hbelow
    obtain rfl := h.eq_nil hempty
    exact ⟨files, rfl, h⟩
  | (shelf, node) :: entries, files, kept, h, hshelves, n => by
    have hmem : (shelf, node) ∈ shelves files base := hshelves ▸ List.mem_cons_self
    have hshelf : isShelf shelf := (List.mem_filter.1 hmem).2
    obtain ⟨hclear, hprune⟩ := h.clearShelf hc hmem n
    have hbase := hasDirectory_of_child (h.find?_eq_some_of_mem hmem)
    have hrest : shelves (files.prune (base ++ [shelf])) base = entries := by
      have hnames := h.names
      rw [hshelves, List.map_cons, List.nodup_cons] at hnames
      rw [prune, shelves_set_self hbase hshelf, hshelves, List.filter_cons_of_neg (by simp)]
      simp only [Option.toList_none, List.map_nil, List.append_nil]
      refine List.filter_eq_self.2 fun e he => bne_iff_ne.2 fun heq => hnames.1 ?_
      exact List.mem_map.2 ⟨e, he, heq⟩
    obtain ⟨files', hfold, hmirrors⟩ :=
      foldl_clearShelf hc entries hprune hrest (n + (onShelf kept shelf).length)
    refine ⟨files', ?_, hmirrors⟩
    rw [List.map_cons, List.foldl_cons, hclear, hfold, Nat.add_assoc, length_onShelf_add]

/-- What is no shelf is left alone. -/
theorem foldl_clearShelf_filter (c : RouteCache) (names : List String) (state : Nat × Tree) :
    (names.filter isShelf).foldl c.clearShelf state = names.foldl c.clearShelf state := by
  have hskip : ∀ (state : Nat × Tree) (name : String),
      (if isShelf name then c.clearShelf state name else state) = c.clearShelf state name := by
    intro state name
    unfold RouteCache.clearShelf
    cases isShelf name <;> simp
  simp only [List.foldl_filter, hskip]

/-- All entries have been removed and counted. -/
theorem Mirrors.clearAll (h : Mirrors c base keys files kept) (hc : c.LiesAt base) {n : Nat}
    {files' : Tree} (hclear : c.clearAll files = .ok (n, files')) :
    n = kept.length ∧ Mirrors c base keys files' [] := by
  unfold RouteCache.clearAll at hclear
  split at hclear
  next names hlist =>
    obtain ⟨p, hp, -, rfl⟩ := list_eq_ok.1 hlist
    obtain rfl := hc.eq_of_walk (locate_eq_ok.1 hp).2
    obtain ⟨files'', hfold, hmirrors⟩ := Mirrors.foldl_clearShelf hc _ h rfl 0
    have hnames : (shelves files p).map (·.1) = ((files.listing p).map (·.1)).filter isShelf := by
      rw [List.filter_map]
      rfl
    rw [hnames, foldl_clearShelf_filter] at hfold
    rw [hfold, Nat.zero_add] at hclear
    obtain ⟨rfl, rfl⟩ := Prod.mk.inj (Except.ok.inj hclear)
    exact ⟨rfl, hmirrors⟩
  next hnone =>
    obtain ⟨rfl, rfl⟩ := Prod.mk.inj (Except.ok.inj hclear)
    have hempty : ∀ shelf, isShelf shelf → ¬ files.HasDirectory (base ++ [shelf]) := by
      intro shelf hshelf hdir
      have hway := h.way shelf hshelf hdir
      cases hpass : isPassable c.dir with
      | true =>
        have hlocate := locate_eq_ok.2 ⟨hpass, hway⟩
        have hlist := list_eq_ok.2 ⟨base, hlocate, hasDirectory_of_below hdir, rfl⟩
        simp [hlist] at hnone
      | false => simp [list, look, locate, hpass, bind, Except.bind] at hnone
    obtain rfl := h.eq_nil hempty
    exact ⟨rfl, h⟩
  · simp at hclear

end

/-! ### Runs -/

/-- A call of a cache. -/
inductive Call where
  | save (key : String) (table : RouteTable)
  /-- The first route of the table gets the identity `id`. -/
  | load (id : Nat) (key : String)
  | contains (key : String)
  | clear (key : Option String)

/-- The key of a call, if it is about a single one. -/
def Call.key? : Call → Option String
  | save key _ => some key
  | load _ key => some key
  | contains key => some key
  | clear key => key

/-- What is answered to a call. -/
inductive Answer where
  | saved
  | found (table : Option RouteTable)
  | there (answer : Bool)
  | removed (count : Nat)
  /-- An operation on files has failed. -/
  | failed
  deriving DecidableEq

/-- Two answers that differ in nothing but the identities of routes. -/
inductive Answer.Alike : Answer → Answer → Prop
  | saved : Alike saved saved
  | found {t u} : Option.Rel RouteTable.Alike t u → Alike (found t) (found u)
  | there (answer) : Alike (there answer) (there answer)
  | removed (count) : Alike (removed count) (removed count)

/-- The files after saving, and the answer. -/
def Answer.ofSave : Tree × Except Fault Unit → Tree × Answer
  | (files, .ok _) => (files, saved)
  | (files, .error _) => (files, failed)

/-- The files after clearing, and the answer. A clearing that fails may leave them as they are. -/
def Answer.ofClear (files : Tree) : Except Fault (Nat × Tree) → Tree × Answer
  | .ok (n, files) => (files, removed n)
  | .error _ => (files, failed)

/-- The files after a call, and the answer. -/
def perform (c : RouteCache) (files : Tree) : Call → Tree × Answer
  | .save key table => Answer.ofSave (c.save files key table)
  | .load id key => (files, .found (c.load files id key))
  | .contains key => (files, .there (c.contains files key))
  | .clear key => Answer.ofClear files (c.clear files key)

/-- The answers to calls, one after another. -/
def answers (c : RouteCache) (files : Tree) : List Call → List Answer
  | [] => []
  | call :: calls =>
    (c.perform files call).2 :: c.answers (c.perform files call).1 calls

/-- What a call does to a dictionary of tables, and what it should answer. -/
def Call.expected (d : Dict RouteTable) : Call → Dict RouteTable × Answer
  | save key table => (d.insert key table, .saved)
  | load _ key => (d, .found (d.get? key))
  | contains key => (d, .there (d.get? key).isSome)
  | clear (some key) => (d.erase key, .removed (if (d.get? key).isSome then 1 else 0))
  | clear none => (.empty, .removed d.size)

/-- The answers that are expected of calls, one after another. -/
def expected (d : Dict RouteTable) : List Call → List Answer
  | [] => []
  | call :: calls => (call.expected d).2 :: expected (call.expected d).1 calls

/-- The text of the table's entry nests no more containers than may be nested. -/
def Readable (key : String) (table : RouteTable) : Prop :=
  table.Made ∧ (entryValue key table).nesting ≤ Json.maxDepth

/-- The files show a dictionary of tables, and all of them can be read again. -/
structure Shows (c : RouteCache) (base : Parts) (keys : List String) (files : Tree)
    (d : Dict RouteTable) : Prop extends Mirrors c base keys files d.entries where
  readable : ∀ e ∈ d.entries, Readable e.1 e.2

section
variable {c : RouteCache} {base : Parts} {keys : List String} {files : Tree}
  {d : Dict RouteTable} {key : String}

theorem Shows.save (h : Shows c base keys files d) (hc : c.LiesAt base) (hkeys : Separate keys)
    (hkey : key ∈ keys) {table : RouteTable} (htable : Readable key table) {files' : Tree}
    (hsave : c.save files key table = (files', .ok ())) :
    Shows c base keys files' (d.insert key table) := by
  have hmirrors := h.toMirrors.save hc hkeys hkey hsave
  have hperm := (Dict.insertEntry_perm key table d.ascending).symm
  refine ⟨⟨hmirrors.toShelved.perm hperm, hmirrors.way⟩, fun e he => ?_⟩
  rcases Dict.mem_insertEntry he with rfl | he
  · exact htable
  · exact h.readable e he

theorem Shows.load (h : Shows c base keys files d) (hc : c.LiesAt base) (hkeys : Separate keys)
    (hkey : key ∈ keys) (id : Nat) :
    Option.Rel RouteTable.Alike (c.load files id key) (d.get? key) := by
  have hread : ∀ text, files.read (c.entryPath key) = .ok text ↔
      ∃ table, (key, table) ∈ d.entries ∧ (entryValue key table).write = text := fun _ =>
    h.read_eq_ok_iff hc hkeys hkey
  cases hget : d.get? key with
  | some table =>
    have hmem := Dict.get?_eq_some_iff.1 hget
    obtain ⟨hmade, hnesting⟩ := h.readable _ hmem
    obtain ⟨u, halike, hload⟩ :=
      load_of_read hmade.sound ((hread _).2 ⟨table, hmem, rfl⟩) id
    rw [hload, if_pos hnesting]
    exact .some halike
  | none =>
    have hload : c.load files id key = none := by
      rw [Option.eq_none_iff_forall_ne_some]
      intro t ht
      obtain ⟨text, htext, -⟩ := load_eq_some.1 ht
      obtain ⟨table, hmem, -⟩ := (hread text).1 htext
      rw [Dict.get?_eq_some_iff.2 hmem] at hget
      simp at hget
    rw [hload]
    exact .none

theorem Shows.contains (h : Shows c base keys files d) (hc : c.LiesAt base)
    (hkeys : Separate keys) (hkey : key ∈ keys) :
    c.contains files key = (d.get? key).isSome := by
  rw [← Dict.contains_eq_isSome, Bool.eq_iff_iff, RouteCache.contains, isFile_iff,
    Dict.contains, h.any_iff hc hkeys hkey]

theorem Shows.clear (h : Shows c base keys files d) (hc : c.LiesAt base) (hkeys : Separate keys)
    {key : Option String} (hkey : ∀ k ∈ key, k ∈ keys) {n : Nat} {files' : Tree}
    (hclear : c.clear files key = .ok (n, files')) :
    Answer.removed n = ((Call.clear key).expected d).2 ∧
      Shows c base keys files' ((Call.clear key).expected d).1 := by
  cases key with
  | some key =>
    obtain ⟨rfl, hmirrors⟩ := h.toMirrors.clearKey hc hkeys (hkey key rfl) hclear
    refine ⟨?_, hmirrors, fun e he => h.readable e (List.mem_of_mem_filter he)⟩
    rw [Call.expected, ← Dict.contains_eq_isSome, Dict.contains]
  | none =>
    obtain ⟨rfl, hmirrors⟩ := h.toMirrors.clearAll hc hclear
    exact ⟨rfl, hmirrors, fun e he => absurd he List.not_mem_nil⟩

/-- A call is answered as expected, and the files show what is kept then. -/
theorem Shows.perform (h : Shows c base keys files d) (hc : c.LiesAt base)
    (hkeys : Separate keys) {call : Call} (hkey : ∀ key ∈ call.key?, key ∈ keys)
    (htable : ∀ key table, call = .save key table → Readable key table)
    (hok : (c.perform files call).2 ≠ .failed) :
    (c.perform files call).2.Alike (call.expected d).2 ∧
      Shows c base keys (c.perform files call).1 (call.expected d).1 := by
  cases call with
  | save key table =>
    cases hsave : c.save files key table with
    | mk files' result =>
      rw [RouteCache.perform, hsave] at hok ⊢
      cases result with
      | ok _ => exact ⟨.saved, h.save hc hkeys (hkey key rfl) (htable key table rfl) hsave⟩
      | error fault => exact absurd rfl hok
  | load id key => exact ⟨.found (h.load hc hkeys (hkey key rfl) id), h⟩
  | contains key =>
    rw [RouteCache.perform, h.contains hc hkeys (hkey key rfl)]
    exact ⟨.there _, h⟩
  | clear key =>
    cases hclear : c.clear files key with
    | ok result =>
      obtain ⟨n, files'⟩ := result
      have hkey' : ∀ k ∈ key, k ∈ keys := hkey
      obtain ⟨hanswer, hshows⟩ := h.clear hc hkeys hkey' hclear
      rw [RouteCache.perform, hclear, ← hanswer]
      exact ⟨.removed n, hshows⟩
    | error fault =>
      rw [RouteCache.perform, hclear] at hok
      exact absurd rfl hok

/-- Calls are answered as expected, one after another. -/
theorem Shows.answers (hc : c.LiesAt base) (hkeys : Separate keys) : ∀ (calls : List Call)
    {files : Tree} {d : Dict RouteTable}, Shows c base keys files d →
      (∀ call ∈ calls, ∀ key ∈ call.key?, key ∈ keys) →
      (∀ key table, .save key table ∈ calls → Readable key table) →
      .failed ∉ c.answers files calls →
        List.Forall₂ Answer.Alike (c.answers files calls) (expected d calls)
  | [], _, _, _, _, _, _ => .nil
  | call :: calls, files, d, h, hkey, htable, hok => by
    obtain ⟨hfirst, hrest⟩ := List.forall_mem_cons.1 hkey
    rw [RouteCache.answers, List.mem_cons, not_or] at hok
    obtain ⟨halike, hshows⟩ := h.perform hc hkeys hfirst
      (fun key table heq => htable key table (heq ▸ List.mem_cons_self)) (Ne.symm hok.1)
    have hmore := fun key table hmem => htable key table (List.mem_cons_of_mem call hmem)
    exact .cons halike (Shows.answers hc hkeys calls hshows hrest hmore hok.2)

end

/-! ### Paths that lead nowhere

A name in the path may be too long. Then nothing can be saved, and there is nothing to be found. -/

section
variable {c : RouteCache} {files : Tree} {key : String}

end

/-! ### The result -/

end Routing.RouteCache
