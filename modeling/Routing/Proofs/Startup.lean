import Routing.Proofs.Cache
import Routing.Proofs.Key
import Routing.Workspace

/-!
Starts with a cache. A table that a start takes from the cache is the one that it would have built:
the entry under the key of definitions has been saved by a start with the same definitions, since
neither the bytes of definitions nor their keys are those of other definitions, unless the hash
function collides.

    start ds      built, saved under keyOf ds
    start ds      from the cache      the same table
    clear
    start ds      built               the same table

Whether the second start finds the table depends on how deep its text is nested. What is written may
be nested deeper than what is read.
-/

namespace Routing

open Json

namespace Bootstrap

/-! ### One start -/

section
variable {files : Files.Tree} {id : Nat} {s : Settings} {c : RouteCache}
  {ds : List RouteDefinition}

/-- A start with a table in the cache. -/
theorem start_of_some {t : RouteTable} (h : cached? files id s ds = some t) :
    start files id s ds = ⟨t, true, [], files⟩ := by
  unfold start
  rw [h]

/-- A start without a table in the cache. -/
theorem start_of_none (h : cached? files id s ds = none) :
    start files id s ds = ⟨(RouteTable.build id ds).table, false, (RouteTable.build id ds).faults,
      (keep files s ds (RouteTable.build id ds)).1⟩ := by
  unfold start
  rw [h]

theorem cached?_of_cache (hcache : s.cache? = some c) :
    cached? files id s ds = c.load files id (keyOf ds) := by
  rw [cached?, hcache, Option.bind_some]

/-- The table of a start is taken from the cache if the cache has one. -/
theorem fromCache_start (hcache : s.cache? = some c) :
    (start files id s ds).fromCache = (c.load files id (keyOf ds)).isSome := by
  cases h : c.load files id (keyOf ds) with
  | some t => rw [start_of_some ((cached?_of_cache hcache).trans h)]; rfl
  | none => rw [start_of_none ((cached?_of_cache hcache).trans h)]; rfl

/-- What a start does to files: nothing, or it saves what it has built without faults. -/
theorem files_start (files : Files.Tree) (id : Nat) (s : Settings) (ds : List RouteDefinition) :
    (start files id s ds).files = files ∨ ∃ c, s.cache? = some c ∧
      (RouteTable.build id ds).faults = [] ∧ (start files id s ds).files =
        (c.save files (keyOf ds) (RouteTable.build id ds).table).1 := by
  cases h : cached? files id s ds with
  | some t => exact .inl (by rw [start_of_some h])
  | none =>
    rw [start_of_none h]
    unfold keep
    dsimp only
    cases hcache : s.cache? with
    | none => exact .inl rfl
    | some c =>
      dsimp only
      split
      next hbuilt => exact .inr ⟨c, rfl, hbuilt, rfl⟩
      · exact .inl rfl

/-- A start whose table is not in the cache saves it, and it is found afterwards unless it is nested
too deep. -/
theorem load_start (id' : Nat) (hcache : s.cache? = some c)
    (hload : c.load files id (keyOf ds) = none) (hbuilt : (RouteTable.build id ds).faults = [])
    (hsaved : (c.save files (keyOf ds) (RouteTable.build id ds).table).2 = .ok ()) :
    ∃ u : RouteTable, u.Alike (RouteTable.build id ds).table ∧
      c.load (start files id s ds).files id' (keyOf ds) =
        if (RouteCache.entryValue (keyOf ds) (RouteTable.build id ds).table).nesting ≤ maxDepth then
          some u
        else none := by
  have hfiles : (start files id s ds).files =
      (c.save files (keyOf ds) (RouteTable.build id ds).table).1 := by
    rw [start_of_none ((cached?_of_cache hcache).trans hload)]
    unfold keep
    rw [hcache]
    simp only [if_pos hbuilt]
  rw [hfiles]
  have hsound := (RouteTable.made_build id ds).sound
  exact RouteCache.load_of_read hsound (RouteCache.read_save hsaved) id'

/-- A second start over the same definitions has the table of the first one. It is taken from the
cache exactly if that of the first one is, or if what the first one saves is not nested too deep. -/
theorem start_again (id' : Nat) (hcache : s.cache? = some c)
    (hbuilt : (RouteTable.build id ds).faults = [])
    (hsaved : (c.save files (keyOf ds) (RouteTable.build id ds).table).2 = .ok ()) :
    let first := start files id s ds
    let second := start first.files id' s ds
    second.table.Alike first.table ∧
      (second.fromCache ↔ first.fromCache ∨
        (RouteCache.entryValue (keyOf ds) (RouteTable.build id ds).table).nesting ≤ maxDepth) := by
  intro first second
  cases hload : c.load files id (keyOf ds) with
  | some t =>
    have hfirst : first = ⟨t, true, [], files⟩ :=
      start_of_some ((cached?_of_cache hcache).trans hload)
    have halike := c.load_alike files id id' (keyOf ds)
    rw [hload] at halike
    generalize hagain : c.load files id' (keyOf ds) = found at halike
    obtain @⟨_, u, halike⟩ := halike
    have hsecond : second = ⟨u, true, [], files⟩ := by
      have heq : second = start first.files id' s ds := rfl
      rw [heq, hfirst]
      exact start_of_some ((cached?_of_cache hcache).trans hagain)
    rw [hfirst, hsecond]
    exact ⟨halike.symm, by simp⟩
  | none =>
    have hfirst : first = ⟨_, false, _, _⟩ :=
      start_of_none ((cached?_of_cache hcache).trans hload)
    have htable : first.table = (RouteTable.build id ds).table := by rw [hfirst]
    have hnew : first.fromCache = false := by rw [hfirst]
    obtain ⟨u, halike, hagain⟩ := load_start id' hcache hload hbuilt hsaved
    rw [htable, hnew]
    split at hagain
    next hnesting =>
      have hsecond : second = ⟨u, true, [], first.files⟩ :=
        start_of_some ((cached?_of_cache hcache).trans hagain)
      rw [hsecond]
      exact ⟨halike, by simp [hnesting]⟩
    next hnesting =>
      have hsecond : second = ⟨_, false, _, _⟩ :=
        start_of_none ((cached?_of_cache hcache).trans hagain)
      rw [hsecond]
      exact ⟨(RouteTable.build_alike id' id ds).1, by simp [hnesting]⟩

/-- The table of a blog is found by the second start. -/
theorem start_again_blog :
    let s : Settings := { Settings.default with cacheRoutes := true, cacheDir := some "cache" }
    let blog : RouteDefinition := ⟨some "blog", "blog(/<id>)", .empty, .empty⟩
    let built := RouteTable.build 0 [blog]
    let first := start .empty 0 s [blog]
    let second := start first.files 1 s [blog]
    built.faults = [] ∧ (RouteCache.save ⟨"cache"⟩ .empty (keyOf [blog]) built.table).2 = .ok () ∧
      second.table.Alike first.table ∧ second.fromCache := by
  intro s blog
  have hcache : s.cache? = some ⟨"cache"⟩ := rfl
  obtain ⟨hbuilt, hsaved, hnesting⟩ : (RouteTable.build 0 [blog]).faults = [] ∧
      (RouteCache.save ⟨"cache"⟩ .empty (keyOf [blog]) (RouteTable.build 0 [blog]).table).2 =
        .ok () ∧
      (RouteCache.entryValue (keyOf [blog]) (RouteTable.build 0 [blog]).table).nesting ≤
        maxDepth := by
    decide +kernel
  have hagain := start_again 1 hcache hbuilt hsaved
  exact ⟨hbuilt, hsaved, hagain.1, hagain.2.2 (.inr hnesting)⟩

/-- The table of a route with 61 optional parts within each other is saved, and is not found by the
second start: the entry nests 129 containers. -/
theorem start_again_deep :
    let s : Settings := { Settings.default with cacheRoutes := true, cacheDir := some "cache" }
    let deep : RouteDefinition := ⟨none,
      "(((((((((((((((((((((((((((((((((((((((((((((((((((((((((((((b" ++
        ")))))))))))))))))))))))))))))))))))))))))))))))))))))))))))))", .empty, .empty⟩
    let built := RouteTable.build 0 [deep]
    let first := start .empty 0 s [deep]
    let second := start first.files 1 s [deep]
    built.faults = [] ∧ (RouteCache.save ⟨"cache"⟩ .empty (keyOf [deep]) built.table).2 = .ok () ∧
      first.fromCache = false ∧ second.fromCache = false := by
  intro s deep
  have hcache : s.cache? = some ⟨"cache"⟩ := rfl
  obtain ⟨hbuilt, hsaved, hnesting⟩ : (RouteTable.build 0 [deep]).faults = [] ∧
      (RouteCache.save ⟨"cache"⟩ .empty (keyOf [deep]) (RouteTable.build 0 [deep]).table).2 =
        .ok () ∧
      ¬ (RouteCache.entryValue (keyOf [deep]) (RouteTable.build 0 [deep]).table).nesting ≤
        maxDepth := by
    decide +kernel
  have hload : RouteCache.load ⟨"cache"⟩ .empty 0 (keyOf [deep]) = none :=
    RouteCache.load_eq_none (RouteCache.stored?_empty _ _) 0
  obtain ⟨u, -, hagain⟩ := load_start 1 hcache hload hbuilt hsaved
  rw [if_neg hnesting] at hagain
  have hfirst : (start .empty 0 s [deep]).fromCache = false := by
    rw [fromCache_start hcache, hload]
    rfl
  have hsecond : (start (start .empty 0 s [deep]).files 1 s [deep]).fromCache = false := by
    rw [fromCache_start hcache, hagain]
    rfl
  exact ⟨hbuilt, hsaved, hfirst, hsecond⟩

end

end Bootstrap

/-! ### Runs -/

namespace Workspace

theorem bootstrap_snd (w : Workspace) (s : Settings) (ds : List RouteDefinition) :
    (w.bootstrap s ds).2 = Bootstrap.start w.files w.nextId s ds := rfl

theorem bootstrap_files (w : Workspace) (s : Settings) (ds : List RouteDefinition) :
    (w.bootstrap s ds).1.files = (Bootstrap.start w.files w.nextId s ds).files := rfl

theorem bootstrap_installed (w : Workspace) (s : Settings) (ds : List RouteDefinition) :
    (w.bootstrap s ds).1.installed = (w.bootstrap s ds).2.table := rfl

end Workspace

/-- A start: what the workspace was before, and what it started with. -/
structure Start where
  workspace : Workspace
  settings : Settings
  definitions : List RouteDefinition

namespace RouteCache

/-- What may be done to a workspace by which a cache is used: starts with this cache or with none,
clearings, and anything else that does not write entries. The starts are listed, the last one
first. -/
inductive Runs (c : RouteCache) : List Start → Workspace → Prop
  /-- At the beginning there are no entries. -/
  | fresh {w} : (∀ key, c.stored? w.files key = none) → Runs c [] w
  | started {starts w} (s ds) : Runs c starts w → s.cache? = none ∨ s.cache? = some c →
      Runs c (⟨w, s, ds⟩ :: starts) (w.bootstrap s ds).1
  /-- A start fails to save, and leaves the entries as they are. -/
  | unsaved {starts w} (s ds files) : Runs c starts w → s.cache? = none ∨ s.cache? = some c →
      (∀ key, c.stored? files key = c.stored? w.files key) →
      Runs c (⟨w, s, ds⟩ :: starts) { (w.bootstrap s ds).1 with files }
  | cleared {starts w key n files} : Runs c starts w → c.clear w.files key = .ok (n, files) →
      Runs c starts { w with files }
  /-- Anything else, such as a clearing that fails on its way: entries may be lost. -/
  | other {starts w} (w') : Runs c starts w →
      (∀ key, c.stored? w'.files key = c.stored? w.files key ∨ c.stored? w'.files key = none) →
      Runs c starts w'

/-- Every entry has been written by one of the starts, for what was built without faults. -/
def Kept (c : RouteCache) (starts : List Start) (files : Files.Tree) : Prop :=
  ∀ key text, c.stored? files key = some text → ∃ st ∈ starts, ∃ id,
    (RouteTable.build id st.definitions).faults = [] ∧
      text = (entryValue (keyOf st.definitions) (RouteTable.build id st.definitions).table).write

variable {c : RouteCache} {starts : List Start} {w : Workspace} {files files' : Files.Tree}

/-- Entries may be lost. -/
theorem Kept.loses (h : c.Kept starts files)
    (hlose : ∀ key, c.stored? files' key = c.stored? files key ∨ c.stored? files' key = none) :
    c.Kept starts files' := by
  intro key text htext
  rcases hlose key with heq | hnone
  · exact h key text (heq ▸ htext)
  · simp [hnone] at htext

theorem Kept.cons (h : c.Kept starts files) (st : Start) : c.Kept (st :: starts) files := by
  intro key text htext
  obtain ⟨st', hst', hwritten⟩ := h key text htext
  exact ⟨st', List.mem_cons_of_mem _ hst', hwritten⟩

/-- A start writes what it has built, or nothing. -/
theorem Kept.started (h : c.Kept starts w.files) {s : Settings}
    (hs : s.cache? = none ∨ s.cache? = some c) (ds : List RouteDefinition) :
    c.Kept (⟨w, s, ds⟩ :: starts) (Bootstrap.start w.files w.nextId s ds).files := by
  have hbefore := h.cons ⟨w, s, ds⟩
  rcases Bootstrap.files_start w.files w.nextId s ds with heq | ⟨c', hcache, hbuilt, heq⟩
  · rwa [heq]
  · obtain rfl : c' = c := by simpa [hcache] using hs
    rw [heq]
    intro key text htext
    rcases c'.stored?_save w.files (keyOf ds) (RouteTable.build w.nextId ds).table key with
      hsame | hnone | hwritten
    · exact hbefore key text (hsame ▸ htext)
    · simp [hnone] at htext
    · rw [hwritten] at htext
      exact ⟨_, List.mem_cons_self, w.nextId, hbuilt, (Option.some.inj htext).symm⟩

/-- Whatever is done, entries are written by starts. -/
theorem Runs.kept (h : c.Runs starts w) : c.Kept starts w.files := by
  induction h with
  | fresh hnone => exact fun key text htext => by simp [hnone] at htext
  | started s ds _ hs ih => exact ih.started hs ds
  | unsaved s ds files _ _ hsame ih => exact (ih.cons _).loses fun key => .inl (hsame key)
  | cleared _ hclear ih => exact ih.loses (stored?_clear hclear)
  | other w' _ hlose ih => exact ih.loses hlose

/-- Every start of a run comes upon entries that starts of the run have written. -/
theorem Runs.kept_start (h : c.Runs starts w) : ∀ st ∈ starts,
    (st.settings.cache? = none ∨ st.settings.cache? = some c) ∧
      c.Kept starts st.workspace.files := by
  have hcons : ∀ {w starts s ds}, c.Runs starts w → s.cache? = none ∨ s.cache? = some c →
      (∀ st ∈ starts, (st.settings.cache? = none ∨ st.settings.cache? = some c) ∧
        c.Kept starts st.workspace.files) →
      ∀ st ∈ (⟨w, s, ds⟩ : Start) :: starts,
        (st.settings.cache? = none ∨ st.settings.cache? = some c) ∧
          c.Kept (⟨w, s, ds⟩ :: starts) st.workspace.files := by
    intro w starts s ds hrun hs ih st hst
    rcases List.mem_cons.1 hst with rfl | hst
    · exact ⟨hs, hrun.kept.cons _⟩
    · exact ⟨(ih st hst).1, (ih st hst).2.cons _⟩
  induction h with
  | fresh _ => simp
  | started s ds hrun hs ih => exact hcons hrun hs ih
  | unsaved s ds files hrun hs _ ih => exact hcons hrun hs ih
  | cleared _ _ ih => exact ih
  | other _ _ _ ih => exact ih

/-- The hash function has one value for different definitions only if their bytes are the same. -/
def NoCollision (dss : List (List RouteDefinition)) : Prop :=
  ∀ ds ∈ dss, ∀ ds' ∈ dss,
    Bytes.Sha256.hash (keyBytes ds) = Bytes.Sha256.hash (keyBytes ds') → keyBytes ds = keyBytes ds'

instance (dss : List (List RouteDefinition)) : Decidable (NoCollision dss) :=
  inferInstanceAs (Decidable (∀ _ ∈ _, ∀ _ ∈ _, _))

/-- A table that is found under the key of definitions is the table of these definitions. -/
theorem Kept.alike_of_load (h : c.Kept starts files)
    (hhash : NoCollision (starts.map (·.definitions))) {ds : List RouteDefinition}
    (hds : ds ∈ starts.map (·.definitions)) {id id' : Nat} {t : RouteTable}
    (hload : c.load files id (keyOf ds) = some t) :
    t.Alike (RouteTable.build id' ds).table ∧ (RouteTable.build id' ds).faults = [] := by
  obtain ⟨text, hread, hdecode⟩ := load_eq_some.1 hload
  obtain ⟨st, hst, k, hbuilt, rfl⟩ := h _ _ (stored?_of_read hread)
  obtain ⟨u, halike, hentry⟩ :=
    decode_entryValue (RouteTable.made_build k st.definitions).sound id (keyOf st.definitions)
  rw [hdecode] at hentry
  unfold within at hentry
  split at hentry
  · obtain ⟨-, hkey, rfl⟩ := CacheEntry.mk.inj (Except.ok.inj hentry)
    have hbytes := hhash ds hds _ (List.mem_map_of_mem hst) (hash_of_keyOf hkey)
    obtain rfl := keyBytes_injective hbytes
    obtain ⟨htable, hfaults⟩ := RouteTable.build_alike k id' st.definitions
    exact ⟨halike.trans htable, hfaults ▸ hbuilt⟩
  · simp at hentry

/-- Every start of a run installs the table that is built of its definitions, and reports the faults
that occur then, whether the table comes from the cache or not. -/
theorem Runs.installed_alike (h : c.Runs starts w)
    (hhash : NoCollision (starts.map (·.definitions))) : ∀ st ∈ starts, ∀ id,
      let after := st.workspace.bootstrap st.settings st.definitions
      let built := RouteTable.build id st.definitions
      after.1.installed.Alike built.table ∧ after.2.table = after.1.installed ∧
        after.2.faults = built.faults := by
  intro st hst id after built
  obtain ⟨hs, hkept⟩ := h.kept_start st hst
  rw [Workspace.bootstrap_installed, Workspace.bootstrap_snd]
  cases hcached : Bootstrap.cached? st.workspace.files st.workspace.nextId st.settings
    st.definitions with
  | none =>
    obtain ⟨htable, hfaults⟩ := RouteTable.build_alike st.workspace.nextId id st.definitions
    rw [Bootstrap.start_of_none hcached]
    exact ⟨htable, rfl, hfaults⟩
  | some t =>
    rw [Bootstrap.start_of_some hcached]
    rcases hs with hnone | hcache
    · simp [Bootstrap.cached?, hnone] at hcached
    · rw [Bootstrap.cached?_of_cache hcache] at hcached
      obtain ⟨htable, hfaults⟩ :=
        hkept.alike_of_load hhash (List.mem_map_of_mem hst) hcached
      exact ⟨htable, rfl, hfaults.symm⟩

/-- Two starts for a blog, and one for something else: the second one finds what the first one
saved. -/
theorem installed_alike_blog :
    let s : Settings := { Settings.default with cacheRoutes := true, cacheDir := some "cache" }
    let blog : RouteDefinition := ⟨none, "blog/<id>", .empty, .empty⟩
    let admin : RouteDefinition := ⟨some "admin", "admin(/<controller>)", .empty, .empty⟩
    let w := Workspace.ofFiles .empty
    let w' := (w.bootstrap s [blog]).1
    let second := w'.bootstrap s [blog]
    let third := second.1.bootstrap s [admin]
    Runs ⟨"cache"⟩ [⟨second.1, s, [admin]⟩, ⟨w', s, [blog]⟩, ⟨w, s, [blog]⟩] third.1 ∧
      NoCollision [[admin], [blog], [blog]] ∧ second.2.fromCache ∧
      second.1.installed.Alike (RouteTable.build 0 [blog]).table ∧
      third.1.installed.Alike (RouteTable.build 0 [admin]).table := by
  intro s blog admin
  have hcache : s.cache? = some ⟨"cache"⟩ := rfl
  have hrun := Runs.started s [admin] (.started s [blog] (.started s [blog]
    (.fresh (w := .ofFiles .empty) (stored?_empty ⟨"cache"⟩)) (.inr hcache)) (.inr hcache))
    (.inr hcache)
  have hhash : NoCollision [[admin], [blog], [blog]] := by decide +kernel
  obtain ⟨hbuilt, hsaved, hnesting⟩ : (RouteTable.build 0 [blog]).faults = [] ∧
      (save ⟨"cache"⟩ .empty (keyOf [blog]) (RouteTable.build 0 [blog]).table).2 = .ok () ∧
        (entryValue (keyOf [blog]) (RouteTable.build 0 [blog]).table).nesting ≤ maxDepth := by
    decide +kernel
  have hfrom :
      (((Workspace.ofFiles .empty).bootstrap s [blog]).1.bootstrap s [blog]).2.fromCache := by
    rw [Workspace.bootstrap_snd, Workspace.bootstrap_files, Bootstrap.fromCache_start hcache]
    obtain ⟨u, -, hload⟩ := Bootstrap.load_start _ hcache
      (load_eq_none (stored?_empty _ _) 0) hbuilt hsaved
    rw [if_pos hnesting] at hload
    exact congrArg Option.isSome hload
  have hinstalled := hrun.installed_alike hhash
  exact ⟨hrun, hhash, hfrom, (hinstalled _ (.tail _ (.head _)) 0).1, (hinstalled _ (.head _) 0).1⟩

end RouteCache

end Routing
