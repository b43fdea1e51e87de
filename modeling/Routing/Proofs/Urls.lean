import Mathlib.Data.List.DropRight
import Routing.Proofs.Outcome
import Routing.Table

/-!
URLs that are joined from a base and a path. Whatever slashes there are where the two meet, one is
left between them, and what follows the base leads where the path alone leads.

    base      path       joined        the rest   leads where this leads
    /app//    //news/    /app/news/    /news/     //news/
    (none)    //news     /news         /news      //news
    ///       (none)     /             /          (none)

So a URL without an origin does not start with two slashes if its base has nothing but slashes: no
value of a parameter can make the address of another host of it.
-/

namespace Routing

/-- A text starts with a slash, and with one only. -/
def OneSlash (s : String) : Prop := ∃ rest, s.toList = '/' :: rest ∧ rest.head? ≠ some '/'

/-- `kept` is the text without the slashes at its end. -/
structure Bared (s kept : String) : Prop where
  slashes : ∃ n, s.toList = kept.toList ++ List.replicate n '/'
  bare : kept.toList.getLast? ≠ some '/'

/-! ### Slashes at the ends of a text -/

theorem head?_dropSlashes (cs : List Char) : (dropSlashes cs).head? ≠ some '/' := by
  intro h
  have hnot := List.head?_dropWhile_not (· == '/') cs
  rw [show (cs.dropWhile (· == '/')).head? = some '/' from h] at hnot
  simp at hnot

theorem dropSlashes_slash (cs : List Char) :
    dropSlashes ('/' :: dropSlashes cs) = dropSlashes cs := by
  have hslash : dropSlashes ('/' :: dropSlashes cs) = dropSlashes (dropSlashes cs) := rfl
  rw [hslash]
  exact List.dropWhile_idempotent _ _

theorem bared_dropSlashesRight (s : String) :
    Bared s (String.ofList (dropSlashesRight s.toList)) := by
  have hsplit : dropSlashesRight s.toList ++ s.toList.rtakeWhile (· == '/') = s.toList :=
    List.rdropWhile_append_rtakeWhile
  have hslashes : ∀ c ∈ s.toList.rtakeWhile (· == '/'), c = '/' := fun c hc => by
    simpa using List.mem_rtakeWhile_imp hc
  refine ⟨⟨(s.toList.rtakeWhile (· == '/')).length, ?_⟩, ?_⟩
  · rw [← List.eq_replicate_of_mem hslashes, String.toList_ofList, hsplit]
  · rw [String.toList_ofList, dropSlashesRight, List.getLast?_reverse]
    exact head?_dropSlashes _

/-- Of slashes alone nothing is left. -/
theorem dropSlashesRight_eq_nil {cs : List Char} (h : ∀ c ∈ cs, c = '/') :
    dropSlashesRight cs = [] :=
  List.rdropWhile_eq_nil_iff.2 fun c hc => by simpa using h c hc

/-! ### Joining -/

/-- What stands behind the base in a URL: the path behind one slash. -/
def rooted (uri : String) : String := String.ofList ('/' :: dropSlashes uri.toList)

theorem oneSlash_rooted (uri : String) : OneSlash (rooted uri) :=
  ⟨dropSlashes uri.toList, String.toList_ofList, head?_dropSlashes uri.toList⟩

theorem joinBase_eq (base uri : String) :
    joinBase base uri = String.ofList (dropSlashesRight base.toList) ++ rooted uri := by
  rw [joinBase, rooted, String.ofList_append]

theorem normalizePath_rooted (uri : String) : normalizePath (rooted uri) = normalizePath uri := by
  rw [normalizePath, rooted, String.toList_ofList, dropSlashes_slash]
  rfl

/-- A route sees of a path only what is between the slashes at its ends. -/
theorem Route.matchPath_congr (r : Route) {path path' : String}
    (h : normalizePath path = normalizePath path') : r.matchPath path = r.matchPath path' := by
  rw [matchPath, matchPath, h]

theorem RouteTable.firstMatch_congr (t : RouteTable) {path path' : String}
    (h : normalizePath path = normalizePath path') : t.firstMatch path = t.firstMatch path' := by
  simp only [firstMatch, Route.matchPath_congr _ h]

namespace Route

variable {r : Route} {params : Params} {base : String}

/-- What keeps a path from being built keeps the URL from being built. -/
theorem url_none (r : Route) (params : Params) (base : String) :
    r.url params base none = (r.uri params).map (joinBase base) := by
  rw [url]
  cases r.uri params <;> rfl

/-- The origin is put before the URL that there is without it. -/
theorem url_some (r : Route) (params : Params) (base : String) (origin : Origin) :
    r.url params base (some origin) =
      (r.url params base none).map (origin.protocol ++ "://" ++ origin.host ++ ·) := by
  rw [url_none, url]
  cases r.uri params <;> rfl

/-- A URL over a base of slashes starts with one. -/
theorem oneSlash_url (hbase : ∀ c ∈ base.toList, c = '/') {u : String}
    (h : r.url params base none = .ok u) : OneSlash u := by
  rw [url_none] at h
  obtain ⟨uri, -, rfl⟩ := map_eq_ok.1 h
  rw [joinBase_eq, dropSlashesRight_eq_nil hbase]
  simpa using oneSlash_rooted uri

/-- What is joined to a base is one slash and a path that leads where the given one leads, in every
table of routes. A URL is joined from the base and the path of the route, if that can be built, and
the origin is put before it. Over a base of slashes it starts with one. -/
theorem url_leads_back (base uri : String) (r : Route) (params : Params) (origin : Origin) :
    (∃ kept rest, joinBase base uri = kept ++ rest ∧ Bared base kept ∧ OneSlash rest ∧
      normalizePath rest = normalizePath uri ∧
      ∀ t : RouteTable, t.firstMatch rest = t.firstMatch uri) ∧
    r.url params base none = (r.uri params).map (joinBase base) ∧
    r.url params base (some origin) =
      (r.url params base none).map (origin.protocol ++ "://" ++ origin.host ++ ·) ∧
    (∀ fault, r.uri params = .error fault →
      r.url params base none = .error fault ∧ r.url params base (some origin) = .error fault) ∧
    ((∀ c ∈ base.toList, c = '/') → ∀ u, r.url params base none = .ok u → OneSlash u) := by
  refine ⟨⟨String.ofList (dropSlashesRight base.toList), rooted uri, joinBase_eq base uri,
    bared_dropSlashesRight base, oneSlash_rooted uri, normalizePath_rooted uri, fun t => ?_⟩,
    url_none r params base, url_some r params base origin, fun fault hfault => ?_,
    fun hbase u hu => oneSlash_url hbase hu⟩
  · exact t.firstMatch_congr (normalizePath_rooted uri)
  · rw [url_some, url_none, hfault]
    exact ⟨rfl, rfl⟩

/-- A pattern that reads like the address of another host does not become one, and a parameter that
is missing is missing in the URL. -/
theorem url_leads_back_host :
    (∃ r, compile "//example.com" default = .ok r ∧ r.url .empty "//" none = .ok "/example.com" ∧
      OneSlash "/example.com") ∧
    ∃ r, compile "users/<id>" default = .ok r ∧
      r.url .empty "//" (some ⟨"https", "example.com"⟩) =
        .error (.missingParameter "users/<id>" "id") := by
  obtain ⟨r, hr, hurl⟩ : ∃ r, compile "//example.com" default = .ok r ∧
      r.url .empty "//" none = .ok "/example.com" := by
    decide +kernel
  obtain ⟨s, hs, huri⟩ : ∃ s, compile "users/<id>" default = .ok s ∧
      s.uri .empty = .error (.missingParameter "users/<id>" "id") := by
    decide +kernel
  have hbase : ∀ c ∈ "//".toList, c = '/' := by simp
  obtain ⟨-, -, -, -, hslash⟩ := url_leads_back "//" "" r .empty ⟨"https", "example.com"⟩
  obtain ⟨-, -, -, hfault, -⟩ := url_leads_back "//" "" s .empty ⟨"https", "example.com"⟩
  exact ⟨⟨r, hr, hurl, hslash hbase _ hurl⟩, s, hs, (hfault _ huri).2⟩

end Route

end Routing
