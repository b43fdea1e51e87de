import Routing.Proofs.Json.Denoting
import Routing.Proofs.Json.Keeping
import Routing.Proofs.Toml
import Routing.Settings.Loading

/-!
Where settings come from: the environment over a document over the defaults.

    defaults      debug true    session   name "session"   lifetime 0
    document                    session                    lifetime 60
    environment   debug "no"
    settings      debug false   session   name "session"   lifetime 60

A document that is laid over the defaults decides about what it speaks of, and about nothing else.
This is so for the whole and for sessions within it. What a value says is compared with the settings
one by one, so nothing is assumed about how they are read.
-/

namespace Routing

open Json

namespace Settings

/-! ### Values over values -/

/-- A value over what is there. -/
def overlaid (base : Value) (given : Option Value) : Value := given.elim base (merge base)

/-- The value of a name after values have been laid over those that are there. -/
def laid : (base given : Option Value) → Option Value
  | some base, given => some (overlaid base given)
  | none, given => given

theorem merge_of_ne_object {base : Value} (h : ∀ old, base ≠ .object old) (v : Value) :
    merge base v = v := by
  cases v with
  | object members => cases base <;> simp_all [merge]
  | _ => simp [merge]

theorem member?_mergeMembers (name : String) : ∀ {members old : List (String × Value)},
    (members.map (·.1)).Nodup → (Value.object (mergeMembers old members)).member? name =
      laid ((Value.object old).member? name) ((Value.object members).member? name)
  | [], old, _ => by
    rw [mergeMembers]
    cases (Value.object old).member? name <;> rfl
  | (key, v) :: members, old, hnodup => by
    obtain ⟨hkey, hnodup⟩ := List.nodup_cons.1 hnodup
    rw [mergeMembers, member?_mergeMembers name hnodup]
    simp only [Value.member?, Dict.find?_insertEntry, List.find?_cons]
    by_cases h : key = name
    · -- No later member has this name, so what is merged here stays.
      subst h
      have hnone : members.find? (·.1 == key) = none := by
        refine List.find?_eq_none.2 fun m hm => ?_
        simpa using fun heq => hkey (List.mem_map.2 ⟨m, hm, heq⟩)
      simp only [hnone, if_true, beq_self_eq_true]
      cases old.find? (·.1 == key) <;> rfl
    · simp [h, beq_eq_false_iff_ne.2 h]

/-- Members that come after all that are there are put behind them. -/
theorem mergeMembers_of_ascending : ∀ {members old : List (String × Value)},
    Ascending (old ++ members) → mergeMembers old members = old ++ members
  | [], old, _ => by rw [mergeMembers, List.append_nil]
  | (key, v) :: members, old, h => by
    have hbefore : ∀ e ∈ old, e.1 < key := fun e he =>
      (List.pairwise_append.1 h).2.2 e he (key, v) (.head _)
    have hnone : old.find? (·.1 == key) = none := by
      refine List.find?_eq_none.2 fun e he => ?_
      simpa using Std.ne_of_lt (hbefore e he)
    rw [List.append_cons] at h ⊢
    rw [mergeMembers, hnone]
    dsimp only
    rw [Dict.insertEntry_of_lt hbefore, mergeMembers_of_ascending h]

theorem merge_empty {v : Value} (hv : ∀ ms, v = .object ms → Ascending ms) :
    merge (.object []) v = v := by
  cases v with
  | object ms =>
    have hmembers : mergeMembers [] ms = ms := mergeMembers_of_ascending (hv ms rfl)
    simp [merge, hmembers]
  | _ => simp [merge]

/-- The defaults are only put into their order. -/
theorem member?_defaultsJson (name : String) :
    defaultsJson.member? name = default.toJson.member? name := by
  have hput : ∀ fields : List (String × Value), (fields.map (·.1)).Nodup →
      (Value.object (fields.foldl (fun ms e => Dict.insertEntry e.1 e.2 ms) [])).member? name =
        (Value.object fields).member? name := by
    intro fields hnodup
    have hget := Dict.get?_putAll name fields .empty hnodup
    rw [Dict.get?, Dict.entries_putAll_eq_foldl, Dict.lookup_eq_map_find?] at hget
    exact hget.trans (Option.or_none ..)
  exact hput _ (by decide)

/-- A dictionary that is laid over an object is laid over each of its members. -/
theorem member?_merge {base b : Value} {old : List (String × Value)} (hbase : base = .object old)
    {name : String} (hb : base.member? name = some b) (d : Dict Value) :
    (merge base (.object d.entries)).member? name = some (overlaid b (d.get? name)) := by
  subst hbase
  have hmerge : merge (.object old) (.object d.entries) = .object (mergeMembers old d.entries) := by
    simp only [merge]
  rw [hmerge, member?_mergeMembers name d.nodup_keys, hb]
  rfl

/-! ### What a value says -/

theorem asText_eq_some (v : Value) (s : String) : asText v = some s ↔ v = .text s := by
  cases v <;> simp [asText]

theorem asText?_eq_some (v : Value) (o : Option String) : asText? v = some o ↔ v = .ofText? o := by
  cases v <;> cases o <;> simp [asText?, asText, Value.ofText?]

theorem asBool_eq_some (v : Value) (b : Bool) : asBool v = some b ↔ v = .bool b := by
  cases v <;> simp [asBool]

theorem asNat_eq_some (v : Value) (n : Nat) : asNat v = some n ↔ v = .nat n := by
  unfold asNat Value.nat
  split
  next m =>
    rw [Value.number.injEq, Number.whole.injEq]
    cases m with
    | ofNat k =>
      have htoNat : Int.toNat? (.ofNat k) = some k := rfl
      rw [htoNat, Option.some.injEq]
      exact Int.ofNat_inj.symm
    | negSucc k =>
      have htoNat : Int.toNat? (.negSucc k) = none := rfl
      simp [htoNat]
  next h => simpa using fun heq => h n heq

theorem ofText?_ne_object (o : Option String) (old : List (String × Value)) :
    Value.ofText? o ≠ .object old := by
  cases o <;> simp [Value.ofText?]

/-- A value that names a backend. -/
def NamesBackend (v : Value) (b : SessionBackend) : Prop :=
  v = .text b.name ∨ v = .object [(b.name, .null)]

theorem ofName?_eq_some {name : String} {b : SessionBackend} :
    SessionBackend.ofName? name = some b ↔ name = b.name := by
  unfold SessionBackend.ofName?
  split <;> cases b <;> simp_all [SessionBackend.name]

theorem asBackend_eq_some (v : Value) (b : SessionBackend) :
    asBackend v = some b ↔ NamesBackend v b := by
  unfold asBackend NamesBackend
  split
  · simp [ofName?_eq_some]
  · simp [ofName?_eq_some]
  next h h' => simpa using ⟨h _, h' _⟩

/-- A setting that a document may speak of: it is what the value that is given says, or else the one
to fall back on. -/
def Settled {α : Type} (means : Value → α → Prop) (fallback : α) : Option Value → α → Prop
  | none, a => a = fallback
  | some v, a => means v a

section
variable {α : Type} {read : Value → Option α} {means : Value → α → Prop} {base : Value}
  {fallback : α} {given : Option Value}

/-- What is read of a value over a default. -/
theorem read_overlaid (hbase : read base = some fallback)
    (hread : ∀ v, given = some v → ∀ a, read (merge base v) = some a ↔ means v a) (a : α) :
    read (overlaid base given) = some a ↔ Settled means fallback given a := by
  cases given with
  | none =>
    have hnone : read (overlaid base none) = some fallback := hbase
    rw [hnone]
    exact ⟨fun h => (Option.some.inj h).symm, fun h => congrArg some h.symm⟩
  | some v => exact hread v rfl a

/-- A default that is no object is replaced as a whole. -/
theorem read_overlaid_plain (hread : ∀ v a, read v = some a ↔ means v a) (hbase : means base fallback)
    (hplain : ∀ old, base ≠ .object old) {a : α} :
    read (overlaid base given) = some a ↔ Settled means fallback given a := by
  refine read_overlaid ((hread base fallback).2 hbase) (fun v _ a => ?_) a
  rw [merge_of_ne_object hplain]
  exact hread v a

end

/-! ### Settings of sessions -/

/-- The settings of sessions that an object gives. -/
structure SessionFollows (given : Dict Value) (s : SessionSettings) : Prop where
  backend : Settled NamesBackend default.session.backend (given.get? "backend") s.backend
  name : Settled (fun v a => v = .text a) default.session.name (given.get? "name") s.name
  lifetime : Settled (fun v a => v = .nat a) default.session.lifetime (given.get? "lifetime")
    s.lifetime

/-- A value that says what the settings of sessions are: an object with some of them, or the array
of all of them in order. -/
inductive MeansSession : Value → SessionSettings → Prop
  | object {given : Dict Value} {s : SessionSettings} : SessionFollows given s →
      MeansSession (.object given.entries) s
  | array {v : Value} {s : SessionSettings} : NamesBackend v s.backend →
      MeansSession (.array [v, .text s.name, .nat s.lifetime]) s

theorem asSession_object {ms : List (String × Value)} {s : SessionSettings} :
    asSession (.object ms) = some s ↔
      ((Value.object ms).member? "backend").bind asBackend = some s.backend ∧
      ((Value.object ms).member? "name").bind asText = some s.name ∧
      ((Value.object ms).member? "lifetime").bind asNat = some s.lifetime := by
  obtain ⟨backend, name, lifetime⟩ := s
  simp only [asSession, fieldsOf, Value.member?]
  simp [Option.bind_eq_some_iff]

theorem asSession_array {items : List Value} {s : SessionSettings} :
    asSession (.array items) = some s ↔
      ∃ v, items = [v, .text s.name, .nat s.lifetime] ∧ NamesBackend v s.backend := by
  obtain ⟨backend, name, lifetime⟩ := s
  by_cases hlength : items.length = 3
  · obtain ⟨a, b, c, rfl⟩ := List.length_eq_three.1 hlength
    simp [asSession, fieldsOf, Option.bind_eq_some_iff, asBackend_eq_some, asText_eq_some,
      asNat_eq_some]
    grind
  · have hne : ∀ a b c, items ≠ [a, b, c] := by
      rintro a b c rfl
      exact hlength rfl
    simp [asSession, fieldsOf, hlength, hne]

/-- An object that is laid over the default settings of sessions. -/
theorem asSession_merge_object (d : Dict Value) (s : SessionSettings) :
    asSession (merge (sessionToJson default.session) (.object d.entries)) = some s ↔
      SessionFollows d s := by
  obtain ⟨ms, hms⟩ : ∃ ms, merge (sessionToJson default.session) (.object d.entries) = .object ms :=
    ⟨_, rfl⟩
  have hmember : ∀ name b, (sessionToJson default.session).member? name = some b →
      (Value.object ms).member? name = some (overlaid b (d.get? name)) :=
    fun name b hb => hms ▸ member?_merge rfl hb d
  rw [hms, asSession_object, hmember "backend" _ rfl, hmember "name" _ rfl,
    hmember "lifetime" _ rfl]
  simp only [Option.bind_some]
  rw [read_overlaid_plain asBackend_eq_some (.inl rfl) (by simp),
    read_overlaid_plain asText_eq_some rfl (by simp),
    read_overlaid_plain asNat_eq_some rfl (by simp [Value.nat])]
  exact ⟨fun ⟨hbackend, hname, hlifetime⟩ => ⟨hbackend, hname, hlifetime⟩,
    fun h => ⟨h.backend, h.name, h.lifetime⟩⟩

theorem meansSession_object {d : Dict Value} {s : SessionSettings} :
    MeansSession (.object d.entries) s ↔ SessionFollows d s := by
  refine ⟨fun h => ?_, .object⟩
  generalize heq : Value.object d.entries = v at h
  cases h with
  | object h =>
    obtain rfl := Dict.eq_of_entries (Value.object.inj heq)
    exact h
  | array => cases heq

theorem meansSession_array {items : List Value} {s : SessionSettings} :
    MeansSession (.array items) s ↔
      ∃ v, items = [v, .text s.name, .nat s.lifetime] ∧ NamesBackend v s.backend := by
  constructor
  · intro h
    generalize heq : Value.array items = v at h
    cases h with
    | object => cases heq
    | array hv => exact ⟨_, Value.array.inj heq, hv⟩
  · rintro ⟨v, rfl, hv⟩
    exact .array hv

/-- What is laid over the default settings of sessions means what it does by itself. -/
theorem asSession_merge {v : Value} (hv : ∀ ms, v = .object ms → Ascending ms)
    (s : SessionSettings) :
    asSession (merge (sessionToJson default.session) v) = some s ↔ MeansSession v s := by
  cases v with
  | object ms =>
    have hiff := asSession_merge_object ⟨ms, hv ms rfl⟩ s
    exact hiff.trans meansSession_object.symm
  | array items =>
    have hmerge : merge (sessionToJson default.session) (.array items) = .array items := by
      simp [merge]
    rw [hmerge, asSession_array, meansSession_array]
  | null | bool _ | number _ | text _ =>
    simp only [merge, asSession, fieldsOf]
    exact ⟨nofun, nofun⟩

theorem asSession_sessionToJson (s : SessionSettings) : asSession (sessionToJson s) = some s := by
  refine asSession_object.2 ⟨?_, ?_, ?_⟩
  · exact (asBackend_eq_some _ _).2 (.inl rfl)
  · exact (asText_eq_some _ _).2 rfl
  · exact (asNat_eq_some _ _).2 rfl

/-! ### All settings -/

/-- The settings that a document gives. -/
structure Follows (given : Dict Value) (s : Settings) : Prop where
  debug : Settled (fun v a => v = .bool a) default.debug (given.get? "debug") s.debug
  baseUrl : Settled (fun v a => v = .text a) default.baseUrl (given.get? "base_url") s.baseUrl
  host : Settled (fun v a => v = .ofText? a) default.host (given.get? "host") s.host
  cacheRoutes : Settled (fun v a => v = .bool a) default.cacheRoutes (given.get? "cache_routes")
    s.cacheRoutes
  cacheDir : Settled (fun v a => v = .ofText? a) default.cacheDir (given.get? "cache_dir")
    s.cacheDir
  logLevel : Settled (fun v a => v = .text a) default.logLevel (given.get? "log_level") s.logLevel
  logDir : Settled (fun v a => v = .ofText? a) default.logDir (given.get? "log_dir") s.logDir
  session : Settled MeansSession default.session (given.get? "session") s.session
  extra : Settled (fun v a => v = .object a) default.extra (given.get? "extra") s.extra

theorem ofJson?_object {ms : List (String × Value)} {s : Settings} :
    ofJson? (.object ms) = some s ↔
      ((Value.object ms).member? "debug").bind asBool = some s.debug ∧
      ((Value.object ms).member? "base_url").bind asText = some s.baseUrl ∧
      asText? (((Value.object ms).member? "host").getD .null) = some s.host ∧
      ((Value.object ms).member? "cache_routes").bind asBool = some s.cacheRoutes ∧
      asText? (((Value.object ms).member? "cache_dir").getD .null) = some s.cacheDir ∧
      ((Value.object ms).member? "log_level").bind asText = some s.logLevel ∧
      asText? (((Value.object ms).member? "log_dir").getD .null) = some s.logDir ∧
      ((Value.object ms).member? "session").bind asSession = some s.session ∧
      (Value.object ms).member? "extra" = some (.object s.extra) := by
  obtain ⟨debug, baseUrl, host, cacheRoutes, cacheDir, logLevel, logDir, session, extra⟩ := s
  have hmember : ∀ name, (ms.find? (·.1 == name)).map (·.2) = (Value.object ms).member? name :=
    fun _ => rfl
  simp only [ofJson?, fieldsOf, hmember, Option.bind_eq_bind, Option.bind_some, Option.pure_def]
  -- The readers of the fields are set aside, so that only the chain of binds is taken apart.
  generalize ((Value.object ms).member? "debug").bind asBool = debug?
  generalize ((Value.object ms).member? "base_url").bind asText = baseUrl?
  generalize asText? (((Value.object ms).member? "host").getD .null) = host?
  generalize ((Value.object ms).member? "cache_routes").bind asBool = cacheRoutes?
  generalize asText? (((Value.object ms).member? "cache_dir").getD .null) = cacheDir?
  generalize ((Value.object ms).member? "log_level").bind asText = logLevel?
  generalize asText? (((Value.object ms).member? "log_dir").getD .null) = logDir?
  generalize ((Value.object ms).member? "session").bind asSession = session?
  split
  next members hmembers =>
    simp only [hmembers, Option.bind_eq_some_iff, Option.some.injEq, mk.injEq, Value.object.injEq]
    constructor
    · rintro ⟨_, h₁, _, h₂, _, h₃, _, h₄, _, h₅, _, h₆, _, h₇, _, h₈, rfl, rfl, rfl, rfl, rfl, rfl,
        rfl, rfl, rfl⟩
      exact ⟨h₁, h₂, h₃, h₄, h₅, h₆, h₇, h₈, rfl⟩
    · rintro ⟨h₁, h₂, h₃, h₄, h₅, h₆, h₇, h₈, rfl⟩
      exact ⟨_, h₁, _, h₂, _, h₃, _, h₄, _, h₅, _, h₆, _, h₇, _, h₈, rfl, rfl, rfl, rfl, rfl, rfl,
        rfl, rfl, rfl⟩
  next hother =>
    have hextra : (Value.object ms).member? "extra" ≠ some (.object extra) := hother extra
    simp [hextra]

/-- The settings that a document gives are those that are read of it over the defaults. -/
theorem ofJson?_merge {d : Dict Value} (hd : Orderly d) (s : Settings) :
    ofJson? (merge defaultsJson (.object d.entries)) = some s ↔ Follows d s := by
  obtain ⟨ms, hms⟩ : ∃ ms, merge defaultsJson (.object d.entries) = .object ms := ⟨_, rfl⟩
  have hmember : ∀ name b, default.toJson.member? name = some b →
      (Value.object ms).member? name = some (overlaid b (d.get? name)) :=
    fun name b hb => hms ▸ member?_merge rfl ((member?_defaultsJson name).trans hb) d
  have hsession : asSession (overlaid (sessionToJson default.session) (d.get? "session")) =
      some s.session ↔ Settled MeansSession default.session (d.get? "session") s.session :=
    read_overlaid (asSession_sessionToJson _)
      (fun v hv a => asSession_merge (fun ms h => hd _ ms (h ▸ hv)) a) _
  have hextra : some (overlaid (.object default.extra) (d.get? "extra")) = some (.object s.extra) ↔
      Settled (fun v a => v = .object a) default.extra (d.get? "extra") s.extra := by
    cases hgiven : d.get? "extra" with
    | none => simp [overlaid, Settled, eq_comm]
    | some v =>
      have hv : merge (.object default.extra) v = v := merge_empty fun ms h => hd _ ms (h ▸ hgiven)
      simp [overlaid, Settled, hv]
  rw [hms, ofJson?_object, hmember "debug" _ rfl, hmember "base_url" _ rfl, hmember "host" _ rfl,
    hmember "cache_routes" _ rfl, hmember "cache_dir" _ rfl, hmember "log_level" _ rfl,
    hmember "log_dir" _ rfl, hmember "session" _ rfl, hmember "extra" _ rfl]
  simp only [Option.bind_some, Option.getD_some]
  rw [read_overlaid_plain asBool_eq_some rfl (by simp), read_overlaid_plain asText_eq_some rfl (by simp),
    read_overlaid_plain asText?_eq_some rfl (ofText?_ne_object _),
    read_overlaid_plain asBool_eq_some rfl (by simp),
    read_overlaid_plain asText?_eq_some rfl (ofText?_ne_object _),
    read_overlaid_plain asText_eq_some rfl (by simp),
    read_overlaid_plain asText?_eq_some rfl (ofText?_ne_object _), hsession, hextra]
  exact ⟨fun ⟨h₁, h₂, h₃, h₄, h₅, h₆, h₇, h₈, h₉⟩ => ⟨h₁, h₂, h₃, h₄, h₅, h₆, h₇, h₈, h₉⟩,
    fun h => ⟨h.debug, h.baseUrl, h.host, h.cacheRoutes, h.cacheDir, h.logLevel, h.logDir,
      h.session, h.extra⟩⟩

/-! ### Documents -/

theorem ofDocument_eq_ok {kind : String} {document : Option Value} {s : Settings} :
    ofDocument kind document = .ok s ↔
      ∃ v, document = some v ∧ ofJson? (merge defaultsJson v) = some s := by
  unfold ofDocument
  cases document with
  | none => simp
  | some v => cases hread : ofJson? (merge defaultsJson v) <;> simp [hread]

/-- The settings that a JSON document gives, which is an object. -/
theorem follows_of_ofJsonText {text : String} {members : List (Option String × Tree)}
    {s : Settings} (hobject : (Tree.ofText text).1 = .object members)
    (h : ofJsonText text = .ok s) :
    ∃ d : Dict Value, (∀ v, (Tree.object members).Denotes v ↔ v = .object d.entries) ∧
      Follows d s := by
  obtain ⟨v, hv, hs⟩ := ofDocument_eq_ok.1 h
  have hdecode : decode Tree.toValue text = .ok v := by
    cases hread : decode Tree.toValue text with
    | ok w => rw [hread] at hv; exact congrArg _ (Option.some.inj hv)
    | error e => rw [hread] at hv; cases hv
  have hdenotes : (Tree.object members).Denotes v :=
    Tree.denotes_of_toValue (hobject ▸ of_decode hdecode)
  cases hdenotes with
  | @object _ d hd =>
    refine ⟨d, fun w => ⟨fun hw => hw.unique (.object hd), ?_⟩, ?_⟩
    · rintro rfl
      exact .object hd
    · exact (ofJson?_merge (Tree.Gathers.orderly hd) s).1 hs

/-- The settings that a TOML document gives. -/
theorem follows_of_ofTomlText {text : String} {s : Settings} (h : ofTomlText text = .ok s) :
    ∃ d : Dict Value, Toml.readJson text = some (.object d.entries) ∧ Follows d s := by
  obtain ⟨v, hv, hs⟩ := ofDocument_eq_ok.1 h
  rcases Toml.readJson_eq_some hv with ⟨t, rfl⟩ | ⟨d, rfl, hd⟩
  · simp [merge, ofJson?, fieldsOf] at hs
  · exact ⟨d, hv, (ofJson?_merge hd s).1 hs⟩

/-! ### The environment -/

/-- The settings are those from before with an environment over them: each variable that is set
decides about its own setting, and nothing else is changed. -/
structure Overridden (env : Dict String) (before after : Settings) : Prop where
  debug : after.debug = (env.get? "WAYPOST_DEBUG").elim before.debug readFlag
  logLevel : after.logLevel = (env.get? "WAYPOST_LOG_LEVEL").getD before.logLevel
  baseUrl : after.baseUrl = (env.get? "WAYPOST_BASE_URL").getD before.baseUrl
  host : after.host =
    (env.get? "WAYPOST_HOST").elim before.host fun v => if v = "" then none else some v
  cacheRoutes : after.cacheRoutes =
    (env.get? "WAYPOST_CACHE_ROUTES").elim before.cacheRoutes readFlag
  cacheDir : after.cacheDir = (env.get? "WAYPOST_CACHE_DIR").elim before.cacheDir some
  logDir : after.logDir = (env.get? "WAYPOST_LOG_DIR").elim before.logDir some
  session : after.session = before.session
  extra : after.extra = before.extra

/-- The value of a variable over one setting, if the variable is set. -/
def withVariable {α : Type} (put : α → Settings → Settings) (read : String → α)
    (value? : Option String) (s : Settings) : Settings :=
  match value? with
  | some v => put (read v) s
  | none => s

theorem withVariable_sets {α : Type} {put : α → Settings → Settings} {read : String → α}
    {value? : Option String} {s : Settings} (field : Settings → α)
    (hput : ∀ v s, field (put v s) = v) :
    field (withVariable put read value? s) = value?.elim (field s) read := by
  cases value? with
  | none => rfl
  | some v => exact hput _ _

theorem withVariable_keeps {α β : Type} {put : α → Settings → Settings} {read : String → α}
    {value? : Option String} {s : Settings} (field : Settings → β)
    (hput : ∀ v s, field (put v s) = field s) :
    field (withVariable put read value? s) = field s := by
  cases value? with
  | none => rfl
  | some v => exact hput _ _

theorem withEnvironment_eq (s : Settings) (env : Dict String) :
    s.withEnvironment env =
      (withVariable (fun v s => { s with logDir := v }) some (env.get? "WAYPOST_LOG_DIR") <|
        withVariable (fun v s => { s with cacheDir := v }) some (env.get? "WAYPOST_CACHE_DIR") <|
        withVariable (fun v s => { s with cacheRoutes := v }) readFlag
          (env.get? "WAYPOST_CACHE_ROUTES") <|
        withVariable (fun v s => { s with host := v }) (fun v => if v = "" then none else some v)
          (env.get? "WAYPOST_HOST") <|
        withVariable (fun v s => { s with baseUrl := v }) id (env.get? "WAYPOST_BASE_URL") <|
        withVariable (fun v s => { s with logLevel := v }) id (env.get? "WAYPOST_LOG_LEVEL") <|
        withVariable (fun v s => { s with debug := v }) readFlag (env.get? "WAYPOST_DEBUG") s) :=
  rfl

theorem overridden_withEnvironment (s : Settings) (env : Dict String) :
    Overridden env s (s.withEnvironment env) := by
  have hid : ∀ (value? : Option String) (fallback : String),
      value?.elim fallback id = value?.getD fallback := by
    rintro (_ | v) fallback <;> rfl
  rw [withEnvironment_eq]
  -- One step puts the field; through all others it is looked at what was there before.
  constructor
  · simp only [withVariable_keeps debug, withVariable_sets debug, implies_true]
  · simp only [withVariable_keeps logLevel, withVariable_sets logLevel, implies_true, hid]
  · simp only [withVariable_keeps baseUrl, withVariable_sets baseUrl, implies_true, hid]
  · simp only [withVariable_keeps host, withVariable_sets host, implies_true]
  · simp only [withVariable_keeps cacheRoutes, withVariable_sets cacheRoutes, implies_true]
  · simp only [withVariable_keeps cacheDir, withVariable_sets cacheDir, implies_true]
  · simp only [withVariable_keeps logDir, withVariable_sets logDir, implies_true]
  · simp only [withVariable_keeps session, implies_true]
  · simp only [withVariable_keeps extra, implies_true]

/-! ### All three -/

/-- Settings that are loaded are those that the document gives, where of several members with one
name the last one counts, and the defaults in all that it does not speak of. An environment that is
laid over them changes each setting for which a variable is set, and no other. -/
theorem precedence (env : Dict String) (s : Settings) :
    (∀ (text : String) (members : List (Option String × Tree)),
      (Tree.ofText text).1 = .object members → ofJsonText text = .ok s →
        ∃ d : Dict Value, (∀ v, (Tree.object members).Denotes v ↔ v = .object d.entries) ∧
          Follows d s) ∧
    (∀ text : String, ofTomlText text = .ok s →
      ∃ d : Dict Value, Toml.readJson text = some (.object d.entries) ∧ Follows d s) ∧
    Overridden env s (s.withEnvironment env) :=
  ⟨fun _ _ hobject h => follows_of_ofJsonText hobject h, fun _ h => follows_of_ofTomlText h,
    overridden_withEnvironment s env⟩

/-- The second object for sessions takes the place of the first one, so the lifetime is the default
one. -/
theorem precedence_session :
    let json := "\x7b\"session\": \x7b\"lifetime\": 60\x7d, \"debug\": false, \"host\": \"a.b\"," ++
      "\"session\": \x7b\"name\": \"visit\"\x7d, \"extra\": \x7b\"a\": [1]\x7d\x7d"
    let toml := "debug = false\nhost = \"a.b\"\nextra.a = [1]\n[session]\nname = \"visit\"\n"
    let env := Dict.ofList [("WAYPOST_HOST", ""), ("WAYPOST_LOG_LEVEL", "warn")]
    let s : Settings := { default with
      debug := false, host := some "a.b", session := ⟨.native, "visit", 0⟩
      extra := [("a", .array [.nat 1])] }
    ofJsonText json = .ok s ∧ ofTomlText toml = .ok s ∧
      (∃ (members : List (Option String × Tree)) (d : Dict Value),
        (Tree.ofText json).1 = .object members ∧
        (∀ v, (Tree.object members).Denotes v ↔ v = .object d.entries) ∧ Follows d s) ∧
      (∃ d : Dict Value, Toml.readJson toml = some (.object d.entries) ∧ Follows d s) ∧
      Overridden env s (s.withEnvironment env) ∧
      s.withEnvironment env = { s with host := none, logLevel := "warn" } := by
  intro json toml env s
  have hjson : ofJsonText json = .ok s := by decide +kernel
  have htoml : ofTomlText toml = .ok s := by decide +kernel
  have hdecode : decode Tree.toValue json = .ok (.object [("debug", .bool false),
      ("extra", .object [("a", .array [.nat 1])]), ("host", .text "a.b"),
      ("session", .object [("name", .text "visit")])]) := by
    decide +kernel
  obtain ⟨members, _, hmembers, -, -⟩ :=
    (Tree.denotes_of_toValue (of_decode hdecode)).exists_dict
  obtain ⟨hfromJson, hfromToml, henv⟩ := precedence env s
  obtain ⟨d, hdenotes, hfollows⟩ := hfromJson json members hmembers hjson
  exact ⟨hjson, htoml, ⟨members, d, hmembers, hdenotes, hfollows⟩, hfromToml toml htoml, henv,
    by decide +kernel⟩

end Settings

end Routing
