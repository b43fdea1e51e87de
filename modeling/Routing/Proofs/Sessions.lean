import Routing.Proofs.Dict
import Routing.Proofs.Payload

/-!
Sessions over one store. Each session has data of its own, and none sees what another one does until
that is written and it is started itself. So a store is told by what was written and destroyed: an
identity stands for the data that was written under it last, unless that was destroyed since.

    session 0    start a   set x              write                     write
    session 1                       start a              destroy
    log                                       a ↦ {x}    a ↦ -          a ↦ {x}
    start a      {}        {}       {}        {x}        {}             {x}
-/

namespace Routing

open Json

/-- A store, and the sessions that were started on it, in order. -/
structure Sessions where
  store : SessionStore
  started : List Session
  deriving DecidableEq

/-- What is done with the data of a session. -/
inductive Session.Edit where
  | get (key : String)
  | set (key : String) (value : Value)
  | delete (key : String)

namespace Sessions

/-- What is done with sessions, each of which is given by its place. -/
inductive Step where
  | start (id : String)
  | edit (place : Nat) (edit : Session.Edit)
  | write (place : Nat)
  | destroy (place : Nat)

/-- What comes back from a step. -/
inductive Answer where
  | started (data : SessionData)
  | value (value : Option Value)
  | done
  | destroyed (removed : Bool)
  | failed
  /-- There is no session at the place. -/
  | missing
  deriving DecidableEq

end Sessions

/-- A session that is edited, and what comes back. What is deleted is given back. -/
def Session.edit (s : Session) : Edit → Sessions.Answer × Session
  | .get key => (.value (s.get? key), s)
  | .set key value => (.done, s.set key value)
  | .delete key => (.value (s.get? key), s.delete key)

namespace Sessions

/-- A new store of a backend. -/
def ofBackend (backend : SessionBackend) : Sessions := ⟨.ofBackend backend, []⟩

/-- What comes back from a step, and the sessions after it. -/
def perform (w : Sessions) : Step → Answer × Sessions
  | .start id =>
    match Session.start w.store id with
    | .ok s => (.started s.data, { w with started := w.started ++ [s] })
    | .error _ => (.failed, w)
  | .edit place edit =>
    match w.started[place]? with
    | some s => ((s.edit edit).1, { w with started := w.started.set place (s.edit edit).2 })
    | none => (.missing, w)
  | .write place =>
    match w.started[place]? with
    | some s =>
      match s.write w.store with
      | .ok store => (.done, { w with store })
      | .error _ => (.failed, w)
    | none => (.missing, w)
  | .destroy place =>
    match w.started[place]? with
    | some s =>
      match s.destroy w.store with
      | .ok (s, store) => (.destroyed true, ⟨store, w.started.set place s⟩)
      | .error _ => (.destroyed false, w)
    | none => (.missing, w)

/-- What comes back from steps. -/
def answers (w : Sessions) : List Step → List Answer
  | [] => []
  | s :: steps => (w.perform s).1 :: (w.perform s).2.answers steps

/-- The sessions after steps. -/
def after (w : Sessions) (steps : List Step) : Sessions :=
  steps.foldl (fun w s => (w.perform s).2) w

/-! ### Sessions without payloads -/

/-- What was written and destroyed, the last first, and the sessions that were started. -/
structure Ledger where
  log : List (String × Option SessionData)
  started : List Session

namespace Ledger

/-- Nothing has been done yet. -/
def empty : Ledger := ⟨[], []⟩

/-- The data that was written under an identity last, if it was not destroyed since. -/
def saved (l : Ledger) (id : String) : Option SessionData := (l.log.lookup id).join

/-- What is expected to come back from a step, and what is noted. -/
def perform (l : Ledger) : Step → Answer × Ledger
  | .start id =>
    let data := (l.saved id).getD .empty
    (.started data, { l with started := l.started ++ [⟨id, data⟩] })
  | .edit place edit =>
    match l.started[place]? with
    | some s => ((s.edit edit).1, { l with started := l.started.set place (s.edit edit).2 })
    | none => (.missing, l)
  | .write place =>
    match l.started[place]? with
    | some s => (.done, { l with log := (s.id, some s.data) :: l.log })
    | none => (.missing, l)
  | .destroy place =>
    match l.started[place]? with
    | some s => (.destroyed true, ⟨(s.id, none) :: l.log, l.started.set place ⟨s.id, .empty⟩⟩)
    | none => (.missing, l)

/-- What is expected to come back from steps. -/
def answers (l : Ledger) : List Step → List Answer
  | [] => []
  | s :: steps => (l.perform s).1 :: (l.perform s).2.answers steps

/-- What is noted after steps. -/
def after (l : Ledger) (steps : List Step) : Ledger :=
  steps.foldl (fun l s => (l.perform s).2) l

/-- All data that was written can stand in a payload. -/
def Plain (l : Ledger) : Prop := ∀ id data, (id, some data) ∈ l.log → data.Plain

end Ledger

/-! ### What the log tells -/

section
variable {l : Ledger}

theorem Ledger.saved_cons (l : Ledger) (started : List Session) (id other : String)
    (data : Option SessionData) :
    saved ⟨(id, data) :: l.log, started⟩ other = if id = other then data else l.saved other := by
  rw [saved, List.lookup_cons]
  by_cases h : id = other
  · simp [h]
  · rw [beq_false_of_ne (Ne.symm h), if_neg h]
    rfl

theorem Ledger.mem_log_of_saved {id : String} {data : SessionData} (h : l.saved id = some data) :
    (id, some data) ∈ l.log := by
  obtain ⟨before, after, hlog, -⟩ := List.lookup_eq_some_iff.1 (Option.join_eq_some_iff.1 h)
  exact hlog ▸ List.mem_append_right before List.mem_cons_self

/-- Nothing is struck out of the log. -/
theorem Ledger.log_perform (l : Ledger) (s : Step) : l.log <:+ (l.perform s).2.log := by
  unfold perform
  split
  · exact List.suffix_rfl
  all_goals
    split
    · first | exact List.suffix_rfl | exact List.suffix_cons _ _
    · exact List.suffix_rfl

theorem Ledger.log_after (steps : List Step) : ∀ l : Ledger, l.log <:+ (l.after steps).log := by
  induction steps with
  | nil => exact fun _ => List.suffix_rfl
  | cons s steps ih => exact fun l => (l.log_perform s).trans (ih (l.perform s).2)

end

/-! ### What the store shows -/

/-- The store holds the payloads of what is saved, and refuses nothing. -/
structure Shows (w : Sessions) (l : Ledger) : Prop where
  started : w.started = l.started
  refused : w.store.refused = []
  payload : ∀ id, w.store.payloads.get? id = (l.saved id).map SessionData.encode

variable {w : Sessions} {l : Ledger}

theorem shows_ofBackend (backend : SessionBackend) : Shows (ofBackend backend) .empty :=
  ⟨rfl, rfl, fun _ => rfl⟩

theorem Shows.permit (h : Shows w l) (operation : StoreOperation) :
    w.store.permit operation = .ok () := by
  rw [SessionStore.permit, h.refused]
  rfl

/-- A session is started with what is saved. -/
theorem Shows.start (h : Shows w l) (hplain : l.Plain) (id : String) :
    Session.start w.store id = .ok ⟨id, (l.saved id).getD .empty⟩ := by
  rw [Session.start, SessionStore.read, h.permit, h.payload]
  cases hsaved : l.saved id with
  | none => rfl
  | some data =>
    have hdata := Session.dataOf_encode (hplain id data (Ledger.mem_log_of_saved hsaved))
    exact congrArg (fun data => Except.ok (Session.mk id data)) hdata

/-- What is written is noted. -/
theorem Shows.write (h : Shows w l) (id : String) (data : SessionData) :
    ∃ store, w.store.write id data.encode = .ok store ∧
      Shows { w with store } { l with log := (id, some data) :: l.log } := by
  refine ⟨{ w.store with payloads := w.store.payloads.insert id data.encode }, ?_, h.started,
    h.refused, fun other => ?_⟩
  · rw [SessionStore.write, h.permit]
    rfl
  · rw [Ledger.saved_cons, Dict.get?_insert, h.payload]
    split <;> rfl

/-- What is destroyed is noted, too. -/
theorem Shows.remove (h : Shows w l) (id : String) (started : List Session) :
    ∃ store, w.store.remove id = .ok store ∧
      Shows ⟨store, started⟩ ⟨(id, none) :: l.log, started⟩ := by
  refine ⟨{ w.store with payloads := w.store.payloads.erase id }, ?_, rfl, h.refused,
    fun other => ?_⟩
  · rw [SessionStore.remove, h.permit]
    rfl
  · rw [Ledger.saved_cons, Dict.get?_erase, h.payload]
    split <;> rfl

/-- One step is answered as the ledger says. -/
theorem Shows.perform (h : Shows w l) (hplain : l.Plain) (s : Step) :
    (w.perform s).1 = (l.perform s).1 ∧ Shows (w.perform s).2 (l.perform s).2 := by
  have hat : ∀ place : Nat, w.started[place]? = l.started[place]? := fun place => by rw [h.started]
  cases s with
  | start id =>
    rw [Sessions.perform, h.start hplain]
    exact ⟨rfl, congrArg (· ++ [_]) h.started, h.refused, h.payload⟩
  | edit place edit =>
    rw [Sessions.perform, Ledger.perform, hat]
    cases l.started[place]? with
    | some s =>
      have hstarted := congrArg (fun started => started.set place (s.edit edit).2) h.started
      exact ⟨rfl, hstarted, h.refused, h.payload⟩
    | none => exact ⟨rfl, h⟩
  | write place =>
    rw [Sessions.perform, Ledger.perform, hat]
    cases l.started[place]? with
    | some s =>
      obtain ⟨store, hstore, hshows⟩ := h.write s.id s.data
      dsimp only
      rw [Session.write, Session.encode, hstore]
      exact ⟨rfl, hshows⟩
    | none => exact ⟨rfl, h⟩
  | destroy place =>
    rw [Sessions.perform, Ledger.perform, hat]
    cases l.started[place]? with
    | some s =>
      obtain ⟨store, hstore, hshows⟩ := h.remove s.id (l.started.set place ⟨s.id, .empty⟩)
      dsimp only
      rw [Session.destroy, hstore, h.started]
      exact ⟨rfl, hshows⟩
    | none => exact ⟨rfl, h⟩

/-- All steps are answered as the ledger says, one after another. -/
theorem Shows.answers : ∀ (steps : List Step) {w : Sessions} {l : Ledger}, Shows w l →
    (l.after steps).Plain →
      w.answers steps = l.answers steps ∧ Shows (w.after steps) (l.after steps)
  | [], _, _, h, _ => ⟨rfl, h⟩
  | s :: steps, w, l, h, hplain => by
    have hlog : l.log <:+ (l.after (s :: steps)).log := Ledger.log_after (s :: steps) l
    have hnow : l.Plain := fun id data hmem => hplain id data (hlog.subset hmem)
    obtain ⟨hanswer, hshows⟩ := h.perform hnow s
    obtain ⟨hanswers, hafter⟩ := hshows.answers steps hplain
    rw [Sessions.answers, Ledger.answers, hanswer, hanswers]
    exact ⟨rfl, hafter⟩

/-! ### What a step leaves alone -/

/-- The identity whose payload a step may change. -/
def touched? (w : Sessions) : Step → Option String
  | .write place | .destroy place => w.started[place]?.map (·.id)
  | .start _ | .edit .. => none

theorem store_perform (w : Sessions) {s : Step} (h : w.touched? s = none) :
    (w.perform s).2.store = w.store := by
  cases s with
  | start id => rw [perform]; split <;> rfl
  | edit place edit => rw [perform]; split <;> rfl
  | write place =>
    have hnone : w.started[place]? = none := Option.map_eq_none_iff.1 h
    rw [perform, hnone]
  | destroy place =>
    have hnone : w.started[place]? = none := Option.map_eq_none_iff.1 h
    rw [perform, hnone]

theorem payload_of_write {s store : SessionStore} {id payload other : String}
    (h : s.write id payload = .ok store) (hother : id ≠ other) :
    store.payloads.get? other = s.payloads.get? other := by
  obtain ⟨-, -, h⟩ := bind_eq_ok.1 h
  rw [← Except.ok.inj h, Dict.get?_insert, if_neg hother]

theorem payload_of_remove {s store : SessionStore} {id other : String}
    (h : s.remove id = .ok store) (hother : id ≠ other) :
    store.payloads.get? other = s.payloads.get? other := by
  obtain ⟨-, -, h⟩ := bind_eq_ok.1 h
  rw [← Except.ok.inj h, Dict.get?_erase, if_neg hother]

/-- A step changes the payload of one identity at most. -/
theorem payload_perform (w : Sessions) {s : Step} {id : String} (h : w.touched? s ≠ some id) :
    (w.perform s).2.store.payloads.get? id = w.store.payloads.get? id := by
  cases s with
  | start _ => rw [store_perform w rfl]
  | edit _ _ => rw [store_perform w rfl]
  | write place =>
    rw [touched?] at h
    rw [perform]
    cases hat : w.started[place]? with
    | none => rfl
    | some s =>
      have hother : s.id ≠ id := by simpa [hat] using h
      cases hwrite : s.write w.store with
      | ok store => simpa only [hwrite] using payload_of_write hwrite hother
      | error fault => simp only [hwrite]
  | destroy place =>
    rw [touched?] at h
    rw [perform]
    cases hat : w.started[place]? with
    | none => rfl
    | some s =>
      have hother : s.id ≠ id := by simpa [hat] using h
      cases hdestroy : s.destroy w.store with
      | ok cleared =>
        obtain ⟨store, hremove, heq⟩ := bind_eq_ok.1 hdestroy
        obtain rfl := Except.ok.inj heq
        simpa only [hdestroy] using payload_of_remove hremove hother
      | error fault => simp only [hdestroy]

/-- A store that refuses nothing destroys a session, which is left without data. -/
theorem Shows.destroy (h : Shows w l) {place : Nat} {s : Session}
    (hat : w.started[place]? = some s) :
    (w.perform (.destroy place)).1 = .destroyed true ∧
      (w.perform (.destroy place)).2.started[place]? = some ⟨s.id, .empty⟩ := by
  obtain ⟨store, hstore, -⟩ := h.remove s.id []
  obtain ⟨hplace, -⟩ := List.getElem?_eq_some_iff.1 hat
  rw [Sessions.perform, hat]
  dsimp only
  rw [Session.destroy, hstore]
  exact ⟨rfl, List.getElem?_set_self hplace⟩

/-- Sessions over a new store are answered as the log of what was written and destroyed tells,
whatever backend the store is of: a session starts with the data that was written under its identity
last and has not been destroyed since. The store has the payloads of that data and no other ones. A
step that neither writes nor destroys leaves the store as it is, the others leave all identities but
that of their session as they are, and a session that was destroyed has no data. -/
theorem answers_eq {steps : List Step} (hplain : (Ledger.empty.after steps).Plain)
    (backend : SessionBackend) :
    (ofBackend backend).answers steps = Ledger.empty.answers steps ∧
    (∀ other, (ofBackend other).answers steps = (ofBackend backend).answers steps) ∧
    ((ofBackend backend).after steps).started = (Ledger.empty.after steps).started ∧
    (∀ id, ((ofBackend backend).after steps).store.payloads.get? id =
      ((Ledger.empty.after steps).saved id).map SessionData.encode) ∧
    ∀ before s rest, steps = before ++ s :: rest →
      let w := (ofBackend backend).after before
      (w.touched? s = none → (w.perform s).2.store = w.store) ∧
      (∀ id, w.touched? s ≠ some id →
        (w.perform s).2.store.payloads.get? id = w.store.payloads.get? id) ∧
      ∀ place session, s = .destroy place → w.started[place]? = some session →
        (w.perform s).1 = .destroyed true ∧
          (w.perform s).2.started[place]? = some ⟨session.id, .empty⟩ := by
  obtain ⟨hanswers, hafter⟩ := (shows_ofBackend backend).answers steps hplain
  refine ⟨hanswers, fun other => ?_, hafter.started, hafter.payload, fun before s rest hsteps => ?_⟩
  · rw [hanswers, ((shows_ofBackend other).answers steps hplain).1]
  · refine ⟨store_perform _, fun id => payload_perform _, fun place session hs hat => ?_⟩
    have hlog : (Ledger.empty.after before).log <:+ (Ledger.empty.after steps).log := by
      rw [hsteps, Ledger.after, Ledger.after, List.foldl_append]
      exact Ledger.log_after (s :: rest) _
    have hnow : (Ledger.empty.after before).Plain := fun id data hmem =>
      hplain id data (hlog.subset hmem)
    rw [hs]
    exact ((shows_ofBackend backend).answers before hnow).2.destroy hat

/-- A session destroys what another one has written, and that one writes it again. -/
theorem answers_eq_again :
    let data : SessionData := .ofList [("x", .nat 1)]
    let steps : List Step := [.start "a", .edit 0 (.set "x" (.nat 1)), .start "a", .write 0,
      .start "a", .destroy 1, .start "a", .write 0, .start "a"]
    (ofBackend .cookie).answers steps = [.started .empty, .done, .started .empty, .done,
      .started data, .destroyed true, .started .empty, .done, .started data] := by
  intro data steps
  have hdata : data.Plain := ⟨by decide, by decide, by decide⟩
  have hlog : (Ledger.empty.after steps).log =
      [("a", some data), ("a", none), ("a", some data)] := by
    decide +kernel
  have hplain : (Ledger.empty.after steps).Plain := by
    intro id written hmem
    rw [hlog] at hmem
    obtain ⟨-, rfl⟩ : id = "a" ∧ written = data := by simpa using hmem
    exact hdata
  rw [(answers_eq hplain .cookie).1]
  decide +kernel

end Sessions

end Routing
