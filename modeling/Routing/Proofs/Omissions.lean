import Routing.Proofs.Unnamed

/-!
Definitions that do not compile. Such a definition is reported and leaves no trace: the others are
registered as if it were not there, in the same places and under the same names.

    definitions     a       <b      c       (d      e
    table           #0              #1              #2
    faults                  #1              #2

A fault is about the name that its definition asks for, or else about the one that the table would
have given. So a fault and a route after it may have the same name.
-/

namespace Routing

/-- The pattern of a definition compiles with the options of the definition. -/
def RouteDefinition.Compiles (d : RouteDefinition) : Prop :=
  ∃ r, Route.compile d.pattern d.options = .ok r

instance (d : RouteDefinition) : Decidable d.Compiles := decidableExistsOk _

theorem RouteDefinition.exists_cause {d : RouteDefinition} (h : ¬ d.Compiles) :
    ∃ cause, Route.compile d.pattern d.options = .error cause := by
  cases hcompile : Route.compile d.pattern d.options with
  | ok r => exact absurd ⟨r, hcompile⟩ h
  | error cause => exact ⟨cause, rfl⟩

namespace RouteTable

/-! ### One definition -/

theorem Built.addAll_append_singleton (d : RouteDefinition) : ∀ (ds : List RouteDefinition)
    (b : Built) (id : Nat), b.addAll id (ds ++ [d]) = (b.addAll id ds).add (id + ds.length) d
  | [], _, _ => rfl
  | _ :: ds, b, id => by
    rw [List.cons_append, addAll, addAll_append_singleton d ds, addAll, List.length_cons,
      Nat.add_right_comm, Nat.add_assoc]

theorem build_append_singleton (id : Nat) (ds : List RouteDefinition) (d : RouteDefinition) :
    build id (ds ++ [d]) = (build id ds).add (id + ds.length) d :=
  Built.addAll_append_singleton d ds _ id

section
variable {b : Built} {id : Nat} {d : RouteDefinition}

theorem Built.table_add_of_not_compiles (h : ¬ d.Compiles) : (b.add id d).table = b.table := by
  obtain ⟨cause, hcause⟩ := RouteDefinition.exists_cause h
  have hroute : d.call.route = .error cause := hcause
  rw [table_add, call_eq, hroute]

theorem Built.faults_add_of_error {cause : Fault}
    (h : Route.compile d.pattern d.options = .error cause) :
    (b.add id d).faults = b.faults ++ [.registration (b.table.nameFor d.name) cause] := by
  rw [add, register_eq_error.2 ⟨cause, h, rfl⟩]

end

/-! ### Any number of definitions -/

/-- The definitions that compile. -/
def compiling (ds : List RouteDefinition) : List RouteDefinition := ds.filter (·.Compiles)

/-- The other ones, each with the number of definitions before it. -/
def failing (ds : List RouteDefinition) (before : Nat) : List (RouteDefinition × Nat) :=
  (ds.zipIdx before).filter fun p => ¬ p.1.Compiles

/-- A fault tells why a definition does not compile. It has the name that the table made of the
definitions before would have given to the route. -/
def Reports (id : Nat) (ds : List RouteDefinition) (p : RouteDefinition × Nat) (fault : Fault) :
    Prop :=
  ∃ name cause, (build id (ds.take p.2)).table.Gives p.1.name name ∧
    Route.compile p.1.pattern p.1.options = .error cause ∧ fault = .registration name cause

theorem compiles_of_mem {ds : List RouteDefinition} {d : RouteDefinition} (h : d ∈ compiling ds) :
    d.Compiles :=
  of_decide_eq_true (List.mem_filter.1 h).2

/-- What does not compile might as well not be there. -/
theorem alike_build_compiling (id id' : Nat) (ds : List RouteDefinition) :
    (build id ds).table.Alike (build id' (compiling ds)).table := by
  -- From the end, since the last definition meets the table of all the others.
  induction ds using List.reverseRecOn with
  | nil => exact .refl _
  | append_singleton ds d ih =>
    by_cases hd : d.Compiles
    · have hlast : compiling (ds ++ [d]) = compiling ds ++ [d] := by simp [compiling, hd]
      rw [hlast, build_append_singleton, build_append_singleton, Built.table_add, Built.table_add]
      exact ih.call _ _ d.call
    · have hlast : compiling (ds ++ [d]) = compiling ds := by simp [compiling, hd]
      rw [hlast, build_append_singleton, Built.table_add_of_not_compiles hd]
      exact ih

/-- Each definition that does not compile adds one fault to those of the definitions before. -/
theorem reports_build_append (id : Nat) : ∀ (ds before : List RouteDefinition),
    ∃ new, (build id (before ++ ds)).faults = (build id before).faults ++ new ∧
      List.Forall₂ (Reports id (before ++ ds)) (failing ds before.length) new
  | [], before => ⟨[], by simp, .nil⟩
  | d :: ds, before => by
    obtain ⟨new, hnew, hreports⟩ := reports_build_append id ds (before ++ [d])
    rw [List.length_append, List.length_singleton] at hreports
    rw [List.append_cons, hnew, build_append_singleton, failing, List.zipIdx_cons, List.filter_cons]
    by_cases hd : d.Compiles
    · rw [if_neg (by simpa using hd), Built.faults_add hd]
      exact ⟨new, rfl, hreports⟩
    · obtain ⟨cause, hcause⟩ := RouteDefinition.exists_cause hd
      rw [if_pos (by simpa using hd), Built.faults_add_of_error hcause, List.append_assoc]
      refine ⟨_, rfl, .cons ⟨_, cause, ?_, hcause, rfl⟩ hreports⟩
      rw [List.append_assoc, List.take_left]
      exact (made_build id before).sound.gives_iff.2 rfl

/-- Definitions that do not compile are not seen in the table: it has the same routes under the same
names in the same order as that of the other definitions alone, which leave no fault. Each of those
that do not compile leaves one fault, in the order of the definitions. It has the reason, and the
name that is asked for, or that of the number that would have been given at this point. -/
theorem build_compiling (id id' : Nat) (ds : List RouteDefinition) :
    (build id ds).table.Alike (build id' (compiling ds)).table ∧
    (build id' (compiling ds)).faults = [] ∧
    List.Forall₂ (Reports id ds) (failing ds 0) (build id ds).faults := by
  obtain ⟨new, hnew, hreports⟩ := reports_build_append id ds []
  have hfaults : (build id ds).faults = new := hnew
  rw [hfaults]
  exact ⟨alike_build_compiling id id' ds, Built.faults_addAll id' fun d => compiles_of_mem, hreports⟩

/-- An unnamed definition that fails is reported under the number that the next one is given. -/
example :
    let ds : List RouteDefinition := [⟨none, "a", .empty, .empty⟩, ⟨none, "b<", .empty, .empty⟩,
      ⟨some "c", ")", .empty, .empty⟩, ⟨none, "d", .empty, .empty⟩]
    (build 0 ds).table.names = ["#0", "#1"] ∧
      (build 0 ds).faults = [.registration "#1" (.pattern "b<" (.parameterOpen "")),
        .registration "c" (.pattern ")" .groupNotOpened)] := by
  decide +kernel

end RouteTable

end Routing
