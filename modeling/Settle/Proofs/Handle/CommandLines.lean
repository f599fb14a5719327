import Settle.Proofs.Handle.Commands

/-!
# Command lines tell objects apart

A command line about an object has the verb, the namespace flag where there is a namespace, the kind
and the name, in two arguments or joined by a slash, and what else is asked for. Nothing keeps a
kind or a name from looking like a flag, but the number of arguments gives away whether there is a
flag in front of them. So, when no kind has a slash in it, the same command is written differently
for different objects (`Handle.argv_tells_object`).
-/

namespace Settle

theorem Verb.word_injective : ∀ v v' : Verb, v.word = v'.word → v = v' := by
  intro v v'
  cases v <;> cases v' <;> decide

theorem Invocation.scopeFlag_injective {scope scope' : Option String}
    (same : scopeFlag scope = scopeFlag scope') : scope = scope' := by
  cases scope <;> cases scope' <;> simp_all [scopeFlag]

/-- The command hands a manifest over, or expands a template to get one. -/
def Invocation.Deploys (i : Invocation) : Prop := i.verb = .apply ∨ i.verb = .process

theorem Text.append_cons_unique {a : Char} {l l' r r' : List Char} (hl : a ∉ l) (hl' : a ∉ l')
    (same : l ++ a :: r = l' ++ a :: r') : l = l' ∧ r = r' := by
  have cut (l r : List Char) (hl : a ∉ l) : (l ++ a :: r).takeWhile (· ≠ a) = l := by
    rw [List.takeWhile_append_of_pos fun c hc => by simpa using ne_of_mem_of_not_mem hc hl,
      List.takeWhile_cons_of_neg (by simp), List.append_nil]
  obtain rfl : l = l' := by rw [← cut l r hl, same, cut l' r' hl']
  exact ⟨rfl, (List.cons.inj (List.append_cancel_left same)).2⟩

attribute [ext] ObjectRef

namespace ObjectRef

variable {o o' : ObjectRef}

theorem target_inj (hk : '/' ∉ o.kind.toList) (hk' : '/' ∉ o'.kind.toList)
    (same : o.target = o'.target) : o.kind = o'.kind ∧ o.name = o'.name := by
  have chars : o.kind.toList ++ '/' :: o.name.toList = o'.kind.toList ++ '/' :: o'.name.toList := by
    simpa [target] using congrArg String.toList same
  obtain ⟨kind, name⟩ := Text.append_cons_unique hk hk' chars
  exact ⟨String.toList_inj.mp kind, String.toList_inj.mp name⟩

/-- The arguments that name an object: kind and name, or both joined into one. -/
def address (o : ObjectRef) (joined : Bool) : List String :=
  if joined then [o.target] else [o.kind, o.name]

theorem length_address (o o' : ObjectRef) (joined : Bool) :
    (o.address joined).length = (o'.address joined).length := by
  cases joined <;> rfl

theorem address_inj {joined : Bool} (hk : '/' ∉ o.kind.toList) (hk' : '/' ∉ o'.kind.toList)
    (same : o.address joined = o'.address joined) : o.kind = o'.kind ∧ o.name = o'.name := by
  cases joined with
  | true => exact target_inj hk hk' (List.cons.inj same).1
  | false => simpa [address] using same

end ObjectRef

namespace Handle

/-! ## One command -/

namespace Command

def verb : Command → Verb
  | name | projection _ | json => .get
  | logs _ => .logs
  | delete => .delete
  | patch _ _ => .patch
  | scale _ => .scale

/-- Whether the command names its object in one argument. -/
def isJoined : Command → Bool
  | logs _ | scale _ => true
  | name | projection _ | json | delete | patch _ _ => false

/-- What the command says after it has named its object. -/
def rest : Command → List String
  | name => ["-o", "name"]
  | projection p => p.flags
  | json => ["-o", "json"]
  | logs container => ObjectRef.containerFlags container
  | delete => []
  | patch kind body => ["--type", kind.word, "-p", body.compact]
  | scale replicas => ["--replicas=" ++ toString replicas]

theorem invocation_verb (x : Command) (h : Handle) : (x.invocation h).verb = x.verb := by
  cases x <;> rfl

theorem argv_invocation (x : Command) (h : Handle) :
    (x.invocation h).argv = x.verb.word ::
      (Invocation.scopeFlag h.object.scope ++ (h.object.address x.isJoined ++ x.rest)) := by
  cases x <;> rfl

end Command

variable {h h' : Handle}

/-- What a command says besides its object is the same on both sides, and so is the number of
arguments that name the object; what is left in front of them is the namespace flag. -/
theorem Command.object_eq_of_argv (x : Command) (hk : '/' ∉ h.object.kind.toList)
    (hk' : '/' ∉ h'.object.kind.toList) (same : (x.invocation h).argv = (x.invocation h').argv) :
    h.object = h'.object := by
  rw [argv_invocation, argv_invocation] at same
  have named := (List.cons.inj same).2
  rw [← List.append_assoc, ← List.append_assoc, List.append_cancel_right_eq] at named
  obtain ⟨flags, address⟩ :=
    List.append_inj' named (h.object.length_address h'.object x.isJoined)
  obtain ⟨kind, name⟩ := ObjectRef.address_inj hk hk' address
  exact ObjectRef.ext kind (Invocation.scopeFlag_injective flags) name

/-! ## Operations -/

namespace Operation

/-- No operation issues two different commands with one verb. -/
theorem eq_of_mem_commands {op : Operation} {x x' : Command} (hx : x ∈ op.commands)
    (hx' : x' ∈ op.commands) (same : x.verb = x'.verb) : x = x' := by
  cases op with
  | applyTemplate e t retry => cases hx
  | clear policy =>
    simp only [commands, List.mem_cons, List.not_mem_nil, or_false] at hx hx'
    rcases hx with rfl | rfl
    · rcases hx' with rfl | rfl
      · rfl
      · cases same
    · rcases hx' with rfl | rfl
      · cases same
      · rfl
  | _ => exact (List.mem_singleton.mp hx).trans (List.mem_singleton.mp hx').symm

theorem run_commands {σ : Type} [Cluster σ] (op : Operation) (h : Handle) :
    (op.run (σ := σ) h).IssuesOnly fun i =>
      i.Deploys ∨ ∃ x ∈ op.commands, i = x.invocation h := by
  refine op.run_issuesOnly h (fun x hx => .inr ⟨x, hx, rfl⟩) ?_
  cases op with
  | applyTemplate e t retry => exact ⟨fun _ _ _ => .inl (.inr rfl), fun _ => .inl (.inl rfl)⟩
  | applyTemplateAndAwait e t retry presence =>
    exact ⟨fun _ _ _ => .inl (.inr rfl), fun _ => .inl (.inl rfl)⟩
  | _ => trivial

end Operation

/-- When two command lines about objects say the same besides, and are the same, they are about one
object, if no kind has a slash in it. So, whatever the cluster answers to each of them, the same
operation on handles of two objects has no command line in common but those that deploy. -/
theorem argv_tells_object (h h' : Handle) (hk : '/' ∉ h.object.kind.toList)
    (hk' : '/' ∉ h'.object.kind.toList) :
    (∀ x : Command, (x.invocation h).argv = (x.invocation h').argv → h.object = h'.object) ∧
    ∀ {σ τ : Type} [Cluster σ] [Cluster τ] (op : Operation) (w : World σ) (w' : World τ),
      ∃ commands commands', w.Issued (op.run h w).2 commands ∧
        w'.Issued (op.run h' w').2 commands' ∧
        ∀ i ∈ commands, ¬ i.Deploys → ∀ i' ∈ commands', i.argv = i'.argv →
          h.object = h'.object := by
  refine ⟨fun x => x.object_eq_of_argv hk hk', fun op w w' => ?_⟩
  obtain ⟨commands, issued, all⟩ := op.run_commands h w
  obtain ⟨commands', issued', all'⟩ := op.run_commands h' w'
  refine ⟨commands, commands', issued, issued', fun i hi other i' hi' same => ?_⟩
  have verb : i.verb = i'.verb := Verb.word_injective _ _ (List.cons.inj same).1
  obtain ⟨x, hx, rfl⟩ := (all i hi).resolve_left other
  rcases all' i' hi' with deploys | ⟨x', hx', rfl⟩
  · rw [Invocation.Deploys, ← verb] at deploys
    exact absurd deploys other
  · rw [Command.invocation_verb, Command.invocation_verb] at verb
    obtain rfl := Operation.eq_of_mem_commands hx hx' verb
    exact x.object_eq_of_argv hk hk' same

/-- An object of the whole cluster, whose kind and name look like a flag for a namespace, is told
from one in that namespace. Clients of both accounts write the same about the latter. -/
theorem argv_tells_object_from_flag :
    let wide : Handle := { client := ⟨.admin, false⟩, object := ⟨"-n", none, "t1"⟩ }
    let narrow : Handle := { client := ⟨.admin, false⟩, object := ⟨"-n", some "t1", "t1"⟩ }
    let other : Handle := { client := ⟨.user, true⟩, object := ⟨"-n", some "t1", "t1"⟩ }
    (∀ x : Command, (x.invocation wide).argv ≠ (x.invocation narrow).argv) ∧
      (Command.name.invocation narrow).argv = (Command.name.invocation other).argv ∧
      narrow.object = other.object := by
  intro wide narrow other
  obtain ⟨apart, -⟩ := argv_tells_object wide narrow (by decide) (by decide)
  obtain ⟨alike, -⟩ := argv_tells_object narrow other (by decide) (by decide)
  refine ⟨fun x same => ?_, rfl, alike .name rfl⟩
  exact absurd (apart x same) (by decide)

/-- A slash in a kind moves the place where kind and name are joined. -/
example :
    ObjectRef.target ⟨"a/b", none, "c"⟩ = ObjectRef.target ⟨"a", none, "b/c"⟩ := by decide

end Handle

end Settle
