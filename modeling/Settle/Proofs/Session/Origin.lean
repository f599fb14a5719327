import Settle.Proofs.Handle.History
import Settle.Proofs.Session.Call

/-!
# Where clients and handles come from

A client is derived from another one step by step, and runs as the account that was chosen last
(`Client.deriveAll_account`). A handle is made from a client for an object, or found by a set, and
each operation gives it back. What it learns in all that changes neither its client nor its object
(`Handle.StemsFrom.client_eq`, `Handle.StemsFrom.object_eq`).
-/

namespace Settle

inductive Client.Derivation where
  | asAdmin
  | asUser
  | withAccount (account : Account)
  | withCancellation
  deriving DecidableEq, Repr

namespace Client

def derive (c : Client) : Derivation → Client
  | .asAdmin => c.withAccount .admin
  | .asUser => c.withAccount .user
  | .withAccount account => c.withAccount account
  | .withCancellation => c.withCancellation

def deriveAll (c : Client) (chain : List Derivation) : Client := chain.foldl derive c

def Derivation.choice? : Derivation → Option Account
  | asAdmin => some .admin
  | asUser => some .user
  | withAccount account => some account
  | withCancellation => none

/-- The account that a chain of derivations chooses last. -/
def lastChoice? (chain : List Derivation) : Option Account :=
  (chain.filterMap Derivation.choice?).getLast?

theorem derive_account (c : Client) (d : Derivation) :
    (c.derive d).account = d.choice?.getD c.account := by
  cases d <;> rfl

theorem lastChoice?_cons (d : Derivation) (chain : List Derivation) (account : Account) :
    (lastChoice? (d :: chain)).getD account =
      (lastChoice? chain).getD (d.choice?.getD account) := by
  unfold lastChoice?
  cases hd : d.choice? <;> simp [hd, List.getLast?_cons]

theorem deriveAll_account (c : Client) (chain : List Derivation) :
    (c.deriveAll chain).account = (lastChoice? chain).getD c.account := by
  induction chain generalizing c with
  | nil => rfl
  | cons d chain ih =>
    rw [lastChoice?_cons, ← c.derive_account d]
    exact ih (c.derive d)

end Client

/-- The handle was made from a client for an object, or found by a set; operations may have been
carried out on it since then. -/
inductive Handle.StemsFrom (σ : Type) [Cluster σ] : Handle → Client → ObjectRef → Prop
  | made (c : Client) (o : ObjectRef) : StemsFrom σ { client := c, object := o } c o
  | found {s : ResourceSet} {f : Filter} {w : World σ} {handles : List Handle} {h : Handle}
    (listed : (s.list f w).1 = .ok handles) (mem : h ∈ handles) :
    StemsFrom σ h s.client ⟨s.kind, s.scope, h.object.name⟩
  | operated {h : Handle} {c : Client} {o : ObjectRef} (stems : StemsFrom σ h c o)
    (op : Handle.Operation) (w : World σ) : StemsFrom σ (op.run h w).1.2 c o

variable {σ : Type} [Cluster σ]

theorem Handle.Operation.run_client (op : Operation) (h : Handle) (w : World σ) :
    (op.run h w).1.2.client = h.client := by
  rw [op.run_handle]
  rfl

theorem Handle.Operation.run_object (op : Operation) (h : Handle) (w : World σ) :
    (op.run h w).1.2.object = h.object := by
  rw [op.run_handle]
  rfl

theorem ResourceSet.eq_of_mem_list {s : ResourceSet} {f : Filter} {w : World σ}
    {handles : List Handle} (listed : (s.list f w).1 = .ok handles) {h : Handle}
    (mem : h ∈ handles) : h = ⟨s.client, ⟨s.kind, s.scope, h.object.name⟩, .unknown⟩ := by
  unfold list at listed
  simp only [Action.bind_apply, Action.pure_apply] at listed
  cases hn : (s.names f w).1 with
  | error e =>
    rw [hn] at listed
    cases listed
  | ok names =>
    rw [hn] at listed
    cases listed
    obtain ⟨name, -, rfl⟩ := List.mem_map.mp mem
    rfl

namespace Handle.StemsFrom

variable {h : Handle} {c : Client} {o : ObjectRef}

theorem client_eq (stems : h.StemsFrom σ c o) : h.client = c := by
  induction stems with
  | made c o => rfl
  | found listed mem => rw [ResourceSet.eq_of_mem_list listed mem]
  | operated _ op w ih => rw [op.run_client, ih]

theorem object_eq (stems : h.StemsFrom σ c o) : h.object = o := by
  induction stems with
  | made c o => rfl
  | found listed mem => rw [ResourceSet.eq_of_mem_list listed mem]
  | operated _ op w ih => rw [op.run_object, ih]

end Handle.StemsFrom

end Settle
