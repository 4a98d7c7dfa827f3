import Mathlib.Order.Bounds.Basic
import Hyperparams.Proofs.Object.Calls
import Hyperparams.Proofs.Tree.Encoded

/-!
# Gaps between positions

A node with a gap between its positions can neither be encoded nor built. Encoding looks at a node
before the nodes that it holds and building looks at it after them, so in a tree with several gaps
the two may report different ones. Both fail for the same trees, and each reports a gap that is
there.
-/

namespace Hyperparams

namespace Node

open Outcome

/-- The first number that is no position of a node, while a greater one is. -/
structure HasGap (n : Node) (missing : Nat) : Prop where
  least : IsLeast {i | i ∉ n.positions} missing
  before : ∃ i ∈ n.positions, missing < i

theorem HasGap.not_dense {n : Node} {missing : Nat} (h : n.HasGap missing) : ¬ n.Dense := by
  intro hdense
  obtain ⟨i, hi, hless⟩ := h.before
  apply h.least.1
  rw [hdense, List.mem_range] at hi ⊢
  omega

/-- The gap that is reported is the first of the node. -/
theorem hasGap_of_densify {α : Type} {n : Node} {entries : List (Nat × α)} {gap : PositionalGap}
    (h : densify entries = .error gap) (hn : Sorted.Ascending n.slots)
    (hentries : entries.map Prod.fst = n.positions) :
    n.HasGap gap.missing ∧ gap.present = n.positions := by
  obtain ⟨hpresent, hleast, hbefore⟩ := densify_eq_error h (hentries ▸ positions_pairwise hn)
  rw [hentries] at hpresent hleast hbefore
  exact ⟨⟨hleast, hbefore⟩, hpresent⟩

/-- Encoding slots fails only where encoding a nested node does. -/
theorem failsWith_encodeSlots {E : TreeError → Prop} {slots : List (Slot × Item)}
    (h : ∀ slot child, (slot, Item.node child) ∈ slots → FailsWith E child.encode) :
    FailsWith E (encodeSlots slots) := by
  induction slots with
  | nil => exact failsWith_ok _
  | cons entry rest ih =>
      obtain ⟨slot, item⟩ := entry
      have hrest := ih fun slot child hchild => h slot child (List.mem_cons_of_mem _ hchild)
      unfold encodeSlots
      cases item with
      | value v => exact hrest.bind fun documents _ => failsWith_ok _
      | node child =>
          apply (h slot child List.mem_cons_self).bind
          intro document _
          exact hrest.bind fun documents _ => failsWith_ok _

/-- Only a gap keeps a tree from being encoded. -/
theorem failsWith_encode {n : Node} (hordered : n.Ordered) :
    FailsWith (fun e => ∃ m ∈ n.nodes, ∃ missing, m.HasGap missing ∧
      e = .positionalGap m.path missing) n.encode := by
  induction n using Node.induction with
  | h n ih =>
      have hslots := hordered n (self_mem_nodes n)
      have hself := self_mem_nodes n
      obtain ⟨path, classRef, slots⟩ := n
      unfold encode
      cases hdense : densify (positionalEntries slots) with
      | error gap =>
          have hgap := (hasGap_of_densify hdense hslots rfl).1
          exact failsWith_error.mpr ⟨_, hself, gap.missing, hgap, rfl⟩
      | ok items =>
          dsimp only
          refine FailsWith.bind (failsWith_encodeSlots fun slot child hslot e he => ?_)
            fun documents _ => failsWith_ok _
          have hchild : child ∈ (mk path classRef slots).children := mem_children.mpr ⟨slot, hslot⟩
          obtain ⟨m, hm, hgap⟩ := ih child hchild (hordered.child hchild) e he
          exact ⟨m, mem_nodes_of_mem_children hchild hm, hgap⟩

end Node

section Building

open Construction Node

variable {ω κ : Type} {calling : Calling κ ω} {registry : Registry κ}
  {prefs : Preferences.Constructing}

/-- The classes of a registry make an object in every call. -/
def Registry.NeverFails (registry : Registry κ) (calling : Calling κ ω) : Prop :=
  ∀ name make, registry.resolve? name = some make → ∀ earlier args,
    ∃ object, calling earlier make args = .ok object

/-- What comes of building some nodes when only a gap can stop it. -/
inductive Settles {α : Type} (nodes : List Node) (gives : α → Prop)
    (result : Except MaterializeError α) : Prop
  | built {a : α} : result = .ok a → (∀ m ∈ nodes, m.Dense) → gives a →
      Settles nodes gives result
  | sparse {m : Node} {gap : PositionalGap} : m ∈ nodes → m.HasGap gap.missing →
      gap.present = m.positions →
      result = .error (.sparsePositionalArgs m.path m.classRef gap) → Settles nodes gives result

/-- What settles for some nodes goes on with what settles for others. -/
theorem Settles.bind {α β : Type} {nodes all : List Node} {gives : α → Prop} {gives' : β → Prop}
    {x : Construction ω MaterializeError α} {f : α → Construction ω MaterializeError β}
    {earlier : List (Invocation ω)} (h : Settles nodes gives (x earlier).outcome.result)
    (nodes' : List Node)
    (hnext : ∀ a earlier, gives a → Settles nodes' gives' (f a earlier).outcome.result)
    (hall : ∀ m, m ∈ all ↔ m ∈ nodes ∨ m ∈ nodes') :
    Settles all gives' ((x >>= f) earlier).outcome.result := by
  cases h with
  | sparse hm hgap hpresent hresult =>
      exact .sparse ((hall _).mpr (Or.inl hm)) hgap hpresent (result_bind_of_error hresult)
  | @built a hresult hdense hgives =>
      rw [result_bind_of_ok hresult]
      cases hnext a _ hgives with
      | sparse hm hgap hpresent hresult' =>
          exact .sparse ((hall _).mpr (Or.inr hm)) hgap hpresent hresult'
      | built hresult' hdense' hgives' =>
          refine .built hresult' (fun m hm => ?_) hgives'
          rcases (hall m).mp hm with hm | hm
          · exact hdense m hm
          · exact hdense' m hm

/-- A call comes to a result where no constructor fails. -/
theorem construct_settles (hnever : registry.NeverFails calling) (path : String) {classRef : String}
    {make : κ} (hmake : registry.resolve? classRef = some make) (positional : List (Argument ω))
    (named : Sorted.Table String (Argument ω)) (earlier : List (Invocation ω)) :
    ∃ i, (construct calling registry path classRef make positional named
      earlier).outcome.result = .ok i := by
  obtain ⟨object, hobject⟩ := hnever classRef make hmake earlier (.new classRef positional named)
  have hcall : (Construction.call calling path make (.new classRef positional named) earlier :
      Constructed ω MaterializeError _).outcome.result = .ok (.ok object) := by
    rw [← hobject]
    rfl
  unfold construct
  rw [result_bind_of_ok hcall]
  exact ⟨_, rfl⟩

/-- With all arguments at hand a node is built unless its positions have a gap. -/
theorem constructNode_settles (hnever : registry.NeverFails calling) {n : Node} {make : κ}
    (hmake : registry.resolve? n.classRef = some make) (hn : Sorted.Ascending n.slots)
    {arguments : List (Slot × Argument ω)} (hslots : arguments.map Prod.fst = n.slots.map Prod.fst)
    (earlier : List (Invocation ω)) :
    Settles [n] (fun _ => True)
      (constructNode calling registry prefs n.path n.classRef make arguments
        earlier).outcome.result := by
  have hpositions : (positionalEntries arguments).map Prod.fst = n.positions := by
    rw [Node.positions, map_fst_positionalEntries, map_fst_positionalEntries, hslots]
  unfold constructNode
  cases hdense : densify (positionalEntries arguments) with
  | error gap =>
      obtain ⟨hgap, hpresent⟩ := hasGap_of_densify hdense hn hpositions
      exact .sparse (List.mem_singleton.mpr rfl) hgap hpresent rfl
  | ok positional =>
      have hn' : n.Dense := by
        have hindices := (densify_eq_ok_iff.mp hdense).1
        rwa [← List.length_map, hpositions] at hindices
      obtain ⟨i, hi⟩ := construct_settles hnever n.path hmake positional
        (.ofList (namedEntries arguments)) earlier
      dsimp only
      split
      · rw [result_lift_bind rfl]
        exact .built hi (List.forall_mem_singleton.mpr hn') trivial
      · exact .built hi (List.forall_mem_singleton.mpr hn') trivial

theorem slotsConstruction_settles {slots : List (Slot × Item)}
    (hchildren : ∀ slot child, (slot, Item.node child) ∈ slots → ∀ earlier,
      Settles child.nodes (fun _ => True)
        (child.construction calling registry prefs earlier).outcome.result)
    (earlier : List (Invocation ω)) :
    Settles (nodesSlots slots) (fun arguments => arguments.map Prod.fst = slots.map Prod.fst)
      (slotsConstruction calling registry prefs slots earlier).outcome.result := by
  induction slots generalizing earlier with
  | nil => exact .built rfl (List.forall_mem_nil _) rfl
  | cons entry rest ih =>
      obtain ⟨slot, item⟩ := entry
      have hrest := ih fun slot child hchild => hchildren slot child (List.mem_cons_of_mem _ hchild)
      cases item with
      | value v =>
          unfold slotsConstruction
          refine (hrest earlier).bind [] (fun arguments earlier harguments => ?_)
            fun m => by simp [nodesSlots]
          exact .built rfl (List.forall_mem_nil _) (by simp [harguments])
      | node child =>
          unfold slotsConstruction
          refine (hchildren slot child List.mem_cons_self earlier).bind (nodesSlots rest)
            (fun i earlier _ => (hrest earlier).bind []
              (fun arguments earlier harguments => ?_) fun m => by simp)
            fun m => by simp [nodesSlots]
          exact .built rfl (List.forall_mem_nil _) (by simp [harguments])

/-- Only a gap keeps a tree from being built. -/
theorem construction_settles (prefs : Preferences.Constructing)
    (hnever : registry.NeverFails calling) (n : Node)
    (hordered : n.Ordered) (hclasses : ∀ m ∈ n.nodes, (registry.resolve? m.classRef).isSome)
    (earlier : List (Invocation ω)) :
    Settles n.nodes (fun _ => True)
      (n.construction calling registry prefs earlier).outcome.result := by
  induction n using Node.induction generalizing earlier with
  | h n ih =>
      have hn := hordered n (self_mem_nodes n)
      obtain ⟨make, hmake⟩ := Option.isSome_iff_exists.mp (hclasses n (self_mem_nodes n))
      obtain ⟨path, classRef, slots⟩ := n
      have hresolve : (resolve registry path classRef).result = .ok make := by
        rw [Node.classRef] at hmake
        simp [resolve, hmake]
      unfold construction
      rw [result_lift_bind hresolve]
      refine (slotsConstruction_settles (fun slot child hslot earlier => ?_) earlier).bind
        [mk path classRef slots]
        (fun arguments earlier harguments =>
          constructNode_settles hnever hmake hn harguments earlier)
        fun m => by simp [nodes, or_comm]
      have hchild : child ∈ (mk path classRef slots).children := mem_children.mpr ⟨slot, hslot⟩
      exact ih child hchild (hordered.child hchild)
        (fun m hm => hclasses m (mem_nodes_of_mem_children hchild hm)) earlier

/-- A tree whose classes are registered and never fail is built exactly when it can be encoded. If
not then both report the first missing position of a node in the tree, under the same code; they
report the same one if only one node has a gap. -/
theorem sparsity_agrees (t : Tree) (calling : Calling κ ω) (registry : Registry κ)
    (prefs : Preferences.Constructing) (earlier : List (Invocation ω))
    (hclasses : ∀ m ∈ t.root.nodes, (registry.resolve? m.classRef).isSome)
    (hnever : registry.NeverFails calling) :
    let built := (t.root.construction calling registry prefs earlier).outcome.result
    ((∃ e, built = .error e) ↔ ∃ e, t.root.encode = .error e) ∧
      ∀ e e', built = .error e → t.root.encode = .error e' →
        (∃ m ∈ t.root.nodes, ∃ gap, e = .sparsePositionalArgs m.path m.classRef gap ∧
          m.HasGap gap.missing ∧ gap.present = m.positions) ∧
        (∃ m ∈ t.root.nodes, ∃ missing, e' = .positionalGap m.path missing ∧ m.HasGap missing) ∧
        e.code = e'.code ∧
        ((∀ m ∈ t.root.nodes, ∀ m' ∈ t.root.nodes, ¬ m.Dense → ¬ m'.Dense → m = m') →
          ∃ path classRef gap, e = .sparsePositionalArgs path classRef gap ∧
            e' = .positionalGap path gap.missing) := by
  intro built
  have hencode := exists_encode_iff t.root
  cases construction_settles prefs hnever t.root t.ordered hclasses earlier with
  | built hresult hdense _ =>
      obtain ⟨doc, hdoc⟩ := hencode.mpr hdense
      refine ⟨⟨fun ⟨e, he⟩ => ?_, fun ⟨e, he⟩ => ?_⟩, fun e e' he => ?_⟩
      · cases hresult.symm.trans he
      · cases hdoc.symm.trans he
      · cases hresult.symm.trans he
  | @sparse m gap hm hgap hpresent hresult =>
      refine ⟨⟨fun _ => ?_, fun _ => ⟨_, hresult⟩⟩, fun e e' he he' => ?_⟩
      · cases hdoc : t.root.encode with
        | error e' => exact ⟨e', rfl⟩
        | ok doc => exact absurd (hencode.mp ⟨doc, hdoc⟩ m hm) hgap.not_dense
      · cases hresult.symm.trans he
        obtain ⟨m', hm', missing, hgap', rfl⟩ := failsWith_encode t.ordered e' he'
        refine ⟨⟨m, hm, gap, rfl, hgap, hpresent⟩, ⟨m', hm', missing, rfl, hgap'⟩, rfl, ?_⟩
        intro hone
        have hsame := hone m hm m' hm' hgap.not_dense hgap'.not_dense
        subst hsame
        exact ⟨m.path, m.classRef, gap, rfl, by rw [hgap.least.unique hgap'.least]⟩

/-- A node whose nested node lacks its first position. -/
def gappedTree : Tree where
  root := .mk "net" "Net"
    [(.positional 0, .node (.mk "net.0" "Head" [(.positional 1, .value (.int 1))])),
      (.named "lr", .value (.int 2))]
  ordered := by decide +kernel

/-- A gap below a node that has none is found by encoding and by construction. -/
theorem sparsity_agrees_gappedTree :
    let n := gappedTree.root
    let built := (n.construction (fun _ _ _ => .ok ()) pairRegistry {} []).outcome.result
    (∀ m ∈ n.nodes, (pairRegistry.resolve? m.classRef).isSome) ∧
      pairRegistry.NeverFails (fun _ _ _ => .ok ()) ∧
      built = .error (.sparsePositionalArgs "net.0" "Head" ⟨0, [1]⟩) ∧
      n.encode = .error (.positionalGap "net.0" 0) ∧
      ∃ m ∈ n.nodes, m.path = "net.0" ∧ m.HasGap 0 := by
  intro n built
  have hclasses : ∀ m ∈ n.nodes, (pairRegistry.resolve? m.classRef).isSome := by
    decide +kernel
  have hnever : pairRegistry.NeverFails (fun _ _ _ => Except.ok ()) := fun _ _ _ _ _ => ⟨(), rfl⟩
  have hbuilt : built = .error (.sparsePositionalArgs "net.0" "Head" ⟨0, [1]⟩) := rfl
  have hencode : n.encode = .error (.positionalGap "net.0" 0) := rfl
  refine ⟨hclasses, hnever, hbuilt, hencode, ?_⟩
  obtain ⟨-, ⟨m, hm, missing, hreport, hgap⟩, -, -⟩ :=
    (sparsity_agrees gappedTree _ pairRegistry {} [] hclasses hnever).2 _ _ hbuilt hencode
  obtain ⟨hpath, rfl⟩ := TreeError.positionalGap.inj hreport
  exact ⟨m, hm, hpath.symm, hgap⟩

end Building

end Hyperparams
