import StudySession.Proofs.Study.Positions

/-!
# The depth of expansion

A member is expanded with its node's common properties under its own, so it is no part of the node
and may be a group or a sampler by the common properties alone. Still it nests less deep than the
node (`Resolver.Enters.depth_lt`): it is made of two parts, one inside of a list of the node and one
that is a property of it. `Resolver.expandOnce` is one level of expansion, which leaves the members
to another function, and as many levels as a node nests deep are all that its expansion comes to
(`Resolver.descends`).
-/

namespace StudySession

open Resolve

/-- A member of a node's list, with the node's common properties, nests less deep than the node. -/
theorem Node.depthFields_underlay_lt_of_mem {node own : Fields} {property : String}
    (h : .obj own ∈ Node.membersOf node property) :
    Json.depthFields (Node.underlay (Node.commonOf node) own) < Json.depthFields node := by
  have hlt : Json.depthFields (Node.underlay (Node.commonOf node) own) <
      Node.memberDepth [.obj own] (Node.commonOf node) := Node.depthFields_underlay_lt
  have hmembers : ∀ member ∈ [Json.obj own], member ∈ Node.membersOf node property := by
    intro member hmem
    rwa [List.mem_singleton.1 hmem]
  exact Nat.lt_of_lt_of_le hlt (Node.memberDepth_le hmembers)

namespace Resolver

/-! ## One level -/

/-- A function that expands a node of a key under the parameters it inherits. -/
abbrev Expander := String → Fields → Fields → Resolve Expansion

/-- Members in order, each with the common properties under its own, expanded by another function. -/
def expandMembersOnce (call : Expander) (parent : String) (common : Option Fields)
    (context : Fields) : List (Json × Nat) → Resolve Expansion
  | [] => pure .empty
  | (.obj own, index) :: rest => do
    let member := Node.underlay common own
    let first ← call (Node.memberKey parent index member) member context
    let others ← expandMembersOnce call parent common context rest
    pure (first.append others)
  | (_, index) :: _ => throw (.malformedFrame (parent ++ "-" ++ toString index) .memberNotAnObject)

/-- Expands a node, but leaves its members to another function. -/
def expandOnce (r : Resolver) (call : Expander) : Expander := fun key node context => do
  match ← check (Node.classify key node) with
  | .leaf => expandLeaf key node context
  | .group =>
    let context ← check (Node.scope key node context)
    let _ ← check (Node.listProperty key node "frameList")
    let _ ← check (Node.commonProperties key node)
    expandMembersOnce call key (Node.commonOf node) context (Node.membersOf node "frameList").zipIdx
  | .sampler name =>
    match r.registry.get? name with
    | none => throw (.unknownSampler key name)
    | some sampler =>
      let context ← check (Node.scope key node context)
      let choice ← sampler.choose (r.request (← get) key node context)
      let chosen ← expandMembersOnce call key (Node.commonOf node)
        (context.mergeOver choice.parameters) (choice.members node)
      pure { chosen with conditions := chosen.conditions.insert key choice.condition }

variable {r : Resolver} {call bottom : Expander} {v w : Visit}

theorem expandMembersOnce_expand (parent : String) (common : Option Fields) (context : Fields)
    (members : List (Json × Nat)) :
    expandMembersOnce r.expand parent common context members =
      r.expandMembers parent members common context := by
  induction members with
  | nil => rw [expandMembersOnce, expandMembers]
  | cons first rest ih =>
      obtain ⟨member, index⟩ := first
      cases member with
      | obj own =>
          rw [expandMembersOnce, expandMembers, ih]
      | _ => rw [expandMembersOnce, expandMembers] <;> simp

/-- Expansion is one level with expansion below it. -/
theorem expandOnce_expand (r : Resolver) : r.expandOnce r.expand = r.expand := by
  funext key node context
  rw [expandOnce, expand]
  refine congrArg (check (Node.classify key node) >>= ·) (funext fun kind => ?_)
  cases kind with
  | leaf => rfl
  | group => simp only [expandMembersOnce_expand]
  | sampler name =>
      dsimp only
      cases r.registry.get? name with
      | none => rfl
      | some sampler => simp only [expandMembersOnce_expand]

/-! ## What a level calls for -/

/-- For members nothing is called but at the visits that they are entered by. -/
theorem run_expandMembersOnce_of_enters {parent : String} {common : Option Fields}
    {context : Fields} {members : List (Json × Nat)} {pass : Pass}
    (h : ∀ w, r.EntersMember parent common context members pass w →
      run (call w.key w.node w.context) w.pass = run (r.expand w.key w.node w.context) w.pass) :
    run (expandMembersOnce call parent common context members) pass =
      run (r.expandMembers parent members common context) pass := by
  rw [← expandMembersOnce_expand]
  induction members generalizing pass with
  | nil => rfl
  | cons first rest ih =>
      obtain ⟨member, index⟩ := first
      cases member with
      | obj own =>
          refine run_bind_congr (h _ .here) fun first between hrun => ?_
          have hrest := ih fun w hw => h w (.later hrun hw)
          exact run_bind_congr hrest fun _ _ _ => rfl
      | _ => rfl

/-- A level calls for nothing but at the visits that expansion enters. -/
theorem run_expandOnce_of_enters
    (h : ∀ w, r.Enters v w →
      run (call w.key w.node w.context) w.pass = run (r.expand w.key w.node w.context) w.pass) :
    run (r.expandOnce call v.key v.node v.context) v.pass =
      run (r.expand v.key v.node v.context) v.pass := by
  rw [expandOnce, expand]
  refine run_check_bind_congr fun kind hkind => ?_
  cases kind with
  | leaf => rfl
  | group =>
      refine run_check_bind_congr fun context hscope => ?_
      refine run_check_bind_congr fun items hlist => ?_
      refine run_check_bind_congr fun common hcommon => ?_
      exact run_expandMembersOnce_of_enters fun w hw =>
        h w (.group hkind hscope hlist hcommon hw)
  | sampler name =>
      dsimp only
      cases hfound : r.registry.get? name with
      | none => rfl
      | some sampler =>
          refine run_check_bind_congr fun context hscope => ?_
          rw [run_get_bind, run_get_bind]
          refine run_bind_congr rfl fun choice between hrun => ?_
          have hchosen : r.Chooses v context choice between :=
            ⟨hscope, name, sampler, hkind, hfound, hrun⟩
          refine run_bind_congr ?_ fun _ _ _ => rfl
          exact run_expandMembersOnce_of_enters fun w hw => h w (.sampler hchosen hw)

/-! ## How deep it goes -/

/-- What expansion comes to from a node nests less deep than the node. -/
theorem Enters.depth_lt (h : r.Enters v w) :
    (Json.obj w.node).depth < (Json.obj v.node).depth := by
  simp only [Json.depth]
  cases h with
  | group _ _ _ _ member =>
      obtain ⟨own, index, hmem, -, hnode⟩ := member.exists_mem
      have hlt := Node.depthFields_underlay_lt_of_mem (List.fst_mem_of_mem_zipIdx hmem)
      rw [hnode]
      omega
  | @sampler _ choice _ _ _ member =>
      obtain ⟨own, index, hmem, -, hnode⟩ := member.exists_mem
      have hlt := Node.depthFields_underlay_lt_of_mem
        (Choice.mem_membersOf _ (List.mem_map_of_mem hmem))
      rw [hnode]
      omega

/-- A path of visits, each entered from the one before it, is no longer than the first nests
deep. -/
theorem length_le_depth {path : List Visit} (h : (v :: path).IsChain r.Enters) :
    (v :: path).length ≤ (Json.obj v.node).depth := by
  induction path generalizing v with
  | nil => simp [Json.depth]
  | cons w rest ih =>
      rw [List.isChain_cons_cons] at h
      have hlt := h.1.depth_lt
      have hrest := ih h.2
      simp only [List.length_cons] at hrest ⊢
      omega

/-- As many levels as a node nests deep are its expansion, whatever is below them. -/
theorem run_iterate_expandOnce (n : Nat) (hdepth : (Json.obj v.node).depth ≤ n) :
    run ((r.expandOnce)^[n] bottom v.key v.node v.context) v.pass =
      run (r.expand v.key v.node v.context) v.pass := by
  induction n generalizing v with
  | zero => simp [Json.depth] at hdepth
  | succ n ih =>
      rw [Function.iterate_succ_apply']
      refine run_expandOnce_of_enters fun w hw => ih ?_
      have hlt := hw.depth_lt
      omega

/-- How far down expansion goes. -/
structure Descends (r : Resolver) : Prop where
  /-- Each level calls for expansion at the visits that are entered, and nowhere else. -/
  level : r.expandOnce r.expand = r.expand
  calls : ∀ (v : Visit) (call : Expander),
    (∀ w, r.Enters v w →
      run (call w.key w.node w.context) w.pass = run (r.expand w.key w.node w.context) w.pass) →
    run (r.expandOnce call v.key v.node v.context) v.pass =
      run (r.expand v.key v.node v.context) v.pass
  /-- These nest less deep than the node, -/
  depth_lt : ∀ v w, r.Enters v w → (Json.obj w.node).depth < (Json.obj v.node).depth
  /-- so no path of them is longer than the node nests deep, -/
  path : ∀ v path, (v :: path).IsChain r.Enters →
    (v :: path).length ≤ (Json.obj v.node).depth
  /-- and as many levels are the whole expansion. -/
  levels : ∀ (v : Visit) (bottom : Expander) (n : Nat), (Json.obj v.node).depth ≤ n →
    run ((r.expandOnce)^[n] bottom v.key v.node v.context) v.pass =
      run (r.expand v.key v.node v.context) v.pass

/-- Expansion ends within the depth that a node nests to. -/
theorem descends (r : Resolver) : r.Descends where
  level := r.expandOnce_expand
  calls _ _ := run_expandOnce_of_enters
  depth_lt _ _ := Enters.depth_lt
  path _ _ := length_le_depth
  levels _ _ := run_iterate_expandOnce

/-- The common properties make a member a sampler with a list and common properties of its own. -/
example :
    let common : Fields :=
      [("commonFrameProperties", .obj [("kind", .str "x")]), ("frameList", .arr [.obj []]),
        ("sampler", .str "permute")]
    let node : Fields :=
      [("commonFrameProperties", .obj common), ("frameList", .arr [.obj [("kind", .str "x")]])]
    let member := Node.underlay (Node.commonOf node) [("kind", .str "x")]
    Node.classify "a" node = .ok .group ∧ Node.classify "a-0" member = .ok (.sampler "permute") ∧
      (Json.obj node).depth = 4 ∧ (Json.obj member).depth = 3 :=
  ⟨rfl, rfl, rfl, rfl⟩

end Resolver

end StudySession
