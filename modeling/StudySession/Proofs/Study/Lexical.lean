import StudySession.Proofs.Study.Journal
import StudySession.Proofs.Study.Visits

/-!
# The lexical meaning of a node

Where no sampler chooses and no placeholder draws, expansion has a meaning that needs no pass: a
node stands in scopes, the innermost first, the frames are those of the leaves in preorder, and a
text means what the innermost scope binds it to (`ScopedNode.leaves`, `Scopes.denote`). Expansion
merges the scopes into one context on its way down; `Scopes.Merged` ties the two together, and
`Resolve.Means` says that a step comes to its meaning or is refused, whatever the pass.
-/

namespace StudySession

open Resolve

/-! ## Scopes -/

namespace Scopes

/-- What a name is bound to: the binding of the innermost scope that has one. -/
def binding? (scopes : List Fields) (name : String) : Option Json :=
  scopes.findSome? (·.get? name)

/-- What a text stands for: what it is bound to as a whole, or else the item that it names of a
bound array, or else itself. -/
def meaning (scopes : List Fields) (text : String) : Json :=
  match binding? scopes text with
  | some value => value
  | none =>
    match Placeholder.ofText? text with
    | some ⟨name, .index n⟩ =>
      match binding? scopes name with
      | some (.arr items) => items[n]?.getD (.str text)
      | _ => .str text
    | _ => .str text

mutual

/-- A document with every text replaced by what it stands for. -/
def denote (scopes : List Fields) : Json → Json
  | .str text => meaning scopes text
  | .arr items => .arr (denoteItems scopes items)
  | .obj fields => .obj (denoteFields scopes fields)
  | j => j

def denoteItems (scopes : List Fields) : List Json → List Json
  | [] => []
  | x :: xs => denote scopes x :: denoteItems scopes xs

def denoteFields (scopes : List Fields) : List (String × Json) → List (String × Json)
  | [] => []
  | (k, x) :: xs => (k, denote scopes x) :: denoteFields scopes xs

end

/-- A context binds what the scopes bind. -/
def Merged (scopes : List Fields) (context : Fields) : Prop :=
  ∀ name, context.get? name = binding? scopes name

theorem Merged.singleton (context : Fields) : Merged [context] context := by
  intro name
  cases h : context.get? name <;> simp [binding?, h]

/-- Bindings put over those in scope make the innermost scope. -/
theorem Merged.mergeOver {scopes : List Fields} {context own : Fields} (h : Merged scopes context)
    (hown : own.Sorted) : Merged (own :: scopes) (context.mergeOver own) := by
  intro name
  rw [Dict.get?_mergeOver hown.nodup_keys, h name]
  simp only [binding?, List.findSome?_cons]
  cases own.get? name <;> rfl

theorem Merged.cons_nil {scopes : List Fields} {context : Fields} (h : Merged scopes context) :
    Merged ([] :: scopes) context :=
  h

end Scopes

/-- A text draws nothing: where it is a placeholder, it is one for an item by its place. -/
def Placeholder.Fixed (text : String) : Prop :=
  ∀ placeholder, ofText? text = some placeholder → ∃ n, placeholder.selector = .index n

instance (text : String) : Decidable (Placeholder.Fixed text) :=
  decidable_of_iff
    ((Placeholder.ofText? text).all fun placeholder =>
      match placeholder.selector with
      | .index _ => true
      | _ => false)
    (by
      cases h : Placeholder.ofText? text with
      | none => simp [Placeholder.Fixed, h]
      | some placeholder =>
          obtain ⟨name, selector⟩ := placeholder
          cases selector <;> simp [Placeholder.Fixed, h])

/-! ## Steps with a meaning -/

namespace Resolve

variable {ι α β : Type}

/-- Steps that come to one meaning or are all refused alike, and leave every lenient pass as it
was. -/
def Means (step : ι → Resolve α) (meaning : α) : Prop :=
  ∃ outcome : Except StudyError α,
    (∀ i pass, pass.policy = .lenient → (step i).run pass = (outcome, pass)) ∧
      ∀ a, outcome = .ok a → a = meaning

namespace Means

theorem pure (a : α) : Means (fun _ : ι => (Pure.pure a : Resolve α)) a :=
  ⟨.ok a, fun _ _ _ => rfl, fun _ h => (Except.ok.inj h).symm⟩

theorem throw (e : StudyError) (meaning : α) :
    Means (fun _ : ι => (MonadExcept.throw e : Resolve α)) meaning :=
  ⟨.error e, fun _ _ _ => rfl, fun _ h => nomatch h⟩

theorem bind {step : ι → Resolve α} {next : ι → α → Resolve β} {a : α} {b : β}
    (first : Means step a) (rest : Means (fun i => next i a) b) :
    Means (fun i => step i >>= next i) b := by
  obtain ⟨outcome, hrun, hmeaning⟩ := first
  cases outcome with
  | error e =>
      refine ⟨.error e, fun i pass hpolicy => ?_, fun _ h => nomatch h⟩
      rw [run_bind, hrun i pass hpolicy]
  | ok a' =>
      obtain rfl := hmeaning a' rfl
      obtain ⟨outcome', hrun', hmeaning'⟩ := rest
      refine ⟨outcome', fun i pass hpolicy => ?_, hmeaning'⟩
      rw [run_bind, hrun i pass hpolicy]
      exact hrun' i pass hpolicy

/-- A check decides by itself whether the step after it is taken. -/
theorem check_bind {outcome : Except StudyError α} {next : ι → α → Resolve β} {b : β}
    (rest : ∀ a, outcome = .ok a → Means (fun i => next i a) b) :
    Means (fun i => check outcome >>= next i) b := by
  cases outcome with
  | error e => exact ⟨.error e, fun _ _ _ => rfl, fun _ h => nomatch h⟩
  | ok a => exact rest a rfl

end Means

/-! ## Substitution -/

section Substitution

variable {scopes : List Fields} {context : Fields}

theorem means_substituteText (h : Scopes.Merged scopes context) {text : String}
    (htext : Placeholder.Fixed text) :
    Means (fun _ : ι => substituteText context text) (Scopes.meaning scopes text) := by
  unfold substituteText Scopes.meaning
  rw [← h text]
  cases context.get? text with
  | some value => exact .pure value
  | none =>
      dsimp only
      cases hplaceholder : Placeholder.ofText? text with
      | none => exact .pure _
      | some placeholder =>
          obtain ⟨n, hn⟩ := htext placeholder hplaceholder
          obtain ⟨name, selector⟩ := placeholder
          obtain rfl : selector = .index n := hn
          dsimp only
          rw [← h name]
          cases context.get? name with
          | none =>
              refine ⟨.ok (.str text), fun _ pass hpolicy => ?_, fun _ h => (Except.ok.inj h).symm⟩
              rw [run_get_bind, hpolicy]
              rfl
          | some value =>
              cases value with
              | arr items =>
                  dsimp only [select]
                  cases items[n]? with
                  | none => exact .throw ..
                  | some item => exact .pure item
              | _ => exact .throw ..

mutual

theorem means_substitute (h : Scopes.Merged scopes context) :
    ∀ j : Json, (∀ text ∈ j.texts, Placeholder.Fixed text) →
      Means (fun _ : ι => substitute context j) (Scopes.denote scopes j)
  | .str text, htexts => by
      simp only [substitute, Scopes.denote]
      exact means_substituteText h (htexts text (by simp [Json.texts]))
  | .arr items, htexts => by
      simp only [substitute, Scopes.denote]
      exact .bind (means_substituteItems h items htexts) (.pure _)
  | .obj fields, htexts => by
      simp only [substitute, Scopes.denote]
      exact .bind (means_substituteFields h fields htexts) (.pure _)
  | .null, _ => .pure _
  | .bool _, _ => .pure _
  | .int _, _ => .pure _
  | .float _, _ => .pure _

theorem means_substituteItems (h : Scopes.Merged scopes context) :
    ∀ items : List Json, (∀ text ∈ Json.textsOfItems items, Placeholder.Fixed text) →
      Means (fun _ : ι => substituteItems context items) (Scopes.denoteItems scopes items)
  | [], _ => .pure _
  | x :: xs, htexts => by
      simp only [Json.textsOfItems, List.forall_mem_append] at htexts
      simp only [substituteItems, Scopes.denoteItems]
      exact .bind (means_substitute h x htexts.1)
        (.bind (means_substituteItems h xs htexts.2) (.pure _))

theorem means_substituteFields (h : Scopes.Merged scopes context) :
    ∀ fields : List (String × Json), (∀ text ∈ Json.textsOfFields fields, Placeholder.Fixed text) →
      Means (fun _ : ι => substituteFields context fields) (Scopes.denoteFields scopes fields)
  | [], _ => .pure _
  | (k, x) :: xs, htexts => by
      simp only [Json.textsOfFields, List.forall_mem_append] at htexts
      simp only [substituteFields, Scopes.denoteFields]
      exact .bind (means_substitute h x htexts.1)
        (.bind (means_substituteFields h xs htexts.2) (.pure _))

end

end Substitution

end Resolve

/-! ## Nodes in their scopes -/

namespace Node

/-- The parameters that a node brings into scope. -/
def ownParameters (node : Fields) : Fields :=
  match node.get? "parameters" with
  | some (.obj own) => own
  | _ => []

/-- The members that are nodes, each with the common properties under its own. -/
def membersUnder (common : Option Fields) (members : List Json) : List Fields :=
  members.filterMap fun
    | .obj own => some (underlay common own)
    | _ => none

theorem mem_membersUnder {common : Option Fields} {members : List Json} {member : Fields} :
    member ∈ membersUnder common members ↔
      ∃ own, .obj own ∈ members ∧ underlay common own = member := by
  unfold membersUnder
  rw [List.mem_filterMap]
  constructor
  · rintro ⟨j, hj, h⟩
    cases j with
    | obj own => exact ⟨own, hj, Option.some.inj h⟩
    | _ => simp at h
  · rintro ⟨own, hown, rfl⟩
    exact ⟨.obj own, hown, rfl⟩

/-- The parameters in scope at a node are its own over the inherited ones. -/
theorem merged_of_scope {key : String} {node inherited context : Fields} {scopes : List Fields}
    (hnode : (Json.obj node).WellFormed) (h : Scopes.Merged scopes inherited)
    (hscope : scope key node inherited = .ok context) :
    Scopes.Merged (ownParameters node :: scopes) context := by
  unfold ownParameters
  unfold scope at hscope
  split at hscope
  · next hnone =>
      obtain rfl := Except.ok.inj hscope
      rw [hnone]
      exact h.cons_nil
  · next hnull =>
      obtain rfl := Except.ok.inj hscope
      rw [hnull]
      exact h.cons_nil
  · next own hown =>
      obtain rfl := Except.ok.inj hscope
      rw [hown]
      exact h.mergeOver (Json.wellFormed_obj.1 (hnode.get? hown)).1
  · simp at hscope

/-- A node has no sampler, and if it is a leaf, none of its texts draws. -/
def Plain (node : Fields) : Prop :=
  node.get? "sampler" = none ∧ (node.has "frameList" = false →
    ∀ text ∈ Json.textsOfFields (node.erase "parameters"), Placeholder.Fixed text)

instance (node : Fields) : Decidable (Plain node) := inferInstanceAs (Decidable (_ ∧ _))

end Node

/-- A node of a study with the scopes it stands in, its own parameters first. -/
structure ScopedNode where
  node : Fields
  scopes : List Fields

namespace ScopedNode

/-- A node by the scopes around it. -/
def enter (node : Fields) (scopes : List Fields) : ScopedNode :=
  ⟨node, Node.ownParameters node :: scopes⟩

/-- The members of a group, in its scopes. -/
def members (n : ScopedNode) : List ScopedNode :=
  (Node.membersUnder (Node.commonOf n.node) (Node.membersOf n.node "frameList")).map
    (enter · n.scopes)

theorem depth_lt_of_mem_members {n m : ScopedNode} (h : m ∈ n.members) :
    Json.depthFields m.node < Json.depthFields n.node := by
  obtain ⟨member, hmember, rfl⟩ := List.mem_map.1 h
  obtain ⟨own, hown, rfl⟩ := Node.mem_membersUnder.1 hmember
  calc Json.depthFields (Node.underlay (Node.commonOf n.node) own)
      < Node.memberDepth [.obj own] (Node.commonOf n.node) := Node.depthFields_underlay_lt
    _ ≤ Json.depthFields n.node :=
        Node.memberDepth_le fun _ hmember => List.mem_singleton.1 hmember ▸ hown

/-- A node and all the nodes below it, every group before its members. -/
def preorder (n : ScopedNode) : List ScopedNode :=
  n :: n.members.attach.flatMap fun m => preorder m.1
termination_by Json.depthFields n.node
decreasing_by exact depth_lt_of_mem_members m.2

theorem preorder_eq (n : ScopedNode) : n.preorder = n :: n.members.flatMap preorder := by
  rw [preorder, List.flatMap_def, List.attach_map_val, ← List.flatMap_def]

/-- A node without a member list. -/
def IsLeaf (n : ScopedNode) : Prop := n.node.has "frameList" = false

instance (n : ScopedNode) : Decidable n.IsLeaf := inferInstanceAs (Decidable (_ = _))

def leaves (n : ScopedNode) : List ScopedNode := n.preorder.filter (·.IsLeaf)

/-- The properties of a leaf but for the parameters, every text replaced by what it stands for. -/
def frame (n : ScopedNode) : Fields := Scopes.denoteFields n.scopes (n.node.erase "parameters")

theorem leaves_of_isLeaf {n : ScopedNode} (h : n.IsLeaf) : n.leaves = [n] := by
  have hmembers : n.members = [] := by
    have hnone : n.node.get? "frameList" = none := Option.isNone_iff_eq_none.1 (by
      simpa [IsLeaf, Dict.has] using h)
    simp [members, Node.membersOf, Node.membersUnder, hnone]
  simp [leaves, preorder_eq, hmembers, h]

theorem leaves_of_not_isLeaf {n : ScopedNode} (h : ¬ n.IsLeaf) :
    n.leaves = n.members.flatMap leaves := by
  rw [leaves, preorder_eq, List.filter_cons_of_neg (by simpa using h), List.filter_flatMap]
  rfl

/-- No node from here on has a sampler, and no text of a leaf draws. -/
def Plain (n : ScopedNode) : Prop := ∀ m ∈ n.preorder, Node.Plain m.node

theorem plain_iff {n : ScopedNode} : n.Plain ↔ Node.Plain n.node ∧ ∀ m ∈ n.members, m.Plain := by
  unfold Plain
  rw [preorder_eq, List.forall_mem_cons]
  exact and_congr_right' ⟨fun h m hm k hk => h k (List.mem_flatMap.2 ⟨m, hm, hk⟩), fun h k hk =>
    let ⟨m, hm, hkm⟩ := List.mem_flatMap.1 hk
    h m hm k hkm⟩

end ScopedNode

/-! ## Expansion -/

namespace Node

variable {key : String} {node : Fields}

theorem classify_cases {kind : Kind} (h : classify key node = .ok kind) :
    (kind = .leaf ∧ node.has "frameList" = false) ∨ (kind = .group ∧ node.has "frameList" = true) ∨
      node.get? "sampler" ≠ none := by
  unfold classify at h
  split at h
  · next hsome => simp [hsome]
  · simp at h
  · split at h
    · next hlist => exact .inr (.inl ⟨(Except.ok.inj h).symm, hlist⟩)
    · next hlist =>
        split at h
        · exact .inl ⟨(Except.ok.inj h).symm, by simpa using hlist⟩
        · simp at h

end Node

namespace Resolver

open ScopedNode

theorem means_expandLeaf {key : String} {node context : Fields} {scopes : List Fields}
    (hnode : (Json.obj node).WellFormed) (h : Scopes.Merged scopes context)
    (hleaf : (enter node scopes).IsLeaf) (hplain : (enter node scopes).Plain) :
    Means (fun _ : Resolver => expandLeaf key node context)
      ⟨(enter node scopes).leaves.map frame, []⟩ := by
  rw [leaves_of_isLeaf hleaf]
  refine .check_bind fun inner hscope => ?_
  refine .bind (means_substituteFields (Node.merged_of_scope hnode h hscope) _ ?_) (.pure _)
  exact (plain_iff.1 hplain).1.2 hleaf

/-- Expansion of a node, and of members, comes to the frames of the leaves below. -/
theorem means_expand_and_members :
    (∀ key node context (scopes : List Fields), (Json.obj node).WellFormed →
        Scopes.Merged scopes context → (enter node scopes).Plain →
        Means (fun r : Resolver => r.expand key node context)
          ⟨(enter node scopes).leaves.map frame, []⟩) ∧
      ∀ parent members common context (scopes : List Fields),
        (∀ node ∈ Node.membersUnder common (members.map (·.1)), (Json.obj node).WellFormed ∧
          (enter node scopes).Plain) →
        Scopes.Merged scopes context →
        Means (fun r : Resolver => r.expandMembers parent members common context)
          ⟨((Node.membersUnder common (members.map (·.1))).flatMap
            fun node => (enter node scopes).leaves).map frame, []⟩ := by
  apply expand.mutual_induct
  case case1 =>
    intro key node context ihGroup _ scopes hnode h hplain
    simp only [expand]
    refine .check_bind fun kind hkind => ?_
    obtain ⟨rfl, hleaf⟩ | ⟨rfl, hlist⟩ | hsampler := Node.classify_cases hkind
    · exact means_expandLeaf hnode h hleaf hplain
    · refine .check_bind fun inner hscope => ?_
      refine .check_bind fun items _ => ?_
      refine .check_bind fun common _ => ?_
      have hmembers : ∀ member ∈ Node.membersUnder (Node.commonOf node)
          ((Node.membersOf node "frameList").zipIdx.map (·.1)),
          (Json.obj member).WellFormed ∧ (enter member (enter node scopes).scopes).Plain := by
        intro member hmember
        rw [List.zipIdx_map_fst] at hmember
        refine ⟨?_, (plain_iff.1 hplain).2 _ (List.mem_map.2 ⟨member, hmember, rfl⟩)⟩
        obtain ⟨own, hown, rfl⟩ := Node.mem_membersUnder.1 hmember
        exact Node.wellFormed_underlay hnode (Node.wellFormed_of_mem_membersOf hnode hown)
      have hframes := ihGroup inner _ hmembers (Node.merged_of_scope hnode h hscope)
      rw [List.zipIdx_map_fst] at hframes
      rw [leaves_of_not_isLeaf (by simp [IsLeaf, enter, hlist]), members, List.flatMap_map]
      exact hframes
    · exact absurd (plain_iff.1 hplain).1.1 hsampler
  case case2 =>
    intro parent common context scopes _ _
    simp only [expandMembers]
    exact .pure _
  case case3 =>
    intro parent common context own index rest member ihFirst ihRest scopes hmembers h
    simp only [expandMembers]
    have hunder : Node.membersUnder common (((Json.obj own, index) :: rest).map (·.1)) =
        member :: Node.membersUnder common (rest.map (·.1)) := rfl
    rw [hunder] at hmembers ⊢
    obtain ⟨hmember, hrest⟩ := List.forall_mem_cons.1 hmembers
    rw [List.flatMap_cons, List.map_append]
    exact .bind (ihFirst scopes hmember.1 h hmember.2) (.bind (ihRest scopes hrest h) (.pure _))
  case case4 =>
    intro parent common context value index rest hvalue scopes _ _
    simp only [expandMembers]
    exact .throw ..

/-- **Without samplers and draws, expansion is lexical.** Let no node from here on have a sampler
and no text of a leaf draw, in a well-formed node under the lenient policy. If it expands, its
frames are those of its leaves in preorder, where members have the common properties of their own
group under their own and every text is replaced by what it stands for in the scopes around it; no
condition is recorded, the pass is left as it was, and in any other lenient pass, with any samplers,
past sessions and age, the node expands to the same. -/
theorem expand_lexical (r : Resolver) {key : String} {node context : Fields} {pass after : Pass}
    {e : Expansion} (hnode : (Json.obj node).WellFormed) (hplain : (enter node [context]).Plain)
    (hpolicy : pass.policy = .lenient)
    (hrun : (r.expand key node context).run pass = (.ok e, after)) :
    e.frames = (enter node [context]).leaves.map frame ∧ e.conditions = [] ∧ after = pass ∧
      ∀ (r' : Resolver) (pass' : Pass), pass'.policy = .lenient →
        (r'.expand key node context).run pass' = (.ok e, pass') := by
  obtain ⟨outcome, hruns, hmeaning⟩ :=
    means_expand_and_members.1 key node context [context] hnode (.singleton context) hplain
  obtain ⟨rfl, rfl⟩ := Prod.mk.inj ((hruns r pass hpolicy).symm.trans hrun)
  obtain rfl := hmeaning e rfl
  exact ⟨rfl, rfl, rfl, fun r' pass' hpolicy' => hruns r' pass' hpolicy'⟩

/-! A group in a group: the common properties give the first member its kind and a parameter, which
the second has in its own place; the inner group rebinds a name, and a value that is itself a name
stays as it is. -/

def innerNode : Fields :=
  [("commonFrameProperties", .obj [("kind", .str "line")]),
    ("frameList", .arr [.obj [("shown", .obj [("deep", .str "size")]), ("text", .str "color")],
      .obj [("kind", .str "last"), ("text", .str "other#0")]]),
    ("kind", .str "group"), ("parameters", .obj [("size", .str "small")])]

def outerNode : Fields :=
  [("commonFrameProperties", .obj
      [("kind", .str "word"), ("parameters", .obj [("color", .str "size")])]),
    ("frameList", .arr
      [.obj [("shown", .arr [.str "color", .str "size", .str "words#1"])], .obj innerNode]),
    ("parameters", .obj [("size", .str "large"), ("words", .arr [.str "cat", .str "size"])])]

def wordFrame : Fields :=
  [("kind", .str "word"), ("shown", .arr [.str "size", .str "large", .str "size"])]

def lineFrame : Fields :=
  [("kind", .str "line"), ("shown", .obj [("deep", .str "small")]), ("text", .str "blue")]

def lastFrame : Fields := [("kind", .str "last"), ("text", .str "other#0")]

theorem run_expand_outerNode (r : Resolver) (g : Generator) :
    (r.expand "outer" outerNode [("color", .str "blue")]).run (.start 0 none .lenient g) =
      (.ok ⟨[wordFrame, lineFrame, lastFrame], []⟩, .start 0 none .lenient g) := by
  refine Expanded.run (v := ⟨_, _, _, _⟩) (.group rfl rfl rfl rfl ?_)
  refine run_expandMembers_cons_eq_ok_iff.2 ⟨⟨[wordFrame], []⟩, .start 0 none .lenient g,
    ⟨[lineFrame, lastFrame], []⟩, Expanded.run (v := ⟨_, _, _, _⟩) (.leaf rfl rfl), ?_, rfl⟩
  refine run_expandMembers_cons_eq_ok_iff.2 ⟨⟨[lineFrame, lastFrame], []⟩, .start 0 none .lenient g,
    .empty, Expanded.run (v := ⟨_, innerNode, _, _⟩) (.group rfl rfl rfl rfl ?_),
    run_expandMembers_nil .., rfl⟩
  refine run_expandMembers_cons_eq_ok_iff.2 ⟨⟨[lineFrame], []⟩, .start 0 none .lenient g,
    ⟨[lastFrame], []⟩, Expanded.run (v := ⟨_, _, _, _⟩) (.leaf rfl rfl), ?_, rfl⟩
  exact run_expandMembers_cons_eq_ok_iff.2 ⟨⟨[lastFrame], []⟩, .start 0 none .lenient g, .empty,
    Expanded.run (v := ⟨_, _, _, _⟩) (.leaf rfl rfl), run_expandMembers_nil .., rfl⟩

theorem plain_outerNode : (enter outerNode [[("color", .str "blue")]]).Plain := by
  refine plain_iff.2 ⟨by decide +kernel, List.forall_mem_cons.2 ⟨?word, ?others⟩⟩
  case word => exact plain_iff.2 ⟨by decide +kernel, List.forall_mem_nil _⟩
  refine List.forall_mem_cons.2 ⟨?inner, List.forall_mem_nil _⟩
  refine plain_iff.2 ⟨by decide +kernel, List.forall_mem_cons.2 ⟨?line, ?last⟩⟩
  case line => exact plain_iff.2 ⟨by decide +kernel, List.forall_mem_nil _⟩
  refine List.forall_mem_cons.2 ⟨?_, List.forall_mem_nil _⟩
  exact plain_iff.2 ⟨by decide +kernel, List.forall_mem_nil _⟩

theorem expand_lexical_nested :
    ∃ pass after : Pass, ∃ context : Fields,
      pass.policy = .lenient ∧ (Json.obj outerNode).WellFormed ∧
      (enter outerNode [context]).Plain ∧
      ((⟨.builtins, [], none⟩ : Resolver).expand "outer" outerNode context).run pass =
        (.ok ⟨[wordFrame, lineFrame, lastFrame], []⟩, after) ∧
      [wordFrame, lineFrame, lastFrame] = (enter outerNode [context]).leaves.map frame ∧
      after = pass := by
  have hnode : (Json.obj outerNode).WellFormed := by decide +kernel
  have hrun := run_expand_outerNode ⟨.builtins, [], none⟩ (.ofSeed 1)
  obtain ⟨hframes, -, hafter, -⟩ := expand_lexical _ hnode plain_outerNode rfl hrun
  exact ⟨_, _, _, rfl, hnode, plain_outerNode, hrun, hframes, hafter⟩

end Resolver

end StudySession
