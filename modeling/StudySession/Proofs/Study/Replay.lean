import StudySession.Proofs.MapM
import StudySession.Proofs.Random.Draw
import StudySession.Proofs.Study.Moduli
import StudySession.Proofs.Study.Visits

/-!
# Replaying a recorded choice

`permute` and `random` draw places among a node's options, `select` takes the places that it is
given, and all three expand the options at their places in the same way. So a recorded choice says
all there is to know of the drawn one: a `select` node over the same options that names it comes to
the same frames and leaves the same pass, once the choice is drawn
(`Resolver.recorded_choice_replays`). `Node.selecting` is that node; it differs from the sampler
node only where neither the options nor their scope is looked up.
-/

namespace StudySession

open Resolve

/-! ## Nodes that name their options -/

namespace Node

variable {a b : Fields}

theorem classify_of_sampler {key name : String} (h : a.get? "sampler" = some (.str name)) :
    classify key a = .ok (.sampler name) := by
  rw [classify, h]

theorem membersOf_congr {property : String} (h : a.get? property = b.get? property) :
    membersOf a property = membersOf b property := by
  simp only [membersOf, h]

theorem commonOf_congr
    (h : a.get? "commonFrameProperties" = b.get? "commonFrameProperties") :
    commonOf a = commonOf b := by
  simp only [commonOf, h]

theorem scope_congr {key : String} {inherited : Fields}
    (h : a.get? "parameters" = b.get? "parameters") :
    scope key a inherited = scope key b inherited := by
  simp only [scope, h]

theorem listProperty_congr {key property : String} (h : a.get? property = b.get? property) :
    listProperty key a property = listProperty key b property := by
  simp only [listProperty, h]

theorem commonProperties_congr {key : String}
    (h : a.get? "commonFrameProperties" = b.get? "commonFrameProperties") :
    commonProperties key a = commonProperties key b := by
  simp only [commonProperties, h]

theorem get?_of_listProperty {key property : String} {items : List Json}
    (h : listProperty key a property = .ok (some items)) :
    a.get? property = some (.arr items) := by
  unfold listProperty at h
  split at h
  · cases h
  · next found => rw [found, Option.some.inj (Except.ok.inj h)]
  · cases h

/-- What a sampler over options chooses from. -/
def optionsOf (node : Fields) : List Json :=
  membersOf node (if node.has "frameOptions" then "frameOptions" else "frameList")

/-- The node as one that names the options to expand. -/
def selecting (node : Fields) (which : Json) : Fields :=
  (node.insert "sampler" (.str "select")).insert "whichFrames" which

variable {node : Fields} {which : Json}

/-- Nothing else about the node has changed. -/
theorem get?_selecting {property : String} (hsampler : property ≠ "sampler")
    (hwhich : property ≠ "whichFrames") :
    (selecting node which).get? property = node.get? property := by
  rw [selecting, Dict.get?_insert_of_ne hwhich, Dict.get?_insert_of_ne hsampler]

theorem classify_selecting (key : String) :
    classify key (selecting node which) = .ok (.sampler "select") := by
  refine classify_of_sampler ?_
  rw [selecting, Dict.get?_insert_of_ne (by decide), Dict.get?_insert_self]

end Node

namespace Request

variable {a b : Request}

theorem optionProperty_congr
    (hoptions : a.node.get? "frameOptions" = b.node.get? "frameOptions") :
    a.optionProperty = b.optionProperty := by
  rw [optionProperty, optionProperty, Dict.has, Dict.has, hoptions]

theorem options_congr (hkey : a.frameKey = b.frameKey)
    (hoptions : a.node.get? "frameOptions" = b.node.get? "frameOptions")
    (hlist : a.node.get? "frameList" = b.node.get? "frameList") : a.options = b.options := by
  have hitems : Node.listProperty a.frameKey a.node a.optionProperty =
      Node.listProperty b.frameKey b.node b.optionProperty := by
    rw [optionProperty_congr hoptions, hkey]
    unfold optionProperty
    split
    · exact Node.listProperty_congr hoptions
    · exact Node.listProperty_congr hlist
  rw [options, options, hitems, lacking, lacking, hkey]

/-- The options that a sampler is given are those of its node, at least one. -/
theorem optionsOf_of_options {options : List Json} (h : a.options = .ok options) :
    Node.optionsOf a.node = options ∧ options ≠ [] := by
  show Node.membersOf a.node a.optionProperty = options ∧ options ≠ []
  unfold Request.options at h
  cases hitems : Node.listProperty a.frameKey a.node a.optionProperty with
  | error e =>
      rw [hitems] at h
      cases h
  | ok items =>
      rw [hitems] at h
      match items, h with
      | some (first :: rest), h =>
          obtain rfl := Except.ok.inj h
          have hfound := Node.get?_of_listProperty hitems
          exact ⟨by rw [Node.membersOf, hfound], List.cons_ne_nil _ _⟩

/-- The members that a sampler is given are those of its node. -/
theorem get?_of_frameList {members : List Json} (h : a.frameList = .ok members) :
    a.node.get? "frameList" = some (.arr members) := by
  unfold Request.frameList at h
  cases hitems : Node.listProperty a.frameKey a.node "frameList" with
  | error e =>
      rw [hitems] at h
      cases h
  | ok items =>
      rw [hitems] at h
      match items, h with
      | some (first :: rest), h =>
          obtain rfl := Except.ok.inj h
          exact Node.get?_of_listProperty hitems

end Request

/-! ## Numbers as places -/

namespace Resolve

variable {context : Fields} {pass : Pass}

/-- A number is not searched for placeholders. -/
theorem run_substitute_ofNat (n : Nat) :
    (substitute context (.ofNat n)).run pass = (.ok (.ofNat n), pass) := by
  simp [Json.ofNat, substitute]

theorem run_substitute_ofNats (ns : List Nat) :
    (substitute context (.arr (ns.map .ofNat))).run pass =
      (.ok (.arr (ns.map .ofNat)), pass) := by
  have hitems : (substituteItems context (ns.map .ofNat)).run pass =
      (.ok (ns.map .ofNat), pass) := by
    induction ns with
    | nil => rfl
    | cons n ns ih =>
        rw [List.map_cons, substituteItems]
        refine run_bind_eq_ok_iff.2 ⟨_, _, run_substitute_ofNat n, ?_⟩
        exact run_bind_eq_ok_iff.2 ⟨_, _, ih, rfl⟩
  rw [substitute]
  exact run_bind_eq_ok_iff.2 ⟨_, _, hitems, rfl⟩

end Resolve

namespace Sampler

variable {request : Request} {pass after : Pass} {choice : Choice} {count : Nat}

theorem placeAmong_ofNat {n : Nat} (h : n < count) :
    placeAmong request count (.ofNat n) = .ok n := by
  simp [placeAmong, h]

theorem placesAmong_ofNat {n : Nat} (h : n < count) :
    placesAmong request count (.ofNat n) = .ok [n] := by
  have hplace : placeAmong request count (.ofNat n) = .ok n := placeAmong_ofNat h
  rw [placesAmong, hplace]
  · rfl
  · simp [Json.ofNat]

theorem placesAmong_ofNats {ns : List Nat} (h : ∀ n ∈ ns, n < count) :
    placesAmong request count (.arr (ns.map .ofNat)) = .ok ns := by
  rw [placesAmong, mapM_eq_ok_iff, List.forall₂_map_left_iff, List.forall₂_same]
  exact fun n hn => placeAmong_ofNat (h n hn)

/-! ## What the samplers choose -/

/-- The choice of some options at their places. -/
def placed (request : Request) (picks : List Nat) (property : String) (which : Json) : Choice where
  property := request.optionProperty
  picks
  parameters := []
  condition := .obj [(property, which)]

theorem placed_of_run_permute (h : (permute.choose request).run pass = (.ok choice, after)) :
    (∃ options, request.options = .ok options) ∧ (∃ common, request.common = .ok common) ∧
      let (order, generator) :=
        pass.generator.shuffle (List.range (Node.optionsOf request.node).length)
      choice = placed request order "order" (.arr (order.map .ofNat)) ∧
        after = { pass with generator } := by
  obtain ⟨options, hoptions, h⟩ := run_check_bind_eq_ok_iff.1 h
  obtain ⟨common, hcommon, h⟩ := run_check_bind_eq_ok_iff.1 h
  obtain ⟨order, between, hdraw, h⟩ := run_bind_eq_ok_iff.1 h
  rw [run_draw] at hdraw
  obtain ⟨horder, rfl⟩ := Prod.mk.inj hdraw
  obtain ⟨hchoice, rfl⟩ := Prod.mk.inj h
  refine ⟨⟨options, hoptions⟩, ⟨common, hcommon⟩, ?_⟩
  rw [(Request.optionsOf_of_options hoptions).1]
  exact ⟨(Except.ok.inj horder ▸ Except.ok.inj hchoice).symm, rfl⟩

theorem placed_of_run_random (h : (random.choose request).run pass = (.ok choice, after)) :
    (∃ options, request.options = .ok options) ∧ (∃ common, request.common = .ok common) ∧
      let (chosen, generator) :=
        pass.generator.below (Node.optionsOf request.node).length .word64
      choice = placed request [chosen] "conditionNum" (.ofNat chosen) ∧
        after = { pass with generator } := by
  obtain ⟨options, hoptions, h⟩ := run_check_bind_eq_ok_iff.1 h
  obtain ⟨common, hcommon, h⟩ := run_check_bind_eq_ok_iff.1 h
  obtain ⟨chosen, between, hdraw, h⟩ := run_bind_eq_ok_iff.1 h
  rw [run_draw] at hdraw
  obtain ⟨hchosen, rfl⟩ := Prod.mk.inj hdraw
  obtain ⟨hchoice, rfl⟩ := Prod.mk.inj h
  refine ⟨⟨options, hoptions⟩, ⟨common, hcommon⟩, ?_⟩
  rw [(Request.optionsOf_of_options hoptions).1]
  exact ⟨(Except.ok.inj hchosen ▸ Except.ok.inj hchoice).symm, rfl⟩

/-- Given places that hold no placeholder, `select` draws nothing. -/
theorem run_choose_select {options : List Json} {common : Option Fields} {which : Json}
    {picks : List Nat} (hoptions : request.options = .ok options)
    (hcommon : request.common = .ok common) (hwhich : request.node.get? "whichFrames" = some which)
    (hfixed : (substitute request.context which).run pass = (.ok which, pass))
    (hplaces : placesAmong request options.length which = .ok picks) :
    (select.choose request).run pass =
      (.ok (placed request picks "whichFrames" which), pass) := by
  refine run_check_bind_eq_ok_iff.2 ⟨options, hoptions, ?_⟩
  refine run_check_bind_eq_ok_iff.2 ⟨common, hcommon, ?_⟩
  rw [hwhich]
  refine run_bind_eq_ok_iff.2 ⟨which, pass, hfixed, ?_⟩
  exact run_check_bind_eq_ok_iff.2 ⟨picks, hplaces, rfl⟩

end Sampler

/-! ## Expanding a recorded choice again -/

namespace Resolver

variable {r : Resolver} {v : Visit} {e : Expansion} {after : Pass}

/-- A node expands to what its sampler chose. -/
theorem Chooses.run_expand {context : Fields} {choice : Choice} {drawn : Pass} {nested : Expansion}
    (h : r.Chooses v context choice drawn)
    (hmembers : (r.expandMembers v.key (choice.members v.node) (Node.commonOf v.node)
      (context.mergeOver choice.parameters)).run drawn = (.ok nested, after)) :
    (r.expand v.key v.node v.context).run v.pass =
      (.ok ⟨nested.frames, nested.conditions.insert v.key choice.condition⟩, after) :=
  Expanded.run (.sampler h hmembers rfl)

/-- How a node of a registered sampler came to its expansion. -/
theorem exists_choice_of_run {name : String} {sampler : Sampler}
    (hname : v.node.get? "sampler" = some (.str name))
    (hfound : r.registry.get? name = some sampler)
    (hrun : (r.expand v.key v.node v.context).run v.pass = (.ok e, after)) :
    ∃ context choice drawn nested, Node.scope v.key v.node v.context = .ok context ∧
      (sampler.choose (r.request v.pass v.key v.node context)).run v.pass = (.ok choice, drawn) ∧
      (r.expandMembers v.key (choice.members v.node) (Node.commonOf v.node)
        (context.mergeOver choice.parameters)).run drawn = (.ok nested, after) ∧
      e = ⟨nested.frames, nested.conditions.insert v.key choice.condition⟩ := by
  have hclassify : Node.classify v.key v.node = .ok (.sampler name) :=
    Node.classify_of_sampler hname
  cases expanded_of_run hrun with
  | leaf kind => cases kind.symm.trans hclassify
  | group kind => cases kind.symm.trans hclassify
  | @sampler context choice drawn nested made run record =>
      obtain ⟨name', sampler', kind, found, chosen⟩ := made.made
      obtain rfl := Node.Kind.sampler.inj (Except.ok.inj (kind.symm.trans hclassify))
      obtain rfl := Option.some.inj (found.symm.trans hfound)
      exact ⟨context, choice, drawn, nested, made.scope, chosen, run, record⟩

/-- A sampler node that recorded a choice under a property comes to the same as the node that names
this choice does from the pass in which the choice was drawn: to the same frames, to the same
records of samplers below, its own record apart, and to the same pass afterwards. -/
def Replays (r : Resolver) (v : Visit) (property : String) (which : Json) (drawn : Pass)
    (e : Expansion) (after : Pass) : Prop :=
  ∃ nested : Expansion,
    e = ⟨nested.frames, nested.conditions.insert v.key (.obj [(property, which)])⟩ ∧
    (r.expand v.key (Node.selecting v.node which) v.context).run drawn =
      (.ok ⟨nested.frames, nested.conditions.insert v.key (.obj [("whichFrames", which)])⟩, after)

/-- Where the recorded choice names the chosen places, it replays. -/
theorem replays_of_placed (hselect : r.registry.get? "select" = some .select) {context : Fields}
    {options : List Json} {common : Option Fields} {picks : List Nat} {property : String}
    {which : Json} {drawn : Pass} {nested : Expansion}
    (hscope : Node.scope v.key v.node v.context = .ok context)
    (hoptions : (r.request v.pass v.key v.node context).options = .ok options)
    (hcommon : (r.request v.pass v.key v.node context).common = .ok common)
    (hfixed : (substitute context which).run drawn = (.ok which, drawn))
    (hplaces : ∀ request : Request,
      Sampler.placesAmong request (Node.optionsOf v.node).length which = .ok picks)
    (hrun : (r.expandMembers v.key
      ((Sampler.placed (r.request v.pass v.key v.node context) picks property which).members v.node)
      (Node.commonOf v.node) (context.mergeOver [])).run drawn = (.ok nested, after)) :
    r.Replays v property which drawn
      ⟨nested.frames, nested.conditions.insert v.key (.obj [(property, which)])⟩ after := by
  refine ⟨nested, rfl, ?_⟩
  let node := Node.selecting v.node which
  let request := r.request drawn v.key node context
  -- the options and what they have in common are looked up as before
  have hlooked : ∀ property, property ≠ "sampler" → property ≠ "whichFrames" →
      node.get? property = v.node.get? property := fun _ => Node.get?_selecting
  have hoptions' : request.options = .ok options := by
    rw [← hoptions]
    exact Request.options_congr rfl (hlooked _ (by decide) (by decide))
      (hlooked _ (by decide) (by decide))
  have hcommon' : request.common = .ok common := by
    rw [← hcommon]
    exact Node.commonProperties_congr (hlooked _ (by decide) (by decide))
  have hproperty : request.optionProperty =
      (r.request v.pass v.key v.node context).optionProperty :=
    Request.optionProperty_congr (hlooked _ (by decide) (by decide))
  have hmembers : (Sampler.placed request picks "whichFrames" which).members node =
      (Sampler.placed (r.request v.pass v.key v.node context) picks property which).members
        v.node := by
    have hlist : Node.membersOf node request.optionProperty =
        Node.membersOf v.node request.optionProperty := by
      refine Node.membersOf_congr ?_
      unfold Request.optionProperty
      split
      · exact hlooked _ (by decide) (by decide)
      · exact hlooked _ (by decide) (by decide)
    rw [hproperty] at hlist
    simp only [Choice.members, Sampler.placed, hproperty, hlist]
  have hcommonOf : Node.commonOf node = Node.commonOf v.node :=
    Node.commonOf_congr (hlooked _ (by decide) (by decide))
  have hchosen : (Sampler.select.choose request).run drawn =
      (.ok (Sampler.placed request picks "whichFrames" which), drawn) := by
    refine Sampler.run_choose_select hoptions' hcommon' (Dict.get?_insert_self ..) hfixed ?_
    rw [← (Request.optionsOf_of_options hoptions).1]
    exact hplaces request
  have hscope' : Node.scope v.key node v.context = .ok context := by
    rw [← hscope]
    exact Node.scope_congr (hlooked _ (by decide) (by decide))
  have hchooses : r.Chooses ⟨v.key, node, v.context, drawn⟩ context
      (Sampler.placed request picks "whichFrames" which) drawn :=
    ⟨hscope', "select", .select, Node.classify_selecting v.key, hselect, hchosen⟩
  rw [← hmembers, ← hcommonOf] at hrun
  exact hchooses.run_expand hrun

/-- **A recorded choice replays.** Let a `permute` or a `random` node expand, whatever it inherits,
in whatever pass. The order that it drew and recorded is a permutation of the places of its options,
or the number is one of them. And from the pass in which it was drawn, the node that names the
recorded choice under `whichFrames` comes to the same frames, the same records below and the same
pass. -/
theorem recorded_choice_replays (hpermute : r.registry.get? "permute" = some .permute)
    (hrandom : r.registry.get? "random" = some .random)
    (hselect : r.registry.get? "select" = some .select)
    (hrun : (r.expand v.key v.node v.context).run v.pass = (.ok e, after)) :
    (v.node.get? "sampler" = some (.str "permute") →
      let places := List.range (Node.optionsOf v.node).length
      let (order, generator) := v.pass.generator.shuffle places
      order.Perm places ∧
        r.Replays v "order" (.arr (order.map .ofNat)) { v.pass with generator } e after) ∧
    (v.node.get? "sampler" = some (.str "random") →
      let count := (Node.optionsOf v.node).length
      let (chosen, generator) := v.pass.generator.below count .word64
      chosen < count ∧
        r.Replays v "conditionNum" (.ofNat chosen) { v.pass with generator } e after) := by
  constructor
  case left =>
    intro hname places
    have hperm := v.pass.generator.shuffle_perm places
    refine ⟨hperm, ?_⟩
    obtain ⟨context, choice, drawn, nested, hscope, hchosen, hmembers, rfl⟩ :=
      exists_choice_of_run hname hpermute hrun
    obtain ⟨⟨options, hoptions⟩, ⟨common, hcommon⟩, rfl, rfl⟩ :=
      Sampler.placed_of_run_permute hchosen
    refine replays_of_placed hselect hscope hoptions hcommon (run_substitute_ofNats _)
      (fun request => Sampler.placesAmong_ofNats fun n hn => ?_) hmembers
    exact List.mem_range.1 (hperm.mem_iff.1 hn)
  case right =>
    intro hname count
    obtain ⟨context, choice, drawn, nested, hscope, hchosen, hmembers, rfl⟩ :=
      exists_choice_of_run hname hrandom hrun
    obtain ⟨⟨options, hoptions⟩, ⟨common, hcommon⟩, rfl, rfl⟩ :=
      Sampler.placed_of_run_random hchosen
    obtain ⟨hcount, hne⟩ := Request.optionsOf_of_options hoptions
    have hlt : (v.pass.generator.below count .word64).1 < count := by
      refine Generator.below_fst_lt (List.length_pos_iff.2 ?_) _ _
      exact hcount ▸ hne
    refine ⟨hlt, ?_⟩
    exact replays_of_placed hselect hscope hoptions hcommon (run_substitute_ofNat _)
      (fun request => Sampler.placesAmong_ofNat hlt) hmembers

/-! Two options in a random order, the second of which is itself a random choice: from seed 6 the
order is reversed, and the later option of the choice is taken. -/

def tossNode : Fields :=
  [("frameOptions", .arr [.obj [("kind", .str "left")], .obj [("kind", .str "right")]]),
    ("sampler", .str "random")]

def mixNode : Fields :=
  [("frameOptions", .arr [.obj [("kind", .str "first")], .obj tossNode]),
    ("sampler", .str "permute")]

/-- The pass after some words of the seed. -/
def mixPass (position : Nat) : Pass :=
  .start 0 (some "mix") .lenient { Generator.ofSeed 6 with position }

def tossExpansion : Expansion :=
  ⟨[[("kind", .str "right")]], [("mix-1", .obj [("conditionNum", .ofNat 1)])]⟩

def mixExpansion : Expansion :=
  ⟨[[("kind", .str "right")], [("kind", .str "first")]],
    [("mix", .obj [("order", .arr [.ofNat 1, .ofNat 0])]),
      ("mix-1", .obj [("conditionNum", .ofNat 1)])]⟩

theorem shuffle_mixPass :
    (mixPass 0).generator.shuffle (List.range 2) = ([1, 0], (mixPass 1).generator) := by
  decide +kernel

theorem below_mixPass :
    (mixPass 1).generator.below 2 .word64 = (1, (mixPass 3).generator) := by
  decide +kernel

theorem run_expand_tossNode :
    ((⟨.builtins, [], none⟩ : Resolver).expand "mix-1" tossNode []).run (mixPass 1) =
      (.ok tossExpansion, mixPass 3) := by
  have hchooses : Resolver.Chooses ⟨.builtins, [], none⟩ ⟨"mix-1", tossNode, [], mixPass 1⟩ []
      ⟨"frameOptions", [1], [], .obj [("conditionNum", .ofNat 1)]⟩ (mixPass 3) := by
    refine ⟨rfl, "random", .random, rfl, rfl, ?_⟩
    refine run_check_bind_eq_ok_iff.2 ⟨_, rfl, ?_⟩
    refine run_check_bind_eq_ok_iff.2 ⟨_, rfl, ?_⟩
    refine run_bind_eq_ok_iff.2 ⟨1, mixPass 3, ?_, rfl⟩
    show ((Except.ok ((mixPass 1).generator.below 2 .word64).1,
      { mixPass 1 with generator := ((mixPass 1).generator.below 2 .word64).2 }) : _ × _) = _
    rw [below_mixPass]
    rfl
  have hnested : (Resolver.expandMembers ⟨.builtins, [], none⟩ "mix-1"
      [(.obj [("kind", .str "right")], 1)] none []).run (mixPass 3) =
      (.ok ⟨tossExpansion.frames, []⟩, mixPass 3) :=
    run_expandMembers_cons_eq_ok_iff.2 ⟨⟨[[("kind", .str "right")]], []⟩, mixPass 3, .empty,
      Expanded.run (v := ⟨_, _, _, _⟩) (.leaf rfl rfl), run_expandMembers_nil .., rfl⟩
  exact hchooses.run_expand hnested

theorem run_expand_mixNode :
    ((⟨.builtins, [], none⟩ : Resolver).expand "mix" mixNode []).run (mixPass 0) =
      (.ok mixExpansion, mixPass 3) := by
  have hchooses : Resolver.Chooses ⟨.builtins, [], none⟩ ⟨"mix", mixNode, [], mixPass 0⟩ []
      ⟨"frameOptions", [1, 0], [], .obj [("order", .arr [.ofNat 1, .ofNat 0])]⟩ (mixPass 1) := by
    refine ⟨rfl, "permute", .permute, rfl, rfl, ?_⟩
    refine run_check_bind_eq_ok_iff.2 ⟨_, rfl, ?_⟩
    refine run_check_bind_eq_ok_iff.2 ⟨_, rfl, ?_⟩
    refine run_bind_eq_ok_iff.2 ⟨[1, 0], mixPass 1, ?_, rfl⟩
    show ((Except.ok ((mixPass 0).generator.shuffle (List.range 2)).1,
      { mixPass 0 with generator := ((mixPass 0).generator.shuffle (List.range 2)).2 }) : _ × _) = _
    rw [shuffle_mixPass]
    rfl
  have hnested : (Resolver.expandMembers ⟨.builtins, [], none⟩ "mix"
      [(.obj tossNode, 1), (.obj [("kind", .str "first")], 0)] none []).run (mixPass 1) =
      (.ok ⟨mixExpansion.frames, tossExpansion.conditions⟩, mixPass 3) := by
    refine run_expandMembers_cons_eq_ok_iff.2 ⟨tossExpansion, mixPass 3,
      ⟨[[("kind", .str "first")]], []⟩, run_expand_tossNode, ?_, rfl⟩
    exact run_expandMembers_cons_eq_ok_iff.2 ⟨⟨[[("kind", .str "first")]], []⟩, mixPass 3, .empty,
      Expanded.run (v := ⟨_, _, _, _⟩) (.leaf rfl rfl), run_expandMembers_nil .., rfl⟩
  exact hchooses.run_expand hnested

theorem recorded_choice_replays_mix :
    ((⟨.builtins, [], none⟩ : Resolver).expand "mix" mixNode []).run (mixPass 0) =
        (.ok mixExpansion, mixPass 3) ∧
      (⟨.builtins, [], none⟩ : Resolver).Replays ⟨"mix", mixNode, [], mixPass 0⟩ "order"
        (.arr [.ofNat 1, .ofNat 0]) (mixPass 1) mixExpansion (mixPass 3) ∧
      (⟨.builtins, [], none⟩ : Resolver).Replays ⟨"mix-1", tossNode, [], mixPass 1⟩ "conditionNum"
        (.ofNat 1) (mixPass 3) tossExpansion (mixPass 3) := by
  have hmix := (recorded_choice_replays (v := ⟨"mix", mixNode, [], mixPass 0⟩) rfl rfl rfl
    run_expand_mixNode).1 rfl
  have htoss := (recorded_choice_replays (v := ⟨"mix-1", tossNode, [], mixPass 1⟩) rfl rfl rfl
    run_expand_tossNode).2 rfl
  have hoptions : Node.optionsOf mixNode = [.obj [("kind", .str "first")], .obj tossNode] := rfl
  have hsides : Node.optionsOf tossNode =
    [.obj [("kind", .str "left")], .obj [("kind", .str "right")]] := rfl
  simp only [hoptions, List.length_cons, List.length_nil, Nat.zero_add, Nat.reduceAdd,
    shuffle_mixPass] at hmix
  simp only [hsides, List.length_cons, List.length_nil, Nat.zero_add, Nat.reduceAdd,
    below_mixPass] at htoss
  exact ⟨run_expand_mixNode, hmix.2, htoss.2⟩

end Resolver

end StudySession
