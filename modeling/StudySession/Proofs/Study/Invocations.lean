import Mathlib.Data.List.Dedup
import StudySession.Proofs.Study.Visits

/-!
# Invocations of samplers

`Resolver.Invokes` keeps what the samplers record while something expands, one entry for each
invocation, in the order in which they record: a sampler chooses before its members expand, and
records after them. An expansion has one such log (`Resolver.Invokes.unique`), and its conditions
are what the log leaves, the latest of each key (`Resolver.exists_invokes`).
-/

namespace StudySession

/-- Something to expand. -/
inductive Unexpanded where
  | node (key : String) (node context : Fields)
  /-- Members of a node, each with its place. -/
  | members (parent : String) (members : List (Json × Nat)) (common : Option Fields)
      (context : Fields)

/-! ## Logs -/

/-- What was recorded last under a key. -/
def latest? (key : String) (log : List (String × Json)) : Option Json := Dict.get? log.reverse key

/-- The number of keys under which something was recorded. -/
def keyCount (log : List (String × Json)) : Nat := (log.map (·.1)).dedup.length

/-- A log leaves the latest condition under each of its keys. -/
structure Leaves (log : List (String × Json)) (conditions : Fields) : Prop where
  sorted : conditions.Sorted
  get?_eq : ∀ key, conditions.get? key = latest? key log

variable {log later : List (String × Json)} {key : String} {condition : Json}

theorem latest?_append (key : String) (log later : List (String × Json)) :
    latest? key (log ++ later) = (latest? key later).or (latest? key log) := by
  rw [latest?, List.reverse_append]
  exact List.lookup_append

theorem latest?_snoc (key k : String) (log : List (String × Json)) (condition : Json) :
    latest? key (log ++ [(k, condition)]) = if key = k then some condition else latest? key log := by
  rw [latest?, List.reverse_append]
  exact Dict.get?_cons k condition log.reverse key

theorem isSome_latest?_iff : (latest? key log).isSome = true ↔ key ∈ log.map (·.1) := by
  rw [latest?, ← Dict.mem_keys_iff, Dict.keys, List.map_reverse, List.mem_reverse]

theorem leaves_nil : Leaves [] [] := ⟨List.Pairwise.nil, fun _ => rfl⟩

/-- Later conditions win. -/
theorem Leaves.mergeOver {conditions others : Fields} (h : Leaves log conditions)
    (hlater : Leaves later others) : Leaves (log ++ later) (conditions.mergeOver others) := by
  refine ⟨h.sorted.mergeOver others, fun key => ?_⟩
  rw [Dict.get?_mergeOver hlater.sorted.nodup_keys, hlater.get?_eq, h.get?_eq, latest?_append]

theorem Leaves.insert {conditions : Fields} (h : Leaves log conditions) (k : String)
    (condition : Json) : Leaves (log ++ [(k, condition)]) (conditions.insert k condition) := by
  refine ⟨h.sorted.insert k condition, fun key => ?_⟩
  rw [Dict.get?_insert, latest?_snoc, h.get?_eq]

/-- A log leaves as many conditions as it has keys. -/
theorem Leaves.length_eq {conditions : Fields} (h : Leaves log conditions) :
    conditions.length = keyCount log := by
  have hkeys : conditions.keys.Perm (log.map (·.1)).dedup := by
    refine (List.perm_ext_iff_of_nodup h.sorted.nodup_keys (List.nodup_dedup _)).2 fun key => ?_
    rw [Dict.mem_keys_iff, h.get?_eq, isSome_latest?_iff, List.mem_dedup]
  rw [keyCount, ← hkeys.length_eq, Dict.keys, List.length_map]

namespace Resolver

/-! ## The log of an expansion -/

/-- Samplers record conditions, in order, while something expands from one pass to another. -/
inductive Invokes (r : Resolver) : Unexpanded → Pass → List (String × Json) → Pass → Prop where
  | leaf {key : String} {node context : Fields} {pass after : Pass} {e : Expansion}
      (kind : Node.classify key node = .ok .leaf)
      (run : (expandLeaf key node context).run pass = (.ok e, after)) :
      Invokes r (.node key node context) pass [] after
  | group {key : String} {node inherited context : Fields} {pass after : Pass}
      {log : List (String × Json)} (kind : Node.classify key node = .ok .group)
      (scope : Node.scope key node inherited = .ok context)
      (members : Invokes r
        (.members key (Node.membersOf node "frameList").zipIdx (Node.commonOf node) context)
        pass log after) :
      Invokes r (.node key node inherited) pass log after
  | sampler {key : String} {node inherited context : Fields} {choice : Choice}
      {pass between after : Pass} {log : List (String × Json)}
      (chosen : r.Chooses ⟨key, node, inherited, pass⟩ context choice between)
      (members : Invokes r
        (.members key (choice.members node) (Node.commonOf node)
          (context.mergeOver choice.parameters)) between log after) :
      Invokes r (.node key node inherited) pass (log ++ [(key, choice.condition)]) after
  | nil {parent : String} {common : Option Fields} {context : Fields} {pass : Pass} :
      Invokes r (.members parent [] common context) pass [] pass
  | cons {parent : String} {own : Fields} {index : Nat} {rest : List (Json × Nat)}
      {common : Option Fields} {context : Fields} {pass between after : Pass}
      {log later : List (String × Json)}
      (first : Invokes r
        (.node (Node.memberKey parent index (Node.underlay common own)) (Node.underlay common own)
          context) pass log between)
      (others : Invokes r (.members parent rest common context) between later after) :
      Invokes r (.members parent ((.obj own, index) :: rest) common context) pass (log ++ later)
        after

variable {r : Resolver}

/-- What expands invokes samplers in one way only. -/
theorem Invokes.unique {x : Unexpanded} {pass after after' : Pass}
    {log log' : List (String × Json)} (h : r.Invokes x pass log after)
    (h' : r.Invokes x pass log' after') : log = log' ∧ after = after' := by
  induction h generalizing log' after' with
  | leaf kind run =>
      cases h' with
      | leaf _ run' => exact ⟨rfl, (Prod.mk.inj (run.symm.trans run')).2⟩
      | group kind' => rw [kind] at kind'; cases kind'
      | sampler chosen =>
          obtain ⟨name, sampler, kind', -⟩ := chosen.made
          rw [kind] at kind'
          cases kind'
  | group kind scope members ih =>
      cases h' with
      | leaf kind' => rw [kind] at kind'; cases kind'
      | group _ scope' members' =>
          obtain rfl := Except.ok.inj (scope.symm.trans scope')
          exact ih members'
      | sampler chosen =>
          obtain ⟨name, sampler, kind', -⟩ := chosen.made
          rw [kind] at kind'
          cases kind'
  | sampler chosen members ih =>
      obtain ⟨name, sampler, kind, -⟩ := chosen.made
      cases h' with
      | leaf kind' => rw [kind] at kind'; cases kind'
      | group kind' => rw [kind] at kind'; cases kind'
      | sampler chosen' members' =>
          obtain ⟨rfl, rfl⟩ := chosen.unique chosen'
          obtain rfl := Except.ok.inj (chosen.scope.symm.trans chosen'.scope)
          obtain ⟨rfl, rfl⟩ := ih members'
          exact ⟨rfl, rfl⟩
  | nil =>
      cases h' with
      | nil => exact ⟨rfl, rfl⟩
  | cons first others ihFirst ihOthers =>
      cases h' with
      | cons first' others' =>
          obtain ⟨rfl, rfl⟩ := ihFirst first'
          obtain ⟨rfl, rfl⟩ := ihOthers others'
          exact ⟨rfl, rfl⟩

/-- What an expansion, or that of some members, recorded is what its samplers left. -/
theorem exists_invokes :
    (∀ key node context pass e after, (r.expand key node context).run pass = (.ok e, after) →
        ∃ log, r.Invokes (.node key node context) pass log after ∧ Leaves log e.conditions) ∧
      ∀ parent members common context pass e after,
        (r.expandMembers parent members common context).run pass = (.ok e, after) →
        ∃ log, r.Invokes (.members parent members common context) pass log after ∧
          Leaves log e.conditions := by
  apply expand.mutual_induct
  case case1 =>
    intro key node context ihGroup ihSampler pass e after h
    cases expanded_of_run (v := ⟨key, node, context, pass⟩) h with
    | leaf kind run =>
        rw [conditions_expandLeaf run]
        exact ⟨[], .leaf kind run, leaves_nil⟩
    | group kind scope list properties run =>
        obtain ⟨log, hinvokes, hleaves⟩ := ihGroup _ _ _ _ run
        exact ⟨log, .group kind scope hinvokes, hleaves⟩
    | sampler made run record =>
        obtain ⟨log, hinvokes, hleaves⟩ := ihSampler _ _ _ _ _ run
        rw [record]
        exact ⟨_, .sampler made hinvokes, hleaves.insert _ _⟩
  case case2 =>
    intro parent common context pass e after h
    rw [run_expandMembers_nil] at h
    obtain ⟨he, rfl⟩ := Prod.mk.inj h
    obtain rfl := Except.ok.inj he
    exact ⟨[], .nil, leaves_nil⟩
  case case3 =>
    intro parent common context own index rest member ihFirst ihRest pass e after h
    obtain ⟨first, between, others, hfirst, hothers, rfl⟩ := run_expandMembers_cons_eq_ok_iff.1 h
    obtain ⟨log, hinvokes, hleaves⟩ := ihFirst _ _ _ hfirst
    obtain ⟨later, hinvokes', hleaves'⟩ := ihRest _ _ _ hothers
    exact ⟨log ++ later, .cons hinvokes hinvokes', hleaves.mergeOver hleaves'⟩
  case case4 =>
    intro parent common context member index rest hmember pass e after h
    rw [expandMembers] at h
    · simp at h
    · exact hmember

end Resolver

/-! ## The logs of a study -/

namespace Study

/-- The logs of the entries from a place of the sequence on, the generator going on from entry to
entry. -/
inductive Invokes (study : Study) :
    Nat → List String → Generator → List (List (String × Json)) → Generator → Prop where
  | nil {index : Nat} {g : Generator} : Invokes study index [] g [] g
  | cons {index : Nat} {key : String} {keys : List String} {node : Fields}
      {log : List (String × Json)} {logs : List (List (String × Json))} {g g' : Generator}
      {after : Pass} (found : study.protocol.frames.get? key = some (.obj node))
      (first : study.resolver.Invokes (.node key node [])
        (.start index (some key) study.policy g) log after)
      (rest : Invokes study (index + 1) keys after.generator logs g') :
      Invokes study index (key :: keys) g (log :: logs) g'

variable {study : Study} {index : Nat} {keys : List String} {g g' : Generator}

theorem Invokes.unique {logs logs' : List (List (String × Json))} {g'' : Generator}
    (h : study.Invokes index keys g logs g') (h' : study.Invokes index keys g logs' g'') :
    logs = logs' := by
  induction h generalizing logs' g'' with
  | nil =>
      cases h' with
      | nil => rfl
  | cons found first rest ih =>
      cases h' with
      | cons found' first' rest' =>
          obtain rfl := Json.obj.inj (Option.some.inj (found.symm.trans found'))
          obtain ⟨rfl, rfl⟩ := first.unique first'
          rw [ih rest']

/-- Each entry's conditions are what its samplers left. -/
theorem Expands.exists_invokes {es : List Expansion} (h : study.Expands index keys g es g') :
    ∃ logs, study.Invokes index keys g logs g' ∧
      List.Forall₂ (fun log e => Leaves log e.conditions) logs es := by
  induction h with
  | nil => exact ⟨[], .nil, .nil⟩
  | cons first rest ih =>
      obtain ⟨logs, hinvokes, hleaves⟩ := ih
      obtain ⟨node, after, found, hrun, rfl⟩ := expandEntry_eq_ok_iff.1 first
      obtain ⟨log, hfirst, hleave⟩ := Resolver.exists_invokes.1 _ _ _ _ _ _ hrun
      exact ⟨log :: logs, .cons found hfirst hinvokes, .cons hleave hleaves⟩

end Study

end StudySession
