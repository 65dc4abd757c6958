import StudySession.Proofs.Study.Counterbalance
import StudySession.Proofs.Study.Positions

/-!
# Kept parameter sets

A `random-parameter-set` node that keeps its choices chooses, in every later session, the set that
was recorded for it, whatever the seed, the age and the weights: `Site.persists`. The record is
looked for session by session, the latest first, and in each session under the node's own condition
key before those of other places. So a session that recorded the node's frame key at other places
only comes in between: its record is taken, and the participant's set changes
(`Site.side_changes_after_oneSide`).
-/

namespace StudySession

open Resolve

/-- Sessions of one study, the latest first: each left the conditions that it resolved to, with the
older ones before it. -/
inductive Protocol.History (protocol : Protocol) : List PastSession → Prop where
  | nil : History protocol []
  | cons {sitting : Sitting} {s : PastSession} {r : Resolution} {g : Generator}
      (earlier : History protocol sitting.pastSessions)
      (resolved : (sitting.study protocol).resolve sitting.generator = (.ok r, g))
      (recorded : s.conditions = r.conditions) :
      History protocol (s :: sitting.pastSessions)

/-- The latest session of a history saw the older ones. -/
theorem Protocol.History.exists_sitting {protocol : Protocol} {s : PastSession}
    {older : List PastSession} (h : protocol.History (s :: older)) :
    protocol.History older ∧ ∃ sitting r g, sitting.pastSessions = older ∧
      (Sitting.study sitting protocol).resolve sitting.generator = (.ok r, g) ∧
      s.conditions = r.conditions := by
  cases h with
  | cons earlier resolved recorded => exact ⟨earlier, _, _, _, rfl, resolved, recorded⟩

namespace Site

/-- The node chooses a parameter set and keeps it, and no sampler of its entry has the key of
another. -/
structure Persisting (site : Site) : Prop where
  sampler : site.node.get? "sampler" = some (.str "random-parameter-set")
  keeps : site.node.get? "conditionForAdditionalSessions" = some (.str "persist")
  distinct : ∀ key node, site.protocol.sequence[site.index]? = some key →
    site.protocol.frames.get? key = some (.obj node) →
    ((Node.samplersOf key node).map (·.1)).Nodup

/-- A session recorded the node's frame key, but only at other places of the sequence. -/
def Elsewhere (site : Site) (s : PastSession) : Prop :=
  s.conditions.get? site.conditionKey = none ∧
    ∃ j, (s.conditions.get? (Study.conditionKey j site.key)).isSome = true

/-- The node offers a set under a number. -/
def HasSet (site : Site) (number : Nat) (parameters : Fields) : Prop :=
  ∀ request : Request, request.frameKey = site.key → request.node = site.node →
    ParameterSet.Offers request number parameters

/-- The node, in form, may have recorded this. -/
structure IsRecord (site : Site) (record : Json) : Prop where
  /-- The node's parameters are in form. -/
  scope : ∃ context, Node.scope site.key site.node [] = .ok context
  /-- The record is of a set that the node offers. -/
  offered : ∃ number parameters, record = ParameterSet.recordOf number parameters ∧
    site.HasSet number parameters

/-- What is found for the node in some earlier sessions. -/
def recalled? (site : Site) (sessions : List PastSession) : Option Json :=
  sessions.findSome? (·.conditionFor site.conditionKey site.key)

variable {site : Site} {sitting : Sitting} {v w : Visit} {record : Json}

/-! ## A visit of the node -/

theorem get?_randomParameterSet :
    Registry.builtins.get? "random-parameter-set" = some .randomParameterSet := rfl

theorem classify_persisting (hsite : site.Persisting) (hnode : v.node = site.node) :
    Node.classify v.key v.node = .ok (.sampler "random-parameter-set") := by
  rw [Node.classify, hnode, hsite.sampler]

theorem mem_samplersOf_self (hsite : site.Persisting) (hnode : v.node = site.node) :
    (v.key, v.node) ∈ Node.samplersOf v.key v.node := by
  rw [Node.samplersOf, classify_persisting hsite hnode]
  exact List.mem_cons_self

/-- A sampler that was come to under the node's key is the node. -/
theorem visitedBy_of_chooses (hsite : site.Persisting) {other : Sitting}
    (hv : site.VisitedBy sitting v)
    (hw : (other.study site.protocol).Visits other.generator site.index w)
    (hkey : w.key = site.key) {context : Fields} {choice : Choice} {after : Pass}
    (hchooses : (other.study site.protocol).resolver.Chooses w context choice after) :
    site.VisitedBy other w := by
  refine ⟨hw, hkey, ?_⟩
  obtain ⟨visits, hvkey, hvnode⟩ := hv
  obtain ⟨hentry, found, -, -⟩ := id visits
  have hmem := visits.mem_samplersOf rfl hentry found (mem_samplersOf_self hsite hvnode)
  have hmem' := hw.mem_samplersOf rfl hentry found (hchooses.mem_samplersOf rfl)
  have heq := List.inj_on_of_nodup_map (hsite.distinct _ _ hentry found) hmem hmem'
    (hvkey.trans hkey.symm)
  rw [← (Prod.mk.inj heq).2, hvnode]

/-- What the node chooses is a set that it offers. -/
theorem isRecord_of_chooses (hsite : site.Persisting) (hv : site.VisitedBy sitting v)
    {after : Pass} (h : site.Chooses sitting v record after) : site.IsRecord record := by
  obtain ⟨context, choice, hchooses, rfl⟩ := h
  obtain ⟨name, sampler, hkind, hfound, hrun⟩ := hchooses.made
  rw [classify_persisting hsite hv.2.2] at hkind
  obtain rfl := Node.Kind.sampler.inj (Except.ok.inj hkind)
  obtain rfl := Option.some.inj (get?_randomParameterSet.symm.trans hfound)
  obtain ⟨number, parameters, hchosen⟩ := ParameterSet.chosen_of_run hrun
  obtain ⟨members, -, rfl⟩ := hchosen.choice_eq
  refine ⟨exists_scope (hv.2.1 ▸ hv.2.2 ▸ hchooses.scope), number, parameters, rfl, ?_⟩
  intro request hkey hnode
  exact hchosen.offers.congr (hv.2.1.trans hkey.symm) (hv.2.2.trans hnode.symm)

/-- Where a record of the node is found in the earlier sessions, the node chooses what was recorded,
and draws nothing. -/
theorem chooses_of_recalled? (hsite : site.Persisting) (hv : site.VisitedBy sitting v)
    (hrecord : site.IsRecord record)
    (hrecalled : site.recalled? sitting.pastSessions = some record) :
    site.Chooses sitting v record v.pass := by
  obtain ⟨⟨inherited, hscope⟩, number, parameters, rfl, hset⟩ := hrecord
  obtain ⟨-, hkey, hnode⟩ := id hv
  obtain ⟨context, hscope⟩ : ∃ context, Node.scope v.key v.node v.context = .ok context := by
    rw [hkey, hnode]
    exact exists_scope hscope
  have hprevious : (requestAt sitting v context).previousCondition =
      some (ParameterSet.recordOf number parameters) := by
    have hframeKey : (requestAt sitting v context).frameKey = site.key := hkey
    rw [Request.previousCondition, (requestAt_keys hv context).1, hframeKey]
    exact hrecalled
  have hkeeps : (requestAt sitting v context).node.get? "conditionForAdditionalSessions" =
      some (.str "persist") := by
    have hnode' : (requestAt sitting v context).node = site.node := hnode
    rw [hnode', hsite.keeps]
  obtain ⟨members, -, hrun⟩ := ParameterSet.run_choose_of_persisted? (hset _ hkey hnode)
    (fun count hlt => ParameterSet.persisted?_of_previousCondition hkeeps hprevious hlt) v.pass
  exact ⟨context, _, ⟨hscope, _, _, classify_persisting hsite hnode, get?_randomParameterSet, hrun⟩,
    rfl⟩

/-! ## One session after another -/

/-- What a session recorded under the node's condition key, the node chose. -/
theorem exists_chooses_of_get? (hsite : site.Persisting) (hv : site.VisitedBy sitting v)
    {other : Sitting} {r : Resolution} {g : Generator}
    (hresolved : (other.study site.protocol).resolve other.generator = (.ok r, g))
    (hget : r.conditions.get? site.conditionKey = some record) :
    ∃ w after, site.VisitedBy other w ∧ site.Chooses other w record after := by
  obtain ⟨w, context, choice, after, hw, hkey, hchooses, hcondition⟩ :=
    Study.exists_visit_of_get? hresolved hget
  exact ⟨w, after, visitedBy_of_chooses hsite hv hw hkey hchooses, context, choice, hchooses,
    hcondition⟩

/-- A session that recorded nothing under the node's frame key has nothing to be found. -/
theorem conditionFor_eq_none {s : PastSession} {study : Study} {r : Resolution} {g g' : Generator}
    (hresolved : study.resolve g = (.ok r, g')) (hrecorded : s.conditions = r.conditions)
    (hown : s.conditions.get? site.conditionKey = none) (helse : ¬ site.Elsewhere s) :
    s.conditionFor site.conditionKey site.key = none := by
  obtain ⟨es, -, hconditions, hback⟩ := Study.conditions_read_back hresolved
  refine ((hback s hrecorded).none_iff site.index site.key).2 fun j => ?_
  rw [← hconditions.get?_eq, ← hrecorded]
  by_contra hsome
  exact helse ⟨hown, j, Option.isSome_iff_ne_none.2 hsome⟩

/-- The record of a session is what is found for the node after any number of later sessions, as
long as each of them recorded the node itself or nothing under its frame key; those that recorded
the node recorded the same. -/
theorem recalled?_of_history (hsite : site.Persisting) (hv : site.VisitedBy sitting v)
    {newer older : List PastSession} {s : PastSession}
    (hhistory : site.protocol.History (newer ++ s :: older))
    (hget : s.conditions.get? site.conditionKey = some record)
    (hnewer : ∀ t ∈ newer, ¬ site.Elsewhere t) :
    site.IsRecord record ∧ site.recalled? (newer ++ s :: older) = some record ∧
      ∀ t ∈ newer, ∀ later, t.conditions.get? site.conditionKey = some later → later = record := by
  induction newer with
  | nil =>
      have hfound : site.recalled? (s :: older) = some record := by
        rw [recalled?, List.findSome?_cons, PastSession.conditionFor_of_get? hget]
      obtain ⟨-, other, r, g, -, resolved, recorded⟩ := hhistory.exists_sitting
      rw [recorded] at hget
      obtain ⟨w, after, hw, hchooses⟩ := exists_chooses_of_get? hsite hv resolved hget
      exact ⟨isRecord_of_chooses hsite hw hchooses, hfound, by simp⟩
  | cons t newer ih =>
      obtain ⟨earlier, other, r, g, hpast, resolved, recorded⟩ := hhistory.exists_sitting
      obtain ⟨hrecord, hrecalled, hsame⟩ := ih earlier fun t ht =>
        hnewer t (List.mem_cons_of_mem _ ht)
      -- when this session came to the node, the record was found, and kept
      have hown : ∀ later, t.conditions.get? site.conditionKey = some later → later = record := by
        intro later hlater
        rw [recorded] at hlater
        obtain ⟨w, after, hw, context, choice, hchooses, rfl⟩ :=
          exists_chooses_of_get? hsite hv resolved hlater
        obtain ⟨context', choice', hchooses', rfl⟩ :=
          chooses_of_recalled? hsite hw hrecord (hpast ▸ hrecalled)
        rw [(hchooses.unique hchooses').1]
      refine ⟨hrecord, ?_, List.forall_mem_cons.2 ⟨hown, hsame⟩⟩
      rw [recalled?, List.cons_append, List.findSome?_cons]
      cases hlater : t.conditions.get? site.conditionKey with
      | some later => rw [PastSession.conditionFor_of_get? hlater, hown later hlater]
      | none =>
          rw [conditionFor_eq_none resolved recorded hlater (hnewer t List.mem_cons_self)]
          exact hrecalled

/-- A session that comes to the node and resolves records what the node chooses wherever it is come
to. -/
theorem get?_of_resolve (hsite : site.Persisting) (hv : site.VisitedBy sitting v)
    (hchooses : ∀ w, site.VisitedBy sitting w → site.Chooses sitting w record w.pass)
    {r : Resolution} {g : Generator}
    (hresolved : (sitting.study site.protocol).resolve sitting.generator = (.ok r, g)) :
    r.conditions.get? site.conditionKey = some record := by
  obtain ⟨context, choice, hchoice, -⟩ := hchooses v hv
  have hsome := Study.isSome_get?_of_visits hresolved hv.1 hchoice
  rw [hv.2.1] at hsome
  obtain ⟨later, hlater⟩ := Option.isSome_iff_exists.1 hsome
  obtain ⟨w, after, hw, context', choice', hchoice', rfl⟩ :=
    exists_chooses_of_get? hsite hv hresolved hlater
  obtain ⟨context'', choice'', hchoice'', rfl⟩ := hchooses w hw
  rw [← (hchoice'.unique hchoice'').1]
  exact hlater

/-- **A parameter set is kept.** Let a session have recorded something under the condition key of a
node that keeps its choices, and let no later session have recorded the node's frame key at other
places only. Then the record is of a set that the node offers, whatever the later sessions recorded
under that condition key is the same, and in the next session, whatever its seed, age and policy, the
node chooses this set wherever it is come to, draws nothing for it, and records it. -/
theorem persists (hsite : site.Persisting) {newer older : List PastSession} {s : PastSession}
    (hhistory : site.protocol.History (newer ++ s :: older))
    (hget : s.conditions.get? site.conditionKey = some record)
    (hnewer : ∀ t ∈ newer, ¬ site.Elsewhere t)
    (hpast : sitting.pastSessions = newer ++ s :: older) (hv : site.VisitedBy sitting v) :
    site.IsRecord record ∧
      (∀ t ∈ newer, ∀ later, t.conditions.get? site.conditionKey = some later → later = record) ∧
      (∀ w, site.VisitedBy sitting w → site.Chooses sitting w record w.pass) ∧
      ∀ r g, (sitting.study site.protocol).resolve sitting.generator = (.ok r, g) →
        r.conditions.get? site.conditionKey = some record := by
  obtain ⟨hrecord, hrecalled, hsame⟩ := recalled?_of_history hsite hv hhistory hget hnewer
  rw [← hpast] at hrecalled
  have hchooses : ∀ w, site.VisitedBy sitting w → site.Chooses sitting w record w.pass :=
    fun w hw => chooses_of_recalled? hsite hw hrecord hrecalled
  exact ⟨hrecord, hsame, hchooses, fun r g hresolved => get?_of_resolve hsite hv hchooses hresolved⟩

/-! ## A set that is kept, and one that is not -/

/-- A trial on a side that is drawn once. -/
def sideNode : Fields :=
  [("conditionForAdditionalSessions", .str "persist"),
    ("frameList", .arr [.obj [("kind", .str "trial")]]),
    ("parameterSets", .arr [.obj [("SIDE", .str "left")], .obj [("SIDE", .str "right")]]),
    ("sampler", .str "random-parameter-set")]

/-- The trial or a rest. -/
def roundNode : Fields :=
  [("frameOptions", .arr [.obj sideNode, .obj [("kind", .str "rest")]]),
    ("sampler", .str "random")]

/-- Two rounds. -/
def roundsProtocol : Protocol where
  frames := [("round", .obj roundNode)]
  sequence := ["round", "round"]

/-- The trial in one of the rounds. -/
def sideSite (index : Nat) : Site := ⟨roundsProtocol, index, "round-0", sideNode⟩

/-- The record of a side. -/
def sideRecord (number : Nat) (side : String) : Json :=
  ParameterSet.recordOf number [("SIDE", .str side)]

/-- The record of what a round shows. -/
def roundRecord (number : Nat) : Json := .obj [("conditionNum", .ofNat number)]

/-- A round with a trial. -/
def trialRound (number : Nat) (side : String) : Expansion where
  frames := [[("kind", .str "trial")]]
  conditions := [("round", roundRecord 0), ("round-0", sideRecord number side)]

/-- A round with a rest. -/
def restRound : Expansion where
  frames := [[("kind", .str "rest")]]
  conditions := [("round", roundRecord 1)]

/-- A session of two rounds. -/
def roundsSitting (seed : Nat) (pastSessions : List PastSession) : Sitting where
  pastSessions
  ageInDays := none
  policy := .lenient
  generator := .ofSeed seed

/-- What it resolves to. -/
def roundsResolution (first second : Expansion) : Resolution :=
  Study.addEntries 0 ["round", "round"] [first, second] ⟨[], []⟩

/-- The generator of a seed, some words on. -/
def wordsAfter (seed position : Nat) : Generator := { Generator.ofSeed seed with position }

/-- The pass of a round. -/
def roundPass (index : Nat) (g : Generator) : Pass := .start index (some "round") .lenient g

/-- The visit of a round. -/
def roundVisit (index : Nat) (g : Generator) : Visit := ⟨"round", roundNode, [], roundPass index g⟩

/-- The visit of its trial. -/
def sideVisit (index : Nat) (g : Generator) : Visit := ⟨"round-0", sideNode, [], roundPass index g⟩

/-- A first session: left in one round, right in the other. -/
def bothSides : PastSession where
  conditions :=
    [("0_round", roundRecord 0), ("0_round-0", sideRecord 0 "left"), ("1_round", roundRecord 0),
      ("1_round-0", sideRecord 1 "right")]
  expData := []

/-- A session that rested in the other round. -/
def oneSide : PastSession where
  conditions :=
    [("0_round", roundRecord 0), ("0_round-0", sideRecord 0 "left"), ("1_round", roundRecord 1)]
  expData := []

section Rounds

variable {pastSessions : List PastSession} {index number seed : Nat} {side : String}
  {g g₁ g₂ : Generator}

theorem chooses_round (h : g.below 2 .word64 = (number, g₁)) :
    Resolver.Chooses ⟨.builtins, pastSessions, none⟩ (roundVisit index g) []
      ⟨"frameOptions", [number], [], roundRecord number⟩ (roundPass index g₁) := by
  refine ⟨rfl, "random", .random, rfl, rfl, ?_⟩
  refine run_check_bind_eq_ok_iff.2 ⟨_, rfl, ?_⟩
  refine run_check_bind_eq_ok_iff.2 ⟨_, rfl, ?_⟩
  refine run_bind_eq_ok_iff.2 ⟨number, roundPass index g₁, ?_, rfl⟩
  show ((Except.ok (g.below 2 .word64).1, roundPass index (g.below 2 .word64).2) : _ × _) = _
  rw [h]

/-- In a first session a side is drawn. -/
theorem chooses_side_of_draw (h : g.below 2 .word64 = (number, g₁))
    (hside : [Json.obj [("SIDE", .str "left")], .obj [("SIDE", .str "right")]][number]? =
      some (.obj [("SIDE", .str side)])) :
    Resolver.Chooses ⟨.builtins, [], none⟩ (sideVisit index g) []
      (ParameterSet.choiceOf [.obj [("kind", .str "trial")]] number [("SIDE", .str side)])
      (roundPass index g₁) := by
  refine ⟨rfl, "random-parameter-set", .randomParameterSet, rfl, rfl, ?_⟩
  refine run_check_bind_eq_ok_iff.2 ⟨_, rfl, ?_⟩
  refine run_bind_eq_ok_iff.2 ⟨number, roundPass index g₁, ?_, ?_⟩
  · show ((Except.ok (g.below 2 .word64).1, roundPass index (g.below 2 .word64).2) : _ × _) = _
    rw [h]
  · dsimp only
    rw [hside]
    refine run_check_bind_eq_ok_iff.2 ⟨_, rfl, ?_⟩
    exact run_check_bind_eq_ok_iff.2 ⟨_, rfl, rfl⟩

/-- Where the left side is found, nothing is drawn. -/
theorem chooses_side_of_recalled?
    (h : (sideSite index).recalled? pastSessions = some (sideRecord 0 "left")) :
    Resolver.Chooses ⟨.builtins, pastSessions, none⟩ (sideVisit index g) []
      (ParameterSet.choiceOf [.obj [("kind", .str "trial")]] 0 [("SIDE", .str "left")])
      (roundPass index g) := by
  let request : Request := Resolver.request ⟨.builtins, pastSessions, none⟩ (roundPass index g)
    "round-0" sideNode []
  have hoffers : ParameterSet.Offers request 0 [("SIDE", .str "left")] :=
    ⟨⟨_, rfl, rfl⟩, ⟨_, rfl⟩, ⟨_, rfl⟩⟩
  have hprevious : request.previousCondition =
      some (ParameterSet.recordOf 0 [("SIDE", .str "left")]) := h
  obtain ⟨members, hmembers, hrun⟩ := ParameterSet.run_choose_of_persisted? hoffers
    (fun count hlt => ParameterSet.persisted?_of_previousCondition rfl hprevious hlt)
    (roundPass index g)
  obtain rfl := Except.ok.inj hmembers
  exact ⟨rfl, "random-parameter-set", .randomParameterSet, rfl, rfl, hrun⟩

theorem expandEntry_trial (hround : g.below 2 .word64 = (0, g₁))
    (hside : Resolver.Chooses ⟨.builtins, pastSessions, none⟩ (sideVisit index g₁) []
      (ParameterSet.choiceOf [.obj [("kind", .str "trial")]] number [("SIDE", .str side)])
      (roundPass index g₂)) :
    ((roundsSitting seed pastSessions).study roundsProtocol).expandEntry index "round" g =
      (.ok (trialRound number side), g₂) := by
  have hleaf : Resolver.Expanded ⟨.builtins, pastSessions, none⟩
      ⟨Node.memberKey "round-0" 0 [("kind", .str "trial")], [("kind", .str "trial")],
        Dict.mergeOver [] [("SIDE", .str side)], roundPass index g₂⟩
      ⟨[[("kind", .str "trial")]], []⟩ (roundPass index g₂) := .leaf rfl (by cbv)
  have htrial := Resolver.Expanded.run (.sampler hside
    (Resolver.run_expandMembers_cons_eq_ok_iff.2
      ⟨_, _, _, hleaf.run, Resolver.run_expandMembers_nil .., rfl⟩) rfl)
  have hexpanded : Resolver.Expanded ⟨.builtins, pastSessions, none⟩ (roundVisit index g)
      (trialRound number side) (roundPass index g₂) :=
    .sampler (chooses_round hround)
      (Resolver.run_expandMembers_cons_eq_ok_iff.2
        ⟨_, _, _, htrial, Resolver.run_expandMembers_nil .., rfl⟩) (by cbv)
  exact Study.expandEntry_eq_ok_iff.2 ⟨_, _, rfl, hexpanded.run, rfl⟩

theorem expandEntry_rest (hround : g.below 2 .word64 = (1, g₁)) :
    ((roundsSitting seed pastSessions).study roundsProtocol).expandEntry index "round" g =
      (.ok restRound, g₁) := by
  have hleaf : Resolver.Expanded ⟨.builtins, pastSessions, none⟩
      ⟨Node.memberKey "round" 1 [("kind", .str "rest")], [("kind", .str "rest")], [],
        roundPass index g₁⟩
      ⟨[[("kind", .str "rest")]], []⟩ (roundPass index g₁) := .leaf rfl (by cbv)
  have hexpanded : Resolver.Expanded ⟨.builtins, pastSessions, none⟩ (roundVisit index g)
      restRound (roundPass index g₁) :=
    .sampler (chooses_round hround)
      (Resolver.run_expandMembers_cons_eq_ok_iff.2
        ⟨_, _, _, hleaf.run, Resolver.run_expandMembers_nil .., rfl⟩) rfl
  exact Study.expandEntry_eq_ok_iff.2 ⟨_, _, rfl, hexpanded.run, rfl⟩

theorem resolve_rounds {first second : Expansion}
    (hfirst : ((roundsSitting seed pastSessions).study roundsProtocol).expandEntry 0 "round"
      (.ofSeed seed) = (.ok first, g₁))
    (hsecond : ((roundsSitting seed pastSessions).study roundsProtocol).expandEntry 1 "round" g₁ =
      (.ok second, g₂)) :
    ((roundsSitting seed pastSessions).study roundsProtocol).resolve (.ofSeed seed) =
      (.ok (roundsResolution first second), g₂) :=
  Study.resolve_eq_ok_iff.2 ⟨[first, second], .cons hfirst (.cons hsecond .nil), rfl⟩

/-- A round that shows its trial comes to it. -/
theorem visitedBy_side {before : List Expansion}
    (hindex : roundsProtocol.sequence[index]? = some "round")
    (hbefore : ((roundsSitting seed pastSessions).study roundsProtocol).Expands 0
      (roundsProtocol.sequence.take index) (.ofSeed seed) before g)
    (hround : g.below 2 .word64 = (0, g₁)) :
    (sideSite index).VisitedBy (roundsSitting seed pastSessions) (sideVisit index g₁) := by
  refine ⟨.below hindex rfl hbefore (.single ?_), rfl, rfl⟩
  exact .sampler (chooses_round hround) .here

end Rounds

theorem persisting_side (index : Nat) : (sideSite index).Persisting where
  sampler := rfl
  keeps := rfl
  distinct := by
    intro key node hkey found
    obtain rfl : key = "round" := by
      have hmem := List.mem_of_getElem? hkey
      simpa [sideSite, roundsProtocol] using hmem
    obtain rfl : roundNode = node := Json.obj.inj (Option.some.inj found)
    have hsamplers : Node.samplersOf "round" roundNode =
        [("round", roundNode), ("round-0", sideNode)] := by cbv
    rw [hsamplers]
    decide

/-- The draws of the sessions. -/
theorem below_wordsAfter :
    (wordsAfter 2 0).below 2 .word64 = (0, wordsAfter 2 4) ∧
      (wordsAfter 2 4).below 2 .word64 = (0, wordsAfter 2 10) ∧
      (wordsAfter 2 10).below 2 .word64 = (0, wordsAfter 2 18) ∧
      (wordsAfter 2 18).below 2 .word64 = (1, wordsAfter 2 22) ∧
      (wordsAfter 5 0).below 2 .word64 = (0, wordsAfter 5 4) ∧
      (wordsAfter 5 4).below 2 .word64 = (1, wordsAfter 5 8) := by
  decide +kernel

/-- The first session draws a side in each round. -/
theorem resolve_bothSides :
    ((roundsSitting 2 []).study roundsProtocol).resolve (.ofSeed 2) =
      (.ok (roundsResolution (trialRound 0 "left") (trialRound 1 "right")), wordsAfter 2 22) := by
  obtain ⟨hround, hside, hround', hside', -⟩ := below_wordsAfter
  exact resolve_rounds (expandEntry_trial hround (chooses_side_of_draw hside rfl))
    (expandEntry_trial hround' (chooses_side_of_draw hside' rfl))

/-- The second session keeps the side of the one round and rests in the other. -/
theorem resolve_oneSide :
    ((roundsSitting 5 [bothSides]).study roundsProtocol).resolve (.ofSeed 5) =
      (.ok (roundsResolution (trialRound 0 "left") restRound), wordsAfter 5 8) := by
  obtain ⟨-, -, -, -, hround, hrest⟩ := below_wordsAfter
  have hrecalled : (sideSite 0).recalled? [bothSides] = some (sideRecord 0 "left") := by cbv
  exact resolve_rounds (expandEntry_trial hround (chooses_side_of_recalled? hrecalled))
    (expandEntry_rest hrest)

/-- A third session finds the side of the one round for both. -/
theorem resolve_afterOneSide :
    ((roundsSitting 2 [oneSide, bothSides]).study roundsProtocol).resolve (.ofSeed 2) =
      (.ok (roundsResolution (trialRound 0 "left") (trialRound 0 "left")), wordsAfter 2 10) := by
  obtain ⟨hround, hround', -⟩ := below_wordsAfter
  have hrecalled : (sideSite 0).recalled? [oneSide, bothSides] = some (sideRecord 0 "left") := by
    cbv
  have hrecalled' : (sideSite 1).recalled? [oneSide, bothSides] = some (sideRecord 0 "left") := by
    cbv
  exact resolve_rounds (expandEntry_trial hround (chooses_side_of_recalled? hrecalled))
    (expandEntry_trial hround' (chooses_side_of_recalled? hrecalled'))

theorem history_oneSide : roundsProtocol.History [oneSide, bothSides] := by
  have hfirst : roundsProtocol.History [bothSides] :=
    @Protocol.History.cons _ (roundsSitting 2 []) _ _ _ .nil resolve_bothSides (by cbv)
  exact @Protocol.History.cons _ (roundsSitting 5 [bothSides]) _ _ _ hfirst resolve_oneSide (by cbv)

/-- In the round that every session showed, the left side is kept. -/
theorem persists_side :
    (sideSite 0).Persisting ∧ roundsProtocol.History [oneSide, bothSides] ∧
      bothSides.conditions.get? (sideSite 0).conditionKey = some (sideRecord 0 "left") ∧
      ¬ (sideSite 0).Elsewhere oneSide ∧
      (sideSite 0).VisitedBy (roundsSitting 2 [oneSide, bothSides])
        (sideVisit 0 (wordsAfter 2 4)) ∧
      (sideSite 0).Chooses (roundsSitting 2 [oneSide, bothSides]) (sideVisit 0 (wordsAfter 2 4))
        (sideRecord 0 "left") (sideVisit 0 (wordsAfter 2 4)).pass ∧
      (roundsResolution (trialRound 0 "left") (trialRound 0 "left")).conditions.get?
        (sideSite 0).conditionKey = some (sideRecord 0 "left") := by
  have hget : bothSides.conditions.get? (sideSite 0).conditionKey =
      some (sideRecord 0 "left") := by cbv
  have helse : ¬ (sideSite 0).Elsewhere oneSide := by
    rintro ⟨hnone, -⟩
    have hsome : oneSide.conditions.get? (sideSite 0).conditionKey =
        some (sideRecord 0 "left") := by cbv
    rw [hsome] at hnone
    cases hnone
  have hvisited : (sideSite 0).VisitedBy (roundsSitting 2 [oneSide, bothSides])
      (sideVisit 0 (wordsAfter 2 4)) := visitedBy_side rfl .nil below_wordsAfter.1
  have hnewer : ∀ t ∈ [oneSide], ¬ (sideSite 0).Elsewhere t := by simpa using helse
  have hhistory : (sideSite 0).protocol.History ([oneSide] ++ bothSides :: []) := history_oneSide
  obtain ⟨-, -, hchooses, hrecords⟩ :=
    persists (persisting_side 0) hhistory hget hnewer rfl hvisited
  exact ⟨persisting_side 0, history_oneSide, hget, helse, hvisited, hchooses _ hvisited,
    hrecords _ _ resolve_afterOneSide⟩

/-- In the other round the first session recorded the right side, and the second one, which rested
there, recorded the left side in the one round only: a third session shows the left side there. -/
theorem side_changes_after_oneSide :
    (sideSite 1).Persisting ∧ roundsProtocol.History [oneSide, bothSides] ∧
      bothSides.conditions.get? (sideSite 1).conditionKey = some (sideRecord 1 "right") ∧
      oneSide.conditions.get? (sideSite 1).conditionKey = none ∧
      (sideSite 1).VisitedBy (roundsSitting 2 [oneSide, bothSides])
        (sideVisit 1 (wordsAfter 2 10)) ∧
      ¬ (sideSite 1).Chooses (roundsSitting 2 [oneSide, bothSides]) (sideVisit 1 (wordsAfter 2 10))
        (sideRecord 1 "right") (sideVisit 1 (wordsAfter 2 10)).pass ∧
      ∃ r g, ((roundsSitting 2 [oneSide, bothSides]).study roundsProtocol).resolve (.ofSeed 2) =
          (.ok r, g) ∧
        r.conditions.get? (sideSite 1).conditionKey = some (sideRecord 0 "left") := by
  obtain ⟨hround, hround', -⟩ := below_wordsAfter
  have hrecalled : (sideSite 0).recalled? [oneSide, bothSides] = some (sideRecord 0 "left") := by
    cbv
  have hrecalled' : (sideSite 1).recalled? [oneSide, bothSides] = some (sideRecord 0 "left") := by
    cbv
  have hvisited : (sideSite 1).VisitedBy (roundsSitting 2 [oneSide, bothSides])
      (sideVisit 1 (wordsAfter 2 10)) :=
    visitedBy_side rfl
      (.cons (expandEntry_trial hround (chooses_side_of_recalled? hrecalled)) .nil) hround'
  refine ⟨persisting_side 1, history_oneSide, by cbv, by cbv, hvisited, ?_, _, _,
    resolve_afterOneSide, by cbv⟩
  rintro ⟨context, choice, hchooses, hrecord⟩
  obtain ⟨rfl, -⟩ := hchooses.unique (chooses_side_of_recalled? hrecalled')
  have hnumber := congrArg (fun record => (record.field? "conditionNum").bind Json.nat?) hrecord
  have hdiffers : some 0 = some 1 := hnumber
  cases hdiffers

end Site

end StudySession
