import StudySession.Proofs.Study.History
import StudySession.Proofs.Study.Moduli
import StudySession.Proofs.Study.Visits

/-!
# Counterbalancing goes round

The conditions of an `increment-conditions` node stay in the ranges of its table, and from a session
to one that follows it each of their numbers goes up by one, round its range. Four readings have to
agree for this: of frame ids as completions, of the sequence key as the marker of nested nodes, of
condition keys, and of the previous condition by the table. Where they do, the sampler draws
nothing, so neither the seed nor the policy has a say.

`Site.counterbalances` is the result, for one session after another and for a chain of them.
-/

namespace StudySession

open Resolve

/-! ## What the sampler chooses -/

/-- The members of a node, and what they have in common, are the node's alone. -/
theorem Request.frameList_congr {a b : Request} (hkey : a.frameKey = b.frameKey)
    (hnode : a.node = b.node) : a.frameList = b.frameList := by
  simp only [Request.frameList, Request.lacking, hkey, hnode]

theorem Request.common_congr {a b : Request} (hkey : a.frameKey = b.frameKey)
    (hnode : a.node = b.node) : a.common = b.common := by
  simp only [Request.common, hkey, hnode]

namespace Counterbalance

/-- The choice of a node under a condition: every member of its list. -/
def choiceOf (members : List Json) (condition : Fields) : Choice where
  property := "frameList"
  picks := List.range members.length
  parameters := condition
  condition := .obj condition

/-- How the sampler came to a choice. -/
structure Chosen (request : Request) (pass : Pass) (choice : Choice) (after : Pass)
    (moduli : Dict Modulus) (condition : Fields) : Prop where
  table : Counterbalance.moduli request = .ok moduli
  members : ∃ members, request.frameList = .ok members ∧ choice = choiceOf members condition
  common : ∃ common, request.common = .ok common
  /-- The condition after the recorded one, for which nothing is drawn, or else a drawn one. -/
  origin :
    ((history request).bind (next? · moduli) = some condition ∧ after = pass) ∨
    ((history request).bind (next? · moduli) = none ∧
      (sample pass.generator moduli).1 = condition)

theorem chosen_of_run {request : Request} {pass after : Pass} {choice : Choice}
    (h : (Sampler.incrementConditions.choose request).run pass = (.ok choice, after)) :
    ∃ moduli condition, Chosen request pass choice after moduli condition := by
  obtain ⟨moduli, hmoduli, h⟩ := run_check_bind_eq_ok_iff.1 h
  have rest : ∀ (condition : Fields) (between : Pass),
      Resolve.run (do
        let members ← check request.frameList
        let _ ← check request.common
        pure (choiceOf members condition)) between = (.ok choice, after) →
      (∃ members, request.frameList = .ok members ∧ choice = choiceOf members condition) ∧
        (∃ common, request.common = .ok common) ∧ after = between := by
    intro condition between h
    obtain ⟨members, hmembers, h⟩ := run_check_bind_eq_ok_iff.1 h
    obtain ⟨common, hcommon, h⟩ := run_check_bind_eq_ok_iff.1 h
    obtain ⟨hchoice, rfl⟩ := Prod.mk.inj h
    exact ⟨⟨members, hmembers, (Except.ok.inj hchoice).symm⟩, ⟨common, hcommon⟩, rfl⟩
  dsimp only at h
  split at h
  · next condition hnext =>
      obtain ⟨hmembers, hcommon, rfl⟩ := rest condition pass h
      exact ⟨moduli, condition, hmoduli, hmembers, hcommon, .inl ⟨hnext, rfl⟩⟩
  · next hnext =>
      obtain ⟨hmembers, hcommon, -⟩ := rest _ _ h
      exact ⟨moduli, _, hmoduli, hmembers, hcommon, .inr ⟨hnext, rfl⟩⟩

/-- However it was come by, the condition has the fields of the table, in range. -/
theorem Chosen.fits {request : Request} {pass after : Pass} {choice : Choice}
    {moduli : Dict Modulus} {condition : Fields}
    (h : Chosen request pass choice after moduli condition) (hvalid : ValidTable moduli) :
    Fits moduli (.obj condition) := by
  rcases h.origin with ⟨hnext, -⟩ | ⟨-, rfl⟩
  · obtain ⟨previous, -, hnext⟩ := Option.bind_eq_some_iff.1 hnext
    exact fits_of_next? hvalid hnext
  · exact fits_sample hvalid _

/-- With a condition to go on from, the sampler draws nothing. -/
theorem run_choose_of_next? {request : Request} {moduli : Dict Modulus} {condition : Fields}
    {members : List Json} {common : Option Fields}
    (hmoduli : Counterbalance.moduli request = .ok moduli)
    (hnext : (history request).bind (next? · moduli) = some condition)
    (hmembers : request.frameList = .ok members) (hcommon : request.common = .ok common)
    (pass : Pass) :
    (Sampler.incrementConditions.choose request).run pass =
      (.ok (choiceOf members condition), pass) := by
  show Resolve.run (check (Counterbalance.moduli request) >>= _) pass = _
  rw [run_bind, run_check, hmoduli]
  dsimp only
  rw [hnext]
  show Resolve.run (check request.frameList >>= _) pass = _
  rw [run_bind, run_check, hmembers]
  dsimp only
  rw [run_bind, run_check, hcommon]
  rfl

end Counterbalance

/-- A session of a study: what decides how it resolves. -/
structure Sitting where
  /-- The earlier sessions, the latest first. -/
  pastSessions : List PastSession
  /-- The participant's age in days, if known. -/
  ageInDays : Option Nat
  /-- What to do with placeholders that name no parameter. -/
  policy : PlaceholderPolicy
  /-- The random generator at the start. -/
  generator : Generator

/-- The study of a session. -/
def Sitting.study (sitting : Sitting) (protocol : Protocol) : Study where
  protocol := protocol
  resolver := ⟨.builtins, sitting.pastSessions, sitting.ageInDays⟩
  policy := sitting.policy

/-- A node below an entry of a study's sequence, at any depth. -/
structure Site where
  /-- The study. -/
  protocol : Protocol
  /-- The place of the entry in the sequence. -/
  index : Nat
  /-- The node's key. -/
  key : String
  /-- The node. -/
  node : Fields

namespace Site

/-- The node counterbalances, and completions of its entry are what counts. -/
structure Counterbalanced (site : Site) : Prop where
  wellFormed : site.protocol.WellFormed
  sampler : site.node.get? "sampler" = some (.str "increment-conditions")
  unmarked : ∀ marker, site.node.get? "completionMarker" ≠ some (.str marker)

/-- The key under which the node's condition is recorded. -/
def conditionKey (site : Site) : String := toString site.index ++ "_" ++ site.key

/-- The node's table. -/
def HasTable (site : Site) (moduli : Dict Modulus) : Prop :=
  ∀ request : Request, request.frameKey = site.key → request.node = site.node →
    Counterbalance.moduli request = .ok moduli

theorem HasTable.unique {site : Site} {moduli moduli' : Dict Modulus} (h : site.HasTable moduli)
    (h' : site.HasTable moduli') : moduli = moduli' := by
  have hm := h ⟨site.key, "", "", site.node, [], [], none⟩ rfl rfl
  have hm' := h' ⟨site.key, "", "", site.node, [], [], none⟩ rfl rfl
  exact Except.ok.inj (hm.symm.trans hm')

/-- A session comes to the node, whether or not it goes on to resolve. -/
def VisitedBy (site : Site) (sitting : Sitting) (v : Visit) : Prop :=
  (sitting.study site.protocol).Visits sitting.generator site.index v ∧
    v.key = site.key ∧ v.node = site.node

/-- There the node's sampler chooses a condition and leaves a pass. -/
def Chooses (site : Site) (sitting : Sitting) (v : Visit) (condition : Json) (after : Pass) :
    Prop :=
  ∃ context choice, (sitting.study site.protocol).resolver.Chooses v context choice after ∧
    choice.condition = condition

/-- A session resolves, and the condition under the node's key is one that the node chose. -/
structure Records (site : Site) (sitting : Sitting) (r : Resolution) (condition : Json) : Prop where
  resolved : ∃ g, (sitting.study site.protocol).resolve sitting.generator = (.ok r, g)
  recorded : r.conditions.get? site.conditionKey = some condition
  chosen : ∃ v after, site.VisitedBy sitting v ∧ site.Chooses sitting v condition after

/-- The latest of a session's earlier sessions has the conditions of a resolution and data of a
frame that the resolution placed in the node's entry. -/
structure Follows (site : Site) (next : Sitting) (r : Resolution) : Prop where
  latest : ∃ last older, next.pastSessions = last :: older ∧ last.conditions = r.conditions ∧
    ∃ frame ∈ r.frames, (Study.placeOf site.protocol.sequence frame.id).1 = site.index ∧
      last.expData.has frame.id

variable {site : Site} {sitting next : Sitting} {v : Visit}

/-! ## A visit of the node -/

theorem get?_incrementConditions :
    Registry.builtins.get? "increment-conditions" = some .incrementConditions := rfl

/-- What the sampler may look at when a session comes to the node. -/
def requestAt (sitting : Sitting) (v : Visit) (context : Fields) : Request :=
  Resolver.request ⟨.builtins, sitting.pastSessions, sitting.ageInDays⟩ v.pass v.key v.node context

theorem classify_node (hsite : site.Counterbalanced) (hv : site.VisitedBy sitting v) :
    Node.classify v.key v.node = .ok (.sampler "increment-conditions") := by
  rw [Node.classify, hv.2.2, hsite.sampler]

/-- The request names the entry and the node that the session came to. -/
theorem requestAt_keys (hv : site.VisitedBy sitting v) (context : Fields) :
    (requestAt sitting v context).conditionKey = site.conditionKey ∧
      site.protocol.sequence[site.index]? = some (requestAt sitting v context).sequenceKey := by
  obtain ⟨visits, hkey, -⟩ := hv
  obtain ⟨key, hsequence, hentry⟩ := visits.entry_pass Registry.isComposed_builtins
  obtain ⟨hindex, hsequenceKey⟩ := Prod.mk.inj hentry
  refine ⟨?_, ?_⟩
  · simp only [requestAt, Resolver.request, conditionKey, hindex, hkey]
  · simp only [requestAt, Resolver.request, hsequenceKey, Option.getD_some]
    exact hsequence

theorem chosen_of_chooses (hsite : site.Counterbalanced) (hv : site.VisitedBy sitting v)
    {context : Fields} {choice : Choice} {after : Pass}
    (h : (sitting.study site.protocol).resolver.Chooses v context choice after) :
    ∃ moduli condition,
      Counterbalance.Chosen (requestAt sitting v context) v.pass choice after moduli condition := by
  obtain ⟨name, sampler, hkind, hfound, hrun⟩ := h.made
  rw [classify_node hsite hv] at hkind
  obtain rfl := Node.Kind.sampler.inj (Except.ok.inj hkind)
  obtain rfl := Option.some.inj (get?_incrementConditions.symm.trans hfound)
  exact Counterbalance.chosen_of_run hrun

/-- What the node chooses has the fields of its table, in range. -/
theorem fits_of_chooses (hsite : site.Counterbalanced) (hv : site.VisitedBy sitting v)
    {condition : Json} {after : Pass} (h : site.Chooses sitting v condition after) :
    ∃ moduli, site.HasTable moduli ∧ Counterbalance.ValidTable moduli ∧
      Counterbalance.Fits moduli condition := by
  obtain ⟨context, choice, hchooses, rfl⟩ := h
  obtain ⟨moduli, fields, hchosen⟩ := chosen_of_chooses hsite hv hchooses
  have hvalid : Counterbalance.ValidTable moduli :=
    Counterbalance.validTable_of_moduli (hv.1.wellFormed_node hsite.wellFormed) hchosen.table
  refine ⟨moduli, fun request hkey hnode => ?_, hvalid, ?_⟩
  · rw [← hchosen.table]
    exact Counterbalance.moduli_congr (hkey.trans hv.2.1.symm) (hnode.trans hv.2.2.symm)
  · obtain ⟨members, -, rfl⟩ := hchosen.members
    exact hchosen.fits hvalid

/-! ## One session after another -/

/-- A following session finds the recorded condition. -/
theorem history_of_follows (hsite : site.Counterbalanced) {r : Resolution} {condition : Json}
    (hrecords : site.Records sitting r condition) (hfollows : site.Follows next r)
    (hv : site.VisitedBy next v) (context : Fields) :
    Counterbalance.history (requestAt next v context) = some condition := by
  obtain ⟨last, older, hpast, hconditions, frame, hframe, hplace, hdata⟩ := hfollows.latest
  obtain ⟨hconditionKey, hsequenceKey⟩ := requestAt_keys hv context
  -- without a marker of its own, the node looks for its entry's sequence key
  have hmarker : Counterbalance.marker (requestAt next v context) =
      (requestAt next v context).sequenceKey := by
    have hnode : (requestAt next v context).node = site.node := hv.2.2
    unfold Counterbalance.marker
    rw [hnode]
    split
    · next marker hmarked => exact absurd hmarked (hsite.unmarked marker)
    · rfl
  -- and the id of any frame shown for that entry carries this key
  have hcompleted : last.hasCompleted (requestAt next v context).sequenceKey = true := by
    obtain ⟨g, hresolved⟩ := hrecords.resolved
    obtain ⟨count, number, hid⟩ :=
      Study.exists_frameId_of_placeOf hresolved hframe (hplace ▸ hsequenceKey)
    rw [hid] at hdata
    exact PastSession.hasCompleted_of_frameId hdata
  have hlatest : (requestAt next v context).pastSessions = last :: older := hpast
  have hfind : (last :: older).find? (·.hasCompleted (requestAt next v context).sequenceKey) =
      some last := List.find?_cons_of_pos hcompleted
  rw [Counterbalance.history, hmarker, hlatest, hfind, Option.bind_some, hconditionKey]
  refine PastSession.conditionFor_of_get? ?_
  rw [hconditions, hrecords.recorded]

/-- Whether a node's parameters are in form does not depend on those it inherits. -/
theorem exists_scope {key : String} {node inherited other context : Fields}
    (h : Node.scope key node inherited = .ok context) :
    ∃ context', Node.scope key node other = .ok context' := by
  unfold Node.scope at h ⊢
  split at h
  · exact ⟨_, rfl⟩
  · exact ⟨_, rfl⟩
  · exact ⟨_, rfl⟩
  · simp at h

/-- In a following session the node goes one step on from the recorded condition, and draws
nothing. -/
theorem chooses_of_follows (hsite : site.Counterbalanced) {r : Resolution} {condition : Json}
    (hrecords : site.Records sitting r condition) (hfollows : site.Follows next r)
    (hv : site.VisitedBy next v) {moduli : Dict Modulus} (hmoduli : site.HasTable moduli) :
    ∃ condition', site.Chooses next v condition' v.pass ∧
      Counterbalance.Advances moduli 1 condition condition' := by
  obtain ⟨w, after, hw, hchosen⟩ := hrecords.chosen
  obtain ⟨moduli', hmoduli', hvalid, hfits⟩ := fits_of_chooses hsite hw hchosen
  obtain ⟨scope, choice, hchooses, -⟩ := hchosen
  obtain ⟨table, fields, hsampled⟩ := chosen_of_chooses hsite hw hchooses
  obtain rfl := hmoduli.unique hmoduli'
  obtain ⟨hkey, hnode⟩ : w.key = v.key ∧ w.node = v.node :=
    ⟨hw.2.1.trans hv.2.1.symm, hw.2.2.trans hv.2.2.symm⟩
  -- the form of the node was checked in the session before
  obtain ⟨context, hscope⟩ : ∃ context, Node.scope v.key v.node v.context = .ok context :=
    exists_scope (hkey ▸ hnode ▸ hchooses.scope)
  obtain ⟨members, hmembers⟩ : ∃ members, (requestAt next v context).frameList = .ok members := by
    obtain ⟨members, hmembers, -⟩ := hsampled.members
    refine ⟨members, ?_⟩
    rw [← hmembers]
    exact Request.frameList_congr hkey.symm hnode.symm
  obtain ⟨common, hcommon⟩ : ∃ common, (requestAt next v context).common = .ok common := by
    obtain ⟨common, hcommon⟩ := hsampled.common
    refine ⟨common, ?_⟩
    rw [← hcommon]
    exact Request.common_congr hkey.symm hnode.symm
  obtain ⟨fields', hnext, hadvances⟩ := Counterbalance.next?_of_fits hvalid hfits
  have hhistory : (Counterbalance.history (requestAt next v context)).bind
      (Counterbalance.next? · moduli) = some fields' := by
    rw [history_of_follows hsite hrecords hfollows hv context, Option.bind_some, hnext]
  have hrun := Counterbalance.run_choose_of_next?
    (hmoduli (requestAt next v context) hv.2.1 hv.2.2) hhistory hmembers hcommon v.pass
  exact ⟨.obj fields', ⟨context, _, ⟨hscope, _, _, classify_node hsite hv,
    get?_incrementConditions, hrun⟩, rfl⟩, hadvances⟩

/-- So what a following session records is one step on. -/
theorem advances_of_follows (hsite : site.Counterbalanced) {r r' : Resolution}
    {condition condition' : Json} (hrecords : site.Records sitting r condition)
    (hfollows : site.Follows next r) (hnext : site.Records next r' condition')
    {moduli : Dict Modulus} (hmoduli : site.HasTable moduli) :
    Counterbalance.Advances moduli 1 condition condition' := by
  obtain ⟨v, after, hv, context, choice, hchooses, rfl⟩ := hnext.chosen
  obtain ⟨condition'', ⟨context', choice', hchooses', rfl⟩, hadvances⟩ :=
    chooses_of_follows hsite hrecords hfollows hv hmoduli
  obtain ⟨rfl, -⟩ := hchooses.unique hchooses'
  exact hadvances

/-- Along a chain of sessions, each following the one before, the steps add up. -/
theorem advances_of_chain (hsite : site.Counterbalanced) {moduli : Dict Modulus}
    (hmoduli : site.HasTable moduli) {sittings : Nat → Sitting} {resolutions : Nat → Resolution}
    {conditions : Nat → Json} (s : Nat)
    (hrecords : ∀ t ≤ s, site.Records (sittings t) (resolutions t) (conditions t))
    (hfollows : ∀ t < s, site.Follows (sittings (t + 1)) (resolutions t)) :
    Counterbalance.Advances moduli s (conditions 0) (conditions s) := by
  induction s with
  | zero =>
      obtain ⟨v, after, hv, hchosen⟩ := (hrecords 0 (Nat.le_refl 0)).chosen
      obtain ⟨moduli', hmoduli', -, hfits⟩ := fits_of_chooses hsite hv hchosen
      obtain rfl := hmoduli.unique hmoduli'
      exact hfits.advances_zero
  | succ s ih =>
      have hsofar := ih (fun t ht => hrecords t (Nat.le_succ_of_le ht))
        fun t ht => hfollows t (Nat.lt_succ_of_lt ht)
      exact hsofar.trans (advances_of_follows hsite (hrecords s (Nat.le_succ s))
        (hfollows s (Nat.lt_succ_self s)) (hrecords (s + 1) (Nat.le_refl _)) hmoduli)

/-- **Counterbalancing goes round.** Of a node whose own entry is what counts as completed:
whatever it chooses has exactly the fields of its table, each in range; in a session that follows a
recorded condition it chooses the next one wherever it is come to, and draws nothing for it, whatever
the seed, the policy and the older sessions; and along a chain of such sessions each number goes up
by one a session, round its range. -/
theorem counterbalances (hsite : site.Counterbalanced) :
    (∀ (sitting : Sitting) (v : Visit) (condition : Json) (after : Pass),
      site.VisitedBy sitting v → site.Chooses sitting v condition after →
        ∃ moduli, site.HasTable moduli ∧ Counterbalance.Fits moduli condition) ∧
    (∀ (sitting next : Sitting) (r : Resolution) (condition : Json) (v : Visit),
      site.Records sitting r condition → site.Follows next r → site.VisitedBy next v →
        ∃ moduli condition', site.HasTable moduli ∧ site.Chooses next v condition' v.pass ∧
          Counterbalance.Fits moduli condition' ∧
          Counterbalance.Advances moduli 1 condition condition') ∧
    ∀ (sittings : Nat → Sitting) (resolutions : Nat → Resolution) (conditions : Nat → Json)
      (s : Nat), (∀ t ≤ s, site.Records (sittings t) (resolutions t) (conditions t)) →
        (∀ t < s, site.Follows (sittings (t + 1)) (resolutions t)) →
        ∃ moduli, site.HasTable moduli ∧
          Counterbalance.Advances moduli s (conditions 0) (conditions s) := by
  refine ⟨?_, ?_, ?_⟩
  · intro sitting v condition after hv hchosen
    obtain ⟨moduli, hmoduli, -, hfits⟩ := fits_of_chooses hsite hv hchosen
    exact ⟨moduli, hmoduli, hfits⟩
  · intro sitting next r condition v hrecords hfollows hv
    obtain ⟨w, after, hw, hchosen⟩ := hrecords.chosen
    obtain ⟨moduli, hmoduli, -, -⟩ := fits_of_chooses hsite hw hchosen
    obtain ⟨condition', hchosen', hadvances⟩ :=
      chooses_of_follows hsite hrecords hfollows hv hmoduli
    obtain ⟨moduli', hmoduli', -, hfits⟩ := fits_of_chooses hsite hv hchosen'
    obtain rfl := hmoduli.unique hmoduli'
    exact ⟨moduli, condition', hmoduli, hchosen', hfits, hadvances⟩
  · intro sittings resolutions conditions s hrecords hfollows
    obtain ⟨v, after, hv, hchosen⟩ := (hrecords 0 (Nat.zero_le s)).chosen
    obtain ⟨moduli, hmoduli, -, -⟩ := fits_of_chooses hsite hv hchosen
    exact ⟨moduli, hmoduli, advances_of_chain hsite hmoduli s hrecords hfollows⟩

/-- A game with a number below two and a list of numbers below three and four. -/
def gameNode : Fields :=
  [("conditionModuli", .obj [("side", .int 2), ("slots", .arr [.int 3, .int 4])]),
    ("frameList", .arr [.obj [("kind", .str "trial")]]), ("id", .str "game"),
    ("sampler", .str "increment-conditions")]

/-- Its table. -/
def gameModuli : Dict Modulus := [("side", .scalar 2), ("slots", .perElement [3, 4])]

/-- The game in a group. -/
def gameSite : Site where
  protocol :=
    { frames := [("block", .obj [("frameList", .arr [.obj gameNode])])]
      sequence := ["block"] }
  index := 0
  key := "game"
  node := gameNode

/-- The numbers of the game. -/
def gameFields (side first second : Nat) : Fields :=
  [("side", .ofNat side), ("slots", .arr [.ofNat first, .ofNat second])]

/-- What the study of the game resolves to under a condition. -/
def gameResolution (condition : Fields) : Resolution where
  frames := [⟨"0-block", [("kind", .str "trial")]⟩]
  conditions := [("0_game", .obj condition)]

/-- A session after one that recorded a condition. -/
def gameSitting (condition : Fields) : Sitting where
  pastSessions := [⟨[("0_game", .obj condition)], [("0-block", .null)]⟩]
  ageInDays := none
  policy := .lenient
  generator := .ofSeed 0

/-- The visit of the game. -/
def gameVisit : Visit := ⟨"game", gameNode, [], .start 0 (some "block") .lenient (.ofSeed 0)⟩

theorem visitedBy_gameSitting (condition : Fields) :
    gameSite.VisitedBy (gameSitting condition) gameVisit := by
  have hkey : Node.memberKey "block" 0 gameNode = "game" := by decide
  refine ⟨.below rfl rfl .nil (.single ?_), rfl, rfl⟩
  refine .group (by cbv) (by cbv) (by cbv) (by cbv) ?_
  rw [gameVisit, ← hkey]
  exact .here

/-- From one condition to the next, the study resolves and records the next. -/
theorem records_gameSitting {a b c a' b' c' : Nat}
    (hnext : Counterbalance.next? (.obj (gameFields a b c)) gameModuli =
      some (gameFields a' b' c')) :
    gameSite.Records (gameSitting (gameFields a b c)) (gameResolution (gameFields a' b' c'))
      (.obj (gameFields a' b' c')) := by
  have hhistory : (Counterbalance.history (requestAt (gameSitting (gameFields a b c))
      gameVisit [])).bind (Counterbalance.next? · gameModuli) = some (gameFields a' b' c') := by
    have hfound : Counterbalance.history (requestAt (gameSitting (gameFields a b c)) gameVisit []) =
        some (.obj (gameFields a b c)) := by cbv
    rw [hfound, Option.bind_some, hnext]
  have hchooses : Resolver.Chooses
      ⟨.builtins, (gameSitting (gameFields a b c)).pastSessions, none⟩ gameVisit []
      (Counterbalance.choiceOf [.obj [("kind", .str "trial")]] (gameFields a' b' c'))
      gameVisit.pass := by
    refine ⟨rfl, "increment-conditions", .incrementConditions, rfl, rfl, ?_⟩
    exact Counterbalance.run_choose_of_next? rfl hhistory rfl rfl gameVisit.pass
  refine ⟨⟨.ofSeed 0, ?_⟩, by cbv, gameVisit, gameVisit.pass, visitedBy_gameSitting _, [], _,
    hchooses, rfl⟩
  have hleaf : Resolver.Expanded ⟨.builtins, (gameSitting (gameFields a b c)).pastSessions, none⟩
      ⟨Node.memberKey "game" 0 [("kind", .str "trial")], [("kind", .str "trial")],
        Dict.mergeOver [] (gameFields a' b' c'), gameVisit.pass⟩
      ⟨[[("kind", .str "trial")]], []⟩ gameVisit.pass := .leaf rfl (by cbv)
  have hgame := Resolver.Expanded.run (.sampler hchooses
    (Resolver.run_expandMembers_cons_eq_ok_iff.2
      ⟨_, _, _, hleaf.run, Resolver.run_expandMembers_nil .., rfl⟩) rfl)
  have hblock := Resolver.Expanded.run
    (v := ⟨"block", [("frameList", .arr [.obj gameNode])], [], gameVisit.pass⟩)
    (.group rfl rfl rfl rfl
      (Resolver.run_expandMembers_cons_eq_ok_iff.2
        ⟨_, _, _, hgame, Resolver.run_expandMembers_nil .., rfl⟩))
  exact Study.resolve_eq_ok_iff.2
    ⟨_, .cons (Study.expandEntry_eq_ok_iff.2 ⟨_, _, rfl, hblock, rfl⟩) .nil, by cbv⟩

theorem counterbalances_game :
    gameSite.Counterbalanced ∧
      gameSite.Records (gameSitting (gameFields 1 2 0)) (gameResolution (gameFields 0 0 1))
        (.obj (gameFields 0 0 1)) ∧
      gameSite.Follows (gameSitting (gameFields 0 0 1)) (gameResolution (gameFields 0 0 1)) ∧
      ∃ moduli condition', gameSite.HasTable moduli ∧
        gameSite.Chooses (gameSitting (gameFields 0 0 1)) gameVisit condition' gameVisit.pass ∧
        Counterbalance.Fits moduli condition' ∧
        Counterbalance.Advances moduli 1 (.obj (gameFields 0 0 1)) condition' := by
  have hsite : gameSite.Counterbalanced := by
    refine ⟨by decide, rfl, fun marker hmarked => ?_⟩
    have hnone : gameSite.node.get? "completionMarker" = none := rfl
    rw [hnone] at hmarked
    cases hmarked
  have hrecords : gameSite.Records (gameSitting (gameFields 1 2 0))
      (gameResolution (gameFields 0 0 1)) (.obj (gameFields 0 0 1)) := records_gameSitting rfl
  have hfollows : gameSite.Follows (gameSitting (gameFields 0 0 1))
      (gameResolution (gameFields 0 0 1)) :=
    ⟨_, [], rfl, rfl, _, List.mem_singleton_self _, by cbv, rfl⟩
  exact ⟨hsite, hrecords, hfollows, (counterbalances hsite).2.1 _ _ _ _ gameVisit hrecords hfollows
    (visitedBy_gameSitting _)⟩

end Site

end StudySession
