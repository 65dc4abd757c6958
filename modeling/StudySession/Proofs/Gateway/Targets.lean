import StudySession.Gateway.Exchange
import StudySession.Proofs.Gateway.Addresses
import StudySession.Proofs.Recorder.Recordings
import StudySession.Proofs.Upload.Identity

/-!
# Targets of requests

The address of an object is put together as a text, and then read. Under a gateway whose own address
has neither query nor fragment (`Gateway.Rooted`), the calls for a recording keep to their routes
exactly when its name holds neither `?` nor `#`, and a key that a reader of addresses takes as it is
written (`Url.Literal`) is what the target ends in, percent-encoded, before the query. So two such
names never share a target. The names that are left out do: `a#1` and `a#2` are both sent as `a`.
-/

namespace StudySession

/-! ## Literal texts -/

namespace Url

theorem toNat_lt_of_isPathPlain {c : Char} (h : isPathPlain c = true) : c.toNat < 128 := by
  simp only [isPathPlain, Bool.and_eq_true, decide_eq_true_eq] at h
  omega

/-- Only dots are sent as dots, where there are no escapes. -/
theorem eq_dots_of_isDots {count : Nat} {piece : List Char}
    (hescape : Percent.hasEscape piece = false)
    (h : isDots count (String.ofList (Percent.encode isPathPlain piece)) = true) :
    piece = List.replicate count '.' := by
  have hdots : ∀ n, Percent.bytes (List.replicate n '.') = List.replicate n '.'.toNat := by
    intro n
    induction n with
    | zero => rfl
    | succ n ih => rw [List.replicate_succ, Percent.bytes_cons, ih]; rfl
  rw [isDots, beq_iff_eq, String.toList_ofList,
    Percent.codes_encode (fun _ => toNat_lt_of_isPathPlain) hescape, ← hdots count] at h
  exact Percent.bytes_injective h

/-- A text that a reader of addresses takes as it is written: nothing in it ends the path, parts it
or is left out, nothing is an escape, and no segment is `.` or `..`. -/
structure Literal (text : String) : Prop where
  queryless : '?' ∉ text.toList
  whole : '#' ∉ text.toList
  slashed : '\\' ∉ text.toList
  unbroken : ∀ c ∈ text.toList, isBreak c = false
  unescaped : Percent.hasEscape text.toList = false
  ahead : ∀ piece ∈ piecesBetween (· == '/') text.toList, piece ≠ ['.'] ∧ piece ≠ ['.', '.']

theorem unbroken_of_all {text : List Char} (h : text.all (fun c => !isBreak c) = true) :
    ∀ c ∈ text, isBreak c = false := fun c hc => by simpa using List.all_eq_true.1 h c hc

theorem counted_eq {text : String} (h : '#' ∉ text.toList) :
    counted text = text.toList.filter fun c => !isBreak c := by
  rw [counted, List.takeWhile_eq_self_iff]
  intro c hc
  simpa using fun heq : c = '#' => h (heq ▸ List.mem_of_mem_filter hc)

/-- The segments of a literal text follow those before them, and are together the text with its
characters encoded. -/
theorem Literal.path {text : String} (h : Literal text) (done : List String) :
    ('/' :: List.intercalate ['/']
        ((resolve done (segments (pathPart (counted text)))).map String.toList)) =
      ('/' :: done.reverse.flatMap fun segment => segment.toList ++ ['/']) ++
        Percent.encode isPathPlain text.toList := by
  have hcounted : counted text = text.toList := by
    rw [counted_eq h.whole, List.filter_eq_self]
    intro c hc
    rw [h.unbroken c hc]
    rfl
  have hpart : pathPart text.toList = text.toList := by
    rw [pathPart, List.takeWhile_eq_self_iff]
    intro c hc
    simpa using fun heq : c = '?' => h.queryless (heq ▸ hc)
  have hpieces : piecesBetween isSlash text.toList = piecesBetween (· == '/') text.toList := by
    refine piecesBetween_congr fun c hc => ?_
    have hne : c ≠ '\\' := fun heq => h.slashed (heq ▸ hc)
    simp [isSlash, hne]
  have hstay : ∀ segment ∈ segments text.toList,
      isDots 1 segment = false ∧ isDots 2 segment = false := by
    intro segment hsegment
    rw [segments, hpieces] at hsegment
    obtain ⟨piece, hpiece, rfl⟩ := List.mem_map.1 hsegment
    have hescape := hasEscape_piece h.unescaped piece hpiece
    exact ⟨Bool.eq_false_iff.2 fun hdots =>
        (h.ahead piece hpiece).1 (eq_dots_of_isDots hescape hdots),
      Bool.eq_false_iff.2 fun hdots => (h.ahead piece hpiece).2 (eq_dots_of_isDots hescape hdots)⟩
  have hjoined : List.intercalate ['/'] ((segments text.toList).map String.toList) =
      Percent.encode isPathPlain text.toList := by
    rw [segments, hpieces, List.map_map]
    have hslash : isPathPlain '/' = true := by decide
    simpa [Function.comp_def] using intercalate_pieces hslash text.toList
  have hne : (segments text.toList).map String.toList ≠ [] := by
    simpa using segments_ne_nil text.toList
  rw [hcounted, hpart, resolve_of_not_isDots hstay, List.map_append, intercalate_append _ hne,
    hjoined, List.flatMap_map]
  rfl

end Url

/-! ## Calls -/

namespace StoreCall

/-- The parameters that a call puts into the query of its target. -/
def parameters : StoreCall → String
  | create _ _ => "uploads"
  | part _ id number _ => Percent.form [("partNumber", toString number), ("uploadId", id)]
  | complete _ id _ => Percent.form [("uploadId", id)]
  | abort _ id => Percent.form [("uploadId", id)]

/-- Whether a call can be sent: the content type of a creation has to be the value of a header. -/
def Sendable : StoreCall → Prop
  | create _ contentType => Gateway.isHeaderValue contentType = true
  | _ => True

end StoreCall

namespace Gateway

variable {g : Gateway} {call : StoreCall} {u : Url}

/-- What all objects of a gateway are under is an address with neither query nor fragment. -/
structure Rooted (g : Gateway) : Prop where
  address : (Url.parse? (g.objectUrl "")).isSome = true
  queryless : '?' ∉ (g.objectUrl "").toList
  whole : '#' ∉ (g.objectUrl "").toList

/-- Whether nothing in a name ends the path of an address. -/
def Routed (name : String) : Prop := '?' ∉ name.toList ∧ '#' ∉ name.toList

theorem objectUrl_eq (g : Gateway) (key : String) : g.objectUrl key = g.objectUrl "" ++ key := by
  simp [objectUrl, String.append_assoc]

theorem objectUrl_last (g : Gateway) : (g.objectUrl "").toList.getLast? = some '/' := by
  have hslash : g.objectUrl "" = g.endpoint ++ "/" ++ g.bucket ++ "/" := by simp [objectUrl]
  rw [hslash, String.toList_append, List.getLast?_append]
  rfl

/-- What is read of the address of an object, and of that of its creation. -/
theorem Rooted.exists_parse? (hg : g.Rooted) :
    ∃ (u : Url) (done : List String), ∀ (text : String) (c : Char),
      text.toList.getLast? = some c → Url.isOuter c = false →
        Url.parse? (g.objectUrl text) =
          some { u with
            path := Url.resolve done (Url.segments (Url.pathPart (Url.counted text)))
            query? := Url.queryPart? (Url.counted text) } := by
  obtain ⟨u, hu⟩ := Option.isSome_iff_exists.1 hg.address
  obtain ⟨done, hdone⟩ := Url.parse?_append hu
    (fun c hc => ⟨fun heq => hg.queryless (heq ▸ hc), fun heq => hg.whole (heq ▸ hc)⟩)
    (objectUrl_last g)
  exact ⟨u, done, fun text c hlast hc => by rw [objectUrl_eq, hdone text c hlast hc]⟩

theorem key_last (name : String) : (videoObjectKey name).toList.getLast? = some 'm' := by
  rw [videoObjectKey, String.toList_append, List.getLast?_append]
  rfl

theorem creation_last (key : String) : (key ++ "?uploads").toList.getLast? = some 's' := by
  rw [String.toList_append, List.getLast?_append]
  rfl

theorem withForm_of_none (u : Url) (pairs : List (String × String)) :
    ({ u with query? := none } : Url).withForm pairs =
      { u with query? := some (Percent.form pairs) } := by
  simp [Url.withForm]

section Calls

variable {key : String}

theorem request_create {contentType : String} (hsend : isHeaderValue contentType = true)
    (h : Url.parse? (g.objectUrl key ++ "?uploads") = some u) :
    g.request (.create key contentType) = .ok ⟨.post, u, some contentType, .empty⟩ := by
  rw [request, address, h]
  exact if_pos hsend

theorem request_part (h : Url.parse? (g.objectUrl key) = some u) (id : String) (number : Nat)
    (body : ByteArray) :
    g.request (.part key id number body) =
      .ok ⟨.put, u.withForm [("partNumber", toString number), ("uploadId", id)], none,
        .bytes body⟩ := by
  rw [request, address, h]
  rfl

theorem request_complete (h : Url.parse? (g.objectUrl key) = some u) (id : String)
    (parts : List CompletedPart) :
    g.request (.complete key id parts) =
      .ok ⟨.post, u.withForm [("uploadId", id)], some "application/json",
        .document (partList parts)⟩ := by
  rw [request, address, h]
  rfl

theorem request_abort (h : Url.parse? (g.objectUrl key) = some u) (id : String) :
    g.request (.abort key id) = .ok ⟨.delete, u.withForm [("uploadId", id)], none, .empty⟩ := by
  rw [request, address, h]
  rfl

/-- Where the address of an object has no query of its own, a call's query is its parameters. -/
theorem exists_request (hkey : call.key = key) (hsend : call.Sendable)
    (hobject : Url.parse? (g.objectUrl key) = some { u with query? := none })
    (hcreation : Url.parse? (g.objectUrl key ++ "?uploads") =
      some { u with query? := some "uploads" }) :
    ∃ r, g.request call = .ok r ∧ r.url = { u with query? := some call.parameters } := by
  cases call with
  | create k contentType =>
      obtain rfl : k = key := hkey
      exact ⟨_, request_create hsend hcreation, rfl⟩
  | part k id number body =>
      obtain rfl : k = key := hkey
      exact ⟨_, request_part hobject id number body, withForm_of_none u _⟩
  | complete k id parts =>
      obtain rfl : k = key := hkey
      exact ⟨_, request_complete hobject id parts, withForm_of_none u _⟩
  | abort k id =>
      obtain rfl : k = key := hkey
      exact ⟨_, request_abort hobject id, withForm_of_none u _⟩

end Calls

/-! ## Routes -/

section Routes

variable {name : String}

theorem not_mem_key {c : Char} (hname : c ∉ name.toList) (hsuffix : c ∉ ".webm".toList) :
    c ∉ (videoObjectKey name).toList := by
  rw [videoObjectKey, String.toList_append, List.mem_append]
  rintro (h | h)
  · exact hname h
  · exact hsuffix h

/-- Under a rooted gateway a name without `?` and `#` keeps to the routes. -/
theorem Rooted.exists_route (hg : g.Rooted) :
    ∃ (u : Url) (done : List String), ∀ name, Routed name → ∀ call : StoreCall,
      call.key = videoObjectKey name → call.Sendable →
        ∃ r, g.request call = .ok r ∧ r.url =
          { u with
            path := Url.resolve done
              (Url.segments (Url.pathPart (Url.counted (videoObjectKey name))))
            query? := some call.parameters } := by
  obtain ⟨u, done, hparse⟩ := hg.exists_parse?
  refine ⟨u, done, fun name hname call hkey hsend => ?_⟩
  have hquery : '?' ∉ (videoObjectKey name).toList := not_mem_key hname.1 (by decide)
  have hhash : '#' ∉ (videoObjectKey name).toList := not_mem_key hname.2 (by decide)
  set stripped := (videoObjectKey name).toList.filter fun c => !Url.isBreak c with hstripped
  have hstrippedQuery : '?' ∉ stripped := fun hmem => hquery (List.mem_of_mem_filter hmem)
  have hobject : Url.counted (videoObjectKey name) = stripped := Url.counted_eq hhash
  have hcreation :
      Url.counted (videoObjectKey name ++ "?uploads") = stripped ++ "?uploads".toList := by
    rw [Url.counted_eq, String.toList_append, List.filter_append]
    · rfl
    · rw [String.toList_append, List.mem_append]
      exact fun h => h.elim hhash (by decide)
  have hnone : Url.queryPart? stripped = none := by
    have happend := Url.queryPart?_append hstrippedQuery []
    rwa [List.append_nil] at happend
  have hpath : Url.pathPart (stripped ++ "?uploads".toList) = Url.pathPart stripped := by
    have happend := Url.pathPart_append hstrippedQuery []
    rw [List.append_nil] at happend
    rw [Url.pathPart_append hstrippedQuery, happend]
    rfl
  refine exists_request (u := { u with
    path := Url.resolve done (Url.segments (Url.pathPart (Url.counted (videoObjectKey name)))) })
    hkey hsend ?_ ?_
  · rw [hparse _ _ (key_last name) (by decide), hobject, hnone]
  · have hread := hparse _ _ (creation_last (videoObjectKey name)) (by decide)
    rw [hcreation, hpath, Url.queryPart?_append hstrippedQuery] at hread
    rw [hobject, objectUrl_eq, String.append_assoc, ← objectUrl_eq, hread]
    rfl

theorem counted_append_of_mem {key : String} (h : '#' ∈ key.toList) (more : String) :
    Url.counted (key ++ more) = Url.counted key := by
  have hmem : '#' ∈ key.toList.filter fun c => !Url.isBreak c :=
    List.mem_filter.2 ⟨h, by decide⟩
  rw [Url.counted, String.toList_append, List.filter_append,
    takeWhile_append_of_mem hmem (by decide)]
  rfl

/-- A query of the object's own address stays in front of the parameters. -/
theorem query_eq_empty_of_withForm {pairs : List (String × String)}
    (h : (u.withForm pairs).query? = some (Percent.form pairs)) : u.query?.getD "" = "" := by
  by_contra hne
  have hlengths := congrArg String.length (Option.some.inj h)
  have hnot : (u.query?.getD "").isEmpty = false := by simpa using hne
  have hone : "&".length = 1 := rfl
  simp only [hnot, Bool.false_eq_true, if_false, String.length_append, hone] at hlengths
  omega

/-- A name that keeps to the routes has neither `?` nor `#`. -/
theorem Rooted.routed_of_route (hg : g.Rooted)
    (h : ∀ call : StoreCall, call.key = videoObjectKey name → call.Sendable →
      ∃ r, g.request call = .ok r ∧ r.url.query? = some call.parameters) : Routed name := by
  obtain ⟨u, done, hparse⟩ := hg.exists_parse?
  have hobject := hparse _ _ (key_last name) (by decide)
  obtain ⟨r, hr, hquery⟩ := h (.abort (videoObjectKey name) "") rfl trivial
  rw [request_abort hobject] at hr
  obtain rfl := Except.ok.inj hr
  have hnone : (Url.queryPart? (Url.counted (videoObjectKey name))).getD "" = "" :=
    query_eq_empty_of_withForm hquery
  have hhash : '#' ∉ name.toList := by
    intro hmem
    -- then what marks a creation is cut off with the end of the name
    have hkey : '#' ∈ (videoObjectKey name).toList := by
      rw [videoObjectKey, String.toList_append]
      exact List.mem_append_left _ hmem
    have hread := hparse _ _ (creation_last (videoObjectKey name)) (by decide)
    rw [counted_append_of_mem hkey, objectUrl_eq, ← String.append_assoc, ← objectUrl_eq] at hread
    obtain ⟨r, hr, hquery⟩ := h (.create (videoObjectKey name) "") rfl rfl
    rw [request_create rfl hread] at hr
    obtain rfl := Except.ok.inj hr
    have hmarked : Url.queryPart? (Url.counted (videoObjectKey name)) = some "uploads" := hquery
    rw [hmarked] at hnone
    exact absurd hnone (by decide)
  refine ⟨fun hmem => ?_, hhash⟩
  -- then the query is at least the extension
  obtain ⟨before, after, hname, hbefore⟩ := List.eq_append_cons_of_mem hmem
  have hcounted : Url.counted (videoObjectKey name) =
      (before.filter fun c => !Url.isBreak c) ++
        '?' :: ((after.filter fun c => !Url.isBreak c) ++ ".webm".toList) := by
    rw [Url.counted_eq (not_mem_key hhash (by decide)), videoObjectKey, String.toList_append, hname]
    simp [Url.isBreak]
  have hfirst : '?' ∉ before.filter fun c => !Url.isBreak c :=
    fun hin => hbefore (List.mem_of_mem_filter hin)
  rw [hcounted, Url.queryPart?_append hfirst, Url.queryPart?] at hnone
  have hnil : (after.filter fun c => !Url.isBreak c) ++ ".webm".toList = [] :=
    Percent.encode_eq_nil_iff.1 (String.ofList_inj.1 hnone)
  simp at hnil

end Routes

/-! ## Targets -/

theorem toList_target {query : String} (h : u.query? = some query) :
    u.target.toList =
      ('/' :: List.intercalate ['/'] (u.path.map String.toList)) ++ '?' :: query.toList := by
  rw [Url.target, h]
  simp [String.toList_intercalate]

/-- **Targets.** Under a rooted gateway, the target of a call for a literal key is the same root for
all of them, then the key with its characters encoded, then the parameters of the call. -/
theorem Rooted.exists_target (hg : g.Rooted) :
    ∃ root : List Char, ∀ name, Url.Literal (videoObjectKey name) → ∀ call : StoreCall,
      call.key = videoObjectKey name → call.Sendable →
        ∃ r, g.request call = .ok r ∧ r.url.query? = some call.parameters ∧
          r.url.target.toList =
            root ++ Percent.encode Url.isPathPlain (videoObjectKey name).toList ++
              '?' :: call.parameters.toList := by
  obtain ⟨u, done, hroute⟩ := hg.exists_route
  refine ⟨'/' :: done.reverse.flatMap fun segment => segment.toList ++ ['/'],
    fun name hname call hkey hsend => ?_⟩
  have hrouted : Routed name := by
    refine ⟨fun hmem => hname.queryless ?_, fun hmem => hname.whole ?_⟩ <;>
      exact String.toList_append ▸ List.mem_append_left _ hmem
  obtain ⟨r, hr, hurl⟩ := hroute name hrouted call hkey hsend
  have hquery : r.url.query? = some call.parameters := by rw [hurl]
  refine ⟨r, hr, hquery, ?_⟩
  rw [toList_target hquery, ← hname.path done, hurl]

/-- What is in front of the parameters of two equal targets is equal. -/
theorem encoded_inj {key other : List Char} {parameters parameters' : List Char}
    (h : Percent.encode Url.isPathPlain key ++ '?' :: parameters =
      Percent.encode Url.isPathPlain other ++ '?' :: parameters') :
    Percent.encode Url.isPathPlain key = Percent.encode Url.isPathPlain other := by
  have hscan : ∀ s t : List Char,
      (Percent.encode Url.isPathPlain s ++ '?' :: t).takeWhile (· != '?') =
        Percent.encode Url.isPathPlain s := by
    intro s t
    rw [List.takeWhile_append_of_pos]
    · simp
    · intro c hc
      have hplain : Url.isPathPlain '?' = false := by decide
      have hnot := Percent.not_mem_encode hplain (by decide) (by decide) s
      simpa using fun heq : c = '?' => hnot (heq ▸ hc)
  rw [← hscan key parameters, h, hscan]

/-- **Names are kept apart.** Under a gateway whose own address has neither query nor fragment, the
calls for a recording go out with no parameters but their own exactly when its name holds neither
`?` nor `#`; and of two names that a reader of addresses takes as they are written, no call for the
one has the target of a call for the other. -/
theorem targets_apart (hg : g.Rooted) :
    (∀ name, Routed name ↔ ∀ call : StoreCall, call.key = videoObjectKey name → call.Sendable →
      ∃ r, g.request call = .ok r ∧ r.url.query? = some call.parameters) ∧
    ∀ name other, Url.Literal (videoObjectKey name) → Url.Literal (videoObjectKey other) →
      name ≠ other → ∀ call call' : StoreCall, call.key = videoObjectKey name →
        call'.key = videoObjectKey other → call.Sendable → call'.Sendable →
          ∃ r r', g.request call = .ok r ∧ g.request call' = .ok r' ∧
            r.url.target ≠ r'.url.target := by
  constructor
  · intro name
    refine ⟨fun hname call hkey hsend => ?_, hg.routed_of_route⟩
    obtain ⟨u, done, hroute⟩ := hg.exists_route
    obtain ⟨r, hr, hurl⟩ := hroute name hname call hkey hsend
    exact ⟨r, hr, by rw [hurl]⟩
  · intro name other hname hother hne call call' hkey hkey' hsend hsend'
    obtain ⟨root, htarget⟩ := hg.exists_target
    obtain ⟨r, hr, -, htext⟩ := htarget name hname call hkey hsend
    obtain ⟨r', hr', -, htext'⟩ := htarget other hother call' hkey' hsend'
    refine ⟨r, r', hr, hr', fun hsame => hne ?_⟩
    have htexts := congrArg String.toList hsame
    rw [htext, htext', List.append_assoc, List.append_assoc] at htexts
    have hencoded := encoded_inj (List.append_cancel_left htexts)
    have hkeys := Percent.encode_injOn (fun _ => Url.toNat_lt_of_isPathPlain) hname.unescaped
      hother.unescaped hencoded
    exact videoObjectKey_injective (String.toList_inj.1 hkeys)

/-! A gateway that is given with a slash at its end, and names with characters that are encoded. -/

def storageGateway : Gateway := new "https://storage.example/" "recordings"

theorem rooted_storageGateway : storageGateway.Rooted :=
  ⟨by decide +kernel, by decide +kernel, by decide +kernel⟩

theorem targets_apart_encoded :
    storageGateway.Rooted ∧ Url.Literal (videoObjectKey "week 1/é 50%") ∧
      Url.Literal (videoObjectKey "week 1/é&50%") ∧ "week 1/é 50%" ≠ "week 1/é&50%" ∧
      (Routed "week 1/é 50%" ↔ ∀ call : StoreCall, call.key = videoObjectKey "week 1/é 50%" →
        call.Sendable → ∃ r, storageGateway.request call = .ok r ∧
          r.url.query? = some call.parameters) ∧
      ∃ r r', storageGateway.request (.create (videoObjectKey "week 1/é 50%") videoContentType) =
          .ok r ∧
        storageGateway.request (.abort (videoObjectKey "week 1/é&50%") "7") = .ok r' ∧
          r.url.target ≠ r'.url.target := by
  have hfirst : Url.Literal (videoObjectKey "week 1/é 50%") :=
    ⟨by decide, by decide, by decide, Url.unbroken_of_all (by decide), by decide, by decide⟩
  have hsecond : Url.Literal (videoObjectKey "week 1/é&50%") :=
    ⟨by decide, by decide, by decide, Url.unbroken_of_all (by decide), by decide, by decide⟩
  obtain ⟨hroutes, hapart⟩ := targets_apart rooted_storageGateway
  exact ⟨rooted_storageGateway, hfirst, hsecond, by decide, hroutes _,
    hapart _ _ hfirst hsecond (by decide) (.create _ videoContentType) (.abort _ "7") rfl rfl
      (by decide : isHeaderValue videoContentType = true) trivial⟩

/-- The recordings `a#1` and `a#2` are created by one request, which is none for a creation; and the
creation of `a.webm?uploadId=7#` is the request that completes the upload `7` of `a`. -/
theorem targets_shared :
    storageGateway.Rooted ∧
      (∃ r r', storageGateway.request (.create (videoObjectKey "a#1") videoContentType) = .ok r ∧
        storageGateway.request (.create (videoObjectKey "a#2") videoContentType) = .ok r' ∧
          r.url.target = "/recordings/a" ∧ r'.url.target = "/recordings/a") ∧
      ∃ r r', storageGateway.request
          (.create (videoObjectKey "a.webm?uploadId=7#") videoContentType) = .ok r ∧
        storageGateway.request (.complete (videoObjectKey "a") "7" []) = .ok r' ∧
          r.method = r'.method ∧ r.url.target = r'.url.target := by
  have hsend : isHeaderValue videoContentType = true := by decide
  have hfirst : Url.parse? (storageGateway.objectUrl (videoObjectKey "a#1") ++ "?uploads") =
      some ⟨true, "storage.example", none, ["recordings", "a"], none⟩ := by decide +kernel
  have hsecond : Url.parse? (storageGateway.objectUrl (videoObjectKey "a#2") ++ "?uploads") =
      some ⟨true, "storage.example", none, ["recordings", "a"], none⟩ := by decide +kernel
  have hthird : Url.parse?
      (storageGateway.objectUrl (videoObjectKey "a.webm?uploadId=7#") ++ "?uploads") =
        some ⟨true, "storage.example", none, ["recordings", "a.webm"], some "uploadId=7"⟩ := by
    decide +kernel
  have hfourth : Url.parse? (storageGateway.objectUrl (videoObjectKey "a")) =
      some ⟨true, "storage.example", none, ["recordings", "a.webm"], none⟩ := by decide +kernel
  exact ⟨rooted_storageGateway,
    ⟨_, _, request_create hsend hfirst, request_create hsend hsecond, by decide, by decide⟩,
    _, _, request_create hsend hthird, request_complete hfourth "7" [], rfl, by decide⟩

end Gateway

end StudySession
