import StudySession.Proofs.Upload.Transfer

/-!
# Gathering chunks

A `Gathering` is chunks in groups: groups that are full, each the body of a part, and those gathered
for the next one. `Gathering.ofChunks` fills the groups in order from the part size alone, and
`Gathering.cuts_ofChunks` says where it cuts: right behind the chunk with which a group reaches the
size.
-/

namespace StudySession

/-- Chunks in groups. -/
structure Gathering where
  /-- The full groups. -/
  full : List (List ByteArray)
  /-- The chunks since the last full group. -/
  latest : List ByteArray

namespace Gathering

/-- Takes in a chunk; a group that reaches the size is full. -/
def take (size : Nat) (g : Gathering) (chunk : ByteArray) : Gathering :=
  if (joinBytes (g.latest ++ [chunk])).size < size then ⟨g.full, g.latest ++ [chunk]⟩
  else ⟨g.full ++ [g.latest ++ [chunk]], []⟩

/-- The groups of some chunks. -/
def ofChunks (size : Nat) (chunks : List ByteArray) : Gathering :=
  chunks.foldl (take size) ⟨[], []⟩

/-- The bodies of the full groups. -/
def bodies (g : Gathering) : List ByteArray := g.full.map joinBytes

/-- The bytes gathered for the next body. -/
def rest (g : Gathering) : ByteArray := joinBytes g.latest

/-- The bodies with what is left as the last of them, if there is any. -/
def allBodies (g : Gathering) : List ByteArray :=
  g.bodies ++ if g.rest.isEmpty then [] else [g.rest]

/-- Groups hold all chunks in order, and a full one reaches the size with its last chunk. -/
structure Cuts (size : Nat) (chunks : List ByteArray) (g : Gathering) : Prop where
  all : g.full.flatten ++ g.latest = chunks
  reached : ∀ group ∈ g.full, ∃ front last, group = front ++ [last] ∧
    (joinBytes front).size < size ∧ size ≤ (joinBytes group).size
  few : (joinBytes g.latest).size < size

variable {size : Nat} {chunks : List ByteArray} {chunk : ByteArray} {g : Gathering}

theorem ofChunks_snoc : ofChunks size (chunks ++ [chunk]) = (ofChunks size chunks).take size chunk := by
  rw [ofChunks, List.foldl_append]
  rfl

theorem joinBytes_latest_snoc : joinBytes (g.latest ++ [chunk]) = g.rest ++ chunk := by
  rw [joinBytes_append, joinBytes_cons, joinBytes_nil, ByteArray.append_empty, rest]

theorem Cuts.take (h : g.Cuts size chunks) (hsize : 0 < size) (chunk : ByteArray) :
    (g.take size chunk).Cuts size (chunks ++ [chunk]) := by
  have hall : g.full.flatten ++ (g.latest ++ [chunk]) = chunks ++ [chunk] := by
    rw [← List.append_assoc, h.all]
  unfold Gathering.take
  by_cases hfew : (joinBytes (g.latest ++ [chunk])).size < size
  · rw [if_pos hfew]
    exact ⟨hall, h.reached, hfew⟩
  · rw [if_neg hfew]
    refine ⟨?_, ?_, hsize⟩
    · simpa using hall
    · intro group hgroup
      rcases List.mem_append.1 hgroup with hgroup | hgroup
      · exact h.reached group hgroup
      · -- the chunk that makes this group full is its last
        obtain rfl := List.mem_singleton.1 hgroup
        exact ⟨g.latest, chunk, rfl, h.few, Nat.le_of_not_lt hfew⟩

/-- The groups of chunks are cut where the size is reached. -/
theorem cuts_ofChunks (hsize : 0 < size) (chunks : List ByteArray) :
    (ofChunks size chunks).Cuts size chunks := by
  induction chunks using List.reverseRecOn with
  | nil => exact ⟨rfl, by simp [ofChunks], hsize⟩
  | append_singleton chunks chunk ih =>
      rw [ofChunks_snoc]
      exact ih.take hsize chunk

theorem bodies_take_of_lt (hfew : (g.rest ++ chunk).size < size) :
    (g.take size chunk).bodies = g.bodies ∧ (g.take size chunk).rest = g.rest ++ chunk := by
  have hlatest : joinBytes (g.latest ++ [chunk]) = g.rest ++ chunk := joinBytes_latest_snoc
  rw [take, if_pos (by rwa [hlatest])]
  exact ⟨rfl, hlatest⟩

theorem bodies_take_of_le (henough : size ≤ (g.rest ++ chunk).size) :
    (g.take size chunk).bodies = g.bodies ++ [g.rest ++ chunk] ∧
      (g.take size chunk).rest = .empty := by
  have hlatest : joinBytes (g.latest ++ [chunk]) = g.rest ++ chunk := joinBytes_latest_snoc
  rw [take, if_neg (by rw [hlatest]; omega)]
  refine ⟨?_, rfl⟩
  rw [bodies, List.map_append, List.map_singleton, hlatest, bodies]

theorem joinBytes_flatten (groups : List (List ByteArray)) :
    joinBytes groups.flatten = joinBytes (groups.map joinBytes) := by
  induction groups with
  | nil => rfl
  | cons group groups ih =>
      rw [List.flatten_cons, joinBytes_append, ih, List.map_cons, joinBytes_cons]

/-- The bodies and what is left are the chunks. -/
theorem Cuts.joinBytes_bodies (h : g.Cuts size chunks) :
    joinBytes g.bodies ++ g.rest = joinBytes chunks := by
  rw [← h.all, joinBytes_append, joinBytes_flatten]
  rfl

theorem joinBytes_allBodies : joinBytes g.allBodies = joinBytes g.bodies ++ g.rest := by
  rw [allBodies, joinBytes_append]
  by_cases hempty : g.rest.isEmpty
  · have hrest : g.rest = .empty := ByteArray.size_eq_zero_iff.1 (by simpa [ByteArray.isEmpty] using hempty)
    rw [if_pos hempty, hrest, joinBytes_nil]
  · rw [if_neg hempty, joinBytes_cons, joinBytes_nil, ByteArray.append_empty]

/-- A full body is not empty. -/
theorem Cuts.size_pos (h : g.Cuts size chunks) (hsize : 0 < size) {body : ByteArray}
    (hbody : body ∈ g.allBodies) : 0 < body.size := by
  rcases List.mem_append.1 hbody with hbody | hbody
  · obtain ⟨group, hgroup, rfl⟩ := List.mem_map.1 hbody
    obtain ⟨front, last, -, -, hreached⟩ := h.reached group hgroup
    omega
  · by_cases hempty : g.rest.isEmpty
    · simp [hempty] at hbody
    · obtain rfl : body = g.rest := by simpa [hempty] using hbody
      have hne : g.rest.size ≠ 0 := by simpa [ByteArray.isEmpty] using hempty
      omega

end Gathering

end StudySession
