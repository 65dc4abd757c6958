import StudySession.Proofs.Json.WellFormed
import StudySession.Proofs.MapM
import StudySession.Proofs.Random.Draw
import StudySession.Study.Sampler.Counterbalance

/-!
# Moduli

The values of a condition field lie in the range of its modulus, however they came about: drawn, or
by the rule of succession from any previous values. From values in range the rule takes one step,
round the range, and steps add up. Both hold of a condition field by field, and the tables that
nodes give are in order and have valid ranges.
-/

namespace StudySession

/-! ## Ranges -/

namespace Modulus

/-- The bounds are positive and fit 64 bits. -/
def Valid : Modulus → Prop
  | .scalar n => 0 < n ∧ n < 2 ^ 64
  | .perElement ns => ∀ n ∈ ns, 0 < n ∧ n < 2 ^ 64

/-- A value in the range: a number below the bound, or a list of them, each below its own. -/
def Fits : Modulus → Json → Prop
  | .scalar n, value => ∃ v, value = .ofNat v ∧ v < n
  | .perElement ns, value => ∃ vs : List Nat, value = .arr (vs.map .ofNat) ∧
      List.Forall₂ (· < ·) vs ns

/-- One value is a number of steps on from another: every number of it, round its bound. -/
def Advances (steps : Nat) : Modulus → Json → Json → Prop
  | .scalar n, old, new => ∃ v, old = .ofNat v ∧ new = .ofNat ((v + steps) % n)
  | .perElement ns, old, new => ∃ vs : List Nat, vs.length = ns.length ∧
      old = .arr (vs.map .ofNat) ∧
      new = .arr ((List.zipWith (fun v n => (v + steps) % n) vs ns).map .ofNat)

theorem ofNat_injective : Function.Injective Json.ofNat :=
  fun _ _ h => Int.ofNat.inj (Json.int.inj h)

@[simp] theorem nat?_ofNat (n : Nat) : (Json.ofNat n).nat? = some n := by
  simp [Json.nat?, Json.ofNat]

theorem successor_lt {n : Nat} (hn : 0 < n) (v : Nat) : successor n v < n := Nat.mod_lt _ hn

/-- Below a bound that fits 64 bits nothing overflows. -/
theorem successor_of_lt {n v : Nat} (hn : n < 2 ^ 64) (hv : v < n) :
    successor n v = (v + 1) % n := by
  have hpow : Nat.pow 2 64 = 2 ^ 64 := rfl
  have hfits : v + 1 < 2 ^ 64 := by omega
  rw [successor, hpow, Nat.mod_eq_of_lt hfits]

/-- The numbers after a list of previous ones are each below its bound. -/
theorem exists_lt_of_each_next {ns : List Nat} (hns : ∀ n ∈ ns, 0 < n ∧ n < 2 ^ 64)
    {items values : List Json} (hlength : items.length = ns.length)
    (h : List.Forall₂ (fun (entry : Json × Nat) value =>
      (entry.1.nat?.map fun v => Json.ofNat (successor entry.2 v)) = some value)
      (items.zip ns) values) :
    ∃ vs : List Nat, values = vs.map .ofNat ∧ List.Forall₂ (· < ·) vs ns := by
  induction items generalizing ns values with
  | nil =>
      obtain rfl : ns = [] := by simpa using hlength.symm
      cases h
      exact ⟨[], rfl, .nil⟩
  | cons item items ih =>
      cases ns with
      | nil => simp at hlength
      | cons n ns =>
          rw [List.zip_cons_cons] at h
          cases h with
          | cons hfirst hrest =>
              obtain ⟨v, -, rfl⟩ := Option.map_eq_some_iff.1 hfirst
              obtain ⟨vs, rfl, hvs⟩ := ih (fun n hn => hns n (List.mem_cons_of_mem _ hn))
                (Nat.succ.inj hlength) hrest
              have hlt := successor_lt (hns n List.mem_cons_self).1 v
              exact ⟨successor n v :: vs, rfl, .cons hlt hvs⟩

/-- Whatever the values before, those after them are in the range. -/
theorem fits_of_next? {m : Modulus} (hm : m.Valid) {old new : Json} (h : m.next? old = some new) :
    m.Fits new := by
  cases m with
  | scalar n =>
      obtain ⟨v, -, rfl⟩ := Option.map_eq_some_iff.1 h
      exact ⟨_, rfl, successor_lt hm.1 v⟩
  | perElement ns =>
      cases old with
      | arr items =>
          simp only [next?] at h
          split at h
          · next hlength =>
              obtain ⟨values, hvalues, rfl⟩ := Option.map_eq_some_iff.1 h
              obtain ⟨vs, rfl, hvs⟩ :=
                exists_lt_of_each_next hm hlength (mapM_eq_some_iff.1 hvalues)
              exact ⟨vs, rfl, hvs⟩
          · simp at h
      | _ => simp [next?] at h

/-- Values in the range are followed by those one step on. -/
theorem next?_of_fits {m : Modulus} (hm : m.Valid) {old : Json} (h : m.Fits old) :
    ∃ new, m.next? old = some new ∧ m.Advances 1 old new := by
  cases m with
  | scalar n =>
      obtain ⟨v, rfl, hv⟩ := h
      refine ⟨.ofNat ((v + 1) % n), ?_, v, rfl, rfl⟩
      rw [next?, nat?_ofNat, Option.map_some, successor_of_lt hm.2 hv]
  | perElement ns =>
      obtain ⟨vs, rfl, hvs⟩ := h
      have hlength : (vs.map Json.ofNat).length = ns.length := by
        rw [List.length_map, hvs.length_eq]
      refine ⟨_, ?_, vs, hvs.length_eq, rfl, rfl⟩
      have heach : ((vs.map Json.ofNat).zip ns).mapM (fun (entry : Json × Nat) =>
          entry.1.nat?.map fun v => Json.ofNat (successor entry.2 v)) =
          some ((List.zipWith (fun v n => (v + 1) % n) vs ns).map .ofNat) := by
        rw [mapM_eq_some_iff]
        clear hlength
        induction hvs with
        | nil => exact .nil
        | cons hv _ ih =>
            refine .cons ?_ (ih fun n hn => hm n (List.mem_cons_of_mem _ hn))
            rw [nat?_ofNat, Option.map_some, successor_of_lt (hm _ List.mem_cons_self).2 hv]
      rw [next?, if_pos hlength]
      dsimp only
      rw [heach, Option.map_some]

theorem fits_sample {m : Modulus} (hm : m.Valid) (g : Generator) : m.Fits (m.sample g).1 := by
  cases m with
  | scalar n => exact ⟨(g.below n .word64).1, rfl, g.below_fst_lt hm.1 _⟩
  | perElement ns =>
      -- each value is drawn from what the draws before it leave
      have heach : ∀ g : Generator, ∃ vs : List Nat, (sampleEach g ns).1 = vs.map .ofNat ∧
          List.Forall₂ (· < ·) vs ns := by
        induction ns with
        | nil => exact fun g => ⟨[], rfl, .nil⟩
        | cons n ns ih =>
            intro g
            obtain ⟨vs, hvs, hlt⟩ :=
              ih (fun n hn => hm n (List.mem_cons_of_mem _ hn)) (g.below n .word64).2
            refine ⟨(g.below n .word64).1 :: vs, ?_, .cons ?_ hlt⟩
            · rw [List.map_cons, ← hvs]
              rfl
            · exact g.below_fst_lt (hm n List.mem_cons_self).1 _
      obtain ⟨vs, hvs, hlt⟩ := heach g
      exact ⟨vs, congrArg Json.arr hvs, hlt⟩

/-! ## Steps -/

/-- Values in the range are no step on from themselves. -/
theorem advances_zero {m : Modulus} {value : Json} (h : m.Fits value) :
    m.Advances 0 value value := by
  cases m with
  | scalar n =>
      obtain ⟨v, rfl, hv⟩ := h
      exact ⟨v, rfl, by rw [Nat.add_zero, Nat.mod_eq_of_lt hv]⟩
  | perElement ns =>
      obtain ⟨vs, rfl, hvs⟩ := h
      refine ⟨vs, hvs.length_eq, rfl, ?_⟩
      have hself : List.zipWith (fun v n => (v + 0) % n) vs ns = vs := by
        induction hvs with
        | nil => rfl
        | cons hv _ ih => rw [List.zipWith_cons_cons, ih, Nat.add_zero, Nat.mod_eq_of_lt hv]
      rw [hself]

/-- Steps add up. -/
theorem Advances.trans {m : Modulus} {s t : Nat} {a b c : Json} (hab : m.Advances s a b)
    (hbc : m.Advances t b c) : m.Advances (s + t) a c := by
  cases m with
  | scalar n =>
      obtain ⟨v, rfl, rfl⟩ := hab
      obtain ⟨w, hw, rfl⟩ := hbc
      obtain rfl := ofNat_injective hw
      exact ⟨v, rfl, by rw [Nat.mod_add_mod, Nat.add_assoc]⟩
  | perElement ns =>
      obtain ⟨vs, hvs, rfl, rfl⟩ := hab
      obtain ⟨ws, hws, heq, rfl⟩ := hbc
      refine ⟨vs, hvs, rfl, ?_⟩
      obtain rfl := ofNat_injective.list_map (Json.arr.inj heq)
      -- the remainders taken halfway do not change those at the end
      have hsum : List.zipWith (fun w n => (w + t) % n)
          (List.zipWith (fun v n => (v + s) % n) vs ns) ns =
          List.zipWith (fun v n => (v + (s + t)) % n) vs ns := by
        clear heq hws
        induction vs generalizing ns with
        | nil => rfl
        | cons v vs ih =>
            cases ns with
            | nil => rfl
            | cons n ns =>
                simp only [List.zipWith_cons_cons, Nat.mod_add_mod, Nat.add_assoc]
                rw [ih ns (Nat.succ.inj hvs)]
      rw [hsum]

end Modulus

/-! ## Conditions -/

namespace Counterbalance

/-- A table in order, all of whose ranges are valid. -/
structure ValidTable (moduli : Dict Modulus) : Prop where
  sorted : moduli.Sorted
  valid : ∀ range ∈ moduli, range.2.Valid

/-- A condition has exactly the fields of a table, and each is in its range. -/
def Fits (moduli : Dict Modulus) (condition : Json) : Prop :=
  ∃ fields : Fields, condition = .obj fields ∧ fields.keys = moduli.keys ∧
    ∀ range ∈ moduli, ∃ value, fields.get? range.1 = some value ∧ range.2.Fits value

/-- Each field of a table is a number of steps on from one condition to another. -/
def Advances (moduli : Dict Modulus) (steps : Nat) (old new : Json) : Prop :=
  ∀ range ∈ moduli, ∃ v w, old.field? range.1 = some v ∧ new.field? range.1 = some w ∧
    range.2.Advances steps v w

variable {moduli : Dict Modulus}

theorem Fits.field? {condition : Json} (h : Fits moduli condition) {range : String × Modulus}
    (hrange : range ∈ moduli) :
    ∃ value, condition.field? range.1 = some value ∧ range.2.Fits value := by
  obtain ⟨fields, rfl, -, hvalues⟩ := h
  exact hvalues range hrange

theorem Fits.advances_zero {condition : Json} (h : Fits moduli condition) :
    Advances moduli 0 condition condition := by
  intro range hrange
  obtain ⟨value, hvalue, hfits⟩ := h.field? hrange
  exact ⟨value, value, hvalue, hvalue, Modulus.advances_zero hfits⟩

theorem Advances.trans {s t : Nat} {a b c : Json} (hab : Advances moduli s a b)
    (hbc : Advances moduli t b c) : Advances moduli (s + t) a c := by
  intro range hrange
  obtain ⟨u, v, hu, hv, huv⟩ := hab range hrange
  obtain ⟨v', w, hv', hw, hvw⟩ := hbc range hrange
  obtain rfl : v = v' := Option.some.inj (hv.symm.trans hv')
  exact ⟨u, w, hu, hw, huv.trans hvw⟩

/-- The condition after a previous one is made field by field. -/
theorem entrywise_of_next? {previous : Json} {fields : Fields}
    (h : next? previous moduli = some fields) :
    Dict.Entrywise (fun range new =>
      ∃ old, previous.field? range.1 = some old ∧ range.2.next? old = some new)
      moduli fields := by
  rw [next?, mapM_eq_some_iff] at h
  refine h.imp fun range field hfield => ?_
  obtain ⟨old, hold, hfield⟩ := Option.bind_eq_some_iff.1 hfield
  obtain ⟨new, hnew, hfield⟩ := Option.bind_eq_some_iff.1 hfield
  obtain rfl := Option.some.inj hfield
  exact ⟨rfl, old, hold, hnew⟩

/-- Whatever the previous condition, the one after it has the fields of the table, in range. -/
theorem fits_of_next? (hm : ValidTable moduli) {previous : Json} {fields : Fields}
    (h : next? previous moduli = some fields) : Fits moduli (.obj fields) := by
  have hfields := entrywise_of_next? h
  refine ⟨fields, rfl, hfields.keys_eq, fun range hrange => ?_⟩
  obtain ⟨value, hvalue, old, -, hnext⟩ := hfields.get? hm.sorted hrange
  exact ⟨value, hvalue, Modulus.fits_of_next? (hm.valid range hrange) hnext⟩

/-- A condition with the fields of the table, in range, is followed by the one a step on. -/
theorem next?_of_fits (hm : ValidTable moduli) {previous : Json} (h : Fits moduli previous) :
    ∃ fields, next? previous moduli = some fields ∧ Advances moduli 1 previous (.obj fields) := by
  have hnext : ∀ range ∈ moduli, ∃ old new, previous.field? range.1 = some old ∧
      range.2.next? old = some new ∧ range.2.Advances 1 old new := by
    intro range hrange
    obtain ⟨old, hold, hfits⟩ := h.field? hrange
    obtain ⟨new, hnew, hadvances⟩ := Modulus.next?_of_fits (hm.valid range hrange) hfits
    exact ⟨old, new, hold, hnew, hadvances⟩
  obtain ⟨fields, hfields⟩ : ∃ fields, next? previous moduli = some fields := by
    refine exists_mapM_eq_some fun range hrange => ?_
    obtain ⟨old, new, hold, hnew, -⟩ := hnext range hrange
    exact ⟨(range.1, new), by simp [hold, hnew]⟩
  refine ⟨fields, hfields, fun range hrange => ?_⟩
  obtain ⟨old, new, hold, hnew, hadvances⟩ := hnext range hrange
  obtain ⟨value, hvalue, old', hold', hnew'⟩ :=
    (entrywise_of_next? hfields).get? hm.sorted hrange
  -- the entry found under the key is the one that was made for it
  obtain rfl : old = old' := Option.some.inj (hold.symm.trans hold')
  obtain rfl : new = value := Option.some.inj (hnew.symm.trans hnew')
  exact ⟨old, new, hold, hvalue, hadvances⟩

/-- A drawn condition has the fields of the table, in range. -/
theorem fits_sample (hm : ValidTable moduli) (g : Generator) :
    Fits moduli (.obj (sample g moduli).1) := by
  have hfields : ∀ g : Generator,
      Dict.Entrywise (fun range value => range.2.Fits value) moduli (sample g moduli).1 := by
    have hvalid := hm.valid
    clear hm
    induction moduli with
    | nil => exact fun _ => .nil
    | cons range rest ih =>
        intro g
        obtain ⟨hfirst, hrest⟩ := List.forall_mem_cons.1 hvalid
        exact .cons ⟨rfl, Modulus.fits_sample hfirst g⟩ (ih hrest _)
  exact ⟨_, rfl, (hfields g).keys_eq, fun range hrange => (hfields g).get? hm.sorted hrange⟩

/-! ## Tables of nodes -/

theorem validTable_default : ValidTable defaultModuli where
  sorted := by
    unfold Dict.Sorted defaultModuli
    decide
  valid := by simp [defaultModuli, Modulus.Valid]

theorem valid_of_ofJson? {value : Json} (hvalue : value.WellFormed) {m : Modulus}
    (h : Modulus.ofJson? value = some m) : m.Valid := by
  have hpositive : ∀ {j : Json} {n : Nat}, j.WellFormed → Modulus.positive? j = some n →
      0 < n ∧ n < 2 ^ 64 := by
    intro j n hj hn
    obtain ⟨hnat, hpos⟩ := Option.filter_eq_some_iff.1 hn
    exact ⟨by simpa using hpos, hj.nat?_lt hnat⟩
  unfold Modulus.ofJson? at h
  split at h
  · next items =>
      obtain ⟨ns, hns, rfl⟩ := Option.map_eq_some_iff.1 h
      intro n hn
      obtain ⟨item, hitem, hread⟩ := exists_mem_of_forall₂ (mapM_eq_some_iff.1 hns) hn
      exact hpositive (Json.wellFormed_arr.1 hvalue item hitem) hread
  · obtain ⟨n, hn, rfl⟩ := Option.map_eq_some_iff.1 h
    exact hpositive hvalue hn

/-- The table of a well-formed node is valid. -/
theorem validTable_of_moduli {request : Request} (hnode : (Json.obj request.node).WellFormed)
    (h : Counterbalance.moduli request = .ok moduli) : ValidTable moduli := by
  unfold Counterbalance.moduli at h
  split at h
  · obtain rfl := Except.ok.inj h
    exact validTable_default
  · next first rest found =>
      have hentries : Dict.Entrywise (fun entry m => Modulus.ofJson? entry.2 = some m)
          (first :: rest) moduli := by
        refine (mapM_eq_ok_iff.1 h).imp fun entry range hrange => ?_
        dsimp only at hrange
        split at hrange
        · next m hm =>
            obtain rfl := Except.ok.inj hrange
            exact ⟨rfl, hm⟩
        · simp at hrange
      obtain ⟨hsorted, hvalues⟩ := Json.wellFormed_obj.1 (hnode.get? found)
      refine ⟨?_, fun range hrange => ?_⟩
      · exact Dict.Sorted.of_keys_eq hentries.keys_eq hsorted
      · obtain ⟨entry, hentry, -, hm⟩ := exists_mem_of_forall₂ hentries hrange
        exact valid_of_ofJson? (hvalues entry hentry) hm
  · simp at h

/-- The table is the node's alone. -/
theorem moduli_congr {a b : Request} (hkey : a.frameKey = b.frameKey) (hnode : a.node = b.node) :
    Counterbalance.moduli a = Counterbalance.moduli b := by
  simp only [Counterbalance.moduli, Request.malformed, hkey, hnode]

end Counterbalance

end StudySession
