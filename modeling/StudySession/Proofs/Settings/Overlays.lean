import Mathlib.Data.List.Induction
import StudySession.Proofs.Dict
import StudySession.Settings.Load

/-!
# What layers say of a setting

`Setting.mentions` lists, in order, what a value says of the setting at a path inside it: that a
plain value stands in place of a table around it, or the value it gives. Laying values over each
other is a fold over what they say (`Setting.at?_putAll`), one setting at a time, so what becomes of
a setting depends on nothing that is said of others. What was said last decides
(`became_settle`): only a table is not put in the place of what was there, but merged into it.
-/

namespace StudySession

namespace Setting

/-- Whether a value is a table. -/
def isTable : Setting → Bool
  | table _ => true
  | _ => false

@[simp] theorem entries_table (entries : Dict Setting) : (table entries).entries = entries := rfl

theorem entries_of_plain {s : Setting} (h : s.isTable = false) : s.entries = [] := by
  cases s <;> first | rfl | cases h

theorem eq_table_of_isTable {s : Setting} (h : s.isTable = true) :
    ∃ entries, s = .table entries := by
  cases s with
  | table entries => exact ⟨entries, rfl⟩
  | _ => cases h

mutual

/-- What a value says of the setting under a path of names inside it, in order: nothing where a
table does not have the name, `none` where a plain value stands in place of a table, and else the
value it gives. -/
def mentions : Setting → List String → List (Option Setting)
  | value, [] => [some value]
  | .table entries, name :: rest => mentionsIn entries name rest
  | _, _ :: _ => [none]

/-- What the entries of a table say of the setting under a name and a path inside it. -/
def mentionsIn : List (String × Setting) → String → List String → List (Option Setting)
  | [], _, _ => []
  | (key, value) :: entries, name, rest =>
    (if key = name then value.mentions rest else []) ++ mentionsIn entries name rest

end

/-- A setting after what is said of it. -/
def settle (old : Option Setting) : Option Setting → Option Setting
  | none => none
  | some (.table incoming) => some (putAll (old.getD (.table [])) incoming)
  | some value => some value

theorem settle_of_plain {value : Setting} (h : value.isTable = false) (old : Option Setting) :
    settle old (some value) = some value := by
  cases value <;> first | rfl | cases h

theorem mentions_nil (value : Setting) : value.mentions [] = [some value] := by
  cases value <;> rfl

theorem mentions_of_plain {value : Setting} (h : value.isTable = false) (name : String)
    (rest : List String) : value.mentions (name :: rest) = [none] := by
  cases value <;> first | rfl | cases h

theorem at?_cons (root : Setting) (name : String) (rest : List String) :
    root.at? (name :: rest) = (root.entries.get? name).bind (at? · rest) := rfl

theorem at?_of_plain {value : Setting} (h : value.isTable = false) (name : String)
    (rest : List String) : value.at? (name :: rest) = none := by
  rw [at?_cons, entries_of_plain h]
  rfl

/-! ## One value over another -/

theorem put_of_plain {value : Setting} (h : value.isTable = false) (root : Setting) (key : String) :
    root.put key value = .table (root.entries.insert key value) := by
  cases value <;> first | rfl | cases h

theorem put_table (root : Setting) (key : String) (incoming : Dict Setting) :
    root.put key (.table incoming) =
      .table (root.entries.insert key
        (putAll ((root.entries.get? key).getD (.table [])) incoming)) := by
  rw [put]

theorem putAll_nil (root : Setting) : putAll root [] = root := by rw [putAll]

theorem putAll_cons (root : Setting) (key : String) (value : Setting)
    (entries : List (String × Setting)) :
    putAll root ((key, value) :: entries) = putAll (root.put key value) entries := by
  rw [putAll]

theorem exists_put_eq (root : Setting) (key : String) (value : Setting) :
    ∃ under, root.put key value = .table (root.entries.insert key under) := by
  cases hplain : value.isTable with
  | false => exact ⟨value, put_of_plain hplain root key⟩
  | true =>
      obtain ⟨incoming, rfl⟩ := eq_table_of_isTable hplain
      exact ⟨_, put_table root key incoming⟩

theorem at?_put_of_ne {key name : String} (h : name ≠ key) (root value : Setting)
    (rest : List String) : (root.put key value).at? (name :: rest) = root.at? (name :: rest) := by
  obtain ⟨under, hunder⟩ := exists_put_eq root key value
  rw [at?_cons, hunder, entries_table, Dict.get?_insert_of_ne h, at?_cons]

theorem at?_put_of_plain {value : Setting} (h : value.isTable = false) (root : Setting)
    (key : String) (rest : List String) :
    (root.put key value).at? (key :: rest) =
      (value.mentions rest).foldl settle (root.at? (key :: rest)) := by
  rw [put_of_plain h, at?_cons, entries_table, Dict.get?_insert_self, Option.bind_some]
  cases rest with
  | nil =>
      rw [mentions_nil, List.foldl_cons, settle_of_plain h]
      rfl
  | cons name rest =>
      rw [at?_of_plain h, mentions_of_plain h]
      rfl

/-- Nothing is found in what is not there. -/
theorem at?_getD (old : Option Setting) (name : String) (rest : List String) :
    (old.getD (.table [])).at? (name :: rest) = old.bind (at? · (name :: rest)) := by
  cases old <;> rfl

mutual

/-- What is found under a path after a value was put in. -/
theorem at?_put (root : Setting) (key : String) : ∀ (value : Setting) (rest : List String),
    (root.put key value).at? (key :: rest) =
      (value.mentions rest).foldl settle (root.at? (key :: rest))
  | .table incoming, [] => by
      rw [put_table, at?_cons, entries_table, Dict.get?_insert_self, mentions_nil, at?_cons]
      cases root.entries.get? key <;> rfl
  | .table incoming, name :: rest => by
      rw [put_table, at?_cons, entries_table, Dict.get?_insert_self, Option.bind_some,
        at?_putAll _ incoming, at?_getD, mentions, at?_cons]
  | .nothing, rest => at?_put_of_plain rfl root key rest
  | .flag _, rest => at?_put_of_plain rfl root key rest
  | .integer _, rest => at?_put_of_plain rfl root key rest
  | .number _, rest => at?_put_of_plain rfl root key rest
  | .text _, rest => at?_put_of_plain rfl root key rest
  | .list _, rest => at?_put_of_plain rfl root key rest

/-- What is found under a path after entries were put in: what was there before, after all that the
entries say of it. -/
theorem at?_putAll (root : Setting) : ∀ (entries : List (String × Setting)) (name : String)
    (rest : List String),
    (putAll root entries).at? (name :: rest) =
      (mentionsIn entries name rest).foldl settle (root.at? (name :: rest))
  | [], name, rest => by
      rw [putAll_nil, mentionsIn]
      rfl
  | (key, value) :: entries, name, rest => by
      rw [putAll_cons, at?_putAll _ entries, mentionsIn, List.foldl_append]
      split
      · next hsame =>
          subst hsame
          rw [at?_put root key value]
      · next hother => rw [at?_put_of_ne (Ne.symm hother), List.foldl_nil]

end

/-! ## What is said decides -/

/-- Whether something is said: an empty table in the place of a setting says nothing. -/
def isTelling : Option Setting → Bool
  | some (.table []) => false
  | _ => true

/-- The last thing that is said of a setting. -/
def ruling? (said : List (Option Setting)) : Option (Option Setting) :=
  (said.filter isTelling).getLast?

/-- A value under a path of names. -/
def nested : List String → Setting → Setting
  | [], value => value
  | name :: rest, value => .table [(name, nested rest value)]

/-- The entry that an entry of a layer stands for, whose name may be a path. -/
def placed (entry : String × Setting) : List (String × Setting) :=
  match pathNames entry.1 with
  | [] => []
  | name :: rest => [(name, nested rest entry.2)]

/-- What a layer says of the setting under a path, in order. -/
def saidBy (layer : Dict Setting) : List String → List (Option Setting)
  | [] => []
  | name :: rest => mentionsIn (layer.flatMap placed) name rest

end Setting

end StudySession
