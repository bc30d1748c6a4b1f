import CodeGate.Proofs.Settings.Merging

/-!
# What the sources say of a setting

The sources are written into one tree, and tables are merged there. What is found at a key in the end can all the
same be told from the entries one by one: each of them says something of the key or nothing, as it would in an empty
tree, and the last one that says something is right. The entries of the file are behind those of the environment.

An entry can also say that there is no value: with null, or for a whole section by giving it as something else
than a table. A table at the key itself is known by its keys only, since earlier ones may be merged with it.
-/

namespace CodeGate.Settings

open CodeGate.Settings.Tree

/-! ## Words -/

/-- What an entry of a source says of a key in a section: that a value belongs there, or that there is no such key
any more, since the section becomes something else than a table. -/
inductive Word where
  | given (value : Tree)
  | taken

namespace Word

/-- The value that belongs at the key, if there is one. -/
def value? : Word → Option Tree
  | given value => some value
  | taken => none

/-- What is said by what stands at a key. An empty table leaves alone what is there. -/
def ofValue? : Tree → Option Word
  | .table _ [] => none
  | value => some (given value)

/-- What a section says of a key in it. -/
def ofSection? (key : String) : Tree → Option Word
  | .table _ ms => (Table.get? key ms).bind ofValue?
  | _ => some taken

end Word

/-- What an entry says of a key in a section: what it makes of an empty tree. -/
def word? (sect key : String) (entry : String × Tree) : Option Word :=
  (Table.get? sect (Tree.set (Step.pathOf entry.1) entry.2 empty).members).bind (Word.ofSection? key)

/-- What a source says of a key in a section: the last of its entries that says something counts. -/
def Source.word? (sect key : String) (source : Source) : Option Word :=
  source.reverse.findSome? (Settings.word? sect key)

/-- What stands at a key goes with the word on it. Where no value belongs there may be an empty table. -/
inductive Follows : Option Word → Option Tree → Prop where
  | given {value found : Tree} (agrees : Agrees value found) : Follows (some (.given value)) (some found)
  | nothing {word : Option Word} (unsaid : word.bind Word.value? = none) : Follows word none
  | room {word : Option Word} (unsaid : word.bind Word.value? = none) {origin : Option Origin} :
      Follows word (some (.table origin []))

theorem Agrees.ofValue? {value found : Tree} (h : Agrees value found) : Word.ofValue? value = some (.given value) := by
  cases h with
  | scalar origin value => rfl
  | list => rfl
  | table some distinct kept =>
    rename_i ms _
    cases ms with
    | nil => exact absurd rfl some
    | cons m ms => rfl

theorem Lays.follows {before fresh after : Option Tree} {word : Option Word} (h : Lays before fresh after)
    (follows : Follows word before) : Follows ((fresh.bind Word.ofValue?).or word) after := by
  cases h with
  | nothing => exact follows
  | room =>
    cases follows with
    | given agrees => exact .given agrees
    | nothing unsaid => exact .room unsaid
    | room unsaid => exact .room unsaid
  | value agrees =>
    rw [Option.bind_some, agrees.ofValue?]
    exact .given agrees

/-- An entry that names a key of a section, or gives it as a table, makes a table of it. -/
theorem exists_placed_key (name : String) (path : List Step) (value : Tree) :
    ∃ origin ms, placed (.key name :: path) value none = .table origin ms := by
  rw [placed_cons, set_key_eq]
  exact ⟨_, _, rfl⟩

theorem exists_placed_table (origin : Option Origin) (incoming : List (String × Tree)) :
    ∃ origin' ms, placed [] (.table origin incoming) none = .table origin' ms := by
  cases incoming with
  | nil => exact ⟨none, [], rfl⟩
  | cons m incoming => exact exists_setMembers m incoming empty

theorem ofSection?_of_table {key : String} {t : Tree} (h : ∃ origin ms, t = .table origin ms) :
    Word.ofSection? key t = (Table.get? key t.members).bind Word.ofValue? := by
  obtain ⟨origin, ms, rfl⟩ := h
  rfl

/-- The step of a section: what stands at a key goes with the word of the entry, or else with the word before. -/
theorem follows_placed (path : List Step) (value : Tree) {before : Option Tree} {key : String} {word : Option Word}
    (follows : Follows word (before.bind fun t => Table.get? key t.members)) :
    Follows ((Word.ofSection? key (placed path value none)).or word)
      (Table.get? key (placed path value before).members) := by
  cases path with
  | nil =>
    cases value with
    | scalar origin value => exact .nothing rfl
    | list origin items => exact .nothing rfl
    | table origin incoming =>
      have merged : Lays (before.bind fun t => Table.get? key t.members)
          (Table.get? key (setMembers incoming empty).members)
          (Table.get? key (setMembers incoming (before.getD empty)).members) := by
        apply lays_setMembers
        cases before <;> exact .nothing
      rw [ofSection?_of_table (exists_placed_table origin incoming)]
      exact merged.follows follows
  | cons step path =>
    cases step with
    | item place =>
      obtain ⟨origin, items, made⟩ := exists_set_item place path value absent
      obtain ⟨origin', items', made'⟩ := exists_set_item place path value (before.getD absent)
      rw [placed_cons, placed_cons, Option.getD_none, made, made']
      exact .nothing rfl
    | key name =>
      have changed : Lays (before.bind fun t => Table.get? key t.members)
          (Table.get? key (placed (.key name :: path) value none).members)
          (Table.get? key (placed (.key name :: path) value before).members) := by
        have found : before.bind (fun t => Table.get? key t.members) =
            Table.get? key (before.getD absent).members := by
          cases before <;> rfl
        rw [placed_cons, placed_cons, set_key_eq, set_key_eq, get?_members_alterKey, get?_members_alterKey]
        split
        · rw [found]
          exact lays_placed path value _
        · rw [found]
          exact .nothing
      rw [ofSection?_of_table (exists_placed_key name path value)]
      exact changed.follows follows

/-! ### What entries of each form say -/

/-- An entry that names a key of a section says its value there, and nothing of any other key. -/
theorem word?_of_key {name s k : String} (named : Step.pathOf name = [.key s, .key k]) (sect key : String)
    (value : Tree) :
    word? sect key (name, value) =
      if Text.lower s = sect ∧ Text.lower k = key then Word.ofValue? (planted value none) else none := by
  have made : Tree.set (Step.pathOf name) value empty =
      .table none [(Text.lower s, .table none [(Text.lower k, planted value none)])] := by
    rw [named, set_key_eq, alterKey, placed_cons, set_key_eq]
    rfl
  rw [word?, made, members, Table.get?_cons]
  by_cases here : Text.lower s = sect
  · rw [if_pos here, Option.bind_some, Word.ofSection?, Table.get?_cons]
    by_cases same : Text.lower k = key
    · rw [if_pos same, if_pos ⟨here, same⟩, Option.bind_some]
    · rw [if_neg same, if_neg fun both => same both.2]
      rfl
  · rw [if_neg here, if_neg fun both => here both.1]
    rfl

/-- What the variable for the address says. -/
example (value : Scalar) (origin : Option Origin) :
    word? "serve" "addr" ("serve.addr", .scalar origin value) = some (.given (.scalar origin value)) :=
  word?_of_key (s := "serve") (k := "addr") (by decide +kernel) "serve" "addr" _

theorem word?_of_section {name s : String} (named : Step.pathOf name = [.key s]) (sect key : String) (value : Tree) :
    word? sect key (name, value) =
      if Text.lower s = sect then Word.ofSection? key (planted value none) else none := by
  have made : Tree.set (Step.pathOf name) value empty = .table none [(Text.lower s, planted value none)] := by
    rw [named, set_key_eq]
    rfl
  rw [word?, made, members, Table.get?_cons]
  split <;> rfl

/-- An entry for a whole section takes every key of it if it is no table. -/
theorem word?_of_bare {name s : String} (named : Step.pathOf name = [.key s]) (key : String) {value : Tree}
    (bare : ∀ origin ms, value ≠ .table origin ms) : word? (Text.lower s) key (name, value) = some .taken := by
  rw [word?_of_section named, if_pos rfl]
  cases value with
  | scalar origin value => rfl
  | list origin items => rfl
  | table origin ms => exact absurd rfl (bare origin ms)

/-- A table for a section says nothing of a key that it does not have. -/
theorem word?_of_absent {name s : String} (named : Step.pathOf name = [.key s]) (sect : String) {key : String}
    {origin : Option Origin} {ms : List (String × Tree)} (absent : ∀ m ∈ ms, Text.lower m.1 ≠ key) :
    word? sect key (name, .table origin ms) = none := by
  have missing : key ∉ Table.keys (setMembers ms empty).members := by
    rw [mem_keys_setMembers]
    rintro (inside | ⟨m, inside, same⟩)
    · cases inside
    · exact absent m inside same
  rw [word?_of_section named]
  split
  · rw [← placed, ofSection?_of_table (exists_placed_table origin ms)]
    exact congrArg (·.bind Word.ofValue?) (Table.get?_of_not_mem missing)
  · rfl

/-! ## A whole source -/

/-- What stands at a key of a section, if that is a table. -/
def Tree.at? (sect key : String) (root : Tree) : Option Tree :=
  (Table.get? sect root.members).bind fun t => Table.get? key t.members

theorem follows_set {sect key : String} {word : Option Word} {root : Tree} (entry : String × Tree)
    (follows : Follows word (root.at? sect key)) :
    Follows ((word? sect key entry).or word) ((Tree.set (Step.pathOf entry.1) entry.2 root).at? sect key) := by
  obtain ⟨name, path, split⟩ := Step.pathOf_eq entry.1
  rw [word?, split, set_key_eq, set_key_eq, Tree.at?, get?_members_alterKey, get?_members_alterKey]
  by_cases here : Text.lower name = sect
  · rw [if_pos here, if_pos here]
    exact follows_placed path entry.2 follows
  · rw [if_neg here, if_neg here]
    exact follows

theorem Source.word?_cons (sect key : String) (entry : String × Tree) (source : Source) :
    Source.word? sect key (entry :: source) = (source.word? sect key).or (Settings.word? sect key entry) := by
  rw [Source.word?, List.reverse_cons, List.findSome?_append, List.findSome?_singleton]
  rfl

/-- The last entry of a source has the last word, if it says anything. -/
theorem Source.word?_concat (sect key : String) (source : Source) (entry : String × Tree) :
    Source.word? sect key (source ++ [entry]) = (Settings.word? sect key entry).or (source.word? sect key) := by
  rw [Source.word?, List.reverse_concat, List.findSome?_cons]
  cases Settings.word? sect key entry <;> rfl

/-- What stands at a key when a source has been written goes with its word, or else with the word before. -/
theorem follows_writeTo {sect key : String} (source : Source) {word : Option Word} {root : Tree}
    (follows : Follows word (root.at? sect key)) :
    Follows ((source.word? sect key).or word) ((source.writeTo root).at? sect key) := by
  induction source generalizing word root with
  | nil => exact follows
  | cons entry source ih =>
    have later := ih (follows_set entry follows)
    rwa [← Option.or_assoc, ← Source.word?_cons] at later

/-- What stands at a key when both sources have been written goes with the word of the file, or else with that of
the environment. -/
theorem follows_combine (env : Environment) (file : Source) (sect key : String) :
    Follows ((file.word? sect key).or (Source.word? sect key env.settings)) ((combine env file).at? sect key) := by
  have first : Follows ((Source.word? sect key env.settings).or none) ((env.settings.writeTo empty).at? sect key) :=
    follows_writeTo env.settings (.nothing rfl)
  rw [Option.or_none] at first
  exact follows_writeTo file first

/-! ## Lists -/

/-- An entry makes a list of a section. -/
def Lists (sect : String) (entry : String × Tree) : Prop :=
  ∃ origin items, Table.get? sect (Tree.set (Step.pathOf entry.1) entry.2 empty).members = some (.list origin items)

/-- A section is left as a list only if some entry makes a list of it, or it was a list before. -/
theorem list_of_writeTo {sect : String} (source : Source) {root : Tree} {origin : Option Origin} {items : List Tree}
    (left : Table.get? sect (source.writeTo root).members = some (.list origin items)) :
    (∃ origin items, Table.get? sect root.members = some (.list origin items)) ∨ ∃ entry ∈ source, Lists sect entry := by
  induction source generalizing root with
  | nil => exact .inl ⟨origin, items, left⟩
  | cons entry source ih =>
    obtain ⟨origin', items', between⟩ | ⟨later, inside, lists⟩ := ih left
    · have laid := lays_set sect entry root
      obtain before | made := laid.list between
      · exact .inl ⟨origin', items', before⟩
      · exact .inr ⟨entry, List.mem_cons_self, made⟩
    · exact .inr ⟨later, List.mem_cons_of_mem _ inside, lists⟩

end CodeGate.Settings
