import CodeGate.Proofs.Settings.Words

/-!
# Settings as they are read

What the program makes of a setting is what it reads at one place of the tree, and it reads there what the last
word on the setting gives: a value that it accepts differs from that in nothing that counts.
-/

namespace CodeGate.Settings

variable {α σ : Type}

/-! ## Readers -/

/-- A reader makes a setting of what is found, if anything is. -/
def Reads (read : Tree → Except Fault α) : (found : Option Tree) → Option α → Prop
  | none, setting => setting = none
  | some t, setting => ifGiven read t = .ok setting

/-- The setting that a value stands for, unless there is no value or null. A key is told only in faults. -/
def reading (read : String → Tree → Except Fault α) (value? : Option Tree) : Option α :=
  value?.bind fun value => (ifGiven (read "") value).toOption.join

/-- A reader to which values that agree are the same, and that refuses an empty table. -/
structure Steady (read : String → Tree → Except Fault α) : Prop where
  key {key key' : String} {t : Tree} {setting : Option α} :
    ifGiven (read key) t = .ok setting → ifGiven (read key') t = .ok setting
  room {key : String} {origin : Option Origin} {setting : Option α} :
    ifGiven (read key) (.table origin []) ≠ .ok setting
  agrees {key : String} {value found : Tree} {setting : Option α} :
    Agrees value found → ifGiven (read key) found = .ok setting → ifGiven (read key) value = .ok setting

theorem read_of_ifGiven {read : Tree → Except Fault α} {t : Tree} {setting : Option α}
    (accepted : ifGiven read t = .ok setting) :
    (∃ origin, t = .scalar origin .null) ∨ ∃ a, read t = .ok a ∧ setting = some a := by
  unfold ifGiven at accepted
  split at accepted
  · next origin => exact .inl ⟨origin, rfl⟩
  · cases made : read t with
    | error fault =>
      rw [made] at accepted
      cases accepted
    | ok a =>
      rw [made] at accepted
      exact .inr ⟨a, rfl, (Except.ok.inj accepted).symm⟩

/-- A reader of values without parts. -/
theorem steady_of_scalar {read : String → Tree → Except Fault α}
    (key : ∀ {key key' t a}, read key t = .ok a → read key' t = .ok a)
    (scalar : ∀ {key t a}, read key t = .ok a → ∃ origin value, t = .scalar origin value) : Steady read := by
  have accepts {k : String} {t : Tree} {setting : Option α} (accepted : ifGiven (read k) t = .ok setting) :
      ∃ origin value, t = .scalar origin value := by
    obtain ⟨origin, null⟩ | ⟨a, read, -⟩ := read_of_ifGiven accepted
    · exact ⟨origin, .null, null⟩
    · exact scalar read
  constructor
  case key =>
    intro k k' t setting accepted
    obtain ⟨origin, rfl⟩ | ⟨a, made, rfl⟩ := read_of_ifGiven accepted
    · exact accepted
    · obtain ⟨origin, value, rfl⟩ := scalar made
      cases value with
      | null => exact accepted
      | _ => exact congrArg (Except.map some) (key made)
  case room =>
    intro k origin setting accepted
    obtain ⟨_, _, parts⟩ := accepts accepted
    cases parts
  case agrees =>
    intro k value found setting agrees accepted
    obtain ⟨_, _, rfl⟩ := accepts accepted
    cases agrees with
    | scalar origin value => exact accepted

theorem steady_readText : Steady readText := by
  apply steady_of_scalar
  · intro key key' t a read
    cases t with
    | scalar origin value => cases value <;> exact read
    | list origin items => cases read
    | table origin ms => cases read
  · intro key t a read
    cases t with
    | scalar origin value => exact ⟨origin, value, rfl⟩
    | list origin items => cases read
    | table origin ms => cases read

theorem steady_readNatural : Steady readNatural := by
  apply steady_of_scalar
  · intro key key' t a read
    cases t with
    | scalar origin value =>
      cases value with
      | text s =>
        unfold readNatural at read ⊢
        dsimp only at read ⊢
        split at read
        · exact read
        · cases read
      | integer n =>
        unfold readNatural at read ⊢
        dsimp only at read ⊢
        split at read
        · cases read
        · next known => rwa [if_neg known]
      | null => exact read
      | bool b => exact read
      | float x => exact read
    | list origin items => cases read
    | table origin ms => cases read
  · intro key t a read
    cases t with
    | scalar origin value => exact ⟨origin, value, rfl⟩
    | list origin items => cases read
    | table origin ms => cases read

/-- A table whose keys are all the same one has that key once. -/
theorem eq_singleton_of_keys {ms : Table} {word : String} (some : ms ≠ []) (distinct : (Table.keys ms).Nodup)
    (same : ∀ key ∈ Table.keys ms, key = word) : ∃ t, ms = [(word, t)] := by
  match ms, some with
  | [(key, t)], _ =>
    obtain rfl := same key List.mem_cons_self
    exact ⟨t, rfl⟩
  | (key, _) :: (key', _) :: _, _ =>
    have twice : key = key' :=
      (same key List.mem_cons_self).trans (same key' (List.mem_cons_of_mem _ List.mem_cons_self)).symm
    exact absurd List.mem_cons_self (twice ▸ (List.nodup_cons.1 distinct).1)

/-- A backend may be given by a table with a single key, which is the same if keys are merged into it. -/
theorem steady_readBackend : Steady fun _ => readBackend where
  key := id
  room := nofun
  agrees {_ value found setting} agrees accepted := by
    cases agrees with
    | scalar origin value => exact accepted
    | list => cases accepted
    | @table origin origin' ms ms' some distinct kept =>
      match ms', accepted with
      | [(word, t)], accepted =>
        obtain ⟨t', rfl⟩ := eq_singleton_of_keys some distinct fun key inside =>
          List.mem_singleton.1 (kept key inside)
        exact accepted

/-- What is read at a key is what the word on it gives. -/
theorem Follows.reading {read : String → Tree → Except Fault α} (steady : Steady read) {word : Option Word}
    {found : Option Tree} (follows : Follows word found) {key : String} {setting : Option α}
    (reads : Reads (read key) found setting) : setting = Settings.reading read (word.bind Word.value?) := by
  cases follows with
  | given agrees =>
    have accepted : ifGiven (read "") _ = .ok setting := steady.agrees agrees (steady.key reads)
    simp only [Settings.reading, Option.bind_some, Word.value?, accepted]
    rfl
  | nothing unsaid =>
    rw [unsaid]
    exact reads
  | room unsaid => exact absurd reads steady.room

/-! ## Sections -/

/-- What stands at a setting of a section: a table has its settings at their keys, a list at their places. -/
def Tree.setting? (key : String) (place : Nat) : Tree → Option Tree
  | .table _ ms => Table.get? key ms
  | .list _ items => items[place]?
  | .scalar _ _ => none

/-- What stands at a setting in the tree of all sources. -/
def Tree.slot? (sect key : String) (place : Nat) (root : Tree) : Option Tree :=
  (Table.get? sect root.members).bind (Tree.setting? key place)

theorem of_bind {f : α → Except Fault σ} {made : Except Fault α} {result : σ} (accepted : made >>= f = .ok result) :
    ∃ a, made = .ok a ∧ f a = .ok result := by
  cases made with
  | error fault => cases accepted
  | ok a => exact ⟨a, rfl, accepted⟩

/-- A setting of a section is what is read at its key, or at its place in a list. -/
theorem reads_setting {name title key : String} {count place : Nat} {t : Tree} {lookup : Lookup}
    {read : String → Tree → Except Fault α} (steady : Steady read) {setting : Option α}
    (opened : sectionLookup name title count t = .ok lookup) (found : lookup.read place key read = .ok setting) :
    Reads (read "") (t.setting? key place) setting := by
  cases t with
  | scalar origin value => cases opened
  | table origin ms =>
    obtain rfl := Except.ok.inj opened
    cases here : Table.get? key ms with
    | none =>
      simp only [Lookup.read, here] at found
      rw [Tree.setting?, here]
      exact (Except.ok.inj found).symm
    | some t =>
      simp only [Lookup.read, here] at found
      rw [Tree.setting?, here]
      exact steady.key found
  | list origin items =>
    obtain rfl := Except.ok.inj opened
    cases here : items[place]? with
    | none =>
      simp only [Lookup.read, here] at found
      cases found
    | some t =>
      simp only [Lookup.read, here] at found
      rw [Tree.setting?, here]
      exact steady.key found

/-- A reader of sections takes one of its settings from a key, or from a place in a list. -/
def Takes (readSection : Tree → Except Fault σ) (key : String) (place : Nat)
    (read : String → Tree → Except Fault α) (field : σ → Option α) : Prop :=
  ∀ t sect, readSection t = .ok sect → Reads (read "") (t.setting? key place) (field sect)

theorem of_readServe {t : Tree} {serve : ServeSettings} (accepted : readServe t = .ok serve) :
    ∃ lookup, sectionLookup "serve" "ServeSection" 2 t = .ok lookup ∧
      lookup.read 0 "backend" (fun _ => readBackend) = .ok serve.backend ∧
      lookup.read 1 "addr" readText = .ok serve.addr := by
  obtain ⟨lookup, opened, accepted⟩ := of_bind accepted
  obtain ⟨backend, kind, accepted⟩ := of_bind accepted
  obtain ⟨addr, place, accepted⟩ := of_bind accepted
  obtain rfl := Except.ok.inj accepted
  exact ⟨lookup, opened, kind, place⟩

theorem takes_backend : Takes readServe "backend" 0 (fun _ => readBackend) (·.backend) := by
  intro t serve accepted
  obtain ⟨lookup, opened, backend, -⟩ := of_readServe accepted
  exact reads_setting steady_readBackend opened backend

theorem takes_addr : Takes readServe "addr" 1 readText (·.addr) := by
  intro t serve accepted
  obtain ⟨lookup, opened, -, addr⟩ := of_readServe accepted
  exact reads_setting steady_readText opened addr

theorem of_readRemote {t : Tree} {remote : RemoteSettings} (accepted : readRemote t = .ok remote) :
    ∃ lookup, sectionLookup "firebase" "FirebaseSection" 3 t = .ok lookup ∧
      lookup.read 0 "database_url" readText = .ok remote.databaseUrl ∧
      lookup.read 1 "auth_token_env" readText = .ok remote.authTokenEnv ∧
      lookup.read 2 "timeout_ms" readNatural = .ok remote.timeoutMs := by
  obtain ⟨lookup, opened, accepted⟩ := of_bind accepted
  obtain ⟨databaseUrl, url, accepted⟩ := of_bind accepted
  obtain ⟨authTokenEnv, token, accepted⟩ := of_bind accepted
  obtain ⟨timeoutMs, timeout, accepted⟩ := of_bind accepted
  obtain rfl := Except.ok.inj accepted
  exact ⟨lookup, opened, url, token, timeout⟩

theorem takes_databaseUrl : Takes readRemote "database_url" 0 readText (·.databaseUrl) := by
  intro t remote accepted
  obtain ⟨lookup, opened, url, -, -⟩ := of_readRemote accepted
  exact reads_setting steady_readText opened url

theorem takes_authTokenEnv : Takes readRemote "auth_token_env" 1 readText (·.authTokenEnv) := by
  intro t remote accepted
  obtain ⟨lookup, opened, -, token, -⟩ := of_readRemote accepted
  exact reads_setting steady_readText opened token

theorem takes_timeoutMs : Takes readRemote "timeout_ms" 2 readNatural (·.timeoutMs) := by
  intro t remote accepted
  obtain ⟨lookup, opened, -, -, timeout⟩ := of_readRemote accepted
  exact reads_setting steady_readNatural opened timeout

/-- A section that is missing or null has none of its settings. -/
theorem Takes.reads {readSection : Tree → Except Fault σ} {key : String} {place : Nat}
    {read : String → Tree → Except Fault α} {field : σ → Option α} (takes : Takes readSection key place read field)
    {found : Option Tree} {sect : Option σ} (accepted : Reads readSection found sect) :
    Reads (read "") (found.bind (Tree.setting? key place)) (sect.bind field) := by
  cases found with
  | none =>
    obtain rfl := accepted
    rfl
  | some t =>
    obtain ⟨origin, rfl⟩ | ⟨given, made, rfl⟩ := read_of_ifGiven accepted
    · obtain rfl := Except.ok.inj accepted
      rfl
    · exact takes t given made

/-- A section that may be missing. -/
def readGiven (readSection : Tree → Except Fault σ) : Option Tree → Except Fault (Option σ)
  | none => .ok none
  | some t => ifGiven readSection t

theorem reads_of_readGiven {readSection : Tree → Except Fault σ} {found : Option Tree} {sect : Option σ}
    (accepted : readGiven readSection found = .ok sect) : Reads readSection found sect := by
  cases found with
  | none => exact (Except.ok.inj accepted).symm
  | some t => exact accepted

theorem decode_eq (root : Tree) :
    decode root = (readGiven readServe (Table.get? "serve" root.members)).bind fun serve =>
      (readGiven readRemote (Table.get? "firebase" root.members)).bind fun firebase =>
        .ok { serve, firebase } := by
  unfold decode
  cases Table.get? "serve" root.members <;> cases Table.get? "firebase" root.members <;> rfl

theorem reads_of_decode {root : Tree} {settings : AppSettings} (decoded : decode root = .ok settings) :
    Reads readServe (Table.get? "serve" root.members) settings.serve ∧
      Reads readRemote (Table.get? "firebase" root.members) settings.firebase := by
  rw [decode_eq] at decoded
  obtain ⟨serve, served, decoded⟩ := of_bind decoded
  obtain ⟨firebase, remote, decoded⟩ := of_bind decoded
  obtain rfl := Except.ok.inj decoded
  exact ⟨reads_of_readGiven served, reads_of_readGiven remote⟩

/-! ## What is said of a setting -/

theorem Reads.reading {read : String → Tree → Except Fault α} {found : Option Tree} {setting : Option α}
    (reads : Reads (read "") found setting) : setting = Settings.reading read found := by
  cases found with
  | none => exact reads
  | some t =>
    have accepted : ifGiven (read "") t = .ok setting := reads
    simp only [Settings.reading, Option.bind_some, accepted]
    rfl

/-- What the sources say of a setting: the last word of the file on its key, or else that of the environment. If
they leave a list for the section, it is what stands at the place of the setting. -/
def said? (env : Environment) (file : Source) (sect key : String) (place : Nat) : Option Tree :=
  match Table.get? sect (combine env file).members with
  | some (.list _ items) => items[place]?
  | _ => ((file.word? sect key).or (Source.word? sect key env.settings)).bind Word.value?

/-- As long as no entry makes a list of a section, the last word on a key of it is all that is said. -/
theorem said?_of_no_list {env : Environment} {file : Source} {sect : String}
    (without : ∀ entry ∈ env.settings ++ file, ¬ Lists sect entry) (key : String) (place : Nat) :
    said? env file sect key place =
      ((file.word? sect key).or (Source.word? sect key env.settings)).bind Word.value? := by
  rw [said?]
  split
  · next origin items left =>
    obtain ⟨_, _, before⟩ | ⟨entry, inside, lists⟩ := list_of_writeTo file left
    · obtain ⟨_, _, none⟩ | ⟨entry, inside, lists⟩ := list_of_writeTo env.settings before
      · cases none
      · exact absurd lists (without entry (List.mem_append_left _ inside))
    · exact absurd lists (without entry (List.mem_append_right _ inside))
  · rfl

section Concat

variable {env : Environment} {file : Source} {sect : String} {entry : String × Tree}

/-- An entry at the end of the file decides what is said of a setting if it says anything of its key. Else it is as if
the entry were not there. -/
theorem said?_concat (without : ∀ e ∈ env.settings ++ (file ++ [entry]), ¬ Lists sect e) (key : String) (place : Nat) :
    said? env (file ++ [entry]) sect key place =
      match word? sect key entry with
      | some word => word.value?
      | none => said? env file sect key place := by
  have before : ∀ e ∈ env.settings ++ file, ¬ Lists sect e := by
    intro e inside
    apply without e
    rw [← List.append_assoc]
    exact List.mem_append_left _ inside
  rw [said?_of_no_list without, said?_of_no_list before, Source.word?_concat]
  cases word? sect key entry <;> rfl

/-- A file that ends by giving a section as null, or as any single value, leaves no setting of it: what earlier
entries and the environment say is hidden. -/
theorem said?_of_bare {name s : String} {value : Tree} (named : Step.pathOf name = [.key s])
    (bare : ∀ origin ms, value ≠ .table origin ms)
    (without : ∀ e ∈ env.settings ++ (file ++ [(name, value)]), ¬ Lists (Text.lower s) e) (key : String)
    (place : Nat) : said? env (file ++ [(name, value)]) (Text.lower s) key place = none := by
  rw [said?_concat without, word?_of_bare named key bare]
  rfl

/-- A file that ends by giving a section as a table leaves the settings alone that the table does not have. -/
theorem said?_of_absent {name s key : String} {origin : Option Origin} {ms : List (String × Tree)}
    (named : Step.pathOf name = [.key s]) (absent : ∀ m ∈ ms, Text.lower m.1 ≠ key)
    (without : ∀ e ∈ env.settings ++ (file ++ [(name, .table origin ms)]), ¬ Lists sect e) (place : Nat) :
    said? env (file ++ [(name, .table origin ms)]) sect key place = said? env file sect key place := by
  rw [said?_concat without, word?_of_absent named sect absent]

end Concat

/-- A setting is what the sources say of it, as it is read. -/
theorem Takes.setting_eq {readSection : Tree → Except Fault σ} {key : String} {place : Nat}
    {read : String → Tree → Except Fault α} {field : σ → Option α} (takes : Takes readSection key place read field)
    (steady : Steady read) {env : Environment} {file : Source} {name : String} {sect : Option σ}
    (accepted : Reads readSection (Table.get? name (combine env file).members) sect) :
    sect.bind field = reading read (said? env file name key place) := by
  have reads := takes.reads accepted
  have follows := follows_combine env file name key
  rw [Tree.at?] at follows
  rw [said?]
  generalize Table.get? name (combine env file).members = found at reads follows ⊢
  cases found with
  | none => exact follows.reading steady reads
  | some t =>
    cases t with
    | table origin ms => exact follows.reading steady reads
    | scalar origin value => exact follows.reading steady reads
    | list origin items => exact reads.reading

end CodeGate.Settings
