import CodeGate.Settings.HomePath
import Mathlib.Data.List.Basic

/-!
# Where a path from home leads

A path is taken apart into components, as a file system follows them. Behind the home directory the components of a
relative path are appended to those of the home directory. A path that starts with a slash behind the tilde's own one
is taken for an absolute path and leads away from home.
-/

namespace CodeGate.Settings

/-! ## Components -/

/-- A component of a path: the root, a dot for the directory itself, two dots for the one above, or a name. -/
inductive Component where
  | root
  | here
  | up
  | name (chars : List Char)
  deriving DecidableEq, Repr

/-- What stands between two slashes; nothing and a dot lead nowhere else. -/
def Component.ofPiece? : List Char → Option Component
  | [] => none
  | ['.'] => none
  | ['.', '.'] => some .up
  | piece => some (.name piece)

/-- The components between the slashes. -/
def inner (path : List Char) : List Component :=
  (path.splitOn '/').filterMap Component.ofPiece?

/-- How a path starts: with the root, or with a dot that counts because nothing stands in front of it. -/
def lead (path : List Char) : List Component :=
  if path.head? = some '/' then [.root]
  else if (path.splitOn '/').head? = some ['.'] then [.here]
  else []

/-- The components of a path. Doubled slashes, slashes at the end and dots behind the start do not count. -/
def components (path : List Char) : List Component := lead path ++ inner path

/-- The components that a path leads through; a dot at the start leads nowhere. -/
def steps (path : List Char) : List Component := (components path).filter (· ≠ .here)

/-- A path without the slashes at its front. -/
def unrooted (path : List Char) : List Char := path.dropWhile (· = '/')

variable {home rest path : List Char}

theorem inner_slash (front rest : List Char) : inner (front ++ '/' :: rest) = inner front ++ inner rest := by
  have cut : (front ++ '/' :: rest).splitOn '/' = front.splitOn '/' ++ rest.splitOn '/' :=
    List.splitOnP_append_cons front rest (by decide)
  rw [inner, cut, List.filterMap_append, inner, inner]

/-- How a path starts does not depend on what stands behind a slash that is not its first character. -/
theorem lead_slash {front : List Char} (filled : front ≠ []) (rest : List Char) :
    lead (front ++ '/' :: rest) = lead front := by
  have cut : (front ++ '/' :: rest).splitOn '/' = front.splitOn '/' ++ rest.splitOn '/' :=
    List.splitOnP_append_cons front rest (by decide)
  rw [lead, lead, cut, List.head?_append_of_ne_nil _ filled,
    List.head?_append_of_ne_nil _ (List.splitOn_ne_nil '/' front)]

theorem components_slash {front : List Char} (filled : front ≠ []) (rest : List Char) :
    components (front ++ '/' :: rest) = components front ++ inner rest := by
  rw [components, components, lead_slash filled, inner_slash, List.append_assoc]

/-- At the root there is nothing in front of the slash. -/
theorem components_root (rest : List Char) : components ('/' :: rest) = .root :: inner rest := by
  rw [components, ← List.nil_append ('/' :: rest), inner_slash]
  rfl

/-- No piece between slashes is a dot that counts. -/
theorem filter_inner (path : List Char) : (inner path).filter (· ≠ .here) = inner path := by
  rw [List.filter_eq_self]
  intro c hc
  obtain ⟨piece, -, read⟩ := List.mem_filterMap.1 hc
  unfold Component.ofPiece? at read
  split at read <;> cases read <;> rfl

theorem steps_eq (path : List Char) :
    steps path = (if path.head? = some '/' then [.root] else []) ++ inner path := by
  rw [steps, components, List.filter_append, filter_inner, lead]
  split
  · rfl
  · split <;> rfl

theorem steps_of_relative (relative : path.head? ≠ some '/') : steps path = inner path := by
  rw [steps_eq, if_neg relative, List.nil_append]

/-- Without the slashes at its front a path is relative, with the same names. -/
theorem steps_unrooted (path : List Char) : steps (unrooted path) = inner path := by
  induction path with
  | nil => rfl
  | cons c path ih =>
    rw [unrooted, List.dropWhile_cons]
    split
    · next slash =>
      rw [of_decide_eq_true slash, ← List.nil_append ('/' :: path), inner_slash]
      exact ih
    · next other =>
      apply steps_of_relative
      intro slash
      exact other (decide_eq_true (Option.some.inj slash))

/-! ## Joining -/

theorem joinPath_of_absolute (absolute : rest.head? = some '/') : joinPath home rest = rest :=
  if_pos absolute

theorem joinPath_nil (rest : List Char) : joinPath [] rest = rest := by
  simp [joinPath]

/-- Behind a directory stand the components of a relative path, a dot at its start apart. -/
theorem components_joinPath (relative : rest.head? ≠ some '/') (filled : home ≠ []) :
    components (joinPath home rest) = components home ++ inner rest := by
  rw [joinPath, if_neg relative]
  by_cases closed : home.getLast? = some '/'
  · obtain ⟨front, rfl⟩ := List.getLast?_eq_some_iff.1 closed
    rw [if_pos (.inr closed), List.append_assoc, List.singleton_append]
    cases front with
    | nil => exact components_root rest
    | cons c front =>
      have nothing : inner [] = [] := rfl
      rw [components_slash (List.cons_ne_nil c front), components_slash (List.cons_ne_nil c front), nothing,
        List.append_nil]
  · rw [if_neg (not_or.2 ⟨filled, closed⟩), components_slash filled]

theorem steps_joinPath (relative : rest.head? ≠ some '/') (home : List Char) :
    steps (joinPath home rest) = steps home ++ inner rest := by
  by_cases empty : home = []
  · rw [empty, joinPath_nil, steps_of_relative relative]
    rfl
  · rw [steps, components_joinPath relative empty, List.filter_append, filter_inner, steps]

/-! ## The home directory in front -/

theorem fromHome_tilde {env : Environment} {directory : String} (given : homeOf env = some directory) (rest : String) :
    (fromHome env ("~/" ++ rest)).toList = joinPath directory.toList rest.toList := by
  have tilde : ("~/" ++ rest).toList = '~' :: '/' :: rest.toList := by simp
  simp only [fromHome, tilde, given, String.toList_ofList]

theorem fromHome_of_no_tilde (env : Environment) {text : String} (alone : text ≠ "~")
    (front : ¬['~', '/'] <+: text.toList) : fromHome env text = text := by
  unfold fromHome
  split
  · next tilde => exact absurd (String.toList_inj.1 tilde) alone
  · next rest tilde => exact absurd ⟨rest, tilde.symm⟩ front
  · rfl

/-- **Paths below home.** For every home directory and every text behind `~/`: the path that is meant has the steps of
the home directory and then those of the text without the slashes at its front, if and only if it has no slash there or
home is the root. Without a slash there, its components are those of the home directory and then the steps of the text
(only the text's own components if home is the empty path); with one, it is the text alone. A path that neither is `~`
nor starts with `~/` stays as it is. -/
theorem tilde_leads_below_home (env : Environment) :
    (∀ directory rest : String, homeOf env = some directory →
      let meant := (fromHome env ("~/" ++ rest)).toList
      (steps meant = steps directory.toList ++ steps (unrooted rest.toList) ↔
        rest.toList.head? ≠ some '/' ∨ steps directory.toList = [.root]) ∧
      (rest.toList.head? ≠ some '/' → components meant =
        if directory = "" then components rest.toList else components directory.toList ++ steps rest.toList) ∧
      (rest.toList.head? = some '/' → meant = rest.toList)) ∧
    ∀ text, text ≠ "~" → ¬['~', '/'] <+: text.toList → fromHome env text = text := by
  refine ⟨fun directory rest given => ?_, fun text => fromHome_of_no_tilde env⟩
  rw [fromHome_tilde given rest]
  refine ⟨?_, fun relative => ?_, joinPath_of_absolute⟩
  · rw [steps_unrooted]
    by_cases absolute : rest.toList.head? = some '/'
    · rw [joinPath_of_absolute absolute, steps_eq rest.toList, if_pos absolute, List.append_left_inj, eq_comm]
      simp only [absolute, ne_eq, not_true_eq_false, false_or]
    · exact iff_of_true (steps_joinPath absolute _) (.inl absolute)
  · rw [steps_of_relative relative]
    split
    · next empty => rw [empty, String.toList_empty, joinPath_nil]
    · next filled =>
      exact components_joinPath relative fun empty => filled (String.toList_inj.1 empty)

/-- Dots in front of and between the names, below a directory with a slash at its end; and a path of someone else. -/
theorem dots_below_home :
    let env : Environment := [("USERPROFILE", "./h/")]
    components (fromHome env "~/./a//../b/").toList = [.here, .name ['h'], .name ['a'], .up, .name ['b']] ∧
      steps (fromHome env "~/./a//../b/").toList = steps "./h/".toList ++ steps "./a//../b/".toList ∧
      fromHome env "~x/y" = "~x/y" := by
  intro env
  obtain ⟨below, other⟩ := tilde_leads_below_home env
  obtain ⟨leads, same, -⟩ := below "./h/" "./a//../b/" (by decide)
  refine ⟨(same (by decide)).trans (by decide), leads.2 (.inl (by decide)), ?_⟩
  exact other "~x/y" (by decide) (by decide)

/-- A slash behind that of the tilde leads away from home. -/
theorem second_slash_leads_away :
    let env : Environment := [("HOME", "/home/u")]
    homeOf env = some "/home/u" ∧ fromHome env ("~/" ++ "/etc/passwd") = "/etc/passwd" ∧
      components (fromHome env ("~/" ++ "/etc/passwd")).toList ≠
        components "/home/u".toList ++ components (unrooted "/etc/passwd".toList) := by
  decide

end CodeGate.Settings
