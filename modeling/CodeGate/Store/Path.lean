/-!
# Store paths

A path is a text of keys with slashes between them. Slashes at its ends and doubled ones say nothing:
what a path means is the row of its pieces that are not empty.

Follows `path_segments`, `user_record_path` and `progress_record_path`; section 4.2 of the specification.
-/

namespace CodeGate.Store

/-- The pieces of a text between its slashes; `piece` holds the characters of the current one in
reverse. -/
def splitSlashes (piece : List Char) : List Char → List (List Char)
  | [] => [piece.reverse]
  | c :: cs => if c = '/' then piece.reverse :: splitSlashes [] cs else splitSlashes (c :: piece) cs

/-- The keys on the way that a path describes. -/
def segments (path : String) : List String :=
  ((splitSlashes [] path.toList).filter (· ≠ [])).map String.ofList

/-- The path of the record that holds a user's linked accounts. -/
def userRecord (user : String) : String := "users/" ++ user

/-- The path of a user's saved progress. -/
def progressRecord (user : String) : String := "progress/" ++ user

end CodeGate.Store
